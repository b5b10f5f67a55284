import MeaningGraph.Graph.Outline
import MeaningGraph.Lexicon.Relation
import MeaningGraph.Rule.Construction
import MeaningGraph.Rule.Scripted
import MeaningGraph.NounPhrase
import MeaningGraph.Analysis
import MeaningGraph.Proofs.Graph.Links
import MeaningGraph.Proofs.Graph.Copy
import MeaningGraph.Proofs.Graph.Handles
import MeaningGraph.Proofs.Lexicon.Filed
import MeaningGraph.Proofs.Lexicon.Sound
import MeaningGraph.Proofs.Lexicon.History
import MeaningGraph.Proofs.Lexicon.Changes
import MeaningGraph.Proofs.Graph.Fold
import MeaningGraph.Proofs.Lexicon.Unify
import MeaningGraph.Proofs.Lexicon.Standing
import MeaningGraph.Proofs.Twin.Graph
import MeaningGraph.Proofs.Twin.Outcome
import MeaningGraph.Proofs.Twin.Lexicon
import MeaningGraph.Proofs.Twin.Expand
import MeaningGraph.Proofs.Rule.Acts
import MeaningGraph.Proofs.Twin.Rule
import MeaningGraph.Proofs.Twin.Acts
import MeaningGraph.Proofs.Twin.Pass
import MeaningGraph.Proofs.Twin.Chunk
import MeaningGraph.Proofs.Activation.Steps
import MeaningGraph.Proofs.Twin.Run
import MeaningGraph.Proofs.Lexicon.Clear
import MeaningGraph.Proofs.Analysis.Background
import MeaningGraph.Proofs.Analysis.Independence
import MeaningGraph.Proofs.Activation.Trace
import MeaningGraph.Proofs.Arrangement
import MeaningGraph.Proofs.Arrangement.Places
import MeaningGraph.Proofs.Activation.Settled
import MeaningGraph.Proofs.Lexicon.Growth
import MeaningGraph.Proofs.Activation.Saturation
import MeaningGraph.Proofs.Graph.Isomorphism
import MeaningGraph.Proofs.Acceptor
import MeaningGraph.Proofs.Rule.Hypercube
import MeaningGraph.Proofs.Rule.Linked
import MeaningGraph.Proofs.Rule.Linking
import MeaningGraph.Proofs.Rule.Spent
import MeaningGraph.Proofs.Lexicon.Ready
import MeaningGraph.Proofs.Activation.Success
import MeaningGraph.Proofs.Analysis.Success
import MeaningGraph.Proofs.KRCode.Grammar
import MeaningGraph.Proofs.KRCode.Expression
import MeaningGraph.Proofs.KRCode.Codec
import MeaningGraph.Proofs.Tag
import MeaningGraph.Proofs.Acceptor.History
import MeaningGraph.Proofs.Table
import MeaningGraph.Proofs.Transducer
import MeaningGraph.Proofs.Chunk
import MeaningGraph.Proofs.Lexicon.Flags
import MeaningGraph.Proofs.Lexicon.Views
import MeaningGraph.Proofs.Lexicon.Once
import MeaningGraph.Proofs.Activation.Bound
import MeaningGraph.Proofs.Graph.Connected
import MeaningGraph.Proofs.Lexicon.Survival
import MeaningGraph.Proofs.Activation.Rounds
import MeaningGraph.Proofs.Activation.Satisfaction
import MeaningGraph.Proofs.Lexicon.Entering
import MeaningGraph.Proofs.Activation.WorkingSet
import MeaningGraph.Proofs.Lexicon.Hypernyms
import MeaningGraph.Proofs.Lexicon.Registers
import MeaningGraph.Proofs.Lexicon.Expansion
import MeaningGraph.Proofs.Lexicon.Closure
import MeaningGraph.Proofs.Pattern
import MeaningGraph.Proofs.NounPhrase
import MeaningGraph.Proofs.Lexicon.Merging
import MeaningGraph.Proofs.Rule.Append
import MeaningGraph.Proofs.Rule.Trigger
import MeaningGraph.Proofs.Activation.Firing
import MeaningGraph.Proofs.Graph.Preorder
import MeaningGraph.Proofs.Graph.Retain
import MeaningGraph.Proofs.Graph.Mirror
import MeaningGraph.Proofs.Graph.Failures
import MeaningGraph.Proofs.Graph.Undirected
import MeaningGraph.Proofs.Lexicon.Relations
import MeaningGraph.Proofs.Transducer.Plain
import MeaningGraph.Proofs.Avm.Filling
import MeaningGraph.Proofs.Avm.DefaultRule
import MeaningGraph.Proofs.Graph.Algebra
import MeaningGraph.Proofs.Activation.Budget
import MeaningGraph.Proofs.Rule.Positive
import MeaningGraph.Proofs.Rule.Assignment
