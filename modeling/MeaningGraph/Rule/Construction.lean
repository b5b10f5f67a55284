/-
The constructions: every kind of rule that the library offers.
-/
import MeaningGraph.Rule.Append
import MeaningGraph.Rule.Verb
import MeaningGraph.Rule.Trigger
import MeaningGraph.Rule.Avm

namespace MeaningGraph

/-- A rule of one of the four kinds. -/
inductive Construction where
  | append (r : AppendRule)
  | verb (r : VerbRule)
  | trigger (r : TriggerRule)
  | avm (r : AvmRule)
deriving Repr

namespace Construction

open Rule in
instance : Rule Construction where
  name
    | .append r => name r
    | .verb r => name r
    | .trigger r => name r
    | .avm r => name r
  kind
    | .append r => kind r
    | .verb r => kind r
    | .trigger r => kind r
    | .avm r => kind r
  check g seq := fun c =>
    match c with
    | .append r => onPart .append (check g seq) r
    | .verb r => onPart .verb (check g seq) r
    | .trigger r => onPart .trigger (check g seq) r
    | .avm r => onPart .avm (check g seq) r
  refused?
    | .append r => refused? r
    | .verb r => refused? r
    | .trigger r => refused? r
    | .avm r => refused? r
  lastCheck
    | .append r => lastCheck r
    | .verb r => lastCheck r
    | .trigger r => lastCheck r
    | .avm r => lastCheck r
  act seq := fun (c, l) =>
    match c with
    | .append r => onPart (fun s : AppendRule × Lexicon => (.append s.1, s.2)) (act seq) (r, l)
    | .verb r => onPart (fun s : VerbRule × Lexicon => (.verb s.1, s.2)) (act seq) (r, l)
    | .trigger r => onPart (fun s : TriggerRule × Lexicon => (.trigger s.1, s.2)) (act seq) (r, l)
    | .avm r => onPart (fun s : AvmRule × Lexicon => (.avm s.1, s.2)) (act seq) (r, l)
  filledSlots
    | .append r => filledSlots r
    | .verb r => filledSlots r
    | .trigger r => filledSlots r
    | .avm r => filledSlots r
  message?
    | .append r => message? r
    | .verb r => message? r
    | .trigger r => message? r
    | .avm r => message? r
  reset
    | .append r => .append (reset r)
    | .verb r => .verb (reset r)
    | .trigger r => .trigger (reset r)
    | .avm r => .avm (reset r)

end Construction

end MeaningGraph
