/-
The outline of a machine, a text for reading.

    train[0: the, vehicle[0: thing]; 2: @train]

A machine that was written before, on the way down or elsewhere, is written `@name`; a stale handle is
written `<stale>`.
-/
import MeaningGraph.Graph.Walk

namespace MeaningGraph.Graph

/-- Runs `f` along a list, handing the state from item to item. -/
def threaded {α β σ : Type} (f : σ → α → β × σ) : σ → List α → List β × σ
  | s, [] => ([], s)
  | s, a :: as =>
    let (b, s) := f s a
    let (bs, s) := threaded f s as
    (b :: bs, s)

/-- The partitions that hold something, with their numbers. -/
def filledParts (m : Machine) : List (Nat × List MachineId) :=
  (m.parts.zipIdx.map fun (part, p) => (p, part)).filter fun entry => !entry.2.isEmpty

/-- Writes a machine and what is below it, at most `depth` levels deep; `seen` are the machines
written so far. -/
def outlineFrom (g : Graph) : Nat → List MachineId → MachineId → String × List MachineId
  | depth, seen, id =>
    match g.find? id with
    | none => ("<stale>", seen)
    | some m =>
      if id ∈ seen then ("@" ++ m.name, seen)
      else
        match depth, filledParts m with
        | 0, _ => (m.name, id :: seen)
        | _, [] => (m.name, id :: seen)
        | depth + 1, parts =>
          let writePart (seen : List MachineId) (entry : Nat × List MachineId) :=
            let (texts, seen) := threaded (outlineFrom g depth) seen entry.2
            (toString entry.1 ++ ": " ++ ", ".intercalate texts, seen)
          let (texts, seen) := threaded writePart (id :: seen) parts
          (m.name ++ "[" ++ "; ".intercalate texts ++ "]", seen)

/-- The outline of a machine, at most `depth` levels deep. -/
def outline (g : Graph) (id : MachineId) (depth : Nat) : String :=
  (g.outlineFrom depth [] id).1

end MeaningGraph.Graph
