/-
# The walk with a stack is recursive preorder

There are two ways to walk down from a machine, both with a list of the machines that were marked:

    by recursion   `visitEach`   mark a machine, visit its children that are not marked, one after the other,
                                 and then what comes after the machine
    by a stack     `walk`        take a machine off the stack and drop it if it is marked; otherwise mark it and
                                 put its children that are not marked on the stack, the first of them on top

A machine may be on the stack several times, and is dropped when it is met again: whether it was visited is
decided when it is taken off.  By recursion that is decided when its turn comes, and what was marked on the way
down to one child is marked for the next.

Both are searches for the machines that were not visited yet, with the stack as what is pending.  A search of
`below ++ rest` is a search of `below` and then one of `rest` among what is left (`Search.preorder_append`), and
that is the recursive walk.  The walk with a stack fails on a stale handle; in a graph in order it meets none.
-/
import MeaningGraph.Proofs.Graph.Isomorphism

namespace MeaningGraph

namespace Graph

variable {g : Graph} {id root : MachineId} {marked stack : List MachineId}

/-! ## What is not visited yet -/

/-- The live machines that are not marked. -/
def unvisited (g : Graph) (marked : List MachineId) : List MachineId :=
  g.handles.filter fun id => id ∉ marked

theorem mem_unvisited_iff : id ∈ g.unvisited marked ↔ g.contains id = true ∧ id ∉ marked := by
  simp [unvisited, mem_handles_iff]

theorem nodup_unvisited : (g.unvisited marked).Nodup :=
  nodup_handles.filter _

theorem unvisited_nil (g : Graph) : g.unvisited [] = g.handles := by
  simp [unvisited]

theorem unvisited_append (g : Graph) (marked found : List MachineId) :
    g.unvisited (marked ++ found) = (g.unvisited marked).filter fun id => id ∉ found := by
  rw [unvisited, unvisited, List.filter_filter]
  refine List.filter_congr ?_
  intro id _
  rw [Bool.eq_iff_iff]
  simp [and_comm]

theorem erase_unvisited (g : Graph) (marked : List MachineId) (id : MachineId) :
    (g.unvisited marked).erase id = g.unvisited (marked ++ [id]) := by
  rw [unvisited_append, nodup_unvisited.erase_eq_filter]
  refine List.filter_congr ?_
  intro x _
  rw [Bool.eq_iff_iff]
  simp

/-- With every machine that is marked there are fewer left. -/
theorem length_unvisited_lt {found : List MachineId} (hlive : g.contains id = true) (hnew : id ∉ marked)
    (hfound : id ∈ found) : (g.unvisited (marked ++ found)).length < (g.unvisited marked).length := by
  rw [unvisited_append]
  exact List.length_filter_lt_length_iff_exists.2
    ⟨id, mem_unvisited_iff.2 ⟨hlive, hnew⟩, by simpa using hfound⟩

/-! ## Two walks -/

/-- Visits machines one after the other: one that is live and not marked is marked, and its children are
visited, partition by partition, before the machines that come after it.  The answer is what was marked, in
order. -/
def visitEach (g : Graph) (marked : List MachineId) : List MachineId → List MachineId
  | [] => []
  | id :: rest =>
    if _new : g.contains id = true ∧ id ∉ marked then
      let below := visitEach g (marked ++ [id]) (g.linksOf id)
      id :: below ++ visitEach g (marked ++ id :: below) rest
    else visitEach g marked rest
termination_by pending => ((g.unvisited marked).length, pending.length)
decreasing_by
  · exact Prod.Lex.left _ _ (length_unvisited_lt _new.1 _new.2 List.mem_cons_self)
  · exact Prod.Lex.left _ _ (length_unvisited_lt _new.1 _new.2 List.mem_cons_self)
  · exact Prod.Lex.right _ (by simp)

/-- Walks down with a stack, its top in front, and answers what was marked, in order.  A stale handle on the
stack that is not marked fails the walk. -/
def walk (g : Graph) (marked stack : List MachineId) : Except Error (List MachineId) :=
  match stack with
  | [] => return []
  | id :: rest =>
    if _seen : id ∈ marked then walk g marked rest
    else
      match _live : g.find? id with
      | none => throw (.stale id)
      | some m => do
        let order ← walk g (marked ++ [id]) ((m.links.filter fun c => c ∉ marked ++ [id]) ++ rest)
        return id :: order
termination_by ((g.unvisited marked).length, stack.length)
decreasing_by
  · exact Prod.Lex.right _ (by simp)
  · exact Prod.Lex.left _ _ (length_unvisited_lt (contains_of_find? _live) _seen List.mem_cons_self)

/-- The recursive walk is a search of the machines not visited yet. -/
theorem visitEach_eq_preorder (g : Graph) (marked pending : List MachineId) :
    g.visitEach marked pending = Search.preorder g.linksOf (g.unvisited marked) pending := by
  induction marked, pending using visitEach.induct g with
  | case1 marked => simp [visitEach]
  | case2 marked id rest hnew below ihbelow ihrest =>
    rw [visitEach, dif_pos hnew, Search.preorder_cons_of_mem (mem_unvisited_iff.2 hnew),
      Search.preorder_append (nodup_unvisited.erase id), erase_unvisited, ← ihbelow, ← unvisited_append,
      List.append_assoc, List.singleton_append, ← ihrest, List.cons_append]
  | case3 marked id rest hold ih =>
    rw [visitEach, dif_neg hold, Search.preorder_cons_of_not_mem (mt mem_unvisited_iff.1 hold), ih]

/-- In a graph in order the walk with a stack ends without an error, whatever live machines are on the stack,
and is a search of the machines not visited yet. -/
theorem Sound.walk_eq_preorder (h : g.Sound) (hstack : ∀ id ∈ stack, g.contains id = true) :
    g.walk marked stack = .ok (Search.preorder g.linksOf (g.unvisited marked) stack) := by
  induction marked, stack using walk.induct g with
  | case1 marked =>
    rw [walk, Search.preorder_nil]
    rfl
  | case2 marked id rest hseen ih =>
    have hnot : id ∉ g.unvisited marked := fun hmem => (mem_unvisited_iff.1 hmem).2 hseen
    rw [walk, dif_pos hseen, Search.preorder_cons_of_not_mem hnot,
      ih fun c hc => hstack c (List.mem_cons_of_mem _ hc)]
  | case3 marked id rest _ hstale =>
    have hlive := hstack id List.mem_cons_self
    rw [contains, hstale] at hlive
    cases hlive
  | case4 marked id rest hnew m hm ih =>
    have hmem : id ∈ g.unvisited marked := mem_unvisited_iff.2 ⟨contains_of_find? hm, hnew⟩
    have hlinks : g.linksOf id = m.links := by simp [linksOf, hm]
    have hbelow : ∀ c ∈ (m.links.filter fun c => c ∉ marked ++ [id]) ++ rest, g.contains c = true := by
      intro c hc
      rcases List.mem_append.1 hc with hc | hc
      · obtain ⟨i, hi⟩ := Machine.mem_links_iff.1 (List.mem_of_mem_filter hc)
        exact h.contains_child ⟨m, hm, hi⟩
      · exact hstack c (List.mem_cons_of_mem _ hc)
    -- what was marked before a child is put on the stack would be dropped when it is taken off
    have hfilter : Search.preorder g.linksOf (g.unvisited (marked ++ [id]))
        (m.links.filter fun c => c ∉ marked ++ [id]) =
          Search.preorder g.linksOf (g.unvisited (marked ++ [id])) m.links := by
      refine Search.preorder_filter nodup_unvisited ?_
      intro c hc
      exact decide_eq_true (mem_unvisited_iff.1 hc).2
    rw [walk, dif_neg hnew]
    split
    · rename_i hstale
      rw [hm] at hstale
      cases hstale
    · rename_i m' hm'
      rw [hm] at hm'
      cases hm'
      rw [ih hbelow, Search.preorder_cons_of_mem hmem, hlinks, erase_unvisited,
        Search.preorder_append nodup_unvisited, Search.preorder_append nodup_unvisited, hfilter]
      rfl

theorem descendants_eq_visitEach (g : Graph) (roots : List MachineId) :
    g.descendants roots = g.visitEach [] roots := by
  rw [visitEach_eq_preorder, unvisited_nil, descendants]

theorem tree_of_contains (hroot : g.contains root = true) : g.tree root = .ok (g.descendants [root]) := by
  obtain ⟨m, hm⟩ := contains_iff.1 hroot
  rw [tree, get_of_find? hm]
  rfl

theorem head?_descendants (hroot : g.contains root = true) : (g.descendants [root]).head? = some root := by
  rw [descendants, Search.preorder_cons_of_mem (mem_handles_iff.2 hroot)]
  rfl

end Graph

namespace Lexicon

/-- In every graph that can be reached, with cycles and shared machines, the walk down from a live machine ends
without an error, also when it is made with a stack and fails on stale handles.  Its order is the one of the
recursive walk, which marks a machine and then visits its children that are not marked, partition by partition
from left to right.  So it starts with the machine and lists everything below it, each machine once. -/
theorem tree_recursive {l : Lexicon} (hl : l.Reachable) {root : MachineId}
    (hroot : l.graph.contains root = true) :
    ∃ order, l.graph.tree root = .ok order ∧ l.graph.walk [] [root] = .ok order ∧
      order = l.graph.visitEach [] [root] ∧
      order.head? = some root ∧ order.Nodup ∧ ∀ id, id ∈ order ↔ l.graph.Below root id := by
  have hg : l.graph.Sound := hl.sound.graph
  have hstack : ∀ id ∈ [root], l.graph.contains id = true := by
    intro id hid
    rw [List.mem_singleton.1 hid]
    exact hroot
  refine ⟨l.graph.descendants [root], Graph.tree_of_contains hroot, ?_,
    Graph.descendants_eq_visitEach .., Graph.head?_descendants hroot,
    Search.nodup_preorder Graph.nodup_handles, fun id => hg.mem_descendants_iff hroot⟩
  rw [hg.walk_eq_preorder hstack, Graph.unvisited_nil]
  rfl

/-- A junction holds a track and a signal, the track holds the signal too, and the signal leads back: when the
walk takes the signal off the stack for the second time, it was visited below the track. -/
def junctionYard : Lexicon :=
  empty.replay [.create "junction" none, .create "signal" none, .create "track" none,
    .append ⟨0, 1⟩ ⟨2, 1⟩ 0, .append ⟨0, 1⟩ ⟨1, 1⟩ 1, .append ⟨2, 1⟩ ⟨1, 1⟩ 2, .append ⟨1, 1⟩ ⟨0, 1⟩ 0,
    .append ⟨0, 1⟩ ⟨0, 1⟩ 2]

theorem tree_recursive_junctionYard :
    junctionYard.Reachable ∧ junctionYard.graph.contains ⟨0, 1⟩ = true ∧
      junctionYard.graph.visitEach [] [⟨0, 1⟩] = [⟨0, 1⟩, ⟨2, 1⟩, ⟨1, 1⟩] ∧
      junctionYard.graph.tree ⟨0, 1⟩ = .ok [⟨0, 1⟩, ⟨2, 1⟩, ⟨1, 1⟩] := by
  have hreach : junctionYard.Reachable := ⟨_, rfl⟩
  have hlive : junctionYard.graph.contains ⟨0, 1⟩ = true := by decide
  have hvisit : junctionYard.graph.visitEach [] [⟨0, 1⟩] = [⟨0, 1⟩, ⟨2, 1⟩, ⟨1, 1⟩] := by cbv
  obtain ⟨order, htree, -, horder, -⟩ := tree_recursive hreach hlive
  refine ⟨hreach, hlive, hvisit, ?_⟩
  rw [htree, horder, hvisit]

end Lexicon

end MeaningGraph
