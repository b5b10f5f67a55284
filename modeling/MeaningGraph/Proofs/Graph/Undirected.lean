/-
# Paths without a direction

Two machines touch when one of them holds the other.  An open path goes from machine to machine where they touch,
along links in the one direction and against them in the other, and has no blocked machine on it:

    root ──▶ x ◀── y ──▶ blocked          an open path leads from `root` to `y`
                   └───▶ z                and on to `z`, but not past the blocked machine

A machine knows its children by its partitions, and the machines that hold it by its back-links.  The walk
`connected` reads both; in a graph in order the two records agree, and so what it finds is what open paths lead to.
Touching has no direction, and neither has an open path: of two machines that are not blocked each is found from
the other, or neither is.

The same machines are found with a stack of machines to be looked at:

| on top of the stack | what `spread` does |
| :-- | :-- |
| a stale handle | drops it |
| a machine that was found before | drops it, as a machine may be on the stack several times |
| another machine | finds it, and puts its neighbours on the stack that are neither found nor blocked |

A blocked machine never comes onto the stack, so none has to be turned away when it is taken off.
-/
import MeaningGraph.Proofs.Graph.Connected
import MeaningGraph.Proofs.Graph.Preorder

namespace MeaningGraph

namespace Graph

variable {g : Graph} {a b id : MachineId} {roots blocked found stack : List MachineId}

/-! ## Open paths -/

/-- One of the machines holds the other. -/
def Touches (g : Graph) (a b : MachineId) : Prop :=
  ∃ i, g.Holds a i b ∨ g.Holds b i a

theorem Touches.symm (h : g.Touches a b) : g.Touches b a := by
  obtain ⟨i, hold⟩ := h
  exact ⟨i, hold.symm⟩

/-- A path of links, each followed in the one direction or the other, with no blocked machine on it. -/
def OpenPath (g : Graph) (blocked : List MachineId) (a b : MachineId) : Prop :=
  Relation.ReflTransGen (fun x y => g.Touches x y ∧ x ∉ blocked ∧ y ∉ blocked) a b

theorem OpenPath.symm (h : g.OpenPath blocked a b) : g.OpenPath blocked b a := by
  have hsymm : Std.Symm fun x y => g.Touches x y ∧ x ∉ blocked ∧ y ∉ blocked :=
    ⟨fun _ _ ⟨htouch, hx, hy⟩ => ⟨htouch.symm, hy, hx⟩⟩
  exact symm_of (Relation.ReflTransGen fun x y => g.Touches x y ∧ x ∉ blocked ∧ y ∉ blocked) h

theorem Sound.adjacent_iff (h : g.Sound) : g.Adjacent a b ↔ g.Touches a b := by
  refine exists_congr fun i => ?_
  rw [h.links.holds_iff b i a]

theorem Sound.pathAround_iff (h : g.Sound) (ha : a ∉ blocked) :
    g.PathAround blocked a b ↔ g.OpenPath blocked a b := by
  constructor
  · intro path
    have hopen : g.OpenPath blocked a b ∧ b ∉ blocked := by
      induction path with
      | refl => exact ⟨.refl, ha⟩
      | tail _ hstep ih => exact ⟨ih.1.tail ⟨h.adjacent_iff.1 hstep.1, ih.2, hstep.2⟩, hstep.2⟩
    exact hopen.1
  · intro path
    refine Relation.ReflTransGen.mono ?_ _ _ path
    rintro x y ⟨htouch, -, hy⟩
    exact ⟨h.adjacent_iff.2 htouch, hy⟩

theorem Sound.contains_of_openPath (h : g.Sound) (ha : g.contains a = true) (path : g.OpenPath blocked a b) :
    g.contains b = true := by
  induction path with
  | refl => exact ha
  | tail _ hstep _ =>
    obtain ⟨⟨i, hold | hold⟩, -⟩ := hstep
    · exact h.contains_child hold
    · exact hold.contains

theorem Sound.contains_iff_of_openPath (h : g.Sound) (path : g.OpenPath blocked a b) :
    g.contains a = true ↔ g.contains b = true :=
  ⟨fun ha => h.contains_of_openPath ha path, fun hb => h.contains_of_openPath hb path.symm⟩

theorem Sound.mem_connected_iff_openPath (h : g.Sound) :
    id ∈ g.connected roots blocked ↔
      g.contains id = true ∧
        ∃ root ∈ roots, g.contains root = true ∧ root ∉ blocked ∧ g.OpenPath blocked root id := by
  rw [mem_connected_iff]
  constructor
  · rintro ⟨hlive, root, hroot, hopen, path⟩
    have path := (h.pathAround_iff hopen).1 path
    exact ⟨hlive, root, hroot, (h.contains_iff_of_openPath path).2 hlive, hopen, path⟩
  · rintro ⟨hlive, root, hroot, -, hopen, path⟩
    exact ⟨hlive, root, hroot, hopen, (h.pathAround_iff hopen).2 path⟩

/-- From one live root that is not blocked, the walk finds what an open path leads to. -/
theorem Sound.mem_connected_singleton_iff (h : g.Sound) (ha : g.contains a = true) (hopen : a ∉ blocked) :
    b ∈ g.connected [a] blocked ↔ g.OpenPath blocked a b := by
  rw [h.mem_connected_iff_openPath]
  constructor
  · rintro ⟨-, root, hroot, -, -, path⟩
    rwa [List.mem_singleton.1 hroot] at path
  · intro path
    exact ⟨h.contains_of_openPath ha path, a, List.mem_singleton_self a, ha, hopen, path⟩

/-! ## The search with a stack -/

/-- Looks at the machines on the stack, its top in front, until none is left, and answers what was found. -/
def spread (g : Graph) (blocked found stack : List MachineId) : List MachineId :=
  match stack with
  | [] => found
  | id :: rest =>
    match _live : g.find? id with
    | none => spread g blocked found rest
    | some m =>
      if _seen : id ∈ found then spread g blocked found rest
      else
        let around := (m.links ++ m.parentIds).filter fun n => n ∉ found ++ [id] ∧ n ∉ blocked
        spread g blocked (found ++ [id]) (around.reverse ++ rest)
termination_by ((g.unvisited found).length, stack.length)
decreasing_by
  · exact Prod.Lex.right _ (by simp)
  · exact Prod.Lex.right _ (by simp)
  · exact Prod.Lex.left _ _ (length_unvisited_lt (contains_of_find? _live) _seen (List.mem_singleton_self id))

/-- The search with a stack is a depth-first search, which takes the neighbours of a machine from the last to the
first. -/
theorem spread_eq_preorder (hstack : ∀ id ∈ stack, id ∉ blocked) :
    g.spread blocked found stack =
      found ++ Search.preorder (fun id => (g.neighbours id).reverse) (g.unvisited (blocked ++ found)) stack := by
  induction found, stack using spread.induct g blocked with
  | case1 found => rw [spread, Search.preorder_nil, List.append_nil]
  | case2 found id rest hstale ih =>
    have hnot : id ∉ g.unvisited (blocked ++ found) := by
      intro hmem
      have hlive := (mem_unvisited_iff.1 hmem).1
      rw [contains, hstale] at hlive
      cases hlive
    rw [spread, Search.preorder_cons_of_not_mem hnot, ← ih fun c hc => hstack c (List.mem_cons_of_mem _ hc)]
    split
    · rfl
    · rename_i m hm
      rw [hstale] at hm
      cases hm
  | case3 found id rest m hm hseen ih =>
    have hnot : id ∉ g.unvisited (blocked ++ found) := fun hmem =>
      (mem_unvisited_iff.1 hmem).2 (List.mem_append_right _ hseen)
    rw [spread, Search.preorder_cons_of_not_mem hnot, ← ih fun c hc => hstack c (List.mem_cons_of_mem _ hc)]
    split
    · rfl
    · rw [dif_pos hseen]
  | case4 found id rest m hm hnew around ih =>
    have hmem : id ∈ g.unvisited (blocked ++ found) := by
      refine mem_unvisited_iff.2 ⟨contains_of_find? hm, fun hold => ?_⟩
      rcases List.mem_append.1 hold with hold | hold
      · exact hstack id List.mem_cons_self hold
      · exact hnew hold
    have hneighbours : g.neighbours id = m.links ++ m.parentIds := by simp [neighbours, hm]
    have haround : ∀ c ∈ around.reverse ++ rest, c ∉ blocked := by
      intro c hc
      rcases List.mem_append.1 hc with hc | hc
      · exact (of_decide_eq_true (List.mem_filter.1 (List.mem_reverse.1 hc)).2).2
      · exact hstack c (List.mem_cons_of_mem _ hc)
    -- a neighbour that is not put on the stack would be dropped when it is taken off
    have hfilter : Search.preorder (fun id => (g.neighbours id).reverse)
        (g.unvisited (blocked ++ (found ++ [id]))) around.reverse =
          Search.preorder (fun id => (g.neighbours id).reverse)
            (g.unvisited (blocked ++ (found ++ [id]))) (g.neighbours id).reverse := by
      rw [← List.filter_reverse, hneighbours]
      refine Search.preorder_filter nodup_unvisited fun c hc => ?_
      have hnot := (mem_unvisited_iff.1 hc).2
      exact decide_eq_true ⟨fun hold => hnot (List.mem_append_right _ hold),
        fun hold => hnot (List.mem_append_left _ hold)⟩
    rw [spread]
    split
    · rename_i hstale
      rw [hm] at hstale
      cases hstale
    · rename_i m' hm'
      rw [hm] at hm'
      cases hm'
      rw [dif_neg hnew, ih haround, Search.preorder_cons_of_mem hmem, erase_unvisited, List.append_assoc,
        List.append_assoc, Search.preorder_append nodup_unvisited, Search.preorder_append nodup_unvisited,
        hfilter]
      rfl

theorem mem_spread_iff :
    id ∈ g.spread blocked [] (roots.filter fun root => root ∉ blocked).reverse ↔
      id ∈ g.connected roots blocked := by
  have hstack : ∀ id ∈ (roots.filter fun root => root ∉ blocked).reverse, id ∉ blocked := by
    intro id hid
    exact of_decide_eq_true (List.mem_filter.1 (List.mem_reverse.1 hid)).2
  rw [spread_eq_preorder hstack, List.nil_append, List.append_nil]
  refine Search.mem_preorder_congr (fun a b => List.mem_reverse) fun a ha => ?_
  rw [List.mem_reverse, List.mem_filter]
  exact and_iff_left (decide_eq_true (mem_unvisited_iff.1 ha).2)

theorem nodup_connected : (g.connected roots blocked).Nodup :=
  Search.nodup_preorder (nodup_handles.filter _)

end Graph

namespace Lexicon

/-- In every graph that can be reached, with whatever handles among the roots and the blocked ones, the walk finds
exactly the live machines to which a path leads from a live root that is not blocked, along links followed in
either direction and past no blocked machine; and it finds each once.  A search that takes machines off a stack,
and keeps blocked ones from coming onto it, ends as well and finds the same.  So of two live machines that are
not blocked, the one is found from the other exactly when the other is found from the one. -/
theorem connected_undirected {l : Lexicon} (hl : l.Reachable) (roots blocked : List MachineId) :
    (∀ id, id ∈ l.graph.connected roots blocked ↔
      l.graph.contains id = true ∧ ∃ root ∈ roots,
        l.graph.contains root = true ∧ root ∉ blocked ∧ l.graph.OpenPath blocked root id) ∧
    (l.graph.connected roots blocked).Nodup ∧
    (∀ id, id ∈ l.graph.spread blocked [] (roots.filter fun root => root ∉ blocked).reverse ↔
      id ∈ l.graph.connected roots blocked) ∧
    ∀ a b, l.graph.contains a = true → a ∉ blocked → l.graph.contains b = true → b ∉ blocked →
      (b ∈ l.graph.connected [a] blocked ↔ a ∈ l.graph.connected [b] blocked) := by
  have hg : l.graph.Sound := hl.sound.graph
  refine ⟨fun _ => hg.mem_connected_iff_openPath, Graph.nodup_connected, fun _ => Graph.mem_spread_iff, ?_⟩
  intro a b ha haopen hb hbopen
  rw [hg.mem_connected_singleton_iff ha haopen, hg.mem_connected_singleton_iff hb hbopen]
  exact ⟨Graph.OpenPath.symm, Graph.OpenPath.symm⟩

/-- A train holds its track and its driver; behind the signal on the track there is a depot. -/
def turnout : Lexicon :=
  empty.replay [.create "track" none, .create "train" none, .create "driver" none, .create "signal" none,
    .create "depot" none, .append ⟨1, 1⟩ ⟨0, 1⟩ 1, .append ⟨1, 1⟩ ⟨2, 1⟩ 2, .append ⟨0, 1⟩ ⟨3, 1⟩ 0,
    .append ⟨3, 1⟩ ⟨4, 1⟩ 0]

/-- The way from the track to the driver goes against a link and then along one; the signal bars the way to the
depot.  A stale handle stands among the roots and among the blocked machines. -/
theorem connected_undirected_turnout :
    turnout.Reachable ∧ turnout.graph.contains ⟨5, 2⟩ = false ∧
      turnout.graph.contains ⟨0, 1⟩ = true ∧ (⟨0, 1⟩ : MachineId) ∉ [(⟨3, 1⟩ : MachineId), ⟨5, 2⟩] ∧
      turnout.graph.contains ⟨2, 1⟩ = true ∧ (⟨2, 1⟩ : MachineId) ∉ [(⟨3, 1⟩ : MachineId), ⟨5, 2⟩] ∧
      turnout.graph.connected [⟨5, 2⟩, ⟨0, 1⟩] [⟨3, 1⟩, ⟨5, 2⟩] = [⟨0, 1⟩, ⟨1, 1⟩, ⟨2, 1⟩] ∧
      ⟨0, 1⟩ ∈ turnout.graph.connected [⟨2, 1⟩] [⟨3, 1⟩, ⟨5, 2⟩] ∧
      ¬turnout.graph.OpenPath [⟨3, 1⟩, ⟨5, 2⟩] ⟨0, 1⟩ ⟨4, 1⟩ := by
  have hreach : turnout.Reachable := ⟨_, rfl⟩
  have htrack : turnout.graph.contains ⟨0, 1⟩ = true := by decide
  have hdriver : turnout.graph.contains ⟨2, 1⟩ = true := by decide
  have hdepot : turnout.graph.contains ⟨4, 1⟩ = true := by decide
  have hfound : turnout.graph.connected [⟨5, 2⟩, ⟨0, 1⟩] [⟨3, 1⟩, ⟨5, 2⟩] = [⟨0, 1⟩, ⟨1, 1⟩, ⟨2, 1⟩] := by cbv
  have hfrom : turnout.graph.connected [⟨0, 1⟩] [⟨3, 1⟩, ⟨5, 2⟩] = [⟨0, 1⟩, ⟨1, 1⟩, ⟨2, 1⟩] := by cbv
  obtain ⟨hpaths, -, -, hsymm⟩ := connected_undirected hreach [⟨5, 2⟩, ⟨0, 1⟩] [⟨3, 1⟩, ⟨5, 2⟩]
  refine ⟨hreach, by decide, htrack, by decide, hdriver, by decide, hfound, ?_, ?_⟩
  · refine (hsymm ⟨0, 1⟩ ⟨2, 1⟩ htrack (by decide) hdriver (by decide)).1 ?_
    rw [hfrom]
    decide
  · intro path
    have hmem := (hpaths ⟨4, 1⟩).2 ⟨hdepot, ⟨0, 1⟩, by decide, htrack, by decide, path⟩
    rw [hfound] at hmem
    exact absurd hmem (by decide)

end Lexicon

end MeaningGraph
