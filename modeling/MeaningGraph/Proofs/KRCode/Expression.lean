/-
# Expressions with groups

    set p        one character of the class `p`
    seq e f      `e` and then `f`
    opt e        `e`, rather than nothing
    many e       `e` in any number of rounds; as many as can be if it is greedy, as few as can be if not
    group i e    `e`, and what it takes is remembered as group `i`

An expression may match at the beginning of a text in several ways.  `ways` lists them in the order in which
backtracking comes upon them, so the first is the one that is preferred: of two ways through a sequence the one
whose first part is preferred, and only then the one whose second part is.

What can be taken, and by which groups, has to do neither with that order nor with the text behind.  `Takes` says
it without them, and the ways are those and no others (`mem_ways_iff`).  So where there is but one way, the
first one is known without following the search.
-/
namespace MeaningGraph

/-- An expression over characters, with numbered groups. -/
inductive Expression where
  | set (p : Char → Bool)
  | seq (e f : Expression)
  | opt (e : Expression)
  | many (greedy : Bool) (e : Expression)
  | group (i : Nat) (e : Expression)

/-- A way to match at the beginning of a text: what is taken, what each group takes, and what is left. -/
structure Way where
  taken : List Char
  groups : List (Nat × List Char)
  rest : List Char

namespace Way

/-- Taking nothing. -/
def nothing (cs : List Char) : Way :=
  ⟨[], [], cs⟩

/-- One way and then another, which goes on with what the first has left. -/
def andThen (w v : Way) : Way :=
  ⟨w.taken ++ v.taken, w.groups ++ v.groups, v.rest⟩

/-- What the group took the last time, if it took part. -/
def group? (w : Way) (i : Nat) : Option (List Char) :=
  (w.groups.reverse.find? (·.1 = i)).map (·.2)

end Way

namespace Expression

def char (c : Char) : Expression :=
  .set (· == c)

def atLeastOnce (greedy : Bool) (e : Expression) : Expression :=
  .seq e (.many greedy e)

/-! ## Matching -/

/-- The ways to go through a number of rounds, up to the given one.  A round takes something. -/
def rounds (one : List Char → List Way) (greedy : Bool) : Nat → List Char → List Way
  | 0, cs => [.nothing cs]
  | n + 1, cs =>
    let further := ((one cs).filter fun w => !w.taken.isEmpty).flatMap fun w =>
      (rounds one greedy n w.rest).map w.andThen
    if greedy then further ++ [.nothing cs] else .nothing cs :: further

/-- The ways to match at the beginning of a text, the preferred one first. -/
def ways : Expression → List Char → List Way
  | .set _, [] => []
  | .set p, c :: cs => if p c then [⟨[c], [], cs⟩] else []
  | .seq e f, cs => (e.ways cs).flatMap fun w => (f.ways w.rest).map w.andThen
  | .opt e, cs => e.ways cs ++ [.nothing cs]
  -- every round takes a character, so there are no more of them than characters
  | .many greedy e, cs => rounds e.ways greedy cs.length cs
  | .group i e, cs => (e.ways cs).map fun w => { w with groups := w.groups ++ [(i, w.taken)] }

/-- The preferred one of the ways to take the whole text. -/
def matchWhole? (e : Expression) (cs : List Char) : Option Way :=
  (e.ways cs).find? (·.rest.isEmpty)

/-- The preferred way to match at the first place where there is one. -/
def find? (e : Expression) : List Char → Option Way
  | [] => (e.ways []).head?
  | c :: cs =>
    match (e.ways (c :: cs)).head? with
    | some w => some w
    | none => e.find? cs

/-- The matches from left to right, each of them found in what the one before has left; the search ends where
none is found, or one that leaves all of the text. -/
def findAll (e : Expression) (cs : List Char) : List Way :=
  match e.find? cs with
  | none => []
  | some w => w :: if w.rest.length < cs.length then e.findAll w.rest else []
termination_by cs.length

/-! ## What can be taken -/

/-- The expression can take the text, and its groups take these parts of it. -/
inductive Takes : Expression → List Char → List (Nat × List Char) → Prop
  | set {p : Char → Bool} {c : Char} : p c = true → Takes (.set p) [c] []
  | seq {e f : Expression} {s t : List Char} {gs hs : List (Nat × List Char)} :
      Takes e s gs → Takes f t hs → Takes (.seq e f) (s ++ t) (gs ++ hs)
  | without {e : Expression} : Takes (.opt e) [] []
  | opt {e : Expression} {s : List Char} {gs : List (Nat × List Char)} : Takes e s gs → Takes (.opt e) s gs
  | stop {greedy : Bool} {e : Expression} : Takes (.many greedy e) [] []
  | round {greedy : Bool} {e : Expression} {s t : List Char} {gs hs : List (Nat × List Char)} :
      s ≠ [] → Takes e s gs → Takes (.many greedy e) t hs → Takes (.many greedy e) (s ++ t) (gs ++ hs)
  | group {i : Nat} {e : Expression} {s : List Char} {gs : List (Nat × List Char)} :
      Takes e s gs → Takes (.group i e) s (gs ++ [(i, s)])

variable {e f : Expression} {greedy : Bool} {p : Char → Bool} {cs s t rest : List Char}
  {gs : List (Nat × List Char)} {w : Way} {i n : Nat}

theorem takes_set_iff : Takes (.set p) t gs ↔ gs = [] ∧ ∃ c, p c = true ∧ t = [c] := by
  constructor
  · intro h
    cases h with
    | set hc => exact ⟨rfl, _, hc, rfl⟩
  · rintro ⟨rfl, c, hc, rfl⟩
    exact .set hc

theorem takes_char_iff {c : Char} : Takes (char c) t gs ↔ gs = [] ∧ t = [c] := by
  simp [char, takes_set_iff]

theorem takes_seq_iff :
    Takes (.seq e f) t gs ↔
      ∃ s u hs is, Takes e s hs ∧ Takes f u is ∧ t = s ++ u ∧ gs = hs ++ is := by
  constructor
  · intro h
    cases h with
    | seq he hf => exact ⟨_, _, _, _, he, hf, rfl, rfl⟩
  · rintro ⟨s, u, hs, is, he, hf, rfl, rfl⟩
    exact .seq he hf

theorem takes_opt_iff : Takes (.opt e) t gs ↔ Takes e t gs ∨ t = [] ∧ gs = [] := by
  constructor
  · intro h
    cases h with
    | without => exact .inr ⟨rfl, rfl⟩
    | opt he => exact .inl he
  · rintro (he | ⟨rfl, rfl⟩)
    · exact .opt he
    · exact .without

theorem takes_group_iff : Takes (.group i e) t gs ↔ ∃ hs, Takes e t hs ∧ gs = hs ++ [(i, t)] := by
  constructor
  · intro h
    cases h with
    | group he => exact ⟨_, he, rfl⟩
  · rintro ⟨hs, he, rfl⟩
    exact .group he

theorem takes_many_iff :
    Takes (.many greedy e) t gs ↔ t = [] ∧ gs = [] ∨
      ∃ s u hs is, s ≠ [] ∧ Takes e s hs ∧ Takes (.many greedy e) u is ∧ t = s ++ u ∧ gs = hs ++ is := by
  constructor
  · intro h
    cases h with
    | stop => exact .inl ⟨rfl, rfl⟩
    | round hne he hmany => exact .inr ⟨_, _, _, _, hne, he, hmany, rfl, rfl⟩
  · rintro (⟨rfl, rfl⟩ | ⟨s, u, hs, is, hne, he, hmany, rfl, rfl⟩)
    · exact .stop
    · exact .round hne he hmany

theorem Takes.rounds_induction {motive : List Char → List (Nat × List Char) → Prop}
    (h : Takes (.many greedy e) t gs) (stop : motive [] [])
    (round : ∀ s u hs is, Takes e s hs → motive u is → motive (s ++ u) (hs ++ is)) : motive t gs := by
  generalize hmany : Expression.many greedy e = m at h
  induction h with
  | stop => exact stop
  | round _ hone _ _ ih =>
    cases hmany
    exact round _ _ _ _ hone (ih rfl)
  | set | seq | without | opt | group => cases hmany

/-- A repeated class takes the texts over it; that some of them are preferred does not show. -/
theorem takes_many_set_iff : Takes (.many greedy (.set p)) t gs ↔ gs = [] ∧ ∀ c ∈ t, p c = true := by
  constructor
  · intro h
    refine h.rounds_induction (motive := fun t gs => gs = [] ∧ ∀ c ∈ t, p c = true)
      ⟨rfl, fun _ hc => absurd hc List.not_mem_nil⟩ ?_
    rintro s u hs is hone ⟨rfl, hall⟩
    obtain ⟨rfl, c, hc, rfl⟩ := takes_set_iff.1 hone
    exact ⟨rfl, List.forall_mem_cons.2 ⟨hc, hall⟩⟩
  · rintro ⟨rfl, hall⟩
    induction t with
    | nil => exact .stop
    | cons c t ih =>
      obtain ⟨hc, ht⟩ := List.forall_mem_cons.1 hall
      exact .round (List.cons_ne_nil c []) (.set hc) (ih ht)

theorem takes_atLeastOnce_set_iff :
    Takes (atLeastOnce greedy (.set p)) t gs ↔ gs = [] ∧ t ≠ [] ∧ ∀ c ∈ t, p c = true := by
  rw [atLeastOnce, takes_seq_iff]
  constructor
  · rintro ⟨s, u, hs, is, hone, hmany, rfl, rfl⟩
    obtain ⟨rfl, c, hc, rfl⟩ := takes_set_iff.1 hone
    obtain ⟨rfl, hall⟩ := takes_many_set_iff.1 hmany
    exact ⟨rfl, List.cons_ne_nil c u, List.forall_mem_cons.2 ⟨hc, hall⟩⟩
  · rintro ⟨rfl, hne, hall⟩
    cases t with
    | nil => exact absurd rfl hne
    | cons c t =>
      obtain ⟨hc, ht⟩ := List.forall_mem_cons.1 hall
      exact ⟨[c], t, [], [], .set hc, takes_many_set_iff.2 ⟨rfl, ht⟩, rfl, rfl⟩

/-! ## The ways are those -/

theorem mem_seq_iff {x : List Way} {f : List Char → List Way} :
    (w ∈ x.flatMap fun u => (f u.rest).map u.andThen) ↔ ∃ u ∈ x, ∃ v ∈ f u.rest, w = u.andThen v := by
  simp [List.mem_flatMap, List.mem_map, eq_comm]

theorem mem_rounds_succ {one : List Char → List Way} :
    w ∈ rounds one greedy (n + 1) cs ↔ w = .nothing cs ∨
      ∃ u ∈ one cs, u.taken ≠ [] ∧ ∃ v ∈ rounds one greedy n u.rest, w = u.andThen v := by
  have hfurther : (w ∈ ((one cs).filter fun u => !u.taken.isEmpty).flatMap fun u =>
      (rounds one greedy n u.rest).map u.andThen) ↔
      ∃ u ∈ one cs, u.taken ≠ [] ∧ ∃ v ∈ rounds one greedy n u.rest, w = u.andThen v := by
    rw [mem_seq_iff]
    simp [List.mem_filter, and_assoc]
  rw [← hfurther]
  cases greedy with
  | true => simp [rounds, or_comm]
  | false => simp [rounds]

/-- The induction is on the rounds that are left, and each of them makes the text shorter. -/
theorem mem_rounds_iff (hone : ∀ cs w, w ∈ e.ways cs ↔ cs = w.taken ++ w.rest ∧ Takes e w.taken w.groups)
    (hn : cs.length ≤ n) :
    w ∈ rounds e.ways greedy n cs ↔ cs = w.taken ++ w.rest ∧ Takes (.many greedy e) w.taken w.groups := by
  induction n generalizing cs w with
  | zero =>
    obtain rfl : cs = [] := List.eq_nil_of_length_eq_zero (Nat.le_zero.1 hn)
    rw [rounds, List.mem_singleton, takes_many_iff]
    constructor
    · rintro rfl
      exact ⟨rfl, .inl ⟨rfl, rfl⟩⟩
    · obtain ⟨taken, groups, rest⟩ := w
      rintro ⟨hcs, htakes⟩
      obtain ⟨rfl, rfl⟩ := List.append_eq_nil_iff.1 hcs.symm
      rcases htakes with ⟨-, rfl⟩ | ⟨s, u, hs, is, hne, -, -, htaken, -⟩
      · rfl
      · exact absurd (List.append_eq_nil_iff.1 htaken.symm).1 hne
  | succ n ih =>
    have hshort : ∀ s r : List Char, s ≠ [] → (s ++ r).length ≤ n + 1 → r.length ≤ n := by
      intro s r hne hlen
      have hpos := List.length_pos_iff.2 hne
      rw [List.length_append] at hlen
      omega
    rw [mem_rounds_succ, takes_many_iff]
    constructor
    · rintro (rfl | ⟨u, hu, hne, v, hv, rfl⟩)
      · exact ⟨rfl, .inl ⟨rfl, rfl⟩⟩
      · obtain ⟨rfl, hutakes⟩ := (hone cs u).1 hu
        obtain ⟨hrest, hvtakes⟩ := (ih (hshort _ _ hne hn)).1 hv
        refine ⟨?_, .inr ⟨_, _, _, _, hne, hutakes, hvtakes, rfl, rfl⟩⟩
        rw [hrest]
        exact (List.append_assoc ..).symm
    · obtain ⟨taken, groups, rest⟩ := w
      rintro ⟨rfl, ⟨rfl, rfl⟩ | ⟨s, u, hs, is, hne, hstakes, hutakes, rfl, rfl⟩⟩
      · exact .inl rfl
      · have hassoc : s ++ u ++ rest = s ++ (u ++ rest) := List.append_assoc ..
        refine .inr ⟨⟨s, hs, u ++ rest⟩, (hone _ _).2 ⟨hassoc, hstakes⟩, hne, ⟨u, is, rest⟩, ?_, rfl⟩
        exact (ih (hshort s _ hne (hassoc ▸ hn))).2 ⟨rfl, hutakes⟩

/-- The induction is on the expression; where parts follow each other, the second takes from what the first has
left. -/
theorem mem_ways_iff : w ∈ e.ways cs ↔ cs = w.taken ++ w.rest ∧ Takes e w.taken w.groups := by
  induction e generalizing cs w with
  | set p =>
    obtain ⟨taken, groups, rest⟩ := w
    rw [takes_set_iff]
    constructor
    · intro hw
      cases cs with
      | nil => cases hw
      | cons c cs =>
        rw [ways, List.mem_ite_nil_right, List.mem_singleton, Way.mk.injEq] at hw
        obtain ⟨hc, rfl, rfl, rfl⟩ := hw
        exact ⟨rfl, rfl, c, hc, rfl⟩
    · rintro ⟨rfl, rfl, c, hc, rfl⟩
      show _ ∈ ways (.set p) (c :: rest)
      rw [ways, if_pos hc]
      exact List.mem_singleton_self _
  | seq e f ihe ihf =>
    rw [ways, mem_seq_iff, takes_seq_iff]
    constructor
    · rintro ⟨u, hu, v, hv, rfl⟩
      obtain ⟨rfl, hutakes⟩ := ihe.1 hu
      obtain ⟨hrest, hvtakes⟩ := ihf.1 hv
      refine ⟨?_, _, _, _, _, hutakes, hvtakes, rfl, rfl⟩
      rw [hrest]
      exact (List.append_assoc ..).symm
    · obtain ⟨taken, groups, rest⟩ := w
      rintro ⟨rfl, s, u, hs, is, hstakes, hutakes, rfl, rfl⟩
      refine ⟨⟨s, hs, u ++ rest⟩, ihe.2 ⟨List.append_assoc .., hstakes⟩, ⟨u, is, rest⟩, ?_, rfl⟩
      exact ihf.2 ⟨rfl, hutakes⟩
  | opt e ih =>
    rw [ways, List.mem_append, List.mem_singleton, ih, takes_opt_iff]
    constructor
    · rintro (⟨rfl, htakes⟩ | rfl)
      · exact ⟨rfl, .inl htakes⟩
      · exact ⟨rfl, .inr ⟨rfl, rfl⟩⟩
    · obtain ⟨taken, groups, rest⟩ := w
      rintro ⟨rfl, htakes | ⟨rfl, rfl⟩⟩
      · exact .inl ⟨rfl, htakes⟩
      · exact .inr rfl
  | many greedy e ih => exact mem_rounds_iff (fun _ _ => ih) (Nat.le_refl _)
  | group i e ih =>
    rw [ways, List.mem_map, takes_group_iff]
    constructor
    · rintro ⟨u, hu, rfl⟩
      obtain ⟨rfl, htakes⟩ := ih.1 hu
      exact ⟨rfl, _, htakes, rfl⟩
    · obtain ⟨taken, groups, rest⟩ := w
      rintro ⟨rfl, hs, htakes, hgroups⟩
      obtain rfl : groups = hs ++ [(i, taken)] := hgroups
      exact ⟨⟨taken, hs, rest⟩, ih.2 ⟨rfl, htakes⟩, rfl⟩

/-! ## Searching -/

theorem takes_of_matchWhole? (h : e.matchWhole? cs = some w) : Takes e cs w.groups := by
  obtain ⟨hcs, htakes⟩ := mem_ways_iff.1 (List.mem_of_find?_eq_some h)
  have hrest : w.rest = [] := by simpa using List.find?_some h
  rw [hcs, hrest, List.append_nil]
  exact htakes

theorem exists_matchWhole? (h : Takes e cs gs) : ∃ w, e.matchWhole? cs = some w := by
  refine Option.isSome_iff_exists.1 (List.find?_isSome.2 ⟨⟨cs, gs, []⟩, ?_, rfl⟩)
  exact mem_ways_iff.2 ⟨(List.append_nil cs).symm, h⟩

/-- What can be taken at the beginning of a text is found there, and nowhere further on. -/
theorem exists_find? (h : Takes e t gs) (rest : List Char) :
    ∃ w, e.find? (t ++ rest) = some w ∧ t ++ rest = w.taken ++ w.rest ∧ Takes e w.taken w.groups := by
  have hway : (⟨t, gs, rest⟩ : Way) ∈ e.ways (t ++ rest) := mem_ways_iff.2 ⟨rfl, h⟩
  obtain ⟨w, hw⟩ : ∃ w, (e.ways (t ++ rest)).head? = some w :=
    Option.isSome_iff_exists.1 (List.isSome_head?.2 (List.ne_nil_of_mem hway))
  refine ⟨w, ?_, mem_ways_iff.1 (List.mem_of_head? hw)⟩
  cases htext : t ++ rest with
  | nil => rw [find?, ← htext, hw]
  | cons c cs => rw [find?, ← htext, hw]

theorem findAll_of_find? (h : e.find? cs = some w) (hlt : w.rest.length < cs.length) :
    e.findAll cs = w :: e.findAll w.rest := by
  rw [findAll, h]
  simp [hlt]

end Expression

end MeaningGraph
