import SourcePrep.Proofs.RegularMatching

/-!
# Matching in order of preference

What an expression means to a backtracking matcher is the list of its ways to match at a place, in
order of preference: `ways`. The way that is taken is the first one that what follows can go on
from.

* `Marks`: the characters that an expression stands for, together with the groups that it notes.
* `mem_ways_iff`, `mem_ways`: these are the ways, and they end where the characters end that the
  expression accepts.
* `first_eq_none_iff`: whether any way is taken does not depend on the groups that were noted
  before, so a place can be a dead end for an expression once and for all.
* `deadEnd_run`, `farthest`, `nearest`: what this comes to for a run of characters of a set.

Loops, in which one choice can come up again within one way, are not treated here.
-/

set_option autoImplicit false

namespace SourcePrep.Pattern

/-! ## The ways to match -/

section
variable {subject : Array Char}

theorem Window.whole_next?_iff {i : Nat} {c : Char} :
    (Window.whole subject).next? i = some c ↔ Reads subject i [c] := by
  refine ⟨Window.whole_next?, fun ⟨rest, hrest⟩ => ?_⟩
  have hget : subject[i]? = some c := by
    rw [← Array.getElem?_toList, ← List.head?_drop, ← hrest]
    rfl
  obtain ⟨hi, -⟩ := Array.getElem?_eq_some_iff.1 hget
  exact (if_pos hi).trans hget

theorem Reads.of_append {i : Nat} {as bs : List Char} (h : Reads subject i (as ++ bs)) :
    Reads subject i as ∧ Reads subject (i + as.length) bs := by
  obtain ⟨rest, hrest⟩ := h
  refine ⟨⟨bs ++ rest, by rw [← hrest, List.append_assoc]⟩, rest, ?_⟩
  rw [← List.drop_drop, ← hrest, List.append_assoc, List.drop_left]

end

/-- How many characters of a set there are in a row. -/
def runLength (subject : Array Char) (s : CharSet) (i : Nat) : Nat :=
  ((subject.toList.drop i).takeWhile s.contains).length

namespace Regular

/-- The ways to match an expression at a place, in order of preference: where each of them ends, and
the groups that it notes. -/
def ways (subject : Array Char) : Regular → Nat → Slots → List (Nat × Slots)
  | .empty, i, slots => [(i, slots)]
  | .never, _, _ => []
  | .one s, i, slots =>
    match (Window.whole subject).next? i with
    | some c => if s.contains c then [(i + 1, slots)] else []
    | none => []
  | .check a, i, slots => if a.holds subject i then [(i, slots)] else []
  | .seq first rest, i, slots =>
    (first.ways subject i slots).flatMap fun way => rest.ways subject way.1 way.2
  | .alt _ first rest, i, slots => first.ways subject i slots ++ rest.ways subject i slots
  | .group n e, i, slots =>
    (e.ways subject i (slots.mark (2 * n) i)).map fun way =>
      (way.1, way.2.mark (2 * n + 1) way.1)
  | .optional _ greedy e, i, slots =>
    if greedy then e.ways subject i slots ++ [(i, slots)]
    else (i, slots) :: e.ways subject i slots
  | .run _ greedy s, i, slots =>
    let lengths := List.range (runLength subject s i + 1)
    (if greedy then lengths.reverse else lengths).map fun n => (i + n, slots)
  | .loop _ _ _ _, _, _ => []

/-- The expression stands for the given characters at a place of the text, and notes its groups in
the slots. Loops but runs are left out, as in `ways`. -/
def Marks (subject : Array Char) : Regular → Nat → List Char → Slots → Slots → Prop
  | .empty, _, cs, before, after => cs = [] ∧ after = before
  | .never, _, _, _, _ => False
  | .one s, _, cs, before, after => (∃ c, cs = [c] ∧ s.contains c = true) ∧ after = before
  | .check a, i, cs, before, after => (cs = [] ∧ a.holds subject i = true) ∧ after = before
  | .seq first rest, i, cs, before, after =>
    ∃ as bs between, cs = as ++ bs ∧ first.Marks subject i as before between ∧
      rest.Marks subject (i + as.length) bs between after
  | .alt _ first rest, i, cs, before, after =>
    first.Marks subject i cs before after ∨ rest.Marks subject i cs before after
  | .group n e, i, cs, before, after =>
    ∃ within, e.Marks subject i cs (before.mark (2 * n) i) within ∧
      after = within.mark (2 * n + 1) (i + cs.length)
  | .optional _ _ e, i, cs, before, after =>
    (cs = [] ∧ after = before) ∨ e.Marks subject i cs before after
  | .run _ _ s, i, cs, before, after => RunOf s i cs ∧ after = before
  | .loop _ _ _ _, _, _, _, _ => False

/-- The expression has no loop but runs of characters. -/
def loopFree : Regular → Bool
  | .seq first rest => first.loopFree && rest.loopFree
  | .alt _ first rest => first.loopFree && rest.loopFree
  | .group _ e => e.loopFree
  | .optional _ _ e => e.loopFree
  | .loop _ _ _ _ => false
  | _ => true

/-- The keys of the choices. -/
def keys : Regular → List Nat
  | .seq first rest => first.keys ++ rest.keys
  | .alt key first rest => key :: (first.keys ++ rest.keys)
  | .group _ e => e.keys
  | .optional key _ e => key :: e.keys
  | .run key _ _ => [key]
  | .loop key _ _ e => key :: e.keys
  | _ => []

section
variable {subject : Array Char}

theorem mem_runLength {s : CharSet} {i n : Nat} :
    n ≤ runLength subject s i ↔ ∃ cs, RunOf s i cs ∧ Reads subject i cs ∧ cs.length = n := by
  constructor
  · intro h
    refine ⟨((subject.toList.drop i).takeWhile s.contains).take n, fun c hc => ?_, ?_,
      List.length_take_of_le h⟩
    · exact List.all_eq_true.1 List.all_takeWhile c (List.mem_of_mem_take hc)
    · exact (List.take_prefix _ _).trans (List.takeWhile_prefix _)
  · rintro ⟨cs, hrun, ⟨rest, hrest⟩, rfl⟩
    rw [runLength, ← hrest, List.takeWhile_append_of_pos hrun, List.length_append]
    omega

/-- The groups are noted in whatever slots there are. -/
theorem accepts_iff_marks {e : Regular} (hfree : e.loopFree = true) {i : Nat} {cs : List Char}
    (before : Slots) :
    e.Accepts subject i cs ↔ ∃ after, e.Marks subject i cs before after := by
  induction e generalizing i cs before with
  | empty | never | one | check | run => simp [Accepts, Marks, RunOf]
  | seq first rest ihFirst ihRest =>
    obtain ⟨hfirst, hrest⟩ := Bool.and_eq_true_iff.1 hfree
    constructor
    · rintro ⟨as, bs, rfl, has, hbs⟩
      obtain ⟨between, has⟩ := (ihFirst hfirst before).1 has
      obtain ⟨after, hbs⟩ := (ihRest hrest between).1 hbs
      exact ⟨after, as, bs, between, rfl, has, hbs⟩
    · rintro ⟨after, as, bs, between, rfl, has, hbs⟩
      exact ⟨as, bs, rfl, (ihFirst hfirst before).2 ⟨between, has⟩,
        (ihRest hrest between).2 ⟨after, hbs⟩⟩
  | alt key first rest ihFirst ihRest =>
    obtain ⟨hfirst, hrest⟩ := Bool.and_eq_true_iff.1 hfree
    simp only [Accepts, Marks, exists_or, ihFirst hfirst before, ihRest hrest before]
  | group n e ih =>
    simp only [Accepts, Marks, ih hfree (before.mark (2 * n) i)]
    constructor
    · rintro ⟨within, h⟩
      exact ⟨_, within, h, rfl⟩
    · rintro ⟨_, within, h, -⟩
      exact ⟨within, h⟩
  | optional key greedy e ih =>
    simp only [Accepts, Marks, exists_or, ih hfree before, exists_and_left, exists_eq, and_true]
  | loop => cases hfree

/-- The ways end where the characters end that the expression stands for, and with the groups that
it notes. -/
theorem mem_ways_iff {e : Regular} {i j : Nat} {before after : Slots} :
    (j, after) ∈ e.ways subject i before ↔
      ∃ cs, e.Marks subject i cs before after ∧ Reads subject i cs ∧ j = i + cs.length := by
  induction e generalizing i j before after with
  | empty => simp [ways, Marks, Reads.nil, and_comm]
  | never | loop => simp [ways, Marks]
  | one s =>
    simp only [ways]
    constructor
    · intro hmem
      split at hmem
      · rename_i c hc
        split at hmem
        · rename_i hs
          cases List.mem_singleton.1 hmem
          exact ⟨[c], ⟨⟨c, rfl, hs⟩, rfl⟩, Window.whole_next?_iff.1 hc, rfl⟩
        · cases hmem
      · cases hmem
    · rintro ⟨_, ⟨⟨c, rfl, hs⟩, rfl⟩, hreads, rfl⟩
      simp [Window.whole_next?_iff.2 hreads, hs]
  | check a =>
    by_cases ha : a.holds subject i = true
    · simp [ways, Marks, ha, Reads.nil, and_comm]
    · simp [ways, Marks, ha]
  | seq first rest ihFirst ihRest =>
    simp only [ways, List.mem_flatMap, Prod.exists]
    constructor
    · rintro ⟨k, between, hk, hj⟩
      obtain ⟨as, has, hreads, rfl⟩ := ihFirst.1 hk
      obtain ⟨bs, hbs, hreads', rfl⟩ := ihRest.1 hj
      refine ⟨as ++ bs, ⟨as, bs, between, rfl, has, hbs⟩, hreads.append hreads', ?_⟩
      rw [List.length_append, Nat.add_assoc]
    · rintro ⟨_, ⟨as, bs, between, rfl, has, hbs⟩, hreads, rfl⟩
      obtain ⟨hreads, hreads'⟩ := hreads.of_append
      refine ⟨_, between, ihFirst.2 ⟨as, has, hreads, rfl⟩, ihRest.2 ⟨bs, hbs, hreads', ?_⟩⟩
      rw [List.length_append, Nat.add_assoc]
  | alt key first rest ihFirst ihRest =>
    simp only [ways, List.mem_append, Marks, or_and_right, exists_or, ihFirst, ihRest]
  | group n e ih =>
    simp only [ways, List.mem_map, Prod.exists, ih, Marks]
    constructor
    · rintro ⟨_, within, ⟨cs, hcs, hreads, rfl⟩, heq⟩
      cases heq
      exact ⟨cs, ⟨within, hcs, rfl⟩, hreads, rfl⟩
    · rintro ⟨cs, ⟨within, hcs, rfl⟩, hreads, rfl⟩
      exact ⟨_, within, ⟨cs, hcs, hreads, rfl⟩, rfl⟩
  | optional key greedy e ih =>
    have heither : (j, after) ∈ (Regular.optional key greedy e).ways subject i before ↔
        (j = i ∧ after = before) ∨ (j, after) ∈ e.ways subject i before := by
      cases greedy
      · simp [ways]
      · simp [ways, or_comm]
    simp only [heither, ih, Marks, or_and_right, exists_or]
    refine or_congr_left ⟨?_, ?_⟩
    · rintro ⟨rfl, rfl⟩
      exact ⟨[], ⟨rfl, rfl⟩, .nil j, rfl⟩
    · rintro ⟨_, ⟨rfl, rfl⟩, -, rfl⟩
      exact ⟨rfl, rfl⟩
  | run key greedy s =>
    have hmem : (j, after) ∈ (Regular.run key greedy s).ways subject i before ↔
        ∃ n ≤ runLength subject s i, j = i + n ∧ after = before := by
      cases greedy <;>
        simp only [ways, List.mem_map, List.mem_reverse, List.mem_range, Nat.lt_succ_iff,
          Prod.mk.injEq, eq_comm, if_true, if_false, Bool.false_eq_true]
    simp only [hmem, mem_runLength, Marks]
    constructor
    · rintro ⟨_, ⟨cs, hrun, hreads, rfl⟩, rfl, rfl⟩
      exact ⟨cs, ⟨hrun, rfl⟩, hreads, rfl⟩
    · rintro ⟨cs, ⟨hrun, rfl⟩, hreads, rfl⟩
      exact ⟨_, ⟨cs, hrun, hreads, rfl⟩, rfl, rfl⟩

/-- The ways end where the accepted characters end. -/
theorem mem_ways {e : Regular} (hfree : e.loopFree = true) {i j : Nat} {slots : Slots} :
    (∃ found, (j, found) ∈ e.ways subject i slots) ↔
      ∃ cs, e.Accepts subject i cs ∧ Reads subject i cs ∧ j = i + cs.length := by
  simp only [mem_ways_iff, accepts_iff_marks hfree slots]
  constructor
  · rintro ⟨found, cs, hcs, hreads, hj⟩
    exact ⟨cs, ⟨found, hcs⟩, hreads, hj⟩
  · rintro ⟨cs, ⟨found, hcs⟩, hreads, hj⟩
    exact ⟨found, cs, hcs, hreads, hj⟩

end

end Regular

/-! ## The first way -/

theorem findSome?_cons_or {α β : Type} (f : α → Option β) (a : α) (l : List α) :
    (a :: l).findSome? f = (f a).or (l.findSome? f) := by
  rw [List.findSome?_cons]
  cases f a <;> rfl

namespace Regular

section
variable (subject : Array Char)

/-- Whatever the expression matches at the place, what follows fails behind it. -/
def DeadEnd (e : Regular) (fails : Nat → Prop) (i : Nat) : Prop :=
  ∀ cs, e.Accepts subject i cs → Reads subject i cs → fails (i + cs.length)

/-- The choices of an expression: the key of each, and the places where it leads nowhere, when it is
known where what follows the expression fails. -/
def choices : Regular → (Nat → Prop) → List (Nat × (Nat → Prop))
  | .seq first rest, fails =>
    first.choices (rest.DeadEnd subject fails) ++ rest.choices fails
  | .alt key first rest, fails =>
    (key, (Regular.alt key first rest).DeadEnd subject fails) ::
      (first.choices fails ++ rest.choices fails)
  | .group _ e, fails => e.choices fails
  | .optional key greedy e, fails =>
    (key, (Regular.optional key greedy e).DeadEnd subject fails) :: e.choices fails
  | .run key greedy s, fails => [(key, (Regular.run key greedy s).DeadEnd subject fails)]
  | _, _ => []

/-- The first way that what follows takes. -/
def first (e : Regular) (follow : Nat → Slots → Option (Nat × Slots)) (i : Nat) (slots : Slots) :
    Option (Nat × Slots) :=
  (e.ways subject i slots).findSome? fun way => follow way.1 way.2

variable {subject} {e : Regular} {follow : Nat → Slots → Option (Nat × Slots)}
  {fails : Nat → Prop} {i : Nat} {slots : Slots}

/-- There is no such way exactly where the expression is a dead end, whatever groups were noted. -/
theorem first_eq_none_iff (hfree : e.loopFree = true)
    (hfails : ∀ j slots, follow j slots = none ↔ fails j) :
    e.first subject follow i slots = none ↔ e.DeadEnd subject fails i := by
  rw [first, List.findSome?_eq_none_iff]
  constructor
  · intro h cs hcs hreads
    obtain ⟨found, hmem⟩ : ∃ found, (i + cs.length, found) ∈ e.ways subject i slots :=
      (mem_ways hfree).2 ⟨cs, hcs, hreads, rfl⟩
    exact (hfails _ found).1 (h _ hmem)
  · intro h way hmem
    obtain ⟨cs, hcs, hreads, heq⟩ := (mem_ways hfree).1 ⟨way.2, hmem⟩
    exact (hfails _ _).2 (heq ▸ h cs hcs hreads)

theorem first_seq (first rest : Regular) :
    (Regular.seq first rest).first subject follow i slots =
      first.first subject (rest.first subject follow) i slots := by
  change List.findSome? _ ((first.ways subject i slots).flatMap _) = List.findSome? _ _
  induction first.ways subject i slots with
  | nil => rfl
  | cons way more ih =>
    rw [List.flatMap_cons, List.findSome?_append, ih, findSome?_cons_or]
    rfl

theorem first_alt (key : Nat) (first rest : Regular) :
    (Regular.alt key first rest).first subject follow i slots =
      (first.first subject follow i slots).or (rest.first subject follow i slots) :=
  List.findSome?_append

theorem first_group (n : Nat) (e : Regular) :
    (Regular.group n e).first subject follow i slots =
      e.first subject (fun j slots => follow j (slots.mark (2 * n + 1) j)) i
        (slots.mark (2 * n) i) :=
  List.findSome?_map

theorem first_optional (key : Nat) (greedy : Bool) (e : Regular) :
    (Regular.optional key greedy e).first subject follow i slots =
      if greedy then (e.first subject follow i slots).or (follow i slots)
      else (follow i slots).or (e.first subject follow i slots) := by
  cases greedy with
  | false => exact findSome?_cons_or _ _ _
  | true =>
    refine List.findSome?_append.trans ?_
    rw [List.findSome?_singleton]
    rfl

end

end Regular

/-! ## Runs of characters -/

section
variable {subject : Array Char} {s : CharSet} {i : Nat}

theorem runLength_of_some {c : Char} (h : (Window.whole subject).next? i = some c) :
    runLength subject s i = if s.contains c then runLength subject s (i + 1) + 1 else 0 := by
  obtain ⟨rest, hrest⟩ := Window.whole_next?_iff.1 h
  have hnext : subject.toList.drop (i + 1) = rest := by
    rw [← List.drop_drop, ← hrest]
    rfl
  rw [runLength, runLength, hnext, ← hrest, List.singleton_append, List.takeWhile_cons]
  split <;> rfl

theorem runLength_of_none (h : (Window.whole subject).next? i = none) :
    runLength subject s i = 0 := by
  have hpast : subject.toList.drop i = [] := by
    rcases hdrop : subject.toList.drop i with - | ⟨c, rest⟩
    · rfl
    · rw [Window.whole_next?_iff.2 (⟨rest, hdrop.symm⟩ : Reads subject i [c])] at h
      cases h
  rw [runLength, hpast]
  rfl

theorem runLength_le (s : CharSet) (i : Nat) :
    runLength subject s i ≤ (Window.whole subject).room i := by
  have h := (List.takeWhile_prefix (l := subject.toList.drop i) s.contains).length_le
  simpa [runLength, Window.room, Window.whole] using h

/-- The way that goes farthest, among the runs of so many characters at most. -/
def farthest (follow : Nat → Slots → Option (Nat × Slots)) (i n : Nat) (slots : Slots) :
    Option (Nat × Slots) :=
  (List.range (n + 1)).reverse.findSome? fun m => follow (i + m) slots

theorem farthest_succ (follow : Nat → Slots → Option (Nat × Slots)) (i n : Nat) (slots : Slots) :
    farthest follow i (n + 1) slots =
      (follow (i + (n + 1)) slots).or (farthest follow i n slots) := by
  rw [farthest, List.range_succ, List.reverse_append, List.reverse_singleton,
    List.singleton_append, findSome?_cons_or]
  rfl

theorem farthest_eq_none_iff {follow : Nat → Slots → Option (Nat × Slots)} {n : Nat}
    {slots : Slots} :
    farthest follow i n slots = none ↔ ∀ m ≤ n, follow (i + m) slots = none := by
  simp only [farthest, List.findSome?_eq_none_iff, List.mem_reverse, List.mem_range,
    Nat.lt_succ_iff]

/-- Runs that lead nowhere do not count. -/
theorem farthest_of_none {follow : Nat → Slots → Option (Nat × Slots)} {n more : Nat}
    {slots : Slots} (h : ∀ m, n < m → m ≤ n + more → follow (i + m) slots = none) :
    farthest follow i (n + more) slots = farthest follow i n slots := by
  induction more with
  | zero => rfl
  | succ more ih =>
    rw [← Nat.add_assoc, farthest_succ, h _ (by omega) (by omega), Option.none_or]
    exact ih fun m hm hle => h m hm (by omega)

/-- The way that goes least far, among the runs of so many characters at most. -/
def nearest (follow : Nat → Slots → Option (Nat × Slots)) (i n : Nat) (slots : Slots) :
    Option (Nat × Slots) :=
  (List.range (n + 1)).findSome? fun m => follow (i + m) slots

theorem nearest_succ (follow : Nat → Slots → Option (Nat × Slots)) (i n : Nat) (slots : Slots) :
    nearest follow i (n + 1) slots = (follow i slots).or (nearest follow (i + 1) n slots) := by
  rw [nearest, List.range_succ_eq_map, findSome?_cons_or, List.findSome?_map, nearest]
  simp only [Nat.add_zero, Function.comp_def, Nat.succ_eq_add_one, Nat.add_assoc, Nat.add_comm 1]

theorem nearest_eq_none_iff {follow : Nat → Slots → Option (Nat × Slots)} {n : Nat}
    {slots : Slots} :
    nearest follow i n slots = none ↔ ∀ m ≤ n, follow (i + m) slots = none := by
  simp only [nearest, List.findSome?_eq_none_iff, List.mem_range, Nat.lt_succ_iff]

namespace Regular

variable {key : Nat} {fails : Nat → Prop}

theorem deadEnd_run {greedy : Bool} :
    (Regular.run key greedy s).DeadEnd subject fails i ↔
      ∀ n ≤ runLength subject s i, fails (i + n) := by
  simp only [DeadEnd, Accepts, mem_runLength]
  constructor
  · rintro h _ ⟨cs, hrun, hreads, rfl⟩
    exact h cs hrun hreads
  · exact fun h cs hrun hreads => h _ ⟨cs, hrun, hreads, rfl⟩

/-- From a place within a run it is as far to its end as is left of it. -/
theorem runLength_add {n : Nat} (h : n ≤ runLength subject s i) :
    n + runLength subject s (i + n) = runLength subject s i := by
  induction n generalizing i with
  | zero => simp
  | succ n ih =>
    rcases hnext : (Window.whole subject).next? i with - | c
    · rw [runLength_of_none hnext] at h
      omega
    · rw [runLength_of_some hnext] at h ⊢
      split at h
      · rename_i hs
        have hrest := ih (i := i + 1) (by omega)
        rw [Nat.add_assoc, Nat.add_comm 1 n] at hrest
        rw [if_pos hs]
        omega
      · omega

/-- What is left of a run leads nowhere if the run does. -/
theorem deadEnd_run_add {greedy : Bool}
    (h : (Regular.run key greedy s).DeadEnd subject fails i) {n : Nat}
    (hn : n ≤ runLength subject s i) :
    (Regular.run key greedy s).DeadEnd subject fails (i + n) := by
  have hlength := runLength_add hn
  refine deadEnd_run.2 fun m hm => ?_
  rw [Nat.add_assoc]
  exact deadEnd_run.1 h (n + m) (by omega)

theorem first_run {greedy : Bool} {follow : Nat → Slots → Option (Nat × Slots)} {slots : Slots} :
    (Regular.run key greedy s).first subject follow i slots =
      if greedy then farthest follow i (runLength subject s i) slots
      else nearest follow i (runLength subject s i) slots := by
  cases greedy <;> exact List.findSome?_map

end Regular

end

end SourcePrep.Pattern
