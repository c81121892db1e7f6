import SourcePrep.Pattern.Regular
import Mathlib.Data.List.Infix

/-!
# What a linear search finds

`Regular.exec` remembers where it has been and hands every way to match on to what follows. Whatever
it remembers, what it finds is a match.

* `Accepts`: the characters that an expression stands for, at a place of a text. The place matters
  only to the tests of a place.
* `Through P i k a`: if the attempt `a` found something, then some characters that `P` allows at the
  place `i` are there, and what follows them, `k`, found it. Each way to put attempts together keeps
  this, and so does each kind of loop.
* `exec_through`: what an expression hands on are the characters that it stands for.
* `search_found`: a search that finds something has found an accepted part of the text.
-/

set_option autoImplicit false

namespace SourcePrep.Pattern

/-! ## The characters that an expression stands for -/

/-- Some parts in a row, each of which is allowed where it starts. -/
inductive Repeats (P : Nat → List Char → Prop) : Nat → List Char → Prop
  | none {i : Nat} : Repeats P i []
  | more {i : Nat} {cs ds : List Char} (first : P i cs) (rest : Repeats P (i + cs.length) ds) :
      Repeats P i (cs ++ ds)

/-- The expression stands for the given characters at a place of the text. -/
def Regular.Accepts (subject : Array Char) : Regular → Nat → List Char → Prop
  | .empty, _, cs => cs = []
  | .never, _, _ => False
  | .one s, _, cs => ∃ c, cs = [c] ∧ s.contains c = true
  | .check a, i, cs => cs = [] ∧ a.holds subject i = true
  | .seq first rest, i, cs =>
    ∃ as bs, cs = as ++ bs ∧ first.Accepts subject i as ∧ rest.Accepts subject (i + as.length) bs
  | .alt _ first rest, i, cs => first.Accepts subject i cs ∨ rest.Accepts subject i cs
  | .group _ e, i, cs => e.Accepts subject i cs
  | .optional _ _ e, i, cs => cs = [] ∨ e.Accepts subject i cs
  | .run _ _ s, _, cs => ∀ c ∈ cs, s.contains c = true
  | .loop _ _ atLeastOnce e, i, cs =>
    (atLeastOnce = false ∧ cs = []) ∨
      ∃ as bs, cs = as ++ bs ∧ e.Accepts subject i as ∧
        Repeats (e.Accepts subject) (i + as.length) bs

/-- The given characters are in the text from a place on. -/
def Reads (subject : Array Char) (i : Nat) (cs : List Char) : Prop := cs <+: subject.toList.drop i

section
variable {subject : Array Char}

theorem Reads.nil (i : Nat) : Reads subject i [] := List.nil_prefix

theorem Reads.append {i : Nat} {cs ds : List Char} (hc : Reads subject i cs)
    (hd : Reads subject (i + cs.length) ds) : Reads subject i (cs ++ ds) := by
  obtain ⟨rest, hrest⟩ := hc
  rw [Reads, ← List.drop_drop, ← hrest, List.drop_left] at hd
  rw [Reads, ← hrest]
  exact (List.prefix_append_right_inj cs).2 hd

theorem Reads.take {i : Nat} {cs : List Char} (h : Reads subject i cs) (n : Nat) :
    Reads subject i (cs.take n) := (List.take_prefix n cs).trans h

theorem Window.whole_next? {i : Nat} {c : Char} (h : (Window.whole subject).next? i = some c) :
    Reads subject i [c] := by
  have hread : (if i < subject.size then subject[i]? else none) = some c := h
  split at hread
  · rename_i hi
    rw [Array.getElem?_eq_getElem hi, Option.some.injEq] at hread
    refine ⟨subject.toList.drop (i + 1), ?_⟩
    rw [← hread, List.singleton_append, ← Array.getElem_toList, List.getElem_cons_drop]
  · cases hread

@[simp] theorem Window.whole_move (i n : Nat) : (Window.whole subject).move i n = i + n := rfl

end

/-! ## What an attempt goes through -/

/-- What the attempt found lies behind some characters that `P` allows at the place `i`, and what
follows them found it. -/
def Attempt.Through (subject : Array Char) (P : Nat → List Char → Prop) (i : Nat) (k : Continuation)
    (a : Attempt) : Prop :=
  ∀ place found, a = .found place found →
    ∃ cs slots explored, P i cs ∧ Reads subject i cs ∧
      k (i + cs.length) slots explored = .found place found

namespace Attempt.Through

variable {subject : Array Char} {P Q : Nat → List Char → Prop} {i : Nat} {k : Continuation}

theorem failed (explored : Explored) : Through subject P i k (.failed explored) := by
  intro place found h
  cases h

theorem here (h : P i []) (slots : Slots) (explored : Explored) :
    Through subject P i k (k i slots explored) :=
  fun _ _ hk => ⟨[], slots, explored, h, .nil i, hk⟩

theorem mono {a : Attempt} (h : Through subject P i k a) (hPQ : ∀ cs, P i cs → Q i cs) :
    Through subject Q i k a := by
  intro place found ha
  obtain ⟨cs, slots, explored, hcs, hreads, hk⟩ := h place found ha
  exact ⟨cs, slots, explored, hPQ cs hcs, hreads, hk⟩

theorem orElse {a : Attempt} {b : Explored → Attempt} (ha : Through subject P i k a)
    (hb : ∀ explored, Through subject P i k (b explored)) :
    Through subject P i k (a.orElse b) := by
  cases a with
  | found place found => exact ha
  | failed explored => exact hb explored

theorem explore {row place : Nat} {explored : Explored} {f : Explored → Attempt}
    (hf : ∀ explored, Through subject P i k (f explored)) :
    Through subject P i k (Regular.explore row place explored f) := by
  rw [Regular.explore]
  split
  · exact failed explored
  · exact hf _

theorem either {inOrder : Bool} {explored : Explored} {a b : Explored → Attempt}
    (ha : ∀ explored, Through subject P i k (a explored))
    (hb : ∀ explored, Through subject P i k (b explored)) :
    Through subject P i k (Regular.either inOrder explored a b) := by
  rw [Regular.either]
  split
  · exact (ha explored).orElse hb
  · exact (hb explored).orElse ha

/-- Characters in a row: what follows the first ones goes through the others. -/
theorem seq {k' : Continuation} {a : Attempt} (ha : Through subject P i k' a)
    (hk : ∀ j slots explored, Through subject Q j k (k' j slots explored)) :
    Through subject (fun i cs => ∃ as bs, cs = as ++ bs ∧ P i as ∧ Q (i + as.length) bs) i k a := by
  intro place found h
  obtain ⟨as, slots, explored, has, hreads, hfound⟩ := ha place found h
  obtain ⟨bs, slots', explored', hbs, hreads', hfound'⟩ := hk _ _ _ place found hfound
  refine ⟨as ++ bs, slots', explored', ⟨as, bs, rfl, has, hbs⟩, hreads.append hreads', ?_⟩
  rwa [List.length_append, ← Nat.add_assoc]

end Attempt.Through

/-! ## Runs of characters -/

namespace Regular

open Attempt (Through)

section
variable {subject : Array Char} {s : CharSet}

/-- The set as a condition on characters in a row. -/
def RunOf (s : CharSet) (_ : Nat) (cs : List Char) : Prop := ∀ c ∈ cs, s.contains c = true

theorem RunOf.cons {c : Char} {cs : List Char} {i j : Nat} (hc : s.contains c = true)
    (hcs : RunOf s i cs) : RunOf s j ([c] ++ cs) := by
  intro b hb
  rcases List.mem_cons.1 hb with rfl | hb
  · exact hc
  · exact hcs b hb

theorem follow_reads (subject : Array Char) (s : CharSet) (fuel i d : Nat) (places : Places) :
    ∃ cs, (follow (.whole subject) s fuel i d places).1 = d + cs.length ∧ RunOf s i cs ∧
      Reads subject i cs := by
  have hstay : ∃ cs : List Char, d = d + cs.length ∧ RunOf s i cs ∧ Reads subject i cs :=
    ⟨[], rfl, by simp [RunOf], .nil i⟩
  induction fuel generalizing i d places with
  | zero => exact hstay
  | succ fuel ih =>
    rw [follow]
    split
    · rename_i c hc
      split
      · rename_i hmem
        rw [Bool.and_eq_true] at hmem
        obtain ⟨cs, hlength, hrun, hreads⟩ := ih (i + 1) (d + 1) (places.add (d + 1))
          ⟨[], rfl, by simp [RunOf], .nil _⟩
        refine ⟨[c] ++ cs, ?_, hrun.cons hmem.1, (Window.whole_next? hc).append hreads⟩
        rw [Window.whole_move, hlength, List.length_append, List.length_singleton, Nat.add_assoc]
      · exact hstay
    · exact hstay

theorem farthestFirst_found {k : Continuation} {i n place : Nat} {slots found : Slots}
    {explored : Explored}
    (h : farthestFirst (.whole subject) k i n slots explored = .found place found) :
    ∃ m ≤ n, ∃ explored, k (i + m) slots explored = .found place found := by
  induction n generalizing explored with
  | zero => exact ⟨0, le_rfl, explored, h⟩
  | succ n ih =>
    rw [farthestFirst, Window.whole_move] at h
    rcases hk : k (i + (n + 1)) slots explored with ⟨place', found'⟩ | explored' <;>
      rw [hk, Attempt.orElse] at h
    · exact ⟨n + 1, le_rfl, explored, by rw [hk]; exact h⟩
    · obtain ⟨m, hm, explored, hfound⟩ := ih h
      exact ⟨m, by omega, explored, hfound⟩

theorem longestRun_through {k : Continuation} {row i : Nat} {slots : Slots} {explored : Explored} :
    Through subject (RunOf s) i k (longestRun (.whole subject) row s i slots explored k) := by
  rw [longestRun]
  obtain ⟨places, rest⟩ := explored.take row
  simp only
  split
  · exact .failed _
  · intro place found h
    obtain ⟨m, hm, explored, hfound⟩ := farthestFirst_found h
    obtain ⟨cs, hlength, hrun, hreads⟩ := follow_reads subject s
      ((Window.whole subject).room i) i (rest.distance i) (places.add (rest.distance i))
    have hle : m ≤ cs.length := by omega
    refine ⟨cs.take m, slots, explored, fun c hc => hrun c (List.mem_of_mem_take hc),
      hreads.take m, ?_⟩
    rwa [List.length_take_of_le hle]

theorem shortestRun_through {k : Continuation} {row : Nat} (fuel : Nat) {i : Nat} {slots : Slots}
    {explored : Explored} :
    Through subject (RunOf s) i k (shortestRun (.whole subject) row s k fuel i slots explored) := by
  induction fuel generalizing i slots explored with
  | zero => exact .failed _
  | succ fuel ih =>
    rw [shortestRun]
    refine .explore fun explored => .orElse (.here (by simp [RunOf]) _ _) fun explored => ?_
    split
    · rename_i c hc
      split
      · rename_i hmem
        -- one character, and then as few as there may be
        intro place found h
        obtain ⟨cs, slots, explored, hrun, hreads, hfound⟩ := ih place found h
        have hread := (Window.whole_next? hc).append hreads
        refine ⟨[c] ++ cs, slots, explored, hrun.cons hmem, hread, ?_⟩
        rwa [List.length_append, ← Nat.add_assoc]
      · exact .failed _
    · exact .failed _

end

/-! ## Loops -/

section
variable {subject : Array Char} {P : Nat → List Char → Prop} {k : Continuation}

theorem leave_through {key i : Nat} {slots : Slots} {explored : Explored} (h : P i []) :
    Through subject P i k (leave key k i slots explored) :=
  .explore fun explored => .here h slots explored

/-- By induction on the iterations that are left: one more goes through the body and then through
those after it. -/
theorem afterIteration_through {body : Nat → Slots → Explored → Continuation → Attempt} {key : Nat}
    {greedy : Bool}
    (hbody : ∀ i slots explored k, Through subject P i k (body i slots explored k)) (fuel : Nat)
    {i : Nat} {slots : Slots} {explored : Explored} :
    Through subject (Repeats P) i k (afterIteration body key greedy k fuel i slots explored) := by
  induction fuel generalizing i slots explored with
  | zero => exact .failed _
  | succ fuel ih =>
    rw [afterIteration]
    refine .explore fun explored => .either (fun explored => .explore fun explored => ?_)
      fun explored => leave_through .none
    refine ((hbody _ _ _ _).seq fun j slots explored => ih).mono ?_
    rintro cs ⟨as, bs, rfl, has, hbs⟩
    exact .more has hbs

end

/-! ## Expressions -/

variable {subject : Array Char}

theorem exec_through (e : Regular) (i : Nat) (slots : Slots) (explored : Explored)
    (k : Continuation) :
    Through subject (e.Accepts subject) i k (e.exec (.whole subject) i slots explored k) := by
  induction e generalizing i slots explored k with
  | empty => exact .here rfl _ _
  | never => exact .failed _
  | one s =>
    rw [exec]
    split
    · rename_i c hc
      split
      · rename_i hmem
        exact fun place found h => ⟨[c], slots, explored, ⟨c, rfl, hmem⟩, Window.whole_next? hc, h⟩
      · exact .failed _
    · exact .failed _
  | check a =>
    rw [exec]
    split
    · rename_i hholds
      exact .here ⟨rfl, hholds⟩ _ _
    · exact .failed _
  | seq first rest ihFirst ihRest =>
    exact (ihFirst i slots explored _).seq fun j slots explored => ihRest j slots explored k
  | alt key first rest ihFirst ihRest =>
    refine .explore fun explored => .orElse ?_ fun explored => ?_
    · exact (ihFirst i slots explored k).mono fun cs h => .inl h
    · exact (ihRest i slots explored k).mono fun cs h => .inr h
  | group n e ih =>
    intro place found h
    obtain ⟨cs, slots, explored, hcs, hreads, hk⟩ := ih _ _ _ _ place found h
    exact ⟨cs, _, explored, hcs, hreads, hk⟩
  | optional key greedy e ih =>
    refine .explore fun explored => .either (fun explored => ?_) fun explored => ?_
    · exact (ih i slots explored k).mono fun cs h => .inr h
    · exact .here (.inl rfl) _ _
  | run key greedy s =>
    rw [exec]
    split
    · exact longestRun_through
    · exact shortestRun_through _
  | loop key greedy atLeastOnce e ih =>
    have hiteration : ∀ explored, Through subject
        ((Regular.loop key greedy atLeastOnce e).Accepts subject) i k
        (explore (Explored.row key .choice) i explored fun explored =>
          e.exec (.whole subject) i slots explored
            (afterIteration (e.exec (.whole subject)) key greedy k
              ((Window.whole subject).room i + 2))) := by
      intro explored
      refine .explore fun explored => ?_
      exact ((ih i slots explored _).seq fun j slots explored =>
        afterIteration_through ih _).mono fun cs h => .inr h
    rw [exec]
    simp only
    split
    · exact hiteration explored
    · rename_i honce
      refine .either hiteration fun explored => leave_through (.inl ⟨?_, rfl⟩)
      simpa using honce

theorem searchFrom_found {e : Regular} {slots found : Slots} {fuel i : Nat} {explored : Explored}
    (h : e.searchFrom subject slots fuel i explored = some found) :
    ∃ j cs, e.Accepts subject j cs ∧ Reads subject j cs := by
  induction fuel generalizing i explored with
  | zero => cases h
  | succ fuel ih =>
    rw [searchFrom] at h
    split at h
    · rename_i place slots' hexec
      obtain ⟨cs, _, _, hcs, hreads, -⟩ := exec_through e i slots explored _ _ _ hexec
      exact ⟨i, cs, hcs, hreads⟩
    · exact ih h

/-- A search that finds something has found an accepted part of the text. -/
theorem search_found {e : Regular} {slots found : Slots} {i : Nat}
    (h : e.search subject slots i = some found) :
    ∃ j cs, e.Accepts subject j cs ∧ Reads subject j cs :=
  searchFrom_found h

end Regular

end SourcePrep.Pattern
