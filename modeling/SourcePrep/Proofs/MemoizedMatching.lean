import SourcePrep.Proofs.OrderedMatching
import Mathlib.Data.List.Nodup

/-!
# Matching that remembers its choices

`Regular.search` does not go through the ways to match. It remembers the choices it made, and makes
none again at the same place, in whatever match it stands. What it finds is the first way all the
same.

* `Attempt.Answers`: an attempt comes to a given way, or else it fails and has remembered nothing
  but dead ends. Attempts are put together as the ways are: `orElse`, `explore`, `either`.
* `longestRun_answers`, `shortestRun_answers`: a run that is stopped where it was followed before
  leaves out only what leads nowhere.
* `exec_answers`: so it is for an expression, if its choices can be told apart.
* `search_eq_first`: a search finds the first way from the leftmost place that has one.
* `search_eq_none_iff`, `search_marks`: so it fails only if nothing is accepted, and what it finds
  are the groups of a part of the text.
-/

set_option autoImplicit false

namespace SourcePrep.Pattern

/-! ## What is remembered -/

theorem Places.has_add (places : Places) (n m : Nat) :
    (places.add n).has m = (m == n || places.has m) := by
  simp only [Places.add, Places.has, Array.getD_eq_getD_getElem?]
  split
  · grind
  · split
    · grind
    · grind

namespace Explored

/-- The choice of a key was made at a place. -/
def tried (explored : Explored) (key place : Nat) : Bool := explored.has (row key .choice) place

variable (explored : Explored)

theorem row_inj {key other : Nat} : row key .choice = row other .choice ↔ key = other := by
  simp only [row, Event.index]
  omega

theorem distance_eq (h : explored.origin = 0) (place : Nat) : explored.distance place = place := by
  simp [distance, h]

theorem has_put (row : Nat) (places : Places) (other place : Nat) :
    (explored.put row places).has other place =
      if other = row then places.has (explored.distance place) else explored.has other place := by
  obtain ⟨origin, rows⟩ := explored
  simp only [put, has, distance, Array.getD_eq_getD_getElem?]
  split
  · grind
  · grind

theorem origin_put (row : Nat) (places : Places) :
    (explored.put row places).origin = explored.origin := by
  obtain ⟨origin, rows⟩ := explored
  simp only [put]
  split <;> rfl

theorem take_fst (row : Nat) : (explored.take row).1 = explored.rows.getD row #[] := by
  obtain ⟨origin, rows⟩ := explored
  simp only [take]
  split
  · simp [*]
  · simp [*]

theorem origin_take (row : Nat) : (explored.take row).2.origin = explored.origin := by
  obtain ⟨origin, rows⟩ := explored
  simp only [take]
  split <;> rfl

theorem has_take {row other : Nat} (h : other ≠ row) (place : Nat) :
    (explored.take row).2.has other place = explored.has other place := by
  obtain ⟨origin, rows⟩ := explored
  simp only [take]
  split
  · simp [has, distance, h.symm]
  · rfl

/-- A row that is taken out, changed and put back. -/
theorem tried_put_take (h : explored.origin = 0) (key : Nat) (places : Places) (other place : Nat) :
    ((explored.take (row key .choice)).2.put (row key .choice) places).tried other place =
      if other = key then places.has place else explored.tried other place := by
  have horigin := (explored.origin_take (row key .choice)).trans h
  rw [tried, has_put, distance_eq _ horigin]
  simp only [row_inj]
  split
  · rfl
  · rename_i hother
    exact explored.has_take (mt row_inj.1 hother) place

theorem has_take_fst (h : explored.origin = 0) (key place : Nat) :
    (explored.take (row key .choice)).1.has place = explored.tried key place := by
  rw [take_fst, tried, has, explored.distance_eq h]

theorem origin_add (row place : Nat) : (explored.add row place).origin = explored.origin := by
  simp only [add, origin_put, origin_take]

theorem tried_add (h : explored.origin = 0) (key place other p : Nat) :
    (explored.add (row key .choice) place).tried other p =
      (other == key && p == place || explored.tried other p) := by
  simp only [add, explored.tried_put_take h, Places.has_add, explored.has_take_fst h,
    explored.distance_eq h]
  by_cases hkey : other = key
  · subst hkey
    simp
  · simp [hkey]

end Explored

/-! ## What an attempt answers -/

section
variable {dead : Nat → Nat → Prop} {explored : Explored}

/-- Where a choice was made in between, it leads nowhere. -/
structure Grows (dead : Nat → Nat → Prop) (before after : Explored) : Prop where
  origin : after.origin = before.origin
  tried : ∀ key place, after.tried key place = true →
    before.tried key place = true ∨ dead key place

/-- Where a choice of one of the keys was made, it leads nowhere. -/
structure Sound (dead : Nat → Nat → Prop) (keys : List Nat) (explored : Explored) : Prop where
  origin : explored.origin = 0
  tried : ∀ key ∈ keys, ∀ place, explored.tried key place = true → dead key place

/-- The attempt comes to the given way, or it fails if there is none. -/
inductive Attempt.Answers (dead : Nat → Nat → Prop) (explored : Explored) :
    Option (Nat × Slots) → Attempt → Prop
  | found (place : Nat) (slots : Slots) :
      Answers dead explored (some (place, slots)) (.found place slots)
  | failed {after : Explored} (grows : Grows dead explored after) :
      Answers dead explored none (.failed after)

theorem Grows.refl (explored : Explored) : Grows dead explored explored :=
  ⟨rfl, fun _ _ h => .inl h⟩

theorem Grows.trans {a b c : Explored} (h : Grows dead a b) (h' : Grows dead b c) :
    Grows dead a c where
  origin := h'.origin.trans h.origin
  tried key place hc := (h'.tried key place hc).elim (h.tried key place) .inr

theorem Sound.mono {keys keys' : List Nat} (h : Sound dead keys explored) (hkeys : keys' ⊆ keys) :
    Sound dead keys' explored :=
  ⟨h.origin, fun key hkey => h.tried key (hkeys hkey)⟩

theorem Sound.grow {keys : List Nat} {after : Explored} (h : Sound dead keys explored)
    (hgrows : Grows dead explored after) : Sound dead keys after where
  origin := hgrows.origin.trans h.origin
  tried key hkey place hplace := (hgrows.tried key place hplace).elim (h.tried key hkey place) id

/-- A choice that is being made is no matter for other keys. -/
theorem Sound.add {keys : List Nat} (h : Sound dead keys explored) {key : Nat} (hkey : key ∉ keys)
    (place : Nat) : Sound dead keys (explored.add (Explored.row key .choice) place) where
  origin := (explored.origin_add _ _).trans h.origin
  tried other hother p hp := by
    have hne : other ≠ key := fun heq => hkey (heq ▸ hother)
    rw [explored.tried_add h.origin] at hp
    exact h.tried other hother p (by simpa [hne] using hp)

theorem Grows.of_add (h : explored.origin = 0) {key place : Nat} {after : Explored}
    (hgrows : Grows dead (explored.add (Explored.row key .choice) place) after)
    (hdead : dead key place) : Grows dead explored after where
  origin := hgrows.origin.trans (explored.origin_add _ _)
  tried other p hp := by
    rcases hgrows.tried other p hp with hp | hp
    · rw [explored.tried_add h, Bool.or_eq_true, Bool.and_eq_true, beq_iff_eq, beq_iff_eq] at hp
      rcases hp with ⟨rfl, rfl⟩ | hp
      · exact .inr hdead
      · exact .inl hp
    · exact .inr hp

/-- A row that is put back with more places in it, from where the choice leads nowhere. -/
theorem Grows.of_put (h : explored.origin = 0) {key : Nat} {places : Places}
    (hplaces : ∀ p, places.has p = true → explored.tried key p = true ∨ dead key p) :
    Grows dead explored
      ((explored.take (Explored.row key .choice)).2.put (Explored.row key .choice) places) where
  origin := (Explored.origin_put _ _ _).trans (explored.origin_take _)
  tried other p hp := by
    rw [explored.tried_put_take h] at hp
    split at hp
    · rename_i hother
      exact hother ▸ hplaces p hp
    · exact .inl hp

theorem Sound.put {keys : List Nat} (h : Sound dead keys explored) {key : Nat} (hkey : key ∉ keys)
    (places : Places) : Sound dead keys
      ((explored.take (Explored.row key .choice)).2.put (Explored.row key .choice) places) where
  origin := ((Explored.origin_put _ _ _).trans (explored.origin_take _)).trans h.origin
  tried other hother p hp := by
    rw [explored.tried_put_take h.origin, if_neg (by rintro rfl; exact hkey hother)] at hp
    exact h.tried other hother p hp

namespace Attempt.Answers

variable {o o' : Option (Nat × Slots)}

theorem grown {before : Explored} {a : Attempt} (hgrows : Grows dead before explored)
    (h : Answers dead explored o a) : Answers dead before o a := by
  cases h with
  | found place slots => exact .found place slots
  | failed grows => exact .failed (hgrows.trans grows)

theorem orElse {a : Attempt} {b : Explored → Attempt} (ha : Answers dead explored o a)
    (hb : ∀ after, o = none → Grows dead explored after → Answers dead after o' (b after)) :
    Answers dead explored (o.or o') (a.orElse b) := by
  cases ha with
  | found place slots => exact .found place slots
  | failed grows => exact (hb _ rfl grows).grown grows

/-- A choice that was made before leads nowhere, and one that is made now leads nowhere if it
fails. -/
theorem explore (horigin : explored.origin = 0) {key place : Nat} {f : Explored → Attempt}
    (htried : explored.tried key place = true → dead key place)
    (hdead : dead key place ↔ o = none)
    (hf : Answers dead (explored.add (Explored.row key .choice) place) o
      (f (explored.add (Explored.row key .choice) place))) :
    Answers dead explored o (Regular.explore (Explored.row key .choice) place explored f) := by
  rw [Regular.explore]
  split
  · rename_i hhas
    rw [hdead.1 (htried hhas)]
    exact .failed (.refl explored)
  · generalize f (explored.add (Explored.row key .choice) place) = a at hf
    cases hf with
    | found place slots => exact .found place slots
    | failed grows => exact .failed (grows.of_add horigin (hdead.2 rfl))

theorem either {inOrder : Bool} {a b : Explored → Attempt}
    (ha : ∀ after, Grows dead explored after → Answers dead after o (a after))
    (hb : ∀ after, Grows dead explored after → Answers dead after o' (b after)) :
    Answers dead explored (if inOrder then o.or o' else o'.or o)
      (Regular.either inOrder explored a b) := by
  rw [Regular.either]
  split
  · exact (ha explored (.refl _)).orElse fun after _ => hb after
  · exact (hb explored (.refl _)).orElse fun after _ => ha after

end Attempt.Answers

end

/-! ## Runs of characters -/

section
variable {subject : Array Char} {s : CharSet} {i : Nat}

/-- A run is followed to its end, or up to a place that has been explored. -/
structure Stops (subject : Array Char) (s : CharSet) (i d : Nat) (places : Places)
    (result : Nat × Places) (n : Nat) : Prop where
  le : n ≤ runLength subject s i
  stop : result.1 = d + n
  explored : ∀ p, result.2.has p = true ↔ places.has p = true ∨ d < p ∧ p ≤ d + n
  why : n < runLength subject s i → places.has (d + n + 1) = true

theorem Stops.here {d : Nat} {places : Places}
    (h : 0 < runLength subject s i → places.has (d + 1) = true) :
    Stops subject s i d places (d, places) 0 where
  le := Nat.zero_le _
  stop := rfl
  explored p := ⟨.inl, fun hp => hp.resolve_right (by omega)⟩
  why := h

theorem follow_stops {fuel d : Nat} {places : Places} (hfuel : runLength subject s i ≤ fuel) :
    ∃ n, Stops subject s i d places
      (Regular.follow (.whole subject) s fuel i d places) n := by
  induction fuel generalizing i d places with
  | zero => exact ⟨0, .here fun h => by omega⟩
  | succ fuel ih =>
    rw [Regular.follow]
    split
    · rename_i c hc
      have hlength := runLength_of_some (s := s) hc
      split
      · rename_i hmem
        rw [Bool.and_eq_true] at hmem
        rw [if_pos hmem.1] at hlength
        obtain ⟨n, hn⟩ : ∃ n, Stops subject s (i + 1) (d + 1) (places.add (d + 1))
            (Regular.follow (.whole subject) s fuel (i + 1) (d + 1) (places.add (d + 1))) n :=
          ih (by omega)
        have hstop := hn.stop
        have hle := hn.le
        refine ⟨n + 1, by omega, by rw [Window.whole_move, hstop]; omega, fun p => ?_, fun h => ?_⟩
        · rw [Window.whole_move, hn.explored, Places.has_add, Bool.or_eq_true, beq_iff_eq]
          constructor
          · rintro ((rfl | h) | h)
            · exact .inr (by omega)
            · exact .inl h
            · exact .inr (by omega)
          · rintro (h | h)
            · exact .inl (.inr h)
            · by_cases hp : p = d + 1
              · exact .inl (.inl hp)
              · exact .inr (by omega)
        · have hwhy := hn.why (by omega)
          rw [Places.has_add, Bool.or_eq_true, beq_iff_eq] at hwhy
          rw [show d + (n + 1) + 1 = d + 1 + n + 1 by omega]
          exact hwhy.resolve_left (by omega)
      · rename_i hmem
        refine ⟨0, .here fun hpos => ?_⟩
        rw [hlength] at hpos
        split at hpos
        · rename_i hs
          simpa [hs] using hmem
        · omega
    · rename_i hnone
      exact ⟨0, .here fun hpos => by rw [runLength_of_none hnone] at hpos; omega⟩

theorem farthestFirst_answers (subject : Array Char) {dead : Nat → Nat → Prop}
    {follow : Nat → Slots → Option (Nat × Slots)} {k : Continuation} {n : Nat} {slots : Slots}
    {explored : Explored}
    (hk : ∀ m after, Grows dead explored after →
      Attempt.Answers dead after (follow (i + m) slots) (k (i + m) slots after)) :
    Attempt.Answers dead explored (farthest follow i n slots)
      (Regular.farthestFirst (.whole subject) k i n slots explored) := by
  induction n generalizing explored with
  | zero =>
    have hzero : farthest follow i 0 slots = follow i slots := by
      simp [farthest]
    rw [hzero]
    exact hk 0 explored (.refl explored)
  | succ n ih =>
    rw [farthest_succ, Regular.farthestFirst, Window.whole_move]
    refine (hk (n + 1) explored (.refl explored)).orElse fun after _ hafter => ih ?_
    exact fun m later hlater => hk m later (hafter.trans hlater)

namespace Regular

variable {dead : Nat → Nat → Prop} {key : Nat} {keys : List Nat} {fails : Nat → Prop}
  {follow : Nat → Slots → Option (Nat × Slots)} {k : Continuation} {slots : Slots}
  {explored : Explored}

/-- Longer runs than those that are followed were followed before, from the place where this one was
stopped, and lead nowhere. -/
theorem farthest_of_stops {places : Places} {result : Nat × Places} {n : Nat}
    (hfails : ∀ j slots, follow j slots = none ↔ fails j)
    (hstops : Stops subject s i i places result n)
    (hdead : ∀ p, i < p → places.has p = true → (Regular.run key true s).DeadEnd subject fails p) :
    farthest follow i (runLength subject s i) slots = farthest follow i n slots := by
  obtain ⟨more, hmore⟩ := Nat.exists_eq_add_of_le hstops.le
  rw [hmore]
  refine farthest_of_none fun m hlt hm => ?_
  have hstop : n + 1 ≤ runLength subject s i := by omega
  have hend := deadEnd_run.1 (hdead _ (by omega) (hstops.why hstop))
  have hlength := runLength_add hstop
  have hm' := hend (m - (n + 1)) (by rw [Nat.add_assoc]; omega)
  rw [hfails]
  rwa [show i + n + 1 + (m - (n + 1)) = i + m by omega] at hm'

section
variable (hkey : key ∉ keys) (hfails : ∀ j slots, follow j slots = none ↔ fails j)
  (hk : ∀ j slots explored, Sound dead keys explored →
    Attempt.Answers dead explored (follow j slots) (k j slots explored))
include hkey hfails hk

/-- When all the runs that are followed fail, the whole run is a dead end, and so is what is left of
it at each of the places that are remembered. -/
theorem longestRun_answers
    (hdead : ∀ p, dead key p ↔ (Regular.run key true s).DeadEnd subject fails p)
    (hex : Sound dead (key :: keys) explored) :
    Attempt.Answers dead explored (farthest follow i (runLength subject s i) slots)
      (longestRun (.whole subject) (Explored.row key .choice) s i slots explored k) := by
  have hnone_iff : farthest follow i (runLength subject s i) slots = none ↔ dead key i := by
    simp only [farthest_eq_none_iff, hdead, deadEnd_run, hfails]
  have hgrow : ∀ places : Places,
      (∀ p, places.has p = true → explored.tried key p = true ∨ dead key p) →
      Grows dead explored ((explored.take (Explored.row key .choice)).2.put
        (Explored.row key .choice) places) := fun places => Grows.of_put hex.origin
  have hsound := (hex.mono (List.subset_cons_self key keys)).put hkey
  have hplaces := explored.has_take_fst hex.origin key
  have horigin := (explored.origin_take (Explored.row key .choice)).trans hex.origin
  rw [longestRun]
  generalize explored.take (Explored.row key .choice) = taken at hgrow hsound hplaces horigin ⊢
  obtain ⟨places, rest⟩ := taken
  simp only [rest.distance_eq horigin, hplaces]
  split
  · rename_i htried
    rw [hnone_iff.2 (hex.tried key List.mem_cons_self i htried)]
    exact .failed (hgrow places fun p hp => .inl (hplaces p ▸ hp))
  · obtain ⟨n, hstops⟩ : ∃ n, Stops subject s i i (places.add i)
        (Regular.follow (.whole subject) s ((Window.whole subject).room i) i i (places.add i)) n :=
      follow_stops (runLength_le s i)
    generalize Regular.follow _ _ _ _ _ _ = followed at hstops ⊢
    obtain ⟨stop, places'⟩ := followed
    obtain rfl : stop = i + n := hstops.stop
    have hanswers := farthestFirst_answers subject (n := n) fun m after hafter =>
      hk (i + m) slots after ((hsound places').grow hafter)
    have htried : ∀ p, i < p → (places.add i).has p = true →
        (Regular.run key true s).DeadEnd subject fails p := by
      intro p hp hhas
      rw [Places.has_add, Bool.or_eq_true, beq_iff_eq, hplaces] at hhas
      exact (hdead p).1 (hex.tried key List.mem_cons_self p (hhas.resolve_left (by omega)))
    rw [← farthest_of_stops hfails hstops htried] at hanswers
    simp only [Nat.add_sub_cancel_left]
    generalize ho : farthest follow i (runLength subject s i) slots = o at hanswers ⊢
    generalize farthestFirst _ _ _ _ _ _ = a at hanswers ⊢
    cases hanswers with
    | found place slots => exact .found place slots
    | failed hgrows =>
      have hend := (hdead i).1 (hnone_iff.1 ho)
      have hwithin : ∀ p, i ≤ p → p ≤ i + n → dead key p := fun p hip hpn => by
        obtain ⟨m, rfl⟩ := Nat.exists_eq_add_of_le hip
        have hle := hstops.le
        exact (hdead _).2 (deadEnd_run_add hend (by omega))
      refine .failed ((hgrow places' fun p hp => ?_).trans hgrows)
      rw [hstops.explored, Places.has_add, Bool.or_eq_true, beq_iff_eq, hplaces] at hp
      rcases hp with (rfl | hp) | hp
      · exact .inr (hwithin p (by omega) (by omega))
      · exact .inl hp
      · exact .inr (hwithin p (by omega) (by omega))

/-- By induction on the characters that can be read. The places behind the one where the run is
have not been explored in vain. -/
theorem shortestRun_answers
    (hdead : ∀ p, dead key p ↔ (Regular.run key false s).DeadEnd subject fails p) {fuel : Nat}
    (hfuel : runLength subject s i < fuel) (hex : Sound dead keys explored)
    (htried : ∀ p, i ≤ p → explored.tried key p = true → dead key p) :
    Attempt.Answers dead explored (nearest follow i (runLength subject s i) slots)
      (shortestRun (.whole subject) (Explored.row key .choice) s k fuel i slots explored) := by
  induction fuel generalizing i explored with
  | zero => omega
  | succ fuel ih =>
    have hnone_iff : dead key i ↔ nearest follow i (runLength subject s i) slots = none := by
      simp only [nearest_eq_none_iff, hdead, deadEnd_run, hfails]
    rw [shortestRun]
    refine .explore hex.origin (htried i le_rfl) hnone_iff ?_
    have hhere := hk i slots _ (hex.add hkey i)
    have hlast : nearest follow i 0 slots = (follow i slots).or none := by
      simp [nearest]
    rcases hnext : (Window.whole subject).next? i with - | c
    · rw [runLength_of_none hnext, hlast]
      exact hhere.orElse fun after _ _ => .failed (.refl after)
    · have hlength := runLength_of_some (s := s) hnext
      simp only
      split at hlength
      · rename_i hs
        rw [hlength, nearest_succ]
        simp only [hs, if_true, Window.whole_move]
        refine hhere.orElse fun after _ hafter => ?_
        refine ih (by omega) ((hex.add hkey i).grow hafter) fun p hp hpt => ?_
        rcases hafter.tried key p hpt with hpt | hpt
        · rw [explored.tried_add hex.origin, Bool.or_eq_true, Bool.and_eq_true, beq_iff_eq,
            beq_iff_eq] at hpt
          exact htried p (by omega) (hpt.resolve_left (by omega))
        · exact hpt
      · rename_i hs
        rw [hlength, hlast]
        refine hhere.orElse fun after _ _ => ?_
        simp only [hs]
        exact .failed (.refl after)

end

end Regular

end

/-! ## Expressions and searches -/

namespace Regular

section
variable {subject : Array Char} {dead : Nat → Nat → Prop}

/-- An attempt hands on the first way that what follows takes, and if there is none, it remembers
nothing but dead ends. By induction on the expression: what follows the first of two expressions
fails exactly where the second is a dead end. -/
theorem exec_answers {e : Regular} (hfree : e.loopFree = true) {others : List Nat}
    (hkeys : (e.keys ++ others).Nodup) {follow : Nat → Slots → Option (Nat × Slots)}
    {fails : Nat → Prop} (hfails : ∀ j slots, follow j slots = none ↔ fails j)
    (hdead : ∀ choice ∈ e.choices subject fails, ∀ p, dead choice.1 p ↔ choice.2 p)
    {k : Continuation} (hk : ∀ j slots explored, Sound dead others explored →
      Attempt.Answers dead explored (follow j slots) (k j slots explored))
    {i : Nat} {slots : Slots} {explored : Explored}
    (hex : Sound dead (e.keys ++ others) explored) :
    Attempt.Answers dead explored (e.first subject follow i slots)
      (e.exec (.whole subject) i slots explored k) := by
  induction e generalizing others follow fails k i slots explored with
  | empty =>
    simp only [first, ways, findSome?_cons_or, List.findSome?_nil, Option.or_none]
    exact hk i slots explored hex
  | never => exact .failed (.refl explored)
  | one s =>
    simp only [first, ways, exec]
    rcases (Window.whole subject).next? i with - | c
    · exact .failed (.refl explored)
    · simp only
      split
      · simp only [findSome?_cons_or, List.findSome?_nil, Option.or_none]
        exact hk (i + 1) slots explored hex
      · exact .failed (.refl explored)
  | check a =>
    have hexec : (Regular.check a).exec (.whole subject) i slots explored k =
        if a.holds subject i then k i slots explored else .failed explored := rfl
    rw [hexec]
    simp only [first, ways]
    split
    · simp only [findSome?_cons_or, List.findSome?_nil, Option.or_none]
      exact hk i slots explored hex
    · exact .failed (.refl explored)
  | seq first rest ihFirst ihRest =>
    obtain ⟨hfirst, hrest⟩ := Bool.and_eq_true_iff.1 hfree
    rw [first_seq, exec]
    rw [keys, List.append_assoc] at hkeys hex
    have hfails' : ∀ j slots, rest.first subject follow j slots = none ↔
        rest.DeadEnd subject fails j := fun _ _ => first_eq_none_iff hrest hfails
    refine ihFirst hfirst hkeys hfails'
      (fun choice hc => hdead choice (List.mem_append_left _ hc)) ?_ hex
    intro j slots explored hex
    exact ihRest hrest (List.nodup_append.1 hkeys).2.1 hfails
      (fun choice hc => hdead choice (List.mem_append_right _ hc)) hk hex
  | alt key first rest ihFirst ihRest =>
    have hnone_iff : (Regular.alt key first rest).first subject follow i slots = none ↔
        (Regular.alt key first rest).DeadEnd subject fails i := first_eq_none_iff hfree hfails
    obtain ⟨hfirst, hrest⟩ := Bool.and_eq_true_iff.1 hfree
    rw [keys, List.cons_append, List.append_assoc] at hkeys hex
    obtain ⟨hkey, hkeys⟩ := List.nodup_cons.1 hkeys
    have hsub : first.keys ++ others ⊆ first.keys ++ (rest.keys ++ others) := by
      grind
    have hinner := (hex.mono (List.subset_cons_self _ _)).add hkey i
    rw [exec]
    refine .explore hex.origin (hex.tried key List.mem_cons_self i)
      ((hdead _ List.mem_cons_self i).trans hnone_iff.symm) ?_
    rw [first_alt]
    refine (ihFirst hfirst (hkeys.sublist ?_) hfails
      (fun choice hc => hdead choice (.tail _ (List.mem_append_left _ hc))) hk
      (hinner.mono hsub)).orElse fun after _ hafter => ?_
    · exact (List.sublist_append_right _ _).append_left _
    · exact ihRest hrest (List.nodup_append.1 hkeys).2.1 hfails
        (fun choice hc => hdead choice (.tail _ (List.mem_append_right _ hc))) hk
        ((hinner.mono (List.subset_append_right _ _)).grow hafter)
  | group n e ih =>
    rw [first_group, exec]
    refine ih hfree hkeys (fun j slots => hfails j _) hdead ?_ hex
    exact fun j slots explored hex => hk j _ explored hex
  | optional key greedy e ih =>
    have hnone_iff : (Regular.optional key greedy e).first subject follow i slots = none ↔
        (Regular.optional key greedy e).DeadEnd subject fails i := first_eq_none_iff hfree hfails
    obtain ⟨hkey, hkeys⟩ := List.nodup_cons.1 hkeys
    have hinner := (hex.mono (List.subset_cons_self _ _)).add hkey i
    rw [exec]
    refine .explore hex.origin (hex.tried key List.mem_cons_self i)
      ((hdead _ List.mem_cons_self i).trans hnone_iff.symm) ?_
    rw [first_optional]
    refine .either (fun after hafter => ?_) fun after hafter => ?_
    · exact ih hfree hkeys hfails (fun choice hc => hdead choice (.tail _ hc)) hk
        (hinner.grow hafter)
    · exact hk i slots after ((hinner.grow hafter).mono (List.subset_append_right _ _))
  | run key greedy s =>
    obtain ⟨hkey, -⟩ := List.nodup_cons.1 hkeys
    have hdead' := hdead _ List.mem_cons_self
    rw [first_run]
    cases greedy with
    | true => exact longestRun_answers hkey hfails hk hdead' hex
    | false =>
      exact shortestRun_answers hkey hfails hk hdead' (Nat.lt_succ_of_le (runLength_le s i))
        (hex.mono (List.subset_cons_self _ _)) fun p _ => hex.tried key List.mem_cons_self p
  | loop => cases hfree

/-- The keys of an expression are told apart, so each choice can have dead ends of its own. -/
theorem exists_dead {e : Regular} (hfree : e.loopFree = true) (hkeys : e.keys.Nodup)
    (fails : Nat → Prop) :
    ∃ dead : Nat → Nat → Prop, ∀ choice ∈ e.choices subject fails, ∀ p,
      dead choice.1 p ↔ choice.2 p := by
  have hfst : (e.choices subject fails).map Prod.fst = e.keys := by
    clear hkeys
    induction e generalizing fails with
    | loop => cases hfree
    | seq first rest ihFirst ihRest =>
      obtain ⟨hfirst, hrest⟩ := Bool.and_eq_true_iff.1 hfree
      rw [choices, List.map_append, ihFirst hfirst, ihRest hrest, keys]
    | alt key first rest ihFirst ihRest =>
      obtain ⟨hfirst, hrest⟩ := Bool.and_eq_true_iff.1 hfree
      rw [choices, List.map_cons, List.map_append, ihFirst hfirst, ihRest hrest, keys]
    | group n e ih => exact ih hfree fails
    | optional key greedy e ih => rw [choices, List.map_cons, ih hfree, keys]
    | _ => rfl
  refine ⟨fun key p => ∃ leads, (key, leads) ∈ e.choices subject fails ∧ leads p, ?_⟩
  rintro ⟨key, leads⟩ hmem p
  refine ⟨fun ⟨other, hother, hp⟩ => ?_, fun hp => ⟨leads, hmem, hp⟩⟩
  rw [← hfst] at hkeys
  have heq := List.inj_on_of_nodup_map hkeys hother hmem rfl
  rw [← (Prod.mk.inj heq).2]
  exact hp

theorem searchFrom_eq {e : Regular} (hfree : e.loopFree = true) (hkeys : e.keys.Nodup)
    {dead : Nat → Nat → Prop} (hdead : ∀ choice ∈ e.choices subject fun _ => False, ∀ p,
      dead choice.1 p ↔ choice.2 p) {slots : Slots} {fuel i : Nat} {explored : Explored}
    (hex : Sound dead e.keys explored) :
    e.searchFrom subject slots fuel i explored =
      ((List.range' i fuel).findSome? fun j => (e.ways subject j slots).head?).map Prod.snd := by
  induction fuel generalizing i explored with
  | zero => rfl
  | succ fuel ih =>
    have hfirst : e.first subject (fun j slots => some (j, slots)) i slots =
        (e.ways subject i slots).head? := by
      rw [first]
      rcases e.ways subject i slots with - | ⟨way, more⟩ <;> rfl
    have hanswers : Attempt.Answers dead explored
        (e.first subject (fun j slots => some (j, slots)) i slots)
        (e.exec (.whole subject) i slots explored fun j slots _ => .found j slots) :=
      exec_answers hfree (by rwa [List.append_nil]) (fun j slots => by simp) hdead
        (fun j slots _ _ => .found j slots) (by rwa [List.append_nil])
    rw [hfirst] at hanswers
    rw [searchFrom, List.range'_succ, findSome?_cons_or]
    generalize (e.ways subject i slots).head? = o at hanswers ⊢
    generalize e.exec _ _ _ _ _ = a at hanswers ⊢
    cases hanswers with
    | found place found => rfl
    | failed grows => exact ih (hex.grow grows)

/-- A search finds the first way to match from the leftmost place where there is one. -/
theorem search_eq_first {e : Regular} (hfree : e.loopFree = true) (hkeys : e.keys.Nodup)
    (slots : Slots) :
    e.search subject slots 0 =
      ((List.range (subject.size + 1)).findSome? fun i => (e.ways subject i slots).head?).map
        Prod.snd := by
  obtain ⟨dead, hdead⟩ : ∃ dead : Nat → Nat → Prop,
      ∀ choice ∈ e.choices subject fun _ => False, ∀ p, dead choice.1 p ↔ choice.2 p :=
    exists_dead hfree hkeys _
  rw [search, Nat.sub_zero, searchFrom_eq hfree hkeys hdead, List.range_eq_range']
  exact ⟨rfl, fun key _ p hp => by simp [Explored.tried, Explored.has, Explored.startingAt,
    Places.has] at hp⟩

/-- A search fails if and only if no part of the text is accepted. -/
theorem search_eq_none_iff {e : Regular} (hfree : e.loopFree = true) (hkeys : e.keys.Nodup)
    {slots : Slots} :
    e.search subject slots 0 = none ↔
      ∀ i ≤ subject.size, ∀ cs, e.Accepts subject i cs → ¬ Reads subject i cs := by
  rw [search_eq_first hfree hkeys, Option.map_eq_none_iff, List.findSome?_eq_none_iff]
  simp only [List.mem_range, Nat.lt_succ_iff, List.head?_eq_none_iff,
    List.eq_nil_iff_forall_not_mem, Prod.forall, mem_ways_iff, accepts_iff_marks hfree slots]
  constructor
  · rintro h i hi cs ⟨after, hcs⟩ hreads
    exact h i hi _ after ⟨cs, hcs, hreads, rfl⟩
  · rintro h i hi j after ⟨cs, hcs, hreads, -⟩
    exact h i hi cs ⟨after, hcs⟩ hreads

/-- What a search finds are the groups of a part of the text. -/
theorem search_marks {e : Regular} (hfree : e.loopFree = true) (hkeys : e.keys.Nodup)
    {slots found : Slots}
    (h : e.search subject slots 0 = some found) :
    ∃ i ≤ subject.size, ∃ cs, e.Marks subject i cs slots found ∧ Reads subject i cs := by
  rw [search_eq_first hfree hkeys, Option.map_eq_some_iff] at h
  obtain ⟨⟨j, after⟩, hfirst, rfl⟩ := h
  obtain ⟨i, hi, hhead⟩ := List.exists_of_findSome?_eq_some hfirst
  obtain ⟨cs, hcs, hreads, -⟩ := mem_ways_iff.1 (List.mem_of_head? hhead)
  exact ⟨i, Nat.lt_succ_iff.1 (List.mem_range.1 hi), cs, hcs, hreads⟩

end

end Regular

end SourcePrep.Pattern
