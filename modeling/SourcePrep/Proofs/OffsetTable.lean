import SourcePrep.Proofs.DocumentAlgebra
import Mathlib.Data.List.Sort
import Mathlib.Data.Prod.Lex

/-!
# Offsets, lines and columns

The table of offsets is increasing, so a search by halving finds an entry that equals an offset, or
else the one place where the offset could be put in without spoiling the order. Line and column are
read off either answer. `offsetOf` looks for the first greater entry instead, and comes to the same.

* `Sought`: all that is promised of the answer of a search, and `exists_sought`: there is one.
* `Places`: line and column of an offset. `Places.lt_of_line_lt` says that the lines divide the
  offsets in order, which makes line and column unique and increasing.
* `offsetOf_inverts`: whatever the search answers, the line and column read off the answer are those
  of the offset, and every entry of the table is column zero of its line.
-/

set_option autoImplicit false

namespace SourcePrep.Document

/-! ## Searching a table -/

/-- The answer of a search for an offset in a table: some entry that equals it, or, when there is
none, the place where it could be put in so that the table stays in order. -/
inductive Sought (table : List Nat) (offset : Nat) : Except Nat Nat → Prop
  | found {i : Nat} (entry : table[i]? = some offset) : Sought table offset (.ok i)
  | missed {i : Nat} (absent : offset ∉ table) (inside : i ≤ table.length)
      (ordered : (table.take i ++ offset :: table.drop i).Pairwise (· ≤ ·)) :
      Sought table offset (.error i)

theorem exists_sought {table : List Nat} (h : table.Pairwise (· ≤ ·)) (offset : Nat) :
    ∃ answer, Sought table offset answer := by
  by_cases hmem : offset ∈ table
  · obtain ⟨i, hi⟩ := List.mem_iff_getElem?.1 hmem
    exact ⟨.ok i, .found hi⟩
  · obtain ⟨front, back, rfl, hinsert⟩ : ∃ front back, table = front ++ back ∧
        (front ++ offset :: back).Pairwise (· ≤ ·) := by
      refine ⟨table.takeWhile fun x => ¬ offset ≤ x, table.dropWhile fun x => ¬ offset ≤ x,
        List.takeWhile_append_dropWhile.symm, ?_⟩
      rw [← List.orderedInsert_eq_take_drop]
      exact h.orderedInsert offset table
    exact ⟨.error front.length, .missed hmem (by simp) (by simpa using hinsert)⟩

/-- Line and column as they are read off the answer of a search; there are none when that takes a
look behind the table or goes below zero. -/
def placeBy? {κ : Type} (d : Document κ) (offset : Nat) : Except Nat Nat → Option (Nat × Nat)
  | .ok line => some (line, 0)
  | .error next => do
    let start ← d.offsets[next - 1]?
    if start ≤ offset then some (next - 1, offset - start) else none

/-! ## Line and column -/

section
variable {κ : Type} [LineKind κ]

/-- Line and column of an offset: it lies so far behind the start of the line, and the line is that
long, or else it is the one behind the last and the offset lies at or behind the end. -/
structure Places (d : Document κ) (offset : Nat) (place : Nat × Nat) : Prop where
  start : ∃ start, d.offsets[place.1]? = some start ∧ offset = start + place.2
  column : (∃ l, d.lines[place.1]? = some l ∧ place.2 < l.size) ∨
    place.1 = d.lineCount ∧ d.size ≤ offset ∧ place.2 = offset - d.size

variable {d : Document κ}

theorem Represented.offsets_mono (hd : d.Represented) {i j : Nat} (h : i ≤ j) {o p : Nat}
    (hi : d.offsets[i]? = some o) (hj : d.offsets[j]? = some p) : o ≤ p := by
  obtain ⟨hlti, rfl⟩ := List.getElem?_eq_some_iff.1 hi
  obtain ⟨hltj, rfl⟩ := List.getElem?_eq_some_iff.1 hj
  rcases Nat.lt_or_eq_of_le h with h | rfl
  · exact Nat.le_of_lt (List.pairwise_iff_getElem.1 hd.increasing i j hlti hltj h)
  · exact Nat.le_refl _

variable [LawfulLineKind κ]

/-- An offset in an earlier line is smaller. -/
theorem Places.lt_of_line_lt (hd : d.Represented) {offset offset' : Nat} {p p' : Nat × Nat}
    (h : d.Places offset p) (h' : d.Places offset' p') (hlt : p.1 < p'.1) : offset < offset' := by
  obtain ⟨start', hstart', rfl⟩ := h'.start
  have hin : p'.1 < d.lineCount + 1 := by
    rw [← hd.length]
    exact (List.getElem?_eq_some_iff.1 hstart').1
  obtain ⟨l, hl, hcolumn⟩ | ⟨hline, -⟩ := h.column
  · obtain ⟨start, hstart, rfl⟩ := h.start
    obtain ⟨start₁, hstart₁, hnext⟩ := hd.step _ _ hl
    obtain rfl : start = start₁ := by simpa [hstart] using hstart₁
    have := hd.offsets_mono hlt hnext hstart'
    rw [← l.size_canonical] at this
    omega
  · omega

/-- Line and column grow with the offset. -/
theorem Places.lt (hd : d.Represented) {offset offset' : Nat} {p p' : Nat × Nat}
    (h : d.Places offset p) (h' : d.Places offset' p') (hlt : offset < offset') :
    toLex p < toLex p' := by
  rw [Prod.Lex.toLex_lt_toLex]
  rcases Nat.lt_trichotomy p.1 p'.1 with hline | hline | hline
  · exact .inl hline
  · obtain ⟨start, hstart, rfl⟩ := h.start
    obtain ⟨start', hstart', rfl⟩ := h'.start
    obtain rfl : start = start' := by simpa [hline, hstart'] using hstart.symm
    exact .inr ⟨hline, by omega⟩
  · exact absurd (h'.lt_of_line_lt hd h hline) (by omega)

theorem Places.unique (hd : d.Represented) {offset : Nat} {p p' : Nat × Nat}
    (h : d.Places offset p) (h' : d.Places offset p') : p = p' := by
  rcases Nat.lt_trichotomy p.1 p'.1 with hline | hline | hline
  · exact absurd (h.lt_of_line_lt hd h' hline) (Nat.lt_irrefl _)
  · obtain ⟨start, hstart, hoffset⟩ := h.start
    obtain ⟨start', hstart', hoffset'⟩ := h'.start
    obtain rfl : start = start' := by simpa [hline, hstart'] using hstart.symm
    exact Prod.ext hline (by omega)
  · exact absurd (h'.lt_of_line_lt hd h hline) (Nat.lt_irrefl _)

namespace WellFormed

theorem offsets_lineCount (hd : d.WellFormed) : d.offsets[d.lineCount]? = some d.size := by
  rw [hd.size_eq_sum]
  exact hd.offsets_get (show d.lines = d.lines ++ [] by simp)

/-- An offset at or behind the end is in the line behind the last. -/
theorem offsetOf_past (hd : d.WellFormed) {offset : Nat} (h : d.size ≤ offset) :
    d.offsetOf offset = (d.lineCount, offset - d.size) := by
  have hline : d.offsets.findIdx (offset < ·) - 1 = d.lineCount := by
    rw [List.findIdx_eq_length_of_false, hd.represented.length, Nat.add_sub_cancel]
    intro o ho
    obtain ⟨i, hi⟩ := List.mem_iff_getElem?.1 ho
    have hlt := (List.getElem?_eq_some_iff.1 hi).1
    rw [hd.represented.length] at hlt
    have := hd.represented.offsets_mono (Nat.le_of_lt_succ hlt) hi hd.offsets_lineCount
    simp only [decide_eq_false_iff_not]
    omega
  rw [offsetOf, hline, hd.offsets_lineCount, Option.getD_some]

/-- Every offset has the line and column that are looked up for it. -/
theorem places (hd : d.WellFormed) (offset : Nat) : d.Places offset (d.offsetOf offset) := by
  rcases Nat.lt_or_ge offset d.size with hlt | hge
  · cases hd.place (Nat.le_of_lt hlt) with
    | @inside before after l column lines inner =>
      rw [hd.offsetOf_column lines inner]
      exact ⟨⟨_, hd.offsets_get lines, rfl⟩, .inl ⟨l, by simp [lines], inner⟩⟩
    | atEnd => exact absurd hlt (by rw [hd.size_eq_sum]; omega)
  · rw [hd.offsetOf_past hge]
    exact ⟨⟨_, hd.offsets_lineCount, by simp only; omega⟩, .inr ⟨rfl, hge, rfl⟩⟩

theorem offsetOf_eq (hd : d.WellFormed) {offset : Nat} {place : Nat × Nat}
    (h : d.Places offset place) : d.offsetOf offset = place :=
  (hd.places offset).unique hd.represented h

/-- Line and column of an entry of the table. -/
theorem places_entry (hd : d.WellFormed) {i start : Nat} (h : d.offsets[i]? = some start) :
    d.Places start (i, 0) := by
  have hin := (List.getElem?_eq_some_iff.1 h).1
  rw [hd.represented.length] at hin
  refine ⟨⟨start, h, rfl⟩, ?_⟩
  rcases Nat.lt_or_eq_of_le (Nat.le_of_lt_succ hin) with hlt | rfl
  · have hl : d.lines[i]? = some d.lines[i] := List.getElem?_eq_getElem hlt
    exact .inl ⟨_, hl, Nat.pos_of_ne_zero (hd.nonempty _ (List.getElem_mem hlt))⟩
  · obtain rfl : start = d.size := by simpa [h] using hd.offsets_lineCount
    exact .inr ⟨rfl, Nat.le_refl _, by simp⟩

/-- Line and column of an offset between two entries. -/
theorem places_between (hd : d.WellFormed) {i start offset : Nat}
    (hstart : d.offsets[i]? = some start) (hle : start ≤ offset)
    (hnext : ∀ next, d.offsets[i + 1]? = some next → offset < next) :
    d.Places offset (i, offset - start) := by
  have hin := (List.getElem?_eq_some_iff.1 hstart).1
  rw [hd.represented.length] at hin
  refine ⟨⟨start, hstart, by simp only; omega⟩, ?_⟩
  rcases Nat.lt_or_eq_of_le (Nat.le_of_lt_succ hin) with hlt | rfl
  · obtain ⟨start₁, hstart₁, hentry⟩ := hd.represented.step i _ (List.getElem?_eq_getElem hlt)
    obtain rfl : start = start₁ := by simpa [hstart] using hstart₁
    have := hnext _ hentry
    rw [← Line.size_canonical] at this
    exact .inl ⟨_, List.getElem?_eq_getElem hlt, by simp only; omega⟩
  · obtain rfl : start = d.size := by simpa [hstart] using hd.offsets_lineCount
    exact .inr ⟨rfl, hle, rfl⟩

/-- The line and column read off any answer of a search are those of the offset. -/
theorem placeBy?_eq (hd : d.WellFormed) {offset : Nat} {answer : Except Nat Nat}
    (h : Sought d.offsets offset answer) :
    d.placeBy? offset answer = some (d.offsetOf offset) := by
  cases h with
  | found entry => rw [placeBy?, hd.offsetOf_eq (hd.places_entry entry)]
  | @missed i absent inside ordered =>
    rw [List.pairwise_append, List.pairwise_cons] at ordered
    obtain ⟨-, ⟨hafter, -⟩, hbefore⟩ := ordered
    have hafter' : ∀ o ∈ d.offsets.drop i, offset < o := fun o ho =>
      Nat.lt_of_le_of_ne (hafter o ho) fun heq => absent (heq ▸ List.mem_of_mem_drop ho)
    have hfirst := hd.represented.first
    -- the table starts with zero, and no offset could be put in before that
    obtain ⟨i, rfl⟩ : ∃ j, i = j + 1 := by
      refine Nat.exists_eq_succ_of_ne_zero fun hzero => ?_
      have := hafter' 0 (by simpa [hzero] using List.mem_of_getElem? hfirst)
      omega
    have hstart : d.offsets[i]? = some d.offsets[i] := List.getElem?_eq_getElem inside
    have hle : d.offsets[i] ≤ offset :=
      hbefore _ (List.mem_take_iff_getElem.2 ⟨i, by omega, rfl⟩) _ List.mem_cons_self
    have hnext : ∀ next, d.offsets[i + 1]? = some next → offset < next := fun next hnext =>
      hafter' next (List.mem_of_getElem? (i := 0) (by rwa [List.getElem?_drop]))
    rw [hd.offsetOf_eq (hd.places_between hstart hle hnext)]
    simp [placeBy?, hstart, hle]

end WellFormed

/-- Line and column can be looked up for every offset, by whatever search of the table: they are the
one pair that places the offset in a line, or at or behind the end. They grow with the offset, and
every entry of the table is at column zero. -/
theorem offsetOf_inverts (hd : d.WellFormed) :
    (∀ offset, (∃ answer, Sought d.offsets offset answer) ∧
      ∀ answer, Sought d.offsets offset answer →
        d.placeBy? offset answer = some (d.offsetOf offset)) ∧
    (∀ offset place, d.Places offset place ↔ place = d.offsetOf offset) ∧
    StrictMono (fun offset => toLex (d.offsetOf offset)) ∧
    ∀ i start, d.offsets[i]? = some start → d.offsetOf start = (i, 0) := by
  refine ⟨fun offset => ⟨?_, fun answer h => hd.placeBy?_eq h⟩, fun offset place => ?_,
    fun offset offset' h => ?_, fun i start h => hd.offsetOf_eq (hd.places_entry h)⟩
  · exact exists_sought (hd.represented.increasing.imp Nat.le_of_lt) offset
  · exact ⟨fun h => (hd.offsetOf_eq h).symm, fun h => h ▸ hd.places offset⟩
  · exact (hd.places offset).lt hd.represented (hd.places offset') h

/-- An offset in the middle of the second line, and one behind the end. -/
theorem offsetOf_inverts_indented :
    indented.WellFormed ∧ indented.offsets = [0, 5, 8] ∧
      Sought indented.offsets 6 (.error 2) ∧ indented.placeBy? 6 (.error 2) = some (1, 1) ∧
      indented.offsetOf 6 = (1, 1) ∧ indented.offsetOf 11 = (2, 3) ∧
      indented.offsetOf 5 = (1, 0) := by
  have hd : indented.WellFormed := wellFormed_ofLines _ _
  have htable : indented.offsets = [0, 5, 8] := by decide
  have hsought : Sought indented.offsets 6 (.error 2) := by
    rw [htable]
    exact .missed (by decide) (by decide) (by decide)
  have hplace : indented.offsetOf 6 = (1, 1) := by decide
  obtain ⟨hsearch, hunique, -, hentry⟩ := offsetOf_inverts hd
  refine ⟨hd, htable, hsought, ?_, hplace, ?_, hentry 1 5 (by rw [htable]; rfl)⟩
  · rw [(hsearch 6).2 _ hsought, hplace]
  · refine ((hunique 11 (2, 3)).1 ⟨⟨8, by rw [htable]; rfl, rfl⟩, .inr ?_⟩).symm
    decide

end

end SourcePrep.Document
