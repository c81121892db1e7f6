import SourcePrep.Proofs.LineKinds

/-!
# Cuts of a document, lookup by lookup

`slice` and `splice` are total: a line or an offset that is not there counts as nothing. Here both
are written with every look that they take into the lines and the offsets, and with every cut of a
line; each of these may fail.

* `sliceByLookup?_eq` and `spliceByLookup?_eq`: for a well-formed document they fail exactly where
  `slice?` and `splice?` do, which is where a character is cut in two.
* `WellFormed.dropLines`: the lines from one on are the slice from its offset on.
-/

set_option autoImplicit false

namespace SourcePrep

namespace Text

theorem isCut_zero (s : String) : isCut s 0 = true := isCut_iff.2 ⟨"", s, by simp, rfl⟩

theorem isCut_size (s : String) : isCut s (size s) = true := isCut_iff.2 ⟨s, "", by simp, rfl⟩

end Text

/-- The part of a line between two offsets in order, each between two characters. -/
def Line.slice? {κ : Type} [LineKind κ] (l : Line κ) (start stop : Nat) : Option (Line κ) :=
  if start ≤ stop ∧ Text.isCut l.canonical start ∧ Text.isCut l.canonical stop then
    some (l.slice start stop)
  else none

theorem Line.isCut_size {κ : Type} [LineKind κ] [LawfulLineKind κ] (l : Line κ) :
    Text.isCut l.canonical l.size = true := by
  rw [l.size_canonical, Text.isCut_size]

namespace Document

section
variable {κ : Type} [LineKind κ]

/-- `offsetOf`, with a look at the offset where the line starts. -/
def offsetOf? (d : Document κ) (offset : Nat) : Option (Nat × Nat) := do
  let line := d.offsets.findIdx (offset < ·) - 1
  let start ← d.offsets[line]?
  if start ≤ offset then some (line, offset - start) else none

/-- The lines from number `i` up to number `j`, when these are in order and in range. -/
def linesIn? (d : Document κ) (i j : Nat) : Option (List (Line κ)) :=
  if i ≤ j ∧ j ≤ d.lineCount then some ((d.lines.drop i).take (j - i)) else none

/-- The part of line `i` before a column; the line is looked at only when there is something. -/
def partBefore? (d : Document κ) (i column : Nat) : Option (List (Line κ)) :=
  if 0 < column then d.lines[i]?.bind fun line => (line.slice? 0 column).map ([·]) else some []

/-- The part of line `i` that a cut at a column leaves; the line is looked at only when it is
cut. -/
def partAfter? (d : Document κ) (i column : Nat) : Option (List (Line κ)) :=
  if 0 < column then d.lines[i]?.bind fun line => (line.slice? column line.size).map ([·])
  else some []

/-- `slice`, lookup by lookup. -/
def sliceByLookup? (d : Document κ) (start stop : Nat) : Option (Document κ) := do
  let stop := min stop d.size
  if stop ≤ start then some (empty d.config)
  else
    let (first, firstColumn) ← d.offsetOf? start
    let (last, lastColumn) ← d.offsetOf? stop
    let line ← d.lines[first]?
    if first = last then
      let part ← line.slice? firstColumn lastColumn
      some (ofLines [part] d.config)
    else
      let front ← line.slice? firstColumn line.size
      let inner ← d.linesIn? (first + 1) last
      let back ← d.partBefore? last lastColumn
      some (ofLines (front :: inner ++ back) d.config)

/-- `splice`, lookup by lookup. -/
def spliceByLookup? (d : Document κ) (start stop : Nat) (replacement : Document κ) :
    Option (Document κ) := do
  let stop := min stop d.size
  let start := min start stop
  let (first, firstColumn) ← d.offsetOf? start
  let (last, lastColumn) ← d.offsetOf? stop
  let head ← d.partBefore? first firstColumn
  let tail ← d.partAfter? last lastColumn
  let after := if 0 < lastColumn then last + 1 else last
  let _ ← d.linesIn? first after
  let base ← d.offsets[first]?
  let touched := head ++ replacement.lines ++ tail ++ d.lines.drop after
  some
    { lines := d.lines.take first ++ touched
      config := d.config
      offsets := d.offsets.take (first + 1) ++ offsetsFrom base touched }

/-! ## Where an offset falls -/

/-- An offset falls into a line, perhaps at its start, or behind the last line. -/
inductive Place (d : Document κ) : Nat → Prop
  | inside (before : List (Line κ)) {after : List (Line κ)} {l : Line κ} {column : Nat}
      (lines : d.lines = before ++ l :: after) (inner : column < l.size) :
      Place d ((before.map Line.size).sum + column)
  | atEnd : Place d (d.lines.map Line.size).sum

theorem place_of_le {ls : List (Line κ)} {offset : Nat}
    (h : offset < (ls.map Line.size).sum) :
    ∃ before l after column, ls = before ++ l :: after ∧ column < l.size ∧
      offset = (before.map Line.size).sum + column := by
  induction ls generalizing offset with
  | nil => simp at h
  | cons l ls ih =>
    by_cases hin : offset < l.size
    · exact ⟨[], l, ls, offset, rfl, hin, by simp⟩
    · rw [List.map_cons, List.sum_cons] at h
      have hrest : offset - l.size < (ls.map Line.size).sum := by omega
      obtain ⟨before, m, after, column, rfl, hcolumn, hoffset⟩ := ih hrest
      refine ⟨l :: before, m, after, column, rfl, hcolumn, ?_⟩
      rw [List.map_cons, List.sum_cons]
      omega

end

section
variable {κ : Type} [LineKind κ] [LawfulLineKind κ] {d : Document κ}

namespace WellFormed

theorem size_eq_sum (hd : d.WellFormed) : d.size = (d.lines.map Line.size).sum := by
  rw [hd.size_eq, text_eq, size_textOf]

theorem place (hd : d.WellFormed) {offset : Nat} (h : offset ≤ d.size) : d.Place offset := by
  rw [hd.size_eq_sum] at h
  rcases Nat.lt_or_eq_of_le h with h | rfl
  · obtain ⟨before, l, after, column, hlines, hcolumn, rfl⟩ := place_of_le h
    exact .inside before hlines hcolumn
  · exact .atEnd

theorem offsets_get (hd : d.WellFormed) {before after : List (Line κ)}
    (h : d.lines = before ++ after) :
    d.offsets[before.length]? = some (before.map Line.size).sum := by
  have hlt : before.length < d.offsets.length := by
    rw [hd.offsets, h, List.length_cons, length_offsetsFrom, List.length_append]
    omega
  have := hd.offset_eq h
  rw [size_textOf, List.getElem?_eq_getElem hlt, Option.getD_some] at this
  rw [List.getElem?_eq_getElem hlt, this]

omit [LawfulLineKind κ] in
theorem findIdx_inside (hd : d.WellFormed) {before after : List (Line κ)} {l : Line κ}
    {column : Nat} (h : d.lines = before ++ l :: after) (hcolumn : column < l.size) :
    d.offsets.findIdx ((before.map Line.size).sum + column < ·) - 1 = before.length := by
  rw [hd.offsets, h, List.findIdx_cons]
  simpa using findIdx_offsetsFrom 0 before after hcolumn

theorem findIdx_end (hd : d.WellFormed) :
    d.offsets.findIdx ((d.lines.map Line.size).sum < ·) - 1 = d.lines.length := by
  have := congrArg Prod.fst hd.offsetOf_end
  rwa [text_eq, size_textOf] at this

theorem offsetOf_column (hd : d.WellFormed) {before after : List (Line κ)} {l : Line κ}
    {column : Nat} (h : d.lines = before ++ l :: after) (hcolumn : column < l.size) :
    d.offsetOf ((before.map Line.size).sum + column) = (before.length, column) := by
  rw [offsetOf, hd.findIdx_inside h hcolumn, hd.offsets_get h, Option.getD_some,
    Nat.add_sub_cancel_left]

theorem offsetOf_sum (hd : d.WellFormed) :
    d.offsetOf (d.lines.map Line.size).sum = (d.lines.length, 0) := by
  rw [← size_textOf, ← text_eq, hd.offsetOf_end]

theorem offsetOf_size (hd : d.WellFormed) : d.offsetOf d.size = (d.lines.length, 0) := by
  rw [hd.size_eq, hd.offsetOf_end]

/-- The start of a line is always found. -/
theorem offsetOf?_eq (hd : d.WellFormed) {offset : Nat} (h : offset ≤ d.size) :
    d.offsetOf? offset = some (d.offsetOf offset) := by
  cases hd.place h with
  | inside before lines inner =>
    rw [offsetOf?, offsetOf, hd.findIdx_inside lines inner, hd.offsets_get lines]
    simp
  | atEnd =>
    rw [offsetOf?, offsetOf, hd.findIdx_end, hd.offsets_get (show d.lines = d.lines ++ [] by simp)]
    simp

/-- The line of an offset before the end is there, and one at the end is behind the last line. -/
theorem offsetOf_cases (hd : d.WellFormed) {offset : Nat} (h : offset ≤ d.size) :
    (∃ l, d.lines[(d.offsetOf offset).1]? = some l ∧ (d.offsetOf offset).2 < l.size) ∨
      offset = d.size ∧ d.offsetOf offset = (d.lines.length, 0) := by
  cases hd.place h with
  | @inside before after l column lines inner =>
    refine .inl ⟨l, ?_, ?_⟩
    · rw [hd.offsetOf_column lines inner, lines]
      simp
    · rw [hd.offsetOf_column lines inner]
      exact inner
  | atEnd => exact .inr ⟨hd.size_eq_sum.symm, hd.offsetOf_sum⟩

theorem line_le (hd : d.WellFormed) {offset : Nat} (h : offset ≤ d.size) :
    (d.offsetOf offset).1 ≤ d.lineCount := by
  obtain ⟨l, hl, -⟩ | ⟨-, hend⟩ := hd.offsetOf_cases h
  · exact Nat.le_of_lt (List.getElem?_eq_some_iff.1 hl).1
  · rw [hend]
    exact Nat.le_refl _

/-- The line that a cut falls into is there. -/
theorem after_le (hd : d.WellFormed) {offset : Nat} (h : offset ≤ d.size) :
    (if 0 < (d.offsetOf offset).2 then (d.offsetOf offset).1 + 1 else (d.offsetOf offset).1) ≤
      d.lineCount := by
  obtain ⟨l, hl, -⟩ | ⟨-, hend⟩ := hd.offsetOf_cases h
  · have := (List.getElem?_eq_some_iff.1 hl).1
    rw [lineCount]
    split <;> omega
  · simp [hend, lineCount]

theorem offset_exists (hd : d.WellFormed) {offset : Nat} (h : offset ≤ d.size) :
    ∃ base, d.offsets[(d.offsetOf offset).1]? = some base := by
  have hline := hd.line_le h
  refine ⟨_, List.getElem?_eq_getElem ?_⟩
  rw [hd.offsets, List.length_cons, length_offsetsFrom]
  exact Nat.lt_succ_of_le hline

end WellFormed

omit [LineKind κ] [LawfulLineKind κ] in
theorem offsetOf_mono (d : Document κ) {start stop : Nat} (h : start ≤ stop) :
    (d.offsetOf start).1 ≤ (d.offsetOf stop).1 := by
  have hidx : d.offsets.findIdx (start < ·) ≤ d.offsets.findIdx (stop < ·) := by
    induction d.offsets with
    | nil => exact Nat.le_refl _
    | cons o os ih =>
      rw [List.findIdx_cons, List.findIdx_cons]
      by_cases hstop : stop < o
      · simp [hstop, Nat.lt_of_le_of_lt h hstop]
      · by_cases hstart : start < o
        · simp [hstart]
        · simpa [hstart, hstop] using ih
  exact Nat.sub_le_sub_right hidx 1

omit [LineKind κ] [LawfulLineKind κ] in
/-- Within one line the columns are in order. -/
theorem column_mono (d : Document κ) {start stop : Nat} (h : start ≤ stop)
    (hline : (d.offsetOf start).1 = (d.offsetOf stop).1) :
    (d.offsetOf start).2 ≤ (d.offsetOf stop).2 := by
  simp only [offsetOf] at hline ⊢
  rw [hline]
  omega

omit [LawfulLineKind κ] in
theorem isCut_column {offset : Nat} {l : Line κ} (hl : d.lines[(d.offsetOf offset).1]? = some l) :
    d.isCut offset = Text.isCut l.canonical (d.offsetOf offset).2 := by
  simp only [isCut, hl]

namespace WellFormed

theorem partBefore?_eq (hd : d.WellFormed) {offset : Nat} (h : offset ≤ d.size) :
    d.partBefore? (d.offsetOf offset).1 (d.offsetOf offset).2 =
      if d.isCut offset then
        some (if 0 < (d.offsetOf offset).2 then
          d.cutLine (d.offsetOf offset).1 0 (d.offsetOf offset).2 else [])
      else none := by
  obtain ⟨l, hl, hcolumn⟩ | ⟨-, hend⟩ := hd.offsetOf_cases h
  · rw [isCut_column hl, partBefore?, hl]
    by_cases hzero : 0 < (d.offsetOf offset).2
    · simp only [if_pos hzero, Option.bind_some, Line.slice?, cutLine, hl, Text.isCut_zero,
        Nat.zero_le, true_and]
      split <;> rfl
    · have hz : (d.offsetOf offset).2 = 0 := by omega
      simp [hz, Text.isCut_zero]
  · simp [Document.isCut, partBefore?, hend]

theorem partAfter?_eq (hd : d.WellFormed) {offset : Nat} (h : offset ≤ d.size) :
    d.partAfter? (d.offsetOf offset).1 (d.offsetOf offset).2 =
      if d.isCut offset then
        some (if 0 < (d.offsetOf offset).2 then
          d.cutLineFrom (d.offsetOf offset).1 (d.offsetOf offset).2 else [])
      else none := by
  obtain ⟨l, hl, hcolumn⟩ | ⟨-, hend⟩ := hd.offsetOf_cases h
  · rw [isCut_column hl, partAfter?, hl]
    by_cases hzero : 0 < (d.offsetOf offset).2
    · simp only [if_pos hzero, Option.bind_some, Line.slice?, cutLineFrom, hl, l.isCut_size,
        Nat.le_of_lt hcolumn, true_and, and_true]
      split <;> rfl
    · have hz : (d.offsetOf offset).2 = 0 := by omega
      simp [hz, Text.isCut_zero]
  · simp [Document.isCut, partAfter?, hend]

theorem sliceByLookup?_eq (hd : d.WellFormed) (start stop : Nat) :
    d.sliceByLookup? start stop = d.slice? start stop := by
  simp only [sliceByLookup?, slice?, slice]
  have hstop : min stop d.size ≤ d.size := Nat.min_le_right ..
  generalize min stop d.size = stop at hstop ⊢
  by_cases hle : stop ≤ start
  · simp [hle]
  · have horder : start ≤ stop := by omega
    have hmono := d.offsetOf_mono horder
    have hcolumns := d.column_mono horder
    obtain ⟨l, hl, hcolumn⟩ | ⟨h, -⟩ := hd.offsetOf_cases (Nat.le_trans horder hstop)
    · simp only [hd.offsetOf?_eq hstop, hd.offsetOf?_eq (show start ≤ d.size by omega), hle, hl,
        if_false, Option.bind_eq_bind, Option.bind_some, hd.partBefore?_eq hstop, false_or,
        isCut_column hl]
      by_cases hsame : (d.offsetOf start).1 = (d.offsetOf stop).1
      · have hl' := hl
        rw [hsame] at hl'
        simp only [if_pos hsame, isCut_column hl', Line.slice?, hcolumns hsame, true_and, cutLine,
          hl]
        split <;> rfl
      · have hlines : d.linesIn? ((d.offsetOf start).1 + 1) (d.offsetOf stop).1 = some _ :=
          if_pos ⟨by omega, hd.line_le hstop⟩
        simp only [if_neg hsame, hlines, Line.slice?, l.isCut_size, Nat.le_of_lt hcolumn, true_and,
          and_true, cutLineFrom, hl]
        by_cases hcut : Text.isCut l.canonical (d.offsetOf start).2 = true
        · by_cases hcut' : d.isCut stop = true
          · simp [hcut, hcut']
          · simp [hcut, hcut']
        · simp [hcut]
    · omega

theorem spliceByLookup?_eq (hd : d.WellFormed) (start stop : Nat) (r : Document κ) :
    d.spliceByLookup? start stop r = d.splice? start stop r := by
  simp only [spliceByLookup?, splice?, splice]
  have hstop : min stop d.size ≤ d.size := Nat.min_le_right ..
  generalize min stop d.size = stop at hstop ⊢
  have hstart : min start stop ≤ stop := Nat.min_le_right ..
  generalize min start stop = start at hstart ⊢
  have hmono := d.offsetOf_mono hstart
  have hlines : d.linesIn? (d.offsetOf start).1
      (if 0 < (d.offsetOf stop).2 then (d.offsetOf stop).1 + 1 else (d.offsetOf stop).1) = some _ :=
    if_pos ⟨by split <;> omega, hd.after_le hstop⟩
  obtain ⟨base, hbase⟩ := hd.offset_exists (Nat.le_trans hstart hstop)
  simp only [hd.offsetOf?_eq hstop, hd.offsetOf?_eq (Nat.le_trans hstart hstop),
    Option.bind_eq_bind, Option.bind_some, hd.partBefore?_eq (Nat.le_trans hstart hstop),
    hd.partAfter?_eq hstop, hlines,
    hbase, Option.getD_some]
  by_cases hcut : d.isCut start = true
  · by_cases hcut' : d.isCut stop = true
    · simp [hcut, hcut']
    · simp [hcut, hcut']
  · simp [hcut]

end WellFormed

end

/-! ## Slices up to the end -/

section
variable {κ : Type} [LineKind κ] {d : Document κ}

theorem isCut_of_column {offset line : Nat} (h : d.offsetOf offset = (line, 0)) :
    d.isCut offset = true := by
  simp only [isCut, h]
  split
  · exact Text.isCut_zero _
  · rfl

variable [ExactLineKind κ]

/-- The slice from an offset on has the lines after it. -/
theorem WellFormed.slice_from (hd : d.WellFormed) (start : Nat) :
    d.slice start d.size = Document.ofLines (d.linesFrom (min start d.size)) d.config := by
  have hend := hd.offsetOf_size
  simp only [Document.slice, Nat.min_self, hend]
  split
  · rename_i hpast
    rw [Nat.min_eq_right hpast]
    simp only [linesFrom, hend]
    simp [empty]
  · rename_i hbefore
    rw [Nat.min_eq_left (by omega)]
    congr 1
    obtain ⟨l, hl, -⟩ | ⟨hsize, -⟩ := hd.offsetOf_cases (show start ≤ d.size by omega)
    · obtain ⟨hlt, hget⟩ := List.getElem?_eq_some_iff.1 hl
      have hrest : (d.lines.drop ((d.offsetOf start).1 + 1)).take
          (d.lines.length - ((d.offsetOf start).1 + 1)) = d.lines.drop ((d.offsetOf start).1 + 1) :=
        List.take_of_length_le (by simp)
      simp only [linesFrom, if_neg (Nat.ne_of_lt hlt), Nat.lt_irrefl, if_false, List.append_nil,
        hrest]
      split
      · rfl
      · rename_i hcolumn
        have hzero : (d.offsetOf start).2 = 0 := by omega
        rw [cutLineFrom, hl, hzero, Option.map_some, Option.toList_some, l.slice_whole,
          List.nil_append, List.singleton_append, ← hget, List.getElem_cons_drop]
    · omega

/-- The lines from one on are the slice from its offset on. -/
theorem WellFormed.dropLines (hd : d.WellFormed) {n : Nat} (hn : n ≤ d.lineCount) :
    ∃ offset, d.offsets[n]? = some offset ∧
      d.sliceByLookup? offset d.size = some (ofLines (d.lines.drop n) d.config) := by
  have hsplit := (List.take_append_drop n d.lines).symm
  have hlength : (d.lines.take n).length = n := List.length_take_of_le hn
  have hoffset := hd.offsets_get hsplit
  rw [hlength] at hoffset
  have hstart : d.offsetOf ((d.lines.take n).map Line.size).sum = (n, 0) := by
    rcases hdrop : d.lines.drop n with - | ⟨l, rest⟩
    · rw [hdrop, List.append_nil] at hsplit
      rw [← hsplit, hd.offsetOf_sum, ← hlength, ← hsplit]
    · rw [hdrop] at hsplit
      have hl : 0 < l.size := Nat.pos_of_ne_zero (hd.nonempty l (by rw [hsplit]; simp))
      have hinside := hd.offsetOf_column hsplit hl
      rwa [hlength, Nat.add_zero] at hinside
  have hle : ((d.lines.take n).map Line.size).sum ≤ d.size := by
    have hsum := congrArg (fun ls => (ls.map Line.size).sum) hsplit
    simp only [List.map_append, List.sum_append] at hsum
    rw [hd.size_eq_sum]
    omega
  refine ⟨_, hoffset, ?_⟩
  rw [hd.sliceByLookup?_eq, slice?, Nat.min_self,
    if_pos (.inr ⟨isCut_of_column hstart, isCut_of_column hd.offsetOf_size⟩), hd.slice_from,
    Nat.min_eq_left hle]
  simp only [linesFrom, hstart, Nat.lt_irrefl, if_false, List.nil_append]

end

end Document

end SourcePrep
