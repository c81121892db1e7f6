import SourcePrep.Proofs.DocumentAlgebra

/-!
# Slices and the text

A slice keeps the part of a document between two offsets. Both ends are looked up in the table of
offsets, and a line that an end falls into is cut in the way of its kind: among its spaces, among
its tabs or in its content.

* `Row`: a line with the offsets where it starts and ends in the text of its document.
* `WellFormed.slice_lines`: the lines of a slice are those that meet the range, each cut to it.
* `slice_covers`: what a slice is, for its text, the positions of its lines and the lines that it
  keeps whole, whatever kind of line the document has.
-/

set_option autoImplicit false

namespace SourcePrep

namespace Document

/-! ## Lines and where they stand -/

/-- A line of a document, with the offsets where it starts and where it ends. -/
structure Row (κ : Type) where
  line : Line κ
  start : Nat
  stop : Nat

section
variable {κ : Type} [LineKind κ]

/-- Lines in a row, the first of which starts at the given offset. -/
def rowsFrom (offset : Nat) : List (Line κ) → List (Row κ)
  | [] => []
  | l :: ls => ⟨l, offset, offset + l.size⟩ :: rowsFrom (offset + l.size) ls

/-- The lines of the document, each with the offsets where it starts and ends. -/
def rows (d : Document κ) : List (Row κ) := rowsFrom 0 d.lines

/-- The line has a part between two offsets. -/
def Row.meets (start stop : Nat) (row : Row κ) : Bool :=
  max start row.start < min stop row.stop

/-- The part of the line between two offsets. -/
def Row.cut (start stop : Nat) (row : Row κ) : Line κ :=
  row.line.slice (start - row.start) (min stop row.stop - row.start)

theorem rowsFrom_append (offset : Nat) (ls ms : List (Line κ)) :
    rowsFrom offset (ls ++ ms) =
      rowsFrom offset ls ++ rowsFrom (offset + (ls.map Line.size).sum) ms := by
  induction ls generalizing offset with
  | nil => simp [rowsFrom]
  | cons l ls ih => simp [rowsFrom, ih, Nat.add_assoc]

theorem Row.bounds {offset : Nat} {ls : List (Line κ)} {row : Row κ}
    (h : row ∈ rowsFrom offset ls) :
    row.line ∈ ls ∧ offset ≤ row.start ∧ row.stop = row.start + row.line.size ∧
      row.stop ≤ offset + (ls.map Line.size).sum := by
  induction ls generalizing offset with
  | nil => simp [rowsFrom] at h
  | cons l ls ih =>
    rw [List.map_cons, List.sum_cons]
    rcases List.mem_cons.1 h with rfl | h
    · exact ⟨List.mem_cons_self, by simp, rfl, by simp⟩
    · obtain ⟨hmem, hstart, hsize, hstop⟩ := ih h
      exact ⟨List.mem_cons_of_mem l hmem, by omega, hsize, by omega⟩

/-- The parts of some lines between two offsets, the first line starting at the given one. -/
def cutsFrom (offset start stop : Nat) (ls : List (Line κ)) : List (Line κ) :=
  ((rowsFrom offset ls).filter (Row.meets start stop)).map (Row.cut start stop)

section
variable {offset start stop : Nat} {ls : List (Line κ)}

theorem cutsFrom_append (offset start stop : Nat) (ls ms : List (Line κ)) :
    cutsFrom offset start stop (ls ++ ms) =
      cutsFrom offset start stop ls ++
        cutsFrom (offset + (ls.map Line.size).sum) start stop ms := by
  simp only [cutsFrom, rowsFrom_append, List.filter_append, List.map_append]

theorem cutsFrom_before (h : offset + (ls.map Line.size).sum ≤ start) :
    cutsFrom offset start stop ls = [] := by
  rw [cutsFrom, List.map_eq_nil_iff, List.filter_eq_nil_iff]
  intro row hrow
  have := Row.bounds hrow
  simp only [Row.meets, decide_eq_true_eq]
  omega

theorem cutsFrom_after (h : stop ≤ offset) : cutsFrom offset start stop ls = [] := by
  rw [cutsFrom, List.map_eq_nil_iff, List.filter_eq_nil_iff]
  intro row hrow
  have := Row.bounds hrow
  simp only [Row.meets, decide_eq_true_eq]
  omega

theorem cutsFrom_cons_of_meets {l : Line κ}
    (h : max start offset < min stop (offset + l.size)) :
    cutsFrom offset start stop (l :: ls) =
      l.slice (start - offset) (min stop (offset + l.size) - offset) ::
        cutsFrom (offset + l.size) start stop ls := by
  rw [cutsFrom, rowsFrom, List.filter_cons_of_pos (by simpa [Row.meets] using h)]
  rfl

variable [ExactLineKind κ]

/-- A line that lies between the offsets is kept as it is. -/
theorem Row.cut_whole {row : Row κ} (h : row.stop = row.start + row.line.size)
    (hstart : start ≤ row.start) (hstop : row.stop ≤ stop) : row.cut start stop = row.line := by
  have hfirst : start - row.start = 0 := by omega
  have hlast : min stop row.stop - row.start = row.line.size := by omega
  rw [cut, hfirst, hlast, Line.slice_whole]

theorem cutsFrom_whole (hfull : ∀ l ∈ ls, l.size ≠ 0) (hstart : start ≤ offset)
    (hstop : offset + (ls.map Line.size).sum ≤ stop) : cutsFrom offset start stop ls = ls := by
  induction ls generalizing offset with
  | nil => rfl
  | cons l ls ih =>
    have hl : l.size ≠ 0 := hfull l List.mem_cons_self
    rw [List.map_cons, List.sum_cons] at hstop
    have hfirst : start - offset = 0 := by omega
    have hlast : min stop (offset + l.size) - offset = l.size := by omega
    rw [cutsFrom_cons_of_meets (by omega), hfirst, hlast, Line.slice_whole,
      ih (fun m hm => hfull m (List.mem_cons_of_mem l hm)) (by omega) (by omega)]

/-- A range that starts inside a line cuts it, and holds the lines up to where it stops. -/
theorem cutsFrom_back {before mid rest : List (Line κ)} {l : Line κ} {column : Nat}
    (hmid : ∀ m ∈ mid, m.size ≠ 0) (hcolumn : column < l.size)
    (hstart : start = (before.map Line.size).sum + column)
    (hstop : (before.map Line.size).sum + l.size + (mid.map Line.size).sum ≤ stop) :
    cutsFrom 0 start stop (before ++ l :: (mid ++ rest)) =
      l.slice column l.size :: (mid ++
        cutsFrom ((before.map Line.size).sum + l.size + (mid.map Line.size).sum) start stop
          rest) := by
  have hfirst : start - (0 + (before.map Line.size).sum) = column := by omega
  have hlast : min stop (0 + (before.map Line.size).sum + l.size) -
      (0 + (before.map Line.size).sum) = l.size := by omega
  rw [cutsFrom_append, cutsFrom_before (by omega), cutsFrom_cons_of_meets (by omega), hfirst,
    hlast, cutsFrom_append, cutsFrom_whole hmid (by omega) (by omega), Nat.zero_add,
    List.nil_append]

omit [ExactLineKind κ] in
/-- A range that stops inside a line cuts it, unless it stops before the line. -/
theorem cutsFrom_front [LawfulLineKind κ] {m : Line κ} {more : List (Line κ)} {x y : String}
    (hm : m.canonical = x ++ y) (hstart : start ≤ offset) (hstop : stop = offset + Text.size x) :
    (if 0 < Text.size x then ((m :: more).head?.map (·.slice 0 (Text.size x))).toList else []) =
        cutsFrom offset start stop (m :: more) ∧
      ∀ k ∈ cutsFrom offset start stop (m :: more), k.size ≠ 0 := by
  by_cases hx : 0 < Text.size x
  · have hsize : m.size = Text.size x + Text.size y := by
      rw [Line.size_canonical, hm, Text.size_append]
    have hfirst : start - offset = 0 := by omega
    have hlast : min stop (offset + m.size) - offset = Text.size x := by omega
    have hcut : cutsFrom offset start stop (m :: more) = [m.slice 0 (Text.size x)] := by
      rw [cutsFrom_cons_of_meets (by omega), cutsFrom_after (by omega), hfirst, hlast]
    rw [if_pos hx, hcut]
    refine ⟨rfl, fun k hk => ?_⟩
    rw [List.mem_singleton.1 hk, Line.size_canonical, m.canonical_sliceTo hm]
    omega
  · rw [if_neg hx, cutsFrom_after (by omega)]
    exact ⟨rfl, by simp⟩

end

/-! ## The lines of a slice -/

variable {d : Document κ}

/-- A cut inside a line, or behind the last one. -/
theorem WellFormed.offsetOf_apart [LawfulLineKind κ] (hd : d.WellFormed)
    {front rest : List (Line κ)} {x : String} (lines : d.lines = front ++ rest)
    (hrest : (rest = [] ∧ x = "") ∨
      ∃ m more y, rest = m :: more ∧ m.canonical = x ++ y ∧ y ≠ "") :
    d.offsetOf (Text.size (textOf front ++ x)) = (front.length, Text.size x) := by
  obtain ⟨rfl, rfl⟩ | ⟨m, more, y, rfl, hm, hy⟩ := hrest
  · have hend := hd.offsetOf_end
    rw [text_eq, lines, List.append_nil] at hend
    simpa using hend
  · exact hd.offsetOf_inside lines hm hy

/-- Both cuts fall inside one line. -/
theorem WellFormed.linesBetween_same_eq [LawfulLineKind κ] (hd : d.WellFormed)
    {before after : List (Line κ)} {l : Line κ} {x b z : String} {start stop : Nat}
    (lines : d.lines = before ++ l :: after) (line : l.canonical = x ++ b ++ z) (hb : b ≠ "")
    (inner : z ≠ "") (hfrom : start = Text.size (textOf before ++ x))
    (hto : stop = Text.size (textOf before ++ x ++ b)) :
    d.linesBetween start stop = cutsFrom 0 start stop d.lines ∧
      ∀ m ∈ d.linesBetween start stop, m.size ≠ 0 := by
  have hstart : d.offsetOf start = (before.length, Text.size x) := by
    rw [hfrom]
    exact hd.offsetOf_inside lines (line.trans (String.append_assoc ..))
      (by simp [String.append_eq_empty_iff, inner])
  have hstop : d.offsetOf stop = (before.length, Text.size (x ++ b)) := by
    rw [hto, String.append_assoc]
    exact hd.offsetOf_inside lines line inner
  have hbetween : d.linesBetween start stop =
      [l.slice (Text.size x) (Text.size x + Text.size b)] := by
    simp only [linesBetween, hstart, hstop, if_pos]
    simp [cutLine, lines]
  have hsizes : l.size = Text.size x + Text.size b + Text.size z := by
    rw [Line.size_canonical, line, Text.size_append, Text.size_append]
  have hbpos := Text.size_eq_zero.not.2 hb
  have hzpos := Text.size_eq_zero.not.2 inner
  have hs : start = (before.map Line.size).sum + Text.size x := by
    rw [hfrom, Text.size_append, size_textOf]
  have ht : stop = (before.map Line.size).sum + Text.size x + Text.size b := by
    rw [hto, Text.size_append, Text.size_append, size_textOf]
  constructor
  · have hmeets : max start (0 + (before.map Line.size).sum) <
        min stop (0 + (before.map Line.size).sum + l.size) := by omega
    have hfirst : start - (0 + (before.map Line.size).sum) = Text.size x := by omega
    have hlast : min stop (0 + (before.map Line.size).sum + l.size) -
        (0 + (before.map Line.size).sum) = Text.size x + Text.size b := by omega
    rw [hbetween, lines, cutsFrom_append, cutsFrom_before (by omega),
      cutsFrom_cons_of_meets hmeets, cutsFrom_after (by omega), hfirst, hlast]
    rfl
  · rw [hbetween]
    intro m hm
    rw [List.mem_singleton.1 hm, Line.size_canonical, l.canonical_slice line]
    exact hbpos

/-- The lines between two cuts in different lines: the back of the one, all that follow it, and the
front of the other. -/
theorem linesBetween_lines {before mid rest : List (Line κ)} {l : Line κ} {start stop : Nat}
    {column column' : Nat} (lines : d.lines = before ++ l :: (mid ++ rest))
    (hstart : d.offsetOf start = (before.length, column))
    (hstop : d.offsetOf stop = ((before ++ l :: mid).length, column')) :
    d.linesBetween start stop =
      l.slice column l.size ::
        (mid ++ if 0 < column' then (rest.head?.map (·.slice 0 column')).toList else []) := by
  have hne : before.length ≠ (before ++ l :: mid).length := by simp
  have hcount : (before ++ l :: mid).length - (before.length + 1) = mid.length := by
    rw [List.length_append, List.length_cons]
    omega
  have hmid : (d.lines.drop (before.length + 1)).take mid.length = mid := by simp [lines]
  have hlast : d.lines[(before ++ l :: mid).length]? = rest.head? := by
    rw [lines, ← List.cons_append, ← List.append_assoc, List.getElem?_append_right (Nat.le_refl _),
      Nat.sub_self, List.head?_eq_getElem?]
  have hfront : d.cutLineFrom before.length column = [l.slice column l.size] := by
    simp [cutLineFrom, lines]
  simp only [linesBetween, hstart, hstop, if_neg hne, hcount, hmid, hfront, cutLine, hlast]
  rfl

/-- The cuts fall inside different lines, or the second one behind the last. -/
theorem WellFormed.linesBetween_apart_eq [ExactLineKind κ] (hd : d.WellFormed)
    {before mid rest : List (Line κ)} {l : Line κ} {x y x' : String}
    (lines : d.lines = before ++ l :: (mid ++ rest)) (line : l.canonical = x ++ y) (inner : y ≠ "")
    {start stop : Nat}
    (hrest : (rest = [] ∧ x' = "") ∨
      ∃ m more y', rest = m :: more ∧ m.canonical = x' ++ y' ∧ y' ≠ "")
    (hfrom : start = Text.size (textOf before ++ x))
    (hto : stop = Text.size (textOf before ++ x ++ (y ++ textOf mid ++ x'))) :
    d.linesBetween start stop = cutsFrom 0 start stop d.lines ∧
      ∀ m ∈ d.linesBetween start stop, m.size ≠ 0 := by
  have hypos := Text.size_eq_zero.not.2 inner
  have hmid : ∀ m ∈ mid, m.size ≠ 0 := fun m hm => hd.nonempty m (by simp [lines, hm])
  have hfull : (l.slice (Text.size x) l.size).size ≠ 0 := by
    rw [Line.size_canonical, l.canonical_sliceFrom line]
    exact hypos
  have hsizes : l.size = Text.size x + Text.size y := by
    rw [Line.size_canonical, line, Text.size_append]
  have hs : start = (before.map Line.size).sum + Text.size x := by
    rw [hfrom, Text.size_append, size_textOf]
  have ht : stop =
      (before.map Line.size).sum + l.size + (mid.map Line.size).sum + Text.size x' := by
    rw [hto]
    simp only [Text.size_append, size_textOf, hsizes]
    omega
  have hstart : d.offsetOf start = (before.length, Text.size x) := by
    rw [hfrom]
    exact hd.offsetOf_inside lines line inner
  have hstop : d.offsetOf stop = ((before ++ l :: mid).length, Text.size x') := by
    have hbefore : textOf before ++ x ++ (y ++ textOf mid ++ x') =
        textOf (before ++ l :: mid) ++ x' := by
      simp [line, String.append_assoc]
    rw [hto, hbefore]
    exact hd.offsetOf_apart (lines.trans (List.append_assoc before (l :: mid) _).symm) hrest
  have hlast : (if 0 < Text.size x' then (rest.head?.map (·.slice 0 (Text.size x'))).toList
      else []) = cutsFrom ((before.map Line.size).sum + l.size + (mid.map Line.size).sum) start stop
        rest ∧
      ∀ m ∈ cutsFrom ((before.map Line.size).sum + l.size + (mid.map Line.size).sum) start stop
        rest, m.size ≠ 0 := by
    obtain ⟨rfl, rfl⟩ | ⟨m, more, y', rfl, hm, -⟩ := hrest
    · exact ⟨rfl, by simp [cutsFrom, rowsFrom]⟩
    · exact cutsFrom_front hm (by omega) ht
  rw [linesBetween_lines lines hstart hstop, lines, hlast.1,
    cutsFrom_back hmid (by omega) hs (by omega)]
  refine ⟨rfl, fun m hm => ?_⟩
  rcases List.mem_cons.1 hm with rfl | hm
  · exact hfull
  · rcases List.mem_append.1 hm with hm | hm
    · exact hmid m hm
    · exact hlast.2 m hm

/-- Only what lies in the document of the end of a range matters. -/
theorem WellFormed.cutsFrom_clamped [LawfulLineKind κ] (hd : d.WellFormed) (start stop : Nat) :
    cutsFrom 0 start (min stop d.size) d.lines = cutsFrom 0 start stop d.lines := by
  have hclamp : ∀ row ∈ d.rows, min (min stop d.size) row.stop = min stop row.stop := by
    intro row hrow
    have hbounds := Row.bounds hrow
    rw [hd.size_eq_sum]
    omega
  have hfilter : d.rows.filter (Row.meets start (min stop d.size)) =
      d.rows.filter (Row.meets start stop) :=
    List.filter_congr fun row hrow => by rw [Row.meets, Row.meets, hclamp row hrow]
  rw [cutsFrom, cutsFrom, show rowsFrom 0 d.lines = d.rows from rfl, hfilter]
  refine List.map_congr_left fun row hrow => ?_
  rw [Row.cut, Row.cut, hclamp row (List.mem_of_mem_filter hrow)]

/-- The lines of a slice are the lines that meet the range, each cut to it. -/
theorem WellFormed.slice_lines [ExactLineKind κ] (hd : d.WellFormed) {start stop : Nat}
    (hstart : start < d.size → Text.isCut d.text start = true)
    (hstop : stop < d.size → Text.isCut d.text stop = true) :
    (d.slice start stop).lines =
      (d.rows.filter (Row.meets start stop)).map (Row.cut start stop) := by
  show _ = cutsFrom 0 start stop d.lines
  by_cases hpast : min stop d.size ≤ start
  · have hnone : cutsFrom 0 start (min stop d.size) d.lines = [] := by
      rw [cutsFrom, List.map_eq_nil_iff, List.filter_eq_nil_iff]
      intro row _
      simp only [Row.meets, decide_eq_true_eq]
      omega
    rw [slice, if_pos hpast, ← hd.cutsFrom_clamped, hnone]
    rfl
  · obtain ⟨a, b, c, htext, ha, hab⟩ := hd.split_at hstart hstop
    obtain rfl : Text.size a = start := by omega
    have hb : b ≠ "" := by
      rintro rfl
      simp at hab
      omega
    suffices hbetween : d.linesBetween (Text.size a) (Text.size (a ++ b)) =
        cutsFrom 0 (Text.size a) (Text.size (a ++ b)) d.lines ∧
          ∀ m ∈ d.linesBetween (Text.size a) (Text.size (a ++ b)), m.size ≠ 0 by
      rw [slice, if_neg hpast, ← hd.cutsFrom_clamped, ← hab, ← hbetween.1]
      exact ofLines_nonempty hbetween.2 d.config
    generalize hrest : b ++ c = rest
    have htext' : textOf d.lines = a ++ rest := by
      rw [← hrest, ← String.append_assoc]
      exact htext
    cases lineCut_of_text htext' with
    | @inside before after l x y lines line inner =>
      by_cases hin : Text.size b < Text.size y
      · obtain ⟨z, rfl, -⟩ := Text.append_split hrest (by omega)
        have hz : z ≠ "" := by
          rintro rfl
          simp at hin
        exact hd.linesBetween_same_eq lines (line.trans (String.append_assoc ..).symm) hb hz rfl rfl
      · obtain ⟨b', rfl, hafter⟩ := Text.append_split hrest.symm (by omega)
        cases lineCut_of_text hafter with
        | @inside mid after' m x' y' lines' line' inner' =>
          refine hd.linesBetween_apart_eq (lines.trans (by rw [lines'])) line inner
            (.inr ⟨m, after', y', rfl, line', inner'⟩) rfl ?_
          simp only [String.append_assoc]
        | atEnd =>
          have hlines : d.lines = before ++ l :: (after ++ []) := by rw [lines, List.append_nil]
          refine hd.linesBetween_apart_eq hlines line inner (.inl ⟨rfl, rfl⟩) rfl ?_
          rw [String.append_empty]
    | atEnd =>
      exact absurd (String.append_eq_empty_iff.1 hrest).1 hb

/-! ## The bytes of a slice -/

omit [LineKind κ] in
theorem extract_middle (a b c : String) :
    (a ++ b ++ c).toByteArray.extract (Text.size a) (Text.size (a ++ b)) = b.toByteArray := by
  have hnone : c.toByteArray.extract (Text.size a - Text.size (a ++ b)) 0 = ByteArray.empty :=
    ByteArray.extract_eq_empty_iff.2 (by omega)
  rw [String.toByteArray_append, ByteArray.extract_append, String.size_toByteArray, Nat.sub_self,
    hnone, ByteArray.append_empty, String.toByteArray_append]
  exact ByteArray.extract_append_eq_right String.size_toByteArray.symm (by simp)

/-- The text of a slice: nothing when the range is empty, and the bytes of the range otherwise. -/
theorem WellFormed.slice_bytes [LawfulLineKind κ] (hd : d.WellFormed) {start stop : Nat}
    (hstart : start < d.size → Text.isCut d.text start = true)
    (hstop : stop < d.size → Text.isCut d.text stop = true) :
    (d.slice start stop).text.toByteArray =
      d.text.toByteArray.extract start (min stop d.size) := by
  by_cases hpast : min stop d.size ≤ start
  · have hnone : d.text.toByteArray.extract start (min stop d.size) = ByteArray.empty :=
      ByteArray.extract_eq_empty_iff.2 (by omega)
    rw [slice, if_pos hpast, hnone]
    rfl
  · obtain ⟨a, b, c, htext, ha, hab⟩ := hd.split_at hstart hstop
    obtain rfl : Text.size a = start := by omega
    have hb : b ≠ "" := by
      rintro rfl
      simp at hab
      omega
    have hclamp : d.slice (Text.size a) stop = d.slice (Text.size a) (Text.size (a ++ b)) := by
      simp only [slice, hab, Nat.min_assoc, Nat.min_self]
    rw [hclamp, hd.slice_text htext hb, ← hab, htext, extract_middle]

/-- A slice between two places of the text that divide no character answers. Its text is the bytes
between them; its lines stand, in order, for the lines of the document that have a byte there, each
with the position of its line, and a line that lies between the places is taken over as it is. -/
theorem slice_covers [ExactLineKind κ] (hd : d.WellFormed) {start stop : Nat}
    (hstart : start < Text.size d.text → Text.isCut d.text start = true)
    (hstop : stop < Text.size d.text → Text.isCut d.text stop = true) :
    ∃ e, d.slice? start stop = some e ∧
      e.text.toByteArray = d.text.toByteArray.extract start (min stop (Text.size d.text)) ∧
      List.Forall₂ (fun row l => l.position = row.line.position ∧
          (start ≤ row.start → row.stop ≤ stop → l = row.line))
        (d.rows.filter (Row.meets start stop)) e.lines ∧
      e.config = d.config := by
  rw [← hd.size_eq] at hstart hstop ⊢
  refine ⟨d.slice start stop, ?_, hd.slice_bytes hstart hstop, ?_, ?_⟩
  · by_cases hpast : min stop d.size ≤ start
    · exact if_pos (.inl hpast)
    · obtain ⟨a, b, c, htext, ha, hab⟩ := hd.split_at hstart hstop
      obtain rfl : Text.size a = start := by omega
      exact if_pos (.inr ⟨hd.isCut (htext.trans (String.append_assoc ..)), hab ▸ hd.isCut htext⟩)
  · rw [hd.slice_lines hstart hstop, List.forall₂_map_right_iff]
    refine List.forall₂_same.2 fun row hrow => ⟨rfl, fun hfirst hlast => ?_⟩
    obtain ⟨-, -, hsize, -⟩ := Row.bounds (List.mem_of_mem_filter hrow)
    exact Row.cut_whole hsize hfirst hlast
  · simp only [slice]
    split <;> rfl

/-- The cuts lie among the spaces of the first line, before the tab, and in the second line. -/
theorem slice_covers_measured :
    let d : Document Measured := ofLines
      [⟨⟨⟨"a"⟩, 1⟩, ⟨2, 1, "é\n"⟩⟩, ⟨⟨⟨"a"⟩, 2⟩, ⟨0, 0, "bc\n"⟩⟩] {}
    ∃ e, d.slice? 1 7 = some e ∧
      e.text.toByteArray = d.text.toByteArray.extract 1 (min 7 (Text.size d.text)) ∧
      List.Forall₂ (fun row l => l.position = row.line.position ∧
          (1 ≤ row.start → row.stop ≤ 7 → l = row.line))
        (d.rows.filter (Row.meets 1 7)) e.lines ∧
      e.config = d.config := by
  intro d
  have hstart : Text.isCut d.text 1 = true := by decide
  have hstop : Text.isCut d.text 7 = true := by decide
  exact slice_covers (wellFormed_ofLines _ _) (fun _ => hstart) (fun _ => hstop)

end

end Document

end SourcePrep
