import SourcePrep.Document.Basic
import Mathlib.Algebra.GroupWithZero.Nat
import Mathlib.Tactic.Common

/-!
# Documents and their text

A document cuts its canonical text into lines at arbitrary places. What is proved here says that the
operations on documents are operations on that text.

* `append_split`: the one fact about texts that everything rests on; of two ways to cut a text, the
  shorter front is a front of the longer one.
* `LineCut`: a cut of the text of some lines falls inside one of them, or behind the last.
  `lineCut_of_text` finds the line, and `offsetOf_inside` and `offsetOf_end` say that `offsetOf`
  finds the same one.
* `WellFormed`: no line is empty and the table of offsets is that of the lines. It is all that is
  known of a document whose lines were cut by earlier replacements.
* `slice?_text` and `splice?_text`: for a well-formed document, cutting out and replacing what lies
  between two cuts succeed, and do to the text what they say.
-/

set_option autoImplicit false

namespace SourcePrep

/-! ## Texts -/

namespace Text

theorem size_append (a b : String) : size (a ++ b) = size a + size b := String.utf8ByteSize_append

theorem size_empty : size "" = 0 := rfl

theorem size_eq_zero {a : String} : size a = 0 ↔ a = "" := String.utf8ByteSize_eq_zero_iff

theorem copies_add (c : Char) (m n : Nat) : copies c (m + n) = copies c m ++ copies c n := by
  simp [copies, ← String.ofList_append, List.replicate_append_replicate]

theorem size_copies {c : Char} (hc : c.utf8Size = 1) (n : Nat) : size (copies c n) = n := by
  induction n with
  | zero => rfl
  | succ n ih =>
    have hone : size (copies c 1) = 1 := by simp [copies, size, hc]
    rw [copies_add, size_append, ih, hone]

theorem size_copies_tab (n : Nat) : size (copies '\t' n) = n := size_copies rfl n

/-- A run of characters of a kind is taken off in one way, before one that is not of that kind. -/
theorem run_unique {p : Char → Bool} {xs xs' ys ys' : List Char} (h : xs ++ ys = xs' ++ ys')
    (hxs : xs.all p = true) (hxs' : xs'.all p = true) (hys : ∀ c ∈ ys.head?, p c = false)
    (hys' : ∀ c ∈ ys'.head?, p c = false) : xs = xs' ∧ ys = ys' := by
  have hrun : ∀ {xs ys : List Char}, xs.all p = true → (∀ c ∈ ys.head?, p c = false) →
      (xs ++ ys).takeWhile p = xs := by
    intro xs ys hxs hys
    rw [List.takeWhile_append_of_pos (List.all_eq_true.1 hxs)]
    rcases ys with - | ⟨y, ys⟩
    · simp
    · rw [List.takeWhile_cons_of_neg (Bool.not_eq_true _ ▸ hys y rfl), List.append_nil]
  have heq : xs = xs' := by rw [← hrun hxs hys, h, hrun hxs' hys']
  exact ⟨heq, List.append_cancel_left (heq ▸ h)⟩

/-- Of two ways to cut a text, the shorter front is a front of the longer one. -/
theorem append_split {a b c d : String} (h : a ++ b = c ++ d) (hsize : size a ≤ size c) :
    ∃ x, c = a ++ x ∧ b = x ++ d := by
  have hl : a.toList ++ b.toList = c.toList ++ d.toList := by
    simpa [← String.toList_append] using congrArg String.toList h
  rcases List.append_eq_append_iff.1 hl with ⟨x, hc, hb⟩ | ⟨x, ha, hd⟩
  · exact ⟨String.ofList x, by simp [← String.toList_inj, hc], by simp [← String.toList_inj, hb]⟩
  · have ha : a = c ++ String.ofList x := by simp [← String.toList_inj, ha]
    have hx : String.ofList x = "" := by
      rw [← size_eq_zero]
      have := congrArg size ha
      rw [size_append] at this
      omega
    refine ⟨"", ?_, ?_⟩
    · rw [ha, hx]; simp
    · have hb : d = String.ofList x ++ b := by simp [← String.toList_inj, hd]
      rw [hb, hx]; simp

/-- A front of a run of one character is a run of it. -/
theorem copies_split {c : Char} (hc : c.utf8Size = 1) {a b : String} {n : Nat}
    (h : copies c n = a ++ b) : a = copies c (size a) ∧ b = copies c (n - size a) := by
  have hn : n = size a + size b := by
    have := congrArg size h
    rw [size_copies hc, size_append] at this
    exact this
  have h' : copies c (size a) ++ copies c (size b) = a ++ b := by rw [← copies_add, ← hn, h]
  obtain ⟨x, ha, hb⟩ := append_split h' (by simp [size_copies hc])
  have hx : x = "" := by
    rw [← size_eq_zero]
    have := congrArg size ha
    rw [size_append, size_copies hc] at this
    omega
  subst hx
  simp only [String.append_empty, String.empty_append] at ha hb
  refine ⟨ha, ?_⟩
  rw [hn, Nat.add_sub_cancel_left, hb]

theorem slice_append (a b c : String) : slice (a ++ b ++ c) (size a) (size a + size b) = b := by
  rw [slice, ← size_append, takeBytes_append, dropBytes_append]

end Text

/-! ## Lines -/

/-- A kind of line whose operations are those of its canonical text. -/
class LawfulLineKind (κ : Type) [LineKind κ] : Prop where
  size_eq : ∀ k : κ, LineKind.size k = Text.size (LineKind.canonical k)
  canonical_slice : ∀ (k : κ) (a b c : String), LineKind.canonical k = a ++ b ++ c →
    LineKind.canonical (LineKind.slice k (Text.size a) (Text.size a + Text.size b)) = b

/-- A slice that starts among the tabs keeps the rest of them; any other is a slice of the
content. -/
theorem Normalized.canonical_slice (k : Normalized) (a b c : String)
    (h : LineKind.canonical k = a ++ b ++ c) :
    LineKind.canonical (LineKind.slice k (Text.size a) (Text.size a + Text.size b)) = b := by
  obtain ⟨level, content⟩ := k
  simp only [LineKind.canonical, LineKind.slice] at h ⊢
  rw [String.append_assoc] at h
  by_cases hstart : Text.size a < level
  · rw [if_pos hstart]
    obtain ⟨x, htabs, hrest⟩ := Text.append_split h.symm (by rw [Text.size_copies_tab]; omega)
    obtain ⟨-, hx⟩ := Text.copies_split rfl htabs
    have hsx : Text.size x = level - Text.size a := by rw [hx, Text.size_copies_tab]
    by_cases hstop : level < Text.size a + Text.size b
    · obtain ⟨y, rfl, rfl⟩ := Text.append_split hrest.symm (by omega)
      have hcut : Text.size a + Text.size (x ++ y) - level = Text.size y := by
        rw [Text.size_append]; omega
      rw [if_pos hstop, hcut, Text.takeBytes_append, Nat.min_eq_right (by omega), ← hx]
    · obtain ⟨y, rfl, rfl⟩ := Text.append_split hrest (by omega)
      have hlevel : min (Text.size a + Text.size b) level - Text.size a = Text.size b := by omega
      have hb := (Text.copies_split rfl hx.symm).1
      rw [if_neg hstop, hlevel, ← hb]
      simp
  · rw [if_neg hstart]
    obtain ⟨x, rfl, rfl⟩ := Text.append_split h (by rw [Text.size_copies_tab]; omega)
    have hsize : Text.size (Text.copies '\t' level ++ x) = level + Text.size x := by
      rw [Text.size_append, Text.size_copies_tab]
    rw [hsize, Nat.add_sub_cancel_left, Nat.add_assoc, Nat.add_sub_cancel_left,
      ← String.append_assoc, Text.slice_append]
    simp [Text.copies]

instance : LawfulLineKind Normalized where
  size_eq k := by simp [LineKind.size, LineKind.canonical, Text.size_copies_tab]
  canonical_slice := Normalized.canonical_slice

namespace Line

variable {κ : Type} [LineKind κ] [LawfulLineKind κ]

theorem size_canonical (l : Line κ) : l.size = Text.size l.canonical :=
  LawfulLineKind.size_eq l.kind

theorem canonical_slice (l : Line κ) {a b c : String} (h : l.canonical = a ++ b ++ c) :
    (l.slice (Text.size a) (Text.size a + Text.size b)).canonical = b :=
  LawfulLineKind.canonical_slice l.kind a b c h

/-- The part before a cut. -/
theorem canonical_sliceTo (l : Line κ) {a b : String} (h : l.canonical = a ++ b) :
    (l.slice 0 (Text.size a)).canonical = a := by
  simpa using l.canonical_slice (a := "") (c := b) (by simpa using h)

/-- The part after a cut. -/
theorem canonical_sliceFrom (l : Line κ) {a b : String} (h : l.canonical = a ++ b) :
    (l.slice (Text.size a) l.size).canonical = b := by
  rw [size_canonical, h, Text.size_append]
  exact l.canonical_slice (c := "") (by simpa using h)

end Line

/-! ## Cuts between lines and inside of them -/

namespace Document

/-- The text of some lines. -/
def textOf {κ : Type} [LineKind κ] (ls : List (Line κ)) : String :=
  String.join (ls.map Line.canonical)

section
variable {κ : Type} [LineKind κ]

@[simp] theorem textOf_nil : textOf ([] : List (Line κ)) = "" := rfl

@[simp] theorem textOf_cons (l : Line κ) (ls : List (Line κ)) :
    textOf (l :: ls) = l.canonical ++ textOf ls := by
  simp [textOf]

@[simp] theorem textOf_append (ls ms : List (Line κ)) :
    textOf (ls ++ ms) = textOf ls ++ textOf ms := by
  simp [textOf]

/-- A cut of the text of some lines: it falls inside one of them, perhaps at its start, or behind the
last. -/
inductive LineCut (ls : List (Line κ)) : String → String → Prop
  | inside (before : List (Line κ)) {after : List (Line κ)} {l : Line κ} {x y : String}
      (lines : ls = before ++ l :: after) (line : l.canonical = x ++ y) (inner : y ≠ "") :
      LineCut ls (textOf before ++ x) (y ++ textOf after)
  | atEnd : LineCut ls (textOf ls) ""

theorem LineCut.cons {ls : List (Line κ)} {a b : String} (h : LineCut ls a b) (l : Line κ) :
    LineCut (l :: ls) (l.canonical ++ a) b := by
  cases h with
  | @inside before after m x y lines line inner =>
    rw [← String.append_assoc, ← textOf_cons]
    exact .inside (l :: before) (by rw [lines]; rfl) line inner
  | atEnd =>
    rw [← textOf_cons]
    exact .atEnd

theorem lineCut_of_text {ls : List (Line κ)} {a b : String} (h : textOf ls = a ++ b) :
    LineCut ls a b := by
  induction ls generalizing a with
  | nil =>
    obtain ⟨rfl, rfl⟩ : a = "" ∧ b = "" := String.append_eq_empty_iff.1 h.symm
    exact .atEnd
  | cons l ls ih =>
    rw [textOf_cons] at h
    by_cases hin : Text.size a < Text.size l.canonical
    · obtain ⟨y, hl, rfl⟩ := Text.append_split h.symm (by omega)
      have hy : y ≠ "" := by
        rintro rfl
        simp [hl] at hin
      simpa using (LineCut.inside [] rfl hl hy : LineCut (l :: ls) _ _)
    · obtain ⟨x, rfl, hls⟩ := Text.append_split h (by omega)
      exact (ih hls).cons l

end

/-! ## Well-formed documents -/

/-- No line is empty, and the table of offsets is that of the lines. -/
structure WellFormed {κ : Type} [LineKind κ] (d : Document κ) : Prop where
  nonempty : ∀ l ∈ d.lines, l.size ≠ 0
  offsets : d.offsets = 0 :: offsetsFrom 0 d.lines

section
variable {κ : Type} [LineKind κ] {d e : Document κ} {start stop : Nat}

theorem eq_slice_of_slice? (h : d.slice? start stop = some e) : e = d.slice start stop := by
  rw [slice?] at h
  split at h
  · exact (Option.some.inj h).symm
  · cases h

theorem eq_splice_of_splice? {new : Document κ} (h : d.splice? start stop new = some e) :
    e = d.splice start stop new := by
  rw [splice?] at h
  split at h
  · exact (Option.some.inj h).symm
  · cases h

end

section
variable {κ : Type} [LineKind κ]

theorem text_eq (d : Document κ) : d.text = textOf d.lines := rfl

theorem wellFormed_ofLines (ls : List (Line κ)) (config : Configuration) :
    (ofLines ls config).WellFormed :=
  ⟨fun l hl => by simpa using (List.mem_filter.1 hl).2, rfl⟩

theorem ofLines_nonempty {ls : List (Line κ)} (h : ∀ l ∈ ls, l.size ≠ 0)
    (config : Configuration) : (ofLines ls config).lines = ls := by
  rw [ofLines]
  exact List.filter_eq_self.2 fun l hl => by simpa using h l hl

theorem wellFormed_empty (config : Configuration) : (empty config : Document κ).WellFormed :=
  wellFormed_ofLines [] config

theorem text_empty (config : Configuration) : (empty config : Document κ).text = "" := rfl

theorem offsetsFrom_append (total : Nat) (ls ms : List (Line κ)) :
    offsetsFrom total (ls ++ ms) =
      offsetsFrom total ls ++ offsetsFrom (total + (ls.map Line.size).sum) ms := by
  induction ls generalizing total with
  | nil => simp [offsetsFrom]
  | cons l ls ih => simp [offsetsFrom, ih, Nat.add_assoc]

theorem length_offsetsFrom (total : Nat) (ls : List (Line κ)) :
    (offsetsFrom total ls).length = ls.length := by
  induction ls generalizing total with
  | nil => rfl
  | cons l ls ih => simp [offsetsFrom, ih]

theorem take_offsetsFrom (total : Nat) (ls : List (Line κ)) (n : Nat) :
    (offsetsFrom total ls).take n = offsetsFrom total (ls.take n) := by
  induction ls generalizing total n with
  | nil => simp [offsetsFrom]
  | cons l ls ih => cases n <;> simp [offsetsFrom, ih]

/-- Every offset of the table lies at or above where it starts, by the lines before it. -/
theorem offsetsFrom_le {total : Nat} {ls : List (Line κ)} {o : Nat}
    (h : o ∈ offsetsFrom total ls) : o ≤ total + (ls.map Line.size).sum := by
  induction ls generalizing total with
  | nil => simp [offsetsFrom] at h
  | cons l ls ih =>
    simp only [offsetsFrom, List.mem_cons, List.map_cons, List.sum_cons] at h ⊢
    rcases h with rfl | h
    · omega
    · have := ih h
      omega

/-- The place in a line lies before the first offset that ends behind it: the line's own end. -/
theorem findIdx_offsetsFrom (total : Nat) (before after : List (Line κ)) {l : Line κ}
    {column : Nat} (h : column < l.size) :
    (offsetsFrom total (before ++ l :: after)).findIdx
        (total + (before.map Line.size).sum + column < ·) = before.length := by
  have hbefore : (offsetsFrom total before).findIdx
      (total + (before.map Line.size).sum + column < ·) = before.length := by
    rw [← length_offsetsFrom total before]
    refine List.findIdx_eq_length_of_false fun o ho => ?_
    have := offsetsFrom_le ho
    simp only [decide_eq_false_iff_not]
    omega
  rw [offsetsFrom_append, List.findIdx_append, hbefore, length_offsetsFrom]
  simp [offsetsFrom, List.findIdx_cons, h]

end

section
variable {κ : Type} [LineKind κ] [LawfulLineKind κ]

theorem size_textOf (ls : List (Line κ)) : Text.size (textOf ls) = (ls.map Line.size).sum := by
  induction ls with
  | nil => rfl
  | cons l ls ih => simp [Line.size_canonical, ← ih]

theorem textOf_filter (ls : List (Line κ)) :
    textOf (ls.filter fun l => l.size ≠ 0) = textOf ls := by
  induction ls with
  | nil => rfl
  | cons l ls ih =>
    by_cases h : l.size = 0
    · have hl : l.canonical = "" := by rwa [Line.size_canonical, Text.size_eq_zero] at h
      rw [List.filter_cons_of_neg (by simpa using h), ih, textOf_cons, hl]
      simp
    · rw [List.filter_cons_of_pos (by simpa using h), textOf_cons, textOf_cons, ih]

theorem text_ofLines (ls : List (Line κ)) (config : Configuration) :
    (ofLines ls config).text = textOf ls :=
  textOf_filter ls

variable {d : Document κ}

namespace WellFormed

theorem size_eq (hd : d.WellFormed) : d.size = Text.size d.text := by
  rw [size, hd.offsets, text_eq, size_textOf]
  generalize d.lines = ls
  rcases List.eq_nil_or_concat ls with rfl | ⟨ms, l, rfl⟩
  · rfl
  · rw [List.concat_eq_append, offsetsFrom_append, ← List.cons_append, offsetsFrom, offsetsFrom,
      List.getLast?_concat]
    simp

/-- The start of a line in the table of offsets. -/
theorem offset_eq (hd : d.WellFormed) {before after : List (Line κ)}
    (h : d.lines = before ++ after) :
    d.offsets[before.length]?.getD 0 = Text.size (textOf before) := by
  rw [hd.offsets, h, size_textOf, offsetsFrom_append]
  rcases List.eq_nil_or_concat before with rfl | ⟨ms, l, rfl⟩
  · rfl
  · simp [offsetsFrom_append, offsetsFrom, length_offsetsFrom]

/-- An offset inside a line is in that line. -/
theorem offsetOf_inside (hd : d.WellFormed) {before after : List (Line κ)} {l : Line κ}
    {x y : String} (h : d.lines = before ++ l :: after) (hl : l.canonical = x ++ y) (hy : y ≠ "") :
    d.offsetOf (Text.size (textOf before ++ x)) = (before.length, Text.size x) := by
  have hx : Text.size x < l.size := by
    have := Text.size_eq_zero.not.2 hy
    rw [Line.size_canonical, hl, Text.size_append]
    omega
  have hidx : d.offsets.findIdx (Text.size (textOf before ++ x) < ·) - 1 = before.length := by
    rw [hd.offsets, h, Text.size_append, size_textOf, List.findIdx_cons]
    simpa using findIdx_offsetsFrom 0 before after hx
  rw [offsetOf, hidx, hd.offset_eq h, Text.size_append, Nat.add_sub_cancel_left]

/-- The offset at the end is in no line. -/
theorem offsetOf_end (hd : d.WellFormed) :
    d.offsetOf (Text.size d.text) = (d.lines.length, 0) := by
  have hidx : d.offsets.findIdx (Text.size d.text < ·) - 1 = d.lines.length := by
    rw [List.findIdx_eq_length_of_false, hd.offsets, List.length_cons, length_offsetsFrom]
    · rfl
    · intro o ho
      rw [hd.offsets, List.mem_cons] at ho
      rw [text_eq, size_textOf, decide_eq_false_iff_not]
      rcases ho with rfl | ho
      · omega
      · have := offsetsFrom_le ho
        omega
  have hoff := hd.offset_eq (show d.lines = d.lines ++ [] by simp)
  rw [offsetOf, hidx, hoff, text_eq, Nat.sub_self]

theorem isCut (hd : d.WellFormed) {a b : String} (h : d.text = a ++ b) :
    d.isCut (Text.size a) = true := by
  cases lineCut_of_text h with
  | @inside before after l x y lines line inner =>
    rw [Document.isCut, hd.offsetOf_inside lines line inner, lines]
    simpa using Text.isCut_iff.2 ⟨x, y, line, rfl⟩
  | atEnd =>
    rw [Document.isCut, ← text_eq, hd.offsetOf_end]
    simp

/-- A document without text has no lines. -/
theorem isEmpty_iff (hd : d.WellFormed) : d.isEmpty = true ↔ d.text = "" := by
  rw [Document.isEmpty, List.isEmpty_iff, ← Text.size_eq_zero, text_eq, size_textOf]
  constructor
  · intro h
    rw [h]
    rfl
  · intro h
    rcases hls : d.lines with - | ⟨l, ls⟩
    · rfl
    · have hl := hd.nonempty l (by simp [hls])
      rw [hls, List.map_cons, List.sum_cons] at h
      omega

theorem offsetOf_le (hd : d.WellFormed) {a b : String} (h : d.text = a ++ b) :
    (d.offsetOf (Text.size a)).1 ≤ d.lines.length := by
  cases lineCut_of_text h with
  | inside before lines line inner =>
    rw [hd.offsetOf_inside lines line inner, lines]
    simp
  | atEnd => simp [← text_eq, hd.offsetOf_end]

end WellFormed

/-! ## The lines on either side of a cut -/

/-- The lines before an offset; the line that the offset cuts keeps its front. -/
def linesTo (d : Document κ) (offset : Nat) : List (Line κ) :=
  let (i, column) := d.offsetOf offset
  d.lines.take i ++ if 0 < column then d.cutLine i 0 column else []

/-- The lines after an offset; the line that the offset cuts keeps its back. -/
def linesFrom (d : Document κ) (offset : Nat) : List (Line κ) :=
  let (i, column) := d.offsetOf offset
  (if 0 < column then d.cutLineFrom i column else []) ++
    d.lines.drop (if 0 < column then i + 1 else i)

theorem WellFormed.linesTo_text (hd : d.WellFormed) {a b : String} (h : d.text = a ++ b) :
    textOf (d.linesTo (Text.size a)) = a ∧ ∀ l ∈ d.linesTo (Text.size a), l.size ≠ 0 := by
  cases lineCut_of_text h with
  | @inside before after l x y lines line inner =>
    simp only [linesTo, hd.offsetOf_inside lines line inner]
    have hbefore : ∀ m ∈ before, m.size ≠ 0 := fun m hm => hd.nonempty m (by simp [lines, hm])
    have hslice := l.canonical_sliceTo line
    by_cases hx : 0 < Text.size x
    · have hsize : (l.slice 0 (Text.size x)).size ≠ 0 := by
        rw [Line.size_canonical, hslice]
        omega
      have hcut : d.lines.take before.length ++ d.cutLine before.length 0 (Text.size x) =
          before ++ [l.slice 0 (Text.size x)] := by
        simp [cutLine, lines]
      rw [if_pos hx, hcut]
      refine ⟨by simp [hslice], fun m hm => ?_⟩
      rcases List.mem_append.1 hm with hm | hm
      · exact hbefore m hm
      · rwa [List.mem_singleton.1 hm]
    · have hx' : x = "" := Text.size_eq_zero.1 (by omega)
      rw [if_neg hx, lines, List.take_left, List.append_nil]
      exact ⟨by simp [hx'], hbefore⟩
  | atEnd =>
    simp only [linesTo, ← text_eq, hd.offsetOf_end]
    simpa [text_eq] using hd.nonempty

theorem WellFormed.linesFrom_text (hd : d.WellFormed) {a b : String} (h : d.text = a ++ b) :
    textOf (d.linesFrom (Text.size a)) = b ∧ ∀ l ∈ d.linesFrom (Text.size a), l.size ≠ 0 := by
  cases lineCut_of_text h with
  | @inside before after l x y lines line inner =>
    simp only [linesFrom, hd.offsetOf_inside lines line inner]
    have hafter : ∀ m ∈ l :: after, m.size ≠ 0 := fun m hm => hd.nonempty m (by
      rw [lines]
      exact List.mem_append_right _ hm)
    have hslice := l.canonical_sliceFrom line
    by_cases hx : 0 < Text.size x
    · have hsize : (l.slice (Text.size x) l.size).size ≠ 0 := by
        rw [Line.size_canonical, hslice]
        exact Text.size_eq_zero.not.2 inner
      have hcut : d.cutLineFrom before.length (Text.size x) ++ d.lines.drop (before.length + 1) =
          l.slice (Text.size x) l.size :: after := by
        simp [cutLineFrom, lines]
      rw [if_pos hx, if_pos hx, hcut]
      refine ⟨by simp [hslice], fun m hm => ?_⟩
      rcases List.mem_cons.1 hm with rfl | hm
      · exact hsize
      · exact hafter m (List.mem_cons_of_mem _ hm)
    · have hx' : x = "" := Text.size_eq_zero.1 (by omega)
      rw [if_neg hx, if_neg hx, lines, List.drop_left, List.nil_append]
      exact ⟨by simp [line, hx'], hafter⟩
  | atEnd =>
    simp [linesFrom, ← text_eq, hd.offsetOf_end]

/-! ## Replacing what lies between two cuts -/

theorem WellFormed.splice_eq (hd : d.WellFormed) {a b c : String} (h : d.text = a ++ b ++ c)
    (r : Document κ) :
    let new := d.splice (Text.size a) (Text.size (a ++ b)) r
    new.lines = d.linesTo (Text.size a) ++ r.lines ++ d.linesFrom (Text.size (a ++ b)) ∧
      new.config = d.config ∧ new.offsets = 0 :: offsetsFrom 0 new.lines := by
  have hsize : d.size = Text.size (a ++ b) + Text.size c := by rw [hd.size_eq, h, Text.size_append]
  have hstop : min (Text.size (a ++ b)) d.size = Text.size (a ++ b) := by omega
  have hstart : min (Text.size a) (Text.size (a ++ b)) = Text.size a := by
    rw [Text.size_append]
    omega
  have hfirst := hd.offsetOf_le (h.trans (String.append_assoc ..))
  simp only [splice, hstop, hstart, linesTo, linesFrom]
  refine ⟨by simp [List.append_assoc], trivial, ?_⟩
  -- the table up to the first line touched is that of the lines before it
  generalize (d.offsetOf (Text.size a)).1 = first at hfirst ⊢
  have hbefore : d.offsets[first]?.getD 0 = ((d.lines.take first).map Line.size).sum := by
    have := hd.offset_eq (List.take_append_drop first d.lines).symm
    rwa [List.length_take, Nat.min_eq_left hfirst, size_textOf] at this
  rw [hbefore, offsetsFrom_append 0 (d.lines.take first), hd.offsets, List.take_succ_cons,
    take_offsetsFrom, Nat.zero_add, List.cons_append]

theorem WellFormed.splice?_text (hd : d.WellFormed) {a b c : String} (h : d.text = a ++ b ++ c)
    {r : Document κ} (hr : r.WellFormed) :
    ∃ new, d.splice? (Text.size a) (Text.size (a ++ b)) r = some new ∧ new.WellFormed ∧
      new.text = a ++ r.text ++ c ∧ new.config = d.config := by
  have hsize : d.size = Text.size (a ++ b) + Text.size c := by rw [hd.size_eq, h, Text.size_append]
  have hstop : min (Text.size (a ++ b)) d.size = Text.size (a ++ b) := by omega
  have hstart : min (Text.size a) (Text.size (a ++ b)) = Text.size a := by
    rw [Text.size_append]
    omega
  have h' : d.text = a ++ (b ++ c) := h.trans (String.append_assoc ..)
  obtain ⟨hlines, hconfig, hoffsets⟩ := hd.splice_eq h r
  obtain ⟨hto, hto'⟩ := hd.linesTo_text h'
  obtain ⟨hfrom, hfrom'⟩ := hd.linesFrom_text h
  refine ⟨_, if_pos (by simp only [hstop, hstart, hd.isCut h, hd.isCut h', and_self]),
    ⟨fun l hl => ?_, hoffsets⟩, ?_, hconfig⟩
  · rw [hlines, List.mem_append, List.mem_append] at hl
    rcases hl with (hl | hl) | hl
    · exact hto' l hl
    · exact hr.nonempty l hl
    · exact hfrom' l hl
  · rw [text_eq, hlines, textOf_append, textOf_append, hto, hfrom, ← text_eq]

/-! ## Cutting out what lies between two cuts -/

/-- The lines that `slice` keeps, before the empty ones are left out. -/
def linesBetween (d : Document κ) (start stop : Nat) : List (Line κ) :=
  let (first, firstColumn) := d.offsetOf start
  let (last, lastColumn) := d.offsetOf stop
  if first = last then d.cutLine first firstColumn lastColumn
  else
    d.cutLineFrom first firstColumn ++ (d.lines.drop (first + 1)).take (last - (first + 1)) ++
      if 0 < lastColumn then d.cutLine last 0 lastColumn else []

/-- Both cuts fall inside one line. -/
theorem WellFormed.linesBetween_same (hd : d.WellFormed) {before after : List (Line κ)}
    {l : Line κ} {x b z : String} (lines : d.lines = before ++ l :: after)
    (line : l.canonical = x ++ b ++ z) (inner : z ≠ "") :
    textOf (d.linesBetween (Text.size (textOf before ++ x)) (Text.size (textOf before ++ x ++ b))) =
      b := by
  have hstart := hd.offsetOf_inside lines (line.trans (String.append_assoc ..))
    (by simp [String.append_eq_empty_iff, inner])
  have hstop := hd.offsetOf_inside lines line inner
  rw [← String.append_assoc] at hstop
  have hcut := l.canonical_slice line
  simp only [linesBetween, hstart, hstop, if_pos]
  simp [cutLine, lines, hcut]

/-- The cuts fall inside different lines, or the second one behind the last. -/
theorem WellFormed.linesBetween_apart (hd : d.WellFormed) {before mid rest : List (Line κ)}
    {l : Line κ} {x y x' : String} (lines : d.lines = before ++ l :: (mid ++ rest))
    (line : l.canonical = x ++ y) (inner : y ≠ "") {stop : Nat}
    (hstop : d.offsetOf stop = ((before ++ l :: mid).length, Text.size x'))
    (hrest : (rest = [] ∧ x' = "") ∨ ∃ m more y', rest = m :: more ∧ m.canonical = x' ++ y') :
    textOf (d.linesBetween (Text.size (textOf before ++ x)) stop) = y ++ textOf mid ++ x' := by
  have hne : before.length ≠ (before ++ l :: mid).length := by simp
  have hmid : (d.lines.drop (before.length + 1)).take
      ((before ++ l :: mid).length - (before.length + 1)) = mid := by
    have hlen : (before ++ l :: mid).length - (before.length + 1) = mid.length := by
      rw [List.length_append, List.length_cons]
      omega
    rw [hlen, lines]
    simp
  have hfront : textOf (d.cutLineFrom before.length (Text.size x)) = y := by
    simp [cutLineFrom, lines, l.canonical_sliceFrom line]
  have hback : textOf (if 0 < Text.size x' then d.cutLine (before ++ l :: mid).length 0
      (Text.size x') else []) = x' := by
    by_cases hx : 0 < Text.size x'
    · obtain ⟨rfl, rfl⟩ | ⟨m, more, y', rfl, hm⟩ := hrest
      · simp at hx
      · have hget : d.lines[(before ++ l :: mid).length]? = some m := by
          rw [lines, ← List.cons_append, ← List.append_assoc]
          simp
        rw [if_pos hx, cutLine, hget]
        simp [m.canonical_sliceTo hm]
    · rw [if_neg hx, Text.size_eq_zero.1 (Nat.eq_zero_of_not_pos hx)]
      rfl
  simp only [linesBetween, hd.offsetOf_inside lines line inner, hstop, if_neg hne, hmid,
    textOf_append, hfront, hback]

theorem WellFormed.slice_text (hd : d.WellFormed) {a b c : String} (h : d.text = a ++ b ++ c)
    (hb : b ≠ "") : (d.slice (Text.size a) (Text.size (a ++ b))).text = b := by
  have hsize : d.size = Text.size (a ++ b) + Text.size c := by rw [hd.size_eq, h, Text.size_append]
  have hstop : min (Text.size (a ++ b)) d.size = Text.size (a ++ b) := by omega
  have hlt : ¬ Text.size (a ++ b) ≤ Text.size a := by
    have := Text.size_eq_zero.not.2 hb
    rw [Text.size_append]
    omega
  have hslice : (d.slice (Text.size a) (Text.size (a ++ b))).text =
      textOf (d.linesBetween (Text.size a) (Text.size (a ++ b))) := by
    simp only [slice, hstop, if_neg hlt, text_ofLines]
    rfl
  rw [hslice]
  have h' : d.text = a ++ (b ++ c) := h.trans (String.append_assoc ..)
  generalize hbc : b ++ c = rest at h'
  cases lineCut_of_text h' with
  | @inside before after l x y lines line inner =>
    by_cases hin : Text.size b < Text.size y
    · obtain ⟨z, rfl, rfl⟩ := Text.append_split hbc (by omega)
      have hz : z ≠ "" := by
        rintro rfl
        simp at hin
      exact hd.linesBetween_same lines (line.trans (String.append_assoc ..).symm) hz
    · obtain ⟨b', rfl, hafter⟩ := Text.append_split hbc.symm (by omega)
      cases lineCut_of_text hafter with
      | @inside mid after' m x' y' lines' line' inner' =>
        rw [lines'] at lines
        have hout := hd.offsetOf_inside (lines.trans (List.append_assoc before (l :: mid) _).symm)
          line' inner'
        have := hd.linesBetween_apart lines line inner hout (.inr ⟨m, after', y', rfl, line'⟩)
        simpa [line, String.append_assoc] using this
      | atEnd =>
        have hout : d.offsetOf (Text.size d.text) = ((before ++ l :: after).length, Text.size "") :=
          lines ▸ hd.offsetOf_end
        have := hd.linesBetween_apart (lines.trans (by simp)) line inner hout (.inl ⟨rfl, rfl⟩)
        simpa [text_eq, lines, line, String.append_assoc] using this
  | atEnd => exact absurd (String.append_eq_empty_iff.1 hbc).1 hb

/-- A slice is a well-formed document with the text between the cuts. -/
theorem WellFormed.slice?_text (hd : d.WellFormed) {a b c : String} (h : d.text = a ++ b ++ c)
    (hb : b ≠ "") :
    ∃ old, d.slice? (Text.size a) (Text.size (a ++ b)) = some old ∧ old.WellFormed ∧
      old.text = b ∧ old.config = d.config := by
  have hsize : d.size = Text.size (a ++ b) + Text.size c := by rw [hd.size_eq, h, Text.size_append]
  have hstop : min (Text.size (a ++ b)) d.size = Text.size (a ++ b) := by omega
  have hcut : d.isCut (Text.size a) ∧ d.isCut (min (Text.size (a ++ b)) d.size) := by
    rw [hstop]
    exact ⟨hd.isCut (h.trans (String.append_assoc ..)), hd.isCut h⟩
  refine ⟨_, if_pos (.inr hcut), ?_, hd.slice_text h hb, ?_⟩ <;> rw [slice] <;> split
  · exact wellFormed_empty _
  · exact wellFormed_ofLines _ _
  · rfl
  · rfl

end

end Document

end SourcePrep
