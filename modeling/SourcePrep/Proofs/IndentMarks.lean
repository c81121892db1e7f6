import SourcePrep.Proofs.ExpansionLoop
import SourcePrep.Proofs.PhysicalLines

/-!
# Which tabs are indentation

A normalized line keeps its indentation apart from its content, as a level, and the two renderings
differ in what they write for a level. What counts as indentation in a text is something else: the
tabs at the start of a physical line. After replacements a physical line can consist of several
lines of a document, and the two need no longer be the same.

Both are marks on the characters of a text. `Document.marks` marks what a document keeps as levels,
and `Text.marked` the tabs at the start of physical lines.

* `Aligned`: the marks are the same. `renderSpaces_eq_iff`: the renderings agree on what is
  indentation exactly for these documents, whatever the width.
* `WellFormed.marks_cut`: the two parts of a document that is cut share its marks.
* `replaceRegion_marks`: the marks of what takes the place of a region. A piece that starts a
  physical line is measured, and a piece that does not is content, tabs included.
* `Aligned.splice`: what a replacement has to keep to for the marks to stay the same.
-/

set_option autoImplicit false

namespace SourcePrep

/-! ## Tabs at the start of physical lines -/

namespace Text

/-- Nothing but tabs stand on the physical line after a character, if that was so before it, for the
first argument, or not. -/
def stillIndent (indent : Bool) (c : Char) : Bool := c == '\n' || (indent && c == '\t')

/-- The characters, with a mark on the tabs that only tabs stand before on their line. The first
argument says whether only tabs stand on the line before the first character. -/
def marked : Bool → List Char → List (Char × Bool)
  | _, [] => []
  | indent, c :: cs => (c, indent && c == '\t') :: marked (stillIndent indent c) cs

/-- Nothing but tabs stand on the last physical line of a text. -/
def inIndent (s : String) : Bool := s.toList.foldl stillIndent true

/-- The text starts with a tab. -/
def startsWithTab (s : String) : Bool := s.toList.head? == some '\t'

/-- A text in which spaces stand for the marked tabs, so many for each. -/
def shown (width : Nat) (marks : List (Char × Bool)) : List Char :=
  marks.flatMap fun (c, mark) => if mark then List.replicate width ' ' else [c]

/-- A physical line with spaces for the tabs at its start, so many for each tab. -/
def indentLine (width : Nat) (line : String) : String :=
  let (tabs, rest) := Text.span (· = '\t') line
  Text.copies ' ' (tabs.toList.length * width) ++ rest

/-- The text with spaces for the tabs at the start of every physical line, so many for each tab. -/
def indentWithSpaces (width : Nat) (s : String) : String :=
  String.join ((splitLines s).map (indentLine width))

theorem marked_append (indent : Bool) (cs ds : List Char) :
    marked indent (cs ++ ds) = marked indent cs ++ marked (cs.foldl stillIndent indent) ds := by
  induction cs generalizing indent with
  | nil => rfl
  | cons c cs ih => rw [List.cons_append, marked, marked, ih, List.cons_append, List.foldl_cons]

theorem map_fst_marked (indent : Bool) (cs : List Char) :
    (marked indent cs).map Prod.fst = cs := by
  induction cs generalizing indent with
  | nil => rfl
  | cons c cs ih => rw [marked, List.map_cons, ih]

theorem length_marked (indent : Bool) (cs : List Char) : (marked indent cs).length = cs.length := by
  rw [← List.length_map Prod.fst, map_fst_marked]

/-- Only what a text starts with depends on what stands before it. -/
theorem marked_of_not_tab {cs : List Char} (h : cs.head? ≠ some '\t') (indent indent' : Bool) :
    marked indent cs = marked indent' cs := by
  cases cs with
  | nil => rfl
  | cons c cs =>
    have hc : (c == '\t') = false := by simpa using h
    simp [marked, stillIndent, hc]

theorem inIndent_append (a b : String) :
    inIndent (a ++ b) = b.toList.foldl stillIndent (inIndent a) := by
  rw [inIndent, String.toList_append, List.foldl_append, inIndent]

/-! ## Pieces of a physical line each -/

/-- Pieces that are a physical line each; the last one may lack its newline. -/
inductive Pieces : List String → Prop
  | nil : Pieces []
  | last {s : String} (unended : '\n' ∉ s.toList) : Pieces [s]
  | cons {s : String} {rest : List String} (line : IsLine s) (more : Pieces rest) :
      Pieces (s :: rest)

theorem Pieces.of_lines {ls rest : List String} (h : ∀ l ∈ ls, IsLine l) (hrest : Pieces rest) :
    Pieces (ls ++ rest) := by
  induction ls with
  | nil => exact hrest
  | cons l ls ih =>
    refine .cons (h l List.mem_cons_self) (ih fun l' hl' => ?_)
    exact h l' (List.mem_cons_of_mem l hl')

theorem pieces_splitLines (s : String) : Pieces (splitLines s) := by
  obtain ⟨read, hpieces, hread⟩ := splitLines_holds s
  have hlines : ∀ l ∈ read.done.toList, IsLine l := fun l hl => hread.lines l (by simpa using hl)
  rw [hpieces, Splitting.pieces]
  split
  · have h := Pieces.of_lines hlines .nil
    rwa [List.append_nil] at h
  · exact Pieces.of_lines hlines (.last hread.current)

/-- After a physical line a new one starts. -/
theorem IsLine.foldl_stillIndent {s : String} (h : IsLine s) (indent : Bool) :
    s.toList.foldl stillIndent indent = true := by
  obtain ⟨front, rfl, -⟩ := h
  rw [String.toList_append, List.foldl_append]
  rfl

/-- A text that has a newline at its end at most. -/
def InLine (s : String) : Prop := IsLine s ∨ '\n' ∉ s.toList

/-- Behind something else than a tab nothing is marked up to the end of the line. -/
theorem marked_false_of_inLine {s : String} (h : InLine s) :
    marked false s.toList = s.toList.map (·, false) := by
  have hfront : ∀ cs : List Char, '\n' ∉ cs →
      marked false cs = cs.map (·, false) ∧ cs.foldl stillIndent false = false := by
    intro cs hcs
    induction cs with
    | nil => exact ⟨rfl, rfl⟩
    | cons c cs ih =>
      obtain ⟨hc, hcs⟩ : c ≠ '\n' ∧ '\n' ∉ cs := by simpa [eq_comm] using hcs
      have hstill : stillIndent false c = false := by simp [stillIndent, hc]
      rw [marked, hstill, (ih hcs).1, List.foldl_cons, hstill, (ih hcs).2, List.map_cons]
      exact ⟨rfl, rfl⟩
  rcases h with ⟨front, rfl, h⟩ | h
  · rw [String.toList_append, marked_append, (hfront _ h).1, (hfront _ h).2, List.map_append]
    rfl
  · exact (hfront _ h).1

theorem marked_of_inLine {s : String} (h : InLine s) (hs : startsWithTab s = false)
    (indent : Bool) : marked indent s.toList = s.toList.map (·, false) := by
  rw [marked_of_not_tab (by simpa [startsWithTab] using hs) indent false, marked_false_of_inLine h]

theorem marked_tabs (n : Nat) (cs : List Char) :
    marked true (List.replicate n '\t' ++ cs) =
      List.replicate n ('\t', true) ++ marked true cs := by
  induction n with
  | zero => rfl
  | succ n ih =>
    rw [List.replicate_succ, List.cons_append, marked, List.replicate_succ, List.cons_append, ← ih]
    rfl

theorem inLine_dropTabs {s : String} (h : InLine s) :
    InLine (String.ofList (s.toList.dropWhile (· = '\t'))) := by
  rcases h with ⟨front, rfl, h⟩ | h
  · left
    refine ⟨String.ofList (front.toList.dropWhile (· = '\t')), ?_, fun hmem => h ?_⟩
    · simp only [String.toList_append, List.dropWhile_append, ← String.toList_inj,
        String.toList_ofList]
      split
      · rename_i hempty
        rw [List.isEmpty_iff.1 hempty]
        rfl
      · rfl
    · exact List.dropWhile_subset _ (by simpa using hmem)
  · right
    intro hmem
    exact h (List.dropWhile_subset _ (by simpa using hmem))

/-! ## What a rendering shows of the marks -/

theorem shown_append (width : Nat) (ms ns : List (Char × Bool)) :
    shown width (ms ++ ns) = shown width ms ++ shown width ns := List.flatMap_append ..

theorem shown_indent (width n : Nat) (c : Char) :
    shown width (List.replicate n (c, true)) = List.replicate (n * width) ' ' := by
  induction n with
  | zero => simp [shown]
  | succ n ih =>
    rw [List.replicate_succ, Nat.succ_mul, Nat.add_comm, ← List.replicate_append_replicate, ← ih]
    rfl

theorem shown_content (width : Nat) (cs : List Char) : shown width (cs.map (·, false)) = cs := by
  induction cs with
  | nil => rfl
  | cons c cs ih =>
    rw [List.map_cons]
    exact congrArg (c :: ·) ih

theorem toList_indentLine {s : String} (h : InLine s) (width : Nat) :
    (indentLine width s).toList = shown width (marked true s.toList) := by
  have hrest := inLine_dropTabs h
  generalize hcs : s.toList.dropWhile (· = '\t') = cs at hrest
  have htabs : s.toList.takeWhile (· = '\t') =
      List.replicate (s.toList.takeWhile (· = '\t')).length '\t' := by
    refine List.eq_replicate_of_mem fun c hc => ?_
    simpa using List.all_eq_true.1 List.all_takeWhile c hc
  have hstart : startsWithTab (String.ofList cs) = false := by
    rw [startsWithTab, String.toList_ofList, ← hcs]
    rcases hdrop : s.toList.dropWhile (· = '\t') with - | ⟨c, cs⟩
    · rfl
    · have hne : s.toList.dropWhile (· = '\t') ≠ [] := by simp [hdrop]
      have hhead := List.head_dropWhile_not (· = '\t') hne
      simpa [hdrop] using hhead
  have hmarked := marked_of_inLine hrest hstart true
  rw [String.toList_ofList] at hmarked
  have hsplit : s.toList = List.replicate (s.toList.takeWhile (· = '\t')).length '\t' ++ cs := by
    rw [← htabs, ← hcs, List.takeWhile_append_dropWhile]
  rw [hsplit, marked_tabs, hmarked, shown_append, shown_indent, shown_content, indentLine, span_eq]
  simp [Text.copies, hcs]

/-- The marks on the tabs at the start of physical lines say what spaces are to stand for. -/
theorem toList_indentWithSpaces (width : Nat) (s : String) :
    (indentWithSpaces width s).toList = shown width (marked true s.toList) := by
  have hpieces : ∀ pieces, Pieces pieces →
      (String.join (pieces.map (indentLine width))).toList =
        shown width (marked true (String.join pieces).toList) := by
    intro pieces h
    induction h with
    | nil => rfl
    | @last s unended =>
      simpa using toList_indentLine (.inr unended) width
    | @cons s rest line more ih =>
      rw [List.map_cons, String.join_cons, String.join_cons, String.toList_append,
        String.toList_append, marked_append, line.foldl_stillIndent, shown_append, ← ih,
        toList_indentLine (.inl line)]
  rw [indentWithSpaces, hpieces _ (pieces_splitLines s), join_splitLines]

/-- Marks are on tabs only. -/
def OnTabs (marks : List (Char × Bool)) : Prop := ∀ m ∈ marks, m.2 = true → m.1 = '\t'

theorem onTabs_marked (indent : Bool) (cs : List Char) : OnTabs (marked indent cs) := by
  induction cs generalizing indent with
  | nil => simp [OnTabs, marked]
  | cons c cs ih =>
    intro m hm hmark
    rcases List.mem_cons.1 hm with rfl | hm
    · simpa using And.right (by simpa using hmark : _ ∧ c = '\t')
    · exact ih _ m hm hmark

/-- What is shown says where the marks are: at the first difference one of the two has a space and
the other a tab. -/
theorem shown_inj {width : Nat} (hwidth : 1 ≤ width) {ms ns : List (Char × Bool)}
    (hfst : ms.map Prod.fst = ns.map Prod.fst) (hms : OnTabs ms) (hns : OnTabs ns)
    (h : shown width ms = shown width ns) : ms = ns := by
  obtain ⟨width, rfl⟩ : ∃ n, width = n + 1 := ⟨width - 1, by omega⟩
  induction ms generalizing ns with
  | nil =>
    cases ns with
    | nil => rfl
    | cons n ns => cases hfst
  | cons m ms ih =>
    cases ns with
    | nil => cases hfst
    | cons n ns =>
      obtain ⟨c, mark⟩ := m
      obtain ⟨c', mark'⟩ := n
      obtain ⟨rfl, hfst'⟩ : c = c' ∧ ms.map Prod.fst = ns.map Prod.fst := by simpa using hfst
      have hms' : OnTabs ms := fun m hm => hms m (List.mem_cons_of_mem _ hm)
      have hns' : OnTabs ns := fun m hm => hns m (List.mem_cons_of_mem _ hm)
      have htab := hms (c, mark) List.mem_cons_self
      have htab' := hns (c, mark') List.mem_cons_self
      simp only [shown, List.flatMap_cons] at h ih
      cases mark with
      | false =>
        cases mark' with
        | false => rw [ih hfst' hms' hns' (List.append_cancel_left h)]
        | true =>
          obtain rfl : c = '\t' := htab' rfl
          simp [List.replicate_succ] at h
      | true =>
        cases mark' with
        | true => rw [ih hfst' hms' hns' (List.append_cancel_left h)]
        | false =>
          obtain rfl : c = '\t' := htab rfl
          simp [List.replicate_succ] at h

end Text

/-! ## The marks of a document -/

/-- The characters of a line, with a mark on those that are its level. -/
def Normalized.marks (k : Normalized) : List (Char × Bool) :=
  List.replicate k.level ('\t', true) ++ k.content.toList.map (·, false)

namespace Document

/-- The characters of some lines, with a mark on those that are levels. -/
def marksOf (ls : List (Line Normalized)) : List (Char × Bool) := ls.flatMap (·.kind.marks)

/-- The characters of the canonical text, with a mark on those that are levels. -/
def marks (d : Document Normalized) : List (Char × Bool) := marksOf d.lines

/-- What the document keeps as levels are the tabs at the start of physical lines. -/
def Aligned (d : Document Normalized) : Prop := d.marks = Text.marked true d.text.toList

@[simp] theorem marksOf_nil : marksOf [] = [] := rfl

@[simp] theorem marksOf_cons (l : Line Normalized) (ls : List (Line Normalized)) :
    marksOf (l :: ls) = l.kind.marks ++ marksOf ls := rfl

@[simp] theorem marksOf_append (ls ms : List (Line Normalized)) :
    marksOf (ls ++ ms) = marksOf ls ++ marksOf ms := List.flatMap_append ..

theorem map_fst_marks (k : Normalized) : k.marks.map Prod.fst = (LineKind.canonical k).toList := by
  rw [Normalized.marks, Normalized.canonical_eq, String.toList_append, Text.copies,
    String.toList_ofList, List.map_append, List.map_replicate, List.map_map]
  simp [Function.comp_def]

theorem map_fst_marksOf (ls : List (Line Normalized)) :
    (marksOf ls).map Prod.fst = (textOf ls).toList := by
  induction ls with
  | nil => rfl
  | cons l ls ih =>
    rw [marksOf_cons, List.map_append, ih, textOf_cons, String.toList_append, map_fst_marks]
    rfl

theorem length_marksOf (ls : List (Line Normalized)) :
    (marksOf ls).length = (textOf ls).toList.length := by
  rw [← map_fst_marksOf, List.length_map]

theorem onTabs_marksOf (ls : List (Line Normalized)) : Text.OnTabs (marksOf ls) := by
  intro m hm hmark
  obtain ⟨l, -, hm⟩ := List.mem_flatMap.1 hm
  rcases List.mem_append.1 hm with hm | hm
  · rw [(List.mem_replicate.1 hm).2]
  · obtain ⟨c, -, rfl⟩ := List.mem_map.1 hm
    cases hmark

theorem toList_renderSpaces (d : Document Normalized) (width : Nat) :
    (d.renderSpaces width).toList = Text.shown width d.marks := by
  rw [renderSpaces, marks]
  induction d.lines with
  | nil => rfl
  | cons l ls ih =>
    rw [List.map_cons, String.join_cons, String.toList_append, ih, marksOf_cons, Text.shown_append,
      Normalized.renderSpaces, Normalized.marks, Text.shown_append, Text.shown_indent,
      Text.shown_content, String.toList_append, Text.copies, String.toList_ofList]

/-- The renderings agree on what is indentation exactly for aligned documents. -/
theorem renderSpaces_eq_iff (d : Document Normalized) {width : Nat} (hwidth : 1 ≤ width) :
    d.renderSpaces width = Text.indentWithSpaces width d.renderTabs ↔ d.Aligned := by
  rw [← String.toList_inj, toList_renderSpaces, Text.toList_indentWithSpaces, renderTabs]
  constructor
  · refine Text.shown_inj hwidth ?_ (onTabs_marksOf _) (Text.onTabs_marked _ _)
    rw [Text.map_fst_marked, marks, map_fst_marksOf, text_eq]
  · intro h
    rw [h]

end Document

/-! ## Cuts -/

namespace Normalized

theorem slice_eq (level : Nat) (content : String) (start stop : Nat) :
    LineKind.slice (⟨level, content⟩ : Normalized) start stop =
      if start < level then
        ⟨min stop level - start,
          if level < stop then Text.takeBytes content (stop - level) else ""⟩
      else ⟨0, Text.slice content (start - level) (stop - level)⟩ := rfl

/-- A cut between tabs. -/
theorem slice_tabs {level : Nat} (content : String) {n : Nat} (h : n < level) :
    LineKind.slice (⟨level, content⟩ : Normalized) 0 n = ⟨n, ""⟩ ∧
      LineKind.slice (⟨level, content⟩ : Normalized) n (level + Text.size content) =
        ⟨level - n, content⟩ := by
  have hfront : min n level = n := by omega
  have hback : min (level + Text.size content) level = level := by omega
  constructor
  · rw [slice_eq, if_pos (by omega), if_neg (by omega), hfront, Nat.sub_zero]
  · rw [slice_eq, if_pos h, hback, Nat.add_sub_cancel_left]
    split
    · have htake := Text.takeBytes_append content ""
      rw [String.append_empty] at htake
      rw [htake]
    · rw [Text.size_eq_zero.1 (by omega : Text.size content = 0)]

/-- A cut in the content, perhaps at its start. -/
theorem slice_content (level : Nat) (x y : String) :
    LineKind.slice (⟨level, x ++ y⟩ : Normalized) 0 (level + Text.size x) = ⟨level, x⟩ ∧
      LineKind.slice (⟨level, x ++ y⟩ : Normalized) (level + Text.size x)
        (level + Text.size (x ++ y)) = ⟨0, y⟩ := by
  constructor
  · rw [slice_eq, Nat.add_sub_cancel_left]
    split
    · rw [Nat.min_eq_right (Nat.le_add_right ..), Nat.sub_zero]
      split
      · rw [Text.takeBytes_append]
      · rw [Text.size_eq_zero.1 (by omega : Text.size x = 0)]
    · have hslice := Text.slice_append "" x y
      rw [String.empty_append, Text.size_empty, Nat.zero_add] at hslice
      rw [Nat.zero_sub, hslice, Nat.eq_zero_of_not_pos ‹¬ 0 < level›]
  · have hslice := Text.slice_append x y ""
    rw [String.append_empty, ← Text.size_append] at hslice
    rw [slice_eq, if_neg (by omega), Nat.add_sub_cancel_left, Nat.add_sub_cancel_left, hslice]

/-- The two parts of a line share its marks. -/
theorem marks_cut {k : Normalized} {a b : String} (h : LineKind.canonical k = a ++ b) :
    (LineKind.slice k 0 (Text.size a)).marks ++
      (LineKind.slice k (Text.size a) (LineKind.size k)).marks = k.marks := by
  obtain ⟨level, content⟩ := k
  show _ ++ (LineKind.slice (⟨level, content⟩ : Normalized) (Text.size a)
    (level + Text.size content)).marks = _
  rw [canonical_eq] at h
  by_cases hlevel : Text.size a < level
  · obtain ⟨hfront, hback⟩ := slice_tabs content hlevel
    have htabs : Text.size a + (level - Text.size a) = level := by omega
    rw [hfront, hback]
    simp [marks, ← List.append_assoc, List.replicate_append_replicate, htabs]
  · obtain ⟨x, ha, rfl⟩ : ∃ x, a = Text.copies '\t' level ++ x ∧ content = x ++ b :=
      Text.append_split h (by rw [Text.size_copies_tab]; omega)
    have hsize : Text.size a = level + Text.size x := by
      rw [ha, Text.size_append, Text.size_copies_tab]
    obtain ⟨hfront, hback⟩ := slice_content level x b
    rw [hsize, hfront, hback]
    simp [marks]

end Normalized

namespace Document

variable {d : Document Normalized}

theorem WellFormed.marks_cut (hd : d.WellFormed) {a b : String} (h : d.text = a ++ b) :
    marksOf (d.linesTo (Text.size a)) ++ marksOf (d.linesFrom (Text.size a)) = d.marks := by
  cases lineCut_of_text h with
  | @inside before after l x y lines line inner =>
    simp only [linesTo, linesFrom, hd.offsetOf_inside lines line inner, marks]
    have hparts : (l.slice 0 (Text.size x)).kind.marks ++
        (l.slice (Text.size x) l.size).kind.marks = l.kind.marks := Normalized.marks_cut line
    by_cases hx : 0 < Text.size x
    · simp [if_pos hx, cutLine, cutLineFrom, lines, ← hparts]
    · simp [if_neg hx, lines]
  | atEnd =>
    simp [linesTo, linesFrom, ← text_eq, hd.offsetOf_end, marks]

theorem marksOf_filter (ls : List (Line Normalized)) :
    marksOf (ls.filter fun l => l.size ≠ 0) = marksOf ls := by
  induction ls with
  | nil => rfl
  | cons l ls ih =>
    by_cases h : l.size = 0
    · have hl : l.kind.marks = [] := by
        rw [← List.length_eq_zero_iff, ← List.length_map Prod.fst, map_fst_marks]
        have hcanonical : LineKind.canonical l.kind = "" := by
          rwa [Line.size_canonical, Text.size_eq_zero] at h
        rw [hcanonical]
        rfl
      rw [List.filter_cons_of_neg (by simpa using h), ih, marksOf_cons, hl, List.nil_append]
    · rw [List.filter_cons_of_pos (by simpa using h), marksOf_cons, marksOf_cons, ih]

theorem marks_ofLines (ls : List (Line Normalized)) (config : Configuration) :
    (ofLines ls config).marks = marksOf ls := marksOf_filter ls

/-- A replacement keeps the document aligned when what it puts in is marked as its place requires,
and what comes after is marked as before. -/
theorem Aligned.splice (hd : d.Aligned) (hwf : d.WellFormed) {a b c : String}
    (h : d.text = a ++ b ++ c) {new : Document Normalized} (hnew : new.WellFormed)
    (hmarks : new.marks = Text.marked (Text.inIndent a) new.text.toList)
    (hafter : Text.inIndent (a ++ b) = Text.inIndent (a ++ new.text) ∨
      Text.startsWithTab c = false) :
    (d.splice (Text.size a) (Text.size (a ++ b)) new).Aligned := by
  have h' : d.text = a ++ (b ++ c) := h.trans (String.append_assoc ..)
  -- the marks on either side of the cuts are those of the text there
  have hcut : ∀ {x y : String}, d.text = x ++ y →
      marksOf (d.linesTo (Text.size x)) = Text.marked true x.toList ∧
        marksOf (d.linesFrom (Text.size x)) = Text.marked (Text.inIndent x) y.toList := by
    intro x y hxy
    have hparts := hwf.marks_cut hxy
    rw [hd, hxy, String.toList_append, Text.marked_append] at hparts
    refine List.append_inj hparts ?_
    rw [length_marksOf, (hwf.linesTo_text hxy).1, Text.length_marked]
  obtain ⟨hlines, -, -⟩ := hwf.splice_eq h new
  obtain ⟨e, he, -, htext, -⟩ := hwf.splice?_text h hnew
  obtain rfl := eq_splice_of_splice? he
  rw [Aligned, htext, marks, hlines, marksOf_append, marksOf_append, (hcut h').1, (hcut h).2,
    show marksOf new.lines = _ from hmarks, String.toList_append, String.toList_append,
    Text.marked_append, Text.marked_append]
  refine congrArg _ ?_
  rw [← String.toList_append]
  rcases hafter with hsame | hstart
  · rw [hsame, Text.inIndent]
  · exact Text.marked_of_not_tab (by simpa [Text.startsWithTab] using hstart) _ _

end Document

/-! ## New lines for a region -/

theorem Measured.inLine_rest {s : String} (h : Text.InLine s) : Text.InLine (ofText s).rest := by
  rcases h with h | h
  · exact .inl (isLine_rest h)
  · right
    rw [ofText_eq, String.toList_ofList]
    exact fun hmem => h (List.dropWhile_subset _ hmem)

/-- A line that is measured starts with its level. -/
theorem Normalized.marks_eq {k : Normalized} (hline : Text.InLine k.content)
    (h : Text.Unindented k.content) :
    k.marks = Text.marked true (LineKind.canonical k).toList := by
  have hstart : Text.startsWithTab k.content = false := by
    rw [Text.startsWithTab]
    rcases hcs : k.content.toList with - | ⟨c, cs⟩
    · rfl
    · have hc := h c cs hcs
      have htab : c ≠ '\t' := by
        rintro rfl
        cases hc
      simpa using htab
  rw [canonical_eq, String.toList_append, Text.copies, String.toList_ofList, Text.marked_tabs,
    Text.marked_of_inLine hline hstart, marks]

namespace Document

section
variable {σ : Type} [Sink σ] (d : Document Normalized) (n : Nat)

/-- A piece that starts a physical line is measured. -/
theorem regionLine_measured {startsLine : Bool} {i : Nat} (h : i ≠ 0 ∨ startsLine = true)
    (piece : String) :
    Returns (d.regionLine n startsLine i piece : Reporting σ _) fun line =>
      line.kind.content = (Measured.ofText piece).rest := by
  rw [regionLine]
  refine .after fun replaced => ?_
  split
  · rename_i hfirst
    obtain ⟨rfl, rfl⟩ : i = 0 ∧ startsLine = false := by simpa using hfirst
    simp at h
  · refine (Line.normalize_returns _ _).mono fun line hline => ?_
    rw [hline]
    rfl

theorem marks_of_measured {piece : String} {line : Line Normalized} (hpiece : Text.InLine piece)
    (hcontent : line.kind.content = (Measured.ofText piece).rest) :
    line.kind.marks = Text.marked true line.canonical.toList := by
  refine Normalized.marks_eq ?_ ?_
  · rw [hcontent]
    exact Measured.inLine_rest hpiece
  · rw [hcontent]
    exact Measured.unindented_rest piece

theorem regionLines_measured {startsLine : Bool} {pieces : List String} (hp : Text.Pieces pieces)
    {i : Nat} (h : i ≠ 0 ∨ startsLine = true) :
    Returns (d.regionLines n startsLine i pieces : Reporting σ _) fun ls =>
      marksOf ls = Text.marked true (textOf ls).toList := by
  induction hp generalizing i with
  | nil => exact .pure rfl
  | @last piece unended =>
    rw [regionLines]
    refine (d.regionLine_measured n h piece).bind fun line hcontent => ?_
    refine Returns.bind (P := (· = [])) (.pure rfl) fun ls hls => .pure ?_
    rw [hls, marksOf_cons, textOf_cons, marks_of_measured (.inr unended) hcontent]
    simp
  | @cons piece rest line more ih =>
    rw [regionLines]
    refine (d.regionLine_measured n h piece).bind fun l hcontent => ?_
    refine (ih (.inl (Nat.succ_ne_zero i))).bind fun ls hls => .pure ?_
    have hwhole : l.kind.Whole := by
      constructor
      · rw [hcontent]
        exact Measured.isLine_rest line
      · rw [hcontent]
        exact Measured.unindented_rest piece
    have hafter : l.canonical.toList.foldl Text.stillIndent true = true :=
      hwhole.isLine_canonical.foldl_stillIndent true
    rw [marksOf_cons, textOf_cons, marks_of_measured (.inl line) hcontent, hls,
      String.toList_append, Text.marked_append, hafter]

theorem regionLine_first (piece : String) :
    Returns (d.regionLine n false 0 piece : Reporting σ _) fun line => line.kind = ⟨0, piece⟩ := by
  rw [regionLine]
  exact .after fun replaced => .pure rfl

theorem marks_of_unmeasured {piece : String} (hpiece : Text.InLine piece) {indent : Bool}
    (h : indent = false ∨ Text.startsWithTab piece = false) :
    Normalized.marks ⟨0, piece⟩ = Text.marked indent piece.toList := by
  have hmarks : Normalized.marks ⟨0, piece⟩ = piece.toList.map (·, false) := by
    rw [Normalized.marks]
    rfl
  rw [hmarks]
  rcases h with rfl | hstart
  · exact (Text.marked_false_of_inLine hpiece).symm
  · exact (Text.marked_of_inLine hpiece hstart indent).symm

/-- A piece that was not measured, with what follows it. -/
theorem marksOf_of_unmeasured {piece : String} {line : Line Normalized}
    {ls : List (Line Normalized)} {indent : Bool} (hpiece : Text.InLine piece)
    (hkind : line.kind = ⟨0, piece⟩)
    (hls : marksOf ls =
      Text.marked (piece.toList.foldl Text.stillIndent indent) (textOf ls).toList)
    (hindent : indent = false ∨ Text.startsWithTab (textOf (line :: ls)) = false) :
    marksOf (line :: ls) = Text.marked indent (textOf (line :: ls)).toList := by
  have hcanonical : line.canonical = piece := by
    rw [Line.canonical, hkind, Normalized.canonical_eq]
    simp [Text.copies]
  rw [textOf_cons, hcanonical] at hindent
  have hstart : indent = false ∨ Text.startsWithTab piece = false := by
    refine hindent.imp_right fun h => ?_
    rw [Text.startsWithTab, String.toList_append] at h
    rw [Text.startsWithTab]
    cases hcs : piece.toList with
    | nil => rfl
    | cons c cs => simpa [hcs] using h
  rw [marksOf_cons, textOf_cons, hcanonical, String.toList_append, Text.marked_append, hls, hkind,
    marks_of_unmeasured hpiece hstart]

/-- The first piece of a region that starts inside a line is content as it stands. -/
theorem regionLines_unmeasured {pieces : List String} (hp : Text.Pieces pieces) :
    Returns (d.regionLines n false 0 pieces : Reporting σ _) fun ls => ∀ indent,
      indent = false ∨ Text.startsWithTab (textOf ls) = false →
      marksOf ls = Text.marked indent (textOf ls).toList := by
  cases hp with
  | nil => exact .pure fun indent _ => rfl
  | @last piece unended =>
    rw [regionLines]
    refine (d.regionLine_first n piece).bind fun line hkind => ?_
    refine Returns.bind (P := (· = [])) (.pure rfl) fun ls hls => .pure fun indent hindent => ?_
    rw [hls] at hindent ⊢
    exact marksOf_of_unmeasured (.inr unended) hkind rfl hindent
  | @cons piece rest line more =>
    rw [regionLines]
    refine (d.regionLine_first n piece).bind fun l hkind => ?_
    refine (d.regionLines_measured n more (.inl (Nat.succ_ne_zero 0))).bind fun ls hls =>
      .pure fun indent hindent => marksOf_of_unmeasured (.inl line) hkind ?_ hindent
    rw [line.foldl_stillIndent, hls]

/-- What takes the place of a region is marked as its place requires. In the middle of a line a tab
at its start is content, and is no indentation unless only tabs stand before it. -/
theorem replaceRegion_marks (text : String) (startsLine : Bool) :
    Returns (d.replaceRegion text startsLine : Reporting σ _) fun result =>
      ∀ new, result = .ok new → ∀ indent,
        startsLine = true ∧ indent = true ∨
          startsLine = false ∧ (indent = false ∨ Text.startsWithTab new.text = false) →
        new.marks = Text.marked indent new.text.toList := by
  rw [replaceRegion]
  split
  · refine .pure fun new hnew indent _ => ?_
    cases hnew
    rfl
  split
  · exact .pure fun new hnew => by cases hnew
  have hpieces := Text.pieces_splitLines text
  generalize Text.splitLines text = pieces at hpieces
  cases startsLine with
  | true =>
    refine (d.regionLines_measured _ hpieces (.inr rfl)).bind fun ls hls => .pure ?_
    intro new hnew indent hindent
    cases hnew
    obtain rfl : indent = true := by simpa using hindent
    rw [marks_ofLines, text_ofLines, hls]
  | false =>
    refine (d.regionLines_unmeasured _ hpieces).bind fun ls hls => .pure ?_
    intro new hnew indent hindent
    cases hnew
    rw [text_ofLines] at hindent ⊢
    rw [marks_ofLines]
    exact hls indent (by simpa using hindent)

end

end Document

end SourcePrep
