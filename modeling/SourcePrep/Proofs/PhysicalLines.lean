import SourcePrep.Document.Reader
import SourcePrep.Proofs.DocumentText

/-!
# Physical lines

Reading cuts a text into physical lines, and normalization turns the leading spaces and tabs of each
into tabs. What is proved here says that both can be undone or repeated:

* `splitLines_join`: lines that were joined are cut apart where they were joined, and
  `join_splitLines`: what was cut apart is joined to the text it came from.
* `Document.isLine_terminate`: reading ends each line with one newline. A carriage return before it
  is dropped, and `terminate_eq_self_iff` says when there is none.
* `Normalized.Whole`: a line as normalization makes it, one physical line whose content starts with
  neither a space nor a tab. `Whole.remeasured`: such a line is measured again as it is, for any
  tabwidth, because no spaces are left to be rounded.
-/

set_option autoImplicit false

namespace SourcePrep

/-! ## Counting newlines -/

/-- The number of newlines in a text. -/
def newlines (s : String) : Nat := s.toList.count '\n'

theorem newlines_eq_zero {s : String} : newlines s = 0 ↔ '\n' ∉ s.toList :=
  List.count_eq_zero

@[simp] theorem newlines_append (s t : String) : newlines (s ++ t) = newlines s + newlines t := by
  simp [newlines]

@[simp] theorem newlines_empty : newlines "" = 0 := rfl

/-! ## Cutting at newlines -/

namespace Text

/-- One physical line: a newline at its end and nowhere else. -/
def IsLine (s : String) : Prop := ∃ front : String, s = front ++ "\n" ∧ '\n' ∉ front.toList

theorem IsLine.ne_empty {s : String} (h : IsLine s) : s ≠ "" := by
  obtain ⟨front, rfl, -⟩ := h
  intro h
  simpa using congrArg String.toList h

namespace Splitting

theorem foldl_add_of_notMem (done : Array String) (current : String) {cs : List Char}
    (h : '\n' ∉ cs) : cs.foldl add ⟨done, current⟩ = ⟨done, current ++ String.ofList cs⟩ := by
  induction cs generalizing current with
  | nil => simp
  | cons c cs ih =>
    obtain ⟨hc, hcs⟩ : c ≠ '\n' ∧ '\n' ∉ cs := by
      simpa [eq_comm] using h
    rw [List.foldl_cons, add, if_neg hc, ih (current.push c) hcs]
    simp [← String.toList_inj]

theorem foldl_add_line (done : Array String) {l : String} (h : IsLine l) :
    l.toList.foldl add ⟨done, ""⟩ = ⟨done.push l, ""⟩ := by
  obtain ⟨front, rfl, hfront⟩ := h
  have hpush : front.push '\n' = front ++ "\n" := by simp [← String.toList_inj]
  rw [String.toList_append, List.foldl_append, foldl_add_of_notMem done "" hfront, ← hpush]
  simp [add]

theorem foldl_add_lines (done : Array String) {ls : List String} (h : ∀ l ∈ ls, IsLine l) :
    (String.join ls).toList.foldl add ⟨done, ""⟩ = ⟨done ++ ls, ""⟩ := by
  induction ls generalizing done with
  | nil => simp
  | cons l ls ih =>
    rw [String.join_cons, String.toList_append, List.foldl_append,
      foldl_add_line done (h l List.mem_cons_self),
      ih (done.push l) fun l' hl' => h l' (List.mem_cons_of_mem l hl')]
    simp

/-- What was read is held, each line with its newline, and what is being read has none yet. -/
structure Holds (s : Splitting) (read : String) : Prop where
  joined : String.join s.done.toList ++ s.current = read
  lines : ∀ l ∈ s.done, IsLine l
  current : '\n' ∉ s.current.toList

theorem Holds.add {s : Splitting} {read : String} (h : s.Holds read) (c : Char) :
    (s.add c).Holds (read.push c) := by
  obtain ⟨done, current⟩ := s
  obtain ⟨hjoined, hlines, hcurrent⟩ := h
  simp only at hjoined hlines hcurrent
  rw [← hjoined, Splitting.add]
  split
  · rename_i hc
    subst hc
    refine ⟨by simp [← String.toList_inj], fun l hl => ?_, by simp⟩
    rcases Array.mem_push.1 hl with hl | rfl
    · exact hlines l hl
    · exact ⟨current, by simp [← String.toList_inj], hcurrent⟩
  · rename_i hc
    refine ⟨by simp [← String.toList_inj], hlines, ?_⟩
    simp [hcurrent, Ne.symm hc]

theorem Holds.foldl {s : Splitting} {read : String} (h : s.Holds read) (cs : List Char) :
    (cs.foldl Splitting.add s).Holds (read ++ String.ofList cs) := by
  induction cs generalizing s read with
  | nil => simpa using h
  | cons c cs ih =>
    have hread : read.push c ++ String.ofList cs = read ++ String.ofList (c :: cs) := by
      simp [← String.toList_inj]
    rw [List.foldl_cons, ← hread]
    exact ih (h.add c)

end Splitting

/-- What reading a whole text comes to. -/
theorem splitLines_holds (s : String) :
    ∃ read : Splitting, splitLines s = read.pieces ∧ read.Holds s := by
  have hstart : Splitting.Holds ⟨#[], ""⟩ "" := ⟨rfl, by simp, by simp⟩
  exact ⟨_, splitLines_eq s, by simpa using hstart.foldl s.toList⟩

theorem splitLines_join {ls : List String} (h : ∀ l ∈ ls, IsLine l) :
    splitLines (String.join ls) = ls := by
  rw [splitLines_eq, Splitting.foldl_add_lines _ h]
  simp [Splitting.pieces]

theorem join_splitLines (s : String) : String.join (splitLines s) = s := by
  obtain ⟨read, hpieces, hread⟩ := splitLines_holds s
  rw [hpieces, Splitting.pieces]
  split
  · rename_i hempty
    simpa [String.isEmpty_iff.1 hempty] using hread.joined
  · simpa using hread.joined

/-- Only the last piece of a text may lack its newline. -/
theorem mem_splitLines {s piece : String} (h : piece ∈ splitLines s) :
    IsLine piece ∨ '\n' ∉ piece.toList := by
  obtain ⟨read, hpieces, hread⟩ := splitLines_holds s
  rw [hpieces, Splitting.pieces] at h
  split at h
  · exact .inl (hread.lines piece (by simpa using h))
  · rcases List.mem_append.1 h with h | h
    · exact .inl (hread.lines piece (by simpa using h))
    · rw [List.mem_singleton.1 h]
      exact .inr hread.current

theorem size_le_of_mem_splitLines {s piece : String} (h : piece ∈ splitLines s) :
    size piece ≤ size s := by
  obtain ⟨before, after, hsplit⟩ := List.append_of_mem h
  have hs := join_splitLines s
  rw [hsplit] at hs
  rw [← hs, String.join_append, String.join_cons, size_append, size_append]
  omega

end Text

/-! ## One newline for each line -/

namespace Document

theorem terminate_return (front : String) : terminate (front ++ "\r\n") = front ++ "\n" := by
  simp [terminate]

theorem terminate_line {s : String} (h : Text.IsLine s) :
    terminate s = s ∨ ∃ front, s = front ++ "\r\n" ∧ '\n' ∉ front.toList := by
  obtain ⟨front, rfl, hfront⟩ := h
  rcases hlast : front.toList.reverse with - | ⟨c, cs⟩
  · left
    simp [terminate, hlast]
  · by_cases hc : c = '\r'
    · right
      have hsplit : front.toList = cs.reverse ++ ['\r'] := by
        rw [← List.reverse_reverse front.toList, hlast, hc, List.reverse_cons]
      refine ⟨String.ofList cs.reverse, ?_, ?_⟩
      · simp [← String.toList_inj, hsplit]
      · rw [hsplit] at hfront
        simpa using hfront
    · left
      simp only [terminate, String.toList_append, List.reverse_append, hlast]
      split
      · rename_i heq
        simp [hc] at heq
      · rfl
      · rename_i hne
        exact absurd rfl (hne _)

theorem terminate_unended {s : String} (h : '\n' ∉ s.toList) : terminate s = s ++ "\n" := by
  have hrev : ∀ cs, s.toList.reverse ≠ '\n' :: cs := by
    intro cs hcs
    refine h (List.mem_reverse.1 ?_)
    rw [hcs]
    exact List.mem_cons_self
  rw [terminate]
  split
  · exact absurd ‹_› (hrev _)
  · exact absurd ‹_› (hrev _)
  · rfl

/-- A line keeps its text exactly when there is no carriage return to drop. -/
theorem terminate_eq_self_iff {s : String} (h : Text.IsLine s) :
    terminate s = s ↔ ¬ ∃ front, s = front ++ "\r\n" := by
  constructor
  · rintro hs ⟨front, rfl⟩
    rw [terminate_return] at hs
    have := congrArg Text.size hs
    rw [Text.size_append, Text.size_append] at this
    exact absurd (Nat.add_left_cancel this) (by decide)
  · intro hs
    rcases terminate_line h with heq | ⟨front, hfront, -⟩
    · exact heq
    · exact absurd ⟨front, hfront⟩ hs

theorem isLine_terminate {s : String} (h : Text.IsLine s ∨ '\n' ∉ s.toList) :
    Text.IsLine (terminate s) := by
  rcases h with h | h
  · rcases terminate_line h with heq | ⟨front, rfl, hfront⟩
    · rwa [heq]
    · exact ⟨front, terminate_return front, hfront⟩
  · exact ⟨s, terminate_unended h, h⟩

theorem size_terminate_le {s : String} (h : Text.IsLine s ∨ '\n' ∉ s.toList) :
    Text.size (terminate s) ≤ Text.size s + 1 := by
  rcases h with h | h
  · rcases terminate_line h with heq | ⟨front, rfl, -⟩
    · rw [heq]
      omega
    · rw [terminate_return, Text.size_append, Text.size_append]
      have hreturn : Text.size "\r\n" = Text.size "\n" + 1 := by decide
      omega
  · rw [terminate_unended h, Text.size_append]
    exact Nat.le_refl _

theorem allBlank_terminate {s : String} (h : Text.IsLine s) :
    Text.allBlank (terminate s) = Text.allBlank s := by
  rcases terminate_line h with heq | ⟨front, rfl, -⟩
  · rw [heq]
  · have hreturn : Text.isBlank '\r' = true := by decide
    rw [terminate_return]
    simp [Text.allBlank, hreturn]

theorem texts_numberLines (source : Path) (n : Nat) (pieces : List String) :
    (numberLines source n pieces).map (·.kind.text) = pieces.map terminate := by
  induction pieces generalizing n with
  | nil => rfl
  | cons piece rest ih => rw [numberLines, List.map_cons, List.map_cons, ih]

theorem exists_piece {source : Path} {n : Nat} {pieces : List String} {line : Line Raw}
    (h : line ∈ numberLines source n pieces) :
    ∃ piece ∈ pieces, line.kind.text = terminate piece := by
  have hmem : line.kind.text ∈ pieces.map terminate := by
    rw [← texts_numberLines source n]
    exact List.mem_map_of_mem h
  obtain ⟨piece, hpiece, heq⟩ := List.mem_map.1 hmem
  exact ⟨piece, hpiece, heq.symm⟩

theorem isLine_of_numberLines {source : Path} {n : Nat} {content : String} {line : Line Raw}
    (h : line ∈ numberLines source n (Text.splitLines content)) : Text.IsLine line.kind.text := by
  obtain ⟨piece, hpiece, heq⟩ := exists_piece h
  rw [heq]
  exact isLine_terminate (Text.mem_splitLines hpiece)

section
variable (source : Path) (content : String) (config : Configuration)

theorem isLine_of_read {line : Line Raw} (h : line ∈ (read source content config).lines) :
    Text.IsLine line.kind.text :=
  isLine_of_numberLines (List.mem_filter.1 h).1

/-- A line is no longer than the text, but for a newline at its end. -/
theorem size_le_of_read {line : Line Raw} (h : line ∈ (read source content config).lines) :
    Text.size line.kind.text ≤ Text.size content + 1 := by
  obtain ⟨piece, hpiece, heq⟩ := exists_piece (List.mem_filter.1 h).1
  have hsize := size_terminate_le (Text.mem_splitLines hpiece)
  have hle := Text.size_le_of_mem_splitLines hpiece
  rw [heq]
  omega

/-- Reading leaves no piece of the text out. -/
theorem texts_read :
    (read source content config).lines.map (·.kind.text) =
      (Text.splitLines content).map terminate := by
  rw [← texts_numberLines source 1]
  refine congrArg _ (ofLines_nonempty (fun line hline => ?_) config)
  exact Text.size_eq_zero.not.2 (isLine_of_numberLines hline).ne_empty

end

end Document

/-! ## Lines with tabs at their start -/

/-- The text starts with neither a space nor a tab. -/
def Text.Unindented (s : String) : Prop := ∀ c cs, s.toList = c :: cs → Measured.isIndent c = false

namespace Measured

theorem ofText_eq (s : String) :
    ofText s =
      ⟨(s.toList.takeWhile isIndent).count ' ', (s.toList.takeWhile isIndent).count '\t',
        String.ofList (s.toList.dropWhile isIndent)⟩ := by
  rw [ofText, Text.span_eq]
  simp

theorem unindented_rest (s : String) : Text.Unindented (ofText s).rest := by
  intro c cs h
  rw [ofText_eq] at h
  have hne : s.toList.dropWhile isIndent ≠ [] := by
    intro hnil
    simp [hnil] at h
  have hhead := List.head_dropWhile_not isIndent hne
  simp only [String.toList_ofList] at h
  simpa [h] using hhead

theorem isLine_rest {s : String} (h : Text.IsLine s) : Text.IsLine (ofText s).rest := by
  obtain ⟨front, rfl, hfront⟩ := h
  have hnewline : isIndent '\n' = false := by decide
  refine ⟨String.ofList (front.toList.dropWhile isIndent), ?_, ?_⟩
  · rw [ofText_eq]
    simp only [String.toList_append, List.dropWhile_append, ← String.toList_inj,
      String.toList_ofList]
    split
    · rename_i hempty
      simp [List.isEmpty_iff.1 hempty, hnewline]
    · rfl
  · intro hmem
    exact hfront (List.dropWhile_subset isIndent (by simpa using hmem))

/-- Spaces and tabs in front of a text that starts with neither are counted, and nothing else is. -/
theorem ofText_canonical {line : Measured} (h : Text.Unindented line.rest) :
    ofText (LineKind.canonical line) = line := by
  obtain ⟨spaces, tabs, rest⟩ := line
  have hrest : rest.toList.takeWhile isIndent = [] ∧ rest.toList.dropWhile isIndent = rest.toList := by
    cases hcs : rest.toList with
    | nil => exact ⟨rfl, rfl⟩
    | cons c cs => simp [h c cs hcs]
  have hindent : ∀ c ∈ List.replicate spaces ' ' ++ List.replicate tabs '\t', isIndent c = true := by
    intro c hc
    simp only [List.mem_append, List.mem_replicate] at hc
    rcases hc with ⟨-, rfl⟩ | ⟨-, rfl⟩
    · rfl
    · rfl
  show ofText (Text.copies ' ' spaces ++ Text.copies '\t' tabs ++ rest) = _
  rw [ofText_eq, String.toList_append, String.toList_append, Text.copies, Text.copies,
    String.toList_ofList, String.toList_ofList, List.takeWhile_append_of_pos hindent,
    List.dropWhile_append_of_pos hindent, hrest.1, hrest.2]
  simp [List.count_replicate]

theorem ofText_tabs (n : Nat) {rest : String} (h : Text.Unindented rest) :
    ofText (Text.copies '\t' n ++ rest) = ⟨0, n, rest⟩ := by
  have hcanonical : Text.copies '\t' n ++ rest = LineKind.canonical (⟨0, n, rest⟩ : Measured) := by
    simp [LineKind.canonical, Text.copies]
  rw [hcanonical]
  exact ofText_canonical h

theorem level_of_no_spaces {m : Measured} (h : m.spaces = 0) (tabwidth : Nat) :
    (m.indentation tabwidth).level = m.tabs := by
  have hhalf : max tabwidth 1 / 2 / max tabwidth 1 = 0 := by
    apply Nat.div_eq_of_lt
    omega
  simp only [indentation, h, Nat.zero_add, hhalf]

theorem isBlank_of_isIndent {c : Char} (h : isIndent c = true) : Text.isBlank c = true := by
  have hc : c = ' ' ∨ c = '\t' := by simpa [isIndent] using h
  rcases hc with rfl | rfl <;> decide

/-- What is counted is blank. -/
theorem allBlank_rest (s : String) : Text.allBlank (ofText s).rest = Text.allBlank s := by
  have hindent : (s.toList.takeWhile isIndent).all Text.isBlank = true := by
    refine List.all_eq_true.2 fun c hc => isBlank_of_isIndent ?_
    exact List.all_eq_true.1 List.all_takeWhile c hc
  have hsplit : s.toList.all Text.isBlank =
      ((s.toList.takeWhile isIndent).all Text.isBlank &&
        (s.toList.dropWhile isIndent).all Text.isBlank) := by
    rw [← List.all_append, List.takeWhile_append_dropWhile]
  rw [ofText_eq, Text.allBlank, Text.allBlank, hsplit, hindent, String.toList_ofList, Bool.true_and]

theorem spaces_le_size (s : String) : (ofText s).spaces ≤ Text.size s := by
  have hcount : (ofText s).spaces ≤ (s.toList.takeWhile isIndent).length := by
    rw [ofText_eq]
    exact List.count_le_length
  have hprefix := (List.takeWhile_prefix isIndent : _ <+: s.toList).length_le
  have hsize := Text.length_le_size_ofList s.toList
  rw [String.ofList_toList] at hsize
  omega

end Measured

namespace Normalized

theorem canonical_eq (k : Normalized) :
    LineKind.canonical k = Text.copies '\t' k.level ++ k.content := rfl

/-- A line as normalization makes it: one physical line, whose content starts with neither a space
nor a tab. -/
structure Whole (k : Normalized) : Prop where
  isLine : Text.IsLine k.content
  unindented : Text.Unindented k.content

end Normalized

namespace Line

/-- The line with its leading spaces and tabs turned into tabs. -/
def indented (line : Line Raw) (tabwidth : Nat) : Line Normalized :=
  line.measure.normalized tabwidth

theorem content_indented (line : Line Raw) (tabwidth : Nat) :
    (line.indented tabwidth).kind.content = (Measured.ofText line.kind.text).rest := rfl

theorem whole_indented {line : Line Raw} (h : Text.IsLine line.kind.text) (tabwidth : Nat) :
    (line.indented tabwidth).kind.Whole := by
  constructor
  · rw [content_indented]
    exact Measured.isLine_rest h
  · rw [content_indented]
    exact Measured.unindented_rest _

theorem allBlank_indented (line : Line Raw) (tabwidth : Nat) :
    Text.allBlank (line.indented tabwidth).canonical = line.kind.isBlank := by
  have htab : Text.isBlank '\t' = true := by decide
  have htabs : ∀ n, (List.replicate n '\t').all Text.isBlank = true := by simp [htab]
  rw [Raw.isBlank, ← Measured.allBlank_rest line.kind.text, canonical, Normalized.canonical_eq,
    content_indented, Text.allBlank, Text.allBlank, Text.copies, String.toList_append, String.toList_ofList,
    List.all_append, htabs, Bool.true_and]

end Line

namespace Normalized.Whole

variable {k : Normalized}

theorem isLine_canonical (h : k.Whole) : Text.IsLine (LineKind.canonical k) := by
  obtain ⟨front, hcontent, hfront⟩ := h.isLine
  refine ⟨Text.copies '\t' k.level ++ front, ?_, ?_⟩
  · rw [canonical_eq, hcontent, String.append_assoc]
  · simp [Text.copies, hfront]

/-- The carriage return that reading drops is never next to the tabs in front. -/
theorem terminate_canonical (h : k.Whole) :
    Document.terminate (LineKind.canonical k) =
      Text.copies '\t' k.level ++ Document.terminate k.content := by
  rw [canonical_eq]
  rcases Document.terminate_line h.isLine with heq | ⟨front, hcontent, -⟩
  · rw [heq]
    refine (Document.terminate_eq_self_iff h.isLine_canonical).2 ?_
    rintro ⟨front, hfront⟩
    refine (Document.terminate_eq_self_iff h.isLine).1 heq ?_
    rcases Nat.le_total (Text.size (Text.copies '\t' k.level)) (Text.size front) with hle | hle
    · obtain ⟨x, -, hx⟩ := Text.append_split hfront hle
      exact ⟨x, hx⟩
    · -- what the tabs hold of the ending is nothing, since a carriage return is no tab
      obtain ⟨y, htabs, hending⟩ := Text.append_split hfront.symm hle
      rcases hy : y.toList with - | ⟨c, cs⟩
      · refine ⟨"", ?_⟩
        rw [String.empty_append, hending, String.toList_eq_nil_iff.1 hy, String.empty_append]
      · have hc : c = '\r' := by simpa [hy, eq_comm] using congrArg (·.toList.head?) hending
        have hmem : c ∈ (Text.copies '\t' k.level).toList := by simp [htabs, hy]
        rw [Text.copies, String.toList_ofList] at hmem
        exact absurd (hc.symm.trans (List.mem_replicate.1 hmem).2) (by decide)
  · rw [hcontent, ← String.append_assoc, Document.terminate_return, Document.terminate_return,
      String.append_assoc]

theorem unindented_terminate (h : k.Whole) : Text.Unindented (Document.terminate k.content) := by
  rcases Document.terminate_line h.isLine with heq | ⟨front, hcontent, -⟩
  · rw [heq]
    exact h.unindented
  · rw [hcontent, Document.terminate_return]
    intro c cs hcs
    rcases hfront : front.toList with - | ⟨c', cs'⟩
    · have hc : c = '\n' := by simpa [hfront, eq_comm] using congrArg List.head? hcs
      rw [hc]
      decide
    · have hc : c' = c := by simpa [hfront] using congrArg List.head? hcs
      refine h.unindented c (cs' ++ ['\r', '\n']) ?_
      rw [hcontent, String.toList_append, hfront, hc]
      rfl

/-- Reading a line again drops the carriage return at its end, if it has one, and otherwise leaves
it as it is. -/
theorem remeasured (h : k.Whole) {line : Line Raw}
    (hline : line.kind.text = Document.terminate (LineKind.canonical k)) (tabwidth : Nat) :
    (line.indented tabwidth).canonical = line.kind.text := by
  have hmeasured : line.measure.kind = ⟨0, k.level, Document.terminate k.content⟩ := by
    rw [Line.measure, hline, h.terminate_canonical]
    exact Measured.ofText_tabs _ h.unindented_terminate
  have hlevel : (line.indented tabwidth).kind.level = k.level := by
    rw [Line.indented, Line.normalized, hmeasured]
    exact Measured.level_of_no_spaces rfl tabwidth
  rw [Line.canonical, canonical_eq, hlevel, hline, h.terminate_canonical]
  exact congrArg _ (congrArg Measured.rest hmeasured)

end Normalized.Whole

end SourcePrep
