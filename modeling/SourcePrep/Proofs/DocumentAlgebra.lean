import SourcePrep.Document.Reader
import SourcePrep.Document.Region
import SourcePrep.Proofs.ExpansionLoop
import SourcePrep.Proofs.Lookups

/-!
# Slices, joins and splices of documents

`slice` and `concat` build their result from lines, and so does everything that makes a document
line by line. `splice` edits a document: it cuts lines, puts others between them and keeps the table
of offsets up to the first line touched. It comes to the same.

* `obtained_represented`: no line of a document is empty and the table of offsets holds the running
  totals of the lines, whatever operations made the document.
* `splice_eq_concat`: a splice is the part of the document before it, the replacement, and the part
  after it, joined.
-/

set_option autoImplicit false

namespace SourcePrep

namespace Document

section
variable {κ κ' : Type} [LineKind κ'] {σ ε : Type}

/-- The lines changed one by one. -/
def map (f : Line κ → Line κ') (d : Document κ) : Document κ' := ofLines (d.lines.map f) d.config

/-- The lines changed one by one, by a computation that may end early. -/
def tryMap (f : Line κ → ExceptT ε (StateM σ) (Line κ')) (d : Document κ) :
    ExceptT ε (StateM σ) (Document κ') := do
  return ofLines (← d.lines.mapM f) d.config

theorem measure_eq_map (d : Document Raw) : d.measure = d.map Line.measure := rfl

theorem normalizeLines_eq_tryMap [Sink σ] (d : Document Measured) (tabwidth : Nat) :
    (d.normalizeLines tabwidth : Reporting σ _) = d.tryMap (Line.normalize tabwidth) := rfl

end

/-! ## What the operations keep -/

/-- A document that is made from given lines or from a text, by operations that cut between
characters. -/
inductive Obtained : {κ : Type} → [LineKind κ] → Document κ → Prop
  | ofLines {κ : Type} [LineKind κ] (lines : List (Line κ)) (config : Configuration) :
      Obtained (ofLines lines config)
  | empty {κ : Type} [LineKind κ] (config : Configuration) : Obtained (empty config : Document κ)
  | read (source : Path) (content : String) (config : Configuration) :
      Obtained (read source content config)
  | withConfig {κ : Type} [LineKind κ] {d : Document κ} (made : Obtained d)
      (config : Configuration) : Obtained (d.withConfig config)
  | slice {κ : Type} [LineKind κ] {d e : Document κ} {start stop : Nat} (made : Obtained d)
      (cut : d.slice? start stop = some e) : Obtained e
  | concat {κ : Type} [LineKind κ] {d e : Document κ} (made : Obtained d) (other : Obtained e) :
      Obtained (d.concat e)
  | splice {κ : Type} [LineKind κ] [LawfulLineKind κ] {d r e : Document κ} {start stop : Nat}
      (made : Obtained d) (replacement : Obtained r) (cut : d.splice? start stop r = some e) :
      Obtained e
  | map {κ κ' : Type} [LineKind κ] [LineKind κ'] {d : Document κ} (made : Obtained d)
      (f : Line κ → Line κ') : Obtained (d.map f)
  | tryMap {κ κ' σ ε : Type} [LineKind κ] [LineKind κ'] {d : Document κ} {e : Document κ'}
      {f : Line κ → ExceptT ε (StateM σ) (Line κ')} {s t : σ} (made : Obtained d)
      (run : d.tryMap f s = (.ok e, t)) : Obtained e
  | replaceRegion {σ : Type} [Sink σ] {d e : Document Normalized} {text : String}
      {startsLine : Bool} {s t : σ} (made : Obtained d)
      (run : d.replaceRegion text startsLine s = (.ok (.ok e), t)) : Obtained e

/-- What can be seen of a well-formed document: no line is empty, and the table of offsets starts at
zero, has one entry more than there are lines, grows by the length of each line, and ends at the
length of the text. -/
structure Represented {κ : Type} [LineKind κ] (d : Document κ) : Prop where
  nonempty : ∀ l ∈ d.lines, l.size ≠ 0
  length : d.offsets.length = d.lineCount + 1
  first : d.offsets[0]? = some 0
  step : ∀ i l, d.lines[i]? = some l → ∃ offset, d.offsets[i]? = some offset ∧
    d.offsets[i + 1]? = some (offset + Text.size l.canonical)
  increasing : d.offsets.Pairwise (· < ·)
  size : d.size = Text.size d.text

section
variable {κ : Type} [LineKind κ]

/-- Offsets grow when no line is empty. -/
theorem pairwise_offsetsFrom {ls : List (Line κ)} (h : ∀ l ∈ ls, l.size ≠ 0) (total : Nat) :
    (total :: offsetsFrom total ls).Pairwise (· < ·) := by
  induction ls generalizing total with
  | nil => exact List.pairwise_singleton _ _
  | cons l ls ih =>
    have hl : total < total + l.size := Nat.lt_add_of_pos_right (Nat.pos_of_ne_zero (h l (.head _)))
    have hrest := ih (fun m hm => h m (.tail _ hm)) (total + l.size)
    refine List.pairwise_cons.2 ⟨fun o ho => ?_, hrest⟩
    rcases List.mem_cons.1 ho with rfl | ho
    · exact hl
    · exact hl.trans ((List.pairwise_cons.1 hrest).1 o ho)

/-- Only what lies in the document of the bounds of a splice matters. -/
theorem splice_clamped (d : Document κ) (start stop : Nat) (r : Document κ) :
    d.splice start stop r = d.splice (min start (min stop d.size)) (min stop d.size) r := by
  simp only [splice, Nat.min_assoc, Nat.min_self]

variable [LawfulLineKind κ] {d r : Document κ}

theorem WellFormed.represented (hd : d.WellFormed) : d.Represented where
  nonempty := hd.nonempty
  length := by rw [hd.offsets, List.length_cons, length_offsetsFrom, lineCount]
  first := by rw [hd.offsets, List.getElem?_cons_zero]
  step i l hl := by
    obtain ⟨hi, rfl⟩ := List.getElem?_eq_some_iff.1 hl
    have hsplit : d.lines = d.lines.take i ++ d.lines[i] :: d.lines.drop (i + 1) := by simp
    have hnext : d.lines = (d.lines.take i ++ [d.lines[i]]) ++ d.lines.drop (i + 1) := by simp
    have hlength : (d.lines.take i).length = i := List.length_take_of_le (Nat.le_of_lt hi)
    have here := hd.offsets_get hsplit
    have there := hd.offsets_get hnext
    rw [List.length_append, List.length_singleton, hlength] at there
    rw [hlength] at here
    refine ⟨_, here, ?_⟩
    rw [there, List.map_append, List.sum_append, ← Line.size_canonical]
    simp
  increasing := by
    rw [hd.offsets]
    exact pairwise_offsetsFrom hd.nonempty 0
  size := hd.size_eq

namespace WellFormed

omit [LawfulLineKind κ] in
/-- There is one well-formed document with given lines. -/
theorem eq_ofLines (hd : d.WellFormed) : d = Document.ofLines d.lines d.config := by
  obtain ⟨lines, config, offsets⟩ := d
  have hkept : lines.filter (fun l => l.size ≠ 0) = lines :=
    List.filter_eq_self.2 fun l hl => by simpa using hd.nonempty l hl
  have hoffsets : offsets = 0 :: offsetsFrom 0 lines := hd.offsets
  simp only [Document.ofLines, hkept, hoffsets]

/-- An offset where the document can be cut is a cut of its text. -/
theorem exists_of_isCut (hd : d.WellFormed) {offset : Nat} (hle : offset ≤ d.size)
    (h : d.isCut offset = true) : ∃ a b, d.text = a ++ b ∧ Text.size a = offset := by
  cases hd.place hle with
  | @inside before after l column lines inner =>
    have hget : d.lines[before.length]? = some l := by simp [lines]
    rw [Document.isCut, hd.offsetOf_column lines inner] at h
    simp only [hget] at h
    obtain ⟨x, y, hl, rfl⟩ := Text.isCut_iff.1 h
    refine ⟨textOf before ++ x, y ++ textOf after, ?_, ?_⟩
    · rw [text_eq, lines, textOf_append, textOf_cons, hl]
      simp only [String.append_assoc]
    · rw [Text.size_append, size_textOf]
  | atEnd => exact ⟨d.text, "", by simp, by rw [text_eq, size_textOf]⟩

/-- Two cuts in order divide the text in three. -/
theorem exists_of_cuts (hd : d.WellFormed) {start stop : Nat} (horder : start ≤ stop)
    (hle : stop ≤ d.size) (hstart : d.isCut start = true) (hstop : d.isCut stop = true) :
    ∃ a b c, d.text = a ++ b ++ c ∧ Text.size a = start ∧ Text.size (a ++ b) = stop := by
  obtain ⟨a, back, ha, rfl⟩ := hd.exists_of_isCut (horder.trans hle) hstart
  obtain ⟨front, c, hc, rfl⟩ := hd.exists_of_isCut hle hstop
  obtain ⟨b, rfl, rfl⟩ := Text.append_split (ha.symm.trans hc) horder
  exact ⟨a, b, c, hc, rfl, rfl⟩

theorem splice (hd : d.WellFormed) (hr : r.WellFormed) {start stop : Nat} {e : Document κ}
    (h : d.splice? start stop r = some e) : e.WellFormed := by
  have heq := eq_splice_of_splice? h
  rw [splice?] at h
  split at h
  · rename_i hcuts
    obtain ⟨a, b, c, htext, ha, hab⟩ :=
      hd.exists_of_cuts (Nat.min_le_right _ _) (Nat.min_le_right _ _) hcuts.1 hcuts.2
    obtain ⟨new, hnew, hwf, -⟩ := hd.splice?_text htext hr
    rw [heq, splice_clamped, ← ha, ← hab, ← eq_splice_of_splice? hnew]
    exact hwf
  · cases h

end WellFormed

end

theorem tryMap_eq_ofLines {κ κ' σ ε : Type} [LineKind κ'] {d : Document κ} {e : Document κ'}
    {f : Line κ → ExceptT ε (StateM σ) (Line κ')} {s t : σ} (h : d.tryMap f s = (.ok e, t)) :
    ∃ lines, e = ofLines lines d.config := by
  have hrun : (ExceptT.bind (d.lines.mapM f) fun lines => pure (ofLines lines d.config)) s =
      (.ok e, t) := h
  generalize d.lines.mapM f = changed at hrun
  rcases hs : changed s with ⟨failure | lines, s'⟩ <;>
    simp only [ExceptT.bind, ExceptT.mk, ExceptT.bindCont, bind, StateT.bind, hs] at hrun
  · cases hrun
  · cases hrun
    exact ⟨lines, rfl⟩

theorem replaceRegion_eq_ofLines {σ : Type} [Sink σ] (d : Document Normalized) (text : String)
    (startsLine : Bool) :
    Returns (d.replaceRegion text startsLine : Reporting σ _) fun result =>
      ∀ e, result = .ok e → ∃ lines, e = ofLines lines d.config := by
  rw [replaceRegion]
  split
  · exact .pure fun e he => ⟨[], (Except.ok.inj he).symm⟩
  · split
    · exact .pure (by simp)
    · refine .after fun lines => .pure fun e he => ⟨lines, (Except.ok.inj he).symm⟩

/-- Every operation gives a well-formed document. Most of them leave the empty lines out and make
the table anew; only a new configuration and a splice keep what was there. -/
theorem Obtained.wellFormed {κ : Type} [LineKind κ] {d : Document κ} (h : Obtained d) :
    d.WellFormed := by
  induction h with
  | ofLines lines config => exact wellFormed_ofLines lines config
  | empty config => exact wellFormed_empty config
  | read source content config => exact wellFormed_ofLines _ config
  | withConfig _ config ih => exact ⟨ih.nonempty, ih.offsets⟩
  | slice _ cut =>
    rw [eq_slice_of_slice? cut, Document.slice]
    split
    · exact wellFormed_empty _
    · exact wellFormed_ofLines _ _
  | concat => exact wellFormed_ofLines _ _
  | splice _ _ cut ih ihr => exact ih.splice ihr cut
  | map _ f => exact wellFormed_ofLines _ _
  | tryMap _ run =>
    obtain ⟨lines, rfl⟩ := tryMap_eq_ofLines run
    exact wellFormed_ofLines lines _
  | replaceRegion _ run =>
    obtain ⟨lines, rfl⟩ := replaceRegion_eq_ofLines _ _ _ _ _ _ run _ rfl
    exact wellFormed_ofLines lines _

/-- A document of any kind of line has the representation that offsets are looked up in, whatever
made it. -/
theorem obtained_represented {κ : Type} [LineKind κ] [LawfulLineKind κ] {d : Document κ}
    (h : Obtained d) : d.Represented :=
  h.wellFormed.represented

/-- Two lines, the first of them indented. -/
def indented : Document Normalized :=
  ofLines [⟨⟨⟨"a"⟩, 1⟩, ⟨2, "é\n"⟩⟩, ⟨⟨⟨"a"⟩, 2⟩, ⟨0, "bc\n"⟩⟩] {}

theorem obtained_represented_indented :
    ∃ e, indented.splice? 1 6 (indented.withConfig {}) = some e ∧ e.text = "\t\t\té\nbc\nc\n" ∧
      e.Represented := by
  have htext : (indented.splice? 1 6 (indented.withConfig {})).map Document.text =
      some "\t\t\té\nbc\nc\n" := by decide
  obtain ⟨e, he, htext⟩ := Option.map_eq_some_iff.1 htext
  exact ⟨e, he, htext,
    obtained_represented (.splice (.ofLines _ _) (.withConfig (.ofLines _ _) _) he)⟩

/-! ## A splice is two slices and what is joined to them -/

section
variable {κ : Type} [LineKind κ] {d r : Document κ}

theorem WellFormed.offsetOf_zero (hd : d.WellFormed) : d.offsetOf 0 = (0, 0) := by
  rw [offsetOf, hd.offsets]
  rcases hlines : d.lines with - | ⟨l, ls⟩
  · rfl
  · have hl : 0 < l.size := Nat.pos_of_ne_zero (hd.nonempty l (by simp [hlines]))
    simp [offsetsFrom, List.findIdx_cons, hl]

variable [ExactLineKind κ]

/-- The slice up to an offset has the lines before it. -/
theorem WellFormed.slice_to (hd : d.WellFormed) (stop : Nat) :
    d.slice 0 stop = Document.ofLines (d.linesTo (min stop d.size)) d.config := by
  simp only [Document.slice, hd.offsetOf_zero]
  have hle : min stop d.size ≤ d.size := Nat.min_le_right _ _
  generalize min stop d.size = stop at hle ⊢
  split
  · obtain rfl : stop = 0 := by omega
    simp only [linesTo, hd.offsetOf_zero]
    rfl
  · rename_i hpos
    congr 1
    simp only [linesTo]
    split
    · rename_i hsame
      have hcolumn : 0 < (d.offsetOf stop).2 := by
        simp only [offsetOf] at hsame ⊢
        rw [← hsame, hd.offsets, List.getElem?_cons_zero, Option.getD_some]
        omega
      rw [← hsame, List.take_zero, List.nil_append, if_pos hcolumn]
    · rename_i hother
      rcases hlines : d.lines with - | ⟨l, ls⟩
      · have hline := hd.line_le hle
        simp only [lineCount, hlines, List.length_nil] at hline
        omega
      · obtain ⟨i, hi⟩ : ∃ i, (d.offsetOf stop).1 = i + 1 :=
          Nat.exists_eq_succ_of_ne_zero (Ne.symm hother)
        simp [cutLineFrom, hlines, l.slice_whole, hi]

omit [ExactLineKind κ] in
/-- Two places of the text, each between two characters or past the end, divide it in three: what is
before both, what is between, and what is after the second. -/
theorem WellFormed.split_at [LawfulLineKind κ] (hd : d.WellFormed) {start stop : Nat}
    (hstart : start < d.size → Text.isCut d.text start = true)
    (hstop : stop < d.size → Text.isCut d.text stop = true) :
    ∃ a b c, d.text = a ++ b ++ c ∧ Text.size a = min (min start stop) d.size ∧
      Text.size (a ++ b) = min stop d.size := by
  have clamped : ∀ offset, (offset < d.size → Text.isCut d.text offset = true) →
      ∃ x y, d.text = x ++ y ∧ Text.size x = min offset d.size := fun offset hcut => by
    refine Text.isCut_iff.1 ?_
    by_cases hlt : offset < d.size
    · rw [Nat.min_eq_left (Nat.le_of_lt hlt)]
      exact hcut hlt
    · rw [Nat.min_eq_right (by omega), hd.size_eq]
      exact Text.isCut_size _
  obtain ⟨x, y, hxy, hx⟩ := clamped (min start stop) fun hlt => by
    rcases Nat.le_total start stop with hle | hle
    · rw [Nat.min_eq_left hle] at hlt ⊢
      exact hstart hlt
    · rw [Nat.min_eq_right hle] at hlt ⊢
      exact hstop hlt
  obtain ⟨front, c, hc, hfront⟩ := clamped stop hstop
  obtain ⟨b, rfl, rfl⟩ := Text.append_split (hxy.symm.trans hc) (by omega)
  exact ⟨x, b, c, hc, hx, hfront⟩

/-- A splice keeps the lines before it, puts the replacement behind them, and the lines after it
behind that: the document that the slices on either side make when they are joined to the
replacement, with the same positions, table of offsets and configuration. -/
theorem splice_eq_concat (hd : d.WellFormed) (hr : r.WellFormed) {start stop : Nat}
    (hstart : start < d.size → Text.isCut d.text start = true)
    (hstop : stop < d.size → Text.isCut d.text stop = true) :
    ∃ front back, d.slice? 0 (min start stop) = some front ∧ d.slice? stop d.size = some back ∧
      d.splice? start stop r = some ((front.concat r).concat back) := by
  obtain ⟨a, b, c, htext, ha, hab⟩ := hd.split_at hstart hstop
  have htext' : d.text = a ++ (b ++ c) := htext.trans (String.append_assoc ..)
  have hzero : d.isCut 0 = true := hd.isCut (String.empty_append (s := d.text)).symm
  have hsize : d.isCut d.size = true := by
    rw [hd.size_eq]
    exact hd.isCut (String.append_empty (s := d.text)).symm
  have hfront : d.slice? 0 (min start stop) = some (d.slice 0 (min start stop)) :=
    if_pos (.inr ⟨hzero, ha ▸ hd.isCut htext'⟩)
  have hback : d.slice? stop d.size = some (d.slice stop d.size) := by
    by_cases hpast : d.size ≤ stop
    · exact if_pos (.inl (by omega))
    · rw [Nat.min_eq_left (by omega)] at hab
      refine if_pos (.inr ⟨hab ▸ hd.isCut htext, ?_⟩)
      rwa [Nat.min_self]
  refine ⟨_, _, hfront, hback, ?_⟩
  have hclamp : min start (min stop d.size) = Text.size a := by omega
  have hcuts : d.isCut (min start (min stop d.size)) ∧ d.isCut (min stop d.size) := by
    rw [hclamp, ← hab]
    exact ⟨hd.isCut htext', hd.isCut htext⟩
  -- the splice is made of the lines before, the new lines and the lines after; so are the slices
  obtain ⟨hlines, hconfig, -⟩ := hd.splice_eq htext r
  have hwf := hd.splice hr (if_pos hcuts)
  rw [splice?, if_pos hcuts, hwf.eq_ofLines, splice_clamped, hclamp, ← hab, hlines, hconfig,
    hd.slice_to, ha, hd.slice_from, ← hab]
  obtain ⟨-, hto⟩ := hd.linesTo_text htext'
  obtain ⟨-, hfrom⟩ := hd.linesFrom_text htext
  have hleft : ∀ l ∈ d.linesTo (Text.size a) ++ r.lines, l.size ≠ 0 := fun l hl =>
    (List.mem_append.1 hl).elim (hto l) (hr.nonempty l)
  rw [← ha]
  simp only [concat, ofLines_nonempty hto, ofLines_nonempty hfrom, ofLines_nonempty hleft]
  rfl

/-- The cuts lie in the indentation of the first line and behind the first letter of the second. -/
theorem splice_eq_concat_indented :
    ∃ front back, indented.slice? 0 1 = some front ∧
      indented.slice? 6 indented.size = some back ∧
      indented.splice? 1 6 indented = some ((front.concat indented).concat back) := by
  have hwf : indented.WellFormed := wellFormed_ofLines _ _
  have hstart : Text.isCut indented.text 1 = true := by decide
  have hstop : Text.isCut indented.text 6 = true := by decide
  exact splice_eq_concat hwf hwf (fun _ => hstart) (fun _ => hstop)

end

end Document

end SourcePrep
