import SourcePrep.Proofs.IndentMarks
import SourcePrep.Proofs.LinePositions
import SourcePrep.Proofs.NormalizedFiles

/-!
# What a text makes in place of a region

A text that takes the place of a document is cut after each newline, and the pieces are spread over
the lines that they replace. A piece that starts a physical line is measured and gets a level, as a
line of a file does; one that starts inside of a line stays as it is. What comes to nothing, which
only the last piece can, is no line.

* `Placed`: the pieces of a text, with the positions that they take.
* `replaceRegion_play`: the run of `replaceRegion`, with everything that it reports, in order.
* `replaceRegion_pieces`: what follows for the result, also when its text is put in again.
-/

set_option autoImplicit false

namespace SourcePrep

/-! ## Pieces that are put together again -/

namespace Text

theorem Pieces.map_of {α : Type} {f g : α → String} (hline : ∀ a, IsLine (f a) → IsLine (g a))
    (hlast : ∀ a, '\n' ∉ (f a).toList → '\n' ∉ (g a).toList) {as : List α}
    (h : Pieces (as.map f)) : Pieces (as.map g) := by
  induction as with
  | nil => exact .nil
  | cons a as ih =>
    rw [List.map_cons] at h ⊢
    generalize hrest : as.map f = rest at h
    cases h with
    | last unended =>
      rw [List.map_eq_nil_iff.1 hrest]
      exact .last (hlast a unended)
    | cons line more =>
      rw [← hrest] at more
      exact .cons (hline a line) (ih more)

theorem Pieces.filter {ps : List String} (h : Pieces ps) : Pieces (ps.filter (· ≠ "")) := by
  induction h with
  | nil => exact .nil
  | @last s unended =>
    by_cases hs : s = ""
    · rw [List.filter_cons_of_neg (by simpa using hs)]
      exact .nil
    · rw [List.filter_cons_of_pos (by simpa using hs)]
      exact .last unended
  | cons line _ ih =>
    rw [List.filter_cons_of_pos (by simpa using line.ne_empty)]
    exact .cons line ih

/-- Pieces are told apart again, unless the last one is empty. -/
theorem splitLines_pieces {ps : List String} (h : Pieces ps) (hfull : "" ∉ ps) :
    splitLines (String.join ps) = ps := by
  have hread : ∀ done, ((String.join ps).toList.foldl Splitting.add ⟨done, ""⟩).pieces =
      done.toList ++ ps := by
    induction h with
    | nil =>
      intro done
      simp [Splitting.pieces]
    | @last s unended =>
      intro done
      have hs : s.isEmpty = false := by
        apply Bool.eq_false_iff.2
        intro hempty
        exact hfull (List.mem_singleton.2 (String.isEmpty_iff.1 hempty).symm)
      rw [String.join_cons, String.join_nil, String.append_empty,
        Splitting.foldl_add_of_notMem done "" unended]
      simp [Splitting.pieces, hs]
    | @cons s rest line _ ih =>
      intro done
      have hrest : "" ∉ rest := fun hmem => hfull (List.mem_cons_of_mem s hmem)
      rw [String.join_cons, String.toList_append, List.foldl_append,
        Splitting.foldl_add_line done line, ih hrest (done.push s)]
      simp
  rw [splitLines_eq, hread #[]]
  rfl

end Text

namespace Line

/-- The line with all of it as content. -/
def verbatim (line : Line Raw) : Line Normalized := ⟨line.position, ⟨0, line.kind.text⟩⟩

/-- No tabwidth is smaller than one: a tabwidth of zero rounds nothing either. -/
theorem normalize_max {σ : Type} [Sink σ] (tabwidth : Nat) (line : Line Measured) :
    (line.normalize tabwidth : Reporting σ _) = line.normalize (max tabwidth 1) := by
  cases tabwidth with
  | zero => simp [normalize, normalized, Measured.indentation, Nat.mod_one]
  | succ n => rw [Nat.max_eq_left (Nat.le_add_left 1 n)]

section
variable {tabwidth : Nat}

theorem isLine_levelled (h : 0 < tabwidth) {line : Line Raw} (hline : Text.IsLine line.kind.text) :
    Text.IsLine (line.levelled tabwidth).canonical := by
  rw [← indented_eq_levelled h]
  exact (whole_indented hline tabwidth).isLine_canonical

theorem unended_levelled {line : Line Raw} (hline : '\n' ∉ line.kind.text.toList) :
    '\n' ∉ (line.levelled tabwidth).canonical.toList := by
  have hcontent : '\n' ∉ line.kind.text.toList.dropWhile Measured.isIndent :=
    fun hmem => hline (List.dropWhile_subset _ hmem)
  rw [canonical, Normalized.canonical_eq, levelled, Text.copies]
  simp [hcontent]

/-- A level is measured again as it is, since it is written with tabs. -/
theorem levelled_again (h : 0 < tabwidth) {line again : Line Raw}
    (htext : again.kind.text = (line.levelled tabwidth).canonical) :
    again.leadingSpaces = 0 ∧
      ∀ {width}, 0 < width → (again.levelled width).kind = (line.levelled tabwidth).kind := by
  have hmeasured : Measured.ofText again.kind.text =
      ⟨0, (line.levelled tabwidth).kind.level, (line.levelled tabwidth).kind.content⟩ := by
    rw [htext, canonical, Normalized.canonical_eq]
    apply Measured.ofText_tabs
    rw [← indented_eq_levelled h]
    exact Measured.unindented_rest line.kind.text
  constructor
  · have hspaces := congrArg Measured.spaces hmeasured
    rwa [Measured.ofText_eq] at hspaces
  · intro width hwidth
    rw [← indented_eq_levelled hwidth, indented, normalized, measure, hmeasured]
    simp only [Measured.level_of_no_spaces]

end

end Line

namespace Document

/-! ## The run -/

/-- The number of the line that piece `i` of `n` takes the place of. -/
def replacedLine (d : Document Normalized) (n i : Nat) : Nat := i * d.lineCount / n

/-- The pieces of a text, each at the position of the line that it takes the place of. These lines
are taken in order, from the first one on. -/
structure Placed (d : Document Normalized) (text : String) (pieces : List (Line Raw)) : Prop where
  texts : pieces.map (·.kind.text) = Text.splitLines text
  positions : ∀ i (h : i < pieces.length),
    d.positions[d.replacedLine pieces.length i]? = some pieces[i].position
  within : ∀ i < pieces.length, d.replacedLine pieces.length i < d.lineCount
  mono : ∀ i j, i ≤ j → d.replacedLine pieces.length i ≤ d.replacedLine pieces.length j
  first : d.replacedLine pieces.length 0 = 0

/-- How many pieces are not measured: the first one, if it starts inside of a line. -/
def unmeasured (startsLine : Bool) : Nat := if startsLine then 0 else 1

/-- The lines of the pieces: a level and a content for each one that is measured. -/
def regionOf (tabwidth : Nat) (startsLine : Bool) (pieces : List (Line Raw)) :
    List (Line Normalized) :=
  (pieces.take (unmeasured startsLine)).map Line.verbatim ++
    (pieces.drop (unmeasured startsLine)).map (·.levelled tabwidth)

/-- What is reported about the pieces that are measured. -/
def regionWarnings (tabwidth : Nat) (startsLine : Bool) (pieces : List (Line Raw)) :
    List Diagnostic :=
  Normalization.roundingWarnings tabwidth (pieces.drop (unmeasured startsLine))

theorem lineCount_pos {d : Document Normalized} (hd : d.isEmpty = false) : 0 < d.lineCount := by
  apply List.length_pos_of_ne_nil
  intro hnil
  rw [isEmpty, hnil] at hd
  cases hd

theorem replacedLine_lt {d : Document Normalized} (hd : d.isEmpty = false) {n i : Nat}
    (h : i < n) : d.replacedLine n i < d.lineCount := by
  apply Nat.div_lt_of_lt_mul
  exact Nat.mul_lt_mul_of_pos_right h (lineCount_pos hd)

theorem replacedLine_mono (d : Document Normalized) (n : Nat) {i j : Nat} (h : i ≤ j) :
    d.replacedLine n i ≤ d.replacedLine n j :=
  Nat.div_le_div_right (Nat.mul_le_mul_right _ h)

theorem replacedLine_zero (d : Document Normalized) (n : Nat) : d.replacedLine n 0 = 0 := by
  rw [replacedLine, Nat.zero_mul, Nat.zero_div]

theorem placed_nil (d : Document Normalized) : Placed d "" [] := by
  refine ⟨rfl, ?_, ?_, fun i j => d.replacedLine_mono _, d.replacedLine_zero _⟩
  · intro i hi
    cases hi
  · intro i hi
    cases hi

/-- Nothing is cut off in rescaling the number of a piece. -/
theorem rescaled_eq {d : Document Normalized} (hd : d.isEmpty = false) {n i : Nat} (h : i < n) :
    d.rescaled n i = d.replacedLine n i := by
  have hlt := replacedLine_lt hd h
  apply Nat.min_eq_left
  show d.replacedLine n i ≤ d.lineCount - 1
  omega

section
variable {σ : Type} [Sink σ] (d : Document Normalized) (n : Nat)

/-- The pieces from number `i` on take the positions of the lines that they replace. -/
def PlacedFrom (i : Nat) (pieces : List (Line Raw)) : Prop :=
  ∀ j piece, pieces[j]? = some piece → d.positions[d.rescaled n (i + j)]? = some piece.position

variable {d n}

theorem PlacedFrom.tail {i : Nat} {piece : Line Raw} {rest : List (Line Raw)}
    (h : d.PlacedFrom n i (piece :: rest)) : d.PlacedFrom n (i + 1) rest := by
  intro j line hline
  have hnext := h (j + 1) line (by simpa using hline)
  rwa [Nat.add_comm j 1, ← Nat.add_assoc] at hnext

theorem exists_placedFrom (hd : d.isEmpty = false) (i : Nat) (texts : List String) :
    ∃ pieces, pieces.map (·.kind.text) = texts ∧ d.PlacedFrom n i pieces := by
  induction texts generalizing i with
  | nil => exact ⟨[], rfl, by simp [PlacedFrom]⟩
  | cons text texts ih =>
    obtain ⟨pieces, htexts, hpieces⟩ := ih (i + 1)
    have hlt : d.rescaled n i < d.positions.length := by
      have hle : d.rescaled n i ≤ d.lineCount - 1 := Nat.min_le_right ..
      have hpos := lineCount_pos hd
      rw [positions, List.length_map]
      exact Nat.lt_of_le_of_lt hle (Nat.sub_lt hpos Nat.one_pos)
    refine ⟨⟨d.positions[d.rescaled n i], ⟨text⟩⟩ :: pieces, by simp [htexts], ?_⟩
    intro j line hline
    cases j with
    | zero =>
      cases hline
      exact List.getElem?_eq_getElem hlt
    | succ j =>
      have hposition := hpieces j line (by simpa using hline)
      rwa [Nat.add_assoc, Nat.add_comm 1 j] at hposition

/-- The line that a piece takes the place of. -/
theorem exists_replaced {i : Nat} {piece : Line Raw} {rest : List (Line Raw)}
    (h : d.PlacedFrom n i (piece :: rest)) :
    ∃ replaced : Line Normalized, replaced.position = piece.position ∧
      d.lines[min (i * d.lineCount / n) (d.lineCount - 1)]? = some replaced := by
  have hposition := h 0 piece rfl
  rw [Nat.add_zero, positions, List.getElem?_map, Option.map_eq_some_iff] at hposition
  obtain ⟨replaced, hline, hpos⟩ := hposition
  exact ⟨replaced, hpos, hline⟩

theorem regionLine_levelled {startsLine : Bool} {i : Nat} (hstart : i ≠ 0 ∨ startsLine = true)
    {piece : Line Raw} {rest : List (Line Raw)} (h : d.PlacedFrom n i (piece :: rest)) :
    (d.regionLine n startsLine i piece.kind.text : Reporting σ _) =
      (⟨if piece.leadingSpaces % max d.config.tabwidth 1 = 0 then []
          else [piece.roundingWarning (max d.config.tabwidth 1)],
        .ok (piece.levelled (max d.config.tabwidth 1))⟩ : Script _).play := by
  obtain ⟨replaced, hposition, hline⟩ := exists_replaced h
  have hwidth : 0 < max d.config.tabwidth 1 := by omega
  have hmeasured : ¬ (decide (i = 0) && !startsLine) = true := by
    rcases hstart with hi | hstart
    · simp [hi]
    · simp [hstart]
  have hrun : (d.regionLine n startsLine i piece.kind.text : Reporting σ _) =
      piece.measure.normalize d.config.tabwidth := by
    rw [regionLine, hline, orFault, pure_bind, if_neg hmeasured, hposition]
    rfl
  rw [hrun, Line.normalize_max, Line.normalize_measure_eq hwidth]

theorem regionLine_verbatim {piece : Line Raw} {rest : List (Line Raw)}
    (h : d.PlacedFrom n 0 (piece :: rest)) :
    (d.regionLine n false 0 piece.kind.text : Reporting σ _) = pure piece.verbatim := by
  obtain ⟨replaced, hposition, hline⟩ := exists_replaced h
  rw [regionLine, hline, orFault, pure_bind, hposition]
  rfl

theorem regionLines_levelled {startsLine : Bool} {i : Nat} (hstart : i ≠ 0 ∨ startsLine = true)
    {pieces : List (Line Raw)} (h : d.PlacedFrom n i pieces) :
    (d.regionLines n startsLine i (pieces.map (·.kind.text)) : Reporting σ _) =
      (⟨Normalization.roundingWarnings (max d.config.tabwidth 1) pieces,
        .ok (pieces.map (·.levelled (max d.config.tabwidth 1)))⟩ : Script _).play := by
  induction pieces generalizing i with
  | nil => rfl
  | cons piece rest ih =>
    rw [List.map_cons, regionLines, regionLine_levelled hstart h,
      Normalization.roundingWarnings_cons]
    apply Script.play_ok_bind_play
    rw [ih (.inl (Nat.succ_ne_zero i)) h.tail, Script.play_ok_bind]
    rfl

theorem regionLines_play (startsLine : Bool) {pieces : List (Line Raw)}
    (h : d.PlacedFrom n 0 pieces) :
    (d.regionLines n startsLine 0 (pieces.map (·.kind.text)) : Reporting σ _) =
      (⟨regionWarnings (max d.config.tabwidth 1) startsLine pieces,
        .ok (regionOf (max d.config.tabwidth 1) startsLine pieces)⟩ : Script _).play := by
  cases startsLine with
  | true => exact regionLines_levelled (.inr rfl) h
  | false =>
    cases pieces with
    | nil => rfl
    | cons piece rest =>
      rw [List.map_cons, regionLines, regionLine_verbatim h, pure_bind,
        regionLines_levelled (.inl (Nat.succ_ne_zero 0)) h.tail, Script.play_ok_bind]
      rfl

end

/-- The pieces of a text take the places of lines of the document, if there are any. -/
theorem exists_placed {d : Document Normalized} (hd : d.isEmpty = false) (text : String) :
    ∃ pieces, Placed d text pieces ∧ d.PlacedFrom pieces.length 0 pieces := by
  obtain ⟨pieces, htexts, hpieces⟩ :=
    exists_placedFrom (n := (Text.splitLines text).length) hd 0 (Text.splitLines text)
  have hlength : (Text.splitLines text).length = pieces.length := by
    rw [← htexts, List.length_map]
  rw [hlength] at hpieces
  refine ⟨pieces, ⟨htexts, ?_, fun i hi => replacedLine_lt hd hi,
    fun i j => d.replacedLine_mono _, d.replacedLine_zero _⟩, hpieces⟩
  intro i hi
  have hposition := hpieces i pieces[i] (List.getElem?_eq_getElem hi)
  rwa [Nat.zero_add, rescaled_eq hd hi] at hposition

/-- The run of `replaceRegion`, unless there is no line that a text could take the place of. -/
theorem replaceRegion_play {σ : Type} [Sink σ] {d : Document Normalized} {text : String}
    (h : ¬ (d.isEmpty = true ∧ text ≠ "")) (startsLine : Bool) :
    ∃ pieces, Placed d text pieces ∧
      (d.replaceRegion text startsLine : Reporting σ _) =
        (⟨regionWarnings (max d.config.tabwidth 1) startsLine pieces,
          .ok (.ok (ofLines (regionOf (max d.config.tabwidth 1) startsLine pieces) d.config))⟩ :
            Script _).play := by
  by_cases htext : text = ""
  · subst htext
    refine ⟨[], d.placed_nil, ?_⟩
    cases startsLine
    · rfl
    · rfl
  · have hd : d.isEmpty = false := by
      simpa [htext] using h
    have hfull : text.isEmpty = false := by
      simpa [String.isEmpty_iff, Bool.eq_false_iff] using htext
    obtain ⟨pieces, hplaced, hpieces⟩ := exists_placed hd text
    have hlength : (Text.splitLines text).length = pieces.length := by
      rw [← hplaced.texts, List.length_map]
    have hrun := regionLines_play (σ := σ) startsLine hpieces
    rw [hplaced.texts, ← hlength] at hrun
    refine ⟨pieces, hplaced, ?_⟩
    simp only [replaceRegion, hfull, hd, Bool.false_eq_true, if_false]
    rw [hrun, Script.play_ok_bind]
    rfl

/-! ## What the text of a region makes -/

theorem kinds_ofLines (ls : List (Line Normalized)) (config : Configuration) :
    (ofLines ls config).lines.map (·.kind) =
      (ls.map (·.kind)).filter (LineKind.size · ≠ 0) := by
  rw [List.filter_map]
  rfl

theorem text_of_kinds {d e : Document Normalized}
    (h : d.lines.map (·.kind) = e.lines.map (·.kind)) : d.text = e.text := by
  have htext : ∀ d : Document Normalized,
      d.text = String.join ((d.lines.map (·.kind)).map LineKind.canonical) := by
    intro d
    rw [List.map_map]
    rfl
  rw [htext d, htext e, h]

section
variable {d : Document Normalized} {text : String} {pieces : List (Line Raw)} {tabwidth : Nat}

/-- The lines of a region that starts a line are told apart in its text. -/
theorem splitLines_region (hplaced : Placed d text pieces) (h : 0 < tabwidth)
    (config : Configuration) :
    let new := ofLines (pieces.map (·.levelled tabwidth)) config
    Text.splitLines new.text = new.lines.map Line.canonical := by
  intro new
  have hraw : Text.Pieces (pieces.map (·.kind.text)) := by
    rw [hplaced.texts]
    exact Text.pieces_splitLines text
  have hlevelled : Text.Pieces ((pieces.map (·.levelled tabwidth)).map Line.canonical) := by
    rw [List.map_map]
    apply hraw.map_of
    · intro piece hline
      exact Line.isLine_levelled h hline
    · intro piece hlast
      exact Line.unended_levelled hlast
  have hkept : new.lines.map Line.canonical =
      ((pieces.map (·.levelled tabwidth)).map Line.canonical).filter (· ≠ "") := by
    rw [List.filter_map]
    apply congrArg
    apply List.filter_congr
    intro line _
    simp [Line.size_canonical]
  have hfull : "" ∉ new.lines.map Line.canonical := by
    rw [hkept]
    simp
  apply Text.splitLines_pieces _ hfull
  rw [hkept]
  exact hlevelled.filter

/-- Lines with a level are measured again as they are, with nothing to report. -/
theorem levelled_kinds (h : 0 < tabwidth) {width : Nat} (hwidth : 0 < width)
    {again : List (Line Raw)} {lines : List (Line Normalized)}
    (hlines : ∀ l ∈ lines, ∃ piece : Line Raw, piece.levelled tabwidth = l)
    (htexts : again.map (·.kind.text) = lines.map Line.canonical) :
    Normalization.roundingWarnings width again = [] ∧
      (again.map (·.levelled width)).map (·.kind) = lines.map (·.kind) := by
  induction lines generalizing again with
  | nil =>
    obtain rfl : again = [] := List.map_eq_nil_iff.1 htexts
    exact ⟨rfl, rfl⟩
  | cons line lines ih =>
    cases again with
    | nil => cases htexts
    | cons piece again =>
      obtain ⟨htext, hrest⟩ := List.cons.inj htexts
      obtain ⟨first, rfl⟩ := hlines line List.mem_cons_self
      obtain ⟨hspaces, hkind⟩ := Line.levelled_again h htext
      obtain ⟨hwarnings, hkinds⟩ := ih (fun l hl => hlines l (List.mem_cons_of_mem _ hl)) hrest
      constructor
      · rw [Normalization.roundingWarnings_cons, hwarnings, hspaces, Nat.zero_mod, if_pos rfl]
        rfl
      · rw [List.map_cons, List.map_cons, List.map_cons, hkind hwidth, hkinds]

/-- The text of a region that starts a line makes the same lines in place of any others. -/
theorem replaceRegion_again (hplaced : Placed d text pieces) (h : 0 < tabwidth)
    (config : Configuration) {e : Document Normalized} (he : e.isEmpty = false)
    (es : List Diagnostic) :
    let new := ofLines (pieces.map (·.levelled tabwidth)) config
    ∃ again, e.replaceRegion new.text true (Collector.plain es) = (.ok (.ok again), .plain es) ∧
      again.lines.map (·.kind) = new.lines.map (·.kind) ∧ again.text = new.text := by
  intro new
  have hwidth : 0 < max e.config.tabwidth 1 := by omega
  have hlines : ∀ l ∈ new.lines, ∃ piece : Line Raw, piece.levelled tabwidth = l := by
    intro l hl
    obtain ⟨piece, -, hpiece⟩ := List.mem_map.1 (List.mem_filter.1 hl).1
    exact ⟨piece, hpiece⟩
  have hplaces : ¬ (e.isEmpty = true ∧ new.text ≠ "") := by
    simp [he]
  obtain ⟨again, hagain, hrun⟩ := replaceRegion_play (σ := Collector) hplaces true
  have htexts : again.map (·.kind.text) = new.lines.map Line.canonical := by
    rw [hagain.texts]
    exact splitLines_region hplaced h config
  obtain ⟨hwarnings, hlevelled⟩ := levelled_kinds h hwidth hlines htexts
  have hkinds : (ofLines (again.map (·.levelled (max e.config.tabwidth 1))) e.config).lines.map
      (·.kind) = new.lines.map (·.kind) := by
    rw [kinds_ofLines, hlevelled, kinds_ofLines, List.filter_filter]
    simp
  have hnone : regionWarnings (max e.config.tabwidth 1) true again = [] := hwarnings
  refine ⟨ofLines (regionOf _ true again) e.config, ?_, hkinds, text_of_kinds hkinds⟩
  rw [hrun, hnone, Script.play_plain _ (by simp), List.append_nil]
  rfl

end

/-- What a text makes in place of a document. It fails only where there is no line to take the place
of. The text of what it made is left as it is by the same, since what was rounded is written with
tabs. -/
theorem replaceRegion_pieces (d : Document Normalized) (text : String) (startsLine : Bool)
    (ds : List Diagnostic) :
    (d.replaceRegion text startsLine (Collector.plain ds) =
        (.ok (.error ⟨Text.size text⟩), .plain ds) ↔ d.isEmpty = true ∧ text ≠ "") ∧
      (¬ (d.isEmpty = true ∧ text ≠ "") → ∃ new pieces,
        d.replaceRegion text startsLine (Collector.plain ds) =
          (.ok (.ok new),
            .plain (ds ++ regionWarnings (max d.config.tabwidth 1) startsLine pieces)) ∧
        Placed d text pieces ∧
        new.lines = (regionOf (max d.config.tabwidth 1) startsLine pieces).filter (·.size ≠ 0) ∧
        new.config = d.config ∧
        (startsLine = true → ∀ e : Document Normalized, e.isEmpty = false → ∀ es, ∃ again,
          e.replaceRegion new.text true (Collector.plain es) = (.ok (.ok again), .plain es) ∧
          again.lines.map (·.kind) = new.lines.map (·.kind) ∧ again.text = new.text)) := by
  have hruns : ¬ (d.isEmpty = true ∧ text ≠ "") → ∃ pieces, Placed d text pieces ∧
      d.replaceRegion text startsLine (Collector.plain ds) =
        (.ok (.ok (ofLines (regionOf (max d.config.tabwidth 1) startsLine pieces) d.config)),
          .plain (ds ++ regionWarnings (max d.config.tabwidth 1) startsLine pieces)) := by
    intro h
    obtain ⟨pieces, hplaced, hrun⟩ := replaceRegion_play (σ := Collector) h startsLine
    refine ⟨pieces, hplaced, ?_⟩
    rw [hrun, Script.play_plain]
    · rfl
    · intro x hx
      exact (Normalization.kind_roundingWarnings x hx).1
  constructor
  · constructor
    · intro hfails
      by_contra h
      obtain ⟨pieces, -, hrun⟩ := hruns h
      rw [hrun] at hfails
      cases hfails
    · intro h
      have hfull : text.isEmpty = false := by
        simpa [String.isEmpty_iff, Bool.eq_false_iff] using h.2
      simp only [replaceRegion, hfull, h.1, Bool.false_eq_true, if_false, if_true]
      rfl
  · intro h
    obtain ⟨pieces, hplaced, hrun⟩ := hruns h
    refine ⟨_, pieces, hrun, hplaced, rfl, rfl, ?_⟩
    intro hstart e he es
    subst hstart
    have hwidth : 0 < max d.config.tabwidth 1 := by omega
    exact replaceRegion_again hplaced hwidth d.config he es

/-- Two lines that three pieces take the place of. -/
def twoLines : Document Normalized :=
  ofLines [⟨⟨⟨"a"⟩, 1⟩, ⟨0, "b\n"⟩⟩, ⟨⟨⟨"a"⟩, 2⟩, ⟨1, "c\n"⟩⟩] {}

/-- The first two pieces replace the first line, and the third one comes to nothing. -/
theorem replaceRegion_pieces_twoLines :
    ∃ new pieces,
      twoLines.replaceRegion "  x\n     y\n " true (Collector.plain []) =
        (.ok (.ok new), .plain (regionWarnings 4 true pieces)) ∧
      Placed twoLines "  x\n     y\n " pieces ∧
      new.lines = [⟨⟨⟨"a"⟩, 1⟩, ⟨1, "x\n"⟩⟩, ⟨⟨⟨"a"⟩, 1⟩, ⟨1, "y\n"⟩⟩] ∧
      ∃ again, twoLines.replaceRegion new.text true (Collector.plain []) =
        (.ok (.ok again), .plain []) ∧ again.text = "\tx\n\ty\n" := by
  have hout : (twoLines.replaceRegion "  x\n     y\n " true (Collector.plain [])).1.toOption.bind
      (·.toOption.map (·.lines)) =
        some [⟨⟨⟨"a"⟩, 1⟩, ⟨1, "x\n"⟩⟩, ⟨⟨⟨"a"⟩, 1⟩, ⟨1, "y\n"⟩⟩] := by decide
  obtain ⟨new, pieces, hrun, hplaced, -, -, hagain⟩ :=
    (replaceRegion_pieces twoLines "  x\n     y\n " true []).2 (by decide)
  rw [hrun] at hout
  have hlines : new.lines = _ := Option.some.inj hout
  obtain ⟨again, hrun', -, htext⟩ := hagain rfl twoLines rfl []
  refine ⟨new, pieces, hrun, hplaced, hlines, again, hrun', ?_⟩
  rw [htext, Document.text, hlines]
  decide

end Document

end SourcePrep
