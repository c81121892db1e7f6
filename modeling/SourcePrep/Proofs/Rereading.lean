import SourcePrep.Proofs.ExpansionFaults
import SourcePrep.Proofs.PhysicalLines
import SourcePrep.Proofs.PreparedPatterns

/-!
# Reading a rendering again

The tabs that normalization writes are read back as the same tabs, whatever the tabwidth. A document
is therefore the same after its rendering is read and normalized again, under the configuration that
it ended with, but for two things that a first reading leaves for a second one:

* of two carriage returns before a newline, reading drops one;
* a directive of the preamble is not indented, and rounding can take the indentation off a line that
  would have been one otherwise.

`Normalization.Finished` says what `normalize` makes of a body and of the configuration after the
preamble, and `normalize_finished` that it does. `reread_iff`: the document that is made of a
rendering has the same text and tabwidth exactly when neither of the two comes up.
-/

set_option autoImplicit false

namespace SourcePrep

/-! ## What normalization makes of a body -/

namespace Normalization

/-- The tabwidth of a body: the one in force, or else the one that its spaces suggest. -/
def widthOf (config : Configuration) (body : List (Line Raw)) : Nat :=
  if config.isDefined .tabwidth then config.tabwidth
  else
    let divisor := spacesDivisor (body.map Line.measure)
    if divisor = 0 then defaultTabwidth else divisor

/-- The file is what the lines of a body come to, under the configuration after the preamble. -/
structure Finished (config : Configuration) (body : List (Line Raw)) (file : NormalizedFile) :
    Prop where
  lines : file.document.lines = body.map (·.indented file.tabwidth)
  tabwidth : file.tabwidth = widthOf config body
  config : file.document.config =
    if config.isDefined .tabwidth then config
    else config.store .tabwidth (toString file.tabwidth)

section
variable {σ : Type} [Sink σ] (engine : Engine)

/-- The configuration after the preamble, and the body. -/
def preamble (d : Document Raw) : Reporting σ (Configuration × List (Line Raw)) := do
  let matcher ← configMatcher engine d.config (firstPosition d)
  readPreamble engine d.lines d.config matcher

theorem mapM_normalize_returns (tabwidth : Nat) (ls : List (Line Measured)) :
    Returns (ls.mapM (Line.normalize tabwidth) : Reporting σ _)
      (· = ls.map (·.normalized tabwidth)) := by
  induction ls with
  | nil => exact .pure rfl
  | cons l ls ih =>
    rw [List.mapM_cons]
    refine (l.normalize_returns tabwidth).bind fun l' hl' => ih.bind fun ls' hls' => .pure ?_
    rw [hl', hls', List.map_cons]

theorem inferTabwidth_returns (d : Document Measured) :
    Returns (inferTabwidth d : Reporting σ _) fun n =>
      n = if spacesDivisor d.lines = 0 then defaultTabwidth else spacesDivisor d.lines := by
  rw [inferTabwidth]
  simp only
  split
  · exact .pure rfl
  · split
    · exact .after fun _ => .pure rfl
    · exact .pure rfl

end

section
variable {ls : List (Line Raw)} (h : ∀ l ∈ ls, Text.IsLine l.kind.text)

include h in
/-- A physical line is never empty, so none is left out. -/
theorem measure_ofLines (config : Configuration) :
    (Document.ofLines ls config).measure.lines = ls.map Line.measure := by
  have hkept : (Document.ofLines ls config).lines = ls :=
    Document.ofLines_nonempty (fun l hl => Text.size_eq_zero.not.2 (h l hl).ne_empty) config
  rw [Document.measure, hkept]
  refine Document.ofLines_nonempty (fun m hm => ?_) _
  obtain ⟨l, hl, rfl⟩ := List.mem_map.1 hm
  have hrest := Text.size_eq_zero.not.2 (Measured.isLine_rest (h l hl)).ne_empty
  simp only [Line.size, LineKind.size, Line.measure]
  omega

include h in
theorem ofLines_indented (config : Configuration) (tabwidth : Nat) :
    (Document.ofLines ((ls.map Line.measure).map (·.normalized tabwidth)) config).lines =
      ls.map (·.indented tabwidth) := by
  rw [List.map_map]
  refine Document.ofLines_nonempty (fun m hm => ?_) _
  obtain ⟨l, hl, rfl⟩ := List.mem_map.1 hm
  have hcontent := Text.size_eq_zero.not.2 (Measured.isLine_rest (h l hl)).ne_empty
  simp only [Line.size, LineKind.size, Function.comp_apply, Line.normalized, Line.measure]
  omega

end

theorem normalize_finished {σ : Type} [Sink σ] (engine : Engine) {raw : Document Raw}
    {Q : Configuration → List (Line Raw) → Prop}
    (hQ : Returns (preamble engine raw : Reporting σ _) fun r => Q r.1 r.2)
    (hlines : ∀ config body, Q config body → ∀ l ∈ body, Text.IsLine l.kind.text) :
    Returns (normalize engine raw : Reporting σ _) fun file =>
      ∃ config body, Q config body ∧ Finished config body file := by
  have hnormalize : (normalize engine raw : Reporting σ _) = do
      let r ← preamble engine raw
      let measured := (Document.ofLines r.2 raw.config).measure
      if r.1.isDefined .tabwidth then
        let document ← measured.normalizeLines r.1.tabwidth
        return ⟨document.withConfig r.1, r.1.tabwidth⟩
      else
        let tabwidth ← inferTabwidth measured
        let document ← measured.normalizeLines tabwidth
        return ⟨document.withConfig (r.1.store .tabwidth (toString tabwidth)), tabwidth⟩ := by
    rw [normalize, preamble, bind_assoc]
  rw [hnormalize]
  refine hQ.bind fun r hr => ?_
  obtain ⟨config, body⟩ := r
  have hbody := hlines config body hr
  have hmeasured := measure_ofLines hbody raw.config
  simp only
  split
  · rename_i hdefined
    rw [Document.normalizeLines, bind_assoc]
    refine (mapM_normalize_returns _ _).bind fun ls hls => .pure ⟨config, body, hr, ?_⟩
    rw [hls, hmeasured]
    exact ⟨ofLines_indented hbody _ _, by rw [widthOf, if_pos hdefined], (if_pos hdefined).symm⟩
  · rename_i hdefined
    refine (inferTabwidth_returns _).bind fun tabwidth htabwidth => ?_
    rw [Document.normalizeLines, bind_assoc]
    refine (mapM_normalize_returns _ _).bind fun ls hls => .pure ⟨config, body, hr, ?_⟩
    rw [hls, hmeasured]
    rw [hmeasured] at htabwidth
    exact ⟨ofLines_indented hbody _ _, by rw [widthOf, if_neg hdefined, ← htabwidth],
      (if_neg hdefined).symm⟩

/-! ## The tabwidth of a finished file -/

theorem spacesDivisor_le {bound : Nat} {ls : List (Line Measured)}
    (h : ∀ l ∈ ls, l.kind.spaces ≤ bound) : spacesDivisor ls ≤ bound := by
  have hfold : ∀ n ≤ bound, ls.foldl (fun n line => Nat.gcd n line.kind.spaces) n ≤ bound := by
    induction ls with
    | nil => exact fun n hn => hn
    | cons l ls ih =>
      intro n hn
      refine ih (fun l' hl' => h l' (List.mem_cons_of_mem l hl')) _ ?_
      rcases Nat.eq_zero_or_pos n with rfl | hpos
      · show Nat.gcd 0 l.kind.spaces ≤ bound
        rw [Nat.gcd_zero_left]
        exact h l List.mem_cons_self
      · exact (Nat.gcd_le_left _ hpos).trans hn
  exact hfold 0 (Nat.zero_le _)

theorem widthOf_le {config : Configuration} {body : List (Line Raw)}
    (hdefined : ¬ config.isDefined .tabwidth = true)
    (h : ∀ l ∈ body, Text.size l.kind.text ≤ Text.maxWord) :
    widthOf config body ≤ Text.maxWord := by
  rw [widthOf, if_neg hdefined]
  simp only
  split
  · decide
  · refine spacesDivisor_le fun m hm => ?_
    obtain ⟨l, hl, rfl⟩ := List.mem_map.1 hm
    exact (Measured.spaces_le_size _).trans (h l hl)

end Normalization

theorem Text.decimal_toString (n : Nat) : Text.decimal (toString n).toList = n := by
  rw [Nat.toString_eq_ofList_toDigits, String.toList_ofList]
  have h := Nat.ofDigitChars_ten_toDigits (n := n)
  rw [Nat.ofDigitChars_eq_foldl] at h
  rw [Text.decimal]
  simpa [Nat.mul_comm] using h

theorem Text.isDigit_of_mem_toString {n : Nat} {c : Char} (h : c ∈ (toString n).toList) :
    Text.isDigit c = true := by
  rw [Nat.toString_eq_ofList_toDigits, String.toList_ofList] at h
  have hdigit := Nat.isDigit_of_mem_toDigits (by decide) (by decide) h
  simpa [Text.isDigit, Char.isDigit, Char.le_def] using hdigit

/-- The numeral of a tabwidth is read as that tabwidth. -/
theorem Configuration.tabwidth_store (config : Configuration) {n : Nat} (h : n ≤ Text.maxWord) :
    (config.store .tabwidth (toString n)).tabwidth = n := by
  have hne : (toString n).toList.isEmpty = false := by
    rw [Nat.toString_eq_ofList_toDigits, String.toList_ofList, List.isEmpty_eq_false_iff]
    exact Nat.toDigits_ne_nil
  have hall : (toString n).toList.all Text.isDigit = true :=
    List.all_eq_true.2 fun c hc => Text.isDigit_of_mem_toString hc
  rw [Configuration.tabwidth]
  simp only [get, stored, store, Option.getD_some, hne, hall, Text.decimal_toString, h]
  simp

namespace Normalization

theorem Finished.isDefined {config : Configuration} {body : List (Line Raw)}
    {file : NormalizedFile} (h : Finished config body file) :
    file.document.config.isDefined .tabwidth = true := by
  rw [h.config]
  split
  · assumption
  · rfl

/-- The configuration that a file ends with declares the tabwidth that the file has. -/
theorem Finished.declared {config : Configuration} {body : List (Line Raw)}
    {file : NormalizedFile} (h : Finished config body file)
    (hsizes : ∀ l ∈ body, Text.size l.kind.text ≤ Text.maxWord) :
    file.document.config.tabwidth = file.tabwidth := by
  rw [h.config]
  split
  · rename_i hdefined
    rw [h.tabwidth, widthOf, if_pos hdefined]
  · rename_i hdefined
    refine Configuration.tabwidth_store config ?_
    rw [h.tabwidth]
    exact widthOf_le hdefined hsizes

/-! ## What the preamble leaves -/

/-- The text is a directive of the preamble. -/
def IsDirective (engine : Engine) (config : Configuration) (text : String) : Prop :=
  ∃ find m, engine.directive config configDirective = .ok find ∧ find text = .ok (some m)

/-- The first line is a directive of the preamble. -/
def StartsDirected (engine : Engine) (raw : Document Raw) : Prop :=
  ∃ line, raw.lines.head? = some line ∧ IsDirective engine raw.config line.kind.text

section
variable {σ : Type} [Sink σ] (engine : Engine)

theorem configMatcher_returns (config : Configuration) (position : Position) :
    Returns (configMatcher engine config position : Reporting σ _)
      (· = (engine.directive config configDirective).toOption) := by
  rw [configMatcher]
  split
  · rename_i heq
    exact .pure (by rw [heq]; rfl)
  · rename_i heq
    exact .after fun _ => .pure (by rw [heq]; rfl)

/-- The body starts with a line that is not blank. -/
theorem readPreamble_head (ls : List (Line Raw)) (config : Configuration)
    (matcher : Option Matcher) :
    Returns (readPreamble engine ls config matcher : Reporting σ _) fun r =>
      ∀ l, r.2.head? = some l → l.kind.isBlank = false := by
  induction ls generalizing config matcher with
  | nil => exact .pure fun l h => by cases h
  | cons line rest ih =>
    simp only [readPreamble]
    split
    · exact ih config matcher
    · rename_i hblank
      have hhere : Returns (pure (config, line :: rest) : Reporting σ _) fun r =>
          ∀ l, r.2.head? = some l → l.kind.isBlank = false := by
        refine .pure fun l h => ?_
        cases h
        simpa using hblank
      cases matcher with
      | none => exact hhere
      | some find =>
        simp only
        split
        · exact .after fun _ => hhere
        · exact hhere
        · refine .after fun applied => ?_
          split
          · exact .after fun matcher => ih _ matcher
          · exact ih _ _

theorem preamble_returns (raw : Document Raw) :
    Returns (preamble engine raw : Reporting σ _) fun r =>
      (∃ n ≤ raw.lines.length, r.2 = raw.lines.drop n) ∧
        ∀ l, r.2.head? = some l → l.kind.isBlank = false :=
  .after fun matcher =>
    (readPreamble_returns engine _ _ matcher).and (readPreamble_head engine _ _ matcher)

/-- A line that is read as a directive is no line of the body. -/
theorem readPreamble_shortens (line : Line Raw) (rest : List (Line Raw)) (config : Configuration)
    (matcher : Option Matcher) :
    Returns (readPreamble engine rest config matcher : Reporting σ _) fun r =>
      r.2.length < (line :: rest).length ∧ ∀ l ∈ r.2, l ∈ line :: rest := by
  refine (readPreamble_returns engine rest config matcher).mono ?_
  rintro r ⟨n, -, hr⟩
  rw [hr, List.length_drop, List.length_cons]
  exact ⟨by omega, fun l hl => List.mem_cons_of_mem line (List.mem_of_mem_drop hl)⟩

theorem startsDirected_iff {raw : Document Raw} {line : Line Raw} {rest : List (Line Raw)}
    (hraw : raw.lines = line :: rest) :
    StartsDirected engine raw ↔
      ∃ find m, (engine.directive raw.config configDirective).toOption = some find ∧
        find line.kind.text = .ok (some m) := by
  constructor
  · rintro ⟨line', hhead, find, m, hfind, hm⟩
    obtain rfl : line = line' := by simpa [hraw] using hhead
    exact ⟨find, m, by rw [hfind]; rfl, hm⟩
  · rintro ⟨find, m, hfind, hm⟩
    refine ⟨line, by rw [hraw]; rfl, find, m, ?_, hm⟩
    rcases hdirective : engine.directive raw.config configDirective with failure | find'
    · simp [hdirective, Except.toOption] at hfind
    · simpa [hdirective, Except.toOption] using hfind

/-- A directive at the start is taken off, and anything else at the start that is not blank ends the
preamble. -/
theorem preamble_of_start {raw : Document Raw}
    (hstart : ∀ line, raw.lines.head? = some line → line.kind.isBlank = false) :
    Returns (preamble engine raw : Reporting σ _) fun r =>
      StartsDirected engine raw ∧ r.2.length < raw.lines.length ∧ (∀ l ∈ r.2, l ∈ raw.lines) ∨
        ¬ StartsDirected engine raw ∧ r = (raw.config, raw.lines) := by
  rw [preamble]
  refine (configMatcher_returns engine _ _).bind fun matcher hmatcher => ?_
  rcases hraw : raw.lines with - | ⟨line, rest⟩
  · refine .pure (.inr ⟨?_, rfl⟩)
    rintro ⟨line, hhead, -⟩
    simp [hraw] at hhead
  have hblank : line.kind.isBlank = false := hstart line (by rw [hraw]; rfl)
  rw [startsDirected_iff engine hraw, ← hmatcher]
  simp only [readPreamble, hblank, Bool.false_eq_true, if_false]
  cases matcher with
  | none => exact .pure (.inr ⟨by simp, rfl⟩)
  | some find =>
    simp only
    split
    · rename_i hm
      exact .after fun _ => .pure (.inr ⟨by simp [hm], rfl⟩)
    · rename_i hm
      exact .pure (.inr ⟨by simp [hm], rfl⟩)
    · rename_i m hm
      refine Returns.mono ?_ fun r hr => .inl ⟨⟨find, m, rfl, hm⟩, hr⟩
      refine .after fun applied => ?_
      split
      · exact .after fun matcher => readPreamble_shortens engine line rest _ matcher
      · exact readPreamble_shortens engine line rest _ _

end

end Normalization

/-! ## Reading a rendering again -/

namespace Document

/-- Reading the rendering of the document again leaves it as it is: no line has a carriage return
that reading would drop, and the first line is no directive. -/
structure Rereadable (engine : Engine) (d : Document Normalized) : Prop where
  unreturned : ∀ l ∈ d.lines, ¬ ∃ front, l.canonical = front ++ "\r\n"
  undirected : ∀ l, d.lines.head? = some l →
    ¬ Normalization.IsDirective engine d.config l.canonical

/-- What normalization leaves of a file that was read. -/
structure Normal (d : Document Normalized) : Prop where
  whole : ∀ l ∈ d.lines, l.kind.Whole
  starts : ∀ l, d.lines.head? = some l → Text.allBlank l.canonical = false

variable {engine : Engine} {d : Document Normalized}

theorem Normal.isLine_canonical (hd : d.Normal) :
    ∀ s ∈ d.lines.map Line.canonical, Text.IsLine s := by
  intro s hs
  obtain ⟨l, hl, rfl⟩ := List.mem_map.1 hs
  exact (hd.whole l hl).isLine_canonical

theorem texts_reread (hd : d.Normal) (source : Path) :
    (read source d.renderTabs d.config).lines.map (·.kind.text) =
      (d.lines.map Line.canonical).map terminate := by
  rw [texts_read]
  exact congrArg _ (Text.splitLines_join hd.isLine_canonical)

/-- Lines that are read from a rendering are normalized to what they are. -/
theorem text_reread (hd : d.Normal) {source : Path} {body : List (Line Raw)}
    (hbody : ∀ line ∈ body, line ∈ (read source d.renderTabs d.config).lines) (tabwidth : Nat) :
    textOf (body.map (·.indented tabwidth)) = String.join (body.map (·.kind.text)) := by
  rw [textOf, List.map_map]
  refine congrArg _ (List.map_congr_left fun line hline => ?_)
  have hmem := List.mem_map_of_mem (f := (·.kind.text)) (hbody line hline)
  rw [texts_reread hd, List.map_map] at hmem
  obtain ⟨l, hl, heq⟩ := List.mem_map.1 hmem
  exact (hd.whole l hl).remeasured heq.symm tabwidth

/-- Joined lines determine the lines. -/
theorem join_inj {ls ms : List String} (hls : ∀ l ∈ ls, Text.IsLine l)
    (hms : ∀ l ∈ ms, Text.IsLine l) (h : String.join ls = String.join ms) : ls = ms := by
  rw [← Text.splitLines_join hls, h, Text.splitLines_join hms]

/-- The first line that is read is the first line of the document. -/
theorem head_reread (hd : d.Normal) (source : Path) (P : String → Prop) :
    (∃ line, (read source d.renderTabs d.config).lines.head? = some line ∧ P line.kind.text) ↔
      ∃ l, d.lines.head? = some l ∧ P (terminate l.canonical) := by
  have htexts := congrArg List.head? (texts_reread hd source)
  rw [List.map_map, List.head?_map, List.head?_map] at htexts
  constructor
  · rintro ⟨line, hline, hP⟩
    rw [hline, Option.map_some, eq_comm, Option.map_eq_some_iff] at htexts
    obtain ⟨l, hl, heq⟩ := htexts
    exact ⟨l, hl, by rwa [← heq] at hP⟩
  · rintro ⟨l, hl, hP⟩
    rw [hl, Option.map_some, Option.map_eq_some_iff] at htexts
    obtain ⟨line, hline, heq⟩ := htexts
    exact ⟨line, hline, by rwa [heq]⟩

theorem isBlank_reread (hd : d.Normal) (source : Path) {line : Line Raw}
    (h : (read source d.renderTabs d.config).lines.head? = some line) :
    line.kind.isBlank = false := by
  obtain ⟨l, hl, heq⟩ := (head_reread hd source (· = line.kind.text)).1 ⟨line, h, rfl⟩
  have hline : Text.IsLine l.canonical := (hd.whole l (List.mem_of_head? hl)).isLine_canonical
  rw [Raw.isBlank, ← heq, allBlank_terminate hline]
  exact hd.starts l hl

theorem rereadable_iff (hd : d.Normal) (source : Path) :
    d.Rereadable engine ↔
      (d.lines.map Line.canonical).map terminate = d.lines.map Line.canonical ∧
        ¬ Normalization.StartsDirected engine (read source d.renderTabs d.config) := by
  have hself : ∀ l ∈ d.lines, terminate l.canonical = l.canonical ↔
      ¬ ∃ front, l.canonical = front ++ "\r\n" :=
    fun l hl => terminate_eq_self_iff (hd.whole l hl).isLine_canonical
  rw [Normalization.StartsDirected, head_reread hd, List.map_map, List.map_inj_left]
  constructor
  · rintro ⟨hunreturned, hundirected⟩
    refine ⟨fun l hl => (hself l hl).2 (hunreturned l hl), ?_⟩
    rintro ⟨l, hl, hdirective⟩
    have hmem := List.mem_of_head? hl
    rw [(hself l hmem).2 (hunreturned l hmem)] at hdirective
    exact hundirected l hl hdirective
  · rintro ⟨hsame, hundirected⟩
    refine ⟨fun l hl => (hself l hl).1 (hsame l hl), fun l hl hdirective => ?_⟩
    refine hundirected ⟨l, hl, ?_⟩
    rwa [show terminate l.canonical = l.canonical from hsame l (List.mem_of_head? hl)]

end Document

section
variable {σ : Type} [Sink σ] (engine : Engine)

open Normalization Document

theorem normalize_read (source : Path) (content : String) (config : Configuration) :
    Returns (normalize engine (.read source content config) : Reporting σ _) fun file =>
      file.document.Normal ∧ file.document.config.isDefined .tabwidth = true ∧
        (Text.size content < Text.maxWord →
          file.document.config.tabwidth = file.tabwidth) := by
  let raw := Document.read source content config
  let Q := fun (_ : Configuration) (body : List (Line Raw)) =>
    (∀ l ∈ body, l ∈ raw.lines) ∧ ∀ l, body.head? = some l → l.kind.isBlank = false
  have hQ : Returns (preamble engine raw : Reporting σ _) fun r => Q r.1 r.2 := by
    refine (preamble_returns engine raw).mono fun r hr => ⟨?_, hr.2⟩
    obtain ⟨⟨n, -, hn⟩, -⟩ := hr
    rw [hn]
    exact fun l hl => List.mem_of_mem_drop hl
  have hlines : ∀ config body, Q config body → ∀ l ∈ body, Text.IsLine l.kind.text :=
    fun _ _ hbody l hl => isLine_of_read source content config (hbody.1 l hl)
  refine (normalize_finished engine hQ hlines).mono fun file hfile => ?_
  obtain ⟨config', body, hbody, hfinished⟩ := hfile
  refine ⟨⟨fun l hl => ?_, fun l hl => ?_⟩, hfinished.isDefined, fun hsize => ?_⟩
  · rw [hfinished.lines] at hl
    obtain ⟨line, hline, rfl⟩ := List.mem_map.1 hl
    exact Line.whole_indented (hlines config' body hbody line hline) _
  · rw [hfinished.lines, List.head?_map] at hl
    obtain ⟨line, hline, rfl⟩ := Option.map_eq_some_iff.1 hl
    rw [Line.allBlank_indented]
    exact hbody.2 line hline
  · refine hfinished.declared fun l hl => ?_
    have hle := size_le_of_read source content config (hbody.1 l hl)
    omega

/-- The second reading has the lines of the first with fewer carriage returns, or only some of
them. -/
theorem normalize_reread {d : Document Normalized} (hd : d.Normal)
    (hdefined : d.config.isDefined .tabwidth = true) (source : Path) :
    Returns (normalize engine (.read source d.renderTabs d.config) : Reporting σ _) fun file =>
      (file.document.text = d.text ↔ d.Rereadable engine) ∧
        (d.Rereadable engine → file.tabwidth = d.config.tabwidth) := by
  let raw := Document.read source d.renderTabs d.config
  let Q := fun (config : Configuration) (body : List (Line Raw)) =>
    StartsDirected engine raw ∧ body.length < raw.lines.length ∧ (∀ l ∈ body, l ∈ raw.lines) ∨
      ¬ StartsDirected engine raw ∧ (config, body) = (raw.config, raw.lines)
  have hQ : Returns (preamble engine raw : Reporting σ _) fun r => Q r.1 r.2 :=
    preamble_of_start engine fun line hline => isBlank_reread hd source hline
  have hsub : ∀ config body, Q config body → ∀ l ∈ body, l ∈ raw.lines := by
    rintro config body (⟨-, -, hbody⟩ | ⟨-, heq⟩)
    · exact hbody
    · cases heq
      exact fun l hl => hl
  have hisLine : ∀ config body, Q config body → ∀ l ∈ body, Text.IsLine l.kind.text :=
    fun config body hbody l hl => isLine_of_read _ _ _ (hsub config body hbody l hl)
  refine (normalize_finished engine hQ hisLine).mono ?_
  rintro file ⟨config, body, hbody, hfinished⟩
  have htexts : raw.lines.map (·.kind.text) = (d.lines.map Line.canonical).map terminate :=
    texts_reread hd source
  -- two texts are the same when their lines are
  have htext : file.document.text = d.text ↔
      body.map (·.kind.text) = d.lines.map Line.canonical := by
    rw [text_eq, hfinished.lines, text_reread hd (hsub config body hbody)]
    refine ⟨fun h => join_inj (fun s hs => ?_) hd.isLine_canonical h, fun h => congrArg _ h⟩
    obtain ⟨l, hl, rfl⟩ := List.mem_map.1 hs
    exact hisLine config body hbody l hl
  rw [htext, rereadable_iff hd source]
  rcases hbody with ⟨hdirected, hshort, -⟩ | ⟨hdirected, heq⟩
  · refine ⟨⟨fun h => ?_, fun h => absurd hdirected h.2⟩, fun h => absurd hdirected h.2⟩
    have hlength := congrArg List.length h
    have hlength' := congrArg List.length htexts
    simp only [List.length_map] at hlength hlength'
    omega
  · cases heq
    refine ⟨⟨fun h => ⟨htexts ▸ h, hdirected⟩, fun h => htexts.trans h.1⟩, fun _ => ?_⟩
    rw [hfinished.tabwidth, widthOf, if_pos (show raw.config.isDefined .tabwidth = true from hdefined)]
    rfl

end

/-- Normalization can be repeated on its rendering exactly when the rendering can be read again. -/
theorem reread_iff (engine : Engine) (source source' : Path) (content : String)
    (config : Configuration) (hsize : Text.size content < Text.maxWord) :
    ∃ first ds second es,
      normalize engine (.read source content config) (Collector.plain []) =
        (.ok first, .plain ds) ∧
      normalize engine (.read source' first.document.renderTabs first.document.config)
        (Collector.plain []) = (.ok second, .plain es) ∧
      (second.document.text = first.document.text ∧ second.tabwidth = first.tabwidth ↔
        first.document.Rereadable engine) := by
  obtain ⟨first, hfirst, -⟩ :=
    normalize_yields (σ := Collector) engine (.read source content config)
  obtain ⟨ds, hrun, -⟩ := hfirst.plain fun d h => h.mild
  obtain ⟨second, hsecond, -⟩ := normalize_yields (σ := Collector) engine
    (.read source' first.document.renderTabs first.document.config)
  obtain ⟨es, hrun', -⟩ := hsecond.plain fun d h => h.mild
  obtain ⟨hnormal, hdefined, hdeclared⟩ :=
    normalize_read engine source content config _ _ _ hrun
  obtain ⟨htext, htabwidth⟩ := normalize_reread engine hnormal hdefined source' _ _ _ hrun'
  refine ⟨first, ds, second, es, hrun, hrun', fun h => htext.1 h.1, fun h => ⟨htext.2 h, ?_⟩⟩
  rw [htabwidth h, hdeclared hsize]

/-- The space before the second directive is less than half a tab, so that rounding takes it off. -/
def roundedAway : String := "config: tabwidth = 4\n config: tabwidth = 8\nx\n"

/-- What was a line of the body is taken for a directive the second time. -/
theorem reread_iff_roundedAway :
    ∃ first ds second es,
      normalize .standard (.read ⟨"a"⟩ roundedAway {}) (Collector.plain []) =
        (.ok first, .plain ds) ∧
      normalize .standard (.read ⟨"a"⟩ first.document.renderTabs first.document.config)
        (Collector.plain []) = (.ok second, .plain es) ∧
      first.document.text = "config: tabwidth = 8\nx\n" ∧ second.document.text = "x\n" ∧
      ¬ first.document.Rereadable .standard := by
  have hfirst : (normalize .standard (.read ⟨"a"⟩ roundedAway {}) (Collector.plain [])).1.toOption.map
      (fun file => (file.document.text, file.document.config)) =
        some ("config: tabwidth = 8\nx\n", { tabwidthValue := some "4" }) := by
    rw [← Engine.prepared_eq]
    decide +kernel
  have hsecond : (normalize .standard (.read ⟨"a"⟩ "config: tabwidth = 8\nx\n"
      { tabwidthValue := some "4" }) (Collector.plain [])).1.toOption.map (·.document.text) =
        some "x\n" := by
    rw [← Engine.prepared_eq]
    decide +kernel
  obtain ⟨first, ds, second, es, hrun, hrun', hiff⟩ :=
    reread_iff .standard ⟨"a"⟩ ⟨"a"⟩ roundedAway {} (by decide)
  rw [hrun] at hfirst
  obtain ⟨htext, hconfig⟩ := Prod.mk.inj (Option.some.inj hfirst)
  rw [← hconfig, ← htext, show first.document.text = first.document.renderTabs from rfl, hrun']
    at hsecond
  have htext' : second.document.text = "x\n" := Option.some.inj hsecond
  refine ⟨first, ds, second, es, hrun, hrun', htext, htext', fun h => ?_⟩
  have hsame := (hiff.2 h).1
  rw [htext, htext'] at hsame
  exact absurd hsame (by decide)

end SourcePrep
