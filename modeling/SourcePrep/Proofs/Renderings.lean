import SourcePrep.Proofs.IndentMarks
import SourcePrep.Proofs.LineSources
import SourcePrep.Proofs.PreparedPatterns
import SourcePrep.Proofs.UnlimitedRewriting

/-!
# Rendering with tabs and with spaces

A document is rendered with a tab for each level of indentation, or with so many spaces. The second
rendering should be the first one with spaces for the tabs at the start of each physical line, and
it is for every document that is loaded (`loadFiles_whole`). A replacement keeps it so when it
changes no tab from indentation to content or back, which `Text.Harmless` says of the text around
it. Two kinds of replacement do not: one that puts a tab behind the tabs of an indentation, since it
becomes content, and one that moves an indentation to the middle of a line or tabs from there to the
start of one.

* `loadFiles_whole`: every line of a document that is loaded is a physical line with its indentation
  as a level.
* `aligned_of_turns`: a turn of the loop keeps documents aligned if its replacement is harmless, and
  `expand_aligned` follows for a whole run.
* `preprocessFiles_renderings`: at every width whose spaces can be counted (`Document.FitsWidth`),
  the renderings of the pipeline's documents agree if and only if the documents are aligned, and
  they agree if every replacement was harmless.
-/

set_option autoImplicit false

namespace SourcePrep

/-! ## Loaded documents -/

namespace Document

/-- The document is well-formed, and each line of it is a whole physical line. -/
structure Whole (d : Document Normalized) : Prop where
  wellFormed : d.WellFormed
  lines : ∀ l ∈ d.lines, l.kind.Whole

theorem Whole.aligned {d : Document Normalized} (h : d.Whole) : d.Aligned := by
  have hmarks : ∀ ls : List (Line Normalized), (∀ l ∈ ls, l.kind.Whole) →
      marksOf ls = Text.marked true (textOf ls).toList := by
    intro ls hls
    induction ls with
    | nil => rfl
    | cons l ls ih =>
      have hl := hls l List.mem_cons_self
      have hafter : l.canonical.toList.foldl Text.stillIndent true = true :=
        hl.isLine_canonical.foldl_stillIndent true
      rw [marksOf_cons, textOf_cons, String.toList_append, Text.marked_append, hafter,
        ih fun l' hl' => hls l' (List.mem_cons_of_mem l hl'),
        Normalized.marks_eq (.inl hl.isLine) hl.unindented]
      rfl
  exact hmarks d.lines h.lines

end Document

theorem normalizedDocument_whole (engine : Engine) (source : Path) (content : String)
    (config : Configuration) : (normalizedDocument engine (.read source content config)).Whole := by
  obtain ⟨file, hyields, hfile⟩ :=
    normalize_yields (σ := Collector) engine (.read source content config)
  obtain ⟨ds, hrun, -⟩ := hyields.plain fun d h => h.mild
  refine ⟨normalizedDocument_wellFormed engine _, ?_⟩
  rw [← hfile]
  exact (normalize_read engine source content config _ _ _ hrun).1.whole

theorem loadFiles_whole {σ : Type} [Sink σ] (engine : Engine) (w : Workspace)
    (searchDirs : List Path) (config : Configuration) (roots : List Path) :
    Returns (loadFiles engine w searchDirs config roots : Reporting σ _) fun ds =>
      ∀ d ∈ ds, d.Whole := by
  obtain ⟨docs, hyields, hdocs⟩ : ∃ docs,
      Yields Mild (loadFiles engine w searchDirs config roots : Reporting σ _) docs ∧
        List.Forall₂ (fun root d => Request.Loaded engine w (fun _ => True) [] ⟨root, config⟩ d)
          roots docs :=
    loadFiles_gathers (fun _ _ => trivial) fun _ _ => trivial
  intro s ds t hrun
  rw [hyields.result_eq hrun]
  refine forall_mem_of_forall₂ (hdocs.imp fun root d hd => ⟨hd.gathered.wellFormed, fun l hl => ?_⟩)
  obtain ⟨r, e, -, he, hline⟩ := hd.gathered.lines l hl
  obtain ⟨content, -, rfl⟩ := Request.document?_some he
  exact (normalizedDocument_whole engine _ _ _).lines l hline

/-! ## Harmless replacements -/

namespace Text

/-- Putting `new` in the place of what lies between two offsets changes no tab from indentation to
content or back. -/
structure Harmless (text : String) (start stop : Nat) (new : String) : Prop where
  /-- What is put in starts a line, or there is more than tabs before it, or it does not start with
  a tab. -/
  inserted : startsLine text start = true ∨ inIndent (takeBytes text start) = false ∨
    startsWithTab new = false
  /-- What comes after is in an indentation as before, or it does not start with a tab. -/
  kept : inIndent (takeBytes text stop) = inIndent (takeBytes text start ++ new) ∨
    startsWithTab (dropBytes text stop) = false

instance (text : String) (start stop : Nat) (new : String) :
    Decidable (Harmless text start stop new) :=
  decidable_of_iff
    ((startsLine text start = true ∨ inIndent (takeBytes text start) = false ∨
        startsWithTab new = false) ∧
      (inIndent (takeBytes text stop) = inIndent (takeBytes text start ++ new) ∨
        startsWithTab (dropBytes text stop) = false))
    ⟨fun h => ⟨h.1, h.2⟩, fun h => ⟨h.inserted, h.kept⟩⟩

/-- Nothing stands on a line that starts. -/
theorem inIndent_of_startsLine {a b : String} (h : startsLine (a ++ b) (size a) = true) :
    inIndent a = true := by
  by_cases ha : size a = 0
  · rw [size_eq_zero.1 ha]
    rfl
  have hfront : (dropBytes (a ++ b) (size a - 1)).front? = some '\n' := by
    simpa [startsLine, ha] using h
  rcases hcut : splitAt? (a ++ b) (size a - 1) with - | ⟨p, q⟩
  · simp [dropBytes, hcut, String.front?_eq] at hfront
  rw [dropBytes, hcut, Option.elim_some, String.front?_eq] at hfront
  obtain ⟨hsplit, hsize⟩ := splitAt?_eq_some_iff.1 hcut
  obtain ⟨x, rfl, hq⟩ := append_split hsplit.symm (by omega)
  -- what is cut off the end is one byte, so it is the newline
  have hx : size x = 1 := by
    rw [size_append] at hsize ha
    omega
  rcases hcs : x.toList with - | ⟨c, cs⟩
  · rw [String.toList_eq_nil_iff.1 hcs] at hx
    cases hx
  have hc : c = '\n' := by
    simpa [hq, hcs] using hfront
  have hlist : x = String.singleton c ++ String.ofList cs := by
    simp [← String.toList_inj, hcs]
  have hcs' : String.ofList cs = "" := by
    rw [← size_eq_zero]
    rw [hlist, size_append, hc] at hx
    have hone : size (String.singleton '\n') = 1 := by decide
    omega
  rw [hlist, hcs', hc, inIndent_append]
  rfl

theorem Harmless.of_append {a b c new : String}
    (h : Harmless (a ++ b ++ c) (size a) (size (a ++ b)) new) :
    (startsLine (a ++ b ++ c) (size a) = true ∨ inIndent a = false ∨ startsWithTab new = false) ∧
      (inIndent (a ++ b) = inIndent (a ++ new) ∨ startsWithTab c = false) := by
  obtain ⟨hinserted, hkept⟩ := h
  rw [takeBytes_append, dropBytes_append] at hkept
  rw [String.append_assoc, takeBytes_append] at hinserted hkept
  rw [← String.append_assoc] at hinserted
  exact ⟨hinserted, hkept⟩

end Text

namespace Document

variable {d : Document Normalized}

theorem config_slice (d : Document Normalized) (start stop : Nat) :
    (d.slice start stop).config = d.config := by
  simp only [slice]
  split <;> rfl

/-- What takes the place of a document, if anything does. -/
theorem replaceRegion_text {σ : Type} [Sink σ] (d : Document Normalized) (text : String)
    (startsLine : Bool) :
    Returns (d.replaceRegion text startsLine : Reporting σ _) fun result => ∀ new,
      result = .ok new → new.WellFormed ∧
        new.text = indentedText d.config.tabwidth startsLine (Text.splitLines text) := by
  by_cases hempty : d.isEmpty = true
  · rw [replaceRegion]
    split
    · rename_i htext
      refine .pure fun new hnew => ?_
      cases hnew
      rw [String.isEmpty_iff.1 htext]
      exact ⟨wellFormed_empty _, by cases startsLine <;> rfl⟩
    · exact .pure fun new hnew => by cases hnew
  · obtain ⟨new, hyields, hwf, htext⟩ :=
      replaceRegion_yields (σ := σ) (by simpa using hempty) text startsLine
    intro s result t hrun new' hnew'
    obtain rfl : new = new' := by simpa [hnew'] using (hyields.result_eq hrun).symm
    exact ⟨hwf, htext⟩

/-- A harmless replacement leaves an aligned document. -/
theorem aligned_of_splice (hwf : d.WellFormed) (ha : d.Aligned) {text text' : String}
    (htext : text = d.text) {start stop : Nat} {new document : Document Normalized}
    (hnew : new.WellFormed)
    (hmarks : ∀ indent, Text.startsLine text start = true ∧ indent = true ∨
      Text.startsLine text start = false ∧
        (indent = false ∨ Text.startsWithTab new.text = false) →
      new.marks = Text.marked indent new.text.toList)
    (hharmless : Text.Harmless text start stop new.text)
    (hdocument : d.splice? start stop new = some document)
    (hrange : Text.replaceRange? text start stop new.text = some text') :
    document.WellFormed ∧ document.Aligned ∧ text' = document.text := by
  obtain ⟨a, b, c, hsplit, rfl, rfl, rfl⟩ := Text.replaceRange?_cases hrange
  have hparts : d.text = a ++ b ++ c := htext.symm.trans hsplit
  rw [hsplit] at hharmless hmarks
  obtain ⟨hinserted, hkept⟩ := hharmless.of_append
  obtain ⟨e, he, hwf', htext', -⟩ := hwf.splice?_text hparts hnew
  obtain rfl : e = document := Option.some.inj (he.symm.trans hdocument)
  refine ⟨hwf', ?_, htext'.symm⟩
  rw [eq_splice_of_splice? hdocument]
  refine ha.splice hwf hparts hnew (hmarks _ ?_) hkept
  cases hstarts : Text.startsLine (a ++ b ++ c) (Text.size a) with
  | true =>
    refine .inl ⟨rfl, Text.inIndent_of_startsLine (b := b ++ c) ?_⟩
    rwa [← String.append_assoc]
  | false => exact .inr ⟨rfl, by simpa [hstarts] using hinserted⟩

end Document

/-! ## The loop keeps documents aligned -/

namespace Substitution

/-- What the next step puts in the place of a match. -/
def inserted (r : Substitution) (m : Match) : String :=
  indentedText r.document.config.tabwidth (Text.startsLine r.text (r.cursor + m.start))
    (Text.splitLines (r.directive.replacement m))

/-- The document is well-formed and aligned, and its text is at work. -/
structure Aligned (r : Substitution) : Prop where
  wellFormed : r.document.WellFormed
  aligned : r.document.Aligned
  text : r.text = r.document.text

/-- The document that a step leads to is aligned. -/
def Step.Aligned : Step → Prop
  | .replaced next => next.Aligned
  | .ended document => document.WellFormed ∧ document.Aligned

section
variable {σ : Type} [Sink σ] {r : Substitution}

theorem stop_aligned (hr : r.Aligned) (kind : DiagnosticKind) (message : String) :
    Returns (r.stop kind message : Reporting σ _) Step.Aligned := by
  rw [stop]
  exact .after fun _ => .pure ⟨hr.wellFormed, hr.aligned⟩

theorem replace_aligned (hr : r.Aligned) {m : Match}
    (hharmless : r.made < r.budget →
      Text.Harmless r.text (r.cursor + m.start) (r.cursor + m.stop) (r.inserted m)) :
    Returns (r.replace (r.region m) : Reporting σ _) Step.Aligned := by
  rw [replace]
  split
  · exact stop_aligned hr _ _
  rename_i hbudget
  refine (Returns.orFault _ _).bind fun old hold => ?_
  have hold := Document.eq_slice_of_slice? hold
  refine ((old.replaceRegion_text _ _).and (old.replaceRegion_marks _ _)).bind
    fun result hresult => ?_
  cases result with
  | error e => exact stop_aligned hr _ _
  | ok new =>
    obtain ⟨hnew, hmarks⟩ := hresult
    obtain ⟨hwf, htext⟩ := hnew new rfl
    refine (Returns.orFault _ _).bind fun document hdocument => ?_
    refine (Returns.orFault _ _).bind fun text hrange => ?_
    have hharmless : Text.Harmless r.text (r.region m).start (r.region m).stop new.text := by
      rw [htext, hold, Document.config_slice]
      exact hharmless (by omega)
    obtain ⟨hwf', haligned', htext'⟩ := Document.aligned_of_splice hr.wellFormed hr.aligned hr.text
      hwf (hmarks new rfl) hharmless hdocument hrange
    simp only
    split
    · exact .pure ⟨hwf', haligned', htext'⟩
    · split
      · exact stop_aligned ⟨hwf', haligned', htext'⟩ _ _
      · exact .pure ⟨hwf', haligned', htext'⟩

theorem step_aligned (hr : r.Aligned)
    (hharmless : r.replaces = true → ∀ m, r.directive.find r.remainder = .ok (some m) →
      Text.Harmless r.text (r.cursor + m.start) (r.cursor + m.stop) (r.inserted m)) :
    Returns (r.step : Reporting σ _) Step.Aligned := by
  have hended : (Step.ended r.document).Aligned := ⟨hr.wellFormed, hr.aligned⟩
  rw [step]
  cases hm : r.directive.find r.remainder with
  | error failure => exact .after fun _ => .pure hended
  | ok found =>
    cases found with
    | none => exact .pure hended
    | some m =>
      simp only [region, Nat.add_left_cancel_iff]
      split
      · rw [stopAtEmptyMatch]
        split
        · exact stop_aligned hr _ _
        · exact stop_aligned hr _ _
      · rename_i hne
        refine replace_aligned hr fun hbudget => hharmless ?_ m hm
        simp [replaces, hm, hne, hbudget]

end

end Substitution

namespace Expansion

/-- The document at hand is well-formed and aligned, and a directive at work works on its text. -/
def Phase.Aligned : Phase → Prop
  | .scanning d => d.WellFormed ∧ d.Aligned
  | .replacing r => r.Aligned
  | .done d => d.WellFormed ∧ d.Aligned

/-- The next turn takes a directive out, or replaces a match, and that is harmless; or it does
neither. -/
def Phase.Harmless (engine : Engine) : Phase → Prop
  | .scanning d => ∀ find m, engine.directive d.config replaceDirective = .ok find →
      find d.text = .ok (some m) → Text.Harmless d.text m.start m.stop ""
  | .replacing r => r.replaces = true → ∀ m, r.directive.find r.remainder = .ok (some m) →
      Text.Harmless r.text (r.cursor + m.start) (r.cursor + m.stop) (r.inserted m)
  | .done _ => True

/-- The document that a scan leads to is aligned. -/
def Scan.Aligned : Scan → Prop
  | .finished => True
  | .skipped d => d.WellFormed ∧ d.Aligned
  | .found r => r.Aligned

section
variable {σ : Type} [Sink σ] {engine : Engine} {limits : Limits} {total : Nat}

theorem scan_aligned {d : Document Normalized} (hd : (Phase.scanning d).Aligned)
    (hharmless : (Phase.scanning d).Harmless engine) :
    Returns (scan engine limits d : Reporting σ _) Scan.Aligned := by
  rw [scan]
  cases hfind : engine.directive d.config replaceDirective with
  | error failure => exact .pure trivial
  | ok find =>
    simp only
    cases hm : find d.text with
    | error failure => exact .after fun _ => .pure trivial
    | ok found =>
      cases found with
      | none => exact .pure trivial
      | some m =>
        simp only [takeOut]
        refine .after fun position => (Returns.orFault _ _).bind fun document hdocument => ?_
        refine (Returns.orFault _ _).bind fun text hrange => ?_
        obtain ⟨hwf, haligned, htext⟩ := Document.aligned_of_splice hd.1 hd.2 rfl
          (Document.wellFormed_empty d.config) (fun _ _ => rfl) (hharmless find m hfind hm)
          hdocument hrange
        cases engine.compile ((m.named? "pattern").getD "") { extended := true } with
        | error failure => exact .after fun _ => .pure ⟨hwf, haligned⟩
        | ok find => exact .pure ⟨hwf, haligned, htext⟩

namespace Loop

theorem afterScan_aligned {d : Document Normalized} (hd : (Phase.scanning d).Aligned)
    (record : List Work) {found : Scan} (hfound : found.Aligned) :
    Returns (afterScan total d record found : Reporting σ _) fun l => l.phase.Aligned := by
  cases found with
  | finished => exact .pure hd
  | skipped document =>
    simp only [afterScan, afterScan.go]
    split
    · exact .after fun _ => .pure hfound
    · exact .pure hfound
  | found r =>
    simp only [afterScan, afterScan.go]
    split
    · exact .after fun _ => .pure ⟨hfound.wellFormed, hfound.aligned⟩
    · exact .pure hfound

theorem aligned_of_turns {a b : Loop × σ} (ha : a.1.phase.Aligned)
    (hharmless : a.1.phase.Harmless engine) (h : Turns engine limits total a b) :
    b.1.phase.Aligned := by
  obtain ⟨hdone, hturn⟩ := h
  obtain ⟨⟨phase, record⟩, s⟩ := a
  cases phase with
  | scanning d =>
    exact (scan_aligned ha hharmless).bind (fun found hfound =>
      afterScan_aligned ha record hfound) _ _ _ hturn
  | replacing r =>
    refine (Substitution.step_aligned ha hharmless).bind
      (Q := fun l : Loop => l.phase.Aligned) (fun step hstep => ?_) _ _ _ hturn
    cases step with
    | replaced next => exact .pure hstep
    | ended document => exact .pure hstep
  | done d => cases hdone

/-- All that the loop does is harmless. -/
def Harmless (engine : Engine) (limits : Limits) (total : Nat) (a : Loop × σ) : Prop :=
  ∀ b, Reaches engine limits total a b → b.1.phase.Harmless engine

theorem aligned_of_reaches {a b : Loop × σ} (ha : a.1.phase.Aligned)
    (hharmless : Harmless engine limits total a) (h : Reaches engine limits total a b) :
    b.1.phase.Aligned := by
  induction h with
  | refl => exact ha
  | tail hreach hturn ih => exact aligned_of_turns ih (hharmless _ hreach) hturn

end Loop

end

end Expansion

theorem expand_aligned {σ : Type} [Sink σ] {engine : Engine} {limits : Limits}
    {d out : Document Normalized} {s t : σ} (hd : d.WellFormed) (ha : d.Aligned)
    (hharmless : Expansion.Loop.Harmless engine limits (limits.directivesIn d) (.start d, s))
    (h : expand engine limits d s = (.ok out, t)) : out.Aligned := by
  have hruns : Expansion.Loop.Runs engine limits (limits.directivesIn d) (.start d, s)
      (expand engine limits d s) := Expansion.Loop.expandWithin_runs (Nat.zero_add _)
  rw [h] at hruns
  obtain ⟨b, hreach, hends⟩ := hruns
  have hb := Expansion.Loop.aligned_of_reaches (a := (.start d, s)) ⟨hd, ha⟩ hharmless hreach
  cases hends with
  | done => exact hb.2

/-! ## The renderings of the pipeline's documents -/

/-- With so many spaces for each level, the spaces of every line can be counted in a word, so that the
product of two words that `renderSpaces` takes does not overflow. -/
def Document.FitsWidth (d : Document Normalized) (width : Nat) : Prop :=
  ∀ l ∈ d.lines, l.kind.level * width ≤ Text.maxWord

/-- All that is done to documents that are expanded one after the other is harmless. -/
def Expansion.AllHarmless {σ : Type} [Sink σ] (engine : Engine) :
    List (Document Normalized) → σ → Prop
  | [], _ => True
  | d :: ds, s =>
    Loop.Harmless engine {} (Limits.directivesIn {} d) (.start d, s) ∧
      ∀ e t, expand engine {} d s = (.ok e, t) → AllHarmless engine ds t

theorem expandAll_aligned {σ : Type} [Sink σ] {engine : Engine}
    {ds out : List (Document Normalized)} {s t : σ} (hds : ∀ d ∈ ds, d.Whole)
    (hharmless : Expansion.AllHarmless engine ds s)
    (h : ds.mapM (expand engine {}) s = (.ok out, t)) : ∀ d ∈ out, d.Aligned := by
  induction ds generalizing s out with
  | nil =>
    cases h
    simp
  | cons d ds ih =>
    obtain ⟨hfirst, hrest⟩ := hharmless
    rw [List.mapM_cons] at h
    obtain ⟨e, u, he, h⟩ := run_bind_result h
    obtain ⟨es, v, hes, h⟩ := run_bind_result h
    cases h
    have hd := hds d List.mem_cons_self
    intro d' hd'
    rcases List.mem_cons.1 hd' with rfl | hd'
    · exact expand_aligned hd.wellFormed hd.aligned hfirst he
    · exact ih (fun d'' hd'' => hds d'' (List.mem_cons_of_mem d hd'')) (hrest e u he) hes d' hd'

theorem preprocessFiles_renderings {σ : Type} [Sink σ] (engine : Engine) (w : Workspace)
    (searchDirs : List Path) (config : Configuration) (roots : List Path) {s t : σ}
    {out : List (Document Normalized)}
    (h : preprocessFiles engine w searchDirs config roots s = (.ok out, t)) :
    (∀ d ∈ out, ∀ width, 1 ≤ width → d.FitsWidth width →
      (d.renderSpaces width = Text.indentWithSpaces width d.renderTabs ↔ d.Aligned)) ∧
    ((∀ loaded u, loadFiles engine w searchDirs config roots s = (.ok loaded, u) →
        Expansion.AllHarmless engine loaded u) →
      ∀ d ∈ out, ∀ width, 1 ≤ width → d.FitsWidth width →
        d.renderSpaces width = Text.indentWithSpaces width d.renderTabs) := by
  refine ⟨fun d _ width hwidth _ => d.renderSpaces_eq_iff hwidth,
    fun hharmless d hd width hwidth _ => ?_⟩
  obtain ⟨loaded, u, hload, hexpand⟩ := run_bind_result h
  have hwhole := loadFiles_whole engine w searchDirs config roots s loaded u hload
  have haligned := expandAll_aligned hwhole (hharmless loaded u hload) hexpand d hd
  exact (d.renderSpaces_eq_iff hwidth).2 haligned

/-! ## Replacements that are checked -/

namespace Expansion

/-- `Phase.Harmless`, by evaluation. -/
def Phase.check (engine : Engine) : Phase → Bool
  | .scanning d =>
    match engine.directive d.config replaceDirective with
    | .ok find =>
      match find d.text with
      | .ok (some m) => decide (Text.Harmless d.text m.start m.stop "")
      | _ => true
    | .error _ => true
  | .replacing r =>
    match r.directive.find r.remainder with
    | .ok (some m) =>
      decide (Text.Harmless r.text (r.cursor + m.start) (r.cursor + m.stop) (r.inserted m))
    | _ => true
  | .done _ => true

theorem Phase.harmless_of_check {engine : Engine} {phase : Phase}
    (h : phase.check engine = true) : phase.Harmless engine := by
  cases phase with
  | scanning d =>
    intro find m hfind hm
    simpa [check, hfind, hm] using h
  | replacing r =>
    intro _ m hm
    simpa [check, hm] using h
  | done d => trivial

section
variable {σ : Type} [Sink σ] (engine : Engine) (limits : Limits)

/-- `Loop.Harmless`, by evaluation of so many turns. -/
def Loop.check (total : Nat) : Nat → Loop → σ → Bool
  | 0, _, _ => false
  | n + 1, l, s =>
    l.phase.check engine &&
      (l.isDone || match l.turn engine limits total s with
        | (.ok next, t) => Loop.check total n next t
        | (.error _, _) => true)

theorem Loop.harmless_of_check {total n : Nat} {l : Loop} {s : σ}
    (h : Loop.check engine limits total n l s = true) :
    Loop.Harmless engine limits total (l, s) := by
  induction n generalizing l s with
  | zero => cases h
  | succ n ih =>
    rw [Loop.check, Bool.and_eq_true] at h
    intro b hb
    rcases Relation.ReflTransGen.cases_head hb with rfl | ⟨c, ⟨hdone, hturn⟩, hrest⟩
    · exact Phase.harmless_of_check h.1
    · have hnext := h.2
      rw [show l.isDone = false from hdone, Bool.false_or,
        show l.turn engine limits total s = _ from hturn] at hnext
      exact ih hnext b hrest

/-- `AllHarmless`, by evaluation of so many turns for each document. -/
def checkAll (n : Nat) : List (Document Normalized) → σ → Bool
  | [], _ => true
  | d :: ds, s =>
    Loop.check engine {} (Limits.directivesIn {} d) n (.start d) s &&
      match expand engine {} d s with
      | (.ok _, t) => checkAll n ds t
      | (.error _, _) => true

/-- `checkAll` for documents that were loaded, if they were. -/
def checkLoaded (n : Nat) : Except Halt (List (Document Normalized)) × σ → Bool
  | (.ok loaded, s) => checkAll engine n loaded s
  | (.error _, _) => false

theorem allHarmless_of_checkAll {n : Nat} {ds : List (Document Normalized)} {s : σ}
    (h : checkAll engine n ds s = true) : AllHarmless engine ds s := by
  induction ds generalizing s with
  | nil => trivial
  | cons d ds ih =>
    rw [checkAll, Bool.and_eq_true] at h
    refine ⟨Loop.harmless_of_check engine {} h.1, fun e t he => ih ?_⟩
    have hrest := h.2
    rwa [he] at hrest

end

end Expansion

/-- The one document of a run, when it is known what is to be seen of it. -/
theorem exists_single_of_map {σ α β : Type} {out : Except Halt (List α) × σ} {view : α → β} {b : β}
    (h : out.1.toOption.map (·.map view) = some [b]) :
    ∃ a, out = (.ok [a], out.2) ∧ view a = b := by
  obtain ⟨e | as, t⟩ := out
  · cases h
  · obtain ⟨a, rest, rfl, ha, hrest⟩ := List.map_eq_cons_iff.1 (Option.some.inj h)
    obtain rfl := List.map_eq_nil_iff.1 hrest
    exact ⟨a, rfl, ha⟩

/-- A directive that puts two lines behind an indentation, and a file that includes it. -/
def nestedLines : Workspace where
  tree := .directory [
    ("m", .file (.text "replace x\n\ty\\n\\tz\na\n\tx-\n")),
    ("n", .file (.text "include \"m\"\n  b\n"))]
  workingDir := ⟨"/"⟩

/-- The second of the two lines starts with an indentation of its own. No line has more than one
level, so that any width that is a word fits. -/
theorem preprocessFiles_renderings_nested :
    ∃ d t, preprocessFiles .standard nestedLines [] {} [⟨"n"⟩] (Collector.plain []) =
        (.ok [d], t) ∧
      d.renderTabs = "a\n\ty\n\tz-\n\tb\n" ∧
      ∀ width, 1 ≤ width → width ≤ Text.maxWord → d.FitsWidth width ∧
        d.renderSpaces width = Text.indentWithSpaces width d.renderTabs := by
  have hcheck : Expansion.checkLoaded .standard 10
      (loadFiles .standard nestedLines [] {} [⟨"n"⟩] (Collector.plain [])) = true := by
    rw [← Engine.prepared_eq]
    decide +kernel
  have hout : (preprocessFiles .standard nestedLines [] {} [⟨"n"⟩]
      (Collector.plain [])).1.toOption.map (·.map fun d =>
        (d.renderTabs, d.lines.all fun l => l.kind.level ≤ 1)) =
        some [("a\n\ty\n\tz-\n\tb\n", true)] := by
    rw [← Engine.prepared_eq]
    decide +kernel
  obtain ⟨d, hrun, hd⟩ := exists_single_of_map hout
  obtain ⟨htabs, hlevels⟩ := Prod.mk.inj hd
  refine ⟨d, _, hrun, htabs, fun width hwidth hword => ?_⟩
  have hfits : d.FitsWidth width := fun l hl => by
    have hlevel : l.kind.level ≤ 1 := of_decide_eq_true (List.all_eq_true.1 hlevels l hl)
    calc l.kind.level * width ≤ 1 * width := Nat.mul_le_mul_right width hlevel
      _ = width := Nat.one_mul width
      _ ≤ Text.maxWord := hword
  refine ⟨hfits, (preprocessFiles_renderings .standard nestedLines [] {} [⟨"n"⟩] hrun).2 ?_ d
    List.mem_cons_self width hwidth hfits⟩
  intro loaded u hloaded
  rw [hloaded] at hcheck
  exact Expansion.allHarmless_of_checkAll .standard hcheck

/-- A directive that puts a tab behind an indentation. -/
def deeperTab : Workspace where
  tree := .directory [("m", .file (.text "replace x\n\t\\ty\n\tx\n"))]
  workingDir := ⟨"/"⟩

/-- What is put in does not start a line, so that its tab is content. -/
theorem preprocessFiles_renderings_deeperTab :
    ∃ d t, preprocessFiles .standard deeperTab [] {} [⟨"m"⟩] (Collector.plain []) = (.ok [d], t) ∧
      d.FitsWidth 4 ∧ d.renderTabs = "\t\ty\n" ∧ d.renderSpaces 4 = "    \ty\n" ∧
      d.renderSpaces 4 ≠ Text.indentWithSpaces 4 d.renderTabs := by
  have hout : (preprocessFiles .standard deeperTab [] {} [⟨"m"⟩]
      (Collector.plain [])).1.toOption.map (·.map fun d =>
        (d.renderTabs, d.renderSpaces 4, d.lines.all fun l => l.kind.level * 4 ≤ Text.maxWord)) =
        some [("\t\ty\n", "    \ty\n", true)] := by
    rw [← Engine.prepared_eq]
    decide +kernel
  obtain ⟨d, hrun, hd⟩ := exists_single_of_map hout
  obtain ⟨htabs, hrest⟩ := Prod.mk.inj hd
  obtain ⟨hspaces, hlevels⟩ := Prod.mk.inj hrest
  have hfits : d.FitsWidth 4 := fun l hl => of_decide_eq_true (List.all_eq_true.1 hlevels l hl)
  refine ⟨d, _, hrun, hfits, htabs, hspaces, ?_⟩
  rw [htabs, hspaces]
  decide

end SourcePrep
