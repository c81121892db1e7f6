import Mathlib.Data.List.Fold
import SourcePrep.Proofs.LineSources
import SourcePrep.Proofs.PreparedPatterns

/-!
# What normalization makes of a file

A file is a preamble and a body. The preamble is as long as possible: blank lines, and lines that
are directives for the marker in force there, which earlier lines of the preamble may have set. Each
line of the body becomes a level of indentation and a content, for one tabwidth that holds for the
whole file.

* `Preamble`: what a preamble is, line by line, and the settings that it makes.
* `normalize_play`: the run of `normalize`, with everything that it reports, in order.
* `normalize_levels`: what a file comes to, in terms of its lines alone: the body, the levels, the
  tabwidth, the warnings.
-/

set_option autoImplicit false

namespace SourcePrep

/-! ## Preambles -/

/-- The configuration with some settings made, one after the other. -/
def Configuration.storeAll (config : Configuration) (settings : List (Setting × String)) :
    Configuration :=
  settings.foldl (fun config made => config.store made.1 made.2) config

theorem Configuration.storeAll_append (config : Configuration)
    (made settings : List (Setting × String)) :
    config.storeAll (made ++ settings) = (config.storeAll made).storeAll settings :=
  List.foldl_append

namespace Normalization

/-- The text is a directive of the preamble that gives a value to a name. -/
def Assigns (engine : Engine) (config : Configuration) (text name value : String) : Prop :=
  ∃ find m, engine.directive config configDirective = .ok find ∧ find text = .ok (some m) ∧
    (m.named? "name").getD "" = name ∧ (m.named? "value").getD "" = value

/-- The line belongs to a preamble under a configuration: it is blank, or a directive for the marker
in force. It makes at most one setting. -/
inductive Takes (engine : Engine) (config : Configuration) (line : Line Raw) :
    List (Setting × String) → Prop
  | blank (blank : line.kind.isBlank = true) : Takes engine config line []
  /-- There is no such setting, or it does not accept the value. -/
  | refused {name value : String} (filled : line.kind.isBlank = false)
      (assigns : Assigns engine config line.kind.text name value)
      (refused : ∀ setting, Setting.ofKey? name = some setting → setting.isValid value = false) :
      Takes engine config line []
  | accepted {name value : String} {setting : Setting} (filled : line.kind.isBlank = false)
      (assigns : Assigns engine config line.kind.text name value)
      (key : Setting.ofKey? name = some setting) (valid : setting.isValid value = true) :
      Takes engine config line [(setting, value)]

/-- The lines are a preamble, each under the settings that those before it made. -/
inductive Preamble (engine : Engine) :
    Configuration → List (Line Raw) → List (Setting × String) → Prop
  | done {config : Configuration} : Preamble engine config [] []
  | line {config : Configuration} {line : Line Raw} {lines : List (Line Raw)}
      {made settings : List (Setting × String)} (takes : Takes engine config line made)
      (rest : Preamble engine (config.storeAll made) lines settings) :
      Preamble engine config (line :: lines) (made ++ settings)

/-- The body does not start with a line that belongs to the preamble. -/
def Ends (engine : Engine) (config : Configuration) (body : List (Line Raw)) : Prop :=
  ∀ line, body.head? = some line →
    line.kind.isBlank = false ∧ ¬ IsDirective engine config line.kind.text

section
variable {engine : Engine} {config : Configuration}

theorem Assigns.unique {text name value name' value' : String}
    (h : Assigns engine config text name value) (h' : Assigns engine config text name' value') :
    name = name' ∧ value = value' := by
  obtain ⟨find, m, hfind, hm, rfl, rfl⟩ := h
  obtain ⟨find', m', hfind', hm', rfl, rfl⟩ := h'
  rw [hfind] at hfind'
  cases hfind'
  rw [hm] at hm'
  cases hm'
  exact ⟨rfl, rfl⟩

theorem Takes.blank_or_directive {line : Line Raw} {made : List (Setting × String)}
    (h : Takes engine config line made) :
    line.kind.isBlank = true ∨ IsDirective engine config line.kind.text := by
  cases h with
  | blank blank => exact .inl blank
  | refused _ assigns _ =>
    obtain ⟨find, m, hfind, hm, -⟩ := assigns
    exact .inr ⟨find, m, hfind, hm⟩
  | accepted _ assigns _ _ =>
    obtain ⟨find, m, hfind, hm, -⟩ := assigns
    exact .inr ⟨find, m, hfind, hm⟩

theorem Takes.unique {line : Line Raw} {made made' : List (Setting × String)}
    (h : Takes engine config line made) (h' : Takes engine config line made') : made = made' := by
  cases h with
  | blank blank => cases h' <;> simp_all
  | refused filled assigns refused =>
    cases h' with
    | blank | refused => rfl
    | accepted _ assigns' key valid =>
      obtain ⟨rfl, rfl⟩ := assigns.unique assigns'
      exact absurd valid (by simp [refused _ key])
  | accepted filled assigns key valid =>
    cases h' with
    | blank blank => simp_all
    | refused _ assigns' refused =>
      obtain ⟨rfl, rfl⟩ := assigns.unique assigns'
      exact absurd valid (by simp [refused _ key])
    | accepted _ assigns' key' _ =>
      obtain ⟨rfl, rfl⟩ := assigns.unique assigns'
      rw [Option.some.inj (key.symm.trans key')]

theorem Preamble.valid {lines : List (Line Raw)} {settings : List (Setting × String)}
    (h : Preamble engine config lines settings) :
    ∀ made ∈ settings, made.1.isValid made.2 = true := by
  induction h with
  | done => simp
  | line takes _ ih =>
    intro made hmade
    rcases List.mem_append.1 hmade with hmade | hmade
    · cases takes with
      | blank | refused => cases hmade
      | accepted _ _ _ valid => rwa [List.mem_singleton.1 hmade]
    · exact ih made hmade

/-- A preamble that the body ends is the longest one at the start of the lines. -/
theorem Preamble.longest {front body front' : List (Line Raw)}
    {settings settings' : List (Setting × String)} (h : Preamble engine config front settings)
    (hends : Ends engine (config.storeAll settings) body)
    (h' : Preamble engine config front' settings') (hle : front' <+: front ++ body) :
    front' <+: front := by
  induction h generalizing front' settings' with
  | done =>
    cases h' with
    | done => exact List.nil_prefix
    | line takes _ =>
      obtain ⟨rest, rfl⟩ := hle
      obtain ⟨hfilled, hno⟩ := hends _ rfl
      rcases takes.blank_or_directive with hblank | hdirective
      · exact absurd hblank (by simp [hfilled])
      · exact absurd hdirective hno
  | @line config line lines made settings takes _ ih =>
    cases h' with
    | done => exact List.nil_prefix
    | line takes' rest' =>
      obtain ⟨rfl, hlines⟩ := List.cons_prefix_cons.1 hle
      obtain rfl := takes.unique takes'
      rw [Configuration.storeAll_append] at hends
      exact List.cons_prefix_cons.2 ⟨rfl, ih hends rest' hlines⟩

end

/-- A report about something else than the indentation. -/
def Unrelated (d : Diagnostic) : Prop :=
  Mild d ∧ d.kind ≠ .indentationRoundingWarning ∧ d.kind ≠ .tabwidthInferenceWarning

theorem Unrelated.ofKind {kind : DiagnosticKind} {message : String} {position : Position}
    (h : kind.severity < .fatal ∧ kind ≠ .indentationRoundingWarning ∧
      kind ≠ .tabwidthInferenceWarning := by decide) :
    Unrelated (.ofKind kind message position) := h

theorem Unrelated.withCauses {d : Diagnostic} (h : Unrelated d) (chain : List String) :
    Unrelated (d.withCauses chain) := h

section
variable {σ : Type} [Sink σ] (engine : Engine)

theorem configMatcher_yields (config : Configuration) (position : Position) :
    Yields Unrelated (configMatcher engine config position : Reporting σ _)
      (engine.directive config configDirective).toOption := by
  rw [configMatcher]
  split
  · rename_i heq
    rw [heq]
    exact .pure _
  · rename_i heq
    rw [heq]
    exact (Yields.report (Unrelated.withCauses .ofKind _)).bind (.pure _)

/-- A directive makes a setting that accepts the value, and does nothing otherwise. -/
theorem applySetting_yields (config : Configuration) (name value : String) (position : Position) :
    (∃ setting, Setting.ofKey? name = some setting ∧ setting.isValid value = true ∧
      Yields Unrelated (applySetting config name value position : Reporting σ _)
        (config.store setting value, some setting)) ∨
    (∀ setting, Setting.ofKey? name = some setting → setting.isValid value = false) ∧
      Yields Unrelated (applySetting config name value position : Reporting σ _)
        (config, none) := by
  rw [applySetting]
  rcases hkey : Setting.ofKey? name with - | setting
  · exact .inr ⟨by simp, (Yields.report Unrelated.ofKind).bind (.pure _)⟩
  · rcases hvalid : setting.isValid value
    · refine .inr ⟨?_, ?_⟩
      · rintro s hs
        rwa [← Option.some.inj hs]
      · simp only [Configuration.set?, hvalid, Bool.false_eq_true, if_false]
        exact (Yields.report Unrelated.ofKind).bind (.pure _)
    · refine .inl ⟨setting, rfl, hvalid, ?_⟩
      simp only [Configuration.set?, hvalid, if_true]
      exact .pure _

variable {engine}

/-- A run takes the longest preamble off the lines, and yields the settings that it makes with the
lines that are left. -/
def TakesOff (engine : Engine) (config : Configuration) (ls : List (Line Raw))
    (run : Reporting σ (Configuration × List (Line Raw))) : Prop :=
  ∃ front body settings, ls = front ++ body ∧ Preamble engine config front settings ∧
    Ends engine (config.storeAll settings) body ∧
    Yields Unrelated run (config.storeAll settings, body)

/-- A line of the preamble is followed by the preamble of the rest. -/
theorem TakesOff.line {config : Configuration} {line : Line Raw} {rest : List (Line Raw)}
    {made : List (Setting × String)}
    {run next : Reporting σ (Configuration × List (Line Raw))}
    (h : TakesOff engine (config.storeAll made) rest next)
    (takes : Takes engine config line made)
    (hrun : ∀ {r}, Yields Unrelated next r → Yields Unrelated run r) :
    TakesOff engine config (line :: rest) run := by
  obtain ⟨front, body, settings, hsplit, hfront, hends, hnext⟩ := h
  rw [← Configuration.storeAll_append] at hends hnext
  exact ⟨line :: front, body, made ++ settings, by rw [hsplit, List.cons_append],
    .line takes hfront, hends, hrun hnext⟩

/-- A line with text that is no directive ends the preamble. -/
theorem TakesOff.here {config : Configuration} {line : Line Raw} {rest : List (Line Raw)}
    {run : Reporting σ (Configuration × List (Line Raw))} (filled : line.kind.isBlank = false)
    (hno : ¬ IsDirective engine config line.kind.text)
    (hrun : Yields Unrelated run (config, line :: rest)) :
    TakesOff engine config (line :: rest) run := by
  refine ⟨[], line :: rest, [], rfl, .done, fun l hl => ?_, hrun⟩
  cases hl
  exact ⟨filled, hno⟩

theorem not_isDirective_of_error {config : Configuration} {text : String} {failure : Pattern.Failure}
    (h : engine.directive config configDirective = .error failure) :
    ¬ IsDirective engine config text := by
  rintro ⟨find, m, hfind, -⟩
  cases h.symm.trans hfind

theorem not_isDirective_of_ne {config : Configuration} {text : String} {find : Matcher}
    (hfind : engine.directive config configDirective = .ok find)
    (h : ∀ m, find text ≠ .ok (some m)) : ¬ IsDirective engine config text := by
  rintro ⟨find', m, hfind', hm⟩
  cases hfind.symm.trans hfind'
  exact h m hm

variable (engine)

/-- Taking off the preamble takes off as many lines as belong to it. -/
theorem readPreamble_yields (ls : List (Line Raw)) (config : Configuration) :
    ∃ front body settings, ls = front ++ body ∧ Preamble engine config front settings ∧
      Ends engine (config.storeAll settings) body ∧
      Yields Unrelated
        (readPreamble engine ls config (engine.directive config configDirective).toOption :
          Reporting σ _) (config.storeAll settings, body) := by
  change TakesOff engine config ls _
  induction ls generalizing config with
  | nil => exact ⟨[], [], [], rfl, .done, by simp [Ends], .pure _⟩
  | cons line rest ih =>
    simp only [readPreamble]
    by_cases hblank : line.kind.isBlank = true
    · rw [if_pos hblank]
      exact (ih config).line (.blank hblank) id
    have hfilled : line.kind.isBlank = false := by simpa using hblank
    rw [if_neg hblank]
    rcases hfind : engine.directive config configDirective with failure | find
    · exact .here hfilled (not_isDirective_of_error hfind) (.pure _)
    simp only [Except.toOption]
    rcases hm : find line.kind.text with failure | - | m
    · exact .here hfilled (not_isDirective_of_ne hfind (by simp [hm]))
        ((Yields.report Unrelated.ofKind).bind (.pure _))
    · exact .here hfilled (not_isDirective_of_ne hfind (by simp [hm])) (.pure _)
    · have hassigns : Assigns engine config line.kind.text ((m.named? "name").getD "")
          ((m.named? "value").getD "") := ⟨find, m, hfind, hm, rfl, rfl⟩
      obtain ⟨setting, hkey, hvalid, happlied⟩ | ⟨hrefused, happlied⟩ :=
        applySetting_yields (σ := σ) config ((m.named? "name").getD "")
          ((m.named? "value").getD "") line.position
      · refine (ih _).line (.accepted hfilled hassigns hkey hvalid) fun hrest => happlied.bind ?_
        cases setting with
        | marker => exact (configMatcher_yields engine _ _).bind hrest
        | tabwidth =>
          -- the matcher stays, as it looks at the marker only
          have hsame : engine.directive
              (config.storeAll [(.tabwidth, (m.named? "value").getD "")]) configDirective =
                engine.directive config configDirective := rfl
          rw [hsame, hfind] at hrest
          exact hrest
      · refine (ih _).line (.refused hfilled hassigns hrefused) fun hrest => happlied.bind ?_
        rw [Configuration.storeAll, List.foldl_nil, hfind] at hrest
        exact hrest

end

end Normalization

/-! ## Lines of the body -/

namespace Line

/-- How many spaces are among the spaces and tabs that a line starts with. -/
def leadingSpaces (line : Line Raw) : Nat :=
  (line.kind.text.toList.takeWhile Measured.isIndent).count ' '

/-- How many tabs are among the spaces and tabs that a line starts with. -/
def leadingTabs (line : Line Raw) : Nat :=
  (line.kind.text.toList.takeWhile Measured.isIndent).count '\t'

/-- The line with a level: the spaces rounded to whole tabs, a half up, and the tabs. -/
def levelled (tabwidth : Nat) (line : Line Raw) : Line Normalized :=
  ⟨line.position,
    (2 * line.leadingSpaces + tabwidth) / (2 * tabwidth) + line.leadingTabs,
    String.ofList (line.kind.text.toList.dropWhile Measured.isIndent)⟩

/-- The warning that the spaces of a line are no whole number of tabs. -/
def roundingWarning (tabwidth : Nat) (line : Line Raw) : Diagnostic :=
  let left := line.leadingSpaces % tabwidth
  .indentationRounded line.leadingSpaces tabwidth
    (if 4 * left < tabwidth ∨ 3 * tabwidth < 4 * left then .low else .med) line.position

/-- A half of a tabwidth is added before dividing, whether or not it is a whole number. -/
theorem halfUp_eq (spaces tabwidth : Nat) :
    (spaces + tabwidth / 2) / tabwidth = (2 * spaces + tabwidth) / (2 * tabwidth) := by
  rw [← Nat.div_div_eq_div_mul, show (2 * spaces + tabwidth) / 2 = spaces + tabwidth / 2 by omega]

theorem indented_eq_levelled {tabwidth : Nat} (h : 0 < tabwidth) (line : Line Raw) :
    line.indented tabwidth = line.levelled tabwidth := by
  have hwidth : max tabwidth 1 = tabwidth := by omega
  rw [indented, measure, normalized, Measured.ofText_eq, levelled, ← halfUp_eq]
  simp only [Measured.indentation, hwidth, leadingSpaces, leadingTabs]

/-- What is reported about a line. -/
theorem normalize_measure_eq {σ : Type} [Sink σ] {tabwidth : Nat} (h : 0 < tabwidth)
    (line : Line Raw) :
    (line.measure.normalize tabwidth : Reporting σ _) =
      (⟨if line.leadingSpaces % tabwidth = 0 then [] else [line.roundingWarning tabwidth],
        .ok (line.levelled tabwidth)⟩ : Script _).play := by
  have hwidth : max tabwidth 1 = tabwidth := by omega
  have hspaces : line.measure.kind.spaces = line.leadingSpaces := by
    rw [measure, Measured.ofText_eq, leadingSpaces]
  rw [normalize, ← indented_eq_levelled h]
  simp only [Measured.indentation, hspaces, hwidth]
  by_cases hleft : line.leadingSpaces % tabwidth = 0
  · rw [if_pos hleft, if_pos hleft]
    rfl
  · rw [if_neg hleft, if_neg hleft]
    by_cases hslight : 4 * (line.leadingSpaces % tabwidth) < tabwidth ∨
        3 * tabwidth < 4 * (line.leadingSpaces % tabwidth)
    · simp only [roundingWarning, if_pos hslight]
      rw [Script.play_cons]
      rfl
    · simp only [roundingWarning, if_neg hslight]
      rw [Script.play_cons]
      rfl

end Line

namespace Normalization

/-- The greatest common divisor of the numbers of leading spaces. -/
def spacesGcd (body : List (Line Raw)) : Nat := (body.map Line.leadingSpaces).foldr Nat.gcd 0

theorem spacesDivisor_eq (body : List (Line Raw)) :
    spacesDivisor (body.map Line.measure) = spacesGcd body := by
  have hspaces : ∀ line : Line Raw, line.measure.kind.spaces = line.leadingSpaces := by
    intro line
    rw [Line.measure, Measured.ofText_eq, Line.leadingSpaces]
  rw [spacesDivisor, spacesGcd, ← List.foldl_eq_foldr, List.foldl_map, List.foldl_map]
  simp only [hspaces]

/-- The greatest common divisor divides every number of spaces. -/
theorem spacesGcd_dvd {body : List (Line Raw)} {line : Line Raw} (h : line ∈ body) :
    spacesGcd body ∣ line.leadingSpaces := by
  induction body with
  | nil => cases h
  | cons l body ih =>
    have hcons : spacesGcd (l :: body) = Nat.gcd l.leadingSpaces (spacesGcd body) := rfl
    rw [hcons]
    rcases List.mem_cons.1 h with rfl | h
    · exact Nat.gcd_dvd_left _ _
    · exact (Nat.gcd_dvd_right _ _).trans (ih h)

/-- The tabwidth that the indentation of a body suggests. -/
def inferredWidth (body : List (Line Raw)) : Nat :=
  if spacesGcd body = 0 then defaultTabwidth else spacesGcd body

/-- What is reported about the tabwidth of a body that nothing declares one for. -/
def inferenceWarnings (source : Path) (body : List (Line Raw)) : List Diagnostic :=
  if spacesGcd body = 0 then []
  else [.tabwidthInferred (spacesGcd body) (.wholeFile source)]

/-- What is reported about the spaces of the lines of a body. -/
def roundingWarnings (tabwidth : Nat) (body : List (Line Raw)) : List Diagnostic :=
  (body.filter fun line => line.leadingSpaces % tabwidth ≠ 0).map (·.roundingWarning tabwidth)

theorem roundingWarnings_cons (tabwidth : Nat) (line : Line Raw) (body : List (Line Raw)) :
    roundingWarnings tabwidth (line :: body) =
      (if line.leadingSpaces % tabwidth = 0 then [] else [line.roundingWarning tabwidth]) ++
        roundingWarnings tabwidth body := by
  by_cases hleft : line.leadingSpaces % tabwidth = 0
  · simp [roundingWarnings, hleft]
  · simp [roundingWarnings, hleft]

section
variable {σ : Type} [Sink σ]

theorem mapM_normalize_eq {tabwidth : Nat} (h : 0 < tabwidth) (body : List (Line Raw)) :
    ((body.map Line.measure).mapM (Line.normalize tabwidth) : Reporting σ _) =
      (⟨roundingWarnings tabwidth body, .ok (body.map (·.levelled tabwidth))⟩ : Script _).play := by
  induction body with
  | nil => rfl
  | cons line body ih =>
    have hrest : ((body.map Line.measure).mapM (Line.normalize tabwidth) >>= fun ls =>
        pure (line.levelled tabwidth :: ls) : Reporting σ _) =
          (⟨roundingWarnings tabwidth body,
            .ok (line.levelled tabwidth :: body.map (·.levelled tabwidth))⟩ : Script _).play := by
      rw [ih, Script.play_ok_bind]
      rfl
    rw [List.map_cons, List.mapM_cons, Line.normalize_measure_eq h, roundingWarnings_cons]
    exact Script.play_ok_bind_play hrest

theorem inferTabwidth_eq {source : Path} {body : List (Line Raw)} {d : Document Measured}
    (hlines : d.lines = body.map Line.measure) (hsource : ∀ l ∈ body, l.position.source = source) :
    (inferTabwidth d : Reporting σ _) =
      (⟨inferenceWarnings source body, .ok (inferredWidth body)⟩ : Script _).play := by
  rw [inferTabwidth, hlines, spacesDivisor_eq, inferenceWarnings, inferredWidth]
  by_cases hzero : spacesGcd body = 0
  · rw [if_pos hzero, if_pos hzero, if_pos hzero]
    rfl
  · cases body with
    | nil => exact absurd rfl hzero
    | cons line body =>
      have horigin : d.origin = .wholeFile source := by
        rw [← hsource line List.mem_cons_self]
        simp only [Document.origin, hlines]
        rfl
      have hfull : d.isEmpty = false := by
        simp [Document.isEmpty, hlines]
      simp only [if_neg hzero, hfull, horigin]
      rw [Script.play_cons]
      rfl

theorem normalizeLines_eq {tabwidth : Nat} (h : 0 < tabwidth) {body : List (Line Raw)}
    (hlines : ∀ l ∈ body, Text.IsLine l.kind.text) (config : Configuration) :
    ((Document.ofLines body config).measure.normalizeLines tabwidth : Reporting σ _) =
      (⟨roundingWarnings tabwidth body,
        .ok (.ofLines (body.map (·.levelled tabwidth)) config)⟩ : Script _).play := by
  rw [Document.normalizeLines, measure_ofLines hlines, mapM_normalize_eq h, Script.play_ok_bind]
  rfl

end

/-! ## The tabwidth of a file -/

/-- The value that the tabwidth was last set to. -/
def lastWidth? (settings : List (Setting × String)) : Option String :=
  (settings.filter (·.1 = .tabwidth)).getLast?.map (·.2)

/-- The tabwidth that the settings of a preamble give a file: the last one declared, or else the one
that the file inherits. -/
def givenWidth? (config : Configuration) (settings : List (Setting × String)) : Option Nat :=
  ((lastWidth? settings).or config.tabwidthValue).map fun value => Text.decimal value.toList

theorem tabwidthValue_storeAll (config : Configuration) (settings : List (Setting × String)) :
    (config.storeAll settings).tabwidthValue = (lastWidth? settings).or config.tabwidthValue := by
  induction settings using List.reverseRecOn with
  | nil => rfl
  | append_singleton settings made ih =>
    obtain ⟨setting, value⟩ := made
    rw [Configuration.storeAll_append, lastWidth?, List.filter_append]
    cases setting with
    | tabwidth => simp [Configuration.storeAll, Configuration.store]
    | marker => simpa [Configuration.storeAll, Configuration.store, lastWidth?] using ih

/-- The tabwidth that a configuration holds, if any, is one that the setting accepts. -/
def ValidWidth (config : Configuration) : Prop :=
  ∀ value, config.tabwidthValue = some value → Setting.tabwidth.isValid value = true

theorem ValidWidth.storeAll {config : Configuration} (h : ValidWidth config)
    {settings : List (Setting × String)}
    (hsettings : ∀ made ∈ settings, made.1.isValid made.2 = true) :
    ValidWidth (config.storeAll settings) := by
  intro value hvalue
  rw [tabwidthValue_storeAll, Option.or_eq_some_iff] at hvalue
  obtain hlast | ⟨-, hinherited⟩ := hvalue
  · rw [lastWidth?, Option.map_eq_some_iff] at hlast
    obtain ⟨⟨setting, value⟩, hmade, rfl⟩ := hlast
    obtain ⟨hmem, hsetting⟩ := List.mem_filter.1 (List.mem_of_getLast? hmade)
    have hvalid := hsettings _ hmem
    rwa [show setting = .tabwidth by simpa using hsetting] at hvalid
  · exact h value hinherited

/-- What it comes to for the configuration after the preamble whether a tabwidth is given. -/
theorem givenWidth?_eq {config : Configuration} (h : ValidWidth config)
    {settings : List (Setting × String)}
    (hsettings : ∀ made ∈ settings, made.1.isValid made.2 = true) :
    (givenWidth? config settings = none ∧
        (config.storeAll settings).isDefined .tabwidth = false) ∨
      ∃ tabwidth, givenWidth? config settings = some tabwidth ∧ 0 < tabwidth ∧
        (config.storeAll settings).isDefined .tabwidth = true ∧
        (config.storeAll settings).tabwidth = tabwidth := by
  have hvalid := h.storeAll hsettings
  rw [givenWidth?, ← tabwidthValue_storeAll]
  rcases hvalue : (config.storeAll settings).tabwidthValue with - | value
  · exact .inl ⟨rfl, by simp [Configuration.isDefined, Configuration.stored, hvalue]⟩
  · have haccepted := hvalid value hvalue
    refine .inr ⟨Text.decimal value.toList, rfl, ?_, ?_, tabwidth_of_isValid hvalue haccepted⟩
    · simp only [Setting.isValid, Setting.isWidth, Bool.and_eq_true, decide_eq_true_eq] at haccepted
      exact haccepted.1.2
    · simp [Configuration.isDefined, Configuration.stored, hvalue]

theorem inferredWidth_pos (body : List (Line Raw)) : 0 < inferredWidth body := by
  rw [inferredWidth]
  split
  · decide
  · omega

/-- An inferred tabwidth rounds nothing. -/
theorem roundingWarnings_inferredWidth (body : List (Line Raw)) :
    roundingWarnings (inferredWidth body) body = [] := by
  rw [roundingWarnings, List.map_eq_nil_iff, List.filter_eq_nil_iff]
  intro line hline
  have hdvd := spacesGcd_dvd hline
  rw [inferredWidth]
  split
  · rename_i hzero
    rw [hzero, Nat.zero_dvd] at hdvd
    simp [hdvd]
  · simpa using Nat.mod_eq_zero_of_dvd hdvd

/-! ## The file -/

/-- The file that a body comes to: its lines for the tabwidth that is given, or else inferred. -/
def levelledFile (config base : Configuration) (given : Option Nat) (body : List (Line Raw)) :
    NormalizedFile :=
  let tabwidth := given.getD (inferredWidth body)
  ⟨(Document.ofLines (body.map (·.levelled tabwidth)) base).withConfig
      (if given.isSome then config else config.store .tabwidth (toString tabwidth)), tabwidth⟩

/-- The run of `normalize`: what the preamble reports, then the tabwidth if it is inferred, then the
roundings. -/
theorem normalize_play {σ : Type} [Sink σ] (engine : Engine) (source : Path) (content : String)
    {config : Configuration} (hconfig : ValidWidth config) :
    ∃ front body settings reports,
      (Document.read source content config).lines = front ++ body ∧
      Preamble engine config front settings ∧ Ends engine (config.storeAll settings) body ∧
      (∀ d ∈ reports, Unrelated d) ∧
      let given := givenWidth? config settings
      let file := levelledFile (config.storeAll settings) config given body
      (normalize engine (.read source content config) : Reporting σ _) =
        (⟨reports ++ ((if given = none then inferenceWarnings source body else []) ++
            roundingWarnings file.tabwidth body), .ok file⟩ : Script _).play := by
  obtain ⟨front, body, settings, hsplit, hfront, hends, hrun⟩ :=
    readPreamble_yields (σ := σ) engine (Document.read source content config).lines config
  obtain ⟨reports, hreports, hunrelated⟩ :=
    (configMatcher_yields engine config
      (firstPosition (.read source content config))).bind hrun
  refine ⟨front, body, settings, reports, hsplit, hfront, hends, hunrelated, ?_⟩
  have hbody : ∀ l ∈ body, l ∈ (Document.read source content config).lines := by
    rw [hsplit]
    exact fun l hl => List.mem_append_right front hl
  have hlines : ∀ l ∈ body, Text.IsLine l.kind.text :=
    fun l hl => Document.isLine_of_read source content config (hbody l hl)
  have hsource : ∀ l ∈ body, l.position.source = source :=
    fun l hl => Document.source_of_read (hbody l hl)
  intro given file
  have hnormalize : (normalize engine (.read source content config) : Reporting σ _) = do
      let r ← (⟨reports, .ok (config.storeAll settings, body)⟩ : Script _).play
      let measured := (Document.ofLines r.2 config).measure
      if r.1.isDefined .tabwidth then
        let document ← measured.normalizeLines r.1.tabwidth
        return ⟨document.withConfig r.1, r.1.tabwidth⟩
      else
        let tabwidth ← inferTabwidth measured
        let document ← measured.normalizeLines tabwidth
        return ⟨document.withConfig (r.1.store .tabwidth (toString tabwidth)), tabwidth⟩ := by
    rw [← hreports, normalize, bind_assoc]
    rfl
  rw [hnormalize]
  refine Script.play_ok_bind_play ?_
  simp only
  obtain ⟨hgiven, hdefined⟩ | ⟨tabwidth, hgiven, hpos, hdefined, htabwidth⟩ :=
    givenWidth?_eq hconfig hfront.valid
  · have hmeasured := measure_ofLines hlines config
    have hfile : file =
        ⟨(Document.ofLines (body.map (·.levelled (inferredWidth body))) config).withConfig
          ((config.storeAll settings).store .tabwidth (toString (inferredWidth body))),
            inferredWidth body⟩ := by
      simp only [file, given, hgiven, levelledFile]
      rfl
    rw [hdefined, if_neg Bool.false_ne_true, inferTabwidth_eq hmeasured hsource, if_pos hgiven,
      hfile]
    refine Script.play_ok_bind_play ?_
    rw [normalizeLines_eq (inferredWidth_pos body) hlines, Script.play_ok_bind]
    rfl
  · have hfile : file = ⟨(Document.ofLines (body.map (·.levelled tabwidth)) config).withConfig
        (config.storeAll settings), tabwidth⟩ := by
      simp only [file, given, hgiven, levelledFile]
      rfl
    have hsome : given ≠ none := by simp [given, hgiven]
    rw [hdefined, if_pos rfl, htabwidth, normalizeLines_eq hpos hlines, if_neg hsome, hfile,
      Script.play_ok_bind]
    rfl

/-- What a body comes to, in terms of its lines alone, when a tabwidth is given and when none is. -/
structure Levels (source : Path) (given : Option Nat) (body : List (Line Raw))
    (file : NormalizedFile) (ds : List Diagnostic) : Prop where
  lines : file.document.lines = body.map (·.levelled file.tabwidth)
  tabwidth : file.tabwidth =
    given.getD (if spacesGcd body = 0 then defaultTabwidth else spacesGcd body)
  positive : 1 ≤ file.tabwidth
  config : file.document.config.tabwidth = file.tabwidth
  /-- One warning for each line whose spaces are no whole number of tabs, in the order of the
  lines. -/
  roundings : ds.filter (·.kind = .indentationRoundingWarning) =
    (body.filter fun line => line.leadingSpaces % file.tabwidth ≠ 0).map
      (·.roundingWarning file.tabwidth)
  inferences : ds.filter (·.kind = .tabwidthInferenceWarning) =
    if given = none ∧ spacesGcd body ≠ 0 then
      [.tabwidthInferred (spacesGcd body) (.wholeFile source)]
    else []
  /-- An inferred tabwidth rounds nothing. -/
  exact : given = none → ∀ d ∈ ds, d.kind ≠ .indentationRoundingWarning

theorem filter_unrelated {reports : List Diagnostic} (h : ∀ d ∈ reports, Unrelated d)
    {kind : DiagnosticKind}
    (hkind : kind = .indentationRoundingWarning ∨ kind = .tabwidthInferenceWarning) :
    reports.filter (·.kind = kind) = [] := by
  refine List.filter_eq_nil_iff.2 fun d hd => ?_
  obtain ⟨-, hrounding, hinference⟩ := h d hd
  rcases hkind with rfl | rfl
  · simpa using hrounding
  · simpa using hinference

theorem filter_kind {ds : List Diagnostic} {kind : DiagnosticKind} (h : ∀ d ∈ ds, d.kind = kind)
    {other : DiagnosticKind} : ds.filter (·.kind = other) = if kind = other then ds else [] := by
  split
  · rename_i heq
    exact List.filter_eq_self.2 fun d hd => by simp [h d hd, heq]
  · rename_i hne
    exact List.filter_eq_nil_iff.2 fun d hd => by simp [h d hd, hne]

theorem kind_roundingWarnings {tabwidth : Nat} {body : List (Line Raw)} :
    ∀ d ∈ roundingWarnings tabwidth body, Mild d ∧ d.kind = .indentationRoundingWarning := by
  intro d hd
  obtain ⟨line, -, rfl⟩ := List.mem_map.1 hd
  refine ⟨?_, rfl⟩
  show (if _ then Severity.low else Severity.med) < Severity.fatal
  split <;> decide

theorem kind_inferenceWarnings {source : Path} {body : List (Line Raw)} {given : Option Nat} :
    ∀ d ∈ if given = none then inferenceWarnings source body else [],
      Mild d ∧ d.kind = .tabwidthInferenceWarning := by
  intro d hd
  split at hd
  · rw [inferenceWarnings] at hd
    split at hd
    · cases hd
    · rw [List.mem_singleton.1 hd]
      exact ⟨show Severity.med < .fatal by decide, rfl⟩
  · cases hd

theorem inferredWidth_le {body : List (Line Raw)}
    (h : ∀ l ∈ body, Text.size l.kind.text ≤ Text.maxWord) : inferredWidth body ≤ Text.maxWord := by
  have hwidth : widthOf {} body = inferredWidth body := by
    simp only [widthOf, spacesDivisor_eq]
    rfl
  rw [← hwidth]
  exact widthOf_le Bool.false_ne_true h

/-- The file and the reports of a run of `normalize` are what the lines of the body come to. -/
theorem levels_of_play {config : Configuration} (hconfig : ValidWidth config)
    {source : Path} {settings : List (Setting × String)} {body : List (Line Raw)}
    {reports : List Diagnostic} (hsettings : ∀ made ∈ settings, made.1.isValid made.2 = true)
    (hlines : ∀ l ∈ body, Text.IsLine l.kind.text)
    (hsizes : ∀ l ∈ body, Text.size l.kind.text ≤ Text.maxWord)
    (hreports : ∀ d ∈ reports, Unrelated d) :
    let given := givenWidth? config settings
    let file := levelledFile (config.storeAll settings) config given body
    Levels source given body file
      (reports ++ ((if given = none then inferenceWarnings source body else []) ++
        roundingWarnings file.tabwidth body)) := by
  intro given file
  have hgiven := givenWidth?_eq hconfig hsettings
  have hpos : 0 < file.tabwidth := by
    obtain ⟨hnone, -⟩ | ⟨tabwidth, hsome, hpos, -⟩ := hgiven
    · simp only [file, given, hnone, levelledFile]
      exact inferredWidth_pos body
    · simp only [file, given, hsome, levelledFile]
      exact hpos
  have hinferences : ∀ d ∈ if given = none then inferenceWarnings source body else [],
      d.kind = .tabwidthInferenceWarning := fun d hd => (kind_inferenceWarnings d hd).2
  have hroundings : ∀ d ∈ roundingWarnings file.tabwidth body,
      d.kind = .indentationRoundingWarning := fun d hd => (kind_roundingWarnings d hd).2
  have hdistinct : DiagnosticKind.indentationRoundingWarning ≠ .tabwidthInferenceWarning := nofun
  refine ⟨?_, rfl, hpos, ?_, ?_, ?_, ?_⟩
  · have hkept := ofLines_indented hlines config file.tabwidth
    have hlevelled : ∀ line : Line Raw,
        line.measure.normalized file.tabwidth = line.levelled file.tabwidth :=
      Line.indented_eq_levelled hpos
    simp only [List.map_map, Function.comp_def, Line.indented, hlevelled] at hkept
    exact hkept
  · obtain ⟨hnone, -⟩ | ⟨tabwidth, hsome, -, -, htabwidth⟩ := hgiven
    · simp only [file, given, hnone, levelledFile]
      exact Configuration.tabwidth_store _ (inferredWidth_le hsizes)
    · simp only [file, given, hsome, levelledFile]
      exact htabwidth
  · rw [List.filter_append, List.filter_append, filter_unrelated hreports (.inl rfl),
      filter_kind hinferences, filter_kind hroundings, if_neg hdistinct.symm, if_pos rfl]
    rfl
  · rw [List.filter_append, List.filter_append, filter_unrelated hreports (.inr rfl),
      filter_kind hinferences, filter_kind hroundings, if_pos rfl, if_neg hdistinct,
      inferenceWarnings]
    by_cases hnone : given = none <;> by_cases hzero : spacesGcd body = 0 <;> simp [hnone, hzero]
  · intro hnone d hd
    have hexact : roundingWarnings file.tabwidth body = [] := by
      simp only [file, levelledFile, hnone]
      exact roundingWarnings_inferredWidth body
    rw [hexact, List.append_nil] at hd
    rcases List.mem_append.1 hd with hd | hd
    · exact (hreports d hd).2.1
    · rw [hinferences d hd]
      decide

/-- A file is the longest preamble that its lines start with and a body. Each line of the body
becomes one line, at the same position, for the tabwidth that the preamble last declares, or that
the file inherits, or that the spaces of the body suggest. Roundings and an inferred tabwidth are
reported, each once. -/
theorem normalize_levels (engine : Engine) (source : Path) (content : String)
    {config : Configuration} (hconfig : ValidWidth config)
    (hsize : Text.size content < Text.maxWord) :
    ∃ file ds front body settings,
      normalize engine (.read source content config) (Collector.plain []) =
        (.ok file, .plain ds) ∧
      (Document.read source content config).lines = front ++ body ∧
      Preamble engine config front settings ∧ Ends engine (config.storeAll settings) body ∧
      (∀ front' settings', Preamble engine config front' settings' →
        front' <+: (Document.read source content config).lines → front' <+: front) ∧
      Levels source (givenWidth? config settings) body file ds := by
  obtain ⟨front, body, settings, reports, hsplit, hfront, hends, hreports, hplay⟩ :=
    normalize_play (σ := Collector) engine source content hconfig
  have hbody : ∀ l ∈ body, l ∈ (Document.read source content config).lines := by
    rw [hsplit]
    exact fun l hl => List.mem_append_right front hl
  have hlines : ∀ l ∈ body, Text.IsLine l.kind.text :=
    fun l hl => Document.isLine_of_read source content config (hbody l hl)
  have hsizes : ∀ l ∈ body, Text.size l.kind.text ≤ Text.maxWord := fun l hl =>
    (Document.size_le_of_read source content config (hbody l hl)).trans hsize
  refine ⟨_, _, front, body, settings, ?_, hsplit, hfront, hends, ?_,
    levels_of_play hconfig hfront.valid hlines hsizes hreports⟩
  · rw [hplay, Script.play_plain]
    · rfl
    · intro d hd
      rcases List.mem_append.1 hd with hd | hd
      · exact (hreports d hd).1
      · rcases List.mem_append.1 hd with hd | hd
        · exact (kind_inferenceWarnings d hd).1
        · exact (kind_roundingWarnings d hd).1
  · rw [hsplit]
    exact fun front' settings' h' hle => hfront.longest hends h' hle

/-- The marker that the first line sets holds for the second one, which declares the tabwidth. -/
def markedPreamble : String := "config: prefix = #\n\n#config: tabwidth = 2\n \t  x\n"

theorem normalize_levels_markedPreamble :
    ∃ file ds front body settings,
      normalize .standard (.read ⟨"a"⟩ markedPreamble {}) (Collector.plain []) =
        (.ok file, .plain ds) ∧
      (Document.read ⟨"a"⟩ markedPreamble {}).lines = front ++ body ∧
      Preamble .standard {} front settings ∧
      Levels ⟨"a"⟩ (givenWidth? {} settings) body file ds ∧
      file.document.text = "\t\t\tx\n" := by
  have htext : (normalize .standard (.read ⟨"a"⟩ markedPreamble {})
      (Collector.plain [])).1.toOption.map (·.document.text) = some "\t\t\tx\n" := by
    rw [← Engine.prepared_eq]
    decide +kernel
  have hconfig : ValidWidth {} := by
    rintro value ⟨⟩
  have hsize : Text.size markedPreamble < Text.maxWord := by decide
  obtain ⟨file, ds, front, body, settings, hrun, hsplit, hfront, -, -, hlevels⟩ :=
    normalize_levels .standard ⟨"a"⟩ markedPreamble hconfig hsize
  rw [hrun] at htext
  exact ⟨file, ds, front, body, settings, hrun, hsplit, hfront, hlevels, Option.some.inj htext⟩

end Normalization

end SourcePrep
