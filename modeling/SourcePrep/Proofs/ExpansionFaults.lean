import SourcePrep.Proofs.ExpansionLoop
import SourcePrep.Proofs.Inlining
import SourcePrep.Proofs.Lookups
import SourcePrep.Proofs.TextExpansion

/-!
# The faults of an expansion

A text is read, normalized and expanded. Each of these looks into lines, offsets and texts, and a
look that finds nothing ends the run in a fault, whatever the sink answers.

* `Phase.Sound`: what the loop of `expand` keeps between two turns; `sound_of_turns` has it for a
  turn and `sound_of_reaches` for a run.
* `Loop.InRange`: what follows for the lookups of the next turn.
* `turn_fault`: the one fault that a turn can end in. The position of a directive is looked up in
  the document it was found in, and a marker can make the pattern of directives match nothing at
  all, which it finds in the document without lines.
* `expandText_fault_iff`: what this comes to for a text, under any configuration and on any sink.
-/

set_option autoImplicit false

namespace SourcePrep

/-! ## Scripts on any sink -/

section
variable {σ α β : Type}

theorem run_bind_fault {x : Reporting σ α} {f : α → Reporting σ β} {s t : σ} {e : Halt}
    (h : (x >>= f) s = (.error e, t)) :
    x s = (.error e, t) ∨ ∃ a s', x s = (.ok a, s') ∧ f a s' = (.error e, t) := by
  rcases hx : x s with ⟨e' | a, s'⟩
  · rw [run_bind_error hx] at h
    cases h
    exact .inl rfl
  · rw [run_bind_ok hx] at h
    exact .inr ⟨a, s', rfl, h⟩

variable [Sink σ]

theorem report_not_fault {d : Diagnostic} {s t : σ} {f : Fault} :
    (report d : Reporting σ Unit) s ≠ (.error (.fault f), t) := by
  intro h
  simp only [report] at h
  split at h
  · split at h <;> cases h
  · cases h
  · cases h

namespace Script

/-- A script ends a run as it says, or a report of it stops the run. -/
theorem play_apply (s : Script α) (x : σ) :
    (s.play x).1 = outcome s.ending ∨ ∃ a, (s.play x).1 = .error (.aborted a) := by
  obtain ⟨ds, e⟩ := s
  induction ds generalizing x with
  | nil => exact .inl (by rw [play_nil])
  | cons d ds ih =>
    rw [play_cons_apply]
    rcases h : (report d : Reporting σ Unit) x with ⟨(a | f) | ⟨⟩, y⟩
    · exact .inr ⟨a, rfl⟩
    · exact absurd h report_not_fault
    · exact ih y

end Script

variable {τ : Type} [Sink τ] {A : Accord} {R : α → β → Prop} {x : Reporting σ α}
  {y : Reporting τ β}

theorem Alike.returns (h : Alike A R x y) : Returns x fun a => ∃ b, R a b := by
  intro s a t hx
  obtain ⟨⟨ds, u⟩, ⟨es, v⟩, rfl, -, -, he⟩ := h
  have hend := Script.play_apply (⟨ds, u⟩ : Script α) s
  rw [hx] at hend
  cases he with
  | ok hab =>
    obtain h | ⟨_, h⟩ := hend
    · cases h
      exact ⟨_, hab⟩
    · cases h
  | fault hf =>
    obtain h | ⟨_, h⟩ := hend
    · cases h
    · cases h

theorem Alike.fault_of_run (h : Alike A R x y) {s t : σ} {f : Fault}
    (hx : x s = (.error (.fault f), t)) : A.fault f := by
  obtain ⟨⟨ds, u⟩, ⟨es, v⟩, rfl, -, -, he⟩ := h
  have hend := Script.play_apply (⟨ds, u⟩ : Script α) s
  rw [hx] at hend
  cases he with
  | ok hab =>
    obtain h | ⟨_, h⟩ := hend
    · cases h
    · cases h
  | fault hf =>
    obtain h | ⟨_, h⟩ := hend
    · cases h
      exact hf
    · cases h

end

/-! ## The preamble -/

theorem readPreamble_returns {σ : Type} [Sink σ] (engine : Engine) (lines : List (Line Raw))
    (config : Configuration) (matcher : Option Matcher) :
    Returns (Normalization.readPreamble engine lines config matcher : Reporting σ _) fun r =>
      ∃ n ≤ lines.length, r.2 = lines.drop n := by
  induction lines generalizing config matcher with
  | nil => exact .pure ⟨0, Nat.le_refl _, rfl⟩
  | cons line rest ih =>
    have hnext : ∀ config matcher, Returns
        (Normalization.readPreamble engine rest config matcher : Reporting σ _) fun r =>
          ∃ n ≤ (line :: rest).length, r.2 = (line :: rest).drop n := by
      intro config matcher s r t h
      obtain ⟨n, hn, hr⟩ := ih config matcher s r t h
      exact ⟨n + 1, Nat.succ_le_succ hn, hr⟩
    have hhere : Returns (pure (config, line :: rest) : Reporting σ _) fun r =>
        ∃ n ≤ (line :: rest).length, r.2 = (line :: rest).drop n :=
      .pure ⟨0, Nat.zero_le _, rfl⟩
    simp only [Normalization.readPreamble]
    split
    · exact hnext _ _
    · cases matcher with
      | none => exact hhere
      | some find =>
        simp only
        split
        · exact .after fun _ => hhere
        · exact hhere
        · refine .after fun applied => ?_
          split
          · exact .after fun matcher => hnext _ _
          · exact hnext _ _

/-! ## Normalization -/

section
variable {σ : Type} [Sink σ] (engine : Engine) (raw : Document Raw)

theorem normalize_not_fault {s t : σ} {f : Fault} :
    (normalize engine raw : Reporting σ _) s ≠ (.error (.fault f), t) := by
  intro h
  obtain ⟨file, ⟨ds, hplay, -⟩, -⟩ := normalize_yields (σ := σ) engine raw
  have hend := Script.play_apply (⟨ds, .ok file⟩ : Script NormalizedFile) s
  rw [← hplay, h] at hend
  obtain h | ⟨_, h⟩ := hend
  · cases h
  · cases h

theorem normalize_document {s t : σ} {file : NormalizedFile}
    (h : (normalize engine raw : Reporting σ _) s = (.ok file, t)) :
    file.document = normalizedDocument engine raw := by
  obtain ⟨file', ⟨ds, hplay, -⟩, hfile⟩ := normalize_yields (σ := σ) engine raw
  have hend := Script.play_apply (⟨ds, .ok file'⟩ : Script NormalizedFile) s
  rw [← hplay, h] at hend
  obtain h | ⟨_, h⟩ := hend
  · cases h
    exact hfile
  · cases h

theorem normalize_returns :
    Returns (normalize engine raw : Reporting σ _) fun file => file.document.WellFormed := by
  have hlines : ∀ (d : Document Measured) (tabwidth : Nat) (config : Configuration),
      Returns (d.normalizeLines tabwidth : Reporting σ _) fun e =>
        (e.withConfig config).WellFormed := by
    intro d tabwidth config
    refine .after fun lines => .pure ?_
    obtain ⟨hnonempty, hoffsets⟩ := Document.wellFormed_ofLines lines d.config
    exact ⟨hnonempty, hoffsets⟩
  rw [normalize]
  refine .after fun matcher => .after fun preamble => ?_
  simp only
  split
  · exact (hlines _ _ _).bind fun _ h => .pure h
  · exact .after fun tabwidth => (hlines _ _ _).bind fun _ h => .pure h

theorem normalizedDocument_wellFormed : (normalizedDocument engine raw).WellFormed := by
  obtain ⟨file, hyields, hfile⟩ := normalize_yields (σ := Collector) engine raw
  obtain ⟨ds, hrun, -⟩ := hyields.plain fun d h => h.mild
  rw [← hfile]
  exact normalize_returns engine raw _ _ _ hrun

end

namespace Expansion

/-! ## What the loop keeps -/

/-- The document that the loop is at. -/
def Phase.document : Phase → Document Normalized
  | .scanning d => d
  | .replacing r => r.document
  | .done d => d

/-- The document at hand is well-formed and has the given configuration, and a directive at work
stands for one that works on the text of it. -/
def Phase.Sound (config : Configuration) : Phase → Prop
  | .scanning d => d.WellFormed ∧ d.config = config
  | .replacing r => ∃ t, Represents config r t
  | .done d => d.WellFormed ∧ d.config = config

namespace Loop

section
variable {σ : Type} [Sink σ] {engine : Engine} {limits : Limits} {total : Nat}
  {config : Configuration}

theorem afterScan_sound {d : Document Normalized} (hd : d.WellFormed) (hc : d.config = config)
    (record : List Work) {found : Scan} {t : Rewriting.Scan} (hfound : SameScan config found t) :
    Returns (afterScan total d record found : Reporting σ _) fun l => l.phase.Sound config := by
  cases hfound with
  | finished => exact .pure ⟨hd, hc⟩
  | skipped he hec =>
    simp only [afterScan, afterScan.go]
    split
    · exact .after fun _ => .pure ⟨he, hec⟩
    · exact .pure ⟨he, hec⟩
  | @found r t h =>
    simp only [afterScan, afterScan.go]
    split
    · exact .after fun _ => .pure ⟨h.wellFormed, h.config⟩
    · exact .pure ⟨t, h⟩

theorem sound_of_turns (hE : engine.InBounds) {a b : Loop × σ} (ha : a.1.phase.Sound config)
    (h : Turns engine limits total a b) : b.1.phase.Sound config := by
  obtain ⟨hdone, hturn⟩ := h
  obtain ⟨⟨phase, record⟩, s⟩ := a
  cases phase with
  | scanning d =>
    obtain ⟨hd, rfl⟩ := ha
    have hscan := scan_alike (σ := σ) (τ := Collector) hE limits hd
    refine hscan.returns.bind (Q := fun l => l.phase.Sound d.config) (fun found hfound => ?_)
      _ _ _ hturn
    obtain ⟨t, hfound⟩ := hfound
    exact afterScan_sound hd rfl record hfound
  | replacing r =>
    obtain ⟨t, ht⟩ := ha
    have hstep := ht.step_alike (σ := σ) (τ := Collector) (F := False)
    refine hstep.returns.bind (Q := fun l => l.phase.Sound config) (fun step hsame => ?_)
      _ _ _ hturn
    obtain ⟨_, hsame⟩ := hsame
    cases hsame with
    | replaced hnext => exact .pure ⟨_, hnext⟩
    | ended hd hc => exact .pure ⟨hd, hc⟩
  | done d => cases hdone

theorem sound_of_reaches (hE : engine.InBounds) {a b : Loop × σ} (ha : a.1.phase.Sound config)
    (h : Reaches engine limits total a b) : b.1.phase.Sound config := by
  induction h with
  | refl => exact ha
  | tail _ hturn ih => exact sound_of_turns hE ih hturn

/-! ## The one fault -/

/-- A directive that is found in the empty text ends the loop. -/
theorem turn_empty {d : Document Normalized} (hd : d.WellFormed) (hempty : d.text = "")
    (hfinds : Rewriting.FindsInEmpty engine d.config.marker) (record : List Work) (s : σ) :
    (⟨.scanning d, record⟩ : Loop).turn engine limits total s = (.error (.fault .line), s) := by
  obtain ⟨find, m, hfind, hm⟩ := hfinds
  have hmatcher : engine.directive d.config replaceDirective = .ok find := hfind
  have hscan : (scan engine limits d : Reporting σ _) = throw (.fault .line) := by
    rw [scan, hmatcher]
    simp only [hempty, hm, takeOut, positionAt_empty (hd.isEmpty_iff.2 hempty)]
    rfl
  exact run_bind_error (congrFun hscan s)

theorem afterScan_not_fault (d : Document Normalized) (record : List Work) (found : Scan) {s t : σ}
    {f : Fault} : (afterScan total d record found : Reporting σ _) s ≠ (.error (.fault f), t) := by
  have hgo : ∀ document text next,
      (afterScan.go total record document text next : Reporting σ _) s ≠
        (.error (.fault f), t) := by
    intro document text next h
    rw [afterScan.go] at h
    split at h
    · obtain h | ⟨_, _, _, h⟩ := run_bind_fault h
      · exact report_not_fault h
      · cases h
    · cases h
  cases found with
  | finished =>
    intro h
    cases h
  | skipped document => exact hgo _ _ _
  | found r => exact hgo _ _ _

theorem turn_fault (hE : engine.InBounds) {l : Loop} (hl : l.phase.Sound config) {s t : σ}
    {f : Fault} (h : l.turn engine limits total s = (.error (.fault f), t)) :
    f = .line ∧ t = s ∧ Rewriting.FindsInEmpty engine config.marker ∧
      ∃ d, l.phase = .scanning d ∧ d.text = "" := by
  obtain ⟨phase, record⟩ := l
  cases phase with
  | scanning d =>
    obtain ⟨hd, rfl⟩ := hl
    obtain hscan | ⟨found, s', -, hafter⟩ := run_bind_fault h
    · -- the scan plays the script of the scan of the text, and that has no other fault
      have halike := scan_alike_of (σ := σ) (τ := Collector) hE limits hd And.intro
      obtain ⟨rfl, hempty, hfinds⟩ := halike.fault_of_run hscan
      rw [turn_empty hd hempty hfinds] at h
      cases h
      exact ⟨rfl, rfl, hfinds, d, rfl, hempty⟩
    · exact absurd hafter (afterScan_not_fault d record found)
  | replacing r =>
    obtain ⟨t', ht⟩ := hl
    obtain hstep | ⟨step, s', -, hnext⟩ := run_bind_fault h
    · exact (ht.step_alike (τ := Collector) (F := False)).fault_of_run hstep |>.2.elim
    · cases step <;> cases hnext
  | done d => cases h

/-! ## One run -/

theorem turns_unique {a b c : Loop × σ} (h : Turns engine limits total a b)
    (h' : Turns engine limits total a c) : b = c := by
  obtain ⟨b, t⟩ := b
  obtain ⟨c, u⟩ := c
  cases h.2.symm.trans h'.2
  rfl

theorem Ends.not_turns {a b : Loop × σ} {out : Except Halt (Document Normalized) × σ}
    (h : Ends engine limits total a out) : ¬ Turns engine limits total a b := by
  rintro ⟨hdone, hturn⟩
  cases h with
  | done => cases hdone
  | halted hhalt =>
    rw [hhalt] at hturn
    cases hturn

theorem Ends.unique {a : Loop × σ} {out out' : Except Halt (Document Normalized) × σ}
    (h : Ends engine limits total a out) (h' : Ends engine limits total a out') : out = out' := by
  cases h with
  | done =>
    cases h' with
    | done => rfl
    | halted hhalt => cases hhalt
  | halted hhalt =>
    cases h' with
    | done => cases hhalt
    | halted hhalt' => cases hhalt.symm.trans hhalt'; rfl

/-- Where the loop can end is where it ends. -/
theorem Runs.eq_of_ends {a b : Loop × σ} {out out' : Except Halt (Document Normalized) × σ}
    (h : Runs engine limits total a out) (hreach : Reaches engine limits total a b)
    (hends : Ends engine limits total b out') : out = out' := by
  obtain ⟨c, hc, hcends⟩ := h
  have hsame : b = c := by
    have hunique : Relator.RightUnique (Turns (σ := σ) engine limits total) :=
      fun _ _ _ => turns_unique
    -- one of the two places comes first, and no turn leads away from either
    rcases hreach.total_of_right_unique hunique hc with h | h
    · rcases h.cases_head with h | ⟨_, hturn, -⟩
      · exact h
      · exact absurd hturn hends.not_turns
    · rcases h.cases_head with h | ⟨_, hturn, -⟩
      · exact h.symm
      · exact absurd hturn hcends.not_turns
  subst hsame
  exact hcends.unique hends

end

/-! ## Lookups that find what they look for -/

/-- The lookups of the next turn are in range, but for the one that `turn_fault` is about. -/
structure InRange (l : Loop) : Prop where
  /-- A slice of the document fails only where it cuts a character. -/
  slice : ∀ start stop, l.phase.document.sliceByLookup? start stop =
    l.phase.document.slice? start stop
  splice : ∀ start stop replacement, l.phase.document.spliceByLookup? start stop replacement =
    l.phase.document.splice? start stop replacement
  /-- A directive searches from a cut of the text on. -/
  cursor : ∀ r, l.phase = .replacing r → r.text = r.document.text ∧ Text.isCut r.text r.cursor
  /-- What it finds lies between two cuts of the text. -/
  region : ∀ r m, l.phase = .replacing r → r.directive.find r.remainder = .ok (some m) →
    (r.region m).start ≤ (r.region m).stop ∧ Text.isCut r.text (r.region m).start ∧
      Text.isCut r.text (r.region m).stop

theorem wellFormed_of_sound {config : Configuration} {phase : Phase} (h : phase.Sound config) :
    phase.document.WellFormed := by
  cases phase with
  | scanning d => exact h.1
  | replacing r =>
    obtain ⟨t, ht⟩ := h
    exact ht.wellFormed
  | done d => exact h.1

theorem inRange_of_sound {config : Configuration} {l : Loop} (h : l.phase.Sound config) :
    l.InRange where
  slice := (wellFormed_of_sound h).sliceByLookup?_eq
  splice := (wellFormed_of_sound h).spliceByLookup?_eq
  cursor r hr := by
    rw [hr] at h
    obtain ⟨t, ht⟩ := h
    exact ⟨ht.document, Text.isCut_iff.2 ⟨t.settled, t.remainder, ht.text, ht.cursor.symm⟩⟩
  region r m hr hm := by
    rw [hr] at h
    obtain ⟨t, ht⟩ := h
    rw [ht.remainder, ht.find] at hm
    obtain ⟨a, b, c, hrest, hstart, hstop⟩ := ht.inBounds _ _ hm
    have htext : r.text = t.settled ++ a ++ b ++ c := by
      rw [ht.text, Rewriting.text, hrest]
      simp only [String.append_assoc]
    have hstart' : (r.region m).start = Text.size (t.settled ++ a) := by
      rw [Substitution.region, ht.cursor, hstart, Text.size_append]
    have hstop' : (r.region m).stop = Text.size (t.settled ++ a ++ b) := by
      rw [Substitution.region, ht.cursor, hstop, String.append_assoc, Text.size_append t.settled]
    refine ⟨?_, ?_, ?_⟩
    · rw [hstart', hstop', Text.size_append (t.settled ++ a)]
      exact Nat.le_add_right _ _
    · exact Text.isCut_iff.2 ⟨_, b ++ c, by rw [htext, String.append_assoc], hstart'.symm⟩
    · exact Text.isCut_iff.2 ⟨_, c, htext, hstop'.symm⟩

end Loop

end Expansion

/-! ## From a text to its expansion -/

/-- Read a text, normalize it and expand its replace directives. -/
def expandText {σ : Type} [Sink σ] (engine : Engine) (limits : Limits) (source : Path)
    (content : String) (config : Configuration) : Reporting σ (Document Normalized) := do
  let file ← normalize engine (.read source content config)
  expand engine limits file.document

/-- The only fault of a run is a directive that is found in the empty text. Everything else is in
range: the preamble is cut off at an offset of the document that was read, and wherever the loop
comes, the lookups of its next turn find what they look for. -/
theorem expandText_fault_iff {engine : Engine} (hE : engine.InBounds) (limits : Limits)
    (source : Path) (content : String) (config : Configuration) {σ : Type} [Sink σ] (s : σ) :
    let raw := Document.read source content config
    let d := normalizedDocument engine raw
    let reaches := Expansion.Loop.Reaches (σ := σ) engine limits (limits.directivesIn d)
    (∀ f t, expandText engine limits source content config s = (.error (.fault f), t) ↔
      f = .line ∧ Rewriting.FindsInEmpty engine d.config.marker ∧
        ∃ file s' l e, normalize engine raw s = (.ok file, s') ∧ reaches (.start d, s') (l, t) ∧
          l.phase = .scanning e ∧ e.text = "") ∧
    (∀ matcher config' lines s' t,
      (Normalization.readPreamble engine raw.lines config matcher : Reporting σ _) s' =
          (.ok (config', lines), t) →
        ∃ n offset : Nat, raw.offsets[n]? = some offset ∧
          raw.sliceByLookup? offset raw.size = some (.ofLines lines config)) ∧
    ∀ s' l t, reaches (.start d, s') (l, t) → l.InRange := by
  intro raw d reaches
  have hraw : raw.WellFormed := Document.wellFormed_ofLines _ _
  have hstart : (Expansion.Loop.start d).phase.Sound d.config :=
    ⟨normalizedDocument_wellFormed engine raw, rfl⟩
  have hsound : ∀ s' l t, reaches (.start d, s') (l, t) → l.phase.Sound d.config :=
    fun s' l t => Expansion.Loop.sound_of_reaches (a := (.start d, s')) hE hstart
  have hruns : ∀ s' : σ, Expansion.Loop.Runs engine limits (limits.directivesIn d) (.start d, s')
      (Expansion.expandWithin engine limits (limits.directivesIn d) (limits.directivesIn d) d s') :=
    fun s' => Expansion.Loop.expandWithin_runs (Nat.zero_add _)
  refine ⟨fun f t => ⟨fun h => ?_, ?_⟩, ?_, ?_⟩
  · obtain hnormalize | ⟨file, s', hnormalize, hexpand⟩ := run_bind_fault h
    · exact absurd hnormalize (normalize_not_fault engine raw)
    · rw [normalize_document engine raw hnormalize] at hexpand
      obtain ⟨⟨l, u⟩, hreach, hends⟩ := hruns s'
      rw [show Expansion.expandWithin engine limits _ _ d s' = _ from hexpand] at hends
      cases hends with
      | halted hhalt =>
        obtain ⟨rfl, rfl, hfinds, e, hphase, hempty⟩ :=
          Expansion.Loop.turn_fault hE (hsound _ _ _ hreach) hhalt
        exact ⟨rfl, hfinds, file, s', l, e, hnormalize, hreach, hphase, hempty⟩
  · rintro ⟨rfl, hfinds, file, s', ⟨phase, record⟩, e, hnormalize, hreach, rfl, hempty⟩
    obtain ⟨he, hc⟩ : e.WellFormed ∧ e.config = d.config := hsound _ _ _ hreach
    rw [← hc] at hfinds
    -- there is one run from each place, so it ends where it is known to
    have hend := (hruns s').eq_of_ends hreach
      (.halted (Expansion.Loop.turn_empty he hempty hfinds _ _))
    rw [expandText, run_bind_ok hnormalize, normalize_document engine raw hnormalize]
    exact hend
  · intro matcher config' lines s' t h
    obtain ⟨n, hn, rfl⟩ := readPreamble_returns engine raw.lines config matcher s' _ t h
    obtain ⟨offset, hoffset, hslice⟩ := hraw.dropLines hn
    exact ⟨n, offset, hoffset, hslice⟩
  · intro s' l t hreach
    exact Expansion.Loop.inRange_of_sound (hsound _ _ _ hreach)

/-- The marker ends in a bar, so the pattern of directives is "nothing, or a directive". -/
theorem findsInEmpty_bar : Rewriting.FindsInEmpty Engine.standard.checked "|" := by
  have h : (((Rewriting.directiveMatcher Engine.standard.checked "|").toOption.bind
      fun find => (find "").toOption).join).isSome = true := by decide +kernel
  rcases hfind : Rewriting.directiveMatcher Engine.standard.checked "|" with failure | find
  · rw [hfind] at h
    cases h
  · rw [hfind] at h
    rcases hm : find "" with failure | - | m
    · simp [Except.toOption, hm] at h
    · simp [Except.toOption, hm] at h
    · exact ⟨find, m, hfind, hm⟩

/-- Nothing at all is an input for it. -/
theorem expandText_fault_iff_bar :
    (expandText Engine.standard.checked {} ⟨"a"⟩ "" { markerValue := some "|" }
      (Collector.plain [])).1 = .error (.fault .line) := by
  let raw := Document.read ⟨"a"⟩ "" { markerValue := some "|" }
  obtain ⟨file, hyields, -⟩ := normalize_yields (σ := Collector) Engine.standard.checked raw
  obtain ⟨ds, hrun, -⟩ := hyields.plain fun d h => h.mild
  have hmarker : (normalizedDocument Engine.standard.checked raw).config.marker = "|" := by
    decide +kernel
  have hempty : (normalizedDocument Engine.standard.checked raw).text = "" := by decide +kernel
  have hfault := (expandText_fault_iff Engine.standard.checked_inBounds {} ⟨"a"⟩ ""
    { markerValue := some "|" } (Collector.plain [])).1 .line (.plain ds)
  have hfinds := findsInEmpty_bar
  rw [← hmarker] at hfinds
  exact congrArg Prod.fst
    (hfault.2 ⟨rfl, hfinds, file, .plain ds, .start _, _, hrun, .refl, rfl, hempty⟩)

end SourcePrep
