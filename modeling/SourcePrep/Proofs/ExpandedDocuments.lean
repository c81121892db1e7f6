import SourcePrep.Proofs.EarlyStop
import SourcePrep.Proofs.ExpansionLoop
import SourcePrep.Proofs.PreparedPatterns

/-!
# Expanding what was expanded

Expansion ends when a scan finds no directive. Whatever the directives did on the way, the document
that the last scan looked at is the one given back, so another scan of it finds nothing either, and
expanding it again changes nothing. Only a run that found more directives than it may expand ends
otherwise, and it reports so.

* `Exhausted`: the document has no directive, as far as a scan can tell.
* `Exhausted.expandWithin_play`: such a document is expanded to itself.
* `expandWithin_ends`: a run ends in such a document, or with a report about too many directives.
* `expand_fixed`: what follows for `expand`, for every engine, document and limits.
-/

set_option autoImplicit false

namespace SourcePrep

/-- The report that there are more directives than a document may expand. -/
structure Diagnostic.ReportsExcess (x : Diagnostic) (total : Nat) : Prop where
  kind : x.kind = .nonTerminatingReplacement
  message : x.message = s!"More than {total} replace directives; the rest are left unexpanded"

/-- What a plain collector holds after a run is what it held before and what was reported. -/
theorem Settled.plain_grows {α : Type} {x : Reporting Collector α} (h : Settled x x)
    {ds : List Diagnostic} {result : Except Halt α} {t : Collector}
    (hrun : x (.plain ds) = (result, t)) : ∃ es, t = .plain (ds ++ es) := by
  obtain ⟨script, rfl, -, hmild⟩ := h.sameScript
  rw [Script.play_plain script hmild] at hrun
  obtain ⟨-, rfl⟩ := Prod.mk.inj hrun
  exact ⟨script.reports, rfl⟩

theorem Document.config_splice? {κ : Type} [LineKind κ] {d new e : Document κ} {start stop : Nat}
    (h : d.splice? start stop new = some e) : e.config = d.config := by
  unfold splice? at h
  split at h
  · cases h
    rfl
  · cases h

/-- Expansion goes on under the configuration that it started with. -/
theorem Document.kept_config {σ : Type} [Sink σ] : Document.Kept σ (·.config = ·.config) where
  refl _ := rfl
  trans later earlier := later.trans earlier
  replaced _ _ := config_splice?
  removed := config_splice?

namespace Expansion

/-! ## Documents without a directive -/

/-- No directive is found: the marker is no pattern, or matching fails, or nothing matches. -/
def Exhausted (engine : Engine) (d : Document Normalized) : Prop :=
  ∀ find, engine.directive d.config replaceDirective = .ok find →
    (∃ failure, find d.text = .error failure) ∨ find d.text = .ok none

/-- What a scan reports about such a document: why matching failed, if it did. -/
def matchFailures (engine : Engine) (d : Document Normalized) : List Diagnostic :=
  match engine.directive d.config replaceDirective with
  | .error _ => []
  | .ok find =>
    match find d.text with
    | .error failure => [.ofKind .patternExecutionError failure.message d.origin]
    | .ok _ => []

theorem matchFailures_mild (engine : Engine) (d : Document Normalized) :
    ∀ x ∈ matchFailures engine d, x.severity < .fatal := by
  intro x hx
  unfold matchFailures at hx
  split at hx
  · cases hx
  · split at hx
    · rw [List.mem_singleton.1 hx]
      exact high_lt_fatal
    · cases hx

section
variable {σ : Type} [Sink σ] {engine : Engine} {limits : Limits} {d : Document Normalized}

theorem Exhausted.scan_play (h : Exhausted engine d) :
    (scan engine limits d : Reporting σ _) =
      (⟨matchFailures engine d, .ok .finished⟩ : Script _).play := by
  unfold scan matchFailures
  cases hfind : engine.directive d.config replaceDirective with
  | error failure => rfl
  | ok find =>
    rcases h find hfind with ⟨failure, hfails⟩ | hnone
    · simp only [hfails]
      rw [Script.play_cons]
      rfl
    · simp only [hnone]
      rfl

/-- A document without a directive is expanded to itself. -/
theorem Exhausted.expandWithin_play (h : Exhausted engine d) (total left : Nat) :
    (expandWithin engine limits total left d : Reporting σ _) =
      (⟨matchFailures engine d, .ok d⟩ : Script _).play := by
  cases left with
  | zero =>
    unfold expandWithin
    rw [h.scan_play, Script.play_ok_bind]
    rfl
  | succ left =>
    unfold expandWithin
    rw [h.scan_play, Script.play_ok_bind]
    rfl

/-- A scan that finds no directive tells that there is none. -/
theorem scan_exhausted : Returns (scan engine limits d : Reporting σ _) fun found =>
    found.document? = none → Exhausted engine d := by
  unfold scan
  cases hfind : engine.directive d.config replaceDirective with
  | error failure =>
    apply Returns.pure
    intro _ find hfind'
    rw [hfind] at hfind'
    cases hfind'
  | ok find =>
    have hexhausted : (∃ failure, find d.text = .error failure) ∨ find d.text = .ok none →
        Exhausted engine d := by
      intro h find' hfind'
      rw [hfind] at hfind'
      cases hfind'
      exact h
    simp only
    cases hfound : find d.text with
    | error failure => exact .after fun _ => .pure fun _ => hexhausted (.inl ⟨failure, hfound⟩)
    | ok found =>
      cases found with
      | none => exact .pure fun _ => hexhausted (.inr hfound)
      | some m =>
        simp only
        unfold takeOut
        refine .after fun position => .after fun document => .after fun text => ?_
        cases engine.compile ((m.named? "pattern").getD "") { extended := true } with
        | error failure => exact .after fun _ => .pure fun hnone => by cases hnone
        | ok find => exact .pure fun hnone => by cases hnone

end

/-! ## How a run ends -/

/-- A run ended in a document without a directive, or with the report that there are too many. The
collector had some diagnostics before the run. -/
def Ended (engine : Engine) (total : Nat) (ds : List Diagnostic) (out : Document Normalized)
    (t : Collector) : Prop :=
  ∃ es, t = .plain (ds ++ es) ∧ (Exhausted engine out ∨ ∃ x ∈ es, x.ReportsExcess total)

theorem Ended.of_later {engine : Engine} {total : Nat} {ds es : List Diagnostic}
    {out : Document Normalized} {t : Collector} (h : Ended engine total (ds ++ es) out t) :
    Ended engine total ds out t := by
  obtain ⟨later, rfl, hends⟩ := h
  refine ⟨es ++ later, by rw [List.append_assoc], ?_⟩
  apply hends.imp_right
  intro ⟨x, hx, hexcess⟩
  exact ⟨x, List.mem_append_right es hx, hexcess⟩

theorem ended_of_excess {engine : Engine} {total : Nat} {ds : List Diagnostic} {x : Diagnostic}
    (hexcess : x.ReportsExcess total) (hmild : x.severity < .fatal)
    {document out : Document Normalized} {t : Collector}
    (h : (report x >>= fun _ => pure document : Reporting Collector _) (.plain ds) = (.ok out, t)) :
    Ended engine total ds out t := by
  have hreport : (report x >>= fun _ => pure document : Reporting Collector _) =
      (⟨[x], .ok document⟩ : Script _).play := (Script.play_cons x [] (.ok document)).symm
  rw [hreport, Script.play_plain _ (by simpa using hmild)] at h
  obtain ⟨-, rfl⟩ := Prod.mk.inj h
  exact ⟨[x], rfl, .inr ⟨x, List.mem_singleton_self x, hexcess⟩⟩

/-- By induction on what is left of the limit: each turn but the last goes on from a document that
was scanned or settled, and only adds to the reports. -/
theorem expandWithin_ends {engine : Engine} {limits : Limits} {total left : Nat}
    {d out : Document Normalized} {ds : List Diagnostic} {t : Collector}
    (h : expandWithin engine limits total left d (.plain ds) = (.ok out, t)) :
    Ended engine total ds out t := by
  induction left generalizing d ds with
  | zero =>
    unfold expandWithin at h
    obtain ⟨found, s, hscan, hrest⟩ := run_bind_result h
    obtain ⟨scanned, rfl⟩ := (scan_settled engine limits d).plain_grows hscan
    have hnone := scan_exhausted _ _ _ hscan
    cases hdocument : found.document? with
    | none =>
      simp only [hdocument] at hrest
      cases hrest
      exact ⟨scanned, rfl, .inl (hnone hdocument)⟩
    | some document =>
      simp only [hdocument] at hrest
      exact (ended_of_excess ⟨rfl, rfl⟩ high_lt_fatal hrest).of_later
  | succ left ih =>
    unfold expandWithin at h
    obtain ⟨found, s, hscan, hrest⟩ := run_bind_result h
    obtain ⟨scanned, rfl⟩ := (scan_settled engine limits d).plain_grows hscan
    have hnone := scan_exhausted _ _ _ hscan
    cases found with
    | finished =>
      cases hrest
      exact ⟨scanned, rfl, .inl (hnone rfl)⟩
    | skipped document => exact (ih hrest).of_later
    | found r =>
      obtain ⟨document, s, hsettle, hrest⟩ := run_bind_result hrest
      obtain ⟨settled, rfl⟩ := (settleWithin_settled _ r).plain_grows hsettle
      exact (ih hrest).of_later.of_later

end Expansion

/-- What expansion gives back is expanded to itself, and no directive is found in it. Nothing is
said of a run that reports too many directives, since these are left. -/
theorem expand_fixed (engine : Engine) (limits : Limits) {d out : Document Normalized}
    {ds : List Diagnostic} {t : Collector}
    (h : expand engine limits d (.plain ds) = (.ok out, t)) :
    out.config = d.config ∧ ∃ es, t = .plain (ds ++ es) ∧
      ((∀ x ∈ es, ¬ x.ReportsExcess (limits.directivesIn d)) →
        (∀ es', expand engine limits out (Collector.plain es') =
          (.ok out, .plain (es' ++ Expansion.matchFailures engine out))) ∧
        ∀ find, engine.directive out.config replaceDirective = .ok find →
          (∃ failure, find out.text = .error failure) ∨ find out.text = .ok none) := by
  have hconfig := Document.kept_config.expandWithin engine limits _ _ d _ out t h
  obtain ⟨es, ht, hends⟩ := Expansion.expandWithin_ends h
  refine ⟨hconfig, es, ht, ?_⟩
  intro hquiet
  have hexhausted : Expansion.Exhausted engine out := by
    rcases hends with hexhausted | ⟨x, hx, hexcess⟩
    · exact hexhausted
    · exact absurd hexcess (hquiet x hx)
  refine ⟨?_, hexhausted⟩
  intro es'
  unfold expand
  rw [hexhausted.expandWithin_play,
    Script.play_plain _ (Expansion.matchFailures_mild engine out)]
  rfl

/-- A directive that writes another one. -/
def directiveWriter : Document Normalized :=
  .ofLines [⟨⟨⟨"a"⟩, 1⟩, ⟨0, "replace m(\\w)\n"⟩⟩, ⟨⟨⟨"a"⟩, 2⟩, ⟨1, "replacelit $1\\n\\tz\n"⟩⟩,
    ⟨⟨⟨"a"⟩, 3⟩, ⟨0, "mb\n"⟩⟩, ⟨⟨⟨"a"⟩, 4⟩, ⟨0, "abc\n"⟩⟩] {}

/-- Both directives are gone, and what the second one replaces is. -/
theorem expand_fixed_directiveWriter :
    ∃ out t, expand .standard {} directiveWriter (Collector.plain []) = (.ok out, t) ∧
      out.text = "azc\n" ∧
      expand .standard {} out (Collector.plain []) =
        (.ok out, .plain (Expansion.matchFailures .standard out)) ∧
      ∃ find, Engine.standard.directive out.config replaceDirective = .ok find ∧
        ((∃ failure, find out.text = .error failure) ∨ find out.text = .ok none) := by
  have hboth : Prod.map (·.toOption.map (·.text)) (·.diagnostics.length)
      (expand .standard {} directiveWriter (Collector.plain [])) = (some "azc\n", 0) := by
    rw [← Engine.prepared_eq]
    decide +kernel
  have hmatcher :
      (Engine.standard.directive directiveWriter.config replaceDirective).isOk = true := by
    rw [← Engine.prepared_eq]
    decide +kernel
  rcases hrun : expand .standard {} directiveWriter (Collector.plain []) with ⟨e | out, t⟩
  · rw [hrun] at hboth
    cases hboth
  · rw [hrun] at hboth
    obtain ⟨hout, hreports⟩ := Prod.mk.inj hboth
    obtain ⟨hconfig, es, rfl, hfixed⟩ := expand_fixed .standard {} hrun
    obtain rfl : es = [] := List.eq_nil_of_length_eq_zero hreports
    obtain ⟨hagain, hnone⟩ := hfixed (by simp)
    rw [← hconfig] at hmatcher
    cases hfind : Engine.standard.directive out.config replaceDirective with
    | error failure =>
      rw [hfind] at hmatcher
      cases hmatcher
    | ok find =>
      exact ⟨out, _, rfl, Option.some.inj hout, hagain [], find, hfind, hnone find hfind⟩

end SourcePrep
