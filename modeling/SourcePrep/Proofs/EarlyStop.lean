import SourcePrep.Proofs.Congruences
import SourcePrep.Proofs.PreparedPatterns

/-!
# Stopping a run early

A sink may end a run at any report. `preprocessFiles_earlyStop` says that it cannot change anything
else: what the pipeline reports and gives back is settled before the sink is known.

Every stage of the pipeline plays one script on all kinds of sinks (`Settled`). For expansion the
proofs follow the definitions; for loading it is enough that normalization and the reports do
(`Settled.congruence`).
-/

set_option autoImplicit false

namespace SourcePrep

/-- The severity of nearly every diagnostic lets a run go on. -/
theorem high_lt_fatal : Severity.high < .fatal := by decide

section
variable {σ τ : Type} [Sink σ] [Sink τ]

/-! ## Expansion -/

theorem lineNormalize_settled (tabwidth : Nat) (line : Line Measured) :
    Settled (line.normalize tabwidth : Reporting σ _) (line.normalize tabwidth : Reporting τ _) := by
  refine (lineNormalize_alike ⟨rfl, rfl⟩ tabwidth).mono (fun _ _ h => h.1) (fun _ _ => trivial)
    fun l m h => ?_
  obtain ⟨p, k⟩ := l
  obtain ⟨q, k'⟩ := m
  obtain ⟨rfl, rfl⟩ := h
  rfl

theorem regionLine_settled (d : Document Normalized) (n : Nat) (startsLine : Bool) (i : Nat)
    (piece : String) :
    Settled (d.regionLine n startsLine i piece : Reporting σ _)
      (d.regionLine n startsLine i piece : Reporting τ _) := by
  unfold Document.regionLine
  refine (Settled.orFault _ _).bind fun replaced => ?_
  split
  · exact .pure _
  · exact lineNormalize_settled _ _

theorem regionLines_settled (d : Document Normalized) (n : Nat) (startsLine : Bool) (i : Nat)
    (pieces : List String) :
    Settled (d.regionLines n startsLine i pieces : Reporting σ _)
      (d.regionLines n startsLine i pieces : Reporting τ _) := by
  induction pieces generalizing i with
  | nil => exact .pure _
  | cons piece rest ih =>
    unfold Document.regionLines
    exact (regionLine_settled d n startsLine i piece).bind fun _ => (ih (i + 1)).bind fun _ => .pure _

theorem replaceRegion_settled (d : Document Normalized) (text : String) (startsLine : Bool) :
    Settled (d.replaceRegion text startsLine : Reporting σ _)
      (d.replaceRegion text startsLine : Reporting τ _) := by
  unfold Document.replaceRegion
  split
  · exact .pure _
  · split
    · exact .pure _
    · exact (regionLines_settled d _ startsLine 0 _).bind fun _ => .pure _

theorem stop_settled (r : Substitution) (kind : DiagnosticKind) (message : String)
    (h : kind.severity < .fatal := by decide) :
    Settled (r.stop kind message : Reporting σ _) (r.stop kind message : Reporting τ _) :=
  Settled.bind (.report h) fun _ => .pure _

theorem stopAtEmptyMatch_settled (r : Substitution) (replacement : String) :
    Settled (r.stopAtEmptyMatch replacement : Reporting σ _)
      (r.stopAtEmptyMatch replacement : Reporting τ _) := by
  unfold Substitution.stopAtEmptyMatch
  split
  · exact stop_settled r _ _
  · exact stop_settled r _ _

theorem replace_settled (r : Substitution) (m : Substitution.Region) :
    Settled (r.replace m : Reporting σ _) (r.replace m : Reporting τ _) := by
  unfold Substitution.replace
  split
  · exact stop_settled r _ _
  · refine (Settled.orFault _ _).bind fun old => ?_
    refine (replaceRegion_settled old _ _).bind fun new => ?_
    cases new with
    | error e => exact stop_settled r _ _
    | ok new =>
      refine (Settled.orFault _ _).bind fun document => ?_
      refine (Settled.orFault _ _).bind fun text => ?_
      simp only
      split
      · exact .pure _
      · split
        · exact stop_settled _ _ _
        · exact .pure _

theorem step_settled (r : Substitution) :
    Settled (r.step : Reporting σ _) (r.step : Reporting τ _) := by
  unfold Substitution.step
  cases r.directive.find r.remainder with
  | error failure => exact Settled.bind (.report high_lt_fatal) fun _ => .pure _
  | ok found =>
    cases found with
    | none => exact .pure _
    | some m =>
      simp only
      split
      · exact stopAtEmptyMatch_settled r _
      · exact replace_settled r _

theorem settleWithin_settled (fuel : Nat) (r : Substitution) :
    Settled (r.settleWithin fuel : Reporting σ _) (r.settleWithin fuel : Reporting τ _) := by
  induction fuel generalizing r with
  | zero => exact .pure _
  | succ fuel ih =>
    unfold Substitution.settleWithin
    refine (step_settled r).bind fun step => ?_
    cases step with
    | replaced next => exact ih next
    | ended document => exact .pure _

theorem positionAt_settled (d : Document Normalized) (offset : Nat) :
    Settled (Expansion.positionAt d offset : Reporting σ _)
      (Expansion.positionAt d offset : Reporting τ _) :=
  (Settled.orFault _ _).bind fun _ => .pure _

theorem takeOut_settled (engine : Engine) (limits : Limits) (d : Document Normalized)
    (text : String) (m : Match) :
    Settled (Expansion.takeOut engine limits d text m : Reporting σ _)
      (Expansion.takeOut engine limits d text m : Reporting τ _) := by
  unfold Expansion.takeOut
  refine (positionAt_settled d _).bind fun position => ?_
  refine (Settled.orFault _ _).bind fun document => ?_
  refine (Settled.orFault _ _).bind fun text => ?_
  cases engine.compile ((m.named? "pattern").getD "") { extended := true } with
  | error failure => exact Settled.bind (.report high_lt_fatal) fun _ => .pure _
  | ok find => exact .pure _

theorem scan_settled (engine : Engine) (limits : Limits) (d : Document Normalized) :
    Settled (Expansion.scan engine limits d : Reporting σ _)
      (Expansion.scan engine limits d : Reporting τ _) := by
  unfold Expansion.scan
  cases engine.directive d.config replaceDirective with
  | error failure => exact .pure _
  | ok find =>
    simp only
    cases find d.text with
    | error failure => exact Settled.bind (.report high_lt_fatal) fun _ => .pure _
    | ok found =>
      cases found with
      | none => exact .pure _
      | some m => exact takeOut_settled engine limits d d.text m

theorem expandWithin_settled (engine : Engine) (limits : Limits) (total left : Nat)
    (d : Document Normalized) :
    Settled (Expansion.expandWithin engine limits total left d : Reporting σ _)
      (Expansion.expandWithin engine limits total left d : Reporting τ _) := by
  induction left generalizing d with
  | zero =>
    unfold Expansion.expandWithin
    refine (scan_settled engine limits d).bind fun found => ?_
    cases found.document? with
    | none => exact .pure _
    | some document => exact Settled.bind (.report high_lt_fatal) fun _ => .pure _
  | succ left ih =>
    unfold Expansion.expandWithin
    refine (scan_settled engine limits d).bind fun found => ?_
    cases found with
    | finished => exact .pure _
    | skipped document => exact ih document
    | found r => exact (settleWithin_settled _ r).bind fun document => ih document

theorem expand_settled (engine : Engine) (limits : Limits) (d : Document Normalized) :
    Settled (expand engine limits d : Reporting σ _) (expand engine limits d : Reporting τ _) :=
  expandWithin_settled engine limits _ _ d

end

/-! ## Inclusion -/

theorem Settled.congruence {σ τ : Type} [Sink σ] [Sink τ] (w : Workspace) :
    LoadingCongruence (σ := σ) (τ := τ) w fun _ x y => Settled x y where
  pure := .pure
  bind := .bind
  report h := .report h.mild
  normalize := normalize_settled

section
variable {σ τ : Type} [Sink σ] [Sink τ] (engine : Engine) (w : Workspace) (searchDirs : List Path)

theorem loadFiles_settled (config : Configuration) (roots : List Path) :
    Settled (loadFiles engine w searchDirs config roots : Reporting σ _)
      (loadFiles engine w searchDirs config roots : Reporting τ _) :=
  (Settled.congruence w).loadFiles engine searchDirs config roots

theorem preprocessFiles_settled (config : Configuration) (roots : List Path) :
    Settled (preprocessFiles engine w searchDirs config roots : Reporting σ _)
      (preprocessFiles engine w searchDirs config roots : Reporting τ _) :=
  (loadFiles_settled engine w searchDirs config roots).bind fun _ =>
    (Settled.congruence w).mapM _ fun d => expand_settled engine {} d

end

/-- A sink can do nothing to the pipeline but stop it on the spot: for every tree of files, roots,
search directories and configuration whose plain run meets no fault, the plain run gives documents
and reports, and any other sink hears these reports up to the first one that it does not answer with
"go on". -/
theorem preprocessFiles_earlyStop (engine : Engine) (w : Workspace) (searchDirs : List Path)
    (config : Configuration) (roots : List Path)
    (noFault : ∀ f, (preprocessFiles engine w searchDirs config roots (Collector.plain [])).1 ≠
      .error (.fault f)) :
    ∃ docs ds,
      StopsCleanly (fun _ _ => preprocessFiles engine w searchDirs config roots) docs ds ∧
      ∀ d reason, (Diagnostic.sinkFailure d reason).kind = .diagnosticSinkFailure ∧
        (Diagnostic.sinkFailure d reason).severity = .fatal ∧
        (Diagnostic.sinkFailure d reason).position = d.position := by
  have settled (σ τ : Type) [Sink σ] [Sink τ] :=
    (preprocessFiles_settled (σ := σ) (τ := τ) engine w searchDirs config roots).sameScript
  obtain ⟨s, hcollector, -, hs⟩ := settled Collector Collector
  -- the script is the one that a plain collector sees, whatever the other sink is
  have hrun : ∀ (σ : Type) [Sink σ],
      (preprocessFiles engine w searchDirs config roots : Reporting σ _) = s.play := by
    intro σ _
    obtain ⟨t, hcollector', ht, hmild⟩ := settled Collector σ
    rw [ht, Script.eq_of_play_plain hmild hs (by rw [← hcollector', hcollector])]
  cases hend : s.ending with
  | ok docs => exact ⟨docs, s.reports, .of_script hrun hs hend, fun _ _ => ⟨rfl, rfl, rfl⟩⟩
  | error f =>
    refine absurd ?_ (noFault f)
    rw [hcollector, Script.play_plain s hs, hend]
    rfl

/-- A root that is missing and one indented by a space: the run meets no fault. -/
theorem preprocessFiles_earlyStop_twoRoots :
    ∃ docs ds,
      StopsCleanly
        (fun _ _ => preprocessFiles .standard
          ⟨.directory [("a", .file (.text "x\n y\n"))], ⟨"/"⟩⟩ [] {} [⟨"b"⟩, ⟨"a"⟩]) docs ds ∧
      ∀ d reason, (Diagnostic.sinkFailure d reason).kind = .diagnosticSinkFailure ∧
        (Diagnostic.sinkFailure d reason).severity = .fatal ∧
        (Diagnostic.sinkFailure d reason).position = d.position := by
  refine preprocessFiles_earlyStop .standard
    ⟨.directory [("a", .file (.text "x\n y\n"))], ⟨"/"⟩⟩ [] {} [⟨"b"⟩, ⟨"a"⟩] fun f h => ?_
  have hok : ((preprocessFiles .standard
      ⟨.directory [("a", .file (.text "x\n y\n"))], ⟨"/"⟩⟩ [] {} [⟨"b"⟩, ⟨"a"⟩]
      (Collector.plain [])).1.toOption.isSome) = true := by
    rw [← Engine.prepared_eq]
    decide
  rw [h] at hok
  cases hok

end SourcePrep
