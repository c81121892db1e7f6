import SourcePrep.CommandLine.Run
import SourcePrep.Proofs.EarlyStop
import SourcePrep.Proofs.WrittenReports

/-!
# What a writer answers

How diagnostics are written, and which of them, is no matter of the run that reports them: a writer
with a working device answers as a collector with the same threshold does. Its text is the batch of
what is shown, whether that was written piece by piece or kept for the end.

* `finish_emitAll`: the text in the end, for streamed and for batched formats.
* `worst_emitAll_iff`: the gravest severity counts what is not shown as well.
* `play_emitAll`: a script that is played to a writer and to a collector has one result, and the
  writer is left as if it had been handed what the collector has collected.
* `agrees_with_collector`: what follows for the pipeline, and for a command line that asks for
  another format or for fewer reports.
-/

set_option autoImplicit false

namespace SourcePrep

/-! ## The gravest severity -/

namespace Severity

theorem rank_injective : Function.Injective rank := by
  intro a b
  cases a <;> cases b <;> decide

theorem le_max (a b : Severity) : a ≤ a.max b ∧ b ≤ a.max b := by
  cases a <;> cases b <;> decide

theorem max_eq (a b : Severity) : a.max b = a ∨ a.max b = b := by
  rw [max]
  split
  · exact .inr rfl
  · exact .inl rfl

end Severity

/-- The severity is that of some diagnostic, and none is graver. -/
structure Gravest (ds : List Diagnostic) (s : Severity) : Prop where
  exists_mem : ∃ d ∈ ds, d.severity = s
  le : ∀ d ∈ ds, d.severity ≤ s

theorem Gravest.unique {ds : List Diagnostic} {s t : Severity} (hs : Gravest ds s)
    (ht : Gravest ds t) : s = t := by
  obtain ⟨d, hd, rfl⟩ := hs.exists_mem
  obtain ⟨e, he, rfl⟩ := ht.exists_mem
  exact Severity.rank_injective (Nat.le_antisymm (ht.le d hd) (hs.le e he))

theorem Gravest.snoc {ds : List Diagnostic} {s : Severity} (h : Gravest ds s) (d : Diagnostic) :
    Gravest (ds ++ [d]) (s.max d.severity) := by
  obtain ⟨hs, hd⟩ := s.le_max d.severity
  refine ⟨?_, fun e he => ?_⟩
  · rcases s.max_eq d.severity with heq | heq
    · obtain ⟨e, he, hes⟩ := h.exists_mem
      exact ⟨e, List.mem_append_left _ he, hes.trans heq.symm⟩
    · exact ⟨d, by simp, heq.symm⟩
  · rcases List.mem_append.1 he with he | he
    · exact Nat.le_trans (h.le e he) hs
    · rwa [List.mem_singleton.1 he]

namespace Writer

theorem gravest_worstOf (ds : List Diagnostic) : (worstOf none ds).elim (ds = []) (Gravest ds) := by
  induction ds using List.reverseRecOn with
  | nil => rfl
  | append_singleton ds d ih =>
    have hsnoc : worstOf none (ds ++ [d]) = some (worse (worstOf none ds) d.severity) := by
      rw [worstOf, List.foldl_append, ← worstOf]
      rfl
    rw [hsnoc, Option.elim_some]
    cases hworst : worstOf none ds with
    | none =>
      rw [hworst] at ih
      rw [show ds = [] from ih]
      exact ⟨⟨d, by simp, rfl⟩, fun e he => by rw [List.mem_singleton.1 he]; exact Nat.le_refl _⟩
    | some s =>
      rw [hworst] at ih
      exact Gravest.snoc ih d

theorem worstOf_eq_some_iff {ds : List Diagnostic} {s : Severity} :
    worstOf none ds = some s ↔ Gravest ds s := by
  have hworst := gravest_worstOf ds
  cases h : worstOf none ds with
  | none =>
    rw [h] at hworst
    have hnil : ds = [] := hworst
    refine iff_of_false (by simp) fun hs => ?_
    obtain ⟨d, hd, -⟩ := hs.exists_mem
    simp [hnil] at hd
  | some t =>
    rw [h] at hworst
    rw [Option.some.injEq]
    exact ⟨fun hts => hts ▸ hworst, Gravest.unique hworst⟩

/-! ## The text in the end -/

variable {f : Formatter} {minSeverity : Severity} {stopAt : Option Severity}

theorem lines_eq_batch (hf : f.format.isBatched = false) {ds : List Diagnostic} (h : ds ≠ []) :
    lines f ds = f.batch ds ++ "\n" := by
  have hbatch : f.batch ds = "\n".intercalate (ds.map f.one) := by
    rw [Formatter.batch]
    split
    · rename_i hjson
      rw [hjson] at hf
      cases hf
    · rfl
  rw [hbatch, lines]
  clear hbatch
  induction ds with
  | nil => exact absurd rfl h
  | cons d ds ih =>
    rcases ds with - | ⟨e, ds⟩
    · simp
    · rw [List.map_cons, String.join_cons, ih (by simp)]
      simp [String.intercalate_cons_cons, String.append_assoc]

/-- The text in the end is the batch of what is shown, with a newline behind it. A streamed format
writes nothing when nothing is shown. -/
theorem finish_emitAll (ds : List Diagnostic) :
    ((fresh f minSeverity stopAt).emitAll ds).finish =
      .ok (if shown minSeverity ds = [] ∧ f.format.isBatched = false then ""
        else f.batch (shown minSeverity ds) ++ "\n") := by
  cases hf : f.format.isBatched with
  | true =>
    rw [finish_batched hf]
    simp
  | false =>
    rw [finish_streamed hf]
    split
    · rename_i h
      rw [h.1, lines_nil]
    · rename_i h
      rw [lines_eq_batch hf (by simpa using h)]

/-! ## Answers -/

theorem worst_emitAll (ds : List Diagnostic) :
    ((fresh f minSeverity stopAt).emitAll ds).worst = worstOf none ds := by
  cases hf : f.format.isBatched with
  | false =>
    rw [emitAll_streamed (w := fresh f minSeverity stopAt) hf rfl]
    rfl
  | true =>
    rw [emitAll_batched (w := fresh f minSeverity stopAt) hf]
    rfl

theorem emitAll_snoc (w : Writer) (ds : List Diagnostic) (d : Diagnostic) :
    w.emitAll (ds ++ [d]) = (Sink.emit (w.emitAll ds) d).2 := by
  rw [emitAll, List.foldl_append]
  rfl

/-- What was handed over before has no part in the answer, nor has the format. -/
theorem emit_emitAll (ds : List Diagnostic) (d : Diagnostic) :
    Sink.emit ((fresh f minSeverity stopAt).emitAll ds) d =
      (Answer.ofThreshold stopAt d, (fresh f minSeverity stopAt).emitAll (ds ++ [d])) := by
  rw [emitAll_snoc]
  refine Prod.ext ?_ rfl
  cases hf : f.format.isBatched with
  | false =>
    rw [emitAll_streamed (w := fresh f minSeverity stopAt) hf rfl, emit_streamed (by exact hf) rfl]
    rfl
  | true =>
    rw [emitAll_batched (w := fresh f minSeverity stopAt) hf, emit_batched (by exact hf)]
    rfl

theorem ofThreshold_eq (d : Diagnostic) :
    Answer.ofThreshold stopAt d =
      if ∃ threshold ∈ stopAt, threshold ≤ d.severity then .stop else .proceed := by
  cases stopAt <;> simp [Answer.ofThreshold]

/-! ## Runs -/

/-- A collector with a threshold that has collected some diagnostics. -/
def collector (stopAt : Option Severity) (ds : List Diagnostic) : Collector := ⟨ds.toArray, stopAt⟩

theorem emit_collector (ds : List Diagnostic) (d : Diagnostic) :
    Sink.emit (collector stopAt ds) d =
      (Answer.ofThreshold stopAt d, collector stopAt (ds ++ [d])) := by
  simp [Sink.emit, collector]

/-- A writer and a collector are handed the same diagnostics, and the run ends alike. -/
theorem play_emitAll {α : Type} (f : Formatter) (minSeverity : Severity) (stopAt : Option Severity)
    (s : Script α) (ds : List Diagnostic) :
    ∃ result es, s.play (collector stopAt ds) = (result, collector stopAt es) ∧
      s.play ((fresh f minSeverity stopAt).emitAll ds) =
        (result, (fresh f minSeverity stopAt).emitAll es) := by
  obtain ⟨reports, ending⟩ := s
  -- both answer by the threshold, so they go on or end together, and hold the same diagnostics
  induction reports generalizing ds with
  | nil => exact ⟨Script.outcome ending, ds, Script.play_nil _ _, Script.play_nil _ _⟩
  | cons d reports ih =>
    rw [Script.play_cons_apply, Script.play_cons_apply, report, report, emit_collector,
      emit_emitAll, ofThreshold_eq]
    by_cases hstop : ∃ threshold ∈ stopAt, threshold ≤ d.severity
    · rw [if_pos hstop]
      exact ⟨_, _, rfl, rfl⟩
    · rw [if_neg hstop]
      by_cases hmild : d.severity < .fatal
      · simp only [hmild, if_true]
        exact ih (ds ++ [d])
      · simp only [hmild, if_false]
        exact ⟨_, _, rfl, rfl⟩

/-- Computations that play one script end alike on a writer and on a collector. -/
theorem settled_emitAll {α : Type} {x : Reporting Writer α} {y : Reporting Collector α}
    (h : Settled x y) (f : Formatter) (minSeverity : Severity) (stopAt : Option Severity) :
    x (fresh f minSeverity stopAt) =
      ((y { stopAt }).1, (fresh f minSeverity stopAt).emitAll (y { stopAt }).2.diagnostics) := by
  obtain ⟨s, rfl, rfl, -⟩ := h.sameScript
  obtain ⟨result, ds, hcollector, hwriter⟩ := play_emitAll f minSeverity stopAt s []
  have hstart : (collector stopAt [] : Collector) = { stopAt } := rfl
  have hdiagnostics : (collector stopAt ds).diagnostics = ds := List.toList_toArray
  rw [hstart] at hcollector
  rw [hcollector, hdiagnostics, ← hwriter, emitAll_nil]

end Writer

namespace CommandLine

/-- Two runs that differ in what they report at most. -/
structure SameEffect (r r' : Outcome) : Prop where
  exitCode : r.exitCode = r'.exitCode
  output : r.output = r'.output
  workspace : r.workspace = r'.workspace

section
variable (engine : Engine) (o : Options) (s : Settings) (w : Workspace) (roots : List Path)

theorem deliver_sameEffect (errors errors' : String) (quiet : Bool) (format : Format)
    (documents : List (Document Normalized)) :
    SameEffect (deliver o s w errors roots documents)
      (deliver { o with quiet, format } s w errors' roots documents) := by
  simp only [deliver]
  cases o.outputDir with
  | none => exact ⟨rfl, rfl, rfl⟩
  | some dir =>
    simp only
    split
    · exact ⟨rfl, rfl, rfl⟩
    · exact ⟨rfl, rfl, rfl⟩

/-- What the roots come to, for any sink. -/
def documentsOf {σ : Type} [Sink σ] : Reporting σ (List (Document Normalized)) :=
  if o.noReplace then loadFiles engine w s.searchDirs s.config roots
  else preprocessFiles engine w s.searchDirs s.config roots

theorem documentsOf_settled {σ τ : Type} [Sink σ] [Sink τ] :
    Settled (documentsOf engine o s w roots : Reporting σ _)
      (documentsOf engine o s w roots : Reporting τ _) := by
  rw [documentsOf, documentsOf]
  split
  · exact loadFiles_settled engine w s.searchDirs s.config roots
  · exact preprocessFiles_settled engine w s.searchDirs s.config roots

/-- The ways in which preprocessing ends, by what the roots come to. The reports are left open. -/
inductive Concludes : Except Halt (List (Document Normalized)) → Outcome → Prop
  | delivered (errors : String) (documents : List (Document Normalized)) :
    Concludes (.ok documents) (deliver o s w errors roots documents)
  | aborted (errors : String) (a : Aborted) : Concludes (.error (.aborted a)) ⟨1, "", errors, w⟩
  | fault (errors : String) (f : Fault) : Concludes (.error (.fault f)) ⟨101, "", errors, w⟩

/-- What the roots come to on a collector settles how preprocessing ends. -/
theorem preprocess_concludes :
    Concludes o s w roots (documentsOf engine o s w roots ({ stopAt := o.abortOn } : Collector)).1
      (preprocess engine o s w roots) := by
  have hrun := Writer.settled_emitAll (documentsOf_settled engine o s w roots)
    (.ofFormat o.format false) (if o.quiet then .high else .debug) o.abortOn
  generalize documentsOf engine o s w roots ({ stopAt := o.abortOn } : Collector) = collected at *
  obtain ⟨result, collector⟩ := collected
  obtain ⟨errors, hfinish⟩ : ∃ errors, ((Writer.fresh (.ofFormat o.format false)
      (if o.quiet then .high else .debug) o.abortOn).emitAll collector.diagnostics).finish =
      .ok errors := ⟨_, Writer.finish_emitAll _⟩
  simp only [documentsOf, Writer.fresh] at hrun hfinish
  simp only [preprocess, hrun, hfinish]
  rcases result with (a | f) | documents
  · exact .aborted _ a
  · exact .fault _ f
  · exact .delivered _ documents

theorem preprocess_sameEffect (quiet : Bool) (format : Format) :
    SameEffect (preprocess engine o s w roots)
      (preprocess engine { o with quiet, format } s w roots) := by
  have h := preprocess_concludes engine o s w roots
  have h' := preprocess_concludes engine { o with quiet, format } s w roots
  have hsame : documentsOf engine { o with quiet, format } s w roots
      ({ stopAt := o.abortOn } : Collector) =
      documentsOf engine o s w roots ({ stopAt := o.abortOn } : Collector) := rfl
  rw [hsame] at h'
  generalize (documentsOf engine o s w roots ({ stopAt := o.abortOn } : Collector)).1 = result
    at h h'
  generalize preprocess engine o s w roots = r at h ⊢
  generalize preprocess engine { o with quiet, format } s w roots = r' at h' ⊢
  cases h with
  | delivered errors documents =>
    cases h' with
    | delivered errors' =>
      exact deliver_sameEffect o s w roots errors errors' quiet format documents
  | aborted => cases h'; exact ⟨rfl, rfl, rfl⟩
  | fault => cases h'; exact ⟨rfl, rfl, rfl⟩

theorem runOptions_sameEffect (quiet : Bool) (format : Format) :
    SameEffect (runOptions engine o w) (runOptions engine { o with quiet, format } w) := by
  have hprepare : prepare { o with quiet, format } w = prepare o w := rfl
  rw [runOptions, runOptions, hprepare]
  split
  · exact ⟨rfl, rfl, rfl⟩
  · exact ⟨rfl, rfl, rfl⟩
  · exact preprocess_sameEffect engine o _ w _ quiet format

end

end CommandLine

namespace Writer

/-- What a writer with a working device has written in the end is the batch of the diagnostics that
are grave enough to be shown. It counts these, remembers the gravest severity of all, and answers by
its threshold alone, as a collector with that threshold does. So the pipeline gives on a writer what
it gives on that collector, and hands it the same diagnostics, and a command line that asks for
another format or for fewer reports has the same effect. -/
theorem agrees_with_collector (f : Formatter) (minSeverity : Severity) (stopAt : Option Severity) :
    (∀ ds,
      let w := (fresh f minSeverity stopAt).emitAll ds
      let shown := ds.filter (minSeverity ≤ ·.severity)
      w.finish = .ok
        (if shown = [] ∧ f.format.isBatched = false then "" else f.batch shown ++ "\n") ∧
      w.written = shown.length ∧
      (∀ s, w.worst = some s ↔ Gravest ds s) ∧
      ∀ d, (Sink.emit w d).1 =
          (if ∃ threshold ∈ stopAt, threshold ≤ d.severity then .stop else .proceed) ∧
        ∀ collected, (Sink.emit (⟨collected, stopAt⟩ : Collector) d).1 = (Sink.emit w d).1) ∧
    (∀ engine w searchDirs config roots,
      let collected := preprocessFiles engine w searchDirs config roots ({ stopAt } : Collector)
      preprocessFiles engine w searchDirs config roots (fresh f minSeverity stopAt) =
        (collected.1, (fresh f minSeverity stopAt).emitAll collected.2.diagnostics)) ∧
    ∀ engine (o : Options) w quiet format,
      CommandLine.SameEffect (CommandLine.runOptions engine o w)
        (CommandLine.runOptions engine { o with quiet, format } w) := by
  refine ⟨fun ds => ⟨finish_emitAll ds, written_emitAll_fresh ds, fun s => ?_, fun d => ?_⟩,
    fun engine w searchDirs config roots => ?_, CommandLine.runOptions_sameEffect⟩
  · rw [worst_emitAll, worstOf_eq_some_iff]
  · rw [emit_emitAll]
    exact ⟨ofThreshold_eq d, fun _ => rfl⟩
  · exact settled_emitAll (preprocessFiles_settled engine w searchDirs config roots) f minSeverity
      stopAt

end Writer

end SourcePrep
