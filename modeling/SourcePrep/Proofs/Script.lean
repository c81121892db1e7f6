import SourcePrep.Sink
import Mathlib.Data.List.Forall2

/-!
# Scripts: what a run reports, whatever the sink answers

A `Script` is the list of diagnostics that a computation has to report and the way it ends when none
of them stops it. `Script.play` performs it on a sink: a report that is not answered with "go on"
ends the run at once.

* `Alike A R x y`: `x` and `y`, which may run on different kinds of sink, each play a script; the
  reports and faults of the two scripts are in accord with `A`, and their results are related by
  `R`. The relation is kept by every way in which computations are put together (`Alike.bind`,
  `Alike.mapM`, ...), so two runs are compared one reporting place at a time.
* `Settled x y`: `x` and `y` play one and the same script, so that nothing they report depends on the
  sink but where it stops.
* `play_plain`: a collector without a threshold receives every report and never stops a script.
* `play_recorder`: any other sink hears the reports of the script up to the first one that it does
  not answer with "go on".
* `StopsCleanly`: what follows for a run that plays one script on every sink.
* `Yields K x a`: `x` plays a script that ends with `a` and reports only what `K` allows.
-/

set_option autoImplicit false

namespace SourcePrep

/-- What a computation reports, and how it ends if no report stops it. -/
structure Script (α : Type) where
  reports : List Diagnostic
  ending : Except Fault α

namespace Script

variable {α β : Type}

/-- The ending of a script as the ending of a run. -/
def finish {σ : Type} : Except Fault α → Reporting σ α
  | .ok a => pure a
  | .error f => throw (.fault f)

/-- Report one diagnostic after the other. -/
def reportAll {σ : Type} [Sink σ] : List Diagnostic → Reporting σ Unit
  | [] => pure ()
  | d :: rest => do
    report d
    reportAll rest

/-- Perform the script. -/
def play {σ : Type} [Sink σ] (s : Script α) : Reporting σ α := do
  reportAll s.reports
  finish s.ending

section
variable {σ : Type} [Sink σ]

theorem reportAll_append (ds es : List Diagnostic) :
    (reportAll (ds ++ es) : Reporting σ Unit) = (do reportAll ds; reportAll es) := by
  induction ds with
  | nil => simp [reportAll]
  | cons d ds ih => simp [reportAll, ih]

/-- After a script that ends well comes what follows it. -/
theorem play_ok_bind (ds : List Diagnostic) (a : α) (f : α → Reporting σ β) :
    ((⟨ds, .ok a⟩ : Script α).play >>= f) = (do reportAll ds; f a) := by
  simp [play, finish]

/-- A script that ends well, and then another one, is one script. -/
theorem play_ok_bind_play {ds es : List Diagnostic} {a : α} {e : Except Fault β}
    {f : α → Reporting σ β} (h : f a = (⟨es, e⟩ : Script β).play) :
    ((⟨ds, .ok a⟩ : Script α).play >>= f) = (⟨ds ++ es, e⟩ : Script β).play := by
  rw [play_ok_bind, h]
  simp [play, reportAll_append]

/-- After a script that ends in a fault nothing is done. -/
theorem play_fault_bind (ds : List Diagnostic) (e : Fault) (f : α → Reporting σ β) :
    ((⟨ds, .error e⟩ : Script α).play >>= f) = (⟨ds, .error e⟩ : Script β).play := by
  have h : (finish (.error e) >>= f : Reporting σ β) = finish (.error e) := rfl
  simp only [play, bind_assoc, h]

theorem play_report (d : Diagnostic) :
    ((⟨[d], .ok ()⟩ : Script Unit).play : Reporting σ Unit) = report d := by
  simp [play, reportAll, finish]

/-- A report that is answered with "go on" leaves the rest of the script to play. -/
theorem play_cons (d : Diagnostic) (ds : List Diagnostic) (e : Except Fault α) :
    ((⟨d :: ds, e⟩ : Script α).play : Reporting σ α) =
      report d >>= fun _ => (⟨ds, e⟩ : Script α).play := by
  simp [play, reportAll]

end

/-! ## Corresponding scripts -/

end Script

/-- What two runs are to have in common. -/
structure Accord where
  /-- The reports that may stand in the same place. -/
  report : Diagnostic → Diagnostic → Prop
  /-- The faults that both may end in. -/
  fault : Fault → Prop

namespace Script

variable {α β : Type}

/-- Endings that correspond: the same fault, or results related by `R`. -/
inductive EndsAlike (A : Accord) (R : α → β → Prop) : Except Fault α → Except Fault β → Prop
  | ok {a : α} {b : β} (h : R a b) : EndsAlike A R (.ok a) (.ok b)
  | fault {f : Fault} (h : A.fault f) : EndsAlike A R (.error f) (.error f)

theorem EndsAlike.mono {A B : Accord} {R S : α → β → Prop} {x : Except Fault α}
    {y : Except Fault β} (h : EndsAlike A R x y) (hfault : ∀ f, A.fault f → B.fault f)
    (hr : ∀ a b, R a b → S a b) : EndsAlike B S x y := by
  cases h with
  | ok hab => exact .ok (hr _ _ hab)
  | fault h => exact .fault (hfault _ h)

/-- Scripts whose reports and endings correspond. -/
structure Rel (A : Accord) (R : α → β → Prop) (s : Script α) (t : Script β) : Prop where
  reports : List.Forall₂ A.report s.reports t.reports
  ending : EndsAlike A R s.ending t.ending

end Script

/-! ## Corresponding computations -/

/-- `x` and `y` play corresponding scripts, with results related by `R`. -/
def Alike {σ τ α β : Type} [Sink σ] [Sink τ] (A : Accord) (R : α → β → Prop) (x : Reporting σ α)
    (y : Reporting τ β) : Prop :=
  ∃ (s : Script α) (t : Script β), x = s.play ∧ y = t.play ∧ s.Rel A R t

namespace Alike

variable {σ τ α β α' β' : Type} [Sink σ] [Sink τ] {A : Accord} {R : α → β → Prop}
  {R' : α' → β' → Prop}

theorem pure {a : α} {b : β} (h : R a b) :
    Alike A R (Pure.pure a : Reporting σ α) (Pure.pure b : Reporting τ β) :=
  ⟨⟨[], .ok a⟩, ⟨[], .ok b⟩, rfl, rfl, .nil, .ok h⟩

theorem fault {f : Fault} (h : A.fault f) :
    Alike A R (throw (.fault f) : Reporting σ α) (throw (.fault f) : Reporting τ β) :=
  ⟨⟨[], .error f⟩, ⟨[], .error f⟩, rfl, rfl, .nil, .fault h⟩

theorem report {d e : Diagnostic} (h : A.report d e) :
    Alike A (fun _ _ => True) (SourcePrep.report d : Reporting σ Unit)
      (SourcePrep.report e : Reporting τ Unit) :=
  ⟨⟨[d], .ok ()⟩, ⟨[e], .ok ()⟩, (Script.play_report d).symm, (Script.play_report e).symm,
    .cons h .nil, .ok trivial⟩

theorem bind {x : Reporting σ α} {y : Reporting τ β} {f : α → Reporting σ α'}
    {g : β → Reporting τ β'} (hx : Alike A R x y)
    (hf : ∀ a b, R a b → Alike A R' (f a) (g b)) : Alike A R' (x >>= f) (y >>= g) := by
  obtain ⟨s, t, rfl, rfl, hr, he⟩ := hx
  obtain ⟨ds, u⟩ := s
  obtain ⟨es, v⟩ := t
  cases he with
  | ok hab =>
    -- only the results that are reached have to be continued alike
    obtain ⟨s, t, hs, ht, h⟩ := hf _ _ hab
    exact ⟨⟨ds ++ s.reports, s.ending⟩, ⟨es ++ t.reports, t.ending⟩, Script.play_ok_bind_play hs,
      Script.play_ok_bind_play ht, List.rel_append hr h.reports, h.ending⟩
  | fault h =>
    exact ⟨⟨ds, .error _⟩, ⟨es, .error _⟩, Script.play_fault_bind ds _ f,
      Script.play_fault_bind es _ g, hr, .fault h⟩

/-- Two steps in a row, the first of which gives nothing to go on. -/
theorem andThen {x : Reporting σ Unit} {y : Reporting τ Unit} {f : Reporting σ α}
    {g : Reporting τ β} (hx : Alike A (fun _ _ => True) x y) (hf : Alike A R f g) :
    Alike A R (do x; f) (do y; g) :=
  hx.bind fun _ _ _ => hf

theorem mono {B : Accord} {S : α → β → Prop} {x : Reporting σ α} {y : Reporting τ β}
    (h : Alike A R x y) (hreport : ∀ d e, A.report d e → B.report d e)
    (hfault : ∀ f, A.fault f → B.fault f) (hr : ∀ a b, R a b → S a b) : Alike B S x y := by
  obtain ⟨s, t, hs, ht, hrep, hend⟩ := h
  exact ⟨s, t, hs, ht, hrep.imp hreport, hend.mono hfault hr⟩

theorem mapM {S : α → β → Prop} {f : α → Reporting σ α'} {g : β → Reporting τ β'} {as : List α}
    {bs : List β} (h : List.Forall₂ S as bs) (hf : ∀ a b, S a b → Alike A R' (f a) (g b)) :
    Alike A (List.Forall₂ R') (as.mapM f) (bs.mapM g) := by
  induction h with
  | nil =>
    simp only [List.mapM_nil]
    exact .pure .nil
  | cons hab _ ih =>
    simp only [List.mapM_cons]
    exact (hf _ _ hab).bind fun _ _ hc => ih.bind fun _ _ hcs => .pure (.cons hc hcs)

end Alike

/-! ## Diagnostics that differ in their position only -/

/-- What a diagnostic says, wherever it points. -/
structure Remark where
  kind : DiagnosticKind
  severity : Severity
  message : String
  cause : Option String
  deriving DecidableEq, Repr

/-- A diagnostic without its position. -/
def Diagnostic.remark (d : Diagnostic) : Remark := ⟨d.kind, d.severity, d.message, d.cause⟩

/-- Two diagnostics that say the same at positions related by `P`, and do not end a run by
themselves. -/
structure Echo (P : Position → Position → Prop) (d e : Diagnostic) : Prop where
  remark : d.remark = e.remark
  position : P d.position e.position
  mild : d.severity < .fatal

namespace Echo

variable {P : Position → Position → Prop}

theorem ofKind {kind : DiagnosticKind} {message : String} {p q : Position} (h : P p q)
    (hk : kind.severity < .fatal := by decide) :
    Echo P (.ofKind kind message p) (.ofKind kind message q) :=
  ⟨rfl, h, hk⟩

theorem withCauses {d e : Diagnostic} (h : Echo P d e) (chain : List String) :
    Echo P (d.withCauses chain) (e.withCauses chain) := by
  obtain ⟨hr, hp, hm⟩ := h
  refine ⟨?_, hp, hm⟩
  simp only [Diagnostic.remark, Remark.mk.injEq] at hr
  simp [Diagnostic.remark, Diagnostic.withCauses, hr]

theorem eq {d e : Diagnostic} (h : Echo Eq d e) : d = e := by
  obtain ⟨hr, hp, -⟩ := h
  obtain ⟨k, s, m, p, c⟩ := d
  obtain ⟨k', s', m', p', c'⟩ := e
  simp only [Diagnostic.remark, Remark.mk.injEq] at hr hp
  simp [hr, hp]

theorem map_remark {ds es : List Diagnostic} (h : List.Forall₂ (Echo P) ds es) :
    ds.map Diagnostic.remark = es.map Diagnostic.remark := by
  induction h with
  | nil => rfl
  | cons hd _ ih => simp [hd.remark, ih]

theorem all_mild {ds es : List Diagnostic} (h : List.Forall₂ (Echo P) ds es) :
    (∀ d ∈ ds, d.severity < .fatal) ∧ ∀ e ∈ es, e.severity < .fatal := by
  induction h with
  | nil => simp
  | @cons d e _ _ hd _ ih =>
    have heq : d.severity = e.severity := congrArg Remark.severity hd.remark
    have he : e.severity < .fatal := heq ▸ hd.mild
    simp only [List.mem_cons, forall_eq_or_imp]
    exact ⟨⟨hd.mild, ih.1⟩, he, ih.2⟩

end Echo

/-- Two runs that report and give back the same. -/
def Accord.exact : Accord := ⟨Echo Eq, fun _ => True⟩

/-- Computations that play one and the same script, in which nothing is fatal. -/
theorem Alike.sameScript {σ τ α : Type} [Sink σ] [Sink τ] {x : Reporting σ α} {y : Reporting τ α}
    (h : Alike .exact Eq x y) :
    ∃ s : Script α, x = s.play ∧ y = s.play ∧ ∀ d ∈ s.reports, d.severity < .fatal := by
  obtain ⟨⟨ds, u⟩, ⟨es, v⟩, hs, ht, hr, he⟩ := h
  have hds : ds = es := by
    have h : List.Forall₂ Eq ds es := hr.imp fun _ _ h => h.eq
    simpa using h
  have huv : u = v := by
    cases he with
    | ok hab => rw [hab]
    | fault f => rfl
  subst hds huv
  exact ⟨⟨ds, u⟩, hs, ht, (Echo.all_mild hr).1⟩

/-- The two computations play one script, in which nothing is fatal. -/
abbrev Settled {σ τ α : Type} [Sink σ] [Sink τ] (x : Reporting σ α) (y : Reporting τ α) : Prop :=
  Alike .exact Eq x y

namespace Settled

variable {σ τ α β : Type} [Sink σ] [Sink τ]

theorem pure (a : α) : Settled (Pure.pure a : Reporting σ α) (Pure.pure a : Reporting τ α) :=
  Alike.pure rfl

theorem bind {x : Reporting σ α} {y : Reporting τ α} {f : α → Reporting σ β}
    {g : α → Reporting τ β} (hx : Settled x y) (hf : ∀ a, Settled (f a) (g a)) :
    Settled (x >>= f) (y >>= g) :=
  Alike.bind hx fun a _ h => h ▸ hf a

theorem report {d : Diagnostic} (h : d.severity < .fatal) :
    Settled (SourcePrep.report d : Reporting σ Unit) (SourcePrep.report d : Reporting τ Unit) :=
  (Alike.report (A := Accord.exact) ⟨rfl, rfl, h⟩).mono (fun _ _ h => h) (fun _ h => h)
    fun _ _ _ => rfl

theorem orFault (f : Fault) (a : Option α) :
    Settled (SourcePrep.orFault f a : Reporting σ α) (SourcePrep.orFault f a : Reporting τ α) := by
  cases a with
  | some a => exact .pure a
  | none => exact Alike.fault trivial

end Settled

/-! ## The collector without a threshold -/

/-- A fault as the end of a run. -/
def Script.outcome {α : Type} (ending : Except Fault α) : Except Halt α := ending.mapError .fault

/-- A sink of collected diagnostics that stops at nothing. -/
def Collector.plain (ds : List Diagnostic) : Collector := { collected := ds.toArray }

namespace Script

variable {σ α : Type} [Sink σ]

omit [Sink σ] in
theorem finish_apply (e : Except Fault α) (s : σ) : finish e s = (outcome e, s) := by
  cases e <;> rfl

theorem play_nil (e : Except Fault α) (s : σ) : (⟨[], e⟩ : Script α).play s = (outcome e, s) :=
  finish_apply e s

/-- A script goes on after a report exactly when the report does. -/
theorem play_cons_apply (d : Diagnostic) (ds : List Diagnostic) (e : Except Fault α) (s : σ) :
    (⟨d :: ds, e⟩ : Script α).play s =
      match report d s with
      | (.ok (), s') => (⟨ds, e⟩ : Script α).play s'
      | (.error h, s') => (.error h, s') := by
  rw [play_cons]
  show (ExceptT.bind _ _ : Reporting σ α) s = _
  simp only [ExceptT.bind, ExceptT.mk, bind, StateT.bind]
  rcases h : report d s with ⟨r | r, s'⟩
  · rfl
  · rfl

theorem play_plain (s : Script α) (hs : ∀ d ∈ s.reports, d.severity < .fatal)
    (ds : List Diagnostic) :
    s.play (Collector.plain ds) = (outcome s.ending, Collector.plain (ds ++ s.reports)) := by
  obtain ⟨es, e⟩ := s
  induction es generalizing ds with
  | nil => simp [play_nil]
  | cons d es ih =>
    have hd : d.severity < .fatal := hs d List.mem_cons_self
    have hr : report d (Collector.plain ds) = (.ok (), Collector.plain (ds ++ [d])) := by
      simp [report, Sink.emit, Answer.ofThreshold, Collector.plain, hd]
    rw [play_cons_apply, hr]
    simp only
    rw [ih (ds ++ [d]) fun d hd => hs d (List.mem_cons_of_mem _ hd)]
    simp

/-- What a plain collector sees of a script is the whole of it. -/
theorem eq_of_play_plain {s t : Script α} (hs : ∀ d ∈ s.reports, d.severity < .fatal)
    (ht : ∀ d ∈ t.reports, d.severity < .fatal)
    (h : s.play (Collector.plain []) = t.play (Collector.plain [])) : s = t := by
  rw [play_plain s hs, play_plain t ht] at h
  obtain ⟨ds, u⟩ := s
  obtain ⟨es, v⟩ := t
  have hend : outcome u = outcome v := congrArg Prod.fst h
  have hreports : ds = es := by
    have := congrArg (fun r => Collector.diagnostics r.2) h
    simpa [Collector.diagnostics, Collector.plain] using this
  subst hreports
  cases u <;> cases v <;> simp_all [outcome, Except.mapError]

/-- A collector with a threshold stops a script at the first report that reaches it. -/
theorem play_threshold (s : Script α) (hs : ∀ d ∈ s.reports, d.severity < .fatal)
    (threshold : Severity) (ds : List Diagnostic) :
    ((∀ d ∈ s.reports, ¬ threshold ≤ d.severity) ∧
      s.play (⟨ds.toArray, some threshold⟩ : Collector) =
        (outcome s.ending, ⟨(ds ++ s.reports).toArray, some threshold⟩)) ∨
    ∃ front d back, s.reports = front ++ d :: back ∧ (∀ e ∈ front, ¬ threshold ≤ e.severity) ∧
      threshold ≤ d.severity ∧
      s.play (⟨ds.toArray, some threshold⟩ : Collector) =
        (.error (.aborted (.ofDiagnostic d)), ⟨(ds ++ front ++ [d]).toArray, some threshold⟩) := by
  obtain ⟨es, e⟩ := s
  induction es generalizing ds with
  | nil => exact .inl ⟨by simp, by simp [play_nil]⟩
  | cons d es ih =>
    have hd : d.severity < .fatal := hs d List.mem_cons_self
    rw [play_cons_apply]
    by_cases hlow : threshold ≤ d.severity
    · refine .inr ⟨[], d, es, rfl, by simp, hlow, ?_⟩
      simp [report, Sink.emit, Answer.ofThreshold, hlow]
    · have hr : report d (⟨ds.toArray, some threshold⟩ : Collector) =
          (.ok (), ⟨(ds ++ [d]).toArray, some threshold⟩) := by
        simp [report, Sink.emit, Answer.ofThreshold, hlow, hd]
      rw [hr]
      simp only
      obtain ⟨hall, hplay⟩ | ⟨front, e', back, hsplit, hfront, he', hplay⟩ :=
        ih (ds ++ [d]) fun d hd => hs d (List.mem_cons_of_mem _ hd)
      · exact .inl ⟨by simpa [hlow] using hall, by simp [hplay]⟩
      · exact .inr ⟨d :: front, e', back, by simp [show es = _ from hsplit],
          by simpa [hlow] using hfront, he', by simp [hplay]⟩

end Script

/-! ## Runs that give a known result -/

theorem Except.eq_ok_of_toOption {ε α : Type} {x : Except ε α} {a : α} (h : x.toOption = some a) :
    x = .ok a := by
  cases x with
  | error e => cases h
  | ok b => rw [Option.some.inj h]

/-- The run gives `a` and reports nothing but what `K` allows. -/
def Yields {σ α : Type} [Sink σ] (K : Diagnostic → Prop) (x : Reporting σ α) (a : α) : Prop :=
  ∃ ds, x = (⟨ds, .ok a⟩ : Script α).play ∧ ∀ d ∈ ds, K d

namespace Yields

variable {σ α β : Type} [Sink σ] {K : Diagnostic → Prop}

theorem pure (a : α) : Yields K (Pure.pure a : Reporting σ α) a := ⟨[], rfl, by simp⟩

theorem report {d : Diagnostic} (h : K d) : Yields K (SourcePrep.report d : Reporting σ Unit) () :=
  ⟨[d], (Script.play_report d).symm, by simpa using h⟩

theorem bind {x : Reporting σ α} {a : α} {f : α → Reporting σ β} {b : β} (hx : Yields K x a)
    (hf : Yields K (f a) b) : Yields K (x >>= f) b := by
  obtain ⟨ds, rfl, hds⟩ := hx
  obtain ⟨es, hes, hes'⟩ := hf
  exact ⟨ds ++ es, Script.play_ok_bind_play hes,
    fun d hd => (List.mem_append.1 hd).elim (hds d) (hes' d)⟩

theorem mono {L : Diagnostic → Prop} {x : Reporting σ α} {a : α} (h : Yields K x a)
    (hKL : ∀ d, K d → L d) : Yields L x a := by
  obtain ⟨ds, hds, hK⟩ := h
  exact ⟨ds, hds, fun d hd => hKL d (hK d hd)⟩

/-- What a plain collector sees of such a run. -/
theorem plain {x : Reporting Collector α} {a : α} (h : Yields K x a)
    (hK : ∀ d, K d → d.severity < .fatal) :
    ∃ ds, x (.plain []) = (.ok a, .plain ds) ∧ ∀ d ∈ ds, K d := by
  obtain ⟨ds, rfl, hds⟩ := h
  refine ⟨ds, ?_, hds⟩
  rw [Script.play_plain ⟨ds, .ok a⟩ fun d hd => hK d (hds d hd)]
  rfl

end Yields

/-! ## Any sink, and what it hears -/

/-- A sink together with what it was handed, in order, and how it answered. -/
structure Recorder (σ : Type) where
  inner : σ
  heard : List (Diagnostic × Answer) := []

instance {σ : Type} [Sink σ] : Sink (Recorder σ) where
  emit s d :=
    let (answer, inner) := Sink.emit s.inner d
    (answer, ⟨inner, s.heard ++ [(d, answer)]⟩)

/-- The diagnostics of a list that a run handed over before it went on to the next. -/
def proceeded (ds : List Diagnostic) : List (Diagnostic × Answer) := ds.map fun d => (d, .proceed)

/-- What a sink hears of the reports `ds`, and the result of a run that would otherwise end with
`full`: all of them, or those up to the first one that is not answered with "go on". A delivery that
fails is followed by one more diagnostic, whose answer does not matter. -/
inductive Heard {α : Type} (ds : List Diagnostic) (full : Except Halt α) :
    List (Diagnostic × Answer) → Except Halt α → Prop
  | all : Heard ds full (proceeded ds) full
  | stopped (front : List Diagnostic) {back : List Diagnostic} {d : Diagnostic}
      (split : ds = front ++ d :: back) :
      Heard ds full (proceeded front ++ [(d, .stop)]) (.error (.aborted (.ofDiagnostic d)))
  | failed (front : List Diagnostic) {back : List Diagnostic} {d : Diagnostic} {reason : String}
      {answer : Answer} (split : ds = front ++ d :: back) :
      Heard ds full
        (proceeded front ++ [(d, .failed reason), (.sinkFailure d reason, answer)])
        (.error (.aborted (.ofDiagnostic (.sinkFailure d reason))))

theorem Heard.cons {α : Type} {ds : List Diagnostic} {full result : Except Halt α}
    {heard : List (Diagnostic × Answer)} (h : Heard ds full heard result) (d : Diagnostic) :
    Heard (d :: ds) full ((d, .proceed) :: heard) result := by
  cases h with
  | all => exact .all
  | stopped front split => exact .stopped (d :: front) (by rw [split]; rfl)
  | failed front split => exact .failed (d :: front) (by rw [split]; rfl)

namespace Script

variable {σ α : Type} [Sink σ]

/-- A report to a recorder: the recorder is handed the diagnostic, and the one about a failed
delivery after it. -/
theorem report_recorder (d : Diagnostic) (r : Recorder σ) :
    report d r =
      match Sink.emit r.inner d with
      | (.proceed, inner) =>
        (if d.severity < .fatal then .ok () else .error (.aborted (.ofDiagnostic d)),
          ⟨inner, r.heard ++ [(d, .proceed)]⟩)
      | (.stop, inner) => (.error (.aborted (.ofDiagnostic d)), ⟨inner, r.heard ++ [(d, .stop)]⟩)
      | (.failed reason, inner) =>
        let failure := Diagnostic.sinkFailure d reason
        let last := Sink.emit inner failure
        (.error (.aborted (.ofDiagnostic failure)),
          ⟨last.2, r.heard ++ [(d, .failed reason), (failure, last.1)]⟩) := by
  rcases h : Sink.emit r.inner d with ⟨a, inner⟩
  cases a <;> simp only [report, Sink.emit, h]
  · split <;> rfl
  · simp

/-- Recording changes nothing for the run. -/
theorem play_inner (s : Script α) (r : Recorder σ) :
    s.play r.inner = ((s.play r).1, (s.play r).2.inner) := by
  obtain ⟨ds, e⟩ := s
  induction ds generalizing r with
  | nil => simp [play_nil]
  | cons d ds ih =>
    rw [play_cons_apply, play_cons_apply, report_recorder]
    rcases h : Sink.emit r.inner d with ⟨a, inner⟩
    cases a with
    | proceed =>
      by_cases hd : d.severity < .fatal
      · simp only [report, h, hd, if_true]
        exact ih ⟨inner, _⟩
      · simp [report, h, hd]
    | stop => simp [report, h]
    | failed reason => simp [report, h]

theorem play_recorder (s : Script α) (hs : ∀ d ∈ s.reports, d.severity < .fatal) (r : Recorder σ) :
    ∃ heard, (s.play r).2.heard = r.heard ++ heard ∧
      Heard s.reports (outcome s.ending) heard (s.play r).1 := by
  obtain ⟨ds, e⟩ := s
  induction ds generalizing r with
  | nil =>
    rw [play_nil]
    exact ⟨[], by simp, .all⟩
  | cons d ds ih =>
    have hd : d.severity < .fatal := hs d List.mem_cons_self
    rw [play_cons_apply, report_recorder]
    rcases h : Sink.emit r.inner d with ⟨a, inner⟩
    cases a with
    | proceed =>
      simp only [hd, if_true]
      obtain ⟨heard, hh, hr⟩ :=
        ih ⟨inner, r.heard ++ [(d, .proceed)]⟩ fun d hd => hs d (List.mem_cons_of_mem _ hd)
      exact ⟨(d, .proceed) :: heard, by simp [hh], hr.cons d⟩
    | stop => exact ⟨_, rfl, .stopped [] rfl⟩
    | failed reason => exact ⟨_, rfl, .failed [] rfl⟩

end Script

/-! ## A run and its sinks -/

/-- The run gives `a` and reports `ds`, and the answers of a sink can do nothing to it but stop it
on the spot. -/
structure StopsCleanly {α : Type} (run : ∀ (σ : Type) [Sink σ], Reporting σ α) (a : α)
    (ds : List Diagnostic) : Prop where
  /-- A plain collector receives every report, and the result comes back. -/
  plain : run Collector (.plain []) = (.ok a, .plain ds)
  /-- Any sink hears the reports up to the first one that it does not answer with "go on", and this
  one decides the result. -/
  heard : ∀ (σ : Type) [Sink σ] (s : σ),
    Heard ds (.ok a) (run (Recorder σ) ⟨s, []⟩).2.heard (run (Recorder σ) ⟨s, []⟩).1
  /-- The run on the sink itself is the recorded one. -/
  unrecorded : ∀ (σ : Type) [Sink σ] (s : σ),
    run σ s = ((run (Recorder σ) ⟨s, []⟩).1, (run (Recorder σ) ⟨s, []⟩).2.inner)
  /-- A collector with a threshold stops the run iff some report reaches it, at the first one. -/
  threshold : ∀ t : Severity,
    ((∀ d ∈ ds, ¬ t ≤ d.severity) ∧
      run Collector { stopAt := some t } = (.ok a, ⟨ds.toArray, some t⟩)) ∨
    ∃ front d back, ds = front ++ d :: back ∧ (∀ e ∈ front, ¬ t ≤ e.severity) ∧ t ≤ d.severity ∧
      run Collector { stopAt := some t } =
        (.error (.aborted (.ofDiagnostic d)), ⟨(front ++ [d]).toArray, some t⟩)

/-- A run that plays one script on every sink, and ends well on a plain collector, stops
cleanly. -/
theorem StopsCleanly.of_script {α : Type} {run : ∀ (σ : Type) [Sink σ], Reporting σ α}
    {s : Script α} (hrun : ∀ (σ : Type) [Sink σ], run σ = s.play)
    (hs : ∀ d ∈ s.reports, d.severity < .fatal) {a : α} (ha : s.ending = .ok a) :
    StopsCleanly run a s.reports where
  plain := by
    rw [hrun, Script.play_plain s hs, ha]
    rfl
  heard σ _ x := by
    obtain ⟨heard, hh, hresult⟩ := Script.play_recorder s hs (⟨x, []⟩ : Recorder σ)
    rw [hrun, hh]
    simpa [ha, Script.outcome, Except.mapError] using hresult
  unrecorded σ _ x := by
    rw [hrun σ, hrun (Recorder σ)]
    exact Script.play_inner s ⟨x, []⟩
  threshold t := by
    rw [hrun]
    have h := Script.play_threshold s hs t []
    simpa [ha, Script.outcome, Except.mapError] using h

end SourcePrep
