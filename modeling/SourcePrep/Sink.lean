import SourcePrep.Diagnostic

/-!
# Sinks and the early stop

The pipeline hands each diagnostic to a sink, one at a time, and obeys its answer: go on, stop, or
"this could not be delivered". `report` turns the answer into control flow. A run that is stopped
ends in `Halt.aborted` with the diagnostic that stopped it; a run that would look outside its data
ends in `Halt.fault`.

A run is a function of the sink's state that gives back the state in either case, so that everything
delivered before a stop stays visible.
-/

set_option autoImplicit false

namespace SourcePrep

/-- What a sink answers to a diagnostic. -/
inductive Answer
  | proceed
  | stop
  /-- The sink could not deliver the diagnostic. -/
  | failed (reason : String)
  deriving DecidableEq, Repr

/-- A state that takes diagnostics. -/
class Sink (σ : Type) where
  /-- Take one diagnostic. -/
  emit : σ → Diagnostic → Answer × σ

/-- The run was stopped by the sink or by a fatal diagnostic. -/
structure Aborted where
  kind : DiagnosticKind
  severity : Severity
  position : Position
  deriving DecidableEq, Repr

namespace Aborted

/-- The stop that a diagnostic causes. -/
def ofDiagnostic (d : Diagnostic) : Aborted := ⟨d.kind, d.severity, d.position⟩

/-- What the user is told about the stop. -/
def message (a : Aborted) : String :=
  s!"preprocessing aborted by {a.kind.name} ({a.severity.name}) at {a.position.render}"

end Aborted

/-- A look outside of the data at hand. -/
inductive Fault
  /-- A line that the document does not have. -/
  | line
  /-- An offset outside of the text, or inside one of its characters. -/
  | cut
  deriving DecidableEq, Repr

/-- Why a run ended without a result. -/
inductive Halt
  | aborted (a : Aborted)
  | fault (f : Fault)
  deriving DecidableEq, Repr

/-- A computation that reports to a sink of state `σ`, and may end early. -/
abbrev Reporting (σ : Type) := ExceptT Halt (StateM σ)

/-- End the run with a fault when there is no value. -/
def orFault {σ α : Type} (f : Fault) : Option α → Reporting σ α
  | some a => pure a
  | none => throw (.fault f)

section
variable {σ : Type} [Sink σ]

/-- Hand a diagnostic to the sink and obey the answer. A sink that fails is told so once, and the
run ends. -/
def report (d : Diagnostic) : Reporting σ Unit := fun s =>
  match Sink.emit s d with
  | (.proceed, s) =>
    if d.severity < .fatal then (.ok (), s) else (.error (.aborted (.ofDiagnostic d)), s)
  | (.stop, s) => (.error (.aborted (.ofDiagnostic d)), s)
  | (.failed reason, s) =>
    let failure := Diagnostic.sinkFailure d reason
    (.error (.aborted (.ofDiagnostic failure)), (Sink.emit s failure).2)

end

/-- The answer of a sink that stops at a severity, if it was given one. -/
def Answer.ofThreshold (stopAt : Option Severity) (d : Diagnostic) : Answer :=
  match stopAt with
  | some threshold => if threshold ≤ d.severity then .stop else .proceed
  | none => .proceed

/-- A sink that keeps every diagnostic, in order. -/
structure Collector where
  collected : Array Diagnostic := #[]
  stopAt : Option Severity := none
  deriving Inhabited

namespace Collector

instance : Sink Collector where
  emit s d := (.ofThreshold s.stopAt d, { s with collected := s.collected.push d })

/-- The diagnostics, in the order of their arrival. -/
def diagnostics (s : Collector) : List Diagnostic := s.collected.toList

/-- How many diagnostics of a kind have arrived. -/
def count (s : Collector) (kind : DiagnosticKind) : Nat :=
  (s.diagnostics.filter (·.kind == kind)).length

/-- The gravest severity that has arrived. -/
def maxSeverity? (s : Collector) : Option Severity :=
  Severity.maximum? (s.diagnostics.map (·.severity))

end Collector

/-- A sink that loses the deliveries with the given numbers, counted from one, and passes the others
on. -/
structure Unreliable (σ : Type) where
  inner : σ
  emits : Nat := 0
  losing : List Nat := []
  reason : String

instance {σ : Type} [Sink σ] : Sink (Unreliable σ) where
  emit s d :=
    let n := s.emits + 1
    if s.losing.contains n then (.failed s.reason, { s with emits := n })
    else
      let (answer, inner) := Sink.emit s.inner d
      (answer, { s with emits := n, inner })

end SourcePrep
