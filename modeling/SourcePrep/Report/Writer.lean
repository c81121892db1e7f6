import SourcePrep.Report.Format
import SourcePrep.Sink

/-!
# A sink that writes

Each diagnostic at or above a severity is written to a device as it arrives, or kept for the end
when the format is batched. The others are not shown, but count for the gravest severity all the
same.
-/

set_option autoImplicit false

namespace SourcePrep

/-- Where text is written to. -/
inductive Device
  /-- It takes everything; the text written so far. -/
  | working (written : String)
  /-- It takes nothing. -/
  | closed (reason : String)
  deriving DecidableEq, Repr

namespace Device

/-- The text written so far. -/
def contents : Device → String
  | working written => written
  | closed _ => ""

/-- Write a line. -/
def writeLine (line : String) : Device → Except String Device
  | working written => .ok (.working (written ++ line ++ "\n"))
  | closed reason => .error reason

end Device

/-- A sink that writes diagnostics in a format. -/
structure Writer where
  formatter : Formatter
  device : Device := .working ""
  /-- The least severity that is shown. -/
  minSeverity : Severity := .debug
  stopAt : Option Severity := none
  /-- The gravest severity that has arrived. -/
  worst : Option Severity := none
  /-- The number of diagnostics written or kept for writing. -/
  written : Nat := 0
  /-- The diagnostics kept for the end. -/
  pending : Array Diagnostic := #[]

namespace Writer

/-- The gravest severity, with one more that has arrived. -/
def worse (worst : Option Severity) (s : Severity) : Severity :=
  worst.elim s (Severity.max · s)

/-- Write a diagnostic, or keep it. -/
def show? (w : Writer) (d : Diagnostic) : Except String Writer :=
  if w.formatter.format.isBatched then .ok { w with pending := w.pending.push d }
  else do
    let device ← w.device.writeLine (w.formatter.one d)
    return { w with device }

instance : Sink Writer where
  emit w d :=
    let w := { w with worst := some (worse w.worst d.severity) }
    let answer := Answer.ofThreshold w.stopAt d
    if w.minSeverity ≤ d.severity then
      let w := { w with written := w.written + 1 }
      match w.show? d with
      | .ok w => (answer, w)
      | .error reason => (.failed reason, w)
    else (answer, w)

/-- Write what was kept; the text on the device then. -/
def finish (w : Writer) : Except String String :=
  if w.formatter.format.isBatched then
    (w.device.writeLine (w.formatter.batch w.pending.toList)).map Device.contents
  else .ok w.device.contents

end Writer

end SourcePrep
