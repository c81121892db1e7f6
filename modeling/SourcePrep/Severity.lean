/-!
# Severities

How serious a diagnostic is, from `debug` to `fatal`. `Severity.ofText?` reads the names that users
write, in any letter case, and `Severity.name` gives the one spelling that reports show.
-/

set_option autoImplicit false

namespace SourcePrep

/-- How serious a diagnostic is. -/
inductive Severity
  | debug
  | low
  | med
  | high
  | fatal
  deriving DecidableEq, Repr, Inhabited

namespace Severity

/-- The place of a severity in the total order. -/
def rank : Severity → Nat
  | debug => 0
  | low => 1
  | med => 2
  | high => 3
  | fatal => 4

instance : LE Severity := ⟨fun a b => a.rank ≤ b.rank⟩
instance : LT Severity := ⟨fun a b => a.rank < b.rank⟩
instance (a b : Severity) : Decidable (a ≤ b) := inferInstanceAs (Decidable (a.rank ≤ b.rank))
instance (a b : Severity) : Decidable (a < b) := inferInstanceAs (Decidable (a.rank < b.rank))

/-- The graver of two severities. -/
def max (a b : Severity) : Severity := if a ≤ b then b else a

/-- The gravest severity of a list, if it has one. -/
def maximum? (all : List Severity) : Option Severity :=
  all.foldl (fun worst s => some (worst.elim s (·.max s))) none

/-- The name that reports show. -/
def name : Severity → String
  | debug => "DEBUG"
  | low => "LOW"
  | med => "MED"
  | high => "HIGH"
  | fatal => "FATAL"

/-- The severity that a user names, whatever the case of its ASCII letters. -/
def ofText? (s : String) : Option Severity :=
  match String.ofList (s.toList.map Char.toLower) with
  | "debug" => some debug
  | "low" => some low
  | "med" => some med
  | "medium" => some med
  | "high" => some high
  | "fatal" => some fatal
  | _ => none

/-- What a user is told about a text that names no severity. -/
def unknownMessage (s : String) : String :=
  s!"Unknown severity: {s} (expected debug, low, med, high or fatal)"

end Severity

end SourcePrep
