import SourcePrep.Diagnostic

/-!
# Diagnostics as JSON

A diagnostic is written as a flat object, with its fields in a fixed order. `Record.compact` writes
an object on one line, and `prettyArray` a list of objects with one field to a line. In a text a
quote and a backslash are escaped, and so is each control character below the space.
-/

set_option autoImplicit false

namespace SourcePrep.Json

/-- A value of a field. -/
inductive Scalar
  | null
  | number (n : Nat)
  | text (s : String)
  deriving DecidableEq, Repr

/-- An object with scalar fields, in the order in which they are written. -/
abbrev Record := List (String × Scalar)

/-- A hexadecimal digit. -/
def hexDigit (n : Nat) : Char := Nat.digitChar n

/-- How a character is written inside of a text. -/
def escapeChar (c : Char) : List Char :=
  match c with
  | '"' => ['\\', '"']
  | '\\' => ['\\', '\\']
  | '\x08' => ['\\', 'b']
  | '\x0c' => ['\\', 'f']
  | '\n' => ['\\', 'n']
  | '\r' => ['\\', 'r']
  | '\t' => ['\\', 't']
  | c =>
    if c.toNat < 0x20 then
      ['\\', 'u', '0', '0', hexDigit (c.toNat / 16), hexDigit (c.toNat % 16)]
    else [c]

/-- A text in quotes. -/
def quote (s : String) : String :=
  String.ofList ('"' :: s.toList.flatMap escapeChar ++ ['"'])

namespace Scalar

/-- How a value is written. -/
def render : Scalar → String
  | null => "null"
  | number n => toString n
  | text s => quote s

/-- The text, or null. -/
def ofText? : Option String → Scalar
  | none => null
  | some s => text s

end Scalar

namespace Record

/-- The object on one line, without blanks. -/
def compact (r : Record) : String :=
  "\x7b" ++ ",".intercalate (r.map fun (name, value) => quote name ++ ":" ++ value.render) ++ "\x7d"

/-- The object with one field to a line, indented by so many spaces. -/
def pretty (indent : Nat) (r : Record) : String :=
  let margin := String.ofList (List.replicate indent ' ')
  let fields := r.map fun (name, value) => margin ++ "  " ++ quote name ++ ": " ++ value.render
  margin ++ "\x7b\n" ++ ",\n".intercalate fields ++ "\n" ++ margin ++ "\x7d"

/-- The fields of a diagnostic. -/
def ofDiagnostic (d : Diagnostic) : Record :=
  [ ("file", .text d.position.source.text),
    ("line", .number d.position.line),
    ("severity", .text d.severity.name),
    ("kind", .text d.kind.name),
    ("message", .text d.message),
    ("cause", .ofText? d.cause) ]

end Record

/-- A list of objects, each on lines of its own. -/
def prettyArray : List Record → String
  | [] => "[]"
  | records => "[\n" ++ ",\n".intercalate (records.map (Record.pretty 2)) ++ "\n]"

end SourcePrep.Json
