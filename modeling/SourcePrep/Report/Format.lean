import SourcePrep.Report.Json
import SourcePrep.Text

/-!
# Formats of reports

Text is for people, and may be coloured; the concise format has a line for each diagnostic, as
editors read it; the two JSON formats are for programs. The JSON array is a batched format: it is
written when all diagnostics are known.
-/

set_option autoImplicit false

namespace SourcePrep

/-- How diagnostics are written. -/
inductive Format
  | text
  | concise
  | json
  | jsonLines
  deriving DecidableEq, Repr, Inhabited

namespace Format

/-- The name of the format. -/
def name : Format → String
  | text => "Text"
  | concise => "Concise"
  | json => "Json"
  | jsonLines => "JsonLines"

/-- The format that a word stands for, in letters of either case. -/
def ofText? (s : String) : Option Format :=
  match s.map Char.toLower with
  | "text" | "full" => some text
  | "concise" => some concise
  | "json" => some json
  | "json-lines" | "jsonlines" => some jsonLines
  | _ => none

/-- What is said about a word that stands for no format. -/
def unknownMessage (s : String) : String := s!"Unknown output format: {s}"

/-- The format writes nothing until all diagnostics are known. -/
def isBatched : Format → Bool
  | json => true
  | _ => false

end Format

/-- A colour or weight of text. -/
inductive Style
  | position
  | kind
  | severity (s : Severity)
  deriving DecidableEq, Repr

namespace Style

/-- The numbers of a style in a control sequence. -/
def codes : Style → String
  | position => "4;34"
  | kind => "1"
  | severity .fatal => "1;31"
  | severity .high => "31"
  | severity .med => "33"
  | severity .low => "36"
  | severity .debug => "2"

/-- What switches a style on. -/
def sequence (style : Style) : String := "\x1b[" ++ style.codes ++ "m"

/-- What switches every style off. -/
def reset : String := "\x1b[0m"

/-- A text in a style. Where the text itself switches styles off, the style is switched on again. -/
def paint (style : Style) (text : String) : String :=
  style.sequence ++ text.replace reset (reset ++ style.sequence) ++ reset

end Style

/-- A format, and whether it is coloured; only text can be. -/
structure Formatter where
  format : Format
  coloured : Bool
  deriving DecidableEq, Repr

namespace Formatter

/-- The formatter for a format, coloured if asked and possible. -/
def ofFormat (format : Format) (coloured : Bool) : Formatter :=
  ⟨format, coloured && format == .text⟩

/-- A text in a style, if the formatter is coloured. -/
def paint (f : Formatter) (style : Style) (text : String) : String :=
  if f.coloured then style.paint text else text

/-- A message on one line. -/
def oneLine (message : String) : String :=
  let joined := Text.replacePair '\n' '\t' [' ', '-', '>', ' '] message.toList
  String.ofList (joined.map fun c => if c = '\n' then ' ' else c)

/-- A diagnostic for people, with the cause on a line of its own. -/
def textual (f : Formatter) (d : Diagnostic) : String :=
  f.paint .position d.position.render ++ ": " ++
    f.paint (.severity d.severity) ("[" ++ d.severity.name ++ "]") ++ " " ++
    f.paint .kind d.kind.name ++ ": " ++ d.message ++
    d.cause.elim "" fun cause => "\n  caused by: " ++ cause

/-- A diagnostic in the concise format. -/
def concise (d : Diagnostic) : String :=
  s!"{d.position.render}: [{d.severity.name}] {d.kind.name}: {oneLine d.message}" ++
    d.cause.elim "" fun cause => s!" ({cause})"

/-- One diagnostic, without a newline at the end. -/
def one (f : Formatter) (d : Diagnostic) : String :=
  match f.format with
  | .text => f.textual d
  | .concise => concise d
  | .json => (Json.Record.ofDiagnostic d).pretty 0
  | .jsonLines => (Json.Record.ofDiagnostic d).compact

/-- All diagnostics of a run at once. -/
def batch (f : Formatter) (ds : List Diagnostic) : String :=
  match f.format with
  | .json => Json.prettyArray (ds.map Json.Record.ofDiagnostic)
  | _ => "\n".intercalate (ds.map f.one)

end Formatter

end SourcePrep
