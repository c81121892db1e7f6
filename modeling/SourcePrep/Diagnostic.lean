import SourcePrep.Path.Basic
import SourcePrep.Severity

/-!
# Diagnostics

A diagnostic is a message about the input, tied to the position that caused it. Each kind has a
default severity; the builders below fix the wording of every message that the pipeline reports.
-/

set_option autoImplicit false

namespace SourcePrep

/-- A source file and a line number counted from one. Line zero stands for the whole file. -/
structure Position where
  source : Path
  line : Nat
  deriving DecidableEq, Repr, Inhabited

namespace Position

/-- The position of a file as a whole. -/
def wholeFile (source : Path) : Position := ⟨source, 0⟩

/-- The position of a document that has no line of its own. -/
def nowhere : Position := wholeFile ⟨"<empty>"⟩

/-- How reports write a position. -/
def render (p : Position) : String :=
  if p.line = 0 then p.source.text else s!"{p.source.text}:{p.line}"

end Position

/-- What went wrong. -/
inductive DiagnosticKind
  | missingFile
  | errorLoadingFile
  | circularInclusion
  | unresolvedInclusionPath
  | unknownConfigKey
  | invalidConfigValue
  | tabwidthInferenceWarning
  | indentationRoundingWarning
  | patternSyntaxError
  | patternExecutionError
  | invalidReplacement
  | nonTerminatingReplacement
  | diagnosticSinkFailure
  deriving DecidableEq, Repr, Inhabited

namespace DiagnosticKind

/-- Every kind. -/
def all : List DiagnosticKind :=
  [missingFile, errorLoadingFile, circularInclusion, unresolvedInclusionPath, unknownConfigKey,
    invalidConfigValue, tabwidthInferenceWarning, indentationRoundingWarning, patternSyntaxError,
    patternExecutionError, invalidReplacement, nonTerminatingReplacement, diagnosticSinkFailure]

/-- The name that reports show. -/
def name : DiagnosticKind → String
  | missingFile => "MissingFile"
  | errorLoadingFile => "ErrorLoadingFile"
  | circularInclusion => "CircularInclusion"
  | unresolvedInclusionPath => "UnresolvedInclusionPath"
  | unknownConfigKey => "UnknownConfigKey"
  | invalidConfigValue => "InvalidConfigValue"
  | tabwidthInferenceWarning => "TabwidthInferenceWarning"
  | indentationRoundingWarning => "IndentationRoundingWarning"
  | patternSyntaxError => "PatternSyntaxError"
  | patternExecutionError => "PatternExecutionError"
  | invalidReplacement => "InvalidReplacement"
  | nonTerminatingReplacement => "NonTerminatingReplacement"
  | diagnosticSinkFailure => "DiagnosticSinkFailure"

/-- The kind with the given name. -/
def ofName? (s : String) : Option DiagnosticKind := all.find? (·.name == s)

/-- The severity of a kind where the place that reports it does not choose another. -/
def severity : DiagnosticKind → Severity
  | tabwidthInferenceWarning => .med
  | indentationRoundingWarning => .med
  | diagnosticSinkFailure => .fatal
  | _ => .high

end DiagnosticKind

/-- A message about the input. -/
structure Diagnostic where
  kind : DiagnosticKind
  severity : Severity
  message : String
  position : Position
  cause : Option String
  deriving DecidableEq, Repr, Inhabited

namespace Diagnostic

/-- A diagnostic with the default severity of its kind. -/
def ofKind (kind : DiagnosticKind) (message : String) (position : Position) : Diagnostic :=
  ⟨kind, kind.severity, message, position, none⟩

/-- The diagnostic with another severity. -/
def withSeverity (d : Diagnostic) (severity : Severity) : Diagnostic := { d with severity }

/-- The diagnostic with a chain of errors as its cause, outermost first. -/
def withCauses (d : Diagnostic) (chain : List String) : Diagnostic :=
  { d with cause := some (": ".intercalate chain) }

def missingFile (path : Path) : Diagnostic :=
  ofKind .missingFile s!"File {path.text} does not exist" (.wholeFile path)

def errorLoadingFile (path : Path) (reason : String) : Diagnostic :=
  (ofKind .errorLoadingFile s!"Error loading file {path.text}" (.wholeFile path)).withCauses
    [reason]

/-- The chain runs from the first occurrence of the repeated file to that file again. -/
def circularInclusion (chain : List Path) (position : Position) : Diagnostic :=
  ofKind .circularInclusion
    (chain.foldl (fun message file => message ++ "\n\t" ++ file.text) "Circular inclusion:")
    position

def unresolvedInclusion (relative : String) (position : Position) : Diagnostic :=
  ofKind .unresolvedInclusionPath s!"Unresolved inclusion: file {relative} not found" position

def unknownConfigKey (key : String) (position : Position) : Diagnostic :=
  ofKind .unknownConfigKey s!"Unknown configuration setting '{key}'" position

def invalidConfigValue (key value : String) (position : Position) : Diagnostic :=
  ofKind .invalidConfigValue
    s!"Invalid value '{value}' for configuration setting '{key}'; the default is kept" position

def tabwidthInferred (tabwidth : Nat) (position : Position) : Diagnostic :=
  ofKind .tabwidthInferenceWarning
    s!"No tabwidth declared; guessed a tabwidth of {tabwidth} from the indentation" position

def indentationRounded (spaces tabwidth : Nat) (severity : Severity) (position : Position) :
    Diagnostic :=
  (ofKind .indentationRoundingWarning
    (s!"The number of spaces {spaces} is not a multiple of the tabwidth {tabwidth} " ++
      "and will be rounded")
    position).withSeverity severity

/-- The delivery of a diagnostic failed. -/
def sinkFailure (failed : Diagnostic) (reason : String) : Diagnostic :=
  (ofKind .diagnosticSinkFailure s!"Error while reporting {failed.kind.name}"
    failed.position).withCauses [reason]

/-- One diagnostic as plain text. -/
def render (d : Diagnostic) : String :=
  s!"{d.position.render}: [{d.severity.name}] {d.kind.name}: {d.message}" ++
    d.cause.elim "" fun cause => s!" (caused by: {cause})"

end Diagnostic

end SourcePrep
