import SourcePrep.Document.Reader
import SourcePrep.Pattern.Engine

/-!
# Normalization

A file starts with a preamble: blank lines and lines `config: name = value`. `readPreamble` takes
them off and gives the configuration they lead to. The tabwidth is the one declared or inherited, or
else the greatest common divisor of the numbers of leading spaces, or else 4. `normalize` turns the
leading spaces and tabs of every line of the body into a level.

Nothing here ends a run by itself: a bad directive or an odd indentation is reported, and the
document is normalized all the same.
-/

set_option autoImplicit false

namespace SourcePrep

/-- The body of a directive that sets something. -/
def configDirective : String :=
  "config:\\s*(?P<name>[A-Za-z_][A-Za-z0-9_]*)\\s*=\\s*(?P<value>\\S+)\\s*$"

namespace Normalization

/-- The tabwidth of a file that has no leading spaces. -/
def defaultTabwidth : Nat := 4

section
variable {σ : Type} [Sink σ] (engine : Engine)

/-- The matcher for the directives of the preamble. A marker that is no pattern is reported, and
then there are no directives. -/
def configMatcher (config : Configuration) (position : Position) :
    Reporting σ (Option Matcher) :=
  match engine.directive config configDirective with
  | .ok matcher => return some matcher
  | .error failure => do
    report <|
      (Diagnostic.ofKind .patternSyntaxError s!"Invalid directive prefix '{config.marker}'"
        position).withCauses failure.causes
    return none

/-- What a directive does to the configuration. A setting that is unknown, or does not accept the
value, is reported and nothing is set. -/
def applySetting (config : Configuration) (name value : String) (position : Position) :
    Reporting σ (Configuration × Option Setting) :=
  match Setting.ofKey? name with
  | none => do
    report (.unknownConfigKey name position)
    return (config, none)
  | some setting =>
    match config.set? setting value with
    | none => do
      report (.invalidConfigValue name value position)
      return (config, none)
    | some config => return (config, some setting)

/-- Take the preamble off the lines of a file: the configuration after it, and the other lines. A
new marker holds from the next line on. -/
def readPreamble : List (Line Raw) → Configuration → Option Matcher →
    Reporting σ (Configuration × List (Line Raw))
  | [], config, _ => return (config, [])
  | line :: rest, config, matcher =>
    if line.kind.isBlank then readPreamble rest config matcher
    else
      match matcher with
      | none => return (config, line :: rest)
      | some find =>
        match find line.kind.text with
        | .error failure => do
          report (.ofKind .patternExecutionError failure.message line.position)
          return (config, line :: rest)
        | .ok none => return (config, line :: rest)
        | .ok (some m) => do
          let name := (m.named? "name").getD ""
          let value := (m.named? "value").getD ""
          match ← applySetting config name value line.position with
          | (config, some .marker) => do
            readPreamble rest config (← configMatcher engine config line.position)
          | (config, _) => readPreamble rest config matcher

/-- The greatest common divisor of the numbers of leading spaces. -/
def spacesDivisor (lines : List (Line Measured)) : Nat :=
  lines.foldl (fun n line => Nat.gcd n line.kind.spaces) 0

/-- The tabwidth that the indentation of a document suggests. It is reported unless it is the
default for want of spaces. -/
def inferTabwidth (d : Document Measured) : Reporting σ Nat := do
  let n := spacesDivisor d.lines
  if n = 0 then return defaultTabwidth
  else
    if !d.isEmpty then report (.tabwidthInferred n d.origin)
    return n

/-- The position that a marker inherited by a file is reported at: that of the first line. -/
def firstPosition (d : Document Raw) : Position :=
  match d.lines with
  | [] => .nowhere
  | line :: _ => line.position

end

end Normalization

/-- A document with levels of indentation, and the tabwidth they were made with. -/
structure NormalizedFile where
  document : Document Normalized
  tabwidth : Nat

/-- Normalize a document as read. The result carries the configuration after the preamble, in which
the tabwidth is always defined. -/
def normalize {σ : Type} [Sink σ] (engine : Engine) (d : Document Raw) :
    Reporting σ NormalizedFile := do
  let matcher ← Normalization.configMatcher engine d.config (Normalization.firstPosition d)
  let (config, lines) ← Normalization.readPreamble engine d.lines d.config matcher
  let measured := (Document.ofLines lines d.config).measure
  if config.isDefined .tabwidth then
    let document ← measured.normalizeLines config.tabwidth
    return ⟨document.withConfig config, config.tabwidth⟩
  else
    let tabwidth ← Normalization.inferTabwidth measured
    let document ← measured.normalizeLines tabwidth
    return ⟨document.withConfig (config.store .tabwidth (toString tabwidth)), tabwidth⟩

end SourcePrep
