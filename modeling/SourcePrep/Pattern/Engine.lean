import SourcePrep.Configuration
import SourcePrep.Pattern.Basic

/-!
# Engines

The pipeline knows patterns only through an engine, which reads a pattern and gives back a matcher.
So what is proved of the pipeline holds for every engine, and what it needs of one is stated as a
property of it. `Engine.standard` is the engine in use.
-/

set_option autoImplicit false

namespace SourcePrep

/-- The first match in a text, if there is one. -/
abbrev Matcher := String → Except Pattern.Failure (Option Match)

/-- A way to read and match patterns. -/
structure Engine where
  /-- The matcher for a pattern in the given modes. -/
  compile : String → Pattern.Flags → Except Pattern.Failure Matcher

namespace Engine

/-- The engine of this library. -/
def standard : Engine where
  compile source flags := do
    let p ← Pattern.compile source flags
    return fun text => p.firstMatch text 0

end Engine

/-- The pattern of a directive: its body at the start of a line, behind the marker. The marker is
part of the pattern as it stands. -/
def Configuration.directive (config : Configuration) (body : String) : String :=
  "^" ++ config.marker ++ body

/-- The matcher for a directive. -/
def Engine.directive (engine : Engine) (config : Configuration) (body : String) :
    Except Pattern.Failure Matcher :=
  engine.compile (config.directive body) { multiLine := true }

end SourcePrep
