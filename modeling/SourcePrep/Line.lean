import SourcePrep.Text.Blank
import SourcePrep.Text
import SourcePrep.Sink

/-!
# Lines

A line is one of three kinds: raw, as read; measured, with its leading spaces and tabs counted; and
normalized, with a level of indentation in tabs. Each kind has a canonical text, which is what the
line adds to the text of its document, and every offset counts bytes of that text.

A line keeps the position it came from through every cut.
-/

set_option autoImplicit false

namespace SourcePrep

/-- What the kinds of line have in common. -/
class LineKind (κ : Type) where
  /-- What the line adds to the text of its document. -/
  canonical : κ → String
  /-- The length of the canonical text. -/
  size : κ → Nat
  /-- The part of the line between two offsets into its canonical text. -/
  slice : κ → Nat → Nat → κ

/-! ## Raw lines -/

/-- A line as read, with its newline. -/
structure Raw where
  text : String
  deriving DecidableEq, Repr, Inhabited

namespace Raw

instance : LineKind Raw where
  canonical line := line.text
  size line := Text.size line.text
  slice line start stop := ⟨Text.slice line.text start stop⟩

/-- The line has no character but blank ones. -/
def isBlank (line : Raw) : Bool := Text.allBlank line.text

end Raw

/-! ## Measured lines -/

/-- A line with its leading spaces and tabs counted. Its canonical text has the spaces first. -/
structure Measured where
  spaces : Nat
  tabs : Nat
  rest : String
  deriving DecidableEq, Repr, Inhabited

/-- The level that leading spaces and tabs come to. -/
structure Indentation where
  level : Nat
  /-- Set when the spaces were no whole number of tabs. -/
  rounding : Option Severity
  deriving DecidableEq, Repr

/-- `n` times the same character. -/
def Text.copies (c : Char) (n : Nat) : String := String.ofList (List.replicate n c)

/-- The length of the overlap of two intervals. -/
def overlap (start stop lo hi : Nat) : Nat := min stop hi - max start lo

namespace Measured

/-- A character that counts as indentation. -/
def isIndent (c : Char) : Bool := c = ' ' || c = '\t'

/-- Count the leading spaces and tabs of a text, whatever their order. -/
def ofText (text : String) : Measured :=
  let (indent, rest) := Text.span isIndent text
  ⟨indent.toList.count ' ', indent.toList.count '\t', rest⟩

/-- The length of the counted part. -/
def indentSize (line : Measured) : Nat := line.spaces + line.tabs

instance : LineKind Measured where
  canonical line := Text.copies ' ' line.spaces ++ Text.copies '\t' line.tabs ++ line.rest
  size line := line.indentSize + Text.size line.rest
  slice line start stop :=
    { spaces := overlap start stop 0 line.spaces
      tabs := overlap start stop line.spaces line.indentSize
      rest :=
        if line.indentSize < stop then
          Text.slice line.rest (start - line.indentSize) (stop - line.indentSize)
        else "" }

/-- The level for a tabwidth: spaces are rounded to whole tabs, a half goes up. A rounding is slight
when less than a quarter of a tab was added or dropped. -/
def indentation (line : Measured) (tabwidth : Nat) : Indentation :=
  let width := max tabwidth 1
  let left := line.spaces % width
  { level := (line.spaces + width / 2) / width + line.tabs
    rounding :=
      if left = 0 then none
      else if 4 * left < width ∨ 3 * width < 4 * left then some .low
      else some .med }

end Measured

/-! ## Normalized lines -/

/-- A level of indentation, in tabs, and the content after it. -/
structure Normalized where
  level : Nat
  content : String
  deriving DecidableEq, Repr, Inhabited

namespace Normalized

instance : LineKind Normalized where
  canonical line := Text.copies '\t' line.level ++ line.content
  size line := line.level + Text.size line.content
  slice line start stop :=
    if start < line.level then
      ⟨min stop line.level - start,
        if line.level < stop then Text.takeBytes line.content (stop - line.level) else ""⟩
    else ⟨0, Text.slice line.content (start - line.level) (stop - line.level)⟩

/-- The line as text, indented with tabs. -/
def renderTabs (line : Normalized) : String := LineKind.canonical line

/-- The line as text, indented with the given number of spaces for each level. The number of spaces is
taken as it is, also where it is more than a word holds. -/
def renderSpaces (line : Normalized) (tabwidth : Nat) : String :=
  Text.copies ' ' (line.level * tabwidth) ++ line.content

end Normalized

/-! ## Lines with a position -/

/-- A line of kind `κ` and where it came from. -/
structure Line (κ : Type) where
  position : Position
  kind : κ
  deriving DecidableEq, Repr

namespace Line

section
variable {κ : Type} [LineKind κ]

/-- What the line adds to the text of its document. -/
def canonical (line : Line κ) : String := LineKind.canonical line.kind

/-- The length of the canonical text. -/
def size (line : Line κ) : Nat := LineKind.size line.kind

/-- The part between two offsets, at the same position. -/
def slice (line : Line κ) (start stop : Nat) : Line κ :=
  ⟨line.position, LineKind.slice line.kind start stop⟩

end

/-- Count the leading spaces and tabs of a raw line. -/
def measure (line : Line Raw) : Line Measured := ⟨line.position, .ofText line.kind.text⟩

/-- The line with its leading spaces and tabs turned into a level. -/
def normalized (line : Line Measured) (tabwidth : Nat) : Line Normalized :=
  ⟨line.position, ⟨(line.kind.indentation tabwidth).level, line.kind.rest⟩⟩

/-- The normalized line; a rounding is reported. -/
def normalize {σ : Type} [Sink σ] (tabwidth : Nat) (line : Line Measured) :
    Reporting σ (Line Normalized) := do
  if let some severity := (line.kind.indentation tabwidth).rounding then
    report (.indentationRounded line.kind.spaces tabwidth severity line.position)
  return line.normalized tabwidth

end Line

end SourcePrep
