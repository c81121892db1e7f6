import SourcePrep.Configuration
import SourcePrep.Line

/-!
# Documents

A document is a sequence of lines of one kind, with the configuration they were made under and a
table of offsets: entry `i` is where line `i` starts in the canonical text, and the last entry is
the length of that text. Lines of length zero are never stored, so the table is strictly increasing
and `offsetOf` can invert it.

`slice`, `concat` and `splice` cut and join documents by offsets into the canonical text. They are
total; `slice?` and `splice?` answer only when each offset they cut at lies between two characters.
-/

set_option autoImplicit false

namespace SourcePrep

/-- A sequence of lines of kind `κ`. -/
structure Document (κ : Type) where
  lines : List (Line κ)
  config : Configuration
  offsets : List Nat
  deriving DecidableEq, Repr

namespace Document

section
variable {κ : Type} [LineKind κ]

/-- The running totals of line lengths, starting above `total`. -/
def offsetsFrom (total : Nat) : List (Line κ) → List Nat
  | [] => []
  | line :: rest => (total + line.size) :: offsetsFrom (total + line.size) rest

/-- The document with the given lines; those of length zero are left out. -/
def ofLines (lines : List (Line κ)) (config : Configuration) : Document κ :=
  let kept := lines.filter fun line => line.size ≠ 0
  ⟨kept, config, 0 :: offsetsFrom 0 kept⟩

/-- The document without lines. -/
def empty (config : Configuration) : Document κ := ofLines [] config

/-- The canonical text. -/
def text (d : Document κ) : String := String.join (d.lines.map Line.canonical)

end

section
variable {κ : Type}

/-- The number of lines. -/
def lineCount (d : Document κ) : Nat := d.lines.length

/-- The length of the canonical text. -/
def size (d : Document κ) : Nat := d.offsets.getLast?.getD 0

/-- The document has no lines. -/
def isEmpty (d : Document κ) : Bool := d.lines.isEmpty

/-- The same lines under another configuration. -/
def withConfig (d : Document κ) (config : Configuration) : Document κ := { d with config }

/-- The line that an offset falls into, and the column there. A boundary belongs to the line after
it, and an offset at or past the end to the line after the last. -/
def offsetOf (d : Document κ) (offset : Nat) : Nat × Nat :=
  let line := d.offsets.findIdx (offset < ·) - 1
  (line, offset - d.offsets[line]?.getD 0)

/-- The position of the file that the first line came from. -/
def origin (d : Document κ) : Position :=
  match d.lines with
  | [] => .nowhere
  | line :: _ => .wholeFile line.position.source

end

section
variable {κ : Type} [LineKind κ]

/-- The part of line `i` between two columns; nothing when there is no such line. -/
def cutLine (d : Document κ) (i start stop : Nat) : List (Line κ) :=
  (d.lines[i]?.map fun line => line.slice start stop).toList

/-- The part of line `i` from a column on; nothing when there is no such line. -/
def cutLineFrom (d : Document κ) (i start : Nat) : List (Line κ) :=
  (d.lines[i]?.map fun line => line.slice start line.size).toList

/-- The part of the document between two offsets. -/
def slice (d : Document κ) (start stop : Nat) : Document κ :=
  let stop := min stop d.size
  if stop ≤ start then empty d.config
  else
    let (first, firstColumn) := d.offsetOf start
    let (last, lastColumn) := d.offsetOf stop
    let lines :=
      if first = last then d.cutLine first firstColumn lastColumn
      else
        d.cutLineFrom first firstColumn ++ (d.lines.drop (first + 1)).take (last - (first + 1)) ++
          if 0 < lastColumn then d.cutLine last 0 lastColumn else []
    ofLines lines d.config

/-- The lines of both documents, under the configuration of the first. -/
def concat (d other : Document κ) : Document κ := ofLines (d.lines ++ other.lines) d.config

/-- The document with the lines of `replacement` in place of the text between two offsets. A line
that is cut keeps the part outside. The table of offsets is kept up to the first line touched. -/
def splice (d : Document κ) (start stop : Nat) (replacement : Document κ) : Document κ :=
  let stop := min stop d.size
  let start := min start stop
  let (first, firstColumn) := d.offsetOf start
  let (last, lastColumn) := d.offsetOf stop
  let head := if 0 < firstColumn then d.cutLine first 0 firstColumn else []
  let tail := if 0 < lastColumn then d.cutLineFrom last lastColumn else []
  let after := if 0 < lastColumn then last + 1 else last
  let touched := head ++ replacement.lines ++ tail ++ d.lines.drop after
  { lines := d.lines.take first ++ touched
    config := d.config
    offsets := d.offsets.take (first + 1) ++ offsetsFrom (d.offsets[first]?.getD 0) touched }

/-- The offset lies between two characters of the canonical text. -/
def isCut (d : Document κ) (offset : Nat) : Bool :=
  let (line, column) := d.offsetOf offset
  match d.lines[line]? with
  | some l => Text.isCut l.canonical column
  | none => column = 0

/-- `slice`, when it cuts between characters. -/
def slice? (d : Document κ) (start stop : Nat) : Option (Document κ) :=
  if min stop d.size ≤ start ∨ (d.isCut start ∧ d.isCut (min stop d.size)) then
    some (d.slice start stop)
  else none

/-- `splice`, when it cuts between characters. -/
def splice? (d : Document κ) (start stop : Nat) (replacement : Document κ) :
    Option (Document κ) :=
  if d.isCut (min start (min stop d.size)) ∧ d.isCut (min stop d.size) then
    some (d.splice start stop replacement)
  else none

end

/-- Count the leading spaces and tabs of every line. -/
def measure (d : Document Raw) : Document Measured := ofLines (d.lines.map Line.measure) d.config

/-- Turn the leading spaces and tabs of every line into a level, reporting each rounding. -/
def normalizeLines {σ : Type} [Sink σ] (d : Document Measured) (tabwidth : Nat) :
    Reporting σ (Document Normalized) := do
  return ofLines (← d.lines.mapM (Line.normalize tabwidth)) d.config

/-- The document as text, indented with tabs. -/
def renderTabs (d : Document Normalized) : String := d.text

/-- The document as text, indented with the given number of spaces for each level. -/
def renderSpaces (d : Document Normalized) (tabwidth : Nat) : String :=
  String.join (d.lines.map fun line => line.kind.renderSpaces tabwidth)

end Document

end SourcePrep
