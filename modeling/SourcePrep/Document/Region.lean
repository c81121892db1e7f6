import SourcePrep.Document.Basic

/-!
# Replacing a region by text

`Document.replaceRegion` makes new lines out of a text that takes the place of a whole document, and
gives each a position in the document replaced: with `n` pieces in place of `m` lines, piece `i`
takes the position of line `i * m / n`.
-/

set_option autoImplicit false

namespace SourcePrep

/-- A text cannot take the place of a region without lines: it would have no position. -/
structure EmptyRegion where
  /-- The length of the text. -/
  size : Nat
  deriving DecidableEq, Repr

/-- What is reported about such a text. -/
def EmptyRegion.message (e : EmptyRegion) : String :=
  s!"cannot replace an empty region with {e.size} bytes of text"

namespace Document

variable {σ : Type} [Sink σ]

/-- Piece `i` of `n` as a line. A piece that starts a physical line is measured and normalized; the
first piece of a region that starts inside a line is content as it stands. -/
def regionLine (d : Document Normalized) (n : Nat) (startsLine : Bool) (i : Nat) (piece : String) :
    Reporting σ (Line Normalized) := do
  let replaced ← orFault .line d.lines[min (i * d.lineCount / n) (d.lineCount - 1)]?
  if i = 0 && !startsLine then return ⟨replaced.position, ⟨0, piece⟩⟩
  else Line.normalize d.config.tabwidth ⟨replaced.position, .ofText piece⟩

/-- The lines of the pieces from number `i` on. -/
def regionLines (d : Document Normalized) (n : Nat) (startsLine : Bool) (i : Nat) :
    List String → Reporting σ (List (Line Normalized))
  | [] => return []
  | piece :: rest => do
    let line ← d.regionLine n startsLine i piece
    return line :: (← d.regionLines n startsLine (i + 1) rest)

/-- The document that a text makes in place of the whole of this one. -/
def replaceRegion (d : Document Normalized) (text : String) (startsLine : Bool) :
    Reporting σ (Except EmptyRegion (Document Normalized)) := do
  if text.isEmpty then return .ok (empty d.config)
  else if d.isEmpty then return .error ⟨Text.size text⟩
  else
    let pieces := Text.splitLines text
    return .ok (ofLines (← d.regionLines pieces.length startsLine 0 pieces) d.config)

end Document

end SourcePrep
