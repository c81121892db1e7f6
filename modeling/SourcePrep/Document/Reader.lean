import SourcePrep.Document.Basic

/-!
# Reading text into a document

A text is cut into physical lines, each of which gets its number and ends in one newline, whether
the text has it or not. A carriage return before a newline is dropped.
-/

set_option autoImplicit false

namespace SourcePrep.Document

/-- A piece of text that ends after a newline or at the end of the text, as a line with exactly one
newline. -/
def terminate (piece : String) : String :=
  match piece.toList.reverse with
  | '\n' :: '\r' :: front => String.ofList front.reverse ++ "\n"
  | '\n' :: _ => piece
  | _ => piece ++ "\n"

/-- The lines of the pieces, numbered from `n`. -/
def numberLines (source : Path) (n : Nat) : List String → List (Line Raw)
  | [] => []
  | piece :: rest => ⟨⟨source, n⟩, ⟨terminate piece⟩⟩ :: numberLines source (n + 1) rest

/-- The text as one raw line for each physical line. -/
def read (source : Path) (content : String) (config : Configuration) : Document Raw :=
  ofLines (numberLines source 1 (Text.splitLines content)) config

end SourcePrep.Document
