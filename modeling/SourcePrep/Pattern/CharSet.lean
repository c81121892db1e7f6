import SourcePrep.Text.Blank
import SourcePrep.Unicode.CaseFold
import SourcePrep.Unicode.Property

/-!
# Sets of characters

What one step of a pattern can match: a character, a range, a class, or a combination of these.
`CharSet.folded` adds to a set every character that is the same as a member up to case.
-/

set_option autoImplicit false

namespace SourcePrep.Pattern

/-- A set of characters. -/
inductive CharSet
  | none
  | all
  | char (c : Char)
  | range (first last : Char)
  | blank
  | digit
  | word
  | table (t : Unicode.RangeTable)
  | union (a b : CharSet)
  | inter (a b : CharSet)
  | diff (a b : CharSet)
  | symmDiff (a b : CharSet)
  | compl (a : CharSet)
  | folded (a : CharSet)

namespace CharSet

/-- The character is in the set. -/
def contains : CharSet → Char → Bool
  | none, _ => false
  | all, _ => true
  | char d, c => c == d
  | range first last, c => first ≤ c && c ≤ last
  | blank, c => Text.isBlank c
  | digit, c => Unicode.isDecimalDigit c
  | word, c => Unicode.isWord c
  | table t, c => t.contains c
  | union a b, c => a.contains c || b.contains c
  | inter a b, c => a.contains c && b.contains c
  | diff a b, c => a.contains c && !b.contains c
  | symmDiff a b, c => a.contains c != b.contains c
  | compl a, c => !a.contains c
  | folded a, c => a.contains c || (Unicode.CaseFold.others c).any a.contains

/-- The characters of a table and those that are the same as one of them up to case. -/
def foldedTable (t : Unicode.RangeTable) : Unicode.RangeTable :=
  let others := Unicode.CaseFold.entries.toList.filter fun entry =>
    entry.2.any fun n => t.contains (Char.ofNat n)
  t ∪ .ofPoints (others.map (·.1))

/-- The set as a table. -/
def toTable : CharSet → Unicode.RangeTable
  | none => .none
  | all => .all
  | char d => .range d d
  | range first last => .range first last
  | blank => Unicode.Binary.whiteSpace
  | digit => Unicode.Category.decimalNumber
  | word => Unicode.wordTable
  | table t => t
  | union a b => a.toTable ∪ b.toTable
  | inter a b => a.toTable ∩ b.toTable
  | diff a b => a.toTable \ b.toTable
  | symmDiff a b => a.toTable.symmDiff b.toTable
  | compl a => a.toTable.compl
  | folded a => foldedTable a.toTable

/-- The set of a literal character, up to case if asked. -/
def literal (c : Char) (ignoreCase : Bool) : CharSet :=
  if ignoreCase then .folded (.char c) else .char c

/-- The set, closed under case if asked. -/
def foldIf (ignoreCase : Bool) (s : CharSet) : CharSet := if ignoreCase then .folded s else s

/-- The complement, if asked. -/
def complIf (negated : Bool) (s : CharSet) : CharSet := if negated then .compl s else s

/-- Everything but a newline. -/
def notNewline : CharSet := .compl (.char '\n')

/-- The hexadecimal digits. -/
def hexDigit : CharSet := .union (.range '0' '9') (.union (.range 'A' 'F') (.range 'a' 'f'))

/-- The letters and digits of ASCII. -/
def asciiAlphanumeric : CharSet :=
  .union (.range '0' '9') (.union (.range 'A' 'Z') (.range 'a' 'z'))

/-- The ASCII class with the given name, as in `[:alpha:]`. -/
def ascii? : String → Option CharSet
  | "alnum" => some asciiAlphanumeric
  | "alpha" => some (.union (.range 'A' 'Z') (.range 'a' 'z'))
  | "ascii" => some (.range '\x00' '\x7f')
  | "blank" => some (.union (.char '\t') (.char ' '))
  | "cntrl" => some (.union (.range '\x00' '\x1f') (.char '\x7f'))
  | "digit" => some (.range '0' '9')
  | "graph" => some (.range '!' '~')
  | "lower" => some (.range 'a' 'z')
  | "print" => some (.range ' ' '~')
  | "punct" => some (.diff (.range '!' '~') asciiAlphanumeric)
  | "space" => some (.union (.range '\t' '\r') (.char ' '))
  | "upper" => some (.range 'A' 'Z')
  | "word" => some (.union asciiAlphanumeric (.char '_'))
  | "xdigit" => some hexDigit
  | _ => Option.none

end CharSet

end SourcePrep.Pattern
