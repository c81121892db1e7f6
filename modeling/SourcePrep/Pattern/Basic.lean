import SourcePrep.Pattern.Program

/-!
# Patterns and matches

`Pattern.compile` reads a pattern and `Pattern.firstMatch` finds its first match in a text, from a
byte offset on; the text before the offset still counts as what comes before. A match tells its
bounds as byte offsets and the text of each group that took part.
-/

set_option autoImplicit false

namespace SourcePrep

/-- A pattern that can be matched, and the text it was read from. -/
structure Pattern where
  source : String
  /-- The number of groups. -/
  groups : Nat
  /-- The names of groups, the latest first. -/
  names : List (String × Nat)
  program : Pattern.Program

/-- A match of a pattern in a text. -/
structure Match where
  /-- The byte offset where the match starts. -/
  start : Nat
  /-- The byte offset where the match ends. -/
  stop : Nat
  /-- The text of each group that took part; the first is the whole match. -/
  groups : List (Option String)
  names : List (String × Nat)
  deriving Repr

namespace Match

/-- Nothing was matched but a place. -/
def isEmpty (m : Match) : Bool := m.start = m.stop

/-- The text of the group with a number, if it took part. -/
def group? (m : Match) (n : Nat) : Option String := m.groups[n]?.join

/-- The text of the group with a name, if it took part. -/
def named? (m : Match) (name : String) : Option String := (m.names.lookup name).bind m.group?

/-- The number of groups, the whole match not counted. -/
def groupCount (m : Match) : Nat := m.groups.length - 1

end Match

namespace Pattern

/-- What can go wrong with a pattern. -/
inductive Failure
  /-- The text is not a pattern. -/
  | malformed (source : String)
  /-- The search went back to an earlier choice too often. -/
  | exhausted (source : String)
  /-- The search had too many choices to go back to. -/
  | overflowed (source : String)
  deriving DecidableEq, Repr

namespace Failure

/-- What the matcher says. -/
def reason : Failure → String
  | malformed _ => "Parsing error: malformed pattern"
  | exhausted _ => "Error executing regex: Max limit for backtracking count exceeded"
  | overflowed _ => "Error executing regex: Max stack size exceeded for backtracking"

/-- What is reported. -/
def message : Failure → String
  | malformed source => s!"invalid pattern '{source}': {(malformed source).reason}"
  | exhausted source => s!"pattern '{source}' failed while matching: {(exhausted source).reason}"
  | overflowed source => s!"pattern '{source}' failed while matching: {(overflowed source).reason}"

/-- The failure as a chain of causes, outermost first. -/
def causes (f : Failure) : List String := [f.message, f.reason]

end Failure

/-- Read a pattern in the given modes. -/
def compile (source : String) (flags : Flags) : Except Failure Pattern :=
  let program? := do
    let parsed ← Parse.parse? (flags.inline ++ source)
    return (parsed, ← Program.compile? parsed)
  match program? with
  | some (parsed, program) => .ok ⟨source, parsed.groups, parsed.names, program⟩
  | none => .error (.malformed source)

/-- The number of characters before a byte offset. -/
def charsBefore : List Char → Nat → Nat
  | [], _ => 0
  | c :: cs, n => if n = 0 then 0 else 1 + charsBefore cs (n - c.utf8Size)

/-- The place at a byte offset, or the next one when the offset lies inside a character. -/
def placeAt (subject : Array Char) (offset : Nat) : Nat :=
  if offset = 0 then 0 else charsBefore subject.toList offset

/-- The byte offset of a place. -/
def byteOffset (subject : Array Char) (place : Nat) : Nat :=
  subject.foldl (fun n c => n + c.utf8Size) 0 0 place

/-- The bounds of a group, as byte offsets, if it took part. -/
def groupBounds (subject : Array Char) (slots : Slots) (n : Nat) : Option (Nat × Nat) := do
  let start ← slots[2 * n]?.join
  let stop ← slots[2 * n + 1]?.join
  return (byteOffset subject start, byteOffset subject stop)

/-- The match in a text that slots stand for. -/
def matchOf (p : Pattern) (text : String) (subject : Array Char) (slots : Slots) : Match :=
  let bounds := groupBounds subject slots
  let (start, stop) := (bounds 0).getD (0, 0)
  let groupText n := (bounds n).map fun (start, stop) => Text.slice text start stop
  { start, stop
    groups := some (Text.slice text start stop) :: (List.range p.groups).map (groupText <| · + 1)
    names := p.names }

/-- The slots of the first match from a place on. -/
def firstSlots (p : Pattern) (subject : Array Char) (i : Nat) : Except Failure (Option Slots) :=
  match p.program with
  | .linear e =>
    .ok (e.search subject (Array.replicate (2 * (p.groups + 1)) none) i)
  | .backtracking code slots =>
    match Machine.search code subject slots i with
    | .found slots => .ok (some slots)
    | .failed => .ok none
    | .exhausted => .error (.exhausted p.source)
    | .overflowed => .error (.overflowed p.source)

/-- The first match in a text that starts at a byte offset or after it. -/
def firstMatch (p : Pattern) (text : String) (start : Nat) : Except Failure (Option Match) := do
  let subject := Text.chars text
  let slots? ← p.firstSlots subject (placeAt subject start)
  return slots?.map (p.matchOf text subject)

/-- The pattern matches somewhere in a text. -/
def isMatch (p : Pattern) (text : String) : Except Failure Bool := do
  return (← p.firstSlots (Text.chars text) 0).isSome

end Pattern

end SourcePrep
