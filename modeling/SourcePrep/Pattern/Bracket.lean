import SourcePrep.Pattern.CharSet

/-!
# Bracketed classes

A class in brackets is first read as tokens, with every escape resolved, and then by the grammar of
classes: ranges, nested classes, ASCII classes such as `[:alpha:]`, and the operators `&&`, `--` and
`~~`, which bind from the left. A `]` or `-` that comes first stands for itself.
-/

set_option autoImplicit false

namespace SourcePrep.Pattern

/-- A token between the brackets of a class. -/
inductive BracketToken
  /-- A character as written, which may be an operator. -/
  | raw (c : Char)
  /-- An escaped character, which stands for itself. -/
  | literal (c : Char)
  /-- An escaped class. -/
  | set (s : CharSet)

/-- An operator between two classes. -/
inductive BracketOp
  | inter
  | diff
  | symmDiff

/-- The set that an operator makes of two. -/
def BracketOp.apply : BracketOp → CharSet → CharSet → CharSet
  | inter => .inter
  | diff => .diff
  | symmDiff => .symmDiff

namespace Bracket

/-- A class being read: an operator with the class to its left, and the union of the items read
since. -/
structure Reading where
  pending : Option (BracketOp × CharSet)
  union : CharSet

/-- One more item. -/
def Reading.add (r : Reading) (s : CharSet) : Reading := { r with union := .union r.union s }

/-- The class read so far. -/
def Reading.result (ignoreCase : Bool) (r : Reading) : CharSet :=
  match r.pending with
  | some (op, left) => op.apply left (r.union.foldIf ignoreCase)
  | none => r.union.foldIf ignoreCase

/-- The character that a token stands for, when it is one. -/
def character? : BracketToken → Option Char
  | .raw c => some c
  | .literal c => some c
  | .set _ => none

/-- The set that a token stands for. -/
def item : BracketToken → CharSet
  | .raw c => .char c
  | .literal c => .char c
  | .set s => s

/-- The characters with a meaning of their own in a pattern. -/
def special : List Char := "\\.+*?()|[]\x7b\x7d^$#&-~".toList

/-- The character of a token, unless it is a special one that is escaped. -/
def plain? : BracketToken → Option Char
  | .raw c => some c
  | .literal c => if special.contains c then none else some c
  | .set _ => none

/-- The name of an ASCII class up to `:]`, and the tokens after it. -/
def asciiName? : List BracketToken → Option (List Char × List BracketToken)
  | [] => none
  | token :: rest => do
    let c ← plain? token
    if c = ':' then
      match rest with
      | .raw ']' :: after => return ([], after)
      | _ => none
    else
      let (name, after) ← asciiName? rest
      return (c :: name, after)

/-- An ASCII class, after its `[`. -/
def ascii? : List BracketToken → Option (CharSet × List BracketToken)
  | [] => none
  | token :: rest => do
    guard (plain? token = some ':')
    let (name, after) ← asciiName? rest
    match name with
    | '^' :: name => return (.compl (← CharSet.ascii? (String.ofList name)), after)
    | name => return (← CharSet.ascii? (String.ofList name), after)

/-- The `-` signs at the start of a class, which stand for themselves. -/
def leadingDashes (r : Reading) : List BracketToken → Reading × List BracketToken
  | .raw '-' :: rest => leadingDashes (r.add (.char '-')) rest
  | rest => (r, rest)

/-- What an open class starts with: its negation, and the characters that stand for themselves
there. -/
def start (tokens : List BracketToken) : Bool × Reading × List BracketToken :=
  let (negated, tokens) :=
    match tokens with
    | .raw '^' :: rest => (true, rest)
    | _ => (false, tokens)
  let (reading, rest) := leadingDashes ⟨none, .none⟩ tokens
  match tokens, rest with
  | .raw ']' :: _, .raw ']' :: after => (negated, reading.add (.char ']'), after)
  | _, _ => (negated, reading, rest)

/-- Read a class after its `[`, up to its `]`. -/
def read (ignoreCase : Bool) :
    Nat → Bool → Reading → List BracketToken → Option (CharSet × List BracketToken)
  | 0, _, _, _ => none
  | fuel + 1, negated, reading, tokens =>
    match tokens with
    | [] => none
    | .raw '[' :: rest =>
      match ascii? rest with
      | some (s, after) => read ignoreCase fuel negated (reading.add s) after
      | none => do
        let (innerNegated, inner, body) := start rest
        let (s, after) ← read ignoreCase fuel innerNegated inner body
        read ignoreCase fuel negated (reading.add s) after
    | .raw ']' :: rest => some ((reading.result ignoreCase).complIf negated, rest)
    | .raw '&' :: .raw '&' :: rest =>
      read ignoreCase fuel negated ⟨some (.inter, reading.result ignoreCase), .none⟩ rest
    | .raw '-' :: .raw '-' :: rest =>
      read ignoreCase fuel negated ⟨some (.diff, reading.result ignoreCase), .none⟩ rest
    | .raw '~' :: .raw '~' :: rest =>
      read ignoreCase fuel negated ⟨some (.symmDiff, reading.result ignoreCase), .none⟩ rest
    | first :: .raw '-' :: .raw ']' :: rest =>
      read ignoreCase fuel negated (reading.add (item first)) (.raw '-' :: .raw ']' :: rest)
    | first :: .raw '-' :: .raw '-' :: rest =>
      read ignoreCase fuel negated (reading.add (item first)) (.raw '-' :: .raw '-' :: rest)
    | first :: .raw '-' :: last :: rest => do
      let a ← character? first
      let b ← character? last
      if a ≤ b then read ignoreCase fuel negated (reading.add (.range a b)) rest else none
    | first :: rest => read ignoreCase fuel negated (reading.add (item first)) rest

/-- The class that the tokens between the outer brackets describe, the closing one included. -/
def parse? (ignoreCase : Bool) (tokens : List BracketToken) : Option CharSet := do
  let (negated, reading, body) := start tokens
  let (s, rest) ← read ignoreCase (2 * tokens.length + 2) negated reading body
  if rest.isEmpty then some s else none

end Bracket

end SourcePrep.Pattern
