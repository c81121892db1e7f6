import SourcePrep.Pattern.Expr

/-!
# The size of an automaton

A regular expression is refused when its automaton would be too large. The automaton reads a text
byte by byte, so that a set of characters stands for a tree of byte ranges, and a counted part is
written out as often as it may be repeated. `Expr.footprint` is the memory of the automaton that
reads a text backward, the larger of the two that a search may need.
-/

set_option autoImplicit false

namespace SourcePrep.Pattern

namespace Footprint

/-- The memory of a state. -/
def stateSize : Nat := 32

/-- The memory of a way out of a state that has many. -/
def edgeSize : Nat := 4

/-- The memory of a range in a state for several byte ranges. -/
def rangeSize : Nat := 8

/-- The largest automaton. -/
def limit : Nat := 10485760

/-- More than any set of characters takes. -/
def classBound : Nat := 262144

/-- The last code points with one, two and three bytes. -/
def lengthBounds : List Nat := [0x7F, 0x7FF, 0xFFFF]

/-- Where to cut a range of code points so that each part has one length in bytes. -/
def lengthCut? (first last : Nat) : Option Nat :=
  lengthBounds.find? fun m => first ≤ m && m < last

/-- Where to cut a range so that a byte takes all values between its ends when an earlier byte
varies. -/
def byteCut? (first last : Nat) : Option Nat :=
  [64, 4096, 262144].findSome? fun size =>
    if first / size = last / size then none
    else if first % size ≠ 0 then some (first / size * size + size - 1)
    else if last % size ≠ size - 1 then some (last / size * size - 1)
    else none

/-- The parts of a range of code points, each of which is a sequence of byte ranges. -/
def parts : Nat → Nat → Nat → List (Nat × Nat)
  | 0, first, last => [(first, last)]
  | fuel + 1, first, last =>
    let cut? := (lengthCut? first last).orElse fun _ =>
      if last ≤ 0x7F then none else byteCut? first last
    match cut? with
    | some m => parts fuel first m ++ parts fuel (m + 1) last
    | none => [(first, last)]

/-- The bytes of a code point. -/
def bytes (n : Nat) : List Nat :=
  if n ≤ 0x7F then [n]
  else if n ≤ 0x7FF then [n / 64, n % 64]
  else if n ≤ 0xFFFF then [n / 4096, n / 64 % 64, n % 64]
  else [n / 262144, n / 4096 % 64, n / 64 % 64, n % 64]

/-- The sequences of byte ranges of a table. -/
def sequences (t : Unicode.RangeTable) : List (List (Nat × Nat)) :=
  t.ranges.toList.flatMap fun (first, last) =>
    (parts 16 first last).map fun (first, last) => (bytes first).zip (bytes last)

/-- How many byte ranges two sequences start with in common. -/
def commonLength : List (Nat × Nat) → List (Nat × Nat) → Nat
  | a :: as, b :: bs => if a = b then commonLength as bs + 1 else 0
  | _, _ => 0

/-- The byte ranges of ascending sequences, those at the start of two neighbours counted once. -/
def treeSize : List (Nat × Nat) → List (List (Nat × Nat)) → Nat
  | _, [] => 0
  | before, s :: rest =>
    let common := if before.length = s.length then commonLength before s else 0
    s.length - common + treeSize s rest

/-- The memory for a table of characters. -/
def ofTable (t : Unicode.RangeTable) : Nat :=
  if t.ranges.all fun r => r.2 ≤ 0x7F then 2 * stateSize + rangeSize * t.ranges.size
  else
    let all := sequences t
    2 * stateSize + edgeSize * all.length + stateSize * treeSize [] all

/-- The memory for a set of characters. -/
def ofSet : CharSet → Nat
  | .char c => stateSize * c.utf8Size
  | s => ofTable s.toTable

/-- A bound for the memory for a set of characters that is found without looking at its members. -/
def boundOfSet : CharSet → Nat
  | .char c => stateSize * c.utf8Size
  | _ => classBound

end Footprint

namespace Expr

open Footprint

/-- The expression matches nothing but places. -/
def isWidthless : Expr → Bool
  | .empty => true
  | .check _ => true
  | .seq a b => a.isWidthless && b.isWidthless
  | .alt a .never => a.isWidthless
  | .alt a b => a.isWidthless && b.isWidthless
  | .group _ e => e.isWidthless
  | .repeated e _ hi _ => e.isWidthless || hi == some 0
  | _ => false

/-- The memory of the automaton for a regular expression, given the memory for a set. To match a
place more than once is to match it once. -/
def footprint (set : CharSet → Nat) : Expr → Nat
  | .one s => set s
  | .check _ => stateSize
  | .seq a b => a.footprint set + b.footprint set
  | .alt a b => a.footprint set + b.footprint set + stateSize + edgeSize
  | .group _ e => e.footprint set + 2 * stateSize
  | .repeated e lo hi _ =>
    let inner := e.footprint set
    let copies (n : Nat) := if e.isWidthless then min n 1 else n
    match hi with
    | none => inner * copies (max 1 lo) + stateSize + 2 * edgeSize
    | some hi =>
      inner * copies hi + (stateSize + 2 * edgeSize) * (copies hi - copies lo) + stateSize
  | _ => 0

/-- The automaton for a regular expression is not too large. -/
def fits (e : Expr) : Bool :=
  e.footprint boundOfSet ≤ Footprint.limit || e.footprint ofSet ≤ Footprint.limit

end Expr

end SourcePrep.Pattern
