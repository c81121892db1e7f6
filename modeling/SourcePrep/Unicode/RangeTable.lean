/-!
# Tables of character ranges

A class of characters as ranges of code points, in ascending order and apart from each other,
written as text: hexadecimal numbers, a range with a dash, parted by blanks. `contains` halves the
table until one range is left.

Tables are combined through their *boundaries*, the places where membership changes: `combine` walks
along the boundaries of two tables and keeps the places where a combination of the two changes.
-/

set_option autoImplicit false

namespace SourcePrep.Unicode

/-- The value of a hexadecimal digit in capitals; other characters count as zero. -/
def hexDigitValue (c : Char) : Nat :=
  if '0' ≤ c && c ≤ '9' then c.toNat - '0'.toNat
  else if 'A' ≤ c && c ≤ 'F' then c.toNat - 'A'.toNat + 10
  else 0

/-- Ranges of code points, in ascending order. -/
structure RangeTable where
  ranges : Array (Nat × Nat)
  deriving DecidableEq, Repr, Inhabited

namespace RangeTable

/-- A table being read: the ranges so far, the first number of the current range when a dash was
met, and the number being read. -/
structure Reading where
  ranges : Array (Nat × Nat)
  first : Option Nat
  current : Nat

/-- Read one character of a table. -/
def Reading.step : Reading → Char → Reading
  | ⟨ranges, first, current⟩, c =>
    if c = ' ' || c = '\n' then ⟨ranges.push (first.getD current, current), none, 0⟩
    else if c = '-' then ⟨ranges, some current, 0⟩
    else ⟨ranges, first, current * 16 + hexDigitValue c⟩

/-- The table that a text describes. -/
def ofText (s : String) : RangeTable :=
  let all := s.toList.foldl Reading.step ⟨#[], none, 0⟩
  ⟨all.ranges.push (all.first.getD all.current, all.current)⟩

/-- The table of no characters. -/
def none : RangeTable := ⟨#[]⟩

/-- The table of all characters. -/
def all : RangeTable := ⟨#[(0, 0xD7FF), (0xE000, 0x10FFFF)]⟩

/-- The table of the characters from one to another. -/
def range (first last : Char) : RangeTable := ⟨#[(first.toNat, last.toNat)]⟩

/-- One of the ranges `lo` to `hi - 1` of the table holds the code point. -/
def containsIn (t : RangeTable) (n : Nat) : Nat → Nat → Nat → Bool
  | 0, _, _ => false
  | fuel + 1, lo, hi =>
    if hi ≤ lo then false
    else
      let mid := (lo + hi) / 2
      match t.ranges[mid]? with
      | .none => false
      | some (first, last) =>
        if n < first then t.containsIn n fuel lo mid
        else if last < n then t.containsIn n fuel (mid + 1) hi
        else true

/-- The character is in one of the ranges. -/
def contains (t : RangeTable) (c : Char) : Bool :=
  t.containsIn c.toNat (t.ranges.size + 1) 0 t.ranges.size

/-- The places where membership changes: where a range starts, and where one is over. -/
def boundaries (t : RangeTable) : List Nat :=
  t.ranges.toList.flatMap fun (first, last) => [first, last + 1]

/-- The ranges between boundaries, the first of which starts a range. -/
def rangesBetween : List Nat → List (Nat × Nat)
  | first :: stop :: rest => (first, stop - 1) :: rangesBetween rest
  | _ => []

/-- The table with the given boundaries. -/
def ofBoundaries (places : List Nat) : RangeTable := ⟨(rangesBetween places).toArray⟩

/-- One more boundary, if membership changes there. -/
def boundaryIf (before after : Bool) (place : Nat) (rest : List Nat) : List Nat :=
  if before = after then rest else place :: rest

/-- The boundaries of a combination of two tables, given what is left of the boundaries of each and
whether the walk is inside of each. -/
def combine (f : Bool → Bool → Bool) : List Nat → List Nat → Bool → Bool → List Nat
  | [], [], _, _ => []
  | p :: as, [], inA, inB => boundaryIf (f inA inB) (f (!inA) inB) p (combine f as [] (!inA) inB)
  | [], q :: bs, inA, inB => boundaryIf (f inA inB) (f inA (!inB)) q (combine f [] bs inA (!inB))
  | p :: as, q :: bs, inA, inB =>
    if p < q then boundaryIf (f inA inB) (f (!inA) inB) p (combine f as (q :: bs) (!inA) inB)
    else if q < p then boundaryIf (f inA inB) (f inA (!inB)) q (combine f (p :: as) bs inA (!inB))
    else boundaryIf (f inA inB) (f (!inA) (!inB)) p (combine f as bs (!inA) (!inB))
termination_by as bs => as.length + bs.length

/-- The table of the characters for which a combination of two tables holds. It must not hold
outside of both. -/
def combined (f : Bool → Bool → Bool) (a b : RangeTable) : RangeTable :=
  ofBoundaries (combine f a.boundaries b.boundaries false false)

instance : Union RangeTable := ⟨combined fun a b => a || b⟩

instance : Inter RangeTable := ⟨combined fun a b => a && b⟩

instance : SDiff RangeTable := ⟨combined fun a b => a && !b⟩

/-- The characters in one of two tables and not in both. -/
def symmDiff (a b : RangeTable) : RangeTable := combined (fun a b => a != b) a b

/-- The characters that are not in a table. -/
def compl (t : RangeTable) : RangeTable := all \ t

/-- The table of some code points in ascending order. -/
def ofPoints (points : List Nat) : RangeTable :=
  combined (fun a _ => a) (ofBoundaries (points.flatMap fun n => [n, n + 1])) none

end RangeTable

end SourcePrep.Unicode
