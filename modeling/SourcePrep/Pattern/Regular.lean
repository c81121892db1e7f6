import SourcePrep.Pattern.Expr

/-!
# Matching regular expressions in linear time

`Regular.exec` explores the ways to match in order of preference and hands the first one on to what
follows. Every choice has a key of its own and remembers the places where it has been made: what
failed once from there fails again, so no choice is made twice at one place.

Places are indices into the characters of the text. Slot `2 * n` of a match holds where group `n`
starts, and slot `2 * n + 1` where it ends. A *window* says in which direction a text is read and
where it is over; what is around the window still counts for the tests of a place.
-/

set_option autoImplicit false

namespace SourcePrep.Pattern

/-- Where the groups of a match start and end, as far as they are known. -/
abbrev Slots := Array (Option Nat)

/-- A text to be read from some place on. -/
structure Window where
  subject : Array Char
  /-- The text is read towards its start. -/
  backward : Bool
  /-- No character is read from here on. -/
  stop : Nat

namespace Window

/-- The whole text, read forward. -/
def whole (subject : Array Char) : Window := ⟨subject, false, subject.size⟩

/-- The text read backward. -/
def reversed (subject : Array Char) : Window := ⟨subject, true, subject.size⟩

/-- The text up to a place, read forward. -/
def upTo (subject : Array Char) (stop : Nat) : Window := ⟨subject, false, stop⟩

/-- The character that is read next from a place. -/
@[inline] def next? (w : Window) (i : Nat) : Option Char :=
  if w.backward then (if i = 0 then none else w.subject[i - 1]?)
  else if i < w.stop then w.subject[i]?
  else none

/-- The place after so many characters. -/
@[inline] def move (w : Window) (i n : Nat) : Nat := if w.backward then i - n else i + n

/-- How many characters can be read from a place at most. -/
def room (w : Window) (i : Nat) : Nat := if w.backward then i else w.stop - i

end Window

/-- The slots with one of them set. -/
def Slots.mark (slots : Slots) (slot place : Nat) : Slots := slots.setIfInBounds slot (some place)

/-- An expression that is matched in linear time. -/
inductive Regular
  | empty
  | never
  | one (s : CharSet)
  | check (a : Assertion)
  | seq (first rest : Regular)
  | alt (key : Nat) (first rest : Regular)
  | group (index : Nat) (e : Regular)
  | optional (key : Nat) (greedy : Bool) (e : Regular)
  /-- Any number of characters of a set. -/
  | run (key : Nat) (greedy : Bool) (s : CharSet)
  /-- Any number of times, or any number but zero. -/
  | loop (key : Nat) (greedy atLeastOnce : Bool) (e : Regular)

/-- What is remembered of a place: that a choice was made or an iteration began there, that an
iteration ended there, or that the loop was left there. -/
inductive Event
  | choice
  | iterationEnd
  | leave
  deriving DecidableEq, Repr

/-- The index of an event among those of one key. -/
def Event.index : Event → Nat
  | choice => 0
  | iterationEnd => 1
  | leave => 2

/-- A set of places, by their distance from some origin. -/
abbrev Places := Array Bool

namespace Places

@[inline] def has (places : Places) (n : Nat) : Bool := places.getD n false

/-- The places and one more. -/
def add (places : Places) (n : Nat) : Places :=
  if n < places.size then places.setIfInBounds n true
  else if n = places.size then places.push true
  else (places ++ Array.replicate (n - places.size) false).push true

end Places

/-- The points that have been explored: for each event of each key, the places where it took place.
-/
structure Explored where
  /-- Where the search began. -/
  origin : Nat
  rows : Array Places

namespace Explored

/-- Nothing has been explored in a search that begins at a place. -/
def startingAt (origin : Nat) : Explored := ⟨origin, #[]⟩

/-- The row of an event of a key. -/
def row (key : Nat) (event : Event) : Nat := 3 * key + event.index

/-- How far a place is from the origin, in either direction. -/
def distance (explored : Explored) (place : Nat) : Nat :=
  (place - explored.origin) + (explored.origin - place)

/-- The point has been explored. -/
def has (explored : Explored) (row place : Nat) : Bool :=
  (explored.rows.getD row #[]).has (explored.distance place)

/-- Put places into a row. -/
def put (explored : Explored) (row : Nat) (places : Places) : Explored :=
  let ⟨origin, rows⟩ := explored
  if row < rows.size then ⟨origin, rows.setIfInBounds row places⟩
  else ⟨origin, (rows ++ Array.replicate (row - rows.size) #[]).push places⟩

/-- Take the places out of a row. -/
def take (explored : Explored) (row : Nat) : Places × Explored :=
  let ⟨origin, rows⟩ := explored
  if h : row < rows.size then
    let (places, rows) := rows.swapAt row #[] h
    (places, ⟨origin, rows⟩)
  else (#[], ⟨origin, rows⟩)

/-- The point is explored. -/
def add (explored : Explored) (row place : Nat) : Explored :=
  let n := explored.distance place
  let (places, explored) := explored.take row
  explored.put row (places.add n)

end Explored

/-- What came of an attempt: a match, or the points explored in vain. -/
inductive Attempt
  | found (place : Nat) (slots : Slots)
  | failed (explored : Explored)

/-- What follows in a match. -/
abbrev Continuation := Nat → Slots → Explored → Attempt

namespace Attempt

/-- The attempt, or else another with what was explored by then. -/
def orElse (first : Attempt) (second : Explored → Attempt) : Attempt :=
  match first with
  | .found place slots => .found place slots
  | .failed explored => second explored

end Attempt

namespace Regular

/-- Go through a point unless it has been explored. -/
def explore (row place : Nat) (explored : Explored) (k : Explored → Attempt) : Attempt :=
  if explored.has row place then .failed explored else k (explored.add row place)

/-- Follow a run of characters of a set through places that have not been explored, from a place at
distance `d` on. Gives back the distance of the last place, and the places explored by then. -/
def follow (w : Window) (s : CharSet) : Nat → Nat → Nat → Places → Nat × Places
  | 0, _, d, places => (d, places)
  | fuel + 1, i, d, places =>
    match w.next? i with
    | some c =>
      if s.contains c && !places.has (d + 1) then
        follow w s fuel (w.move i 1) (d + 1) (places.add (d + 1))
      else (d, places)
    | none => (d, places)

/-- Go on from each of the places up to `n` characters away from `i`, the farthest one first. -/
def farthestFirst (w : Window) (k : Continuation) (i : Nat) : Nat → Slots → Explored → Attempt
  | 0, slots, explored => k i slots explored
  | n + 1, slots, explored =>
    (k (w.move i (n + 1)) slots explored).orElse fun explored =>
      farthestFirst w k i n slots explored

/-- Read as many characters of a set as there are, then fewer and fewer. -/
def longestRun (w : Window) (row : Nat) (s : CharSet) (i : Nat) (slots : Slots)
    (explored : Explored) (k : Continuation) : Attempt :=
  let (places, rest) := explored.take row
  let start := rest.distance i
  if places.has start then .failed (rest.put row places)
  else
    let (stop, places) := follow w s (w.room i) i start (places.add start)
    farthestFirst w k i (stop - start) slots (rest.put row places)

/-- Read as few characters of a set as there may be, then more and more. -/
def shortestRun (w : Window) (row : Nat) (s : CharSet) (k : Continuation) : Nat → Continuation
  | 0, _, _, explored => .failed explored
  | fuel + 1, i, slots, explored =>
    explore row i explored fun explored =>
      (k i slots explored).orElse fun explored =>
        match w.next? i with
        | some c =>
          if s.contains c then shortestRun w row s k fuel (w.move i 1) slots explored
          else .failed explored
        | none => .failed explored

/-- Two ways to go on, in the given order or in the other. -/
def either (inOrder : Bool) (explored : Explored) (a b : Explored → Attempt) : Attempt :=
  if inOrder then (a explored).orElse b else (b explored).orElse a

/-- Leave a loop. -/
def leave (key : Nat) (k : Continuation) (i : Nat) (slots : Slots) (explored : Explored) :
    Attempt :=
  explore (Explored.row key .leave) i explored fun explored => k i slots explored

/-- What follows an iteration of a loop: one more, or the way out. `body` runs one iteration. An
iteration that ends where the one before it ended leads nowhere. -/
def afterIteration (body : Nat → Slots → Explored → Continuation → Attempt) (key : Nat)
    (greedy : Bool) (k : Continuation) : Nat → Continuation
  | 0, _, _, explored => .failed explored
  | fuel + 1, i, slots, explored =>
    explore (Explored.row key .iterationEnd) i explored fun explored =>
      either greedy explored
        (fun explored =>
          explore (Explored.row key .choice) i explored fun explored =>
            body i slots explored (afterIteration body key greedy k fuel))
        (leave key k i slots)

/-- Match an expression from a place on, and go on with what follows. -/
def exec (w : Window) : Regular → Nat → Slots → Explored → Continuation → Attempt
  | .empty, i, slots, explored, k => k i slots explored
  | .never, _, _, explored, _ => .failed explored
  | .one s, i, slots, explored, k =>
    match w.next? i with
    | some c => if s.contains c then k (w.move i 1) slots explored else .failed explored
    | none => .failed explored
  | .check a, i, slots, explored, k =>
    if a.holds w.subject i then k i slots explored else .failed explored
  | .seq first rest, i, slots, explored, k =>
    first.exec w i slots explored fun i slots explored => rest.exec w i slots explored k
  | .alt key first rest, i, slots, explored, k =>
    explore (Explored.row key .choice) i explored fun explored =>
      (first.exec w i slots explored k).orElse fun explored => rest.exec w i slots explored k
  | .group n e, i, slots, explored, k =>
    e.exec w i (slots.mark (2 * n) i) explored fun j slots explored =>
      k j (slots.mark (2 * n + 1) j) explored
  | .optional key greedy e, i, slots, explored, k =>
    explore (Explored.row key .choice) i explored fun explored =>
      either greedy explored
        (fun explored => e.exec w i slots explored k)
        (fun explored => k i slots explored)
  | .run key greedy s, i, slots, explored, k =>
    if greedy then longestRun w (Explored.row key .choice) s i slots explored k
    else shortestRun w (Explored.row key .choice) s k (w.room i + 1) i slots explored
  | .loop key greedy atLeastOnce e, i, slots, explored, k =>
    let after := afterIteration (e.exec w) key greedy k (w.room i + 2)
    let iteration := fun explored =>
      explore (Explored.row key .choice) i explored fun explored =>
        e.exec w i slots explored after
    if atLeastOnce then iteration explored
    else either greedy explored iteration (leave key k i slots)

/-- The first match that starts at a place. -/
def matchAt (w : Window) (e : Regular) (i : Nat) (slots : Slots) : Attempt :=
  e.exec w i slots (.startingAt i) fun j slots _ => .found j slots

/-- The leftmost match that starts at a place or after it. -/
def searchFrom (subject : Array Char) (e : Regular) (slots : Slots) :
    Nat → Nat → Explored → Option Slots
  | 0, _, _ => none
  | fuel + 1, i, explored =>
    match e.exec (.whole subject) i slots explored fun j slots _ => .found j slots with
    | .found _ found => some found
    | .failed explored => searchFrom subject e slots fuel (i + 1) explored

/-- The leftmost match that starts at a place or after it. -/
def search (subject : Array Char) (e : Regular) (slots : Slots) (i : Nat) : Option Slots :=
  e.searchFrom subject slots (subject.size + 1 - i) i (.startingAt i)

end Regular

end SourcePrep.Pattern
