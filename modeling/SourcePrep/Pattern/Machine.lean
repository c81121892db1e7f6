import SourcePrep.Pattern.Regular

/-!
# Matching by backtracking

Expressions with look-around, references, atomic groups or conditions are matched by a machine that
runs a list of instructions. Where there are two ways to go on, it puts one of them on a stack of
*branches*, and when it fails, it returns to the latest branch, with the slots as they were then.
Every such return is counted, and a search gives up when the count passes `Machine.returnLimit` or
the stack `Machine.stackLimit`. A part that is regular is matched in linear time, and its first
match is final.

An atomic part notes how many branches there were when it was entered, and drops all later ones when
it is left. The notes are themselves a stack. A condition is tested in this way too, and one that
does not hold leaves its note behind, so that an atomic part around it keeps the branches from
before the condition.

Besides the groups, the slots hold the places to come back to after a look-around and the counters
of loops.
-/

set_option autoImplicit false

namespace SourcePrep.Pattern

/-- An instruction. Addresses are indices into the list of instructions. -/
inductive Instr
  | one (s : CharSet)
  | check (a : Assertion)
  /-- A regular part; the groups in it are forgotten before it is matched. -/
  | regular (groups : List Nat) (e : Regular)
  /-- A regular part that ends here. It is matched backward to find where it starts, and then
  forward from there for the groups in it. -/
  | regularBefore (groups : List Nat) (backward forward : Regular)
  /-- Two ways to go on, the first one first. -/
  | split (first second : Nat)
  | jump (target : Nat)
  /-- Note the place in a slot. -/
  | save (slot : Nat)
  /-- Set a counter to zero. -/
  | zero (counter : Nat)
  /-- Go back to the place in a slot. -/
  | restore (slot : Nat)
  /-- The head of a loop that runs between `min` and `max` times and goes on at `exit`. -/
  | loop (min : Nat) (max : Option Nat) (greedy : Bool) (exit counter : Nat)
  /-- The head of a loop of at least `min` iterations, which is left after one without progress. The
  slot `began` holds where the latest iteration beyond the least number began. -/
  | progressingLoop (min : Nat) (greedy : Bool) (exit counter began : Nat)
  /-- Go back so many characters. -/
  | back (n : Nat)
  /-- What must not match has matched: fail, and forget the branches made on the way. -/
  | refuse
  | reference (index : Nat) (ignoreCase : Bool)
  | isSet (index : Nat)
  | enterAtomic
  | leaveAtomic
  /-- The place where the search started. -/
  | searchStart
  | done

/-- What came of a search. -/
inductive Outcome
  | found (slots : Slots)
  | failed
  /-- The search went back to an earlier choice too often. -/
  | exhausted
  /-- There were too many branches to go back to. -/
  | overflowed

namespace Machine

/-- The number of returns to an earlier branch that a search may make. -/
def returnLimit : Nat := 1000000

/-- The number of branches that a search may have. -/
def stackLimit : Nat := 1000000

/-- The number of instructions that a search may run. It is beyond what the other limits allow, save
for loops of that many iterations. -/
def stepLimit : Nat := 1000000000000

/-- A way to go on. -/
structure Branch where
  address : Nat
  place : Nat
  slots : Slots
  /-- The notes of atomic parts, the latest first. -/
  notes : List Nat
  /-- The number of branches below it on the stack. -/
  depth : Nat

/-- The state of the machine. -/
structure State where
  address : Nat
  place : Nat
  slots : Slots
  notes : List Nat
  stack : List Branch
  /-- How often the machine went back to a branch. -/
  returns : Nat

/-- What one instruction leads to. -/
inductive Step
  | next (s : State)
  | fail (s : State)
  | accept (slots : Slots)
  | overflow

namespace State

/-- The number of branches on the stack. -/
def depth (s : State) : Nat :=
  match s.stack with
  | [] => 0
  | b :: _ => b.depth + 1

/-- Go on at an address, with a branch to another one if there is room for it. -/
def fork (s : State) (first second : Nat) : Step :=
  if stackLimit ≤ s.depth then .overflow
  else
    let branch : Branch := ⟨second, s.place, s.slots, s.notes, s.depth⟩
    .next { s with address := first, stack := branch :: s.stack }

/-- Go on with the next instruction. -/
def advance (s : State) : Step := .next { s with address := s.address + 1 }

/-- Go on with the next instruction at another place. -/
def advanceTo (s : State) (place : Nat) : Step :=
  .next { s with address := s.address + 1, place }

/-- The state with a slot set. -/
def mark (s : State) (slot value : Nat) : State := { s with slots := s.slots.mark slot value }

/-- The value of a slot, or zero. -/
def value (s : State) (slot : Nat) : Nat := (s.slots[slot]?.join).getD 0

end State

/-- The slots without what is known of some groups. -/
def forget (slots : Slots) (groups : List Nat) : Slots :=
  groups.foldl
    (fun slots n => (slots.setIfInBounds (2 * n) none).setIfInBounds (2 * n + 1) none) slots

/-- The characters of a text from one place up to another. -/
def between (subject : Array Char) (i j : Nat) : List Char := (subject.extract i j).toList

/-- The place so many bytes after another, if it is one. -/
def placeAfter? (subject : Array Char) : Nat → Nat → Option Nat
  | 0, i => some i
  | bytes + 1, i =>
    match subject[i]? with
    | none => none
    | some c =>
      if c.utf8Size ≤ bytes + 1 then placeAfter? subject (bytes + 1 - c.utf8Size) (i + 1) else none
termination_by bytes => bytes
decreasing_by
  have := c.utf8Size_pos
  omega

/-- The characters at the start of a text are the wanted ones up to case. -/
def startsLike (wanted text : List Char) : Bool :=
  wanted.length ≤ text.length && (wanted.zip text).all fun (a, b) => Unicode.CaseFold.same a b

/-- Somewhere in a text the wanted characters stand, up to case. -/
def holdsLike (wanted : List Char) : List Char → Bool
  | [] => wanted.isEmpty
  | c :: rest => startsLike wanted (c :: rest) || holdsLike wanted rest

/-- The text is like the wanted one. It is as long in bytes. Up to case, it is enough that a text
beyond ASCII holds the wanted one somewhere. -/
def isLike (ignoreCase : Bool) (wanted text : List Char) : Bool :=
  wanted == text ||
    (ignoreCase &&
      if text.all (·.toNat < 128) then wanted.map Char.toLower == text.map Char.toLower
      else holdsLike wanted text)

/-- The place after a copy of what a group matched, if one comes next. -/
def referenceEnd? (subject : Array Char) (index : Nat) (ignoreCase : Bool) (i : Nat)
    (slots : Slots) : Option Nat := do
  let start ← (← slots[2 * index]?)
  let stop ← (← slots[2 * index + 1]?)
  let wanted := between subject start stop
  let size := wanted.foldl (fun n c => n + c.utf8Size) 0
  let j ← placeAfter? subject size i
  guard (isLike ignoreCase wanted (between subject i j))
  return j

/-- The head of a loop, whose body is the next instruction. -/
def loopStep (min : Nat) (max : Option Nat) (greedy : Bool) (exit counter : Nat) (s : State) :
    Step :=
  let count := s.value counter
  if max = some count then .next { s with address := exit }
  else
    let s := s.mark counter (count + 1)
    if count < min then s.advance
    else if greedy then s.fork (s.address + 1) exit
    else s.fork exit (s.address + 1)

/-- The head of a loop that is left after an iteration without progress, whose body is the next
instruction. -/
def progressingLoopStep (min : Nat) (greedy : Bool) (exit counter began : Nat) (s : State) : Step :=
  let count := s.value counter
  if 0 < count && s.slots[began]?.join = some s.place then .next { s with address := exit }
  else
    let s := s.mark counter (count + 1)
    let body := s.address + 1
    if count < min then s.advance
    else
      let s := s.mark began s.place
      if greedy then s.fork body exit else s.fork exit body

/-- Match a regular part that ends at the current place. -/
def beforeStep (subject : Array Char) (groups : List Nat) (backward forward : Regular) (s : State) :
    Step :=
  match backward.matchAt (.reversed subject) s.place s.slots with
  | .failed _ => .fail s
  | .found start _ =>
    if groups.isEmpty then s.advanceTo start
    else
      match forward.matchAt (.upTo subject s.place) start (forget s.slots groups) with
      | .failed _ => .fail s
      | .found _ slots => { s with slots }.advanceTo start

/-- Forget the branches down to the one that goes on at an address, which is forgotten too. -/
def dropThrough (address : Nat) (stack : List Branch) : List Branch :=
  (stack.dropWhile (·.address ≠ address)).drop 1

/-- The slots of a match. It does not start after its end. -/
def settled (slots : Slots) : Slots :=
  match slots[0]?.join, slots[1]?.join with
  | some start, some stop => if stop < start then slots.mark 0 stop else slots
  | _, _ => slots

/-- Run one instruction. `origin` is where the search started. -/
def step (subject : Array Char) (origin : Nat) (s : State) : Instr → Step
  | .one set =>
    match subject[s.place]? with
    | some c => if set.contains c then s.advanceTo (s.place + 1) else .fail s
    | none => .fail s
  | .check a => if a.holds subject s.place then s.advance else .fail s
  | .regular groups e =>
    match e.matchAt (.whole subject) s.place (forget s.slots groups) with
    | .found j slots => { s with slots }.advanceTo j
    | .failed _ => .fail s
  | .regularBefore groups backward forward => beforeStep subject groups backward forward s
  | .split first second => s.fork first second
  | .jump target => .next { s with address := target }
  | .save slot => (s.mark slot s.place).advance
  | .zero counter => (s.mark counter 0).advance
  | .restore slot => s.advanceTo (s.value slot)
  | .loop min max greedy exit counter => loopStep min max greedy exit counter s
  | .progressingLoop min greedy exit counter began =>
    progressingLoopStep min greedy exit counter began s
  | .back n => if n ≤ s.place then s.advanceTo (s.place - n) else .fail s
  | .refuse => .fail { s with stack := dropThrough (s.address + 1) s.stack }
  | .reference index ignoreCase =>
    match referenceEnd? subject index ignoreCase s.place s.slots with
    | some j => s.advanceTo j
    | none => .fail s
  | .isSet index => if s.slots[2 * index]?.join.isSome then s.advance else .fail s
  | .enterAtomic => { s with notes := s.depth :: s.notes }.advance
  | .leaveAtomic =>
    match s.notes with
    | [] => s.advance
    | kept :: notes =>
      { s with notes, stack := s.stack.drop (s.depth - kept) }.advance
  | .searchStart => if s.place = origin then s.advance else .fail s
  | .done => .accept (settled s.slots)

/-- Run a program. -/
def run (program : Array Instr) (subject : Array Char) (origin : Nat) : Nat → State → Outcome
  | 0, _ => .exhausted
  | fuel + 1, s =>
    match program[s.address]? with
    | none => .failed
    | some instr =>
      match step subject origin s instr with
      | .next s => run program subject origin fuel s
      | .accept slots => .found slots
      | .overflow => .overflowed
      | .fail s =>
        match s.stack with
        | [] => .failed
        | b :: stack =>
          if returnLimit ≤ s.returns then .exhausted
          else
            run program subject origin fuel
              ⟨b.address, b.place, b.slots, b.notes, stack, s.returns + 1⟩

/-- Run a program from its start at a place, with so many slots. -/
def search (program : Array Instr) (subject : Array Char) (slots origin : Nat) : Outcome :=
  run program subject origin stepLimit ⟨0, origin, Array.replicate slots none, [], [], 0⟩

end Machine

end SourcePrep.Pattern
