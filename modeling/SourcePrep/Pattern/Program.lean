import SourcePrep.Pattern.Footprint
import SourcePrep.Pattern.Machine
import SourcePrep.Pattern.Parser

/-!
# From expressions to programs

A pattern that is regular as a whole is matched in linear time. In any other, a regular part is
matched in linear time where what follows cannot fail; and at the ends of a sequence, where it has
one length, so that another way to match it would end at the same place. All the rest becomes
instructions.

The bounds of a match are those of group zero. A look-ahead at the very end of a pattern is matched
like the rest, outside of group zero.
-/

set_option autoImplicit false

namespace SourcePrep.Pattern

/-- A pattern ready to be matched. -/
inductive Program
  | linear (e : Regular)
  /-- Instructions, and the number of slots that they use. -/
  | backtracking (code : Array Instr) (slots : Nat)

namespace Program

/-- Something being made with numbers that are used once; nothing when the pattern is refused. -/
abbrev Build := StateT Nat Option

/-- A new number. -/
def fresh : Build Nat := modifyGet fun n => (n, n + 1)

/-- The largest count in a regular part. -/
def maxCount : Nat := 4294967295

/-- The set of an expression that matches one character. -/
def single? : Expr → Option CharSet
  | .one s => some s
  | _ => none

/-- `n` copies, one after the other, and then the rest. The copies have keys of their own. -/
def copies (e : Build Regular) : Nat → Build Regular → Build Regular
  | 0, rest => rest
  | n + 1, rest => return .seq (← e) (← copies e n rest)

/-- At most `n` copies. -/
def atMost (e : Build Regular) (greedy : Bool) : Nat → Build Regular
  | 0 => return .empty
  | n + 1 => return .optional (← fresh) greedy (.seq (← e) (← atMost e greedy n))

/-- A loop of at least `lo` iterations. -/
def atLeast (e : Build Regular) (greedy : Bool) (lo : Nat) : Build Regular :=
  copies e (lo - 1) do return .loop (← fresh) greedy (0 < lo) (← e)

/-- Any number of times between `lo` and `hi`. To match a place more than once is to match it once.
-/
def counted (e : Expr) (inner : Build Regular) (greedy : Bool) (lo : Nat) (hi : Option Nat) :
    Build Regular := do
  guard (lo ≤ maxCount && hi.all fun hi => lo ≤ hi && hi ≤ maxCount)
  if e.isWidthless then copies inner (min lo 1) (atMost inner greedy (min (hi.getD 1) 1 - min lo 1))
  else
    match hi, single? e with
    | some hi, _ => copies inner lo (atMost inner greedy (hi - lo))
    | none, some s => copies inner lo do return .run (← fresh) greedy s
    | none, none => atLeast inner greedy lo

/-- A regular expression to be matched in linear time, read forward or backward. The numbers are
keys of choices. -/
def regular (backward : Bool) : Expr → Build Regular
  | .empty => return .empty
  | .one s => return .one s
  | .check a => return .check a
  | .seq first rest => do
    if backward then return .seq (← regular backward rest) (← regular backward first)
    else return .seq (← regular backward first) (← regular backward rest)
  | .alt first .never => regular backward first
  | .alt first rest =>
    return .alt (← fresh) (← regular backward first) (← regular backward rest)
  | .group n e => return .group n (← regular backward e)
  | .repeated e lo hi greedy => counted e (regular backward e) greedy lo hi
  | _ => return .never

/-- A regular expression to be matched in linear time, unless it is too large. -/
def regular? (backward : Bool) (e : Expr) : Option Regular := do
  guard e.fits
  (regular backward e).run' 0

/-- Instructions in the making. The numbers are slots. -/
abbrev Code := Build (List Instr)

/-- A regular part. -/
def part (e : Expr) : Code := do
  return [.regular e.groupsIn (← StateT.lift (regular? false e))]

/-- Some members of a sequence as one regular part. -/
def partOf (es : List Expr) : Code := if es.isEmpty then return [] else part (.ofMembers es)

/-- One of two ways, the first of which starts after the instruction at an address. -/
def either (address : Nat) (first : List Instr) (second : Nat → Code) : Code := do
  let other := address + first.length + 2
  let second ← second other
  return .split (address + 1) other :: first ++ .jump (other + second.length) :: second

/-- What may be there: the instructions for it start after the one at an address. -/
def option (address : Nat) (greedy : Bool) (body : List Instr) : List Instr :=
  let exit := address + body.length + 1
  (if greedy then .split (address + 1) exit else .split exit (address + 1)) :: body

/-- A positive look around. -/
def look (address : Nat) (inner : Nat → Code) : Code := do
  let slot ← fresh
  return .save slot :: (← inner (address + 1)) ++ [.restore slot]

/-- A negative look around. -/
def lookNot (address : Nat) (inner : Nat → Code) : Code := do
  let inner ← inner (address + 1)
  return .split (address + 1) (address + inner.length + 2) :: inner ++ [.refuse]

/-- A look around. -/
def lookAround (negative : Bool) (address : Nat) (inner : Nat → Code) : Code :=
  if negative then lookNot address inner else look address inner

/-- A loop whose body may match nothing, which is left after an iteration without progress. -/
def progressingLoop (address lo : Nat) (greedy : Bool) (body : Nat → Code) : Code := do
  let counter ← fresh
  let began ← fresh
  let body ← body (address + 2)
  let exit := address + body.length + 3
  return .zero counter :: .progressingLoop lo greedy exit counter began :: body ++
    [.jump (address + 1)]

/-- A loop with a count. -/
def countedLoop (address lo : Nat) (hi : Option Nat) (greedy : Bool) (body : Nat → Code) :
    Code := do
  let counter ← fresh
  let body ← body (address + 2)
  let exit := address + body.length + 3
  return .zero counter :: .loop lo hi greedy exit counter :: body ++ [.jump (address + 1)]

/-- A loop of any number of iterations. -/
def anyLoop (address : Nat) (greedy : Bool) (body : Nat → Code) : Code := do
  let body ← body (address + 1)
  return option address greedy (body ++ [.jump address])

/-- A loop of any number of iterations but zero. -/
def someLoop (address : Nat) (greedy : Bool) (body : Nat → Code) : Code := do
  let body ← body address
  let exit := address + body.length + 1
  return body ++ [if greedy then .split address exit else .split exit address]

/-- A loop over a body that matches at least `least` characters. -/
def loop (address lo : Nat) (hi : Option Nat) (greedy : Bool) (least : Nat) (body : Nat → Code) :
    Code :=
  match hi, least, lo with
  | none, 0, lo => progressingLoop address lo greedy body
  | none, _, 0 => anyLoop address greedy body
  | none, _, 1 => someLoop address greedy body
  | hi, _, lo => countedLoop address lo hi greedy body

/-- A condition and what follows when it holds and when it does not. -/
def conditionally (address : Nat) (condition yes no : Nat → Code) : Code := do
  let condition ← condition (address + 2)
  let yes ← yes (address + condition.length + 3)
  let other := address + condition.length + yes.length + 4
  let no ← no other
  return .enterAtomic :: .split (address + 2) other :: condition ++ .leaveAtomic :: yes ++
    .jump (other + no.length) :: no

section
variable (referenced : List Nat)

/-- The expression is regular and has one length. -/
def isSettled (e : Expr) : Bool := e.isRegular referenced && e.extent.fixed

/-- How many members of a sequence at its start are matched in linear time. -/
def leading (members : List Expr) : Nat := (members.takeWhile (isSettled referenced)).length

/-- How many of the other members at the end are, too: where nothing after the sequence sends the
search back, all that are regular. -/
def trailing (members : List Expr) (followed : Bool) : Nat :=
  let rest := members.drop (leading referenced members)
  (rest.reverse.takeWhile fun e =>
    if followed then isSettled referenced e else e.isRegular referenced).length

/-- What is looked for behind a place: over a known number of characters, or a regular part. -/
def behind (e : Expr) (inner : Nat → Code) (address : Nat) : Code := do
  if e.extent.fixed then return .back e.extent.least :: (← inner (address + 1))
  else
    guard (e.isRegular referenced)
    let backward ← StateT.lift (regular? true e)
    let forward ← StateT.lift (regular? false e)
    return [.regularBefore e.groupsIn backward forward]

mutual

/-- The instructions for a part of a pattern, from an address on. `followed` says that what comes
after it may fail and send the search back into the part. -/
def code : Expr → (followed : Bool) → (address : Nat) → Code
  | .seq first rest, followed, address => do
    let members := (Expr.seq first rest).members
    if !followed && (Expr.seq first rest).isRegular referenced then part (.seq first rest)
    else
      let front := leading referenced members
      let back := trailing referenced members followed
      let middle := members.length - front - back
      let before ← partOf (members.take front)
      let start := address + before.length
      let inner ←
        if 0 < front then sequence rest (front - 1) middle start
        else if 0 < middle then do
          let first ← code first true start
          pure (first ++ (← sequence rest 0 (middle - 1) (start + first.length)))
        else pure []
      return before ++ inner ++ (← partOf (members.drop (front + middle)))
  | .alt first .never, followed, address => code first followed address
  | .alt first rest, followed, address => do
    if !followed && (Expr.alt first rest).isRegular referenced then part (.alt first rest)
    else either address (← code first followed (address + 1)) (alternatives rest followed)
  | .group n e, followed, address => do
    if !followed && (Expr.group n e).isRegular referenced then part (.group n e)
    else return .save (2 * n) :: (← code e followed (address + 1)) ++ [.save (2 * n + 1)]
  | .repeated e lo hi greedy, followed, address => do
    if !followed && e.isRegular referenced then part (.repeated e lo hi greedy)
    else if lo = 0 && hi = some 1 then
      return option address greedy (← code e followed (address + 1))
    else loop address lo hi greedy e.extent.least (code e true)
  | .lookAhead negative e, _, address => lookAround negative address (code e false)
  | .lookBehind negative (.alt first rest), _, address => do
    let e := Expr.alt first rest
    if e.extent.fixed then lookAround negative address (behind referenced e (code e false))
    else
      let here ← lookAround negative (if negative then address else address + 1)
        (behind referenced first (code first false))
      if negative then return here ++ (← behindEach negative rest (address + here.length))
      else either address here (behindEach negative rest)
  | .lookBehind negative e, _, address =>
    lookAround negative address (behind referenced e (code e false))
  | .atomic e, _, address =>
    return .enterAtomic :: (← code e false (address + 1)) ++ [.leaveAtomic]
  | .conditional condition yes no, followed, address =>
    conditionally address (code condition followed) (code yes followed) (code no followed)
  | .empty, _, _ => return []
  | .never, _, _ => return []
  | .one s, _, _ => return [.one s]
  | .check a, _, _ => return [.check a]
  | .reference n ignoreCase _, _, _ => return [.reference n ignoreCase]
  | .isSet n, _, _ => return [.isSet n]
  | .keepOut, _, _ => return [.save 0]
  | .searchStart, _, _ => return [.searchStart]

/-- The next `middle` members of a sequence, after some that are left out. -/
def sequence : Expr → (skipped middle : Nat) → (address : Nat) → Code
  | .seq _ rest, skipped + 1, middle, address => sequence rest skipped middle address
  | .seq first rest, 0, middle + 1, address => do
    let first ← code first true address
    return first ++ (← sequence rest 0 middle (address + first.length))
  | _, _, _, _ => return []

/-- The further alternatives of a choice. -/
def alternatives : Expr → (followed : Bool) → (address : Nat) → Code
  | .alt first .never, followed, address => code first followed address
  | .alt first rest, followed, address => do
    either address (← code first followed (address + 1)) (alternatives rest followed)
  | _, _, _ => return []

/-- A look behind at each further alternative of a choice: one of them is there, or none. -/
def behindEach (negative : Bool) : Expr → (address : Nat) → Code
  | .alt first .never, address =>
    lookAround negative address (behind referenced first (code first false))
  | .alt first rest, address => do
    let here ← lookAround negative (if negative then address else address + 1)
      (behind referenced first (code first false))
    if negative then return here ++ (← behindEach negative rest (address + here.length))
    else either address here (behindEach negative rest)
  | _, _ => return []

end

end

/-- The pattern is tried at one place only: it starts with a test for the start of the text. -/
def isAnchored : Expr → Bool
  | .group 0 (.check .textStart) => true
  | .group 0 (.seq (.check .textStart) _) => true
  | _ => false

/-- The instructions that come before those of a pattern: try it from each place on. -/
def searching : List Instr := [.split 3 1, .one .all, .jump 0]

/-- The whole pattern, with group zero around what is matched. -/
def rooted (e : Expr) : Expr :=
  match e.members.reverse with
  | .lookAhead false ahead :: front =>
    if front.isEmpty then .group 0 e
    else .ofMembers [.group 0 (.ofSequence front.reverse), ahead]
  | _ => .group 0 e

/-- The program of a pattern. -/
def compile? (p : Parsed) : Option Program := do
  let root := rooted p.expr
  if root.isRegular p.referenced then
    return .linear (← regular? false root)
  else
    let start := if isAnchored root then [] else searching
    let (code, slots) ← (code p.referenced root false start.length).run (2 * (p.groups + 1))
    return .backtracking (start ++ code ++ [Instr.done]).toArray slots

end Program

end SourcePrep.Pattern
