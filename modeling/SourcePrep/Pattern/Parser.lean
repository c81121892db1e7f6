import SourcePrep.Pattern.Bracket
import SourcePrep.Pattern.Expr

/-!
# Reading patterns

A recursive descent over the characters of a pattern. `parse?` gives the expression with the groups
it has, or nothing when the pattern is malformed.

A `(?flags)` holds from where it stands on, beyond the group around it, and only a `(?flags:…)` goes
back to the flags before it. In extended mode blanks between the tokens are skipped, and so is a
comment from `#` to the end of the line; `(?#…)` is a comment in any mode. A brace that starts no
well-formed count stands for itself.
-/

set_option autoImplicit false

namespace SourcePrep.Pattern

/-- The modes of a pattern. -/
structure Flags where
  ignoreCase : Bool := false
  multiLine : Bool := false
  dotAll : Bool := false
  /-- Blanks and comments are skipped. -/
  extended : Bool := false
  /-- Quantifiers are lazy unless marked. -/
  swapGreed : Bool := false
  deriving DecidableEq, Repr, Inhabited

/-- The group that sets the flags inside a pattern, if there are any to set. -/
def Flags.inline (flags : Flags) : String :=
  let letters :=
    (if flags.ignoreCase then "i" else "") ++ (if flags.multiLine then "m" else "") ++
      (if flags.dotAll then "s" else "") ++ if flags.extended then "x" else ""
  if letters.isEmpty then "" else s!"(?{letters})"

/-- What has been read of a pattern. -/
structure ParseState where
  rest : List Char
  flags : Flags
  /-- The number of groups opened. -/
  groups : Nat
  /-- The names of groups, the latest first. -/
  names : List (String × Nat)
  /-- The extents of the groups that are over. -/
  closed : List (Nat × Extent)
  /-- The groups that references name. -/
  referenced : List Nat
  /-- Some reference is a number. -/
  numbered : Bool

/-- A parser of patterns; nothing when the pattern is malformed. -/
abbrev Parse := StateT ParseState Option

/-- A pattern as read. -/
structure Parsed where
  expr : Expr
  groups : Nat
  names : List (String × Nat)
  referenced : List Nat

namespace Parse

/-- The deepest nesting of groups. -/
def maxDepth : Nat := 64

/-- The text after a comment group, whose opening has been read. -/
def afterComment : List Char → Option (List Char)
  | [] => none
  | ')' :: rest => some rest
  | ['\\'] => none
  | '\\' :: _ :: rest => afterComment rest
  | _ :: rest => afterComment rest

/-- The text after blanks and comments. -/
def afterBlanks (extended : Bool) : Nat → List Char → Option (List Char)
  | 0, cs => some cs
  | fuel + 1, cs =>
    match cs with
    | '(' :: '?' :: '#' :: rest => do afterBlanks extended fuel (← afterComment rest)
    | '#' :: rest =>
      if extended then afterBlanks extended fuel ((rest.dropWhile (· ≠ '\n')).drop 1) else some cs
    | c :: rest =>
      if extended && (c == ' ' || c == '\t' || c == '\r' || c == '\n') then
        afterBlanks extended fuel rest
      else some cs
    | [] => some []

/-- Skip blanks and comments. -/
def skipBlanks : Parse Unit := do
  let s ← get
  let rest ← StateT.lift (afterBlanks s.flags.extended (s.rest.length + 1) s.rest)
  set { s with rest }

/-- Read the given characters if they come next. -/
def accept (text : String) : Parse Bool := do
  let s ← get
  if text.toList.isPrefixOf s.rest then
    set { s with rest := s.rest.drop text.length }
    return true
  else return false

/-- Read the closing parenthesis of a group. -/
def close : Parse Unit := do
  skipBlanks
  guard (← accept ")")

/-- A character of a group's name. -/
def isNameChar (c : Char) : Bool := Unicode.isAlphanumeric c || c == '_'

/-- Read a name between two marks. -/
def name (opening closing : String) : Parse String := do
  guard (← accept opening)
  let s ← get
  let id := s.rest.takeWhile isNameChar
  guard !id.isEmpty
  set { s with rest := s.rest.drop id.length }
  guard (← accept closing)
  return String.ofList id

/-- Read the next character. -/
def anyChar : Parse Char := do
  let s ← get
  match s.rest with
  | [] => failure
  | c :: rest =>
    set { s with rest }
    return c

/-- A reference to a group, which is noted. -/
def referenceTo (index : Nat) : Parse Expr := do
  let s ← get
  set { s with referenced := index :: s.referenced }
  return .reference index s.flags.ignoreCase ((s.closed.lookup index).getD ⟨0, false⟩)

/-- Read the decimal number that comes next, if it fits a machine word. -/
def number? : Parse (Option Nat) := do
  let s ← get
  let digits := s.rest.takeWhile Text.isDigit
  let n := Text.decimal digits
  if digits.isEmpty || Text.maxWord < n then return none
  set { s with rest := s.rest.drop digits.length }
  return some n

/-- Read a reference by number. Its number is bounded by half the length of the pattern. -/
def numberedReference (size : Nat) : Parse Expr := do
  let some n ← number? | failure
  guard (n < size / 2)
  modify fun s => { s with numbered := true }
  referenceTo n

/-- Read a signed number, which counts from the groups opened so far: `-1` is the latest of them,
and `+1` the next one. -/
def relativeIndex : Parse Nat := do
  let groups := (← get).groups
  let sign ← anyChar
  let some n ← number? | failure
  match sign with
  | '+' => return groups + n
  | '-' =>
    guard (n ≤ groups + 1)
    return if n = 0 then groups else groups + 1 - n
  | _ => failure

/-- Read a reference by name, or by a number in the place of a name. -/
def namedReference (opening closing : String) (signed : Bool) : Parse Expr := do
  guard (← accept opening)
  let s ← get
  let id := s.rest.takeWhile isNameChar
  if id.isEmpty then
    guard signed
    let index ← relativeIndex
    guard (← accept closing)
    referenceTo index
  else
    set { s with rest := s.rest.drop id.length }
    guard (← accept closing)
    match s.names.lookup (String.ofList id) with
    | some index => referenceTo index
    | none =>
      guard (id.all Text.isDigit)
      referenceTo (Text.decimal id)

/-- Read so many hexadecimal digits, and the blanks before each of them. -/
def hexDigits : Nat → Parse (List Char)
  | 0 => return []
  | n + 1 => do
    skipBlanks
    let c ← anyChar
    guard (Text.isHexDigit c)
    return c :: (← hexDigits n)

/-- Read less than so many hexadecimal digits up to the closing brace. -/
def bracedHexDigits : Nat → Parse (List Char)
  | 0 => failure
  | n + 1 => do
    skipBlanks
    match ← anyChar with
    | '\x7d' => return []
    | c =>
      guard (Text.isHexDigit c)
      return c :: (← bracedHexDigits n)

/-- Read the hexadecimal code of a character: so many digits, or up to eight between braces. -/
def hexCode (digits : Nat) : Parse Char := do
  skipBlanks
  let code ← if ← accept "\x7b" then bracedHexDigits 9 else hexDigits digits
  guard !code.isEmpty
  let n := Text.hexadecimal code
  guard n.isValidChar
  return Char.ofNat n

/-- Read the name of a class after `\p`. -/
def propertyClass (negated : Bool) : Parse CharSet := do
  let s ← get
  match s.rest with
  | [] => failure
  | '\x7b' :: rest =>
    let name := rest.takeWhile (· ≠ '\x7d')
    guard (name.length < rest.length)
    set { s with rest := rest.drop (name.length + 1) }
    let (inverse, t) ← StateT.lift (Unicode.Property.ofName? name)
    return ((CharSet.table t).foldIf s.flags.ignoreCase).complIf (negated != inverse)
  | c :: rest =>
    set { s with rest }
    let (_, t) ← StateT.lift (Unicode.Property.ofName? [c])
    return ((CharSet.table t).foldIf s.flags.ignoreCase).complIf negated

/-- The character that a letter stands for after a backslash. -/
def control? : Char → Option Char
  | 'a' => some '\x07'
  | 'e' => some '\x1b'
  | 'f' => some '\x0c'
  | 'n' => some '\n'
  | 'r' => some '\r'
  | 't' => some '\t'
  | 'v' => some '\x0b'
  | _ => none

/-- The letter is special after a backslash, but only outside of a class. -/
def isOuterEscape (c : Char) : Bool := "kAzBKG".toList.contains c

/-- An escape that stands for a character or a class, in a class or outside of one. -/
def simpleEscape (inClass : Bool) (c : Char) : Parse BracketToken :=
  match c with
  | 'd' => return .set .digit
  | 'D' => return .set (.compl .digit)
  | 's' => return .set .blank
  | 'S' => return .set (.compl .blank)
  | 'w' => return .set .word
  | 'W' => return .set (.compl .word)
  | 'h' => return .set .hexDigit
  | 'H' => return .set (.compl .hexDigit)
  | 'x' => return .literal (← hexCode 2)
  | 'u' => return .literal (← hexCode 4)
  | 'U' => return .literal (← hexCode 8)
  | 'p' => return .set (← propertyClass false)
  | 'P' => return .set (← propertyClass true)
  | c =>
    match control? c with
    | some d => return .literal d
    | none => do
      guard !(Text.isDigit c || (c.isAlpha && !(inClass && isOuterEscape c)))
      return .literal c

/-- Read the tokens of a class up to the bracket that closes it, which is included. -/
def bracketTokens : Nat → Nat → Parse (List BracketToken)
  | 0, _ => failure
  | fuel + 1, depth => do
    match ← anyChar with
    | '\\' =>
      let c ← anyChar
      let token ← if c = 'b' then pure (.literal '\x08') else simpleEscape true c
      return token :: (← bracketTokens fuel depth)
    | '[' => return .raw '[' :: (← bracketTokens fuel (depth + 1))
    | ']' =>
      if depth = 0 then return [.raw ']']
      else return .raw ']' :: (← bracketTokens fuel (depth - 1))
    | c => return .raw c :: (← bracketTokens fuel depth)

/-- Read a class after its opening bracket. -/
def bracket : Parse Expr := do
  let negation ← accept "^"
  let first ← accept "]"
  let s ← get
  let tokens ← bracketTokens (s.rest.length + 1) 0
  let start := (if negation then [.raw '^'] else []) ++ if first then [.raw ']'] else []
  return .one (← StateT.lift (Bracket.parse? s.flags.ignoreCase (start ++ tokens)))

/-- Read the counts of a quantifier in braces, after the opening one. -/
def counts : Parse (Nat × Option Nat) := do
  skipBlanks
  let lo? ← number?
  skipBlanks
  if ← accept "," then
    skipBlanks
    let hi? ← number?
    skipBlanks
    guard (← accept "\x7d")
    return (lo?.getD 0, hi?.filter (· ≠ Text.maxWord))
  else
    let some lo := lo? | failure
    guard (← accept "\x7d")
    return (lo, some lo)

/-- The test of a place that a word between braces after `\b` stands for. -/
def boundary? : String → Option Assertion
  | "start" => some .wordStart
  | "end" => some .wordEnd
  | "start-half" => some .wordStartHalf
  | "end-half" => some .wordEndHalf
  | _ => none

/-- Read what may follow `\b` in braces: a word that makes it another test, or else counts, which
are left where they are. -/
def boundary : Parse Assertion := do
  let s ← get
  skipBlanks
  let braced ← get
  if ← accept "\x7b" then
    let start ← get
    if (counts.run start).isSome then
      set braced
      return .wordBoundary
    else
      skipBlanks
      let rest := (← get).rest
      let word := rest.takeWhile fun c => c.isAlpha || c == '-'
      modify fun s => { s with rest := rest.drop word.length }
      skipBlanks
      guard (← accept "\x7d")
      StateT.lift (boundary? (String.ofList word))
  else
    set s
    return .wordBoundary

/-- Braces that come next hold counts. -/
def checkCounts : Parse Unit := do
  let s ← get
  skipBlanks
  if ← accept "\x7b" then discard counts
  set s

/-- Read what follows a backslash outside of a class. -/
def escape (size : Nat) : Parse Expr := do
  let s ← get
  let c ← anyChar
  match c with
  | 'k' =>
    if (← get).rest.head? = some '\'' then namedReference "'" "'" true
    else namedReference "<" ">" true
  | 'A' => return .check .textStart
  | 'z' => return .check .textEnd
  | 'Z' => return .endBeforeNewlines
  | 'b' => return .check (← boundary)
  | 'B' =>
    checkCounts
    return .check .notWordBoundary
  | '<' => return .check .wordStart
  | '>' => return .check .wordEnd
  | 'K' => return .keepOut
  | 'G' => return .searchStart
  | 'O' => return .one .all
  | _ =>
    if Text.isDigit c then
      set s
      numberedReference size
    else
      let byCode := c == 'x' || c == 'u' || c == 'U'
      match ← simpleEscape false c with
      | .literal d => return .one (.literal d (byCode && s.flags.ignoreCase))
      | .raw d => return .one (.literal d false)
      | .set set => return .one set

/-- The counts of the quantifier that comes next, if one does. Braces that hold no counts are left
where they are. -/
def quantifier? : Parse (Option (Nat × Option Nat)) := do
  let s ← get
  match s.rest with
  | '?' :: rest => set { s with rest }; return some (0, some 1)
  | '*' :: rest => set { s with rest }; return some (0, none)
  | '+' :: rest => set { s with rest }; return some (1, none)
  | '\x7b' :: rest =>
    match counts.run { s with rest } with
    | some (range, after) => set after; return some range
    | none => return none
  | _ => return none

/-- Change a flag. -/
def setFlag (c : Char) (on : Bool) : Parse Unit :=
  match c with
  | 'i' => modify fun s => { s with flags := { s.flags with ignoreCase := on } }
  | 'm' => modify fun s => { s with flags := { s.flags with multiLine := on } }
  | 's' => modify fun s => { s with flags := { s.flags with dotAll := on } }
  | 'U' => modify fun s => { s with flags := { s.flags with swapGreed := on } }
  | 'x' => modify fun s => { s with flags := { s.flags with extended := on } }
  | 'u' => guard on
  | _ => failure

/-- Read the flags of a group, up to the `:` or `)` after them; the answer says whether a body
follows. `start` is the length of what was left right after the opening, and `negative` is set after
a dash. A group without flags is malformed, and so is one with nothing but a dash, where no blanks
stand in it. -/
def flagLetters (start : Nat) : Nat → (negative : Bool) → Parse Bool
  | 0, _ => failure
  | fuel + 1, negative => do
    skipBlanks
    let read := start - (← get).rest.length
    let bare := read = 0 || (negative && read = 1)
    match ← anyChar with
    | ')' => guard !bare; return false
    | ':' => guard !(negative && read = 1); return true
    | '-' => guard !negative; flagLetters start fuel true
    | c => setFlag c !negative; flagLetters start fuel negative

/-- What a group opens. -/
inductive Opening
  | capture
  | named (name : String)
  | lookAhead (negative : Bool)
  | lookBehind (negative : Bool)
  | atomic
  | backReference
  | conditional
  | flags

/-- Read what kind of group was opened. -/
def opening : Parse Opening := do
  if ← accept "?=" then return .lookAhead false
  else if ← accept "?!" then return .lookAhead true
  else if ← accept "?<=" then return .lookBehind false
  else if ← accept "?<!" then return .lookBehind true
  else if ← accept "?<" then
    modify fun s => { s with rest := '<' :: s.rest }
    return .named (← name "<" ">")
  else if ← accept "?'" then
    modify fun s => { s with rest := '\'' :: s.rest }
    return .named (← name "'" "'")
  else if ← accept "?P<" then
    modify fun s => { s with rest := '<' :: s.rest }
    return .named (← name "<" ">")
  else if ← accept "?P=" then return .backReference
  else if ← accept "?>" then return .atomic
  else if ← accept "?(" then return .conditional
  else if ← accept "?" then return .flags
  else return .capture

/-- Open a new group, under a name if it has one. -/
def openGroup (name : Option String) : Parse Nat := do
  let s ← get
  let index := s.groups + 1
  set { s with
    groups := index
    names := match name with | some n => (n, index) :: s.names | none => s.names }
  return index

/-- A condition and what follows it, as one expression. -/
def conditionalOf (condition body : Expr) : Expr :=
  let condition :=
    match condition with
    | .reference n _ _ => .isSet n
    | c => c
  let (yes, no) :=
    match body with
    | .alt first (.alt second .never) => (first, second)
    | .alt first rest => (first, rest)
    | e => (e, .empty)
  match yes, no with
  | .empty, .empty => condition
  | _, _ => .conditional condition yes no

mutual

/-- Read a choice. -/
def choice (size : Nat) : Nat → Nat → Parse Expr
  | 0, _ => failure
  | fuel + 1, depth => do
    let first ← branch size fuel depth
    skipBlanks
    if (← get).rest.head? = some '|' then
      return .ofChoice (first :: (← moreBranches size fuel depth))
    else
      let s ← get
      guard !(s.numbered && !s.names.isEmpty)
      return first
termination_by structural fuel => fuel

/-- Read the further alternatives of a choice. -/
def moreBranches (size : Nat) : Nat → Nat → Parse (List Expr)
  | 0, _ => failure
  | fuel + 1, depth => do
    if ← accept "|" then
      let e ← branch size fuel depth
      skipBlanks
      return e :: (← moreBranches size fuel depth)
    else return []
termination_by structural fuel => fuel

/-- Read a sequence. -/
def branch (size : Nat) : Nat → Nat → Parse Expr
  | 0, _ => failure
  | fuel + 1, depth => do return .ofSequence (← pieces size fuel depth)
termination_by structural fuel => fuel

/-- Read the members of a sequence. -/
def pieces (size : Nat) : Nat → Nat → Parse (List Expr)
  | 0, _ => failure
  | fuel + 1, depth => do
    let before := (← get).rest.length
    let e ← piece size fuel depth
    if (← get).rest.length = before then return []
    else
      let rest ← pieces size fuel depth
      match e with
      | .empty => return rest
      | e => return e :: rest
termination_by structural fuel => fuel

/-- Read an atom and the quantifier after it. -/
def piece (size : Nat) : Nat → Nat → Parse Expr
  | 0, _ => failure
  | fuel + 1, depth => do
    let e ← atom size fuel depth
    skipBlanks
    match ← quantifier? with
    | none => return e
    | some (lo, hi) =>
      guard e.isRepeatable
      skipBlanks
      let lazyMark ← accept "?"
      let greedy := lazyMark == (← get).flags.swapGreed
      let possessive ← accept "+"
      let quantified := Expr.repeated e lo hi greedy
      return if possessive then .atomic quantified else quantified
termination_by structural fuel => fuel

/-- Read an atom; nothing is read where a sequence ends. -/
def atom (size : Nat) : Nat → Nat → Parse Expr
  | 0, _ => failure
  | fuel + 1, depth => do
    skipBlanks
    let s ← get
    match s.rest with
    | [] => return .empty
    | c :: rest =>
      match c with
      | '.' =>
        set { s with rest }
        return .one (if s.flags.dotAll then .all else .notNewline)
      | '^' =>
        set { s with rest }
        return .check (if s.flags.multiLine then .lineStart else .textStart)
      | '$' =>
        set { s with rest }
        return .check (if s.flags.multiLine then .lineEnd else .textEnd)
      | '(' =>
        set { s with rest }
        grouped size fuel (depth + 1)
      | '\\' =>
        set { s with rest }
        escape size
      | '[' =>
        set { s with rest }
        bracket
      | '+' | '*' | '?' | '|' | ')' => return .empty
      | c =>
        set { s with rest }
        return .one (.literal c s.flags.ignoreCase)
termination_by structural fuel => fuel

/-- Read a group after its opening parenthesis. -/
def grouped (size : Nat) : Nat → Nat → Parse Expr
  | 0, _ => failure
  | fuel + 1, depth => do
    guard (depth < maxDepth)
    skipBlanks
    let kind ← opening
    match kind with
    | .capture => capture size fuel depth none
    | .named id => capture size fuel depth (some id)
    | .lookAhead negative => return .lookAhead negative (← body size fuel depth)
    | .lookBehind negative => return .lookBehind negative (← body size fuel depth)
    | .atomic => return .atomic (← body size fuel depth)
    | .backReference => namedReference "" ")" false
    | .conditional => conditional size fuel depth
    | .flags =>
      let outer := (← get).flags
      let start := (← get).rest.length
      if ← flagLetters start (start + 1) false then
        let e ← body size fuel depth
        modify fun s => { s with flags := outer }
        return e
      else return .empty
termination_by structural fuel => fuel

/-- Read the rest of a capturing group. -/
def capture (size : Nat) : Nat → Nat → Option String → Parse Expr
  | 0, _, _ => failure
  | fuel + 1, depth, name => do
    let index ← openGroup name
    let e ← body size fuel depth
    modify fun s => { s with closed := (index, e.extent) :: s.closed }
    return .group index e
termination_by structural fuel => fuel

/-- Read the body of a group up to its closing parenthesis. -/
def body (size : Nat) : Nat → Nat → Parse Expr
  | 0, _ => failure
  | fuel + 1, depth => do
    let e ← choice size fuel depth
    close
    return e
termination_by structural fuel => fuel

/-- Read a conditional after its `(?(`. -/
def conditional (size : Nat) : Nat → Nat → Parse Expr
  | 0, _ => failure
  | fuel + 1, depth => do
    let s ← get
    let condition ←
      match s.rest with
      | [] => failure
      | c :: _ =>
        if Text.isDigit c || c == '+' || c == '-' then namedReference "" ")" true
        else do
          let e ←
            if c == '\'' then namedReference "'" "'" true
            else if c == '<' then namedReference "<" ">" true
            else choice size fuel depth
          close
          pure e
    let before := (← get).rest.length
    let body ← choice size fuel depth
    let unread := (← get).rest.length = before
    close
    if unread then
      match condition with
      | .reference n _ _ => return .isSet n
      | _ => failure
    else return conditionalOf condition body
termination_by structural fuel => fuel

end

/-- The expression of a whole pattern. Every reference must name a group that the pattern has. -/
def parse? (pattern : String) : Option Parsed := do
  let cs := pattern.toList
  let initial : ParseState :=
    { rest := cs, flags := {}, groups := 0, names := [], closed := [], referenced := [],
      numbered := false }
  let (expr, s) ← (choice (Text.size pattern) (9 * cs.length + 16) 0).run initial
  guard s.rest.isEmpty
  guard (s.referenced.all fun n => 0 < n && n ≤ s.groups)
  return ⟨expr, s.groups, s.names, s.referenced⟩

end Parse

end SourcePrep.Pattern
