import SourcePrep.Text
import SourcePrep.Toml.Value

/-!
# Reading TOML

`Toml.parse?` reads a document into the entries of its root table. A document that is malformed,
that defines something twice, or whose arrays and tables lie too deep in each other, gives nothing.
-/

set_option autoImplicit false

namespace SourcePrep.Toml

/-- A parser; nothing when the text is malformed. -/
abbrev Parse := StateT (List Char) Option

namespace Parse

/-- Read the given characters if they come next. -/
def accept (text : String) : Parse Bool := do
  let cs ← get
  if text.toList.isPrefixOf cs then
    set (cs.drop text.length)
    return true
  else return false

/-- Read characters while they pass a test. -/
def readWhile (test : Char → Bool) : Parse (List Char) :=
  modifyGet fun cs => (cs.takeWhile test, cs.dropWhile test)

/-- Read one character. -/
def anyChar : Parse Char := do
  match ← get with
  | [] => failure
  | c :: rest =>
    set rest
    return c

/-- Skip spaces and tabs. -/
def skipBlanks : Parse Unit := do
  let _ ← readWhile fun c => c == ' ' || c == '\t'

/-- A control character that no text or comment may hold. -/
def isForbidden (c : Char) : Bool := (c.toNat < 0x20 && c != '\t') || c == '\x7f'

/-- Read a newline if it comes next. -/
def newline : Parse Bool := do
  if ← accept "\n" then return true
  accept "\r\n"

/-- Skip a comment if one comes next. -/
def skipComment : Parse Unit := do
  if ← accept "#" then
    let _ ← readWhile fun c => !isForbidden c

/-- Skip blanks, comments and newlines. `fuel` bounds the number of lines. -/
def skipLines : Nat → Parse Unit
  | 0 => failure
  | fuel + 1 => do
    skipBlanks
    skipComment
    if ← newline then skipLines fuel

/-- Skip blanks, comments and newlines. -/
def skipSpace : Parse Unit := do skipLines ((← get).length + 1)

/-- Read to the end of a line: blanks and a comment, then a newline or the end of the text. -/
def endOfLine : Parse Unit := do
  skipBlanks
  skipComment
  if !(← newline) then guard (← get).isEmpty

/-! ## Texts -/

/-- Read a number of hexadecimal digits as the code of a character. -/
def charCode (digits : Nat) : Parse Char := do
  let cs ← get
  let code := cs.take digits
  guard (code.length = digits && code.all Text.isHexDigit)
  set (cs.drop digits)
  let n := Text.hexadecimal code
  guard n.isValidChar
  return Char.ofNat n

/-- Read an escape after its backslash. -/
def escape : Parse Char := do
  match ← anyChar with
  | 'b' => return '\x08'
  | 't' => return '\t'
  | 'n' => return '\n'
  | 'f' => return '\x0c'
  | 'r' => return '\r'
  | 'e' => return '\x1b'
  | '"' => return '"'
  | '\\' => return '\\'
  | 'x' => charCode 2
  | 'u' => charCode 4
  | 'U' => charCode 8
  | _ => failure

/-- Read a text on one line up to its closing quote. Only a text in double quotes has escapes. -/
def lineText (quote : Char) : Nat → Parse (List Char)
  | 0 => failure
  | fuel + 1 => do
    let c ← anyChar
    if c = quote then return []
    else if c = '\\' && quote = '"' then
      let d ← escape
      return d :: (← lineText quote fuel)
    else
      guard !isForbidden c
      return c :: (← lineText quote fuel)

/-- Skip blanks and newlines. `fuel` bounds the number of lines. -/
def skipBlankLines : Nat → Parse Unit
  | 0 => failure
  | fuel + 1 => do
    skipBlanks
    if ← newline then skipBlankLines fuel

/-- Skip a line ending after a backslash, with all blanks and newlines that follow it. -/
def joinedLines : Parse Bool := do
  let cs ← get
  skipBlanks
  if ← newline then
    skipBlankLines (cs.length + 1)
    return true
  else
    set cs
    return false

/-- Read a text over several lines up to its three closing quotes. Up to two more quotes before
these belong to the text. -/
def blockText (quote : Char) : Nat → Parse (List Char)
  | 0 => failure
  | fuel + 1 => do
    let quotes := ((← get).takeWhile (· = quote)).length
    if 3 ≤ quotes then
      guard (quotes ≤ 5)
      modify (·.drop quotes)
      return List.replicate (quotes - 3) quote
    else if ← newline then return '\n' :: (← blockText quote fuel)
    else
      let c ← anyChar
      if c = '\\' && quote = '"' then
        if ← joinedLines then blockText quote fuel
        else
          let d ← escape
          return d :: (← blockText quote fuel)
      else
        guard !isForbidden c
        return c :: (← blockText quote fuel)

/-- Read a text on one line, after its opening quote. -/
def oneLine (quote : Char) : Parse String := do
  return String.ofList (← lineText quote ((← get).length + 1))

/-- Read a text over several lines, after its opening quotes. A newline right after these is
skipped. -/
def severalLines (quote : Char) : Parse String := do
  let _ ← newline
  return String.ofList (← blockText quote ((← get).length + 1))

/-- Read a text if one comes next. -/
def text? : Parse (Option String) := do
  if ← accept "\"\"\"" then return some (← severalLines '"')
  else if ← accept "\"" then return some (← oneLine '"')
  else if ← accept "'''" then return some (← severalLines '\'')
  else if ← accept "'" then return some (← oneLine '\'')
  else return none

/-! ## Integers -/

/-- The digits of a numeral, with single underscores between them taken out. -/
def joinDigits (test : Char → Bool) : List Char → Option (List Char)
  | [] => none
  | [c] => if test c then some [c] else none
  | c :: '_' :: rest => if test c then (joinDigits test rest).map (c :: ·) else none
  | c :: rest => if test c then (joinDigits test rest).map (c :: ·) else none

/-- The value of digits in a base. -/
def inBase (base : Nat) (digits : List Char) : Nat :=
  digits.foldl (fun n c => n * base + Text.hexValue c) 0

/-- The value of a numeral in a base. -/
def numeral? (base : Nat) (cs : List Char) : Option Nat :=
  (joinDigits (fun c => Text.isHexDigit c && Text.hexValue c < base) cs).map (inBase base)

/-- The value of a decimal numeral, which starts with no needless zero. -/
def decimal? (cs : List Char) : Option Nat :=
  match cs with
  | ['0'] => some 0
  | '0' :: _ => none
  | cs => numeral? 10 cs

/-- The value of an integer. -/
def integerOf? : List Char → Option Int
  | '0' :: 'x' :: cs => (numeral? 16 cs).map Int.ofNat
  | '0' :: 'o' :: cs => (numeral? 8 cs).map Int.ofNat
  | '0' :: 'b' :: cs => (numeral? 2 cs).map Int.ofNat
  | '+' :: cs => (decimal? cs).map Int.ofNat
  | '-' :: cs => (decimal? cs).map fun n => -(n : Int)
  | cs => (decimal? cs).map Int.ofNat

/-! ## Other values -/

/-- The text after digits, which may have single underscores between them. -/
def afterDigits? (cs : List Char) : Option (List Char) := do
  let numeral := cs.takeWhile fun c => Text.isDigit c || c == '_'
  let _ ← joinDigits Text.isDigit numeral
  return cs.drop numeral.length

/-- The text after a fraction, if there is one. -/
def afterFraction? : List Char → Option (List Char)
  | '.' :: cs => afterDigits? cs
  | cs => some cs

/-- The text without a sign at its start. -/
def withoutSign : List Char → List Char
  | '+' :: cs => cs
  | '-' :: cs => cs
  | cs => cs

/-- The text after an exponent, if there is one. -/
def afterExponent? : List Char → Option (List Char)
  | 'e' :: cs => afterDigits? (withoutSign cs)
  | 'E' :: cs => afterDigits? (withoutSign cs)
  | cs => some cs

/-- A number with a fraction, an exponent or both, or one of the two that have no digits. -/
def isFloat (cs : List Char) : Bool :=
  let body := withoutSign cs
  let whole := body.takeWhile fun c => Text.isDigit c || c == '_'
  body == "inf".toList || body == "nan".toList ||
    ((decimal? whole).isSome && whole.length < body.length &&
      ((afterFraction? (body.drop whole.length)).bind afterExponent?) == some [])

/-- The number that so many digits stand for, and the text after it. -/
def fixedDigits? (n : Nat) (cs : List Char) : Option (Nat × List Char) :=
  let digits := cs.take n
  if digits.length = n && digits.all Text.isDigit then some (inBase 10 digits, cs.drop n) else none

/-- The text after a given character. -/
def after? (c : Char) (cs : List Char) : Option (List Char) :=
  if cs.head? = some c then some (cs.drop 1) else none

/-- The number of days of a month. -/
def daysOf (year month : Nat) : Nat :=
  if month = 2 then
    (if year % 4 = 0 && (year % 100 ≠ 0 || year % 400 = 0) then 29 else 28)
  else if [4, 6, 9, 11].contains month then 30
  else 31

/-- The text after a date. -/
def afterDate? (cs : List Char) : Option (List Char) := do
  let (year, cs) ← fixedDigits? 4 cs
  let (month, cs) ← fixedDigits? 2 (← after? '-' cs)
  let (day, cs) ← fixedDigits? 2 (← after? '-' cs)
  guard (1 ≤ month && month ≤ 12 && 1 ≤ day && day ≤ daysOf year month)
  return cs

/-- The text after a fraction of a second, if there is one. -/
def afterSecondFraction? : List Char → Option (List Char)
  | '.' :: cs => if cs.head?.any Text.isDigit then some (cs.dropWhile Text.isDigit) else none
  | cs => some cs

/-- The text after a time of day. The seconds may be left out, and there may be one more of them. -/
def afterTime? (cs : List Char) : Option (List Char) := do
  let (hour, cs) ← fixedDigits? 2 cs
  let (minute, cs) ← fixedDigits? 2 (← after? ':' cs)
  guard (hour ≤ 23 && minute ≤ 59)
  match cs with
  | ':' :: cs =>
    let (second, cs) ← fixedDigits? 2 cs
    guard (second ≤ 60)
    afterSecondFraction? cs
  | cs => return cs

/-- The text after the difference of a time to that of the prime meridian, if there is one. -/
def afterOffset? : List Char → Option (List Char)
  | [] => some []
  | c :: cs =>
    if c = 'Z' || c = 'z' then some cs
    else if c = '+' || c = '-' then do
      let (hours, cs) ← fixedDigits? 2 cs
      let (minutes, cs) ← fixedDigits? 2 (← after? ':' cs)
      guard (hours ≤ 23 && minutes ≤ 59)
      return cs
    else none

/-- A date, a time of day, or both. -/
def isMoment (cs : List Char) : Bool :=
  match afterDate? cs with
  | some [] => true
  | some (c :: rest) =>
    (c == 'T' || c == 't' || c == ' ') && (afterTime? rest).bind afterOffset? == some []
  | none => afterTime? cs == some []

/-- A character of a value without quotes. -/
def isScalarChar (c : Char) : Bool :=
  c.isAlphanum || c == '_' || c == '+' || c == '-' || c == '.' || c == ':'

/-- Read the characters of a value without quotes. A blank may part a date from a time. -/
def scalarChars : Parse (List Char) := do
  let cs ← readWhile isScalarChar
  match afterDate? cs, ← get with
  | some [], ' ' :: c :: rest =>
    if Text.isDigit c then
      set (c :: rest)
      return cs ++ ' ' :: (← readWhile isScalarChar)
    else return cs
  | _, _ => return cs

/-- Read a value that is no text, array or table. -/
def scalar : Parse Value := do
  let cs ← scalarChars
  match integerOf? cs with
  | some n => return .integer n
  | none =>
    guard (cs == "true".toList || cs == "false".toList || isFloat cs || isMoment cs)
    return .scalar (String.ofList cs)

/-! ## Keys -/

/-- A character of a key without quotes. -/
def isBareKeyChar (c : Char) : Bool := c.isAlphanum || c == '_' || c == '-'

/-- Read one key. -/
def simpleKey : Parse String := do
  if ← accept "\"" then oneLine '"'
  else if ← accept "'" then oneLine '\''
  else
    let cs ← readWhile isBareKeyChar
    guard !cs.isEmpty
    return String.ofList cs

/-- Read a key and the keys after dots. -/
def dottedKey : Nat → Parse (List String)
  | 0 => failure
  | fuel + 1 => do
    let key ← simpleKey
    skipBlanks
    if ← accept "." then
      skipBlanks
      return key :: (← dottedKey fuel)
    else return [key]

/-- Read a key, with blanks around it. -/
def key : Parse (List String) := do
  skipBlanks
  dottedKey ((← get).length + 1)

/-! ## Values -/

/-- How many arrays and tables in braces may lie in each other. -/
def maxDepth : Nat := 80

mutual

/-- Read a value, in which so many arrays and tables may lie in each other. -/
def value : Nat → (depth : Nat) → Parse Value
  | 0, _ => failure
  | fuel + 1, depth => do
    if ← accept "[" then
      guard (0 < depth)
      return .array (← elements fuel (depth - 1))
    else if ← accept "\x7b" then
      guard (0 < depth)
      return .table .braces (← fields fuel (depth - 1) [])
    else
      match ← text? with
      | some s => return .text s
      | none => scalar
termination_by structural fuel => fuel

/-- Read the values of an array up to its closing bracket. -/
def elements : Nat → (depth : Nat) → Parse (List Value)
  | 0, _ => failure
  | fuel + 1, depth => do
    skipSpace
    if ← accept "]" then return []
    let v ← value fuel depth
    skipSpace
    if ← accept "," then return v :: (← elements fuel depth)
    guard (← accept "]")
    return [v]
termination_by structural fuel => fuel

/-- Read the entries of a table in braces up to the closing one. -/
def fields : Nat → (depth : Nat) → Entries → Parse Entries
  | 0, _, _ => failure
  | fuel + 1, depth, entries => do
    skipSpace
    if ← accept "\x7d" then return entries
    let entries ← field fuel depth entries
    skipSpace
    if ← accept "," then fields fuel depth entries
    else
      guard (← accept "\x7d")
      return entries
termination_by structural fuel => fuel

/-- Read a key and its value into a table. -/
def field : Nat → (depth : Nat) → Entries → Parse Entries
  | 0, _, _ => failure
  | fuel + 1, depth, entries => do
    let path ← key
    guard (← accept "=")
    skipBlanks
    let v ← value fuel depth
    StateT.lift (entries.add path v)
termination_by structural fuel => fuel

end

/-! ## Documents -/

/-- What has been read of a document: the root table, and the keys of the latest header. -/
structure Reading where
  root : Entries
  header : List String

/-- Read the line of a header after its opening bracket. -/
def headerLine (r : Reading) : Parse Reading := do
  let path ← key
  guard (← accept "]")
  endOfLine
  return ⟨← StateT.lift (r.root.openTable path), path⟩

/-- Read the line of a key and its value. -/
def entryLine (r : Reading) : Parse Reading := do
  let path ← key
  guard (← accept "=")
  skipBlanks
  let v ← value (2 * (← get).length + 2) maxDepth
  endOfLine
  return { r with root := ← StateT.lift (r.root.modifyAt (Entries.add path v) r.header) }

/-- Read the lines of a document. -/
def lines : Nat → Reading → Parse Entries
  | 0, _ => failure
  | fuel + 1, r => do
    skipSpace
    if (← get).isEmpty then return r.root
    else if ← accept "[" then lines fuel (← headerLine r)
    else lines fuel (← entryLine r)

/-- A mark at the very start that some editors write. -/
def skipMark : Parse Unit := do
  let _ ← accept "\ufeff"

end Parse

/-- The root table of a document. -/
def parse? (s : String) : Option Entries :=
  let document : Parse Entries := do
    Parse.skipMark
    Parse.lines (s.length + 1) ⟨[], []⟩
  (document.run s.toList).map (·.1)

end SourcePrep.Toml
