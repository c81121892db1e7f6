import SourcePrep.Pattern.Program

/-!
# Globs

A glob is a pattern for paths: `*` and `?` stand for characters of one name, `**` as a whole name
for any number of names, `[…]` for a set of characters and `{…,…}` for a choice. `Glob.parse` reads
one into a regular expression over the bytes of a path, each byte taken for a character.
-/

set_option autoImplicit false

namespace SourcePrep

/-- Why a glob is malformed. -/
inductive GlobError
  | invalidRange (first last : Char)
  | unopenedChoice
  | unclosedChoice
  | danglingEscape
  | tooLarge
  deriving DecidableEq, Repr

namespace GlobError

/-- What the user is told. -/
def message : GlobError → String
  | invalidRange first last => s!"invalid range; '{first}' > '{last}'"
  | unopenedChoice =>
    "unopened alternate group; missing '\x7b' (maybe escape '\x7d' with '[\x7d]'?)"
  | unclosedChoice =>
    "unclosed alternate group; missing '\x7d' (maybe escape '\x7b' with '[\x7b]'?)"
  | danglingEscape => "dangling '\\'"
  | tooLarge => "glob too large"

end GlobError

/-- A glob that can be matched. -/
structure Glob where
  program : Pattern.Regular

namespace Glob

open Pattern (CharSet Expr)

/-- The bytes of a text, each as the character with that code. -/
def bytes (s : String) : List Char := s.toUTF8.toList.map fun b => Char.ofNat b.toNat

/-- A part of a glob. -/
inductive Token
  | literal (c : Char)
  | any
  | many
  /-- `**` at the start: any directories. -/
  | anyDirsFirst
  /-- `**` at the end: everything inside. -/
  | anyDirsLast
  /-- `**` in the middle: any directories between. -/
  | anyDirsBetween
  | set (negated : Bool) (ranges : List (Char × Char))
  | choice (e : Expr)

/-- A slash. -/
def slash : Expr := .one (.char '/')

/-- Any number of bytes. -/
def anything : Expr := .repeated (.one .all) 0 none true

/-- Anything but a slash. -/
def notSlash : CharSet := .compl (.char '/')

/-- The bytes of a set that is given by ranges of characters. The range of two characters is that of
the last byte of the first and the first byte of the other. -/
def rangeSet : Char × Char → CharSet
  | (first, last) =>
    let all (cs : List Char) : CharSet := cs.foldr (fun c s => .union (.char c) s) .none
    let a := bytes first.toString
    let b := bytes last.toString
    if first = last then all a
    else
      .union (.union (all a.dropLast) (.range (a.getLast?.getD first) (b.head?.getD last)))
        (all (b.drop 1))

namespace Token

/-- What a part matches. -/
def expr : Token → Expr
  | literal c => .ofSequence ((bytes c.toString).map fun b => .one (.char b))
  | any => .one notSlash
  | many => .repeated (.one notSlash) 0 none true
  | anyDirsFirst =>
    .ofChoice [.repeated slash 0 (some 1) true, .ofSequence [anything, slash]]
  | anyDirsLast => .ofSequence [slash, anything]
  | anyDirsBetween => .ofChoice [slash, .ofSequence [slash, anything, slash]]
  | set negated ranges =>
    .one (CharSet.complIf negated (ranges.foldr (fun r s => .union (rangeSet r) s) .none))
  | choice e => e

end Token

/-- The expression is no more than the empty one. -/
def isNothing : Expr → Bool
  | .empty => true
  | _ => false

/-- What parts in a row match; the last part comes first. Choices between nothing do not count. -/
def exprOf (reversed : List Token) : Expr :=
  .ofSequence ((reversed.reverse.map Token.expr).filter (!isNothing ·))

/-- What a whole glob matches. A glob that is nothing but `**` matches everything. -/
def wholeExpr : List Token → Expr
  | [.anyDirsFirst] => anything
  | reversed => exprOf reversed

/-- The ranges of a set and the text after it. `open?` says that a dash was read, so that the next
character ends the latest range; `first` that nothing was read yet. Nothing when the set is never
closed. -/
def setRanges : List Char → (ranges : List (Char × Char)) → (open? first : Bool) →
    Except GlobError (Option (List (Char × Char) × List Char))
  | [], _, _, _ => .ok none
  | c :: rest, ranges, open?, first =>
    if c = ']' && !first then
      .ok (some ((if open? then ('-', '-') :: ranges else ranges), rest))
    else if c = '-' && !first && !open? then setRanges rest ranges true false
    else
      match open?, ranges with
      | true, (a, _) :: others =>
        if c < a then .error (.invalidRange a c) else setRanges rest ((a, c) :: others) false false
      | _, _ => setRanges rest ((c, c) :: ranges) false false

/-- Read a set after its bracket. A bracket that is never closed stands for itself. -/
def setToken (cs : List Char) : Except GlobError (Token × List Char) := do
  let (negated, body) := match cs with
    | '!' :: rest => (true, rest)
    | '^' :: rest => (true, rest)
    | rest => (false, rest)
  match ← setRanges body [] false true with
  | some (ranges, rest) => return (.set negated ranges, rest)
  | none => return (.literal '[', cs)

/-- What a star stands for, given the text after it, the character before it and the parts so far.
The answer has the parts, the latest first, and the rest of the text. `inside` says that the star is
in a choice. -/
def starTokens (inside : Bool) (before : Option Char) (tokens : List Token) (cs : List Char) :
    List Token × List Char :=
  match cs with
  | '*' :: rest =>
    let plain := (.many :: .many :: tokens, rest)
    match tokens with
    | [] =>
      match rest with
      | [] => ([.anyDirsFirst], [])
      | '/' :: after => ([.anyDirsFirst], after)
      | _ => plain
    | last :: others =>
      let opens := before == some '/' || (inside && (before == some ',' || before == some '\x7b'))
      if !opens then plain
      else
        let merged (new : Token) : List Token :=
          match last with
          | .anyDirsFirst => .anyDirsFirst :: others
          | .anyDirsLast => .anyDirsLast :: others
          | _ => new :: others
        match rest with
        | [] => (merged .anyDirsLast, [])
        | '/' :: after => (merged .anyDirsBetween, after)
        | c :: _ =>
          if inside && (c = ',' || c = '\x7d') then (merged .anyDirsLast, rest) else plain
  | rest => (.many :: tokens, rest)

mutual

/-- Read parts up to the end, or inside of a choice up to a comma or the closing brace, which is
left where it is. -/
def tokens (inside : Bool) : Nat → Option Char → List Token → List Char →
    Except GlobError (List Token × List Char)
  | 0, _, _, _ => .error .tooLarge
  | _ + 1, _, done, [] => if inside then .error .unclosedChoice else .ok (done, [])
  | fuel + 1, before, done, c :: rest =>
    match c with
    | '?' => tokens inside fuel (some c) (.any :: done) rest
    | '*' =>
      let (done, after) := starTokens inside before done rest
      let read := (c :: rest).take (rest.length + 1 - after.length)
      tokens inside fuel read.getLast? done after
    | '[' => do
      let (token, after) ← setToken rest
      let read := (c :: rest).take (rest.length + 1 - after.length)
      tokens inside fuel read.getLast? (token :: done) after
    | '\x7b' => do
      let (branches, after) ← choice fuel rest
      let branches := branches.filter (!isNothing ·)
      let e : Expr := if branches.isEmpty then .empty else .ofChoice branches
      tokens inside fuel (some '\x7d') (.choice e :: done) after
    | '\x7d' => if inside then .ok (done, c :: rest) else .error .unopenedChoice
    | ',' =>
      if inside then .ok (done, c :: rest)
      else tokens inside fuel (some c) (.literal c :: done) rest
    | '\\' =>
      match rest with
      | [] => .error .danglingEscape
      | d :: after => tokens inside fuel (some d) (.literal d :: done) after
    | c => tokens inside fuel (some c) (.literal c :: done) rest

/-- Read the branches of a choice and its closing brace. -/
def choice : Nat → List Char → Except GlobError (List Expr × List Char)
  | 0, _ => .error .tooLarge
  | fuel + 1, cs => do
    let (branch, rest) ← tokens true fuel (some '\x7b') [] cs
    match rest with
    | ',' :: after =>
      let (others, after) ← choice fuel after
      return (exprOf branch :: others, after)
    | _ => return ([exprOf branch], rest.drop 1)

end

/-- Read a glob. -/
def parse (s : String) : Except GlobError Glob := do
  let (parts, _) ← tokens false (2 * s.length + 2) none [] s.toList
  match Pattern.Program.regular? false (wholeExpr parts) with
  | some program => .ok ⟨program⟩
  | none => .error .tooLarge

/-- The glob matches the whole of a path. -/
def isMatch (g : Glob) (path : String) : Bool :=
  let subject := (bytes path).toArray
  match g.program.exec (.whole subject) 0 #[] (.startingAt 0) fun i slots explored =>
    if i = subject.size then .found i slots else .failed explored with
  | .found _ _ => true
  | .failed _ => false

end Glob

end SourcePrep
