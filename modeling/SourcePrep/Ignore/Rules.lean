import SourcePrep.FileTree
import SourcePrep.Ignore.Glob
import SourcePrep.Text.Blank

/-!
# Rules of an ignore file

Each line of an ignore file is a rule: a glob for paths to leave out, or after `!` for paths to take
back in. A rule with a slash holds for the path seen from the file's directory, any other for a name
anywhere below; one that ends in a slash holds for directories only. The last rule that matches a
path decides.
-/

set_option autoImplicit false

namespace SourcePrep.Ignore

/-- What rules say about a path. -/
inductive Verdict
  | ignored
  | allowed
  deriving DecidableEq, Repr

/-- One rule. -/
structure Rule where
  glob : Glob
  verdict : Verdict
  onlyDirectories : Bool

/-- Why a rule cannot be read. -/
inductive RuleError
  | badGlob (text : String) (error : GlobError)
  /-- The line is no text; what comes after it is not read either. -/
  | notText
  deriving DecidableEq, Repr

/-- What is said of a rule that cannot be read. -/
def RuleError.message : RuleError → String
  | badGlob text error => s!"error parsing glob '{text}': {error.message}"
  | notText => "stream did not contain valid UTF-8"

/-- A rule that cannot be read. -/
structure BadRule where
  /-- The number of its line. -/
  line : Nat
  error : RuleError

/-- A rule as written, taken apart. -/
structure Spelling where
  /-- The line, without the blanks at its end. -/
  text : String
  glob : List Char
  verdict : Verdict
  onlyDirectories : Bool

/-- The text without the blanks at its end, unless the last of them is escaped. -/
def trimEnd (cs : List Char) : List Char :=
  match cs.reverse with
  | ' ' :: '\\' :: _ => cs
  | reversed => (reversed.dropWhile Text.isBlank).reverse

/-- The glob for a path: one without a slash holds at any depth, and one that ends in `/**` not for
the directory itself. -/
def completed (anchored : Bool) (glob : List Char) : List Char :=
  let deep :=
    if !anchored && !glob.contains '/' && glob != ['*', '*'] then ['*', '*', '/'] ++ glob else glob
  if ['/', '*', '*'].isSuffixOf deep then deep ++ ['/', '*'] else deep

/-- A line taken apart; nothing for a comment or an empty line. -/
def spelling? (line : String) : Option Spelling :=
  let cs := line.toList
  if cs.head? = some '#' then none
  else
    let kept := trimEnd cs
    let (escaped, negative, body) := match kept with
      | '\\' :: '!' :: rest => (true, false, '!' :: rest)
      | '\\' :: '#' :: rest => (true, false, '#' :: rest)
      | '!' :: rest => (false, true, rest)
      | rest => (false, false, rest)
    let (anchored, body) := match escaped, body with
      | false, '/' :: rest => (true, rest)
      | _, rest => (false, rest)
    let (onlyDirectories, body) := match body.reverse with
      | '/' :: '\\' :: rest => (true, rest.reverse)
      | '/' :: rest => (true, rest.reverse)
      | _ => (false, body)
    if kept.isEmpty then none
    else some
      { text := String.ofList kept
        glob := completed anchored body
        verdict := if negative then .allowed else .ignored
        onlyDirectories }

/-- Read the rules in lines numbered from `n`. A rule that cannot be read is left out. -/
def readLines (n : Nat) : List String → List Rule × List BadRule
  | [] => ([], [])
  | line :: rest =>
    let (rules, bad) := readLines (n + 1) rest
    match spelling? line with
    | none => (rules, bad)
    | some s =>
      match Glob.parse (String.ofList s.glob) with
      | .ok glob => (⟨glob, s.verdict, s.onlyDirectories⟩ :: rules, bad)
      | .error error => (rules, ⟨n, .badGlob s.text error⟩ :: bad)

/-- The lines of an ignore file up to the first that is no text. Marks at the very start are
skipped. -/
def linesOf (content : Content) : List String :=
  match Text.lines content.leadingText with
  | [] => []
  | first :: rest => String.ofList (first.toList.dropWhile (· = '\ufeff')) :: rest

/-- Read the rules of an ignore file. -/
def read (content : Content) : List Rule × List BadRule :=
  let lines := linesOf content
  let (rules, bad) := readLines 1 lines
  (rules, if content.isText then bad else bad ++ [⟨lines.length + 1, .notText⟩])

/-- What rules say about a path: the last one that matches decides. -/
def verdict? (rules : List Rule) (path : String) (isDirectory : Bool) : Option Verdict :=
  (rules.reverse.find? fun r =>
    (!r.onlyDirectories || isDirectory) && r.glob.isMatch path).map (·.verdict)

end SourcePrep.Ignore
