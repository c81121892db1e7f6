import SourcePrep.FileTree
import SourcePrep.Path.Basic
import SourcePrep.Text

/-!
# Files seen from a working directory

A workspace is a tree of files without links and a working directory in it. Paths are followed one
segment at a time: every segment but the last must lead to a directory, `..` leads back up, and a
path that ends in a slash must name a directory.
-/

set_option autoImplicit false

namespace SourcePrep

/-- Why a file could not be used. -/
inductive FileError
  | notFound
  | alreadyThere
  | notADirectory
  | isADirectory
  | nameTooLong
  | notText
  | nulInName
  deriving DecidableEq, Repr

namespace FileError

/-- What the system says. -/
def message : FileError → String
  | notFound => "No such file or directory (os error 2)"
  | alreadyThere => "File exists (os error 17)"
  | notADirectory => "Not a directory (os error 20)"
  | isADirectory => "Is a directory (os error 21)"
  | nameTooLong => "File name too long (os error 36)"
  | notText => "stream did not contain valid UTF-8"
  | nulInName => "file name contained an unexpected NUL byte"

/-- The name of the kind of error. -/
def name : FileError → String
  | notFound => "NotFound"
  | alreadyThere => "AlreadyExists"
  | notADirectory => "NotADirectory"
  | isADirectory => "IsADirectory"
  | nameTooLong => "InvalidFilename"
  | notText => "InvalidData"
  | nulInName => "InvalidInput"

end FileError

/-- A step along a path. -/
inductive Segment
  /-- Stay, which only a directory allows. -/
  | here
  | up
  | down (name : String)
  deriving DecidableEq, Repr

/-- The step that a part of a path between slashes stands for. -/
def Segment.ofPart? : List Char → Option Segment
  | [] => none
  | ['.'] => some here
  | ['.', '.'] => some up
  | cs => some (down (String.ofList cs))

/-- The steps of a path. One that ends in a slash ends in a directory. -/
def Path.steps (p : Path) : List Segment :=
  let cs := p.text.toList
  (segments cs).filterMap Segment.ofPart? ++ if cs.getLast? = some '/' then [.here] else []

/-- A tree of files, and where in it the program runs. -/
structure Workspace where
  tree : FileTree
  /-- An absolute path. -/
  workingDir : Path

namespace Workspace

/-- The longest name of a file, in bytes. -/
def maxName : Nat := 255

/-- The longest path, in bytes. -/
def maxPath : Nat := 4095

/-- The names that lead to a directory of the workspace, given by an absolute path. -/
def namesOf (p : Path) : List String :=
  p.components.filterMap fun
    | .name n => some n
    | _ => none

/-- Follow steps from the place that a list of names leads to. -/
def follow (w : Workspace) : List String → List Segment → Except FileError (List String)
  | names, [] => .ok names
  | names, step :: rest =>
    match w.tree.find names with
    | some (.directory entries) =>
      match step with
      | .here => w.follow names rest
      | .up => w.follow names.dropLast rest
      | .down name =>
        if maxName < Text.size name then .error .nameTooLong
        else if (entries.lookup name).isSome then w.follow (names ++ [name]) rest
        else .error .notFound
    | some (.file _) => .error .notADirectory
    | none => .error .notFound

/-- A path that no system call takes. -/
def refused? (p : Path) : Option FileError :=
  if p.text.toList.contains '\x00' then some .nulInName
  else if p.text.isEmpty then some .notFound
  else if maxPath < Text.size p.text then some .nameTooLong
  else none

/-- Where the steps of a path start. -/
def start (w : Workspace) (p : Path) : List String :=
  if p.isAbsolute then [] else namesOf w.workingDir

/-- The names that lead to what a path names. -/
def resolve (w : Workspace) (p : Path) : Except FileError (List String) :=
  match refused? p with
  | some e => .error e
  | none => w.follow (w.start p) p.steps

/-- What a path names. -/
def find? (w : Workspace) (p : Path) : Option FileTree :=
  (w.resolve p).toOption.bind w.tree.find

/-- The path names something. -/
def isThere (w : Workspace) (p : Path) : Bool := (w.find? p).isSome

def isFile (w : Workspace) (p : Path) : Bool := (w.find? p).any FileTree.isFile

def isDirectory (w : Workspace) (p : Path) : Bool := (w.find? p).any FileTree.isDirectory

/-- The text of a file. -/
def read (w : Workspace) (p : Path) : Except FileError String := do
  match w.tree.find (← w.resolve p) with
  | some (.file (.text s)) => .ok s
  | some (.file (.binary _)) => .error .notText
  | some (.directory _) => .error .isADirectory
  | none => .error .notFound

/-- The name under which a file is remembered. -/
def identity (w : Workspace) (p : Path) : Path := Path.identity w.workingDir p

/-- The directory that inclusions are looked up in: that of a file, or the path itself. -/
def includingDir (w : Workspace) (p : Path) : Path :=
  if w.isFile p then p.parent?.getD ⟨""⟩ else p

/-! ## Changes -/

/-- The directory that a new entry at the end of some steps would go into, and the last step. -/
def entryAt (w : Workspace) (p : Path) : Except FileError (List String × Option Segment) :=
  match refused? p with
  | some e => .error e
  | none => do
    let dir ← w.follow (w.start p) p.steps.dropLast
    return (dir, p.steps.getLast?)

/-- Make a directory. -/
def makeDirectory (w : Workspace) (p : Path) : Except FileError Workspace := do
  let bare : Path := ⟨String.ofList (p.text.toList.reverse.dropWhile (· = '/')).reverse⟩
  let target := if bare.text.isEmpty then p else bare
  match ← w.entryAt target with
  | (dir, some (.down name)) =>
    match w.follow dir [.down name] with
    | .ok _ => .error .alreadyThere
    | .error .notFound => .ok { w with tree := w.tree.insert (dir ++ [name]) .empty }
    | .error e => .error e
  | (dir, some step) => do
    let _ ← w.follow dir [step]
    .error .alreadyThere
  | (_, none) => .error .alreadyThere

/-- Make a directory and the directories it lies in, unless it is there. `fuel` bounds how many. -/
def makeDirectoriesWithin : Nat → Workspace → Path → Except FileError Workspace
  | 0, _, _ => .error .notFound
  | fuel + 1, w, p =>
    if p.text.isEmpty then .ok w
    else
      match w.makeDirectory p with
      | .ok w => .ok w
      | .error .notFound => do
        let parent ← p.parent?.elim (.error .notFound) .ok
        let w ← makeDirectoriesWithin fuel w parent
        match w.makeDirectory p with
        | .ok w => .ok w
        | .error e => if w.isDirectory p then .ok w else .error e
      | .error e => if w.isDirectory p then .ok w else .error e

/-- Make a directory and the directories it lies in, unless it is there. -/
def makeDirectories (w : Workspace) (p : Path) : Except FileError Workspace :=
  makeDirectoriesWithin (p.components.length + 1) w p

/-- Write a text to a file. -/
def write (w : Workspace) (p : Path) (text : String) : Except FileError Workspace := do
  match ← w.entryAt p with
  | (dir, some (.down name)) =>
    let written := { w with tree := w.tree.insert (dir ++ [name]) (.file (.text text)) }
    match w.follow dir [.down name] with
    | .ok names =>
      if (w.tree.find names).any FileTree.isDirectory then .error .isADirectory else .ok written
    | .error .notFound => .ok written
    | .error e => .error e
  | (dir, some step) => do
    let _ ← w.follow dir [step]
    .error .isADirectory
  | (_, none) => .error .isADirectory

end Workspace

end SourcePrep
