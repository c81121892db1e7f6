import SourcePrep.Ignore.Ruleset

/-!
# Finding source files

`discover` turns paths into a sorted list of files without repetitions. A file is taken as it is. A
directory is searched for source files: hidden directories are skipped, and so is what the ignore
rules of a directory leave out, for everything below it. The rules of the directories above a search
count too.
-/

set_option autoImplicit false

namespace SourcePrep

/-- The extension of source files. -/
def sourceExtension : String := "edmh"

/-- The extension of preprocessed files. -/
def outputExtension : String := "edm"

/-- Where the preprocessed form of a file is written. -/
def outputPath (source dir : Path) : Path :=
  (dir.join ⟨source.fileStem?.getD source.text⟩).withExtension outputExtension

/-- Why files could not be found. -/
inductive DiscoveryError
  | notFound (path : Path)
  /-- Rules of directories above cannot be read; what is said of each. -/
  | badRules (messages : List String)
  deriving DecidableEq, Repr

namespace DiscoveryError

/-- What the user is told. -/
def message : DiscoveryError → String
  | notFound path => s!"Path not found: {path.text}"
  | badRules messages => "Failed to walk directory: " ++ "\n".intercalate messages

end DiscoveryError

namespace Discovery

open Ignore (Ruleset Verdict)

/-- The rules of a directory above a search. -/
structure Outer where
  rules : Ruleset
  /-- The directory that was searched when the rules were read. They stay for the searches that
  follow, and so does this place: the rules take what is found for something below it. -/
  place : Path

/-- A search of a directory. -/
structure Search where
  /-- The directory, as given. -/
  dir : Path
  /-- The rules of the directories above, the nearest first. -/
  above : List Outer

namespace Search

/-- A path that was found, as the rules of directories above see it. -/
def absolute (s : Search) (path : Path) : Path :=
  let cs := Ruleset.withoutDot path.text.toList
  let rest :=
    if s.dir.same Ruleset.here then cs else Ruleset.below (Ruleset.withoutDot s.dir.text.toList) cs
  (s.above.head?.elim ⟨""⟩ (·.place)).join ⟨String.ofList rest⟩

/-- What the rules say about a path, those of `sets` first. -/
def verdict? (s : Search) (sets : List Ruleset) (path : Path) (isDirectory : Bool) :
    Option Verdict :=
  let written : Path := ⟨String.ofList (Ruleset.withoutDot path.text.toList)⟩
  Ruleset.judge (sets.map (·, written) ++ s.above.map (·.rules, s.absolute path)) isDirectory

end Search

/-- A name with the extension of source files. -/
def isSourceName (name : String) : Bool := ("." ++ sourceExtension).toList.isSuffixOf name.toList

/-- A name that starts with a dot. -/
def isHidden (name : String) : Bool := name.toList.head? = some '.'

/-- The search goes on with an entry of a directory. A source file is found even if it is hidden. -/
def isWanted (verdict : Option Verdict) (name : String) (isDirectory : Bool) : Bool :=
  match verdict with
  | some .ignored => false
  | some .allowed => isDirectory || isSourceName name
  | none => if isDirectory then !isHidden name else isSourceName name

mutual

/-- The source files at or below a place, with paths that start as given. -/
def walk (w : Workspace) (s : Search) (sets : List Ruleset) (path : Path) : FileTree → List Path
  | .file _ => [path]
  | .directory entries => walkEntries w s (.of w path :: sets) path entries

/-- The source files in entries of a directory. -/
def walkEntries (w : Workspace) (s : Search) (sets : List Ruleset) (path : Path) :
    List (String × FileTree) → List Path
  | [] => []
  | (name, t) :: rest =>
    let entry := path.join ⟨name⟩
    let here :=
      if isWanted (s.verdict? sets entry t.isDirectory) name t.isDirectory then
        walk w s sets entry t
      else []
    here ++ walkEntries w s sets path rest

end

/-- The directories above what a list of names leads to, the nearest first. -/
def above (names : List String) : List Path :=
  ((List.range names.length).map fun n => ⟨"/" ++ "/".intercalate (names.take n)⟩).reverse

/-- The rules of the directories above a search; those that are known are taken as they are. -/
def outerRules (w : Workspace) (known : List Outer) (names : List String) :
    Except DiscoveryError (List Outer) :=
  let place : Path := ⟨"/" ++ "/".intercalate names⟩
  let isKnown (dir : Path) : Bool := known.any (·.rules.dir = dir)
  match (above names).reverse.flatMap fun dir =>
      if isKnown dir then [] else Ruleset.complaints w dir with
  | [] => .ok ((above names).map fun dir =>
      (known.find? (·.rules.dir = dir)).getD ⟨.of w dir, place⟩)
  | messages => .error (.badRules messages)

/-- The path that stands for the standard input, where there is nothing to search. -/
def standardInput : Path := ⟨"-"⟩

/-- Search directories one after the other. -/
def searchAll (w : Workspace) : (known : List Outer) → List Path →
    Except DiscoveryError (List Path)
  | _, [] => .ok []
  | known, dir :: rest =>
    if dir.same standardInput then searchAll w known rest
    else do
      let names := (w.resolve dir).toOption.getD []
      let outer ← outerRules w known names
      let found := (w.tree.find names).elim [] (walk w ⟨dir, outer⟩ [] dir)
      return found ++ (← searchAll w outer rest)

/-- The list without repetitions of a path in a row. -/
def dedup : List Path → List Path
  | [] => []
  | [p] => [p]
  | p :: q :: rest =>
    if p.same q then dedup (p :: rest) else p :: dedup (q :: rest)
termination_by ps => ps.length

/-- The paths that name no file and no directory. -/
def missing? (w : Workspace) (paths : List Path) : Option Path :=
  paths.find? fun p => !w.isFile p && !w.isDirectory p

end Discovery

/-- The files that paths stand for, in order. -/
def discover (w : Workspace) (paths : List Path) : Except DiscoveryError (List Path) :=
  match Discovery.missing? w paths with
  | some path => .error (.notFound path)
  | none => do
    let found ← Discovery.searchAll w [] (paths.filter w.isDirectory)
    let files := paths.filter w.isFile ++ found
    return Discovery.dedup (files.mergeSort fun p q => (p.compare q).isLE)

end SourcePrep
