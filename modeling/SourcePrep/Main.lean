import SourcePrep.CommandLine.Run

/-!
# The program

`main` copies the files that a run can reach into a workspace, runs the command line on it, prints
what came out and writes the files that changed.

A run can reach the tree of the working directory, the trees that the arguments and the project file
name, and the ignore files and project files of the directories above them. Links to directories are
not followed, and the whole disk is never copied.
-/

set_option autoImplicit false

namespace SourcePrep.Disk

/-- The absolute path that a list of names stands for. -/
def pathOf (names : List String) : String := "/" ++ "/".intercalate names

/-- The content of a file on disk. -/
def readContent (path : String) : IO Content := do
  return .ofBytes (← IO.FS.readBinFile path).toList

/-- The tree below a path; what cannot be read is left out. -/
partial def readTree? (path : String) : IO (Option FileTree) :=
  tryCatch
    (do
      let place := (← IO.currentDir) / path
      match (← place.metadata).type with
      | .dir =>
        let entries ← (← place.readDir).toList.filterMapM fun entry => do
          let isLink := (← entry.path.symlinkMetadata).type == .symlink
          if isLink && (← entry.path.isDir) then return none
          else return (← readTree? (path ++ "/" ++ entry.fileName)).map (entry.fileName, ·)
        return some (.directory entries)
      | .file => return some (.file (← readContent path))
      | _ => return none)
    fun _ => return none

open Ignore (Ruleset)

/-- The files that count in a directory above a tree. -/
def landmarks : List Path := [Ruleset.generalFile, Ruleset.trackedFile, ⟨Project.fileName⟩]

/-- Copy what is at the end of a list of names, unless something is there already. -/
def addMissing (t : FileTree) (names : List String) (read : String → IO (Option FileTree)) :
    IO FileTree := do
  if (t.find names).isSome then return t
  else return (← read (pathOf names)).elim t (t.insert names)

/-- An empty directory in place of the one on disk. -/
def readDirectory? (path : String) : IO (Option FileTree) := do
  let place := (← IO.currentDir) / path
  return if ← place.isDir then some .empty else none

/-- The file on disk, or an empty directory in place of one. -/
def readOutline? (path : String) : IO (Option FileTree) := do
  match ← readDirectory? path with
  | some dir => return some dir
  | none => readTree? path

/-- Copy the directories above a place, with the files that count there. -/
def addAbove (workingDir : Path) (t : FileTree) (names : List String) : IO FileTree := do
  let mut t := t
  for n in List.range names.length do
    let dir : Path := ⟨pathOf (names.take n)⟩
    let namesOf (p : Path) := Workspace.namesOf (Path.identity workingDir p)
    t ← addMissing t (names.take n) readDirectory?
    for mark in Ruleset.repositoryMarks do
      t ← addMissing t (namesOf (dir.join mark)) readOutline?
    for landmark in landmarks do
      t ← addMissing t (namesOf (dir.join landmark)) readTree?
    if let .ok (some place) := Ruleset.placeOf? ⟨t, workingDir⟩ dir then
      t ← addMissing t (namesOf (place.join Ruleset.commonFile)) readTree?
    if let some file := Ruleset.excludedFileOf? ⟨t, workingDir⟩ dir then
      t ← addMissing t (namesOf file) readTree?
  return t

/-- Copy the tree that a path names, or the one around the file that it names. -/
def addPath (workingDir : Path) (t : FileTree) (p : Path) : IO FileTree := do
  let named := Workspace.namesOf (Path.identity workingDir p)
  let isDirectory := (← readDirectory? (pathOf named)).isSome
  let names := if isDirectory then named else named.dropLast
  let t ← addAbove workingDir t names
  if names.isEmpty then
    return (← readTree? (pathOf named)).filter FileTree.isFile |>.elim t (t.insert named)
  else return (← readTree? (pathOf names)).elim t (t.insert names)

/-- The paths besides the working directory that options name. -/
def pathsIn (o : Options) : List Path :=
  o.paths ++ o.libDirs ++ o.project.toList ++ o.outputDir.toList

/-- The library directories of the project file. -/
def projectDirs (o : Options) (w : Workspace) : List Path :=
  if o.noProject then [] else ((Project.load w o.project).toOption.map (·.libDirs)).getD []

/-- The workspace of a run. -/
def readWorkspace (o : Options) : IO Workspace := do
  let workingDir : Path := ⟨(← IO.currentDir).toString⟩
  let add := addPath workingDir
  let t ← (⟨"."⟩ :: pathsIn o).foldlM add .empty
  return { workingDir, tree := ← (projectDirs o ⟨t, workingDir⟩).foldlM add t }

/-- Write a file, and make the directory it lies in. -/
def writeFile (names : List String) : Content → IO Unit
  | .text s => do
    IO.FS.createDirAll (pathOf names.dropLast)
    IO.FS.writeFile (pathOf names) s
  | .binary _ => return

end SourcePrep.Disk

open SourcePrep in
/-- Run the program. -/
def main (arguments : List String) : IO UInt32 := do
  let w ← match CommandLine.parse arguments with
    | .ok (.preprocess o) => Disk.readWorkspace o
    | _ => pure ⟨.empty, ⟨"/"⟩⟩
  let outcome := CommandLine.run .standard arguments w
  for (names, content) in outcome.workspace.tree.changesSince w.tree do
    Disk.writeFile names content
  IO.print outcome.output
  IO.eprint outcome.errors
  return outcome.exitCode
