import SourcePrep.Ignore.Rules
import SourcePrep.Workspace

/-!
# The ignore rules of directories

A ruleset holds the rules of one directory: those of `.ignore`, those of `.gitignore`, and those
that a repository keeps for itself. The latter two count only inside of a repository, up to its top,
and those of `.ignore` go before them; of two files of one name, the nearer one decides.

A path is compared with the rules of a directory as it is written, less the directory at its start.
-/

set_option autoImplicit false

namespace SourcePrep.Ignore

/-- The rules of one directory. -/
structure Ruleset where
  /-- The directory, as it is written at the start of the paths below it. -/
  dir : Path
  /-- The rules of `.ignore`. -/
  general : List Rule
  /-- The rules of `.gitignore`. -/
  tracked : List Rule
  /-- The rules of the repository itself. -/
  excluded : List Rule
  /-- The directory is the top of a repository. -/
  isTop : Bool

namespace Ruleset

/-! ## Reading -/

/-- The files that hold the rules of a directory. -/
def generalFile : Path := ⟨".ignore"⟩

def trackedFile : Path := ⟨".gitignore"⟩

/-- The file of rules in the directory that a repository keeps for itself. -/
def excludedFile : Path := ⟨"info/exclude"⟩

/-- What a repository keeps for itself: a directory, or a file that says where it is. -/
def repositoryFile : Path := ⟨".git"⟩

/-- What makes a directory the top of a repository. -/
def repositoryMarks : List Path := [repositoryFile, ⟨".jj"⟩]

/-- The first line of a file; nothing if it is empty. -/
def firstLine? (w : Workspace) (file : Path) : Except FileError (Option String) :=
  match w.find? file with
  | some (.file content) =>
    match Text.lines content.leadingText with
    | [] => if content.isText then .ok none else .error .notText
    | line :: _ => .ok (some line)
  | some (.directory _) => .error .isADirectory
  | none => .error .notFound

/-- What the file that stands for a repository has before the place that it names. -/
def placeLabel : List Char := "gitdir: ".toList

/-- The place that a line of such a file names. -/
def placeNamed? (line : String) : Option Path :=
  (placeLabel.isPrefixOf? line.toList).map fun rest => ⟨String.ofList rest⟩

/-- The file in a named place that leads on to the directory with the rules. -/
def commonFile : Path := ⟨"commondir"⟩

/-- The place that the file of a repository names. Fails with the file if it cannot be read. -/
def placeOf? (w : Workspace) (dir : Path) : Except (Path × FileError) (Option Path) := do
  let file := dir.join repositoryFile
  return (← (firstLine? w file).mapError (file, ·)).bind placeNamed?

/-- The directory with the rules that a repository keeps for itself. A file in its place names a
second file, whose first line names the directory, seen from there if it starts with a dot. Fails
with a file that is there and cannot be read. -/
def repositoryDir? (w : Workspace) (dir : Path) : Except (Path × FileError) (Option Path) :=
  let file := dir.join repositoryFile
  if !w.isFile file then .ok (some file)
  else do
    let some place ← placeOf? w dir | return none
    let common := place.join commonFile
    if !w.isThere common then return none
    let some line ← (firstLine? w common).mapError (common, ·) | return none
    return some (if line.toList.head? = some '.' then place.join ⟨line⟩ else ⟨line⟩)

/-- The rules in a file, and those that cannot be read. A file that is not there has none. -/
def rulesIn (w : Workspace) (file : Path) : List Rule × List BadRule :=
  match w.find? file with
  | some (.file content) => read content
  | _ => ([], [])

/-- The file with the rules that a repository keeps for itself. -/
def excludedFileOf? (w : Workspace) (dir : Path) : Option Path :=
  ((repositoryDir? w dir).toOption.bind id).map (·.join excludedFile)

/-- The rules of a directory. -/
def of (w : Workspace) (dir : Path) : Ruleset :=
  { dir
    general := (rulesIn w (dir.join generalFile)).1
    tracked := (rulesIn w (dir.join trackedFile)).1
    excluded := (excludedFileOf? w dir).elim [] fun file => (rulesIn w file).1
    isTop := repositoryMarks.any fun mark => w.isThere (dir.join mark) }

/-- What is said of the rules in a file. A line that is no text is told only beside other faults. -/
def complaintsIn (w : Workspace) (file : Path) : List String :=
  let bad := (rulesIn w file).2
  if bad.all (·.error = .notText) then []
  else bad.map fun b => s!"{file.text}: line {b.line}: {b.error.message}"

/-- What is said of the rules of a directory that cannot be read. -/
def complaints (w : Workspace) (dir : Path) : List String :=
  complaintsIn w (dir.join generalFile) ++ complaintsIn w (dir.join trackedFile) ++
    match repositoryDir? w dir with
    | .ok none => []
    | .ok (some place) => complaintsIn w (place.join excludedFile)
    | .error (file, e) => [s!"{file.text}: {e.message}"]

/-! ## Verdicts -/

/-- The text without a `./` at its start. -/
def withoutDot : List Char → List Char
  | '.' :: '/' :: rest => rest
  | cs => cs

/-- The text without a slash at its start. -/
def withoutSlash : List Char → List Char
  | '/' :: rest => rest
  | cs => cs

/-- A path less a directory at its start; the path itself if it starts otherwise. -/
def below (dir path : List Char) : List Char :=
  (dir.isPrefixOf? path).elim path withoutSlash

/-- The working directory, as such. -/
def here : Path := ⟨"."⟩

/-- A path as the rules of a directory see it. -/
def view (dir path : Path) : String :=
  let cs := withoutDot path.text.toList
  let base : Path := ⟨String.ofList (withoutDot dir.text.toList)⟩
  String.ofList (if base.same here then cs else below base.text.toList cs)

/-- The first verdict of sets, the nearest first, on a path. -/
def firstVerdict (rules : Ruleset → List Rule) (sets : List (Ruleset × Path)) (isDirectory : Bool) :
    Option Verdict :=
  sets.findSome? fun (s, path) => verdict? (rules s) (view s.dir path) isDirectory

/-- The sets up to the top of the repository; none outside of one. -/
def inRepository (sets : List (Ruleset × Path)) : List (Ruleset × Path) :=
  if sets.any (·.1.isTop) then
    sets.takeWhile (!·.1.isTop) ++ (sets.dropWhile (!·.1.isTop)).take 1
  else []

/-- What the rules of the sets say, the nearest set first, each about the path beside it. -/
def judge (sets : List (Ruleset × Path)) (isDirectory : Bool) : Option Verdict :=
  let repository := inRepository sets
  (firstVerdict (·.general) sets isDirectory).orElse fun _ =>
    (firstVerdict (·.tracked) repository isDirectory).orElse fun _ =>
      firstVerdict (·.excluded) repository isDirectory

end Ruleset

end SourcePrep.Ignore
