import SourcePrep.Configuration
import SourcePrep.Toml.Parser
import SourcePrep.Workspace

/-!
# Project files

A project file sets what holds for every root: the marker, the library directories and how the
output is indented. It is given, or looked for in the working directory and the directories above
it, up to one that is the top of a repository. Relative library directories are seen from the
project file.
-/

set_option autoImplicit false

namespace SourcePrep

/-- How levels are written to the output. -/
inductive IndentStyle
  | tabs
  | spaces
  deriving DecidableEq, Repr, Inhabited

namespace IndentStyle

/-- The name of the style. -/
def name : IndentStyle → String
  | tabs => "tabs"
  | spaces => "spaces"

/-- The style with the given name. -/
def ofName? (s : String) : Option IndentStyle := [tabs, spaces].find? (·.name = s)

end IndentStyle

/-- What a project file sets. -/
structure Project where
  marker : Option String := none
  libDirs : List Path := []
  indent : IndentStyle := .tabs
  outputTabwidth : Nat := 4
  /-- The file it was read from. -/
  source : Option Path := none
  deriving DecidableEq, Repr, Inhabited

/-- Why a project file could not be used. -/
inductive ProjectError
  | unreadable (path : Path) (error : FileError)
  | malformed (path : Path)
  | invalidValue (key value : String) (path : Path)
  deriving DecidableEq, Repr

namespace ProjectError

/-- What the user is told. -/
def message : ProjectError → String
  | unreadable path error => s!"Failed to read config file at {path.text}: {error.message}"
  | malformed path => s!"Failed to parse config: {path.text}: malformed project file"
  | invalidValue key value path => s!"Invalid value '{value}' for '{key}' in {path.text}"

end ProjectError

namespace Project

/-- The name of a project file. -/
def fileName : String := ".eredmel.toml"

/-- The settings of a project, in the order in which an array gives them. -/
inductive Field
  | marker
  | libDirs
  | indent
  | outputTabwidth
  deriving DecidableEq, Repr

namespace Field

def all : List Field := [marker, libDirs, indent, outputTabwidth]

/-- The key of a setting. -/
def key : Field → String
  | marker => "prefix"
  | libDirs => "lib-dirs"
  | indent => "indent"
  | outputTabwidth => "output-tabwidth"

end Field

/-- A text. -/
def text? : Toml.Value → Option String
  | .text s => some s
  | _ => none

/-- A style: its name, or a table with nothing under its name. -/
def indent? : Toml.Value → Option IndentStyle
  | .text s => IndentStyle.ofName? s
  | .table _ [(key, .table _ [])] => IndentStyle.ofName? key
  | .table _ [(key, .array [])] => IndentStyle.ofName? key
  | _ => none

/-- The project with a setting at a value; nothing when the value is of the wrong kind. -/
def set? (p : Project) (field : Field) (v : Toml.Value) : Option Project :=
  match field, v with
  | .marker, v => (text? v).map fun s => { p with marker := some s }
  | .libDirs, .array vs => (vs.mapM text?).map fun dirs => { p with libDirs := dirs.map Path.mk }
  | .libDirs, _ => none
  | .indent, v => (indent? v).map fun style => { p with indent := style }
  | .outputTabwidth, .integer n =>
    if 0 ≤ n ∧ n.toNat ≤ Text.maxWord then some { p with outputTabwidth := n.toNat } else none
  | .outputTabwidth, _ => none

/-- The project that the value of the key `global` describes: a table, or an array that gives the
settings in order. -/
def ofGlobal? : Toml.Value → Option Project
  | .table _ entries =>
    entries.foldlM
      (fun p (key, v) => do p.set? (← Field.all.find? (·.key = key)) v) {}
  | .array vs => (Field.all.zip vs).foldlM (fun p (field, v) => p.set? field v) {}
  | _ => none

/-- The project that a document describes. -/
def ofDocument? : Toml.Entries → Option Project
  | [] => some {}
  | [("global", v)] => ofGlobal? v
  | _ => none

/-- A directory named in a project file. -/
def seenFrom (base dir : Path) : Path := if dir.isAbsolute then dir else base.join dir

/-- Read a project file that has the given text. -/
def parse (content : String) (path : Path) : Except ProjectError Project :=
  match (Toml.parse? content).bind ofDocument? with
  | none => .error (.malformed path)
  | some p =>
    match p.marker.filter fun marker => !Setting.isValid .marker marker with
    | some marker => .error (.invalidValue Field.marker.key marker path)
    | none =>
      if p.outputTabwidth = 0 then .error (.invalidValue Field.outputTabwidth.key "0" path)
      else
        let base := path.parent?.getD ⟨""⟩
        .ok { p with libDirs := p.libDirs.map (seenFrom base), source := some path }

/-- Look for a project file in a directory and those above it, so many at most. -/
def discoverFrom (w : Workspace) : Nat → Path → Option Path
  | 0, _ => none
  | fuel + 1, dir =>
    let candidate := dir.join ⟨fileName⟩
    if w.isFile candidate then some candidate
    else if w.isThere (dir.join ⟨".git"⟩) then none
    else dir.parent?.bind (discoverFrom w fuel)

/-- The number of directories that are looked into. -/
def maxDepth : Nat := 100

/-- The project file that holds for the working directory. -/
def discover? (w : Workspace) : Option Path := discoverFrom w maxDepth w.workingDir

/-- Read a given project file. -/
def loadFrom (w : Workspace) (path : Path) : Except ProjectError Project :=
  match w.read path with
  | .error e => .error (.unreadable path e)
  | .ok content => parse content path

/-- Read the given project file, or the one that holds for the working directory. Without any, the
defaults hold. -/
def load (w : Workspace) : Option Path → Except ProjectError Project
  | some path => loadFrom w path
  | none => (discover? w).elim (.ok {}) (loadFrom w)

/-- The configuration that every root starts from. -/
def configuration (p : Project) : Configuration :=
  (p.marker.bind fun marker => Configuration.set? {} .marker marker).getD {}

end Project

end SourcePrep
