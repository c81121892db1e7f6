import SourcePrep.Normalization
import SourcePrep.Workspace

/-!
# Inclusion

A line `include "path"` is replaced by the lines of the file it names, with their own inclusions
resolved. Each file is normalized by itself, starting from the session's settings of the file that
includes it. A file is looked up in the search directories, in order, and then in the directory of
the including file.

Two things are remembered. The chain holds the files being resolved, outermost first: a file that is
on it already closes a cycle, which is reported, and contributes nothing. The cache holds the files
resolved so far, for all roots of a run: no file is resolved twice.
-/

set_option autoImplicit false

namespace SourcePrep

/-- The body of an include directive. -/
def includeDirective : String := "include\\s*\"(?P<path>.+)\"\\s*$"

/-- What loading remembers, on top of a sink. -/
structure Loader (σ : Type) where
  /-- The files being resolved, outermost first. -/
  chain : List Path := []
  /-- The files resolved, by identity, in the order in which they were finished. -/
  cache : List (Path × Document Normalized) := []
  sink : σ

instance {σ : Type} [Sink σ] : Sink (Loader σ) where
  emit s d :=
    let (answer, sink) := Sink.emit s.sink d
    (answer, { s with sink })

/-- A computation that loads files and reports. -/
abbrev Loading (σ : Type) := Reporting (Loader σ)

namespace Inclusion

/-- The chain from the first occurrence of a file on, and then the file again. -/
def cycleThrough (chain : List Path) (identity : Path) : List Path :=
  chain.dropWhile (· ≠ identity) ++ [identity]

/-- The file that an inclusion names: the first one found in the search directories or else next to
the including file. -/
def resolve? (w : Workspace) (searchDirs : List Path) (including : Path) (relative : String) :
    Option Path :=
  let candidates := (searchDirs ++ [including]).map fun dir => (w.includingDir dir).join ⟨relative⟩
  candidates.find? w.isFile

section
variable {σ : Type} [Sink σ]

/-- Run an action with a file on the chain. The file comes off whatever the outcome. -/
def whileOpen {α : Type} (identity : Path) (action : Loading σ α) : Loading σ α := fun s =>
  let (result, s) := action { s with chain := s.chain ++ [identity] }
  (result, { s with chain := s.chain.dropLast })

/-- Remember a resolved file. -/
def remember (identity : Path) (d : Document Normalized) : Loading σ Unit :=
  modify fun s => { s with cache := s.cache ++ [(identity, d)] }

/-- How a file is loaded: by its path, the line that asks for it, and the configuration it inherits.
-/
abbrev Load (σ : Type) := Path → Position → Configuration → Loading σ (Document Normalized)

/-- The lines that take the place of one line of a file. -/
def resolveLine (w : Workspace) (searchDirs : List Path) (load : Load σ) (path : Path)
    (config : Configuration) (find : Matcher) (line : Line Normalized) :
    Loading σ (List (Line Normalized)) :=
  match find line.kind.renderTabs with
  | .ok none => return [line]
  | .error failure => do
    report (.ofKind .patternExecutionError failure.message line.position)
    return [line]
  | .ok (some m) =>
    let relative := (m.named? "path").getD ""
    match resolve? w searchDirs path relative with
    | none => do
      report (.unresolvedInclusion relative line.position)
      return []
    | some target => do
      let included ← load target line.position config.sessionOnly
      return included.lines

/-- A file with its inclusions resolved; nothing when it could not be read. -/
def readAndResolve (engine : Engine) (w : Workspace) (searchDirs : List Path) (load : Load σ)
    (path : Path) (config : Configuration) : Loading σ (Option (Document Normalized)) :=
  match w.read path with
  | .error e => do
    report (.errorLoadingFile path e.message)
    return none
  | .ok content => do
    let d := (← normalize engine (.read path content config)).document
    match engine.directive d.config includeDirective with
    | .error _ => return some d
    | .ok find =>
      let lines ← d.lines.mapM (resolveLine w searchDirs load path d.config find)
      return some (.ofLines lines.flatten d.config)

/-- Load a file that is neither resolved nor being resolved. -/
def loadNew (engine : Engine) (w : Workspace) (searchDirs : List Path) (load : Load σ)
    (identity path : Path) (config : Configuration) : Loading σ (Document Normalized) := do
  match ← whileOpen identity (readAndResolve engine w searchDirs load path config) with
  | some d =>
    remember identity d
    return d
  | none => return .empty config

/-- Load a file, with inclusions nested at most so deep. -/
def loadWithin (engine : Engine) (w : Workspace) (searchDirs : List Path) : Nat → Load σ
  | 0, _, _, config => return .empty config
  | depth + 1, path, origin, config => do
    if !w.isThere path then report (.missingFile path)
    let identity := w.identity path
    let s ← get
    match s.cache.lookup identity with
    | some d => return d
    | none =>
      if s.chain.contains identity then
        report (.circularInclusion (cycleThrough s.chain identity) origin)
        return .empty config
      else
        loadNew engine w searchDirs (loadWithin engine w searchDirs depth) identity path config

/-- Load a file. The files on the chain are distinct, so inclusions cannot nest deeper than there
are files, one more for a root that is none. -/
def load (engine : Engine) (w : Workspace) (searchDirs : List Path) : Load σ :=
  loadWithin engine w searchDirs (w.tree.fileCount + 2)

/-- Load a root file. -/
def loadRoot (engine : Engine) (w : Workspace) (searchDirs : List Path) (config : Configuration)
    (path : Path) : Loading σ (Document Normalized) :=
  load engine w searchDirs path (.wholeFile path) config

end

end Inclusion

end SourcePrep
