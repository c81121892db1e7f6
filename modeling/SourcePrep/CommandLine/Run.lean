import SourcePrep.CommandLine.Options
import SourcePrep.Discovery
import SourcePrep.Pipeline
import SourcePrep.Report.Writer

/-!
# Running a command line

`CommandLine.run` is the whole program as a function: from the arguments and the files it gives what
is printed, the exit code and the files afterwards. The exit code tells a failure of the
preprocessed sources (1) from a failure of the tool (2).
-/

set_option autoImplicit false

namespace SourcePrep.CommandLine

/-- What a run leaves behind. -/
structure Outcome where
  exitCode : UInt32
  output : String
  errors : String
  workspace : Workspace

/-- Why the tool failed; each error with its causes, outermost first. -/
inductive ToolError
  | project (e : ProjectError)
  | invalidMarker (marker : String)
  | zeroTabwidth
  | discovery (e : DiscoveryError)
  | report (reason : String)
  | makeDirectory (dir : Path) (e : FileError)
  | write (target : Path) (e : FileError)

namespace ToolError

/-- The error and its causes. -/
def chain : ToolError → List String
  | project (.unreadable path e) => [(ProjectError.unreadable path e).message, e.message]
  | project e => [e.message]
  | invalidMarker marker => [s!"Invalid prefix '{marker}': a prefix cannot contain whitespace"]
  | zeroTabwidth => ["--output-tabwidth must be at least 1"]
  | discovery (.badRules messages) =>
    [(DiscoveryError.badRules messages).message, "\n".intercalate messages]
  | discovery e => [e.message]
  | report reason => ["Failed to write diagnostics", reason]
  | makeDirectory dir e => [s!"Failed to create output directory {dir.text}", e.message]
  | write target e => [s!"Failed to write {target.text}", e.message]

/-- What the user is told. -/
def message (e : ToolError) : String := ": ".intercalate e.chain

end ToolError

/-- What a run works with: the command line goes before the project file. -/
structure Settings where
  config : Configuration
  searchDirs : List Path
  indent : IndentStyle
  outputTabwidth : Nat

/-- The settings of a run. -/
def settings (o : Options) (p : Project) : Except ToolError Settings := do
  let config ← match o.marker with
    | none => pure p.configuration
    | some marker =>
      (p.configuration.set? .marker marker).elim (.error (.invalidMarker marker)) .ok
  let outputTabwidth := o.outputTabwidth.getD p.outputTabwidth
  if outputTabwidth = 0 then .error .zeroTabwidth
  else
    return { config, outputTabwidth
             searchDirs := o.libDirs ++ p.libDirs
             indent := o.indent.getD p.indent }

/-- A document as text. -/
def render (s : Settings) (d : Document Normalized) : String :=
  match s.indent with
  | .tabs => d.renderTabs
  | .spaces => d.renderSpaces s.outputTabwidth

/-- Write texts to files, one after the other. The files written before a failure stay. -/
def writeEach : List (Path × String) → Workspace → Workspace × Option ToolError
  | [], w => (w, none)
  | (target, text) :: rest, w =>
    match w.write target text with
    | .ok w => writeEach rest w
    | .error e => (w, some (.write target e))

/-- Write documents into a directory, which is made if need be, each to the output path of its
root. -/
def writeInto (s : Settings) (dir : Path) (documents : List (Path × Document Normalized))
    (w : Workspace) : Workspace × Option ToolError :=
  match w.makeDirectories dir with
  | .error e => (w, some (.makeDirectory dir e))
  | .ok w => writeEach (documents.map fun (root, d) => (outputPath root dir, render s d)) w

/-- The end of a run in which the tool failed. -/
def failed (w : Workspace) (errors : String) (e : ToolError) : Outcome :=
  ⟨2, "", errors ++ "Error: " ++ e.message ++ "\n", w⟩

/-- Hand out the documents of a run that was not stopped. -/
def deliver (o : Options) (s : Settings) (w : Workspace) (errors : String) (roots : List Path)
    (documents : List (Document Normalized)) : Outcome :=
  match o.outputDir with
  | none => ⟨0, String.join (documents.map (render s)), errors, w⟩
  | some dir =>
    match writeInto s dir (roots.zip documents) w with
    | (w, none) => ⟨0, "", errors, w⟩
    | (w, some e) => failed w errors e

/-- Preprocess files, reporting to a writer. -/
def preprocess (engine : Engine) (o : Options) (s : Settings) (w : Workspace) (roots : List Path) :
    Outcome :=
  let writer : Writer :=
    { formatter := .ofFormat o.format false
      minSeverity := if o.quiet then .high else .debug
      stopAt := o.abortOn }
  let run : Reporting Writer (List (Document Normalized)) :=
    if o.noReplace then loadFiles engine w s.searchDirs s.config roots
    else preprocessFiles engine w s.searchDirs s.config roots
  let (result, writer) := run writer
  match writer.finish with
  | .error reason => failed w "" (.report reason)
  | .ok errors =>
    match result with
    | .ok documents => deliver o s w errors roots documents
    | .error (.aborted a) =>
      ⟨1, "", if o.quiet then errors else errors ++ "Aborted: " ++ a.message ++ "\n", w⟩
    | .error (.fault _) => ⟨101, "", errors ++ "internal fault\n", w⟩

/-- The settings of a run and the files to preprocess. -/
def prepare (o : Options) (w : Workspace) : Except ToolError (Settings × List Path) := do
  let project ← if o.noProject then pure {} else (Project.load w o.project).mapError .project
  let s ← settings o project
  let roots ← (discover w o.paths).mapError .discovery
  return (s, roots)

/-- Run a command line that asks for preprocessing. -/
def runOptions (engine : Engine) (o : Options) (w : Workspace) : Outcome :=
  match prepare o w with
  | .error e => failed w "" e
  | .ok (_, []) => ⟨0, "", if o.quiet then "" else "No .edmh files found\n", w⟩
  | .ok (s, roots) => preprocess engine o s w roots

/-- The name and version of the program. -/
def version : String := "eredmel 0.1.0"

/-- The forms of the options, and what each does. -/
def optionHelp : List (String × String) :=
  [ ("-L, --lib-dir <DIR>",
      "Directory searched for included files, before the including file's own directory"),
    ("    --prefix <PREFIX>", "Directive prefix for every root file (session scope)"),
    ("    --indent <INDENT>",
      "Indentation of the written output [possible values: tabs, spaces]"),
    ("    --output-tabwidth <N>",
      "Spaces per indentation level when writing with --indent spaces"),
    ("-o, --output-dir <DIR>",
      "Write <stem>.edm files into this directory instead of printing to stdout"),
    ("    --no-replace",
      "Stop after resolving includes, leaving replace directives untouched"),
    ("    --output-format <FORMAT>",
      "Output format for diagnostics: text, concise, json, json-lines [default: text]"),
    ("    --abort-on <SEVERITY>",
      "Abort on the first diagnostic at or above this severity (debug, low, med, high, fatal)"),
    ("-c, --config <FILE>", "Configuration file path (default: discover .eredmel.toml)"),
    ("    --no-config", "Ignore any .eredmel.toml"),
    ("-q, --quiet", "Only report HIGH and FATAL diagnostics"),
    ("-v, --verbose", "Enable debug logging"),
    ("    --no-color", "Disable colored output"),
    ("-h, --help", "Print help"),
    ("-V, --version", "Print version") ]

/-- One form to a line, all descriptions in one column. -/
def helpTable (rows : List (String × String)) : String :=
  let width := (rows.map fun (form, _) => form.length).foldl max 0
  String.join <| rows.map fun (form, description) =>
    "  " ++ form ++ Text.copies ' ' (width - form.length + 2) ++ description ++ "\n"

/-- What the program is for, and its arguments and options. -/
def help : String :=
  "A preprocessor for Eredmel sources: tabwidth normalization, file inclusion and regex macro " ++
  "expansion\n\nUsage: eredmel [OPTIONS] <PATHS>...\n\nArguments:\n" ++
  helpTable
    [("<PATHS>...",
      "Files or directories to preprocess (directories are searched for *.edmh files)")] ++
  "\nOptions:\n" ++ helpTable optionHelp

/-- Run a command line. -/
def run (engine : Engine) (arguments : List String) (w : Workspace) : Outcome :=
  match parse arguments with
  | .error e => ⟨2, "", e.message ++ "\n", w⟩
  | .ok .help => ⟨0, help, "", w⟩
  | .ok .version => ⟨0, version ++ "\n", "", w⟩
  | .ok (.preprocess o) => runOptions engine o w

end SourcePrep.CommandLine
