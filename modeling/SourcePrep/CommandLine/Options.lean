import SourcePrep.Project
import SourcePrep.Report.Format

/-!
# Command lines

`CommandLine.parse` reads the arguments from left to right. An option with a value takes it from the
same argument or from the next one, short switches can be written together, and `--` ends the
options. Only the option for library directories may be given more than once. A request for the
version or for help is answered where it stands, whatever comes after it.
-/

set_option autoImplicit false

namespace SourcePrep

/-- What a command line asks the preprocessor to do. -/
structure Options where
  paths : List Path := []
  libDirs : List Path := []
  marker : Option String := none
  indent : Option IndentStyle := none
  outputTabwidth : Option Nat := none
  outputDir : Option Path := none
  noReplace : Bool := false
  format : Format := .text
  abortOn : Option Severity := none
  project : Option Path := none
  noProject : Bool := false
  quiet : Bool := false
  verbose : Bool := false
  noColour : Bool := false
  deriving Repr, Inhabited

namespace CommandLine

/-- An option with a value. -/
inductive ValueOption
  | libDir
  | marker
  | indent
  | outputTabwidth
  | outputDir
  | outputFormat
  | abortOn
  | project
  deriving DecidableEq, Repr

/-- An option without a value. -/
inductive Switch
  | noReplace
  | noProject
  | quiet
  | verbose
  | noColour
  | help
  | version
  deriving DecidableEq, Repr

/-- Any option. -/
inductive Flag
  | value (o : ValueOption)
  | switch (s : Switch)
  deriving DecidableEq, Repr

/-- The option with a long name. -/
def longFlag? : String → Option Flag
  | "lib-dir" => some (.value .libDir)
  | "prefix" => some (.value .marker)
  | "indent" => some (.value .indent)
  | "output-tabwidth" => some (.value .outputTabwidth)
  | "output-dir" => some (.value .outputDir)
  | "output-format" => some (.value .outputFormat)
  | "abort-on" => some (.value .abortOn)
  | "config" => some (.value .project)
  | "no-replace" => some (.switch .noReplace)
  | "no-config" => some (.switch .noProject)
  | "quiet" => some (.switch .quiet)
  | "verbose" => some (.switch .verbose)
  | "no-color" => some (.switch .noColour)
  | "help" => some (.switch .help)
  | "version" => some (.switch .version)
  | _ => none

/-- The option with a short name. -/
def shortFlag? : Char → Option Flag
  | 'L' => some (.value .libDir)
  | 'o' => some (.value .outputDir)
  | 'c' => some (.value .project)
  | 'q' => some (.switch .quiet)
  | 'v' => some (.switch .verbose)
  | 'h' => some (.switch .help)
  | 'V' => some (.switch .version)
  | _ => none

/-- What is wrong with a command line. -/
inductive UsageError
  | unknown (argument : String)
  | missingValue
  | invalidValue (value : String)
  | unwantedValue (value : String)
  | repeated
  | conflict
  | noPaths
  deriving DecidableEq, Repr

namespace UsageError

/-- What the user is told. -/
def message : UsageError → String
  | unknown argument => s!"error: unexpected argument '{argument}' found"
  | missingValue => "error: a value is required but none was supplied"
  | invalidValue value => s!"error: invalid value '{value}'"
  | unwantedValue value => s!"error: unexpected value '{value}' found"
  | repeated => "error: an argument cannot be used multiple times"
  | conflict => "error: the argument '--no-config' cannot be used with '--config <FILE>'"
  | noPaths => "error: the following required arguments were not provided: <PATHS>..."

end UsageError

/-- What a command line asks for. -/
inductive Request
  | preprocess (o : Options)
  | help
  | version

/-- What has been read of a command line. -/
structure Reading where
  options : Options := {}
  /-- The options given, those with several values apart. -/
  given : List Flag := []
  /-- The option that the next argument is the value of. -/
  pending : Option ValueOption := none
  /-- There are no more options. -/
  onlyPaths : Bool := false
  /-- The answer, when it is known before the end. -/
  request : Option Request := none

/-- A path, which cannot be empty. -/
def path (s : String) : Except UsageError Path :=
  if s.isEmpty then .error .missingValue else .ok ⟨s⟩

/-- A number that fits a machine word, perhaps with a plus sign. -/
def number? (s : String) : Option Nat :=
  let digits := match s.toList with
    | '+' :: rest => rest
    | cs => cs
  if !digits.isEmpty && digits.all Text.isDigit && Text.decimal digits ≤ Text.maxWord then
    some (Text.decimal digits)
  else none

/-- The options with the value of one of them. -/
def setValue (o : Options) (option : ValueOption) (s : String) : Except UsageError Options :=
  let parsed {α : Type} (v : Option α) (put : α → Options) : Except UsageError Options :=
    v.elim (.error (.invalidValue s)) fun a => .ok (put a)
  match option with
  | .libDir => do return { o with libDirs := o.libDirs ++ [← path s] }
  | .marker => .ok { o with marker := some s }
  | .indent => parsed (IndentStyle.ofName? s) fun style => { o with indent := some style }
  | .outputTabwidth => parsed (number? s) fun n => { o with outputTabwidth := some n }
  | .outputDir => do return { o with outputDir := some (← path s) }
  | .outputFormat => parsed (Format.ofText? s) fun format => { o with format }
  | .abortOn => parsed (Severity.ofText? s) fun severity => { o with abortOn := some severity }
  | .project => do return { o with project := some (← path s) }

/-- Note that an option is given. -/
def give (r : Reading) (flag : Flag) : Except UsageError Reading :=
  if flag = .value .libDir then .ok r
  else if r.given.contains flag then .error .repeated
  else .ok { r with given := flag :: r.given }

/-- Read a value. -/
def readValue (r : Reading) (option : ValueOption) (s : String) : Except UsageError Reading := do
  return { r with options := ← setValue r.options option s, pending := none }

/-- Read a switch. -/
def readSwitch (r : Reading) (s : Switch) : Except UsageError Reading := do
  let r ← give r (.switch s)
  let o := r.options
  match s with
  | .noReplace => return { r with options := { o with noReplace := true } }
  | .noProject => return { r with options := { o with noProject := true } }
  | .quiet => return { r with options := { o with quiet := true } }
  | .verbose => return { r with options := { o with verbose := true } }
  | .noColour => return { r with options := { o with noColour := true } }
  | .help => return { r with request := some .help }
  | .version => return { r with request := some .version }

/-- Read an argument after its two dashes. -/
def readLong (r : Reading) (argument : List Char) : Except UsageError Reading :=
  let name := argument.takeWhile (· ≠ '=')
  let value? :=
    if name.length < argument.length then some (argument.drop (name.length + 1)) else none
  match longFlag? (String.ofList name), value? with
  | none, _ => .error (.unknown (String.ofList argument))
  | some (.switch s), none => readSwitch r s
  | some (.switch _), some value => .error (.unwantedValue (String.ofList value))
  | some (.value option), none => do return { ← give r (.value option) with pending := some option }
  | some (.value option), some value => do
    readValue (← give r (.value option)) option (String.ofList value)

/-- Read the letters of an argument after its dash. What follows an option with a value is the
value, perhaps after an equals sign. -/
def readShort (r : Reading) : List Char → Except UsageError Reading
  | [] => .ok r
  | c :: rest =>
    match shortFlag? c with
    | none => .error (.unknown c.toString)
    | some (.switch s) => do
      let r ← readSwitch r s
      if r.request.isSome then return r else readShort r rest
    | some (.value option) => do
      let r ← give r (.value option)
      match rest with
      | [] => return { r with pending := some option }
      | '=' :: value => readValue r option (String.ofList value)
      | value => readValue r option (String.ofList value)

/-- Read one argument. -/
def readArgument (r : Reading) (argument : String) : Except UsageError Reading :=
  let asPath : Except UsageError Reading := do
    return { r with options := { r.options with paths := r.options.paths ++ [← path argument] } }
  if r.request.isSome then .ok r
  else if r.onlyPaths then asPath
  else
    match r.pending, argument.toList with
    | none, ['-', '-'] => .ok { r with onlyPaths := true }
    | none, '-' :: '-' :: rest => readLong r rest
    | some option, ['-'] => readValue r option argument
    | none, ['-'] => asPath
    | some _, '-' :: _ => .error .missingValue
    | none, '-' :: rest => readShort r rest
    | some option, _ => readValue r option argument
    | none, _ => asPath

/-- What a command line asks for once it is read. -/
def finish (r : Reading) : Except UsageError Request :=
  match r.request with
  | some request => .ok request
  | none =>
    if r.pending.isSome then .error .missingValue
    else if r.options.noProject && r.options.project.isSome then .error .conflict
    else if r.options.paths.isEmpty then .error .noPaths
    else .ok (.preprocess r.options)

/-- Read a command line. -/
def parse (arguments : List String) : Except UsageError Request := do
  finish (← arguments.foldlM readArgument {})

end CommandLine

end SourcePrep
