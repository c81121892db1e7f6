/-!
# Paths

A path is kept as it was written, and read as a list of components: a leading `/` is the root, a
leading `.` counts, every later `.` and every repeated `/` is skipped. Two spellings with the same
components are the same path, and paths are ordered by their components.

`Path.identity` is the absolute form in which `.` and `..` are cancelled out: the name under which a
file is remembered.
-/

set_option autoImplicit false

namespace SourcePrep

/-- A file path, as written. -/
structure Path where
  text : String
  deriving DecidableEq, Repr, Inhabited

namespace Path

/-- One step of a path. -/
inductive Component
  | root
  | current
  | parent
  | name (n : String)
  deriving DecidableEq, Repr

/-- The parts of a character list between slashes, empty ones included. -/
def segments (cs : List Char) : List (List Char) :=
  cs.foldr
    (fun c parts =>
      if c = '/' then [] :: parts
      else
        match parts with
        | [] => [[c]]
        | part :: rest => (c :: part) :: rest)
    [[]]

/-- The step that a segment in the body of a path stands for; `.` and nothing are no step. -/
def Component.ofSegment? : List Char → Option Component
  | [] => none
  | ['.'] => none
  | ['.', '.'] => some .parent
  | cs => some (.name (String.ofList cs))

/-- The components of a path. -/
def components (p : Path) : List Component :=
  match p.text.toList with
  | '/' :: body => .root :: (segments body).filterMap Component.ofSegment?
  | cs =>
    match segments cs with
    | ['.'] :: body => .current :: body.filterMap Component.ofSegment?
    | body => body.filterMap Component.ofSegment?

/-- The path starts at the root. -/
def isAbsolute (p : Path) : Bool := p.text.toList.head? = some '/'

/-! ## Order -/

/-- Root, current directory, parent directory, then names by their characters. -/
def Component.compare : Component → Component → Ordering
  | root, root => .eq
  | root, _ => .lt
  | _, root => .gt
  | current, current => .eq
  | current, _ => .lt
  | _, current => .gt
  | parent, parent => .eq
  | parent, _ => .lt
  | _, parent => .gt
  | name a, name b => Ord.compare a b

/-- Lists of components in dictionary order. -/
def compareComponents : List Component → List Component → Ordering
  | [], [] => .eq
  | [], _ => .lt
  | _, [] => .gt
  | a :: as, b :: bs => (a.compare b).then (compareComponents as bs)

/-- The order of two paths: the order of their components. -/
def compare (p q : Path) : Ordering := compareComponents p.components q.components

/-- Two spellings of one path. -/
def same (p q : Path) : Bool := p.components == q.components

/-! ## Building and taking apart -/

/-- `q` seen from `p`: an absolute `q` stands for itself. -/
def join (p q : Path) : Path :=
  if q.isAbsolute then q
  else if p.text.isEmpty || p.text.toList.getLast? = some '/' then ⟨p.text ++ q.text⟩
  else ⟨p.text ++ "/" ++ q.text⟩

/-- The text that the given components are written as. -/
def ofComponents (cs : List Component) : Path :=
  cs.foldl
    (fun p c =>
      match c with
      | .root => ⟨"/"⟩
      | .current => p.join ⟨"."⟩
      | .parent => p.join ⟨".."⟩
      | .name n => p.join ⟨n⟩)
    ⟨""⟩

/-- A written component at the end of a reversed path text, with the text before it. Separators and
`.` segments after the component are dropped. The two flags say how much of the front belongs to the
start of the path: a root, or a leading `.`. -/
structure Tail where
  /-- The last segment that is a step, if the body has one. -/
  last : Option (List Char)
  /-- The text before that segment. -/
  before : List Char

/-- Drop the trailing separators and `.` segments of a path body, leaving its last step in sight.
`start` is the part of the text that the body follows. -/
def splitLast (start body : List Char) : Tail :=
  let parts := segments body
  let kept := (parts.reverse.dropWhile fun s => (Component.ofSegment? s).isNone).reverse
  match kept.getLast? with
  | none => ⟨none, start⟩
  | some last =>
    let front := kept.dropLast
    ⟨some last, start ++ ['/'].intercalate front ++ if front.isEmpty then [] else ['/']⟩

/-- The start of a path text (a root or a leading `.`) and the body after it. -/
def splitStart (cs : List Char) : List Char × List Char :=
  match cs with
  | '/' :: body => (['/'], body)
  | ['.'] => (['.'], [])
  | '.' :: '/' :: body => (['.'], '/' :: body)
  | body => ([], body)

/-- A path text without the separators and `.` segments it ends in, its start apart. -/
def trimEnd (cs : List Char) : List Char :=
  let (start, body) := splitStart cs
  let parts := segments body
  let kept := (parts.reverse.dropWhile fun s => (Component.ofSegment? s).isNone).reverse
  start ++ ['/'].intercalate kept

/-- The last segment of the body that is a step, and the text before it. -/
def lastSegment (p : Path) : Tail :=
  let (start, body) := splitStart p.text.toList
  splitLast start body

/-- The path without its last component; the root and the empty path have none. -/
def parent? (p : Path) : Option Path :=
  let tail := p.lastSegment
  match tail.last with
  | some _ => some ⟨String.ofList (trimEnd tail.before)⟩
  | none =>
    match p.components with
    | [.current] => some ⟨""⟩
    | _ => none

/-- The last component, when it is a name. -/
def fileName? (p : Path) : Option String :=
  match p.components.getLast? with
  | some (.name n) => some n
  | _ => none

/-- The place of the last dot of a file name, unless the name has no dot after its first character.
-/
def stemLength? (name : List Char) : Option Nat :=
  let after := name.reverse.takeWhile (· ≠ '.')
  let before := name.length - after.length - 1
  if after.length < name.length ∧ 0 < before then some before else none

/-- A file name without its last extension. -/
def stemOf (name : String) : String :=
  let cs := name.toList
  match stemLength? cs with
  | some n => String.ofList (cs.take n)
  | none => name

/-- The file name without its last extension. -/
def fileStem? (p : Path) : Option String := p.fileName?.map stemOf

/-- The path with the last extension of its file name replaced, or added. -/
def withExtension (p : Path) (extension : String) : Path :=
  match p.fileStem? with
  | none => p
  | some stem => ⟨String.ofList p.lastSegment.before ++ stem ++ "." ++ extension⟩

/-! ## Identity -/

/-- One step of the cancellation of `.` and `..`: a parent step takes back the name before it, and
never the root. -/
def cancelStep (kept : List Component) : Component → List Component
  | .parent =>
    match kept with
    | .name _ :: rest => rest
    | _ => kept
  | .current => kept
  | c => c :: kept

/-- The components left when `.` and `..` are cancelled. -/
def cancel (cs : List Component) : List Component := (cs.foldl cancelStep []).reverse

/-- The name under which a file is remembered: absolute, seen from the working directory, without
`.` and `..`. The empty path has no absolute form and stays as it is. -/
def identity (workingDir p : Path) : Path :=
  if p.text.isEmpty then ⟨""⟩
  else if p.isAbsolute then ofComponents (cancel p.components)
  else ofComponents (cancel (workingDir.components ++ p.components))

end Path

end SourcePrep
