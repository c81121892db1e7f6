/-!
# Trees of files

A file tree is a file or a directory with named entries. `find` follows a list of names down, and
`insert` puts a tree in a place and makes the directories on the way.
-/

set_option autoImplicit false

namespace SourcePrep

/-- What a file holds. -/
inductive Content
  | text (s : String)
  /-- Bytes that are not the UTF-8 form of any text. -/
  | binary (bytes : List UInt8)
  deriving DecidableEq, Repr, Inhabited

namespace Content

/-- What bytes are the form of. -/
def ofBytes (bytes : List UInt8) : Content :=
  (String.fromUTF8? ⟨bytes.toArray⟩).elim (.binary bytes) .text

/-- The bytes up to the first newline, and those after it if there is one. -/
def splitLine (bytes : List UInt8) : List UInt8 × Option (List UInt8) :=
  match bytes.dropWhile (· ≠ 10) with
  | [] => (bytes, none)
  | _ :: rest => (bytes.takeWhile (· ≠ 10), some rest)

/-- The lines at the start of bytes that are text, up to the first that is none, each with its
newline. `fuel` bounds their number. -/
def leadingLines : Nat → List UInt8 → List String
  | 0, _ => []
  | fuel + 1, bytes =>
    match splitLine bytes with
    | (_, none) => []
    | (line, some rest) =>
      match String.fromUTF8? ⟨line.toArray⟩ with
      | none => []
      | some s => (s ++ "\n") :: leadingLines fuel rest

/-- The text of a file up to the first line that is none. -/
def leadingText : Content → String
  | text s => s
  | binary bytes => String.join (leadingLines bytes.length bytes)

def isText : Content → Bool
  | text _ => true
  | binary _ => false

end Content

/-- A file, or a directory and what is in it. -/
inductive FileTree
  | file (content : Content)
  | directory (entries : List (String × FileTree))

namespace FileTree

/-- The directory without entries. -/
def empty : FileTree := directory []

def isFile : FileTree → Bool
  | file _ => true
  | directory _ => false

def isDirectory : FileTree → Bool
  | file _ => false
  | directory _ => true

/-- The entries of a directory; a file has none. -/
def entries : FileTree → List (String × FileTree)
  | file _ => []
  | directory entries => entries

/-- What lies at the end of a list of names. -/
def find : FileTree → List String → Option FileTree
  | t, [] => some t
  | t, name :: rest => (t.entries.lookup name).bind fun entry => find entry rest

/-- The entries with one of them put in place of the entry of that name, or at the end. -/
def putEntry (name : String) (t : FileTree) : List (String × FileTree) → List (String × FileTree)
  | [] => [(name, t)]
  | (other, old) :: rest =>
    if other = name then (name, t) :: rest else (other, old) :: putEntry name t rest

/-- The tree with `new` at the end of a list of names. Directories on the way are made. -/
def insert : FileTree → List String → (new : FileTree) → FileTree
  | _, [], new => new
  | t, name :: rest, new =>
    let old := (t.entries.lookup name).getD empty
    directory (putEntry name (insert old rest new) t.entries)

mutual

/-- The files of a tree, each with the names that lead to it. -/
def files : FileTree → List (List String × Content)
  | file content => [([], content)]
  | directory entries => filesIn entries

/-- The files in the entries of a directory. -/
def filesIn : List (String × FileTree) → List (List String × Content)
  | [] => []
  | (name, t) :: rest =>
    t.files.map (fun (names, content) => (name :: names, content)) ++ filesIn rest

end

/-- The number of files in a tree. -/
def fileCount (t : FileTree) : Nat := t.files.length

/-- The file at the end of a list of names has this content. -/
def holds (t : FileTree) (names : List String) (content : Content) : Bool :=
  match t.find names with
  | some (file held) => held = content
  | _ => false

/-- The files of a tree that an earlier tree does not have, or has with another content. -/
def changesSince (t earlier : FileTree) : List (List String × Content) :=
  t.files.filter fun (names, content) => !earlier.holds names content

end FileTree

end SourcePrep
