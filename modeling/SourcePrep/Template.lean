import SourcePrep.Pattern.Basic

/-!
# Templates

A template is text with references to the groups of a match. `Template.expand` puts the groups in,
in two steps. `braceNumbers` writes every bare number in braces: `$1` becomes `${1}`. A bare number
takes as many digits as still name a group of the match, and what comes after it is text. `parts`
then reads the template: `$$` is a dollar sign, `${name}` and `$name` refer to a group by its name
or number, and a dollar sign with anything else after it stands for itself.

A reference to a group that does not exist, or took no part, stands for nothing.
-/

set_option autoImplicit false

namespace SourcePrep.Template

/-- A number read so far with the digits that come next, as many as still name one of so many
groups; and how many those are. -/
def extendNumber (groups number : Nat) : List Char → Nat × Nat
  | [] => (number, 0)
  | c :: cs =>
    let longer := number * 10 + Text.decimal [c]
    if Text.isDigit c && longer ≤ groups then
      let (n, digits) := extendNumber groups longer cs
      (n, digits + 1)
    else (number, 0)

/-- A reference to a group by number, in braces. -/
def bracedNumber (n : Nat) : List Char := '$' :: '\x7b' :: (toString n).toList ++ ['\x7d']

/-- The template after `skip` more characters, with each bare number in braces. -/
def braceNumbersAfter (groups : Nat) : Nat → List Char → List Char
  | _, [] => []
  | skip + 1, _ :: cs => braceNumbersAfter groups skip cs
  | 0, '$' :: '$' :: cs => '$' :: '$' :: braceNumbersAfter groups 0 cs
  | 0, '$' :: c :: cs =>
    if Text.isDigit c then
      let (n, digits) := extendNumber groups (Text.decimal [c]) cs
      bracedNumber n ++ braceNumbersAfter groups digits cs
    else '$' :: braceNumbersAfter groups 0 (c :: cs)
  | 0, c :: cs => c :: braceNumbersAfter groups 0 cs

/-- The template with each bare number in braces, for a match with so many groups. -/
def braceNumbers (groups : Nat) (template : List Char) : List Char :=
  braceNumbersAfter groups 0 template

/-- A part of a template. -/
inductive Part
  | char (c : Char)
  | group (name : String)
  deriving DecidableEq, Repr

/-- A character of a name. -/
def isNameChar (c : Char) : Bool := Unicode.isAlphanumeric c || c == '_'

/-- The name of a group and the brace after it. -/
def bracedName? (cs : List Char) : Option String :=
  let name := cs.takeWhile isNameChar
  if !name.isEmpty && cs[name.length]? == some '\x7d' then some (String.ofList name) else none

/-- What a dollar sign and the text after it stand for, and how much of the text belongs to it. -/
def reference? : List Char → Option (Part × Nat)
  | '$' :: _ => some (.char '$', 1)
  | '\x7b' :: cs => (bracedName? cs).map fun name => (.group name, name.length + 2)
  | cs =>
    let name := cs.takeWhile isNameChar
    if name.isEmpty then none else some (.group (String.ofList name), name.length)

/-- The parts of a template after `skip` more characters. -/
def partsAfter : Nat → List Char → List Part
  | _, [] => []
  | skip + 1, _ :: cs => partsAfter skip cs
  | 0, '$' :: cs =>
    match reference? cs with
    | some (part, n) => part :: partsAfter n cs
    | none => .char '$' :: partsAfter 0 cs
  | 0, c :: cs => .char c :: partsAfter 0 cs

/-- The parts of a template. -/
def parts (template : List Char) : List Part := partsAfter 0 template

/-- The text of the group whose number is written, if it took part. -/
def numbered? (m : Match) (name : String) : Option String :=
  if name.toList.all Text.isDigit then m.group? (Text.decimal name.toList) else none

/-- What a part stands for in a match: a group is looked up by name, then by number. -/
def Part.fill (m : Match) : Part → String
  | .char c => c.toString
  | .group name => ((m.named? name).or (numbered? m name)).getD ""

/-- The text that a template makes of a match. -/
def expand (template : String) (m : Match) : String :=
  String.join ((parts (braceNumbers m.groupCount template.toList)).map (Part.fill m))

/-- The template with the two-character escapes for a tab and a newline replaced by these. -/
def unescape (template : String) : String :=
  String.ofList
    (Text.replacePair '\\' 'n' ['\n'] (Text.replacePair '\\' 't' ['\t'] template.toList))

end SourcePrep.Template
