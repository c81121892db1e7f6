import SourcePrep.Text
import SourcePrep.Unicode.Age
import SourcePrep.Unicode.Binary
import SourcePrep.Unicode.Segmentation

/-!
# Properties of characters

The classes that patterns and templates speak about: word characters, digits, letters and digits,
and every class that `Property.ofName?` finds by name.
-/

set_option autoImplicit false

namespace SourcePrep.Unicode

/-- Word characters: alphabetic ones, marks, decimal digits, connectors and joiners. -/
def wordTable : RangeTable :=
  Binary.alphabetic ∪ Category.mark ∪ Category.decimalNumber ∪ Category.connectorPunctuation ∪
    Binary.joinControl

/-- Alphabetic and numeric characters that came later than all that the classes hold. -/
def laterAlphanumericTable : RangeTable := .ofText <|
  "88F C5C CDC A7CE-A7CF A7D2 A7D4 A7F1 10940-10959 10EC5-10EC7 10EFA-10EFB 11B60-11B67 " ++
  "11DB0-11DDB 11DE0-11DE9 16EA0-16EB8 16EBB-16ED3 16FF2-16FF6 187F8-187FF 18D09-18D1E " ++
  "18D80-18DF2 1E6C0-1E6DE 1E6E0-1E6F5 1E6FE-1E6FF 2B73A-2B73F 2CEA2-2CEAD 323B0-33479"

/-- Alphabetic and numeric characters. -/
def alphanumericTable : RangeTable :=
  Binary.alphabetic ∪ Category.number ∪ laterAlphanumericTable

/-- A word character. -/
def isWord (c : Char) : Bool :=
  if c.toNat < 128 then c.isAlphanum || c == '_' else wordTable.contains c

/-- A decimal digit of any script. -/
def isDecimalDigit (c : Char) : Bool :=
  if c.toNat < 128 then Text.isDigit c else Category.decimalNumber.contains c

/-- An alphabetic or numeric character. -/
def isAlphanumeric (c : Char) : Bool :=
  if c.toNat < 128 then c.isAlphanum else alphanumericTable.contains c

namespace Property

/-- The characters of a name that are compared: small letters, without blanks, dashes, underscores
and all that is not ASCII. -/
def comparedChars (name : List Char) : List Char :=
  (name.filter fun c => c ≠ ' ' && c ≠ '_' && c ≠ '-' && c.toNat < 128).map Char.toLower

/-- A name as it is compared. A leading `is` does not count, but `isc` keeps it. -/
def normalizeName (name : List Char) : String :=
  match name with
  | i :: s :: rest =>
    if i.toLower = 'i' && s.toLower = 's' then
      match comparedChars rest with
      | ['c'] => "isc"
      | cs => String.ofList cs
    else String.ofList (comparedChars name)
  | _ => String.ofList (comparedChars name)

/-- The table with a name, in a list of named tables. -/
def lookUp (tables : List (List String × RangeTable)) (name : String) : Option RangeTable :=
  (tables.find? (·.1.contains name)).map (·.2)

/-- The class with a name of its own. The short names `cf`, `sc` and `lc` are categories. -/
def named? (name : List Char) : Option RangeTable :=
  let n := normalizeName name
  let own := if n == "cf" || n == "sc" || n == "lc" then none else lookUp Binary.named n
  own.orElse fun _ => (lookUp Category.named n).orElse fun _ => lookUp Script.named n

/-- The class of the characters for which a property has a value. -/
def valued? (name value : List Char) : Option RangeTable :=
  let value := normalizeName value
  match normalizeName name with
  | "gc" | "generalcategory" => lookUp Category.named value
  | "sc" | "script" => lookUp Script.named value
  | "scx" | "scriptextensions" => Script.extendedOfName? value
  | "age" => Age.ofName? value
  | "gcb" | "graphemeclusterbreak" => lookUp Segmentation.graphemeClasses value
  | "wb" | "wordbreak" => lookUp Segmentation.wordClasses value
  | "sb" | "sentencebreak" => lookUp Segmentation.sentenceClasses value
  | _ => none

/-- A name split at the first occurrence of a separator. -/
def cutAt (separator : List Char) : List Char → Option (List Char × List Char)
  | [] => none
  | c :: rest =>
    if separator.isPrefixOf (c :: rest) then some ([], (c :: rest).drop separator.length)
    else (cutAt separator rest).map fun (before, after) => (c :: before, after)

/-- The class that a pattern asks for between braces, and whether it is negated. -/
def ofName? (name : List Char) : Option (Bool × RangeTable) :=
  match cutAt ['!', '='] name with
  | some (property, value) => (valued? property value).map fun t => (true, t)
  | none =>
    match (cutAt [':'] name).orElse fun _ => cutAt ['='] name with
    | some (property, value) => (valued? property value).map fun t => (false, t)
    | none => (named? name).map fun t => (false, t)

end Property

end SourcePrep.Unicode
