/-!
# Values of a TOML document

Texts, integers, arrays and tables are what a project file has a use for; of any other value there
is only the way it is written. A table remembers how it came about, because that decides what may
still be added to it: nothing to a table written in braces, further keys to one made by dotted keys,
and a header of its own to one that only other headers have mentioned.
-/

set_option autoImplicit false

namespace SourcePrep.Toml

/-- How a table came about. -/
inductive Origin
  /-- Its own header. -/
  | header
  /-- The header of a table inside of it. -/
  | mention
  /-- A dotted key. -/
  | dotted
  /-- Braces. -/
  | braces
  deriving DecidableEq, Repr

/-- A value. -/
inductive Value
  | text (s : String)
  | integer (n : Int)
  /-- A truth value, a number with a fraction or an exponent, a date or a time. -/
  | scalar (written : String)
  | array (values : List Value)
  | table (origin : Origin) (entries : List (String × Value))

/-- The entries of a table, in order. -/
abbrev Entries := List (String × Value)

namespace Entries

/-- The entries with the value of a key replaced. -/
def replace (key : String) (v : Value) (entries : Entries) : Entries :=
  entries.map fun (k, old) => if k = key then (k, v) else (k, old)

/-- Add a value under a dotted key. Nothing when the key is taken, or leads through something that
dotted keys cannot add to. -/
def add : List String → Value → Entries → Option Entries
  | [], _, _ => none
  | [key], v, entries => if (entries.lookup key).isSome then none else some (entries ++ [(key, v)])
  | key :: rest, v, entries =>
    match entries.lookup key with
    | none => do return entries ++ [(key, .table .dotted (← add rest v []))]
    | some (.table .dotted inner) => do
      return entries.replace key (.table .dotted (← add rest v inner))
    | some (.table .mention inner) => do
      return entries.replace key (.table .mention (← add rest v inner))
    | some _ => none

/-- Open the table of a header. Nothing when the table has been defined before. -/
def openTable : List String → Entries → Option Entries
  | [], _ => none
  | [key], entries =>
    match entries.lookup key with
    | none => some (entries ++ [(key, .table .header [])])
    | some (.table .mention inner) => some (entries.replace key (.table .header inner))
    | some _ => none
  | key :: rest, entries =>
    match entries.lookup key with
    | none => do return entries ++ [(key, .table .mention (← openTable rest []))]
    | some (.table .braces _) => none
    | some (.table origin inner) => do
      return entries.replace key (.table origin (← openTable rest inner))
    | some _ => none

/-- Change the table at the end of a list of keys. -/
def modifyAt (f : Entries → Option Entries) : List String → Entries → Option Entries
  | [], entries => f entries
  | key :: rest, entries =>
    match entries.lookup key with
    | some (.table origin inner) => do
      return entries.replace key (.table origin (← modifyAt f rest inner))
    | _ => none

end Entries

end SourcePrep.Toml
