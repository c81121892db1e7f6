/-!
# Text measured in bytes

Every offset, column and length of the library counts the bytes of a text's UTF-8 form. The one
primitive below all cutting is `Text.splitAt?`, and `splitAt?_eq_some_iff` says all there is to know
about it: a text is cut at `n` into `a` and `b` exactly when it is `a` followed by `b` and `a` has
`n` bytes. An offset inside a character, or past the end, cuts nothing.
-/

set_option autoImplicit false

namespace SourcePrep.Text

/-- The length of a text in bytes. -/
abbrev size (s : String) : Nat := s.utf8ByteSize

/-- The two parts of a text around a byte offset, when the offset lies between two characters. -/
def splitAt? (s : String) (n : Nat) : Option (String × String) :=
  (s.pos? ⟨n⟩).map fun p => (s.extract s.startPos p, s.extract p s.endPos)

/-- The offset lies between two characters, or at an end of the text. -/
def isCut (s : String) (n : Nat) : Bool := (s.pos? ⟨n⟩).isSome

/-- The text before a byte offset; nothing is kept when the offset is no cut. -/
def takeBytes (s : String) (n : Nat) : String := (splitAt? s n).elim "" (·.1)

/-- The text after a byte offset; nothing is kept when the offset is no cut. -/
def dropBytes (s : String) (n : Nat) : String := (splitAt? s n).elim "" (·.2)

/-- The text between two byte offsets. -/
def slice (s : String) (start stop : Nat) : String := dropBytes (takeBytes s stop) start

/-! ## The law of cutting -/

private theorem extract_pair_eq_iff {s a b : String} (p : s.Pos) :
    (s.extract s.startPos p, s.extract p s.endPos) = (a, b) ↔ p.Splits a b := by
  have left : s.extract s.startPos p = (s.sliceTo p).copy := by
    simp [← String.toByteArray_inj, p.splits.toByteArray_left_eq]
  have right : s.extract p s.endPos = (s.sliceFrom p).copy := by
    simp [← String.toByteArray_inj, p.splits.toByteArray_right_eq]
  rw [left, right, Prod.mk.injEq]
  exact ⟨fun h => p.splits.of_eq h.1 h.2, fun h => p.splits.eq h⟩

private theorem pos?_eq_some_iff {s : String} {off : String.Pos.Raw} {p : s.Pos} :
    s.pos? off = some p ↔ p.offset = off := by
  constructor
  · intro h
    simp only [String.pos?, String.Slice.pos?] at h
    split at h
    · simp at h; subst h; rfl
    · simp at h
  · rintro rfl
    have valid := p.isValid
    simp only [String.pos?, String.Slice.pos?]
    rw [dif_pos (by simpa [String.Pos.Raw.isValidForSlice_eq_true_iff] using valid)]
    simp [String.Pos.ext_iff]

theorem splitAt?_eq_some_iff {s a b : String} {n : Nat} :
    splitAt? s n = some (a, b) ↔ s = a ++ b ∧ size a = n := by
  simp only [splitAt?, Option.map_eq_some_iff, extract_pair_eq_iff, pos?_eq_some_iff]
  constructor
  · rintro ⟨p, hp, h⟩
    refine ⟨h.eq_append, ?_⟩
    have := h.offset_eq_rawEndPos
    rw [hp] at this
    simpa [String.Pos.Raw.ext_iff, eq_comm] using this
  · rintro ⟨h, rfl⟩
    refine ⟨String.Pos.ofEqAppend h, ?_, String.Pos.splits_ofEqAppend h⟩
    simp [String.Pos.ofEqAppend, String.rawEndPos]

theorem isCut_iff {s : String} {n : Nat} :
    isCut s n = true ↔ ∃ a b, s = a ++ b ∧ size a = n := by
  constructor
  · intro h
    obtain ⟨p, hp⟩ := Option.isSome_iff_exists.1 h
    have : splitAt? s n = some (s.extract s.startPos p, s.extract p s.endPos) := by
      simp [splitAt?, hp]
    exact ⟨_, _, splitAt?_eq_some_iff.1 this⟩
  · rintro ⟨a, b, h⟩
    have := splitAt?_eq_some_iff.2 h
    simp only [splitAt?, Option.map_eq_some_iff] at this
    obtain ⟨p, hp, -⟩ := this
    simp [isCut, hp]

theorem takeBytes_append (a b : String) : takeBytes (a ++ b) (size a) = a := by
  rw [takeBytes, splitAt?_eq_some_iff.2 ⟨rfl, rfl⟩]
  rfl

theorem dropBytes_append (a b : String) : dropBytes (a ++ b) (size a) = b := by
  rw [dropBytes, splitAt?_eq_some_iff.2 ⟨rfl, rfl⟩]
  rfl

/-! ## Characters of a text -/

/-- The characters of a text, for access by place. -/
def chars (s : String) : Array Char := s.toByteArray.utf8Decode?.getD #[]

theorem toList_chars (s : String) : (chars s).toList = s.toList := by
  have decodes := s.toByteArray.isSome_utf8Decode?_iff.2 s.isValidUTF8
  obtain ⟨cs, h⟩ := Option.isSome_iff_exists.1 decodes
  simp [chars, String.toList, String.Internal.toArray, h]

theorem length_le_size_ofList (cs : List Char) : cs.length ≤ size (String.ofList cs) := by
  induction cs with
  | nil => simp
  | cons c cs ih =>
    have := c.utf8Size_pos
    simp only [String.ofList_cons, size, String.utf8ByteSize_append, String.utf8ByteSize_singleton,
      List.length_cons] at ih ⊢
    omega

/-- The first position from `i` on whose character fails the test, or the one `fuel` characters
on. -/
def scanWhile (p : Char → Bool) (s : String) : Nat → s.Pos → s.Pos
  | 0, i => i
  | fuel + 1, i =>
    if h : i = s.endPos then i
    else if p (i.get h) then scanWhile p s fuel (i.next h)
    else i

/-- A text in two parts: the longest run of characters at its start that pass the test, and the
rest. -/
def span (p : Char → Bool) (s : String) : String × String :=
  let i := scanWhile p s (size s) s.startPos
  (s.extract s.startPos i, s.extract i s.endPos)

private theorem scanWhile_splits (p : Char → Bool) {s : String} (fuel : Nat) (i : s.Pos)
    {a : String} {cs : List Char} (h : i.Splits a (String.ofList cs))
    (enough : cs.length ≤ fuel) :
    (scanWhile p s fuel i).Splits (a ++ String.ofList (cs.takeWhile p))
      (String.ofList (cs.dropWhile p)) := by
  induction cs generalizing fuel i a with
  | nil =>
    have : i = s.endPos := h.eq_endPos_iff.2 rfl
    cases fuel <;> simpa [scanWhile, this] using h
  | cons c cs ih =>
    obtain ⟨fuel, rfl⟩ : ∃ n, fuel = n + 1 := ⟨fuel - 1, by simp at enough; omega⟩
    have single : i.Splits a (String.singleton c ++ String.ofList cs) := by
      simpa [← String.toList_inj] using h
    have notEnd := single.ne_endPos_of_singleton
    have get : i.get notEnd = c := single.next.get_eq_of_singleton
    rw [scanWhile, dif_neg notEnd, get]
    by_cases hc : p c
    · have := ih fuel (i.next notEnd) single.next (by simpa using enough)
      simpa [hc, ← String.append_assoc] using this
    · simpa [hc] using h

theorem span_eq (p : Char → Bool) (s : String) :
    span p s = (String.ofList (s.toList.takeWhile p), String.ofList (s.toList.dropWhile p)) := by
  rw [span, extract_pair_eq_iff]
  have start : s.startPos.Splits "" (String.ofList s.toList) := by simp
  have enough : s.toList.length ≤ size s := by simpa using length_le_size_ofList s.toList
  simpa using scanWhile_splits p (size s) s.startPos start enough

/-! ## Lines of a text -/

/-- A text being cut after each newline: the pieces that are complete, and the one being read. -/
structure Splitting where
  done : Array String
  current : String

namespace Splitting

/-- Read one more character. -/
def add : Splitting → Char → Splitting
  | ⟨done, current⟩, c =>
    if c = '\n' then ⟨done.push (current.push c), ""⟩ else ⟨done, current.push c⟩

/-- The pieces read so far; the last one may lack its newline, and is left out when empty. -/
def pieces (s : Splitting) : List String :=
  if s.current.isEmpty then s.done.toList else s.done.toList ++ [s.current]

end Splitting

/-- The text cut after each newline. -/
def splitLines (s : String) : List String :=
  ((chars s).foldl Splitting.add ⟨#[], ""⟩).pieces

theorem splitLines_eq (s : String) :
    splitLines s = (s.toList.foldl Splitting.add ⟨#[], ""⟩).pieces := by
  rw [splitLines, ← Array.foldl_toList, toList_chars]

/-- The lines of a text, without their endings. -/
def lines (s : String) : List String :=
  (splitLines s).map fun piece =>
    match piece.toList.reverse with
    | '\n' :: '\r' :: front => String.ofList front.reverse
    | '\n' :: front => String.ofList front.reverse
    | _ => piece

/-- The text with every occurrence of the two characters `a`, `b` in a row replaced by `new`,
reading from the left. -/
def replacePair (a b : Char) (new : List Char) : List Char → List Char
  | [] => []
  | [c] => [c]
  | c :: d :: rest =>
    if c = a ∧ d = b then new ++ replacePair a b new rest
    else c :: replacePair a b new (d :: rest)

/-! ## Numerals -/

/-- The decimal value of a run of digits. -/
def decimal (digits : List Char) : Nat :=
  digits.foldl (fun n c => n * 10 + (c.toNat - '0'.toNat)) 0

/-- An ASCII digit. -/
def isDigit (c : Char) : Bool := '0' ≤ c && c ≤ '9'

/-- An ASCII hexadecimal digit. -/
def isHexDigit (c : Char) : Bool := isDigit c || ('a' ≤ c && c ≤ 'f') || ('A' ≤ c && c ≤ 'F')

/-- The value of a hexadecimal digit. -/
def hexValue (c : Char) : Nat :=
  if isDigit c then c.toNat - '0'.toNat
  else if 'a' ≤ c && c ≤ 'f' then c.toNat - 'a'.toNat + 10
  else c.toNat - 'A'.toNat + 10

/-- The value of a run of hexadecimal digits. -/
def hexadecimal (digits : List Char) : Nat := digits.foldl (fun n c => n * 16 + hexValue c) 0

/-- The largest machine word: the largest tabwidth, line number or length. -/
def maxWord : Nat := 18446744073709551615

end SourcePrep.Text
