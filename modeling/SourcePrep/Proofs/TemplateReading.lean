import SourcePrep.Expansion
import SourcePrep.Proofs.Rereading

/-!
# Reading a template once

A template is expanded in two passes, after a third one for its escapes. What they come to is told
by one reading from left to right, which cuts the template into pieces: a character, a reference by
number, or a reference by name.

* `Reading`: the pieces of a template, for a match with so many groups. `exists_reading`: there
  always are some.
* `Reading.parts_braceNumbers`: both passes together come to the pieces of the reading.
* `expand_reading`: what a template makes of a match. A number is looked up as a name first, so it
  stands for the group with that number unless another group has the numeral for its name.
-/

set_option autoImplicit false

namespace SourcePrep

/-! ## Digits and names -/

namespace Text

theorem decimal_snoc (front : List Char) (c : Char) :
    decimal (front ++ [c]) = decimal front * 10 + decimal [c] := by
  simp [decimal]

theorem decimal_le_append (front back : List Char) : decimal front ≤ decimal (front ++ back) := by
  induction back using List.reverseRecOn with
  | nil => rw [List.append_nil]
  | append_singleton back c ih =>
    rw [← List.append_assoc, decimal_snoc]
    omega

theorem decimal_single_lt {c : Char} (h : isDigit c = true) : decimal [c] < 10 := by
  have hle : c.toNat ≤ '9'.toNat := by
    simp only [isDigit, Bool.and_eq_true, decide_eq_true_eq] at h
    exact h.2
  have hnine : '9'.toNat = '0'.toNat + 9 := rfl
  simp only [decimal, List.foldl_cons, List.foldl_nil]
  omega

end Text

namespace Template

theorem isNameChar_of_isDigit {c : Char} (h : Text.isDigit c = true) : isNameChar c = true := by
  have hdigit : c.isDigit = true := by
    simpa [Text.isDigit, Char.isDigit, Char.le_def] using h
  simp only [Text.isDigit, Bool.and_eq_true, decide_eq_true_eq] at h
  have hle : c.toNat ≤ '9'.toNat := h.2
  have hascii : c.toNat < 128 := Nat.lt_of_le_of_lt hle (by decide)
  simp [isNameChar, Unicode.isAlphanumeric, hascii, Char.isAlphanum, hdigit]

theorem isNameChar_dollar : isNameChar '$' = false := by decide

theorem isNameChar_open : isNameChar '\x7b' = false := by decide

theorem isNameChar_close : isNameChar '\x7d' = false := by decide

/-- A name that a reference can hold. -/
structure IsName (name : List Char) : Prop where
  nonempty : name ≠ []
  chars : ∀ c ∈ name, isNameChar c = true

/-- Nothing of the text continues a name. -/
def EndsName (rest : List Char) : Prop := ∀ c, rest.head? = some c → isNameChar c = false

theorem takeWhile_isNameChar {name rest : List Char} (h : ∀ c ∈ name, isNameChar c = true)
    (hrest : EndsName rest) : (name ++ rest).takeWhile isNameChar = name := by
  rw [List.takeWhile_append_of_pos h]
  cases rest with
  | nil => simp
  | cons c cs => simp [hrest c rfl]

/-- A text starts with a run of characters of names, and something else follows. -/
theorem exists_run (cs : List Char) :
    ∃ name rest, cs = name ++ rest ∧ (∀ c ∈ name, isNameChar c = true) ∧ EndsName rest := by
  refine ⟨cs.takeWhile isNameChar, cs.dropWhile isNameChar, ?_, ?_, ?_⟩
  · rw [List.takeWhile_append_dropWhile]
  · intro c hc
    exact List.all_eq_true.1 List.all_takeWhile c hc
  · intro c hc
    have hne : cs.dropWhile isNameChar ≠ [] := by
      intro hnil
      rw [hnil] at hc
      cases hc
    have hhead := List.head_dropWhile_not isNameChar hne
    rw [List.head?_eq_some_head hne] at hc
    rwa [Option.some.inj hc] at hhead

/-! ## The reading of a template -/

/-- After the digits `front`, the digits `more` go on with the number, each as long as it stays the
number of a group, and `rest` does not. -/
inductive Extends (groups : Nat) : List Char → List Char → List Char → Prop
  | done {front rest : List Char} (longest : ∀ c, rest.head? = some c → Text.isDigit c = true →
      groups < Text.decimal (front ++ [c])) : Extends groups front [] rest
  | digit {front more rest : List Char} {c : Char} (digit : Text.isDigit c = true)
      (within : Text.decimal (front ++ [c]) ≤ groups)
      (further : Extends groups (front ++ [c]) more rest) : Extends groups front (c :: more) rest

/-- A number in a template: a digit, and those that go on with it. -/
inductive Takes (groups : Nat) : List Char → List Char → Prop
  | digit {more rest : List Char} {c : Char} (digit : Text.isDigit c = true)
      (further : Extends groups [c] more rest) : Takes groups (c :: more) rest

/-- No reference follows a dollar sign: neither another dollar sign, nor a name, nor a name in
braces. -/
structure StandsAlone (rest : List Char) : Prop where
  dollar : rest.head? ≠ some '$'
  bare : EndsName rest
  braced : ∀ name more, IsName name → rest ≠ '\x7b' :: (name ++ '\x7d' :: more)

/-- A piece of a template. -/
inductive Piece
  | char (c : Char)
  | number (n : Nat)
  | name (label : String)

/-- The pieces of a template, from left to right. -/
inductive Reading (groups : Nat) : List Char → List Piece → Prop
  | done : Reading groups [] []
  | char {c : Char} {rest : List Char} {ps : List Piece} (plain : c ≠ '$')
      (more : Reading groups rest ps) : Reading groups (c :: rest) (.char c :: ps)
  | dollar {rest : List Char} {ps : List Piece} (more : Reading groups rest ps) :
      Reading groups ('$' :: '$' :: rest) (.char '$' :: ps)
  | number {digits rest : List Char} {ps : List Piece} (takes : Takes groups digits rest)
      (more : Reading groups rest ps) :
      Reading groups ('$' :: (digits ++ rest)) (.number (Text.decimal digits) :: ps)
  | braced {name rest : List Char} {ps : List Piece} (named : IsName name)
      (more : Reading groups rest ps) :
      Reading groups ('$' :: '\x7b' :: (name ++ '\x7d' :: rest)) (.name (.ofList name) :: ps)
  | bare {name rest : List Char} {ps : List Piece} (named : IsName name)
      (digitless : ∀ c, name.head? = some c → Text.isDigit c = false) (ends : EndsName rest)
      (more : Reading groups rest ps) :
      Reading groups ('$' :: (name ++ rest)) (.name (.ofList name) :: ps)
  | alone {rest : List Char} {ps : List Piece} (alone : StandsAlone rest)
      (more : Reading groups rest ps) : Reading groups ('$' :: rest) (.char '$' :: ps)

/-! ## Numbers in braces -/

section
variable (groups : Nat)

theorem braceNumbersAfter_eq (skip : Nat) (cs : List Char) :
    braceNumbersAfter groups skip cs = braceNumbers groups (cs.drop skip) := by
  induction skip generalizing cs with
  | zero => rfl
  | succ skip ih =>
    cases cs with
    | nil => rfl
    | cons c cs => exact ih cs

theorem braceNumbers_char {c : Char} (h : c ≠ '$') (cs : List Char) :
    braceNumbers groups (c :: cs) = c :: braceNumbers groups cs := by
  simp [braceNumbers, braceNumbersAfter, h]

theorem braceNumbers_dollar (cs : List Char) :
    braceNumbers groups ('$' :: '$' :: cs) = '$' :: '$' :: braceNumbers groups cs := rfl

/-- Behind a dollar sign, a digit starts a number. -/
theorem braceNumbers_dollar_cons {c : Char} (h : c ≠ '$') (cs : List Char) :
    braceNumbers groups ('$' :: c :: cs) =
      if Text.isDigit c then
        bracedNumber (extendNumber groups (Text.decimal [c]) cs).1 ++
          braceNumbers groups (cs.drop (extendNumber groups (Text.decimal [c]) cs).2)
      else '$' :: braceNumbers groups (c :: cs) := by
  rw [← braceNumbersAfter_eq, braceNumbers, braceNumbersAfter]
  · rfl
  · exact h

/-- A dollar sign stays, unless a digit comes after it. -/
theorem braceNumbers_alone {cs : List Char} (hdollar : cs.head? ≠ some '$')
    (hdigit : ∀ c, cs.head? = some c → Text.isDigit c = false) :
    braceNumbers groups ('$' :: cs) = '$' :: braceNumbers groups cs := by
  cases cs with
  | nil => rfl
  | cons c cs =>
    have hc : c ≠ '$' := by simpa using hdollar
    rw [braceNumbers_dollar_cons groups hc, hdigit c rfl]
    rfl

/-- What holds no dollar sign stays. -/
theorem braceNumbers_append {front : List Char} (h : '$' ∉ front) (rest : List Char) :
    braceNumbers groups (front ++ rest) = front ++ braceNumbers groups rest := by
  induction front with
  | nil => rfl
  | cons c front ih =>
    have hc : c ≠ '$' := fun hc => h (hc ▸ List.mem_cons_self)
    have hfront : '$' ∉ front := fun hmem => h (List.mem_cons_of_mem c hmem)
    rw [List.cons_append, braceNumbers_char groups hc, ih hfront, List.cons_append]

/-- Braces are put behind a dollar sign only. -/
theorem head?_braceNumbers (cs : List Char) : (braceNumbers groups cs).head? = cs.head? := by
  cases cs with
  | nil => rfl
  | cons c cs =>
    by_cases hc : c = '$'
    · subst hc
      cases cs with
      | nil => rfl
      | cons d cs =>
        by_cases hd : d = '$'
        · subst hd
          rfl
        · rw [braceNumbers_dollar_cons groups hd]
          split <;> rfl
    · rw [braceNumbers_char groups hc]
      rfl

/-- A number is read as far as it goes. -/
theorem extendNumber_eq {front more rest : List Char} (h : Extends groups front more rest) :
    extendNumber groups (Text.decimal front) (more ++ rest) =
      (Text.decimal (front ++ more), more.length) := by
  induction h with
  | @done front rest longest =>
    rw [List.append_nil]
    cases rest with
    | nil => rfl
    | cons c cs =>
      have hstop : ¬ (Text.isDigit c && decide (Text.decimal (front ++ [c]) ≤ groups)) = true := by
        intro h
        simp only [Bool.and_eq_true, decide_eq_true_eq] at h
        exact absurd h.2 (Nat.not_le.2 (longest c rfl h.1))
      rw [List.nil_append, extendNumber, ← Text.decimal_snoc, if_neg hstop]
      rfl
  | @digit front more rest c digit within _ ih =>
    have hgoes : (Text.isDigit c && decide (Text.decimal (front ++ [c]) ≤ groups)) = true := by
      simp [digit, within]
    rw [List.cons_append, extendNumber, ← Text.decimal_snoc, if_pos hgoes, ih, List.append_assoc]
    rfl

theorem braceNumbers_number {digits rest : List Char} (h : Takes groups digits rest) :
    braceNumbers groups ('$' :: (digits ++ rest)) =
      bracedNumber (Text.decimal digits) ++ braceNumbers groups rest := by
  cases h with
  | @digit more _ c digit further =>
    have hdollar : c ≠ '$' := by
      rintro rfl
      cases digit
    rw [List.cons_append, braceNumbers_dollar_cons groups hdollar, if_pos digit,
      extendNumber_eq groups further, List.drop_left, List.singleton_append]

end

/-! ## References -/

theorem partsAfter_eq (skip : Nat) (cs : List Char) :
    partsAfter skip cs = parts (cs.drop skip) := by
  induction skip generalizing cs with
  | zero => rfl
  | succ skip ih =>
    cases cs with
    | nil => rfl
    | cons c cs => exact ih cs

theorem parts_char {c : Char} (h : c ≠ '$') (cs : List Char) :
    parts (c :: cs) = .char c :: parts cs := by
  simp [parts, partsAfter]

theorem parts_dollar (cs : List Char) :
    parts ('$' :: cs) =
      match reference? cs with
      | some (part, n) => part :: partsAfter n cs
      | none => .char '$' :: parts cs := rfl

theorem parts_reference {cs : List Char} {part : Part} {n : Nat}
    (h : reference? cs = some (part, n)) : parts ('$' :: cs) = part :: parts (cs.drop n) := by
  rw [parts_dollar, h, ← partsAfter_eq]

theorem parts_alone {cs : List Char} (h : reference? cs = none) :
    parts ('$' :: cs) = .char '$' :: parts cs := by
  rw [parts_dollar, h]

theorem bracedName?_eq {name rest : List Char} (h : IsName name) :
    bracedName? (name ++ '\x7d' :: rest) = some (.ofList name) := by
  have hends : EndsName ('\x7d' :: rest) := by
    intro c hc
    cases hc
    exact isNameChar_close
  simp [bracedName?, takeWhile_isNameChar h.chars hends, h.nonempty]

theorem parts_braced {name : List Char} (h : IsName name) (rest : List Char) :
    parts ('$' :: '\x7b' :: (name ++ '\x7d' :: rest)) = .group (.ofList name) :: parts rest := by
  have hreference : reference? ('\x7b' :: (name ++ '\x7d' :: rest)) =
      some (.group (.ofList name), name.length + 2) := by
    rw [reference?, bracedName?_eq h, Option.map_some, String.length_ofList]
  have hdrop : ('\x7b' :: (name ++ '\x7d' :: rest)).drop (name.length + 2) = rest := by
    simp [List.drop_append]
  rw [parts_reference hreference, hdrop]

theorem reference?_bare {c : Char} (hdollar : c ≠ '$') (hopen : c ≠ '\x7b') (cs : List Char) :
    reference? (c :: cs) =
      let name := (c :: cs).takeWhile isNameChar
      if name.isEmpty then none else some (.group (.ofList name), name.length) := by
  rw [reference?]
  · intro tail htail
    exact hdollar (List.cons.inj htail).1
  · intro tail htail
    exact hopen (List.cons.inj htail).1

theorem parts_bare {name rest : List Char} (h : IsName name) (hends : EndsName rest) :
    parts ('$' :: (name ++ rest)) = .group (.ofList name) :: parts rest := by
  have hreference : reference? (name ++ rest) = some (.group (.ofList name), name.length) := by
    cases name with
    | nil => exact absurd rfl h.nonempty
    | cons c name =>
      have hc := h.chars c List.mem_cons_self
      have hdollar : c ≠ '$' := by
        rintro rfl
        simp [isNameChar_dollar] at hc
      have hopen : c ≠ '\x7b' := by
        rintro rfl
        simp [isNameChar_open] at hc
      have htake := takeWhile_isNameChar h.chars hends
      rw [List.cons_append] at htake ⊢
      rw [reference?_bare hdollar hopen, htake]
      rfl
  rw [parts_reference hreference, List.drop_left]

/-- No reference comes about where numbers are put in braces. -/
theorem StandsAlone.reference?_braceNumbers {rest : List Char} (h : StandsAlone rest)
    (groups : Nat) : reference? (braceNumbers groups rest) = none := by
  have hhead := head?_braceNumbers groups rest
  cases rest with
  | nil => rfl
  | cons c rest =>
    have hdollar : c ≠ '$' := by simpa using h.dollar
    have hc : isNameChar c = false := h.bare c rfl
    rw [braceNumbers_char groups hdollar]
    by_cases hopen : c = '\x7b'
    · subst hopen
      obtain ⟨name, more, rfl, hname, hends⟩ := exists_run rest
      have hplain : '$' ∉ name := by
        intro hmem
        have := hname '$' hmem
        simp [isNameChar_dollar] at this
      have hends' : EndsName (braceNumbers groups more) := by
        intro d hd
        rw [head?_braceNumbers] at hd
        exact hends d hd
      have hunclosed :
          ¬ (!name.isEmpty && (name ++ braceNumbers groups more)[name.length]? == some '\x7d') =
            true := by
        intro hclosed
        simp only [Bool.and_eq_true, Bool.not_eq_true', List.isEmpty_eq_false_iff, beq_iff_eq,
          List.getElem?_append_right (Nat.le_refl _), Nat.sub_self, ← List.head?_eq_getElem?,
          head?_braceNumbers] at hclosed
        obtain ⟨hnonempty, hclose⟩ := hclosed
        obtain ⟨tail, rfl⟩ := List.head?_eq_some_iff.1 hclose
        exact h.braced name tail ⟨hnonempty, hname⟩ rfl
      simp only [reference?, braceNumbers_append groups hplain, bracedName?,
        takeWhile_isNameChar hname hends', if_neg hunclosed, Option.map_none]
    · rw [reference?_bare hdollar hopen]
      simp [hc]

/-! ## Both passes -/

/-- What the piece is for the second pass. -/
def Piece.toPart : Piece → Part
  | .char c => .char c
  | .number n => .group (toString n)
  | .name label => .group label

theorem isName_toString (n : Nat) : IsName (toString n).toList := by
  constructor
  · rw [Nat.toString_eq_ofList_toDigits, String.toList_ofList]
    exact Nat.toDigits_ne_nil
  · intro c hc
    exact isNameChar_of_isDigit (Text.isDigit_of_mem_toString hc)

theorem IsName.dollar {name : List Char} (h : IsName name) : '$' ∉ name := by
  intro hmem
  have hchar := h.chars '$' hmem
  simp [isNameChar_dollar] at hchar

theorem EndsName.braceNumbers {rest : List Char} (h : EndsName rest) (groups : Nat) :
    EndsName (Template.braceNumbers groups rest) := by
  intro c hc
  rw [head?_braceNumbers] at hc
  exact h c hc

/-- The first pass leaves the pieces as they are, and the second one tells them apart. -/
theorem Reading.parts_braceNumbers {groups : Nat} {cs : List Char} {ps : List Piece}
    (h : Reading groups cs ps) : parts (braceNumbers groups cs) = ps.map Piece.toPart := by
  induction h with
  | done => rfl
  | char plain _ ih =>
    rw [braceNumbers_char groups plain, parts_char plain, ih]
    rfl
  | @dollar rest ps _ ih =>
    have hreference : ∀ cs, reference? ('$' :: cs) = some (.char '$', 1) := fun _ => rfl
    rw [braceNumbers_dollar, parts_reference (hreference _), List.drop_succ_cons, List.drop_zero,
      ih]
    rfl
  | @number digits rest ps takes _ ih =>
    have hbraced : bracedNumber (Text.decimal digits) ++ braceNumbers groups rest =
        '$' :: '\x7b' :: ((toString (Text.decimal digits)).toList ++
          '\x7d' :: braceNumbers groups rest) := by
      simp [bracedNumber]
    rw [braceNumbers_number groups takes, hbraced, parts_braced (isName_toString _), ih,
      String.ofList_toList]
    rfl
  | @braced name rest ps named _ ih =>
    have hopen : braceNumbers groups ('$' :: '\x7b' :: (name ++ '\x7d' :: rest)) =
        '$' :: '\x7b' :: (name ++ '\x7d' :: braceNumbers groups rest) := by
      rw [braceNumbers_alone groups (by simp), braceNumbers_char groups (by decide),
        braceNumbers_append groups named.dollar, braceNumbers_char groups (by decide)]
      intro c hc
      cases hc
      rfl
    rw [hopen, parts_braced named, ih]
    rfl
  | @bare name rest ps named digitless ends _ ih =>
    have hhead : (name ++ rest).head? = name.head? := by
      cases name with
      | nil => exact absurd rfl named.nonempty
      | cons c name => rfl
    have hdollar : name.head? ≠ some '$' := by
      intro hmem
      exact named.dollar (List.mem_of_head? hmem)
    rw [braceNumbers_alone groups (by rwa [hhead]) (by rwa [hhead]),
      braceNumbers_append groups named.dollar, parts_bare named (ends.braceNumbers groups), ih]
    rfl
  | @alone rest ps alone _ ih =>
    have hdigit : ∀ c, rest.head? = some c → Text.isDigit c = false := by
      intro c hc
      have hchar := alone.bare c hc
      by_contra hdigit
      rw [isNameChar_of_isDigit (by simpa using hdigit)] at hchar
      cases hchar
    rw [braceNumbers_alone groups alone.dollar hdigit,
      parts_alone (alone.reference?_braceNumbers groups), ih]
    rfl

/-! ## Every template has a reading -/

/-- As many digits as still give the number of a group, after some that were read. -/
theorem exists_extends (groups : Nat) (front cs : List Char) :
    ∃ more rest, cs = more ++ rest ∧ Extends groups front more rest := by
  induction cs generalizing front with
  | nil => exact ⟨[], [], rfl, .done (by simp)⟩
  | cons c cs ih =>
    by_cases hgoes : Text.isDigit c = true ∧ Text.decimal (front ++ [c]) ≤ groups
    · obtain ⟨more, rest, rfl, further⟩ := ih (front ++ [c])
      exact ⟨c :: more, rest, rfl, .digit hgoes.1 hgoes.2 further⟩
    · refine ⟨[], c :: cs, rfl, .done ?_⟩
      intro d hd hdigit
      cases hd
      exact Nat.lt_of_not_le fun hle => hgoes ⟨hdigit, hle⟩

theorem exists_takes (groups : Nat) {c : Char} (hc : Text.isDigit c = true) (cs : List Char) :
    ∃ digits rest, c :: cs = digits ++ rest ∧ Takes groups digits rest := by
  obtain ⟨more, rest, rfl, further⟩ := exists_extends groups [c] cs
  exact ⟨c :: more, rest, rfl, .digit hc further⟩

/-- A dollar sign starts some piece, if what comes behind that piece has a reading. -/
theorem exists_reading_dollar (groups : Nat) (cs : List Char)
    (ih : ∀ rest : List Char, rest.length ≤ cs.length → ∃ ps, Reading groups rest ps) :
    ∃ ps, Reading groups ('$' :: cs) ps := by
  -- a name in braces is the only piece that its first character does not tell
  by_cases hbraced : ∃ name rest, IsName name ∧ cs = '\x7b' :: (name ++ '\x7d' :: rest)
  · obtain ⟨name, rest, named, rfl⟩ := hbraced
    obtain ⟨ps, hps⟩ := ih rest (by simp; omega)
    exact ⟨_, .braced named hps⟩
  · have halone : cs.head? ≠ some '$' → EndsName cs → ∃ ps, Reading groups ('$' :: cs) ps := by
      intro hdollar hbare
      obtain ⟨ps, hps⟩ := ih cs le_rfl
      refine ⟨_, .alone ⟨hdollar, hbare, ?_⟩ hps⟩
      intro name more named heq
      exact hbraced ⟨name, more, named, heq⟩
    cases cs with
    | nil => exact halone (by simp) (by intro c hc; cases hc)
    | cons d cs =>
      by_cases hdollar : d = '$'
      · subst hdollar
        obtain ⟨ps, hps⟩ := ih cs (by simp)
        exact ⟨_, .dollar hps⟩
      · cases hdigit : Text.isDigit d with
        | true =>
          obtain ⟨digits, rest, hsplit, takes⟩ := exists_takes groups hdigit cs
          obtain ⟨ps, hps⟩ := ih rest (by rw [hsplit]; simp)
          rw [hsplit]
          exact ⟨_, .number takes hps⟩
        | false =>
          cases hname : isNameChar d with
          | true =>
            obtain ⟨name, rest, hsplit, hchars, hends⟩ := exists_run (d :: cs)
            obtain ⟨ps, hps⟩ := ih rest (by rw [hsplit]; simp)
            cases name with
            | nil =>
              rw [List.nil_append] at hsplit
              rw [← hsplit] at hends
              rw [hends d rfl] at hname
              cases hname
            | cons c name =>
              obtain ⟨rfl, -⟩ := List.cons.inj hsplit
              rw [hsplit]
              refine ⟨_, .bare ⟨List.cons_ne_nil d name, hchars⟩ ?_ hends hps⟩
              intro c hc
              cases hc
              exact hdigit
          | false =>
            apply halone
            · simpa using hdollar
            · intro c hc
              cases hc
              exact hname

/-- By induction on the length, since a piece may take more than one character. -/
theorem exists_reading (groups : Nat) (cs : List Char) : ∃ ps, Reading groups cs ps := by
  generalize hn : cs.length = n
  induction n using Nat.strong_induction_on generalizing cs with
  | _ n ih =>
    subst hn
    have hshorter : ∀ rest : List Char, rest.length < cs.length → ∃ ps, Reading groups rest ps :=
      fun rest hlt => ih rest.length hlt rest rfl
    cases cs with
    | nil => exact ⟨[], .done⟩
    | cons c cs =>
      by_cases hc : c = '$'
      · subst hc
        apply exists_reading_dollar groups cs
        intro rest hle
        exact hshorter rest (Nat.lt_succ_of_le hle)
      · obtain ⟨ps, hps⟩ := hshorter cs (Nat.lt_succ_self _)
        exact ⟨_, .char hc hps⟩

/-! ## Escapes -/

theorem replacePair_cons {a b c : Char} {new cs : List Char} (h : c ≠ a ∨ cs.head? ≠ some b) :
    Text.replacePair a b new (c :: cs) = c :: Text.replacePair a b new cs := by
  cases cs with
  | nil => rfl
  | cons d cs =>
    have hpair : ¬ (c = a ∧ d = b) := by
      rintro ⟨rfl, rfl⟩
      simp at h
    rw [Text.replacePair, if_neg hpair]

/-- The template with its escapes replaced in one go. -/
def unescaped : List Char → List Char
  | [] => []
  | [c] => [c]
  | c :: d :: rest =>
    if c = '\\' ∧ d = 't' then '\t' :: unescaped rest
    else if c = '\\' ∧ d = 'n' then '\n' :: unescaped rest
    else c :: unescaped (d :: rest)

/-- No escape comes about where the other one is replaced. -/
theorem unescape_eq (template : String) :
    (unescape template).toList = unescaped template.toList := by
  rw [unescape, String.toList_ofList]
  generalize template.toList = cs
  induction cs using unescaped.induct with
  | case1 => rfl
  | case2 c => rfl
  | case3 c d rest htab ih =>
    rw [unescaped, if_pos htab, Text.replacePair, if_pos htab, List.singleton_append,
      replacePair_cons (.inl (by decide)), ih]
  | case4 c d rest htab hnewline ih =>
    obtain ⟨rfl, rfl⟩ := hnewline
    have hletter : Text.replacePair '\\' 't' ['\t'] ('n' :: rest) =
        'n' :: Text.replacePair '\\' 't' ['\t'] rest := replacePair_cons (.inl (by decide))
    rw [unescaped, if_neg htab, if_pos ⟨rfl, rfl⟩, replacePair_cons (.inr (by simp)), hletter,
      Text.replacePair, if_pos ⟨rfl, rfl⟩, ih]
    rfl
  | case5 c d rest htab hnewline ih =>
    have hpair : c ≠ '\\' ∨ (Text.replacePair '\\' 't' ['\t'] (d :: rest)).head? ≠ some 'n' := by
      by_cases hc : c = '\\'
      · right
        have hd : d ≠ 'n' := fun hd => hnewline ⟨hc, hd⟩
        cases rest with
        | nil => simpa [Text.replacePair] using hd
        | cons e rest =>
          rw [Text.replacePair]
          split
          · simp
          · simpa using hd
      · exact .inl hc
    rw [unescaped, if_neg htab, if_neg hnewline, Text.replacePair, if_neg htab,
      replacePair_cons hpair, ih]

/-! ## What a template makes of a match -/

/-- What the piece should stand for in a match. -/
def Piece.text (m : Match) : Piece → String
  | .char c => c.toString
  | .number n => (m.group? n).getD ""
  | .name label => (Part.group label).fill m

/-- What the piece stands for in a match: a number is looked up as a name first. -/
def Piece.written (m : Match) : Piece → String
  | .char c => c.toString
  | .number n => ((m.named? (toString n)).or (m.group? n)).getD ""
  | .name label => (Part.group label).fill m

theorem Piece.fill_toPart (m : Match) (p : Piece) : p.toPart.fill m = p.written m := by
  cases p with
  | char c => rfl
  | number n =>
    have hall : (toString n).toList.all Text.isDigit = true :=
      List.all_eq_true.2 fun c hc => Text.isDigit_of_mem_toString hc
    have hnumber : numbered? m (toString n) = m.group? n := by
      rw [numbered?, if_pos hall, Text.decimal_toString]
    rw [Piece.toPart, Part.fill, hnumber, Piece.written]
  | name label => rfl

theorem Reading.expand_eq {template : String} {m : Match} {ps : List Piece}
    (h : Reading m.groupCount template.toList ps) :
    expand template m = String.join (ps.map (Piece.written m)) := by
  rw [expand, h.parts_braceNumbers, List.map_map]
  apply congrArg
  apply List.map_congr_left
  intro p _
  exact p.fill_toPart m

/-- A number that a template can refer to, in a match with so many groups. -/
def InReach (groups n : Nat) : Prop := n < 10 ∨ n ≤ groups

theorem Extends.le {groups : Nat} {front more rest : List Char}
    (h : Extends groups front more rest) : more = [] ∨ Text.decimal (front ++ more) ≤ groups := by
  induction h with
  | done _ => exact .inl rfl
  | @digit front more rest c _ within _ ih =>
    right
    rcases ih with rfl | hle
    · exact within
    · rwa [List.append_assoc] at hle

theorem Takes.inReach {groups : Nat} {digits rest : List Char} (h : Takes groups digits rest) :
    InReach groups (Text.decimal digits) := by
  cases h with
  | digit digit further =>
    rcases further.le with rfl | hle
    · exact .inl (Text.decimal_single_lt digit)
    · exact .inr hle

theorem Reading.inReach {groups : Nat} {cs : List Char} {ps : List Piece}
    (h : Reading groups cs ps) : ∀ n, .number n ∈ ps → InReach groups n := by
  induction h with
  | done => simp
  | number takes _ ih =>
    intro n hn
    rcases List.mem_cons.1 hn with heq | hn
    · cases heq
      exact takes.inReach
    · exact ih n hn
  | char _ _ ih | dollar _ ih | braced _ _ ih | bare _ _ _ _ ih | alone _ _ ih =>
    intro n hn
    rcases List.mem_cons.1 hn with heq | hn
    · cases heq
    · exact ih n hn

/-- All digits go on with a number, if they give the number of a group in the end. -/
theorem extends_of_le {groups : Nat} {front more : List Char}
    (hdigits : ∀ c ∈ more, Text.isDigit c = true)
    (h : more = [] ∨ Text.decimal (front ++ more) ≤ groups) : Extends groups front more [] := by
  induction more generalizing front with
  | nil => exact .done (by simp)
  | cons c more ih =>
    have hle : Text.decimal (front ++ [c] ++ more) ≤ groups := by
      rw [List.append_assoc]
      exact h.resolve_left (List.cons_ne_nil c more)
    have hwithin := (Text.decimal_le_append (front ++ [c]) more).trans hle
    exact .digit (hdigits c List.mem_cons_self) hwithin
      (ih (fun d hd => hdigits d (List.mem_cons_of_mem c hd)) (.inr hle))

/-- A reference by a number within reach is a template of one piece. -/
theorem InReach.reading {groups n : Nat} (h : InReach groups n) :
    Reading groups ("$" ++ toString n).toList [.number n] := by
  have htakes : Takes groups (toString n).toList [] := by
    have hdigits : ∀ c ∈ (toString n).toList, Text.isDigit c = true :=
      fun c hc => Text.isDigit_of_mem_toString hc
    have hvalue := Text.decimal_toString n
    have hsmall : n < 10 → (toString n).toList.length = 1 := by
      intro hn
      rw [Nat.toString_eq_ofList_toDigits, String.toList_ofList, Nat.toDigits_of_lt_base hn]
      rfl
    cases hcs : (toString n).toList with
    | nil => exact absurd hcs (isName_toString n).nonempty
    | cons c more =>
      rw [hcs] at hdigits hvalue hsmall
      apply Takes.digit (hdigits c List.mem_cons_self)
      apply extends_of_le (fun d hd => hdigits d (List.mem_cons_of_mem c hd))
      rcases h with hn | hgroup
      · exact .inl (List.eq_nil_of_length_eq_zero (Nat.succ.inj (hsmall hn)))
      · exact .inr (hvalue.trans_le hgroup)
  have hreading := Reading.number htakes .done
  rw [Text.decimal_toString, List.append_nil] at hreading
  rw [String.toList_append]
  exact hreading

/-- What a template makes of a match, told by its readings, of which there always is one. Captured
text is copied from the groups. Each number stands for its group, in every template, exactly when no
group that is named by such a numeral has another text. -/
theorem expand_reading (m : Match) :
    (∀ template : String, ∃ ps, Reading m.groupCount template.toList ps) ∧
    (∀ (template : String) ps, Reading m.groupCount template.toList ps →
      expand template m = String.join (ps.map (Piece.written m))) ∧
    (∀ (d : Directive) ps, d.literal = false →
      Reading m.groupCount (unescaped d.template.toList) ps →
      d.replacement m = String.join (ps.map (Piece.written m))) ∧
    ((∀ (template : String) ps, Reading m.groupCount template.toList ps →
        expand template m = String.join (ps.map (Piece.text m))) ↔
      ∀ n, InReach m.groupCount n →
        ((m.named? (toString n)).or (m.group? n)).getD "" = (m.group? n).getD "") := by
  refine ⟨fun template => exists_reading _ _, fun template ps h => h.expand_eq, ?_, ?_⟩
  · intro d ps hliteral h
    rw [← unescape_eq] at h
    simp only [Directive.replacement, hliteral, Bool.false_eq_true, if_false]
    exact h.expand_eq
  constructor
  · intro hall n hn
    have hnumber := hall _ _ hn.reading
    rw [hn.reading.expand_eq] at hnumber
    simpa [Piece.written, Piece.text] using hnumber
  · intro hnumbers template ps h
    rw [h.expand_eq]
    apply congrArg
    apply List.map_congr_left
    intro p hp
    cases p with
    | char c => rfl
    | number n => exact hnumbers n (h.inReach n hp)
    | name label => rfl

/-- The match of a pattern whose first group is named by the number of the second one. -/
def numeralName : Match := ⟨0, 2, [some "ab", some "a", some "b"], [("2", 1)]⟩

/-- A reference to the second group gives the text of the first one, which has its number for a
name. -/
theorem expand_reading_numeralName :
    ((Engine.standard.compile "(?P<2>a)(b)" {}).toOption.bind fun find =>
        (find "ab").toOption.join.map fun m => (m.groups, m.names)) =
      some (numeralName.groups, numeralName.names) ∧
    numeralName.group? 2 = some "b" ∧ expand "$2" numeralName = "a" ∧
    ¬ ∀ (template : String) ps, Reading numeralName.groupCount template.toList ps →
      expand template numeralName = String.join (ps.map (Piece.text numeralName)) := by
  obtain ⟨-, hreads, -, hnumbers⟩ := expand_reading numeralName
  have hreach : InReach numeralName.groupCount 2 := .inl (by decide)
  refine ⟨by decide +kernel, rfl, hreads "$2" _ hreach.reading, ?_⟩
  intro hall
  exact absurd (hnumbers.1 hall 2 hreach) (by decide)

end Template

end SourcePrep
