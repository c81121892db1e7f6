import SourcePrep.Proofs.DocumentText

/-!
# The grammar of JSON

`Denotes s v` says that the text `s` is a value `v`, and `Reads s v` that it is one with blanks
around it. A number is a rational. An escaped pair of surrogates is one character; a surrogate on
its own is none, so a text with one in it denotes nothing.

* `Reads.unique`: a text denotes one value at most. What kind of value it is can be told from its
  first character (`Denotes.kind_eq`), and where it ends from the text that it begins
  (`Denotes.known`); only a number needs to be told what comes after it (`Ends`).
* `Inside.unique`: the same for what stands between brackets, in an array and in an object alike.
-/

set_option autoImplicit false

namespace SourcePrep.Json

/-- What a text denotes. -/
inductive Value
  | null
  | bool (b : Bool)
  | number (q : Rat)
  | string (s : String)
  | array (elements : List Value)
  /-- The members in the order of the text. -/
  | object (members : List (String × Value))

/-! ## Numbers -/

/-- A run of digits, at least one. -/
def IsNumeral (ds : List Char) : Prop := ds ≠ [] ∧ ds.all Text.isDigit = true

/-- The digits before the point: no zero stands before another digit. -/
inductive Whole : List Char → Nat → Prop
  | zero : Whole ['0'] 0
  | digits {d : Char} {ds : List Char} :
      d ≠ '0' → IsNumeral (d :: ds) → Whole (d :: ds) (Text.decimal (d :: ds))

/-- The point and the digits after it, if there are any. -/
inductive Fraction : List Char → Rat → Prop
  | absent : Fraction [] 0
  | digits {ds : List Char} :
      IsNumeral ds → Fraction ('.' :: ds) (Text.decimal ds / 10 ^ ds.length)

/-- The sign of an exponent. -/
inductive Sign : List Char → Int → Prop
  | absent : Sign [] 1
  | plus : Sign ['+'] 1
  | minus : Sign ['-'] (-1)

inductive Exponent : List Char → Int → Prop
  | absent : Exponent [] 0
  | digits {e : Char} {s ds : List Char} {k : Int} :
      e = 'e' ∨ e = 'E' → Sign s k → IsNumeral ds → Exponent (e :: s ++ ds) (k * Text.decimal ds)

/-- A number without a sign. -/
inductive Unsigned : List Char → Rat → Prop
  | parts {w f e : List Char} {n : Nat} {q : Rat} {k : Int} :
      Whole w n → Fraction f q → Exponent e k → Unsigned (w ++ f ++ e) ((n + q) * 10 ^ k)

inductive Number : List Char → Rat → Prop
  | positive {s : List Char} {q : Rat} : Unsigned s q → Number s q
  | negative {s : List Char} {q : Rat} : Unsigned s q → Number ('-' :: s) (-q)

/-! ## Texts in quotes -/

/-- The escapes of one letter, and the characters they stand for. -/
def letterEscapes : List (Char × Char) :=
  [('"', '"'), ('\\', '\\'), ('/', '/'), ('b', '\x08'), ('f', '\x0c'), ('n', '\n'), ('r', '\r'),
    ('t', '\t')]

/-- Four hexadecimal digits and the code unit they stand for. -/
def IsUnit (ds : List Char) (n : Nat) : Prop :=
  ds.length = 4 ∧ (∀ c ∈ ds, Text.isHexDigit c = true) ∧ n = Text.hexadecimal ds

/-- How one character can be written between quotes. -/
inductive Written : List Char → Char → Prop
  | plain {c : Char} : 0x20 ≤ c.toNat → c ≠ '"' → c ≠ '\\' → Written [c] c
  | letter {e c : Char} : (e, c) ∈ letterEscapes → Written ['\\', e] c
  | unit {ds : List Char} {n : Nat} :
      IsUnit ds n → n.isValidChar → Written ('\\' :: 'u' :: ds) (Char.ofNat n)
  | pair {ds es : List Char} {high low : Nat} :
      IsUnit ds (0xD800 + high) → high < 0x400 → IsUnit es (0xDC00 + low) → low < 0x400 →
        Written ('\\' :: 'u' :: ds ++ '\\' :: 'u' :: es) (Char.ofNat (0x10000 + high * 0x400 + low))

inductive Characters : List Char → List Char → Prop
  | nil : Characters [] []
  | cons {p s cs : List Char} {c : Char} :
      Written p c → Characters s cs → Characters (p ++ s) (c :: cs)

inductive Quoted : List Char → String → Prop
  | quotes {body : List Char} {s : String} :
      Characters body s.toList → Quoted ('"' :: body ++ ['"']) s

/-! ## Values -/

/-- Blank space. -/
def isBlank (c : Char) : Bool := c == ' ' || c == '\t' || c == '\n' || c == '\r'

def IsBlank (s : List Char) : Prop := s.all isBlank = true

/-- Something with blank space around it. -/
structure Padded (α : Type) where
  before : List Char
  inner : α
  after : List Char

/-- What surrounds it is blank. -/
structure Padded.IsOk {α : Type} (p : Padded α) : Prop where
  before : IsBlank p.before
  after : IsBlank p.after

/-- A value and its text. -/
structure Part where
  text : List Char
  value : Value

/-- A member of an object: the name in quotes, blanks, a colon, blanks and the value. -/
structure Entry where
  key : List Char
  name : String
  left : List Char
  right : List Char
  part : Part

namespace Entry

def text (e : Entry) : List Char := e.key ++ e.left ++ ':' :: e.right ++ e.part.text

def member (e : Entry) : String × Value := (e.name, e.part.value)

/-- The name is in quotes, and blanks are around the colon. -/
structure IsOk (e : Entry) : Prop where
  key : Quoted e.key e.name
  left : IsBlank e.left
  right : IsBlank e.right

end Entry

section
variable {α : Type}

/-- The text of something with the blanks around it. -/
def Padded.whole (text : α → List Char) (p : Padded α) : List Char :=
  p.before ++ text p.inner ++ p.after

/-- Things with commas between them. -/
def listed (text : α → List Char) (items : List (Padded α)) : List Char :=
  [','].intercalate (items.map (Padded.whole text))

/-- What stands between two brackets. -/
inductive Inside (text : α → List Char) : List (Padded α) → List Char → Prop
  | empty {b : List Char} : IsBlank b → Inside text [] b
  | items {items : List (Padded α)} :
      items ≠ [] → (∀ i ∈ items, i.IsOk) → Inside text items (listed text items)

end

/-- The text is this value. -/
inductive Denotes : List Char → Value → Prop
  | null : Denotes ['n', 'u', 'l', 'l'] .null
  | yes : Denotes ['t', 'r', 'u', 'e'] (.bool true)
  | no : Denotes ['f', 'a', 'l', 's', 'e'] (.bool false)
  | number {s : List Char} {q : Rat} : Number s q → Denotes s (.number q)
  | string {s : List Char} {t : String} : Quoted s t → Denotes s (.string t)
  | array {items : List (Padded Part)} {inside : List Char} :
      Inside Part.text items inside → (∀ i ∈ items, Denotes i.inner.text i.inner.value) →
        Denotes ('[' :: inside ++ [']']) (.array (items.map fun i => i.inner.value))
  | object {items : List (Padded Entry)} {inside : List Char} :
      Inside Entry.text items inside → (∀ i ∈ items, i.inner.IsOk) →
        (∀ i ∈ items, Denotes i.inner.part.text i.inner.part.value) →
        Denotes ('\x7b' :: inside ++ ['\x7d']) (.object (items.map fun i => i.inner.member))

/-- The text is this value, with blanks around it. -/
def Reads (s : String) (v : Value) : Prop :=
  ∃ p : Padded Part, p.IsOk ∧ Denotes p.inner.text p.inner.value ∧
    s.toList = p.whole Part.text ∧ v = p.inner.value

/-! ## Where a run ends -/

/-- The text does not go on with a character of the class. -/
def Stops (p : Char → Bool) (r : List Char) : Prop := ∀ c ∈ r.head?, p c = false

theorem stops_cons {p : Char → Bool} {c : Char} {r : List Char} :
    Stops p (c :: r) ↔ p c = false := by
  simp [Stops]

theorem stops_nil {p : Char → Bool} : Stops p [] := by simp [Stops]

/-! ## Numbers end where no digit follows -/

/-- A character that a number can go on with. -/
def inNumber (c : Char) : Bool := Text.isDigit c || c == '.' || c == 'e' || c == 'E'

/-- What follows a number. -/
abbrev Ends (r : List Char) : Prop := Stops inNumber r

theorem Stops.mono {p q : Char → Bool} {r : List Char} (hpq : ∀ c, p c = true → q c = true)
    (h : Stops q r) : Stops p r := by
  intro c hc
  have hq := h c hc
  cases hp : p c with
  | false => rfl
  | true => rw [hpq c hp] at hq; exact hq

theorem Ends.stops_digit {r : List Char} (h : Ends r) : Stops Text.isDigit r :=
  Stops.mono (fun c hc => by simp [inNumber, hc]) h

namespace IsNumeral

variable {ds ds' r r' : List Char}

theorem head (h : IsNumeral ds) : ∃ d t, ds = d :: t ∧ Text.isDigit d = true := by
  obtain ⟨d, t, rfl⟩ := List.exists_cons_of_ne_nil h.1
  exact ⟨d, t, rfl, List.all_eq_true.1 h.2 d List.mem_cons_self⟩

theorem unique (h : IsNumeral ds) (h' : IsNumeral ds') (hr : Stops Text.isDigit r)
    (hr' : Stops Text.isDigit r') (e : ds ++ r = ds' ++ r') : ds = ds' ∧ r = r' :=
  Text.run_unique e h.2 h'.2 hr hr'

end IsNumeral

theorem Whole.numeral {w : List Char} {n : Nat} (h : Whole w n) :
    IsNumeral w ∧ n = Text.decimal w := by
  cases h with
  | zero => exact ⟨⟨by simp, by decide⟩, by decide⟩
  | digits _ hds => exact ⟨hds, rfl⟩

theorem Sign.unique {s s' ds ds' : List Char} {k k' : Int} (h : Sign s k) (h' : Sign s' k')
    (hds : IsNumeral ds) (hds' : IsNumeral ds') {r r' : List Char}
    (e : s ++ (ds ++ r) = s' ++ (ds' ++ r')) : s = s' ∧ k = k' := by
  obtain ⟨d, t, rfl, hd⟩ := hds.head
  obtain ⟨d', t', rfl, hd'⟩ := hds'.head
  have hplus : Text.isDigit '+' = false := by decide
  have hminus : Text.isDigit '-' = false := by decide
  cases h <;> cases h' <;> grind

theorem Exponent.unique {s s' r r' : List Char} {k k' : Int} (h : Exponent s k)
    (h' : Exponent s' k') (hr : Ends r) (hr' : Ends r') (e : s ++ r = s' ++ r') :
    s = s' ∧ k = k' := by
  have hletter : ∀ {c : Char} {t : List Char}, c = 'e' ∨ c = 'E' → ¬ Ends (c :: t) := by
    rintro c t (rfl | rfl) h <;> exact absurd (stops_cons.1 h) (by decide)
  cases h with
  | absent =>
    cases h' with
    | absent => exact ⟨rfl, rfl⟩
    | digits hc _ _ =>
      have hhead : r = _ :: _ := e
      exact absurd (hhead ▸ hr) (hletter hc)
  | @digits c sign ds k hc hsign hds =>
    cases h' with
    | absent =>
      have hhead : _ :: _ = r' := e
      exact absurd (hhead ▸ hr') (hletter hc)
    | @digits c' sign' ds' k' hc' hsign' hds' =>
      simp only [List.cons_append, List.append_assoc] at e
      obtain ⟨rfl, htail⟩ := List.cons.inj e
      obtain ⟨rfl, rfl⟩ := hsign.unique hsign' hds hds' htail
      obtain ⟨rfl, -⟩ :=
        hds.unique hds' hr.stops_digit hr'.stops_digit (List.append_cancel_left htail)
      exact ⟨rfl, rfl⟩

/-- The point of a fraction, or one of its digits. -/
def inFraction (c : Char) : Bool := Text.isDigit c || c == '.'

theorem Exponent.stops {s r : List Char} {k : Int} (h : Exponent s k) (hr : Ends r) :
    Stops inFraction (s ++ r) := by
  cases h with
  | absent => exact Stops.mono (fun c hc => by simp_all [inFraction, inNumber]) hr
  | digits hc _ _ => rcases hc with rfl | rfl <;> exact stops_cons.2 (by decide)

theorem Fraction.stops {s r : List Char} {q : Rat} (h : Fraction s q) (hr : Stops inFraction r) :
    Stops Text.isDigit (s ++ r) := by
  cases h with
  | absent => exact Stops.mono (fun c hc => by simp [inFraction, hc]) hr
  | digits _ => exact stops_cons.2 (by decide)

theorem Fraction.unique {s s' r r' : List Char} {q q' : Rat} (h : Fraction s q)
    (h' : Fraction s' q') (hr : Stops inFraction r) (hr' : Stops inFraction r')
    (e : s ++ r = s' ++ r') : s = s' ∧ q = q' := by
  have hpoint : ∀ {t : List Char}, ¬ Stops inFraction ('.' :: t) :=
    fun h => absurd (stops_cons.1 h) (by decide)
  cases h with
  | absent =>
    cases h' with
    | absent => exact ⟨rfl, rfl⟩
    | digits _ =>
      have hhead : r = '.' :: _ := e
      exact absurd (hhead ▸ hr) hpoint
  | digits hds =>
    cases h' with
    | absent =>
      have hhead : '.' :: _ = r' := e
      exact absurd (hhead ▸ hr') hpoint
    | digits hds' =>
      obtain ⟨rfl, -⟩ := hds.unique hds' (Fraction.absent.stops hr) (Fraction.absent.stops hr')
        (List.cons.inj e).2
      exact ⟨rfl, rfl⟩

theorem Unsigned.head {s : List Char} {q : Rat} (h : Unsigned s q) :
    ∃ d t, s = d :: t ∧ Text.isDigit d = true := by
  obtain ⟨hw, -, -⟩ := h
  obtain ⟨d, t, rfl, hd⟩ := hw.numeral.1.head
  exact ⟨d, _, rfl, hd⟩

theorem Unsigned.unique {s s' r r' : List Char} {q q' : Rat} (h : Unsigned s q)
    (h' : Unsigned s' q') (hr : Ends r) (hr' : Ends r') (e : s ++ r = s' ++ r') :
    s = s' ∧ q = q' := by
  obtain ⟨hw, hf, he⟩ := h
  obtain ⟨hw', hf', he'⟩ := h'
  simp only [List.append_assoc] at e
  obtain ⟨rfl, hrest⟩ := hw.numeral.1.unique hw'.numeral.1 (hf.stops (he.stops hr))
    (hf'.stops (he'.stops hr')) e
  obtain ⟨rfl, rfl⟩ := hf.unique hf' (he.stops hr) (he'.stops hr') hrest
  obtain ⟨rfl, rfl⟩ := he.unique he' hr hr' (List.append_cancel_left hrest)
  rw [hw.numeral.2, hw'.numeral.2]
  exact ⟨rfl, rfl⟩

theorem Number.head {s : List Char} {q : Rat} (h : Number s q) :
    ∃ c t, s = c :: t ∧ (c = '-' ∨ Text.isDigit c = true) := by
  cases h with
  | positive h =>
    obtain ⟨d, t, rfl, hd⟩ := h.head
    exact ⟨d, t, rfl, .inr hd⟩
  | negative _ => exact ⟨_, _, rfl, .inl rfl⟩

theorem Number.unique {s s' r r' : List Char} {q q' : Rat} (h : Number s q) (h' : Number s' q')
    (hr : Ends r) (hr' : Ends r') (e : s ++ r = s' ++ r') : s = s' ∧ q = q' := by
  have hminus : Text.isDigit '-' = false := by decide
  cases h with
  | positive h =>
    cases h' with
    | positive h' => exact h.unique h' hr hr' e
    | negative _ =>
      obtain ⟨d, t, rfl, hd⟩ := h.head
      rw [(List.cons.inj e).1, hminus] at hd
      contradiction
  | negative h =>
    cases h' with
    | positive h' =>
      obtain ⟨d, t, rfl, hd⟩ := h'.head
      rw [← (List.cons.inj e).1, hminus] at hd
      contradiction
    | negative h' =>
      obtain ⟨rfl, rfl⟩ := h.unique h' hr hr' (List.cons.inj e).2
      exact ⟨rfl, rfl⟩

/-! ## A text ends at the first quote that is not escaped -/

theorem letterEscapes_unique {e c c' : Char} (h : (e, c) ∈ letterEscapes)
    (h' : (e, c') ∈ letterEscapes) : c = c' := by
  have hall : ∀ x ∈ letterEscapes, ∀ y ∈ letterEscapes, x.1 = y.1 → x.2 = y.2 := by decide
  exact hall _ h _ h' rfl

theorem letterEscapes_ne_u {e c : Char} (h : (e, c) ∈ letterEscapes) : e ≠ 'u' := by
  have hall : ∀ x ∈ letterEscapes, x.1 ≠ 'u' := by decide
  exact hall _ h

theorem IsUnit.unique {ds es r r' : List Char} {m n : Nat} (h : IsUnit ds m) (h' : IsUnit es n)
    (e : ds ++ r = es ++ r') : ds = es ∧ r = r' ∧ m = n := by
  obtain ⟨rfl, hr⟩ := List.append_inj e (h.1.trans h'.1.symm)
  exact ⟨rfl, hr, h.2.2.trans h'.2.2.symm⟩

theorem Written.head {p : List Char} {c : Char} (h : Written p c) :
    ∃ d t, p = d :: t ∧ d ≠ '"' := by
  cases h with
  | plain _ hquote _ => exact ⟨_, _, rfl, hquote⟩
  | letter _ => exact ⟨_, _, rfl, by decide⟩
  | unit _ _ => exact ⟨_, _, rfl, by decide⟩
  | pair _ _ _ _ => exact ⟨_, _, rfl, by decide⟩

theorem not_valid_surrogate {n high : Nat} (hhigh : high < 0x400) (h : n = 0xD800 + high) :
    ¬ n.isValidChar := by
  simp only [Nat.isValidChar]
  omega

theorem Written.unique {p p' r r' : List Char} {c c' : Char} (h : Written p c)
    (h' : Written p' c') (e : p ++ r = p' ++ r') : p = p' ∧ c = c' := by
  cases h with
  | plain _ _ hback =>
    cases h' with
    | plain _ _ _ =>
      obtain ⟨rfl, -⟩ := List.cons.inj e
      exact ⟨rfl, rfl⟩
    | letter _ => exact absurd (List.cons.inj e).1 hback
    | unit _ _ => exact absurd (List.cons.inj e).1 hback
    | pair _ _ _ _ => exact absurd (List.cons.inj e).1 hback
  | letter hmem =>
    cases h' with
    | plain _ _ hback' => exact absurd (List.cons.inj e).1.symm hback'
    | letter hmem' =>
      obtain ⟨rfl, -⟩ := List.cons.inj (List.cons.inj e).2
      exact ⟨rfl, letterEscapes_unique hmem hmem'⟩
    | unit _ _ => exact absurd (List.cons.inj (List.cons.inj e).2).1 (letterEscapes_ne_u hmem)
    | pair _ _ _ _ =>
      exact absurd (List.cons.inj (List.cons.inj e).2).1 (letterEscapes_ne_u hmem)
  | unit hunit hvalid =>
    cases h' with
    | plain _ _ hback' => exact absurd (List.cons.inj e).1.symm hback'
    | letter hmem' =>
      exact absurd (List.cons.inj (List.cons.inj e).2).1.symm (letterEscapes_ne_u hmem')
    | unit hunit' _ =>
      obtain ⟨rfl, -, rfl⟩ := hunit.unique hunit' (List.cons.inj (List.cons.inj e).2).2
      exact ⟨rfl, rfl⟩
    | pair hhigh hlt _ _ =>
      simp only [List.cons_append, List.append_assoc, List.cons.injEq, true_and] at e
      exact absurd hvalid (not_valid_surrogate hlt (hunit.unique hhigh e).2.2)
  | pair hhigh hlt hlow _ =>
    cases h' with
    | plain _ _ hback' => exact absurd (List.cons.inj e).1.symm hback'
    | letter hmem' =>
      exact absurd (List.cons.inj (List.cons.inj e).2).1.symm (letterEscapes_ne_u hmem')
    | unit hunit' hvalid' =>
      simp only [List.cons_append, List.append_assoc, List.cons.injEq, true_and] at e
      exact absurd hvalid' (not_valid_surrogate hlt (hunit'.unique hhigh e.symm).2.2)
    | pair hhigh' _ hlow' _ =>
      simp only [List.cons_append, List.append_assoc, List.cons.injEq, true_and] at e
      obtain ⟨rfl, htail, hsame⟩ := hhigh.unique hhigh' e
      simp only [List.cons.injEq, true_and] at htail
      obtain ⟨rfl, -, hsame'⟩ := hlow.unique hlow' htail
      obtain rfl := Nat.add_left_cancel hsame
      obtain rfl := Nat.add_left_cancel hsame'
      exact ⟨rfl, rfl⟩

theorem Characters.unique {s s' r r' cs cs' : List Char} (h : Characters s cs)
    (h' : Characters s' cs') (e : s ++ '"' :: r = s' ++ '"' :: r') : s = s' ∧ cs = cs' := by
  induction h generalizing s' cs' with
  | nil =>
    cases h' with
    | nil => exact ⟨rfl, rfl⟩
    | cons hp _ =>
      obtain ⟨d, t, rfl, hd⟩ := hp.head
      exact absurd (List.cons.inj e).1.symm hd
  | cons hp _ ih =>
    cases h' with
    | nil =>
      obtain ⟨d, t, rfl, hd⟩ := hp.head
      exact absurd (List.cons.inj e).1 hd
    | cons hp' hcs' =>
      simp only [List.append_assoc] at e
      obtain ⟨rfl, rfl⟩ := hp.unique hp' e
      obtain ⟨rfl, rfl⟩ := ih hcs' (List.append_cancel_left e)
      exact ⟨rfl, rfl⟩

theorem Quoted.unique {s s' r r' : List Char} {t t' : String} (h : Quoted s t)
    (h' : Quoted s' t') (e : s ++ r = s' ++ r') : s = s' ∧ t = t' := by
  obtain ⟨hcs⟩ := h
  obtain ⟨hcs'⟩ := h'
  simp only [List.cons_append, List.append_assoc, List.cons.injEq, true_and] at e
  obtain ⟨rfl, hsame⟩ := hcs.unique hcs' e
  exact ⟨rfl, String.toList_inj.1 hsame⟩

/-! ## What stands between brackets -/

/-- What follows a thing between brackets, or a whole text: a comma, a bracket or nothing. -/
abbrev Closes (r : List Char) : Prop := Stops (fun c => c != ',' && c != ']' && c != '\x7d') r

theorem closes_cons {c : Char} {r : List Char} :
    Closes (c :: r) ↔ c = ',' ∨ c = ']' ∨ c = '\x7d' := by
  refine stops_cons.trans ?_
  rw [Bool.and_eq_false_iff, Bool.and_eq_false_iff, bne_eq_false_iff_eq, bne_eq_false_iff_eq,
    bne_eq_false_iff_eq, or_assoc]

theorem Closes.stops_blank {r : List Char} (h : Closes r) : Stops isBlank r := by
  cases r with
  | nil => exact stops_nil
  | cons c r => rcases closes_cons.1 h with rfl | rfl | rfl <;> exact stops_cons.2 (by decide)

theorem not_inNumber_of_isBlank {c : Char} (h : isBlank c = true) : inNumber c = false := by
  simp only [isBlank, Bool.or_eq_true, beq_iff_eq] at h
  rcases h with ((rfl | rfl) | rfl) | rfl <;> decide

theorem Closes.ends {after r : List Char} (hafter : IsBlank after) (h : Closes r) :
    Ends (after ++ r) := by
  cases after with
  | cons c after =>
    exact stops_cons.2 (not_inNumber_of_isBlank (List.all_eq_true.1 hafter c List.mem_cons_self))
  | nil =>
    cases r with
    | nil => exact stops_nil
    | cons c r => rcases closes_cons.1 h with rfl | rfl | rfl <;> exact stops_cons.2 (by decide)

/-- The text begins with neither a blank nor a closing bracket. -/
def Opens (s : List Char) : Prop :=
  ∃ c t, s = c :: t ∧ isBlank c = false ∧ c ≠ ']' ∧ c ≠ '\x7d'

theorem Opens.stops_blank {s : List Char} (h : Opens s) (r : List Char) :
    Stops isBlank (s ++ r) := by
  obtain ⟨c, t, rfl, hc, -⟩ := h
  exact stops_cons.2 hc

section
variable {α β : Type} (text : α → List Char) (read : α → β) (P : α → Prop)

/-- Where its text ends, and what it reads as, can be told from the text that it begins. -/
def Known (a : α) : Prop :=
  ∀ b, P b → ∀ r r', Ends r → Ends r' → text a ++ r = text b ++ r' →
    text a = text b ∧ read a = read b

variable {text read P} {r r' : List Char}

theorem Padded.unique {i j : Padded α} (hi : i.IsOk) (hj : j.IsOk) (hopens : Opens (text i.inner))
    (hopens' : Opens (text j.inner)) (hknown : Known text read P i.inner) (hP : P j.inner)
    (hr : Closes r) (hr' : Closes r') (e : i.whole text ++ r = j.whole text ++ r') :
    i.whole text = j.whole text ∧ read i.inner = read j.inner ∧ r = r' := by
  simp only [whole, List.append_assoc] at e ⊢
  obtain ⟨hbefore, hrest⟩ := Text.run_unique e hi.before hj.before (hopens.stops_blank _)
    (hopens'.stops_blank _)
  obtain ⟨htext, hread⟩ := hknown _ hP _ _ (hr.ends hi.after) (hr'.ends hj.after) hrest
  rw [htext] at hrest
  obtain ⟨hafter, hr⟩ := Text.run_unique (List.append_cancel_left hrest) hi.after hj.after
    hr.stops_blank hr'.stops_blank
  exact ⟨by rw [hbefore, htext, hafter], hread, hr⟩

/-- The items after the first, each after a comma. -/
def following (text : α → List Char) (items : List (Padded α)) : List Char :=
  items.flatMap fun i => ',' :: i.whole text

theorem listed_cons (i : Padded α) (items : List (Padded α)) :
    listed text (i :: items) = i.whole text ++ following text items := by
  induction items generalizing i with
  | nil => simp [listed, following]
  | cons j items ih =>
    rw [listed, List.map_cons, List.map_cons, List.intercalate_cons_cons, ← List.map_cons, ← listed,
      ih j]
    simp [following]

theorem closes_following (items : List (Padded α)) {close : Char}
    (hclose : close = ']' ∨ close = '\x7d') : Closes (following text items ++ close :: r) := by
  cases items with
  | nil => exact closes_cons.2 (.inr hclose)
  | cons i items => exact closes_cons.2 (.inl rfl)

variable {items others : List (Padded α)} {close : Char}

theorem following_unique (hclose : close = ']' ∨ close = '\x7d')
    (hitems : ∀ i ∈ items, i.IsOk ∧ Opens (text i.inner) ∧ Known text read P i.inner)
    (hothers : ∀ j ∈ others, j.IsOk ∧ Opens (text j.inner) ∧ P j.inner)
    (e : following text items ++ close :: r = following text others ++ close :: r') :
    following text items = following text others ∧
      items.map (fun i => read i.inner) = others.map (fun i => read i.inner) := by
  have hcomma : close ≠ ',' := by rcases hclose with rfl | rfl <;> decide
  induction items generalizing others with
  | nil =>
    cases others with
    | nil => exact ⟨rfl, rfl⟩
    | cons j others => exact absurd (List.cons.inj e).1 hcomma
  | cons i items ih =>
    cases others with
    | nil => exact absurd (List.cons.inj e).1.symm hcomma
    | cons j others =>
      simp only [following, List.flatMap_cons, List.cons_append, List.append_assoc,
        List.cons.injEq, true_and] at e
      obtain ⟨hi, hopens, hknown⟩ := hitems i List.mem_cons_self
      obtain ⟨hj, hopens', hP⟩ := hothers j List.mem_cons_self
      obtain ⟨hwhole, hread, hrest⟩ := Padded.unique hi hj hopens hopens' hknown hP
        (closes_following items hclose) (closes_following others hclose) e
      obtain ⟨hfollowing, hreads⟩ := ih (fun i hi => hitems i (List.mem_cons_of_mem _ hi))
        (fun j hj => hothers j (List.mem_cons_of_mem _ hj)) hrest
      simp only [following, List.flatMap_cons, List.map_cons] at hfollowing ⊢
      rw [hwhole, hfollowing, hread, hreads]
      exact ⟨rfl, rfl⟩

theorem listed_unique (hclose : close = ']' ∨ close = '\x7d') (hne : items ≠ [])
    (hne' : others ≠ [])
    (hitems : ∀ i ∈ items, i.IsOk ∧ Opens (text i.inner) ∧ Known text read P i.inner)
    (hothers : ∀ j ∈ others, j.IsOk ∧ Opens (text j.inner) ∧ P j.inner)
    (e : listed text items ++ close :: r = listed text others ++ close :: r') :
    listed text items = listed text others ∧
      items.map (fun i => read i.inner) = others.map (fun i => read i.inner) := by
  obtain ⟨i, items, rfl⟩ := List.exists_cons_of_ne_nil hne
  obtain ⟨j, others, rfl⟩ := List.exists_cons_of_ne_nil hne'
  obtain ⟨hi, hopens, hknown⟩ := hitems i List.mem_cons_self
  obtain ⟨hj, hopens', hP⟩ := hothers j List.mem_cons_self
  simp only [listed_cons, List.append_assoc] at e ⊢
  obtain ⟨hwhole, hread, hrest⟩ := Padded.unique hi hj hopens hopens' hknown hP
    (closes_following items hclose) (closes_following others hclose) e
  obtain ⟨hfollowing, hreads⟩ := following_unique hclose
    (fun i hi => hitems i (List.mem_cons_of_mem _ hi))
    (fun j hj => hothers j (List.mem_cons_of_mem _ hj)) hrest
  rw [hwhole, hfollowing, List.map_cons, List.map_cons, hread, hreads]
  exact ⟨rfl, rfl⟩

/-- An empty list and one with items differ in the first character that is not blank. -/
theorem blank_ne_listed {b : List Char} (hb : IsBlank b) (hclose : close = ']' ∨ close = '\x7d')
    (hne : items ≠ []) (hitems : ∀ i ∈ items, i.IsOk ∧ Opens (text i.inner)) :
    b ++ close :: r ≠ listed text items ++ close :: r' := by
  obtain ⟨i, items, rfl⟩ := List.exists_cons_of_ne_nil hne
  obtain ⟨hi, hopens⟩ := hitems i List.mem_cons_self
  intro e
  simp only [listed_cons, Padded.whole, List.append_assoc] at e
  have hcloses : Closes (close :: r) := closes_cons.2 (.inr hclose)
  obtain ⟨-, hhead⟩ := Text.run_unique e hb hi.before hcloses.stops_blank (hopens.stops_blank _)
  obtain ⟨c, t, htext, -, hbracket, hbrace⟩ := hopens
  rw [htext] at hhead
  rcases hclose with rfl | rfl
  · exact hbracket (List.cons.inj hhead).1.symm
  · exact hbrace (List.cons.inj hhead).1.symm

theorem Inside.unique {s s' : List Char} (h : Inside text items s) (h' : Inside text others s')
    (hclose : close = ']' ∨ close = '\x7d')
    (hitems : ∀ i ∈ items, Opens (text i.inner) ∧ Known text read P i.inner)
    (hothers : ∀ j ∈ others, Opens (text j.inner) ∧ P j.inner)
    (e : s ++ close :: r = s' ++ close :: r') :
    s = s' ∧ items.map (fun i => read i.inner) = others.map (fun i => read i.inner) := by
  have hcloses : ∀ r, Stops isBlank (close :: r) :=
    fun r => Closes.stops_blank (closes_cons.2 (.inr hclose))
  cases h with
  | empty hb =>
    cases h' with
    | empty hb' => exact ⟨(Text.run_unique e hb hb' (hcloses r) (hcloses r')).1, rfl⟩
    | items hne hpad =>
      exact absurd e (blank_ne_listed hb hclose hne fun i hi => ⟨hpad i hi, (hothers i hi).1⟩)
  | items hne hpad =>
    cases h' with
    | empty hb =>
      exact absurd e.symm
        (blank_ne_listed hb hclose hne fun i hi => ⟨hpad i hi, (hitems i hi).1⟩)
    | items hne' hpad' =>
      exact listed_unique hclose hne hne' (fun i hi => ⟨hpad i hi, hitems i hi⟩)
        (fun j hj => ⟨hpad' j hj, hothers j hj⟩) e

end

/-! ## A value is known by its first character -/

/-- The kinds of value that differ in their first character. -/
inductive Kind
  | null
  | bool (b : Bool)
  | number
  | string
  | array
  | object

def Value.kind : Value → Kind
  | .null => .null
  | .bool b => .bool b
  | .number _ => .number
  | .string _ => .string
  | .array _ => .array
  | .object _ => .object

/-- The kind of a value that begins with the character. -/
def Kind.ofFirst (c : Char) : Kind :=
  if c = 'n' then .null
  else if c = 't' then .bool true
  else if c = 'f' then .bool false
  else if c = '"' then .string
  else if c = '[' then .array
  else if c = '\x7b' then .object
  else .number

theorem ne_of_isDigit {c d : Char} (h : Text.isDigit c = true) (hd : Text.isDigit d = false) :
    c ≠ d := by
  rintro rfl
  rw [h] at hd
  contradiction

theorem Number.first {s : List Char} {q : Rat} (h : Number s q) :
    ∃ c t, s = c :: t ∧ Kind.ofFirst c = .number ∧ isBlank c = false ∧ c ≠ ']' ∧ c ≠ '\x7d' := by
  obtain ⟨c, t, rfl, rfl | hc⟩ := h.head
  · exact ⟨'-', t, rfl, rfl, by decide⟩
  · have hne : ∀ {d : Char}, Text.isDigit d = false → c ≠ d := ne_of_isDigit hc
    refine ⟨c, t, rfl, ?_, ?_, hne (by decide), hne (by decide)⟩
    · rw [Kind.ofFirst, if_neg (hne (by decide)), if_neg (hne (by decide)),
        if_neg (hne (by decide)), if_neg (hne (by decide)), if_neg (hne (by decide)),
        if_neg (hne (by decide))]
    · cases hblank : isBlank c with
      | false => rfl
      | true =>
        have hdigit := not_inNumber_of_isBlank hblank
        simp [inNumber, hc] at hdigit

theorem Denotes.first {s : List Char} {v : Value} (h : Denotes s v) :
    ∃ c t, s = c :: t ∧ Kind.ofFirst c = v.kind ∧ isBlank c = false ∧ c ≠ ']' ∧ c ≠ '\x7d' := by
  cases h with
  | number h => exact h.first
  | string h =>
    obtain ⟨_⟩ := h
    exact ⟨_, _, rfl, rfl, by decide⟩
  | null => exact ⟨_, _, rfl, rfl, by decide⟩
  | yes => exact ⟨_, _, rfl, rfl, by decide⟩
  | no => exact ⟨_, _, rfl, rfl, by decide⟩
  | array _ _ => exact ⟨_, _, rfl, rfl, by decide⟩
  | object _ _ _ => exact ⟨_, _, rfl, rfl, by decide⟩

theorem Denotes.opens {s : List Char} {v : Value} (h : Denotes s v) : Opens s := by
  obtain ⟨c, t, hs, -, hc⟩ := h.first
  exact ⟨c, t, hs, hc⟩

theorem Denotes.kind_eq {s s' r r' : List Char} {v v' : Value} (h : Denotes s v)
    (h' : Denotes s' v') (e : s ++ r = s' ++ r') : v.kind = v'.kind := by
  obtain ⟨c, t, rfl, hc, -⟩ := h.first
  obtain ⟨c', t', rfl, hc', -⟩ := h'.first
  rw [← hc, ← hc', (List.cons.inj e).1]

/-! ## Values end where their text ends -/

/-- The text of the part is its value. -/
def Part.IsOk (p : Part) : Prop := Denotes p.text p.value

theorem Quoted.head {s : List Char} {t : String} (h : Quoted s t) : ∃ rest, s = '"' :: rest := by
  obtain ⟨_⟩ := h
  exact ⟨_, rfl⟩

namespace Entry

theorem opens {e : Entry} (h : e.IsOk) : Opens e.text := by
  obtain ⟨rest, hkey⟩ := h.key.head
  exact ⟨'"', _, by rw [text, hkey]; rfl, by decide⟩

theorem known {e : Entry} (h : e.IsOk) (hopens : Opens e.part.text)
    (hknown : Known Part.text Part.value Part.IsOk e.part) :
    Known text member (fun f => f.IsOk ∧ f.part.IsOk) e := by
  rintro f ⟨hf, hpart⟩ r r' hr hr' eq
  simp only [text, List.append_assoc, List.cons_append] at eq ⊢
  have hcolon : ∀ {t : List Char}, Stops isBlank (':' :: t) := stops_cons.2 (by decide)
  obtain ⟨hkey, hname⟩ := h.key.unique hf.key eq
  rw [hkey] at eq
  obtain ⟨hleft, htail⟩ := Text.run_unique (List.append_cancel_left eq) h.left hf.left hcolon hcolon
  obtain ⟨hright, hrest⟩ := Text.run_unique (List.cons.inj htail).2 h.right hf.right
    (hopens.stops_blank _) (hpart.opens.stops_blank _)
  obtain ⟨htext, hvalue⟩ := hknown _ hpart _ _ hr hr' hrest
  exact ⟨by rw [hkey, hleft, hright, htext], by rw [member, member, hname, hvalue]⟩

end Entry

theorem within_brackets {first last : Char} {s s' r r' : List Char}
    (e : (first :: s ++ [last]) ++ r = (first :: s' ++ [last]) ++ r') :
    s ++ last :: r = s' ++ last :: r' := by
  simpa using e

/-- The induction is on the value's text; the other text is of the same kind of value, as both
begin with the same character. -/
theorem Denotes.known {s : List Char} {v : Value} (h : Denotes s v) :
    Known Part.text Part.value Part.IsOk ⟨s, v⟩ := by
  induction h with
  | null =>
    rintro ⟨s', v'⟩ h' r r' - - e
    have hkind := kind_eq .null h' e
    cases (h' : Denotes s' v') with
    | null => exact ⟨rfl, rfl⟩
    | _ => nomatch hkind
  | yes =>
    rintro ⟨s', v'⟩ h' r r' - - e
    have hkind := kind_eq .yes h' e
    cases (h' : Denotes s' v') with
    | yes => exact ⟨rfl, rfl⟩
    | _ => nomatch hkind
  | no =>
    rintro ⟨s', v'⟩ h' r r' - - e
    have hkind := kind_eq .no h' e
    cases (h' : Denotes s' v') with
    | no => exact ⟨rfl, rfl⟩
    | _ => nomatch hkind
  | number h =>
    rintro ⟨s', v'⟩ h' r r' hr hr' e
    have hkind := kind_eq (.number h) h' e
    cases (h' : Denotes s' v') with
    | number h' =>
      obtain ⟨hs, rfl⟩ := h.unique h' hr hr' e
      exact ⟨hs, rfl⟩
    | _ => nomatch hkind
  | string h =>
    rintro ⟨s', v'⟩ h' r r' - - e
    have hkind := kind_eq (.string h) h' e
    cases (h' : Denotes s' v') with
    | string h' =>
      obtain ⟨hs, rfl⟩ := h.unique h' e
      exact ⟨hs, rfl⟩
    | _ => nomatch hkind
  | array hinside hitems ih =>
    rintro ⟨s', v'⟩ h' r r' - - e
    have hkind := kind_eq (.array hinside hitems) h' e
    cases (h' : Denotes s' v') with
    | array hinside' hitems' =>
      obtain ⟨rfl, hvalues⟩ := hinside.unique hinside' (.inl rfl)
        (fun i hi => ⟨(hitems i hi).opens, ih i hi⟩)
        (fun j hj => ⟨(hitems' j hj).opens, hitems' j hj⟩) (within_brackets e)
      exact ⟨rfl, congrArg Value.array hvalues⟩
    | _ => nomatch hkind
  | object hinside hentries hitems ih =>
    rintro ⟨s', v'⟩ h' r r' - - e
    have hkind := kind_eq (.object hinside hentries hitems) h' e
    cases (h' : Denotes s' v') with
    | object hinside' hentries' hitems' =>
      obtain ⟨rfl, hmembers⟩ := hinside.unique hinside' (.inr rfl)
        (fun i hi => ⟨Entry.opens (hentries i hi),
          Entry.known (hentries i hi) (hitems i hi).opens (ih i hi)⟩)
        (fun j hj => ⟨Entry.opens (hentries' j hj), hentries' j hj, hitems' j hj⟩)
        (within_brackets e)
      exact ⟨rfl, congrArg Value.object hmembers⟩
    | _ => nomatch hkind

/-- A text denotes one value at most. -/
theorem Reads.unique {s : String} {v w : Value} (h : Reads s v) (h' : Reads s w) : v = w := by
  obtain ⟨p, hp, hdenotes, hs, rfl⟩ := h
  obtain ⟨p', hp', hdenotes', hs', rfl⟩ := h'
  have e : p.whole Part.text ++ [] = p'.whole Part.text ++ [] := by
    rw [← hs, ← hs']
  exact (Padded.unique hp hp' hdenotes.opens hdenotes'.opens hdenotes.known (P := Part.IsOk)
    hdenotes' stops_nil stops_nil e).2.1

end SourcePrep.Json
