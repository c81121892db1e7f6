import SourcePrep.Inclusion
import SourcePrep.Proofs.CapturedText
import SourcePrep.Proofs.DirectiveShape

/-!
# Lines that set something, and lines that include a file

Without a marker, the directives of the preamble and those of inclusion are each read into one fixed
expression. Blanks may stand between the parts of a line or be left out, a value may hold the sign
that it stands behind, and a path may hold quotes. Still a line can be taken apart in one way only.

* `IsSetting`, `IsInclusion`: the lines, as texts.
* `IsSetting.unique`, `BetweenQuotes.unique`: a line says one thing.
* `Regular.marks_setting`, `Regular.marks_inclusion`: what the expressions stand for.
* `directives_recognize`: the matchers take these lines and no others, and capture what they say.
-/

set_option autoImplicit false

namespace SourcePrep

/-! ## The lines -/

/-- A letter or an underscore. -/
def isNameStart (c : Char) : Bool := ('A' ≤ c && c ≤ 'Z') || ('a' ≤ c && c ≤ 'z') || c == '_'

/-- A letter, a digit or an underscore. -/
def isNameRest (c : Char) : Bool := isNameStart c || ('0' ≤ c && c ≤ '9')

/-- A name: it does not start with a digit. -/
def isName : List Char → Bool
  | [] => false
  | c :: cs => isNameStart c && cs.all isNameRest

/-- Some characters, none of them blank. -/
def isValue (cs : List Char) : Bool := !cs.isEmpty && cs.all fun c => !Text.isBlank c

/-- The line sets a name to a value. -/
def IsSetting (line : String) (setting : String × String) : Prop :=
  isName setting.1.toList = true ∧ isValue setting.2.toList = true ∧
    ∃ a b c d, Text.allBlank a = true ∧ Text.allBlank b = true ∧ Text.allBlank c = true ∧
      Text.allBlank d = true ∧
      line = "config:" ++ a ++ setting.1 ++ b ++ "=" ++ c ++ setting.2 ++ d

/-- The line includes a path. -/
def IsInclusion (line path : String) : Prop :=
  path ≠ "" ∧ ∃ a b, Text.allBlank a = true ∧ Text.allBlank b = true ∧
    line = "include" ++ a ++ "\"" ++ path ++ "\"" ++ b

/-- The text runs from the first to the last quote of a line. -/
def BetweenQuotes (line path : String) : Prop :=
  ∃ front back, '"' ∉ front.toList ∧ '"' ∉ back.toList ∧
    line = front ++ "\"" ++ path ++ "\"" ++ back

/-! ## A line says one thing -/

theorem isNameRest_of_start {c : Char} (h : isNameStart c = true) : isNameRest c = true := by
  rw [isNameRest, h, Bool.true_or]

theorem isBlank_of_name {c : Char} (h : isNameRest c = true) : Text.isBlank c = false := by
  have hcode : 48 ≤ c.toNat ∧ c.toNat ≤ 122 := by
    simp [isNameRest, isNameStart, Char.le_def, UInt32.le_iff_toNat_le] at h
    rcases h with ((h | h) | rfl) | h
    · exact ⟨by omega, by omega⟩
    · exact ⟨by omega, by omega⟩
    · decide
    · exact ⟨by omega, by omega⟩
  simp [Text.isBlank, Text.blankRanges]
  omega

section
variable {cs rest : List Char}

theorem all_of_name (h : isName cs = true) : cs.all isNameRest = true := by
  rcases cs with - | ⟨c, cs⟩
  · rfl
  · obtain ⟨hc, hcs⟩ := Bool.and_eq_true_iff.1 h
    rw [List.all_cons, isNameRest_of_start hc, hcs, Bool.and_self]

/-- Neither a name nor a value starts with a blank. -/
theorem head_of_name (h : isName cs = true) : ∀ c ∈ (cs ++ rest).head?, Text.isBlank c = false := by
  rcases cs with - | ⟨c, cs⟩
  · cases h
  · rintro _ ⟨⟩
    exact isBlank_of_name (isNameRest_of_start (Bool.and_eq_true_iff.1 h).1)

theorem head_of_value (h : isValue cs = true) :
    ∀ c ∈ (cs ++ rest).head?, Text.isBlank c = false := by
  rcases cs with - | ⟨c, cs⟩
  · cases h
  · rintro _ ⟨⟩
    simpa using (List.all_eq_true.1 (Bool.and_eq_true_iff.1 h).2) c List.mem_cons_self

/-- What comes next is a blank, or else what follows the blanks. -/
theorem head_of_blanks {p : Char → Bool} (hcs : cs.all Text.isBlank = true)
    (hp : ∀ c, Text.isBlank c = true → p c = false) (hrest : ∀ c ∈ rest.head?, p c = false) :
    ∀ c ∈ (cs ++ rest).head?, p c = false := by
  rcases cs with - | ⟨c, cs⟩
  · exact hrest
  · rintro _ ⟨⟩
    exact hp c (List.all_eq_true.1 hcs c List.mem_cons_self)

end

/-- The characters set a name to a value. -/
def Sets (cs name value : List Char) : Prop :=
  isName name = true ∧ isValue value = true ∧ ∃ a b c d : List Char, a.all Text.isBlank = true ∧
    b.all Text.isBlank = true ∧ c.all Text.isBlank = true ∧ d.all Text.isBlank = true ∧
    cs = "config:".toList ++ (a ++ (name ++ (b ++ (['='] ++ (c ++ (value ++ d))))))

/-- The characters include a path. -/
def Includes (cs path : List Char) : Prop :=
  path ≠ [] ∧ ∃ a b : List Char, a.all Text.isBlank = true ∧ b.all Text.isBlank = true ∧
    cs = "include".toList ++ (a ++ (['"'] ++ (path ++ (['"'] ++ b))))

theorem isSetting_iff {line : String} {setting : String × String} :
    IsSetting line setting ↔ Sets line.toList setting.1.toList setting.2.toList := by
  refine and_congr_right fun _ => and_congr_right fun _ => ⟨?_, ?_⟩
  · rintro ⟨a, b, c, d, ha, hb, hc, hd, rfl⟩
    exact ⟨a.toList, b.toList, c.toList, d.toList, ha, hb, hc, hd, by simp [String.toList_append]⟩
  · rintro ⟨a, b, c, d, ha, hb, hc, hd, hline⟩
    refine ⟨String.ofList a, String.ofList b, String.ofList c, String.ofList d, ?_⟩
    simp only [Text.allBlank, String.toList_ofList, ← String.toList_inj, String.toList_append,
      List.append_assoc]
    exact ⟨ha, hb, hc, hd, hline⟩

theorem isInclusion_iff {line path : String} :
    IsInclusion line path ↔ Includes line.toList path.toList := by
  refine and_congr (not_congr String.toList_eq_nil_iff.symm) ⟨?_, ?_⟩
  · rintro ⟨a, b, ha, hb, rfl⟩
    exact ⟨a.toList, b.toList, ha, hb, by simp [String.toList_append]⟩
  · rintro ⟨a, b, ha, hb, hline⟩
    refine ⟨String.ofList a, String.ofList b, ?_⟩
    simp only [Text.allBlank, String.toList_ofList, ← String.toList_inj, String.toList_append,
      List.append_assoc]
    exact ⟨ha, hb, hline⟩

theorem IsSetting.unique {line : String} {setting setting' : String × String}
    (h : IsSetting line setting) (h' : IsSetting line setting') : setting = setting' := by
  obtain ⟨hname, hvalue, a, b, c, d, ha, hb, hc, hd, hline⟩ := isSetting_iff.1 h
  obtain ⟨hname', hvalue', a', b', c', d', ha', hb', hc', hd', hline'⟩ := isSetting_iff.1 h'
  have hequals : ∀ {p : Char → Bool} {xs : List Char}, p '=' = false →
      ∀ c ∈ (['='] ++ xs).head?, p c = false := by
    rintro p xs hp _ ⟨⟩
    exact hp
  have hnoName : ∀ c, Text.isBlank c = true → isNameRest c = false := fun c hc =>
    Bool.not_eq_true _ ▸ fun hname => by simp [isBlank_of_name hname] at hc
  have hend : ∀ {xs : List Char}, xs.all Text.isBlank = true →
      ∀ c ∈ xs.head?, (!Text.isBlank c) = false := fun hxs c hc => by
    simpa using List.all_eq_true.1 hxs c (List.mem_of_mem_head? hc)
  -- blanks, the name, blanks and the sign, blanks, the value
  have heq := List.append_cancel_left (hline.symm.trans hline')
  obtain ⟨-, heq⟩ := Text.run_unique heq ha ha' (head_of_name hname) (head_of_name hname')
  obtain ⟨hn, heq⟩ := Text.run_unique heq (all_of_name hname) (all_of_name hname')
    (head_of_blanks hb hnoName (hequals rfl)) (head_of_blanks hb' hnoName (hequals rfl))
  obtain ⟨-, heq⟩ := Text.run_unique heq hb hb' (hequals rfl) (hequals rfl)
  obtain ⟨-, heq⟩ := Text.run_unique (List.append_cancel_left heq) hc hc' (head_of_value hvalue)
    (head_of_value hvalue')
  obtain ⟨hv, -⟩ := Text.run_unique heq (Bool.and_eq_true_iff.1 hvalue).2
    (Bool.and_eq_true_iff.1 hvalue').2 (hend hd) (hend hd')
  exact Prod.ext (String.toList_inj.1 hn) (String.toList_inj.1 hv)

/-- There is no quote before the path and none behind it. -/
theorem IsInclusion.between {line path : String} (h : IsInclusion line path) :
    BetweenQuotes line path := by
  obtain ⟨-, a, b, ha, hb, hline⟩ := h
  have hblank : ∀ {s : String}, Text.allBlank s = true → '"' ∉ s.toList := fun hs hmem => by
    cases List.all_eq_true.1 hs '"' hmem
  refine ⟨"include" ++ a, b, ?_, hblank hb, hline⟩
  rw [String.toList_append, List.mem_append, not_or]
  exact ⟨by decide, hblank ha⟩

theorem BetweenQuotes.unique {line path path' : String} (h : BetweenQuotes line path)
    (h' : BetweenQuotes line path') : path = path' := by
  obtain ⟨front, back, hfront, hback, rfl⟩ := h
  obtain ⟨front', back', hfront', hback', heq⟩ := h'
  have hall : ∀ {cs : List Char}, '"' ∉ cs → (cs.all fun c => c != '"') = true := fun hcs =>
    List.all_eq_true.2 fun c hc => by
      rw [bne_iff_ne]
      rintro rfl
      exact hcs hc
  have hquote : ∀ {cs : List Char}, ∀ c ∈ ('"' :: cs).head?, (c != '"') = false := by
    rintro cs _ ⟨⟩
    rfl
  simp only [← String.toList_inj, String.toList_append, List.append_assoc] at heq
  -- from the left to the first quote, and from the right to the last one
  obtain ⟨-, heq⟩ := Text.run_unique heq (hall hfront) (hall hfront') hquote hquote
  have hrev := congrArg List.reverse (List.append_cancel_left heq)
  simp only [List.reverse_append, List.append_assoc] at hrev
  obtain ⟨-, hrev⟩ := Text.run_unique hrev (by rw [List.all_reverse]; exact hall hback)
    (by rw [List.all_reverse]; exact hall hback') hquote hquote
  exact String.toList_inj.1 (List.reverse_inj.1 (List.append_cancel_left hrev))

/-! ## What the expressions stand for -/

namespace Pattern

theorem contains_nameStart (c : Char) : nameStart.contains c = isNameStart c := by
  simp only [nameStart, CharSet.contains, isNameStart, Bool.false_or]

theorem contains_nameRest (c : Char) : nameRest.contains c = isNameRest c := by
  simp only [nameRest, CharSet.contains, isNameRest, isNameStart, Bool.false_or]
  rw [Bool.or_right_comm]

namespace Regular

section
variable {subject : Array Char} {i : Nat} {cs : List Char} {before after : Slots}

theorem marks_spell {word : List Char} {rest : Regular} :
    (spell word rest).Marks subject i cs before after ↔
      ∃ ds, cs = word ++ ds ∧ rest.Marks subject (i + word.length) ds before after := by
  induction word generalizing i cs with
  | nil => simp [spell]
  | cons c word ih =>
    have hrest : (spell (c :: word) rest).Marks subject i cs before after ↔
        ∃ ds, cs = c :: ds ∧ (spell word rest).Marks subject (i + 1) ds before after := by
      constructor
      · rintro ⟨_, ds, _, rfl, ⟨⟨b, rfl, hb⟩, rfl⟩, hds⟩
        obtain rfl : b = c := by simpa [CharSet.contains] using hb
        exact ⟨ds, rfl, hds⟩
      · rintro ⟨ds, rfl, hds⟩
        exact ⟨[c], ds, before, rfl, ⟨⟨c, rfl, by simp [CharSet.contains]⟩, rfl⟩, hds⟩
    rw [hrest]
    simp only [ih]
    constructor
    · rintro ⟨_, rfl, ds, rfl, hds⟩
      exact ⟨ds, rfl, by rwa [List.length_cons, Nat.add_comm word.length, ← Nat.add_assoc]⟩
    · rintro ⟨ds, rfl, hds⟩
      refine ⟨_, rfl, ds, rfl, ?_⟩
      rwa [List.length_cons, Nat.add_comm word.length, ← Nat.add_assoc] at hds

theorem marks_plus {key : Nat} {s : CharSet} :
    (plus key s).Marks subject i cs before after ↔
      (cs ≠ [] ∧ cs.all s.contains = true) ∧ after = before := by
  constructor
  · rintro ⟨_, bs, _, rfl, ⟨⟨c, rfl, hc⟩, rfl⟩, hbs, rfl⟩
    refine ⟨⟨by simp, ?_⟩, rfl⟩
    rw [List.singleton_append, List.all_cons, hc, List.all_eq_true.2 hbs, Bool.and_self]
  · rintro ⟨⟨hne, hall⟩, rfl⟩
    obtain ⟨c, bs, rfl⟩ := List.exists_cons_of_ne_nil hne
    rw [List.all_cons, Bool.and_eq_true] at hall
    exact ⟨[c], bs, _, rfl, ⟨⟨c, rfl, hall.1⟩, rfl⟩, List.all_eq_true.1 hall.2, rfl⟩

theorem marks_opening {keyword : String} {rest : Regular} :
    (opening keyword rest).Marks subject i cs before after ↔
      Assertion.lineStart.holds subject i = true ∧ ∃ a ds, a.all Text.isBlank = true ∧
        cs = keyword.toList ++ (a ++ ds) ∧
        rest.Marks subject (i + keyword.toList.length + a.length) ds before after := by
  constructor
  · rintro ⟨_, _, _, rfl, ⟨⟨rfl, hstart⟩, rfl⟩, hkeyword⟩
    obtain ⟨_, rfl, a, ds, _, rfl, ⟨ha, rfl⟩, hds⟩ := marks_spell.1 hkeyword
    exact ⟨hstart, a, ds, List.all_eq_true.2 ha, rfl, hds⟩
  · rintro ⟨hstart, a, ds, ha, rfl, hds⟩
    exact ⟨[], _, before, rfl, ⟨⟨rfl, hstart⟩, rfl⟩,
      marks_spell.2 ⟨_, rfl, a, ds, before, rfl, ⟨List.all_eq_true.1 ha, rfl⟩, hds⟩⟩

theorem marks_closing {key : Nat} :
    (closing key).Marks subject i cs before after ↔
      (cs.all Text.isBlank = true ∧ Assertion.lineEnd.holds subject (i + cs.length) = true) ∧
        after = before := by
  constructor
  · rintro ⟨d, _, _, rfl, ⟨hd, rfl⟩, _, _, _, rfl, ⟨⟨rfl, hend⟩, rfl⟩, rfl, rfl⟩
    refine ⟨⟨?_, ?_⟩, rfl⟩
    · rw [List.append_nil, List.append_nil]
      exact List.all_eq_true.2 hd
    · rwa [List.append_nil, List.append_nil]
  · rintro ⟨⟨hd, hend⟩, rfl⟩
    exact ⟨cs, [], _, by simp, ⟨List.all_eq_true.1 hd, rfl⟩, [], [], _, rfl, ⟨⟨rfl, hend⟩, rfl⟩,
      rfl, rfl⟩

theorem marks_name {key : Nat} :
    (Regular.seq (.one nameStart) (.seq (.run key true nameRest) .empty)).Marks subject i cs before
      after ↔ isName cs = true ∧ after = before := by
  constructor
  · rintro ⟨_, _, _, rfl, ⟨⟨c, rfl, hc⟩, rfl⟩, bs, _, _, rfl, ⟨hbs, rfl⟩, rfl, rfl⟩
    refine ⟨?_, rfl⟩
    rw [List.append_nil, List.singleton_append, isName, ← contains_nameStart, hc, Bool.true_and,
      List.all_eq_true]
    exact fun b hb => contains_nameRest b ▸ hbs b hb
  · rintro ⟨hname, rfl⟩
    rcases cs with - | ⟨c, bs⟩
    · cases hname
    · obtain ⟨hc, hbs⟩ := Bool.and_eq_true_iff.1 hname
      refine ⟨[c], bs, _, rfl, ⟨⟨c, rfl, by rwa [contains_nameStart]⟩, rfl⟩, bs, [], _, by simp,
        ⟨fun b hb => ?_, rfl⟩, rfl, rfl⟩
      rw [contains_nameRest]
      exact List.all_eq_true.1 hbs b hb

theorem marks_value {key : Nat} :
    (plus key (.compl .blank)).Marks subject i cs before after ↔
      isValue cs = true ∧ after = before := by
  rw [marks_plus, isValue, Bool.and_eq_true, Bool.not_eq_true', List.isEmpty_eq_false_iff]
  rfl

/-- What the expression takes sets something, with the name and the value as groups. -/
theorem marks_setting (h : setting.Marks subject i cs before after) (hsize : before.size = 6)
    (hreads : Reads subject i cs) :
    Assertion.lineStart.holds subject i = true ∧
      Assertion.lineEnd.holds subject (i + cs.length) = true ∧
      ∃ name value, Sets cs name value ∧ Captured subject after 1 name ∧
        Captured subject after 2 value := by
  obtain ⟨_, hopening, rfl⟩ := h
  obtain ⟨hstart, a, _, ha, rfl, name, _, _, rfl, ⟨_, hgroup, rfl⟩, b, _, _, rfl, ⟨hb, rfl⟩,
    hsign⟩ := marks_opening.1 hopening
  obtain ⟨hname, rfl⟩ := marks_name.1 hgroup
  obtain ⟨_, rfl, c, _, _, rfl, ⟨hc, rfl⟩, value, d, _, rfl, ⟨_, hgroup, rfl⟩, hclosing⟩ :=
    marks_spell.1 hsign
  obtain ⟨hvalue, rfl⟩ := marks_value.1 hgroup
  obtain ⟨⟨hd, hend⟩, rfl⟩ := marks_closing.1 hclosing
  have hreadName := hreads.of_append.2.of_append.2
  have hreadValue := hreadName.of_append.2.of_append.2.of_append.2.of_append.2
  refine ⟨hstart, ?_, name, value, ⟨hname, hvalue, a, b, c, d, ha, List.all_eq_true.2 hb,
    List.all_eq_true.2 hc, hd, rfl⟩, ?_, ?_⟩
  · simpa only [Nat.add_assoc, ← List.length_append, List.append_assoc] using hend
  · refine (((Captured.of_mark ?_ hreadName.of_append.1).mark ?_).mark ?_).mark ?_
    all_goals simp [size_mark, hsize]
  · refine (Captured.of_mark ?_ hreadValue.of_append.1).mark ?_
    all_goals simp [size_mark, hsize]

theorem marks_of_sets {name value : List Char} (before : Slots) (h : Sets cs name value)
    (hstart : Assertion.lineStart.holds subject i = true)
    (hend : Assertion.lineEnd.holds subject (i + cs.length) = true) :
    ∃ after, setting.Marks subject i cs before after := by
  obtain ⟨hname, hvalue, a, b, c, d, ha, hb, hc, hd, rfl⟩ := h
  -- part by part, each with what it notes
  refine ⟨_, _, marks_opening.2 ⟨hstart, a, _, ha, rfl,
    name, _, _, rfl, ⟨_, marks_name.2 ⟨hname, rfl⟩, rfl⟩,
    b, _, _, rfl, ⟨List.all_eq_true.1 hb, rfl⟩, marks_spell.2 ⟨_, rfl,
    c, _, _, rfl, ⟨List.all_eq_true.1 hc, rfl⟩,
    value, d, _, rfl, ⟨_, marks_value.2 ⟨hvalue, rfl⟩, rfl⟩,
    marks_closing.2 ⟨⟨hd, ?_⟩, rfl⟩⟩⟩, rfl⟩
  simpa only [Nat.add_assoc, ← List.length_append, List.append_assoc] using hend

theorem marks_path {key : Nat} :
    (plus key (.compl (.char '\n'))).Marks subject i cs before after ↔
      (cs ≠ [] ∧ '\n' ∉ cs) ∧ after = before := by
  have hall : cs.all (CharSet.compl (.char '\n')).contains = true ↔ '\n' ∉ cs := by
    rw [List.all_eq_true]
    refine ⟨fun h hmem => by simpa [CharSet.contains] using h '\n' hmem, fun h c hc => ?_⟩
    have hne : c ≠ '\n' := fun heq => h (heq ▸ hc)
    simpa [CharSet.contains] using hne
  rw [marks_plus, hall]

/-- What the expression takes includes a path, which is a group. -/
theorem marks_inclusion (h : inclusion.Marks subject i cs before after) (hsize : before.size = 4)
    (hreads : Reads subject i cs) :
    Assertion.lineStart.holds subject i = true ∧
      Assertion.lineEnd.holds subject (i + cs.length) = true ∧
      ∃ path, Includes cs path ∧ Captured subject after 1 path := by
  obtain ⟨_, hopening, rfl⟩ := h
  obtain ⟨hstart, a, _, ha, rfl, hquote⟩ := marks_opening.1 hopening
  obtain ⟨_, rfl, path, _, _, rfl, ⟨_, hgroup, rfl⟩, hquote⟩ := marks_spell.1 hquote
  obtain ⟨⟨hpath, -⟩, rfl⟩ := marks_path.1 hgroup
  obtain ⟨b, rfl, hclosing⟩ := marks_spell.1 hquote
  obtain ⟨⟨hb, hend⟩, rfl⟩ := marks_closing.1 hclosing
  have hreadPath := hreads.of_append.2.of_append.2.of_append.2
  refine ⟨hstart, ?_, path, ⟨hpath, a, b, ha, hb, rfl⟩, ?_⟩
  · simpa only [Nat.add_assoc, ← List.length_append, List.append_assoc] using hend
  · refine (Captured.of_mark ?_ hreadPath.of_append.1).mark ?_
    all_goals simp [size_mark, hsize]

theorem marks_of_includes {path : List Char} (before : Slots) (h : Includes cs path)
    (hline : '\n' ∉ cs) (hstart : Assertion.lineStart.holds subject i = true)
    (hend : Assertion.lineEnd.holds subject (i + cs.length) = true) :
    ∃ after, inclusion.Marks subject i cs before after := by
  obtain ⟨hpath, a, b, ha, hb, rfl⟩ := h
  have hnewline : '\n' ∉ path := fun hmem => hline (by simp [hmem])
  refine ⟨_, _, marks_opening.2 ⟨hstart, a, _, ha, rfl, marks_spell.2 ⟨_, rfl,
    path, _, _, rfl, ⟨_, marks_path.2 ⟨⟨hpath, hnewline⟩, rfl⟩, rfl⟩, marks_spell.2 ⟨b, rfl,
    marks_closing.2 ⟨⟨hb, ?_⟩, rfl⟩⟩⟩⟩, rfl⟩
  simpa only [Nat.add_assoc, ← List.length_append, List.append_assoc] using hend

end

end Regular

/-! ## Physical lines -/

section
variable {line : String} {i : Nat} {cs : List Char}

theorem toList_chars_line (line : String) :
    (Text.chars (line ++ "\n")).toList = line.toList ++ ['\n'] := by
  rw [Text.toList_chars, String.toList_append]
  rfl

/-- Nothing is read at a later start of a line, which is behind the newline. -/
theorem eq_zero_of_lineStart (hline : '\n' ∉ line.toList) (hcs : cs ≠ [])
    (hstart : Assertion.lineStart.holds (Text.chars (line ++ "\n")) i = true)
    (hreads : Reads (Text.chars (line ++ "\n")) i cs) : i = 0 := by
  obtain ⟨rest, hrest⟩ := hreads
  have hi : i < (Text.chars (line ++ "\n")).toList.length := by
    by_contra hi
    rw [List.drop_of_length_le (by omega)] at hrest
    exact hcs (List.append_eq_nil_iff.1 hrest).1
  have hle : i ≤ (Text.chars (line ++ "\n")).size := by
    rw [← Array.length_toList]
    omega
  rcases before_of_lineStart hle hstart with hnone | ⟨front, hfront⟩
  · have hlength := congrArg List.length hnone
    rw [List.length_take_of_le (by omega)] at hlength
    exact hlength
  · have hsplit := (Text.chars (line ++ "\n")).toList.take_append_drop i
    rw [hfront, ← hrest, List.append_assoc, List.singleton_append, toList_chars_line, eq_comm,
      List.append_cons_inj_of_notMem hline (by simp)] at hsplit
    exact (hcs (List.append_eq_nil_iff.1 hsplit.2.2.symm).1).elim

/-- The whole line is read, and then it ends. -/
theorem reads_line (line : String) : Reads (Text.chars (line ++ "\n")) 0 line.toList ∧
    Assertion.lineEnd.holds (Text.chars (line ++ "\n")) (0 + line.toList.length) = true := by
  have hnewline : (Text.chars (line ++ "\n"))[line.toList.length]? = some '\n' := by
    rw [← Array.getElem?_toList, toList_chars_line]
    simp
  refine ⟨⟨['\n'], ?_⟩, ?_⟩
  · rw [List.drop_zero, toList_chars_line]
  · rw [Nat.zero_add]
    simp [Assertion.holds, hnewline]

/-- Blanks up to the end of the line may take the newline as well, but what is before them is in the
line. -/
theorem line_of_closing (hline : '\n' ∉ line.toList) {front d : List Char} {last : Char}
    (hd : d.all Text.isBlank = true) (hfront : front.getLast? = some last) (hlast : last ≠ '\n')
    (hreads : Reads (Text.chars (line ++ "\n")) 0 (front ++ d))
    (hend : Assertion.lineEnd.holds (Text.chars (line ++ "\n")) (0 + (front ++ d).length) = true) :
    ∃ d', d'.all Text.isBlank = true ∧ line.toList = front ++ d' := by
  obtain ⟨rest, hrest⟩ := hreads
  rw [List.drop_zero, toList_chars_line] at hrest
  have hnext : (Text.chars (line ++ "\n"))[0 + (front ++ d).length]? = rest.head? := by
    rw [← Array.getElem?_toList, toList_chars_line, ← hrest, Nat.zero_add,
      List.getElem?_append_right le_rfl, Nat.sub_self, List.head?_eq_getElem?]
  rcases rest with - | ⟨c, rest⟩
  · rw [List.append_nil] at hrest
    rcases List.eq_nil_or_concat' d with rfl | ⟨d', x, rfl⟩
    · rw [List.append_nil] at hrest
      rw [hrest, List.getLast?_concat, Option.some.injEq] at hfront
      exact (hlast hfront.symm).elim
    · rw [← List.append_assoc] at hrest
      rw [List.all_append, Bool.and_eq_true] at hd
      exact ⟨d', hd.1, (List.append_inj_left' hrest rfl).symm⟩
  · have hafter : ((c :: rest).head?.isNone || (c :: rest).head? == some '\n') = true := by
      rw [← hnext]
      exact hend
    obtain rfl : c = '\n' := by simpa using hafter
    have hsplit := (List.append_cons_inj_of_notMem hline (by simp)).1 hrest.symm
    exact ⟨d, hd, hsplit.1⟩

/-- What is taken at the start of the line sets the same as the line. -/
theorem sets_of_closing (hline : '\n' ∉ line.toList) {name value : List Char}
    (h : Sets cs name value) (hreads : Reads (Text.chars (line ++ "\n")) 0 cs)
    (hend : Assertion.lineEnd.holds (Text.chars (line ++ "\n")) (0 + cs.length) = true) :
    Sets line.toList name value := by
  obtain ⟨hname, hvalue, a, b, c, d, ha, hb, hc, hd, rfl⟩ := h
  obtain ⟨hne, hall⟩ := Bool.and_eq_true_iff.1 hvalue
  have hlast := List.getLast?_eq_some_getLast (by simpa using hne : value ≠ [])
  generalize value.getLast _ = last at hlast
  have hlast' : last ≠ '\n' := by
    rintro rfl
    cases List.all_eq_true.1 hall '\n' (List.mem_of_getLast? hlast)
  let front := "config:".toList ++ (a ++ (name ++ (b ++ (['='] ++ (c ++ value)))))
  have hfront : "config:".toList ++ (a ++ (name ++ (b ++ (['='] ++ (c ++ (value ++ d)))))) =
      front ++ d := by
    simp only [front, List.append_assoc]
  rw [hfront] at hreads hend
  have hend' : front.getLast? = some last := by
    simp only [front, List.getLast?_append, hlast, Option.some_or]
  obtain ⟨d', hd', heq⟩ := line_of_closing hline hd hend' hlast' hreads hend
  exact ⟨hname, hvalue, a, b, c, d', ha, hb, hc, hd', by simpa [front] using heq⟩

/-- What is taken at the start of the line includes the same as the line. -/
theorem includes_of_closing (hline : '\n' ∉ line.toList) {path : List Char}
    (h : Includes cs path) (hreads : Reads (Text.chars (line ++ "\n")) 0 cs)
    (hend : Assertion.lineEnd.holds (Text.chars (line ++ "\n")) (0 + cs.length) = true) :
    Includes line.toList path := by
  obtain ⟨hpath, a, b, ha, hb, rfl⟩ := h
  let front := "include".toList ++ (a ++ (['"'] ++ (path ++ ['"'])))
  have hfront : "include".toList ++ (a ++ (['"'] ++ (path ++ (['"'] ++ b)))) = front ++ b := by
    simp only [front, List.append_assoc]
  rw [hfront] at hreads hend
  have hlast : front.getLast? = some '"' := by
    simp only [front, List.getLast?_append, List.getLast?_singleton, Option.some_or]
  obtain ⟨b', hb', heq⟩ := line_of_closing hline hb hlast (by decide) hreads hend
  exact ⟨hpath, a, b', ha, hb', by simpa [front] using heq⟩

end

end Pattern

/-! ## The recognizers -/

/-- The name and the value that a match captured. -/
def Match.setting? (m : Match) : Option (String × String) := do
  return (← m.named? "name", ← m.named? "value")

open Pattern

theorem recognizes_setting :
    Recognizes (fun text => ofSetting.firstMatch text 0) Match.setting? IsSetting := by
  refine recognizes_of_regular rfl rfl (by decide) (fun line setting hline h => ?_) ?_
    fun line setting setting' => IsSetting.unique
  · obtain ⟨hreads, hend⟩ := reads_line line
    obtain ⟨after, hmarks⟩ := Regular.marks_of_sets ofSetting.blankSlots (isSetting_iff.1 h) rfl
      hend
    exact ⟨_, (Regular.accepts_iff_marks rfl _).2 ⟨after, hmarks⟩, hreads⟩
  · intro line i cs after hline hmarks hreads
    obtain ⟨hstart, hend, name, value, hsets, hname, hvalue⟩ :=
      Regular.marks_setting hmarks rfl hreads
    have hcs : cs ≠ [] := by
      obtain ⟨-, -, a, b, c, d, -, -, -, -, rfl⟩ := hsets
      simp
    obtain rfl := eq_zero_of_lineStart hline hcs hstart hreads
    have hsets := sets_of_closing hline hsets hreads hend
    refine ⟨(String.ofList name, String.ofList value), ?_, ?_⟩
    · rw [isSetting_iff, String.toList_ofList, String.toList_ofList]
      exact hsets
    · rw [Match.setting?, hname.named?_matchOf rfl (by decide),
        hvalue.named?_matchOf rfl (by decide)]
      rfl

theorem recognizes_inclusion :
    Recognizes (fun text => ofInclusion.firstMatch text 0) (·.named? "path") IsInclusion := by
  refine recognizes_of_regular rfl rfl (by decide) (fun line path hline h => ?_) ?_
    fun line path path' h h' => h.between.unique h'.between
  · obtain ⟨hreads, hend⟩ := reads_line line
    obtain ⟨after, hmarks⟩ := Regular.marks_of_includes ofInclusion.blankSlots
      (isInclusion_iff.1 h) hline rfl hend
    exact ⟨_, (Regular.accepts_iff_marks rfl _).2 ⟨after, hmarks⟩, hreads⟩
  · intro line i cs after hline hmarks hreads
    obtain ⟨hstart, hend, path, hincludes, hpath⟩ := Regular.marks_inclusion hmarks rfl hreads
    have hcs : cs ≠ [] := by
      obtain ⟨-, a, b, -, -, rfl⟩ := hincludes
      simp
    obtain rfl := eq_zero_of_lineStart hline hcs hstart hreads
    have hincludes := includes_of_closing hline hincludes hreads hend
    refine ⟨String.ofList path, ?_, hpath.named?_matchOf rfl (by decide)⟩
    rw [isInclusion_iff, String.toList_ofList]
    exact hincludes

/-- Without a marker, the directives of the preamble are the lines that set something, and those of
inclusion are the lines that include a path, which runs from the first quote to the last one. -/
theorem directives_recognize {config : Configuration} (hmarker : config.marker = "") :
    (∃ find, Engine.standard.directive config configDirective = .ok find ∧
      Recognizes find Match.setting? IsSetting) ∧
    ∃ find, Engine.standard.directive config includeDirective = .ok find ∧
      Recognizes find (·.named? "path") IsInclusion ∧
      ∀ line path, IsInclusion line path → BetweenQuotes line path := by
  have hsetting := compile_directives ofSetting (by simp [directives])
  have hinclusion := compile_directives ofInclusion (by simp [directives])
  exact ⟨⟨_, Engine.standard_directive_eq hmarker hsetting, recognizes_setting⟩,
    _, Engine.standard_directive_eq hmarker hinclusion, recognizes_inclusion,
    fun _ _ h => h.between⟩

/-- A value with a sign in it, and a path with a quote in it. -/
theorem directives_recognize_quoted :
    ({} : Configuration).marker = "" ∧
      (∃ find m, Engine.standard.directive {} configDirective = .ok find ∧
        find ("config:a==b " ++ "\n") = .ok (some m) ∧ m.setting? = some ("a", "=b")) ∧
      ∃ find m, Engine.standard.directive {} includeDirective = .ok find ∧
        find ("include \"a\" b\"" ++ "\n") = .ok (some m) ∧ m.named? "path" = some "a\" b" := by
  have hset : IsSetting "config:a==b " ("a", "=b") :=
    ⟨by decide, by decide, "", "", "", " ", by decide⟩
  have hinclude : IsInclusion "include \"a\" b\"" "a\" b" := ⟨by decide, " ", "", by decide⟩
  obtain ⟨⟨find, hfind, hsetting⟩, find', hfind', hinclusion, -⟩ :=
    directives_recognize (rfl : ({} : Configuration).marker = "")
  obtain ⟨m, hm, hcaptured⟩ := hsetting.found (by decide) hset
  obtain ⟨m', hm', hcaptured'⟩ := hinclusion.found (by decide) hinclude
  exact ⟨rfl, ⟨find, m, hfind, hm, hcaptured⟩, find', m', hfind', hm', hcaptured'⟩

end SourcePrep
