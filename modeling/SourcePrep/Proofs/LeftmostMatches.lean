import SourcePrep.Proofs.DirectiveLines

/-!
# Matches that are the first ones

A linear search finds the first way to match from the leftmost place where there is one. For some
expressions this can be said without looking at ways and slots: a letter is found where it first
occurs, and a literal directive is found where it stands, with its pattern and its template, when
there is no directive elsewhere.

* `Regular.Leads`: where the first way of an expression leads to, with one rule for each form.
  `Leads.search` is what a search finds where nothing can be read before.
* `Matcher.FindsLetter`: the matcher of a letter; `Engine.standard_findsLetter` has it for each
  letter and digit of ASCII.
* `firstMatch_directive`: what is found of a literal directive.
-/

set_option autoImplicit false

namespace SourcePrep

namespace Pattern

namespace Regular

section
variable {subject : Array Char} {e : Regular}

/-- The first way of the expression leads from one place to another, if anything goes on from
there. -/
def Leads (e : Regular) (subject : Array Char) (i : Nat) (slots : Slots) (j : Nat)
    (after : Slots) : Prop :=
  ∀ follow way, follow j after = some way → e.first subject follow i slots = some way

/-- A search finds the first way from a place, if nothing can be read before it. -/
theorem Leads.search (hfree : e.loopFree = true) (hkeys : e.keys.Nodup) {slots after : Slots}
    {n j : Nat} (h : e.Leads subject n slots j after) (hn : n ≤ subject.size)
    (hbefore : ∀ i < n, ∀ cs, e.Accepts subject i cs → ¬ Reads subject i cs) :
    e.search subject slots 0 = some after := by
  have hfirst := h (fun j slots => some (j, slots)) (j, after) rfl
  have hhead : ∀ i, (e.ways subject i slots).head? =
      e.first subject (fun j slots => some (j, slots)) i slots := by
    intro i
    rw [first]
    rcases e.ways subject i slots with - | ⟨way, more⟩ <;> rfl
  obtain ⟨more, hmore⟩ := Nat.exists_eq_add_of_le hn
  have hplaces : List.range (subject.size + 1) =
      List.range n ++ n :: List.range' (n + 1) more := by
    have happend := List.range'_append_1 (s := 0) (m := n) (n := more + 1)
    rw [List.range_eq_range', List.range_eq_range', hmore, Nat.add_assoc, ← happend,
      Nat.zero_add, List.range'_succ]
  rw [search_eq_first hfree hkeys, hplaces]
  have hnone : (List.range n).findSome? (fun i => (e.ways subject i slots).head?) = none := by
    rw [List.findSome?_eq_none_iff]
    intro i hi
    rw [List.head?_eq_none_iff, List.eq_nil_iff_forall_not_mem]
    rintro ⟨k, found⟩ hmem
    obtain ⟨cs, hcs, hreads, -⟩ := (mem_ways hfree).1 ⟨found, hmem⟩
    exact hbefore i (List.mem_range.1 hi) cs hcs hreads
  rw [List.findSome?_append, hnone, Option.none_or, List.findSome?_cons, hhead, hfirst]
  rfl

variable {d : Regular} {i j k : Nat} {slots middle after : Slots}

theorem Leads.check {a : Assertion} (h : a.holds subject i = true) :
    (Regular.check a).Leads subject i slots i slots := by
  intro follow way hway
  simp [first, ways, h, hway]

theorem Leads.one {s : CharSet} {c : Char} (h : Reads subject i [c]) (hc : s.contains c = true) :
    (Regular.one s).Leads subject i slots (i + 1) slots := by
  intro follow way hway
  simp [first, ways, Window.whole_next?_iff.2 h, hc, hway]

theorem Leads.empty : Regular.empty.Leads subject i slots i slots := by
  intro follow way hway
  simp [first, ways, hway]

theorem Leads.seq (hd : d.Leads subject i slots j middle) (he : e.Leads subject j middle k after) :
    (Regular.seq d e).Leads subject i slots k after := by
  intro follow way hway
  rw [first_seq]
  exact hd _ _ (he _ _ hway)

theorem Leads.group {n : Nat} (h : e.Leads subject i (slots.mark (2 * n) i) j after) :
    (Regular.group n e).Leads subject i slots j (after.mark (2 * n + 1) j) := by
  intro follow way hway
  rw [first_group]
  exact h _ _ hway

theorem Leads.optional {key : Nat} (h : e.Leads subject i slots j after) :
    (Regular.optional key true e).Leads subject i slots j after := by
  intro follow way hway
  rw [first_optional, if_pos rfl, h _ _ hway, Option.some_or]

theorem Leads.spell {word : List Char} (h : Reads subject i word)
    (he : e.Leads subject (i + word.length) slots j after) :
    (spell word e).Leads subject i slots j after := by
  induction word generalizing i with
  | nil => exact he
  | cons c word ih =>
    have hletters : Reads subject i ([c] ++ word) := h
    obtain ⟨hc, hword⟩ := hletters.of_append
    rw [List.length_cons, Nat.add_comm word.length, ← Nat.add_assoc] at he
    exact .seq (.one hc (by simp [CharSet.contains])) (ih hword he)

/-- The rest of a line is read to its end. -/
theorem Leads.restOfLine {group key : Nat} {cs : List Char} (hcs : cs ≠ []) (hline : '\n' ∉ cs)
    (h : Reads subject i (cs ++ ['\n'])) :
    (restOfLine group key).Leads subject i slots (i + cs.length)
      ((slots.mark (2 * group) i).mark (2 * group + 1) (i + cs.length)) := by
  obtain ⟨c, cs, rfl⟩ := List.exists_cons_of_ne_nil hcs
  rw [List.mem_cons, not_or] at hline
  have hset : ∀ b : Char, b ≠ '\n' → (CharSet.compl (.char '\n')).contains b = true := by
    intro b hb
    simpa [CharSet.contains] using hb
  have hletters : Reads subject i ([c] ++ (cs ++ ['\n'])) := h
  obtain ⟨hc, rest, hrest⟩ := hletters.of_append
  rw [List.length_singleton] at hrest
  have hlength : runLength subject (.compl (.char '\n')) (i + 1) = cs.length := by
    rw [runLength, ← hrest, List.append_assoc, List.takeWhile_append_of_pos]
    · simp [CharSet.contains]
    · exact fun b hb => hset b fun heq => hline.2 (heq ▸ hb)
  have hrun : (Regular.run key true (.compl (.char '\n'))).Leads subject (i + 1)
      (slots.mark (2 * group) i) (i + 1 + cs.length) (slots.mark (2 * group) i) := by
    intro follow way hway
    rw [first_run, if_pos rfl, hlength, farthest, List.range_succ, List.reverse_append,
      List.reverse_singleton, List.singleton_append, findSome?_cons_or, hway, Option.some_or]
  rw [List.length_cons, Nat.add_comm cs.length, ← Nat.add_assoc]
  exact .group (.seq (.one hc (hset c fun heq => hline.1 heq.symm)) hrun)

end

end Regular

theorem getElem?_mark_self {slots : Slots} {slot place : Nat} (h : slot < slots.size) :
    (slots.mark slot place)[slot]? = some (some place) :=
  Array.getElem?_setIfInBounds_self_of_lt h

theorem getElem?_mark_ne {slots : Slots} {slot other place : Nat} (h : other ≠ slot) :
    (slots.mark other place)[slot]? = slots[slot]? :=
  Array.getElem?_setIfInBounds_ne h

/-- The bounds of a match are where its first group was read. -/
theorem bounds_matchOf {p : Pattern} {s : String} {slots : Slots} {i j : Nat}
    (hstart : slots[0]? = some (some i)) (hstop : slots[1]? = some (some j)) :
    (p.matchOf s (Text.chars s) slots).start = Text.size (String.ofList (s.toList.take i)) ∧
      (p.matchOf s (Text.chars s) slots).stop = Text.size (String.ofList (s.toList.take j)) := by
  have hbounds : groupBounds (Text.chars s) slots 0 =
      some (byteOffset (Text.chars s) i, byteOffset (Text.chars s) j) := by
    simp only [groupBounds, Nat.mul_zero, Nat.zero_add, hstart, hstop]
    rfl
  rw [← byteOffset_chars, ← byteOffset_chars]
  simp only [matchOf, hbounds, Option.getD_some, and_self]

theorem firstMatch_of_search {p : Pattern} {e : Regular} (hp : p.program = .linear e)
    {text : String} {slots : Slots}
    (h : e.search (Text.chars text) p.blankSlots 0 = some slots) :
    p.firstMatch text 0 = .ok (some (p.matchOf text (Text.chars text) slots)) := by
  have hfirst : p.firstMatch text 0 =
      .ok ((e.search (Text.chars text) p.blankSlots 0).map (p.matchOf text (Text.chars text))) := by
    simp only [firstMatch, firstSlots, hp]
    rfl
  rw [hfirst, h]
  rfl

section
variable (front middle back : String)

theorem toList_chars_middle : (Text.chars (front ++ middle ++ back)).toList =
    front.toList ++ (middle.toList ++ back.toList) := by
  simp only [Text.toList_chars, String.toList_append, List.append_assoc]

theorem reads_middle :
    Reads (Text.chars (front ++ middle ++ back)) front.toList.length middle.toList := by
  refine ⟨back.toList, ?_⟩
  rw [toList_chars_middle, List.drop_left]

variable {front middle back}

/-- Where a pattern leads over the middle of a text and stands for nothing before it, its first
match is the middle. -/
theorem firstMatch_middle {p : Pattern} {e : Regular} (hp : p.program = .linear e)
    (hfree : e.loopFree = true) (hkeys : e.keys.Nodup) {slots : Slots} {j : Nat}
    (hleads : e.Leads (Text.chars (front ++ middle ++ back)) front.toList.length p.blankSlots j
      slots)
    (hopen : slots[0]? = some (some front.toList.length))
    (hclose : slots[1]? = some (some (front.toList.length + middle.toList.length)))
    (hbefore : ∀ i < front.toList.length, ∀ cs,
      e.Accepts (Text.chars (front ++ middle ++ back)) i cs →
        ¬ Reads (Text.chars (front ++ middle ++ back)) i cs) :
    let text := front ++ middle ++ back
    let m := p.matchOf text (Text.chars text) slots
    p.firstMatch text 0 = .ok (some m) ∧ m.start = Text.size front ∧
      m.stop = Text.size (front ++ middle) := by
  intro text m
  have hsize : front.toList.length ≤ (Text.chars text).size := by
    rw [← Array.length_toList, toList_chars_middle, List.length_append]
    omega
  have htext : text.toList = front.toList ++ (middle.toList ++ back.toList) := by
    rw [← Text.toList_chars, toList_chars_middle]
  obtain ⟨hstart, hstop⟩ := bounds_matchOf (p := p) (s := text) hopen hclose
  refine ⟨firstMatch_of_search hp (hleads.search hfree hkeys hsize hbefore), hstart.trans ?_,
    hstop.trans ?_⟩
  · rw [htext, List.take_left, String.ofList_toList]
  · rw [htext, List.take_length_add_append, List.take_left, String.ofList_append,
      String.ofList_toList, String.ofList_toList]

end

end Pattern

/-! ## Letters -/

/-- The matcher finds a character where it first occurs. -/
structure Matcher.FindsLetter (find : Matcher) (c : Char) : Prop where
  absent : ∀ text : String, c ∉ text.toList → find text = .ok none
  present : ∀ front back : String, c ∉ front.toList → ∃ m,
    find (front ++ String.singleton c ++ back) = .ok (some m) ∧ m.start = Text.size front ∧
      m.stop = Text.size (front ++ String.singleton c)

namespace Pattern

/-- The expression of a single character. -/
def Regular.letter (c : Char) : Regular := .group 0 (.one (.char c))

/-- A letter or a digit of ASCII is a pattern that stands for itself. -/
theorem compile_letter {c : Char} (h : c.isAlphanum = true) :
    compile (" " ++ String.singleton c) { extended := true } =
      .ok ⟨" " ++ String.singleton c, 0, [], .linear (.letter c)⟩ := by
  have hall : ∀ n : Fin 128, (Char.ofNat n).isAlphanum = true →
      (compile (" " ++ String.singleton (Char.ofNat n)) { extended := true }).toOption.bind
        linear? = some (.letter (Char.ofNat n), 0, []) := by decide +kernel
  have hle : c.val ≤ 'z'.val := by
    rcases Bool.or_eq_true_iff.1 h with hletter | hdigit
    · rcases Bool.or_eq_true_iff.1 hletter with hupper | hlower
      · exact UInt32.le_trans (of_decide_eq_true hupper).2 (by decide)
      · exact of_decide_eq_true (Bool.and_eq_true_iff.1 hlower).2
    · exact UInt32.le_trans (of_decide_eq_true (Bool.and_eq_true_iff.1 hdigit).2) (by decide)
  have hcode : c.toNat < 128 := Nat.lt_of_le_of_lt (UInt32.le_iff_toNat_le.1 hle) (by decide)
  have hc := hall ⟨c.toNat, hcode⟩
  rw [Char.ofNat_toNat] at hc
  exact compile_eq (hc h)

theorem findsLetter {p : Pattern} {c : Char} (hp : p.program = .linear (.letter c)) :
    Matcher.FindsLetter (fun text => p.firstMatch text 0) c where
  absent text htext := by
    refine firstMatch_eq_none hp fun i cs hcs hreads => htext ?_
    obtain ⟨b, rfl, hb⟩ := hcs
    obtain rfl : b = c := by simpa [CharSet.contains] using hb
    obtain ⟨rest, hrest⟩ := hreads
    rw [← Text.toList_chars]
    exact List.mem_of_mem_drop (i := i) (by rw [← hrest]; exact List.mem_cons_self)
  present front back hfront := by
    let text := front ++ String.singleton c ++ back
    have hchars : (Text.chars text).toList = front.toList ++ c :: back.toList := by
      rw [toList_chars_middle, String.toList_singleton, List.singleton_append]
    have hhere : Reads (Text.chars text) front.toList.length [c] := by
      rw [← String.toList_singleton]
      exact reads_middle front (String.singleton c) back
    have hbefore : ∀ i < front.toList.length, ∀ cs,
        (Regular.letter c).Accepts (Text.chars text) i cs → ¬ Reads (Text.chars text) i cs := by
      rintro i hi _ ⟨b, rfl, hb⟩ ⟨rest, hrest⟩
      obtain rfl : b = c := by simpa [CharSet.contains] using hb
      rw [hchars, List.drop_append_of_le_length (by omega)] at hrest
      obtain ⟨x, xs, hdrop⟩ : ∃ x xs, front.toList.drop i = x :: xs :=
        List.exists_cons_of_ne_nil (by simpa using hi)
      rw [hdrop] at hrest
      cases hrest
      exact hfront (List.mem_of_mem_drop (by rw [hdrop]; exact List.mem_cons_self))
    have hleads : (Regular.letter c).Leads (Text.chars text) front.toList.length p.blankSlots
        (front.toList.length + 1)
        ((p.blankSlots.mark 0 front.toList.length).mark 1 (front.toList.length + 1)) :=
      .group (.one hhere (by simp [CharSet.contains]))
    have hslots : 1 < p.blankSlots.size := by
      rw [blankSlots, Array.size_replicate]
      omega
    refine ⟨_, firstMatch_middle hp rfl List.nodup_nil hleads ?_ ?_ hbefore⟩
    · rw [getElem?_mark_ne (by decide), getElem?_mark_self (by omega)]
    · rw [getElem?_mark_self (by rwa [size_mark]), String.toList_singleton, List.length_singleton]

end Pattern

/-- The standard engine finds a letter or a digit where it first occurs. -/
theorem Engine.standard_findsLetter {c : Char} (h : c.isAlphanum = true) :
    ∃ inner, standard.compile (" " ++ String.singleton c) { extended := true } = .ok inner ∧
      Matcher.FindsLetter inner c := by
  refine ⟨_, ?_, Pattern.findsLetter (p := ⟨" " ++ String.singleton c, 0, [], _⟩) rfl⟩
  simp only [standard, Pattern.compile_letter h]
  rfl

/-! ## Literal directives -/

namespace Pattern

section
variable {subject : Array Char} {i : Nat} {pattern template : List Char}

/-- The characters of a literal directive. -/
def directiveChars (pattern template : List Char) : List Char :=
  "replace".toList ++ ("lit".toList ++ (pattern ++ (['\n', '\t'] ++ (template ++ ['\n']))))

theorem length_directiveChars (i : Nat) (pattern template : List Char) :
    i + "replace".toList.length + "lit".toList.length + pattern.length + ['\n', '\t'].length +
      template.length + ['\n'].length = i + (directiveChars pattern template).length := by
  have hsum : ∀ as bs cs ds es fs : List Char,
      i + as.length + bs.length + cs.length + ds.length + es.length + fs.length =
        i + (as ++ (bs ++ (cs ++ (ds ++ (es ++ fs))))).length := by
    intro as bs cs ds es fs
    simp only [List.length_append]
    omega
  exact hsum _ _ _ _ _ _

/-- The letters behind the keyword are not taken for a part of the pattern. -/
theorem Regular.leads_directive (hpattern : pattern ≠ []) (htemplate : template ≠ [])
    (hp : '\n' ∉ pattern) (ht : '\n' ∉ template)
    (hstart : Assertion.lineStart.holds subject i = true)
    (hreads : Reads subject i (directiveChars pattern template)) {slots : Slots}
    (hsize : slots.size = 8) :
    ∃ j after, directive.Leads subject i slots j after ∧ after[0]? = some (some i) ∧
      after[1]? = some (some (i + (directiveChars pattern template).length)) ∧
      Captured subject after 1 "lit".toList ∧ Captured subject after 2 pattern ∧
      Captured subject after 3 template := by
  obtain ⟨hkeyword, hafterKeyword⟩ := hreads.of_append
  obtain ⟨hlit, hafterLit⟩ := hafterKeyword.of_append
  obtain ⟨hrule, hafterRule⟩ := hafterLit.of_append
  obtain ⟨hnewline, hafterNewline⟩ := hafterRule.of_append
  obtain ⟨hbelow, hend⟩ := hafterNewline.of_append
  have hruleLine : Reads subject (i + "replace".toList.length + "lit".toList.length)
      (pattern ++ ['\n']) := by
    have hassoc : pattern ++ (['\n', '\t'] ++ (template ++ ['\n'])) =
        (pattern ++ ['\n']) ++ ('\t' :: (template ++ ['\n'])) := by simp
    rw [hassoc] at hafterLit
    exact hafterLit.of_append.1
  -- the keyword, the letters behind it, the pattern, the start of a line, the template and its end
  refine ⟨_, _, .group (.seq (.check hstart) (.spell hkeyword (.seq
    (.optional (.seq (.group (.spell hlit .empty)) .empty)) (.seq
    (.restOfLine hpattern hp hruleLine) (.spell hnewline (.seq
    (.restOfLine htemplate ht hafterNewline) (.spell hend .empty))))))), ?_, ?_, ?_, ?_, ?_⟩
  · repeat rw [getElem?_mark_ne (by decide)]
    exact getElem?_mark_self (by omega)
  · rw [← length_directiveChars]
    refine getElem?_mark_self ?_
    simp [size_mark, hsize]
  · refine (((((Captured.of_mark ?_ hlit).mark ?_).mark ?_).mark ?_).mark ?_).mark ?_
    all_goals simp [size_mark, hsize]
  · refine (((Captured.of_mark ?_ hrule).mark ?_).mark ?_).mark ?_
    all_goals simp [size_mark, hsize]
  · refine (Captured.of_mark ?_ hbelow).mark ?_
    all_goals simp [size_mark, hsize]

/-- A directive that starts in lines starts and ends there, unless what follows is indented. -/
theorem prefix_of_directive {rule template front rest : List Char} (hr : '\n' ∉ rule)
    (ht : '\n' ∉ template) (hrest : rest.head? ≠ some '\t')
    (h : rule ++ '\n' :: ('\t' :: template) ++ ['\n'] <+: front ++ ['\n'] ++ rest) :
    rule ++ '\n' :: ('\t' :: template) ++ ['\n'] <+: front ++ ['\n'] := by
  rcases List.prefix_or_prefix_of_prefix h (List.prefix_append _ _) with hshort | ⟨tail, htail⟩
  · exact hshort
  · rcases List.eq_nil_or_concat' tail with rfl | ⟨inner, last, rfl⟩
    · rw [List.append_nil] at htail
      exact htail ▸ List.prefix_rfl
    · -- of the newlines of a directive, only the first one is followed by more of it
      have hlines := htail
      rw [← List.append_assoc] at hlines
      have hinner := List.append_inj_left' hlines rfl
      rw [List.append_assoc, List.singleton_append, eq_comm,
        List.append_cons_inj_of_notMem hr (by simpa using ht)] at hinner
      obtain ⟨-, -, rfl⟩ := hinner
      obtain ⟨more, hmore⟩ := h
      rw [← htail, List.append_assoc, List.append_cancel_left_eq] at hmore
      rw [← hmore] at hrest
      exact (hrest rfl).elim

end

end Pattern

/-- The two physical lines of a literal directive. -/
def literalDirective (pattern template : String) : String :=
  "replace" ++ "lit" ++ pattern ++ "\n\t" ++ template ++ "\n"

theorem toList_literalDirective (pattern template : String) :
    (literalDirective pattern template).toList =
      Pattern.directiveChars pattern.toList template.toList := by
  have happend : ∀ a b c d e f : String, (a ++ b ++ c ++ d ++ e ++ f).toList =
      a.toList ++ (b.toList ++ (c.toList ++ (d.toList ++ (e.toList ++ f.toList)))) := by
    intro a b c d e f
    simp only [String.toList_append, List.append_assoc]
  exact happend _ _ _ _ _ _

namespace Pattern

/-- A directive is among the lines before a place where it starts before it, unless a line that is
indented starts there. -/
theorem holdsDirective_of_before {front back : String} {rest cs : List Char} {subject : Array Char}
    {i : Nat} (hfront : front = "" ∨ ∃ lines, front = lines ++ "\n")
    (hchars : subject.toList = front.toList ++ rest) (hrest : rest.head? ≠ some '\t')
    (hi : i < front.toList.length) (h : Regular.directive.Accepts subject i cs)
    (hreads : Reads subject i cs) : Text.holdsDirective (front ++ back) = true := by
  obtain ⟨hline, rule, below, hrule, hbelow, hruleLine, hbelowLine, rfl⟩ :=
    Regular.accepts_directive h
  have hkeyword : '\n' ∉ "replace".toList ++ rule := by
    rw [List.mem_append, not_or]
    exact ⟨by decide, hruleLine⟩
  obtain ⟨line, hfrontLine⟩ : ∃ line, front.toList.drop i = line ++ ['\n'] := by
    rcases hfront with rfl | ⟨above, rfl⟩
    · cases hi
    · rw [String.toList_append, List.length_append] at hi
      have hle : i ≤ above.toList.length := Nat.le_of_lt_succ hi
      rw [String.toList_append, List.drop_append_of_le_length hle]
      exact ⟨_, rfl⟩
  rw [Reads, hchars, List.drop_append_of_le_length hi.le, hfrontLine] at hreads
  obtain ⟨after, hafter⟩ := prefix_of_directive hkeyword hbelowLine hrest hreads
  have htake : subject.toList.take i = front.toList.take i := by
    rw [hchars, List.take_append_of_le_length hi.le]
  have hsize : i ≤ subject.size := by
    rw [← Array.length_toList, hchars, List.length_append]
    omega
  have hbody : (front ++ back).toList = front.toList.take i ++ ("replace".toList ++ rule ++
      '\n' :: ('\t' :: below) ++ '\n' :: (after ++ back.toList)) := by
    calc (front ++ back).toList
        = front.toList.take i ++ front.toList.drop i ++ back.toList := by
          rw [List.take_append_drop, String.toList_append]
      _ = _ := by
          rw [hfrontLine, ← hafter]
          simp only [List.append_assoc, List.cons_append, List.nil_append]
  exact holdsDirective_of_lines hbody (htake ▸ before_of_lineStart hsize hline) hrule hbelow
    hruleLine hbelowLine

/-- A literal directive among lines that hold no directive is found. -/
theorem firstMatch_directive {front back pattern template : String}
    (hfront : front = "" ∨ ∃ lines, front = lines ++ "\n") (hpattern : pattern ≠ "")
    (htemplate : template ≠ "") (hp : '\n' ∉ pattern.toList) (ht : '\n' ∉ template.toList)
    (hbody : Text.holdsDirective (front ++ back) = false) :
    ∃ m, ofReplacement.firstMatch
        (front ++ literalDirective pattern template ++ back) 0 = .ok (some m) ∧
      m.start = Text.size front ∧
      m.stop = Text.size (front ++ literalDirective pattern template) ∧
      m.named? "lit" = some "lit" ∧ m.named? "pattern" = some pattern ∧
      m.named? "template" = some template := by
  let lines := directiveChars pattern.toList template.toList
  let text := front ++ literalDirective pattern template ++ back
  have hlines : (literalDirective pattern template).toList = lines := toList_literalDirective _ _
  have hchars : (Text.chars text).toList = front.toList ++ (lines ++ back.toList) := by
    rw [toList_chars_middle, hlines]
  have hstart : Assertion.lineStart.holds (Text.chars text) front.toList.length = true := by
    rcases hfront with rfl | ⟨above, rfl⟩
    · rfl
    · have hnewline : (Text.chars text)[above.toList.length]? = some '\n' := by
        rw [← Array.getElem?_toList, hchars, String.toList_append]
        simp
      simpa [Assertion.holds] using hnewline
  have hreads : Reads (Text.chars text) front.toList.length lines :=
    hlines ▸ reads_middle front (literalDirective pattern template) back
  have hhead : (lines ++ back.toList).head? ≠ some '\t' := by
    have hkeyword : (lines ++ back.toList).head? = some 'r' := rfl
    rw [hkeyword]
    decide
  have hbefore : ∀ i < front.toList.length, ∀ cs, Regular.directive.Accepts (Text.chars text) i cs →
      ¬ Reads (Text.chars text) i cs := by
    intro i hi cs hcs hread
    rw [holdsDirective_of_before hfront hchars hhead hi hcs hread] at hbody
    cases hbody
  have hslots : ofReplacement.blankSlots.size = 8 := rfl
  obtain ⟨j, slots, hleads, hopen, hclose, hlit, hrule, hbelow⟩ := Regular.leads_directive
    (fun h => hpattern (String.toList_eq_nil_iff.1 h))
    (fun h => htemplate (String.toList_eq_nil_iff.1 h)) hp ht hstart hreads hslots
  obtain ⟨hfirst, hbegin, hend⟩ :=
    firstMatch_middle rfl rfl (by decide) hleads hopen (hlines ▸ hclose) hbefore
  refine ⟨_, hfirst, hbegin, hend, ?_, ?_, ?_⟩
  · exact hlit.named?_matchOf rfl (by decide)
  · rw [hrule.named?_matchOf rfl (by decide), String.ofList_toList]
  · rw [hbelow.named?_matchOf rfl (by decide), String.ofList_toList]

end Pattern

end SourcePrep
