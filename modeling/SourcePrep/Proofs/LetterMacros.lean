import SourcePrep.Proofs.LeftmostMatches
import SourcePrep.Proofs.PhysicalLines
import SourcePrep.Proofs.TextExpansion

/-!
# Directives that stand for a letter

A literal directive whose pattern is a letter and whose template does not hold that letter is a
plain macro: it replaces the letter everywhere. The text is rewritten one match at a time, and the
rest is searched again after each of them, so this rests on what does not happen. The template is
not indented anew where it starts a line, no remainder comes back, and the budget, which grows with
the text, has room for every letter.

* `Text.replaceChar`: the text with a character replaced everywhere.
* `Rewriting.Replaces`: a directive at work on a text replaces a character. `step_of_first` is one
  step of it, and `settleWithin_replaces` follows by induction on the number of steps that are left.
* `HoldsMacro`: what the engine finds in a document is such a directive, and `expand_of_holdsMacro`
  is the expansion of one.
* `expand_letterMacro`: what this comes to for the standard engine.
-/

set_option autoImplicit false

namespace SourcePrep

/-! ## Replacing a character in a text -/

namespace Text

/-- The text with `new` in place of every occurrence of the character. -/
def replaceChar (c : Char) (new s : String) : String :=
  String.ofList (s.toList.flatMap fun b => if b = c then new.toList else [b])

section
variable {c : Char} {new s : String}

theorem replaceChar_append (c : Char) (new s t : String) :
    replaceChar c new (s ++ t) = replaceChar c new s ++ replaceChar c new t := by
  simp only [replaceChar, String.toList_append, List.flatMap_append, String.ofList_append]

theorem replaceChar_singleton (c : Char) (new : String) :
    replaceChar c new (String.singleton c) = new := by
  simp [replaceChar]

theorem replaceChar_of_notMem (h : c ∉ s.toList) : replaceChar c new s = s := by
  have hsame : ∀ b ∈ s.toList, (if b = c then new.toList else [b]) = [b] := by
    intro b hb
    rw [if_neg]
    rintro rfl
    exact h hb
  rw [replaceChar, List.flatMap_congr hsame, List.flatMap_singleton', String.ofList_toList]

/-- A text is cut at the first occurrence of a character. -/
theorem exists_first (h : c ∈ s.toList) :
    ∃ front back, s = front ++ String.singleton c ++ back ∧ c ∉ front.toList := by
  obtain ⟨front, back, hs, hfront⟩ := List.eq_append_cons_of_mem h
  refine ⟨String.ofList front, String.ofList back, ?_, by rwa [String.toList_ofList]⟩
  rw [← String.toList_inj, hs]
  simp

theorem count_first {front back : String} (h : c ∉ front.toList) :
    (front ++ String.singleton c ++ back).toList.count c = back.toList.count c + 1 := by
  rw [String.toList_append, String.toList_append, List.count_append, List.count_append,
    List.count_eq_zero.2 h, String.toList_singleton, List.count_singleton_self, Nat.zero_add,
    Nat.add_comm]

/-- Each occurrence of a character takes a byte at least. -/
theorem count_le_size (c : Char) (s : String) : s.toList.count c ≤ size s := by
  have hlength := length_le_size_ofList s.toList
  rw [String.ofList_toList] at hlength
  exact List.count_le_length.trans hlength

end

end Text

theorem Matcher.FindsLetter.inBounds {find : Matcher} {c : Char} (h : Matcher.FindsLetter find c) :
    Matcher.InBounds find := by
  intro text m hm
  by_cases hc : c ∈ text.toList
  · obtain ⟨front, back, rfl, hfront⟩ := Text.exists_first hc
    obtain ⟨m', hm', hstart, hstop⟩ := h.present front back hfront
    rw [hm, Except.ok.injEq, Option.some.injEq] at hm'
    subst hm'
    exact ⟨front, _, back, rfl, hstart, hstop⟩
  · rw [h.absent text hc] at hm
    cases hm

/-- A template that can take the place of a character for good: it does not bring the character
back, and it stays as it is at the start of a line. -/
structure LetterTemplate (c : Char) (q : String) : Prop where
  ne_empty : q ≠ ""
  absent : c ∉ q.toList
  line : '\n' ∉ q.toList
  unindented : Text.Unindented q

namespace LetterTemplate

variable {c : Char} {q : String}

theorem count_append (h : LetterTemplate c q) (back : String) :
    (q ++ back).toList.count c = back.toList.count c := by
  rw [String.toList_append, List.count_append, List.count_eq_zero.2 h.absent, Nat.zero_add]

theorem head?_append (h : LetterTemplate c q) (back : String) :
    (q ++ back).toList.head? ≠ some c := by
  obtain ⟨b, cs, hb⟩ := List.exists_cons_of_ne_nil (String.toList_eq_nil_iff.not.2 h.ne_empty)
  have habsent := h.absent
  rw [hb] at habsent
  rw [String.toList_append, hb]
  rintro ⟨⟩
  exact habsent List.mem_cons_self

theorem splitLines_eq (h : LetterTemplate c q) : Text.splitLines q = [q] := by
  rw [Text.splitLines_eq, Text.Splitting.foldl_add_of_notMem #[] "" h.line, Text.Splitting.pieces]
  simp [h.ne_empty]

end LetterTemplate

/-! ## A directive at work on a text -/

namespace Rewriting

section
variable {σ : Type} [Sink σ] {c : Char} {q : String}

theorem indentPieces_template (hq : LetterTemplate c q) (tabwidth : Nat) (startsLine : Bool) :
    (indentPieces tabwidth startsLine (Text.splitLines q) : Reporting σ String) = pure q := by
  have hmeasured : Measured.ofText q = ⟨0, 0, q⟩ := by
    simpa [Text.copies] using Measured.ofText_tabs 0 hq.unindented
  have hpiece : (indentPiece tabwidth startsLine q : Reporting σ String) = pure q := by
    cases startsLine with
    | false => rfl
    | true =>
      have hlevel := Measured.level_of_no_spaces (m := ⟨0, 0, q⟩) rfl tabwidth
      have hround : ((⟨0, 0, q⟩ : Measured).indentation tabwidth).rounding = none := by
        simp [Measured.indentation]
      simp [indentPiece, Line.normalize, Line.normalized, Line.canonical, hmeasured, hround,
        hlevel, Normalized.canonical_eq, Text.copies]
  rw [hq.splitLines_eq, indentPieces, hpiece]
  simp [indentPieces]

/-- The directive at work replaces a character by a template. -/
structure Replaces (r : Rewriting) (c : Char) (q : String) : Prop where
  find : Matcher.FindsLetter r.directive.find c
  literal : r.directive.literal = true
  template : r.directive.template = q

variable {r : Rewriting}

theorem step_of_absent (h : r.Replaces c q) (tabwidth : Nat) (hc : c ∉ r.remainder.toList) :
    (r.step tabwidth : Reporting σ Step) = pure (.ended r.text) := by
  simp only [step, h.find.absent _ hc]

/-- The border moves to the first occurrence. The new remainder has only itself to be compared with,
or nothing at all. -/
theorem step_of_first (h : r.Replaces c q) (hq : LetterTemplate c q) (tabwidth : Nat)
    {front back : String} (hr : r.remainder = front ++ String.singleton c ++ back)
    (hfront : c ∉ front.toList) (hbudget : r.made + 1 ≤ r.budget)
    (hseen : front = "" → r.seen = []) :
    ∃ seen, (r.step tabwidth : Reporting σ Step) = pure (.replaced { r with
      settled := r.settled ++ front, remainder := q ++ back, made := r.made + 1, seen }) := by
  obtain ⟨m, hm, hstart, hstop⟩ := h.find.present front back hfront
  rw [← hr] at hm
  have hne : m.start ≠ m.stop := by
    rw [hstart, hstop, Text.size_append, Text.size, Text.size, String.utf8ByteSize_singleton]
    have := c.utf8Size_pos
    omega
  have hbefore : Text.takeBytes r.remainder m.start = front := by
    rw [hr, hstart, String.append_assoc, Text.takeBytes_append]
  have hafter : Text.dropBytes r.remainder m.stop = back := by
    rw [hr, hstop, Text.dropBytes_append]
  have hnew : r.directive.replacement m = q := by
    rw [Directive.replacement, if_pos h.literal, h.template]
  simp only [step, hm, if_neg hne, hbefore, hafter, hnew, replace, if_neg (Nat.not_lt.2 hbudget),
    indentPieces_template hq, pure_bind]
  by_cases hempty : front = ""
  · refine ⟨(q ++ back) :: r.seen, ?_⟩
    rw [if_neg (not_not.2 hempty), hseen hempty]
    rfl
  · exact ⟨[], by rw [if_pos hempty]⟩

/-- A directive that replaces a character replaces it everywhere. By induction on the number of
steps that are left: there is one for each occurrence, and one more that finds none. -/
theorem settleWithin_replaces (h : r.Replaces c q) (hq : LetterTemplate c q) (tabwidth fuel : Nat)
    (hfuel : r.remainder.toList.count c < fuel)
    (hbudget : r.made + r.remainder.toList.count c ≤ r.budget)
    (hseen : r.remainder.toList.head? = some c → r.seen = []) :
    (r.settleWithin tabwidth fuel : Reporting σ String) =
      pure (r.settled ++ Text.replaceChar c q r.remainder) := by
  induction fuel generalizing r with
  | zero => cases hfuel
  | succ fuel ih =>
    rw [settleWithin]
    by_cases hc : c ∈ r.remainder.toList
    · obtain ⟨front, back, hr, hfront⟩ := Text.exists_first hc
      have hcount : r.remainder.toList.count c = back.toList.count c + 1 := by
        rw [hr, Text.count_first hfront]
      have hstart : front = "" → r.seen = [] := by
        rintro rfl
        exact hseen (by simp [hr])
      obtain ⟨seen, hstep⟩ := step_of_first (σ := σ) h hq tabwidth hr hfront (by omega) hstart
      have hcount' := hq.count_append back
      have hrest := ih (r := { r with
          settled := r.settled ++ front, remainder := q ++ back, made := r.made + 1, seen })
        ⟨h.find, h.literal, h.template⟩ (by simp only [hcount']; omega)
        (by simp only [hcount']; omega) fun hhead => (hq.head?_append back hhead).elim
      rw [hstep, pure_bind]
      refine hrest.trans ?_
      rw [hr, Text.replaceChar_append, Text.replaceChar_append, Text.replaceChar_append,
        Text.replaceChar_singleton, Text.replaceChar_of_notMem hfront,
        Text.replaceChar_of_notMem hq.absent]
      simp only [String.append_assoc]
    · rw [step_of_absent h tabwidth hc, pure_bind, Text.replaceChar_of_notMem hc]
      rfl

/-- What is taken out of a text that has lines to take it from. -/
theorem takeOut_found {engine : Engine} (limits : Limits) {front lines back : String}
    (hlines : lines ≠ "") {m : Match} (hstart : m.start = Text.size front)
    (hstop : m.stop = Text.size (front ++ lines)) {inner : Matcher}
    (hinner : engine.compile ((m.named? "pattern").getD "") { extended := true } = .ok inner) :
    (takeOut engine limits (front ++ lines ++ back) m : Reporting σ Scan) = pure (.found
      { directive :=
          { find := inner, position := .nowhere
            template := (m.named? "template").getD ""
            literal := (m.named? "lit").isSome }
        settled := "", remainder := front ++ back
        made := 0, budget := limits.substitutionsIn (front ++ back), seen := [] }) := by
  have htext : front ++ lines ++ back ≠ "" := by
    simp [hlines]
  have hrest : Text.takeBytes (front ++ lines ++ back) m.start ++
      Text.dropBytes (front ++ lines ++ back) m.stop = front ++ back := by
    rw [hstop, Text.dropBytes_append, hstart, String.append_assoc, Text.takeBytes_append]
  simp only [takeOut, if_neg htext, hrest, hinner]

end

end Rewriting

/-! ## A directive at work on a document -/

section
variable {σ : Type} [Sink σ]

/-- A run that goes like one that reports nothing reports nothing, and the results correspond. -/
theorem Alike.pure_right {α β : Type} {F : Prop} {R : α → β → Prop} {x : Reporting σ α} {b : β}
    (h : Alike (.textual F) R x (Pure.pure b : Reporting Collector β)) :
    ∃ a, R a b ∧ x = Pure.pure a := by
  obtain ⟨⟨ds, u⟩, ⟨es, v⟩, rfl, hplay, hr, he⟩ := h
  obtain ⟨-, hes⟩ := Echo.all_mild hr
  have hscript : (⟨es, v⟩ : Script β) = ⟨[], .ok b⟩ := by
    refine Script.eq_of_play_plain hes (by simp) ?_
    rw [← hplay]
    rfl
  cases hscript
  cases hr
  cases he with
  | ok hab => exact ⟨_, hab, rfl⟩

theorem Represents.settle_replaces {config : Configuration} {r : Substitution} {t : Rewriting}
    {c : Char} {q : String} (h : Represents config r t) (ht : t.Replaces c q)
    (hq : LetterTemplate c q) (hbudget : t.made + t.remainder.toList.count c ≤ t.budget)
    (hseen : t.seen = []) :
    ∃ e, (e.WellFormed ∧ e.config = config ∧
      e.text = t.settled ++ Text.replaceChar c q t.remainder) ∧
      (r.settle : Reporting σ (Document Normalized)) = pure e := by
  have hrun := t.settleWithin_replaces (σ := Collector) ht hq config.tabwidth
    (t.budget + 1 - t.made) (by omega) hbudget fun _ => hseen
  have halike := h.settleWithin_alike (σ := σ) (τ := Collector) (F := False)
    (t.budget + 1 - t.made)
  rw [hrun] at halike
  rw [Substitution.settle, h.budget, h.made]
  exact halike.pure_right

end

/-! ## The whole expansion -/

/-- What the engine first finds in the document is a literal directive for a character, the body is
the text without the lines of the directive, and nothing is found in the body once the character is
replaced. -/
inductive HoldsMacro (engine : Engine) (d : Document Normalized) (c : Char) (q body : String) : Prop
  | intro {find : Matcher} {m : Match} {front lines back : String}
    (matcher : engine.directive d.config replaceDirective = .ok find)
    (text : d.text = front ++ lines ++ back) (nonempty : lines ≠ "")
    (found : find d.text = .ok (some m)) (start : m.start = Text.size front)
    (stop : m.stop = Text.size (front ++ lines)) (literal : m.named? "lit" = some "lit")
    (pattern : m.named? "pattern" = some (" " ++ String.singleton c))
    (template : m.named? "template" = some q) (rest : body = front ++ back)
    (last : find (Text.replaceChar c q body) = .ok none)

section
variable {σ : Type} [Sink σ] {engine : Engine} {d : Document Normalized} {c : Char}
  {q body : String}

theorem HoldsMacro.scan (h : HoldsMacro engine d c q body) (limits : Limits) (hd : d.WellFormed)
    {inner : Matcher}
    (hinner : engine.compile (" " ++ String.singleton c) { extended := true } = .ok inner)
    (hletter : Matcher.FindsLetter inner c) :
    ∃ r t, (Expansion.scan engine limits d : Reporting σ Expansion.Scan) = pure (.found r) ∧
      Represents d.config r t ∧ t.Replaces c q ∧ t.settled = "" ∧ t.remainder = body ∧
      t.made = 0 ∧ t.budget = limits.substitutionsIn body ∧ t.seen = [] := by
  obtain @⟨find, m, front, lines, back, matcher, text, nonempty, found, start, stop, literal,
    pattern, template, rfl, -⟩ := h
  have hpattern : (m.named? "pattern").getD "" = " " ++ String.singleton c := by
    rw [pattern, Option.getD_some]
  rw [← hpattern] at hinner
  have halike := takeOut_alike (σ := σ) (τ := Collector) (F := False) limits hd
    ⟨front, lines, back, text, start, stop⟩
    (fun other hother => by
      rw [hinner, Except.ok.injEq] at hother
      exact hother ▸ hletter.inBounds)
    (fun hempty => by simp [text, nonempty] at hempty)
  rw [text, Rewriting.takeOut_found limits nonempty start stop hinner, ← text] at halike
  obtain ⟨scan, hsame, hscan⟩ := halike.pure_right
  cases hsame with
  | found h =>
    refine ⟨_, _, ?_, h, ⟨hletter, ?_, ?_⟩, rfl, rfl, rfl, rfl, rfl⟩
    · simp only [Expansion.scan, matcher, found]
      exact hscan
    · simp [literal]
    · simp [template]

/-- A text that fits into memory does not hold a character more often than the default limits allow
to replace it. -/
theorem count_le_substitutionsIn (hsize : Text.size body ≤ Text.maxWord) (c : Char) :
    body.toList.count c ≤ ({} : Limits).substitutionsIn body := by
  have hcount := Text.count_le_size c body
  simp only [Limits.substitutionsIn, Option.getD_none]
  omega

/-- By the default limits, a directive that replaces a character replaces it in the whole body, and
nothing is reported. -/
theorem expand_of_holdsMacro (h : HoldsMacro engine d c q body) (hd : d.WellFormed)
    (hq : LetterTemplate c q) (hsize : Text.size body ≤ Text.maxWord) {inner : Matcher}
    (hinner : engine.compile (" " ++ String.singleton c) { extended := true } = .ok inner)
    (hletter : Matcher.FindsLetter inner c) :
    ∃ out, out.text = Text.replaceChar c q body ∧
      (expand engine {} d : Reporting σ (Document Normalized)) = pure out := by
  obtain ⟨r, t, hscan, hrt, ht, hsettled, hremainder, hmade, hbudget, hseen⟩ :=
    h.scan (σ := σ) {} hd hinner hletter
  have hroom : t.made + t.remainder.toList.count c ≤ t.budget := by
    rw [hmade, hremainder, hbudget, Nat.zero_add]
    exact count_le_substitutionsIn hsize c
  obtain ⟨e, ⟨-, hconfig, htext⟩, hsettle⟩ := hrt.settle_replaces (σ := σ) ht hq hroom hseen
  rw [hsettled, hremainder, String.empty_append] at htext
  have hlast : (Expansion.scan engine {} e : Reporting σ Expansion.Scan) = pure .finished := by
    cases h with
    | intro matcher _ _ _ _ _ _ _ _ _ last =>
      rw [← hconfig] at matcher
      rw [← htext] at last
      simp only [Expansion.scan, matcher, last]
  obtain ⟨left, hleft⟩ : ∃ left, ({} : Limits).directivesIn d = left + 2 := by
    refine ⟨({} : Limits).directivesIn d - 2, ?_⟩
    simp only [Limits.directivesIn, Option.getD_none]
    omega
  refine ⟨e, htext, ?_⟩
  simp only [expand]
  rw [hleft, Expansion.expandWithin, hscan, pure_bind]
  simp only
  rw [hsettle, pure_bind, Expansion.expandWithin, hlast, pure_bind]

end

/-- The lines of a literal directive for a character. -/
def letterDirective (c : Char) (q : String) : String :=
  literalDirective (" " ++ String.singleton c) q

/-- The document is made of a body and of the lines of a literal directive for a character, and
there is no other directive, neither now nor once the character is replaced in the body. Behind a
marker a directive is what the engine finds there. -/
inductive LetterMacro (d : Document Normalized) (c : Char) (q body : String) : Prop
  | unmarked (hmarker : d.config.marker = "") {front back : String}
    (hfront : front = "" ∨ ∃ lines, front = lines ++ "\n")
    (htext : d.text = front ++ letterDirective c q ++ back) (hbody : body = front ++ back)
    (hnone : Text.holdsDirective body = false)
    (hlast : Text.holdsDirective (Text.replaceChar c q body) = false)
  | marked (h : HoldsMacro Engine.standard d c q body)

theorem LetterMacro.holdsMacro {d : Document Normalized} {c : Char} {q body : String}
    (h : LetterMacro d c q body) (hc : c.isAlphanum = true) (hq : LetterTemplate c q) :
    HoldsMacro Engine.standard d c q body := by
  cases h with
  | marked h => exact h
  | @unmarked hmarker front back hfront htext hbody hnone hlast =>
    subst hbody
    have hpattern : " " ++ String.singleton c ≠ "" := by simp
    have hline : '\n' ∉ (" " ++ String.singleton c).toList := by
      have hne : c ≠ '\n' := by
        rintro rfl
        cases hc
      simp [hne.symm]
    obtain ⟨m, hm, hstart, hstop, hlit, hsource, htemplate⟩ := Pattern.firstMatch_directive hfront
      hpattern hq.ne_empty hline hq.line hnone
    have hmatcher := Engine.standard_directive_eq hmarker
      (Pattern.compile_directives Pattern.ofReplacement (by simp [Pattern.directives]))
    refine ⟨hmatcher, htext, ?_, htext ▸ hm, hstart, hstop, hlit, hsource, htemplate, rfl, ?_⟩
    · simp [letterDirective, literalDirective]
    · refine Pattern.firstMatch_eq_none rfl fun i cs hcs hreads => ?_
      rw [Pattern.holdsDirective_of_accepts hcs hreads] at hlast
      cases hlast

theorem HoldsMacro.size_le {engine : Engine} {d : Document Normalized} {c : Char} {q body : String}
    (h : HoldsMacro engine d c q body) : Text.size body ≤ Text.size d.text := by
  cases h with
  | intro _ text _ _ _ _ _ _ _ rest _ =>
    rw [text, rest]
    simp only [Text.size_append]
    omega

/-- A literal directive whose pattern is a letter or a digit replaces it everywhere, before and
behind its lines, and nothing is reported. The size of a text is a machine word, so the default
limits allow for every letter of it. -/
theorem expand_letterMacro {d : Document Normalized} (hd : d.WellFormed) {c : Char}
    (hc : c.isAlphanum = true) {q body : String} (hq : LetterTemplate c q)
    (hheld : LetterMacro d c q body) (hsize : Text.size d.text ≤ Text.maxWord) {σ : Type}
    [Sink σ] (s : σ) :
    ∃ out, expand Engine.standard {} d s = (.ok out, s) ∧
      out.text = Text.replaceChar c q body := by
  have hholds := hheld.holdsMacro hc hq
  obtain ⟨inner, hinner, hletter⟩ := Engine.standard_findsLetter hc
  obtain ⟨out, htext, hrun⟩ := expand_of_holdsMacro (σ := σ) hholds hd hq
    (hholds.size_le.trans hsize) hinner hletter
  exact ⟨out, by rw [hrun]; rfl, htext⟩

/-- A literal directive between a line and an indented one, behind a marker. -/
def letterLines (marker : String) : Document Normalized :=
  .ofLines [⟨⟨⟨"a"⟩, 1⟩, ⟨0, "ab\n"⟩⟩, ⟨⟨⟨"a"⟩, 2⟩, ⟨0, marker ++ "replacelit b\n"⟩⟩,
    ⟨⟨⟨"a"⟩, 3⟩, ⟨1, "xy\n"⟩⟩, ⟨⟨⟨"a"⟩, 4⟩, ⟨1, "bbc\n"⟩⟩] { markerValue := some marker }

/-- The lines are found behind a marker that the pattern of directives does not have by itself. -/
theorem letterMacro_marked : LetterMacro (letterLines "%") 'b' "xy" ("ab\n" ++ "\tbbc\n") := by
  have hfound : ((Engine.standard.directive (letterLines "%").config replaceDirective).toOption.any
      fun find =>
        ((find (letterLines "%").text).toOption.join.any fun m =>
          m.start = 3 && m.stop = 21 && m.named? "lit" = some "lit" &&
            m.named? "pattern" = some " b" && m.named? "template" = some "xy") &&
        (find "axy\n\txyxyc\n").toOption.any Option.isNone) = true := by
    decide +kernel
  obtain ⟨find, hmatcher, hfind⟩ := (Option.any_eq_true _ _).1 hfound
  simp only [Bool.and_eq_true, Option.any_eq_true, Option.join_eq_some_iff,
    decide_eq_true_eq] at hfind
  obtain ⟨⟨m, hm, ⟨⟨⟨hstart, hstop⟩, hlit⟩, hpattern⟩, htemplate⟩, answer, hanswer, hnone⟩ := hfind
  rw [Option.isNone_iff_eq_none.1 hnone] at hanswer
  have htext : (letterLines "%").text = "ab\n" ++ "%replacelit b\n\txy\n" ++ "\tbbc\n" := by
    decide
  have hlast : Text.replaceChar 'b' "xy" ("ab\n" ++ "\tbbc\n") = "axy\n\txyxyc\n" := by
    decide
  exact .marked ⟨Except.eq_ok_of_toOption hmatcher, htext, by decide,
    Except.eq_ok_of_toOption hm, hstart, hstop, hlit, hpattern, htemplate, rfl,
    hlast ▸ Except.eq_ok_of_toOption hanswer⟩

theorem letterMacro_unmarked : LetterMacro (letterLines "") 'b' "xy" ("ab\n" ++ "\tbbc\n") :=
  .unmarked rfl (.inr ⟨"ab", by decide⟩) (by decide) rfl (by decide)
    (by decide)

/-- The letter is replaced above the directive and below it, at the start of a line and next to
itself, behind a marker or without one. -/
theorem expand_letterMacro_letterLines :
    'b'.isAlphanum = true ∧ LetterTemplate 'b' "xy" ∧
    ((letterLines "").WellFormed ∧ Text.size (letterLines "").text ≤ Text.maxWord ∧
      LetterMacro (letterLines "") 'b' "xy" ("ab\n" ++ "\tbbc\n") ∧
      ∃ out, expand Engine.standard {} (letterLines "") (Collector.plain []) =
        (.ok out, Collector.plain []) ∧ out.text = "axy\n\txyxyc\n") ∧
    (letterLines "%").WellFormed ∧ Text.size (letterLines "%").text ≤ Text.maxWord ∧
      LetterMacro (letterLines "%") 'b' "xy" ("ab\n" ++ "\tbbc\n") ∧
      ∃ out, expand Engine.standard {} (letterLines "%") (Collector.plain []) =
        (.ok out, Collector.plain []) ∧ out.text = "axy\n\txyxyc\n" := by
  have hletter : 'b'.isAlphanum = true := by decide
  have htemplate : LetterTemplate 'b' "xy" := by
    refine ⟨by decide, by decide, by decide, fun c cs h => ?_⟩
    cases (h : ['x', 'y'] = c :: cs)
    rfl
  have hwell : ∀ marker, (letterLines marker).WellFormed := fun _ => Document.wellFormed_ofLines _ _
  have hunmarked : Text.size (letterLines "").text ≤ Text.maxWord := by decide
  have hmarked : Text.size (letterLines "%").text ≤ Text.maxWord := by decide
  have hbody : Text.replaceChar 'b' "xy" ("ab\n" ++ "\tbbc\n") = "axy\n\txyxyc\n" := by
    decide
  rw [← hbody]
  exact ⟨hletter, htemplate,
    ⟨hwell _, hunmarked, letterMacro_unmarked,
      expand_letterMacro (hwell _) hletter htemplate letterMacro_unmarked hunmarked _⟩,
    hwell _, hmarked, letterMacro_marked,
      expand_letterMacro (hwell _) hletter htemplate letterMacro_marked hmarked _⟩

end SourcePrep
