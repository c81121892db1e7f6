import SourcePrep.Proofs.ExpansionLoop
import SourcePrep.Proofs.PreparedPatterns
import SourcePrep.Proofs.RegularMatching
import SourcePrep.Proofs.Script
import Mathlib.Data.List.Infix

/-!
# What a directive looks like

Without a marker, the pattern of directives is one fixed pattern, and the standard engine reads it
into one fixed expression (`Regular.directive`). What this expression accepts takes up two physical
lines: the first one starts with `replace` and goes on, the second one starts with a tab and goes
on.

* `Text.holdsDirective`: two such lines stand one below the other in a text.
* `holdsDirective_of_accepts`: what the pattern of directives finds are two such lines.
* `expand_of_no_directive`: a text without them is left alone, and nothing is reported.

What follows the keyword need not be set off from it, so a word that starts with `replace` makes a
line look like a directive.
-/

set_option autoImplicit false

namespace SourcePrep

/-! ## Two physical lines -/

/-- The two physical lines make a directive: the keyword and something more, and a tab and something
more. -/
def looksLikeDirective (rule template : List Char) : Bool :=
  "replace".toList.isPrefixOf rule && "replace".length < rule.length &&
    ['\t'].isPrefixOf template && 1 < template.length

/-- Two physical lines in a row make a directive, and the second of them is ended by a newline. -/
def Text.holdsDirective (s : String) : Bool :=
  (s.toList.splitOn '\n').tails.any fun
    | rule :: template :: _ :: _ => looksLikeDirective rule template
    | _ => false

theorem looksLikeDirective_append {pattern template : List Char} (hpattern : pattern ≠ [])
    (htemplate : template ≠ []) :
    looksLikeDirective ("replace".toList ++ pattern) ('\t' :: template) = true := by
  have hpos : 0 < pattern.length := List.length_pos_iff.2 hpattern
  have htpos : 0 < template.length := List.length_pos_iff.2 htemplate
  have hrule : "replace".length < ("replace".toList ++ pattern).length := by
    rw [List.length_append, String.length_toList]
    omega
  rw [looksLikeDirective, Bool.and_eq_true, Bool.and_eq_true, Bool.and_eq_true, decide_eq_true_eq,
    decide_eq_true_eq, List.isPrefixOf_iff_prefix, List.isPrefixOf_iff_prefix, List.length_cons]
  exact ⟨⟨⟨List.prefix_append _ _, hrule⟩, List.prefix_append ['\t'] template⟩, by omega⟩

/-- A directive at the start of a physical line, in the characters of a text. -/
theorem holdsDirective_of_lines {s : String} {before pattern template after : List Char}
    (htext : s.toList =
      before ++ ("replace".toList ++ pattern ++ '\n' :: ('\t' :: template) ++ '\n' :: after))
    (hstart : before = [] ∨ ∃ front, before = front ++ ['\n']) (hpattern : pattern ≠ [])
    (htemplate : template ≠ []) (hp : '\n' ∉ pattern) (ht : '\n' ∉ template) :
    Text.holdsDirective s = true := by
  have hrule : '\n' ∉ "replace".toList ++ pattern := by
    rw [List.mem_append, not_or]
    exact ⟨by decide, hp⟩
  have htab : '\n' ∉ '\t' :: template := by simpa using ht
  obtain ⟨last, rest, hafter⟩ := List.exists_cons_of_ne_nil (List.splitOn_ne_nil '\n' after)
  have hlines : ("replace".toList ++ pattern ++ '\n' :: ('\t' :: template) ++ '\n' :: after).splitOn
      '\n' = ("replace".toList ++ pattern) :: ('\t' :: template) :: last :: rest := by
    rw [List.append_assoc, List.cons_append, List.splitOn_append_cons_self_of_not_mem hrule,
      List.splitOn_append_cons_self_of_not_mem htab, hafter]
  have hsuffix : (("replace".toList ++ pattern) :: ('\t' :: template) :: last :: rest) <:+
      s.toList.splitOn '\n' := by
    rw [← hlines, htext]
    rcases hstart with rfl | ⟨front, rfl⟩
    · exact List.suffix_rfl
    · rw [List.append_assoc front, List.singleton_append, List.splitOn_append_cons_self front]
      exact List.suffix_append _ _
  refine List.any_eq_true.2 ⟨_, (List.mem_tails _ _).2 hsuffix, ?_⟩
  exact looksLikeDirective_append hpattern htemplate

/-! ## The pattern of directives -/

namespace Pattern

/-- What is in no part of a text is not found in it. -/
theorem firstMatch_eq_none {p : Pattern} {e : Regular} (hp : p.program = .linear e) {text : String}
    (h : ∀ i cs, e.Accepts (Text.chars text) i cs → ¬ Reads (Text.chars text) i cs) :
    p.firstMatch text 0 = .ok none := by
  have hsearch : ∀ slots i, e.search (Text.chars text) slots i = none := by
    intro slots i
    rw [Option.eq_none_iff_forall_ne_some]
    intro found hfound
    obtain ⟨j, cs, hcs, hreads⟩ := Regular.search_found hfound
    exact h j cs hcs hreads
  simp only [firstMatch, firstSlots, hp, hsearch]
  rfl

namespace Regular

variable {subject : Array Char} {i : Nat} {cs : List Char}

theorem accepts_spell {word : List Char} {rest : Regular}
    (h : (spell word rest).Accepts subject i cs) :
    ∃ ds, cs = word ++ ds ∧ rest.Accepts subject (i + word.length) ds := by
  induction word generalizing i cs with
  | nil => exact ⟨cs, rfl, h⟩
  | cons c word ih =>
    obtain ⟨as, bs, rfl, ⟨b, rfl, hb⟩, hbs⟩ := h
    obtain rfl : b = c := by simpa [CharSet.contains] using hb
    obtain ⟨ds, rfl, hds⟩ := ih hbs
    refine ⟨ds, rfl, ?_⟩
    rwa [List.length_cons, Nat.add_comm word.length, ← Nat.add_assoc]

theorem accepts_restOfLine {group key : Nat} (h : (restOfLine group key).Accepts subject i cs) :
    cs ≠ [] ∧ '\n' ∉ cs := by
  obtain ⟨as, bs, rfl, ⟨c, rfl, hc⟩, hbs⟩ := h
  refine ⟨by simp, ?_⟩
  have hc' : c ≠ '\n' := by simpa [CharSet.contains] using hc
  have hbs' : '\n' ∉ bs := by
    intro hmem
    simpa [CharSet.contains] using hbs '\n' hmem
  rw [List.singleton_append, List.mem_cons, not_or]
  exact ⟨hc'.symm, hbs'⟩

/-- The keyword, at the start of a line; what the rule says; a newline and a tab; what the template
says; and a newline. The letters `lit` are a part of what follows the keyword. -/
theorem accepts_directive (h : directive.Accepts subject i cs) :
    Assertion.lineStart.holds subject i = true ∧
      ∃ pattern template, pattern ≠ [] ∧ template ≠ [] ∧ '\n' ∉ pattern ∧ '\n' ∉ template ∧
        cs = "replace".toList ++ pattern ++ '\n' :: ('\t' :: template) ++ ['\n'] := by
  obtain ⟨_, line, rfl, ⟨rfl, hline⟩, hkeyword⟩ := h
  obtain ⟨afterKeyword, rfl, hrule⟩ := accepts_spell hkeyword
  obtain ⟨lit, afterLit, rfl, hlit, hpatterns⟩ := hrule
  obtain ⟨pattern, afterPattern, rfl, hpattern, hnewline⟩ := hpatterns
  obtain ⟨afterTab, rfl, htemplates⟩ := accepts_spell hnewline
  obtain ⟨template, afterTemplate, rfl, htemplate, hend⟩ := htemplates
  obtain ⟨rest, rfl, hrest⟩ := accepts_spell hend
  obtain rfl : rest = [] := hrest
  obtain ⟨hpne, hpn⟩ := accepts_restOfLine hpattern
  obtain ⟨htne, htn⟩ := accepts_restOfLine htemplate
  have hlitn : '\n' ∉ lit := by
    rcases hlit with rfl | ⟨as, bs, rfl, has, hbs⟩
    · simp
    · obtain ⟨ds, rfl, hds⟩ := accepts_spell has
      obtain rfl : ds = [] := hds
      obtain rfl : bs = [] := hbs
      decide
  refine ⟨hline, lit ++ pattern, template, by simp [hpne], htne, ?_, htn, by simp⟩
  rw [List.mem_append, not_or]
  exact ⟨hlitn, hpn⟩

end Regular

/-- The start of a line, in the characters of a text. -/
theorem before_of_lineStart {subject : Array Char} {i : Nat} (hi : i ≤ subject.size)
    (h : Assertion.lineStart.holds subject i = true) :
    subject.toList.take i = [] ∨ ∃ front, subject.toList.take i = front ++ ['\n'] := by
  rcases Nat.eq_zero_or_pos i with rfl | hpos
  · exact .inl rfl
  · obtain ⟨i, rfl⟩ : ∃ k, i = k + 1 := ⟨i - 1, by omega⟩
    have hnewline : subject[i]? = some '\n' := by
      simpa [Assertion.holds] using h
    refine .inr ⟨subject.toList.take i, ?_⟩
    rw [List.take_add_one, Array.getElem?_toList, hnewline]
    rfl

/-- What the pattern of directives finds in a text is a directive. -/
theorem holdsDirective_of_accepts {s : String} {i : Nat} {cs : List Char}
    (h : Regular.directive.Accepts (Text.chars s) i cs) (hreads : Reads (Text.chars s) i cs) :
    Text.holdsDirective s = true := by
  obtain ⟨hline, pattern, template, hpattern, htemplate, hp, ht, rfl⟩ := Regular.accepts_directive h
  obtain ⟨after, hafter⟩ := hreads
  have hi : i ≤ (Text.chars s).size := by
    by_contra hi
    rw [List.drop_of_length_le (by rw [Array.length_toList]; omega)] at hafter
    simp at hafter
  have htext : s.toList = (Text.chars s).toList.take i ++
      ("replace".toList ++ pattern ++ '\n' :: ('\t' :: template) ++ '\n' :: after) := by
    rw [← Text.toList_chars, List.append_cons _ '\n' after, hafter, List.take_append_drop]
  exact holdsDirective_of_lines htext (before_of_lineStart hi hline) hpattern htemplate hp ht

end Pattern

/-! ## Texts without a directive -/

theorem Engine.standard_directive {config : Configuration} (hmarker : config.marker = "") :
    ∃ find, Engine.standard.directive config replaceDirective = .ok find ∧
      ∀ text, Text.holdsDirective text = false → find text = .ok none := by
  have hcompile := Pattern.compile_directives Pattern.ofReplacement (by simp [Pattern.directives])
  refine ⟨_, Engine.standard_directive_eq hmarker hcompile, fun text htext => ?_⟩
  refine Pattern.firstMatch_eq_none rfl fun i cs hcs hreads => ?_
  rw [Pattern.holdsDirective_of_accepts hcs hreads] at htext
  cases htext

namespace Expansion

variable {σ : Type} [Sink σ] {d : Document Normalized}

theorem scan_of_no_directive (limits : Limits) (hmarker : d.config.marker = "")
    (hd : Text.holdsDirective d.text = false) (s : σ) :
    scan Engine.standard limits d s = (.ok .finished, s) := by
  obtain ⟨find, hfind, hnone⟩ := Engine.standard_directive hmarker
  simp only [scan, hfind, hnone d.text hd]
  rfl

end Expansion

/-- Without a marker, only what looks like a directive is taken out of a text. -/
theorem expand_of_no_directive {σ : Type} [Sink σ] (limits : Limits) {d : Document Normalized}
    (hmarker : d.config.marker = "") (hd : Text.holdsDirective d.text = false) (s : σ) :
    expand Engine.standard limits d s = (.ok d, s) := by
  have hscan := Expansion.scan_of_no_directive limits hmarker hd s
  rw [expand]
  cases limits.directivesIn d with
  | zero =>
    rw [Expansion.expandWithin, run_bind_ok hscan]
    rfl
  | succ left =>
    rw [Expansion.expandWithin, run_bind_ok hscan]
    rfl

/-- The keyword alone, the keyword inside a line, and a word that starts with it above a line that
is not indented. -/
def prose : Document Normalized :=
  .ofLines [⟨⟨⟨"a"⟩, 1⟩, ⟨0, "replace\n"⟩⟩, ⟨⟨⟨"a"⟩, 2⟩, ⟨1, "this\n"⟩⟩,
    ⟨⟨⟨"a"⟩, 3⟩, ⟨0, "or replace that\n"⟩⟩, ⟨⟨⟨"a"⟩, 4⟩, ⟨1, "by what is\n"⟩⟩,
    ⟨⟨⟨"a"⟩, 5⟩, ⟨0, "replaced\n"⟩⟩, ⟨⟨⟨"a"⟩, 6⟩, ⟨0, "below\n"⟩⟩] {}

theorem expand_of_no_directive_prose :
    Text.holdsDirective prose.text = false ∧
      expand Engine.standard {} prose (Collector.plain []) = (.ok prose, .plain []) := by
  have hprose : Text.holdsDirective prose.text = false := by decide
  exact ⟨hprose, expand_of_no_directive {} rfl hprose (Collector.plain [])⟩

/-- A word that starts with the keyword, above an indented line, is taken for a directive. -/
example :
    (expand Engine.standard {}
      (.ofLines [⟨⟨⟨"a"⟩, 1⟩, ⟨0, "replacement parts\n"⟩⟩, ⟨⟨⟨"a"⟩, 2⟩, ⟨1, "list\n"⟩⟩] {})
      (Collector.plain [])).1.toOption.map Document.text = some "" := by
  rw [← Engine.prepared_eq]
  decide +kernel

end SourcePrep
