import SourcePrep.Proofs.ExpansionFaults
import Mathlib.Logic.Relation

/-!
# Rewriting without limits

A directive that replaces its matches one after the other, without a budget and without looking
back, may never come to an end. `Workpiece.rewrite` is one replacement of this process, and
`Rewrites` is a run of it.

* `Directive.next?`: a replacement, seen as a function of two texts: what lies before the cursor and
  what lies after it. `rewrite_next?` and `rewrite_of_next?` say that a replacement in a document
  does this to its text.
* `Directive.GoesOn`: wherever replacements lead, there is one more. What has come back once comes
  back forever (`goes_on_of_return`), and a document with such a text never settles
  (`not_settled_of_goes_on`, `rewrites_of_goes_on`).
* `Reports K x Q`: on a plain collector, `x` reports only what `K` allows, and a result of it
  satisfies `Q`. A run of the process reports nothing but roundings (`Rewrites.reports`).
-/

set_option autoImplicit false

namespace SourcePrep

/-! ## Rewriting without limits -/

/-- A document that a directive is at work on. -/
structure Workpiece where
  document : Document Normalized
  /-- The canonical text of the document. -/
  text : String
  /-- What lies before the cursor is final for the directive. -/
  cursor : Nat

namespace Workpiece

/-- The document before the first replacement. -/
def start (d : Document Normalized) : Workpiece := ⟨d, d.text, 0⟩

/-- The text that the directive still searches. -/
def remainder (p : Workpiece) : String := Text.dropBytes p.text p.cursor

/-- What lies before the cursor and what lies after it. -/
def parts (p : Workpiece) : String × String := (Text.takeBytes p.text p.cursor, p.remainder)

/-- Nothing in the remainder matches. -/
def Settled (p : Workpiece) (directive : Directive) : Prop :=
  directive.find p.remainder = .ok none

section
variable {σ : Type} [Sink σ]

/-- Replace the first match in the remainder and move the cursor to its start. There is nothing to
replace when nothing matches, when the match is empty, or when the matcher fails. -/
def rewrite (p : Workpiece) (directive : Directive) : Reporting σ (Option Workpiece) :=
  match directive.find p.remainder with
  | .ok (some m) =>
    if m.start = m.stop then return none
    else do
      let start := p.cursor + m.start
      let stop := p.cursor + m.stop
      let old ← orFault .cut (p.document.slice? start stop)
      match ← old.replaceRegion (directive.replacement m) (Text.startsLine p.text start) with
      | .error _ => return none
      | .ok new =>
        let document ← orFault .cut (p.document.splice? start stop new)
        let text ← orFault .cut (Text.replaceRange? p.text start stop new.text)
        return some ⟨document, text, start⟩
  | _ => return none

/-- So many replacements in a row, each with what the sink became. -/
inductive Rewrites (directive : Directive) : Nat → Workpiece × σ → Workpiece × σ → Prop
  | none {a : Workpiece × σ} : Rewrites directive 0 a a
  | more {n : Nat} {a b c : Workpiece × σ}
      (first : a.1.rewrite directive a.2 = (.ok (some b.1), b.2))
      (rest : Rewrites directive n b c) : Rewrites directive (n + 1) a c

end

/-- The document is well-formed, the text is that of the document, and the cursor is between two of
its characters. -/
structure Sound (p : Workpiece) : Prop where
  wellFormed : p.document.WellFormed
  text : p.text = p.document.text
  cursor : Text.isCut p.text p.cursor = true

theorem sound_start {d : Document Normalized} (hd : d.WellFormed) : (start d).Sound :=
  ⟨hd, rfl, Text.isCut_zero _⟩

theorem parts_append (d : Document Normalized) (a b : String) :
    (⟨d, a ++ b, Text.size a⟩ : Workpiece).parts = (a, b) := by
  rw [parts, remainder, Text.takeBytes_append, Text.dropBytes_append]

theorem Sound.text_eq {p : Workpiece} (h : p.Sound) : p.text = p.parts.1 ++ p.parts.2 := by
  obtain ⟨a, b, htext, hsize⟩ := Text.isCut_iff.1 h.cursor
  rw [parts, remainder, htext, ← hsize, Text.takeBytes_append, Text.dropBytes_append]

theorem Sound.cursor_eq {p : Workpiece} (h : p.Sound) : p.cursor = Text.size p.parts.1 := by
  obtain ⟨a, b, htext, hsize⟩ := Text.isCut_iff.1 h.cursor
  rw [parts, htext, ← hsize, Text.takeBytes_append]

end Workpiece

/-! ## What takes the place of a match -/

/-- A rounding of spaces to tabs, which is all that a replacement reports. -/
def Rounding (d : Diagnostic) : Prop :=
  d.kind = .indentationRoundingWarning ∧ d.severity < .fatal

/-- Pieces of a text in a row, those that start a physical line indented with tabs. The first one
may start inside a line. -/
def indentedText (tabwidth : Nat) : Bool → List String → String
  | _, [] => ""
  | false, piece :: rest => piece ++ indentedText tabwidth true rest
  | true, piece :: rest =>
    ((⟨.nowhere, .ofText piece⟩ : Line Measured).normalized tabwidth).canonical ++
      indentedText tabwidth true rest

section
variable {σ : Type} [Sink σ]

theorem lineNormalize_yields (tabwidth : Nat) (line : Line Measured) :
    Yields Rounding (line.normalize tabwidth : Reporting σ _) (line.normalized tabwidth) := by
  rw [Line.normalize]
  split
  · rename_i severity hrounding
    exact (Yields.report ⟨rfl, rounding_mild hrounding⟩).bind (.pure _)
  · exact .pure _

theorem regionLine_yields {d : Document Normalized} (hd : d.isEmpty = false) (n : Nat)
    (startsLine : Bool) (i : Nat) (piece : String) :
    ∃ l, Yields Rounding (d.regionLine n startsLine i piece : Reporting σ _) l ∧
      l.canonical = indentedText d.config.tabwidth (decide (i ≠ 0) || startsLine) [piece] := by
  have hlen : d.lines.length ≠ 0 := by
    intro h
    simp [Document.isEmpty, List.length_eq_zero_iff.1 h] at hd
  obtain ⟨l, hl⟩ : ∃ l, d.lines[min (i * d.lineCount / n) (d.lineCount - 1)]? = some l := by
    rw [Document.lineCount]
    exact ⟨_, List.getElem?_eq_getElem (by omega)⟩
  simp only [Document.regionLine, hl, orFault, pure_bind]
  by_cases hfirst : (i = 0 && !startsLine) = true
  · obtain ⟨rfl, rfl⟩ : i = 0 ∧ startsLine = false := by simpa using hfirst
    refine ⟨_, .pure _, ?_⟩
    simp [indentedText, Line.canonical, LineKind.canonical, Text.copies]
  · have hlater : (decide (i ≠ 0) || startsLine) = true := by
      cases startsLine <;> simp_all
    rw [if_neg hfirst, hlater]
    refine ⟨_, lineNormalize_yields _ _, ?_⟩
    simp [indentedText, Line.canonical, Line.normalized]

theorem regionLines_yields {d : Document Normalized} (hd : d.isEmpty = false) (n : Nat)
    (startsLine : Bool) (i : Nat) (pieces : List String) :
    ∃ ls, Yields Rounding (d.regionLines n startsLine i pieces : Reporting σ _) ls ∧
      Document.textOf ls =
        indentedText d.config.tabwidth (decide (i ≠ 0) || startsLine) pieces := by
  induction pieces generalizing i with
  | nil => exact ⟨[], .pure [], by cases (decide (i ≠ 0) || startsLine) <;> rfl⟩
  | cons piece rest ih =>
    obtain ⟨l, hl, hline⟩ := regionLine_yields (σ := σ) hd n startsLine i piece
    obtain ⟨ls, hls, hrest⟩ := ih (i + 1)
    refine ⟨l :: ls, hl.bind (hls.bind (.pure _)), ?_⟩
    simp only [ne_eq, Nat.add_one_ne_zero, not_false_eq_true, decide_true, Bool.true_or] at hrest
    rw [Document.textOf_cons, hline, hrest]
    cases (decide (i ≠ 0) || startsLine) <;> simp [indentedText]

/-- A text takes the place of a document with lines, and roundings are all that is reported. -/
theorem replaceRegion_yields {d : Document Normalized} (hd : d.isEmpty = false) (text : String)
    (startsLine : Bool) :
    ∃ new, Yields Rounding (d.replaceRegion text startsLine : Reporting σ _) (.ok new) ∧
      new.WellFormed ∧
      new.text = indentedText d.config.tabwidth startsLine (Text.splitLines text) := by
  rw [Document.replaceRegion]
  by_cases htext : text.isEmpty = true
  · have hpieces : Text.splitLines text = [] := by
      rw [String.isEmpty_iff.1 htext]
      rfl
    rw [if_pos htext, hpieces]
    exact ⟨_, .pure _, Document.wellFormed_empty _, by cases startsLine <;> rfl⟩
  · obtain ⟨ls, hls, hlines⟩ := regionLines_yields (σ := σ) hd (Text.splitLines text).length
      startsLine 0 (Text.splitLines text)
    simp only [if_neg htext, hd]
    refine ⟨_, hls.bind (.pure _), Document.wellFormed_ofLines _ _, ?_⟩
    rw [Document.text_ofLines, hlines]
    rfl

theorem replaceRegion_rounds (d : Document Normalized) (text : String) (startsLine : Bool) :
    ∃ result, Yields Rounding (d.replaceRegion text startsLine : Reporting σ _) result := by
  by_cases hd : d.isEmpty = true
  · rw [Document.replaceRegion]
    split
    · exact ⟨_, .pure _⟩
    · exact ⟨_, .pure _⟩
  · obtain ⟨new, hnew, -⟩ := replaceRegion_yields (σ := σ) (Bool.eq_false_iff.2 hd) text startsLine
    exact ⟨_, hnew⟩

/-- Nothing can be put in the place of an empty document, and that is the only way to fail. -/
theorem replaceRegion_bind_congr {α : Type} {d : Document Normalized} {text : String}
    {startsLine : Bool} {f g : Except EmptyRegion (Document Normalized) → Reporting σ α}
    (hfail : f (.error ⟨Text.size text⟩) = g (.error ⟨Text.size text⟩))
    (hmade : ∀ new, f (.ok new) = g (.ok new)) :
    d.replaceRegion text startsLine >>= f = d.replaceRegion text startsLine >>= g := by
  rw [Document.replaceRegion]
  split
  · simp only [pure_bind, hmade]
  · split
    · simp only [pure_bind, hfail]
    · simp only [bind_assoc, pure_bind, hmade]

end

/-! ## A replacement as a function of the text -/

/-- What a replacement makes of the text before the cursor and the text after it. -/
def Directive.next? (directive : Directive) (tabwidth : Nat) :
    String × String → Option (String × String)
  | (settled, remainder) =>
    match directive.find remainder with
    | .ok (some m) =>
      if m.start < m.stop then
        match Text.splitAt? remainder m.start, Text.splitAt? remainder m.stop with
        | some (before, _), some (_, after) =>
          let startsLine := Text.startsLine (settled ++ remainder) (Text.size (settled ++ before))
          some (settled ++ before,
            indentedText tabwidth startsLine (Text.splitLines (directive.replacement m)) ++ after)
        | _, _ => none
      else none
    | _ => none

/-- The pair of texts that a replacement of `b` between `a` and `c` leads to. -/
def Directive.replaced (directive : Directive) (tabwidth : Nat) (settled a b c : String)
    (m : Match) : String × String :=
  (settled ++ a,
    indentedText tabwidth (Text.startsLine (settled ++ (a ++ b ++ c)) (Text.size (settled ++ a)))
      (Text.splitLines (directive.replacement m)) ++ c)

theorem Directive.next?_eq {directive : Directive} {tabwidth : Nat} {settled a b c : String}
    {m : Match} (hm : directive.find (a ++ b ++ c) = .ok (some m)) (hb : b ≠ "")
    (hstart : m.start = Text.size a) (hstop : m.stop = Text.size (a ++ b)) :
    directive.next? tabwidth (settled, a ++ b ++ c) =
      some (directive.replaced tabwidth settled a b c m) := by
  have hlt : m.start < m.stop := by
    have := Text.size_eq_zero.not.2 hb
    rw [hstart, hstop, Text.size_append]
    omega
  have ha : Text.splitAt? (a ++ b ++ c) m.start = some (a, b ++ c) :=
    Text.splitAt?_eq_some_iff.2 ⟨String.append_assoc .., hstart.symm⟩
  have hc : Text.splitAt? (a ++ b ++ c) m.stop = some (a ++ b, c) :=
    Text.splitAt?_eq_some_iff.2 ⟨rfl, hstop.symm⟩
  simp only [next?, hm, if_pos hlt, ha, hc, replaced]

/-- The match of a replacement is a part of the remainder. -/
theorem Directive.next?_cases {directive : Directive} {tabwidth : Nat} {settled remainder : String}
    {y : String × String} (h : directive.next? tabwidth (settled, remainder) = some y) :
    ∃ m a b c, directive.find remainder = .ok (some m) ∧ remainder = a ++ b ++ c ∧ b ≠ "" ∧
      m.start = Text.size a ∧ m.stop = Text.size (a ++ b) ∧
      y = directive.replaced tabwidth settled a b c m := by
  rw [next?] at h
  rcases hm : directive.find remainder with failure | - | m <;> simp only [hm] at h
  · cases h
  · cases h
  split at h
  · rename_i hlt
    rcases ha : Text.splitAt? remainder m.start with - | ⟨a, rest⟩ <;> simp only [ha] at h
    · cases h
    rcases hc : Text.splitAt? remainder m.stop with - | ⟨ab, c⟩ <;> simp only [hc] at h
    · cases h
    obtain ⟨harest, hstart⟩ := Text.splitAt?_eq_some_iff.1 ha
    obtain ⟨habc, hstop⟩ := Text.splitAt?_eq_some_iff.1 hc
    obtain ⟨b, rfl, -⟩ := Text.append_split (harest.symm.trans habc) (by omega)
    refine ⟨m, a, b, c, rfl, habc, ?_, hstart.symm, hstop.symm, ?_⟩
    · rintro rfl
      simp [← hstart, ← hstop] at hlt
    · rw [replaced, ← habc]
      exact (Option.some.inj h).symm
  · cases h

section
variable {σ α : Type}

theorem orFault_result {f : Fault} {o : Option α} {s t : σ} {a : α}
    (h : (orFault f o : Reporting σ α) s = (.ok a, t)) : o = some a ∧ s = t := by
  cases o with
  | none => cases h
  | some b =>
    cases h
    exact ⟨rfl, rfl⟩

theorem Yields.result_eq [Sink σ] {K : Diagnostic → Prop} {x : Reporting σ α} {a b : α} {s t : σ}
    (h : Yields K x a) (hrun : x s = (.ok b, t)) : b = a := by
  obtain ⟨ds, rfl, -⟩ := h
  rcases Script.play_apply (⟨ds, .ok a⟩ : Script α) s with hend | ⟨_, hend⟩ <;>
    rw [hrun] at hend <;> cases hend
  rfl

end

theorem Text.replaceRange?_cases {s new t : String} {start stop : Nat}
    (h : Text.replaceRange? s start stop new = some t) :
    ∃ a b c, s = a ++ b ++ c ∧ start = Text.size a ∧ stop = Text.size (a ++ b) ∧
      t = a ++ new ++ c := by
  rw [Text.replaceRange?] at h
  split at h
  · rename_i hle
    rcases ha : Text.splitAt? s start with - | ⟨a, rest⟩ <;> simp only [ha] at h
    · cases h
    rcases hc : Text.splitAt? s stop with - | ⟨ab, c⟩ <;> simp only [hc] at h
    · cases h
    obtain ⟨harest, hstart⟩ := Text.splitAt?_eq_some_iff.1 ha
    obtain ⟨habc, hstop⟩ := Text.splitAt?_eq_some_iff.1 hc
    obtain ⟨b, rfl, -⟩ := Text.append_split (harest.symm.trans habc) (by omega)
    exact ⟨a, b, c, habc, hstart.symm, hstop.symm, (Option.some.inj h).symm⟩
  · cases h

namespace Workpiece

variable {σ : Type} [Sink σ] {p : Workpiece} {directive : Directive}

/-- A replacement in a document does to its text what it does to a text. -/
theorem rewrite_of_next? (hp : p.Sound) {y : String × String}
    (h : directive.next? p.document.config.tabwidth p.parts = some y) :
    ∃ q, Yields Rounding (p.rewrite directive : Reporting σ _) (some q) ∧ q.Sound ∧
      q.document.config = p.document.config ∧ q.parts = y := by
  obtain ⟨m, a, b, c, hm, hrem, hb, hstart, hstop, rfl⟩ := Directive.next?_cases h
  have hstart' : p.cursor + m.start = Text.size (p.parts.1 ++ a) := by
    rw [hp.cursor_eq, hstart, Text.size_append]
  have hstop' : p.cursor + m.stop = Text.size (p.parts.1 ++ a ++ b) := by
    rw [hp.cursor_eq, hstop, String.append_assoc, Text.size_append p.parts.1]
  have hwhole : p.text = p.parts.1 ++ (a ++ b ++ c) := by
    rw [hp.text_eq, show p.parts.2 = _ from hrem]
  have htext : p.text = p.parts.1 ++ a ++ b ++ c := by
    rw [hwhole]
    simp only [String.append_assoc]
  have hdoc : p.document.text = p.parts.1 ++ a ++ b ++ c := hp.text ▸ htext
  obtain ⟨old, hold, hwf, hotext, hoconfig⟩ := hp.wellFormed.slice?_text hdoc hb
  have hfull : old.isEmpty = false := by
    rw [Bool.eq_false_iff, ne_eq, hwf.isEmpty_iff, hotext]
    exact hb
  obtain ⟨new, hnew, hnwf, hntext⟩ := replaceRegion_yields (σ := σ) hfull
    (directive.replacement m) (Text.startsLine p.text (p.cursor + m.start))
  obtain ⟨d, hd, hdwf, hdtext, hdconfig⟩ := hp.wellFormed.splice?_text hdoc hnwf
  have hrange := Text.replaceRange?_append htext new.text
  have hne : m.start ≠ m.stop := by
    have := Text.size_eq_zero.not.2 hb
    rw [hstart, hstop, Text.size_append]
    omega
  have hassoc : p.parts.1 ++ a ++ new.text ++ c = p.parts.1 ++ a ++ (new.text ++ c) :=
    String.append_assoc ..
  rw [hassoc] at hrange hdtext
  refine ⟨⟨d, p.parts.1 ++ a ++ (new.text ++ c), Text.size (p.parts.1 ++ a)⟩, ?_,
    ⟨hdwf, hdtext.symm, Text.isCut_iff.2 ⟨_, _, rfl, rfl⟩⟩, hdconfig, ?_⟩
  · simp only [rewrite, show directive.find p.remainder = _ from hm, if_neg hne, orFault, hstop',
      hstart', hold, pure_bind]
    rw [hstart'] at hnew
    refine hnew.bind ?_
    simp only [hd, hrange, pure_bind]
    exact .pure _
  · show _ = directive.replaced _ p.parts.1 a b c m
    rw [parts_append, hntext, hoconfig, hstart', hwhole]
    rfl

theorem match_of_rewrite {q : Workpiece} {s t : σ}
    (h : p.rewrite directive s = (.ok (some q), t)) :
    ∃ m, directive.find p.remainder = .ok (some m) ∧ m.start ≠ m.stop := by
  rw [rewrite] at h
  rcases hm : directive.find p.remainder with failure | - | m <;> simp only [hm] at h
  · cases h
  · cases h
  split at h
  · cases h
  · rename_i hne
    exact ⟨m, rfl, hne⟩

theorem rewrite_next? (hp : p.Sound) {q : Workpiece} {s t : σ}
    (h : p.rewrite directive s = (.ok (some q), t)) :
    directive.next? p.document.config.tabwidth p.parts = some q.parts ∧ q.Sound ∧
      q.document.config = p.document.config := by
  suffices hin : ∃ y, directive.next? p.document.config.tabwidth p.parts = some y by
    obtain ⟨y, hy⟩ := hin
    obtain ⟨q', hq', hsound, hconfig, rfl⟩ := rewrite_of_next? (σ := σ) hp hy
    obtain rfl : q = q' := Option.some.inj (hq'.result_eq h)
    exact ⟨hy, hsound, hconfig⟩
  -- the text could be cut at both ends of the match
  obtain ⟨m, hm, hne⟩ := match_of_rewrite h
  simp only [rewrite, hm, if_neg hne] at h
  obtain ⟨old, s₁, -, h⟩ := run_bind_result h
  obtain ⟨new, s₂, -, h⟩ := run_bind_result h
  rcases new with e | new
  · cases h
  obtain ⟨d, s₃, -, h⟩ := run_bind_result h
  obtain ⟨text, s₄, hrange, -⟩ := run_bind_result h
  obtain ⟨a', b, c, htext, hstart, hstop, -⟩ := Text.replaceRange?_cases (orFault_result hrange).1
  have htext' : p.parts.1 ++ p.parts.2 = a' ++ (b ++ c) := by
    rw [← hp.text_eq, htext, String.append_assoc]
  obtain ⟨a, rfl, hrem⟩ := Text.append_split htext' (by rw [← hp.cursor_eq]; omega)
  rw [Text.size_append, ← hp.cursor_eq, Nat.add_left_cancel_iff] at hstart
  rw [String.append_assoc, Text.size_append, ← hp.cursor_eq, Nat.add_left_cancel_iff] at hstop
  rw [← String.append_assoc] at hrem
  have hb : b ≠ "" := by
    rintro rfl
    simp [hstart, hstop] at hne
  rw [show p.parts = (p.parts.1, a ++ b ++ c) from Prod.ext rfl hrem]
  exact ⟨_, Directive.next?_eq (by rw [← hrem]; exact hm) hb hstart hstop⟩

end Workpiece

/-! ## What comes back once comes back forever -/

/-- One replacement leads from the first pair of texts to the second. -/
def Directive.Next (directive : Directive) (tabwidth : Nat) (x y : String × String) : Prop :=
  directive.next? tabwidth x = some y

/-- Replacements lead from the first pair of texts to the second. -/
def Directive.Leads (directive : Directive) (tabwidth : Nat) :
    String × String → String × String → Prop :=
  Relation.ReflTransGen (directive.Next tabwidth)

/-- Wherever replacements lead, there is one more. -/
def Directive.GoesOn (directive : Directive) (tabwidth : Nat) (x : String × String) : Prop :=
  ∀ y, directive.Leads tabwidth x y → ∃ z, directive.Next tabwidth y z

namespace Directive

variable {directive : Directive} {tabwidth : Nat} {x y z : String × String}

theorem next_rightUnique : Relator.RightUnique (directive.Next tabwidth) :=
  fun _ _ _ h h' => Option.some.inj (h.symm.trans h')

theorem transGen_of_next (hx : Relation.TransGen (directive.Next tabwidth) x x)
    (hxy : directive.Next tabwidth x y) : Relation.TransGen (directive.Next tabwidth) y y := by
  obtain ⟨y', hxy', hback⟩ := Relation.TransGen.head'_iff.1 hx
  obtain rfl := next_rightUnique hxy hxy'
  exact Relation.TransGen.tail' hback hxy

theorem goes_on_of_return (hx : Relation.TransGen (directive.Next tabwidth) x x) :
    directive.GoesOn tabwidth x := by
  intro y hxy
  have hy : Relation.TransGen (directive.Next tabwidth) y y := by
    induction hxy with
    | refl => exact hx
    | tail _ hstep ih => exact transGen_of_next ih hstep
  obtain ⟨z, hz, -⟩ := Relation.TransGen.head'_iff.1 hy
  exact ⟨z, hz⟩

theorem GoesOn.of_leads (hxy : directive.Leads tabwidth x y) (hy : directive.GoesOn tabwidth y) :
    directive.GoesOn tabwidth x := by
  intro z hxz
  -- one of the two lies on the way to the other
  rcases Relation.ReflTransGen.total_of_right_unique next_rightUnique hxy hxz with h | h
  · exact hy z h
  · rcases Relation.ReflTransGen.cases_head h with rfl | ⟨z', hz', -⟩
    · exact hy z .refl
    · exact ⟨z', hz'⟩

theorem GoesOn.next (h : directive.GoesOn tabwidth x) (hxy : directive.Next tabwidth x y) :
    directive.GoesOn tabwidth y := fun z hyz => h z (.head hxy hyz)

end Directive

namespace Workpiece

variable {σ : Type} [Sink σ] {p q : Workpiece} {directive : Directive}

theorem Rewrites.leads {n : Nat} {a b : Workpiece × σ} (h : Rewrites directive n a b)
    (ha : a.1.Sound) :
    directive.Leads a.1.document.config.tabwidth a.1.parts b.1.parts ∧ b.1.Sound ∧
      b.1.document.config = a.1.document.config := by
  induction h with
  | none => exact ⟨.refl, ha, rfl⟩
  | more first _ ih =>
    obtain ⟨hnext, hsound, hconfig⟩ := rewrite_next? ha first
    obtain ⟨hleads, hc, hcconfig⟩ := ih hsound
    rw [hconfig] at hleads hcconfig
    exact ⟨.head hnext hleads, hc, hcconfig⟩

theorem Rewrites.trans {n m : Nat} {a b c : Workpiece × σ} (h : Rewrites directive n a b)
    (h' : Rewrites directive m b c) : Rewrites directive (n + m) a c := by
  induction h with
  | none => simpa using h'
  | more first _ ih =>
    rw [Nat.succ_add]
    exact .more first (ih h')

/-- A longer run goes on where a shorter one ends. -/
theorem Rewrites.rest {n m : Nat} {a b c : Workpiece × σ} (h : Rewrites directive n a b)
    (h' : Rewrites directive (n + m) a c) : Rewrites directive m b c := by
  induction h with
  | none => simpa using h'
  | @more _ _ b₁ _ first _ ih =>
    rw [Nat.succ_add] at h'
    cases h' with
    | @more _ _ b₂ _ first' rest =>
      obtain rfl : b₁ = b₂ := by
        injection first.symm.trans first' with hpiece hsink
        injection hpiece with hpiece
        exact Prod.ext (Option.some.inj hpiece) hsink
      exact ih rest

/-- Where nothing matches there is no replacement. -/
theorem Settled.not_next (h : p.Settled directive) {tabwidth : Nat} {y : String × String} :
    ¬ directive.Next tabwidth p.parts y := by
  intro hnext
  obtain ⟨m, a, b, c, hm, -⟩ := Directive.next?_cases hnext
  cases h.symm.trans hm

theorem not_settled_of_goes_on {n : Nat} {s t : σ}
    (hgoes : directive.GoesOn p.document.config.tabwidth p.parts) (hp : p.Sound)
    (h : Rewrites directive n (p, s) (q, t)) : ¬ q.Settled directive := by
  intro hq
  obtain ⟨z, hz⟩ := hgoes _ (h.leads hp).1
  exact hq.not_next hz

/-- A plain collector stops no replacement. -/
theorem rewrites_of_goes_on (hgoes : directive.GoesOn p.document.config.tabwidth p.parts)
    (hp : p.Sound) (n : Nat) (ds : List Diagnostic) :
    ∃ q t, Rewrites directive n (p, Collector.plain ds) (q, t) := by
  induction n generalizing p ds with
  | zero => exact ⟨p, _, .none⟩
  | succ n ih =>
    obtain ⟨y, hy⟩ := hgoes _ .refl
    obtain ⟨q, ⟨es, hplay, hes⟩, hq, hconfig, rfl⟩ := rewrite_of_next? (σ := Collector) hp hy
    have hrun : p.rewrite directive (Collector.plain ds) = (.ok (some q), .plain (ds ++ es)) := by
      rw [hplay, Script.play_plain ⟨es, .ok (some q)⟩ fun d hd => (hes d hd).2]
      rfl
    obtain ⟨r, t, hrest⟩ := ih (hconfig ▸ hgoes.next hy) hq (ds ++ es)
    exact ⟨r, t, .more hrun hrest⟩

end Workpiece

/-! ## What a plain collector hears -/

/-- On a plain collector the run reports only what `K` allows, and a result of it satisfies `Q`. -/
def Reports {α : Type} (K : Diagnostic → Prop) (x : Reporting Collector α) (Q : α → Prop) : Prop :=
  ∀ ds, ∃ es, (x (.plain ds)).2 = .plain (ds ++ es) ∧ (∀ e ∈ es, K e) ∧
    ∀ a, (x (.plain ds)).1 = .ok a → Q a

namespace Reports

variable {α β : Type} {K L : Diagnostic → Prop} {P : α → Prop} {Q : β → Prop}

theorem pure {a : α} (h : P a) : Reports K (Pure.pure a : Reporting Collector α) P := by
  refine fun ds => ⟨[], by rw [List.append_nil]; rfl, by simp, fun b hb => ?_⟩
  cases hb
  exact h

theorem report {d : Diagnostic} (hmild : d.severity < .fatal) (h : K d) :
    Reports K (SourcePrep.report d) fun _ => True := by
  intro ds
  refine ⟨[d], ?_, by simpa using h, fun _ _ => trivial⟩
  simp [SourcePrep.report, Sink.emit, Answer.ofThreshold, Collector.plain, hmild]

theorem orFault (f : Fault) (o : Option α) :
    Reports K (SourcePrep.orFault f o : Reporting Collector α) fun _ => True := by
  cases o with
  | none => exact fun ds => ⟨[], by rw [List.append_nil]; rfl, by simp, fun _ _ => trivial⟩
  | some a => exact .pure trivial

theorem bind {x : Reporting Collector α} {f : α → Reporting Collector β} (hx : Reports K x P)
    (hf : ∀ a, P a → Reports K (f a) Q) : Reports K (x >>= f) Q := by
  intro ds
  obtain ⟨es, hes, hK, hP⟩ := hx ds
  rcases hrun : x (.plain ds) with ⟨e | a, t⟩ <;> rw [hrun] at hes hP
  · rw [run_bind_error hrun]
    exact ⟨es, hes, hK, fun _ h => by cases h⟩
  · obtain rfl : t = _ := hes
    obtain ⟨es', hes', hK', hQ⟩ := hf a (hP a rfl) (ds ++ es)
    rw [run_bind_ok hrun]
    refine ⟨es ++ es', by rw [hes', List.append_assoc], fun e he => ?_, hQ⟩
    exact (List.mem_append.1 he).elim (hK e) (hK' e)

theorem of_yields {x : Reporting Collector α} {a : α} (h : Yields K x a)
    (hK : ∀ d, K d → d.severity < .fatal) : Reports K x fun _ => True := by
  obtain ⟨es, rfl, hes⟩ := h
  intro ds
  rw [Script.play_plain ⟨es, .ok a⟩ fun d hd => hK d (hes d hd)]
  exact ⟨es, rfl, hes, fun _ _ => trivial⟩

theorem and_returns {x : Reporting Collector α} (h : Reports K x fun _ => True) (hx : Returns x P) :
    Reports K x P := by
  intro ds
  obtain ⟨es, hes, hK, -⟩ := h ds
  exact ⟨es, hes, hK, fun a ha => hx _ a _ (Prod.ext ha rfl)⟩

theorem mono {x : Reporting Collector α} (h : Reports K x P) (hKL : ∀ d, K d → L d) :
    Reports L x P := by
  intro ds
  obtain ⟨es, hes, hK, hP⟩ := h ds
  exact ⟨es, hes, fun e he => hKL e (hK e he), hP⟩

end Reports

theorem Workpiece.rewrite_reports {p : Workpiece} (hp : p.Sound) (directive : Directive) :
    Reports Rounding (p.rewrite directive) fun o => ∀ q, o = some q →
      directive.Next p.document.config.tabwidth p.parts q.parts ∧ q.Sound ∧
        q.document.config = p.document.config := by
  refine Reports.and_returns ?_ fun s o t h q hq => rewrite_next? hp (hq ▸ h)
  rw [rewrite]
  rcases directive.find p.remainder with failure | - | m
  · exact .pure trivial
  · exact .pure trivial
  · simp only
    split
    · exact .pure trivial
    · refine (Reports.orFault _ _).bind fun old _ => ?_
      obtain ⟨result, hresult⟩ := replaceRegion_rounds (σ := Collector) old
        (directive.replacement m) (Text.startsLine p.text (p.cursor + m.start))
      refine (Reports.of_yields hresult fun d h => h.2).bind fun new _ => ?_
      rcases new with e | new
      · exact .pure trivial
      · refine (Reports.orFault _ _).bind fun _ _ => ?_
        exact (Reports.orFault _ _).bind fun _ _ => .pure trivial

/-- A run of the process without limits reports roundings only. -/
theorem Workpiece.Rewrites.reports {directive : Directive} {n : Nat} {p q : Workpiece}
    {ds : List Diagnostic} {t : Collector}
    (h : Rewrites directive n (p, Collector.plain ds) (q, t)) (hp : p.Sound) :
    ∃ es, t = .plain (ds ++ es) ∧ ∀ e ∈ es, Rounding e := by
  induction n generalizing p ds with
  | zero =>
    cases h
    exact ⟨[], by rw [List.append_nil], by simp⟩
  | succ n ih =>
    cases h with
    | @more _ _ b _ first rest =>
      obtain ⟨p', u⟩ := b
      obtain ⟨es, hes, hround, hresult⟩ := rewrite_reports hp directive ds
      rw [first] at hes hresult
      obtain rfl : u = _ := hes
      obtain ⟨-, hp', -⟩ := hresult (some p') rfl p' rfl
      obtain ⟨es', rfl, hround'⟩ := ih rest hp'
      refine ⟨es ++ es', by rw [List.append_assoc], fun e he => ?_⟩
      exact (List.mem_append.1 he).elim (hround e) (hround' e)

end SourcePrep
