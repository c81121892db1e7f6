import SourcePrep.Expansion
import SourcePrep.Proofs.DocumentText
import SourcePrep.Proofs.PreparedPatterns
import SourcePrep.Proofs.Relocation

/-!
# Expansion as the rewriting of a text

`Rewriting` expands replace directives in a plain text: no lines, no positions, no offsets kept
across a replacement. What a directive has left behind and what it still searches are two texts, and
a replacement moves the border between them.

* `Represents`: a directive at work on a document represents the directive at work on its text.
  `step_alike` matches one replacement with one, and `settleWithin_alike` and `expandWithin_alike`
  follow by induction on the number of steps.
* `expand_textual`: two documents with the same text, marker and tabwidth come to the same text and
  the same remarks, however their lines are cut and whatever positions they carry. Both do what
  `rewriteText` does.

A position is looked up for every directive that is found, and the empty document has none to give:
the only fault that a run can end in is a directive found in the empty text.
-/

set_option autoImplicit false

namespace SourcePrep

/-! ## Engines that answer with parts of the text -/

/-- Every match is a part of the text, between two of its characters. -/
def Matcher.InBounds (find : Matcher) : Prop :=
  ∀ text m, find text = .ok (some m) →
    ∃ a b c, text = a ++ b ++ c ∧ m.start = Text.size a ∧ m.stop = Text.size (a ++ b)

/-- Every matcher of the engine answers with parts of the text. -/
def Engine.InBounds (engine : Engine) : Prop :=
  ∀ source flags find, engine.compile source flags = .ok find → Matcher.InBounds find

theorem Text.replaceRange?_append {s a b c : String} (h : s = a ++ b ++ c) (new : String) :
    Text.replaceRange? s (Text.size a) (Text.size (a ++ b)) new = some (a ++ new ++ c) := by
  have hle : Text.size a ≤ Text.size (a ++ b) := by
    rw [Text.size_append]
    omega
  rw [Text.replaceRange?, if_pos hle,
    Text.splitAt?_eq_some_iff.2 ⟨h.trans (String.append_assoc ..), rfl⟩,
    Text.splitAt?_eq_some_iff.2 ⟨h, rfl⟩]

/-! ## Rewriting a text -/

/-- A directive at work on a text. -/
structure Rewriting where
  directive : Directive
  /-- The text that is final for the directive. -/
  settled : String
  /-- The text that the directive still searches. -/
  remainder : String
  made : Nat
  budget : Nat
  /-- The remainders since the settled text last grew. -/
  seen : List String

namespace Rewriting

def text (r : Rewriting) : String := r.settled ++ r.remainder

inductive Step
  | replaced (next : Rewriting)
  | ended (text : String)

inductive Scan
  | finished
  | skipped (text : String)
  | found (r : Rewriting)

/-- The text after a scan that took a directive out. -/
def Scan.text? : Scan → Option String
  | .finished => none
  | .skipped text => some text
  | .found r => some r.text

section
variable {σ : Type} [Sink σ]

/-- A piece that starts a physical line, indented with tabs; any other stays as it is. -/
def indentPiece (tabwidth : Nat) (startsLine : Bool) (piece : String) : Reporting σ String :=
  if startsLine then do
    let line ← Line.normalize tabwidth ⟨.nowhere, .ofText piece⟩
    return line.canonical
  else return piece

/-- The pieces in a row; the first one may start inside a physical line. -/
def indentPieces (tabwidth : Nat) : Bool → List String → Reporting σ String
  | _, [] => return ""
  | startsLine, piece :: rest => do
    let piece ← indentPiece tabwidth startsLine piece
    return piece ++ (← indentPieces tabwidth true rest)

/-- End the directive with a report. -/
def stop (r : Rewriting) (kind : DiagnosticKind) (message : String) : Reporting σ Step := do
  report (.ofKind kind message .nowhere)
  return .ended r.text

/-- End the directive at a match of nothing. -/
def stopAtEmptyMatch (r : Rewriting) (replacement : String) : Reporting σ Step :=
  if replacement.isEmpty then
    r.stop .nonTerminatingReplacement "Pattern matches the empty string and would rewrite forever"
  else
    r.stop .invalidReplacement s!"Cannot insert {Text.size replacement} bytes at an empty match"

/-- Put a text between what lies before and after a match in the remainder. -/
def replace (tabwidth : Nat) (r : Rewriting) (before after replacement : String) :
    Reporting σ Step := do
  if r.budget < r.made + 1 then
    r.stop .nonTerminatingReplacement s!"Still matching after {r.budget} rewrites"
  else
    let settled := r.settled ++ before
    let new ← indentPieces tabwidth (Text.startsLine r.text (Text.size settled))
      (Text.splitLines replacement)
    let next := { r with settled, remainder := new ++ after, made := r.made + 1 }
    if before ≠ "" then return .replaced { next with seen := [] }
    else if r.seen.contains next.remainder then
      next.stop .nonTerminatingReplacement "Rewriting cycles back to an earlier text"
    else return .replaced { next with seen := next.remainder :: r.seen }

/-- Replace the first match in the remainder. -/
def step (tabwidth : Nat) (r : Rewriting) : Reporting σ Step :=
  match r.directive.find r.remainder with
  | .ok none => return .ended r.text
  | .error failure => do
    report <|
      (Diagnostic.ofKind .patternExecutionError "Replace pattern failed while matching"
        .nowhere).withCauses failure.causes
    return .ended r.text
  | .ok (some m) =>
    if m.start = m.stop then r.stopAtEmptyMatch (r.directive.replacement m)
    else
      r.replace tabwidth (Text.takeBytes r.remainder m.start) (Text.dropBytes r.remainder m.stop)
        (r.directive.replacement m)

/-- Replace matches until the directive ends, or so many at most. -/
def settleWithin (tabwidth : Nat) : Nat → Rewriting → Reporting σ String
  | 0, r => return r.text
  | fuel + 1, r => do
    match ← r.step tabwidth with
    | .replaced next => settleWithin tabwidth fuel next
    | .ended text => return text

section
variable (engine : Engine) (limits : Limits)

/-- Take a directive out of the text it was found in. In the empty text there is no line to blame
for it. -/
def takeOut (text : String) (m : Match) : Reporting σ Scan :=
  if text = "" then throw (.fault .line)
  else
    let source := (m.named? "pattern").getD ""
    let rest := Text.takeBytes text m.start ++ Text.dropBytes text m.stop
    match engine.compile source { extended := true } with
    | .error failure => do
      report <|
        (Diagnostic.ofKind .patternSyntaxError s!"Invalid replace pattern '{Text.trim source}'"
          .nowhere).withCauses failure.causes
      return .skipped rest
    | .ok find =>
      let directive : Directive :=
        { find, position := .nowhere
          template := (m.named? "template").getD ""
          literal := (m.named? "lit").isSome }
      return .found
        { directive, settled := "", remainder := rest
          made := 0, budget := limits.substitutionsIn rest, seen := [] }

/-- The matcher for replace directives behind a marker. -/
def directiveMatcher (marker : String) : Except Pattern.Failure Matcher :=
  engine.compile ("^" ++ marker ++ replaceDirective) { multiLine := true }

/-- The pattern of directives has a match in the empty text. -/
def FindsInEmpty (marker : String) : Prop :=
  ∃ find m, directiveMatcher engine marker = .ok find ∧ find "" = .ok (some m)

/-- Look for the first directive. -/
def scan (marker : String) (text : String) : Reporting σ Scan :=
  match directiveMatcher engine marker with
  | .error _ => return .finished
  | .ok find =>
    match find text with
    | .error failure => do
      report (.ofKind .patternExecutionError failure.message .nowhere)
      return .finished
    | .ok none => return .finished
    | .ok (some m) => takeOut engine limits text m

/-- Expand directives, so many more at most. -/
def expandWithin (marker : String) (tabwidth total : Nat) : Nat → String → Reporting σ String
  | 0, text => do
    match (← scan engine limits marker text).text? with
    | none => return text
    | some rest =>
      report <|
        .ofKind .nonTerminatingReplacement
          s!"More than {total} replace directives; the rest are left unexpanded" .nowhere
      return rest
  | left + 1, text => do
    match ← scan engine limits marker text with
    | .finished => return text
    | .skipped rest => expandWithin marker tabwidth total left rest
    | .found r =>
      expandWithin marker tabwidth total left (← r.settleWithin tabwidth (r.budget + 1 - r.made))

end

end

end Rewriting

/-- Expand every replace directive of a text, so many at most. -/
def rewriteText {σ : Type} [Sink σ] (engine : Engine) (substitutions : Option Nat)
    (directives : Nat) (marker : String) (tabwidth : Nat) (text : String) : Reporting σ String :=
  Rewriting.expandWithin engine ⟨substitutions, some directives⟩ marker tabwidth directives directives
    text

/-! ## Replacing a region -/

/-- Runs that say the same, wherever they point; under the condition `F` both may miss a line. -/
def Accord.textual (F : Prop) : Accord := ⟨Echo fun _ _ => True, fun f => f = .line ∧ F⟩

section
variable {σ τ : Type} [Sink σ] [Sink τ] {F : Prop}

theorem normalize_alike_piece (tabwidth : Nat) (position : Position) (piece : String) :
    Alike (.textual F) (fun l t => l.canonical = t)
      (Line.normalize tabwidth ⟨position, .ofText piece⟩ : Reporting σ _)
      (Rewriting.indentPiece tabwidth true piece : Reporting τ _) := by
  let line : Line Measured := ⟨position, .ofText piece⟩
  have hline : Relocated (fun _ _ => True) line ⟨.nowhere, .ofText piece⟩ := ⟨trivial, rfl⟩
  have h : Alike (.textual F) (Relocated fun _ _ => True) (line.normalize tabwidth : Reporting σ _)
      (Line.normalize tabwidth ⟨.nowhere, .ofText piece⟩ : Reporting τ _) :=
    (lineNormalize_alike hline tabwidth).mono (fun _ _ h => h.1) (fun _ h => h.elim)
      (fun _ _ h => h)
  rw [← bind_pure (Line.normalize tabwidth _ : Reporting σ _)]
  exact h.bind fun l m hlm => .pure (congrArg LineKind.canonical hlm.kind)

theorem regionLines_alike {d : Document Normalized} (hd : d.isEmpty = false) (n : Nat)
    (startsLine : Bool) (i : Nat) (pieces : List String) :
    Alike (.textual F) (fun ls t => Document.textOf ls = t)
      (d.regionLines n startsLine i pieces : Reporting σ _)
      (Rewriting.indentPieces d.config.tabwidth (decide (i ≠ 0) || startsLine) pieces :
        Reporting τ _) := by
  induction pieces generalizing i with
  | nil => exact .pure rfl
  | cons piece rest ih =>
    have hline : Alike (.textual F) (fun l t => Line.canonical l = t)
        (d.regionLine n startsLine i piece : Reporting σ _)
        (Rewriting.indentPiece d.config.tabwidth (decide (i ≠ 0) || startsLine) piece :
          Reporting τ _) := by
      -- a document with lines has one at any number that is cut to the last
      have hlen : d.lines.length ≠ 0 := by
        intro h
        simp [Document.isEmpty, List.length_eq_zero_iff.1 h] at hd
      have hget : ∃ l, d.lines[min (i * d.lineCount / n) (d.lineCount - 1)]? = some l := by
        rw [Document.lineCount]
        exact ⟨_, List.getElem?_eq_getElem (by omega)⟩
      obtain ⟨l, hl⟩ := hget
      simp only [Document.regionLine, hl, orFault, pure_bind]
      by_cases hfirst : (i = 0 && !startsLine) = true
      · obtain ⟨rfl, rfl⟩ : i = 0 ∧ startsLine = false := by simpa using hfirst
        exact .pure (by simp [Line.canonical, LineKind.canonical, Text.copies])
      · have hlater : (decide (i ≠ 0) || startsLine) = true := by
          cases startsLine <;> simp_all
        rw [if_neg hfirst, hlater]
        exact normalize_alike_piece _ _ _
    have hrest := ih (i + 1)
    simp only [ne_eq, Nat.add_one_ne_zero, not_false_eq_true, decide_true, Bool.true_or] at hrest
    rw [Document.regionLines, Rewriting.indentPieces]
    refine hline.bind fun l t hl => hrest.bind fun ls ts hls => .pure ?_
    rw [Document.textOf_cons, hl, hls]

/-- The lines that take the place of some text are the pieces of the new one. -/
theorem replaceRegion_alike {d : Document Normalized} (hd : d.isEmpty = false) (text : String)
    (startsLine : Bool) :
    Alike (.textual F)
      (fun r t => ∃ new, r = .ok new ∧ new.WellFormed ∧ new.text = t)
      (d.replaceRegion text startsLine : Reporting σ _)
      (Rewriting.indentPieces d.config.tabwidth startsLine (Text.splitLines text) :
        Reporting τ _) := by
  rw [Document.replaceRegion]
  by_cases htext : text.isEmpty = true
  · have hpieces : Text.splitLines text = [] := by
      rw [String.isEmpty_iff.1 htext]
      rfl
    rw [if_pos htext, hpieces]
    exact .pure ⟨_, rfl, Document.wellFormed_empty _, rfl⟩
  · simp only [if_neg htext, hd]
    have h := regionLines_alike (σ := σ) (τ := τ) (F := F) hd (Text.splitLines text).length
      startsLine 0 (Text.splitLines text)
    rw [← bind_pure (Rewriting.indentPieces _ startsLine _ : Reporting τ _)]
    refine Alike.bind (by simpa using h) fun ls t hls => .pure ?_
    exact ⟨_, rfl, Document.wellFormed_ofLines _ _, (Document.text_ofLines _ _).trans hls⟩

/-! ## One replacement -/

/-- A directive at work on a document with the given configuration, and the same directive at work
on the text of the document. -/
structure Represents (config : Configuration) (r : Substitution) (t : Rewriting) : Prop where
  wellFormed : r.document.WellFormed
  config : r.document.config = config
  document : r.text = r.document.text
  text : r.text = t.text
  cursor : r.cursor = Text.size t.settled
  directive : t.directive = { r.directive with position := .nowhere }
  inBounds : Matcher.InBounds t.directive.find
  made : r.made = t.made
  budget : r.budget = t.budget
  seen : r.seen = t.seen.map fun s => (Text.size s, s)

/-- Steps that came to the same. -/
inductive SameStep (config : Configuration) : Substitution.Step → Rewriting.Step → Prop
  | replaced {r : Substitution} {t : Rewriting} (h : Represents config r t) :
      SameStep config (.replaced r) (.replaced t)
  | ended {d : Document Normalized} (hd : d.WellFormed) (hc : d.config = config) :
      SameStep config (.ended d) (.ended d.text)

namespace Represents

variable {config : Configuration} {r : Substitution} {t : Rewriting}

theorem remainder (h : Represents config r t) : r.remainder = t.remainder := by
  rw [Substitution.remainder, h.text, h.cursor]
  exact Text.dropBytes_append _ _

theorem find (h : Represents config r t) : r.directive.find = t.directive.find := by
  rw [h.directive]

theorem replacement (h : Represents config r t) (m : Match) :
    r.directive.replacement m = t.directive.replacement m := by
  rw [h.directive]
  rfl

/-- Remainders are compared with their lengths first, which changes nothing. -/
theorem hasSeen (h : Represents config r t) (text : String) :
    r.hasSeen text = t.seen.contains text := by
  rw [Substitution.hasSeen, h.seen, Bool.eq_iff_iff]
  simp only [List.any_map, List.any_eq_true, Function.comp_apply, Bool.and_eq_true, beq_iff_eq,
    List.contains_iff_mem]
  constructor
  · rintro ⟨s, hs, -, rfl⟩
    exact hs
  · intro hs
    exact ⟨text, hs, rfl, rfl⟩

theorem ended (h : Represents config r t) : SameStep config (.ended r.document) (.ended t.text) := by
  rw [← h.text, h.document]
  exact .ended h.wellFormed h.config

theorem stop_alike (h : Represents config r t) {kind : DiagnosticKind} (message : String)
    (hk : kind.severity < .fatal := by decide) :
    Alike (.textual F) (SameStep config) (r.stop kind message : Reporting σ _)
      (t.stop kind message : Reporting τ _) :=
  .andThen (.report (.ofKind trivial hk)) (.pure h.ended)

theorem stopAtEmptyMatch_alike (h : Represents config r t) (replacement : String) :
    Alike (.textual F) (SameStep config) (r.stopAtEmptyMatch replacement : Reporting σ _)
      (t.stopAtEmptyMatch replacement : Reporting τ _) := by
  rw [Substitution.stopAtEmptyMatch, Rewriting.stopAtEmptyMatch]
  split
  · exact h.stop_alike _
  · exact h.stop_alike _

/-- The border moves to the start of the match, and what took its place is searched again. -/
theorem next (h : Represents config r t) {a new c : String} {d : Document Normalized}
    (hd : d.WellFormed) (htext : d.text = t.settled ++ a ++ new ++ c) (hconfig : d.config = config)
    (seen : List String) :
    Represents config
      { r with
        document := d, text := d.text, cursor := Text.size (t.settled ++ a), made := t.made + 1
        budget := t.budget, seen := seen.map fun s => (Text.size s, s) }
      { t with settled := t.settled ++ a, remainder := new ++ c, made := t.made + 1, seen } where
  wellFormed := hd
  config := hconfig
  document := rfl
  text := by simp [Rewriting.text, htext, String.append_assoc]
  cursor := rfl
  directive := h.directive
  inBounds := h.inBounds
  made := rfl
  budget := rfl
  seen := rfl

theorem replace_alike (h : Represents config r t) {a b c : String}
    (ht : t.remainder = a ++ b ++ c) (hb : b ≠ "") (replacement : String) :
    Alike (.textual F) (SameStep config)
      (r.replace ⟨r.cursor + Text.size a, r.cursor + Text.size (a ++ b), replacement⟩ :
        Reporting σ _)
      (t.replace config.tabwidth a c replacement : Reporting τ _) := by
  have hstart : r.cursor + Text.size a = Text.size (t.settled ++ a) := by
    rw [h.cursor, Text.size_append]
  have hstop : r.cursor + Text.size (a ++ b) = Text.size (t.settled ++ a ++ b) := by
    rw [h.cursor, String.append_assoc, Text.size_append t.settled]
  have hdoc : r.document.text = t.settled ++ a ++ b ++ c := by
    rw [← h.document, h.text, Rewriting.text, ht]
    simp only [String.append_assoc]
  obtain ⟨old, hold, hwf, hotext, hoconfig⟩ := h.wellFormed.slice?_text hdoc hb
  have hfull : old.isEmpty = false := by
    rw [Bool.eq_false_iff, ne_eq, hwf.isEmpty_iff, hotext]
    exact hb
  simp only [Substitution.replace, Rewriting.replace, hstart, hstop, hold, orFault, pure_bind,
    h.made, h.budget]
  split
  · exact h.stop_alike _
  · rw [h.text]
    have hregion := replaceRegion_alike (σ := σ) (τ := τ) (F := F) hfull replacement
      (Text.startsLine t.text (Text.size (t.settled ++ a)))
    rw [hoconfig, h.config] at hregion
    refine hregion.bind fun res s hres => ?_
    obtain ⟨new, rfl, hnew, rfl⟩ := hres
    obtain ⟨d, hd, hdwf, hdtext, hdconfig⟩ := h.wellFormed.splice?_text hdoc hnew
    have hnext := h.next hdwf hdtext (hdconfig.trans h.config)
    have hrange : Text.replaceRange? t.text (Text.size (t.settled ++ a))
        (Text.size (t.settled ++ a ++ b)) new.text = some d.text := by
      rw [hdtext]
      exact Text.replaceRange?_append (by rw [← h.text, h.document, hdoc]) _
    simp only [hd, hrange, pure_bind]
    by_cases ha : a = ""
    · -- nothing was left behind: the new remainder is compared with the earlier ones
      subst ha
      have hsame : Text.size (t.settled ++ "") = r.cursor := by simp [h.cursor]
      rw [if_neg (not_not.2 hsame), if_neg (not_not.2 rfl)]
      have hstay := hnext t.seen
      rw [hsame, ← h.seen] at hstay
      simp only [hstay.remainder, h.hasSeen]
      split
      · exact hstay.stop_alike _
      · have hstay := hnext ((new.text ++ c) :: t.seen)
        rw [hsame, List.map_cons, ← h.seen] at hstay
        exact .pure (.replaced hstay)
    · have hmoved : Text.size (t.settled ++ a) ≠ r.cursor := by
        have := Text.size_eq_zero.not.2 ha
        rw [h.cursor, Text.size_append]
        omega
      rw [if_pos hmoved, if_pos ha]
      exact .pure (.replaced (hnext []))

theorem step_alike (h : Represents config r t) :
    Alike (.textual F) (SameStep config) (r.step : Reporting σ _)
      (t.step config.tabwidth : Reporting τ _) := by
  rw [Substitution.step, Rewriting.step, h.remainder, h.find]
  rcases hm : t.directive.find t.remainder with failure | - | m
  · exact .andThen (.report ((Echo.ofKind trivial).withCauses _)) (.pure h.ended)
  · exact .pure h.ended
  · obtain ⟨a, b, c, ht, hstart, hstop⟩ := h.inBounds _ _ hm
    have hafter : Text.dropBytes t.remainder m.stop = c := by rw [ht, hstop, Text.dropBytes_append]
    have hbefore : Text.takeBytes t.remainder m.start = a := by
      rw [ht, hstart, String.append_assoc, Text.takeBytes_append]
    simp only [Substitution.region, h.replacement, Nat.add_left_cancel_iff, hafter, hbefore]
    split
    · exact h.stopAtEmptyMatch_alike _
    · rename_i hne
      rw [hstart, hstop] at hne ⊢
      refine h.replace_alike ht ?_ _
      rintro rfl
      simp at hne

/-- By induction on the number of steps that are left. -/
theorem settleWithin_alike (fuel : Nat) (h : Represents config r t) :
    Alike (.textual F) (fun d s => d.WellFormed ∧ d.config = config ∧ d.text = s)
      (r.settleWithin fuel : Reporting σ _)
      (t.settleWithin config.tabwidth fuel : Reporting τ _) := by
  induction fuel generalizing r t with
  | zero =>
    refine .pure ⟨h.wellFormed, h.config, ?_⟩
    rw [← h.document, h.text]
  | succ fuel ih =>
    rw [Substitution.settleWithin, Rewriting.settleWithin]
    refine h.step_alike.bind fun _ _ hstep => ?_
    cases hstep with
    | replaced hnext => exact ih hnext
    | ended hd hc => exact .pure ⟨hd, hc, rfl⟩

end Represents

/-! ## The whole expansion -/

/-- Scans that came to the same. -/
inductive SameScan (config : Configuration) : Expansion.Scan → Rewriting.Scan → Prop
  | finished : SameScan config .finished .finished
  | skipped {d : Document Normalized} (hd : d.WellFormed) (hc : d.config = config) :
      SameScan config (.skipped d) (.skipped d.text)
  | found {r : Substitution} {t : Rewriting} (h : Represents config r t) :
      SameScan config (.found r) (.found t)

theorem SameScan.document? {config : Configuration} {x : Expansion.Scan} {y : Rewriting.Scan}
    (h : SameScan config x y) :
    Option.Rel (fun d s => d.WellFormed ∧ d.config = config ∧ d.text = s) x.document? y.text? := by
  cases h with
  | finished => exact .none
  | skipped hd hc => exact .some ⟨hd, hc, rfl⟩
  | found h => exact .some ⟨h.wellFormed, h.config, by rw [← h.document, h.text]⟩

section
variable {engine : Engine} (hE : engine.InBounds) (limits : Limits) {d : Document Normalized}
include hE

omit [Sink σ] hE in
/-- Every place of a document with lines has a position. -/
theorem positionAt_eq (hd : d.isEmpty = false) (offset : Nat) :
    ∃ position, (Expansion.positionAt d offset : Reporting σ _) = pure position := by
  have hlen : d.lines.length ≠ 0 := by
    intro h
    simp [Document.isEmpty, List.length_eq_zero_iff.1 h] at hd
  have hget : min (d.offsetOf offset).1 (d.lineCount - 1) < d.lines.length := by
    rw [Document.lineCount]
    omega
  refine ⟨(d.lines.get ⟨_, hget⟩).position, ?_⟩
  rw [Expansion.positionAt, List.getElem?_eq_getElem hget]
  rfl

omit [Sink σ] hE in
/-- The empty document has no position for any place. -/
theorem positionAt_empty (hd : d.isEmpty = true) (offset : Nat) :
    (Expansion.positionAt d offset : Reporting σ _) = throw (.fault .line) := by
  rw [Expansion.positionAt, List.isEmpty_iff.1 hd]
  rfl

omit hE in
/-- The position of a directive is looked up before it is taken out. -/
theorem takeOut_alike (hd : d.WellFormed) {m : Match}
    (hm : ∃ a b c, d.text = a ++ b ++ c ∧ m.start = Text.size a ∧ m.stop = Text.size (a ++ b))
    (hinner : ∀ inner, engine.compile ((m.named? "pattern").getD "") { extended := true } =
      .ok inner → Matcher.InBounds inner) (hF : d.text = "" → F) :
    Alike (.textual F) (SameScan d.config)
      (Expansion.takeOut engine limits d d.text m : Reporting σ _)
      (Rewriting.takeOut engine limits d.text m : Reporting τ _) := by
  rw [Expansion.takeOut, Rewriting.takeOut]
  by_cases hempty : d.text = ""
  · rw [positionAt_empty (hd.isEmpty_iff.2 hempty), if_pos hempty]
    exact .fault ⟨rfl, hF hempty⟩
  · obtain ⟨position, hpos⟩ := positionAt_eq (σ := σ) (d := d)
      (Bool.eq_false_iff.2 (hd.isEmpty_iff.not.2 hempty)) m.start
    obtain ⟨a, b, c, htext, hstart, hstop⟩ := hm
    obtain ⟨e, he, hwf, hetext, heconfig⟩ :=
      hd.splice?_text htext (Document.wellFormed_empty d.config)
    have hetext : e.text = a ++ c := by simpa [Document.text_empty] using hetext
    have hrange : Text.replaceRange? d.text m.start m.stop "" = some (a ++ c) := by
      rw [hstart, hstop, Text.replaceRange?_append htext]
      simp
    have hrest : Text.takeBytes d.text m.start ++ Text.dropBytes d.text m.stop = a ++ c := by
      rw [hstop, htext, Text.dropBytes_append, hstart, String.append_assoc, Text.takeBytes_append]
    rw [hpos, if_neg hempty]
    simp only [pure_bind, hstart, hstop, he, orFault]
    rw [← hstart, ← hstop, hrange, hrest]
    simp only [pure_bind]
    rcases hc : engine.compile ((m.named? "pattern").getD "") { extended := true } with
      failure | inner
    · refine .andThen (.report ((Echo.ofKind trivial).withCauses _)) (.pure ?_)
      rw [← hetext]
      exact .skipped hwf heconfig
    · refine .pure (.found ⟨hwf, heconfig, hetext.symm, ?_, rfl, rfl, hinner _ hc, rfl, rfl, rfl⟩)
      simp [Rewriting.text]

/-- A scan misses a line only when it finds a directive in the empty text. -/
theorem scan_alike_of (hd : d.WellFormed)
    (hF : d.text = "" → Rewriting.FindsInEmpty engine d.config.marker → F) :
    Alike (.textual F) (SameScan d.config) (Expansion.scan engine limits d : Reporting σ _)
      (Rewriting.scan engine limits d.config.marker d.text : Reporting τ _) := by
  rw [Expansion.scan, Rewriting.scan]
  have hmatcher : engine.directive d.config replaceDirective =
      Rewriting.directiveMatcher engine d.config.marker := rfl
  rw [hmatcher]
  rcases hc : Rewriting.directiveMatcher engine d.config.marker with failure | find
  · exact .pure .finished
  · simp only
    rcases hm : find d.text with failure | - | m
    · exact .andThen (.report (.ofKind trivial)) (.pure .finished)
    · exact .pure .finished
    · refine takeOut_alike limits hd (hE _ _ _ hc _ _ hm) (fun _ h => hE _ _ _ h) fun hempty =>
        hF hempty ?_
      rw [hempty] at hm
      exact ⟨find, m, hc, hm⟩

theorem scan_alike (hd : d.WellFormed) :
    Alike (.textual (Rewriting.FindsInEmpty engine d.config.marker)) (SameScan d.config)
      (Expansion.scan engine limits d : Reporting σ _)
      (Rewriting.scan engine limits d.config.marker d.text : Reporting τ _) :=
  scan_alike_of hE limits hd fun _ h => h

/-- By induction on the number of directives that are left. -/
theorem expandWithin_alike (total left : Nat) (hd : d.WellFormed) :
    Alike (.textual (Rewriting.FindsInEmpty engine d.config.marker))
      (fun e s => e.WellFormed ∧ e.config = d.config ∧ e.text = s)
      (Expansion.expandWithin engine limits total left d : Reporting σ _)
      (Rewriting.expandWithin engine limits d.config.marker d.config.tabwidth total left d.text :
        Reporting τ _) := by
  induction left generalizing d with
  | zero =>
    rw [Expansion.expandWithin, Rewriting.expandWithin]
    refine (scan_alike hE limits hd).bind fun x y hxy => ?_
    have hdoc := hxy.document?
    rcases hx : x.document? with - | e <;> rcases hy : y.text? with - | s <;>
      rw [hx, hy] at hdoc <;> cases hdoc
    · exact .pure ⟨hd, rfl, rfl⟩
    · exact .andThen (.report (.ofKind trivial)) (.pure ‹_›)
  | succ left ih =>
    rw [Expansion.expandWithin, Rewriting.expandWithin]
    refine (scan_alike hE limits hd).bind fun x y hxy => ?_
    cases hxy with
    | finished => exact .pure ⟨hd, rfl, rfl⟩
    | skipped he hc =>
      rw [← hc]
      exact ih he
    | found h =>
      rename_i r t
      simp only [Substitution.settle, h.budget, h.made]
      refine (h.settleWithin_alike (t.budget + 1 - t.made)).bind fun e s hes => ?_
      obtain ⟨he, hc, rfl⟩ := hes
      rw [← hc]
      exact ih he

end

/-! ## Runs on a plain collector -/

/-- What a plain collector makes of a run: the result, in one view of it, and the remarks. -/
def plainly {α β : Type} (view : α → β) (x : Reporting Collector α) :
    Except Halt β × List Remark :=
  let (result, sink) := x (.plain [])
  (result.map view, sink.diagnostics.map Diagnostic.remark)

theorem Script.plainly_play {α β : Type} (view : α → β) (s : Script α)
    (hs : ∀ d ∈ s.reports, d.severity < .fatal) :
    plainly view s.play = (outcome (s.ending.map view), s.reports.map Diagnostic.remark) := by
  obtain ⟨ds, u⟩ := s
  rw [plainly, Script.play_plain _ hs]
  cases u with
  | ok a => simp [outcome, Except.mapError, Except.map, Collector.diagnostics, Collector.plain]
  | error f => simp [outcome, Except.mapError, Except.map, Collector.diagnostics, Collector.plain]

theorem Alike.plainly_eq {α β γ : Type} {R : α → β → Prop} {x : Reporting Collector α}
    {y : Reporting Collector β} (h : Alike (.textual F) R x y) {f : α → γ} {g : β → γ}
    (hfg : ∀ a b, R a b → f a = g b) : plainly f x = plainly g y := by
  obtain ⟨⟨ds, u⟩, ⟨es, v⟩, rfl, rfl, hr, he⟩ := h
  obtain ⟨hds, hes⟩ := Echo.all_mild hr
  rw [Script.plainly_play f _ hds, Script.plainly_play g _ hes, Echo.map_remark hr]
  cases he with
  | ok hab => simp [Except.map, hfg _ _ hab]
  | fault _ => rfl

/-- A run ends well, or in the one fault that there is. -/
theorem Alike.ends {α β : Type} {R : α → β → Prop} {x : Reporting Collector α}
    {y : Reporting Collector β} (h : Alike (.textual F) R x y) :
    (∃ a, (x (.plain [])).1 = .ok a) ∨ (x (.plain [])).1 = .error (.fault .line) ∧ F := by
  obtain ⟨⟨ds, u⟩, ⟨es, v⟩, rfl, -, hr, he⟩ := h
  rw [Script.play_plain _ (Echo.all_mild hr).1]
  cases he with
  | ok _ => exact .inl ⟨_, rfl⟩
  | fault hf =>
    obtain ⟨rfl, hF⟩ := hf
    exact .inr ⟨rfl, hF⟩

end

/-! ## Expansion and the text -/

/-- A directive that is found in the empty text ends the rewriting. -/
theorem rewriteText_empty {σ : Type} [Sink σ] {engine : Engine} {marker : String}
    (h : Rewriting.FindsInEmpty engine marker) (substitutions : Option Nat)
    (directives tabwidth : Nat) :
    (rewriteText engine substitutions directives marker tabwidth "" : Reporting σ String) =
      throw (.fault .line) := by
  obtain ⟨find, m, hc, hm⟩ := h
  have hscan : ∀ limits, (Rewriting.scan engine limits marker "" : Reporting σ _) =
      throw (.fault .line) := by
    intro limits
    simp only [Rewriting.scan, hc, hm]
    exact if_pos rfl
  cases directives with
  | zero =>
    rw [rewriteText, Rewriting.expandWithin, hscan]
    rfl
  | succ n =>
    rw [rewriteText, Rewriting.expandWithin, hscan]
    rfl

/-- Expansion is the rewriting of the canonical text. For documents with one text, marker and
tabwidth a plain collector sees the same text come out and the same remarks, and `rewriteText` gives
these too. A document comes back unless a directive was found in the empty text, which ends the run;
so it does when the text is empty from the start. -/
theorem expand_textual {engine : Engine} (hE : engine.InBounds) (substitutions : Option Nat)
    (directives : Nat) {d e : Document Normalized} (hd : d.WellFormed) (he : e.WellFormed)
    (htext : d.text = e.text) (hmarker : d.config.marker = e.config.marker)
    (htabwidth : d.config.tabwidth = e.config.tabwidth) :
    let limits : Limits := ⟨substitutions, some directives⟩
    plainly Document.text (expand engine limits d) = plainly Document.text (expand engine limits e) ∧
    plainly Document.text (expand engine limits d) =
      plainly id (rewriteText engine substitutions directives d.config.marker d.config.tabwidth
        d.text) ∧
    ((∃ out, (expand engine limits d (Collector.plain [])).1 = .ok out) ∨
      (expand engine limits d (Collector.plain [])).1 = .error (.fault .line) ∧
        Rewriting.FindsInEmpty engine d.config.marker) ∧
    (d.text = "" → Rewriting.FindsInEmpty engine d.config.marker →
      (expand engine limits d (Collector.plain [])).1 = .error (.fault .line)) := by
  intro limits
  have hd' := expandWithin_alike (σ := Collector) (τ := Collector) hE limits directives
    directives hd
  have he' := expandWithin_alike (σ := Collector) (τ := Collector) hE limits directives
    directives he
  have hview : ∀ (d : Document Normalized) (e : Document Normalized) (s : String),
      e.WellFormed ∧ e.config = d.config ∧ e.text = s → e.text = id s := fun _ _ _ h => h.2.2
  have hplain := hd'.plainly_eq (hview d)
  refine ⟨?_, hplain, hd'.ends, fun hempty hfinds => ?_⟩
  · refine hplain.trans (.trans ?_ (he'.plainly_eq (hview e)).symm)
    rw [htext, hmarker, htabwidth]
  · have hrun : (expand engine limits d (Collector.plain [])).1.map Document.text =
        .error (.fault .line) := by
      refine (congrArg Prod.fst hplain).trans ?_
      rw [hempty, ← rewriteText, rewriteText_empty hfinds]
      rfl
    rcases hres : (expand engine limits d (Collector.plain [])).1 with h | out
    · rw [hres] at hrun
      simpa [Except.map] using hrun
    · simp [hres, Except.map] at hrun

/-! ## An instance -/

/-- The engine, with every answer left out that is no part of the text. -/
def Engine.checked (engine : Engine) : Engine where
  compile source flags :=
    (engine.compile source flags).map fun find text =>
      match find text with
      | .ok (some m) =>
        if m.start ≤ m.stop ∧ Text.isCut text m.start ∧ Text.isCut text m.stop then .ok (some m)
        else .ok none
      | answer => answer

theorem Engine.checked_inBounds (engine : Engine) : engine.checked.InBounds := by
  intro source flags find hfind text m hm
  rcases hc : engine.compile source flags with failure | inner
  · simp [Engine.checked, hc, Except.map] at hfind
  · simp only [Engine.checked, hc, Except.map, Except.ok.injEq] at hfind
    subst hfind
    rcases ht : inner text with failure | - | m'
    · simp [ht] at hm
    · simp [ht] at hm
    · simp only [ht] at hm
      split at hm
      · rename_i hcuts
        obtain ⟨hle, hstart, hstop⟩ := hcuts
        obtain rfl : m' = m := by simpa using hm
        obtain ⟨a, rest, ha, hsa⟩ := Text.isCut_iff.1 hstart
        obtain ⟨ab, c, hab, hsab⟩ := Text.isCut_iff.1 hstop
        obtain ⟨b, rfl, -⟩ := Text.append_split (ha.symm.trans hab) (by omega)
        exact ⟨a, b, c, hab, hsa.symm, hsab.symm⟩
      · simp at hm

/-- A directive and a text with one match, one line for each physical line. -/
def wholeLines : Document Normalized :=
  .ofLines [⟨⟨⟨"a"⟩, 1⟩, ⟨0, "replacelit b\n"⟩⟩, ⟨⟨⟨"a"⟩, 2⟩, ⟨1, "xb\n"⟩⟩,
    ⟨⟨⟨"a"⟩, 3⟩, ⟨0, "abc\n"⟩⟩] {}

/-- The same text, cut inside the directive and inside the match, from other files. -/
def cutLines : Document Normalized :=
  .ofLines [⟨⟨⟨"p"⟩, 7⟩, ⟨0, "replacelit b\n\tx"⟩⟩, ⟨⟨⟨"q"⟩, 2⟩, ⟨0, "b\na"⟩⟩,
    ⟨⟨⟨"r"⟩, 5⟩, ⟨0, "bc\n"⟩⟩] {}

/-- The replacement brings the match back, so the limit on substitutions is what ends the
directive. -/
theorem expand_textual_cutLines :
    wholeLines.text = cutLines.text ∧
    plainly Document.text (expand Engine.standard.checked ⟨some 3, some 2⟩ wholeLines) =
      plainly Document.text (expand Engine.standard.checked ⟨some 3, some 2⟩ cutLines) ∧
    plainly Document.text (expand Engine.standard.checked ⟨some 3, some 2⟩ wholeLines) =
      (.ok "axxxbc\n", [⟨.nonTerminatingReplacement, .high, "Still matching after 3 rewrites",
        none⟩]) := by
  have htext : wholeLines.text = cutLines.text := by decide
  have hsame := expand_textual Engine.standard.checked_inBounds (some 3) 2
    (Document.wellFormed_ofLines _ _ : wholeLines.WellFormed)
    (Document.wellFormed_ofLines _ _ : cutLines.WellFormed) htext rfl rfl
  refine ⟨htext, hsame.1, ?_⟩
  rw [← Engine.prepared_eq]
  decide +kernel

end SourcePrep
