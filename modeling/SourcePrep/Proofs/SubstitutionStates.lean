import SourcePrep.Proofs.ExpansionFaults
import SourcePrep.Proofs.PreparedPatterns

/-!
# The states of a directive at work

A directive at work keeps two copies of its text: the document, which is spliced line by line, and
the text, in which a range of bytes is replaced. `Substitution.step` gives up the state when it ends
the directive, so `Substitution.attempt` is the same step with the state kept, and
`step_eq_attempt` says that nothing else differs.

* `Attempted`: everything that a step can do to a state.
* `Consistent`: the two copies agree and the cursor is a place between two characters. A step keeps
  it (`Attempted.consistent`), so every state has it that a directive comes to (`Live.consistent`).
* `settleWithin_reached`: what comes out of a directive is the document of such a state.
* `reached_consistent`: what follows for `step`, from the state that a scan sets out from up to the
  last one.
-/

set_option autoImplicit false

namespace SourcePrep

namespace Substitution

/-! ## Steps that keep their state -/

/-- What a step came to. -/
inductive Outcome
  | replaced
  /-- The pattern does not match any more. -/
  | unmatched
  /-- The matcher failed. -/
  | failed
  | emptyMatch
  /-- The budget has no room for the match. -/
  | spent
  /-- There is no line that the replacement could take its position from. -/
  | refused
  /-- The remainder was there before. -/
  | cycling
  deriving DecidableEq, Repr

/-- The directive goes on only after it has replaced a match. -/
def Outcome.step (outcome : Outcome) (next : Substitution) : Step :=
  match outcome with
  | .replaced => .replaced next
  | _ => .ended next.document

section
variable {σ : Type} [Sink σ]

/-- End the directive with a report. -/
def halt (r : Substitution) (outcome : Outcome) (kind : DiagnosticKind) (message : String) :
    Reporting σ (Outcome × Substitution) := do
  report (.ofKind kind message r.directive.position)
  return (outcome, r)

/-- Replace a region, unless the budget is spent. The match is counted in either case. -/
def attemptAt (r : Substitution) (m : Region) : Reporting σ (Outcome × Substitution) := do
  let counted := { r with made := r.made + 1 }
  if r.budget < counted.made then
    counted.halt .spent .nonTerminatingReplacement s!"Still matching after {r.budget} rewrites"
  else
    let old ← orFault .cut (r.document.slice? m.start m.stop)
    match ← old.replaceRegion m.replacement (Text.startsLine r.text m.start) with
    | .error e => counted.halt .refused .invalidReplacement e.message
    | .ok new =>
      let document ← orFault .cut (r.document.splice? m.start m.stop new)
      let text ← orFault .cut (Text.replaceRange? r.text m.start m.stop new.text)
      let next := { counted with document, text }
      if m.start ≠ r.cursor then
        return (.replaced, { next with cursor := m.start, seen := [] })
      else
        let remainder := next.remainder
        if r.hasSeen remainder then
          next.halt .cycling .nonTerminatingReplacement "Rewriting cycles back to an earlier text"
        else return (.replaced, { next with seen := (Text.size remainder, remainder) :: r.seen })

/-- Replace the first match in the remainder. -/
def attempt (r : Substitution) : Reporting σ (Outcome × Substitution) :=
  match r.directive.find r.remainder with
  | .ok none => return (.unmatched, r)
  | .error failure => do
    report <|
      (Diagnostic.ofKind .patternExecutionError "Replace pattern failed while matching"
        r.directive.position).withCauses failure.causes
    return (.failed, r)
  | .ok (some m) =>
    let region := r.region m
    if region.start = region.stop then
      if region.replacement.isEmpty then
        r.halt .emptyMatch .nonTerminatingReplacement
          "Pattern matches the empty string and would rewrite forever"
      else
        r.halt .emptyMatch .invalidReplacement
          s!"Cannot insert {Text.size region.replacement} bytes at an empty match"
    else r.attemptAt region

theorem stop_eq_halt (r : Substitution) {outcome : Outcome} (h : outcome ≠ .replaced)
    (kind : DiagnosticKind) (message : String) :
    (r.stop kind message : Reporting σ _) = do
      let p ← r.halt outcome kind message
      return p.1.step p.2 := by
  cases outcome with
  | replaced => exact absurd rfl h
  | _ => simp [stop, halt, Outcome.step]

theorem replace_eq_attemptAt (r : Substitution) (m : Region) :
    (r.replace m : Reporting σ _) = do
      let p ← r.attemptAt m
      return p.1.step p.2 := by
  by_cases hspent : r.budget < r.made + 1
  · simp only [replace, attemptAt, if_pos hspent]
    exact stop_eq_halt { r with made := r.made + 1 } (by decide : Outcome.spent ≠ .replaced) _ _
  · simp only [replace, attemptAt, if_neg hspent, bind_assoc]
    refine bind_congr fun old => bind_congr fun result => ?_
    cases result with
    | error e =>
      exact stop_eq_halt { r with made := r.made + 1 } (by decide : Outcome.refused ≠ .replaced) _ _
    | ok new =>
      simp only [bind_assoc]
      refine bind_congr fun document => bind_congr fun text => ?_
      by_cases hmoved : m.start ≠ r.cursor
      · simp only [if_pos hmoved, pure_bind, Outcome.step]
      · simp only [if_neg hmoved]
        split
        · exact stop_eq_halt _ (by decide : Outcome.cycling ≠ .replaced) _ _
        · simp only [pure_bind, Outcome.step]

/-- A step comes to what the step that keeps its state comes to. -/
theorem step_eq_attempt (r : Substitution) :
    (r.step : Reporting σ _) = do
      let p ← r.attempt
      return p.1.step p.2 := by
  rw [step, attempt]
  rcases r.directive.find r.remainder with failure | - | m
  · simp only [bind_assoc, pure_bind, Outcome.step]
  · simp only [pure_bind, Outcome.step]
  · simp only [stopAtEmptyMatch]
    by_cases hempty : (r.region m).start = (r.region m).stop
    · simp only [if_pos hempty]
      split
      · exact stop_eq_halt r (by decide : Outcome.emptyMatch ≠ .replaced) _ _
      · exact stop_eq_halt r (by decide : Outcome.emptyMatch ≠ .replaced) _ _
    · simp only [if_neg hempty]
      exact replace_eq_attemptAt r _

end

/-! ## What a step can do -/

/-- The document and the text of a directive are the same, and the cursor is a place in them. -/
structure Consistent (r : Substitution) : Prop where
  wellFormed : r.document.WellFormed
  text : r.text = r.document.text
  cursor : Text.isCut r.text r.cursor = true
  inBounds : Matcher.InBounds r.directive.find

/-- All that a step can do to a state: count a match, or put a text in place of a part that is not
empty and lies behind the cursor, which moves to the start of it. -/
inductive Attempted (r : Substitution) : Outcome → Substitution → Prop
  | unmatched : Attempted r .unmatched r
  | failed : Attempted r .failed r
  | emptyMatch : Attempted r .emptyMatch r
  | spent (full : r.budget < r.made + 1) : Attempted r .spent { r with made := r.made + 1 }
  | edited {outcome : Outcome} {before old new after : String} {document : Document Normalized}
      {seen : List (Nat × String)} (edits : outcome = .replaced ∨ outcome = .cycling)
      (room : r.made + 1 ≤ r.budget) (split : r.text = before ++ old ++ after)
      (behind : r.cursor ≤ Text.size before) (wellFormed : document.WellFormed)
      (text : document.text = before ++ new ++ after) :
      Attempted r outcome
        { r with
          document, text := document.text, cursor := Text.size before, made := r.made + 1, seen }

namespace Consistent

variable {r : Substitution}

/-- A match in the remainder lies behind the cursor in the text. -/
theorem split_at_match (h : r.Consistent) {m : Match}
    (hm : r.directive.find r.remainder = .ok (some m)) :
    ∃ before old after, r.text = before ++ old ++ after ∧ r.cursor ≤ Text.size before ∧
      (r.region m).start = Text.size before ∧ (r.region m).stop = Text.size (before ++ old) := by
  obtain ⟨settled, rest, htext, hcursor⟩ := Text.isCut_iff.1 h.cursor
  have hrest : r.remainder = rest := by
    rw [remainder, htext, ← hcursor, Text.dropBytes_append]
  rw [hrest] at hm
  obtain ⟨a, b, c, rfl, hstart, hstop⟩ := h.inBounds _ _ hm
  refine ⟨settled ++ a, b, c, ?_, ?_, ?_, ?_⟩
  · rw [htext]
    simp only [String.append_assoc]
  · rw [Text.size_append, hcursor]
    exact Nat.le_add_right _ _
  · rw [region, hstart, Text.size_append, hcursor]
  · rw [region, hstop, String.append_assoc, Text.size_append settled, hcursor]

/-- What a match is cut out of the document as has lines. -/
theorem slice_full (h : r.Consistent) {before old after : String}
    (hsplit : r.text = before ++ old ++ after) (hold : old ≠ "") :
    ∃ lines, r.document.slice? (Text.size before) (Text.size (before ++ old)) = some lines ∧
      lines.isEmpty = false := by
  rw [h.text] at hsplit
  obtain ⟨lines, hlines, hwf, htext, -⟩ := h.wellFormed.slice?_text hsplit hold
  refine ⟨lines, hlines, ?_⟩
  rw [Bool.eq_false_iff, ne_eq, hwf.isEmpty_iff, htext]
  exact hold

section
variable {σ : Type} [Sink σ]

theorem halt_returns (t : Substitution) (outcome : Outcome) (kind : DiagnosticKind)
    (message : String) :
    Returns (t.halt outcome kind message : Reporting σ _) (· = (outcome, t)) :=
  .after fun _ => .pure rfl

theorem attemptAt_returns (h : r.Consistent) {m : Region} {before old after : String}
    (hsplit : r.text = before ++ old ++ after) (hbehind : r.cursor ≤ Text.size before)
    (hold : old ≠ "") (hstart : m.start = Text.size before)
    (hstop : m.stop = Text.size (before ++ old)) :
    Returns (r.attemptAt m : Reporting σ _) fun p => r.Attempted p.1 p.2 := by
  obtain ⟨lines, hlines, hfull⟩ := h.slice_full hsplit hold
  simp only [attemptAt, hstart, hstop, hlines, orFault, pure_bind]
  split
  · rename_i hspent
    refine (halt_returns _ _ _ _).mono ?_
    rintro _ rfl
    exact .spent hspent
  · rename_i hroom
    -- the lines that are replaced give the new ones their positions
    have hregion := (replaceRegion_alike (σ := σ) (τ := Collector) (F := False) hfull
      m.replacement (Text.startsLine r.text (Text.size before))).returns
    refine hregion.bind fun result hresult => ?_
    obtain ⟨_, new, rfl, hnew, -⟩ := hresult
    have hdocument := hsplit
    rw [h.text] at hdocument
    obtain ⟨document, hd, hwf, htext, -⟩ := h.wellFormed.splice?_text hdocument hnew
    have hrange : Text.replaceRange? r.text (Text.size before) (Text.size (before ++ old))
        new.text = some document.text := by
      rw [htext, Text.replaceRange?_append hsplit]
    have hedited : ∀ {outcome} seen, outcome = .replaced ∨ outcome = .cycling →
        r.Attempted outcome { r with
          document, text := document.text, cursor := Text.size before, made := r.made + 1, seen } :=
      fun seen hedits => .edited hedits (by omega) hsplit hbehind hwf htext
    simp only [hd, hrange, pure_bind]
    by_cases hmoved : Text.size before ≠ r.cursor
    · rw [if_pos hmoved]
      exact .pure (hedited [] (.inl rfl))
    · rw [if_neg hmoved]
      rw [not_not.1 hmoved] at hedited
      split
      · refine (halt_returns _ _ _ _).mono ?_
        rintro _ rfl
        exact hedited r.seen (.inr rfl)
      · exact .pure (hedited _ (.inl rfl))

/-- What a step does to a consistent state. It never meets a replacement without lines to take a
position from. -/
theorem attempt_returns (h : r.Consistent) :
    Returns (r.attempt : Reporting σ _) fun p => r.Attempted p.1 p.2 := by
  rw [attempt]
  rcases hm : r.directive.find r.remainder with failure | - | m
  · exact .after fun _ => .pure .failed
  · exact .pure .unmatched
  · obtain ⟨before, old, after, hsplit, hbehind, hstart, hstop⟩ := h.split_at_match hm
    simp only
    split
    · split
      · refine (halt_returns _ _ _ _).mono ?_
        rintro _ rfl
        exact .emptyMatch
      · refine (halt_returns _ _ _ _).mono ?_
        rintro _ rfl
        exact .emptyMatch
    · rename_i hne
      refine h.attemptAt_returns hsplit hbehind ?_ hstart hstop
      rintro rfl
      exact hne (by rw [hstart, hstop, String.append_empty])

end

end Consistent

namespace Attempted

variable {r next : Substitution} {outcome : Outcome}

theorem consistent (h : r.Attempted outcome next) (hr : r.Consistent) : next.Consistent := by
  cases h with
  | unmatched | failed | emptyMatch => exact hr
  | spent => exact ⟨hr.wellFormed, hr.text, hr.cursor, hr.inBounds⟩
  | @edited _ before old new after document seen edits room split behind wellFormed text =>
    refine ⟨wellFormed, rfl, Text.isCut_iff.2 ⟨before, new ++ after, ?_, rfl⟩, hr.inBounds⟩
    rw [text, String.append_assoc]

theorem budget_eq (h : r.Attempted outcome next) : next.budget = r.budget := by
  cases h <;> rfl

/-- A step that goes on has had room for its match. -/
theorem made_le (h : r.Attempted .replaced next) : next.made ≤ next.budget := by
  cases h with
  | edited _ room => exact room

/-- The last step may count one match more. -/
theorem made_le_succ (h : r.Attempted outcome next) (hr : r.made ≤ r.budget) :
    next.made ≤ next.budget + 1 := by
  cases h with
  | unmatched | failed | emptyMatch => exact Nat.le_succ_of_le hr
  | spent => exact Nat.succ_le_succ hr
  | edited _ room => exact Nat.le_succ_of_le room

/-- The cursor does not move back, and nothing before it changes. -/
theorem keeps_front (h : r.Attempted outcome next) (hr : r.Consistent) :
    r.cursor ≤ next.cursor ∧ ∃ front rest rest', r.text = front ++ rest ∧
      next.text = front ++ rest' ∧ Text.size front = next.cursor := by
  have hstays : ∀ t : Substitution, t.text = r.text → t.cursor = r.cursor →
      r.cursor ≤ t.cursor ∧ ∃ front rest rest', r.text = front ++ rest ∧
        t.text = front ++ rest' ∧ Text.size front = t.cursor := by
    intro t htext hcursor
    obtain ⟨front, rest, hsplit, hsize⟩ := Text.isCut_iff.1 hr.cursor
    exact ⟨hcursor.ge, front, rest, rest, hsplit, htext.trans hsplit, hsize.trans hcursor.symm⟩
  cases h with
  | unmatched | failed | emptyMatch | spent => exact hstays _ rfl rfl
  | @edited _ before old new after document seen edits room split behind wellFormed text =>
    refine ⟨behind, before, old ++ after, new ++ after, ?_, ?_, rfl⟩
    · rw [split, String.append_assoc]
    · rw [← String.append_assoc]
      exact text

theorem not_refused (h : r.Attempted outcome next) : outcome ≠ .refused := by
  cases h with
  | unmatched | failed | emptyMatch | spent => decide
  | edited edits =>
    rcases edits with rfl | rfl <;> decide

end Attempted

/-! ## The states that a directive comes to -/

section
variable {σ : Type} [Sink σ]

/-- The states of a directive at work: the first one, and those that replacements lead to. -/
inductive Live (σ : Type) [Sink σ] (first : Substitution) : Substitution → Prop
  | first : Live σ first first
  | replaced {r next : Substitution} {s t : σ} (live : Live σ first r)
      (step : (r.attempt : Reporting σ _) s = (.ok (.replaced, next), t)) : Live σ first next

/-- The states that a directive comes to, with the one that it is left in by its last step. -/
inductive Reached (σ : Type) [Sink σ] (first : Substitution) : Substitution → Prop
  | live {r : Substitution} (live : Live σ first r) : Reached σ first r
  | last {r next : Substitution} {outcome : Outcome} {s t : σ} (live : Live σ first r)
      (step : (r.attempt : Reporting σ _) s = (.ok (outcome, next), t)) : Reached σ first next

variable {first r : Substitution}

theorem Live.consistent (h : Live σ first r) (hfirst : first.Consistent)
    (hmade : first.made ≤ first.budget) :
    r.Consistent ∧ r.made ≤ r.budget ∧ r.budget = first.budget := by
  induction h with
  | first => exact ⟨hfirst, hmade, rfl⟩
  | replaced _ step ih =>
    obtain ⟨hr, -, hbudget⟩ := ih
    have hattempted := hr.attempt_returns _ _ _ step
    exact ⟨hattempted.consistent hr, hattempted.made_le, hattempted.budget_eq.trans hbudget⟩

theorem Reached.consistent (h : Reached σ first r) (hfirst : first.Consistent)
    (hmade : first.made ≤ first.budget) :
    r.Consistent ∧ r.made ≤ r.budget + 1 ∧ r.budget = first.budget := by
  cases h with
  | live live =>
    obtain ⟨hr, hle, hbudget⟩ := live.consistent hfirst hmade
    exact ⟨hr, Nat.le_succ_of_le hle, hbudget⟩
  | last live step =>
    obtain ⟨hr, hle, hbudget⟩ := live.consistent hfirst hmade
    have hattempted := hr.attempt_returns _ _ _ step
    exact ⟨hattempted.consistent hr, hattempted.made_le_succ hle,
      hattempted.budget_eq.trans hbudget⟩

/-- What comes out of a directive is the document of a state that it came to. -/
theorem settleWithin_reached {fuel : Nat} (h : Live σ first r) {s t : σ} {d : Document Normalized}
    (hrun : (r.settleWithin fuel : Reporting σ _) s = (.ok d, t)) :
    ∃ last, Reached σ first last ∧ d = last.document := by
  induction fuel generalizing r s with
  | zero =>
    cases hrun
    exact ⟨r, .live h, rfl⟩
  | succ fuel ih =>
    rw [settleWithin, step_eq_attempt, bind_assoc] at hrun
    obtain ⟨⟨outcome, next⟩, s', hstep, hrest⟩ := run_bind_result hrun
    rw [pure_bind] at hrest
    cases outcome with
    | replaced => exact ih (.replaced h hstep) hrest
    | _ =>
      cases hrest
      exact ⟨next, .last h hstep, rfl⟩

end

theorem Consistent.of_represents {config : Configuration} {r : Substitution} {t : Rewriting}
    (h : Represents config r t) : r.Consistent where
  wellFormed := h.wellFormed
  text := h.document
  cursor := Text.isCut_iff.2 ⟨t.settled, t.remainder, h.text, h.cursor.symm⟩
  inBounds := by
    rw [h.find]
    exact h.inBounds

/-- A directive sets out from a consistent state, and has replaced nothing. -/
theorem Consistent.of_scan {engine : Engine} (hE : engine.InBounds) {limits : Limits}
    {d : Document Normalized} (hd : d.WellFormed) {σ : Type} [Sink σ] {s t : σ}
    {first : Substitution}
    (hscan : (Expansion.scan engine limits d : Reporting σ _) s = (.ok (.found first), t)) :
    first.Consistent ∧ first.made ≤ first.budget := by
  obtain ⟨_, hfound⟩ := (scan_alike (τ := Collector) hE limits hd).returns _ _ _ hscan
  obtain ⟨hmade, -⟩ := Expansion.scan_returns engine limits d _ _ _ hscan
  cases hfound with
  | found h => exact ⟨.of_represents h, hmade ▸ Nat.zero_le _⟩

/-- The state of a directive stays consistent under `step`, from the one that a scan sets out from to
the one that the last step leaves: the text is that of the document, the cursor is a place in it, and
no more than one match above the budget is counted. A step does not move the cursor back and changes
nothing before it. What is cut out to be replaced has lines, so the replacement is not refused for
want of a position.

The last step gives up the state and keeps the document alone. So the states are those of `attempt`,
of which a step is what its outcome says, and the document that a directive ends with is the one of
its last state. -/
theorem reached_consistent {engine : Engine} (hE : engine.InBounds) (limits : Limits)
    {d : Document Normalized} (hd : d.WellFormed) {σ : Type} [Sink σ] {s t : σ}
    {first : Substitution}
    (hscan : (Expansion.scan engine limits d : Reporting σ _) s = (.ok (.found first), t)) :
    (∀ r, Reached σ first r → r.text = r.document.text ∧ r.cursor ≤ Text.size r.text ∧
      Text.isCut r.text r.cursor = true ∧ r.made ≤ r.budget + 1 ∧ r.budget = first.budget) ∧
    (∀ r outcome next (s t : σ), Live σ first r →
      (r.attempt : Reporting σ _) s = (.ok (outcome, next), t) →
        r.cursor ≤ next.cursor ∧ (∃ front rest rest', r.text = front ++ rest ∧
          next.text = front ++ rest' ∧ Text.size front = next.cursor) ∧ outcome ≠ .refused) ∧
    (∀ r m, Live σ first r → r.directive.find r.remainder = .ok (some m) → m.start ≠ m.stop →
      ∃ old, r.document.slice? (r.region m).start (r.region m).stop = some old ∧
        old.isEmpty = false) ∧
    (∀ r : Substitution, (r.step : Reporting σ _) = do
      let p ← r.attempt
      return p.1.step p.2) ∧
    (∀ fuel e (s t : σ), (first.settleWithin fuel : Reporting σ _) s = (.ok e, t) →
      ∃ last, Reached σ first last ∧ e = last.document) := by
  obtain ⟨hfirst, hmade⟩ := Consistent.of_scan hE hd hscan
  refine ⟨fun r hr => ?_, fun r outcome next s t hr hstep => ?_, fun r m hr hm hne => ?_,
    step_eq_attempt, fun fuel e s t => settleWithin_reached .first⟩
  · obtain ⟨hconsistent, hle, hbudget⟩ := hr.consistent hfirst hmade
    obtain ⟨front, rest, htext, hsize⟩ := Text.isCut_iff.1 hconsistent.cursor
    refine ⟨hconsistent.text, ?_, hconsistent.cursor, hle, hbudget⟩
    rw [htext, Text.size_append, hsize]
    exact Nat.le_add_right _ _
  · obtain ⟨hconsistent, -⟩ := hr.consistent hfirst hmade
    have hattempted := hconsistent.attempt_returns _ _ _ hstep
    obtain ⟨hcursor, hfront⟩ := hattempted.keeps_front hconsistent
    exact ⟨hcursor, hfront, hattempted.not_refused⟩
  · obtain ⟨hconsistent, -⟩ := hr.consistent hfirst hmade
    obtain ⟨before, old, after, hsplit, -, hstart, hstop⟩ := hconsistent.split_at_match hm
    rw [hstart, hstop]
    refine hconsistent.slice_full hsplit ?_
    rintro rfl
    rw [String.append_empty, ← hstart] at hstop
    simp only [region] at hstop
    omega

/-- The scan came to a directive that can be applied. -/
def isFound : Expansion.Scan → Bool
  | .found _ => true
  | .finished => false
  | .skipped _ => false

/-- The first state of the directive of a document. -/
theorem reached_consistent_wholeLines :
    ∃ first t, (Expansion.scan Engine.standard.checked ⟨some 3, some 2⟩ wholeLines :
        Reporting Collector _) (.plain []) = (.ok (.found first), t) ∧
      ∀ r, Reached Collector first r → r.text = r.document.text ∧ r.cursor ≤ Text.size r.text ∧
        Text.isCut r.text r.cursor = true ∧ r.made ≤ r.budget + 1 ∧ r.budget = first.budget := by
  have hfound : (((Expansion.scan Engine.standard.checked ⟨some 3, some 2⟩ wholeLines :
      Reporting Collector _) (.plain [])).1.toOption.any isFound) = true := by
    rw [← Engine.prepared_eq]
    decide +kernel
  rcases hscan : (Expansion.scan Engine.standard.checked ⟨some 3, some 2⟩ wholeLines :
      Reporting Collector _) (.plain []) with ⟨halt | scan, t⟩
  · rw [hscan] at hfound
    cases hfound
  · rw [hscan] at hfound
    cases scan with
    | finished => cases hfound
    | skipped => cases hfound
    | found first =>
      have hwf : wholeLines.WellFormed := Document.wellFormed_ofLines _ _
      exact ⟨first, t, rfl,
        (reached_consistent Engine.standard.checked_inBounds _ hwf hscan).1⟩

end Substitution

end SourcePrep
