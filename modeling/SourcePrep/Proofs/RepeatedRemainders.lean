import SourcePrep.Proofs.UnlimitedRewriting

/-!
# The check for repeated remainders

A directive remembers the remainders that it came to since its cursor last moved, and ends when one
of them comes back. Nothing is lost by that.

* `Tracked`: whatever the directive remembers has led to where it stands, by replacements that left
  the text before the cursor alone.
* `step_eq_rewrite`: while there is room in the budget, a step is a replacement of the process
  without limits, and a look at what is remembered.
* `settle_no_false_alarm`: if the process without limits ends within the budget, the directive does
  the same and reports no endless replacement; and if the directive reports that an earlier text
  came back, the process without limits never ends.
-/

set_option autoImplicit false

namespace SourcePrep

/-! ## The directive at work -/

namespace Substitution

/-- What the directive works on. -/
def workpiece (r : Substitution) : Workpiece := ⟨r.document, r.text, r.cursor⟩

/-- The directive after a replacement. The remainder is remembered while the cursor stays. -/
def advance (r : Substitution) (p : Workpiece) : Substitution :=
  { r with
    document := p.document, text := p.text, cursor := p.cursor, made := r.made + 1
    seen := if p.cursor = r.cursor then (Text.size p.remainder, p.remainder) :: r.seen else [] }

/-- A replacement left the cursor in its place and led to a remainder that is remembered. -/
def comesBack (r : Substitution) (p : Workpiece) : Bool :=
  p.cursor = r.cursor && r.hasSeen p.remainder

/-- What the directive makes of a replacement of the unlimited process. -/
def conclude {σ : Type} [Sink σ] (r : Substitution) (m : Match) :
    Option Workpiece → Reporting σ Step
  | none => r.stop .invalidReplacement
      (EmptyRegion.message ⟨Text.size (r.directive.replacement m)⟩)
  | some p =>
    if r.comesBack p then
      (r.advance p).stop .nonTerminatingReplacement "Rewriting cycles back to an earlier text"
    else return .replaced (r.advance p)

/-- While there is room in the budget, a step makes the replacement of the unlimited process. -/
theorem step_eq_rewrite {σ : Type} [Sink σ] {r : Substitution} {m : Match}
    (hm : r.directive.find r.remainder = .ok (some m)) (hne : m.start ≠ m.stop)
    (hbudget : r.made < r.budget) :
    (r.step : Reporting σ _) = r.workpiece.rewrite r.directive >>= r.conclude m := by
  have hregion : ¬ r.cursor + m.start = r.cursor + m.stop := by omega
  have hroom : ¬ r.budget < r.made + 1 := by omega
  have hm' : r.directive.find r.workpiece.remainder = .ok (some m) := hm
  simp only [step, hm, region, if_neg hregion, replace, if_neg hroom, Workpiece.rewrite, hm',
    if_neg hne, bind_assoc]
  refine bind_congr fun old => replaceRegion_bind_congr (by rw [pure_bind]; rfl) fun new => ?_
  simp only [bind_assoc]
  refine bind_congr fun document => bind_congr fun text => ?_
  simp only [pure_bind, conclude, comesBack, advance, Substitution.remainder, Workpiece.remainder,
    workpiece]
  by_cases hmoved : r.cursor + m.start = r.cursor
  · simp only [hmoved, ne_eq, not_true_eq_false, if_false, decide_true, Bool.true_and, if_true]
    rfl
  · simp only [hmoved, ne_eq, not_false_eq_true, if_true, decide_false, Bool.false_and,
      Bool.false_eq_true, if_false]

theorem step_of_rewrite {σ : Type} [Sink σ] {r : Substitution} {p : Workpiece} {s t : σ}
    (h : r.workpiece.rewrite r.directive s = (.ok (some p), t)) (hbudget : r.made < r.budget) :
    r.step s =
      (if r.comesBack p then
        (r.advance p).stop .nonTerminatingReplacement "Rewriting cycles back to an earlier text"
      else pure (.replaced (r.advance p)) : Reporting σ _) t := by
  obtain ⟨m, hm, hne⟩ := Workpiece.match_of_rewrite h
  rw [step_eq_rewrite hm hne hbudget, run_bind_ok h]
  rfl

/-- Whatever the directive remembers led to where it stands, at this cursor. -/
structure Tracked (r : Substitution) : Prop where
  sound : r.workpiece.Sound
  seen : ∀ e ∈ r.seen, r.directive.Leads r.document.config.tabwidth
    (r.workpiece.parts.1, e.2) r.workpiece.parts

section
variable {r : Substitution} {p : Workpiece}

theorem mem_seen {text : String} (h : r.hasSeen text = true) : ∃ e ∈ r.seen, e.2 = text := by
  simp only [hasSeen, List.any_eq_true, Bool.and_eq_true, beq_iff_eq] at h
  obtain ⟨e, he, -, htext⟩ := h
  exact ⟨e, he, htext⟩

/-- A replacement that leaves the cursor in its place leaves the text before it alone. -/
theorem Tracked.front_eq (hr : r.Tracked) (hp : p.Sound) {tabwidth : Nat}
    (hnext : r.directive.Next tabwidth r.workpiece.parts p.parts) (hcursor : p.cursor = r.cursor) :
    p.parts.1 = r.workpiece.parts.1 := by
  obtain ⟨m, a, b, c, -, -, -, -, -, hparts⟩ := Directive.next?_cases hnext
  have hfront : p.parts.1 = r.workpiece.parts.1 ++ a := by
    rw [hparts]
    rfl
  have hsize : Text.size (r.workpiece.parts.1 ++ a) = Text.size r.workpiece.parts.1 := by
    rw [← hfront, ← hp.cursor_eq, ← hr.sound.cursor_eq, hcursor]
    rfl
  have ha : a = "" := by
    rw [← Text.size_eq_zero]
    rw [Text.size_append] at hsize
    omega
  rw [hfront, ha, String.append_empty]

theorem Tracked.advance (hr : r.Tracked) (hp : p.Sound)
    (hconfig : p.document.config = r.document.config)
    (hnext : r.directive.Next r.document.config.tabwidth r.workpiece.parts p.parts) :
    (r.advance p).Tracked := by
  refine ⟨hp, fun e he => ?_⟩
  simp only [Substitution.advance] at he
  split at he
  · rename_i hcursor
    show r.directive.Leads p.document.config.tabwidth (p.parts.1, e.2) p.parts
    rw [hconfig]
    rcases List.mem_cons.1 he with rfl | he
    · exact .refl
    · rw [hr.front_eq hp hnext hcursor]
      exact (hr.seen e he).tail hnext
  · cases he

/-- A remainder that is remembered has led back to itself. -/
theorem Tracked.goes_on (hr : r.Tracked) (hp : p.Sound)
    (hnext : r.directive.Next r.document.config.tabwidth r.workpiece.parts p.parts)
    (h : r.comesBack p = true) : r.directive.GoesOn r.document.config.tabwidth p.parts := by
  rw [comesBack, Bool.and_eq_true, decide_eq_true_eq] at h
  obtain ⟨e, he, hrem⟩ := mem_seen h.2
  have hback := hr.seen e he
  rw [hrem, ← hr.front_eq hp hnext h.1] at hback
  exact Directive.goes_on_of_return (Relation.TransGen.tail' hback hnext)

end

/-! ## A process that ends is not cut short -/

section
variable {σ : Type} [Sink σ]

/-- So many steps in a row, each of which replaced a match. -/
inductive Replaces : Nat → Substitution × σ → Substitution × σ → Prop
  | none {a : Substitution × σ} : Replaces 0 a a
  | more {n : Nat} {a b c : Substitution × σ}
      (first : a.1.step a.2 = (.ok (.replaced b.1), b.2)) (rest : Replaces n b c) :
      Replaces (n + 1) a c

/-- By induction on the way to `p`: the process ends after it, so no remainder on it comes back. -/
theorem Tracked.replaces {n m : Nat} {r : Substitution} (hr : r.Tracked) {p q : Workpiece}
    {s t u : σ} (h : Workpiece.Rewrites r.directive n (r.workpiece, s) (p, t))
    (hend : Workpiece.Rewrites r.directive m (p, t) (q, u)) (hq : q.Settled r.directive)
    (hbudget : r.made + n ≤ r.budget) :
    ∃ last : Substitution, Replaces n (r, s) (last, t) ∧ last.workpiece = p ∧
      last.directive = r.directive := by
  induction n generalizing r s with
  | zero =>
    cases h
    exact ⟨r, .none, rfl, rfl⟩
  | succ n ih =>
    cases h with
    | @more _ _ b _ first rest =>
      obtain ⟨p', s'⟩ := b
      obtain ⟨hnext, hp, hconfig⟩ : r.directive.Next r.document.config.tabwidth r.workpiece.parts
          p'.parts ∧ p'.Sound ∧ p'.document.config = r.document.config :=
        Workpiece.rewrite_next? hr.sound first
      have hback : ¬ r.comesBack p' = true := by
        intro hback
        have hgoes := hr.goes_on hp hnext hback
        rw [← hconfig] at hgoes
        exact Workpiece.not_settled_of_goes_on hgoes hp (rest.trans hend) hq
      have hstep : r.step s = (.ok (.replaced (r.advance p')), s') := by
        rw [step_of_rewrite first (by omega), if_neg hback]
        rfl
      obtain ⟨last, hlast, hlastp, hdirective⟩ := ih (r := r.advance p') (s := s')
        (hr.advance hp hconfig hnext) rest hend hq (by simp only [Substitution.advance]; omega)
      exact ⟨last, .more hstep hlast, hlastp, hdirective⟩

/-- Where nothing matches the directive ends. -/
theorem Replaces.settleWithin_eq {n : Nat} {r last : Substitution} {s t : σ}
    (h : Replaces n (r, s) (last, t)) (hlast : last.workpiece.Settled last.directive)
    {fuel : Nat} (hfuel : n < fuel) : r.settleWithin fuel s = (.ok last.document, t) := by
  obtain ⟨fuel, rfl⟩ : ∃ k, fuel = k + 1 := ⟨fuel - 1, by omega⟩
  induction n generalizing r s fuel with
  | zero =>
    cases h
    have hstep : last.step t = (.ok (.ended last.document), t) := by
      simp only [step, show last.directive.find last.remainder = .ok .none from hlast]
      rfl
    rw [settleWithin, run_bind_ok hstep]
    rfl
  | succ n ih =>
    cases h with
    | @more _ _ b _ first rest =>
      obtain ⟨fuel, rfl⟩ : ∃ k, fuel = k + 1 := ⟨fuel - 1, by omega⟩
      rw [settleWithin, run_bind_ok first]
      exact ih rest fuel (by omega)

end

end Substitution

/-! ## What the directive reports -/

/-- The report that an earlier text came back. -/
structure Diagnostic.ReportsReturn (d : Diagnostic) : Prop where
  kind : d.kind = .nonTerminatingReplacement
  message : d.message = "Rewriting cycles back to an earlier text"

namespace Substitution

theorem stop_reports {K : Diagnostic → Prop} {P : Step → Prop} {r : Substitution}
    {kind : DiagnosticKind} {message : String} (hmild : kind.severity < .fatal)
    (hK : K (.ofKind kind message r.directive.position)) (hP : P (.ended r.document)) :
    Reports K (r.stop kind message) P :=
  (Reports.report hmild hK).bind fun _ _ => .pure hP

/-- What a step of a directive leads to. -/
def Follows (r : Substitution) : Step → Prop
  | .ended _ => True
  | .replaced next => next.Tracked ∧ next.directive = r.directive ∧
      next.document.config = r.document.config ∧
      r.directive.Next r.document.config.tabwidth r.workpiece.parts next.workpiece.parts

/-- Only what goes on forever is reported to come back. -/
def Truthful (r : Substitution) (d : Diagnostic) : Prop :=
  d.ReportsReturn → r.directive.GoesOn r.document.config.tabwidth r.workpiece.parts

theorem step_reports {r : Substitution} (hr : r.Tracked) : Reports r.Truthful r.step r.Follows := by
  have hother : ∀ (kind : DiagnosticKind) (message : String) (p : Position),
      kind ≠ .nonTerminatingReplacement → r.Truthful (.ofKind kind message p) :=
    fun _ _ _ hkind h => absurd h.kind hkind
  rcases hm : r.directive.find r.remainder with failure | - | m
  · simp only [step, hm]
    exact (Reports.report (show Severity.high < .fatal by decide) fun h => by cases h.kind).bind
      fun _ _ => .pure trivial
  · simp only [step, hm]
    exact .pure trivial
  by_cases hne : m.start = m.stop
  · have hregion : (r.region m).start = (r.region m).stop := by rw [region, hne]
    simp only [step, hm, if_pos hregion, stopAtEmptyMatch]
    split
    · exact stop_reports (by decide)
        (fun h => absurd h.message (by simp [Diagnostic.ofKind])) trivial
    · exact stop_reports (by decide) (hother _ _ _ (by decide)) trivial
  by_cases hroom : r.made < r.budget
  · rw [step_eq_rewrite hm hne hroom]
    refine Reports.bind ((Workpiece.rewrite_reports hr.sound r.directive).mono fun d hd h => ?_) ?_
    · cases hd.1.symm.trans h.kind
    intro o hnext
    rcases o with - | p
    · exact stop_reports (by decide) (hother _ _ _ (by decide)) trivial
    · obtain ⟨hnext, hp, hconfig⟩ := hnext p rfl
      rw [conclude]
      split
      · rename_i hback
        exact stop_reports (by decide)
          (fun _ => (hr.goes_on hp hnext hback).of_leads (.single hnext))
          trivial
      · exact .pure ⟨hr.advance hp hconfig hnext, rfl, hconfig, hnext⟩
  · have hregion : ¬ r.cursor + m.start = r.cursor + m.stop := by omega
    have hspent : r.budget < r.made + 1 := by omega
    simp only [step, hm, region, if_neg hregion, replace, if_pos hspent]
    refine stop_reports (by decide) (fun h => ?_) trivial
    have hmessage := congrArg String.toList h.message
    simp [Diagnostic.ofKind, toString] at hmessage

theorem settleWithin_reports {r : Substitution} (hr : r.Tracked) (fuel : Nat) :
    Reports r.Truthful (r.settleWithin fuel) fun _ => True := by
  induction fuel generalizing r with
  | zero => exact .pure trivial
  | succ fuel ih =>
    rw [settleWithin]
    refine (step_reports hr).bind fun next hnext => ?_
    cases next with
    | ended document => exact .pure trivial
    | replaced next =>
      obtain ⟨htracked, hdirective, hconfig, hstep⟩ := hnext
      refine (ih htracked).mono fun d hd h => ?_
      have hgoes := hd h
      rw [hdirective, hconfig] at hgoes
      exact hgoes.of_leads (.single hstep)

/-! ## The directive and the process without limits -/

/-- A directive that has replaced nothing yet. -/
structure Fresh (r : Substitution) : Prop where
  wellFormed : r.document.WellFormed
  text : r.text = r.document.text
  cursor : r.cursor = 0
  made : r.made = 0
  seen : r.seen = []

theorem Fresh.workpiece_eq {r : Substitution} (hr : r.Fresh) : r.workpiece = .start r.document := by
  rw [workpiece, Workpiece.start, hr.text, hr.cursor]

theorem Fresh.tracked {r : Substitution} (hr : r.Fresh) : r.Tracked := by
  refine ⟨?_, by simp [hr.seen]⟩
  rw [hr.workpiece_eq]
  exact Workpiece.sound_start hr.wellFormed

/-- A directive that was taken out of a document works on what is left of it. -/
theorem fresh_of_scan {σ : Type} [Sink σ] {engine : Engine} {limits : Limits}
    {d : Document Normalized} (hd : d.WellFormed) {r : Substitution} {s t : σ}
    (h : Expansion.scan engine limits d s = (.ok (.found r), t)) : r.Fresh := by
  rw [Expansion.scan] at h
  rcases hdirective : engine.directive d.config replaceDirective with failure | find <;>
    simp only [hdirective] at h
  · cases h
  rcases hfound : find d.text with failure | - | m <;> simp only [hfound] at h
  · obtain ⟨_, _, -, h⟩ := run_bind_result h
    cases h
  · cases h
  obtain ⟨position, s₁, -, h⟩ := run_bind_result h
  obtain ⟨document, s₂, hdocument, h⟩ := run_bind_result h
  obtain ⟨text, s₃, htext, h⟩ := run_bind_result h
  obtain ⟨a, b, c, hsplit, hstart, hstop, rfl⟩ :=
    Text.replaceRange?_cases (orFault_result htext).1
  obtain ⟨e, he, hwf, hetext, -⟩ := hd.splice?_text hsplit (Document.wellFormed_empty d.config)
  rw [hstart, hstop, he] at hdocument
  obtain rfl : e = document := Option.some.inj (orFault_result hdocument).1
  rcases hcompile : engine.compile ((m.named? "pattern").getD "") { extended := true } with
    failure | find <;> simp only [hcompile] at h
  · obtain ⟨_, _, -, h⟩ := run_bind_result h
    cases h
  · cases h
    exact ⟨hwf, hetext.symm, rfl, rfl, rfl⟩

/-- A process without limits that ends within the budget is what the directive does, replacement by
replacement, and no endless replacement is reported. And where the directive reports that an earlier
text came back, the process without limits goes on and on, and never comes to a text in which
nothing matches. -/
theorem settle_no_false_alarm {r : Substitution} (hr : r.Fresh) (ds : List Diagnostic) :
    (∀ n p t, Workpiece.Rewrites r.directive n (.start r.document, Collector.plain ds) (p, t) →
      p.Settled r.directive → n ≤ r.budget →
      (∀ k ≤ n, ∀ q u,
        Workpiece.Rewrites r.directive k (.start r.document, Collector.plain ds) (q, u) →
        ∃ last : Substitution, Replaces k (r, Collector.plain ds) (last, u) ∧ last.workpiece = q) ∧
      r.settle (Collector.plain ds) = (.ok p.document, t) ∧
      ∃ es, t = .plain (ds ++ es) ∧ ∀ e ∈ es, e.kind ≠ .nonTerminatingReplacement) ∧
    ∃ es, (r.settle (Collector.plain ds)).2 = Collector.plain (ds ++ es) ∧
      ((∃ e ∈ es, e.ReportsReturn) →
        (∀ n, ∃ p t,
          Workpiece.Rewrites r.directive n (.start r.document, Collector.plain ds) (p, t)) ∧
        ∀ n p t, Workpiece.Rewrites r.directive n (.start r.document, Collector.plain ds) (p, t) →
          ¬ p.Settled r.directive) := by
  have htracked := hr.tracked
  have hsound : (Workpiece.start r.document).Sound := Workpiece.sound_start hr.wellFormed
  have hgoes : ∀ e, r.Truthful e → e.ReportsReturn →
      r.directive.GoesOn (Workpiece.start r.document).document.config.tabwidth
        (Workpiece.start r.document).parts := by
    intro e he hreturn
    rw [← hr.workpiece_eq]
    exact he hreturn
  constructor
  · intro n p t hrun hsettled hbudget
    have hroom : ∀ k ≤ n, r.made + k ≤ r.budget := by
      intro k hk
      rw [hr.made]
      omega
    have hreplaces : ∀ k ≤ n, ∀ q u,
        Workpiece.Rewrites r.directive k (.start r.document, Collector.plain ds) (q, u) →
        ∃ last : Substitution, Replaces k (r, Collector.plain ds) (last, u) ∧
          last.workpiece = q ∧ last.directive = r.directive := by
      intro k hk q u hq
      obtain ⟨m, rfl⟩ := Nat.exists_eq_add_of_le hk
      have hrest := hq.rest hrun
      rw [← hr.workpiece_eq] at hq
      exact htracked.replaces hq hrest hsettled (hroom k hk)
    obtain ⟨last, hlast, rfl, hdirective⟩ := hreplaces n le_rfl p t hrun
    refine ⟨fun k hk q u hq => ?_, ?_, ?_⟩
    · obtain ⟨mid, hmid, hq', -⟩ := hreplaces k hk q u hq
      exact ⟨mid, hmid, hq'⟩
    · rw [← hdirective] at hsettled
      exact hlast.settleWithin_eq hsettled (by rw [hr.made]; omega)
    · obtain ⟨es, rfl, hes⟩ := hrun.reports hsound
      exact ⟨es, rfl, fun e he hkind => by cases (hes e he).1.symm.trans hkind⟩
  · obtain ⟨es, hes, htruthful, -⟩ := settleWithin_reports htracked (r.budget + 1 - r.made) ds
    refine ⟨es, hes, ?_⟩
    rintro ⟨e, he, hreturn⟩
    have hforever := hgoes e (htruthful e he) hreturn
    exact ⟨fun n => Workpiece.rewrites_of_goes_on hforever hsound n ds,
      fun n p t hrun => Workpiece.not_settled_of_goes_on hforever hsound hrun⟩

/-! ## Two instances -/

/-- A directive at the start of a document of one line. -/
def onLine (pattern template line : String) : Substitution where
  directive :=
    { find := (Engine.standard.compile pattern {}).toOption.getD fun _ => .ok none
      template, literal := true, position := .nowhere }
  document := .ofLines [⟨⟨⟨"a"⟩, 1⟩, ⟨0, line⟩⟩] {}
  text := line
  cursor := 0
  made := 0
  budget := 2
  seen := []

theorem fresh_onLine (pattern template line : String) : (onLine pattern template line).Fresh := by
  refine ⟨Document.wellFormed_ofLines _ _, ?_, rfl, rfl, rfl⟩
  simp [onLine, Document.text_ofLines, Line.canonical, LineKind.canonical, Text.copies]

/-- Two replacements of the process without limits, and the two texts that they lead to. -/
theorem rewrites_onLine : ∃ p t, Workpiece.Rewrites (onLine "ab" "a" "abb").directive 2
    (.start (onLine "ab" "a" "abb").document, Collector.plain []) (p, t) ∧ p.parts = ("", "a") := by
  let directive := (onLine "ab" "a" "abb").directive
  let first := Workpiece.start (onLine "ab" "a" "abb").document
  let twice : Reporting Collector (Option Workpiece) := do
    let next ← first.rewrite directive
    match next with
    | some next => next.rewrite directive
    | none => return none
  have hlast : ((twice (.plain [])).1.toOption.join.map fun p => p.parts) = some ("", "a") := by
    decide +kernel
  rcases hrun : twice (.plain []) with ⟨e | - | p, t⟩
  · rw [hrun] at hlast
    cases hlast
  · rw [hrun] at hlast
    cases hlast
  · rw [hrun] at hlast
    obtain ⟨next, u, hfirst, hsecond⟩ := run_bind_result hrun
    rcases next with - | next
    · cases hsecond
    · exact ⟨p, t, .more (b := (next, u)) hfirst (.more (b := (p, t)) hsecond .none),
        Option.some.inj hlast⟩

/-- Two replacements at one cursor are no return. A text that takes its own place is one. -/
theorem settle_no_false_alarm_onLine :
    (∃ p t, p.parts = ("", "a") ∧
      (onLine "ab" "a" "abb").settle (Collector.plain []) = (.ok p.document, t) ∧
      ∃ last : Substitution,
        Replaces 2 (onLine "ab" "a" "abb", Collector.plain []) (last, t) ∧ last.workpiece = p) ∧
    ∀ n p t, Workpiece.Rewrites (onLine "a" "a" "a").directive n
      (.start (onLine "a" "a" "a").document, Collector.plain []) (p, t) →
      ¬ p.Settled (onLine "a" "a" "a").directive := by
  constructor
  · obtain ⟨p, t, hrun, hparts⟩ := rewrites_onLine
    have hsettled : p.Settled (onLine "ab" "a" "abb").directive := by
      rw [Workpiece.Settled, show p.remainder = "a" from congrArg Prod.snd hparts]
      have hfind : ((onLine "ab" "a" "abb").directive.find "a").toOption.map Option.isNone =
          some true := by decide +kernel
      rcases h : (onLine "ab" "a" "abb").directive.find "a" with e | - | m
      · rw [h] at hfind
        cases hfind
      · rfl
      · rw [h] at hfind
        cases hfind
    obtain ⟨hsteps, hsettle, -⟩ :=
      (settle_no_false_alarm (fresh_onLine "ab" "a" "abb") []).1 2 p t hrun hsettled le_rfl
    exact ⟨p, t, hparts, hsettle, hsteps 2 le_rfl p t hrun⟩
  · obtain ⟨es, hes, hreturn⟩ := (settle_no_false_alarm (fresh_onLine "a" "a" "a") []).2
    have hreports : ((onLine "a" "a" "a").settle (Collector.plain [])).2.diagnostics.any
        (fun e => e.kind == .nonTerminatingReplacement &&
          e.message == "Rewriting cycles back to an earlier text") = true := by decide +kernel
    rw [hes] at hreports
    simp only [Collector.plain, Collector.diagnostics, List.nil_append, List.any_eq_true,
      Bool.and_eq_true, beq_iff_eq] at hreports
    obtain ⟨e, he, hkind, hmessage⟩ := hreports
    exact (hreturn ⟨e, he, hkind, hmessage⟩).2

end Substitution

end SourcePrep
