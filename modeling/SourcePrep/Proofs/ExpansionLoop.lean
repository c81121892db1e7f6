import SourcePrep.Expansion
import Mathlib.Order.OrderIsoNat

/-!
# Expansion as a loop

`expand` runs on numbers that it counts down. Here it is the loop that these numbers stand for:
`Loop.turn` scans for a directive or replaces one match, and nothing bounds how often it is
repeated. The loop keeps a record of its work, with an entry for each directive that was found.

* `Document.Kept`: a relation that holds across every splice holds across a whole expansion.
* `Move.decreases`: each turn leads down in a lexicographic order on what is left of the limit on
  directives and of the budget of the directive at work. No size of the text would do: replacements
  let it grow, and a directive of width zero leaves it as long as it was.
* `Loop.Within`: the limits that the record keeps to; `within_of_reaches` has them for a whole run.
* `expandWithin_runs`: the numbers never run out before the loop ends.
* `expand_terminates`: what follows for `expand`, for every engine, document, sink and limits.
-/

set_option autoImplicit false

namespace SourcePrep

/-! ## Results of computations -/

section
variable {σ α β : Type}

theorem run_bind_ok {x : Reporting σ α} {f : α → Reporting σ β} {s t : σ} {a : α}
    (h : x s = (.ok a, t)) : (x >>= f) s = f a t := by
  show (ExceptT.bind x f : Reporting σ β) s = _
  simp only [ExceptT.bind, ExceptT.mk, bind, StateT.bind, h]
  rfl

theorem run_bind_error {x : Reporting σ α} {f : α → Reporting σ β} {s t : σ} {e : Halt}
    (h : x s = (.error e, t)) : (x >>= f) s = (.error e, t) := by
  show (ExceptT.bind x f : Reporting σ β) s = _
  simp only [ExceptT.bind, ExceptT.mk, bind, StateT.bind, h]
  rfl

theorem run_bind_result {x : Reporting σ α} {f : α → Reporting σ β} {s t : σ} {b : β}
    (h : (x >>= f) s = (.ok b, t)) : ∃ a s', x s = (.ok a, s') ∧ f a s' = (.ok b, t) := by
  rcases hx : x s with ⟨e | a, s'⟩
  · rw [run_bind_error hx] at h
    cases h
  · rw [run_bind_ok hx] at h
    exact ⟨a, s', rfl, h⟩

/-- What the computation gives has the property, if it gives anything. -/
def Returns (x : Reporting σ α) (Q : α → Prop) : Prop := ∀ s a t, x s = (.ok a, t) → Q a

namespace Returns

variable {P : α → Prop} {Q : β → Prop}

theorem pure {a : α} (h : P a) : Returns (Pure.pure a : Reporting σ α) P := by
  intro s b t hb
  cases hb
  exact h

theorem bind {x : Reporting σ α} {f : α → Reporting σ β} (hx : Returns x P)
    (hf : ∀ a, P a → Returns (f a) Q) : Returns (x >>= f) Q := by
  intro s b t hb
  rcases h : x s with ⟨e | a, s'⟩
  · rw [run_bind_error h] at hb
    cases hb
  · rw [run_bind_ok h] at hb
    exact hf a (hx s a s' h) s' b t hb

/-- Nothing has to be known of what comes first. -/
theorem after {x : Reporting σ α} {f : α → Reporting σ β} (hf : ∀ a, Returns (f a) Q) :
    Returns (x >>= f) Q :=
  bind (P := fun _ => True) (fun _ _ _ _ => trivial) fun a _ => hf a

theorem mono {R : α → Prop} {x : Reporting σ α} (hx : Returns x P) (hPR : ∀ a, P a → R a) :
    Returns x R :=
  fun s a t h => hPR a (hx s a t h)

theorem and {R : α → Prop} {x : Reporting σ α} (hx : Returns x P) (hR : Returns x R) :
    Returns x fun a => P a ∧ R a :=
  fun s a t h => ⟨hx s a t h, hR s a t h⟩

theorem of_run (x : Reporting σ α) : Returns x fun a => ∃ s t, x s = (.ok a, t) :=
  fun s _ t h => ⟨s, t, h⟩

theorem orFault (f : Fault) (o : Option α) :
    Returns (SourcePrep.orFault f o : Reporting σ α) fun a => o = some a := by
  intro s a t h
  cases o with
  | none => cases h
  | some b =>
    cases h
    rfl

end Returns

theorem Line.normalize_returns [Sink σ] (tabwidth : Nat) (line : Line Measured) :
    Returns (line.normalize tabwidth : Reporting σ _) (· = line.normalized tabwidth) := by
  rw [Line.normalize]
  split
  · exact .after fun _ => .pure rfl
  · exact .pure rfl

end

/-! ## What a step and a scan can come to -/

namespace Substitution

/-- The next step sets out to replace a match: there is one, it is not empty, and the budget is not
spent. -/
def replaces (r : Substitution) : Bool :=
  match r.directive.find r.remainder with
  | .ok (some m) => m.start ≠ m.stop && decide (r.made < r.budget)
  | _ => false

theorem made_lt_of_replaces (r : Substitution) (h : r.replaces = true) : r.made < r.budget := by
  unfold replaces at h
  split at h
  · simp only [Bool.and_eq_true, decide_eq_true_eq] at h
    exact h.2
  · cases h

/-- A replacement is counted, and the budget stays. -/
def Replaced (r : Substitution) : Step → Prop
  | .replaced next => r.replaces = true ∧ next.made = r.made + 1 ∧ next.budget = r.budget
  | .ended _ => True

section
variable {σ : Type} [Sink σ]

theorem stop_returns (r t : Substitution) (kind : DiagnosticKind) (message : String) :
    Returns (t.stop kind message : Reporting σ _) r.Replaced := by
  unfold stop
  exact .after fun _ => .pure trivial

theorem replace_returns (r : Substitution) (m : Region)
    (h : r.made < r.budget → r.replaces = true) :
    Returns (r.replace m : Reporting σ _) r.Replaced := by
  unfold replace
  split
  · exact stop_returns r r _ _
  · rename_i hbudget
    have hr := h (by omega)
    refine .after fun old => .after fun new => ?_
    cases new with
    | error e => exact stop_returns r r _ _
    | ok new =>
      refine .after fun document => .after fun text => ?_
      simp only
      split
      · exact .pure ⟨hr, rfl, rfl⟩
      · split
        · exact stop_returns r _ _ _
        · exact .pure ⟨hr, rfl, rfl⟩

theorem step_returns (r : Substitution) : Returns (r.step : Reporting σ _) r.Replaced := by
  unfold step
  cases hm : r.directive.find r.remainder with
  | error failure => exact .after fun _ => .pure trivial
  | ok found =>
    cases found with
    | none => exact .pure trivial
    | some m =>
      simp only [region, Nat.add_left_cancel_iff]
      split
      · unfold stopAtEmptyMatch
        split
        · exact stop_returns r r _ _
        · exact stop_returns r r _ _
      · rename_i hne
        refine replace_returns r _ fun hbudget => ?_
        simp [replaces, hm, hne, hbudget]

end

end Substitution

/-! ## Relations that every step keeps -/

/-- Where a step leads. -/
def Substitution.Step.document : Step → Document Normalized
  | .replaced next => next.document
  | .ended document => document

/-- A relation between documents and what they were made from that holds across every splice of an
expansion: new lines take the place of some text, or nothing takes the place of a directive. -/
structure Document.Kept (σ : Type) [Sink σ] (R : Document Normalized → Document Normalized → Prop) :
    Prop where
  refl (d : Document Normalized) : R d d
  trans {d e f : Document Normalized} (later : R f e) (earlier : R e d) : R f d
  replaced {d old new e : Document Normalized} {start stop : Nat} {text : String}
    {startsLine : Bool} {s t : σ} (cut : d.slice? start stop = some old)
    (made : old.replaceRegion text startsLine s = (.ok (.ok new), t))
    (spliced : d.splice? start stop new = some e) : R e d
  removed {d e : Document Normalized} {start stop : Nat}
    (spliced : d.splice? start stop (.empty d.config) = some e) : R e d

namespace Document.Kept

variable {σ : Type} [Sink σ] {R : Document Normalized → Document Normalized → Prop}

theorem stop {r : Substitution} {d : Document Normalized} (h : R r.document d)
    (kind : DiagnosticKind) (message : String) :
    Returns (r.stop kind message : Reporting σ _) fun step => R step.document d := by
  unfold Substitution.stop
  exact .after fun _ => .pure h

theorem replace (hR : Kept σ R) (r : Substitution) (m : Substitution.Region) :
    Returns (r.replace m : Reporting σ _) fun step => R step.document r.document := by
  unfold Substitution.replace
  split
  · exact stop (hR.refl _) _ _
  · refine (Returns.orFault _ _).bind fun old hold => ?_
    refine (Returns.of_run _).bind fun result hresult => ?_
    obtain ⟨s, t, hrun⟩ := hresult
    cases result with
    | error e => exact stop (hR.refl _) _ _
    | ok new =>
      refine (Returns.orFault _ _).bind fun document hdocument => .after fun text => ?_
      have hkept := hR.replaced hold hrun hdocument
      simp only
      split
      · exact .pure hkept
      · split
        · exact stop hkept _ _
        · exact .pure hkept

theorem step (hR : Kept σ R) (r : Substitution) :
    Returns (r.step : Reporting σ _) fun step => R step.document r.document := by
  unfold Substitution.step
  cases r.directive.find r.remainder with
  | error failure => exact .after fun _ => .pure (hR.refl _)
  | ok found =>
    cases found with
    | none => exact .pure (hR.refl _)
    | some m =>
      simp only
      split
      · unfold Substitution.stopAtEmptyMatch
        split
        · exact stop (hR.refl _) _ _
        · exact stop (hR.refl _) _ _
      · exact hR.replace r _

theorem settleWithin (hR : Kept σ R) (fuel : Nat) (r : Substitution) :
    Returns (r.settleWithin fuel : Reporting σ _) fun d => R d r.document := by
  induction fuel generalizing r with
  | zero => exact .pure (hR.refl _)
  | succ fuel ih =>
    unfold Substitution.settleWithin
    refine (hR.step r).bind fun step hstep => ?_
    cases step with
    | ended document => exact .pure hstep
    | replaced next => exact (ih next).mono fun d hd => hR.trans hd hstep

section
variable (engine : Engine) (limits : Limits)

theorem scan (hR : Kept σ R) (d : Document Normalized) :
    Returns (Expansion.scan engine limits d : Reporting σ _) fun found =>
      ∀ e, found.document? = some e → R e d := by
  unfold Expansion.scan
  cases engine.directive d.config replaceDirective with
  | error failure => exact .pure fun e he => by cases he
  | ok find =>
    simp only
    cases find d.text with
    | error failure => exact .after fun _ => .pure fun e he => by cases he
    | ok found =>
      cases found with
      | none => exact .pure fun e he => by cases he
      | some m =>
        simp only
        unfold Expansion.takeOut
        refine .after fun position => (Returns.orFault _ _).bind fun document hdocument => ?_
        have hkept : ∀ e, some document = some e → R e d := by
          intro e he
          cases he
          exact hR.removed hdocument
        refine .after fun text => ?_
        cases engine.compile ((m.named? "pattern").getD "") { extended := true } with
        | error failure => exact .after fun _ => .pure hkept
        | ok find => exact .pure hkept

theorem expandWithin (hR : Kept σ R) (total left : Nat) (d : Document Normalized) :
    Returns (Expansion.expandWithin engine limits total left d : Reporting σ _)
      fun e => R e d := by
  induction left generalizing d with
  | zero =>
    unfold Expansion.expandWithin
    refine (hR.scan engine limits d).bind fun found hfound => ?_
    cases hdocument : found.document? with
    | none => exact .pure (hR.refl d)
    | some document => exact .after fun _ => .pure (hfound document hdocument)
  | succ left ih =>
    unfold Expansion.expandWithin
    refine (hR.scan engine limits d).bind fun found hfound => ?_
    cases found with
    | finished => exact .pure (hR.refl d)
    | skipped document =>
      exact (ih document).mono fun e he => hR.trans he (hfound document rfl)
    | found r =>
      refine (hR.settleWithin _ r).bind fun settled hsettled => ?_
      exact (ih settled).mono fun e he => hR.trans (hR.trans he hsettled) (hfound r.document rfl)

end

end Document.Kept

namespace Expansion

/-- A directive that was found has replaced nothing, and its budget is that of its text. -/
def Scan.Fresh (limits : Limits) : Scan → Prop
  | .found r => r.made = 0 ∧ r.budget = limits.substitutionsIn r.text
  | _ => True

theorem scan_returns {σ : Type} [Sink σ] (engine : Engine) (limits : Limits)
    (d : Document Normalized) :
    Returns (scan engine limits d : Reporting σ _) (Scan.Fresh limits) := by
  unfold scan
  cases engine.directive d.config replaceDirective with
  | error failure => exact .pure trivial
  | ok find =>
    simp only
    cases find d.text with
    | error failure => exact .after fun _ => .pure trivial
    | ok found =>
      cases found with
      | none => exact .pure trivial
      | some m =>
        simp only
        unfold takeOut
        refine .after fun position => .after fun document => .after fun text => ?_
        cases engine.compile ((m.named? "pattern").getD "") { extended := true } with
        | error failure => exact .after fun _ => .pure trivial
        | ok find => exact .pure ⟨rfl, rfl⟩

/-! ## The loop -/

/-- What the loop is about to do. -/
inductive Phase
  | scanning (d : Document Normalized)
  | replacing (r : Substitution)
  | done (d : Document Normalized)

/-- The work of one directive. -/
structure Work where
  /-- The text that it started on, after it was taken out. -/
  text : String
  /-- The number of matches that it set out to replace. -/
  replaced : Nat

def Work.count (replaces : Bool) (work : Work) : Work :=
  { work with replaced := work.replaced + replaces.toNat }

/-- The loop between two turns, with the work of every directive found, the latest first. -/
structure Loop where
  phase : Phase
  record : List Work

namespace Loop

/-- The loop before its first turn. -/
def start (d : Document Normalized) : Loop := ⟨.scanning d, []⟩

def isDone (l : Loop) : Bool :=
  match l.phase with
  | .done _ => true
  | _ => false

section
variable {σ : Type} [Sink σ] (engine : Engine) (limits : Limits) (total : Nat)

/-- Where a scan for a directive leads; `total` directives may be expanded. -/
def afterScan (d : Document Normalized) (record : List Work) (found : Scan) : Reporting σ Loop :=
  match found with
  | .finished => return ⟨.done d, record⟩
  | .skipped document => go document document.text (.scanning document)
  | .found r => go r.document r.text (.replacing r)
where
  go (document : Document Normalized) (text : String) (next : Phase) : Reporting σ Loop := do
    if total < record.length + 1 then
      report <|
        .ofKind .nonTerminatingReplacement
          s!"More than {total} replace directives; the rest are left unexpanded" document.origin
      return ⟨.done document, ⟨text, 0⟩ :: record⟩
    else return ⟨next, ⟨text, 0⟩ :: record⟩

/-- One turn of the loop. -/
def turn (l : Loop) : Reporting σ Loop :=
  match l.phase with
  | .scanning d => do
    let found ← scan engine limits d
    afterScan total d l.record found
  | .replacing r => do
    let record := l.record.modifyHead (Work.count r.replaces)
    match ← r.step with
    | .replaced next => return ⟨.replacing next, record⟩
    | .ended document => return ⟨.scanning document, record⟩
  | .done _ => return l

/-- The loop makes a turn, and is not stopped in it. The sink is part of where the loop stands. -/
def Turns (a b : Loop × σ) : Prop :=
  a.1.isDone = false ∧ a.1.turn engine limits total a.2 = (.ok b.1, b.2)

def Reaches : Loop × σ → Loop × σ → Prop := Relation.ReflTransGen (Turns engine limits total)

/-- How the loop ends: it is done, or a turn of it is stopped. -/
inductive Ends : Loop × σ → Except Halt (Document Normalized) × σ → Prop
  | done {d : Document Normalized} {record : List Work} {s : σ} :
      Ends (⟨.done d, record⟩, s) (.ok d, s)
  | halted {l : Loop} {s t : σ} {e : Halt} (h : l.turn engine limits total s = (.error e, t)) :
      Ends (l, s) (.error e, t)

/-- The loop makes turns until it ends. -/
def Runs (a : Loop × σ) (out : Except Halt (Document Normalized) × σ) : Prop :=
  ∃ b, Reaches engine limits total a b ∧ Ends engine limits total b out

end

/-! ## What a turn can do -/

/-- The moves of the loop: all that a turn can lead from and to. -/
inductive Move (limits : Limits) (total : Nat) : Loop → Loop → Prop
  | finished {d : Document Normalized} {record : List Work} :
      Move limits total ⟨.scanning d, record⟩ ⟨.done d, record⟩
  /-- One directive too many was found. -/
  | exhausted {d e : Document Normalized} {record : List Work} {text : String}
      (many : total < record.length + 1) :
      Move limits total ⟨.scanning d, record⟩ ⟨.done e, ⟨text, 0⟩ :: record⟩
  | skipped {d e : Document Normalized} {record : List Work} {text : String}
      (few : record.length + 1 ≤ total) :
      Move limits total ⟨.scanning d, record⟩ ⟨.scanning e, ⟨text, 0⟩ :: record⟩
  | found {d : Document Normalized} {record : List Work} {r : Substitution}
      (few : record.length + 1 ≤ total) (fresh : Scan.Fresh limits (.found r)) :
      Move limits total ⟨.scanning d, record⟩ ⟨.replacing r, ⟨r.text, 0⟩ :: record⟩
  | replaced {r next : Substitution} {record : List Work} (h : r.Replaced (.replaced next)) :
      Move limits total ⟨.replacing r, record⟩
        ⟨.replacing next, record.modifyHead (Work.count r.replaces)⟩
  | ended {r : Substitution} {d : Document Normalized} {record : List Work} :
      Move limits total ⟨.replacing r, record⟩
        ⟨.scanning d, record.modifyHead (Work.count r.replaces)⟩

section
variable {σ : Type} [Sink σ] {engine : Engine} {limits : Limits} {total : Nat}

theorem afterScan_returns (d : Document Normalized) (record : List Work) {found : Scan}
    (hfound : found.Fresh limits) :
    Returns (afterScan total d record found : Reporting σ _)
      (Move limits total ⟨.scanning d, record⟩) := by
  cases found with
  | finished => exact .pure .finished
  | skipped document =>
    simp only [afterScan, afterScan.go]
    split
    · exact .after fun _ => .pure (.exhausted ‹_›)
    · exact .pure (.skipped (by omega))
  | found r =>
    simp only [afterScan, afterScan.go]
    split
    · exact .after fun _ => .pure (.exhausted ‹_›)
    · exact .pure (.found (by omega) hfound)

theorem move_of_turns {a b : Loop × σ} (h : Turns engine limits total a b) :
    Move limits total a.1 b.1 := by
  obtain ⟨hdone, hturn⟩ := h
  obtain ⟨⟨phase, record⟩, s⟩ := a
  cases phase with
  | scanning d =>
    exact (scan_returns engine limits d).bind (fun found hfound =>
      afterScan_returns d record hfound) _ _ _ hturn
  | replacing r =>
    refine r.step_returns.bind (fun step hstep => ?_) _ _ _ hturn
    cases step with
    | replaced next => exact .pure (.replaced hstep)
    | ended d => exact .pure .ended
  | done d => cases hdone

end

/-! ## Every turn leads down -/

/-- What is left of the limit on directives, and of the budget of the directive at work. -/
def left (total : Nat) (l : Loop) : Nat × Nat :=
  (total + 1 - l.record.length,
    match l.phase with
    | .scanning _ => 1
    | .replacing r => r.budget - r.made + 2
    | .done _ => 0)

theorem Move.decreases {limits : Limits} {total : Nat} {a b : Loop} (h : Move limits total a b) :
    Prod.Lex (· < ·) (· < ·) (b.left total) (a.left total) := by
  simp only [Prod.lex_def, left]
  cases h with
  | finished => simp
  | exhausted many =>
    simp only [List.length_cons]
    omega
  | skipped few =>
    simp only [List.length_cons]
    omega
  | found few fresh =>
    simp only [List.length_cons]
    omega
  | @replaced r next record h =>
    -- the count goes up to the budget, and a replacement is made only below it
    obtain ⟨hr, hmade, hbudget⟩ := h
    have hlt := r.made_lt_of_replaces hr
    simp only [List.length_modifyHead, hmade, hbudget, true_and]
    omega
  | ended =>
    simp only [List.length_modifyHead, true_and]
    omega

section
variable {σ : Type} [Sink σ] {engine : Engine} {limits : Limits} {total : Nat}

theorem wellFounded_turns :
    WellFounded fun b a : Loop × σ => Turns engine limits total a b := by
  refine Subrelation.wf (fun {b a} h => (move_of_turns h).decreases) ?_
  exact InvImage.wf (fun a : Loop × σ => a.1.left total)
    (WellFounded.prod_lex wellFounded_lt wellFounded_lt)

theorem not_turns_forever :
    ¬ ∃ run : Nat → Loop × σ, ∀ n, Turns engine limits total (run n) (run (n + 1)) := by
  rintro ⟨run, hrun⟩
  have hwf : WellFounded fun b a : Loop × σ => Turns engine limits total a b := wellFounded_turns
  have hempty := wellFounded_iff_isEmpty_descending_chain.1 hwf
  exact hempty.false ⟨run, hrun⟩

end

/-! ## The limits -/

/-- The loop has kept to its limits. -/
structure Within (limits : Limits) (total : Nat) (l : Loop) : Prop where
  /-- At most one directive too many was found, and that ends the loop. -/
  directives : l.record.length ≤ total ∨ l.record.length = total + 1 ∧ l.isDone = true
  /-- No directive has replaced more than its budget. -/
  replaced : ∀ work ∈ l.record, work.replaced ≤ limits.substitutionsIn work.text
  /-- The directive at work is the latest one found, and has the budget of its text. -/
  active : ∀ r, l.phase = .replacing r → ∃ work rest, l.record = work :: rest ∧
    work.replaced = r.made ∧ r.budget = limits.substitutionsIn work.text

theorem Within.start (limits : Limits) (total : Nat) (d : Document Normalized) :
    (start d).Within limits total where
  directives := .inl (Nat.zero_le _)
  replaced := by simp [Loop.start]
  active := by simp [Loop.start]

/-- A replacement is counted while the budget has room for it. -/
theorem Within.counted {limits : Limits} {total : Nat} {r : Substitution} {record : List Work}
    (h : Within limits total ⟨.replacing r, record⟩) :
    ∃ work rest, record.modifyHead (Work.count r.replaces) = work :: rest ∧
      work.replaced = r.made + r.replaces.toNat ∧ r.budget = limits.substitutionsIn work.text ∧
      (work :: rest).length ≤ total ∧
      ∀ w ∈ work :: rest, w.replaced ≤ limits.substitutionsIn w.text := by
  obtain ⟨work, rest, rfl, hmade, hbudget⟩ := h.active r rfl
  have hlen : (work :: rest).length ≤ total := by
    rcases h.directives with h | ⟨-, h⟩
    · exact h
    · cases h
  have hcount : work.replaced + r.replaces.toNat ≤ limits.substitutionsIn work.text := by
    cases hr : r.replaces with
    | false => exact h.replaced work List.mem_cons_self
    | true =>
      have := r.made_lt_of_replaces hr
      simp only [Bool.toNat_true]
      omega
  refine ⟨work.count r.replaces, rest, rfl, by simp [Work.count, hmade], hbudget, hlen, ?_⟩
  intro w hw
  rcases List.mem_cons.1 hw with rfl | hw
  · exact hcount
  · exact h.replaced w (List.mem_cons_of_mem _ hw)

theorem Within.move {limits : Limits} {total : Nat} {a b : Loop} (ha : a.Within limits total)
    (h : Move limits total a b) : b.Within limits total := by
  cases h with
  | finished => exact ⟨ha.directives.imp_right fun h => ⟨h.1, rfl⟩, ha.replaced, nofun⟩
  | @exhausted d e record text many =>
    have hlen : record.length = total := by
      rcases ha.directives with h | ⟨-, h⟩
      · simp only at h
        omega
      · cases h
    refine ⟨.inr ⟨by simp [hlen], rfl⟩, ?_, nofun⟩
    simpa using ha.replaced
  | skipped few =>
    refine ⟨.inl (by simpa using few), ?_, nofun⟩
    simpa using ha.replaced
  | found few fresh =>
    refine ⟨.inl (by simpa using few), by simpa using ha.replaced, ?_⟩
    intro r hr
    cases hr
    exact ⟨_, _, rfl, fresh.1.symm, fresh.2⟩
  | @replaced r next record h =>
    obtain ⟨hr, hmade, hbudget⟩ := h
    obtain ⟨work, rest, hrecord, hwork, hfull, hlen, hall⟩ := ha.counted
    rw [hrecord]
    refine ⟨.inl hlen, hall, fun r' hr' => ?_⟩
    cases hr'
    refine ⟨work, rest, rfl, ?_, hbudget.trans hfull⟩
    rw [hwork, hr, hmade]
    rfl
  | ended =>
    obtain ⟨work, rest, hrecord, -, -, hlen, hall⟩ := ha.counted
    rw [hrecord]
    exact ⟨.inl hlen, hall, nofun⟩

section
variable {σ : Type} [Sink σ] {engine : Engine} {limits : Limits} {total : Nat}

theorem within_of_reaches {a b : Loop × σ} (ha : a.1.Within limits total)
    (h : Reaches engine limits total a b) : b.1.Within limits total := by
  induction h with
  | refl => exact ha
  | tail _ hturn ih => exact ih.move (move_of_turns hturn)

/-! ## The numbers do not run out -/

theorem Runs.next {a b : Loop × σ} {out : Except Halt (Document Normalized) × σ}
    (h : Turns engine limits total a b) (hb : Runs engine limits total b out) :
    Runs engine limits total a out := by
  obtain ⟨c, hreach, hends⟩ := hb
  exact ⟨c, hreach.head h, hends⟩

theorem Runs.halted {l : Loop} {s t : σ} {e : Halt}
    (h : l.turn engine limits total s = (.error e, t)) :
    Runs engine limits total (l, s) (.error e, t) :=
  ⟨(l, s), .refl, .halted h⟩

theorem Runs.done {d : Document Normalized} {record : List Work} {s : σ} :
    Runs engine limits total (⟨.done d, record⟩, s) (.ok d, s) :=
  ⟨_, .refl, .done⟩

theorem turns_of_ended {r : Substitution} {d : Document Normalized} {record : List Work} {s t : σ}
    (h : (r.step : Reporting σ _) s = (.ok (.ended d), t)) :
    Turns engine limits total (⟨.replacing r, record⟩, s)
      (⟨.scanning d, record.modifyHead (Work.count r.replaces)⟩, t) :=
  ⟨rfl, run_bind_ok h⟩

theorem turns_of_replaced {r next : Substitution} {record : List Work} {s t : σ}
    (h : (r.step : Reporting σ _) s = (.ok (.replaced next), t)) :
    Turns engine limits total (⟨.replacing r, record⟩, s)
      (⟨.replacing next, record.modifyHead (Work.count r.replaces)⟩, t) :=
  ⟨rfl, run_bind_ok h⟩

theorem turns_of_finished {d : Document Normalized} {record : List Work} {s t : σ}
    (h : (scan engine limits d : Reporting σ _) s = (.ok .finished, t)) :
    Turns engine limits total (⟨.scanning d, record⟩, s) (⟨.done d, record⟩, t) :=
  ⟨rfl, run_bind_ok h⟩

theorem turns_of_room {d document : Document Normalized} {text : String} {next : Phase}
    {record : List Work} {s t : σ} (hroom : ¬ total < record.length + 1)
    (h : (⟨.scanning d, record⟩ : Loop).turn engine limits total s =
      afterScan.go total record document text next t) :
    Turns engine limits total (⟨.scanning d, record⟩, s) (⟨next, ⟨text, 0⟩ :: record⟩, t) := by
  refine ⟨rfl, h.trans ?_⟩
  simp only [afterScan.go, if_neg hroom]
  rfl

/-- One directive too many is reported, and its document is the last. -/
theorem runs_of_exhausted {d document : Document Normalized} {text : String} {next : Phase}
    {record : List Work} {s t : σ} (hroom : total < record.length + 1)
    (h : (⟨.scanning d, record⟩ : Loop).turn engine limits total s =
      afterScan.go total record document text next t) :
    Runs engine limits total (⟨.scanning d, record⟩, s)
      ((do
        report <|
          .ofKind .nonTerminatingReplacement
            s!"More than {total} replace directives; the rest are left unexpanded" document.origin
        return document : Reporting σ (Document Normalized)) t) := by
  simp only [afterScan.go, if_pos hroom] at h
  rcases hreport : (report (.ofKind .nonTerminatingReplacement
      s!"More than {total} replace directives; the rest are left unexpanded" document.origin) :
      Reporting σ Unit) t with ⟨e | ⟨⟩, t'⟩
  · rw [run_bind_error hreport] at h ⊢
    exact .halted h
  · rw [run_bind_ok hreport] at h ⊢
    exact .next (b := (⟨.done document, ⟨text, 0⟩ :: record⟩, t')) ⟨rfl, h⟩ .done

/-- A directive is settled as the loop settles it, whatever the loop does next. By induction on the
steps that are left: as many as the budget leaves, and one more to find that it is spent. -/
theorem settleWithin_runs {fuel : Nat} {r : Substitution} {record : List Work} {s : σ}
    {k : Document Normalized → Reporting σ (Document Normalized)}
    (hfuel : r.made + fuel = r.budget + 1) (hmade : r.made ≤ r.budget)
    (hk : ∀ d work t, work.length = record.length →
      Runs engine limits total (⟨.scanning d, work⟩, t) (k d t)) :
    Runs engine limits total (⟨.replacing r, record⟩, s)
      ((r.settleWithin fuel >>= k : Reporting σ _) s) := by
  induction fuel generalizing r record s with
  | zero => omega
  | succ fuel ih =>
    rw [Substitution.settleWithin, bind_assoc]
    rcases h : (r.step : Reporting σ _) s with ⟨e | step, t⟩
    · rw [run_bind_error h]
      exact .halted (run_bind_error h)
    · rw [run_bind_ok h]
      cases step with
      | ended d =>
        refine .next (turns_of_ended h) ?_
        rw [pure_bind]
        exact hk d _ t (by simp)
      | replaced next =>
        obtain ⟨hr, hcount, hbudget⟩ := r.step_returns s _ t h
        have hlt := r.made_lt_of_replaces hr
        refine .next (turns_of_replaced h) (ih (by omega) (by omega) fun d work t hlen => ?_)
        exact hk d work t (by simpa using hlen)

theorem expandWithin_runs {left : Nat} {d : Document Normalized} {record : List Work} {s : σ}
    (hleft : record.length + left = total) :
    Runs engine limits total (⟨.scanning d, record⟩, s)
      (expandWithin engine limits total left d s) := by
  induction left generalizing d record s with
  | zero =>
    rw [expandWithin]
    rcases h : (scan engine limits d : Reporting σ _) s with ⟨e | found, t⟩
    · rw [run_bind_error h]
      exact .halted (run_bind_error h)
    · rw [run_bind_ok h]
      cases found with
      | finished => exact .next (turns_of_finished h) .done
      | skipped e => exact runs_of_exhausted (by omega) (run_bind_ok h)
      | found r => exact runs_of_exhausted (by omega) (run_bind_ok h)
  | succ left ih =>
    have hroom : ¬ total < record.length + 1 := by omega
    rw [expandWithin]
    rcases h : (scan engine limits d : Reporting σ _) s with ⟨e | found, t⟩
    · rw [run_bind_error h]
      exact .halted (run_bind_error h)
    · rw [run_bind_ok h]
      cases found with
      | finished => exact .next (turns_of_finished h) .done
      | skipped e =>
        refine .next (turns_of_room hroom (run_bind_ok h)) (ih ?_)
        simp only [List.length_cons]
        omega
      | found r =>
        obtain ⟨hmade, -⟩ := scan_returns engine limits d s _ t h
        refine .next (turns_of_room hroom (run_bind_ok h)) ?_
        refine settleWithin_runs (by omega) (by omega) fun e work t hlen => ih ?_
        simp only [List.length_cons] at hlen
        omega

end

end Loop

end Expansion

theorem Limits.substitutionsIn_le (limits : Limits) (text : String) :
    limits.substitutionsIn text ≤
      limits.substitutions.getD (max 10000 (2 * Text.size text)) := by
  unfold substitutionsIn
  cases limits.substitutions with
  | some n => exact Nat.le_refl n
  | none =>
    simp only [Option.getD_none]
    omega

/-- The budget is the number that is written out in full, but for texts of more than half of the
largest word. -/
theorem Limits.substitutionsIn_eq (limits : Limits) {text : String}
    (h : 2 * Text.size text ≤ Text.maxWord) :
    limits.substitutionsIn text = limits.substitutions.getD (max 10000 (2 * Text.size text)) := by
  rw [substitutionsIn, Nat.min_eq_left h]

/-- Expansion ends within its limits, whatever the engine finds. It is a run of the loop, which
cannot go on forever. Wherever the loop comes, it has found at most one directive more than it may
expand, no directive has gone beyond its budget, and the directive at work has counted what stands
in the record. -/
theorem expand_terminates {σ : Type} [Sink σ] (engine : Engine) (limits : Limits)
    (d : Document Normalized) (s : σ) :
    (¬ ∃ run : Nat → Expansion.Loop × σ, run 0 = (.start d, s) ∧
      ∀ n, Expansion.Loop.Turns engine limits (limits.directivesIn d) (run n) (run (n + 1))) ∧
    Expansion.Loop.Runs engine limits (limits.directivesIn d) (.start d, s)
      (expand engine limits d s) ∧
    ∀ l t, Expansion.Loop.Reaches engine limits (limits.directivesIn d) (.start d, s) (l, t) →
      l.record.length ≤ limits.directives.getD (max 1000 d.lineCount) + 1 ∧
      (l.isDone = false → l.record.length ≤ limits.directives.getD (max 1000 d.lineCount)) ∧
      (∀ work ∈ l.record, work.replaced ≤
        limits.substitutions.getD (max 10000 (2 * Text.size work.text))) ∧
      ∀ r, l.phase = .replacing r → ∃ work rest, l.record = work :: rest ∧
        work.replaced = r.made ∧ (2 * Text.size work.text ≤ Text.maxWord →
          r.budget = limits.substitutions.getD (max 10000 (2 * Text.size work.text))) := by
  refine ⟨?_, ?_, ?_⟩
  · rintro ⟨run, -, hrun⟩
    exact Expansion.Loop.not_turns_forever ⟨run, hrun⟩
  · exact Expansion.Loop.expandWithin_runs (Nat.zero_add _)
  · intro l t hreach
    obtain ⟨hlen, hreplaced, hactive⟩ :=
      Expansion.Loop.within_of_reaches (.start limits (limits.directivesIn d) d) hreach
    refine ⟨?_, ?_, ?_, ?_⟩
    · rcases hlen with hlen | ⟨hlen, -⟩
      · exact Nat.le_succ_of_le hlen
      · exact Nat.le_of_eq hlen
    · intro hdone
      rcases hlen with hlen | ⟨-, h⟩
      · exact hlen
      · rw [hdone] at h
        cases h
    · intro work hwork
      exact (hreplaced work hwork).trans (limits.substitutionsIn_le work.text)
    · intro r hr
      obtain ⟨work, rest, hrecord, hmade, hbudget⟩ := hactive r hr
      exact ⟨work, rest, hrecord, hmade, fun h => hbudget.trans (limits.substitutionsIn_eq h)⟩

end SourcePrep
