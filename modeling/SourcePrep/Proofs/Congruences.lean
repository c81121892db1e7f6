import SourcePrep.Proofs.Inlining
import SourcePrep.Proofs.Memory

/-!
# What loading keeps

A load is compared in several ways with the same load elsewhere: on another sink, without a journal,
with less depth. Each of these is a relation between computations that is kept when computations
are put together. So it holds of a load as soon as it holds of its parts, and these are few.

* `Congruence R`: the relation holds of what is given at once, and of one computation after another
  if it holds of both. Hence of a computation for each member of a list (`Congruence.mapM`).
* `LoadingCongruence w R`: it also holds of the reports that loading makes and of normalization.
  Hence of every step of a load, if it holds of the loads that the step asks for (`resolveLine`,
  `readAndResolve`, `loadNew`, `settleOr`).
* `FromEveryMemory R`: a relation between computations on the sink alone, carried over to loading.
  It holds of every load (`LoadingCongruence.loadWithin`), and of all roots (`loadFiles`).

Loading reports nothing but the truth about the files (`Truthful`), which a relation may rely on.
-/

set_option autoImplicit false

namespace SourcePrep

/-! ## Computations put together -/

/-- The relation holds of what is given at once, and of one computation after another. -/
structure Congruence {M N : Type → Type} [Monad M] [Monad N]
    (R : ∀ α : Type, M α → N α → Prop) : Prop where
  pure : ∀ {α : Type} (a : α), R α (Pure.pure a) (Pure.pure a)
  bind : ∀ {α β : Type} {x : M α} {y : N α} {f : α → M β} {g : α → N β},
    R α x y → (∀ a, R β (f a) (g a)) → R β (x >>= f) (y >>= g)

theorem Congruence.mapM {M N : Type → Type} [Monad M] [Monad N] [LawfulMonad M] [LawfulMonad N]
    {R : ∀ α : Type, M α → N α → Prop} (hR : Congruence R) {α β : Type} {f : α → M β}
    {g : α → N β} (as : List α) (h : ∀ a, R β (f a) (g a)) :
    R (List β) (as.mapM f) (as.mapM g) := by
  induction as with
  | nil =>
    simp only [List.mapM_nil]
    exact hR.pure []
  | cons a as ih =>
    simp only [List.mapM_cons]
    exact hR.bind (h a) fun b => hR.bind ih fun bs => hR.pure (b :: bs)

/-! ## The reports of loading -/

/-- A report that does not end a run. If it is about a path being missing or unreadable, the path is
just that. -/
inductive Truthful (w : Workspace) : Diagnostic → Prop
  | missing {path : Path} (gone : w.isThere path = false) : Truthful w (.missingFile path)
  | unreadable {path : Path} {e : FileError} (unread : w.read path = .error e) :
      Truthful w (.errorLoadingFile path e.message)
  | circular {walk : List Path} {origin : Position} : Truthful w (.circularInclusion walk origin)
  | unresolved {relative : String} {origin : Position} :
      Truthful w (.unresolvedInclusion relative origin)
  | other {d : Diagnostic} (mild : Mild d) (other : d.kind.isOfLoading = false) : Truthful w d

theorem Truthful.mild {w : Workspace} {d : Diagnostic} (h : Truthful w d) : Mild d := by
  cases h with
  | missing => exact (by decide : DiagnosticKind.severity .missingFile < .fatal)
  | unreadable => exact (by decide : DiagnosticKind.severity .errorLoadingFile < .fatal)
  | circular => exact (by decide : DiagnosticKind.severity .circularInclusion < .fatal)
  | unresolved => exact (by decide : DiagnosticKind.severity .unresolvedInclusionPath < .fatal)
  | other mild => exact mild

/-- A matcher that fails is reported, and that is not about loading. -/
theorem Truthful.patternFailed {w : Workspace} {message : String} {position : Position} :
    Truthful w (.ofKind .patternExecutionError message position) :=
  .other (by decide : DiagnosticKind.severity .patternExecutionError < .fatal) rfl

/-! ## The steps of a load -/

/-- The relation is kept by sequencing, and holds of whatever loading does by itself. -/
structure LoadingCongruence {σ τ : Type} [Sink σ] [Sink τ] (w : Workspace)
    (R : ∀ α : Type, Reporting σ α → Reporting τ α → Prop) : Prop extends Congruence R where
  report : ∀ {d : Diagnostic}, Truthful w d →
    R Unit (SourcePrep.report d) (SourcePrep.report d)
  normalize : ∀ (engine : Engine) (raw : Document Raw),
    R NormalizedFile (SourcePrep.normalize engine raw) (SourcePrep.normalize engine raw)

namespace Inclusion

/-- The lines of a file that was read, with its inclusions resolved. -/
def resolveContent {σ : Type} [Sink σ] (engine : Engine) (w : Workspace) (searchDirs : List Path)
    (load : Load σ) (path : Path) (config : Configuration) (content : String) :
    Loading σ (Document Normalized) := do
  let d := (← normalize engine (.read path content config)).document
  match engine.directive d.config includeDirective with
  | .error _ => return d
  | .ok find =>
    let lines ← d.lines.mapM (resolveLine w searchDirs load path d.config find)
    return .ofLines lines.flatten d.config

theorem readAndResolve_of_read {σ : Type} [Sink σ] {engine : Engine} {w : Workspace}
    {searchDirs : List Path} {path : Path} {content : String} (h : w.read path = .ok content)
    (load : Load σ) (config : Configuration) :
    readAndResolve engine w searchDirs load path config =
      (do return some (← resolveContent engine w searchDirs load path config content)) := by
  simp only [readAndResolve, h, resolveContent, bind_assoc]
  refine bind_congr fun file => ?_
  rcases engine.directive file.document.config includeDirective with failure | find
  · rfl
  · simp only [bind_assoc, pure_bind]

end Inclusion

namespace LoadingCongruence

section
variable {σ τ : Type} [Sink σ] [Sink τ] {w : Workspace}

theorem reportThen {R : ∀ α : Type, Reporting σ α → Reporting τ α → Prop}
    (hR : LoadingCongruence w R) {d : Diagnostic} (h : Truthful w d) {α : Type} (a : α) :
    R α (do SourcePrep.report d; return a) (do SourcePrep.report d; return a) :=
  hR.bind (hR.report h) fun _ => hR.pure a

theorem reportMissing {R : ∀ α : Type, Reporting σ α → Reporting τ α → Prop}
    (hR : LoadingCongruence w R) (path : Path) :
    R Unit (SourcePrep.reportMissing w path) (SourcePrep.reportMissing w path) := by
  rw [SourcePrep.reportMissing, SourcePrep.reportMissing]
  by_cases hthere : w.isThere path = true
  · rw [if_pos hthere, if_pos hthere]
    exact hR.pure _
  · rw [if_neg hthere, if_neg hthere]
    exact hR.report (.missing (by simpa using hthere))

variable {R : ∀ α : Type, Loading σ α → Loading τ α → Prop} (hR : LoadingCongruence w R)
  {engine : Engine} {searchDirs : List Path} {load : Inclusion.Load σ} {load' : Inclusion.Load τ}
include hR

section
variable (hload : ∀ path origin config, R _ (load path origin config) (load' path origin config))
include hload

/-- A line is kept, with or without a report, or left out with one, or it is up to a load. -/
theorem resolveLine (path : Path) (config : Configuration) (find : Matcher)
    (line : Line Normalized) :
    R _ (Inclusion.resolveLine w searchDirs load path config find line)
      (Inclusion.resolveLine w searchDirs load' path config find line) := by
  rw [Inclusion.resolveLine, Inclusion.resolveLine]
  rcases find line.kind.renderTabs with failure | - | m
  · exact hR.reportThen .patternFailed _
  · exact hR.pure _
  · simp only
    rcases Inclusion.resolve? w searchDirs path ((m.named? "path").getD "") with - | target
    · exact hR.reportThen .unresolved _
    · exact hR.bind (hload _ _ _) fun _ => hR.pure _

theorem resolveContent (path : Path) (config : Configuration) (content : String) :
    R _ (Inclusion.resolveContent engine w searchDirs load path config content)
      (Inclusion.resolveContent engine w searchDirs load' path config content) := by
  refine hR.bind (hR.normalize engine _) fun file => ?_
  simp only
  rcases engine.directive file.document.config includeDirective with failure | find
  · exact hR.pure _
  · exact hR.bind (hR.mapM _ fun line => hR.resolveLine hload path _ find line) fun _ => hR.pure _

end

/-- Only a file that can be read asks for others. -/
theorem readAndResolve {path : Path}
    (hload : ∀ content, w.read path = .ok content →
      ∀ path origin config, R _ (load path origin config) (load' path origin config))
    (config : Configuration) :
    R _ (Inclusion.readAndResolve engine w searchDirs load path config)
      (Inclusion.readAndResolve engine w searchDirs load' path config) := by
  rcases hread : w.read path with e | content
  · simp only [Inclusion.readAndResolve, hread]
    exact hR.reportThen (.unreadable hread) _
  · rw [Inclusion.readAndResolve_of_read hread, Inclusion.readAndResolve_of_read hread]
    exact hR.bind (hR.resolveContent (hload content hread) path config content) fun d =>
      hR.pure (some d)

variable {identity path : Path} {config : Configuration}

/-- A new file is resolved while it is open, and remembered. -/
theorem loadNew
    (hread : R _
      (Inclusion.whileOpen identity
        (Inclusion.readAndResolve engine w searchDirs load path config))
      (Inclusion.whileOpen identity
        (Inclusion.readAndResolve engine w searchDirs load' path config)))
    (hremember : ∀ d, R _ (Inclusion.remember identity d) (Inclusion.remember identity d)) :
    R _ (Inclusion.loadNew engine w searchDirs load identity path config)
      (Inclusion.loadNew engine w searchDirs load' identity path config) := by
  refine hR.bind hread fun resolved => ?_
  rcases resolved with - | d
  · exact hR.pure _
  · exact hR.bind (hremember d) fun _ => hR.pure _

/-- Only what is done about a new file can differ. -/
theorem settleOr {new : Loading σ (Document Normalized)} {new' : Loading τ (Document Normalized)}
    {origin : Position} {m : Memory} (hnew : w.identity path ∉ m.chain → R _ new new') :
    R _ (Inclusion.settleOr w new path origin config m)
      (Inclusion.settleOr w new' path origin config m) := by
  rw [Inclusion.settleOr, Inclusion.settleOr]
  rcases m.cache.lookup (w.identity path) with - | d
  · simp only
    by_cases hopen : m.chain.contains (w.identity path) = true
    · rw [if_pos hopen, if_pos hopen]
      exact hR.reportThen .circular _
    · rw [if_neg hopen, if_neg hopen]
      exact hnew (by simpa using hopen)
  · exact hR.pure d

end

end LoadingCongruence

/-! ## Whole loads -/

/-- The relation holds of the two computations from every memory on. -/
def FromEveryMemory {σ τ : Type} (R : ∀ α : Type, Reporting σ α → Reporting τ α → Prop)
    (α : Type) (x : Loading σ α) (y : Loading τ α) : Prop :=
  ∀ m, R _ (Loading.startingAt x m) (Loading.startingAt y m)

/-- Normalization knows nothing of loading. -/
theorem startingAt_normalize {σ : Type} [Sink σ] (engine : Engine) (raw : Document Raw)
    (m : Memory) :
    Loading.startingAt (normalize engine raw : Loading σ _) m =
      normalize engine raw >>= fun file => pure (file, m) := by
  obtain ⟨s, hloading, hplain, -⟩ :=
    (normalize_settled (σ := Loader σ) (τ := σ) engine raw).sameScript
  rw [hloading, hplain, startingAt_play]

namespace LoadingCongruence

variable {σ τ : Type} [Sink σ] [Sink τ] {w : Workspace}
  {R : ∀ α : Type, Reporting σ α → Reporting τ α → Prop} (hR : LoadingCongruence w R)
include hR

theorem fromEveryMemory : LoadingCongruence w (FromEveryMemory R) where
  pure a m := hR.pure (a, m)
  bind hx hf m := by
    rw [startingAt_bind, startingAt_bind]
    exact hR.bind (hx m) fun a => hf a.1 a.2
  report h m := by
    rw [startingAt_report, startingAt_report]
    exact hR.reportThen h _
  normalize engine raw m := by
    rw [startingAt_normalize, startingAt_normalize]
    exact hR.bind (hR.normalize engine raw) fun _ => hR.pure _

theorem whileOpen {α : Type} {x : Loading σ α} {y : Loading τ α} (identity : Path)
    (h : FromEveryMemory R α x y) :
    FromEveryMemory R _ (Inclusion.whileOpen identity x) (Inclusion.whileOpen identity y) :=
  fun m => by
    rw [startingAt_whileOpen, startingAt_whileOpen]
    exact hR.bind (h _) fun _ => hR.pure _

theorem remember (identity : Path) (d : Document Normalized) :
    FromEveryMemory R _ (Inclusion.remember identity d : Loading σ Unit)
      (Inclusion.remember identity d : Loading τ Unit) := fun m => by
  rw [startingAt_remember, startingAt_remember]
  exact hR.pure _

variable (engine : Engine) (searchDirs : List Path)

/-- The relation holds of every load. By induction on the depth that is left: whether a file is
remembered or open is settled by the memory, and so for both computations alike. -/
theorem loadWithin (depth : Nat) (path : Path) (origin : Position) (config : Configuration) :
    FromEveryMemory R _
      (Inclusion.loadWithin engine w searchDirs depth path origin config : Loading σ _)
      (Inclusion.loadWithin engine w searchDirs depth path origin config : Loading τ _) := by
  have hM := hR.fromEveryMemory
  induction depth generalizing path origin config with
  | zero => exact hM.pure _
  | succ depth ih =>
    intro m
    rw [loadWithin_startingAt, loadWithin_startingAt]
    refine hR.bind (hR.reportMissing path) fun _ => ?_
    refine hM.settleOr (fun _ => hM.loadNew ?_ (hR.remember (w.identity path))) m
    exact hR.whileOpen (w.identity path) (hM.readAndResolve (fun _ _ => ih) config)

theorem loadFiles (config : Configuration) (roots : List Path) :
    R _ (SourcePrep.loadFiles engine w searchDirs config roots : Reporting σ _)
      (SourcePrep.loadFiles engine w searchDirs config roots : Reporting τ _) := by
  rw [SourcePrep.loadFiles, SourcePrep.loadFiles, start_eq, start_eq]
  refine hR.bind ?_ fun a => hR.pure a.1
  exact hR.fromEveryMemory.mapM roots
    (fun root => hR.loadWithin engine searchDirs _ root _ config) _

end LoadingCongruence

end SourcePrep
