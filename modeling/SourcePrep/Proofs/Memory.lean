import SourcePrep.Pipeline
import SourcePrep.Proofs.Script

/-!
# Loading from a given memory

A computation that loads files changes two things besides the sink: the chain and the cache.
`Loading.startingAt x m` takes them out of the state. It is a computation on the sink alone that
starts from the memory `m` and gives back the memory along with the result, so that scripts can speak
about it. The lemmas `startingAt_bind`, `startingAt_play`, ... say what it does to each of the ways
in which loading is put together, and `loadWithin_startingAt` to a load as a whole.
-/

set_option autoImplicit false

namespace SourcePrep

/-- What loading remembers: the files being resolved and the files resolved. -/
structure Memory where
  chain : List Path
  cache : List (Path × Document Normalized)

/-- The memory of a loader. -/
def Loader.memory {σ : Type} (s : Loader σ) : Memory := ⟨s.chain, s.cache⟩

/-- Nothing is loaded, and nothing is being loaded. -/
def Memory.blank : Memory := ⟨[], []⟩

/-- The computation from a memory on, with the memory that it leads to. -/
def Loading.startingAt {σ α : Type} (x : Loading σ α) (m : Memory) : Reporting σ (α × Memory) :=
  fun sink =>
    let (result, s) := x ⟨m.chain, m.cache, sink⟩
    (result.map fun a => (a, s.memory), s.sink)

section
variable {σ α β : Type}

theorem startingAt_pure (a : α) (m : Memory) :
    Loading.startingAt (pure a : Loading σ α) m = pure (a, m) := rfl

theorem startingAt_bind (x : Loading σ α) (f : α → Loading σ β) (m : Memory) :
    Loading.startingAt (x >>= f) m =
      Loading.startingAt x m >>= fun a => Loading.startingAt (f a.1) a.2 := by
  funext sink
  show Loading.startingAt (ExceptT.bind x f) m sink =
    (ExceptT.bind (Loading.startingAt x m) fun a => Loading.startingAt (f a.1) a.2) sink
  simp only [Loading.startingAt, ExceptT.bind, ExceptT.mk, bind, StateT.bind]
  rcases x ⟨m.chain, m.cache, sink⟩ with ⟨r | a, s⟩
  · rfl
  · rfl

theorem startingAt_get_bind (f : Memory → Loading σ β) (m : Memory) :
    Loading.startingAt (do let s ← get; f s.memory) m = Loading.startingAt (f m) m := rfl

theorem startingAt_whileOpen (identity : Path) (x : Loading σ α) (m : Memory) :
    Loading.startingAt (Inclusion.whileOpen identity x) m =
      (do
        let a ← Loading.startingAt x { m with chain := m.chain ++ [identity] }
        return (a.1, { a.2 with chain := a.2.chain.dropLast })) := by
  funext sink
  show _ = (ExceptT.bind (Loading.startingAt x { m with chain := m.chain ++ [identity] }) _) sink
  simp only [Loading.startingAt, Inclusion.whileOpen, ExceptT.bind, ExceptT.mk, bind, StateT.bind]
  rcases x ⟨m.chain ++ [identity], m.cache, sink⟩ with ⟨r | a, s⟩
  · rfl
  · rfl

theorem startingAt_remember (identity : Path) (d : Document Normalized) (m : Memory) :
    Loading.startingAt (Inclusion.remember identity d : Loading σ Unit) m =
      pure ((), { m with cache := m.cache ++ [(identity, d)] }) := rfl

theorem start_eq (x : Loading σ α) :
    Loading.start x = Loading.startingAt x .blank >>= fun a => pure a.1 := by
  funext sink
  show _ = (ExceptT.bind (Loading.startingAt x .blank) fun a => pure a.1) sink
  simp only [Loading.startingAt, Loading.start, ExceptT.bind, ExceptT.mk, bind, StateT.bind]
  rcases h : x ⟨[], [], sink⟩ with ⟨r | a, s⟩
  · simp only [Memory.blank, h]; rfl
  · simp only [Memory.blank, h]; rfl

end

section
variable {σ α : Type} [Sink σ]

theorem startingAt_report (d : Diagnostic) (m : Memory) :
    Loading.startingAt (report d : Loading σ Unit) m = report d >>= fun _ => pure ((), m) := by
  funext sink
  show _ = (ExceptT.bind (report d) fun _ => pure ((), m)) sink
  simp only [Loading.startingAt, ExceptT.bind, ExceptT.mk, bind, StateT.bind, report, Sink.emit]
  rcases Sink.emit sink d with ⟨a, sink'⟩
  cases a with
  | proceed =>
    by_cases h : d.severity < .fatal
    · simp only [h, if_true]; rfl
    · simp only [h, if_false]; rfl
  | stop => rfl
  | failed reason => rfl

/-- A script that knows nothing of loading leaves the memory as it is. -/
theorem startingAt_play (s : Script α) (m : Memory) :
    Loading.startingAt (s.play : Loading σ α) m = s.play >>= fun a => pure (a, m) := by
  obtain ⟨ds, e⟩ := s
  induction ds with
  | nil => cases e <;> rfl
  | cons d ds ih =>
    rw [Script.play_cons, Script.play_cons, startingAt_bind, startingAt_report]
    simp [ih]

/-! ## Loads -/

/-- Report a path that names nothing. -/
def reportMissing (w : Workspace) (path : Path) : Reporting σ Unit :=
  if w.isThere path then pure () else report (.missingFile path)

namespace Inclusion

/-- What a load does when the memory is known: a file that is resolved or being resolved is settled
at once. -/
def settleOr (w : Workspace) (new : Loading σ (Document Normalized)) (path : Path)
    (origin : Position) (config : Configuration) (m : Memory) : Loading σ (Document Normalized) :=
  match m.cache.lookup (w.identity path) with
  | some d => return d
  | none =>
    if m.chain.contains (w.identity path) then do
      report (.circularInclusion (cycleThrough m.chain (w.identity path)) origin)
      return .empty config
    else new

/-- A load, up to what is done about a new file. -/
def loadOr (w : Workspace) (new : Loading σ (Document Normalized)) (path : Path) (origin : Position)
    (config : Configuration) : Loading σ (Document Normalized) := do
  reportMissing w path
  let s ← get
  settleOr w new path origin config s.memory

theorem loadWithin_eq_loadOr (engine : Engine) (w : Workspace) (searchDirs : List Path)
    (depth : Nat) (path : Path) (origin : Position) (config : Configuration) :
    (loadWithin engine w searchDirs (depth + 1) path origin config : Loading σ _) =
      loadOr w (loadNew engine w searchDirs (loadWithin engine w searchDirs depth)
        (w.identity path) path config) path origin config := by
  unfold loadWithin loadOr reportMissing
  by_cases h : w.isThere path
  · simp only [h, if_true, pure_bind]
    rfl
  · simp only [h]
    rfl

end Inclusion

section
variable (w : Workspace) (path : Path) (origin : Position) (config : Configuration) (m : Memory)

theorem startingAt_loadOr (new : Loading σ (Document Normalized)) :
    Loading.startingAt (Inclusion.loadOr w new path origin config) m =
      (do
        reportMissing w path
        Loading.startingAt (Inclusion.settleOr w new path origin config m) m) := by
  have h : Loading.startingAt (reportMissing w path : Loading σ Unit) m =
      reportMissing w path >>= fun _ => pure ((), m) := by
    unfold reportMissing
    split
    · rfl
    · exact startingAt_report _ m
  rw [Inclusion.loadOr, startingAt_bind, h]
  simp [startingAt_get_bind]

theorem loadWithin_startingAt (engine : Engine) (searchDirs : List Path) (depth : Nat) :
    Loading.startingAt
        (Inclusion.loadWithin engine w searchDirs (depth + 1) path origin config : Loading σ _) m =
      (do
        reportMissing w path
        Loading.startingAt (Inclusion.settleOr w
          (Inclusion.loadNew engine w searchDirs (Inclusion.loadWithin engine w searchDirs depth)
            (w.identity path) path config) path origin config m) m) := by
  rw [Inclusion.loadWithin_eq_loadOr, startingAt_loadOr]

end

end

end SourcePrep
