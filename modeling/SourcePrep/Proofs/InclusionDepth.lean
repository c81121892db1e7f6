import SourcePrep.Proofs.LoadingJournal
import SourcePrep.Proofs.PreparedPatterns
import SourcePrep.Proofs.TameLoading

/-!
# How deep inclusions nest

Inclusion recurses on the files of a workspace, which may include each other in circles. What makes
it end is the chain: it holds different files of the workspace at every call, whatever detours the
paths take that lead to them, and there are only so many files. So the depth at which `loadWithin`
gives up is never reached.

* `Journey.nested`: what holds at the events of a journey that starts with a chain of files.
* `Inclusion.loadWithin_agree`: while there is depth for all files that are not on the chain, more
  depth makes no difference.
* `load_terminates`: what follows for a root.
-/

set_option autoImplicit false

namespace SourcePrep

/-- The call is followed, it is nested no deeper than there are files, and the chain holds one file
of the workspace for each call that it is part of. -/
structure LoadEvent.Nested (w : Workspace) (e : LoadEvent) : Prop where
  followed : e.phase ≠ .cutOff
  depth : e.level ≤ w.tree.fileCount
  chain : e.phase = .called → FileChain w e.memory.chain ∧ e.memory.chain.length = e.level

/-- By induction on the journey. A file that asks for others can be read, so it is a file of the
workspace, and another one than those on the chain. -/
theorem Journey.nested {w : Workspace} (hw : w.Grounded) {bound : Nat}
    (hbound : w.tree.fileCount < bound) {level : Nat} {m m' : Memory} {events : List LoadEvent}
    (h : Journey w bound level m events m') (hchain : FileChain w m.chain)
    (hlevel : m.chain.length = level) : ∀ e ∈ events, e.Nested w := by
  have hle := hchain.length_le
  induction h with
  | done => simp
  | cutOff deep => omega
  | settled old rest ih =>
    have hdepth := hlevel ▸ hle
    simp only [List.forall_mem_cons]
    exact ⟨⟨by simp, hdepth, fun _ => ⟨hchain, hlevel⟩⟩, ⟨by simp, hdepth, by simp⟩,
      ih hchain hlevel hle⟩
  | @opened level m inside after m' path within events result new inner asks closes rest ihInner
      ih =>
    have hdepth := hlevel ▸ hle
    have hafter : after.chain = m.chain := (Journey.opened new inner asks closes .done).chain_eq
    have hwithin : ∀ e ∈ within, e.Nested w := by
      rcases hread : w.read path with failure | content
      · simp [asks (Workspace.isReadable_of_error hread)]
      · have hopen : FileChain w (m.opening (w.identity path)).chain := hchain.push hw hread new.2
        exact ihInner hopen (by simp [Memory.opening, hlevel]) hopen.length_le
    simp only [List.forall_mem_cons, List.forall_mem_append]
    exact ⟨⟨by simp, hdepth, fun _ => ⟨hchain, hlevel⟩⟩, ⟨by simp, hdepth, by simp⟩, hwithin,
      ⟨by simp, hdepth, by simp⟩, ⟨by simp, hdepth, by simp⟩,
      ih (hafter ▸ hchain) (hafter ▸ hlevel) (hafter ▸ hle)⟩

/-! ## The depth that is left -/

/-- From every state with the chain, the computations do the same, and leave the chain as it is. -/
def AgreeAt {σ α : Type} (chain : List Path) (x y : Loading σ α) : Prop :=
  ∀ s : Loader σ, s.chain = chain → x s = y s ∧ (x s).2.chain = chain

namespace AgreeAt

variable {σ α β : Type} {chain : List Path}

theorem of_unnoted {y : Loading (Journal σ) α} {x : Loading σ α} (h : Unnoted y x) :
    AgreeAt chain x x := by
  intro s hs
  obtain ⟨-, hmemory, hforget⟩ := h ⟨s.chain, s.cache, ⟨s.sink, []⟩⟩
  have hrun : (x s).2 = (y ⟨s.chain, s.cache, ⟨s.sink, []⟩⟩).2.forget := congrArg Prod.snd hforget
  refine ⟨rfl, ?_⟩
  rw [hrun, ← hs]
  exact congrArg Memory.chain hmemory

theorem pure (a : α) : AgreeAt chain (Pure.pure a : Loading σ α) (Pure.pure a) :=
  of_unnoted (.pure a)

theorem bind {x y : Loading σ α} {f g : α → Loading σ β} (hxy : AgreeAt chain x y)
    (hfg : ∀ a, AgreeAt chain (f a) (g a)) : AgreeAt chain (x >>= f) (y >>= g) := by
  intro s hs
  obtain ⟨heq, hchain⟩ := hxy s hs
  rcases hx : x s with ⟨e | a, t⟩ <;> rw [hx] at heq hchain
  · rw [run_bind_error hx, run_bind_error heq.symm]
    exact ⟨rfl, hchain⟩
  · rw [run_bind_ok hx, run_bind_ok heq.symm]
    exact hfg a t hchain

theorem congruence [Sink σ] {w : Workspace} :
    LoadingCongruence (σ := Loader σ) (τ := Loader σ) w fun _ x y => AgreeAt chain x y where
  pure := .pure
  bind := .bind
  report _ := .of_unnoted (report_unnoted _)
  normalize engine raw := .of_unnoted (.of_settled (normalize_settled engine raw))

theorem whileOpen {x y : Loading σ α} (identity : Path) (h : AgreeAt (chain ++ [identity]) x y) :
    AgreeAt chain (Inclusion.whileOpen identity x) (Inclusion.whileOpen identity y) := by
  intro s hs
  obtain ⟨heq, hchain⟩ := h { s with chain := s.chain ++ [identity] } (by rw [hs])
  refine ⟨by simp only [Inclusion.whileOpen, heq], ?_⟩
  have hclosed : (Inclusion.whileOpen identity x s).2.chain =
      (x { s with chain := s.chain ++ [identity] }).2.chain.dropLast := rfl
  rw [hclosed, hchain, List.dropLast_concat]

end AgreeAt

namespace Inclusion

variable {σ : Type} [Sink σ] {engine : Engine} {w : Workspace} {searchDirs chain : List Path}
  {load load' : Load σ} {path : Path}

theorem loadOr_agree {new new' : Loading σ (Document Normalized)} {origin : Position}
    {config : Configuration} (h : w.identity path ∉ chain → AgreeAt chain new new') :
    AgreeAt chain (loadOr w new path origin config) (loadOr w new' path origin config) := by
  refine (AgreeAt.congruence.reportMissing path).bind fun _ s hs => ?_
  exact AgreeAt.congruence.settleOr (m := s.memory) (fun hnew => h (hs ▸ hnew)) s hs

/-- As long as no fewer loads may be nested than there are files left to open, one more makes no
difference. By induction on the depth. -/
theorem loadWithin_agree (hw : w.Grounded) (hchain : FileChain w chain) {depth : Nat}
    (hdepth : w.tree.fileCount < depth + chain.length) (path : Path) (origin : Position)
    (config : Configuration) :
    AgreeAt chain (loadWithin engine w searchDirs (depth + 1) path origin config : Loading σ _)
      (loadWithin engine w searchDirs depth path origin config) := by
  induction depth generalizing chain path origin config with
  | zero =>
    have := hchain.length_le
    omega
  | succ depth ih =>
    rw [loadWithin_eq_loadOr, loadWithin_eq_loadOr]
    refine loadOr_agree fun hnew => AgreeAt.congruence.loadNew
      (.whileOpen _ (AgreeAt.congruence.readAndResolve ?_ config)) fun d s hs => ⟨rfl, hs⟩
    intro content hread path origin config
    exact ih (hchain.push hw hread hnew) (by rw [List.length_append, List.length_singleton]; omega)
      path origin config

/-- From an empty chain, loading with any greater depth is loading. -/
theorem loadWithin_eq_load (engine : Engine) (hw : w.Grounded) (searchDirs : List Path)
    {depth : Nat} (hdepth : w.tree.fileCount < depth) (path : Path) (origin : Position)
    (config : Configuration) (s : Loader σ) (hs : s.chain = []) :
    loadWithin engine w searchDirs depth path origin config s =
      Inclusion.load engine w searchDirs path origin config s := by
  have hempty : FileChain w [] := ⟨.nil, by simp⟩
  have hleast : ∀ more, loadWithin engine w searchDirs (w.tree.fileCount + 1 + more) path origin
      config s = loadWithin engine w searchDirs (w.tree.fileCount + 1) path origin config s := by
    intro more
    induction more with
    | zero => rfl
    | succ more ih =>
      rw [← ih]
      have henough : w.tree.fileCount < w.tree.fileCount + 1 + more + 0 := by omega
      exact (loadWithin_agree hw hempty henough path origin config s hs).1
  obtain ⟨more, rfl⟩ := Nat.exists_eq_add_of_lt hdepth
  rw [Nat.add_right_comm, hleast]
  exact (hleast 1).symm

end Inclusion

/-- The load of a root comes to its end by itself, for every include graph, cache and sink: at
whatever greater depth it were to give up, it would come to the same. At every call the chain holds
different files of the workspace, one for each call that it is part of, so that a call is part of no
more others than there are files. -/
theorem load_terminates {σ : Type} [Sink σ] (engine : Engine) {w : Workspace} (hw : w.Grounded)
    (searchDirs : List Path) (path : Path) (origin : Position) (config : Configuration)
    (cache : List (Path × Document Normalized)) (sink : σ) :
    (∀ depth, w.tree.fileCount < depth →
      Inclusion.loadWithin engine w searchDirs depth path origin config ⟨[], cache, sink⟩ =
        Inclusion.load engine w searchDirs path origin config ⟨[], cache, sink⟩) ∧
    ∃ result, ∃ s : Loader (Journal σ),
      Inclusion.loadNoted engine w searchDirs (w.tree.fileCount + 2) 0 path origin config
        ⟨[], cache, ⟨sink, []⟩⟩ = (result, s) ∧
      Inclusion.load engine w searchDirs path origin config ⟨[], cache, sink⟩ =
        (result, s.forget) ∧
      ∀ e ∈ s.sink.events, e.Nested w := by
  refine ⟨fun depth hdepth => Inclusion.loadWithin_eq_load engine hw searchDirs hdepth path origin
    config ⟨[], cache, sink⟩ rfl, ?_⟩
  let start : Loader (Journal σ) := ⟨[], cache, ⟨sink, []⟩⟩
  obtain ⟨events, hevents, hjourney, hforget, -⟩ := Inclusion.loadNoted_notes (σ := σ) engine w
    searchDirs (Nat.zero_add (w.tree.fileCount + 2)) path origin config start
  have hblank : FileChain w start.memory.chain := ⟨.nil, by simp [start, Loader.memory]⟩
  have hnested := hjourney.nested hw (by omega) hblank rfl
  refine ⟨_, _, Prod.mk.eta.symm, hforget, ?_⟩
  rw [hevents]
  exact hnested

/-- Two files that include each other, and the first also itself, by a detour. -/
def detour : Workspace where
  tree := .directory [
    ("a", .file (.text "include \"b\"\ninclude \"./x/../a\"\n")),
    ("b", .file (.text "include \"a\"\n")),
    ("x", .directory [])]
  workingDir := ⟨"/"⟩

/-- The calls are nested as deep as there are files. -/
theorem load_terminates_detour :
    detour.Grounded ∧
    ∃ result, ∃ s : Loader (Journal Collector),
      Inclusion.load .standard detour [] ⟨"a"⟩ (.wholeFile ⟨"a"⟩) {} ⟨[], [], {}⟩ =
        (result, s.forget) ∧
      (∀ e ∈ s.sink.events, e.Nested detour) ∧
      (s.sink.events.filter (·.phase matches .called)).map (fun e => (e.level, e.path.text)) =
        [(0, "a"), (1, "b"), (2, "a"), (1, "./x/../a")] := by
  have hw : detour.Grounded := ⟨[], by decide⟩
  obtain ⟨-, result, s, hrun, hload, hnested⟩ := load_terminates (σ := Collector) .standard hw []
    ⟨"a"⟩ (.wholeFile ⟨"a"⟩) {} [] {}
  refine ⟨hw, result, s, hload, hnested, ?_⟩
  have hcalls : ((Inclusion.loadNoted .standard detour [] (detour.tree.fileCount + 2) 0 ⟨"a"⟩
      (.wholeFile ⟨"a"⟩) {} ⟨[], [], ⟨({} : Collector), []⟩⟩).2.sink.events.filter
        (·.phase matches .called)).map (fun e => (e.level, e.path.text)) =
      [(0, "a"), (1, "b"), (2, "a"), (1, "./x/../a")] := by
    rw [← Engine.prepared_eq]
    decide +kernel
  rw [hrun] at hcalls
  exact hcalls

end SourcePrep
