import SourcePrep.Proofs.EarlyStop
import SourcePrep.Proofs.ExpansionLoop

/-!
# A journal of loading

Nothing of what loading does on the way can be seen in its result: which files were asked for, how
deep in each other, and what was remembered at that moment. `loadNoted` loads as `loadWithin` does
and writes this down in a journal. There is an event for each call, for each return, and for each
moment at which the memory changes: when a file is put on the chain, and when it comes off again.

* `Journey`: what a journal can look like. A call is settled at once, or it opens a new file, and
  what happens until the file is closed again is a journey one level deeper. `Closing` says what a
  call leaves in the cache.
* `loadNoted_notes`: loading writes a journey, and without the journal it is `loadWithin`.

Every property of chain and cache is then proved from journeys alone.
-/

set_option autoImplicit false

namespace SourcePrep

/-! ## Events -/

/-- What happens in a call. -/
inductive LoadEvent.Phase
  | called
  /-- A new file was put on the chain. -/
  | opened
  /-- The file came off the chain, whatever became of it. -/
  | closed
  /-- The call is over. It came with the memory `entry`. -/
  | returned (entry : Memory) (result : Except Halt (Document Normalized))
  /-- The call was nested too deep to be followed. -/
  | cutOff

/-- A moment of loading. -/
structure LoadEvent where
  /-- How many other calls the call is part of. -/
  level : Nat
  /-- The file that was asked for. -/
  path : Path
  /-- What is remembered from this moment on. -/
  memory : Memory
  phase : LoadEvent.Phase

/-- A call was aborted. -/
def LoadEvent.isAbort (e : LoadEvent) : Bool := e.phase matches .returned _ (.error _)

/-- A sink together with the events so far. The events are no business of the sink's. -/
structure Journal (σ : Type) where
  inner : σ
  events : List LoadEvent := []

instance {σ : Type} [Sink σ] : Sink (Journal σ) where
  emit s d :=
    let (answer, inner) := Sink.emit s.inner d
    (answer, { s with inner })

namespace Loader

variable {σ : Type}

/-- The loader without its journal. -/
def forget (s : Loader (Journal σ)) : Loader σ := ⟨s.chain, s.cache, s.sink.inner⟩

/-- The loader after one more event. -/
def noting (s : Loader (Journal σ)) (level : Nat) (path : Path) (phase : LoadEvent.Phase) :
    Loader (Journal σ) :=
  { s with sink := { s.sink with events := s.sink.events ++ [⟨level, path, s.memory, phase⟩] } }

@[simp] theorem forget_noting (s : Loader (Journal σ)) (level : Nat) (path : Path)
    (phase : LoadEvent.Phase) : (s.noting level path phase).forget = s.forget := rfl

@[simp] theorem memory_noting (s : Loader (Journal σ)) (level : Nat) (path : Path)
    (phase : LoadEvent.Phase) : (s.noting level path phase).memory = s.memory := rfl

@[simp] theorem events_noting (s : Loader (Journal σ)) (level : Nat) (path : Path)
    (phase : LoadEvent.Phase) : (s.noting level path phase).sink.events =
      s.sink.events ++ [⟨level, path, s.memory, phase⟩] := rfl

end Loader

/-! ## Loading with a journal -/

namespace Memory

/-- The file is neither resolved nor being resolved. -/
def IsNew (m : Memory) (identity : Path) : Prop :=
  m.cache.lookup identity = none ∧ identity ∉ m.chain

instance (m : Memory) (identity : Path) : Decidable (m.IsNew identity) :=
  inferInstanceAs (Decidable (_ ∧ _))

/-- With one more file on the chain. -/
def opening (m : Memory) (identity : Path) : Memory := ⟨m.chain ++ [identity], m.cache⟩

/-- With one file less on the chain. -/
def closing (m : Memory) : Memory := ⟨m.chain.dropLast, m.cache⟩

/-- With one more file in the cache. -/
def keeping (m : Memory) (identity : Path) (d : Document Normalized) : Memory :=
  ⟨m.chain, m.cache ++ [(identity, d)]⟩

@[simp] theorem cache_opening (m : Memory) (identity : Path) :
    (m.opening identity).cache = m.cache := rfl

@[simp] theorem cache_closing (m : Memory) : m.closing.cache = m.cache := rfl

end Memory

namespace Inclusion

section
variable {σ : Type} [Sink σ]

/-- Write down that something happens. -/
def note (level : Nat) (path : Path) (phase : LoadEvent.Phase) : Loading (Journal σ) Unit :=
  fun s => (.ok (), s.noting level path phase)

/-- Write down that an action is over, whatever the outcome. -/
def thenNote {α : Type} (level : Nat) (path : Path) (phase : Except Halt α → LoadEvent.Phase)
    (action : Loading (Journal σ) α) : Loading (Journal σ) α := fun s =>
  let (result, s) := action s
  (result, s.noting level path (phase result))

variable (engine : Engine) (w : Workspace) (searchDirs : List Path)

/-- Load a new file, and write down when it is on the chain. -/
def loadNewNoted (level : Nat) (load : Load (Journal σ)) (path : Path) (config : Configuration) :
    Loading (Journal σ) (Document Normalized) := do
  let resolved ← thenNote level path (fun _ => .closed) <| whileOpen (w.identity path) do
    note level path .opened
    readAndResolve engine w searchDirs load path config
  match resolved with
  | some d =>
    remember (w.identity path) d
    return d
  | none => return .empty config

/-- Load a file at a level, and write down what happens. -/
def loadNoted : (depth level : Nat) → Load (Journal σ)
  | 0, level, path, _, config => do
    note level path .cutOff
    return .empty config
  | depth + 1, level, path, origin, config => fun s =>
    thenNote level path (.returned s.memory ·) (do
      note level path .called
      loadOr w (loadNewNoted engine w searchDirs level (loadNoted depth (level + 1)) path config)
        path origin config) s

end

end Inclusion

/-! ## Journeys -/

/-- The file can be read as text. -/
def Workspace.isReadable (w : Workspace) (path : Path) : Bool := (w.read path).isOk

theorem Workspace.isReadable_of_ok {w : Workspace} {path : Path} {content : String}
    (h : w.read path = .ok content) : w.isReadable path = true := by
  rw [isReadable, h]
  rfl

theorem Workspace.isReadable_of_error {w : Workspace} {path : Path} {e : FileError}
    (h : w.read path = .error e) : w.isReadable path = false := by
  rw [isReadable, h]
  rfl

/-- What a call that opened a new file comes to, and the memory that it leaves, after the file came
off the chain: only what was read and resolved to the end is kept. -/
inductive Closing (w : Workspace) (path : Path) (m : Memory) :
    Except Halt (Document Normalized) → Memory → Prop
  | kept {d : Document Normalized} (readable : w.isReadable path = true) :
      Closing w path m (.ok d) (m.keeping (w.identity path) d)
  | unreadable {d : Document Normalized} (unreadable : w.isReadable path = false) :
      Closing w path m (.ok d) m
  | aborted {e : Halt} : Closing w path m (.error e) m

/-- The events of calls in a row at one level, from a memory on, and the memory that they lead to.
Calls at the level `bound` are not followed. -/
inductive Journey (w : Workspace) (bound : Nat) : Nat → Memory → List LoadEvent → Memory → Prop
  | done {level : Nat} {m : Memory} : Journey w bound level m [] m
  | cutOff {level : Nat} {m m' : Memory} {path : Path} {events : List LoadEvent}
      (deep : bound ≤ level) (rest : Journey w bound level m events m') :
      Journey w bound level m (⟨level, path, m, .cutOff⟩ :: events) m'
  /-- The file is remembered, or the call is aborted before it is opened. -/
  | settled {level : Nat} {m m' : Memory} {path : Path} {events : List LoadEvent}
      {result : Except Halt (Document Normalized)}
      (old : m.IsNew (w.identity path) → ∃ e, result = .error e)
      (rest : Journey w bound level m events m') :
      Journey w bound level m
        (⟨level, path, m, .called⟩ :: ⟨level, path, m, .returned m result⟩ :: events) m'
  /-- A file that cannot be read asks for no other. -/
  | opened {level : Nat} {m inside after m' : Memory} {path : Path} {within events : List LoadEvent}
      {result : Except Halt (Document Normalized)} (new : m.IsNew (w.identity path))
      (inner : Journey w bound (level + 1) (m.opening (w.identity path)) within inside)
      (asks : w.isReadable path = false → within = [])
      (closes : Closing w path inside.closing result after)
      (rest : Journey w bound level after events m') :
      Journey w bound level m
        (⟨level, path, m, .called⟩ :: ⟨level, path, m.opening (w.identity path), .opened⟩ ::
          (within ++ ⟨level, path, inside.closing, .closed⟩ ::
            ⟨level, path, after, .returned m result⟩ :: events)) m'

theorem Journey.append {w : Workspace} {bound level : Nat} {m m' m'' : Memory}
    {events more : List LoadEvent} (h : Journey w bound level m events m')
    (h' : Journey w bound level m' more m'') : Journey w bound level m (events ++ more) m'' := by
  induction h with
  | done => exact h'
  | cutOff deep _ ih => exact .cutOff deep (ih h')
  | settled old _ ih => exact .settled old (ih h')
  | opened new inner asks closes _ _ ih =>
    have hjourney := Journey.opened new inner asks closes (ih h')
    simpa using hjourney

theorem Closing.chain_eq {w : Workspace} {path : Path} {m after : Memory}
    {result : Except Halt (Document Normalized)} (h : Closing w path m result after) :
    after.chain = m.chain := by
  cases h with
  | kept => rfl
  | unreadable => rfl
  | aborted => rfl

/-- What was put on the chain on the way has come off again. -/
theorem Journey.chain_eq {w : Workspace} {bound level : Nat} {m m' : Memory}
    {events : List LoadEvent} (h : Journey w bound level m events m') : m'.chain = m.chain := by
  induction h with
  | done => rfl
  | cutOff _ _ ih => exact ih
  | settled _ _ ih => exact ih
  | opened new inner asks closes _ ihInner ih =>
    rw [ih, closes.chain_eq, Memory.closing, ihInner, Memory.opening, List.dropLast_concat]

/-! ## Loading writes a journey -/

/-- From every state, `y` does what `x` does, and writes down a journey. If it comes to a result, no
call on the way was aborted. -/
def Notes {σ α : Type} (w : Workspace) (bound level : Nat) (y : Loading (Journal σ) α)
    (x : Loading σ α) : Prop :=
  ∀ s, ∃ events, (y s).2.sink.events = s.sink.events ++ events ∧
    Journey w bound level s.memory events (y s).2.memory ∧
    x s.forget = ((y s).1, (y s).2.forget) ∧
    ∀ a, (y s).1 = .ok a → ∀ e ∈ events, e.isAbort = false

/-- From every state, `y` does what `x` does, and nothing happens. -/
def Unnoted {σ α : Type} (y : Loading (Journal σ) α) (x : Loading σ α) : Prop :=
  ∀ s, (y s).2.sink.events = s.sink.events ∧ (y s).2.memory = s.memory ∧
    x s.forget = ((y s).1, (y s).2.forget)

section
variable {σ α β : Type} [Sink σ]

theorem report_unnoted (d : Diagnostic) :
    Unnoted (report d : Loading (Journal σ) Unit) (report d) := by
  intro s
  rcases h : Sink.emit s.sink.inner d with ⟨answer, inner⟩
  cases answer with
  | proceed =>
    by_cases hd : d.severity < .fatal
    · simp [report, Sink.emit, Loader.forget, Loader.memory, h, hd]
    · simp [report, Sink.emit, Loader.forget, Loader.memory, h, hd]
  | stop => simp [report, Sink.emit, Loader.forget, Loader.memory, h]
  | failed reason => simp [report, Sink.emit, Loader.forget, Loader.memory, h]

omit [Sink σ] in
theorem Unnoted.bind {y : Loading (Journal σ) α} {x : Loading σ α}
    {g : α → Loading (Journal σ) β} {f : α → Loading σ β} (hx : Unnoted y x)
    (hf : ∀ a, Unnoted (g a) (f a)) : Unnoted (y >>= g) (x >>= f) := by
  intro s
  obtain ⟨hevents, hmemory, hforget⟩ := hx s
  rcases hy : y s with ⟨e | a, t⟩ <;> rw [hy] at hevents hmemory hforget
  · rw [run_bind_error hy, run_bind_error hforget]
    exact ⟨hevents, hmemory, rfl⟩
  · obtain ⟨hevents', hmemory', hforget'⟩ := hf a t
    rw [run_bind_ok hy, run_bind_ok hforget]
    exact ⟨hevents'.trans hevents, hmemory'.trans hmemory, hforget'⟩

omit [Sink σ] in
theorem Unnoted.pure (a : α) : Unnoted (Pure.pure a : Loading (Journal σ) α) (Pure.pure a) :=
  fun _ => ⟨rfl, rfl, rfl⟩

/-- A script is played without a word in the journal. -/
theorem Unnoted.of_settled {y : Loading (Journal σ) α} {x : Loading σ α} (h : Settled y x) :
    Unnoted y x := by
  obtain ⟨⟨ds, e⟩, rfl, rfl, -⟩ := h.sameScript
  clear h
  induction ds with
  | nil =>
    intro s
    cases e <;> exact ⟨rfl, rfl, rfl⟩
  | cons d ds ih =>
    rw [Script.play_cons, Script.play_cons]
    exact (report_unnoted d).bind fun _ => ih

end

namespace Notes

variable {σ α β : Type} {w : Workspace} {bound level : Nat}

theorem of_unnoted {y : Loading (Journal σ) α} {x : Loading σ α} (h : Unnoted y x) :
    Notes w bound level y x := by
  intro s
  obtain ⟨hevents, hmemory, hforget⟩ := h s
  exact ⟨[], by rw [hevents, List.append_nil], by rw [hmemory]; exact .done, hforget, by simp⟩

theorem pure (a : α) :
    Notes w bound level (Pure.pure a : Loading (Journal σ) α) (Pure.pure a) :=
  of_unnoted (.pure a)

theorem bind {y : Loading (Journal σ) α} {x : Loading σ α} {g : α → Loading (Journal σ) β}
    {f : α → Loading σ β} (hx : Notes w bound level y x)
    (hf : ∀ a, Notes w bound level (g a) (f a)) : Notes w bound level (y >>= g) (x >>= f) := by
  intro s
  obtain ⟨events, hevents, hjourney, hforget, hgood⟩ := hx s
  rcases hy : y s with ⟨e | a, t⟩ <;> rw [hy] at hevents hjourney hforget hgood
  · rw [run_bind_error hy, run_bind_error hforget]
    exact ⟨events, hevents, hjourney, rfl, by simp⟩
  · obtain ⟨more, hmore, hjourney', hforget', hgood'⟩ := hf a t
    rw [run_bind_ok hy, run_bind_ok hforget]
    refine ⟨events ++ more, ?_, hjourney.append hjourney', hforget', fun b hb => ?_⟩
    · rw [hmore, hevents, List.append_assoc]
    · exact List.forall_mem_append.2 ⟨hgood a rfl, hgood' b hb⟩

theorem congruence [Sink σ] :
    LoadingCongruence (σ := Loader (Journal σ)) (τ := Loader σ) w
      fun _ y x => Notes w bound level y x where
  pure := .pure
  bind := .bind
  report _ := .of_unnoted (report_unnoted _)
  normalize engine raw := .of_unnoted (.of_settled (normalize_settled engine raw))

end Notes

namespace Inclusion

variable {σ : Type} [Sink σ] {engine : Engine} {w : Workspace} {searchDirs : List Path}
  {bound level : Nat} {noted : Load (Journal σ)} {load : Load σ}

variable (engine searchDirs) in
/-- What a file comes to while it is open: a file that can be read is resolved or the run is
aborted; any other asks for nothing and comes to nothing. -/
theorem readAndResolve_notes
    (h : ∀ path origin config, Notes w bound level (noted path origin config)
      (load path origin config))
    (path : Path) (config : Configuration) (s : Loader (Journal σ)) :
    ∃ events result t,
      readAndResolve engine w searchDirs noted path config s = (result, t) ∧
      readAndResolve engine w searchDirs load path config s.forget = (result, t.forget) ∧
      t.sink.events = s.sink.events ++ events ∧
      Journey w bound level s.memory events t.memory ∧
      (∀ a, result = .ok a → ∀ e ∈ events, e.isAbort = false) ∧
      (w.isReadable path = false → events = [] ∧ ∀ d, result ≠ .ok (some d)) ∧
      (w.isReadable path = true → result ≠ .ok none) := by
  rcases hread : w.read path with e | content
  · have hunreadable := Workspace.isReadable_of_error hread
    obtain ⟨hevents, hmemory, hforget⟩ := (report_unnoted (.errorLoadingFile path e.message)).bind
      (fun _ => Unnoted.pure (none : Option (Document Normalized))) s
    simp only [readAndResolve, hread]
    rcases hrun : ((report (.errorLoadingFile path e.message) >>= fun _ => pure none :
      Loading (Journal σ) (Option (Document Normalized))) s) with ⟨result, t⟩
    rw [hrun] at hevents hmemory hforget
    refine ⟨[], result, t, rfl, hforget, by rw [List.append_nil]; exact hevents,
      by rw [show t.memory = s.memory from hmemory]; exact .done, by simp, fun _ => ⟨rfl, ?_⟩, ?_⟩
    · rintro d rfl
      obtain ⟨_, _, -, hpure⟩ := run_bind_result hrun
      cases hpure
    · rw [hunreadable]
      rintro ⟨⟩
  · have hreadable := Workspace.isReadable_of_ok hread
    obtain ⟨events, hevents, hjourney, hforget, hgood⟩ :=
      ((Notes.congruence.resolveContent h path config content).bind
        fun d => Notes.pure (some d)) s
    rw [readAndResolve_of_read hread, readAndResolve_of_read hread]
    rcases hrun : ((resolveContent engine w searchDirs noted path config content >>= fun d =>
      pure (some d)) s) with ⟨result, t⟩
    rw [hrun] at hevents hjourney hforget hgood
    refine ⟨events, result, t, rfl, hforget, hevents, hjourney, hgood, ?_, ?_⟩
    · rw [hreadable]
      rintro ⟨⟩
    · rintro - rfl
      obtain ⟨_, _, -, hpure⟩ := run_bind_result hrun
      cases hpure

variable (engine searchDirs) in
/-- The events of a new file between the call and the return. -/
theorem loadNewNoted_notes
    (h : ∀ path origin config, Notes w bound (level + 1) (noted path origin config)
      (load path origin config))
    (path : Path) (config : Configuration) (s : Loader (Journal σ)) :
    ∃ within inside result t,
      loadNewNoted engine w searchDirs level noted path config s = (result, t) ∧
      loadNew engine w searchDirs load (w.identity path) path config s.forget =
        (result, t.forget) ∧
      t.sink.events = s.sink.events ++
        ⟨level, path, s.memory.opening (w.identity path), .opened⟩ ::
          (within ++ [⟨level, path, inside.closing, .closed⟩]) ∧
      Journey w bound (level + 1) (s.memory.opening (w.identity path)) within inside ∧
      (w.isReadable path = false → within = []) ∧
      Closing w path inside.closing result t.memory ∧
      ∀ d, result = .ok d → ∀ e ∈ within, e.isAbort = false := by
  -- the file is on the chain between these two states
  let opened : Loader (Journal σ) :=
    Loader.noting { s with chain := s.chain ++ [w.identity path] } level path .opened
  obtain ⟨within, resolved, t, hrun, hplain, hevents, hjourney, hgood, hunreadable, hreadable⟩ :=
    readAndResolve_notes engine searchDirs h path config opened
  let closed : Loader (Journal σ) :=
    Loader.noting { t with chain := t.chain.dropLast } level path .closed
  have hnoted : (thenNote level path (fun _ => .closed) <| whileOpen (w.identity path) do
      note level path .opened
      readAndResolve engine w searchDirs noted path config) s = (resolved, closed) := by
    have hopen : (do
        note level path .opened
        readAndResolve engine w searchDirs noted path config : Loading (Journal σ) _)
        { s with chain := s.chain ++ [w.identity path] } = (resolved, t) := hrun
    simp only [thenNote, whileOpen, hopen]
    rfl
  have hforget : whileOpen (w.identity path) (readAndResolve engine w searchDirs load path config)
      s.forget = (resolved, closed.forget) := by
    have hopen : readAndResolve engine w searchDirs load path config
        { s.forget with chain := s.forget.chain ++ [w.identity path] } = (resolved, t.forget) :=
      hplain
    simp only [whileOpen, hopen]
    rfl
  have hclosed : closed.sink.events = s.sink.events ++
      ⟨level, path, s.memory.opening (w.identity path), .opened⟩ ::
        (within ++ [⟨level, path, t.memory.closing, .closed⟩]) := by
    have hfirst : opened.sink.events = s.sink.events ++
        [⟨level, path, s.memory.opening (w.identity path), .opened⟩] := rfl
    have hlast : closed.sink.events = t.sink.events ++
        [⟨level, path, t.memory.closing, .closed⟩] := rfl
    rw [hlast, hevents, hfirst]
    simp
  have hquiet : w.isReadable path = false → within = [] := fun hno => (hunreadable hno).1
  rcases resolved with e | - | d
  · refine ⟨within, t.memory, .error e, closed, ?_, ?_, hclosed, hjourney, hquiet, .aborted,
      by simp⟩
    · rw [loadNewNoted, run_bind_error hnoted]
    · rw [loadNew, run_bind_error hforget]
  · refine ⟨within, t.memory, .ok (.empty config), closed, ?_, ?_, hclosed, hjourney, hquiet,
      .unreadable ?_, fun _ _ => hgood none rfl⟩
    · rw [loadNewNoted, run_bind_ok hnoted]
      rfl
    · rw [loadNew, run_bind_ok hforget]
      rfl
    · by_contra hyes
      exact hreadable (by simpa using hyes) rfl
  · refine ⟨within, t.memory, .ok d,
      { closed with cache := closed.cache ++ [(w.identity path, d)] }, ?_, ?_, hclosed, hjourney,
      hquiet, .kept ?_, fun _ _ => hgood (some d) rfl⟩
    · rw [loadNewNoted, run_bind_ok hnoted]
      rfl
    · rw [loadNew, run_bind_ok hforget]
      rfl
    · by_contra hno
      exact (hunreadable (by simpa using hno)).2 d rfl

theorem reportMissing_unnoted (w : Workspace) (path : Path) :
    Unnoted (reportMissing w path : Loading (Journal σ) Unit) (reportMissing w path) := by
  rw [reportMissing, reportMissing]
  split
  · exact .pure _
  · exact report_unnoted _

/-- A load is settled before the file is opened, or comes to what is done about a new file. -/
theorem loadOr_cases (w : Workspace) (noted : Loading (Journal σ) (Document Normalized))
    (plain : Loading σ (Document Normalized)) (path : Path) (origin : Position)
    (config : Configuration) (s : Loader (Journal σ)) :
    ∃ t, t.sink.events = s.sink.events ∧ t.memory = s.memory ∧
      ((∃ result, loadOr w noted path origin config s = (result, t) ∧
          loadOr w plain path origin config s.forget = (result, t.forget) ∧
          (s.memory.IsNew (w.identity path) → ∃ e, result = .error e)) ∨
        (s.memory.IsNew (w.identity path) ∧ loadOr w noted path origin config s = noted t ∧
          loadOr w plain path origin config s.forget = plain t.forget)) := by
  obtain ⟨hevents, hmemory, hforget⟩ := reportMissing_unnoted w path s
  rcases hrun : (reportMissing w path : Loading (Journal σ) Unit) s with ⟨e | ⟨⟩, t⟩ <;>
    rw [hrun] at hevents hmemory hforget
  · refine ⟨t, hevents, hmemory, .inl ⟨.error e, ?_, ?_, fun _ => ⟨e, rfl⟩⟩⟩
    · rw [loadOr, run_bind_error hrun]
    · rw [loadOr, run_bind_error hforget]
  have hnoted : loadOr w noted path origin config s =
      settleOr w noted path origin config t.memory t := by
    rw [loadOr, run_bind_ok hrun]
    rfl
  have hplain : loadOr w plain path origin config s.forget =
      settleOr w plain path origin config t.memory t.forget := by
    rw [loadOr, run_bind_ok hforget]
    rfl
  rw [hnoted, hplain, settleOr, settleOr, show t.memory = s.memory from hmemory]
  rcases hlookup : s.memory.cache.lookup (w.identity path) with - | d
  · simp only
    by_cases hchain : s.memory.chain.contains (w.identity path) = true
    · obtain ⟨hevents', hmemory', hforget'⟩ := ((report_unnoted (.circularInclusion
        (cycleThrough s.memory.chain (w.identity path)) origin)).bind
        fun _ => Unnoted.pure (Document.empty config : Document Normalized)) t
      rw [if_pos hchain, if_pos hchain]
      refine ⟨_, hevents'.trans hevents, hmemory'.trans hmemory, .inl ⟨_, rfl, hforget', ?_⟩⟩
      exact fun hnew => absurd (by simpa using hchain) hnew.2
    · rw [if_neg hchain, if_neg hchain]
      exact ⟨t, hevents, hmemory, .inr ⟨⟨hlookup, by simpa using hchain⟩, rfl, rfl⟩⟩
  · refine ⟨t, hevents, hmemory, .inl ⟨.ok d, rfl, rfl, fun hnew => ?_⟩⟩
    cases hlookup.symm.trans hnew.1

theorem loadNoted_run {depth level : Nat} {path : Path} {origin : Position}
    {config : Configuration} {s t : Loader (Journal σ)} {result : Except Halt (Document Normalized)}
    (h : loadOr w
      (loadNewNoted engine w searchDirs level (loadNoted engine w searchDirs depth (level + 1)) path
        config) path origin config (s.noting level path .called) = (result, t)) :
    loadNoted engine w searchDirs (depth + 1) level path origin config s =
      (result, t.noting level path (.returned s.memory result)) := by
  have hbody : (do
      note level path .called
      loadOr w
        (loadNewNoted engine w searchDirs level (loadNoted engine w searchDirs depth (level + 1))
          path config) path origin config : Loading (Journal σ) _) s = (result, t) := h
  simp only [loadNoted, thenNote, hbody]

/-- A load writes a journey, and without the journal it is a load. By induction on the depth that is
left: what a new file asks for is loaded one level deeper. -/
theorem loadNoted_notes (engine : Engine) (w : Workspace) (searchDirs : List Path) {depth : Nat}
    (hbound : level + depth = bound) (path : Path) (origin : Position) (config : Configuration) :
    Notes w bound level
      (loadNoted engine w searchDirs depth level path origin config : Loading (Journal σ) _)
      (loadWithin engine w searchDirs depth path origin config) := by
  induction depth generalizing level path origin config with
  | zero => exact fun s => ⟨[_], rfl, .cutOff (by omega) .done, rfl, by simp [LoadEvent.isAbort]⟩
  | succ depth ih =>
    intro s
    rw [loadWithin_eq_loadOr]
    obtain ⟨t, hevents, hmemory, hcases⟩ := loadOr_cases w
      (loadNewNoted engine w searchDirs level (loadNoted engine w searchDirs depth (level + 1))
        path config)
      (loadNew engine w searchDirs (loadWithin engine w searchDirs depth) (w.identity path) path
        config) path origin config (s.noting level path .called)
    rw [Loader.events_noting] at hevents
    rw [Loader.memory_noting] at hmemory hcases
    rw [Loader.forget_noting] at hcases
    rcases hcases with ⟨result, hnoted, hplain, hold⟩ | ⟨hnew, hnoted, hplain⟩
    · rw [loadNoted_run hnoted, hplain]
      refine ⟨[⟨level, path, s.memory, .called⟩,
        ⟨level, path, s.memory, .returned s.memory result⟩], ?_, ?_, rfl, ?_⟩
      · rw [Loader.events_noting, hevents, hmemory, List.append_assoc]
        rfl
      · rw [Loader.memory_noting, hmemory]
        exact .settled hold .done
      · rintro d rfl
        simp [LoadEvent.isAbort]
    · obtain ⟨within, inside, result, u, hload, hloadPlain, hevents', hjourney, hasks, hcloses,
          hgood⟩ :=
        loadNewNoted_notes engine searchDirs (ih (show level + 1 + depth = bound by omega)) path
          config t
      rw [loadNoted_run (hnoted.trans hload), hplain, hloadPlain]
      refine ⟨⟨level, path, s.memory, .called⟩ ::
        ⟨level, path, s.memory.opening (w.identity path), .opened⟩ ::
          (within ++ [⟨level, path, inside.closing, .closed⟩,
            ⟨level, path, u.memory, .returned s.memory result⟩]), ?_, ?_, rfl, ?_⟩
      · rw [Loader.events_noting, hevents', hevents, hmemory]
        simp
      · rw [hmemory] at hjourney
        exact .opened hnew hjourney hasks hcloses .done
      · rintro d rfl
        simp only [List.forall_mem_cons, List.forall_mem_append]
        exact ⟨rfl, rfl, hgood d rfl, rfl, rfl, by simp⟩

end Inclusion

end SourcePrep
