import SourcePrep.Proofs.LoadingJournal
import SourcePrep.Proofs.PreparedPatterns

/-!
# What a loader remembers

A loader remembers the files that are being resolved, on the chain, and those that are resolved, in
the cache. Each root starts with an empty chain. The cache goes on from root to root, also when the
load of a root was aborted half-way.

* `Memory.Tidy`: the cache holds no file twice, and no file that is still being resolved. Journeys
  keep a memory tidy (`Journey.tidy`).
* `CacheKept`: at every event the cache holds the documents that calls have returned so far, in
  order, and nothing else (`Journey.cacheKept`).
* `ReadOnce`: without an abort, only files that are new are read, and no file twice
  (`Journey.readOnce`).
* `loadRoots_orderly`: all of this, for roots that are loaded one after the other.
-/

set_option autoImplicit false

namespace SourcePrep

/-! ## Tidy memories -/

namespace Memory

/-- The files that are resolved. -/
def resolved (m : Memory) : List Path := m.cache.map Prod.fst

/-- No file is in the cache twice, or in the cache and on the chain. -/
structure Tidy (m : Memory) : Prop where
  distinct : m.resolved.Nodup
  apart : ∀ identity ∈ m.chain, identity ∉ m.resolved

@[simp] theorem resolved_keeping (m : Memory) (identity : Path) (d : Document Normalized) :
    (m.keeping identity d).resolved = m.resolved ++ [identity] := by
  rw [resolved, keeping, List.map_append]
  rfl

@[simp] theorem resolved_closing (m : Memory) : m.closing.resolved = m.resolved := rfl

variable {m : Memory} {identity : Path}

theorem isNew_iff : m.IsNew identity ↔ identity ∉ m.resolved ∧ identity ∉ m.chain := by
  rw [IsNew, List.lookup_eq_none_iff, resolved, List.mem_map]
  refine and_congr_left' ⟨?_, fun h p hp => ?_⟩
  · rintro h ⟨p, hp, rfl⟩
    exact absurd (h p hp) (by simp)
  · exact bne_iff_ne.2 fun heq => h ⟨p, hp, heq.symm⟩

theorem Tidy.opening (h : m.Tidy) (hnew : m.IsNew identity) : (m.opening identity).Tidy := by
  refine ⟨h.distinct, fun other hother => ?_⟩
  rcases List.mem_append.1 hother with hother | hother
  · exact h.apart other hother
  · rw [List.mem_singleton.1 hother]
    exact (isNew_iff.1 hnew).1

theorem Tidy.closing (h : m.Tidy) : m.closing.Tidy :=
  ⟨h.distinct, fun other hother => h.apart other (List.mem_of_mem_dropLast hother)⟩

theorem Tidy.keeping (h : m.Tidy) (hnew : m.IsNew identity) (d : Document Normalized) :
    (m.keeping identity d).Tidy := by
  obtain ⟨hresolved, hchain⟩ := isNew_iff.1 hnew
  refine ⟨?_, fun other hother => ?_⟩
  · rw [resolved_keeping]
    exact List.nodup_append'.2
      ⟨h.distinct, List.nodup_singleton _, List.disjoint_singleton.2 hresolved⟩
  · rw [resolved_keeping, List.mem_append, List.mem_singleton]
    rintro (hmem | rfl)
    · exact h.apart other hother hmem
    · exact hchain hother

end Memory

variable {w : Workspace} {bound level : Nat} {m m' : Memory} {events : List LoadEvent}

/-- A file that was put on the chain is in nobody else's way: while it was open nothing has put it
into the cache, so that it is as new when it comes off the chain as it was before. -/
theorem Journey.isNew_closing {identity : Path} {inside : Memory}
    (inner : Journey w bound level (m.opening identity) events inside) (hinside : inside.Tidy)
    (hnew : m.IsNew identity) : inside.closing.IsNew identity := by
  have hchain : inside.chain = m.chain ++ [identity] := inner.chain_eq
  refine Memory.isNew_iff.2 ⟨hinside.apart identity ?_, ?_⟩
  · rw [hchain]
    exact List.mem_append_right _ (List.mem_singleton_self _)
  · rw [Memory.closing, hchain, List.dropLast_concat]
    exact hnew.2

theorem Closing.tidy {path : Path} {result : Except Halt (Document Normalized)}
    (h : Closing w path m result m') (hm : m.Tidy) (hnew : m.IsNew (w.identity path)) :
    m'.Tidy := by
  cases h with
  | kept => exact hm.keeping hnew _
  | unreadable => exact hm
  | aborted => exact hm

/-- A journey from a tidy memory comes by tidy memories only. -/
theorem Journey.tidy (h : Journey w bound level m events m') (hm : m.Tidy) :
    m'.Tidy ∧ ∀ e ∈ events, e.memory.Tidy := by
  induction h with
  | done => exact ⟨hm, by simp⟩
  | cutOff _ _ ih =>
    obtain ⟨hlast, hrest⟩ := ih hm
    exact ⟨hlast, List.forall_mem_cons.2 ⟨hm, hrest⟩⟩
  | settled _ _ ih =>
    obtain ⟨hlast, hrest⟩ := ih hm
    exact ⟨hlast, List.forall_mem_cons.2 ⟨hm, List.forall_mem_cons.2 ⟨hm, hrest⟩⟩⟩
  | opened new inner _ closes _ ihInner ih =>
    have hopen := hm.opening new
    obtain ⟨hinside, hwithin⟩ := ihInner hopen
    -- the file was on the chain all the time, so no other call can have resolved it
    have hafter := closes.tidy hinside.closing (inner.isNew_closing hinside new)
    obtain ⟨hlast, hrest⟩ := ih hafter
    refine ⟨hlast, ?_⟩
    simp only [List.forall_mem_cons, List.forall_mem_append]
    exact ⟨hm, hopen, hwithin, hinside.closing, hafter, hrest⟩

/-! ## What is kept -/

/-- What a call leaves in the cache: the document that it returns, if it asked for a new file that
could be read and was not aborted. -/
def LoadEvent.kept (w : Workspace) (e : LoadEvent) : List (Path × Document Normalized) :=
  match e.phase with
  | .returned entry (.ok d) =>
    if entry.IsNew (w.identity e.path) ∧ w.isReadable e.path then [(w.identity e.path, d)] else []
  | _ => []

namespace LoadEvent

variable {level : Nat} {path : Path} {m : Memory}

@[simp] theorem kept_called : kept w ⟨level, path, m, .called⟩ = [] := rfl

@[simp] theorem kept_opened : kept w ⟨level, path, m, .opened⟩ = [] := rfl

@[simp] theorem kept_closed : kept w ⟨level, path, m, .closed⟩ = [] := rfl

@[simp] theorem kept_cutOff : kept w ⟨level, path, m, .cutOff⟩ = [] := rfl

end LoadEvent

/-- At every event the cache holds what it held before, and what the event leaves in it. -/
def CacheKept (w : Workspace) (cache : List (Path × Document Normalized)) : List LoadEvent → Prop
  | [] => True
  | e :: events => e.memory.cache = cache ++ e.kept w ∧ CacheKept w e.memory.cache events

namespace CacheKept

variable {cache : List (Path × Document Normalized)}

theorem append_iff {events more : List LoadEvent} :
    CacheKept w cache (events ++ more) ↔
      CacheKept w cache events ∧ CacheKept w (cache ++ events.flatMap (LoadEvent.kept w)) more := by
  induction events generalizing cache with
  | nil => simp [CacheKept]
  | cons e events ih =>
    rw [List.cons_append, CacheKept, CacheKept, ih, List.flatMap_cons, and_assoc]
    refine and_congr_right fun hcache => ?_
    rw [hcache, List.append_assoc]

/-- The whole cache at an event. -/
theorem cache_eq {before after : List LoadEvent} {e : LoadEvent}
    (h : CacheKept w cache (before ++ e :: after)) :
    e.memory.cache = cache ++ (before ++ [e]).flatMap (LoadEvent.kept w) := by
  have hcache := (append_iff.1 h).2.1
  simpa using hcache

end CacheKept

theorem Closing.cache_eq {path : Path} {entry : Memory} {result : Except Halt (Document Normalized)}
    (h : Closing w path m result m') (hnew : entry.IsNew (w.identity path)) (level : Nat) :
    m'.cache = m.cache ++ LoadEvent.kept w ⟨level, path, m', .returned entry result⟩ := by
  cases h with
  | kept readable => simp [LoadEvent.kept, Memory.keeping, hnew, readable]
  | unreadable unreadable => simp [LoadEvent.kept, unreadable]
  | aborted => simp [LoadEvent.kept]

/-- A call that is settled at once leaves nothing in the cache. -/
theorem kept_settled {path : Path} {result : Except Halt (Document Normalized)}
    (old : m.IsNew (w.identity path) → ∃ e, result = .error e) :
    LoadEvent.kept w ⟨level, path, m, .returned m result⟩ = [] := by
  rcases result with e | d
  · rfl
  · have hnot : ¬ m.IsNew (w.identity path) := by
      intro hnew
      obtain ⟨e, he⟩ := old hnew
      cases he
    simp [LoadEvent.kept, hnot]

/-- A journey accounts for every change of the cache. -/
theorem Journey.cacheKept (h : Journey w bound level m events m') :
    CacheKept w m.cache events ∧ m'.cache = m.cache ++ events.flatMap (LoadEvent.kept w) := by
  induction h with
  | done => simp [CacheKept]
  | cutOff _ _ ih => simpa [CacheKept] using ih
  | settled old _ ih => simpa [CacheKept, kept_settled old] using ih
  | @opened level m inside after m' path within events result new inner asks closes rest ihInner
      ih =>
    obtain ⟨hwithin, hinside⟩ := ihInner
    obtain ⟨hrest, hlast⟩ := ih
    have hafter := closes.cache_eq new level
    rw [Memory.cache_opening] at hinside
    rw [Memory.cache_closing] at hafter
    refine ⟨⟨by simp, by simp, CacheKept.append_iff.2 ⟨hwithin, ?_, hafter, hrest⟩⟩, ?_⟩
    · simp [hinside]
    · simp [hlast, hafter, hinside]

/-- What is resolved stays so. -/
theorem Journey.resolved_subset (h : Journey w bound level m events m') :
    m.resolved ⊆ m'.resolved := by
  rw [Memory.resolved, Memory.resolved, h.cacheKept.2, List.map_append]
  exact List.subset_append_left _ _

/-! ## What is read -/

/-- The file that is read with success when it is opened. -/
def LoadEvent.reads (w : Workspace) (e : LoadEvent) : List Path :=
  match e.phase with
  | .opened => if w.isReadable e.path then [w.identity e.path] else []
  | _ => []

namespace LoadEvent

variable {level : Nat} {path : Path} {m : Memory}

@[simp] theorem reads_called : reads w ⟨level, path, m, .called⟩ = [] := rfl

@[simp] theorem reads_opened : reads w ⟨level, path, m, .opened⟩ =
    if w.isReadable path then [w.identity path] else [] := rfl

@[simp] theorem reads_closed : reads w ⟨level, path, m, .closed⟩ = [] := rfl

@[simp] theorem reads_returned {entry : Memory} {result : Except Halt (Document Normalized)} :
    reads w ⟨level, path, m, .returned entry result⟩ = [] := rfl

@[simp] theorem reads_cutOff : reads w ⟨level, path, m, .cutOff⟩ = [] := rfl

end LoadEvent

/-- Files that are read between two moments: they are new at first, there is none twice, and all of
them are resolved in the end. -/
structure ReadOnce (m : Memory) (files : List Path) (m' : Memory) : Prop where
  distinct : files.Nodup
  new : ∀ identity ∈ files, m.IsNew identity
  resolved : ∀ identity ∈ files, identity ∈ m'.resolved

namespace ReadOnce

theorem nil : ReadOnce m [] m' := ⟨.nil, by simp, by simp⟩

/-- What is read later was not read before, because that is resolved by now. -/
theorem append {between : Memory} {files more : List Path} (h : ReadOnce m files between)
    (h' : ReadOnce between more m') (hchain : between.chain = m.chain)
    (hbetween : m.resolved ⊆ between.resolved) (hlast : between.resolved ⊆ m'.resolved) :
    ReadOnce m (files ++ more) m' := by
  refine ⟨List.nodup_append'.2 ⟨h.distinct, h'.distinct, fun identity hfirst hlater => ?_⟩,
    List.forall_mem_append.2 ⟨h.new, fun identity hlater => ?_⟩,
    List.forall_mem_append.2 ⟨fun identity hfirst => hlast (h.resolved identity hfirst),
      h'.resolved⟩⟩
  · exact (Memory.isNew_iff.1 (h'.new identity hlater)).1 (h.resolved identity hfirst)
  · obtain ⟨hresolved, hopen⟩ := Memory.isNew_iff.1 (h'.new identity hlater)
    exact Memory.isNew_iff.2 ⟨fun hold => hresolved (hbetween hold), hchain ▸ hopen⟩

/-- A file that was read, and what was read while it was open. -/
theorem cons {inside : Memory} {identity : Path} {files : List Path} (hnew : m.IsNew identity)
    (h : ReadOnce (m.opening identity) files inside) (d : Document Normalized) :
    ReadOnce m (identity :: files) (inside.closing.keeping identity d) := by
  have hothers : ∀ other ∈ files, m.IsNew other ∧ other ≠ identity := by
    intro other hother
    obtain ⟨hresolved, hopen⟩ := Memory.isNew_iff.1 (h.new other hother)
    rw [Memory.opening, List.mem_append, List.mem_singleton, not_or] at hopen
    exact ⟨Memory.isNew_iff.2 ⟨hresolved, hopen.1⟩, hopen.2⟩
  refine ⟨List.nodup_cons.2 ⟨fun hmem => (hothers identity hmem).2 rfl, h.distinct⟩,
    List.forall_mem_cons.2 ⟨hnew, fun other hother => (hothers other hother).1⟩,
    List.forall_mem_cons.2 ⟨?_, fun other hother => ?_⟩⟩
  · simp
  · rw [Memory.resolved_keeping, Memory.resolved_closing]
    exact List.mem_append_left _ (h.resolved other hother)

end ReadOnce

/-- On a journey without an abort only new files are read, and no file twice. -/
theorem Journey.readOnce (h : Journey w bound level m events m')
    (hgood : ∀ e ∈ events, e.isAbort = false) :
    ReadOnce m (events.flatMap (LoadEvent.reads w)) m' := by
  induction h with
  | done => exact .nil
  | cutOff _ _ ih => simpa using ih fun e he => hgood e (.tail _ he)
  | settled _ _ ih => simpa using ih fun e he => hgood e (.tail _ (.tail _ he))
  | @opened level m inside after m' path within events result new inner asks closes rest ihInner
      ih =>
    simp only [List.forall_mem_cons, List.forall_mem_append] at hgood
    obtain ⟨-, -, hwithin, -, hreturned, hrest⟩ := hgood
    -- what is read in the call, up to its return, and then what is read by the calls after it
    have hcall := Journey.opened new inner asks closes .done
    have hfirst : ReadOnce m ((if w.isReadable path then [w.identity path] else []) ++
        within.flatMap (LoadEvent.reads w)) after := by
      cases closes with
      | kept readable =>
        rw [if_pos readable, List.singleton_append]
        exact .cons new (ihInner hwithin) _
      | unreadable unreadable =>
        rw [unreadable, asks unreadable]
        exact .nil
      | aborted => cases hreturned
    simpa using hfirst.append (ih hrest) hcall.chain_eq hcall.resolved_subset rest.resolved_subset

/-! ## Roots in a row -/

/-- A root to be loaded, with a configuration and a sink of its own. -/
structure RootCall where
  path : Path
  config : Configuration
  {σ : Type}
  [sinks : Sink σ]
  sink : σ

attribute [instance] RootCall.sinks

/-- What the loads of some roots came to, and the cache after them. -/
abbrev Session := List (Except Halt (Document Normalized)) × List (Path × Document Normalized)

namespace Inclusion

variable (engine : Engine) (w : Workspace) (searchDirs : List Path)

/-- Load roots one after the other. An abort ends the load of its root only. -/
def loadRoots : List RootCall → List (Path × Document Normalized) → Session
  | [], cache => ([], cache)
  | root :: roots, cache =>
    let (result, s) := loadRoot engine w searchDirs root.config root.path ⟨[], cache, root.sink⟩
    let (results, cache) := loadRoots roots s.cache
    (result :: results, cache)

/-- Load roots one after the other, and write down what happens. -/
def loadRootsNoted : List RootCall → List (Path × Document Normalized) → Session × List LoadEvent
  | [], cache => (([], cache), [])
  | root :: roots, cache =>
    let (result, s) := loadNoted engine w searchDirs (w.tree.fileCount + 2) 0 root.path
      (.wholeFile root.path) root.config ⟨[], cache, ⟨root.sink, []⟩⟩
    let ((results, cache), events) := loadRootsNoted roots s.cache
    ((result :: results, cache), s.sink.events ++ events)

/-- The journal of the session is one journey, since the chain is empty between the roots. -/
theorem loadRootsNoted_journey (roots : List RootCall) (cache : List (Path × Document Normalized)) :
    ∃ results last events,
      loadRootsNoted engine w searchDirs roots cache = ((results, last), events) ∧
      loadRoots engine w searchDirs roots cache = (results, last) ∧
      Journey w (w.tree.fileCount + 2) 0 ⟨[], cache⟩ events ⟨[], last⟩ ∧
      ((∀ result ∈ results, ∃ d, result = .ok d) → ∀ e ∈ events, e.isAbort = false) := by
  induction roots generalizing cache with
  | nil => exact ⟨[], cache, [], rfl, rfl, .done, by simp⟩
  | cons root roots ih =>
    let start : Loader (Journal root.σ) := ⟨[], cache, ⟨root.sink, []⟩⟩
    obtain ⟨events, hevents, hjourney, hforget, hgood⟩ := loadNoted_notes engine w searchDirs
      (Nat.zero_add (w.tree.fileCount + 2)) root.path (.wholeFile root.path) root.config start
    rcases hrun : loadNoted engine w searchDirs (w.tree.fileCount + 2) 0 root.path
      (.wholeFile root.path) root.config start with ⟨result, s⟩
    rw [hrun] at hevents hjourney hforget hgood
    have hload : loadRoot engine w searchDirs root.config root.path ⟨[], cache, root.sink⟩ =
        (result, s.forget) := hforget
    -- whatever became of the root, the chain is empty again, as the next root finds it
    have hempty : s.memory = ⟨[], s.cache⟩ := by
      have hchain : s.chain = [] := hjourney.chain_eq
      rw [Loader.memory, hchain]
    obtain ⟨results, last, more, hnoted, hplain, hjourney', hgood'⟩ := ih s.cache
    refine ⟨result :: results, last, events ++ more, ?_, ?_, ?_, fun hresults => ?_⟩
    · simp only [loadRootsNoted]
      rw [hrun]
      simp only [hnoted]
      rw [hevents]
      rfl
    · simp only [loadRoots, hload]
      rw [show s.forget.cache = s.cache from rfl, hplain]
    · exact hjourney.append (hempty ▸ hjourney')
    · obtain ⟨⟨d, hd⟩, hrest⟩ := List.forall_mem_cons.1 hresults
      exact List.forall_mem_append.2 ⟨hgood d hd, hgood' hrest⟩

end Inclusion

/-- What holds at the events of a session. -/
structure Orderly (w : Workspace) (events : List LoadEvent) : Prop where
  /-- A call returns with the chain that it came with, whatever it comes to. -/
  restored : ∀ e ∈ events, ∀ entry result, e.phase = .returned entry result →
    e.memory.chain = entry.chain
  /-- No file is in the cache twice, or in the cache and on the chain. -/
  tidy : ∀ e ∈ events, e.memory.Tidy
  /-- What is in the cache stays in its place. -/
  grows : events.Pairwise fun e f => e.memory.cache <+: f.memory.cache
  /-- The cache holds what calls have returned, and returned in full. -/
  kept : ∀ before e after, events = before ++ e :: after →
    e.memory.cache = (before ++ [e]).flatMap (LoadEvent.kept w)

theorem Journey.restored (h : Journey w bound level m events m') : ∀ e ∈ events, ∀ entry result,
    e.phase = .returned entry result → e.memory.chain = entry.chain := by
  induction h with
  | done => simp
  | cutOff _ _ ih => exact List.forall_mem_cons.2 ⟨by simp, ih⟩
  | settled _ _ ih =>
    simp only [List.forall_mem_cons]
    refine ⟨by simp, ?_, ih⟩
    rintro entry result ⟨⟩
    rfl
  | opened new inner asks closes _ ihInner ih =>
    have hcall := Journey.opened new inner asks closes .done
    simp only [List.forall_mem_cons, List.forall_mem_append]
    refine ⟨by simp, by simp, ihInner, by simp, ?_, ih⟩
    rintro entry result ⟨⟩
    exact hcall.chain_eq

theorem CacheKept.pairwise {cache : List (Path × Document Normalized)}
    (h : CacheKept w cache events) :
    events.Pairwise fun e f => e.memory.cache <+: f.memory.cache := by
  induction events generalizing cache with
  | nil => exact .nil
  | cons e events ih =>
    refine .cons (fun f hf => ?_) (ih h.2)
    obtain ⟨between, after, rfl⟩ := List.append_of_mem hf
    rw [h.2.cache_eq]
    exact List.prefix_append _ _

/-- Roots that are loaded one after the other, from an empty cache, with an abort here and there or
without: at every moment the memory is in order, and if no load was aborted, no file was read
twice. -/
theorem loadRoots_orderly (engine : Engine) (w : Workspace) (searchDirs : List Path)
    (roots : List RootCall) :
    ∃ results cache events,
      Inclusion.loadRootsNoted engine w searchDirs roots [] = ((results, cache), events) ∧
      Inclusion.loadRoots engine w searchDirs roots [] = (results, cache) ∧
      Orderly w events ∧
      cache = events.flatMap (LoadEvent.kept w) ∧
      ((∀ result ∈ results, ∃ d, result = .ok d) → (events.flatMap (LoadEvent.reads w)).Nodup) := by
  obtain ⟨results, cache, events, hnoted, hplain, hjourney, hgood⟩ :=
    Inclusion.loadRootsNoted_journey engine w searchDirs roots []
  have hblank : Memory.Tidy ⟨[], []⟩ := ⟨.nil, by simp⟩
  obtain ⟨hkept, hcache⟩ := hjourney.cacheKept
  refine ⟨results, cache, events, hnoted, hplain,
    ⟨hjourney.restored, (hjourney.tidy hblank).2, hkept.pairwise, ?_⟩, by simpa using hcache,
    fun hresults => (hjourney.readOnce (hgood hresults)).distinct⟩
  rintro before e after rfl
  simpa using hkept.cache_eq

/-- A file that includes another one, which includes a third. -/
def stacked : Workspace where
  tree := .directory [
    ("a", .file (.text "include \"b\"\n")),
    ("b", .file (.text "include \"c\"\n")),
    ("c", .file (.text "1\n"))]
  workingDir := ⟨"/"⟩

/-- The files of `stacked`, all of them as roots. -/
def stackedRoots : List RootCall :=
  [⟨⟨"a"⟩, {}, ({} : Collector)⟩, ⟨⟨"./b"⟩, {}, ({} : Collector)⟩, ⟨⟨"c"⟩, {}, ({} : Collector)⟩]

/-- No load is aborted, and the first root leaves nothing to read for the others. -/
theorem loadRoots_orderly_stacked :
    ∃ results cache events,
      Inclusion.loadRoots .standard stacked [] stackedRoots [] = (results, cache) ∧
      Orderly stacked events ∧
      (∀ result ∈ results, ∃ d, result = .ok d) ∧
      (events.flatMap (LoadEvent.reads stacked)).Nodup ∧
      (events.flatMap (LoadEvent.reads stacked)).map Path.text = ["/a", "/b", "/c"] := by
  obtain ⟨results, cache, events, hnoted, hplain, horderly, -, honce⟩ :=
    loadRoots_orderly .standard stacked [] stackedRoots
  have hrun : (Inclusion.loadRootsNoted .standard stacked [] stackedRoots []).1.1.all (·.isOk) ∧
      ((Inclusion.loadRootsNoted .standard stacked [] stackedRoots []).2.flatMap
        (LoadEvent.reads stacked)).map Path.text = ["/a", "/b", "/c"] := by
    rw [← Engine.prepared_eq]
    decide +kernel
  rw [hnoted] at hrun
  have hok : ∀ result ∈ results, ∃ d, result = .ok d := by
    intro result hresult
    have hisOk := List.all_eq_true.1 hrun.1 result hresult
    rcases result with e | d
    · cases hisOk
    · exact ⟨d, rfl⟩
  exact ⟨results, cache, events, hplain, horderly, hok, honce hok, hrun.2⟩

end SourcePrep
