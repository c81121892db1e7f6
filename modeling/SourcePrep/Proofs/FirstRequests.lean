import SourcePrep.Proofs.PreparedPatterns
import SourcePrep.Proofs.RootInlining

/-!
# What a file was first asked for with

A file is remembered under its identity alone. When it is asked for again, with another
configuration or under another spelling of its path, it stands for what it stood for the first time.

`reading` is what one comes across in a file when each inclusion is replaced by a request of one's
own choice: the requests that the lines make, in order, and the lines that stay. With `firstOf` this
choice is the first of some requests for the file.

* `load_follows`: from a memory that records what was asked for so far, a load comes to what the
  first request for the file comes to; the memory goes on recording.
* `loadRoot_firstRequests`: the document of a root is read off with the first requests in it, as
  long as no cycle can be reached. It is what `inline` makes of the root if each file is asked for
  with one configuration.
-/

set_option autoImplicit false

namespace SourcePrep

/-! ## Reading a file with its inclusions -/

/-- Something that one comes across in a file with its inclusions. -/
inductive Event
  | asked (r : Request)
  | line (entry : Nat × Normalized)

namespace Event

def request? : Event → Option Request
  | asked r => some r
  | line _ => none

def entry? : Event → Option (Nat × Normalized)
  | asked _ => none
  | line entry => some entry

end Event

/-- The requests that were made, in order. -/
def requestsOf (events : List Event) : List Request := events.filterMap Event.request?

/-- The lines that stay, in order. -/
def entriesOf (events : List Event) : List (Nat × Normalized) := events.filterMap Event.entry?

section
variable (entries : List (Nat × Normalized)) (events events' : List Event)

@[simp] theorem requestsOf_nil : requestsOf [] = [] := rfl

@[simp] theorem requestsOf_append :
    requestsOf (events ++ events') = requestsOf events ++ requestsOf events' :=
  List.filterMap_append

@[simp] theorem entriesOf_append :
    entriesOf (events ++ events') = entriesOf events ++ entriesOf events' :=
  List.filterMap_append

@[simp] theorem requestsOf_lines : requestsOf (entries.map .line) = [] := by
  rw [requestsOf, List.filterMap_map, List.filterMap_eq_nil_iff]
  exact fun _ _ => rfl

@[simp] theorem entriesOf_lines : entriesOf (entries.map .line) = entries := by
  rw [entriesOf, List.filterMap_map]
  exact List.filterMap_some

end

section
variable (engine : Engine) (w : Workspace) (searchDirs : List Path)

/-- What one comes across in a line, when it is known what one comes across for a request. -/
def readingOfLine (read : Request → Option (List Event)) (path : Path) (config : Configuration)
    (find : Matcher) (line : Line Normalized) : Option (List Event) :=
  match askedFor find line with
  | none => some [.line line.entry]
  | some relative =>
    match Inclusion.resolve? w searchDirs path relative with
    | none => some []
    | some target => read ⟨target, config.sessionOnly⟩

/-- What one comes across in a file when every request is replaced by another one; nothing when
inclusions nest too deep. -/
def reading (via : Request → Request) : Nat → Request → Option (List Event)
  | 0, _ => none
  | depth + 1, r =>
    match r.document? engine w with
    | none => some []
    | some d =>
      match engine.directive d.config includeDirective with
      | .error _ => some (d.entries.map .line)
      | .ok find =>
        (d.lines.mapM (readingOfLine w searchDirs
          (fun s => (reading via depth (via s)).map (.asked s :: ·)) r.path d.config find)).map
          List.flatten

/-- What one comes across where a file is asked for. -/
def readingAt (via : Request → Request) (depth : Nat) (s : Request) : Option (List Event) :=
  (reading engine w searchDirs via depth (via s)).map (.asked s :: ·)

/-- What one comes across in lines of a file. -/
def readingOfLines (path : Path) (config : Configuration) (find : Matcher)
    (via : Request → Request) (depth : Nat) (lines : List (Line Normalized)) :
    Option (List Event) :=
  (lines.mapM (readingOfLine w searchDirs (readingAt engine w searchDirs via depth) path config
    find)).map List.flatten

/-- The first of some requests for the same file. -/
def firstOf (requests : List Request) (s : Request) : Request :=
  (requests.find? fun r => w.identity r.path = w.identity s.path).getD s

variable {engine w searchDirs} {via : Request → Request}

theorem reading_unread {r : Request} (h : r.document? engine w = none) (depth : Nat) :
    reading engine w searchDirs via (depth + 1) r = some [] := by
  simp only [reading, h]

theorem reading_plain {r : Request} {d : Document Normalized} {failure : Pattern.Failure}
    (hd : r.document? engine w = some d)
    (hfind : engine.directive d.config includeDirective = .error failure) (depth : Nat) :
    reading engine w searchDirs via (depth + 1) r = some (d.entries.map .line) := by
  simp only [reading, hd, hfind]

theorem reading_lines {r : Request} {d : Document Normalized} {find : Matcher}
    (hd : r.document? engine w = some d)
    (hfind : engine.directive d.config includeDirective = .ok find) (depth : Nat) :
    reading engine w searchDirs via (depth + 1) r =
      readingOfLines engine w searchDirs r.path d.config find via depth d.lines := by
  simp only [reading, hd, hfind]
  rfl

section
variable {path : Path} {config : Configuration} {find : Matcher}

theorem readingOfLine_mono {f g : Request → Option (List Event)}
    (h : ∀ r events, f r = some events → g r = some events) {line : Line Normalized}
    {events : List Event} (hf : readingOfLine w searchDirs f path config find line = some events) :
    readingOfLine w searchDirs g path config find line = some events := by
  rw [readingOfLine] at hf ⊢
  split
  · simpa only [‹askedFor find line = _›] using hf
  · simp only [‹askedFor find line = _›] at hf
    split
    · simpa only [‹Inclusion.resolve? _ _ _ _ = _›] using hf
    · simp only [‹Inclusion.resolve? _ _ _ _ = _›] at hf
      exact h _ _ hf

theorem readingAt_mono {n m : Nat}
    (h : ∀ r events, reading engine w searchDirs via n r = some events →
      reading engine w searchDirs via m r = some events) (s : Request) (events : List Event)
    (hs : readingAt engine w searchDirs via n s = some events) :
    readingAt engine w searchDirs via m s = some events := by
  rw [readingAt, Option.map_eq_some_iff] at hs ⊢
  obtain ⟨inner, hinner, rfl⟩ := hs
  exact ⟨inner, h _ _ hinner, rfl⟩

theorem readingOfLines_mono {n m : Nat}
    (h : ∀ r events, readingAt engine w searchDirs via n r = some events →
      readingAt engine w searchDirs via m r = some events) {lines : List (Line Normalized)}
    {events : List Event}
    (hlines : readingOfLines engine w searchDirs path config find via n lines = some events) :
    readingOfLines engine w searchDirs path config find via m lines = some events := by
  rw [readingOfLines, Option.map_eq_some_iff] at hlines ⊢
  obtain ⟨parts, hparts, rfl⟩ := hlines
  exact ⟨parts, mapM_some_mono (fun line b hb => readingOfLine_mono h hb) hparts, rfl⟩

theorem readingOfLines_cons {depth : Nat} {line : Line Normalized}
    {lines : List (Line Normalized)} {events events' : List Event}
    (hline : readingOfLine w searchDirs (readingAt engine w searchDirs via depth) path config find
      line = some events)
    (hlines : readingOfLines engine w searchDirs path config find via depth lines = some events') :
    readingOfLines engine w searchDirs path config find via depth (line :: lines) =
      some (events ++ events') := by
  rw [readingOfLines, Option.map_eq_some_iff] at hlines ⊢
  obtain ⟨parts, hparts, rfl⟩ := hlines
  exact ⟨events :: parts, by simp [List.mapM_cons, hline, hparts], rfl⟩

end

/-- What one comes across within a depth one comes across at any greater depth. -/
theorem reading_mono {n m : Nat} (hnm : n ≤ m) (r : Request) (events : List Event)
    (h : reading engine w searchDirs via n r = some events) :
    reading engine w searchDirs via m r = some events := by
  induction n generalizing m r events with
  | zero => cases h
  | succ n ih =>
    obtain ⟨m, rfl⟩ : ∃ k, m = k + 1 := ⟨m - 1, by omega⟩
    rcases hd : r.document? engine w with - | d
    · rwa [reading_unread hd] at h ⊢
    rcases hfind : engine.directive d.config includeDirective with failure | find
    · rwa [reading_plain hd hfind] at h ⊢
    · rw [reading_lines hd hfind] at h ⊢
      exact readingOfLines_mono (readingAt_mono (ih (by omega))) h

/-- A file was asked for before, and will stand for what it was first asked for with, or it is
asked for the first time. -/
theorem firstOf_cases (w : Workspace) (seen : List Request) (s : Request) :
    (∃ r ∈ seen, w.identity r.path = w.identity s.path ∧
      ∀ more, firstOf w (seen ++ more) s = r) ∨
    (seen.find? (fun r => w.identity r.path = w.identity s.path) = none ∧
      ∀ more, firstOf w (seen ++ s :: more) s = s) := by
  rcases h : seen.find? (fun r => w.identity r.path = w.identity s.path) with - | r
  · exact .inr ⟨h, fun more => by simp [firstOf, List.find?_append, h]⟩
  · refine .inl ⟨r, List.mem_of_find?_eq_some h, by simpa using List.find?_some h, fun more => ?_⟩
    simp [firstOf, List.find?_append, h]

end

/-! ## What stays the same, whatever is asked for later -/

section
variable (engine : Engine) (w : Workspace) (searchDirs : List Path)

/-- At some depth, `b` is made of `a` whatever is asked for after the requests so far. -/
def Stable {α β : Type} (f : (Request → Request) → Nat → α → Option β) (seen : List Request)
    (a : α) (b : β) : Prop :=
  ∃ n, ∀ more, f (firstOf w (seen ++ more)) n a = some b

/-- The lines are those that one comes across. -/
structure Stands {α : Type} (f : (Request → Request) → Nat → α → Option (List Event))
    (a : α) (seen : List Request) (events : List Event) (lines : List (Line Normalized)) :
    Prop where
  stable : Stable w f seen a events
  entries : lines.map Line.entry = entriesOf events
  nonempty : ∀ l ∈ lines, l.size ≠ 0

/-- The memory is what the requests so far have led to. -/
structure Recorded (seen : List Request) (m : Memory) : Prop where
  /-- What is remembered of a file is what its first request comes to. -/
  cached : ∀ identity d, m.cache.lookup identity = some d → ∃ r events,
    seen.find? (fun r => w.identity r.path = identity) = some r ∧ requestsOf events ⊆ seen ∧
    Stands w (reading engine w searchDirs) r seen events d.lines
  /-- A file that was asked for is open, or remembered, or cannot be read. -/
  left : ∀ r ∈ seen, w.identity r.path ∈ m.chain ∨
    (m.cache.lookup (w.identity r.path)).isSome ∨ (w.isFile r.path ∧ r.document? engine w = none)

variable {engine w searchDirs} {seen more : List Request} {m : Memory}

theorem Stable.append {α β : Type} {f : (Request → Request) → Nat → α → Option β} {a : α} {b : β}
    (h : Stable w f seen a b) (more : List Request) : Stable w f (seen ++ more) a b := by
  obtain ⟨n, hn⟩ := h
  exact ⟨n, fun later => by rw [List.append_assoc]; exact hn _⟩

theorem Stands.append {α : Type} {f : (Request → Request) → Nat → α → Option (List Event)} {a : α}
    {events : List Event} {lines : List (Line Normalized)} (h : Stands w f a seen events lines)
    (more : List Request) : Stands w f a (seen ++ more) events lines :=
  ⟨h.stable.append more, h.entries, h.nonempty⟩

namespace Recorded

theorem cached_append (h : Recorded engine w searchDirs seen m) (more : List Request)
    {identity : Path} {d : Document Normalized} (hd : m.cache.lookup identity = some d) :
    ∃ r events, (seen ++ more).find? (fun r => w.identity r.path = identity) = some r ∧
      requestsOf events ⊆ seen ++ more ∧
      Stands w (reading engine w searchDirs) r (seen ++ more) events d.lines := by
  obtain ⟨r, events, hfirst, hmem, hstands⟩ := h.cached identity d hd
  refine ⟨r, events, ?_, fun s hs => ?_, hstands.append more⟩
  · rw [List.find?_append, hfirst, Option.some_or]
  · exact List.mem_append_left _ (hmem hs)

/-- A file is opened. -/
theorem opened (h : Recorded engine w searchDirs seen m) (s : Request) :
    Recorded engine w searchDirs (seen ++ [s]) ⟨m.chain ++ [w.identity s.path], m.cache⟩ where
  cached identity d hd := h.cached_append [s] hd
  left r hr := by
    rcases List.mem_append.1 hr with hr | hr
    · exact (h.left r hr).imp (List.mem_append_left _) id
    · obtain rfl := List.mem_singleton.1 hr
      exact .inl (by simp)

/-- A file that is remembered is asked for again. -/
theorem again (h : Recorded engine w searchDirs seen m) {s : Request} {d : Document Normalized}
    (hd : m.cache.lookup (w.identity s.path) = some d) (hmore : more ⊆ seen) :
    Recorded engine w searchDirs (seen ++ s :: more) m where
  cached identity d hd := h.cached_append _ hd
  left r hr := by
    rcases List.mem_append.1 hr with hr | hr
    · exact h.left r hr
    rcases List.mem_cons.1 hr with rfl | hr
    · exact .inr (.inl (by rw [hd]; rfl))
    · exact h.left r (hmore hr)

/-- A request for a file that was asked for before, and is neither open nor remembered, cannot be
read. -/
theorem unread (hw : w.Grounded) (h : Recorded engine w searchDirs seen m) {r s : Request}
    (hr : r ∈ seen) (hid : w.identity r.path = w.identity s.path) (hfile : w.isFile s.path)
    (hnew : w.identity s.path ∉ m.chain) (hlook : m.cache.lookup (w.identity s.path) = none) :
    (w.isFile r.path ∧ r.document? engine w = none) ∧ s.document? engine w = none := by
  rcases h.left r hr with hopen | hcached | ⟨hfile', hnone⟩
  · exact absurd (hid ▸ hopen) hnew
  · rw [hid, hlook] at hcached
    cases hcached
  · refine ⟨⟨hfile', hnone⟩, ?_⟩
    obtain ⟨ns, -, hns, -⟩ := (Workspace.isFile_iff r.path).1 hfile'
    obtain ⟨ms, -, hms, -⟩ := (Workspace.isFile_iff s.path).1 hfile
    have hpath : w.resolve r.path = w.resolve s.path := by
      rw [hns, hms, Workspace.resolve_eq_of_identity hw hns hms hid]
    rw [Request.document?, read_eq hpath] at hnone
    rw [Request.document?]
    split at hnone
    · cases hnone
    · rfl

end Recorded

variable (engine w searchDirs) in
/-- The file was read and its lines were resolved, or it could not be read. -/
structure Resolved (r : Request) (seen : List Request) (events : List Event)
    (d : Option (Document Normalized)) : Prop where
  stands : Stands w (reading engine w searchDirs) r seen events (d.getD (.empty r.config)).lines
  isSome : d.isSome = (r.document? engine w).isSome

/-- Nothing was come across in a file that could not be read. -/
theorem Resolved.eq_nil {r : Request} {events : List Event}
    (h : Resolved engine w searchDirs r seen events none) : events = [] := by
  have hnone : r.document? engine w = none := by simpa using h.isSome.symm
  obtain ⟨n, hn⟩ := h.stands.stable
  cases n with
  | zero => cases hn []
  | succ n =>
    have := hn []
    rw [reading_unread hnone] at this
    exact (Option.some.inj this).symm

/-- A new file is closed, and remembered if it could be read. -/
theorem Recorded.closed (hw : w.Grounded) (hm : Recorded engine w searchDirs seen m) {s : Request}
    (hfile : w.isFile s.path) (hnew : w.identity s.path ∉ m.chain)
    (hlook : m.cache.lookup (w.identity s.path) = none) {m' : Memory} {events : List Event}
    {d : Option (Document Normalized)} (hchain : m'.chain = m.chain ++ [w.identity s.path])
    (hm' : Recorded engine w searchDirs (seen ++ s :: requestsOf events) m')
    (hd : Resolved engine w searchDirs s (seen ++ s :: requestsOf events) events d) :
    Recorded engine w searchDirs (seen ++ s :: requestsOf events)
      ⟨m.chain, m'.cache ++ (d.map (w.identity s.path, ·)).toList⟩ where
  cached identity e he := by
    rw [List.lookup_append] at he
    rcases hold : m'.cache.lookup identity with - | old
    · rw [hold, Option.none_or] at he
      rcases d with - | d
      · cases he
      rw [Option.map_some, Option.toList_some, List.lookup_cons] at he
      split at he
      · rename_i hid
        obtain rfl : identity = w.identity s.path := by simpa using hid
        obtain rfl : d = e := by simpa using he
        refine ⟨s, events, ?_, fun r hr => by simp [hr], hd.stands⟩
        rw [List.find?_append]
        rcases hfirst : seen.find? (fun r => w.identity r.path = w.identity s.path) with - | r
        · simp [hfirst]
        · -- a request that came before would have shown that the file cannot be read
          have hnone := (hm.unread hw (List.mem_of_find?_eq_some hfirst)
            (by simpa using List.find?_some hfirst) hfile hnew hlook).2
          simpa [hnone] using hd.isSome
      · cases he
    · rw [hold, Option.some_or] at he
      obtain rfl : old = e := by simpa using he
      exact hm'.cached identity old hold
  left r hr := by
    rw [List.lookup_append, Option.isSome_or, Bool.or_eq_true]
    rcases hm'.left r hr with hopen | hcached | hunread
    · rw [hchain, List.mem_append, List.mem_singleton] at hopen
      rcases hopen with hopen | hid
      · exact .inl hopen
      rcases d with - | d
      · refine .inr (.inr ?_)
        rw [hd.eq_nil, requestsOf_nil, List.mem_append, List.mem_singleton] at hr
        rcases hr with hr | rfl
        · exact (hm.unread hw hr hid hfile hnew hlook).1
        · exact ⟨hfile, by simpa using hd.isSome.symm⟩
      · exact .inr (.inl (.inr (by simp [hid])))
    · exact .inr (.inl (.inl hcached))
    · exact .inr (.inr hunread)

/-! ## Loading what was asked for before -/

variable {σ : Type} [Sink σ]

variable (engine w searchDirs) in
/-- The computation goes on recording what it asks for, and gives something with the property `Q`,
which may depend on all requests so far and on what was come across. -/
def Follows {α : Type} (x : Loading σ α) (m : Memory) (seen : List Request)
    (Q : List Request → List Event → α → Prop) : Prop :=
  ∃ a m' events, Yields Quiet (Loading.startingAt x m) (a, m') ∧ m'.chain = m.chain ∧
    Recorded engine w searchDirs (seen ++ requestsOf events) m' ∧
    Q (seen ++ requestsOf events) events a

namespace Follows

variable {α β : Type} {Q : List Request → List Event → α → Prop}
  {Q' : List Request → List Event → β → Prop}

theorem of_yields {x : Loading σ α} {a : α} (h : Yields Quiet x a)
    (hm : Recorded engine w searchDirs seen m) (events : List Event)
    (hevents : requestsOf events = []) (ha : Q seen events a) :
    Follows engine w searchDirs x m seen Q := by
  refine ⟨a, m, events, h.startingAt m, rfl, ?_⟩
  rw [hevents, List.append_nil]
  exact ⟨hm, ha⟩

theorem bind {x : Loading σ α} {f : α → Loading σ β} (hx : Follows engine w searchDirs x m seen Q)
    (hf : ∀ a m' events, Q (seen ++ requestsOf events) events a →
      Recorded engine w searchDirs (seen ++ requestsOf events) m' → m'.chain = m.chain →
      Follows engine w searchDirs (f a) m' (seen ++ requestsOf events)
        (fun last more => Q' last (events ++ more))) :
    Follows engine w searchDirs (x >>= f) m seen Q' := by
  obtain ⟨a, m', events, hx, hchain, hm', ha⟩ := hx
  obtain ⟨b, m'', more, hf, hchain', hm'', hb⟩ := hf a m' events ha hm' hchain
  refine ⟨b, m'', events ++ more, ?_, hchain'.trans hchain, ?_⟩
  · rw [startingAt_bind]
    exact hx.bind hf
  · rw [requestsOf_append, ← List.append_assoc]
    exact ⟨hm'', hb⟩

end Follows

section
variable {r : Request} {d : Document Normalized} {find : Matcher} {load : Inclusion.Load σ}
  {chain : List Path} (hd : r.document? engine w = some d)
  (hfind : engine.directive d.config includeDirective = .ok find)
  (hnonempty : ∀ l ∈ d.lines, l.size ≠ 0)
  (hload : ∀ s, r.Includes engine w searchDirs s → ∀ origin m seen,
    Recorded engine w searchDirs seen m → m.chain = chain →
    Follows engine w searchDirs (load s.path origin s.config) m seen fun last events d =>
      Stands w (readingAt engine w searchDirs) s last events d.lines)
include hd hfind hnonempty hload

theorem resolveLine_follows {line : Line Normalized} (hline : line ∈ d.lines)
    (hm : Recorded engine w searchDirs seen m) (hchain : m.chain = chain) :
    Follows engine w searchDirs
      (Inclusion.resolveLine w searchDirs load r.path d.config find line) m seen
      (Stands w (fun via n => readingOfLine w searchDirs (readingAt engine w searchDirs via n)
        r.path d.config find) line) := by
  rcases resolveLine_cases w searchDirs load r.path d.config find line with
    ⟨hasked, hyields⟩ | ⟨relative, hasked, ht, hyields⟩ | ⟨relative, target, hasked, ht, heq⟩
  · refine .of_yields hyields hm [.line line.entry] rfl ⟨⟨0, fun more => ?_⟩, rfl, ?_⟩
    · simp only [readingOfLine, hasked]
    · simpa using hnonempty line hline
  · refine .of_yields hyields hm [] rfl ⟨⟨0, fun more => ?_⟩, rfl, by simp⟩
    simp only [readingOfLine, hasked, ht]
  · have hincludes : r.Includes engine w searchDirs ⟨target, d.config.sessionOnly⟩ :=
      ⟨_, ⟨d, find, hd, hfind, rfl, line, hline, hasked⟩, ht⟩
    rw [heq]
    refine (hload _ hincludes line.position m seen hm hchain).bind fun e m' events he hm' _ => ?_
    refine .of_yields (.pure _) hm' [] rfl ?_
    rw [List.append_nil]
    refine ⟨?_, he.entries, he.nonempty⟩
    obtain ⟨n, hn⟩ := he.stable
    refine ⟨n, fun more => ?_⟩
    simp only [readingOfLine, hasked, ht]
    exact hn more

/-- The lines of a file are resolved one after the other. -/
theorem resolveLines_follows {lines : List (Line Normalized)} (hlines : lines ⊆ d.lines)
    (hm : Recorded engine w searchDirs seen m) (hchain : m.chain = chain) :
    Follows engine w searchDirs
      (lines.mapM (Inclusion.resolveLine w searchDirs load r.path d.config find)) m seen
      (fun last events outs =>
        Stands w (readingOfLines engine w searchDirs r.path d.config find) lines last events
          outs.flatten) := by
  induction lines generalizing m seen with
  | nil =>
    exact .of_yields (.pure []) hm [] rfl ⟨⟨0, fun more => rfl⟩, rfl, by simp⟩
  | cons line lines ih =>
    rw [List.mapM_cons]
    refine (resolveLine_follows hd hfind hnonempty hload (hlines List.mem_cons_self) hm hchain).bind
      fun out m' events hout hm' hchain' => ?_
    refine (ih (fun l hl => hlines (List.mem_cons_of_mem _ hl)) hm' (hchain'.trans hchain)).bind
      fun outs m'' events' houts hm'' _ => ?_
    refine .of_yields (.pure _) hm'' [] rfl ?_
    rw [List.append_nil]
    refine ⟨?_, by simp [hout.entries, ← houts.entries], fun l hl => ?_⟩
    · -- each line has its depth, and the greatest of them will do for all
      obtain ⟨n, hn⟩ := hout.stable.append (requestsOf events')
      obtain ⟨k, hk⟩ := houts.stable
      refine ⟨max n k, fun more => readingOfLines_cons ?_ ?_⟩
      · exact readingOfLine_mono (readingAt_mono (reading_mono (Nat.le_max_left n k))) (hn more)
      · exact readingOfLines_mono (readingAt_mono (reading_mono (Nat.le_max_right n k))) (hk more)
    · rw [List.flatten_cons, List.mem_append] at hl
      exact hl.elim (hout.nonempty l) (houts.nonempty l)

end

/-- Reading a file and resolving its lines. -/
theorem readAndResolve_follows {r : Request} {load : Inclusion.Load σ}
    (hload : ∀ s, r.Includes engine w searchDirs s → ∀ origin m' seen,
      Recorded engine w searchDirs seen m' → m'.chain = m.chain →
      Follows engine w searchDirs (load s.path origin s.config) m' seen fun last events d =>
        Stands w (readingAt engine w searchDirs) s last events d.lines)
    (hm : Recorded engine w searchDirs seen m) :
    Follows engine w searchDirs
      (Inclusion.readAndResolve engine w searchDirs load r.path r.config) m seen
      (Resolved engine w searchDirs r) := by
  have hnonempty : ∀ {d}, r.document? engine w = some d → ∀ l ∈ d.lines, l.size ≠ 0 := by
    intro d hd
    obtain ⟨content, -, rfl⟩ := Request.document?_some hd
    exact normalizedDocument_nonempty engine _
  rcases readAndResolve_cases engine w searchDirs load r with
    ⟨hd, hyields⟩ | ⟨d, failure, hd, hfind, hyields⟩ | ⟨d, find, pre, hd, hfind, hpre, heq⟩
  · refine .of_yields hyields hm [] rfl ⟨⟨⟨1, fun more => ?_⟩, rfl, ?_⟩, by simp [hd]⟩
    · exact reading_unread hd 0
    · simp [Document.empty, Document.ofLines]
  · refine .of_yields hyields hm (d.entries.map .line) (requestsOf_lines _)
      ⟨⟨⟨1, fun more => reading_plain hd hfind 0⟩, ?_, hnonempty hd⟩, by simp [hd]⟩
    rw [entriesOf_lines]
    rfl
  · rw [heq]
    refine (Follows.of_yields (Q := fun _ events _ => events = []) hpre hm [] rfl rfl).bind
      fun _ m' events hevents hm' hchain' => ?_
    subst hevents
    refine (resolveLines_follows hd hfind (hnonempty hd) hload (fun _ h => h) hm' hchain').bind
      fun outs m'' events houts hm'' _ => .of_yields (.pure _) hm'' [] rfl ?_
    rw [List.append_nil, List.nil_append]
    have hlines := Document.ofLines_nonempty houts.nonempty d.config
    refine ⟨?_, by simp [hd]⟩
    rw [Option.getD_some, hlines]
    refine ⟨?_, houts.entries, houts.nonempty⟩
    obtain ⟨n, hn⟩ := houts.stable
    exact ⟨n + 1, fun more => (reading_lines hd hfind n).trans (hn more)⟩

/-- Where a file is asked for, its first request counts. A new file is its own first request, unless
it was asked for before and cannot be read. -/
theorem Resolved.stands_at (hw : w.Grounded) (hm : Recorded engine w searchDirs seen m)
    {s : Request} (hfile : w.isFile s.path) (hnew : w.identity s.path ∉ m.chain)
    (hlook : m.cache.lookup (w.identity s.path) = none) {events : List Event}
    {d : Option (Document Normalized)}
    (hd : Resolved engine w searchDirs s (seen ++ s :: requestsOf events) events d) :
    Stands w (readingAt engine w searchDirs) s (seen ++ s :: requestsOf events) (.asked s :: events)
      (d.getD (.empty s.config)).lines := by
  refine ⟨?_, hd.stands.entries, hd.stands.nonempty⟩
  rcases firstOf_cases w seen s with ⟨r, hr, hid, hfirst⟩ | ⟨-, hfirst⟩
  · obtain ⟨⟨-, hr⟩, hs⟩ := hm.unread hw hr hid hfile hnew hlook
    obtain rfl : d = none := by simpa [hs] using hd.isSome
    refine ⟨1, fun more => ?_⟩
    rw [readingAt, List.append_assoc, hfirst, reading_unread hr, hd.eq_nil]
    rfl
  · obtain ⟨n, hn⟩ := hd.stands.stable
    refine ⟨n, fun more => ?_⟩
    have := hn more
    rw [List.append_assoc, List.cons_append] at this ⊢
    rw [readingAt, hfirst, this]
    rfl

/-- A file that is included comes to what it comes to for its first request. -/
theorem load_follows (hw : w.Grounded) {depth : Nat} {s : Request} (hfile : w.isFile s.path)
    (origin : Position) (hm : Recorded engine w searchDirs seen m)
    (hnew : w.identity s.path ∉ m.chain)
    (hread : Follows engine w searchDirs (Inclusion.readAndResolve engine w searchDirs
      (Inclusion.loadWithin engine w searchDirs depth) s.path s.config : Loading σ _)
      ⟨m.chain ++ [w.identity s.path], m.cache⟩ (seen ++ [s]) (Resolved engine w searchDirs s)) :
    Follows engine w searchDirs
      (Inclusion.loadWithin engine w searchDirs (depth + 1) s.path origin s.config : Loading σ _) m
      seen fun last events d =>
        Stands w (readingAt engine w searchDirs) s last events d.lines := by
  rcases hlook : m.cache.lookup (w.identity s.path) with - | d
  · obtain ⟨d, m', events, hyields, hchain, hm', hd⟩ := hread
    rw [List.append_assoc, List.singleton_append] at hm' hd
    have hloaded := loadNew_yields hyields hchain
    exact ⟨_, _, .asked s :: events, load_new (fun _ h => h) hlook hnew hloaded, rfl,
      hm.closed hw hfile hnew hlook hchain hm' hd, hd.stands_at hw hm hfile hnew hlook⟩
  · obtain ⟨r, events, hfirst, hmem, hstands⟩ := hm.cached _ d hlook
    refine ⟨d, m, .asked s :: events, load_remembered hlook, rfl, hm.again hlook hmem, ?_⟩
    refine ⟨?_, hstands.entries, hstands.nonempty⟩
    obtain ⟨n, hn⟩ := hstands.stable.append (requestsOf (.asked s :: events))
    refine ⟨n, fun more => ?_⟩
    have hvia : firstOf w (seen ++ requestsOf (.asked s :: events) ++ more) s = r := by
      simp [firstOf, List.find?_append, hfirst]
    rw [readingAt, hvia, hn more]
    rfl

/-- No file that a file leads to is the file itself. -/
theorem identity_ne_of_includes (hw : w.Grounded) {r s t : Request}
    (hacyclic : ∀ s, Relation.TransGen (Request.Includes engine w searchDirs) r s →
      w.resolve r.path ≠ w.resolve s.path)
    (hs : r.Includes engine w searchDirs s) (ht : s.Reaches engine w searchDirs t) :
    w.identity t.path ≠ w.identity r.path := by
  intro hid
  have htrans : Relation.TransGen (Request.Includes engine w searchDirs) r t := .head' hs ht
  obtain ⟨⟨ns, hns⟩, ms, hms⟩ := Request.resolve_of_transGen htrans
  refine hacyclic t htrans ?_
  rw [hns, hms, Workspace.resolve_eq_of_identity hw hns hms hid.symm]

/-- An open file is read with first requests. By induction on the depth that is left, which is never
used up: every file on the chain is another file of the workspace. -/
theorem open_follows (hw : w.Grounded) (depth : Nat) {r : Request}
    (hacyclic : ∀ s t, r.Reaches engine w searchDirs s →
      Relation.TransGen (Request.Includes engine w searchDirs) s t →
      w.resolve s.path ≠ w.resolve t.path)
    (hm : Recorded engine w searchDirs seen ⟨m.chain ++ [w.identity r.path], m.cache⟩)
    (hfree : ∀ s, r.Reaches engine w searchDirs s → w.identity s.path ∉ m.chain)
    (hchain : FileChain w m.chain) (hdepth : depth + m.chain.length = w.tree.fileCount + 1) :
    Follows engine w searchDirs (Inclusion.readAndResolve engine w searchDirs
      (Inclusion.loadWithin engine w searchDirs depth) r.path r.config : Loading σ _)
      ⟨m.chain ++ [w.identity r.path], m.cache⟩ seen (Resolved engine w searchDirs r) := by
  induction depth generalizing r m seen with
  | zero =>
    have := hchain.length_le
    omega
  | succ depth ih =>
    refine readAndResolve_follows (fun s hs origin m' seen hm' hchain' => ?_) hm
    obtain ⟨content, hread⟩ := hs.readable
    have hopen : FileChain w m'.chain := hchain' ▸ hchain.push hw hread (hfree r .refl)
    have hfree' : ∀ t, s.Reaches engine w searchDirs t → w.identity t.path ∉ m'.chain := by
      intro t ht
      rw [hchain', List.mem_append, not_or]
      refine ⟨hfree t (.head hs ht), fun hmem => ?_⟩
      exact identity_ne_of_includes hw (hacyclic r · .refl) hs ht (List.mem_singleton.1 hmem)
    refine load_follows hw hs.isFile origin hm' (hfree' s .refl)
      (ih ?_ (hm'.opened s) hfree' hopen ?_)
    · exact fun t u ht hu => hacyclic t u (.head hs ht) hu
    · rw [hchain', List.length_append, List.length_singleton]
      omega

end

/-! ## Loading a root -/

section
variable {engine : Engine} {w : Workspace} {searchDirs : List Path} {config : Configuration}
  {root : Path}

/-- What a plain collector sees of a root that was loaded without a cycle. -/
theorem loadRoot_plain {d : Document Normalized} {m : Memory}
    (h : Yields Quiet (Loading.startingAt
      (Inclusion.loadRoot engine w searchDirs config root : Loading Collector _) .blank) (d, m)) :
    ∃ ds, Loading.start (Inclusion.loadRoot engine w searchDirs config root) (Collector.plain []) =
        (.ok d, .plain ds) ∧ ∀ e ∈ ds, e.kind ≠ .circularInclusion := by
  have hstart : Yields Quiet (Loading.start
      (Inclusion.loadRoot engine w searchDirs config root : Loading Collector _)) d := by
    rw [start_eq]
    exact h.bind (.pure d)
  obtain ⟨ds, hds, hquiet⟩ := hstart.plain fun d h => h.1
  exact ⟨ds, hds, fun e he => (hquiet e he).2⟩

end

/-- Loading a root gives what one comes across in it when each file stands, wherever it is asked
for, for what it stands for the first time. If each file is asked for with one configuration, this
is the recursive inlining of files. -/
theorem loadRoot_firstRequests (engine : Engine) (w : Workspace) (hw : w.Grounded)
    (searchDirs : List Path) (config : Configuration) (root : Path)
    (hacyclic : ∀ r s, Request.Reaches engine w searchDirs ⟨root, config⟩ r →
      Relation.TransGen (Request.Includes engine w searchDirs) r s →
      w.resolve r.path ≠ w.resolve s.path) :
    ∃ d ds events,
      Loading.start (Inclusion.loadRoot engine w searchDirs config root) (Collector.plain []) =
        (.ok d, .plain ds) ∧
      (∀ e ∈ ds, e.kind ≠ .circularInclusion) ∧
      d.entries = entriesOf events ∧
      (∃ depth, reading engine w searchDirs (firstOf w (⟨root, config⟩ :: requestsOf events)) depth
        ⟨root, config⟩ = some events) ∧
      ((∀ r s, Request.Reaches engine w searchDirs ⟨root, config⟩ r →
          Request.Reaches engine w searchDirs ⟨root, config⟩ s →
          w.identity r.path = w.identity s.path → r.config = s.config) →
        (∀ r, Request.Reaches engine w searchDirs ⟨root, config⟩ r → r.Fits engine w) →
        ∃ depth, inline engine w searchDirs depth ⟨root, config⟩ = some d.entries) := by
  have hempty : FileChain w Memory.blank.chain := ⟨.nil, by simp [Memory.blank]⟩
  have hblank : Recorded engine w searchDirs [] .blank := by
    constructor
    · intro identity d hd
      cases hd
    · simp
  have hnew : ∀ r : Request, w.identity r.path ∉ Memory.blank.chain := by simp [Memory.blank]
  obtain ⟨d, m, events, hyields, hchain, -, hd⟩ := open_follows (σ := Collector) hw
    (w.tree.fileCount + 1) hacyclic (hblank.opened ⟨root, config⟩) (fun r _ => hnew r) hempty rfl
  obtain ⟨ds, hds, hquiet⟩ : ∃ ds, Loading.start _ _ = (.ok (d.getD (.empty config)), _) ∧ _ :=
    loadRoot_plain (load_new (fun _ h => h) rfl (hnew ⟨root, config⟩)
      (loadNew_yields hyields hchain))
  refine ⟨_, ds, events, hds, hquiet, hd.stands.entries, ?_, fun hconfigs hfits => ?_⟩
  · obtain ⟨n, hn⟩ := hd.stands.stable
    refine ⟨n, ?_⟩
    simpa using hn []
  · have hT := Tame.of_configs hw hacyclic hconfigs hfits
    obtain ⟨e, m', hyields', ⟨he, -⟩, -⟩ := load_tame (σ := Collector) hw hT .refl
      (.wholeFile root) (m := .blank) (fun r _ d hd => by cases hd) (fun r _ => hnew r) hempty rfl
    obtain ⟨es, hes, -⟩ := loadRoot_plain hyields'
    obtain rfl : _ = e := Except.ok.inj (congrArg Prod.fst (hds.symm.trans hes))
    exact he

/-- Every file inherits the marker that the root sets. -/
def oneMarker : Workspace where
  tree := .directory [
    ("m", .file (.text "config: prefix = %\n%include \"a\"\n%include \"c\"\n")),
    ("a", .file (.text "%include \"c\"\na\n")),
    ("c", .file (.text "%include \"d\"\n")),
    ("d", .file (.text "d\n"))]
  workingDir := ⟨"/"⟩

theorem loadRoot_firstRequests_oneMarker :
    ∃ d ds events,
      Loading.start (Inclusion.loadRoot .standard oneMarker [] {} ⟨"m"⟩) (Collector.plain []) =
        (.ok d, .plain ds) ∧
      d.entries = entriesOf events ∧
      (∃ depth, reading .standard oneMarker []
        (firstOf oneMarker (⟨⟨"m"⟩, {}⟩ :: requestsOf events)) depth ⟨⟨"m"⟩, {}⟩ = some events) ∧
      ∃ depth, inline .standard oneMarker [] depth ⟨⟨"m"⟩, {}⟩ = some d.entries := by
  let inherited : Configuration := ⟨some "%", none⟩
  let requests : List Request :=
    [⟨⟨"m"⟩, {}⟩, ⟨⟨"a"⟩, inherited⟩, ⟨⟨"c"⟩, inherited⟩, ⟨⟨"d"⟩, inherited⟩]
  let rank (place : Except FileError (List String)) : Nat :=
    [["d"], ["c"], ["a"], ["m"]].findIdx (place = .ok ·)
  obtain ⟨hdown, hconfigs, hfits⟩ : Descending .standard oneMarker [] rank requests ∧
      (∀ r ∈ requests, ∀ s ∈ requests,
        oneMarker.identity r.path = oneMarker.identity s.path → r.config = s.config) ∧
      ∀ r ∈ requests, r.Fits .standard oneMarker := by
    rw [← Engine.prepared_eq]
    decide +kernel
  have hmem : ∀ r, Request.Reaches .standard oneMarker [] ⟨⟨"m"⟩, {}⟩ r → r ∈ requests :=
    fun r hr => hdown.enclosed.mem_of_reaches (by decide) hr
  obtain ⟨d, ds, events, hrun, -, hentries, hreading, hinline⟩ := loadRoot_firstRequests .standard
    oneMarker ⟨[], by decide⟩ [] {} ⟨"m"⟩ (fun r s hr hs => hdown.acyclic (hmem r hr) hs)
  refine ⟨d, ds, events, hrun, hentries, hreading, hinline (fun r s hr hs => ?_) fun r hr => ?_⟩
  · exact hconfigs r (hmem r hr) s (hmem s hs)
  · exact hfits r (hmem r hr)

/-- A file that is included under two markers. -/
def twoMarkers : Workspace where
  tree := .directory [
    ("m", .file (.text "%include \"a\"\n%include \"c\"\n")),
    ("a", .file (.text "%config: prefix = @\n@include \"c\"\n")),
    ("c", .file (.text "%include \"d\"\n")),
    ("d", .file (.text "d\n"))]
  workingDir := ⟨"/"⟩

-- Where the root asks for it, its line is a directive, and yet stands as it did the first time.
example :
    (Loading.start (Inclusion.loadRoot .standard twoMarkers [] ⟨some "%", none⟩ ⟨"m"⟩)
        (Collector.plain [])).1.toOption.map Document.entries =
      some [(1, ⟨0, "%include \"d\"\n"⟩), (1, ⟨0, "%include \"d\"\n"⟩)] := by
  rw [← Engine.prepared_eq]
  decide +kernel

end SourcePrep
