import SourcePrep.Proofs.Congruences
import SourcePrep.Proofs.PreparedPatterns
import SourcePrep.Proofs.TameLoading

/-!
# Loads that fail

A load asks twice whether there is anything to load: at first whether its path names something, and
later, unless the file is remembered, whether it can be read. In between the file is looked up in the
cache, by an identity that is made from the text of the path alone. The two need not agree:
`none/../a` names nothing where there is no `none`, and has the identity of `a`.

* `loadWithin_tells`: a load reports nothing but what is `Truthful`, and so does whatever is loaded on
  its way. Of these reports it is enough to know what they say of a path (`Truthful.unread`).
* `load_failed`: so a load that reports its own path missing or unreadable never reads anything. It
  leaves the memory as it is, and comes to the empty document, except where the file is remembered.
-/

set_option autoImplicit false

namespace SourcePrep

theorem Workspace.isThere_of_read {w : Workspace} {path : Path} {content : String}
    (h : w.read path = .ok content) : w.isThere path = true := by
  obtain ⟨names, hnames, hfile⟩ := read_ok h
  rw [isThere, find?, hnames]
  simp [Except.toOption, hfile]

/-! ## Truthful reports -/

namespace Truthful

variable {w : Workspace} {d : Diagnostic} {path : Path} {reason : String}

theorem gone_of_missing (h : Truthful w d) (hd : d = .missingFile path) :
    w.isThere path = false := by
  have hkind : d.kind = .missingFile := by rw [hd]; rfl
  cases h with
  | missing gone =>
    obtain rfl := congrArg (·.position.source) hd
    exact gone
  | unreadable => cases hkind
  | circular => cases hkind
  | unresolved => cases hkind
  | other _ other => rw [hkind] at other; cases other

theorem unread_of_unreadable (h : Truthful w d) (hd : d = .errorLoadingFile path reason) :
    ∃ e, w.read path = .error e := by
  have hkind : d.kind = .errorLoadingFile := by rw [hd]; rfl
  cases h with
  | missing => cases hkind
  | unreadable unread =>
    obtain rfl := congrArg (·.position.source) hd
    exact ⟨_, unread⟩
  | circular => cases hkind
  | unresolved => cases hkind
  | other _ other => rw [hkind] at other; cases other

/-- A path that is reported missing or unreadable cannot be read. -/
theorem unread {reported : List Diagnostic} (h : ∀ d ∈ reported, Truthful w d)
    (hfailed : .missingFile path ∈ reported ∨
      ∃ reason, .errorLoadingFile path reason ∈ reported) : ∃ e, w.read path = .error e := by
  rcases hfailed with hmissing | ⟨reason, hunreadable⟩
  · rcases hread : w.read path with e | content
    · exact ⟨e, rfl⟩
    · have hgone := (h _ hmissing).gone_of_missing rfl
      rw [Workspace.isThere_of_read hread] at hgone
      cases hgone
  · exact (h _ hunreadable).unread_of_unreadable rfl

end Truthful

/-! ## Truthful loads -/

/-- The computation comes to something, and reports nothing but the truth. -/
def Tells {σ α : Type} [Sink σ] (w : Workspace) (x : Reporting σ α) : Prop :=
  ∃ a, Yields (Truthful w) x a

theorem Tells.congruence {σ : Type} [Sink σ] (w : Workspace) :
    LoadingCongruence (σ := σ) (τ := σ) w fun _ x _ => Tells w x where
  pure a := ⟨a, .pure a⟩
  bind := by
    rintro _ _ _ _ _ _ ⟨a, ha⟩ hf
    obtain ⟨b, hb⟩ := hf a
    exact ⟨b, ha.bind hb⟩
  report h := ⟨(), .report h⟩
  normalize engine raw := by
    obtain ⟨file, hyields, -⟩ := normalize_yields_own (σ := σ) engine raw
    exact ⟨file, hyields.mono fun d hd => .other hd.1 hd.2⟩

theorem loadWithin_tells {σ : Type} [Sink σ] (engine : Engine) (w : Workspace)
    (searchDirs : List Path) (depth : Nat) (path : Path) (origin : Position)
    (config : Configuration) (m : Memory) :
    Tells w (Loading.startingAt (Inclusion.loadWithin engine w searchDirs depth path origin config :
      Loading σ _) m) :=
  (Tells.congruence w).loadWithin engine searchDirs depth path origin config m

/-! ## Loads of what cannot be read -/

/-- What a plain collector sees of a load, whatever it has seen before. -/
theorem Yields.run_plain {α : Type} {K : Diagnostic → Prop} {x : Loading Collector α} {m m' : Memory}
    {a : α} (h : Yields K (Loading.startingAt x m) (a, m')) (hK : ∀ d, K d → Mild d)
    (ds : List Diagnostic) :
    ∃ reported, x ⟨m.chain, m.cache, .plain ds⟩ =
        (.ok a, ⟨m'.chain, m'.cache, .plain (ds ++ reported)⟩) ∧ ∀ d ∈ reported, K d := by
  obtain ⟨reported, hplay, hreported⟩ := h
  refine ⟨reported, ?_, hreported⟩
  have hrun := Script.play_plain ⟨reported, .ok (a, m')⟩ (fun d hd => hK d (hreported d hd)) ds
  rw [← hplay] at hrun
  rcases hx : x ⟨m.chain, m.cache, .plain ds⟩ with ⟨result, t⟩
  simp only [Loading.startingAt, hx] at hrun
  obtain ⟨hresult, hsink⟩ := Prod.mk.inj hrun
  rcases result with e | b
  · cases hresult
  · obtain ⟨rfl, rfl⟩ := Prod.mk.inj (Except.ok.inj hresult)
    rw [← hsink]
    rfl

section
variable {σ : Type} [Sink σ] {engine : Engine} {w : Workspace} {searchDirs : List Path}
  {depth : Nat} {path : Path} {origin : Position} {config : Configuration} {m : Memory}

/-- A path that cannot be read comes to nothing, unless the file is remembered. -/
theorem load_unreadable {e : FileError} (hread : w.read path = .error e)
    (hlook : m.cache.lookup (w.identity path) = none) :
    Yields Mild (Loading.startingAt (Inclusion.loadWithin engine w searchDirs (depth + 1) path
      origin config : Loading σ _) m) (.empty config, m) := by
  by_cases hopen : w.identity path ∈ m.chain
  · exact load_circular hlook hopen
  · have hnothing : Yields Mild (Inclusion.readAndResolve engine w searchDirs
        (Inclusion.loadWithin engine w searchDirs depth) path config : Loading σ _) none := by
      rw [Inclusion.readAndResolve, hread]
      exact (Yields.report (Truthful.unreadable hread).mild).bind (.pure _)
    have hnew := loadNew_yields (hnothing.startingAt ⟨m.chain ++ [w.identity path], m.cache⟩) rfl
    simp only [Option.getD_none, Option.map_none, Option.toList_none, List.append_nil] at hnew
    exact load_new (fun _ => Quiet.mild) hlook hopen hnew

end

/-- A load that reports its own path missing or unreadable, of a root or of any other file, after
whatever was loaded before: it leaves the memory as it is, and comes to the empty document unless the
file is remembered. If it is, then the path is missing, the load reports nothing else, and it
comes to the document that is remembered. -/
theorem load_failed (engine : Engine) (w : Workspace) (searchDirs : List Path) (depth : Nat)
    (path : Path) (origin : Position) (config : Configuration) (m : Memory)
    (ds reported : List Diagnostic) (result : Except Halt (Document Normalized))
    (t : Loader Collector)
    (hrun : Inclusion.loadWithin engine w searchDirs depth path origin config
      ⟨m.chain, m.cache, .plain ds⟩ = (result, t))
    (hreported : t.sink.diagnostics = ds ++ reported)
    (hfailed : .missingFile path ∈ reported ∨ ∃ reason, .errorLoadingFile path reason ∈ reported) :
    t.memory = m ∧
      result = .ok ((m.cache.lookup (w.identity path)).getD (.empty config)) ∧
      ((m.cache.lookup (w.identity path)).isSome →
        w.isThere path = false ∧ ∀ d ∈ reported, d = .missingFile path) := by
  -- a computation that yields something is the run at hand, and reports what is reported
  have hyields : ∀ {K : Diagnostic → Prop} {d : Document Normalized} {m' : Memory},
      Yields K (Loading.startingAt (Inclusion.loadWithin engine w searchDirs depth path origin
        config : Loading Collector _) m) (d, m') → (∀ r, K r → Mild r) →
      result = .ok d ∧ t.memory = m' ∧ ∀ r ∈ reported, K r := by
    intro K d m' h hK
    obtain ⟨reported', hrun', hall⟩ := h.run_plain hK ds
    obtain ⟨rfl, rfl⟩ := Prod.mk.inj (hrun.symm.trans hrun')
    obtain rfl : reported' = reported := List.append_cancel_left hreported
    exact ⟨rfl, rfl, hall⟩
  obtain ⟨⟨d, m'⟩, htells⟩ := loadWithin_tells (σ := Collector) engine w searchDirs depth path
    origin config m
  obtain ⟨-, -, htruthful⟩ := hyields htells fun _ => Truthful.mild
  obtain ⟨e, hread⟩ := Truthful.unread htruthful hfailed
  rcases depth with - | depth
  · -- nothing is reported at all
    obtain ⟨-, -, hnone⟩ := hyields (K := fun _ => False)
      (Yields.startingAt (σ := Collector) (.pure (Document.empty config)) m) fun _ => False.elim
    rcases hfailed with hmissing | ⟨reason, hunreadable⟩
    · exact (hnone _ hmissing).elim
    · exact (hnone _ hunreadable).elim
  rcases hlook : m.cache.lookup (w.identity path) with - | d
  · obtain ⟨hresult, hmemory, -⟩ := hyields (load_unreadable hread hlook) fun _ => id
    exact ⟨hmemory, hresult, by simp⟩
  · obtain ⟨hresult, hmemory, hgone⟩ := hyields (load_remembered_gone hlook) fun _ h => h.quiet.mild
    refine ⟨hmemory, hresult, fun _ => ⟨?_, fun r hr => (hgone r hr).report⟩⟩
    rcases hfailed with hmissing | ⟨reason, hunreadable⟩
    · exact (hgone _ hmissing).gone
    · exact (hgone _ hunreadable).gone

/-- A file, and nothing else. -/
def lone : Workspace where
  tree := .directory [("a", .file (.text "x\n"))]
  workingDir := ⟨"/"⟩

/-- What the file of `lone` comes to. -/
def loneDocument : Document Normalized := .ofLines [⟨⟨⟨"a"⟩, 1⟩, ⟨0, "x\n"⟩⟩] {}

/-- The file of `lone` is remembered. -/
def loneLoaded : Memory := ⟨[], [(⟨"/a"⟩, loneDocument)]⟩

/-- A file that is remembered, asked for by a path through a directory that is not there. -/
theorem load_failed_throughNothing :
    ∃ t : Loader Collector,
      Inclusion.load .standard lone [] ⟨"none/../a"⟩ (.wholeFile ⟨"none/../a"⟩) {}
        ⟨loneLoaded.chain, loneLoaded.cache, .plain []⟩ = (.ok loneDocument, t) ∧
      t.memory = loneLoaded ∧
      .missingFile ⟨"none/../a"⟩ ∈ t.sink.diagnostics ∧
      ∀ d ∈ t.sink.diagnostics, d = .missingFile ⟨"none/../a"⟩ := by
  rcases hrun : Inclusion.load .standard lone [] ⟨"none/../a"⟩ (.wholeFile ⟨"none/../a"⟩) {}
    ⟨loneLoaded.chain, loneLoaded.cache, Collector.plain []⟩ with ⟨result, t⟩
  have hmissing : .missingFile ⟨"none/../a"⟩ ∈ t.sink.diagnostics := by
    rw [← congrArg (fun r => r.2.sink.diagnostics) hrun, ← Engine.prepared_eq]
    decide
  have hlook : loneLoaded.cache.lookup (lone.identity ⟨"none/../a"⟩) = some loneDocument := by
    decide
  obtain ⟨hmemory, hresult, hgone⟩ := load_failed .standard lone [] (lone.tree.fileCount + 2)
    ⟨"none/../a"⟩ (.wholeFile ⟨"none/../a"⟩) {} loneLoaded [] t.sink.diagnostics result t hrun rfl
    (.inl hmissing)
  rw [hlook] at hresult hgone
  exact ⟨t, by rw [hresult]; rfl, hmemory, hmissing, (hgone rfl).2⟩

/-- Two roots in a row: the second one is reported missing, and has the text of the first. -/
example :
    let run := Loading.start (do
      let d ← Inclusion.loadRoot .standard lone [] {} ⟨"a"⟩
      let e ← Inclusion.loadRoot .standard lone [] {} ⟨"none/../a"⟩
      return (d.text, e.text)) (Collector.plain [])
    run.1.toOption = some ("x\n", "x\n") ∧
      run.2.diagnostics = [.missingFile ⟨"none/../a"⟩] := by
  rw [← Engine.prepared_eq]
  decide

end SourcePrep
