import SourcePrep.Proofs.DocumentText
import SourcePrep.Proofs.Inlining
import SourcePrep.Proofs.Memory
import Mathlib.Data.List.Perm.Subperm

/-!
# Loading tame requests

A load is followed step by step: `resolveLine_cases`, `readAndResolve_cases` and `loadNew_yields` say
what one line, one file and one entry of the cache come to, whatever is remembered. Two things have to
hold of the memory for the result to be what `inline` makes of a request. The chain holds different
files of the workspace, so that it cannot grow longer than there are files (`FileChain`), and what is
remembered of a tame file is what `inline` makes of it (`Memory.Sound`).

* `load_tame`: loading a tame request gives what `inline` makes of it and reports no cycle, from
  every such memory; the memory stays sound, and what is remembered of other files stays as it is.
-/

set_option autoImplicit false

namespace SourcePrep

/-! ## Chains of files -/

theorem FileTree.mem_filesIn {entries : List (String × FileTree)} {name : String} {t : FileTree}
    (h : entries.lookup name = some t) {names : List String} {content : Content}
    (hmem : (names, content) ∈ t.files) : (name :: names, content) ∈ filesIn entries := by
  induction entries with
  | nil => cases h
  | cons entry entries ih =>
    obtain ⟨other, u⟩ := entry
    rw [filesIn, List.mem_append]
    by_cases hname : name = other
    · subst hname
      obtain rfl : u = t := by simpa [List.lookup_cons] using h
      exact .inl (List.mem_map.2 ⟨_, hmem, rfl⟩)
    · have hrest : entries.lookup name = some t := by
        rwa [List.lookup_cons, show (name == other) = false by simpa using hname] at h
      exact .inr (ih hrest)

theorem FileTree.mem_files {t : FileTree} {names : List String} {content : Content}
    (h : t.find names = some (.file content)) : (names, content) ∈ t.files := by
  induction names generalizing t with
  | nil =>
    obtain rfl : t = .file content := by simpa [find] using h
    simp [files]
  | cons name names ih =>
    rw [find, Option.bind_eq_some_iff] at h
    obtain ⟨entry, hentry, hfind⟩ := h
    rcases t with held | entries
    · cases hentry
    · rw [files]
      exact mem_filesIn hentry (ih hfind)

/-- The chain holds different files of the workspace. -/
structure FileChain (w : Workspace) (chain : List Path) : Prop where
  nodup : chain.Nodup
  files : ∀ identity ∈ chain, ∃ names content,
    w.tree.find names = some (.file content) ∧ identity = .ofNames names

namespace FileChain

variable {w : Workspace} {chain : List Path}

theorem length_le (h : FileChain w chain) : chain.length ≤ w.tree.fileCount := by
  have hsub : chain ⊆ w.tree.files.map fun f => Path.ofNames f.1 := by
    intro identity hid
    obtain ⟨names, content, hfind, rfl⟩ := h.files identity hid
    exact List.mem_map.2 ⟨_, FileTree.mem_files hfind, rfl⟩
  have := (List.subperm_of_subset h.nodup hsub).length_le
  rwa [List.length_map] at this

theorem push (hw : w.Grounded) (h : FileChain w chain) {p : Path} {content : String}
    (hread : w.read p = .ok content) (hnew : w.identity p ∉ chain) :
    FileChain w (chain ++ [w.identity p]) := by
  obtain ⟨names, hnames, hfile⟩ := read_ok hread
  refine ⟨List.nodup_append.2 ⟨h.nodup, by simp, ?_⟩, fun identity hid => ?_⟩
  · rintro a ha b hb rfl
    exact hnew (List.mem_singleton.1 hb ▸ ha)
  · rcases List.mem_append.1 hid with hid | hid
    · exact h.files identity hid
    · exact ⟨names, _, hfile,
        (List.mem_singleton.1 hid).trans (Workspace.identity_of_resolve hw hnames).1⟩

end FileChain

/-! ## What the steps of a load come to -/

section
variable {σ : Type} [Sink σ]

theorem Yields.startingAt {α : Type} {K : Diagnostic → Prop} {x : Loading σ α} {a : α}
    (h : Yields K x a) (m : Memory) : Yields K (Loading.startingAt x m) (a, m) := by
  obtain ⟨ds, rfl, hds⟩ := h
  rw [startingAt_play]
  exact Yields.bind ⟨ds, rfl, hds⟩ (.pure _)

variable (engine : Engine) (w : Workspace) (searchDirs : List Path)

/-- A line stays, goes, or is replaced by the lines of the file that it leads to. -/
theorem resolveLine_cases (load : Inclusion.Load σ) (path : Path) (config : Configuration)
    (find : Matcher) (line : Line Normalized) :
    (askedFor find line = none ∧
      Yields Quiet (Inclusion.resolveLine w searchDirs load path config find line) [line]) ∨
    (∃ relative, askedFor find line = some relative ∧
      Inclusion.resolve? w searchDirs path relative = none ∧
      Yields Quiet (Inclusion.resolveLine w searchDirs load path config find line) []) ∨
    ∃ relative target, askedFor find line = some relative ∧
      Inclusion.resolve? w searchDirs path relative = some target ∧
      Inclusion.resolveLine w searchDirs load path config find line =
        load target line.position config.sessionOnly >>= fun d => pure d.lines := by
  rw [Inclusion.resolveLine]
  rcases hm : find line.kind.renderTabs with failure | - | found
  · refine .inl ⟨by simp [askedFor, hm], (Yields.report ?_).bind (.pure _)⟩
    exact ⟨(by decide : DiagnosticKind.severity .patternExecutionError < .fatal),
      (by decide : DiagnosticKind.patternExecutionError ≠ .circularInclusion)⟩
  · exact .inl ⟨by simp [askedFor, hm], .pure _⟩
  · have hasked : askedFor find line = some ((found.named? "path").getD "") := by
      simp [askedFor, hm]
    simp only
    rcases ht : Inclusion.resolve? w searchDirs path ((found.named? "path").getD "") with - | target
    · refine .inr (.inl ⟨_, hasked, ht, (Yields.report ?_).bind (.pure _)⟩)
      exact ⟨(by decide : DiagnosticKind.severity .unresolvedInclusionPath < .fatal),
        (by decide : DiagnosticKind.unresolvedInclusionPath ≠ .circularInclusion)⟩
    · exact .inr (.inr ⟨_, target, hasked, ht, rfl⟩)

/-- A file cannot be read, or has no line that could be an include directive, or its lines are
resolved one after the other. -/
theorem readAndResolve_cases (load : Inclusion.Load σ) (r : Request) :
    (r.document? engine w = none ∧
      Yields Quiet (Inclusion.readAndResolve engine w searchDirs load r.path r.config) none) ∨
    (∃ d failure, r.document? engine w = some d ∧
      engine.directive d.config includeDirective = .error failure ∧
      Yields Quiet (Inclusion.readAndResolve engine w searchDirs load r.path r.config) (some d)) ∨
    ∃ d find, ∃ pre : Loading σ Unit, r.document? engine w = some d ∧
      engine.directive d.config includeDirective = .ok find ∧ Yields Quiet pre () ∧
      Inclusion.readAndResolve engine w searchDirs load r.path r.config = do
        pre
        let lines ← d.lines.mapM (Inclusion.resolveLine w searchDirs load r.path d.config find)
        return some (.ofLines lines.flatten d.config) := by
  rw [Inclusion.readAndResolve, Request.document?]
  rcases hread : w.read r.path with failure | content
  · refine .inl ⟨rfl, (Yields.report ?_).bind (.pure _)⟩
    exact ⟨(by decide : DiagnosticKind.severity .errorLoadingFile < .fatal),
      (by decide : DiagnosticKind.errorLoadingFile ≠ .circularInclusion)⟩
  obtain ⟨file, hyields, hdoc⟩ := normalize_yields (σ := Loader σ) engine
    (.read r.path content r.config)
  simp only [← hdoc]
  refine .inr ?_
  rcases hfind : engine.directive file.document.config includeDirective with failure | find
  · refine .inl ⟨_, failure, rfl, hfind, hyields.bind ?_⟩
    rw [hfind]
    exact .pure _
  · obtain ⟨ds, hplay, hquiet⟩ := hyields
    refine .inr ⟨_, find, (⟨ds, .ok ()⟩ : Script Unit).play, rfl, hfind, ⟨ds, rfl, hquiet⟩, ?_⟩
    simp only [hplay, Script.play_ok_bind, hfind]

variable {engine w searchDirs}

theorem resolveLine_asked (load : Inclusion.Load σ) {path : Path} {config : Configuration}
    {find : Matcher} {line : Line Normalized} {relative : String} {target : Path}
    (hasked : askedFor find line = some relative)
    (htarget : Inclusion.resolve? w searchDirs path relative = some target) :
    Inclusion.resolveLine w searchDirs load path config find line =
      load target line.position config.sessionOnly >>= fun d => pure d.lines := by
  rcases resolveLine_cases w searchDirs load path config find line with
    ⟨h, -⟩ | ⟨_, h, h', -⟩ | ⟨_, _, h, h', heq⟩ <;> rw [hasked] at h <;> cases h <;>
    rw [htarget] at h' <;> cases h'
  exact heq

theorem readAndResolve_ok (load : Inclusion.Load σ) {r : Request} {d : Document Normalized}
    {find : Matcher} (hd : r.document? engine w = some d)
    (hfind : engine.directive d.config includeDirective = .ok find) :
    ∃ pre : Loading σ Unit, Yields Quiet pre () ∧
      Inclusion.readAndResolve engine w searchDirs load r.path r.config = do
        pre
        let lines ← d.lines.mapM (Inclusion.resolveLine w searchDirs load r.path d.config find)
        return some (.ofLines lines.flatten d.config) := by
  rcases readAndResolve_cases engine w searchDirs load r with
    ⟨h, -⟩ | ⟨_, _, h, h', -⟩ | ⟨_, _, pre, h, h', hpre, heq⟩ <;> rw [hd] at h <;> cases h <;>
    rw [hfind] at h' <;> cases h'
  exact ⟨pre, hpre, heq⟩

/-- A file that is opened, resolved and closed again is remembered, if it could be read. -/
theorem loadNew_yields {K : Diagnostic → Prop} {load : Inclusion.Load σ} {identity path : Path}
    {config : Configuration} {m n : Memory} {d : Option (Document Normalized)}
    (h : Yields K (Loading.startingAt
      (Inclusion.readAndResolve engine w searchDirs load path config)
      ⟨m.chain ++ [identity], m.cache⟩) (d, n)) (hchain : n.chain = m.chain ++ [identity]) :
    Yields K (Loading.startingAt
      (Inclusion.loadNew engine w searchDirs load identity path config) m)
      (d.getD (.empty config), ⟨m.chain, n.cache ++ (d.map (identity, ·)).toList⟩) := by
  have hwhile : Yields K (Loading.startingAt (Inclusion.whileOpen identity
      (Inclusion.readAndResolve engine w searchDirs load path config)) m)
      (d, ⟨m.chain, n.cache⟩) := by
    rw [startingAt_whileOpen]
    refine h.bind ?_
    rw [hchain, List.dropLast_concat]
    exact .pure _
  rw [Inclusion.loadNew, startingAt_bind]
  refine hwhile.bind ?_
  rcases d with - | d
  · simpa using Yields.startingAt (σ := σ) (.pure _) ⟨m.chain, n.cache⟩
  · simp only
    rw [startingAt_bind, startingAt_remember]
    exact (Yields.pure _).bind (Yields.startingAt (.pure _) _)

/-- The report that the path names nothing, where that is so. -/
structure Gone (w : Workspace) (path : Path) (d : Diagnostic) : Prop where
  gone : w.isThere path = false
  report : d = .missingFile path

theorem Gone.quiet {path : Path} {d : Diagnostic} (h : Gone w path d) : Quiet d := by
  obtain ⟨-, rfl⟩ := h
  exact ⟨(by decide : DiagnosticKind.severity .missingFile < .fatal),
    (by decide : DiagnosticKind.missingFile ≠ .circularInclusion)⟩

theorem reportMissing_gone (path : Path) :
    Yields (Gone w path) (reportMissing w path : Reporting σ Unit) () := by
  rw [reportMissing]
  split
  · exact .pure ()
  · rename_i hgone
    exact .report ⟨by simpa using hgone, rfl⟩

theorem reportMissing_yields (path : Path) :
    Yields Quiet (reportMissing w path : Reporting σ Unit) () :=
  (reportMissing_gone path).mono fun _ => Gone.quiet

section
variable {depth : Nat} {path : Path} {origin : Position} {config : Configuration} {m : Memory}

/-- A file that is remembered is not looked at again, but its path is. -/
theorem load_remembered_gone {d : Document Normalized}
    (hlook : m.cache.lookup (w.identity path) = some d) :
    Yields (Gone w path) (Loading.startingAt (Inclusion.loadWithin engine w searchDirs (depth + 1)
      path origin config : Loading σ _) m) (d, m) := by
  rw [loadWithin_startingAt]
  refine (reportMissing_gone path).bind ?_
  simp only [Inclusion.settleOr, hlook]
  exact Yields.startingAt (σ := σ) (.pure d) m

theorem load_remembered {d : Document Normalized}
    (hlook : m.cache.lookup (w.identity path) = some d) :
    Yields Quiet (Loading.startingAt (Inclusion.loadWithin engine w searchDirs (depth + 1) path
      origin config : Loading σ _) m) (d, m) :=
  (load_remembered_gone hlook).mono fun _ => Gone.quiet

/-- A file that is being resolved is worth no lines. -/
theorem load_circular (hlook : m.cache.lookup (w.identity path) = none)
    (hopen : w.identity path ∈ m.chain) :
    Yields Mild (Loading.startingAt (Inclusion.loadWithin engine w searchDirs (depth + 1)
      path origin config : Loading σ _) m) (.empty config, m) := by
  rw [loadWithin_startingAt]
  refine ((reportMissing_yields path).mono fun _ => Quiet.mild).bind ?_
  simp only [Inclusion.settleOr, hlook, List.contains_iff_mem, hopen, if_true]
  refine Yields.startingAt ?_ m
  refine (Yields.report ?_).bind (.pure _)
  exact (by decide : DiagnosticKind.severity .circularInclusion < .fatal)

/-- Any other file is loaded as a new one. -/
theorem load_new {K : Diagnostic → Prop} (hK : ∀ d, Quiet d → K d)
    (hlook : m.cache.lookup (w.identity path) = none) (hnew : w.identity path ∉ m.chain)
    {result : Document Normalized × Memory}
    (h : Yields K (Loading.startingAt (Inclusion.loadNew engine w searchDirs
      (Inclusion.loadWithin engine w searchDirs depth) (w.identity path) path config :
      Loading σ _) m) result) :
    Yields K (Loading.startingAt (Inclusion.loadWithin engine w searchDirs (depth + 1) path origin
      config : Loading σ _) m) result := by
  rw [loadWithin_startingAt]
  refine ((reportMissing_yields path).mono hK).bind ?_
  simpa only [Inclusion.settleOr, hlook, List.contains_iff_mem, hnew, if_false] using h

end

end

/-! ## Memories -/

section
variable (engine : Engine) (w : Workspace) (searchDirs : List Path)

/-- The document holds what inlining makes of the request. -/
def Request.Inlined (r : Request) (d : Document Normalized) : Prop :=
  (∃ n, inline engine w searchDirs n r = some d.entries) ∧ ∀ l ∈ d.lines, l.size ≠ 0

/-- Every file of the set that is remembered is remembered as what inlining makes of it. -/
def Memory.Sound (T : Request → Prop) (m : Memory) : Prop :=
  ∀ r, T r → ∀ d, m.cache.lookup (w.identity r.path) = some d → r.Inlined engine w searchDirs d

/-- The chain is as before, and so is what is remembered of files outside of the set. -/
structure Memory.Grown (T : Request → Prop) (m m' : Memory) : Prop where
  chain : m'.chain = m.chain
  cache : ∀ identity, (∀ r, T r → w.identity r.path ≠ identity) →
    m'.cache.lookup identity = m.cache.lookup identity

end

section
variable {engine : Engine} {w : Workspace} {searchDirs : List Path} {T : Request → Prop}

theorem Memory.Grown.refl (m : Memory) : m.Grown w T m := ⟨rfl, fun _ _ => rfl⟩

theorem Memory.Grown.trans {m m' m'' : Memory} (h : m.Grown w T m') (h' : m'.Grown w T m'') :
    m.Grown w T m'' :=
  ⟨h'.chain.trans h.chain, fun i hi => (h'.cache i hi).trans (h.cache i hi)⟩

/-- What one request of the set was resolved to may be remembered for all requests for the file. -/
theorem Memory.Sound.remember (hT : Tame engine w searchDirs T) {m : Memory}
    (hm : m.Sound engine w searchDirs T) {r : Request} (hr : T r) {d : Document Normalized}
    (hd : r.Inlined engine w searchDirs d) :
    Memory.Sound engine w searchDirs T ⟨m.chain, m.cache ++ [(w.identity r.path, d)]⟩ := by
  intro s hs e he
  rw [List.lookup_append] at he
  rcases hlook : m.cache.lookup (w.identity s.path) with - | old
  · rw [hlook, Option.none_or, List.lookup_cons] at he
    split at he
    · rename_i hid
      obtain ⟨hpath, hconfig⟩ := hT.coherent hs hr (by simpa using hid)
      obtain rfl : d = e := by simpa using he
      obtain ⟨⟨n, hn⟩, hne⟩ := hd
      exact ⟨⟨n, by rw [hT.inline_respelled n hs hr hpath hconfig, hn]⟩, hne⟩
    · cases he
  · rw [hlook, Option.some_or] at he
    obtain rfl : old = e := by simpa using he
    exact hm s hs old hlook

theorem Memory.Grown.remember {r : Request} (hr : T r) (m : Memory) (d : Document Normalized) :
    m.Grown w T ⟨m.chain, m.cache ++ [(w.identity r.path, d)]⟩ := by
  refine ⟨rfl, fun i hi => ?_⟩
  have hne : (i == w.identity r.path) = false := by simpa using (hi r hr).symm
  simp [List.lookup_append, List.lookup_cons, hne]

/-! ## Loading tame requests -/

variable {σ : Type} [Sink σ]

variable (engine w searchDirs T) in
/-- The computation keeps the memory sound and gives something with the property `Q`. -/
def Keeps {α : Type} (x : Loading σ α) (m : Memory) (Q : α → Prop) : Prop :=
  ∃ a m', Yields Quiet (Loading.startingAt x m) (a, m') ∧ Q a ∧
    m'.Sound engine w searchDirs T ∧ m.Grown w T m'

namespace Keeps

variable {α β : Type} {m : Memory} {Q : α → Prop} {Q' : β → Prop}

theorem of_yields {x : Loading σ α} {a : α} (h : Yields Quiet x a)
    (hm : m.Sound engine w searchDirs T) (ha : Q a) : Keeps engine w searchDirs T x m Q :=
  ⟨a, m, h.startingAt m, ha, hm, .refl m⟩

theorem bind {x : Loading σ α} {f : α → Loading σ β} (hx : Keeps engine w searchDirs T x m Q)
    (hf : ∀ a m', Q a → m'.Sound engine w searchDirs T → m'.chain = m.chain →
      Keeps engine w searchDirs T (f a) m' Q') :
    Keeps engine w searchDirs T (x >>= f) m Q' := by
  obtain ⟨a, m', hx, ha, hm', hgrown⟩ := hx
  obtain ⟨b, m'', hf, hb, hm'', hgrown'⟩ := hf a m' ha hm' hgrown.chain
  refine ⟨b, m'', ?_, hb, hm'', hgrown.trans hgrown'⟩
  rw [startingAt_bind]
  exact hx.bind hf

end Keeps

/-- The lines hold what a line stands for. -/
def LineInlined (engine : Engine) (w : Workspace) (searchDirs : List Path) (path : Path)
    (config : Configuration) (find : Matcher) (line : Line Normalized)
    (out : List (Line Normalized)) : Prop :=
  (∃ n, inlineLine w searchDirs (inline engine w searchDirs n) path config find line =
    some (out.map Line.entry)) ∧ ∀ l ∈ out, l.size ≠ 0

section
variable {r : Request} {d : Document Normalized} {find : Matcher} {load : Inclusion.Load σ}
  {chain : List Path} (hd : r.document? engine w = some d)
  (hfind : engine.directive d.config includeDirective = .ok find)
  (hnonempty : ∀ l ∈ d.lines, l.size ≠ 0)
  (hload : ∀ s, r.Includes engine w searchDirs s → ∀ origin m, m.Sound engine w searchDirs T →
    m.chain = chain → Keeps engine w searchDirs T (load s.path origin s.config) m
      (s.Inlined engine w searchDirs))
include hd hfind hnonempty hload

theorem resolveLine_keeps {line : Line Normalized} (hline : line ∈ d.lines) {m : Memory}
    (hm : m.Sound engine w searchDirs T) (hchain : m.chain = chain) :
    Keeps engine w searchDirs T
      (Inclusion.resolveLine w searchDirs load r.path d.config find line) m
      (LineInlined engine w searchDirs r.path d.config find line) := by
  rcases resolveLine_cases w searchDirs load r.path d.config find line with
    ⟨hasked, hyields⟩ | ⟨relative, hasked, ht, hyields⟩ | ⟨relative, target, hasked, ht, heq⟩
  · refine .of_yields hyields hm ⟨⟨0, by simp [inlineLine, hasked]⟩, ?_⟩
    simpa using hnonempty line hline
  · exact .of_yields hyields hm ⟨⟨0, by simp [inlineLine, hasked, ht]⟩, by simp⟩
  · have hincludes : r.Includes engine w searchDirs ⟨target, d.config.sessionOnly⟩ :=
      ⟨_, ⟨d, find, hd, hfind, rfl, line, hline, hasked⟩, ht⟩
    rw [heq]
    refine (hload _ hincludes line.position m hm hchain).bind fun e m' he hm' _ => ?_
    obtain ⟨⟨n, hn⟩, hne⟩ := he
    refine .of_yields (.pure _) hm' ⟨⟨n, ?_⟩, hne⟩
    simp only [inlineLine, hasked, ht]
    exact hn

theorem resolveLines_keeps {lines : List (Line Normalized)} (hlines : lines ⊆ d.lines) {m : Memory}
    (hm : m.Sound engine w searchDirs T) (hchain : m.chain = chain) :
    Keeps engine w searchDirs T
      (lines.mapM (Inclusion.resolveLine w searchDirs load r.path d.config find)) m
      (List.Forall₂ (LineInlined engine w searchDirs r.path d.config find) lines) := by
  induction lines generalizing m with
  | nil => exact .of_yields (.pure []) hm .nil
  | cons line lines ih =>
    rw [List.mapM_cons]
    refine (resolveLine_keeps hd hfind hnonempty hload (hlines List.mem_cons_self) hm hchain).bind
      fun out m' hout hm' hchain' => ?_
    refine (ih (fun l hl => hlines (List.mem_cons_of_mem _ hl)) hm' (hchain'.trans hchain)).bind
      fun outs m'' houts hm'' _ => ?_
    exact .of_yields (.pure _) hm'' (.cons hout houts)

end

/-- Lines that are inlined one by one are inlined together, at the greatest of the depths. -/
theorem mapM_inlineLine {path : Path} {config : Configuration} {find : Matcher}
    {lines : List (Line Normalized)} {outs : List (List (Line Normalized))}
    (h : List.Forall₂ (LineInlined engine w searchDirs path config find) lines outs) :
    (∃ n, lines.mapM (inlineLine w searchDirs (inline engine w searchDirs n) path config find) =
      some (outs.map (List.map Line.entry))) ∧ ∀ l ∈ outs.flatten, l.size ≠ 0 := by
  induction h with
  | nil => exact ⟨⟨0, rfl⟩, by simp⟩
  | @cons line out lines outs hline _ ih =>
    obtain ⟨⟨n, hn⟩, hne⟩ := hline
    obtain ⟨⟨k, hk⟩, hne'⟩ := ih
    refine ⟨⟨max n k, ?_⟩, fun l hl => ?_⟩
    · have hn' := inlineLine_mono (fun r out h => inline_mono (Nat.le_max_left n k) h) hn
      have hk' := mapM_some_mono (fun l b hb =>
        inlineLine_mono (fun r out h => inline_mono (Nat.le_max_right n k) h) hb) hk
      simp [List.mapM_cons, hn', hk']
    · rw [List.flatten_cons, List.mem_append] at hl
      exact hl.elim (hne l) (hne' l)

/-- Reading a file and resolving its lines gives what inlining makes of it; a file that cannot be
read is worth no lines. -/
theorem readAndResolve_keeps {r : Request} {load : Inclusion.Load σ} {m : Memory}
    (hload : ∀ s, r.Includes engine w searchDirs s → ∀ origin m', m'.Sound engine w searchDirs T →
      m'.chain = m.chain → Keeps engine w searchDirs T (load s.path origin s.config) m'
        (s.Inlined engine w searchDirs))
    (hm : m.Sound engine w searchDirs T) :
    Keeps engine w searchDirs T
      (Inclusion.readAndResolve engine w searchDirs load r.path r.config) m
      (fun d => r.Inlined engine w searchDirs (d.getD (.empty r.config))) := by
  have hnonempty : ∀ {d}, r.document? engine w = some d → ∀ l ∈ d.lines, l.size ≠ 0 := by
    intro d hd
    obtain ⟨content, -, rfl⟩ := Request.document?_some hd
    exact normalizedDocument_nonempty engine _
  rcases readAndResolve_cases engine w searchDirs load r with
    ⟨hd, hyields⟩ | ⟨d, failure, hd, hfind, hyields⟩ | ⟨d, find, pre, hd, hfind, hpre, heq⟩
  · refine .of_yields hyields hm ⟨⟨1, ?_⟩, by simp [Document.empty, Document.ofLines]⟩
    simp [inline, hd, Document.entries, Document.empty, Document.ofLines]
  · exact .of_yields hyields hm ⟨⟨1, by simp [inline, hd, hfind]⟩, hnonempty hd⟩
  · rw [heq]
    refine (Keeps.of_yields (Q := fun _ => True) hpre hm trivial).bind fun _ m' _ hm' hchain' => ?_
    refine (resolveLines_keeps hd hfind (hnonempty hd) hload (fun _ h => h) hm' hchain').bind
      fun outs m'' houts hm'' _ => .of_yields (.pure _) hm'' ?_
    obtain ⟨⟨n, hn⟩, hne⟩ := mapM_inlineLine houts
    have hlines := Document.ofLines_nonempty hne d.config
    refine ⟨⟨n + 1, ?_⟩, fun l hl => hne l (hlines ▸ hl)⟩
    simp [inline, hd, hfind, hn, Document.entries, hlines, List.map_flatten]

theorem loadNew_keeps (hT : Tame engine w searchDirs T) {r : Request} (hr : T r)
    {load : Inclusion.Load σ} {m : Memory}
    (hread : Keeps engine w searchDirs T
      (Inclusion.readAndResolve engine w searchDirs load r.path r.config)
      ⟨m.chain ++ [w.identity r.path], m.cache⟩
      (fun d => r.Inlined engine w searchDirs (d.getD (.empty r.config)))) :
    Keeps engine w searchDirs T
      (Inclusion.loadNew engine w searchDirs load (w.identity r.path) r.path r.config) m
      (r.Inlined engine w searchDirs) := by
  obtain ⟨d, m', hyields, hd, hm', hgrown⟩ := hread
  have hclosed : m.Grown w T ⟨m.chain, m'.cache⟩ := ⟨rfl, hgrown.cache⟩
  refine ⟨_, _, loadNew_yields hyields hgrown.chain, hd, ?_⟩
  rcases d with - | d
  · rw [Option.map_none, Option.toList_none, List.append_nil]
    exact ⟨hm', hclosed⟩
  · exact ⟨hm'.remember hT hr hd, hclosed.trans (.remember hr ⟨m.chain, m'.cache⟩ d)⟩

theorem Tame.reaches (hT : Tame engine w searchDirs T) {r s : Request} (hr : T r)
    (h : r.Reaches engine w searchDirs s) : T s := by
  induction h with
  | refl => exact hr
  | tail _ hstep ih => exact hT.closed ih hstep

/-- No file that a tame request leads to is the requested one. -/
theorem Tame.identity_ne (hT : Tame engine w searchDirs T) {r s t : Request} (hr : T r)
    (hs : r.Includes engine w searchDirs s) (ht : s.Reaches engine w searchDirs t) :
    w.identity t.path ≠ w.identity r.path := by
  intro h
  have htrans : Relation.TransGen (Request.Includes engine w searchDirs) r t := .head' hs ht
  have htame : T t := hT.reaches (hT.closed hr hs) ht
  exact hT.acyclic hr htrans (hT.coherent hr htame h.symm).1

theorem load_keeps (hT : Tame engine w searchDirs T) {depth : Nat} {r : Request} (hr : T r)
    (origin : Position) {m : Memory} (hm : m.Sound engine w searchDirs T)
    (hnew : w.identity r.path ∉ m.chain)
    (hread : Keeps engine w searchDirs T (Inclusion.readAndResolve engine w searchDirs
      (Inclusion.loadWithin engine w searchDirs depth) r.path r.config : Loading σ _)
      ⟨m.chain ++ [w.identity r.path], m.cache⟩
      (fun d => r.Inlined engine w searchDirs (d.getD (.empty r.config)))) :
    Keeps engine w searchDirs T
      (Inclusion.loadWithin engine w searchDirs (depth + 1) r.path origin r.config : Loading σ _) m
      (r.Inlined engine w searchDirs) := by
  rcases hlook : m.cache.lookup (w.identity r.path) with - | d
  · obtain ⟨d, m', hyields, hrest⟩ := loadNew_keeps hT hr hread
    exact ⟨d, m', load_new (fun _ h => h) hlook hnew hyields, hrest⟩
  · exact ⟨d, m, load_remembered hlook, hm r hr d hlook, hm, .refl m⟩

/-- A tame file that is open is resolved as inlining has it. By induction on the depth that is left,
which is never used up: every file on the chain is another file of the workspace. -/
theorem readAndResolve_tame (hw : w.Grounded) (hT : Tame engine w searchDirs T) (depth : Nat)
    {r : Request} (hr : T r) {m : Memory} (hm : m.Sound engine w searchDirs T)
    (hfree : ∀ s, r.Reaches engine w searchDirs s → w.identity s.path ∉ m.chain)
    (hchain : FileChain w m.chain) (hdepth : depth + m.chain.length = w.tree.fileCount + 1) :
    Keeps engine w searchDirs T (Inclusion.readAndResolve engine w searchDirs
      (Inclusion.loadWithin engine w searchDirs depth) r.path r.config : Loading σ _)
      ⟨m.chain ++ [w.identity r.path], m.cache⟩
      (fun d => r.Inlined engine w searchDirs (d.getD (.empty r.config))) := by
  induction depth generalizing r m with
  | zero =>
    have := hchain.length_le
    omega
  | succ depth ih =>
    refine readAndResolve_keeps (fun s hs origin m' hm' hchain' => ?_) hm
    obtain ⟨content, hread⟩ := hs.readable
    have hopen : FileChain w m'.chain := hchain' ▸ hchain.push hw hread (hfree r .refl)
    -- the files that the file leads to are other files than those that are open
    have hfree' : ∀ t, s.Reaches engine w searchDirs t → w.identity t.path ∉ m'.chain := by
      intro t ht
      rw [hchain', List.mem_append, not_or]
      refine ⟨hfree t (.head hs ht), fun hmem => ?_⟩
      exact hT.identity_ne hr hs ht (List.mem_singleton.1 hmem)
    refine load_keeps hT (hT.closed hr hs) origin hm' (hfree' s .refl)
      (ih (hT.closed hr hs) hm' hfree' hopen ?_)
    rw [hchain', List.length_append, List.length_singleton]
    omega

/-- A tame request is loaded as inlining has it. -/
theorem load_tame (hw : w.Grounded) (hT : Tame engine w searchDirs T) {depth : Nat} {r : Request}
    (hr : T r) (origin : Position) {m : Memory} (hm : m.Sound engine w searchDirs T)
    (hfree : ∀ s, r.Reaches engine w searchDirs s → w.identity s.path ∉ m.chain)
    (hchain : FileChain w m.chain) (hdepth : depth + m.chain.length = w.tree.fileCount + 1) :
    Keeps engine w searchDirs T
      (Inclusion.loadWithin engine w searchDirs (depth + 1) r.path origin r.config : Loading σ _) m
      (r.Inlined engine w searchDirs) :=
  load_keeps hT hr origin hm (hfree r .refl) (readAndResolve_tame hw hT depth hr hm hfree hchain hdepth)

/-- After a tame file with any lines was loaded as a new one, it is remembered. -/
theorem load_tame_remembers (hw : w.Grounded) (hT : Tame engine w searchDirs T) {depth : Nat}
    {r : Request} (hr : T r) (origin : Position) {m : Memory} (hm : m.Sound engine w searchDirs T)
    (hfree : ∀ s, r.Reaches engine w searchDirs s → w.identity s.path ∉ m.chain)
    (hchain : FileChain w m.chain) (hdepth : depth + m.chain.length = w.tree.fileCount + 1)
    (hlook : m.cache.lookup (w.identity r.path) = none) {n : Nat} {out : List (Nat × Normalized)}
    (hout : inline engine w searchDirs n r = some out) (hne : out ≠ []) :
    ∃ d cache e,
      Yields Quiet (Loading.startingAt (Inclusion.loadWithin engine w searchDirs (depth + 1) r.path
        origin r.config : Loading σ _) m) (d, ⟨m.chain, cache⟩) ∧
      cache.lookup (w.identity r.path) = some e ∧
      ∀ f ∈ [d, e], f.entries = out ∧ ∀ l ∈ f.lines, l.size ≠ 0 := by
  obtain ⟨d, m', hyields, hd, hm', hgrown⟩ :=
    readAndResolve_tame (σ := σ) hw hT depth hr hm hfree hchain hdepth
  have hinlined : ∀ f, r.Inlined engine w searchDirs f →
      f.entries = out ∧ ∀ l ∈ f.lines, l.size ≠ 0 := by
    rintro f ⟨⟨k, hk⟩, hsizes⟩
    exact ⟨inline_unique hk hout, hsizes⟩
  rcases d with - | d
  · exact absurd (hinlined _ hd).1.symm hne
  obtain ⟨e, he⟩ : ∃ e, (m'.cache ++ [(w.identity r.path, d)]).lookup (w.identity r.path) =
      some e := by
    rw [List.lookup_append]
    rcases m'.cache.lookup (w.identity r.path) with - | e
    · exact ⟨d, by simp⟩
    · exact ⟨e, rfl⟩
  refine ⟨d, _, e, load_new (fun _ h => h) hlook (hfree r .refl)
    (loadNew_yields hyields hgrown.chain), he, ?_⟩
  have he' := hm'.remember hT hr hd r hr e he
  simpa using ⟨hinlined d hd, hinlined e he'⟩

end

end SourcePrep
