import SourcePrep.Proofs.LongPaths
import SourcePrep.Proofs.PreparedPatterns
import SourcePrep.Proofs.TameLoading

/-!
# A root and the files it inlines

`loadRoot_inlines` is what inclusion promises for a root: if no file that can be reached leads back
to itself, no such file sets the marker, and the system takes every path that is looked up next to
such a file, then loading gives what `inline` makes of the root, whatever is remembered on the way.
The last condition cannot be left out (`loadRoot_not_inlines_tight`): what is remembered of a file
was resolved under one spelling of its path, and under a longer one its inclusions may lead nowhere.

What a request leads to can be computed (`Request.targets`), so the conditions can be checked for a
given workspace: `Descending` lists requests with what they lead to.
-/

set_option autoImplicit false

namespace SourcePrep

/-! ## The requests reached from a root -/

section
variable (engine : Engine) (w : Workspace) (searchDirs : List Path)

/-- The requested file does not change the marker that it inherits. -/
def Request.KeepsMarker (r : Request) : Prop :=
  ∀ d, r.document? engine w = some d → d.config.markerValue = r.config.markerValue

variable {engine w searchDirs} {root : Request}

/-- Every file below a root is found as a file, and inherits the marker of the root and nothing
else. -/
theorem Request.Reaches.config
    (hmarker : ∀ r, root.Reaches engine w searchDirs r → r.KeepsMarker engine w) {r : Request}
    (h : Relation.TransGen (Request.Includes engine w searchDirs) root r) :
    r.config = ⟨root.config.markerValue, none⟩ := by
  have hstep : ∀ {r s : Request}, root.Reaches engine w searchDirs r →
      r.config.markerValue = root.config.markerValue → r.Includes engine w searchDirs s →
      s.config = ⟨root.config.markerValue, none⟩ := by
    rintro r s hreach hsame ⟨relative, ⟨d, find, hd, -, hconfig, -⟩, -⟩
    rw [hconfig, Configuration.sessionOnly, hmarker r hreach d hd, hsame]
  induction h with
  | single h => exact hstep .refl rfl h
  | tail hreach h ih => exact hstep hreach.to_reflTransGen (by rw [ih]) h

/-- The requests reached from a root are tame if each file is asked for with one configuration. -/
theorem Tame.of_configs (hw : w.Grounded)
    (hacyclic : ∀ r s, root.Reaches engine w searchDirs r →
      Relation.TransGen (Request.Includes engine w searchDirs) r s →
      w.resolve r.path ≠ w.resolve s.path)
    (hconfigs : ∀ r s, root.Reaches engine w searchDirs r → root.Reaches engine w searchDirs s →
      w.identity r.path = w.identity s.path → r.config = s.config)
    (hfits : ∀ r, root.Reaches engine w searchDirs r → r.Fits engine w) :
    Tame engine w searchDirs (root.Reaches engine w searchDirs) where
  closed hr hs := hr.tail hs
  acyclic hr hs := hacyclic _ _ hr hs
  fits hr := hfits _ hr
  coherent := by
    intro r s hr hs hid
    refine ⟨?_, hconfigs r s hr hs hid⟩
    have hresolve : ∀ {ns ms : List String}, w.resolve r.path = .ok ns → w.resolve s.path = .ok ms →
        w.resolve r.path = w.resolve s.path := by
      intro ns ms hns hms
      rw [hns, hms, Workspace.resolve_eq_of_identity hw hns hms hid]
    rcases Relation.reflTransGen_iff_eq_or_transGen.1 hr with rfl | hr
    · rcases Relation.reflTransGen_iff_eq_or_transGen.1 hs with rfl | hs
      · rfl
      · obtain ⟨⟨ns, hns⟩, ms, hms⟩ := Request.resolve_of_transGen hs
        exact hresolve hns hms
    · obtain ⟨⟨ks, hks⟩, ns, hns⟩ := Request.resolve_of_transGen hr
      rcases Relation.reflTransGen_iff_eq_or_transGen.1 hs with rfl | hs
      · exact hresolve hns hks
      · obtain ⟨-, ms, hms⟩ := Request.resolve_of_transGen hs
        exact hresolve hns hms

/-- The requests reached from a root are tame: below the root every file is asked for with one
configuration, and the root itself is not asked for again. -/
theorem Tame.of_root (hw : w.Grounded)
    (hacyclic : ∀ r s, root.Reaches engine w searchDirs r →
      Relation.TransGen (Request.Includes engine w searchDirs) r s →
      w.resolve r.path ≠ w.resolve s.path)
    (hmarker : ∀ r, root.Reaches engine w searchDirs r → r.KeepsMarker engine w)
    (hfits : ∀ r, root.Reaches engine w searchDirs r → r.Fits engine w) :
    Tame engine w searchDirs (root.Reaches engine w searchDirs) := by
  refine .of_configs hw hacyclic (fun r s hr hs hid => ?_) hfits
  have hagain : ∀ {t}, Relation.TransGen (Request.Includes engine w searchDirs) root t →
      w.identity root.path ≠ w.identity t.path := by
    intro t ht hid
    obtain ⟨⟨ns, hns⟩, ms, hms⟩ := Request.resolve_of_transGen ht
    refine hacyclic root t .refl ht ?_
    rw [hns, hms, Workspace.resolve_eq_of_identity hw hns hms hid]
  rcases Relation.reflTransGen_iff_eq_or_transGen.1 hr with rfl | hr
  · rcases Relation.reflTransGen_iff_eq_or_transGen.1 hs with rfl | hs
    · rfl
    · exact absurd hid (hagain hs)
  · rcases Relation.reflTransGen_iff_eq_or_transGen.1 hs with rfl | hs
    · exact absurd hid.symm (hagain hr)
    · rw [Request.Reaches.config hmarker hr, Request.Reaches.config hmarker hs]

end

/-! ## Loading a root -/

/-- Loading a root computes the recursive inlining of files, and reports no cycle. -/
theorem loadRoot_inlines (engine : Engine) (w : Workspace) (hw : w.Grounded)
    (searchDirs : List Path) (config : Configuration) (root : Path)
    (hacyclic : ∀ r s, Request.Reaches engine w searchDirs ⟨root, config⟩ r →
      Relation.TransGen (Request.Includes engine w searchDirs) r s →
      w.resolve r.path ≠ w.resolve s.path)
    (hmarker : ∀ r, Request.Reaches engine w searchDirs ⟨root, config⟩ r → r.KeepsMarker engine w)
    (hfits : ∀ r, Request.Reaches engine w searchDirs ⟨root, config⟩ r → r.Fits engine w) :
    ∃ d ds,
      Loading.start (Inclusion.loadRoot engine w searchDirs config root) (Collector.plain []) =
        (.ok d, .plain ds) ∧
      (∃ depth, inline engine w searchDirs depth ⟨root, config⟩ = some d.entries) ∧
      ∀ e ∈ ds, e.kind ≠ .circularInclusion := by
  have hT := Tame.of_root hw hacyclic hmarker hfits
  have hempty : FileChain w Memory.blank.chain := ⟨.nil, by simp [Memory.blank]⟩
  have hblank : Memory.blank.Sound engine w searchDirs
      (Request.Reaches engine w searchDirs ⟨root, config⟩) := by
    intro r _ d hd
    cases hd
  obtain ⟨d, m, hyields, ⟨hd, -⟩, -⟩ := load_tame (σ := Collector) hw hT (r := ⟨root, config⟩) .refl
    (.wholeFile root) hblank (by simp [Memory.blank]) hempty rfl
  have hstart : Yields Quiet (Loading.start
      (Inclusion.loadRoot engine w searchDirs config root : Loading Collector _)) d := by
    rw [start_eq]
    exact hyields.bind (.pure d)
  obtain ⟨ds, hds, hquiet⟩ := hstart.plain fun d h => h.1
  exact ⟨d, ds, hds, hd, fun e he => (hquiet e he).2⟩

/-! ## Checking a given workspace -/

section
variable (engine : Engine) (w : Workspace) (searchDirs : List Path)

/-- The paths that the lines of the requested file ask for, with the configuration they pass on. -/
def Request.asked (r : Request) : List (String × Configuration) :=
  match r.document? engine w with
  | none => []
  | some d =>
    match engine.directive d.config includeDirective with
    | .error _ => []
    | .ok find => (d.lines.filterMap (askedFor find)).map fun relative =>
        (relative, d.config.sessionOnly)

/-- The requests that the requested file leads to. -/
def Request.targets (r : Request) : List Request :=
  (r.asked engine w).filterMap fun a =>
    (Inclusion.resolve? w searchDirs r.path a.1).map fun target => ⟨target, a.2⟩

variable {engine w searchDirs}

theorem Request.asks_iff {r : Request} {relative : String} {config : Configuration} :
    r.Asks engine w relative config ↔ (relative, config) ∈ r.asked engine w := by
  rw [Request.Asks, Request.asked]
  constructor
  · rintro ⟨d, find, hd, hfind, rfl, line, hline, hasked⟩
    simp only [hd, hfind, List.mem_map, List.mem_filterMap]
    exact ⟨relative, ⟨line, hline, hasked⟩, rfl⟩
  · intro h
    split at h
    · cases h
    · rename_i d hd
      split at h
      · cases h
      · rename_i find hfind
        simp only [List.mem_map, List.mem_filterMap, Prod.mk.injEq] at h
        obtain ⟨_, ⟨line, hline, hasked⟩, rfl, rfl⟩ := h
        exact ⟨d, find, hd, hfind, rfl, line, hline, hasked⟩

theorem Request.includes_iff {r s : Request} :
    r.Includes engine w searchDirs s ↔ s ∈ r.targets engine w searchDirs := by
  rw [Request.Includes, Request.targets]
  simp only [Request.asks_iff, List.mem_filterMap, Option.map_eq_some_iff, Prod.exists]
  constructor
  · rintro ⟨relative, hasked, htarget⟩
    exact ⟨relative, s.config, hasked, s.path, htarget, rfl⟩
  · rintro ⟨relative, config, hasked, target, htarget, rfl⟩
    exact ⟨relative, hasked, htarget⟩

instance (r : Request) : Decidable (r.Fits engine w) :=
  decidable_of_iff (∀ a ∈ r.asked engine w, w.FitsBeside r.path a.1) (by
    simp only [Request.Fits, Request.asks_iff, Prod.forall])

instance (r : Request) : Decidable (r.KeepsMarker engine w) :=
  decidable_of_iff (∀ d ∈ r.document? engine w, d.config.markerValue = r.config.markerValue)
    Iff.rfl

/-- Requests for one file, with one configuration, ask for the same. -/
theorem Request.asked_respelled {r s : Request} (hpath : w.resolve r.path = w.resolve s.path)
    (hconfig : r.config = s.config) : r.asked engine w = s.asked engine w := by
  have hdoc : Option.Rel _ (r.document? engine w) _ := Request.document?_respelled hpath hconfig
  rw [Request.asked, Request.asked]
  rcases hd : r.document? engine w with - | d <;> rcases he : s.document? engine w with - | e <;>
    rw [hd, he] at hdoc <;> cases hdoc
  rename_i hmoved
  simp only [hmoved.config]
  rcases engine.directive e.config includeDirective with failure | find
  · rfl
  refine congrArg (List.map _) ?_
  have hlines := hmoved.lines
  generalize d.lines = ls, e.lines = ms at hlines
  induction hlines with
  | nil => rfl
  | @cons l m ls ms hlm _ ih =>
    rw [List.filterMap_cons, List.filterMap_cons, hlm.askedFor find, ih]

/-- Where one request for a file leads, others lead too. -/
theorem Request.Includes.respelled (hw : w.Grounded) {r s t : Request}
    (h : r.Includes engine w searchDirs t) (hpath : w.resolve r.path = w.resolve s.path)
    (hconfig : r.config = s.config) (hr : r.Fits engine w) (hs : s.Fits engine w) :
    ∃ u, s.Includes engine w searchDirs u ∧ w.identity t.path = w.identity u.path := by
  obtain ⟨relative, hasks, htarget⟩ := h
  have hasks' : s.Asks engine w relative t.config := by
    rw [Request.asks_iff, ← Request.asked_respelled hpath hconfig, ← Request.asks_iff]
    exact hasks
  have hfits := hr _ _ hasks
  obtain ⟨d, find, hd, -⟩ := hasks
  have hleads := resolve?_respelled (Request.respelled hd hpath) searchDirs hfits (hs _ _ hasks')
  rw [htarget] at hleads
  rcases hu : Inclusion.resolve? w searchDirs s.path relative with - | u <;>
    rw [hu] at hleads <;> cases hleads
  rename_i htu
  obtain ⟨names, content, htn, hun, -⟩ := htu
  refine ⟨⟨u, t.config⟩, ⟨relative, hasks', hu⟩, ?_⟩
  rw [(Workspace.identity_of_resolve hw htn).1, (Workspace.identity_of_resolve hw hun).1]

variable (engine w searchDirs) in
/-- The requests of the list lead to one another only. -/
def Enclosed (requests : List Request) : Prop :=
  ∀ r ∈ requests, ∀ s ∈ r.targets engine w searchDirs, s ∈ requests

variable (engine w searchDirs) in
/-- The requests of the list lead to one another only, and every inclusion leads down. -/
def Descending (rank : Except FileError (List String) → Nat) (requests : List Request) : Prop :=
  ∀ r ∈ requests, ∀ s ∈ r.targets engine w searchDirs,
    s ∈ requests ∧ rank (w.resolve s.path) < rank (w.resolve r.path)

instance (requests : List Request) : Decidable (Enclosed engine w searchDirs requests) :=
  inferInstanceAs (Decidable (∀ r ∈ requests, ∀ s ∈ r.targets engine w searchDirs, _))

instance (rank : Except FileError (List String) → Nat) (requests : List Request) :
    Decidable (Descending engine w searchDirs rank requests) :=
  inferInstanceAs (Decidable (∀ r ∈ requests, ∀ s ∈ r.targets engine w searchDirs, _ ∧ _))

theorem Enclosed.mem_of_reaches {requests : List Request} {root : Request}
    (h : Enclosed engine w searchDirs requests) (hroot : root ∈ requests) {r : Request}
    (hr : root.Reaches engine w searchDirs r) : r ∈ requests := by
  induction hr with
  | refl => exact hroot
  | tail _ hstep ih => exact h _ ih _ (Request.includes_iff.1 hstep)

namespace Descending

variable {rank : Except FileError (List String) → Nat} {requests : List Request}

theorem enclosed (h : Descending engine w searchDirs rank requests) :
    Enclosed engine w searchDirs requests :=
  fun r hr s hs => (h r hr s hs).1

theorem acyclic (h : Descending engine w searchDirs rank requests) {r s : Request}
    (hr : r ∈ requests) (hs : Relation.TransGen (Request.Includes engine w searchDirs) r s) :
    w.resolve r.path ≠ w.resolve s.path := by
  suffices hdown : s ∈ requests ∧ rank (w.resolve s.path) < rank (w.resolve r.path) by
    intro heq
    rw [heq] at hdown
    exact Nat.lt_irrefl _ hdown.2
  induction hs with
  | single hstep => exact h _ hr _ (Request.includes_iff.1 hstep)
  | tail _ hstep ih =>
    obtain ⟨hmem, hlt⟩ := h _ ih.1 _ (Request.includes_iff.1 hstep)
    exact ⟨hmem, Nat.lt_trans hlt ih.2⟩

end Descending

end

/-! ## Files that set nothing -/

/-- What normalization makes of the configuration of a file that sets nothing. -/
def settled : Configuration := { tabwidthValue := some "4" }

/-- What finds the include directives of such a file. -/
def plainFinder : Matcher :=
  ((Engine.standard.directive settled includeDirective).toOption).getD fun _ => .ok none

theorem directive_settled :
    Engine.standard.directive settled includeDirective =
      .ok fun text => Pattern.ofInclusion.firstMatch text 0 :=
  Engine.standard_directive_eq rfl
    (Pattern.compile_directives Pattern.ofInclusion (by simp [Pattern.directives]))

theorem plainFinder_eq : plainFinder = fun text => Pattern.ofInclusion.firstMatch text 0 := by
  rw [plainFinder, directive_settled]
  rfl

theorem directive_plain : Engine.standard.directive settled includeDirective = .ok plainFinder := by
  rw [directive_settled, plainFinder_eq]

/-- What a line asks for, and what it holds. -/
def Line.facts (find : Matcher) (l : Line Normalized) : Option String × Nat × Normalized :=
  (askedFor find l, l.entry)

theorem Line.fst_comp_facts (find : Matcher) : Prod.fst ∘ Line.facts find = askedFor find := rfl

theorem Moved.facts {d e : Document Normalized} (h : Moved SameNumber d e) (find : Matcher) :
    d.lines.map (Line.facts find) = e.lines.map (Line.facts find) := by
  rw [← List.forall₂_eq_eq_eq, List.forall₂_map_left_iff, List.forall₂_map_right_iff]
  refine h.lines.imp fun l m hlm => ?_
  rw [Line.facts, Line.facts, hlm.askedFor, Line.entry, Line.entry, hlm.kind,
    show l.position.line = _ from hlm.position]

/-- The requested file sets nothing, and has lines of which this is known. -/
def Request.Holds (w : Workspace) (r : Request) (facts : List (Option String × Nat × Normalized)) :
    Prop :=
  (r.document? .standard w).map (fun d => (d.config, d.lines.map (Line.facts plainFinder))) =
    some (settled, facts)

theorem Request.holds_iff (w : Workspace) (r : Request)
    (facts : List (Option String × Nat × Normalized)) :
    (r.document? .prepared w).map (fun d =>
        (d.config, d.lines.map (Line.facts fun text => Pattern.ofInclusion.firstMatch text 0))) =
      some (settled, facts) ↔ r.Holds w facts := by
  rw [Request.Holds, Engine.prepared_eq, plainFinder_eq]

instance (w : Workspace) (r : Request) (facts : List (Option String × Nat × Normalized)) :
    Decidable (r.Holds w facts) :=
  decidable_of_iff _ (r.holds_iff w facts)

namespace Request.Holds

variable {w : Workspace} {r s : Request} {facts : List (Option String × Nat × Normalized)}

theorem exists_document (h : r.Holds w facts) :
    ∃ d, r.document? .standard w = some d ∧ d.config = settled ∧
      d.lines.map (Line.facts plainFinder) = facts := by
  obtain ⟨d, hd, hfacts⟩ := Option.map_eq_some_iff.1 h
  obtain ⟨hconfig, hlines⟩ := Prod.mk.inj hfacts
  exact ⟨d, hd, hconfig, hlines⟩

/-- It holds the same under every path. -/
theorem respelled (h : r.Holds w facts) (hpath : w.resolve r.path = w.resolve s.path)
    (hconfig : r.config = s.config) : s.Holds w facts := by
  obtain ⟨d, hd, hsettled, hfacts⟩ := h.exists_document
  have hdoc : Option.Rel (Moved SameNumber) (r.document? .standard w) (s.document? .standard w) :=
    Request.document?_respelled hpath hconfig
  rcases he : s.document? .standard w with - | e <;> rw [hd, he] at hdoc <;> cases hdoc
  rename_i hmoved
  rw [Holds, he, Option.map_some, ← hmoved.facts, hfacts, ← hmoved.config, hsettled]

theorem asked (h : r.Holds w facts) :
    r.asked .standard w = (facts.filterMap Prod.fst).map fun relative => (relative, {}) := by
  obtain ⟨d, hd, hsettled, rfl⟩ := h.exists_document
  rw [List.filterMap_map, Line.fst_comp_facts, Request.asked, hd]
  simp only [hsettled, directive_plain]
  rfl

theorem targets (h : r.Holds w facts) (searchDirs : List Path) :
    r.targets .standard w searchDirs = (facts.filterMap Prod.fst).filterMap fun relative =>
      (Inclusion.resolve? w searchDirs r.path relative).map fun target => ⟨target, {}⟩ := by
  rw [Request.targets, h.asked, List.filterMap_map]
  rfl

theorem keepsMarker (h : r.Holds w facts) (hr : r.config.markerValue = none) :
    r.KeepsMarker .standard w := by
  obtain ⟨d, hd, hsettled, -⟩ := h.exists_document
  intro e he
  obtain rfl : d = e := Option.some.inj (hd.symm.trans he)
  rw [hsettled, hr]
  rfl

theorem fits (h : r.Holds w facts)
    (hfits : ∀ relative ∈ facts.filterMap Prod.fst, w.FitsBeside r.path relative) :
    r.Fits .standard w := by
  intro relative config hasks
  rw [Request.asks_iff, h.asked] at hasks
  obtain ⟨_, hmem, heq⟩ := List.mem_map.1 hasks
  obtain ⟨rfl, -⟩ := Prod.mk.inj heq
  exact hfits _ hmem

/-- A file of two lines. -/
theorem pair {asked₁ asked₂ : Option String} {entry₁ entry₂ : Nat × Normalized}
    (h : r.Holds w [(asked₁, entry₁), (asked₂, entry₂)]) :
    ∃ d l₁ l₂, r.document? .standard w = some d ∧ d.config = settled ∧
      d.lines = [l₁, l₂] ∧ (askedFor plainFinder l₁ = asked₁ ∧ l₁.entry = entry₁) ∧
      askedFor plainFinder l₂ = asked₂ ∧ l₂.entry = entry₂ := by
  obtain ⟨d, hd, hconfig, hlines⟩ := h.exists_document
  obtain ⟨l₁, ls, hl, h₁, hls⟩ := List.map_eq_cons_iff.1 hlines
  obtain ⟨l₂, ls, rfl, h₂, hnil⟩ := List.map_eq_cons_iff.1 hls
  obtain rfl := List.map_eq_nil_iff.1 hnil
  exact ⟨d, l₁, l₂, hd, hconfig, hl, Prod.mk.inj h₁, Prod.mk.inj h₂⟩

end Request.Holds

/-- A file that is included twice, under two spellings of its path. -/
def twice : Workspace where
  tree := .directory [
    ("m", .file (.text "include \"a\"\ninclude \"./a\"\n")),
    ("a", .file (.text "\ta\n"))]
  workingDir := ⟨"/"⟩

theorem loadRoot_inlines_twice :
    ∃ d ds,
      Loading.start (Inclusion.loadRoot .standard twice [] {} ⟨"m"⟩) (Collector.plain []) =
        (.ok d, .plain ds) ∧
      (∃ depth, inline .standard twice [] depth ⟨⟨"m"⟩, {}⟩ = some d.entries) ∧
      ∀ e ∈ ds, e.kind ≠ .circularInclusion := by
  let requests : List Request := [⟨⟨"m"⟩, {}⟩, ⟨⟨"a"⟩, {}⟩, ⟨⟨"./a"⟩, {}⟩]
  let rank (place : Except FileError (List String)) : Nat := if place = .ok ["m"] then 1 else 0
  have hm : Request.Holds twice ⟨⟨"m"⟩, {}⟩ [(some "a", 1, ⟨0, "include \"a\"\n"⟩),
      (some "./a", 2, ⟨0, "include \"./a\"\n"⟩)] := by decide +kernel
  have ha : Request.Holds twice ⟨⟨"a"⟩, {}⟩ [(none, 1, ⟨1, "a\n"⟩)] := by decide +kernel
  have ha' : Request.Holds twice ⟨⟨"./a"⟩, {}⟩ [(none, 1, ⟨1, "a\n"⟩)] :=
    ha.respelled (by decide) rfl
  have hdown : Descending .standard twice [] rank requests := by
    simp only [Descending, requests, List.forall_mem_cons, hm.targets, ha.targets, ha'.targets]
    decide
  have hmem : ∀ r, Request.Reaches .standard twice [] ⟨⟨"m"⟩, {}⟩ r → r ∈ requests :=
    fun r hr => hdown.enclosed.mem_of_reaches (by decide) hr
  have hrest : ∀ r ∈ requests, r.KeepsMarker .standard twice ∧ r.Fits .standard twice := by
    simp only [requests, List.forall_mem_cons]
    exact ⟨⟨hm.keepsMarker rfl, hm.fits (by decide)⟩, ⟨ha.keepsMarker rfl, ha.fits (by decide)⟩,
      ⟨ha'.keepsMarker rfl, ha'.fits (by decide)⟩, by simp⟩
  exact loadRoot_inlines .standard twice ⟨[], by decide⟩ [] {} ⟨"m"⟩
    (fun r s hr hs => hdown.acyclic (hmem r hr) hs) (fun r hr => (hrest r (hmem r hr)).1)
    (fun r hr => (hrest r (hmem r hr)).2)

/-! ## A file under two spellings, one of them too long -/

section
variable {engine : Engine} {w : Workspace} {searchDirs : List Path} {T : Request → Prop}
  {σ : Type} [Sink σ] {r : Request} {d : Document Normalized} {find : Matcher}
  {l₁ l₂ : Line Normalized}

/-- Inlining a file of two lines. -/
theorem inline_pair {out out₁ out₂ : List (Nat × Normalized)} {n : Nat}
    (hd : r.document? engine w = some d)
    (hfind : engine.directive d.config includeDirective = .ok find) (hlines : d.lines = [l₁, l₂])
    (h₁ : inlineLine w searchDirs (inline engine w searchDirs n) r.path d.config find l₁ =
      some out₁)
    (h₂ : inlineLine w searchDirs (inline engine w searchDirs n) r.path d.config find l₂ =
      some out₂) (hout : out = out₁ ++ out₂) : inline engine w searchDirs (n + 1) r = some out := by
  subst hout
  simp [inline, hd, hfind, hlines, h₁, h₂]

section
variable (hd : r.document? engine w = some d)
  (hfind : engine.directive d.config includeDirective = .ok find) (hlines : d.lines = [l₁, l₂])
  {relative₁ relative₂ : String} {target₁ target₂ : Path}
  (hasked₁ : askedFor find l₁ = some relative₁) (hasked₂ : askedFor find l₂ = some relative₂)
  (htarget₁ : Inclusion.resolve? w searchDirs r.path relative₁ = some target₁)
  (htarget₂ : Inclusion.resolve? w searchDirs r.path relative₂ = some target₂)
  (hsame : w.identity target₂ = w.identity target₁)
include hd hfind hlines hasked₁ hasked₂ htarget₁ htarget₂ hsame

/-- Loading a file of two lines that lead to one file. The second line gets what is remembered from
the first, whatever path it leads to. -/
theorem load_pair {x y : Document Normalized} {cache : List (Path × Document Normalized)}
    (hx : Yields Quiet (Loading.startingAt (Inclusion.loadWithin engine w searchDirs
      (w.tree.fileCount + 1) target₁ l₁.position d.config.sessionOnly : Loading σ _)
      ⟨[w.identity r.path], []⟩) (x, ⟨[w.identity r.path], cache⟩))
    (hy : cache.lookup (w.identity target₁) = some y) :
    Yields Quiet (Loading.start
      (Inclusion.loadRoot engine w searchDirs r.config r.path : Loading σ _))
      (.ofLines [x.lines, y.lines].flatten d.config) := by
  let load : Inclusion.Load σ :=
    Inclusion.loadWithin engine w searchDirs (w.tree.fileCount + 1)
  let opened : Memory := ⟨[w.identity r.path], []⟩
  let closed : Memory := ⟨[w.identity r.path], cache⟩
  have hfirst : Yields Quiet (Loading.startingAt
      (Inclusion.resolveLine w searchDirs load r.path d.config find l₁) opened)
      (x.lines, closed) := by
    rw [resolveLine_asked load hasked₁ htarget₁, startingAt_bind]
    exact hx.bind (Yields.startingAt (.pure _) closed)
  have hsecond : Yields Quiet (Loading.startingAt
      (Inclusion.resolveLine w searchDirs load r.path d.config find l₂) closed)
      (y.lines, closed) := by
    rw [resolveLine_asked load hasked₂ htarget₂, startingAt_bind]
    exact (load_remembered (by rw [hsame, hy])).bind (Yields.startingAt (.pure _) closed)
  have hboth : Yields Quiet (Loading.startingAt
      (d.lines.mapM (Inclusion.resolveLine w searchDirs load r.path d.config find)) opened)
      ([x.lines, y.lines], closed) := by
    rw [hlines, List.mapM_cons, startingAt_bind]
    refine hfirst.bind ?_
    simp only [List.mapM_cons, List.mapM_nil, startingAt_bind, startingAt_pure, pure_bind]
    refine Yields.bind (a := ([y.lines], closed)) ?_ (.pure _)
    exact hsecond.bind (.pure _)
  obtain ⟨pre, hpre, heq⟩ := readAndResolve_ok load hd hfind
  have hresolved : Yields Quiet (Loading.startingAt
      (Inclusion.readAndResolve engine w searchDirs load r.path r.config) opened)
      (some (.ofLines [x.lines, y.lines].flatten d.config), closed) := by
    rw [heq, startingAt_bind]
    refine (hpre.startingAt opened).bind ?_
    rw [startingAt_bind]
    exact hboth.bind (Yields.startingAt (.pure _) closed)
  rw [start_eq]
  exact (load_new (fun _ h => h) rfl List.not_mem_nil
    (loadNew_yields (m := .blank) hresolved rfl)).bind (.pure _)

/-- When the first line leads to a tame request, both are inlined as it is. -/
theorem load_twice (hw : w.Grounded) (hT : Tame engine w searchDirs T)
    (hs : T ⟨target₁, d.config.sessionOnly⟩)
    (hother : ∀ s, Request.Reaches engine w searchDirs ⟨target₁, d.config.sessionOnly⟩ s →
      w.identity s.path ≠ w.identity r.path) {n : Nat} {out : List (Nat × Normalized)}
    (hout : inline engine w searchDirs n ⟨target₁, d.config.sessionOnly⟩ = some out)
    (hne : out ≠ []) :
    ∃ e, Yields Quiet (Loading.start
      (Inclusion.loadRoot engine w searchDirs r.config r.path : Loading σ _)) e ∧
      e.entries = out ++ out := by
  obtain ⟨content, hread, -⟩ := Request.document?_some hd
  have hchain : FileChain w [w.identity r.path] :=
    FileChain.push hw ⟨.nil, by simp⟩ hread List.not_mem_nil
  obtain ⟨x, cache, y, hx, hy, hxy⟩ := load_tame_remembers (σ := σ) hw hT hs l₁.position
    (m := ⟨[w.identity r.path], []⟩) (fun _ _ _ h => by cases h) (by simpa using hother) hchain rfl
    rfl hout hne
  obtain ⟨hxout, hxsizes⟩ := hxy x (by simp)
  obtain ⟨hyout, hysizes⟩ := hxy y (by simp)
  refine ⟨_, load_pair hd hfind hlines hasked₁ hasked₂ htarget₁ htarget₂ hsame hx hy, ?_⟩
  have hsizes : ∀ l ∈ [x.lines, y.lines].flatten, l.size ≠ 0 := by
    intro l hl
    simp only [List.flatten_cons, List.flatten_nil, List.append_nil, List.mem_append] at hl
    exact hl.elim (hxsizes l) (hysizes l)
  rw [Document.entries, Document.ofLines_nonempty hsizes, List.map_flatten]
  rw [Document.entries] at hxout hyout
  simp [hxout, hyout]

end

end

/-- A file that one line includes by a short path and another by one that is almost as long as the
system allows. -/
def tight : Workspace where
  tree := .directory [("d", .directory [
    ("m", .file (.text "include \"d/x\"\ninclude \"x\"\n")),
    ("x", .file (.text "include \"yyyy\"\nq\n")),
    ("yyyy", .file (.text "p\n"))])]
  workingDir := ⟨"/"⟩

/-- Where the paths lead, as far as it can be computed. -/
theorem tight_paths :
    (tight.isFile ((tight.includingDir ⟨"."⟩).join ⟨"x"⟩) = false ∧
      tight.isFile ((tight.includingDir ⟨"."⟩).join ⟨"yyyy"⟩) = false) ∧
    Inclusion.resolve? tight [⟨"."⟩] (beyond "m") "d/x" = some ⟨"./d/x"⟩ := by
  decide

theorem tight_allowsDetours : tight.AllowsDetours := ⟨by decide, _, _, rfl, rfl⟩

theorem resolve_beyond_m : tight.resolve (beyond "m") = .ok ["d", "m"] := by
  rw [resolve_beyond tight_allowsDetours (by decide) (by decide) (by decide) (by decide)]
  decide

theorem resolve_beyond_x : tight.resolve (beyond "x") = .ok ["d", "x"] := by
  rw [resolve_beyond tight_allowsDetours (by decide) (by decide) (by decide) (by decide)]
  decide

theorem resolve?_beyond_m :
    Inclusion.resolve? tight [⟨"."⟩] (beyond "m") "x" = some (beyond "x") := by
  rw [resolve?_beyond (by decide) (by decide) (isFile_beyond resolve_beyond_m rfl) (by decide)
    tight_paths.1.1, if_pos (isFile_beyond resolve_beyond_x rfl)]

theorem resolve?_beyond_x : Inclusion.resolve? tight [⟨"."⟩] (beyond "x") "yyyy" = none := by
  rw [resolve?_beyond (by decide) (by decide) (isFile_beyond resolve_beyond_x rfl) (by decide)
    tight_paths.1.2, isFile_beyond_long (by decide), if_neg Bool.false_ne_true]

/-- How deep inclusions nest below the files of the workspace. -/
def tightRank : Except FileError (List String) → Nat
  | .ok ["d", "m"] => 2
  | .ok ["d", "x"] => 1
  | _ => 0

/-- What the files hold and lead to under short paths. -/
theorem tight_files :
    Request.Holds tight ⟨⟨"d/m"⟩, {}⟩ [(some "d/x", 1, ⟨0, "include \"d/x\"\n"⟩),
      (some "x", 2, ⟨0, "include \"x\"\n"⟩)] ∧
    Request.Holds tight ⟨⟨"d/x"⟩, {}⟩ [(some "yyyy", 1, ⟨0, "include \"yyyy\"\n"⟩),
      (none, 2, ⟨0, "q\n"⟩)] ∧
    Request.Holds tight ⟨⟨"./d/yyyy"⟩, {}⟩ [(none, 1, ⟨0, "p\n"⟩)] ∧
    inline .standard tight [⟨"."⟩] 2 ⟨⟨"./d/x"⟩, {}⟩ = some [(1, ⟨0, "p\n"⟩), (2, ⟨0, "q\n"⟩)] := by
  refine ⟨by decide +kernel, by decide +kernel, by decide +kernel, ?_⟩
  rw [← Engine.prepared_eq]
  decide +kernel

theorem holds_beyond_m :
    Request.Holds tight ⟨beyond "m", {}⟩ [(some "d/x", 1, ⟨0, "include \"d/x\"\n"⟩),
      (some "x", 2, ⟨0, "include \"x\"\n"⟩)] :=
  tight_files.1.respelled (resolve_beyond_m.trans (by decide)).symm rfl

theorem holds_x {path : Path} (h : tight.resolve path = .ok ["d", "x"]) :
    Request.Holds tight ⟨path, {}⟩ [(some "yyyy", 1, ⟨0, "include \"yyyy\"\n"⟩),
      (none, 2, ⟨0, "q\n"⟩)] :=
  tight_files.2.1.respelled (h.trans (by decide)).symm rfl

theorem resolve?_near :
    Inclusion.resolve? tight [⟨"."⟩] (beyond "m") "d/x" = some ⟨"./d/x"⟩ := tight_paths.2

theorem inline_near :
    inline .standard tight [⟨"."⟩] 2 ⟨⟨"./d/x"⟩, {}⟩ =
      some [(1, ⟨0, "p\n"⟩), (2, ⟨0, "q\n"⟩)] := tight_files.2.2.2

/-- Under the long path the inclusion leads nowhere. -/
theorem inline_beyond_x :
    inline .standard tight [⟨"."⟩] 2 ⟨beyond "x", {}⟩ = some [(2, ⟨0, "q\n"⟩)] := by
  obtain ⟨d, l₁, l₂, hd, hconfig, hl, ⟨h₁, -⟩, h₂, hentry⟩ := (holds_x resolve_beyond_x).pair
  refine inline_pair hd (hconfig ▸ directive_plain) hl (inlineLine_lost h₁ resolve?_beyond_x)
    (inlineLine_kept h₂) ?_
  rw [hentry]
  rfl

theorem inline_beyond_m :
    inline .standard tight [⟨"."⟩] 3 ⟨beyond "m", {}⟩ =
      some [(1, ⟨0, "p\n"⟩), (2, ⟨0, "q\n"⟩), (2, ⟨0, "q\n"⟩)] := by
  obtain ⟨d, l₁, l₂, hd, hconfig, hl, ⟨h₁, -⟩, h₂, -⟩ := holds_beyond_m.pair
  have hsession : d.config.sessionOnly = {} := hconfig ▸ rfl
  exact inline_pair hd (hconfig ▸ directive_plain) hl
    ((inlineLine_asked h₁ resolve?_near).trans (hsession ▸ inline_near))
    ((inlineLine_asked h₂ resolve?_beyond_m).trans (hsession ▸ inline_beyond_x)) rfl

theorem targets_beyond_x : Request.targets .standard tight [⟨"."⟩] ⟨beyond "x", {}⟩ = [] := by
  rw [(holds_x resolve_beyond_x).targets]
  simp [resolve?_beyond_x]

theorem targets_beyond_m :
    Request.targets .standard tight [⟨"."⟩] ⟨beyond "m", {}⟩ =
      [⟨⟨"./d/x"⟩, {}⟩, ⟨beyond "x", {}⟩] := by
  rw [holds_beyond_m.targets]
  simp [resolve?_near, resolve?_beyond_m]

theorem resolve_near : tight.resolve ⟨"./d/x"⟩ = .ok ["d", "x"] := by decide

theorem targets_near :
    Request.targets .standard tight [⟨"."⟩] ⟨⟨"./d/x"⟩, {}⟩ = [⟨⟨"./d/yyyy"⟩, {}⟩] ∧
      Request.targets .standard tight [⟨"."⟩] ⟨⟨"./d/yyyy"⟩, {}⟩ = [] := by
  constructor
  · rw [(holds_x resolve_near).targets]
    decide
  · rw [tight_files.2.2.1.targets]
    rfl

theorem descending_near :
    Descending .standard tight [⟨"."⟩] tightRank [⟨⟨"./d/x"⟩, {}⟩, ⟨⟨"./d/yyyy"⟩, {}⟩] := by
  simp only [Descending, List.forall_mem_cons, targets_near.1, targets_near.2]
  decide

theorem descending_beyond :
    Descending .standard tight [⟨"."⟩] tightRank
      [⟨beyond "m", {}⟩, ⟨beyond "x", {}⟩, ⟨⟨"./d/x"⟩, {}⟩, ⟨⟨"./d/yyyy"⟩, {}⟩] := by
  refine List.forall_mem_cons.2 ⟨?_, List.forall_mem_cons.2 ⟨?_, fun r hr s hs => ?_⟩⟩
  · rw [targets_beyond_m, List.forall_mem_cons, List.forall_mem_singleton, resolve_beyond_m,
      resolve_beyond_x]
    exact ⟨⟨by simp, by decide⟩, by simp, by decide⟩
  · rw [targets_beyond_x]
    simp
  · obtain ⟨hmem, hdown⟩ := descending_near r hr s hs
    exact ⟨.tail _ (.tail _ hmem), hdown⟩

/-- The file is inlined with both its lines under the short path, and remembered so. Under the long
path its own inclusion is lost, and one line is left. -/
theorem loadRoot_not_inlines_tight :
    tight.Grounded ∧
    (∀ r s, Request.Reaches .standard tight [⟨"."⟩] ⟨beyond "m", {}⟩ r →
      Relation.TransGen (Request.Includes .standard tight [⟨"."⟩]) r s →
      tight.resolve r.path ≠ tight.resolve s.path) ∧
    (∀ r, Request.Reaches .standard tight [⟨"."⟩] ⟨beyond "m", {}⟩ r →
      r.KeepsMarker .standard tight) ∧
    ¬ ∃ d ds,
      Loading.start (Inclusion.loadRoot .standard tight [⟨"."⟩] {} (beyond "m"))
        (Collector.plain []) = (.ok d, .plain ds) ∧
      (∃ depth, inline .standard tight [⟨"."⟩] depth ⟨beyond "m", {}⟩ = some d.entries) ∧
      ∀ e ∈ ds, e.kind ≠ .circularInclusion := by
  have hw : tight.Grounded := ⟨[], by decide⟩
  have hmem := fun r => descending_beyond.enclosed.mem_of_reaches (r := r) (.head _)
  have hnear := fun r => descending_near.enclosed.mem_of_reaches (r := r) (.head _)
  have hmarker : ∀ r ∈ ([⟨⟨"./d/x"⟩, {}⟩, ⟨⟨"./d/yyyy"⟩, {}⟩] : List Request),
      r.KeepsMarker .standard tight ∧ r.Fits .standard tight := by
    simp only [List.forall_mem_cons]
    exact ⟨⟨(holds_x resolve_near).keepsMarker rfl, (holds_x resolve_near).fits (by decide)⟩,
      ⟨tight_files.2.2.1.keepsMarker rfl, tight_files.2.2.1.fits (by decide)⟩, by simp⟩
  refine ⟨hw, fun r s hr hs => descending_beyond.acyclic (hmem r hr) hs, fun r hr => ?_, ?_⟩
  · rcases List.mem_cons.1 (hmem r hr) with rfl | hr
    · exact holds_beyond_m.keepsMarker rfl
    rcases List.mem_cons.1 hr with rfl | hr
    · exact (holds_x resolve_beyond_x).keepsMarker rfl
    · exact (hmarker r hr).1
  · rintro ⟨loaded, ds, hrun, ⟨depth, hinline⟩, -⟩
    have hT := Tame.of_root hw (fun r s hr hs => descending_near.acyclic (hnear r hr) hs)
      (fun r hr => (hmarker r (hnear r hr)).1) (fun r hr => (hmarker r (hnear r hr)).2)
    obtain ⟨d, l₁, l₂, hd, hconfig, hl, ⟨h₁, -⟩, h₂, -⟩ := holds_beyond_m.pair
    have hsession : d.config.sessionOnly = {} := hconfig ▸ rfl
    have hsame : tight.identity (beyond "x") = tight.identity ⟨"./d/x"⟩ := by
      rw [(Workspace.identity_of_resolve hw resolve_beyond_x).1]
      decide
    have hother : ∀ s ∈ ([⟨⟨"./d/x"⟩, {}⟩, ⟨⟨"./d/yyyy"⟩, {}⟩] : List Request),
        tight.identity s.path ≠ tight.identity (beyond "m") := by
      rw [(Workspace.identity_of_resolve hw resolve_beyond_m).1]
      decide
    obtain ⟨e, hyields, hentries⟩ := load_twice (σ := Collector) hd (hconfig ▸ directive_plain) hl
      h₁ h₂ resolve?_near resolve?_beyond_m hsame hw hT (by rw [hsession]; exact .refl)
      (fun s hs => hother s (hnear s (hsession ▸ hs))) (by rw [hsession]; exact inline_near)
      (by simp)
    obtain ⟨es, hes, -⟩ := hyields.plain fun _ h => h.1
    obtain rfl : e = loaded := Except.ok.inj (congrArg Prod.fst (hes.symm.trans hrun))
    have hunique := inline_unique inline_beyond_m hinline
    rw [hentries] at hunique
    exact absurd hunique (by decide)

end SourcePrep
