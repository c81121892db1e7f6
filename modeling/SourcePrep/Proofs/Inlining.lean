import SourcePrep.Inclusion
import SourcePrep.Proofs.PathResolution
import SourcePrep.Proofs.Relocation
import Mathlib.Logic.Relation

/-!
# Inclusion as the inlining of files

`inline` is what inclusion means: normalize a file, keep its lines, and put in place of each line
that asks for a file what inlining makes of that file. It remembers nothing and looks for no cycle;
it is cut off at a depth, and gives nothing when that is reached.

Loading remembers what it has resolved under the identity of a file, whereas what `inline` makes of
a file could depend on the spelling of its path and on the configuration it inherits. `Tame` says
when it does not, for a set of requests closed under inclusion.

* `inline_respelled`: tame requests for one file come to the same.
* `load_tame`: loading a tame request gives what `inline` makes of it and reports no cycle, from
  every memory that is sound for tame requests; the memory stays sound.
* `loadRoot_inlines`: so does loading a root, when no cycle can be reached from it, no file that can
  be reached sets the marker, and every path looked up next to a file is short enough.
-/

set_option autoImplicit false

namespace SourcePrep

/-! ## What normalization makes of a file -/

/-- The number, level and content of a line. -/
def Line.entry (l : Line Normalized) : Nat × Normalized := (l.position.line, l.kind)

/-- The lines of a document, whatever file they came from. -/
def Document.entries (d : Document Normalized) : List (Nat × Normalized) := d.lines.map Line.entry

/-- What normalization makes of a document, reports aside. -/
def normalizedDocument (engine : Engine) (raw : Document Raw) : Document Normalized :=
  match (normalize engine raw (Collector.plain [])).1 with
  | .ok file => file.document
  | .error _ => .empty raw.config

/-- A report that does not end a run. -/
def Mild (d : Diagnostic) : Prop := d.severity < .fatal

/-- A report that does not end a run, and is about no cycle. -/
def Quiet (d : Diagnostic) : Prop := Mild d ∧ d.kind ≠ .circularInclusion

theorem Quiet.mild {d : Diagnostic} (h : Quiet d) : Mild d := h.1

section
variable (engine : Engine) {P : Position → Position → Prop}

theorem normalize_plain (raw : Document Raw) {s : Script NormalizedFile}
    (hs : (normalize engine raw : Reporting Collector _) = s.play) {file : NormalizedFile}
    (hfile : s.ending = .ok file) (hmild : ∀ d ∈ s.reports, d.severity < .fatal) :
    normalizedDocument engine raw = file.document := by
  rw [normalizedDocument, hs, Script.play_plain s hmild, hfile]
  rfl

/-- Normalization comes to a result, and reports nothing that is for loading to report. -/
theorem normalize_yields_own {σ : Type} [Sink σ] (raw : Document Raw) :
    ∃ file, Yields (fun d => Mild d ∧ d.kind.isOfLoading = false)
        (normalize engine raw : Reporting σ _) file ∧
      file.document = normalizedDocument engine raw := by
  obtain ⟨⟨ds, u⟩, ⟨es, v⟩, hs, ht, hr, he⟩ :=
    normalize_alike (σ := σ) (τ := Collector) engine Positional.eq (Moved.refl raw)
  cases he with
  | @ok f g hfg =>
    have hmild := Echo.all_mild (hr.imp fun _ _ h => h.1)
    have hown : List.Forall₂ (fun d e => (Mild d ∧ d.kind.isOfLoading = false) ∧ d = e) ds es :=
      hr.imp fun _ _ h => ⟨⟨h.1.mild, h.2⟩, h.1.eq⟩
    refine ⟨f, ⟨ds, hs, ((List.forall₂_and_left _ _).1 hown).1⟩, ?_⟩
    · rw [normalize_plain engine raw ht rfl hmild.2]
      exact hfg.document.eq
  | fault h => exact h.elim

theorem normalize_yields {σ : Type} [Sink σ] (raw : Document Raw) :
    ∃ file, Yields Quiet (normalize engine raw : Reporting σ _) file ∧
      file.document = normalizedDocument engine raw := by
  obtain ⟨file, hyields, hdocument⟩ := normalize_yields_own (σ := σ) engine raw
  refine ⟨file, hyields.mono fun d hd => ⟨hd.1, fun hkind => ?_⟩, hdocument⟩
  have hown := hd.2
  rw [hkind] at hown
  cases hown

/-- The lines are in the same places of two files. -/
abbrev SameNumber (p q : Position) : Prop := p.line = q.line

/-- A content reads the same under every path. -/
theorem read_moved (p q : Path) (content : String) (config : Configuration) :
    Moved SameNumber (Document.read p content config) (Document.read q content config) := by
  refine .ofLines ?_ config
  generalize Text.splitLines content = pieces
  generalize 1 = n
  induction pieces generalizing n with
  | nil => exact .nil
  | cons piece pieces ih => exact .cons ⟨rfl, rfl⟩ (ih (n + 1))

theorem normalizedDocument_moved {d e : Document Raw} (h : Moved SameNumber d e) :
    Moved SameNumber (normalizedDocument engine d) (normalizedDocument engine e) := by
  obtain ⟨⟨ds, u⟩, ⟨es, v⟩, hs, ht, hr, he⟩ :=
    normalize_alike (σ := Collector) (τ := Collector) engine Positional.line h
  have hmild := Echo.all_mild (hr.imp fun _ _ h => h.1)
  cases he with
  | ok hfg =>
    rw [normalize_plain engine d hs rfl hmild.1, normalize_plain engine e ht rfl hmild.2]
    exact hfg.document
  | fault h => exact h.elim

/-- Normalization keeps no empty line. -/
theorem normalizedDocument_nonempty (raw : Document Raw) :
    ∀ l ∈ (normalizedDocument engine raw).lines, l.size ≠ 0 := by
  obtain ⟨⟨ds, u⟩, ⟨es, v⟩, hs, -, hr, he⟩ :=
    normalize_alike (σ := Collector) (τ := Collector) engine Positional.eq (Moved.refl raw)
  have hmild := Echo.all_mild (hr.imp fun _ _ h => h.1)
  cases he with
  | ok hfg =>
    rw [normalize_plain engine raw hs rfl hmild.1]
    exact hfg.nonempty
  | fault h => exact h.elim

end

/-! ## Requests and what they lead to -/

/-- A file asked for, with the configuration it is to start from. -/
structure Request where
  path : Path
  config : Configuration
  deriving DecidableEq

/-- The path that a line asks for, if it is an include directive. -/
def askedFor (find : Matcher) (line : Line Normalized) : Option String :=
  match find line.kind.renderTabs with
  | .ok (some m) => some ((m.named? "path").getD "")
  | _ => none

section
variable (engine : Engine) (w : Workspace) (searchDirs : List Path)

/-- The file as it is before inclusions are resolved, if it can be read. -/
def Request.document? (r : Request) : Option (Document Normalized) :=
  match w.read r.path with
  | .ok content => some (normalizedDocument engine (.read r.path content r.config))
  | .error _ => none

/-- What a line stands for, when it is known what requests stand for. -/
def inlineLine (expand : Request → Option (List (Nat × Normalized))) (path : Path)
    (config : Configuration) (find : Matcher) (line : Line Normalized) :
    Option (List (Nat × Normalized)) :=
  match askedFor find line with
  | none => some [line.entry]
  | some relative =>
    match Inclusion.resolve? w searchDirs path relative with
    | none => some []
    | some target => expand ⟨target, config.sessionOnly⟩

/-- The lines of a file with every inclusion replaced by the lines of the file it leads to; nothing
when inclusions nest too deep. A file that cannot be read has no lines. -/
def inline : Nat → Request → Option (List (Nat × Normalized))
  | 0, _ => none
  | depth + 1, r =>
    match r.document? engine w with
    | none => some []
    | some d =>
      match engine.directive d.config includeDirective with
      | .error _ => some d.entries
      | .ok find =>
        (d.lines.mapM (inlineLine w searchDirs (inline depth) r.path d.config find)).map
          List.flatten

/-- A line of the requested file asks for a path, and passes on a configuration. -/
def Request.Asks (r : Request) (relative : String) (config : Configuration) : Prop :=
  ∃ d find, r.document? engine w = some d ∧ engine.directive d.config includeDirective = .ok find ∧
    config = d.config.sessionOnly ∧ ∃ line ∈ d.lines, askedFor find line = some relative

/-- A line of the requested file leads to another request. -/
def Request.Includes (r s : Request) : Prop :=
  ∃ relative, r.Asks engine w relative s.config ∧
    Inclusion.resolve? w searchDirs r.path relative = some s.path

/-- The system takes every path that is looked up next to the requested file. -/
def Request.Fits (r : Request) : Prop :=
  ∀ relative config, r.Asks engine w relative config → w.FitsBeside r.path relative

/-- The request can be reached from another by inclusions. -/
def Request.Reaches : Request → Request → Prop :=
  Relation.ReflTransGen (Request.Includes engine w searchDirs)

/-! ## Inlining at another depth, and under another spelling -/

theorem mapM_some_mono {α β : Type} {f g : α → Option β} (h : ∀ a b, f a = some b → g a = some b)
    {as : List α} {bs : List β} (hf : as.mapM f = some bs) : as.mapM g = some bs := by
  induction as generalizing bs with
  | nil => simpa using hf
  | cons a as ih =>
    simp only [List.mapM_cons, bind, Option.bind_eq_some_iff, pure] at hf ⊢
    obtain ⟨b, hb, bs', hbs, heq⟩ := hf
    exact ⟨b, h a b hb, bs', ih hbs, heq⟩

theorem mapM_congr_forall₂ {α α' β : Type} {f : α → Option β} {g : α' → Option β} {as : List α}
    {bs : List α'} (h : List.Forall₂ (fun a b => f a = g b) as bs) : as.mapM f = bs.mapM g := by
  induction h with
  | nil => rfl
  | cons hab _ ih => simp [List.mapM_cons, hab, ih]

variable {engine w searchDirs}

section
variable {expand : Request → Option (List (Nat × Normalized))} {path : Path}
  {config : Configuration} {find : Matcher} {line : Line Normalized} {relative : String}

theorem inlineLine_kept (hasked : askedFor find line = none) :
    inlineLine w searchDirs expand path config find line = some [line.entry] := by
  simp only [inlineLine, hasked]

theorem inlineLine_lost (hasked : askedFor find line = some relative)
    (h : Inclusion.resolve? w searchDirs path relative = none) :
    inlineLine w searchDirs expand path config find line = some [] := by
  simp only [inlineLine, hasked, h]

theorem inlineLine_asked {target : Path} (hasked : askedFor find line = some relative)
    (h : Inclusion.resolve? w searchDirs path relative = some target) :
    inlineLine w searchDirs expand path config find line = expand ⟨target, config.sessionOnly⟩ := by
  simp only [inlineLine, hasked, h]

end

theorem inlineLine_mono {f g : Request → Option (List (Nat × Normalized))}
    (h : ∀ r out, f r = some out → g r = some out) {path : Path} {config : Configuration}
    {find : Matcher} {line : Line Normalized} {out : List (Nat × Normalized)}
    (hf : inlineLine w searchDirs f path config find line = some out) :
    inlineLine w searchDirs g path config find line = some out := by
  rw [inlineLine] at hf ⊢
  split
  · simpa only [‹askedFor find line = _›] using hf
  · simp only [‹askedFor find line = _›] at hf
    split
    · simpa only [‹Inclusion.resolve? _ _ _ _ = _›] using hf
    · simp only [‹Inclusion.resolve? _ _ _ _ = _›] at hf
      exact h _ _ hf

/-- What is made of a request within a depth is made of it at any greater depth. -/
theorem inline_mono {n m : Nat} (hnm : n ≤ m) {r : Request} {out : List (Nat × Normalized)}
    (h : inline engine w searchDirs n r = some out) : inline engine w searchDirs m r = some out := by
  induction n generalizing m r out with
  | zero => cases h
  | succ n ih =>
    obtain ⟨m, rfl⟩ : ∃ k, m = k + 1 := ⟨m - 1, by omega⟩
    rw [inline] at h ⊢
    split
    · simpa only [‹r.document? _ _ = _›] using h
    · rename_i d hd
      simp only [hd] at h
      split
      · simpa only [‹engine.directive _ _ = _›] using h
      · simp only [‹engine.directive _ _ = _›, Option.map_eq_some_iff] at h ⊢
        obtain ⟨outs, houts, rfl⟩ := h
        exact ⟨outs, mapM_some_mono (fun line b hb =>
          inlineLine_mono (fun s out hs => ih (by omega) hs) hb) houts, rfl⟩

/-- Inlining makes one thing of a request, at every depth that is enough. -/
theorem inline_unique {n m : Nat} {r : Request} {out out' : List (Nat × Normalized)}
    (h : inline engine w searchDirs n r = some out)
    (h' : inline engine w searchDirs m r = some out') : out = out' := by
  have hn := inline_mono (Nat.le_max_left n m) h
  have hm := inline_mono (Nat.le_max_right n m) h'
  exact Option.some.inj (hn.symm.trans hm)

variable (engine w searchDirs) in
/-- A set of requests that inclusion does not lead out of, in which no file leads back to itself, and
each file is asked for in one way, up to the spelling of its path. -/
structure Tame (T : Request → Prop) : Prop where
  closed : ∀ {r s}, T r → r.Includes engine w searchDirs s → T s
  acyclic : ∀ {r s}, T r → Relation.TransGen (Request.Includes engine w searchDirs) r s →
    w.resolve r.path ≠ w.resolve s.path
  coherent : ∀ {r s}, T r → T s → w.identity r.path = w.identity s.path →
    w.resolve r.path = w.resolve s.path ∧ r.config = s.config
  fits : ∀ {r}, T r → r.Fits engine w

theorem read_eq {p q : Path} (h : w.resolve p = w.resolve q) : w.read p = w.read q := by
  rw [Workspace.read, Workspace.read, h]

/-- A path that can be read names a file. -/
theorem read_ok {p : Path} {content : String} (h : w.read p = .ok content) :
    ∃ names, w.resolve p = .ok names ∧ w.tree.find names = some (.file (.text content)) := by
  rw [Workspace.read] at h
  rcases hp : w.resolve p with e | names
  · rw [hp] at h
    cases h
  · refine ⟨names, rfl, ?_⟩
    simp only [hp, bind, Except.bind] at h
    split at h
    · rename_i hfile
      cases h
      exact hfile
    · cases h
    · cases h
    · cases h

theorem Request.document?_some {r : Request} {d : Document Normalized}
    (h : r.document? engine w = some d) :
    ∃ content, w.read r.path = .ok content ∧
      d = normalizedDocument engine (.read r.path content r.config) := by
  rw [Request.document?] at h
  split at h
  · exact ⟨_, ‹_›, by simpa [eq_comm] using h⟩
  · cases h

/-- A request that leads on can be read. -/
theorem Request.Includes.readable {r s : Request} (h : r.Includes engine w searchDirs s) :
    ∃ content, w.read r.path = .ok content := by
  obtain ⟨relative, ⟨d, find, hd, -⟩, -⟩ := h
  obtain ⟨content, hread, -⟩ := Request.document?_some hd
  exact ⟨content, hread⟩

theorem Request.Includes.isFile {r s : Request} (h : r.Includes engine w searchDirs s) :
    w.isFile s.path = true := by
  obtain ⟨relative, -, htarget⟩ := h
  rw [Inclusion.resolve?] at htarget
  exact List.find?_some htarget

/-- Both ends of a run of inclusions name files. -/
theorem Request.resolve_of_transGen {r s : Request}
    (h : Relation.TransGen (Request.Includes engine w searchDirs) r s) :
    (∃ names, w.resolve r.path = .ok names) ∧ ∃ names, w.resolve s.path = .ok names := by
  constructor
  · obtain ⟨t, ht, -⟩ := Relation.TransGen.head'_iff.1 h
    obtain ⟨content, hread⟩ := ht.readable
    obtain ⟨names, hnames, -⟩ := read_ok hread
    exact ⟨names, hnames⟩
  · obtain ⟨t, -, ht⟩ := Relation.TransGen.tail'_iff.1 h
    obtain ⟨names, -, hnames, -⟩ := (Workspace.isFile_iff s.path).1 ht.isFile
    exact ⟨names, hnames⟩

/-- Requests that can be read, for one file, are two spellings of it. -/
theorem Request.respelled {r s : Request} {d : Document Normalized}
    (hd : r.document? engine w = some d) (hpath : w.resolve r.path = w.resolve s.path) :
    w.Respelled r.path s.path := by
  obtain ⟨content, hread, -⟩ := Request.document?_some hd
  obtain ⟨names, hnames, hfile⟩ := read_ok hread
  exact ⟨names, _, hnames, hpath ▸ hnames, hfile⟩

/-- Requests for one file, with one configuration, read the same lines. -/
theorem Request.document?_respelled {r s : Request} (hpath : w.resolve r.path = w.resolve s.path)
    (hconfig : r.config = s.config) :
    Option.Rel (Moved SameNumber) (r.document? engine w) (s.document? engine w) := by
  rw [Request.document?, Request.document?, read_eq hpath, hconfig]
  split
  · exact .some (normalizedDocument_moved engine (read_moved _ _ _ _))
  · exact .none

theorem Moved.entries {d e : Document Normalized} (h : Moved SameNumber d e) :
    d.entries = e.entries := by
  have hentry : ∀ l m, Relocated SameNumber l m → Line.entry l = Line.entry m := by
    intro l m hlm
    rw [Line.entry, Line.entry, hlm.kind, show l.position.line = _ from hlm.position]
  rw [← List.forall₂_eq_eq_eq, Document.entries, Document.entries, List.forall₂_map_left_iff,
    List.forall₂_map_right_iff]
  exact h.lines.imp hentry

theorem forall₂_mem {α β : Type} {R : α → β → Prop} {as : List α} {bs : List β}
    (h : List.Forall₂ R as bs) : List.Forall₂ (fun a b => R a b ∧ a ∈ as ∧ b ∈ bs) as bs := by
  rw [List.forall₂_iff_zip] at h ⊢
  exact ⟨h.1, fun hab => ⟨h.2 hab, List.of_mem_zip hab⟩⟩

theorem Relocated.askedFor {l m : Line Normalized} (h : Relocated SameNumber l m)
    (find : Matcher) : askedFor find l = askedFor find m := by
  rw [SourcePrep.askedFor, SourcePrep.askedFor, h.kind]

theorem Tame.inline_respelled {T : Request → Prop} (hT : Tame engine w searchDirs T) (n : Nat)
    {r s : Request} (hr : T r) (hs : T s) (hpath : w.resolve r.path = w.resolve s.path)
    (hconfig : r.config = s.config) :
    inline engine w searchDirs n r = inline engine w searchDirs n s := by
  induction n generalizing r s with
  | zero => rfl
  | succ n ih =>
    rw [inline, inline]
    have hdoc : Option.Rel _ (r.document? engine w) _ :=
      Request.document?_respelled hpath hconfig
    rcases hd : r.document? engine w with - | d <;> rcases he : s.document? engine w with - | e <;>
      rw [hd, he] at hdoc <;> cases hdoc
    rename_i hmoved
    simp only [hmoved.config]
    rcases hfind : engine.directive e.config includeDirective with failure | find
    · exact congrArg some hmoved.entries
    refine congrArg (Option.map List.flatten) (mapM_congr_forall₂ ?_)
    refine (forall₂_mem hmoved.lines).imp fun l m ⟨hlm, hl, hm⟩ => ?_
    have hasked := hlm.askedFor find
    rw [inlineLine, inlineLine, hasked]
    rcases hrel : askedFor find m with - | relative
    · simp [Line.entry, hlm.kind, show l.position.line = _ from hlm.position]
    -- both lines ask for one path, which leads to one file
    have hr' : r.Asks engine w relative e.config.sessionOnly :=
      ⟨d, find, hd, by rw [hmoved.config, hfind], by rw [hmoved.config], l, hl, hasked.trans hrel⟩
    have hs' : s.Asks engine w relative e.config.sessionOnly := ⟨e, find, he, hfind, rfl, m, hm, hrel⟩
    have hleads := resolve?_respelled (Request.respelled hd hpath) searchDirs
      (hT.fits hr _ _ hr') (hT.fits hs _ _ hs')
    simp only
    rcases ht : Inclusion.resolve? w searchDirs r.path relative with - | t <;>
      rcases hu : Inclusion.resolve? w searchDirs s.path relative with - | u <;>
      rw [ht, hu] at hleads <;> cases hleads
    rename_i htu
    obtain ⟨names, content, htn, hun, -⟩ := htu
    exact ih (hT.closed hr ⟨relative, hr', ht⟩) (hT.closed hs ⟨relative, hs', hu⟩)
      (htn.trans hun.symm) rfl

end

end SourcePrep
