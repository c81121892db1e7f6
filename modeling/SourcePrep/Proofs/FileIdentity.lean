import SourcePrep.Proofs.PathIdentity

/-!
# Identities as names of files

A file is remembered under its identity, which is made from the text of a path by cancelling `.` and
`..`. That is good enough in a tree without links, because cancelling goes the way that the system
goes.

* `identity_eq_ofNames`: every identity spells out names from the root, and is read back as those
  names (`components_ofNames`).
* `identity_faithful`: two paths that name something have one identity exactly when they name the
  same thing, and an identity is a path in normal form.
-/

set_option autoImplicit false

namespace SourcePrep

namespace Path

/-! ## Reading a spelled path -/

section
variable {names : List String} (h : ∀ n ∈ names, Spellable n)
include h

theorem toList_ofSpellable :
    (ofNames names).text.toList = '/' :: ['/'].intercalate (names.map String.toList) :=
  toList_ofNames fun n hn => (h n hn).proper

theorem isAbsolute_ofNames : (ofNames names).isAbsolute = true := by
  rw [isAbsolute, toList_ofSpellable h]
  rfl

/-- The parts of a spelled path are its names, behind the root. -/
theorem mem_segments_ofNames {part : List Char} (hpart : part ∈ segments (ofNames names).text.toList) :
    part = [] ∨ ∃ n ∈ names, part = n.toList := by
  rw [toList_ofSpellable h, show '/' :: ['/'].intercalate (names.map String.toList) =
    [] ++ '/' :: ['/'].intercalate (names.map String.toList) from rfl, segments_append_slash,
    List.mem_append] at hpart
  rcases hpart with hpart | hpart
  · exact .inl (by simpa [segments] using hpart)
  · by_cases hne : names = []
    · subst hne
      exact .inl (by simpa [segments] using hpart)
    · rw [segments_intercalate (by simpa using hne)] at hpart
      · obtain ⟨n, hn, rfl⟩ := List.mem_map.1 hpart
        exact .inr ⟨n, hn, rfl⟩
      · intro part hpart
        obtain ⟨n, hn, rfl⟩ := List.mem_map.1 hpart
        exact (h n hn).1

theorem components_ofNames : (ofNames names).components = .root :: names.map .name := by
  have hread : (names.map String.toList).filterMap Component.ofSegment? = names.map .name := by
    induction names with
    | nil => rfl
    | cons n names ih =>
      obtain ⟨hn, hnames⟩ := List.forall_mem_cons.1 h
      rw [List.map_cons, List.filterMap_cons, hn.2, ih hnames]
      rfl
  rw [components, toList_ofSpellable h]
  simp only
  by_cases hne : names = []
  · subst hne
    rfl
  · rw [segments_intercalate (by simpa using hne), hread]
    intro part hpart
    obtain ⟨n, hn, rfl⟩ := List.mem_map.1 hpart
    exact (h n hn).1

end

end Path

/-! ## Cancelling, whatever the steps lead to -/

/-- Cancelled from behind the root, steps leave the root and names of theirs. -/
theorem foldl_cancelStep_steps (names : List String) (steps : List Segment) :
    ∃ left : List String,
      (steps.map Segment.component).foldl Path.cancelStep (.root :: names.map .name).reverse =
        (.root :: left.map .name).reverse ∧
      ∀ n ∈ left, n ∈ names ∨ .down n ∈ steps := by
  induction steps generalizing names with
  | nil => exact ⟨names, rfl, fun n hn => .inl hn⟩
  | cons step steps ih =>
    cases step with
    | here =>
      obtain ⟨left, hleft, hfrom⟩ := ih names
      exact ⟨left, hleft, fun n hn => (hfrom n hn).imp_right (List.mem_cons_of_mem _)⟩
    | up =>
      -- the last name is taken back, but never the root
      obtain ⟨left, hleft, hfrom⟩ := ih names.dropLast
      refine ⟨left, ?_, fun n hn =>
        (hfrom n hn).imp (fun h => List.dropLast_subset _ h) (List.mem_cons_of_mem _)⟩
      rw [← hleft]
      rcases List.eq_nil_or_concat names with rfl | ⟨front, last, rfl⟩
      · rfl
      · simp [Segment.component, Path.cancelStep]
    | down name =>
      obtain ⟨left, hleft, hfrom⟩ := ih (names ++ [name])
      refine ⟨left, ?_, fun n hn => ?_⟩
      · rw [← hleft]
        simp [Segment.component, Path.cancelStep]
      · rcases hfrom n hn with h | h
        · rcases List.mem_append.1 h with h | h
          · exact .inl h
          · rw [List.mem_singleton.1 h]
            exact .inr List.mem_cons_self
        · exact .inr (List.mem_cons_of_mem _ h)

namespace Workspace

variable {w : Workspace}

/-- An absolute directory that is spelled without `..` is spelled without detours. -/
theorem Grounded.of_absolute (habs : w.workingDir.isAbsolute = true)
    (hup : .parent ∉ w.workingDir.components) : w.Grounded := by
  obtain ⟨body, hbody⟩ := List.head?_eq_some_iff.1 (of_decide_eq_true habs)
  have hcomponents : w.workingDir.components =
      .root :: (Path.segments body).filterMap Path.Component.ofSegment? := by
    simp only [Path.components, hbody]
  rw [hcomponents, List.mem_cons, not_or] at hup
  suffices hnames : ∀ parts : List (List Char),
      .parent ∉ parts.filterMap Path.Component.ofSegment? →
      ∃ names : List String, parts.filterMap Path.Component.ofSegment? = names.map .name by
    obtain ⟨names, hnames⟩ := hnames _ hup.2
    exact ⟨names, by rw [hcomponents, hnames]⟩
  intro parts
  induction parts with
  | nil => exact fun _ => ⟨[], rfl⟩
  | cons part parts ih =>
    rcases Path.part_cases part with ⟨-, hc, -⟩ | ⟨-, hc, -⟩ | ⟨-, hc, -⟩ | ⟨hc, -⟩
    · simpa [hc] using ih
    · simpa [hc] using ih
    · simp [hc]
    · intro hup
      simp only [List.filterMap_cons, hc, List.mem_cons, not_or] at hup ⊢
      obtain ⟨names, hnames⟩ := ih hup.2
      exact ⟨String.ofList part :: names, by rw [hnames]; rfl⟩

/-- An identity spells out names from the root, whether or not something is there. -/
theorem identity_eq_ofNames (hw : w.Grounded) {p : Path} (hp : p.text ≠ "") :
    ∃ names, w.identity p = .ofNames names ∧ ∀ n ∈ names, Path.Spellable n := by
  obtain ⟨home, hhome⟩ := hw
  have hspellable : ∀ n ∈ home, Path.Spellable n := fun n hn =>
    Path.spellable_of_component (p := w.workingDir) (by
      rw [hhome]
      exact List.mem_cons_of_mem _ (List.mem_map_of_mem hn))
  have hfull : p.text.isEmpty = false := by simpa [String.isEmpty_iff] using hp
  rw [identity, Path.identity, hfull, if_neg Bool.false_ne_true]
  by_cases habs : p.isAbsolute = true
  · obtain ⟨names, hnames, hfrom⟩ := foldl_cancelStep_steps [] p.steps
    refine ⟨names, ?_, fun n hn => Path.spellable_of_step ((hfrom n hn).resolve_left (by simp))⟩
    rw [List.map_nil, List.reverse_singleton] at hnames
    rw [if_pos habs, Path.cancel, foldl_cancelStep_components, if_pos habs, hnames,
      List.reverse_reverse, Path.ofNames]
  · obtain ⟨names, hnames, hfrom⟩ := foldl_cancelStep_steps home p.steps
    refine ⟨names, ?_, fun n hn => (hfrom n hn).elim (hspellable n) Path.spellable_of_step⟩
    have hhomefold : w.workingDir.components.foldl Path.cancelStep [] =
        (.root :: home.map .name).reverse := by
      rw [hhome, List.foldl_cons, foldl_cancelStep_names]
      simp [Path.cancelStep]
    rw [if_neg habs, Path.cancel, List.foldl_append, foldl_cancelStep_components p, if_neg habs,
      hhomefold, hnames, List.reverse_reverse, Path.ofNames]

/-- A path that spells out names is its own identity. -/
theorem identity_ofNames (w : Workspace) {names : List String}
    (h : ∀ n ∈ names, Path.Spellable n) : w.identity (.ofNames names) = .ofNames names := by
  have hfull : (Path.ofNames names).text.isEmpty = false := by
    rw [Bool.eq_false_iff, ne_eq, String.isEmpty_iff, ← String.toList_inj,
      Path.toList_ofSpellable h]
    simp
  rw [identity, Path.identity, hfull, if_neg Bool.false_ne_true, if_pos (Path.isAbsolute_ofNames h),
    Path.components_ofNames h, Path.cancel, List.foldl_cons, foldl_cancelStep_names]
  simp [Path.cancelStep, Path.ofNames]

/-! ## Files and directories -/

/-- Both paths lead to one place in the tree, and something is there. -/
def SameNode (w : Workspace) (p q : Path) : Prop :=
  ∃ names t, w.resolve p = .ok names ∧ w.resolve q = .ok names ∧ w.tree.find names = some t

theorem isThere_iff (p : Path) : w.isThere p = true ↔ w.SameNode p p := by
  rw [isThere, find?, SameNode]
  rcases w.resolve p with e | names
  · simp [Except.toOption]
  · simp [Except.toOption, Option.isSome_iff_exists]

/-- The identity of what is there is a faithful name for it: paths to one thing share it, and paths
to different things do not. Every identity is absolute, has no `.` and no `..` in it, and is its own
identity. -/
theorem identity_faithful (habs : w.workingDir.isAbsolute = true)
    (hup : .parent ∉ w.workingDir.components) :
    (∀ p q : Path, w.isThere p = true → w.isThere q = true →
      (w.identity p = w.identity q ↔ w.SameNode p q)) ∧
    ∀ p : Path, p.text ≠ "" →
      (w.identity p).isAbsolute = true ∧
      (∀ part ∈ Path.segments (w.identity p).text.toList, part ≠ ['.'] ∧ part ≠ ['.', '.']) ∧
      w.identity (w.identity p) = w.identity p := by
  have hw : w.Grounded := .of_absolute habs hup
  constructor
  · intro p q hp hq
    obtain ⟨ns, t, hns, -, ht⟩ := (isThere_iff p).1 hp
    obtain ⟨ms, -, hms, -, -⟩ := (isThere_iff q).1 hq
    constructor
    · intro hid
      rw [← resolve_eq_of_identity hw hns hms hid] at hms
      exact ⟨ns, t, hns, hms, ht⟩
    · rintro ⟨names, -, hpn, hqn, -⟩
      rw [(identity_of_resolve hw hpn).1, (identity_of_resolve hw hqn).1]
  · intro p hp
    obtain ⟨names, hnames, hspellable⟩ := identity_eq_ofNames hw hp
    rw [hnames]
    refine ⟨Path.isAbsolute_ofNames hspellable, fun part hpart => ?_,
      identity_ofNames w hspellable⟩
    rcases Path.mem_segments_ofNames hspellable hpart with rfl | ⟨n, hn, rfl⟩
    · simp
    · have hread := (hspellable n hn).2
      constructor <;> rintro hdots <;> rw [hdots] at hread <;> cases hread

/-- A file two directories below the root, next to an empty directory. -/
def belowHome : Workspace where
  tree := .directory [
    ("home", .directory [
      ("u", .directory [
        ("x", .directory []),
        ("f", .file (.text "1\n"))])])]
  workingDir := ⟨"/home/./u/"⟩

/-- Detours through the empty directory and through the root lead to the same file; a path to nothing
has an identity all the same. -/
theorem identity_faithful_belowHome :
    belowHome.SameNode ⟨"x/..//./f"⟩ ⟨"/../home/../home/u/f"⟩ ∧
    ¬ belowHome.SameNode ⟨"x/..//./f"⟩ ⟨"x/."⟩ ∧
    (belowHome.identity ⟨"y/../../../.."⟩).isAbsolute = true ∧
    belowHome.identity (belowHome.identity ⟨"y/../../../.."⟩) =
      belowHome.identity ⟨"y/../../../.."⟩ := by
  obtain ⟨hsame, hnormal⟩ := identity_faithful (w := belowHome) (by decide) (by decide)
  refine ⟨(hsame _ _ (by decide) (by decide)).1 (by decide),
    fun h => absurd ((hsame _ _ (by decide) (by decide)).2 h) (by decide), ?_⟩
  obtain ⟨habs, -, hself⟩ := hnormal ⟨"y/../../../.."⟩ (by decide)
  exact ⟨habs, hself⟩

end Workspace

end SourcePrep
