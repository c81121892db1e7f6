import SourcePrep.Normalization
import SourcePrep.Proofs.Script

/-!
# Normalization and positions

Positions pass through normalization without being looked at. `normalize_alike`: two raw documents
with the same lines at positions related by `P` normalize to documents with the same levels and
contents at positions related by `P`; the two runs report the same at positions related by `P`, end
in no fault and report nothing that is for loading to report.

With equality for `P` and two kinds of sink this says that what normalization does is settled before
the sink is known (`normalize_settled`). With "the same line number" for `P` it says that a file may be read under any of
its names.
-/

set_option autoImplicit false

namespace SourcePrep

/-- The same line at positions related by `P`. -/
structure Relocated {κ : Type} (P : Position → Position → Prop) (l m : Line κ) : Prop where
  position : P l.position m.position
  kind : l.kind = m.kind

/-- The relations between positions that survive the passage from a line to its file. -/
structure Positional (P : Position → Position → Prop) : Prop where
  nowhere : P .nowhere .nowhere
  wholeFile : ∀ {p q : Position}, P p q → P (.wholeFile p.source) (.wholeFile q.source)

theorem Positional.eq : Positional Eq := ⟨rfl, fun h => by rw [h]⟩

theorem Positional.line : Positional fun p q => p.line = q.line := ⟨rfl, fun _ => rfl⟩

/-- The documents have the same lines, at positions related by `P`, and the same configuration. -/
structure Moved {κ : Type} (P : Position → Position → Prop) (d e : Document κ) : Prop where
  lines : List.Forall₂ (Relocated P) d.lines e.lines
  config : d.config = e.config
  offsets : d.offsets = e.offsets

/-- The first lines correspond, if there are any. -/
theorem Moved.head {κ : Type} {P : Position → Position → Prop} {d e : Document κ}
    (h : Moved P d e) :
    (d.lines = [] ∧ e.lines = []) ∨
      ∃ l m ls ms, d.lines = l :: ls ∧ e.lines = m :: ms ∧ Relocated P l m := by
  obtain ⟨hl, -, -⟩ := h
  rcases hd : d.lines with - | ⟨l, ls⟩ <;> rcases he : e.lines with - | ⟨m, ms⟩ <;>
    rw [hd, he] at hl <;> cases hl
  · exact .inl ⟨rfl, rfl⟩
  · exact .inr ⟨l, m, ls, ms, rfl, rfl, ‹_›⟩

theorem Moved.refl {κ : Type} (d : Document κ) : Moved Eq d d :=
  ⟨List.forall₂_same.2 fun _ _ => ⟨rfl, rfl⟩, rfl, rfl⟩

theorem Moved.eq {κ : Type} {d e : Document κ} (h : Moved Eq d e) : d = e := by
  obtain ⟨hl, hc, ho⟩ := h
  have hl : List.Forall₂ Eq d.lines e.lines := hl.imp fun l m h => by
    obtain ⟨p, k⟩ := l
    obtain ⟨q, k'⟩ := m
    obtain ⟨rfl, rfl⟩ := h
    rfl
  rw [List.forall₂_eq_eq_eq] at hl
  obtain ⟨lines, config, offsets⟩ := d
  obtain ⟨lines', config', offsets'⟩ := e
  simp_all

section
variable {κ : Type} [LineKind κ] {P : Position → Position → Prop}

theorem offsetsFrom_relocated {ls ms : List (Line κ)} (h : List.Forall₂ (Relocated P) ls ms)
    (total : Nat) : Document.offsetsFrom total ls = Document.offsetsFrom total ms := by
  induction h generalizing total with
  | nil => rfl
  | cons h _ ih => simp [Document.offsetsFrom, Line.size, h.kind, ih]

theorem filter_relocated {ls ms : List (Line κ)} (h : List.Forall₂ (Relocated P) ls ms) :
    List.Forall₂ (Relocated P) (ls.filter fun l => l.size ≠ 0) (ms.filter fun m => m.size ≠ 0) := by
  refine List.rel_filter (fun l m hlm => ?_) h
  have hs : l.size = m.size := congrArg LineKind.size hlm.kind
  simp only [hs]

theorem Moved.ofLines {ls ms : List (Line κ)} (h : List.Forall₂ (Relocated P) ls ms)
    (config : Configuration) :
    Moved P (Document.ofLines ls config) (Document.ofLines ms config) := by
  refine ⟨filter_relocated h, rfl, ?_⟩
  simp only [Document.ofLines]
  rw [offsetsFrom_relocated (filter_relocated h)]

end

/-- Diagnostics of this kind come from loading, and are about files. -/
def DiagnosticKind.isOfLoading : DiagnosticKind → Bool
  | missingFile | errorLoadingFile | circularInclusion | unresolvedInclusionPath => true
  | _ => false

/-- Two normalizations that say the same at positions related by `P`. -/
def Accord.relocated (P : Position → Position → Prop) : Accord where
  report d e := Echo P d e ∧ d.kind.isOfLoading = false
  fault _ := False

/-! ## Lines -/

section
variable {σ τ : Type} [Sink σ] [Sink τ] {P : Position → Position → Prop}

theorem rounding_mild {line : Measured} {tabwidth : Nat} {severity : Severity}
    (h : (line.indentation tabwidth).rounding = some severity) : severity < .fatal := by
  simp only [Measured.indentation] at h
  split at h
  · cases h
  · split at h <;> (cases h; decide)

theorem echo_indentationRounded {spaces tabwidth : Nat} {severity : Severity} {p q : Position}
    (h : P p q) (hs : severity < .fatal) :
    Echo P (.indentationRounded spaces tabwidth severity p)
      (.indentationRounded spaces tabwidth severity q) :=
  ⟨rfl, h, hs⟩

theorem lineNormalize_alike {l m : Line Measured} (h : Relocated P l m) (tabwidth : Nat) :
    Alike (.relocated P) (Relocated P) (l.normalize tabwidth : Reporting σ _)
      (m.normalize tabwidth : Reporting τ _) := by
  obtain ⟨p, k⟩ := l
  obtain ⟨q, k'⟩ := m
  obtain ⟨hp, rfl⟩ := h
  simp only [Line.normalize]
  cases hr : (k.indentation tabwidth).rounding with
  | none => exact .pure ⟨hp, rfl⟩
  | some severity =>
    exact .andThen (.report ⟨echo_indentationRounded hp (rounding_mild hr), rfl⟩) (.pure ⟨hp, rfl⟩)

theorem normalizeLines_alike {d e : Document Measured} (h : Moved P d e) (tabwidth : Nat) :
    Alike (.relocated P) (fun d e => Moved P d e ∧ ∀ l ∈ d.lines, l.size ≠ 0)
      (d.normalizeLines tabwidth : Reporting σ _) (e.normalizeLines tabwidth : Reporting τ _) := by
  refine (Alike.mapM h.lines fun l m hlm => lineNormalize_alike hlm tabwidth).bind
    fun ls ms hlm => .pure ⟨?_, fun l hl => by simpa using (List.mem_filter.1 hl).2⟩
  rw [h.config]
  exact .ofLines hlm _

theorem Moved.measure {d e : Document Raw} (h : Moved P d e) : Moved P d.measure e.measure := by
  rw [Document.measure, Document.measure, h.config]
  refine .ofLines ?_ _
  rw [List.forall₂_map_left_iff, List.forall₂_map_right_iff]
  exact h.lines.imp fun l m hlm => ⟨hlm.position, by simp [Line.measure, hlm.kind]⟩

end

/-! ## The preamble -/

section
variable {σ τ : Type} [Sink σ] [Sink τ] {P : Position → Position → Prop} (engine : Engine)

theorem configMatcher_alike (config : Configuration) {p q : Position} (h : P p q) :
    Alike (.relocated P) Eq (Normalization.configMatcher engine config p : Reporting σ _)
      (Normalization.configMatcher engine config q : Reporting τ _) := by
  unfold Normalization.configMatcher
  cases engine.directive config configDirective with
  | ok matcher => exact .pure rfl
  | error failure =>
    exact .andThen (.report ⟨(Echo.ofKind h).withCauses _, rfl⟩) (.pure rfl)

theorem applySetting_alike (config : Configuration) (name value : String) {p q : Position}
    (h : P p q) :
    Alike (.relocated P) Eq (Normalization.applySetting config name value p : Reporting σ _)
      (Normalization.applySetting config name value q : Reporting τ _) := by
  unfold Normalization.applySetting
  cases Setting.ofKey? name with
  | none => exact .andThen (.report ⟨Echo.ofKind h, rfl⟩) (.pure rfl)
  | some setting =>
    simp only
    cases config.set? setting value with
    | none => exact .andThen (.report ⟨Echo.ofKind h, rfl⟩) (.pure rfl)
    | some config => exact .pure rfl

/-- The configuration after the preamble and the lines that are left. -/
def SameRest (P : Position → Position → Prop) (a b : Configuration × List (Line Raw)) : Prop :=
  a.1 = b.1 ∧ List.Forall₂ (Relocated P) a.2 b.2

theorem readPreamble_alike {ls ms : List (Line Raw)} (h : List.Forall₂ (Relocated P) ls ms)
    (config : Configuration) (matcher : Option Matcher) :
    Alike (.relocated P) (SameRest P)
      (Normalization.readPreamble engine ls config matcher : Reporting σ _)
      (Normalization.readPreamble engine ms config matcher : Reporting τ _) := by
  induction h generalizing config matcher with
  | nil => exact .pure ⟨rfl, .nil⟩
  | @cons l m ls ms hlm hrest ih =>
    have hcons : List.Forall₂ (Relocated P) (l :: ls) (m :: ms) := .cons hlm hrest
    obtain ⟨p, k⟩ := l
    obtain ⟨q, k'⟩ := m
    obtain ⟨hp, rfl⟩ := hlm
    unfold Normalization.readPreamble
    by_cases hb : k.isBlank
    · simp only [hb, if_true]
      exact ih config matcher
    · simp only [hb]
      cases matcher with
      | none => exact .pure ⟨rfl, hcons⟩
      | some find =>
        simp only
        cases find k.text with
        | error failure =>
          exact .andThen (.report ⟨Echo.ofKind hp, rfl⟩) (.pure ⟨rfl, hcons⟩)
        | ok found =>
          cases found with
          | none => exact .pure ⟨rfl, hcons⟩
          | some m =>
            -- only a new marker makes the directives of the next lines look different
            refine (applySetting_alike config _ _ hp).bind fun a b hab => ?_
            subst hab
            obtain ⟨config', setting⟩ := a
            match setting with
            | some .marker =>
              exact (configMatcher_alike engine config' hp).bind fun _ _ hm => hm ▸ ih config' _
            | some .tabwidth => exact ih config' _
            | none => exact ih config' _

/-! ## The tabwidth and the whole -/

theorem spacesDivisor_relocated {ls ms : List (Line Measured)}
    (h : List.Forall₂ (Relocated P) ls ms) :
    Normalization.spacesDivisor ls = Normalization.spacesDivisor ms := by
  have hmap : ls.map (fun l => l.kind.spaces) = ms.map fun m => m.kind.spaces := by
    induction h with
    | nil => rfl
    | cons hlm _ ih => simp [hlm.kind, ih]
  have hfold : ∀ xs : List (Line Measured), Normalization.spacesDivisor xs =
      (xs.map fun l => l.kind.spaces).foldl Nat.gcd 0 := fun xs => by
    rw [List.foldl_map, Normalization.spacesDivisor]
  rw [hfold, hfold, hmap]

theorem inferTabwidth_alike (hP : Positional P) {d e : Document Measured} (h : Moved P d e) :
    Alike (.relocated P) Eq (Normalization.inferTabwidth d : Reporting σ _)
      (Normalization.inferTabwidth e : Reporting τ _) := by
  have hn := spacesDivisor_relocated h.lines
  have hempty : d.isEmpty = e.isEmpty := by
    obtain ⟨hd, he⟩ | ⟨l, m, ls, ms, hd, he, -⟩ := h.head
    · simp [Document.isEmpty, hd, he]
    · simp [Document.isEmpty, hd, he]
  have horigin : P d.origin e.origin := by
    unfold Document.origin
    obtain ⟨hd, he⟩ | ⟨l, m, ls, ms, hd, he, hlm⟩ := h.head
    · simpa only [hd, he] using hP.nowhere
    · simpa only [hd, he] using hP.wholeFile hlm.position
  unfold Normalization.inferTabwidth
  simp only [hn, hempty]
  by_cases h0 : Normalization.spacesDivisor e.lines = 0
  · simp only [h0, if_true]
    exact .pure rfl
  · simp only [h0, if_false]
    by_cases he : e.isEmpty
    · simp only [he]
      exact .pure rfl
    · simp only [he]
      exact .andThen (.report ⟨Echo.ofKind horigin, rfl⟩) (.pure rfl)

/-- The normalized documents have the same levels and contents, in lines that are not empty, and were
made with one tabwidth. -/
structure SameFile (P : Position → Position → Prop) (f g : NormalizedFile) : Prop where
  document : Moved P f.document g.document
  nonempty : ∀ l ∈ f.document.lines, l.size ≠ 0
  tabwidth : f.tabwidth = g.tabwidth

theorem Moved.withConfig {κ : Type} {d e : Document κ} (h : Moved P d e) (config : Configuration) :
    Moved P (d.withConfig config) (e.withConfig config) :=
  ⟨h.lines, rfl, h.offsets⟩

theorem normalize_alike (hP : Positional P) {d e : Document Raw} (h : Moved P d e) :
    Alike (.relocated P) (SameFile P) (normalize engine d : Reporting σ _)
      (normalize engine e : Reporting τ _) := by
  have hfirst : P (Normalization.firstPosition d) (Normalization.firstPosition e) := by
    unfold Normalization.firstPosition
    obtain ⟨hd, he⟩ | ⟨l, m, ls, ms, hd, he, hlm⟩ := h.head
    · simpa only [hd, he] using hP.nowhere
    · simpa only [hd, he] using hlm.position
  unfold normalize
  rw [h.config]
  refine (configMatcher_alike engine e.config hfirst).bind fun matcher _ hm => ?_
  subst hm
  refine (readPreamble_alike engine h.lines e.config matcher).bind fun a b hab => ?_
  obtain ⟨config, ls⟩ := a
  obtain ⟨config', ms⟩ := b
  obtain ⟨rfl, hrest⟩ := hab
  have hmeasured := (Moved.ofLines hrest e.config).measure
  simp only
  by_cases hdef : config.isDefined .tabwidth
  · simp only [hdef, if_true]
    exact (normalizeLines_alike hmeasured _).bind fun _ _ hd =>
      .pure ⟨hd.1.withConfig _, hd.2, rfl⟩
  · simp only [hdef]
    refine (inferTabwidth_alike hP hmeasured).bind fun n _ hn => ?_
    subst hn
    exact (normalizeLines_alike hmeasured _).bind fun _ _ hd =>
      .pure ⟨hd.1.withConfig _, hd.2, rfl⟩

theorem normalize_settled (d : Document Raw) :
    Settled (normalize engine d : Reporting σ _) (normalize engine d : Reporting τ _) := by
  refine (normalize_alike engine Positional.eq (.refl d)).mono (fun _ _ h => h.1)
    (fun _ _ => trivial) fun f g h => ?_
  obtain ⟨d, n⟩ := f
  obtain ⟨e, m⟩ := g
  obtain ⟨hd, -, rfl⟩ := h
  rw [show d = e from hd.eq]

end

end SourcePrep
