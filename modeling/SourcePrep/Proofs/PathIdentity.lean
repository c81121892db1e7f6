import SourcePrep.Workspace
import Mathlib.Data.List.Induction
import Mathlib.Tactic.Common

/-!
# The identity of a path and what the path names

A path is followed step by step through the tree; its identity is made from its text alone. In a
workspace without links the two agree: the identity of a path that names something spells out the
names that lead there (`identity_of_resolve`), so spellings with one identity name one thing
(`resolve_eq_of_identity`).
-/

set_option autoImplicit false

namespace SourcePrep

namespace Path

/-! ## The parts of a path -/

theorem segments_eq_splitOn (cs : List Char) : segments cs = cs.splitOn '/' := by
  induction cs with
  | nil => rfl
  | cons c cs ih =>
    rw [List.splitOn_cons_eq_if_modifyHead, ← ih]
    simp only [segments, List.foldr_cons]
    by_cases hc : c = '/'
    · simp [hc]
    · rw [if_neg hc, if_neg (by simpa using hc)]
      have hne : List.splitOn '/' cs ≠ [] := List.splitOn_ne_nil _ _
      rw [← ih, segments] at hne
      split
      · rename_i h
        exact absurd h hne
      · rename_i h
        simp [h]

theorem segments_ne_nil (cs : List Char) : segments cs ≠ [] := by
  rw [segments_eq_splitOn]
  exact List.splitOn_ne_nil _ _

theorem segments_append_slash (a b : List Char) :
    segments (a ++ '/' :: b) = segments a ++ segments b := by
  simp [segments_eq_splitOn, List.splitOn_append_cons_self]

theorem intercalate_segments (cs : List Char) : ['/'].intercalate (segments cs) = cs := by
  rw [segments_eq_splitOn, List.intercalate_splitOn]

theorem not_mem_segments {cs part : List Char} (h : part ∈ segments cs) : '/' ∉ part := by
  induction cs generalizing part with
  | nil =>
    rw [segments_eq_splitOn, List.splitOn_nil, List.mem_singleton] at h
    simp [h]
  | cons c cs ih =>
    rw [segments_eq_splitOn, List.splitOn_cons_eq_if_modifyHead, ← segments_eq_splitOn] at h
    split at h
    · rcases List.mem_cons.1 h with rfl | h
      · simp
      · exact ih h
    · rename_i hc
      rcases hs : segments cs with - | ⟨first, rest⟩
      · exact absurd hs (segments_ne_nil cs)
      · rw [hs, List.modifyHead_cons, List.mem_cons] at h
        rcases h with rfl | h
        · simpa [eq_comm] using ⟨by simpa using hc, ih (by simp [hs])⟩
        · exact ih (by simp [hs, h])

theorem segments_intercalate {parts : List (List Char)} (hne : parts ≠ [])
    (h : ∀ part ∈ parts, '/' ∉ part) : segments (['/'].intercalate parts) = parts := by
  rw [segments_eq_splitOn, List.splitOn_intercalate _ h hne]

/-- The text of the first parts is the start of the text of all. -/
theorem intercalate_start (front rest : List (List Char)) :
    ['/'].intercalate front <+: ['/'].intercalate (front ++ rest) := by
  induction front with
  | nil => exact List.nil_prefix
  | cons f front ih =>
    rcases front with - | ⟨g, front⟩
    · rcases rest with - | ⟨r, rest⟩
      · exact List.prefix_rfl
      · simp
    · simp only [List.cons_append, List.intercalate_cons_cons] at ih ⊢
      exact (List.prefix_append_right_inj _).2 ih

theorem intercalate_concat {front : List (List Char)} (h : front ≠ []) (last : List Char) :
    ['/'].intercalate (front ++ [last]) = ['/'].intercalate front ++ '/' :: last := by
  induction front with
  | nil => exact absurd rfl h
  | cons f front ih =>
    rcases front with - | ⟨g, front⟩
    · simp
    · simp only [List.cons_append, List.intercalate_cons_cons] at ih ⊢
      rw [ih (by simp)]
      simp

/-- A text of parts ends as its last part does. -/
theorem getLast?_intercalate (front : List (List Char)) {last : List Char} (h : last ≠ []) :
    (['/'].intercalate (front ++ [last])).getLast? = last.getLast? := by
  rcases front with - | ⟨f, front⟩
  · simp
  · rw [intercalate_concat (by simp), List.getLast?_append, List.getLast?_cons]
    rcases hl : last.getLast? with - | c
    · exact absurd (List.getLast?_eq_none_iff.1 hl) h
    · rfl

/-! ## Parts and steps -/

/-- The four kinds of part: nothing, a dot, two dots, and a name. -/
theorem part_cases (part : List Char) :
    (part = [] ∧ Component.ofSegment? part = none ∧ Segment.ofPart? part = none) ∨
    (part = ['.'] ∧ Component.ofSegment? part = none ∧ Segment.ofPart? part = some .here) ∨
    (part = ['.', '.'] ∧ Component.ofSegment? part = some .parent ∧
      Segment.ofPart? part = some .up) ∨
    (Component.ofSegment? part = some (.name (String.ofList part)) ∧
      Segment.ofPart? part = some (.down (String.ofList part))) := by
  by_cases h0 : part = []
  · exact .inl ⟨h0, by rw [h0]; rfl, by rw [h0]; rfl⟩
  by_cases h1 : part = ['.']
  · exact .inr (.inl ⟨h1, by rw [h1]; rfl, by rw [h1]; rfl⟩)
  by_cases h2 : part = ['.', '.']
  · exact .inr (.inr (.inl ⟨h2, by rw [h2]; rfl, by rw [h2]; rfl⟩))
  · exact .inr (.inr (.inr ⟨Component.ofSegment?.eq_4 part h0 h1 h2,
      Segment.ofPart?.eq_4 part h0 h1 h2⟩))

end Path

/-- The component that a step stands for. -/
def Segment.component : Segment → Path.Component
  | here => .current
  | up => .parent
  | down name => .name name

/-- The steps between the slashes of a text. -/
def Path.bodySteps (cs : List Char) : List Segment := (Path.segments cs).filterMap Segment.ofPart?

/-- Cancellation passes over the components that are no step, so it sees the steps only. -/
theorem foldl_cancelStep_parts (kept : List Path.Component) (parts : List (List Char)) :
    (parts.filterMap Path.Component.ofSegment?).foldl Path.cancelStep kept =
      ((parts.filterMap Segment.ofPart?).map Segment.component).foldl Path.cancelStep kept := by
  induction parts generalizing kept with
  | nil => rfl
  | cons part parts ih =>
    rcases Path.part_cases part with ⟨-, hc, hs⟩ | ⟨-, hc, hs⟩ | ⟨-, hc, hs⟩ | ⟨hc, hs⟩
    · simp [hc, hs, ih]
    · simp [hc, hs, ih, Segment.component, Path.cancelStep]
    · simp [hc, hs, ih, Segment.component]
    · simp [hc, hs, ih, Segment.component]

namespace Workspace

variable {w : Workspace}

/-! ## Following steps -/

theorem follow_append (w : Workspace) (names : List String) (s t : List Segment) :
    w.follow names (s ++ t) = w.follow names s >>= fun names => w.follow names t := by
  induction s generalizing names with
  | nil => rfl
  | cons step s ih =>
    simp only [List.cons_append, follow]
    split
    · cases step with
      | here => exact ih names
      | up => exact ih names.dropLast
      | down name =>
        simp only
        split
        · rfl
        · split
          · exact ih _
          · rfl
    · rfl
    · rfl

/-- Only a directory can be left, or stayed in. -/
theorem follow_cons_ok {names found : List String} {step : Segment} {rest : List Segment}
    (h : w.follow names (step :: rest) = .ok found) :
    ∃ entries next, w.tree.find names = some (.directory entries) ∧
      w.follow next rest = .ok found ∧
      (step = .here ∧ next = names ∨ step = .up ∧ next = names.dropLast ∨
        ∃ name, step = .down name ∧ next = names ++ [name]) := by
  rw [follow] at h
  split at h
  · rename_i entries hdir
    cases step with
    | here => exact ⟨entries, names, hdir, h, .inl ⟨rfl, rfl⟩⟩
    | up => exact ⟨entries, _, hdir, h, .inr (.inl ⟨rfl, rfl⟩)⟩
    | down name =>
      simp only at h
      split at h
      · cases h
      · split at h
        · exact ⟨entries, _, hdir, h, .inr (.inr ⟨name, rfl, rfl⟩)⟩
        · cases h
  · cases h
  · cases h

/-- Steps that stay lead nowhere else. -/
theorem follow_here {names found : List String} {steps : List Segment}
    (hs : ∀ s ∈ steps, s = .here) (h : w.follow names steps = .ok found) : found = names := by
  induction steps with
  | nil => simpa [follow, eq_comm] using h
  | cons step steps ih =>
    obtain ⟨entries, next, -, hnext, ⟨-, rfl⟩ | ⟨rfl, -⟩ | ⟨name, rfl, -⟩⟩ := follow_cons_ok h
    · exact ih (fun s hs' => hs s (List.mem_cons_of_mem _ hs')) hnext
    · cases hs _ List.mem_cons_self
    · cases hs _ List.mem_cons_self

/-- Cancelling the steps in the text comes to the names that following them comes to. -/
theorem foldl_cancelStep_follow {names found : List String} {steps : List Segment}
    (h : w.follow names steps = .ok found) :
    (steps.map Segment.component).foldl Path.cancelStep
        (.root :: names.map .name).reverse =
      (.root :: found.map .name).reverse := by
  induction steps generalizing names with
  | nil =>
    obtain rfl : names = found := by simpa [follow] using h
    rfl
  | cons step steps ih =>
    obtain ⟨entries, next, -, hnext, ⟨rfl, rfl⟩ | ⟨rfl, rfl⟩ | ⟨name, rfl, rfl⟩⟩ :=
      follow_cons_ok h
    · exact ih hnext
    · rw [← ih hnext]
      -- a step up takes back the last name, and stays at the root
      rcases List.eq_nil_or_concat names with rfl | ⟨front, last, rfl⟩
      · rfl
      · simp [Segment.component, Path.cancelStep]
    · rw [← ih hnext]
      simp [Segment.component, Path.cancelStep]

end Workspace

/-! ## Names -/

/-- What can stand between two slashes: not nothing, and no slash. -/
def ProperName (n : String) : Prop := n.toList ≠ [] ∧ '/' ∉ n.toList

namespace Path

/-- A name that can stand between two slashes and is read there as itself. -/
def Spellable (n : String) : Prop :=
  '/' ∉ n.toList ∧ Component.ofSegment? n.toList = some (.name n)

theorem Spellable.proper {n : String} (h : Spellable n) : ProperName n := by
  refine ⟨fun hnil => ?_, h.1⟩
  have hname := h.2
  rw [hnil] at hname
  cases hname

theorem Spellable.of_part {cs part : List Char} (h : part ∈ segments cs) {n : String}
    (hn : Component.ofSegment? part = some (.name n)) : Spellable n := by
  rcases part_cases part with ⟨-, hc, -⟩ | ⟨-, hc, -⟩ | ⟨-, hc, -⟩ | ⟨hc, -⟩ <;> rw [hc] at hn <;>
    cases hn
  rw [Spellable, String.toList_ofList]
  exact ⟨not_mem_segments h, hc⟩

theorem spellable_of_component {p : Path} {n : String} (h : .name n ∈ p.components) :
    Spellable n := by
  -- behind the start of the path, every component comes from a part of its text
  have hpart : ∀ cs, .name n ∈ (segments cs).filterMap Component.ofSegment? → Spellable n := by
    intro cs h
    obtain ⟨part, hpart, hn⟩ := List.mem_filterMap.1 h
    exact .of_part hpart hn
  rw [components] at h
  split at h
  · exact hpart _ (by simpa using h)
  · split at h
    · rename_i body hbody
      refine hpart p.text.toList ?_
      rw [hbody]
      exact (List.mem_cons.1 h).resolve_left (by simp)
    · exact hpart _ h

theorem spellable_of_step {p : Path} {n : String} (h : .down n ∈ p.steps) : Spellable n := by
  rw [steps, List.mem_append] at h
  rcases h with h | h
  · obtain ⟨part, hpart, hn⟩ := List.mem_filterMap.1 h
    rcases part_cases part with ⟨-, -, hs⟩ | ⟨-, -, hs⟩ | ⟨-, -, hs⟩ | ⟨hc, hs⟩ <;>
      rw [hs] at hn <;> cases hn
    exact .of_part hpart hc
  · split at h <;> simp at h

end Path

/-- The path that spells out the names from the root. -/
def Path.ofNames (names : List String) : Path := ofComponents (.root :: names.map .name)

theorem Path.ofNames_concat {names : List String} (hfull : (ofNames names).text.toList ≠ [])
    {n : String} (hn : ProperName n) :
    (ofNames (names ++ [n])).text.toList =
      (ofNames names).text.toList ++
        if (ofNames names).text.toList.getLast? = some '/' then n.toList else '/' :: n.toList := by
  obtain ⟨hne, hslash⟩ := hn
  have hrel : isAbsolute ⟨n⟩ = false := by
    rcases hcs : n.toList with - | ⟨c, cs⟩
    · exact absurd hcs hne
    · rw [hcs, List.mem_cons, not_or] at hslash
      simp [isAbsolute, hcs, Ne.symm hslash.1]
  have hjoin : ofNames (names ++ [n]) = (ofNames names).join ⟨n⟩ := by
    simp [ofNames, ofComponents]
  have hfull : (ofNames names).text.isEmpty = false := by
    rw [Bool.eq_false_iff, ne_eq, String.isEmpty_iff]
    rintro h
    simp [h] at hfull
  rw [hjoin, join, hrel, hfull]
  simp only [Bool.false_eq_true, if_false, Bool.false_or, decide_eq_true_eq]
  split
  · simp
  · simp

theorem Path.toList_ofNames {names : List String} (h : ∀ n ∈ names, ProperName n) :
    (ofNames names).text.toList = '/' :: ['/'].intercalate (names.map String.toList) := by
  induction names using List.reverseRecOn with
  | nil => rfl
  | append_singleton names n ih =>
    have ih := ih fun m hm => h m (by simp [hm])
    rw [ofNames_concat (by simp [ih]) (h n (by simp)), ih]
    rcases List.eq_nil_or_concat names with rfl | ⟨front, m, rfl⟩
    · simp
    · -- the last name does not end in a slash, so one is put between
      obtain ⟨hm, hslash⟩ := h m (by simp)
      have hlast : ('/' :: ['/'].intercalate ((front.concat m).map String.toList)).getLast? ≠
          some '/' := by
        rw [List.concat_eq_append, List.map_append, List.map_singleton, List.getLast?_cons,
          getLast?_intercalate _ hm]
        rcases hc : m.toList.getLast? with - | c
        · exact absurd (List.getLast?_eq_none_iff.1 hc) hm
        · rintro h
          obtain rfl : c = '/' := by simpa using h
          exact hslash (List.mem_of_getLast? hc)
      rw [if_neg hlast, List.map_append, List.map_singleton, intercalate_concat (by simp)]
      simp

/-- The names can be read off the text again. -/
theorem Path.parts_ofNames {names : List String} (h : ∀ n ∈ names, ProperName n) :
    (segments (['/'].intercalate (names.map String.toList))).filter (· ≠ []) =
      names.map String.toList := by
  by_cases hne : names = []
  · subst hne
    rfl
  · have hparts : ∀ part ∈ names.map String.toList, part ≠ [] ∧ '/' ∉ part := by
      intro part hpart
      obtain ⟨n, hn, rfl⟩ := List.mem_map.1 hpart
      exact h n hn
    rw [segments_intercalate (by simpa using hne) fun part hpart => (hparts part hpart).2]
    exact List.filter_eq_self.2 fun part hpart => by simpa using (hparts part hpart).1

theorem Path.ofNames_inj {ns ms : List String} (hn : ∀ n ∈ ns, ProperName n)
    (hm : ∀ m ∈ ms, ProperName m) (h : ofNames ns = ofNames ms) : ns = ms := by
  have htext := congrArg (fun p : Path => p.text.toList) h
  simp only [toList_ofNames hn, toList_ofNames hm, List.cons.injEq, true_and] at htext
  have hmap : ns.map String.toList = ms.map String.toList := by
    rw [← parts_ofNames hn, htext, parts_ofNames hm]
  exact List.map_inj_right (fun _ _ h => String.toList_inj.1 h) |>.1 hmap

/-! ## Identities -/

/-- The working directory is absolute and spelled without detours. -/
def Workspace.Grounded (w : Workspace) : Prop :=
  ∃ names : List String, w.workingDir.components = .root :: names.map .name

namespace Workspace

variable {w : Workspace}

theorem follow_proper {names found : List String} {steps : List Segment}
    (hn : ∀ n ∈ names, ProperName n) (hs : ∀ n, .down n ∈ steps → ProperName n)
    (h : w.follow names steps = .ok found) : ∀ n ∈ found, ProperName n := by
  induction steps generalizing names with
  | nil =>
    obtain rfl : names = found := by simpa [follow] using h
    exact hn
  | cons step steps ih =>
    have hs' : ∀ n, .down n ∈ steps → ProperName n := fun n hn => hs n (List.mem_cons_of_mem _ hn)
    obtain ⟨entries, next, -, hnext, ⟨rfl, rfl⟩ | ⟨rfl, rfl⟩ | ⟨name, rfl, rfl⟩⟩ :=
      follow_cons_ok h
    · exact ih hn hs' hnext
    · exact ih (fun n hn' => hn n (List.dropLast_subset _ hn')) hs' hnext
    · refine ih (fun n hn' => ?_) hs' hnext
      rcases List.mem_append.1 hn' with hn' | hn'
      · exact hn n hn'
      · rw [List.mem_singleton.1 hn']
        exact hs name List.mem_cons_self

theorem resolve_ok {p : Path} {names : List String} (h : w.resolve p = .ok names) :
    refused? p = none ∧ w.follow (w.start p) p.steps = .ok names := by
  rw [resolve] at h
  split at h
  · cases h
  · exact ⟨‹_›, h⟩

/-- Cancellation in the text of a path sees its steps, behind the root if it starts there. -/
theorem foldl_cancelStep_components (p : Path) (kept : List Path.Component) :
    p.components.foldl Path.cancelStep kept =
      (p.steps.map Segment.component).foldl Path.cancelStep
        (if p.isAbsolute then .root :: kept else kept) := by
  have htail : ∀ kept, ((if p.text.toList.getLast? = some '/' then [Segment.here] else []).map
      Segment.component).foldl Path.cancelStep kept = kept := by
    intro kept
    split <;> rfl
  rw [Path.steps, List.map_append, List.foldl_append, htail, ← foldl_cancelStep_parts,
    Path.components, Path.isAbsolute]
  split
  · rename_i body hbody
    have hseg : Path.segments ('/' :: body) = [] :: Path.segments body :=
      Path.segments_append_slash [] body
    simp only [hbody, hseg, List.head?_cons, decide_true, if_true]
    rfl
  · rename_i hrel
    have habs : p.text.toList.head? ≠ some '/' := by
      intro hhead
      obtain ⟨body, hbody⟩ := List.head?_eq_some_iff.1 hhead
      exact hrel body hbody
    rw [if_neg (by simpa using habs)]
    split
    · rename_i body hbody
      rw [hbody]
      rfl
    · rfl

theorem foldl_cancelStep_names (names : List String) (kept : List Path.Component) :
    (names.map Path.Component.name).foldl Path.cancelStep kept =
      (names.map Path.Component.name).reverse ++ kept := by
  induction names generalizing kept with
  | nil => rfl
  | cons n names ih => simp [Path.cancelStep, ih]

/-- A path that names something has the identity that spells out the names. -/
theorem identity_of_resolve (hw : w.Grounded) {p : Path} {names : List String}
    (h : w.resolve p = .ok names) :
    w.identity p = .ofNames names ∧ ∀ n ∈ names, ProperName n := by
  obtain ⟨hrefused, hfollow⟩ := resolve_ok h
  obtain ⟨home, hhome⟩ := hw
  have hnames : namesOf w.workingDir = home := by
    rw [namesOf, hhome, List.filterMap_cons_none rfl, List.filterMap_map]
    exact List.filterMap_some
  have hproper : ∀ n ∈ home, ProperName n := fun n hn =>
    (Path.spellable_of_component (p := w.workingDir) (by
      rw [hhome]
      exact List.mem_cons_of_mem _ (List.mem_map_of_mem hn))).proper
  have hfull : p.text.isEmpty = false := by
    rw [Bool.eq_false_iff]
    intro hempty
    simp only [refused?, hempty, if_true] at hrefused
    split at hrefused <;> cases hrefused
  -- cancelled from where the path starts, the components come to the names that were found
  have hcancel := foldl_cancelStep_follow hfollow
  rw [identity, Path.identity, hfull, if_neg Bool.false_ne_true]
  by_cases habs : p.isAbsolute = true
  · rw [start, if_pos habs] at hfollow hcancel
    refine ⟨?_, follow_proper (by simp) (fun _ hn => (Path.spellable_of_step hn).proper) hfollow⟩
    rw [if_pos habs, Path.cancel, foldl_cancelStep_components, if_pos habs]
    rw [List.map_nil, List.reverse_singleton] at hcancel
    rw [hcancel, List.reverse_reverse, Path.ofNames]
  · rw [start, if_neg habs, hnames] at hfollow hcancel
    refine ⟨?_, follow_proper hproper (fun _ hn => (Path.spellable_of_step hn).proper) hfollow⟩
    have hhomefold : w.workingDir.components.foldl Path.cancelStep [] =
        (.root :: home.map .name).reverse := by
      rw [hhome, List.foldl_cons, foldl_cancelStep_names]
      simp [Path.cancelStep]
    rw [if_neg habs, Path.cancel, List.foldl_append, foldl_cancelStep_components p, if_neg habs,
      hhomefold, hcancel, List.reverse_reverse, Path.ofNames]

/-- Spellings with one identity name one thing. -/
theorem resolve_eq_of_identity (hw : w.Grounded) {p q : Path} {ns ms : List String}
    (hp : w.resolve p = .ok ns) (hq : w.resolve q = .ok ms) (h : w.identity p = w.identity q) :
    ns = ms := by
  obtain ⟨hpi, hns⟩ := identity_of_resolve hw hp
  obtain ⟨hqi, hms⟩ := identity_of_resolve hw hq
  exact Path.ofNames_inj hns hms (by rw [← hpi, ← hqi, h])

end Workspace

end SourcePrep
