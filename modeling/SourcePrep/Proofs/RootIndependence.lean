import SourcePrep.Pipeline
import SourcePrep.Proofs.PreparedPatterns
import SourcePrep.Proofs.RootInlining

/-!
# Roots that share files

The roots of a run share what has been loaded, so what is made of a root could depend on the roots
before it. It does when a file was loaded while one of the files that it leads to was open: the file
is remembered without the lines of the open one. `loadFiles_independent` says when it does not. Each
root comes to what it comes to alone if every file that two roots lead to is asked for in one way and
does not lead back to itself; what only one root leads to may go round in circles.

Two runs are followed side by side (`Abreast`), one that starts with what the earlier roots have left
behind and one that starts with nothing. They give the same lines (`load_abreast`) because what they
remember agrees: of shared files it is what `inline` makes of them, and of other files it is the same.
-/

set_option autoImplicit false

namespace SourcePrep

/-! ## Two memories side by side -/

/-- The documents have the same lines. -/
def SameEntries (d e : Document Normalized) : Prop := d.entries = e.entries

section
variable (engine : Engine) (w : Workspace) (searchDirs : List Path) (R T : Request → Prop)

/-- The same files are open, what is remembered of the files in `T` is what inlining makes of them,
and what is remembered of the other files in `R` is the same. -/
structure Memory.Abreast (m n : Memory) : Prop where
  chain : n.chain = m.chain
  left : m.Sound engine w searchDirs T
  right : n.Sound engine w searchDirs T
  cache : ∀ r, R r → ¬ T r → Option.Rel SameEntries (m.cache.lookup (w.identity r.path))
    (n.cache.lookup (w.identity r.path))

/-- The set `R` is not left by inclusions, and has all of `T` that is the same file as one of it. -/
structure Saturated : Prop where
  closed : ∀ {r s}, R r → r.Includes engine w searchDirs s → R s
  shared : ∀ {r s}, R r → T s → w.identity r.path = w.identity s.path → T r

variable {engine w searchDirs R T}

theorem Memory.Sound.remember_other {m : Memory} (hm : m.Sound engine w searchDirs T)
    {identity : Path} (hother : ∀ s, T s → w.identity s.path ≠ identity)
    (d : Document Normalized) :
    Memory.Sound engine w searchDirs T ⟨m.chain, m.cache ++ [(identity, d)]⟩ := by
  intro s hs e he
  have hne : (w.identity s.path == identity) = false := by simpa using hother s hs
  rw [List.lookup_append, List.lookup_cons, hne] at he
  exact hm s hs e (by simpa using he)

theorem Memory.Abreast.remember (hR : Saturated engine w searchDirs R T) {m n : Memory}
    (h : m.Abreast engine w searchDirs R T n) {r : Request} (hr : R r) (hout : ¬ T r)
    {d e : Document Normalized} (hde : SameEntries d e) :
    Memory.Abreast engine w searchDirs R T ⟨m.chain, m.cache ++ [(w.identity r.path, d)]⟩
      ⟨n.chain, n.cache ++ [(w.identity r.path, e)]⟩ := by
  have hother : ∀ s, T s → w.identity s.path ≠ w.identity r.path := by
    intro s hs hid
    exact hout (hR.shared hr hs hid.symm)
  refine ⟨h.chain, h.left.remember_other hother d, h.right.remember_other hother e, ?_⟩
  intro s hs hsout
  simp only [List.lookup_append, List.lookup_cons, List.lookup_nil]
  have hold := h.cache s hs hsout
  generalize m.cache.lookup (w.identity s.path) = a at hold ⊢
  generalize n.cache.lookup (w.identity s.path) = b at hold ⊢
  cases hold with
  | some hab => exact .some hab
  | none =>
    rw [Option.none_or, Option.none_or]
    split
    · exact .some hde
    · exact .none

/-! ## Two loads side by side -/

variable {σ : Type} [Sink σ] {α β : Type}

variable (engine w searchDirs R T) in
/-- The computations give related results from the two memories, which stay side by side. Nothing is
remembered but files of the two sets. -/
def Lockstep (x : Loading σ α) (m : Memory) (y : Loading σ α) (n : Memory) (Q : α → α → Prop) :
    Prop :=
  ∃ a m' b n', Yields Mild (Loading.startingAt x m) (a, m') ∧
    Yields Mild (Loading.startingAt y n) (b, n') ∧ Q a b ∧
    m'.Abreast engine w searchDirs R T n' ∧ m.Grown w (fun r => R r ∨ T r) m'

namespace Lockstep

variable {m n : Memory} {Q : α → α → Prop} {Q' : β → β → Prop}

theorem of_yields {x y : Loading σ α} {a b : α} (hx : Yields Quiet x a) (hy : Yields Quiet y b)
    (h : m.Abreast engine w searchDirs R T n) (hab : Q a b) :
    Lockstep engine w searchDirs R T x m y n Q :=
  ⟨a, m, b, n, (hx.mono fun _ => Quiet.mild).startingAt m,
    (hy.mono fun _ => Quiet.mild).startingAt n, hab, h, .refl m⟩

theorem bind {x y : Loading σ α} {f g : α → Loading σ β}
    (hxy : Lockstep engine w searchDirs R T x m y n Q)
    (hfg : ∀ a b m' n', Q a b → m'.Abreast engine w searchDirs R T n' → m'.chain = m.chain →
      Lockstep engine w searchDirs R T (f a) m' (g b) n' Q') :
    Lockstep engine w searchDirs R T (x >>= f) m (y >>= g) n Q' := by
  obtain ⟨a, m', b, n', hx, hy, hab, hmn, hgrown⟩ := hxy
  obtain ⟨c, m'', d, n'', hf, hg, hcd, hmn', hgrown'⟩ := hfg a b m' n' hab hmn hgrown.chain
  refine ⟨c, m'', d, n'', ?_, ?_, hcd, hmn', hgrown.trans hgrown'⟩
  · rw [startingAt_bind]
    exact hx.bind hf
  · rw [startingAt_bind]
    exact hy.bind hg

end Lockstep

/-- The lists of lines have the same lines. -/
def SameLines (ls ms : List (Line Normalized)) : Prop := ls.map Line.entry = ms.map Line.entry

section
variable {r : Request} {d : Document Normalized} {find : Matcher} {load : Inclusion.Load σ}
  {chain : List Path} (hd : r.document? engine w = some d)
  (hfind : engine.directive d.config includeDirective = .ok find)
  (hload : ∀ s, r.Includes engine w searchDirs s → ∀ origin m n,
    m.Abreast engine w searchDirs R T n → m.chain = chain →
      Lockstep engine w searchDirs R T (load s.path origin s.config) m
        (load s.path origin s.config) n SameEntries)
include hd hfind hload

theorem resolveLine_abreast {line : Line Normalized} (hline : line ∈ d.lines) {m n : Memory}
    (h : m.Abreast engine w searchDirs R T n) (hchain : m.chain = chain) :
    Lockstep engine w searchDirs R T
      (Inclusion.resolveLine w searchDirs load r.path d.config find line) m
      (Inclusion.resolveLine w searchDirs load r.path d.config find line) n SameLines := by
  rcases resolveLine_cases w searchDirs load r.path d.config find line with
    ⟨-, hyields⟩ | ⟨-, -, -, hyields⟩ | ⟨relative, target, hasked, ht, heq⟩
  · exact .of_yields hyields hyields h rfl
  · exact .of_yields hyields hyields h rfl
  · have hincludes : r.Includes engine w searchDirs ⟨target, d.config.sessionOnly⟩ :=
      ⟨_, ⟨d, find, hd, hfind, rfl, line, hline, hasked⟩, ht⟩
    rw [heq]
    refine (hload _ hincludes line.position m n h hchain).bind fun a b m' n' hab h' _ => ?_
    exact .of_yields (.pure _) (.pure _) h' hab

theorem resolveLines_abreast {lines : List (Line Normalized)} (hlines : lines ⊆ d.lines)
    {m n : Memory} (h : m.Abreast engine w searchDirs R T n) (hchain : m.chain = chain) :
    Lockstep engine w searchDirs R T
      (lines.mapM (Inclusion.resolveLine w searchDirs load r.path d.config find)) m
      (lines.mapM (Inclusion.resolveLine w searchDirs load r.path d.config find)) n
      (List.Forall₂ SameLines) := by
  induction lines generalizing m n with
  | nil => exact .of_yields (.pure []) (.pure []) h .nil
  | cons line lines ih =>
    rw [List.mapM_cons]
    refine (resolveLine_abreast hd hfind hload (hlines List.mem_cons_self) h hchain).bind
      fun a b m' n' hab h' hchain' => ?_
    refine (ih (fun l hl => hlines (List.mem_cons_of_mem _ hl)) h' (hchain'.trans hchain)).bind
      fun as bs m'' n'' hasbs h'' _ => ?_
    exact .of_yields (.pure _) (.pure _) h'' (.cons hab hasbs)

end

/-- Documents of the same lines have the same lines, those of length zero left out. -/
theorem SameLines.ofLines {ls ms : List (Line Normalized)} (h : SameLines ls ms)
    (config : Configuration) : SameEntries (.ofLines ls config) (.ofLines ms config) := by
  have hkept : ∀ ls : List (Line Normalized), (Document.ofLines ls config).entries =
      (ls.map Line.entry).filter fun e => LineKind.size e.2 ≠ 0 := by
    intro ls
    rw [List.filter_map]
    rfl
  rw [SameEntries, hkept, hkept, h]

theorem SameLines.flatten {ls ms : List (List (Line Normalized))}
    (h : List.Forall₂ SameLines ls ms) : SameLines ls.flatten ms.flatten := by
  induction h with
  | nil => rfl
  | cons hlm _ ih =>
    rw [SameLines] at hlm ih ⊢
    simp only [List.flatten_cons, List.map_append, hlm, ih]

/-- A file is read and resolved alike from both memories. -/
theorem readAndResolve_abreast {r : Request} {load : Inclusion.Load σ} {m n : Memory}
    (hload : ∀ s, r.Includes engine w searchDirs s → ∀ origin m' n',
      m'.Abreast engine w searchDirs R T n' → m'.chain = m.chain →
        Lockstep engine w searchDirs R T (load s.path origin s.config) m'
          (load s.path origin s.config) n' SameEntries)
    (h : m.Abreast engine w searchDirs R T n) :
    Lockstep engine w searchDirs R T
      (Inclusion.readAndResolve engine w searchDirs load r.path r.config) m
      (Inclusion.readAndResolve engine w searchDirs load r.path r.config) n
      (Option.Rel SameEntries) := by
  rcases readAndResolve_cases engine w searchDirs load r with
    ⟨-, hyields⟩ | ⟨d, failure, -, -, hyields⟩ | ⟨d, find, pre, hd, hfind, hpre, heq⟩
  · exact .of_yields hyields hyields h .none
  · exact .of_yields hyields hyields h (.some rfl)
  · rw [heq]
    refine (Lockstep.of_yields (Q := fun _ _ => True) hpre hpre h trivial).bind
      fun _ _ m' n' _ h' hchain => ?_
    refine (resolveLines_abreast hd hfind hload (fun _ hl => hl) h' hchain).bind
      fun ls ms m'' n'' hlm h'' _ => ?_
    exact .of_yields (.pure _) (.pure _) h'' (.some ((SameLines.flatten hlm).ofLines d.config))

/-- A file that is new to both memories is loaded alike, and remembered alike. -/
theorem loadNew_abreast (hR : Saturated engine w searchDirs R T) {r : Request} (hr : R r)
    (hout : ¬ T r) {load : Inclusion.Load σ} {m n : Memory}
    (h : m.Abreast engine w searchDirs R T n)
    (hread : Lockstep engine w searchDirs R T
      (Inclusion.readAndResolve engine w searchDirs load r.path r.config)
      ⟨m.chain ++ [w.identity r.path], m.cache⟩
      (Inclusion.readAndResolve engine w searchDirs load r.path r.config)
      ⟨n.chain ++ [w.identity r.path], n.cache⟩ (Option.Rel SameEntries)) :
    Lockstep engine w searchDirs R T
      (Inclusion.loadNew engine w searchDirs load (w.identity r.path) r.path r.config) m
      (Inclusion.loadNew engine w searchDirs load (w.identity r.path) r.path r.config) n
      SameEntries := by
  obtain ⟨d, m', e, n', hx, hy, hde, h', hgrown⟩ := hread
  have hclosed : Memory.Abreast engine w searchDirs R T ⟨m.chain, m'.cache⟩ ⟨n.chain, n'.cache⟩ :=
    ⟨h.chain, h'.left, h'.right, h'.cache⟩
  have hgrown' : m.Grown w (fun r => R r ∨ T r) ⟨m.chain, m'.cache⟩ := ⟨rfl, hgrown.cache⟩
  have hn' : n'.chain = n.chain ++ [w.identity r.path] := by
    rw [h'.chain, hgrown.chain, h.chain]
  refine ⟨_, _, _, _, loadNew_yields hx hgrown.chain, loadNew_yields hy hn', ?_⟩
  cases hde with
  | none =>
    simp only [Option.map_none, Option.toList_none, List.append_nil]
    exact ⟨rfl, hclosed, hgrown'⟩
  | @some d e hde =>
    exact ⟨hde, hclosed.remember hR hr hout hde,
      hgrown'.trans (.remember (.inl hr) ⟨m.chain, m'.cache⟩ d)⟩

theorem Memory.Grown.mono {S S' : Request → Prop} (hS : ∀ r, S r → S' r) {m m' : Memory}
    (h : m.Grown w S m') : m.Grown w S' m' :=
  ⟨h.chain, fun i hi => h.cache i fun r hr => hi r (hS r hr)⟩

/-- A tame request is loaded alike, because both runs give what inlining makes of it. -/
theorem load_tame_abreast (hw : w.Grounded) (hT : Tame engine w searchDirs T)
    (hR : Saturated engine w searchDirs R T) {depth : Nat} {r : Request} (hr : T r)
    (origin : Position) {m n : Memory} (h : m.Abreast engine w searchDirs R T n)
    (hfree : ∀ s, r.Reaches engine w searchDirs s → w.identity s.path ∉ m.chain)
    (hchain : FileChain w m.chain) (hdepth : depth + m.chain.length = w.tree.fileCount + 1) :
    Lockstep engine w searchDirs R T
      (Inclusion.loadWithin engine w searchDirs (depth + 1) r.path origin r.config : Loading σ _) m
      (Inclusion.loadWithin engine w searchDirs (depth + 1) r.path origin r.config) n
      SameEntries := by
  obtain ⟨a, m', hx, ⟨⟨k, hk⟩, -⟩, hm', hgrown⟩ :=
    load_tame (σ := σ) hw hT hr origin h.left hfree hchain hdepth
  rw [← h.chain] at hfree hchain hdepth
  obtain ⟨b, n', hy, ⟨⟨l, hl⟩, -⟩, hn', hgrown'⟩ :=
    load_tame (σ := σ) hw hT hr origin h.right hfree hchain hdepth
  refine ⟨a, m', b, n', hx.mono fun _ => Quiet.mild, hy.mono fun _ => Quiet.mild,
    inline_unique hk hl, ⟨?_, hm', hn', fun s hs hsout => ?_⟩, hgrown.mono fun _ => .inr⟩
  · rw [hgrown'.chain, h.chain, hgrown.chain]
  · -- no file outside of the tame ones was remembered
    have hother : ∀ t, T t → w.identity t.path ≠ w.identity s.path := by
      intro t ht hid
      exact hsout (hR.shared hs ht hid.symm)
    rw [hgrown.cache _ hother, hgrown'.cache _ hother]
    exact h.cache s hs hsout

/-- Requests that lead to one another are loaded alike from both memories. By induction on the depth
that is left. The files that are open lead to the requested one, so a tame request cannot lead back
to any of them. -/
theorem load_abreast (hw : w.Grounded) (hT : Tame engine w searchDirs T)
    (hR : Saturated engine w searchDirs R T) (depth : Nat) {r : Request} (hr : R r)
    (origin : Position) {m n : Memory} (h : m.Abreast engine w searchDirs R T n)
    (hopen : ∀ identity ∈ m.chain, ∃ s, R s ∧ w.identity s.path = identity ∧
      Relation.TransGen (Request.Includes engine w searchDirs) s r)
    (hchain : FileChain w m.chain) (hdepth : depth + m.chain.length = w.tree.fileCount + 2) :
    Lockstep engine w searchDirs R T
      (Inclusion.loadWithin engine w searchDirs depth r.path origin r.config : Loading σ _) m
      (Inclusion.loadWithin engine w searchDirs depth r.path origin r.config) n SameEntries := by
  induction depth generalizing r origin m n with
  | zero =>
    have := hchain.length_le
    omega
  | succ depth ih =>
    by_cases htame : T r
    · refine load_tame_abreast hw hT hR htame origin h (fun s hs hmem => ?_) hchain (by omega)
      obtain ⟨t, ht, hid, hts⟩ := hopen _ hmem
      have hs' : T s := hT.reaches htame hs
      have ht' : T t := hR.shared ht hs' hid
      exact hT.acyclic ht' (hts.trans_left hs) (hT.coherent ht' hs' hid).1
    have hlook := h.cache r hr htame
    rcases hm : m.cache.lookup (w.identity r.path) with - | d <;>
      rcases hn : n.cache.lookup (w.identity r.path) with - | e <;>
      rw [hm, hn] at hlook <;> cases hlook
    · by_cases hmem : w.identity r.path ∈ m.chain
      · exact ⟨_, m, _, n, load_circular hm hmem, load_circular hn (h.chain ▸ hmem), rfl, h, .refl m⟩
      · -- the file is opened, and leads to each of the files that it includes
        have hread : Lockstep engine w searchDirs R T
            (Inclusion.readAndResolve engine w searchDirs
              (Inclusion.loadWithin engine w searchDirs depth) r.path r.config : Loading σ _)
            ⟨m.chain ++ [w.identity r.path], m.cache⟩
            (Inclusion.readAndResolve engine w searchDirs
              (Inclusion.loadWithin engine w searchDirs depth) r.path r.config)
            ⟨n.chain ++ [w.identity r.path], n.cache⟩ (Option.Rel SameEntries) := by
          refine readAndResolve_abreast (fun s hs origin m' n' h' hchain' => ?_)
            ⟨by rw [h.chain], h.left, h.right, h.cache⟩
          obtain ⟨content, hcontent⟩ := hs.readable
          refine ih (hR.closed hr hs) origin h' (fun identity hid => ?_)
            (hchain' ▸ hchain.push hw hcontent hmem) ?_
          · rw [hchain', List.mem_append, List.mem_singleton] at hid
            rcases hid with hid | rfl
            · obtain ⟨t, ht, hid, htr⟩ := hopen identity hid
              exact ⟨t, ht, hid, htr.tail hs⟩
            · exact ⟨r, hr, rfl, .single hs⟩
          · rw [hchain', List.length_append, List.length_singleton]
            omega
        obtain ⟨a, m', b, n', hx, hy, hrest⟩ := loadNew_abreast hR hr htame h hread
        exact ⟨a, m', b, n', load_new (fun _ => Quiet.mild) hm hmem hx,
          load_new (fun _ => Quiet.mild) hn (h.chain ▸ hmem) hy, hrest⟩
    · rename_i hde
      exact ⟨d, m, e, n, (load_remembered hm).mono fun _ => Quiet.mild,
        (load_remembered hn).mono fun _ => Quiet.mild, hde, h, .refl m⟩

end

/-! ## Files that roots share -/

section
variable (engine : Engine) (w : Workspace) (searchDirs : List Path)

/-- The requested file does not lead back to itself, and the system takes every path that is looked
up next to it. -/
structure Request.Steady (r : Request) : Prop where
  acyclic : ∀ s, Relation.TransGen (Request.Includes engine w searchDirs) r s →
    w.resolve r.path ≠ w.resolve s.path
  fits : r.Fits engine w

variable {engine w searchDirs} in
theorem Request.Steady.of_asked {r : Request} (h : r.asked engine w = []) :
    r.Steady engine w searchDirs := by
  refine ⟨fun s hs => ?_, fun relative config hasks => ?_⟩
  · obtain ⟨t, ht, -⟩ := Relation.TransGen.head'_iff.1 hs
    rw [Request.includes_iff, Request.targets, h] at ht
    exact absurd ht List.not_mem_nil
  · rw [Request.asks_iff, h] at hasks
    exact absurd hasks List.not_mem_nil

/-- A file that both roots lead to is asked for in one way, up to the spelling of its path, and is
steady. -/
def Request.SharesTamely (p q : Request) : Prop :=
  ∀ r s, p.Reaches engine w searchDirs r → q.Reaches engine w searchDirs s →
    w.identity r.path = w.identity s.path →
      (w.resolve r.path = w.resolve s.path ∧ r.config = s.config) ∧
        r.Steady engine w searchDirs ∧ s.Steady engine w searchDirs

variable (config : Configuration) (roots : List Path)

/-- The request is reached from the root in the given place. -/
def FromRoot (i : Nat) (r : Request) : Prop :=
  ∃ p, roots[i]? = some p ∧ Request.Reaches engine w searchDirs ⟨p, config⟩ r

/-- The request is reached from one root, and one for the same file from another. -/
def Shared (r : Request) : Prop :=
  ∃ i j, i ≠ j ∧ FromRoot engine w searchDirs config roots i r ∧
    ∃ s, FromRoot engine w searchDirs config roots j s ∧ w.identity r.path = w.identity s.path

variable {engine w searchDirs config roots}

theorem Request.SharesTamely.symm {p q : Request} (h : p.SharesTamely engine w searchDirs q) :
    q.SharesTamely engine w searchDirs p := by
  intro r s hr hs hid
  obtain ⟨⟨hpath, hconfig⟩, hsteady, hsteady'⟩ := h s r hs hr hid.symm
  exact ⟨⟨hpath.symm, hconfig.symm⟩, hsteady', hsteady⟩

theorem FromRoot.includes {i : Nat} {r s : Request}
    (h : FromRoot engine w searchDirs config roots i r) (hs : r.Includes engine w searchDirs s) :
    FromRoot engine w searchDirs config roots i s := by
  obtain ⟨p, hp, hr⟩ := h
  exact ⟨p, hp, hr.tail hs⟩

/-- A request for a shared file is shared, from whatever root it is reached. -/
theorem Shared.of_identity {i : Nat} {r s : Request}
    (hr : FromRoot engine w searchDirs config roots i r)
    (hs : Shared engine w searchDirs config roots s)
    (hid : w.identity r.path = w.identity s.path) :
    Shared engine w searchDirs config roots r := by
  obtain ⟨j, k, hjk, hj, t, hk, hst⟩ := hs
  by_cases hij : i = j
  · exact ⟨i, k, hij ▸ hjk, hr, t, hk, hid.trans hst⟩
  · exact ⟨i, j, hij, hr, s, hj, hid⟩

section
variable (hroots : roots.Pairwise fun p q =>
  Request.SharesTamely engine w searchDirs ⟨p, config⟩ ⟨q, config⟩)
include hroots

theorem FromRoot.sharesTamely {i j : Nat} (hij : i ≠ j) {r s : Request}
    (hr : FromRoot engine w searchDirs config roots i r)
    (hs : FromRoot engine w searchDirs config roots j s)
    (hid : w.identity r.path = w.identity s.path) :
    (w.resolve r.path = w.resolve s.path ∧ r.config = s.config) ∧
      r.Steady engine w searchDirs ∧ s.Steady engine w searchDirs := by
  obtain ⟨p, hp, hr⟩ := hr
  obtain ⟨q, hq, hs⟩ := hs
  obtain ⟨hi, rfl⟩ := List.getElem?_eq_some_iff.1 hp
  obtain ⟨hj, rfl⟩ := List.getElem?_eq_some_iff.1 hq
  have hshares := List.pairwise_iff_getElem.1 hroots
  rcases Nat.lt_or_gt_of_ne hij with hlt | hlt
  · exact hshares i j hi hj hlt r s hr hs hid
  · exact (hshares j i hj hi hlt).symm r s hr hs hid

/-- Files that roots share are tame. -/
theorem Shared.tame (hw : w.Grounded) :
    Tame engine w searchDirs (Shared engine w searchDirs config roots) where
  closed := by
    rintro r t ⟨i, j, hij, hr, s, hs, hid⟩ ht
    obtain ⟨⟨hpath, hconfig⟩, hsteady, hsteady'⟩ := hr.sharesTamely hroots hij hs hid
    obtain ⟨u, hu, hid'⟩ := ht.respelled hw hpath hconfig hsteady.fits hsteady'.fits
    exact ⟨i, j, hij, hr.includes ht, u, hs.includes hu, hid'⟩
  acyclic := by
    rintro r t ⟨i, j, hij, hr, s, hs, hid⟩ ht
    exact (hr.sharesTamely hroots hij hs hid).2.1.acyclic t ht
  coherent := by
    rintro r s ⟨i, j, hij, hr, t, ht, hrt⟩ ⟨k, l, hkl, hs, u, hu, hsu⟩ hid
    by_cases hik : i = k
    · -- both are reached from one root, and agree with what another root leads to
      obtain ⟨⟨hpath, hconfig⟩, -⟩ := hr.sharesTamely hroots hij ht hrt
      obtain ⟨⟨hpath', hconfig'⟩, -⟩ :=
        hs.sharesTamely hroots (hik ▸ hij) ht (hid.symm.trans hrt)
      exact ⟨hpath.trans hpath'.symm, hconfig.trans hconfig'.symm⟩
    · exact (hr.sharesTamely hroots hik hs hid).1
  fits := by
    rintro r ⟨i, j, hij, hr, s, hs, hid⟩
    exact (hr.sharesTamely hroots hij hs hid).2.1.fits

end

/-! ## Loading roots -/

variable {σ : Type} [Sink σ]

/-- What the earlier roots have left behind: nothing is open, shared files are remembered as what
inlining makes of them, and otherwise only files of earlier roots are remembered. -/
structure LeftBehind (engine : Engine) (w : Workspace) (searchDirs : List Path)
    (config : Configuration) (roots : List Path) (i : Nat) (m : Memory) : Prop where
  closed : m.chain = []
  sound : m.Sound engine w searchDirs (Shared engine w searchDirs config roots)
  known : ∀ identity, (∀ r, (∃ j < i, FromRoot engine w searchDirs config roots j r) ∨
    Shared engine w searchDirs config roots r → w.identity r.path ≠ identity) →
      m.cache.lookup identity = none

theorem LeftBehind.blank : LeftBehind engine w searchDirs config roots 0 .blank :=
  ⟨rfl, nofun, fun _ _ => rfl⟩

/-- One more root comes to what it comes to alone. -/
theorem LeftBehind.step (hw : w.Grounded)
    (hroots : roots.Pairwise fun p q =>
      Request.SharesTamely engine w searchDirs ⟨p, config⟩ ⟨q, config⟩) {i : Nat} {p : Path}
    (hp : roots[i]? = some p) {m : Memory} (h : LeftBehind engine w searchDirs config roots i m) :
    ∃ d m' e, Yields Mild (Loading.startingAt
        (Inclusion.loadRoot engine w searchDirs config p : Loading σ _) m) (d, m') ∧
      Yields Mild (Loading.start (Inclusion.loadRoot engine w searchDirs config p : Loading σ _)) e ∧
      SameEntries d e ∧ LeftBehind engine w searchDirs config roots (i + 1) m' := by
  have hfrom : ∀ {r}, Request.Reaches engine w searchDirs ⟨p, config⟩ r →
      FromRoot engine w searchDirs config roots i r := fun hr => ⟨p, hp, hr⟩
  have hR : Saturated engine w searchDirs (Request.Reaches engine w searchDirs ⟨p, config⟩)
      (Shared engine w searchDirs config roots) :=
    ⟨fun hr hs => hr.tail hs, fun hr hs hid => Shared.of_identity (hfrom hr) hs hid⟩
  have habreast : m.Abreast engine w searchDirs (Request.Reaches engine w searchDirs ⟨p, config⟩)
      (Shared engine w searchDirs config roots) .blank := by
    refine ⟨h.closed.symm, h.sound, LeftBehind.blank.sound, fun r hr hout => ?_⟩
    -- what is remembered of the file would make it shared
    have hnew : m.cache.lookup (w.identity r.path) = none := by
      refine h.known _ fun s hs hid => hout ?_
      rcases hs with ⟨j, hj, hs⟩ | hs
      · exact ⟨i, j, (Nat.ne_of_lt hj).symm, hfrom hr, s, hs, hid.symm⟩
      · exact hR.shared hr hs hid.symm
    rw [hnew]
    exact .none
  obtain ⟨d, m', e, n', hx, hy, hde, h', hgrown⟩ := load_abreast (σ := σ) hw
    (Shared.tame hroots hw) hR (w.tree.fileCount + 2) .refl (.wholeFile p) habreast
    (by simp [h.closed]) (h.closed ▸ ⟨.nil, by simp⟩) (by simp [h.closed])
  refine ⟨d, m', e, hx, ?_, hde, hgrown.chain.trans h.closed, h'.left, fun identity hother => ?_⟩
  · rw [start_eq]
    exact hy.bind (.pure _)
  · rw [hgrown.cache identity fun r hr => hother r ?_]
    · refine h.known identity fun r hr => hother r ?_
      exact hr.imp_left fun ⟨j, hj, hr⟩ => ⟨j, Nat.lt_succ_of_lt hj, hr⟩
    · exact hr.imp_left fun hr => ⟨i, Nat.lt_succ_self i, hfrom hr⟩

/-- The roots from some place on come to what they come to alone. -/
theorem LeftBehind.run (hw : w.Grounded)
    (hroots : roots.Pairwise fun p q =>
      Request.SharesTamely engine w searchDirs ⟨p, config⟩ ⟨q, config⟩) (rest : List Path) {i : Nat}
    (hrest : roots.drop i = rest) {m : Memory}
    (h : LeftBehind engine w searchDirs config roots i m) :
    ∃ docs m', Yields Mild (Loading.startingAt
        (rest.mapM (Inclusion.loadRoot engine w searchDirs config) : Loading σ _) m) (docs, m') ∧
      List.Forall₂ (fun p d => ∃ e,
        Yields Mild (Loading.start (Inclusion.loadRoot engine w searchDirs config p :
          Loading σ _)) e ∧ SameEntries d e) rest docs := by
  induction rest generalizing i m with
  | nil => exact ⟨[], m, Yields.startingAt (.pure []) m, .nil⟩
  | cons p rest ih =>
    have hp : roots[i]? = some p := by rw [← List.head?_drop, hrest, List.head?_cons]
    have hrest' : roots.drop (i + 1) = rest := by rw [← List.tail_drop, hrest, List.tail_cons]
    obtain ⟨d, m', e, hx, hy, hde, h'⟩ := h.step (σ := σ) hw hroots hp
    obtain ⟨docs, m'', hxs, hall⟩ := ih hrest' h'
    refine ⟨d :: docs, m'', ?_, .cons ⟨e, hy, hde⟩ hall⟩
    rw [List.mapM_cons, startingAt_bind]
    refine hx.bind ?_
    rw [startingAt_bind]
    exact hxs.bind (Yields.startingAt (.pure _) _)

end

theorem SameEntries.kinds {d e : Document Normalized} (h : SameEntries d e) :
    d.lines.map Line.kind = e.lines.map Line.kind := by
  simpa [Document.entries, Line.entry, Function.comp_def] using congrArg (List.map Prod.snd) h

/-- Roots that share only steady files are resolved independently: each comes to the lines that it
comes to when it is loaded alone. -/
theorem loadFiles_independent (engine : Engine) (w : Workspace) (hw : w.Grounded)
    (searchDirs : List Path) (config : Configuration) (roots : List Path)
    (hroots : roots.Pairwise fun p q =>
      Request.SharesTamely engine w searchDirs ⟨p, config⟩ ⟨q, config⟩) :
    ∃ docs ds,
      loadFiles engine w searchDirs config roots (Collector.plain []) = (.ok docs, .plain ds) ∧
      List.Forall₂ (fun root d => ∃ alone es,
        Loading.start (Inclusion.loadRoot engine w searchDirs config root) (Collector.plain []) =
          (.ok alone, .plain es) ∧
        d.lines.map Line.kind = alone.lines.map Line.kind) roots docs := by
  obtain ⟨docs, m, hyields, hall⟩ := LeftBehind.run (σ := Collector) hw hroots roots
    List.drop_zero LeftBehind.blank
  have hstart : Yields Mild (loadFiles engine w searchDirs config roots : Reporting Collector _)
      docs := by
    rw [loadFiles, start_eq]
    exact hyields.bind (.pure _)
  obtain ⟨ds, hds, -⟩ := hstart.plain fun _ h => h
  refine ⟨docs, ds, hds, hall.imp fun root d ⟨e, hy, hde⟩ => ?_⟩
  obtain ⟨es, hes, -⟩ := hy.plain fun _ h => h
  exact ⟨e, es, hes, hde.kinds⟩

/-- Two roots that include one file. The first includes itself as well, which the other never sees. -/
def common : Workspace where
  tree := .directory [
    ("a", .file (.text "include \"c\"\ninclude \"a\"\n")),
    ("b", .file (.text "include \"./c\"\n")),
    ("c", .file (.text "\tc\n"))]
  workingDir := ⟨"/"⟩

theorem loadFiles_independent_common :
    ∃ docs ds,
      loadFiles .standard common [] {} [⟨"a"⟩, ⟨"b"⟩] (Collector.plain []) =
        (.ok docs, .plain ds) ∧
      List.Forall₂ (fun root d => ∃ alone es,
        Loading.start (Inclusion.loadRoot .standard common [] {} root) (Collector.plain []) =
          (.ok alone, .plain es) ∧
        d.lines.map Line.kind = alone.lines.map Line.kind) [⟨"a"⟩, ⟨"b"⟩] docs := by
  let fromA : List Request := [⟨⟨"a"⟩, {}⟩, ⟨⟨"c"⟩, {}⟩]
  let fromB : List Request := [⟨⟨"b"⟩, {}⟩, ⟨⟨"./c"⟩, {}⟩]
  obtain ⟨hA, hB, hshared⟩ : Enclosed .standard common [] fromA ∧
      Enclosed .standard common [] fromB ∧
      ∀ r ∈ fromA, ∀ s ∈ fromB, common.identity r.path = common.identity s.path →
        (common.resolve r.path = common.resolve s.path ∧ r.config = s.config) ∧
          r.asked .standard common = [] ∧ s.asked .standard common = [] := by
    rw [← Engine.prepared_eq]
    decide +kernel
  refine loadFiles_independent .standard common ⟨[], by decide⟩ [] {} [⟨"a"⟩, ⟨"b"⟩] ?_
  rw [List.pairwise_pair]
  intro r s hr hs hid
  have hr := hA.mem_of_reaches (.head _) hr
  have hs := hB.mem_of_reaches (.head _) hs
  obtain ⟨hsame, hnone, hnone'⟩ := hshared r hr s hs hid
  exact ⟨hsame, .of_asked hnone, .of_asked hnone'⟩

/-- Two roots that include each other. -/
def circle : Workspace where
  tree := .directory [
    ("a", .file (.text "include \"b\"\na\n")),
    ("b", .file (.text "include \"a\"\nb\n"))]
  workingDir := ⟨"/"⟩

-- The second root was loaded while the first was open, and is remembered without its lines.
example :
    (loadFiles .standard circle [] {} [⟨"a"⟩, ⟨"b"⟩] (Collector.plain [])).1.toOption.map
        (List.map Document.entries) =
      some [[(2, ⟨0, "b\n"⟩), (2, ⟨0, "a\n"⟩)], [(2, ⟨0, "b\n"⟩)]] ∧
    (Loading.start (Inclusion.loadRoot .standard circle [] {} ⟨"b"⟩)
        (Collector.plain [])).1.toOption.map Document.entries =
      some [(2, ⟨0, "a\n"⟩), (2, ⟨0, "b\n"⟩)] := by
  rw [← Engine.prepared_eq]
  decide +kernel

end SourcePrep
