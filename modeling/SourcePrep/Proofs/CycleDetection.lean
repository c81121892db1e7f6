import SourcePrep.Proofs.RootInlining
import Mathlib.Data.List.Chain
import Mathlib.Data.List.Nodup

/-!
# Cycles of inclusions

Loading is a depth-first search of the files that can be reached from a root. Its stack is the
chain, and the cache takes the place of marks on what was visited: a file is put there when
everything it leads to has been looked at. A file that is found on the chain is reported, with the
part of the chain that leads back to it.

* `Request.Leads`: the graph that is searched. Its nodes are files, by identity.
* `Trail.isCycle`: what is reported is a cycle of this graph, because the chain is a walk in it.
* `Finished`: as long as nothing is reported, files are put in the cache one after the other, each
  after all it leads to. So no walk leads back to where it started (`Finished.acyclic`).
* `readAndResolve_explores`: the search itself, by induction on the depth that is left.
* `loadRoot_detects_cycles`: what loading a root reports of cycles.
-/

set_option autoImplicit false

namespace SourcePrep

/-! ## The graph of files -/

section
variable (engine : Engine) (w : Workspace) (searchDirs : List Path)

/-- A line of the first file, as it is reached from the root, leads to the second. -/
def Request.Leads (root : Request) (f g : Path) : Prop :=
  ∃ r s, root.Reaches engine w searchDirs r ∧ r.Includes engine w searchDirs s ∧
    w.identity r.path = f ∧ w.identity s.path = g

end

/-- A walk that ends where it starts, and comes to no other place twice. -/
structure IsCycle (R : Path → Path → Prop) (walk : List Path) : Prop where
  long : 2 ≤ walk.length
  closed : walk.getLast? = walk.head?
  distinct : walk.dropLast.Nodup
  edges : walk.IsChain R

theorem IsCycle.transGen {R : Path → Path → Prop} {walk : List Path} (h : IsCycle R walk) :
    ∃ f, Relation.TransGen R f f := by
  have hwalk : ∀ (f : Path) (rest : List Path) (g : Path), (f :: (rest ++ [g])).IsChain R →
      Relation.TransGen R f g := by
    intro f rest g hedges
    induction rest generalizing f with
    | nil => exact .single (List.isChain_pair.1 hedges)
    | cons k rest ih =>
      rw [List.cons_append, List.isChain_cons_cons] at hedges
      exact .head hedges.1 (ih k hedges.2)
  obtain ⟨long, closed, -, edges⟩ := h
  cases walk with
  | nil => cases long
  | cons f rest =>
    rcases List.eq_nil_or_concat rest with rfl | ⟨front, g, rfl⟩
    · simp at long
    · have hfg : g = f := by
        rw [List.concat_eq_append, ← List.cons_append, List.getLast?_concat] at closed
        simpa using closed
      rw [List.concat_eq_append] at edges
      exact ⟨f, hwalk f front f (hfg ▸ edges)⟩

theorem not_self_of_acc {R : Path → Path → Prop} {f : Path} (h : Acc R f) : ¬ R f f := by
  induction h with
  | intro f _ ih => exact fun hself => ih f hself hself

section
variable {engine : Engine} {w : Workspace} {searchDirs : List Path} {root : Request}

/-! ## The chain -/

variable (engine w searchDirs root) in
/-- The files that are open while a request is resolved: those on a way to it from the root, all of
them different. -/
inductive Trail : List Path → Request → Prop
  | root : Trail [w.identity root.path] root
  | push {chain : List Path} {r s : Request} (trail : Trail chain r)
      (includes : r.Includes engine w searchDirs s) (new : w.identity s.path ∉ chain) :
      Trail (chain ++ [w.identity s.path]) s

namespace Trail

variable {chain : List Path} {r s : Request}

theorem reaches (h : Trail engine w searchDirs root chain r) :
    root.Reaches engine w searchDirs r := by
  induction h with
  | root => exact .refl
  | push _ includes _ ih => exact ih.tail includes

theorem root_mem (h : Trail engine w searchDirs root chain r) : w.identity root.path ∈ chain := by
  induction h with
  | root => exact List.mem_singleton_self _
  | push _ _ _ ih => exact List.mem_append_left _ ih

theorem getLast? (h : Trail engine w searchDirs root chain r) :
    chain.getLast? = some (w.identity r.path) := by
  cases h with
  | root => rfl
  | push => exact List.getLast?_concat

theorem nodup (h : Trail engine w searchDirs root chain r) : chain.Nodup := by
  induction h with
  | root => simp
  | push _ _ new ih =>
    rw [← List.concat_eq_append, List.nodup_concat]
    exact ⟨new, ih⟩

/-- The next file can be added to the walk, whether it is on the chain or not. -/
theorem isChain_concat (h : Trail engine w searchDirs root chain r)
    (hedges : chain.IsChain (root.Leads engine w searchDirs))
    (hs : r.Includes engine w searchDirs s) :
    (chain ++ [w.identity s.path]).IsChain (root.Leads engine w searchDirs) := by
  refine List.isChain_append.2 ⟨hedges, List.isChain_singleton _, fun f hf g hg => ?_⟩
  obtain rfl : w.identity r.path = f := by simpa [h.getLast?] using hf
  obtain rfl : w.identity s.path = g := by simpa using hg
  exact ⟨r, s, h.reaches, hs, rfl, rfl⟩

theorem edges (h : Trail engine w searchDirs root chain r) :
    chain.IsChain (root.Leads engine w searchDirs) := by
  induction h with
  | root => exact List.isChain_singleton _
  | push trail includes _ ih => exact trail.isChain_concat ih includes

/-- What is open can be read, but for the request itself. -/
theorem fileChain (hw : w.Grounded) (h : Trail engine w searchDirs root chain r) {content : String}
    (hread : w.read r.path = .ok content) : FileChain w chain := by
  induction h generalizing content with
  | root => exact FileChain.push hw ⟨.nil, by simp⟩ hread List.not_mem_nil
  | push _ includes new ih =>
    obtain ⟨_, hread'⟩ := includes.readable
    exact (ih hread').push hw hread new

/-- A file that leads back to the chain closes a cycle. -/
theorem isCycle (h : Trail engine w searchDirs root chain r)
    (hs : r.Includes engine w searchDirs s) (hopen : w.identity s.path ∈ chain) :
    IsCycle (root.Leads engine w searchDirs)
      (Inclusion.cycleThrough chain (w.identity s.path)) := by
  have hwalk := h.isChain_concat h.edges hs
  have hnodup := h.nodup
  obtain ⟨before, after, rfl, hbefore⟩ := List.eq_append_cons_of_mem hopen
  have hcycle : Inclusion.cycleThrough (before ++ w.identity s.path :: after) (w.identity s.path) =
      w.identity s.path :: after ++ [w.identity s.path] := by
    have hskip : ∀ f ∈ before, decide (f ≠ w.identity s.path) = true := by
      intro f hf
      exact decide_eq_true fun heq => hbefore (heq ▸ hf)
    rw [Inclusion.cycleThrough, List.dropWhile_append_of_pos hskip,
      List.dropWhile_cons_of_neg (by simp)]
  rw [hcycle]
  constructor
  · simp
  · rw [List.getLast?_concat]
    rfl
  · rw [List.dropLast_concat]
    exact hnodup.of_append_right
  · rw [List.append_assoc] at hwalk
    exact hwalk.right_of_append

end Trail

/-! ## The cache -/

variable (engine w) in
/-- The file cannot be read, or it is remembered. -/
def Request.Accounted (s : Request) (cache : List (Path × Document Normalized)) : Prop :=
  s.document? engine w = none ∨ w.identity s.path ∈ cache.map Prod.fst

theorem Request.Accounted.mono {s : Request} {cache cache' : List (Path × Document Normalized)}
    (h : s.Accounted engine w cache) (hcache : cache <+: cache') :
    s.Accounted engine w cache' :=
  h.imp_right fun hmem => (hcache.map Prod.fst).subset hmem

variable (engine w searchDirs root) in
/-- Files below the root were put in the cache one after the other, each after all that it leads to
was accounted for. The root itself, which may have another configuration, is not among them. -/
inductive Finished : List (Path × Document Normalized) → Prop
  | nil : Finished []
  | snoc {cache : List (Path × Document Normalized)} {r : Request} (finished : Finished cache)
      (below : Relation.TransGen (Request.Includes engine w searchDirs) root r)
      (other : w.identity r.path ≠ w.identity root.path)
      (settled : ∀ s, r.Includes engine w searchDirs s → s.Accounted engine w cache)
      (d : Document Normalized) : Finished (cache ++ [(w.identity r.path, d)])

/-- A file that can be read under one path can be read under every path that leads to it. -/
theorem read_of_identity (hw : w.Grounded) {r s : Request} {content : String}
    (hread : w.read r.path = .ok content) (hs : w.isFile s.path = true)
    (hid : w.identity r.path = w.identity s.path) : w.read s.path = .ok content := by
  obtain ⟨ns, hns, -⟩ := read_ok hread
  obtain ⟨ms, -, hms, -⟩ := (Workspace.isFile_iff s.path).1 hs
  have hresolve : w.resolve r.path = w.resolve s.path := by
    rw [hns, hms, Workspace.resolve_eq_of_identity hw hns hms hid]
  rw [← read_eq hresolve, hread]

theorem Request.document?_eq_none {r : Request} (h : r.document? engine w = none)
    {content : String} : w.read r.path ≠ .ok content := by
  intro hread
  simp [Request.document?, hread] at h

section
variable (hw : w.Grounded)
  (hmarker : ∀ r, root.Reaches engine w searchDirs r → r.KeepsMarker engine w)
  (hfits : ∀ r, root.Reaches engine w searchDirs r → r.Fits engine w)
include hw

/-- A file that cannot be read leads nowhere. -/
theorem Request.not_leads_of_unreadable {s : Request} (hs : w.isFile s.path = true)
    (h : s.document? engine w = none) (g : Path) :
    ¬ root.Leads engine w searchDirs (w.identity s.path) g := by
  rintro ⟨r, t, -, ht, hid, -⟩
  obtain ⟨content, hread⟩ := ht.readable
  exact Request.document?_eq_none h (read_of_identity hw hread hs hid)

include hmarker hfits

/-- Requests below the root for one file lead to the same files. -/
theorem Request.Includes.of_identity {r s t : Request} (h : r.Includes engine w searchDirs t)
    (hr : Relation.TransGen (Request.Includes engine w searchDirs) root r)
    (hs : Relation.TransGen (Request.Includes engine w searchDirs) root s)
    (hid : w.identity r.path = w.identity s.path) :
    ∃ u, s.Includes engine w searchDirs u ∧ w.identity t.path = w.identity u.path := by
  obtain ⟨-, ns, hns⟩ := Request.resolve_of_transGen hr
  obtain ⟨-, ms, hms⟩ := Request.resolve_of_transGen hs
  have hpath : w.resolve r.path = w.resolve s.path := by
    rw [hns, hms, Workspace.resolve_eq_of_identity hw hns hms hid]
  have hconfig : r.config = s.config := by
    rw [Request.Reaches.config hmarker hr, Request.Reaches.config hmarker hs]
  exact h.respelled hw hpath hconfig (hfits r hr.to_reflTransGen) (hfits s hs.to_reflTransGen)

namespace Finished

variable {cache : List (Path × Document Normalized)}

omit hw hmarker hfits in
theorem exists_of_mem (h : Finished engine w searchDirs root cache) {f : Path}
    (hf : f ∈ cache.map Prod.fst) :
    ∃ r, Relation.TransGen (Request.Includes engine w searchDirs) root r ∧ w.identity r.path = f ∧
      ∀ s, r.Includes engine w searchDirs s → s.Accounted engine w cache := by
  induction h with
  | nil => cases hf
  | @snoc cache r finished below other settled d ih =>
    have hprefix : cache <+: cache ++ [(w.identity r.path, d)] := List.prefix_append _ _
    rw [List.map_append, List.mem_append] at hf
    rcases hf with hf | hf
    · obtain ⟨r', hbelow, hid, hsettled⟩ := ih hf
      exact ⟨r', hbelow, hid, fun s hs => (hsettled s hs).mono hprefix⟩
    · exact ⟨r, below, by simpa [eq_comm] using hf, fun s hs => (settled s hs).mono hprefix⟩

/-- Whatever the root leads to is accounted for, if what its own lines lead to is. -/
theorem accounted (h : Finished engine w searchDirs root cache)
    (hroot : ∀ s, root.Includes engine w searchDirs s → s.Accounted engine w cache) {s : Request}
    (hs : Relation.TransGen (Request.Includes engine w searchDirs) root s) :
    s.Accounted engine w cache := by
  induction hs with
  | single hs => exact hroot _ hs
  | @tail r s hr hs ih =>
    obtain ⟨content, hread⟩ := hs.readable
    rcases ih with hnone | hmem
    · exact absurd hread (Request.document?_eq_none hnone)
    -- another request for the file was finished, and it leads to the same files
    obtain ⟨r', hr', hid, hsettled⟩ := h.exists_of_mem hmem
    obtain ⟨u, hu, hsu⟩ := hs.of_identity hw hmarker hfits hr hr' hid.symm
    rcases hsettled u hu with hnone | hmem
    · refine .inl ?_
      rcases hd : s.document? engine w with - | d
      · rfl
      obtain ⟨content, hread, -⟩ := Request.document?_some hd
      exact absurd (read_of_identity hw hread hu.isFile hsu) (Request.document?_eq_none hnone)
    · exact .inr (hsu ▸ hmem)

omit hmarker hfits in
/-- A file that is accounted for starts no endless walk. -/
theorem acc_of_accounted {s : Request} (hs : w.isFile s.path = true)
    (haccounted : s.Accounted engine w cache)
    (hmem : ∀ f ∈ cache.map Prod.fst, Acc (Function.swap (root.Leads engine w searchDirs)) f) :
    Acc (Function.swap (root.Leads engine w searchDirs)) (w.identity s.path) := by
  rcases haccounted with hnone | hkey
  · exact ⟨_, fun g hg => absurd hg (Request.not_leads_of_unreadable hw hs hnone g)⟩
  · exact hmem _ hkey

/-- By induction on the order in which files were finished. -/
theorem acc (h : Finished engine w searchDirs root cache) :
    ∀ f ∈ cache.map Prod.fst, Acc (Function.swap (root.Leads engine w searchDirs)) f := by
  induction h with
  | nil => simp
  | @snoc cache r finished below other settled d ih =>
    rw [List.map_append, List.forall_mem_append]
    refine ⟨ih, fun f hf => ?_⟩
    obtain rfl : f = w.identity r.path := by simpa using hf
    constructor
    rintro g ⟨r', s, hr', hs, hid, rfl⟩
    rcases Relation.reflTransGen_iff_eq_or_transGen.1 hr' with rfl | hr'
    · exact absurd hid.symm other
    obtain ⟨u, hu, hsu⟩ := hs.of_identity hw hmarker hfits hr' below hid
    rw [hsu]
    exact acc_of_accounted hw hu.isFile (settled u hu) ih

/-- Where files were finished one after the other, no walk leads back to where it started. -/
theorem acyclic (h : Finished engine w searchDirs root cache)
    (hroot : ∀ s, root.Includes engine w searchDirs s → s.Accounted engine w cache) (f : Path) :
    ¬ Relation.TransGen (root.Leads engine w searchDirs) f f := by
  intro hcycle
  have hacc : Acc (Function.swap (root.Leads engine w searchDirs)) f := by
    obtain ⟨e, -, r, s, hr, hs, -, rfl⟩ := Relation.TransGen.tail'_iff.1 hcycle
    have hbelow : Relation.TransGen (Request.Includes engine w searchDirs) root s := .tail' hr hs
    exact acc_of_accounted hw hs.isFile (h.accounted hw hmarker hfits hroot hbelow)
      (h.acc hw hmarker hfits)
  have hself : Relation.TransGen (Function.swap (root.Leads engine w searchDirs)) f f :=
    Relation.transGen_swap.2 hcycle
  exact not_self_of_acc hacc.transGen hself

end Finished

end

/-! ## The search -/

variable (engine w searchDirs root) in
/-- A report that is no news of a cycle, or tells of one that is there. -/
def Warranted (d : Diagnostic) : Prop :=
  Quiet d ∨ ∃ walk origin, d = .circularInclusion walk origin ∧
    IsCycle (root.Leads engine w searchDirs) walk

theorem circularInclusion_not_quiet (walk : List Path) (origin : Position) :
    ¬ Quiet (.circularInclusion walk origin) := fun h => h.2 rfl

theorem Warranted.mild {d : Diagnostic} (h : Warranted engine w searchDirs root d) : Mild d := by
  rcases h with h | ⟨walk, origin, rfl, -⟩
  · exact h.mild
  · exact (by decide : DiagnosticKind.severity .circularInclusion < .fatal)

section
variable {σ : Type} [Sink σ]

variable (engine w searchDirs root) in
/-- From a memory on, the computation comes to a result, with the chain as it was. The cycles that
it reports are there, and if it reports none, its result and the memory it leads to have the
property. -/
def Explores {α : Type} (m : Memory) (x : Loading σ α) (Q : α → Memory → Prop) : Prop :=
  ∃ ds a m', Loading.startingAt x m = (⟨ds, .ok (a, m')⟩ : Script (α × Memory)).play ∧
    m'.chain = m.chain ∧ (∀ d ∈ ds, Warranted engine w searchDirs root d) ∧
    ((∀ d ∈ ds, Quiet d) → Q a m')

namespace Explores

variable {α β : Type} {m : Memory} {Q : α → Memory → Prop} {R : β → Memory → Prop}

theorem of_yields {x : Loading σ α} {a : α} (h : Yields Quiet x a) (ha : Q a m) :
    Explores engine w searchDirs root m x Q := by
  obtain ⟨ds, hplay, hquiet⟩ := h.startingAt m
  exact ⟨ds, a, m, hplay, rfl, fun d hd => .inl (hquiet d hd), fun _ => ha⟩

theorem mono {Q' : α → Memory → Prop} {x : Loading σ α}
    (h : Explores engine w searchDirs root m x Q) (hQ : ∀ a m', Q a m' → Q' a m') :
    Explores engine w searchDirs root m x Q' := by
  obtain ⟨ds, a, m', hplay, hchain, hwarranted, ha⟩ := h
  exact ⟨ds, a, m', hplay, hchain, hwarranted, fun hquiet => hQ a m' (ha hquiet)⟩

theorem bind {x : Loading σ α} {f : α → Loading σ β} (hx : Explores engine w searchDirs root m x Q)
    (hf : ∀ a m', m'.chain = m.chain →
      Explores engine w searchDirs root m' (f a) fun b n => Q a m' → R b n) :
    Explores engine w searchDirs root m (x >>= f) R := by
  obtain ⟨ds, a, m', hplay, hchain, hwarranted, ha⟩ := hx
  obtain ⟨es, b, n, hplay', hchain', hwarranted', hb⟩ := hf a m' hchain
  refine ⟨ds ++ es, b, n, ?_, hchain'.trans hchain, ?_, fun hquiet => ?_⟩
  · rw [startingAt_bind, hplay]
    exact Script.play_ok_bind_play hplay'
  · exact List.forall_mem_append.2 ⟨hwarranted, hwarranted'⟩
  · obtain ⟨hds, hes⟩ := List.forall_mem_append.1 hquiet
    exact hb hes (ha hds)

theorem report {d : Diagnostic} (h : Warranted engine w searchDirs root d) :
    Explores engine w searchDirs root m (SourcePrep.report d : Loading σ Unit) fun _ _ =>
      Quiet d := by
  refine ⟨[d], (), m, ?_, rfl, List.forall_mem_singleton.2 h,
    fun hquiet => hquiet d (List.mem_singleton_self d)⟩
  rw [startingAt_report]
  simp [Script.play, Script.reportAll, Script.finish]

/-- A file is put on the chain and comes off again. -/
theorem whileOpen {x : Loading σ α} {identity : Path}
    (h : Explores engine w searchDirs root ⟨m.chain ++ [identity], m.cache⟩ x fun a n =>
      Q a ⟨m.chain, n.cache⟩) :
    Explores engine w searchDirs root m (Inclusion.whileOpen identity x) Q := by
  obtain ⟨ds, a, n, hplay, hchain, hwarranted, ha⟩ := h
  refine ⟨ds, a, ⟨m.chain, n.cache⟩, ?_, rfl, hwarranted, ha⟩
  rw [startingAt_whileOpen, hplay, Script.play_ok_bind, hchain, List.dropLast_concat]
  rfl

theorem remember {Q : Unit → Memory → Prop} (identity : Path) (d : Document Normalized)
    (h : Q () ⟨m.chain, m.cache ++ [(identity, d)]⟩) :
    Explores engine w searchDirs root m (Inclusion.remember identity d : Loading σ Unit) Q :=
  ⟨[], (), _, startingAt_remember identity d m, rfl, by simp, fun _ => h⟩

end Explores

section
variable {cache cache' cache'' : List (Path × Document Normalized)}

variable (engine w searchDirs root) in
/-- More is remembered, and it was finished one after the other if that was so before. -/
structure Onward (cache cache' : List (Path × Document Normalized)) : Prop where
  grown : cache <+: cache'
  finished : Finished engine w searchDirs root cache → Finished engine w searchDirs root cache'

theorem Onward.refl (cache : List (Path × Document Normalized)) :
    Onward engine w searchDirs root cache cache :=
  ⟨List.prefix_rfl, fun h => h⟩

theorem Onward.trans (h : Onward engine w searchDirs root cache cache')
    (h' : Onward engine w searchDirs root cache' cache'') :
    Onward engine w searchDirs root cache cache'' :=
  ⟨h.grown.trans h'.grown, fun hm => h'.finished (h.finished hm)⟩

variable (engine w searchDirs root) in
/-- What resolving a request comes to when no cycle is reported: everything it leads to is accounted
for. -/
structure Searched (r : Request) (cache : List (Path × Document Normalized))
    (result : Option (Document Normalized)) (cache' : List (Path × Document Normalized)) :
    Prop where
  unreadable : result = none → r.document? engine w = none
  onward : Onward engine w searchDirs root cache cache'
  settled : ∀ s, r.Includes engine w searchDirs s → s.Accounted engine w cache'

/-- What was resolved may be remembered. -/
theorem Searched.remember {r : Request} {result : Option (Document Normalized)}
    (h : Searched engine w searchDirs root r cache result cache')
    (hbelow : Relation.TransGen (Request.Includes engine w searchDirs) root r)
    (hother : w.identity r.path ≠ w.identity root.path) :
    Onward engine w searchDirs root cache
        (cache' ++ (result.map (w.identity r.path, ·)).toList) ∧
      r.Accounted engine w (cache' ++ (result.map (w.identity r.path, ·)).toList) := by
  cases result with
  | none =>
    rw [Option.map_none, Option.toList_none, List.append_nil]
    exact ⟨h.onward, .inl (h.unreadable rfl)⟩
  | some d =>
    refine ⟨⟨h.onward.grown.trans (List.prefix_append _ _), fun hfinished => ?_⟩, .inr (by simp)⟩
    exact .snoc (h.onward.finished hfinished) hbelow hother h.settled d

end

/-- The request that a line leads to, in a file at the path and with the configuration. -/
def lineTarget? (w : Workspace) (searchDirs : List Path) (path : Path) (config : Configuration)
    (find : Matcher) (line : Line Normalized) : Option Request :=
  (askedFor find line).bind fun relative =>
    (Inclusion.resolve? w searchDirs path relative).map fun target => ⟨target, config.sessionOnly⟩

theorem Request.Includes.exists_line {r s : Request} {d : Document Normalized} {find : Matcher}
    (hd : r.document? engine w = some d)
    (hfind : engine.directive d.config includeDirective = .ok find)
    (h : r.Includes engine w searchDirs s) :
    ∃ line ∈ d.lines, lineTarget? w searchDirs r.path d.config find line = some s := by
  obtain ⟨relative, ⟨d', find', hd', hfind', hconfig, line, hline, hasked⟩, htarget⟩ := h
  obtain rfl : d = d' := Option.some.inj (hd.symm.trans hd')
  obtain rfl : find = find' := Except.ok.inj (hfind.symm.trans hfind')
  refine ⟨line, hline, ?_⟩
  rw [lineTarget?, hasked, Option.bind_some, htarget, Option.map_some, ← hconfig]

section
variable {r : Request} {load : Inclusion.Load σ} {chain : List Path}
  (hload : ∀ s, r.Includes engine w searchDirs s → ∀ origin m, m.chain = chain →
    Explores engine w searchDirs root m (load s.path origin s.config) fun _ n =>
      Onward engine w searchDirs root m.cache n.cache ∧ s.Accounted engine w n.cache)
include hload

theorem resolveLine_explores {d : Document Normalized} {find : Matcher}
    (hd : r.document? engine w = some d)
    (hfind : engine.directive d.config includeDirective = .ok find) {line : Line Normalized}
    (hline : line ∈ d.lines) {m : Memory} (hm : m.chain = chain) :
    Explores engine w searchDirs root m
      (Inclusion.resolveLine w searchDirs load r.path d.config find line) fun _ n =>
        Onward engine w searchDirs root m.cache n.cache ∧
          ∀ s, lineTarget? w searchDirs r.path d.config find line = some s →
            s.Accounted engine w n.cache := by
  rcases resolveLine_cases w searchDirs load r.path d.config find line with
    ⟨hasked, hyields⟩ | ⟨relative, hasked, ht, hyields⟩ | ⟨relative, target, hasked, ht, heq⟩
  · exact .of_yields hyields ⟨.refl _, by simp [lineTarget?, hasked]⟩
  · exact .of_yields hyields ⟨.refl _, by simp [lineTarget?, hasked, ht]⟩
  · have hincludes : r.Includes engine w searchDirs ⟨target, d.config.sessionOnly⟩ :=
      ⟨_, ⟨d, find, hd, hfind, rfl, line, hline, hasked⟩, ht⟩
    rw [heq]
    refine (hload _ hincludes line.position m hm).bind fun e n _ => .of_yields (.pure _) ?_
    rintro ⟨honward, haccounted⟩
    exact ⟨honward, by simpa [lineTarget?, hasked, ht] using haccounted⟩

theorem resolveLines_explores {d : Document Normalized} {find : Matcher}
    (hd : r.document? engine w = some d)
    (hfind : engine.directive d.config includeDirective = .ok find)
    {lines : List (Line Normalized)} (hlines : lines ⊆ d.lines) {m : Memory}
    (hm : m.chain = chain) :
    Explores engine w searchDirs root m
      (lines.mapM (Inclusion.resolveLine w searchDirs load r.path d.config find)) fun _ n =>
        Onward engine w searchDirs root m.cache n.cache ∧ ∀ line ∈ lines, ∀ s,
          lineTarget? w searchDirs r.path d.config find line = some s →
            s.Accounted engine w n.cache := by
  induction lines generalizing m with
  | nil => exact .of_yields (.pure []) ⟨.refl _, by simp⟩
  | cons line lines ih =>
    rw [List.mapM_cons]
    refine (resolveLine_explores hload hd hfind (hlines List.mem_cons_self) hm).bind
      fun out n hn => ?_
    refine (ih (fun l hl => hlines (List.mem_cons_of_mem _ hl)) (hn.trans hm)).bind
      fun outs k _ => .of_yields (.pure _) ?_
    rintro ⟨honward', hrest⟩ ⟨honward, hfirst⟩
    refine ⟨honward.trans honward', List.forall_mem_cons.2 ⟨fun s hs => ?_, hrest⟩⟩
    exact (hfirst s hs).mono honward'.grown

/-- Reading a file and resolving its lines accounts for everything that the file leads to. -/
theorem readAndResolve_explores_of_load {m : Memory} (hm : m.chain = chain) :
    Explores engine w searchDirs root m
      (Inclusion.readAndResolve engine w searchDirs load r.path r.config) fun result n =>
        Searched engine w searchDirs root r m.cache result n.cache := by
  rcases readAndResolve_cases engine w searchDirs load r with
    ⟨hd, hyields⟩ | ⟨d, failure, hd, hfind, hyields⟩ | ⟨d, find, pre, hd, hfind, hpre, heq⟩
  · refine .of_yields hyields ⟨fun _ => hd, .refl _, ?_⟩
    rintro s ⟨_, ⟨d, _, hd', -⟩, -⟩
    rw [hd] at hd'
    cases hd'
  · refine .of_yields hyields ⟨by simp, .refl _, ?_⟩
    rintro s ⟨_, ⟨d', find, hd', hfind', -⟩, -⟩
    rw [hd] at hd'
    cases hd'
    rw [hfind] at hfind'
    cases hfind'
  · rw [heq]
    refine (Explores.of_yields (Q := fun _ n => n.cache = m.cache) hpre rfl).bind fun _ n hn => ?_
    refine (resolveLines_explores hload hd hfind (fun _ h => h) (hn.trans hm)).bind
      fun outs k _ => .of_yields (.pure _) ?_
    rintro ⟨honward, haccounted⟩ hcache
    refine ⟨by simp, hcache ▸ honward, fun s hs => ?_⟩
    obtain ⟨line, hline, htarget⟩ := hs.exists_line hd hfind
    exact haccounted line hline s htarget

end

/-- A new file is opened, resolved, closed again, and remembered if it could be read. -/
theorem loadNew_explores {load : Inclusion.Load σ} {r : Request} {m : Memory}
    (h : Explores engine w searchDirs root ⟨m.chain ++ [w.identity r.path], m.cache⟩
      (Inclusion.readAndResolve engine w searchDirs load r.path r.config) fun result n =>
        Searched engine w searchDirs root r m.cache result n.cache) :
    Explores engine w searchDirs root m
      (Inclusion.loadNew engine w searchDirs load (w.identity r.path) r.path r.config) fun _ n =>
        ∃ result cache, Searched engine w searchDirs root r m.cache result cache ∧
          n.cache = cache ++ (result.map (w.identity r.path, ·)).toList := by
  rw [Inclusion.loadNew]
  refine (Explores.whileOpen (Q := fun result n =>
    Searched engine w searchDirs root r m.cache result n.cache) h).bind fun result n _ => ?_
  cases result with
  | none => exact .of_yields (.pure _) fun hresolved => ⟨none, n.cache, hresolved, by simp⟩
  | some d =>
    refine (Explores.remember (Q := fun _ k => k.cache = n.cache ++ [(w.identity r.path, d)])
      _ d rfl).bind fun _ k _ => .of_yields (.pure _) fun hcache hresolved => ?_
    exact ⟨some d, n.cache, hresolved, hcache⟩

/-- A load does what is to be done when the memory is known. -/
theorem load_explores_of_settleOr {depth : Nat} {path : Path} (origin : Position)
    {config : Configuration} {m : Memory} {Q : Document Normalized → Memory → Prop}
    (h : Explores engine w searchDirs root m
      (Inclusion.settleOr w
        (Inclusion.loadNew engine w searchDirs (Inclusion.loadWithin engine w searchDirs depth)
          (w.identity path) path config) path origin config m : Loading σ _) Q) :
    Explores engine w searchDirs root m
      (Inclusion.loadWithin engine w searchDirs (depth + 1) path origin config : Loading σ _)
      Q := by
  obtain ⟨ds, a, n, hplay, hchain, hwarranted, ha⟩ := h
  obtain ⟨pre, hpre, hquiet⟩ := reportMissing_yields (σ := σ) (w := w) path
  refine ⟨pre ++ ds, a, n, ?_, hchain, ?_, fun h => ha (List.forall_mem_append.1 h).2⟩
  · rw [loadWithin_startingAt, hpre]
    exact Script.play_ok_bind_play hplay
  · exact List.forall_mem_append.2 ⟨fun d hd => .inl (hquiet d hd), hwarranted⟩

/-- A file that an open one leads to is remembered, or closes a cycle, or is new. -/
theorem load_explores {depth : Nat} {chain : List Path} {r s : Request}
    (trail : Trail engine w searchDirs root chain r) (hs : r.Includes engine w searchDirs s)
    (origin : Position) {m : Memory} (hm : m.chain = chain)
    (hnew : w.identity s.path ∉ chain →
      Explores engine w searchDirs root ⟨chain ++ [w.identity s.path], m.cache⟩
        (Inclusion.readAndResolve engine w searchDirs
          (Inclusion.loadWithin engine w searchDirs depth) s.path s.config : Loading σ _)
          fun result n =>
            Searched engine w searchDirs root s m.cache result n.cache) :
    Explores engine w searchDirs root m
      (Inclusion.loadWithin engine w searchDirs (depth + 1) s.path origin s.config : Loading σ _)
      fun _ n =>
        Onward engine w searchDirs root m.cache n.cache ∧ s.Accounted engine w n.cache := by
  refine load_explores_of_settleOr origin ?_
  rw [Inclusion.settleOr]
  cases hlook : m.cache.lookup (w.identity s.path) with
  | some d =>
    obtain ⟨before, after, hcache, -⟩ := List.lookup_eq_some_iff.1 hlook
    have hkey : w.identity s.path ∈ m.cache.map Prod.fst := by simp [hcache]
    exact .of_yields (.pure d) ⟨.refl _, .inr hkey⟩
  | none =>
    simp only [hm, List.contains_iff_mem]
    split
    · rename_i hopen
      refine (Explores.report (.inr ⟨_, origin, rfl, trail.isCycle hs hopen⟩)).bind
        fun _ n _ => .of_yields (.pure _) fun hquiet => ?_
      exact absurd hquiet (circularInclusion_not_quiet _ origin)
    · rename_i hclosed
      have hother : w.identity s.path ≠ w.identity root.path := by
        intro heq
        exact hclosed (heq ▸ trail.root_mem)
      have hbelow : Relation.TransGen (Request.Includes engine w searchDirs) root s :=
        .tail' trail.reaches hs
      refine (loadNew_explores (hm ▸ hnew hclosed)).mono ?_
      rintro _ n ⟨result, cache, hresolved, hcache⟩
      rw [hcache]
      exact hresolved.remember hbelow hother

/-- The search, by induction on the depth that is left. It is never used up: every file on the chain
that leads on is another file of the workspace. -/
theorem readAndResolve_explores (hw : w.Grounded) (depth : Nat) {chain : List Path} {r : Request}
    (trail : Trail engine w searchDirs root chain r)
    (hdepth : depth + chain.length = w.tree.fileCount + 2) {m : Memory} (hm : m.chain = chain) :
    Explores engine w searchDirs root m
      (Inclusion.readAndResolve engine w searchDirs (Inclusion.loadWithin engine w searchDirs depth)
        r.path r.config : Loading σ _) fun result n =>
          Searched engine w searchDirs root r m.cache result n.cache := by
  induction depth generalizing chain r m with
  | zero =>
    refine readAndResolve_explores_of_load (fun s hs _ _ _ => ?_) hm
    obtain ⟨content, hread⟩ := hs.readable
    have hlength := (trail.fileChain hw hread).length_le
    omega
  | succ depth ih =>
    refine readAndResolve_explores_of_load (fun s hs origin n hn => ?_) hm
    refine load_explores trail hs origin hn fun hnew => ih (trail.push hs hnew) ?_ rfl
    rw [List.length_append, List.length_singleton]
    omega

end

end

/-! ## Loading a root -/

/-- Every cycle that is reported is there: its files are different, and a line of each leads to the
next. A cycle is reported if there is one, provided that no file that is reached changes the marker
and that the system takes every path that is looked up next to such a file. -/
theorem loadRoot_detects_cycles (engine : Engine) (w : Workspace) (hw : w.Grounded)
    (searchDirs : List Path) (config : Configuration) (root : Path) :
    ∃ d ds,
      Loading.start (Inclusion.loadRoot engine w searchDirs config root) (Collector.plain []) =
        (.ok d, .plain ds) ∧
      (∀ e ∈ ds, e.kind = .circularInclusion → ∃ walk origin,
        e = .circularInclusion walk origin ∧
          IsCycle (Request.Leads engine w searchDirs ⟨root, config⟩) walk) ∧
      ((∃ e ∈ ds, e.kind = .circularInclusion) →
        ∃ f, Relation.TransGen (Request.Leads engine w searchDirs ⟨root, config⟩) f f) ∧
      ((∀ r, Request.Reaches engine w searchDirs ⟨root, config⟩ r →
          r.KeepsMarker engine w ∧ r.Fits engine w) →
        (∃ f, Relation.TransGen (Request.Leads engine w searchDirs ⟨root, config⟩) f f) →
          ∃ e ∈ ds, e.kind = .circularInclusion) := by
  have htrail : Trail engine w searchDirs ⟨root, config⟩ [w.identity root] ⟨root, config⟩ := .root
  have hread := readAndResolve_explores (σ := Collector) hw (w.tree.fileCount + 1) htrail rfl
    (m := ⟨[w.identity root], []⟩) rfl
  obtain ⟨ds, d, m, hplay, -, hwarranted, hquiet⟩ :=
    load_explores_of_settleOr (.wholeFile root) (m := .blank)
      (loadNew_explores (r := ⟨root, config⟩) (m := .blank) hread)
  have hstart : Loading.start (Inclusion.loadRoot engine w searchDirs config root) =
      ((⟨ds, .ok d⟩ : Script (Document Normalized)).play : Reporting Collector _) := by
    rw [start_eq, Inclusion.loadRoot, Inclusion.load, hplay, Script.play_ok_bind]
    rfl
  have hcircular : ∀ e ∈ ds, e.kind = .circularInclusion → ∃ walk origin,
      e = .circularInclusion walk origin ∧
        IsCycle (Request.Leads engine w searchDirs ⟨root, config⟩) walk := by
    intro e he hkind
    rcases hwarranted e he with hquiet | hcycle
    · exact absurd hkind hquiet.2
    · exact hcycle
  refine ⟨d, ds, ?_, hcircular, ?_, ?_⟩
  · rw [hstart, Script.play_plain _ fun e he => (hwarranted e he).mild]
    rfl
  · rintro ⟨e, he, hkind⟩
    obtain ⟨walk, origin, -, hwalk⟩ := hcircular e he hkind
    exact hwalk.transGen
  · rintro hreached ⟨f, hf⟩
    by_contra hnone
    have hall : ∀ e ∈ ds, Quiet e := by
      intro e he
      exact ⟨(hwarranted e he).mild, fun hkind => hnone ⟨e, he, hkind⟩⟩
    obtain ⟨result, cache, hresolved, -⟩ := hquiet hall
    exact (hresolved.onward.finished .nil).acyclic hw (fun r hr => (hreached r hr).1)
      (fun r hr => (hreached r hr).2) hresolved.settled f hf

/-- A file that leads to two others, which include each other. -/
def lasso : Workspace where
  tree := .directory [
    ("m", .file (.text "include \"./a\"\n")),
    ("a", .file (.text "include \"b\"\n")),
    ("b", .file (.text "include \"a\"\n"))]
  workingDir := ⟨"/"⟩

theorem loadRoot_detects_cycles_lasso :
    ∃ d ds walk origin,
      Loading.start (Inclusion.loadRoot .standard lasso [] {} ⟨"m"⟩) (Collector.plain []) =
        (.ok d, .plain ds) ∧
      .circularInclusion walk origin ∈ ds ∧
      IsCycle (Request.Leads .standard lasso [] ⟨⟨"m"⟩, {}⟩) walk := by
  have hm : Request.Holds lasso ⟨⟨"m"⟩, {}⟩ [(some "./a", 1, ⟨0, "include \"./a\"\n"⟩)] := by
    decide +kernel
  have ha : Request.Holds lasso ⟨⟨"./a"⟩, {}⟩ [(some "b", 1, ⟨0, "include \"b\"\n"⟩)] := by
    decide +kernel
  have hb : Request.Holds lasso ⟨⟨"./b"⟩, {}⟩ [(some "a", 1, ⟨0, "include \"a\"\n"⟩)] := by
    decide +kernel
  let requests : List Request := [⟨⟨"m"⟩, {}⟩, ⟨⟨"./a"⟩, {}⟩, ⟨⟨"./b"⟩, {}⟩]
  have henclosed : Enclosed .standard lasso [] requests := by
    simp only [Enclosed, requests, List.forall_mem_cons, hm.targets, ha.targets, hb.targets]
    decide
  have hrest : ∀ r ∈ requests, r.KeepsMarker .standard lasso ∧ r.Fits .standard lasso := by
    simp only [requests, List.forall_mem_cons]
    exact ⟨⟨hm.keepsMarker rfl, hm.fits (by decide)⟩, ⟨ha.keepsMarker rfl, ha.fits (by decide)⟩,
      ⟨hb.keepsMarker rfl, hb.fits (by decide)⟩, by simp⟩
  have hfirst : Request.Reaches .standard lasso [] ⟨⟨"m"⟩, {}⟩ ⟨⟨"./a"⟩, {}⟩ :=
    .single (Request.includes_iff.2 (by rw [hm.targets]; decide))
  have hthere : Request.Includes .standard lasso [] ⟨⟨"./a"⟩, {}⟩ ⟨⟨"./b"⟩, {}⟩ :=
    Request.includes_iff.2 (by rw [ha.targets]; decide)
  have hback : Request.Includes .standard lasso [] ⟨⟨"./b"⟩, {}⟩ ⟨⟨"./a"⟩, {}⟩ :=
    Request.includes_iff.2 (by rw [hb.targets]; decide)
  obtain ⟨d, ds, hrun, hcycles, -, hcomplete⟩ :=
    loadRoot_detects_cycles .standard lasso ⟨[], by decide⟩ [] {} ⟨"m"⟩
  obtain ⟨e, he, hkind⟩ := hcomplete
    (fun r hr => hrest r (henclosed.mem_of_reaches (.head _) hr))
    ⟨lasso.identity ⟨"./a"⟩, .head ⟨_, _, hfirst, hthere, rfl, rfl⟩
      (.single ⟨_, _, hfirst.tail hthere, hback, rfl, rfl⟩)⟩
  obtain ⟨walk, origin, rfl, hwalk⟩ := hcycles e he hkind
  exact ⟨d, ds, walk, origin, hrun, he, hwalk⟩

/-! ## A cycle that is not reported -/

section
variable {engine : Engine} {w : Workspace} {searchDirs : List Path} {σ : Type} [Sink σ]

/-- The lines of a file that leads nowhere are resolved without a word of a cycle. -/
theorem resolveLines_leaf {r : Request} {d : Document Normalized} {find : Matcher}
    (hd : r.document? engine w = some d)
    (hfind : engine.directive d.config includeDirective = .ok find)
    (hleaf : ∀ s, ¬ r.Includes engine w searchDirs s) (load : Inclusion.Load σ)
    {lines : List (Line Normalized)} (hlines : lines ⊆ d.lines) :
    ∃ outs, Yields Quiet
      (lines.mapM (Inclusion.resolveLine w searchDirs load r.path d.config find)) outs := by
  induction lines with
  | nil => exact ⟨[], .pure []⟩
  | cons line lines ih =>
    obtain ⟨outs, houts⟩ := ih fun l hl => hlines (List.mem_cons_of_mem _ hl)
    have hline : ∃ out, Yields Quiet
        (Inclusion.resolveLine w searchDirs load r.path d.config find line) out := by
      rcases resolveLine_cases w searchDirs load r.path d.config find line with
        ⟨-, hyields⟩ | ⟨_, -, -, hyields⟩ | ⟨relative, target, hasked, ht, -⟩
      · exact ⟨_, hyields⟩
      · exact ⟨_, hyields⟩
      · exact absurd ⟨relative, ⟨d, find, hd, hfind, rfl, line, hlines List.mem_cons_self, hasked⟩,
          ht⟩ (hleaf ⟨target, d.config.sessionOnly⟩)
    obtain ⟨out, hout⟩ := hline
    rw [List.mapM_cons]
    exact ⟨_, hout.bind (houts.bind (.pure _))⟩

/-- A file that leads nowhere is loaded as it is, and remembered. -/
theorem load_leaf {r : Request} {d : Document Normalized} (hd : r.document? engine w = some d)
    (hleaf : ∀ s, ¬ r.Includes engine w searchDirs s) (depth : Nat) (origin : Position)
    {m : Memory} (hlook : m.cache.lookup (w.identity r.path) = none)
    (hnew : w.identity r.path ∉ m.chain) :
    ∃ e, Yields Quiet (Loading.startingAt (Inclusion.loadWithin engine w searchDirs (depth + 1)
      r.path origin r.config : Loading σ _) m)
      (e, ⟨m.chain, m.cache ++ [(w.identity r.path, e)]⟩) := by
  let load : Inclusion.Load σ := Inclusion.loadWithin engine w searchDirs depth
  have hread : ∃ e, Yields Quiet
      (Inclusion.readAndResolve engine w searchDirs load r.path r.config) (some e) := by
    rcases readAndResolve_cases engine w searchDirs load r with
      ⟨hnone, -⟩ | ⟨d', _, -, -, hyields⟩ | ⟨d', find, pre, hd', hfind, hpre, heq⟩
    · rw [hd] at hnone
      cases hnone
    · exact ⟨d', hyields⟩
    · obtain ⟨outs, houts⟩ := resolveLines_leaf hd' hfind hleaf load fun _ h => h
      rw [heq]
      exact ⟨_, hpre.bind (houts.bind (.pure _))⟩
  obtain ⟨e, he⟩ := hread
  refine ⟨e, load_new (fun _ h => h) hlook hnew ?_⟩
  exact loadNew_yields (he.startingAt ⟨m.chain ++ [w.identity r.path], m.cache⟩) rfl

end

/-- Two files that include each other, and a third that leads to one of them by a path that is
almost as long as the system allows, and then by a short one. -/
def knot : Workspace where
  tree := .directory [("d", .directory [
    ("m", .file (.text "include \"x\"\ninclude \"d/x\"\n")),
    ("x", .file (.text "include \"yyyy\"\nq\n")),
    ("yyyy", .file (.text "include \"d/x\"\n"))])]
  workingDir := ⟨"/"⟩

theorem knot_allowsDetours : knot.AllowsDetours := ⟨by decide, _, _, rfl, rfl⟩

theorem knot_resolve_m : knot.resolve (beyond "m") = .ok ["d", "m"] := by
  rw [resolve_beyond knot_allowsDetours (by decide) (by decide) (by decide) (by decide)]
  decide

theorem knot_resolve_x : knot.resolve (beyond "x") = .ok ["d", "x"] := by
  rw [resolve_beyond knot_allowsDetours (by decide) (by decide) (by decide) (by decide)]
  decide

/-- Under the long paths there is room for `x`, and none for `yyyy`. -/
theorem knot_lookups :
    Inclusion.resolve? knot [⟨"."⟩] (beyond "m") "x" = some (beyond "x") ∧
      Inclusion.resolve? knot [⟨"."⟩] (beyond "m") "d/x" = some ⟨"./d/x"⟩ ∧
      Inclusion.resolve? knot [⟨"."⟩] (beyond "x") "yyyy" = none := by
  refine ⟨?_, by decide, ?_⟩
  · rw [resolve?_beyond (by decide) (by decide) (isFile_beyond knot_resolve_m rfl) (by decide)
      (by decide), if_pos (isFile_beyond knot_resolve_x rfl)]
  · rw [resolve?_beyond (by decide) (by decide) (isFile_beyond knot_resolve_x rfl) (by decide)
      (by decide), isFile_beyond_long (by decide), if_neg Bool.false_ne_true]

/-- What the files hold, under short paths. -/
theorem knot_files :
    Request.Holds knot ⟨⟨"d/m"⟩, {}⟩ [(some "x", 1, ⟨0, "include \"x\"\n"⟩),
      (some "d/x", 2, ⟨0, "include \"d/x\"\n"⟩)] ∧
    Request.Holds knot ⟨⟨"./d/x"⟩, {}⟩ [(some "yyyy", 1, ⟨0, "include \"yyyy\"\n"⟩),
      (none, 2, ⟨0, "q\n"⟩)] ∧
    Request.Holds knot ⟨⟨"./d/yyyy"⟩, {}⟩ [(some "d/x", 1, ⟨0, "include \"d/x\"\n"⟩)] := by
  refine ⟨?_, ?_, ?_⟩ <;> decide +kernel

theorem knot_holds_m :
    Request.Holds knot ⟨beyond "m", {}⟩ [(some "x", 1, ⟨0, "include \"x\"\n"⟩),
      (some "d/x", 2, ⟨0, "include \"d/x\"\n"⟩)] :=
  knot_files.1.respelled (knot_resolve_m.trans (by decide)).symm rfl

theorem knot_holds_x :
    Request.Holds knot ⟨beyond "x", {}⟩ [(some "yyyy", 1, ⟨0, "include \"yyyy\"\n"⟩),
      (none, 2, ⟨0, "q\n"⟩)] :=
  knot_files.2.1.respelled (knot_resolve_x.trans (by decide)).symm rfl

/-- Under the short path the file is part of a cycle. Under the long one it leads nowhere. -/
theorem knot_targets :
    Request.targets .standard knot [⟨"."⟩] ⟨beyond "m", {}⟩ =
        [⟨beyond "x", {}⟩, ⟨⟨"./d/x"⟩, {}⟩] ∧
      Request.targets .standard knot [⟨"."⟩] ⟨beyond "x", {}⟩ = [] ∧
      Request.targets .standard knot [⟨"."⟩] ⟨⟨"./d/x"⟩, {}⟩ = [⟨⟨"./d/yyyy"⟩, {}⟩] ∧
      Request.targets .standard knot [⟨"."⟩] ⟨⟨"./d/yyyy"⟩, {}⟩ = [⟨⟨"./d/x"⟩, {}⟩] := by
  obtain ⟨hx, hnear, hnone⟩ := knot_lookups
  obtain ⟨-, hholds, hholds'⟩ := knot_files
  rw [knot_holds_m.targets, knot_holds_x.targets, hholds.targets, hholds'.targets]
  refine ⟨?_, ?_, by decide, by decide⟩
  · simp [hx, hnear]
  · simp [hnone]

theorem knot_keepsMarker {r : Request}
    (hr : Request.Reaches .standard knot [⟨"."⟩] ⟨beyond "m", {}⟩ r) :
    r.KeepsMarker .standard knot := by
  let requests : List Request :=
    [⟨beyond "m", {}⟩, ⟨beyond "x", {}⟩, ⟨⟨"./d/x"⟩, {}⟩, ⟨⟨"./d/yyyy"⟩, {}⟩]
  obtain ⟨hm, hx, hnear, hyyyy⟩ := knot_targets
  have henclosed : Enclosed .standard knot [⟨"."⟩] requests := by
    simp only [Enclosed, requests, List.forall_mem_cons, hm, hx, hnear, hyyyy]
    simp
  have hkeeps : ∀ r ∈ requests, r.KeepsMarker .standard knot := by
    simp only [requests, List.forall_mem_cons]
    exact ⟨knot_holds_m.keepsMarker rfl, knot_holds_x.keepsMarker rfl,
      knot_files.2.1.keepsMarker rfl, knot_files.2.2.keepsMarker rfl, by simp⟩
  exact hkeeps r (henclosed.mem_of_reaches (.head _) hr)

/-- The file is reached under the long path first, and is remembered as it is there. The cycle that
it is part of under the short path is never entered. -/
theorem loadRoot_misses_cycle_knot :
    knot.Grounded ∧
    (∀ r, Request.Reaches .standard knot [⟨"."⟩] ⟨beyond "m", {}⟩ r →
      r.KeepsMarker .standard knot) ∧
    (∃ f, Relation.TransGen (Request.Leads .standard knot [⟨"."⟩] ⟨beyond "m", {}⟩) f f) ∧
    ∃ d ds,
      Loading.start (Inclusion.loadRoot .standard knot [⟨"."⟩] {} (beyond "m"))
        (Collector.plain []) = (.ok d, .plain ds) ∧
      ∀ e ∈ ds, e.kind ≠ .circularInclusion := by
  have hw : knot.Grounded := ⟨[], by decide⟩
  obtain ⟨hm, hx, hnear, hyyyy⟩ := knot_targets
  refine ⟨hw, fun r hr => knot_keepsMarker hr, ⟨knot.identity ⟨"./d/x"⟩, ?_⟩, ?_⟩
  · have hfirst : Request.Reaches .standard knot [⟨"."⟩] ⟨beyond "m", {}⟩ ⟨⟨"./d/x"⟩, {}⟩ :=
      .single (Request.includes_iff.2 (by simp [hm]))
    have hthere : Request.Includes .standard knot [⟨"."⟩] ⟨⟨"./d/x"⟩, {}⟩ ⟨⟨"./d/yyyy"⟩, {}⟩ :=
      Request.includes_iff.2 (by simp [hnear])
    have hback : Request.Includes .standard knot [⟨"."⟩] ⟨⟨"./d/yyyy"⟩, {}⟩ ⟨⟨"./d/x"⟩, {}⟩ :=
      Request.includes_iff.2 (by simp [hyyyy])
    exact .head ⟨_, _, hfirst, hthere, rfl, rfl⟩
      (.single ⟨_, _, hfirst.tail hthere, hback, rfl, rfl⟩)
  · obtain ⟨d, l₁, l₂, hd, hconfig, hl, ⟨h₁, -⟩, h₂, -⟩ := knot_holds_m.pair
    have hsession : d.config.sessionOnly = {} := hconfig ▸ rfl
    obtain ⟨dx, hdx, -⟩ := knot_holds_x.exists_document
    have hsame : knot.identity ⟨"./d/x"⟩ = knot.identity (beyond "x") := by
      rw [(Workspace.identity_of_resolve hw knot_resolve_x).1]
      decide
    have hother : knot.identity (beyond "x") ≠ knot.identity (beyond "m") := by
      rw [(Workspace.identity_of_resolve hw knot_resolve_x).1,
        (Workspace.identity_of_resolve hw knot_resolve_m).1]
      decide
    have hleaf : ∀ s, ¬ Request.Includes .standard knot [⟨"."⟩] ⟨beyond "x", {}⟩ s := by
      intro s hs
      simpa [hx] using Request.includes_iff.1 hs
    obtain ⟨e, he⟩ := load_leaf (σ := Collector) (m := ⟨[knot.identity (beyond "m")], []⟩) hdx hleaf
      knot.tree.fileCount l₁.position rfl (by simpa using hother)
    have hload := load_pair (σ := Collector) (y := e) hd (hconfig ▸ directive_plain) hl h₁ h₂
      knot_lookups.1 knot_lookups.2.1 hsame (hsession ▸ he) (by simp)
    obtain ⟨ds, hrun, hquiet⟩ := hload.plain fun _ h => h.mild
    exact ⟨_, ds, hrun, fun e he => (hquiet e he).2⟩

end SourcePrep
