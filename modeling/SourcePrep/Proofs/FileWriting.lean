import SourcePrep.Proofs.Inlining
import SourcePrep.Proofs.PathResolution

/-!
# Writing files

A change to a workspace puts one tree in a place: a file where there was a file or nothing, or a
directory where there was nothing. `FileTree.Kept` is what every such change keeps, and it is all
that following a path needs.

* `write_read`: what was written to a path is read from it.
* `write_keeps_read`: what a path led to before a write is read from it afterwards, unless the write
  went to that place.
* `makeDirectoriesWithin_kept`: making directories takes nothing away.
-/

set_option autoImplicit false

namespace SourcePrep

/-! ## Places in a tree -/

namespace FileTree

theorem lookup_entry (first other : String) (t : FileTree) (es : List (String × FileTree)) :
    ((first, t) :: es).lookup other = if other = first then some t else es.lookup other := by
  rw [List.lookup_cons]
  by_cases h : other = first
  · simp [h]
  · simp [h, beq_false_of_ne h]

theorem lookup_putEntry (name : String) (t : FileTree) (es : List (String × FileTree))
    (other : String) :
    (putEntry name t es).lookup other = if other = name then some t else es.lookup other := by
  induction es with
  | nil => rw [putEntry, lookup_entry]
  | cons e es ih =>
    obtain ⟨first, old⟩ := e
    rw [putEntry, lookup_entry first]
    split
    · rename_i hfirst
      subst hfirst
      rw [lookup_entry]
      split <;> rfl
    · rename_i hfirst
      rw [lookup_entry, ih]
      by_cases h : other = first
      · rw [if_pos h, if_pos h, if_neg (h ▸ hfirst)]
      · rw [if_neg h, if_neg h]

theorem find_append (t : FileTree) (a b : List String) :
    t.find (a ++ b) = (t.find a).bind fun s => s.find b := by
  induction a generalizing t with
  | nil => rfl
  | cons name a ih =>
    rw [List.cons_append, find, find, Option.bind_assoc]
    exact Option.bind_congr fun entry _ => ih entry

theorem find_insert_cons (t : FileTree) (name : String) (rest : List String) (new : FileTree)
    (other : String) (more : List String) :
    (t.insert (name :: rest) new).find (other :: more) =
      if other = name then (((t.entries.lookup name).getD empty).insert rest new).find more
      else t.find (other :: more) := by
  rw [insert, find, find, FileTree.entries, lookup_putEntry]
  split
  · rfl
  · rfl

theorem find_insert_self (t : FileTree) (names : List String) (new : FileTree) :
    (t.insert names new).find names = some new := by
  induction names generalizing t with
  | nil => rfl
  | cons name rest ih => rw [find_insert_cons, if_pos rfl, ih]

/-- Nothing changes at a place that lies neither on the way nor below. -/
theorem find_insert_apart {t new : FileTree} {names other : List String} (h : ¬ names <+: other)
    (h' : ¬ other <+: names) : (t.insert names new).find other = t.find other := by
  induction names generalizing t other with
  | nil => exact absurd List.nil_prefix h
  | cons name rest ih =>
    rcases other with - | ⟨first, more⟩
    · exact absurd List.nil_prefix h'
    · rw [find_insert_cons]
      split
      · rename_i hfirst
        subst hfirst
        rw [List.cons_prefix_cons] at h h'
        have hrest : ¬ rest <+: more := fun hp => h ⟨rfl, hp⟩
        have hmore : ¬ more <+: rest := fun hp => h' ⟨rfl, hp⟩
        rw [ih hrest hmore, find]
        cases t.entries.lookup first with
        | some entry => rfl
        | none =>
          rcases more with - | ⟨second, more⟩
          · exact absurd List.nil_prefix hmore
          · rfl
      · rfl

/-- What lies on the way is a directory. -/
theorem find_insert_way (t : FileTree) (names : List String) (name : String) (rest : List String)
    (new : FileTree) :
    ∃ entries, (t.insert (names ++ name :: rest) new).find names = some (.directory entries) := by
  induction names generalizing t with
  | nil => exact ⟨_, rfl⟩
  | cons first names ih =>
    rw [List.cons_append, find_insert_cons, if_pos rfl]
    exact ih _

/-- The other tree has every directory and every place of the tree. -/
structure Kept (t t' : FileTree) : Prop where
  directory : ∀ {names : List String} {entries : List (String × FileTree)},
    t.find names = some (.directory entries) →
      ∃ entries', t'.find names = some (.directory entries')
  isSome : ∀ {names : List String}, (t.find names).isSome = true → (t'.find names).isSome = true

theorem Kept.refl (t : FileTree) : Kept t t := ⟨fun h => ⟨_, h⟩, fun h => h⟩

theorem Kept.trans {t t' t'' : FileTree} (h : Kept t t') (h' : Kept t' t'') : Kept t t'' := by
  refine ⟨fun hfind => ?_, fun hfind => h'.isSome (h.isSome hfind)⟩
  obtain ⟨entries', hfind'⟩ := h.directory hfind
  exact h'.directory hfind'

section
variable {t : FileTree} {dir : List String} {entries : List (String × FileTree)} {name : String}
  (hdir : t.find dir = some (.directory entries))
  (hfree : ∀ entry, entries.lookup name = some entry → entry.isFile = true)
include hdir

theorem find_entry : t.find (dir ++ [name]) = entries.lookup name := by
  rw [find_append, hdir, Option.bind_some, find, FileTree.entries]
  cases entries.lookup name <;> rfl

include hfree

/-- Below a file there is nothing. -/
theorem find_below_entry (first : String) (more : List String) :
    t.find (dir ++ [name] ++ first :: more) = none := by
  rw [find_append, find_entry hdir]
  cases hentry : entries.lookup name with
  | none => rfl
  | some entry =>
    rcases entry with content | inner
    · rfl
    · cases hfree _ hentry

/-- The places that one change leaves as they are: those on the way, which stay directories, and
those that lie elsewhere. -/
theorem insert_cases (new : FileTree) {names : List String} (hne : names ≠ dir ++ [name])
    (hthere : (t.find names).isSome = true) :
    ((∃ entries', t.find names = some (.directory entries')) ∧
      ∃ entries', (t.insert (dir ++ [name]) new).find names = some (.directory entries')) ∨
    (t.insert (dir ++ [name]) new).find names = t.find names := by
  by_cases hway : names <+: dir ++ [name]
  · -- a place on the way to the change: what lies below it now shows that it is a directory
    left
    obtain ⟨rest, hrest⟩ := hway
    rcases List.eq_nil_or_concat rest with rfl | ⟨front, last, rfl⟩
    · exact absurd (by simpa using hrest) hne
    · rw [List.concat_eq_append, ← List.append_assoc] at hrest
      obtain ⟨rfl, -⟩ := List.append_inj' hrest rfl
      constructor
      · rw [find_append, Option.bind_eq_some_iff] at hdir
        obtain ⟨at_names, hat, hbelow⟩ := hdir
        rcases at_names with content | inner
        · rcases front with - | ⟨first, front⟩
          · cases hbelow
          · cases hbelow
        · exact ⟨inner, hat⟩
      · rcases front with - | ⟨first, front⟩
        · rw [List.append_nil]
          exact find_insert_way t names name [] new
        · rw [List.append_assoc]
          exact find_insert_way t names first (front ++ [name]) new
  · right
    by_cases hbelow : dir ++ [name] <+: names
    · -- there was no place below it
      obtain ⟨rest, rfl⟩ := hbelow
      rcases rest with - | ⟨first, more⟩
      · simp at hne
      · rw [find_below_entry hdir hfree] at hthere
        cases hthere
    · exact find_insert_apart hbelow hway

theorem kept_insert (new : FileTree) : Kept t (t.insert (dir ++ [name]) new) := by
  constructor
  · intro names found hfound
    have hne : names ≠ dir ++ [name] := by
      rintro rfl
      rw [find_entry hdir] at hfound
      cases hfree _ hfound
    rcases insert_cases hdir hfree new hne (by rw [hfound]; rfl) with ⟨-, h⟩ | h
    · exact h
    · exact ⟨found, h.trans hfound⟩
  · intro names hthere
    by_cases hne : names = dir ++ [name]
    · subst hne
      rw [find_insert_self]
      rfl
    · rcases insert_cases hdir hfree new hne hthere with ⟨-, _, h⟩ | h
      · rw [h]
        rfl
      · rw [h]
        exact hthere

/-- A file in another place stays. -/
theorem find_insert_file (new : FileTree) {names : List String} {content : Content}
    (hne : names ≠ dir ++ [name]) (hfile : t.find names = some (.file content)) :
    (t.insert (dir ++ [name]) new).find names = some (.file content) := by
  rcases insert_cases hdir hfree new hne (by rw [hfile]; rfl) with ⟨⟨_, h⟩, -⟩ | h
  · rw [hfile] at h
    cases h
  · exact h.trans hfile

end

end FileTree

/-! ## Following paths after a change -/

namespace Workspace

variable {w w' : Workspace}

/-- The other workspace runs in the same place, and has every directory and every place. -/
structure Kept (w w' : Workspace) : Prop where
  tree : w.tree.Kept w'.tree
  workingDir : w'.workingDir = w.workingDir

theorem Kept.refl (w : Workspace) : w.Kept w := ⟨.refl _, rfl⟩

theorem Kept.trans {w'' : Workspace} (h : w.Kept w') (h' : w'.Kept w'') : w.Kept w'' :=
  ⟨h.tree.trans h'.tree, h'.workingDir.trans h.workingDir⟩

theorem follow_down_iff {dir : List String} {entries : List (String × FileTree)}
    (hdir : w.tree.find dir = some (.directory entries)) (name : String) (found : List String) :
    w.follow dir [.down name] = .ok found ↔
      Text.size name ≤ maxName ∧ (w.tree.find (dir ++ [name])).isSome = true ∧
        found = dir ++ [name] := by
  rw [follow, hdir, FileTree.find_entry hdir]
  simp only
  split
  · rename_i hlong
    simp only [reduceCtorEq, false_iff]
    omega
  · rename_i hshort
    split
    · rename_i hthere
      simp only [follow, Except.ok.injEq, hthere, true_and]
      exact ⟨fun h => ⟨by omega, h.symm⟩, fun h => h.2.symm⟩
    · rename_i hmissing
      simp [hmissing]

/-- Steps lead where they led. -/
theorem Kept.follow (h : w.Kept w') {names found : List String} {steps : List Segment}
    (hf : w.follow names steps = .ok found) : w'.follow names steps = .ok found := by
  induction steps generalizing names with
  | nil => exact hf
  | cons step rest ih =>
    rw [← List.singleton_append] at hf ⊢
    obtain ⟨next, hstep, hrest⟩ := follow_append_ok hf
    rw [follow_append]
    have hstep' : w'.follow names [step] = .ok next := by
      obtain ⟨entries, next', hdir, hnext, hcases⟩ := follow_cons_ok hstep
      obtain ⟨entries', hdir'⟩ := h.tree.directory hdir
      cases step with
      | here =>
        rw [Workspace.follow, hdir] at hstep
        rw [Workspace.follow, hdir']
        exact hstep
      | up =>
        rw [Workspace.follow, hdir] at hstep
        rw [Workspace.follow, hdir']
        exact hstep
      | down name =>
        rw [follow_down_iff hdir] at hstep
        rw [follow_down_iff hdir']
        exact ⟨hstep.1, h.tree.isSome hstep.2.1, hstep.2.2⟩
    rw [hstep']
    exact ih hrest

theorem Kept.start (h : w.Kept w') (p : Path) : w'.start p = w.start p := by
  rw [Workspace.start, Workspace.start, h.workingDir]

theorem Kept.resolve (h : w.Kept w') {p : Path} {names : List String}
    (hp : w.resolve p = .ok names) : w'.resolve p = .ok names := by
  obtain ⟨hrefused, hfollow⟩ := resolve_ok hp
  rw [Workspace.resolve, hrefused, h.start]
  exact h.follow hfollow

/-- Where steps lead there is something, if there is where they start. -/
theorem find_follow {names found : List String} {steps : List Segment}
    (hn : (w.tree.find names).isSome = true) (h : w.follow names steps = .ok found) :
    (w.tree.find found).isSome = true := by
  induction steps generalizing names with
  | nil =>
    cases h
    exact hn
  | cons step rest ih =>
    rw [← List.singleton_append] at h
    obtain ⟨next, hstep, hrest⟩ := follow_append_ok h
    refine ih ?_ hrest
    obtain ⟨entries, next', hdir, hnext, ⟨rfl, rfl⟩ | ⟨rfl, rfl⟩ | ⟨name, rfl, rfl⟩⟩ :=
      follow_cons_ok hstep
    · cases hnext
      exact hn
    · cases hnext
      obtain ⟨_, hup⟩ := find_dropLast hdir
      rw [hup]
      rfl
    · rw [follow_down_iff hdir] at hstep
      rw [hstep.2.2]
      exact hstep.2.1

/-! ## Changes -/

/-- The path names an entry of a directory which is a file, or is missing. -/
structure Writable (w : Workspace) (p : Path) (dir : List String) (name : String) : Prop where
  taken : refused? p = none
  way : w.follow (w.start p) p.steps.dropLast = .ok dir
  last : p.steps.getLast? = some (.down name)
  short : Text.size name ≤ maxName
  free : ∃ entries, w.tree.find dir = some (.directory entries) ∧
    ∀ entry, entries.lookup name = some entry → entry.isFile = true

/-- The workspace with a tree in a place. -/
def put (w : Workspace) (names : List String) (t : FileTree) : Workspace :=
  { w with tree := w.tree.insert names t }

namespace Writable

variable {p : Path} {dir : List String} {name : String}

theorem kept (h : w.Writable p dir name) (t : FileTree) : w.Kept (w.put (dir ++ [name]) t) := by
  obtain ⟨entries, hdir, hfree⟩ := h.free
  exact ⟨FileTree.kept_insert hdir hfree t, rfl⟩

/-- After the change the path leads to the place. -/
theorem resolve_put (h : w.Writable p dir name) (t : FileTree) :
    (w.put (dir ++ [name]) t).resolve p = .ok (dir ++ [name]) := by
  obtain ⟨entries, hdir, -⟩ := h.free
  have hsteps : p.steps = p.steps.dropLast ++ [.down name] := by
    obtain ⟨front, hfront⟩ := List.getLast?_eq_some_iff.1 h.last
    rw [hfront, List.dropLast_concat]
  have hway := (h.kept t).follow h.way
  obtain ⟨entries', hdir'⟩ := (h.kept t).tree.directory hdir
  have hdown : (w.put (dir ++ [name]) t).follow dir [.down name] = .ok (dir ++ [name]) := by
    rw [follow_down_iff hdir']
    refine ⟨h.short, ?_, rfl⟩
    rw [put, FileTree.find_insert_self]
    rfl
  rw [resolve, h.taken, (h.kept t).start, hsteps, follow_append, hway]
  exact hdown

end Writable

theorem find_workingDir (hw : w.isDirectory ⟨"."⟩ = true) :
    ∃ entries, w.tree.find (namesOf w.workingDir) = some (.directory entries) := by
  have hresolve : w.resolve ⟨"."⟩ = w.follow (namesOf w.workingDir) [.here] := rfl
  rw [isDirectory, find?, hresolve, follow] at hw
  split at hw
  · exact ⟨_, ‹_›⟩
  · cases hw
  · cases hw

theorem find_start (hw : w.isDirectory ⟨"."⟩ = true) (p : Path) :
    (w.tree.find (w.start p)).isSome = true := by
  rw [start]
  split
  · rfl
  · obtain ⟨entries, hdir⟩ := find_workingDir hw
    rw [hdir]
    rfl

theorem Kept.isDirectory (h : w.Kept w') {p : Path} (hp : w.isDirectory p = true) :
    w'.isDirectory p = true := by
  rw [Workspace.isDirectory, find?] at hp ⊢
  rcases hr : w.resolve p with e | names
  · rw [hr] at hp
    cases hp
  · rw [hr] at hp
    rw [h.resolve hr]
    simp only [Except.toOption, Option.bind_some] at hp ⊢
    rcases ht : w.tree.find names with - | content | entries
    · rw [ht] at hp
      cases hp
    · rw [ht] at hp
      cases hp
    · obtain ⟨entries', h'⟩ := h.tree.directory ht
      rw [h']
      rfl

theorem entryAt_ok {p : Path} {dir : List String} {last : Option Segment}
    (h : w.entryAt p = .ok (dir, last)) :
    refused? p = none ∧ w.follow (w.start p) p.steps.dropLast = .ok dir ∧
      last = p.steps.getLast? := by
  rw [entryAt] at h
  split at h
  · cases h
  · rename_i htaken
    rcases hway : w.follow (w.start p) p.steps.dropLast with e | mid
    · rw [hway] at h
      cases h
    · rw [hway] at h
      cases h
      exact ⟨htaken, rfl, rfl⟩

/-- An entry that can be looked up and is no directory, or that is not there, can be written. -/
theorem writable_of_follow (hw : w.isDirectory ⟨"."⟩ = true) {p : Path} {dir : List String}
    {name : String} (hentry : w.entryAt p = .ok (dir, some (.down name)))
    (h : w.follow dir [.down name] = .error .notFound ∨
      ∃ names, w.follow dir [.down name] = .ok names ∧
        (w.tree.find names).any FileTree.isDirectory = false) : w.Writable p dir name := by
  obtain ⟨htaken, hway, hlast⟩ := entryAt_ok hentry
  have hthere := find_follow (find_start hw p) hway
  rcases hdir : w.tree.find dir with - | content | entries
  · rw [hdir] at hthere
    cases hthere
  · rcases h with h | ⟨_, h, -⟩ <;> rw [follow, hdir] at h <;> cases h
  refine ⟨htaken, hway, hlast.symm, ?_, entries, hdir, ?_⟩
  · rcases h with h | ⟨names, h, -⟩
    · rw [follow, hdir] at h
      simp only at h
      split at h
      · cases h
      · omega
    · exact ((follow_down_iff hdir name names).1 h).1
  · intro entry hfound
    rcases h with h | ⟨names, h, hfile⟩
    · rw [follow, hdir] at h
      simp only [hfound] at h
      split at h <;> cases h
    · obtain ⟨-, -, rfl⟩ := (follow_down_iff hdir name names).1 h
      rw [FileTree.find_entry hdir, hfound] at hfile
      cases entry with
      | file content => rfl
      | directory inner => cases hfile

theorem write_ok (hw : w.isDirectory ⟨"."⟩ = true) {p : Path} {text : String}
    (h : w.write p text = .ok w') :
    ∃ dir name, w.Writable p dir name ∧ w' = w.put (dir ++ [name]) (.file (.text text)) := by
  rw [write] at h
  rcases hentry : w.entryAt p with e | ⟨dir, last⟩
  · rw [hentry] at h
    cases h
  · simp only [hentry, bind, Except.bind] at h
    split at h
    · rename_i found name heq
      cases heq
      refine ⟨dir, name, ?_⟩
      split at h
      · rename_i names hnames
        split at h
        · cases h
        · rename_i hfile
          cases h
          exact ⟨writable_of_follow hw hentry (.inr ⟨names, hnames, by simpa using hfile⟩), rfl⟩
      · rename_i hmissing
        cases h
        exact ⟨writable_of_follow hw hentry (.inl hmissing), rfl⟩
      · cases h
    · split at h <;> cases h
    · cases h

/-- What was written to a path is read from it. -/
theorem write_read (hw : w.isDirectory ⟨"."⟩ = true) {p : Path} {text : String}
    (h : w.write p text = .ok w') : w'.read p = .ok text := by
  obtain ⟨dir, name, hwritable, rfl⟩ := write_ok hw h
  rw [read, hwritable.resolve_put]
  simp only [bind, Except.bind, put, FileTree.find_insert_self]

theorem write_kept (hw : w.isDirectory ⟨"."⟩ = true) {p : Path} {text : String}
    (h : w.write p text = .ok w') : w.Kept w' := by
  obtain ⟨dir, name, hwritable, rfl⟩ := write_ok hw h
  exact hwritable.kept _

/-- What is read from a path stays, unless the write went to its place. -/
theorem write_keeps_read (hw : w.isDirectory ⟨"."⟩ = true) {p q : Path} {text held : String}
    (h : w.write p text = .ok w') (hq : w.read q = .ok held)
    (hne : w.resolve q ≠ w'.resolve p) : w'.read q = .ok held := by
  obtain ⟨dir, name, hwritable, rfl⟩ := write_ok hw h
  obtain ⟨names, hnames, hfile⟩ := read_ok hq
  rw [hnames, hwritable.resolve_put, ne_eq, Except.ok.injEq] at hne
  obtain ⟨entries, hdir, hfree⟩ := hwritable.free
  have hstay := FileTree.find_insert_file hdir hfree (.file (.text text)) hne hfile
  rw [read, (hwritable.kept _).resolve hnames]
  simp only [bind, Except.bind, put, hstay]

theorem makeDirectory_kept (hw : w.isDirectory ⟨"."⟩ = true) {p : Path}
    (h : w.makeDirectory p = .ok w') : w.Kept w' := by
  simp only [makeDirectory, bind, Except.bind] at h
  split at h
  · cases h
  · rename_i found hentry
    split at h
    · rename_i dir name
      split at h
      · cases h
      · rename_i hmissing
        cases h
        exact (writable_of_follow hw hentry (.inl hmissing)).kept _
      · cases h
    · split at h <;> cases h
    · cases h

/-- Making directories takes nothing away. By induction on the number of directories. -/
theorem makeDirectoriesWithin_kept {fuel : Nat} (hw : w.isDirectory ⟨"."⟩ = true) {p : Path}
    (h : makeDirectoriesWithin fuel w p = .ok w') : w.Kept w' := by
  induction fuel generalizing w w' p with
  | zero => cases h
  | succ fuel ih =>
    unfold makeDirectoriesWithin at h
    split at h
    · cases h
      exact .refl _
    · split at h
      · rename_i hmade
        cases h
        exact makeDirectory_kept hw hmade
      · simp only [bind, Except.bind] at h
        split at h
        · cases h
        · rename_i parent hparent
          split at h
          · cases h
          · rename_i between hbetween
            have hkept := ih hw hbetween
            have hw' := hkept.isDirectory hw
            split at h
            · rename_i hmade
              cases h
              exact hkept.trans (makeDirectory_kept hw' hmade)
            · split at h <;> cases h
              exact hkept
      · split at h <;> cases h
        exact .refl _

end Workspace

end SourcePrep
