import SourcePrep.Proofs.DocumentText
import SourcePrep.Proofs.PathResolution

/-!
# Paths as long as the system allows

The system takes paths of up to `Workspace.maxPath` bytes. A path can be made longer without leading
elsewhere, by detours through a directory and back, up to a point where what lies next to the file
cannot be asked for any more: `beyond` spells a path in the directory `d` so that there is room for
a name of three bytes. The conditions under which a file means the same under each of its spellings
are needed because of such paths.

* `resolve_beyond`: where such a path leads.
* `resolve?_beyond`: an inclusion leads to a file next to it, if there is room for its name.
-/

set_option autoImplicit false

namespace SourcePrep

/-- A directory, spelled with detours through the directory it lies in. -/
def detourText : Nat → String
  | 0 => "d"
  | n + 1 => detourText n ++ "/../d"

theorem size_detourText (n : Nat) : Text.size (detourText n) = 5 * n + 1 := by
  induction n with
  | zero => rfl
  | succ n ih =>
    rw [detourText, Text.size_append, ih]
    rfl

theorem toList_detourText (n : Nat) :
    (detourText n).toList = 'd' :: (List.replicate n ['/', '.', '.', '/', 'd']).flatten := by
  induction n with
  | zero => rfl
  | succ n ih =>
    rw [detourText, String.toList_append, ih, List.replicate_succ', List.flatten_append]
    simp

theorem segments_detourText (n : Nat) :
    Path.segments (detourText (n + 1)).toList =
      Path.segments (detourText n).toList ++ [['.', '.'], ['d']] := by
  rw [detourText, String.toList_append, show "/../d".toList = '/' :: "../d".toList from rfl,
    Path.segments_append_slash]
  rfl

theorem getLast?_detourText (n : Nat) : (detourText n).toList.getLast? = some 'd' := by
  cases n with
  | zero => rfl
  | succ n =>
    rw [detourText, String.toList_append, List.getLast?_append]
    rfl

theorem nul_not_mem_detourText (n : Nat) : '\x00' ∉ (detourText n).toList := by
  induction n with
  | zero => decide
  | succ n ih =>
    rw [detourText, String.toList_append, List.mem_append, not_or]
    exact ⟨ih, by decide⟩

/-- A path in the directory `d`, with detours. -/
def beyond (name : String) : Path := ⟨detourText 818 ++ "/" ++ name⟩

theorem toList_beyond (name : String) :
    (beyond name).text.toList = (detourText 818).toList ++ '/' :: name.toList := by
  rw [beyond, String.toList_append, String.toList_append, List.append_assoc]
  rfl

theorem size_beyond (name : String) : Text.size (beyond name).text = Text.size name + 4092 := by
  rw [beyond, Text.size_append, Text.size_append, size_detourText, show Text.size "/" = 1 from rfl]
  omega

theorem join_beyond (name : String) (h : Path.isAbsolute ⟨name⟩ = false) :
    (⟨detourText 818⟩ : Path).join ⟨name⟩ = beyond name := by
  have hne : (detourText 818).isEmpty = false := by
    rw [detourText]
    simp
  rw [Path.join, h, if_neg Bool.false_ne_true, hne]
  simp [getLast?_detourText, beyond]

theorem parent_beyond {name : String} (hslash : '/' ∉ name.toList)
    (hname : (Path.Component.ofSegment? name.toList).isSome) :
    (beyond name).parent? = some ⟨detourText 818⟩ := by
  have hlast : Path.segments name.toList = [name.toList] := by
    simpa using @Path.segments_intercalate [name.toList] (by simp) (by simpa using hslash)
  have hstart : Path.splitStart (beyond name).text.toList = ([], (beyond name).text.toList) := by
    rw [toList_beyond, toList_detourText]
    rfl
  have hparts : Path.segments (beyond name).text.toList =
      Path.segments (detourText 818).toList ++ name.toList :: [] := by
    rw [toList_beyond, Path.segments_append_slash, hlast]
  have hkept : Path.trimParts (Path.segments (detourText 818).toList) =
      Path.segments (detourText 818).toList := by
    rw [segments_detourText, ← List.singleton_append, ← List.append_assoc,
      Path.trimParts_concat (by decide)]
  rw [Path.parent?_eq hstart hparts (by rw [hparts, Path.trimParts_concat hname]), hkept,
    Path.intercalate_segments, List.nil_append, String.ofList_toList]

/-! ## Where the paths lead -/

/-- The program runs at the top of the tree, and finds a directory `d` there. -/
structure Workspace.AllowsDetours (w : Workspace) : Prop where
  atTop : Workspace.namesOf w.workingDir = []
  directory : ∃ top entries, w.tree = .directory top ∧ top.lookup "d" = some (.directory entries)

section
variable {w : Workspace}

theorem Workspace.AllowsDetours.follow (h : w.AllowsDetours) (n : Nat) :
    w.follow [] (Path.bodySteps (detourText n).toList) = .ok ["d"] := by
  obtain ⟨-, top, entries, htree, hd⟩ := h
  have hdown : w.follow [] [.down "d"] = .ok ["d"] := by
    simp [Workspace.follow, FileTree.find, htree, hd,
      show ¬ Workspace.maxName < Text.size "d" by decide]
  induction n with
  | zero => exact hdown
  | succ n ih =>
    have hsteps : Path.bodySteps (detourText (n + 1)).toList =
        Path.bodySteps (detourText n).toList ++ [.up, .down "d"] := by
      rw [Path.bodySteps, segments_detourText, List.filterMap_append]
      rfl
    have hfind : w.tree.find ["d"] = some (.directory entries) := by
      simp [FileTree.find, htree, FileTree.entries, hd]
    rw [hsteps, Workspace.follow_append, ih]
    show w.follow ["d"] [.up, .down "d"] = _
    rw [Workspace.follow, hfind]
    exact hdown

theorem resolve_beyond (hw : w.AllowsDetours) {name : String} (hsize : Text.size name ≤ 3)
    (hnul : '\x00' ∉ name.toList) (habs : Path.isAbsolute ⟨name⟩ = false)
    (hne : name.toList ≠ []) : w.resolve (beyond name) = w.follow ["d"] (Path.steps ⟨name⟩) := by
  have hrefused : Workspace.refused? (beyond name) = none := by
    have hnul' : '\x00' ∉ (beyond name).text.toList := by
      rw [toList_beyond, List.mem_append, not_or]
      refine ⟨nul_not_mem_detourText 818, ?_⟩
      simp [hnul]
    have hfull : (beyond name).text.isEmpty = false := by simp [beyond]
    have hfits : ¬ Workspace.maxPath < Text.size (beyond name).text := by
      rw [size_beyond, Workspace.maxPath]
      omega
    simp [Workspace.refused?, hnul', hfull, hfits]
  have hstart : w.start (beyond name) = [] := by
    rw [Workspace.start]
    split
    · rfl
    · exact hw.atTop
  rw [Workspace.resolve, hrefused, hstart, ← join_beyond name habs, Path.steps_join _ habs hne,
    Workspace.follow_append, hw.follow 818]
  rfl

theorem isFile_beyond {name : String} {names : List String} {content : Content}
    (h : w.resolve (beyond name) = .ok names)
    (hfile : w.tree.find names = some (.file content)) : w.isFile (beyond name) = true :=
  (Workspace.isFile_iff _).2 ⟨names, content, h, h, hfile⟩

/-- There is no room for a longer name. -/
theorem isFile_beyond_long {name : String} (h : 3 < Text.size name) :
    w.isFile (beyond name) = false := by
  rw [Bool.eq_false_iff, ne_eq, Workspace.isFile_iff]
  rintro ⟨names, content, hresolve, -⟩
  have hsize : Workspace.maxPath < Text.size (beyond name).text := by
    rw [size_beyond, Workspace.maxPath]
    omega
  have hrefused := (Workspace.resolve_ok hresolve).1
  rw [Workspace.refused?] at hrefused
  split at hrefused
  · cases hrefused
  · split at hrefused
    · cases hrefused
    · cases hrefused

/-- What is not in the working directory is looked up next to the file. -/
theorem resolve?_beyond {name relative : String} (hslash : '/' ∉ name.toList)
    (hname : (Path.Component.ofSegment? name.toList).isSome)
    (hfile : w.isFile (beyond name) = true) (habs : Path.isAbsolute ⟨relative⟩ = false)
    (hnot : w.isFile ((w.includingDir ⟨"."⟩).join ⟨relative⟩) = false) :
    Inclusion.resolve? w [⟨"."⟩] (beyond name) relative =
      if w.isFile (beyond relative) then some (beyond relative) else none := by
  have hdir : w.includingDir (beyond name) = ⟨detourText 818⟩ := by
    rw [Workspace.includingDir, if_pos hfile, parent_beyond hslash hname, Option.getD_some]
  simp [Inclusion.resolve?, hnot, hdir, join_beyond relative habs, List.find?_singleton]

end

end SourcePrep
