import SourcePrep.CommandLine.Run
import SourcePrep.Proofs.FileWriting

/-!
# The files that a run writes

Each document goes to a file in the output directory that is named after the file stem of its root.

* `outputPath_eq`: the name is the stem without its own last extension, and then the extension of
  preprocessed files. A stem with a dot inside loses what follows the last one.
* `discover_stem`: every root that was found has a stem.
* `writeEach_reads`: after the documents are written, a name holds the text of the last root that it
  is the name for; by induction on the documents that are left.
* `writeInto_holds`: what this comes to for the roots of a run.
-/

set_option autoImplicit false

namespace SourcePrep

/-! ## The last part of a path -/

namespace Path

/-- The last part of a path, and what stands before it: nothing, or a text that ends in a slash. -/
theorem exists_lastPart (cs : List Char) :
    ∃ base last, cs = base ++ last ∧ '/' ∉ last ∧ (base = [] ∨ ∃ x, base = x ++ ['/']) := by
  rcases List.eq_nil_or_concat (segments cs) with hnil | ⟨front, last, hparts⟩
  · exact absurd hnil (segments_ne_nil cs)
  rw [List.concat_eq_append] at hparts
  have hmem : last ∈ segments cs := by simp [hparts]
  have hlast : '/' ∉ last := not_mem_segments hmem
  have htext := intercalate_segments cs
  rw [hparts] at htext
  by_cases hfront : front = []
  · subst hfront
    exact ⟨[], last, by simpa using htext.symm, hlast, .inl rfl⟩
  · rw [intercalate_concat hfront] at htext
    exact ⟨['/'].intercalate front ++ ['/'], last, by simp [htext], hlast, .inr ⟨_, rfl⟩⟩

theorem segments_part {part : List Char} (h : '/' ∉ part) : segments part = [part] := by
  have hparts : segments (['/'].intercalate [part]) = [part] :=
    segments_intercalate (by simp) (by simpa using h)
  simpa using hparts

/-- A part behind a slash, or at the start, is the last one. -/
theorem segments_base {base part : List Char} (hbase : base = [] ∨ ∃ x, base = x ++ ['/'])
    (hpart : '/' ∉ part) : ∃ front, segments (base ++ part) = front ++ [part] := by
  rcases hbase with rfl | ⟨x, rfl⟩
  · exact ⟨[], by simpa using segments_part hpart⟩
  · refine ⟨segments x, ?_⟩
    rw [List.append_assoc, List.singleton_append, segments_append_slash, segments_part hpart]

/-- What is left of such a text without its first character. -/
theorem base_tail {c : Char} {base : List Char} (h : ∃ x, c :: base = x ++ ['/']) :
    base = [] ∨ ∃ x, base = x ++ ['/'] := by
  obtain ⟨x, hx⟩ := h
  rcases x with - | ⟨d, x⟩
  · exact .inl (List.cons.inj hx).2
  · exact .inr ⟨x, (List.cons.inj hx).2⟩

section
variable {p : Path} {base part : List Char} (htext : p.text.toList = base ++ part)
  (hbase : base = [] ∨ ∃ x, base = x ++ ['/']) (hpart : '/' ∉ part)
include htext hbase hpart

/-- The start of a path does not reach into its last part. -/
theorem splitStart_base (hne : part ≠ []) (hdot : part ≠ ['.']) :
    ∃ inner, base = (splitStart p.text.toList).1 ++ inner ∧
      (splitStart p.text.toList).2 = inner ++ part ∧ (inner = [] ∨ ∃ x, inner = x ++ ['/']) := by
  rcases hbase with rfl | hbase
  · refine ⟨[], ?_⟩
    rw [List.nil_append] at htext
    have := splitStart_name hne hdot hpart []
    rw [List.append_nil] at this
    rw [htext, this]
    simp
  · have hcons : ∃ first inner, base = first :: inner := by
      obtain ⟨x, rfl⟩ := hbase
      exact List.exists_cons_of_ne_nil (by simp)
    obtain ⟨first, inner, rfl⟩ := hcons
    rcases splitStart_cases p.text.toList with ⟨b, hb, hs⟩ | ⟨hb, -⟩ | ⟨b, hb, hs⟩ | ⟨-, -, -, hs⟩
    · rw [htext, List.cons_append, List.cons.injEq] at hb
      obtain ⟨rfl, rfl⟩ := hb
      exact ⟨inner, by rw [hs]; rfl, by rw [hs], base_tail hbase⟩
    · obtain ⟨x, hx⟩ := hbase
      rw [htext, hx] at hb
      have := congrArg (fun cs => decide ('/' ∈ cs)) hb
      simp at this
    · rw [htext, List.cons_append, List.cons.injEq] at hb
      obtain ⟨rfl, hb⟩ := hb
      exact ⟨inner, by rw [hs]; rfl, by rw [hs, hb], base_tail hbase⟩
    · exact ⟨first :: inner, by rw [hs]; rfl, by rw [hs, htext], .inr hbase⟩

/-- The last part is the last segment, and the text before it is what stands before. -/
theorem lastSegment_eq (hc : (Component.ofSegment? part).isSome = true) :
    p.lastSegment = ⟨some part, base⟩ := by
  have hne : part ≠ [] := by
    rintro rfl
    cases hc
  have hdot : part ≠ ['.'] := by
    rintro rfl
    cases hc
  obtain ⟨inner, hstart, hbody, hinner⟩ := splitStart_base htext hbase hpart hne hdot
  have hkept : trimParts (segments (splitStart p.text.toList).2) =
      segments (splitStart p.text.toList).2 := by
    obtain ⟨front, hfront⟩ := segments_base hinner hpart
    rw [hbody, hfront, trimParts_concat hc]
  rw [lastSegment]
  simp only [splitLast]
  rw [show (List.dropWhile _ (segments (splitStart p.text.toList).2).reverse).reverse = _
    from hkept, hbody]
  rcases hinner with rfl | ⟨x, rfl⟩
  · rw [List.nil_append, segments_part hpart]
    simp [hstart]
  · rw [List.append_assoc, List.singleton_append, segments_append_slash, segments_part hpart]
    simp [hstart, intercalate_segments, segments_ne_nil]

theorem getLast?_components {c : Component} (hc : Component.ofSegment? part = some c) :
    p.components.getLast? = some c := by
  have hlast : ∀ front, ((front ++ [part]).filterMap Component.ofSegment?).getLast? = some c := by
    intro front
    simp [hc]
  have hdot : part ≠ ['.'] := by
    rintro rfl
    cases hc
  rw [components]
  split
  · rename_i body hbody
    rw [htext] at hbody
    rcases base with - | ⟨d, base⟩
    · rw [List.nil_append] at hbody
      simp [hbody] at hpart
    · rw [List.cons_append, List.cons.injEq] at hbody
      obtain ⟨front, hfront⟩ := segments_base (base_tail (by simpa using hbase)) hpart
      rw [← hbody.2, hfront, List.getLast?_cons_of_ne_nil (by simp [hc])]
      exact hlast front
  · obtain ⟨front, hfront⟩ := segments_base hbase hpart
    rw [htext, hfront]
    split
    · rename_i body hbody
      rcases front with - | ⟨first, front⟩
      · rw [List.nil_append, List.cons.injEq] at hbody
        exact absurd hbody.1 hdot
      · rw [List.cons_append, List.cons.injEq] at hbody
        rw [← hbody.2, List.getLast?_cons_of_ne_nil (by simp [hc])]
        exact hlast front
    · exact hlast front

end

/-! ## Stems -/

/-- The stem ends before a dot that is not the first character, and after which there is none. -/
theorem stemLength?_some {name : List Char} {n : Nat} (h : stemLength? name = some n) :
    0 < n ∧ ∃ after, name = name.take n ++ '.' :: after := by
  simp only [stemLength?, Option.ite_none_right_eq_some, Option.some.injEq] at h
  obtain ⟨⟨hlt, hpos⟩, rfl⟩ := h
  refine ⟨hpos, ?_⟩
  have hsplit := List.takeWhile_append_dropWhile (p := (· ≠ '.')) (l := name.reverse)
  rcases hrest : name.reverse.dropWhile (· ≠ '.') with - | ⟨c, front⟩
  · rw [hrest, List.append_nil] at hsplit
    rw [hsplit, List.length_reverse] at hlt
    omega
  · have hc : c = '.' := by
      have := List.head?_dropWhile_not (· ≠ '.') name.reverse
      rw [hrest] at this
      simpa using this
    subst hc
    rw [hrest] at hsplit
    have hname : name = front.reverse ++
        '.' :: (name.reverse.takeWhile (· ≠ '.')).reverse := by
      have := congrArg List.reverse hsplit
      simpa using this.symm
    refine ⟨(name.reverse.takeWhile (· ≠ '.')).reverse, ?_⟩
    have hlen : name.length - (name.reverse.takeWhile (· ≠ '.')).length - 1 =
        front.reverse.length := by
      have := congrArg List.length hname
      simp only [List.length_append, List.length_cons, List.length_reverse] at this ⊢
      omega
    rw [hlen]
    conv => rhs; lhs; rw [hname, List.take_left]
    exact hname

/-- A name without a dot behind its first character is its own stem. -/
theorem stemOf_eq_self {name : String} (h : '.' ∉ name.toList.drop 1) : stemOf name = name := by
  rw [stemOf]
  split
  · rename_i n hn
    obtain ⟨hpos, after, hname⟩ := stemLength?_some hn
    exfalso
    apply h
    rw [hname]
    rcases hfront : name.toList.take n with - | ⟨c, front⟩
    · rw [hfront, List.nil_append] at hname
      rw [hname, List.take_cons hpos] at hfront
      cases hfront
    · simp
  · rfl

theorem stemOf_proper {name : String} (h : ProperName name) : ProperName (stemOf name) := by
  rw [stemOf]
  split
  · rename_i n hn
    obtain ⟨hpos, -⟩ := stemLength?_some hn
    refine ⟨?_, ?_⟩
    · rw [String.toList_ofList, ne_eq, List.take_eq_nil_iff]
      rintro (rfl | hnil)
      · omega
      · exact h.1 hnil
    · rw [String.toList_ofList]
      exact fun hmem => h.2 (List.mem_of_mem_take hmem)
  · exact h

theorem fileStem?_proper {p : Path} {stem : String} (h : p.fileStem? = some stem) :
    ProperName stem := by
  rw [fileStem?, Option.map_eq_some_iff] at h
  obtain ⟨name, hname, rfl⟩ := h
  rw [fileName?] at hname
  split at hname
  · rename_i n hn
    cases hname
    exact stemOf_proper (spellable_of_component (List.mem_of_getLast? hn)).proper
  · cases hname

end Path

/-! ## Output paths -/

theorem ProperName.relative {n : String} (h : ProperName n) : Path.isAbsolute ⟨n⟩ = false := by
  rw [Path.isAbsolute, decide_eq_false_iff_not]
  intro hhead
  exact h.2 (List.mem_of_mem_head? hhead)

/-- A name that is no step up or to the same place. -/
theorem ofSegment?_name {n : String} (hn : ProperName n) (hdot : n ≠ ".") (hup : n ≠ "..") :
    Path.Component.ofSegment? n.toList = some (.name n) ∧
      Segment.ofPart? n.toList = some (.down n) := by
  rcases Path.part_cases n.toList with ⟨h, -⟩ | ⟨h, -⟩ | ⟨h, -⟩ | ⟨hc, hs⟩
  · exact absurd h hn.1
  · exact absurd (String.toList_inj.1 h) hdot
  · exact absurd (String.toList_inj.1 h) hup
  · rw [String.ofList_toList] at hc hs
    exact ⟨hc, hs⟩

namespace Path

/-- What a directory puts before a name. -/
theorem exists_base (dir : Path) :
    ∃ base, (∀ n, ProperName n → (dir.join ⟨n⟩).text.toList = base ++ n.toList) ∧
      (base = [] ∨ ∃ x, base = x ++ ['/']) := by
  by_cases hempty : dir.text = ""
  · refine ⟨[], fun n hn => ?_, .inl rfl⟩
    simp [join, hn.relative, hempty]
  · by_cases hslash : dir.text.toList.getLast? = some '/'
    · obtain ⟨x, hx⟩ := List.getLast?_eq_some_iff.1 hslash
      refine ⟨dir.text.toList, fun n hn => ?_, .inr ⟨x, hx⟩⟩
      simp [join, hn.relative, hslash]
    · refine ⟨dir.text.toList ++ ['/'], fun n hn => ?_, .inr ⟨_, rfl⟩⟩
      simp [join, hn.relative, hslash, hempty]

theorem steps_name {n : String} (hn : ProperName n) {step : Segment}
    (hs : Segment.ofPart? n.toList = some step) : (⟨n⟩ : Path).steps = [step] := by
  have hslash : n.toList.getLast? ≠ some '/' := fun h => hn.2 (List.mem_of_getLast? h)
  rw [steps, segments_part hn.2, if_neg hslash]
  simp [hs]

end Path

/-- The name of the file that the output of a root with the given stem goes to. -/
def outputName (stem : String) : String := Path.stemOf stem ++ "." ++ outputExtension

theorem outputName_proper {stem : String} (h : ProperName stem) : ProperName (outputName stem) := by
  have hstem := Path.stemOf_proper h
  refine ⟨by simp [outputName, outputExtension], ?_⟩
  simpa [outputName, outputExtension] using hstem.2

theorem outputName_name {stem : String} (h : ProperName stem) :
    Segment.ofPart? (outputName stem).toList = some (.down (outputName stem)) := by
  have hlong : ∀ n : String, n.toList.length < 4 → outputName stem ≠ n := by
    rintro n hn rfl
    have hlength : (outputName stem).toList.length = (Path.stemOf stem).toList.length + 4 := by
      simp only [outputName, outputExtension, String.toList_append, List.length_append]
      rfl
    omega
  exact (ofSegment?_name (outputName_proper h) (hlong _ (by decide)) (hlong _ (by decide))).2

theorem outputPath_eq {root dir : Path} {stem : String} (hstem : root.fileStem? = some stem)
    (hdot : stem ≠ ".") (hup : stem ≠ "..") :
    outputPath root dir = dir.join ⟨outputName stem⟩ := by
  have hproper := Path.fileStem?_proper hstem
  obtain ⟨hname, -⟩ := ofSegment?_name hproper hdot hup
  obtain ⟨base, htext, hbase⟩ := dir.exists_base
  have hlast := Path.getLast?_components (htext stem hproper) hbase hproper.2 hname
  have hsegment := Path.lastSegment_eq (htext stem hproper) hbase hproper.2 (by rw [hname]; rfl)
  have hfile : (dir.join ⟨stem⟩).fileStem? = some (Path.stemOf stem) := by
    rw [Path.fileStem?, Path.fileName?, hlast]
    rfl
  rw [outputPath, hstem, Option.getD_some, Path.withExtension, hfile]
  simp only [hsegment]
  have hjoin := htext (outputName stem) (outputName_proper hproper)
  rw [Path.mk.injEq, ← String.toList_inj, hjoin]
  simp [outputName, String.append_assoc]

/-- The stem `..` leads out of the directory, and nothing can be written there. -/
theorem write_up {w w' : Workspace} (hw : w.isDirectory ⟨"."⟩ = true) {root dir : Path}
    {text : String} (hstem : root.fileStem? = some "..") :
    w.write (outputPath root dir) text ≠ .ok w' := by
  intro h
  have hproper : ProperName ".." := ⟨by decide, by decide⟩
  obtain ⟨base, htext, hbase⟩ := dir.exists_base
  have hlast := Path.getLast?_components (c := .parent) (htext ".." hproper) hbase hproper.2 rfl
  have hpath : outputPath root dir = dir.join ⟨".."⟩ := by
    rw [outputPath, hstem, Option.getD_some, Path.withExtension, Path.fileStem?, Path.fileName?,
      hlast]
    rfl
  obtain ⟨names, name, hwritable, -⟩ := Workspace.write_ok hw h
  have hend := hwritable.last
  rw [hpath, Path.steps_join dir hproper.relative hproper.1, Path.steps_name hproper rfl] at hend
  simp at hend

/-! ## The roots of a run -/

theorem fileStem?_isSome_of_last {p : Path} {base part : List Char}
    (htext : p.text.toList = base ++ part) (hbase : base = [] ∨ ∃ x, base = x ++ ['/'])
    (hpart : '/' ∉ part) (hne : part ≠ []) (hdot : part ≠ ['.']) (hup : part ≠ ['.', '.']) :
    ∃ stem, p.fileStem? = some stem := by
  rcases Path.part_cases part with ⟨h, -⟩ | ⟨h, -⟩ | ⟨h, -⟩ | ⟨hc, -⟩
  · exact absurd h hne
  · exact absurd h hdot
  · exact absurd h hup
  · have hlast := Path.getLast?_components htext hbase hpart hc
    rw [Path.fileStem?, Path.fileName?, hlast]
    exact ⟨_, rfl⟩

/-- A path that names a file ends in a name. -/
theorem fileStem?_of_isFile {w : Workspace} {p : Path} (h : w.isFile p = true) :
    ∃ stem, p.fileStem? = some stem := by
  obtain ⟨names, content, hresolve, -, hfile⟩ := (Workspace.isFile_iff p).1 h
  obtain ⟨htaken, hfollow⟩ := Workspace.resolve_ok hresolve
  have hslash : p.text.toList.getLast? ≠ some '/' := by
    intro hslash
    rw [Workspace.isFile_slash hslash] at h
    cases h
  obtain ⟨base, part, htext, hpart, hbase⟩ := Path.exists_lastPart p.text.toList
  have hsteps : ∀ step, Segment.ofPart? part = some step →
      ∃ front, p.steps = front ++ [step] := by
    intro step hstep
    obtain ⟨front, hfront⟩ := Path.segments_base hbase hpart
    rw [Path.steps, if_neg hslash, htext, hfront]
    exact ⟨front.filterMap Segment.ofPart?, by simp [hstep]⟩
  -- a last step that stays or goes up leads to a directory
  have hdirectory : ∀ step, (step = .here ∨ step = .up) → Segment.ofPart? part ≠ some step := by
    intro step hstep hof
    obtain ⟨front, hfront⟩ := hsteps step hof
    rw [hfront] at hfollow
    obtain ⟨mid, -, hlast⟩ := Workspace.follow_append_ok hfollow
    obtain ⟨entries, next, hdir, hnext, hcases⟩ := Workspace.follow_cons_ok hlast
    cases hnext
    obtain ⟨-, rfl⟩ | ⟨-, rfl⟩ | ⟨name, rfl, -⟩ := hcases
    · rw [hdir] at hfile
      cases hfile
    · obtain ⟨_, hup⟩ := Workspace.find_dropLast hdir
      rw [hup] at hfile
      cases hfile
    · rcases hstep with hstep | hstep <;> cases hstep
  refine fileStem?_isSome_of_last htext hbase hpart ?_ ?_ ?_
  · rintro rfl
    rcases hbase with rfl | ⟨x, rfl⟩
    · have hempty : p.text = "" := by simpa using htext
      rw [Workspace.refused?, hempty] at htaken
      cases htaken
    · rw [htext] at hslash
      simp at hslash
  · rintro rfl
    exact hdirectory .here (.inl rfl) rfl
  · rintro rfl
    exact hdirectory .up (.inr rfl) rfl

/-- The path ends in the extension of source files. -/
def EndsAsSource (p : Path) : Prop := ("." ++ sourceExtension).toList <:+ p.text.toList

theorem fileStem?_of_endsAsSource {p : Path} (h : EndsAsSource p) :
    ∃ stem, p.fileStem? = some stem := by
  obtain ⟨base, part, htext, hpart, hbase⟩ := Path.exists_lastPart p.text.toList
  -- a shorter last part would put a slash into the extension
  have hlong : 5 ≤ part.length := by
    by_contra hshort
    rcases hbase with rfl | ⟨x, rfl⟩
    · have := h.length_le
      rw [htext, List.nil_append] at this
      exact hshort this
    · have hsuffix : '/' :: part <:+ p.text.toList := ⟨x, by simp [htext]⟩
      have hmem : '/' ∈ ("." ++ sourceExtension).toList := by
        refine (List.suffix_of_suffix_length_le hsuffix h ?_).subset List.mem_cons_self
        have : ("." ++ sourceExtension).toList.length = 5 := by decide
        rw [List.length_cons, this]
        omega
      exact absurd hmem (by decide)
  refine fileStem?_isSome_of_last htext hbase hpart ?_ ?_ ?_
  · rintro rfl
    simp at hlong
  · rintro rfl
    simp at hlong
  · rintro rfl
    simp at hlong

theorem suffix_join (dir q : Path) : q.text.toList <:+ (dir.join q).text.toList := by
  rw [Path.join]
  split
  · exact List.suffix_refl _
  · split
    · exact ⟨dir.text.toList, by simp⟩
    · exact ⟨dir.text.toList ++ ['/'], by simp⟩

theorem isSourceName_of_isWanted {verdict : Option Ignore.Verdict} {name : String}
    (h : Discovery.isWanted verdict name false = true) : Discovery.isSourceName name = true := by
  unfold Discovery.isWanted at h
  split at h
  · cases h
  · simpa using h
  · simpa using h

mutual

theorem walk_ends {w : Workspace} {s : Discovery.Search} {sets : List Ignore.Ruleset}
    {path q : Path} : ∀ t : FileTree, q ∈ Discovery.walk w s sets path t →
      (t.isDirectory = false ∧ q = path) ∨ EndsAsSource q
  | .file content, h => .inl ⟨rfl, by simpa [Discovery.walk] using h⟩
  | .directory entries, h => by
    rw [Discovery.walk] at h
    exact .inr (walkEntries_ends entries h)

theorem walkEntries_ends {w : Workspace} {s : Discovery.Search} {sets : List Ignore.Ruleset}
    {path q : Path} : ∀ entries : List (String × FileTree),
      q ∈ Discovery.walkEntries w s sets path entries → EndsAsSource q
  | [], h => by simp [Discovery.walkEntries] at h
  | (name, t) :: rest, h => by
    simp only [Discovery.walkEntries, List.mem_append] at h
    rcases h with h | h
    · split at h
      · rename_i hwanted
        rcases walk_ends t h with ⟨hfile, rfl⟩ | h
        · rw [hfile] at hwanted
          have hname := isSourceName_of_isWanted hwanted
          rw [Discovery.isSourceName, List.isSuffixOf_iff_suffix] at hname
          exact hname.trans (suffix_join path ⟨name⟩)
        · exact h
      · cases h
    · exact walkEntries_ends rest h

end

theorem walk_directory_ends {w : Workspace} {s : Discovery.Search} {sets : List Ignore.Ruleset}
    {dir q : Path} (hdir : w.isDirectory dir = true)
    (h : q ∈ (w.tree.find ((w.resolve dir).toOption.getD [])).elim []
      (Discovery.walk w s sets dir)) : EndsAsSource q := by
  rw [Workspace.isDirectory, Workspace.find?] at hdir
  rcases hnames : (w.resolve dir).toOption with - | names
  · rw [hnames] at hdir
    cases hdir
  · rw [hnames, Option.bind_some] at hdir
    rw [hnames, Option.getD_some] at h
    rcases htree : w.tree.find names with - | t
    · rw [htree] at hdir
      cases hdir
    · rw [htree] at hdir h
      rcases walk_ends t h with ⟨hfile, -⟩ | h
      · rw [Option.any_some, hfile] at hdir
        cases hdir
      · exact h

theorem searchAll_ends {w : Workspace} {dirs found : List Path} {known : List Discovery.Outer}
    (hdirs : ∀ dir ∈ dirs, w.isDirectory dir = true)
    (h : Discovery.searchAll w known dirs = .ok found) : ∀ q ∈ found, EndsAsSource q := by
  induction dirs generalizing known found with
  | nil =>
    cases h
    simp
  | cons dir rest ih =>
    have hrest := fun d hd => hdirs d (List.mem_cons_of_mem _ hd)
    rw [Discovery.searchAll] at h
    split at h
    · exact ih hrest h
    · simp only [bind, Except.bind] at h
      split at h
      · cases h
      · split at h
        · cases h
        · rename_i others hothers
          cases h
          intro q hq
          rcases List.mem_append.1 hq with hq | hq
          · exact walk_directory_ends (hdirs dir List.mem_cons_self) hq
          · exact ih hrest hothers q hq

theorem dedup_subset {ps : List Path} {q : Path} (h : q ∈ Discovery.dedup ps) : q ∈ ps := by
  fun_induction Discovery.dedup ps with
  | case1 => exact h
  | case2 => exact h
  | case3 p p' rest hsame ih =>
    have := ih h
    simp only [List.mem_cons] at this ⊢
    tauto
  | case4 p p' rest hsame ih =>
    rcases List.mem_cons.1 h with rfl | h
    · exact List.mem_cons_self
    · exact List.mem_cons_of_mem _ (ih h)

/-- Every root that was found has a stem. -/
theorem discover_stem {w : Workspace} {paths roots : List Path}
    (h : discover w paths = .ok roots) {root : Path} (hroot : root ∈ roots) :
    ∃ stem, root.fileStem? = some stem := by
  rw [discover] at h
  split at h
  · cases h
  · simp only [bind, Except.bind] at h
    split at h
    · cases h
    · rename_i found hfound
      cases h
      have hmem := dedup_subset hroot
      rw [List.mem_mergeSort, List.mem_append] at hmem
      rcases hmem with hmem | hmem
      · exact fileStem?_of_isFile (List.mem_filter.1 hmem).2
      · exact fileStem?_of_endsAsSource
          (searchAll_ends (fun d hd => (List.mem_filter.1 hd).2) hfound root hmem)

/-! ## Writing the documents -/

namespace CommandLine

/-- The text of the last document whose root has the output name. -/
def lastText? (s : Settings) (name : String) : List (Path × Document Normalized) → Option String
  | [] => none
  | (root, d) :: rest =>
    (lastText? s name rest).or
      (if root.fileStem?.map outputName = some name then some (render s d) else none)

theorem lastText?_eq_none {s : Settings} {name : String}
    {outputs : List (Path × Document Normalized)}
    (h : ∀ o ∈ outputs, o.1.fileStem?.map outputName ≠ some name) :
    lastText? s name outputs = none := by
  induction outputs with
  | nil => rfl
  | cons o rest ih =>
    obtain ⟨root, d⟩ := o
    have hroot : root.fileStem?.map outputName ≠ some name := h (root, d) List.mem_cons_self
    rw [lastText?, ih fun o ho => h o (List.mem_cons_of_mem _ ho), Option.none_or, if_neg hroot]

/-- Every name of a root has a last document. -/
theorem exists_lastText {s : Settings} {name : String} {outputs : List (Path × Document Normalized)}
    {root : Path} {d : Document Normalized} (hmem : (root, d) ∈ outputs)
    (hname : root.fileStem?.map outputName = some name) :
    ∃ text, lastText? s name outputs = some text := by
  induction outputs with
  | nil => cases hmem
  | cons o rest ih =>
    obtain ⟨first, e⟩ := o
    rw [lastText?]
    rcases List.mem_cons.1 hmem with hfirst | hmem
    · cases hfirst
      cases lastText? s name rest with
      | none => exact ⟨render s d, by rw [Option.none_or, if_pos hname]⟩
      | some text => exact ⟨text, rfl⟩
    · obtain ⟨text, htext⟩ := ih hmem
      exact ⟨text, by rw [htext, Option.some_or]⟩

/-- A name that is shared by no two roots belongs to the document of its root. -/
theorem lastText?_of_pairwise {s : Settings} {name : String}
    {outputs : List (Path × Document Normalized)}
    (h : outputs.Pairwise fun o o' =>
      o.1.fileStem?.map outputName ≠ o'.1.fileStem?.map outputName)
    {root : Path} {d : Document Normalized} (hmem : (root, d) ∈ outputs)
    (hname : root.fileStem?.map outputName = some name) :
    lastText? s name outputs = some (render s d) := by
  induction outputs with
  | nil => cases hmem
  | cons o rest ih =>
    obtain ⟨first, e⟩ := o
    rw [List.pairwise_cons] at h
    rw [lastText?]
    rcases List.mem_cons.1 hmem with hfirst | hmem
    · cases hfirst
      have hnone := lastText?_eq_none (s := s) fun o ho heq =>
        h.1 o ho (hname.trans heq.symm)
      rw [hnone, Option.none_or, if_pos hname]
    · rw [ih h.2 hmem, Option.some_or]

section
variable {w w' : Workspace} {s : Settings} {dir : Path}

/-- A path behind the directory that ends in a name leads to a place with that name. -/
theorem resolve_name {stem : String} (hstem : ProperName stem) {names : List String}
    (h : w.resolve (dir.join ⟨outputName stem⟩) = .ok names) :
    names.getLast? = some (outputName stem) := by
  have hproper := outputName_proper hstem
  obtain ⟨-, hfollow⟩ := Workspace.resolve_ok h
  rw [Path.steps_join dir hproper.relative hproper.1,
    Path.steps_name hproper (outputName_name hstem)] at hfollow
  obtain ⟨mid, -, hlast⟩ := Workspace.follow_append_ok hfollow
  obtain ⟨entries, next, hdir, -, -⟩ := Workspace.follow_cons_ok hlast
  rw [Workspace.follow_down_iff hdir] at hlast
  rw [hlast.2.2]
  simp

/-- One write, as it is seen from a name: it holds the new text, or what it held. -/
theorem write_output (hw : w.isDirectory ⟨"."⟩ = true) {root : Path} {stem : String}
    (hstem : root.fileStem? = some stem) (hdot : stem ≠ ".") {text : String}
    (h : w.write (outputPath root dir) text = .ok w') :
    w.Kept w' ∧ w'.read (dir.join ⟨outputName stem⟩) = .ok text ∧
      ∀ other held, ProperName other → outputName other ≠ outputName stem →
        w.read (dir.join ⟨outputName other⟩) = .ok held →
          w'.read (dir.join ⟨outputName other⟩) = .ok held := by
  have hup : stem ≠ ".." := by
    rintro rfl
    exact write_up hw hstem h
  have hproper := Path.fileStem?_proper hstem
  have hpath : outputPath root dir = _ := outputPath_eq hstem hdot hup
  have hread := Workspace.write_read hw h
  rw [hpath] at hread
  refine ⟨Workspace.write_kept hw h, hread, fun other held hother hne hheld => ?_⟩
  refine Workspace.write_keeps_read hw h hheld fun hsame => hne ?_
  rw [hpath] at hsame
  obtain ⟨names, hnames, -⟩ := read_ok hheld
  have hlast := resolve_name hother hnames
  rw [hsame] at hnames
  have hlast' := resolve_name hproper hnames
  exact Option.some.inj (hlast.symm.trans hlast')

/-- After the documents are written, each name holds the text of the last root that it is the name
for, and a name of none of them holds what it held. -/
theorem writeEach_reads {outputs : List (Path × Document Normalized)}
    (hw : w.isDirectory ⟨"."⟩ = true)
    (hstems : ∀ o ∈ outputs, ∃ stem, o.1.fileStem? = some stem ∧ stem ≠ ".")
    (h : writeEach (outputs.map fun (root, d) => (outputPath root dir, render s d)) w = (w', none))
    {stem : String} (hstem : ProperName stem) :
    (∀ text, lastText? s (outputName stem) outputs = some text →
      w'.read (dir.join ⟨outputName stem⟩) = .ok text) ∧
    (lastText? s (outputName stem) outputs = none →
      ∀ held, w.read (dir.join ⟨outputName stem⟩) = .ok held →
        w'.read (dir.join ⟨outputName stem⟩) = .ok held) := by
  induction outputs generalizing w with
  | nil =>
    cases h
    exact ⟨nofun, fun _ held hheld => hheld⟩
  | cons o rest ih =>
    obtain ⟨root, d⟩ := o
    obtain ⟨rootStem, hroot, hdot⟩ : ∃ stem, root.fileStem? = some stem ∧ stem ≠ "." :=
      hstems (root, d) List.mem_cons_self
    rw [List.map_cons, writeEach] at h
    rcases hwrite : w.write (outputPath root dir) (render s d) with e | w₁
    · simp [hwrite] at h
    · simp only [hwrite] at h
      obtain ⟨hkept, hread, hstay⟩ := write_output hw hroot hdot hwrite
      obtain ⟨hlater, hnone⟩ := ih (hkept.isDirectory hw)
        (fun o ho => hstems o (List.mem_cons_of_mem _ ho)) h
      simp only [lastText?, hroot, Option.map_some]
      cases hrest : lastText? s (outputName stem) rest with
      | some text =>
        rw [Option.some_or]
        exact ⟨fun text' htext => hlater text' (hrest.trans htext), nofun⟩
      | none =>
        rw [Option.none_or]
        by_cases hname : outputName rootStem = outputName stem
        · rw [hname] at hread
          rw [if_pos (congrArg some hname)]
          refine ⟨fun text htext => ?_, nofun⟩
          rw [← Option.some.inj htext]
          exact hnone hrest _ hread
        · rw [if_neg (fun h => hname (Option.some.inj h))]
          refine ⟨nofun, fun _ held hheld => ?_⟩
          exact hnone hrest held (hstay stem held hstem (Ne.symm hname) hheld)

end

theorem outputName_plain {stem : String} (h : '.' ∉ stem.toList.drop 1) :
    outputName stem = stem ++ "." ++ outputExtension := by
  rw [outputName, Path.stemOf_eq_self h]

theorem map_outputName_ne {p q : Path}
    (hp : ∀ stem, p.fileStem? = some stem → '.' ∉ stem.toList.drop 1)
    (hq : ∀ stem, q.fileStem? = some stem → '.' ∉ stem.toList.drop 1)
    (hne : p.fileStem? ≠ q.fileStem?) :
    p.fileStem?.map outputName ≠ q.fileStem?.map outputName := by
  intro h
  cases hps : p.fileStem? with
  | none =>
    cases hqs : q.fileStem? with
    | none => exact hne (hps.trans hqs.symm)
    | some m => simp [hps, hqs] at h
  | some n =>
    cases hqs : q.fileStem? with
    | none => simp [hps, hqs] at h
    | some m =>
      rw [hps, hqs, Option.map_some, Option.map_some, Option.some.injEq,
        outputName_plain (hp n hps), outputName_plain (hq m hqs)] at h
      have hnm : n = m := by simpa [← String.toList_inj, outputExtension] using h
      exact hne (by rw [hps, hqs, hnm])

theorem pairwise_zip {α β : Type} {R : α → α → Prop} {as : List α} (h : as.Pairwise R)
    (bs : List β) : (as.zip bs).Pairwise fun o o' => R o.1 o'.1 := by
  induction as generalizing bs with
  | nil => simp
  | cons a as ih =>
    cases bs with
    | nil => simp
    | cons b bs =>
      rw [List.pairwise_cons] at h
      rw [List.zip_cons_cons, List.pairwise_cons]
      exact ⟨fun o ho => h.1 o.1 (List.of_mem_zip ho).1, ih h.2 bs⟩

/-- What the output directory holds after a run has written its documents. The output of a root is
in the file with its output name, unless the output of a later root with this name has taken its
place. So when no stem has a dot inside and all are different, each root has its own text in the
file named after its stem. -/
theorem writeInto_holds {w₀ w w' : Workspace} {paths roots : List Path}
    (hroots : discover w₀ paths = .ok roots) (hw : w.isDirectory ⟨"."⟩ = true) {s : Settings}
    {dir : Path} {documents : List (Document Normalized)}
    (h : writeInto s dir (roots.zip documents) w = (w', none))
    (hdot : ∀ root ∈ roots, root.fileStem? ≠ some ".") :
    (∀ root d, (root, d) ∈ roots.zip documents →
      ∃ stem text, root.fileStem? = some stem ∧
        lastText? s (outputName stem) (roots.zip documents) = some text ∧
        w'.read (dir.join ⟨outputName stem⟩) = .ok text) ∧
    ((∀ root ∈ roots, ∀ stem, root.fileStem? = some stem → '.' ∉ stem.toList.drop 1) →
      roots.Pairwise (fun p q => p.fileStem? ≠ q.fileStem?) →
      ∀ root d, (root, d) ∈ roots.zip documents →
        ∃ stem, root.fileStem? = some stem ∧
          w'.read (dir.join ⟨stem ++ "." ++ outputExtension⟩) = .ok (render s d)) := by
  have hstems : ∀ o ∈ roots.zip documents, ∃ stem, o.1.fileStem? = some stem ∧ stem ≠ "." := by
    rintro ⟨root, d⟩ ho
    have hroot := (List.of_mem_zip ho).1
    obtain ⟨stem, hstem⟩ := discover_stem hroots hroot
    refine ⟨stem, hstem, ?_⟩
    rintro rfl
    exact hdot root hroot hstem
  have hreads : ∀ stem, ProperName stem → ∀ text,
      lastText? s (outputName stem) (roots.zip documents) = some text →
        w'.read (dir.join ⟨outputName stem⟩) = .ok text := by
    rw [writeInto] at h
    rcases hmade : w.makeDirectories dir with e | w₁
    · simp [hmade] at h
    · simp only [hmade] at h
      have hw₁ := (Workspace.makeDirectoriesWithin_kept hw hmade).isDirectory hw
      exact fun stem hstem => (writeEach_reads hw₁ hstems h hstem).1
  refine ⟨fun root d hmem => ?_, fun hplain hpairs root d hmem => ?_⟩
  · obtain ⟨stem, hstem, -⟩ : ∃ stem, root.fileStem? = some stem ∧ _ := hstems (root, d) hmem
    have hname := congrArg (Option.map outputName) hstem
    obtain ⟨text, htext⟩ := exists_lastText (s := s) hmem hname
    exact ⟨stem, text, hstem, htext, hreads stem (Path.fileStem?_proper hstem) text htext⟩
  · obtain ⟨stem, hstem, -⟩ : ∃ stem, root.fileStem? = some stem ∧ _ := hstems (root, d) hmem
    have hname := congrArg (Option.map outputName) hstem
    have hnames : (roots.zip documents).Pairwise fun o o' =>
        o.1.fileStem?.map outputName ≠ o'.1.fileStem?.map outputName := by
      refine List.Pairwise.imp_of_mem ?_ (pairwise_zip hpairs documents)
      intro o o' ho ho' hne
      exact map_outputName_ne (hplain _ (List.of_mem_zip ho).1)
        (hplain _ (List.of_mem_zip ho').1) hne
    refine ⟨stem, hstem, ?_⟩
    rw [← outputName_plain (hplain root (List.of_mem_zip hmem).1 stem hstem)]
    exact hreads stem (Path.fileStem?_proper hstem) _ (lastText?_of_pairwise hnames hmem hname)

/-- A file, and one in a directory. -/
def pair : Workspace where
  tree := .directory [
    ("a.edmh", .file (.text "one\n")),
    ("d", .directory [("b.edmh", .file (.text "two\n"))])]
  workingDir := ⟨"/"⟩

theorem discover_pair :
    discover pair [⟨"a.edmh"⟩, ⟨"d"⟩] = .ok [⟨"a.edmh"⟩, ⟨"d/b.edmh"⟩] := by
  have hmissing : Discovery.missing? pair [⟨"a.edmh"⟩, ⟨"d"⟩] = none := by decide
  have hfiles : [⟨"a.edmh"⟩, ⟨"d"⟩].filter pair.isFile = [⟨"a.edmh"⟩] := by decide
  have hfound : Discovery.searchAll pair [] ([⟨"a.edmh"⟩, ⟨"d"⟩].filter pair.isDirectory) =
      .ok [⟨"d/b.edmh"⟩] := by decide
  -- neither the sort nor what removes repetitions reduces
  have hsorted : ([⟨"a.edmh"⟩, ⟨"d/b.edmh"⟩] : List Path).Pairwise
      fun p q => (p.compare q).isLE = true := by decide
  have hdistinct : Path.same ⟨"a.edmh"⟩ ⟨"d/b.edmh"⟩ = false := by decide
  simp only [discover, hmissing, hfiles, hfound, bind, Except.bind, pure, Except.pure,
    List.singleton_append, List.mergeSort_of_pairwise hsorted, Discovery.dedup, hdistinct,
    Bool.false_eq_true, if_false]

/-- A document of one line. -/
def oneLine (text : String) : Document Normalized := .ofLines [⟨.nowhere, ⟨0, text⟩⟩] {}

theorem writeInto_holds_pair :
    let s : Settings := ⟨{}, [], .tabs, 4⟩
    let outputs : List (Path × Document Normalized) :=
      [⟨"a.edmh"⟩, ⟨"d/b.edmh"⟩].zip [oneLine "one\n", oneLine "two\n"]
    let w' := (writeInto s ⟨"out"⟩ outputs pair).1
    w'.read ⟨"out/a.edm"⟩ = .ok "one\n" ∧ w'.read ⟨"out/b.edm"⟩ = .ok "two\n" := by
  intro s outputs w'
  have hnone : (writeInto s ⟨"out"⟩ outputs pair).2.isNone := by decide +kernel
  have hwritten : writeInto s ⟨"out"⟩ outputs pair = (w', none) :=
    Prod.ext rfl (Option.isNone_iff_eq_none.1 hnone)
  have hstemA : Path.fileStem? ⟨"a.edmh"⟩ = some "a" := by decide
  have hstemB : Path.fileStem? ⟨"d/b.edmh"⟩ = some "b" := by decide
  have hplain : ∀ root ∈ ([⟨"a.edmh"⟩, ⟨"d/b.edmh"⟩] : List Path), ∀ stem,
      root.fileStem? = some stem → '.' ∉ stem.toList.drop 1 := by
    simp [hstemA, hstemB]
  have hpairs : ([⟨"a.edmh"⟩, ⟨"d/b.edmh"⟩] : List Path).Pairwise
      fun p q => p.fileStem? ≠ q.fileStem? := by
    simp [hstemA, hstemB]
  have holds := (writeInto_holds discover_pair (by decide) hwritten (by decide)).2
    hplain hpairs
  constructor
  · obtain ⟨stem, hstem, hread⟩ := holds _ _ (List.mem_cons_self)
    cases hstemA.symm.trans hstem
    exact hread
  · obtain ⟨stem, hstem, hread⟩ := holds _ _ (List.mem_cons_of_mem _ List.mem_cons_self)
    cases hstemB.symm.trans hstem
    exact hread

-- With a dot inside, what follows it is lost, and two stems that differ only there share a file.
example :
    let outputs : List (Path × Document Normalized) :=
      [⟨"a.b.edmh"⟩, ⟨"a.c.edmh"⟩].zip [oneLine "one\n", oneLine "two\n"]
    let w' := (writeInto ⟨{}, [], .tabs, 4⟩ ⟨"out"⟩ outputs pair).1
    w'.tree.changesSince pair.tree = [(["out", "a.edm"], .text "two\n")] := by
  decide +kernel

end CommandLine

end SourcePrep
