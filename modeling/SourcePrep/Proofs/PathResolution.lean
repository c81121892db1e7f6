import SourcePrep.Inclusion
import SourcePrep.Proofs.PathIdentity

/-!
# Looking up a path next to a file

Where an inclusion leads depends on the directory of the including file, which is cut off the text
of its path.

* `resolve_beside`: a relative path next to a file is followed from the directory of the file,
  however the file is spelled, as long as the system takes the path at all.
* `resolve?_respelled`: so an inclusion leads to the same file from every spelling of the including
  file.
-/

set_option autoImplicit false

namespace SourcePrep

/-! ## The directory of a file, as text -/

namespace Path

/-- The parts without the separators and dots at their end. -/
def trimParts (parts : List (List Char)) : List (List Char) :=
  (parts.reverse.dropWhile fun part => (Component.ofSegment? part).isNone).reverse

theorem trimParts_append (parts : List (List Char)) :
    ∃ extra, parts = trimParts parts ++ extra ∧
      ∀ part ∈ extra, Component.ofSegment? part = none := by
  refine ⟨(parts.reverse.takeWhile fun part => (Component.ofSegment? part).isNone).reverse, ?_,
    fun part hpart => ?_⟩
  · rw [trimParts, ← List.reverse_append, List.takeWhile_append_dropWhile, List.reverse_reverse]
  · simpa using List.all_eq_true.1 (List.all_takeWhile ..) part (List.mem_reverse.1 hpart)

/-- The last part that is left is a step. -/
theorem trimParts_last {parts front : List (List Char)} {last : List Char}
    (h : trimParts parts = front ++ [last]) : (Component.ofSegment? last).isSome := by
  have hhead : (parts.reverse.dropWhile fun part => (Component.ofSegment? part).isNone).head? =
      some last := by
    rw [trimParts] at h
    rw [← List.reverse_reverse (List.dropWhile _ _), h]
    simp
  have := List.head?_dropWhile_not (fun part => (Component.ofSegment? part).isNone) parts.reverse
  rw [hhead] at this
  simpa using this

theorem trimParts_concat {parts : List (List Char)} {last : List Char}
    (h : (Component.ofSegment? last).isSome) : trimParts (parts ++ [last]) = parts ++ [last] := by
  obtain ⟨c, hc⟩ := Option.isSome_iff_exists.1 h
  simp [trimParts, hc]

theorem trimParts_concat_nil (parts : List (List Char)) :
    trimParts (parts ++ [[]]) = trimParts parts := by
  simp [trimParts, Component.ofSegment?]

/-- Parts that are no steps of the text are steps that stay. -/
theorem ofPart?_extra {extra : List (List Char)}
    (h : ∀ part ∈ extra, Component.ofSegment? part = none) :
    ∀ s ∈ extra.filterMap Segment.ofPart?, s = .here := by
  intro s hs
  obtain ⟨part, hpart, hs⟩ := List.mem_filterMap.1 hs
  rcases part_cases part with ⟨-, -, hs'⟩ | ⟨-, -, hs'⟩ | ⟨-, hc, -⟩ | ⟨hc, -⟩
  · simp [hs'] at hs
  · simpa [hs', eq_comm] using hs
  · simp [h part hpart] at hc
  · simp [h part hpart] at hc

theorem splitStart_cases (cs : List Char) :
    (∃ body, cs = '/' :: body ∧ splitStart cs = (['/'], body)) ∨
    (cs = ['.'] ∧ splitStart cs = (['.'], [])) ∨
    (∃ body, cs = '.' :: '/' :: body ∧ splitStart cs = (['.'], '/' :: body)) ∨
    ((∀ body, cs ≠ '/' :: body) ∧ cs ≠ ['.'] ∧ (∀ body, cs ≠ '.' :: '/' :: body) ∧
      splitStart cs = ([], cs)) := by
  unfold splitStart
  split
  · exact .inl ⟨_, rfl, rfl⟩
  · exact .inr (.inl ⟨rfl, rfl⟩)
  · exact .inr (.inr (.inl ⟨_, rfl, rfl⟩))
  · rename_i h1 h2 h3
    exact .inr (.inr (.inr ⟨fun body h => h1 body h, fun h => h2 h, fun body h => h3 body h, rfl⟩))

/-- The steps that the start of a path stands for. -/
def openingSteps (start : List Char) : List Segment := if start = ['.'] then [.here] else []

theorem bodySteps_start {cs start body : List Char} (h : splitStart cs = (start, body)) :
    bodySteps cs = openingSteps start ++ bodySteps body := by
  rcases splitStart_cases cs with ⟨b, rfl, hs⟩ | ⟨rfl, hs⟩ | ⟨b, rfl, hs⟩ | ⟨-, -, -, hs⟩ <;>
    rw [hs] at h <;> cases h
  · rw [bodySteps, show segments ('/' :: body) = segments [] ++ segments body from
      segments_append_slash [] body]
    rfl
  · rfl
  · rw [bodySteps, bodySteps, show segments ('.' :: '/' :: b) = segments ['.'] ++ segments b from
      segments_append_slash ['.'] b, show segments ('/' :: b) = segments [] ++ segments b from
      segments_append_slash [] b]
    rfl
  · rfl

/-- A text that begins with a part other than nothing or a dot has no start of its own. -/
theorem splitStart_name {part : List Char} (hne : part ≠ []) (hdot : part ≠ ['.'])
    (hslash : '/' ∉ part) (rest : List Char) :
    splitStart (part ++ rest) = ([], part ++ rest) := by
  rcases part with - | ⟨c, part⟩
  · exact absurd rfl hne
  rw [List.mem_cons, not_or] at hslash
  rcases splitStart_cases (c :: part ++ rest) with ⟨body, h, -⟩ | ⟨h, -⟩ | ⟨body, h, -⟩ | ⟨-, -, -, h⟩
  · rw [List.cons_append, List.cons.injEq] at h
    exact absurd h.1.symm hslash.1
  · rw [List.cons_append, List.cons.injEq, List.append_eq_nil_iff] at h
    exact absurd (by rw [h.1, h.2.1]) hdot
  · rw [List.cons_append, List.cons.injEq] at h
    obtain ⟨rfl, h⟩ := h
    rcases part with - | ⟨d, part⟩
    · exact absurd rfl hdot
    · rw [List.cons_append, List.cons.injEq] at h
      exact absurd (by rw [h.1]; exact List.mem_cons_self) hslash.2
  · exact h

/-- The first parts of a body stay behind the start that the body had. -/
theorem splitStart_front {cs start body : List Char} (h : splitStart cs = (start, body))
    {front rest : List (List Char)} (hparts : segments body = front ++ rest) (hrest : rest ≠ [])
    {tail : List Char} (htail : tail = [] ∨ front ≠ [] ∧ tail = ['/']) :
    splitStart (start ++ (['/'].intercalate front ++ tail)) =
      (start, ['/'].intercalate front ++ tail) := by
  rcases front with - | ⟨f, front⟩
  · obtain rfl : tail = [] := by simpa using htail
    rcases splitStart_cases cs with ⟨b, -, hs⟩ | ⟨-, hs⟩ | ⟨b, -, hs⟩ | ⟨-, -, -, hs⟩ <;>
      rw [hs] at h <;> cases h <;> rfl
  -- what follows the first part is nothing, or begins with a slash
  obtain ⟨more, hmore, hmore'⟩ : ∃ more, ['/'].intercalate (f :: front) ++ tail = f ++ more ∧
      (more = [] ∨ ∃ more', more = '/' :: more') := by
    rcases front with - | ⟨g, front⟩
    · refine ⟨tail, by simp, ?_⟩
      rcases htail with rfl | ⟨-, rfl⟩
      · exact .inl rfl
      · exact .inr ⟨[], rfl⟩
    · refine ⟨'/' :: (['/'].intercalate (g :: front) ++ tail), ?_, .inr ⟨_, rfl⟩⟩
      rw [List.intercalate_cons_cons, List.append_assoc, List.append_assoc]
      rfl
  have hbody : ∃ more, body = f ++ '/' :: more := by
    rcases hr : front ++ rest with - | ⟨g, more⟩
    · exact absurd (List.append_eq_nil_iff.1 hr).2 hrest
    · rw [← intercalate_segments body, hparts, List.cons_append, hr, List.intercalate_cons_cons]
      exact ⟨_, by rw [List.append_assoc]; rfl⟩
  obtain ⟨b, hb⟩ := hbody
  rw [hmore]
  rcases splitStart_cases cs with ⟨c, -, hs⟩ | ⟨-, hs⟩ | ⟨c, -, hs⟩ | ⟨h1, h2, h3, hs⟩ <;>
    rw [hs] at h <;> cases h
  · rfl
  · simp at hb
  · -- the body begins with a slash, so its first part is nothing
    obtain rfl : f = [] := by
      have hf : '/' ∉ f := @not_mem_segments ('/' :: c) f (by rw [hparts]; simp)
      rcases f with - | ⟨x, f⟩
      · rfl
      · obtain ⟨rfl, -⟩ : '/' = x ∧ _ := by simpa using hb
        simp at hf
    rcases hmore' with rfl | ⟨more', rfl⟩ <;> rfl
  · refine splitStart_name ?_ ?_ (@not_mem_segments cs f (by rw [hparts]; simp)) more
    · rintro rfl
      exact h1 b hb
    · rintro rfl
      exact h3 b hb

theorem splitStart_append (cs : List Char) : (splitStart cs).1 ++ (splitStart cs).2 = cs := by
  rcases splitStart_cases cs with ⟨b, rfl, hs⟩ | ⟨rfl, hs⟩ | ⟨b, rfl, hs⟩ | ⟨-, -, -, hs⟩ <;>
    rw [hs] <;> rfl

theorem isAbsolute_eq (p : Path) : p.isAbsolute = decide ((splitStart p.text.toList).1 = ['/']) := by
  rw [isAbsolute]
  rcases splitStart_cases p.text.toList with ⟨b, hb, hs⟩ | ⟨hb, hs⟩ | ⟨b, hb, hs⟩ | ⟨h1, -, -, hs⟩
  · rw [hs, hb]
    rfl
  · rw [hs, hb]
    rfl
  · rw [hs, hb]
    rfl
  · have hhead : p.text.toList.head? ≠ some '/' := by
      intro hhead
      obtain ⟨body, hbody⟩ := List.head?_eq_some_iff.1 hhead
      exact h1 body hbody
    simp [hs, hhead]

theorem bodySteps_intercalate (parts : List (List Char)) (h : ∀ part ∈ parts, '/' ∉ part) :
    bodySteps (['/'].intercalate parts) = parts.filterMap Segment.ofPart? := by
  by_cases hne : parts = []
  · subst hne
    rfl
  · rw [bodySteps, segments_intercalate hne h]

/-- The parent of a path is its text before the last step, without the separators and dots that are
left at the end. -/
theorem parent?_eq {p : Path} {start body : List Char}
    (hstart : splitStart p.text.toList = (start, body)) {front extra : List (List Char)}
    {last : List Char} (hparts : segments body = front ++ last :: extra)
    (hkept : trimParts (segments body) = front ++ [last]) :
    p.parent? = some ⟨String.ofList (start ++ ['/'].intercalate (trimParts front))⟩ := by
  have htail : p.lastSegment =
      ⟨some last, start ++ ['/'].intercalate front ++ if front.isEmpty then [] else ['/']⟩ := by
    rw [trimParts] at hkept
    simp [lastSegment, hstart, splitLast, hkept]
  have hbefore : splitStart (start ++ ['/'].intercalate front ++
      if front.isEmpty then [] else ['/']) =
      (start, ['/'].intercalate front ++ if front.isEmpty then [] else ['/']) := by
    rw [List.append_assoc]
    refine splitStart_front hstart hparts (by simp) ?_
    rcases front with - | ⟨f, front⟩
    · exact .inl rfl
    · exact .inr ⟨by simp, rfl⟩
  have htrim : trimParts (segments (['/'].intercalate front ++
      if front.isEmpty then [] else ['/'])) = trimParts front := by
    rcases front with - | ⟨f, front⟩
    · rfl
    · have hfront : ∀ part ∈ f :: front, '/' ∉ part := fun part hpart =>
        @not_mem_segments body part (by rw [hparts]; exact List.mem_append_left _ hpart)
      rw [List.isEmpty_cons, if_neg Bool.false_ne_true, segments_append_slash,
        segments_intercalate (by simp) hfront]
      exact trimParts_concat_nil _
  have htrimEnd : trimEnd (start ++ ['/'].intercalate front ++
      if front.isEmpty then [] else ['/']) = start ++ ['/'].intercalate (trimParts front) := by
    rw [trimEnd, hbefore, ← htrim]
    rfl
  rw [parent?, htail]
  simp only [htrimEnd]

/-- A path has no step in it, or it has a last one, and its parent stands for the steps before. -/
theorem parent?_cases (p : Path) :
    (∀ s ∈ bodySteps p.text.toList, s = .here) ∨
    ∃ dir front last extra, p.parent? = some dir ∧
      bodySteps p.text.toList = front ++ last :: extra ∧ last ≠ .here ∧ (∀ s ∈ extra, s = .here) ∧
      (∃ stays, front = bodySteps dir.text.toList ++ stays ∧ ∀ s ∈ stays, s = .here) ∧
      dir.text.toList <+: p.text.toList ∧ dir.isAbsolute = p.isAbsolute := by
  rcases hstart : splitStart p.text.toList with ⟨start, body⟩
  have hcs : start ++ body = p.text.toList := by
    have := splitStart_append p.text.toList
    rwa [hstart] at this
  have hsteps := bodySteps_start hstart
  have hopening : ∀ s ∈ openingSteps start, s = .here := by
    intro s hs
    rw [openingSteps] at hs
    split at hs <;> simp at hs
    exact hs
  obtain ⟨extra, hparts, hextra⟩ := trimParts_append (segments body)
  rcases List.eq_nil_or_concat (trimParts (segments body)) with hnil | ⟨front, last, hkept⟩
  · refine .inl fun s hs => ?_
    rw [hnil, List.nil_append] at hparts
    rw [hsteps, List.mem_append, bodySteps, hparts] at hs
    rcases hs with hs | hs
    · exact hopening s hs
    · exact ofPart?_extra hextra s hs
  · rw [List.concat_eq_append] at hkept
    rw [hkept, List.append_assoc, List.singleton_append] at hparts
    have hdir := parent?_eq hstart hparts hkept
    obtain ⟨dots, hdots, hstay⟩ := trimParts_append front
    have hslash : ∀ part ∈ trimParts front, '/' ∉ part := fun part hpart =>
      @not_mem_segments body part (by
        rw [hparts, hdots, List.append_assoc]
        exact List.mem_append_left _ hpart)
    -- the directory keeps the start of the path, so its steps are read the same way
    have hparts' : segments body = trimParts front ++ (dots ++ last :: extra) := by
      rw [hparts, ← List.append_assoc, ← hdots]
    have hsplit := splitStart_front hstart hparts' (by simp) (.inl rfl)
    rw [List.append_nil] at hsplit
    have hdirSteps := bodySteps_start hsplit
    rw [bodySteps_intercalate _ hslash] at hdirSteps
    obtain ⟨step, hstep, hne⟩ : ∃ step, Segment.ofPart? last = some step ∧ step ≠ .here := by
      have hsome := trimParts_last hkept
      rcases part_cases last with ⟨-, hc, -⟩ | ⟨-, hc, -⟩ | ⟨-, -, hs⟩ | ⟨-, hs⟩
      · simp [hc] at hsome
      · simp [hc] at hsome
      · exact ⟨_, hs, nofun⟩
      · exact ⟨_, hs, nofun⟩
    refine .inr ⟨_, openingSteps start ++ front.filterMap Segment.ofPart?, step,
      extra.filterMap Segment.ofPart?, hdir, ?_, hne, ofPart?_extra hextra,
      ⟨dots.filterMap Segment.ofPart?, ?_, ofPart?_extra hstay⟩, ?_, ?_⟩
    · rw [hsteps, bodySteps, hparts, List.filterMap_append, List.filterMap_cons, hstep,
        List.append_assoc]
    · rw [String.toList_ofList, hdirSteps, List.append_assoc, ← List.filterMap_append, ← hdots]
    · rw [String.toList_ofList, ← hcs, ← intercalate_segments body, hparts']
      exact (List.prefix_append_right_inj _).2 (intercalate_start _ _)
    · rw [isAbsolute_eq, isAbsolute_eq, String.toList_ofList, hsplit, hstart]

/-! ## A path next to a directory -/

/-- A relative path stands behind the text of a directory that is empty, or that ends in a slash once
it is joined. -/
theorem join_cases (dir : Path) {rel : Path} (habs : rel.isAbsolute = false) :
    (dir.text.toList = [] ∧ dir.join rel = rel) ∨
    (dir.text.toList ≠ [] ∧
      ∃ front, (dir.join rel).text.toList = front ++ '/' :: rel.text.toList ∧
        bodySteps dir.text.toList = bodySteps front) := by
  rw [join, habs, if_neg Bool.false_ne_true]
  by_cases hempty : dir.text = ""
  · exact .inl ⟨by simp [hempty], by simp [hempty]⟩
  have hne : dir.text.toList ≠ [] := by simpa using hempty
  have hfull : dir.text.isEmpty = false := by simpa [String.isEmpty_iff] using hempty
  refine .inr ⟨hne, ?_⟩
  rw [hfull]
  by_cases hlast : dir.text.toList.getLast? = some '/'
  · obtain ⟨front, hfront⟩ := List.getLast?_eq_some_iff.1 hlast
    refine ⟨front, by simp [hfront], ?_⟩
    rw [hfront, bodySteps, segments_append_slash, List.filterMap_append]
    exact List.append_nil _
  · exact ⟨dir.text.toList, by simp [hlast], rfl⟩

/-- The steps of a path behind a directory are those of the directory and then its own. -/
theorem steps_join (dir : Path) {rel : Path} (habs : rel.isAbsolute = false)
    (hne : rel.text.toList ≠ []) :
    (dir.join rel).steps = bodySteps dir.text.toList ++ rel.steps := by
  rcases join_cases dir habs with ⟨hdir, hjoin⟩ | ⟨-, front, htext, hdir⟩
  · rw [hjoin, hdir]
    rfl
  · have hlast : (front ++ '/' :: rel.text.toList).getLast? = rel.text.toList.getLast? := by
      rw [List.getLast?_append, List.getLast?_cons_of_ne_nil hne]
      rcases hl : rel.text.toList.getLast? with - | c
      · exact absurd (List.getLast?_eq_none_iff.1 hl) hne
      · rfl
    rw [steps, steps, htext, hlast, hdir, segments_append_slash, List.filterMap_append,
      List.append_assoc]
    rfl

theorem isAbsolute_join (dir : Path) {rel : Path} (habs : rel.isAbsolute = false) :
    (dir.join rel).isAbsolute = dir.isAbsolute := by
  rcases hcs : dir.text.toList with - | ⟨c, cs⟩
  · have hempty : dir.text = "" := by simpa using hcs
    have : dir.join rel = rel := by simp [join, habs, hempty]
    rw [this, habs, isAbsolute, hcs]
    rfl
  · have : (dir.join rel).text.toList.head? = dir.text.toList.head? := by
      simp only [join, habs]
      split
      · simp at *
      · split <;> simp [hcs]
    rw [isAbsolute, isAbsolute, this]

theorem nul_mem_join (dir : Path) {rel : Path} (habs : rel.isAbsolute = false) :
    '\x00' ∈ (dir.join rel).text.toList ↔
      '\x00' ∈ dir.text.toList ∨ '\x00' ∈ rel.text.toList := by
  simp only [join, habs]
  split
  · simp at *
  · split <;> simp

/-- A path that is not empty has a step, if only the last slash. -/
theorem steps_ne_nil {p : Path} (h : p.text.toList ≠ []) : p.steps ≠ [] := by
  intro hsteps
  rw [steps, List.append_eq_nil_iff] at hsteps
  obtain ⟨hbody, hlast⟩ := hsteps
  rcases List.eq_nil_or_concat (segments p.text.toList) with hnil | ⟨front, last, hparts⟩
  · exact segments_ne_nil _ hnil
  rw [List.concat_eq_append] at hparts
  have htext := intercalate_segments p.text.toList
  rw [hparts] at htext
  have hpart : Segment.ofPart? last = none :=
    List.filterMap_eq_nil_iff.1 hbody last (by simp [hparts])
  rcases part_cases last with ⟨rfl, -, -⟩ | ⟨-, -, hs⟩ | ⟨-, -, hs⟩ | ⟨-, hs⟩
  · by_cases hfront : front = []
    · subst hfront
      exact h htext.symm
    · rw [intercalate_concat hfront] at htext
      simp [← htext] at hlast
  · simp [hs] at hpart
  · simp [hs] at hpart
  · simp [hs] at hpart

end Path

namespace Workspace

variable {w : Workspace}

theorem follow_append_ok {names found : List String} {s t : List Segment}
    (h : w.follow names (s ++ t) = .ok found) :
    ∃ mid, w.follow names s = .ok mid ∧ w.follow mid t = .ok found := by
  rw [follow_append] at h
  rcases hs : w.follow names s with e | mid
  · rw [hs] at h
    cases h
  · rw [hs] at h
    exact ⟨mid, rfl, h⟩

/-- What a directory lies in is a directory. -/
theorem find_dropLast {t : FileTree} {names : List String} {entries : List (String × FileTree)}
    (h : t.find names = some (.directory entries)) :
    ∃ entries', t.find names.dropLast = some (.directory entries') := by
  induction names generalizing t with
  | nil => exact ⟨entries, h⟩
  | cons name names ih =>
    rw [FileTree.find, Option.bind_eq_some_iff] at h
    obtain ⟨entry, hentry, hfind⟩ := h
    rcases t with content | inner
    · cases hentry
    rcases names with - | ⟨next, names⟩
    · exact ⟨inner, rfl⟩
    · obtain ⟨entries', h'⟩ := ih hfind
      refine ⟨entries', ?_⟩
      rw [List.dropLast_cons_cons, FileTree.find, hentry]
      exact h'

/-- A file is named by a last step down from its directory, which is where its parent leads. -/
theorem parent_of_file {p : Path} {names : List String} {content : Content}
    (hp : w.resolve p = .ok names) (hfile : w.tree.find names = some (.file content)) :
    ∃ dir, w.includingDir p = dir ∧ dir.text.toList <+: p.text.toList ∧
      dir.isAbsolute = p.isAbsolute ∧
      w.follow (w.start p) (Path.bodySteps dir.text.toList) = .ok names.dropLast := by
  obtain ⟨hrefused, hfollow⟩ := resolve_ok hp
  have hisFile : w.isFile p = true := by
    simp [isFile, find?, hp, Except.toOption, hfile, FileTree.isFile]
  have htrail : ∀ s ∈ (if p.text.toList.getLast? = some '/' then [Segment.here] else []),
      s = .here := by
    intro s hs
    split at hs <;> simp at hs
    exact hs
  rcases Path.parent?_cases p with hhere | ⟨dir, front, last, extra, hparent, hsteps, hlast, hextra,
    ⟨stays, hfront, hstays⟩, hprefix, habs⟩
  · -- a path that only stays names the directory it starts from
    have hall : ∀ s ∈ p.steps, s = .here := fun s hs =>
      (List.mem_append.1 hs).elim (hhere s) (htrail s)
    have hnames := follow_here hall hfollow
    have hne : p.text.toList ≠ [] := by
      intro hempty
      simp only [refused?, String.isEmpty_iff.2 (by simpa using hempty), if_true] at hrefused
      split at hrefused <;> cases hrefused
    obtain ⟨step, rest, hcons⟩ := List.exists_cons_of_ne_nil (Path.steps_ne_nil hne)
    rw [hcons] at hfollow
    obtain ⟨entries, -, hdir, -⟩ := follow_cons_ok hfollow
    rw [hnames, hdir] at hfile
    cases hfile
  · refine ⟨dir, by rw [includingDir, if_pos hisFile, hparent]; rfl, hprefix, habs, ?_⟩
    have hbody : (Path.segments p.text.toList).filterMap Segment.ofPart? = _ := hsteps
    rw [Path.steps, hbody, List.append_assoc, List.cons_append] at hfollow
    obtain ⟨mid, hmid, hrest⟩ := follow_append_ok hfollow
    obtain ⟨entries, next, hdir, hnext, hcases⟩ := follow_cons_ok hrest
    have hnames : names = next := follow_here (fun s hs =>
      (List.mem_append.1 hs).elim (hextra s) (htrail s)) hnext
    rw [hfront] at hmid
    obtain ⟨mid', hmid', hstay⟩ := follow_append_ok hmid
    obtain rfl := follow_here hstays hstay
    obtain ⟨rfl, -⟩ | ⟨rfl, rfl⟩ | ⟨name, rfl, rfl⟩ := hcases
    · exact absurd rfl hlast
    · obtain ⟨entries', h'⟩ := find_dropLast hdir
      rw [hnames, h'] at hfile
      cases hfile
    · rw [hnames, List.dropLast_concat]
      exact hmid'

/-- A relative path next to a file, as the system takes it. -/
theorem resolve_beside {p : Path} {names : List String} {content : Content}
    (hp : w.resolve p = .ok names) (hfile : w.tree.find names = some (.file content))
    {rel : Path} (habs : rel.isAbsolute = false) (hne : rel.text.toList ≠ [])
    (hfits : Text.size ((w.includingDir p).join rel).text ≤ maxPath) :
    w.resolve ((w.includingDir p).join rel) =
      if '\x00' ∈ rel.text.toList then .error .nulInName
      else w.follow names.dropLast rel.steps := by
  obtain ⟨dir, hdir, hprefix, hdirAbs, hfollow⟩ := parent_of_file hp hfile
  rw [hdir] at hfits ⊢
  obtain ⟨hrefused, -⟩ := resolve_ok hp
  have hnul : '\x00' ∉ dir.text.toList := by
    intro h
    have := hprefix.subset h
    simp [refused?, this] at hrefused
  have hfull : (dir.join rel).text.isEmpty = false := by
    rw [Bool.eq_false_iff, ne_eq, String.isEmpty_iff, ← String.toList_inj]
    rcases Path.join_cases dir habs with ⟨-, hjoin⟩ | ⟨-, front, htext, -⟩
    · simpa [hjoin] using hne
    · simp [htext]
  have hstart : w.start (dir.join rel) = w.start p := by
    rw [start, start, Path.isAbsolute_join dir habs, hdirAbs]
  have hmem : '\x00' ∈ (dir.join rel).text.toList ↔ '\x00' ∈ rel.text.toList := by
    rw [Path.nul_mem_join dir habs]
    exact or_iff_right hnul
  have hrefused' : refused? (dir.join rel) =
      if '\x00' ∈ rel.text.toList then some .nulInName else none := by
    rw [refused?, hfull, if_neg Bool.false_ne_true, if_neg (Nat.not_lt.2 hfits)]
    simp only [List.contains_iff_mem, hmem]
  rw [resolve, hrefused']
  by_cases hrel : '\x00' ∈ rel.text.toList
  · rw [if_pos hrel, if_pos hrel]
  · rw [if_neg hrel, if_neg hrel, hstart, Path.steps_join dir habs hne, follow_append, hfollow]
    rfl

/-! ## Inclusions from other spellings -/

/-- Two spellings of one file. -/
def Respelled (w : Workspace) (p q : Path) : Prop :=
  ∃ names content, w.resolve p = .ok names ∧ w.resolve q = .ok names ∧
    w.tree.find names = some (.file content)

theorem isFile_iff (p : Path) : w.isFile p = true ↔ w.Respelled p p := by
  rw [isFile, find?, Respelled]
  rcases w.resolve p with e | names
  · simp [Except.toOption]
  · rcases ht : w.tree.find names with - | t
    · simp [Except.toOption, ht]
    · cases t <;> simp [Except.toOption, ht, FileTree.isFile]

/-- A path that ends in a slash names no file. -/
theorem isFile_slash {p : Path} (h : p.text.toList.getLast? = some '/') : w.isFile p = false := by
  rw [Bool.eq_false_iff, ne_eq, isFile_iff]
  rintro ⟨names, content, hp, -, hfile⟩
  obtain ⟨-, hfollow⟩ := resolve_ok hp
  rw [Path.steps, if_pos h] at hfollow
  obtain ⟨mid, -, hhere⟩ := follow_append_ok hfollow
  have hnames := follow_here (by simp) hhere
  obtain ⟨entries, -, hdir, -⟩ := follow_cons_ok hhere
  rw [hnames, hdir] at hfile
  cases hfile

/-- The system takes the path that is looked up next to a file. -/
def FitsBeside (w : Workspace) (p : Path) (relative : String) : Prop :=
  Path.isAbsolute ⟨relative⟩ = false →
    Text.size ((w.includingDir p).join ⟨relative⟩).text ≤ maxPath

instance (p : Path) (relative : String) : Decidable (w.FitsBeside p relative) :=
  inferInstanceAs (Decidable (_ → _))

/-- What lies next to a file lies next to every spelling of it. -/
theorem respelled_beside {p q : Path} (h : w.Respelled p q) {relative : String}
    (hp : w.FitsBeside p relative) (hq : w.FitsBeside q relative) :
    let beside (p : Path) := (w.includingDir p).join ⟨relative⟩
    w.isFile (beside p) = w.isFile (beside q) ∧
      (w.isFile (beside p) = true → w.Respelled (beside p) (beside q)) := by
  intro beside
  obtain ⟨names, content, hpn, hqn, hfile⟩ := h
  by_cases habs : Path.isAbsolute ⟨relative⟩ = true
  · have hbeside : beside p = beside q := by simp [beside, Path.join, habs]
    rw [hbeside, isFile_iff]
    exact ⟨rfl, fun h => h⟩
  rw [Bool.not_eq_true] at habs
  by_cases hne : relative.toList = []
  · -- nothing behind a directory is the directory
    have hnot : ∀ dir : Path, w.isFile (dir.join ⟨relative⟩) = false := by
      intro dir
      rcases Path.join_cases dir habs with ⟨-, hjoin⟩ | ⟨-, front, htext, -⟩
      · rw [hjoin, Bool.eq_false_iff, ne_eq, isFile_iff]
        rintro ⟨names, content, hr, -⟩
        have hempty : relative.isEmpty = true := by simpa [String.isEmpty_iff] using hne
        have := (resolve_ok hr).1
        simp only [refused?, hempty, if_true] at this
        split at this <;> cases this
      · exact isFile_slash (by simp [htext, hne])
    refine ⟨by rw [hnot, hnot], fun h => ?_⟩
    rw [hnot] at h
    cases h
  · have heq : w.resolve (beside p) = w.resolve (beside q) := by
      rw [resolve_beside hpn hfile habs hne (hp habs), resolve_beside hqn hfile habs hne (hq habs)]
    refine ⟨by rw [isFile, isFile, find?, find?, heq], fun h => ?_⟩
    obtain ⟨names', content', hr, -, hfile'⟩ := (isFile_iff _).1 h
    exact ⟨names', content', hr, heq ▸ hr, hfile'⟩

end Workspace

/-- An inclusion leads to one file from every spelling of the including file, or to none. -/
theorem resolve?_respelled {w : Workspace} {p q : Path} (h : w.Respelled p q)
    (searchDirs : List Path) {relative : String} (hp : w.FitsBeside p relative)
    (hq : w.FitsBeside q relative) :
    Option.Rel w.Respelled (Inclusion.resolve? w searchDirs p relative)
      (Inclusion.resolve? w searchDirs q relative) := by
  obtain ⟨heq, hsame⟩ := Workspace.respelled_beside h hp hq
  rw [Inclusion.resolve?, Inclusion.resolve?]
  simp only [List.map_append, List.find?_append, List.map_singleton]
  rcases hfirst : (searchDirs.map fun dir => (w.includingDir dir).join ⟨relative⟩).find? w.isFile with
    - | target
  · -- no search directory has it, so the directory of the including file decides
    simp only [Option.none_or, List.find?_singleton, ← heq]
    split
    · rename_i hfile
      exact .some (hsame hfile)
    · exact .none
  · exact .some ((Workspace.isFile_iff target).1 (List.find?_some hfirst))

end SourcePrep
