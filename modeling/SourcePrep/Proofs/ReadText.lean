import SourcePrep.Proofs.PhysicalLines

/-!
# The text that reading keeps

Reading drops each carriage return before a newline and ends the last line, and changes nothing
else. A carriage return that no newline follows is kept, also at the end of the text, where reading
puts a newline behind it.

* `foldReturns`: a text with every carriage return and newline in a row made a newline. A run of
  carriage returns loses its last one.
* `foldReturns_lines`: to end the lines of a text one by one is to fold its carriage returns.
* `read_faithful`: the canonical text that is read, its lines and their numbers.
-/

set_option autoImplicit false

namespace SourcePrep

/-! ## Pairs of characters -/

namespace Text

variable {a b : Char} {new : List Char}

/-- No pair is made where two texts are joined, if the first does not end with `a`. -/
theorem replacePair_append {xs : List Char} (h : xs.getLast? ≠ some a) (ys : List Char) :
    replacePair a b new (xs ++ ys) = replacePair a b new xs ++ replacePair a b new ys := by
  fun_induction replacePair a b new xs with
  | case1 => rfl
  | case2 c =>
    have hc : c ≠ a := by simpa using h
    cases ys with
    | nil => rfl
    | cons d ys => simp [replacePair, hc]
  | case3 c d rest hpair ih =>
    have hrest : rest.getLast? ≠ some a := by
      cases rest with
      | nil => simp
      | cons e rest => simpa [List.getLast?_cons_cons] using h
    rw [List.cons_append, List.cons_append, replacePair, if_pos hpair, ih hrest, List.append_assoc]
  | case4 c d rest hpair ih =>
    rw [List.getLast?_cons_cons] at h
    rw [List.cons_append, List.cons_append, replacePair, if_neg hpair, ← List.cons_append, ih h]
    rfl

theorem replacePair_of_notMem {xs : List Char} (h : b ∉ xs) : replacePair a b new xs = xs := by
  fun_induction replacePair a b new xs with
  | case1 => rfl
  | case2 => rfl
  | case3 c d rest hpair => exact absurd (by simp [hpair.2]) h
  | case4 c d rest hpair ih => rw [ih fun hmem => h (List.mem_cons_of_mem c hmem)]

/-- The one pair of a text is at its end. -/
theorem replacePair_last {xs : List Char} (hab : a ≠ b) (h : b ∉ xs) :
    replacePair a b new (xs ++ [a, b]) = xs ++ new := by
  induction xs with
  | nil => simp [replacePair]
  | cons c xs ih =>
    have hxs : b ∉ xs := fun hmem => h (List.mem_cons_of_mem c hmem)
    obtain ⟨d, rest, hd, hdb⟩ : ∃ d rest, xs ++ [a, b] = d :: rest ∧ d ≠ b := by
      cases xs with
      | nil => exact ⟨a, [b], rfl, hab⟩
      | cons d xs => exact ⟨d, _, rfl, fun hdb => hxs (by simp [hdb])⟩
    rw [List.cons_append, hd, replacePair, if_neg fun hpair => hdb hpair.2, ← hd, ih hxs]
    rfl

end Text

/-! ## Carriage returns -/

namespace Document

/-- The text with each carriage return and newline in a row made a newline. -/
def foldReturns (s : String) : String :=
  String.ofList (Text.replacePair '\r' '\n' ['\n'] s.toList)

/-- The newline that a text lacks at its end, if there is any text. -/
def missingNewline (s : String) : String :=
  match s.toList.getLast? with
  | none | some '\n' => ""
  | some _ => "\n"

theorem foldReturns_append {s : String} (h : s.toList.getLast? ≠ some '\r') (t : String) :
    foldReturns (s ++ t) = foldReturns s ++ foldReturns t := by
  simp only [foldReturns, String.toList_append, Text.replacePair_append h, String.ofList_append]

theorem foldReturns_of_notMem {s : String} (h : '\n' ∉ s.toList) : foldReturns s = s := by
  rw [foldReturns, Text.replacePair_of_notMem h, String.ofList_toList]

theorem missingNewline_lines {ls : List String} (h : ∀ l ∈ ls, Text.IsLine l) :
    missingNewline (String.join ls) = "" := by
  rcases List.eq_nil_or_concat ls with rfl | ⟨front, l, rfl⟩
  · rfl
  · obtain ⟨text, rfl, -⟩ := h l (by simp)
    simp [missingNewline, String.join_append]

theorem missingNewline_unended {s : String} (hs : s ≠ "") (h : '\n' ∉ s.toList) (t : String) :
    missingNewline (t ++ s) = "\n" := by
  rcases List.eq_nil_or_concat s.toList with hnil | ⟨front, c, hlast⟩
  · exact absurd (String.toList_eq_nil_iff.1 hnil) hs
  · have hc : c ≠ '\n' := fun hc => h (by simp [hlast, hc])
    have hlast? : (t ++ s).toList.getLast? = some c := by simp [hlast]
    rw [missingNewline, hlast?]
    split
    · simp_all
    · simp_all
    · rfl

/-- To end a line is to fold its carriage return. -/
theorem foldReturns_line {s : String} (h : Text.IsLine s) : foldReturns s = terminate s := by
  obtain ⟨front, rfl, hfront⟩ := h
  -- either the one pair of the line is at its end, or it has none
  by_cases hreturn : front.toList.getLast? = some '\r'
  · obtain ⟨cs, hcs⟩ := List.getLast?_eq_some_iff.1 hreturn
    have hs : front ++ "\n" = String.ofList cs ++ "\r\n" := by
      simp [← String.toList_inj, hcs]
    have hnone : '\n' ∉ cs := fun hmem => hfront (by simp [hcs, hmem])
    rw [hs, terminate_return, foldReturns, String.toList_append, String.toList_ofList]
    simp [Text.replacePair_last (a := '\r') (b := '\n') (by decide) hnone]
  · have hline : Text.IsLine (front ++ "\n") := ⟨front, rfl, hfront⟩
    have hkept : terminate (front ++ "\n") = front ++ "\n" := by
      refine (terminate_eq_self_iff hline).2 fun ⟨front', hs⟩ => hreturn ?_
      have hlist : front.toList ++ ['\n'] = (front'.toList ++ ['\r']) ++ ['\n'] := by
        simpa using congrArg String.toList hs
      rw [List.append_cancel_right hlist, List.getLast?_concat]
    rw [hkept, foldReturns_append hreturn, foldReturns_of_notMem hfront]
    rfl

/-- To end lines one by one is to fold the carriage returns of their text. -/
theorem foldReturns_lines {ls : List String} (h : ∀ l ∈ ls, Text.IsLine l) (rest : String) :
    foldReturns (String.join ls ++ rest) = String.join (ls.map terminate) ++ foldReturns rest := by
  induction ls with
  | nil => simp
  | cons l ls ih =>
    have hl := h l List.mem_cons_self
    have hlast : l.toList.getLast? ≠ some '\r' := by
      obtain ⟨front, rfl, -⟩ := hl
      simp
    rw [String.join_cons, String.append_assoc, foldReturns_append hlast, foldReturns_line hl,
      ih fun m hm => h m (List.mem_cons_of_mem l hm), List.map_cons, String.join_cons,
      String.append_assoc]

/-! ## Reading -/

theorem newlines_join {ls : List String} (h : ∀ l ∈ ls, Text.IsLine l) :
    newlines (String.join ls) = ls.length := by
  induction ls with
  | nil => rfl
  | cons l ls ih =>
    obtain ⟨front, rfl, hfront⟩ := h l List.mem_cons_self
    have hone : newlines "\n" = 1 := rfl
    rw [String.join_cons, newlines_append, newlines_append, newlines_eq_zero.2 hfront, hone,
      ih fun m hm => h m (List.mem_cons_of_mem _ hm), List.length_cons]
    omega

theorem length_numberLines (source : Path) (n : Nat) (pieces : List String) :
    (numberLines source n pieces).length = pieces.length := by
  simpa using congrArg List.length (texts_numberLines source n pieces)

theorem positions_numberLines (source : Path) (n : Nat) (pieces : List String) :
    (numberLines source n pieces).map (·.position) =
      (List.range' n pieces.length).map (Position.mk source) := by
  induction pieces generalizing n with
  | nil => rfl
  | cons piece rest ih =>
    rw [numberLines, List.map_cons, ih, List.length_cons, List.range'_succ, List.map_cons]

section
variable (source : Path) (content : String) (config : Configuration)

/-- No line is left out for being empty. -/
theorem lines_read :
    (read source content config).lines = numberLines source 1 (Text.splitLines content) :=
  ofLines_nonempty (fun _ hline => Text.size_eq_zero.not.2 (isLine_of_numberLines hline).ne_empty)
    config

theorem text_read_eq_join :
    (read source content config).text =
      String.join ((Text.splitLines content).map terminate) := by
  rw [← texts_read source content config]
  rfl

/-- The text that is read is the content with its carriage returns folded, and ended. -/
theorem text_read :
    (read source content config).text = foldReturns content ++ missingNewline content := by
  rw [text_read_eq_join]
  obtain ⟨⟨done, current⟩, hpieces, hjoined, hlines, hcurrent⟩ := Text.splitLines_holds content
  simp only at hjoined hlines hcurrent
  have hdone : ∀ l ∈ done.toList, Text.IsLine l := fun l hl => hlines l (by simpa using hl)
  rw [hpieces, ← hjoined, foldReturns_lines hdone, foldReturns_of_notMem hcurrent,
    Text.Splitting.pieces]
  by_cases hempty : current = ""
  · simp [hempty, missingNewline_lines hdone]
  · rw [missingNewline_unended hempty hcurrent]
    simp [hempty, terminate_unended hcurrent, String.append_assoc]

end

/-- What reading keeps of a text: all but the carriage returns before newlines, with a newline at
its end. Each line has the one newline that ends it, and the lines are numbered from one. -/
theorem read_faithful (source : Path) (content : String) (config : Configuration) :
    let d := read source content config
    d.text = foldReturns content ++ missingNewline content ∧
      (∀ l ∈ d.lines, Text.IsLine l.canonical) ∧
      d.lineCount = newlines d.text ∧
      d.lines.map (·.position) = (List.range d.lineCount).map fun i => ⟨source, i + 1⟩ := by
  have hlines : ∀ l ∈ (read source content config).lines, Text.IsLine l.canonical :=
    fun l hl => isLine_of_read source content config hl
  refine ⟨text_read source content config, hlines, ?_, ?_⟩
  · rw [Document.text, newlines_join (by simpa using hlines), List.length_map, lineCount]
  · rw [lineCount, lines_read, positions_numberLines, length_numberLines,
      List.range'_eq_map_range, List.map_map]
    exact List.map_congr_left fun i _ => by simp [Nat.add_comm]

/-- Of the two carriage returns before a newline one is kept, and so is the one at the end. -/
example : (read ⟨"a"⟩ "x\r\r\ny\r" {}).text = "x\r\ny\r\n" := by decide

end Document

end SourcePrep
