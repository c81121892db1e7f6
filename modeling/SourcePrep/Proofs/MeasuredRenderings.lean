import SourcePrep.Proofs.PreparedPatterns
import SourcePrep.Proofs.Renderings

/-!
# Measuring a rendering again

Either rendering of a loaded document says all that the document does. Cut after each newline and
measured piece by piece, it gives back the levels and the contents, and no piece has spaces that are
no whole number of tabs. It does not matter which files the lines come from, or with which tabwidths
these were indented: a line that was normalized once is a whole physical line, whose content starts
with neither a space nor a tab.

* `Measured.indentation_of_multiple`: so many spaces for each level are that level again.
* `Document.Whole.layout_join`: the same for a document that is written line by line.
* `loadFiles_layout`: what follows for the renderings of every document that is loaded.
-/

set_option autoImplicit false

namespace SourcePrep

namespace Measured

/-- A whole number of tabs is not rounded. -/
theorem indentation_of_multiple (level tabs : Nat) (rest : String) {tabwidth : Nat}
    (h : 0 < tabwidth) :
    indentation ⟨level * tabwidth, tabs, rest⟩ tabwidth = ⟨level + tabs, none⟩ := by
  have hwidth : max tabwidth 1 = tabwidth := by omega
  have hhalf : tabwidth / 2 < tabwidth := Nat.div_lt_self h (by decide)
  have hlevel : (level * tabwidth + tabwidth / 2) / tabwidth = level := by
    rw [Nat.add_comm, Nat.add_mul_div_right _ _ h, Nat.div_eq_of_lt hhalf, Nat.zero_add]
  simp [indentation, hwidth, hlevel, Nat.mul_mod_left]

/-- A content that is a physical line stays one behind spaces and tabs. -/
theorem isLine_canonical {line : Measured} (h : Text.IsLine line.rest) :
    Text.IsLine (LineKind.canonical line) := by
  obtain ⟨front, hrest, hfront⟩ := h
  refine ⟨Text.copies ' ' line.spaces ++ Text.copies '\t' line.tabs ++ front, ?_, ?_⟩
  · rw [String.append_assoc, ← hrest]
    rfl
  · simp [Text.copies, hfront]

end Measured

namespace Normalized

/-- The line with so many spaces for each level. -/
def spaced (width : Nat) (line : Normalized) : Measured := ⟨line.level * width, 0, line.content⟩

/-- The line with a tab for each level. -/
def tabbed (line : Normalized) : Measured := ⟨0, line.level, line.content⟩

theorem renderSpaces_eq (line : Normalized) (width : Nat) :
    line.renderSpaces width = LineKind.canonical (line.spaced width) := by
  simp [renderSpaces, LineKind.canonical, spaced, Text.copies]

theorem renderTabs_eq (line : Normalized) : line.renderTabs = LineKind.canonical line.tabbed := by
  simp [renderTabs, LineKind.canonical, tabbed, Text.copies]

end Normalized

/-- What the pieces of a text come to: the level of each, with the rounding if there was one, and
what follows the spaces and tabs that it starts with. -/
def Text.layout (tabwidth : Nat) (text : String) : List (Indentation × String) :=
  (splitLines text).map fun piece =>
    let measured := Measured.ofText piece
    (measured.indentation tabwidth, measured.rest)

namespace Document

/-- The levels and contents of a document, none of which was rounded. -/
def layout (d : Document Normalized) : List (Indentation × String) :=
  d.lines.map fun line => (⟨line.kind.level, none⟩, line.kind.content)

/-- The lines are told apart again when each was written in front of its content with an indentation
that is measured as its level. -/
theorem Whole.layout_join {d : Document Normalized} (hd : d.Whole) {tabwidth : Nat}
    {write : Normalized → Measured} (hrest : ∀ k, (write k).rest = k.content)
    (hlevel : ∀ k, (write k).indentation tabwidth = ⟨k.level, none⟩) :
    Text.layout tabwidth (String.join (d.lines.map fun l => LineKind.canonical (write l.kind))) =
      d.layout := by
  have hpieces : ∀ s ∈ d.lines.map (fun l => LineKind.canonical (write l.kind)), Text.IsLine s := by
    intro s hs
    obtain ⟨l, hl, rfl⟩ := List.mem_map.1 hs
    apply Measured.isLine_canonical
    rw [hrest]
    exact (hd.lines l hl).isLine
  unfold Text.layout layout
  rw [Text.splitLines_join hpieces, List.map_map]
  apply List.map_congr_left
  intro l hl
  have hmeasured : Measured.ofText (LineKind.canonical (write l.kind)) = write l.kind := by
    apply Measured.ofText_canonical
    rw [hrest]
    exact (hd.lines l hl).unindented
  simp [hmeasured, hlevel, hrest]

theorem Whole.layout_renderSpaces {d : Document Normalized} (hd : d.Whole) {tabwidth : Nat}
    (h : 0 < tabwidth) : Text.layout tabwidth (d.renderSpaces tabwidth) = d.layout := by
  unfold renderSpaces
  simp only [Normalized.renderSpaces_eq]
  apply hd.layout_join
  · intro k
    rfl
  · intro k
    exact Measured.indentation_of_multiple k.level 0 k.content h

theorem Whole.layout_renderTabs {d : Document Normalized} (hd : d.Whole) {tabwidth : Nat}
    (h : 0 < tabwidth) : Text.layout tabwidth d.renderTabs = d.layout := by
  have htabs : d.renderTabs =
      String.join (d.lines.map fun l => LineKind.canonical l.kind.tabbed) := by
    simp only [← Normalized.renderTabs_eq]
    rfl
  rw [htabs]
  apply hd.layout_join
  · intro k
    rfl
  · intro k
    have hlevel := Measured.indentation_of_multiple 0 k.level k.content h
    rwa [Nat.zero_mul, Nat.zero_add] at hlevel

end Document

/-- A document that was loaded is read off either of its renderings: spaces are measured with the
width that they were written with, and tabs with any. -/
theorem loadFiles_layout {σ : Type} [Sink σ] (engine : Engine) (w : Workspace)
    (searchDirs : List Path) (config : Configuration) (roots : List Path)
    {docs : List (Document Normalized)} {s t : σ}
    (h : loadFiles engine w searchDirs config roots s = (.ok docs, t)) :
    ∀ d ∈ docs, ∀ tabwidth, 0 < tabwidth →
      Text.layout tabwidth (d.renderSpaces tabwidth) = d.layout ∧
        Text.layout tabwidth d.renderTabs = d.layout := by
  intro d hd tabwidth hwidth
  have hwhole := loadFiles_whole engine w searchDirs config roots s docs t h d hd
  exact ⟨hwhole.layout_renderSpaces hwidth, hwhole.layout_renderTabs hwidth⟩

/-- A file that is indented with three spaces, and includes one that is indented with two. -/
def threeAndTwo : Workspace where
  tree := .directory [
    ("m", .file (.text "config: tabwidth = 3\n   a\n \t  b\ninclude \"n\"\n\n")),
    ("n", .file (.text "    c\n  d \n"))]
  workingDir := ⟨"/"⟩

/-- The lines of both files, measured with a width of four. -/
theorem loadFiles_layout_threeAndTwo :
    ∃ d t, loadFiles .standard threeAndTwo [] {} [⟨"m"⟩] (Collector.plain []) = (.ok [d], t) ∧
      d.renderSpaces 4 = "    a\n        b\n        c\n    d \n\n" ∧
      d.layout = [(⟨1, none⟩, "a\n"), (⟨2, none⟩, "b\n"), (⟨2, none⟩, "c\n"), (⟨1, none⟩, "d \n"),
        (⟨0, none⟩, "\n")] ∧
      Text.layout 4 (d.renderSpaces 4) = d.layout ∧ Text.layout 4 d.renderTabs = d.layout := by
  have hout : (loadFiles .standard threeAndTwo [] {} [⟨"m"⟩]
      (Collector.plain [])).1.toOption.map (·.map fun d => (d.renderSpaces 4, d.layout)) =
        some [("    a\n        b\n        c\n    d \n\n", [(⟨1, none⟩, "a\n"), (⟨2, none⟩, "b\n"),
          (⟨2, none⟩, "c\n"), (⟨1, none⟩, "d \n"), (⟨0, none⟩, "\n")])] := by
    rw [← Engine.prepared_eq]
    decide +kernel
  obtain ⟨d, hrun, hd⟩ := exists_single_of_map hout
  obtain ⟨hspaces, hlayout⟩ := Prod.mk.inj hd
  refine ⟨d, _, hrun, hspaces, hlayout, ?_⟩
  exact loadFiles_layout .standard threeAndTwo [] {} [⟨"m"⟩] hrun d List.mem_cons_self 4 (by decide)

end SourcePrep
