import SourcePrep.Proofs.DocumentText

/-!
# The three kinds of line

Raw, measured and normalized lines keep their canonical text in different shapes: one text, two
counts and a text, one count and a text. A slice is taken from each part by itself.

* `Text.cut_append`: what lies between two cuts of a text in two parts is what lies between them in
  each part.
* Slicing any kind of line slices its canonical text (`LawfulLineKind`), and the slice from end to
  end is the line itself (`ExactLineKind`). Documents need to know no more of a kind.
-/

set_option autoImplicit false

namespace SourcePrep

/-! ## Texts in parts -/

/-- Two cuts of a text in two parts, seen in each part. -/
theorem Text.cut_append {x y a b c : String} (h : x ++ y = a ++ b ++ c) :
    ∃ x₁ x₂ x₃ y₁ y₂ y₃, x = x₁ ++ x₂ ++ x₃ ∧ y = y₁ ++ y₂ ++ y₃ ∧ b = x₂ ++ y₂ ∧
      size x₂ = min (size a + size b) (size x) - size a ∧
      size y₁ = size a - size x ∧ size y₁ + size y₂ = size a + size b - size x := by
  by_cases hstart : size x ≤ size a
  · rw [String.append_assoc] at h
    obtain ⟨a', rfl, rfl⟩ := append_split h hstart
    simp only [size_append]
    exact ⟨x, "", "", a', b, c, by simp, (String.append_assoc ..).symm, by simp,
      by rw [size_empty]; omega, by omega, by omega⟩
  · by_cases hstop : size x ≤ size a + size b
    · obtain ⟨b', hab, rfl⟩ := append_split h (by rwa [size_append])
      obtain ⟨x', rfl, rfl⟩ := append_split hab (by omega)
      simp only [size_append] at hstart hstop ⊢
      exact ⟨a, x', "", "", b', c, by simp, by simp, rfl, by omega, by simp, by simp; omega⟩
    · obtain ⟨x', rfl, rfl⟩ := append_split h.symm (by rw [size_append]; omega)
      simp only [size_append] at hstart hstop ⊢
      exact ⟨a, b, x', "", "", y, rfl, by simp, by simp, by omega, by rw [size_empty]; omega,
        by rw [size_empty]; omega⟩

/-- The middle part of a run of one character. -/
theorem Text.copies_middle {c : Char} (hc : c.utf8Size = 1) {n : Nat} {x y z : String}
    (h : copies c n = x ++ y ++ z) : y = copies c (size y) := by
  have hfront : copies c (size (x ++ y)) = x ++ y := (copies_split hc h).1.symm
  have hmiddle := (copies_split hc hfront).2
  rwa [size_append, Nat.add_sub_cancel_left] at hmiddle

/-! ## Slices are slices of the canonical text -/

instance : LawfulLineKind Raw where
  size_eq _ := rfl
  canonical_slice k a b c h := by
    simp only [LineKind.canonical] at h
    simp only [LineKind.canonical, LineKind.slice, h, Text.slice_append]

theorem Measured.slice_eq (spaces tabs : Nat) (rest : String) (start stop : Nat) :
    LineKind.slice (⟨spaces, tabs, rest⟩ : Measured) start stop =
      ⟨overlap start stop 0 spaces, overlap start stop spaces (spaces + tabs),
        if spaces + tabs < stop then
          Text.slice rest (start - (spaces + tabs)) (stop - (spaces + tabs))
        else ""⟩ := rfl

/-- The spaces, the tabs and the rest are each cut by themselves. -/
theorem Measured.canonical_slice (k : Measured) (a b c : String)
    (h : LineKind.canonical k = a ++ b ++ c) :
    LineKind.canonical (LineKind.slice k (Text.size a) (Text.size a + Text.size b)) = b := by
  obtain ⟨spaces, tabs, rest⟩ := k
  rw [slice_eq]
  simp only [LineKind.canonical] at h ⊢
  rw [String.append_assoc] at h
  -- the text is cut into its spaces and what is behind them, and that into its tabs and the rest
  obtain ⟨s₁, s, s₂, b₁, b', b₂, hs, hbehind, hb, hsize, hb₁, hb'⟩ := Text.cut_append h
  obtain ⟨t₁, t, t₂, r₁, r, r₂, ht, rfl, rfl, htsize, hr₁, hr⟩ := Text.cut_append hbehind
  rw [Text.size_copies rfl] at hsize hb₁ hb'
  rw [hb', hb₁, Text.size_copies_tab] at htsize
  rw [hb', Text.size_copies_tab] at hr
  rw [Text.size_copies_tab, hb₁] at hr₁
  generalize Text.size a = start at *
  generalize start + Text.size b = stop at *
  have hspaces : overlap start stop 0 spaces = Text.size s := by
    rw [overlap, hsize]
    omega
  have htabs : overlap start stop spaces (spaces + tabs) = Text.size t := by
    rw [overlap, htsize]
    omega
  have hrest : (if spaces + tabs < stop then
      Text.slice (r₁ ++ r ++ r₂) (start - (spaces + tabs)) (stop - (spaces + tabs)) else "") =
      r := by
    split
    · have hfirst : start - (spaces + tabs) = Text.size r₁ := by omega
      have hlast : stop - (spaces + tabs) = Text.size r₁ + Text.size r := by omega
      rw [hfirst, hlast, Text.slice_append]
    · exact (Text.size_eq_zero.1 (by omega)).symm
  rw [hspaces, htabs, hrest, ← Text.copies_middle rfl hs, ← Text.copies_middle rfl ht, hb,
    String.append_assoc]

instance : LawfulLineKind Measured where
  size_eq k := by
    simp only [LineKind.size, LineKind.canonical, Text.size_append, Text.size_copies_tab,
      Text.size_copies (c := ' ') rfl, Measured.indentSize]
  canonical_slice := Measured.canonical_slice

/-! ## Whole lines -/

/-- A kind of line whose slice from end to end is the line itself, whatever shape its text has. -/
class ExactLineKind (κ : Type) [LineKind κ] : Prop extends LawfulLineKind κ where
  slice_whole : ∀ k : κ, LineKind.slice k 0 (LineKind.size k) = k

theorem Text.slice_whole (s : String) : slice s 0 (size s) = s := by
  simpa using slice_append "" s ""

instance : ExactLineKind Raw where
  slice_whole k := congrArg Raw.mk (Text.slice_whole k.text)

instance : ExactLineKind Measured where
  slice_whole k := by
    obtain ⟨spaces, tabs, rest⟩ := k
    simp only [Measured.slice_eq, LineKind.size, Measured.indentSize, overlap, Measured.mk.injEq]
    refine ⟨by omega, by omega, ?_⟩
    split
    · rw [Nat.add_sub_cancel_left, Nat.zero_sub, Text.slice_whole]
    · exact (Text.size_eq_zero.1 (by omega)).symm

instance : ExactLineKind Normalized where
  slice_whole k := by
    obtain ⟨level, content⟩ := k
    have hcontent : Text.takeBytes content (Text.size content) = content := by
      simpa using Text.takeBytes_append content ""
    simp only [LineKind.slice, LineKind.size]
    split
    · simp only [Nat.add_sub_cancel_left, hcontent, Nat.sub_zero, Normalized.mk.injEq]
      refine ⟨by omega, ?_⟩
      split
      · rfl
      · exact (Text.size_eq_zero.1 (by omega)).symm
    · obtain rfl : level = 0 := by omega
      simp only [Nat.zero_add, Nat.sub_zero, Text.slice_whole]

theorem Line.slice_whole {κ : Type} [LineKind κ] [ExactLineKind κ] (l : Line κ) :
    l.slice 0 l.size = l := by
  rw [Line.slice, Line.size, ExactLineKind.slice_whole]

end SourcePrep
