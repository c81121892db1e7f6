import SourcePrep.Pattern.Engine
import SourcePrep.Proofs.DocumentText
import SourcePrep.Proofs.MemoizedMatching

/-!
# What a match captures

A search gives back slots, which hold places. A match gives back the texts between them.

* `slice_of_reads`: the text between the byte offsets of two places is what is read there.
* `Captured`: slots that say where a group was read; the group of a match then has what was read
  there (`Captured.named?_matchOf`).
* `Recognizes`: a matcher takes the physical lines of a grammar and no others, and what it captures
  there is what the grammar says. `recognizes_of_regular` leaves of this only what the expression of
  a pattern stands for.
-/

set_option autoImplicit false

namespace SourcePrep

theorem Text.size_ofList_add (cs : List Char) (n : Nat) :
    n + size (String.ofList cs) = cs.foldl (fun n c => n + c.utf8Size) n := by
  induction cs generalizing n with
  | nil => simp
  | cons c cs ih =>
    rw [List.foldl_cons, ← ih, String.ofList_cons, size_append, ← Nat.add_assoc, size,
      String.utf8ByteSize_singleton]

namespace Pattern

/-! ## Places and offsets -/

/-- The byte offset of a place is the size of what is before it. -/
theorem byteOffset_chars (s : String) (i : Nat) :
    byteOffset (Text.chars s) i = Text.size (String.ofList (s.toList.take i)) := by
  have hbefore : ((Text.chars s).extract 0 i).toList = s.toList.take i := by
    rw [Array.toList_extract, List.extract_eq_take_drop, Text.toList_chars, Nat.sub_zero,
      List.drop_zero]
  rw [byteOffset, Array.foldl_eq_foldl_extract, ← Array.foldl_toList, hbefore,
    ← Text.size_ofList_add, Nat.zero_add]

/-- The text between two places is what is read there. -/
theorem slice_of_reads {s : String} {i : Nat} {cs : List Char} (h : Reads (Text.chars s) i cs) :
    Text.slice s (byteOffset (Text.chars s) i) (byteOffset (Text.chars s) (i + cs.length)) =
      String.ofList cs := by
  obtain ⟨rest, hrest⟩ := h
  rw [Text.toList_chars] at hrest
  have htext : s = String.ofList (s.toList.take i) ++ String.ofList cs ++ String.ofList rest := by
    rw [← String.toList_inj, String.toList_append, String.toList_append, String.toList_ofList,
      String.toList_ofList, String.toList_ofList, List.append_assoc, hrest, List.take_append_drop]
  have hstop : s.toList.take (i + cs.length) = s.toList.take i ++ cs := by
    rw [List.take_add, ← hrest, List.take_left]
  have hslice := Text.slice_append (String.ofList (s.toList.take i)) (String.ofList cs)
    (String.ofList rest)
  rw [← htext] at hslice
  rw [byteOffset_chars, byteOffset_chars, hstop, String.ofList_append, Text.size_append, hslice]

/-! ## Groups -/

/-- The slots say that a group has the given characters of a text. -/
def Captured (subject : Array Char) (slots : Slots) (n : Nat) (cs : List Char) : Prop :=
  ∃ i, slots[2 * n]? = some (some i) ∧ slots[2 * n + 1]? = some (some (i + cs.length)) ∧
    Reads subject i cs

section
variable {subject : Array Char} {slots : Slots} {n : Nat} {cs : List Char}

theorem size_mark (slots : Slots) (slot place : Nat) :
    (slots.mark slot place).size = slots.size := Array.size_setIfInBounds

/-- Where an expression without groups was taken as a group. -/
theorem Captured.of_mark {i : Nat} (hsize : 2 * n + 1 < slots.size) (hreads : Reads subject i cs) :
    Captured subject ((slots.mark (2 * n) i).mark (2 * n + 1) (i + cs.length)) n cs := by
  refine ⟨i, ?_, ?_, hreads⟩
  · rw [Slots.mark, Array.getElem?_setIfInBounds_ne (by omega), Slots.mark,
      Array.getElem?_setIfInBounds_self_of_lt (by omega)]
  · rw [Slots.mark, Array.getElem?_setIfInBounds_self_of_lt (by rwa [size_mark])]

theorem Captured.mark {slot place : Nat} (h : Captured subject slots n cs) (hslot : slot / 2 ≠ n) :
    Captured subject (slots.mark slot place) n cs := by
  obtain ⟨i, hstart, hstop, hreads⟩ := h
  refine ⟨i, ?_, ?_, hreads⟩
  · rw [Slots.mark, Array.getElem?_setIfInBounds_ne (by omega), hstart]
  · rw [Slots.mark, Array.getElem?_setIfInBounds_ne (by omega), hstop]

/-- A group has the characters that were read between its slots. -/
theorem Captured.named?_matchOf {p : Pattern} {s name : String}
    (h : Captured (Text.chars s) slots (n + 1) cs) (hname : p.names.lookup name = some (n + 1))
    (hn : n < p.groups) :
    (p.matchOf s (Text.chars s) slots).named? name = some (String.ofList cs) := by
  obtain ⟨i, hstart, hstop, hreads⟩ := h
  have hbounds : groupBounds (Text.chars s) slots (n + 1) =
      some (byteOffset (Text.chars s) i, byteOffset (Text.chars s) (i + cs.length)) := by
    rw [groupBounds, hstart, hstop]
    rfl
  have hgroup : (p.matchOf s (Text.chars s) slots).group? (n + 1) = some (String.ofList cs) := by
    simp only [Match.group?, matchOf, List.getElem?_cons_succ, List.getElem?_map,
      List.getElem?_range hn, Option.map_some, hbounds, Option.join_some, slice_of_reads hreads]
  have hnames : (p.matchOf s (Text.chars s) slots).names.lookup name = some (n + 1) := hname
  rw [Match.named?, hnames, Option.bind_some, hgroup]

end

end Pattern

/-! ## Recognizers of lines -/

/-- The matcher takes the physical lines of a grammar and no others, and captures there what the
grammar says. -/
def Recognizes {α : Type} (find : Matcher) (captured : Match → Option α)
    (grammar : String → α → Prop) : Prop :=
  ∀ line : String, '\n' ∉ line.toList → ∃ found, find (line ++ "\n") = .ok found ∧
    (found.isSome = true ↔ ∃ a, grammar line a) ∧
    ∀ m ∈ found, ∀ a, captured m = some a ↔ grammar line a

/-- A line of the grammar is found, and what it says is captured. -/
theorem Recognizes.found {α : Type} {find : Matcher} {captured : Match → Option α}
    {grammar : String → α → Prop} (h : Recognizes find captured grammar) {line : String} {a : α}
    (hline : '\n' ∉ line.toList) (ha : grammar line a) :
    ∃ m, find (line ++ "\n") = .ok (some m) ∧ captured m = some a := by
  obtain ⟨found, hfind, hsome, hcaptured⟩ := h line hline
  obtain ⟨m, rfl⟩ := Option.isSome_iff_exists.1 (hsome.2 ⟨a, ha⟩)
  exact ⟨m, hfind, (hcaptured m rfl a).2 ha⟩

namespace Pattern

/-- The slots before a search. -/
def blankSlots (p : Pattern) : Slots := Array.replicate (2 * (p.groups + 1)) none

/-- An expression that stands for the lines of a grammar, and notes what the grammar says of
them. -/
theorem recognizes_of_regular {α : Type} {p : Pattern} {e : Regular}
    {captured : Match → Option α} {grammar : String → α → Prop}
    (hp : p.program = .linear e) (hfree : e.loopFree = true) (hkeys : e.keys.Nodup)
    (haccepts : ∀ line a, '\n' ∉ line.toList → grammar line a → ∃ cs,
      e.Accepts (Text.chars (line ++ "\n")) 0 cs ∧ Reads (Text.chars (line ++ "\n")) 0 cs)
    (hmarks : ∀ line i cs after, '\n' ∉ line.toList →
      e.Marks (Text.chars (line ++ "\n")) i cs p.blankSlots after →
      Reads (Text.chars (line ++ "\n")) i cs → ∃ a, grammar line a ∧
        captured (p.matchOf (line ++ "\n") (Text.chars (line ++ "\n")) after) = some a)
    (hunique : ∀ line a b, grammar line a → grammar line b → a = b) :
    Recognizes (fun text => p.firstMatch text 0) captured grammar := by
  intro line hline
  let subject := Text.chars (line ++ "\n")
  have hfirst : p.firstMatch (line ++ "\n") 0 =
      .ok ((e.search subject p.blankSlots 0).map (p.matchOf (line ++ "\n") subject)) := by
    simp only [firstMatch, firstSlots, hp]
    rfl
  refine ⟨_, hfirst, ?_⟩
  rcases hsearch : e.search subject p.blankSlots 0 with - | after
  · refine ⟨⟨fun h => (Bool.false_ne_true h).elim, fun ⟨a, ha⟩ => ?_⟩, fun m hm => ?_⟩
    · obtain ⟨cs, hcs, hreads⟩ := haccepts line a hline ha
      cases (Regular.search_eq_none_iff hfree hkeys).1 hsearch 0 (Nat.zero_le _) cs hcs hreads
    · cases hm
  · obtain ⟨i, -, cs, hcs, hreads⟩ := Regular.search_marks hfree hkeys hsearch
    obtain ⟨a, ha, hcaptured⟩ := hmarks line i cs after hline hcs hreads
    refine ⟨⟨fun _ => ⟨a, ha⟩, fun _ => rfl⟩, fun m hm b => ?_⟩
    obtain rfl := Option.some.inj hm
    rw [hcaptured, Option.some.injEq]
    exact ⟨fun h => h ▸ ha, fun hb => hunique line a b ha hb⟩

end Pattern

end SourcePrep
