import SourcePrep.Proofs.ExpansionLoop
import SourcePrep.Proofs.Lookups
import SourcePrep.Proofs.PreparedPatterns
import SourcePrep.Proofs.Script
import Mathlib.Order.Monotone.Defs

/-!
# Positions through expansion

Every line of an expanded document points at a line of the document that it was made from, and the
lines point there in order. A replacement cuts lines in two, drops some and makes several out of one,
so the places pointed at may repeat and may be skipped, but they never go back.

* `Drawn`: entries of a list that were taken from another list, between two places of it and in
  order. The relation is kept by everything that is done to lines.
* `slice_drawn`, `splice_drawn`, `replaceRegion_drawn`: what the operations on documents take from
  where.
* `step_drawn`, `scan_drawn`: what one replacement and one scan take from the document at hand;
  `settleWithin_drawn` and `expandWithin_drawn` follow by induction on the number of steps.
* `expand_positions`: what follows for `expand`, for every engine, document, sink and limits.
-/

set_option autoImplicit false

namespace SourcePrep

/-! ## Entries taken in order -/

/-- The entries of `new` are entries of `old`, taken in order from the places `lo` to `hi`. An entry
may be taken more than once, or not at all. -/
def Drawn {α : Type} (old : List α) (lo hi : Nat) (new : List α) : Prop :=
  ∃ places : List Nat, places.Pairwise (· ≤ ·) ∧ (∀ i ∈ places, lo ≤ i ∧ i ≤ hi) ∧
    new.map some = places.map (old[·]?)

namespace Drawn

variable {α : Type} {old new : List α} {lo hi : Nat}

theorem nil (old : List α) (lo hi : Nat) : Drawn old lo hi [] := ⟨[], .nil, by simp, rfl⟩

theorem append {mid : Nat} {more : List α} (hlo : lo ≤ mid) (hhi : mid ≤ hi)
    (h : Drawn old lo mid new) (h' : Drawn old mid hi more) : Drawn old lo hi (new ++ more) := by
  obtain ⟨is, hsorted, hbounds, hnew⟩ := h
  obtain ⟨js, hsorted', hbounds', hmore⟩ := h'
  refine ⟨is ++ js, List.pairwise_append.2 ⟨hsorted, hsorted', fun i hi j hj => ?_⟩, ?_, ?_⟩
  · exact (hbounds i hi).2.trans (hbounds' j hj).1
  · intro i hi
    rcases List.mem_append.1 hi with hi | hi
    · have := hbounds i hi
      omega
    · have := hbounds' i hi
      omega
  · rw [List.map_append, List.map_append, hnew, hmore]

theorem sublist {less : List α} (h : Drawn old lo hi new) (hsub : less.Sublist new) :
    Drawn old lo hi less := by
  obtain ⟨places, hsorted, hbounds, hnew⟩ := h
  obtain ⟨fewer, hfewer, heq⟩ := List.sublist_map_iff.1 (hnew ▸ hsub.map some)
  exact ⟨fewer, hsorted.sublist hfewer, fun i hi => hbounds i (hfewer.subset hi), heq⟩

/-- What is taken from entries that were taken themselves is taken from between the same places. -/
theorem trans {last : List α} {lo' hi' : Nat} (h : Drawn old lo hi new)
    (h' : Drawn new lo' hi' last) : Drawn old lo hi last := by
  obtain ⟨is, hsorted, hbounds, hnew⟩ := h
  obtain ⟨js, hsorted', -, hlast⟩ := h'
  have hlen : is.length = new.length := by simpa using (congrArg List.length hnew).symm
  have hin : ∀ j ∈ js, j < is.length := by
    intro j hj
    have hmem : new[j]? ∈ last.map some := hlast ▸ List.mem_map_of_mem hj
    obtain ⟨a, -, ha⟩ := List.mem_map.1 hmem
    rw [hlen]
    exact (List.getElem?_eq_some_iff.1 ha.symm).1
  have hget : ∀ j (hj : j ∈ js), is[j]?.getD 0 = is.get ⟨j, hin j hj⟩ := by
    intro j hj
    rw [List.getElem?_eq_getElem (hin j hj), Option.getD_some, List.get_eq_getElem]
  refine ⟨js.map fun j => is[j]?.getD 0, ?_, ?_, ?_⟩
  · refine List.pairwise_map.2 (hsorted'.imp_of_mem fun {j k} hj hk hjk => ?_)
    rw [hget j hj, hget k hk]
    exact hsorted.rel_get_of_le (a := ⟨j, hin j hj⟩) (b := ⟨k, hin k hk⟩) hjk
  · intro i hi
    obtain ⟨j, hj, rfl⟩ := List.mem_map.1 hi
    rw [hget j hj]
    exact hbounds _ (List.get_mem _ _)
  · rw [hlast, List.map_map]
    refine List.map_congr_left fun j hj => ?_
    have hjth : (new.map some)[j]? = (is.map (old[·]?))[j]? := by rw [hnew]
    have hnew' : j < new.length := hlen ▸ hin j hj
    simp only [List.getElem?_map, List.getElem?_eq_getElem (hin j hj),
      List.getElem?_eq_getElem hnew', Option.map_some, Option.some.injEq] at hjth
    rw [Function.comp_apply, hget j hj, List.get_eq_getElem, ← hjth,
      List.getElem?_eq_getElem hnew']

/-- The entries between two places. -/
theorem segment (old : List α) (lo hi : Nat) :
    Drawn old lo hi ((old.drop lo).take (hi - lo)) := by
  generalize hpart : (old.drop lo).take (hi - lo) = part
  have hlen : part.length = min (hi - lo) (old.length - lo) := by simp [← hpart]
  refine ⟨List.range' lo part.length, ?_, fun i hi => ?_, ?_⟩
  · exact (List.pairwise_lt_range').imp Nat.le_of_lt
  · rw [List.mem_range'_1, hlen] at hi
    omega
  · refine List.ext_getElem (by simp) fun i hi _ => ?_
    rw [List.length_map, hlen] at hi
    have hold : lo + i < old.length := by omega
    simp [← hpart, List.getElem?_eq_getElem hold]

theorem single (old : List α) (i : Nat) : Drawn old i i old[i]?.toList := by
  rcases h : old[i]? with - | a
  · exact nil old i i
  · exact ⟨[i], List.pairwise_singleton _ _, by simp, by simp [h]⟩

theorem widen {lo' hi' : Nat} (h : Drawn old lo hi new) (hlo : lo' ≤ lo) (hhi : hi ≤ hi') :
    Drawn old lo' hi' new := by
  obtain ⟨places, hsorted, hbounds, hnew⟩ := h
  refine ⟨places, hsorted, fun i hi => ?_, hnew⟩
  have := hbounds i hi
  omega

/-- Any places will do that hold all the entries. -/
theorem anywhere (h : Drawn old lo hi new) : Drawn old 0 old.length new := by
  obtain ⟨places, hsorted, -, hnew⟩ := h
  refine ⟨places, hsorted, fun i hi => ⟨Nat.zero_le i, ?_⟩, hnew⟩
  have hmem : old[i]? ∈ new.map some := hnew ▸ List.mem_map_of_mem hi
  obtain ⟨a, -, ha⟩ := List.mem_map.1 hmem
  exact Nat.le_of_lt (List.getElem?_eq_some_iff.1 ha.symm).1

theorem refl (old : List α) : Drawn old 0 old.length old := by
  have h := segment old 0 old.length
  rwa [List.drop_zero, Nat.sub_zero, List.take_length] at h

/-- The places as a monotone function, where the entries are read off longer ones. -/
theorem exists_monotone {β : Type} {f : β → α} {source made : List β}
    (h : Drawn (source.map f) lo hi (made.map f)) :
    ∃ place : Fin made.length → Fin source.length, Monotone place ∧
      ∀ i, f (made.get i) = f (source.get (place i)) := by
  obtain ⟨places, hsorted, -, hmade⟩ := h
  have hlen : made.length = places.length := by simpa using congrArg List.length hmade
  have hget : ∀ i : Fin made.length,
      source[places.get ⟨i, hlen ▸ i.isLt⟩]?.map f = some (f (made.get i)) := by
    intro i
    have hith : ((made.map f).map some)[i.val]? = (places.map ((source.map f)[·]?))[i.val]? := by
      rw [hmade]
    have hi : i.val < places.length := hlen ▸ i.isLt
    simp only [List.getElem?_map, List.getElem?_eq_getElem i.isLt, List.getElem?_eq_getElem hi,
      Option.map_some, Option.some.injEq] at hith
    exact hith.symm
  have hplace : ∀ i : Fin made.length,
      ∃ hlt : places.get ⟨i, hlen ▸ i.isLt⟩ < source.length,
        f (source.get ⟨_, hlt⟩) = f (made.get i) := by
    intro i
    obtain ⟨b, hb, hfb⟩ := Option.map_eq_some_iff.1 (hget i)
    obtain ⟨hlt, rfl⟩ := List.getElem?_eq_some_iff.1 hb
    exact ⟨hlt, hfb⟩
  refine ⟨fun i => ⟨_, (hplace i).1⟩, fun i j hij => ?_, fun i => (hplace i).2.symm⟩
  exact hsorted.rel_get_of_le (a := ⟨i, hlen ▸ i.isLt⟩) (b := ⟨j, hlen ▸ j.isLt⟩) hij

end Drawn

/-! ## Cutting and joining documents -/

namespace Document

/-- Where the lines came from. -/
def positions {κ : Type} (d : Document κ) : List Position := d.lines.map Line.position

section
variable {κ : Type} [LineKind κ] (d : Document κ)

theorem positions_ofLines (ls : List (Line κ)) (config : Configuration) :
    (ofLines ls config).positions.Sublist (ls.map Line.position) :=
  List.filter_sublist.map Line.position

theorem positions_cutLine (i start stop : Nat) :
    (d.cutLine i start stop).map Line.position = d.positions[i]?.toList := by
  rw [cutLine, positions, List.getElem?_map]
  cases d.lines[i]? <;> rfl

theorem positions_cutLineFrom (i start : Nat) :
    (d.cutLineFrom i start).map Line.position = d.positions[i]?.toList := by
  rw [cutLineFrom, positions, List.getElem?_map]
  cases d.lines[i]? <;> rfl

end

section
variable {κ : Type} (d : Document κ)

/-- The line that an offset cuts, if it cuts one. -/
theorem drawn_cut {c : Prop} [Decidable c] (i : Nat) {ls : List (Line κ)}
    (h : ls.map Line.position = d.positions[i]?.toList) :
    Drawn d.positions i i ((if c then ls else []).map Line.position) := by
  split
  · rw [h]
    exact .single _ i
  · exact .nil _ i i

/-- The line that a region starts in. A region ends with the text at the latest. -/
def firstTouched (start stop : Nat) : Nat := (d.offsetOf (min start (min stop d.size))).1

/-- The line that a region ends in, or in front of. -/
def lastTouched (stop : Nat) : Nat := (d.offsetOf (min stop d.size)).1

theorem firstTouched_le (start stop : Nat) : d.firstTouched start stop ≤ d.lastTouched stop :=
  d.offsetOf_mono (Nat.min_le_right ..)

end

section
variable {κ : Type} [LineKind κ] (d : Document κ)

/-- A slice is taken from the lines that its region touches. -/
theorem slice_drawn (start stop : Nat) :
    Drawn d.positions (d.firstTouched start stop) (d.lastTouched stop)
      (d.slice start stop).positions := by
  by_cases hempty : min stop d.size ≤ start
  · rw [slice, if_pos hempty]
    exact .nil ..
  have hstart : min start (min stop d.size) = start := by omega
  have hle := d.firstTouched_le start stop
  rw [firstTouched, lastTouched, hstart] at hle ⊢
  rcases hfirst : d.offsetOf start with ⟨first, firstColumn⟩
  rcases hlast : d.offsetOf (min stop d.size) with ⟨last, lastColumn⟩
  rw [hfirst, hlast] at hle
  simp only [slice, if_neg hempty, hfirst, hlast]
  refine Drawn.sublist ?_ (positions_ofLines _ _)
  by_cases hsame : first = last
  · rw [if_pos hsame, positions_cutLine, hsame]
    exact .single _ last
  · rw [if_neg hsame, List.map_append, List.map_append, positions_cutLineFrom, List.map_take,
      List.map_drop, List.append_assoc]
    have hmiddle := (Drawn.segment d.positions (first + 1) last).widen (Nat.le_succ first) le_rfl
    exact .append le_rfl hle (.single _ first)
      (.append hle le_rfl hmiddle (d.drawn_cut last (d.positions_cutLine last 0 _)))

/-- What takes the place of a region may be taken from the lines that the region touches: the line
that is cut at its start comes before, and the line that is cut at its end comes after. -/
theorem splice_drawn (start stop : Nat) {new : Document κ}
    (h : Drawn d.positions (d.firstTouched start stop) (d.lastTouched stop) new.positions) :
    Drawn d.positions 0 d.positions.length (d.splice start stop new).positions := by
  have hle := d.firstTouched_le start stop
  rw [firstTouched, lastTouched] at h hle
  rcases hfirst : d.offsetOf (min start (min stop d.size)) with ⟨first, firstColumn⟩
  rcases hlast : d.offsetOf (min stop d.size) with ⟨last, lastColumn⟩
  rw [hfirst, hlast] at h hle
  have hbefore : Drawn d.positions 0 first (d.positions.take first) := by
    simpa using Drawn.segment d.positions 0 first
  have hafter : ∀ n, last ≤ n →
      Drawn d.positions last (max last d.positions.length) (d.positions.drop n) := by
    intro n hn
    have hrest := Drawn.segment d.positions n (max last d.positions.length)
    rw [List.take_of_length_le (by rw [List.length_drop]; omega)] at hrest
    exact hrest.widen hn le_rfl
  have hcut : (d.splice start stop new).positions = d.positions.take first ++
      (((if 0 < firstColumn then d.cutLine first 0 firstColumn else []).map Line.position ++
          new.positions) ++
        ((if 0 < lastColumn then d.cutLineFrom last lastColumn else []).map Line.position ++
          d.positions.drop (if 0 < lastColumn then last + 1 else last))) := by
    simp only [positions, splice, hfirst, hlast, List.map_append, List.map_take, List.map_drop,
      List.append_assoc]
  have hhead := d.drawn_cut (c := 0 < firstColumn) first
    (d.positions_cutLine first 0 firstColumn)
  have htail := d.drawn_cut (c := 0 < lastColumn) last
    (d.positions_cutLineFrom last lastColumn)
  have hreplaced := Drawn.append le_rfl hle hhead h
  have hrest := Drawn.append le_rfl (le_max_left last d.positions.length) htail
    (hafter (if 0 < lastColumn then last + 1 else last) (by split <;> omega))
  rw [hcut]
  exact (Drawn.append (Nat.zero_le first) (hle.trans (le_max_left ..)) hbefore
    (.append hle (le_max_left ..) hreplaced hrest)).anywhere

end

/-! ## New lines for a region -/

section
variable {σ : Type} [Sink σ] (d : Document Normalized) (n : Nat) (startsLine : Bool)

/-- The line that piece `i` of `n` takes its position from. -/
def rescaled (i : Nat) : Nat := min (i * d.lineCount / n) (d.lineCount - 1)

theorem rescaled_mono {i j : Nat} (h : i ≤ j) : d.rescaled n i ≤ d.rescaled n j := by
  have hscaled : i * d.lineCount / n ≤ j * d.lineCount / n :=
    Nat.div_le_div_right (Nat.mul_le_mul_right _ h)
  simp only [rescaled]
  omega

theorem regionLine_position (i : Nat) (piece : String) :
    Returns (d.regionLine n startsLine i piece : Reporting σ _) fun line =>
      d.positions[d.rescaled n i]? = some line.position := by
  rw [regionLine]
  refine (Returns.orFault _ _).bind fun replaced hreplaced => ?_
  have hposition : d.positions[d.rescaled n i]? = some replaced.position := by
    rw [positions, List.getElem?_map, rescaled, hreplaced, Option.map_some]
  split
  · exact .pure hposition
  · refine (Line.normalize_returns _ _).mono fun line hline => ?_
    rw [hline, Line.normalized]
    exact hposition

theorem regionLines_positions (i : Nat) (pieces : List String) :
    Returns (d.regionLines n startsLine i pieces : Reporting σ _) fun ls =>
      (ls.map Line.position).map some =
        ((List.range' i pieces.length).map (d.rescaled n)).map (d.positions[·]?) := by
  induction pieces generalizing i with
  | nil => exact .pure rfl
  | cons piece rest ih =>
    rw [regionLines]
    refine (d.regionLine_position n startsLine i piece).bind fun line hline => ?_
    refine (ih (i + 1)).bind fun ls hls => .pure ?_
    rw [List.length_cons, List.range'_succ, List.map_cons, List.map_cons, List.map_cons,
      List.map_cons, hls, hline]

/-- What takes the place of a document is taken from it: the rescaling of line numbers is monotone,
and never leads out of the document. -/
theorem replaceRegion_drawn (text : String) :
    Returns (d.replaceRegion text startsLine : Reporting σ _) fun result =>
      ∀ new, result = .ok new → Drawn d.positions 0 d.positions.length new.positions := by
  rw [replaceRegion]
  split
  · refine .pure fun new hnew => ?_
    cases hnew
    exact .nil ..
  split
  · exact .pure fun new hnew => by cases hnew
  refine (d.regionLines_positions _ startsLine 0 _).bind fun ls hls => .pure fun new hnew => ?_
  cases hnew
  have hls' : Drawn d.positions 0 d.lineCount (ls.map Line.position) := by
    refine ⟨_, List.pairwise_map.2 ?_, fun i hi => ?_, hls⟩
    · exact (List.pairwise_lt_range').imp fun hij => d.rescaled_mono _ (Nat.le_of_lt hij)
    · obtain ⟨j, -, rfl⟩ := List.mem_map.1 hi
      exact ⟨Nat.zero_le _, (Nat.min_le_right ..).trans (Nat.sub_le ..)⟩
  exact (hls'.sublist (positions_ofLines ls d.config)).anywhere

end

end Document

/-! ## Every step takes lines from the document at hand -/

/-- The lines of `e` were made from those of `d`. -/
def Document.MadeFrom (e d : Document Normalized) : Prop :=
  Drawn d.positions 0 d.positions.length e.positions

namespace Document.MadeFrom

variable {d e f : Document Normalized}

theorem refl (d : Document Normalized) : d.MadeFrom d := Drawn.refl _

theorem trans (hf : f.MadeFrom e) (he : e.MadeFrom d) : f.MadeFrom d := Drawn.trans he hf

end Document.MadeFrom

theorem Document.kept_madeFrom {σ : Type} [Sink σ] : Document.Kept σ Document.MadeFrom where
  refl := .refl
  trans := .trans
  replaced := by
    intro d old new e start stop text startsLine s t hold hmade hspliced
    have hnew := old.replaceRegion_drawn startsLine text s _ t hmade new rfl
    rw [Document.eq_slice_of_slice? hold] at hnew
    rw [Document.eq_splice_of_splice? hspliced]
    exact d.splice_drawn _ _ ((d.slice_drawn _ _).trans hnew)
  removed := by
    intro d e start stop hspliced
    rw [Document.eq_splice_of_splice? hspliced]
    exact d.splice_drawn _ _ (.nil ..)

/-! ## Positions of an expanded document -/

/-- Line numbers never go down. -/
def Document.Ordered (d : Document Normalized) : Prop :=
  d.lines.Pairwise fun a b => a.position.line ≤ b.position.line

instance (d : Document Normalized) : Decidable d.Ordered :=
  inferInstanceAs (Decidable (d.lines.Pairwise _))

theorem expand_positions {σ : Type} [Sink σ] (engine : Engine) (limits : Limits)
    {d out : Document Normalized} {s t : σ} (h : expand engine limits d s = (.ok out, t)) :
    (∃ source : Fin out.lines.length → Fin d.lines.length, Monotone source ∧
      ∀ i, (out.lines.get i).position = (d.lines.get (source i)).position) ∧
    (d.Ordered → out.Ordered) := by
  have hmade : out.MadeFrom d := Document.kept_madeFrom.expandWithin engine limits _ _ d s out t h
  obtain ⟨source, hmono, hsource⟩ := hmade.exists_monotone
  refine ⟨⟨source, hmono, hsource⟩, fun hd => List.pairwise_iff_get.2 fun i j hij => ?_⟩
  rw [hsource i, hsource j]
  -- two lines may come from one and the same line
  rcases (hmono hij.le).eq_or_lt with heq | hlt
  · rw [heq]
  · exact List.pairwise_iff_get.1 hd _ _ hlt

/-- A directive for a match that runs over the end of a line, and two lines with such a match. -/
def acrossLines : Document Normalized :=
  .ofLines [⟨⟨⟨"a"⟩, 1⟩, ⟨0, "replace x\\ny\n"⟩⟩, ⟨⟨⟨"a"⟩, 2⟩, ⟨1, "b\\nc\\nd\n"⟩⟩,
    ⟨⟨⟨"a"⟩, 3⟩, ⟨0, "1x\n"⟩⟩, ⟨⟨⟨"a"⟩, 4⟩, ⟨0, "y2\n"⟩⟩] {}

/-- Three lines take the place of parts of two, between what is left of these. -/
theorem expand_positions_acrossLines :
    ∃ out t, expand Engine.standard {} acrossLines (Collector.plain []) = (.ok out, t) ∧
      out.lines.map (fun line => (line.position.line, line.kind.content)) =
        [(3, "1"), (3, "b\n"), (3, "c\n"), (4, "d"), (4, "2\n")] ∧
      (∃ source : Fin out.lines.length → Fin acrossLines.lines.length, Monotone source ∧
        ∀ i, (out.lines.get i).position = (acrossLines.lines.get (source i)).position) ∧
      out.Ordered := by
  have hlines : (expand Engine.standard {} acrossLines (Collector.plain [])).1.toOption.map
      (fun out => out.lines.map fun line => (line.position.line, line.kind.content)) =
        some [(3, "1"), (3, "b\n"), (3, "c\n"), (4, "d"), (4, "2\n")] := by
    rw [← Engine.prepared_eq]
    decide +kernel
  have hordered : acrossLines.Ordered := by decide
  rcases hrun : expand Engine.standard {} acrossLines (Collector.plain []) with ⟨e | out, t⟩
  · rw [hrun] at hlines
    cases hlines
  · rw [hrun] at hlines
    have hpositions := expand_positions Engine.standard {} hrun
    exact ⟨out, t, rfl, Option.some.inj hlines, hpositions.1, hpositions.2 hordered⟩

end SourcePrep
