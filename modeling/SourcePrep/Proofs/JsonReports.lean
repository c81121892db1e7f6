import Mathlib.Algebra.Order.Field.Rat
import SourcePrep.Proofs.JsonGrammar
import SourcePrep.Proofs.WrittenReports

/-!
# JSON reports read back

What is written as JSON is shown to be a text of the grammar; the grammar then gives that it reads
as nothing else, so nothing has to be parsed here.

* `Quoted`: `written_escapeChar` for a character, `quoted_quote` for a text.
* `Record.denotes_compact`, `Record.denotes_lines`, `denotes_prettyArray`: objects and arrays, in
  either layout. Both layouts are a list of things with the same blanks before each and some after
  the last (`spread`).
* `Diagnostic.json`: what a diagnostic is as JSON. Different diagnostics are different values.
* `finish_faithful`: the JSON reports of a run read as the diagnostics that they show.
-/

set_option autoImplicit false

namespace SourcePrep

namespace Json

/-! ## Texts -/

/-- The text has no control character. -/
def Printable (s : List Char) : Prop := ∀ c ∈ s, 0x20 ≤ c.toNat

theorem Printable.append {s t : List Char} (hs : Printable s) (ht : Printable t) :
    Printable (s ++ t) :=
  fun c hc => (List.mem_append.1 hc).elim (hs c) (ht c)

theorem hexValue_hexDigit {n : Nat} (h : n < 16) :
    Text.isHexDigit (hexDigit n) = true ∧ Text.hexValue (hexDigit n) = n := by
  have hall : ∀ n < 16, Text.isHexDigit (hexDigit n) = true ∧ Text.hexValue (hexDigit n) = n := by
    decide
  exact hall n h

theorem isUnit_control {n : Nat} (h : n < 0x20) :
    IsUnit ['0', '0', hexDigit (n / 16), hexDigit (n % 16)] n := by
  obtain ⟨hhigh, hhigh'⟩ := hexValue_hexDigit (show n / 16 < 16 by omega)
  obtain ⟨hlow, hlow'⟩ := hexValue_hexDigit (show n % 16 < 16 by omega)
  have hzero : Text.isHexDigit '0' = true := by decide
  have hzero' : Text.hexValue '0' = 0 := by decide
  refine ⟨rfl, by simp [hzero, hhigh, hlow], ?_⟩
  simp only [Text.hexadecimal, List.foldl_cons, List.foldl_nil, hzero', hhigh', hlow']
  omega

theorem written_escapeChar (c : Char) : Written (escapeChar c) c := by
  rw [escapeChar.eq_def]
  split
  · exact .letter (by decide)
  · exact .letter (by decide)
  · exact .letter (by decide)
  · exact .letter (by decide)
  · exact .letter (by decide)
  · exact .letter (by decide)
  · exact .letter (by decide)
  · rename_i hquote hback _ _ _ _ _
    split
    · rename_i hlt
      have hunit := Written.unit (isUnit_control hlt) (by simp only [Nat.isValidChar]; omega)
      rwa [Char.ofNat_toNat] at hunit
    · rename_i hlt
      exact .plain (Nat.le_of_not_lt hlt) hquote hback

theorem quoted_quote (s : String) : Quoted (quote s).toList s := by
  have hcharacters : ∀ cs, Characters (cs.flatMap escapeChar) cs := by
    intro cs
    induction cs with
    | nil => exact .nil
    | cons c cs ih => exact .cons (written_escapeChar c) ih
  rw [quote, String.toList_ofList]
  exact .quotes (hcharacters s.toList)

theorem le_toNat_of_isHexDigit {c : Char} (h : Text.isHexDigit c = true) : 0x20 ≤ c.toNat := by
  have hle : ∀ {d : Char}, 0x20 ≤ d.toNat → d ≤ c → 0x20 ≤ c.toNat := fun hd h => hd.trans h
  simp only [Text.isHexDigit, Text.isDigit, Bool.or_eq_true, Bool.and_eq_true,
    decide_eq_true_eq] at h
  rcases h with (⟨h, -⟩ | ⟨h, -⟩) | ⟨h, -⟩ <;> exact hle (by decide) h

theorem Written.printable {p : List Char} {c : Char} (h : Written p c) : Printable p := by
  have hback : 0x20 ≤ '\\'.toNat := by decide
  have hu : 0x20 ≤ 'u'.toNat := by decide
  have hunit : ∀ {ds n}, IsUnit ds n → Printable ('\\' :: 'u' :: ds) := by
    intro ds n h d hd
    rcases List.mem_cons.1 hd with rfl | hd
    · exact hback
    rcases List.mem_cons.1 hd with rfl | hd
    · exact hu
    exact le_toNat_of_isHexDigit (h.2.1 d hd)
  cases h with
  | plain hle _ _ => simpa [Printable] using hle
  | letter hmem =>
    have hall : ∀ x ∈ letterEscapes, 0x20 ≤ x.1.toNat := by decide
    simpa [Printable, hback] using hall _ hmem
  | unit h _ => exact hunit h
  | pair h _ h' _ => exact (hunit h).append (hunit h')

theorem Quoted.printable {s : List Char} {t : String} (h : Quoted s t) : Printable s := by
  have hquote : Printable ['"'] := by simp [Printable]
  have hcharacters : ∀ {body cs}, Characters body cs → Printable body := by
    intro body cs h
    induction h with
    | nil => simp [Printable]
    | cons hp _ ih => exact hp.printable.append ih
  obtain ⟨hbody⟩ := h
  exact (hquote.append (hcharacters hbody)).append hquote

/-! ## Numerals -/

theorem first_digit_ne_zero {n : Nat} (h : n ≠ 0) (t : List Char) :
    Nat.toDigits 10 n ≠ '0' :: t := by
  induction n using Nat.strongRecOn generalizing t with
  | ind n ih =>
    by_cases hlt : n < 10
    · have hall : ∀ m < 10, m ≠ 0 → Nat.digitChar m ≠ '0' := by decide
      rw [Nat.toDigits_of_lt_base hlt]
      exact fun e => hall n hlt h (List.cons.inj e).1
    · rw [Nat.toDigits_of_base_le (by decide) (by omega)]
      obtain ⟨d, rest, hdigits⟩ :=
        List.exists_cons_of_ne_nil (Nat.toDigits_ne_nil (b := 10) (n := n / 10))
      intro e
      rw [hdigits] at e
      exact ih (n / 10) (by omega) (by omega) rest (by rw [hdigits, (List.cons.inj e).1])

theorem whole_toString (n : Nat) : Whole (toString n).toList n := by
  have hdigits : IsNumeral (toString n).toList :=
    ⟨by rw [Nat.toString_eq_ofList_toDigits, String.toList_ofList]; exact Nat.toDigits_ne_nil,
      List.all_eq_true.2 fun c hc => Text.isDigit_of_mem_toString hc⟩
  by_cases hn : n = 0
  · subst hn
    exact .zero
  · obtain ⟨d, t, htext, -⟩ := hdigits.head
    have hd : d ≠ '0' := by
      rintro rfl
      rw [Nat.toString_eq_ofList_toDigits, String.toList_ofList] at htext
      exact first_digit_ne_zero hn t htext
    rw [htext] at hdigits
    have hwhole := Whole.digits hd hdigits
    rwa [← htext, Text.decimal_toString] at hwhole

theorem number_toString (n : Nat) : Number (toString n).toList n := by
  have h := Number.positive (.parts (whole_toString n) .absent .absent)
  simpa using h

theorem printable_toString (n : Nat) : Printable (toString n).toList :=
  fun _ hc => le_toNat_of_isHexDigit (by rw [Text.isHexDigit, Text.isDigit_of_mem_toString hc]; rfl)

/-! ## Objects and arrays -/

namespace Scalar

/-- The value of a field. -/
def value : Scalar → Value
  | null => .null
  | number n => .number n
  | text s => .string s

theorem denotes (s : Scalar) : Denotes s.render.toList s.value := by
  cases s with
  | null => exact .null
  | number n => exact .number (number_toString n)
  | text s => exact .string (quoted_quote s)

theorem printable (s : Scalar) : Printable s.render.toList := by
  cases s with
  | null => simp [Printable, render]
  | number n => exact printable_toString n
  | text s => exact (quoted_quote s).printable

end Scalar

theorem isBlank_nil : IsBlank [] := rfl

theorem isBlank_newline : IsBlank ['\n'] := rfl

theorem isBlank_margin (n : Nat) : IsBlank (List.replicate n ' ') :=
  List.all_eq_true.2 fun c hc => by rw [List.eq_of_mem_replicate hc]; rfl

theorem IsBlank.append {s t : List Char} (hs : IsBlank s) (ht : IsBlank t) : IsBlank (s ++ t) := by
  rw [IsBlank, List.all_append, hs, ht, Bool.and_self]

section
variable {α : Type}

/-- Items that all have the same blanks before them; the last one has blanks after it. -/
def spread (before after : List Char) : List α → List (Padded α)
  | [] => []
  | [x] => [⟨before, x, after⟩]
  | x :: y :: rest => ⟨before, x, []⟩ :: spread before after (y :: rest)

variable {before after : List Char}

theorem map_spread {β : Type} (before after : List Char) (read : α → β) (xs : List α) :
    (spread before after xs).map (fun i => read i.inner) = xs.map read := by
  fun_induction spread before after xs with
  | case1 => rfl
  | case2 x => rfl
  | case3 x y rest ih =>
    rw [List.map_cons, ih]
    rfl

theorem inner_mem_of_mem_spread {xs : List α} {i : Padded α} (h : i ∈ spread before after xs) :
    i.inner ∈ xs := by
  rw [← List.map_id xs, ← map_spread before after id xs]
  exact List.mem_map.2 ⟨i, h, rfl⟩

theorem isOk_of_mem_spread (hbefore : IsBlank before) (hafter : IsBlank after) {xs : List α}
    {i : Padded α} (h : i ∈ spread before after xs) : i.IsOk := by
  fun_induction spread before after xs with
  | case1 => contradiction
  | case2 x =>
    obtain rfl := List.mem_singleton.1 h
    exact ⟨hbefore, hafter⟩
  | case3 x y rest ih =>
    rcases List.mem_cons.1 h with rfl | h
    · exact ⟨hbefore, isBlank_nil⟩
    · exact ih h

theorem listed_spread (text : α → List Char) {xs : List α} (hne : xs ≠ []) :
    listed text (spread before after xs) =
      before ++ (',' :: before).intercalate (xs.map text) ++ after := by
  fun_induction spread before after xs with
  | case1 => contradiction
  | case2 x => simp [listed, Padded.whole]
  | case3 x y rest ih =>
    have htail : spread before after (y :: rest) ≠ [] := by cases rest <;> simp [spread]
    rw [listed, List.map_cons, List.intercalate_cons_of_ne_nil (by simpa using htail), ← listed,
      ih (by simp)]
    simp [Padded.whole]

theorem inside_spread (text : α → List Char) (xs : List α) (hne : xs ≠ [])
    (hbefore : IsBlank before) (hafter : IsBlank after) :
    Inside text (spread before after xs)
      (before ++ (',' :: before).intercalate (xs.map text) ++ after) := by
  rw [← listed_spread text hne]
  refine .items ?_ fun i hi => isOk_of_mem_spread hbefore hafter hi
  cases xs with
  | nil => contradiction
  | cons x rest => cases rest <;> simp [spread]

end

/-- What stands before each thing can be counted to what stands between them. -/
theorem intercalate_map_append (sep margin : List Char) {xs : List (List Char)} (hne : xs ≠ []) :
    sep.intercalate (xs.map (margin ++ ·)) = margin ++ (sep ++ margin).intercalate xs := by
  induction xs with
  | nil => contradiction
  | cons x xs ih =>
    cases xs with
    | nil => simp
    | cons y rest =>
      rw [List.map_cons, List.intercalate_cons_of_ne_nil (by simp), ih (by simp),
        List.intercalate_cons_cons]
      simp

namespace Record

/-- The object that a record stands for. -/
def value (r : Record) : Value := .object (r.map fun (name, s) => (name, s.value))

/-- A field as a member of an object, with blanks after the colon. -/
def entry (right : List Char) (field : String × Scalar) : Entry :=
  ⟨(quote field.1).toList, field.1, [], right, ⟨field.2.render.toList, field.2.value⟩⟩

theorem entry_isOk {right : List Char} (hright : IsBlank right) (field : String × Scalar) :
    (entry right field).IsOk := by
  refine ⟨?_, isBlank_nil, hright⟩
  simp only [entry]
  exact quoted_quote field.1

theorem denotes_object {r : Record} (hne : r ≠ []) {before right after : List Char}
    (hbefore : IsBlank before) (hright : IsBlank right) (hafter : IsBlank after) :
    Denotes
      ('\x7b' :: (before ++ (',' :: before).intercalate (r.map fun f => (entry right f).text) ++
        after) ++ ['\x7d'])
      r.value := by
  have hinside := inside_spread Entry.text (r.map (entry right)) (by simpa using hne) hbefore hafter
  rw [List.map_map] at hinside
  have hentry : ∀ i ∈ spread before after (r.map (entry right)), ∃ f, i.inner = entry right f := by
    intro i hi
    obtain ⟨f, -, hf⟩ := List.mem_map.1 (inner_mem_of_mem_spread hi)
    exact ⟨f, hf.symm⟩
  have hobject := Denotes.object hinside
    (fun i hi => by
      obtain ⟨f, hf⟩ := hentry i hi
      rw [hf]
      exact entry_isOk hright f)
    (fun i hi => by
      obtain ⟨f, hf⟩ := hentry i hi
      rw [hf]
      exact f.2.denotes)
  rwa [map_spread before after Entry.member, List.map_map] at hobject

theorem denotes_compact {r : Record} (hne : r ≠ []) : Denotes r.compact.toList r.value := by
  have h := denotes_object hne isBlank_nil isBlank_nil isBlank_nil
  have htext : r.compact.toList =
      '\x7b' :: ([] ++ [','].intercalate (r.map fun f => (entry [] f).text) ++ []) ++ ['\x7d'] := by
    simp [compact, Entry.text, entry, Function.comp_def]
  rwa [htext]

/-- The object on several lines, without the blanks before it. -/
def lines (indent : Nat) (r : Record) : List Char :=
  let margin := List.replicate indent ' '
  let before := '\n' :: margin ++ [' ', ' ']
  '\x7b' :: (before ++ (',' :: before).intercalate (r.map fun f => (entry [' '] f).text) ++
    '\n' :: margin) ++ ['\x7d']

theorem toList_pretty {r : Record} (hne : r ≠ []) (indent : Nat) :
    (r.pretty indent).toList = List.replicate indent ' ' ++ r.lines indent := by
  have hfields : (r.map fun (name, value) =>
        String.ofList (List.replicate indent ' ') ++ "  " ++ quote name ++ ": " ++
          value.render).map String.toList =
      (r.map fun f => (entry [' '] f).text).map (List.replicate indent ' ' ++ [' ', ' '] ++ ·) := by
    simp [Entry.text, entry, Function.comp_def]
  have hsep : ",\n".toList = [',', '\n'] := rfl
  simp only [pretty, String.toList_append, String.toList_intercalate, hfields, hsep]
  rw [intercalate_map_append _ _ (by simpa using hne)]
  simp [lines]

theorem denotes_lines {r : Record} (hne : r ≠ []) (indent : Nat) :
    Denotes (r.lines indent) r.value :=
  denotes_object hne ((isBlank_newline.append (isBlank_margin indent)).append (isBlank_margin 2))
    (isBlank_margin 1) (isBlank_newline.append (isBlank_margin indent))

end Record

theorem denotes_prettyArray {records : List Record} (hne : ∀ r ∈ records, r ≠ []) :
    Denotes (prettyArray records).toList (.array (records.map Record.value)) := by
  rcases hrecords : records with - | ⟨r, rest⟩
  · have hempty : Inside Part.text [] [] := .empty isBlank_nil
    exact .array hempty fun i hi => nomatch hi
  · rw [← hrecords]
    have hnil : records ≠ [] := by simp [hrecords]
    have hbefore : IsBlank ['\n', ' ', ' '] := isBlank_newline.append (isBlank_margin 2)
    have hinside := inside_spread Part.text (records.map fun r => ⟨r.lines 2, r.value⟩)
      (by simpa using hnil) hbefore isBlank_newline
    have harray := Denotes.array hinside fun i hi => by
      obtain ⟨r, hr, hi⟩ := List.mem_map.1 (inner_mem_of_mem_spread hi)
      rw [← hi]
      exact r.denotes_lines (hne r hr) 2
    have hlines : (records.map (Record.pretty 2)).map String.toList =
        (records.map (Record.lines 2)).map ([' ', ' '] ++ ·) := by
      rw [List.map_map, List.map_map]
      exact List.map_congr_left fun r hr => Record.toList_pretty (hne r hr) 2
    have hsep : ",\n".toList = [',', '\n'] := rfl
    have htext : (prettyArray records).toList =
        '[' :: (['\n', ' ', ' '] ++ [',', '\n', ' ', ' '].intercalate
          (records.map (Record.lines 2)) ++ ['\n']) ++ [']'] := by
      rw [hrecords, prettyArray, ← hrecords]
      · simp only [String.toList_append, String.toList_intercalate, hlines, hsep]
        rw [intercalate_map_append _ _ (by simpa using hnil)]
        simp
      · simp
    rw [map_spread _ _ Part.value, List.map_map, List.map_map] at harray
    rwa [htext]

/-- A value between blanks is read, and nothing else is. -/
theorem reads_iff {t : List Char} {v : Value} (h : Denotes t v) (before after : List Char)
    (hbefore : IsBlank before) (hafter : IsBlank after) {s : String}
    (hs : s.toList = before ++ t ++ after) (w : Value) : Reads s w ↔ w = v := by
  have hreads : Reads s v := ⟨⟨before, ⟨t, v⟩, after⟩, ⟨hbefore, hafter⟩, h, hs, rfl⟩
  exact ⟨fun hw => hw.unique hreads, fun hw => hw ▸ hreads⟩

theorem Record.printable_compact (r : Record) : Printable r.compact.toList := by
  have hmark : Printable [','] ∧ Printable [':'] ∧ Printable ['\x7b'] ∧ Printable ['\x7d'] := by
    simp [Printable]
  obtain ⟨hcomma, hcolon, hopen, hclose⟩ := hmark
  have hfield : ∀ f : String × Scalar, Printable (quote f.1 ++ ":" ++ f.2.render).toList := by
    intro f
    rw [String.toList_append, String.toList_append]
    exact ((quoted_quote f.1).printable.append hcolon).append f.2.printable
  have hfields : Printable
      ([','].intercalate ((r.map fun f => quote f.1 ++ ":" ++ f.2.render).map String.toList)) := by
    induction r with
    | nil => simp [Printable]
    | cons f r ih =>
      cases r with
      | nil => simpa using hfield f
      | cons g r =>
        rw [List.map_cons, List.map_cons, List.intercalate_cons_of_ne_nil (by simp)]
        exact ((hfield f).append hcomma).append ih
  rw [compact, String.toList_append, String.toList_append, String.toList_intercalate]
  exact (hopen.append hfields).append hclose

end Json

/-! ## Diagnostics -/

theorem Severity.name_injective : Function.Injective Severity.name := by
  intro a b
  cases a <;> cases b <;> decide

theorem DiagnosticKind.name_injective : Function.Injective DiagnosticKind.name := by
  have hread : ∀ kind : DiagnosticKind, ofName? kind.name = some kind := by
    intro kind
    cases kind <;> decide
  intro a b h
  have hsame := hread a
  rw [h, hread b] at hsame
  exact (Option.some.inj hsame).symm

/-- A diagnostic as a JSON object. -/
def Diagnostic.json (d : Diagnostic) : Json.Value :=
  .object
    [ ("file", .string d.position.source.text),
      ("line", .number d.position.line),
      ("severity", .string d.severity.name),
      ("kind", .string d.kind.name),
      ("message", .string d.message),
      ("cause", d.cause.elim .null .string) ]

theorem Diagnostic.json_injective : Function.Injective Diagnostic.json := by
  rintro ⟨kind, severity, message, ⟨⟨file⟩, line⟩, cause⟩
    ⟨kind', severity', message', ⟨⟨file'⟩, line'⟩, cause'⟩ h
  simp only [json, Json.Value.object.injEq, List.cons.injEq, Prod.mk.injEq, true_and,
    Json.Value.string.injEq, Json.Value.number.injEq, Nat.cast_inj, and_true] at h
  obtain ⟨rfl, rfl, hseverity, hkind, rfl, hcause⟩ := h
  obtain rfl := Severity.name_injective hseverity
  obtain rfl := DiagnosticKind.name_injective hkind
  cases cause <;> cases cause' <;> simp_all

namespace Formatter

theorem value_ofDiagnostic (d : Diagnostic) : (Json.Record.ofDiagnostic d).value = d.json := by
  cases h : d.cause with
  | none => simp [Json.Record.ofDiagnostic, Json.Record.value, Json.Scalar.value,
      Json.Scalar.ofText?, Diagnostic.json, h]
  | some cause => simp [Json.Record.ofDiagnostic, Json.Record.value, Json.Scalar.value,
      Json.Scalar.ofText?, Diagnostic.json, h]

theorem ofDiagnostic_ne_nil (d : Diagnostic) : Json.Record.ofDiagnostic d ≠ [] := nofun

theorem reads_one {f : Formatter} (hf : f.format = .json ∨ f.format = .jsonLines) (d : Diagnostic)
    (v : Json.Value) : Json.Reads (f.one d) v ↔ v = d.json := by
  have hne := ofDiagnostic_ne_nil d
  rw [← value_ofDiagnostic]
  rcases hf with hf | hf
  · rw [one, hf]
    refine Json.reads_iff (Json.Record.denotes_lines hne 0) [] [] Json.isBlank_nil Json.isBlank_nil
      ?_ v
    simpa using Json.Record.toList_pretty hne 0
  · rw [one, hf]
    exact Json.reads_iff (Json.Record.denotes_compact hne) [] [] Json.isBlank_nil Json.isBlank_nil
      (by simp) v

theorem one_injective {f : Formatter} (hf : f.format = .json ∨ f.format = .jsonLines) :
    Function.Injective f.one := by
  intro d d' h
  have hreads := (reads_one hf d d.json).2 rfl
  rw [h, reads_one hf] at hreads
  exact Diagnostic.json_injective hreads

theorem reads_batch {f : Formatter} (hf : f.format = .json) (ds : List Diagnostic)
    (v : Json.Value) :
    Json.Reads (f.batch ds ++ "\n") v ↔ v = .array (ds.map Diagnostic.json) := by
  have hvalues : (ds.map Json.Record.ofDiagnostic).map Json.Record.value =
      ds.map Diagnostic.json := by
    rw [List.map_map]
    exact List.map_congr_left fun d _ => value_ofDiagnostic d
  have hne : ∀ r ∈ ds.map Json.Record.ofDiagnostic, r ≠ [] := by
    intro r hr
    obtain ⟨d, -, rfl⟩ := List.mem_map.1 hr
    exact ofDiagnostic_ne_nil d
  rw [batch, hf, ← hvalues]
  exact Json.reads_iff (Json.denotes_prettyArray hne) [] ['\n'] Json.isBlank_nil
    Json.isBlank_newline (by simp) v

end Formatter

/-! ## Reports -/

namespace Writer

theorem finish_jsonArray_injective {f : Formatter} (hf : f.format = .json) {minSeverity : Severity}
    {stopAt : Option Severity} {ds es : List Diagnostic}
    (h : ((fresh f minSeverity stopAt).emitAll ds).finish =
      ((fresh f minSeverity stopAt).emitAll es).finish) :
    shown minSeverity ds = shown minSeverity es := by
  have hbatched : f.format.isBatched = true := by rw [hf]; rfl
  rw [finish_batched hbatched, finish_batched hbatched] at h
  have hreads := (Formatter.reads_batch hf (shown minSeverity ds) _).2 rfl
  rw [Except.ok.inj h, Formatter.reads_batch hf] at hreads
  exact List.map_injective_iff.2 Diagnostic.json_injective (Json.Value.array.inj hreads)

theorem finish_jsonLines_injective {f : Formatter} (hf : f.format = .jsonLines)
    {minSeverity : Severity} {stopAt : Option Severity} {ds es : List Diagnostic}
    (h : ((fresh f minSeverity stopAt).emitAll ds).finish =
      ((fresh f minSeverity stopAt).emitAll es).finish) :
    shown minSeverity ds = shown minSeverity es := by
  have hstreamed : f.format.isBatched = false := by rw [hf]; rfl
  have hline : ∀ {ds : List Diagnostic}, ∀ l ∈ ds.map fun d => f.one d ++ "\n", Text.IsLine l := by
    intro ds l hl
    obtain ⟨d, -, rfl⟩ := List.mem_map.1 hl
    refine ⟨f.one d, rfl, fun hnewline => ?_⟩
    rw [Formatter.one, hf] at hnewline
    exact absurd (Json.Record.printable_compact _ _ hnewline) (by decide)
  have hwritten : Function.Injective fun d => f.one d ++ "\n" := fun d e hde =>
    Formatter.one_injective (.inr hf) (String.append_left_inj "\n" |>.1 hde)
  rw [finish_streamed hstreamed, finish_streamed hstreamed, lines, lines] at h
  have hlines := congrArg Text.splitLines (Except.ok.inj h)
  rw [Text.splitLines_join hline, Text.splitLines_join hline] at hlines
  exact List.map_injective_iff.2 hwritten hlines

/-- JSON reports are faithful. The JSON lines of a run are the shown diagnostics, each on a line
without a control character, and each reads as its diagnostic and as nothing else; the JSON array
reads as the list of them. Reports that differ in a diagnostic differ. -/
theorem finish_faithful (coloured : Bool) (minSeverity : Severity) (stopAt : Option Severity)
    (ds : List Diagnostic) :
    let one := Formatter.one (.ofFormat .jsonLines coloured)
    let finish (format : Format) (ds : List Diagnostic) :=
      ((fresh (.ofFormat format coloured) minSeverity stopAt).emitAll ds).finish
    (finish .jsonLines ds = .ok (String.join ((shown minSeverity ds).map fun d => one d ++ "\n")) ∧
      ∀ d, (∀ c ∈ (one d).toList, 0x20 ≤ c.toNat) ∧ ∀ v, Json.Reads (one d) v ↔ v = d.json) ∧
    (∃ output, finish .json ds = .ok output ∧
      ∀ v, Json.Reads output v ↔ v = .array ((shown minSeverity ds).map Diagnostic.json)) ∧
    (∀ format, format = .json ∨ format = .jsonLines →
      Function.Injective (Formatter.one (.ofFormat format coloured)) ∧
        ∀ es, finish format ds = finish format es → shown minSeverity ds = shown minSeverity es) ∧
    Function.Injective Diagnostic.json := by
  refine ⟨⟨finish_streamed rfl ds, fun d => ⟨Json.Record.printable_compact _,
    Formatter.reads_one (.inr rfl) d⟩⟩, ⟨_, finish_batched rfl ds, Formatter.reads_batch rfl _⟩,
    ?_, Diagnostic.json_injective⟩
  rintro format (rfl | rfl)
  · exact ⟨Formatter.one_injective (.inl rfl), fun es => finish_jsonArray_injective rfl⟩
  · exact ⟨Formatter.one_injective (.inr rfl), fun es => finish_jsonLines_injective rfl⟩

end Writer

end SourcePrep
