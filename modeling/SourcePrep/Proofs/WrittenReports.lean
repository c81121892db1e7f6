import SourcePrep.Proofs.Rereading
import SourcePrep.Report.Writer

/-!
# What a writer has written

A writer obeys nobody: it takes every diagnostic that it is handed, also those after the one at
which it asked for a stop. `emitAll` hands it a list of them.

* `emitAll_streamed`, `emitAll_batched`: the writer after any diagnostics, field by field. Of the
  device and of what is pending, only the diagnostics that are `shown` are seen.
* `finish_streamed`, `finish_batched`: the text on the device in the end.
* `newlines_concise`: the concise format writes a message on one line, whatever is in it. The name
  of the file and the cause it copies, with the newlines they have.
* `finish_concise`: hence concise output has a line for each diagnostic, and one more for each
  newline in a file's name or in a cause.
-/

set_option autoImplicit false

namespace SourcePrep

namespace Writer

/-! ## A writer after any diagnostics -/

/-- The writer after diagnostics were handed to it, whatever it answered. -/
def emitAll (w : Writer) (ds : List Diagnostic) : Writer :=
  ds.foldl (fun w d => (Sink.emit w d).2) w

@[simp] theorem emitAll_nil (w : Writer) : w.emitAll [] = w := rfl

theorem emitAll_cons (w : Writer) (d : Diagnostic) (ds : List Diagnostic) :
    w.emitAll (d :: ds) = emitAll (Sink.emit w d).2 ds := rfl

/-- The diagnostics that are grave enough to be shown. -/
def shown (minSeverity : Severity) (ds : List Diagnostic) : List Diagnostic :=
  ds.filter (minSeverity ≤ ·.severity)

@[simp] theorem shown_nil (minSeverity : Severity) : shown minSeverity [] = [] := rfl

theorem shown_cons (minSeverity : Severity) (d : Diagnostic) (ds : List Diagnostic) :
    shown minSeverity (d :: ds) = shown minSeverity [d] ++ shown minSeverity ds :=
  List.filter_append [d] ds

/-- The gravest severity after more diagnostics have arrived. -/
def worstOf (worst : Option Severity) (ds : List Diagnostic) : Option Severity :=
  ds.foldl (fun worst d => some (worse worst d.severity)) worst

/-- Diagnostics, each with a newline after it. -/
def lines (f : Formatter) (ds : List Diagnostic) : String :=
  String.join (ds.map fun d => f.one d ++ "\n")

@[simp] theorem lines_nil (f : Formatter) : lines f [] = "" := rfl

theorem lines_append (f : Formatter) (ds es : List Diagnostic) :
    lines f (ds ++ es) = lines f ds ++ lines f es := by
  rw [lines, List.map_append, String.join_append, lines, lines]

theorem emit_streamed {w : Writer} {text : String}
    (hf : w.formatter.format.isBatched = false) (hdevice : w.device = .working text)
    (d : Diagnostic) :
    Sink.emit w d =
      (Answer.ofThreshold w.stopAt d,
        { w with
          device := .working (text ++ lines w.formatter (shown w.minSeverity [d]))
          worst := worstOf w.worst [d]
          written := w.written + (shown w.minSeverity [d]).length }) := by
  by_cases h : w.minSeverity ≤ d.severity
  · simp [Sink.emit, show?, shown, lines, worstOf, h, hf, hdevice, Device.writeLine,
      String.append_assoc, bind, Except.bind, pure, Except.pure]
  · simp [Sink.emit, shown, lines, worstOf, h, ← hdevice]

theorem emit_batched {w : Writer} (hf : w.formatter.format.isBatched = true) (d : Diagnostic) :
    Sink.emit w d =
      (Answer.ofThreshold w.stopAt d,
        { w with
          worst := worstOf w.worst [d]
          written := w.written + (shown w.minSeverity [d]).length
          pending := w.pending ++ (shown w.minSeverity [d]).toArray }) := by
  by_cases h : w.minSeverity ≤ d.severity
  · simp [Sink.emit, show?, shown, worstOf, h, hf]
  · simp [Sink.emit, shown, worstOf, h]

/-- A writer that streams to a device that works. -/
theorem emitAll_streamed {w : Writer} {text : String}
    (hf : w.formatter.format.isBatched = false) (hdevice : w.device = .working text)
    (ds : List Diagnostic) :
    w.emitAll ds =
      { w with
        device := .working (text ++ lines w.formatter (shown w.minSeverity ds))
        worst := worstOf w.worst ds
        written := w.written + (shown w.minSeverity ds).length } := by
  induction ds generalizing w text with
  | nil => simp [worstOf, ← hdevice]
  | cons d ds ih =>
    rw [emitAll_cons, emit_streamed hf hdevice]
    refine Eq.trans (ih hf rfl) ?_
    rw [shown_cons _ d ds, lines_append, List.length_append]
    simp only [String.append_assoc, Nat.add_assoc]
    rfl

/-- A writer that keeps everything for the end; its device is not touched. -/
theorem emitAll_batched {w : Writer} (hf : w.formatter.format.isBatched = true)
    (ds : List Diagnostic) :
    w.emitAll ds =
      { w with
        worst := worstOf w.worst ds
        written := w.written + (shown w.minSeverity ds).length
        pending := w.pending ++ (shown w.minSeverity ds).toArray } := by
  induction ds generalizing w with
  | nil => simp [worstOf]
  | cons d ds ih =>
    rw [emitAll_cons, emit_batched hf]
    refine Eq.trans (ih hf) ?_
    rw [shown_cons _ d ds, List.length_append]
    simp [worstOf, Nat.add_assoc]

/-! ## The text in the end -/

/-- A writer that nothing was handed to yet, with a device that works. -/
def fresh (formatter : Formatter) (minSeverity : Severity) (stopAt : Option Severity) : Writer :=
  { formatter, minSeverity, stopAt }

variable {f : Formatter} {minSeverity : Severity} {stopAt : Option Severity}

@[simp] theorem written_emitAll_fresh (ds : List Diagnostic) :
    ((fresh f minSeverity stopAt).emitAll ds).written = (shown minSeverity ds).length := by
  cases hf : f.format.isBatched with
  | false =>
    rw [emitAll_streamed (w := fresh f minSeverity stopAt) hf rfl]
    simp [fresh]
  | true =>
    rw [emitAll_batched (w := fresh f minSeverity stopAt) hf]
    simp [fresh]

theorem finish_streamed (hf : f.format.isBatched = false) (ds : List Diagnostic) :
    ((fresh f minSeverity stopAt).emitAll ds).finish = .ok (lines f (shown minSeverity ds)) := by
  rw [emitAll_streamed (w := fresh f minSeverity stopAt) hf rfl]
  simp [finish, fresh, hf, Device.contents]

theorem finish_batched (hf : f.format.isBatched = true) (ds : List Diagnostic) :
    ((fresh f minSeverity stopAt).emitAll ds).finish =
      .ok (f.batch (shown minSeverity ds) ++ "\n") := by
  rw [emitAll_batched (w := fresh f minSeverity stopAt) hf]
  simp [finish, fresh, hf, Device.writeLine, Device.contents, Except.map]

end Writer

/-! ## Newlines in the concise format -/

@[simp] theorem newlines_repr (n : Nat) : newlines n.repr = 0 :=
  newlines_eq_zero.2 fun h =>
    absurd (Text.isDigit_of_mem_toString (n := n) h) (by decide)

@[simp] theorem newlines_severity (s : Severity) : newlines s.name = 0 := by
  cases s <;> decide

@[simp] theorem newlines_kind (kind : DiagnosticKind) : newlines kind.name = 0 := by
  cases kind <;> decide

@[simp] theorem newlines_position (p : Position) :
    newlines p.render = newlines p.source.text := by
  have hcolon : newlines ":" = 0 := by decide
  by_cases h : p.line = 0
  · rw [Position.render, if_pos h]
  · have hrender : p.render = p.source.text ++ ":" ++ p.line.repr := by
      rw [Position.render, if_neg h]
      rfl
    simp [hrender, hcolon]

namespace Formatter

@[simp] theorem newlines_oneLine (message : String) : newlines (oneLine message) = 0 := by
  rw [newlines_eq_zero, oneLine, String.toList_ofList]
  intro h
  obtain ⟨c, -, hc⟩ := List.mem_map.1 h
  split at hc
  · exact absurd hc (by decide)
  · contradiction

/-- The newlines that the concise format copies: those of the file's name and those of the cause. -/
def copied (d : Diagnostic) : Nat :=
  newlines d.position.source.text + newlines (d.cause.getD "")

theorem newlines_concise (d : Diagnostic) : newlines (concise d) = copied d := by
  have hconcise : concise d =
      d.position.render ++ ": [" ++ d.severity.name ++ "] " ++ d.kind.name ++ ": " ++
        oneLine d.message ++ d.cause.elim "" (" (" ++ · ++ ")") := rfl
  have hopen : newlines ": [" = 0 := by decide
  have hclose : newlines "] " = 0 := by decide
  have hcolon : newlines ": " = 0 := by decide
  have hcause : newlines (d.cause.elim "" (" (" ++ · ++ ")")) = newlines (d.cause.getD "") := by
    have hleft : newlines " (" = 0 := by decide
    have hright : newlines ")" = 0 := by decide
    cases d.cause with
    | none => rfl
    | some cause => simp [hleft, hright]
  simp [hconcise, copied, hopen, hclose, hcolon, hcause]

example : newlines (concise (.errorLoadingFile ⟨"a.edmh"⟩ "not\nthere")) = 1 := by decide

end Formatter

namespace Writer

theorem newlines_lines {f : Formatter} (hf : f.format = .concise) (ds : List Diagnostic) :
    newlines (lines f ds) = ds.length + (ds.map Formatter.copied).sum := by
  have hnewline : newlines "\n" = 1 := by decide
  induction ds with
  | nil => rfl
  | cons d ds ih =>
    have hone : f.one d = Formatter.concise d := by rw [Formatter.one, hf]
    rw [lines, List.map_cons, String.join_cons, ← lines, newlines_append, newlines_append, ih,
      hone, Formatter.newlines_concise, hnewline, List.length_cons, List.map_cons, List.sum_cons]
    omega

/-- Concise output is the shown diagnostics, each with a newline after it. A diagnostic is on one
line unless the name of its file or its cause has a newline; each such newline makes one more. -/
theorem finish_concise (coloured : Bool) (minSeverity : Severity) (stopAt : Option Severity)
    (ds : List Diagnostic) :
    let w := (fresh (.ofFormat .concise coloured) minSeverity stopAt).emitAll ds
    let shown := shown minSeverity ds
    (∀ d, newlines (Formatter.concise d) =
        newlines d.position.source.text + newlines (d.cause.getD "")) ∧
      ∃ output, w.finish = .ok output ∧
        output = String.join (shown.map fun d => Formatter.concise d ++ "\n") ∧
        w.written = shown.length ∧
        (newlines output = w.written ↔
          ∀ d ∈ shown, '\n' ∉ d.position.source.text.toList ∧
            ∀ cause ∈ d.cause, '\n' ∉ cause.toList) := by
  have hcopied : ∀ d : Diagnostic, Formatter.copied d = 0 ↔
      '\n' ∉ d.position.source.text.toList ∧ ∀ cause ∈ d.cause, '\n' ∉ cause.toList := by
    intro d
    rw [Formatter.copied, Nat.add_eq_zero_iff, newlines_eq_zero, newlines_eq_zero]
    cases d.cause <;> simp
  refine ⟨Formatter.newlines_concise, _, finish_streamed rfl ds, rfl,
    written_emitAll_fresh ds, ?_⟩
  rw [newlines_lines rfl, written_emitAll_fresh, Nat.add_eq_left, List.sum_eq_zero_iff_forall_eq_nat]
  simp [hcopied]

end Writer

end SourcePrep
