import SourcePrep.Document.Region
import SourcePrep.Pattern.Engine
import SourcePrep.Template

/-!
# Expansion of replace directives

A directive is two lines, `replace` and a pattern, then a tab and a template. `expand` repeats two
activities. `scan` takes the first directive out of the text. `Substitution.settle` then replaces
the first match of its pattern, over and over: the text before a match is final for the directive,
and what took the place of a match is searched again together with the rest. When the pattern no
longer matches, scanning starts over, so a replacement may bring new directives.

Both are bounded: `Limits` says how many directives a document may expand and how many matches each
of them may replace. A directive also ends when the text it searches comes back to an earlier one.

Every replacement goes through `Document.replaceRegion`, so each line keeps a position in the
sources.
-/

set_option autoImplicit false

namespace SourcePrep

/-- The body of a replace directive. -/
def replaceDirective : String :=
  "replace(?P<lit>lit)?(?P<pattern>.+)\n\t(?P<template>.+)\n"

/-- The text with `new` in place of what lies between two byte offsets, when both are cuts. -/
def Text.replaceRange? (s : String) (start stop : Nat) (new : String) : Option String :=
  if start ≤ stop then
    match Text.splitAt? s start, Text.splitAt? s stop with
    | some (front, _), some (_, back) => some (front ++ new ++ back)
    | _, _ => none
  else none

/-- Some character ends just before the offset, and it is a newline; or the offset is zero. -/
def Text.startsLine (s : String) (offset : Nat) : Bool :=
  offset = 0 || (Text.dropBytes s (offset - 1)).front? == some '\n'

/-- A replace directive ready to be applied. -/
structure Directive where
  find : Matcher
  template : String
  /-- The template is copied as it stands. -/
  literal : Bool
  position : Position

/-- The replacement for a match. -/
def Directive.replacement (d : Directive) (m : Match) : String :=
  if d.literal then d.template else Template.expand (Template.unescape d.template) m

/-- How far expansion may go. What is not given depends on the document. -/
structure Limits where
  substitutions : Option Nat := none
  directives : Option Nat := none
  deriving DecidableEq, Repr, Inhabited

namespace Limits

/-- The number of matches that a directive may replace in a text. -/
def substitutionsIn (limits : Limits) (text : String) : Nat :=
  limits.substitutions.getD (max 10000 (min (2 * Text.size text) Text.maxWord))

/-- The number of directives that a document may expand. -/
def directivesIn (limits : Limits) (d : Document Normalized) : Nat :=
  limits.directives.getD (max 1000 d.lineCount)

end Limits

/-- A directive at work. What lies before the cursor is final for the directive. -/
structure Substitution where
  directive : Directive
  document : Document Normalized
  /-- The canonical text of the document. -/
  text : String
  cursor : Nat
  /-- The number of matches replaced. -/
  made : Nat
  /-- The number of matches that may be replaced. -/
  budget : Nat
  /-- The texts after the cursor that replacements led to since the cursor last moved, each with its
  length. -/
  seen : List (Nat × String)

namespace Substitution

/-- The text that the directive still searches. -/
def remainder (r : Substitution) : String := Text.dropBytes r.text r.cursor

/-- The text was seen since the cursor last moved. Only texts of its length are compared with it. -/
def hasSeen (r : Substitution) (text : String) : Bool :=
  let size := Text.size text
  r.seen.any fun (n, earlier) => n == size && earlier == text

/-- A match in the remainder, as offsets into the whole text, and what takes its place. -/
structure Region where
  start : Nat
  stop : Nat
  replacement : String

/-- The region of a match in the remainder. -/
def region (r : Substitution) (m : Match) : Region :=
  ⟨r.cursor + m.start, r.cursor + m.stop, r.directive.replacement m⟩

/-- What an attempt to replace a match came to. -/
inductive Step
  | replaced (next : Substitution)
  /-- Nothing matches, or the directive was stopped and that was reported. -/
  | ended (document : Document Normalized)

section
variable {σ : Type} [Sink σ]

/-- End the directive with a report. -/
def stop (r : Substitution) (kind : DiagnosticKind) (message : String) : Reporting σ Step := do
  report (.ofKind kind message r.directive.position)
  return .ended r.document

/-- End the directive at a match of nothing. -/
def stopAtEmptyMatch (r : Substitution) (replacement : String) : Reporting σ Step :=
  if replacement.isEmpty then
    r.stop .nonTerminatingReplacement "Pattern matches the empty string and would rewrite forever"
  else
    r.stop .invalidReplacement s!"Cannot insert {Text.size replacement} bytes at an empty match"

/-- Replace a region, unless the budget is spent. -/
def replace (r : Substitution) (m : Region) : Reporting σ Step := do
  if r.budget < r.made + 1 then
    r.stop .nonTerminatingReplacement s!"Still matching after {r.budget} rewrites"
  else
    let old ← orFault .cut (r.document.slice? m.start m.stop)
    match ← old.replaceRegion m.replacement (Text.startsLine r.text m.start) with
    | .error e => r.stop .invalidReplacement e.message
    | .ok new =>
      let document ← orFault .cut (r.document.splice? m.start m.stop new)
      let text ← orFault .cut (Text.replaceRange? r.text m.start m.stop new.text)
      let next := { r with document, text, made := r.made + 1 }
      if m.start ≠ r.cursor then
        return .replaced { next with cursor := m.start, seen := [] }
      else
        let remainder := next.remainder
        if r.hasSeen remainder then
          next.stop .nonTerminatingReplacement "Rewriting cycles back to an earlier text"
        else return .replaced { next with seen := (Text.size remainder, remainder) :: r.seen }

/-- Replace the first match in the remainder. -/
def step (r : Substitution) : Reporting σ Step :=
  match r.directive.find r.remainder with
  | .ok none => return .ended r.document
  | .error failure => do
    report <|
      (Diagnostic.ofKind .patternExecutionError "Replace pattern failed while matching"
        r.directive.position).withCauses failure.causes
    return .ended r.document
  | .ok (some m) =>
    let region := r.region m
    if region.start = region.stop then r.stopAtEmptyMatch region.replacement
    else r.replace region

/-- Replace matches until the directive ends, or so many at most. -/
def settleWithin : Nat → Substitution → Reporting σ (Document Normalized)
  | 0, r => return r.document
  | fuel + 1, r => do
    match ← r.step with
    | .replaced next => settleWithin fuel next
    | .ended document => return document

/-- Replace matches until the directive ends. The step after the budget is spent ends it. -/
def settle (r : Substitution) : Reporting σ (Document Normalized) :=
  r.settleWithin (r.budget + 1 - r.made)

end

end Substitution

namespace Expansion

/-- What a scan for a directive came to. -/
inductive Scan
  /-- There is no directive left. -/
  | finished
  /-- A directive was taken out, and its pattern is malformed. -/
  | skipped (document : Document Normalized)
  | found (r : Substitution)

/-- The document after a scan that took a directive out. -/
def Scan.document? : Scan → Option (Document Normalized)
  | .finished => none
  | .skipped document => some document
  | .found r => some r.document

section
variable {σ : Type} [Sink σ] (engine : Engine) (limits : Limits)

/-- The position of the line that an offset falls into; an offset past the end falls into the last
line. -/
def positionAt (d : Document Normalized) (offset : Nat) : Reporting σ Position := do
  let line ← orFault .line d.lines[min (d.offsetOf offset).1 (d.lineCount - 1)]?
  return line.position

/-- Take a directive out of the document it was found in. -/
def takeOut (d : Document Normalized) (text : String) (m : Match) : Reporting σ Scan := do
  let position ← positionAt d m.start
  let source := (m.named? "pattern").getD ""
  let document ← orFault .cut (d.splice? m.start m.stop (.empty d.config))
  let text ← orFault .cut (Text.replaceRange? text m.start m.stop "")
  match engine.compile source { extended := true } with
  | .error failure =>
    report <|
      (Diagnostic.ofKind .patternSyntaxError s!"Invalid replace pattern '{Text.trim source}'"
        position).withCauses failure.causes
    return .skipped document
  | .ok find =>
    let directive : Directive :=
      { find, position
        template := (m.named? "template").getD ""
        literal := (m.named? "lit").isSome }
    return .found
      { directive, document, text
        cursor := 0, made := 0, budget := limits.substitutionsIn text, seen := [] }

/-- Look for the first directive. A marker that is no pattern has no directives. -/
def scan (d : Document Normalized) : Reporting σ Scan :=
  match engine.directive d.config replaceDirective with
  | .error _ => return .finished
  | .ok find =>
    match find d.text with
    | .error failure => do
      report (.ofKind .patternExecutionError failure.message d.origin)
      return .finished
    | .ok none => return .finished
    | .ok (some m) => takeOut engine limits d d.text m

/-- Expand directives, so many more at most. -/
def expandWithin (total : Nat) : Nat → Document Normalized → Reporting σ (Document Normalized)
  | 0, d => do
    match (← scan engine limits d).document? with
    | none => return d
    | some document =>
      report <|
        .ofKind .nonTerminatingReplacement
          s!"More than {total} replace directives; the rest are left unexpanded" document.origin
      return document
  | left + 1, d => do
    match ← scan engine limits d with
    | .finished => return d
    | .skipped document => expandWithin total left document
    | .found r => expandWithin total left (← r.settle)

end

end Expansion

/-- Expand every replace directive of a document. -/
def expand {σ : Type} [Sink σ] (engine : Engine) (limits : Limits) (d : Document Normalized) :
    Reporting σ (Document Normalized) :=
  let total := limits.directivesIn d
  Expansion.expandWithin engine limits total total d

end SourcePrep
