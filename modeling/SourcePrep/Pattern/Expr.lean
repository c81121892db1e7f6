import SourcePrep.Pattern.CharSet

/-!
# Pattern expressions

The tree that a pattern is read into. A sequence is a chain of `seq` that ends in `empty`, and a
choice a chain of `alt` that ends in `never`, so that a sequence inside a sequence stays apart from
it.

An expression is *regular* when it can be matched in linear time. `Expr.isRegular` says when:
look-around, references to groups, atomic groups, conditions and word boundaries are not, and
neither is a group that some reference names.
-/

set_option autoImplicit false

namespace SourcePrep.Pattern

/-- A test of a place in a text. -/
inductive Assertion
  | textStart
  | textEnd
  | lineStart
  | lineEnd
  | wordBoundary
  | notWordBoundary
  | wordStart
  | wordEnd
  | wordStartHalf
  | wordEndHalf
  deriving DecidableEq, Repr

namespace Assertion

/-- The test is one that regular expressions have. -/
def isRegular : Assertion → Bool
  | textStart | textEnd | lineStart | lineEnd => true
  | _ => false

/-- The place of index `i` in the text passes the test. -/
def holds (a : Assertion) (subject : Array Char) (i : Nat) : Bool :=
  let before : Option Char := if i = 0 then none else subject[i - 1]?
  let after : Option Char := subject[i]?
  let wordBefore := before.any Unicode.isWord
  let wordAfter := after.any Unicode.isWord
  match a with
  | textStart => i = 0
  | textEnd => after.isNone
  | lineStart => i = 0 || before == some '\n'
  | lineEnd => after.isNone || after == some '\n'
  | wordBoundary => wordBefore != wordAfter
  | notWordBoundary => wordBefore == wordAfter
  | wordStart => !wordBefore && wordAfter
  | wordEnd => wordBefore && !wordAfter
  | wordStartHalf => !wordBefore
  | wordEndHalf => !wordAfter

end Assertion

/-- How many characters an expression matches. -/
structure Extent where
  /-- The least number. -/
  least : Nat
  /-- It is always that number. -/
  fixed : Bool
  deriving DecidableEq, Repr

/-- A pattern expression. -/
inductive Expr
  | empty
  | never
  | one (s : CharSet)
  | check (a : Assertion)
  | seq (first rest : Expr)
  | alt (first rest : Expr)
  | group (index : Nat) (e : Expr)
  | repeated (e : Expr) (min : Nat) (max : Option Nat) (greedy : Bool)
  | lookAhead (negative : Bool) (e : Expr)
  | lookBehind (negative : Bool) (e : Expr)
  | atomic (e : Expr)
  /-- A copy of what a group matched. `extent` is that of the group, if it was over by then. -/
  | reference (index : Nat) (ignoreCase : Bool) (extent : Extent)
  /-- A group has matched. -/
  | isSet (index : Nat)
  | conditional (condition yes no : Expr)
  /-- Let the match start here. -/
  | keepOut
  /-- The place where the search started. -/
  | searchStart

namespace Expr

/-- The chain of the given expressions. -/
def ofMembers (es : List Expr) : Expr := es.foldr .seq .empty

/-- The given expressions in sequence; one alone stands for itself. -/
def ofSequence : List Expr → Expr
  | [] => .empty
  | [e] => e
  | es => ofMembers es

/-- The choice between the given expressions. -/
def ofChoice (es : List Expr) : Expr := es.foldr .alt .never

/-- The members of a sequence. -/
def members : Expr → List Expr
  | .seq first rest => first :: rest.members
  | _ => []

/-- The end of the text, or before the newlines it ends in. -/
def endBeforeNewlines : Expr :=
  .lookAhead false
    (ofMembers [.repeated (.one (.char '\n')) 0 none true, .check .textEnd])

/-- A quantifier can follow the expression. -/
def isRepeatable : Expr → Bool
  | .empty => false
  | .lookAhead _ _ => false
  | .lookBehind _ _ => false
  | .keepOut => false
  | .searchStart => false
  | .isSet _ => false
  | _ => true

/-- How many characters an expression matches. -/
def extent : Expr → Extent
  | .empty => ⟨0, true⟩
  | .never => ⟨0, true⟩
  | .one _ => ⟨1, true⟩
  | .check _ => ⟨0, true⟩
  | .seq first rest =>
    let a := first.extent
    let b := rest.extent
    ⟨a.least + b.least, a.fixed && b.fixed⟩
  | .alt first .never => first.extent
  | .alt first rest =>
    let a := first.extent
    let b := rest.extent
    ⟨min a.least b.least, a.fixed && b.fixed && a.least == b.least⟩
  | .group _ e => e.extent
  | .repeated e lo hi _ =>
    let a := e.extent
    ⟨a.least * lo, a.fixed && hi == some lo⟩
  | .lookAhead _ _ => ⟨0, true⟩
  | .lookBehind _ _ => ⟨0, true⟩
  | .atomic e => e.extent
  | .reference _ _ extent => extent
  | .isSet _ => ⟨0, true⟩
  | .conditional condition yes no =>
    let c := condition.extent
    let y := yes.extent
    let n := no.extent
    ⟨c.least + min y.least n.least,
      c.fixed && y.fixed && n.fixed && c.least + y.least == n.least⟩
  | .keepOut => ⟨0, true⟩
  | .searchStart => ⟨0, true⟩

/-- The expression can be matched in linear time, given the groups that references name. -/
def isRegular (referenced : List Nat) : Expr → Bool
  | .empty => true
  | .never => true
  | .one _ => true
  | .check a => a.isRegular
  | .seq first rest => first.isRegular referenced && rest.isRegular referenced
  | .alt first rest => first.isRegular referenced && rest.isRegular referenced
  | .group n e => e.isRegular referenced && !referenced.contains n
  | .repeated e _ _ _ => e.isRegular referenced
  | _ => false

/-- The numbers of the groups in an expression. -/
def groupsIn : Expr → List Nat
  | .seq a b => a.groupsIn ++ b.groupsIn
  | .alt a b => a.groupsIn ++ b.groupsIn
  | .group n e => n :: e.groupsIn
  | .repeated e _ _ _ => e.groupsIn
  | .lookAhead _ e => e.groupsIn
  | .lookBehind _ e => e.groupsIn
  | .atomic e => e.groupsIn
  | .conditional c y n => c.groupsIn ++ y.groupsIn ++ n.groupsIn
  | _ => []

end Expr

end SourcePrep.Pattern
