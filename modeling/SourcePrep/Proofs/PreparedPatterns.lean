import SourcePrep.Expansion
import SourcePrep.Inclusion

/-!
# The patterns of directives, read beforehand

Without a marker there are three patterns of directives, and each is read into one fixed expression.
An engine that has them at hand is the standard engine, and evaluates a run on given files without
reading the patterns again for every file.

* `Regular.setting`, `Regular.inclusion`, `Regular.directive`: the expressions.
* `compile_directives`: they are what the patterns are read into.
* `Engine.prepared_eq`: the engine that has them at hand is the standard one.
-/

set_option autoImplicit false

namespace SourcePrep

/-! ## The expressions -/

namespace Pattern

deriving instance DecidableEq for CharSet
deriving instance DecidableEq for Regular

/-- The characters that a name can start with. -/
def nameStart : CharSet :=
  .union (.union (.union .none (.range 'A' 'Z')) (.range 'a' 'z')) (.char '_')

/-- The characters of a name. -/
def nameRest : CharSet :=
  .union (.union (.union (.union .none (.range 'A' 'Z')) (.range 'a' 'z')) (.range '0' '9'))
    (.char '_')

namespace Regular

/-- The given characters, and then the rest. -/
def spell (cs : List Char) (rest : Regular) : Regular :=
  cs.foldr (fun c e => .seq (.one (.char c)) e) rest

/-- The rest of a physical line, as a group. -/
def restOfLine (group key : Nat) : Regular :=
  .group group (.seq (.one (.compl (.char '\n'))) (.run key true (.compl (.char '\n'))))

/-- Some characters of a set, at least one. -/
def plus (key : Nat) (s : CharSet) : Regular := .seq (.one s) (.run key true s)

/-- A keyword at the start of a line, blanks, and the rest. -/
def opening (keyword : String) (rest : Regular) : Regular :=
  .seq (.check .lineStart) (spell keyword.toList (.seq (.run 0 true .blank) rest))

/-- Blanks up to the end of a line. -/
def closing (key : Nat) : Regular := .seq (.run key true .blank) (.seq (.check .lineEnd) .empty)

/-- The expression for directives that set something. -/
def setting : Regular :=
  .group 0 (opening "config:"
    (.seq (.group 1 (.seq (.one nameStart) (.seq (.run 1 true nameRest) .empty)))
      (.seq (.run 2 true .blank) (spell ['='] (.seq (.run 3 true .blank)
        (.seq (.group 2 (plus 4 (.compl .blank))) (closing 5)))))))

/-- The expression for directives that include a file. -/
def inclusion : Regular :=
  .group 0 (opening "include" (spell ['"'] (.seq (.group 1 (plus 1 (.compl (.char '\n'))))
    (spell ['"'] (closing 2)))))

/-- The expression for directives that replace. -/
def directive : Regular :=
  .group 0 (.seq (.check .lineStart) (spell "replace".toList
    (.seq (.optional 0 true (.seq (.group 1 (spell "lit".toList .empty)) .empty))
      (.seq (restOfLine 2 1) (spell ['\n', '\t'] (.seq (restOfLine 3 2) (spell ['\n'] .empty)))))))

end Regular

/-! ## The patterns -/

theorem source_of_compile {source : String} {flags : Flags} {p : Pattern}
    (h : compile source flags = .ok p) : p.source = source := by
  unfold compile at h
  extract_lets program? at h
  clear_value program?
  rcases program? with - | ⟨parsed, program⟩
  · cases h
  · cases h
    rfl

/-- The expression of a pattern that is matched in linear time. -/
def regular? (p : Pattern) : Option Regular :=
  match p.program with
  | .linear e => some e
  | .backtracking _ _ => none

/-- The expression of a pattern that is matched in linear time, with the number of its groups and
their names. -/
def linear? (p : Pattern) : Option (Regular × Nat × List (String × Nat)) :=
  p.regular?.map fun e => (e, p.groups, p.names)

theorem compile_eq {source : String} {flags : Flags} {e : Regular} {groups : Nat}
    {names : List (String × Nat)}
    (h : (compile source flags).toOption.bind linear? = some (e, groups, names)) :
    compile source flags = .ok ⟨source, groups, names, .linear e⟩ := by
  rcases hresult : compile source flags with failure | p
  · rw [hresult] at h
    cases h
  · obtain rfl := source_of_compile hresult
    obtain ⟨source, groups, names, e | ⟨code, slots⟩⟩ := p
    · rw [hresult] at h
      cases h
      rfl
    · rw [hresult] at h
      cases h

/-- The pattern of directives that set something. -/
def ofSetting : Pattern :=
  ⟨"^" ++ configDirective, 2, [("value", 2), ("name", 1)], .linear .setting⟩

/-- The pattern of directives that include a file. -/
def ofInclusion : Pattern := ⟨"^" ++ includeDirective, 1, [("path", 1)], .linear .inclusion⟩

/-- The pattern of directives that replace. -/
def ofReplacement : Pattern :=
  ⟨"^" ++ replaceDirective, 3, [("template", 3), ("pattern", 2), ("lit", 1)], .linear .directive⟩

/-- The patterns of directives without a marker. -/
def directives : List Pattern := [ofSetting, ofInclusion, ofReplacement]

theorem compile_directives : ∀ p ∈ directives, compile p.source { multiLine := true } = .ok p := by
  simp only [directives, List.forall_mem_cons]
  exact ⟨compile_eq (by decide +kernel), compile_eq (by decide +kernel),
    compile_eq (by decide +kernel), by simp⟩

end Pattern

namespace Engine

/-- The engine of this library, with the patterns of directives read beforehand. -/
def prepared : Engine where
  compile source flags :=
    match Pattern.directives.find? fun p => p.source = source ∧ flags = { multiLine := true } with
    | some p => .ok fun text => p.firstMatch text 0
    | none => standard.compile source flags

/-- Runs on given files are evaluated with the patterns at hand. -/
theorem prepared_eq : prepared = standard := by
  rw [prepared, standard]
  congr 1
  funext source flags
  split
  · rename_i p hp
    have hfound := List.find?_some hp
    simp only [decide_eq_true_eq] at hfound
    obtain ⟨rfl, rfl⟩ := hfound
    rw [Pattern.compile_directives p (List.mem_of_find?_eq_some hp)]
    rfl
  · rfl

theorem standard_directive_eq {config : Configuration} (hmarker : config.marker = "")
    {body : String} {p : Pattern}
    (h : Pattern.compile ("^" ++ body) { multiLine := true } = .ok p) :
    standard.directive config body = .ok fun text => p.firstMatch text 0 := by
  rw [directive, Configuration.directive, hmarker, String.append_empty]
  simp only [standard, h]
  rfl

end Engine

end SourcePrep
