import SourcePrep.Text
import SourcePrep.Text.Blank

/-!
# Settings and configurations

Two things can be set: the width of a tab, which holds for the file that declares it, and the marker
that directives start with, which also holds for every file included below. A configuration stores
the text of each setting that was given an acceptable value.
-/

set_option autoImplicit false

namespace SourcePrep

/-- How far a setting reaches through inclusion. -/
inductive Scope
  /-- Inherited by every file included below. -/
  | session
  /-- Local to the file that declares it. -/
  | file
  deriving DecidableEq, Repr

namespace Scope

/-- The name that is shown. -/
def name : Scope → String
  | session => "session"
  | file => "file"

end Scope

/-- What a configuration can set. -/
inductive Setting
  | tabwidth
  | marker
  deriving DecidableEq, Repr

namespace Setting

/-- Every setting. -/
def all : List Setting := [tabwidth, marker]

/-- The name of the setting in a directive. -/
def key : Setting → String
  | tabwidth => "tabwidth"
  | marker => "prefix"

/-- The setting with the given name. -/
def ofKey? (key : String) : Option Setting := all.find? fun s => s.key = key

/-- The value in force when none was given. -/
def defaultValue : Setting → String
  | tabwidth => "4"
  | marker => ""

def scope : Setting → Scope
  | tabwidth => .file
  | marker => .session

/-- A decimal numeral for a positive number that fits a machine word. -/
def isWidth (cs : List Char) : Bool :=
  !cs.isEmpty && cs.all Text.isDigit && 0 < Text.decimal cs && Text.decimal cs ≤ Text.maxWord

/-- Some blank character stands between two others. -/
def hasInnerBlank (cs : List Char) : Bool := (cs.drop 1).dropLast.any Text.isBlank

/-- The values that a setting accepts. -/
def isValid (setting : Setting) (value : String) : Bool :=
  match setting with
  | tabwidth => isWidth value.toList
  | marker => !hasInnerBlank value.toList

end Setting

/-- The values of the settings, by scope. -/
structure Configuration where
  /-- The marker, when it was set: the session's half. -/
  markerValue : Option String := none
  /-- The tabwidth, when it was set: the file's half. -/
  tabwidthValue : Option String := none
  deriving DecidableEq, Repr, Inhabited

namespace Configuration

/-- The stored value of a setting. -/
def stored (config : Configuration) : Setting → Option String
  | .tabwidth => config.tabwidthValue
  | .marker => config.markerValue

/-- The value of a setting was given. -/
def isDefined (config : Configuration) (setting : Setting) : Bool := (config.stored setting).isSome

/-- The stored value, or the default. -/
def get (config : Configuration) (setting : Setting) : String :=
  (config.stored setting).getD setting.defaultValue

/-- Store a value without looking at it. -/
def store (config : Configuration) (setting : Setting) (value : String) : Configuration :=
  match setting with
  | .tabwidth => { config with tabwidthValue := some value }
  | .marker => { config with markerValue := some value }

/-- The configuration with the setting at the given value, if the setting accepts it. -/
def set? (config : Configuration) (setting : Setting) (value : String) : Option Configuration :=
  if setting.isValid value then some (config.store setting value) else none

/-- The width of a tab. -/
def tabwidth (config : Configuration) : Nat :=
  let cs := (config.get .tabwidth).toList
  if !cs.isEmpty && cs.all Text.isDigit && Text.decimal cs ≤ Text.maxWord then Text.decimal cs
  else 4

/-- What a directive starts with. -/
def marker (config : Configuration) : String := config.get .marker

/-- What an included file starts from: the session's settings. -/
def sessionOnly (config : Configuration) : Configuration := { config with tabwidthValue := none }

end Configuration

end SourcePrep
