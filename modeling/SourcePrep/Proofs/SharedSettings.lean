import SourcePrep.Configuration
import Mathlib.Data.List.Induction
import Mathlib.Data.Nat.Digits.Defs
import Mathlib.Logic.Function.Basic

/-!
# Configurations that share their halves

A configuration is cheap to hand on: the values of each scope lie in a cell, a copy leads to the
same cells, and what an included file starts from leads to the same session cell and to a new one
for the file. A value is written into the cell when nothing else leads there, and into a copy of the
cell otherwise. `Configuration` has no cells; that it may do without them is proved here.

* `Usable`: every value held is one that its setting accepts, and the tabwidth is the number that is
  written, between one and the largest word.
* `Action`: a step on configurations known by name. `Values.perform` takes it on configurations as
  values, and `Pool.perform` on shared cells.
* `Pool.view_perform`: a step shows the same on both, because a cell that is written to in place is
  led to once. `reached_usable` is what follows for every sequence of steps.
-/

set_option autoImplicit false

namespace SourcePrep

/-! ## The value of a numeral -/

/-- The number that digits stand for in the decimal system; the last digit is that of the ones. -/
def Text.decimalValue (s : String) : Nat :=
  Nat.ofDigits 10 (s.toList.reverse.map fun c => c.toNat - '0'.toNat)

theorem Text.decimal_toList (s : String) : Text.decimal s.toList = Text.decimalValue s := by
  rw [decimalValue, Nat.ofDigits_eq_foldr, List.map_reverse, List.foldr_reverse, List.foldl_map,
    decimal]
  simp [Nat.mul_comm, Nat.add_comm]

/-! ## Usable configurations -/

namespace Configuration

/-- Every value that the configuration holds is one that its setting accepts. -/
def Accepted (config : Configuration) : Prop :=
  ∀ setting value, config.stored setting = some value → setting.isValid value = true

/-- All that a user of a configuration may rely on. -/
structure Usable (config : Configuration) : Prop where
  accepted : config.Accepted
  tabwidth : config.tabwidth = (config.stored .tabwidth).elim 4 Text.decimalValue
  positive : 1 ≤ config.tabwidth
  bounded : config.tabwidth ≤ 2 ^ 64 - 1
  /-- The text in force is a numeral of a word, so it is never given up for the default. -/
  numeral : Setting.isWidth (config.get .tabwidth).toList = true
  /-- To round a width of zero up is never called for. -/
  unguarded : max config.tabwidth 1 = config.tabwidth

theorem ext_stored {c d : Configuration} (h : ∀ setting, c.stored setting = d.stored setting) :
    c = d := by
  obtain ⟨marker, tabwidth⟩ := c
  obtain ⟨marker', tabwidth'⟩ := d
  have hmarker : marker = marker' := h .marker
  have htabwidth : tabwidth = tabwidth' := h .tabwidth
  rw [hmarker, htabwidth]

theorem stored_store (config : Configuration) (setting : Setting) (value : String) :
    (config.store setting value).stored = Function.update config.stored setting (some value) := by
  funext other
  cases setting <;> cases other <;> rfl

theorem set?_eq_some_iff {config new : Configuration} {setting : Setting} {value : String} :
    config.set? setting value = some new ↔
      setting.isValid value = true ∧ config.store setting value = new := by
  rw [set?]
  split <;> simp_all

theorem stored_sessionOnly (config : Configuration) (setting : Setting) :
    config.sessionOnly.stored setting =
      match setting.scope with
      | .session => config.stored setting
      | .file => none := by
  cases setting <;> rfl

theorem Accepted.empty : Accepted {} := fun setting _ h => by cases setting <;> cases h

theorem Accepted.store {config : Configuration} (h : config.Accepted) {setting : Setting}
    {value : String} (hvalue : setting.isValid value = true) :
    (config.store setting value).Accepted := by
  intro other text htext
  rw [stored_store] at htext
  by_cases hother : other = setting
  · subst hother
    rw [Function.update_self, Option.some.injEq] at htext
    exact htext ▸ hvalue
  · rw [Function.update_of_ne hother] at htext
    exact h other text htext

theorem Accepted.set {config new : Configuration} (h : config.Accepted) {setting : Setting}
    {value : String} (hset : config.set? setting value = some new) : new.Accepted := by
  obtain ⟨hvalue, rfl⟩ := set?_eq_some_iff.1 hset
  exact h.store hvalue

theorem Accepted.sessionOnly {config : Configuration} (h : config.Accepted) :
    config.sessionOnly.Accepted := by
  intro setting value hvalue
  rw [stored_sessionOnly] at hvalue
  split at hvalue
  · exact h setting value hvalue
  · cases hvalue

/-- The text of the tabwidth in force is one that the setting accepts; the default is one. -/
theorem Accepted.isWidth_get {config : Configuration} (h : config.Accepted) :
    Setting.isWidth (config.get .tabwidth).toList = true := by
  rcases hstored : config.stored .tabwidth with - | value
  · rw [get, hstored]
    decide
  · rw [get, hstored]
    exact h .tabwidth value hstored

theorem Accepted.usable {config : Configuration} (h : config.Accepted) : config.Usable := by
  have hwidth := h.isWidth_get
  have hparts := hwidth
  simp only [Setting.isWidth, Bool.and_eq_true, decide_eq_true_eq] at hparts
  obtain ⟨⟨⟨hsome, hdigits⟩, hpositive⟩, hbounded⟩ := hparts
  have hvalue : config.tabwidth = Text.decimal (config.get .tabwidth).toList := by
    rw [Configuration.tabwidth]
    simp only [hsome, hdigits, hbounded, Bool.and_self, decide_true, if_true]
  have htabwidth : config.tabwidth = (config.stored .tabwidth).elim 4 Text.decimalValue := by
    rw [hvalue, Text.decimal_toList, get]
    rcases config.stored .tabwidth with - | value
    · decide
    · rfl
  exact ⟨h, htabwidth, hvalue ▸ hpositive, hvalue ▸ hbounded, hwidth,
    Nat.max_eq_left (hvalue ▸ hpositive)⟩

end Configuration

/-! ## Configurations by name -/

/-- A step on configurations that are known by name. A name that stands for none gives none. -/
inductive Action
  /-- A configuration in which nothing is set. -/
  | create (name : String)
  /-- Set a value, if the setting accepts it. -/
  | set (name : String) (setting : Setting) (value : String)
  /-- Give a configuration away for the one with a value set; there is none if the setting does not
  accept the value. -/
  | setInto (source target : String) (setting : Setting) (value : String)
  | copy (source target : String)
  /-- What a file starts from that is included under a configuration. -/
  | sessionOnly (source target : String)
  deriving DecidableEq, Repr

/-- Configurations as values: what each name stands for. -/
abbrev Values := String → Option Configuration

namespace Values

def perform (values : Values) : Action → Values
  | .create name => Function.update values name (some {})
  | .set name setting value =>
    Function.update values name
      ((values name).map fun config => (config.set? setting value).getD config)
  | .setInto source target setting value =>
    Function.update (Function.update values source none) target
      ((values source).bind (·.set? setting value))
  | .copy source target => Function.update values target (values source)
  | .sessionOnly source target =>
    Function.update values target ((values source).map Configuration.sessionOnly)

/-- What the names stand for after the steps, starting with no configuration. -/
def after (actions : List Action) : Values := actions.foldl perform fun _ => none

/-- No name stands for a configuration with a value that its setting does not accept. -/
def Accepted (values : Values) : Prop :=
  ∀ name config, values name = some config → config.Accepted

theorem Accepted.update {values : Values} (h : values.Accepted) (name : String)
    {result : Option Configuration} (hresult : ∀ config, result = some config → config.Accepted) :
    Accepted (Function.update values name result) := by
  intro other config hconfig
  by_cases hother : other = name
  · subst hother
    exact hresult config (by simpa using hconfig)
  · exact h other config (by rwa [Function.update_of_ne hother] at hconfig)

theorem Accepted.perform {values : Values} (h : values.Accepted) (action : Action) :
    (values.perform action).Accepted := by
  cases action with
  | create name => exact h.update name fun config hconfig => Option.some.inj hconfig ▸ .empty
  | set name setting value =>
    refine h.update name fun config hconfig => ?_
    obtain ⟨old, hold, rfl⟩ := Option.map_eq_some_iff.1 hconfig
    cases hset : old.set? setting value with
    | none => exact h name old hold
    | some new => exact (h name old hold).set hset
  | setInto source target setting value =>
    refine (h.update source (by simp)).update target fun config hconfig => ?_
    obtain ⟨old, hold, hset⟩ := Option.bind_eq_some_iff.1 hconfig
    exact (h source old hold).set hset
  | copy source target => exact h.update target fun config hconfig => h source config hconfig
  | sessionOnly source target =>
    refine h.update target fun config hconfig => ?_
    obtain ⟨old, hold, rfl⟩ := Option.map_eq_some_iff.1 hconfig
    exact (h source old hold).sessionOnly

theorem accepted_after (actions : List Action) : (after actions).Accepted := by
  induction actions using List.reverseRecOn with
  | nil => intro name config hconfig; cases hconfig
  | append_singleton actions action ih =>
    rw [after, List.foldl_append]
    exact ih.perform action

end Values

/-! ## Configurations in cells -/

/-- The values of the settings of one scope. -/
abbrev Half := Setting → Option String

/-- The cells in which the halves of a configuration lie. -/
abbrev Handle := Scope → Nat

/-- Configurations whose halves lie in cells that they may share. -/
structure Pool where
  cells : Nat → Half := fun _ _ => none
  /-- The first cell that was never used. -/
  next : Nat := 0
  handles : List (String × Handle) := []

namespace Pool

/-- The cells that a handle leads to, one for each scope. -/
def targets (handle : Handle) : List Nat := [handle .session, handle .file]

/-- The cells that are led to, as often as they are. -/
def pointers (p : Pool) : List Nat := p.handles.flatMap fun entry => targets entry.2

def handle? (p : Pool) (name : String) : Option Handle := p.handles.lookup name

/-- The configuration that a handle stands for. -/
def valueOf (p : Pool) (handle : Handle) : Configuration :=
  { markerValue := p.cells (handle .session) .marker
    tabwidthValue := p.cells (handle .file) .tabwidth }

/-- What each name stands for. -/
def view (p : Pool) : Values := fun name => (p.handle? name).map p.valueOf

/-- Let a name stand for a handle; the one it stood for before is dropped. -/
def bind (p : Pool) (name : String) (handle : Option Handle) : Pool :=
  { p with handles := handle.toList.map (name, ·) ++ p.handles.filter (·.1 ≠ name) }

/-- Put other values into a cell. -/
def overwrite (p : Pool) (cell : Nat) (half : Half) : Pool :=
  { p with cells := Function.update p.cells cell half }

/-- A new cell. -/
def alloc (p : Pool) (half : Half) : Pool :=
  { p with cells := Function.update p.cells p.next half, next := p.next + 1 }

/-- Store a value: in its cell when nothing else leads there, and else in a copy of the cell, which
the name leads to from now on. -/
def write (p : Pool) (name : String) (setting : Setting) (value : String) : Pool :=
  match p.handle? name with
  | none => p
  | some handle =>
    let cell := handle setting.scope
    let half := Function.update (p.cells cell) setting (some value)
    if p.pointers.count cell = 1 then p.overwrite cell half
    else (p.alloc half).bind name (some (Function.update handle setting.scope p.next))

def perform (p : Pool) : Action → Pool
  | .create name =>
    ((p.alloc fun _ => none).alloc fun _ => none).bind name <| some fun
      | .session => p.next
      | .file => p.next + 1
  | .set name setting value => if setting.isValid value then p.write name setting value else p
  | .setInto source target setting value =>
    if setting.isValid value then
      let written := p.write source setting value
      (written.bind source none).bind target (written.handle? source)
    else (p.bind source none).bind target none
  | .copy source target => p.bind target (p.handle? source)
  | .sessionOnly source target =>
    (p.alloc fun _ => none).bind target
      ((p.handle? source).map fun handle => Function.update handle .file p.next)

/-- The cells after the steps, starting with no configuration. -/
def after (actions : List Action) : Pool := actions.foldl perform {}

/-- Only cells in use are led to. -/
def Allocated (p : Pool) : Prop := ∀ cell ∈ p.pointers, cell < p.next

/-! ### What a name leads to -/

/-- An entry at the front hides what stands behind it for its name. -/
theorem lookup_cons (entry : String × Handle) (entries : List (String × Handle)) :
    (fun name => (entry :: entries).lookup name) =
      Function.update (fun name => entries.lookup name) entry.1 (some entry.2) := by
  funext name
  rw [List.lookup_cons, Function.update_apply]
  by_cases h : name = entry.1
  · simp [h]
  · have hne : (name == entry.1) = false := by simpa using h
    rw [hne, if_neg h]

theorem lookup_filter (entries : List (String × Handle)) (name : String) :
    (fun other => (entries.filter (·.1 ≠ name)).lookup other) =
      Function.update (fun other => entries.lookup other) name none := by
  induction entries with
  | nil => exact (Function.update_eq_self name fun _ => none).symm
  | cons entry entries ih =>
    by_cases hname : entry.1 = name
    · rw [List.filter_cons_of_neg (by simpa using hname), ih, lookup_cons, hname,
        Function.update_idem]
    · rw [List.filter_cons_of_pos (by simpa using hname), lookup_cons, ih, lookup_cons,
        Function.update_comm hname]

theorem handle?_bind (p : Pool) (name : String) (handle : Option Handle) :
    (p.bind name handle).handle? = Function.update p.handle? name handle := by
  cases handle with
  | none => exact lookup_filter p.handles name
  | some handle =>
    refine (lookup_cons (name, handle) (p.handles.filter (·.1 ≠ name))).trans ?_
    rw [lookup_filter, Function.update_idem]
    rfl

/-- What a name leads to is counted. -/
theorem targets_sublist {entries : List (String × Handle)} {name : String} {handle : Handle}
    (h : entries.lookup name = some handle) :
    (targets handle).Sublist (entries.flatMap fun entry => targets entry.2) := by
  obtain ⟨front, back, rfl, -⟩ := List.lookup_eq_some_iff.1 h
  rw [List.flatMap_append, List.flatMap_cons]
  exact (List.sublist_append_left _ _).trans (List.sublist_append_right _ _)

/-- What two names lead to is counted twice. -/
theorem count_add_le {entries : List (String × Handle)} {name other : String}
    {handle handle' : Handle} (h : entries.lookup name = some handle)
    (h' : entries.lookup other = some handle') (hne : other ≠ name) (cell : Nat) :
    (targets handle).count cell + (targets handle').count cell ≤
      (entries.flatMap fun entry => targets entry.2).count cell := by
  induction entries with
  | nil => cases h
  | cons entry entries ih =>
    rw [congrFun (lookup_cons entry entries) _, Function.update_apply] at h h'
    rw [List.flatMap_cons, List.count_append]
    split at h
    · rename_i hname
      rw [if_neg (by rwa [← hname])] at h'
      have hrest := (targets_sublist h').count_le cell
      rw [← Option.some.inj h]
      omega
    · split at h'
      · have hrest := (targets_sublist h).count_le cell
        rw [← Option.some.inj h']
        omega
      · have hrest := ih h h'
        omega

theorem mem_pointers {p : Pool} {name : String} {handle : Handle}
    (h : p.handle? name = some handle) (scope : Scope) : handle scope ∈ p.pointers := by
  refine (targets_sublist h).subset ?_
  cases scope <;> simp [targets]

/-- A cell that is counted once is led to by one scope of one name. -/
theorem eq_of_count_eq_one {p : Pool} {name other : String} {handle handle' : Handle}
    {scope scope' : Scope} (h : p.handle? name = some handle)
    (h' : p.handle? other = some handle') (hone : p.pointers.count (handle scope) = 1)
    (hcell : handle' scope' = handle scope) : other = name ∧ scope' = scope := by
  have hcount : 0 < (targets handle).count (handle scope) :=
    List.count_pos_iff.2 (by cases scope <;> simp [targets])
  have hcount' : 0 < (targets handle').count (handle scope) :=
    List.count_pos_iff.2 (hcell ▸ by cases scope' <;> simp [targets])
  by_cases hother : other = name
  · subst hother
    obtain rfl : handle = handle' := Option.some.inj (h.symm.trans h')
    refine ⟨rfl, ?_⟩
    have hle := (targets_sublist h).count_le (handle scope)
    by_contra hne
    -- both scopes of the name lead to the cell
    have hboth : (targets handle).count (handle scope) = 2 := by
      cases scope <;> cases scope' <;> simp_all [targets]
    rw [hboth] at hle
    exact absurd (hone ▸ hle : 2 ≤ 1) (by decide)
  · have hle := count_add_le h h' hother (handle scope)
    rw [← pointers, hone] at hle
    omega

/-! ### What a step shows -/

theorem stored_valueOf (p : Pool) (handle : Handle) (setting : Setting) :
    (p.valueOf handle).stored setting = p.cells (handle setting.scope) setting := by
  cases setting <;> rfl

theorem view_bind (p : Pool) (name : String) (handle : Option Handle) :
    (p.bind name handle).view = Function.update p.view name (handle.map p.valueOf) := by
  funext other
  rw [view, handle?_bind, Function.update_apply, Function.update_apply]
  split <;> rfl

theorem cells_alloc_of_lt (p : Pool) (half : Half) {cell : Nat} (h : cell < p.next) :
    (p.alloc half).cells cell = p.cells cell :=
  Function.update_of_ne (Nat.ne_of_lt h) _ _

theorem cells_alloc_next (p : Pool) (half : Half) : (p.alloc half).cells p.next = half :=
  Function.update_self _ _ _

/-- A new cell is led to by nothing. -/
theorem valueOf_alloc {p : Pool} {handle : Handle} (h : ∀ scope, handle scope < p.next)
    (half : Half) : (p.alloc half).valueOf handle = p.valueOf handle := by
  refine Configuration.ext_stored fun setting => ?_
  rw [stored_valueOf, stored_valueOf, cells_alloc_of_lt p half (h _)]

/-- What the configuration shows that leads to a new cell for one scope. -/
theorem stored_valueOf_alloc {p : Pool} {handle : Handle} (h : ∀ scope, handle scope < p.next)
    (scope : Scope) (half : Half) (setting : Setting) :
    ((p.alloc half).valueOf (Function.update handle scope p.next)).stored setting =
      if setting.scope = scope then half setting else (p.valueOf handle).stored setting := by
  rw [stored_valueOf, Function.update_apply]
  split
  · rw [cells_alloc_next]
  · rw [stored_valueOf, cells_alloc_of_lt p half (h _)]

/-- What a configuration shows when a cell is written to that is led to once. -/
theorem valueOf_overwrite {p : Pool} {name other : String} {handle handle' : Handle}
    (h : p.handle? name = some handle) (h' : p.handle? other = some handle') {setting : Setting}
    (hone : p.pointers.count (handle setting.scope) = 1) (value : String) :
    let half := Function.update (p.cells (handle setting.scope)) setting (some value)
    (p.overwrite (handle setting.scope) half).valueOf handle' =
      if other = name then (p.valueOf handle').store setting value else p.valueOf handle' := by
  refine Configuration.ext_stored fun seen => ?_
  rw [stored_valueOf]
  by_cases hcell : handle' seen.scope = handle setting.scope
  · obtain ⟨rfl, hscope⟩ := eq_of_count_eq_one h h' hone hcell
    simp only [overwrite, hcell, if_true, Function.update_self, Configuration.stored_store,
      Function.update_apply, stored_valueOf]
  · simp only [overwrite, Function.update_of_ne hcell]
    split
    · rename_i hother
      subst hother
      have hne : seen ≠ setting := by
        rintro rfl
        exact hcell (congrFun (Option.some.inj (h'.symm.trans h)) _)
      rw [Configuration.stored_store, Function.update_of_ne hne, stored_valueOf]
    · rw [stored_valueOf]

theorem view_overwrite {p : Pool} {name : String} {handle : Handle}
    (h : p.handle? name = some handle) {setting : Setting}
    (hone : p.pointers.count (handle setting.scope) = 1) (value : String) :
    let half := Function.update (p.cells (handle setting.scope)) setting (some value)
    (p.overwrite (handle setting.scope) half).view =
      Function.update p.view name (some ((p.valueOf handle).store setting value)) := by
  intro half
  funext other
  rw [Function.update_apply, view]
  rcases hother : p.handle? other with - | handle'
  · have hne : other ≠ name := by
      rintro rfl
      exact absurd (hother.symm.trans h) (by simp)
    rw [if_neg hne, view, hother]
    exact congrArg (Option.map _) hother
  · have hvalue := valueOf_overwrite h hother hone value
    have hview : p.view other = some (p.valueOf handle') := by rw [view, hother, Option.map_some]
    refine (congrArg (Option.map _) hother).trans ?_
    rw [Option.map_some, hvalue, hview]
    split
    · rename_i hsame
      subst hsame
      rw [Option.some.inj (hother.symm.trans h)]
    · rfl

/-- Every cell that a name leads to is in use. -/
theorem Allocated.lt_next {p : Pool} (hp : p.Allocated) {name : String} {handle : Handle}
    (h : p.handle? name = some handle) (scope : Scope) : handle scope < p.next :=
  hp _ (mem_pointers h scope)

theorem Allocated.view_alloc {p : Pool} (hp : p.Allocated) (half : Half) :
    (p.alloc half).view = p.view := by
  funext name
  exact Option.map_congr fun handle hhandle => valueOf_alloc (hp.lt_next hhandle) half

/-- A value that is written shows in the configuration of the name and nowhere else. -/
theorem Allocated.view_write {p : Pool} (hp : p.Allocated) (name : String) (setting : Setting)
    (value : String) :
    (p.write name setting value).view =
      Function.update p.view name ((p.view name).map (·.store setting value)) := by
  rcases hhandle : p.handle? name with - | handle
  · have hview : p.view name = none := by rw [view, hhandle, Option.map_none]
    rw [write, hhandle, hview, Option.map_none, ← hview, Function.update_eq_self]
  · have hview : p.view name = some (p.valueOf handle) := by rw [view, hhandle, Option.map_some]
    simp only [write, hhandle, hview, Option.map_some]
    split
    · exact view_overwrite hhandle ‹_› value
    · -- the copy is new, so this name alone sees what is written into it
      rw [view_bind, hp.view_alloc, Option.map_some]
      congr 2
      refine Configuration.ext_stored fun seen => ?_
      rw [stored_valueOf_alloc (hp.lt_next hhandle), Configuration.stored_store,
        Function.update_apply, Function.update_apply, stored_valueOf]
      by_cases hscope : seen.scope = setting.scope
      · rw [if_pos hscope, hscope]
      · have hne : seen ≠ setting := fun hne => hscope (by rw [hne])
        rw [if_neg hscope, if_neg hne]

/-! ### Runs -/

theorem Allocated.bind {p : Pool} (hp : p.Allocated) (name : String) {handle : Option Handle}
    (h : ∀ given, handle = some given → ∀ scope, given scope < p.next) :
    (p.bind name handle).Allocated := by
  intro cell hcell
  obtain ⟨entry, hentry, htarget⟩ := List.mem_flatMap.1 hcell
  rcases List.mem_append.1 hentry with hnew | hold
  · obtain ⟨given, hgiven, rfl⟩ := List.mem_map.1 hnew
    have hlt := h given (by simpa using hgiven)
    simp only [targets, List.mem_cons, List.not_mem_nil, or_false] at htarget
    rcases htarget with rfl | rfl
    · exact hlt _
    · exact hlt _
  · exact hp cell (List.mem_flatMap.2 ⟨entry, (List.mem_filter.1 hold).1, htarget⟩)

theorem Allocated.alloc {p : Pool} (hp : p.Allocated) (half : Half) : (p.alloc half).Allocated :=
  fun cell hcell => Nat.lt_succ_of_lt (hp cell hcell)

/-- A handle of which one scope leads to a new cell. -/
theorem Allocated.update_lt {p : Pool} (hp : p.Allocated) {name : String} {handle : Handle}
    (h : p.handle? name = some handle) (scope scope' : Scope) :
    Function.update handle scope p.next scope' < p.next + 1 := by
  rw [Function.update_apply]
  split
  · omega
  · exact Nat.lt_succ_of_lt (hp.lt_next h scope')

theorem Allocated.write {p : Pool} (hp : p.Allocated) (name : String) (setting : Setting)
    (value : String) : (p.write name setting value).Allocated := by
  rcases hhandle : p.handle? name with - | handle
  · rwa [Pool.write, hhandle]
  · simp only [Pool.write, hhandle]
    split
    · exact hp
    · refine (hp.alloc _).bind name fun given hgiven scope => ?_
      exact Option.some.inj hgiven ▸ hp.update_lt hhandle _ scope

theorem Allocated.perform {p : Pool} (hp : p.Allocated) (action : Action) :
    (p.perform action).Allocated := by
  cases action with
  | create name =>
    refine ((hp.alloc _).alloc _).bind name fun given hgiven scope => ?_
    have hnext : ((p.alloc fun _ => none).alloc fun _ => none).next = p.next + 2 := rfl
    rw [hnext, ← Option.some.inj hgiven]
    cases scope
    · show p.next < p.next + 2
      omega
    · show p.next + 1 < p.next + 2
      omega
  | set name setting value =>
    rw [Pool.perform]
    split
    · exact hp.write name setting value
    · exact hp
  | setInto source target setting value =>
    rw [Pool.perform]
    split
    · have hw := hp.write source setting value
      exact (hw.bind source (by simp)).bind target fun given hgiven => hw.lt_next hgiven
    · exact (hp.bind source (by simp)).bind target (by simp)
  | copy source target => exact hp.bind target fun given hgiven => hp.lt_next hgiven
  | sessionOnly source target =>
    refine (hp.alloc _).bind target fun given hgiven scope => ?_
    obtain ⟨handle, hhandle, rfl⟩ := Option.map_eq_some_iff.1 hgiven
    exact hp.update_lt hhandle .file scope

/-- A step on shared cells shows what the step on values gives. -/
theorem Allocated.view_perform {p : Pool} (hp : p.Allocated) (action : Action) :
    (p.perform action).view = p.view.perform action := by
  cases action with
  | create name =>
    rw [Pool.perform, view_bind, (hp.alloc _).view_alloc, hp.view_alloc, Values.perform,
      Option.map_some]
    congr 2
    refine Configuration.ext_stored fun setting => ?_
    rw [stored_valueOf]
    cases setting with
    | tabwidth => exact congrFun (cells_alloc_next (p.alloc _) _) _
    | marker =>
      refine (congrFun (cells_alloc_of_lt (p.alloc _) _ (Nat.lt_succ_self p.next)) _).trans ?_
      exact congrFun (cells_alloc_next p _) _
  | set name setting value =>
    rw [Pool.perform, Values.perform]
    split
    · rename_i hvalid
      simp only [hp.view_write, Configuration.set?, hvalid, if_true, Option.getD_some]
    · rename_i hvalid
      simp [Configuration.set?, hvalid]
  | setInto source target setting value =>
    rw [Pool.perform, Values.perform]
    split
    · rename_i hvalid
      have hgiven : ((p.write source setting value).handle? source).map
          ((p.write source setting value).bind source none).valueOf =
          (p.write source setting value).view source := rfl
      rw [view_bind, view_bind, hgiven, hp.view_write, Function.update_idem, Function.update_self]
      cases p.view source with
      | none => rfl
      | some config => simp [Configuration.set?, hvalid]
    · rename_i hvalid
      rw [view_bind, view_bind]
      simp [Configuration.set?, hvalid]
  | copy source target => exact view_bind p target _
  | sessionOnly source target =>
    rw [Pool.perform, view_bind, hp.view_alloc, Values.perform, view, Option.map_map,
      Option.map_map]
    congr 1
    refine Option.map_congr fun handle hhandle => Configuration.ext_stored fun setting => ?_
    rw [Function.comp_apply, stored_valueOf_alloc (hp.lt_next hhandle), Function.comp_apply,
      Configuration.stored_sessionOnly]
    cases setting <;> rfl

theorem allocated_after (actions : List Action) : (after actions).Allocated := by
  induction actions using List.reverseRecOn with
  | nil => intro cell hcell; cases hcell
  | append_singleton actions action ih =>
    rw [after, List.foldl_append]
    exact ih.perform action

/-- Shared cells show the configurations that there would be without sharing. -/
theorem view_after (actions : List Action) : (after actions).view = Values.after actions := by
  induction actions using List.reverseRecOn with
  | nil => rfl
  | append_singleton actions action ih =>
    rw [after, List.foldl_append, Values.after, List.foldl_append]
    exact ((allocated_after actions).view_perform action).trans (congrArg (·.perform action) ih)

/-- After any steps on configurations that share their halves: the names stand for what they would
stand for without sharing, and every configuration is usable. A value that is not accepted changes
nothing, and one that is accepted changes that setting of the configuration with that name; copies
made before keep what they hold. What an included file starts from has the marker and no tabwidth,
whether it is taken before or after a marker is set. -/
theorem reached_usable (actions : List Action) :
    let p := after actions
    p.view = Values.after actions ∧
      (∀ name config, p.view name = some config → config.Usable) ∧
      (∀ name setting value, setting.isValid value = false →
        p.perform (.set name setting value) = p) ∧
      (∀ name setting value config, setting.isValid value = true → p.view name = some config →
        ∃ new, (p.perform (.set name setting value)).view =
            Function.update p.view name (some new) ∧
          new.stored = Function.update config.stored setting (some value)) ∧
      ∀ config : Configuration,
        config.sessionOnly.stored .marker = config.stored .marker ∧
        config.sessionOnly.stored .tabwidth = none ∧
        config.sessionOnly.sessionOnly = config.sessionOnly ∧
        ∀ value, (config.set? .marker value).map Configuration.sessionOnly =
          config.sessionOnly.set? .marker value := by
  have hview := view_after actions
  have hallocated := allocated_after actions
  refine ⟨hview, fun name config hconfig => ?_, fun name setting value hvalue => ?_,
    fun name setting value config hvalue hconfig => ?_,
    fun config => ⟨rfl, rfl, rfl, fun value => ?_⟩⟩
  · rw [hview] at hconfig
    exact (Values.accepted_after actions name config hconfig).usable
  · rw [perform, if_neg (by simp [hvalue])]
  · refine ⟨config.store setting value, ?_, Configuration.stored_store config setting value⟩
    rw [perform, if_pos hvalue, hallocated.view_write, hconfig, Option.map_some]
  · rw [Configuration.set?, Configuration.set?]
    split <;> rfl

/-- A configuration is copied, and what an included file starts from is taken from it; then values
are set in the first one, which is led to by three names. -/
def threefold : List Action :=
  [.create "a", .set "a" .marker "#", .copy "a" "b", .sessionOnly "a" "c", .set "a" .tabwidth "08",
    .set "a" .marker "@"]

theorem reached_usable_threefold :
    let p := after threefold
    p.view "a" = some ⟨some "@", some "08"⟩ ∧ p.view "b" = some ⟨some "#", none⟩ ∧
      Configuration.Usable ⟨some "@", some "08"⟩ ∧
      p.perform (.set "a" .marker "x y") = p ∧
      (p.perform (.set "b" .marker "%")).view "a" = some ⟨some "@", some "08"⟩ ∧
      (p.perform (.set "b" .marker "%")).view "c" = some ⟨some "#", none⟩ := by
  obtain ⟨-, husable, hrefused, haccepted, -⟩ := reached_usable threefold
  have ha : (after threefold).view "a" = some ⟨some "@", some "08"⟩ := by decide
  have hb : (after threefold).view "b" = some ⟨some "#", none⟩ := by decide
  have hc : (after threefold).view "c" = some ⟨some "#", none⟩ := by decide
  obtain ⟨new, hview, -⟩ := haccepted "b" .marker "%" _ (by decide) hb
  refine ⟨ha, hb, husable _ _ ha, hrefused "a" .marker "x y" (by decide), ?_, ?_⟩
  · rw [hview, Function.update_of_ne (by decide), ha]
  · rw [hview, Function.update_of_ne (by decide), hc]

end Pool

end SourcePrep
