import SourcePrep.Pipeline
import SourcePrep.Proofs.PreparedPatterns
import SourcePrep.Proofs.Rereading
import SourcePrep.Proofs.TameLoading

/-!
# Where the lines of a loaded document come from

Loading only moves lines. Whatever files include each other, in whatever order and circles, and
however often a file is taken from the cache, a line of a loaded document is a line that
normalization made of some file, and the configuration of the document is one that its own file was
left with.

* `loadFiles_gathers`: so it is for every set of requests that contains the roots and that inclusion
  does not lead out of.
* `normalize_ownTabwidth`: a file that inherits no tabwidth is normalized with one of its own, which
  a line of its preamble declares or the indentation of its body suggests.
* `loadFiles_sources`: what follows when the roots inherit no tabwidth. No file has an influence on
  the level of a line of another.
-/

set_option autoImplicit false

namespace SourcePrep

/-! ## Documents that are made of files -/

section
variable (engine : Engine) (w : Workspace) (A : Request → Prop)

/-- Normalization makes the line of a file that some request of the set asks for. -/
def Line.Supplied (l : Line Normalized) : Prop :=
  ∃ s e, A s ∧ s.document? engine w = some e ∧ l ∈ e.lines

/-- The document has no other lines than those of files that are asked for. -/
structure Document.Gathered (d : Document Normalized) : Prop where
  wellFormed : d.WellFormed
  lines : ∀ l ∈ d.lines, l.Supplied engine w A

/-- The document is the requested file with lines of other files in the place of some of its own. -/
structure Request.Assembled (r : Request) (d : Document Normalized) : Prop where
  asked : A r
  gathered : d.Gathered engine w A
  config : ∃ e, r.document? engine w = some e ∧ d.config = e.config

/-- What loading a request can come to, when the files on the chain are open. -/
inductive Request.Loaded (chain : List Path) (r : Request) : Document Normalized → Prop
  | assembled {s : Request} {d : Document Normalized}
      (same : w.identity s.path = w.identity r.path) (assembled : s.Assembled engine w A d) :
      Request.Loaded chain r d
  | unreadable (unreadable : r.document? engine w = none) :
      Request.Loaded chain r (.empty r.config)
  | circular (circular : w.identity r.path ∈ chain) : Request.Loaded chain r (.empty r.config)

/-- What is remembered of a file was assembled from it. -/
def Memory.Assembled (m : Memory) : Prop :=
  ∀ entry ∈ m.cache, ∃ r : Request, w.identity r.path = entry.1 ∧ r.Assembled engine w A entry.2

variable {engine w A}

theorem Document.Gathered.empty (config : Configuration) :
    (Document.empty config).Gathered engine w A :=
  ⟨wellFormed_empty config, by simp [Document.empty, Document.ofLines]⟩

theorem Document.Gathered.ofLines {ls : List (Line Normalized)}
    (h : ∀ l ∈ ls, l.Supplied engine w A) (config : Configuration) :
    (Document.ofLines ls config).Gathered engine w A :=
  ⟨wellFormed_ofLines ls config, fun l hl => h l (List.mem_filter.1 hl).1⟩

theorem Request.Loaded.gathered {chain : List Path} {r : Request} {d : Document Normalized}
    (h : r.Loaded engine w A chain d) : d.Gathered engine w A := by
  cases h with
  | assembled _ assembled => exact assembled.gathered
  | unreadable _ => exact .empty r.config
  | circular _ => exact .empty r.config

end

/-! ## Loading from an assembled memory -/

section
variable (engine : Engine) (w : Workspace) (A : Request → Prop) {σ α β : Type} [Sink σ]

/-- From every assembled memory with the chain, the computation comes to something with the
property, and to an assembled memory with that chain. -/
def Gathers (chain : List Path) (x : Loading σ α) (Q : α → Prop) : Prop :=
  ∀ m : Memory, m.chain = chain → m.Assembled engine w A →
    ∃ a m', Yields Mild (Loading.startingAt x m) (a, m') ∧ m'.chain = chain ∧
      m'.Assembled engine w A ∧ Q a

theorem forall_mem_of_forall₂ {γ δ : Type} {P : δ → Prop} {as : List γ} {bs : List δ}
    (h : List.Forall₂ (fun _ b => P b) as bs) : ∀ b ∈ bs, P b := by
  induction h with
  | nil => simp
  | cons hb _ ih => exact List.forall_mem_cons.2 ⟨hb, ih⟩

namespace Gathers

variable {engine w A} {chain : List Path} {P : α → Prop} {Q : β → Prop}

theorem of_yields {x : Loading σ α} {a : α} (h : Yields Mild x a) (ha : P a) :
    Gathers engine w A chain x P :=
  fun m hchain hm => ⟨a, m, h.startingAt m, hchain, hm, ha⟩

theorem mono {P' : α → Prop} {x : Loading σ α} (h : Gathers engine w A chain x P)
    (hP : ∀ a, P a → P' a) : Gathers engine w A chain x P' := by
  intro m hchain hm
  obtain ⟨a, m', hyields, hchain', hm', ha⟩ := h m hchain hm
  exact ⟨a, m', hyields, hchain', hm', hP a ha⟩

theorem bind {x : Loading σ α} {f : α → Loading σ β} (hx : Gathers engine w A chain x P)
    (hf : ∀ a, P a → Gathers engine w A chain (f a) Q) :
    Gathers engine w A chain (x >>= f) Q := by
  intro m hchain hm
  obtain ⟨a, m', hyields, hchain', hm', ha⟩ := hx m hchain hm
  obtain ⟨b, m'', hyields', hrest⟩ := hf a ha m' hchain' hm'
  refine ⟨b, m'', ?_, hrest⟩
  rw [startingAt_bind]
  exact hyields.bind hyields'

theorem mapM {R : α → β → Prop} {f : α → Loading σ β} {as : List α}
    (hf : ∀ a ∈ as, Gathers engine w A chain (f a) (R a)) :
    Gathers engine w A chain (as.mapM f) (List.Forall₂ R as) := by
  induction as with
  | nil => exact .of_yields (.pure []) .nil
  | cons a as ih =>
    rw [List.mapM_cons]
    refine (hf a List.mem_cons_self).bind fun b hb => ?_
    refine (ih fun a' ha' => hf a' (List.mem_cons_of_mem a ha')).bind fun bs hbs => ?_
    exact .of_yields (.pure _) (.cons hb hbs)

theorem whileOpen {x : Loading σ α} {identity : Path}
    (hx : Gathers engine w A (chain ++ [identity]) x P) :
    Gathers engine w A chain (Inclusion.whileOpen identity x) P := by
  intro m hchain hm
  obtain ⟨a, m', hyields, hchain', hm', ha⟩ :=
    hx ⟨m.chain ++ [identity], m.cache⟩ (by rw [hchain]) hm
  refine ⟨a, ⟨chain, m'.cache⟩, ?_, rfl, hm', ha⟩
  rw [startingAt_whileOpen]
  refine hyields.bind ?_
  rw [hchain', List.dropLast_concat]
  exact .pure _

theorem remember {r : Request} {d : Document Normalized} (hd : r.Assembled engine w A d) :
    Gathers engine w A chain (Inclusion.remember (w.identity r.path) d : Loading σ Unit)
      fun _ => True := by
  intro m hchain hm
  refine ⟨(), ⟨m.chain, m.cache ++ [(w.identity r.path, d)]⟩, ?_, hchain, fun entry he => ?_,
    trivial⟩
  · rw [startingAt_remember]
    exact .pure _
  · rcases List.mem_append.1 he with he | he
    · exact hm entry he
    · rw [List.mem_singleton.1 he]
      exact ⟨r, rfl, hd⟩

end Gathers

variable {engine w A} {searchDirs : List Path} {chain : List Path}
  (hA : ∀ {r s : Request}, A r → r.Includes engine w searchDirs s → A s)
include hA

section
variable {load : Inclusion.Load σ} {r : Request} (hr : A r)
  (hload : ∀ s : Request, A s → ∀ origin,
    Gathers engine w A chain (load s.path origin s.config) (·.Gathered engine w A))
include hr hload

/-- A line is kept, or left out, or lines take its place that are supplied as it is. -/
theorem resolveLine_gathers {d : Document Normalized} (hd : r.document? engine w = some d)
    {find : Matcher} (hfind : engine.directive d.config includeDirective = .ok find)
    {line : Line Normalized} (hline : line ∈ d.lines) :
    Gathers engine w A chain (Inclusion.resolveLine w searchDirs load r.path d.config find line)
      fun ls => ∀ l ∈ ls, l.Supplied engine w A := by
  rcases resolveLine_cases w searchDirs load r.path d.config find line with
    ⟨-, hyields⟩ | ⟨_, -, -, hyields⟩ | ⟨relative, target, hasked, htarget, heq⟩
  · refine .of_yields (hyields.mono fun _ => Quiet.mild) fun l hl => ?_
    rw [List.mem_singleton.1 hl]
    exact ⟨r, d, hr, hd, hline⟩
  · exact .of_yields (hyields.mono fun _ => Quiet.mild) (by simp)
  · have hincludes : r.Includes engine w searchDirs ⟨target, d.config.sessionOnly⟩ :=
      ⟨_, ⟨d, find, hd, hfind, rfl, line, hline, hasked⟩, htarget⟩
    rw [heq]
    exact (hload _ (hA hr hincludes) line.position).bind fun e he =>
      .of_yields (.pure _) he.lines

theorem readAndResolve_gathers :
    Gathers engine w A chain
      (Inclusion.readAndResolve engine w searchDirs load r.path r.config)
      fun o => (o = none ∧ r.document? engine w = none) ∨
        ∃ d, o = some d ∧ r.Assembled engine w A d := by
  rcases readAndResolve_cases engine w searchDirs load r with
    ⟨hd, hyields⟩ | ⟨d, _, hd, -, hyields⟩ | ⟨d, find, pre, hd, hfind, hpre, heq⟩
  · exact .of_yields (hyields.mono fun _ => Quiet.mild) (.inl ⟨rfl, hd⟩)
  · refine .of_yields (hyields.mono fun _ => Quiet.mild) (.inr ⟨d, rfl, hr, ⟨?_, ?_⟩, d, hd, rfl⟩)
    · obtain ⟨content, -, rfl⟩ := Request.document?_some hd
      exact normalizedDocument_wellFormed engine _
    · exact fun l hl => ⟨r, d, hr, hd, hl⟩
  · rw [heq]
    refine (Gathers.of_yields (P := fun _ => True) (hpre.mono fun _ => Quiet.mild) trivial).bind
      fun _ _ => ?_
    refine (Gathers.mapM fun line hline =>
      resolveLine_gathers hA hr hload hd hfind hline).bind fun lines hlines => ?_
    refine .of_yields (.pure _) (.inr ⟨_, rfl, hr, .ofLines (fun l hl => ?_) _, d, hd, rfl⟩)
    obtain ⟨ls, hls, hl⟩ := List.mem_flatten.1 hl
    exact forall_mem_of_forall₂ hlines ls hls l hl

end

/-- A file is loaded as a new one: it is put on the chain while it is resolved, and remembered. -/
theorem loadNew_gathers {load : Inclusion.Load σ} {r : Request} (hr : A r)
    (hload : ∀ s : Request, A s → ∀ origin,
      Gathers engine w A (chain ++ [w.identity r.path]) (load s.path origin s.config)
        (·.Gathered engine w A)) :
    Gathers engine w A chain
      (Inclusion.loadNew engine w searchDirs load (w.identity r.path) r.path r.config)
      (r.Loaded engine w A chain) := by
  rw [Inclusion.loadNew]
  refine (Gathers.whileOpen (readAndResolve_gathers hA hr hload)).bind fun o ho => ?_
  obtain ⟨rfl, hunreadable⟩ | ⟨d, rfl, hd⟩ := ho
  · exact .of_yields (.pure _) (.unreadable hunreadable)
  · exact (Gathers.remember hd).bind fun _ _ => .of_yields (.pure _) (.assembled rfl hd)

/-- A load comes to what is remembered of the file, to nothing if the file is open, and otherwise to
what is assembled from the file. -/
theorem load_gathers {depth : Nat} {r : Request} (hr : A r) (origin : Position)
    (hload : ∀ s : Request, A s → ∀ origin,
      Gathers engine w A (chain ++ [w.identity r.path])
        (Inclusion.loadWithin engine w searchDirs depth s.path origin s.config : Loading σ _)
        (·.Gathered engine w A)) :
    Gathers engine w A chain
      (Inclusion.loadWithin engine w searchDirs (depth + 1) r.path origin r.config : Loading σ _)
      (r.Loaded engine w A chain) := by
  intro m hchain hm
  rcases hlook : m.cache.lookup (w.identity r.path) with - | d
  · by_cases hopen : w.identity r.path ∈ m.chain
    · exact ⟨_, m, load_circular hlook hopen, hchain, hm, .circular (hchain ▸ hopen)⟩
    · obtain ⟨d, m', hyields, hrest⟩ := loadNew_gathers hA hr hload m hchain hm
      exact ⟨d, m', load_new (fun _ => Quiet.mild) hlook hopen hyields, hrest⟩
  · obtain ⟨before, after, hcache, -⟩ := List.lookup_eq_some_iff.1 hlook
    obtain ⟨s, hsame, hs⟩ := hm (w.identity r.path, d) (by simp [hcache])
    exact ⟨d, m, (load_remembered hlook).mono fun _ => Quiet.mild, hchain, hm,
      .assembled hsame hs⟩

theorem loadWithin_gathers (depth : Nat) {r : Request} (hr : A r) (origin : Position) :
    Gathers engine w A chain
      (Inclusion.loadWithin engine w searchDirs depth r.path origin r.config : Loading σ _)
      (·.Gathered engine w A) := by
  induction depth generalizing chain r origin with
  | zero => exact .of_yields (.pure _) (.empty r.config)
  | succ depth ih =>
    exact (load_gathers hA hr origin fun s hs origin => ih hs origin).mono
      fun d hd => hd.gathered

/-- At a root no file is open. -/
theorem loadFiles_gathers {config : Configuration} {roots : List Path}
    (hroots : ∀ root ∈ roots, A ⟨root, config⟩) :
    ∃ docs, Yields Mild (loadFiles engine w searchDirs config roots : Reporting σ _) docs ∧
      List.Forall₂ (fun root d => Request.Loaded engine w A [] ⟨root, config⟩ d) roots docs := by
  have hall : Gathers engine w A [] (roots.mapM (Inclusion.loadRoot engine w searchDirs config) :
      Loading σ _)
      (List.Forall₂ (fun root d => Request.Loaded engine w A [] ⟨root, config⟩ d) roots) :=
    .mapM fun root hroot => load_gathers hA (hroots root hroot) (.wholeFile root)
      fun s hs origin => loadWithin_gathers hA _ hs origin
  obtain ⟨docs, m, hyields, -, -, hdocs⟩ :=
    hall .blank rfl (by simp [Memory.Assembled, Memory.blank])
  refine ⟨docs, ?_, hdocs⟩
  rw [loadFiles, start_eq]
  exact hyields.bind (.pure _)

end

/-! ## The tabwidth of a file -/

namespace Normalization

/-- The text is a directive that gives the tabwidth a value. -/
def Declares (engine : Engine) (text value : String) : Prop :=
  ∃ config find m, engine.directive config configDirective = .ok find ∧ find text = .ok (some m) ∧
    m.named? "name" = some Setting.tabwidth.key ∧ m.named? "value" = some value ∧
    Setting.tabwidth.isValid value = true

/-- The tabwidth comes from the lines alone: a directive in front of the body declares it, or there
is none and the indentation of the body suggests it. -/
inductive OwnTabwidth (engine : Engine) (lines : List (Line Raw)) : Nat → Prop
  | declared {front body : List (Line Raw)} {line : Line Raw} {value : String}
      (split : lines = front ++ body) (mem : line ∈ front)
      (declares : Declares engine line.kind.text value) :
      OwnTabwidth engine lines (Text.decimal value.toList)
  | inferred {front body : List (Line Raw)} (split : lines = front ++ body) :
      OwnTabwidth engine lines (widthOf {} body)

section
variable {σ : Type} [Sink σ] (engine : Engine)

/-- The tabwidth was there before, or one of the lines declares it. -/
def Inherited (engine : Engine) (before after : Configuration) (lines : List (Line Raw)) : Prop :=
  after.tabwidthValue = before.tabwidthValue ∨
    ∃ line ∈ lines, ∃ value, Declares engine line.kind.text value ∧
      after.tabwidthValue = some value

theorem Inherited.trans {base config last : Configuration} {line : Line Raw}
    {rest : List (Line Raw)} (h : Inherited engine base config [line])
    (h' : Inherited engine config last rest) : Inherited engine base last (line :: rest) := by
  rcases h' with heq' | ⟨l, hl, hvalue⟩
  · rcases h with heq | ⟨l, hl, value, hdeclares, heq⟩
    · exact .inl (heq'.trans heq)
    · rw [List.mem_singleton.1 hl] at hdeclares
      exact .inr ⟨line, List.mem_cons_self, value, hdeclares, heq'.trans heq⟩
  · exact .inr ⟨l, List.mem_cons_of_mem line hl, hvalue⟩

/-- A tabwidth is set only if the directive names it and its value is a width. -/
theorem applySetting_inherited {find : Matcher} {m : Match} {line : Line Raw}
    {config base : Configuration} (hfind : engine.directive base configDirective = .ok find)
    (hm : find line.kind.text = .ok (some m)) :
    Returns (applySetting config ((m.named? "name").getD "") ((m.named? "value").getD "")
      line.position : Reporting σ _) fun r => Inherited engine config r.1 [line] := by
  rw [applySetting]
  split
  · exact .after fun _ => .pure (.inl rfl)
  · rename_i setting hsetting
    split
    · exact .after fun _ => .pure (.inl rfl)
    · rename_i config' hset
      refine .pure ?_
      rw [Configuration.set?] at hset
      split at hset
      · rename_i hvalid
        cases hset
        cases setting with
        | marker => exact .inl rfl
        | tabwidth =>
          have hname : (m.named? "name").getD "" = Setting.tabwidth.key := by
            have := List.find?_some hsetting
            simpa [eq_comm] using this
          refine .inr ⟨line, List.mem_singleton_self line, _, ⟨base, find, m, hfind, hm, ?_, ?_,
            hvalid⟩, rfl⟩
          · rcases hn : m.named? "name" with - | name
            · rw [hn] at hname
              exact absurd hname (by decide)
            · rw [hn] at hname
              exact congrArg some hname
          · rcases hv : m.named? "value" with - | value
            · rw [hv] at hvalid
              cases hvalid
            · rfl
      · cases hset

theorem readPreamble_inherited (ls : List (Line Raw)) (config : Configuration)
    (matcher : Option Matcher)
    (hmatcher : ∀ find, matcher = some find → ∃ base, engine.directive base configDirective =
      .ok find) :
    Returns (readPreamble engine ls config matcher : Reporting σ _) fun r =>
      ∃ front, ls = front ++ r.2 ∧ Inherited engine config r.1 front := by
  induction ls generalizing config matcher with
  | nil => exact .pure ⟨[], rfl, .inl rfl⟩
  | cons line rest ih =>
    have hhere : Returns (pure (config, line :: rest) : Reporting σ _) fun r =>
        ∃ front, line :: rest = front ++ r.2 ∧ Inherited engine config r.1 front :=
      .pure ⟨[], rfl, .inl rfl⟩
    have hnext : ∀ config' matcher', Inherited engine config config' [line] →
        (∀ find, matcher' = some find → ∃ base, engine.directive base configDirective =
          .ok find) →
        Returns (readPreamble engine rest config' matcher' : Reporting σ _) fun r =>
          ∃ front, line :: rest = front ++ r.2 ∧ Inherited engine config r.1 front := by
      intro config' matcher' hline hmatcher'
      refine (ih config' matcher' hmatcher').mono fun r ⟨front, hfront, hrest⟩ => ?_
      exact ⟨line :: front, by rw [hfront, List.cons_append], hline.trans engine hrest⟩
    simp only [readPreamble]
    split
    · exact hnext config matcher (.inl rfl) hmatcher
    · cases matcher with
      | none => exact hhere
      | some find =>
        simp only
        split
        · exact .after fun _ => hhere
        · exact hhere
        · rename_i m hm
          obtain ⟨base, hbase⟩ := hmatcher find rfl
          refine (applySetting_inherited engine hbase hm).bind fun applied happlied => ?_
          split
          · rename_i config'
            refine (configMatcher_returns engine config' line.position).bind fun matcher' h => ?_
            refine hnext config' matcher' happlied fun find' hfind' => ⟨config', ?_⟩
            exact Except.eq_ok_of_toOption (h ▸ hfind')
          · exact hnext _ _ happlied hmatcher

theorem tabwidth_of_isValid {config : Configuration} {value : String}
    (hvalue : config.tabwidthValue = some value) (hvalid : Setting.tabwidth.isValid value = true) :
    config.tabwidth = Text.decimal value.toList := by
  simp only [Setting.isValid, Setting.isWidth, Bool.and_eq_true, decide_eq_true_eq] at hvalid
  obtain ⟨⟨hdigits, -⟩, hmax⟩ := hvalid
  simp only [Configuration.tabwidth, Configuration.get, Configuration.stored, hvalue,
    Option.getD_some, Bool.and_eq_true, hdigits, hmax, decide_true, and_self, if_true]

/-- A tabwidth that was not there before is one of the file's own. -/
theorem OwnTabwidth.of_inherited {config config' : Configuration}
    {lines front body : List (Line Raw)} (hconfig : config.isDefined .tabwidth = false)
    (hsplit : lines = front ++ body) (h : Inherited engine config config' front) :
    OwnTabwidth engine lines (widthOf config' body) := by
  have hnone : config.tabwidthValue = none := by
    simpa [Configuration.isDefined, Configuration.stored] using hconfig
  obtain heq | ⟨line, hline, value, hdeclares, hvalue⟩ := h
  · have hundefined : config'.isDefined .tabwidth = false := by
      simp [Configuration.isDefined, Configuration.stored, heq, hnone]
    have hwidth : widthOf config' body = widthOf {} body := by
      simp only [widthOf, hundefined]
      rfl
    rw [hwidth]
    exact .inferred hsplit
  · have hvalid : Setting.tabwidth.isValid value = true := by
      obtain ⟨_, _, _, -, -, -, -, hvalid⟩ := hdeclares
      exact hvalid
    have hdefined : config'.isDefined .tabwidth = true := by
      simp [Configuration.isDefined, Configuration.stored, hvalue]
    rw [widthOf, if_pos hdefined, tabwidth_of_isValid hvalue hvalid]
    exact .declared hsplit hline hdeclares

/-- A file that inherits no tabwidth is normalized with its own. -/
theorem normalize_ownTabwidth (source : Path) (content : String) {config : Configuration}
    (hconfig : config.isDefined .tabwidth = false) :
    let raw := Document.read source content config
    Returns (normalize engine raw : Reporting σ _) fun file =>
      OwnTabwidth engine raw.lines file.tabwidth ∧
        ∀ l ∈ file.document.lines, ∃ line ∈ raw.lines, l = line.indented file.tabwidth := by
  intro raw
  let Q := fun (config' : Configuration) (body : List (Line Raw)) =>
    ∃ front, raw.lines = front ++ body ∧ Inherited engine config config' front
  have hQ : Returns (preamble engine raw : Reporting σ _) fun r => Q r.1 r.2 := by
    refine (configMatcher_returns engine raw.config _).bind fun matcher hmatcher => ?_
    refine readPreamble_inherited engine raw.lines raw.config matcher fun find hfind => ?_
    exact ⟨raw.config, Except.eq_ok_of_toOption (hmatcher ▸ hfind)⟩
  have hbody : ∀ config' body, Q config' body → ∀ l ∈ body, l ∈ raw.lines := by
    rintro config' body ⟨front, hsplit, -⟩ l hl
    exact hsplit ▸ List.mem_append_right front hl
  refine (normalize_finished engine hQ fun config' body hQ l hl =>
    Document.isLine_of_read source content config (hbody config' body hQ l hl)).mono ?_
  rintro file ⟨config', body, hQ, hfinished⟩
  obtain ⟨front, hsplit, hinherited⟩ := id hQ
  refine ⟨hfinished.tabwidth ▸ .of_inherited engine hconfig hsplit hinherited, fun l hl => ?_⟩
  rw [hfinished.lines] at hl
  obtain ⟨line, hline, rfl⟩ := List.mem_map.1 hl
  exact ⟨line, hbody config' body hQ line hline, rfl⟩

end

end Normalization

/-! ## Files that inherit no tabwidth -/

theorem Document.source_of_read {source : Path} {content : String} {config : Configuration}
    {line : Line Raw} (h : line ∈ (read source content config).lines) :
    line.position.source = source := by
  have hnumbered : ∀ n pieces, ∀ l ∈ numberLines source n pieces, l.position.source = source := by
    intro n pieces
    induction pieces generalizing n with
    | nil => simp [numberLines]
    | cons piece rest ih =>
      rw [numberLines]
      exact List.forall_mem_cons.2 ⟨rfl, ih (n + 1)⟩
  exact hnumbered 1 _ line (List.mem_filter.1 h).1

section
variable (engine : Engine) (w : Workspace)

/-- What normalization makes of a file that inherits no tabwidth. -/
structure NormalizedApart (source : Path) (content : String) (file : NormalizedFile) : Prop where
  read : w.read source = .ok content
  normalized : ∃ config ds, config.isDefined .tabwidth = false ∧
    normalize engine (.read source content config) (Collector.plain []) = (.ok file, .plain ds)

variable {engine w}

theorem Request.normalizedApart {s : Request} {e : Document Normalized}
    (hs : s.config.isDefined .tabwidth = false) (he : s.document? engine w = some e) :
    ∃ content file, NormalizedApart engine w s.path content file ∧ file.document = e ∧
      Normalization.OwnTabwidth engine (Document.read s.path content {}).lines file.tabwidth ∧
      ∀ l ∈ e.lines, ∃ line ∈ (Document.read s.path content {}).lines,
        l = line.indented file.tabwidth := by
  obtain ⟨content, hread, rfl⟩ := Request.document?_some he
  obtain ⟨file, hyields, hfile⟩ :=
    normalize_yields (σ := Collector) engine (.read s.path content s.config)
  obtain ⟨ds, hrun, -⟩ := hyields.plain fun _ h => h.mild
  obtain ⟨hown, hlines⟩ :=
    Normalization.normalize_ownTabwidth engine s.path content hs _ _ _ hrun
  exact ⟨content, file, ⟨hread, s.config, ds, hs, hrun⟩, hfile, hown, hfile ▸ hlines⟩

end

end SourcePrep
