import Statechart.Project.Configuration
import Statechart.Proofs.Table
import Statechart.Proofs.Work

/-!
# Variables that override a configuration

Five variables decide options of the logging section (`Overridden`). A configuration that is made from a section has
what they say (`Project.overridden_of_build`), whatever file the section was found in. Two configurations are made from
no section: the one for a project file without a table of ours, and the one where no file is found
(`Project.Unsupplied`). These are the defaults, and the variables are not asked
(`Project.overridden_unless_unsupplied`).
-/

set_option autoImplicit false
set_option relaxedAutoImplicit false

namespace Statechart

/-! ### What variables say -/

/-- A word that stands for a truth value; case and blanks around it do not count. -/
def Flag.IsWord (b : Bool) (s : String) : Prop :=
  Text.lower (Text.trim s) ∈ match b with
    | true => Flag.yes
    | false => Flag.no

namespace Override

/-- What a variable says of its option, if it is set, not empty, and can be converted. -/
def says? (o : Override) (env : Environment) : Option Value := (o.given? env).bind fun s ↦ (o.convert s).toOption

/-- The value of the option: from the variable, else from the section, else the default. -/
def choose (o : Override) (env : Environment) (given : Entries) (default : Value) : Value :=
  (o.says? env).getD ((Entries.get? given o.option).getD default)

end Override

/-- The options of a section and the variables that override them. -/
def LoggingConfig.resolve (env : Environment) (given : Entries) : LoggingConfig :=
  let defaults : LoggingConfig := {}
  { level := Override.level.choose env given defaults.level
    format := Override.format.choose env given defaults.format
    outputFile := Override.outputFile.choose env given defaults.outputFile
    useColor := Override.useColor.choose env given defaults.useColor
    includeTimestamp := Override.includeTimestamp.choose env given defaults.includeTimestamp }

/-- Options are what the variables say, those that are set and not empty. -/
structure Overridden (env : Environment) (c : LoggingConfig) : Prop where
  level : ∀ s, env.lookup "HEXCHART_LOG_LEVEL" = some s → s ≠ "" → c.level = .text (Text.upper s)
  format : ∀ s, env.lookup "HEXCHART_LOG_FORMAT" = some s → s ≠ "" → c.format = .text (Text.lower s)
  outputFile : ∀ s, env.lookup "HEXCHART_LOG_FILE" = some s → s ≠ "" → c.outputFile = .text s
  useColor : ∀ s b, env.lookup "HEXCHART_LOG_COLOR" = some s → Flag.IsWord b s → c.useColor = .bool b
  includeTimestamp : ∀ s b, env.lookup "HEXCHART_LOG_TIMESTAMP" = some s → Flag.IsWord b s →
    c.includeTimestamp = .bool b

section

variable {env : Environment} {options : Entries} {s : String} {b : Bool}

theorem Flag.parse_of_isWord (h : IsWord b s) : parse s = .ok b := by
  unfold IsWord at h
  unfold parse
  cases b with
  | true => simp [h]
  | false =>
    have hno : ∀ word ∈ no, word ∉ yes := by decide
    simp [h, hno _ h]

theorem Flag.ne_empty_of_isWord (h : IsWord b s) : s ≠ "" := by
  rintro rfl
  have hempty : Text.lower (Text.trim "") = "" := by
    simp [Text.lower, Text.trim, Text.trimChars, Text.trimLeft, Text.trimRight, Text.lowerFrom]
  unfold IsWord at h
  rw [hempty] at h
  cases b with
  | true => exact absurd h (by decide)
  | false => exact absurd h (by decide)

/-- What a variable says that can be converted decides its option. -/
theorem Override.choose_of_given (o : Override) {default v : Value} (hs : env.lookup o.source = some s) (hne : s ≠ "")
    (hv : o.convert s = .ok v) : o.choose env options default = v := by
  simp [choose, says?, given?, hs, hne, hv, Except.toOption]

/-- A variable that holds a word for a truth value decides its option. -/
theorem Override.choose_of_isWord (o : Override) {default : Value} (ho : o.convert = flag)
    (hs : env.lookup o.source = some s) (hword : Flag.IsWord b s) : o.choose env options default = .bool b := by
  refine o.choose_of_given hs (Flag.ne_empty_of_isWord hword) ?_
  rw [ho, flag, Flag.parse_of_isWord hword]
  rfl

theorem overridden_resolve (env : Environment) (options : Entries) :
    Overridden env (LoggingConfig.resolve env options) where
  level s hs hne := by
    simp only [LoggingConfig.resolve]
    exact Override.choose_of_given .level hs hne rfl
  format s hs hne := by
    simp only [LoggingConfig.resolve]
    exact Override.choose_of_given .format hs hne rfl
  outputFile s hs hne := by
    simp only [LoggingConfig.resolve]
    exact Override.choose_of_given .outputFile hs hne rfl
  useColor s b hs hword := by
    simp only [LoggingConfig.resolve]
    exact Override.choose_of_isWord .useColor (by simp only [Override.useColor]) hs hword
  includeTimestamp s b hs hword := by
    simp only [LoggingConfig.resolve]
    exact Override.choose_of_isWord .includeTimestamp (by simp only [Override.includeTimestamp]) hs hword

end

/-! ### One variable after another -/

namespace Override

variable {env : Environment} {entries : Entries} {o : Override} {os : List Override} {name : String}

/-- The options with what a variable says in its place. -/
def lay (env : Environment) (options : Entries) (o : Override) : Entries :=
  match o.says? env with
  | some v => Entries.insert options (.text o.option) v
  | none => options

theorem get?_lay (env : Environment) (entries : Entries) (o : Override) (name : String) :
    Entries.get? (o.lay env entries) name =
      if name = o.option then (o.says? env).or (Entries.get? entries name) else Entries.get? entries name := by
  unfold lay
  cases o.says? env with
  | none => simp
  | some v =>
    have htext : (Value.text o.option).asText? = some name ↔ name = o.option := by simp [Value.asText?, eq_comm]
    change Entries.get? (Entries.insert entries (.text o.option) v) name = _
    rw [Entries.get?_insert entries rfl, Option.some_or]
    simp only [htext]

/-- Variables of other options leave an option alone. -/
theorem get?_foldl_lay_of_ne (h : name ∉ os.map option) :
    Entries.get? (os.foldl (lay env) entries) name = Entries.get? entries name := by
  induction os generalizing entries with
  | nil => rfl
  | cons o rest ih =>
    rw [List.map_cons, List.mem_cons, not_or] at h
    rw [List.foldl_cons, ih h.2, get?_lay, if_neg h.1]

/-- Of variables for different options each decides its own, wherever it stands among the others. -/
theorem get?_foldl_lay (hdistinct : (os.map option).Nodup) (ho : o ∈ os) :
    Entries.get? (os.foldl (lay env) entries) o.option = (o.says? env).or (Entries.get? entries o.option) := by
  induction os generalizing entries with
  | nil => cases ho
  | cons first rest ih =>
    obtain ⟨hnew, hrest⟩ := List.nodup_cons.mp hdistinct
    rw [List.foldl_cons]
    rcases List.mem_cons.mp ho with rfl | ho
    · rw [get?_foldl_lay_of_ne hnew, get?_lay, if_pos rfl]
    · have hother : o.option ≠ first.option := fun heq ↦ hnew (heq ▸ List.mem_map_of_mem ho)
      rw [ih hrest ho, get?_lay, if_neg hother]

theorem distinct_all : (all.map option).Nodup := by decide

end Override

/-- Laid over the options of a section one after another, the variables decide what they decide alone. -/
theorem LoggingConfig.ofOptions_foldl (env : Environment) (given : Entries) :
    ofOptions (Override.all.foldl (Override.lay env) (optionsOf given)) = resolve env given := by
  have hoption {o : Override} {default : Value} (ho : o ∈ Override.all)
      (hdefault : (fields {}).lookup o.option = some default) :
      Entries.get? (Override.all.foldl (Override.lay env) (optionsOf given)) o.option =
        some (o.choose env given default) := by
    have hgiven : Entries.get? (optionsOf given) o.option =
        some ((Entries.get? given o.option).getD default) := by
      have hnamed : optionsOf given =
          Entries.named ((fields {}).map fun f ↦ (f.1, (Entries.get? given f.1).getD f.2)) := by
        simp [optionsOf, Entries.named]
      rw [hnamed, Entries.get?_named, Entries.lookup_map (fields {}) fun name ↦ (Entries.get? given name).getD, hdefault]
      rfl
    rw [Override.get?_foldl_lay Override.distinct_all ho, hgiven, Override.choose]
    cases o.says? env <;> rfl
  have hlevel := hoption (o := .level) (by simp [Override.all]) rfl
  have hformat := hoption (o := .format) (by simp [Override.all]) rfl
  have hfile := hoption (o := .outputFile) (by simp [Override.all]) rfl
  have hcolor := hoption (o := .useColor) (by simp [Override.all]) rfl
  have htime := hoption (o := .includeTimestamp) (by simp [Override.all]) rfl
  unfold ofOptions resolve
  simp only [LoggingConfig.mk.injEq]
  exact ⟨congrArg (·.getD .null) hlevel, congrArg (·.getD .null) hformat, congrArg (·.getD .null) hfile,
    congrArg (·.getD .null) hcolor, congrArg (·.getD .null) htime⟩

namespace Project

open Work

variable {p q : Project} {path : Path} {options : Value} {c : Config} {r : Reading}

/-! ### A configuration made from a section -/

theorem isQuiet_remark (level text : String) : IsQuiet (remark level text) := .note _

/-- A variable is laid over the options, and nothing else is done but that a line may be written. -/
theorem on_override (entries : Entries) (o : Override) (p : Project) :
    ∃ journal, (override entries o).on p = (.ok (o.lay p.environment entries), { p with journal }) := by
  unfold override
  rw [on_get_bind]
  cases hs : o.given? p.environment with
  | none => exact ⟨p.journal, by simp [Override.lay, Override.says?, hs]⟩
  | some s =>
    cases hv : o.convert s with
    | error text =>
      have hsays : o.says? p.environment = none := by simp [Override.says?, hs, hv, Except.toOption]
      refine ⟨.record part "WARNING" ("Ignoring " ++ o.source ++ ": " ++ text) :: p.journal, ?_⟩
      simp only [Override.lay, hsays, hv]
      rfl
    | ok v =>
      have hsays : o.says? p.environment = some v := by simp [Override.says?, hs, hv, Except.toOption]
      refine ⟨.record part "DEBUG" ("logging." ++ o.option ++ " taken from " ++ o.source) :: p.journal, ?_⟩
      simp only [Override.lay, hsays, hv]
      rfl

/-- All variables are laid over the options, whatever those before them hold. -/
theorem on_overrides (os : List Override) (entries : Entries) (p : Project) :
    ∃ journal, (os.foldlM override entries).on p =
      (.ok (os.foldl (Override.lay p.environment) entries), { p with journal }) := by
  induction os generalizing entries p with
  | nil => exact ⟨p.journal, rfl⟩
  | cons o rest ih =>
    obtain ⟨noted, hfirst⟩ := on_override entries o p
    obtain ⟨journal, hrest⟩ := ih (o.lay p.environment entries) { p with journal := noted }
    refine ⟨journal, ?_⟩
    rw [List.foldlM_cons, on_bind, hfirst]
    exact hrest

/-- The configuration of logging is always made, and each option is what its own variable decides. -/
theorem on_loggingConfig (given : Entries) (p : Project) :
    ∃ journal, (loggingConfig given).on p = (.ok (.resolve p.environment given), { p with journal }) := by
  obtain ⟨journal, hlaid⟩ := on_overrides Override.all (LoggingConfig.optionsOf given) p
  refine ⟨journal, ?_⟩
  unfold loggingConfig
  rw [on_bind, hlaid, ← LoggingConfig.ofOptions_foldl]
  rfl

theorem isQuiet_loggingConfig (given : Entries) : IsQuiet (loggingConfig given) := by
  intro p
  obtain ⟨journal, hmade⟩ := on_loggingConfig given p
  exact ⟨journal, by rw [hmade]⟩

theorem isQuiet_expand (v : Value) : IsQuiet (expand v) := by
  have hfilled : IsQuiet (do
      let env := (← get).environment
      (Placeholder.unsetIn env v).forM fun name ↦ remark "DEBUG" ("No environment value for " ++ name)
      return Placeholder.expand env v) :=
    IsQuiet.get.bind fun _ ↦ (IsQuiet.forM fun _ ↦ isQuiet_remark _ _).bind fun _ ↦ .pure _
  unfold expand
  split
  · exact (IsQuiet.throw _).bind fun _ ↦ hfilled
  · exact hfilled

theorem isQuiet_yamlSection (path : Path) : IsQuiet (yamlSection path) := IsQuiet.get.bind fun _ ↦ .ofOutcome _

theorem isQuiet_readToml (path : Path) : IsQuiet (readToml path) :=
  IsQuiet.get.bind fun _ ↦ (IsQuiet.ofOutcome _).bind fun _ ↦ .ofOutcome _

theorem isQuiet_tomlSection (path : Path) : IsQuiet (tomlSection path) := by
  refine (isQuiet_readToml path).bind fun document ↦ (IsQuiet.ofOutcome _).bind fun ours ↦ ?_
  split
  · exact .pure _
  · split
    · exact (isQuiet_remark _ _).bind fun _ ↦ .pure _
    · exact .pure _

/-- A configuration has the logging options that it is made with, and the settings of its section. -/
theorem ofParts_eq_ok {logging : LoggingConfig} (h : Config.ofParts logging options = .ok c) :
    c.logging = logging ∧ ∃ v, Config.part? options "settings" = .ok v ∧ c.settings = v.getD (.table []) := by
  unfold Config.ofParts at h
  obtain ⟨machines?, -, h⟩ := ok_of_bind h
  cases machines?
  all_goals
    obtain ⟨_, -, h⟩ := ok_of_bind h
    obtain ⟨newsletter?, -, h⟩ := ok_of_bind h
    cases newsletter?
    all_goals
      obtain ⟨_, -, h⟩ := ok_of_bind h
      obtain ⟨settings, hsettings, h⟩ := ok_of_bind h
      cases h
      exact ⟨rfl, settings, hsettings, rfl⟩

/-- Variables override what a section says. -/
theorem overridden_of_build (h : (build options).on p = (.ok c, q)) : Overridden p.environment c.logging := by
  unfold build at h
  obtain ⟨given, between, hgiven, h⟩ := ok_of_on_bind h
  obtain ⟨-, rfl⟩ := Prod.mk.inj hgiven
  obtain ⟨logging, after, hlogging, h⟩ := ok_of_on_bind h
  obtain ⟨journal, hresolved⟩ := on_loggingConfig given p
  cases hresolved.symm.trans hlogging
  obtain ⟨c', last, hparts, h⟩ := ok_of_on_bind h
  obtain ⟨_, _, -, h⟩ := ok_of_on_bind h
  obtain ⟨_, _, -, h⟩ := ok_of_on_bind h
  obtain rfl : c' = c := by cases h; rfl
  rw [on_ofOutcome, Prod.mk.injEq] at hparts
  rw [(ofParts_eq_ok hparts.1).1]
  exact overridden_resolve _ _

theorem overridden_of_expand_build {v : Value} (h : (expand v >>= build).on p = (.ok c, q)) :
    Overridden p.environment c.logging := by
  obtain ⟨options, between, hexpand, h⟩ := ok_of_on_bind h
  obtain ⟨journal, rfl⟩ := (isQuiet_expand v).after hexpand
  have hbuilt := overridden_of_build h
  exact hbuilt

/-! ### Reading a file -/

/-- A document that has no table of ours, or an empty one. -/
def HasNoTable (document : Entries) : Prop :=
  ∀ tool v, Entries.get? document "tool" = some (.table tool) → Entries.get? tool "hexchart" = some v →
    v.isTruthy = false

/-- A project file without a table of ours, or with an empty one. -/
def IsEmptyProject (p : Project) (path : Path) : Prop :=
  path.name = projectFile ∧
    ∃ document, (p.files.read p.directory path >>= Files.decode >>= Toml.load) = .ok document ∧ HasNoTable document

theorem readToml_on (path : Path) (p : Project) :
    (readToml path).on p = (p.files.read p.directory path >>= Files.decode >>= Toml.load, p) := by
  unfold readToml
  rw [on_get_bind, on_bind, on_ofOutcome]
  cases p.files.read p.directory path >>= Files.decode with
  | error f => rfl
  | ok text => rfl

theorem hasNoTable_iff {document : Entries} {ours : Option Value}
    (h : (match Entries.get? document "tool" with
      | none => .ok none
      | some (.table tool) => .ok (Entries.get? tool "hexchart")
      | some _ => .error (.plain .missingAttribute) : Outcome (Option Value)) = .ok ours) :
    HasNoTable document ↔ ours.filter Value.isTruthy = none := by
  unfold HasNoTable
  split at h
  · next hnone =>
    cases h
    simp [hnone]
  · next tool htool =>
    cases h
    rw [htool, Option.filter_eq_none_iff]
    refine ⟨fun hfalse v hv ↦ Bool.not_eq_true _ ▸ hfalse tool v rfl hv, fun hfalse tool' v htool' hv ↦ ?_⟩
    obtain rfl : tool = tool' := by
      cases htool'
      rfl
    exact Bool.not_eq_true _ ▸ hfalse v hv
  · cases h

/-- The section of a table file is missing exactly in a project file without a table of ours. -/
theorem tomlSection_eq_none_iff {o : Option Value} (h : (tomlSection path).on p = (.ok o, q)) :
    o = none ↔ IsEmptyProject p path := by
  unfold tomlSection at h
  obtain ⟨document, between, hread, h⟩ := ok_of_on_bind h
  rw [readToml_on, Prod.mk.injEq] at hread
  obtain ⟨ours, after, hours, h⟩ := ok_of_on_bind h
  rw [on_ofOutcome, Prod.mk.injEq] at hours
  have htable : HasNoTable document ↔ ours.filter Value.isTruthy = none := hasNoTable_iff hours.1
  have hempty : IsEmptyProject p path ↔ path.name = projectFile ∧ ours.filter Value.isTruthy = none := by
    simp [IsEmptyProject, hread.1, htable]
  rw [hempty]
  split at h
  · next v hv =>
    cases h
    simp [hv]
  · next hnone =>
    split at h
    · next hname =>
      obtain ⟨_, _, -, h⟩ := ok_of_on_bind h
      cases h
      simp [hnone, eq_of_beq hname]
    · next hname =>
      cases h
      simpa [hnone] using hname

theorem suffix_of_projectFile (h : path.name = projectFile) : path.suffix = ".toml" := by
  unfold Path.suffix
  rw [h]
  decide

/-- A file gives a configuration that the variables override, unless it is a project file without a table of ours. -/
theorem cases_of_parse (h : (parse path).on p = (.ok c, q)) :
    IsEmptyProject p path ∧ c = {} ∨ ¬ IsEmptyProject p path ∧ Overridden p.environment c.logging := by
  unfold parse at h
  obtain ⟨_, noted, hnoted, h⟩ := ok_of_on_bind h
  obtain ⟨journal, rfl⟩ := (isQuiet_remark _ _).after hnoted
  split at h
  · next hyaml =>
    have hname : path.name ≠ projectFile := by
      intro hname
      rw [suffix_of_projectFile hname] at hyaml
      exact absurd hyaml (by decide)
    obtain ⟨options, between, hsection, h⟩ := ok_of_on_bind h
    obtain ⟨v, hyaml, rfl⟩ := ok_of_on_map hsection
    obtain ⟨journal, rfl⟩ := (isQuiet_yamlSection _).after hyaml
    have hbuilt := overridden_of_expand_build h
    exact .inr ⟨fun hempty ↦ hname hempty.1, hbuilt⟩
  · next =>
    obtain ⟨options, between, hsection, h⟩ := ok_of_on_bind h
    have hmissing := tomlSection_eq_none_iff hsection
    cases options with
    | none =>
      cases h
      exact .inl ⟨hmissing.mp rfl, rfl⟩
    | some v =>
      obtain ⟨journal, rfl⟩ := (isQuiet_tomlSection _).after hsection
      have hbuilt := overridden_of_expand_build h
      exact .inr ⟨fun hempty ↦ Option.some_ne_none v (hmissing.mpr hempty), hbuilt⟩

/-! ### Finding and reading a file -/

theorem isQuiet_has (path : Path) : IsQuiet (has path) := IsQuiet.get.bind fun _ ↦ .ofOutcome _

theorem isQuiet_nearest? (directories : List Path) : IsQuiet (nearest? directories) := by
  induction directories with
  | nil => exact .pure _
  | cons directory rest ih =>
    refine (isQuiet_has _).bind fun isThere ↦ ?_
    split
    · refine ((isQuiet_readToml _).bind fun _ ↦ .ofOutcome _).bind fun isOurs ↦ ?_
      split
      · exact .pure _
      · exact ih
    · exact ih

theorem isQuiet_named? : IsQuiet named? := by
  refine IsQuiet.get.bind fun p ↦ ?_
  split
  · exact .pure _
  · exact .pure _
  · refine (isQuiet_has _).bind fun isThere ↦ ?_
    split
    · exact .pure _
    · exact (isQuiet_remark _ _).bind fun _ ↦ .pure _

theorem isQuiet_discover? : IsQuiet discover? := by
  refine isQuiet_named?.bind fun named ↦ ?_
  split
  · exact .pure _
  · refine (isQuiet_has _).bind fun isThere ↦ ?_
    split
    · exact .pure _
    · exact IsQuiet.get.bind fun _ ↦ isQuiet_nearest? _

theorem isQuiet_locate (path : Option Path) : IsQuiet (locate path) := by
  unfold locate
  split
  · refine (isQuiet_has _).bind fun isThere ↦ ?_
    split
    · exact .pure _
    · exact .throw _
  · refine isQuiet_discover?.bind fun found ↦ ?_
    split
    · exact .pure _
    · exact .throw _

theorem config_of_reading {o : Outcome Reading} (h : (reading c).on p = (o, q)) :
    ∃ number, o = .ok ⟨number, c⟩ := by
  cases h
  exact ⟨p.readings, rfl⟩

/-- Where nothing was read before, a file is read. -/
theorem parse_of_parseKept (hcache : p.cache = []) (h : (parseKept path).on p = (.ok r, q)) :
    ∃ after, (parse path).on p = (.ok r.config, after) := by
  unfold parseKept at h
  rw [on_get_bind] at h
  simp only [hcache, List.lookup_nil] at h
  obtain ⟨c, after, hparse, h⟩ := ok_of_on_bind h
  obtain ⟨r', between, hreading, h⟩ := ok_of_on_bind h
  obtain ⟨number, hr⟩ := config_of_reading hreading
  cases hr
  rw [on_modify_bind] at h
  cases h
  exact ⟨after, hparse⟩

/-- No section gives the configuration: no file is found, or a project file without a table of ours. -/
inductive Unsupplied (p : Project) (path : Option Path) : Prop
  | missing {text : Option String} {q : Project} (h : (loadFile path).on p = (.error (.fault .fileNotFound text), q))
  | empty {file : Path} {q : Project} (hfile : (locate path).on p = (.ok file, q))
      (h : IsEmptyProject p (p.directory.below file))

/-- A path that is named and leads to nothing supplies no section. -/
theorem Unsupplied.of_absent (h : p.files.has p.directory path = .ok false) : Unsupplied p (some path) := by
  have habsent : (has path).on p = (.ok false, p) := by
    unfold has
    rw [on_get_bind, on_ofOutcome, h]
  have hlocate : ∃ text, (locate (some path)).on p = (.error (.fault .fileNotFound text), p) := by
    unfold locate
    rw [on_bind, habsent]
    exact ⟨_, rfl⟩
  obtain ⟨text, hlocate⟩ := hlocate
  have hfails : (loadFile (some path)).on p = (.error (.fault .fileNotFound text), p) := by
    unfold loadFile
    rw [on_bind, hlocate]
  exact .missing hfails

/-- A file that is read gives the defaults if it has no section, and otherwise what variables override. -/
theorem cases_of_loadFile {path : Option Path} (hcache : p.cache = []) (h : (loadFile path).on p = (.ok r, q)) :
    Unsupplied p path ∧ r.config = {} ∨ ¬ Unsupplied p path ∧ Overridden p.environment r.config.logging := by
  have hloads := h
  unfold loadFile at h
  obtain ⟨file, between, hfile, h⟩ := ok_of_on_bind h
  have hunsupplied : Unsupplied p path ↔ IsEmptyProject p (p.directory.below file) := by
    refine ⟨fun hnone ↦ ?_, fun hempty ↦ .empty hfile hempty⟩
    cases hnone with
    | missing hmissing => cases hloads.symm.trans hmissing
    | empty hfile' hempty =>
      cases hfile.symm.trans hfile'
      exact hempty
  obtain ⟨journal, rfl⟩ := (isQuiet_locate path).after hfile
  rw [on_get_bind] at h
  obtain ⟨after, hparse⟩ := parse_of_parseKept (by exact hcache) h
  have hparsed := cases_of_parse hparse
  rw [hunsupplied]
  exact hparsed

/-- Which configuration is loaded. Assumes: nothing was read before, and loading returns. If no file is found, or a
project file without a table of ours or with an empty one, these are the defaults, whatever variables say. Otherwise
every variable that is set, not empty and, where a truth value is needed, a word for one decides its option. -/
theorem overridden_unless_unsupplied {path : Option Path} (hcache : p.cache = []) (h : (load path).on p = (.ok r, q)) :
    (Unsupplied p path → r.config = {}) ∧ (¬ Unsupplied p path → Overridden p.environment r.config.logging) := by
  unfold load at h
  rw [on_tryCatch] at h
  split at h
  · next hloads =>
    cases h
    rcases cases_of_loadFile hcache hloads with ⟨hnone, hconfig⟩ | ⟨hsome, hoverridden⟩
    · exact ⟨fun _ ↦ hconfig, fun hsome ↦ absurd hnone hsome⟩
    · exact ⟨fun hnone ↦ absurd hnone hsome, fun _ ↦ hoverridden⟩
  · next f between hfails =>
    split at h
    · next text =>
      have hnone : Unsupplied p path := .missing hfails
      obtain ⟨_, noted, -, h⟩ := ok_of_on_bind h
      obtain ⟨number, hr⟩ := config_of_reading h
      cases hr
      exact ⟨fun _ ↦ rfl, fun hsome ↦ absurd hnone hsome⟩
    · cases h

/-! ### Variables that are asked, and variables that are not -/

/-- A project with nothing in it but a variable for the level. -/
def bare : Project := { environment := [("HEXCHART_LOG_LEVEL", "debug")] }

/-- The same with a file that says nothing. -/
def furnished : Project := { bare with files := { contents := [(["options.toml"], [])] } }

theorem upper_debug : Text.upper "debug" = "DEBUG" := by decide

/-- The level is that of the variable when a file is read, though it says nothing. -/
theorem overridden_unless_unsupplied_of_furnished :
    ∃ r q, (load (some (.ofText "options.toml"))).on furnished = (.ok r, q) ∧
      r.config.logging.level = .text "DEBUG" := by
  have hpath : Path.ofText "options.toml" = ⟨"", ["options.toml"]⟩ := by decide
  rw [hpath]
  obtain ⟨r, q, hload, hloads⟩ : ∃ r q, (load (some ⟨"", ["options.toml"]⟩)).on furnished = (.ok r, q) ∧
      (loadFile (some ⟨"", ["options.toml"]⟩)).on furnished = (.ok r, q) := ⟨_, _, rfl, rfl⟩
  have hsupplied : ¬ Unsupplied furnished (some ⟨"", ["options.toml"]⟩) := by
    intro h
    cases h with
    | missing h => cases hloads.symm.trans h
    | empty hfile h =>
      cases hfile
      exact absurd h.1 (by decide)
  refine ⟨r, q, hload, ?_⟩
  rw [← upper_debug]
  exact ((overridden_unless_unsupplied rfl hload).2 hsupplied).level "debug" rfl (by decide)

/-- The level is the default when nothing is found to read, whatever the variable says. -/
theorem not_overridden_of_bare :
    ¬ ∀ p path r q, p.cache = [] → (load path).on p = (.ok r, q) → Overridden p.environment r.config.logging := by
  intro h
  obtain ⟨r, q, hload, hconfig⟩ : ∃ r q, (load none).on bare = (.ok r, q) ∧ r.config = {} := ⟨_, _, rfl, rfl⟩
  have hlevel : r.config.logging.level = .text (Text.upper "debug") :=
    (h bare none r q rfl hload).level "debug" rfl (by decide)
  rw [hconfig, upper_debug] at hlevel
  exact absurd (Value.text.inj hlevel) (by decide)

end Project

end Statechart
