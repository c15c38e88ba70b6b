import Statechart.Proofs.Handlers
import Statechart.Proofs.Loading
import Statechart.Proofs.Overrides
import Statechart.Proofs.Tabulation

/-!
# Logging at the start of a command

Before a command is done, logging is set up as the project says. A configuration that is refused with a failure of the
library is shown in a line, and logging stays as it was. The failures of the library come from documents that are no
configuration and from values of the newsletter section. All others end the command: `Project.Faulty` tells them apart
by what is found in the files, with `Project.IsTyped` for the parts of a section, and `Logging.Inapplicable` tells which
settings cannot be set up. `CommandLine.Startup` says what becomes of a session in each case, and
`CommandLine.kept_unless_faulty` that there is no other case.
-/

set_option autoImplicit false
set_option relaxedAutoImplicit false

namespace Statechart

/-! ### Work that leaves logging alone -/

namespace Work

variable {α β : Type} {p q : Project} {f : Failure}

/-- Nothing is done to the handlers and to the settings on record. -/
def KeepsLogging (w : Work α) : Prop := ∀ p, (w.on p).2.logging = p.logging

theorem IsQuiet.keepsLogging {w : Work α} (h : IsQuiet w) : KeepsLogging w := by
  intro p
  obtain ⟨journal, hq⟩ := h p
  rw [hq]

theorem KeepsLogging.bind {x : Work α} {k : α → Work β} (hx : KeepsLogging x) (hk : ∀ a, KeepsLogging (k a)) :
    KeepsLogging (x >>= k) := by
  intro p
  have hfirst := hx p
  rw [on_bind]
  split
  · next a between h =>
    rw [h] at hfirst
    exact (hk a between).trans hfirst
  · next e between h =>
    rw [h] at hfirst
    exact hfirst

theorem KeepsLogging.tryCatch {x : Work α} {handle : Failure → Work α} (hx : KeepsLogging x)
    (hhandle : ∀ f, KeepsLogging (handle f)) : KeepsLogging (tryCatch x handle) := by
  intro p
  have hfirst := hx p
  rw [on_tryCatch]
  split
  · next a between h =>
    rw [h] at hfirst
    exact hfirst
  · next e between h =>
    rw [h] at hfirst
    exact (hhandle e between).trans hfirst

/-- Work on a list that fails does so at one of the items. -/
theorem error_of_on_forM {xs : List α} {k : α → Work PUnit} (h : (xs.forM k).on p = (.error f, q)) :
    ∃ x ∈ xs, ∃ between after, (k x).on between = (.error f, after) := by
  induction xs generalizing p with
  | nil => cases h
  | cons x xs ih =>
    rcases cases_of_on_bind h with ⟨e, hx, he⟩ | ⟨_, between, -, hrest⟩
    · cases he
      exact ⟨x, by simp, p, q, hx⟩
    · obtain ⟨x', hx', hfails⟩ := ih hrest
      exact ⟨x', List.mem_cons_of_mem x hx', hfails⟩

end Work

namespace Project

open Work

variable {p q : Project} {journal : List Entry} {path : Path} {options : Value} {f : Failure}

/-! ### Parts of a section -/

/-- The parts of a section are of the types that reading them expects: a table for logging, something with items for
the machines, a table for the newsletter with a number for the timeout, and something with a size for the settings. -/
structure IsTyped (options : Value) : Prop where
  table : ∃ es, options = .table es
  logging : ∀ v, Config.part? options "logging" = .ok (some v) → ∃ es, v = .table es
  machines : ∀ v, Config.part? options "machines" = .ok (some v) → ∃ items, v.items = .ok items
  newsletter : ∀ v, Config.part? options "newsletter" = .ok (some v) → ∃ es d, v = .table es ∧
    NewsletterConfig.seconds ((Entries.get? es "timeout").getD ({} : NewsletterConfig).timeout) = .ok d
  settings : ∀ v, Config.part? options "settings" = .ok (some v) → ∃ n, v.size = .ok n

/-- A number is compared with zero. -/
theorem isAtMostZero_float (d : Double) : ∃ b, NewsletterConfig.isAtMostZero (.float d) = .ok b := ⟨_, rfl⟩

/-- What the check of a newsletter section refuses, it refuses with a failure of the library. -/
theorem own_of_check {url : Value} {d : Double} (h : NewsletterConfig.check ⟨url, .float d⟩ = .error f) :
    f.isOwn = true := by
  obtain ⟨b, hb⟩ := isAtMostZero_float d
  unfold NewsletterConfig.check at h
  rw [hb] at h
  split at h
  · cases h
    rfl
  · cases b with
    | true =>
      cases h
      rfl
    | false => cases h

theorem part?_table (es : Entries) (name : String) : Config.part? (.table es) name = .ok (Entries.get? es name) := rfl

/-- The rest of a typed section is made, or refused with a failure of the library. -/
theorem own_of_ofParts {logging : LoggingConfig} (htyped : IsTyped options)
    (h : Config.ofParts logging options = .error f) : f.isOwn = true := by
  obtain ⟨es, rfl⟩ := htyped.table
  have hmachines := htyped.machines
  have hnewsletter := htyped.newsletter
  simp only [part?_table, Except.ok.injEq] at hmachines hnewsletter
  simp only [Config.ofParts, part?_table, ok_bind] at h
  -- the section of the newsletter is the one part that may be refused
  cases hsection : Entries.get? es "newsletter" with
  | none =>
    cases hlisted : Entries.get? es "machines" with
    | none =>
      simp only [hlisted, hsection] at h
      cases h
    | some v =>
      obtain ⟨items, hitems⟩ := hmachines v hlisted
      simp only [hlisted, hsection, hitems] at h
      cases h
  | some v =>
    obtain ⟨fields, d, rfl, hd⟩ := hnewsletter v hsection
    have hchecked {e : Failure} (he : NewsletterConfig.ofSection (.table fields) = .error e) : e.isOwn = true := by
      simp only [NewsletterConfig.ofSection, hd, ok_bind] at he
      exact own_of_check he
    cases hlisted : Entries.get? es "machines" with
    | none =>
      simp only [hlisted, hsection, pure_bind] at h
      rcases error_of_bind h with he | ⟨_, -, h⟩
      · exact hchecked he
      · cases h
    | some v =>
      obtain ⟨items, hitems⟩ := hmachines v hlisted
      simp only [hlisted, hsection, hitems, ok_bind] at h
      rcases error_of_bind h with he | ⟨_, -, h⟩
      · exact hchecked he
      · cases h

/-- A typed section gives a configuration, or is refused with a failure of the library. -/
theorem own_of_build (htyped : IsTyped options) (h : (build options).on p = (.error f, q)) : f.isOwn = true := by
  unfold build at h
  rcases cases_of_on_ofOutcome h with ⟨e, he, -⟩ | ⟨given, -, h⟩
  · -- the logging section is a table, or it is missing
    obtain ⟨es, rfl⟩ := htyped.table
    unfold Config.loggingOptions at he
    rw [part?_table, ok_bind] at he
    split at he
    · cases he
    · cases he
    · next v hv hfound =>
      obtain ⟨fields, rfl⟩ := htyped.logging v (congrArg Except.ok hfound)
      exact absurd rfl (hv fields)
  rcases cases_of_on_bind h with ⟨e, hlogging, -⟩ | ⟨logging, between, -, h⟩
  · obtain ⟨journal, hresolved⟩ := on_loggingConfig given p
    cases hresolved.symm.trans hlogging
  rcases cases_of_on_ofOutcome h with ⟨e, he, hfe, -⟩ | ⟨c, hc, h⟩
  · cases hfe
    exact own_of_ofParts htyped he
  rcases cases_of_on_ofOutcome h with ⟨e, he, -⟩ | ⟨text, -, h⟩
  · -- the settings have a size
    obtain ⟨-, v, hv, hsettings⟩ := ofParts_eq_ok hc
    have hsize : ∃ n, c.settings.size = .ok n := by
      cases v with
      | none => exact ⟨0, by rw [hsettings]; rfl⟩
      | some v =>
        rw [hsettings]
        exact htyped.settings v hv
    obtain ⟨n, hn⟩ := hsize
    unfold Config.summary at he
    rw [hn] at he
    cases he
  · cases h

/-! ### Files that cannot be read as a configuration -/

/-- The section that a file holds: the one of a document, the table of ours, or a file as a whole. -/
inductive Supplies (p : Project) (path : Path) : Value → Prop
  | document {options : Value}
    (h : p.files.readText p.directory path >>= Yaml.load >>= sectionOf path.name = .ok options) : Supplies p path options
  | table {document tool : Entries} {options : Value}
    (hdocument : p.files.read p.directory path >>= Files.decode >>= Toml.load = .ok document)
    (htool : Entries.get? document "tool" = some (.table tool)) (h : Entries.get? tool "hexchart" = some options)
    (htruthy : options.isTruthy = true) : Supplies p path options
  | whole {document : Entries}
    (hdocument : p.files.read p.directory path >>= Files.decode >>= Toml.load = .ok document)
    (h : HasNoTable document) (hname : path.name ≠ projectFile) : Supplies p path (.table document)

/-- What keeps a file from being read as a configuration, with the failure. -/
inductive Unreadable (p : Project) (path : Path) : Failure → Prop
  /-- The file cannot be opened, or it holds no text. -/
  | content {f : Failure} (h : p.files.read p.directory path >>= Files.decode = .error f) : Unreadable p path f
  /-- The text is no document, or no table. -/
  | document {text : String} {f : Failure} (htext : p.files.readText p.directory path = .ok text)
    (h : Yaml.load text = .error f) : Unreadable p path f
  | table {text : String} {f : Failure} (htext : p.files.read p.directory path >>= Files.decode = .ok text)
    (h : Toml.load text = .error f) : Unreadable p path f
  /-- The kind of the document cannot be written. -/
  | kind {v : Value} {es : Entries} (h : v.opened = .table es)
    (hkind : ((Entries.get? es "kind").getD .null).isWritable = false) : Unreadable p path .badValue
  /-- What should hold the table of ours is no table. -/
  | tool {document : Entries} {v : Value}
    (hdocument : p.files.read p.directory path >>= Files.decode >>= Toml.load = .ok document)
    (hv : Entries.get? document "tool" = some v) (htable : ∀ es, v ≠ .table es) :
    Unreadable p path (.plain .missingAttribute)
  /-- The section holds itself. -/
  | cyclic {options : Value} (h : Supplies p path options) (hcyclic : options.isCyclic = true) :
    Unreadable p path (.plain .tooDeep)
  /-- A part of the section has another type than is expected. -/
  | type {options : Value} {f : Failure} (h : Supplies p path options)
    (htype : ¬ IsTyped (Placeholder.expand p.environment options)) : Unreadable p path f

/-- What is said about a document that is no configuration is said with a failure of the library. -/
theorem own_of_sectionOf {source : String} {v : Value} (h : sectionOf source v = .error f) :
    f.isOwn = true ∨ f = .badValue ∧ ∃ es, v.opened = .table es ∧
      ((Entries.get? es "kind").getD .null).isWritable = false := by
  unfold sectionOf at h
  split at h
  · next es hopened =>
    dsimp only at h
    split at h
    · rcases error_of_bind h with hshown | ⟨kind, -, h⟩
      · unfold Value.shown? at hshown
        split at hshown
        · cases hshown
        · next hwritable =>
          cases hshown
          exact .inr ⟨rfl, es, hopened, Bool.not_eq_true _ ▸ hwritable⟩
      · cases h
        exact .inl rfl
    · split at h
      · cases h
      · cases h
        exact .inl rfl
  · cases h
    exact .inl rfl

theorem readText_eq (files : Files) (here path : Path) :
    files.readText here path =
      (do let text ← files.read here path >>= Files.decode; return String.ofList (Files.unifyLines text.toList)) := by
  unfold Files.readText
  cases files.read here path <;> rfl

theorem unreadable_of_yamlSection (h : (yamlSection path).on { p with journal } = (.error f, q))
    (hf : f.isOwn = false) : Unreadable p path f := by
  unfold yamlSection at h
  rw [on_get_bind, on_ofOutcome] at h
  rcases error_of_bind (Prod.mk.inj h).1 with htext | ⟨text, htext, h⟩
  · rw [readText_eq] at htext
    rcases error_of_bind htext with hcontent | ⟨_, -, hunified⟩
    · exact .content hcontent
    · cases hunified
  · rcases error_of_bind h with hload | ⟨v, -, hsection⟩
    · exact .document htext hload
    · rcases own_of_sectionOf hsection with hown | ⟨rfl, es, hopened, hkind⟩
      · rw [hf] at hown
        cases hown
      · exact .kind hopened hkind

theorem supplies_of_yamlSection (h : (yamlSection path).on { p with journal } = (.ok options, q)) :
    Supplies p path options := by
  unfold yamlSection at h
  rw [on_get_bind, on_ofOutcome] at h
  obtain ⟨text, htext, hload⟩ := ok_of_bind (Prod.mk.inj h).1
  obtain ⟨v, hv, hsection⟩ := ok_of_bind hload
  refine .document ?_
  change p.files.readText p.directory path = .ok text at htext
  rw [htext, ok_bind, hv, ok_bind, hsection]

theorem unreadable_of_tomlSection (h : (tomlSection path).on { p with journal } = (.error f, q)) :
    Unreadable p path f := by
  unfold tomlSection at h
  rcases cases_of_on_bind h with ⟨e, hread, he⟩ | ⟨document, between, hread, h⟩
  · cases he
    rw [readToml_on] at hread
    rcases error_of_bind (Prod.mk.inj hread).1 with hcontent | ⟨text, htext, hload⟩
    · exact .content hcontent
    · exact .table htext hload
  · rw [readToml_on] at hread
    obtain ⟨hdocument, rfl⟩ := Prod.mk.inj hread
    rcases cases_of_on_ofOutcome h with ⟨e, hours, he, -⟩ | ⟨ours, -, h⟩
    · cases he
      split at hours
      · cases hours
      · cases hours
      · next v htable hv =>
        cases hours
        exact .tool hdocument hv htable
    · split at h
      · cases h
      · split at h
        · rcases cases_of_on_bind h with ⟨e, hremark, -⟩ | ⟨_, _, -, h⟩
          · cases hremark
          · cases h
        · cases h

theorem supplies_of_tomlSection (h : (tomlSection path).on { p with journal } = (.ok (some options), q)) :
    Supplies p path options := by
  unfold tomlSection at h
  obtain ⟨document, between, hread, h⟩ := ok_of_on_bind h
  rw [readToml_on, Prod.mk.injEq] at hread
  obtain ⟨hdocument, rfl⟩ := hread
  obtain ⟨ours, after, hours, h⟩ := ok_of_on_bind h
  rw [on_ofOutcome, Prod.mk.injEq] at hours
  obtain ⟨hours, rfl⟩ := hours
  have hnone := hasNoTable_iff hours
  split at h
  · next v hv =>
    cases h
    obtain ⟨rfl, htruthy⟩ := Option.filter_eq_some_iff.mp hv
    split at hours
    · cases hours
    · next tool htool => exact .table hdocument htool (Except.ok.inj hours) htruthy
    · cases hours
  · next hv =>
    split at h
    · obtain ⟨_, _, -, h⟩ := ok_of_on_bind h
      cases h
    · next hname =>
      cases h
      exact .whole hdocument (hnone.mpr hv) (by simpa using hname)

/-- A section that is not made into a configuration holds itself, or has a part of another type. -/
theorem unreadable_of_build (hsupplies : Supplies p path options)
    (h : (expand options >>= build).on { p with journal } = (.error f, q)) (hf : f.isOwn = false) :
    Unreadable p path f := by
  rcases cases_of_on_bind h with ⟨e, hexpand, he⟩ | ⟨v, between, hexpand, h⟩
  · cases he
    unfold expand at hexpand
    split at hexpand
    · next hcyclic =>
      cases hexpand
      exact .cyclic hsupplies hcyclic
    · rw [on_get_bind] at hexpand
      rcases cases_of_on_bind hexpand with ⟨e, hremarks, -⟩ | ⟨_, _, -, hexpand⟩
      · obtain ⟨name, -, _, _, hremark⟩ := error_of_on_forM hremarks
        cases hremark
      · cases hexpand
  · have hv : v = Placeholder.expand p.environment options := by
      unfold expand at hexpand
      split at hexpand
      · cases hexpand
      · rw [on_get_bind] at hexpand
        obtain ⟨_, _, -, hexpand⟩ := ok_of_on_bind hexpand
        cases hexpand
        rfl
    refine .type hsupplies fun htyped ↦ ?_
    rw [own_of_build (hv ▸ htyped) h] at hf
    cases hf

theorem unreadable_of_parse (h : (parse path).on { p with journal } = (.error f, q)) (hf : f.isOwn = false) :
    Unreadable p path f := by
  unfold parse at h
  rcases cases_of_on_bind h with ⟨e, hremark, -⟩ | ⟨_, noted, hremark, h⟩
  · cases hremark
  obtain ⟨journal', rfl⟩ := (isQuiet_remark _ _).after hremark
  split at h
  · rcases cases_of_on_bind h with ⟨e, hsection, he⟩ | ⟨section?, between, hsection, h⟩
    · cases he
      rw [← bind_pure_comp] at hsection
      rcases cases_of_on_bind hsection with ⟨e, hyaml, he⟩ | ⟨_, _, -, hpure⟩
      · cases he
        exact unreadable_of_yamlSection hyaml hf
      · cases hpure
    · obtain ⟨options, hyaml, rfl⟩ := ok_of_on_map hsection
      obtain ⟨journal'', rfl⟩ := (isQuiet_yamlSection _).after hyaml
      exact unreadable_of_build (supplies_of_yamlSection hyaml) h hf
  · rcases cases_of_on_bind h with ⟨e, hsection, he⟩ | ⟨section?, between, hsection, h⟩
    · cases he
      exact unreadable_of_tomlSection hsection
    · cases section? with
      | none => cases h
      | some options =>
        obtain ⟨journal'', rfl⟩ := (isQuiet_tomlSection _).after hsection
        exact unreadable_of_build (supplies_of_tomlSection hsection) h hf

/-! ### Finding the file -/

/-- What ends the search for a file, with the failure: a path that is too long, a project file above the current
directory that cannot be read or whose tools are no table, or that there is nothing to be found. -/
inductive Unsearchable (p : Project) : Failure → Prop
  | path {path : Path} {f : Failure} (h : p.files.has p.directory path = .error f) : Unsearchable p f
  | content {directory : Path} {f : Failure} (hmem : directory ∈ p.directory.ancestors)
    (h : p.files.read p.directory (directory.child projectFile) >>= Files.decode >>= Toml.load = .error f) :
    Unsearchable p f
  | tool {directory : Path} {document : Entries} {f : Failure} (hmem : directory ∈ p.directory.ancestors)
    (hdocument : p.files.read p.directory (directory.child projectFile) >>= Files.decode >>= Toml.load = .ok document)
    (h : holds "hexchart" ((Entries.get? document "tool").getD (.table [])) = .error f) : Unsearchable p f
  | nothing : Unsearchable p (.fault .fileNotFound (some nothingFound))

theorem has_on (path : Path) (p : Project) : (has path).on p = (p.files.has p.directory path, p) := rfl

/-- What goes on after a look for a path fails there, or because the path is too long. -/
theorem cases_of_has {β : Type} {path : Path} {k : Bool → Work β} {p q : Project} {f : Failure}
    (h : (has path >>= k).on p = (.error f, q)) :
    p.files.has p.directory path = .error f ∨ ∃ isThere, (k isThere).on p = (.error f, q) := by
  rcases cases_of_on_bind h with ⟨e, hhas, he⟩ | ⟨isThere, between, hhas, h⟩
  · cases he
    rw [has_on] at hhas
    exact .inl (Prod.mk.inj hhas).1
  · rw [has_on] at hhas
    obtain ⟨-, rfl⟩ := Prod.mk.inj hhas
    exact .inr ⟨isThere, h⟩

theorem unsearchable_of_nearest? {directories : List Path} (hmem : ∀ d ∈ directories, d ∈ p.directory.ancestors)
    (h : (nearest? directories).on { p with journal } = (.error f, q)) : Unsearchable p f := by
  induction directories generalizing journal with
  | nil => cases h
  | cons directory rest ih =>
    obtain ⟨hdirectory, hrest⟩ := List.forall_mem_cons.mp hmem
    unfold nearest? at h
    rcases cases_of_has h with hhas | ⟨isThere, h⟩
    · exact .path hhas
    · cases isThere with
      | false => exact ih hrest h
      | true =>
        rcases cases_of_on_bind h with ⟨e, hours, he⟩ | ⟨isOurs, between, hours, h⟩
        · cases he
          unfold hasOurTable at hours
          rcases cases_of_on_bind hours with ⟨e, hread, he⟩ | ⟨document, after, hread, hholds⟩
          · cases he
            rw [readToml_on] at hread
            exact .content hdirectory (Prod.mk.inj hread).1
          · rw [readToml_on] at hread
            obtain ⟨hdocument, rfl⟩ := Prod.mk.inj hread
            exact .tool hdirectory hdocument (Prod.mk.inj hholds).1
        · have hquiet : IsQuiet (hasOurTable (directory.child projectFile)) :=
            (isQuiet_readToml _).bind fun _ ↦ .ofOutcome _
          obtain ⟨journal', rfl⟩ := hquiet.after hours
          cases isOurs with
          | false => exact ih hrest h
          | true => cases h

theorem unsearchable_of_locate (h : (locate none).on p = (.error f, q)) : Unsearchable p f := by
  unfold locate at h
  rcases cases_of_on_bind h with ⟨e, hdiscover, he⟩ | ⟨found, between, -, h⟩
  · cases he
    unfold discover? at hdiscover
    rcases cases_of_on_bind hdiscover with ⟨e, hnamed, he⟩ | ⟨named, noted, hnamed, h⟩
    · cases he
      unfold named? at hnamed
      rw [on_get_bind] at hnamed
      split at hnamed
      · cases hnamed
      · cases hnamed
      · rcases cases_of_has hnamed with hhas | ⟨isThere, hnamed⟩
        · exact .path hhas
        · cases isThere <;> cases hnamed
    · obtain ⟨journal', rfl⟩ := isQuiet_named?.after hnamed
      cases named with
      | some path => cases h
      | none =>
        rcases cases_of_has h with hhas | ⟨isThere, h⟩
        · exact .path hhas
        · cases isThere with
          | true => cases h
          | false => exact unsearchable_of_nearest? (fun _ hd ↦ hd) h
  · cases found with
    | some path => cases h
    | none =>
      cases h
      exact .nothing

/-! ### Loading -/

theorem isQuiet_build (options : Value) : IsQuiet (build options) := by
  refine (IsQuiet.ofOutcome _).bind fun given ↦ (isQuiet_loggingConfig given).bind fun logging ↦ ?_
  exact (IsQuiet.ofOutcome _).bind fun c ↦ (IsQuiet.ofOutcome _).bind fun text ↦ (isQuiet_remark _ _).bind fun _ ↦ .pure _

theorem isQuiet_parse (path : Path) : IsQuiet (parse path) := by
  refine (isQuiet_remark _ _).bind fun _ ↦ ?_
  have hmade (v : Value) : IsQuiet (expand v >>= build) := (isQuiet_expand v).bind isQuiet_build
  split
  · refine ((isQuiet_yamlSection path).bind fun _ ↦ .pure _).bind fun options ↦ ?_
    cases options with
    | none => exact .pure _
    | some v => exact hmade v
  · refine (isQuiet_tomlSection path).bind fun options ↦ ?_
    cases options with
    | none => exact .pure _
    | some v => exact hmade v

theorem keepsLogging_parseKept (path : Path) : KeepsLogging (parseKept path) := by
  have hkept (r : Reading) : KeepsLogging (do
      modify fun p ↦ { p with cache := keep p.cache path.text r }
      return r : Work Reading) := fun _ ↦ rfl
  refine IsQuiet.get.keepsLogging.bind fun p ↦ ?_
  split
  · exact hkept _
  · have hreading (c : Config) : KeepsLogging (reading c) := fun _ ↦ rfl
    exact (isQuiet_parse path).keepsLogging.bind fun c ↦ (hreading c).bind hkept

/-- Loading a configuration does nothing to logging. -/
theorem keepsLogging_load (path : Option Path) : KeepsLogging (load path) := by
  have hfile : KeepsLogging (loadFile path) :=
    (isQuiet_locate path).keepsLogging.bind fun _ ↦ IsQuiet.get.keepsLogging.bind fun _ ↦ keepsLogging_parseKept _
  refine hfile.tryCatch fun f ↦ ?_
  split
  · exact (isQuiet_remark _ _).keepsLogging.bind fun _ _ ↦ rfl
  · exact (IsQuiet.throw _).keepsLogging

/-- What keeps a configuration from being loaded, with the failure: no file can be found for another reason than that
there is none, or the one that is found cannot be read as a configuration. -/
inductive Faulty (p : Project) : Failure → Prop
  | search {f : Failure} (h : Unsearchable p f) (hfound : ∀ text, f ≠ .fault .fileNotFound text) : Faulty p f
  | file {path : Path} {q : Project} {f : Failure} (hpath : (locate none).on p = (.ok path, q))
    (h : Unreadable p (p.directory.below path) f) : Faulty p f

/-- What is not loaded is refused with a failure of the library, or the project is faulty. -/
theorem faulty_of_load (h : (load none).on p = (.error f, q)) (hf : f.isOwn = false) : Faulty p f := by
  unfold load at h
  rw [on_tryCatch] at h
  split at h
  · cases h
  · next e between hfile =>
    split at h
    · obtain ⟨_, h⟩ := cases_of_on_bind h |>.resolve_left fun ⟨_, hremark, _⟩ ↦ by cases hremark
      obtain ⟨_, -, h⟩ := h
      cases h
    · next hfound =>
      cases h
      unfold loadFile at hfile
      rcases cases_of_on_bind hfile with ⟨e, hlocate, he⟩ | ⟨path, noted, hlocate, hparse⟩
      · cases he
        exact .search (unsearchable_of_locate hlocate) hfound
      · obtain ⟨journal, rfl⟩ := (isQuiet_locate none).after hlocate
        refine .file hlocate ?_
        rw [on_get_bind] at hparse
        unfold parseKept at hparse
        rw [on_get_bind] at hparse
        split at hparse
        · cases hparse
        · rcases cases_of_on_bind hparse with ⟨e, hread, he⟩ | ⟨c, _, -, hkept⟩
          · cases he
            exact unreadable_of_parse hread hf
          · cases hkept

end Project

/-! ### Settings that cannot be set up -/

namespace Logging

variable {c : LoggingConfig} {p q : Project} {f : Failure}

/-- What keeps settings from being set up: a format that cannot be a key, a level without a number, or a file that
cannot be opened. -/
inductive Inapplicable (c : LoggingConfig) : Prop
  | format (h : c.format.isKey = false)
  | level {f : Failure} (h : levelNumber c.level = .error f)
  | file {p q : Project} {f : Failure} (hnamed : c.outputFile.isTruthy = true) (h : (addFile c).on p = (.error f, q))

theorem inapplicable_of_addStream (h : (addStream c).on p = (.error f, q)) : Inapplicable c := by
  unfold addStream at h
  rcases Work.cases_of_on_ofOutcome h with ⟨e, hformat, -⟩ | ⟨format, -, h⟩
  · unfold LogFormat.ofValue at hformat
    split at hformat
    · next hkey => exact .format (by simpa using hkey)
    · cases hformat
  · rcases Work.cases_of_on_ofOutcome h with ⟨e, hlevel, -⟩ | ⟨n, -, h⟩
    · exact .level hlevel
    · cases h

theorem inapplicable_of_configure {isForced : Bool} (h : (configure c isForced).on p = (.error f, q)) :
    Inapplicable c := by
  unfold configure at h
  rw [Work.on_get_bind] at h
  split at h
  · cases h
  · rw [setState, Work.on_modify_bind] at h
    rcases Work.cases_of_on_bind h with ⟨e, hstream, -⟩ | ⟨_, between, -, h⟩
    · exact inapplicable_of_addStream hstream
    · dsimp only at h
      split at h
      · next hnamed =>
        rcases Work.cases_of_on_bind h with ⟨e, hfile, -⟩ | ⟨_, last, -, h⟩
        · exact .file hnamed hfile
        · cases h
      · cases h

end Logging

/-! ### Starting a command -/

namespace CommandLine

variable {σ : Type}

/-- The line about a configuration that is refused. -/
def warning (f : Failure) : String := "[yellow]⚠ Ignoring project configuration:[/yellow] " ++ f.message?.getD ""

theorem Act.on_work_ok {α : Type} {w : Work α} {a : α} {s : Session σ} {q : Project} (h : w.on s.project = (.ok a, q)) :
    (work w : Act σ α).on s = (.ok a, { s with project := q }) := by
  rw [work, on_bind, on_attempt, h]
  rfl

theorem Act.on_work_error {α : Type} {w : Work α} {f : Failure} {s : Session σ} {q : Project}
    (h : w.on s.project = (.error f, q)) :
    (work w : Act σ α).on s = (.error (.failure f), { s with project := q }) := by
  rw [work, on_bind, on_attempt, h]
  rfl

theorem applyProjectLogging_of_ok {s : Session σ} {r : Reading} {p : Project}
    (h : (Project.load none).on s.project = (.ok r, p)) :
    applyProjectLogging.on s = (Act.work (Logging.configure r.config.logging false)).on { s with project := p } := by
  unfold applyProjectLogging
  rw [Act.on_bind, Act.on_attempt, h]

theorem applyProjectLogging_of_error {s : Session σ} {f : Failure} {p : Project}
    (h : (Project.load none).on s.project = (.error f, p)) :
    applyProjectLogging.on s =
      if f.isOwn then (.ok (), { s with project := p, shown := .line (warning f) :: s.shown })
      else (.error (.failure f), { s with project := p }) := by
  unfold applyProjectLogging
  rw [Act.on_bind, Act.on_attempt, h]
  cases hf : f.isOwn with
  | true => simp only [hf]; rfl
  | false => simp only [hf]; rfl

/-- What becomes of a session whose project decides how lines are logged. Either the command goes on: the configuration
is loaded and logging is set up by it, or the configuration is refused, which is shown in a line, and logging stays as
it was. Or the command ends with the failure, and nothing is shown: the project is faulty, and logging stays as it was,
or the settings that are loaded cannot be set up, and the record of the settings stays as it was, but the handlers are
dropped. -/
theorem kept_unless_faulty (s : Session σ) :
    (∃ s', applyProjectLogging.on s = (.ok (), s') ∧
      ((∃ r p, (Project.load none).on s.project = (.ok r, p) ∧ s'.shown = s.shown ∧
          Logging.SetUp r.config.logging false p (.ok ()) s'.project) ∨
        ∃ f, (Project.load none).on s.project = (.error f, s'.project) ∧ f.isOwn = true ∧
          s'.shown = .line (warning f) :: s.shown ∧ s'.project.logging = s.project.logging)) ∨
    ∃ f s', applyProjectLogging.on s = (.error (.failure f), s') ∧ s'.shown = s.shown ∧
      ((Project.Faulty s.project f ∧ s'.project.logging = s.project.logging) ∨
        ∃ r p, (Project.load none).on s.project = (.ok r, p) ∧ Logging.Inapplicable r.config.logging ∧
          s'.project.logging.settings = s.project.logging.settings ∧
          Logging.Abandoned r.config.logging s'.project.logging.handlers) := by
  have hkept := Project.keepsLogging_load none s.project
  generalize hload : (Project.load none).on s.project = result at hkept
  obtain ⟨o, p⟩ := result
  cases o with
  | error f =>
    rw [applyProjectLogging_of_error hload]
    cases hf : f.isOwn with
    | true => exact .inl ⟨_, rfl, .inr ⟨f, rfl, hf, rfl, hkept⟩⟩
    | false => exact .inr ⟨f, _, rfl, rfl, .inl ⟨Project.faulty_of_load hload hf, hkept⟩⟩
  | ok r =>
    rw [applyProjectLogging_of_ok hload]
    have hset := Logging.setUp_configure r.config.logging false p
    generalize hconfigure : (Logging.configure r.config.logging false).on p = result at hset
    obtain ⟨o, q⟩ := result
    cases o with
    | ok _ => exact .inl ⟨_, Act.on_work_ok hconfigure, .inl ⟨r, p, rfl, rfl, hset⟩⟩
    | error f =>
      refine .inr ⟨f, _, Act.on_work_error hconfigure, rfl, .inr ⟨r, p, rfl, ?_⟩⟩
      have hinapplicable := Logging.inapplicable_of_configure hconfigure
      cases hset with
      | failed _ hsettings hhandlers =>
        exact ⟨hinapplicable, hsettings.trans (congrArg LogState.settings hkept), hhandlers⟩

/-! ### Projects that end a command -/

/-- A project file that is no table. -/
def malformed : Session Unit := ⟨{ files := { contents := [(["pyproject.toml"], [91])] } }, {}, (), []⟩

/-- Lines are logged, and a variable asks for a level that there is not. -/
def shouting : Session Unit :=
  ⟨{ files := { contents := [(["options.toml"], [])] }
     environment := [("HEXCHART_CONFIG_PATH", "options.toml"), ("HEXCHART_LOG_LEVEL", "LOUD")]
     logging := { settings := some {}, handlers := [⟨20, .stream .structured true⟩] } }, {}, (), []⟩

/-- A project file that cannot be read ends the command with nothing shown; a level that there is not ends it with no
handler left, and lines that were logged before are logged no more. -/
theorem ended_by_project :
    (applyProjectLogging.on malformed).1 = .error (.failure (.plain .badToml)) ∧
      (applyProjectLogging.on malformed).2.shown = [] ∧
      (applyProjectLogging.on shouting).1 = .error (.failure .badValue) ∧
      (applyProjectLogging.on shouting).2.project.logging.handlers = [] :=
  ⟨rfl, rfl, rfl, rfl⟩

end CommandLine

end Statechart
