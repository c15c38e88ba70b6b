import Statechart.Project.Logging
import Statechart.Proofs.Equality
import Statechart.Proofs.Work

/-!
# The handlers that settings ask for

Whoever sets logging up wants one handler for the error stream, of a level and a format, and one for a file if a file
is named (`Logging.Requested`). A call that replaces the handlers and succeeds installs these. A call with the settings
that are in force replaces nothing, and trusts that their handlers are still there. They are, unless a call has failed
in between: it has dropped them and left the record of the settings as it was. `requested_unless_failed` tells for
every sequence of calls which handlers a successful one leaves.
-/

set_option autoImplicit false
set_option relaxedAutoImplicit false

namespace Statechart

namespace Logging

/-! ### What settings ask for -/

/-- A level and its number: it has a name or is given as a number, in any spelling that equals it. -/
def IsLevel (v : Value) (n : Int) : Prop :=
  (∃ name, (name, n) ∈ levels ∧ v.alike (.text name) = true) ∨ 0 ≤ n ∧ v.alike (.int n) = true

/-- The formats that have a name of their own. -/
def formats : List (String × LogFormat) := [("json", .json), ("structured", .structured), ("rich", .rich)]

/-- A format by its name; every other name is that of the plain format. -/
def IsFormat (v : Value) (f : LogFormat) : Prop :=
  (∃ name, (name, f) ∈ formats ∧ v.alike (.text name) = true) ∨
    f = .console ∧ ∀ e ∈ formats, v.alike (.text e.1) = false

/-- The handler of a file that settings name, in the directory of some moment. -/
def IsFileHandler (c : LoggingConfig) (n : Int) (h : LogHandler) : Prop :=
  ∃ (here : Path) (actual : String), timed (Path.ofText c.outputFile.shown).text = .ok actual ∧
    h = ⟨n, .file (place (here.below (Path.ofText actual)))⟩

/-- The handlers of settings with a level and a format. -/
def HandlersOf (c : LoggingConfig) (n : Int) (f : LogFormat) (handlers : List LogHandler) : Prop :=
  ∃ files, handlers = ⟨n, .stream f c.includeTimestamp.isTruthy⟩ :: files ∧
    (c.outputFile.isTruthy = false ∧ files = [] ∨ c.outputFile.isTruthy = true ∧ ∃ h, IsFileHandler c n h ∧ files = [h])

/-- The handlers are those that settings ask for. -/
def Requested (c : LoggingConfig) (handlers : List LogHandler) : Prop :=
  ∃ n f, IsLevel c.level n ∧ IsFormat c.format f ∧ HandlersOf c n f handlers

/-! ### Levels and formats -/

section

variable {u v : Value} {n : Int} {f : LogFormat} {s : String}

theorem alike_text_of_asText? (hv : v = u ∨ v.alike u = true) (hu : u.asText? = some s) :
    v.alike (.text s) = true := by
  rw [Value.alike_text_iff]
  rcases hv with rfl | hv
  · cases v <;> first | exact hu | cases hu
  · exact Value.asText?_of_alike hv hu

theorem asText?_of_alike_text (hv : v = u ∨ v.alike u = true) (hkey : u.isKey = true)
    (h : v.alike (.text s) = true) : u.asText? = some s := by
  rw [Value.alike_text_iff] at h
  rcases hv with rfl | hv
  · cases v <;> first | exact h | cases hkey
  · exact Value.asText?_of_isKey hv hkey h

theorem alike_int_of_asInt? (hv : v = u ∨ v.alike u = true) (hu : u.asInt? = some n) : v.alike (.int n) = true := by
  rcases hv with rfl | hv
  · cases v with
    | bool b => cases hu; exact beq_self_eq_true _
    | int i => cases hu; exact beq_self_eq_true _
    | _ => cases hu
  · exact Value.alike_int_of_alike hv hu

/-- The number of a level is that of every value that equals it. -/
theorem isLevel_of_levelNumber (h : levelNumber u = .ok n) (hv : v = u ∨ v.alike u = true) : IsLevel v n := by
  unfold levelNumber at h
  split at h
  · next name htext =>
    split at h
    · next hlookup =>
      cases h
      obtain ⟨before, after, hlevels, -⟩ := List.lookup_eq_some_iff.mp hlookup
      exact .inl ⟨name, by simp [hlevels], alike_text_of_asText? hv htext⟩
    · cases h
  · next i htext hint =>
    split at h
    · cases h
    · next hi =>
      cases h
      exact .inr ⟨Int.not_lt.mp hi, alike_int_of_asInt? hv hint⟩
  · cases h

/-- The format of a value is that of every value that equals it. -/
theorem isFormat_of_ofValue (h : LogFormat.ofValue u = .ok f) (hv : v = u ∨ v.alike u = true) : IsFormat v f := by
  unfold LogFormat.ofValue at h
  split at h
  · cases h
  · next hkey =>
    rw [Bool.not_eq_true, Bool.not_eq_false'] at hkey
    have hname (name : String) : v.alike (.text name) = true ↔ u.asText? = some name :=
      ⟨asText?_of_alike_text hv hkey, alike_text_of_asText? hv⟩
    cases h
    split
    · next htext => exact .inl ⟨"json", by simp [formats], (hname _).mpr htext⟩
    · next htext => exact .inl ⟨"structured", by simp [formats], (hname _).mpr htext⟩
    · next htext => exact .inl ⟨"rich", by simp [formats], (hname _).mpr htext⟩
    · next hjson hstructured hrich =>
      refine .inr ⟨rfl, fun e he ↦ Bool.eq_false_iff.mpr fun halike ↦ ?_⟩
      have htext := (hname e.1).mp halike
      simp only [formats, List.mem_cons, List.not_mem_nil, or_false] at he
      rcases he with rfl | rfl | rfl
      · exact hjson htext
      · exact hstructured htext
      · exact hrich htext

end

/-! ### Adding handlers -/

section

variable {c : LoggingConfig} {p q : Project} {f : Failure}

/-- The handler for the error stream is added, or nothing is changed. -/
theorem addStream_on {o : Outcome Unit} (h : (addStream c).on p = (o, q)) :
    (∃ f, o = .error f ∧ q.logging = p.logging) ∨
      o = .ok () ∧ ∃ n format, levelNumber c.level = .ok n ∧ LogFormat.ofValue c.format = .ok format ∧
        q.logging = { p.logging with
          handlers := p.logging.handlers ++ [⟨n, .stream format c.includeTimestamp.isTruthy⟩] } := by
  unfold addStream at h
  rcases Work.cases_of_on_ofOutcome h with ⟨e, -, rfl, rfl⟩ | ⟨format, hformat, h⟩
  · exact .inl ⟨e, rfl, rfl⟩
  rcases Work.cases_of_on_ofOutcome h with ⟨e, -, rfl, rfl⟩ | ⟨n, hlevel, h⟩
  · exact .inl ⟨e, rfl, rfl⟩
  rw [addHandler, setState, Work.on_modify] at h
  obtain ⟨rfl, rfl⟩ := Prod.mk.inj h
  exact .inr ⟨rfl, n, format, hlevel, hformat, rfl⟩

theorem shown_of_asText? {v : Value} {s : String} (h : v.asText? = some s) : v.shown = s := by
  cases v <;> cases h <;> rfl

theorem place_of_openFile {files files' : Files} {here path : Path} {place' : List String}
    (h : openFile files here path = .ok (files', place')) : place' = place (here.below path) := by
  unfold openFile at h
  split at h <;> cases h <;> rfl

/-- The handler for a file is added last; what goes wrong before leaves logging as it is. -/
theorem addFile_on {o : Outcome Unit} (h : (addFile c).on p = (o, q)) :
    (∃ f, o = .error f ∧ q.logging = p.logging) ∨
      o = .ok () ∧ ∃ n handler, levelNumber c.level = .ok n ∧ IsFileHandler c n handler ∧
        q.logging = { p.logging with handlers := p.logging.handlers ++ [handler] } := by
  unfold addFile at h
  cases htext : c.outputFile.asText? with
  | none =>
    rw [htext] at h
    cases h
    exact .inl ⟨_, rfl, rfl⟩
  | some text =>
    rw [htext] at h
    rw [Work.on_get_bind] at h
    rcases Work.cases_of_on_ofOutcome h with ⟨e, -, rfl, rfl⟩ | ⟨files, -, h⟩
    · exact .inl ⟨e, rfl, rfl⟩
    rw [Work.on_set_bind] at h
    rcases Work.cases_of_on_ofOutcome h with ⟨e, -, rfl, rfl⟩ | ⟨actual, hactual, h⟩
    · exact .inl ⟨e, rfl, rfl⟩
    rcases Work.cases_of_on_ofOutcome h with ⟨e, -, rfl, rfl⟩ | ⟨⟨files', place'⟩, hopen, h⟩
    · exact .inl ⟨e, rfl, rfl⟩
    rw [Work.on_set_bind] at h
    rcases Work.cases_of_on_ofOutcome h with ⟨e, -, rfl, rfl⟩ | ⟨n, hlevel, h⟩
    · exact .inl ⟨e, rfl, rfl⟩
    have hfile : IsFileHandler c n ⟨n, .file place'⟩ := by
      refine ⟨p.directory, actual, ?_, ?_⟩
      · rw [shown_of_asText? htext]
        exact hactual
      · rw [place_of_openFile hopen]
    rw [addHandler, setState, Work.on_modify] at h
    obtain ⟨rfl, rfl⟩ := Prod.mk.inj h
    exact .inr ⟨rfl, n, ⟨n, .file place'⟩, hlevel, hfile, rfl⟩

end

/-! ### Setting up -/

/-- The handlers that a call makes. -/
def Made (c : LoggingConfig) (handlers : List LogHandler) : Prop :=
  ∃ n f, levelNumber c.level = .ok n ∧ LogFormat.ofValue c.format = .ok f ∧ HandlersOf c n f handlers

/-- The handlers that a call leaves which fails: none, or that for the error stream. -/
def Abandoned (c : LoggingConfig) (handlers : List LogHandler) : Prop :=
  handlers = [] ∨ ∃ n f, levelNumber c.level = .ok n ∧ LogFormat.ofValue c.format = .ok f ∧
    handlers = [⟨n, .stream f c.includeTimestamp.isTruthy⟩]

/-- Settings that are in force already are not set up again. -/
def Skips (c : LoggingConfig) (isForced : Bool) (p : Project) : Prop :=
  isForced = false ∧ ∃ s, p.logging.settings = some s ∧ sameSettings (remembered c) s = true

/-- A call that sets logging up, in the project that it finds, with its outcome and what it leaves. -/
inductive SetUp (c : LoggingConfig) (isForced : Bool) (p : Project) : Outcome Unit → Project → Prop
  | skipped (h : Skips c isForced p) : SetUp c isForced p (.ok ()) p
  | failed {f q} (hskips : ¬ Skips c isForced p) (hsettings : q.logging.settings = p.logging.settings)
      (hhandlers : Abandoned c q.logging.handlers) : SetUp c isForced p (.error f) q
  | done {q} (hskips : ¬ Skips c isForced p) (hsettings : q.logging.settings = some (remembered c))
      (hhandlers : Made c q.logging.handlers) : SetUp c isForced p (.ok ()) q

theorem setUp_configure (c : LoggingConfig) (isForced : Bool) (p : Project) :
    SetUp c isForced p ((configure c isForced).on p).1 ((configure c isForced).on p).2 := by
  generalize hset : (configure c isForced).on p = result
  obtain ⟨o, q⟩ := result
  unfold configure at hset
  rw [Work.on_get_bind] at hset
  have hskips : Skips c isForced p ↔
      (p.logging.settings.any (sameSettings (remembered c)) && !isForced) = true := by
    cases hsettings : p.logging.settings <;> simp [Skips, hsettings, and_comm]
  split at hset
  · next h =>
    cases hset
    exact .skipped (hskips.mpr h)
  · next h =>
    have hnot : ¬ Skips c isForced p := mt hskips.mp h
    rw [setState, Work.on_modify_bind] at hset
    rcases Work.cases_of_on_bind hset with ⟨e, hstream, rfl⟩ | ⟨_, between, hstream, hset⟩
    · rcases addStream_on hstream with ⟨_, -, hq⟩ | ⟨⟨⟩, -⟩
      exact .failed hnot (by rw [hq]) (.inl (by rw [hq]))
    · rcases addStream_on hstream with ⟨_, ⟨⟩, -⟩ | ⟨-, n, f, hlevel, hformat, hbetween⟩
      dsimp only at hset
      split at hset
      · next hfile =>
        rcases Work.cases_of_on_bind hset with ⟨e, hfails, rfl⟩ | ⟨_, last, hfile', hset⟩
        · rcases addFile_on hfails with ⟨_, -, hq⟩ | ⟨⟨⟩, -⟩
          exact .failed hnot (by rw [hq, hbetween]) (.inr ⟨n, f, hlevel, hformat, by rw [hq, hbetween]; rfl⟩)
        · rcases addFile_on hfile' with ⟨_, ⟨⟩, -⟩ | ⟨-, n', handler, hlevel', hhandler, hlast⟩
          obtain rfl : n = n' := Except.ok.inj (hlevel.symm.trans hlevel')
          rw [setState, Work.on_modify] at hset
          obtain ⟨rfl, rfl⟩ := Prod.mk.inj hset
          refine .done hnot rfl ⟨n, f, hlevel, hformat, [handler], ?_, .inr ⟨hfile, handler, hhandler, rfl⟩⟩
          simp [hlast, hbetween]
      · next hfile =>
        rw [setState, Work.on_modify] at hset
        obtain ⟨rfl, rfl⟩ := Prod.mk.inj hset
        refine .done hnot rfl ⟨n, f, hlevel, hformat, [], ?_, .inl ⟨Bool.not_eq_true _ ▸ hfile, rfl⟩⟩
        simp [hbetween]

/-! ### Equal settings -/

section

variable {c c' : LoggingConfig} {handlers : List LogHandler}

theorem sameSettings_iff : sameSettings c c' = true ↔ c.level.alike c'.level = true ∧ c.format.alike c'.format = true ∧
    c.outputFile.alike c'.outputFile = true ∧ c.useColor.alike c'.useColor = true ∧
    c.includeTimestamp.alike c'.includeTimestamp = true := by
  simp [sameSettings, LoggingConfig.fields]

/-- What settings are remembered by tells whether a file is named, and which. -/
theorem file_of_remembered (h : (remembered c).outputFile.alike (remembered c').outputFile = true) :
    c.outputFile.isTruthy = c'.outputFile.isTruthy ∧
      (c.outputFile.isTruthy = true → c.outputFile.shown = c'.outputFile.shown) := by
  unfold remembered at h
  dsimp only at h
  split at h <;> split at h
  · next hc hc' => exact ⟨hc.trans hc'.symm, fun _ ↦ eq_of_beq h⟩
  · cases h
  · cases h
  · next hc hc' =>
    rw [Bool.not_eq_true] at hc hc'
    exact ⟨hc.trans hc'.symm, fun htrue ↦ by rw [hc] at htrue; cases htrue⟩

/-- A value that holds no part of itself. -/
def IsFlat (v : Value) : Prop := ∀ label inside, v ≠ .knot label inside

theorem requested_of_made (h : Made c handlers) : Requested c handlers := by
  obtain ⟨n, f, hlevel, hformat, hhandlers⟩ := h
  exact ⟨n, f, isLevel_of_levelNumber hlevel (.inl rfl), isFormat_of_ofValue hformat (.inl rfl), hhandlers⟩

/-- The handlers that a call made are those that equal settings ask for. -/
theorem requested_of_same (h : Made c' handlers) (hsame : sameSettings (remembered c) (remembered c') = true)
    (hc : IsFlat c.includeTimestamp) (hc' : IsFlat c'.includeTimestamp) : Requested c handlers := by
  obtain ⟨n, f, hlevel, hformat, files, hhandlers, hfiles⟩ := h
  obtain ⟨hlevels, hformats, hfile, -, hstamps⟩ := sameSettings_iff.mp hsame
  obtain ⟨hnamed, hshown⟩ := file_of_remembered hfile
  have hstamp : c.includeTimestamp.isTruthy = c'.includeTimestamp.isTruthy := Value.isTruthy_of_alike hstamps hc hc'
  have hlevel' : IsLevel c.level n := isLevel_of_levelNumber hlevel (.inr hlevels)
  have hformat' : IsFormat c.format f := isFormat_of_ofValue hformat (.inr hformats)
  refine ⟨n, f, hlevel', hformat', files, ?_, ?_⟩
  · rw [hhandlers, hstamp]
  · rw [hnamed]
    refine hfiles.imp_right fun ⟨htrue, handler, ⟨here, actual, hactual, hhandler⟩, hlast⟩ ↦ ?_
    rw [← hshown (hnamed.trans htrue)] at hactual
    exact ⟨htrue, handler, ⟨here, actual, hactual, hhandler⟩, hlast⟩

end

/-! ### One call after the other -/

/-- A call that sets logging up, with the project that it finds. -/
structure Call where
  before : Project
  config : LoggingConfig
  isForced : Bool := false

namespace Call

variable (call : Call)

def outcome : Outcome Unit := ((configure call.config call.isForced).on call.before).1

def after : Project := ((configure call.config call.isForced).on call.before).2

/-- The settings are in force already. -/
def IsSkipped : Prop := Skips call.config call.isForced call.before

end Call

/-- Calls one after the other, and how logging is set up after them. Between two calls the project may change in every
way, but nobody else touches the handlers or the record of the settings. -/
inductive Session : List Call → LogState → Prop
  | begin {state : LogState} (hsettings : state.settings = none) (hhandlers : state.handlers = []) : Session [] state
  | call {calls state} (h : Session calls state) (call : Call) (hflat : IsFlat call.config.includeTimestamp)
      (hsettings : call.before.logging.settings = state.settings)
      (hhandlers : call.before.logging.handlers = state.handlers) : Session (calls ++ [call]) call.after.logging

/-- A call has failed, all calls since then were skipped, and the handlers are what the one that failed has left. -/
def Stale (calls : List Call) (handlers : List LogHandler) : Prop :=
  ∃ earlier failed skipped, calls = earlier ++ failed :: skipped ∧ (∃ f, failed.outcome = .error f) ∧
    (∀ call ∈ skipped, call.IsSkipped) ∧ Abandoned failed.config handlers

/-- The handlers are those of the settings on record, unless a call has failed. -/
def Trusted (calls : List Call) (state : LogState) : Prop :=
  ∀ s, state.settings = some s → Stale calls state.handlers ∨
    ∃ c, s = remembered c ∧ IsFlat c.includeTimestamp ∧ Made c state.handlers

/-- What a call does. -/
theorem Call.setUp (call : Call) : SetUp call.config call.isForced call.before call.outcome call.after :=
  setUp_configure call.config call.isForced call.before

section

variable {calls : List Call} {call : Call} {state : LogState} {handlers : List LogHandler}

theorem Stale.skip (h : Stale calls handlers) (hskipped : call.IsSkipped) : Stale (calls ++ [call]) handlers := by
  obtain ⟨earlier, failed, skipped, rfl, hfailed, hskips, hhandlers⟩ := h
  refine ⟨earlier, failed, skipped ++ [call], by simp, hfailed, fun x hx ↦ ?_, hhandlers⟩
  rcases List.mem_append.mp hx with hbefore | hlast
  · exact hskips x hbefore
  · rwa [List.mem_singleton.mp hlast]

/-- Every call leaves the record of the settings and the handlers such that one tells the other, unless one fails. -/
theorem Trusted.next (h : Trusted calls state) (hflat : IsFlat call.config.includeTimestamp)
    (hsettings : call.before.logging.settings = state.settings)
    (hhandlers : call.before.logging.handlers = state.handlers) : Trusted (calls ++ [call]) call.after.logging := by
  intro s hs
  have hset := call.setUp
  generalize houtcome : call.outcome = o at hset
  generalize call.after = q at hset hs ⊢
  cases hset with
  | skipped hskipped =>
    rw [hhandlers]
    exact (h s (hsettings ▸ hs)).imp_left fun hstale ↦ hstale.skip hskipped
  | failed hskips _ habandoned => exact .inl ⟨calls, call, [], rfl, ⟨_, houtcome⟩, by simp, habandoned⟩
  | done hskips hrecord hmade =>
    cases hs.symm.trans hrecord
    exact .inr ⟨call.config, rfl, hflat, hmade⟩

theorem Session.trusted (h : Session calls state) : Trusted calls state := by
  induction h with
  | begin hsettings =>
    intro s hs
    rw [hsettings] at hs
    cases hs
  | call h call hflat hsettings hhandlers ih => exact ih.next hflat hsettings hhandlers

/-- A call that returns leaves the handlers that its settings ask for, unless it was skipped after one that failed. -/
theorem Trusted.requested (h : Trusted calls state) (hflat : IsFlat call.config.includeTimestamp)
    (hsettings : call.before.logging.settings = state.settings)
    (hhandlers : call.before.logging.handlers = state.handlers) (hok : call.outcome = .ok ()) :
    Requested call.config call.after.logging.handlers ∨
      call.IsSkipped ∧ Stale calls call.after.logging.handlers := by
  have hset := call.setUp
  generalize houtcome : call.outcome = o at hset
  generalize call.after = q at hset ⊢
  cases hset with
  | skipped hskipped =>
    have hrecord := hskipped
    obtain ⟨-, s, hs, hsame⟩ := hrecord
    rw [hhandlers]
    rcases h s (hsettings ▸ hs) with hstale | ⟨c, rfl, hc, hmade⟩
    · exact .inr ⟨hskipped, hstale⟩
    · exact .inl (requested_of_same hmade hsame hflat hc)
  | failed _ _ _ => cases houtcome.symm.trans hok
  | done _ _ hmade => exact .inl (requested_of_made hmade)

end

/-- Which handlers a call leaves that sets logging up and returns. Assumes: calls one after the other, with any
settings whose flag for the time is no container that holds itself, between which nobody else touches the handlers or
the record of the settings; a last call that returns. Its handlers are those that its settings ask for, or it was
skipped, a call before it has failed, all calls in between were skipped too, and what is there is what the failed call
has left: no handler, or only its own for the error stream. -/
theorem requested_unless_failed {calls : List Call} {call : Call} {state : LogState}
    (h : Session (calls ++ [call]) state) (hok : call.outcome = .ok ()) :
    Requested call.config state.handlers ∨ call.IsSkipped ∧ Stale calls state.handlers := by
  generalize hall : calls ++ [call] = all at h
  cases h with
  | begin => exact absurd hall (by simp)
  | call h last hflat hsettings hhandlers =>
    obtain ⟨rfl, hlast⟩ := List.append_inj' hall rfl
    obtain rfl := List.singleton_inj.mp hlast
    exact h.trusted.requested hflat hsettings hhandlers hok

/-! ### A call that fails -/

/-- Plain lines from a level on. -/
def plain (level : String) : LoggingConfig := { level := .text level, format := .text "console" }

theorem isFlat_plain (level : String) : IsFlat (plain level).includeTimestamp := nofun

/-- Lines from a level on that is known. -/
def known : Call := { before := {}, config := plain "INFO" }

/-- Then from one that is not. -/
def unknown : Call := { before := known.after, config := plain "LOUD" }

/-- Then from another. -/
def other : Call := { before := unknown.after, config := plain "DEBUG" }

/-- Or from the first level again. -/
def again : Call := { before := unknown.after, config := plain "INFO" }

theorem session_unknown : Session [known, unknown] unknown.after.logging :=
  ((Session.begin rfl rfl : Session [] {}).call known (isFlat_plain _) rfl rfl).call unknown (isFlat_plain _) rfl rfl

/-- After the call that failed, other settings are set up as they should be. -/
theorem requested_unless_failed_of_other : Requested (plain "DEBUG") other.after.logging.handlers := by
  refine (requested_unless_failed (session_unknown.call other (isFlat_plain _) rfl rfl) rfl).resolve_right ?_
  rintro ⟨⟨-, s, hs, hsame⟩, -⟩
  cases hs
  cases hsame

/-- The first settings, asked for again after the call that failed, are taken to be in force, with no handler left. -/
theorem not_requested_again :
    ¬ ∀ calls call state, Session (calls ++ [call]) state → call.outcome = .ok () →
      Requested call.config state.handlers := by
  intro h
  obtain ⟨n, f, -, -, files, hhandlers, -⟩ :=
    h _ again _ (session_unknown.call again (isFlat_plain _) rfl rfl) rfl
  cases hhandlers

end Logging

end Statechart
