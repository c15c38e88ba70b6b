import Mathlib.Data.List.Nodup
import Statechart.Proofs.Overrides

/-!
# Options that are decided alone

The options of the logging section are filled in one after another, in one table, and a variable may hold a text that
cannot be converted. What an option comes to is told by its own variable and by its own entry of the section
(`Override.Decided`); what the other variables and the other entries hold does not reach it. The section is always made,
and a text that cannot be converted counts as no text (`Project.options_decided_alone`).
-/

set_option autoImplicit false
set_option relaxedAutoImplicit false

namespace Statechart

namespace Override

/-- A variable decides nothing if it is not set, if it is empty, and if its text cannot be converted. -/
def Silent (o : Override) (said : Option String) : Prop :=
  ∀ s, said = some s → s ≠ "" → ∃ text, o.convert s = .error text

/-- What an option comes to, by the text of its own variable and by what stands under its own name in the section. -/
inductive Decided (o : Override) (said : Option String) (stands : Option Value) (default : Value) : Value → Prop
  | converted {s : String} {v : Value} (hsaid : said = some s) (hne : s ≠ "") (hv : o.convert s = .ok v) :
    Decided o said stands default v
  | stated {v : Value} (hsilent : o.Silent said) (hstands : stands = some v) : Decided o said stands default v
  | byDefault (hsilent : o.Silent said) (hstands : stands = none) : Decided o said stands default default

end Override

section

variable {o : Override} {env env' : Environment} {given given' : Entries} {default v : Value} {s : String}

/-! ### Texts that cannot be converted -/

theorem Flag.parse_eq_error_iff : (∃ text, parse s = .error text) ↔ ∀ b, ¬ IsWord b s := by
  constructor
  · rintro ⟨text, hfails⟩ b hword
    cases hfails.symm.trans (parse_of_isWord hword)
  · intro hnone
    have hyes : ¬ yes.contains (Text.lower (Text.trim s)) = true := fun h ↦ hnone true (List.contains_iff_mem.mp h)
    have hno : ¬ no.contains (Text.lower (Text.trim s)) = true := fun h ↦ hnone false (List.contains_iff_mem.mp h)
    refine ⟨refusal s, ?_⟩
    simp only [parse, if_neg hyes, if_neg hno]

namespace Override

/-- Only a text for a truth value can fail to be converted, and it does if it is no word for one. -/
theorem convert_eq_error_iff (ho : o ∈ all) (s : String) : (∃ text, o.convert s = .error text) ↔
    (o.option = "use_color" ∨ o.option = "include_timestamp") ∧ ∀ b, ¬ Flag.IsWord b s := by
  have hflag : (∃ text, flag s = .error text) ↔ ∀ b, ¬ Flag.IsWord b s := by
    rw [← Flag.parse_eq_error_iff, flag]
    cases Flag.parse s <;> simp [Except.map]
  simp only [all, List.mem_cons, List.not_mem_nil, or_false] at ho
  rcases ho with rfl | rfl | rfl | rfl | rfl
  · simp [level]
  · simp [format]
  · simp [outputFile]
  · simpa [useColor] using hflag
  · simpa [includeTimestamp] using hflag

theorem distinct_sources : (all.map source).Nodup := by decide

/-! ### One option -/

theorem says?_eq_some_iff :
    o.says? env = some v ↔ ∃ s, env.lookup o.source = some s ∧ s ≠ "" ∧ o.convert s = .ok v := by
  have hkept (s : String) : (o.convert s).toOption = some v ↔ o.convert s = .ok v := by
    cases o.convert s <;> simp [Except.toOption]
  unfold says? given?
  cases env.lookup o.source with
  | none => simp
  | some s =>
    by_cases hempty : s = ""
    · simp [hempty]
    · simp [hempty, hkept]

theorem says?_eq_none_iff : o.says? env = none ↔ o.Silent (env.lookup o.source) := by
  rw [← Option.not_isSome_iff_eq_none, Option.isSome_iff_exists]
  simp only [says?_eq_some_iff]
  constructor
  · intro hnone s hsaid hne
    cases hv : o.convert s with
    | error text => exact ⟨text, rfl⟩
    | ok v => exact absurd ⟨v, s, hsaid, hne, hv⟩ hnone
  · rintro hsilent ⟨v, s, hsaid, hne, hv⟩
    obtain ⟨text, hfails⟩ := hsilent s hsaid hne
    cases hfails.symm.trans hv

theorem decided_choose (o : Override) (env : Environment) (given : Entries) (default : Value) :
    o.Decided (env.lookup o.source) (Entries.get? given o.option) default (o.choose env given default) := by
  unfold choose
  cases hsays : o.says? env with
  | some v =>
    obtain ⟨s, hsaid, hne, hv⟩ := says?_eq_some_iff.mp hsays
    exact .converted hsaid hne hv
  | none =>
    have hsilent := says?_eq_none_iff.mp hsays
    cases Entries.get? given o.option with
    | some v => exact .stated hsilent rfl
    | none => exact .byDefault hsilent rfl

theorem choose_congr (hsaid : env.lookup o.source = env'.lookup o.source)
    (hstands : Entries.get? given o.option = Entries.get? given' o.option) :
    o.choose env given default = o.choose env' given' default := by
  simp only [choose, says?, given?, hsaid, hstands]

/-- A variable that is silent may as well not be set. -/
theorem choose_of_silent (h : o.Silent (env.lookup o.source)) (h' : env'.lookup o.source = none) :
    o.choose env given default = o.choose env' given default := by
  have hsays' : o.says? env' = none := by simp [says?, given?, h']
  simp only [choose, says?_eq_none_iff.mpr h, hsays']

end Override

/-! ### All options -/

namespace LoggingConfig

theorem lookup_resolve (ho : o ∈ Override.all) (env : Environment) (given : Entries) :
    ∃ default, (fields {}).lookup o.option = some default ∧
      (resolve env given).fields.lookup o.option = some (o.choose env given default) := by
  simp only [Override.all, List.mem_cons, List.not_mem_nil, or_false] at ho
  rcases ho with rfl | rfl | rfl | rfl | rfl <;> exact ⟨_, rfl, rfl⟩

theorem lookup_resolve_congr (ho : o ∈ Override.all)
    (hsame : ∀ default, o.choose env given default = o.choose env' given' default) :
    (resolve env given).fields.lookup o.option = (resolve env' given').fields.lookup o.option := by
  obtain ⟨default, hdefault, hv⟩ := lookup_resolve ho env given
  obtain ⟨default', hdefault', hv'⟩ := lookup_resolve ho env' given'
  cases hdefault.symm.trans hdefault'
  rw [hv, hv', hsame]

/-- The options are all there is of a configuration of logging. -/
theorem eq_of_lookup_eq {c c' : LoggingConfig}
    (h : ∀ o ∈ Override.all, c.fields.lookup o.option = c'.fields.lookup o.option) : c = c' := by
  have hlevel : some c.level = some c'.level := h .level (by simp [Override.all])
  have hformat : some c.format = some c'.format := h .format (by simp [Override.all])
  have hfile : some c.outputFile = some c'.outputFile := h .outputFile (by simp [Override.all])
  have hcolor : some c.useColor = some c'.useColor := h .useColor (by simp [Override.all])
  have htime : some c.includeTimestamp = some c'.includeTimestamp := h .includeTimestamp (by simp [Override.all])
  cases c
  cases c'
  simp only [Option.some.injEq] at hlevel hformat hfile hcolor htime
  rw [hlevel, hformat, hfile, hcolor, htime]

end LoggingConfig

end

namespace Project

/-- The options of the logging section, from any section and with any variables. They are always found, and nothing else
is done to the project than that lines are logged. Each option is decided by its own variable and its own entry of the
section, so that two sections with two environments give it the same value if they agree on these. A text cannot be
converted if a truth value is needed and it is no word for one; the options are then those of an environment where this
variable is not set. -/
theorem options_decided_alone (given : Entries) (p : Project) :
    ∃ c journal, (loggingConfig given).on p = (.ok c, { p with journal }) ∧
      (∀ o ∈ Override.all, ∃ v default, c.fields.lookup o.option = some v ∧
        (LoggingConfig.fields {}).lookup o.option = some default ∧
        o.Decided (p.environment.lookup o.source) (Entries.get? given o.option) default v) ∧
      (∀ given' q c' q', (loggingConfig given').on q = (.ok c', q') → ∀ o ∈ Override.all,
        p.environment.lookup o.source = q.environment.lookup o.source →
        Entries.get? given o.option = Entries.get? given' o.option →
        c.fields.lookup o.option = c'.fields.lookup o.option) ∧
      ∀ o ∈ Override.all, ∀ s, p.environment.lookup o.source = some s →
        ((∃ text, o.convert s = .error text) ↔
          (o.option = "use_color" ∨ o.option = "include_timestamp") ∧ ∀ b, ¬ Flag.IsWord b s) ∧
        ((∃ text, o.convert s = .error text) → ∀ q c' q', (loggingConfig given).on q = (.ok c', q') →
          q.environment.lookup o.source = none →
          (∀ o' ∈ Override.all, o'.source ≠ o.source →
            p.environment.lookup o'.source = q.environment.lookup o'.source) →
          c = c') := by
  have hresolved {given' : Entries} {q q' : Project} {c' : LoggingConfig}
      (h : (loggingConfig given').on q = (.ok c', q')) : c' = .resolve q.environment given' := by
    obtain ⟨journal, hmade⟩ := on_loggingConfig given' q
    cases hmade.symm.trans h
    rfl
  obtain ⟨journal, hmade⟩ := on_loggingConfig given p
  refine ⟨.resolve p.environment given, journal, hmade, ?decided, ?alone, ?unconverted⟩
  case decided =>
    intro o ho
    obtain ⟨default, hdefault, hv⟩ := LoggingConfig.lookup_resolve ho p.environment given
    exact ⟨_, default, hv, hdefault, o.decided_choose p.environment given default⟩
  case alone =>
    intro given' q c' q' hmade' o ho hsaid hstands
    rw [hresolved hmade']
    exact LoggingConfig.lookup_resolve_congr ho fun _ ↦ Override.choose_congr hsaid hstands
  case unconverted =>
    intro o ho s hsaid
    refine ⟨Override.convert_eq_error_iff ho s, fun hfails q c' q' hmade' hunset hothers ↦ ?_⟩
    rw [hresolved hmade']
    have hsilent : o.Silent (p.environment.lookup o.source) := by
      intro s' hsaid' _
      cases hsaid.symm.trans hsaid'
      exact hfails
    refine LoggingConfig.eq_of_lookup_eq fun o' ho' ↦ LoggingConfig.lookup_resolve_congr ho' fun default ↦ ?_
    by_cases hsource : o'.source = o.source
    · -- a variable decides one option only
      have hoption : o' = o := List.inj_on_of_nodup_map Override.distinct_sources ho' ho hsource
      rw [hoption]
      exact Override.choose_of_silent hsilent hunset
    · exact Override.choose_congr (hothers o' ho' hsource) rfl

end Project

end Statechart
