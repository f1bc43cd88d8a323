import Reconciliation.Proofs.Number.Order
import Reconciliation.Proofs.Query.Reading
import Reconciliation.Proofs.Statistic.Schema
import Reconciliation.Settings

/-! # Settings that a run gets

Settings are screened whenever they come from a text or take up what an environment says. What the
screening lets through is exactly the settings whose numbers and separator can do their work and
whose tolerances have no negative bound (`Settings.fault?_eq_none_iff`). It orders a bound against
zero, so that a bound that is no number passes too (`Settings.isUsable_iff`), although nothing is
within such a tolerance (`Tolerance.accepts_of_unordered`).

The environment sets the parallelism of a platform and nothing else
(`Settings.withEnvironment_eq_ok_iff`), and a variable that cannot be read is never passed over
(`Settings.withEnvironment_of_unreadable`).
-/

namespace Reconciliation

/-! ## Bounds of a schema -/

namespace StatSchema

/-- A bound of the tolerance that a statistic is compared with, if its kind has one. -/
def HasBound (schema : StatSchema) (field : StatField) (bound : Binary64) : Prop :=
  ∃ tolerance, (schema.kindOf field).tolerance? = some tolerance ∧
    (bound = tolerance.absolute ∨ bound = tolerance.relative)

end StatSchema

namespace Settings

theorem negativeTolerance?_eq_none_iff {schema : StatSchema} : negativeTolerance? schema = none ↔
    ∀ field bound, schema.HasBound field bound → bound.lt .zero = false := by
  rw [negativeTolerance?, Option.map_eq_none_iff, List.find?_eq_none]
  constructor
  · intro none field bound ⟨tolerance, held, part⟩
    have kept := none _ (schema.mem_toList_iff.mpr (Eq.refl (schema.kindOf field)))
    simp only [held, Option.any_some, Bool.or_eq_true, not_or, Bool.not_eq_true] at kept
    rcases part with rfl | rfl
    · exact kept.1
    · exact kept.2
  · intro kept (field, kind) listed
    obtain rfl := schema.mem_toList_iff.mp listed
    cases held : (schema.kindOf field).tolerance? with
    | none => simp [held]
    | some tolerance =>
        have absolute := kept field _ ⟨tolerance, held, .inl rfl⟩
        have relative := kept field _ ⟨tolerance, held, .inr rfl⟩
        simp [held, absolute, relative]

/-! ## Screening -/

/-- The numbers and the separator of settings can do their work. -/
structure IsRunnable (settings : Settings) : Prop where
  places : 1 ≤ settings.stats.frequencyPlaces
  separator : settings.hash.options.separator ≠ ""
  parallelism (platform : Platform) : 1 ≤ settings.parallelism.on platform

/-- A run can use the settings: no bound of a tolerance is below zero either. -/
structure IsUsable (settings : Settings) : Prop extends settings.IsRunnable where
  nonnegative (field : StatField) (bound : Binary64) :
    settings.stats.schema.HasBound field bound → Binary64.zero.le bound = true

/-- What settings are that have been screened. -/
structure IsScreened (settings : Settings) : Prop extends settings.IsRunnable where
  nonnegative (field : StatField) (bound : Binary64) :
    settings.stats.schema.HasBound field bound → bound = .nan ∨ Binary64.zero.le bound = true

/-- Every bound of a tolerance is a number. -/
def HasNumbers (settings : Settings) : Prop :=
  ∀ field bound, settings.stats.schema.HasBound field bound → bound ≠ .nan

variable {settings result : Settings}

theorem isUsable_iff : settings.IsUsable ↔ settings.IsScreened ∧ settings.HasNumbers := by
  constructor
  · intro usable
    have screened : settings.IsScreened :=
      ⟨usable.toIsRunnable, fun field bound held => .inr (usable.nonnegative field bound held)⟩
    refine ⟨screened, fun field bound held unordered => ?_⟩
    have ordered := usable.nonnegative field bound held
    rw [unordered] at ordered
    cases ordered
  · intro ⟨screened, numbers⟩
    exact ⟨screened.toIsRunnable, fun field bound held =>
      (screened.nonnegative field bound held).resolve_left (numbers field bound held)⟩

theorem fault?_eq_none_iff : settings.fault? = none ↔ settings.IsScreened := by
  have bounds : negativeTolerance? settings.stats.schema = none ↔
      ∀ field bound, settings.stats.schema.HasBound field bound →
        bound = .nan ∨ Binary64.zero.le bound = true := by
    simp only [negativeTolerance?_eq_none_iff, Binary64.lt_zero_eq_false_iff]
  have passes {fault : Prop} [Decidable fault] {first : SettingFault}
      {others : Option SettingFault} :
      (if fault then some first else others) = none ↔ ¬fault ∧ others = none := by
    by_cases fault <;> simp [*]
  rw [fault?, passes, passes, passes, Option.map_eq_none_iff, bounds, not_or, String.isEmpty_iff]
  constructor
  · intro ⟨places, separator, ⟨legacy, cloud⟩, nonnegative⟩
    refine ⟨⟨Nat.pos_of_ne_zero places, separator, fun platform => ?_⟩, nonnegative⟩
    cases platform with
    | legacy => exact Nat.pos_of_ne_zero legacy
    | cloud => exact Nat.pos_of_ne_zero cloud
  · intro screened
    have working (platform : Platform) : ¬settings.parallelism.on platform = 0 :=
      Nat.ne_of_gt (screened.parallelism platform)
    exact ⟨Nat.ne_of_gt screened.places, screened.separator, ⟨working .legacy, working .cloud⟩,
      screened.nonnegative⟩

theorem checked_eq_ok_iff : settings.checked = .ok result ↔
    settings = result ∧ result.IsScreened := by
  rw [checked]
  cases fault : settings.fault? with
  | some fault' =>
      refine iff_of_false nofun ?_
      rintro ⟨rfl, screened⟩
      rw [fault?_eq_none_iff.mpr screened] at fault
      cases fault
  | none =>
      rw [Except.ok.injEq, iff_self_and]
      rintro rfl
      exact fault?_eq_none_iff.mp fault

/-! ## Settings of a text -/

theorem ofText_eq_ok_iff {text : String} : ofText text = .ok result ↔
    (Document.Yaml.read? text).bind ofDocument? = some result ∧ result.IsScreened := by
  rw [ofText]
  cases (Document.Yaml.read? text).bind ofDocument? with
  | none => simp
  | some settings => rw [mapError_eq_ok_iff, checked_eq_ok_iff, Option.some.injEq]

/-! ## Settings with what an environment says -/

/-- Settings are others with what an environment says. -/
structure Follows (settings : Settings) (environment : String → Option String) (result : Settings) :
    Prop where
  absent (platform : Platform) : environment (parallelismVariable platform) = none →
    result.parallelism.on platform = settings.parallelism.on platform
  present (platform : Platform) (value : String) :
    environment (parallelismVariable platform) = some value →
      countOfText? (Text.trimBoth value.toList) = some (result.parallelism.on platform)
  rest : result = { settings with parallelism := result.parallelism }

/-- A variable is present that does not say how many queries run at once on its platform. -/
def Unreadable (environment : String → Option String) (platform : Platform) (value : String) :
    Prop :=
  environment (parallelismVariable platform) = some value ∧
    countOfText? (Text.trimBoth value.toList) = none

variable {environment : String → Option String} {platform : Platform} {value : String}

theorem overridden_eq_ok_iff {own number : Nat} :
    overridden environment platform own = .ok number ↔
      (environment (parallelismVariable platform) = none → number = own) ∧
      ∀ value, environment (parallelismVariable platform) = some value →
        countOfText? (Text.trimBoth value.toList) = some number := by
  simp only [overridden]
  cases environment (parallelismVariable platform) with
  | none => simp [eq_comm]
  | some value => cases read : countOfText? (Text.trimBoth value.toList) <;> simp [read]

theorem overridden_eq_error_iff {own : Nat} {fault : SettingFault} :
    overridden environment platform own = .error fault ↔
      ∃ value, Unreadable environment platform value ∧
        .unreadableVariable (parallelismVariable platform) value = fault := by
  simp only [overridden, Unreadable]
  cases environment (parallelismVariable platform) with
  | none => simp
  | some value => cases read : countOfText? (Text.trimBoth value.toList) <;> simp [read]

theorem follows_iff : settings.Follows environment result ↔
    (∀ platform, overridden environment platform (settings.parallelism.on platform) =
      .ok (result.parallelism.on platform)) ∧
      { settings with parallelism := result.parallelism } = result := by
  simp only [overridden_eq_ok_iff]
  exact ⟨fun follows => ⟨fun platform => ⟨follows.absent platform, follows.present platform⟩,
      follows.rest.symm⟩,
    fun ⟨taken, rest⟩ => ⟨fun platform => (taken platform).1, fun platform => (taken platform).2,
      rest.symm⟩⟩

/-- A variable cannot be read, or both leave their parallelism to the check. -/
theorem withEnvironment_cases (settings : Settings) (environment : String → Option String) :
    (∃ platform value, Unreadable environment platform value ∧
      settings.withEnvironment environment =
        .error (.unreadableVariable (parallelismVariable platform) value)) ∨
    ∃ parallelism : Both Nat,
      (∀ platform, overridden environment platform (settings.parallelism.on platform) =
        .ok (parallelism.on platform)) ∧
      settings.withEnvironment environment =
        checked { settings with parallelism := parallelism } := by
  unfold withEnvironment
  cases legacy : overridden environment .legacy settings.parallelism.legacy with
  | error fault =>
      obtain ⟨value, unreadable, rfl⟩ := overridden_eq_error_iff.mp legacy
      exact .inl ⟨.legacy, value, unreadable, rfl⟩
  | ok queries =>
      cases cloud : overridden environment .cloud settings.parallelism.cloud with
      | error fault =>
          obtain ⟨value, unreadable, rfl⟩ := overridden_eq_error_iff.mp cloud
          exact .inl ⟨.cloud, value, unreadable, rfl⟩
      | ok others =>
          refine .inr ⟨⟨queries, others⟩, fun platform => ?_, rfl⟩
          cases platform with
          | legacy => exact legacy
          | cloud => exact cloud

theorem withEnvironment_eq_ok_iff : settings.withEnvironment environment = .ok result ↔
    settings.Follows environment result ∧ result.IsScreened := by
  rcases settings.withEnvironment_cases environment with
    ⟨platform, value, ⟨said, unread⟩, failed⟩ | ⟨parallelism, taken, checked⟩
  · rw [failed]
    refine iff_of_false nofun fun ⟨follows, _⟩ => ?_
    rw [follows.present platform value said] at unread
    cases unread
  · rw [checked, checked_eq_ok_iff, follows_iff]
    refine and_congr_left fun _ => ⟨?_, fun ⟨given, rest⟩ => ?_⟩
    · rintro rfl
      exact ⟨taken, rfl⟩
    · have same : parallelism = result.parallelism :=
        Both.ext_on fun platform => Except.ok.inj ((taken platform).symm.trans (given platform))
      rw [same, rest]

/-- A variable that cannot be read makes the settings fail, whatever the other one says. -/
theorem withEnvironment_of_unreadable (unreadable : Unreadable environment platform value) :
    ∃ named said, Unreadable environment named said ∧
      settings.withEnvironment environment =
        .error (.unreadableVariable (parallelismVariable named) said) := by
  refine (settings.withEnvironment_cases environment).resolve_right fun ⟨_, taken, _⟩ => ?_
  have read := (overridden_eq_ok_iff.mp (taken platform)).2 value unreadable.1
  rw [unreadable.2] at read
  cases read

/-- **What a run gets is usable, if every bound of a tolerance is a number.** Settings come from a
text, or from other settings that take the parallelism of each platform that the environment sets;
a variable that cannot be read makes them fail. -/
theorem returned_usable_iff (text : String) (settings : Settings)
    (environment : String → Option String) (result : Settings) :
    (ofText text = .ok result ↔
      (Document.Yaml.read? text).bind ofDocument? = some result ∧ result.IsScreened) ∧
    (settings.withEnvironment environment = .ok result ↔
      settings.Follows environment result ∧ result.IsScreened) ∧
    (ofText text = .ok result ∨ settings.withEnvironment environment = .ok result →
      (result.IsUsable ↔ result.HasNumbers)) ∧
    ∀ platform value, Unreadable environment platform value →
      ∃ named said, Unreadable environment named said ∧
        settings.withEnvironment environment =
          .error (.unreadableVariable (parallelismVariable named) said) := by
  refine ⟨ofText_eq_ok_iff, withEnvironment_eq_ok_iff, fun returned => ?_,
    fun _ _ unreadable => withEnvironment_of_unreadable unreadable⟩
  have screened : result.IsScreened := by
    rcases returned with read | set
    · exact (ofText_eq_ok_iff.mp read).2
    · exact (withEnvironment_eq_ok_iff.mp set).2
  rw [isUsable_iff, and_iff_right screened]

example : (withEnvironment {} fun setting =>
      if setting = parallelismVariable .legacy then some " 7 " else none).toOption.map
        (·.parallelism) = some ⟨7, 5⟩ := by
  decide +kernel

/-- Settings with a tolerance whose absolute part is no number. -/
def unorderedBound : String :=
  "stats:\n schema:\n  fields:\n   sum:\n    kind: numeric_tolerance\n    atol: .nan"

/-- A bound that is no number is not below zero, so that it passes. -/
theorem ofText_unorderedBound :
    ∃ settings, ofText unorderedBound = .ok settings ∧ ¬settings.IsUsable := by
  have sum : ((ofText unorderedBound).toOption.bind fun settings =>
      (settings.stats.schema.kindOf .sum).tolerance?) =
        some ⟨.nan, Tolerance.standard.relative⟩ := by
    decide +kernel
  obtain ⟨settings, read, held⟩ := Option.bind_eq_some_iff.mp sum
  refine ⟨settings, ?_, fun usable => ?_⟩
  · cases given : ofText unorderedBound with
    | error => rw [given] at read; cases read
    | ok => rw [given] at read; exact congrArg Except.ok (Option.some.inj read)
  · have ordered := usable.nonnegative .sum .nan ⟨_, held, .inl rfl⟩
    cases ordered

end Settings

end Reconciliation
