import Mathlib.Data.List.Forall2

/-! # Reading all members of a list

A reader that may fail goes through a list member by member. It reads the list exactly if it reads
every member (`mapM_eq_ok_iff`), so one member that it cannot read makes the whole list unreadable
(`exists_mapM_eq_error_iff`): there is no reading of a part.
-/

namespace Reconciliation

variable {α β ε ζ : Type} {read : α → Except ε β} {members : List α} {values : List β}

/-- The values read are those of the members, one by one and in order. -/
theorem mapM_eq_ok_iff : members.mapM read = .ok values ↔
    List.Forall₂ (fun member value => read member = .ok value) members values := by
  induction members generalizing values with
  | nil =>
      rw [List.mapM_nil, List.forall₂_nil_left_iff]
      exact ⟨fun same => (Except.ok.inj same).symm, fun empty => congrArg Except.ok empty.symm⟩
  | cons member members ih =>
      rw [List.mapM_cons, List.forall₂_cons_left_iff]
      cases first : read member with
      | error failure => simp [bind, Except.bind]
      | ok value =>
          cases rest : members.mapM read with
          | error failure => simp [bind, Except.bind, ← ih, rest]
          | ok others =>
              simp only [bind, Except.bind, pure, Except.pure, Except.ok.injEq, ← ih, rest]
              constructor
              · intro same
                exact ⟨value, others, rfl, rfl, same.symm⟩
              · rintro ⟨_, _, rfl, rfl, same⟩
                exact same.symm

/-- A list cannot be read exactly if some member cannot. -/
theorem exists_mapM_eq_error_iff : (∃ failure, members.mapM read = .error failure) ↔
    ∃ member ∈ members, ∃ failure, read member = .error failure := by
  induction members with
  | nil => simp [pure, Except.pure]
  | cons member members ih =>
      rw [List.mapM_cons, List.exists_mem_cons_iff, ← ih]
      cases first : read member with
      | error failure => simp [bind, Except.bind]
      | ok value =>
          cases rest : members.mapM read with
          | error failure => simp [bind, Except.bind]
          | ok others => simp [bind, Except.bind, pure, Except.pure]

section

variable {result : Except ε α} {value : α} {rename : ε → ζ}

theorem exists_eq_ok_of_isOk (ok : result.isOk = true) : ∃ value, result = .ok value := by
  cases result with
  | error failure => cases ok
  | ok value => exact ⟨value, rfl⟩

theorem mapError_eq_ok_iff : result.mapError rename = .ok value ↔ result = .ok value := by
  cases result <;> simp [Except.mapError]

theorem exists_mapError_eq_error_iff : (∃ failure, result.mapError rename = .error failure) ↔
    ∃ failure, result = .error failure := by
  cases result <;> simp [Except.mapError]

end

end Reconciliation
