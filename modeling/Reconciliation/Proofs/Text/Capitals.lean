import Reconciliation.Proofs.Text.Letters

/-! # Capital Latin letters

Upper case leaves no small Latin letter (`isLower_of_mem_upper`), and lower case keeps apart what
consists of the other Latin characters (`upper_lower`). Beyond these it need not: the Kelvin sign is
lowered to `k` as well.
-/

namespace Reconciliation.Text

variable {c : Char}

theorem isLower_iff : c.isLower = true ↔ 'a'.toNat ≤ c.toNat ∧ c.toNat ≤ 'z'.toNat :=
  Bool.and_eq_true_iff.trans (and_congr decide_eq_true_iff decide_eq_true_iff)

/-- A run starts from Latin letters or does not lead to small ones. -/
def CaseRun.avoidsSmall (run : CaseRun) : Bool :=
  run.last < 0x80 || 'z'.toNat < run.first + run.shift || run.last + run.shift < 'a'.toNat

theorem avoidsSmall_upperRuns : upperRuns.all CaseRun.avoidsSmall = true := by
  decide +kernel

theorem isLower_ofNat {code : Nat} (outside : code < 'a'.toNat ∨ 'z'.toNat < code) :
    (Char.ofNat code).isLower = false := by
  rw [← Bool.not_eq_true, isLower_iff]
  by_cases valid : code.isValidChar
  · rw [toNat_ofNat valid]
    omega
  · have zero : Char.ofNat code = Char.ofNat 0 := dif_neg valid
    rw [zero]
    decide

theorem CaseRun.isLower_of_convert? {run : CaseRun} (avoids : run.avoidsSmall = true)
    {code converted : Nat} (beyond : 0x80 ≤ code) (found : run.convert? code = some converted) :
    (Char.ofNat converted).isLower = false := by
  unfold convert? at found
  split at found
  · next inside =>
      obtain rfl := Option.some.inj found
      simp only [avoidsSmall, Bool.or_eq_true, decide_eq_true_eq] at avoids
      have positive : 0 < 'a'.toNat := by decide
      apply isLower_ofNat
      omega
  · cases found

/-- Upper case leaves no small Latin letter. -/
theorem isLower_upperChar {d : Char} (member : d ∈ upperChar c) : d.isLower = false := by
  unfold upperChar at member
  split at member
  · next latin =>
      rw [List.mem_singleton.mp member]
      exact of_lt (P := fun c => c.toUpper.isLower = false) (by decide +kernel) latin
  next beyond =>
  cases expanded : upperExpansions.lookup c.toNat with
  | some codes =>
      rw [expanded] at member
      obtain ⟨code, listed, rfl⟩ := List.mem_map.mp member
      have capital : ∀ entry ∈ upperExpansions, ∀ code ∈ entry.2,
          (Char.ofNat code).isLower = false := by
        decide +kernel
      obtain ⟨_, _, entries, _⟩ := List.lookup_eq_some_iff.mp expanded
      exact capital _ (entries ▸ List.mem_append_right _ List.mem_cons_self) code listed
  | none =>
      rw [expanded] at member
      cases found : upperRuns.findSome? (·.convert? c.toNat) with
      | none =>
          rw [found] at member
          rw [List.mem_singleton.mp member, ← Bool.not_eq_true, isLower_iff]
          have bound : 'z'.toNat < 0x80 := by decide
          omega
      | some code =>
          rw [found] at member
          rw [List.mem_singleton.mp member]
          obtain ⟨run, listed, found⟩ := List.exists_of_findSome?_eq_some found
          have avoids := List.all_eq_true.mp avoidsSmall_upperRuns run listed
          exact CaseRun.isLower_of_convert? avoids (Nat.not_lt.mp beyond) found

theorem isLower_of_mem_upper {text : String} (member : c ∈ (upper text).toList) :
    c.isLower = false := by
  rw [toList_upper, List.mem_flatMap] at member
  obtain ⟨d, -, converted⟩ := member
  exact isLower_upperChar converted

theorem lowerFrom_of_latin {before cs : List Char} (latin : ∀ c ∈ cs, c.toNat < 0x80) :
    lowerFrom before cs = cs.map Char.toLower := by
  induction cs generalizing before with
  | nil => rfl
  | cons c cs ih =>
      obtain ⟨first, rest⟩ := List.forall_mem_cons.mp latin
      rw [lowerFrom_cons_of_latin first, ih rest, List.map_cons]

theorem lower_of_latin {text : String} (latin : ∀ c ∈ text.toList, c.toNat < 0x80) :
    lower text = String.ofList (letters text) :=
  congrArg String.ofList (lowerFrom_of_latin latin)

/-- Upper case undoes lower case on a text of Latin letters none of which is small. -/
theorem upper_lower {text : String} (latin : ∀ c ∈ text.toList, c.toNat < 0x80)
    (capital : ∀ c ∈ text.toList, c.isLower = false) : upper (lower text) = text := by
  have back (c : Char) (member : c ∈ text.toList) : upperChar c.toLower = [c] :=
    of_lt (P := fun c => c.isLower = false → upperChar c.toLower = [c]) (by decide +kernel)
      (latin c member) (capital c member)
  rw [upper, lower_of_latin latin, String.toList_ofList, letters, List.flatMap_map,
    List.flatMap_congr back, List.flatMap_singleton', String.ofList_toList]

theorem upper_append (text other : String) : upper (text ++ other) = upper text ++ upper other := by
  rw [upper, String.toList_append, List.flatMap_append, String.ofList_append]
  rfl

end Reconciliation.Text
