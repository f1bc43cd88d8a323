import Reconciliation.Proofs.Text.Blank
import Reconciliation.Text.Case

/-! # Lower case and blanks

A blank is its own lower case, and it has no case that would make a sigma beside it final or not.
So trimming and lowering a text agree: the lower case of a text is that of the trimmed text, with
the same blanks around it (`lower_eq_surrounded`).
-/

namespace Reconciliation.Text

variable {before blanks cs : List Char} {c : Char}

/-- The code points of the blanks. -/
def blankCodes : List Nat :=
  List.range' 0x9 5 ++ List.range' 0x2000 11 ++
    [0x20, 0x85, 0xA0, 0x1680, 0x2028, 0x2029, 0x202F, 0x205F, 0x3000]

theorem toNat_mem_blankCodes (blank : isBlank c = true) : c.toNat ∈ blankCodes := by
  simp only [isBlank, Bool.or_eq_true, Bool.and_eq_true, decide_eq_true_eq, beq_iff_eq] at blank
  simp only [blankCodes, List.mem_append, List.mem_range'_1, List.mem_cons, List.not_mem_nil,
    or_false]
  omega

/-- What holds of each of the blanks holds of every blank. -/
theorem of_isBlank {P : Char → Prop} (each : ∀ code ∈ blankCodes, P (Char.ofNat code))
    (blank : isBlank c = true) : P c := by
  have known := each c.toNat (toNat_mem_blankCodes blank)
  rwa [Char.ofNat_toNat] at known

theorem lowerChar_of_isBlank (blank : isBlank c = true) : lowerChar c = [c] :=
  of_isBlank (P := fun c => lowerChar c = [c]) (by decide +kernel) blank

theorem ne_sigma_of_isBlank (blank : isBlank c = true) : c ≠ 'Σ' :=
  of_isBlank (P := fun c => c ≠ 'Σ') (by decide +kernel) blank

/-- A blank parts a sigma from the letters behind it. -/
theorem not_caseIgnorable_of_isBlank (blank : isBlank c = true) :
    inRanges caseIgnorableRanges c.toNat = false :=
  of_isBlank (P := fun c => inRanges caseIgnorableRanges c.toNat = false) (by decide +kernel) blank

theorem not_cased_of_isBlank (blank : isBlank c = true) : inRanges casedRanges c.toNat = false :=
  of_isBlank (P := fun c => inRanges casedRanges c.toNat = false) (by decide +kernel) blank

theorem meetsCased_cons (c : Char) (cs : List Char) :
    meetsCased (c :: cs) =
      if inRanges caseIgnorableRanges c.toNat then meetsCased cs
      else inRanges casedRanges c.toNat := by
  unfold meetsCased
  cases ignorable : inRanges caseIgnorableRanges c.toNat <;>
    simp only [List.dropWhile_cons, ignorable, if_true, Bool.false_eq_true, if_false]

theorem meetsCased_blanks (allBlank : ∀ c ∈ blanks, isBlank c = true) :
    meetsCased blanks = false := by
  cases blanks with
  | nil => rfl
  | cons b blanks =>
      have blank := allBlank b List.mem_cons_self
      rw [meetsCased_cons, not_caseIgnorable_of_isBlank blank, not_cased_of_isBlank blank]
      rfl

theorem meetsCased_append_blanks (allBlank : ∀ c ∈ blanks, isBlank c = true) (cs : List Char) :
    meetsCased (cs ++ blanks) = meetsCased cs := by
  induction cs with
  | nil => exact meetsCased_blanks allBlank
  | cons c cs ih => rw [List.cons_append, meetsCased_cons, meetsCased_cons, ih]

theorem lowerFrom_cons_of_isBlank (blank : isBlank c = true) :
    lowerFrom before (c :: cs) = c :: lowerFrom (c :: before) cs := by
  rw [lowerFrom, if_neg (ne_sigma_of_isBlank blank), lowerChar_of_isBlank blank]
  rfl

/-- Blanks are copied, and stand before what follows them. -/
theorem lowerFrom_blanks_append (allBlank : ∀ c ∈ blanks, isBlank c = true) (cs : List Char) :
    lowerFrom before (blanks ++ cs) = blanks ++ lowerFrom (blanks.reverse ++ before) cs := by
  induction blanks generalizing before with
  | nil => rfl
  | cons b blanks ih =>
      rw [List.cons_append, lowerFrom_cons_of_isBlank (allBlank b List.mem_cons_self),
        ih fun c member => allBlank c (List.mem_cons_of_mem b member), List.reverse_cons,
        List.append_assoc, List.cons_append, List.singleton_append]

/-- Blanks at the start of a text do not change how the rest of it is lowered. -/
theorem lowerFrom_before_append_blanks (allBlank : ∀ c ∈ blanks, isBlank c = true)
    (cs : List Char) : lowerFrom (before ++ blanks) cs = lowerFrom before cs := by
  induction cs generalizing before with
  | nil => rfl
  | cons c cs ih =>
      rw [lowerFrom, lowerFrom, meetsCased_append_blanks allBlank, ← List.cons_append, ih]

theorem lowerFrom_append_blanks (allBlank : ∀ c ∈ blanks, isBlank c = true) (cs : List Char) :
    lowerFrom before (cs ++ blanks) = lowerFrom before cs ++ blanks := by
  induction cs generalizing before with
  | nil =>
      have copied : lowerFrom before (blanks ++ []) = _ := lowerFrom_blanks_append allBlank []
      rwa [List.append_nil, lowerFrom, List.append_nil] at copied
  | cons c cs ih =>
      rw [List.cons_append, lowerFrom, lowerFrom, meetsCased_append_blanks allBlank, ih,
        List.append_assoc]

/-- The lower case of a text is that of the trimmed text, with the same blanks around it. -/
theorem lower_eq_surrounded (text : String) :
    ∃ before after : List Char,
      (∀ c ∈ before, isBlank c = true) ∧ (∀ c ∈ after, isBlank c = true) ∧
      (lower text).toList = before ++ ((lower (trim text)).toList ++ after) := by
  obtain ⟨before, after, blankBefore, blankAfter, same⟩ := exists_blanks_trimBoth text.toList
  refine ⟨before, after, blankBefore, blankAfter, ?_⟩
  have reversed : ∀ c ∈ before.reverse, isBlank c = true := fun c member =>
    blankBefore c (List.mem_reverse.mp member)
  rw [toList_lower, toList_lower, toList_trim]
  generalize trimBoth text.toList = trimmed at same ⊢
  rw [same, lowerFrom_blanks_append blankBefore, List.append_nil, ← List.nil_append before.reverse,
    lowerFrom_before_append_blanks reversed, lowerFrom_append_blanks blankAfter]

end Reconciliation.Text
