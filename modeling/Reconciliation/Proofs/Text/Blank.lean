import Reconciliation.Text.Blank

/-! # Laws of trimming

A trimmed text starts with no blank, and trimming leaves a text without blanks as it is.
-/

namespace Reconciliation.Text

variable {cs : List Char} {c : Char}

theorem trimStart_of_head (noBlank : ∀ c ∈ cs.head?, isBlank c = false) : trimStart cs = cs := by
  cases cs with
  | nil => rfl
  | cons c rest => exact List.dropWhile_cons_of_neg (Bool.eq_false_iff.mp (noBlank c rfl))

theorem head?_trimStart : ∀ c ∈ (trimStart cs).head?, isBlank c = false := by
  intro c head
  have noBlank := List.head?_dropWhile_not isBlank cs
  unfold trimStart at head
  rw [Option.mem_def.mp head] at noBlank
  exact noBlank

/-- The end of a text is cut off without touching its head. -/
theorem head?_trimEnd : ∀ c ∈ (trimEnd cs).head?, c ∈ cs.head? := by
  intro c head
  obtain ⟨blanks, same⟩ : trimEnd cs <+: cs := by
    unfold trimEnd
    rw [← List.reverse_suffix, List.reverse_reverse]
    exact List.dropWhile_suffix _
  rw [← same, List.head?_append, Option.mem_def.mp head]
  rfl

@[simp] theorem trimStart_trimBoth (cs : List Char) : trimStart (trimBoth cs) = trimBoth cs :=
  trimStart_of_head fun c head => head?_trimStart c (head?_trimEnd c head)

theorem trimBoth_eq_self (noBlank : ∀ c ∈ cs, isBlank c = false) : trimBoth cs = cs := by
  unfold trimBoth trimEnd
  rw [trimStart_of_head fun c head => noBlank c (List.mem_of_mem_head? head), List.reverse_eq_iff]
  apply trimStart_of_head
  intro c head
  exact noBlank c (List.mem_reverse.mp (List.mem_of_mem_head? head))

/-- Trimming takes away the blanks on both sides of a text that begins and ends with none. -/
theorem trimBoth_append_append {before after : List Char} {first last : Char}
    (blanksBefore : ∀ c ∈ before, isBlank c = true) (blanksAfter : ∀ c ∈ after, isBlank c = true)
    (head : cs.head? = some first) (end' : cs.getLast? = some last)
    (noBlankFirst : isBlank first = false) (noBlankLast : isBlank last = false) :
    trimBoth (before ++ (cs ++ after)) = cs := by
  have start : trimStart (before ++ (cs ++ after)) = cs ++ after := by
    unfold trimStart
    rw [List.dropWhile_append_of_pos blanksBefore]
    apply trimStart_of_head
    rw [List.head?_append, head]
    rintro c ⟨⟩
    exact noBlankFirst
  unfold trimBoth trimEnd
  rw [start, List.reverse_append,
    List.dropWhile_append_of_pos fun c member => blanksAfter c (List.mem_reverse.mp member),
    List.reverse_eq_iff]
  apply trimStart_of_head
  rw [List.head?_reverse, end']
  rintro c ⟨⟩
  exact noBlankLast

/-- A text is the trimmed text with blanks around it. -/
theorem exists_blanks_trimBoth (cs : List Char) :
    ∃ before after : List Char,
      (∀ c ∈ before, isBlank c = true) ∧ (∀ c ∈ after, isBlank c = true) ∧
      cs = before ++ (trimBoth cs ++ after) := by
  refine ⟨cs.takeWhile isBlank, ((trimStart cs).reverse.takeWhile isBlank).reverse,
    List.all_eq_true.mp List.all_takeWhile,
    fun c member => List.all_eq_true.mp List.all_takeWhile c (List.mem_reverse.mp member), ?_⟩
  rw [trimBoth, trimEnd, ← List.reverse_append, List.takeWhile_append_dropWhile,
    List.reverse_reverse, trimStart, List.takeWhile_append_dropWhile]

theorem trimBoth_sublist (cs : List Char) : (trimBoth cs).Sublist cs := by
  have atEnd : (trimEnd (trimStart cs)).reverse.Sublist (trimStart cs).reverse := by
    unfold trimEnd
    rw [List.reverse_reverse]
    exact List.dropWhile_sublist _
  exact (List.reverse_sublist.mp atEnd).trans (List.dropWhile_sublist _)

theorem isBlank_of_isDigit (digit : c.isDigit = true) : isBlank c = false := by
  simp only [Char.isDigit, Bool.and_eq_true, decide_eq_true_eq] at digit
  have low : 48 ≤ c.toNat := digit.1
  have high : c.toNat ≤ 57 := digit.2
  simp only [isBlank, Bool.or_eq_false_iff, Bool.and_eq_false_iff, decide_eq_false_iff_not,
    beq_eq_false_iff_ne]
  omega

end Reconciliation.Text
