import Mathlib.Data.List.SplitBy
import Reconciliation.Text.Search

/-! # Parts and words of surrounded texts

A part occurs in a text if the text has it as an infix, and the words of a text are its longest
runs of word characters. Neither changes when characters that belong to no part and to no word are
put before or after the text (`occursIn_surrounded`, `runsOf_surrounded`).
-/

namespace Reconciliation.Text

section Occurrence

variable {part before cs after rest : List Char} {c : Char}

theorem afterPrefix?_eq_some_iff : afterPrefix? part cs = some rest ↔ part ++ rest = cs := by
  induction part generalizing cs with
  | nil => simp only [afterPrefix?, Option.some.injEq, List.nil_append, eq_comm]
  | cons p part ih =>
      cases cs with
      | nil => simp only [afterPrefix?, List.cons_append, reduceCtorEq]
      | cons c cs =>
          by_cases same : p = c
          · simp only [afterPrefix?, same, if_true, ih, List.cons_append, List.cons.injEq, true_and]
          · simp only [afterPrefix?, same, if_false, List.cons_append, List.cons.injEq, false_and,
              reduceCtorEq]

theorem isSome_afterPrefix?_iff : (afterPrefix? part cs).isSome ↔ part <+: cs := by
  simp only [Option.isSome_iff_exists, afterPrefix?_eq_some_iff, List.IsPrefix]

theorem occursIn_iff_infix : occursIn part cs = true ↔ part <:+: cs := by
  unfold occursIn
  induction cs with
  | nil => cases part <;> simp [splitFirst?]
  | cons c cs ih =>
      rw [List.infix_cons_iff, ← ih, ← isSome_afterPrefix?_iff]
      simp only [splitFirst?]
      cases afterPrefix? part (c :: cs) <;> simp

theorem infix_append_left_iff (apart : ∀ c ∈ before, c ∉ part) (nonempty : part ≠ []) :
    part <:+: before ++ cs ↔ part <:+: cs := by
  refine ⟨fun occurs => ?_, fun occurs => occurs.trans (List.infix_append_right)⟩
  induction before with
  | nil => exact occurs
  | cons b before ih =>
      rcases List.infix_cons_iff.mp occurs with start | later
      · obtain ⟨p, others, rfl⟩ := List.exists_cons_of_ne_nil nonempty
        have same : p = b := (List.cons_prefix_cons.mp start).1
        exact (apart b List.mem_cons_self (same ▸ List.mem_cons_self)).elim
      · exact ih (fun c member => apart c (List.mem_cons_of_mem b member)) later

theorem infix_append_right_iff (apart : ∀ c ∈ after, c ∉ part) (nonempty : part ≠ []) :
    part <:+: cs ++ after ↔ part <:+: cs := by
  rw [← List.reverse_infix, List.reverse_append,
    infix_append_left_iff (fun c member => by
      rw [List.mem_reverse]
      exact apart c (List.mem_reverse.mp member)) (by rwa [Ne, List.reverse_eq_nil_iff]),
    List.reverse_infix]

/-- A part that shares no character with what surrounds a text is looked for within it. -/
theorem occursIn_surrounded (apartBefore : ∀ c ∈ before, c ∉ part)
    (apartAfter : ∀ c ∈ after, c ∉ part) (nonempty : part ≠ []) :
    occursIn part (before ++ (cs ++ after)) = occursIn part cs := by
  rw [Bool.eq_iff_iff, occursIn_iff_infix, occursIn_iff_infix,
    infix_append_left_iff apartBefore nonempty, infix_append_right_iff apartAfter nonempty]

end Occurrence

section Words

variable {p : Char → Bool} {before cs after : List Char}

theorem runsOf_append (apart : ∀ a ∈ before.getLast?, ∀ b ∈ cs.head?, p a ≠ p b) :
    runsOf p (before ++ cs) = runsOf p before ++ runsOf p cs := by
  unfold runsOf
  rw [List.splitBy_append fun a last b head => beq_eq_false_iff_ne.mpr (apart a last b head),
    List.filter_append]

theorem runsOf_eq_nil (none : ∀ c ∈ cs, p c = false) : runsOf p cs = [] := by
  unfold runsOf
  rw [List.filter_eq_nil_iff]
  intro run member starts
  obtain ⟨c, head, inWord⟩ := (Option.any_eq_true _ _).mp starts
  have within : c ∈ (cs.splitBy fun a b => p a == p b).flatten :=
    List.mem_flatten_of_mem member (List.mem_of_mem_head? head)
  rw [List.flatten_splitBy] at within
  exact absurd inWord (Bool.eq_false_iff.mp (none c within))

theorem runsOf_append_left (none : ∀ c ∈ before, p c = false) :
    runsOf p (before ++ cs) = runsOf p cs := by
  induction cs generalizing before with
  | nil => rw [List.append_nil, runsOf_eq_nil none, runsOf_eq_nil (List.forall_mem_nil _)]
  | cons c cs ih =>
      cases inWord : p c with
      | true =>
          have apart : ∀ a ∈ before.getLast?, ∀ b ∈ (c :: cs).head?, p a ≠ p b := by
            rintro a last b ⟨⟩
            rw [none a (List.mem_of_getLast? last), inWord]
            exact Bool.false_ne_true
          rw [runsOf_append apart, runsOf_eq_nil none, List.nil_append]
      | false =>
          -- a character of no word joins those before it
          have joined : ∀ a ∈ before ++ [c], p a = false := by
            intro a member
            rcases List.mem_append.mp member with earlier | here
            · exact none a earlier
            · rwa [List.mem_singleton.mp here]
          rw [List.append_cons, ih joined, ← List.singleton_append,
            ih fun a member => joined a (List.mem_append_right before member)]

theorem runsOf_append_right (none : ∀ c ∈ after, p c = false) :
    runsOf p (cs ++ after) = runsOf p cs := by
  induction cs using List.reverseRecOn generalizing after with
  | nil => rw [List.nil_append, runsOf_eq_nil none, runsOf_eq_nil (List.forall_mem_nil _)]
  | append_singleton cs c ih =>
      cases inWord : p c with
      | true =>
          have apart : ∀ a ∈ (cs ++ [c]).getLast?, ∀ b ∈ after.head?, p a ≠ p b := by
            intro a last b head
            rw [List.getLast?_concat, Option.mem_some_iff] at last
            rw [← last, inWord, none b (List.mem_of_mem_head? head)]
            exact Bool.noConfusion
          rw [runsOf_append apart, runsOf_eq_nil none, List.append_nil]
      | false =>
          have joined : ∀ a ∈ c :: after, p a = false := by
            intro a member
            rcases List.mem_cons.mp member with rfl | later
            · exact inWord
            · exact none a later
          rw [List.append_assoc, List.singleton_append, ih joined,
            ih fun a member => List.mem_singleton.mp member ▸ inWord]

/-- Characters of no word around a text leave its words as they are. -/
theorem runsOf_surrounded (noneBefore : ∀ c ∈ before, p c = false)
    (noneAfter : ∀ c ∈ after, p c = false) : runsOf p (before ++ (cs ++ after)) = runsOf p cs := by
  rw [runsOf_append_left noneBefore, runsOf_append_right noneAfter]

end Words

end Reconciliation.Text
