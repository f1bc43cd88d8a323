import Reconciliation.Proofs.Text.Search

/-! # Pieces that are put together and cut apart

A text that is put together of pieces with a separator between them is cut into the same pieces, if
no piece holds the separator or ends in one of its characters (`splitAll_intercalate`). What a piece
begins with does not matter, since separators are looked for from the left. The last occurrence of a
part divides a text if no other begins behind it (`splitLast?_append`).
-/

namespace Reconciliation.Text

variable {part piece cs before after : List Char} {c : Char}

/-! ## Every occurrence -/

/-- A piece that a separator behind it cuts off: it does not hold the separator, and does not end in
one of its characters. -/
structure IsPiece (part piece : List Char) : Prop where
  absent : ¬part <:+: piece
  ends : ∀ c ∈ piece.getLast?, c ∉ part

namespace IsPiece

/-- Characters that are none of the separator make a piece. -/
theorem of_apart (nonempty : part ≠ []) (apart : ∀ c ∈ piece, c ∉ part) : IsPiece part piece where
  absent := by
    intro occurs
    obtain ⟨c, others, rfl⟩ := List.exists_cons_of_ne_nil nonempty
    exact apart c (occurs.subset List.mem_cons_self) List.mem_cons_self
  ends := fun c last => apart c (List.mem_of_getLast? last)

theorem of_cons (cut : IsPiece part (c :: piece)) : IsPiece part piece where
  absent := fun occurs => cut.absent (List.infix_cons occurs)
  ends := by
    cases piece with
    | nil => nofun
    | cons d piece =>
        rw [← List.getLast?_cons_cons]
        exact cut.ends

/-- No separator begins within a piece. -/
theorem not_prefix (cut : IsPiece part piece) (nonempty : piece ≠ []) (rest : List Char) :
    ¬part <+: piece ++ rest := by
  intro starts
  rcases List.prefix_or_prefix_of_prefix starts (List.prefix_append piece rest) with
    inside | beyond
  · exact cut.absent inside.isInfix
  · -- the separator would go on behind the piece, and hold its last character
    exact cut.ends _ (List.getLast?_eq_some_getLast nonempty)
      (beyond.subset (List.getLast_mem nonempty))

end IsPiece

theorem splitPieces_skip (gathered skipped rest : List Char) :
    splitPieces part skipped.length gathered (skipped ++ rest) = splitPieces part 0 gathered rest := by
  induction skipped with
  | nil => rfl
  | cons c skipped ih => exact ih

/-- A separator ends the piece at hand. -/
theorem splitPieces_part (nonempty : part ≠ []) (gathered rest : List Char) :
    splitPieces part 0 gathered (part ++ rest) = gathered.reverse :: splitAll part rest := by
  have starts := List.prefix_append part rest
  obtain ⟨c, others, rfl⟩ := List.exists_cons_of_ne_nil nonempty
  rw [List.cons_append] at starts ⊢
  rw [splitPieces, if_pos (isSome_afterPrefix?_iff.mpr starts), List.length_cons,
    Nat.add_sub_cancel, splitPieces_skip]
  rfl

/-- The characters of a piece are gathered, whatever follows them. -/
theorem splitPieces_append (cut : IsPiece part piece) (gathered rest : List Char) :
    splitPieces part 0 gathered (piece ++ rest) =
      splitPieces part 0 (piece.reverse ++ gathered) rest := by
  induction piece generalizing gathered with
  | nil => rfl
  | cons c piece ih =>
      have here := cut.not_prefix (List.cons_ne_nil c piece) rest
      rw [List.cons_append] at here ⊢
      rw [splitPieces, if_neg (mt isSome_afterPrefix?_iff.mp here), ih cut.of_cons,
        List.reverse_cons, List.append_assoc, List.singleton_append]

theorem splitAll_append (nonempty : part ≠ []) (cut : IsPiece part piece) (rest : List Char) :
    splitAll part (piece ++ (part ++ rest)) = piece :: splitAll part rest := by
  rw [splitAll, splitPieces_append cut, splitPieces_part nonempty, List.append_nil,
    List.reverse_reverse]

theorem splitAll_piece (cut : IsPiece part piece) : splitAll part piece = [piece] := by
  have gathered := splitPieces_append cut [] []
  rw [List.append_nil, List.append_nil] at gathered
  rw [splitAll, gathered, splitPieces, List.reverse_reverse]

/-- **Pieces with a separator between them are cut apart again.** -/
theorem splitAll_intercalate {pieces : List (List Char)} (nonempty : part ≠ [])
    (any : pieces ≠ []) (cut : ∀ piece ∈ pieces, IsPiece part piece) :
    splitAll part (part.intercalate pieces) = pieces := by
  induction pieces with
  | nil => exact absurd rfl any
  | cons piece rest ih =>
      obtain ⟨here, later⟩ := List.forall_mem_cons.mp cut
      cases rest with
      | nil => rw [List.intercalate_singleton, splitAll_piece here]
      | cons next rest =>
          rw [List.intercalate_cons_cons, List.append_assoc, splitAll_append nonempty here,
            ih (List.cons_ne_nil next rest) later]

/-! ## The last occurrence -/

theorem splitLast?_eq_none (nonempty : part ≠ []) (absent : ¬part <:+: cs) :
    splitLast? part cs = none := by
  induction cs with
  | nil => rw [splitLast?, if_neg (mt List.isEmpty_iff.mp nonempty)]
  | cons c cs ih =>
      have here : afterPrefix? part (c :: cs) = none := by
        rw [← Option.not_isSome_iff_eq_none, isSome_afterPrefix?_iff]
        exact fun starts => absent starts.isInfix
      rw [splitLast?, ih fun occurs => absent (List.infix_cons occurs), here]
      rfl

/-- A part divides a text where no other occurrence begins behind it. -/
theorem splitLast?_append (nonempty : part ≠ []) (last : ¬part <:+: (part ++ after).tail) :
    splitLast? part (before ++ (part ++ after)) = some (before, after) := by
  induction before with
  | nil =>
      have starts : afterPrefix? part (part ++ after) = some after :=
        afterPrefix?_eq_some_iff.mpr rfl
      rw [List.nil_append]
      obtain ⟨c, others, rfl⟩ := List.exists_cons_of_ne_nil nonempty
      rw [List.cons_append] at starts last ⊢
      rw [List.tail_cons] at last
      rw [splitLast?, splitLast?_eq_none nonempty last, starts]
      rfl
  | cons c before ih => rw [List.cons_append, splitLast?, ih]

end Reconciliation.Text
