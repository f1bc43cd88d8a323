import Reconciliation.Session.Inquiry

/-! # Orders in which work finishes

A platform runs a bounded number of its units at once and starts the next one whenever one finishes.
The orders in which the units can then finish are exactly the finishing orders of all turns
(`finishes_iff_exists_turn`), so what holds for every turn holds for every interleaving.
-/

namespace Reconciliation

variable {α : Type} {width : Nat} {units order : List α}

/-- Units of which the first `width` are running finish in an order: one of the running units, and
then the others, among which the next waiting one has started. -/
inductive Finishes (width : Nat) : List α → List α → Prop where
  | done : Finishes width [] []
  | next {units order : List α} (place : Nat) (running : place < min (max width 1) units.length)
      (later : Finishes width (units.eraseIdx place) order) :
      Finishes width units (units[place] :: order)

theorem finishingOrder_nil (turn : Nat → Nat) :
    finishingOrder width turn ([] : List α) = [] := by
  rw [finishingOrder]
  exact dif_neg (Nat.lt_irrefl 0)

/-- A turn among the running units finishes the unit of its place. -/
theorem finishingOrder_of_turn {turn : Nat → Nat} {place : Nat}
    (running : place < min (max width 1) units.length)
    (chosen : turn units.length % min (max width 1) units.length = place) :
    finishingOrder width turn units =
      units[place] :: finishingOrder width turn (units.eraseIdx place) := by
  subst chosen
  rw [finishingOrder, dif_pos (by omega)]

theorem finishes_finishingOrder (width : Nat) (turn : Nat → Nat) (units : List α) :
    Finishes width units (finishingOrder width turn units) := by
  fun_induction finishingOrder width turn units with
  | case1 units nonempty running inside ih =>
      exact .next _ (Nat.mod_lt _ (by omega)) ih
  | case2 units empty =>
      rw [List.eq_nil_of_length_eq_zero (Nat.eq_zero_of_not_pos empty)]
      exact .done

/-- Only the turns up to the number of units matter. -/
theorem finishingOrder_congr {turn other : Nat → Nat}
    (same : ∀ count ≤ units.length, turn count = other count) :
    finishingOrder width turn units = finishingOrder width other units := by
  fun_induction finishingOrder width turn units with
  | case1 units nonempty running inside ih =>
      have chosen : other units.length % running = turn units.length % running := by
        rw [same units.length (Nat.le_refl _)]
      rw [finishingOrder_of_turn (Nat.mod_lt _ (by omega)) chosen]
      congr 1
      apply ih
      intro count bound
      apply same
      rw [List.length_eraseIdx_of_lt inside] at bound
      omega
  | case2 units empty =>
      rw [List.eq_nil_of_length_eq_zero (Nat.eq_zero_of_not_pos empty), finishingOrder_nil]

/-- **The orders in which a bounded number of running units can finish are the finishing orders of
all turns.** -/
theorem finishes_iff_exists_turn :
    Finishes width units order ↔ ∃ turn, finishingOrder width turn units = order := by
  constructor
  · intro finishes
    induction finishes with
    | done => exact ⟨fun _ => 0, finishingOrder_nil _⟩
    | @next units order place running later ih =>
        obtain ⟨turn, rfl⟩ := ih
        -- the shorter rest never asks for the turn of the whole
        refine ⟨fun count => if count = units.length then place else turn count, ?_⟩
        rw [finishingOrder_of_turn running (by rw [if_pos rfl, Nat.mod_eq_of_lt running])]
        congr 1
        apply finishingOrder_congr
        intro count bound
        rw [List.length_eraseIdx_of_lt (by omega)] at bound
        exact if_neg (by omega)
  · rintro ⟨turn, rfl⟩
    exact finishes_finishingOrder width turn units

end Reconciliation
