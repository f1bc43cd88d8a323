import Reconciliation.Proofs.Calendar.Range
import Reconciliation.Vintage.Window

/-! # Windows in order

Windows of which each stops before the next ones start share no date, so a date that lies in one of
them lies in exactly one (`countP_contains_eq_one`).
-/

namespace Reconciliation.Window

/-- No date lies in both windows. -/
def Disjoint (a b : Window) : Prop :=
  ∀ date, ¬(a.contains date = true ∧ b.contains date = true)

/-- A window with an earlier first day than another. -/
def StartsBefore (a b : Window) : Prop :=
  ∃ first second, a.start = some first ∧ b.start = some second ∧ first < second

/-- A window that stops no later than another starts. -/
def Before (a b : Window) : Prop :=
  ∃ stop start, a.stop = some stop ∧ b.start = some start ∧ stop ≤ start

/-- A window of at least one day, with both bounds. -/
def Bounded (window : Window) : Prop :=
  ∃ start stop, window.start = some start ∧ window.stop = some stop ∧ start < stop

/-- A window with bounds is not the snapshot. -/
theorem Bounded.isSnapshot_eq_false {window : Window} (bounded : window.Bounded) :
    window.isSnapshot = false := by
  obtain ⟨start, stop, starts, _, _⟩ := bounded
  simp only [isSnapshot, starts, Option.isNone_some, Bool.false_and]

/-- A date lies in a bounded window exactly between its bounds. -/
theorem contains_eq_true_iff {window : Window} {start stop date : Date}
    (starts : window.start = some start) (stops : window.stop = some stop) :
    window.contains date = true ↔ start ≤ date ∧ date < stop := by
  simp only [contains, starts, stops, Option.all_some, Bool.and_eq_true, decide_eq_true_eq]

/-- A date of a window is not before its first day. -/
theorem start_le_of_contains {window : Window} {start date : Date}
    (starts : window.start = some start) (inside : window.contains date = true) :
    start ≤ date := by
  simp only [contains, starts, Option.all_some, Bool.and_eq_true, decide_eq_true_eq] at inside
  exact inside.1

/-- A date of a window is before its end. -/
theorem lt_stop_of_contains {window : Window} {stop date : Date}
    (stops : window.stop = some stop) (inside : window.contains date = true) : date < stop := by
  simp only [contains, stops, Option.all_some, Bool.and_eq_true, decide_eq_true_eq] at inside
  exact inside.2

/-- Windows of which one stops before the other starts share no date. -/
theorem Before.disjoint {a b : Window} (before : a.Before b) : a.Disjoint b := by
  obtain ⟨stop, start, stops, starts, order⟩ := before
  rintro date ⟨inA, inB⟩
  have ends := Date.lt_iff_dayNumber.mp (lt_stop_of_contains stops inA)
  have begins := Date.le_iff_dayNumber.mp (start_le_of_contains starts inB)
  have := Date.le_iff_dayNumber.mp order
  omega

/-- A window of some days that stops before another starts also starts before it. -/
theorem Before.startsBefore {a b : Window} (before : a.Before b) (bounded : a.Bounded) :
    a.StartsBefore b := by
  obtain ⟨stop, start, stops, starts, order⟩ := before
  obtain ⟨first, stop', firsts, stops', days⟩ := bounded
  cases stops.symm.trans stops'
  exact ⟨first, start, firsts, starts, Std.lt_of_lt_of_le days order⟩

/-- **A date of windows that share none lies in exactly one of them.** -/
theorem countP_contains_eq_one {windows : List Window} {date : Date}
    (disjoint : windows.Pairwise Disjoint)
    (held : ∃ window ∈ windows, window.contains date = true) :
    windows.countP (·.contains date) = 1 := by
  induction windows with
  | nil =>
      obtain ⟨window, member, _⟩ := held
      cases member
  | cons head rest ih =>
      obtain ⟨apart, disjoint⟩ := List.pairwise_cons.mp disjoint
      by_cases inHead : head.contains date = true
      · have outside : rest.countP (·.contains date) = 0 := by
          refine List.countP_eq_zero.mpr fun window member inside => ?_
          exact apart window member date ⟨inHead, inside⟩
        rw [List.countP_cons, if_pos inHead, outside]
      · rw [List.countP_cons, if_neg inHead]
        refine ih disjoint ?_
        obtain ⟨window, member, inside⟩ := held
        rcases List.mem_cons.mp member with rfl | later
        · exact (inHead inside).elim
        · exact ⟨window, later, inside⟩

end Reconciliation.Window
