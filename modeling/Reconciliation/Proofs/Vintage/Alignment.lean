import Reconciliation.Proofs.SortedMap
import Reconciliation.Proofs.Vintage.UnitWindows
import Reconciliation.Vintage.Validation

/-! # Windows that two tables share

Equal labels name equal units, so aligning the units of two lists of dates keeps those that are in
both lists as they are (`align_eq_filter`). Whole ranges are aligned to the range that covers both.
In either case the shared windows are bounded, stand in order and hold every date that is on both
sides (`sharedSeries_of_sharedWindows`).
-/

namespace Reconciliation

open Date

/-! ## Aligning -/

namespace Window

/-- Windows of some days each, of which each stops before the next ones start. -/
structure Series (windows : List Window) : Prop where
  bounded : ∀ window ∈ windows, window.Bounded
  ordered : windows.Pairwise Before

/-- A window and itself cover the window. -/
theorem union_self (window : Window) : window.union window = window := by
  obtain ⟨label, start, stop⟩ := window
  cases start <;> cases stop <;> simp [union, unionBound, earliest, latest]

/-- The windows of a series are listed in order. -/
theorem Series.listed {windows : List Window} (series : Series windows) :
    windows.Pairwise fun a b => listedNoLater a b = true := by
  refine series.ordered.imp_of_mem fun {a b} member _ before => ?_
  obtain ⟨first, second, starts, starts', less⟩ := before.startsBefore (series.bounded a member)
  have distinct : a.start ≠ b.start := by
    rw [starts, starts']
    exact fun same => Std.ne_of_lt less (Option.some.inj same)
  rw [listedNoLater, if_neg distinct, starts, starts']
  exact decide_eq_true (Std.le_of_lt less)

/-- The windows by their labels; of windows of one label the last. -/
def byLabel (windows : List Window) : SortedMap String Window :=
  SortedMap.ofList (windows.map fun window => (window.label, window))

/-- A window that is found by its label is one of the windows and has the label. -/
theorem mem_of_get?_byLabel {windows : List Window} {label : String} {window : Window}
    (found : (byLabel windows).get? label = some window) :
    window ∈ windows ∧ label = window.label := by
  obtain ⟨other, member, labelled⟩ := List.mem_map.mp (SortedMap.mem_of_get?_ofList found)
  cases labelled
  exact ⟨member, rfl⟩

/-- The label of any of the windows finds a window. -/
theorem exists_get?_byLabel {windows : List Window} {window : Window} (member : window ∈ windows) :
    ∃ found, (byLabel windows).get? window.label = some found := by
  refine Option.isSome_iff_exists.mp (SortedMap.isSome_get?_ofList_iff.mpr ?_)
  rw [List.map_map]
  exact List.mem_map.mpr ⟨window, member, rfl⟩

/-- What alignment makes of a window whose label names nothing but itself on the other side. -/
theorem map_union_byLabel {window : Window} {cloud : List Window}
    (agree : ∀ other ∈ cloud, window.label = other.label → window = other) :
    ((byLabel cloud).get? window.label).map window.union =
      if window ∈ cloud then some window else none := by
  split
  · next member =>
      obtain ⟨other, found⟩ := exists_get?_byLabel member
      obtain ⟨inCloud, label⟩ := mem_of_get?_byLabel found
      rw [found, ← agree other inCloud label, Option.map_some, union_self]
  · next missing =>
      cases found : (byLabel cloud).get? window.label with
      | none => rfl
      | some other =>
          obtain ⟨inCloud, label⟩ := mem_of_get?_byLabel found
          exact (missing (agree other inCloud label ▸ inCloud)).elim

/-- The windows that find their label on the other side are those on both sides. -/
theorem filterMap_byLabel_eq_filter {legacy cloud : List Window}
    (agree : ∀ window ∈ legacy, ∀ other ∈ cloud, window.label = other.label → window = other) :
    (legacy.filterMap fun window => ((byLabel cloud).get? window.label).map window.union) =
      legacy.filter (· ∈ cloud) := by
  induction legacy with
  | nil => rfl
  | cons head rest ih =>
      have onward := ih fun window later => agree window (List.mem_cons_of_mem _ later)
      have atHead := map_union_byLabel (agree head List.mem_cons_self)
      by_cases member : head ∈ cloud
      · rw [if_pos member] at atHead
        simp only [List.filterMap_cons, atHead, onward, List.filter_cons, member, decide_true,
          if_true]
      · rw [if_neg member] at atHead
        simp only [List.filterMap_cons, atHead, onward, List.filter_cons, member, decide_false,
          Bool.false_eq_true, if_false]

/-- **Aligning windows that agree on their labels keeps those on both sides.** -/
theorem align_eq_filter {legacy cloud : List Window} (series : Series legacy)
    (agree : ∀ window ∈ legacy, ∀ other ∈ cloud, window.label = other.label → window = other) :
    align legacy cloud = legacy.filter (· ∈ cloud) := by
  change (legacy.filterMap fun window =>
    ((byLabel cloud).get? window.label).map window.union).mergeSort listedNoLater = _
  rw [filterMap_byLabel_eq_filter agree]
  -- part of a list in order is in order, so sorting leaves it as it is
  exact List.mergeSort_of_pairwise (series.listed.sublist List.filter_sublist)

/-- Part of a series is a series. -/
theorem Series.filter {windows : List Window} (series : Series windows) (keep : Window → Bool) :
    Series (windows.filter keep) where
  bounded window member := series.bounded window (List.mem_of_mem_filter member)
  ordered := series.ordered.sublist List.filter_sublist

end Window

/-! ## The windows of observed dates -/

/-- The windows of observed dates cut a range that holds them all. -/
theorem Granularity.windowsOfDates_cons {granularity : Granularity} {first : Date}
    {rest : List Date} (calendar : granularity ≠ .snapshot) :
    granularity.windowsOfDates (first :: rest) =
      granularity.windows (rest.foldl earliest first) (rest.foldl latest first) := by
  cases granularity with
  | snapshot => exact (calendar rfl).elim
  | day => rfl
  | week => rfl
  | month => rfl
  | whole => rfl

/-- Without dates there are no windows. -/
theorem Granularity.windowsOfDates_nil {granularity : Granularity}
    (calendar : granularity ≠ .snapshot) : granularity.windowsOfDates [] = .ok [] := by
  cases granularity with
  | snapshot => exact (calendar rfl).elim
  | day => rfl
  | week => rfl
  | month => rfl
  | whole => rfl

namespace CalendarUnit

variable {unit : CalendarUnit}

/-- The granularity of a unit is not the snapshot. -/
theorem granularity_ne_snapshot (unit : CalendarUnit) : unit.granularity ≠ .snapshot := by
  cases unit <;> decide

/-- The windows of a granularity of units. -/
theorem granularity_windows (unit : CalendarUnit) (a b : Date) :
    unit.granularity.windows a b = unit.windows (earliest a b) (latest a b) := by
  cases unit <;> rfl

/-- The units of observed dates. -/
structure UnitsOf (unit : CalendarUnit) (dates : List Date) (windows : List Window) : Prop where
  units : ∀ window ∈ windows, ∃ date, window.OfUnit unit date
  ordered : windows.Pairwise Window.Before
  covers : ∀ date ∈ dates, ∃ window ∈ windows, window.OfUnit unit date

/-- Observed dates are cut into their units. -/
theorem unitsOf_windowsOfDates {dates : List Date} {windows : List Window}
    (found : unit.granularity.windowsOfDates dates = .ok windows) :
    unit.UnitsOf dates windows := by
  cases dates with
  | nil =>
      rw [Granularity.windowsOfDates_nil unit.granularity_ne_snapshot] at found
      cases found
      refine ⟨fun _ member => ?_, .nil, fun _ member => ?_⟩ <;> cases member
  | cons first rest =>
      rw [Granularity.windowsOfDates_cons unit.granularity_ne_snapshot, granularity_windows] at found
      have run := run_of_windows found
      refine ⟨?_, run.ordered, ?_⟩
      · intro window member
        obtain ⟨date, _, _, ofUnit⟩ := run.units window member
        exact ⟨date, ofUnit⟩
      · intro date member
        refine run.covers ?_ ?_
        · exact Std.le_trans (earliest_le_left _ _) (foldl_earliest_le member)
        · exact Std.le_trans (le_foldl_latest member) (right_le_latest _ _)

/-- The units of observed dates are a series. -/
theorem UnitsOf.series {dates : List Date} {windows : List Window}
    (unitsOf : unit.UnitsOf dates windows) : Window.Series windows where
  bounded window member := by
    obtain ⟨_, ofUnit⟩ := unitsOf.units window member
    exact ofUnit.bounded
  ordered := unitsOf.ordered

/-- Units of equal labels are equal. -/
theorem UnitsOf.agree {dates others : List Date} {legacy cloud : List Window}
    (left : unit.UnitsOf dates legacy) (right : unit.UnitsOf others cloud) :
    ∀ window ∈ legacy, ∀ other ∈ cloud, window.label = other.label → window = other := by
  intro window inLegacy other inCloud labels
  obtain ⟨a, ofA⟩ := left.units window inLegacy
  obtain ⟨b, ofB⟩ := right.units other inCloud
  rw [ofA.label, ofB.label] at labels
  exact ofA.unique (ofB.of_same (label_eq_iff.mp labels).symm)

end CalendarUnit

/-! ## Shared windows -/

/-- Windows in order that hold the dates which are on both sides. -/
structure SharedSeries (dates : Both (List Date)) (windows : List Window) : Prop where
  /-- The windows are bounded and stand in order. -/
  series : Window.Series windows
  /-- Every date of both sides lies in a window. -/
  covers : ∀ date, date ∈ dates.legacy → date ∈ dates.cloud →
    ∃ window ∈ windows, window.contains date = true

/-- Where one side has no dates, no window is needed. -/
theorem SharedSeries.nil {dates : Both (List Date)} (empty : dates.legacy = [] ∨ dates.cloud = []) :
    SharedSeries dates [] where
  series := ⟨fun _ member => (List.not_mem_nil member).elim, .nil⟩
  covers date inLegacy inCloud := by
    rcases empty with legacy | cloud
    · rw [legacy] at inLegacy
      cases inLegacy
    · rw [cloud] at inCloud
      cases inCloud

/-- Aligned units hold the dates of both sides. -/
theorem sharedSeries_align_units {unit : CalendarUnit} {dates : Both (List Date)}
    {legacy cloud : List Window} (left : unit.UnitsOf dates.legacy legacy)
    (right : unit.UnitsOf dates.cloud cloud) :
    SharedSeries dates (Window.align legacy cloud) := by
  rw [Window.align_eq_filter left.series (left.agree right)]
  refine ⟨left.series.filter _, fun date inLegacy inCloud => ?_⟩
  obtain ⟨window, member, ofUnit⟩ := left.covers date inLegacy
  obtain ⟨other, member', ofUnit'⟩ := right.covers date inCloud
  obtain rfl := ofUnit.unique ofUnit'
  exact ⟨window, List.mem_filter.mpr ⟨member, decide_eq_true member'⟩,
    ofUnit.contains_iff.mpr (CalendarUnit.Same.refl unit date)⟩

/-- The window of the whole range of observed dates. -/
inductive WholeOf : List Date → List Window → Prop where
  | none : WholeOf [] []
  | range {dates : List Date} {start stop : Date} (days : start < stop)
      (covers : ∀ date ∈ dates, start ≤ date ∧ date < stop) :
      WholeOf dates [⟨"all", some start, some stop⟩]

/-- Observed dates have the window of their whole range. -/
theorem wholeOf_windowsOfDates {dates : List Date} {windows : List Window}
    (found : Granularity.whole.windowsOfDates dates = .ok windows) : WholeOf dates windows := by
  cases dates with
  | nil =>
      rw [Granularity.windowsOfDates_nil (by decide)] at found
      cases found
      exact .none
  | cons first rest =>
      rw [Granularity.windowsOfDates_cons (by decide)] at found
      simp only [Granularity.windows] at found
      split at found
      · next stop next =>
          cases found
          have number := dayNumber_next? next
          refine .range ?_ fun date member => ⟨?_, ?_⟩
          · have order := le_iff_dayNumber.mp (earliest_le_latest
              (rest.foldl earliest first) (rest.foldl latest first))
            exact lt_iff_dayNumber.mpr (by omega)
          · exact Std.le_trans (earliest_le_left _ _) (foldl_earliest_le member)
          · have order := le_iff_dayNumber.mp
              (Std.le_trans (le_foldl_latest member) (right_le_latest
                (rest.foldl earliest first) (rest.foldl latest first)))
            exact lt_iff_dayNumber.mpr (by omega)
      · cases found

/-- Two windows of one label are aligned to what they cover together. -/
theorem Window.align_singleton {a b : Window} (labels : a.label = b.label) :
    align [a] [b] = [a.union b] := by
  have found : (SortedMap.ofList [(b.label, b)]).get? a.label = some b := by
    rw [SortedMap.get?_ofList_cons, if_pos labels]
    rfl
  simp only [align, List.map_cons, List.map_nil, List.filterMap_cons, found, Option.map_some,
    List.filterMap_nil, List.mergeSort_singleton]

/-- Aligned whole ranges hold the dates of both sides. -/
theorem sharedSeries_align_whole {dates : Both (List Date)} {legacy cloud : List Window}
    (left : WholeOf dates.legacy legacy) (right : WholeOf dates.cloud cloud) :
    SharedSeries dates (Window.align legacy cloud) := by
  obtain ⟨legacyDates, cloudDates⟩ := dates
  cases left with
  | none =>
      have empty : Window.align [] cloud = [] := List.mergeSort_nil
      rw [empty]
      exact .nil (.inl rfl)
  | @range _ startA stopA daysA coversA =>
      cases right with
      | none =>
          have empty : Window.align [⟨"all", some startA, some stopA⟩] [] = [] :=
            List.mergeSort_nil
          rw [empty]
          exact .nil (.inr rfl)
      | @range _ startB stopB daysB coversB =>
          have shared : Window.align [⟨"all", some startA, some stopA⟩]
              [⟨"all", some startB, some stopB⟩] =
                [⟨"all", some (earliest startA startB), some (latest stopA stopB)⟩] :=
            Window.align_singleton (a := ⟨"all", some startA, some stopA⟩)
              (b := ⟨"all", some startB, some stopB⟩) rfl
          rw [shared]
          have begins := earliest_le_left startA startB
          have ends := left_le_latest stopA stopB
          refine ⟨⟨fun window member => ?_, List.pairwise_singleton _ _⟩, fun date inA _ => ?_⟩
          · cases List.mem_singleton.mp member
            exact ⟨_, _, rfl, rfl,
              Std.lt_of_le_of_lt begins (Std.lt_of_lt_of_le daysA ends)⟩
          · obtain ⟨low, high⟩ := coversA date inA
            refine ⟨_, List.mem_singleton.mpr rfl, ?_⟩
            rw [Window.contains_eq_true_iff rfl rfl]
            exact ⟨Std.le_trans begins low, Std.lt_of_lt_of_le high ends⟩

/-- Both sides have a partition column if each platform has one. -/
theorem partitioned_of_forall {sides : Both TableSide}
    (partitioned : ∀ platform, (sides.on platform).partition.isSome = true) :
    (sides.legacy.partition.isSome && sides.cloud.partition.isSome) = true :=
  Bool.and_eq_true_iff.mpr ⟨partitioned .legacy, partitioned .cloud⟩

/-- **The shared windows of partitioned tables hold the dates of both sides, in order.** -/
theorem sharedSeries_of_sharedWindows {granularity : Granularity} {sides : Both TableSide}
    {windows : List Window} (calendar : granularity ≠ .snapshot)
    (partitioned : ∀ platform, (sides.on platform).partition.isSome = true)
    (found : sharedWindows granularity sides = .ok windows) :
    SharedSeries (sides.map (·.rowCounts.keys)) windows := by
  simp only [sharedWindows, partitioned_of_forall partitioned, calendar, Bool.not_true,
    Bool.or_false, decide_eq_true_eq, if_false] at found
  split at found
  · next legacy cloud legacyFound cloudFound =>
      cases found
      -- days, weeks and months are aligned by one argument, the whole range by another
      have units : ∀ unit : CalendarUnit, unit.granularity = granularity →
          SharedSeries (sides.map (·.rowCounts.keys)) (Window.align legacy cloud) := by
        rintro unit rfl
        exact sharedSeries_align_units (CalendarUnit.unitsOf_windowsOfDates legacyFound)
          (CalendarUnit.unitsOf_windowsOfDates cloudFound)
      cases granularity with
      | snapshot => exact (calendar rfl).elim
      | day => exact units .day rfl
      | week => exact units .week rfl
      | month => exact units .month rfl
      | whole =>
          exact sharedSeries_align_whole (wholeOf_windowsOfDates legacyFound)
            (wholeOf_windowsOfDates cloudFound)
  · cases found
  · cases found

end Reconciliation
