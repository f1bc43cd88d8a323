import Reconciliation.Proofs.Vintage.Exclusion

/-! # Units that two tables share

Observed dates have the units from the one of their least date up to the one of their greatest
(`listsUnits_windowsOfDates`). Equal labels name equal units, so alignment keeps the units from the
later of the first ones up to the earlier of the last ones (`listsUnits_align`), and these decide
what validation by days, weeks or months says of two tables (`validateTable_decidedByUnits`).
-/

namespace Reconciliation

open Date

/-- Each window of a series starts before the next ones. -/
theorem Window.Series.startsBefore {windows : List Window} (series : Series windows) :
    windows.Pairwise StartsBefore :=
  series.ordered.imp_of_mem fun member _ before => before.startsBefore (series.bounded _ member)

/-! ## The order of units -/

namespace CalendarUnit

variable {unit : CalendarUnit} {a b : Date}

theorem firstNumber_lt_firstNumber (before : a < b) (apart : ¬unit.Same a b) :
    unit.firstNumber a < unit.firstNumber b := by
  have := endNumber_le_firstNumber before apart
  have := unit.firstNumber_le a
  have := unit.lt_endNumber a
  omega

theorem firstNumber_le_firstNumber (order : a ≤ b) : unit.firstNumber a ≤ unit.firstNumber b := by
  by_cases same : unit.Same a b
  · exact Int.le_of_eq same.firstNumber_eq
  · have before : a < b := by
      apply Std.lt_of_le_of_ne order
      intro equal
      exact same (equal ▸ Same.refl unit a)
    exact Int.le_of_lt (firstNumber_lt_firstNumber before same)

/-- A unit is known by the number of its first day. -/
theorem same_iff_firstNumber_eq : unit.Same a b ↔ unit.firstNumber a = unit.firstNumber b := by
  refine ⟨Same.firstNumber_eq, fun equal => ?_⟩
  by_contra apart
  rcases Int.lt_trichotomy a.dayNumber b.dayNumber with before | same | after
  · have := firstNumber_lt_firstNumber (lt_iff_dayNumber.mpr before) apart
    omega
  · exact apart (dayNumber_injective same ▸ Same.refl unit a)
  · have := firstNumber_lt_firstNumber (lt_iff_dayNumber.mpr after) fun same => apart same.symm
    omega

/-- Whether the unit of a date begins no earlier than the unit of one date and no later than the
unit of another. -/
def Between (unit : CalendarUnit) (first last date : Date) : Prop :=
  unit.firstNumber first ≤ unit.firstNumber date ∧ unit.firstNumber date ≤ unit.firstNumber last

theorem firstNumber_latest_le_iff {number : Int} :
    unit.firstNumber (latest a b) ≤ number ↔
      unit.firstNumber a ≤ number ∧ unit.firstNumber b ≤ number := by
  have left : unit.firstNumber a ≤ unit.firstNumber (latest a b) :=
    firstNumber_le_firstNumber (left_le_latest a b)
  have right : unit.firstNumber b ≤ unit.firstNumber (latest a b) :=
    firstNumber_le_firstNumber (right_le_latest a b)
  constructor
  · intro bound
    exact ⟨Int.le_trans left bound, Int.le_trans right bound⟩
  · rintro ⟨boundA, boundB⟩
    unfold latest
    split <;> assumption

theorem le_firstNumber_earliest_iff {number : Int} :
    number ≤ unit.firstNumber (earliest a b) ↔
      number ≤ unit.firstNumber a ∧ number ≤ unit.firstNumber b := by
  have left : unit.firstNumber (earliest a b) ≤ unit.firstNumber a :=
    firstNumber_le_firstNumber (earliest_le_left a b)
  have right : unit.firstNumber (earliest a b) ≤ unit.firstNumber b :=
    firstNumber_le_firstNumber (earliest_le_right a b)
  constructor
  · intro bound
    exact ⟨Int.le_trans bound left, Int.le_trans bound right⟩
  · rintro ⟨boundA, boundB⟩
    unfold earliest
    split <;> assumption

/-- **Two ranges of units meet in a range of units.** -/
theorem between_and_iff {c d date : Date} :
    unit.Between (latest a c) (earliest b d) date ↔
      unit.Between a b date ∧ unit.Between c d date := by
  unfold Between
  rw [firstNumber_latest_le_iff, le_firstNumber_earliest_iff]
  exact and_and_and_comm

/-! ## Lists of units -/

/-- The windows of the units that some dates have, and of no others. -/
structure ListsUnits (unit : CalendarUnit) (held : Date → Prop) (windows : List Window) : Prop where
  units : ∀ window ∈ windows, ∃ date, held date ∧ window.OfUnit unit date
  covers : ∀ date, held date → ∃ window ∈ windows, window.OfUnit unit date

/-- **A run lists the units from its first date up to its last.** -/
theorem Run.listsUnits {first last : Date} {windows : List Window}
    (run : unit.Run last first windows) (inRange : first ≤ last) :
    unit.ListsUnits (unit.Between first last) windows where
  units window member := by
    obtain ⟨date, low, high, ofUnit⟩ := run.units window member
    exact ⟨date, ⟨firstNumber_le_firstNumber low, firstNumber_le_firstNumber high⟩, ofUnit⟩
  covers date between := by
    obtain ⟨low, high⟩ := between
    -- a date of the unit that lies outside of the range shares the unit of the nearer end
    obtain ⟨inside, begins, ends, same⟩ :
        ∃ inside, first ≤ inside ∧ inside ≤ last ∧ unit.Same inside date := by
      by_cases begins : first ≤ date
      · by_cases ends : date ≤ last
        · exact ⟨date, begins, ends, Same.refl unit date⟩
        · have later : unit.firstNumber last ≤ unit.firstNumber date :=
            firstNumber_le_firstNumber (Std.le_of_lt (Std.not_le.mp ends))
          exact ⟨last, inRange, Std.le_refl last,
            same_iff_firstNumber_eq.mpr (Int.le_antisymm later high)⟩
      · have earlier : unit.firstNumber date ≤ unit.firstNumber first :=
          firstNumber_le_firstNumber (Std.le_of_lt (Std.not_le.mp begins))
        exact ⟨first, Std.le_refl first, inRange,
          same_iff_firstNumber_eq.mpr (Int.le_antisymm low earlier)⟩
    obtain ⟨window, member, ofUnit⟩ := run.covers begins ends
    exact ⟨window, member, ofUnit.of_same same⟩

theorem firstNumber_eq_of_ofUnit {window : Window} (left : window.OfUnit unit a)
    (right : window.OfUnit unit b) : unit.firstNumber a = unit.firstNumber b := by
  obtain ⟨start, starts, number⟩ := left.starts
  obtain ⟨start', starts', number'⟩ := right.starts
  cases starts.symm.trans starts'
  exact number.symm.trans number'

end CalendarUnit

/-! ## The range of observed dates -/

/-- The least and the greatest of some dates. -/
structure Extremes (dates : List Date) (least greatest : Date) : Prop where
  least_mem : least ∈ dates
  greatest_mem : greatest ∈ dates
  least_le : ∀ date ∈ dates, least ≤ date
  le_greatest : ∀ date ∈ dates, date ≤ greatest

theorem foldl_mem {pick : Date → Date → Date} (picks : ∀ a b, pick a b = a ∨ pick a b = b)
    (first : Date) (rest : List Date) : rest.foldl pick first ∈ first :: rest := by
  induction rest generalizing first with
  | nil => exact List.mem_cons_self
  | cons head rest ih =>
      rw [List.foldl_cons]
      rcases picks first head with same | same
      · rw [same]
        exact (List.mem_cons.mp (ih first)).elim (fun found => List.mem_cons.mpr (.inl found))
          fun later => List.mem_cons_of_mem _ (List.mem_cons_of_mem _ later)
      · rw [same]
        exact List.mem_cons_of_mem _ (ih head)

theorem extremes_foldl (first : Date) (rest : List Date) :
    Extremes (first :: rest) (rest.foldl earliest first) (rest.foldl latest first) where
  least_mem := by
    apply foldl_mem
    intro a b
    unfold earliest
    split
    · exact .inl rfl
    · exact .inr rfl
  greatest_mem := by
    apply foldl_mem
    intro a b
    unfold latest
    split
    · exact .inr rfl
    · exact .inl rfl
  least_le _ member := foldl_earliest_le member
  le_greatest _ member := le_foldl_latest member

namespace Extremes

variable {dates : List Date} {least greatest : Date}

theorem exists_of_ne_nil (nonempty : dates ≠ []) :
    ∃ least greatest, Extremes dates least greatest := by
  obtain ⟨first, rest, rfl⟩ := List.exists_cons_of_ne_nil nonempty
  exact ⟨_, _, extremes_foldl first rest⟩

theorem le (extremes : Extremes dates least greatest) : least ≤ greatest :=
  extremes.least_le greatest extremes.greatest_mem

theorem unique {least' greatest' : Date} (left : Extremes dates least greatest)
    (right : Extremes dates least' greatest') : least = least' ∧ greatest = greatest' := by
  constructor
  · exact Std.le_antisymm (left.least_le _ right.least_mem) (right.least_le _ left.least_mem)
  · exact Std.le_antisymm (right.le_greatest _ left.greatest_mem)
      (left.le_greatest _ right.greatest_mem)

end Extremes

namespace CalendarUnit

variable {unit : CalendarUnit}

/-- **The windows of observed dates are the units from the least date up to the greatest.** -/
theorem listsUnits_windowsOfDates {dates : List Date} {windows : List Window}
    {least greatest : Date} (found : unit.granularity.windowsOfDates dates = .ok windows)
    (extremes : Extremes dates least greatest) :
    unit.ListsUnits (unit.Between least greatest) windows := by
  cases dates with
  | nil => cases extremes.least_mem
  | cons first rest =>
      obtain ⟨rfl, rfl⟩ := extremes.unique (extremes_foldl first rest)
      rw [Granularity.windowsOfDates_cons unit.granularity_ne_snapshot, granularity_windows,
        earliest, latest, if_pos extremes.le, if_pos extremes.le] at found
      exact (run_of_windows found).listsUnits extremes.le

/-! ## Shared units -/

/-- Whether the unit of a date lies in the ranges of both lists of dates: from the later of their
least dates up to the earlier of their greatest. -/
def Shares (unit : CalendarUnit) (dates : Both (List Date)) (date : Date) : Prop :=
  ∃ least greatest : Both Date,
    (∀ platform, Extremes (dates.on platform) (least.on platform) (greatest.on platform)) ∧
      unit.Between (latest least.legacy least.cloud) (earliest greatest.legacy greatest.cloud) date

theorem Shares.ne_nil {dates : Both (List Date)} {date : Date} (shares : unit.Shares dates date)
    (platform : Platform) : dates.on platform ≠ [] := by
  obtain ⟨least, greatest, extremes, _⟩ := shares
  exact List.ne_nil_of_mem (extremes platform).least_mem

variable {dates : Both (List Date)} {windows : Both (List Window)}
  (found : ∀ platform, unit.granularity.windowsOfDates (dates.on platform) =
    .ok (windows.on platform))
include found

theorem ne_nil_of_mem (platform : Platform) {window : Window}
    (member : window ∈ windows.on platform) : dates.on platform ≠ [] := by
  intro empty
  have none := found platform
  rw [empty, Granularity.windowsOfDates_nil unit.granularity_ne_snapshot] at none
  rw [← Except.ok.inj none] at member
  cases member

/-- **Alignment lists the units that both sides share.** -/
theorem listsUnits_align :
    unit.ListsUnits (unit.Shares dates) (Window.align windows.legacy windows.cloud) := by
  have legacyUnits : unit.UnitsOf dates.legacy windows.legacy :=
    unitsOf_windowsOfDates (found .legacy)
  have cloudUnits : unit.UnitsOf dates.cloud windows.cloud :=
    unitsOf_windowsOfDates (found .cloud)
  rw [Window.align_eq_filter legacyUnits.series (legacyUnits.agree cloudUnits)]
  constructor
  · intro window member
    obtain ⟨inLegacy, inCloud⟩ := List.mem_filter.mp member
    have inCloud := of_decide_eq_true inCloud
    have nonempty (platform : Platform) : dates.on platform ≠ [] := by
      cases platform with
      | legacy => exact ne_nil_of_mem found .legacy inLegacy
      | cloud => exact ne_nil_of_mem found .cloud inCloud
    choose least greatest extremes using fun platform =>
      Extremes.exists_of_ne_nil (nonempty platform)
    obtain ⟨date, between, ofUnit⟩ :=
      (listsUnits_windowsOfDates (found .legacy) (extremes .legacy)).units window inLegacy
    obtain ⟨other, between', ofOther⟩ :=
      (listsUnits_windowsOfDates (found .cloud) (extremes .cloud)).units window inCloud
    refine ⟨date, ⟨.tabulate least, .tabulate greatest, by simpa using extremes, ?_⟩, ofUnit⟩
    unfold Between at between'
    rw [firstNumber_eq_of_ofUnit ofOther ofUnit] at between'
    exact between_and_iff.mpr ⟨between, between'⟩
  · rintro date ⟨least, greatest, extremes, between⟩
    obtain ⟨inLegacy, inCloud⟩ := between_and_iff.mp between
    obtain ⟨window, member, ofUnit⟩ :=
      (listsUnits_windowsOfDates (found .legacy) (extremes .legacy)).covers date inLegacy
    obtain ⟨other, member', ofUnit'⟩ :=
      (listsUnits_windowsOfDates (found .cloud) (extremes .cloud)).covers date inCloud
    obtain rfl := ofUnit.unique ofUnit'
    exact ⟨window, List.mem_filter.mpr ⟨member, decide_eq_true member'⟩, ofUnit⟩

end CalendarUnit

/-! ## Validation by units -/

section

variable {granularity : Granularity} {sides : Both TableSide} (calendar : granularity ≠ .snapshot)
  (partitioned : ∀ platform, (sides.on platform).partition.isSome = true)
include calendar partitioned

theorem sharedWindows_eq_ok {windows : Both (List Window)}
    (found : ∀ platform, granularity.windowsOfDates (sides.on platform).rowCounts.keys =
      .ok (windows.on platform)) :
    sharedWindows granularity sides = .ok (Window.align windows.legacy windows.cloud) := by
  have legacy := found .legacy
  have cloud := found .cloud
  simp only [Both.on] at legacy cloud
  simp [sharedWindows, partitioned_of_forall partitioned, calendar, legacy, cloud]

theorem exists_sharedWindows_eq_error_iff :
    (∃ fault, sharedWindows granularity sides = .error fault) ↔
      ∃ platform fault,
        granularity.windowsOfDates (sides.on platform).rowCounts.keys = .error fault := by
  simp only [sharedWindows, partitioned_of_forall partitioned, calendar, decide_false,
    Bool.not_true, Bool.or_false, Bool.false_eq_true, if_false]
  cases legacy : granularity.windowsOfDates sides.legacy.rowCounts.keys with
  | error fault => exact iff_of_true ⟨fault, rfl⟩ ⟨.legacy, fault, legacy⟩
  | ok windows =>
      cases cloud : granularity.windowsOfDates sides.cloud.rowCounts.keys with
      | error fault => exact iff_of_true ⟨fault, rfl⟩ ⟨.cloud, fault, cloud⟩
      | ok others =>
          apply iff_of_false
          · rintro ⟨fault, failed⟩
            cases failed
          · rintro ⟨platform, fault, failed⟩
            cases platform with
            | legacy => cases legacy.symm.trans failed
            | cloud => cases cloud.symm.trans failed

end

section

variable {table : String} {granularity : Granularity} {sides : Both TableSide}
  (accessible : ∀ platform, (sides.on platform).accessible = true)
include accessible

theorem find?_inaccessible :
    Platform.all.find? (fun platform => !(sides.on platform).accessible) = none := by
  rw [List.find?_eq_none]
  simp [accessible]

theorem validateTable_eq_outOfRange_iff :
    validateTable table granularity sides = .excluded table .outOfRange ↔
      ∃ fault, sharedWindows granularity sides = .error fault := by
  simp only [validateTable, find?_inaccessible accessible]
  rcases sharedWindows granularity sides with fault | _ | ⟨first, rest⟩ <;> simp

variable {windows : List Window} (found : sharedWindows granularity sides = .ok windows)
include found

theorem validateTable_eq_noOverlap_iff :
    validateTable table granularity sides = .excluded table .noOverlap ↔ windows = [] := by
  simp only [validateTable, find?_inaccessible accessible, found]
  cases windows <;> simp

/-- The vintages of a table have the windows that both sides share. -/
theorem windows_validateTable (table : String) :
    (validateTable table granularity sides).vintages.map ValidatedVintage.window = windows := by
  simp only [validateTable, find?_inaccessible accessible, found]
  cases windows with
  | nil => rfl
  | cons first rest => exact (List.map_map ..).trans (List.map_id _)

end

/-- What validation by a unit of the calendar says of two tables, as the dates on both sides tell
it. -/
structure TableOutcome.DecidedByUnits (outcome : TableOutcome) (unit : CalendarUnit)
    (table : String) (dates : Both (List Date)) : Prop where
  /-- The table is out of range exactly if the dates of some side cannot be cut into units. -/
  outOfRange_iff : outcome = .excluded table .outOfRange ↔
    ∃ platform fault, unit.granularity.windowsOfDates (dates.on platform) = .error fault
  /-- Otherwise it has no overlap exactly if a side has no dates or no unit is shared. -/
  noOverlap_iff : outcome ≠ .excluded table .outOfRange →
    (outcome = .excluded table .noOverlap ↔
      (∃ platform, dates.on platform = []) ∨ ¬∃ date, unit.Shares dates date)
  /-- The windows of its vintages are those of the shared units, with the labels and bounds that
  the calendar gives. -/
  units : outcome ≠ .excluded table .outOfRange →
    unit.ListsUnits (unit.Shares dates) (outcome.vintages.map ValidatedVintage.window)
  /-- The vintages ascend. -/
  ascending : (outcome.vintages.map ValidatedVintage.window).Pairwise Window.StartsBefore

/-- **Validation by days, weeks or months is decided by the units that both sides share.** -/
theorem validateTable_decidedByUnits (unit : CalendarUnit) (table : String)
    {sides : Both TableSide} (accessible : ∀ platform, (sides.on platform).accessible = true)
    (partitioned : ∀ platform, (sides.on platform).partition.isSome = true) :
    (validateTable table unit.granularity sides).DecidedByUnits unit table
      (sides.map (·.rowCounts.keys)) := by
  have calendar := unit.granularity_ne_snapshot
  have outOfRange : validateTable table unit.granularity sides = .excluded table .outOfRange ↔
      ∃ platform fault, unit.granularity.windowsOfDates
        ((sides.map (·.rowCounts.keys)).on platform) = .error fault := by
    simp only [Both.on_map]
    exact (validateTable_eq_outOfRange_iff accessible).trans
      (exists_sharedWindows_eq_error_iff calendar partitioned)
  by_cases failed : validateTable table unit.granularity sides = .excluded table .outOfRange
  · refine ⟨outOfRange, fun inRange => (inRange failed).elim,
      fun inRange => (inRange failed).elim, ?_⟩
    rw [failed]
    exact .nil
  · have cut (platform : Platform) : ∃ windows, unit.granularity.windowsOfDates
        ((sides.map (·.rowCounts.keys)).on platform) = .ok windows := by
      cases found : unit.granularity.windowsOfDates
          ((sides.map (·.rowCounts.keys)).on platform) with
      | error fault => exact (failed (outOfRange.mpr ⟨platform, fault, found⟩)).elim
      | ok windows => exact ⟨windows, rfl⟩
    choose each cut using cut
    obtain ⟨windows, found⟩ : ∃ windows : Both (List Window), ∀ platform,
        unit.granularity.windowsOfDates ((sides.map (·.rowCounts.keys)).on platform) =
          .ok (windows.on platform) :=
      ⟨.tabulate each, by simpa using cut⟩
    have units := CalendarUnit.listsUnits_align found
    have shared := sharedWindows_eq_ok calendar partitioned (by simpa using found)
    have series := (sharedSeries_of_sharedWindows calendar partitioned shared).series
    have vintages := windows_validateTable accessible shared table
    refine ⟨outOfRange, fun _ => ?_, fun _ => vintages.symm ▸ units,
      vintages.symm ▸ series.startsBefore⟩
    rw [validateTable_eq_noOverlap_iff accessible shared, List.eq_nil_iff_forall_not_mem]
    constructor
    · intro none
      right
      rintro ⟨date, shares⟩
      obtain ⟨window, member, _⟩ := units.covers date shares
      exact none window member
    · rintro (⟨platform, empty⟩ | none) window member
      · obtain ⟨date, shares, _⟩ := units.units window member
        exact shares.ne_nil platform empty
      · obtain ⟨date, shares, _⟩ := units.units window member
        exact none ⟨date, shares⟩

/-- The ranges of the two sides meet only within one month, on no day, and this month is the window
of the only vintage. -/
theorem validateTable_decidedByUnits_month :
    let sides : Both TableSide :=
      ⟨.ofDays [(⟨2023, 11, 7, by decide⟩, 10), (⟨2024, 1, 9, by decide⟩, 4)],
        .ofDays [(⟨2024, 1, 20, by decide⟩, 3), (⟨2024, 3, 2, by decide⟩, 8)]⟩
    let january : Window :=
      ⟨"2024-01", some ⟨2024, 1, 1, by decide⟩, some ⟨2024, 2, 1, by decide⟩⟩
    (∀ platform, (sides.on platform).accessible = true) ∧
      (∀ platform, (sides.on platform).partition.isSome = true) ∧
      (validateTable "t" CalendarUnit.month.granularity sides).DecidedByUnits .month "t"
        (sides.map (·.rowCounts.keys)) ∧
      ∃ validation,
        validateTable "t" CalendarUnit.month.granularity sides = .validated validation ∧
          validation.vintages.map ValidatedVintage.window = [january] := by
  intro sides january
  have accessible (platform : Platform) : (sides.on platform).accessible = true := by
    cases platform <;> rfl
  have partitioned (platform : Platform) : (sides.on platform).partition.isSome = true := by
    cases platform <;> rfl
  have shared : sharedWindows CalendarUnit.month.granularity sides = .ok [january] := by
    decide +kernel
  have windows := windows_validateTable accessible shared "t"
  have decided := validateTable_decidedByUnits .month "t" accessible partitioned
  refine ⟨accessible, partitioned, decided, ?_⟩
  cases outcome : validateTable "t" CalendarUnit.month.granularity sides with
  | excluded table reason =>
      rw [outcome] at windows
      cases windows
  | validated validation =>
      rw [outcome] at windows
      exact ⟨validation, rfl, windows⟩

end Reconciliation
