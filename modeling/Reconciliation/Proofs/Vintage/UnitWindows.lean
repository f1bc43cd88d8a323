import Mathlib.Data.List.Chain
import Reconciliation.Proofs.Vintage.CalendarUnit
import Reconciliation.Proofs.Vintage.WindowOrder

/-! # Cutting a range into units

Stepping from unit to unit, the cut of a range lists the unit of every date of the range, each once
and in the order of the calendar (`Cuts`). It is undefined only where the calendar lacks the first
day of the first unit or the day after the last one (`windows_cut`).
-/

namespace Reconciliation

open Date

/-! ## The window of a unit -/

/-- The window of the unit that holds a date. -/
structure Window.OfUnit (window : Window) (unit : CalendarUnit) (date : Date) : Prop where
  /-- The label is the one of the unit. -/
  label : window.label = unit.label date
  /-- The window starts on the first day of the unit. -/
  starts : ∃ start, window.start = some start ∧ start.dayNumber = unit.firstNumber date
  /-- The window stops on the day after the last of the unit. -/
  stops : ∃ stop, window.stop = some stop ∧ stop.dayNumber = unit.endNumber date

namespace Window.OfUnit

variable {unit : CalendarUnit} {window : Window} {date : Date}

/-- The window of a unit holds the dates of the unit. -/
theorem contains_iff (ofUnit : window.OfUnit unit date) {other : Date} :
    window.contains other = true ↔ unit.Same date other := by
  obtain ⟨start, starts, first⟩ := ofUnit.starts
  obtain ⟨stop, stops, last⟩ := ofUnit.stops
  rw [contains_eq_true_iff starts stops, le_iff_dayNumber, lt_iff_dayNumber, first, last,
    CalendarUnit.same_iff_bounds]

/-- The dates of a unit have one window. -/
theorem of_same (ofUnit : window.OfUnit unit date) {other : Date}
    (same : unit.Same date other) : window.OfUnit unit other where
  label := ofUnit.label.trans (CalendarUnit.label_eq_iff.mpr same)
  starts := same.firstNumber_eq ▸ ofUnit.starts
  stops := same.endNumber_eq ▸ ofUnit.stops

/-- The window of a unit is determined. -/
theorem unique {other : Window} (left : window.OfUnit unit date)
    (right : other.OfUnit unit date) : window = other := by
  obtain ⟨startA, startsA, firstA⟩ := left.starts
  obtain ⟨stopA, stopsA, lastA⟩ := left.stops
  obtain ⟨startB, startsB, firstB⟩ := right.starts
  obtain ⟨stopB, stopsB, lastB⟩ := right.stops
  have labels := left.label.trans right.label.symm
  have starts := dayNumber_injective (firstA.trans firstB.symm)
  have stops := dayNumber_injective (lastA.trans lastB.symm)
  cases window
  cases other
  simp only at labels startsA startsB stopsA stopsB
  rw [labels, startsA, startsB, stopsA, stopsB, starts, stops]

/-- The windows of different units stand in the order of their dates. -/
theorem before {later : Window} {other : Date} (left : window.OfUnit unit date)
    (right : later.OfUnit unit other) (less : date < other) (apart : ¬unit.Same date other) :
    window.Before later := by
  obtain ⟨stop, stops, last⟩ := left.stops
  obtain ⟨start, starts, first⟩ := right.starts
  refine ⟨stop, start, stops, starts, le_iff_dayNumber.mpr ?_⟩
  rw [last, first]
  exact CalendarUnit.endNumber_le_firstNumber less apart

/-- The window of a unit has both bounds. -/
theorem bounded (ofUnit : window.OfUnit unit date) : window.Bounded := by
  obtain ⟨start, starts, first⟩ := ofUnit.starts
  obtain ⟨stop, stops, last⟩ := ofUnit.stops
  have := unit.firstNumber_le date
  have := unit.lt_endNumber date
  exact ⟨start, stop, starts, stops, lt_iff_dayNumber.mpr (by omega)⟩

end Window.OfUnit

namespace CalendarUnit

variable {unit : CalendarUnit}

/-- A span makes the window of its unit. -/
theorem ofUnit_window {date : Date} {span : Span} (found : unit.span date = .ok span) :
    (unit.window span).OfUnit unit date := by
  obtain ⟨starts, stops⟩ := span_eq_ok_iff.mp found
  have same : unit.Same date span.start := by
    have := unit.firstNumber_le date
    have := unit.lt_endNumber date
    exact same_iff_bounds.mpr ⟨by omega, by omega⟩
  exact ⟨label_eq_iff.mpr same.symm, ⟨_, rfl, starts⟩, ⟨_, rfl, stops⟩⟩

/-! ## Runs of units -/

/-- Past the last date there is no window. -/
theorem windows_of_not_le {first last : Date} (past : ¬first ≤ last) :
    unit.windows first last = .ok [] := by
  rw [CalendarUnit.windows, dif_neg past]

/-- Without the span of its first unit a range is not cut. -/
theorem windows_of_span_error {first last : Date} {fault : DateFault} (inRange : first ≤ last)
    (failed : unit.span first = .error fault) : unit.windows first last = .error fault := by
  rw [CalendarUnit.windows, dif_pos inRange]
  split
  · next other => exact congrArg Except.error (Except.error.inj (other.symm.trans failed))
  · next found =>
      rw [failed] at found
      cases found

/-- The window of the first unit comes before those of the units from its end on. -/
theorem windows_of_span_ok {first last : Date} {span : Span} (inRange : first ≤ last)
    (found : unit.span first = .ok span) :
    unit.windows first last = (unit.windows span.stop last).map (unit.window span :: ·) := by
  rw [CalendarUnit.windows, dif_pos inRange]
  split
  · next failed =>
      rw [found] at failed
      cases failed
  · next found' =>
      cases found.symm.trans found'
      cases unit.windows span.stop last with
      | error fault => rfl
      | ok rest => rfl

/-- The windows of the units that follow each other from the one of a date up to the one of
`last`. -/
inductive Run (unit : CalendarUnit) (last : Date) : Date → List Window → Prop where
  /-- Past the last date there is no window. -/
  | done {first : Date} (past : ¬first ≤ last) : Run unit last first []
  /-- A unit is followed by the units from its end on. -/
  | next {first : Date} {span : Span} {rest : List Window} (inRange : first ≤ last)
      (found : unit.span first = .ok span) (run : Run unit last span.stop rest) :
      Run unit last first (unit.window span :: rest)

/-- The cut of a range is a run of units. -/
theorem run_of_windows {first last : Date} {windows : List Window}
    (cut : unit.windows first last = .ok windows) : unit.Run last first windows := by
  induction first using CalendarUnit.windows.induct unit last generalizing windows with
  | case1 first inRange fault failed =>
      rw [windows_of_span_error inRange failed] at cut
      cases cut
  | case2 first inRange span found fault failed =>
      rw [windows_of_span_ok inRange found, failed] at cut
      cases cut
  | case3 first inRange span found rest remaining ih =>
      rw [windows_of_span_ok inRange found, remaining] at cut
      cases cut
      exact .next inRange found (ih remaining)
  | case4 first past =>
      rw [windows_of_not_le past] at cut
      cases cut
      exact .done past

/-- Units of later dates end no earlier. -/
theorem endNumber_le_endNumber {a b : Date} (order : a ≤ b) :
    unit.endNumber a ≤ unit.endNumber b := by
  by_cases same : unit.Same a b
  · exact Int.le_of_eq same.endNumber_eq
  · have apart : a < b := by
      refine Std.lt_of_le_of_ne order fun equal => same ?_
      exact equal ▸ Same.refl unit a
    have := endNumber_le_firstNumber apart same
    have := unit.firstNumber_le b
    have := unit.lt_endNumber b
    omega

/-- If the calendar lacks a bound of the first unit of a range, it lacks the first day of the first
unit or the day after the last one. -/
theorem not_representable_of_span_error {first last : Date} {fault : DateFault}
    (inRange : first ≤ last) (failed : unit.span first = .error fault) :
    ¬Representable (unit.firstNumber first) ∨ ¬Representable (unit.endNumber last) := by
  rcases span_eq_error_iff.mp ⟨fault, failed⟩ with noStart | noStop
  · exact .inl noStart
  · -- the last unit ends no earlier, so its end is beyond the calendar as well
    refine .inr fun stop => noStop (representable_iff.mpr ?_)
    have : unit.endNumber first ≤ unit.endNumber last := endNumber_le_endNumber inRange
    have := unit.lt_endNumber first
    have := (representable_iff.mp stop).2
    have := (representable_iff.mp ⟨first, rfl⟩).1
    exact ⟨by omega, by omega⟩

/-- Past its first unit a range is cut as far as the calendar has the end of the last unit. -/
theorem windows_eq_error_iff_of_span_ok {first last : Date} {span : Span} (inRange : first ≤ last)
    (found : unit.span first = .ok span)
    (rest : span.stop ≤ last → ((∃ fault, unit.windows span.stop last = .error fault) ↔
      ¬Representable (unit.firstNumber span.stop) ∨ ¬Representable (unit.endNumber last))) :
    (∃ fault, unit.windows first last = .error fault) ↔
      ¬Representable (unit.firstNumber first) ∨ ¬Representable (unit.endNumber last) := by
  obtain ⟨starts, stops⟩ := span_eq_ok_iff.mp found
  have start : Representable (unit.firstNumber first) := ⟨span.start, starts⟩
  have onward : (∃ fault, unit.windows first last = .error fault) ↔
      ∃ fault, unit.windows span.stop last = .error fault := by
    rw [windows_of_span_ok inRange found]
    cases unit.windows span.stop last with
    | error fault => exact Iff.rfl
    | ok rest =>
        constructor <;>
          · rintro ⟨fault, failed⟩
            cases failed
  rw [onward]
  by_cases further : span.stop ≤ last
  · have next : Representable (unit.firstNumber span.stop) :=
      ⟨span.stop, (firstNumber_stop found).symm⟩
    rw [rest further]
    exact or_congr (iff_of_false (not_not_intro next) (not_not_intro start)) Iff.rfl
  · have same : unit.Same first last := by
      have := unit.firstNumber_le first
      have := le_iff_dayNumber.mp inRange
      have := lt_iff_dayNumber.mp (Std.not_le.mp further)
      exact same_iff_bounds.mpr ⟨by omega, by omega⟩
    have stop : Representable (unit.endNumber last) :=
      same.endNumber_eq ▸ ⟨span.stop, stops⟩
    rw [windows_of_not_le further]
    refine iff_of_false ?_ fun lacking => lacking.elim (· start) (· stop)
    rintro ⟨fault, failed⟩
    cases failed

/-- **A range is not cut exactly if the calendar lacks the first day of the first unit or the day
after the last one.** -/
theorem windows_eq_error_iff {first last : Date} (inRange : first ≤ last) :
    (∃ fault, unit.windows first last = .error fault) ↔
      ¬Representable (unit.firstNumber first) ∨ ¬Representable (unit.endNumber last) := by
  -- a later unit starts where one stopped, so only the first start and the last end can be lacking
  induction first using CalendarUnit.windows.induct unit last with
  | case1 first _ fault failed =>
      exact iff_of_true ⟨fault, windows_of_span_error inRange failed⟩
        (not_representable_of_span_error inRange failed)
  | case2 first _ span found fault failed ih =>
      exact windows_eq_error_iff_of_span_ok inRange found ih
  | case3 first _ span found rest remaining ih =>
      exact windows_eq_error_iff_of_span_ok inRange found ih
  | case4 first past => exact (past inRange).elim

/-! ## What a run lists -/

/-- A unit begins after the dates before its first day. -/
theorem lt_of_stop_le {first date : Date} {span : Span} (found : unit.span first = .ok span)
    (beyond : span.stop ≤ date) : first < date ∧ ¬unit.Same first date := by
  have stops := (span_eq_ok_iff.mp found).2
  have order := le_iff_dayNumber.mp beyond
  have := unit.lt_endNumber first
  refine ⟨lt_iff_dayNumber.mpr (by omega), fun same => ?_⟩
  have := (same_iff_bounds.mp same).2
  omega

/-- Every window of a run is the unit of a date of the range. -/
theorem Run.units {first last : Date} {windows : List Window} (run : unit.Run last first windows) :
    ∀ window ∈ windows, ∃ date, first ≤ date ∧ date ≤ last ∧ window.OfUnit unit date := by
  induction run with
  | done past =>
      intro window member
      cases member
  | next inRange found run ih =>
      intro window member
      rcases List.mem_cons.mp member with rfl | later
      · exact ⟨_, Std.le_refl _, inRange, ofUnit_window found⟩
      · obtain ⟨date, low, high, ofUnit⟩ := ih window later
        exact ⟨date, Std.le_of_lt (lt_of_stop_le found low).1, high, ofUnit⟩

/-- The unit of every date of the range is among the windows of a run. -/
theorem Run.covers {first last : Date} {windows : List Window} (run : unit.Run last first windows)
    {date : Date} (low : first ≤ date) (high : date ≤ last) :
    ∃ window ∈ windows, window.OfUnit unit date := by
  induction run with
  | done past => exact (past (Std.le_trans low high)).elim
  | @next first span rest inRange found run ih =>
      by_cases beyond : span.stop ≤ date
      · obtain ⟨window, member, ofUnit⟩ := ih beyond
        exact ⟨window, List.mem_cons_of_mem _ member, ofUnit⟩
      · have same : unit.Same first date := by
          have := (span_eq_ok_iff.mp found).2
          have := unit.firstNumber_le first
          have := le_iff_dayNumber.mp low
          have := lt_iff_dayNumber.mp (Std.not_le.mp beyond)
          exact same_iff_bounds.mpr ⟨by omega, by omega⟩
        exact ⟨unit.window span, List.mem_cons_self, (ofUnit_window found).of_same same⟩

/-- The first window of a run comes before the others, and its label is not theirs. -/
theorem Run.head_apart {first last : Date} {span : Span} {rest : List Window}
    (found : unit.span first = .ok span) (run : unit.Run last span.stop rest) :
    ∀ window ∈ rest, (unit.window span).Before window ∧ (unit.window span).label ≠ window.label := by
  intro window member
  obtain ⟨date, beyond, _, ofUnit⟩ := run.units window member
  obtain ⟨less, apart⟩ := lt_of_stop_le found beyond
  have head := ofUnit_window found
  refine ⟨head.before ofUnit less apart, fun labels => apart ?_⟩
  rw [head.label, ofUnit.label] at labels
  exact label_eq_iff.mp labels

/-- The windows of a run stand in order. -/
theorem Run.ordered {first last : Date} {windows : List Window}
    (run : unit.Run last first windows) : windows.Pairwise Window.Before := by
  induction run with
  | done past => exact .nil
  | next inRange found run ih =>
      exact .cons (fun window member => (Run.head_apart found run window member).1) ih

/-- The labels of a run differ. -/
theorem Run.labels_nodup {first last : Date} {windows : List Window}
    (run : unit.Run last first windows) : (windows.map Window.label).Nodup := by
  induction run with
  | done past => exact .nil
  | next inRange found run ih =>
      refine List.nodup_cons.mpr ⟨fun repeated => ?_, ih⟩
      obtain ⟨window, member, label⟩ := List.mem_map.mp repeated
      exact (Run.head_apart found run window member).2 label.symm

/-- Every window of a run starts where the one before stops. -/
theorem Run.adjacent {first last : Date} {windows : List Window}
    (run : unit.Run last first windows) : windows.IsChain fun a b => a.stop = b.start := by
  induction run with
  | done past => exact .nil
  | next inRange found run ih =>
      cases run with
      | done past => exact .singleton _
      | next _ found' run =>
          refine .cons_cons (congrArg some (dayNumber_injective ?_)) ih
          rw [(span_eq_ok_iff.mp found').1, firstNumber_stop found]

/-! ## The cut of a range -/

/-- Windows that cut a range of dates into units. -/
structure Cuts (unit : CalendarUnit) (first last : Date) (windows : List Window) : Prop where
  /-- Every window is the unit of a date of the range. -/
  units : ∀ window ∈ windows, ∃ date, first ≤ date ∧ date ≤ last ∧ window.OfUnit unit date
  /-- Every date of the range has the window of its unit. -/
  covers : ∀ date, first ≤ date → date ≤ last → ∃ window ∈ windows, window.OfUnit unit date
  /-- The windows hold the dates of their units and no others. -/
  members : ∀ window ∈ windows, ∀ date,
    window.contains date = true ↔ window.OfUnit unit date
  /-- The windows ascend. -/
  ascending : windows.Pairwise Window.StartsBefore
  /-- Every window starts where the one before stops. -/
  adjacent : windows.IsChain fun a b => a.stop = b.start
  /-- The labels differ. -/
  labels : (windows.map Window.label).Nodup
  /-- Every date of the range lies in exactly one window. -/
  once : ∀ date, first ≤ date → date ≤ last → windows.countP (·.contains date) = 1
  /-- A week is labelled with the year and the number that all its dates have. -/
  weeks : unit = .week → ∀ window ∈ windows, ∀ date, window.contains date = true →
    ∃ week : Week, week.Holds date ∧ window.label = weekText week

/-- A window of a unit is the window of every date it holds. -/
theorem contains_iff_ofUnit {window : Window} {date other : Date}
    (ofUnit : window.OfUnit unit date) :
    window.contains other = true ↔ window.OfUnit unit other := by
  constructor
  · exact fun inside => ofUnit.of_same (ofUnit.contains_iff.mp inside)
  · exact fun ofOther => ofOther.contains_iff.mpr (Same.refl unit other)

/-- **A run cuts its range.** -/
theorem Run.cuts {first last : Date} {windows : List Window}
    (run : unit.Run last first windows) : unit.Cuts first last windows := by
  have members : ∀ window ∈ windows, ∀ date,
      window.contains date = true ↔ window.OfUnit unit date := by
    intro window member date
    obtain ⟨held, _, _, ofUnit⟩ := run.units window member
    exact contains_iff_ofUnit ofUnit
  refine ⟨run.units, fun _ => run.covers, members, ?_, run.adjacent, run.labels_nodup, ?_, ?_⟩
  · refine run.ordered.imp_of_mem fun {a b} member _ before => ?_
    obtain ⟨_, _, _, ofUnit⟩ := run.units a member
    exact before.startsBefore ofUnit.bounded
  · intro date low high
    obtain ⟨window, member, ofUnit⟩ := run.covers low high
    exact Window.countP_contains_eq_one (run.ordered.imp Window.Before.disjoint)
      ⟨window, member, (members window member date).mpr ofUnit⟩
  · rintro rfl window member date inside
    exact ⟨date.week, week_holds date, ((members window member date).mp inside).label⟩

def granularity : CalendarUnit → Granularity
  | .day => .day
  | .week => .week
  | .month => .month

/-- **The windows of a range are its units.** The range fails only where the calendar lacks the
first day of its first unit or the day after its last one; otherwise the windows cut it. -/
theorem windows_cut (unit : CalendarUnit) (a b : Date) :
    ((∃ fault, unit.granularity.windows a b = .error fault) ↔
        ¬Representable (unit.firstNumber (earliest a b)) ∨
          ¬Representable (unit.endNumber (latest a b))) ∧
      ∀ windows, unit.granularity.windows a b = .ok windows →
        unit.Cuts (earliest a b) (latest a b) windows := by
  have cut : unit.granularity.windows a b = unit.windows (earliest a b) (latest a b) := by
    cases unit <;> rfl
  rw [cut]
  exact ⟨windows_eq_error_iff (earliest_le_latest a b), fun _ cut => (run_of_windows cut).cuts⟩

end CalendarUnit

end Reconciliation
