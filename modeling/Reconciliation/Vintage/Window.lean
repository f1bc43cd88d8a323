import Reconciliation.Calendar.DayNumber
import Reconciliation.Partition
import Reconciliation.Query.Predicate
import Reconciliation.SortedMap

/-! # Calendar windows

A window is a labelled stretch of days, its first day included and the day after its last
excluded. A range of dates is cut into the days, weeks or months that meet it; the cut depends on
the calendar alone, so equal labels of two tables name equal units.
-/

namespace Reconciliation

/-- A labelled stretch of days. A bound that lacks leaves the stretch open. -/
structure Window where
  label : String
  start : Option Date
  stop : Option Date
  deriving DecidableEq

namespace Window

def snapshot : Window := ⟨"snapshot", none, none⟩

/-- Whether a window has no bounds. -/
def isSnapshot (window : Window) : Bool :=
  window.start.isNone && window.stop.isNone

/-- Whether a day lies in a window. -/
def contains (window : Window) (date : Date) : Bool :=
  window.start.all (fun start => start ≤ date) && window.stop.all fun stop => date < stop

/-- The predicate that selects the window's days of a partition column. -/
def predicate (window : Window) (platform : Platform) (partition : Option PartitionColumn) :
    String :=
  match partition with
  | none => alwaysTrue
  | some column =>
    let bound (relation : String) (date : Date) : String :=
      s!"{column.identifier platform} {relation} {column.literal platform date}"
    match window.start.map (bound ">="), window.stop.map (bound "<") with
    | some lower, some upper => s!"{lower} AND {upper}"
    | some lower, none => lower
    | none, some upper => upper
    | none, none => alwaysTrue

end Window

/-- A unit of the calendar. -/
inductive CalendarUnit where
  | day
  | week
  | month
  deriving DecidableEq, Repr

namespace CalendarUnit

/-- The first day of the unit that holds a date. -/
def start (unit : CalendarUnit) (date : Date) : Except DateFault Date :=
  match unit with
  | .day => .ok date
  | .week =>
    match date.earlier? date.daysSinceMonday with
    | some monday => .ok monday
    | none => .error (.weekStart date)
  | .month => .ok date.firstOfMonth

/-- The day after the last of the unit that starts on a date. -/
def stop (unit : CalendarUnit) (start : Date) : Except DateFault Date :=
  let later (days : Nat) : Except DateFault Date :=
    match start.later? days with
    | some later => .ok later
    | none => .error (.daysAfter start days)
  match unit with
  | .day => later 1
  | .week => later 7
  | .month =>
    match start.firstOfNextMonth? with
    | some next => .ok next
    | none => .error (.monthAfter start)

/-- The label of the unit that starts on a date. -/
def label (unit : CalendarUnit) (start : Date) : String :=
  match unit with
  | .day => start.text
  | .week =>
    let week := start.week
    String.ofList (signedDigits week.year ++ ['-', 'W'] ++ paddedDigits 2 week.number)
  | .month => String.ofList (Layout.write [.year, .mark '-', .month] start)

/-- The bounds of a unit. -/
structure Span where
  start : Date
  stop : Date

/-- The unit that holds a date. -/
def span (unit : CalendarUnit) (date : Date) : Except DateFault Span :=
  match unit.start date with
  | .error fault => .error fault
  | .ok start =>
    match unit.stop start with
    | .error fault => .error fault
    | .ok stop => .ok ⟨start, stop⟩

/-- The window of a unit with given bounds. -/
def window (unit : CalendarUnit) (span : Span) : Window :=
  ⟨unit.label span.start, some span.start, some span.stop⟩

/-- A unit ends after every date it holds. -/
theorem dayNumber_lt_stop {unit : CalendarUnit} {date : Date} {span : Span}
    (found : unit.span date = .ok span) : date.dayNumber < span.stop.dayNumber := by
  unfold CalendarUnit.span at found
  split at found
  · cases found
  · next start startEq =>
    split at found
    · cases found
    · next stop stopEq =>
      cases found
      cases unit <;> simp only [CalendarUnit.start, CalendarUnit.stop] at startEq stopEq
      · cases startEq
        split at stopEq <;> cases stopEq
        next later => rw [Date.dayNumber_later? later]; omega
      · split at startEq <;> cases startEq
        next earlier =>
          split at stopEq <;> cases stopEq
          next later =>
            rw [Date.dayNumber_later? later, Date.dayNumber_earlier? earlier]
            have := date.daysSinceMonday_lt
            omega
      · cases startEq
        split at stopEq <;> cases stopEq
        next next_ =>
          refine @Date.dayNumber_lt_firstOfNextMonth? date _ ?_
          rw [← next_]
          rfl

/-- The windows of the units from the one that holds `first` up to the one that holds `last`. -/
def windows (unit : CalendarUnit) (first last : Date) : Except DateFault (List Window) :=
  if _inRange : first ≤ last then
    match _found : unit.span first with
    | .error fault => .error fault
    | .ok span =>
      match unit.windows span.stop last with
      | .error fault => .error fault
      | .ok rest => .ok (unit.window span :: rest)
  else .ok []
termination_by (last.dayNumber + 1 - first.dayNumber).toNat
decreasing_by
  have := dayNumber_lt_stop _found
  have := Date.le_iff_dayNumber.mp _inRange
  omega

end CalendarUnit

namespace Granularity

/-- The windows that cover a range of dates, whichever end is given first. -/
def windows (granularity : Granularity) (a b : Date) : Except DateFault (List Window) :=
  let first := Date.earliest a b
  let last := Date.latest a b
  match granularity with
  | .day => CalendarUnit.day.windows first last
  | .week => CalendarUnit.week.windows first last
  | .month => CalendarUnit.month.windows first last
  | .whole =>
    match last.next? with
    | some stop => .ok [⟨"all", some first, some stop⟩]
    | none => .error (.daysAfter last 1)
  | .snapshot => .ok [.snapshot]

/-- The windows that cover the dates observed. -/
def windowsOfDates (granularity : Granularity) (dates : List Date) :
    Except DateFault (List Window) :=
  match granularity, dates with
  | .snapshot, _ => .ok [.snapshot]
  | _, [] => .ok []
  | _, first :: rest =>
    granularity.windows (rest.foldl Date.earliest first) (rest.foldl Date.latest first)

end Granularity

namespace Window

/-- The bound that `pick` makes of two; an open bound stays open. -/
def unionBound (pick : Date → Date → Date) (a b : Option Date) : Option Date :=
  match a, b with
  | some a, some b => some (pick a b)
  | _, _ => none

/-- The stretch that two windows of one label cover together. -/
def union (a b : Window) : Window :=
  ⟨a.label, unionBound Date.earliest a.start b.start, unionBound Date.latest a.stop b.stop⟩

/-- Whether an optional first day comes no later than another; an open start comes first. -/
def startsNoLater : Option Date → Option Date → Bool
  | none, _ => true
  | some _, none => false
  | some a, some b => a ≤ b

/-- Windows are listed by first day, then by label. -/
def listedNoLater (a b : Window) : Bool :=
  if a.start = b.start then a.label ≤ b.label else startsNoLater a.start b.start

/-- The windows whose labels two lists share. -/
def align (legacy cloud : List Window) : List Window :=
  let byLabel := SortedMap.ofList (cloud.map fun window => (window.label, window))
  let shared := legacy.filterMap fun window => (byLabel.get? window.label).map window.union
  shared.mergeSort listedNoLater

end Window

end Reconciliation
