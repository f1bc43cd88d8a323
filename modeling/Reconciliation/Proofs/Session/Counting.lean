import Reconciliation.Proofs.Query.Reading
import Reconciliation.Proofs.SortedMap
import Reconciliation.Session.Counting

/-! # Counted rows

A side that is partitioned holds the rows of all records of its answer or nothing. A record spoils
the answer if it has a day that cannot be read or tells no number of rows; a record without a day is
passed over. If no record spoils the answer, each day holds the sum over the records that are read
as this day, and no row is lost or counted twice (`TableSide.Holds`, `Connections.tableSide_counts`).
Sums do not depend on the order of the records (`RowCounts.ofDayCounts_eq_of_perm`).
-/

namespace Reconciliation

-- Sums start from the literal zero, whatever else is imported beside this module.
attribute [local instance (high)] Zero.ofOfNat0

open RowCountComparison (countOn)

/-! ## Sums by the day -/

namespace RowCounts

variable {counts : RowCounts} {dayCounts others : List (Date × Nat)} {day date : Date} {rows : Nat}

/-- The rows that some counts of days have for one of them. -/
def rowsOn (dayCounts : List (Date × Nat)) (date : Date) : Nat :=
  ((dayCounts.filter (·.1 = date)).map Prod.snd).sum

theorem rowsOn_cons :
    rowsOn ((day, rows) :: dayCounts) date =
      (if day = date then rows else 0) + rowsOn dayCounts date := by
  unfold rowsOn
  rw [List.filter_cons]
  by_cases here : day = date
  · rw [if_pos (decide_eq_true here), if_pos here, List.map_cons, List.sum_cons]
  · rw [if_neg (by rwa [decide_eq_true_iff]), if_neg here, Nat.zero_add]

theorem rowsOn_eq_zero (missing : date ∉ dayCounts.map Prod.fst) : rowsOn dayCounts date = 0 := by
  unfold rowsOn
  rw [List.filter_eq_nil_iff.mpr, List.map_nil, List.sum_nil]
  intro entry listed here
  exact missing (of_decide_eq_true here ▸ List.mem_map_of_mem listed)

/-- Rows are added to their own day. -/
theorem countOn_add :
    countOn (counts.add day rows) date = countOn counts date + if day = date then rows else 0 := by
  unfold add
  rw [countOn, SortedMap.get?_insert]
  by_cases here : date = day
  · subst here
    rw [if_pos rfl, if_pos rfl, Option.getD_some]
  · rw [if_neg here, if_neg (Ne.symm here), Nat.add_zero, countOn]

/-- Each day takes its rows on top of those that it has; the other days stay as they are. -/
theorem get?_foldl_add :
    (dayCounts.foldl (fun counts (date, rows) => counts.add date rows) counts).get? date =
      if date ∈ dayCounts.map Prod.fst then some (countOn counts date + rowsOn dayCounts date)
      else counts.get? date := by
  induction dayCounts generalizing counts with
  | nil => rfl
  | cons head rest ih =>
      obtain ⟨day, rows⟩ := head
      rw [List.foldl_cons]
      dsimp only
      rw [ih, countOn_add, rowsOn_cons, List.map_cons]
      by_cases later : date ∈ rest.map Prod.fst
      · rw [if_pos later, if_pos (List.mem_cons_of_mem _ later), Nat.add_assoc]
      · rw [if_neg later, rowsOn_eq_zero later, RowCounts.add, SortedMap.get?_insert]
        by_cases here : date = day
        · subst here
          rw [if_pos rfl, if_pos List.mem_cons_self, if_pos rfl, Nat.add_zero]
        · rw [if_neg here, if_neg fun listed => (List.mem_cons.mp listed).elim here later]

theorem get?_ofDayCounts :
    (ofDayCounts dayCounts).get? date =
      if date ∈ dayCounts.map Prod.fst then some (rowsOn dayCounts date) else none := by
  rw [ofDayCounts, get?_foldl_add, countOn, SortedMap.get?_empty, Option.getD_none, Nat.zero_add]

/-- The order in which days are counted does not show. -/
theorem ofDayCounts_eq_of_perm (same : dayCounts.Perm others) :
    ofDayCounts dayCounts = ofDayCounts others := by
  apply SortedMap.ext_get?
  intro date
  have days : date ∈ dayCounts.map Prod.fst ↔ date ∈ others.map Prod.fst :=
    (same.map Prod.fst).mem_iff
  have rows : rowsOn dayCounts date = rowsOn others date :=
    ((same.filter _).map Prod.snd).sum_nat
  rw [get?_ofDayCounts, get?_ofDayCounts, rows]
  simp only [days]

/-- A value put at a key replaces what the sum has for this key. -/
theorem sum_insertEntry (key : Date) (value : Nat) (entries : List (Date × Nat)) :
    ((insertEntry key value entries).map Prod.snd).sum + (lookupEntry key entries).getD 0 =
      (entries.map Prod.snd).sum + value := by
  induction entries with
  | nil => exact Nat.add_comm _ _
  | cons head rest ih =>
      obtain ⟨held, old⟩ := head
      rw [insertEntry, lookupEntry]
      split
      · simp only [List.map_cons, List.sum_cons, Option.getD_none]
        omega
      · split
        · simp only [List.map_cons, List.sum_cons]
          omega
        · simp only [List.map_cons, List.sum_cons, Option.getD_some]
          omega

theorem values_sum_add : (counts.add day rows).values.sum = counts.values.sum + rows := by
  have replaced := sum_insertEntry day (countOn counts day + rows) counts.entries
  change (counts.add day rows).values.sum + countOn counts day =
    counts.values.sum + (countOn counts day + rows) at replaced
  omega

/-- All rows are kept, and none twice. -/
theorem values_sum_ofDayCounts :
    (ofDayCounts dayCounts).values.sum = (dayCounts.map Prod.snd).sum := by
  have kept (counts : RowCounts) :
      (dayCounts.foldl (fun counts (date, rows) => counts.add date rows) counts).values.sum =
        counts.values.sum + (dayCounts.map Prod.snd).sum := by
    induction dayCounts generalizing counts with
    | nil => rfl
    | cons head rest ih =>
        rw [List.foldl_cons, ih, values_sum_add, List.map_cons, List.sum_cons, Nat.add_assoc]
  rw [ofDayCounts, kept]
  exact Nat.zero_add _

end RowCounts

/-! ## The rows of a record -/

section

variable {record : Record} {rows : Nat} {column : PartitionColumn}

/-- The value that a record has for the day, unless it is NULL or absent. -/
def dayValue? (record : Record) : Option Scalar :=
  (record.get? partitionDateName).join

/-- The day that a record is read as. -/
def dayRead? (record : Record) : Option Date :=
  (dayValue? record).bind fun value => TextLayout.dashed.parse? value.display

/-- The number of rows of a record denotes an integer that is not negative. -/
def TellsRows (record : Record) (rows : Nat) : Prop :=
  ∃ value count, record.get? rowCountName = some (some value) ∧
    value.coerceInteger = .integer count ∧ count.toInt = rows

/-- The number of rows that a record tells; zero if it tells none. -/
def rowsTold (record : Record) : Nat :=
  (rowCountOf record).toOption.getD 0

/-- A record has a day, and the day or the number of rows cannot be read. -/
def Spoils (record : Record) : Prop :=
  ∃ value, dayValue? record = some value ∧
    (TextLayout.dashed.parse? value.display = none ∨ ¬∃ rows, TellsRows record rows)

theorem rowCountOf_eq_ok_iff : rowCountOf record = .ok rows ↔ TellsRows record rows := by
  unfold rowCountOf TellsRows
  rcases record.get? rowCountName with _ | _ | value
  · simp
  · simp
  · cases coerced : value.coerceInteger with
    | integer count =>
        simp only [Option.join_some, Option.map_some, coerced, Option.some.injEq, exists_and_left,
          exists_eq_left', Scalar.integer.injEq]
        by_cases nonnegative : 0 ≤ count.toInt
        · rw [if_pos nonnegative, Except.ok.injEq]
          omega
        · rw [if_neg nonnegative]
          simp only [reduceCtorEq, false_iff]
          omega
    | float number => simp [coerced]
    | text text => simp [coerced]

theorem rowsTold_eq (tells : TellsRows record rows) : rowsTold record = rows := by
  rw [rowsTold, rowCountOf_eq_ok_iff.mpr tells]
  rfl

/-- A record that has a day is read as one and tells its rows, unless it spoils the answer. -/
theorem reads_of_not_spoils (sound : ¬Spoils record) (held : (dayValue? record).isSome) :
    (dayRead? record).isSome ∧ TellsRows record (rowsTold record) := by
  obtain ⟨value, held⟩ := Option.isSome_iff_exists.mp held
  obtain ⟨rows, tells⟩ : ∃ rows, TellsRows record rows := by
    by_contra untold
    exact sound ⟨value, held, .inr untold⟩
  refine ⟨?_, rowsTold_eq tells ▸ tells⟩
  rw [dayRead?, held, Option.bind_some, Option.isSome_iff_ne_none]
  exact fun unread => sound ⟨value, held, .inl unread⟩

theorem dayCountOf_eq : dayCountOf column record =
    match dayValue? record with
    | none => .ok none
    | some value =>
      match TextLayout.dashed.parse? value.display with
      | none => .error (.invalidDate (.unreadablePartition value.display column.name))
      | some date =>
        ((rowCountOf record).mapError Failure.malformedResult).map fun rows => some (date, rows) := by
  unfold dayCountOf dayValue?
  cases rowCountOf record <;> rfl

/-- A record without a day tells nothing; any other tells its day and rows unless it spoils the
answer. -/
theorem dayCountOf_eq_ok (sound : ¬Spoils record) :
    dayCountOf column record = .ok ((dayRead? record).map (·, rowsTold record)) := by
  rw [dayCountOf_eq, dayRead?]
  cases held : dayValue? record with
  | none => rfl
  | some value =>
      obtain ⟨read, tells⟩ := reads_of_not_spoils sound (held ▸ rfl)
      rw [dayRead?, held] at read
      obtain ⟨date, read⟩ := Option.isSome_iff_exists.mp read
      rw [Option.bind_some] at read ⊢
      dsimp only
      rw [read, rowCountOf_eq_ok_iff.mpr tells]
      rfl

theorem exists_dayCountOf_eq_error_iff :
    (∃ failure, dayCountOf column record = .error failure) ↔ Spoils record := by
  constructor
  · rintro ⟨failure, failed⟩
    by_contra sound
    cases failed.symm.trans (dayCountOf_eq_ok sound)
  · rintro ⟨value, held, unreadable⟩
    rw [dayCountOf_eq, held]
    dsimp only
    cases read : TextLayout.dashed.parse? value.display with
    | none => exact ⟨_, rfl⟩
    | some date =>
        cases counted : rowCountOf record with
        | error fault => exact ⟨_, rfl⟩
        | ok rows =>
            have untold := unreadable.resolve_left (read ▸ Option.some_ne_none date)
            exact absurd ⟨rows, rowCountOf_eq_ok_iff.mp counted⟩ untold

end

/-! ## The side of a table -/

/-- The query failed, or some record spoils its answer. -/
def Uncountable (answer : Answer) : Prop :=
  (∃ failure, answer = .error failure) ∨
    ∃ result, answer = .ok result ∧ ∃ record ∈ result.records, Spoils record

namespace TableSide

variable {scope : TableScope} {column : PartitionColumn} {records others : List Record}

/-- A side holds the rows of some records of a scope. -/
structure Holds (side : TableSide) (scope : TableScope) (records : List Record) : Prop where
  accessible : side.accessible = true
  partition : side.partition = scope.partition
  baseFilter : side.baseFilter = scope.baseFilter
  /-- Every record that has a day is read as one, and tells its rows. -/
  tellsRows : ∀ record ∈ records, (dayValue? record).isSome →
    (dayRead? record).isSome ∧ TellsRows record (rowsTold record)
  /-- The days are those read. -/
  mem_keys_iff : ∀ date, date ∈ side.rowCounts.keys ↔
    ∃ record ∈ records, dayRead? record = some date
  /-- A day has the rows of all records that are read as this day. -/
  get?_eq : ∀ date ∈ side.rowCounts.keys, side.rowCounts.get? date =
    some ((records.filter (dayRead? · = some date)).map rowsTold).sum
  /-- All rows of records that have a day are there. -/
  values_sum_eq : side.rowCounts.values.sum =
    ((records.filter fun record => (dayValue? record).isSome).map rowsTold).sum

/-- The days of some records with their rows, record by record. -/
def dayCounts (records : List Record) : List (Date × Nat) :=
  records.filterMap fun record => (dayRead? record).map (·, rowsTold record)

/-- The side with the rows of some records. -/
def ofRecords (scope : TableScope) (records : List Record) : TableSide :=
  { accessible := true
    partition := scope.partition
    baseFilter := scope.baseFilter
    rowCounts := .ofDayCounts (dayCounts records) }

theorem ofRecords_eq_of_perm (same : records.Perm others) :
    ofRecords scope records = ofRecords scope others := by
  have days : (dayCounts records).Perm (dayCounts others) := same.filterMap _
  unfold ofRecords
  rw [RowCounts.ofDayCounts_eq_of_perm days]

theorem mem_dayCounts_days {date : Date} :
    date ∈ (dayCounts records).map Prod.fst ↔ ∃ record ∈ records, dayRead? record = some date := by
  simp [dayCounts]

/-- The rows of some days are those of the records read as one of them. -/
theorem rows_filter_dayCounts (records : List Record) (chosen : Date → Bool) :
    ((dayCounts records).filter fun entry => chosen entry.1).map Prod.snd =
      (records.filter fun record => (dayRead? record).any chosen).map rowsTold := by
  rw [dayCounts, List.filter_filterMap, List.map_filterMap, ← List.filterMap_eq_map,
    List.filterMap_filter]
  apply List.filterMap_congr
  intro record _
  cases dayRead? record with
  | none => rfl
  | some day => cases picked : chosen day <;> simp [picked, Option.any]

theorem rowsOn_dayCounts (date : Date) : RowCounts.rowsOn (dayCounts records) date =
    ((records.filter (dayRead? · = some date)).map rowsTold).sum := by
  unfold RowCounts.rowsOn
  rw [rows_filter_dayCounts records fun day => day = date]
  congr 2
  apply List.filter_congr
  intro record _
  cases dayRead? record <;> simp [Option.any]

variable (sound : ∀ record ∈ records, ¬Spoils record)
include sound

theorem sum_dayCounts : ((dayCounts records).map Prod.snd).sum =
    ((records.filter fun record => (dayValue? record).isSome).map rowsTold).sum := by
  have all := rows_filter_dayCounts records fun _ => true
  rw [List.filter_eq_self.mpr fun _ _ => rfl] at all
  rw [all]
  congr 2
  apply List.filter_congr
  intro record listed
  by_cases held : (dayValue? record).isSome
  · obtain ⟨date, read⟩ :=
      Option.isSome_iff_exists.mp (reads_of_not_spoils (sound record listed) held).1
    rw [held, read]
    rfl
  · rw [dayRead?, Option.not_isSome_iff_eq_none.mp held]
    rfl

/-- The side of records that do not spoil their answer holds their rows. -/
theorem holds_ofRecords : (ofRecords scope records).Holds scope records where
  accessible := rfl
  partition := rfl
  baseFilter := rfl
  tellsRows := fun record listed => reads_of_not_spoils (sound record listed)
  mem_keys_iff := by
    intro date
    rw [SortedMap.mem_keys_iff, ofRecords, RowCounts.get?_ofDayCounts, ← mem_dayCounts_days]
    split <;> simp_all
  get?_eq := by
    intro date listed
    rw [SortedMap.mem_keys_iff, ofRecords, RowCounts.get?_ofDayCounts] at listed
    rw [ofRecords, RowCounts.get?_ofDayCounts, ← rowsOn_dayCounts]
    split at listed
    · next read => rw [if_pos read]
    · cases listed
  values_sum_eq := by
    rw [ofRecords, RowCounts.values_sum_ofDayCounts, sum_dayCounts sound]

end TableSide

section

variable {scope : TableScope} {column : PartitionColumn} {answer : Answer}
  (partitioned : scope.partition = some column)
include partitioned

/-- Records that do not spoil their answer are counted. -/
theorem readTableSide_eq_ok {result : QueryResult}
    (sound : ∀ record ∈ result.records, ¬Spoils record) :
    readTableSide scope (.ok result) = .ok (.ofRecords scope result.records) := by
  have read : result.records.mapM (dayCountOf column) =
      .ok (result.records.map fun record => (dayRead? record).map (·, rowsTold record)) := by
    rw [mapM_eq_ok_iff, List.forall₂_map_right_iff, List.forall₂_same]
    exact fun record listed => dayCountOf_eq_ok (sound record listed)
  have days : (result.records.map fun record =>
      (dayRead? record).map (·, rowsTold record)).filterMap id =
        TableSide.dayCounts result.records := by
    rw [List.filterMap_map]
    rfl
  simp only [readTableSide, partitioned, read, days, bind, Except.bind, pure, Except.pure,
    TableSide.ofRecords]

theorem exists_readTableSide_eq_error_iff :
    (∃ failure, readTableSide scope answer = .error failure) ↔ Uncountable answer := by
  cases answer with
  | error failure => simp [readTableSide, Uncountable, bind, Except.bind]
  | ok result =>
      have spoiled : (∃ failure, readTableSide scope (.ok result) = .error failure) ↔
          ∃ failure, result.records.mapM (dayCountOf column) = .error failure := by
        unfold readTableSide
        simp only [partitioned, bind, Except.bind]
        cases result.records.mapM (dayCountOf column) <;> simp [pure, Except.pure]
      rw [spoiled, exists_mapM_eq_error_iff]
      simp only [exists_dayCountOf_eq_error_iff, Uncountable, reduceCtorEq, exists_false, false_or,
        Except.ok.injEq, exists_eq_left']

end

/-- A table is excluded for the first platform whose side is not accessible. -/
theorem validateTable_eq_notAccessible_iff {table : String} {granularity : Granularity}
    {sides : Both TableSide} {platform : Platform} :
    validateTable table granularity sides = .excluded table (.notAccessible platform) ↔
      (sides.on platform).accessible = false ∧
        (platform = .cloud → sides.legacy.accessible = true) := by
  have first : validateTable table granularity sides = .excluded table (.notAccessible platform) ↔
      (Platform.all.find? fun side => !(sides.on side).accessible) = some platform := by
    unfold validateTable
    cases Platform.all.find? fun side => !(sides.on side).accessible with
    | some other => simp
    | none =>
        dsimp only
        split <;> simp
  rw [first, Platform.all, List.find?_cons, List.find?_cons, List.find?_nil]
  simp only [Both.on]
  cases legacy : sides.legacy.accessible <;> cases cloud : sides.cloud.accessible <;>
    cases platform <;> simp [legacy, cloud]

namespace Connections

/-- What a platform answers to the row count query of a table. -/
def rowCountAnswer (connections : Connections) (platform : Platform) (scope : TableScope) :
    Answer :=
  (connections.databases.on platform).answer
    (rowCountQuery platform scope.table scope.partition scope.baseFilter)

theorem tableSide_value (connections : Connections) (platform : Platform) (scope : TableScope) :
    (connections.tableSide platform scope).value =
      match readTableSide scope (connections.rowCountAnswer platform scope) with
      | .ok side => side
      | .error _ => {} := rfl

section

variable {connections : Connections} {platform : Platform} {scope : TableScope}
  {column : PartitionColumn} (partitioned : scope.partition = some column)
include partitioned

theorem tableSide_of_uncountable
    (uncountable : Uncountable (connections.rowCountAnswer platform scope)) :
    (connections.tableSide platform scope).value = {} := by
  obtain ⟨failure, failed⟩ := (exists_readTableSide_eq_error_iff partitioned).mpr uncountable
  rw [tableSide_value, failed]

theorem tableSide_of_not_uncountable
    (countable : ¬Uncountable (connections.rowCountAnswer platform scope)) :
    ∃ result, connections.rowCountAnswer platform scope = .ok result ∧
      (∀ record ∈ result.records, ¬Spoils record) ∧
      (connections.tableSide platform scope).value = .ofRecords scope result.records := by
  cases answered : connections.rowCountAnswer platform scope with
  | error failure => exact absurd (.inl ⟨failure, answered⟩) countable
  | ok result =>
      have sound : ∀ record ∈ result.records, ¬Spoils record := fun record listed spoils =>
        countable (.inr ⟨result, answered, record, listed, spoils⟩)
      refine ⟨result, rfl, sound, ?_⟩
      rw [tableSide_value, answered, readTableSide_eq_ok partitioned sound]

theorem accessible_tableSide_eq_false_iff :
    (connections.tableSide platform scope).value.accessible = false ↔
      Uncountable (connections.rowCountAnswer platform scope) := by
  by_cases uncountable : Uncountable (connections.rowCountAnswer platform scope)
  · rw [tableSide_of_uncountable partitioned uncountable]
    exact iff_of_true rfl uncountable
  · obtain ⟨result, -, -, side⟩ := tableSide_of_not_uncountable partitioned uncountable
    rw [side]
    exact iff_of_false Bool.noConfusion uncountable

/-- **The side of a partitioned table holds the rows of all records of its answer, or nothing**,
whatever the order of the records. -/
theorem tableSide_counts (connections : Connections) (platform : Platform) :
    let answer := connections.rowCountAnswer platform scope
    let side := (connections.tableSide platform scope).value
    (side.accessible = false ↔ Uncountable answer) ∧
    (Uncountable answer → side = {}) ∧
    (¬Uncountable answer →
      ∃ result, answer = .ok result ∧ side.Holds scope result.records) ∧
    (∀ (others : Connections) (result other : QueryResult), answer = .ok result →
      others.rowCountAnswer platform scope = .ok other → result.records.Perm other.records →
      (others.tableSide platform scope).value = side) ∧
    (∀ (table : String) (granularity : Granularity) (scopes : Both TableScope),
      scopes.on platform = scope →
      ((connections.validate table granularity scopes).value =
          .excluded table (.notAccessible platform) ↔
        Uncountable answer ∧ (platform = .cloud →
          (connections.tableSide .legacy scopes.legacy).value.accessible = true))) := by
  intro answer side
  refine ⟨accessible_tableSide_eq_false_iff partitioned, tableSide_of_uncountable partitioned,
    ?holds, ?order, ?excluded⟩
  case holds =>
    intro countable
    obtain ⟨result, answered, sound, value⟩ := tableSide_of_not_uncountable partitioned countable
    refine ⟨result, answered, ?_⟩
    change TableSide.Holds (connections.tableSide platform scope).value scope result.records
    rw [value]
    exact TableSide.holds_ofRecords sound
  case order =>
    intro others result other answered otherAnswered same
    have alike : Uncountable (others.rowCountAnswer platform scope) ↔ Uncountable answer := by
      rw [answered, otherAnswered]
      simp only [Uncountable, reduceCtorEq, exists_false, false_or, Except.ok.injEq,
        exists_eq_left', same.mem_iff]
    by_cases uncountable : Uncountable answer
    · rw [tableSide_of_uncountable partitioned (alike.mpr uncountable)]
      exact (tableSide_of_uncountable partitioned uncountable).symm
    · obtain ⟨held, heldAnswer, -, value⟩ := tableSide_of_not_uncountable partitioned uncountable
      obtain ⟨otherHeld, otherHeldAnswer, -, otherValue⟩ :=
        tableSide_of_not_uncountable partitioned (alike.not.mpr uncountable)
      obtain rfl := Except.ok.inj (answered.symm.trans heldAnswer)
      obtain rfl := Except.ok.inj (otherAnswered.symm.trans otherHeldAnswer)
      rw [otherValue, TableSide.ofRecords_eq_of_perm same.symm]
      exact value.symm
  case excluded =>
    rintro table granularity scopes rfl
    have sides : (connections.validate table granularity scopes).value =
        validateTable table granularity (.tabulate fun each =>
          (connections.tableSide each (scopes.on each)).value) := rfl
    rw [sides, validateTable_eq_notAccessible_iff, Both.on_tabulate,
      accessible_tableSide_eq_false_iff partitioned]
    rfl

end

/-- Two spellings of a day are one day, a record without a day is passed over, and the cloud
platform has no day that can be read. -/
theorem tableSide_counts_spellings :
    let legacy : QueryResult := ⟨["PARTITION_DATE", "ROW_COUNT"],
      [[some (.text "2024-01-05"), some (.integer 3)], [none, some (.integer 7)],
        [some (.text " 2024-01-05 00:00:00"), some (.text "4")]]⟩
    let cloud : QueryResult := ⟨["partition_date", "row_count"],
      [[some (.text "2024-01-05"), some (.integer 7)], [some (.text "soon"), some (.integer 1)]]⟩
    let connections : Connections :=
      { databases := ⟨⟨.legacy, fun _ => .ok legacy⟩, ⟨.cloud, fun _ => .ok cloud⟩⟩
        parallelism := ⟨1, 1⟩ }
    let scope : TableScope := ⟨⟨"core", "accounts"⟩, some ⟨"posted", .date⟩, none⟩
    let day : Date := ⟨2024, 1, 5, by decide⟩
    let side := (connections.tableSide .legacy scope).value
    (∀ date, date ∈ side.rowCounts.keys ↔ date = day) ∧
      side.rowCounts.get? day = some 7 ∧ side.rowCounts.values.sum = 7 ∧
      (connections.validate "accounts" .month ⟨scope, scope⟩).value =
        .excluded "accounts" (.notAccessible .cloud) := by
  intro legacy cloud connections scope day side
  have partitioned : scope.partition = some ⟨"posted", .date⟩ := rfl
  obtain ⟨accessible, -, holds, -, -⟩ := tableSide_counts partitioned connections .legacy
  obtain ⟨inaccessible, -, -, -, excluded⟩ := tableSide_counts partitioned connections .cloud
  obtain ⟨result, answered, held⟩ := holds (accessible.not.mp (by decide +kernel))
  obtain rfl := Except.ok.inj answered
  have days : legacy.records.filterMap dayRead? = [day, day] := by decide +kernel
  have keys (date : Date) : date ∈ side.rowCounts.keys ↔ date = day := by
    rw [held.mem_keys_iff, ← List.mem_filterMap, days]
    simp
  refine ⟨keys, ?_, ?_, ?_⟩
  · rw [held.get?_eq day ((keys day).mpr rfl)]
    decide +kernel
  · rw [held.values_sum_eq]
    decide +kernel
  · exact (excluded "accounts" .month ⟨scope, scope⟩ rfl).mpr
      ⟨inaccessible.mp (by decide +kernel), fun _ => by decide +kernel⟩

end Connections

end Reconciliation
