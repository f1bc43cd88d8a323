import Reconciliation.Session.Run

/-! # Statements of a run

A run compiles its statements pair by pair, for the legacy platform first, and sends nothing until
all of them are compiled. So the first fault ends it with nothing sent, and a run without a fault
sends each platform its own statements, each once, and ends with a report whatever the databases
answer (`Connections.sends_allOrNone`). Both kinds of run are `Connections.runUnits` of the units
that they compile, and `UnitsOf` says of such units what the result rests on.
-/

namespace Reconciliation

/-- What a statement for a platform compiles to. -/
structure Compilation where
  platform : Platform
  statement : Except CompilationFault String

namespace Compilation

variable {compilations : List Compilation} {platform : Platform}

/-- What the statements of one platform compile to, in order. -/
def own (platform : Platform) (compilations : List Compilation) :
    List (Except CompilationFault String) :=
  (compilations.filter (·.platform = platform)).map Compilation.statement

theorem own_cons (compilation : Compilation) (compilations : List Compilation) :
    own platform (compilation :: compilations) =
      if compilation.platform = platform then
        compilation.statement :: own platform compilations
      else own platform compilations := by
  unfold own
  rw [List.filter_cons]
  by_cases here : compilation.platform = platform
  · rw [if_pos (decide_eq_true here), if_pos here, List.map_cons]
  · rw [if_neg (by rwa [decide_eq_true_iff]), if_neg here]

theorem mem_own {compilation : Compilation} (listed : compilation ∈ compilations) :
    compilation.statement ∈ own compilation.platform compilations :=
  List.mem_map_of_mem (List.mem_filter.mpr ⟨listed, decide_eq_true rfl⟩)

/-- One compilation for each platform, by each of some items. -/
def each {α : Type} (items : List α)
    (statement : Platform → α → Except CompilationFault String) : List Compilation :=
  items.flatMap fun item => Platform.all.map fun platform => ⟨platform, statement platform item⟩

theorem own_each {α : Type} (items : List α)
    (statement : Platform → α → Except CompilationFault String) :
    own platform (each items statement) = items.map (statement platform) := by
  induction items with
  | nil => rfl
  | cons item items ih =>
      have front : each (item :: items) statement =
          ⟨.legacy, statement .legacy item⟩ :: ⟨.cloud, statement .cloud item⟩ ::
            each items statement := rfl
      rw [front, own_cons, own_cons, ih]
      cases platform <;> rfl

end Compilation

/-- The first of some compilations that fails, with those before it compiled. -/
def FailsFirst (compilations : List Compilation) (fault : CompilationFault) : Prop :=
  ∃ before platform after, compilations = before ++ ⟨platform, .error fault⟩ :: after ∧
    ∀ compilation ∈ before, compilation.statement.isOk

theorem FailsFirst.cons {compilation : Compilation} {compilations : List Compilation}
    {fault : CompilationFault} (compiled : compilation.statement.isOk)
    (later : FailsFirst compilations fault) : FailsFirst (compilation :: compilations) fault := by
  obtain ⟨before, platform, after, rfl, first⟩ := later
  exact ⟨compilation :: before, platform, after, rfl, List.forall_mem_cons.mpr ⟨compiled, first⟩⟩

/-- Units made of some compilations: none after a fault, and otherwise the units of each platform
run its own statements in order. -/
inductive UnitsOf (compilations : List Compilation) :
    Except CompilationFault (Both (List WorkUnit)) → Prop where
  | refused {fault : CompilationFault} (first : FailsFirst compilations fault) :
      UnitsOf compilations (.error fault)
  | compiled {units : Both (List WorkUnit)}
      (whole : ∀ platform, Compilation.own platform compilations =
        (units.on platform).map fun unit => .ok unit.statement) :
      UnitsOf compilations (.ok units)

/-- An inquiry sends all of its statements or none. -/
structure AllOrNone {α : Type} (compilations : List Compilation)
    (inquiry : Inquiry (Except Failure α)) : Prop where
  /-- The first fault is what the inquiry ends with, and it sent nothing. -/
  refused : (∃ compilation ∈ compilations, ¬compilation.statement.isOk) →
    ∃ fault, FailsFirst compilations fault ∧
      inquiry.value = .error (.compilation fault) ∧ inquiry.sent = ⟨[], []⟩
  /-- There is a report, and each platform was sent its own statements, each once. -/
  answered : (∀ compilation ∈ compilations, compilation.statement.isOk) →
    (∃ report, inquiry.value = .ok report) ∧
    ∀ platform, ((inquiry.sent.on platform).map Except.ok).Perm
      (Compilation.own platform compilations)

namespace Inquiry

theorem on_inTurn (first second : Both (List String)) (platform : Platform) :
    (inTurn first second).on platform = first.on platform ++ second.on platform :=
  Both.on_tabulate ..

theorem on_onlyOn (side : Platform) (statements : List String) (platform : Platform) :
    (onlyOn side statements).on platform = if platform = side then statements else [] :=
  Both.on_tabulate ..

theorem on_inTurn_nothing (first : Both (List String)) (platform : Platform) :
    (inTurn first ⟨[], []⟩).on platform = first.on platform := by
  rw [on_inTurn]
  cases platform <;> exact List.append_nil _

end Inquiry

namespace Connections

variable {α β : Type} {compilations : List Compilation}
  {units : Except CompilationFault (Both (List WorkUnit))}

/-- The report of what some units find, if they could be compiled. -/
def runUnits (connections : Connections) (units : Except CompilationFault (Both (List WorkUnit)))
    (read : Answer → Except Failure α) (report : Both (Harvest α) → β) :
    Inquiry (Except Failure β) :=
  match units with
  | .error fault => return .error (.compilation fault)
  | .ok units => do
    let harvests ← connections.harvest units read
    return .ok (report harvests)

/-- Units that are asked in order send their statements in order. -/
theorem sent_askEach (connections : Connections) (side platform : Platform)
    (units : List WorkUnit) :
    (connections.askEach side units).sent.on platform =
      if platform = side then units.map WorkUnit.statement else [] := by
  induction units with
  | nil => cases platform <;> exact (ite_self _).symm
  | cons unit units ih =>
      rw [askEach, Inquiry.sent_bind, Inquiry.sent_bind, Inquiry.sent_pure, Inquiry.on_inTurn,
        Inquiry.on_inTurn_nothing, ih, ask, Inquiry.on_onlyOn]
      by_cases here : platform = side
      · simp only [here, if_true, List.map_cons, List.singleton_append]
      · simp only [here, if_false, List.append_nil]

/-- The order in which units finish does not show in the record. -/
theorem sent_askAll (connections : Connections) (side platform : Platform)
    (units : List WorkUnit) :
    (connections.askAll side units).sent.on platform =
      if platform = side then units.map WorkUnit.statement else [] := by
  rw [askAll, Inquiry.sent_bind, Inquiry.sent_pure, Inquiry.on_inTurn_nothing, sent_askEach]

theorem sent_harvest (connections : Connections) (units : Both (List WorkUnit))
    (read : Answer → Except Failure α) (platform : Platform) :
    (connections.harvest units read).sent.on platform =
      (units.on platform).map WorkUnit.statement := by
  unfold harvest
  rw [Inquiry.sent_bind, Inquiry.sent_bind, Inquiry.sent_pure, Inquiry.on_inTurn,
    Inquiry.on_inTurn_nothing, sent_askAll, sent_askAll]
  cases platform with
  | legacy => exact List.append_nil _
  | cloud => exact List.nil_append _

theorem sent_runUnits_ok (connections : Connections) (units : Both (List WorkUnit))
    (read : Answer → Except Failure α) (report : Both (Harvest α) → β) (platform : Platform) :
    (connections.runUnits (.ok units) read report).sent.on platform =
      (units.on platform).map WorkUnit.statement := by
  unfold runUnits
  rw [Inquiry.sent_bind, Inquiry.sent_pure, Inquiry.on_inTurn_nothing, sent_harvest]

/-- A run sends what its units are made of, or nothing. -/
theorem allOrNone_runUnits (made : UnitsOf compilations units) (connections : Connections)
    (read : Answer → Except Failure α) (report : Both (Harvest α) → β) :
    AllOrNone compilations (connections.runUnits units read report) := by
  cases made with
  | refused first =>
      refine ⟨fun _ => ⟨_, first, rfl, rfl⟩, fun compiled => ?_⟩
      obtain ⟨before, platform, after, rfl, -⟩ := first
      exact nomatch compiled ⟨platform, .error _⟩ (List.mem_append_right _ List.mem_cons_self)
  | @compiled units whole =>
      constructor
      · rintro ⟨compilation, listed, failed⟩
        have stated := Compilation.mem_own listed
        rw [whole, List.mem_map] at stated
        obtain ⟨unit, -, same⟩ := stated
        rw [← same] at failed
        exact absurd rfl failed
      · intro _
        refine ⟨⟨_, rfl⟩, fun platform => ?_⟩
        rw [sent_runUnits_ok, whole, List.map_map]
        exact List.Perm.refl _

end Connections

/-! ## Both kinds of run -/

section

variable (tables : Both TableRef) (vintage : ValidatedVintage)

/-- The statistics statements of some pairs of columns. -/
def statsCompilations (pairs : List ColumnPair) (places : Nat) : List Compilation :=
  Compilation.each pairs fun platform pair =>
    statisticsQuery platform (tables.on platform) (pair.on platform)
      (vintage.queryFilters.on platform) places

/-- The row hash statements of some columns and keys. -/
def rowHashCompilations (columns keys : List ColumnPair) (options : HashOptions) :
    List Compilation :=
  Platform.all.map fun platform =>
    ⟨platform, rowHashQuery platform (tables.on platform) columns keys
      (vintage.queryFilters.on platform) options⟩

/-- The units of the first pair come before those of the others. -/
theorem unitsOf_statsUnits (pairs : List ColumnPair) (places : Nat) :
    UnitsOf (statsCompilations tables vintage pairs places)
      (statsUnits tables pairs vintage places) := by
  induction pairs with
  | nil => exact .compiled fun platform => by cases platform <;> rfl
  | cons pair pairs ih =>
      let statement (platform : Platform) : Except CompilationFault String :=
        statisticsQuery platform (tables.on platform) (pair.on platform)
          (vintage.queryFilters.on platform) places
      have front : statsCompilations tables vintage (pair :: pairs) places =
          ⟨.legacy, statement .legacy⟩ :: ⟨.cloud, statement .cloud⟩ ::
            statsCompilations tables vintage pairs places := rfl
      have step : statsUnits tables (pair :: pairs) vintage places = do
          let legacy ← statement .legacy
          let cloud ← statement .cloud
          let rest ← statsUnits tables pairs vintage places
          return ⟨⟨pair.name, legacy⟩ :: rest.legacy, ⟨pair.name, cloud⟩ :: rest.cloud⟩ := rfl
      rw [front, step]
      cases legacy : statement .legacy with
      | error fault => exact .refused ⟨[], .legacy, _, rfl, nofun⟩
      | ok legacyStatement =>
          cases cloud : statement .cloud with
          | error fault => exact .refused (.cons rfl ⟨[], .cloud, _, rfl, nofun⟩)
          | ok cloudStatement =>
              generalize statsUnits tables pairs vintage places = rest at ih
              cases ih with
              | refused first => exact .refused (.cons rfl (.cons rfl first))
              | compiled whole =>
                  refine .compiled fun platform => ?_
                  rw [Compilation.own_cons, Compilation.own_cons, whole]
                  cases platform <;> rfl

/-- The two statements of a row hash run, as units. -/
theorem unitsOf_rowHashQueries (columns keys : List ColumnPair) (options : HashOptions) :
    UnitsOf (rowHashCompilations tables vintage columns keys options)
      ((rowHashQueries tables columns keys vintage.queryFilters options).map fun statements =>
        statements.map fun statement =>
          [WorkUnit.mk (hashUnitName vintage.window.label) statement]) := by
  have listed : rowHashCompilations tables vintage columns keys options =
      [⟨.legacy, rowHashQuery .legacy tables.legacy columns keys vintage.queryFilters.legacy
          options⟩,
        ⟨.cloud, rowHashQuery .cloud tables.cloud columns keys vintage.queryFilters.cloud
          options⟩] := rfl
  rw [listed, rowHashQueries]
  cases rowHashQuery .legacy tables.legacy columns keys vintage.queryFilters.legacy options with
  | error fault => exact .refused ⟨[], .legacy, _, rfl, nofun⟩
  | ok legacy =>
      cases rowHashQuery .cloud tables.cloud columns keys vintage.queryFilters.cloud options with
      | error fault => exact .refused (.cons rfl ⟨[], .cloud, _, rfl, nofun⟩)
      | ok cloud => exact .compiled fun platform => by cases platform <;> rfl

namespace Connections

theorem runStats_eq_runUnits (connections : Connections) (pairs : List ColumnPair) (places : Nat)
    (schema : StatSchema) :
    connections.runStats tables pairs vintage places schema =
      connections.runUnits (statsUnits tables pairs vintage places) readStatistics
        (.ofHarvests schema pairs vintage.window.label) := rfl

theorem runHashes_eq_runUnits (connections : Connections) (columns keys : List ColumnPair)
    (options : HashOptions) (sampleLimit : Nat) :
    connections.runHashes tables columns keys vintage options sampleLimit =
      connections.runUnits
        ((rowHashQueries tables columns keys vintage.queryFilters options).map fun statements =>
          statements.map fun statement =>
            [WorkUnit.mk (hashUnitName vintage.window.label) statement])
        (readHashRows (keys.map ColumnPair.keyName))
        (.ofHarvests sampleLimit vintage.window.label) := by
  unfold runHashes
  cases rowHashQueries tables columns keys vintage.queryFilters options with
  | error fault => rfl
  | ok statements => rfl

/-- **A run sends all of its statements or none**, for all pairs, keys, vintages, places and
options, and whatever the databases answer. -/
theorem sends_allOrNone (connections : Connections) :
    (∀ pairs places schema,
      AllOrNone (statsCompilations tables vintage pairs places)
        (connections.runStats tables pairs vintage places schema) ∧
      ∀ platform, Compilation.own platform (statsCompilations tables vintage pairs places) =
        pairs.map fun pair =>
          statisticsQuery platform (tables.on platform) (pair.on platform)
            (vintage.queryFilters.on platform) places) ∧
    (∀ columns keys options sampleLimit,
      AllOrNone (rowHashCompilations tables vintage columns keys options)
        (connections.runHashes tables columns keys vintage options sampleLimit) ∧
      ∀ platform,
        Compilation.own platform (rowHashCompilations tables vintage columns keys options) =
          [rowHashQuery platform (tables.on platform) columns keys
            (vintage.queryFilters.on platform) options]) := by
  constructor
  · intro pairs places schema
    refine ⟨?_, fun platform => Compilation.own_each ..⟩
    rw [runStats_eq_runUnits]
    exact allOrNone_runUnits (unitsOf_statsUnits tables vintage pairs places) ..
  · intro columns keys options sampleLimit
    refine ⟨?_, fun platform => by cases platform <;> rfl⟩
    rw [runHashes_eq_runUnits]
    exact allOrNone_runUnits (unitsOf_rowHashQueries tables vintage columns keys options) ..

end Connections

end

end Reconciliation
