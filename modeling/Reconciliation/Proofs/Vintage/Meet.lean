import Mathlib.Data.List.Nodup
import Reconciliation.Proofs.Vintage.Alignment

/-! # Alignment as a meet

Two windows of one label cover together what either covers, and an open bound stays open. So the
windows that two lists share depend neither on the order of the lists nor on how further lists are
aligned with them, and they are listed in the one order that first days and labels determine
(`align_meets`). Lists in this order are known by their members (`eq_of_mem_iff`), so each law of
lists comes down to one of two or three windows.
-/

namespace Reconciliation.Window

open Date

/-! ## Windows of one label -/

section

variable {pick : Date → Date → Date}

theorem unionBound_comm (comm : ∀ a b, pick a b = pick b a) (a b : Option Date) :
    unionBound pick a b = unionBound pick b a := by
  cases a with
  | none => cases b <;> rfl
  | some a =>
      cases b with
      | none => rfl
      | some b => exact congrArg some (comm a b)

/-- A bound that is open on any side is open however the sides are grouped. -/
theorem unionBound_assoc (assoc : ∀ a b c, pick (pick a b) c = pick a (pick b c))
    (a b c : Option Date) :
    unionBound pick (unionBound pick a b) c = unionBound pick a (unionBound pick b c) := by
  cases a with
  | none => rfl
  | some a =>
      cases b with
      | none => rfl
      | some b =>
          cases c with
          | none => rfl
          | some c => exact congrArg some (assoc a b c)

theorem unionBound_eq_some_iff {a b : Option Date} {bound : Date} :
    unionBound pick a b = some bound ↔ ∃ x y, a = some x ∧ b = some y ∧ pick x y = bound := by
  cases a <;> cases b <;> simp [unionBound]

end

variable {a b c window : Window} {date : Date}

theorem union_comm (labels : a.label = b.label) : a.union b = b.union a := by
  rw [union, union, labels, unionBound_comm earliest_comm, unionBound_comm latest_comm]

theorem union_assoc (a b c : Window) : (a.union b).union c = a.union (b.union c) := by
  simp only [union, unionBound_assoc earliest_assoc, unionBound_assoc latest_assoc]

theorem contains_iff_bounds : window.contains date = true ↔
    (∀ start, window.start = some start → start ≤ date) ∧
      ∀ stop, window.stop = some stop → date < stop := by
  obtain ⟨label, start, stop⟩ := window
  cases start <;> cases stop <;> simp [contains]

/-- Windows cover together what the first of them covers. -/
theorem contains_union_left (inside : a.contains date = true) (b : Window) :
    (a.union b).contains date = true := by
  rw [contains_iff_bounds] at inside ⊢
  constructor
  · intro start bound
    obtain ⟨x, y, starts, -, rfl⟩ := unionBound_eq_some_iff.mp bound
    exact Std.le_trans (earliest_le_left x y) (inside.1 x starts)
  · intro stop bound
    obtain ⟨x, y, stops, -, rfl⟩ := unionBound_eq_some_iff.mp bound
    exact Std.lt_of_lt_of_le (inside.2 x stops) (left_le_latest x y)

/-! ## The order of windows -/

/-- A window starts no later than another, or at once and has no later label. -/
def Listed (a b : Window) : Prop :=
  startsNoLater a.start b.start = true ∧ (a.start = b.start → a.label ≤ b.label)

theorem startsNoLater_self (start : Option Date) : startsNoLater start start = true := by
  cases start with
  | none => rfl
  | some start => exact decide_eq_true (Std.le_refl start)

theorem startsNoLater_antisymm {x y : Option Date} (before : startsNoLater x y = true)
    (after : startsNoLater y x = true) : x = y := by
  cases x with
  | none =>
      cases y with
      | none => rfl
      | some y => cases after
  | some x =>
      cases y with
      | none => cases before
      | some y =>
          exact congrArg some (Std.le_antisymm (of_decide_eq_true before) (of_decide_eq_true after))

theorem startsNoLater_trans {x y z : Option Date} (first : startsNoLater x y = true)
    (second : startsNoLater y z = true) : startsNoLater x z = true := by
  cases x with
  | none => rfl
  | some x =>
      cases y with
      | none => cases first
      | some y =>
          cases z with
          | none => cases second
          | some z =>
              exact decide_eq_true
                (Std.le_trans (of_decide_eq_true first) (of_decide_eq_true second))

theorem startsNoLater_total (x y : Option Date) :
    startsNoLater x y = true ∨ startsNoLater y x = true := by
  cases x with
  | none => exact .inl rfl
  | some x =>
      cases y with
      | none => exact .inr rfl
      | some y => exact (Std.le_total (a := x) (b := y)).imp decide_eq_true decide_eq_true

theorem listedNoLater_iff : listedNoLater a b = true ↔ a.Listed b := by
  unfold listedNoLater Listed
  by_cases same : a.start = b.start
  · rw [if_pos same, decide_eq_true_eq, same]
    exact ⟨fun labels => ⟨startsNoLater_self _, fun _ => labels⟩, fun listed => listed.2 rfl⟩
  · rw [if_neg same]
    exact ⟨fun starts => ⟨starts, fun other => (same other).elim⟩, And.left⟩

theorem Listed.trans (first : a.Listed b) (second : b.Listed c) : a.Listed c := by
  refine ⟨startsNoLater_trans first.1 second.1, fun same => ?_⟩
  -- no start between two equal ones differs from them
  have here : a.start = b.start := startsNoLater_antisymm first.1 (same ▸ second.1)
  exact Std.le_trans (first.2 here) (second.2 (here.symm.trans same))

theorem listed_total (a b : Window) : a.Listed b ∨ b.Listed a := by
  by_cases same : a.start = b.start
  · refine (Std.le_total (a := a.label) (b := b.label)).imp (fun labels => ?_) fun labels => ?_
    · exact ⟨same ▸ startsNoLater_self _, fun _ => labels⟩
    · exact ⟨same ▸ startsNoLater_self _, fun _ => labels⟩
  · refine (startsNoLater_total a.start b.start).imp (fun starts => ?_) fun starts => ?_
    · exact ⟨starts, fun other => (same other).elim⟩
    · exact ⟨starts, fun other => (same other.symm).elim⟩

theorem Listed.label_eq (before : a.Listed b) (after : b.Listed a) : a.label = b.label := by
  have same := startsNoLater_antisymm before.1 after.1
  exact Std.le_antisymm (before.2 same) (after.2 same.symm)

/-- No label names two of the windows. -/
def DistinctLabels (windows : List Window) : Prop :=
  (windows.map label).Nodup

theorem DistinctLabels.eq_of_label_eq {windows : List Window} (distinct : DistinctLabels windows)
    (first : a ∈ windows) (second : b ∈ windows) (labels : a.label = b.label) : a = b :=
  List.inj_on_of_nodup_map distinct first second labels

/-- Windows in order are known by their members. -/
theorem eq_of_mem_iff {windows others : List Window} (distinct : DistinctLabels windows)
    (otherDistinct : DistinctLabels others) (listed : windows.Pairwise Listed)
    (otherListed : others.Pairwise Listed)
    (same : ∀ window, window ∈ windows ↔ window ∈ others) : windows = others := by
  have perm : windows.Perm others :=
    (List.perm_ext_iff_of_nodup distinct.of_map otherDistinct.of_map).mpr same
  apply perm.eq_of_pairwise _ listed otherListed
  intro a b first second before after
  exact distinct.eq_of_label_eq first ((same b).mpr second) (before.label_eq after)

/-! ## Aligned windows -/

variable {legacy cloud further : List Window}

theorem align_eq_mergeSort (legacy cloud : List Window) :
    align legacy cloud = (legacy.filterMap fun window =>
      ((byLabel cloud).get? window.label).map window.union).mergeSort listedNoLater := rfl

theorem listed_align (legacy cloud : List Window) : (align legacy cloud).Pairwise Listed := by
  have trans (a b c : Window) (first : listedNoLater a b = true)
      (second : listedNoLater b c = true) : listedNoLater a c = true :=
    listedNoLater_iff.mpr ((listedNoLater_iff.mp first).trans (listedNoLater_iff.mp second))
  have total (a b : Window) : (listedNoLater a b || listedNoLater b a) = true :=
    (Bool.or_eq_true ..).mpr
      ((listed_total a b).imp listedNoLater_iff.mpr listedNoLater_iff.mpr)
  rw [align_eq_mergeSort]
  exact (List.pairwise_mergeSort trans total _).imp listedNoLater_iff.mp

theorem get?_byLabel_eq_some_iff (distinct : DistinctLabels cloud) {label : String} :
    (byLabel cloud).get? label = some window ↔ window ∈ cloud ∧ label = window.label := by
  refine ⟨mem_of_get?_byLabel, ?_⟩
  rintro ⟨member, rfl⟩
  have keys : (cloud.map fun window => (window.label, window)).map Prod.fst = cloud.map label := by
    rw [List.map_map]
    rfl
  rw [byLabel, SortedMap.get?_ofList_eq_some_iff (keys ▸ distinct)]
  exact List.mem_map.mpr ⟨window, member, rfl⟩

/-- The aligned windows are what the windows of each shared label cover together. -/
theorem mem_align_iff (distinct : DistinctLabels cloud) : window ∈ align legacy cloud ↔
    ∃ left ∈ legacy, ∃ right ∈ cloud, left.label = right.label ∧ left.union right = window := by
  rw [align_eq_mergeSort, List.mem_mergeSort, List.mem_filterMap]
  simp only [Option.map_eq_some_iff, get?_byLabel_eq_some_iff distinct, and_assoc]

/-- An aligned window has the label of the window that it comes from. -/
theorem distinctLabels_align (distinct : DistinctLabels legacy) (cloud : List Window) :
    DistinctLabels (align legacy cloud) := by
  have own : ∀ window aligned : Window,
      ((byLabel cloud).get? window.label).map window.union = some aligned →
        aligned.label = window.label := by
    intro window aligned made
    obtain ⟨other, -, rfl⟩ := Option.map_eq_some_iff.mp made
    rfl
  have perm := (List.mergeSort_perm (legacy.filterMap fun window =>
    ((byLabel cloud).get? window.label).map window.union) listedNoLater).map label
  unfold DistinctLabels
  rw [align_eq_mergeSort, perm.nodup_iff, List.Nodup, List.pairwise_map, List.pairwise_filterMap]
  refine (List.pairwise_map.mp distinct).imp fun {a b} differ first made second made' => ?_
  rw [own a first made, own b second made']
  exact differ

theorem mem_labels_align_iff (distinct : DistinctLabels cloud) {name : String} :
    name ∈ (align legacy cloud).map label ↔
      name ∈ legacy.map label ∧ name ∈ cloud.map label := by
  simp only [List.mem_map, mem_align_iff distinct]
  constructor
  · rintro ⟨_, ⟨left, inLegacy, right, inCloud, labels, rfl⟩, rfl⟩
    exact ⟨⟨left, inLegacy, rfl⟩, ⟨right, inCloud, labels.symm⟩⟩
  · rintro ⟨⟨left, inLegacy, rfl⟩, ⟨right, inCloud, labels⟩⟩
    exact ⟨_, ⟨left, inLegacy, right, inCloud, labels.symm, rfl⟩, rfl⟩

theorem align_comm (distinct : DistinctLabels legacy) (otherDistinct : DistinctLabels cloud) :
    align legacy cloud = align cloud legacy := by
  apply eq_of_mem_iff (distinctLabels_align distinct _) (distinctLabels_align otherDistinct _)
    (listed_align _ _) (listed_align _ _)
  intro window
  rw [mem_align_iff distinct, mem_align_iff otherDistinct]
  constructor
  · rintro ⟨left, inLegacy, right, inCloud, labels, rfl⟩
    exact ⟨right, inCloud, left, inLegacy, labels.symm, union_comm labels.symm⟩
  · rintro ⟨right, inCloud, left, inLegacy, labels, rfl⟩
    exact ⟨left, inLegacy, right, inCloud, labels.symm, union_comm labels.symm⟩

theorem align_assoc (distinct : DistinctLabels legacy) (otherDistinct : DistinctLabels cloud)
    (furtherDistinct : DistinctLabels further) :
    align (align legacy cloud) further = align legacy (align cloud further) := by
  have aligned := distinctLabels_align distinct cloud
  have others := distinctLabels_align otherDistinct further
  apply eq_of_mem_iff (distinctLabels_align aligned _) (distinctLabels_align distinct _)
    (listed_align _ _) (listed_align _ _)
  intro window
  rw [mem_align_iff furtherDistinct, mem_align_iff others]
  simp only [mem_align_iff otherDistinct, mem_align_iff furtherDistinct]
  constructor
  · rintro ⟨_, ⟨left, inLegacy, right, inCloud, labels, rfl⟩, last, inFurther, labels', rfl⟩
    exact ⟨left, inLegacy, _, ⟨right, inCloud, last, inFurther, labels.symm.trans labels', rfl⟩,
      labels, (union_assoc left right last).symm⟩
  · rintro ⟨left, inLegacy, _, ⟨right, inCloud, last, inFurther, labels', rfl⟩, labels, rfl⟩
    exact ⟨_, ⟨left, inLegacy, right, inCloud, labels, rfl⟩, last, inFurther, labels.trans labels',
      union_assoc left right last⟩

/-- Aligned with itself, a list keeps its windows. -/
theorem align_self_perm (distinct : DistinctLabels legacy) : (align legacy legacy).Perm legacy := by
  refine (List.perm_ext_iff_of_nodup (distinctLabels_align distinct _).of_map distinct.of_map).mpr
    fun window => ?_
  rw [mem_align_iff distinct]
  constructor
  · rintro ⟨left, member, right, member', labels, rfl⟩
    rwa [← distinct.eq_of_label_eq member member' labels, union_self]
  · intro member
    exact ⟨window, member, window, member, rfl, union_self window⟩

/-- The windows that two lists share, in order. -/
structure IsMeet (legacy cloud aligned : List Window) : Prop where
  /-- The labels are those of both lists. -/
  labels : ∀ name, name ∈ aligned.map label ↔ name ∈ legacy.map label ∧ name ∈ cloud.map label
  /-- No label is repeated. -/
  distinct : DistinctLabels aligned
  /-- The windows are listed by first day, an open one before all others, then by label. -/
  listed : aligned.Pairwise Listed
  /-- A window covers what the windows of its label cover in either list. -/
  covers : ∀ window ∈ aligned, ∀ other, other ∈ legacy ∨ other ∈ cloud →
    other.label = window.label → ∀ date, other.contains date = true → window.contains date = true

theorem isMeet_align (distinct : DistinctLabels legacy) (otherDistinct : DistinctLabels cloud) :
    IsMeet legacy cloud (align legacy cloud) := by
  refine ⟨fun _ => mem_labels_align_iff otherDistinct, distinctLabels_align distinct cloud,
    listed_align legacy cloud, fun window member other listed labels date inside => ?_⟩
  obtain ⟨left, inLegacy, right, inCloud, shared, rfl⟩ := (mem_align_iff otherDistinct).mp member
  rcases listed with listed | listed
  · obtain rfl := distinct.eq_of_label_eq listed inLegacy labels
    exact contains_union_left inside right
  · obtain rfl := otherDistinct.eq_of_label_eq listed inCloud (labels.trans shared)
    rw [union_comm shared]
    exact contains_union_left inside left

/-- **Alignment is a meet**: it does not depend on which list comes first or on how three lists are
grouped, and a list aligned with itself is the list in order. -/
theorem align_meets (distinct : DistinctLabels legacy) (otherDistinct : DistinctLabels cloud)
    (furtherDistinct : DistinctLabels further) :
    IsMeet legacy cloud (align legacy cloud) ∧
      align legacy cloud = align cloud legacy ∧
      align (align legacy cloud) further = align legacy (align cloud further) ∧
      (align legacy legacy).Perm legacy ∧ (align legacy legacy).Pairwise Listed :=
  ⟨isMeet_align distinct otherDistinct, align_comm distinct otherDistinct,
    align_assoc distinct otherDistinct furtherDistinct, align_self_perm distinct,
    listed_align legacy legacy⟩

/-- The whole range of three tables, of which one has no first day, beside windows of one table. -/
theorem align_meets_openStart :
    let legacy : List Window :=
      [⟨"late", some ⟨2024, 2, 1, by decide⟩, none⟩,
        ⟨"all", some ⟨2024, 1, 3, by decide⟩, some ⟨2024, 1, 20, by decide⟩⟩]
    let cloud : List Window := [⟨"all", none, some ⟨2024, 1, 15, by decide⟩⟩]
    let further : List Window :=
      [⟨"all", some ⟨2024, 1, 1, by decide⟩, some ⟨2024, 1, 31, by decide⟩⟩,
        ⟨"late", some ⟨2024, 2, 2, by decide⟩, none⟩]
    DistinctLabels legacy ∧ DistinctLabels cloud ∧ DistinctLabels further ∧
      IsMeet legacy cloud (align legacy cloud) ∧
      align legacy cloud = align cloud legacy ∧
      align (align legacy cloud) further = align legacy (align cloud further) ∧
      (align legacy legacy).Perm legacy ∧ (align legacy legacy).Pairwise Listed := by
  intro legacy cloud further
  have distinct : DistinctLabels legacy := by
    unfold DistinctLabels
    decide
  have otherDistinct : DistinctLabels cloud := List.nodup_singleton _
  have furtherDistinct : DistinctLabels further := by
    unfold DistinctLabels
    decide
  exact ⟨distinct, otherDistinct, furtherDistinct,
    align_meets distinct otherDistinct furtherDistinct⟩

end Reconciliation.Window
