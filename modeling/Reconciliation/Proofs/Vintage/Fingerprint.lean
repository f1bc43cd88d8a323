import Mathlib.Data.List.Sort
import Reconciliation.Proofs.Calendar.StoredText
import Reconciliation.Proofs.Vintage.Exclusion

/-! # Fingerprints tell sets of days apart

A fingerprint digests the days of a set one a line, each once and in order. No written day holds a
line break, so the bytes digested determine the set, for signed and long years as for all others
(`fingerprintBytes_eq_iff`). As far as the digest tells such bytes apart, a vintage with bounds is
fresh exactly while the mismatched days between its bounds are the days that it leaves out
(`isStale_eq_false_iff_excludedDates`).
-/

namespace Reconciliation

open Date

/-! ## The text of a set of days -/

theorem SortedMap.distinct_eq_distinct_iff {κ : Type} [LE κ] [LT κ] [DecidableLT κ] [DecidableEq κ]
    [Std.IsLinearOrder κ] [Std.LawfulOrderLT κ] {members others : List κ} :
    distinct members = distinct others ↔ ∀ member, member ∈ members ↔ member ∈ others := by
  constructor
  · intro same member
    rw [← mem_distinct, same, mem_distinct]
  · intro same
    apply (distinct_pairwise members).eq_of_mem_iff (distinct_pairwise others)
    intro member
    rw [mem_distinct, mem_distinct, same]

/-- The first line of a text ends at the first line break. -/
theorem line_inj {line other rest remains : List Char} (unbroken : '\n' ∉ line)
    (unbroken' : '\n' ∉ other) (same : line ++ '\n' :: rest = other ++ '\n' :: remains) :
    line = other ∧ rest = remains := by
  have first {line : List Char} (unbroken : '\n' ∉ line) (rest : List Char) :
      (line ++ '\n' :: rest).takeWhile (· ≠ '\n') = line := by
    rw [List.takeWhile_append_of_pos]
    · simp
    · intro c member
      exact decide_eq_true (ne_of_mem_of_not_mem member unbroken)
  have lines : line = other := by
    rw [← first unbroken rest, same, first unbroken']
  subst lines
  exact ⟨rfl, (List.cons.inj (List.append_cancel_left same)).2⟩

theorem newline_notMem_text (date : Date) : '\n' ∉ date.text.toList := by
  intro member
  change '\n' ∈ (TextLayout.dashed.render date).toList at member
  exact absurd (TextLayout.isDayChar_of_mem_render member) (by decide)

theorem lines_injective {days others : List Date}
    (same : (days.flatMap fun date => date.text.toList ++ ['\n']) =
      others.flatMap fun date => date.text.toList ++ ['\n']) : days = others := by
  induction days generalizing others with
  | nil =>
      cases others with
      | nil => rfl
      | cons other others => simp at same
  | cons date days ih =>
      cases others with
      | nil => simp at same
      | cons other others =>
          simp only [List.flatMap_cons, List.append_assoc, List.singleton_append] at same
          obtain ⟨texts, rest⟩ :=
            line_inj (newline_notMem_text date) (newline_notMem_text other) same
          rw [text_injective (String.toList_inj.mp texts), ih rest]

/-- **The text that a fingerprint digests determines the set of days.** -/
theorem fingerprintText_eq_iff {days others : List Date} :
    fingerprintText days = fingerprintText others ↔ ∀ date, date ∈ days ↔ date ∈ others := by
  rw [← SortedMap.distinct_eq_distinct_iff]
  constructor
  · exact lines_injective
  · intro same
    rw [fingerprintText, fingerprintText, same]

theorem utf8_injective {text other : List Char}
    (same : text.flatMap String.utf8EncodeChar = other.flatMap String.utf8EncodeChar) :
    text = other := by
  apply String.ofList_injective
  apply String.toByteArray_inj.mp
  exact congrArg List.toByteArray same

/-! ## Fingerprints -/

/-- The bytes that the fingerprint of some days digests. -/
def fingerprintBytes (days : List Date) : List UInt8 :=
  (fingerprintText days).flatMap String.utf8EncodeChar

theorem fingerprintBytes_eq_iff {days others : List Date} :
    fingerprintBytes days = fingerprintBytes others ↔ ∀ date, date ∈ days ↔ date ∈ others := by
  rw [← fingerprintText_eq_iff]
  constructor
  · exact utf8_injective
  · intro same
    rw [fingerprintBytes, fingerprintBytes, same]

/-- Neither order nor repetition of the days changes their fingerprint. -/
theorem fingerprint_eq_of_mem_iff {days others : List Date}
    (same : ∀ date, date ∈ days ↔ date ∈ others) : fingerprint days = fingerprint others := by
  rw [fingerprint, fingerprint, fingerprintText_eq_iff.mpr same]

/-- Bytes that have different digests, unless they are the same. -/
def Sha256.Apart (bytes others : List UInt8) : Prop :=
  hex bytes = hex others → bytes = others

/-- Where the digest does not collide, the fingerprint determines the set of days. -/
theorem fingerprint_eq_iff {days others : List Date}
    (apart : Sha256.Apart (fingerprintBytes days) (fingerprintBytes others)) :
    fingerprint days = fingerprint others ↔ ∀ date, date ∈ days ↔ date ∈ others := by
  constructor
  · intro same
    exact fingerprintBytes_eq_iff.mp (apart (String.ofList_injective same))
  · exact fingerprint_eq_of_mem_iff

/-! ## Fresh vintages -/

section

variable {table : String} {granularity : Granularity} {sides : Both TableSide}
  {validation : TableValidation} {vintage : ValidatedVintage}
  (validated : validateTable table granularity sides = .validated validation)
  (member : vintage ∈ validation.vintages)
include validated member

theorem fingerprint_of_mem_vintages :
    vintage.fingerprint = fingerprint vintage.excludedDates := by
  obtain ⟨windows, _, rfl⟩ := exists_of_validateTable validated
  obtain ⟨window, _, rfl⟩ := List.mem_map.mp member
  rfl

/-- **A vintage with bounds is fresh exactly while the mismatched days between its bounds are the
days that it leaves out.** The bytes digested determine the days, whatever their order and however
often they are given. -/
theorem isStale_eq_false_iff_excludedDates {start stop : Date} {current : RowCountComparison}
    (starts : vintage.window.start = some start) (stops : vintage.window.stop = some stop)
    (apart : Sha256.Apart
      (fingerprintBytes (current.mismatchedDates.filter vintage.window.contains))
      (fingerprintBytes vintage.excludedDates)) :
    (vintage.isStale current = false ↔ ∀ date,
        (date ∈ current.mismatches.map DateMismatch.date ∧ start ≤ date ∧ date < stop) ↔
          date ∈ vintage.excludedDates) ∧
      (∀ days others : List Date,
        fingerprintBytes days = fingerprintBytes others ↔ ∀ date, date ∈ days ↔ date ∈ others) ∧
      ∀ days others : List Date, (∀ date, date ∈ days ↔ date ∈ others) →
        fingerprint days = fingerprint others := by
  refine ⟨?_, fun _ _ => fingerprintBytes_eq_iff, fun _ _ => fingerprint_eq_of_mem_iff⟩
  have inWindow (date : Date) :
      date ∈ current.mismatchedDates.filter vintage.window.contains ↔
        date ∈ current.mismatches.map DateMismatch.date ∧ start ≤ date ∧ date < stop := by
    rw [List.mem_filter, RowCountComparison.mismatchedDates, SortedMap.mem_distinct,
      Window.contains_eq_true_iff starts stops]
  rw [ValidatedVintage.isStale, decide_eq_false_iff_not, not_not,
    fingerprint_of_mem_vintages validated member, fingerprint_eq_iff apart]
  simp only [inWindow]

end

/-- A day is left out of January. It is still a mismatch in a later comparison that tells it twice
and a day of February between, so the vintage is fresh; another comparison tells a second day of
January, which makes the vintage stale. -/
theorem isStale_eq_false_iff_excludedDates_month :
    let fifth : Date := ⟨2024, 1, 5, by decide⟩
    let ninth : Date := ⟨2024, 1, 9, by decide⟩
    let start : Date := ⟨2024, 1, 1, by decide⟩
    let stop : Date := ⟨2024, 2, 1, by decide⟩
    let sides : Both TableSide :=
      ⟨.ofDays [(fifth, 10), (ninth, 4)], .ofDays [(fifth, 10), (ninth, 3)]⟩
    let current : RowCountComparison :=
      { mismatches := [⟨ninth, ⟨4, 2⟩⟩, ⟨⟨2024, 2, 3, by decide⟩, ⟨8, 0⟩⟩, ⟨ninth, ⟨4, 3⟩⟩] }
    let further : RowCountComparison := { mismatches := [⟨ninth, ⟨4, 3⟩⟩, ⟨fifth, ⟨10, 0⟩⟩] }
    let vintage : ValidatedVintage := .ofWindow sides [ninth] ⟨"2024-01", some start, some stop⟩
    let validation : TableValidation := ⟨"t", .month, compareRowCounts sides, [vintage]⟩
    validateTable "t" .month sides = .validated validation ∧ vintage ∈ validation.vintages ∧
      vintage.window.start = some start ∧ vintage.window.stop = some stop ∧
      Sha256.Apart
        (fingerprintBytes (current.mismatchedDates.filter vintage.window.contains))
        (fingerprintBytes vintage.excludedDates) ∧
      (vintage.isStale current = false ↔ ∀ date,
          (date ∈ current.mismatches.map DateMismatch.date ∧ start ≤ date ∧ date < stop) ↔
            date ∈ vintage.excludedDates) ∧
      (∀ days others : List Date,
        fingerprintBytes days = fingerprintBytes others ↔ ∀ date, date ∈ days ↔ date ∈ others) ∧
      (∀ days others : List Date, (∀ date, date ∈ days ↔ date ∈ others) →
        fingerprint days = fingerprint others) ∧
      vintage.isStale current = false ∧
      Sha256.Apart
        (fingerprintBytes (further.mismatchedDates.filter vintage.window.contains))
        (fingerprintBytes vintage.excludedDates) ∧
      vintage.isStale further = true := by
  intro fifth ninth start stop sides current further vintage validation
  have readable : Platform.all.find? (fun platform => !(sides.on platform).accessible) = none := rfl
  have found : sharedWindows .month sides = .ok [vintage.window] := by decide +kernel
  have mismatched : (compareRowCounts sides).mismatchedDates = [ninth] := by decide +kernel
  have made : validateTable "t" .month sides = .validated validation := by
    simp only [validateTable, readable, found, mismatched]
    rfl
  have member : vintage ∈ validation.vintages := List.mem_cons_self
  have left : vintage.excludedDates = [ninth] := by decide +kernel
  have current_eq : current.mismatchedDates.filter vintage.window.contains = [ninth] := by
    decide +kernel
  have further_eq : further.mismatchedDates.filter vintage.window.contains = [fifth, ninth] := by
    decide +kernel
  have apart : Sha256.Apart
      (fingerprintBytes (current.mismatchedDates.filter vintage.window.contains))
      (fingerprintBytes vintage.excludedDates) := by
    intro _
    rw [current_eq, left]
  have furtherApart : Sha256.Apart
      (fingerprintBytes (further.mismatchedDates.filter vintage.window.contains))
      (fingerprintBytes vintage.excludedDates) := by
    rw [further_eq, left]
    unfold Sha256.Apart
    decide +kernel
  obtain ⟨fresh, determined, canonical⟩ :=
    isStale_eq_false_iff_excludedDates made member rfl rfl apart
  refine ⟨made, member, rfl, rfl, apart, fresh, determined, canonical, ?_, furtherApart, ?_⟩
  · decide +kernel
  · rw [← Bool.not_eq_false,
      (isStale_eq_false_iff_excludedDates made member rfl rfl furtherApart).1]
    intro same
    have kept : fifth ∉ vintage.excludedDates := by decide +kernel
    exact kept ((same fifth).mp (by decide +kernel))

end Reconciliation
