import Reconciliation.Proofs.Statistic.SelfComparison
import Reconciliation.Proofs.Text.Splitting

/-! # Frequency lists as text

The text of a frequency list reads back as the list, if every entry has a count and no value holds
the delimiter of entries (`FrequencyEntry.listText_reads_back`). Values may hold the delimiter of
counts, and begin or end with a part of either: every item ends in a digit, so that the first
delimiter behind it is the one written there, and no colon stands among the digits behind the last
delimiter of counts. A list that was read so is equal to the list that was written, under any
tolerance that is not negative, unless a zero meets a tolerance that grows without bound.
-/

namespace Reconciliation

-- Powers stay those of the core library, whatever else is imported beside this module.
attribute [local instance (high)] instPowNat

theorem natOfText?_digitsOf (n : Nat) : natOfText? (digitsOf n) = some n := by
  have digits := digits_digitsOf n
  rw [natOfText?, natOfDigits_digitsOf, if_pos]
  rw [Bool.and_eq_true, Bool.not_eq_true', List.isEmpty_eq_false_iff, List.all_eq_true]
  exact ⟨digits.nonempty, digits.all⟩

theorem countOfText?_digitsOf {count : Nat} (bounded : count < countBound) :
    countOfText? (digitsOf count) = some count := by
  have whole := natOfText?_digitsOf count
  obtain ⟨c, others, digit, same⟩ := (digits_digitsOf count).exists_cons
  rw [same] at whole ⊢
  unfold countOfText?
  split
  · next signed =>
      cases signed
      cases digit
  · dsimp only
    rw [whole, Option.filter_some, if_pos (decide_eq_true bounded)]

namespace FrequencyEntry

variable {entry : FrequencyEntry} {entries others : List FrequencyEntry} {count : Nat}

/-- An entry that its text tells: it has a count, of 64 bits as all counts, and its value does not
hold the delimiter of entries. -/
structure IsTold (entry : FrequencyEntry) : Prop where
  counted : ∃ count ∈ entry.count, count < countBound
  undelimited : ¬entryDelimiter <:+: entry.value.toList

/-! ## Items -/

theorem item_of_count (counted : entry.count = some count) :
    entry.item = entry.value.toList ++ (countDelimiter ++ digitsOf count) := by
  rw [item, counted, ← List.append_assoc]

/-- An item ends in a digit, which is none of the delimiter that follows it. -/
theorem IsTold.isPiece_item (told : entry.IsTold) : Text.IsPiece entryDelimiter entry.item := by
  obtain ⟨⟨count, counted, -⟩, undelimited⟩ := told
  have apart : ∀ c ∈ countDelimiter ++ digitsOf count, c ∉ entryDelimiter := by
    intro c member delimits
    obtain rfl : c = '|' := by simpa [entryDelimiter] using delimits
    rcases List.mem_append.mp member with colon | digit
    · exact absurd colon (by decide)
    · cases isDigit_of_mem_digitsOf digit
  rw [item_of_count counted]
  refine ⟨?_, fun c last => ?_⟩
  · rwa [Text.infix_append_right_iff apart (by decide)]
  · have nonempty : countDelimiter ++ digitsOf count ≠ [] := List.cons_ne_nil _ _
    rw [List.getLast?_append_of_ne_nil _ nonempty] at last
    exact apart c (List.mem_of_getLast? last)

/-- The last delimiter of counts in an item is the one before its digits. -/
theorem IsTold.ofItem_item (told : entry.IsTold) : ofItem entry.item = entry := by
  obtain ⟨⟨count, counted, bounded⟩, -⟩ := told
  have last : ¬countDelimiter <:+: (countDelimiter ++ digitsOf count).tail := by
    intro occurs
    have colons := occurs.sublist.count_le ':'
    have none : (digitsOf count).count ':' = 0 := by
      rw [List.count_eq_zero]
      intro colon
      cases isDigit_of_mem_digitsOf colon
    simp [countDelimiter, none] at colons
  have trimmed : Text.trimBoth (digitsOf count) = digitsOf count :=
    Text.trimBoth_eq_self fun c member => Text.isBlank_of_isDigit (isDigit_of_mem_digitsOf member)
  rw [ofItem, item_of_count counted, Text.splitLast?_append (by decide) last]
  dsimp only
  rw [trimmed, countOfText?_digitsOf bounded, String.ofList_toList, ← counted]

/-! ## Lists -/

theorem IsTold.isBlankText_listText (told : entry.IsTold) (entries : List FrequencyEntry) :
    Text.isBlankText (listText (entry :: entries)) = false := by
  obtain ⟨⟨count, counted, -⟩, -⟩ := told
  have colon : ':' ∈ entry.item := by simp [item_of_count counted, countDelimiter]
  have member : ':' ∈ entryDelimiter.intercalate ((entry :: entries).map item) := by
    cases entries with
    | nil => rwa [List.map_singleton, List.intercalate_singleton]
    | cons next entries =>
        rw [List.map_cons, List.map_cons, List.intercalate_cons_cons, List.append_assoc]
        exact List.mem_append_left _ colon
  rw [Text.isBlankText, listText, String.toList_ofList, List.all_eq_false]
  exact ⟨':', member, by decide⟩

/-- The text of a list reads back as the list. -/
theorem ofText_listText (told : ∀ entry ∈ entries, entry.IsTold) :
    ofText (listText entries) = entries := by
  cases entries with
  | nil => rfl
  | cons entry entries =>
      have pieces : ∀ piece ∈ (entry :: entries).map item, Text.IsPiece entryDelimiter piece := by
        intro piece member
        obtain ⟨entry, listed, rfl⟩ := List.mem_map.mp member
        exact (told entry listed).isPiece_item
      have items : ((entry :: entries).map item).map ofItem = entry :: entries := by
        rw [List.map_map, List.map_congr_left (g := id), List.map_id]
        exact fun entry listed => (told entry listed).ofItem_item
      have told := told entry List.mem_cons_self
      rw [ofText, if_neg (Bool.eq_false_iff.mp (told.isBlankText_listText entries)), listText,
        String.toList_ofList, Text.splitAll_intercalate (by decide) (by simp) pieces, items]

/-! ## Texts and records compared -/

/-- A zero of an entry: its count, or its value where that is compared as a number. -/
def HasZero (entry : FrequencyEntry) : Prop :=
  entry.count = some 0 ∨ (Scalar.text entry.value).MeetsAsZero

variable {tolerance : Tolerance} (nonnegative : tolerance.IsNonnegative)

include nonnegative in
theorem IsTold.entriesEqual_self_iff (told : entry.IsTold) :
    ComparisonKind.entriesEqual tolerance entry entry = true ↔
      (tolerance.relative = .infinite false → ¬entry.HasZero) := by
  obtain ⟨⟨count, counted, bounded⟩, -⟩ := told
  have finite : (Binary64.ofNat count).isFinite = true := Binary64.isFinite_ofRatio bounded false
  have isZero : (Binary64.ofNat count).eq .zero = false ↔ ¬count = 0 := by
    rw [← Binary64.ofNat_eq_zero_iff, Bool.not_eq_true]
  have values := ComparisonKind.flexiblyEqual_self_iff nonnegative (Scalar.isPlain_text entry.value)
  have counts := nonnegative.accepts_self_iff finite
  rw [isZero] at counts
  rw [ComparisonKind.entriesEqual, Bool.and_eq_true, values, counted, counts, HasZero, counted,
    Option.some_inj, ← imp_and, not_or, and_comm]

variable (told : ∀ entry ∈ entries, entry.IsTold)
include told

theorem frequency?_listText :
    (StatValue.scalar (some (.text (listText entries)))).frequency? = some entries :=
  congrArg some (ofText_listText told)

include nonnegative in
/-- Two values that show the same list agree, unless a zero meets a tolerance that grows without
bound. -/
theorem accepts_iff_of_frequency? {left right : StatValue} (shown : left.frequency? = some entries)
    (same : right.frequency? = some entries) :
    (ComparisonKind.frequencyList tolerance).accepts left right = true ↔
      (tolerance.relative = .infinite false → ∀ entry ∈ entries, ¬entry.HasZero) := by
  rw [ComparisonKind.accepts, shown, same, Option.getD_some, ComparisonKind.relateLists_self,
    forall₂_congr fun entry listed => (told entry listed).entriesEqual_self_iff nonnegative]
  exact ⟨fun equal unbounded entry listed => equal entry listed unbounded,
    fun clear entry listed unbounded => clear unbounded entry listed⟩

/-- **The text of a frequency list tells the list.** It reads back as the list, no other list has
it, and it agrees with the list on either side of a comparison, unless a zero meets a tolerance that
grows without bound. -/
theorem listText_reads_back :
    ofText (listText entries) = entries ∧
      (∀ others : List FrequencyEntry, (∀ entry ∈ others, entry.IsTold) →
        listText others = listText entries → others = entries) ∧
      ∀ tolerance : Tolerance, tolerance.IsNonnegative →
        let text : StatValue := .scalar (some (.text (listText entries)))
        let records : StatValue := .frequency (some entries)
        let kind : ComparisonKind := .frequencyList tolerance
        let clear := tolerance.relative = .infinite false → ∀ entry ∈ entries, ¬entry.HasZero
        (kind.accepts text records = true ↔ clear) ∧
          (kind.accepts records text = true ↔ clear) := by
  refine ⟨ofText_listText told, ?_, ?_⟩
  · intro others toldOthers same
    rw [← ofText_listText toldOthers, same, ofText_listText told]
  · intro tolerance nonnegative text records kind clear
    have read : text.frequency? = some entries := frequency?_listText told
    have kept : records.frequency? = some entries := rfl
    exact ⟨accepts_iff_of_frequency? nonnegative told read kept,
      accepts_iff_of_frequency? nonnegative told kept read⟩

omit told in
/-- Values that hold the delimiter of counts, begin or end with parts of a delimiter, or are
empty. -/
theorem listText_reads_back_delimiters :
    let entries : List FrequencyEntry :=
      [⟨"|a::b:", some 3⟩, ⟨"", some 0⟩, ⟨"|", some 12⟩, ⟨" :", some 1⟩]
    (∀ entry ∈ entries, entry.IsTold) ∧
      listText entries = "|a::b:::3||::0|||::12|| :::1" ∧
      ofText "|a::b:::3||::0|||::12|| :::1" = entries ∧
      ComparisonKind.frequencies.accepts (.scalar (some (.text "|a::b:::3||::0|||::12|| :::1")))
        (.frequency (some entries)) = true := by
  intro entries
  have told : ∀ entry ∈ entries, entry.IsTold := by
    intro entry listed
    simp only [entries, List.mem_cons, List.not_mem_nil, or_false] at listed
    rcases listed with rfl | rfl | rfl | rfl <;>
      exact ⟨⟨_, rfl, by decide +kernel⟩, by decide +kernel⟩
  have written : listText entries = "|a::b:::3||::0|||::12|| :::1" := by decide +kernel
  have bounded : Tolerance.standard.relative ≠ .infinite false := by decide +kernel
  obtain ⟨read, -, equal⟩ := listText_reads_back told
  have accepted := (equal .standard Tolerance.standard_isProper.isNonnegative).1.mpr
    fun unbounded => absurd unbounded bounded
  rw [written] at read accepted
  exact ⟨told, written, read, accepted⟩

omit told in
/-- A zero is not within an unbounded tolerance of itself. -/
theorem zero_count_differs_unboundedly :
    let entries : List FrequencyEntry := [⟨"a", some 0⟩]
    let tolerance : Tolerance := ⟨.zero, .infinite false⟩
    (∀ entry ∈ entries, entry.IsTold) ∧ tolerance.IsNonnegative ∧
      (ComparisonKind.frequencyList tolerance).accepts
        (.scalar (some (.text (listText entries)))) (.frequency (some entries)) = false := by
  intro entries tolerance
  have told : ∀ entry ∈ entries, entry.IsTold := by
    intro entry listed
    obtain rfl := List.mem_singleton.mp listed
    exact ⟨⟨0, rfl, by decide +kernel⟩, by decide +kernel⟩
  exact ⟨told, ⟨by decide +kernel, by decide +kernel⟩, by decide +kernel⟩

end FrequencyEntry

end Reconciliation
