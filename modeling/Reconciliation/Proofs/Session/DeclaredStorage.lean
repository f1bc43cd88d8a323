import Reconciliation.Proofs.Column
import Reconciliation.Proofs.Text.Letters
import Reconciliation.Session.Exploration

/-! # Partition columns of a temporal type

A column whose type is of a temporal family is taken as a partition column without a look at its
values, since its type is to tell how it holds its dates. But the family and the storage are read
off the type in different ways. They agree exactly if the type spells the storage out: a point in
time anywhere, a day at the very start (`Connections.detectPartition_of_temporal`). On the cloud
platform only blanks before the word of a day part them; on the legacy platform a word of time may
stand further on, or have a letter that is Latin in upper case only.
-/

namespace Reconciliation

/-- How the columns of a temporal family hold their dates. -/
def TypeFamily.storage? : TypeFamily → Option DateStorage
  | .date => some .date
  | .timestamp => some .timestamp
  | _ => none

namespace DateStorage

/-- A type spells out how its dates are held. -/
def SpelledIn (dataType : String) : DateStorage → Prop
  | .timestamp => "timestamp".toList <:+: Text.letters dataType
  | .date => "date".toList <+: Text.letters dataType
  | .text _ => False

instance (dataType : String) : (storage : DateStorage) → Decidable (storage.SpelledIn dataType)
  | .timestamp => inferInstanceAs (Decidable (_ <:+: _))
  | .date => inferInstanceAs (Decidable (_ <+: _))
  | .text _ => inferInstanceAs (Decidable False)

variable {platform : Platform} {dataType : String} {storage : DateStorage}

theorem isWord_timestamp : Text.IsWord "timestamp".toList := by
  decide +kernel

theorem isWord_date : Text.IsWord "date".toList := by
  decide +kernel

theorem contains_lower_timestamp_iff :
    Text.contains (Text.lower dataType) "timestamp" = true ↔
      DateStorage.timestamp.SpelledIn dataType :=
  Text.contains_lower_iff isWord_timestamp (by decide)

theorem startsWith_lower_date_iff :
    Text.startsWith (Text.lower dataType) "date" = true ↔ DateStorage.date.SpelledIn dataType :=
  Text.startsWith_lower_iff isWord_date

/-- Without samples, the storage is the one that the type spells out. -/
theorem infer_nil (dataType : String) :
    infer dataType [] =
      if DateStorage.timestamp.SpelledIn dataType then .ok .timestamp
      else if DateStorage.date.SpelledIn dataType then .ok .date
      else .error (.unknownLayout dataType) := by
  unfold infer
  simp only [contains_lower_timestamp_iff, startsWith_lower_date_iff]
  rfl

/-! ## Families and spellings -/

/-- A type of days holds no point in time. -/
theorem not_spelledIn_timestamp (days : TypeFamily.ofType platform dataType = .date) :
    ¬DateStorage.timestamp.SpelledIn dataType := by
  intro spelled
  cases platform with
  | legacy =>
      rw [TypeFamily.ofType_legacy, TypeFamily.ofAnswers_eq_date_iff] at days
      have capitals := Text.contains_upper_of_infix_letters isWord_timestamp spelled
      exact Bool.false_ne_true (days.1.symm.trans capitals)
  | cloud =>
      rw [TypeFamily.ofType_cloud, TypeFamily.ofAnswers_eq_date_iff] at days
      exact Bool.false_ne_true (days.1.symm.trans (contains_lower_timestamp_iff.mpr spelled))

/-- Of a temporal type, a day may be found in place of the storage, and nothing else. -/
theorem infer_of_temporal (held : (TypeFamily.ofType platform dataType).storage? = some storage) :
    infer dataType [] =
      if storage.SpelledIn dataType then .ok storage
      else if DateStorage.date.SpelledIn dataType then .ok .date
      else .error (.unknownLayout dataType) := by
  rw [infer_nil]
  cases family : TypeFamily.ofType platform dataType with
  | timestamp =>
      rw [family] at held
      cases held
      rfl
  | date =>
      rw [family] at held
      cases held
      rw [if_neg (not_spelledIn_timestamp family)]
      split <;> rfl
  | numeric | text | other =>
      rw [family] at held
      cases held

/-- **The storage of a temporal type is found exactly if the type spells it out.** -/
theorem infer_eq_ok_iff (held : (TypeFamily.ofType platform dataType).storage? = some storage) :
    infer dataType [] = .ok storage ↔ storage.SpelledIn dataType := by
  rw [infer_of_temporal held]
  by_cases spelled : storage.SpelledIn dataType
  · rw [if_pos spelled]
    exact iff_of_true rfl spelled
  · rw [if_neg spelled]
    refine iff_of_false ?_ spelled
    split
    · next days =>
        intro same
        cases same
        exact spelled days
    · nofun

theorem toLower_ne_d_of_isBlank {c : Char} (blank : Text.isBlank c = true) : c.toLower ≠ 'd' :=
  Text.of_isBlank (P := fun c => c.toLower ≠ 'd') (by decide +kernel) blank

/-- The word of a day with blanks around it is spelled out unless a blank comes first. -/
theorem spelledIn_date_iff (days : Text.lower (Text.trim dataType) = "date") :
    DateStorage.date.SpelledIn dataType ↔
      ∀ c ∈ dataType.toList.head?, Text.isBlank c = false := by
  constructor
  · intro spelled c head
    obtain ⟨others, same⟩ := List.head?_eq_some_iff.mp head
    rw [SpelledIn, Text.letters, same, List.map_cons] at spelled
    have first : 'd' = c.toLower := (List.cons_prefix_cons.mp spelled).1
    exact Bool.eq_false_iff.mpr fun blank => toLower_ne_d_of_isBlank blank first.symm
  · intro visible
    obtain ⟨before, after, blankBefore, blankAfter, same⟩ :=
      Text.exists_blanks_trimBoth dataType.toList
    have word : Text.lowerFrom [] (Text.trimBoth dataType.toList) = "date".toList := by
      rw [← Text.toList_trim, ← Text.toList_lower, days]
    cases before with
    | nil =>
        rw [List.nil_append] at same
        rw [SpelledIn, Text.letters, ← Text.prefix_lowerFrom_iff isWord_date, same,
          Text.lowerFrom_append_blanks blankAfter, word]
        exact List.prefix_append _ _
    | cons b before =>
        have blank := blankBefore b List.mem_cons_self
        rw [visible b (by rw [same]; rfl)] at blank
        cases blank

/-- On the cloud platform every point in time is spelled out, and a day unless blanks come first. -/
theorem spelledIn_cloud_iff (held : (TypeFamily.ofType .cloud dataType).storage? = some storage) :
    storage.SpelledIn dataType ↔
      storage = .timestamp ∨ ∀ c ∈ dataType.toList.head?, Text.isBlank c = false := by
  cases family : TypeFamily.ofType .cloud dataType with
  | timestamp =>
      rw [family] at held
      cases held
      rw [TypeFamily.ofType_cloud, TypeFamily.ofAnswers_eq_timestamp_iff] at family
      exact iff_of_true (contains_lower_timestamp_iff.mp family) (.inl rfl)
  | date =>
      rw [family] at held
      cases held
      rw [TypeFamily.ofType_cloud, TypeFamily.ofAnswers_eq_date_iff] at family
      rw [spelledIn_date_iff (beq_iff_eq.mp family.2)]
      simp
  | numeric | text | other =>
      rw [family] at held
      cases held

end DateStorage

/-- **A partition column of a temporal type is told by its type alone.** Nothing is asked, and what
is told agrees with the family of the type exactly if the type spells it out; otherwise a point in
time is taken for a day, if the type begins with the word of a day, or nothing is told. -/
theorem Connections.detectPartition_of_temporal (connections : Connections) (platform : Platform)
    (table : TableRef) (column : Column) {storage : DateStorage}
    (held : column.family.storage? = some storage) :
    let inquiry := connections.detectPartition platform table column
    inquiry.sent = ⟨[], []⟩ ∧
      (DateStorage.infer column.dataType [] = .ok storage ↔
        storage.SpelledIn column.dataType) ∧
      inquiry.value =
        (if storage.SpelledIn column.dataType then .ok ⟨column.name, storage⟩
        else if DateStorage.date.SpelledIn column.dataType then .ok ⟨column.name, .date⟩
        else .error (.invalidDate (.unknownLayout column.dataType))) ∧
      (column.platform = .cloud → (storage.SpelledIn column.dataType ↔
        storage = .timestamp ∨ ∀ c ∈ column.dataType.toList.head?, Text.isBlank c = false)) := by
  have temporal : column.family.isTemporal = true := by
    revert held
    cases column.family <;> intro held <;> first | rfl | cases held
  intro inquiry
  have known : inquiry = pure (do
      let storage ← (DateStorage.infer column.dataType []).mapError .invalidDate
      return ⟨column.name, storage⟩) := if_pos temporal
  rw [known]
  refine ⟨rfl, DateStorage.infer_eq_ok_iff held, ?_, ?_⟩
  · rw [Inquiry.value_pure, DateStorage.infer_of_temporal held]
    split
    · rfl
    · split <;> rfl
  · intro cloud
    unfold Column.family at held
    rw [cloud] at held
    exact DateStorage.spelledIn_cloud_iff held

/-- A point in time of the legacy platform, with a precision, is told without samples. -/
theorem Connections.detectPartition_timestamp :
    let connections : Connections :=
      { databases := ⟨.scripted .legacy [], .scripted .cloud []⟩
        parallelism := ⟨1, 1⟩ }
    let column : Column := .declare .legacy "AS_OF" "Timestamp(6) with time zone"
    column.family.storage? = some .timestamp ∧
      (connections.detectPartition .legacy ⟨"core", "accounts"⟩ column).value =
        .ok ⟨"AS_OF", .timestamp⟩ := by
  intro connections column
  have held : column.family.storage? = some .timestamp := by decide +kernel
  have spelled : DateStorage.timestamp.SpelledIn column.dataType := by decide +kernel
  obtain ⟨-, -, told, -⟩ :=
    connections.detectPartition_of_temporal .legacy ⟨"core", "accounts"⟩ column held
  rw [if_pos spelled] at told
  exact ⟨held, told⟩

/-- A blank before the word of a day leaves the storage unknown, and a dotless letter has a point in
time taken for a day. -/
theorem padded_date_unknown :
    TypeFamily.ofType .cloud " date" = .date ∧
      DateStorage.infer " date" [] = .error (.unknownLayout " date") ∧
      TypeFamily.ofType .legacy "date tımestamp" = .timestamp ∧
      DateStorage.infer "date tımestamp" [] = .ok .date := by
  decide +kernel

end Reconciliation
