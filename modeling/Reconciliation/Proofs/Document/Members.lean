import Mathlib.Data.List.Nodup
import Reconciliation.Document.Members
import Reconciliation.Proofs.Calendar.StandardText
import Reconciliation.Proofs.Document.Json.RoundTrip
import Reconciliation.Proofs.SortedMap

/-! # Values restored from documents

A value is restored by a writer and a reader if what is written of it can stand in a JSON text and
reads back as the value (`Document.Restores`). Every shape of value has one law: leaves, optional
values, lists, maps, records (`restores_record`) and tagged records (`restores_tagged`). Of a record
it so remains to say that each of its members is restored. A restored value survives the trip
through either JSON text (`Document.Restores.survives`).
-/

namespace Reconciliation

/-- Whether a scalar has a JSON text of its own: a number that is not finite has none. -/
def Scalar.IsPlain : Scalar → Prop
  | .float value => value.isFinite = true
  | _ => True

namespace Document

variable {α κ : Type}

/-- What is written of a value can be held by JSON, and reads back as the value. -/
structure Restores (write : α → Document) (read? : Document → Option α) (value : α) : Prop where
  plain : (write value).isPlain = true
  back : read? (write value) = some value

/-- A value is what the JSON text written of it denotes, on one line or on many. -/
def Survives (write : α → Document) (read? : Document → Option α) (value : α) : Prop :=
  (Json.read? (Json.line (write value))).bind read? = some value ∧
    (Json.read? (Json.pretty (write value))).bind read? = some value

variable {write : α → Document} {read? : Document → Option α}

theorem Restores.survives {value : α} (restores : Restores write read? value) :
    Survives write read? value := by
  refine ⟨?_, ?_⟩
  · rw [Json.read?_line restores.plain]
    exact restores.back
  · rw [Json.read?_pretty restores.plain]
    exact restores.back

/-! ## Leaves -/

theorem restores_text (value : String) : Restores .text text? value := ⟨rfl, rfl⟩

theorem restores_boolean (value : Bool) : Restores .boolean boolean? value := ⟨rfl, rfl⟩

theorem restores_count {count : Nat} (bounded : count < countBound) :
    Restores .ofCount count? count where
  plain := by
    have below : (count : Int) < 2 ^ 64 := by exact_mod_cast bounded
    simp only [ofCount, isPlain, holdsInteger, Bool.and_eq_true, decide_eq_true_eq]
    omega
  back := by
    have below : (count : Int) < countBound := by exact_mod_cast bounded
    simp [ofCount, count?, natural?, below]

theorem restores_float {value : Binary64} (finite : value.isFinite = true) :
    Restores .float float? value := ⟨finite, rfl⟩

theorem restores_date (date : Date) : Restores .ofDate date? date :=
  ⟨rfl, Date.ofText?_text date⟩

/-- A scalar comes back as the same kind of scalar. -/
theorem restores_scalar {scalar : Scalar} (plain : scalar.IsPlain) :
    Restores .ofScalar scalar? scalar := by
  cases scalar with
  | integer value =>
      have low := value.le_toInt
      have high := value.toInt_lt
      refine ⟨?_, ?_⟩
      · simp only [ofScalar, isPlain, holdsInteger, Bool.and_eq_true, decide_eq_true_eq]
        omega
      · have below : value.toInt < integerBound := high
        simp [ofScalar, scalar?, below]
  | float value => exact ⟨plain, rfl⟩
  | text value => exact ⟨rfl, rfl⟩

example :
    [.integer 5, .float (.ofInt 5), .text "5"].map (fun scalar => Json.line (ofScalar scalar)) =
      ["5", "5.0", "\x225\x22"] := by decide +kernel

/-! ## Optional values, lists and maps -/

/-- An optional value is restored if null, which stands for none, is nothing that its reader takes. -/
theorem restores_option {value : Option α} (restores : ∀ held ∈ value, Restores write read? held)
    (nullFails : read? .null = none) :
    Restores (.ofOption write) (nullable? read?) value := by
  cases value with
  | none => exact ⟨rfl, rfl⟩
  | some held =>
      obtain ⟨plain, back⟩ := restores held rfl
      refine ⟨plain, ?_⟩
      change nullable? read? (write held) = some (some held)
      cases written : write held with
      | null =>
          rw [written, nullFails] at back
          cases back
      | vacant =>
          rw [written] at plain
          cases plain
      | _ => simp [nullable?, ← written, back]

theorem arePlain_eq_all (items : List Document) : arePlain items = items.all isPlain := by
  induction items with
  | nil => rfl
  | cons item items ih => rw [arePlain, ih, List.all_cons]

theorem membersArePlain_eq_all (members : List (String × Document)) :
    membersArePlain members = members.all (·.2.isPlain) := by
  induction members with
  | nil => rfl
  | cons member members ih => rw [membersArePlain, ih, List.all_cons]

/-- Values that are each read back from what is written of them are read back together. -/
theorem mapM_map_eq_some {β : Type} {f : α → β} {g : β → Option α} {values : List α}
    (back : ∀ value ∈ values, g (f value) = some value) :
    (values.map f).mapM g = some values := by
  induction values with
  | nil => rfl
  | cons value values ih =>
      have later := ih fun other member => back other (List.mem_cons_of_mem _ member)
      rw [List.map_cons, List.mapM_cons, back value List.mem_cons_self, later]
      rfl

theorem restores_list {values : List α} (restores : ∀ value ∈ values, Restores write read? value) :
    Restores (.ofList write) (list? read?) values where
  plain := by
    rw [ofList, isPlain, arePlain_eq_all, List.all_map, List.all_eq_true]
    exact fun value member => (restores value member).plain
  back := mapM_map_eq_some fun value member => (restores value member).back

/-- A map comes back entry by entry, for its entries are listed in order and have one key each. -/
theorem restores_map [LE κ] [LT κ] [DecidableLT κ] [Std.IsLinearOrder κ] [Std.LawfulOrderLT κ]
    [DecidableEq κ] {name : κ → String} {key? : String → Option κ} {map : SortedMap κ α}
    (named : ∀ key, key? (name key) = some key)
    (restores : ∀ entry ∈ map.entries, Restores write read? entry.2) :
    Restores (.ofMap name write) (map? key? read?) map where
  plain := by
    rw [ofMap, isPlain, membersArePlain_eq_all, List.all_map, List.all_eq_true]
    exact fun entry member => (restores entry member).plain
  back := by
    rw [ofMap, map?, mapM_map_eq_some, Option.map_some, SortedMap.ofList_entries]
    intro entry member
    simp [named, (restores entry member).back]

theorem restores_optionalText (value : Option String) :
    Restores (.ofOption .text) (nullable? text?) value :=
  restores_option (fun held _ => restores_text held) rfl

theorem restores_texts (values : List String) : Restores (.ofList .text) (list? text?) values :=
  restores_list fun value _ => restores_text value

/-! ## Records -/

@[simp] theorem required_written (document : Document) (read? : Document → Option α) :
    Slot.required (.written document) read? = read? document := by
  -- not by unfolding alone, lest a use of it compute what the reader does
  rw [Slot.required]

@[simp] theorem nullable_written (document : Document) (read? : Document → Option α) :
    Slot.nullable (.written document) read? = nullable? read? document := by
  cases document <;> rfl

/-- What some members hold for a name. -/
def slotOf (members : List (String × Document)) (name : String) : Slot :=
  ((members.lookup name).map Slot.written).getD .omitted

@[simp] theorem slotOf_cons (held : String) (value : Document) (members : List (String × Document))
    (name : String) :
    slotOf ((held, value) :: members) name =
      if name = held then .written value else slotOf members name := by
  unfold slotOf
  rw [List.lookup_cons]
  split <;> simp_all

/-- A record of differently named members has what each of them holds. -/
theorem slots?_record {names : List String} {members : List (String × Document)}
    (named : members.map Prod.fst = names) (distinct : names.Nodup) :
    slots? names (.record members) = some (slotOf members) := by
  have once : (names.all fun name => members.countP (·.1 == name) ≤ 1) = true := by
    rw [List.all_eq_true]
    intro name _
    have count := List.nodup_iff_count_le_one.mp distinct name
    rw [← named, List.count, List.countP_map] at count
    exact decide_eq_true count
  rw [slots?, if_pos once]
  rfl

/-- A record is restored once its members are plain and read back as they stand. -/
theorem restores_record {names : List String} {members : List (String × Document)}
    {ofSlots? : (String → Slot) → Option α} {value : α}
    (written : write value = .record members)
    (reads : read? = fun document => slots? names document >>= ofSlots?)
    (named : members.map Prod.fst = names) (distinct : names.Nodup)
    (plain : membersArePlain members = true) (back : ofSlots? (slotOf members) = some value) :
    Restores write read? value where
  plain := written ▸ plain
  back := by
    rw [written, reads]
    change (slots? names (.record members)).bind ofSlots? = some value
    rw [slots?_record named distinct]
    exact back

/-! ## Tagged records -/

mutual

/-- Every part of a plain document has a value. -/
theorem isReadable_of_isPlain : (document : Document) → document.isPlain = true →
    document.isReadable = true
  | .null, _ => rfl
  | .boolean _, _ => rfl
  | .integer _, _ => rfl
  | .float _, _ => rfl
  | .text _, _ => rfl
  | .list items, plain => areReadable_of_arePlain items plain
  | .record members, plain => membersAreReadable_of_membersArePlain members plain

theorem areReadable_of_arePlain : (items : List Document) → arePlain items = true →
    areReadable items = true
  | [], _ => rfl
  | item :: items, plain => by
      obtain ⟨first, others⟩ := (Bool.and_eq_true ..).mp plain
      rw [areReadable, isReadable_of_isPlain item first, areReadable_of_arePlain items others,
        Bool.and_self]

theorem membersAreReadable_of_membersArePlain : (members : List (String × Document)) →
    membersArePlain members = true → membersAreReadable members = true
  | [], _ => rfl
  | (_, value) :: members, plain => by
      obtain ⟨first, others⟩ := (Bool.and_eq_true ..).mp plain
      rw [membersAreReadable, isReadable_of_isPlain value first,
        membersAreReadable_of_membersArePlain members others, Bool.and_self]

end

/-- A tag is told apart from members of other names. -/
theorem tagged?_withTag {tag : String} (name : String) {document : Document}
    (fresh : ∃ members, document = .record members ∧ tag ∉ members.map Prod.fst)
    (plain : document.isPlain = true) :
    tagged? tag (withTag tag name document) = some (name, document) := by
  obtain ⟨members, rfl, fresh⟩ := fresh
  have others : ∀ member ∈ members, (member.1 != tag) = true := by
    intro member held
    rw [bne_iff_ne]
    rintro rfl
    exact fresh (List.mem_map_of_mem held)
  have tagged :
      ((tag, Document.text name) :: members).filter (·.1 == tag) = [(tag, .text name)] := by
    have none : members.filter (·.1 == tag) = [] :=
      List.filter_eq_nil_iff.mpr fun member held => by simpa using others member held
    simp [none]
  have rest : ((tag, Document.text name) :: members).filter (·.1 != tag) = members := by
    have all : members.filter (·.1 != tag) = members := List.filter_eq_self.mpr others
    simp [all]
  have readable : (record ((tag, .text name) :: members)).isReadable = true :=
    isReadable_of_isPlain _ plain
  rw [withTag, tagged?, tagged, rest]
  exact if_pos readable

theorem isPlain_withTag (tag name : String) {document : Document} (plain : document.isPlain = true) :
    (withTag tag name document).isPlain = true := by
  cases document <;> exact plain

/-- A tagged record is restored once the record without its tag reads back under the tag. -/
theorem restores_tagged {tag : String} (name : String) (document : Document)
    {ofKind? : String × Document → Option α} {value : α}
    (written : write value = withTag tag name document)
    (reads : read? = fun document => tagged? tag document >>= ofKind?)
    (fresh : ∃ members, document = .record members ∧ tag ∉ members.map Prod.fst)
    (plain : document.isPlain = true) (back : ofKind? (name, document) = some value) :
    Restores write read? value where
  plain := written ▸ isPlain_withTag tag name plain
  back := by
    rw [written, reads]
    change (tagged? tag (withTag tag name document)).bind ofKind? = some value
    rw [tagged?_withTag name fresh plain]
    exact back

end Document

end Reconciliation
