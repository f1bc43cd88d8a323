import Reconciliation.SortedMap

/-! # Laws of sorted maps

A sorted map is known by its view: `get?` finds exactly the entries of the map, an insertion or an
erasure changes it at one key (`get?_insert`, `get?_erase`), maps that find the same are equal
(`ext_get?`), and a map made from a list finds the last value that the list has for a key
(`get?_ofList_cons`). Where a list has every key once, its map holds the entries of the list,
whatever their order (`ofList_eq_of_perm`). The keys of a map strictly ascend, so `distinct` lists
the members of a list once each and in order.
-/

namespace Reconciliation.SortedMap

universe u v

variable {κ : Type u} [LE κ] [LT κ] [DecidableLT κ] [Std.IsLinearOrder κ] [Std.LawfulOrderLT κ]
variable {ν : Type v}

/-- Among ascending entries, lookup finds what the entries hold. -/
theorem lookupEntry_eq_some_iff {entries : List (κ × ν)} (ascending : Ascending entries)
    {key : κ} {value : ν} : lookupEntry key entries = some value ↔ (key, value) ∈ entries := by
  induction entries with
  | nil => simp [lookupEntry]
  | cons head rest ih =>
      obtain ⟨held, old⟩ := head
      obtain ⟨above, tail⟩ := List.pairwise_cons.mp ascending
      unfold lookupEntry
      rw [List.mem_cons]
      split
      · next below =>
          -- the key would have to stand before the least one
          refine ⟨nofun, fun member => ?_⟩
          rcases member with same | later
          · cases same
            exact absurd below Std.lt_irrefl
          · exact absurd (Std.lt_trans below (above _ later)) Std.lt_irrefl
      · next notBelow =>
          split
          · next beyond =>
              rw [ih tail]
              refine ⟨Or.inr, fun member => member.resolve_left fun same => ?_⟩
              cases same
              exact Std.lt_irrefl beyond
          · next notBeyond =>
              obtain rfl : key = held :=
                Std.le_antisymm (Std.not_lt.mp notBeyond) (Std.not_lt.mp notBelow)
              refine ⟨fun same => Or.inl (by cases same; rfl), fun member => ?_⟩
              rcases member with same | later
              · cases same
                rfl
              · exact absurd (above _ later) Std.lt_irrefl

/-- Lookup finds what the map holds. -/
theorem get?_eq_some_iff {map : SortedMap κ ν} {key : κ} {value : ν} :
    map.get? key = some value ↔ (key, value) ∈ map.entries :=
  lookupEntry_eq_some_iff map.ascending

/-- Maps that find the same are equal. -/
theorem ext_get? {map other : SortedMap κ ν} (same : ∀ key, map.get? key = other.get? key) :
    map = other := by
  obtain ⟨entries, ascending⟩ := map
  obtain ⟨others, otherAscending⟩ := other
  congr
  have nodup {entries : List (κ × ν)} (ascending : Ascending entries) : entries.Nodup := by
    apply ascending.imp
    rintro a _ below rfl
    exact Std.lt_irrefl below
  have perm : entries.Perm others := by
    apply (List.perm_ext_iff_of_nodup (nodup ascending) (nodup otherAscending)).mpr
    rintro ⟨key, value⟩
    rw [← lookupEntry_eq_some_iff ascending, ← lookupEntry_eq_some_iff otherAscending]
    exact iff_of_eq (congrArg (· = some value) (same key))
  apply perm.eq_of_pairwise _ ascending otherAscending
  intro a b _ _ below above
  exact absurd (Std.lt_trans below above) Std.lt_irrefl

/-- The keys are those that lookup finds. -/
theorem mem_keys_iff {map : SortedMap κ ν} {key : κ} :
    key ∈ map.keys ↔ (map.get? key).isSome := by
  rw [Option.isSome_iff_exists]
  simp only [get?_eq_some_iff, keys, List.mem_map, Prod.exists, exists_and_right, exists_eq_right]

/-- A key that lookup does not find is no key of the map. -/
theorem get?_eq_none_iff {map : SortedMap κ ν} {key : κ} :
    map.get? key = none ↔ key ∉ map.keys := by
  rw [mem_keys_iff, Option.not_isSome_iff_eq_none]

omit [LE κ] [DecidableLT κ] [Std.IsLinearOrder κ] [Std.LawfulOrderLT κ] in
theorem keys_pairwise (map : SortedMap κ ν) : map.keys.Pairwise (· < ·) :=
  List.pairwise_map.mpr map.ascending

omit [DecidableLT κ] [Std.IsLinearOrder κ] in
/-- A strictly ascending list has no member twice. -/
theorem nodup_of_pairwise_lt {members : List κ} (ascending : members.Pairwise (· < ·)) :
    members.Nodup :=
  ascending.imp Std.ne_of_lt

omit [DecidableLT κ] in
/-- Members have one strictly ascending order. -/
theorem eq_of_perm_of_pairwise_lt {members others : List κ} (perm : members.Perm others)
    (ascending : members.Pairwise (· < ·)) (otherAscending : others.Pairwise (· < ·)) :
    members = others := by
  apply perm.eq_of_pairwise _ ascending otherAscending
  intro a b _ _ below above
  exact absurd (Std.lt_trans below above) Std.lt_irrefl

omit [LE κ] [Std.IsLinearOrder κ] [Std.LawfulOrderLT κ] in
@[simp] theorem get?_empty (key : κ) : (empty : SortedMap κ ν).get? key = none := rfl

/-- An insertion adds its entry and drops no other key. -/
theorem mem_insertEntry_iff {key : κ} {value : ν} {entries : List (κ × ν)} {query : κ}
    {found : ν} (other : query ≠ key) :
    (query, found) ∈ insertEntry key value entries ↔ (query, found) ∈ entries := by
  refine ⟨fun member => (mem_insertEntry member).resolve_left other, fun member => ?_⟩
  induction entries with
  | nil => cases member
  | cons head rest ih =>
      obtain ⟨held, old⟩ := head
      unfold insertEntry
      split
      · exact List.mem_cons_of_mem _ member
      · next notBelow =>
          split
          · rcases List.mem_cons.mp member with same | later
            · exact same ▸ List.mem_cons_self
            · exact List.mem_cons_of_mem _ (ih later)
          · next notBeyond =>
              have same : key = held :=
                Std.le_antisymm (Std.not_lt.mp notBeyond) (Std.not_lt.mp notBelow)
              rcases List.mem_cons.mp member with replaced | later
              · cases replaced
                exact absurd same.symm other
              · exact List.mem_cons_of_mem _ later

omit [LE κ] [Std.IsLinearOrder κ] [Std.LawfulOrderLT κ] in
/-- An insertion holds the entry inserted. -/
theorem mem_insertEntry_self (key : κ) (value : ν) (entries : List (κ × ν)) :
    (key, value) ∈ insertEntry key value entries := by
  induction entries with
  | nil => exact List.mem_singleton.mpr rfl
  | cons head rest ih =>
      unfold insertEntry
      split
      · exact List.mem_cons_self
      · split
        · exact List.mem_cons_of_mem _ ih
        · exact List.mem_cons_self

/-- An insertion changes the map at its key only. -/
theorem get?_insert [DecidableEq κ] (map : SortedMap κ ν) (key : κ) (value : ν) (query : κ) :
    (map.insert key value).get? query = if query = key then some value else map.get? query := by
  split
  · next same =>
      subst same
      exact get?_eq_some_iff.mpr (mem_insertEntry_self query value map.entries)
  · next other =>
      apply Option.ext
      intro found
      rw [get?_eq_some_iff, get?_eq_some_iff]
      exact mem_insertEntry_iff other

/-- An insertion at a key that is not held adds one entry. -/
theorem insertEntry_perm {key : κ} (value : ν) {entries : List (κ × ν)}
    (fresh : key ∉ entries.map Prod.fst) :
    (insertEntry key value entries).Perm ((key, value) :: entries) := by
  induction entries with
  | nil => exact List.Perm.refl _
  | cons head rest ih =>
      obtain ⟨held, old⟩ := head
      obtain ⟨other, fresh⟩ := not_or.mp (mt List.mem_cons.mpr fresh)
      unfold insertEntry
      split
      · exact List.Perm.refl _
      · next notBelow =>
          split
          · exact ((ih fresh).cons _).trans (.swap _ _ _)
          · next notBeyond =>
              exact absurd (Std.le_antisymm (Std.not_lt.mp notBeyond) (Std.not_lt.mp notBelow)) other

/-- Erasing a key drops its entry and no other. -/
theorem mem_eraseEntry_iff {key : κ} {entries : List (κ × ν)} (ascending : Ascending entries)
    {entry : κ × ν} : entry ∈ eraseEntry key entries ↔ entry ∈ entries ∧ entry.1 ≠ key := by
  induction entries with
  | nil => simp [eraseEntry]
  | cons head rest ih =>
      obtain ⟨held, old⟩ := head
      obtain ⟨above, tail⟩ := List.pairwise_cons.mp ascending
      unfold eraseEntry
      split
      · next below =>
          -- the key would have to stand before the least one
          refine ⟨fun member => ⟨member, ?_⟩, And.left⟩
          rintro rfl
          rcases List.mem_cons.mp member with rfl | later
          · exact Std.lt_irrefl below
          · exact Std.lt_irrefl (Std.lt_trans below (above entry later))
      · next notBelow =>
          split
          · next beyond =>
              rw [List.mem_cons, List.mem_cons, ih tail]
              constructor
              · rintro (rfl | ⟨later, other⟩)
                · exact ⟨.inl rfl, fun same => Std.lt_irrefl (same ▸ beyond)⟩
                · exact ⟨.inr later, other⟩
              · rintro ⟨rfl | later, other⟩
                · exact .inl rfl
                · exact .inr ⟨later, other⟩
          · next notBeyond =>
              obtain rfl : key = held :=
                Std.le_antisymm (Std.not_lt.mp notBeyond) (Std.not_lt.mp notBelow)
              rw [List.mem_cons]
              constructor
              · intro later
                refine ⟨.inr later, fun same => ?_⟩
                exact Std.lt_irrefl (same ▸ above entry later)
              · rintro ⟨rfl | later, other⟩
                · exact (other rfl).elim
                · exact later

/-- Erasing a key changes the map at this key only. -/
theorem get?_erase [DecidableEq κ] (map : SortedMap κ ν) (key query : κ) :
    (map.erase key).get? query = if query = key then none else map.get? query := by
  apply Option.ext
  intro found
  rw [get?_eq_some_iff, erase, mem_eraseEntry_iff map.ascending]
  by_cases same : query = key
  · simp [same]
  · simp [same, get?_eq_some_iff]

theorem ofList_cons (key : κ) (value : ν) (entries : List (κ × ν)) :
    ofList ((key, value) :: entries) =
      if ((ofList entries).get? key).isSome then ofList entries
      else (ofList entries).insert key value := rfl

/-- Of the values that a list has for a key, the map of the list holds the last. -/
theorem get?_ofList_cons [DecidableEq κ] (key : κ) (value : ν) (entries : List (κ × ν))
    (query : κ) :
    (ofList ((key, value) :: entries)).get? query =
      ((ofList entries).get? query).or (if query = key then some value else none) := by
  rw [ofList_cons]
  split
  · next held =>
      by_cases same : query = key
      · subst same
        rw [Option.or_of_isSome held]
      · rw [if_neg same, Option.or_none]
  · next fresh =>
      rw [get?_insert]
      by_cases same : query = key
      · subst same
        rw [Option.not_isSome_iff_eq_none.mp fresh, if_pos rfl, Option.none_or]
      · rw [if_neg same, if_neg same, Option.or_none]

/-- The map of a list holds nothing that the list does not. -/
theorem mem_of_get?_ofList {entries : List (κ × ν)} [DecidableEq κ] {key : κ} {value : ν}
    (found : (ofList entries).get? key = some value) : (key, value) ∈ entries := by
  induction entries with
  | nil => cases found
  | cons head rest ih =>
      obtain ⟨held, old⟩ := head
      rw [get?_ofList_cons, Option.or_eq_some_iff] at found
      rcases found with later | ⟨_, here⟩
      · exact List.mem_cons_of_mem _ (ih later)
      · split at here
        · next same =>
            cases here
            exact same ▸ List.mem_cons_self
        · cases here

/-- The map of a list has the keys of the list. -/
theorem isSome_get?_ofList_iff [DecidableEq κ] {entries : List (κ × ν)} {key : κ} :
    ((ofList entries).get? key).isSome ↔ key ∈ entries.map Prod.fst := by
  induction entries with
  | nil => simp [ofList]
  | cons head rest ih =>
      obtain ⟨held, old⟩ := head
      rw [get?_ofList_cons, Option.isSome_or, Bool.or_eq_true, ih, List.map_cons, List.mem_cons,
        or_comm]
      by_cases same : key = held <;> simp [same]

/-- Where every key is listed once, the map of a list finds exactly what the list holds. -/
theorem get?_ofList_eq_some_iff [DecidableEq κ] {entries : List (κ × ν)}
    (distinct : (entries.map Prod.fst).Nodup) {key : κ} {value : ν} :
    (ofList entries).get? key = some value ↔ (key, value) ∈ entries := by
  refine ⟨mem_of_get?_ofList, fun member => ?_⟩
  induction entries with
  | nil => cases member
  | cons head rest ih =>
      obtain ⟨held, old⟩ := head
      obtain ⟨fresh, distinct⟩ := List.nodup_cons.mp distinct
      rw [get?_ofList_cons, Option.or_eq_some_iff]
      rcases List.mem_cons.mp member with same | later
      · cases same
        have absent : (ofList rest).get? key = none := by
          rw [← Option.not_isSome_iff_eq_none, isSome_get?_ofList_iff]
          exact fresh
        exact .inr ⟨absent, if_pos rfl⟩
      · exact .inl (ih distinct later)

section

variable {μ : Type u} [LE μ] [LT μ] [DecidableLT μ] [Std.IsLinearOrder μ] [Std.LawfulOrderLT μ]
  [DecidableEq μ] {rename : κ → μ} {name : μ} {value : ν}

omit [DecidableLT κ] in
theorem get?_ofList_map_entries_iff {entries : List (κ × ν)} (ascending : Ascending entries) :
    (ofList (entries.map fun entry => (rename entry.1, entry.2))).get? name = some value ↔
      ∃ key, (key, value) ∈ entries ∧ rename key = name ∧
        ∀ other ∈ entries.map Prod.fst, rename other = name → other ≤ key := by
  induction entries with
  | nil => simp [ofList]
  | cons head rest ih =>
      obtain ⟨held, old⟩ := head
      obtain ⟨above, ascending⟩ := List.pairwise_cons.mp ascending
      have later (key : κ) (listed : key ∈ rest.map Prod.fst) : held < key := by
        obtain ⟨entry, member, rfl⟩ := List.mem_map.mp listed
        exact above entry member
      rw [List.map_cons, get?_ofList_cons, Option.or_eq_some_iff, ih ascending]
      have absent : (ofList (rest.map fun entry => (rename entry.1, entry.2))).get? name = none ↔
          ∀ other ∈ rest.map Prod.fst, rename other ≠ name := by
        rw [← Option.not_isSome_iff_eq_none, isSome_get?_ofList_iff, List.map_map]
        simp
      rw [absent]
      constructor
      · rintro (⟨key, member, same, greatest⟩ | ⟨fresh, here⟩)
        · refine ⟨key, List.mem_cons_of_mem _ member, same, ?_⟩
          rintro other listed renamed
          rcases List.mem_cons.mp listed with rfl | listed
          · exact Std.le_of_lt (later key (List.mem_map_of_mem member))
          · exact greatest other listed renamed
        · by_cases same : name = rename held
          · rw [if_pos same] at here
            cases here
            refine ⟨held, List.mem_cons_self, same.symm, ?_⟩
            rintro other listed renamed
            rcases List.mem_cons.mp listed with rfl | listed
            · exact Std.le_refl _
            · exact absurd renamed (fresh other listed)
          · rw [if_neg same] at here
            cases here
      · rintro ⟨key, member, same, greatest⟩
        rcases List.mem_cons.mp member with here | member
        · -- no later key has the name, since none is greater than the first
          cases here
          refine .inr ⟨fun other listed renamed => ?_, if_pos same.symm⟩
          exact absurd (greatest other (List.mem_cons_of_mem _ listed) renamed)
            (Std.not_le.mpr (later other listed))
        · exact .inl ⟨key, member, same, fun other listed =>
            greatest other (List.mem_cons_of_mem _ listed)⟩

/-- Of several keys that are renamed alike, the value of the greatest stands. -/
theorem get?_ofList_map_iff {map : SortedMap κ ν} :
    (ofList (map.entries.map fun entry => (rename entry.1, entry.2))).get? name = some value ↔
      ∃ key, map.get? key = some value ∧ rename key = name ∧
        ∀ other ∈ map.keys, rename other = name → other ≤ key := by
  rw [get?_ofList_map_entries_iff map.ascending]
  exact exists_congr fun key => and_congr_left' get?_eq_some_iff.symm

end

/-- The map of the entries of a map is the map. -/
theorem ofList_entries [DecidableEq κ] (map : SortedMap κ ν) : ofList map.entries = map := by
  apply ext_get?
  intro key
  apply Option.ext
  intro value
  rw [get?_ofList_eq_some_iff (nodup_of_pairwise_lt map.keys_pairwise), get?_eq_some_iff]

section

variable [DecidableEq κ] {entries others : List (κ × ν)}
  (distinct : (entries.map Prod.fst).Nodup)
include distinct

/-- Where every key is listed once, the map of a list holds the entries of the list. -/
theorem entries_ofList_perm : (ofList entries).entries.Perm entries := by
  have ofKeys {entries : List (κ × ν)} (nodup : (entries.map Prod.fst).Nodup) : entries.Nodup :=
    List.Pairwise.of_map Prod.fst (fun _ _ => mt (congrArg Prod.fst)) nodup
  have keys := nodup_of_pairwise_lt (keys_pairwise (ofList entries))
  apply (List.perm_ext_iff_of_nodup (ofKeys keys) (ofKeys distinct)).mpr
  rintro ⟨key, value⟩
  rw [← get?_eq_some_iff, get?_ofList_eq_some_iff distinct]

/-- Where every key is listed once, the map of a list does not depend on its order. -/
theorem ofList_eq_of_perm (perm : entries.Perm others) : ofList entries = ofList others := by
  apply ext_get?
  intro key
  apply Option.ext
  intro value
  rw [get?_ofList_eq_some_iff distinct,
    get?_ofList_eq_some_iff ((perm.map Prod.fst).nodup_iff.mp distinct)]
  exact perm.mem_iff

end

/-- The distinct members of a list are its members. -/
theorem mem_distinct [DecidableEq κ] {members : List κ} {member : κ} :
    member ∈ distinct members ↔ member ∈ members := by
  unfold distinct
  rw [mem_keys_iff, isSome_get?_ofList_iff, List.map_map]
  simp only [Function.comp_def, List.map_id']

/-- The distinct members of a list strictly ascend. -/
theorem distinct_pairwise (members : List κ) : (distinct members).Pairwise (· < ·) :=
  keys_pairwise _

/-- The distinct members of a list differ from each other. -/
theorem distinct_nodup (members : List κ) : (distinct members).Nodup :=
  nodup_of_pairwise_lt (distinct_pairwise members)

/-- The distinct members of a list depend on nothing but its members. -/
theorem distinct_congr [DecidableEq κ] {members others : List κ}
    (same : ∀ member, member ∈ members ↔ member ∈ others) : distinct members = distinct others := by
  apply eq_of_perm_of_pairwise_lt _ (distinct_pairwise members) (distinct_pairwise others)
  apply (List.perm_ext_iff_of_nodup (distinct_nodup members) (distinct_nodup others)).mpr
  intro member
  rw [mem_distinct, mem_distinct, same]

theorem distinct_eq_self [DecidableEq κ] {members : List κ}
    (ascending : members.Pairwise (· < ·)) : distinct members = members := by
  apply eq_of_perm_of_pairwise_lt _ (distinct_pairwise members) ascending
  apply (List.perm_ext_iff_of_nodup (distinct_nodup members)
    (nodup_of_pairwise_lt ascending)).mpr
  intro member
  exact mem_distinct

/-- The map of a function on a list holds its graph. -/
theorem entries_ofList_map [DecidableEq κ] (members : List κ) (f : κ → ν) :
    (ofList (members.map fun member => (member, f member))).entries =
      (distinct members).map fun member => (member, f member) := by
  have keys : (ofList (members.map fun member => (member, f member))).keys = distinct members := by
    apply eq_of_perm_of_pairwise_lt _ (keys_pairwise _) (distinct_pairwise members)
    apply (List.perm_ext_iff_of_nodup (nodup_of_pairwise_lt (keys_pairwise _))
      (distinct_nodup members)).mpr
    intro member
    rw [mem_distinct, mem_keys_iff, isSome_get?_ofList_iff, List.map_map, Function.comp_def,
      List.map_id']
  have graph : ∀ entry ∈ (ofList (members.map fun member => (member, f member))).entries,
      ((fun member => (member, f member)) ∘ Prod.fst) entry = entry := by
    rintro ⟨key, value⟩ held
    obtain ⟨_, -, same⟩ := List.mem_map.mp (mem_of_get?_ofList (get?_eq_some_iff.mpr held))
    cases same
    rfl
  rw [← keys, SortedMap.keys, List.map_map, List.map_congr_left graph, List.map_id']

end Reconciliation.SortedMap
