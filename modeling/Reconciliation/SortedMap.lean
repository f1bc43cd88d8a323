/-! # Sorted maps

A map holds its entries in strictly ascending order of their keys, so equal maps have equal
entries and every listing of a map is in order. Its view is `get?`.
-/

namespace Reconciliation

universe u v w

section

variable {κ : Type u} [LT κ] [DecidableLT κ] {ν : Type v}

/-- The value of a key among ascending entries. -/
def lookupEntry (key : κ) : List (κ × ν) → Option ν
  | [] => none
  | (held, value) :: rest =>
    if key < held then none else if held < key then lookupEntry key rest else some value

/-- Ascending entries with the value of one key set. -/
def insertEntry (key : κ) (value : ν) : List (κ × ν) → List (κ × ν)
  | [] => [(key, value)]
  | (held, old) :: rest =>
    if key < held then (key, value) :: (held, old) :: rest
    else if held < key then (held, old) :: insertEntry key value rest
    else (key, value) :: rest

def eraseEntry (key : κ) : List (κ × ν) → List (κ × ν)
  | [] => []
  | (held, value) :: rest =>
    if key < held then (held, value) :: rest
    else if held < key then (held, value) :: eraseEntry key rest
    else rest

/-- Every key of the entries after an insertion is the new one or was there before. -/
theorem mem_insertEntry {key : κ} {value : ν} {entries : List (κ × ν)} {entry : κ × ν}
    (member : entry ∈ insertEntry key value entries) : entry.1 = key ∨ entry ∈ entries := by
  induction entries with
  | nil => exact Or.inl (by rw [List.mem_singleton.mp member])
  | cons head rest ih =>
    obtain ⟨held, old⟩ := head
    unfold insertEntry at member
    split at member
    · rcases List.mem_cons.mp member with rfl | old
      · exact Or.inl rfl
      · exact Or.inr old
    · split at member
      · rcases List.mem_cons.mp member with rfl | later
        · exact Or.inr List.mem_cons_self
        · exact (ih later).imp id (List.mem_cons_of_mem _)
      · rcases List.mem_cons.mp member with rfl | old
        · exact Or.inl rfl
        · exact Or.inr (List.mem_cons_of_mem _ old)

/-- Erasing a key leaves only entries that were there. -/
theorem eraseEntry_sublist (key : κ) (entries : List (κ × ν)) :
    (eraseEntry key entries).Sublist entries := by
  induction entries with
  | nil => exact List.Sublist.refl _
  | cons head rest ih =>
    obtain ⟨held, value⟩ := head
    unfold eraseEntry
    split
    · exact List.Sublist.refl _
    · split
      · exact ih.cons_cons _
      · exact List.sublist_cons_self _ _

/-- The keys of the entries ascend. -/
def Ascending (entries : List (κ × ν)) : Prop :=
  entries.Pairwise fun a b => a.1 < b.1

end

/-- A map with its entries in ascending order of their keys. -/
structure SortedMap (κ : Type u) [LT κ] (ν : Type v) where
  entries : List (κ × ν)
  ascending : Ascending entries

namespace SortedMap

variable {κ : Type u} [LE κ] [LT κ] [DecidableLT κ] [Std.IsLinearOrder κ] [Std.LawfulOrderLT κ]
variable {ν : Type v}

theorem ascending_insertEntry (key : κ) (value : ν) {entries : List (κ × ν)}
    (ascending : Ascending entries) : Ascending (insertEntry key value entries) := by
  induction entries with
  | nil => exact List.pairwise_singleton _ _
  | cons head rest ih =>
    obtain ⟨held, old⟩ := head
    obtain ⟨above, tail⟩ := List.pairwise_cons.mp ascending
    unfold insertEntry
    split
    · next below =>
      refine List.pairwise_cons.mpr ⟨fun entry member => ?_, ascending⟩
      rcases List.mem_cons.mp member with rfl | later
      · exact below
      · exact Std.lt_trans below (above entry later)
    · next notBelow =>
      split
      · next beyond =>
        refine List.pairwise_cons.mpr ⟨fun entry member => ?_, ih tail⟩
        rcases mem_insertEntry member with same | later
        · exact same ▸ beyond
        · exact above entry later
      · next notBeyond =>
        have same : key = held :=
          Std.le_antisymm (Std.not_lt.mp notBeyond) (Std.not_lt.mp notBelow)
        exact List.pairwise_cons.mpr ⟨fun entry member => same ▸ above entry member, tail⟩

def empty : SortedMap κ ν := ⟨[], List.Pairwise.nil⟩

instance : Inhabited (SortedMap κ ν) := ⟨empty⟩

def get? (map : SortedMap κ ν) (key : κ) : Option ν :=
  lookupEntry key map.entries

/-- The map with one value set. -/
def insert (map : SortedMap κ ν) (key : κ) (value : ν) : SortedMap κ ν :=
  ⟨insertEntry key value map.entries, ascending_insertEntry key value map.ascending⟩

def erase (map : SortedMap κ ν) (key : κ) : SortedMap κ ν :=
  ⟨eraseEntry key map.entries, map.ascending.sublist (eraseEntry_sublist key map.entries)⟩

/-- The map of a list of entries; of several values of one key the last stands. -/
def ofList (entries : List (κ × ν)) : SortedMap κ ν :=
  entries.foldr (fun (key, value) map => if (map.get? key).isSome then map else map.insert key value)
    empty

def keys (map : SortedMap κ ν) : List κ :=
  map.entries.map Prod.fst

/-- The values, in the order of their keys. -/
def values (map : SortedMap κ ν) : List ν :=
  map.entries.map Prod.snd

def size (map : SortedMap κ ν) : Nat :=
  map.entries.length

/-- The distinct members of a list, ascending. -/
def distinct (members : List κ) : List κ :=
  (ofList (members.map fun member => (member, ()))).keys

end SortedMap

end Reconciliation
