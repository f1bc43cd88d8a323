import Reconciliation.Calendar.Layout
import Reconciliation.Document.Value
import Reconciliation.Scalar
import Reconciliation.SortedMap

/-! # Reading values from documents

How the parts of a document are taken as values of a known kind. A record may be written with the
names of its members or as the list of their values in order. Members that nobody knows are
passed over; a known member that occurs twice makes the record unreadable.
-/

namespace Reconciliation

/-- What a record holds for one of its members. -/
inductive Slot where
  | written (value : Document)
  | omitted
  | cut

namespace Slot

/-- A member that has to be there. -/
def required {α : Type} (slot : Slot) (read? : Document → Option α) : Option α :=
  match slot with
  | .written value => read? value
  | _ => none

/-- A member that may be null, or lack among named members. -/
def nullable {α : Type} (slot : Slot) (read? : Document → Option α) : Option (Option α) :=
  match slot with
  | .written .null => some none
  | .written .vacant => some none
  | .written value => (read? value).map some
  | .omitted => some none
  | .cut => none

/-- A member that has a default. -/
def orDefault {α : Type} (slot : Slot) (default : α) (read? : Document → Option α) : Option α :=
  match slot with
  | .written value => read? value
  | _ => some default

end Slot

namespace Document

/-- The slots of a record whose members have the given names. -/
def slots? (names : List String) : Document → Option (String → Slot)
  | .record members =>
    if names.all fun name => members.countP (·.1 == name) ≤ 1 then
      some fun name => ((members.lookup name).map Slot.written).getD .omitted
    else none
  | .list items =>
    if items.length ≤ names.length then
      some fun name => (((names.zip items).lookup name).map Slot.written).getD .cut
    else none
  | .vacant => some fun _ => .omitted
  | _ => none

/-- The slots of a record that is never written as a list, and all of which is read. -/
def namedSlots? (names : List String) (document : Document) : Option (String → Slot) :=
  match document with
  | .list _ => none
  | _ => if document.isReadable then document.slots? names else none

/-- The name in a record that tells which of several kinds it is, and the other members. All of
such a record is read. -/
def tagged? (tag : String) (document : Document) : Option (String × Document) :=
  match document with
  | .record members =>
    match members.filter (·.1 == tag) with
    | [(_, .text name)] =>
      if document.isReadable then some (name, .record (members.filter (·.1 != tag))) else none
    | _ => none
  | _ => none

def text? : Document → Option String
  | .text value => some value
  | _ => none

def boolean? : Document → Option Bool
  | .boolean value => some value
  | _ => none

/-- A whole number that is not negative and below a bound. -/
def natural? (bound : Nat) : Document → Option Nat
  | .integer value => if 0 ≤ value && value < bound then some value.toNat else none
  | _ => none

def count? : Document → Option Nat :=
  natural? countBound

def float? : Document → Option Binary64
  | .integer value => some (.ofInt value)
  | .float value => some value
  | _ => none

/-- A scalar. A whole number too great for an integer is taken as a binary64 number. -/
def scalar? : Document → Option Scalar
  | .integer value =>
    if value < integerBound then some (.integer (.ofInt value)) else some (.float (.ofInt value))
  | .float value => some (.float value)
  | .text value => some (.text value)
  | _ => none

def date? : Document → Option Date
  | .text value => Date.ofText? value
  | _ => none

def nullable? {α : Type} (read? : Document → Option α) : Document → Option (Option α)
  | .null => some none
  | .vacant => some none
  | value => (read? value).map some

def list? {α : Type} (read? : Document → Option α) : Document → Option (List α)
  | .list items => items.mapM read?
  | _ => none

/-- A map from what names denote; of several values of one key the last stands. -/
def map? {κ α : Type} [LE κ] [LT κ] [DecidableLT κ] [Std.IsLinearOrder κ] [Std.LawfulOrderLT κ]
    (key? : String → Option κ) (read? : Document → Option α) : Document → Option (SortedMap κ α)
  | .record members =>
    (members.mapM fun (name, value) => do return (← key? name, ← read? value)).map .ofList
  | .vacant => some .empty
  | _ => none

/-- A choice among named values. A name may also be the only member of a record, with null. -/
def choice? {α : Type} (choices : List (String × α)) : Document → Option α
  | .text name => choices.lookup name
  | .record [(name, .null)] => choices.lookup name
  | _ => none

def ofScalar : Scalar → Document
  | .integer value => .integer value.toInt
  | .float value => .float value
  | .text value => .text value

def ofDate (date : Date) : Document :=
  .text date.text

def ofCount (count : Nat) : Document :=
  .integer count

/-- An optional value as a document. -/
def ofOption {α : Type} (write : α → Document) (value : Option α) : Document :=
  (value.map write).getD .null

def ofList {α : Type} (write : α → Document) (values : List α) : Document :=
  .list (values.map write)

def ofMap {κ α : Type} [LT κ] (name : κ → String) (write : α → Document) (map : SortedMap κ α) :
    Document :=
  .record (map.entries.map fun (key, value) => (name key, write value))

/-- A record with a member in front of the others that tells its kind. -/
def withTag (tag name : String) (document : Document) : Document :=
  match document with
  | .record members => .record ((tag, .text name) :: members)
  | other => other

end Document

end Reconciliation
