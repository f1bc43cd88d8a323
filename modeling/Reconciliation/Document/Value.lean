import Reconciliation.Number.Binary64

/-! # Documents

A document is a tree of values: numbers, texts, lists and records of named members. It is what
a JSON text or a settings file denotes before anything is known of its purpose. Members keep
their order, and a name may occur more than once.
-/

namespace Reconciliation

-- Powers stay those of the core library, whatever else is imported beside this module.
attribute [local instance (high)] instPowNat

/-- A value of a document. -/
inductive Document where
  /-- No value. -/
  | null
  /-- A truth value. -/
  | boolean (value : Bool)
  /-- A whole number written as such. -/
  | integer (value : Int)
  /-- A number written with a point or an exponent, or too great for an integer. -/
  | float (value : Binary64)
  /-- A text. -/
  | text (value : String)
  /-- Some values in order. -/
  | list (items : List Document)
  /-- Some named values. -/
  | record (members : List (String × Document))
  /-- A place where nothing is written. -/
  | vacant
  /-- A part that is well formed but has no value, such as a number beyond all numbers. It may
  stand where nobody reads it. -/
  | unreadable
  deriving Inhabited

namespace Document

mutual

/-- Whether every part of a document has a value. -/
def isReadable : Document → Bool
  | .unreadable => false
  | .list items => areReadable items
  | .record members => membersAreReadable members
  | _ => true

def areReadable : List Document → Bool
  | [] => true
  | item :: items => isReadable item && areReadable items

def membersAreReadable : List (String × Document) → Bool
  | [] => true
  | (_, value) :: members => isReadable value && membersAreReadable members

end

/-- Named values ordered by name; equal names keep their order. -/
def sortMembers {α : Type} (members : List (String × α)) : List (String × α) :=
  members.mergeSort fun a b => a.1 ≤ b.1

mutual

/-- A document with the members of every record ordered by name. -/
def sorted : Document → Document
  | .list items => .list (sortedItems items)
  | .record members => .record (sortMembers (sortedMembers members))
  | other => other

/-- The items with their records sorted. -/
def sortedItems : List Document → List Document
  | [] => []
  | item :: items => sorted item :: sortedItems items

/-- The members with the records in them sorted. -/
def sortedMembers : List (String × Document) → List (String × Document)
  | [] => []
  | (name, value) :: members => (name, sorted value) :: sortedMembers members

end

/-- The integers that a document can hold: those of 64 bits, with a sign or without. -/
def holdsInteger (value : Int) : Bool :=
  -(2 ^ (63 : Nat) : Int) ≤ value && value < 2 ^ (64 : Nat)

/-- The value of a member, the last of its name. -/
def member? (document : Document) (name : String) : Option Document :=
  match document with
  | .record members => (members.reverse.find? (·.1 == name)).map Prod.snd
  | _ => none

end Document

end Reconciliation
