import Reconciliation.Session.Database

/-! # Inquiries

An inquiry is a value found by asking the databases of both platforms, together with the
statements that each of them was sent. Inquiries are made of `Connections.ask`, which records the
statement that it has answered, and are put together by `pure` and `>>=`, which add no statement
and drop none. Many statements may run at once, and then they finish in any order that the number
of running statements allows.
-/

namespace Reconciliation

/-- A value, and the statements that each platform was sent to find it. -/
structure Inquiry (α : Type) where
  /-- The value. -/
  value : α
  /-- The statements, in the order in which they were sent. -/
  sent : Both (List String)

namespace Inquiry

/-- Statements sent to one platform and none to the other. -/
def onlyOn (platform : Platform) (statements : List String) : Both (List String) :=
  .tabulate fun side => if side = platform then statements else []

/-- Statements followed by others on each platform. -/
def inTurn (first second : Both (List String)) : Both (List String) :=
  .tabulate fun platform => first.on platform ++ second.on platform

def known {α : Type} (value : α) : Inquiry α :=
  ⟨value, ⟨[], []⟩⟩

/-- An inquiry that goes on from the value of another. -/
def continued {α β : Type} (inquiry : Inquiry α) (next : α → Inquiry β) : Inquiry β :=
  ⟨(next inquiry.value).value, inTurn inquiry.sent (next inquiry.value).sent⟩

instance : Monad Inquiry where
  pure := known
  bind := continued

@[simp]
theorem value_pure {α : Type} (value : α) : (pure value : Inquiry α).value = value := rfl

@[simp]
theorem sent_pure {α : Type} (value : α) : (pure value : Inquiry α).sent = ⟨[], []⟩ := rfl

@[simp]
theorem value_bind {α β : Type} (inquiry : Inquiry α) (next : α → Inquiry β) :
    (inquiry >>= next).value = (next inquiry.value).value := rfl

@[simp]
theorem sent_bind {α β : Type} (inquiry : Inquiry α) (next : α → Inquiry β) :
    (inquiry >>= next).sent = inTurn inquiry.sent (next inquiry.value).sent := rfl

end Inquiry

/-- The order in which work finishes of which at most `width` units run at once. The units start
in order, a new one whenever one finishes; of the running ones that one finishes which `turn`
tells for the number of units that are left. -/
def finishingOrder {α : Type} (width : Nat) (turn : Nat → Nat) (units : List α) : List α :=
  if nonempty : 0 < units.length then
    let running := min (max width 1) units.length
    have : turn units.length % running < units.length :=
      Nat.lt_of_lt_of_le (Nat.mod_lt _ (by omega)) (Nat.min_le_right ..)
    units[turn units.length % running] ::
      finishingOrder width turn (units.eraseIdx (turn units.length % running))
  else []
termination_by units.length
decreasing_by rw [List.length_eraseIdx_of_lt this]; omega

/-- A member of a list put before the others gives the list in another order. -/
theorem getElem_cons_eraseIdx_perm {α : Type} {members : List α} {place : Nat}
    (inside : place < members.length) : (members[place] :: members.eraseIdx place).Perm members := by
  rw [List.eraseIdx_eq_take_drop_succ]
  refine List.perm_middle.symm.trans ?_
  rw [← List.drop_eq_getElem_cons inside, List.take_append_drop]

/-- Some units finish in an order of just these units. -/
theorem finishingOrder_perm {α : Type} (width : Nat) (turn : Nat → Nat) (units : List α) :
    (finishingOrder width turn units).Perm units := by
  fun_induction finishingOrder width turn units with
  | case1 units nonempty running inside ih =>
    exact (ih.cons _).trans (getElem_cons_eraseIdx_perm inside)
  | case2 units empty =>
    rw [List.eq_nil_of_length_eq_zero (Nat.eq_zero_of_not_pos empty)]

/-- A unit of work: a statement with the name under which its result is kept. -/
structure WorkUnit where
  name : String
  statement : String
  deriving DecidableEq, Repr

/-- The databases of both platforms, and how many statements each of them runs at once. -/
structure Connections where
  databases : Both Database
  parallelism : Both Nat
  turn : Both (Nat → Nat) := ⟨fun _ => 0, fun _ => 0⟩

namespace Connections

/-- The connections to two databases, if each belongs to its platform. Every platform runs at
least one statement. -/
def of? (databases : Both Database) (parallelism : Both Nat) : Except SettingFault Connections :=
  match Platform.all.find? fun platform => (databases.on platform).platform ≠ platform with
  | some platform => .error (.wrongPlatform platform (databases.on platform).platform)
  | none => .ok { databases, parallelism := parallelism.map (max 1) }

/-- The answer of a platform to one statement. -/
def ask (connections : Connections) (platform : Platform) (statement : String) : Inquiry Answer :=
  ⟨(connections.databases.on platform).answer statement, Inquiry.onlyOn platform [statement]⟩

/-- The answers of a platform to some units, by name. Their statements are sent in order. -/
def askEach (connections : Connections) (platform : Platform) :
    List WorkUnit → Inquiry (List (String × Answer))
  | [] => return []
  | unit :: units => do
    let answer ← connections.ask platform unit.statement
    let answers ← connections.askEach platform units
    return (unit.name, answer) :: answers

/-- The answers of a platform to some units, by name and as they finish. -/
def askAll (connections : Connections) (platform : Platform) (units : List WorkUnit) :
    Inquiry (List (String × Answer)) := do
  let answers ← connections.askEach platform units
  return finishingOrder (connections.parallelism.on platform) (connections.turn.on platform) answers

end Connections

end Reconciliation
