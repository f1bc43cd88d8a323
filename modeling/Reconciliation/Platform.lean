import Reconciliation.Calendar.Layout
import Reconciliation.Text.Case

/-! # Platforms

A migrated table lives on two platforms, each with its own spelling of SQL. Unquoted identifiers
fold to upper case on the legacy platform and to lower case on the cloud platform.
-/

namespace Reconciliation

/-- One side of a migration. -/
inductive Platform where
  | legacy
  | cloud
  deriving DecidableEq, Repr

namespace Platform

/-- Both platforms, the legacy one first. -/
def all : List Platform := [.legacy, .cloud]

def name : Platform → String
  | .legacy => "legacy"
  | .cloud => "cloud"

def other : Platform → Platform
  | .legacy => .cloud
  | .cloud => .legacy

/-- The names of products by which users call each platform. -/
def ofName? (text : String) : Except String Platform :=
  let folded := Text.lower (Text.trim text)
  if folded = "legacy" ∨ folded = "pcds" ∨ folded = "oracle" then .ok .legacy
  else if folded = "cloud" ∨ folded = "aws" ∨ folded = "athena" then .ok .cloud
  else .error s!"Unknown platform: {folded}"

/-- An identifier in the case the platform folds it to. -/
def identifier (platform : Platform) (name : String) : String :=
  match platform with
  | .legacy => Text.upper (Text.trim name)
  | .cloud => Text.lower (Text.trim name)

def dateLiteral (platform : Platform) (date : Date) : String :=
  match platform with
  | .legacy => s!"DATE '{date.text}'"
  | .cloud => s!"from_iso8601_date('{date.text}')"

/-- The calendar day of a temporal expression. -/
def truncateToDay (platform : Platform) (expression : String) : String :=
  match platform with
  | .legacy => s!"TRUNC({expression})"
  | .cloud => s!"date_trunc('day', {expression})"

/-- The day of a temporal expression as the text `YYYY-MM-DD`. -/
def formatDay (platform : Platform) (expression : String) : String :=
  match platform with
  | .legacy => s!"TO_CHAR({expression}, 'YYYY-MM-DD')"
  | .cloud => s!"date_format({expression}, '%Y-%m-%d')"

def toText (platform : Platform) (expression : String) : String :=
  match platform with
  | .legacy => s!"TO_CHAR({expression})"
  | .cloud => s!"CAST({expression} AS VARCHAR)"

/-- An expression, or a fallback where it is NULL. -/
def coalesce (platform : Platform) (expression fallback : String) : String :=
  match platform with
  | .legacy => s!"NVL({expression}, {fallback})"
  | .cloud => s!"COALESCE({expression}, {fallback})"

end Platform

/-- A pair of values, one for each platform. -/
structure Both (α : Type) where
  legacy : α
  cloud : α
  deriving DecidableEq

namespace Both

def on {α : Type} (both : Both α) : Platform → α
  | .legacy => both.legacy
  | .cloud => both.cloud

/-- A value for each platform, by a function of the platform. -/
def tabulate {α : Type} (f : Platform → α) : Both α :=
  ⟨f .legacy, f .cloud⟩

@[simp] theorem on_tabulate {α : Type} (f : Platform → α) (platform : Platform) :
    (tabulate f).on platform = f platform := by
  cases platform <;> rfl

/-- The values changed by a function. -/
def map {α β : Type} (f : α → β) (both : Both α) : Both β :=
  ⟨f both.legacy, f both.cloud⟩

@[simp] theorem on_map {α β : Type} (f : α → β) (both : Both α) (platform : Platform) :
    (both.map f).on platform = f (both.on platform) := by
  cases platform <;> rfl

/-- The pair with the value of one platform changed. -/
def modify {α : Type} (f : α → α) (both : Both α) : Platform → Both α
  | .legacy => { both with legacy := f both.legacy }
  | .cloud => { both with cloud := f both.cloud }

/-- The values of the platforms exchanged. -/
def swap {α : Type} (both : Both α) : Both α :=
  ⟨both.cloud, both.legacy⟩

@[simp] theorem on_swap {α : Type} (both : Both α) (platform : Platform) :
    both.swap.on platform = both.on platform.other := by
  cases platform <;> rfl

theorem ext_on {α : Type} {both others : Both α}
    (same : ∀ platform, both.on platform = others.on platform) : both = others := by
  cases both
  cases others
  exact (mk.injEq ..).mpr ⟨same .legacy, same .cloud⟩

end Both

end Reconciliation
