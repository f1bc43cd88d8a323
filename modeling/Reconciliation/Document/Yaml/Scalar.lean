import Reconciliation.Document.Value
import Reconciliation.Number.Numeral

/-! # Plain scalars of YAML

A scalar without quotes is null, a truth value or a number where it looks like one, and a text
otherwise. A numeral of digits alone that begins with a superfluous zero is a text.
-/

namespace Reconciliation.Document.Yaml

/-- A text without a sign in front. -/
def withoutSign : List Char → List Char
  | '+' :: rest => rest
  | '-' :: rest => rest
  | cs => cs

/-- Whether a text is a numeral of digits with a superfluous zero in front. -/
def hasLeadingZero (cs : List Char) : Bool :=
  match withoutSign cs with
  | '0' :: d :: rest => d.isDigit && rest.all Char.isDigit
  | _ => false

/-- The magnitude that a text denotes: digits, or digits of another base after its mark. -/
def magnitude? : List Char → Option Nat
  | '0' :: 'x' :: digits => natInBase? 16 digits
  | '0' :: 'o' :: digits => natInBase? 8 digits
  | '0' :: 'b' :: digits => natInBase? 2 digits
  | digits => if hasLeadingZero digits then none else natInBase? 10 digits

/-- The integer that a text denotes. -/
def integer? : List Char → Option Int
  | '-' :: rest => (magnitude? rest).map fun n => -(n : Int)
  | '+' :: rest => (magnitude? rest).map fun n => (n : Int)
  | cs => (magnitude? cs).map fun n => (n : Int)

/-- The number that a text denotes, which is finite unless it is named. -/
def float? (cs : List Char) : Option Binary64 :=
  let unsigned :=
    match cs with
    | '+' :: rest => rest
    | _ => cs
  let name := String.ofList unsigned
  if name ∈ [".inf", ".Inf", ".INF"] then some (.infinite false)
  else if String.ofList cs ∈ ["-.inf", "-.Inf", "-.INF"] then some (.infinite true)
  else if name ∈ [".nan", ".NaN", ".NAN"] then some .nan
  else
    match unsigned, cs with
    | '-' :: _, '+' :: _ => none
    | '+' :: _, '+' :: _ => none
    | _, _ => (Binary64.ofText? unsigned).filter Binary64.isFinite

/-- The value of a scalar without quotes. -/
def plainValue (cs : List Char) : Document :=
  let text := String.ofList cs
  if text ∈ ["null", "Null", "NULL", "~"] then .null
  else if text ∈ ["true", "True", "TRUE"] then .boolean true
  else if text ∈ ["false", "False", "FALSE"] then .boolean false
  else
    match integer? cs with
    | some value => if holdsInteger value then .integer value else .unreadable
    | none =>
      if hasLeadingZero cs then .text text
      else ((float? cs).map Document.float).getD (.text text)

end Reconciliation.Document.Yaml
