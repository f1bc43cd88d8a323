import Reconciliation.Proofs.Calendar.WrittenDay
import Reconciliation.Proofs.Text.Splitting
import Reconciliation.Query.Predicate

/-! # Text expressions

The few functions of text that both databases share, as a query spells them and as the databases
compute them. A query on a text column asks for the standard text of its days by such an expression
(`PartitionColumn.standardExpression_eq_write`), and of every day that is stored in digits of fixed
width the database computes the same digits with dashes between them
(`FixedWidth.value_standardExpression`).
-/

namespace Reconciliation

/-- An expression over the text of one column. -/
inductive TextExpression where
  | column
  | literal (text : String)
  /-- Some characters from a place on. Places are counted from one. -/
  | slice (source : TextExpression) (place length : Nat)
  /-- The text with every occurrence of a part replaced. -/
  | replace (source : TextExpression) (part replacement : String)
  | join (left right : TextExpression)

namespace TextExpression

/-- The expression as a query spells it for a column of a name. -/
def write (name : String) : TextExpression → String
  | .column => name
  | .literal text => quoteLiteral text
  | .slice source place length => s!"SUBSTR({source.write name}, {place}, {length})"
  | .replace source part replacement =>
    s!"REPLACE({source.write name}, {quoteLiteral part}, {quoteLiteral replacement})"
  | .join left right => s!"{left.write name} || {right.write name}"

/-- What the expression yields for a stored text. -/
def value (stored : List Char) : TextExpression → List Char
  | .column => stored
  | .literal text => text.toList
  | .slice source place length => ((source.value stored).drop (place - 1)).take length
  | .replace source part replacement =>
    replacement.toList.intercalate (Text.splitAll part.toList (source.value stored))
  | .join left right => left.value stored ++ right.value stored

end TextExpression

/-- The standard text of the days that a layout writes. -/
def TextLayout.standardExpression : TextLayout → TextExpression
  | .dashed => .column
  | .compact =>
    .join (.slice .column 1 4) (.join (.literal "-") (.join (.slice .column 5 2)
      (.join (.literal "-") (.slice .column 7 2))))
  | .slashed => .replace .column "/" "-"

/-- A query asks for the standard text of a text column by the expression of its layout. -/
theorem PartitionColumn.standardExpression_eq_write (name : String) (layout : TextLayout)
    (platform : Platform) :
    (⟨name, .text layout⟩ : PartitionColumn).standardExpression platform =
      layout.standardExpression.write (platform.identifier name) := by
  have dash : quoteLiteral "-" = "'-'" := by decide
  have slash : quoteLiteral "/" = "'/'" := by decide
  have places : [1, 2, 4, 5, 7].map Nat.repr = ["1", "2", "4", "5", "7"] := by decide
  simp only [List.map_cons, List.cons.injEq] at places
  rw [standardExpression, identifier, ← String.toList_inj]
  cases layout with
  | dashed => rfl
  | compact => simp [TextLayout.standardExpression, TextExpression.write, toString, dash, places]
  | slashed => simp [TextLayout.standardExpression, TextExpression.write, toString, dash, slash]

variable {layout : TextLayout} {cs year month day : List Char}

/-- **Of a day in digits of fixed width the standard text has the same digits with dashes between
them.** -/
theorem FixedWidth.value_standardExpression (fixed : FixedWidth layout year month day cs) :
    layout.standardExpression.value cs = year ++ ('-' :: (month ++ ('-' :: day))) := by
  cases layout with
  | dashed => exact fixed.split
  | compact =>
      have split : cs = year ++ month ++ day := by
        rw [fixed.split, List.append_assoc]
        rfl
      have six : (year ++ month).length = 6 := by
        rw [List.length_append, fixed.yearWidth, fixed.monthWidth]
      have years : cs.take 4 = year := by
        rw [split, List.append_assoc, List.take_left' fixed.yearWidth]
      have months : (cs.drop 4).take 2 = month := by
        rw [split, List.append_assoc, List.drop_left' fixed.yearWidth,
          List.take_left' fixed.monthWidth]
      have days : (cs.drop 6).take 2 = day := by
        rw [split, List.drop_left' six, List.take_of_length_le (Nat.le_of_eq fixed.dayWidth)]
      change cs.take 4 ++ (['-'] ++ ((cs.drop 4).take 2 ++ (['-'] ++ (cs.drop 6).take 2))) = _
      rw [years, months, days]
      rfl
  | slashed =>
      have apart {digits : List Char} (all : Digits digits) : Text.IsPiece ['/'] digits := by
        apply Text.IsPiece.of_apart (List.cons_ne_nil _ _)
        intro c member slash
        obtain rfl := List.mem_singleton.mp slash
        cases all.all _ member
      have split : cs = ['/'].intercalate [year, month, day] := by
        simp [fixed.split, TextLayout.separator, List.intercalate]
      have pieces : Text.splitAll ['/'] cs = [year, month, day] := by
        rw [split]
        apply Text.splitAll_intercalate (List.cons_ne_nil _ _) (List.cons_ne_nil _ _)
        simp [apart fixed.yearDigits, apart fixed.monthDigits, apart fixed.dayDigits]
      change ['-'].intercalate (Text.splitAll ['/'] cs) = _
      rw [pieces]
      simp [List.intercalate]

/-- The standard text of a written day is the dashed day. -/
theorem TextLayout.value_render {date : Date} (short : date.FourDigitYear) :
    layout.standardExpression.value (layout.render date).toList =
      (TextLayout.dashed.render date).toList := by
  rw [(fixedWidth_render short).value_standardExpression, (fixedWidth_render short).split]
  rfl

end Reconciliation
