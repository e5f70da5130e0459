import SqlSelect.Decimal.Text
import SqlSelect.Text.Quoted
/-!
# Bound values

A value is what a placeholder stands for: it never becomes part of the SQL text and travels beside
it, one value for each `?`, in the order of the placeholders.
-/

namespace SqlSelect

/-- A value bound to a placeholder. -/
inductive Value
  | null
  | bool (b : Bool)
  | int (n : Int64)
  | float (x : Float)
  | text (s : String)
  deriving Inhabited, Repr

namespace Value

/-- The decimal digits of an integer, with a minus sign if it is negative. -/
def intDigits (n : Int64) : List Char :=
  let digits := Nat.toDigits 10 n.toInt.natAbs
  if n.toInt < 0 then '-' :: digits else digits

/-- The value as a comment line shows it. -/
def display : Value → String
  | null => "NULL"
  | bool b => if b then "true" else "false"
  | int n => .ofList (intDigits n)
  | float x => Decimal.plain x
  | text s => Text.quoted s

end Value

end SqlSelect
