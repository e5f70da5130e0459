import SqlSelect.Text.Blank
import SqlSelect.Text.Case
/-!
# Operators

The operators that join expressions. Each has a key, the name by which documents and settings refer
to it, and belongs to one of two classes: arithmetic or predicate. Whether an operator takes one
operand or two, and whether a single operand stands behind it or before it, is fixed here too; how
it is spelled is the dialect's business.
-/

namespace SqlSelect

/-- An operator of the expression language. -/
inductive Operator
  | eq | ne | lt | lte | gt | gte | like | notLike | isIn | notIn
  | and | or | not
  | isNull | isNotNull
  | add | sub | mul | div | mod
  deriving DecidableEq, Inhabited, Repr

/-- What an operator yields: a truth value or a number. -/
inductive OperatorClass
  | predicate
  | arithmetic
  deriving DecidableEq, Repr

namespace Operator

/-- Every operator, in the order of declaration. -/
def all : List Operator :=
  [eq, ne, lt, lte, gt, gte, like, notLike, isIn, notIn, and, or, not, isNull, isNotNull,
    add, sub, mul, div, mod]

theorem mem_all (op : Operator) : op ∈ all := by cases op <;> decide

/-- The class of an operator. -/
def kind : Operator → OperatorClass
  | add | sub | mul | div | mod => .arithmetic
  | _ => .predicate

/-- The operator yields a number. -/
def isArithmetic (op : Operator) : Bool := op.kind = .arithmetic

/-- The operator takes one operand. -/
def isUnary : Operator → Bool
  | not | isNull | isNotNull => true
  | _ => false

/-- The operator is written before its only operand. -/
def isLeading (op : Operator) : Bool := op = not

/-- The name of an operator in documents and settings. -/
def key : Operator → String
  | eq => "eq"
  | ne => "ne"
  | lt => "lt"
  | lte => "lte"
  | gt => "gt"
  | gte => "gte"
  | like => "like"
  | notLike => "not_like"
  | isIn => "in"
  | notIn => "not_in"
  | and => "and"
  | or => "or"
  | not => "not"
  | isNull => "is_null"
  | isNotNull => "is_not_null"
  | add => "add"
  | sub => "sub"
  | mul => "mul"
  | div => "div"
  | mod => "mod"

/-- The operator that a text names: its key, in any case and with blanks around it. -/
def ofText? (s : String) : Option Operator :=
  let name := Text.lowercase (Text.trim s)
  all.find? (·.key = name)

end Operator

end SqlSelect
