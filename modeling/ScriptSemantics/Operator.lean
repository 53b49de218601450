/-!
# Overloadable operators

Operators are ordinary functions with a kind of their own. A member operator receives its left
operand as the implicit object.
-/

namespace ScriptSemantics

/-- An overloadable operator. -/
inductive OperatorKind where
  | assign
  | addAssign
  | subAssign
  | mulAssign
  | divAssign
  | add
  | sub
  | mul
  | div
  | rem
  | negate
  | preIncrement
  | preDecrement
  | equal
  | notEqual
  | less
  | lessEqual
  | greater
  | greaterEqual
  | logicalAnd
  | logicalOr
  | logicalNot
  | subscript
  | call
deriving DecidableEq, Inhabited, Repr

namespace OperatorKind

/-- All operators in declaration order. -/
def all : List OperatorKind :=
  [assign, addAssign, subAssign, mulAssign, divAssign, add, sub, mul, div, rem, negate,
    preIncrement, preDecrement, equal, notEqual, less, lessEqual, greater, greaterEqual,
    logicalAnd, logicalOr, logicalNot, subscript, call]

/-- Number of operands, the implicit object of members included. The call operator takes any
number. -/
def arity : OperatorKind → Option Nat
  | negate | preIncrement | preDecrement | logicalNot => some 1
  | call => none
  | _ => some 2

/-- Whether the operator may be declared as a member only. -/
def isMemberOnly : OperatorKind → Bool
  | assign | addAssign | subAssign | mulAssign | divAssign | subscript | call => true
  | _ => false

def symbol : OperatorKind → String
  | assign => "="
  | addAssign => "+="
  | subAssign => "-="
  | mulAssign => "*="
  | divAssign => "/="
  | add => "+"
  | sub => "-"
  | mul => "*"
  | div => "/"
  | rem => "%"
  | negate => "-"
  | preIncrement => "++"
  | preDecrement => "--"
  | equal => "=="
  | notEqual => "!="
  | less => "<"
  | lessEqual => "<="
  | greater => ">"
  | greaterEqual => ">="
  | logicalAnd => "&&"
  | logicalOr => "||"
  | logicalNot => "!"
  | subscript => "[]"
  | call => "()"

/-- Name of the operation, as reports show it. -/
def name : OperatorKind → String
  | assign => "Assign"
  | addAssign => "AddAssign"
  | subAssign => "SubAssign"
  | mulAssign => "MulAssign"
  | divAssign => "DivAssign"
  | add => "Add"
  | sub => "Sub"
  | mul => "Mul"
  | div => "Div"
  | rem => "Rem"
  | negate => "Negate"
  | preIncrement => "PreIncrement"
  | preDecrement => "PreDecrement"
  | equal => "Equal"
  | notEqual => "NotEqual"
  | less => "Less"
  | lessEqual => "LessEqual"
  | greater => "Greater"
  | greaterEqual => "GreaterEqual"
  | logicalAnd => "LogicalAnd"
  | logicalOr => "LogicalOr"
  | logicalNot => "LogicalNot"
  | subscript => "Subscript"
  | call => "Call"

/-- The operator of this name. -/
def ofName? (name : String) : Option OperatorKind :=
  all.find? fun op => op.name == name

/-- The name of the function that implements the operator. -/
def text (op : OperatorKind) : String := "operator" ++ op.symbol

instance : ToString OperatorKind := ⟨text⟩

end OperatorKind

end ScriptSemantics
