import ScriptSemantics.DataType

/-!
# Compiled expressions

Semantic analysis sees of an argument only its type and whether it is a brace list.
-/

namespace ScriptSemantics

/-- A compiled expression. -/
inductive Expression where
  | literal (type : DataType)
  /-- A named value: local, global or member. -/
  | named (type : DataType)
  | call (function : TypeHash) (type : DataType)
  | lambda (closure : TypeHash)
  /-- A brace list `{1, 2, 3}`. -/
  | list (elements : List Expression)
deriving Inhabited, Repr

namespace Expression

/-- Type of the value. A brace list has the reserved list type until it meets a destination. -/
def dataType : Expression → DataType
  | literal t | named t | call _ t => t
  | lambda closure => .simple closure
  | list _ => .simple .initializerList

/-- The elements of a brace list. -/
def elements? : Expression → Option (List Expression)
  | list elements => some elements
  | _ => none

end Expression

end ScriptSemantics
