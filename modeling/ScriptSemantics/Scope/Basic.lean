import ScriptSemantics.Diagnostic
import ScriptSemantics.Path
import ScriptSemantics.Table

/-!
# Scopes

A scope is the chain of levels a name is looked up from, innermost first. Nested blocks are levels
of their own; the slots of local variables keep counting across the nested blocks of one function
body, and start over inside a lambda.
-/

namespace ScriptSemantics

/-! ## Local variables -/

/-- A declared local variable. -/
structure LocalVariable where
  dataType : DataType
  /-- Position among the live variables of the function body. -/
  slot : Nat
deriving DecidableEq, Inhabited, Repr

/-- The variables declared directly in one block. -/
structure Block where
  locals : Table String LocalVariable := {}
  /-- Slot of the next variable. -/
  nextSlot : Nat := 0
deriving DecidableEq, Inhabited, Repr

namespace Block

/-- Declare a variable at the next slot. A block declares a name once. -/
def declare (block : Block) (name : String) (dataType : DataType) :
    Except SemanticError (Nat × Block) :=
  if block.locals.contains name then .error (.variableRedeclaration name)
  else .ok (block.nextSlot,
    { locals := block.locals.insert name { dataType, slot := block.nextSlot }
      nextSlot := block.nextSlot + 1 })

end Block

/-! ## Levels -/

/-- One level of a scope. -/
inductive ScopeLevel where
  /-- A namespace by full path; the root has the empty path. -/
  | space (path : String)
  /-- A class body or method, where members are visible. -/
  | classBody (hash : TypeHash)
  /-- Variables of a function body. -/
  | block (block : Block)
  /-- A lambda, whose captures are visible. -/
  | lambda (closure : TypeHash)
  /-- Template parameter names bound to arguments. -/
  | templateArguments (bindings : List (String × TemplateArgument))
deriving DecidableEq, Inhabited, Repr

/-- A chain of levels, innermost first. -/
structure Scope where
  levels : List ScopeLevel
deriving DecidableEq, Inhabited, Repr

namespace Scope

/-- The root namespace only. -/
def global : Scope := ⟨[.space ""]⟩

def enter (scope : Scope) (level : ScopeLevel) : Scope := ⟨level :: scope.levels⟩

/-- The root namespace and every namespace down to a path. -/
def inNamespace (path : String) : Scope :=
  (Path.enclosingFrom "" (Path.segments path)).foldl (fun scope p => scope.enter (.space p)) global

/-- The next slot of the innermost block of the current function body. -/
def nextSlot : List ScopeLevel → Nat
  | [] => 0
  | .block block :: _ => block.nextSlot
  | .lambda _ :: _ => 0
  | _ :: levels => nextSlot levels

/-- Open a block whose slots continue those of the enclosing blocks of the function body. -/
def enterBlock (scope : Scope) : Scope :=
  scope.enter (.block { nextSlot := nextSlot scope.levels })

/-- Leave the innermost level. -/
def leave (scope : Scope) : Option ScopeLevel × Scope :=
  (scope.levels.head?, ⟨scope.levels.tail⟩)

/-- Namespace paths, innermost first. -/
def namespaces (scope : Scope) : List String :=
  scope.levels.filterMap fun
    | .space path => some path
    | _ => none

def currentNamespace (scope : Scope) : String := scope.namespaces.head?.getD ""

def enclosingClass? (scope : Scope) : Option TypeHash :=
  scope.levels.findSome? fun
    | .classBody hash => some hash
    | _ => none

/-- Declare a variable in the innermost block of some levels. -/
def declareIn (name : String) (dataType : DataType) :
    List ScopeLevel → Option (Except SemanticError (Nat × List ScopeLevel))
  | [] => none
  | .block block :: levels =>
    some ((block.declare name dataType).map fun (slot, block) => (slot, .block block :: levels))
  | level :: levels =>
    (declareIn name dataType levels).map fun declared =>
      declared.map fun (slot, levels) => (slot, level :: levels)

/-- Declare a variable in the innermost block and return its slot; nothing if there is no block. -/
def declare (scope : Scope) (name : String) (dataType : DataType) :
    Option (Except SemanticError (Nat × Scope)) :=
  (declareIn name dataType scope.levels).map fun declared =>
    declared.map fun (slot, levels) => (slot, ⟨levels⟩)

end Scope

end ScriptSemantics
