import ScriptSemantics.DataType
import ScriptSemantics.Path

/-!
# Namespace variables
-/

namespace ScriptSemantics

/-- Who declared a variable. -/
inductive GlobalKind where
  /-- A namespace variable of the host. -/
  | host
  /-- A global declared in script source. -/
  | script
deriving DecidableEq, Inhabited, Repr

/-- A variable at namespace scope. -/
structure GlobalDecl where
  name : String
  /-- Path of the namespace it was declared in. -/
  path : String := ""
  qualifiedName : String
  hash : TypeHash
  dataType : DataType
  kind : GlobalKind := .host
deriving DecidableEq, Inhabited, Repr

/-- A variable identified by its qualified name. -/
def GlobalDecl.declare (path name : String) (dataType : DataType) (kind : GlobalKind) :
    GlobalDecl where
  name := name
  path := path
  qualifiedName := Path.qualify path name
  hash := .ofName ("$global:" ++ Path.qualify path name)
  dataType := dataType
  kind := kind

end ScriptSemantics
