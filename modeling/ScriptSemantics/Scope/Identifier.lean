import ScriptSemantics.Operator
import ScriptSemantics.Path
import ScriptSemantics.TemplateArgument

/-!
# Identifiers

Names as they are written in source: simple names, operator names, template-ids, and names
qualified by another name.
-/

namespace ScriptSemantics

/-- A possibly qualified name. -/
inductive Identifier where
  | simple (name : String)
  /-- The name of an operator function. -/
  | operator (op : OperatorKind)
  /-- A name looked up inside another one. -/
  | qualified (qualifier member : Identifier)
  /-- A template name with arguments. -/
  | template (name : String) (arguments : List TemplateArgument)
deriving DecidableEq, Inhabited, Repr

namespace Identifier

/-- Qualify the identifier by names, to the left. -/
def ofNames (first : Identifier) (names : List String) : Identifier :=
  names.foldl (fun qualifier name => qualified qualifier (simple name)) first

/-- Drop one leading separator. -/
def dropLeadingSeparator (path : String) : String :=
  match path.toList with
  | ':' :: ':' :: rest => String.ofList rest
  | _ => path

/-- Read `a::b::c` as names nested to the left. One leading `::` is ignored; an empty path or an
empty segment is no path. -/
def parsePath? (path : String) : Option Identifier :=
  match Path.split (dropLeadingSeparator path) with
  | [] => none
  | first :: rest =>
    if (first :: rest).all fun name => !name.isEmpty then some (ofNames (simple first) rest)
    else none

/-- The final unqualified name. Operators have none. -/
def name? : Identifier → Option String
  | simple name | template name _ => some name
  | operator _ => none
  | qualified _ member => member.name?

def text : Identifier → String
  | simple name => name
  | operator op => op.text
  | qualified qualifier member => qualifier.text ++ "::" ++ member.text
  | template name arguments => templateIdText name arguments

instance : ToString Identifier := ⟨text⟩

end Identifier

end ScriptSemantics
