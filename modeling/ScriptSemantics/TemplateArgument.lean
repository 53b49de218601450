import ScriptSemantics.DataType

/-!
# Template arguments and parameters

A template argument is a type, a boolean or a 64-bit integer. Argument lists are equal exactly
when they agree position by position in tag and value, which makes them keys of instances.
-/

namespace ScriptSemantics

/-- What a template parameter accepts. -/
inductive TemplateParamKind where
  | type
  | bool
  | integer
deriving DecidableEq, Inhabited, Repr

/-- Name of the kind, as messages show it. -/
def TemplateParamKind.name : TemplateParamKind → String
  | type => "Type"
  | bool => "Bool"
  | integer => "Integer"

/-- A concrete template argument. -/
inductive TemplateArgument where
  | type (type : DataType)
  | bool (value : Bool)
  | integer (value : Int64)
deriving DecidableEq, Inhabited, Repr

namespace TemplateArgument

/-- The argument that is an unqualified type. -/
def ofHash (hash : TypeHash) : TemplateArgument := type (.simple hash)

def kind : TemplateArgument → TemplateParamKind
  | type _ => .type
  | bool _ => .bool
  | integer _ => .integer

def type? : TemplateArgument → Option DataType
  | type t => some t
  | _ => none

/-- Identity of the argument as a component of an instance. -/
def identity : TemplateArgument → TypeHash
  | type t => t.identity
  | bool value => ⟨TypeHash.boolMark ^^^ (if value then 1 else 0)⟩
  | integer value => ⟨TypeHash.integerMark ^^^ rotateLeft value.toUInt64 7⟩

def text : TemplateArgument → String
  | type t => t.text
  | bool true => "true"
  | bool false => "false"
  | integer value => toString value.toInt

instance : ToString TemplateArgument := ⟨text⟩

end TemplateArgument

/-- Identity of the instance of `template` for an argument list. -/
def TypeHash.ofTemplateInstance (template : TypeHash) (arguments : List TemplateArgument) :
    TypeHash :=
  ofInstance template (arguments.map TemplateArgument.identity)

/-- A template name with its arguments, as in `Pair<int, 2>`. -/
def templateIdText (name : String) (arguments : List TemplateArgument) : String :=
  name ++ "<" ++ ", ".intercalate (arguments.map TemplateArgument.text) ++ ">"

/-- Default of a template parameter: a value, or a name resolved where the template is declared. -/
inductive TemplateDefault where
  | value (argument : TemplateArgument)
  | named (name : String)
deriving DecidableEq, Inhabited, Repr

/-- A declared template parameter. -/
structure TemplateParameter where
  name : String
  kind : TemplateParamKind
  /-- Identity of the placeholder type that stands for the parameter. -/
  typeHash : TypeHash
  default? : Option TemplateDefault := none
deriving DecidableEq, Inhabited, Repr

namespace TemplateParameter

/-- The parameter of `owner` at position `index`, without a default. -/
def declare (owner : TypeHash) (index : Nat) (name : String) (kind : TemplateParamKind) :
    TemplateParameter where
  name := name
  kind := kind
  typeHash := .ofTemplateParam owner index

/-- The placeholder as it is written in signatures. -/
def placeholder (param : TemplateParameter) : DataType := .simple param.typeHash

end TemplateParameter

end ScriptSemantics
