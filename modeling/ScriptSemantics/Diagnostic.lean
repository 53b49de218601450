import ScriptSemantics.TemplateArgument

/-!
# Diagnostics

The causes for which registration and analysis fail, and their wording. Analysis returns failures
as values; a `SemanticError` is what such a value becomes when a caller gives up on it.
-/

namespace ScriptSemantics

/-- Why a declaration could not be entered into the registry. -/
inductive RegistrationError where
  | duplicateType (name : String)
  | duplicateFunction (name : String)
  | duplicateTemplate (name : String)
  | duplicateGlobal (name : String)
  | unknownType (hash : TypeHash)
  | invalidOwner (name : String) (owner : TypeHash)
  | invalidNamespace (path : String)
deriving DecidableEq, Inhabited, Repr

/-- A text between single quotes. -/
def quoted (text : String) : String := "'" ++ text ++ "'"

namespace RegistrationError

def message : RegistrationError → String
  | duplicateType name => "type " ++ quoted name ++ " is already registered"
  | duplicateFunction name =>
    "function " ++ quoted name ++ " is already registered with the same signature"
  | duplicateTemplate name => "template " ++ quoted name ++ " is already registered"
  | duplicateGlobal name => "variable " ++ quoted name ++ " is already registered"
  | unknownType hash => "unknown type " ++ hash.text
  | invalidOwner name owner =>
    quoted name ++ " names an owner " ++ owner.text ++ " that is not a registered class"
  | invalidNamespace path => "invalid namespace path " ++ quoted path

end RegistrationError

/-- Why a program is rejected. -/
inductive SemanticError where
  | notConvertible (source dest : DataType)
  | ambiguousConversion (source dest : DataType) (candidates : List TypeHash)
  | narrowingConversionRejected (source dest : DataType)
  | noViableCandidate (candidates : List TypeHash) (arguments : List DataType)
  | ambiguousOverload (candidates : List TypeHash) (arguments : List DataType)
  | invalidTemplateArgument (template : TypeHash) (index : Nat) (reason : String)
  | templateDeductionConflict (template : TypeHash) (index : Nat)
      (first second : TemplateArgument)
  | missingNonDefaultedTemplateParameter (template : TypeHash) (index : Nat) (name : String)
  | recursiveInstantiation (template : TypeHash) (arguments : List TemplateArgument)
  | instantiationFailed (template : TypeHash) (reason : String)
  | unknownIdentifier (name : String)
  | notCallable (name : String)
  | variableRedeclaration (name : String)
deriving DecidableEq, Inhabited, Repr

namespace SemanticError

def message : SemanticError → String
  | notConvertible source dest =>
    "cannot convert from " ++ quoted source.text ++ " to " ++ quoted dest.text
  | ambiguousConversion source dest candidates =>
    "conversion from " ++ quoted source.text ++ " to " ++ quoted dest.text
      ++ " is ambiguous between " ++ toString candidates.length ++ " candidates"
  | narrowingConversionRejected source dest =>
    "narrowing conversion from " ++ quoted source.text ++ " to " ++ quoted dest.text
      ++ " in list-initialization"
  | noViableCandidate candidates arguments =>
    "no viable candidate among " ++ toString candidates.length ++ " for arguments "
      ++ listText (arguments.map DataType.text)
  | ambiguousOverload candidates _ =>
    "call is ambiguous between " ++ toString candidates.length ++ " candidates"
  | invalidTemplateArgument template index reason =>
    "invalid argument for template parameter " ++ toString index ++ " of " ++ template.text
      ++ ": " ++ reason
  | templateDeductionConflict _ index first second =>
    "conflicting deductions for template parameter " ++ toString index ++ ": "
      ++ quoted first.text ++ " and " ++ quoted second.text
  | missingNonDefaultedTemplateParameter _ _ name =>
    "template parameter " ++ quoted name ++ " could not be deduced and has no default"
  | recursiveInstantiation template arguments =>
    "template " ++ template.text ++ " recursively requires its own instantiation with "
      ++ listText (arguments.map TemplateArgument.text)
  | instantiationFailed template reason =>
    "instantiation of template " ++ template.text ++ " failed: " ++ reason
  | unknownIdentifier name => "unknown identifier " ++ quoted name
  | notCallable name => quoted name ++ " does not name a function or a constructible type"
  | variableRedeclaration name =>
    "variable " ++ quoted name ++ " is already declared in this block"

end SemanticError

end ScriptSemantics
