import ScriptSemantics.Diagnostic

/-!
# Template failures

Why deducing, completing or instantiating a template fails. Failures before a body is compiled are
soft: they only remove a template from the candidates of a call.
-/

namespace ScriptSemantics

/-- Why a template could not be instantiated. -/
inductive TemplateError where
  | unknownTemplate (template : TypeHash)
  | deductionMismatch (template : TypeHash) (argument : Nat) (pattern found : DataType)
  | deductionConflict (template : TypeHash) (index : Nat) (first second : TemplateArgument)
  | missingNonDefaultedParameter (template : TypeHash) (index : Nat) (name : String)
  | invalidArgument (template : TypeHash) (index : Nat) (reason : String)
  | tooManyArguments (template : TypeHash) (expected provided : Nat)
  | recursiveInstantiation (template : TypeHash) (arguments : List TemplateArgument)
  | depthLimitExceeded (template : TypeHash) (limit : Nat)
  | instantiationFailed (template : TypeHash) (reason : String)
  | noBodyCompiler (template : TypeHash)
  | registration (template : TypeHash) (cause : RegistrationError)
deriving DecidableEq, Inhabited, Repr

namespace TemplateError

/-- Whether the failure only removes the template from a candidate set. -/
def isDeductionFailure : TemplateError → Bool
  | deductionMismatch .. | deductionConflict .. | missingNonDefaultedParameter ..
  | invalidArgument .. | tooManyArguments .. => true
  | _ => false

/-- The template that failed. -/
def template : TemplateError → TypeHash
  | unknownTemplate t | deductionMismatch t _ _ _ | deductionConflict t _ _ _
  | missingNonDefaultedParameter t _ _ | invalidArgument t _ _ | tooManyArguments t _ _
  | recursiveInstantiation t _ | depthLimitExceeded t _ | instantiationFailed t _
  | noBodyCompiler t | registration t _ => t

def message : TemplateError → String
  | unknownTemplate t => "unknown template " ++ t.text
  | deductionMismatch _ argument pattern found =>
    "argument " ++ toString argument ++ " of type " ++ quoted found.text
      ++ " does not match the pattern " ++ quoted pattern.text
  | deductionConflict _ index first second =>
    "conflicting deductions for template parameter " ++ toString index ++ ": "
      ++ quoted first.text ++ " and " ++ quoted second.text
  | missingNonDefaultedParameter _ _ name =>
    "template parameter " ++ quoted name ++ " could not be deduced and has no default"
  | invalidArgument _ index reason =>
    "invalid argument for template parameter " ++ toString index ++ ": " ++ reason
  | tooManyArguments _ expected provided =>
    "template takes " ++ toString expected ++ " arguments but " ++ toString provided
      ++ " were given"
  | recursiveInstantiation t arguments =>
    "template " ++ t.text ++ " recursively requires its own instantiation with "
      ++ listText (arguments.map TemplateArgument.text)
  | depthLimitExceeded t limit =>
    "instantiation depth limit of " ++ toString limit ++ " reached while instantiating " ++ t.text
  | instantiationFailed t reason => "instantiation of template " ++ t.text ++ " failed: " ++ reason
  | noBodyCompiler t => "no body compiler is installed for script template " ++ t.text
  | registration t cause =>
    "registering an instance of " ++ t.text ++ " failed: " ++ cause.message

/-- The error that a hard template failure amounts to. -/
def toSemantic (e : TemplateError) : SemanticError :=
  match e with
  | deductionMismatch t argument _ _ => .invalidTemplateArgument t argument e.message
  | invalidArgument t index _ => .invalidTemplateArgument t index e.message
  | tooManyArguments t expected _ => .invalidTemplateArgument t expected e.message
  | deductionConflict t index first second => .templateDeductionConflict t index first second
  | missingNonDefaultedParameter t index name =>
    .missingNonDefaultedTemplateParameter t index name
  | recursiveInstantiation t arguments => .recursiveInstantiation t arguments
  | unknownTemplate t => .unknownIdentifier t.text
  | depthLimitExceeded t _ | instantiationFailed t _ | noBodyCompiler t | registration t _ =>
    .instantiationFailed t e.message

end TemplateError

end ScriptSemantics
