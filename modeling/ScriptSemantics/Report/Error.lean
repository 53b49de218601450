import ScriptSemantics.Initialization.Basic
import ScriptSemantics.Report.Declaration
import ScriptSemantics.Template.Error

/-!
# Reports on errors

An error is described by the name of its cause and its message, by the candidates involved, and by
the semantic error that it amounts to.
-/

namespace ScriptSemantics

/-- A cause with its message. -/
def Report.cause (name message : String) : Report :=
  .record [("error", .of name), ("message", .of message)]

/-! ## Registration -/

def RegistrationError.name : RegistrationError → String
  | duplicateType _ => "DuplicateType"
  | duplicateFunction _ => "DuplicateFunction"
  | duplicateTemplate _ => "DuplicateTemplate"
  | duplicateGlobal _ => "DuplicateGlobal"
  | unknownType _ => "UnknownType"
  | invalidOwner _ _ => "InvalidOwner"
  | invalidNamespace _ => "InvalidNamespace"

instance : Reportable RegistrationError := ⟨fun e => .cause e.name e.message⟩

/-! ## Analysis -/

def SemanticError.name : SemanticError → String
  | notConvertible .. => "NotConvertible"
  | ambiguousConversion .. => "AmbiguousConversion"
  | narrowingConversionRejected .. => "NarrowingConversionRejected"
  | noViableCandidate .. => "NoViableCandidate"
  | ambiguousOverload .. => "AmbiguousOverload"
  | invalidTemplateArgument .. => "InvalidTemplateArgument"
  | templateDeductionConflict .. => "TemplateDeductionConflict"
  | missingNonDefaultedTemplateParameter .. => "MissingNonDefaultedTemplateParameter"
  | recursiveInstantiation .. => "RecursiveInstantiation"
  | instantiationFailed .. => "InstantiationFailed"
  | unknownIdentifier _ => "UnknownIdentifier"
  | notCallable _ => "NotCallable"
  | variableRedeclaration _ => "VariableRedeclaration"

/-- The candidates and, for an ambiguous call, its arguments. -/
def SemanticError.involved : SemanticError → List (String × Report)
  | ambiguousConversion _ _ candidates | noViableCandidate candidates _ =>
    [("candidates", .of candidates)]
  | ambiguousOverload candidates arguments =>
    [("candidates", .of candidates), ("arguments", .of arguments)]
  | _ => []

instance : Reportable SemanticError where
  report e := (Report.cause e.name e.message).extend e.involved

/-! ## Conversion and initialization -/

instance : Reportable ConversionError where
  report e :=
    let semantic := ("semantic", Report.of e.toSemantic)
    match e with
    | .notConvertible _ _ => (Report.cause "NotConvertible" e.message).extend [semantic]
    | .ambiguous _ _ candidates =>
      (Report.cause "Ambiguous" e.message).extend [("candidates", .of candidates), semantic]

def InitFailure.name : InitFailure → String
  | notConvertible .. => "NotConvertible"
  | ambiguousConversion .. => "AmbiguousConversion"
  | narrowing .. => "Narrowing"
  | listNotAllowed _ => "ListNotAllowed"
  | noMatchingConstructor .. => "NoMatchingConstructor"
  | notDefaultConstructible _ => "NotDefaultConstructible"
  | element .. => "Element"

/-- The candidates of an ambiguous conversion. -/
def InitFailure.involved : InitFailure → List (String × Report)
  | ambiguousConversion _ _ candidates => [("candidates", .of candidates)]
  | _ => []

instance : Reportable InitFailure where
  report e :=
    (Report.cause e.name e.message).extend (e.involved ++ [("semantic", .of e.toSemantic)])

/-! ## Templates -/

def TemplateError.name : TemplateError → String
  | unknownTemplate _ => "UnknownTemplate"
  | deductionMismatch .. => "DeductionMismatch"
  | deductionConflict .. => "DeductionConflict"
  | missingNonDefaultedParameter .. => "MissingNonDefaultedParameter"
  | invalidArgument .. => "InvalidArgument"
  | tooManyArguments .. => "TooManyArguments"
  | recursiveInstantiation .. => "RecursiveInstantiation"
  | depthLimitExceeded .. => "DepthLimitExceeded"
  | instantiationFailed .. => "InstantiationFailed"
  | noBodyCompiler _ => "NoBodyCompiler"
  | registration .. => "Registration"

instance : Reportable TemplateError where
  report e := (Report.cause e.name e.message).extend
    [("soft", .of e.isDeductionFailure), ("template", .of e.template),
      ("semantic", .of e.toSemantic)]

end ScriptSemantics
