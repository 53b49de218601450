import ScriptSemantics.Lookup.Result
import ScriptSemantics.Overload.Resolution
import ScriptSemantics.Report.Error

/-!
# Reports on conversions, initializations, calls and names

What analysis found out, step by step: ranks and steps of conversions, the tree of an
initialization, the verdict on every candidate of a call, and what a name refers to.
-/

namespace ScriptSemantics

/-! ## Classes -/

/-- What the registry knows about a class: its chain, its registered members, how it is made. -/
def Registry.classReport (r : Registry) (hash : TypeHash) : Report :=
  let hashes (functions : List FunctionDecl) : Report := .of (functions.map FunctionDecl.hash)
  .record
    [("chain", .of (r.baseChain hash)), ("constructors", hashes (r.constructors hash)),
      ("casts", hashes (r.casts hash)), ("methods", hashes (r.methods hash)),
      ("copy_constructor", .of ((r.copyConstructor? hash).map FunctionDecl.hash)),
      ("copyable", .of (r.isCopyConstructible hash)),
      ("default", .of (r.isDefaultConstructible hash)), ("list", .of (r.isListType hash)),
      ("element", .of (r.listElementOf? hash))]

/-! ## Conversions -/

def ConversionRank.name : ConversionRank → String
  | exactMatch => "ExactMatch"
  | promotion => "Promotion"
  | conversion => "Conversion"
  | userDefined => "UserDefinedConversion"
  | notConvertible => "NotConvertible"

instance : Reportable ConversionRank := ⟨fun rank => .text rank.name⟩

def NumericStep.promotionName : NumericStep → String
  | promotion .integral => "Integral"
  | promotion .floatingPoint => "FloatingPoint"
  | exact | conversion _ => "None"

def NumericStep.conversionName : NumericStep → String
  | conversion .integral => "Integral"
  | conversion .floatingPoint => "FloatingPoint"
  | conversion .boolean => "Boolean"
  | exact | promotion _ => "None"

def Binding.name : Binding → String
  | reference => "Reference"
  | copy => "Copy"
  | copyRef => "CopyRef"

/-- Rank, promotion, numeric conversion, qualification, inheritance depth and binding, and then the
flags: convertible, binds a reference, narrowing. -/
instance : Reportable StandardConversion where
  report c :=
    let step := c.step?.getD {}
    .list [.of c.rank, .of step.numeric.promotionName, .of step.numeric.conversionName,
      .of (if step.addsConst then "AddConst" else "None"), .of step.depth,
      .of (c.step?.elim "NotConvertible" fun s => s.binding.name),
      .of c.isConvertible, .of c.isReferenceBinding, .of c.isNarrowing]

instance : Reportable Conversion where
  report c := .record
    [("rank", .of c.rank), ("first", .of c.first), ("function", .of c.function?),
      ("second", .of c.second), ("source", .of c.source), ("destination", .of c.dest),
      ("user", .of c.isUserDefined), ("valid", .of c.isValid), ("narrowing", .of c.isNarrowing),
      ("binds", .of c.isReferenceBinding)]

/-- How each item compares with each, one row of signs for an item. -/
def comparisonTable {α : Type} (compare : α → α → Ordering) (items : List α) : List String :=
  items.map fun a => String.ofList (items.map fun b =>
    match compare a b with
    | .lt => '<'
    | .eq => '='
    | .gt => '>')

/-! ## Initializations -/

def InitCategory.name : InitCategory → String
  | invalid => "Invalid"
  | default => "Default"
  | direct => "Direct"
  | copy => "Copy"
  | reference => "Reference"
  | list => "List"
  | aggregate => "Aggregate"

def ConstructionForm.name : ConstructionForm → String
  | default => "Default"
  | builtinList => "BuiltinList"
  | listConstructor => "InitializerListConstructor"
  | positional => "PositionalConstructor"
  | aggregate => "Aggregate"

namespace Initialization

/-- What is described of every initialization. -/
def summary (init : Initialization) : List (String × Report) :=
  [("category", .of init.category.name), ("valid", .of init.isValid), ("rank", .of init.rank),
    ("narrowing", .of init.isNarrowing), ("list", .of init.isList)]
    ++ init.invalidity?.toList.map fun failure => ("failure", .of failure)

mutual

/-- The tree of an initialization. -/
def report : Initialization → Report
  | failed failure => .record (summary (failed failure))
  | converted manner conversion =>
    .record (summary (converted manner conversion) ++ [("conversion", .of conversion)])
  | constructed form dest constructor children =>
    .record (summary (constructed form dest constructor children) ++
      [("dest", .of dest), ("form", .of form.name), ("constructor", .of constructor),
        ("children", .list (reports children))])

/-- The trees of some initializations. -/
def reports : List Initialization → List Report
  | [] => []
  | init :: inits => init.report :: reports inits

end

end Initialization

instance : Reportable Initialization := ⟨Initialization.report⟩

/-! ## Overload resolution -/

instance : Reportable Viability where
  report
    | .viable ranks => .record [("viable", .of ranks)]
    | .incorrectParameterCount min max provided => .record [("count", .of [min, max, provided])]
    | .couldNotConvertArgument index failure =>
      .record [("argument", .of index), ("failure", .of failure)]
    | .couldNotConvertObject source dest => .record [("object", .of [source, dest])]
    | .unknownFunction => .text "unknown"

def ResolutionOutcome.failureName? : ResolutionOutcome → Option String
  | succeeded _ => none
  | noViableCandidate => some "NoViableCandidate"
  | ambiguous _ => some "Ambiguous"

def Arguments.name : Arguments → String
  | types _ => "Types"
  | expressions _ => "Expressions"

namespace Resolution

/-- The match, or the error that the call amounts to. -/
def resultReport (resolution : Resolution) : List (String × Report) :=
  match resolution.result with
  | .ok found => [("object", .of found.object), ("initializations", .of found.initializations)]
  | .error e => [("result", .of e)]

end Resolution

instance : Reportable Resolution where
  report resolution :=
    let succeeded := resolution.match?.isSome
    .record
      ([("state", .of (if succeeded then "Succeeded" else "Failed")),
        ("succeeded", .of succeeded), ("failed", .of !succeeded),
        ("selected", .of resolution.selected?), ("candidates", .of resolution.candidates),
        ("tied", .of resolution.tied), ("failure", .of resolution.outcome.failureName?),
        ("kind", .of resolution.arguments.name),
        ("reports", .of (resolution.reports.map fun (hash, verdict) =>
          [Report.of hash, .of verdict.isViable, .of verdict]))]
        ++ resolution.resultReport)

/-! ## Names -/

/-- The kind of a result, and what identifies it. -/
def LookupResult.details : LookupResult → String × List (String × Report)
  | unknown => ("Unknown", [])
  | functionSet functions templates explicit =>
    ("FunctionSet", [("functions", .of functions), ("templates", .of templates),
      ("explicit", .of explicit)])
  | template hash => ("Template", [("template", .of hash)])
  | type _ => ("Type", [])
  | boundValue _ value => ("Variable", [("value", .of value)])
  | dataMember owner index _ => ("DataMember", [("class", .of owner), ("index", .of index)])
  | staticMember owner _ => ("StaticDataMember", [("class", .of owner)])
  | global hash _ => ("Global", [("global", .of hash)])
  | localVariable slot _ => ("Local", [("slot", .of slot)])
  | enumValue _ value => ("EnumValue", [("value", .of value)])
  | space path => ("Namespace", [("path", .of path)])
  | capture closure index _ => ("Capture", [("closure", .of closure), ("index", .of index)])

instance : Reportable LookupResult where
  report result :=
    let (kind, details) := result.details
    .record ([("kind", .of kind)] ++ (result.dataType?.toList.map fun t => ("type", .of t))
      ++ details)

/-! ## Scopes -/

instance : Reportable ScopeLevel where
  report
    | .space path => .record [("namespace", .of path)]
    | .classBody hash => .record [("class", .of hash)]
    | .block _ => .text "block"
    | .lambda closure => .record [("lambda", .of closure)]
    | .templateArguments bindings => .record [("template", .of bindings)]

instance : Reportable Scope where
  report scope := .record
    [("levels", .of scope.levels), ("namespaces", .of scope.namespaces),
      ("current", .of scope.currentNamespace), ("class", .of scope.enclosingClass?)]

end ScriptSemantics
