import ScriptSemantics.Registry.Basic
import ScriptSemantics.Report.Basic

/-!
# Reports on declarations

Types and template arguments are described by their text or kind, declarations by records of their
parts. Lists of flags answer the questions that their doc comments name, in that order.
-/

namespace ScriptSemantics

/-! ## Types and arguments -/

instance : Reportable TypeHash := ⟨fun h => .text h.text⟩

instance : Reportable DataType := ⟨fun t => .text t.text⟩

instance : Reportable OperatorKind := ⟨fun op => .text op.name⟩

instance : Reportable TemplateArgument where
  report
    | .type t => .record [("type", .of t)]
    | .bool value => .record [("bool", .of value)]
    | .integer value => .record [("int", .of value)]

/-! ## Functions and variables -/

/-- Name, type and whether there is a default. -/
instance : Reportable Param :=
  ⟨fun p => .list [.of p.name, .of p.dataType, .of p.hasDefault]⟩

instance : Reportable FunctionKind where
  report
    | .regular => .text "Regular"
    | .constructor => .text "Constructor"
    | .destructor => .text "Destructor"
    | .cast => .text "Cast"
    | .operator op => .record [("operator", .of op)]
    | .templateInstance template arguments =>
      .record [("template", .of template), ("args", .of arguments)]

instance : Reportable FunctionBody where
  report
    | .native id => .record [("native", .of id)]
    | .script body => .record [("script", .of body)]
    | .pending => .text "pending"

/-- A function with its flags: takes an implicit object, const, explicit, deleted, constructor,
cast, operator, native, pending. -/
instance : Reportable FunctionDecl where
  report f := .record
    [("hash", .of f.hash), ("name", .of f.name), ("namespace", .of f.path), ("kind", .of f.kind),
      ("params", .of f.params), ("return", .of f.returnType), ("owner", .of f.owner),
      ("traits", .of f.traits.toBits), ("impl", .of f.body),
      ("arity", .of (f.minArgs, f.maxArgs)),
      ("first_param", .of (f.params.head?.map Param.dataType)),
      ("is", .of [f.hasImplicitObject, f.isConst, f.isExplicit, f.isDeleted, f.isConstructor,
        f.isCast, f.operator?.isSome, f.isNative, f.isPending])]

instance : Reportable GlobalKind where
  report
    | .host => .text "Namespace"
    | .script => .text "Script"

/-- Name, namespace, qualified name, identity, type and kind. -/
instance : Reportable GlobalDecl where
  report g := .list [.of g.name, .of g.path, .of g.qualifiedName, .of g.hash, .of g.dataType,
    .of g.kind]

/-! ## Types -/

instance : Reportable TypedName := ⟨fun n => .list [.of n.name, .of n.dataType]⟩

instance : Reportable TemplateParamKind := ⟨fun kind => .text kind.name⟩

/-- Identity, name, owner, position and kind. -/
instance : Reportable Placeholder where
  report p := .list [.of p.hash, .of p.name, .of p.owner, .of p.index, .of p.kind]

instance : Reportable ClassDecl where
  report c := .record
    [("namespace", .of c.path), ("qualified", .of c.qualifiedName), ("base", .of c.base),
      ("constructors", .of c.constructors), ("destructor", .of c.destructor),
      ("casts", .of c.casts), ("methods", .of c.methods), ("nested", .of c.nested),
      ("member_templates", .of c.memberTemplates), ("members", .of c.members),
      ("statics", .of c.statics), ("template", .of c.template), ("args", .of c.templateArgs),
      ("flags", .of c.flags.toBits), ("type", .of c.dataType),
      ("instance", .of c.isTemplateInstance)]

instance : Reportable EnumDecl where
  report e := .record
    [("namespace", .of e.path), ("qualified", .of e.qualifiedName), ("values", .of e.values),
      ("scoped", .of e.isScoped)]

instance : Reportable FunctionType where
  report f := .record [("return", .of f.returnType), ("params", .of f.params)]

/-- The variant of a type, and its parts under the name of the variant. -/
def TypeDecl.variant : TypeDecl → String × String × Report
  | fundamental kind => ("Fundamental", "fundamental", .of kind.keyword)
  | classType c => ("Class", "class", .of c)
  | enumType e => ("Enum", "enum", .of e)
  | functionType f => ("FunctionType", "function_type", .of f)
  | closure c => ("Closure", "closure", .of c.captures)
  | placeholder p => ("TemplateParam", "param", .of p)
  | pattern p => ("Pattern", "pattern", .of (p.template, p.arguments))

/-- A type with its flags: class, enum, atomic value, dependent. -/
instance : Reportable TypeDecl where
  report decl :=
    let (variant, key, parts) := decl.variant
    .record [("entry", .of variant), ("hash", .of decl.hash), ("name", .of decl.name?),
      ("is", .of [decl.class?.isSome, decl.enum?.isSome, decl.isAtomicValue, decl.isDependent]),
      (key, parts)]

/-! ## Templates -/

instance : Reportable TemplateDefault where
  report
    | .value argument => .of argument
    | .named name => .record [("named", .of name)]

/-- Name, kind, placeholder identity, placeholder type and default. -/
instance : Reportable TemplateParameter where
  report p := .list [.of p.name, .of p.kind, .of p.typeHash, .of p.placeholder, .of p.default?]

/-- A function template; the indices are those of its own parameters. -/
instance : Reportable FunctionTemplate where
  report t := .record
    [("name", .of t.name), ("namespace", .of t.path), ("qualified", .of t.qualifiedName),
      ("hash", .of t.hash), ("owner", .of t.owner), ("params", .of t.params),
      ("signature", .of t.signature), ("return", .of t.returnType),
      ("placeholders", .of t.placeholders),
      ("indices", .of (t.params.map fun p => t.paramIndex? p.typeHash))]

instance : Reportable ClassTemplate where
  report t := .record
    [("name", .of t.name), ("namespace", .of t.path), ("qualified", .of t.qualifiedName),
      ("hash", .of t.hash), ("params", .of t.params), ("placeholders", .of t.placeholders)]

/-! ## Namespaces -/

instance {α : Type} [Reportable α] : Reportable (Table String α) :=
  ⟨fun table => .record (table.entries.map fun (key, value) => (key, .of value))⟩

/-- Operators in their fixed order. -/
def NamespaceNames.operatorList (names : NamespaceNames) : List (OperatorKind × List TypeHash) :=
  OperatorKind.all.filterMap fun op => (names.operators.get? op).map fun hashes => (op, hashes)

/-- A namespace with its surroundings and the names declared in it. -/
def NamespaceTree.report (tree : NamespaceTree) (node : Nat) : Report :=
  let names := (tree.names? node).getD {}
  .record
    [("path", .of (tree.pathOf node)), ("parent", .of ((tree.parent? node).map tree.pathOf)),
      ("ancestors", .of ((tree.ancestors node).map tree.pathOf)),
      ("imports", .of ((tree.imports node).map tree.pathOf)), ("types", .of names.types),
      ("functions", .of names.functions), ("function_templates", .of names.functionTemplates),
      ("class_templates", .of names.classTemplates), ("globals", .of names.globals),
      ("enum_values", .of names.enumValues), ("operators", .of names.operatorList)]

end ScriptSemantics
