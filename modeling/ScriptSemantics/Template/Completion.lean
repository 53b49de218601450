import ScriptSemantics.Template.Deduction

/-!
# Completing argument lists

An argument list is completed parameter by parameter: explicit arguments first, then deductions,
then defaults. A named default means an earlier parameter of the template, else a fundamental type,
else a type seen from the namespace in which the template was declared.
-/

namespace ScriptSemantics

namespace Registry

/-- The type of this name declared directly in a namespace. -/
def typeIn? (r : Registry) (node : Nat) (name : String) : Option TypeHash :=
  (r.namespaces.names? node).bind fun names => names.types.get? name

/-- A type by name as seen from a namespace. Qualified names are looked up from the root; simple
names in the namespace and then in those around it. -/
def findType? (r : Registry) (space name : String) : Option TypeHash :=
  match Path.splitLast? name with
  | some (path, simple) => (r.namespaces.getPath? path).bind fun node => r.typeIn? node simple
  | none =>
    let start := (r.namespaces.getPath? space).getD NamespaceTree.root
    (r.namespaces.ancestors start).findSome? fun node => r.typeIn? node name

end Registry

/-- What argument completion works with: the declarations, the template and where it was
declared. -/
structure CompletionContext where
  registry : Registry
  template : TypeHash
  path : String := ""

namespace CompletionContext

variable (ctx : CompletionContext)

/-- The value of a default at position `index`. The parameters before it are bound already. -/
def resolveDefault (bound : List (TemplateParameter × TemplateArgument)) (index : Nat) :
    TemplateDefault → Except TemplateError TemplateArgument
  | .value argument => .ok argument
  | .named name =>
    match bound.find? fun (param, _) => param.name == name with
    | some (_, value) => .ok value
    | none =>
      match FundamentalKind.ofKeyword? name with
      | some kind => .ok (.ofHash kind.hash)
      | none =>
        match ctx.registry.findType? ctx.path name with
        | some hash => .ok (.ofHash hash)
        | none => .error (.invalidArgument ctx.template index
            ("default " ++ quoted name ++ " does not name a type"))

/-- The value of one parameter: explicit, deduced or by default. -/
def valueFor (explicit : List TemplateArgument) (deductions : List Deduction)
    (bound : List (TemplateParameter × TemplateArgument)) (index : Nat)
    (param : TemplateParameter) : Except TemplateError TemplateArgument :=
  match explicit[index]? with
  | some value => .ok value
  | none =>
    match deductions.find? fun d => d.index == index with
    | some deduced => .ok deduced.value
    | none =>
      match param.default? with
      | some default => ctx.resolveDefault bound index default
      | none => .error (.missingNonDefaultedParameter ctx.template index param.name)

/-- Complete the parameters that are left, with those in front of them bound. -/
def completeFrom (explicit : List TemplateArgument) (deductions : List Deduction) :
    (bound : List (TemplateParameter × TemplateArgument)) → List TemplateParameter →
      Except TemplateError (List TemplateArgument)
  | bound, [] => .ok (bound.map Prod.snd)
  | bound, param :: params =>
    let index := bound.length
    match ctx.valueFor explicit deductions bound index param with
    | .error e => .error e
    | .ok value =>
      if value.kind = param.kind then
        completeFrom explicit deductions (bound ++ [(param, value)]) params
      else .error (.invalidArgument ctx.template index
        (quoted value.text ++ " is not a valid " ++ param.kind.name ++ " argument for "
          ++ quoted param.name))

/-- Refuse more explicit arguments than there are parameters. -/
def checkCount (params : List TemplateParameter) (explicit : List TemplateArgument) :
    Except TemplateError Unit :=
  if params.length < explicit.length then
    .error (.tooManyArguments ctx.template params.length explicit.length)
  else .ok ()

/-- The full argument list of a template. -/
def complete (params : List TemplateParameter) (explicit : List TemplateArgument)
    (deductions : List Deduction) : Except TemplateError (List TemplateArgument) := do
  ctx.checkCount params explicit
  ctx.completeFrom explicit deductions [] params

end CompletionContext

end ScriptSemantics
