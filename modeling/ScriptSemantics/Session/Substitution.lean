import ScriptSemantics.Session.Instantiation

/-!
# Substitution

Replacing the placeholders of a template by concrete arguments. The qualifiers written in a
pattern are added to the argument: with `T = int`, `const T&` becomes `const int&`. A dependent
template-id becomes an instance of its class template, and a function type is interned anew with
its components substituted.
-/

namespace ScriptSemantics

/-- The argument of each placeholder. -/
abbrev Substitution := Table TypeHash TemplateArgument

/-- The substitution of an argument list for parameters. -/
def Substitution.ofArguments (params : List TemplateParameter)
    (arguments : List TemplateArgument) : Substitution :=
  (params.zip arguments).foldl (fun map (param, argument) => map.insert param.typeHash argument) {}

namespace Substitution

variable (map : Substitution)

/-- Apply an action to each of some values, in order. -/
def each {α β : Type} (action : α → InstantiationM β) : List α → InstantiationM (List β)
  | [] => return []
  | a :: as => do
    let b ← action a
    let bs ← each action as
    return b :: bs

/-- A value was given where a type is needed. The failure names the parameter it belongs to. -/
def valueAsType (t : DataType) (value : TemplateArgument) : InstantiationM DataType := do
  let (template, index) :=
    match ((← get).registry.type? t.typeHash).bind TypeDecl.placeholder? with
    | some p => (p.owner, p.index)
    | none => (t.typeHash, 0)
  throw (.invalidArgument template index
    ("value " ++ quoted value.text ++ " used where a type is required"))

/-- Substitute inside an argument by a rule for types. A placeholder of a value parameter becomes
that value. -/
def argumentBy (rule : DataType → InstantiationM DataType) :
    TemplateArgument → InstantiationM TemplateArgument
  | .type t =>
    match map.get? t.typeHash with
    | some (.bool value) => return .bool value
    | some (.integer value) => return .integer value
    | _ => return .type (← rule t)
  | value => return value

/-- Substitute in a type, down to some levels of nesting. -/
def typeWithin : (levels : Nat) → DataType → InstantiationM DataType
  | 0, t => throw (.invalidArgument t.typeHash 0 "types are nested without end")
  | levels + 1, t => do
    match map.get? t.typeHash with
    | some (.type concrete) => return concrete.add t.qualifiers
    | some value => valueAsType t value
    | none =>
      match (← get).registry.type? t.typeHash with
      | some (.pattern p) =>
        let arguments ← each (argumentBy map (typeWithin levels)) p.arguments
        let hash ← instantiateClass p.template arguments
        return ⟨hash, t.qualifiers⟩
      | some (.functionType f) =>
        let returnType ← typeWithin levels f.returnType
        let params ← each (typeWithin levels) f.params
        let decl := FunctionType.of returnType params
        modify fun s => { s with registry := s.registry.intern (.functionType decl) }
        return ⟨decl.hash, t.qualifiers⟩
      | _ => return t

/-- Substitute every placeholder in a type. A type that is met again inside itself reads differently
only if something was registered in between, so the number of identities is ample for every
substitution that ends. -/
def type (t : DataType) : InstantiationM DataType := typeWithin map TypeHash.count t

/-- Substitute inside an argument. -/
def argument (a : TemplateArgument) : InstantiationM TemplateArgument :=
  argumentBy map (type map) a

/-- Substitute in parameter types. -/
def params (ps : List Param) : InstantiationM (List Param) :=
  each (fun p => do return { p with dataType := ← type map p.dataType }) ps

end Substitution

end ScriptSemantics
