import ScriptSemantics.Registry.Basic
import ScriptSemantics.Template.Error

/-!
# Template argument deduction

Each argument type of a call is matched against its parameter pattern:

- a bare placeholder (`T`, `const T&`) binds the argument's base type;
- a dependent template-id (`List<T>`) matches instances of the same class template and goes on
  inside their arguments, where matching is exact;
- a function type (`void(T)`) matches function types component by component;
- a pattern without placeholders binds nothing and is left to overload resolution.

Bindings for explicitly given parameters are dropped. When all arguments are matched the bindings
are merged: equal ones count once, two different values for one parameter are a conflict.

Patterns and instances nest through the registry, and both may lead back to themselves. Whether a
type mentions a placeholder depends on that type alone, so a search that ends meets no type inside
itself and goes no deeper than there are registered types. A match depends on pattern and argument
together: going round a ring of patterns it may meet each of them once for every argument type, so
it goes no deeper than there are pairs of registered types.
-/

namespace ScriptSemantics

/-- A deduced template argument. -/
structure Deduction where
  index : Nat
  value : TemplateArgument
deriving DecidableEq, Inhabited, Repr

/-- Result of matching: the bindings found up to the first mismatch, and that mismatch. -/
structure MatchResult where
  bindings : List Deduction := []
  failure : Option TemplateError := none
deriving DecidableEq, Inhabited, Repr

namespace MatchResult

/-- A match that binds nothing. -/
def trivial : MatchResult := {}

def bind (binding : Deduction) : MatchResult := { bindings := [binding] }

def fail (e : TemplateError) : MatchResult := { failure := some e }

/-- Go on with a second match unless the first one failed. -/
def andThen (first : MatchResult) (second : Unit → MatchResult) : MatchResult :=
  match first.failure with
  | some _ => first
  | none =>
    let next := second ()
    { bindings := first.bindings ++ next.bindings, failure := next.failure }

end MatchResult

/-- What deduction works with: the declarations, the template, and the number of parameters that
were given explicitly. -/
structure DeductionContext where
  registry : Registry
  template : TypeHash
  explicit : Nat := 0

namespace DeductionContext

variable (ctx : DeductionContext)

/-! ## Placeholders -/

/-- Index and kind of a placeholder of this template. -/
def placeholder? (t : DataType) : Option (Nat × TemplateParamKind) :=
  match (ctx.registry.type? t.typeHash).bind TypeDecl.placeholder? with
  | some p => if p.owner = ctx.template then some (p.index, p.kind) else none
  | none => none

/-- Whether a type mentions a placeholder of this template within some levels of nesting. -/
def mentions : (levels : Nat) → DataType → Bool
  | 0, _ => false
  | levels + 1, t =>
    match ctx.registry.type? t.typeHash with
    | some (.placeholder p) => p.owner == ctx.template
    | some (.pattern p) => p.arguments.any fun
        | .type inner => mentions levels inner
        | _ => false
    | some (.functionType f) => mentions levels f.returnType || f.params.any (mentions levels)
    | _ => false

/-- Whether a type mentions a placeholder of this template anywhere. -/
def isDependent (t : DataType) : Bool := ctx.mentions (ctx.registry.types.size + 1) t

/-- Record a binding, unless the parameter was given explicitly. -/
def record (index : Nat) (value : TemplateArgument) : MatchResult :=
  if index < ctx.explicit then .trivial else .bind { index, value }

/-! ## Mismatches -/

def mismatch (position : Nat) (pattern found : DataType) : MatchResult :=
  .fail (.deductionMismatch ctx.template position pattern found)

def valueMismatch (position : Nat) (expected actual : TemplateArgument) : MatchResult :=
  .fail (.invalidArgument ctx.template position
    (quoted actual.text ++ " does not match " ++ quoted expected.text))

/-! ## Structural matching -/

/-- Match argument lists pairwise by a given rule. -/
def matchAll (rule : TemplateArgument → TemplateArgument → MatchResult) :
    List (TemplateArgument × TemplateArgument) → MatchResult
  | [] => .trivial
  | (expected, actual) :: rest =>
    (rule expected actual).andThen fun _ => matchAll rule rest

/-- Match a dependent pattern against a type by a rule for its components: template-ids against
instances of the same template, function types against function types of the same arity. -/
def matchStructure (rule : TemplateArgument → TemplateArgument → MatchResult) (position : Nat)
    (pattern arg : DataType) : MatchResult :=
  match ctx.registry.type? pattern.typeHash with
  | some (.pattern p) =>
    match ctx.registry.class? arg.typeHash with
    | some c =>
      if c.template = some p.template ∧ c.templateArgs.length = p.arguments.length then
        matchAll rule (p.arguments.zip c.templateArgs)
      else ctx.mismatch position pattern arg
    | none => ctx.mismatch position pattern arg
  | some (.functionType f) =>
    match (ctx.registry.type? arg.typeHash).bind TypeDecl.functionType? with
    | some g =>
      if g.params.length = f.params.length then
        matchAll rule (((f.returnType :: f.params).map .type).zip
          ((g.returnType :: g.params).map .type))
      else ctx.mismatch position pattern arg
    | none => ctx.mismatch position pattern arg
  | _ => .trivial

/-- Match inside a template-id or function type, within some levels of nesting. No conversions apply
there, so qualifiers have to line up. -/
def matchExact (position : Nat) :
    (levels : Nat) → (expected actual : TemplateArgument) → MatchResult
  | 0, expected, actual => ctx.valueMismatch position expected actual
  | levels + 1, .type pattern, actual =>
    match ctx.placeholder? pattern with
    | some (index, kind) =>
      match kind, actual with
      | .type, .type found =>
        if found.qualifiers.contains pattern.qualifiers then
          ctx.record index (.type ⟨found.typeHash, found.qualifiers.diff pattern.qualifiers⟩)
        else ctx.valueMismatch position (.type pattern) actual
      | .bool, .bool _ | .integer, .integer _ => ctx.record index actual
      | _, _ => ctx.valueMismatch position (.type pattern) actual
    | none =>
      match actual with
      | .type found =>
        if ctx.isDependent pattern then
          if found.qualifiers ≠ pattern.qualifiers then ctx.mismatch position pattern found
          else ctx.matchStructure (matchExact position levels) position pattern found
        else if found = pattern then .trivial
        else ctx.valueMismatch position (.type pattern) actual
      | _ => ctx.valueMismatch position (.type pattern) actual
  | _ + 1, expected, actual =>
    if expected = actual then .trivial else ctx.valueMismatch position expected actual

/-- Number of pairs of a registered pattern and a registered argument type. -/
def pairs : Nat := ctx.registry.types.size * ctx.registry.types.size

/-- Match one argument type against one parameter pattern. -/
def matchParam (pattern arg : DataType) (position : Nat) : MatchResult :=
  match ctx.placeholder? pattern with
  | some (index, .type) =>
    if pattern.isArray then
      if arg.isArray then ctx.record index (.ofHash arg.typeHash)
      else ctx.mismatch position pattern arg
    else ctx.record index (.type arg.base)
  | some _ => ctx.mismatch position pattern arg
  | none =>
    if ctx.isDependent pattern then
      ctx.matchStructure (ctx.matchExact position ctx.pairs) position pattern arg
    else .trivial

/-- Match arguments against patterns from position `position` on. Surplus arguments are left to
overload resolution. -/
def matchParams (position : Nat) : List DataType → List DataType → MatchResult
  | pattern :: patterns, arg :: args =>
    (ctx.matchParam pattern arg position).andThen fun _ =>
      matchParams (position + 1) patterns args
  | _, _ => .trivial

end DeductionContext

/-! ## Merging -/

/-- The first two neighbours that bind one parameter. -/
def firstConflict? : List Deduction → Option (Deduction × Deduction)
  | a :: b :: rest => if a.index = b.index then some (a, b) else firstConflict? (b :: rest)
  | _ => none

/-- Merge bindings by parameter. Equal bindings count once; different ones for one parameter are a
conflict. -/
def agglomerate (template : TypeHash) (bindings : List Deduction) :
    Except TemplateError (List Deduction) :=
  let merged := (bindings.mergeSort fun a b => a.index ≤ b.index).eraseReps
  match firstConflict? merged with
  | some (a, b) => .error (.deductionConflict template a.index a.value b.value)
  | none => .ok merged

/-- Deduce the arguments of a template from the types of a call. -/
def DeductionContext.deduce (ctx : DeductionContext) (patterns args : List DataType) :
    Except TemplateError (List Deduction) :=
  let found := ctx.matchParams 0 patterns args
  match found.failure with
  | some e => .error e
  | none => agglomerate ctx.template found.bindings

end ScriptSemantics
