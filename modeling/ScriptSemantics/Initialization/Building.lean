import ScriptSemantics.Initialization.Basic

/-!
# Building initializations

Initialization without an initializer, from a value, and from an expression. A brace list goes, in
this order, to the built-in list type, to default initialization if it is empty, to the data
members of a class without constructors, to a constructor that takes a built-in list, and to a
constructor with one parameter for each element. Brace lists never accept narrowing elements and
never use explicit constructors.
-/

namespace ScriptSemantics

/-- How a value initialization is written: `T x(v)` or `T x = v`. -/
inductive InitStyle where
  | direct
  | copy
deriving DecidableEq, Inhabited, Repr

namespace InitStyle

/-- Only direct initialization may use explicit constructors and casts. -/
def policy : InitStyle → ConversionPolicy
  | direct => .allowExplicit
  | copy => .implicitOnly

def manner : InitStyle → ValueManner
  | direct => .direct
  | copy => .copy

end InitStyle

namespace Initialization

/-! ## Without an initializer -/

/-- Arrays, fundamental values other than `void`, and classes with a usable default constructor
need no initializer. -/
def default (r : Registry) (dest : DataType) : Initialization :=
  let impossible := failed (.notDefaultConstructible dest)
  let construct (constructor : Option TypeHash) := constructed .default dest constructor []
  if dest.isReference || r.isAtomicValue dest then impossible
  else if dest.isArray then construct none
  else
    match r.fundamental? dest with
    | some kind => if kind = .void then impossible else construct none
    | none =>
      match r.class? dest.typeHash with
      | none => impossible
      | some c =>
        if c.constructors.isEmpty then construct none
        else
          match r.defaultConstructor? dest.typeHash with
          | some ctor => construct (some ctor.hash)
          | none => impossible

/-! ## From a value -/

/-- Initialization from a value of type `source`. A const reference that cannot be bound gets a
second chance as a value. -/
def ofType (r : Registry) (dest source : DataType) (style : InitStyle) : Initialization :=
  match Conversion.tryCompute r source dest style.policy with
  | .ok c => converted (if dest.isReference then .reference else style.manner) c
  | .error (.ambiguous s d candidates) => failed (.ambiguousConversion s d candidates)
  | .error (.notConvertible s d) =>
    if dest.isConstRef then
      match Conversion.tryCompute r source dest.withoutRef style.policy with
      | .ok c => converted .reference c
      | .error e => failed (.ofConversionError e)
    else failed (.notConvertible s d)

/-! ## From a brace list -/

/-- An element of a brace list: its type, and the initialization of any destination from it. -/
structure Element where
  dataType : DataType
  into : DataType → Initialization

/-- Initialize each destination from its element, counting from `index`. The first invalid or
narrowing element decides the failure. -/
def each (index : Nat) : List (DataType × Element) → Except InitFailure (List Initialization)
  | [] => .ok []
  | (dest, element) :: rest =>
    let child := element.into dest
    match child.failure? with
    | some failure => .error (.element index failure)
    | none =>
      if child.isNarrowing then .error (.narrowing index element.dataType dest)
      else
        match each (index + 1) rest with
        | .ok children => .ok (child :: children)
        | .error failure => .error failure

/-- A construction from children, or the failure to build them. -/
def construct (form : ConstructionForm) (dest : DataType) (constructor : Option TypeHash) :
    Except InitFailure (List Initialization) → Initialization
  | .ok children => constructed form dest constructor children
  | .error failure => failed failure

/-- Every element initializes a value of the list's element type. -/
def ofElements (form : ConstructionForm) (dest : DataType) (constructor : Option TypeHash)
    (elementType : DataType) (elements : List Element) : Initialization :=
  construct form dest constructor (each 0 (elements.map fun e => (elementType, e)))

/-- The element type of a constructor that takes one built-in list and nothing else. -/
def listParameter? (r : Registry) (ctor : FunctionDecl) : Option DataType :=
  match ctor.params with
  | [param] => r.listElement? param.dataType.base
  | _ => none

/-- The first constructor that takes a built-in list, with its element type. -/
def listConstructor? (r : Registry) (ctors : List FunctionDecl) :
    Option (FunctionDecl × DataType) :=
  ctors.findSome? fun ctor => (listParameter? r ctor).map fun element => (ctor, element)

/-- Try constructors with one parameter for each element, in order. If none fits, the first
narrowing failure is reported, else that nothing matches. -/
def ofPositional (dest : DataType) (elements : List Element) :
    (narrowing : Option InitFailure) → List FunctionDecl → Initialization
  | narrowing, [] => failed (narrowing.getD (.noMatchingConstructor dest elements.length))
  | narrowing, ctor :: ctors =>
    if ctor.params.length ≠ elements.length then ofPositional dest elements narrowing ctors
    else
      match each 0 ((ctor.params.map Param.dataType).zip elements) with
      | .ok children => constructed .positional dest (some ctor.hash) children
      | .error failure =>
        let narrowing := narrowing.or (if failure.isNarrowing then some failure else none)
        ofPositional dest elements narrowing ctors

/-- One element for each data member. -/
def ofMembers (dest : DataType) (members : List TypedName) (elements : List Element) :
    Initialization :=
  if members.length ≠ elements.length then
    failed (.noMatchingConstructor dest elements.length)
  else construct .aggregate dest none (each 0 ((members.map TypedName.dataType).zip elements))

/-- The constructors a brace list may use. -/
def listUsableConstructors (r : Registry) (hash : TypeHash) : List FunctionDecl :=
  (r.constructors hash).filter fun f => !f.isDeleted && !f.isExplicit

/-- A non-empty brace list for a class. -/
def ofClassList (r : Registry) (dest : DataType) (c : ClassDecl) (elements : List Element) :
    Initialization :=
  if c.constructors.isEmpty then ofMembers dest c.members elements
  else
    let ctors := listUsableConstructors r dest.typeHash
    match listConstructor? r ctors with
    | some (ctor, element) => ofElements .listConstructor dest (some ctor.hash) element elements
    | none => ofPositional dest elements none ctors

/-- Initialization from a brace list. -/
def ofList (r : Registry) (dest : DataType) (elements : List Element) : Initialization :=
  if r.isAtomicValue dest || dest.isMutableRef then failed (.listNotAllowed dest)
  else
    match r.listElement? dest with
    | some element => ofElements .builtinList dest none element elements
    | none =>
      if elements.isEmpty then default r dest.withoutRef
      else if dest.isArray then failed (.listNotAllowed dest)
      else
        match r.class? dest.typeHash with
        | none => failed (.listNotAllowed dest)
        | some c => ofClassList r dest c elements

/-! ## From an expression -/

mutual

/-- Initialization from an expression: brace lists as lists, all else by copy. -/
def ofExpression (r : Registry) : Expression → DataType → Initialization
  | .list elements, dest => ofList r dest (elementsOf r elements)
  | .literal t, dest => ofType r dest t .copy
  | .named t, dest => ofType r dest t .copy
  | .call _ t, dest => ofType r dest t .copy
  | .lambda closure, dest => ofType r dest (.simple closure) .copy

/-- The elements of a brace list as sources of initializations. -/
def elementsOf (r : Registry) : List Expression → List Element
  | [] => []
  | e :: es => { dataType := e.dataType, into := ofExpression r e } :: elementsOf r es

end

end Initialization

end ScriptSemantics
