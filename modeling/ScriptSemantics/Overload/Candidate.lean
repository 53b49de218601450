import ScriptSemantics.Initialization.Building

/-!
# Candidates of a call

The arguments of a call, the object a member call is made on, and the verdict on a single function:
either it is viable, with the initialization of each parameter it uses, or there is a reason why it
is not.
-/

namespace ScriptSemantics

/-! ## Arguments -/

/-- One call argument: a bare type or a compiled expression. -/
inductive Argument where
  | type (type : DataType)
  | expression (expr : Expression)
deriving Inhabited, Repr

namespace Argument

def dataType : Argument → DataType
  | type t => t
  | expression e => e.dataType

/-- The initialization of a parameter from the argument. -/
def into (r : Registry) : Argument → DataType → Initialization
  | type t, param => .ofType r param t .copy
  | expression e, param => .ofExpression r e param

end Argument

/-- The arguments of a call, all types or all expressions. -/
inductive Arguments where
  | types (types : List DataType)
  | expressions (exprs : List Expression)
deriving Inhabited, Repr

namespace Arguments

def toList : Arguments → List Argument
  | types ts => ts.map .type
  | expressions es => es.map .expression

def dataTypes (arguments : Arguments) : List DataType := arguments.toList.map Argument.dataType

end Arguments

/-- The object a member call is made on. -/
inductive ImplicitObject where
  /-- A free call; members are matched on their explicit parameters. -/
  | none
  /-- A call `object.f(args)`. -/
  | provided (type : DataType)
  /-- An operator call: the first argument is the object of members and an ordinary argument of
  free functions. -/
  | firstArgument
deriving DecidableEq, Inhabited, Repr

/-! ## Viability -/

/-- A function that fits the call. -/
structure Candidate where
  function : TypeHash
  /-- Binding of the implicit object. -/
  object : Option StandardConversion := .none
  /-- Whether the object took the place of the first argument. -/
  leadingObject : Bool := false
  /-- One initialization for each explicit argument; defaulted parameters have none. -/
  initializations : List Initialization := []
deriving Inhabited, Repr

/-- Verdict on one function of a call. -/
inductive Viability where
  | viable (ranks : List ConversionRank)
  | incorrectParameterCount (min max provided : Nat)
  | couldNotConvertArgument (index : Nat) (failure : InitFailure)
  | couldNotConvertObject (source dest : DataType)
  | unknownFunction
deriving Inhabited, Repr

def Viability.isViable : Viability → Bool
  | viable _ => true
  | _ => false

namespace Candidate

/-- The object that a function takes from a call, how many arguments it uses up, and the arguments
left for the parameters. A member of an operator call without arguments has no object. -/
def splitObject (f : FunctionDecl) (mode : ImplicitObject) (arguments : List Argument) :
    Except Viability (Option DataType × Nat × List Argument) :=
  if f.hasImplicitObject then
    match mode, arguments with
    | .none, _ => .ok (.none, 0, arguments)
    | .provided t, _ => .ok (some t, 0, arguments)
    | .firstArgument, argument :: rest => .ok (some argument.dataType, 1, rest)
    | .firstArgument, [] => .error (.incorrectParameterCount (f.minArgs + 1) (f.maxArgs + 1) 0)
  else .ok (.none, 0, arguments)

/-- Bind the implicit object, which has to be bound directly. -/
def bindObject (r : Registry) (f : FunctionDecl) :
    Option DataType → Except Viability (Option StandardConversion)
  | .none => .ok .none
  | some t =>
    let binding := StandardConversion.compute r t f.objectType
    if binding.isReferenceBinding then .ok (some binding)
    else .error (.couldNotConvertObject t f.objectType)

/-- Initialize parameters from arguments, counting from `index`; the first failure decides. -/
def bindArguments (r : Registry) :
    (index : Nat) → List Param → List Argument → Except Viability (List Initialization)
  | index, param :: params, argument :: arguments =>
    let init := argument.into r param.dataType
    match init.failure? with
    | some failure => .error (.couldNotConvertArgument index failure)
    | .none => return init :: (← bindArguments r (index + 1) params arguments)
  | _, _, _ => .ok []

/-- Match a function against a call: count the arguments, bind the object, then initialize the
parameters. -/
def evaluate (r : Registry) (mode : ImplicitObject) (f : FunctionDecl)
    (arguments : List Argument) : Except Viability Candidate := do
  let (object, offset, explicit) ← splitObject f mode arguments
  if explicit.length < f.minArgs || f.maxArgs < explicit.length then
    throw (.incorrectParameterCount (f.minArgs + offset) (f.maxArgs + offset) arguments.length)
  let object ← bindObject r f object
  let initializations ← bindArguments r offset f.params explicit
  return { function := f.hash, object, leadingObject := offset == 1, initializations }

/-! ## Positions -/

/-- What a candidate has at an argument position. -/
inductive Slot where
  | object (binding : StandardConversion)
  | argument (init : Initialization)
deriving Inhabited, Repr

namespace Slot

def rank : Slot → ConversionRank
  | object binding => binding.rank
  | argument init => init.rank

/-- Slots of one kind compare as such; an object and an argument compare by rank alone. -/
def compare : Slot → Slot → Ordering
  | object a, object b => a.compare b
  | argument a, argument b => a.compare b
  | a, b => a.rank.compare b.rank

end Slot

/-- The slots of a candidate by argument position. -/
def slots (c : Candidate) : List Slot :=
  (if c.leadingObject then c.object.toList.map .object else [])
    ++ c.initializations.map .argument

/-- Rank at each argument position. -/
def ranks (c : Candidate) : List ConversionRank := c.slots.map Slot.rank

end Candidate

end ScriptSemantics
