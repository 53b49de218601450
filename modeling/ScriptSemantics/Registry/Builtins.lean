import ScriptSemantics.Registry.Registration

/-!
# Built-in declarations

The fundamental types, the class template `initializer_list<T>`, and the operators on fundamental
types.
-/

namespace ScriptSemantics.Registry

/-! ## Operators on fundamental types -/

/-- A built-in operator. -/
def builtinOperator (op : OperatorKind) (params : List DataType) (returnType : DataType) :
    FunctionDecl :=
  (FunctionDecl.freeOperator "" op (params.map fun t => { dataType := t }) returnType).withTraits
    { isBuiltin := true }

/-- The arithmetic operators of one numeric type. -/
def arithmeticOperators (kind : FundamentalKind) : List FunctionDecl :=
  let t := DataType.ofKind kind
  [OperatorKind.add, .sub, .mul, .div].map (builtinOperator · [t, t] t)
    ++ [builtinOperator .negate [t] t]

/-- The comparisons of one ordered type. -/
def comparisonOperators (kind : FundamentalKind) : List FunctionDecl :=
  let t := DataType.ofKind kind
  [OperatorKind.equal, .notEqual, .less, .lessEqual, .greater, .greaterEqual].map
    (builtinOperator · [t, t] (.ofKind .bool))

/-- The operators of `bool`. -/
def booleanOperators : List FunctionDecl :=
  let t := DataType.ofKind .bool
  [OperatorKind.equal, .notEqual, .logicalAnd, .logicalOr].map (builtinOperator · [t, t] t)
    ++ [builtinOperator .logicalNot [t] t]

/-- Assignment to one type. -/
def assignmentOperator (kind : FundamentalKind) : FunctionDecl :=
  builtinOperator .assign [.reference kind.hash, .ofKind kind] (.reference kind.hash)

/-- All built-in operators in registration order. -/
def operatorTable : List FunctionDecl :=
  [FundamentalKind.int, .float, .double].flatMap arithmeticOperators
    ++ [builtinOperator .rem [.ofKind .int, .ofKind .int] (.ofKind .int)]
    ++ [FundamentalKind.char, .int, .float, .double].flatMap comparisonOperators
    ++ booleanOperators
    ++ [FundamentalKind.bool, .char, .int, .float, .double].map assignmentOperator

/-! ## The list template -/

/-- The class template `initializer_list<T>`. -/
def listTemplate : ClassTemplate :=
  ((ClassTemplate.declare "" "initializer_list" .elementList).addParam "T" .type).withIdentity
    .initializerListTemplate

/-! ## The initial registry -/

/-- Enter all built-in declarations. -/
def install : RegistryM Unit := do
  FundamentalKind.all.forM fun kind => discard (registerType (.fundamental kind))
  discard (registerClassTemplate listTemplate)
  operatorTable.forM fun f => discard (registerFunction f)

/-- The registry that holds the built-in declarations and nothing else. -/
def withBuiltins : Registry := (install.run.run {}).2

end ScriptSemantics.Registry
