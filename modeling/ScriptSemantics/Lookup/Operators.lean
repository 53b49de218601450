import ScriptSemantics.Lookup.Result

/-!
# Operator candidates

The candidates of an operator call are the built-in functions of the operator, the free operators
of the namespaces in question, and the member operators of the first operand's class.
-/

namespace ScriptSemantics

/-- How operator candidates are gathered. -/
structure OperatorOptions where
  /-- Drop candidates whose signature repeats an earlier one. -/
  removeDuplicates : Bool := false
  /-- Include member operators of base classes. -/
  includeInherited : Bool := false
  /-- Search the namespaces of the scope and their imports, not the root only. -/
  useScope : Bool := false
deriving DecidableEq, Inhabited, Repr

namespace Registry

/-- Whether two candidates are the same function or have the same owner and signature. -/
def sameCandidate (r : Registry) (a b : TypeHash) : Bool :=
  a == b ||
    match r.function? a, r.function? b with
    | some f, some g => f.owner == g.owner && f.sameSignature g
    | _, _ => false

/-- Keep the first of several equivalent candidates. -/
def removeDuplicates (r : Registry) (found : List TypeHash) : List TypeHash :=
  found.foldl (fun kept hash =>
    if kept.any fun k => r.sameCandidate k hash then kept else kept ++ [hash]) []

/-- The free operators declared in a namespace. -/
def operatorsIn (r : Registry) (op : OperatorKind) (node : Nat) : List TypeHash :=
  ((r.namespaces.names? node).bind fun names => names.operators.get? op).getD []

/-- The member operators declared in a class. -/
def memberOperators (r : Registry) (op : OperatorKind) (hash : TypeHash) : List TypeHash :=
  ((r.methods hash).filter fun f => f.kind == .operator op).map FunctionDecl.hash

/-- The namespaces searched for free operators. -/
def operatorNodes (r : Registry) (scope : Scope) (options : OperatorOptions) : List Nat :=
  if options.useScope then
    let nodes := r.scopeNodes scope
    nodes ++ nodes.flatMap r.namespaces.imports
  else [NamespaceTree.root]

/-- The classes searched for member operators. -/
def operatorClasses (r : Registry) (operands : List DataType) (options : OperatorOptions) :
    List TypeHash :=
  match operands with
  | [] => []
  | object :: _ =>
    let chain := r.baseChain object.typeHash
    if options.includeInherited then chain else chain.take 1

/-- All candidates of an operator for some operands, as seen from a scope. -/
def operatorCandidates (r : Registry) (op : OperatorKind) (operands : List DataType)
    (scope : Scope) (options : OperatorOptions) : List TypeHash :=
  let found := r.builtins op
    ++ (r.operatorNodes scope options).flatMap (r.operatorsIn op)
    ++ (r.operatorClasses operands options).flatMap (r.memberOperators op)
  if options.removeDuplicates then r.removeDuplicates found else found

end Registry

end ScriptSemantics
