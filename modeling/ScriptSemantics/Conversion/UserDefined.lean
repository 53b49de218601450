import ScriptSemantics.Conversion.Basic

/-!
# User-defined conversions

Every usable constructor of the destination class and every usable cast along the source's base
chain is a candidate. A candidate wins if it is at least as good as every other one on both
standard steps and strictly better on one of them. Without a winner the conversion is ambiguous.
-/

namespace ScriptSemantics

/-- Whether a conversion may use the function: never if it is deleted, and only under the permissive
policy if it is explicit. -/
def ConversionPolicy.admits (policy : ConversionPolicy) (f : FunctionDecl) : Bool :=
  !f.isDeleted && (!f.isExplicit || policy == .allowExplicit)

namespace Conversion

/-! ## Candidates -/

/-- The conversion through a constructor of the destination class. Copy constructors are left to
standard conversions. -/
def throughConstructor? (r : Registry) (source dest : DataType) (ctor : FunctionDecl) :
    Option Conversion :=
  match ctor.params with
  | [] => none
  | param :: _ =>
    let produced := DataType.simple dest.typeHash
    let before := StandardConversion.compute r source param.dataType
    let after := if dest.isReference then StandardConversion.compute r produced dest else .exact
    if ctor.minArgs ≤ 1 && param.dataType.base != produced && before.isConvertible then
      some (userDefined before ctor.hash after source dest)
    else none

/-- Conversions through constructors of the destination class. A mutable reference cannot bind
their result. -/
def constructorCandidates (r : Registry) (source dest : DataType) (policy : ConversionPolicy) :
    List Conversion :=
  if r.isClass dest && !dest.isMutableRef then
    ((r.constructors dest.typeHash).filter policy.admits).filterMap
      (throughConstructor? r source dest)
  else []

/-- The conversion through a cast declared in the class `owner`. A mutable reference binds only the
result of a cast that returns a reference. -/
def throughCast? (r : Registry) (source dest : DataType) (owner : TypeHash) (cast : FunctionDecl) :
    Option Conversion :=
  let object : DataType := ⟨owner, { isConst := cast.isConst, isReference := true }⟩
  let before := StandardConversion.compute r source object
  let after := StandardConversion.compute r cast.returnType dest
  if dest.isMutableRef && !cast.returnType.isReference then none
  else if before.isConvertible && after.isConvertible then
    some (userDefined before cast.hash after source dest)
  else none

/-- Conversions through casts of the source class and of its bases. -/
def castCandidates (r : Registry) (source dest : DataType) (policy : ConversionPolicy) :
    List Conversion :=
  if r.isClass source then
    (r.baseChain source.typeHash).flatMap fun owner =>
      ((r.casts owner).filter policy.admits).filterMap (throughCast? r source dest owner)
  else []

/-- All candidates in the order of their discovery. -/
def candidates (r : Registry) (source dest : DataType) (policy : ConversionPolicy) :
    List Conversion :=
  constructorCandidates r source dest policy ++ castCandidates r source dest policy

/-! ## Selection -/

/-- At least as good on both steps and strictly better on one. -/
def dominates (a b : Conversion) : Bool :=
  let first := a.first.compare b.first
  let second := a.second.compare b.second
  first != .gt && second != .gt && (first == .lt || second == .lt)

/-- The candidate that beats all others, searched with the candidates in front of it set aside. -/
def bestFrom? : (front back : List Conversion) → Option Conversion
  | _, [] => none
  | front, c :: back =>
    if (front ++ back).all (dominates c) then some c else bestFrom? (front ++ [c]) back

/-- The best user-defined conversion: none without candidates, and an error without a unique best
one. -/
def findUserDefined (r : Registry) (source dest : DataType) (policy : ConversionPolicy) :
    Except ConversionError (Option Conversion) :=
  match candidates r source dest policy with
  | [] => .ok none
  | found =>
    match bestFrom? [] found with
    | some best => .ok (some best)
    | none => .error (.ambiguous source dest (found.filterMap function?))

/-! ## Conversion between types -/

/-- The conversion from `source` to `dest`, or why there is none. -/
def tryCompute (r : Registry) (source dest : DataType) (policy : ConversionPolicy) :
    Except ConversionError Conversion :=
  let step := StandardConversion.compute r source dest
  if step.isConvertible then .ok (standard step source dest)
  else
    match findUserDefined r source dest policy with
    | .ok (some c) => .ok c
    | .ok none => .error (.notConvertible source dest)
    | .error e => .error e

/-- The conversion from `source` to `dest`, invalid if there is none. -/
def compute (r : Registry) (source dest : DataType) (policy : ConversionPolicy) : Conversion :=
  match tryCompute r source dest policy with
  | .ok c => c
  | .error _ => notConvertible source dest

end Conversion

end ScriptSemantics
