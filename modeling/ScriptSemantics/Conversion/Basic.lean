import ScriptSemantics.Conversion.Standard
import ScriptSemantics.Diagnostic

/-!
# Conversions

A conversion is the full recipe for turning a value of one type into another: a standard
conversion, or a standard conversion followed by a constructor or cast and a second standard
conversion on its result.
-/

namespace ScriptSemantics

/-- Whether explicit constructors and casts may be used. -/
inductive ConversionPolicy where
  | implicitOnly
  | allowExplicit
deriving DecidableEq, Inhabited, Repr

/-- Why a conversion could not be formed. -/
inductive ConversionError where
  | notConvertible (source dest : DataType)
  | ambiguous (source dest : DataType) (candidates : List TypeHash)
deriving DecidableEq, Inhabited, Repr

namespace ConversionError

def toSemantic : ConversionError → SemanticError
  | notConvertible source dest => .notConvertible source dest
  | ambiguous source dest candidates => .ambiguousConversion source dest candidates

def message (e : ConversionError) : String := e.toSemantic.message

end ConversionError

/-- The steps of a conversion. -/
inductive ConversionRoute where
  | standard (step : StandardConversion)
  /-- Through a constructor or cast, with a step before it and a step after it. -/
  | userDefined (before : StandardConversion) (function : TypeHash) (after : StandardConversion)
deriving DecidableEq, Inhabited, Repr

/-- A conversion between two types. -/
structure Conversion where
  route : ConversionRoute
  source : DataType
  dest : DataType
deriving DecidableEq, Inhabited, Repr

namespace Conversion

def standard (step : StandardConversion) (source dest : DataType) : Conversion :=
  ⟨.standard step, source, dest⟩

def userDefined (before : StandardConversion) (function : TypeHash) (after : StandardConversion)
    (source dest : DataType) : Conversion :=
  ⟨.userDefined before function after, source, dest⟩

def notConvertible (source dest : DataType) : Conversion :=
  standard .notConvertible source dest

/-! ## Queries -/

/-- The step that starts from the source. -/
def first (c : Conversion) : StandardConversion :=
  match c.route with
  | .standard step => step
  | .userDefined before _ _ => before

/-- The constructor or cast in use. -/
def function? (c : Conversion) : Option TypeHash :=
  match c.route with
  | .standard _ => none
  | .userDefined _ function _ => some function

/-- The step that ends at the destination; nothing is left to do after a standard conversion. -/
def second (c : Conversion) : StandardConversion :=
  match c.route with
  | .standard _ => .exact
  | .userDefined _ _ after => after

def isUserDefined (c : Conversion) : Bool := c.function?.isSome

def isNarrowing (c : Conversion) : Bool := c.first.isNarrowing || c.second.isNarrowing

/-- Whether the destination reference binds the source itself. -/
def isReferenceBinding (c : Conversion) : Bool :=
  match c.route with
  | .standard step => step.isReferenceBinding
  | .userDefined _ _ _ => false

def rank (c : Conversion) : ConversionRank :=
  match c.route with
  | .standard step => step.rank
  | .userDefined before _ after =>
    if before.isConvertible && after.isConvertible then .userDefined else .notConvertible

def isValid (c : Conversion) : Bool := c.rank.isViable

/-- Valid conversions come before invalid ones and standard conversions before user-defined ones;
two standard conversions compare by their step, two user-defined ones by the step after the
function. -/
def compare (a b : Conversion) : Ordering :=
  match a.isValid, b.isValid with
  | false, false => .eq
  | true, false => .lt
  | false, true => .gt
  | true, true =>
    match a.route, b.route with
    | .standard x, .standard y => x.compare y
    | .standard _, .userDefined _ _ _ => .lt
    | .userDefined _ _ _, .standard _ => .gt
    | .userDefined _ _ x, .userDefined _ _ y => x.compare y

/-- The worst rank of some conversions. -/
def globalRank (conversions : List Conversion) : ConversionRank :=
  .worst (conversions.map rank)

end Conversion

end ScriptSemantics
