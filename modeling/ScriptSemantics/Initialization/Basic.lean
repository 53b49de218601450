import ScriptSemantics.Conversion.UserDefined
import ScriptSemantics.Expression

/-!
# Initializations

An initialization describes how a destination of some type acquires its value. A value arrives
through a conversion; a structured value is constructed from child initializations, one for each
element of a brace list. A failed initialization is a value too and says why it failed.
-/

namespace ScriptSemantics

/-! ## Forms and failures -/

/-- How a value arrives through a conversion. -/
inductive ValueManner where
  /-- As in `T x(v)`. -/
  | direct
  /-- As in `T x = v`. -/
  | copy
  /-- The destination is a reference. -/
  | reference
deriving DecidableEq, Inhabited, Repr

/-- Shape of a structured initialization. -/
inductive ConstructionForm where
  /-- No initializer, or an empty brace list. -/
  | default
  /-- A value of the built-in list type. -/
  | builtinList
  /-- A constructor that takes one built-in list. -/
  | listConstructor
  /-- A constructor that takes one argument for each element. -/
  | positional
  /-- One element for each data member of a class without constructors. -/
  | aggregate
deriving DecidableEq, Inhabited, Repr

namespace ConstructionForm

/-- Every form but the default one comes from a brace list. -/
def isList (form : ConstructionForm) : Bool := form != .default

/-- Lower is preferred when two list initializations compete. -/
def preference : ConstructionForm → Nat
  | builtinList | listConstructor => 0
  | _ => 1

end ConstructionForm

/-- Category of an initialization. -/
inductive InitCategory where
  | invalid
  | default
  | direct
  | copy
  | reference
  | list
  | aggregate
deriving DecidableEq, Inhabited, Repr

def ValueManner.category : ValueManner → InitCategory
  | direct => .direct
  | copy => .copy
  | reference => .reference

def ConstructionForm.category : ConstructionForm → InitCategory
  | default => .default
  | aggregate => .aggregate
  | builtinList | listConstructor | positional => .list

/-- Why an initialization is invalid. -/
inductive InitFailure where
  | notConvertible (source dest : DataType)
  | ambiguousConversion (source dest : DataType) (candidates : List TypeHash)
  | narrowing (index : Nat) (source dest : DataType)
  | listNotAllowed (dest : DataType)
  | noMatchingConstructor (dest : DataType) (elements : Nat)
  | notDefaultConstructible (dest : DataType)
  | element (index : Nat) (failure : InitFailure)
deriving DecidableEq, Inhabited, Repr

namespace InitFailure

def ofConversionError : ConversionError → InitFailure
  | .notConvertible source dest => notConvertible source dest
  | .ambiguous source dest candidates => ambiguousConversion source dest candidates

def message : InitFailure → String
  | notConvertible source dest =>
    "cannot convert from " ++ quoted source.text ++ " to " ++ quoted dest.text
  | ambiguousConversion source dest _ =>
    "conversion from " ++ quoted source.text ++ " to " ++ quoted dest.text ++ " is ambiguous"
  | narrowing index source dest =>
    "element " ++ toString index ++ ": narrowing conversion from " ++ quoted source.text
      ++ " to " ++ quoted dest.text
  | listNotAllowed dest => quoted dest.text ++ " cannot be initialized from a brace list"
  | noMatchingConstructor dest elements =>
    "no constructor of " ++ quoted dest.text ++ " takes " ++ toString elements ++ " elements"
  | notDefaultConstructible dest => quoted dest.text ++ " is not default constructible"
  | element index failure => "element " ++ toString index ++ ": " ++ failure.message

/-- The error that a rejected initialization amounts to. -/
def toSemantic : InitFailure → SemanticError
  | notConvertible source dest => .notConvertible source dest
  | ambiguousConversion source dest candidates => .ambiguousConversion source dest candidates
  | narrowing _ source dest => .narrowingConversionRejected source dest
  | listNotAllowed dest | noMatchingConstructor dest _ =>
    .notConvertible (.simple .initializerList) dest
  | notDefaultConstructible dest => .notConvertible .void dest
  | element _ failure => failure.toSemantic

def isNarrowing : InitFailure → Bool
  | narrowing .. => true
  | _ => false

end InitFailure

/-! ## Initializations -/

/-- How one destination acquires its value. -/
inductive Initialization where
  | failed (failure : InitFailure)
  | converted (manner : ValueManner) (conversion : Conversion)
  | constructed (form : ConstructionForm) (dest : DataType) (constructor : Option TypeHash)
      (children : List Initialization)
deriving Inhabited, Repr

namespace Initialization

def category : Initialization → InitCategory
  | failed _ => .invalid
  | converted manner _ => manner.category
  | constructed form _ _ _ => form.category

def isValid : Initialization → Bool
  | failed _ => false
  | converted _ conversion => conversion.isValid
  | constructed .. => true

def failure? : Initialization → Option InitFailure
  | failed failure => some failure
  | _ => none

def conversion? : Initialization → Option Conversion
  | converted _ conversion => some conversion
  | _ => none

/-- The parts of a structured initialization. -/
def children : Initialization → List Initialization
  | constructed _ _ _ children => children
  | _ => []

/-- Whether a structured initialization comes from a brace list. -/
def isList : Initialization → Bool
  | constructed form _ _ _ => form.isList
  | _ => false

/-- Only a conversion narrows; the elements of a list are checked when the list is built. -/
def isNarrowing : Initialization → Bool
  | converted _ conversion => conversion.isNarrowing
  | _ => false

mutual

/-- The worst rank involved; a structured initialization takes that of its worst part. -/
def rank : Initialization → ConversionRank
  | failed _ => .notConvertible
  | converted _ conversion => conversion.rank
  | constructed _ _ _ children => worstRank children

/-- The worst rank of some initializations; an exact match if there are none. -/
def worstRank : List Initialization → ConversionRank
  | [] => .exactMatch
  | init :: inits => init.rank.max (worstRank inits)

end

/-- The preference of a structured initialization; values compare by rank alone. -/
def formPreference : Initialization → Nat
  | constructed form _ _ _ => form.preference
  | _ => 1

/-- The better initialization comes first, and valid ones come before invalid ones. A brace list
that is taken as a list beats one that is not. -/
def compare (a b : Initialization) : Ordering :=
  match a.isValid, b.isValid with
  | false, false => .eq
  | true, false => .lt
  | false, true => .gt
  | true, true =>
    match a, b with
    | converted _ x, converted _ y => x.compare y
    | _, _ =>
      match a.isList, b.isList with
      | true, false => .lt
      | false, true => .gt
      | _, _ => (Ord.compare a.formPreference b.formPreference).then (a.rank.compare b.rank)

/-- The failure of an invalid initialization. -/
def invalidity? : Initialization → Option InitFailure
  | failed failure => some failure
  | converted _ conversion =>
    if conversion.isValid then none
    else some (.notConvertible conversion.source conversion.dest)
  | constructed .. => none

end Initialization

end ScriptSemantics
