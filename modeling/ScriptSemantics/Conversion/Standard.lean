import ScriptSemantics.Registry.Hierarchy

/-!
# Standard conversions

A standard conversion is one built-in step from a source type to a destination type: a numeric
promotion or conversion, an added const, a walk up the base chain, and whether the destination
binds the source or receives a copy.

The steps between fundamental types:

```text
source \ dest  void   bool   char   int    float  double
void           exact  -      -      -      -      -
bool           -      exact  int-p  int-p  fp-p   fp-p
char           -      bool-c exact  int-p  fp-p   fp-p
int            -      bool-c int-c  exact  fp-p   fp-p
float          -      bool-c int-c  int-c  exact  fp-p
double         -      bool-c int-c  int-c  fp-c   exact
```

A mutable reference binds a non-const value of the same type or of a derived class. A const
reference to the same type binds directly and adds const where the source lacks it. Every other
numeric step into a const reference binds a converted temporary.
-/

namespace ScriptSemantics

/-! ## Ranks -/

/-- Quality of a conversion, best first. -/
inductive ConversionRank where
  | exactMatch
  | promotion
  | conversion
  | userDefined
  | notConvertible
deriving DecidableEq, Inhabited, Repr

namespace ConversionRank

/-- Position in the order of ranks; lower is better. -/
def level : ConversionRank → Nat
  | exactMatch => 0
  | promotion => 1
  | conversion => 2
  | userDefined => 3
  | notConvertible => 4

/-- Better ranks come first. -/
def compare (a b : ConversionRank) : Ordering := Ord.compare a.level b.level

/-- The worse of two ranks. -/
def max (a b : ConversionRank) : ConversionRank := if a.level ≤ b.level then b else a

/-- The worst of some ranks; an exact match if there are none. -/
def worst (ranks : List ConversionRank) : ConversionRank := ranks.foldl max .exactMatch

def isViable (rank : ConversionRank) : Bool := rank != .notConvertible

end ConversionRank

/-! ## Steps -/

/-- Promotions never lose information. -/
inductive NumericPromotion where
  | integral
  | floatingPoint
deriving DecidableEq, Inhabited, Repr

/-- Conversions that may lose information. -/
inductive NumericConversion where
  | integral
  | floatingPoint
  | boolean
deriving DecidableEq, Inhabited, Repr

/-- The numeric part of a step. -/
inductive NumericStep where
  | exact
  | promotion (kind : NumericPromotion)
  | conversion (kind : NumericConversion)
deriving DecidableEq, Inhabited, Repr

/-- How the destination acquires the value. -/
inductive Binding where
  /-- The destination reference binds the source itself. -/
  | reference
  /-- The destination receives a copy. -/
  | copy
  /-- A const reference binds a converted temporary. -/
  | copyRef
deriving DecidableEq, Inhabited, Repr

/-- Direct binding is preferred to any copy. -/
def Binding.preference : Binding → Nat
  | reference => 0
  | copy | copyRef => 1

/-- A possible built-in step. -/
structure ConversionStep where
  numeric : NumericStep := .exact
  addsConst : Bool := false
  /-- Inheritance steps from the source up to the destination. -/
  depth : Nat := 0
  binding : Binding := .copy
deriving DecidableEq, Inhabited, Repr

/-- A built-in step, or the verdict that there is none. -/
inductive StandardConversion where
  | notConvertible
  | step (step : ConversionStep)
deriving DecidableEq, Inhabited, Repr

namespace ConversionStep

def rank (s : ConversionStep) : ConversionRank :=
  match s.numeric with
  | .exact => .exactMatch
  | .promotion _ => .promotion
  | .conversion _ => .conversion

/-- Rank first, then fewer inheritance steps, then no added const, then direct binding. -/
def compare (a b : ConversionStep) : Ordering :=
  (a.rank.compare b.rank).then <| (Ord.compare a.depth b.depth).then <|
    (Ord.compare a.addsConst.toNat b.addsConst.toNat).then <|
      Ord.compare a.binding.preference b.binding.preference

end ConversionStep

namespace StandardConversion

/-- An exact match by copy. -/
def exact : StandardConversion := step {}

/-- An exact match by direct binding. -/
def directBinding : StandardConversion := step { binding := .reference }

def ofNumeric (numeric : NumericStep) : StandardConversion := step { numeric := numeric }

/-! ## Composition

Whatever is applied to an impossible step, it stays impossible. -/

/-- Change a possible step. -/
def map (change : ConversionStep → ConversionStep) : StandardConversion → StandardConversion
  | notConvertible => notConvertible
  | step s => step (change s)

def withConst (c : StandardConversion) (addsConst : Bool) : StandardConversion :=
  c.map fun s => { s with addsConst := addsConst }

def withDepth (c : StandardConversion) (depth : Nat) : StandardConversion :=
  c.map fun s => { s with depth := depth }

/-- Set the binding; no binding at all makes the step impossible. -/
def withBinding (c : StandardConversion) : Option Binding → StandardConversion
  | none => notConvertible
  | some binding => c.map fun s => { s with binding := binding }

/-! ## Queries -/

def step? : StandardConversion → Option ConversionStep
  | notConvertible => none
  | step s => some s

def isConvertible (c : StandardConversion) : Bool := c.step?.isSome

/-- Whether the destination binds the source itself. -/
def isReferenceBinding (c : StandardConversion) : Bool :=
  c.step?.any fun s => s.binding == .reference

/-- Whether information may be lost. -/
def isNarrowing : StandardConversion → Bool
  | step { numeric := .conversion _, .. } => true
  | _ => false

def rank : StandardConversion → ConversionRank
  | notConvertible => .notConvertible
  | step s => s.rank

/-- The better conversion comes first; an impossible one comes last. -/
def compare : StandardConversion → StandardConversion → Ordering
  | step a, step b => a.compare b
  | step _, notConvertible => .lt
  | notConvertible, step _ => .gt
  | notConvertible, notConvertible => .eq

/-! ## Classification -/

/-- The step between two fundamental types. -/
def betweenFundamentals : FundamentalKind → FundamentalKind → StandardConversion
  | .void, .void | .bool, .bool | .char, .char | .int, .int | .float, .float
  | .double, .double => exact
  | .void, _ | _, .void => notConvertible
  | _, .bool => ofNumeric (.conversion .boolean)
  | .bool, .char | .bool, .int | .char, .int => ofNumeric (.promotion .integral)
  | .double, .float => ofNumeric (.conversion .floatingPoint)
  | _, .char | _, .int => ofNumeric (.conversion .integral)
  | _, .float | _, .double => ofNumeric (.promotion .floatingPoint)

/-- A converted value enters a reference as a temporary. -/
def into (c : StandardConversion) (dest : DataType) : StandardConversion :=
  if dest.isReference then c.withBinding (some .copyRef) else c

/-- Whether the destination is const where the source is not. -/
def addedConst (source dest : DataType) : Bool := dest.isConst && !source.isConst

/-- The step up the base chain, if both types are classes of one hierarchy. -/
def inheritanceSteps? (r : Registry) (source dest : DataType) : Option Nat :=
  if r.isClass source && r.isClass dest then
    r.inheritanceDepth? source.typeHash dest.typeHash
  else none

/-- Bind a mutable reference. -/
def bindMutable (r : Registry) (source dest : DataType) : StandardConversion :=
  if source.isConst then notConvertible
  else if source.sameBase dest then directBinding
  else
    match inheritanceSteps? r source dest with
    | some depth => directBinding.withDepth depth
    | none => notConvertible

/-- A value or const reference of the source's own type. -/
def sameType (r : Registry) (source dest : DataType) : StandardConversion :=
  if dest.isReference then directBinding.withConst (addedConst source dest)
  else if r.isClass dest && !r.isCopyConstructible dest.typeHash then notConvertible
  else exact

/-- A value or const reference of a base class of the source. -/
def toBase (r : Registry) (source dest : DataType) : StandardConversion :=
  match inheritanceSteps? r source dest with
  | none => notConvertible
  | some depth =>
    if dest.isReference then (directBinding.withDepth depth).withConst (addedConst source dest)
    else if r.isCopyConstructible dest.typeHash then exact.withDepth depth
    else notConvertible

/-- The built-in step from `source` to `dest`. -/
def compute (r : Registry) (source dest : DataType) : StandardConversion :=
  if source.isNull || dest.isNull || !r.isRegistered source || !r.isRegistered dest then
    notConvertible
  else if dest.isMutableRef then bindMutable r source dest
  else if source.sameBase dest then sameType r source dest
  else if source.isArray || dest.isArray then notConvertible
  else
    match r.fundamental? source, r.fundamental? dest with
    | some a, some b => (betweenFundamentals a b).into dest
    | _, target =>
      if r.isEnum source then
        if target = some .int then (ofNumeric (.conversion .integral)).into dest
        else notConvertible
      else toBase r source dest

end StandardConversion

end ScriptSemantics
