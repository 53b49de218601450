import ScriptSemantics.Fundamental

/-!
# Data types

A data type is a type identity with qualifiers: `const`, reference, and array-of. Conversions look
at all of them; the base of a type keeps array-of only, since that changes the value itself.
-/

namespace ScriptSemantics

/-- Qualifiers applied to a base type. -/
structure Qualifiers where
  isConst : Bool := false
  isReference : Bool := false
  isArray : Bool := false
deriving DecidableEq, Inhabited, Repr

namespace Qualifiers

def none : Qualifiers := {}

/-- All qualifiers of either side. -/
def union (a b : Qualifiers) : Qualifiers where
  isConst := a.isConst || b.isConst
  isReference := a.isReference || b.isReference
  isArray := a.isArray || b.isArray

/-- The qualifiers of `a` that `b` lacks. -/
def diff (a b : Qualifiers) : Qualifiers where
  isConst := a.isConst && !b.isConst
  isReference := a.isReference && !b.isReference
  isArray := a.isArray && !b.isArray

/-- Whether `a` has every qualifier of `b`. -/
def contains (a b : Qualifiers) : Bool :=
  (a.isConst || !b.isConst) && (a.isReference || !b.isReference) && (a.isArray || !b.isArray)

/-- Const counts one, reference two, array-of four. -/
def toBits (q : Qualifiers) : Nat :=
  (if q.isConst then 1 else 0) + (if q.isReference then 2 else 0) + (if q.isArray then 4 else 0)

end Qualifiers

/-- A base type with qualifiers. -/
structure DataType where
  typeHash : TypeHash
  qualifiers : Qualifiers := {}
deriving DecidableEq, Inhabited, Repr

namespace DataType

/-! ## Construction -/

/-- The unqualified type. -/
def simple (hash : TypeHash) : DataType := ⟨hash, {}⟩

/-- The type `const T`. -/
def constant (hash : TypeHash) : DataType := ⟨hash, { isConst := true }⟩

/-- The type `T&`. -/
def reference (hash : TypeHash) : DataType := ⟨hash, { isReference := true }⟩

/-- The type `const T&`. -/
def constRef (hash : TypeHash) : DataType := ⟨hash, { isConst := true, isReference := true }⟩

/-- A fundamental type without qualifiers. -/
def ofKind (kind : FundamentalKind) : DataType := simple kind.hash

def void : DataType := ofKind .void

/-! ## Queries -/

def isNull (t : DataType) : Bool := t.typeHash == TypeHash.null

def isAuto (t : DataType) : Bool := t.typeHash == TypeHash.auto

def isConst (t : DataType) : Bool := t.qualifiers.isConst

def isReference (t : DataType) : Bool := t.qualifiers.isReference

def isArray (t : DataType) : Bool := t.qualifiers.isArray

def isConstRef (t : DataType) : Bool := t.isConst && t.isReference

/-- A non-const reference, which binds only to a mutable value. -/
def isMutableRef (t : DataType) : Bool := t.isReference && !t.isConst

def isFundamental (t : DataType) : Bool := t.typeHash.isFundamental && !t.isArray

/-- The type without const and reference. -/
def base (t : DataType) : DataType := ⟨t.typeHash, { isArray := t.isArray }⟩

/-- Same type up to const and reference. -/
def sameBase (a b : DataType) : Bool := a.base == b.base

def withoutRef (t : DataType) : DataType :=
  { t with qualifiers := { t.qualifiers with isReference := false } }

def withoutConst (t : DataType) : DataType :=
  { t with qualifiers := { t.qualifiers with isConst := false } }

/-- The type with more qualifiers. -/
def add (t : DataType) (qualifiers : Qualifiers) : DataType :=
  { t with qualifiers := t.qualifiers.union qualifiers }

/-! ## Text and identity -/

/-- The name of the base type: a keyword, `<null>`, `auto`, or the hash itself. -/
def baseText (t : DataType) : String :=
  match FundamentalKind.ofHash? t.typeHash with
  | some kind => kind.keyword
  | none => if t.isNull then "<null>" else if t.isAuto then "auto" else t.typeHash.text

/-- Const is written in front, then the base type, then `[]` for array-of and `&` for references. -/
def text (t : DataType) : String :=
  (if t.isConst then "const " else "") ++ t.baseText
    ++ (if t.isArray then "[]" else "") ++ (if t.isReference then "&" else "")

instance : ToString DataType := ⟨text⟩

/-- Identity of the type as a component of a signature; it tells the qualifiers apart. -/
def identity (t : DataType) : TypeHash :=
  let word := t.typeHash.bits
  let word := if t.isConst then word ^^^ TypeHash.constMark else word
  let word := if t.isReference then word ^^^ TypeHash.referenceMark else word
  ⟨if t.isArray then rotateLeft word 3 else word⟩

end DataType

/-- A list as messages show it: `[a, b]`. -/
def listText (items : List String) : String :=
  "[" ++ ", ".intercalate items ++ "]"

end ScriptSemantics
