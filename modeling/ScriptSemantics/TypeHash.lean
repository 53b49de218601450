import ScriptSemantics.Digest

/-!
# Identities

Every entity is keyed by a `TypeHash`: a 64-bit word computed from its name (types) or from its
name and signature (functions). An identity can be computed before the entity is registered, so a
class may refer to itself or to a type declared later.

Each family of entities mixes in a constant of its own, which keeps a function called `Point` apart
from a class called `Point`. Components of a signature are folded in by `mix`, which multiplies by a
separator and marks every component with its position.
-/

namespace ScriptSemantics

/-- A 64-bit identity. -/
structure TypeHash where
  /-- The identity as a word. -/
  bits : UInt64
deriving DecidableEq, Inhabited, Repr

namespace TypeHash

/-! ## Text -/

/-- The lower-case hexadecimal digit of a number below 16. -/
def hexDigit (digit : Nat) : Char :=
  if digit < 10 then Char.ofNat (48 + digit) else Char.ofNat (87 + digit)

/-- The last `width` hexadecimal digits of a number, most significant first. -/
def hexDigits : (width : Nat) → Nat → List Char
  | 0, _ => []
  | width + 1, number => hexDigits width (number / 16) ++ [hexDigit (number % 16)]

/-- A hash is written `0x` and sixteen lower-case hexadecimal digits. -/
def text (hash : TypeHash) : String :=
  "0x" ++ String.ofList (hexDigits 16 hash.bits.toNat)

instance : ToString TypeHash := ⟨text⟩

/-! ## Family constants -/

/-- Combines successive components of a signature. -/
def separator : UInt64 := 0xf2a74de452e6b438
/-- Marks type names. -/
def typeMark : UInt64 := 0x6513270e269e0d37
/-- Marks free functions. -/
def functionMark : UInt64 := 0x0c5c7fd0a6a3a450
/-- Marks methods. -/
def methodMark : UInt64 := 0xd23f0824128b2f33
/-- Marks constructors. -/
def constructorMark : UInt64 := 0x1818e811892f902b
/-- Marks instances of class and function templates. -/
def instanceMark : UInt64 := 0x9531985d5d9dc9f8
/-- Marks function signature types. -/
def functionTypeMark : UInt64 := 0xe8e25d940ed90475
/-- Marks template parameters. -/
def templateParamMark : UInt64 := 0x36f675cc81e74ef5
/-- Marks template arguments that are booleans. -/
def boolMark : UInt64 := 0x1600a35a099950d8
/-- Marks template arguments that are integers. -/
def integerMark : UInt64 := 0x6b0d549b6f03675a
/-- Mixed in for const components. -/
def constMark : UInt64 := 0x3d9c172411e20b8f
/-- Mixed in for reference components. -/
def referenceMark : UInt64 := 0x8d116ece1738f7d9

/-! ## Mixing -/

/-- Fold components into `acc`, the first of them at position `position`. -/
def mixFrom : (position acc : UInt64) → List UInt64 → UInt64
  | _, acc, [] => acc
  | position, acc, item :: items =>
    mixFrom (position + 1)
      (acc * separator + (rotateLeft (position * separator) 29 ^^^ item)) items

/-- Fold a sequence of components into a seed. Positions count from one, so order matters. -/
def mix (seed : UInt64) (items : List TypeHash) : TypeHash :=
  ⟨mixFrom 1 seed (items.map bits)⟩

/-! ## Identities of entities -/

/-- The empty identity, which names no type. -/
def null : TypeHash := ⟨0⟩

def isEmpty (hash : TypeHash) : Bool := hash.bits == 0

/-- Identity of a type with this qualified name. -/
def ofName (name : String) : TypeHash :=
  ⟨typeMark ^^^ Digest.ofString name⟩

/-- Identity of a free function with this qualified name and these parameters. -/
def ofFunction (name : String) (params : List TypeHash) : TypeHash :=
  mix (functionMark ^^^ Digest.ofString name) params

/-- Identity of a method. Whether it is const is part of its identity. -/
def ofMethod (owner : TypeHash) (name : String) (params : List TypeHash) (isConst : Bool) :
    TypeHash :=
  let seed := methodMark ^^^ rotateLeft owner.bits 17 ^^^ Digest.ofString name
  mix (if isConst then seed ^^^ constMark else seed) params

/-- Identity of a constructor of `owner`. -/
def ofConstructor (owner : TypeHash) (params : List TypeHash) : TypeHash :=
  mix (constructorMark ^^^ owner.bits) params

/-- Identity of the instance of `template` whose arguments have these identities. -/
def ofInstance (template : TypeHash) (arguments : List TypeHash) : TypeHash :=
  mix (instanceMark ^^^ template.bits) arguments

/-- Identity of a function signature type. -/
def ofFunctionType (result : TypeHash) (params : List TypeHash) : TypeHash :=
  mix (functionTypeMark ^^^ result.bits) params

/-- Identity of the parameter of `owner` at position `index`. -/
def ofTemplateParam (owner : TypeHash) (index : Nat) : TypeHash :=
  ⟨(templateParamMark ^^^ owner.bits) * separator + (UInt64.ofNat index + 1)⟩

/-- Number of different identities. A chain without repetitions is no longer than this. -/
def count : Nat := UInt64.size

end TypeHash

end ScriptSemantics
