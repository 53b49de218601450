import ScriptSemantics.TypeHash

/-!
# Fundamental types and reserved identities

The six fundamental types have fixed identities. Three more identities are reserved: `auto`, the
type of a brace list before it meets a destination, and the built-in list template.
-/

namespace ScriptSemantics

/-- The fundamental types, in the order of the conversion table. -/
inductive FundamentalKind where
  | void
  | bool
  | char
  | int
  | float
  | double
deriving DecidableEq, Inhabited, Repr

namespace TypeHash

/-- The type to be deduced from context. -/
def auto : TypeHash := ⟨0x5f1c04a96e3d00a0⟩

/-- The type of a brace list before it is bound to a destination. -/
def initializerList : TypeHash := ⟨0x5f1c04a96e3d00a1⟩

/-- The built-in class template `initializer_list<T>`. -/
def initializerListTemplate : TypeHash := ⟨0x5f1c04a96e3d00a2⟩

end TypeHash

namespace FundamentalKind

/-- All fundamental types in table order. -/
def all : List FundamentalKind := [void, bool, char, int, float, double]

/-- Fixed identity of a fundamental type. -/
def hash : FundamentalKind → TypeHash
  | void => ⟨0x5f1c04a96e3d0001⟩
  | bool => ⟨0x5f1c04a96e3d0002⟩
  | char => ⟨0x5f1c04a96e3d0003⟩
  | int => ⟨0x5f1c04a96e3d0004⟩
  | float => ⟨0x5f1c04a96e3d0005⟩
  | double => ⟨0x5f1c04a96e3d0006⟩

/-- Source spelling. -/
def keyword : FundamentalKind → String
  | void => "void"
  | bool => "bool"
  | char => "char"
  | int => "int"
  | float => "float"
  | double => "double"

/-- Position in the conversion table. -/
def index : FundamentalKind → Nat
  | void => 0
  | bool => 1
  | char => 2
  | int => 3
  | float => 4
  | double => 5

/-- The fundamental type with this identity, if it is one. -/
def ofHash? (hash : TypeHash) : Option FundamentalKind :=
  all.find? fun kind => kind.hash == hash

/-- The fundamental type with this spelling, if it is one. -/
def ofKeyword? (word : String) : Option FundamentalKind :=
  all.find? fun kind => kind.keyword == word

/-- The fundamental type at this position of the conversion table. -/
def ofIndex? (index : Nat) : Option FundamentalKind :=
  all[index]?

/-- Whether values take part in arithmetic. -/
def isArithmetic : FundamentalKind → Bool
  | void | bool => false
  | _ => true

end FundamentalKind

/-- Whether an identity belongs to a fundamental type. -/
def TypeHash.isFundamental (hash : TypeHash) : Bool :=
  (FundamentalKind.ofHash? hash).isSome

end ScriptSemantics
