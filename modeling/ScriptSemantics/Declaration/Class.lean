import ScriptSemantics.Path
import ScriptSemantics.TemplateArgument

/-!
# Classes

A class declaration holds its data members and the identities of its member functions, which are
registered separately. Ordinary classes and instances of class templates share this form.
-/

namespace ScriptSemantics

/-- Flags of a class. -/
structure ClassFlags where
  isFinal : Bool := false
  isAbstract : Bool := false
  /-- Has no copy constructor, implicit or declared. -/
  isNonCopyable : Bool := false
deriving DecidableEq, Inhabited, Repr

namespace ClassFlags

/-- All flags of either side. -/
def union (a b : ClassFlags) : ClassFlags where
  isFinal := a.isFinal || b.isFinal
  isAbstract := a.isAbstract || b.isAbstract
  isNonCopyable := a.isNonCopyable || b.isNonCopyable

/-- Final counts one, abstract two, non-copyable four. -/
def toBits (flags : ClassFlags) : Nat :=
  (if flags.isFinal then 1 else 0) + (if flags.isAbstract then 2 else 0)
    + (if flags.isNonCopyable then 4 else 0)

/-- The flag of a keyword. -/
def ofKeyword? : String → Option ClassFlags
  | "final" => some { isFinal := true }
  | "abstract" => some { isAbstract := true }
  | "non_copyable" => some { isNonCopyable := true }
  | _ => none

end ClassFlags

/-- A name with its type: a data member, a static member or a capture. -/
structure TypedName where
  name : String
  dataType : DataType
deriving DecidableEq, Inhabited, Repr

/-- Position and type of the first entry called `name`. -/
def TypedName.find? (names : List TypedName) (name : String) : Option (Nat × DataType) :=
  (names.zipIdx.find? fun entry => entry.1.name == name).map fun (entry, index) =>
    (index, entry.dataType)

/-- A class type. -/
structure ClassDecl where
  name : String
  /-- Path of the namespace it was declared in. -/
  path : String := ""
  qualifiedName : String
  hash : TypeHash
  /-- The base class; inheritance is single. -/
  base : Option TypeHash := none
  constructors : List TypeHash := []
  destructor : Option TypeHash := none
  casts : List TypeHash := []
  /-- Methods and member operators. -/
  methods : List TypeHash := []
  members : List TypedName := []
  statics : List TypedName := []
  /-- Types declared inside the class. -/
  nested : List TypeHash := []
  /-- Member function templates. -/
  memberTemplates : List TypeHash := []
  /-- The class template this is an instance of. -/
  template : Option TypeHash := none
  templateArgs : List TemplateArgument := []
  flags : ClassFlags := {}
deriving DecidableEq, Inhabited, Repr

namespace ClassDecl

/-- A class identified by its qualified name. -/
def declare (path name : String) : ClassDecl where
  name := name
  path := path
  qualifiedName := Path.qualify path name
  hash := .ofName (Path.qualify path name)

/-- The instance of a class template, before its members are filled in. -/
def templateInstance (path name : String) (template : TypeHash)
    (arguments : List TemplateArgument) : ClassDecl where
  name := name
  path := path
  qualifiedName := Path.qualify path name
  hash := .ofTemplateInstance template arguments
  template := some template
  templateArgs := arguments

def dataType (c : ClassDecl) : DataType := .simple c.hash

def isTemplateInstance (c : ClassDecl) : Bool := c.template.isSome

def isInstanceOf (c : ClassDecl) (template : TypeHash) : Bool := c.template == some template

end ClassDecl

end ScriptSemantics
