import ScriptSemantics.Declaration.Function
import ScriptSemantics.Declaration.Type

/-!
# Templates

The signature of a template is written with placeholder types, one for each parameter. Where the
host has a part in making instances, the template carries that part as a function: it receives the
arguments and the entity under construction and returns the finished one, or a reason for refusal.
-/

namespace ScriptSemantics

/-! ## What the host provides -/

/-- The host's part in instances of a natively implemented function template. -/
structure FunctionHooks where
  /-- Adjusts the substituted signature before it is registered. -/
  adjust? : Option (List TemplateArgument → FunctionDecl → Except String FunctionDecl) := none
  /-- Produces the body of a registered instance. -/
  produce : List TemplateArgument → FunctionDecl → Except String FunctionBody

/-- Where instances of a function template get their bodies from. -/
inductive FunctionBackend where
  | native (hooks : FunctionHooks)
  /-- A script body, compiled anew for each instance. -/
  | script (body : Nat)

/-- An instance of a class template under construction, with the members to register along. -/
structure ClassInstance where
  decl : ClassDecl
  functions : List FunctionDecl := []
deriving DecidableEq, Inhabited, Repr

/-- Where instances of a class template get their members from. -/
inductive ClassBackend where
  /-- The built-in list type, whose instances have an element type and no members. -/
  | elementList
  /-- The host fills in the instance. -/
  | host (fill : List TemplateArgument → ClassInstance → Except String ClassInstance)

/-! ## Function templates -/

/-- A function template. -/
structure FunctionTemplate where
  name : String
  /-- Path of the namespace it was declared in. -/
  path : String := ""
  qualifiedName : String
  hash : TypeHash
  /-- Owning class of member templates. -/
  owner : Option TypeHash := none
  params : List TemplateParameter := []
  /-- Parameter patterns, written with placeholders. -/
  signature : List Param := []
  returnType : DataType := .void
  backend : FunctionBackend

/-- The entries to register for the parameters of a template. -/
def placeholdersOf (owner : TypeHash) (params : List TemplateParameter) : List Placeholder :=
  params.zipIdx.map fun (param, index) =>
    { hash := param.typeHash, name := param.name, owner := owner, index := index,
      kind := param.kind }

namespace FunctionTemplate

/-- Identity of the template of this name; `overload` tells apart templates that share a name. -/
def identify (path name : String) (overload : Nat) : TypeHash :=
  .ofFunction ("template " ++ Path.qualify path name) [⟨UInt64.ofNat overload + 1⟩]

/-- A template without parameters. -/
def declare (path name : String) (overload : Nat) (backend : FunctionBackend) :
    FunctionTemplate where
  name := name
  path := path
  qualifiedName := Path.qualify path name
  hash := identify path name overload
  backend := backend

/-- Add a parameter at the end. -/
def addParam (t : FunctionTemplate) (name : String) (kind : TemplateParamKind)
    (default? : Option TemplateDefault := none) : FunctionTemplate :=
  let param := { TemplateParameter.declare t.hash t.params.length name kind with
    default? := default? }
  { t with params := t.params ++ [param] }

/-- Position of the parameter with this placeholder. -/
def paramIndex? (t : FunctionTemplate) (hash : TypeHash) : Option Nat :=
  t.params.findIdx? fun param => param.typeHash == hash

def placeholders (t : FunctionTemplate) : List Placeholder := placeholdersOf t.hash t.params

end FunctionTemplate

/-! ## Class templates -/

/-- A class template. -/
structure ClassTemplate where
  name : String
  /-- Path of the namespace it was declared in. -/
  path : String := ""
  qualifiedName : String
  hash : TypeHash
  params : List TemplateParameter := []
  backend : ClassBackend

namespace ClassTemplate

/-- A template without parameters, identified by its qualified name. -/
def declare (path name : String) (backend : ClassBackend) : ClassTemplate where
  name := name
  path := path
  qualifiedName := Path.qualify path name
  hash := .ofName (Path.qualify path name)
  backend := backend

/-- Add a parameter at the end. -/
def addParam (t : ClassTemplate) (name : String) (kind : TemplateParamKind)
    (default? : Option TemplateDefault := none) : ClassTemplate :=
  let param := { TemplateParameter.declare t.hash t.params.length name kind with
    default? := default? }
  { t with params := t.params ++ [param] }

/-- Fix the identity. The placeholders follow it. -/
def withIdentity (t : ClassTemplate) (hash : TypeHash) : ClassTemplate :=
  { t with
    hash := hash
    params := t.params.zipIdx.map fun (param, index) =>
      { param with typeHash := .ofTemplateParam hash index } }

def placeholders (t : ClassTemplate) : List Placeholder := placeholdersOf t.hash t.params

/-- Name of the instance for an argument list, such as `List<int>`. -/
def instanceName (t : ClassTemplate) (arguments : List TemplateArgument) : String :=
  templateIdText t.name arguments

end ClassTemplate

end ScriptSemantics
