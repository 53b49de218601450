import ScriptSemantics.Table
import ScriptSemantics.TemplateArgument

/-!
# Instances of templates

Instances are keyed by template and completed argument list, so that one key always yields one
instance. Keys under construction are kept apart: meeting one of them again means that the
instantiation requires itself.
-/

namespace ScriptSemantics

/-- A template with a completed argument list. -/
structure InstanceKey where
  template : TypeHash
  arguments : List TemplateArgument
deriving DecidableEq, Inhabited, Repr

/-- Completed instances and the keys under construction. -/
structure InstanceCache where
  instances : Table InstanceKey TypeHash := {}
  inProgress : List InstanceKey := []
deriving DecidableEq, Inhabited, Repr

namespace InstanceCache

/-- The completed instance of a key. -/
def get? (cache : InstanceCache) (key : InstanceKey) : Option TypeHash := cache.instances.get? key

def contains (cache : InstanceCache) (key : InstanceKey) : Bool := (cache.get? key).isSome

def isInProgress (cache : InstanceCache) (key : InstanceKey) : Bool := cache.inProgress.contains key

/-- Mark a key as under construction, once. -/
def start (cache : InstanceCache) (key : InstanceKey) : InstanceCache :=
  if cache.isInProgress key then cache else { cache with inProgress := key :: cache.inProgress }

/-- Forget that a key is under construction. -/
def abandon (cache : InstanceCache) (key : InstanceKey) : InstanceCache :=
  { cache with inProgress := cache.inProgress.filter fun k => k ≠ key }

/-- Record the instance of a key. -/
def finish (cache : InstanceCache) (key : InstanceKey) (hash : TypeHash) : InstanceCache :=
  { cache.abandon key with instances := cache.instances.insert key hash }

/-- All completed instances of a template, oldest first. -/
def instancesOf (cache : InstanceCache) (template : TypeHash) : List TypeHash :=
  (cache.instances.entries.filter fun entry => entry.1.template == template).map Prod.snd

/-- Number of completed instances. -/
def size (cache : InstanceCache) : Nat := cache.instances.size

end InstanceCache

end ScriptSemantics
