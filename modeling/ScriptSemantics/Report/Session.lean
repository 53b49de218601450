import ScriptSemantics.Report.Analysis
import ScriptSemantics.Session.FunctionTemplate

/-!
# Reports on sessions

Deduced arguments, declared instances, resolved calls, and the events of a session.
-/

namespace ScriptSemantics

instance : Reportable Deduction := ⟨fun d => .of (d.index, d.value)⟩

instance : Reportable DeclaredInstance where
  report
    | .existing function => .record [("existing", .of function)]
    | .signature function arguments =>
      .record [("signature", .of function), ("args", .of arguments)]

instance : Reportable CallResolution where
  report call := .record [("resolution", .of call.resolution), ("rejected", .of call.rejected)]

instance : Reportable SessionEvent where
  report
    | .adjusted function arguments =>
      .record [("hook", .of "substitute"), ("function", .of function), ("args", .of arguments)]
    | .produced function arguments =>
      .record [("hook", .of "instantiate"), ("function", .of function), ("args", .of arguments)]
    | .filled name arguments =>
      .record [("hook", .of "class"), ("class", .of name), ("args", .of arguments)]
    | .compiled body template function arguments depth =>
      .record [("hook", .of "body"), ("body", .of body), ("template", .of template),
        ("function", .of function), ("args", .of arguments), ("depth", .of depth)]
    | .called selected => .record [("hook", .of "called"), ("selected", .of selected)]
    | .completed _ key hash =>
      .record [("template", .of key.template), ("args", .of key.arguments), ("instance", .of hash)]

/-- An instance by key: the completed one, whether there is one, and whether it is under
construction. -/
def InstanceCache.entry (cache : InstanceCache) (key : InstanceKey) : List Report :=
  [.of (cache.get? key), .of (cache.contains key), .of (cache.isInProgress key)]

/-- Numbers of types, functions, function instances and class instances, and the nesting. -/
def Session.counts (s : Session) : List Nat :=
  [s.registry.types.size, s.registry.functions.size, s.functionInstances.size,
    s.classInstances.size, s.depth]

/-! ## Identifiers -/

/-- How an identifier is put together. -/
def Identifier.shape : Identifier → Report
  | simple name => .text name
  | operator op => .record [("operator", .of op)]
  | qualified qualifier name => .list [qualifier.shape, name.shape]
  | template name arguments => .record [("template", .text name), ("args", .of arguments)]

end ScriptSemantics
