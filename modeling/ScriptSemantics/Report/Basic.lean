/-!
# Reports

A report is a structured description of a value, in a form that any data format can carry. Hosts
and tools show reports; analysis itself never reads one. `Reportable` collects the values that have
a report.
-/

namespace ScriptSemantics

/-- A structured description. -/
inductive Report where
  | none
  | flag (value : Bool)
  | number (value : Int)
  | text (value : String)
  | list (items : List Report)
  | record (fields : List (String × Report))
deriving Inhabited, Repr

/-- Values that can be described. -/
class Reportable (α : Type) where
  report : α → Report

namespace Report

/-- The description of a value. -/
def of {α : Type} [Reportable α] (value : α) : Report := Reportable.report value

/-- The fields of a record; other reports have none. -/
def fields : Report → List (String × Report)
  | record fields => fields
  | _ => []

/-- A record with further fields. -/
def extend (report : Report) (more : List (String × Report)) : Report :=
  record (report.fields ++ more)

end Report

instance : Reportable Report := ⟨id⟩

instance : Reportable Bool := ⟨.flag⟩

instance : Reportable Nat := ⟨fun n => .number n⟩

instance : Reportable Int64 := ⟨fun i => .number i.toInt⟩

instance : Reportable String := ⟨.text⟩

instance {α : Type} [Reportable α] : Reportable (List α) := ⟨fun items => .list (items.map .of)⟩

instance {α : Type} [Reportable α] : Reportable (Option α) where
  report
    | some value => .of value
    | none => .none

instance {α β : Type} [Reportable α] [Reportable β] : Reportable (α × β) :=
  ⟨fun (a, b) => .list [.of a, .of b]⟩

/-- A computation is described by its value or its error. -/
instance {ε α : Type} [Reportable ε] [Reportable α] : Reportable (Except ε α) where
  report
    | .ok value => .of value
    | .error e => .of e

end ScriptSemantics
