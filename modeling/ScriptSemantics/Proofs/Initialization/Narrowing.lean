import ScriptSemantics.Proofs.Conversion.Validity

/-!
# Brace Lists Never Narrow

An initialization from a brace list is a tree: each child initializes some destination from one
element, which may be a brace list again. Narrowing is looked at in one place only, where the
children of a list are built one after the other, and a construction by itself never counts as
narrowing. The whole tree is safe because that place is the only source of children:

1. `Passed` says what a child is: the initialization of an element that neither failed nor narrows;
2. every way to build a construction takes its children from there, or has none;
3. so every part of the tree but its root has passed (`passed_of_occurs`).

The main statement is `list_part_never_narrows`.
-/

namespace ScriptSemantics

/-! ## Narrowing, step by step -/

namespace StandardConversion

/-- A numeric conversion, which may lose information; promotions and exact matches never do. -/
def Narrows (c : StandardConversion) : Prop :=
  ∃ s kind, c = step s ∧ s.numeric = .conversion kind

theorem isNarrowing_iff (c : StandardConversion) : c.isNarrowing ↔ c.Narrows := by
  cases c with
  | notConvertible => simp [isNarrowing, Narrows]
  | step s =>
    obtain ⟨numeric, addsConst, depth, binding⟩ := s
    cases numeric <;> simp [isNarrowing, Narrows]

end StandardConversion

namespace Conversion

/-- The standard steps of a conversion: one alone, or those around a constructor or cast. -/
def steps (c : Conversion) : List StandardConversion :=
  match c.route with
  | .standard step => [step]
  | .userDefined before _ after => [before, after]

theorem isNarrowing_iff (c : Conversion) : c.isNarrowing ↔ ∃ step ∈ c.steps, step.Narrows := by
  obtain ⟨route, source, dest⟩ := c
  simp only [isNarrowing, first, second, steps, Bool.or_eq_true,
    StandardConversion.isNarrowing_iff]
  cases route with
  | standard step =>
    -- What follows a standard conversion is an exact match.
    simp [StandardConversion.Narrows, StandardConversion.exact]
  | userDefined before function after => simp

end Conversion

namespace Initialization

/-! ## The tree -/

/-- The first initialization stands somewhere in the tree of the second one. -/
inductive Occurs : Initialization → Initialization → Prop
  | here (init : Initialization) : Occurs init init
  | inside {part child init : Initialization} (member : child ∈ init.children)
      (occurs : Occurs part child) : Occurs part init

/-- The initialization of an element that went into a list: it did not fail and does not narrow. -/
structure Passed (elements : List Element) (child : Initialization) : Prop where
  source : ∃ element ∈ elements, ∃ dest, child = element.into dest
  succeeded : child.failure? = none
  notNarrowing : child.isNarrowing = false

theorem passed_of_each {index : Nat} {pairs : List (DataType × Element)}
    {elements : List Element} {children : List Initialization}
    (among : ∀ pair ∈ pairs, pair.2 ∈ elements) (built : each index pairs = .ok children) :
    ∀ child ∈ children, Passed elements child := by
  induction pairs generalizing index children with
  | nil =>
    cases built
    simp
  | cons pair pairs ih =>
    obtain ⟨dest, element⟩ := pair
    rw [each] at built
    -- Both checks stand in front of the rest of the list.
    split at built
    · cases built
    · rename_i succeeded
      split at built
      · cases built
      · rename_i notNarrowing
        split at built
        · rename_i rest restBuilt
          cases built
          intro child member
          rcases List.mem_cons.1 member with rfl | later
          · exact ⟨⟨element, among _ List.mem_cons_self, dest, rfl⟩, succeeded,
              by simpa using notNarrowing⟩
          · exact ih (fun pair h => among pair (List.mem_cons_of_mem _ h)) restBuilt child later
        · cases built

/-! ## Every construction

A construction of whatever form takes its children from the elements, or has none. -/

/-- All children have passed. -/
def ChildrenPassed (elements : List Element) (init : Initialization) : Prop :=
  ∀ child ∈ init.children, Passed elements child

variable {r : Registry} {dest : DataType} {elements : List Element}

theorem childrenPassed_failed (failure : InitFailure) :
    ChildrenPassed elements (failed failure) := by
  intro child member
  cases member

theorem childrenPassed_construct (form : ConstructionForm) (constructor : Option TypeHash)
    {pairs : List (DataType × Element)} (among : ∀ pair ∈ pairs, pair.2 ∈ elements) :
    ChildrenPassed elements (construct form dest constructor (each 0 pairs)) := by
  cases built : each 0 pairs with
  | ok children => exact passed_of_each among built
  | error failure => exact childrenPassed_failed failure

theorem childrenPassed_ofElements (form : ConstructionForm) (constructor : Option TypeHash)
    (elementType : DataType) :
    ChildrenPassed elements (ofElements form dest constructor elementType elements) := by
  apply childrenPassed_construct
  intro pair member
  obtain ⟨element, known, rfl⟩ := List.mem_map.1 member
  exact known

theorem childrenPassed_ofMembers (members : List TypedName) :
    ChildrenPassed elements (ofMembers dest members elements) := by
  unfold ofMembers
  split
  · exact childrenPassed_failed _
  · apply childrenPassed_construct
    exact fun pair member => (List.of_mem_zip member).2

theorem childrenPassed_ofPositional (narrowing : Option InitFailure)
    (ctors : List FunctionDecl) :
    ChildrenPassed elements (ofPositional dest elements narrowing ctors) := by
  induction ctors generalizing narrowing with
  | nil => exact childrenPassed_failed _
  | cons ctor ctors ih =>
    unfold ofPositional
    split
    · exact ih narrowing
    · split
      · -- The first constructor whose elements all pass.
        rename_i children built
        exact passed_of_each (fun pair member => (List.of_mem_zip member).2) built
      · exact ih _

theorem childrenPassed_ofClassList (c : ClassDecl) :
    ChildrenPassed elements (ofClassList r dest c elements) := by
  unfold ofClassList
  split
  · exact childrenPassed_ofMembers c.members
  · simp only
    split
    · exact childrenPassed_ofElements _ _ _
    · exact childrenPassed_ofPositional _ _

/-- Without an initializer there is nothing to build from. -/
theorem children_default (r : Registry) (dest : DataType) : (default r dest).children = [] := by
  unfold default
  simp only
  split
  · rfl
  split
  · rfl
  split
  · split <;> rfl
  split
  · rfl
  split
  · rfl
  · split <;> rfl

/-- Whichever way a brace list is taken, all children have passed. -/
theorem childrenPassed_ofList : ChildrenPassed elements (ofList r dest elements) := by
  unfold ofList
  split
  · exact childrenPassed_failed _
  split
  · exact childrenPassed_ofElements _ _ _
  split
  · intro child member
    rw [children_default] at member
    cases member
  split
  · exact childrenPassed_failed _
  split
  · exact childrenPassed_failed _
  · exact childrenPassed_ofClassList _

/-! ## Expressions -/

theorem elementsOf_eq_map (r : Registry) (es : List Expression) :
    elementsOf r es = es.map fun e => { dataType := e.dataType, into := ofExpression r e } := by
  induction es with
  | nil => rw [elementsOf, List.map_nil]
  | cons e es ih => rw [elementsOf, ih, List.map_cons]

/-- A value is not built from parts. -/
theorem children_ofType (r : Registry) (dest source : DataType) (style : InitStyle) :
    (ofType r dest source style).children = [] := by
  rcases ofType_cases r dest source style with ⟨failure, h⟩ | ⟨manner, c, target, h, -⟩
  · rw [h]
    rfl
  · rw [h]
    rfl

/-- The children of an initialization from an expression are initializations from the elements of a
brace list, and have passed. -/
theorem passed_of_mem_children {e : Expression} {child : Initialization}
    (member : child ∈ (ofExpression r e dest).children) :
    ∃ es inner target, e = .list es ∧ inner ∈ es ∧ child = ofExpression r inner target ∧
      child.failure? = none ∧ child.isNarrowing = false := by
  cases e with
  | list es =>
    rw [ofExpression] at member
    obtain ⟨⟨element, known, target, rfl⟩, succeeded, notNarrowing⟩ :=
      childrenPassed_ofList child member
    rw [elementsOf_eq_map] at known
    obtain ⟨inner, isElement, rfl⟩ := List.mem_map.1 known
    exact ⟨es, inner, target, rfl, isElement, rfl, succeeded, notNarrowing⟩
  | literal t | named t | call _ t | lambda t =>
    rw [ofExpression, children_ofType] at member
    cases member

/-- Every part of the tree but its root has passed. -/
theorem passed_of_occurs {e : Expression} {part : Initialization}
    (occurs : Occurs part (ofExpression r e dest)) :
    part = ofExpression r e dest ∨ part.failure? = none ∧ part.isNarrowing = false := by
  -- Along the way down: each child is the tree of an expression of its own.
  generalize root : ofExpression r e dest = init at occurs
  induction occurs generalizing e dest with
  | here => exact .inl rfl
  | inside member occurs ih =>
    subst root
    obtain ⟨-, inner, target, -, -, rfl, succeeded, notNarrowing⟩ := passed_of_mem_children member
    rcases ih rfl with rfl | passed
    · exact .inr ⟨succeeded, notNarrowing⟩
    · exact .inr passed

/-- The root of a list is no conversion. -/
theorem conversion?_ofList (r : Registry) (dest : DataType) (elements : List Element) :
    (ofList r dest elements).conversion? = none := by
  have shape := failedOrStructured_ofList r dest elements
  cases h : ofList r dest elements with
  | failed | constructed => rfl
  | converted =>
    rw [h] at shape
    cases shape rfl

/-- **Brace lists never narrow**: if the initialization from a brace list is valid, then nothing in
its tree, at whatever depth, has failed or narrows. No conversion there takes a numeric conversion,
neither alone nor before or after a constructor or cast. -/
theorem list_part_never_narrows (r : Registry) (dest : DataType) (elements : List Expression)
    (valid : (ofExpression r (.list elements) dest).isValid) {part : Initialization}
    (occurs : Occurs part (ofExpression r (.list elements) dest)) :
    part.failure? = none ∧ part.isNarrowing = false ∧
      ∀ conversion, part.conversion? = some conversion →
        ∀ step ∈ conversion.steps, ¬step.Narrows := by
  have checked : part.failure? = none ∧ part.isNarrowing = false := by
    rcases passed_of_occurs occurs with rfl | passed
    · -- The root was not checked by any list, but it is a construction.
      rw [ofExpression] at valid ⊢
      have root := conversion?_ofList r dest (elementsOf r elements)
      cases shape : ofList r dest (elementsOf r elements) with
      | constructed => exact ⟨rfl, rfl⟩
      | failed =>
        rw [shape] at valid
        cases valid
      | converted =>
        rw [shape] at root
        cases root
    · exact passed
  refine ⟨checked.1, checked.2, ?_⟩
  intro conversion carries step member narrows
  have narrowing : conversion.isNarrowing := (conversion.isNarrowing_iff).2 ⟨step, member, narrows⟩
  cases part with
  | failed | constructed => cases carries
  | converted manner c =>
    cases carries
    rw [isNarrowing, narrowing] at checked
    cases checked.2

/-! A list of points, written as nested brace lists. One coordinate is a number of another kind, and
one is an object with a cast. -/

/-- A class with a cast to `float`. -/
def lengthClass : ClassDecl where
  name := "Length"
  qualifiedName := "Length"
  hash := ⟨1⟩
  casts := [⟨11⟩]

/-- A class without constructors. -/
def pointClass : ClassDecl where
  name := "Point"
  qualifiedName := "Point"
  hash := ⟨2⟩
  members := [⟨"x", .ofKind .double⟩, ⟨"y", .ofKind .double⟩]

def pointListClass : ClassDecl :=
  .templateInstance "" "initializer_list<Point>" .initializerListTemplate [.ofHash pointClass.hash]

def toFloat : FunctionDecl where
  hash := ⟨11⟩
  name := "$cast"
  kind := .cast
  owner := some lengthClass.hash
  returnType := .ofKind .float
  traits := { isConst := true }

def points : Registry where
  types := { entries := [
    (FundamentalKind.int.hash, .fundamental .int),
    (FundamentalKind.float.hash, .fundamental .float),
    (FundamentalKind.double.hash, .fundamental .double),
    (lengthClass.hash, .classType lengthClass),
    (pointClass.hash, .classType pointClass),
    (pointListClass.hash, .classType pointListClass)] }
  functions := { entries := [(toFloat.hash, toFloat)] }

/-- The brace list `{{1, length}}`. -/
def nestedPoints : List Expression :=
  [.list [.literal (.ofKind .int), .named lengthClass.dataType]]

/-- The coordinate from the object: the cast to `float` between two steps. -/
def castCoordinate : Conversion :=
  .userDefined (.step { addsConst := true, binding := .reference }) toFloat.hash
    (.ofNumeric (.promotion .floatingPoint)) lengthClass.dataType (.ofKind .double)

/-- The tree of the brace list. -/
def pointTree : Initialization :=
  .constructed .builtinList pointListClass.dataType none [
    .constructed .aggregate pointClass.dataType none [
      .converted .copy (.standard (.ofNumeric (.promotion .floatingPoint)) (.ofKind .int)
        (.ofKind .double)),
      .converted .copy castCoordinate]]

theorem ofExpression_nestedPoints :
    ofExpression points (.list nestedPoints) pointListClass.dataType = pointTree := rfl

/-- Two levels down, both steps around the cast are free of narrowing. -/
theorem list_part_never_narrows_points :
    (ofExpression points (.list nestedPoints) pointListClass.dataType).isValid ∧
      Occurs (.converted .copy castCoordinate)
        (ofExpression points (.list nestedPoints) pointListClass.dataType) ∧
      castCoordinate.isUserDefined ∧ ∀ step ∈ castCoordinate.steps, ¬step.Narrows := by
  have valid : (ofExpression points (.list nestedPoints) pointListClass.dataType).isValid := rfl
  have occurs : Occurs (.converted .copy castCoordinate)
      (ofExpression points (.list nestedPoints) pointListClass.dataType) := by
    rw [ofExpression_nestedPoints]
    apply Occurs.inside (List.mem_singleton_self _)
    apply Occurs.inside (List.mem_cons_of_mem _ (List.mem_singleton_self _))
    exact .here _
  have safe :=
    (list_part_never_narrows points pointListClass.dataType nestedPoints valid occurs).2.2
  exact ⟨valid, occurs, rfl, safe castCoordinate rfl⟩

end Initialization

end ScriptSemantics
