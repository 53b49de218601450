import ScriptSemantics.Proofs.Initialization.Coherence

/-!
# Elements of a Brace List

A brace list is laid out over destinations, one for each of its elements: the element type of a list
over and over, the parameters of a constructor, or the data members of a class. `Layout` lists the
ways, each with the form it leads to.

Elements and destinations are paired up from the front, and surplus ones on either side would be
dropped in silence. That never happens: every layout has as many destinations as there are elements
(`Layout.length_eq`). So a construction has one child for each element.

Where the layout does not depend on the elements (all forms but positional ones), a list that fails
does so at its first bad element: the first one that is invalid or narrows.

The main statement is `list_children_by_element`.
-/

namespace ScriptSemantics

/-- The place of the element that a failure is about, if it is about one; the outermost one if
lists are nested. -/
def InitFailure.index? : InitFailure → Option Nat
  | narrowing index _ _ | element index _ => some index
  | _ => none

/-- The forms whose layout is known before the elements are looked at. -/
def ConstructionForm.Fixed (form : ConstructionForm) : Prop :=
  form = .builtinList ∨ form = .listConstructor ∨ form = .aggregate

namespace Initialization

variable {r : Registry} {dest : DataType} {elements : List Element}

/-! ## One element after the other -/

/-- No list takes such an element. -/
def Refused (init : Initialization) : Prop := ¬init.isValid ∨ init.isNarrowing

/-- An element is taken exactly if it has not failed and does not narrow. -/
theorem Coherent.not_refused_iff {init : Initialization} (coherent : init.Coherent) :
    ¬init.Refused ↔ init.failure? = none ∧ init.isNarrowing = false := by
  rw [Refused, coherent.isValid_iff_failure?, not_or, not_not, Bool.not_eq_true]

/-- The failure of a list over the initialization of its element at some place, whose type is
`source`. -/
inductive Reports (index : Nat) (source dest : DataType) (init : Initialization) :
    InitFailure → Prop
  | element {failure : InitFailure} (failed : init.failure? = some failure) :
      Reports index source dest init (.element index failure)
  | narrowing (succeeded : init.failure? = none) (narrows : init.isNarrowing) :
      Reports index source dest init (.narrowing index source dest)

theorem Reports.index? {index : Nat} {source : DataType} {init : Initialization}
    {failure : InitFailure} (reports : Reports index source dest init failure) :
    failure.index? = some index := by
  cases reports <;> rfl

/-- The failure is about narrowing exactly if nothing else is wrong. -/
theorem Reports.isNarrowing_iff {index : Nat} {source : DataType} {init : Initialization}
    {failure : InitFailure} (reports : Reports index source dest init failure)
    (coherent : init.Coherent) :
    failure.isNarrowing ↔ init.isValid ∧ init.isNarrowing := by
  rw [coherent.isValid_iff_failure?]
  cases reports with
  | element failed => simp [InitFailure.isNarrowing, failed]
  | narrowing succeeded narrows => simp [InitFailure.isNarrowing, succeeded, narrows]

theorem Reports.refused {index : Nat} {source : DataType} {init : Initialization}
    {failure : InitFailure} (reports : Reports index source dest init failure)
    (coherent : init.Coherent) : init.Refused := by
  by_contra taken
  obtain ⟨succeeded, wide⟩ := coherent.not_refused_iff.1 taken
  cases reports with
  | element failed => cases succeeded.symm.trans failed
  | narrowing _ narrows => cases wide.symm.trans narrows

/-- Children that are built are the initializations of all pairs, in order. -/
theorem each_eq_ok {index : Nat} {pairs : List (DataType × Element)}
    {children : List Initialization} (built : each index pairs = .ok children) :
    children = pairs.map fun pair => pair.2.into pair.1 := by
  induction pairs generalizing index children with
  | nil =>
    cases built
    rfl
  | cons pair pairs ih =>
    rw [each] at built
    split at built
    · cases built
    split at built
    · cases built
    split at built
    · rename_i rest restBuilt
      cases built
      rw [List.map_cons, ih restBuilt]
    · cases built

/-- Children that are not built fail at the first pair that is not taken. -/
theorem each_eq_error {index : Nat} {pairs : List (DataType × Element)} {failure : InitFailure}
    (refused : each index pairs = .error failure) :
    ∃ i dest element, pairs[i]? = some (dest, element) ∧
      Reports (index + i) element.dataType dest (element.into dest) failure ∧
      ∀ j < i, ∀ pair, pairs[j]? = some pair →
        (pair.2.into pair.1).failure? = none ∧ (pair.2.into pair.1).isNarrowing = false := by
  induction pairs generalizing index with
  | nil => cases refused
  | cons pair pairs ih =>
    obtain ⟨dest, element⟩ := pair
    rw [each] at refused
    split at refused
    · rename_i inner failed
      cases refused
      exact ⟨0, dest, element, rfl, .element failed,
        fun j early => absurd early (Nat.not_lt_zero j)⟩
    rename_i succeeded
    split at refused
    · rename_i narrows
      cases refused
      exact ⟨0, dest, element, rfl, .narrowing succeeded narrows,
        fun j early => absurd early (Nat.not_lt_zero j)⟩
    rename_i wide
    split at refused
    · cases refused
    · rename_i later restRefused
      cases refused
      obtain ⟨i, dest', element', isThere, reports, before⟩ := ih restRefused
      refine ⟨i + 1, dest', element', isThere, ?_, ?_⟩
      · rwa [Nat.add_assoc, Nat.add_comm 1 i] at reports
      · rintro (_ | j) early pair isEarlier
        · cases isEarlier
          exact ⟨succeeded, by simpa using wide⟩
        · exact before j (Nat.lt_of_succ_lt_succ early) pair isEarlier

/-! ## Layouts -/

/-- The destination is a class `c`, and neither a list nor an array, and the brace list is not
empty. -/
structure ForClass (r : Registry) (dest : DataType) (count : Nat) (c : ClassDecl) : Prop where
  noList : r.listElement? dest = none
  nonempty : count ≠ 0
  single : ¬dest.isArray
  isClass : r.class? dest.typeHash = some c

/-- How a brace list of `count` elements goes to a destination: the form it takes, the constructor
it calls, and what each of its elements initializes. -/
inductive Layout (r : Registry) (dest : DataType) (count : Nat) :
    ConstructionForm → Option TypeHash → List DataType → Prop
  /-- The element type of the list, for each element. -/
  | builtinList {element : DataType} (isList : r.listElement? dest = some element) :
      Layout r dest count .builtinList none (List.replicate count element)
  /-- Nothing, for an empty brace list. -/
  | default (constructor : Option TypeHash) (noList : r.listElement? dest = none)
      (empty : count = 0) : Layout r dest count .default constructor []
  /-- The data members of a class without constructors. -/
  | aggregate {c : ClassDecl} (forClass : ForClass r dest count c) (plain : c.constructors = [])
      (oneEach : c.members.length = count) :
      Layout r dest count .aggregate none (c.members.map TypedName.dataType)
  /-- The element type of the list that a constructor takes, for each element. -/
  | listConstructor {c : ClassDecl} {ctor : FunctionDecl} {element : DataType}
      (forClass : ForClass r dest count c) (declares : c.constructors ≠ [])
      (decides : listConstructor? r (listUsableConstructors r dest.typeHash) =
        some (ctor, element)) :
      Layout r dest count .listConstructor (some ctor.hash) (List.replicate count element)
  /-- The parameters of a constructor. -/
  | positional {c : ClassDecl} {ctor : FunctionDecl} (forClass : ForClass r dest count c)
      (declares : c.constructors ≠ [])
      (undecided : listConstructor? r (listUsableConstructors r dest.typeHash) = none)
      (usable : ctor ∈ listUsableConstructors r dest.typeHash)
      (oneEach : ctor.params.length = count) :
      Layout r dest count .positional (some ctor.hash) (ctor.params.map Param.dataType)

variable {form : ConstructionForm} {constructor : Option TypeHash} {dests : List DataType}

/-- There is one destination for each element. -/
theorem Layout.length_eq {count : Nat} (layout : Layout r dest count form constructor dests) :
    dests.length = count := by
  cases layout with
  | builtinList | listConstructor => exact List.length_replicate
  | default _ _ empty => exact empty.symm
  | aggregate _ _ oneEach => rw [List.length_map, oneEach]
  | positional _ _ _ _ oneEach => rw [List.length_map, oneEach]

theorem zip_replicate_eq_map (t : DataType) (elements : List Element) :
    (List.replicate elements.length t).zip elements = elements.map fun e => (t, e) := by
  induction elements with
  | nil => rfl
  | cons e elements ih => rw [List.length_cons, List.replicate_succ, List.zip_cons_cons, ih,
      List.map_cons]

theorem isAtomicValue_of_class {c : ClassDecl} (isClass : r.class? dest.typeHash = some c) :
    r.isAtomicValue dest = false := by
  obtain ⟨decl, known, ofDecl⟩ := Option.bind_eq_some_iff.mp isClass
  cases decl with
  | classType => simp [Registry.isAtomicValue, known, TypeDecl.isAtomicValue]
  | _ => cases ofDecl

theorem exists_class_of_listElement? {element : DataType}
    (isList : r.listElement? dest = some element) : ∃ c, r.class? dest.typeHash = some c := by
  unfold Registry.listElement? at isList
  split at isList
  · cases isList
  · unfold Registry.listElementOf? at isList
    split at isList
    · cases isList
    · rename_i c isClass
      exact ⟨c, isClass⟩

/-- A brace list with a fixed layout is built over it, or fails where that does. -/
theorem ofList_of_layout (notMutable : ¬dest.isMutableRef)
    (layout : Layout r dest elements.length form constructor dests) (fixed : form.Fixed) :
    ofList r dest elements = construct form dest constructor (each 0 (dests.zip elements)) := by
  -- Classes take brace lists, so what is left is the choice between the forms.
  have allowed {c : ClassDecl} (isClass : r.class? dest.typeHash = some c) :
      ¬(r.isAtomicValue dest || dest.isMutableRef) := by
    simp [isAtomicValue_of_class isClass, notMutable]
  have nonempty (some : elements.length ≠ 0) : ¬elements.isEmpty := by
    simpa using some
  cases layout with
  | builtinList isList =>
    obtain ⟨c, isClass⟩ := exists_class_of_listElement? isList
    rw [ofList, if_neg (allowed isClass)]
    simp only [isList, ofElements, zip_replicate_eq_map]
  | default => simp [ConstructionForm.Fixed] at fixed
  | aggregate forClass plain oneEach =>
    rw [ofList, if_neg (allowed forClass.isClass)]
    simp only [forClass.noList, forClass.isClass]
    rw [if_neg (nonempty forClass.nonempty), if_neg forClass.single, ofClassList,
      if_pos (by rw [plain]; rfl), ofMembers, if_neg (by simp [oneEach])]
  | listConstructor forClass declares decides =>
    rw [ofList, if_neg (allowed forClass.isClass)]
    simp only [forClass.noList, forClass.isClass]
    rw [if_neg (nonempty forClass.nonempty), if_neg forClass.single, ofClassList,
      if_neg (by simpa using declares)]
    simp only [decides, ofElements, zip_replicate_eq_map]
  | positional => simp [ConstructionForm.Fixed] at fixed

/-- Without an initializer a construction has the default form and no parts. -/
theorem default_cases (r : Registry) (dest : DataType) :
    (∃ failure, default r dest = failed failure) ∨
      ∃ constructor, default r dest = constructed .default dest constructor [] := by
  unfold default
  simp only
  split
  · exact .inl ⟨_, rfl⟩
  split
  · exact .inr ⟨_, rfl⟩
  split
  · split
    · exact .inl ⟨_, rfl⟩
    · exact .inr ⟨_, rfl⟩
  split
  · exact .inl ⟨_, rfl⟩
  split
  · exact .inr ⟨_, rfl⟩
  split
  · exact .inr ⟨_, rfl⟩
  · exact .inl ⟨_, rfl⟩

/-- What a construction was built over. -/
def BuiltOver (r : Registry) (dest : DataType) (elements : List Element) (form : ConstructionForm)
    (constructor : Option TypeHash) (children : List Initialization) : Prop :=
  ∃ dests, Layout r dest elements.length form constructor dests ∧
    each 0 (dests.zip elements) = .ok children

variable {target : DataType} {children : List Initialization}

theorem eq_of_construct {form' : ConstructionForm} {constructor' : Option TypeHash}
    {outcome : Except InitFailure (List Initialization)}
    (h : construct form' dest constructor' outcome = constructed form target constructor children) :
    form' = form ∧ constructor' = constructor ∧ outcome = .ok children := by
  cases outcome with
  | error => cases h
  | ok =>
    cases h
    exact ⟨rfl, rfl, rfl⟩

/-- The constructor that is taken in the end has one parameter for each element. -/
theorem of_ofPositional {ctors : List FunctionDecl} {narrowing : Option InitFailure}
    (h : ofPositional dest elements narrowing ctors =
      constructed form target constructor children) :
    form = .positional ∧ ∃ ctor ∈ ctors, constructor = some ctor.hash ∧
      ctor.params.length = elements.length ∧
      each 0 ((ctor.params.map Param.dataType).zip elements) = .ok children := by
  induction ctors generalizing narrowing with
  | nil => cases h
  | cons ctor ctors ih =>
    have later {narrowing : Option InitFailure}
        (h : ofPositional dest elements narrowing ctors =
          constructed form target constructor children) :
        form = .positional ∧ ∃ other ∈ ctor :: ctors, constructor = some other.hash ∧
          other.params.length = elements.length ∧
          each 0 ((other.params.map Param.dataType).zip elements) = .ok children := by
      obtain ⟨isForm, other, member, rest⟩ := ih h
      exact ⟨isForm, other, List.mem_cons_of_mem _ member, rest⟩
    unfold ofPositional at h
    split at h
    · exact later h
    · rename_i oneEach
      split at h
      · rename_i built
        cases h
        exact ⟨rfl, ctor, List.mem_cons_self, rfl, by simpa using oneEach, built⟩
      · exact later h

theorem builtOver_of_ofClassList {c : ClassDecl}
    (forClass : ForClass r dest elements.length c)
    (h : ofClassList r dest c elements = constructed form target constructor children) :
    BuiltOver r dest elements form constructor children := by
  unfold ofClassList at h
  split at h
  · rename_i plain
    unfold ofMembers at h
    split at h
    · cases h
    · rename_i oneEach
      obtain ⟨rfl, rfl, built⟩ := eq_of_construct h
      exact ⟨_, .aggregate forClass (List.isEmpty_iff.1 plain) (by simpa using oneEach), built⟩
  · rename_i declares
    rw [List.isEmpty_iff] at declares
    simp only at h
    split at h
    · rename_i ctor element decides
      obtain ⟨rfl, rfl, built⟩ := eq_of_construct h
      rw [← zip_replicate_eq_map] at built
      exact ⟨_, .listConstructor forClass declares decides, built⟩
    · rename_i undecided
      obtain ⟨rfl, ctor, usable, rfl, oneEach, built⟩ := of_ofPositional h
      exact ⟨_, .positional forClass declares undecided usable oneEach, built⟩

/-- Every construction from a brace list is built over some layout. -/
theorem builtOver_of_ofList
    (h : ofList r dest elements = constructed form target constructor children) :
    BuiltOver r dest elements form constructor children := by
  unfold ofList at h
  split at h
  · cases h
  split at h
  · rename_i element isList
    obtain ⟨rfl, rfl, built⟩ := eq_of_construct h
    rw [← zip_replicate_eq_map] at built
    exact ⟨_, .builtinList isList, built⟩
  rename_i noList
  split at h
  · rename_i empty
    rw [List.isEmpty_iff] at empty
    subst empty
    rcases default_cases r dest.withoutRef with ⟨failure, failed⟩ | ⟨_, made⟩
    · rw [failed] at h
      cases h
    · rw [made] at h
      cases h
      exact ⟨[], .default _ noList rfl, rfl⟩
  rename_i nonempty
  split at h
  · cases h
  rename_i single
  split at h
  · cases h
  · rename_i c isClass
    exact builtOver_of_ofClassList ⟨noList, by simpa using nonempty, single, isClass⟩ h

/-! ## Expressions -/

theorem length_elementsOf (r : Registry) (es : List Expression) :
    (elementsOf r es).length = es.length := by
  rw [elementsOf_eq_map, List.length_map]

/-- What the element at some place initializes is the destination at that place. -/
theorem getElem?_zip_elementsOf {es : List Expression} {i : Nat} {d : DataType}
    {element : Element} :
    (dests.zip (elementsOf r es))[i]? = some (d, element) ↔
      dests[i]? = some d ∧ ∃ e, es[i]? = some e ∧
        element = { dataType := e.dataType, into := ofExpression r e } := by
  rw [List.getElem?_zip_eq_some, elementsOf_eq_map, List.getElem?_map, Option.map_eq_some_iff]
  simp only [@eq_comm _ _ element]

/-- The children of a construction are the initializations of its destinations, one for each
element, and none is refused. -/
theorem children_of_ofExpression (noNull : r.type? .null = none) {es : List Expression}
    (h : ofExpression r (.list es) dest = constructed form target constructor children) :
    children.length = es.length ∧
      ∃ dests, Layout r dest es.length form constructor dests ∧ dests.length = es.length ∧
        ∀ (i : Nat) d e, dests[i]? = some d → es[i]? = some e →
          children[i]? = some (ofExpression r e d) ∧ ¬(ofExpression r e d).Refused := by
  have ofElements := h
  rw [ofExpression] at ofElements
  obtain ⟨dests, layout, built⟩ := builtOver_of_ofList ofElements
  rw [length_elementsOf] at layout
  have made := each_eq_ok built
  refine ⟨?_, dests, layout, layout.length_eq, ?_⟩
  · rw [made, List.length_map, List.length_zip, layout.length_eq, length_elementsOf, Nat.min_self]
  · intro i d e isDest isElement
    have isChild : children[i]? = some (ofExpression r e d) := by
      have pair := (getElem?_zip_elementsOf (r := r)).2 ⟨isDest, e, isElement, rfl⟩
      rw [made, List.getElem?_map, pair]
      rfl
    have member : ofExpression r e d ∈ (ofExpression r (.list es) dest).children := by
      rw [h]
      exact List.mem_of_getElem? isChild
    obtain ⟨-, -, -, -, -, -, taken⟩ := passed_of_mem_children member
    exact ⟨isChild, (coherent_ofExpression noNull e d).not_refused_iff.2 taken⟩

/-- A list with a fixed layout that is not valid reports the first element that is refused. -/
theorem reports_of_fixed (noNull : r.type? .null = none) {es : List Expression}
    (notMutable : ¬dest.isMutableRef) (layout : Layout r dest es.length form constructor dests)
    (fixed : form.Fixed) (invalid : ¬(ofExpression r (.list es) dest).isValid) :
    ∃ failure i d e, (ofExpression r (.list es) dest).failure? = some failure ∧
      dests[i]? = some d ∧ es[i]? = some e ∧
      Reports i e.dataType d (ofExpression r e d) failure ∧
      ∀ j d' e', j < i → dests[j]? = some d' → es[j]? = some e' →
        ¬(ofExpression r e' d').Refused := by
  have built : ofList r dest (elementsOf r es) =
      construct form dest constructor (each 0 (dests.zip (elementsOf r es))) :=
    ofList_of_layout notMutable (by rwa [length_elementsOf]) fixed
  rw [← ofExpression] at built
  cases outcome : each 0 (dests.zip (elementsOf r es)) with
  | ok children =>
    rw [built, outcome] at invalid
    exact absurd rfl invalid
  | error failure =>
    obtain ⟨i, d, element, pair, reports, before⟩ := each_eq_error outcome
    obtain ⟨isDest, e, isElement, rfl⟩ := getElem?_zip_elementsOf.1 pair
    rw [Nat.zero_add] at reports
    refine ⟨failure, i, d, e, by rw [built, outcome]; rfl, isDest, isElement, reports, ?_⟩
    intro j d' e' early isDest' isElement'
    have taken := before j early _ (getElem?_zip_elementsOf.2 ⟨isDest', e', isElement', rfl⟩)
    exact (coherent_ofExpression noNull e' d').not_refused_iff.2 taken

/-- **Brace lists by element**: a construction from a brace list has one child for each element,
each child is the initialization of its own destination from its own element, and none is refused.
If the layout of a list is fixed and the list fails, it does so at its first element that is
refused, for narrowing exactly if the element is valid and narrows. -/
theorem list_children_by_element (noNull : r.type? .null = none) (dest : DataType)
    (es : List Expression) :
    (∀ form target constructor children,
        ofExpression r (.list es) dest = constructed form target constructor children →
        children.length = es.length ∧
        ∃ dests, Layout r dest es.length form constructor dests ∧ dests.length = es.length ∧
          ∀ (i : Nat) d e, dests[i]? = some d → es[i]? = some e →
            children[i]? = some (ofExpression r e d) ∧ ¬(ofExpression r e d).Refused) ∧
      (¬dest.isMutableRef → ∀ form constructor dests,
        Layout r dest es.length form constructor dests → form.Fixed →
        ¬(ofExpression r (.list es) dest).isValid →
        ∃ failure i d e, (ofExpression r (.list es) dest).failure? = some failure ∧
          failure.index? = some i ∧ dests[i]? = some d ∧ es[i]? = some e ∧
          (ofExpression r e d).Refused ∧
          (∀ j d' e', j < i → dests[j]? = some d' → es[j]? = some e' →
            ¬(ofExpression r e' d').Refused) ∧
          (failure.isNarrowing ↔ (ofExpression r e d).isValid ∧ (ofExpression r e d).isNarrowing) ∧
          ∀ inner, (ofExpression r e d).failure? = some inner → failure = .element i inner) := by
  refine ⟨fun form target constructor children h => children_of_ofExpression noNull h, ?_⟩
  intro notMutable form constructor dests layout fixed invalid
  obtain ⟨failure, i, d, e, failed, isDest, isElement, reports, before⟩ :=
    reports_of_fixed noNull notMutable layout fixed invalid
  have coherent := coherent_ofExpression noNull e d
  refine ⟨failure, i, d, e, failed, reports.index?, isDest, isElement, reports.refused coherent,
    before, reports.isNarrowing_iff coherent, ?_⟩
  intro inner innerFailed
  cases reports with
  | element innerFailed' =>
    cases innerFailed.symm.trans innerFailed'
    rfl
  | narrowing succeeded => cases innerFailed.symm.trans succeeded

/-! A list of tiles, written as nested brace lists. The second tile has a column that is no whole
number. -/

/-- A class without constructors. -/
def tileClass : ClassDecl where
  name := "Tile"
  qualifiedName := "Tile"
  hash := ⟨1⟩
  members := [⟨"row", .ofKind .int⟩, ⟨"column", .ofKind .int⟩]

def tileListClass : ClassDecl :=
  .templateInstance "" "initializer_list<Tile>" .initializerListTemplate [.ofHash tileClass.hash]

def tiles : Registry where
  types := { entries := [
    (FundamentalKind.int.hash, .fundamental .int),
    (FundamentalKind.double.hash, .fundamental .double),
    (tileClass.hash, .classType tileClass),
    (tileListClass.hash, .classType tileListClass)] }

/-- The brace list `{1, 2}`. -/
def wholeTile : Expression := .list [.literal (.ofKind .int), .literal (.ofKind .int)]

/-- The brace list `{1, 2.5}`. -/
def brokenTile : Expression := .list [.literal (.ofKind .int), .literal (.ofKind .double)]

/-- The list of both tiles fails at the second one, and not for narrowing by itself: it is the tile
inside that narrows. -/
theorem list_children_by_element_tiles :
    tiles.type? .null = none ∧
      Layout tiles tileListClass.dataType 2 .builtinList none
        [tileClass.dataType, tileClass.dataType] ∧
      (ofExpression tiles (.list [wholeTile, brokenTile]) tileListClass.dataType).failure? =
        some (.element 1 (.narrowing 1 (.ofKind .double) (.ofKind .int))) ∧
      ¬(ofExpression tiles wholeTile tileClass.dataType).Refused ∧
      (ofExpression tiles brokenTile tileClass.dataType).Refused := by
  have noNull : tiles.type? .null = none := rfl
  have layout : Layout tiles tileListClass.dataType 2 .builtinList none
      [tileClass.dataType, tileClass.dataType] :=
    @Layout.builtinList tiles tileListClass.dataType 2 tileClass.dataType rfl
  have fails :
      (ofExpression tiles (.list [wholeTile, brokenTile]) tileListClass.dataType).failure? =
        some (.element 1 (.narrowing 1 (.ofKind .double) (.ofKind .int))) := rfl
  obtain ⟨failure, i, d, e, failed, isIndex, isDest, isElement, refused, before, -⟩ :=
    (list_children_by_element noNull tileListClass.dataType [wholeTile, brokenTile]).2 (by decide)
      _ _ _ layout (.inl rfl) (by decide)
  cases fails.symm.trans failed
  cases isIndex
  cases isDest
  cases isElement
  exact ⟨noNull, layout, fails, before 0 _ _ Nat.one_pos rfl rfl, refused⟩

end Initialization

end ScriptSemantics
