import ScriptSemantics.Proofs.Conversion.ConstCorrectness
import ScriptSemantics.Proofs.Initialization.Narrowing

/-!
# Explicit and Deleted Functions in Initializations

Initialization from an expression is by copy, so it should use neither deleted nor explicit
functions. Three places choose a function:

1. the conversion of a value, under the policy that refuses both kinds;
2. the choice of a constructor for a brace list with elements, which leaves out both kinds;
3. default initialization, which an empty brace list leads to. It leaves out deleted constructors
   and takes explicit ones.

So a deleted function is never used, at whatever depth of the tree, and an explicit one is used by
empty brace lists only (`explicit_iff_default`).
-/

namespace ScriptSemantics

/-- The first expression stands somewhere in the second one. -/
inductive Expression.Within : Expression → Expression → Prop
  | here (e : Expression) : Within e e
  | inside {inner element : Expression} {elements : List Expression}
      (member : element ∈ elements) (within : Within inner element) : Within inner (.list elements)

namespace Initialization

variable {r : Registry} {dest : DataType} {hash : TypeHash}

/-- The constructor or cast that an initialization uses by itself, apart from its parts. -/
def function? : Initialization → Option TypeHash
  | failed _ => none
  | converted _ conversion => conversion.function?
  | constructed _ _ constructor _ => constructor

/-- What an initialization uses by itself is neither deleted nor explicit. -/
def Implicit (r : Registry) (init : Initialization) : Prop :=
  ∀ hash, init.function? = some hash →
    ∃ f, r.function? hash = some f ∧ ¬f.isDeleted ∧ ¬f.isExplicit

/-! ## Places that refuse explicit functions -/

theorem implicit_failed (failure : InitFailure) : Implicit r (failed failure) := by
  intro hash used
  cases used

/-- A construction uses its constructor, if it succeeds. -/
theorem implicit_construct (form : ConstructionForm) {constructor : Option TypeHash}
    (usable : ∀ hash ∈ constructor, ∃ f, r.function? hash = some f ∧ ¬f.isDeleted ∧ ¬f.isExplicit)
    (children : Except InitFailure (List Initialization)) :
    Implicit r (construct form dest constructor children) := by
  intro hash used
  cases children with
  | error => cases used
  | ok => exact usable hash used

theorem implicit_ofType (sound : r.SoundFunctions) (source : DataType) :
    Implicit r (ofType r dest source .copy) := by
  intro hash used
  rcases ofType_cases r dest source .copy with
    ⟨failure, isFailed⟩ | ⟨manner, c, target, isConverted, found⟩
  · rw [isFailed] at used
    cases used
  · rw [isConverted] at used
    rcases Conversion.cases_of_tryCompute found with ⟨rfl, -⟩ | ⟨f, function, admitted, use⟩
    · cases used
    · -- The policy of copies lets no explicit function through.
      obtain ⟨available, policed⟩ := Conversion.of_admits admitted
      cases function.symm.trans used
      refine ⟨f, Conversion.function?_of_use sound use, available, fun isExplicit => ?_⟩
      cases policed isExplicit

/-- The constructors that a brace list may use are neither deleted nor explicit. -/
theorem of_mem_listUsableConstructors (sound : r.SoundFunctions) {f : FunctionDecl}
    (member : f ∈ listUsableConstructors r hash) :
    r.function? f.hash = some f ∧ ¬f.isDeleted ∧ ¬f.isExplicit := by
  obtain ⟨declared, usable⟩ := List.mem_filter.mp member
  rw [Bool.and_eq_true, Bool.not_eq_true', Bool.not_eq_true'] at usable
  exact ⟨sound.of_mem_registered declared, by simp [usable.1], by simp [usable.2]⟩

theorem implicit_ofPositional (elements : List Element) {ctors : List FunctionDecl}
    (usable : ∀ f ∈ ctors, r.function? f.hash = some f ∧ ¬f.isDeleted ∧ ¬f.isExplicit)
    (narrowing : Option InitFailure) : Implicit r (ofPositional dest elements narrowing ctors) := by
  induction ctors generalizing narrowing with
  | nil => exact implicit_failed _
  | cons ctor ctors ih =>
    have others := ih fun f member => usable f (List.mem_cons_of_mem _ member)
    unfold ofPositional
    split
    · exact others narrowing
    · split
      · intro hash used
        cases used
        exact ⟨ctor, usable ctor List.mem_cons_self⟩
      · exact others _

theorem implicit_ofClassList (sound : r.SoundFunctions) (c : ClassDecl) (elements : List Element) :
    Implicit r (ofClassList r dest c elements) := by
  unfold ofClassList
  split
  · -- Members need no constructor.
    unfold ofMembers
    split
    · exact implicit_failed _
    · exact implicit_construct _ (by simp) _
  · simp only
    split
    · rename_i ctor element chosen
      obtain ⟨f, listed, takesList⟩ := List.exists_of_findSome?_eq_some chosen
      obtain ⟨_, _, same⟩ := Option.map_eq_some_iff.mp takesList
      cases same
      refine implicit_construct _ ?_ _
      rintro hash ⟨⟩
      exact ⟨ctor, of_mem_listUsableConstructors sound listed⟩
    · exact implicit_ofPositional elements (fun f => of_mem_listUsableConstructors sound) none

/-! ## Default initialization -/

/-- Default initialization uses the default constructor of its class, if anything. -/
theorem default_of_function? (used : (default r dest).function? = some hash) :
    dest.isArray = false ∧ default r dest = constructed .default dest (some hash) [] ∧
      ∃ f, r.defaultConstructor? dest.typeHash = some f ∧ f.hash = hash := by
  unfold default at used ⊢
  simp only at used ⊢
  split at used
  · cases used
  split at used
  · cases used
  split at used
  · split at used <;> cases used
  split at used
  · cases used
  split at used
  · cases used
  split at used
  · rename_i ctor found
    cases used
    simp_all
  · cases used

/-- A class is no value that is copied as it is, and no fundamental type. -/
theorem shape_of_class {c : ClassDecl} (isClass : r.class? hash = some c) :
    r.isAtomicValue (.simple hash) = false ∧ r.fundamental? (.simple hash) = none := by
  obtain ⟨decl, known, ofDecl⟩ := Option.bind_eq_some_iff.mp isClass
  cases decl with
  | classType => simp [Registry.isAtomicValue, Registry.fundamental?, DataType.simple, known,
      TypeDecl.isAtomicValue, TypeDecl.fundamental?]
  | _ => cases ofDecl

theorem class_of_defaultConstructor? {f : FunctionDecl}
    (found : r.defaultConstructor? hash = some f) :
    ∃ c, r.class? hash = some c ∧ c.constructors.isEmpty = false := by
  have listed : f ∈ r.constructors hash := List.mem_of_find?_eq_some found
  cases isClass : r.class? hash with
  | none => simp [Registry.constructors, Registry.registered, isClass] at listed
  | some c =>
    refine ⟨c, rfl, ?_⟩
    cases ctors : c.constructors with
    | cons => rfl
    | nil => simp [Registry.constructors, Registry.registered, isClass, ctors] at listed

/-- An empty brace list makes a value of a class by its default constructor, if there is one and the
class is no list. -/
theorem ofExpression_empty {f : FunctionDecl} (noList : r.listElementOf? hash = none)
    (found : r.defaultConstructor? hash = some f) :
    ofExpression r (.list []) (.simple hash) =
      constructed .default (.simple hash) (some f.hash) [] := by
  obtain ⟨c, isClass, declares⟩ := class_of_defaultConstructor? found
  obtain ⟨notAtomic, notFundamental⟩ := shape_of_class isClass
  simp only [DataType.simple] at notAtomic notFundamental ⊢
  have isDefault : default r ⟨hash, {}⟩ = constructed .default ⟨hash, {}⟩ (some f.hash) [] := by
    rw [default]
    simp [DataType.isReference, DataType.isArray, notAtomic, notFundamental, isClass, declares,
      found]
  rw [ofExpression, elementsOf, ofList]
  simp [DataType.isMutableRef, DataType.isReference, DataType.isArray, DataType.withoutRef,
    Registry.listElement?, notAtomic, noList, isDefault]

theorem not_isDeleted_of_defaultConstructor? {f : FunctionDecl}
    (found : r.defaultConstructor? hash = some f) : ¬f.isDeleted := by
  have usable := List.find?_some found
  rw [Bool.and_eq_true, Bool.not_eq_true'] at usable
  simp [usable.2]

/-! ## The tree -/

theorem isEmpty_elementsOf (r : Registry) (es : List Expression) :
    (elementsOf r es).isEmpty = es.isEmpty := by
  cases es <;> rw [elementsOf] <;> rfl

/-- Whatever a brace list uses, unless it is empty and default initialization is what it leads to,
is neither deleted nor explicit. -/
theorem implicit_ofList (sound : r.SoundFunctions) (dest : DataType) (elements : List Element) :
    Implicit r (ofList r dest elements) ∨
      (elements.isEmpty ∧ r.listElement? dest = none ∧
        ofList r dest elements = default r dest.withoutRef) := by
  unfold ofList
  split
  · exact .inl (implicit_failed _)
  split
  · exact .inl (implicit_construct _ (by simp) _)
  rename_i noList
  split
  · rename_i empty
    exact .inr ⟨empty, noList, rfl⟩
  split
  · exact .inl (implicit_failed _)
  split
  · exact .inl (implicit_failed _)
  · exact .inl (implicit_ofClassList sound _ elements)

/-- The initialization makes a value of a class, which is no list, by its default constructor. -/
def DefaultsBy (r : Registry) (f : FunctionDecl) (init : Initialization) : Prop :=
  ∃ target, init = constructed .default target (some f.hash) [] ∧
    r.listElementOf? target.typeHash = none ∧ r.defaultConstructor? target.typeHash = some f

/-- The root of a tree uses registered functions only, none that is deleted, and an explicit one
only for an empty brace list. -/
theorem function_of_root (sound : r.SoundFunctions) {e : Expression}
    (used : (ofExpression r e dest).function? = some hash) :
    ∃ f, r.function? hash = some f ∧ ¬f.isDeleted ∧
      (f.isExplicit → e = .list [] ∧ DefaultsBy r f (ofExpression r e dest)) := by
  have implicit (isImplicit : Implicit r (ofExpression r e dest)) :
      ∃ f, r.function? hash = some f ∧ ¬f.isDeleted ∧
        (f.isExplicit → e = .list [] ∧ DefaultsBy r f (ofExpression r e dest)) := by
    obtain ⟨f, known, available, notExplicit⟩ := isImplicit hash used
    exact ⟨f, known, available, fun isExplicit => absurd isExplicit notExplicit⟩
  cases e with
  | literal t | named t | call _ t | lambda t =>
    refine implicit ?_
    rw [ofExpression]
    exact implicit_ofType sound _
  | list es =>
    rcases implicit_ofList sound dest (elementsOf r es) with
      isImplicit | ⟨empty, noList, isDefault⟩
    · refine implicit ?_
      rw [ofExpression]
      exact isImplicit
    · rw [isEmpty_elementsOf, List.isEmpty_iff] at empty
      rw [ofExpression, isDefault] at used ⊢
      obtain ⟨noArray, built, f, found, rfl⟩ := default_of_function? used
      have single : ¬dest.isArray := by
        simpa [DataType.isArray, DataType.withoutRef] using noArray
      rw [Registry.listElement?, if_neg single] at noList
      exact ⟨f, sound.of_mem_registered (List.mem_of_find?_eq_some found),
        not_isDeleted_of_defaultConstructor? found,
        fun _ => ⟨by rw [empty], _, built, noList, found⟩⟩

/-- Each part of a tree is the initialization from an expression that stands in the whole one. -/
theorem within_of_occurs {e : Expression} {part : Initialization}
    (occurs : Occurs part (ofExpression r e dest)) :
    ∃ inner target, inner.Within e ∧ part = ofExpression r inner target := by
  generalize root : ofExpression r e dest = init at occurs
  induction occurs generalizing e dest with
  | here =>
    subst root
    exact ⟨e, dest, .here e, rfl⟩
  | inside member occurs ih =>
    subst root
    obtain ⟨es, element, target, rfl, isElement, rfl, -⟩ := passed_of_mem_children member
    obtain ⟨inner, innerTarget, within, isPart⟩ := ih rfl
    exact ⟨inner, innerTarget, .inside isElement within, isPart⟩

/-- What holds at the root holds at each part, for the expression that the part comes from. -/
theorem function_of_occurs (sound : r.SoundFunctions) {e : Expression} {part : Initialization}
    (occurs : Occurs part (ofExpression r e dest)) (used : part.function? = some hash) :
    ∃ f, r.function? hash = some f ∧ ¬f.isDeleted ∧
      (f.isExplicit → (Expression.list []).Within e ∧ DefaultsBy r f part) := by
  obtain ⟨inner, target, within, rfl⟩ := within_of_occurs occurs
  obtain ⟨f, known, available, onlyDefault⟩ := function_of_root sound used
  refine ⟨f, known, available, fun isExplicit => ?_⟩
  obtain ⟨rfl, defaults⟩ := onlyDefault isExplicit
  exact ⟨within, defaults⟩

/-- A tree uses registered functions only, and none that is deleted. An explicit one is used only
for an empty brace list within the expression, as the default constructor of its class. So a program
is free of explicit functions in copies exactly if no class that an empty brace list can make has an
explicit default constructor. -/
theorem explicit_iff_default (sound : r.SoundFunctions) :
    (∀ e dest part hash, Occurs part (ofExpression r e dest) → part.function? = some hash →
        ∃ f, r.function? hash = some f ∧ ¬f.isDeleted ∧
          (f.isExplicit → (Expression.list []).Within e ∧ DefaultsBy r f part)) ∧
      ((∀ e dest, (ofExpression r e dest).isValid →
          ∀ part hash, Occurs part (ofExpression r e dest) → part.function? = some hash →
            ∃ f, r.function? hash = some f ∧ ¬f.isDeleted ∧ ¬f.isExplicit) ↔
        ∀ hash f, r.listElementOf? hash = none → r.defaultConstructor? hash = some f →
          ¬f.isExplicit) := by
  refine ⟨fun e dest part hash => function_of_occurs sound, ?_, ?_⟩
  · intro implicit hash f noList found
    have built := ofExpression_empty noList found
    obtain ⟨g, known, -, notExplicit⟩ := implicit (.list []) (.simple hash) (by rw [built]; rfl) _
      f.hash (.here _) (by rw [built]; rfl)
    rw [sound.of_mem_registered (List.mem_of_find?_eq_some found)] at known
    cases known
    exact notExplicit
  · intro safe e dest _ part hash occurs used
    obtain ⟨f, known, available, onlyDefault⟩ := function_of_occurs sound occurs used
    refine ⟨f, known, available, fun isExplicit => ?_⟩
    obtain ⟨-, target, -, noList, found⟩ := onlyDefault isExplicit
    exact safe target.typeHash f noList found isExplicit

/-- A timer has a deleted and an explicit constructor, both without parameters that must be given,
and a job is made of a timer. -/
def timers : Registry :=
  let types : Table TypeHash TypeDecl := { entries := [
    (⟨1⟩, .classType
      { hash := ⟨1⟩, name := "Timer", qualifiedName := "Timer", constructors := [⟨11⟩, ⟨12⟩] }),
    (⟨2⟩, .classType
      { hash := ⟨2⟩, name := "Job", qualifiedName := "Job",
        members := [⟨"timer", .simple ⟨1⟩⟩] })] }
  let ctor (hash : TypeHash) (params : List Param) (traits : FunctionTraits) : FunctionDecl :=
    { hash, name := "$ctor", kind := .constructor, owner := some ⟨1⟩, params, traits }
  (({ types } : Registry).addFunction (ctor ⟨11⟩ [] { isDeleted := true })).addFunction
    (ctor ⟨12⟩ [{ dataType := .simple ⟨1⟩, hasDefault := true }] { isExplicit := true })

theorem timers_soundFunctions : timers.SoundFunctions :=
  ((Registry.SoundFunctions.ofTypes _).addFunction _).addFunction _

/-- In `{{}}` for a job, the timer is made from the inner list, by the explicit constructor. -/
theorem explicit_iff_default_timers :
    timers.SoundFunctions ∧
      Occurs (constructed .default (.simple ⟨1⟩) (some ⟨12⟩) [])
        (ofExpression timers (.list [.list []]) (.simple ⟨2⟩)) ∧
      ∃ f, timers.function? ⟨12⟩ = some f ∧ f.isExplicit ∧ ¬f.isDeleted ∧
        (Expression.list []).Within (.list [.list []]) ∧
        DefaultsBy timers f (constructed .default (.simple ⟨1⟩) (some ⟨12⟩) []) := by
  have occurs : Occurs (constructed .default (.simple ⟨1⟩) (some ⟨12⟩) [])
      (ofExpression timers (.list [.list []]) (.simple ⟨2⟩)) :=
    .inside (List.mem_singleton_self _) (.here _)
  obtain ⟨f, known, available, onlyDefault⟩ :=
    (explicit_iff_default timers_soundFunctions).1 _ _ _ _ occurs rfl
  cases known
  exact ⟨timers_soundFunctions, occurs, _, rfl, rfl, available, onlyDefault rfl⟩

/-- A timer is copied from an empty brace list by its explicit constructor, and a list with an
element may not use that constructor. -/
theorem empty_list_uses_explicit :
    (ofExpression timers (.list []) (.simple ⟨1⟩)).isValid ∧
      (ofExpression timers (.list []) (.simple ⟨1⟩)).function? = some ⟨12⟩ ∧
      (∃ f, timers.function? ⟨12⟩ = some f ∧ f.isExplicit) ∧
      (ofExpression timers (.list [.named (.simple ⟨1⟩)]) (.simple ⟨1⟩)).failure? =
        some (.noMatchingConstructor (.simple ⟨1⟩) 1) := by
  exact ⟨rfl, rfl, ⟨_, rfl, rfl⟩, rfl⟩

end Initialization

end ScriptSemantics
