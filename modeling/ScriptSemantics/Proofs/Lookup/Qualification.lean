import ScriptSemantics.Lookup.Names
import ScriptSemantics.Proofs.Registry.Operations

/-!
# Brackets in Qualified Names

A qualified name is a tree, and look-up follows the tree in two ways: to the left it resolves a
qualifier as seen from the scope, to the right it goes on inside what it found. Template-ids
instantiate classes on either way. Yet only the names from left to right count:

1. inside a qualifier, look-up is a fold over the names (`resolveIn_eq_foldlM`);
2. of what a longer qualifier means, everything that is neither a namespace nor a type is dropped,
   and nothing could be found inside it anyway (`resolveIn_asQualifier`);
3. so every qualified name is its first name, taken as a qualifier, and a fold over the others
   (`resolve_eq_foldlM`).

The main statement is `resolve_independent_of_brackets`.
-/

namespace ScriptSemantics

/-- The names that an identifier is put together from, left to right. -/
def Identifier.components : Identifier → List Identifier
  | .qualified qualifier member => qualifier.components ++ member.components
  | .simple name => [.simple name]
  | .operator op => [.operator op]
  | .template name arguments => [.template name arguments]

theorem Identifier.components_ne_nil (identifier : Identifier) : identifier.components ≠ [] := by
  induction identifier with
  | qualified qualifier member ih => simp [components, ih]
  | simple | operator | template => simp [components]

theorem Identifier.components_qualified_ne_singleton (qualifier member name : Identifier) :
    (Identifier.qualified qualifier member).components ≠ [name] := by
  simp [components, List.append_eq_singleton_iff, components_ne_nil]

namespace Lookup

/-! ## Inside a qualifier -/

theorem resolveIn_qualified (qualifier : LookupResult) (inner last : Identifier) :
    resolveIn qualifier (.qualified inner last) =
      resolveIn qualifier inner >>= fun found => resolveIn found last := by
  rw [resolveIn]

/-- Inside a qualifier, the names are looked up one after the other. -/
theorem resolveIn_eq_foldlM (qualifier : LookupResult) (identifier : Identifier) :
    resolveIn qualifier identifier = identifier.components.foldlM resolveIn qualifier := by
  induction identifier generalizing qualifier with
  | qualified inner last ihInner ihLast =>
    rw [resolveIn_qualified, Identifier.components, List.foldlM_append, ← ihInner]
    congr 1
    funext found
    exact ihLast found
  | simple | operator | template => simp [Identifier.components]

/-- Only namespaces and types have names inside. -/
theorem resolveIn_congr {found found' : LookupResult}
    (same : ∀ r name, inQualifier r found name = inQualifier r found' name)
    (operators : ∀ r op, operatorsInQualifier r found op = operatorsInQualifier r found' op)
    (enums : ∀ r, isEnumQualifier r found = isEnumQualifier r found') (identifier : Identifier) :
    resolveIn found identifier = resolveIn found' identifier := by
  induction identifier with
  | qualified inner last ihInner => rw [resolveIn_qualified, resolveIn_qualified, ihInner]
  | simple name => simp only [resolveIn, same]
  | operator op => simp only [resolveIn, operators]
  | template name arguments => simp only [resolveIn, same, enums]

/-- What is dropped from the meaning of a longer qualifier has no names inside. -/
theorem resolveIn_asQualifier (r : Registry) (scope : Scope) (inner last : Identifier)
    (found : LookupResult) (identifier : Identifier) :
    resolveIn (asQualifier r scope (.qualified inner last) found) identifier =
      resolveIn found identifier := by
  cases found with
  | space | type | template => rfl
  | unknown | functionSet | boundValue | dataMember | staticMember | global | localVariable
  | enumValue | capture =>
    apply resolveIn_congr
    · intro r name
      rfl
    · intro r op
      rfl
    · intro r
      rfl

/-! ## From a scope -/

/-- The meaning of an identifier as a qualifier. -/
def resolveQualifier (scope : Scope) (identifier : Identifier) : LookupM LookupResult := do
  let found ← resolve scope identifier
  return asQualifier (← get).registry scope identifier found

theorem resolve_qualified (scope : Scope) (qualifier member : Identifier) :
    resolve scope (.qualified qualifier member) =
      resolveQualifier scope qualifier >>= fun found => resolveIn found member := by
  rw [resolve, resolveQualifier]
  simp only [bind_assoc, pure_bind]

/-- Inside a longer qualifier, look-up goes on from what the qualifier means. -/
theorem resolve_qualified_qualified (scope : Scope) (inner last member : Identifier) :
    resolve scope (.qualified (.qualified inner last) member) =
      resolve scope (.qualified inner last) >>= fun found => resolveIn found member := by
  rw [resolve]
  congr 1
  funext found
  simp only [resolveIn_asQualifier]
  rfl

/-- A qualified name is its first name, taken as a qualifier, and then the others one after the
other. -/
theorem resolve_eq_foldlM (scope : Scope) {identifier first : Identifier}
    {rest : List Identifier} (names : identifier.components = first :: rest) (more : rest ≠ []) :
    resolve scope identifier =
      resolveQualifier scope first >>= fun found => rest.foldlM resolveIn found := by
  induction identifier generalizing rest with
  | simple | operator | template =>
    cases names
    exact absurd rfl more
  | qualified qualifier member ih =>
    rw [Identifier.components] at names
    cases qualifier with
    | simple | operator | template =>
      -- The qualifier is the first name.
      cases names
      rw [resolve_qualified]
      congr 1
      funext found
      exact resolveIn_eq_foldlM found member
    | qualified inner last =>
      -- The qualifier has at least two names, and the others follow in the member.
      rcases inside : (Identifier.qualified inner last).components with _ | ⟨head, tail⟩
      · exact absurd inside (Identifier.components_ne_nil _)
      · rw [inside, List.cons_append] at names
        cases names
        have several : tail ≠ [] := by
          intro alone
          rw [alone] at inside
          exact Identifier.components_qualified_ne_singleton inner last _ inside
        rw [resolve_qualified_qualified, ih inside several, bind_assoc]
        congr 1
        funext found
        rw [List.foldlM_append]
        congr 1
        funext between
        exact resolveIn_eq_foldlM between member

/-! ## The main statement -/

/-- Two qualified names with the same components from left to right, however they are bracketed,
have the same meaning or fail with the same error, and leave the same session behind. -/
theorem resolve_independent_of_brackets {a b : Identifier} (same : a.components = b.components)
    (several : 2 ≤ a.components.length) (scope : Scope) (s : Session) :
    exec (resolve scope a) s = exec (resolve scope b) s := by
  rcases names : a.components with _ | ⟨first, rest⟩
  · exact absurd names (Identifier.components_ne_nil a)
  · have more : rest ≠ [] := by
      intro alone
      simp [names, alone] at several
    rw [resolve_eq_foldlM scope names more, resolve_eq_foldlM scope (same ▸ names) more]

/-- A class template in a namespace, whose instances have a static member. -/
def sizedBox : ClassTemplate :=
  (ClassTemplate.declare "geo" "Box" (.host fun _ made =>
    .ok { made with decl := { made.decl with statics := [⟨"size", .ofKind .int⟩] } })).addParam
      "T" .type

def boxedSession : Session :=
  { registry := (RegistryOp.registerClassTemplate sizedBox).run .withBuiltins }

/-- The name `geo::Box<int>::size`, bracketed to the left and to the right. -/
def sizeFromLeft : Identifier :=
  .qualified (.qualified (.simple "geo") (.template "Box" [.ofHash FundamentalKind.int.hash]))
    (.simple "size")

def sizeFromRight : Identifier :=
  .qualified (.simple "geo")
    (.qualified (.template "Box" [.ofHash FundamentalKind.int.hash]) (.simple "size"))

/-- The instance is made on the way, from the left and from the right. -/
theorem resolve_independent_of_brackets_box :
    sizeFromLeft.components = sizeFromRight.components ∧ sizeFromLeft.components.length = 3 ∧
      exec (resolve .global sizeFromLeft) boxedSession =
        exec (resolve .global sizeFromRight) boxedSession ∧
      (exec (resolve .global sizeFromLeft) boxedSession).1.toOption =
        some (.staticMember (.ofTemplateInstance sizedBox.hash [.ofHash FundamentalKind.int.hash])
          (.ofKind .int)) := by
  have same : sizeFromLeft.components = sizeFromRight.components := rfl
  have three : sizeFromLeft.components.length = 3 := rfl
  refine ⟨same, three, ?_, ?_⟩
  · exact resolve_independent_of_brackets same (by rw [three]; decide) .global boxedSession
  · decide +kernel

end Lookup

end ScriptSemantics
