import ScriptSemantics.Proofs.Lookup.MemberLayout
import ScriptSemantics.Proofs.Lookup.Qualification

/-!
# Shadowing

Entering a block, a class, a lambda or the body of a template instance adds one level in front of a
scope. A name that the level declares means what is declared there, whatever lies around it. For all
other names the level is not there at all.

Look-up goes over the levels of a scope more than once: over all of them for the name itself, over
the namespaces for what they import, over the namespaces again for a qualifier, and for operators.

1. `ScopeLevel.Declares` says what each kind of level declares, and a level is searched accordingly
   (`atLevel_of_declares`, `atLevel_eq_unknown`).
2. The namespaces of a scope are those without the level (`scopeNodes_enter`), so that the passes
   over namespaces do not see it. The one pass that does is described by `lookupSimple_enter`.
3. Of an identifier, only the leftmost name is looked up from the scope.

The main statement is `shadowing_is_local`.
-/

namespace ScriptSemantics

/-! ## Known and unknown results -/

namespace LookupResult

theorem orElse_of_known {first : LookupResult} (known : first ≠ .unknown)
    (second : Unit → LookupResult) : first.orElse second = first := by
  simp [orElse, isUnknown, known]

theorem unknown_orElse (second : Unit → LookupResult) : unknown.orElse second = second () := rfl

theorem orElse_assoc (first : LookupResult) (second third : Unit → LookupResult) :
    (first.orElse second).orElse third = first.orElse fun _ => (second ()).orElse third := by
  by_cases known : first = .unknown
  · rw [known, unknown_orElse, unknown_orElse]
  · rw [orElse_of_known known, orElse_of_known known, orElse_of_known known]

theorem orElse_eq_unknown_iff {first : LookupResult} {second : Unit → LookupResult} :
    first.orElse second = .unknown ↔ first = .unknown ∧ second () = .unknown := by
  by_cases known : first = .unknown
  · simp [known, unknown_orElse]
  · simp [known, orElse_of_known known]

theorem firstKnown_eq_unknown_iff {α : Type} {search : α → LookupResult} {places : List α} :
    firstKnown search places = .unknown ↔ ∀ a ∈ places, search a = .unknown := by
  induction places with
  | nil => simp [firstKnown]
  | cons a places ih => rw [firstKnown, orElse_eq_unknown_iff, ih, List.forall_mem_cons]

theorem ofFunctions_eq_unknown_iff {functions templates : List TypeHash} :
    ofFunctions functions templates = .unknown ↔ functions = [] ∧ templates = [] := by
  cases functions <;> cases templates <;> simp [ofFunctions]

theorem ofArgument_ne_unknown (argument : TemplateArgument) : ofArgument argument ≠ .unknown := by
  cases argument <;> exact nofun

end LookupResult

/-! ## Members -/

namespace Registry

variable {r : Registry} {name : String} {hash : TypeHash}

/-- Something is found in a class that declares the name. -/
theorem not_declares_of_searches {c : ClassDecl} (found : r.class? hash = some c)
    (members : TypedName.find? c.members name = none)
    (statics : staticMemberOf name (hash, c) = .unknown)
    (nested : r.nestedTypeOf name (hash, c) = .unknown)
    (methods : r.methodsOf name (hash, c) = .unknown) : ¬r.Declares name hash := by
  rintro ⟨c', found', declared⟩
  cases found.symm.trans found'
  rcases declared with ⟨m, member, named⟩ | ⟨m, member, named⟩ | ⟨h, member, named⟩ |
    ⟨f, member, named⟩ | ⟨h, member, template, known, named⟩
  · exact TypedName.find?_eq_none_iff.mp members m member named
  · have absent : TypedName.find? c.statics name = none := by
      simp only [staticMemberOf] at statics
      split at statics
      · cases statics
      · assumption
    exact TypedName.find?_eq_none_iff.mp absent m member named
  · have absent :
        (c.nested.find? fun h => (r.type? h).bind TypeDecl.name? == some name) = none := by
      simp only [nestedTypeOf] at nested
      split at nested
      · cases nested
      · assumption
    exact List.find?_eq_none.mp absent h member (by simp [named])
  · rw [methodsOf, LookupResult.ofFunctions_eq_unknown_iff, List.map_eq_nil_iff,
      List.filter_eq_nil_iff] at methods
    exact methods.1 f member (by simp [named])
  · rw [methodsOf, LookupResult.ofFunctions_eq_unknown_iff, List.filter_eq_nil_iff] at methods
    exact methods.2 h member (by simp [known, named])

theorem dataMember_eq_unknown_iff {classes : List (TypeHash × ClassDecl)} :
    dataMember name classes = .unknown ↔
      ∀ entry ∈ classes, TypedName.find? entry.2.members name = none := by
  simp only [TypedName.find?_eq_none_iff]
  rcases dataMember_cases name classes with
    ⟨unknown, absent⟩ | ⟨derived, owner, c, bases, before, t, after, rfl, -, members, -, found⟩
  · exact ⟨fun _ => absent, fun _ => unknown⟩
  · rw [found]
    constructor
    · intro unknown
      cases unknown
    · intro absent
      exact absurd rfl (absent (owner, c) (by simp) ⟨name, t⟩ (by simp [members]))

/-- No member is found exactly if neither the class nor any of its bases declares the name. -/
theorem member_eq_unknown_iff :
    r.member hash name = .unknown ↔ ∀ owner ∈ r.baseChain hash, ¬r.Declares name owner := by
  rw [member, staticMember]
  -- Four searches go over the chain one after the other; each class takes part in all of them.
  simp only [LookupResult.orElse_eq_unknown_iff, LookupResult.firstKnown_eq_unknown_iff,
    dataMember_eq_unknown_iff]
  constructor
  · rintro ⟨members, statics, nested, methods⟩ owner inChain
    rw [← map_fst_chainClasses] at inChain
    obtain ⟨entry, isThere, rfl⟩ := List.mem_map.mp inChain
    exact not_declares_of_searches (mem_chainClasses.mp isThere).2 (members entry isThere)
      (statics entry isThere) (nested entry isThere) (methods entry isThere)
  · intro silent
    have searches (entry : TypeHash × ClassDecl) (isThere : entry ∈ r.chainClasses hash) :=
      searches_of_not_declares (mem_chainClasses.mp isThere).2
        (silent entry.1 (mem_chainClasses.mp isThere).1)
    exact ⟨fun entry isThere => (searches entry isThere).1,
      fun entry isThere => (searches entry isThere).2.1,
      fun entry isThere => (searches entry isThere).2.2.1,
      fun entry isThere => (searches entry isThere).2.2.2⟩

end Registry

/-! ## What a level declares -/

/-- What a level other than a namespace declares under a name. -/
inductive ScopeLevel.Declares (r : Registry) (name : String) :
    ScopeLevel → LookupResult → Prop where
  /-- A variable of the block. -/
  | ofBlock {block : Block} {v : LocalVariable} (declared : block.locals.get? name = some v) :
      Declares r name (.block block) (.localVariable v.slot v.dataType)
  /-- The first capture of the closure that is called so. -/
  | ofLambda {closure : TypeHash} {c : ClosureDecl} {before after : List TypedName} {t : DataType}
      (known : r.type? closure = some (.closure c))
      (captures : c.captures = before ++ ⟨name, t⟩ :: after)
      (first : ∀ m ∈ before, m.name ≠ name) :
      Declares r name (.lambda closure) (.capture closure before.length t)
  /-- A member, if the class or one of its bases declares anything under the name. -/
  | ofClass {hash owner : TypeHash} (base : owner ∈ r.baseChain hash)
      (declared : r.Declares name owner) :
      Declares r name (.classBody hash) (r.member hash name)
  /-- The first argument that is bound to the name. -/
  | ofArguments {bindings before after : List (String × TemplateArgument)} {a : TemplateArgument}
      (bound : bindings = before ++ (name, a) :: after) (first : ∀ b ∈ before, b.1 ≠ name) :
      Declares r name (.templateArguments bindings) (.ofArgument a)

namespace Registry

variable {r : Registry} {name : String} {level : ScopeLevel} {found : LookupResult}

/-- A level is searched for what it declares. -/
theorem atLevel_of_declares (declares : level.Declares r name found) :
    r.atLevel name level = found := by
  cases declares with
  | ofBlock declared => simp only [atLevel, declared]
  | ofLambda known captures first =>
    have place := TypedName.find?_eq_some_iff.mpr ⟨_, _, captures, rfl, first⟩
    simp only [atLevel, known, Option.bind_some, TypeDecl.closure?, place]
  | ofClass => rfl
  | ofArguments bound first =>
    have place := List.lookup_eq_some_iff.mpr ⟨_, _, bound, fun b member => by
      simpa using (first b member).symm⟩
    simp only [atLevel, place]

theorem known_of_declares (declares : level.Declares r name found) : found ≠ .unknown := by
  cases declares with
  | ofBlock | ofLambda => exact nofun
  | ofClass base declared =>
    intro unknown
    exact member_eq_unknown_iff.mp unknown _ base declared
  | ofArguments => exact LookupResult.ofArgument_ne_unknown _

/-- Nothing is found at a level that does not declare the name. -/
theorem atLevel_eq_unknown (inner : ∀ path, level ≠ .space path)
    (silent : ∀ found, ¬level.Declares r name found) : r.atLevel name level = .unknown := by
  cases level with
  | space path => exact absurd rfl (inner path)
  | block block =>
    simp only [atLevel]
    split
    · rename_i declared
      exact absurd (.ofBlock declared) (silent _)
    · rfl
  | lambda closure =>
    simp only [atLevel]
    split
    · rename_i c isClosure
      split
      · rename_i place
        obtain ⟨before, after, captures, rfl, first⟩ := TypedName.find?_eq_some_iff.mp place
        obtain ⟨decl, known, isClosure⟩ := Option.bind_eq_some_iff.mp isClosure
        cases decl <;> cases isClosure
        exact absurd (.ofLambda known captures first) (silent _)
      · rfl
    · rfl
  | classBody hash =>
    rw [atLevel, member_eq_unknown_iff]
    intro owner base declared
    exact silent _ (.ofClass base declared)
  | templateArguments bindings =>
    simp only [atLevel]
    split
    · rename_i place
      obtain ⟨before, after, bound, first⟩ := List.lookup_eq_some_iff.mp place
      refine absurd (.ofArguments bound fun b member same => ?_) (silent _)
      simpa [same] using first b member
    · rfl

/-! ## Names seen from a scope -/

/-- Only namespaces count where the namespaces of a scope are searched. -/
theorem scopeNodes_enter (inner : ∀ path, level ≠ .space path) (r : Registry) (scope : Scope) :
    r.scopeNodes (scope.enter level) = r.scopeNodes scope := by
  cases level with
  | space path => exact absurd rfl (inner path)
  | block | lambda | classBody | templateArguments => rfl

/-- The level comes first, and then all is as without it. -/
theorem lookupSimple_enter (inner : ∀ path, level ≠ .space path)
    (noKeyword : keywordType? name = none) (r : Registry) (scope : Scope) :
    r.lookupSimple (scope.enter level) name =
      (r.atLevel name level).orElse fun _ => r.lookupSimple scope name := by
  simp only [lookupSimple, noKeyword, scopeNodes_enter inner]
  rw [Scope.enter, LookupResult.firstKnown, LookupResult.orElse_assoc]

theorem lookupSimple_enter_of_silent (inner : ∀ path, level ≠ .space path)
    (silent : ∀ found, ¬level.Declares r name found) (scope : Scope) :
    r.lookupSimple (scope.enter level) name = r.lookupSimple scope name := by
  cases keyword : keywordType? name with
  | some t => simp only [lookupSimple, keyword]
  | none =>
    rw [lookupSimple_enter inner keyword, atLevel_eq_unknown inner silent,
      LookupResult.unknown_orElse]

theorem operatorCandidates_enter (inner : ∀ path, level ≠ .space path) (r : Registry)
    (op : OperatorKind) (operands : List DataType) (scope : Scope) (options : OperatorOptions) :
    r.operatorCandidates op operands (scope.enter level) options =
      r.operatorCandidates op operands scope options := by
  simp only [operatorCandidates, operatorNodes, scopeNodes_enter inner]

end Registry

/-! ## Identifiers -/

/-- The name on the left of an identifier, which is the one looked up from the scope. Operators have
none. -/
def Identifier.leftmostName? : Identifier → Option String
  | .simple name | .template name _ => some name
  | .operator _ => none
  | .qualified qualifier _ => qualifier.leftmostName?

namespace Lookup

variable {level : ScopeLevel} {s : Session}

theorem asQualifier_enter (inner : ∀ path, level ≠ .space path) (r : Registry) (scope : Scope)
    (identifier : Identifier) (found : LookupResult) :
    asQualifier r (scope.enter level) identifier found = asQualifier r scope identifier found := by
  unfold asQualifier
  rw [Registry.scopeNodes_enter inner]

theorem exec_resolve_simple (scope : Scope) (name : String) (s : Session) :
    exec (resolve scope (.simple name)) s = (.ok (s.registry.lookupSimple scope name), s) := by
  rw [resolve]
  rfl

/-- A level that does not declare the leftmost name plays no part. -/
theorem resolve_enter_of_silent (inner : ∀ path, level ≠ .space path) (scope : Scope)
    {identifier : Identifier}
    (silent : ∀ name, identifier.leftmostName? = some name →
      ∀ found, ¬level.Declares s.registry name found) :
    exec (resolve (scope.enter level) identifier) s = exec (resolve scope identifier) s := by
  induction identifier with
  | simple name =>
    rw [exec_resolve_simple, exec_resolve_simple,
      Registry.lookupSimple_enter_of_silent inner (silent name rfl)]
  | operator op =>
    -- No name is looked up here, so the level is invisible even without the hypothesis.
    simp only [resolve, Registry.operatorCandidates_enter inner]
  | template name arguments =>
    rw [resolve, resolve, exec_bind_ok (exec_get s), exec_bind_ok (exec_get s),
      Registry.lookupSimple_enter_of_silent inner (silent name rfl)]
  | qualified qualifier member ih =>
    -- The qualifier is resolved first, in the same session; what follows does not see the level.
    rw [resolve, resolve, exec_bind, exec_bind, ih silent]
    simp only [asQualifier_enter inner]

/-! ## The main statement -/

/-- **Shadowing is local.** A block, class, lambda or list of template arguments in front of a scope
gives its own meaning to the names that it declares, keywords apart, whatever the scope is. An
identifier whose leftmost name it does not declare has the same meaning with it as without it, fails
with the same error, and leaves the same session behind. -/
theorem shadowing_is_local (s : Session) (scope : Scope) (level : ScopeLevel)
    (inner : ∀ path, level ≠ .space path) :
    (∀ name found, Registry.keywordType? name = none → level.Declares s.registry name found →
        exec (resolve (scope.enter level) (.simple name)) s = (.ok found, s)) ∧
      ∀ identifier,
        (∀ name, identifier.leftmostName? = some name →
          ∀ found, ¬level.Declares s.registry name found) →
        exec (resolve (scope.enter level) identifier) s = exec (resolve scope identifier) s := by
  refine ⟨fun name found noKeyword declares => ?_, fun identifier silent =>
    resolve_enter_of_silent inner scope silent⟩
  rw [exec_resolve_simple, Registry.lookupSimple_enter inner noKeyword,
    Registry.atLevel_of_declares declares,
    LookupResult.orElse_of_known (Registry.known_of_declares declares)]

/-- A block with one variable, called like a member that is reached by a qualified name. -/
def sizeBlock : Block where
  locals := { entries := [("size", { dataType := .ofKind .float, slot := 0 })] }
  nextSlot := 1

/-- The variable shadows nothing but its own name: behind a qualifier, the name still means the
static member of an instance that is made on the way. -/
theorem shadowing_is_local_box :
    (ScopeLevel.block sizeBlock).Declares boxedSession.registry "size"
        (.localVariable 0 (.ofKind .float)) ∧
      exec (resolve (Scope.global.enter (.block sizeBlock)) (.simple "size")) boxedSession =
        (.ok (.localVariable 0 (.ofKind .float)), boxedSession) ∧
      sizeFromLeft.leftmostName? = some "geo" ∧
      (∀ found, ¬(ScopeLevel.block sizeBlock).Declares boxedSession.registry "geo" found) ∧
      exec (resolve (Scope.global.enter (.block sizeBlock)) sizeFromLeft) boxedSession =
        exec (resolve .global sizeFromLeft) boxedSession := by
  have declares : (ScopeLevel.block sizeBlock).Declares boxedSession.registry "size"
      (.localVariable 0 (.ofKind .float)) :=
    .ofBlock (v := { dataType := .ofKind .float, slot := 0 }) rfl
  have silent (found : LookupResult) :
      ¬(ScopeLevel.block sizeBlock).Declares boxedSession.registry "geo" found := by
    rintro ⟨declared⟩
    cases declared
  obtain ⟨own, others⟩ := shadowing_is_local boxedSession .global (.block sizeBlock) nofun
  refine ⟨declares, own "size" _ (by decide) declares, rfl, silent, others sizeFromLeft ?_⟩
  rintro name ⟨⟩
  exact silent

end Lookup

end ScriptSemantics
