import Mathlib.Algebra.Group.Nat.Defs
import Mathlib.Data.List.Flatten
import Mathlib.Data.List.Perm.Basic
import ScriptSemantics.Scope.Basic

/-!
# Slots of Local Variables

A function body is what lies between two lambdas of a scope. Its variables are spread over nested
blocks, and share one range of slots. Blocks are opened and variables declared by searches with
different ends: the search for the slot of a new block stops at a lambda, the search for the block
of a new variable does not. So a variable that is declared inside a lambda without a block of its
own goes to the body around the lambda.

1. `Scope.Continuous` is what every operation keeps: a block holds the slots from where the blocks
   around it, in its body, end, up to its own next slot.
2. The blocks of a body then add up to all slots below the next slot of the innermost one
   (`perm_slots_of_continuous`).

The main statement is `live_slots_gapless`.
-/

namespace ScriptSemantics

/-! ## Variables of a body -/

/-- The slots of the variables of a block, in the order of their declaration. -/
def Block.slots (block : Block) : List Nat := block.locals.entries.map fun entry => entry.2.slot

namespace ScopeLevel

def block? : ScopeLevel → Option Block
  | block b => some b
  | _ => none

def isLambda : ScopeLevel → Bool
  | lambda _ => true
  | _ => false

/-- The slots of the variables declared at a level. -/
def slots (level : ScopeLevel) : List Nat := level.block?.elim [] Block.slots

end ScopeLevel

namespace Scope

/-- The function bodies of some levels, innermost first. A lambda ends one and belongs to none. -/
def bodies (levels : List ScopeLevel) : List (List ScopeLevel) :=
  levels.splitOnP ScopeLevel.isLambda

/-- The slots of all variables in the open blocks of some levels. -/
def slots (levels : List ScopeLevel) : List Nat := levels.flatMap ScopeLevel.slots

def innermostBlock? (levels : List ScopeLevel) : Option Block :=
  levels.findSome? ScopeLevel.block?

/-- The next slot of the innermost block; zero where there is none. -/
def firstFree (levels : List ScopeLevel) : Nat := (innermostBlock? levels).elim 0 Block.nextSlot

end Scope

/-! ## Operations -/

/-- What happens to a scope while a program is read. -/
inductive ScopeOp where
  | enterBlock
  | declare (name : String) (dataType : DataType)
  /-- Blocks are entered by the operation above only. -/
  | enter (level : ScopeLevel) (plain : level.block? = none)
  | leave

namespace ScopeOp

/-- The scope afterwards. A declaration that is refused, or that finds no block, leaves the scope as
it was. -/
def run (scope : Scope) : ScopeOp → Scope
  | enterBlock => scope.enterBlock
  | declare name t =>
    match scope.declare name t with
    | some (.ok (_, declared)) => declared
    | some (.error _) | none => scope
  | enter level _ => scope.enter level
  | leave => scope.leave.2

def isDeclaration : ScopeOp → Bool
  | declare .. => true
  | _ => false

end ScopeOp

/-! ## One block -/

namespace Block

/-- The variables of a block fill the slots from `start` up to its next slot, in order. -/
structure Fills (block : Block) (start : Nat) : Prop where
  slots : block.slots = List.range' start block.slots.length
  next : block.nextSlot = start + block.slots.length

theorem fills_new (start : Nat) : Fills { nextSlot := start } start where
  slots := by simp [Block.slots]
  next := by simp [Block.slots]

/-- A new variable stands behind the others, at the next slot. -/
theorem slots_of_declare {block declared : Block} {name : String} {t : DataType} {slot : Nat}
    (h : block.declare name t = .ok (slot, declared)) :
    declared.slots = block.slots ++ [block.nextSlot] ∧
      declared.nextSlot = block.nextSlot + 1 := by
  unfold declare at h
  split at h
  · cases h
  · rename_i fresh
    cases h
    -- The name is new, so that the table grows at its end.
    simp [Block.slots, Table.insert, fresh]

theorem Fills.declare {block declared : Block} {start : Nat} (fills : block.Fills start)
    {name : String} {t : DataType} {slot : Nat}
    (h : block.declare name t = .ok (slot, declared)) : declared.Fills start := by
  obtain ⟨slots, next⟩ := slots_of_declare h
  have longer : declared.slots.length = block.slots.length + 1 := by simp [slots]
  refine ⟨?_, ?_⟩
  · rw [longer, List.range'_1_concat, ← fills.slots, ← fills.next]
    exact slots
  · rw [next, fills.next, longer]
    omega

end Block

/-! ## Steps -/

namespace Scope

variable {levels levels' : List ScopeLevel}

/-- Every block goes on where the blocks around it, in its body, end. -/
def Continuous : List ScopeLevel → Prop
  | [] => True
  | .block b :: levels => b.Fills (nextSlot levels) ∧ Continuous levels
  | _ :: levels => Continuous levels

theorem continuous_cons {level : ScopeLevel} (plain : level.block? = none) :
    Continuous (level :: levels) ↔ Continuous levels := by
  cases level with
  | block b => cases plain
  | space | classBody | lambda | templateArguments => exact Iff.rfl

theorem continuous_of_bare (bare : ∀ level ∈ levels, level.block? = none) :
    Continuous levels := by
  induction levels with
  | nil => trivial
  | cons level levels ih =>
    rw [continuous_cons (bare level List.mem_cons_self)]
    exact ih fun other member => bare other (List.mem_cons_of_mem _ member)

theorem Continuous.tail (h : Continuous levels) : Continuous levels.tail := by
  cases levels with
  | nil => trivial
  | cons level levels =>
    cases level with
    | block b => exact h.2
    | space | classBody | lambda | templateArguments => exact h

/-- What a declaration does to the levels: the innermost block declares the variable, and neither
the levels in front of that block nor those behind it change. -/
theorem declareIn_eq_ok {name : String} {t : DataType} {slot : Nat}
    (h : declareIn name t levels = some (.ok (slot, levels'))) :
    ∃ front block declared behind, levels = front ++ .block block :: behind ∧
      levels' = front ++ .block declared :: behind ∧ (∀ level ∈ front, level.block? = none) ∧
      block.declare name t = .ok (slot, declared) := by
  induction levels generalizing levels' with
  | nil => cases h
  | cons level levels ih =>
    cases level with
    | block b =>
      simp only [declareIn, Option.some.injEq] at h
      rcases outcome : b.declare name t with e | ⟨slot', declared⟩
      · rw [outcome] at h
        cases h
      · rw [outcome] at h
        cases h
        exact ⟨[], b, declared, levels, rfl, rfl, by simp, outcome⟩
    | space | classBody | lambda | templateArguments =>
      -- Any other level stays in front of what happens behind it.
      obtain ⟨inner, found, mapped⟩ := Option.map_eq_some_iff.mp h
      rcases inner with e | ⟨slot', rest⟩
      · cases mapped
      · cases mapped
        obtain ⟨front, block, declared, behind, rfl, rfl, plain, outcome⟩ := ih found
        refine ⟨_ :: front, block, declared, behind, rfl, rfl, ?_, outcome⟩
        simpa [ScopeLevel.block?] using plain

theorem Continuous.append_iff {front : List ScopeLevel}
    (plain : ∀ level ∈ front, level.block? = none) :
    Continuous (front ++ levels) ↔ Continuous levels := by
  induction front with
  | nil => exact Iff.rfl
  | cons level front ih =>
    rw [List.cons_append, continuous_cons (plain level List.mem_cons_self)]
    exact ih fun other member => plain other (List.mem_cons_of_mem _ member)

theorem Continuous.declareIn {name : String} {t : DataType} {slot : Nat} (h : Continuous levels)
    (declared : Scope.declareIn name t levels = some (.ok (slot, levels'))) :
    Continuous levels' := by
  obtain ⟨front, block, grown, behind, rfl, rfl, plain, outcome⟩ := declareIn_eq_ok declared
  rw [Continuous.append_iff plain] at h ⊢
  exact ⟨h.1.declare outcome, h.2⟩

/-- A declaration adds one variable. -/
theorem length_slots_declareIn {name : String} {t : DataType} {slot : Nat}
    (declared : declareIn name t levels = some (.ok (slot, levels'))) :
    (slots levels').length = (slots levels).length + 1 := by
  obtain ⟨front, block, grown, behind, rfl, rfl, -, outcome⟩ := declareIn_eq_ok declared
  obtain ⟨added, -⟩ := Block.slots_of_declare outcome
  simp only [slots, List.flatMap_append, List.flatMap_cons, List.length_append]
  simp only [ScopeLevel.slots, ScopeLevel.block?, Option.elim_some, added, List.length_append,
    List.length_singleton]
  omega

@[simp] theorem innermostBlock?_block (block : Block) (levels : List ScopeLevel) :
    innermostBlock? (.block block :: levels) = some block := rfl

theorem innermostBlock?_cons {level : ScopeLevel} (plain : level.block? = none) :
    innermostBlock? (level :: levels) = innermostBlock? levels := by
  simp [innermostBlock?, plain]

/-- A declaration is refused exactly if the innermost block has a variable of that name. -/
theorem declareIn_eq_error_iff {name : String} {t : DataType} {e : SemanticError} :
    declareIn name t levels = some (.error e) ↔
      e = .variableRedeclaration name ∧
        ∃ block, innermostBlock? levels = some block ∧ block.locals.contains name := by
  induction levels with
  | nil => simp [declareIn, innermostBlock?]
  | cons level levels ih =>
    cases level with
    | block b =>
      simp only [declareIn, Block.declare, innermostBlock?_block, Option.some.injEq,
        exists_eq_left']
      by_cases taken : b.locals.contains name
      · rw [if_pos taken]
        simp only [Except.map, Except.error.injEq, taken, and_true]
        exact eq_comm
      · simp [taken, Except.map]
    | space | classBody | lambda | templateArguments =>
      -- The levels in front of the block do not change the outcome.
      rw [innermostBlock?_cons rfl, ← ih]
      simp only [declareIn]
      rcases declareIn name t levels with _ | (_ | ⟨_, _⟩) <;> simp [Except.map]

end Scope

namespace ScopeOp

variable {scope : Scope}

/-- The outcome of a declaration, with the levels in place of the scope. -/
theorem run_declare (scope : Scope) (name : String) (t : DataType) :
    (run scope (declare name t)).levels =
      match Scope.declareIn name t scope.levels with
      | some (.ok (_, levels)) => levels
      | some (.error _) | none => scope.levels := by
  rw [run, Scope.declare]
  rcases Scope.declareIn name t scope.levels with _ | (_ | ⟨_, _⟩) <;> rfl

/-- **Step**: every operation keeps the numbering of the blocks. -/
theorem continuous_run (op : ScopeOp) (h : Scope.Continuous scope.levels) :
    Scope.Continuous (op.run scope).levels := by
  cases op with
  | enterBlock => exact ⟨Block.fills_new _, h⟩
  | declare name t =>
    rw [run_declare]
    rcases outcome : Scope.declareIn name t scope.levels with _ | (_ | ⟨slot, levels⟩)
    · exact h
    · exact h
    · exact h.declareIn outcome
  | enter level plain => exact (Scope.continuous_cons plain).mpr h
  | leave => exact h.tail

/-- **Step**: only a declaration adds a variable, and it adds one. -/
theorem length_slots_run_le (op : ScopeOp) (scope : Scope) :
    (Scope.slots (op.run scope).levels).length ≤
      (Scope.slots scope.levels).length + [op].countP isDeclaration := by
  cases op with
  | enterBlock => simp [run, Scope.enterBlock, Scope.enter, Scope.slots, ScopeLevel.slots,
      ScopeLevel.block?, Block.slots]
  | declare name t =>
    rw [run_declare]
    rcases outcome : Scope.declareIn name t scope.levels with _ | (_ | ⟨slot, levels⟩)
    · exact Nat.le_add_right _ _
    · exact Nat.le_add_right _ _
    · exact Nat.le_of_eq (Scope.length_slots_declareIn outcome)
  | enter level plain => simp [run, Scope.enter, Scope.slots, ScopeLevel.slots, plain]
  | leave =>
    -- What is left are the levels behind the one that went.
    apply Nat.le_add_right_of_le
    apply List.Sublist.length_le
    apply List.Sublist.flatMap
    exact List.tail_sublist scope.levels

/-! ## Runs -/

theorem continuous_foldl_run (ops : List ScopeOp) (h : Scope.Continuous scope.levels) :
    Scope.Continuous (ops.foldl run scope).levels := by
  induction ops generalizing scope with
  | nil => exact h
  | cons op ops ih => exact ih (op.continuous_run h)

theorem length_slots_foldl_run_le (ops : List ScopeOp) (scope : Scope) :
    (Scope.slots (ops.foldl run scope).levels).length ≤
      (Scope.slots scope.levels).length + ops.countP isDeclaration := by
  induction ops generalizing scope with
  | nil => exact Nat.le_refl _
  | cons op ops ih =>
    have step := length_slots_run_le op scope
    have rest := ih (op.run scope)
    rw [List.countP_cons]
    rw [List.countP_singleton] at step
    rw [List.foldl_cons]
    omega

end ScopeOp

/-! ## Bodies -/

namespace Scope

variable {levels : List ScopeLevel}

/-- The innermost body, and those around it, after one more level. -/
theorem bodies_cons (level : ScopeLevel) (levels : List ScopeLevel) :
    ∃ current around, bodies levels = current :: around ∧
      bodies (level :: levels) =
        if level.isLambda then [] :: current :: around else (level :: current) :: around := by
  rcases split : bodies levels with _ | ⟨current, around⟩
  · exact absurd split (List.splitOnP_ne_nil _ _)
  · refine ⟨current, around, rfl, ?_⟩
    rw [bodies] at split
    rw [bodies, List.splitOnP_cons_eq_if_modifyHead, split]
    rfl

/-- A new block of the innermost body goes on where that body ends. -/
theorem nextSlot_eq_firstFree {current : List ScopeLevel} {around : List (List ScopeLevel)}
    (split : bodies levels = current :: around) : nextSlot levels = firstFree current := by
  induction levels generalizing current around with
  | nil =>
    cases split
    rfl
  | cons level levels ih =>
    obtain ⟨inner, rest, known, step⟩ := bodies_cons level levels
    rw [step] at split
    cases level with
    | lambda closure =>
      cases split
      rfl
    | block b =>
      cases split
      rfl
    | space | classBody | templateArguments =>
      cases split
      simp only [nextSlot, ih known]
      rw [firstFree, firstFree, innermostBlock?_cons rfl]

theorem slots_sublist_of_mem_bodies {body : List ScopeLevel} (member : body ∈ bodies levels) :
    (slots body).Sublist (slots levels) := by
  apply List.Sublist.flatMap
  induction levels generalizing body with
  | nil =>
    rw [bodies, List.splitOnP_nil, List.mem_singleton] at member
    simp [member]
  | cons level levels ih =>
    obtain ⟨inner, rest, known, step⟩ := bodies_cons level levels
    rw [step] at member
    split at member
    · -- A lambda begins a body without levels.
      rcases List.mem_cons.mp member with rfl | older
      · exact List.nil_sublist _
      · exact (ih (known ▸ older)).cons level
    · rcases List.mem_cons.mp member with rfl | older
      · exact (ih (known ▸ List.mem_cons_self)).cons_cons level
      · exact (ih (known ▸ List.mem_cons_of_mem _ older)).cons level

/-- The variables of each body take the slots below its first free one, each once. -/
theorem perm_slots_of_continuous (h : Continuous levels) {body : List ScopeLevel}
    (member : body ∈ bodies levels) : (slots body).Perm (List.range (firstFree body)) := by
  induction levels generalizing body with
  | nil =>
    rw [bodies, List.splitOnP_nil, List.mem_singleton] at member
    subst member
    exact .refl _
  | cons level levels ih =>
    obtain ⟨inner, rest, known, step⟩ := bodies_cons level levels
    have older : ∀ other ∈ rest, (slots other).Perm (List.range (firstFree other)) :=
      fun other isOlder => ih h.tail (known ▸ List.mem_cons_of_mem _ isOlder)
    have current : (slots inner).Perm (List.range (firstFree inner)) :=
      ih h.tail (known ▸ List.mem_cons_self)
    rw [step] at member
    cases level with
    | lambda closure =>
      -- The new body is empty, and the others are what they were.
      rcases List.mem_cons.mp member with rfl | isOlder
      · exact .refl _
      · rcases List.mem_cons.mp isOlder with rfl | isOlder
        · exact current
        · exact older _ isOlder
    | block b =>
      rcases List.mem_cons.mp member with rfl | isOlder
      · -- The slots of the block follow those of the blocks around it.
        obtain ⟨fills, -⟩ := h
        have start := nextSlot_eq_firstFree known
        rw [start] at fills
        have total : firstFree (.block b :: inner) = firstFree inner + b.slots.length := fills.next
        show (b.slots ++ slots inner).Perm _
        rw [total, fills.slots, List.length_range', List.range_eq_range',
          ← List.range'_append_1, Nat.zero_add, ← List.range_eq_range']
        exact (List.perm_append_comm).trans (current.append_right _)
      · exact older _ isOlder
    | space | classBody | templateArguments =>
      rcases List.mem_cons.mp member with rfl | isOlder
      · exact current
      · exact older _ isOlder

/-! ## The main statement -/

/-- Start from a scope without blocks, and let any operations follow. In each function body, the
slots of all variables in open blocks are then pairwise different, and are exactly those below the
next slot of its innermost block. With fewer than `2 ^ 32` declarations, all of them fit into 32
bits. A declaration is refused only if the innermost block has a variable of that name, and then
nothing changes. -/
theorem live_slots_gapless {start : Scope} (bare : ∀ level ∈ start.levels, level.block? = none)
    (ops : List ScopeOp) (few : ops.countP ScopeOp.isDeclaration < 2 ^ 32) :
    (∀ body ∈ bodies (ops.foldl ScopeOp.run start).levels,
        (slots body).Nodup ∧ (∀ slot, slot ∈ slots body ↔ slot < firstFree body) ∧
          firstFree body < 2 ^ 32) ∧
      ∀ name t e, (ops.foldl ScopeOp.run start).declare name t = some (.error e) →
        (∃ block, innermostBlock? (ops.foldl ScopeOp.run start).levels = some block ∧
            block.locals.contains name) ∧
          (ScopeOp.declare name t).run (ops.foldl ScopeOp.run start) =
            ops.foldl ScopeOp.run start := by
  have continuous := ScopeOp.continuous_foldl_run ops (continuous_of_bare bare)
  have counted := ScopeOp.length_slots_foldl_run_le ops start
  have empty : slots start.levels = [] := by
    rw [slots, List.flatMap_eq_nil_iff]
    intro level member
    rw [ScopeLevel.slots, bare level member]
    rfl
  rw [empty, List.length_nil, Nat.zero_add] at counted
  refine ⟨fun body member => ?_, fun name t e refused => ?_⟩
  · have filled := perm_slots_of_continuous continuous member
    refine ⟨filled.nodup_iff.mpr List.nodup_range, ?_, ?_⟩
    · intro slot
      rw [filled.mem_iff, List.mem_range]
    · -- There are as many variables as slots, and each was declared.
      have size := filled.length_eq
      have part := (slots_sublist_of_mem_bodies member).length_le
      rw [List.length_range] at size
      omega
  · refine ⟨?_, by simp only [ScopeOp.run, refused]⟩
    obtain ⟨outcome, found, mapped⟩ := Option.map_eq_some_iff.mp refused
    rcases outcome with reason | ⟨_, _⟩
    · exact (declareIn_eq_error_iff.mp found).2
    · cases mapped

/-- A body with nested blocks and a lambda in it. A variable that is declared before the lambda has
a block belongs to the body around. -/
def nestedBodies : List ScopeOp :=
  [.enterBlock, .declare "a" (.ofKind .int), .enter (.classBody ⟨7⟩) rfl, .enterBlock,
    .declare "a" (.ofKind .float), .enter (.lambda ⟨8⟩) rfl, .declare "b" (.ofKind .int),
    .enterBlock, .declare "c" (.ofKind .int), .enterBlock, .leave, .declare "d" (.ofKind .int)]

theorem live_slots_gapless_nestedBodies :
    nestedBodies.countP ScopeOp.isDeclaration = 5 ∧
      (bodies (nestedBodies.foldl ScopeOp.run global).levels).map slots = [[0, 1], [1, 2, 0]] ∧
      (∀ body ∈ bodies (nestedBodies.foldl ScopeOp.run global).levels,
        ∀ slot, slot ∈ slots body ↔ slot < firstFree body) ∧
      (nestedBodies.foldl ScopeOp.run global).declare "d" (.ofKind .bool) =
        some (.error (.variableRedeclaration "d")) ∧
      (ScopeOp.declare "d" (.ofKind .bool)).run (nestedBodies.foldl ScopeOp.run global) =
        nestedBodies.foldl ScopeOp.run global := by
  have declarations : nestedBodies.countP ScopeOp.isDeclaration = 5 := by decide
  have refused : (nestedBodies.foldl ScopeOp.run global).declare "d" (.ofKind .bool) =
      some (.error (.variableRedeclaration "d")) := by decide +kernel
  have bare : ∀ level ∈ global.levels, level.block? = none := by simp [global, ScopeLevel.block?]
  obtain ⟨filled, kept⟩ := live_slots_gapless bare nestedBodies (by rw [declarations]; decide)
  refine ⟨declarations, by decide +kernel, fun body member => (filled body member).2.1, refused, ?_⟩
  exact (kept _ _ _ refused).2

end Scope

end ScriptSemantics
