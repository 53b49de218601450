import ScriptSemantics.Proofs.Namespace.Segments
import ScriptSemantics.Scope.Identifier

/-!
# Paths as Identifiers

A path is read by taking one separator off its front and splitting the rest, and an identifier is
written by joining its names. Where colons run together it is not evident that these fit: `a:::b`
holds two separators that overlap, and `:::a` begins with one.

Both halves of the reading are stated without the functions that carry them out:

1. `Path.Unrooted` is the path without a separator in front, and `Path.IsSplit` are its pieces. A
   path has one split, and it is the one that is computed (`isSplit_iff`).
2. `Identifier.LeftNested` is the identifier over some names. Its text is the join of the names
   (`LeftNested.text_eq`), and its pieces are therefore the names again.

The main statement is `parsePath_inverts_text`.
-/

namespace ScriptSemantics

namespace Path

/-! ## The pieces of a path -/

/-- The path without the separator in front of it, if there is one. -/
inductive Unrooted : String → String → Prop
  | rooted (body : String) : Unrooted ("::" ++ body) body
  | plain {path : String} (unmarked : ∀ body, path ≠ "::" ++ body) : Unrooted path path

/-- The pieces between the separators of a path. They make up the path and hold no separator. In
front of a separator no piece ends in a colon, since of two separators that overlap the first one
counts. -/
structure IsSplit (path : String) (pieces : List String) : Prop where
  inhabited : pieces ≠ []
  joined : join pieces = path
  whole : ∀ piece ∈ pieces, ¬[':', ':'] <:+: piece.toList
  closed : ∀ piece ∈ pieces.dropLast, piece.toList.getLast? ≠ some ':'

theorem whole_iff {cs : List Char} : Whole cs ↔ ¬[':', ':'] <:+: cs := by
  induction cs with
  | nil => simp [Whole, splitChars]
  | cons c cs ih =>
    have begins : [':', ':'] <+: c :: cs ↔ c = ':' ∧ cs.head? = some ':' := by
      cases cs <;> simp [List.cons_prefix_cons, eq_comm]
    rw [whole_cons_iff, ih, List.infix_cons_iff, begins]
    tauto

theorem intercalate_splitChars (cs : List Char) :
    [':', ':'].intercalate (splitChars cs) = cs := by
  fun_induction splitChars cs with
  | case1 => rfl
  | case2 rest ih =>
    obtain ⟨piece, pieces, split⟩ := List.exists_cons_of_ne_nil (splitChars_ne_nil rest)
    rw [split] at ih ⊢
    rw [List.intercalate_cons_cons, ih]
    rfl
  | case3 c rest apart none => exact absurd none (splitChars_ne_nil rest)
  | case4 c rest apart first others split ih =>
    rw [split] at ih
    cases others with
    | nil => simpa using ih
    | cons second others =>
      rw [List.intercalate_cons_cons] at ih ⊢
      rw [List.cons_append, List.cons_append, ih]

theorem isSplit_split (path : String) : IsSplit path (split path) where
  inhabited := by simpa [split] using splitChars_ne_nil path.toList
  joined := by
    rw [← String.toList_inj, join, String.toList_intercalate, split, List.map_map]
    simpa [Function.comp_def] using intercalate_splitChars path.toList
  whole piece member := by
    obtain ⟨cs, isPiece, rfl⟩ := List.mem_map.mp member
    rw [String.toList_ofList]
    exact whole_iff.mp (whole_of_mem isPiece)
  closed piece member := by
    rw [split, ← List.map_dropLast] at member
    obtain ⟨cs, isPiece, rfl⟩ := List.mem_map.mp member
    rw [String.toList_ofList]
    exact getLast?_of_mem_dropLast isPiece

/-- The pieces of a path are determined by it. -/
theorem isSplit_iff {path : String} {pieces : List String} :
    IsSplit path pieces ↔ pieces = split path := by
  constructor
  · rintro ⟨inhabited, rfl, whole, closed⟩
    exact (split_join inhabited (fun piece member => whole_iff.mpr (whole piece member))
      closed).symm
  · rintro rfl
    exact isSplit_split path

end Path

namespace Identifier

/-! ## The front of a path -/

theorem dropLeadingSeparator_rooted (body : String) :
    dropLeadingSeparator ("::" ++ body) = body := by
  simp [dropLeadingSeparator]

theorem dropLeadingSeparator_plain {path : String} (unmarked : ∀ body, path ≠ "::" ++ body) :
    dropLeadingSeparator path = path := by
  unfold dropLeadingSeparator
  split
  · rename_i rest text
    refine absurd ?_ (unmarked (String.ofList rest))
    rw [← String.toList_inj, text]
    simp
  · rfl

theorem unrooted_iff {path body : String} :
    Path.Unrooted path body ↔ body = dropLeadingSeparator path := by
  constructor
  · rintro (_ | unmarked)
    · exact (dropLeadingSeparator_rooted body).symm
    · exact (dropLeadingSeparator_plain unmarked).symm
  · rintro rfl
    by_cases marked : ∃ body, path = "::" ++ body
    · obtain ⟨body, rfl⟩ := marked
      rw [dropLeadingSeparator_rooted]
      exact .rooted body
    · have unmarked : ∀ body, path ≠ "::" ++ body := fun body same => marked ⟨body, same⟩
      rw [dropLeadingSeparator_plain unmarked]
      exact .plain unmarked

/-- A path whose pieces are all names has no separator in front. -/
theorem dropLeadingSeparator_of_names {path : String}
    (names : ∀ name ∈ Path.split path, name ≠ "") :
    dropLeadingSeparator path = path := by
  refine dropLeadingSeparator_plain ?_
  rintro body rfl
  -- The piece in front of that separator would be empty.
  refine names "" ?_ rfl
  simp [Path.split, Path.splitChars]

/-! ## Identifiers over names -/

/-- The identifier is made of these names: each one but the first is looked up in all that stands in
front of it. -/
inductive LeftNested : List String → Identifier → Prop
  | single (name : String) : LeftNested [name] (simple name)
  | member {names : List String} {qualifier : Identifier} (nested : LeftNested names qualifier)
      (name : String) : LeftNested (names ++ [name]) (qualified qualifier (simple name))

namespace LeftNested

variable {names : List String} {id : Identifier}

theorem ne_nil (nested : LeftNested names id) : names ≠ [] := by
  cases nested <;> simp

theorem append (nested : LeftNested names id) (more : List String) :
    LeftNested (names ++ more) (ofNames id more) := by
  induction more generalizing names id with
  | nil =>
    rw [List.append_nil]
    exact nested
  | cons name more ih =>
    rw [List.append_cons]
    exact ih (nested.member name)

theorem text_eq (nested : LeftNested names id) : id.text = Path.join names := by
  induction nested with
  | single name => simp [text, Path.join]
  | member nested name ih =>
    rw [text, ih, text, Path.join, Path.join,
      String.intercalate_append_of_ne_nil nested.ne_nil (by simp)]
    simp

theorem name?_eq (nested : LeftNested names id) : id.name? = names.getLast? := by
  cases nested <;> simp [name?]

end LeftNested

/-- There is one identifier over given names. -/
theorem leftNested_cons_iff {first : String} {rest : List String} {id : Identifier} :
    LeftNested (first :: rest) id ↔ id = ofNames (simple first) rest := by
  constructor
  · intro nested
    generalize names : first :: rest = all at nested
    induction nested generalizing rest with
    | single name =>
      cases names
      rfl
    | @member front qualifier nested name ih =>
      -- The name at the end comes last on both sides.
      obtain ⟨head, tail, rfl⟩ := List.exists_cons_of_ne_nil nested.ne_nil
      rw [List.cons_append, List.cons.injEq] at names
      obtain ⟨rfl, rfl⟩ := names
      rw [ih rfl, ofNames, ofNames, List.foldl_append]
      rfl
  · rintro rfl
    exact (LeftNested.single first).append rest

/-! ## Reading a path -/

/-- A path is read if all its pieces are names, and then as the identifier over these. -/
theorem parsePath?_eq_some_iff {path : String} {id : Identifier} :
    parsePath? path = some id ↔
      (∀ name ∈ Path.split (dropLeadingSeparator path), name ≠ "") ∧
        LeftNested (Path.split (dropLeadingSeparator path)) id := by
  obtain ⟨first, rest, split⟩ :=
    List.exists_cons_of_ne_nil (Path.isSplit_split (dropLeadingSeparator path)).inhabited
  have all : ((first :: rest).all fun name => !name.isEmpty) = true ↔
      ∀ name ∈ first :: rest, name ≠ "" := by
    simp
  simp only [parsePath?, split]
  rw [leftNested_cons_iff, ← all]
  split
  · rename_i names
    simp [names, eq_comm]
  · rename_i names
    simp [names]

/-- What was read is read again from its own text. -/
theorem parsePath?_text {path : String} {id : Identifier} (parsed : parsePath? path = some id) :
    id.text = dropLeadingSeparator path ∧ parsePath? id.text = some id := by
  obtain ⟨names, nested⟩ := parsePath?_eq_some_iff.mp parsed
  have text : id.text = dropLeadingSeparator path := by
    rw [nested.text_eq, (Path.isSplit_split _).joined]
  refine ⟨text, ?_⟩
  rw [parsePath?_eq_some_iff, text, dropLeadingSeparator_of_names names]
  exact ⟨names, nested⟩

/-- **Reading and writing paths are inverse to each other.** Every path has a front and pieces, and
it is read exactly if it has something behind its front and all its pieces are names. What is read
is the identifier over these names. Its text is the path without its front, its name is the last
one, and from its text the same identifier is read. -/
theorem parsePath_inverts_text (path : String) :
    (∃ body segments, Path.Unrooted path body ∧ Path.IsSplit body segments) ∧
      ∀ body segments, Path.Unrooted path body → Path.IsSplit body segments →
        ((parsePath? path).isSome ↔ body ≠ "" ∧ ∀ name ∈ segments, name ≠ "") ∧
        ∀ id, parsePath? path = some id →
          LeftNested segments id ∧ id.text = body ∧ id.name? = segments.getLast? ∧
            parsePath? id.text = some id := by
  refine ⟨⟨_, _, unrooted_iff.mpr rfl, Path.isSplit_split _⟩, ?_⟩
  intro body segments unrooted isSplit
  obtain rfl := unrooted_iff.mp unrooted
  obtain rfl := Path.isSplit_iff.mp isSplit
  constructor
  · rw [Option.isSome_iff_exists]
    constructor
    · rintro ⟨id, parsed⟩
      obtain ⟨names, -⟩ := parsePath?_eq_some_iff.mp parsed
      refine ⟨fun empty => ?_, names⟩
      -- Nothing behind the front is one empty piece.
      rw [empty] at names
      exact names "" (by decide) rfl
    · rintro ⟨-, names⟩
      obtain ⟨first, rest, split⟩ := List.exists_cons_of_ne_nil isSplit.inhabited
      refine ⟨ofNames (simple first) rest, parsePath?_eq_some_iff.mpr ⟨names, ?_⟩⟩
      rw [split, leftNested_cons_iff]
  · intro id parsed
    obtain ⟨-, nested⟩ := parsePath?_eq_some_iff.mp parsed
    obtain ⟨text, again⟩ := parsePath?_text parsed
    exact ⟨nested, text, nested.name?_eq, again⟩

/-- A path that begins with three colons and holds three more: one separator is taken off the front,
and the next is found as early as it can be. -/
theorem parsePath_inverts_text_colons :
    Path.Unrooted ":::a:::b" ":a:::b" ∧ Path.IsSplit ":a:::b" [":a", ":b"] ∧
      parsePath? ":::a:::b" = some (qualified (simple ":a") (simple ":b")) ∧
      (qualified (simple ":a") (simple ":b")).text = ":a:::b" ∧
      parsePath? ":a:::b" = some (qualified (simple ":a") (simple ":b")) := by
  have unrooted : Path.Unrooted ":::a:::b" ":a:::b" := .rooted ":a:::b"
  have isSplit : Path.IsSplit ":a:::b" [":a", ":b"] := Path.isSplit_iff.mpr (by decide)
  obtain ⟨readable, parsed⟩ := (parsePath_inverts_text ":::a:::b").2 _ _ unrooted isSplit
  obtain ⟨id, found⟩ := Option.isSome_iff_exists.mp (readable.mpr (by decide))
  obtain ⟨nested, text, -, again⟩ := parsed id found
  obtain rfl := leftNested_cons_iff.mp nested
  rw [text] at again
  exact ⟨unrooted, isSplit, found, text, again⟩

/-- Behind a separator in front, a second one leaves an empty piece. -/
example : parsePath? "::::a" = none := by decide

end Identifier

end ScriptSemantics
