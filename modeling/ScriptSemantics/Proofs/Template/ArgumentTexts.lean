import Mathlib
import ScriptSemantics.Declaration.Template

/-!
# Texts of Template Arguments

A template argument is written as a qualified type, as `true` or `false`, or as a decimal. The text
tells which argument it is, and a list of such texts tells where each of them ends:

1. An identity is written with a fixed number of digits, and all digits count
   (`TypeHash.text_injective`).
2. The base of a type is a word of letters, digits and angle brackets. Each qualifier brings a
   character that no base has, so the text of a type shows its qualifiers, and what is left between
   them is the base (`DataType.text_injective`).
3. Decimals have no letters, and all other arguments have some (`TemplateArgument.text_injective`).
4. No argument has a comma in its text, so the commas in a list are those between its arguments
   (`templateIdText_injective`).
-/

namespace ScriptSemantics

/-! ## Texts between commas -/

/-- A text that stands in a list: it is not empty and holds no comma. -/
structure IsItem (text : List Char) : Prop where
  nonempty : text ≠ []
  noComma : ',' ∉ text

/-- The first comma is the end of the first text. -/
theorem eq_of_append_comma {x y rest rest' : List Char} (hx : ',' ∉ x) (hy : ',' ∉ y)
    (same : x ++ ',' :: rest = y ++ ',' :: rest') : x = y ∧ rest = rest' := by
  have upTo {z : List Char} (hz : ',' ∉ z) (tail : List Char) :
      (z ++ ',' :: tail).takeWhile (· ≠ ',') = z := by
    rw [List.takeWhile_append_of_pos]
    · simp
    · intro c member
      simpa using fun comma : c = ',' => hz (comma ▸ member)
  have first : x = y := by rw [← upTo hx rest, same, upTo hy rest']
  subst first
  simpa using same

/-- Items come back from the text they are joined into. -/
theorem eq_of_intercalate_eq {xs ys : List (List Char)} (hx : ∀ x ∈ xs, IsItem x)
    (hy : ∀ y ∈ ys, IsItem y)
    (same : [',', ' '].intercalate xs = [',', ' '].intercalate ys) : xs = ys := by
  induction xs generalizing ys with
  | nil =>
    cases ys with
    | nil => rfl
    | cons y ys =>
      have nonempty := (hy y List.mem_cons_self).nonempty
      cases ys <;> simp_all [List.intercalate_cons_cons]
  | cons x xs ih =>
    have item := hx x List.mem_cons_self
    cases ys with
    | nil =>
      have nonempty := item.nonempty
      cases xs <;> simp_all [List.intercalate_cons_cons]
    | cons y ys =>
      have item' := hy y List.mem_cons_self
      -- A comma follows the first text on both sides, or on none.
      cases xs with
      | nil =>
        cases ys with
        | nil => simpa using same
        | cons y' ys =>
          rw [List.intercalate_singleton, List.intercalate_cons_cons] at same
          exact absurd (same ▸ by simp) item.noComma
      | cons x' xs =>
        cases ys with
        | nil =>
          rw [List.intercalate_singleton, List.intercalate_cons_cons] at same
          exact absurd (same ▸ by simp) item'.noComma
        | cons y' ys =>
          rw [List.intercalate_cons_cons, List.intercalate_cons_cons, List.append_assoc,
            List.append_assoc] at same
          obtain ⟨rfl, rest⟩ := eq_of_append_comma item.noComma item'.noComma same
          have others := ih (fun z member => hx z (List.mem_cons_of_mem _ member))
            (fun z member => hy z (List.mem_cons_of_mem _ member)) (List.cons.inj rest).2
          rw [others]

/-! ## Identities -/

namespace TypeHash

theorem hexDigit_injective {m n : Nat} (hm : m < 16) (hn : n < 16)
    (same : hexDigit m = hexDigit n) : m = n := by
  have all : ∀ m < 16, ∀ n < 16, hexDigit m = hexDigit n → m = n := by decide
  exact all m hm n hn same

theorem hexDigits_injective {width m n : Nat} (hm : m < 16 ^ width) (hn : n < 16 ^ width)
    (same : hexDigits width m = hexDigits width n) : m = n := by
  induction width generalizing m n with
  | zero => simp_all
  | succ width ih =>
    rw [pow_succ] at hm hn
    rw [hexDigits, hexDigits] at same
    obtain ⟨front, last⟩ := List.append_inj' same rfl
    have high := ih (Nat.div_lt_of_lt_mul (by omega)) (Nat.div_lt_of_lt_mul (by omega)) front
    have low := hexDigit_injective (Nat.mod_lt m (by decide)) (Nat.mod_lt n (by decide))
      (List.cons.inj last).1
    omega

theorem text_injective : Function.Injective text := by
  rintro ⟨a⟩ ⟨b⟩ same
  rw [text, text, ← String.toList_inj] at same
  simp only [String.toList_append, List.append_cancel_left_eq, String.toList_ofList] at same
  rw [mk.injEq, ← UInt64.toNat_inj]
  exact hexDigits_injective a.toNat_lt b.toNat_lt same

end TypeHash

/-! ## Types -/

/-- The characters in the name of a base type. -/
def isBaseChar (c : Char) : Bool := c.isLower || c.isDigit || c == '<' || c == '>'

theorem TypeHash.isBaseChar_of_mem_hexDigits {width n : Nat} {c : Char}
    (member : c ∈ hexDigits width n) : isBaseChar c := by
  have digit : ∀ d < 16, isBaseChar (hexDigit d) := by decide
  induction width generalizing n with
  | zero => cases member
  | succ width ih =>
    rcases List.mem_append.mp member with high | low
    · exact ih high
    · rw [List.mem_singleton.mp low]
      exact digit _ (Nat.mod_lt n (by decide))

/-- The identities that are written by a name of their own. -/
def reservedNames : List (TypeHash × String) :=
  FundamentalKind.all.map (fun kind => (kind.hash, kind.keyword)) ++
    [(TypeHash.null, "<null>"), (TypeHash.auto, "auto")]

section reserved

variable {entry other : TypeHash × String}

theorem reservedNames_word (reserved : entry ∈ reservedNames) :
    entry.2.toList.all isBaseChar ∧ entry.2.toList.any Char.isLower := by
  revert entry
  decide

theorem reservedNames_head? (reserved : entry ∈ reservedNames) :
    entry.2.toList.head? ≠ some '0' := by
  revert entry
  decide

theorem reservedNames_unique (reserved : entry ∈ reservedNames) (reserved' : other ∈ reservedNames)
    (same : entry.2 = other.2) : entry.1 = other.1 := by
  have all : ∀ entry ∈ reservedNames, ∀ other ∈ reservedNames,
      entry.2 = other.2 → entry.1 = other.1 := by decide
  exact all entry reserved other reserved' same

end reserved

namespace DataType

variable {a b : DataType}

theorem baseText_cases (t : DataType) :
    (t.typeHash, t.baseText) ∈ reservedNames ∨ t.baseText = t.typeHash.text := by
  unfold baseText
  split
  · rename_i kind found
    have same : kind.hash = t.typeHash := by simpa using List.find?_some found
    rw [← same]
    exact .inl (List.mem_append_left _
      (List.mem_map.mpr ⟨kind, List.mem_of_find?_eq_some found, rfl⟩))
  · split
    · rename_i null
      rw [show t.typeHash = .null by simpa [isNull] using null]
      exact .inl (by decide)
    · split
      · rename_i auto
        rw [show t.typeHash = .auto by simpa [isAuto] using auto]
        exact .inl (by decide)
      · exact .inr rfl

theorem baseText_injective (same : a.baseText = b.baseText) : a.typeHash = b.typeHash := by
  have hash (t : DataType) : t.typeHash.text.toList.head? = some '0' := by simp [TypeHash.text]
  rcases a.baseText_cases with reservedA | hashA <;> rcases b.baseText_cases with reservedB | hashB
  · exact reservedNames_unique reservedA reservedB same
  · refine absurd ?_ (reservedNames_head? reservedA)
    simp only [same, hashB, hash]
  · refine absurd ?_ (reservedNames_head? reservedB)
    simp only [← same, hashA, hash]
  · rw [hashA, hashB] at same
    exact TypeHash.text_injective same

/-- A base is a word, and there is a letter in it: a hash has its `x`. -/
theorem baseText_word (t : DataType) :
    t.baseText.toList.all isBaseChar ∧ t.baseText.toList.any Char.isLower := by
  rcases t.baseText_cases with reserved | hash
  · obtain ⟨chars, letter⟩ := reservedNames_word reserved
    exact ⟨chars, letter⟩
  · have digits : (TypeHash.hexDigits 16 t.typeHash.bits.toNat).all isBaseChar :=
      List.all_eq_true.mpr fun c member => TypeHash.isBaseChar_of_mem_hexDigits member
    have text : t.typeHash.text.toList =
        '0' :: 'x' :: TypeHash.hexDigits 16 t.typeHash.bits.toNat := by
      simp [TypeHash.text]
    rw [hash, text, List.all_cons, List.all_cons, digits]
    exact ⟨by decide, rfl⟩

theorem notMem_baseText (t : DataType) {c : Char} (foreign : isBaseChar c = false) :
    c ∉ t.baseText.toList := by
  intro member
  have isBase := List.all_eq_true.mp t.baseText_word.1 c member
  rw [foreign] at isBase
  cases isBase

/-! Each qualifier is seen by a character of its own. -/

theorem toList_text (t : DataType) :
    t.text.toList = (if t.isConst then ['c', 'o', 'n', 's', 't', ' '] else []) ++
      (t.baseText.toList ++ ((if t.isArray then ['[', ']'] else []) ++
        (if t.isReference then ['&'] else []))) := by
  unfold text
  cases t.isConst <;> cases t.isArray <;> cases t.isReference <;> simp

/-- A character that no base has comes from a qualifier. -/
theorem mem_text_iff (t : DataType) {c : Char} (foreign : isBaseChar c = false) :
    c ∈ t.text.toList ↔
      (t.isConst ∧ c = ' ') ∨ (t.isArray ∧ c ∈ ['[', ']']) ∨ (t.isReference ∧ c = '&') := by
  have ofFlag (flag : Bool) (text : List Char) :
      c ∈ (if flag then text else []) ↔ flag ∧ c ∈ text := by cases flag <;> simp
  -- The word itself is made of characters that a base may have, only the space is not.
  have ofConst : c ∈ ['c', 'o', 'n', 's', 't', ' '] ↔ c = ' ' := by
    have word : ['c', 'o', 'n', 's', 't'].all isBaseChar := by decide
    have notWord : c ∉ ['c', 'o', 'n', 's', 't'] := by
      intro member
      rw [List.all_eq_true.mp word c member] at foreign
      cases foreign
    rw [show ['c', 'o', 'n', 's', 't', ' '] = ['c', 'o', 'n', 's', 't'] ++ [' '] from rfl,
      List.mem_append, or_iff_right notWord, List.mem_singleton]
  rw [toList_text, List.mem_append, List.mem_append, List.mem_append, ofFlag, ofFlag, ofFlag,
    ofConst, or_iff_right (t.notMem_baseText foreign), List.mem_singleton]

theorem space_mem_text_iff (t : DataType) : ' ' ∈ t.text.toList ↔ t.isConst := by
  rw [t.mem_text_iff (by decide)]
  simp

theorem bracket_mem_text_iff (t : DataType) : '[' ∈ t.text.toList ↔ t.isArray := by
  rw [t.mem_text_iff (by decide)]
  simp

theorem ampersand_mem_text_iff (t : DataType) : '&' ∈ t.text.toList ↔ t.isReference := by
  rw [t.mem_text_iff (by decide)]
  simp

theorem text_injective : Function.Injective text := by
  intro a b same
  have isConst : a.isConst = b.isConst := by
    rw [Bool.eq_iff_iff, ← space_mem_text_iff, ← space_mem_text_iff, same]
  have isArray : a.isArray = b.isArray := by
    rw [Bool.eq_iff_iff, ← bracket_mem_text_iff, ← bracket_mem_text_iff, same]
  have isReference : a.isReference = b.isReference := by
    rw [Bool.eq_iff_iff, ← ampersand_mem_text_iff, ← ampersand_mem_text_iff, same]
  -- The qualifiers are written alike, and what stands between them is the base.
  rw [← String.toList_inj, toList_text, toList_text, isConst, isArray, isReference,
    List.append_cancel_left_eq, List.append_cancel_right_eq, String.toList_inj] at same
  have hash := baseText_injective same
  obtain ⟨hashA, constA, referenceA, arrayA⟩ := a
  obtain ⟨hashB, constB, referenceB, arrayB⟩ := b
  cases hash
  cases isConst
  cases isArray
  cases isReference
  rfl

theorem comma_notMem_text (t : DataType) : ',' ∉ t.text.toList := by
  rw [t.mem_text_iff (by decide)]
  simp

theorem any_isLower_text (t : DataType) : t.text.toList.any Char.isLower := by
  rw [toList_text, List.any_append, List.any_append, t.baseText_word.2]
  simp

end DataType

/-! ## Arguments -/

namespace TemplateArgument

/-- A decimal is written with digits, and with a sign in front if it is negative. -/
theorem text_integer_cases (value : Int64) :
    ∃ n : Nat, (integer value).text = n.repr ∨ (integer value).text = "-" ++ n.repr := by
  show ∃ n : Nat, value.toInt.repr = n.repr ∨ value.toInt.repr = "-" ++ n.repr
  cases value.toInt with
  | ofNat n => exact ⟨n, .inl rfl⟩
  | negSucc n => exact ⟨n + 1, .inr rfl⟩

theorem isDigit_of_mem_text {value : Int64} {c : Char} (member : c ∈ (integer value).text.toList) :
    c = '-' ∨ c.isDigit := by
  have decimal {n : Nat} (h : c ∈ n.repr.toList) : c.isDigit := by
    rw [Nat.toList_repr] at h
    exact Nat.isDigit_of_mem_toDigits (by decide) (by decide) h
  obtain ⟨n, h | h⟩ := text_integer_cases value
  · rw [h] at member
    exact .inr (decimal member)
  · rw [h, String.toList_append] at member
    rcases List.mem_append.mp member with minus | digits
    · exact .inl (by simpa using minus)
    · exact .inr (decimal digits)

/-- All arguments but decimals have a letter in their text. -/
theorem any_isLower_text_iff (a : TemplateArgument) :
    a.text.toList.any Char.isLower ↔ a.kind ≠ .integer := by
  cases a with
  | type t => exact iff_of_true t.any_isLower_text (by simp [kind])
  | bool value => cases value <;> decide
  | integer value =>
    have letterless : ∀ c ∈ (integer value).text.toList, c.isLower = false := by
      intro c member
      rcases isDigit_of_mem_text member with rfl | digit
      · rfl
      · -- Digits come in front of letters.
        have nine : '9'.val.toNat = 57 := rfl
        have small : 'a'.val.toNat = 97 := rfl
        simp only [Char.isDigit, Char.isLower, UInt32.le_iff_toNat_le, ge_iff_le, Bool.and_eq_true,
          decide_eq_true_eq, Bool.and_eq_false_iff, decide_eq_false_iff_not] at digit ⊢
        exact .inl (by omega)
    simpa [kind] using letterless

/-- A boolean looks like a type without qualifiers, and no such type is called so. -/
theorem text_type_ne_text_bool (t : DataType) (value : Bool) :
    (type t).text ≠ (bool value).text := by
  have plain : ∀ value, ' ' ∉ (bool value).text.toList ∧ '[' ∉ (bool value).text.toList ∧
      '&' ∉ (bool value).text.toList ∧ (bool value).text.toList.head? ≠ some '0' := by decide
  have unreserved : ∀ entry ∈ reservedNames, ∀ value, entry.2 ≠ (bool value).text := by decide
  obtain ⟨noSpace, noBracket, noAmpersand, head⟩ := plain value
  intro same
  rw [text] at same
  rw [← same, t.space_mem_text_iff, Bool.not_eq_true] at noSpace
  rw [← same, t.bracket_mem_text_iff, Bool.not_eq_true] at noBracket
  rw [← same, t.ampersand_mem_text_iff, Bool.not_eq_true] at noAmpersand
  have base : t.text = t.baseText := by
    rw [← String.toList_inj, t.toList_text, noSpace, noBracket, noAmpersand]
    simp
  rw [base] at same
  rcases t.baseText_cases with reserved | hash
  · exact unreserved _ reserved value same
  · rw [← same, hash] at head
    simp [TypeHash.text] at head

theorem text_injective : Function.Injective text := by
  intro a b same
  have kinds : a.kind ≠ .integer ↔ b.kind ≠ .integer := by
    rw [← any_isLower_text_iff, ← any_isLower_text_iff, same]
  cases a with
  | type t =>
    cases b with
    | type u => rw [DataType.text_injective same]
    | bool value => exact absurd same (text_type_ne_text_bool t value)
    | integer value => simp [kind] at kinds
  | bool value =>
    cases b with
    | type u => exact absurd same.symm (text_type_ne_text_bool u value)
    | bool other =>
      have all : ∀ v w, (bool v).text = (bool w).text → v = w := by decide
      rw [all value other same]
    | integer other => simp [kind] at kinds
  | integer value =>
    cases b with
    | integer other =>
      have decimals : value.toInt.repr = other.toInt.repr := same
      rw [Int64.toInt_inj.mp (Int.repr_injective decimals)]
    | type u => simp [kind] at kinds
    | bool other => simp [kind] at kinds

theorem isItem_text (a : TemplateArgument) : IsItem a.text.toList := by
  cases a with
  | type t =>
    refine ⟨fun empty => ?_, t.comma_notMem_text⟩
    have letter := t.any_isLower_text
    rw [← text, empty] at letter
    cases letter
  | bool value => cases value <;> exact ⟨by decide, by decide⟩
  | integer value =>
    refine ⟨fun empty => ?_, fun comma => ?_⟩
    · rw [String.toList_eq_nil_iff] at empty
      obtain ⟨n, h | h⟩ := text_integer_cases value <;> rw [h] at empty
      · exact Nat.repr_ne_empty empty
      · simp at empty
    · rcases isDigit_of_mem_text comma with minus | digit
      · cases minus
      · cases digit

end TemplateArgument

/-! ## Template-ids -/

/-- **Template-ids of one name are told apart by their arguments.** -/
theorem templateIdText_injective (name : String) : Function.Injective (templateIdText name) := by
  intro a b same
  have items (arguments : List TemplateArgument) :
      ∀ text ∈ (arguments.map TemplateArgument.text).map String.toList, IsItem text := by
    intro text member
    obtain ⟨_, isText, rfl⟩ := List.mem_map.mp member
    obtain ⟨argument, -, rfl⟩ := List.mem_map.mp isText
    exact argument.isItem_text
  rw [templateIdText, templateIdText, ← String.toList_inj] at same
  simp only [String.toList_append, List.append_cancel_left_eq, List.append_cancel_right_eq,
    String.toList_intercalate] at same
  have texts := eq_of_intercalate_eq (items a) (items b) same
  refine List.map_injective_iff.mpr TemplateArgument.text_injective ?_
  exact List.map_injective_iff.mpr (fun _ _ => String.toList_inj.mp) texts

end ScriptSemantics
