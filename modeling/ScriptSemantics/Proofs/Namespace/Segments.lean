import Mathlib.Data.List.Basic
import ScriptSemantics.Path

/-!
# Segments of a Path

Joining names and splitting the path again gives the names back only if the path shows where each
name ends. A name must hold no separator, and it must not end in a colon where another name follows:
`a:` and `b` join into `a:::b`, which is searched from the left and splits into `a` and `:b`.

`Path.Segmented` states both conditions. The segments of a path always satisfy them
(`segmented_segments`), and names that do are the segments of the path they join into
(`segments_join`).
-/

namespace ScriptSemantics.Path

/-! ## Pieces of a text -/

theorem splitChars_ne_nil (cs : List Char) : splitChars cs ≠ [] := by
  fun_cases splitChars cs <;> simp

/-- A character that does not begin a separator joins the first piece of what follows. -/
theorem splitChars_cons {c : Char} {rest piece : List Char} {pieces : List (List Char)}
    (apart : c = ':' → rest.head? ≠ some ':') (split : splitChars rest = piece :: pieces) :
    splitChars (c :: rest) = (c :: piece) :: pieces := by
  rw [splitChars.eq_3]
  · rw [split]
  · -- The text does not begin with a separator.
    rintro tail colon rfl
    exact apart colon rfl

/-- The text begins as its first piece does. -/
theorem head?_of_first {cs piece : List Char} {pieces : List (List Char)} {c : Char}
    (split : splitChars cs = piece :: pieces) (begins : piece.head? = some c) :
    cs.head? = some c := by
  revert split
  fun_cases splitChars cs <;> rintro ⟨⟩ <;> simp_all

/-- A text whose first piece is empty begins with a separator, unless it is empty. -/
theorem head?_of_first_nil {cs : List Char} {pieces : List (List Char)}
    (split : splitChars cs = [] :: pieces) (more : pieces ≠ []) : cs.head? = some ':' := by
  revert split
  fun_cases splitChars cs <;> intro split <;> simp_all

/-- A text without a separator. -/
def Whole (cs : List Char) : Prop := splitChars cs = [cs]

theorem whole_cons_iff {c : Char} {cs : List Char} :
    Whole (c :: cs) ↔ Whole cs ∧ (c = ':' → cs.head? ≠ some ':') := by
  constructor
  · intro whole
    have apart : c = ':' → cs.head? ≠ some ':' := by
      rintro rfl begins
      obtain ⟨tail, rfl⟩ := List.head?_eq_some_iff.mp begins
      simp [Whole, splitChars] at whole
    refine ⟨?_, apart⟩
    obtain ⟨piece, pieces, split⟩ := List.exists_cons_of_ne_nil (splitChars_ne_nil cs)
    rw [Whole, splitChars_cons apart split] at whole
    simp_all [Whole]
  · rintro ⟨whole, apart⟩
    exact splitChars_cons apart whole

/-- No piece holds a separator. -/
theorem whole_of_mem {cs piece : List Char} (member : piece ∈ splitChars cs) : Whole piece := by
  fun_induction splitChars cs generalizing piece with
  | case1 =>
    rw [List.mem_singleton] at member
    subst member
    rfl
  | case2 rest ih =>
    rcases List.mem_cons.mp member with rfl | later
    · rfl
    · exact ih later
  | case3 c rest apart none => exact absurd none (splitChars_ne_nil rest)
  | case4 c rest apart first others split ih =>
    rw [split] at ih
    rcases List.mem_cons.mp member with rfl | later
    · -- The character stands apart from the piece as it does from the text.
      refine whole_cons_iff.mpr ⟨ih List.mem_cons_self, ?_⟩
      intro colon begins
      obtain ⟨tail, text⟩ := List.head?_eq_some_iff.mp (head?_of_first split begins)
      exact apart tail colon text
    · exact ih (List.mem_cons_of_mem _ later)

/-- A piece in front of a separator does not end in a colon. -/
theorem getLast?_of_mem_dropLast {cs piece : List Char}
    (member : piece ∈ (splitChars cs).dropLast) : piece.getLast? ≠ some ':' := by
  fun_induction splitChars cs generalizing piece with
  | case1 => simp at member
  | case2 rest ih =>
    rw [List.dropLast_cons_of_ne_nil (splitChars_ne_nil rest)] at member
    rcases List.mem_cons.mp member with rfl | later
    · simp
    · exact ih later
  | case3 c rest apart none => exact absurd none (splitChars_ne_nil rest)
  | case4 c rest apart first others split ih =>
    rw [split] at ih
    cases others with
    | nil => simp at member
    | cons second others =>
      rw [List.dropLast_cons_of_ne_nil (by simp)] at member ih
      rcases List.mem_cons.mp member with rfl | later
      · cases first with
        | nil =>
          -- A separator follows at once, so the character is no colon.
          intro colon
          obtain ⟨tail, text⟩ := List.head?_eq_some_iff.mp (head?_of_first_nil split (by simp))
          exact apart tail (by simpa using colon) text
        | cons d first => simpa using ih List.mem_cons_self
      · exact ih (List.mem_cons_of_mem _ later)

/-! ## Joining and splitting -/

/-- In front of a separator, a text that holds none and does not end in a colon is a piece. -/
theorem splitChars_append {cs : List Char} (whole : Whole cs) (closed : cs.getLast? ≠ some ':')
    (rest : List Char) : splitChars (cs ++ ':' :: ':' :: rest) = cs :: splitChars rest := by
  induction cs with
  | nil => rw [List.nil_append, splitChars]
  | cons c cs ih =>
    obtain ⟨whole, apart⟩ := whole_cons_iff.mp whole
    cases cs with
    | nil =>
      -- The last character; as it is no colon, the separator is found behind it.
      have noColon : c ≠ ':' := by simpa using closed
      refine splitChars_cons (fun colon => absurd colon noColon) ?_
      exact ih whole (by simp)
    | cons d cs =>
      refine splitChars_cons ?_ (ih whole (by simpa using closed))
      intro colon
      simpa using apart colon

/-- Texts without separators come back from their join. -/
theorem splitChars_intercalate {texts : List (List Char)} (nonempty : texts ≠ [])
    (whole : ∀ text ∈ texts, Whole text)
    (closed : ∀ text ∈ texts.dropLast, text.getLast? ≠ some ':') :
    splitChars ([':', ':'].intercalate texts) = texts := by
  induction texts with
  | nil => exact absurd rfl nonempty
  | cons text texts ih =>
    cases texts with
    | nil =>
      rw [List.intercalate_singleton]
      exact whole text List.mem_cons_self
    | cons next texts =>
      rw [List.dropLast_cons_of_ne_nil (by simp)] at closed
      have others := ih (by simp) (fun t h => whole t (List.mem_cons_of_mem _ h))
        (fun t h => closed t (List.mem_cons_of_mem _ h))
      rw [List.intercalate_cons_cons, List.append_assoc]
      show splitChars (text ++ ':' :: ':' :: [':', ':'].intercalate (next :: texts)) = _
      rw [splitChars_append (whole text List.mem_cons_self) (closed text List.mem_cons_self),
        others]

/-- Names that the path they join into shows again: none is empty or holds a separator, and none but
the last ends in a colon. -/
structure Segmented (names : List String) : Prop where
  nonempty : ∀ name ∈ names, name ≠ ""
  whole : ∀ name ∈ names, Whole name.toList
  closed : ∀ name ∈ names.dropLast, name.toList.getLast? ≠ some ':'

theorem Segmented.tail {name : String} {names : List String}
    (segmented : Segmented (name :: names)) : Segmented names where
  nonempty n member := segmented.nonempty n (List.mem_cons_of_mem _ member)
  whole n member := segmented.whole n (List.mem_cons_of_mem _ member)
  closed n member := by
    refine segmented.closed n ?_
    cases names with
    | nil => simp at member
    | cons next names =>
      rw [List.dropLast_cons_of_ne_nil (by simp)]
      exact List.mem_cons_of_mem _ member

/-- What is left of a list without its last element is left of it after a filter too. -/
theorem mem_dropLast_of_filter {α : Type} {p : α → Bool} {l : List α} {a : α}
    (member : a ∈ (l.filter p).dropLast) : a ∈ l.dropLast := by
  rcases List.eq_nil_or_concat l with rfl | ⟨front, last, rfl⟩
  · simp at member
  · rw [List.concat_eq_append, List.filter_append, List.dropLast_append] at member
    rw [List.concat_eq_append, List.dropLast_concat]
    have kept : a ∈ front.filter p := by
      split at member
      · exact List.dropLast_subset _ member
      · by_cases h : p last <;> simp_all
    exact List.mem_of_mem_filter kept

theorem segmented_segments (path : String) : Segmented (segments path) where
  nonempty name member := by
    have nonempty := (List.mem_filter.mp member).2
    simpa [String.isEmpty_iff] using nonempty
  whole name member := by
    obtain ⟨piece, isPiece, rfl⟩ := List.mem_map.mp (List.mem_of_mem_filter member)
    rw [String.toList_ofList]
    exact whole_of_mem isPiece
  closed name member := by
    have early : name ∈ (split path).dropLast := mem_dropLast_of_filter member
    rw [split, ← List.map_dropLast] at early
    obtain ⟨piece, isPiece, rfl⟩ := List.mem_map.mp early
    rw [String.toList_ofList]
    exact getLast?_of_mem_dropLast isPiece

/-- Pieces that hold no separator come back from the path they join into. -/
theorem split_join {pieces : List String} (inhabited : pieces ≠ [])
    (whole : ∀ piece ∈ pieces, Whole piece.toList)
    (closed : ∀ piece ∈ pieces.dropLast, piece.toList.getLast? ≠ some ':') :
    split (join pieces) = pieces := by
  rw [split, join, String.toList_intercalate]
  show (splitChars ([':', ':'].intercalate _)).map String.ofList = _
  rw [splitChars_intercalate (by simpa using inhabited), List.map_map]
  · simp [Function.comp_def]
  · intro text member
    obtain ⟨piece, isPiece, rfl⟩ := List.mem_map.mp member
    exact whole piece isPiece
  · intro text member
    rw [← List.map_dropLast] at member
    obtain ⟨piece, isPiece, rfl⟩ := List.mem_map.mp member
    exact closed piece isPiece

/-- **Joined names are found again**: the segments of a path are the names that it was joined
from. -/
theorem segments_join {names : List String} (segmented : Segmented names) :
    segments (join names) = names := by
  cases names with
  | nil => rfl
  | cons name names =>
    rw [segments, split_join (by simp) segmented.whole segmented.closed, List.filter_eq_self]
    intro n isName
    simpa [String.isEmpty_iff] using segmented.nonempty n isName

/-- A name that ends in a colon stands last, and one that begins with a colon may stand anywhere. -/
example : segments "a:::b::c:" = ["a", ":b", "c:"] := by decide

end ScriptSemantics.Path
