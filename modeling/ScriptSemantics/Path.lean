/-!
# Qualified paths

Paths are written `a::b::c`. A path splits at each `::` from the left. Namespace paths ignore
empty segments, so `::a::::b` and `a::b` name the same namespace.
-/

namespace ScriptSemantics.Path

/-- Pieces of a text between separators `::`, searched from the left. There is always one. -/
def splitChars : List Char → List (List Char)
  | [] => [[]]
  | ':' :: ':' :: rest => [] :: splitChars rest
  | c :: rest =>
    match splitChars rest with
    | [] => [[c]]
    | piece :: pieces => (c :: piece) :: pieces

/-- Pieces of a path between separators, empty ones included. -/
def split (path : String) : List String :=
  (splitChars path.toList).map String.ofList

/-- Names along a namespace path. Empty pieces do not count. -/
def segments (path : String) : List String :=
  (split path).filter fun piece => !piece.isEmpty

/-- Names joined into one path. -/
def join (names : List String) : String :=
  "::".intercalate names

/-- The name `name` inside the namespace `space`; the root namespace is the empty path. -/
def qualify (space name : String) : String :=
  if space.isEmpty then name else space ++ "::" ++ name

/-- Split in front of and behind the first separator of a reversed text. -/
def splitFirstReversed : List Char → List Char → Option (List Char × List Char)
  | _, [] => none
  | before, ':' :: ':' :: rest => some (rest.reverse, before)
  | before, c :: rest => splitFirstReversed (c :: before) rest

/-- The texts in front of and behind the last separator, if there is one. -/
def splitLast? (path : String) : Option (String × String) :=
  (splitFirstReversed [] path.toList.reverse).map fun (front, back) =>
    (String.ofList front, String.ofList back)

/-- The paths of all namespaces around and including `names`, outermost first, below `outer`. -/
def enclosingFrom (outer : String) : List String → List String
  | [] => []
  | name :: names =>
    let path := qualify outer name
    path :: enclosingFrom path names

end ScriptSemantics.Path
