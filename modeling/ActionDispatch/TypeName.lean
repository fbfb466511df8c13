/-!
# Readable type names

A fully qualified type name such as `shop::Batch<shop::Order>` is shown without its paths, as
`Batch<Order>`. A name with type arguments is cut into pieces, and each piece loses its own path.
-/

namespace ActionDispatch.TypeName

def isCut : Char → Bool
  | '<' | '>' | ',' | ' ' | '(' | ')' | '[' | ']' | ';' | '&' | '*' => true
  | _ => false

/-- What follows the last `::`, if there is one. -/
def afterLastSeparator : List Char → Option (List Char)
  | [] => none
  | c :: rest =>
    match afterLastSeparator rest with
    | some tail => some tail
    | none =>
      match c, rest with
      | ':', ':' :: tail => some tail
      | _, _ => none

/-- A path without its leading modules. -/
def stripPath (path : List Char) : List Char :=
  (afterLastSeparator path).getD path

/-- The piece before the first cut, and then each cut with the piece that follows it. -/
def pieces : List Char → List Char × List (Char × List Char)
  | [] => ([], [])
  | c :: rest =>
    let (first, others) := pieces rest
    if isCut c then ([], (c, first) :: others) else (c :: first, others)

def ofPieces (name : List Char × List (Char × List Char)) : List Char :=
  name.1 ++ name.2.flatMap fun (cut, piece) => cut :: piece

/-- Every piece without its path; the cuts stay. -/
def stripPaths (full : List Char) : List Char :=
  let (first, others) := pieces full
  ofPieces (stripPath first, others.map fun (cut, piece) => (cut, stripPath piece))

/-- The short form on characters: piece by piece if there are type arguments, else as one path. -/
def shorten (full : List Char) : List Char :=
  if '<' ∈ full then stripPaths full else stripPath full

/-- The short, readable form of a type name. -/
def short (full : String) : String :=
  String.ofList (shorten full.toList)

/-- Cutting a name loses nothing. -/
theorem ofPieces_pieces (name : List Char) : ofPieces (pieces name) = name := by
  induction name with
  | nil => rfl
  | cons c rest ih =>
    simp only [pieces]
    split
    · simpa [ofPieces] using ih
    · simpa [ofPieces] using ih

end ActionDispatch.TypeName
