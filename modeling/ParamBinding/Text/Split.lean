/-!
# Cutting texts

A text is cut at every occurrence of a separator (`splitOn`), at the first occurrence of one
character (`cutAt`), or joined again (`joinWith`). Separators are found from left to right and do
not overlap.
-/

namespace ParamBinding.Text

/-- Put a character in front of the first piece. -/
def consFirst (c : Char) : List (List Char) → List (List Char)
  | [] => [[c]]
  | p :: ps => (c :: p) :: ps

/-- The pieces of a text between the occurrences of `sep`, the first `skip` characters being the
rest of an occurrence that was found before them. -/
def splitFrom (sep : List Char) : Nat → List Char → List (List Char)
  | _, [] => [[]]
  | k + 1, _ :: cs => splitFrom sep k cs
  | 0, c :: cs =>
    if sep.isPrefixOf (c :: cs) then [] :: splitFrom sep (sep.length - 1) cs
    else consFirst c (splitFrom sep 0 cs)

/-- The pieces of a text between the occurrences of `sep`. There is always at least one. -/
def splitOn (sep s : List Char) : List (List Char) :=
  splitFrom sep 0 s

/-- `splitOn` on strings. -/
def split (sep s : String) : List String :=
  (splitOn sep.toList s.toList).map String.ofList

/-- What stands before the first `c`, and what stands behind it when there is one. -/
def cutAt (c : Char) : List Char → List Char × Option (List Char)
  | [] => ([], none)
  | x :: xs => if x = c then ([], some xs) else
    let (before, behind) := cutAt c xs
    (x :: before, behind)

/-- The two sides of the first `c` of a string; the right one is empty when there is none. -/
def cut (c : Char) (s : String) : String × String :=
  let (before, behind) := cutAt c s.toList
  (String.ofList before, String.ofList (behind.getD []))

/-- What follows a character, if it stands first. -/
def behind? (c : Char) : List Char → Option (List Char)
  | [] => none
  | x :: rest => if x = c then some rest else none

/-- Pieces with a separator between them. -/
def joinWith (sep : List Char) : List (List Char) → List Char
  | [] => []
  | [p] => p
  | p :: q :: ps => p ++ sep ++ joinWith sep (q :: ps)

/-- `joinWith` on strings. -/
def join (sep : String) (ps : List String) : String :=
  String.ofList (joinWith sep.toList (ps.map String.toList))

/-- A text with every occurrence of `old` replaced by `new`. -/
def replace (old new s : String) : String :=
  join new (split old s)

end ParamBinding.Text
