/-!
# Similar texts

Two texts are compared by the characters they share: the longest run that stands in both, and then
in the same way what stands before it and what stands after it.  Texts are close if the characters
shared are at least three fifths of all.
-/

namespace SchemaDecl.Text

/-- The number of characters that two texts have in common at their heads. -/
def commonStart : List Char → List Char → Nat
  | left :: leftRest, right :: rightRest =>
      if left = right then commonStart leftRest rightRest + 1 else 0
  | _, _ => 0

/-- A run of characters that stands in two texts. -/
structure Shared where
  left : Nat
  right : Nat
  length : Nat

/-- The longer of two runs, the first if they have one length. -/
def Shared.longer (first second : Shared) : Shared :=
  if first.length < second.length then second else first

/-- The longest run at the head of the left text and anywhere in the right one, the rest of which is
given from a position on. -/
def longestAt (leftPlace : Nat) (left : List Char) (rightPlace : Nat) : List Char → Shared
  | [] => ⟨leftPlace, rightPlace, 0⟩
  | char :: rest =>
      Shared.longer ⟨leftPlace, rightPlace, commonStart left (char :: rest)⟩
        (longestAt leftPlace left (rightPlace + 1) rest)

/-- The longest run that stands in two texts, the first of several.  The rest of the left text is
given from a position on. -/
def longestFrom (right : List Char) (leftPlace : Nat) : List Char → Shared
  | [] => ⟨leftPlace, 0, 0⟩
  | char :: rest =>
      Shared.longer (longestAt leftPlace (char :: rest) 0 right)
        (longestFrom right (leftPlace + 1) rest)

/-- The number of characters that two texts share, at most `bound` runs deep. -/
def sharedWithin : Nat → List Char → List Char → Nat
  | 0, _, _ => 0
  | bound + 1, left, right =>
      let run := longestFrom right 0 left
      if run.length = 0 then 0
      else
        run.length + sharedWithin bound (left.take run.left) (right.take run.right) +
          sharedWithin bound (left.drop (run.left + run.length))
            (right.drop (run.right + run.length))

/-- The number of characters that two texts share. -/
def shared (left right : List Char) : Nat :=
  sharedWithin left.length left right

/-- How similar a candidate is to a word: the characters shared, out of those of both. -/
structure Similarity where
  name : String
  shared : Nat
  total : Nat

namespace Similarity

/-- The similarity of a candidate to a word. -/
def of (word name : String) : Similarity :=
  { name
    shared := 2 * Text.shared name.toList word.toList
    total := name.length + word.length }

/-- Whether a candidate is close to the word. -/
def isClose (similarity : Similarity) : Bool :=
  3 * similarity.total ≤ 5 * similarity.shared

/-- Whether a candidate goes before another: it is more similar, or as similar with a later name. -/
def precedes (left right : Similarity) : Bool :=
  right.shared * left.total < left.shared * right.total ||
    (right.shared * left.total == left.shared * right.total && right.name ≤ left.name)

end Similarity

/-- The most similar candidates among those close to a word, at most three, by name. -/
def closeTo (word : String) (candidates : List String) : List String :=
  let close := ((candidates.map (Similarity.of word)).filter Similarity.isClose).mergeSort
    Similarity.precedes
  ((close.take 3).map Similarity.name).mergeSort (· ≤ ·)

end SchemaDecl.Text
