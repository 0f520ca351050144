/-!
# Similar words

How much two words have in common: the longest piece that both contain, and the same again for what is
left of it and right of it in both. Words are similar if that is three fifths of their length.
-/

namespace SchemaGuard.Text

/-- How far two texts agree from their start. -/
def commonStart : List Char → List Char → Nat
  | a :: as, b :: bs => if a == b then commonStart as bs + 1 else 0
  | _, _ => 0

/-- A piece that two words have in common. -/
structure CommonPiece where
  first : Nat
  second : Nat
  size : Nat

/-- The longest piece that two words have in common; of several, the one that comes first in the first
word, then in the second. -/
def longestCommon (a b : List Char) : CommonPiece :=
  (List.range a.length).foldl
    (fun best i =>
      (List.range b.length).foldl
        (fun best j =>
          let size := commonStart (a.drop i) (b.drop j)
          if size > best.size then ⟨i, j, size⟩ else best)
        best)
    ⟨0, 0, 0⟩

/-- The number of characters in common pieces, at most `fuel` pieces deep. -/
def commonCount : Nat → List Char → List Char → Nat
  | 0, _, _ => 0
  | fuel + 1, a, b =>
    let piece := longestCommon a b
    if piece.size = 0 then
      0
    else
      commonCount fuel (a.take piece.first) (b.take piece.second) + piece.size +
        commonCount fuel (a.drop (piece.first + piece.size)) (b.drop (piece.second + piece.size))

/-- How similar two words are: what they have in common, and how long they are together. -/
structure Similarity where
  common : Nat
  total : Nat

def similarity (a b : String) : Similarity :=
  ⟨2 * commonCount a.length a.toList b.toList, a.length + b.length⟩

/-- Whether three fifths are in common. -/
def Similarity.isClose (s : Similarity) : Bool := 3 * s.total ≤ 5 * s.common

/-- Whether one pair of words is more similar than another. -/
def Similarity.isMore (s t : Similarity) : Bool := t.common * s.total < s.common * t.total

/-- Whether a candidate goes before another: the more similar one, then the greater one. -/
def isBetter (a b : String × Similarity) : Bool :=
  a.2.isMore b.2 || (!b.2.isMore a.2 && b.1 ≤ a.1)

/-- The at most three candidates that are most similar to a word, in alphabetical order. -/
def closeMatches (word : String) (candidates : List String) : List String :=
  let rated := candidates.map fun candidate => (candidate, similarity candidate word)
  let close := rated.filter fun candidate => candidate.2.isClose
  (((close.mergeSort isBetter).take 3).map (·.1)).mergeSort (· ≤ ·)

end SchemaGuard.Text
