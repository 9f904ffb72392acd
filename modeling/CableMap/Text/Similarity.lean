/-!
# Similarity of words

The Jaro–Winkler similarity of two words, in exact numbers. It is a fraction between 0 and 1 that
grows with the characters the words share in about the same place, less those that stand in
another order, and with the length of their common beginning.
-/
namespace CableMap.Text

/-- What was found while the characters of one word are looked for in another. -/
structure Matching where
  /-- The places of the other word that were found. -/
  taken : List Nat
  /-- How many characters were found. -/
  matched : Nat
  /-- How many of them stand before the one found last. -/
  reordered : Nat
  /-- The place found last. -/
  last : Nat

/-- Look for one character of a word, at its place, near that place in another word. -/
def Matching.look (other : List Char) (range : Nat) (matching : Matching) (sought : Char × Nat) :
    Matching :=
  let (c, place) := sought
  let near := other.zipIdx.find? fun (d, at') =>
    place - range ≤ at' && at' ≤ place + range && c = d && ! matching.taken.contains at'
  match near with
  | none => matching
  | some (_, found) =>
    { taken := found :: matching.taken
      matched := matching.matched + 1
      reordered := matching.reordered + if found < matching.last then 1 else 0
      last := found }

/-- A fraction of natural numbers, its denominator last. -/
abbrev Fraction := Nat × Nat

/-- The Jaro similarity: the mean of the shares of each word that were found and of the share of
those found that stand in order. -/
def jaro (left right : List Char) : Fraction :=
  let (m, n) := (left.length, right.length)
  if m = 0 ∧ n = 0 then (1, 1)
  else if m = 0 ∨ n = 0 then (0, 1)
  else if m = 1 ∧ n = 1 then (if left = right then 1 else 0, 1)
  else
    let found := left.zipIdx.foldl (Matching.look right (max m n / 2 - 1)) ⟨[], 0, 0, 0⟩
    let k := found.matched
    if k = 0 then (0, 1)
    else (k * k * n + k * k * m + (k - found.reordered) * m * n, 3 * m * n * k)

/-- The length of the common beginning of two words. -/
def commonStart : List Char → List Char → Nat
  | a :: left, b :: right => if a = b then commonStart left right + 1 else 0
  | _, _ => 0

/-- The Jaro–Winkler similarity: the Jaro similarity, and a tenth of what it lacks for every
character of the common beginning. -/
def similarity (left right : List Char) : Fraction :=
  let (num, den) := jaro left right
  (10 * num + commonStart left right * (den - num), 10 * den)

/-- The words are so similar that one may have been meant for the other: above four fifths. -/
def isLike (left right : List Char) : Bool :=
  let (num, den) := similarity left right
  4 * den < 5 * num

end CableMap.Text
