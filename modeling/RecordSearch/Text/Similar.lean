/-!
# Similar texts

How much two texts have in common, and which of some names a misspelt word may have meant. What two
texts have in common is the longest stretch that stands in both, and then whatever the parts before
it have in common, and the parts behind it. `suggestions` gives the names that come close.
-/

namespace RecordSearch.Text

/-- A stretch that stands in two texts: the index at which it starts in each, and its length. -/
structure Shared where
  left : Nat
  right : Nat
  length : Nat
  deriving DecidableEq, Repr

/-- The number of characters in which two texts agree from their starts on. -/
def agreement : List Char → List Char → Nat
  | c :: cs, d :: ds => if c = d then agreement cs ds + 1 else 0
  | _, _ => 0

/-- The longest of the stretch `best` and those that stand at the start of the first text and
somewhere in the second one, where `right` is the index of the second text's first character. Of
stretches of one length the earlier one counts. -/
def longestAtStart (left : Nat) (cs : List Char) (right : Nat) : List Char → Shared → Shared
  | [], best => best
  | d :: ds, best =>
    let n := agreement cs (d :: ds)
    longestAtStart left cs (right + 1) ds (if best.length < n then ⟨left, right, n⟩ else best)

/-- The longest of the stretch `best` and those that stand in both texts, where `left` is the index
of the first text's first character. -/
def longestFrom (left : Nat) : List Char → List Char → Shared → Shared
  | [], _, best => best
  | c :: cs, ds, best => longestFrom (left + 1) cs ds (longestAtStart left (c :: cs) 0 ds best)

/-- The first of the longest stretches that stand in both texts. -/
def longestShared (cs ds : List Char) : Shared := longestFrom 0 cs ds ⟨0, 0, 0⟩

/-- The number of characters that two texts have in common. -/
def inCommon (cs ds : List Char) : Nat :=
  match longestShared cs ds with
  | ⟨left, right, n⟩ =>
    if left < cs.length ∧ 0 < n then
      inCommon (cs.take left) (ds.take right) + n +
        inCommon (cs.drop (left + n)) (ds.drop (right + n))
    else 0
termination_by cs.length
decreasing_by all_goals (simp only [List.length_take, List.length_drop]; omega)

/-- How alike a name and a word are: the characters in common, and those of both together. -/
structure Likeness where
  name : String
  common : Nat
  total : Nat
  deriving DecidableEq, Repr

namespace Likeness

/-- How alike a name and a word are. -/
def of (word name : String) : Likeness :=
  ⟨name, inCommon name.toList word.toList, name.length + word.length⟩

/-- A name comes close if at least three in five characters are in common. -/
def isClose (l : Likeness) : Bool := decide (3 * l.total ≤ 10 * l.common)

/-- The order in which names come: the more alike first, and of two that are equally alike the later
one in the alphabet. -/
def before (l m : Likeness) : Bool :=
  let ours := l.common * m.total
  let theirs := m.common * l.total
  decide (theirs < ours) || (ours == theirs && decide (m.name ≤ l.name))

end Likeness

/-- The names that a misspelt word may have meant, in alphabetic order: the three closest ones at
most. -/
def suggestions (word : String) (names : List String) : List String :=
  let close := (names.map (Likeness.of word)).filter Likeness.isClose
  ((close.mergeSort Likeness.before).take 3 |>.map Likeness.name).mergeSort
    fun a b => decide (a ≤ b)

end RecordSearch.Text
