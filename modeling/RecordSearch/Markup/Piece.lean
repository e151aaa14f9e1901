/-!
# Tags in a text

A text with markup has tags in square brackets, such as `[bold]` and `[/bold]`. What stands in the
brackets starts with a small letter, a hash, a slash or an at sign and holds no opening bracket. A
backslash in front makes a tag a part of the text, and two of them stand for one.
-/

namespace RecordSearch

/-- A piece of a text with markup. -/
inductive Piece where
  /-- Text outside tags, in which a backslash before a bracket does not count. -/
  | plain (text : List Char)
  /-- Text to be shown as it is. -/
  | literal (text : List Char)
  /-- A tag that starts at an index of the text. -/
  | tag (name : List Char) (parameters : Option (List Char)) (position : Nat)
  deriving DecidableEq, Repr

namespace Piece

/-- Whether a tag may start with the character. -/
def startsTag (c : Char) : Bool := c.isLower || c == '#' || c == '/' || c == '@'

/-- What stands in the brackets of a tag, and the text behind it; the text starts behind the opening
bracket. -/
def body? : List Char → Option (List Char × List Char)
  | [] => none
  | c :: cs =>
    if startsTag c then
      match cs.dropWhile fun d => d != '[' && d != ']' with
      | ']' :: rest => some (c :: (cs.takeWhile fun d => d != '[' && d != ']'), rest)
      | _ => none
    else none

/-- The backslashes and the tag at the start of a text: how many backslashes there are, what stands
in the brackets, and the text behind. -/
def tagAtStart? (text : List Char) : Option (Nat × List Char × List Char) :=
  match text.dropWhile (· == '\\') with
  | '[' :: cs => (body? cs).map fun found => (text.length - (cs.length + 1), found)
  | _ => none

theorem length_le_of_body? {cs body rest : List Char} (h : body? cs = some (body, rest)) :
    rest.length ≤ cs.length := by
  cases cs with
  | nil => simp [body?] at h
  | cons c cs =>
    simp only [body?] at h
    split at h
    · split at h
      · next rest' heq =>
        have := (List.dropWhile_sublist (l := cs) fun d => d != '[' && d != ']').length_le
        simp only [Option.some.injEq, Prod.mk.injEq] at h
        simp only [heq, List.length_cons] at this
        simp only [← h.2, List.length_cons]
        omega
      · simp at h
    · simp at h

theorem length_lt_of_tagAtStart? {text body rest : List Char} {n : Nat}
    (h : tagAtStart? text = some (n, body, rest)) : rest.length < text.length := by
  simp only [tagAtStart?] at h
  split at h
  · next cs heq =>
    have shorter := (List.dropWhile_sublist (l := text) (· == '\\')).length_le
    obtain ⟨found, hfound, heq'⟩ := Option.map_eq_some_iff.mp h
    obtain ⟨-, rfl⟩ := Prod.mk.inj heq'
    have := length_le_of_body? hfound
    simp only [heq, List.length_cons] at shorter
    omega
  · simp at h

/-- A character put in front of the pieces. -/
def addFront (c : Char) : List Piece → List Piece
  | .plain text :: pieces => .plain (c :: text) :: pieces
  | pieces => .plain [c] :: pieces

/-- The tag of what stands in its brackets: the parameters follow an equals sign. -/
def ofBody (body : List Char) (position : Nat) : Piece :=
  match body.dropWhile (· != '=') with
  | [] => .tag body none position
  | _ :: parameters => .tag (body.takeWhile (· != '=')) (some parameters) position

/-- The pieces of a tag that has backslashes in front: one backslash for each two of them, and the
tag or, if there is a backslash left, its text. -/
def ofTag (backslashes : Nat) (body : List Char) (position : Nat) : List Piece :=
  let pairs := backslashes / 2
  (if pairs = 0 then [] else [.literal (List.replicate pairs '\\')]) ++
    if backslashes % 2 = 1 then [.literal ('[' :: body ++ [']'])]
    else [ofBody body (position + 2 * pairs)]

/-- The pieces of a text, whose first character has the index `position`. -/
def ofChars (position : Nat) (text : List Char) : List Piece :=
  match _h : tagAtStart? text with
  | some (n, body, rest) => ofTag n body position ++ ofChars (position + n + body.length + 2) rest
  | none =>
    match text with
    | [] => []
    | c :: cs => addFront c (ofChars (position + 1) cs)
termination_by text.length
decreasing_by
  · exact length_lt_of_tagAtStart? _h
  · simp

end Piece

end RecordSearch
