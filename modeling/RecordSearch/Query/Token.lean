import RecordSearch.Text.Blank

/-!
# Tokens

A query text is cut at every space, bracket and tilde that stands outside double quotes. Brackets
and tildes are tokens themselves; so is every stretch between the cuts, without the blanks at its
ends, if anything is left of it. A quote that is never closed makes the rest of the text one
stretch.
-/

namespace RecordSearch

/-- The characters that end a stretch outside quotes. -/
def isStructural (c : Char) : Bool := c == '(' || c == ')' || c == '~' || c == ' '

/-- A text cut at its structural characters: the stretch in front of the first one, and each of them
with the stretch behind it. -/
structure Cut where
  first : List Char
  later : List (Char × List Char)
  deriving DecidableEq, Repr

/-- A character put in front of a cut text. -/
def Cut.cons (c : Char) (cut : Cut) : Cut := ⟨c :: cut.first, cut.later⟩

/-- Cuts a text; `inQuotes` says whether it starts between quotes. -/
def Cut.ofChars (inQuotes : Bool) : List Char → Cut
  | [] => ⟨[], []⟩
  | c :: rest =>
    if !inQuotes && isStructural c then
      let behind := Cut.ofChars false rest
      ⟨[], (c, behind.first) :: behind.later⟩
    else (Cut.ofChars (inQuotes != (c == '"')) rest).cons c

/-- The token of a stretch, if it is not blank. -/
def stretchToken (stretch : List Char) : List String :=
  match Text.strip stretch with
  | [] => []
  | kept => [String.ofList kept]

/-- The token of a structural character, unless it is a space. -/
def structuralToken (c : Char) : List String := if c == ' ' then [] else [String.singleton c]

/-- The tokens of a cut text. -/
def Cut.tokens (cut : Cut) : List String :=
  stretchToken cut.first ++
    cut.later.flatMap fun p => structuralToken p.1 ++ stretchToken p.2

/-- The tokens of a query text. -/
def tokenize (query : String) : List String := (Cut.ofChars false query.toList).tokens

end RecordSearch
