import RecordSearch.Text.Blank
import RecordSearch.Text.Word

/-!
# Conditions

A condition is the smallest part of a query: a term to look for, in one field or in any, by one of
two comparisons. `Condition.ofToken` reads it from a token such as `name:bob`, `name="Bob Jones"` or
`"a b"`, and never fails; `Condition.text` writes it.
-/

namespace RecordSearch

/-- How a condition compares its term with a value. -/
inductive Operator where
  /-- The value contains the term. -/
  | contains
  /-- The value is the term. -/
  | exact
  deriving DecidableEq, Repr

namespace Operator

/-- The sign between field and term. -/
def sign : Operator → Char
  | .contains => ':'
  | .exact => '='

/-- The operator that a sign stands for. -/
def ofSign? : Char → Option Operator
  | ':' => some .contains
  | '=' => some .exact
  | _ => none

/-- The operator's name in a described query. -/
def name : Operator → String
  | .contains => "CONTAINS"
  | .exact => "EXACT"

@[simp] theorem ofSign?_sign (op : Operator) : ofSign? op.sign = some op := by
  cases op <;> rfl

end Operator

/-- A term to look for, in the field `field` or, without one, in any. -/
structure Condition where
  field : Option String
  term : String
  operator : Operator := .contains
  deriving DecidableEq, Repr

namespace Condition

/-- The text without its double quotes, if it starts with one and ends with another. -/
def unquote : List Char → List Char
  | '"' :: rest => if rest.getLast? = some '"' then rest.dropLast else '"' :: rest
  | text => text

/-- The condition of a token: word characters, a sign and a non-empty term make a condition on a
field, and anything else is a term for any field. -/
def ofChars (token : List Char) : Condition :=
  let word := token.takeWhile Text.isWordChar
  match word, token.dropWhile Text.isWordChar with
  | _ :: _, sign :: c :: body =>
    match Operator.ofSign? sign with
    | some operator => ⟨some (String.ofList word), String.ofList (unquote (c :: body)), operator⟩
    | none => ⟨none, String.ofList (unquote token), .contains⟩
  | _, _ => ⟨none, String.ofList (unquote token), .contains⟩

/-- The condition that a token spells. -/
def ofToken (token : String) : Condition := ofChars token.toList

/-- The characters that would end a token, or give it another meaning, outside quotes. -/
def isSpecial (c : Char) : Bool :=
  Text.isBlank c || c == '(' || c == ')' || c == '~' || c == ':' || c == '=' || c == '"'

/-- Whether a term has to be written between quotes. -/
def needsQuotes (term : List Char) : Bool :=
  term.isEmpty || term.head? == some '-' || term.any isSpecial

/-- A term as it is written, with or without quotes. -/
def termChars (term : List Char) : List Char :=
  if needsQuotes term then '"' :: term ++ ['"'] else term

/-- A condition as it is written. -/
def chars (c : Condition) : List Char :=
  match c.field with
  | none => termChars c.term.toList
  | some field => field.toList ++ c.operator.sign :: termChars c.term.toList

/-- A condition as it is written. -/
def text (c : Condition) : String := String.ofList c.chars

end Condition

end RecordSearch
