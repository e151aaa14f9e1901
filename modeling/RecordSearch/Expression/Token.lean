/-!
# Tokens of an expression

An expression is a sequence of names, numbers, texts between quotes, and fixed tokens: reserved
words, operators and brackets. The end of a line and a change of the indentation are tokens too.
-/

namespace RecordSearch.Expression

/-- A number, as far as it matters what number it is. -/
inductive Numeral where
  | whole (n : Nat)
  /-- A whole number with more decimal digits than are read. -/
  | long (digits : Nat)
  /-- A number with a point or an exponent. -/
  | real
  | imaginary
  deriving DecidableEq, Repr

/-- A text between quotes. -/
structure TextForm where
  /-- Backslashes are characters like any other. -/
  raw : Bool
  /-- The text is one of bytes. -/
  bytes : Bool
  /-- The text holds expressions in braces. -/
  template : Bool
  /-- What stands between the quotes. -/
  body : List Char
  deriving DecidableEq, Repr

/-- What a token is. -/
inductive TokenKind where
  /-- A reserved word, an operator or a bracket; also a character with no meaning. -/
  | fixed (text : String)
  | name (text : String)
  | number (n : Numeral)
  | text (form : TextForm)
  /-- The end of a line outside brackets. -/
  | line
  /-- A line is indented more than the one before. -/
  | indent
  /-- A line is indented less than the one before. -/
  | outdent
  /-- The end of the expression. -/
  | ending
  deriving DecidableEq, Repr

/-- A token. -/
structure Token where
  kind : TokenKind
  /-- The line on which it starts. -/
  line : Nat
  /-- How many brackets are open behind it. -/
  depth : Nat
  deriving DecidableEq, Repr

/-- The words that are no names. -/
def reservedWords : List String := [
  "False", "None", "True", "and", "as", "assert", "async", "await", "break", "class", "continue",
  "def", "del", "elif", "else", "except", "finally", "for", "from", "global", "if", "import", "in",
  "is", "lambda", "nonlocal", "not", "or", "pass", "raise", "return", "try", "while", "with",
  "yield"]

/-- The names that some places treat as words. -/
def softWords : List String := ["_", "case", "match"]

end RecordSearch.Expression
