import RecordSearch.Expression.Fault
import RecordSearch.Expression.Token

/-!
# Numbers in an expression

A number starts with a digit, or with a point and a digit. It may have a base of 2, 8 or 16, a
fraction, an exponent, and a mark that makes it imaginary; single underscores may divide its digits.
A name may not follow at once, but for some words. `Numeral.read` reads the number that a text
starts with.
-/

namespace RecordSearch.Expression

/-- Whether a name may have the character, as far as a first look tells: letters, digits and the
underscore, and all that is not ASCII. -/
def mayBeInName (c : Char) : Bool := c.isAlphanum || c == '_' || 128 ≤ c.toNat

namespace Numeral

/-- What is left of a text behind digits, in which an underscore has to stand between two of them:
if it does not, what is left from where a digit is missing is the error. -/
def behindDigits (isDigit : Char → Bool) : List Char → Except (List Char) (List Char)
  | [] => .ok []
  | ['_'] => .error []
  | '_' :: c :: cs => if isDigit c then behindDigits isDigit cs else .error (c :: cs)
  | c :: cs => if isDigit c then behindDigits isDigit cs else .ok (c :: cs)

/-- What is left behind the digits that follow the mark of a base; there has to be one. -/
def behindBaseDigits (isDigit : Char → Bool) : List Char → Except (List Char) (List Char)
  | '_' :: cs => behindDigits isDigit ('_' :: cs)
  | c :: cs => if isDigit c then behindDigits isDigit cs else .error (c :: cs)
  | [] => .error []

/-- What is left behind the zeros that a number starts with. -/
def behindZeros : List Char → Except (List Char) (List Char)
  | [] => .ok []
  | ['_'] => .error []
  | '_' :: c :: cs => if c.isDigit then behindZeros (c :: cs) else .error (c :: cs)
  | c :: cs => if c = '0' then behindZeros cs else .ok (c :: cs)

/-- Whether a text starts with a word and does not go on like a name. -/
def startsWithWord (word : String) (text : List Char) : Bool :=
  word.toList.isPrefixOf text && !((text.drop word.length).head?.any mayBeInName)

/-- Whether a text starts with a word that may follow a number at once. -/
def startsWithOperator (text : List Char) : Bool :=
  ["and", "else", "for", "or", "not"].any (startsWithWord · text) ||
    ["if", "in", "is"].any fun word => word.toList.isPrefixOf text

/-- The number with what is left of the text, if that does not go on with an ASCII character of a
name. -/
def ending (kind : NumeralKind) (n : Numeral) (rest : List Char) :
    Except LexicalFault (Numeral × List Char) :=
  if startsWithOperator rest || !(rest.head?.any fun c => mayBeInName c && c.toNat < 128) then
    .ok (n, rest)
  else .error (.numeral kind)

/-- Whether a character is a digit to the base 16. -/
def isHexDigit (c : Char) : Bool := c.isDigit || ('a' ≤ c.toLower && c.toLower ≤ 'f')

/-- The value of a digit to a base up to 16. -/
def digitValue (c : Char) : Nat :=
  if c.isDigit then c.toNat - '0'.toNat else c.toLower.toNat - 'a'.toNat + 10

/-- The value of the digits in a text, whose underscores do not count. -/
def value (base : Nat) (text : List Char) : Nat :=
  (text.filter (· != '_')).foldl (fun n c => base * n + digitValue c) 0

/-- The part of a text in front of what is left of it. -/
def inFront (text rest : List Char) : List Char := text.take (text.length - rest.length)

/-- A whole decimal number. -/
def ofDecimal (text : List Char) : Numeral :=
  let digits := (text.filter (· != '_')).length
  if digits ≤ maxDigits then .whole (value 10 text) else .long digits

/-- The fault where a digit is missing: a decimal digit is named if there is one. -/
def digitFault (kind : NumeralKind) : List Char → LexicalFault
  | c :: _ => if c.isDigit then .digit c kind else .numeral kind
  | [] => .numeral kind

/-- Reads on behind the mark of a base. -/
def readBase (base : Nat) (kind : NumeralKind) (isDigit : Char → Bool) (text : List Char) :
    Except LexicalFault (Numeral × List Char) :=
  match behindBaseDigits isDigit text with
  | .error rest => .error (digitFault kind rest)
  | .ok rest =>
    if rest.head?.any Char.isDigit then .error (digitFault kind rest)
    else ending kind (.whole (value base (inFront text rest))) rest

/-- Reads on behind the digits in front of the mark of an imaginary number. -/
def readMark (n : Numeral) : List Char → Except LexicalFault (Numeral × List Char)
  | 'j' :: rest => ending .imaginary .imaginary rest
  | 'J' :: rest => ending .imaginary .imaginary rest
  | rest => ending .decimal n rest

/-- Reads on behind the mark of an exponent. A mark without digits may start a word. -/
def readExponent (n : Numeral) (mark : Char) (text : List Char) :
    Except LexicalFault (Numeral × List Char) :=
  let digits (text : List Char) : Except LexicalFault (Numeral × List Char) :=
    match behindDigits Char.isDigit text with
    | .error _ => .error (.numeral .decimal)
    | .ok rest => readMark .real rest
  match text with
  | c :: cs =>
    if c = '+' ∨ c = '-' then
      if cs.head?.any Char.isDigit then digits cs else .error (.numeral .decimal)
    else if c.isDigit then digits (c :: cs)
    else ending .decimal n (mark :: c :: cs)
  | [] => ending .decimal n [mark]

/-- Reads on where an exponent may come. -/
def readTail (n : Numeral) : List Char → Except LexicalFault (Numeral × List Char)
  | 'e' :: rest => readExponent n 'e' rest
  | 'E' :: rest => readExponent n 'E' rest
  | rest => readMark n rest

/-- Reads on behind the point. -/
def readFraction (text : List Char) : Except LexicalFault (Numeral × List Char) :=
  if text.head?.any Char.isDigit then
    match behindDigits Char.isDigit text with
    | .error _ => .error (.numeral .decimal)
    | .ok rest => readTail .real rest
  else readTail .real text

/-- Reads on behind the digits of a whole number, or up to its point. -/
def readPoint (n : Numeral) : List Char → Except LexicalFault (Numeral × List Char)
  | '.' :: rest => readFraction rest
  | rest => readTail n rest

/-- Whether what follows the digits makes them more than a whole number. -/
def goesOn : List Char → Bool
  | c :: _ => ['.', 'e', 'E', 'j', 'J'].contains c
  | [] => false

/-- Reads a decimal number that starts with a zero. -/
def readZero (text : List Char) : Except LexicalFault (Numeral × List Char) :=
  match behindZeros text with
  | .error _ => .error (.numeral .decimal)
  | .ok rest =>
    if rest.head?.any Char.isDigit then
      match behindDigits Char.isDigit rest with
      | .error _ => .error (.numeral .decimal)
      | .ok rest => if goesOn rest then readPoint .real rest else .error .leadingZeros
    else readPoint (.whole 0) rest

/-- Reads the number that a text starts with, and gives what is left of the text. -/
def read (text : List Char) : Except LexicalFault (Numeral × List Char) :=
  match text with
  | '.' :: rest => readFraction rest
  | '0' :: c :: rest =>
    match c.toLower with
    | 'x' => readBase 16 .hexadecimal isHexDigit rest
    | 'o' => readBase 8 .octal (fun d => '0' ≤ d && d ≤ '7') rest
    | 'b' => readBase 2 .binary (fun d => d == '0' || d == '1') rest
    | _ => readZero text
  | '0' :: _ => readZero text
  | _ =>
    match behindDigits Char.isDigit text with
    | .error _ => .error (.numeral .decimal)
    | .ok rest => readPoint (ofDecimal (inFront text rest)) rest

end Numeral

end RecordSearch.Expression
