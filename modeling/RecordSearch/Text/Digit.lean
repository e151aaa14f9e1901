import RecordSearch.Text.Blank

/-!
# Decimal digits and whole numbers as people type them

A whole number may be typed with the decimal digits of any script, a sign, single underscores
between digits, and blanks around it.
-/

namespace RecordSearch.Text

/-- The code points of the zeros: each starts a row of ten decimal digits. -/
def zeros : List Nat := [
  0x30, 0x660, 0x6f0, 0x7c0, 0x966, 0x9e6, 0xa66, 0xae6, 0xb66, 0xbe6, 0xc66, 0xce6, 0xd66,
  0xde6, 0xe50, 0xed0, 0xf20, 0x1040, 0x1090, 0x17e0, 0x1810, 0x1946, 0x19d0, 0x1a80, 0x1a90,
  0x1b50, 0x1bb0, 0x1c40, 0x1c50, 0xa620, 0xa8d0, 0xa900, 0xa9d0, 0xa9f0, 0xaa50, 0xabf0, 0xff10,
  0x104a0, 0x10d30, 0x11066, 0x110f0, 0x11136, 0x111d0, 0x112f0, 0x11450, 0x114d0, 0x11650,
  0x116c0, 0x11730, 0x118e0, 0x11950, 0x11c50, 0x11d50, 0x11da0, 0x16a60, 0x16ac0, 0x16b50,
  0x1d7ce, 0x1d7d8, 0x1d7e2, 0x1d7ec, 0x1d7f6, 0x1e140, 0x1e2f0, 0x1e950, 0x1fbf0]

/-- The value of a decimal digit. -/
def digitIn? : List Nat → Nat → Option Nat
  | [], _ => none
  | first :: rest, n =>
    if n < first then none else if n < first + 10 then some (n - first) else digitIn? rest n

/-- The value of a decimal digit of any script. -/
def digit? (c : Char) : Option Nat := digitIn? zeros c.toNat

/-- Reads on in a number after a digit: `value` is the number so far. An underscore has to stand
between two digits. -/
def readDigits (value : Nat) : List Char → Option Nat
  | [] => some value
  | '_' :: c :: rest => (digit? c).bind fun d => readDigits (10 * value + d) rest
  | c :: rest => (digit? c).bind fun d => readDigits (10 * value + d) rest

/-- A whole number without sign. -/
def natural? : List Char → Option Nat
  | [] => none
  | c :: rest => (digit? c).bind fun d => readDigits d rest

/-- A whole number with an optional sign. -/
def signed? : List Char → Option Int
  | '+' :: rest => (natural? rest).map Int.ofNat
  | '-' :: rest => (natural? rest).map fun n => -Int.ofNat n
  | rest => (natural? rest).map Int.ofNat

/-- The blanks allowed around a number: all but the four information separators. -/
def isNumberBlank (c : Char) : Bool := isBlank c && !(0x1c ≤ c.toNat && c.toNat ≤ 0x1f)

/-- The whole number that a text spells. -/
def integer? (s : String) : Option Int :=
  signed? ((s.toList.dropWhile isNumberBlank).reverse.dropWhile isNumberBlank).reverse

end RecordSearch.Text
