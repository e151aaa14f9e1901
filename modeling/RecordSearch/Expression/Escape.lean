import RecordSearch.Expression.Fault
import RecordSearch.Expression.Numeral

/-!
# Escapes in texts

A backslash in a text starts an escape, which stands for one character. A few letters want digits or
a name behind them: `escapeFault?` finds the first escape that lacks them, and `byteEscapeFault?`
does so in a text of bytes.
-/

namespace RecordSearch.Expression

/-- Whether a character is an ASCII one. -/
def isAscii (c : Char) : Bool := c.toNat < 128

/-- A text with escapes in place of the characters that are not ASCII, and of a backslash in front
of one. Places in a text are counted in this form. -/
def withAsciiOnly : List Char → List Char
  | ['\\'] => "\\u005c".toList
  | '\\' :: c :: cs =>
    if isAscii c then '\\' :: c :: withAsciiOnly cs
    else "\\u005c\\U".toList ++ Text.hexDigits 8 c.toNat ++ withAsciiOnly cs
  | c :: cs =>
    if isAscii c then c :: withAsciiOnly cs
    else "\\U".toList ++ Text.hexDigits 8 c.toNat ++ withAsciiOnly cs
  | [] => []

/-- How many hexadecimal digits a letter wants behind it. -/
def digitsWanted? : Char → Option Nat
  | 'x' => some 2
  | 'u' => some 4
  | 'U' => some 8
  | _ => none

/-- The fault of an escape with digits, given its letter, what follows it, and the index of its
backslash. -/
def digitsFault? (letter : Char) (wanted position : Nat) (text : List Char) : Option TextFault :=
  let digits := (text.take wanted).takeWhile Numeral.isHexDigit
  let last := position + 1 + digits.length
  if digits.length < wanted then some (.escape (.truncated letter wanted) position last)
  else if Numeral.value 16 digits < 0x110000 then none
  else some (.escape .noCharacter position last)

/-- The fault of an escape with a name, given what follows its letter. -/
def nameFault (known : List Char → Bool) (position : Nat) : List Char → Option TextFault
  | '{' :: cs =>
    let name := cs.takeWhile (· != '}')
    let last := position + 2 + name.length
    if name.length = cs.length then some (.escape .malformedName position last)
    else if name = [] then some (.escape .malformedName position last)
    else if known name then none
    else some (.escape .unknownName position (last + 1))
  | _ => some (.escape .malformedName position (position + 1))

/-- The first escape at fault in a text of ASCII characters that starts at an index. -/
def escapeFaultFrom? (known : List Char → Bool) (position : Nat) : List Char → Option TextFault
  | '\\' :: c :: cs =>
    let fault :=
      match digitsWanted? c with
      | some wanted => digitsFault? c wanted position cs
      | none => if c = 'N' then nameFault known position cs else none
    match fault with
    | some fault => some fault
    | none => escapeFaultFrom? known (position + 2) cs
  | _ :: cs => escapeFaultFrom? known (position + 1) cs
  | [] => none

/-- The first escape at fault in a text. -/
def escapeFault? (known : List Char → Bool) (text : List Char) : Option TextFault :=
  escapeFaultFrom? known 0 (withAsciiOnly text)

/-- The first escape at fault in a text of bytes that starts at an index. -/
def byteEscapeFaultFrom? (position : Nat) : List Char → Option TextFault
  | '\\' :: c :: cs =>
    let digits := (cs.take 2).takeWhile Numeral.isHexDigit
    if c = 'x' ∧ digits.length < 2 then some (.byteEscape position)
    else byteEscapeFaultFrom? (position + 2) cs
  | _ :: cs => byteEscapeFaultFrom? (position + 1) cs
  | [] => none

/-- The first escape at fault in a text of bytes. -/
def byteEscapeFault? (text : List Char) : Option TextFault := byteEscapeFaultFrom? 0 text

end RecordSearch.Expression
