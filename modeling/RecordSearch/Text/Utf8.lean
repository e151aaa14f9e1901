import RecordSearch.Text.Quoted

/-!
# Bytes as text

Bytes are read as UTF-8. What follows a first byte is checked byte by byte: overlong forms,
surrogates and code points above the last one are refused at their second byte. `decode` gives the
text, or where and why it is none.
-/

namespace RecordSearch.Text

/-- Why bytes are no text. -/
inductive Utf8Fault where
  /-- No character starts with the byte. -/
  | start
  /-- A byte does not continue the character. -/
  | continuation
  /-- The bytes end inside a character. -/
  | ended
  deriving DecidableEq, Repr

/-- A fault: the first byte of the character in question and its position, and how many bytes of it
have been read. -/
structure Utf8Failure where
  fault : Utf8Fault
  byte : UInt8
  position : Nat
  count : Nat
  deriving DecidableEq, Repr

/-- A fault in words. -/
def Utf8Fault.message : Utf8Fault → String
  | .start => "invalid start byte"
  | .continuation => "invalid continuation byte"
  | .ended => "unexpected end of data"

/-- A failure in words: a single byte is named, several are only counted. -/
def Utf8Failure.message (f : Utf8Failure) : String :=
  let place :=
    if f.count = 1 then
      "byte 0x" ++ String.ofList (hexDigits 2 f.byte.toNat) ++ " in position " ++
        toString f.position
    else
      "bytes in position " ++ toString f.position ++ "-" ++ toString (f.position + f.count - 1)
  "'utf-8' codec can't decode " ++ place ++ ": " ++ f.fault.message

/-- Between two characters, or inside one. -/
inductive Utf8State where
  | between
  /-- A character that starts with `first`, of which `count` bytes are read: `needed + 1` more have
  to come, the next of them from `low` to `high`. -/
  | within (first : UInt8) (count needed : Nat) (low high : UInt8) (value : Nat)

/-- The state behind the first byte of a character: the character itself if it has one byte. -/
def firstByte? (b : UInt8) : Option (Sum Char Utf8State) :=
  let n := b.toNat
  if n < 0x80 then some (.inl (Char.ofNat n))
  -- up to 0xbf a byte only continues a character; 0xc0 and 0xc1 would start overlong forms
  else if n < 0xc2 then none
  else if n < 0xe0 then some (.inr (.within b 1 0 0x80 0xbf (n - 0xc0)))
  else if n < 0xf0 then
    some (.inr (.within b 1 1 (if n = 0xe0 then 0xa0 else 0x80)
      (if n = 0xed then 0x9f else 0xbf) (n - 0xe0)))
  else if n < 0xf5 then
    some (.inr (.within b 1 2 (if n = 0xf0 then 0x90 else 0x80)
      (if n = 0xf4 then 0x8f else 0xbf) (n - 0xf0)))
  else none

/-- The text of bytes of which the first has the position `position`. -/
def decodeFrom (position : Nat) : Utf8State → List UInt8 → Except Utf8Failure (List Char)
  | .between, [] => .ok []
  | .within first count _ _ _ _, [] => .error ⟨.ended, first, position - count, count⟩
  | .between, b :: rest =>
    match firstByte? b with
    | none => .error ⟨.start, b, position, 1⟩
    | some (.inl c) => (decodeFrom (position + 1) .between rest).map (c :: ·)
    | some (.inr state) => decodeFrom (position + 1) state rest
  | .within first count needed low high value, b :: rest =>
    if low ≤ b ∧ b ≤ high then
      let value := value * 64 + (b.toNat - 0x80)
      match needed with
      | 0 => (decodeFrom (position + 1) .between rest).map (Char.ofNat value :: ·)
      | needed + 1 =>
        decodeFrom (position + 1) (.within first (count + 1) needed 0x80 0xbf value) rest
    else .error ⟨.continuation, first, position - count, count⟩

/-- The text that bytes spell. -/
def decode (bytes : List UInt8) : Except Utf8Failure (List Char) := decodeFrom 0 .between bytes

end RecordSearch.Text
