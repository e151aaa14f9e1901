import RecordSearch.Json.Basic

/-!
# Lexemes of JSON

A JSON text is cut into lexemes: the six marks, strings, and the scalars, each with its position.
The cutting looks at nothing but the characters to come, and it stops where no lexeme starts or a
string is broken; what is wrong there depends on what had to come, which is for the reader to say.

Blanks between lexemes are the space, the tab, the line feed and the carriage return.
-/

namespace RecordSearch.Json

/-- What may be wrong with a JSON text. -/
inductive Complaint where
  | byteOrderMark
  | value
  | name
  | colon
  | comma
  | extraData
  | openString
  | controlCharacter
  | escape
  | codeEscape
  deriving DecidableEq, Repr

/-- A complaint in words. -/
def Complaint.message : Complaint → String
  | .byteOrderMark => "Unexpected UTF-8 BOM (decode using utf-8-sig)"
  | .value => "Expecting value"
  | .name => "Expecting property name enclosed in double quotes"
  | .colon => "Expecting ':' delimiter"
  | .comma => "Expecting ',' delimiter"
  | .extraData => "Extra data"
  | .openString => "Unterminated string starting at"
  | .controlCharacter => "Invalid control character at"
  | .escape => "Invalid \\escape"
  | .codeEscape => "Invalid \\uXXXX escape"

/-- A complaint about the character at a position, counted from zero. -/
structure Failure where
  complaint : Complaint
  position : Nat
  deriving DecidableEq, Repr

/-- A piece of a JSON text. -/
inductive Lexeme where
  | openList
  | closeList
  | openObject
  | closeObject
  | comma
  | colon
  | text (s : String)
  | scalar (v : Json)

/-- The lexemes of a text with their positions, up to the end or the first one that is broken. -/
inductive Lexemes where
  /-- The end of the text. -/
  | done (position : Nat)
  /-- A character with which no lexeme starts. -/
  | stray (position : Nat)
  /-- A string that cannot be read, and why. -/
  | brokenText (position : Nat) (failure : Failure)
  | next (position : Nat) (lexeme : Lexeme) (rest : Lexemes)

/-! ### Strings -/

/-- The value of a hexadecimal digit. -/
def hexValue? (c : Char) : Option Nat :=
  let n := c.toNat
  if 48 ≤ n ∧ n ≤ 57 then some (n - 48)
  else if 97 ≤ n ∧ n ≤ 102 then some (n - 87)
  else if 65 ≤ n ∧ n ≤ 70 then some (n - 55)
  else none

/-- The code of an escape after its `u`: four hexadecimal digits, with more text behind them. -/
def codeUnit? : List Char → Option Nat
  | a :: b :: c :: d :: _ :: _ => do
    pure ((((← hexValue? a) * 16 + (← hexValue? b)) * 16 + (← hexValue? c)) * 16 + (← hexValue? d))
  | _ => none

/-- The character that a one-letter escape stands for. -/
def escaped? : Char → Option Char
  | '"' => some '"'
  | '\\' => some '\\'
  | '/' => some '/'
  | 'b' => some '\x08'
  | 'f' => some '\x0c'
  | 'n' => some '\n'
  | 'r' => some '\r'
  | 't' => some '\t'
  | _ => none

/-- What comes next in a string. -/
inductive Piece where
  /-- The closing quote. -/
  | close (rest : List Char)
  /-- A character, written with `length` characters. -/
  | char (c : Char) (length : Nat) (rest : List Char)
  /-- A fault, so many characters further on. -/
  | fault (complaint : Complaint) (ahead : Nat)
  /-- The text ends before the string. -/
  | ended

/-- The first half of a surrogate pair. -/
def isLeading (unit : Nat) : Bool := 0xd800 ≤ unit && unit ≤ 0xdbff

/-- The second half of a surrogate pair. -/
def isTrailing (unit : Nat) : Bool := 0xdc00 ≤ unit && unit ≤ 0xdfff

/-- The character of a code that is not half of a pair. A lone half has no character, and the
replacement character stands for it. -/
def unitChar (unit : Nat) : Char :=
  if isLeading unit || isTrailing unit then '\ufffd' else Char.ofNat unit

/-- The character of a surrogate pair. -/
def pairChar (leading trailing : Nat) : Char :=
  Char.ofNat (0x10000 + (leading - 0xd800) * 0x400 + (trailing - 0xdc00))

/-- What stands behind the escape for the second half of a pair, if a text starts with one. -/
def behindTrailing? : List Char → Option (List Char)
  | '\\' :: 'u' :: rest => if (codeUnit? rest).any isTrailing then some (rest.drop 4) else none
  | _ => none

theorem length_lt_of_behindTrailing? {text rest : List Char}
    (h : behindTrailing? text = some rest) : rest.length < text.length := by
  unfold behindTrailing? at h
  split at h
  · split at h
    · obtain rfl := Option.some.inj h
      simp only [List.length_drop, List.length_cons]
      omega
    · exact absurd h (by simp)
  · exact absurd h (by simp)

/-- Whether a text has an escape for half of a pair without the other half. -/
def hasLoneHalf : List Char → Bool
  | [] => false
  | '\\' :: 'u' :: rest =>
    match codeUnit? rest with
    | none => hasLoneHalf rest
    | some unit =>
      if isTrailing unit then true
      else if isLeading unit then
        match _h : behindTrailing? (rest.drop 4) with
        | none => true
        | some behind => hasLoneHalf behind
      else hasLoneHalf (rest.drop 4)
  | '\\' :: _ :: rest => hasLoneHalf rest
  | _ :: rest => hasLoneHalf rest
termination_by text => text.length
decreasing_by
  · simp only [List.length_cons]
    omega
  · have := length_lt_of_behindTrailing? _h
    simp only [List.length_drop, List.length_cons] at this ⊢
    omega
  all_goals
    simp only [List.length_drop, List.length_cons]
    omega

/-- A text without escapes has no halves of pairs. -/
theorem hasLoneHalf_eq_false {text : List Char} (h : '\\' ∉ text) : hasLoneHalf text = false := by
  fun_induction hasLoneHalf text with
  | case1 => rfl
  | case8 c rest _ _ ih => exact ih fun hmem => h (List.mem_cons_of_mem c hmem)
  | _ => exact absurd (List.mem_cons_self ..) h

/-- The piece of a string that starts with the code `unit`, with `rest` behind its digits. -/
def Piece.ofUnit (unit : Nat) (rest : List Char) : Piece :=
  if isLeading unit then
    match rest with
    | '\\' :: 'u' :: more =>
      match codeUnit? more with
      | none => .fault .codeEscape 7
      | some trailing =>
        -- two escapes of six characters each
        if isTrailing trailing then .char (pairChar unit trailing) 12 (more.drop 4)
        else .char (unitChar unit) 6 rest
    | _ => .char (unitChar unit) 6 rest
  else .char (unitChar unit) 6 rest

/-- The first piece of a string whose opening quote has been read. -/
def Piece.ofChars : List Char → Piece
  | [] => .ended
  | '"' :: rest => .close rest
  | ['\\'] => .ended
  | '\\' :: 'u' :: rest =>
    match codeUnit? rest with
    | none => .fault .codeEscape 1
    | some unit => .ofUnit unit (rest.drop 4)
  | '\\' :: c :: rest =>
    match escaped? c with
    | none => .fault .escape 0
    | some d => .char d 2 rest
  | c :: rest => if c.toNat < 0x20 then .fault .controlCharacter 0 else .char c 1 rest

theorem Piece.length_le_of_ofUnit {unit : Nat} {text : List Char} {c : Char} {n : Nat}
    {rest : List Char} (h : Piece.ofUnit unit text = .char c n rest) :
    rest.length ≤ text.length := by
  unfold Piece.ofUnit at h
  split at h
  · split at h
    · split at h
      · simp at h
      · split at h
        · simp only [Piece.char.injEq] at h
          rw [← h.2.2]
          simp only [List.length_drop, List.length_cons]
          omega
        · simp only [Piece.char.injEq] at h
          exact Nat.le_of_eq (by rw [h.2.2])
    · simp only [Piece.char.injEq] at h
      exact Nat.le_of_eq (by rw [h.2.2])
  · simp only [Piece.char.injEq] at h
    exact Nat.le_of_eq (by rw [h.2.2])

/-- Each character of a string takes at least one of the text. -/
theorem Piece.length_lt_of_ofChars {text : List Char} {c : Char} {n : Nat} {rest : List Char}
    (h : Piece.ofChars text = .char c n rest) : rest.length < text.length := by
  unfold Piece.ofChars at h
  split at h
  · simp at h
  · simp at h
  · simp at h
  · split at h
    · simp at h
    · have := Piece.length_le_of_ofUnit h
      simp only [List.length_drop] at this
      simp only [List.length_cons]; omega
  · split at h
    · simp at h
    · simp only [Piece.char.injEq] at h
      rw [← h.2.2]; simp only [List.length_cons]; omega
  · split at h
    · simp at h
    · simp only [Piece.char.injEq] at h
      rw [← h.2.2]; simp

/-- Reads a string up to its closing quote: its characters, and the position and the text behind
it. The opening quote stands at `start`, and the text to read at `position`. -/
def readText (start position : Nat) (text : List Char) :
    Except Failure (List Char × Nat × List Char) :=
  match h : Piece.ofChars text with
  | .close rest => .ok ([], position + 1, rest)
  | .ended => .error ⟨.openString, start⟩
  | .fault complaint ahead => .error ⟨complaint, position + ahead⟩
  | .char c n rest =>
    match readText start (position + n) rest with
    | .ok (chars, behind) => .ok (c :: chars, behind)
    | .error failure => .error failure
termination_by text.length
decreasing_by exact Piece.length_lt_of_ofChars h

theorem length_lt_of_readText {start position : Nat} {text chars rest : List Char} {n : Nat}
    (h : readText start position text = .ok (chars, n, rest)) : rest.length < text.length := by
  fun_induction readText start position text generalizing chars n rest with
  | case1 position text rest' hp =>
    simp only [Except.ok.injEq, Prod.mk.injEq] at h
    rw [← h.2.2]
    unfold Piece.ofChars at hp
    repeat' split at hp
    all_goals simp_all
    unfold Piece.ofUnit at hp
    repeat' split at hp
    all_goals simp_all
  | case2 => simp at h
  | case3 => simp at h
  | case4 position text c k rest' hp chars' behind hr ih =>
    simp only [Except.ok.injEq, Prod.mk.injEq] at h
    obtain ⟨_, rfl⟩ := h
    exact Nat.lt_trans (ih hr) (Piece.length_lt_of_ofChars hp)
  | case5 => simp at h

/-! ### Numbers -/

/-- The value of a row of decimal digits. -/
def digitsValue (digits : List Char) : Nat :=
  digits.foldl (fun n c => 10 * n + (c.toNat - 48)) 0

/-- The digits at the start of a text, and the rest. -/
def takeDigits (text : List Char) : List Char × List Char :=
  (text.takeWhile Char.isDigit, text.dropWhile Char.isDigit)

/-- An exponent: its sign, if it has one, and its digits. -/
structure ExponentText where
  sign : Option Char
  digits : List Char

/-- A number: its sign, the digits in front of the point and behind it, and the exponent. -/
structure NumberText where
  negative : Bool
  whole : List Char
  fraction : List Char
  exponent : Option ExponentText

/-- How many characters an exponent takes, with its letter. -/
def ExponentText.length (e : ExponentText) : Nat := 1 + e.sign.toList.length + e.digits.length

/-- How many characters a number takes. -/
def NumberText.length (t : NumberText) : Nat :=
  (if t.negative then 1 else 0) + t.whole.length +
    (if t.fraction.isEmpty then 0 else 1 + t.fraction.length) +
    (match t.exponent with
      | none => 0
      | some e => e.length)

/-- A minus at the start of a text. -/
def takeMinus : List Char → Bool × List Char
  | '-' :: rest => (true, rest)
  | rest => (false, rest)

/-- The digits in front of the point: a zero stands alone. -/
def takeWhole : List Char → List Char × List Char
  | '0' :: rest => (['0'], rest)
  | digits => takeDigits digits

/-- A point and digits at the start of a text, or nothing. -/
def takeFraction : List Char → List Char × List Char
  | '.' :: rest =>
    if (takeDigits rest).1.isEmpty then ([], '.' :: rest) else takeDigits rest
  | other => ([], other)

/-- The sign of an exponent, if it has one, and the text behind it. -/
def takeSign : List Char → Option Char × List Char
  | '-' :: rest => (some '-', rest)
  | '+' :: rest => (some '+', rest)
  | rest => (none, rest)

/-- An exponent at the start of a text: the letter, a sign and digits, or nothing. -/
def takeExponent : List Char → Option ExponentText × List Char
  | [] => (none, [])
  | c :: rest =>
    let (sign, unsigned) := takeSign rest
    let (digits, behind) := takeDigits unsigned
    if (c = 'e' ∨ c = 'E') ∧ digits ≠ [] then (some ⟨sign, digits⟩, behind)
    else (none, c :: rest)

/-- The number at the start of a text, and the text behind it. -/
def takeNumber? (text : List Char) : Option (NumberText × List Char) :=
  let (negative, unsigned) := takeMinus text
  let (whole, behindWhole) := takeWhole unsigned
  let (fraction, behindFraction) := takeFraction behindWhole
  let (exponent, behind) := takeExponent behindFraction
  if whole.isEmpty then none else some (⟨negative, whole, fraction, exponent⟩, behind)

/-- The value of a number: whole if it has neither fraction nor exponent. -/
def NumberText.value (t : NumberText) : Json :=
  match t.fraction, t.exponent with
  | [], none =>
    let n : Int := digitsValue t.whole
    .integer (if t.negative then -n else n)
  | fraction, exponent =>
    let power : Int :=
      match exponent with
      | none => 0
      | some e =>
        if e.sign = some '-' then -(digitsValue e.digits : Int) else digitsValue e.digits
    .float (.ofDecimal t.negative (digitsValue (t.whole ++ fraction)) (power - fraction.length))

theorem length_takeDigits (text : List Char) :
    (takeDigits text).1.length + (takeDigits text).2.length = text.length := by
  rw [takeDigits, ← List.length_append, List.takeWhile_append_dropWhile]

theorem length_takeMinus_le (text : List Char) : (takeMinus text).2.length ≤ text.length := by
  unfold takeMinus; split <;> simp

theorem length_takeSign_le (text : List Char) : (takeSign text).2.length ≤ text.length := by
  unfold takeSign; split <;> simp

theorem length_takeWhole (text : List Char) :
    (takeWhole text).1.length + (takeWhole text).2.length = text.length := by
  unfold takeWhole
  split
  · simp only [List.length_cons, List.length_nil]; omega
  · exact length_takeDigits _

theorem length_takeFraction_le (text : List Char) :
    (takeFraction text).2.length ≤ text.length := by
  unfold takeFraction
  split
  · rename_i rest
    have := length_takeDigits rest
    split
    · simp
    · simp only [List.length_cons]; omega
  · simp

theorem length_takeExponent_le (text : List Char) :
    (takeExponent text).2.length ≤ text.length := by
  unfold takeExponent
  split
  · simp
  · rename_i c rest
    have h1 := length_takeSign_le rest
    have h2 := length_takeDigits (takeSign rest).2
    dsimp only
    split
    · simp only [List.length_cons]; omega
    · simp

theorem length_lt_of_takeNumber? {text rest : List Char} {t : NumberText}
    (h : takeNumber? text = some (t, rest)) : rest.length < text.length := by
  unfold takeNumber? at h
  dsimp only at h
  split at h
  · simp at h
  · rename_i hw
    simp only [Option.some.injEq, Prod.mk.injEq] at h
    have h1 := length_takeMinus_le text
    have h2 := length_takeWhole (takeMinus text).2
    have h3 := length_takeFraction_le (takeWhole (takeMinus text).2).2
    have h4 := length_takeExponent_le (takeFraction (takeWhole (takeMinus text).2).2).2
    have h5 : 0 < (takeWhole (takeMinus text).2).1.length := by
      rw [List.length_pos_iff]; simpa using hw
    rw [← h.2]; omega

/-! ### Cutting -/

/-- The word at the start of a text that stands for a value, its length, and the text behind it. -/
def takeWord? : List Char → Option (Json × Nat × List Char)
  | 'n' :: 'u' :: 'l' :: 'l' :: rest => some (.null, 4, rest)
  | 't' :: 'r' :: 'u' :: 'e' :: rest => some (.bool true, 4, rest)
  | 'f' :: 'a' :: 'l' :: 's' :: 'e' :: rest => some (.bool false, 5, rest)
  | 'N' :: 'a' :: 'N' :: rest => some (.float .nan, 3, rest)
  | 'I' :: 'n' :: 'f' :: 'i' :: 'n' :: 'i' :: 't' :: 'y' :: rest =>
    some (.float (.infinite false), 8, rest)
  | '-' :: 'I' :: 'n' :: 'f' :: 'i' :: 'n' :: 'i' :: 't' :: 'y' :: rest =>
    some (.float (.infinite true), 9, rest)
  | _ => none

/-- The scalar at the start of a text, its length, and the text behind it. -/
def takeScalar? (text : List Char) : Option (Json × Nat × List Char) :=
  (takeWord? text).or ((takeNumber? text).map fun found =>
    (found.1.value, found.1.length, found.2))

theorem length_lt_of_takeScalar? {text rest : List Char} {v : Json} {n : Nat}
    (h : takeScalar? text = some (v, n, rest)) : rest.length < text.length := by
  rw [takeScalar?, Option.or_eq_some_iff] at h
  rcases h with h | ⟨-, h⟩
  · unfold takeWord? at h
    split at h <;> simp_all <;> (obtain ⟨-, -, rfl⟩ := h; omega)
  · obtain ⟨⟨t, rest'⟩, ht, he⟩ := Option.map_eq_some_iff.1 h
    simp only [Prod.mk.injEq] at he
    exact he.2.2 ▸ length_lt_of_takeNumber? ht

/-- The mark that a character is. -/
def mark? : Char → Option Lexeme
  | '[' => some .openList
  | ']' => some .closeList
  | '{' => some .openObject
  | '}' => some .closeObject
  | ',' => some .comma
  | ':' => some .colon
  | _ => none

/-- The blanks between lexemes. -/
def isGap (c : Char) : Bool := c == ' ' || c == '\t' || c == '\n' || c == '\r'

/-- Cuts the text that stands at `position` into lexemes. -/
def Lexemes.ofChars (position : Nat) (text : List Char) : Lexemes :=
  match text with
  | [] => .done position
  | c :: rest =>
    if isGap c then Lexemes.ofChars (position + 1) rest
    else
      match mark? c with
      | some lexeme => .next position lexeme (Lexemes.ofChars (position + 1) rest)
      | none =>
        if c = '"' then
          match _h : readText position (position + 1) rest with
          | .error failure => .brokenText position failure
          | .ok (chars, behind, more) =>
            .next position (.text (String.ofList chars)) (Lexemes.ofChars behind more)
        else
          match _h : takeScalar? (c :: rest) with
          | none => .stray position
          | some (v, length, more) =>
            .next position (.scalar v) (Lexemes.ofChars (position + length) more)
termination_by text.length
decreasing_by
  · simp
  · simp
  · exact Nat.lt_succ_of_lt (length_lt_of_readText _h)
  · exact length_lt_of_takeScalar? _h

end RecordSearch.Json
