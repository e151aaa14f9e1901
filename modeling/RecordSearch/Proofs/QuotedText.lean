import Mathlib.Algebra.Group.Nat.Defs
import RecordSearch.Text.Quoted

/-!
# Reading quoted text back

Different texts are quoted differently (`quoteChars_injective`). An escaped character can be told
from whatever stands behind it: `readEscaped` takes exactly that character off the front again. So
the first characters of two quoted texts agree, and then what is left of them.

A quoted text holds no line feed, and begins and ends with a quote.
-/

namespace RecordSearch.Text

/-! ### Hexadecimal digits -/

/-- What a hexadecimal digit counts. -/
def hexValue (digit : Char) : Nat :=
  if digit.isDigit then digit.toNat - '0'.toNat else digit.toNat - 'a'.toNat + 10

/-- The number that hexadecimal digits write. -/
def ofHexDigits (digits : List Char) : Nat := digits.foldl (fun n d => 16 * n + hexValue d) 0

theorem hexDigit_spec (n : Nat) : hexValue (hexDigit n) = n % 16 ∧ hexDigit n ≠ '\n' := by
  have hall : ∀ k < 16, hexValue (hexDigit k) = k ∧ hexDigit k ≠ '\n' := by decide
  have hmod : hexDigit n = hexDigit (n % 16) := by
    unfold hexDigit
    rw [Nat.mod_mod]
  rw [hmod]
  exact hall _ (Nat.mod_lt n (by decide))

@[simp] theorem length_hexDigits (count n : Nat) : (hexDigits count n).length = count := by
  induction count generalizing n with
  | zero => rfl
  | succ count ih => rw [hexDigits, List.length_append, ih, List.length_singleton]

theorem ofHexDigits_hexDigits (count n : Nat) :
    ofHexDigits (hexDigits count n) = n % 16 ^ count := by
  induction count generalizing n with
  | zero => rw [Nat.pow_zero, Nat.mod_one]; rfl
  | succ count ih =>
    have hsplit : ofHexDigits (hexDigits count (n / 16) ++ [hexDigit n]) =
        16 * ofHexDigits (hexDigits count (n / 16)) + hexValue (hexDigit n) := by
      rw [ofHexDigits, List.foldl_append]
      rfl
    rw [hexDigits, hsplit, ih, (hexDigit_spec n).1, Nat.pow_succ', Nat.mod_mul, Nat.add_comm]

theorem newline_notMem_hexDigits (count n : Nat) : '\n' ∉ hexDigits count n := by
  induction count generalizing n with
  | zero => exact List.not_mem_nil
  | succ count ih =>
    rw [hexDigits, List.mem_append, List.mem_singleton]
    exact not_or.2 ⟨ih (n / 16), (hexDigit_spec n).2.symm⟩

/-! ### Escaped characters -/

/-- The character with the code point that the first `count` digits write, and what is left over. -/
def readCode (count : Nat) (text : List Char) : Char × List Char :=
  (Char.ofNat (ofHexDigits (text.take count)), text.drop count)

/-- The first character of escaped text, and what is left over. -/
def readEscaped : List Char → Option (Char × List Char)
  | [] => none
  | '\\' :: kind :: rest => some (
    match kind with
    | 'n' => ('\n', rest)
    | 'r' => ('\r', rest)
    | 't' => ('\t', rest)
    | 'x' => readCode 2 rest
    | 'u' => readCode 4 rest
    | 'U' => readCode 8 rest
    | c => (c, rest))
  | c :: rest => some (c, rest)

/-- A character that stands for a quote. -/
def IsQuote (c : Char) : Prop := c = '\'' ∨ c = '"'

instance (c : Char) : Decidable (IsQuote c) := inferInstanceAs (Decidable (_ ∨ _))

variable {quote c d : Char} {rest rest' : List Char}

theorem isQuote_quoteFor (text : List Char) : IsQuote (quoteFor text) := by
  unfold quoteFor
  split
  · exact .inr rfl
  · exact .inl rfl

theorem readCode_hexDigits (count : Nat) (h : c.toNat < 16 ^ count) (rest : List Char) :
    readCode count (hexDigits count c.toNat ++ rest) = (c, rest) := by
  rw [readCode, List.take_left' (length_hexDigits ..), List.drop_left' (length_hexDigits ..),
    ofHexDigits_hexDigits, Nat.mod_eq_of_lt h, Char.ofNat_toNat]

theorem readEscaped_codeEscape (c : Char) (rest : List Char) :
    readEscaped (codeEscape c ++ rest) = some (c, rest) := by
  have hbound : c.toNat < 16 ^ 8 := by
    have hvalid := c.valid
    simp only [UInt32.isValidChar, Nat.isValidChar] at hvalid
    simp only [Char.toNat]
    omega
  unfold codeEscape
  dsimp only
  split
  · exact congrArg some (readCode_hexDigits 2 ‹_› rest)
  · split
    · exact congrArg some (readCode_hexDigits 4 ‹_› rest)
    · exact congrArg some (readCode_hexDigits 8 hbound rest)

/-- An escaped character is read, whatever stands behind it. -/
theorem readEscaped_escapeChar (hquote : IsQuote quote) (c : Char) (rest : List Char) :
    readEscaped (escapeChar quote c ++ rest) = some (c, rest) := by
  unfold escapeChar
  split
  · rename_i hc
    have hkind : IsQuote c ∨ c = '\\' := hc.imp_left fun h => by rwa [h]
    obtain (rfl | rfl) | rfl := hkind <;> rfl
  · rename_i hc
    split
    · rename_i h
      exact h ▸ rfl
    · split
      · rename_i h
        exact h ▸ rfl
      · split
        · rename_i h
          exact h ▸ rfl
        · split
          · -- a character that stands for itself is no backslash
            exact readEscaped.eq_9 c rest fun _ _ h _ => hc (.inr h)
          · exact readEscaped_codeEscape c rest

theorem escapeChar_append_inj (hquote : IsQuote quote)
    (h : escapeChar quote c ++ rest = escapeChar quote d ++ rest') : c = d ∧ rest = rest' := by
  have hread := readEscaped_escapeChar hquote c rest
  rw [h, readEscaped_escapeChar hquote] at hread
  obtain ⟨hc, hrest⟩ := Prod.mk.inj (Option.some.inj hread)
  exact ⟨hc.symm, hrest.symm⟩

/-- No escaped character looks like the quote that ends the text. -/
theorem escapeChar_append_ne (hquote : IsQuote quote) (c : Char) (rest : List Char) :
    escapeChar quote c ++ rest ≠ [quote] := by
  intro h
  have hread := readEscaped_escapeChar hquote c rest
  have hquoted : readEscaped [quote] = some (quote, []) := by
    obtain rfl | rfl := hquote <;> rfl
  rw [h, hquoted] at hread
  obtain ⟨rfl, rfl⟩ := Prod.mk.inj (Option.some.inj hread)
  rw [escapeChar, if_pos (.inl rfl)] at h
  exact absurd (congrArg List.length h) (by simp)

/-- Quoted characters can be read back. -/
theorem flatMap_escapeChar_inj (hquote : IsQuote quote) {s t : List Char}
    (h : s.flatMap (escapeChar quote) ++ [quote] = t.flatMap (escapeChar quote) ++ [quote]) :
    s = t := by
  induction s generalizing t with
  | nil =>
    cases t with
    | nil => rfl
    | cons d t =>
      rw [List.flatMap_cons, List.append_assoc] at h
      exact absurd h.symm (escapeChar_append_ne hquote d _)
  | cons c s ih =>
    cases t with
    | nil =>
      rw [List.flatMap_cons, List.append_assoc] at h
      exact absurd h (escapeChar_append_ne hquote c _)
    | cons d t =>
      rw [List.flatMap_cons, List.flatMap_cons, List.append_assoc, List.append_assoc] at h
      obtain ⟨rfl, hrest⟩ := escapeChar_append_inj hquote h
      rw [ih hrest]

/-! ### Quoted texts -/

/-- Different texts are quoted differently. -/
theorem quoteChars_injective : Function.Injective quoteChars := by
  intro s t h
  obtain ⟨hquote, hbody⟩ := List.cons.inj h
  rw [← hquote] at hbody
  exact flatMap_escapeChar_inj (isQuote_quoteFor s) hbody

theorem newline_notMem_escapeChar (hquote : IsQuote quote) (c : Char) :
    '\n' ∉ escapeChar quote c := by
  have hcode : '\n' ∉ codeEscape c := by
    simp only [codeEscape]
    split
    · simp [newline_notMem_hexDigits]
    · split <;> simp [newline_notMem_hexDigits]
  unfold escapeChar
  split
  · rename_i hc
    have hkind : IsQuote c ∨ c = '\\' := hc.imp_left fun h => by rwa [h]
    obtain (rfl | rfl) | rfl := hkind <;> decide
  · split
    · decide
    · rename_i hne
      split
      · decide
      · split
        · decide
        · split
          · exact fun h => hne (List.mem_singleton.1 h).symm
          · exact hcode

theorem newline_notMem_quoteChars (text : List Char) : '\n' ∉ quoteChars text := by
  have hquote := isQuote_quoteFor text
  have hne : '\n' ≠ quoteFor text := by
    rintro h
    rw [← h] at hquote
    exact absurd hquote (by decide)
  simp only [quoteChars, List.cons_append, List.mem_cons, List.mem_append, List.mem_flatMap,
    List.not_mem_nil, or_false, not_or, not_exists, not_and]
  exact ⟨hne, fun c _ => newline_notMem_escapeChar hquote c, hne⟩

/-- A quoted text begins and ends with a quote. -/
theorem quoteChars_ends (text : List Char) : ∃ quote, IsQuote quote ∧
    (quoteChars text).head? = some quote ∧ (quoteChars text).getLast? = some quote :=
  ⟨quoteFor text, isQuote_quoteFor text, rfl, by rw [quoteChars]; exact List.getLast?_concat ..⟩

end RecordSearch.Text
