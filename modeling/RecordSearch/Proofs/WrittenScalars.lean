import Mathlib.Data.List.DropRight
import RecordSearch.Json.Printer
import RecordSearch.Proofs.JoinedLexemes

/-!
# Scalars as they are written

A number is written as a sign, digits, and perhaps a fraction and an exponent: `NumberText.chars`.
Cutting takes exactly that off the front of a text again, unless the text behind it goes on with the
number (`takeNumber?_chars`). Whole numbers are written so (`chars_integerText`), and so are finite
floating-point numbers, whatever the search for their shortest decimal finds (`exists_floatText`).

`Spells` says of a text which lexemes it is cut into, in front of every text that does not go on a
number. Every scalar is written as one lexeme, those that are written as words included.
-/

namespace RecordSearch.Json

/-! ### Cutting what is written -/

/-- A text that cannot go on a number in front of it. -/
def EndsNumber (behind : List Char) : Prop :=
  ∀ c ∈ behind.head?, c.isDigit = false ∧ goesOn c = false

/-- An exponent as it is written. -/
def ExponentText.chars (e : ExponentText) : List Char := 'e' :: (e.sign.toList ++ e.digits)

/-- The fraction of a number as it is written. -/
def fractionChars (digits : List Char) : List Char :=
  if digits.isEmpty then [] else '.' :: digits

/-- A number as it is written. -/
def NumberText.chars (t : NumberText) : List Char :=
  (if t.negative then ['-'] else []) ++ (t.whole ++ (fractionChars t.fraction ++
    (t.exponent.map ExponentText.chars).getD []))

/-- The parts of a number are rows of digits: the first has no zero in front of others, and an
exponent has digits. -/
structure NumberText.IsWritten (t : NumberText) : Prop where
  whole_ne_nil : t.whole ≠ []
  whole : ∀ c ∈ t.whole, c.isDigit = true
  zero : t.whole.head? = some '0' → t.whole = ['0']
  fraction : ∀ c ∈ t.fraction, c.isDigit = true
  exponent : ∀ e ∈ t.exponent, e.digits ≠ [] ∧ (∀ c ∈ e.digits, c.isDigit = true) ∧
    ∀ c ∈ e.sign, c = '+' ∨ c = '-'

variable {digits behind : List Char} {t : NumberText}

theorem endsNumber_nil : EndsNumber [] := nofun

theorem endsNumber_cons {c : Char} (hdigit : c.isDigit = false) (hgoes : goesOn c = false)
    (rest : List Char) : EndsNumber (c :: rest) := by
  intro d hd
  obtain rfl := Option.some.inj hd
  exact ⟨hdigit, hgoes⟩

theorem takeDigits_eq (hdigits : ∀ c ∈ digits, c.isDigit = true)
    (hbehind : ∀ c ∈ behind.head?, c.isDigit = false) :
    takeDigits (digits ++ behind) = (digits, behind) := by
  have hnone : behind.takeWhile Char.isDigit = [] ∧ behind.dropWhile Char.isDigit = behind := by
    cases behind with
    | nil => exact ⟨rfl, rfl⟩
    | cons c rest =>
      have hc := hbehind c rfl
      simp [hc]
  rw [takeDigits, List.takeWhile_append_of_pos hdigits, List.dropWhile_append_of_pos hdigits,
    hnone.1, hnone.2, List.append_nil]

theorem takeWhole_eq (hne : digits ≠ []) (hdigits : ∀ c ∈ digits, c.isDigit = true)
    (hzero : digits.head? = some '0' → digits = ['0'])
    (hbehind : ∀ c ∈ behind.head?, c.isDigit = false) :
    takeWhole (digits ++ behind) = (digits, behind) := by
  obtain ⟨c, digits, rfl⟩ := List.exists_cons_of_ne_nil hne
  by_cases hc : c = '0'
  · subst hc
    rw [hzero rfl]
    rfl
  · rw [List.cons_append, takeWhole.eq_2 _ fun _ hmore => hc (List.cons.inj hmore).1,
      ← List.cons_append, takeDigits_eq hdigits hbehind]

theorem takeFraction_eq (hdigits : ∀ c ∈ digits, c.isDigit = true)
    (hbehind : ∀ c ∈ behind.head?, c.isDigit = false ∧ c ≠ '.') :
    takeFraction (fractionChars digits ++ behind) = (digits, behind) := by
  cases digits with
  | nil =>
    cases behind with
    | nil => rfl
    | cons c rest =>
      exact takeFraction.eq_2 _ fun _ hmore => (hbehind c rfl).2 (List.cons.inj hmore).1
  | cons d digits =>
    have htake := takeDigits_eq hdigits fun c hc => (hbehind c hc).1
    have hpoint : fractionChars (d :: digits) ++ behind = '.' :: (d :: digits ++ behind) := rfl
    rw [hpoint, takeFraction, if_neg (by rw [htake]; exact Bool.false_ne_true), htake]

theorem takeExponent_none (hbehind : ∀ c ∈ behind.head?, goesOn c = false) :
    takeExponent behind = (none, behind) := by
  cases behind with
  | nil => rfl
  | cons c rest =>
    have hc : ¬(c = 'e' ∨ c = 'E') := by
      have hgoes := hbehind c rfl
      simp only [goesOn, Bool.or_eq_false_iff, beq_eq_false_iff_ne] at hgoes
      rintro (rfl | rfl)
      · exact hgoes.1.2 rfl
      · exact hgoes.2 rfl
    simp only [takeExponent]
    rw [if_neg fun h => hc h.1]

theorem takeExponent_some {e : ExponentText} (hne : e.digits ≠ [])
    (hdigits : ∀ c ∈ e.digits, c.isDigit = true) (hsign : ∀ c ∈ e.sign, c = '+' ∨ c = '-')
    (hbehind : ∀ c ∈ behind.head?, c.isDigit = false) :
    takeExponent (e.chars ++ behind) = (some e, behind) := by
  obtain ⟨sign, digits⟩ := e
  have htake : takeDigits (digits ++ behind) = (digits, behind) := takeDigits_eq hdigits hbehind
  have hsigned : takeSign (sign.toList ++ (digits ++ behind)) = (sign, digits ++ behind) := by
    cases sign with
    | none =>
      obtain ⟨d, more, rfl⟩ := List.exists_cons_of_ne_nil hne
      have hd : d ≠ '-' ∧ d ≠ '+' := by
        have hdigit := hdigits d (List.mem_cons_self ..)
        constructor <;> rintro rfl <;> exact absurd hdigit (by decide)
      exact takeSign.eq_3 _ (fun _ h => hd.1 (List.cons.inj h).1)
        fun _ h => hd.2 (List.cons.inj h).1
    | some c =>
      rcases hsign c rfl with rfl | rfl <;> rfl
  simp only [ExponentText.chars, List.cons_append, List.append_assoc, takeExponent, hsigned, htake]
  exact if_pos ⟨.inl trivial, hne⟩

theorem takeExponent_eq {exponent : Option ExponentText}
    (h : ∀ e ∈ exponent, e.digits ≠ [] ∧ (∀ c ∈ e.digits, c.isDigit = true) ∧
      ∀ c ∈ e.sign, c = '+' ∨ c = '-') (hbehind : EndsNumber behind) :
    takeExponent ((exponent.map ExponentText.chars).getD [] ++ behind) = (exponent, behind) := by
  cases exponent with
  | none => exact takeExponent_none fun c hc => (hbehind c hc).2
  | some e =>
    obtain ⟨hne, hdigits, hsign⟩ := h e rfl
    exact takeExponent_some hne hdigits hsign fun c hc => (hbehind c hc).1

theorem takeMinus_eq (hne : digits ≠ []) (hdigits : ∀ c ∈ digits, c.isDigit = true)
    (negative : Bool) (behind : List Char) :
    takeMinus ((if negative then ['-'] else []) ++ (digits ++ behind)) =
      (negative, digits ++ behind) := by
  cases negative with
  | true => rfl
  | false =>
    obtain ⟨d, more, rfl⟩ := List.exists_cons_of_ne_nil hne
    have hd : d ≠ '-' := by
      rintro rfl
      exact absurd (hdigits '-' (List.mem_cons_self ..)) (by decide)
    exact takeMinus.eq_2 _ fun _ h => hd (List.cons.inj h).1

/-- Neither a digit nor a point stands behind a fraction. -/
theorem head?_exponent (exponent : Option ExponentText) (hbehind : EndsNumber behind) :
    ∀ c ∈ ((exponent.map ExponentText.chars).getD [] ++ behind).head?,
      c.isDigit = false ∧ c ≠ '.' := by
  intro c hc
  cases exponent with
  | none =>
    obtain ⟨hdigit, hgoes⟩ := hbehind c hc
    refine ⟨hdigit, ?_⟩
    rintro rfl
    exact absurd hgoes (by decide)
  | some e =>
    obtain rfl := Option.some.inj hc
    decide

/-- No digit stands behind the whole part. -/
theorem head?_fraction (digits : List Char) (hbehind : ∀ c ∈ behind.head?, c.isDigit = false) :
    ∀ c ∈ (fractionChars digits ++ behind).head?, c.isDigit = false := by
  intro c hc
  cases digits with
  | nil => exact hbehind c hc
  | cons d digits =>
    obtain rfl := Option.some.inj hc
    decide

/-- **A number is cut off as it was written.** -/
theorem takeNumber?_chars (ht : t.IsWritten) (hbehind : EndsNumber behind) :
    takeNumber? (t.chars ++ behind) = some (t, behind) := by
  obtain ⟨negative, whole, fraction, exponent⟩ := t
  obtain ⟨hne, hwhole, hzero, hfraction, hexponent⟩ := ht
  -- each part is cut off if the text behind it does not go on with that part
  have hletter := head?_exponent exponent hbehind
  have hpoint := head?_fraction fraction fun c hc => (hletter c hc).1
  simp only [NumberText.chars, List.append_assoc, takeNumber?, takeMinus_eq hne hwhole,
    takeWhole_eq hne hwhole hzero hpoint, takeFraction_eq hfraction hletter,
    takeExponent_eq hexponent hbehind]
  rw [if_neg (by simpa using hne)]

/-- The characters of a written number. -/
def isNumberChar (c : Char) : Bool := c.isDigit || c == '-' || c == '+' || c == '.' || c == 'e'

theorem isNumberChar_of_mem_chars (ht : t.IsWritten) {c : Char} (hc : c ∈ t.chars) :
    isNumberChar c = true := by
  have hdigit : ∀ {d : Char}, d.isDigit = true → isNumberChar d = true := by
    intro d hd
    simp [isNumberChar, hd]
  simp only [NumberText.chars, List.mem_append] at hc
  rcases hc with hc | hc | hc | hc
  · split at hc
    · obtain rfl := List.mem_singleton.1 hc
      decide
    · exact absurd hc List.not_mem_nil
  · exact hdigit (ht.whole c hc)
  · unfold fractionChars at hc
    split at hc
    · exact absurd hc List.not_mem_nil
    · rcases List.mem_cons.1 hc with rfl | hc
      · decide
      · exact hdigit (ht.fraction c hc)
  · cases hexponent : t.exponent with
    | none =>
      rw [hexponent] at hc
      exact absurd hc List.not_mem_nil
    | some e =>
      obtain ⟨-, hdigits, hsign⟩ := ht.exponent e hexponent
      rw [hexponent] at hc
      simp only [Option.map_some, Option.getD_some, ExponentText.chars, List.mem_cons,
        List.mem_append] at hc
      rcases hc with rfl | hc | hc
      · decide
      · rcases hsign c (by simpa using hc) with rfl | rfl <;> decide
      · exact hdigit (hdigits c hc)

/-! ### Whole numbers -/

theorem isDigit_of_mem_toDigits {n : Nat} {c : Char} (hc : c ∈ Nat.toDigits 10 n) :
    c.isDigit = true :=
  Nat.isDigit_of_mem_toDigits (by decide) (by decide) hc

/-- Only zero is written with a zero in front. -/
theorem head?_toDigits {n : Nat} (hn : 0 < n) : (Nat.toDigits 10 n).head? ≠ some '0' := by
  induction n using Nat.strong_induction_on with
  | _ n ih =>
    by_cases hlt : n < 10
    · rw [Nat.toDigits_of_lt_base hlt]
      have hdigit : ∀ d < 10, 0 < d → Nat.digitChar d ≠ '0' := by decide
      simpa using hdigit n hlt hn
    · rw [Nat.toDigits_of_base_le (by decide) (by omega),
        List.head?_append_of_ne_nil _ Nat.toDigits_ne_nil]
      exact ih (n / 10) (by omega) (by omega)

theorem digitsValue_toDigits (n : Nat) : digitsValue (Nat.toDigits 10 n) = n :=
  Nat.ofDigitChars_toDigits (by decide) (by decide)

/-- How a whole number is written. -/
def integerText (n : Int) : NumberText := ⟨decide (n < 0), Nat.toDigits 10 n.natAbs, [], none⟩

theorem integerText_isWritten (n : Int) : (integerText n).IsWritten where
  whole_ne_nil := Nat.toDigits_ne_nil
  whole := fun _ hc => isDigit_of_mem_toDigits hc
  zero := by
    intro h
    rcases Nat.eq_zero_or_pos n.natAbs with hzero | hpos
    · rw [integerText, hzero]
      rfl
    · exact absurd h (head?_toDigits hpos)
  fraction := fun _ hc => absurd hc List.not_mem_nil
  exponent := nofun

theorem chars_integerText (n : Int) : (integerText n).chars = (toString n).toList := by
  cases n with
  | ofNat m =>
    show _ = m.repr.toList
    simp [integerText, NumberText.chars, fractionChars]
  | negSucc m =>
    show _ = ("-" ++ (m + 1).repr).toList
    simp [integerText, NumberText.chars, fractionChars]

theorem value_integerText (n : Int) : (integerText n).value = .integer n := by
  show Json.integer (if decide (n < 0) = true then -(digitsValue (Nat.toDigits 10 n.natAbs) : Int)
    else digitsValue (Nat.toDigits 10 n.natAbs)) = .integer n
  rw [digitsValue_toDigits]
  congr 1
  split
  · rename_i h
    have := of_decide_eq_true h
    omega
  · rename_i h
    have : ¬n < 0 := by simpa using h
    omega

/-! ### Decimals -/

theorem pow_le_of_pos {n : Nat} (hn : 0 < n) : Nat.pow 10 (Binary64.digitCount n - 1) ≤ n := by
  rcases Nat.eq_zero_or_pos (Binary64.digitCount n - 1) with hzero | hpos
  · rw [hzero]
    exact hn
  · by_contra hle
    have hlength : (Nat.toDigits 10 n).length ≤ Binary64.digitCount n - 1 :=
      (Nat.length_toDigits_le_iff (by decide) hpos).2 (Nat.lt_of_not_le hle)
    rw [Binary64.digitCount] at hlength hpos
    omega

/-- The point of a grid that is as fine as a number has digits is not zero. -/
theorem pos_of_onGrid? {i : Binary64.Interval} {step digits : Nat} (hstep : 0 < step)
    (hle : step ≤ i.value) (h : i.onGrid? step = some digits) : 0 < digits := by
  have hdown : 0 < i.value / step := Nat.div_pos hle hstep
  unfold Binary64.Interval.onGrid? at h
  dsimp only at h
  split at h
  · split at h <;> obtain rfl := Option.some.inj h <;> omega
  · obtain rfl := Option.some.inj h
    exact hdown
  · obtain rfl := Option.some.inj h
    omega
  · exact absurd h (by simp)

theorem pos_of_shortest {i : Binary64.Interval} (hi : 0 < i.value) : 0 < i.shortest.1 := by
  unfold Binary64.Interval.shortest
  dsimp only
  cases hfound : (List.range 17).findSome? fun k =>
      (i.onGrid? (Nat.pow 10 (Binary64.digitCount i.value - (k + 1)))).map fun digits =>
        (digits, ((Binary64.digitCount i.value - (k + 1) : Nat) : Int) - 1076) with
  | none => exact hi
  | some found =>
    obtain ⟨k, -, hk⟩ := List.exists_of_findSome?_eq_some hfound
    obtain ⟨digits, hdigits, rfl⟩ := Option.map_eq_some_iff.1 hk
    -- no step of the search is greater than the number
    refine pos_of_onGrid? (Nat.pow_pos (by decide)) ?_ hdigits
    exact Nat.le_trans (Nat.pow_le_pow_right (by decide) (by omega)) (pow_le_of_pos hi)

/-- A row of digits that starts with another one than zero. -/
structure IsLeading (digits : List Char) : Prop where
  ne_nil : digits ≠ []
  digit : ∀ c ∈ digits, c.isDigit = true
  head : digits.head? ≠ some '0'

theorem isLeading_toDigits {n : Nat} (hn : 0 < n) : IsLeading (Nat.toDigits 10 n) where
  ne_nil := Nat.toDigits_ne_nil
  digit := fun _ hc => isDigit_of_mem_toDigits hc
  head := head?_toDigits hn

theorem IsLeading.of_prefix {digits more : List Char} (h : IsLeading more) (hne : digits ≠ [])
    (hfront : digits <+: more) : IsLeading digits where
  ne_nil := hne
  digit := fun c hc => h.digit c (hfront.subset hc)
  head := by
    obtain ⟨rest, rfl⟩ := hfront
    have hhead : (digits ++ rest).head? = digits.head? := List.head?_append_of_ne_nil digits hne
    exact hhead ▸ h.head

theorem IsLeading.dropZeros {digits : List Char} (h : IsLeading digits) :
    IsLeading (Binary64.dropZeros digits) := by
  refine h.of_prefix (fun hnil => ?_) (List.rdropWhile_prefix _ _)
  obtain ⟨c, rest, rfl⟩ := List.exists_cons_of_ne_nil h.ne_nil
  have hzero := List.rdropWhile_eq_nil_iff.1 hnil c (List.mem_cons_self ..)
  exact h.head (by rw [beq_iff_eq.1 hzero]; rfl)

/-- How an exponent is written. -/
def exponentNumber (e : Int) : ExponentText where
  sign := some (if e < 0 then '-' else '+')
  digits := if (Nat.toDigits 10 e.natAbs).length < 2 then '0' :: Nat.toDigits 10 e.natAbs
    else Nat.toDigits 10 e.natAbs

theorem chars_exponentNumber (e : Int) :
    (exponentNumber e).chars = 'e' :: (Binary64.exponentText e).toList := by
  unfold exponentNumber Binary64.exponentText
  split <;> simp [ExponentText.chars]

theorem exponentNumber_isWritten (e : Int) : (exponentNumber e).digits ≠ [] ∧
    (∀ c ∈ (exponentNumber e).digits, c.isDigit = true) ∧
    ∀ c ∈ (exponentNumber e).sign, c = '+' ∨ c = '-' := by
  have hdigits : ∀ c ∈ Nat.toDigits 10 e.natAbs, c.isDigit = true :=
    fun _ hc => isDigit_of_mem_toDigits hc
  refine ⟨?_, ?_, ?_⟩
  · unfold exponentNumber
    dsimp only
    split
    · exact List.cons_ne_nil _ _
    · exact Nat.toDigits_ne_nil
  · unfold exponentNumber
    dsimp only
    split
    · exact List.forall_mem_cons.2 ⟨by decide, hdigits⟩
    · exact hdigits
  · intro c hc
    obtain rfl := Option.some.inj hc
    split
    · exact .inr rfl
    · exact .inl rfl

/-- How the decimal `0.digits * 10 ^ point` is written. -/
def decimalNumber (digits : List Char) (point : Int) : NumberText :=
  if -4 < point ∧ point ≤ 0 then
    ⟨false, ['0'], List.replicate (-point).toNat '0' ++ digits, none⟩
  else if 0 < point ∧ point ≤ 16 then
    if digits.length ≤ point.toNat then
      ⟨false, digits ++ List.replicate (point.toNat - digits.length) '0', ['0'], none⟩
    else ⟨false, digits.take point.toNat, digits.drop point.toNat, none⟩
  else ⟨false, digits.take 1, digits.drop 1, some (exponentNumber (point - 1))⟩

theorem chars_decimalNumber {digits : List Char} (hne : digits ≠ []) (point : Int) :
    (decimalNumber digits point).chars = (Binary64.decimalText digits point).toList := by
  unfold decimalNumber Binary64.decimalText
  split
  · simp [NumberText.chars, fractionChars, hne]
  · split
    · dsimp only
      split <;> simp [NumberText.chars, fractionChars, *]
    · dsimp only
      by_cases hfraction : digits.tail = [] <;>
        simp [NumberText.chars, fractionChars, chars_exponentNumber, hfraction]

/-- Digits with a point somewhere behind the first one. -/
theorem IsLeading.isWritten_cut {digits : List Char} (h : IsLeading digits) {n : Nat} (hn : 0 < n)
    {exponent : Option ExponentText} (hexponent : ∀ e ∈ exponent, e.digits ≠ [] ∧
      (∀ c ∈ e.digits, c.isDigit = true) ∧ ∀ c ∈ e.sign, c = '+' ∨ c = '-') :
    NumberText.IsWritten ⟨false, digits.take n, digits.drop n, exponent⟩ := by
  have htake : digits.take n ≠ [] := by
    rw [Ne, List.take_eq_nil_iff, not_or]
    exact ⟨Nat.ne_of_gt hn, h.ne_nil⟩
  have hleading := h.of_prefix htake (List.take_prefix _ _)
  exact {
    whole_ne_nil := htake
    whole := hleading.digit
    zero := fun hzero => absurd hzero hleading.head
    fraction := fun c hc => h.digit c (List.mem_of_mem_drop hc)
    exponent := hexponent }

theorem decimalNumber_isWritten {digits : List Char} (h : IsLeading digits) (point : Int) :
    (decimalNumber digits point).IsWritten := by
  have hzeros : ∀ n, ∀ c ∈ List.replicate n '0', c.isDigit = true := by
    intro n c hc
    rw [List.eq_of_mem_replicate hc]
    decide
  unfold decimalNumber
  split
  · exact {
      whole_ne_nil := List.cons_ne_nil _ _
      whole := List.forall_mem_singleton.2 (by decide)
      zero := fun _ => rfl
      fraction := fun c hc => (List.mem_append.1 hc).elim (hzeros _ c) (h.digit c)
      exponent := nofun }
  · split
    · split
      · exact {
          whole_ne_nil := List.append_ne_nil_of_left_ne_nil h.ne_nil _
          whole := fun c hc => (List.mem_append.1 hc).elim (h.digit c) (hzeros _ c)
          zero := fun hzero => absurd
            ((List.head?_append_of_ne_nil digits h.ne_nil).symm.trans hzero) h.head
          fraction := List.forall_mem_singleton.2 (by decide)
          exponent := nofun }
      · exact h.isWritten_cut (by omega) nofun
    · refine h.isWritten_cut (by decide) fun e he => ?_
      obtain rfl := Option.some.inj he
      exact exponentNumber_isWritten _

theorem pos_quarter : 0 < Binary64.quarter := by
  unfold Binary64.quarter
  generalize 1076 = n
  exact Nat.pow_pos (by decide)

theorem exists_magnitude (significand shift : Nat) : ∃ t : NumberText, t.IsWritten ∧
    t.negative = false ∧ t.chars = (Binary64.magnitudeText significand shift).toList := by
  unfold Binary64.magnitudeText
  split
  · refine ⟨⟨false, ['0'], ['0'], none⟩, ⟨by simp, by simp, by simp, by simp, nofun⟩, rfl, ?_⟩
    decide
  · rename_i hne
    have hvalue : 0 < (Binary64.Interval.ofFinite significand shift).value := by
      have hpow : 0 < Nat.pow 2 shift := Nat.pow_pos (by decide)
      have hunits : 0 < significand * Nat.pow 2 shift * 4 :=
        Nat.mul_pos (Nat.mul_pos (Nat.pos_of_ne_zero hne) hpow) (by decide)
      exact Nat.mul_pos hunits pos_quarter
    have hpos := pos_of_shortest hvalue
    generalize (Binary64.Interval.ofFinite significand shift).shortest = found at hpos ⊢
    obtain ⟨digits, power⟩ := found
    have hleading := (isLeading_toDigits hpos).dropZeros
    refine ⟨_, decimalNumber_isWritten hleading _, ?_, chars_decimalNumber hleading.ne_nil _⟩
    unfold decimalNumber
    repeat' split
    all_goals rfl

/-- A finite number is written as numbers are. -/
theorem exists_floatText (negative : Bool) (significand shift : Nat) : ∃ t : NumberText,
    t.IsWritten ∧ t.chars = (floatText (.finite negative significand shift)).toList := by
  obtain ⟨t, ht, hsign, hchars⟩ := exists_magnitude significand shift
  refine ⟨{ t with negative }, ⟨ht.whole_ne_nil, ht.whole, ht.zero, ht.fraction, ht.exponent⟩, ?_⟩
  show _ = ((if negative then "-" else "") ++ Binary64.magnitudeText significand shift).toList
  rw [String.toList_append, ← hchars]
  unfold NumberText.chars
  rw [hsign]
  cases negative <;> rfl

/-! ### Scalars -/

/-- A text without control characters that is cut into lexemes, in front of every text that does not
go on a number. -/
structure Spells (text : List Char) (ls : List Lexeme) : Prop where
  visible : ∀ c ∈ text, 0x20 ≤ c.toNat
  cut : ∀ behind, EndsNumber behind → lexemes? (text ++ behind) = (lexemes? behind).map (ls ++ ·)

theorem Spells.of_takeScalar? {c : Char} {rest : List Char} {v : Json}
    (hvisible : ∀ d ∈ c :: rest, 0x20 ≤ d.toNat) (hgap : isGap c = false) (hmark : mark? c = none)
    (hquote : c ≠ '"') (hcut : ∀ behind, EndsNumber behind →
      ∃ n, takeScalar? (c :: rest ++ behind) = some (v, n, behind)) :
    Spells (c :: rest) [.scalar v] where
  visible := hvisible
  cut := by
    intro behind hbehind
    obtain ⟨n, hn⟩ := hcut behind hbehind
    rw [List.cons_append] at hn ⊢
    rw [lexemes?_cons hgap, firstLexeme?_scalar hgap hmark hquote hn, Option.bind_some]
    rfl

theorem spells_null : Spells (compact .null).toList [.scalar .null] := by
  show Spells ['n', 'u', 'l', 'l'] _
  exact .of_takeScalar? (by simp) rfl rfl (by decide) fun _ _ => ⟨4, rfl⟩

theorem spells_bool (b : Bool) :
    Spells (compact (.bool b)).toList [.scalar (.bool b)] := by
  cases b with
  | true =>
    show Spells ['t', 'r', 'u', 'e'] _
    exact .of_takeScalar? (by simp) rfl rfl (by decide) fun _ _ => ⟨4, rfl⟩
  | false =>
    show Spells ['f', 'a', 'l', 's', 'e'] _
    exact .of_takeScalar? (by simp) rfl rfl (by decide) fun _ _ => ⟨5, rfl⟩

/-- No lexeme but a scalar starts like a number. -/
theorem starts_of_isNumberChar {c : Char} (hc : isNumberChar c = true) :
    0x20 ≤ c.toNat ∧ isGap c = false ∧ mark? c = none ∧ c ≠ '"' := by
  refine ⟨?_, ?_, ?_, ?_⟩
  · simp only [isNumberChar, Char.isDigit, Bool.or_eq_true, Bool.and_eq_true, decide_eq_true_eq,
      beq_iff_eq] at hc
    rcases hc with (((⟨hlow, -⟩ | rfl) | rfl) | rfl) | rfl
    · have := UInt32.le_iff_toNat_le.1 hlow
      exact Nat.le_trans (by decide) this
    all_goals decide
  · by_contra hgap
    simp only [isGap, Bool.not_eq_false, Bool.or_eq_true, beq_iff_eq] at hgap
    rcases hgap with ((rfl | rfl) | rfl) | rfl <;> exact absurd hc (by decide)
  · unfold mark?
    split
    case h_7 => rfl
    all_goals exact absurd hc (by decide)
  · rintro rfl
    exact absurd hc (by decide)

theorem NumberText.IsWritten.spells (ht : t.IsWritten) : Spells t.chars [.scalar t.value] := by
  have hchars : ∀ c ∈ t.chars, isNumberChar c = true := fun _ => isNumberChar_of_mem_chars ht
  have hne : t.chars ≠ [] := by
    have hwhole := ht.whole_ne_nil
    simp [NumberText.chars, hwhole]
  have hcut : ∀ behind, EndsNumber behind →
      ∃ n, takeScalar? (t.chars ++ behind) = some (t.value, n, behind) := by
    intro behind hbehind
    have hnumber := takeNumber?_chars ht hbehind
    have hword := takeWord?_of_takeNumber? hnumber []
    rw [List.append_nil] at hword
    refine ⟨t.length, ?_⟩
    rw [takeScalar?, hword, hnumber]
    rfl
  obtain ⟨c, rest, hc⟩ := List.exists_cons_of_ne_nil hne
  rw [hc] at hchars hcut ⊢
  obtain ⟨-, hgap, hmark, hquote⟩ := starts_of_isNumberChar (hchars c (List.mem_cons_self ..))
  exact .of_takeScalar? (fun d hd => (starts_of_isNumberChar (hchars d hd)).1) hgap hmark hquote
    hcut

theorem spells_integer (n : Int) :
    Spells (compact (.integer n)).toList [.scalar (.integer n)] := by
  have h := (integerText_isWritten n).spells
  rw [chars_integerText, value_integerText] at h
  exact h

/-- A floating-point number is written as a scalar; which value that is, the digits say. -/
theorem exists_spells_float (x : Binary64) :
    ∃ v, Spells (compact (.float x)).toList [.scalar v] := by
  cases x with
  | nan =>
    refine ⟨.float .nan, ?_⟩
    show Spells ['N', 'a', 'N'] _
    exact .of_takeScalar? (by simp) rfl rfl (by decide) fun _ _ => ⟨3, rfl⟩
  | infinite negative =>
    refine ⟨.float (.infinite negative), ?_⟩
    cases negative with
    | true =>
      show Spells ['-', 'I', 'n', 'f', 'i', 'n', 'i', 't', 'y'] _
      exact .of_takeScalar? (by simp) rfl rfl (by decide) fun _ _ => ⟨9, rfl⟩
    | false =>
      show Spells ['I', 'n', 'f', 'i', 'n', 'i', 't', 'y'] _
      exact .of_takeScalar? (by simp) rfl rfl (by decide) fun _ _ => ⟨8, rfl⟩
  | finite negative significand shift =>
    obtain ⟨t, ht, hchars⟩ := exists_floatText negative significand shift
    exact ⟨t.value, hchars ▸ ht.spells⟩

end RecordSearch.Json
