import Mathlib.Data.List.Basic
import Mathlib.Data.List.TakeWhile
import RecordSearch.Json.Reader

/-!
# Lexemes of joined texts

What is cut off a JSON text does not depend on where the text stands, and hardly on what stands
behind it: a string ends at its quote and a mark at itself, but a number goes on as long as it can,
so that `1` and `2` are two lexemes and `12` is one.

`lexemes?` forgets the positions and asks for all the lexemes. `lexemes?_append` says that a joined
text has those of its parts, unless a scalar ends the first of them. The lemmas before it go from
the pieces of strings and the stages of numbers up to single lexemes.
-/

namespace RecordSearch.Json

/-! ### Strings in front of other texts -/

theorem exists_of_codeUnit? {text : List Char} {unit : Nat} (h : codeUnit? text = some unit) :
    ∃ a b c d e rest, text = a :: b :: c :: d :: e :: rest := by
  unfold codeUnit? at h
  split at h
  · exact ⟨_, _, _, _, _, _, rfl⟩
  · exact absurd h (by simp)

theorem codeUnit?_append {text : List Char} {unit : Nat} (h : codeUnit? text = some unit)
    (behind : List Char) :
    codeUnit? (text ++ behind) = some unit ∧ (text ++ behind).drop 4 = text.drop 4 ++ behind := by
  obtain ⟨a, b, c, d, e, rest, rfl⟩ := exists_of_codeUnit? h
  exact ⟨h, rfl⟩

variable {text rest : List Char} {c : Char} {n : Nat}

/-- Two escapes that are one character together could only be torn apart at the end of a text, where
a string has not ended. -/
theorem Piece.ofUnit_append {unit : Nat} (h : Piece.ofUnit unit text = .char c n rest)
    (hrest : Piece.ofChars rest ≠ .ended) (behind : List Char) :
    Piece.ofUnit unit (text ++ behind) = .char c n (rest ++ behind) := by
  unfold Piece.ofUnit at h ⊢
  by_cases hleading : isLeading unit = true
  · rw [if_pos hleading] at h ⊢
    split at h
    · rename_i more
      cases hunit : codeUnit? more with
      | none => rw [hunit] at h; exact absurd h (by simp)
      | some trailing =>
        obtain ⟨hunit', hdrop⟩ := codeUnit?_append hunit behind
        rw [hunit] at h
        simp only [List.cons_append, hunit', hdrop]
        by_cases htrailing : isTrailing trailing = true
        · simp only [if_pos htrailing, Piece.char.injEq] at h ⊢
          obtain ⟨rfl, rfl, rfl⟩ := h
          exact ⟨rfl, rfl, rfl⟩
        · simp only [if_neg htrailing, Piece.char.injEq] at h ⊢
          obtain ⟨rfl, rfl, rfl⟩ := h
          exact ⟨rfl, rfl, rfl⟩
    · rename_i hsingle
      obtain ⟨rfl, rfl, rfl⟩ := Piece.char.inj h
      split
      · rename_i more hpair
        match text with
        | [] => exact absurd rfl hrest
        | [d] =>
          obtain rfl : d = '\\' := (List.cons.inj hpair).1
          exact absurd rfl hrest
        | d :: e :: text =>
          simp only [List.cons_append, List.cons.injEq] at hpair
          obtain ⟨rfl, rfl, -⟩ := hpair
          exact (hsingle text rfl).elim
      · rfl
  · rw [if_neg hleading] at h ⊢
    obtain ⟨rfl, rfl, rfl⟩ := Piece.char.inj h
    rfl

theorem Piece.ofChars_append (h : Piece.ofChars text = .char c n rest)
    (hrest : Piece.ofChars rest ≠ .ended) (behind : List Char) :
    Piece.ofChars (text ++ behind) = .char c n (rest ++ behind) := by
  unfold Piece.ofChars at h
  split at h
  · exact absurd h (by simp)
  · exact absurd h (by simp)
  · exact absurd h (by simp)
  · rename_i text
    cases hunit : codeUnit? text with
    | none => rw [hunit] at h; exact absurd h (by simp)
    | some unit =>
      obtain ⟨hunit', hdrop⟩ := codeUnit?_append hunit behind
      rw [hunit] at h
      simp only [List.cons_append, Piece.ofChars, hunit', hdrop]
      exact Piece.ofUnit_append h hrest behind
  · rename_i d text hd
    rw [List.cons_append, List.cons_append, Piece.ofChars.eq_5 _ _ hd]
    cases hescaped : escaped? d with
    | none => rw [hescaped] at h; exact absurd h (by simp)
    | some e =>
      rw [hescaped] at h
      obtain ⟨rfl, rfl, rfl⟩ := Piece.char.inj h
      rfl
  · rename_i d text hquote hlast hunit hescape
    split at h
    · exact absurd h (by simp)
    · rename_i hcontrol
      obtain ⟨rfl, rfl, rfl⟩ := Piece.char.inj h
      have hbackslash : d ≠ '\\' := by
        rintro rfl
        cases text with
        | nil => exact hlast rfl rfl
        | cons e text => exact hescape e text rfl rfl
      rw [List.cons_append, Piece.ofChars.eq_6 _ _ hquote (fun hd => absurd hd hbackslash)
        (fun _ hd => absurd hd hbackslash) (fun _ _ hd => absurd hd hbackslash), if_neg hcontrol]

theorem Piece.ofUnit_ne_close (unit : Nat) (text rest : List Char) :
    Piece.ofUnit unit text ≠ .close rest := by
  unfold Piece.ofUnit
  split
  · split
    · split
      · simp
      · split <;> simp
    · simp
  · simp

/-- Only a quote closes a string. -/
theorem Piece.eq_of_ofChars_close (h : Piece.ofChars text = .close rest) : text = '"' :: rest := by
  unfold Piece.ofChars at h
  split at h
  · exact absurd h (by simp)
  · rw [Piece.close.inj h]
  · exact absurd h (by simp)
  · split at h
    · exact absurd h (by simp)
    · exact absurd h (Piece.ofUnit_ne_close _ _ _)
  · split at h
    · exact absurd h (by simp)
    · exact absurd h (by simp)
  · split at h
    · exact absurd h (by simp)
    · exact absurd h (by simp)

theorem readText_of_close (h : Piece.ofChars text = .close rest) (start position : Nat) :
    readText start position text = .ok ([], position + 1, rest) := by
  rw [readText]
  split <;> rename_i hpiece <;> rw [h] at hpiece <;> cases hpiece
  rfl

theorem readText_of_char (h : Piece.ofChars text = .char c n rest) (start position : Nat) :
    readText start position text =
      match readText start (position + n) rest with
      | .ok (chars, behind) => .ok (c :: chars, behind)
      | .error failure => .error failure := by
  rw [readText]
  split <;> rename_i hpiece <;> rw [h] at hpiece <;> cases hpiece
  rfl

theorem readText_of_ended (h : Piece.ofChars text = .ended) (start position : Nat) :
    readText start position text = .error ⟨.openString, start⟩ := by
  rw [readText]
  split <;> rename_i hpiece <;> rw [h] at hpiece <;> cases hpiece

/-- What is read of a string does not depend on where it stands and on what stands behind it. -/
theorem readText_append {start position : Nat} {chars : List Char}
    (h : readText start position text = .ok (chars, n, rest)) (start' position' : Nat)
    (behind : List Char) :
    ∃ n', readText start' position' (text ++ behind) = .ok (chars, n', rest ++ behind) := by
  fun_induction readText start position text generalizing chars n rest position' with
  | case1 position text more hclose =>
    obtain ⟨rfl, -, rfl⟩ : [] = chars ∧ position + 1 = n ∧ more = rest := by simpa using h
    have hquote := Piece.eq_of_ofChars_close hclose
    refine ⟨position' + 1, readText_of_close ?_ start' position'⟩
    rw [hquote]
    rfl
  | case2 => exact absurd h (by simp)
  | case3 => exact absurd h (by simp)
  | case4 position text c k more hchar chars' found hread ih =>
    obtain ⟨behind', more'⟩ := found
    obtain ⟨rfl, -, rfl⟩ : c :: chars' = chars ∧ behind' = n ∧ more' = rest := by simpa using h
    obtain ⟨n', hn'⟩ := ih hread (position' + k)
    have hnext : Piece.ofChars more ≠ .ended := by
      intro hended
      rw [readText_of_ended hended] at hread
      exact absurd hread (by simp)
    refine ⟨n', ?_⟩
    rw [readText_of_char (Piece.ofChars_append hchar hnext behind), hn']
  | case5 => exact absurd h (by simp)

/-! ### Scalars in front of other texts -/

/-- Digits end at whatever is left over. -/
theorem takeDigits_append (h : (takeDigits text).2 ≠ []) (behind : List Char) :
    takeDigits (text ++ behind) = ((takeDigits text).1, (takeDigits text).2 ++ behind) := by
  have hlength := length_takeDigits text
  have hpos := List.length_pos_of_ne_nil h
  simp only [takeDigits] at h hlength hpos ⊢
  rw [List.takeWhile_append, if_neg (by omega), List.dropWhile_append,
    if_neg (by simpa using h)]

theorem takeMinus_append (h : text ≠ []) (behind : List Char) :
    takeMinus (text ++ behind) = ((takeMinus text).1, (takeMinus text).2 ++ behind) := by
  obtain ⟨d, text, rfl⟩ := List.exists_cons_of_ne_nil h
  rw [List.cons_append]
  unfold takeMinus
  split <;> simp_all

theorem takeSign_append (h : text ≠ []) (behind : List Char) :
    takeSign (text ++ behind) = ((takeSign text).1, (takeSign text).2 ++ behind) := by
  obtain ⟨d, text, rfl⟩ := List.exists_cons_of_ne_nil h
  rw [List.cons_append]
  unfold takeSign
  split <;> simp_all

theorem takeWhole_append (h : (takeWhole text).2 ≠ []) (behind : List Char) :
    takeWhole (text ++ behind) = ((takeWhole text).1, (takeWhole text).2 ++ behind) := by
  cases text with
  | nil => exact absurd rfl h
  | cons d text =>
    by_cases hzero : d = '0'
    · rw [hzero]
      rfl
    · have hdigits : ∀ more : List Char, takeWhole (d :: more) = takeDigits (d :: more) :=
        fun more => takeWhole.eq_2 _ fun _ hmore => hzero (List.cons.inj hmore).1
      rw [hdigits] at h
      rw [List.cons_append, hdigits, hdigits, ← List.cons_append, takeDigits_append h]

/-- A fraction ends at whatever is left over, unless that is a point. -/
theorem takeFraction_append {d : Char} {more : List Char} (h : (takeFraction text).2 = d :: more)
    (hd : d ≠ '.') (behind : List Char) :
    takeFraction (text ++ behind) = ((takeFraction text).1, (takeFraction text).2 ++ behind) := by
  cases text with
  | nil => exact absurd h (by simp [takeFraction])
  | cons e text =>
    by_cases hpoint : e = '.'
    · rw [hpoint] at h ⊢
      have hpoints : ∀ s : List Char, takeFraction ('.' :: s) =
          if (takeDigits s).1.isEmpty then ([], '.' :: s) else takeDigits s := fun s => rfl
      rw [hpoints] at h
      by_cases hempty : (takeDigits text).1.isEmpty = true
      · rw [if_pos hempty] at h
        exact absurd (List.cons.inj h).1 hd.symm
      · rw [if_neg hempty] at h
        have hne : (takeDigits text).2 ≠ [] := by
          rw [h]
          exact List.cons_ne_nil d more
        rw [List.cons_append, hpoints, hpoints, takeDigits_append hne, if_neg hempty, if_neg hempty]
    · have hother : ∀ s : List Char, takeFraction (e :: s) = ([], e :: s) :=
        fun s => takeFraction.eq_2 _ fun _ hs => hpoint (List.cons.inj hs).1
      rw [List.cons_append, hother, hother, List.cons_append]

/-- An exponent ends at whatever is left over, unless that is its letter. -/
theorem takeExponent_append {d : Char} {more : List Char} (h : (takeExponent text).2 = d :: more)
    (hd : d ≠ 'e' ∧ d ≠ 'E') (behind : List Char) :
    takeExponent (text ++ behind) = ((takeExponent text).1, (takeExponent text).2 ++ behind) := by
  cases text with
  | nil => exact absurd h (by simp [takeExponent])
  | cons e text =>
    simp only [List.cons_append, takeExponent] at h ⊢
    by_cases hexponent : (e = 'e' ∨ e = 'E') ∧ (takeDigits (takeSign text).2).1 ≠ []
    · rw [if_pos hexponent] at h
      have hdigits : (takeDigits (takeSign text).2).2 ≠ [] := by
        rw [h]
        exact List.cons_ne_nil d more
      have htext : text ≠ [] := by
        rintro rfl
        exact hexponent.2 rfl
      rw [takeSign_append htext, takeDigits_append hdigits, if_pos hexponent, if_pos hexponent]
    · rw [if_neg hexponent] at h ⊢
      obtain ⟨rfl, -⟩ := List.cons.inj h
      have hletter : ¬(e = 'e' ∨ e = 'E') := by simpa using hd
      rw [if_neg fun hno => hletter hno.1]
      rfl

/-- The characters that may go on a number: those of a fraction and of an exponent. -/
def goesOn (c : Char) : Bool := c == '.' || c == 'e' || c == 'E'

/-- A number ends at whatever is left over, unless that could go on it. -/
theorem takeNumber?_append {number : NumberText} {d : Char} {more : List Char}
    (h : takeNumber? text = some (number, d :: more)) (hd : goesOn d = false)
    (behind : List Char) : takeNumber? (text ++ behind) = some (number, d :: more ++ behind) := by
  obtain ⟨⟨hpoint, hsmall⟩, hcapital⟩ : (d ≠ '.' ∧ d ≠ 'e') ∧ d ≠ 'E' := by simpa [goesOn] using hd
  simp only [takeNumber?] at h ⊢
  split at h
  · exact absurd h (by simp)
  · rename_i hwhole
    obtain ⟨hnumber, hmore⟩ := Prod.mk.inj (Option.some.inj h)
    -- none of the stages has reached the end of the text
    have hexponent := length_takeExponent_le (takeFraction (takeWhole (takeMinus text).2).2).2
    have hfraction := length_takeFraction_le (takeWhole (takeMinus text).2).2
    have hwholes := length_takeWhole (takeMinus text).2
    have hminus := length_takeMinus_le text
    rw [hmore, List.length_cons] at hexponent
    have htext : text ≠ [] := List.ne_nil_of_length_pos (by omega)
    have hbehind : (takeWhole (takeMinus text).2).2 ≠ [] := List.ne_nil_of_length_pos (by omega)
    have hleft : (takeFraction (takeWhole (takeMinus text).2).2).2 ≠ [] :=
      List.ne_nil_of_length_pos (by omega)
    obtain ⟨e, rest, hrest⟩ := List.exists_cons_of_ne_nil hleft
    have he : e ≠ '.' := by
      rintro rfl
      have hnone : takeExponent ('.' :: rest) = (none, '.' :: rest) := by simp [takeExponent]
      rw [hrest, hnone] at hmore
      exact hpoint (List.cons.inj hmore).1.symm
    rw [takeMinus_append htext, takeWhole_append hbehind, takeFraction_append hrest he,
      takeExponent_append hmore ⟨hsmall, hcapital⟩, if_neg hwhole, hmore, ← hnumber]

theorem takeWhole_ne_nil_iff {s : List Char} :
    (takeWhole s).1 ≠ [] ↔ ∃ d rest, s = d :: rest ∧ d.isDigit = true := by
  cases s with
  | nil => simp [takeWhole, takeDigits]
  | cons d rest =>
    by_cases hzero : d = '0'
    · subst hzero
      refine ⟨fun _ => ⟨'0', rest, rfl, by decide⟩, fun _ => List.cons_ne_nil _ _⟩
    · rw [takeWhole.eq_2 _ fun _ hrest => hzero (List.cons.inj hrest).1, takeDigits]
      by_cases hd : d.isDigit = true <;> simp [hd]

/-- A word stands for the same value in front of every text, and for none that has brackets. -/
theorem takeWord?_spec {v : Json} (h : takeWord? text = some (v, n, rest)) :
    text = text.take n ++ rest ∧
      (∀ behind, takeWord? (text.take n ++ behind) = some (v, n, behind)) ∧
      ∀ members, v ≠ .object members := by
  unfold takeWord? at h
  split at h
  case h_7 => exact absurd h (by simp)
  all_goals
    obtain ⟨rfl, rfl, rfl⟩ := by simpa using h
    exact ⟨rfl, fun _ => rfl, by simp⟩

theorem takeWord?_append {v : Json} (h : takeWord? text = some (v, n, rest)) (behind : List Char) :
    takeWord? (text ++ behind) = some (v, n, rest ++ behind) := by
  obtain ⟨htext, hword, -⟩ := takeWord?_spec h
  rw [htext, List.append_assoc]
  exact hword (rest ++ behind)

/-- No word starts like a number. -/
theorem takeWord?_of_isDigit {d : Char} (hd : d.isDigit = true) (s : List Char) :
    takeWord? (d :: s) = none ∧ takeWord? ('-' :: d :: s) = none := by
  have hletters : d ≠ 'n' ∧ d ≠ 't' ∧ d ≠ 'f' ∧ d ≠ 'N' ∧ d ≠ 'I' ∧ d ≠ '-' := by
    refine ⟨?_, ?_, ?_, ?_, ?_, ?_⟩ <;> rintro rfl <;> exact absurd hd (by decide)
  constructor
  · unfold takeWord?
    split <;> simp_all
  · unfold takeWord?
    split <;> simp_all

theorem takeWord?_of_takeNumber? {number : NumberText}
    (h : takeNumber? text = some (number, rest)) (behind : List Char) :
    takeWord? (text ++ behind) = none := by
  simp only [takeNumber?] at h
  split at h
  · exact absurd h (by simp)
  · rename_i hwhole
    obtain ⟨d, s, hs, hd⟩ := takeWhole_ne_nil_iff.1 (by simpa using hwhole)
    unfold takeMinus at hs
    split at hs
    · obtain rfl := hs
      exact (takeWord?_of_isDigit hd _).2
    · obtain rfl := hs
      exact (takeWord?_of_isDigit hd _).1

/-- A scalar ends at whatever is left over, unless that could go on a number. -/
theorem takeScalar?_append {v : Json} {d : Char} {more : List Char}
    (h : takeScalar? text = some (v, n, d :: more)) (hd : goesOn d = false) (behind : List Char) :
    takeScalar? (text ++ behind) = some (v, n, d :: more ++ behind) := by
  rw [takeScalar?, Option.or_eq_some_iff] at h ⊢
  rcases h with h | ⟨hword, h⟩
  · exact .inl (takeWord?_append h behind)
  · right
    obtain ⟨⟨number, rest⟩, hnumber, hfound⟩ := Option.map_eq_some_iff.1 h
    obtain ⟨rfl, rfl, rfl⟩ : number.value = v ∧ number.length = n ∧ rest = d :: more := by
      simpa using hfound
    refine ⟨takeWord?_of_takeNumber? hnumber behind, ?_⟩
    rw [takeNumber?_append hnumber hd, Option.map_some]

/-! ### The lexemes of a text -/

/-- The first lexeme of a text, if it starts with one, and the text behind it. -/
def firstLexeme? : List Char → Option (Lexeme × List Char)
  | [] => none
  | c :: rest =>
    if isGap c then none
    else
      match mark? c with
      | some lexeme => some (lexeme, rest)
      | none =>
        if c = '"' then
          match readText 0 0 rest with
          | .error _ => none
          | .ok (chars, _, more) => some (.text (String.ofList chars), more)
        else (takeScalar? (c :: rest)).map fun found => (.scalar found.1, found.2.2)

/-- The lexemes of a cut text, if none is broken. -/
def Lexemes.all? : Lexemes → Option (List Lexeme)
  | .done _ => some []
  | .stray _ => none
  | .brokenText _ _ => none
  | .next _ lexeme rest => rest.all?.map (lexeme :: ·)

/-- The lexemes of a text, if none is broken. -/
def lexemes? (text : List Char) : Option (List Lexeme) := (Lexemes.ofChars 0 text).all?

theorem isGap_of_mark? {l : Lexeme} (hc : mark? c = some l) : isGap c = false := by
  unfold mark? at hc
  split at hc
  case h_7 => exact absurd hc (by simp)
  all_goals decide

theorem firstLexeme?_mark {l : Lexeme} (hmark : mark? c = some l) (text : List Char) :
    firstLexeme? (c :: text) = some (l, text) := by
  have hgap := isGap_of_mark? hmark
  simp only [firstLexeme?, hgap, hmark]
  rfl

theorem firstLexeme?_text {chars : List Char} (h : readText 0 0 text = .ok (chars, n, rest)) :
    firstLexeme? ('"' :: text) = some (.text (String.ofList chars), rest) := by
  show (match readText 0 0 text with
    | .error _ => none
    | .ok (chars, _, more) => some (Lexeme.text (String.ofList chars), more)) = _
  rw [h]

theorem firstLexeme?_scalar {v : Json} (hgap : isGap c = false) (hmark : mark? c = none)
    (hquote : c ≠ '"') (h : takeScalar? (c :: text) = some (v, n, rest)) :
    firstLexeme? (c :: text) = some (.scalar v, rest) := by
  simp only [firstLexeme?, hgap, hmark, if_neg hquote, h]
  rfl

/-- The first lexeme of a text is a mark, a string or a scalar, and which of them it is, its first
character says. -/
theorem firstLexeme?_cases {l : Lexeme} (h : firstLexeme? text = some (l, rest)) :
    ∃ c s, text = c :: s ∧ isGap c = false ∧
      ((mark? c = some l ∧ rest = s) ∨
        (c = '"' ∧ ∃ chars n, readText 0 0 s = .ok (chars, n, rest) ∧
          l = .text (String.ofList chars)) ∨
        (mark? c = none ∧ c ≠ '"' ∧ ∃ v n, takeScalar? (c :: s) = some (v, n, rest) ∧
          l = .scalar v)) := by
  cases text with
  | nil => exact absurd h (by simp [firstLexeme?])
  | cons c s =>
    rw [firstLexeme?] at h
    by_cases hgap : isGap c = true
    · rw [if_pos hgap] at h
      exact absurd h (by simp)
    · rw [if_neg hgap] at h
      refine ⟨c, s, rfl, by simpa using hgap, ?_⟩
      cases hmark : mark? c with
      | some l' =>
        rw [hmark] at h
        obtain ⟨rfl, rfl⟩ := Prod.mk.inj (Option.some.inj h)
        exact .inl ⟨rfl, rfl⟩
      | none =>
        rw [hmark] at h
        simp only at h
        by_cases hquote : c = '"'
        · rw [if_pos hquote] at h
          cases hread : readText 0 0 s with
          | error failure => rw [hread] at h; exact absurd h (by simp)
          | ok found =>
            rw [hread] at h
            obtain ⟨rfl, rfl⟩ := Prod.mk.inj (Option.some.inj h)
            exact .inr (.inl ⟨hquote, _, _, rfl, rfl⟩)
        · rw [if_neg hquote] at h
          obtain ⟨⟨v, k, more⟩, hfound, hl⟩ := Option.map_eq_some_iff.1 h
          obtain ⟨rfl, rfl⟩ := Prod.mk.inj hl
          exact .inr (.inr ⟨rfl, hquote, v, k, hfound, rfl⟩)

theorem length_lt_of_firstLexeme? {l : Lexeme} (h : firstLexeme? text = some (l, rest)) :
    rest.length < text.length := by
  obtain ⟨c, s, rfl, -, ⟨-, rfl⟩ | ⟨-, chars, n, hread, -⟩ | ⟨-, -, v, n, hfound, -⟩⟩ :=
    firstLexeme?_cases h
  · exact Nat.lt_succ_self _
  · exact Nat.lt_succ_of_lt (length_lt_of_readText hread)
  · exact length_lt_of_takeScalar? hfound

/-- Where a string stands does not matter to what is read of it. -/
theorem readText_eq_ok {start position : Nat} {chars : List Char}
    (h : readText start position text = .ok (chars, n, rest)) (start' position' : Nat) :
    ∃ n', readText start' position' text = .ok (chars, n', rest) := by
  obtain ⟨n', hn'⟩ := readText_append h start' position' []
  rw [List.append_nil, List.append_nil] at hn'
  exact ⟨n', hn'⟩

/-- Cutting a text is cutting its first lexeme off and then what stands behind it. -/
theorem all?_ofChars_cons (hc : isGap c = false) (position : Nat) (rest : List Char) :
    ∃ behind, (Lexemes.ofChars position (c :: rest)).all? =
      (firstLexeme? (c :: rest)).bind fun found =>
        (Lexemes.ofChars behind found.2).all?.map (found.1 :: ·) := by
  have hgap : ¬isGap c = true := by rw [hc]; exact Bool.false_ne_true
  rw [Lexemes.ofChars, if_neg hgap, firstLexeme?, if_neg hgap]
  cases mark? c with
  | some l => exact ⟨position + 1, rfl⟩
  | none =>
    by_cases hquote : c = '"'
    · simp only [if_pos hquote]
      split
      · rename_i failure hread
        refine ⟨0, ?_⟩
        cases hread' : readText 0 0 rest with
        | error failure' => rfl
        | ok found =>
          obtain ⟨n', hn'⟩ := readText_eq_ok hread' position (position + 1)
          rw [hread] at hn'
          exact absurd hn' (by simp)
      · rename_i chars behind more hread
        obtain ⟨n', hn'⟩ := readText_eq_ok hread 0 0
        refine ⟨behind, ?_⟩
        rw [hn']
        rfl
    · simp only [if_neg hquote]
      split
      · rename_i hscalar
        refine ⟨0, ?_⟩
        rw [hscalar]
        rfl
      · rename_i v k more hscalar
        refine ⟨position + k, ?_⟩
        rw [hscalar]
        rfl

theorem all?_ofChars (position : Nat) (text : List Char) :
    (Lexemes.ofChars position text).all? = lexemes? text := by
  have hany : ∀ position', (Lexemes.ofChars position text).all? =
      (Lexemes.ofChars position' text).all? := by
    induction hlen : text.length using Nat.strong_induction_on generalizing text position with
    | _ k ih =>
      intro position'
      cases text with
      | nil => rw [Lexemes.ofChars, Lexemes.ofChars, Lexemes.all?, Lexemes.all?]
      | cons c text =>
        have hlt : text.length < k := hlen ▸ Nat.lt_succ_self _
        by_cases hc : isGap c = true
        · rw [Lexemes.ofChars, Lexemes.ofChars, if_pos hc, if_pos hc]
          exact ih _ hlt _ _ rfl _
        · rw [Bool.not_eq_true] at hc
          obtain ⟨behind, hbehind⟩ := all?_ofChars_cons hc position text
          obtain ⟨behind', hbehind'⟩ := all?_ofChars_cons hc position' text
          rw [hbehind, hbehind']
          cases hfirst : firstLexeme? (c :: text) with
          | none => rfl
          | some found =>
            have hshorter : found.2.length < k := hlen ▸ length_lt_of_firstLexeme? hfirst
            simp only [Option.bind_some]
            rw [ih _ hshorter _ _ rfl behind']
  exact hany 0

/-! ### Rules for lexemes -/

@[simp] theorem lexemes?_nil : lexemes? [] = some [] := by
  rw [lexemes?, Lexemes.ofChars, Lexemes.all?]

theorem lexemes?_gap (hc : isGap c = true) (text : List Char) :
    lexemes? (c :: text) = lexemes? text := by
  rw [lexemes?, Lexemes.ofChars, if_pos hc, all?_ofChars]

theorem lexemes?_cons (hc : isGap c = false) (text : List Char) :
    lexemes? (c :: text) =
      (firstLexeme? (c :: text)).bind fun found => (lexemes? found.2).map (found.1 :: ·) := by
  obtain ⟨behind, hbehind⟩ := all?_ofChars_cons hc 0 text
  rw [lexemes?, hbehind]
  simp only [all?_ofChars]

theorem lexemes?_mark {l : Lexeme} (hc : mark? c = some l) (text : List Char) :
    lexemes? (c :: text) = (lexemes? text).map (l :: ·) := by
  rw [lexemes?_cons (isGap_of_mark? hc), firstLexeme?_mark hc, Option.bind_some]

theorem lexemes?_text {chars : List Char} (h : readText 0 0 text = .ok (chars, n, rest)) :
    lexemes? ('"' :: text) = (lexemes? rest).map (.text (String.ofList chars) :: ·) := by
  rw [lexemes?_cons (by decide), firstLexeme?_text h, Option.bind_some]

theorem lexemes?_lexeme {l : Lexeme} {ls : List Lexeme} (hc : isGap c = false)
    (hfirst : firstLexeme? (c :: text) = some (l, rest)) (hls : lexemes? rest = some ls) :
    lexemes? (c :: text) = some (l :: ls) := by
  rw [lexemes?_cons hc, hfirst, Option.bind_some, hls, Option.map_some]

/-- A property of texts and their lexemes holds if it does at the end, and goes on over a gap and
over a lexeme. -/
theorem lexemes?_induction
    {motive : (text : List Char) → (ls : List Lexeme) → lexemes? text = some ls → Prop}
    (nil : motive [] [] lexemes?_nil)
    (gap : ∀ c text ls (hc : isGap c = true) (hls : lexemes? text = some ls), motive text ls hls →
      motive (c :: text) ls ((lexemes?_gap hc text).trans hls))
    (lexeme : ∀ c text l rest ls (hc : isGap c = false)
      (hfirst : firstLexeme? (c :: text) = some (l, rest)) (hls : lexemes? rest = some ls),
      motive rest ls hls → motive (c :: text) (l :: ls) (lexemes?_lexeme hc hfirst hls))
    (text : List Char) (ls : List Lexeme) (h : lexemes? text = some ls) : motive text ls h := by
  induction hlen : text.length using Nat.strong_induction_on generalizing text ls with
  | _ k ih =>
    cases text with
    | nil =>
      obtain rfl : [] = ls := Option.some.inj (lexemes?_nil.symm.trans h)
      exact nil
    | cons c text =>
      by_cases hc : isGap c = true
      · have hls := (lexemes?_gap hc text).symm.trans h
        exact gap c text ls hc hls (ih _ (hlen ▸ Nat.lt_succ_self _) text ls hls rfl)
      · rw [Bool.not_eq_true] at hc
        have hcons := h
        rw [lexemes?_cons hc, Option.bind_eq_some_iff] at hcons
        obtain ⟨⟨l, rest⟩, hfirst, hrest⟩ := hcons
        obtain ⟨ls, hls, rfl⟩ := Option.map_eq_some_iff.1 hrest
        exact lexeme c text l rest ls hc hfirst hls
          (ih _ (hlen ▸ length_lt_of_firstLexeme? hfirst) rest ls hls rfl)

/-! ### Joining -/

/-- No lexeme starts with what may go on a number. -/
theorem goesOn_of_lexemes? {ls : List Lexeme} (h : lexemes? (c :: text) = some ls) :
    goesOn c = false := by
  by_contra hgoes
  simp only [goesOn, Bool.not_eq_false, Bool.or_eq_true, beq_iff_eq] at hgoes
  have hnone : isGap c = false ∧ firstLexeme? (c :: text) = none := by
    rcases hgoes with (rfl | rfl) | rfl <;> exact ⟨rfl, rfl⟩
  rw [lexemes?_cons hnone.1, hnone.2] at h
  exact absurd h (by simp)

/-- A lexeme ends at whatever is left over, unless it is a scalar and at the end of the text. -/
theorem firstLexeme?_append {l : Lexeme} (h : firstLexeme? text = some (l, rest))
    (hscalar : ∀ v, l = .scalar v → ∃ d more, rest = d :: more ∧ goesOn d = false)
    (behind : List Char) : firstLexeme? (text ++ behind) = some (l, rest ++ behind) := by
  obtain ⟨c, s, rfl, hgap, ⟨hmark, rfl⟩ | ⟨rfl, chars, n, hread, rfl⟩ |
    ⟨hmark, hquote, v, n, hfound, rfl⟩⟩ := firstLexeme?_cases h
  · exact firstLexeme?_mark hmark _
  · obtain ⟨n', hn'⟩ := readText_append hread 0 0 behind
    exact firstLexeme?_text hn'
  · obtain ⟨d, more, rfl, hd⟩ := hscalar v rfl
    exact firstLexeme?_scalar hgap hmark hquote (takeScalar?_append hfound hd behind)

/-- **The lexemes of a joined text.** They are those of its parts if the first part does not end
with a scalar. -/
theorem lexemes?_append {ls : List Lexeme} (h : lexemes? text = some ls)
    (hlast : ∀ v, ls.getLast? ≠ some (.scalar v)) (behind : List Char) :
    lexemes? (text ++ behind) = (lexemes? behind).map (ls ++ ·) := by
  induction text, ls, h using lexemes?_induction with
  | nil => simp
  | gap c text ls hc hls ih =>
    rw [List.cons_append, lexemes?_gap hc]
    exact ih hlast
  | lexeme c text l rest ls hc hfirst hrest ih =>
    have hscalar : ∀ v, l = .scalar v → ∃ d more, rest = d :: more ∧ goesOn d = false := by
      rintro v rfl
      cases rest with
      | nil =>
        obtain rfl : [] = ls := Option.some.inj (lexemes?_nil.symm.trans hrest)
        exact absurd rfl (hlast v)
      | cons d more => exact ⟨d, more, rfl, goesOn_of_lexemes? hrest⟩
    have hlast' : ∀ v, ls.getLast? ≠ some (.scalar v) := by
      intro v hv
      refine hlast v ?_
      rw [List.getLast?_cons, hv]
      rfl
    have happend := firstLexeme?_append hfirst hscalar behind
    rw [List.cons_append] at happend ⊢
    rw [lexemes?_cons hc, happend, Option.bind_some, ih hlast', Option.map_map]
    rfl

end RecordSearch.Json
