import RecordSearch.Proofs.Enclosed

/-!
# Lexemes around line ends

A line feed or a carriage return belongs to no lexeme. It ends a number and breaks a string, and an
escape is broken by it wherever it stands. So the lexemes in front of a line end do not depend on
which of the two it is, and `lexemes?_congr` puts one text in the place of another behind it if both
have the same lexemes.
-/

namespace RecordSearch.Json

/-- The characters that end a line of a file. -/
def EndsLine (c : Char) : Prop := c = '\n' ∨ c = '\r'

variable {x y c : Char} {a s t rest : List Char}

theorem EndsLine.isGap (hx : EndsLine x) : isGap x = true := by
  rcases hx with rfl | rfl <;> decide

/-! ### Scalars in front of line ends -/

theorem takeDigits_endsLine (hx : EndsLine x) (a s : List Char) :
    takeDigits (a ++ x :: s) = ((takeDigits a).1, (takeDigits a).2 ++ x :: s) := by
  have hdigit : x.isDigit = false := by rcases hx with rfl | rfl <;> decide
  induction a with
  | nil => simp [takeDigits, hdigit]
  | cons d a ih =>
    by_cases hd : d.isDigit = true
    · simpa [takeDigits, hd] using ih
    · simp [takeDigits, hd]

theorem takeMinus_endsLine (hx : EndsLine x) (a s : List Char) :
    takeMinus (a ++ x :: s) = ((takeMinus a).1, (takeMinus a).2 ++ x :: s) := by
  cases a with
  | nil => rcases hx with rfl | rfl <;> rfl
  | cons d a => exact takeMinus_append (List.cons_ne_nil d a) _

theorem takeSign_endsLine (hx : EndsLine x) (a s : List Char) :
    takeSign (a ++ x :: s) = ((takeSign a).1, (takeSign a).2 ++ x :: s) := by
  cases a with
  | nil => rcases hx with rfl | rfl <;> rfl
  | cons d a => exact takeSign_append (List.cons_ne_nil d a) _

theorem takeWhole_endsLine (hx : EndsLine x) (a s : List Char) :
    takeWhole (a ++ x :: s) = ((takeWhole a).1, (takeWhole a).2 ++ x :: s) := by
  cases a with
  | nil => rcases hx with rfl | rfl <;> rfl
  | cons d a =>
    by_cases hzero : d = '0'
    · rw [hzero]
      rfl
    · have hdigits : ∀ more : List Char, takeWhole (d :: more) = takeDigits (d :: more) :=
        fun more => takeWhole.eq_2 _ fun _ hmore => hzero (List.cons.inj hmore).1
      rw [List.cons_append, hdigits, hdigits, ← List.cons_append, takeDigits_endsLine hx]

theorem takeFraction_endsLine (hx : EndsLine x) (a s : List Char) :
    takeFraction (a ++ x :: s) = ((takeFraction a).1, (takeFraction a).2 ++ x :: s) := by
  cases a with
  | nil => rcases hx with rfl | rfl <;> rfl
  | cons d a =>
    by_cases hpoint : d = '.'
    · have hpoints : ∀ more : List Char, takeFraction ('.' :: more) =
          if (takeDigits more).1.isEmpty then ([], '.' :: more) else takeDigits more :=
        fun more => rfl
      rw [hpoint, List.cons_append, hpoints, hpoints, takeDigits_endsLine hx]
      split <;> rfl
    · have hother : ∀ more : List Char, takeFraction (d :: more) = ([], d :: more) :=
        fun more => takeFraction.eq_2 _ fun _ hmore => hpoint (List.cons.inj hmore).1
      rw [List.cons_append, hother, hother, List.cons_append]

theorem takeExponent_endsLine (hx : EndsLine x) (a s : List Char) :
    takeExponent (a ++ x :: s) = ((takeExponent a).1, (takeExponent a).2 ++ x :: s) := by
  cases a with
  | nil =>
    have hletter : ¬(x = 'e' ∨ x = 'E') := by rcases hx with rfl | rfl <;> decide
    simp [takeExponent, hletter]
  | cons d a =>
    simp only [List.cons_append, takeExponent, takeSign_endsLine hx, takeDigits_endsLine hx]
    split <;> rfl

/-- A number ends in front of a line end. -/
theorem takeNumber?_endsLine (hx : EndsLine x) (a s : List Char) :
    takeNumber? (a ++ x :: s) =
      (takeNumber? a).map fun found => (found.1, found.2 ++ x :: s) := by
  simp only [takeNumber?, takeMinus_endsLine hx, takeWhole_endsLine hx, takeFraction_endsLine hx,
    takeExponent_endsLine hx]
  split <;> rfl

/-- A part of a text that lacks a character ends in front of it. -/
theorem exists_of_append_eq {word : List Char} (h : a ++ x :: s = word ++ rest) (hx : x ∉ word) :
    ∃ r, a = word ++ r ∧ rest = r ++ x :: s := by
  rcases List.append_eq_append_iff.1 h with ⟨inner, rfl, hinner⟩ | ⟨r, rfl, rfl⟩
  · cases inner with
    | nil => exact ⟨[], by simp, hinner.symm⟩
    | cons d inner =>
      obtain rfl : x = d := (List.cons.inj hinner).1
      exact absurd (List.mem_append_right _ (List.mem_cons_self ..)) hx
  · exact ⟨r, rfl, rfl⟩

/-- A word is cut off in front of a line end. -/
theorem takeWord?_endsLine (hx : EndsLine x) (a s : List Char) :
    takeWord? (a ++ x :: s) =
      (takeWord? a).map fun found => (found.1, found.2.1, found.2.2 ++ x :: s) := by
  cases hword : takeWord? (a ++ x :: s) with
  | none =>
    cases ha : takeWord? a with
    | none => rfl
    | some found =>
      rw [takeWord?_append ha] at hword
      exact absurd hword (by simp)
  | some found =>
    obtain ⟨v, n, rest⟩ := found
    obtain ⟨htext, hbehind, -⟩ := takeWord?_spec hword
    have hletters : x ∉ (a ++ x :: s).take n := by
      unfold takeWord? at hword
      split at hword
      case h_7 => exact absurd hword (by simp)
      all_goals
        rename_i heq
        obtain ⟨rfl, rfl, rfl⟩ := by simpa using hword
        rw [heq]
        rcases hx with rfl | rfl <;> simp
    obtain ⟨r, ha, rfl⟩ := exists_of_append_eq htext hletters
    have hfound := hbehind r
    rw [← ha] at hfound
    rw [hfound]
    rfl

theorem takeScalar?_endsLine (hx : EndsLine x) (a s : List Char) :
    takeScalar? (a ++ x :: s) =
      (takeScalar? a).map fun found => (found.1, found.2.1, found.2.2 ++ x :: s) := by
  rw [takeScalar?, takeScalar?, takeWord?_endsLine hx, takeNumber?_endsLine hx]
  cases takeWord? a with
  | some found => rfl
  | none => cases takeNumber? a <;> rfl

/-! ### Strings in front of line ends -/

/-- The digits of an escape are not torn apart. -/
theorem codeUnit?_of_not_hex (hx : x ∈ s.take 4) (hhex : hexValue? x = none) :
    codeUnit? s = none := by
  unfold codeUnit?
  split
  · rename_i p q r u e behind
    simp only [List.take_succ_cons, List.take_zero, List.mem_cons, List.not_mem_nil, or_false] at hx
    rcases hx with rfl | rfl | rfl | rfl
    · simp [hhex]
    · cases hexValue? p <;> simp [hhex]
    · cases hexValue? p <;> cases hexValue? q <;> simp [hhex]
    · cases hexValue? p <;> cases hexValue? q <;> cases hexValue? r <;> simp [hhex]
  · rfl

/-- Whether an escape has its four digits does not depend on which line end stands behind it. -/
theorem codeUnit?_endsLine (hx : EndsLine x) (hy : EndsLine y) (a s t : List Char) :
    (codeUnit? (a ++ x :: s) = none ∧ codeUnit? (a ++ y :: t) = none) ∨
      ∃ unit r, codeUnit? (a ++ x :: s) = some unit ∧ codeUnit? (a ++ y :: t) = some unit ∧
        ∀ behind, (a ++ behind).drop 4 = r ++ behind := by
  have hhex : ∀ {z : Char}, EndsLine z → hexValue? z = none := by
    rintro z (rfl | rfl) <;> decide
  match a with
  | p :: q :: r :: u :: a =>
    have hsame : codeUnit? (p :: q :: r :: u :: (a ++ x :: s)) =
        codeUnit? (p :: q :: r :: u :: (a ++ y :: t)) := by
      cases a <;> rfl
    cases hunit : codeUnit? (p :: q :: r :: u :: (a ++ x :: s)) with
    | none => exact .inl ⟨hunit, hsame ▸ hunit⟩
    | some unit => exact .inr ⟨unit, a, hunit, hsame ▸ hunit, fun behind => rfl⟩
  | [] | [_] | [_, _] | [_, _, _] =>
    exact .inl ⟨codeUnit?_of_not_hex (by simp) (hhex hx), codeUnit?_of_not_hex (by simp) (hhex hy)⟩

/-- Without an escape behind it, a code stands for itself. -/
theorem Piece.ofUnit_alone {unit : Nat} {text : List Char} (h : ∀ m, text ≠ '\\' :: 'u' :: m) :
    Piece.ofUnit unit text = .char (unitChar unit) 6 text := by
  unfold Piece.ofUnit
  split
  · split
    · rename_i m
      exact absurd rfl (h m)
    · rfl
  · rfl

/-- A line end is no part of an escape. -/
theorem ne_escape_of_endsLine {z : Char} (hz : EndsLine z) {a more : List Char}
    (ha : ∀ m, a ≠ '\\' :: 'u' :: m) (m : List Char) : a ++ z :: more ≠ '\\' :: 'u' :: m := by
  intro heq
  match a with
  | [] => rcases hz with rfl | rfl <;> simp at heq
  | [d] => rcases hz with rfl | rfl <;> simp at heq
  | d :: e :: a =>
    simp only [List.cons_append, List.cons.injEq] at heq
    exact ha a (by rw [heq.1, heq.2.1])

theorem Piece.ofUnit_endsLine (hx : EndsLine x) (hy : EndsLine y) {unit n : Nat}
    (h : Piece.ofUnit unit (a ++ x :: s) = .char c n rest) (t : List Char) :
    ∃ r, rest = r ++ x :: s ∧ Piece.ofUnit unit (a ++ y :: t) = .char c n (r ++ y :: t) := by
  by_cases hescape : ∃ m, a = '\\' :: 'u' :: m
  · obtain ⟨m, rfl⟩ := hescape
    rw [List.cons_append, List.cons_append] at h ⊢
    unfold Piece.ofUnit at h ⊢
    by_cases hleading : isLeading unit = true
    · rw [if_pos hleading] at h ⊢
      rcases codeUnit?_endsLine hx hy m s t with ⟨hnone, -⟩ | ⟨trailing, r, hunit, hunit', hdrop⟩
      · simp only [hnone] at h
        exact absurd h (by simp)
      · simp only [hunit, hunit', hdrop] at h ⊢
        split at h
        · obtain ⟨rfl, rfl, rfl⟩ := Piece.char.inj h
          exact ⟨r, rfl, if_pos ‹_›⟩
        · obtain ⟨rfl, rfl, rfl⟩ := Piece.char.inj h
          exact ⟨'\\' :: 'u' :: m, rfl, if_neg ‹_›⟩
    · rw [if_neg hleading] at h ⊢
      obtain ⟨rfl, rfl, rfl⟩ := Piece.char.inj h
      exact ⟨'\\' :: 'u' :: m, rfl, rfl⟩
  · have ha : ∀ m, a ≠ '\\' :: 'u' :: m := fun m hm => hescape ⟨m, hm⟩
    rw [Piece.ofUnit_alone (ne_escape_of_endsLine hx ha)] at h
    obtain ⟨rfl, rfl, rfl⟩ := Piece.char.inj h
    exact ⟨a, rfl, Piece.ofUnit_alone (ne_escape_of_endsLine hy ha)⟩

/-- A character of a string is read in front of a line end whichever it is. -/
theorem Piece.ofChars_endsLine (hx : EndsLine x) (hy : EndsLine y) {n : Nat}
    (h : Piece.ofChars (a ++ x :: s) = .char c n rest) (t : List Char) :
    ∃ r, rest = r ++ x :: s ∧ Piece.ofChars (a ++ y :: t) = .char c n (r ++ y :: t) := by
  cases a with
  | nil => rcases hx with rfl | rfl <;> exact absurd h (by simp [Piece.ofChars])
  | cons d a =>
    rw [List.cons_append] at h
    by_cases hquote : d = '"'
    · rw [hquote] at h
      exact absurd h (by simp [Piece.ofChars])
    · by_cases hback : d = '\\'
      · rw [hback] at h ⊢
        cases a with
        | nil => rcases hx with rfl | rfl <;> exact absurd h (by simp [Piece.ofChars, escaped?])
        | cons e a =>
          by_cases hunicode : e = 'u'
          · rw [hunicode] at h ⊢
            rcases codeUnit?_endsLine hx hy a s t with ⟨hnone, -⟩ | ⟨unit, r, hunit, hunit', hdrop⟩
            · simp [Piece.ofChars, hnone] at h
            · simp only [List.cons_append, Piece.ofChars, hunit, hunit', hdrop] at h ⊢
              exact Piece.ofUnit_endsLine hx hy h t
          · simp only [List.cons_append, Piece.ofChars.eq_5 _ _ hunicode] at h ⊢
            cases hescaped : escaped? e with
            | none => rw [hescaped] at h; exact absurd h (by simp)
            | some f =>
              rw [hescaped] at h
              obtain ⟨rfl, rfl, rfl⟩ := Piece.char.inj h
              exact ⟨a, rfl, rfl⟩
      · have hplain : ∀ more : List Char, Piece.ofChars (d :: more) =
            if d.toNat < 0x20 then .fault .controlCharacter 0 else .char d 1 more :=
          fun more => Piece.ofChars.eq_6 _ _ hquote (fun hd => absurd hd hback)
            (fun _ hd => absurd hd hback) (fun _ _ hd => absurd hd hback)
        rw [hplain] at h
        rw [List.cons_append, hplain]
        split at h
        · exact absurd h (by simp)
        · rename_i hcontrol
          obtain ⟨rfl, rfl, rfl⟩ := Piece.char.inj h
          exact ⟨a, rfl, if_neg hcontrol⟩

/-- A string that is read ends in front of every line end. -/
theorem readText_endsLine (hx : EndsLine x) (hy : EndsLine y) {start position n : Nat}
    {chars : List Char} (h : readText start position (a ++ x :: s) = .ok (chars, n, rest))
    (t : List Char) (start' position' : Nat) :
    ∃ r n', rest = r ++ x :: s ∧
      readText start' position' (a ++ y :: t) = .ok (chars, n', r ++ y :: t) := by
  generalize htext : a ++ x :: s = text at h
  fun_induction readText start position text generalizing a chars n rest position' with
  | case1 position text more hclose =>
    obtain ⟨rfl, -, rfl⟩ : [] = chars ∧ position + 1 = n ∧ more = rest := by simpa using h
    have hquote : a ++ x :: s = ['"'] ++ more := htext.trans (Piece.eq_of_ofChars_close hclose)
    have hne : x ∉ ['"'] := by rcases hx with rfl | rfl <;> decide
    obtain ⟨r, rfl, rfl⟩ := exists_of_append_eq hquote hne
    exact ⟨r, position' + 1, rfl, readText_of_close rfl start' position'⟩
  | case2 => exact absurd h (by simp)
  | case3 => exact absurd h (by simp)
  | case4 position text c k more hchar chars' found hread ih =>
    obtain ⟨behind, more'⟩ := found
    obtain ⟨rfl, -, rfl⟩ : c :: chars' = chars ∧ behind = n ∧ more' = rest := by simpa using h
    rw [← htext] at hchar
    obtain ⟨r, hr, hchar'⟩ := Piece.ofChars_endsLine hx hy hchar t
    obtain ⟨r', n', hr', hread'⟩ := ih (position' + k) hr.symm hread
    refine ⟨r', n', hr', ?_⟩
    rw [readText_of_char hchar', hread']
  | case5 => exact absurd h (by simp)

/-! ### Lexemes in front of line ends -/

/-- A lexeme that starts in front of a line end is cut off there, whichever line end it is. -/
theorem firstLexeme?_endsLine (hx : EndsLine x) (hy : EndsLine y) {l : Lexeme}
    (h : firstLexeme? (a ++ x :: s) = some (l, rest)) (t : List Char) :
    ∃ r, rest = r ++ x :: s ∧ firstLexeme? (a ++ y :: t) = some (l, r ++ y :: t) := by
  obtain ⟨c, text, heq, hgap, hcases⟩ := firstLexeme?_cases h
  cases a with
  | nil =>
    obtain rfl : x = c := (List.cons.inj heq).1
    rw [hx.isGap] at hgap
    exact absurd hgap.symm Bool.false_ne_true
  | cons d a =>
    obtain ⟨rfl, rfl⟩ := List.cons.inj heq
    rw [List.cons_append]
    rcases hcases with ⟨hmark, rfl⟩ | ⟨rfl, chars, n, hread, rfl⟩ |
      ⟨hmark, hquote, v, n, hfound, rfl⟩
    · exact ⟨a, rfl, firstLexeme?_mark hmark _⟩
    · obtain ⟨r, n', rfl, hread'⟩ := readText_endsLine hx hy hread t 0 0
      exact ⟨r, rfl, firstLexeme?_text hread'⟩
    · have hscalar : takeScalar? (d :: a ++ x :: s) = some (v, n, rest) := hfound
      rw [takeScalar?_endsLine hx, Option.map_eq_some_iff] at hscalar
      obtain ⟨⟨w, k, r⟩, ha, heq⟩ := hscalar
      obtain ⟨rfl, rfl, rfl⟩ : w = v ∧ k = n ∧ r ++ x :: s = rest := by simpa using heq
      have hscalar' : takeScalar? (d :: a ++ y :: t) = some (w, k, r ++ y :: t) := by
        rw [takeScalar?_endsLine hy, ha]
        rfl
      exact ⟨r, rfl, firstLexeme?_scalar hgap hmark hquote hscalar'⟩

theorem lexemes?_endsLine (hx : EndsLine x) (hy : EndsLine y) (hst : lexemes? s = lexemes? t)
    {ls : List Lexeme} (h : lexemes? (a ++ x :: s) = some ls) :
    lexemes? (a ++ y :: t) = some ls := by
  induction hlen : a.length using Nat.strong_induction_on generalizing a ls with
  | _ k ih =>
    cases a with
    | nil =>
      rw [List.nil_append, lexemes?_gap hx.isGap] at h
      rw [List.nil_append, lexemes?_gap hy.isGap, ← hst, h]
    | cons c a =>
      have hlt : a.length < k := hlen ▸ Nat.lt_succ_self _
      rw [List.cons_append] at h ⊢
      by_cases hc : isGap c = true
      · rw [lexemes?_gap hc] at h ⊢
        exact ih _ hlt h rfl
      · rw [Bool.not_eq_true] at hc
        rw [lexemes?_cons hc, Option.bind_eq_some_iff] at h
        obtain ⟨⟨l, rest⟩, hfirst, hrest⟩ := h
        obtain ⟨ls, hls, rfl⟩ := Option.map_eq_some_iff.1 hrest
        have hshorter := length_lt_of_firstLexeme? hfirst
        rw [← List.cons_append] at hfirst
        obtain ⟨r, rfl, hfirst'⟩ := firstLexeme?_endsLine hx hy hfirst t
        have hr : r.length < k := by
          rw [← hlen, List.length_cons]
          simp only [List.length_cons, List.length_append] at hshorter
          omega
        exact lexemes?_lexeme hc hfirst' (ih _ hr hls rfl)

/-- **Texts that differ in a line end.** They have the same lexemes if what stands behind the line
ends has. -/
theorem lexemes?_congr (hx : EndsLine x) (hy : EndsLine y) (hst : lexemes? s = lexemes? t)
    (a : List Char) : lexemes? (a ++ x :: s) = lexemes? (a ++ y :: t) :=
  Option.ext fun _ => ⟨lexemes?_endsLine hx hy hst, lexemes?_endsLine hy hx hst.symm⟩

end RecordSearch.Json
