import RecordSearch.Report.StandardTerminal

/-!
# Texts without markup

Every tag starts with an opening bracket. A text that has none is one piece, whatever backslashes
are in it, and is seen as it is (`shown_eq_self`), so that the standard terminal shows every such
text (`Terminal.standard_showsPlain`).
-/

namespace RecordSearch

variable {text : List Char}

theorem Piece.tagAtStart?_eq_none (h : '[' ∉ text) : tagAtStart? text = none := by
  unfold tagAtStart?
  split
  · rename_i rest hrest
    have hmem : '[' ∈ text.dropWhile (· == '\\') := by
      rw [hrest]
      exact List.mem_cons_self ..
    exact absurd ((List.dropWhile_suffix _).subset hmem) h
  · rfl

theorem Piece.ofChars_nil (position : Nat) : Piece.ofChars position [] = [] := by
  unfold Piece.ofChars
  rfl

theorem Piece.ofChars_cons {c : Char} (h : '[' ∉ c :: text) (position : Nat) :
    Piece.ofChars position (c :: text) = addFront c (Piece.ofChars (position + 1) text) := by
  rw [Piece.ofChars]
  split
  · rename_i htag
    exact absurd ((tagAtStart?_eq_none h).symm.trans htag) (by simp)
  · rfl

/-- A text without brackets is one piece, if it is not empty. -/
theorem Piece.ofChars_eq_plain (h : '[' ∉ text) (hne : text ≠ []) (position : Nat) :
    Piece.ofChars position text = [.plain text] := by
  induction text generalizing position with
  | nil => exact absurd rfl hne
  | cons c text ih =>
    rw [ofChars_cons h]
    cases text with
    | nil => rw [ofChars_nil, addFront]; exact nofun
    | cons d text =>
      rw [ih (fun hmem => h (List.mem_cons_of_mem c hmem)) (List.cons_ne_nil d text), addFront]

theorem unescaped_eq_self (h : '[' ∉ text) : unescaped text = text := by
  fun_induction unescaped text with
  | case1 text ih => exact absurd (List.mem_cons_of_mem _ (List.mem_cons_self ..)) h
  | case2 c text _ ih => rw [ih fun hmem => h (List.mem_cons_of_mem c hmem)]
  | case3 => rfl

theorem shownPieces_eq_self (h : '[' ∉ text) (position : Nat) :
    shownPieces [] 0 (Piece.ofChars position text) = .ok (text, []) := by
  cases text with
  | nil =>
    rw [Piece.ofChars_nil]
    rfl
  | cons c text =>
    rw [Piece.ofChars_eq_plain h (List.cons_ne_nil c text), shownPieces, unescaped_eq_self h,
      shownPieces]
    simp [Except.map]

/-- A text without brackets is seen as it is. -/
theorem shown_eq_self {text : String} (h : '[' ∉ text.toList) : shown text = .ok text := by
  simp [shown, shownPieces_eq_self h]

theorem Terminal.standard_showsPlain : Terminal.standard.ShowsPlain := by
  intro text h
  simp only [Terminal.standard, shown_eq_self h]
  exact ⟨_, rfl⟩

end RecordSearch
