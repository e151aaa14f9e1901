import RecordSearch.Proofs.JoinedLexemes
import RecordSearch.Text.Blank

/-!
# Values enclosed in brackets

A text is read as what its lexemes spell: `Place.run` goes through them, and `read_eq_ok_iff`
connects it with the reader. Inside open lists and objects it takes the same way, with their frames
below (`Place.run_inside`).

A list or an object ends at its own bracket. `Encloses` says that a text is one value of that kind:
it can be put among others, and nothing but gaps may be put behind it.
-/

namespace RecordSearch.Json

/-! ### Running through lexemes -/

namespace Place

/-- The place behind some lexemes, if they may come. -/
def run : Place → List Lexeme → Option Place
  | place, [] => some place
  | place, l :: ls => (place.step l).bind fun next => next.run ls

variable {place next : Place} {frames : List Frame} {l : Lexeme} {ls : List Lexeme} {v w : Json}

theorem run_append (place : Place) (ls more : List Lexeme) :
    place.run (ls ++ more) = (place.run ls).bind fun next => next.run more := by
  induction ls generalizing place with
  | nil => rfl
  | cons l ls ih =>
    rw [List.cons_append, run, run]
    cases place.step l with
    | none => rfl
    | some next => exact ih next

/-- Nothing may come behind a whole value. -/
theorem run_complete_nil (h : (Place.complete [] v).run ls = some (.complete [] w)) :
    ls = [] ∧ v = w := by
  cases ls with
  | nil =>
    obtain ⟨-, rfl⟩ := Place.complete.inj (Option.some.inj h)
    exact ⟨rfl, rfl⟩
  | cons l ls => exact absurd h (by simp [run, step])

/-- A place with more frames around it. -/
def inside (frames : List Frame) : Place → Place
  | .value inner => .value (inner ++ frames)
  | .firstElement inner => .firstElement (inner ++ frames)
  | .firstMember inner => .firstMember (inner ++ frames)
  | .name inner members => .name (inner ++ frames) members
  | .colon inner members key => .colon (inner ++ frames) members key
  | .complete inner v => .complete (inner ++ frames) v

theorem startValue_inside {inner : List Frame} (h : startValue inner l = some next) :
    startValue (inner ++ frames) l = some (next.inside frames) := by
  cases l <;> cases h <;> rfl

/-- What may come may come inside other frames too. -/
theorem step_inside (h : place.step l = some next) :
    (place.inside frames).step l = some (next.inside frames) := by
  cases place with
  | value inner => exact startValue_inside h
  | firstElement inner => cases l <;> cases h <;> rfl
  | firstMember inner => cases l <;> cases h <;> rfl
  | name inner members => cases l <;> cases h; rfl
  | colon inner members key => cases l <;> cases h; rfl
  | complete inner v =>
    match inner with
    | [] => exact absurd h (by simp [step])
    | .list elements :: inner => cases l <;> cases h <;> rfl
    | .object members key :: inner => cases l <;> cases h <;> rfl

theorem run_inside (frames : List Frame) (h : place.run ls = some next) :
    (place.inside frames).run ls = some (next.inside frames) := by
  induction ls generalizing place with
  | nil =>
    obtain rfl := Option.some.inj h
    rfl
  | cons l ls ih =>
    obtain ⟨p, hp, hrest⟩ := Option.bind_eq_some_iff.1 h
    rw [run, step_inside hp]
    exact ih hrest

/-- Inside a list or an object, a value is never the whole. -/
theorem step_ne_value (hplace : place ≠ .value []) (h : place.step l = some next) :
    next ≠ .value [] := by
  cases place with
  | value inner => cases l <;> cases h <;> simp
  | firstElement inner => cases l <;> cases h <;> simp
  | firstMember inner => cases l <;> cases h <;> simp
  | name inner members => cases l <;> cases h; simp
  | colon inner members key => cases l <;> cases h; simp
  | complete inner v =>
    match inner with
    | [] => exact absurd h (by simp [step])
    | .list elements :: inner => cases l <;> cases h <;> simp
    | .object members key :: inner => cases l <;> cases h <;> simp

theorem step_scalar_ne (hplace : place ≠ .value []) :
    place.step (.scalar v) ≠ some (.complete [] w) := by
  cases place with
  | value inner =>
    intro h
    obtain ⟨rfl, -⟩ := Place.complete.inj (Option.some.inj h)
    exact hplace rfl
  | complete inner u =>
    match inner with
    | [] => simp [step]
    | .list elements :: inner => simp [step]
    | .object members key :: inner => simp [step]
  | _ => simp [step, startValue]

/-- What is not a value by itself does not end with a scalar. -/
theorem getLast?_ne_scalar (hplace : place ≠ .value []) (h : place.run ls = some (.complete [] w))
    (v : Json) : ls.getLast? ≠ some (.scalar v) := by
  induction ls generalizing place with
  | nil => simp
  | cons l ls ih =>
    obtain ⟨p, hp, hrest⟩ := Option.bind_eq_some_iff.1 h
    cases ls with
    | nil =>
      obtain rfl := Option.some.inj hrest
      intro hlast
      obtain rfl : l = .scalar v := Option.some.inj hlast
      exact step_scalar_ne hplace hp
    | cons l' ls =>
      rw [List.getLast?_cons_cons]
      exact ih (step_ne_value hplace hp) hrest

end Place

theorem readFrom_eq_ok_iff {place : Place} {lexemes : Lexemes} {v : Json} :
    readFrom place lexemes = .ok v ↔
      ∃ ls, lexemes.all? = some ls ∧ place.run ls = some (.complete [] v) := by
  induction lexemes generalizing place with
  | done position =>
    have hend : readFrom place (.done position) = .ok v ↔ place = .complete [] v := by
      unfold readFrom
      split <;> simp_all
    rw [hend]
    constructor
    · rintro rfl
      exact ⟨[], rfl, rfl⟩
    · rintro ⟨ls, hls, hrun⟩
      obtain rfl := Option.some.inj hls
      exact Option.some.inj hrun
  | stray position => simp [readFrom, Lexemes.all?]
  | brokenText position failure => simp [readFrom, Lexemes.all?]
  | next position l rest ih =>
    rw [readFrom]
    cases hstep : place.step l with
    | none =>
      constructor
      · intro h
        exact absurd h (by simp)
      · rintro ⟨ls, hls, hrun⟩
        obtain ⟨ls, -, rfl⟩ := Option.map_eq_some_iff.1 hls
        rw [Place.run, hstep] at hrun
        exact absurd hrun (by simp)
    | some next =>
      constructor
      · intro h
        obtain ⟨ls, hls, hrun⟩ := ih.1 h
        refine ⟨l :: ls, ?_, ?_⟩
        · rw [Lexemes.all?, hls]
          rfl
        · rw [Place.run, hstep]
          exact hrun
      · rintro ⟨ls, hls, hrun⟩
        obtain ⟨ls, hrest, rfl⟩ := Option.map_eq_some_iff.1 hls
        rw [Place.run, hstep] at hrun
        exact ih.2 ⟨ls, hrest, hrun⟩

/-- A text is read as what its lexemes spell. -/
theorem read_eq_ok_iff {text : List Char} {v : Json} :
    read text = .ok v ↔
      ∃ ls, lexemes? text = some ls ∧ (Place.value []).run ls = some (.complete [] v) := by
  unfold read
  split
  · rename_i rest
    -- no lexeme starts with a byte order mark
    have hmark : lexemes? ('\ufeff' :: rest) = none := by
      have hnone : firstLexeme? ('\ufeff' :: rest) = none := rfl
      rw [lexemes?_cons (by decide), hnone, Option.bind_none]
    simp [hmark]
  · exact readFrom_eq_ok_iff

/-! ### Brackets -/

variable {text rest behind : List Char} {c : Char} {l : Lexeme} {v w : Json}

theorem takeScalar?_ne_object {n : Nat} (h : takeScalar? text = some (v, n, rest))
    (members : List (String × Json)) : v ≠ .object members := by
  rw [takeScalar?, Option.or_eq_some_iff] at h
  rcases h with h | ⟨-, h⟩
  · exact (takeWord?_spec h).2.2 members
  · obtain ⟨⟨number, more⟩, -, hfound⟩ := Option.map_eq_some_iff.1 h
    obtain ⟨rfl, -⟩ := Prod.mk.inj hfound
    unfold NumberText.value
    split <;> simp

/-- Behind its gaps, a text starts with an opening bracket. -/
def Opens (text : List Char) : Prop :=
  ∃ gaps bracket rest, (∀ c ∈ gaps, isGap c = true) ∧ (bracket = '[' ∨ bracket = '{') ∧
    text = gaps ++ bracket :: rest

/-- A text is one value in brackets. -/
structure Encloses (text : List Char) (v : Json) : Prop where
  opens : Opens text
  read : read text = .ok v

/-- The text of an object starts with a bracket. -/
theorem opens_of_read {members : List (String × Json)} (h : read text = .ok (.object members)) :
    Opens text := by
  obtain ⟨ls, hls, hrun⟩ := read_eq_ok_iff.1 h
  induction text, ls, hls using lexemes?_induction with
  | nil => exact absurd hrun (by simp [Place.run])
  | gap c text ls hc hls ih =>
    obtain ⟨gaps, bracket, rest, hgaps, hbracket, rfl⟩ := ih (read_eq_ok_iff.2 ⟨ls, hls, hrun⟩) hrun
    exact ⟨c :: gaps, bracket, rest, List.forall_mem_cons.2 ⟨hc, hgaps⟩, hbracket, rfl⟩
  | lexeme c text l rest ls hc hfirst hls ih =>
    have hwhole : ∀ w : Json, (Place.value []).step l = some (.complete [] w) →
        w = .object members := by
      intro w hstep
      rw [Place.run, hstep] at hrun
      exact (Place.run_complete_nil hrun).2
    obtain ⟨d, s, htext, -, ⟨hmark, -⟩ | ⟨-, chars, n, -, rfl⟩ | ⟨-, -, w, n, hscalar, rfl⟩⟩ :=
      firstLexeme?_cases hfirst
    · refine ⟨[], d, s, fun _ hmem => absurd hmem List.not_mem_nil, ?_, htext⟩
      unfold mark? at hmark
      split at hmark
      case h_1 => exact .inl rfl
      case h_3 => exact .inr rfl
      case h_7 => exact absurd hmark (by simp)
      all_goals
        cases hmark
        exact absurd hrun (by simp [Place.run, Place.step, Place.startValue])
    · exact absurd (hwhole (.text _) rfl) (by simp)
    · exact absurd (hwhole w rfl) (takeScalar?_ne_object hscalar members)

theorem lexemes?_gaps {gaps : List Char} (hgaps : ∀ c ∈ gaps, isGap c = true) (text : List Char) :
    lexemes? (gaps ++ text) = lexemes? text := by
  induction gaps with
  | nil => rfl
  | cons c gaps ih =>
    obtain ⟨hc, hgaps⟩ := List.forall_mem_cons.1 hgaps
    rw [List.cons_append, lexemes?_gap hc, ih hgaps]

/-- A text without lexemes has nothing but gaps. -/
theorem isGap_of_lexemes?_nil (h : lexemes? text = some []) : ∀ c ∈ text, isGap c = true := by
  generalize hls : ([] : List Lexeme) = ls at h
  induction text, ls, h using lexemes?_induction with
  | nil => exact fun c hc => absurd hc List.not_mem_nil
  | gap c text ls hc _ ih => exact List.forall_mem_cons.2 ⟨hc, ih hls⟩
  | lexeme => exact absurd hls (by simp)

/-- **A value in brackets.** Its lexemes spell it inside any frames, and whatever stands behind it
is cut by itself. -/
theorem Encloses.exists_lexemes (h : Encloses text v) :
    ∃ ls, lexemes? text = some ls ∧
      (∀ frames, (Place.value frames).run ls = some (.complete frames v)) ∧
      ∀ behind, lexemes? (text ++ behind) = (lexemes? behind).map (ls ++ ·) := by
  obtain ⟨ls, hls, hrun⟩ := read_eq_ok_iff.1 h.read
  refine ⟨ls, hls, fun frames => Place.run_inside frames hrun, lexemes?_append hls ?_⟩
  obtain ⟨gaps, bracket, rest, hgaps, hbracket, rfl⟩ := h.opens
  have hfirst : ∃ l ls', ∃ place : Place, ls = l :: ls' ∧ (∀ u, l ≠ .scalar u) ∧ place ≠ .value [] ∧
      place.run ls' = some (.complete [] v) := by
    rw [lexemes?_gaps hgaps] at hls
    rcases hbracket with rfl | rfl
    · rw [lexemes?_mark rfl] at hls
      obtain ⟨ls', -, rfl⟩ := Option.map_eq_some_iff.1 hls
      exact ⟨.openList, ls', .firstElement [], rfl, by simp, by simp, hrun⟩
    · rw [lexemes?_mark rfl] at hls
      obtain ⟨ls', -, rfl⟩ := Option.map_eq_some_iff.1 hls
      exact ⟨.openObject, ls', .firstMember [], rfl, by simp, by simp, hrun⟩
  obtain ⟨l, ls', place, rfl, hl, hplace, hrest⟩ := hfirst
  intro u hlast
  rw [List.getLast?_cons] at hlast
  cases hlast' : ls'.getLast? with
  | none =>
    rw [hlast'] at hlast
    exact hl u (Option.some.inj hlast)
  | some l' =>
    rw [hlast'] at hlast
    obtain rfl : l' = .scalar u := Option.some.inj hlast
    exact Place.getLast?_ne_scalar hplace hrest u hlast'

/-- Nothing but gaps may stand behind a value in brackets. -/
theorem Encloses.isGap_of_read_append (h : Encloses text v)
    (hmore : Json.read (text ++ behind) = .ok w) : ∀ c ∈ behind, isGap c = true := by
  obtain ⟨ls, -, hrun, happend⟩ := h.exists_lexemes
  obtain ⟨all, hall, hwhole⟩ := read_eq_ok_iff.1 hmore
  rw [happend, Option.map_eq_some_iff] at hall
  obtain ⟨more, hmore, rfl⟩ := hall
  rw [Place.run_append, hrun, Option.bind_some] at hwhole
  obtain ⟨rfl, -⟩ := Place.run_complete_nil hwhole
  exact isGap_of_lexemes?_nil hmore

/-! ### Lists of texts -/

/-- What is a value in a list is also its first element. -/
theorem Place.run_firstElement {frames : List Frame} {ls : List Lexeme}
    (h : (Place.value (.list [] :: frames)).run ls = some (.complete frames v)) :
    (Place.firstElement frames).run ls = some (.complete frames v) := by
  cases ls with
  | nil => exact absurd h (by simp [run])
  | cons l ls => cases l <;> first | exact h | exact absurd h (by simp [run, step, startValue])

/-- Texts in brackets, between commas and in front of a closing bracket, are elements of a list. -/
theorem exists_lexemes_elements {texts : List (List Char)} {values : List Json}
    (h : List.Forall₂ Encloses texts values) (hne : texts ≠ []) :
    ∃ ls, lexemes? ([','].intercalate texts ++ [']']) = some ls ∧ ∀ frames elements,
      (Place.value (.list elements :: frames)).run ls =
        some (.complete frames (.list (elements.reverse ++ values))) := by
  induction h with
  | nil => exact absurd rfl hne
  | @cons text v texts values hv hvalues ih =>
    obtain ⟨ls, -, hrun, happend⟩ := hv.exists_lexemes
    cases hvalues with
    | nil =>
      refine ⟨ls ++ [.closeList], ?_, fun frames elements => ?_⟩
      · rw [List.intercalate_singleton, happend, lexemes?_mark rfl, lexemes?_nil]
        rfl
      · rw [Place.run_append, hrun, Option.bind_some, ← List.reverse_cons]
        rfl
    | @cons text' v' texts values hv' hvalues =>
      obtain ⟨ls', hls', hrun'⟩ := ih (List.cons_ne_nil _ _)
      refine ⟨ls ++ .comma :: ls', ?_, fun frames elements => ?_⟩
      · rw [List.intercalate_cons_cons, List.append_assoc, List.append_assoc, happend,
          List.singleton_append, lexemes?_mark rfl, hls']
        rfl
      · rw [Place.run_append, hrun, Option.bind_some, List.append_cons, ← List.reverse_cons]
        exact hrun' frames (v :: elements)

/-- **A list of texts.** Texts in brackets are the elements of the list that they are put into. -/
theorem read_list {texts : List (List Char)} {values : List Json}
    (h : List.Forall₂ Encloses texts values) (hne : texts ≠ []) :
    read ('[' :: ([','].intercalate texts ++ [']'])) = .ok (.list values) := by
  obtain ⟨ls, hls, hrun⟩ := exists_lexemes_elements h hne
  refine read_eq_ok_iff.2 ⟨.openList :: ls, ?_, Place.run_firstElement (hrun [] [])⟩
  rw [lexemes?_mark rfl, hls, Option.map_some]

end RecordSearch.Json
