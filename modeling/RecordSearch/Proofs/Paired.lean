import Mathlib.Data.List.Forall2

/-!
# Lists paired item by item

Two lists are often related item by item: handles and the items that they stand for, texts and the
values that are read from them, two trees that are alike. These lemmas go from the items to the
lists and back.
-/

namespace RecordSearch

variable {α β : Type} {R S : α → β → Prop} {as : List α} {bs : List β}

theorem forall₂_imp_of_mem (h : List.Forall₂ R as bs) (himp : ∀ a ∈ as, ∀ b, R a b → S a b) :
    List.Forall₂ S as bs :=
  ((List.forall₂_and_left as bs).2 ⟨himp, h⟩).imp fun _ b hab => hab.1 b hab.2

theorem eq_map_of_forall₂ {f : β → α} (h : List.Forall₂ R as bs)
    (hf : ∀ a ∈ as, ∀ b, R a b → a = f b) : as = bs.map f := by
  rw [← List.forall₂_eq_eq_eq, List.forall₂_map_right_iff]
  exact forall₂_imp_of_mem h hf

theorem exists_of_mem_of_forall₂ {a : α} (h : List.Forall₂ R as bs) (ha : a ∈ as) :
    ∃ b ∈ bs, R a b := by
  induction h with
  | nil => exact absurd ha List.not_mem_nil
  | @cons a' b as bs hab _ ih =>
    rcases List.mem_cons.1 ha with rfl | ha
    · exact ⟨b, List.mem_cons_self .., hab⟩
    · obtain ⟨b', hb', hab'⟩ := ih ha
      exact ⟨b', List.mem_cons_of_mem b hb', hab'⟩

/-- Whatever is related to something in each case is related to a list of it. -/
theorem exists_forall₂ (h : ∀ a ∈ as, ∃ b, R a b) : ∃ bs, List.Forall₂ R as bs := by
  induction as with
  | nil => exact ⟨[], .nil⟩
  | cons a as ih =>
    obtain ⟨⟨b, hb⟩, has⟩ := List.forall_mem_cons.1 h
    obtain ⟨bs, hbs⟩ := ih has
    exact ⟨b :: bs, .cons hb hbs⟩

/-- Whatever stands between the items of two lists, pair by pair, makes a list between them. -/
theorem exists_between_of_forall₂ {γ : Type} {P : γ → β → Prop} {Q : γ → α → Prop}
    (h : List.Forall₂ (fun a b => ∃ c, P c b ∧ Q c a) as bs) :
    ∃ cs, List.Forall₂ P cs bs ∧ List.Forall₂ Q cs as := by
  induction h with
  | nil => exact ⟨[], .nil, .nil⟩
  | cons hab _ ih =>
    obtain ⟨c, hP, hQ⟩ := hab
    obtain ⟨cs, hPs, hQs⟩ := ih
    exact ⟨c :: cs, .cons hP hPs, .cons hQ hQs⟩

theorem isEmpty_eq_of_forall₂ (h : List.Forall₂ R as bs) : as.isEmpty = bs.isEmpty := by
  cases h <;> rfl

theorem all_eq_of_forall₂ {p : α → Bool} {q : β → Bool}
    (h : List.Forall₂ (fun a b => p a = q b) as bs) : as.all p = bs.all q := by
  induction h with
  | nil => rfl
  | cons hab _ ih => rw [List.all_cons, List.all_cons, hab, ih]

theorem any_eq_of_forall₂ {p : α → Bool} {q : β → Bool}
    (h : List.Forall₂ (fun a b => p a = q b) as bs) : as.any p = bs.any q := by
  induction h with
  | nil => rfl
  | cons hab _ ih => rw [List.any_cons, List.any_cons, hab, ih]

/-- Lists are equal if their images are, and if equal images come from equal items. -/
theorem eq_of_map_eq_map {f : α → β} {bs : List α}
    (hinj : ∀ a ∈ as, ∀ b ∈ bs, f a = f b → a = b) (h : as.map f = bs.map f) : as = bs := by
  induction as generalizing bs with
  | nil => exact (List.map_eq_nil_iff.1 h.symm).symm
  | cons a as ih =>
    obtain ⟨b, bs, rfl, hab, hrest⟩ := List.map_eq_cons_iff.1 h.symm
    obtain rfl := hinj a (List.mem_cons_self ..) b (List.mem_cons_self ..) hab.symm
    rw [ih (fun a ha b hb => hinj a (List.mem_cons_of_mem _ ha) b (List.mem_cons_of_mem _ hb))
      hrest.symm]

end RecordSearch
