import Mathlib

/-!
Changing one element of a list, and what that does to the elements that are counted or have a
property.
-/

namespace Penguin.Lib.Lists

variable {α : Type*}

/-- A change that the count does not depend on leaves it alone. -/
lemma countP_modify_of_eq {p : α → Bool} {f : α → α} {l : List α} {j : ℕ}
    (h : ∀ a, l[j]? = some a → p (f a) = p a) : (l.modify j f).countP p = l.countP p := by
  induction l generalizing j with
  | nil => simp
  | cons a l ih =>
      cases j with
      | zero => simp [List.countP_cons, h a (by simp)]
      | succ j => simp [List.countP_cons, ih fun b hb => h b (by simpa using hb)]

/-- An element that stops being counted takes one off. -/
lemma countP_modify_add_one {p : α → Bool} {f : α → α} {l : List α} {j : ℕ} {a : α}
    (ha : l[j]? = some a) (hp : p a = true) (hf : p (f a) = false) :
    (l.modify j f).countP p + 1 = l.countP p := by
  induction l generalizing j with
  | nil => simp at ha
  | cons b l ih =>
      cases j with
      | zero =>
          obtain rfl : b = a := by simpa using ha
          simp [hp, hf]
      | succ j =>
          have := ih (by simpa using ha)
          simp only [List.modify_succ_cons, List.countP_cons]
          omega

lemma modify_eq_set {f : α → α} {l : List α} {i : ℕ} {a : α} (ha : l[i]? = some a) :
    l.modify i f = l.set i (f a) := by
  apply List.ext_getElem?
  intro k
  rw [List.getElem?_modify, List.getElem?_set]
  by_cases hk : i = k
  · subst hk
    obtain ⟨hlt, rfl⟩ := List.getElem?_eq_some_iff.mp ha
    simp [hlt]
  · simp [hk]

/-- An entry that is changed where nobody looks. -/
lemma map_set_of_eq {β : Type*} {f : α → β} {l : List α} {i : ℕ} {a b : α} (ha : l[i]? = some a)
    (hf : f b = f a) : (l.set i b).map f = l.map f := by
  apply List.ext_getElem?
  intro k
  rw [List.getElem?_map, List.getElem?_map, List.getElem?_set]
  by_cases hk : i = k
  · subst hk
    obtain ⟨hlt, rfl⟩ := List.getElem?_eq_some_iff.mp ha
    simp [hlt, hf]
  · simp [hk]

lemma getElem?_concat_iff {l : List α} {a b : α} {i : ℕ} :
    (l ++ [a])[i]? = some b ↔ l[i]? = some b ∨ i = l.length ∧ b = a := by
  rcases Nat.lt_trichotomy i l.length with hlt | rfl | hgt
  · simp [List.getElem?_append_left hlt, hlt.ne]
  · simp [eq_comm]
  · have hnone : l[i]? = none := List.getElem?_eq_none (by omega)
    have hnone' : (l ++ [a])[i]? = none := List.getElem?_eq_none (by simp; omega)
    simp [hnone, hnone', hgt.ne']

/-- What holds of all entries and survives the change holds of all entries after it. -/
lemma forall_mem_modify {P : α → Prop} {f : α → α} {l : List α} (h : ∀ a ∈ l, P a)
    (hf : ∀ a, P a → P (f a)) (i : ℕ) : ∀ a ∈ l.modify i f, P a := by
  induction l generalizing i with
  | nil => simp
  | cons b l ih =>
      rw [List.forall_mem_cons] at h
      cases i with
      | zero => simpa using ⟨hf b h.1, h.2⟩
      | succ i => simpa using ⟨h.1, ih h.2 i⟩

section Families

variable {ι β : Type*} [DecidableEq ι] {g : ι → List α} {i x : ι} {j k : ℕ}

/-- One element of one list of a family is changed. -/
lemma getElem?_update_modify (g : ι → List α) (i : ι) (j : ℕ) (f : α → α) (x : ι) (k : ℕ) :
    (Function.update g i ((g i).modify j f) x)[k]? =
      if x = i ∧ k = j then (g i)[j]?.map f else (g x)[k]? := by
  by_cases hx : x = i
  swap
  · simp [hx]
  subst hx
  rw [Function.update_self]
  by_cases hk : k = j
  · simp [hk]
  · simp [hk, Ne.symm hk]

lemma length_update_modify (g : ι → List α) (i : ι) (j : ℕ) (f : α → α) (x : ι) :
    (Function.update g i ((g i).modify j f) x).length = (g x).length := by
  by_cases hx : x = i
  · simp [hx]
  · rw [Function.update_of_ne hx]

/-- What is read off the elements does not see the change. -/
lemma bind_update_modify {f : α → α} {q : α → Option β} (hq : ∀ a, q (f a) = q a) :
    (Function.update g i ((g i).modify j f) x)[k]?.bind q = (g x)[k]?.bind q := by
  rw [getElem?_update_modify]
  split_ifs with hchanged
  · obtain ⟨rfl, rfl⟩ := hchanged
    cases (g x)[k]? with
    | none => rfl
    | some a => exact hq a
  · rfl

/-- What an element has it had before, or it is the one that is changed. -/
lemma any_update_modify {f : α → α} {p : α → Bool}
    (h : (Function.update g i ((g i).modify j f) x)[k]?.any p = true) :
    (g x)[k]?.any p = true ∨ x = i ∧ k = j ∧ ∃ a, (g i)[j]? = some a ∧ p (f a) = true := by
  rw [getElem?_update_modify] at h
  split_ifs at h with hchanged
  · obtain ⟨a, ha, hp⟩ := (Option.any_eq_true _ _).mp h
    obtain ⟨b, hb, rfl⟩ := Option.map_eq_some_iff.mp ha
    exact .inr ⟨hchanged.1, hchanged.2, b, hb, hp⟩
  · exact .inl h

/-- What an element of an extended list has it had before, or it is the new one. -/
lemma any_update_append {a : α} {p : α → Bool}
    (h : (Function.update g i (g i ++ [a]) x)[k]?.any p = true) :
    (g x)[k]?.any p = true ∨ x = i ∧ k = (g i).length ∧ p a = true := by
  by_cases hx : x = i
  swap
  · rw [Function.update_of_ne hx] at h
    exact .inl h
  subst hx
  rw [Function.update_self, List.getElem?_append] at h
  split_ifs at h with hlt
  · exact .inl h
  · obtain ⟨b, hb, hp⟩ := (Option.any_eq_true _ _).mp h
    obtain ⟨hk, rfl⟩ := List.getElem?_eq_some_iff.mp hb
    simp only [List.length_singleton] at hk
    exact .inr ⟨rfl, by omega, by simpa using hp⟩

lemma length_le_update_append (g : ι → List α) (i : ι) (a : α) (x : ι) :
    (g x).length ≤ (Function.update g i (g i ++ [a]) x).length := by
  by_cases hx : x = i
  · simp [hx]
  · rw [Function.update_of_ne hx]

/-- An element of which nothing is read off is not seen either. -/
lemma bind_update_append {a : α} {q : α → Option β} (hq : q a = none) :
    (Function.update g i (g i ++ [a]) x)[k]?.bind q = (g x)[k]?.bind q := by
  by_cases hx : x = i
  swap
  · rw [Function.update_of_ne hx]
  subst hx
  rw [Function.update_self, List.getElem?_append]
  split_ifs with hlt
  · rfl
  · have hnone : (g x)[k]? = none := List.getElem?_eq_none (by omega)
    rw [hnone]
    cases k - (g x).length <;> simp [hq]

end Families

lemma getElem?_of_prefix {l l' : List α} {i : ℕ} {a : α} (h : l <+: l') (ha : l[i]? = some a) :
    l'[i]? = some a := by
  obtain ⟨hlt, rfl⟩ := List.getElem?_eq_some_iff.mp ha
  exact List.prefix_iff_getElem?.mp h i hlt

/-- Whatever has the property in `l'` has had it in `l`, at the same place. -/
def NoneNew (p : α → Prop) (l l' : List α) : Prop :=
  ∀ (i : ℕ) a', l'[i]? = some a' → p a' → ∃ a, l[i]? = some a ∧ p a

section NoneNew

variable {p : α → Prop} {l l' l'' : List α}

lemma NoneNew.refl (l : List α) : NoneNew p l l := fun _ a ha hp => ⟨a, ha, hp⟩

lemma NoneNew.trans (h : NoneNew p l l') (h' : NoneNew p l' l'') : NoneNew p l l'' := by
  intro i a'' ha'' hp''
  obtain ⟨a', ha', hp'⟩ := h' i a'' ha'' hp''
  exact h i a' ha' hp'

lemma noneNew_modify {f : α → α} (hf : ∀ a, p (f a) → p a) (l : List α) (j : ℕ) :
    NoneNew p l (l.modify j f) := by
  intro i a' ha' hp
  rw [List.getElem?_modify] at ha'
  obtain ⟨a, ha, rfl⟩ := Option.map_eq_some_iff.mp ha'
  refine ⟨a, ha, ?_⟩
  split_ifs at hp
  · exact hf a hp
  · exact hp

end NoneNew

end Penguin.Lib.Lists
