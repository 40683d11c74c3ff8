import Mathlib

/-!
Readers that take symbols off the front of their input.

A reader returns what it has read and what is left, or an error. A reader is stable if more input
behind what it has read changes nothing but what is left: then it needs all of the input that it
uses up, and fails on anything shorter.
-/

namespace Penguin.Lib.Reading

variable {B E A C : Type}

abbrev Reader (B E A : Type) := List B → Except E (A × List B)

@[simp] lemma ok_bind (a : A) (f : A → Except E C) : (Except.ok a >>= f) = f a := rfl

@[simp] lemma error_bind (e : E) (f : A → Except E C) :
    (Except.error e >>= f) = Except.error e := rfl

@[simp] lemma pure_eq_ok (a : A) : (pure a : Except E A) = Except.ok a := rfl

/-- One symbol. -/
def next (e : E) : Reader B E B
  | [] => .error e
  | b :: l => .ok (b, l)

/-- A given number of symbols. -/
def exactly (n : ℕ) (e : E) : Reader B E (List B) := fun l =>
  if l.length < n then .error e else .ok (l.take n, l.drop n)

/-- Everything up to a symbol and the symbol itself, or everything there is. -/
def through [DecidableEq B] (d : B) : List B → List B × List B
  | [] => ([], [])
  | b :: l => if b = d then ([b], l) else (b :: (through d l).1, (through d l).2)

lemma through_append [DecidableEq B] {d : B} {l : List B} (h : d ∉ l) (r : List B) :
    through d (l ++ d :: r) = (l ++ [d], r) := by
  induction l with
  | nil => simp [through]
  | cons b l ih =>
      have hb : b ≠ d := fun hb => h (by simp [hb])
      have hl : d ∉ l := fun hd => h (by simp [hd])
      simp [through, hb, ih hl]

lemma exactly_append {n : ℕ} {e : E} {l : List B} (h : l.length = n) (r : List B) :
    exactly n e (l ++ r) = .ok (l, r) := by
  subst h
  simp [exactly]

/-- More input behind what was read is left over. -/
def Stable (f : Reader B E A) : Prop :=
  ∀ l a r t, f l = .ok (a, r) → f (l ++ t) = .ok (a, r ++ t)

lemma stable_next (e : E) : Stable (next e : Reader B E B) := by
  intro l a r t h
  cases l with
  | nil => cases h
  | cons b l =>
      obtain ⟨rfl, rfl⟩ := Prod.mk.inj (Except.ok.inj h)
      rfl

lemma stable_exactly (n : ℕ) (e : E) : Stable (exactly n e : Reader B E (List B)) := by
  intro l a r t h
  unfold exactly at h
  split_ifs at h with hn
  obtain ⟨rfl, rfl⟩ := Prod.mk.inj (Except.ok.inj h)
  have hle : n ≤ l.length := by omega
  have hlt : ¬ (l ++ t).length < n := by simp only [List.length_append]; omega
  rw [exactly, if_neg hlt, List.take_append_of_le_length hle, List.drop_append_of_le_length hle]

lemma stable_pure (a : A) : Stable (fun l => .ok (a, l) : Reader B E A) := by
  intro l a' r t h
  obtain ⟨rfl, rfl⟩ := Prod.mk.inj (Except.ok.inj h)
  rfl

lemma stable_error (e : E) : Stable (fun _ => .error e : Reader B E A) := by
  intro l a r t h
  cases h

lemma Stable.bind {f : Reader B E A} {g : A → Reader B E C} (hf : Stable f)
    (hg : ∀ a, Stable (g a)) : Stable fun l => f l >>= fun x => g x.1 x.2 := by
  intro l c r t h
  cases hfl : f l with
  | error e =>
      simp only [hfl, error_bind] at h
      cases h
  | ok x =>
      simp only [hfl, ok_bind] at h
      have hft : f (l ++ t) = .ok (x.1, x.2 ++ t) := hf l x.1 x.2 t (by rw [hfl])
      simp only [hft, ok_bind]
      exact hg x.1 x.2 c r t h

/-- **A stable reader needs all that it uses up**: it fails on every shorter beginning. -/
theorem Stable.fails_of_shorter {f : Reader B E A} (hf : Stable f) {l whole : List B} {a : A}
    (hwhole : f whole = .ok (a, [])) (hl : l <+: whole) (hne : l ≠ whole) : ∃ e, f l = .error e := by
  obtain ⟨t, rfl⟩ := hl
  cases hfl : f l with
  | error e => exact ⟨e, rfl⟩
  | ok x =>
      have := hf l x.1 x.2 t (by rw [hfl])
      rw [hwhole] at this
      have hnil : x.2 ++ t = [] := (Prod.mk.inj (Except.ok.inj this)).2.symm
      have ht : t = [] := (List.append_eq_nil_iff.mp hnil).2
      exact absurd (by simp [ht]) hne

/-- Every error of the reader is of a kind. -/
def Fails (P : E → Prop) (f : Reader B E A) : Prop := ∀ l e, f l = .error e → P e

section Fails

variable {P : E → Prop}

lemma fails_next {e : E} (h : P e) : Fails P (next e : Reader B E B) := by
  intro l e' he
  cases l with
  | nil => exact Except.error.inj he ▸ h
  | cons b l => cases he

lemma fails_exactly {n : ℕ} {e : E} (h : P e) : Fails P (exactly n e : Reader B E (List B)) := by
  intro l e' he
  unfold exactly at he
  split_ifs at he
  exact Except.error.inj he ▸ h

lemma fails_pure {a : A} : Fails P (fun l => .ok (a, l) : Reader B E A) := by
  intro l e he
  cases he

lemma fails_error {e : E} (h : P e) : Fails P (fun _ => .error e : Reader B E A) :=
  fun _ _ he => Except.error.inj he ▸ h

lemma Fails.bind {f : Reader B E A} {g : A → Reader B E C} (hf : Fails P f)
    (hg : ∀ a, Fails P (g a)) : Fails P fun l => f l >>= fun x => g x.1 x.2 := by
  intro l e h
  cases hfl : f l with
  | error e' =>
      simp only [hfl, error_bind] at h
      exact Except.error.inj h ▸ hf l e' hfl
  | ok x =>
      simp only [hfl, ok_bind] at h
      exact hg x.1 x.2 e h

end Fails

end Penguin.Lib.Reading
