import Mathlib

/-!
Loops that end with `break`.

The body of a loop takes the state of an iteration to that of the next one, or leaves the loop
with a result. A loop may go on for ever, so it is run with a number of iterations.
-/

namespace Penguin.Lib.Loop

variable {S R : Type*}

/-- `loop { .. }`, for at most `n` iterations. -/
def loop (body : S → S ⊕ R) : ℕ → S → Option R
  | 0, _ => none
  | n + 1, s =>
    match body s with
    | .inl s' => loop body n s'
    | .inr r => some r

variable {body : S → S ⊕ R} {s s' : S} {r : R} {n : ℕ}

lemma loop_of_inl (h : body s = .inl s') : loop body (n + 1) s = loop body n s' := by
  simp [loop, h]

lemma loop_of_inr (h : body s = .inr r) : loop body (n + 1) s = some r := by
  simp [loop, h]

/-- **Invariant rule**: what holds at the start of every iteration holds when the loop is left. -/
theorem loop_invariant {I : S → Prop} {Q : R → Prop}
    (hnext : ∀ s s', I s → body s = .inl s' → I s') (hbreak : ∀ s r, I s → body s = .inr r → Q r)
    (hs : I s) (h : loop body n s = some r) : Q r := by
  induction n generalizing s with
  | zero => cases h
  | succ n ih =>
      cases hb : body s with
      | inl s' => exact ih (hnext s s' hs hb) (by rwa [loop_of_inl hb] at h)
      | inr r' =>
          rw [loop_of_inr hb] at h
          obtain rfl := Option.some.inj h
          exact hbreak s r' hs hb

/-- **Measure rule**: a loop whose iterations keep to an invariant and make a number smaller is left
after at most that many of them, and one more. -/
theorem loop_isSome {I : S → Prop} (μ : S → ℕ)
    (hnext : ∀ s s', I s → body s = .inl s' → I s' ∧ μ s' < μ s) (hs : I s) (hn : μ s < n) :
    (loop body n s).isSome = true := by
  induction n generalizing s with
  | zero => omega
  | succ n ih =>
      cases hb : body s with
      | inl s' =>
          rw [loop_of_inl hb]
          obtain ⟨hs', hlt⟩ := hnext s s' hs hb
          exact ih hs' (by omega)
      | inr r => simp [loop_of_inr hb]

/-- A loop that keeps coming back to where it goes on is never left. -/
theorem loop_eq_none {I : S → Prop} (hnext : ∀ s, I s → ∃ s', body s = .inl s' ∧ I s')
    (hs : I s) : loop body n s = none := by
  induction n generalizing s with
  | zero => rfl
  | succ n ih =>
      obtain ⟨s', hb, hs'⟩ := hnext s hs
      rw [loop_of_inl hb]
      exact ih hs'

lemma loop_mono {m : ℕ} (h : loop body n s = some r) (hle : n ≤ m) : loop body m s = some r := by
  induction n generalizing m s with
  | zero => cases h
  | succ n ih =>
      obtain ⟨m, rfl⟩ : ∃ k, m = k + 1 := ⟨m - 1, by omega⟩
      cases hb : body s with
      | inl s' =>
          rw [loop_of_inl hb] at h ⊢
          exact ih h (by omega)
      | inr r' => rwa [loop_of_inr hb] at h ⊢

/-- **Iterations**: a loop whose iterations can be seen as one function of what is seen of them
leaves what that function comes to. -/
theorem loop_iterates {T : Type*} {f : T → T} {I : S → Prop} (get : S → T) (out : R → T)
    (hnext : ∀ s s', I s → body s = .inl s' → f (get s) = get s' ∧ I s')
    (hbreak : ∀ s r, I s → body s = .inr r → f (get s) = out r) (hs : I s)
    (h : loop body n s = some r) : ∃ k, out r = f^[k] (get s) := by
  induction n generalizing s with
  | zero => cases h
  | succ n ih =>
      cases hb : body s with
      | inl s' =>
          obtain ⟨hf, hs'⟩ := hnext s s' hs hb
          obtain ⟨k, hk⟩ := ih hs' (by rwa [loop_of_inl hb] at h)
          exact ⟨k + 1, by rw [hk, Function.iterate_succ_apply, hf]⟩
      | inr r' =>
          rw [loop_of_inr hb] at h
          obtain rfl := Option.some.inj h
          exact ⟨1, (hbreak s r' hs hb).symm⟩

end Penguin.Lib.Loop
