import Penguin.Lib.Transition

/-!
Exponential backoff. Durations are natural numbers, in nanoseconds.

A duration is clamped when it is handed out, and multiplied after that. The product has to be a
duration again, and the number of calls has to fit into its counter.
-/

namespace Penguin.Mux

open Penguin.Lib.Transition

structure Backoff where
  initial : ℕ
  max : ℕ
  mult : UInt32
  maxCount : UInt32
  current : ℕ
  count : UInt32
  deriving DecidableEq, Repr

namespace Backoff

def new (initial max : ℕ) (mult maxCount : UInt32) : Backoff :=
  ⟨initial, max, mult, maxCount, initial, 0⟩

/-- The previous duration, unless the retries are used up. -/
def advance (b : Backoff) : Backoff × Option ℕ :=
  if b.maxCount ≠ 0 ∧ b.maxCount ≤ b.count then (b, none)
  else
    let old := min b.current b.max
    ({ b with count := b.count + 1, current := old * b.mult.toNat }, some old)

def reset (b : Backoff) : Backoff := { b with current := b.initial, count := 0 }

/-! ### Panics -/

/-- `Duration::MAX`: the seconds are a 64-bit number. -/
def durationMax : ℕ := 2 ^ 64 * 10 ^ 9 - 1

/-- `Duration::mul`. -/
def mulDuration (d : ℕ) (n : UInt32) : Option ℕ :=
  if d * n.toNat ≤ durationMax then some (d * n.toNat) else none

/-- `advance`, or nothing if the counter or the product overflows. -/
def checkedAdvance (b : Backoff) : Option (Backoff × Option ℕ) :=
  if b.maxCount ≠ 0 ∧ b.maxCount ≤ b.count then some (b, none)
  else if b.count.toNat + 1 < 2 ^ 32 then
    let old := min b.current b.max
    (mulDuration old b.mult).map fun current =>
      ({ b with count := b.count + 1, current := current }, some old)
  else none

lemma checkedAdvance_eq {b : Backoff} (hcount : b.count.toNat + 1 < 2 ^ 32)
    (hmul : b.max * b.mult.toNat ≤ durationMax) : b.checkedAdvance = some b.advance := by
  unfold checkedAdvance advance
  split_ifs with h
  · rfl
  · have hle : min b.current b.max * b.mult.toNat ≤ durationMax :=
      (Nat.mul_le_mul_right _ (Nat.min_le_right _ _)).trans hmul
    simp [mulDuration, hle]

/-! ### Whole sequences of calls -/

inductive Call
  | advance
  | reset
  deriving DecidableEq

/-- A call, beside the number of successful `advance` calls since the last `reset`. -/
def step (s : Backoff × ℕ) : Call → Option (Backoff × ℕ)
  | .advance => s.1.checkedAdvance.map fun x => (x.1, if x.2.isSome then s.2 + 1 else s.2)
  | .reset => some (s.1.reset, 0)

/-- There are fewer than `2 ^ 32` calls of `advance` between two of `reset`. -/
def Spaced (calls : List Call) : Prop :=
  ∀ before n after, calls = before ++ List.replicate n .advance ++ after → n < 2 ^ 32

/-- What a backoff is for: the durations grow by a factor, up to the largest one. -/
def Law (initial max : ℕ) (mult maxCount : UInt32) : Prop :=
  ∀ calls, Spaced calls → ∃ b k, run step (new initial max mult maxCount, 0) calls = some (b, k) ∧
    (Spaced (calls ++ [.advance]) → b.checkedAdvance = some b.advance ∧
      (b.advance.2 = if maxCount = 0 ∨ k < maxCount.toNat then
        some (min (initial * mult.toNat ^ k) max) else none) ∧
      (b.advance.2 = none → b.advance.1 = b))

/-- The state after `k` successful calls. What is stored may be larger than the power by then, or
smaller, if both are beyond the largest duration. -/
structure Advanced (initial max : ℕ) (mult maxCount : UInt32) (b : Backoff) (k : ℕ) : Prop where
  sameInitial : b.initial = initial
  sameMax : b.max = max
  sameMult : b.mult = mult
  sameMaxCount : b.maxCount = maxCount
  counted : b.count.toNat = k
  clamped : min b.current max = min (initial * mult.toNat ^ k) max

variable {initial max : ℕ} {mult maxCount : UInt32} {b : Backoff} {k : ℕ}

lemma advanced_new : Advanced initial max mult maxCount (new initial max mult maxCount) 0 where
  sameInitial := rfl
  sameMax := rfl
  sameMult := rfl
  sameMaxCount := rfl
  counted := rfl
  clamped := by simp [new]

lemma Advanced.reset (h : Advanced initial max mult maxCount b k) :
    Advanced initial max mult maxCount b.reset 0 where
  sameInitial := h.sameInitial
  sameMax := h.sameMax
  sameMult := h.sameMult
  sameMaxCount := h.sameMaxCount
  counted := rfl
  clamped := by simp [Backoff.reset, h.sameInitial]

/-- Clamping before a multiplication does not show once the product is clamped. -/
lemma min_mul_clamped (x m n : ℕ) : min (min x m * n) m = min (x * n) m := by
  rcases Nat.eq_zero_or_pos n with rfl | hn
  · simp
  · rcases Nat.le_total x m with hx | hx
    · rw [Nat.min_eq_left hx]
    · have hm : m ≤ m * n := Nat.le_mul_of_pos_right m hn
      have hxn : m ≤ x * n := hm.trans (Nat.mul_le_mul_right n hx)
      rw [Nat.min_eq_right hx, Nat.min_eq_right hm, Nat.min_eq_right hxn]

lemma Advanced.exhausted_iff (h : Advanced initial max mult maxCount b k) :
    (b.maxCount ≠ 0 ∧ b.maxCount ≤ b.count) ↔ ¬ (maxCount = 0 ∨ k < maxCount.toNat) := by
  rw [h.sameMaxCount, UInt32.le_iff_toNat_le, h.counted, not_or, Nat.not_lt]

lemma Advanced.advance_of_exhausted (h : Advanced initial max mult maxCount b k)
    (hk : ¬ (maxCount = 0 ∨ k < maxCount.toNat)) : b.advance = (b, none) := by
  rw [Backoff.advance, if_pos (h.exhausted_iff.2 hk)]

/-- The step lemma: one more power of the factor. -/
lemma Advanced.advance (h : Advanced initial max mult maxCount b k) (hk : k + 1 < 2 ^ 32)
    (hmore : maxCount = 0 ∨ k < maxCount.toNat) :
    b.advance.2 = some (min (initial * mult.toNat ^ k) max) ∧
      Advanced initial max mult maxCount b.advance.1 (k + 1) := by
  have hif : ¬ (b.maxCount ≠ 0 ∧ b.maxCount ≤ b.count) := fun hex => h.exhausted_iff.1 hex hmore
  have hcurrent : min b.current b.max = min (initial * mult.toNat ^ k) max := by
    rw [h.sameMax, h.clamped]
  rw [Backoff.advance, if_neg hif]
  refine ⟨congrArg some hcurrent, ⟨h.sameInitial, h.sameMax, h.sameMult, h.sameMaxCount, ?_, ?_⟩⟩
  · show (b.count + 1).toNat = k + 1
    rw [UInt32.toNat_add, h.counted]
    exact Nat.mod_eq_of_lt hk
  · show min (min b.current b.max * b.mult.toNat) max = _
    rw [hcurrent, h.sameMult, min_mul_clamped, Nat.mul_assoc, ← pow_succ]

lemma Advanced.checked (h : Advanced initial max mult maxCount b k) (hk : k + 1 < 2 ^ 32)
    (hmul : max * mult.toNat ≤ durationMax) : b.checkedAdvance = some b.advance :=
  checkedAdvance_eq (by rw [h.counted]; exact hk) (by rw [h.sameMax, h.sameMult]; exact hmul)

lemma Spaced.of_append {calls after : List Call} (h : Spaced (calls ++ after)) : Spaced calls := by
  rintro before n rest rfl
  exact h before n (rest ++ after) (by simp)

/-- A run ends with the calls of `advance` since the last `reset`, and has not counted more. -/
lemma exists_advanced (hmul : max * mult.toNat ≤ durationMax) {calls : List Call}
    (h : Spaced calls) : ∃ b k n before,
      run step (new initial max mult maxCount, 0) calls = some (b, k) ∧
      Advanced initial max mult maxCount b k ∧
      calls = before ++ List.replicate n .advance ∧ k ≤ n := by
  induction calls using List.reverseRecOn with
  | nil => exact ⟨_, 0, 0, [], rfl, advanced_new, rfl, Nat.le_refl 0⟩
  | append_singleton calls call ih =>
      obtain ⟨b, k, n, before, hrun, hb, hcalls, hkn⟩ := ih h.of_append
      cases call with
      | reset =>
          exact ⟨b.reset, 0, 0, calls ++ [.reset], by simp [run_append, hrun, run, step], hb.reset,
            by simp, Nat.le_refl 0⟩
      | advance =>
          have hn : n + 1 < 2 ^ 32 := by
            refine h before (n + 1) [] ?_
            rw [hcalls, List.replicate_succ']
            simp
          have hchecked := hb.checked (by omega) hmul
          have hsplit : calls ++ [.advance] = before ++ List.replicate (n + 1) .advance := by
            rw [hcalls, List.replicate_succ', List.append_assoc]
          by_cases hmore : maxCount = 0 ∨ k < maxCount.toNat
          · obtain ⟨hout, hb'⟩ := hb.advance (by omega) hmore
            exact ⟨b.advance.1, k + 1, n + 1, before,
              by simp [run_append, hrun, run, step, hchecked, hout], hb', hsplit, by omega⟩
          · have hout := hb.advance_of_exhausted hmore
            exact ⟨b, k, n + 1, before, by simp [run_append, hrun, run, step, hchecked, hout], hb,
              hsplit, by omega⟩

lemma law_of_mul_le (hmul : max * mult.toNat ≤ durationMax) : Law initial max mult maxCount := by
  intro calls h
  obtain ⟨b, k, n, before, hrun, hb, hcalls, hkn⟩ := exists_advanced hmul h
  refine ⟨b, k, hrun, ?_⟩
  intro hnext
  have hn : n + 1 < 2 ^ 32 := by
    refine hnext before (n + 1) [] ?_
    rw [hcalls, List.replicate_succ']
    simp
  refine ⟨hb.checked (by omega) hmul, ?_⟩
  split_ifs with hmore
  · obtain ⟨hout, -⟩ := hb.advance (by omega) hmore
    exact ⟨hout, fun hnone => by rw [hout] at hnone; cases hnone⟩
  · rw [hb.advance_of_exhausted hmore]
    exact ⟨rfl, fun _ => rfl⟩

/-- **The law of the backoff**, for every largest duration that can be multiplied, and so for what
the client uses: 200 ms at first, the double each time, and the rest from its arguments. -/
theorem backoff_law :
    (∀ initial max mult maxCount, max * mult.toNat ≤ durationMax →
      Law initial max mult maxCount) ∧
    ∀ (maxRetryInterval : UInt64) (maxRetryCount : UInt32),
      Law (200 * 10 ^ 6) (maxRetryInterval.toNat * 10 ^ 6) 2 maxRetryCount := by
  refine ⟨fun _ _ _ _ => law_of_mul_le, fun maxRetryInterval maxRetryCount => law_of_mul_le ?_⟩
  have hlt := maxRetryInterval.toNat_lt
  have h2 : (2 : UInt32).toNat = 2 := rfl
  rw [h2, durationMax]
  omega

theorem backoff_law_test :
    10 ^ 9 * (2 : UInt32).toNat ≤ durationMax ∧ Law (10 * 10 ^ 6) (10 ^ 9) 2 5 := by
  have hmul : 10 ^ 9 * (2 : UInt32).toNat ≤ durationMax := by decide
  exact ⟨hmul, backoff_law.1 _ _ 2 5 hmul⟩

end Backoff

end Penguin.Mux
