import Mathlib

/-!
Unsigned numbers in network byte order.

A number is written with its most significant byte first, in a fixed number of bytes, and
only its low part survives when the bytes are too few. Reading is the inverse of writing
on numbers that fit, and writing is the inverse of reading on every string of bytes.
-/

namespace Penguin.Lib.BigEndian

/-- The low `k` bytes of `n`, most significant byte first. -/
def toBytes : ℕ → ℕ → List UInt8
  | 0, _ => []
  | k + 1, n => toBytes k (n / 256) ++ [UInt8.ofNat n]

/-- The number a string of bytes stands for. -/
def ofBytes (l : List UInt8) : ℕ := l.foldl (fun n b => 256 * n + b.toNat) 0

@[simp] lemma length_toBytes (k n : ℕ) : (toBytes k n).length = k := by
  induction k generalizing n with
  | zero => rfl
  | succ k ih => simp [toBytes, ih]

lemma ofBytes_append_singleton (l : List UInt8) (b : UInt8) :
    ofBytes (l ++ [b]) = 256 * ofBytes l + b.toNat := by
  simp [ofBytes, List.foldl_append]

/-- Reading back what was written gives the number modulo what the bytes can hold. -/
lemma ofBytes_toBytes (k n : ℕ) : ofBytes (toBytes k n) = n % 256 ^ k := by
  induction k generalizing n with
  | zero => simp [toBytes, ofBytes, Nat.mod_one]
  | succ k ih =>
      rw [toBytes, ofBytes_append_singleton, ih, pow_succ, Nat.mul_comm (256 ^ k) 256,
        Nat.mod_mul]
      simp
      omega

lemma ofBytes_toBytes_of_lt {k n : ℕ} (h : n < 256 ^ k) : ofBytes (toBytes k n) = n := by
  rw [ofBytes_toBytes, Nat.mod_eq_of_lt h]

lemma ofBytes_lt (l : List UInt8) : ofBytes l < 256 ^ l.length := by
  induction l using List.reverseRecOn with
  | nil => simp [ofBytes]
  | append_singleton l b ih =>
      have hb : b.toNat < 256 := b.toNat_lt
      rw [ofBytes_append_singleton, List.length_append, List.length_singleton, pow_succ]
      omega

lemma toBytes_ofBytes (l : List UInt8) : toBytes l.length (ofBytes l) = l := by
  induction l using List.reverseRecOn with
  | nil => rfl
  | append_singleton l b ih =>
      have hb : b.toNat < 256 := b.toNat_lt
      have hdiv : (256 * ofBytes l + b.toNat) / 256 = ofBytes l := by omega
      have hlow : UInt8.ofNat (256 * ofBytes l + b.toNat) = b := by
        rw [← UInt8.toNat_inj, UInt8.toNat_ofNat']
        omega
      rw [ofBytes_append_singleton, List.length_append, List.length_singleton, toBytes, hdiv, ih,
        hlow]

end Penguin.Lib.BigEndian
