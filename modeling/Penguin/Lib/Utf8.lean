import Mathlib

/-!
Text with byte offsets.

A text is a list of characters, stored in UTF-8. Offsets into it count bytes; a text can be cut
only between two characters, and searching for a character gives the offset where it begins.
-/

namespace Penguin.Lib.Utf8

abbrev Text := List Char

/-- The length in bytes. -/
def size (s : Text) : ℕ := (s.map Char.utf8Size).sum

/-- The two parts at an offset, unless it is inside a character or behind the end. -/
def cut (i : ℕ) : Text → Option (Text × Text)
  | [] => if i = 0 then some ([], []) else none
  | c :: s =>
    if i = 0 then some ([], c :: s)
    else if i < c.utf8Size then none
    else (cut (i - c.utf8Size) s).map fun x => (c :: x.1, x.2)

/-- Where a character occurs first. -/
def find (c : Char) : Text → Option ℕ
  | [] => none
  | d :: s => if d = c then some 0 else (find c s).map (d.utf8Size + ·)

/-- What is before and behind the first occurrence of a character. -/
def splitOnce (c : Char) : Text → Option (Text × Text)
  | [] => none
  | d :: s => if d = c then some ([], s) else (splitOnce c s).map fun x => (d :: x.1, x.2)

/-- What is before and behind the last occurrence of a character. -/
def rsplitOnce (c : Char) (s : Text) : Option (Text × Text) :=
  (splitOnce c s.reverse).map fun x => (x.2.reverse, x.1.reverse)

variable {c : Char} {s t : Text}

@[simp] lemma size_nil : size [] = 0 := rfl

@[simp] lemma size_cons (c : Char) (s : Text) : size (c :: s) = c.utf8Size + size s := rfl

@[simp] lemma size_append (s t : Text) : size (s ++ t) = size s + size t := by
  simp [size]

@[simp] lemma cut_append (s t : Text) : cut (size s) (s ++ t) = some (s, t) := by
  induction s with
  | nil => cases t <;> rfl
  | cons c s ih =>
      have h0 : c.utf8Size ≠ 0 := c.utf8Size_pos.ne'
      simp [cut, h0, ih]

lemma cut_of_lt {i : ℕ} (h : size s < i) : cut i s = none := by
  induction s generalizing i with
  | nil =>
      have h0 : i ≠ 0 := by
        simp only [size_nil] at h
        omega
      simp [cut, h0]
  | cons c s ih =>
      have hc := c.utf8Size_pos
      simp only [size_cons] at h
      have h0 : ¬ i = 0 := by omega
      have hlt : ¬ i < c.utf8Size := by omega
      simp [cut, h0, hlt, ih (by omega : size s < i - c.utf8Size)]

lemma find_append (h : c ∉ s) (t : Text) : find c (s ++ c :: t) = some (size s) := by
  induction s with
  | nil => simp [find]
  | cons d s ih =>
      have hd : d ≠ c := fun hd => h (by simp [hd])
      simp [find, hd, ih fun hs => h (by simp [hs])]

lemma find_of_not_mem (h : c ∉ s) : find c s = none := by
  induction s with
  | nil => rfl
  | cons d s ih =>
      have hd : d ≠ c := fun hd => h (by simp [hd])
      simp [find, hd, ih fun hs => h (by simp [hs])]

lemma splitOnce_append (h : c ∉ s) (t : Text) : splitOnce c (s ++ c :: t) = some (s, t) := by
  induction s with
  | nil => simp [splitOnce]
  | cons d s ih =>
      have hd : d ≠ c := fun hd => h (by simp [hd])
      simp [splitOnce, hd, ih fun hs => h (by simp [hs])]

lemma splitOnce_of_not_mem (h : c ∉ s) : splitOnce c s = none := by
  induction s with
  | nil => rfl
  | cons d s ih =>
      have hd : d ≠ c := fun hd => h (by simp [hd])
      simp [splitOnce, hd, ih fun hs => h (by simp [hs])]

lemma rsplitOnce_append (h : c ∉ t) (s : Text) : rsplitOnce c (s ++ c :: t) = some (s, t) := by
  have hc : c ∉ t.reverse := by simpa using h
  have := splitOnce_append hc s.reverse
  simp [rsplitOnce, this]

lemma rsplitOnce_of_not_mem (h : c ∉ s) : rsplitOnce c s = none := by
  have hc : c ∉ s.reverse := by simpa using h
  simp [rsplitOnce, splitOnce_of_not_mem hc]

/-- A text with a character in it has a last occurrence of it. -/
lemma exists_last_of_mem (h : c ∈ s) : ∃ t u, s = t ++ c :: u ∧ c ∉ u := by
  have hc : c ∈ s.reverse := by simpa using h
  obtain ⟨u, t, hs, hu⟩ := List.eq_append_cons_of_mem hc
  refine ⟨t.reverse, u.reverse, ?_, by simpa using hu⟩
  rw [← List.reverse_reverse s, hs]
  simp

end Penguin.Lib.Utf8
