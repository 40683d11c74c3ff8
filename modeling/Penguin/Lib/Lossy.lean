import Penguin.Lib.Transition

/-!
Channels that may lose what is sent.

What is sent travels in order and comes into a buffer with a bound, from which it is taken. It can
be lost on the way, when it arrives, and in the buffer; when the receiver is gone nothing comes in
any more. A machine that can be seen as such a channel hands out a part of what was sent, in the
order in which it was sent, and all of it if nothing was lost.
-/

namespace Penguin.Lib.Lossy

open Penguin.Lib.Transition

variable {α : Type*}

structure Channel (α : Type*) where
  flight : List α
  buffer : List α
  receiving : Bool
  /-- History: what was sent, taken and lost. -/
  sent : List α
  taken : List α
  lost : List α

inductive Op (α : Type*)
  | send (a : α)
  /-- Something is sent that will not arrive. -/
  | spoil (a : α)
  | arrive
  /-- What arrives is not let in. -/
  | lose
  | take
  /-- The receiver goes away, with its buffer. -/
  | close

def new : Channel α := ⟨[], [], true, [], [], []⟩

/-- The steps of a channel whose buffer holds `cap` things. -/
def step (cap : ℕ) (c : Channel α) : Op α → Option (Channel α)
  | .send a => some { c with flight := c.flight ++ [a], sent := c.sent ++ [a] }
  | .spoil a => some { c with sent := c.sent ++ [a], lost := c.lost ++ [a] }
  | .arrive =>
    match c.flight with
    | a :: rest =>
      if c.receiving && c.buffer.length < cap then
        some { c with flight := rest, buffer := c.buffer ++ [a] }
      else none
    | [] => none
  | .lose =>
    match c.flight with
    | a :: rest => some { c with flight := rest, lost := c.lost ++ [a] }
    | [] => none
  | .take =>
    match c.buffer with
    | a :: rest => some { c with buffer := rest, taken := c.taken ++ [a] }
    | [] => none
  | .close =>
    some { c with receiving := false, buffer := [], lost := c.lost ++ c.buffer }

/-- Several things that are next to arrive are lost. -/
lemma reach_lose {cap : ℕ} {rest : List α} (lost : List α) {c : Channel α}
    (h : c.flight = lost ++ rest) :
    Reach (step cap) Any c { c with flight := rest, lost := c.lost ++ lost } := by
  induction lost generalizing c with
  | nil =>
      obtain rfl : c.flight = rest := h
      rw [List.append_nil]
      exact .start
  | cons a lost ih =>
      have hone : step cap c .lose =
          some { c with flight := lost ++ rest, lost := c.lost ++ [a] } := by
        simp [step, h]
      have hrest := ih (c := { c with flight := lost ++ rest, lost := c.lost ++ [a] }) rfl
      rw [List.append_assoc, List.singleton_append] at hrest
      exact (Reach.next .start trivial hone).trans hrest

/-- The steps that lose nothing. -/
def Op.Careful : Op α → Prop
  | .send _ | .arrive | .take => True
  | _ => False

namespace Channel

/-- Everything that was sent and not lost, from the oldest on. -/
def kept (c : Channel α) : List α := c.taken ++ c.buffer ++ c.flight

structure Sound (cap : ℕ) (c : Channel α) : Prop where
  ordered : c.kept.Sublist c.sent
  accounted : c.sent.Perm (c.kept ++ c.lost)
  bounded : c.buffer.length ≤ cap

variable {cap : ℕ} {c c' : Channel α}

lemma sound_new : Sound cap (new : Channel α) := ⟨.slnil, .nil, Nat.zero_le _⟩

/-- What is lost is one of the things that were kept. -/
lemma Sound.loses (h : c.Sound cap) (hsent : c'.sent = c.sent) {p q lost : List α}
    (hkept : c.kept = p ++ lost ++ q) (hkept' : c'.kept = p ++ q)
    (hlost : c'.lost = c.lost ++ lost) (hbuffer : c'.buffer.length ≤ c.buffer.length) :
    c'.Sound cap where
  ordered := by
    have hsub : (p ++ q).Sublist (p ++ lost ++ q) :=
      (List.sublist_append_left p lost).append_right q
    rw [hkept', hsent]
    exact hsub.trans (hkept ▸ h.ordered)
  accounted := by
    have hmove : (p ++ lost ++ q ++ c.lost).Perm (p ++ q ++ (c.lost ++ lost)) := by
      simp only [List.append_assoc]
      refine List.Perm.append_left p ?_
      refine List.perm_append_comm.trans ?_
      simp
    rw [hsent, hkept', hlost]
    exact (hkept ▸ h.accounted).trans hmove
  bounded := hbuffer.trans h.bounded

lemma Sound.step {op : Op α} (h : c.Sound cap) (hs : step cap c op = some c') : c'.Sound cap := by
  cases op with
  | send a =>
      obtain rfl := Option.some.inj hs
      have hkept : kept { c with flight := c.flight ++ [a], sent := c.sent ++ [a] } =
          c.kept ++ [a] := by simp [kept]
      refine ⟨hkept ▸ h.ordered.append_right [a], ?_, h.bounded⟩
      rw [hkept]
      refine (h.accounted.append_right [a]).trans ?_
      simp only [List.append_assoc]
      exact List.Perm.append_left _ List.perm_append_comm
  | spoil a =>
      obtain rfl := Option.some.inj hs
      refine ⟨h.ordered.trans (List.sublist_append_left _ _), ?_, h.bounded⟩
      simpa [kept] using h.accounted.append_right [a]
  | arrive =>
      simp only [Lossy.step] at hs
      split at hs
      case h_2 => cases hs
      case h_1 a rest hflight =>
        split_ifs at hs with hroom
        obtain rfl := Option.some.inj hs
        have hkept : kept { c with flight := rest, buffer := c.buffer ++ [a] } = c.kept := by
          simp [kept, hflight]
        simp only [Bool.and_eq_true, decide_eq_true_eq] at hroom
        exact ⟨hkept ▸ h.ordered, hkept ▸ h.accounted, by simpa using hroom.2⟩
  | lose =>
      simp only [Lossy.step] at hs
      split at hs
      case h_2 => cases hs
      case h_1 a rest hflight =>
        obtain rfl := Option.some.inj hs
        exact h.loses rfl (p := c.taken ++ c.buffer) (q := rest) (by simp [kept, hflight]) rfl rfl
          le_rfl
  | take =>
      simp only [Lossy.step] at hs
      split at hs
      case h_2 => cases hs
      case h_1 a rest hbuffer =>
        obtain rfl := Option.some.inj hs
        have hkept : kept { c with buffer := rest, taken := c.taken ++ [a] } = c.kept := by
          simp [kept, hbuffer]
        have := h.bounded
        rw [hbuffer, List.length_cons] at this
        exact ⟨hkept ▸ h.ordered, hkept ▸ h.accounted, Nat.le_of_succ_le this⟩
  | close =>
      obtain rfl := Option.some.inj hs
      exact h.loses rfl (p := c.taken) (q := c.flight) rfl (by simp [kept]) rfl
        (Nat.zero_le _)

/-- **Order and account**: what was taken, what is in the buffer and what is on its way was sent in
this order, and together with what was lost it is everything that was sent. -/
theorem sound (h : Reach (Lossy.step cap) Any new c) : c.Sound cap :=
  h.invariant sound_new fun _ _ _ h _ hs => h.step hs

/-- A channel whose steps lose nothing keeps everything. -/
theorem sent_eq_kept (h : Reach (Lossy.step cap) (fun _ op => op.Careful) new c) :
    c.sent = c.kept := by
  refine h.invariant (I := fun c => c.sent = c.kept) rfl ?_
  intro c op c' hI hop hs
  cases op with
  | send a =>
      obtain rfl := Option.some.inj hs
      simp [kept, hI]
  | arrive =>
      simp only [Lossy.step] at hs
      split at hs
      case h_2 => cases hs
      case h_1 a rest hflight =>
        split_ifs at hs
        obtain rfl := Option.some.inj hs
        simp [kept, hI, hflight]
  | take =>
      simp only [Lossy.step] at hs
      split at hs
      case h_2 => cases hs
      case h_1 a rest hbuffer =>
        obtain rfl := Option.some.inj hs
        simp [kept, hI, hbuffer]
  | spoil | lose | close => cases hop

end Channel

end Penguin.Lib.Lossy
