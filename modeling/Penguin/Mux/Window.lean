import Penguin.Mux.Waker

/-!
The window of a writer, counted.

The window is a 32-bit counter: the writer takes one off it for a frame, and the task adds what
the peer acknowledges. The addition wraps around. Here the permissions that the writer was given
and the amounts that were acknowledged are counted beside it, with numbers that do not.
-/

namespace Penguin.Mux

open Penguin.Lib.Transition

namespace Waker

structure Counted where
  state : State
  /-- The permissions of the writer so far, for one `Push` frame each. -/
  granted : ℕ
  acknowledged : ℕ

/-- Before the first write of a stream whose peer has announced `window`. -/
def Counted.start (opts : Options) (window : UInt32) (destHost : Bytes) (destPort : UInt16) :
    Counted :=
  ⟨init (newStreamShared opts window destHost destPort), 0, 0⟩

/-- A permission comes of an exchange that succeeds. -/
def Op.granted : Op → Writer → ℕ
  | .write, .ready (.ok ()) => 1
  | _, _ => 0

def Op.acknowledged : Op → ℕ
  | .acknowledge n => n.toNat
  | _ => 0

def Counted.step (s : Counted) (op : Op) : Option Counted :=
  (Waker.step s.state op).map fun t =>
    ⟨t, s.granted + op.granted t.writer, s.acknowledged + op.acknowledged⟩

/-- An acknowledgement does not make the window smaller, and the writer finds the window empty only
if it has used up all of the credit. -/
def CreditKept (window : UInt32) (s : Counted) (op : Op) : Prop :=
  ∀ t, s.step op = some t →
    (∀ n, op = .acknowledge n → s.state.pshSendRemaining ≤ t.state.pshSendRemaining) ∧
    (op = .write → t.state.writer = .register →
      s.granted = window.toNat + s.acknowledged)

/-- What is acknowledged fits into the window beside what is left of it. -/
def Fits (s : Counted) (op : Op) : Prop :=
  ∀ n, op = .acknowledge n → s.state.waking = false →
    s.state.pshSendRemaining.toNat + n.toNat < 2 ^ 32

/-- All of the credit is in the window or has been used. -/
structure Balanced (window : UInt32) (s : Counted) : Prop where
  sum : s.state.pshSendRemaining.toNat + s.granted = window.toNat + s.acknowledged
  exchange : ∀ original, s.state.writer = .compareExchange original → original ≠ 0

variable {window : UInt32} {s t : Counted} {op : Op}

lemma Counted.step_eq (h : s.step op = some t) : Waker.step s.state op = some t.state ∧
    t.granted = s.granted + op.granted t.state.writer ∧
    t.acknowledged = s.acknowledged + op.acknowledged := by
  obtain ⟨u, hu, rfl⟩ := Option.map_eq_some_iff.1 h
  exact ⟨hu, rfl, rfl⟩

/-- The operations of the writer, as far as its window is concerned. -/
inductive Writes (s t : State) : Prop
  | granted {original : UInt32} (hw : s.writer = .compareExchange original)
      (heq : s.pshSendRemaining = original) (hrem : t.pshSendRemaining = original - 1)
      (hw' : t.writer = .ready (.ok ()))
  | refused (hzero : s.pshSendRemaining = 0) (hrem : t.pshSendRemaining = s.pshSendRemaining)
      (hw' : t.writer = .register)
  | exchanges (hne : s.pshSendRemaining ≠ 0) (hrem : t.pshSendRemaining = s.pshSendRemaining)
      (hw' : t.writer = .compareExchange s.pshSendRemaining)
  | other (hrem : t.pshSendRemaining = s.pshSendRemaining) (hok : t.writer ≠ .ready (.ok ()))
      (hreg : t.writer ≠ .register) (hex : ∀ original, t.writer ≠ .compareExchange original)

lemma writes {s t : State} (h : s.write = some t) : Writes s t := by
  unfold State.write at h
  cases hw : s.writer with
  | loadFinishSent =>
      rw [hw] at h
      obtain rfl := Option.some.inj h
      by_cases hf : s.finishSent = true
      · exact .other rfl (by simp [hf]) (by simp [hf]) (by simp [hf])
      · exact .other rfl (by simp [hf]) (by simp [hf]) (by simp [hf])
  | loadRemaining =>
      rw [hw] at h
      obtain rfl := Option.some.inj h
      by_cases hzero : s.pshSendRemaining = 0
      · exact .refused hzero rfl (if_pos hzero)
      · exact .exchanges hzero rfl (if_neg hzero)
  | compareExchange original =>
      simp only [hw] at h
      split_ifs at h with heq
      · obtain rfl := Option.some.inj h
        exact .granted hw heq rfl rfl
      · obtain rfl := Option.some.inj h
        exact .other rfl nofun nofun nofun
  | register =>
      rw [hw] at h
      obtain rfl := Option.some.inj h
      exact .other rfl nofun nofun nofun
  | returnPending =>
      rw [hw] at h
      obtain rfl := Option.some.inj h
      exact .other rfl nofun nofun nofun
  | pending => simp [hw] at h
  | ready r => simp [hw] at h

/-- What is not an operation of the writer's window leaves it alone. -/
lemma step_other {s t : State} (h : step s op = some t) (hwrite : op ≠ .write)
    (hack : ∀ n, op ≠ .acknowledge n) : t.pshSendRemaining = s.pshSendRemaining ∧
      ∀ original, t.writer = .compareExchange original → s.writer = .compareExchange original := by
  cases op with
  | poll =>
      simp only [step] at h
      split_ifs at h
      obtain rfl := Option.some.inj h
      exact ⟨rfl, fun original hw => by cases hw⟩
  | write => exact absurd rfl hwrite
  | failSpuriously =>
      simp only [step] at h
      split at h
      · obtain rfl := Option.some.inj h
        exact ⟨rfl, fun original hw => by cases hw⟩
      · cases h
  | acknowledge n => exact absurd rfl (hack n)
  | disallowWrite =>
      simp only [step] at h
      split_ifs at h
      obtain rfl := Option.some.inj h
      exact ⟨rfl, fun _ => id⟩
  | wake =>
      simp only [step] at h
      split_ifs at h
      obtain rfl := Option.some.inj h
      exact ⟨rfl, fun _ => id⟩

lemma step_acknowledge {s t : State} {n : UInt32} (h : step s (.acknowledge n) = some t) :
    s.waking = false ∧ t.pshSendRemaining = s.pshSendRemaining + n ∧ t.writer = s.writer := by
  simp only [step] at h
  split_ifs at h with hwaking
  obtain rfl := Option.some.inj h
  exact ⟨by simpa using hwaking, rfl, rfl⟩

lemma toNat_add_of_fits {a n : UInt32} (h : a.toNat + n.toNat < 2 ^ 32) :
    (a + n).toNat = a.toNat + n.toNat := by
  rw [UInt32.toNat_add, Nat.mod_eq_of_lt h]

/-- A sum that has wrapped around is smaller than either number. -/
lemma fits_of_le {a n : UInt32} (h : a ≤ a + n) : a.toNat + n.toNat < 2 ^ 32 := by
  have hle := UInt32.le_iff_toNat_le.1 h
  have ha := a.toNat_lt
  have hn := n.toNat_lt
  rw [UInt32.toNat_add] at hle
  omega

lemma Balanced.of_other (h : Balanced window s) (hs : s.step op = some t) (hwrite : op ≠ .write)
    (hack : ∀ n, op ≠ .acknowledge n) : Balanced window t := by
  obtain ⟨hstep, hgranted, hacked⟩ := Counted.step_eq hs
  obtain ⟨hrem, hex⟩ := step_other hstep hwrite hack
  have hgranted : t.granted = s.granted := by
    rw [hgranted, Op.granted]
    · rfl
    · exact fun hop _ => hwrite hop
  have hacked : t.acknowledged = s.acknowledged := by
    rw [hacked, Op.acknowledged]
    · rfl
    · exact hack
  refine ⟨?_, fun original hw => h.exchange original (hex original hw)⟩
  rw [hrem, hgranted, hacked]
  exact h.sum

lemma Balanced.write (h : Balanced window s) (hs : s.step .write = some t) :
    Balanced window t := by
  obtain ⟨hstep, hgranted, hacked⟩ := Counted.step_eq hs
  have hsum := h.sum
  have hacked : t.acknowledged = s.acknowledged := hacked
  cases writes hstep with
  | @granted original hw heq hrem hw' =>
      rw [hw'] at hgranted
      have hgranted : t.granted = s.granted + 1 := hgranted
      have hpos : (1 : UInt32).toNat ≤ original.toNat := by
        rcases Nat.eq_zero_or_pos original.toNat with hzero | hpos
        · exact absurd (UInt32.toNat_inj.1 hzero) (h.exchange original hw)
        · exact hpos
      refine ⟨?_, by simp [hw']⟩
      rw [heq] at hsum
      rw [hrem, UInt32.toNat_sub_of_le _ _ (UInt32.le_iff_toNat_le.2 hpos), hgranted, hacked]
      simp only [UInt32.toNat_one] at hpos ⊢
      omega
  | refused hzero hrem hw' =>
      rw [hw'] at hgranted
      have hgranted : t.granted = s.granted := hgranted
      exact ⟨by rw [hrem, hgranted, hacked, hsum], by simp [hw']⟩
  | exchanges hne hrem hw' =>
      rw [hw'] at hgranted
      have hgranted : t.granted = s.granted := hgranted
      refine ⟨by rw [hrem, hgranted, hacked, hsum], ?_⟩
      intro original hex
      rw [hw'] at hex
      cases hex
      exact hne
  | other hrem hok hreg hex =>
      have hgranted : t.granted = s.granted := by
        rw [hgranted, Op.granted]
        · rfl
        · exact fun _ hw' => hok hw'
      exact ⟨by rw [hrem, hgranted, hacked, hsum], fun original hw => absurd hw (hex original)⟩

/-- The step lemma: no credit is lost where it fits. -/
lemma Balanced.step (h : Balanced window s) (hfits : Fits s op) (hs : s.step op = some t) :
    Balanced window t := by
  cases op with
  | write => exact h.write hs
  | acknowledge n =>
      obtain ⟨hstep, hgranted, hacked⟩ := Counted.step_eq hs
      obtain ⟨hwaking, hrem, hw⟩ := step_acknowledge hstep
      have hsum := h.sum
      have hgranted : t.granted = s.granted := hgranted
      have hacked : t.acknowledged = s.acknowledged + n.toNat := hacked
      refine ⟨?_, by rw [hw]; exact h.exchange⟩
      rw [hrem, toNat_add_of_fits (hfits n rfl hwaking), hgranted, hacked]
      omega
  | poll => exact h.of_other hs nofun nofun
  | failSpuriously => exact h.of_other hs nofun nofun
  | disallowWrite => exact h.of_other hs nofun nofun
  | wake => exact h.of_other hs nofun nofun

/-- A window that is found empty was used up. -/
lemma Balanced.creditKept (h : Balanced window s) (hfits : Fits s op) : CreditKept window s op := by
  intro t hs
  obtain ⟨hstep, -, -⟩ := Counted.step_eq hs
  refine ⟨?_, ?_⟩
  · rintro n rfl
    obtain ⟨hwaking, hrem, -⟩ := step_acknowledge hstep
    rw [hrem, UInt32.le_iff_toNat_le, toNat_add_of_fits (hfits n rfl hwaking)]
    omega
  · rintro rfl hw
    have hsum := h.sum
    cases writes hstep with
    | granted _ _ _ hw' => rw [hw'] at hw; cases hw
    | refused hzero _ _ =>
        rw [hzero] at hsum
        simpa using hsum
    | exchanges _ _ hw' => rw [hw'] at hw; cases hw
    | other _ _ hreg _ => exact absurd hw hreg

/-- An acknowledgement that does not fit makes the window smaller. -/
lemma fits_of_creditKept (h : CreditKept window s op) : Fits s op := by
  rintro n rfl hwaking
  have hs : Waker.step s.state (.acknowledge n) = some { s.state with
      pshSendRemaining := s.state.pshSendRemaining + n, waking := true } := by
    simp [Waker.step, hwaking]
  have hkept := (h _ (by rw [Counted.step, hs]; rfl)).1 n rfl
  exact fits_of_le hkept

lemma runMeets_creditKept (h : Balanced window s) {ops : List Op}
    (hfits : RunMeets Counted.step Fits s ops) :
    RunMeets Counted.step (CreditKept window) s ops := by
  induction ops generalizing s with
  | nil => trivial
  | cons op ops ih =>
      obtain ⟨hop, hrest⟩ := hfits
      exact ⟨h.creditKept hop, fun t hs => ih (h.step hop hs) (hrest t hs)⟩

/-- **When no credit is lost**: in the runs whose acknowledgements fit into the window. -/
theorem creditKept_iff (opts : Options) (window : UInt32) (destHost : Bytes) (destPort : UInt16)
    (ops : List Op) :
    RunMeets Counted.step (CreditKept window) (.start opts window destHost destPort) ops ↔
      RunMeets Counted.step Fits (.start opts window destHost destPort) ops := by
  constructor
  · intro h
    exact h.mono fun s op => fits_of_creditKept
  · intro h
    have hstart : Balanced window (.start opts window destHost destPort) := ⟨rfl, nofun⟩
    exact runMeets_creditKept hstart h

/-- The peer announces the largest window and acknowledges one frame that it has not received. -/
theorem credit_lost :
    ¬ RunMeets Counted.step (CreditKept 0xFFFFFFFF) (.start Options.new 0xFFFFFFFF [] 0)
      [.acknowledge 1] := by
  rintro ⟨h, -⟩
  have hfits := fits_of_creditKept h 1 rfl rfl
  revert hfits
  decide

end Waker

end Penguin.Mux
