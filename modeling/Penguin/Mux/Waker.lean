import Penguin.Mux.Task
import Penguin.Lib.Transition

/-!
A writer that waits for its window, one atomic operation at a time.

The handle and the slot of a stream share two counters and an `AtomicWaker`. Here the writer
goes through `poll_obtain_write_permission` while the task acknowledges frames or closes the
stream; either of them can come between any two operations of the other. Without interference
this is the function that the rest of the development works with: `poll_alone`.

The writer loads the window before it registers its waker, and does not look again. What the
task does in between wakes nobody.
-/

namespace Penguin.Mux

open Penguin.Lib.Transition

namespace Waker

/-- The next operation of the writer, or how the last call has ended. -/
inductive Writer
  | loadFinishSent
  | loadRemaining
  | compareExchange (original : UInt32)
  | register
  | returnPending
  | pending
  | ready (res : Except IoError Unit)

def Writer.returned : Writer → Bool
  | .pending | .ready _ => true
  | _ => false

structure State where
  finishSent : Bool
  pshSendRemaining : UInt32
  /-- A waker is registered with the `AtomicWaker`. -/
  registered : Bool
  /-- The task of the writer has been woken since it was last polled. -/
  woken : Bool
  writer : Writer
  /-- The task of the multiplexor has yet to call `wake`. -/
  waking : Bool

def init (m : MuxStream) : State where
  finishSent := m.finishSent
  pshSendRemaining := m.pshSendRemaining
  registered := false
  woken := false
  writer := .ready (.ok ())
  waking := false

inductive Op
  -- the writer: a new call, its next operation, and a `compare_exchange_weak` that fails though
  -- the values are equal
  | poll
  | write
  | failSpuriously
  -- the task: the two halves of `acknowledge` and `disallow_write`
  | acknowledge (n : UInt32)
  | disallowWrite
  | wake
  deriving DecidableEq

/-- The next operation of `poll_obtain_write_permission`. -/
def State.write (s : State) : Option State :=
  match s.writer with
  | .loadFinishSent =>
    some { s with writer := if s.finishSent then .ready (.error .brokenPipe) else .loadRemaining }
  | .loadRemaining =>
    some { s with writer := if s.pshSendRemaining = 0 then .register
      else .compareExchange s.pshSendRemaining }
  | .compareExchange original =>
    if s.pshSendRemaining = original then
      some { s with pshSendRemaining := original - 1, writer := .ready (.ok ()) }
    else some { s with writer := .loadRemaining }
  | .register => some { s with registered := true, writer := .returnPending }
  | .returnPending => some { s with writer := .pending }
  | .pending => none
  | .ready _ => none

def step (s : State) : Op → Option State
  | .poll =>
    if s.writer.returned then some { s with writer := .loadFinishSent, woken := false } else none
  | .write => s.write
  | .failSpuriously =>
    match s.writer with
    | .compareExchange _ => some { s with writer := .loadRemaining }
    | _ => none
  | .acknowledge n =>
    if s.waking then none
    else some { s with pshSendRemaining := s.pshSendRemaining + n, waking := true }
  | .disallowWrite => if s.waking then none else some { s with finishSent := true, waking := true }
  -- wakes the waker that is registered, if there is one
  | .wake =>
    if s.waking then
      some { s with registered := false, woken := s.woken || s.registered, waking := false }
    else none

namespace State

/-- There is nothing the writer could go on with. -/
def Blocked (s : State) : Prop := s.pshSendRemaining = 0 ∧ s.finishSent = false

instance (s : State) : Decidable s.Blocked := inferInstanceAs (Decidable (_ ∧ _))

/-- The writer waits, nobody is going to wake it, and it could go on. -/
def Lost (s : State) : Prop :=
  s.writer = .pending ∧ s.woken = false ∧ s.waking = false ∧ ¬ s.Blocked

/-- Whatever the writer could go on with, a wake-up is on its way. -/
def Safe (s : State) : Prop := s.Blocked ∨ s.waking = true ∨ s.woken = true

/-- What a writer that is about to wait, or waits, relies on. -/
def Waits (s : State) : Prop :=
  s.woken = true ∨ s.registered = true ∧ (s.Blocked ∨ s.waking = true)

end State

/-- A writer registers its waker only when that is safe. -/
def RegistersSafely (s : State) : Op → Prop
  | .write => s.writer = .register → s.Safe
  | _ => True

/-! ### Without interference -/

def callOps (m : MuxStream) : List Op :=
  if m.finishSent then [.poll, .write]
  else [.poll, .write, .write, .write] ++ if m.pshSendRemaining = 0 then [.write] else []

/-- Run on its own, a call does what `poll_obtain_write_permission` does to the handle. -/
lemma poll_alone {s : State} {m : MuxStream} (hw : s.writer.returned = true)
    (hf : s.finishSent = m.finishSent) (hr : s.pshSendRemaining = m.pshSendRemaining) :
    ∃ s', run step s (callOps m) = some s' ∧
      s'.finishSent = m.pollObtainWritePermission.1.finishSent ∧
      s'.pshSendRemaining = m.pollObtainWritePermission.1.pshSendRemaining ∧
      s'.writer = match m.pollObtainWritePermission.2 with
        | .pending => .pending
        | .ready r => .ready r := by
  by_cases hfin : m.finishSent = true
  · refine ⟨_, by simp [callOps, run, step, hw, State.write, hf, hfin]; rfl, ?_⟩
    simp [MuxStream.pollObtainWritePermission, hfin, hr]
  · by_cases hrem : m.pshSendRemaining = 0
    · refine ⟨_, by simp [callOps, run, step, hw, State.write, hf, hfin, hr, hrem]; rfl, ?_⟩
      simp [MuxStream.pollObtainWritePermission, hfin, hrem]
    · refine ⟨_, by simp [callOps, run, step, hw, State.write, hf, hfin, hr, hrem]; rfl, ?_⟩
      simp [MuxStream.pollObtainWritePermission, hfin, hrem]

lemma acknowledge_alone {s : State} {m : MuxStream} (n : UInt32) (hw : s.waking = false)
    (hf : s.finishSent = m.finishSent) (hr : s.pshSendRemaining = m.pshSendRemaining) :
    ∃ s', run step s [.acknowledge n, .wake] = some s' ∧
      s'.finishSent = (m.acknowledge n).finishSent ∧
      s'.pshSendRemaining = (m.acknowledge n).pshSendRemaining := by
  refine ⟨{ s with
    pshSendRemaining := s.pshSendRemaining + n, registered := false
    woken := s.woken || s.registered, waking := false }, by simp [run, step, hw], hf, ?_⟩
  simp [MuxStream.acknowledge, hr]

lemma disallowWrite_alone {s : State} {m : MuxStream} (hw : s.waking = false)
    (hr : s.pshSendRemaining = m.pshSendRemaining) :
    ∃ s', run step s [.disallowWrite, .wake] = some s' ∧
      s'.finishSent = m.disallowWrite.finishSent ∧
      s'.pshSendRemaining = m.disallowWrite.pshSendRemaining := by
  exact ⟨{ s with
    finishSent := true, registered := false, woken := s.woken || s.registered
    waking := false }, by simp [run, step, hw], rfl, hr⟩

/-! ### With interference -/

lemma State.Waits.task {s s' : State} {op : Op} (h : s.Waits) (hs : step s op = some s')
    (hop : op = .wake ∨ op = .disallowWrite ∨ ∃ n, op = .acknowledge n) : s'.Waits := by
  rcases hop with rfl | rfl | ⟨n, rfl⟩ <;> simp only [step] at hs <;> split_ifs at hs <;>
    obtain rfl := Option.some.inj hs
  · left
    rcases h with hw | ⟨hreg, -⟩
    · simp [hw]
    · simp [hreg]
  · exact h.imp id fun hreg => ⟨hreg.1, .inr rfl⟩
  · exact h.imp id fun hreg => ⟨hreg.1, .inr rfl⟩

lemma waits_step {s s' : State} {op : Op}
    (h : s.writer = .returnPending ∨ s.writer = .pending → s.Waits) (hok : RegistersSafely s op)
    (hs : step s op = some s') : s'.writer = .returnPending ∨ s'.writer = .pending → s'.Waits := by
  intro hw'
  cases op with
  | poll =>
      simp only [step] at hs
      split_ifs at hs
      obtain rfl := Option.some.inj hs
      simp at hw'
  | write =>
      simp only [step, State.write] at hs
      cases hw : s.writer with
      | loadFinishSent =>
          rw [hw] at hs
          obtain rfl := Option.some.inj hs
          by_cases hf : s.finishSent = true <;> simp [hf] at hw'
      | loadRemaining =>
          rw [hw] at hs
          obtain rfl := Option.some.inj hs
          by_cases hr : s.pshSendRemaining = 0 <;> simp [hr] at hw'
      | compareExchange original =>
          simp only [hw] at hs
          split_ifs at hs <;> obtain rfl := Option.some.inj hs <;> simp at hw'
      | register =>
          rw [hw] at hs
          obtain rfl := Option.some.inj hs
          rcases hok hw with hb | hwake | hwoken
          · exact .inr ⟨rfl, .inl hb⟩
          · exact .inr ⟨rfl, .inr hwake⟩
          · exact .inl hwoken
      | returnPending =>
          rw [hw] at hs
          obtain rfl := Option.some.inj hs
          exact h (.inl hw)
      | pending => simp [hw] at hs
      | ready r => simp [hw] at hs
  | failSpuriously =>
      simp only [step] at hs
      split at hs
      · obtain rfl := Option.some.inj hs
        simp at hw'
      · cases hs
  | acknowledge n =>
      have hsame : s'.writer = s.writer := by
        simp only [step] at hs
        split_ifs at hs
        obtain rfl := Option.some.inj hs
        rfl
      exact (h (hsame ▸ hw')).task hs (.inr (.inr ⟨n, rfl⟩))
  | disallowWrite =>
      have hsame : s'.writer = s.writer := by
        simp only [step] at hs
        split_ifs at hs
        obtain rfl := Option.some.inj hs
        rfl
      exact (h (hsame ▸ hw')).task hs (.inr (.inl rfl))
  | wake =>
      have hsame : s'.writer = s.writer := by
        simp only [step] at hs
        split_ifs at hs
        obtain rfl := Option.some.inj hs
        rfl
      exact (h (hsame ▸ hw')).task hs (.inl rfl)

/-- **No wake-up is lost** in a run whose writer registers its waker only when that is safe;
and where it does so otherwise, returning leaves it waiting for nothing. -/
theorem no_lost_wakeup (m : MuxStream) :
    (∀ s, Reach step RegistersSafely (init m) s → ¬ s.Lost) ∧
    (∀ s, Reach step Any (init m) s → s.writer = .register → ¬ s.Safe →
      ∃ s', run step s [.write, .write] = some s' ∧ s'.Lost) := by
  constructor
  · rintro s hreach ⟨hpend, hwoken, hwaking, hgo⟩
    have hwaits : s.writer = .returnPending ∨ s.writer = .pending → s.Waits :=
      hreach.invariant (I := fun s => s.writer = .returnPending ∨ s.writer = .pending → s.Waits)
        (by simp [init]) fun _ _ _ h hok hs => waits_step h hok hs
    rcases hwaits (.inr hpend) with hw | ⟨-, hb | hw⟩
    · simp [hwoken] at hw
    · exact hgo hb
    · simp [hwaking] at hw
  · intro s _ hreg hunsafe
    simp only [State.Safe, not_or, Bool.not_eq_true] at hunsafe
    obtain ⟨hgo, hwaking, hwoken⟩ := hunsafe
    exact ⟨{ s with registered := true, writer := .pending },
      by simp [run, step, State.write, hreg], rfl, hwoken, hwaking, hgo⟩

/-- The acknowledgement comes after the window was found empty and before the waker is
registered: the writer waits with a window of one frame. -/
theorem wakeup_lost : ∃ s,
    run step (init (newStreamShared Options.new 1 [] 0))
      [.poll, .write, .write, .write, .poll, .write, .write, .acknowledge 1, .wake, .write,
        .write] = some s ∧ s.Lost := by
  refine ⟨⟨false, 1, true, false, .pending, false⟩, rfl, rfl, rfl, rfl, ?_⟩
  decide

end Waker

end Penguin.Mux
