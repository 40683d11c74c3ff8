import Penguin.Mux.Frame

/-!
A stream handle and its operations.

A `MuxStream` owns the receiving half of the channel the task dispatches frames to and
shares two counters with the slot of its flow. The operations are methods of the handle, so
they see only the handle, whether the queue of outgoing frames still takes frames (`tx`),
and whether the task still holds the sending half of the channel (`rx`). They return the new
handle and the frames they queued. The flow id is the key the handle is stored under, and an
argument here. The wakers are left out: no step below depends on them.
-/

namespace Penguin.Mux

/-- The answer of a `poll_` function. -/
inductive Poll (α : Type)
  | ready (a : α)
  | pending
  deriving DecidableEq, Repr

inductive IoError
  | brokenPipe
  deriving DecidableEq, Repr

structure MuxStream where
  /-- What the task has put into the channel and the reader has not taken out. -/
  frameRx : List Bytes
  destHost : Bytes
  destPort : UInt16
  finishSent : Bool
  pshSendRemaining : UInt32
  pshRecvdSince : UInt32
  buf : Bytes
  rwndThreshold : UInt32
  /-- The handle has been dropped, and the channel with it. -/
  dropped : Bool
  /-- History: the bytes that writes have accepted. No operation reads it. -/
  written : Bytes
  /-- History: the bytes that reads have handed out. No operation reads it. -/
  taken : Bytes
  deriving DecidableEq, Repr

namespace MuxStream

/-- `poll_obtain_write_permission`, run without interference. -/
def pollObtainWritePermission (m : MuxStream) : MuxStream × Poll (Except IoError Unit) :=
  if m.finishSent then (m, .ready (.error .brokenPipe))
  else if m.pshSendRemaining = 0 then (m, .pending)
  else ({ m with pshSendRemaining := m.pshSendRemaining - 1 }, .ready (.ok ()))

def pollWrite (m : MuxStream) (id : UInt32) (tx : Bool) (buf : Bytes) :
    MuxStream × List Frame × Poll (Except IoError ℕ) :=
  match m.pollObtainWritePermission with
  | (m, .pending) => (m, [], .pending)
  | (m, .ready (.error e)) => (m, [], .ready (.error e))
  | (m, .ready (.ok ())) =>
    if tx then
      ({ m with written := m.written ++ buf }, [Frame.newPush id buf], .ready (.ok buf.length))
    else (m, [], .ready (.error .brokenPipe))

def shutdownInner (m : MuxStream) (id : UInt32) (tx : Bool) :
    MuxStream × List Frame × Except IoError Unit :=
  if m.finishSent then (m, [], .ok ())
  else if tx then ({ m with finishSent := true }, [Frame.newFinish id], .ok ())
  else ({ m with finishSent := true }, [], .error .brokenPipe)

def incrementPshRecvdSince (m : MuxStream) (id : UInt32) (tx : Bool) : MuxStream × List Frame :=
  let new := m.pshRecvdSince + 1
  if new ≥ m.rwndThreshold then
    ({ m with pshRecvdSince := 0 }, if tx then [Frame.newAcknowledge id new] else [])
  else ({ m with pshRecvdSince := new }, [])

/-- The slice `poll_fill_buf` returns; an empty one is the end of the stream. -/
def pollFillBuf (m : MuxStream) (id : UInt32) (tx rx : Bool) :
    MuxStream × List Frame × Poll Bytes :=
  if m.buf.isEmpty then
    match m.frameRx with
    | [] => (m, [], if rx then .pending else .ready [])
    | next :: rest =>
      let (m, sent) := { m with frameRx := rest, buf := next }.incrementPshRecvdSince id tx
      (m, sent, .ready m.buf)
  else (m, [], .ready m.buf)

/-- `consume`. The bytes a reader skips over are the ones it has read. -/
def consume (m : MuxStream) (amt : ℕ) : MuxStream :=
  { m with buf := m.buf.drop amt, taken := m.taken ++ m.buf.take amt }

/-- `poll_read` into a buffer with room for `remaining` bytes. -/
def pollRead (m : MuxStream) (id : UInt32) (tx rx : Bool) (remaining : ℕ) :
    MuxStream × List Frame × Poll Bytes :=
  match m.pollFillBuf id tx rx with
  | (m, sent, .pending) => (m, sent, .pending)
  | (m, sent, .ready got) =>
    let amt := min got.length remaining
    (m.consume amt, sent, .ready (got.take amt))

/-! ### What the operations can do -/

variable {m : MuxStream} {id : UInt32} {tx : Bool}

lemma pollWrite_cases (m : MuxStream) (id : UInt32) (tx : Bool) (buf : Bytes) :
    (m.finishSent = true ∧ m.pollWrite id tx buf = (m, [], .ready (.error .brokenPipe))) ∨
    (m.finishSent = false ∧ m.pshSendRemaining = 0 ∧ m.pollWrite id tx buf = (m, [], .pending)) ∨
    (m.finishSent = false ∧ m.pshSendRemaining ≠ 0 ∧ tx = false ∧ m.pollWrite id tx buf =
      ({ m with pshSendRemaining := m.pshSendRemaining - 1 }, [],
        .ready (.error .brokenPipe))) ∨
    (m.finishSent = false ∧ m.pshSendRemaining ≠ 0 ∧ tx = true ∧ m.pollWrite id tx buf =
      ({ m with pshSendRemaining := m.pshSendRemaining - 1, written := m.written ++ buf },
        [Frame.newPush id buf], .ready (.ok buf.length))) := by
  by_cases hf : m.finishSent = true
  · left
    simp [pollWrite, pollObtainWritePermission, hf]
  by_cases hr : m.pshSendRemaining = 0
  · right; left
    simp [pollWrite, pollObtainWritePermission, hf, hr]
  cases tx
  · right; right; left
    simp [pollWrite, pollObtainWritePermission, hf, hr]
  · right; right; right
    simp [pollWrite, pollObtainWritePermission, hf, hr]

lemma pollFillBuf_of_buf (rx : Bool) (hb : m.buf ≠ []) :
    m.pollFillBuf id tx rx = (m, [], .ready m.buf) := by
  have : m.buf.isEmpty = false := by simpa using hb
  simp [pollFillBuf, this]

lemma pollFillBuf_of_empty (rx : Bool) (hb : m.buf = []) (hrx : m.frameRx = []) :
    m.pollFillBuf id tx rx = (m, [], if rx then .pending else .ready []) := by
  simp [pollFillBuf, hb, hrx]

lemma pollFillBuf_of_lt {next : Bytes} {rest : List Bytes} (rx : Bool) (hb : m.buf = [])
    (hrx : m.frameRx = next :: rest) (hlt : m.pshRecvdSince + 1 < m.rwndThreshold) :
    m.pollFillBuf id tx rx =
      ({ m with frameRx := rest, buf := next, pshRecvdSince := m.pshRecvdSince + 1 }, [],
        .ready next) := by
  have hnot : ¬ m.pshRecvdSince + 1 ≥ m.rwndThreshold := by simpa using hlt
  simp [pollFillBuf, incrementPshRecvdSince, hb, hrx, hnot]

lemma pollFillBuf_of_ge {next : Bytes} {rest : List Bytes} (rx : Bool) (hb : m.buf = [])
    (hrx : m.frameRx = next :: rest) (hge : m.rwndThreshold ≤ m.pshRecvdSince + 1) :
    m.pollFillBuf id tx rx =
      ({ m with frameRx := rest, buf := next, pshRecvdSince := 0 },
        if tx then [Frame.newAcknowledge id (m.pshRecvdSince + 1)] else [], .ready next) := by
  simp [pollFillBuf, incrementPshRecvdSince, hb, hrx, hge]

/-- The four ways of `poll_fill_buf`: the buffer has bytes, there is nothing to read, or a
frame is taken out of the channel, with or without an acknowledgement. -/
lemma pollFillBuf_cases (m : MuxStream) : m.buf ≠ [] ∨ (m.buf = [] ∧ m.frameRx = []) ∨
    ∃ next rest, m.buf = [] ∧ m.frameRx = next :: rest ∧
      (m.pshRecvdSince + 1 < m.rwndThreshold ∨ m.rwndThreshold ≤ m.pshRecvdSince + 1) := by
  by_cases hb : m.buf = []
  · cases hrx : m.frameRx with
    | nil => exact .inr (.inl ⟨hb, rfl⟩)
    | cons next rest =>
        refine .inr (.inr ⟨next, rest, hb, rfl, ?_⟩)
        rw [← UInt32.not_le]
        exact (em _).symm
  · exact .inl hb

/-- The bytes that are there to be read. -/
def available (m : MuxStream) : ℕ := (m.buf ++ m.frameRx.flatten).length

/-- What `poll_fill_buf` leaves: the same bytes to be read, in the buffer if there are any. -/
structure Filled (m : MuxStream) (id : UInt32) (rx : Bool)
    (x : MuxStream × List Frame × Poll Bytes) : Prop where
  bytes : x.1.buf ++ x.1.frameRx.flatten = m.buf ++ m.frameRx.flatten
  frameRx : ∀ f ∈ x.1.frameRx, f ∈ m.frameRx
  finishSent : x.1.finishSent = m.finishSent
  credit : x.1.pshSendRemaining = m.pshSendRemaining
  acks : ∀ f ∈ x.2.1, ∃ n, f = Frame.newAcknowledge id n
  shown : ∀ buf, x.2.2 = .ready buf → x.1.buf = buf
  ended : x.2.2 = .ready [] → (∀ f ∈ m.frameRx, f ≠ []) → m.buf = [] ∧ m.frameRx = [] ∧ rx = false
  waits : x.2.2 = .pending → m.buf = [] ∧ m.frameRx = [] ∧ rx = true

lemma filled (m : MuxStream) (id : UInt32) (tx rx : Bool) :
    m.Filled id rx (m.pollFillBuf id tx rx) := by
  obtain hb | ⟨hb, hrx⟩ | ⟨next, rest, hb, hrx, hlt | hge⟩ := m.pollFillBuf_cases
  · rw [pollFillBuf_of_buf rx hb]
    refine ⟨rfl, fun _ hf => hf, rfl, rfl, by simp, ?_, ?_, by simp⟩
    · rintro buf ⟨⟩
      rfl
    · rintro h
      exact absurd (by simpa using h) hb
  · rw [pollFillBuf_of_empty rx hb hrx]
    cases rx
    · refine ⟨rfl, fun _ hf => hf, rfl, rfl, by simp, ?_, fun _ _ => ⟨hb, hrx, rfl⟩, by simp⟩
      rintro buf h
      simpa [hb] using h
    · exact ⟨rfl, fun _ hf => hf, rfl, rfl, by simp, by simp, by simp, fun _ => ⟨hb, hrx, rfl⟩⟩
  · rw [pollFillBuf_of_lt rx hb hrx hlt]
    refine ⟨by simp [hb, hrx], by simp +contextual [hrx], rfl, rfl, by simp, by simp, ?_, by simp⟩
    rintro ⟨⟩ hne
    exact absurd rfl (hne [] (by simp [hrx]))
  · rw [pollFillBuf_of_ge rx hb hrx hge]
    refine ⟨by simp [hb, hrx], by simp +contextual [hrx], rfl, rfl, ?_, by simp, ?_, by simp⟩
    · intro f hf
      simp only [List.mem_ite_nil_right, List.mem_singleton] at hf
      exact ⟨_, hf.2⟩
    · rintro ⟨⟩ hne
      exact absurd rfl (hne [] (by simp [hrx]))

end MuxStream

end Penguin.Mux
