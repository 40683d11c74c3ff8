import Penguin.Mux.Stream
import Penguin.Lib.Loop
import Penguin.Lib.Transition

/-!
Copying between a stream and something else.

`CopyBidirectional` is a future over a `MuxStream` and an `other` that is read through a buffer
and written to. One call of `poll` drives both directions as far as they go: what the stream
receives is written to `other`, and what `other` gives is pushed into the stream. Each direction
is a loop that stops where something is not ready.

`other` is whatever has the methods of `AsyncBufRead` and `AsyncWrite`. The methods it is called
with, those of the stream and their answers are recorded in the order of the calls.
-/

namespace Penguin.Mux

open Penguin.Lib.Loop

namespace Poll

variable {α β : Type}

def map (f : α → β) : Poll α → Poll β
  | .ready a => .ready (f a)
  | .pending => .pending

def isPending : Poll α → Bool
  | .ready _ => false
  | .pending => true

/-- The answer is an error. -/
def isErr {ε : Type} : Poll (Except ε α) → Bool
  | .ready (.error _) => true
  | _ => false

end Poll

/-- The methods of `AsyncBufRead` and `AsyncWrite`; a writer takes no more than it is given. -/
structure BufReadWrite (σ ε : Type) where
  pollFillBuf : σ → σ × Poll (Except ε Bytes)
  consume : σ → ℕ → σ
  pollWrite : σ → (buf : Bytes) → σ × Poll (Except ε (Fin (buf.length + 1)))
  pollFlush : σ → σ × Poll (Except ε Unit)
  pollShutdown : σ → σ × Poll (Except ε Unit)

inductive CopyError (ε : Type)
  | us (e : IoError)
  | other (e : ε)
  deriving DecidableEq, Repr

/-- What a direction asks for, with the answer. The bytes that are consumed are recorded too. -/
inductive Call (ε : Type)
  -- from the stream to `other`
  | fillUs (r : Poll Bytes)
  | write (buf : Bytes) (r : Poll (Except ε ℕ))
  | consumeUs (bytes : Bytes)
  | shutdown (r : Poll (Except ε Unit))
  -- from `other` to the stream
  | fillOther (r : Poll (Except ε Bytes))
  | flush (r : Poll (Except ε Unit))
  | permission (r : Poll (Except IoError Unit))
  | send (r : Except IoError Unit)
  | consumeOther (bytes : Bytes)
  | shutdownUs (r : Except IoError Unit)

/-- The bytes are counted in a `u64`: `+=` wraps around, and a build that checks for overflow panics
instead. -/
inductive ReadState
  | transferring (n : UInt64)
  | shuttingDown (n : UInt64)
  | done (n : UInt64)
  deriving DecidableEq, Repr

@[inherit_doc ReadState]
inductive WriteState
  | transferring (n : UInt64)
  | done (n : UInt64)
  deriving DecidableEq, Repr

structure CopyBidirectional (σ ε : Type) where
  flowId : UInt32
  us : MuxStream
  /-- The queue of outgoing frames takes frames. -/
  tx : Bool
  /-- The task still holds the sending half of the channel of the stream. -/
  rx : Bool
  other : σ
  readState : ReadState
  writeState : WriteState
  /-- History: the frames that were queued. -/
  sent : List Frame
  /-- History: the calls that were made. -/
  calls : List (Call ε)

namespace CopyBidirectional

variable {σ ε : Type}

/-! ### The calls -/

def fillUs (c : CopyBidirectional σ ε) : CopyBidirectional σ ε × Poll Bytes :=
  let x := c.us.pollFillBuf c.flowId c.tx c.rx
  ({ c with us := x.1, sent := c.sent ++ x.2.1, calls := c.calls ++ [.fillUs x.2.2] }, x.2.2)

def consumeUs (c : CopyBidirectional σ ε) (amt : ℕ) : CopyBidirectional σ ε :=
  { c with us := c.us.consume amt, calls := c.calls ++ [.consumeUs (c.us.buf.take amt)] }

def writeOther (o : BufReadWrite σ ε) (c : CopyBidirectional σ ε) (buf : Bytes) :
    CopyBidirectional σ ε × Poll (Except ε ℕ) :=
  let x := o.pollWrite c.other buf
  let r := x.2.map (Except.map Fin.val)
  ({ c with other := x.1, calls := c.calls ++ [.write buf r] }, r)

def shutdownOther (o : BufReadWrite σ ε) (c : CopyBidirectional σ ε) :
    CopyBidirectional σ ε × Poll (Except ε Unit) :=
  let x := o.pollShutdown c.other
  ({ c with other := x.1, calls := c.calls ++ [.shutdown x.2] }, x.2)

def fillOther (o : BufReadWrite σ ε) (c : CopyBidirectional σ ε) :
    CopyBidirectional σ ε × Poll (Except ε Bytes) :=
  let x := o.pollFillBuf c.other
  ({ c with other := x.1, calls := c.calls ++ [.fillOther x.2] }, x.2)

def flushOther (o : BufReadWrite σ ε) (c : CopyBidirectional σ ε) :
    CopyBidirectional σ ε × Poll (Except ε Unit) :=
  let x := o.pollFlush c.other
  ({ c with other := x.1, calls := c.calls ++ [.flush x.2] }, x.2)

/-- `other.consume(processed)`, after `other` has shown `buf`. -/
def consumeOther (o : BufReadWrite σ ε) (c : CopyBidirectional σ ε) (buf : Bytes) (amt : ℕ) :
    CopyBidirectional σ ε :=
  { c with other := o.consume c.other amt, calls := c.calls ++ [.consumeOther (buf.take amt)] }

def obtainWritePermission (c : CopyBidirectional σ ε) :
    CopyBidirectional σ ε × Poll (Except IoError Unit) :=
  let x := c.us.pollObtainWritePermission
  ({ c with us := x.1, calls := c.calls ++ [.permission x.2] }, x.2)

/-- `frame_tx.send(frame)` with a `Push` of `buf`. -/
def sendPush (c : CopyBidirectional σ ε) (buf : Bytes) :
    CopyBidirectional σ ε × Except IoError Unit :=
  if c.tx then
    ({ c with
      us := { c.us with written := c.us.written ++ buf }
      sent := c.sent ++ [Frame.newPush c.flowId buf]
      calls := c.calls ++ [.send (.ok ())] }, .ok ())
  else ({ c with calls := c.calls ++ [.send (.error .brokenPipe)] }, .error .brokenPipe)

def shutdownUs (c : CopyBidirectional σ ε) : CopyBidirectional σ ε × Except IoError Unit :=
  let x := c.us.shutdownInner c.flowId c.tx
  ({ c with us := x.1, sent := c.sent ++ x.2.1, calls := c.calls ++ [.shutdownUs x.2.2] }, x.2.2)

/-! ### The two directions -/

/-- How a direction stops: not yet, with an error, or with the number of bytes. -/
abbrev Stop (σ ε : Type) := CopyBidirectional σ ε × Poll (Except (CopyError ε) UInt64)

/-- The stream has ended: `other` is shut down. -/
def shutDown (o : BufReadWrite σ ε) (c : CopyBidirectional σ ε) (readAmt : UInt64) : Stop σ ε :=
  match c.shutdownOther o with
  | (c, .pending) => (c, .pending)
  | (c, .ready (.error e)) => (c, .ready (.error (.other e)))
  | (c, .ready (.ok ())) => ({ c with readState := .done readAmt }, .ready (.ok readAmt))

/-- The body of the loop of `poll_read_us`. -/
def readBody (o : BufReadWrite σ ε) (x : CopyBidirectional σ ε × UInt64) :
    (CopyBidirectional σ ε × UInt64) ⊕ Stop σ ε :=
  let readAmt := x.2
  match x.1.fillUs with
  | (c, .pending) => .inr (c, .pending)
  | (c, .ready newBuf) =>
    if newBuf = [] then .inr (shutDown o { c with readState := .shuttingDown readAmt } readAmt)
    else
      match c.writeOther o newBuf with
      | (c, .pending) => .inr (c, .pending)
      | (c, .ready (.error e)) => .inr (c, .ready (.error (.other e)))
      | (c, .ready (.ok processed)) =>
        let readAmt := readAmt + UInt64.ofNat processed
        .inl ({ c.consumeUs processed with readState := .transferring readAmt }, readAmt)

def pollReadUs (o : BufReadWrite σ ε) (fuel : ℕ) (c : CopyBidirectional σ ε) : Option (Stop σ ε) :=
  match c.readState with
  | .transferring readAmt => loop (readBody o) fuel (c, readAmt)
  | .shuttingDown readAmt => some (shutDown o c readAmt)
  | .done readAmt => some (c, .ready (.ok readAmt))

/-- `other` has nothing to read: what was written to it is flushed. -/
def flush (o : BufReadWrite σ ε) (c : CopyBidirectional σ ε) : Stop σ ε :=
  match c.flushOther o with
  | (c, .pending) => (c, .pending)
  | (c, .ready (.error e)) => (c, .ready (.error (.other e)))
  | (c, .ready (.ok ())) => (c, .pending)

/-- `other` has ended: the stream is shut down. -/
def finish (c : CopyBidirectional σ ε) (writtenAmt : UInt64) : Stop σ ε :=
  match c.shutdownUs with
  | (c, .error e) => (c, .ready (.error (.us e)))
  | (c, .ok ()) => ({ c with writeState := .done writtenAmt }, .ready (.ok writtenAmt))

/-- The body of the loop of `poll_write_us`. -/
def writeBody (o : BufReadWrite σ ε) (x : CopyBidirectional σ ε × UInt64) :
    (CopyBidirectional σ ε × UInt64) ⊕ Stop σ ε :=
  let writtenAmt := x.2
  match x.1.fillOther o with
  | (c, .pending) => .inr (c.flush o)
  | (c, .ready (.error e)) => .inr (c, .ready (.error (.other e)))
  | (c, .ready (.ok newBuf)) =>
    if newBuf = [] then .inr (c.finish writtenAmt)
    else
      match c.obtainWritePermission with
      | (c, .pending) => .inr (c, .pending)
      | (c, .ready (.error e)) => .inr (c, .ready (.error (.us e)))
      | (c, .ready (.ok ())) =>
        match c.sendPush newBuf with
        | (c, .error e) => .inr (c, .ready (.error (.us e)))
        | (c, .ok ()) =>
          let processed := newBuf.length
          let writtenAmt := writtenAmt + UInt64.ofNat processed
          .inl ({ c.consumeOther o newBuf processed with
            writeState := .transferring writtenAmt }, writtenAmt)

def pollWriteUs (o : BufReadWrite σ ε) (fuel : ℕ) (c : CopyBidirectional σ ε) :
    Option (Stop σ ε) :=
  match c.writeState with
  | .transferring writtenAmt => loop (writeBody o) fuel (c, writtenAmt)
  | .done writtenAmt => some (c, .ready (.ok writtenAmt))

/-- `Poll::Ready(Ok((ready!(r)?, ready!(w)?)))`. -/
def both : Poll (Except (CopyError ε) UInt64) → Poll (Except (CopyError ε) UInt64) →
    Poll (Except (CopyError ε) (UInt64 × UInt64))
  | .pending, _ => .pending
  | .ready (.error e), _ => .ready (.error e)
  | .ready (.ok _), .pending => .pending
  | .ready (.ok _), .ready (.error e) => .ready (.error e)
  | .ready (.ok n), .ready (.ok m) => .ready (.ok (n, m))

/-- One call of `poll`, in which neither loop makes more than `fuel` iterations. -/
def poll (o : BufReadWrite σ ε) (fuel : ℕ) (c : CopyBidirectional σ ε) :
    Option (CopyBidirectional σ ε × Poll (Except (CopyError ε) (UInt64 × UInt64))) := do
  let (c, r) ← c.pollReadUs o fuel
  let (c, w) ← c.pollWriteUs o fuel
  return (c, both r w)

/-! ### A copy and what happens around it -/

/-- A future that is polled until it is ready. -/
structure Session (σ ε : Type) where
  copy : CopyBidirectional σ ε
  /-- History: the bytes that came for the stream. -/
  received : Bytes
  outcome : Option (Except (CopyError ε) (UInt64 × UInt64))

/-- `into_copy_bidirectional_with_buf`. -/
def start (flowId : UInt32) (us : MuxStream) (tx rx : Bool) (other : σ) : Session σ ε where
  copy := {
    flowId := flowId, us := us, tx := tx, rx := rx, other := other
    readState := .transferring 0, writeState := .transferring 0, sent := [], calls := [] }
  received := us.buf ++ us.frameRx.flatten
  outcome := none

inductive Event (σ : Type)
  /-- The task dispatches a frame to the stream. -/
  | push (frame : Bytes)
  /-- The peer has finished: the task drops its half of the channel. -/
  | finish
  | acknowledge (n : UInt32)
  /-- The task closes the flow, for a `Reset` or at its end. -/
  | close
  /-- The task takes no more frames. -/
  | closeQueue
  /-- Something happens at `other`. -/
  | other (s : σ)
  | poll (fuel : ℕ)

/-- An empty frame is never dispatched; a future that is ready is not polled again. -/
def step (o : BufReadWrite σ ε) (s : Session σ ε) : Event σ → Option (Session σ ε)
  | .push frame =>
    if s.copy.rx ∧ frame ≠ [] then
      some { s with
        copy := { s.copy with us := { s.copy.us with frameRx := s.copy.us.frameRx ++ [frame] } }
        received := s.received ++ frame }
    else none
  | .finish => some { s with copy := { s.copy with rx := false } }
  | .acknowledge n =>
    some { s with copy := { s.copy with
      us := { s.copy.us with pshSendRemaining := s.copy.us.pshSendRemaining + n } } }
  | .close =>
    some { s with copy := { s.copy with
      us := { s.copy.us with finishSent := true }, rx := false } }
  | .closeQueue => some { s with copy := { s.copy with tx := false } }
  | .other t => some { s with copy := { s.copy with other := t } }
  | .poll fuel =>
    if s.outcome.isSome then none
    else
      match s.copy.poll o fuel with
      | some (c, .pending) => some { s with copy := c }
      | some (c, .ready r) => some { s with copy := c, outcome := some r }
      | none => none

/-! ### What an iteration can do -/

/-- The ways of an iteration of `poll_read_us`. -/
inductive Reads (o : BufReadWrite σ ε) (c : CopyBidirectional σ ε) (n : UInt64) :
    (CopyBidirectional σ ε × UInt64) ⊕ Stop σ ε → Prop
  | waits (hfill : c.fillUs.2 = .pending) : Reads o c n (.inr (c.fillUs.1, .pending))
  | ends (hfill : c.fillUs.2 = .ready []) :
      Reads o c n (.inr (shutDown o { c.fillUs.1 with readState := .shuttingDown n } n))
  | blocks {buf : Bytes} (hfill : c.fillUs.2 = .ready buf) (hne : buf ≠ [])
      (hwrite : (c.fillUs.1.writeOther o buf).2 = .pending) :
      Reads o c n (.inr ((c.fillUs.1.writeOther o buf).1, .pending))
  | fails {buf : Bytes} {e : ε} (hfill : c.fillUs.2 = .ready buf) (hne : buf ≠ [])
      (hwrite : (c.fillUs.1.writeOther o buf).2 = .ready (.error e)) :
      Reads o c n (.inr ((c.fillUs.1.writeOther o buf).1, .ready (.error (.other e))))
  | writes {buf : Bytes} {k : ℕ} (hfill : c.fillUs.2 = .ready buf) (hne : buf ≠ [])
      (hwrite : (c.fillUs.1.writeOther o buf).2 = .ready (.ok k)) :
      Reads o c n (.inl ({ (c.fillUs.1.writeOther o buf).1.consumeUs k with
        readState := .transferring (n + UInt64.ofNat k) }, n + UInt64.ofNat k))

lemma reads (o : BufReadWrite σ ε) (c : CopyBidirectional σ ε) (n : UInt64) :
    Reads o c n (readBody o (c, n)) := by
  simp only [readBody]
  split
  · rename_i c₁ hc
    obtain ⟨rfl, hfill⟩ := Prod.ext_iff.mp hc
    exact .waits hfill
  rename_i c₁ buf hc
  obtain ⟨rfl, hfill⟩ := Prod.ext_iff.mp hc
  split_ifs with hne
  · subst hne
    exact .ends hfill
  split
  · rename_i c₂ hw
    obtain ⟨rfl, hwrite⟩ := Prod.ext_iff.mp hw
    exact .blocks hfill hne hwrite
  · rename_i c₂ e hw
    obtain ⟨rfl, hwrite⟩ := Prod.ext_iff.mp hw
    exact .fails hfill hne hwrite
  · rename_i c₂ k hw
    obtain ⟨rfl, hwrite⟩ := Prod.ext_iff.mp hw
    exact .writes hfill hne hwrite

lemma readBody_of_ok {o : BufReadWrite σ ε} {c : CopyBidirectional σ ε} {n : UInt64} {k : ℕ}
    {buf : Bytes} (hfill : c.fillUs.2 = .ready buf) (hne : buf ≠ [])
    (hwrite : (c.fillUs.1.writeOther o buf).2 = .ready (.ok k)) :
    readBody o (c, n) = .inl ({ (c.fillUs.1.writeOther o buf).1.consumeUs k with
      readState := .transferring (n + UInt64.ofNat k) }, n + UInt64.ofNat k) := by
  have hr := reads o c n
  generalize readBody o (c, n) = x at hr ⊢
  cases hr with
  | waits hfill' => cases hfill.symm.trans hfill'
  | ends hfill' =>
      cases hfill.symm.trans hfill'
      exact absurd rfl hne
  | blocks hfill' _ hwrite' =>
      cases hfill.symm.trans hfill'
      cases hwrite.symm.trans hwrite'
  | fails hfill' _ hwrite' =>
      cases hfill.symm.trans hfill'
      cases hwrite.symm.trans hwrite'
  | writes hfill' _ hwrite' =>
      cases hfill.symm.trans hfill'
      cases hwrite.symm.trans hwrite'
      rfl

/-- The ways of an iteration of `poll_write_us`. -/
inductive Writes (o : BufReadWrite σ ε) (c : CopyBidirectional σ ε) (m : UInt64) :
    (CopyBidirectional σ ε × UInt64) ⊕ Stop σ ε → Prop
  | waits (hfill : (c.fillOther o).2 = .pending) :
      Writes o c m (.inr ((c.fillOther o).1.flush o))
  | fails {e : ε} (hfill : (c.fillOther o).2 = .ready (.error e)) :
      Writes o c m (.inr ((c.fillOther o).1, .ready (.error (.other e))))
  | ends (hfill : (c.fillOther o).2 = .ready (.ok [])) :
      Writes o c m (.inr ((c.fillOther o).1.finish m))
  | blocks {buf : Bytes} (hfill : (c.fillOther o).2 = .ready (.ok buf)) (hne : buf ≠ [])
      (hpermission : (c.fillOther o).1.obtainWritePermission.2 = .pending) :
      Writes o c m (.inr ((c.fillOther o).1.obtainWritePermission.1, .pending))
  | refused {buf : Bytes} {e : IoError} (hfill : (c.fillOther o).2 = .ready (.ok buf))
      (hne : buf ≠ []) (hpermission : (c.fillOther o).1.obtainWritePermission.2 = .ready (.error e)) :
      Writes o c m (.inr ((c.fillOther o).1.obtainWritePermission.1, .ready (.error (.us e))))
  | closed {buf : Bytes} {e : IoError} (hfill : (c.fillOther o).2 = .ready (.ok buf))
      (hne : buf ≠ []) (hpermission : (c.fillOther o).1.obtainWritePermission.2 = .ready (.ok ()))
      (hsend : ((c.fillOther o).1.obtainWritePermission.1.sendPush buf).2 = .error e) :
      Writes o c m (.inr (((c.fillOther o).1.obtainWritePermission.1.sendPush buf).1,
        .ready (.error (.us e))))
  | pushes {buf : Bytes} (hfill : (c.fillOther o).2 = .ready (.ok buf)) (hne : buf ≠ [])
      (hpermission : (c.fillOther o).1.obtainWritePermission.2 = .ready (.ok ()))
      (hsend : ((c.fillOther o).1.obtainWritePermission.1.sendPush buf).2 = .ok ()) :
      Writes o c m (.inl ({ ((c.fillOther o).1.obtainWritePermission.1.sendPush buf).1.consumeOther
        o buf buf.length with writeState := .transferring (m + UInt64.ofNat buf.length) },
        m + UInt64.ofNat buf.length))

lemma writes (o : BufReadWrite σ ε) (c : CopyBidirectional σ ε) (m : UInt64) :
    Writes o c m (writeBody o (c, m)) := by
  simp only [writeBody]
  split
  · rename_i c₁ hc
    obtain ⟨rfl, hfill⟩ := Prod.ext_iff.mp hc
    exact .waits hfill
  · rename_i c₁ e hc
    obtain ⟨rfl, hfill⟩ := Prod.ext_iff.mp hc
    exact .fails hfill
  rename_i c₁ buf hc
  obtain ⟨rfl, hfill⟩ := Prod.ext_iff.mp hc
  split_ifs with hne
  · subst hne
    exact .ends hfill
  split
  · rename_i c₂ hp
    obtain ⟨rfl, hpermission⟩ := Prod.ext_iff.mp hp
    exact .blocks hfill hne hpermission
  · rename_i c₂ e hp
    obtain ⟨rfl, hpermission⟩ := Prod.ext_iff.mp hp
    exact .refused hfill hne hpermission
  rename_i c₂ hp
  obtain ⟨rfl, hpermission⟩ := Prod.ext_iff.mp hp
  split
  · rename_i c₃ e hs
    obtain ⟨rfl, hsend⟩ := Prod.ext_iff.mp hs
    exact .closed hfill hne hpermission hsend
  · rename_i c₃ hs
    obtain ⟨rfl, hsend⟩ := Prod.ext_iff.mp hs
    exact .pushes hfill hne hpermission hsend

/-! ### The loop of `poll_read_us` -/

variable {o : BufReadWrite σ ε} {c : CopyBidirectional σ ε} {n : UInt64}

lemma writeOther_ok {buf : Bytes} {k : ℕ} (h : (c.writeOther o buf).2 = .ready (.ok k)) :
    k ≤ buf.length ∧ ((o.pollWrite c.other buf).2 = .ready (.ok 0) ↔ k = 0) := by
  simp only [writeOther] at h
  rcases hw : (o.pollWrite c.other buf).2 with (e | i) | _
  · simp [hw, Poll.map, Except.map] at h
  · simp only [hw, Poll.map, Except.map, Poll.ready.injEq, Except.ok.injEq] at h ⊢
    subst h
    exact ⟨Nat.lt_succ_iff.mp i.2, Fin.val_eq_zero_iff.symm⟩
  · simp [hw, Poll.map] at h

/-- What an iteration that writes `k` bytes leaves to be read. -/
lemma available_writes {buf : Bytes} {k : ℕ} (hfill : c.fillUs.2 = .ready buf)
    (hwrite : (c.fillUs.1.writeOther o buf).2 = .ready (.ok k)) :
    ((c.fillUs.1.writeOther o buf).1.consumeUs k).us.available + k = c.us.available := by
  have hf := c.us.filled c.flowId c.tx c.rx
  have hbuf : c.fillUs.1.us.buf = buf := hf.shown buf hfill
  have hk := (writeOther_ok hwrite).1
  have hlen : c.fillUs.1.us.available = c.us.available := congrArg List.length hf.bytes
  have hus : (c.fillUs.1.writeOther o buf).1.us = c.fillUs.1.us := rfl
  simp only [consumeUs, MuxStream.consume, MuxStream.available, hus, List.length_append,
    List.length_drop, hbuf] at hlen ⊢
  omega

end CopyBidirectional

namespace BufReadWrite

variable {σ ε : Type} {o : BufReadWrite σ ε} {s t : σ} {buf : Bytes} {rest : List Bytes}

/-- `other` after it was offered `buf` once more. -/
def offered (o : BufReadWrite σ ε) (buf : Bytes) (s : σ) : σ := (o.pollWrite s buf).1

/-- However often it is offered `buf`, the writer takes nothing and does not say so otherwise. -/
def Refuses (o : BufReadWrite σ ε) (s : σ) (buf : Bytes) : Prop :=
  ∀ i, (o.pollWrite ((o.offered buf)^[i] s) buf).2 = .ready (.ok 0)

/-- A writer that takes at least one byte when it takes any. -/
def Progresses (o : BufReadWrite σ ε) : Prop :=
  ∀ s buf, buf ≠ [] → (o.pollWrite s buf).2 ≠ .ready (.ok 0)

/-- What a reader is shown, piece by piece: what is left of a frame, and the frames behind it. -/
def pieces (buf : Bytes) (frames : List Bytes) : List Bytes :=
  if buf = [] then frames else buf :: frames

/-- The piece that a writer is offered when it has answered with `Ok` for `i` times, and the
writer then. An empty piece is the end of what there is to be read. -/
def offer (o : BufReadWrite σ ε) : ℕ → σ → List Bytes → Option (σ × Bytes)
  | 0, s, buf :: _ => if buf = [] then none else some (s, buf)
  | i + 1, s, buf :: rest =>
    if buf = [] then none
    else
      match (o.pollWrite s buf).2 with
      | .ready (.ok k) => o.offer i (o.offered buf s) (pieces (buf.drop k) rest)
      | _ => none
  | _, _, [] => none

lemma offer_zero (hne : buf ≠ []) : o.offer 0 s (buf :: rest) = some (s, buf) := by
  simp [offer, hne]

lemma offer_zero_eq {l : List Bytes} (h : o.offer 0 s l = some (t, buf)) :
    t = s ∧ buf ≠ [] ∧ ∃ rest, l = buf :: rest := by
  cases l with
  | nil => cases h
  | cons b rest =>
      simp only [offer] at h
      split_ifs at h with hb
      obtain ⟨rfl, rfl⟩ : s = t ∧ b = buf := by simpa using h
      exact ⟨rfl, hb, rest, rfl⟩

/-- Nothing empty is offered. -/
lemma offer_ne_nil {i : ℕ} {l : List Bytes} (h : o.offer i s l = some (t, buf)) : buf ≠ [] := by
  induction i generalizing s l with
  | zero => exact (offer_zero_eq h).2.1
  | succ i ih =>
      cases l with
      | nil => cases h
      | cons b rest =>
          simp only [offer] at h
          split_ifs at h
          split at h
          · exact ih h
          · cases h

lemma offer_succ {k : Fin (buf.length + 1)} (hne : buf ≠ [])
    (hwrite : (o.pollWrite s buf).2 = .ready (.ok k)) (i : ℕ) :
    o.offer (i + 1) s (buf :: rest) = o.offer i (o.offered buf s) (pieces (buf.drop k) rest) := by
  simp [offer, hne, hwrite]

lemma refuses_offered (h : o.Refuses s buf) : o.Refuses (o.offered buf s) buf := by
  intro i
  have := h (i + 1)
  rwa [Function.iterate_succ_apply] at this

end BufReadWrite

namespace CopyBidirectional

open BufReadWrite

variable {σ ε : Type} {o : BufReadWrite σ ε} {c : CopyBidirectional σ ε} {n : UInt64}

/-- What the stream has to be read, piece by piece. -/
def pieces (c : CopyBidirectional σ ε) : List Bytes := BufReadWrite.pieces c.us.buf c.us.frameRx

lemma fillUs_pieces {buf : Bytes} {rest : List Bytes} (h : c.pieces = buf :: rest) :
    c.fillUs.2 = .ready buf ∧ c.fillUs.1.us.buf = buf ∧ c.fillUs.1.us.frameRx = rest := by
  unfold pieces BufReadWrite.pieces at h
  split_ifs at h with hb
  · have hfill : (c.us.pollFillBuf c.flowId c.tx c.rx).2.2 = .ready buf ∧
        (c.us.pollFillBuf c.flowId c.tx c.rx).1.buf = buf ∧
        (c.us.pollFillBuf c.flowId c.tx c.rx).1.frameRx = rest := by
      by_cases hlt : c.us.pshRecvdSince + 1 < c.us.rwndThreshold
      · rw [MuxStream.pollFillBuf_of_lt c.rx hb h hlt]
        exact ⟨rfl, rfl, rfl⟩
      · rw [MuxStream.pollFillBuf_of_ge c.rx hb h (UInt32.not_lt.mp hlt)]
        exact ⟨rfl, rfl, rfl⟩
    exact hfill
  · obtain ⟨rfl, rfl⟩ : c.us.buf = buf ∧ c.us.frameRx = rest := by simpa using h
    simp only [fillUs, MuxStream.pollFillBuf_of_buf c.rx hb, and_self]

/-- There is a piece for every buffer that the stream shows. -/
lemma pieces_of_fillUs {buf : Bytes} (h : c.fillUs.2 = .ready buf) (hne : buf ≠ []) :
    ∃ rest, c.pieces = buf :: rest := by
  cases hp : c.pieces with
  | cons b rest =>
      obtain ⟨hfill, -⟩ := fillUs_pieces hp
      cases h.symm.trans hfill
      exact ⟨rest, rfl⟩
  | nil =>
      unfold pieces BufReadWrite.pieces at hp
      split_ifs at hp with hb
      simp only [fillUs, MuxStream.pollFillBuf_of_empty c.rx hb hp] at h
      split_ifs at h
      cases h
      exact absurd rfl hne

/-- The loop goes on from an answer of `Ok`. -/
lemma goes_of_ok {t : σ} {buf : Bytes} {k : Fin (buf.length + 1)}
    (hoffer : o.offer 0 c.other c.pieces = some (t, buf))
    (hwrite : (o.pollWrite t buf).2 = .ready (.ok k)) : ∃ x, readBody o (c, n) = .inl x := by
  obtain ⟨rfl, hne, rest, hp⟩ := offer_zero_eq hoffer
  obtain ⟨hfill, -⟩ := fillUs_pieces hp
  refine ⟨_, readBody_of_ok (k := k) hfill hne ?_⟩
  change ((o.pollWrite c.other buf).2).map _ = _
  rw [hwrite]
  rfl

/-- An iteration after which the loop goes on: `k` bytes of the first piece were taken. -/
structure Goes (o : BufReadWrite σ ε) (c c' : CopyBidirectional σ ε) (buf : Bytes)
    (rest : List Bytes) (k : Fin (buf.length + 1)) : Prop where
  pieces : c.pieces = buf :: rest
  ne : buf ≠ []
  write : (o.pollWrite c.other buf).2 = .ready (.ok k)
  other : c'.other = o.offered buf c.other
  left : c'.pieces = BufReadWrite.pieces (buf.drop k) rest
  available : c'.us.available + k = c.us.available

lemma goes {x : CopyBidirectional σ ε × UInt64} (h : readBody o (c, n) = .inl x) :
    ∃ buf rest k, Goes o c x.1 buf rest k := by
  have hr := reads o c n
  rw [h] at hr
  cases hr with
  | @writes buf k hfill hne hwrite =>
      have havail := available_writes hfill hwrite
      obtain ⟨rest, hp⟩ := pieces_of_fillUs hfill hne
      obtain ⟨-, hbuf, hrest⟩ := fillUs_pieces hp
      have hanswer : ((o.pollWrite c.other buf).2).map (Except.map Fin.val) = .ready (.ok k) := hwrite
      rcases hw : (o.pollWrite c.other buf).2 with (e | i) | _
      · rw [hw] at hanswer
        cases hanswer
      · rw [hw] at hanswer
        cases hanswer
        refine ⟨buf, rest, i, hp, hne, hw, rfl, ?_, havail⟩
        exact congrArg₂ BufReadWrite.pieces (congrArg (List.drop i) hbuf) hrest
      · rw [hw] at hanswer
        cases hanswer

lemma Goes.offer {c' : CopyBidirectional σ ε} {buf : Bytes} {rest : List Bytes}
    {k : Fin (buf.length + 1)} (h : Goes o c c' buf rest k) (i : ℕ) :
    o.offer i c'.other c'.pieces = o.offer (i + 1) c.other c.pieces := by
  rw [h.pieces, offer_succ h.ne h.write, h.other, h.left]

/-- Behind an answer that is not `Ok` nothing is offered. -/
lemma offer_of_stops {x : Stop σ ε} (h : readBody o (c, n) = .inr x) (i : ℕ) :
    o.offer (i + 1) c.other c.pieces = none := by
  cases hp : c.pieces with
  | nil => rfl
  | cons buf rest =>
      simp only [BufReadWrite.offer]
      split_ifs with hne
      · rfl
      split
      · rename_i k hwrite
        obtain ⟨y, hy⟩ := goes_of_ok (n := n) (by rw [hp, offer_zero hne]) hwrite
        rw [h] at hy
        cases hy
      · rfl

/-- The loop is left after finitely many iterations. -/
def Returns (o : BufReadWrite σ ε) (c : CopyBidirectional σ ε) (n : UInt64) : Prop :=
  ∃ fuel, (loop (readBody o) fuel (c, n)).isSome = true

lemma returns_of_inr {x : Stop σ ε} (h : readBody o (c, n) = .inr x) : Returns o c n :=
  ⟨1, by simp [loop_of_inr h]⟩

lemma returns_of_inl {x : CopyBidirectional σ ε × UInt64} (h : readBody o (c, n) = .inl x)
    (hx : Returns o x.1 x.2) : Returns o c n := by
  obtain ⟨fuel, hfuel⟩ := hx
  exact ⟨fuel + 1, by rwa [loop_of_inl h]⟩

/-- The loop is left in one of `i + 1` iterations if the last of them is not answered with `Ok`. -/
lemma isSome_loop_iff (i : ℕ) : (loop (readBody o) (i + 1) (c, n)).isSome = true ↔
    ∀ t buf k, o.offer i c.other c.pieces = some (t, buf) →
      (o.pollWrite t buf).2 ≠ .ready (.ok k) := by
  induction i generalizing c n with
  | zero =>
      rcases hb : readBody o (c, n) with x | x
      · obtain ⟨buf, rest, k, hx⟩ := goes hb
        rw [loop_of_inl hb]
        refine iff_of_false (by simp [loop]) fun h => h c.other buf k ?_ hx.write
        rw [hx.pieces, offer_zero hx.ne]
      · rw [loop_of_inr hb]
        refine iff_of_true rfl fun t buf k hoffer hwrite => ?_
        obtain ⟨y, hy⟩ := goes_of_ok (n := n) hoffer hwrite
        rw [hb] at hy
        cases hy
  | succ i ih =>
      rcases hb : readBody o (c, n) with x | x
      · obtain ⟨buf, rest, k, hx⟩ := goes hb
        rw [loop_of_inl hb, ih, hx.offer]
      · rw [loop_of_inr hb, offer_of_stops hb]
        exact iff_of_true rfl (by simp)

/-- Every iteration writes a byte, so there is one for each byte and the last one. -/
lemma isSome_loop_of_takes
    (ho : ∀ i t buf, o.offer i c.other c.pieces = some (t, buf) →
      (o.pollWrite t buf).2 ≠ .ready (.ok 0)) :
    (loop (readBody o) (c.us.available + 1) (c, n)).isSome = true := by
  refine loop_isSome (I := fun x => ∀ i t buf, o.offer i x.1.other x.1.pieces = some (t, buf) →
    (o.pollWrite t buf).2 ≠ .ready (.ok 0)) (fun x => x.1.us.available) ?_ ho
    (Nat.lt_succ_self _)
  rintro ⟨c, n⟩ x hc hb
  obtain ⟨buf, rest, k, hx⟩ := goes hb
  have hk : k.val ≠ 0 := by
    intro h0
    refine hc 0 c.other buf ?_ ?_
    · rw [show c.pieces = buf :: rest from hx.pieces, offer_zero hx.ne]
    · rw [hx.write, Fin.val_eq_zero_iff.mp h0]
  have havail := hx.available
  refine ⟨fun i t b h => hc (i + 1) t b ?_, ?_⟩
  · rw [← h, hx.offer]
  · change x.1.us.available < c.us.available
    omega

/-- A writer that takes nothing of a piece keeps the loop going. -/
lemma loop_of_refuses {fuel i : ℕ} {t : σ} {buf : Bytes}
    (hoffer : o.offer i c.other c.pieces = some (t, buf)) (h : o.Refuses t buf) :
    loop (readBody o) fuel (c, n) = none := by
  refine loop_eq_none (I := fun x => ∃ i t, o.offer i x.1.other x.1.pieces = some (t, buf) ∧
    o.Refuses t buf) ?_ ⟨i, t, hoffer, h⟩
  rintro ⟨c, n⟩ ⟨i, t, hoffer, h⟩
  cases i with
  | zero =>
      obtain ⟨x, hb⟩ := goes_of_ok (n := n) hoffer (h 0)
      obtain ⟨rfl, hne, rest, hp⟩ := offer_zero_eq hoffer
      obtain ⟨buf', rest', k, hx⟩ := goes hb
      refine ⟨x, hb, 0, o.offered buf c.other, ?_, refuses_offered h⟩
      -- the same bytes are offered once more
      have hzero : (o.pollWrite c.other buf).2 = .ready (.ok 0) := h 0
      rw [hx.offer, show c.pieces = buf :: rest from hp, offer_succ hne hzero]
      simp [BufReadWrite.pieces, hne, BufReadWrite.offer]
  | succ i =>
      rcases hb : readBody o (c, n) with x | x
      · obtain ⟨buf', rest, k, hx⟩ := goes hb
        exact ⟨x, rfl, i, t, (hx.offer i).trans hoffer, h⟩
      · rw [offer_of_stops hb] at hoffer
        cases hoffer

/-- No piece that the loop comes to offer is refused for ever. -/
def Accepted (o : BufReadWrite σ ε) (c : CopyBidirectional σ ε) : Prop :=
  ∀ i t buf, o.offer i c.other c.pieces = some (t, buf) → ¬ o.Refuses t buf

lemma Goes.accepted {c' : CopyBidirectional σ ε} {buf : Bytes} {rest : List Bytes}
    {k : Fin (buf.length + 1)} (h : Goes o c c' buf rest k) (hc : Accepted o c) :
    Accepted o c' := by
  intro i t b hoffer
  apply hc (i + 1) t b
  rw [← hoffer, h.offer]

/-- A writer that some time takes a byte of a piece, or says that it does not, gets the loop on. -/
lemma returns_of_takes {a : ℕ} {buf : Bytes} {rest : List Bytes}
    (ih : ∀ c n, c.us.available < a → Accepted o c → Returns o c n) (hc : Accepted o c)
    (hp : c.pieces = buf :: rest) (i : ℕ) (ha : c.us.available ≤ a)
    (hi : (o.pollWrite ((o.offered buf)^[i] c.other) buf).2 ≠ .ready (.ok 0)) :
    Returns o c n := by
  induction i generalizing c n with
  | zero =>
      rcases hb : readBody o (c, n) with x | x
      · obtain ⟨buf', rest', k, hx⟩ := goes hb
        obtain ⟨rfl, rfl⟩ : buf = buf' ∧ rest = rest' := by simpa using hp.symm.trans hx.pieces
        have hk : k.val ≠ 0 := by
          intro h0
          apply hi
          rw [Fin.val_eq_zero_iff.mp h0] at hx
          exact hx.write
        have havail := hx.available
        exact returns_of_inl hb (ih _ _ (by omega) (hx.accepted hc))
      · exact returns_of_inr hb
  | succ i ihi =>
      rcases hb : readBody o (c, n) with x | x
      · obtain ⟨buf', rest', k, hx⟩ := goes hb
        obtain ⟨rfl, rfl⟩ : buf = buf' ∧ rest = rest' := by simpa using hp.symm.trans hx.pieces
        have havail := hx.available
        by_cases hk : k.val = 0
        · -- the same bytes are offered once more
          refine returns_of_inl hb (ihi (hx.accepted hc) ?_ (by omega) ?_)
          · rw [hx.left, hk, List.drop_zero, BufReadWrite.pieces, if_neg hx.ne]
          · rw [hx.other]
            exact hi
        · exact returns_of_inl hb (ih _ _ (by omega) (hx.accepted hc))
      · exact returns_of_inr hb

lemma returns_of_accepted (hc : Accepted o c) : Returns o c n := by
  induction ha : c.us.available using Nat.strong_induction_on generalizing c n with
  | _ a ih =>
  rcases hb : readBody o (c, n) with x | x
  · obtain ⟨buf, rest, k, hx⟩ := goes hb
    obtain ⟨i, hi⟩ := not_forall.mp (hc 0 c.other buf (by rw [hx.pieces, offer_zero hx.ne]))
    exact returns_of_takes (fun c n hlt hc => ih _ hlt hc rfl) hc hx.pieces i ha.le hi
  · exact returns_of_inr hb

/-- A copy whose stream has `buf` to be read. -/
def holding (s : σ) (buf : Bytes) : CopyBidirectional σ ε where
  flowId := 1
  us := {
    frameRx := [], destHost := [], destPort := 0, finishSent := false, pshSendRemaining := 0
    pshRecvdSince := 0, buf := buf, rwndThreshold := 1, dropped := false, written := [], taken := [] }
  tx := true
  rx := true
  other := s
  readState := .transferring 0
  writeState := .transferring 0
  sent := []
  calls := []

/-- In a call of `poll_read_us`, `other` is offered `buf` in state `t` when it has answered with
`Ok` for `i` times. -/
def Offers (o : BufReadWrite σ ε) (c : CopyBidirectional σ ε) (i : ℕ) (t : σ) (buf : Bytes) : Prop :=
  (∃ n, c.readState = .transferring n) ∧ o.offer i c.other c.pieces = some (t, buf)

/-- **When `poll_read_us` returns**: exactly if no piece that `other` is offered in this call is
refused for ever by taking nothing of it. It does so within one iteration for each byte that is
available, and one more, exactly if what is offered in the last of them is not answered with `Ok`;
so it does if `other` never takes nothing in this call. -/
theorem poll_read_us_returns_iff (o : BufReadWrite σ ε) (c : CopyBidirectional σ ε) :
    ((∃ fuel, (c.pollReadUs o fuel).isSome = true) ↔
      ∀ i t buf, c.Offers o i t buf → ¬ o.Refuses t buf) ∧
    ((c.pollReadUs o (c.us.available + 1)).isSome = true ↔
      ∀ t buf k, c.Offers o c.us.available t buf → (o.pollWrite t buf).2 ≠ .ready (.ok k)) ∧
    ((∀ i t buf, c.Offers o i t buf → (o.pollWrite t buf).2 ≠ .ready (.ok 0)) →
      (c.pollReadUs o (c.us.available + 1)).isSome = true) := by
  cases hs : c.readState with
  | transferring n =>
      have hpoll : ∀ fuel, c.pollReadUs o fuel = loop (readBody o) fuel (c, n) := by
        intro fuel
        simp only [pollReadUs, hs]
      have hoffers : ∀ i t buf, c.Offers o i t buf ↔ o.offer i c.other c.pieces = some (t, buf) := by
        intro i t buf
        exact and_iff_right ⟨n, hs⟩
      simp only [hpoll, hoffers]
      refine ⟨⟨?_, returns_of_accepted⟩, isSome_loop_iff _, isSome_loop_of_takes⟩
      rintro ⟨fuel, hfuel⟩ i t buf hoffer href
      rw [loop_of_refuses hoffer href] at hfuel
      cases hfuel
  | shuttingDown n =>
      have hnone : ∀ i t buf, ¬ c.Offers o i t buf := by
        rintro i t buf ⟨⟨n, hn⟩, -⟩
        cases hs.symm.trans hn
      simp [pollReadUs, hs, hnone]
  | done n =>
      have hnone : ∀ i t buf, ¬ c.Offers o i t buf := by
        rintro i t buf ⟨⟨n, hn⟩, -⟩
        cases hs.symm.trans hn
      simp [pollReadUs, hs, hnone]

/-- A writer like a full fixed-size buffer: it always takes nothing. -/
def fullWriter : BufReadWrite Unit Unit where
  pollFillBuf s := (s, .pending)
  consume s _ := s
  pollWrite s _ := (s, .ready (.ok 0))
  pollFlush s := (s, .ready (.ok ()))
  pollShutdown s := (s, .ready (.ok ()))

/-- One byte for a full writer: no number of iterations is enough. -/
theorem poll_read_us_spins :
    ¬ ∃ fuel, ((holding () [0x41] : CopyBidirectional Unit Unit).pollReadUs fullWriter fuel).isSome
      = true := by
  rintro ⟨fuel, hfuel⟩
  have hnone : (holding () [0x41] : CopyBidirectional Unit Unit).pollReadUs fullWriter fuel = none :=
    loop_of_refuses (i := 0) (t := ()) rfl fun _ => rfl
  rw [hnone] at hfuel
  cases hfuel

end CopyBidirectional

end Penguin.Mux
