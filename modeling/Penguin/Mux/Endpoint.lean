import Penguin.Mux.Stream

/-!
The state of one multiplexor, and what its user can do with it.

The program keeps a map from flow ids to slots; handles, pending calls and bind requests
live outside it and share counters and channels with the slots. Here everything that
belongs to a flow id is stored under it: its slot, and lists of all handles, calls and bind
requests that were ever made for it, so that an index in such a list is the identity of the
object. The other channels of the program are lists.

Calls of `new_stream_channel` and `request_bind` are split at the points where other steps
can come between: a slot is inserted, then the frame is queued, then the answer is awaited,
and only there can the caller give up.
-/

namespace Penguin.Mux

structure Options where
  keepaliveInterval : Option ℕ
  datagramBufferSize : ℕ
  streamBufferSize : ℕ
  bindBufferSize : ℕ
  maxFlowIdRetries : ℕ
  rwnd : UInt32
  defaultRwndThreshold : UInt32
  -- what the setters of the builder assert
  datagramBufferSize_pos : 0 < datagramBufferSize
  streamBufferSize_pos : 0 < streamBufferSize
  maxFlowIdRetries_pos : 0 < maxFlowIdRetries
  rwnd_pos : 0 < rwnd
  defaultRwndThreshold_pos : 0 < defaultRwndThreshold

namespace Options

/-- `Options::new`. -/
def new : Options where
  keepaliveInterval := none
  datagramBufferSize := 512
  streamBufferSize := 16
  bindBufferSize := 0
  maxFlowIdRetries := 3
  rwnd := 512
  defaultRwndThreshold := 256
  datagramBufferSize_pos := by decide
  streamBufferSize_pos := by decide
  maxFlowIdRetries_pos := by decide
  rwnd_pos := by decide
  defaultRwndThreshold_pos := by decide

/-- The setter `Options::rwnd`. -/
def setRwnd (o : Options) (rwnd : UInt32) (h : 0 < rwnd) : Options :=
  { o with rwnd := rwnd, rwnd_pos := h }

end Options

inductive Error
  | sendStreamToClient
  | closed
  | unsupportedOperation
  | flowIdRejected
  | webSocket
  | datagramHostTooLong
  | invalidFrame (e : Fault)
  | connAckGone
  deriving DecidableEq, Repr

structure EstablishedStreamData where
  /-- The handle of the flow that shares the counters and reads the channel. -/
  stream : ℕ
  /-- `sender.is_some()`: the peer has not finished. -/
  sender : Bool
  deriving DecidableEq, Repr

inductive FlowSlot
  | requested (call : ℕ)
  | established (data : EstablishedStreamData)
  | bindRequested (call : ℕ)
  deriving DecidableEq, Repr

/-- Where a call of `new_stream_channel` or `request_bind` stands. -/
inductive Stage
  /-- The slot is in the map, the frame is not queued. -/
  | inserted
  | awaiting
  /-- `None` was received: the loop goes on, or ends with `FlowIdRejected`. -/
  | rejected
  | returned
  | cancelled
  deriving DecidableEq, Repr

/-- The receiving half of the oneshot channel is still there. -/
def Stage.listening : Stage → Bool
  | .inserted | .awaiting => true
  | _ => false

/-- One round of `new_stream_channel`. -/
structure StreamCall where
  host : Bytes
  port : UInt16
  retriesLeft : ℕ
  stage : Stage
  /-- What was sent on the oneshot channel: the new handle, or `None`. -/
  reply : Option (Option ℕ)
  deriving DecidableEq, Repr

structure BindCall where
  host : Bytes
  port : UInt16
  bindType : BindType
  stage : Stage
  reply : Option Bool
  deriving DecidableEq, Repr

/-- A `BindRequest` of the peer; its flow id is the key it is stored under. -/
structure BindRequest where
  payload : BindPayload
  dropped : Bool
  deriving DecidableEq, Repr

structure Datagram where
  flowId : UInt32
  targetHost : Bytes
  targetPort : UInt16
  data : Bytes
  deriving DecidableEq, Repr

/-- What goes through `dropped_ports`. The task reads the id alone; who sent it is kept for
stating what a notification does. -/
inductive Notice
  | multiplexor
  | stream (id : UInt32) (i : ℕ)
  deriving DecidableEq, Repr

/-- The id that is sent. -/
def Notice.id : Notice → UInt32
  | .multiplexor => 0
  | .stream id _ => id

/-- What `process_ws_next` is waiting to hand over when a queue is full. -/
inductive Blocked
  | stream (id : UInt32) (i : ℕ)
  | bind (id : UInt32) (i : ℕ)
  deriving DecidableEq, Repr

/-- Where the task stands: the select loop, or a point of `wind_down`. -/
inductive Phase
  | running
  | yielding (drain : Bool) (res : Except Error Unit)
  | draining (res : Except Error Unit)
  | closing (res : Except Error Unit)
  | reading (res : Except Error Unit)
  | finished (res : Except Error Unit)

def Phase.isRunning : Phase → Bool
  | .running => true
  | _ => false

lemma Phase.isRunning_iff {ph : Phase} : ph.isRunning = true ↔ ph = .running := by
  cases ph <;> simp [Phase.isRunning]

/-- `tx_frame_rx.close()` has not been called. -/
def Phase.isOpen : Phase → Bool
  | .running | .yielding _ _ => true
  | _ => false

def Phase.isFinished : Phase → Bool
  | .finished _ => true
  | _ => false

structure Endpoint where
  opts : Options
  flows : UInt32 → Option FlowSlot
  streams : UInt32 → List MuxStream
  calls : UInt32 → List StreamCall
  bindCalls : UInt32 → List BindCall
  binds : UInt32 → List BindRequest
  /-- The user has been given the handle, or the bind request. -/
  held : UInt32 → ℕ → Bool
  bindHeld : UInt32 → ℕ → Bool
  /-- The queue of finalized frames. -/
  txFrames : List Bytes
  droppedPorts : List Notice
  conRecvStream : List (UInt32 × ℕ)
  datagrams : List Datagram
  bndRequests : List (UInt32 × ℕ)
  /-- The `Multiplexor` has not been dropped, so its receivers are there. -/
  muxAlive : Bool
  blocked : Option Blocked
  phase : Phase

namespace Endpoint

/-- `Multiplexor::new`. -/
def new (opts : Options) : Endpoint where
  opts := opts
  flows _ := none
  streams _ := []
  calls _ := []
  bindCalls _ := []
  binds _ := []
  held _ _ := false
  bindHeld _ _ := false
  txFrames := []
  droppedPorts := []
  conRecvStream := []
  datagrams := []
  bndRequests := []
  muxAlive := true
  blocked := none
  phase := .running

/-! ### Small steps -/

/-- The queue still takes frames. -/
abbrev txOpen (E : Endpoint) : Bool := E.phase.isOpen

/-- `finalize`. Only the frames that `Vec::from` encodes without a panic are ever queued. -/
def finalize (f : Frame) : Bytes :=
  match f.toVec with
  | .ok bytes => bytes
  | .error _ => []

/-- `tx_frame_tx.send(..)`; it fails, and nothing is queued, once the queue is closed. -/
def send (E : Endpoint) (f : Frame) : Endpoint :=
  if E.txOpen then { E with txFrames := E.txFrames ++ [finalize f] } else E

@[simp] lemma opts_send {E : Endpoint} (f : Frame) : (E.send f).opts = E.opts := by
  unfold send
  split_ifs <;> rfl

@[simp] lemma flows_send {E : Endpoint} (f : Frame) : (E.send f).flows = E.flows := by
  unfold send
  split_ifs <;> rfl

@[simp] lemma streams_send {E : Endpoint} (f : Frame) : (E.send f).streams = E.streams := by
  unfold send
  split_ifs <;> rfl

@[simp] lemma phase_send {E : Endpoint} (f : Frame) : (E.send f).phase = E.phase := by
  unfold send
  split_ifs <;> rfl

def setSlot (E : Endpoint) (id : UInt32) (slot : Option FlowSlot) : Endpoint :=
  { E with flows := Function.update E.flows id slot }

def modifyStream (E : Endpoint) (id : UInt32) (i : ℕ) (f : MuxStream → MuxStream) : Endpoint :=
  { E with streams := Function.update E.streams id ((E.streams id).modify i f) }

def modifyCall (E : Endpoint) (id : UInt32) (j : ℕ) (f : StreamCall → StreamCall) : Endpoint :=
  { E with calls := Function.update E.calls id ((E.calls id).modify j f) }

def modifyBindCall (E : Endpoint) (id : UInt32) (j : ℕ) (f : BindCall → BindCall) : Endpoint :=
  { E with bindCalls := Function.update E.bindCalls id ((E.bindCalls id).modify j f) }

def modifyBind (E : Endpoint) (id : UInt32) (i : ℕ) (f : BindRequest → BindRequest) : Endpoint :=
  { E with binds := Function.update E.binds id ((E.binds id).modify i f) }

/-- The user comes into possession of a handle. -/
def hold (E : Endpoint) (id : UInt32) (i : ℕ) : Endpoint :=
  { E with held := Function.update E.held id (Function.update (E.held id) i true) }

def holdBind (E : Endpoint) (id : UInt32) (i : ℕ) : Endpoint :=
  { E with bindHeld := Function.update E.bindHeld id (Function.update (E.bindHeld id) i true) }

/-- `Drop for MuxStream`. A handle is dropped once; the notification is lost after the task
has ended. -/
def dropStream (E : Endpoint) (id : UInt32) (i : ℕ) : Endpoint :=
  match (E.streams id)[i]? with
  | some m =>
    if m.dropped then E
    else
      { E.modifyStream id i (fun m => { m with dropped := true, frameRx := [], buf := [] }) with
        droppedPorts := if E.phase.isFinished then E.droppedPorts
          else E.droppedPorts ++ [.stream id i] }
  | none => E

@[simp] lemma flows_dropStream {E : Endpoint} (id : UInt32) (i : ℕ) :
    (E.dropStream id i).flows = E.flows := by
  unfold dropStream
  split
  · split_ifs <;> rfl
  · rfl

/-- `BindRequest::reply`. -/
def reply (E : Endpoint) (id : UInt32) (accepted : Bool) : Endpoint :=
  E.send (if accepted then Frame.newFinish id else Frame.newReset id)

/-- `Drop for BindRequest`: dropping a request rejects it. -/
def dropBind (E : Endpoint) (id : UInt32) (i : ℕ) : Endpoint :=
  match (E.binds id)[i]? with
  | some b =>
    if b.dropped then E
    else (E.modifyBind id i fun b => { b with dropped := true }).reply id false
  | none => E

/-- The task still holds the sending half of the channel of handle `i`. -/
def senderAlive (E : Endpoint) (id : UInt32) (i : ℕ) : Bool :=
  E.flows id = some (.established ⟨i, true⟩)

/-- The user has the handle and has not dropped it. -/
def owns (E : Endpoint) (id : UInt32) (i : ℕ) : Option MuxStream :=
  match (E.streams id)[i]? with
  | some m => if E.held id i && !m.dropped then some m else none
  | none => none

/-! ### Calls of the user -/

/-- The ids `next_available_key` can return: not zero, not the largest, not in the map. -/
def keyAvailable (E : Endpoint) (id : UInt32) : Bool :=
  1 ≤ id && id < 0xFFFFFFFF && (E.flows id).isNone

/-- The first half of a round of `new_stream_channel`: the slot is inserted. -/
def insertRequested (E : Endpoint) (id : UInt32) (host : Bytes) (port : UInt16)
    (retriesLeft : ℕ) : Endpoint :=
  { E.setSlot id (some (.requested (E.calls id).length)) with
    calls := Function.update E.calls id
      (E.calls id ++ [⟨host, port, retriesLeft, .inserted, none⟩]) }

/-- `new_stream_channel` up to the insertion of its first slot, with the flow id drawn. -/
def newStreamChannel (E : Endpoint) (id : UInt32) (host : Bytes) (port : UInt16) :
    Option Endpoint :=
  if E.muxAlive && E.keyAvailable id then
    some (E.insertRequested id host port (E.opts.maxFlowIdRetries - 1))
  else none

/-- The `Connect` is queued; if the queue is closed the call returns `Closed`, and its slot
stays where it is. A stream that has been sent to the call is dropped with the receiver. -/
def sendConnect (E : Endpoint) (id : UInt32) (j : ℕ) : Option Endpoint :=
  match (E.calls id)[j]? with
  | some c =>
    if c.stage = .inserted then
      if E.txOpen then
        some ((E.modifyCall id j fun c => { c with stage := .awaiting }).send
          (Frame.newConnect c.host c.port id E.opts.rwnd))
      else
        let E := E.modifyCall id j fun c => { c with stage := .returned }
        match c.reply with
        | some (some i) => some (E.dropStream id i)
        | _ => some E
    else none
  | none => none

/-- `stream_rx.await` completes: with the stream, with `None`, or because the sender is
gone. -/
def awaitStream (E : Endpoint) (id : UInt32) (j : ℕ) : Option Endpoint :=
  match (E.calls id)[j]? with
  | some c =>
    if c.stage = .awaiting then
      match c.reply with
      | some (some i) => some ((E.modifyCall id j fun c => { c with stage := .returned }).hold id i)
      | some none => some (E.modifyCall id j fun c => { c with stage := .rejected })
      | none =>
        if E.flows id = some (.requested j) then none
        else some (E.modifyCall id j fun c => { c with stage := .returned })
    else none
  | none => none

/-- The loop of `new_stream_channel` goes round with a new flow id. -/
def retryStream (E : Endpoint) (id : UInt32) (j : ℕ) (id' : UInt32) : Option Endpoint :=
  match (E.calls id)[j]? with
  | some c =>
    if c.stage = .rejected && 0 < c.retriesLeft && E.keyAvailable id' then
      some ((E.modifyCall id j fun c => { c with stage := .returned }).insertRequested id'
        c.host c.port (c.retriesLeft - 1))
    else none
  | none => none

/-- The future of `new_stream_channel` is dropped at its await point, and with it the
stream if one has been sent. -/
def cancelStream (E : Endpoint) (id : UInt32) (j : ℕ) : Option Endpoint :=
  match (E.calls id)[j]? with
  | some c =>
    if c.stage = .awaiting then
      let E := E.modifyCall id j fun c => { c with stage := .cancelled }
      match c.reply with
      | some (some i) => some (E.dropStream id i)
      | _ => some E
    else none
  | none => none

def requestBind (E : Endpoint) (id : UInt32) (host : Bytes) (port : UInt16)
    (bindType : BindType) : Option Endpoint :=
  if E.muxAlive && E.keyAvailable id then
    some { E.setSlot id (some (.bindRequested (E.bindCalls id).length)) with
      bindCalls := Function.update E.bindCalls id
        (E.bindCalls id ++ [⟨host, port, bindType, .inserted, none⟩]) }
  else none

def sendBind (E : Endpoint) (id : UInt32) (j : ℕ) : Option Endpoint :=
  match (E.bindCalls id)[j]? with
  | some c =>
    if c.stage = .inserted then
      if E.txOpen then
        some ((E.modifyBindCall id j fun c => { c with stage := .awaiting }).send
          (Frame.newBind id c.bindType c.host c.port))
      else some (E.modifyBindCall id j fun c => { c with stage := .returned })
    else none
  | none => none

def awaitBind (E : Endpoint) (id : UInt32) (j : ℕ) : Option Endpoint :=
  match (E.bindCalls id)[j]? with
  | some c =>
    if c.stage = .awaiting && (c.reply.isSome || E.flows id ≠ some (.bindRequested j)) then
      some (E.modifyBindCall id j fun c => { c with stage := .returned })
    else none
  | none => none

def cancelBind (E : Endpoint) (id : UInt32) (j : ℕ) : Option Endpoint :=
  match (E.bindCalls id)[j]? with
  | some c =>
    if c.stage = .awaiting then
      some (E.modifyBindCall id j fun c => { c with stage := .cancelled })
    else none
  | none => none

def acceptStreamChannel (E : Endpoint) : Option Endpoint :=
  match E.conRecvStream with
  | (id, i) :: rest => some ({ E with conRecvStream := rest }.hold id i)
  | [] => none

def getDatagram (E : Endpoint) : Option Endpoint :=
  match E.datagrams with
  | _ :: rest => some { E with datagrams := rest }
  | [] => none

def sendDatagram (E : Endpoint) (d : Datagram) : Endpoint × Except Error Unit :=
  if 255 < d.targetHost.length then (E, .error .datagramHostTooLong)
  else if E.txOpen then
    (E.send (Frame.newDatagramOwned d.flowId d.targetHost d.targetPort d.data), .ok ())
  else (E, .error .closed)

def nextBindRequest (E : Endpoint) : Option Endpoint :=
  match E.bndRequests with
  | (id, i) :: rest => some ({ E with bndRequests := rest }.holdBind id i)
  | [] => none

/-- The user has the bind request and has not dropped it. -/
def ownsBind (E : Endpoint) (id : UInt32) (i : ℕ) : Bool :=
  match (E.binds id)[i]? with
  | some b => E.bindHeld id i && !b.dropped
  | none => false

/-- `Drop for Multiplexor`, then the drop of the receivers it owns and of what is queued in
them. In the program no call is in progress then, since calls borrow the `Multiplexor`; the
model does not ask for that. -/
def dropMux (E : Endpoint) : Endpoint :=
  let notices := if E.phase.isFinished then E.droppedPorts else E.droppedPorts ++ [.multiplexor]
  let E₀ := { E with
    droppedPorts := notices, muxAlive := false, datagrams := [], conRecvStream := [],
    bndRequests := [] }
  let E₁ := E.conRecvStream.foldl (fun E p => E.dropStream p.1 p.2) E₀
  E.bndRequests.foldl (fun E p => E.dropBind p.1 p.2) E₁

/-! ### Operations on a handle -/

/-- Put back what an operation of a handle made of it, and queue what it sent. -/
def update (E : Endpoint) (id : UInt32) (i : ℕ) (m : MuxStream) (sent : List Frame) : Endpoint :=
  sent.foldl send (E.modifyStream id i fun _ => m)

def pollWrite (E : Endpoint) (id : UInt32) (i : ℕ) (buf : Bytes) :
    Option (Endpoint × Poll (Except IoError ℕ)) :=
  (E.owns id i).map fun m =>
    let (m, sent, r) := m.pollWrite id E.txOpen buf
    (E.update id i m sent, r)

def pollShutdown (E : Endpoint) (id : UInt32) (i : ℕ) :
    Option (Endpoint × Except IoError Unit) :=
  (E.owns id i).map fun m =>
    let (m, sent, r) := m.shutdownInner id E.txOpen
    (E.update id i m sent, r)

def pollFillBuf (E : Endpoint) (id : UInt32) (i : ℕ) : Option (Endpoint × Poll Bytes) :=
  (E.owns id i).map fun m =>
    let (m, sent, r) := m.pollFillBuf id E.txOpen (E.senderAlive id i)
    (E.update id i m sent, r)

/-- `consume` panics beyond the end of the buffer. -/
def consume (E : Endpoint) (id : UInt32) (i : ℕ) (amt : ℕ) : Option Endpoint :=
  (E.owns id i).bind fun m =>
    if amt ≤ m.buf.length then some (E.update id i (m.consume amt) []) else none

def pollRead (E : Endpoint) (id : UInt32) (i : ℕ) (remaining : ℕ) :
    Option (Endpoint × Poll Bytes) :=
  (E.owns id i).map fun m =>
    let (m, sent, r) := m.pollRead id E.txOpen (E.senderAlive id i) remaining
    (E.update id i m sent, r)

/-! ### Frames on the wire -/

lemma finalize_eq {f : Frame} {bytes : Bytes} (h : f.toVec = .ok bytes) : finalize f = bytes := by
  rw [finalize, h]

/-- What a datagram that `send_datagram` accepts adds to the queue. -/
lemma sendDatagram_ok {E : Endpoint} {d : Datagram} (h : (E.sendDatagram d).2 = .ok ()) :
    d.targetHost.length ≤ 255 ∧ (E.sendDatagram d).1.txFrames = E.txFrames ++
      [finalize (Frame.newDatagramOwned d.flowId d.targetHost d.targetPort d.data)] := by
  unfold sendDatagram at h ⊢
  split_ifs at h ⊢ with hlong hopen
  exact ⟨Nat.not_lt.mp hlong, by simp [send, hopen]⟩

/-- **The codec**: encoding is total, with the estimated length, on the frames the program
makes, and the decoder gives a frame back exactly when it is not a datagram with fewer than
four bytes of data. So the peer refuses just those of the datagrams that `send_datagram`
accepts. -/
theorem codec_round_trip_iff (f : Frame) (hfits : f.payload.HostFits) :
    (∃ bytes, f.toVec = .ok bytes ∧ bytes.length = 5 + f.payload.len) ∧
    (f.RoundTrips ↔ ¬ f.payload.ShortDatagram) ∧
    ∀ (E : Endpoint) (d : Datagram), (E.sendDatagram d).2 = .ok () →
      ∃ bytes, (E.sendDatagram d).1.txFrames = E.txFrames ++ [bytes] ∧
        (Frame.tryFrom bytes =
          .ok (Frame.newDatagramOwned d.flowId d.targetHost d.targetPort d.data) ↔
        4 ≤ d.data.length) := by
  refine ⟨Frame.toVec_length hfits, Frame.roundTrips_iff hfits, fun E d hok => ?_⟩
  clear hfits f
  obtain ⟨hhost, hqueued⟩ := sendDatagram_ok hok
  set f := Frame.newDatagramOwned d.flowId d.targetHost d.targetPort d.data
  have hfits : f.payload.HostFits := hhost
  have hshort : f.payload.ShortDatagram ↔ d.data.length < 4 := Iff.rfl
  obtain ⟨bytes, hbytes, hlen⟩ := Frame.toVec_length hfits
  refine ⟨bytes, by rw [hqueued, finalize_eq hbytes], ?_⟩
  rw [← Nat.not_lt, ← hshort, ← Frame.roundTrips_iff hfits]
  constructor
  · exact fun hback => ⟨bytes, hbytes, hlen, hback⟩
  · rintro ⟨bytes', hbytes', -, hback⟩
    rwa [Except.ok.inj (hbytes.symm.trans hbytes')]

/-- A datagram with four bytes of data, which gets through. -/
theorem codec_round_trip_four_bytes :
    (Frame.newDatagramOwned 1 [104] 53 [1, 2, 3, 4]).RoundTrips ∧
    ∃ bytes, ((new Options.new).sendDatagram ⟨1, [104], 53, [1, 2, 3, 4]⟩).1.txFrames = [bytes] ∧
      Frame.tryFrom bytes = .ok (Frame.newDatagramOwned 1 [104] 53 [1, 2, 3, 4]) := by
  have hfits : (Frame.newDatagramOwned 1 [104] 53 [1, 2, 3, 4]).payload.HostFits := by
    change [(104 : UInt8)].length ≤ 255
    decide
  obtain ⟨-, htrip, hsent⟩ := codec_round_trip_iff _ hfits
  obtain ⟨bytes, hbytes, hback⟩ := hsent (new Options.new) ⟨1, [104], 53, [1, 2, 3, 4]⟩ rfl
  exact ⟨htrip.mpr (by decide), bytes, hbytes, hback.mpr (by decide)⟩

/-- A datagram without data is accepted by `send_datagram`, and refused by the decoder of the
peer. -/
theorem empty_datagram_rejected :
    ((new Options.new).sendDatagram ⟨1, [104], 53, []⟩).2 = .ok () ∧
    (∃ bytes, ((new Options.new).sendDatagram ⟨1, [104], 53, []⟩).1.txFrames = [bytes] ∧
      Frame.tryFrom bytes = .error (.err .frameTooShort)) ∧
    ¬ (Frame.newDatagramOwned 1 [104] 53 []).RoundTrips := by
  have hfits : (Frame.newDatagramOwned 1 [104] 53 []).payload.HostFits := by
    change [(104 : UInt8)].length ≤ 255
    decide
  refine ⟨rfl, ⟨_, rfl, by decide +kernel⟩, ?_⟩
  rw [Frame.roundTrips_iff hfits]
  decide

end Endpoint

end Penguin.Mux
