import Penguin.Mux.Endpoint

/-!
The multiplexor task: what it does with a message, with a dropped handle, and at the end.

The functions carry the names of the methods of `Task`. Those that the program writes as
`async` return a `Poll`: a task that has to wait for room in one of the queues of the
`Multiplexor` stores what it is waiting to hand over in `blocked` and is pending.
-/

namespace Penguin.Mux

inductive Message
  | binary (data : Bytes)
  | ping
  | pong
  | close
  deriving DecidableEq, Repr

inductive TrySendError
  | full
  | closed
  deriving DecidableEq, Repr

/-- `EstablishedStreamData::acknowledge`: `fetch_add` wraps around. -/
def MuxStream.acknowledge (m : MuxStream) (acknowledged : UInt32) : MuxStream :=
  { m with pshSendRemaining := m.pshSendRemaining + acknowledged }

/-- `EstablishedStreamData::disallow_write`. -/
def MuxStream.disallowWrite (m : MuxStream) : MuxStream := { m with finishSent := true }

/-- `oneshot::Sender::send`, which fails if the receiver is gone. -/
def StreamCall.answer (r : Option ℕ) (c : StreamCall) : StreamCall :=
  if c.stage.listening then { c with reply := some r } else c

def BindCall.answer (r : Bool) (c : BindCall) : BindCall :=
  if c.stage.listening then { c with reply := some r } else c

/-- `new_stream_shared`: the new handle, whose counters the slot shares. -/
def newStreamShared (opts : Options) (peerRwnd : UInt32) (destHost : Bytes) (destPort : UInt16) :
    MuxStream where
  frameRx := []
  destHost := destHost
  destPort := destPort
  finishSent := false
  pshSendRemaining := peerRwnd
  pshRecvdSince := 0
  buf := []
  rwndThreshold := min opts.defaultRwndThreshold peerRwnd
  dropped := false
  written := []
  taken := []

namespace Endpoint

/-! ### Closing -/

/-- EOF the local end, and wake up the writer. The sender of an established slot goes away
with the slot. -/
def closePortLocal (E : Endpoint) (removed : FlowSlot) (id : UInt32) (inhibitRst : Bool) :
    Endpoint :=
  match removed with
  | .established d =>
    let finishSent := (E.streams id)[d.stream]?.any (·.finishSent)
    let E := E.modifyStream id d.stream MuxStream.disallowWrite
    if !finishSent && !inhibitRst then E.send (Frame.newReset id) else E
  | .requested j => E.modifyCall id j (StreamCall.answer none)
  | .bindRequested j => E.modifyBindCall id j (BindCall.answer false)

def closePort (E : Endpoint) (id : UInt32) (inhibitRst : Bool) : Endpoint :=
  match E.flows id with
  | some removed => (E.setSlot id none).closePortLocal removed id inhibitRst
  | none => E

/-! ### New streams -/

/-- A new handle of the flow; its index is the number of handles before it. -/
def addStream (E : Endpoint) (id : UInt32) (m : MuxStream) : Endpoint :=
  { E with streams := Function.update E.streams id (E.streams id ++ [m]) }

/-- `con_recv_stream_tx.send(stream).await`. -/
def sendStream (E : Endpoint) (id : UInt32) (i : ℕ) : Endpoint × Poll (Except Error Unit) :=
  if !E.muxAlive then (E.dropStream id i, .ready (.error .sendStreamToClient))
  else if E.conRecvStream.length < E.opts.streamBufferSize then
    ({ E with conRecvStream := E.conRecvStream ++ [(id, i)] }, .ready (.ok ()))
  else ({ E with blocked := some (.stream id i) }, .pending)

def conRecvNewStream (E : Endpoint) (id : UInt32) (destHost : Bytes) (destPort : UInt16)
    (peerRwnd : UInt32) : Endpoint × Poll (Except Error Unit) :=
  if (E.flows id).isSome then (E.send (Frame.newReset id), .ready (.ok ()))
  else
    let i := (E.streams id).length
    let E := E.addStream id (newStreamShared E.opts peerRwnd destHost destPort)
    let E := E.setSlot id (some (.established ⟨i, true⟩))
    if E.txOpen then (E.send (Frame.newAcknowledge id E.opts.rwnd)).sendStream id i
    -- the handle is dropped on the way out, its slot stays
    else (E.dropStream id i, .ready (.error .closed))

def ackRecvNewStream (E : Endpoint) (id : UInt32) (peerRwnd : UInt32) :
    Endpoint × Except Error Unit :=
  let slot := E.flows id
  let i := (E.streams id).length
  let E := E.addStream id (newStreamShared E.opts peerRwnd [] 0)
  match slot with
  | some (.requested j) =>
    let listening := (E.calls id)[j]?.any (·.stage.listening)
    let E := E.setSlot id (some (.established ⟨i, true⟩))
    if listening then (E.modifyCall id j (StreamCall.answer (some i)), .ok ())
    else (E.dropStream id i, .error .sendStreamToClient)
  | _ => (E.dropStream id i, .error .connAckGone)

/-! ### Frames and messages -/

/-- `FlowSlot::dispatch` on the slot of a flow; `None` if there is nothing to send to. -/
def dispatch (E : Endpoint) (id : UInt32) (data : Bytes) :
    Endpoint × Option (Except TrySendError Unit) :=
  match E.flows id with
  | some (.established ⟨i, true⟩) =>
    match (E.streams id)[i]? with
    | some m =>
      if m.dropped then (E, some (.error .closed))
      else if m.frameRx.length < E.opts.rwnd.toNat then
        (E.modifyStream id i fun m => { m with frameRx := m.frameRx ++ [data] }, some (.ok ()))
      else (E, some (.error .full))
    | none => (E, none)
  | _ => (E, none)

/-- `sender.send(request).await`; a request that cannot be handed over is dropped. -/
def sendBindRequest (E : Endpoint) (id : UInt32) (i : ℕ) : Endpoint × Poll (Except Error Unit) :=
  if !E.muxAlive then (E.dropBind id i, .ready (.ok ()))
  else if E.bndRequests.length < E.opts.bindBufferSize then
    ({ E with bndRequests := E.bndRequests ++ [(id, i)] }, .ready (.ok ()))
  else ({ E with blocked := some (.bind id i) }, .pending)

def addBind (E : Endpoint) (id : UInt32) (payload : BindPayload) : Endpoint :=
  { E with binds := Function.update E.binds id (E.binds id ++ [⟨payload, false⟩]) }

def processFrame (E : Endpoint) (frame : Frame) (ignoreBind : Bool) :
    Endpoint × Poll (Except Error Unit) :=
  let id := frame.id
  match frame.payload with
  | .connect p => E.conRecvNewStream id p.targetHost p.targetPort p.rwnd
  | .acknowledge n =>
    match E.flows id with
    | some (.established d) => (E.modifyStream id d.stream (·.acknowledge n), .ready (.ok ()))
    | some (.requested _) =>
      let (E, r) := E.ackRecvNewStream id n
      (E, .ready r)
    | some (.bindRequested _) => (E.send (Frame.newReset id), .ready (.ok ()))
    | none => (E.send (Frame.newReset id), .ready (.ok ()))
  | .finish =>
    match E.flows id with
    | none => (E.send (Frame.newReset id), .ready (.ok ()))
    | some (.bindRequested j) =>
      ((E.setSlot id none).modifyBindCall id j (BindCall.answer true), .ready (.ok ()))
    -- the sender of the waiting call is dropped with the slot
    | some (.requested _) => ((E.setSlot id none).send (Frame.newReset id), .ready (.ok ()))
    | some (.established d) =>
      (E.setSlot id (some (.established { d with sender := false })), .ready (.ok ()))
  | .reset => (E.closePort id true, .ready (.ok ()))
  | .push data =>
    match E.dispatch id data with
    | (E, some (.ok ())) => (E, .ready (.ok ()))
    | (E, some (.error .full)) => (E.closePort id false, .ready (.ok ()))
    | (E, some (.error .closed)) => (E, .ready (.ok ()))
    | (E, none) => (E.send (Frame.newReset id), .ready (.ok ()))
  | .bind p =>
    if E.opts.bindBufferSize = 0 then (E.send (Frame.newReset id), .ready (.ok ()))
    else if ignoreBind then (E, .ready (.ok ()))
    else (E.addBind id p).sendBindRequest id (E.binds id).length
  | .datagram p =>
    if !E.muxAlive then (E, .ready (.error .closed))
    else if E.datagrams.length < E.opts.datagramBufferSize then
      ({ E with datagrams := E.datagrams ++ [⟨id, p.targetHost, p.targetPort, p.data⟩] },
        .ready (.ok ()))
    else (E, .ready (.ok ()))

/-- `process_message`: `Ok(true)` if it was a `Close`. -/
def processMessage (E : Endpoint) (msg : Message) (ignoreBind : Bool) :
    Endpoint × Poll (Except Error Bool) :=
  match msg with
  | .binary data =>
    match Frame.tryFrom data with
    | .error e => (E, .ready (.error (.invalidFrame e)))
    | .ok frame =>
      match E.processFrame frame ignoreBind with
      | (E, .ready (.ok ())) => (E, .ready (.ok false))
      | (E, .ready (.error e)) => (E, .ready (.error e))
      | (E, .pending) => (E, .pending)
  | .ping => (E, .ready (.ok false))
  | .pong => (E, .ready (.ok false))
  | .close => (E, .ready (.ok true))

/-! ### Winding down -/

/-- `select!` drops the branches that did not complete, and `process_ws_next` with what it
was waiting to hand over. -/
def cancelNext (E : Endpoint) : Endpoint :=
  match E.blocked with
  | some (.stream id i) => { E with blocked := none }.dropStream id i
  | some (.bind id i) => { E with blocked := none }.dropBind id i
  | none => E

/-- The first loop of `wind_down`: established streams can no longer send. -/
def disallowWrites (E : Endpoint) : Endpoint :=
  { E with streams := fun id => match E.flows id with
      | some (.established d) => (E.streams id).modify d.stream MuxStream.disallowWrite
      | _ => E.streams id }

/-- The last statement of `wind_down`: every slot is taken out and closed by
`close_port_local` with the `Reset` inhibited, so the order does not matter. -/
def drainFlows (E : Endpoint) : Endpoint :=
  { E with
    flows := fun _ => none
    streams := fun id => match E.flows id with
      | some (.established d) => (E.streams id).modify d.stream MuxStream.disallowWrite
      | _ => E.streams id
    calls := fun id => match E.flows id with
      | some (.requested j) => (E.calls id).modify j (StreamCall.answer none)
      | _ => E.calls id
    bindCalls := fun id => match E.flows id with
      | some (.bindRequested j) => (E.bindCalls id).modify j (BindCall.answer false)
      | _ => E.bindCalls id }

/-- The loop over what the source still yields; the first error ends `wind_down`. -/
def readRemaining (E : Endpoint) : List Message → Endpoint × Except Error Unit
  | [] => (E, .ok ())
  | msg :: msgs =>
    match E.processMessage msg true with
    | (E, .ready (.ok _)) => E.readRemaining msgs
    | (E, .ready (.error e)) => (E, .error e)
    | (E, .pending) => (E, .ok ())

/-- `wind_down`, run without interference: `sent` frames of the queue go out before the
sink fails or the queue is empty, and `msgs` is what the source still yields. The result of
the select, `res`, is what `start` returns if this succeeds. -/
def windDown (E : Endpoint) (shouldDrainFrameRx : Bool) (res : Except Error Unit) (sent : ℕ)
    (msgs : List Message) : Endpoint × Except Error Unit :=
  let E := { E.disallowWrites with phase := .reading res }
  let E := if shouldDrainFrameRx then { E with txFrames := E.txFrames.drop sent } else E
  match E.readRemaining msgs with
  | (E, .ok ()) => (E.drainFlows, .ok ())
  | (E, .error e) => (E, .error e)

end Endpoint

end Penguin.Mux
