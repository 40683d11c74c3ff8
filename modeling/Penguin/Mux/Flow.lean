import Penguin.Mux.Inversion

/-!
What the steps of an endpoint can do to one flow.

Most of a multiplexor does not concern a given flow id. Its view keeps what does: the slot,
the handles, how many calls have inserted a slot and not queued their frame, the pending
drop notifications, and how far the task has come. `View.Step` lists everything a step of
the program can do to a view, and the frames of the flow that it queues. That every step of
the endpoint is a run of such steps is proved in `Penguin.Mux.Simulation`; invariants of a
flow are proved against this list.
-/

namespace Penguin.Mux

def Payload.isDatagram : Payload → Bool
  | .datagram _ => true
  | _ => false

/-- The payload of a finalized frame, if it is a frame of flow `x`. Datagrams have an id
space of their own. -/
def onFlow (x : UInt32) (bytes : Bytes) : Option Payload :=
  match Frame.tryFrom bytes with
  | .ok f => if f.id = x && !f.payload.isDatagram then some f.payload else none
  | .error _ => none

def Message.onFlow (x : UInt32) : Message → Option Payload
  | .binary data => Mux.onFlow x data
  | _ => none

lemma Message.onFlow_of_frame?_none (x : UInt32) {msg : Message} (h : msg.frame? = none) :
    msg.onFlow x = none := by
  cases msg with
  | binary data =>
      cases hdec : Frame.tryFrom data with
      | ok f => simp [frame?_binary hdec] at h
      | error e => simp [onFlow, Mux.onFlow, hdec]
  | ping | pong | close => rfl

def Stage.isInserted : Stage → Bool
  | .inserted => true
  | _ => false

structure View where
  slot : Option FlowSlot
  streams : List MuxStream
  /-- Calls that can still queue their `Connect`. -/
  unsent : ℕ
  /-- Calls that can still queue their `Bind`. -/
  bindUnsent : ℕ
  /-- Bind requests that have not been dropped. -/
  binds : ℕ
  /-- Handles whose drop notification is pending. -/
  drops : List ℕ
  txOpen : Bool
  running : Bool
  finished : Bool

/-- What a step is to the flow: a slot is requested, a handle writes, a frame of the flow
is processed, or something else. -/
inductive Ev
  | tau
  | request
  | bindRequest
  | write (buf : Bytes)
  | recv (p : Payload)

/-- What an action can be to flow `x`, if it is not nothing. -/
def Action.event (x : UInt32) : Action → Ev
  | .newStreamChannel id _ _ => if id = x then .request else .tau
  | .retryStream _ _ id' => if id' = x then .request else .tau
  | .requestBind id _ _ _ => if id = x then .bindRequest else .tau
  | .pollWrite id _ buf => if id = x then .write buf else .tau
  | .copyPush id _ buf => if id = x then .write buf else .tau
  | _ => .tau

namespace View

/-- The view of a flow that has not been used. -/
def new : View where
  slot := none
  streams := []
  unsent := 0
  bindUnsent := 0
  binds := 0
  drops := []
  txOpen := true
  running := true
  finished := false

/-- `close_port` on the view. -/
def close (V : View) : View :=
  { V with
    slot := none
    streams := match V.slot with
      | some (.established d) => V.streams.modify d.stream MuxStream.disallowWrite
      | _ => V.streams }

/-- What is queued, if the queue takes frames. -/
def sends (V : View) (p : Payload) : List Payload := if V.txOpen then [p] else []

/-- The `Reset` that `close_port` queues if it is not inhibited. -/
def closeSends (V : View) : List Payload :=
  match V.slot with
  | some (.established d) =>
    if V.streams[d.stream]?.any (·.finishSent) then [] else V.sends .reset
  | _ => []

/-- The first loop of `wind_down` on the view. -/
def disallow (V : View) : View :=
  { V with streams := match V.slot with
      | some (.established d) => V.streams.modify d.stream MuxStream.disallowWrite
      | _ => V.streams }

/-- The handle of a slot that data can be dispatched to. -/
def receiver (V : View) : Option MuxStream :=
  match V.slot with
  | some (.established ⟨i, true⟩) => V.streams[i]?
  | _ => none

def setStream (V : View) (i : ℕ) (m : MuxStream) : View :=
  { V with streams := V.streams.set i m }

/-- A step of the flow: the view before, the event, the frames queued, the view after. -/
inductive Step (o : Options) : View → Ev → List Payload → View → Prop
  | request {V : View} (j : ℕ) (hslot : V.slot = none) :
      Step o V .request []
        { V with slot := some (.requested j), unsent := V.unsent + V.txOpen.toNat }
  | bindRequest {V : View} (j : ℕ) (hslot : V.slot = none) :
      Step o V .bindRequest []
        { V with slot := some (.bindRequested j), bindUnsent := V.bindUnsent + V.txOpen.toNat }
  | connect {V : View} (host : Bytes) (port : UInt16) (hun : 0 < V.unsent) :
      Step o V .tau [.connect ⟨o.rwnd, port, host⟩] { V with unsent := V.unsent - 1 }
  | bind {V : View} (p : BindPayload) (hun : 0 < V.bindUnsent) :
      Step o V .tau [.bind p] { V with bindUnsent := V.bindUnsent - 1 }
  -- operations on a handle
  | write {V : View} {i : ℕ} {m : MuxStream} (buf : Bytes) (hm : V.streams[i]? = some m)
      (hd : m.dropped = false) (hf : m.finishSent = false) (hr : m.pshSendRemaining ≠ 0)
      (htx : V.txOpen = true) :
      Step o V (.write buf) [.push buf] (V.setStream i
        { m with pshSendRemaining := m.pshSendRemaining - 1, written := m.written ++ buf })
  | writeFails {V : View} {i : ℕ} {m : MuxStream} (hm : V.streams[i]? = some m)
      (hd : m.dropped = false) (hf : m.finishSent = false) (hr : m.pshSendRemaining ≠ 0)
      (htx : V.txOpen = false) :
      Step o V .tau [] (V.setStream i { m with pshSendRemaining := m.pshSendRemaining - 1 })
  | shutdown {V : View} {i : ℕ} {m : MuxStream} (hm : V.streams[i]? = some m)
      (hd : m.dropped = false) (hf : m.finishSent = false) :
      Step o V .tau (V.sends .finish)
        (V.setStream i { m with finishSent := true })
  | dequeue {V : View} {i : ℕ} {m : MuxStream} {next : Bytes} {rest : List Bytes}
      (hm : V.streams[i]? = some m) (hd : m.dropped = false) (hb : m.buf = [])
      (hrx : m.frameRx = next :: rest) (hlt : m.pshRecvdSince + 1 < m.rwndThreshold) :
      Step o V .tau [] (V.setStream i
        { m with frameRx := rest, buf := next, pshRecvdSince := m.pshRecvdSince + 1 })
  | dequeueAck {V : View} {i : ℕ} {m : MuxStream} {next : Bytes} {rest : List Bytes}
      (hm : V.streams[i]? = some m) (hd : m.dropped = false) (hb : m.buf = [])
      (hrx : m.frameRx = next :: rest) (hge : m.rwndThreshold ≤ m.pshRecvdSince + 1) :
      Step o V .tau (V.sends (.acknowledge (m.pshRecvdSince + 1)))
        (V.setStream i { m with frameRx := rest, buf := next, pshRecvdSince := 0 })
  | consume {V : View} {i : ℕ} {m : MuxStream} (amt : ℕ) (hm : V.streams[i]? = some m)
      (hd : m.dropped = false) (hamt : amt ≤ m.buf.length) :
      Step o V .tau [] (V.setStream i (m.consume amt))
  | drop {V : View} {i : ℕ} {m : MuxStream} (d : List ℕ) (hm : V.streams[i]? = some m)
      (hd : m.dropped = false) (hdrop : d = [] ∨ d = [i]) :
      Step o V .tau []
        { V.setStream i { m with dropped := true, frameRx := [], buf := [] } with
          drops := V.drops ++ d }
  -- bind requests
  | reply {V : View} (accepted : Bool) (hb : 0 < V.binds) :
      Step o V .tau (V.sends (if accepted then .finish else .reset)) V
  | dropBind {V : View} (hb : 0 < V.binds) :
      Step o V .tau (V.sends .reset) { V with binds := V.binds - 1 }
  -- the task
  | dropped {V : View} {i : ℕ} {rest : List ℕ} (hdrops : V.drops = i :: rest)
      (hrun : V.running = true) :
      Step o V .tau V.closeSends { V.close with drops := rest }
  | windDown {V : View} (hrun : V.running = true) :
      Step o V .tau [] { V.disallow with running := false }
  | closeQueue {V : View} (hrun : V.running = false) :
      Step o V .tau [] { V with txOpen := false, unsent := 0, bindUnsent := 0 }
  | drain {V : View} (hrun : V.running = false) (htx : V.txOpen = false) :
      Step o V .tau [] { V.close with finished := true }
  | finish {V : View} (hrun : V.running = false) (htx : V.txOpen = false) :
      Step o V .tau [] { V with finished := true }
  -- frames of the flow
  | recvConnectUsed {V : View} (p : ConnectPayload) (hfin : V.finished = false)
      (hslot : V.slot ≠ none) :
      Step o V (.recv (.connect p)) (V.sends .reset) V
  | recvConnect {V : View} (p : ConnectPayload) (hfin : V.finished = false)
      (hslot : V.slot = none) :
      Step o V (.recv (.connect p)) (V.sends (.acknowledge o.rwnd))
        { V with
          slot := some (.established ⟨V.streams.length, true⟩)
          streams := V.streams ++ [newStreamShared o p.rwnd p.targetHost p.targetPort] }
  | recvAck {V : View} {d : EstablishedStreamData} (n : UInt32) (hfin : V.finished = false)
      (hslot : V.slot = some (.established d)) :
      Step o V (.recv (.acknowledge n)) []
        { V with streams := V.streams.modify d.stream (·.acknowledge n) }
  | recvAckNew {V : View} {j : ℕ} (n : UInt32) (hfin : V.finished = false)
      (hslot : V.slot = some (.requested j)) :
      Step o V (.recv (.acknowledge n)) []
        { V with
          slot := some (.established ⟨V.streams.length, true⟩)
          streams := V.streams ++ [newStreamShared o n [] 0] }
  | recvAckBogus {V : View} (n : UInt32) (hfin : V.finished = false)
      (hslot : V.slot = none ∨ ∃ j, V.slot = some (.bindRequested j)) :
      Step o V (.recv (.acknowledge n)) (V.sends .reset) V
  | recvFinish {V : View} {d : EstablishedStreamData} (hfin : V.finished = false)
      (hslot : V.slot = some (.established d)) :
      Step o V (.recv .finish) [] { V with slot := some (.established { d with sender := false }) }
  | recvFinishBind {V : View} {j : ℕ} (hfin : V.finished = false)
      (hslot : V.slot = some (.bindRequested j)) :
      Step o V (.recv .finish) [] { V with slot := none }
  | recvFinishRequested {V : View} {j : ℕ} (hfin : V.finished = false)
      (hslot : V.slot = some (.requested j)) :
      Step o V (.recv .finish) (V.sends .reset) { V with slot := none }
  | recvFinishBogus {V : View} (hfin : V.finished = false) (hslot : V.slot = none) :
      Step o V (.recv .finish) (V.sends .reset) V
  | recvReset {V : View} (hfin : V.finished = false) :
      Step o V (.recv .reset) [] V.close
  | recvPush {V : View} {i : ℕ} {m : MuxStream} (data : Bytes) (hfin : V.finished = false)
      (hslot : V.slot = some (.established ⟨i, true⟩)) (hm : V.streams[i]? = some m)
      (hd : m.dropped = false) (hroom : m.frameRx.length < o.rwnd.toNat) :
      Step o V (.recv (.push data)) [] (V.setStream i { m with frameRx := m.frameRx ++ [data] })
  | recvPushFull {V : View} {m : MuxStream} (data : Bytes) (hfin : V.finished = false)
      (hm : V.receiver = some m) (hd : m.dropped = false)
      (hfull : o.rwnd.toNat ≤ m.frameRx.length) :
      Step o V (.recv (.push data)) V.closeSends V.close
  | recvPushClosed {V : View} {m : MuxStream} (data : Bytes) (hfin : V.finished = false)
      (hm : V.receiver = some m) (hd : m.dropped = true) :
      Step o V (.recv (.push data)) [] V
  | recvPushBogus {V : View} (data : Bytes) (hfin : V.finished = false)
      (hm : V.receiver = none) :
      Step o V (.recv (.push data)) (V.sends .reset) V
  | recvBind {V : View} (p : BindPayload) (hfin : V.finished = false) :
      Step o V (.recv (.bind p)) [] { V with binds := V.binds + 1 }
  | recvBindRefused {V : View} (p : BindPayload) (sent : List Payload)
      (hfin : V.finished = false) (hsent : sent = [] ∨ sent = V.sends .reset) :
      Step o V (.recv (.bind p)) sent V

/-- One step with an event, then any number without: what a step of the program amounts to. -/
inductive Run (o : Options) : View → Ev → List Payload → View → Prop
  | idle (V : View) : Run o V .tau [] V
  | cons {V V₁ V₂ : View} {ev : Ev} {out₁ out₂ : List Payload} (h : Step o V ev out₁ V₁)
      (t : Run o V₁ .tau out₂ V₂) : Run o V ev (out₁ ++ out₂) V₂

lemma Run.single {o : Options} {V V' : View} {ev : Ev} {out : List Payload}
    (h : Step o V ev out V') : Run o V ev out V' := by
  have := Run.cons h (.idle V')
  rwa [List.append_nil] at this

lemma Run.trans {o : Options} {V V₁ V₂ : View} {ev : Ev} {out₁ out₂ : List Payload}
    (h : Run o V ev out₁ V₁) (t : Run o V₁ .tau out₂ V₂) : Run o V ev (out₁ ++ out₂) V₂ := by
  induction h with
  | idle V => exact t
  | cons h _ ih =>
      rw [List.append_assoc]
      exact .cons h (ih t)

end View

end Penguin.Mux
