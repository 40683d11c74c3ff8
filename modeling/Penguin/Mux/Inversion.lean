import Penguin.Mux.System

/-!
The ways a step can go.

What a frame does to the state depends on what the map holds for its flow id, and an action goes
differently in different phases. Here each of these ways is written down once: when it is taken,
the state it leads to, and what comes of it. What is proved about steps is proved by going through
the ways, one after the other.
-/

namespace Penguin.Mux

/-- The frame in a message. -/
def Message.frame? : Message → Option Frame
  | .binary data => (Frame.tryFrom data).toOption
  | _ => none

lemma Message.frame?_binary {data : Bytes} {f : Frame} (hdec : Frame.tryFrom data = .ok f) :
    (Message.binary data).frame? = some f := by
  simp [frame?, hdec, Except.toOption]

namespace Endpoint

/-! ### Frames -/

/-- A new handle, in an established slot. -/
abbrev establish (E : Endpoint) (id : UInt32) (m : MuxStream) : Endpoint :=
  (E.addStream id m).setSlot id (some (.established ⟨(E.streams id).length, true⟩))

/-- A way that `process_frame` can go, with the state after it and its answer. -/
inductive Handles (E : Endpoint) (ignoreBind : Bool) :
    Frame → Endpoint → Poll (Except Error Unit) → Prop
  | connectUsed {id : UInt32} (p : ConnectPayload) (hslot : E.flows id ≠ none) :
      Handles E ignoreBind ⟨id, .connect p⟩ (E.send (Frame.newReset id)) (.ready (.ok ()))
  | connect {id : UInt32} (p : ConnectPayload) (hslot : E.flows id = none)
      (hopen : E.txOpen = true) :
      Handles E ignoreBind ⟨id, .connect p⟩
        (((E.establish id (newStreamShared E.opts p.rwnd p.targetHost p.targetPort)).send
          (Frame.newAcknowledge id E.opts.rwnd)).sendStream id (E.streams id).length).1
        (((E.establish id (newStreamShared E.opts p.rwnd p.targetHost p.targetPort)).send
          (Frame.newAcknowledge id E.opts.rwnd)).sendStream id (E.streams id).length).2
  | connectClosed {id : UInt32} (p : ConnectPayload) (hslot : E.flows id = none)
      (hclosed : E.txOpen = false) :
      Handles E ignoreBind ⟨id, .connect p⟩
        ((E.establish id (newStreamShared E.opts p.rwnd p.targetHost p.targetPort)).dropStream id
          (E.streams id).length) (.ready (.error .closed))
  | ackEstablished {id : UInt32} {d : EstablishedStreamData} (n : UInt32)
      (hslot : E.flows id = some (.established d)) :
      Handles E ignoreBind ⟨id, .acknowledge n⟩ (E.modifyStream id d.stream (·.acknowledge n))
        (.ready (.ok ()))
  | ackRequested {id : UInt32} {j : ℕ} (n : UInt32) (hslot : E.flows id = some (.requested j))
      (hlistens : (E.calls id)[j]?.any (·.stage.listening) = true) :
      Handles E ignoreBind ⟨id, .acknowledge n⟩
        ((E.establish id (newStreamShared E.opts n [] 0)).modifyCall id j
          (StreamCall.answer (some (E.streams id).length))) (.ready (.ok ()))
  | ackGone {id : UInt32} {j : ℕ} (n : UInt32) (hslot : E.flows id = some (.requested j))
      (hlistens : (E.calls id)[j]?.any (·.stage.listening) = false) :
      Handles E ignoreBind ⟨id, .acknowledge n⟩
        ((E.establish id (newStreamShared E.opts n [] 0)).dropStream id (E.streams id).length)
        (.ready (.error .sendStreamToClient))
  | ackBogus {id : UInt32} (n : UInt32)
      (hslot : E.flows id = none ∨ ∃ j, E.flows id = some (.bindRequested j)) :
      Handles E ignoreBind ⟨id, .acknowledge n⟩ (E.send (Frame.newReset id)) (.ready (.ok ()))
  | finishBogus {id : UInt32} (hslot : E.flows id = none) :
      Handles E ignoreBind ⟨id, .finish⟩ (E.send (Frame.newReset id)) (.ready (.ok ()))
  | finishBind {id : UInt32} {j : ℕ} (hslot : E.flows id = some (.bindRequested j)) :
      Handles E ignoreBind ⟨id, .finish⟩
        ((E.setSlot id none).modifyBindCall id j (BindCall.answer true)) (.ready (.ok ()))
  | finishRequested {id : UInt32} {j : ℕ} (hslot : E.flows id = some (.requested j)) :
      Handles E ignoreBind ⟨id, .finish⟩ ((E.setSlot id none).send (Frame.newReset id))
        (.ready (.ok ()))
  | finishEstablished {id : UInt32} {d : EstablishedStreamData}
      (hslot : E.flows id = some (.established d)) :
      Handles E ignoreBind ⟨id, .finish⟩
        (E.setSlot id (some (.established { d with sender := false }))) (.ready (.ok ()))
  | reset (id : UInt32) :
      Handles E ignoreBind ⟨id, .reset⟩ (E.closePort id true) (.ready (.ok ()))
  | push {id : UInt32} {i : ℕ} {m : MuxStream} (data : Bytes)
      (hslot : E.flows id = some (.established ⟨i, true⟩)) (hm : (E.streams id)[i]? = some m)
      (hd : m.dropped = false) (hroom : m.frameRx.length < E.opts.rwnd.toNat) :
      Handles E ignoreBind ⟨id, .push data⟩
        (E.modifyStream id i fun m => { m with frameRx := m.frameRx ++ [data] }) (.ready (.ok ()))
  | pushFull {id : UInt32} {i : ℕ} {m : MuxStream} (data : Bytes)
      (hslot : E.flows id = some (.established ⟨i, true⟩)) (hm : (E.streams id)[i]? = some m)
      (hd : m.dropped = false) (hfull : E.opts.rwnd.toNat ≤ m.frameRx.length) :
      Handles E ignoreBind ⟨id, .push data⟩ (E.closePort id false) (.ready (.ok ()))
  | pushClosed {id : UInt32} {i : ℕ} {m : MuxStream} (data : Bytes)
      (hslot : E.flows id = some (.established ⟨i, true⟩)) (hm : (E.streams id)[i]? = some m)
      (hd : m.dropped = true) :
      Handles E ignoreBind ⟨id, .push data⟩ E (.ready (.ok ()))
  | pushBogus {id : UInt32} (data : Bytes)
      (hnone : ∀ i m, E.flows id = some (.established ⟨i, true⟩) → (E.streams id)[i]? ≠ some m) :
      Handles E ignoreBind ⟨id, .push data⟩ (E.send (Frame.newReset id)) (.ready (.ok ()))
  | bindOff {id : UInt32} (p : BindPayload) (hzero : E.opts.bindBufferSize = 0) :
      Handles E ignoreBind ⟨id, .bind p⟩ (E.send (Frame.newReset id)) (.ready (.ok ()))
  | bindIgnored {id : UInt32} (p : BindPayload) (hpos : E.opts.bindBufferSize ≠ 0)
      (hig : ignoreBind = true) :
      Handles E ignoreBind ⟨id, .bind p⟩ E (.ready (.ok ()))
  | bind {id : UInt32} (p : BindPayload) (hpos : E.opts.bindBufferSize ≠ 0)
      (hig : ignoreBind = false) :
      Handles E ignoreBind ⟨id, .bind p⟩
        ((E.addBind id p).sendBindRequest id (E.binds id).length).1
        ((E.addBind id p).sendBindRequest id (E.binds id).length).2
  | datagramGone {id : UInt32} (p : DatagramPayload) (hgone : E.muxAlive = false) :
      Handles E ignoreBind ⟨id, .datagram p⟩ E (.ready (.error .closed))
  | datagram {id : UInt32} (p : DatagramPayload) (halive : E.muxAlive = true)
      (hroom : E.datagrams.length < E.opts.datagramBufferSize) :
      Handles E ignoreBind ⟨id, .datagram p⟩
        { E with datagrams := E.datagrams ++ [⟨id, p.targetHost, p.targetPort, p.data⟩] }
        (.ready (.ok ()))
  | datagramLost {id : UInt32} (p : DatagramPayload) (halive : E.muxAlive = true)
      (hfull : E.opts.datagramBufferSize ≤ E.datagrams.length) :
      Handles E ignoreBind ⟨id, .datagram p⟩ E (.ready (.ok ()))

variable {E E' : Endpoint}

/-- **Frames**: `process_frame` goes one of these ways. -/
lemma handles (E : Endpoint) (f : Frame) (ignoreBind : Bool) :
    E.Handles ignoreBind f (E.processFrame f ignoreBind).1 (E.processFrame f ignoreBind).2 := by
  obtain ⟨id, p⟩ := f
  cases p with
  | connect p =>
      simp only [processFrame, conRecvNewStream]
      split_ifs with hslot hopen
      · exact .connectUsed p (Option.isSome_iff_ne_none.mp hslot)
      · exact .connect p (by simpa using hslot) hopen
      · exact .connectClosed p (by simpa using hslot) (Bool.eq_false_iff.mpr hopen)
  | acknowledge n =>
      simp only [processFrame]
      rcases hslot : E.flows id with _ | j | d | j
      · exact .ackBogus n (.inl hslot)
      · simp only [ackRecvNewStream, hslot]
        split_ifs with hlistens
        · exact .ackRequested n hslot hlistens
        · exact .ackGone n hslot (Bool.eq_false_iff.mpr hlistens)
      · exact .ackEstablished n hslot
      · exact .ackBogus n (.inr ⟨j, hslot⟩)
  | finish =>
      simp only [processFrame]
      rcases hslot : E.flows id with _ | j | d | j
      · exact .finishBogus hslot
      · exact .finishRequested hslot
      · exact .finishEstablished hslot
      · exact .finishBind hslot
  | reset => exact .reset id
  | push data =>
      by_cases hrec : ∃ i m, E.flows id = some (.established ⟨i, true⟩) ∧
        (E.streams id)[i]? = some m
      · obtain ⟨i, m, hslot, hm⟩ := hrec
        simp only [processFrame, dispatch, hslot, hm]
        by_cases hd : m.dropped = true
        · rw [if_pos hd]
          exact .pushClosed data hslot hm hd
        rw [if_neg hd]
        by_cases hroom : m.frameRx.length < E.opts.rwnd.toNat
        · rw [if_pos hroom]
          exact .push data hslot hm (by simpa using hd) hroom
        · rw [if_neg hroom]
          exact .pushFull data hslot hm (by simpa using hd) (Nat.le_of_not_lt hroom)
      · push Not at hrec
        have hnone : E.dispatch id data = (E, none) := by
          unfold dispatch
          split
          case h_1 i hslot =>
            cases hm : (E.streams id)[i]? with
            | none => rfl
            | some m => exact absurd hm (hrec i m hslot)
          case h_2 => rfl
        simp only [processFrame, hnone]
        exact .pushBogus data hrec
  | bind p =>
      simp only [processFrame]
      split_ifs with hzero hig
      · exact .bindOff p hzero
      · exact .bindIgnored p hzero hig
      · exact .bind p hzero (Bool.eq_false_iff.mpr hig)
  | datagram p =>
      simp only [processFrame]
      split_ifs with hgone hroom
      · exact .datagramGone p (by simpa using hgone)
      · exact .datagram p (by simpa using hgone) hroom
      · exact .datagramLost p (by simpa using hgone) (Nat.le_of_not_lt hroom)

/-- A channel that is full is left as it is, and its slot is closed. -/
lemma processFrame_full {id : UInt32} {data : Bytes} (ignoreBind : Bool)
    (hfull : (E.dispatch id data).2 = some (.error .full)) :
    E.processFrame ⟨id, .push data⟩ ignoreBind = (E.closePort id false, .ready (.ok ())) := by
  have hsame : E.dispatch id data = (E, some (.error .full)) := by
    unfold dispatch at hfull ⊢
    split at hfull
    case h_2 => cases hfull
    case h_1 i hslot =>
      split at hfull
      case h_2 => cases hfull
      case h_1 m hm =>
        split_ifs at hfull ⊢ with hd hroom
        · cases hfull
        · cases hfull
        · rfl
  simp only [processFrame, hsame]

/-! ### Messages -/

lemma fst_processMessage {data : Bytes} {f : Frame} (hdec : Frame.tryFrom data = .ok f)
    (ignoreBind : Bool) :
    (E.processMessage (.binary data) ignoreBind).1 = (E.processFrame f ignoreBind).1 := by
  simp only [processMessage, hdec]
  rcases E.processFrame f ignoreBind with ⟨E₁, (_ | _) | _⟩ <;> rfl

/-- A message is processed as the frame it carries, and leaves the state alone if it carries
none. -/
lemma processMessage_cases (E : Endpoint) (msg : Message) (ignoreBind : Bool) :
    (msg.frame? = none ∧ (E.processMessage msg ignoreBind).1 = E) ∨
    ∃ data f, msg = .binary data ∧ Frame.tryFrom data = .ok f ∧
      (E.processMessage msg ignoreBind).1 = (E.processFrame f ignoreBind).1 := by
  cases msg with
  | binary data =>
      cases hdec : Frame.tryFrom data with
      | ok f => exact .inr ⟨data, f, rfl, hdec, fst_processMessage hdec ignoreBind⟩
      | error e =>
          refine .inl ⟨?_, by simp only [processMessage, hdec]⟩
          simp [Message.frame?, hdec, Except.toOption]
  | ping | pong | close => exact .inl ⟨rfl, rfl⟩

/-- A message arrives at `process_ws_next`, or at the loop of `wind_down`, which an error ends. -/
lemma recv_cases {msg : Message} (h : E.recv msg = some E') :
    (E.phase = .running ∧ E.blocked = none ∧
      E' = (E.processMessage msg false).1.afterMessage (E.processMessage msg false).2) ∨
    ∃ res, E.phase = .reading res ∧
      ((∃ e, (E.processMessage msg true).2 = .ready (.error e) ∧
          E' = { (E.processMessage msg true).1 with phase := .finished (.error e) }) ∨
        (∀ e, (E.processMessage msg true).2 ≠ .ready (.error e)) ∧
          E' = (E.processMessage msg true).1) := by
  unfold recv at h
  split at h
  case h_1 hrun =>
    split_ifs at h with hblocked
    exact .inl ⟨hrun, by simpa using hblocked, (Option.some.inj h).symm⟩
  case h_2 res hph =>
    refine .inr ⟨res, hph, ?_⟩
    rcases hres : E.processMessage msg true with ⟨F, (e | b) | _⟩ <;> rw [hres] at h <;>
      obtain rfl := Option.some.inj h
    · exact .inl ⟨e, rfl, rfl⟩
    · exact .inr ⟨nofun, rfl⟩
    · exact .inr ⟨nofun, rfl⟩
  case h_3 => cases h

/-! ### Actions -/

/-- The slot of a call of `request_bind`. -/
abbrev insertBindRequested (E : Endpoint) (id : UInt32) (host : Bytes) (port : UInt16)
    (t : BindType) : Endpoint :=
  { E.setSlot id (some (.bindRequested (E.bindCalls id).length)) with
    bindCalls := Function.update E.bindCalls id
      (E.bindCalls id ++ [⟨host, port, t, .inserted, none⟩]) }

/-- A way that an action can go, with the state after it and what is handed to the sink. -/
inductive Acts (E : Endpoint) : Action → Endpoint → List Message → Prop
  -- calls of the user
  | newStreamChannel {id : UInt32} (host : Bytes) (port : UInt16) (halive : E.muxAlive = true)
      (hkey : E.keyAvailable id = true) :
      Acts E (.newStreamChannel id host port)
        (E.insertRequested id host port (E.opts.maxFlowIdRetries - 1)) []
  | connectSent {id : UInt32} {j : ℕ} {c : StreamCall} (hc : (E.calls id)[j]? = some c)
      (hstage : c.stage = .inserted) (hopen : E.txOpen = true) :
      Acts E (.sendConnect id j) ((E.modifyCall id j fun c => { c with stage := .awaiting }).send
        (Frame.newConnect c.host c.port id E.opts.rwnd)) []
  | connectFails {id : UInt32} {j : ℕ} {c : StreamCall} (hc : (E.calls id)[j]? = some c)
      (hstage : c.stage = .inserted) (hclosed : E.txOpen = false)
      (hreply : ∀ i, c.reply ≠ some (some i)) :
      Acts E (.sendConnect id j) (E.modifyCall id j fun c => { c with stage := .returned }) []
  | connectFailsWith {id : UInt32} {i j : ℕ} {c : StreamCall} (hc : (E.calls id)[j]? = some c)
      (hstage : c.stage = .inserted) (hclosed : E.txOpen = false)
      (hreply : c.reply = some (some i)) :
      Acts E (.sendConnect id j)
        ((E.modifyCall id j fun c => { c with stage := .returned }).dropStream id i) []
  | streamGiven {id : UInt32} {i j : ℕ} {c : StreamCall} (hc : (E.calls id)[j]? = some c)
      (hstage : c.stage = .awaiting) (hreply : c.reply = some (some i)) :
      Acts E (.awaitStream id j)
        ((E.modifyCall id j fun c => { c with stage := .returned }).hold id i) []
  | streamRejected {id : UInt32} {j : ℕ} {c : StreamCall} (hc : (E.calls id)[j]? = some c)
      (hstage : c.stage = .awaiting) (hreply : c.reply = some none) :
      Acts E (.awaitStream id j) (E.modifyCall id j fun c => { c with stage := .rejected }) []
  | senderGone {id : UInt32} {j : ℕ} {c : StreamCall} (hc : (E.calls id)[j]? = some c)
      (hstage : c.stage = .awaiting) (hreply : c.reply = none)
      (hslot : E.flows id ≠ some (.requested j)) :
      Acts E (.awaitStream id j) (E.modifyCall id j fun c => { c with stage := .returned }) []
  | retryStream {id id' : UInt32} {j : ℕ} {c : StreamCall} (hc : (E.calls id)[j]? = some c)
      (hstage : c.stage = .rejected) (hleft : 0 < c.retriesLeft)
      (hkey : E.keyAvailable id' = true) :
      Acts E (.retryStream id j id')
        ((E.modifyCall id j fun c => { c with stage := .returned }).insertRequested id' c.host c.port
          (c.retriesLeft - 1)) []
  | cancelStream {id : UInt32} {j : ℕ} {c : StreamCall} (hc : (E.calls id)[j]? = some c)
      (hstage : c.stage = .awaiting) (hreply : ∀ i, c.reply ≠ some (some i)) :
      Acts E (.cancelStream id j) (E.modifyCall id j fun c => { c with stage := .cancelled }) []
  | cancelStreamWith {id : UInt32} {i j : ℕ} {c : StreamCall} (hc : (E.calls id)[j]? = some c)
      (hstage : c.stage = .awaiting) (hreply : c.reply = some (some i)) :
      Acts E (.cancelStream id j)
        ((E.modifyCall id j fun c => { c with stage := .cancelled }).dropStream id i) []
  | requestBind {id : UInt32} (host : Bytes) (port : UInt16) (t : BindType)
      (halive : E.muxAlive = true) (hkey : E.keyAvailable id = true) :
      Acts E (.requestBind id host port t) (E.insertBindRequested id host port t) []
  | bindSent {id : UInt32} {j : ℕ} {c : BindCall} (hc : (E.bindCalls id)[j]? = some c)
      (hstage : c.stage = .inserted) (hopen : E.txOpen = true) :
      Acts E (.sendBind id j) ((E.modifyBindCall id j fun c => { c with stage := .awaiting }).send
        (Frame.newBind id c.bindType c.host c.port)) []
  | bindFails {id : UInt32} {j : ℕ} {c : BindCall} (hc : (E.bindCalls id)[j]? = some c)
      (hstage : c.stage = .inserted) (hclosed : E.txOpen = false) :
      Acts E (.sendBind id j) (E.modifyBindCall id j fun c => { c with stage := .returned }) []
  | awaitBind {id : UInt32} {j : ℕ} {c : BindCall} (hc : (E.bindCalls id)[j]? = some c)
      (hstage : c.stage = .awaiting)
      (hreply : c.reply.isSome = true ∨ E.flows id ≠ some (.bindRequested j)) :
      Acts E (.awaitBind id j) (E.modifyBindCall id j fun c => { c with stage := .returned }) []
  | cancelBind {id : UInt32} {j : ℕ} {c : BindCall} (hc : (E.bindCalls id)[j]? = some c)
      (hstage : c.stage = .awaiting) :
      Acts E (.cancelBind id j) (E.modifyBindCall id j fun c => { c with stage := .cancelled }) []
  | acceptStreamChannel {id : UInt32} {i : ℕ} {rest : List (UInt32 × ℕ)}
      (hqueue : E.conRecvStream = (id, i) :: rest) :
      Acts E .acceptStreamChannel ({ E with conRecvStream := rest }.hold id i) []
  | getDatagram {d : Datagram} {rest : List Datagram} (hqueue : E.datagrams = d :: rest) :
      Acts E .getDatagram { E with datagrams := rest } []
  | sendDatagram {d : Datagram} (halive : E.muxAlive = true)
      (hhost : d.targetHost.length ≤ 255) (hopen : E.txOpen = true) :
      Acts E (.sendDatagram d)
        (E.send (Frame.newDatagramOwned d.flowId d.targetHost d.targetPort d.data)) []
  | datagramRefused {d : Datagram} (halive : E.muxAlive = true)
      (href : 255 < d.targetHost.length ∨ E.txOpen = false) :
      Acts E (.sendDatagram d) E []
  | nextBindRequest {id : UInt32} {i : ℕ} {rest : List (UInt32 × ℕ)}
      (hqueue : E.bndRequests = (id, i) :: rest) :
      Acts E .nextBindRequest ({ E with bndRequests := rest }.holdBind id i) []
  | reply {id : UInt32} {i : ℕ} (accepted : Bool) (hown : E.ownsBind id i = true) :
      Acts E (.reply id i accepted) (E.reply id accepted) []
  | dropBind {id : UInt32} {i : ℕ} (hown : E.ownsBind id i = true) :
      Acts E (.dropBind id i) (E.dropBind id i) []
  | dropMux (halive : E.muxAlive = true) : Acts E .dropMux E.dropMux []
  -- operations on a handle
  | pollWrite {id : UInt32} {i : ℕ} {m : MuxStream} (buf : Bytes) (hown : E.owns id i = some m) :
      Acts E (.pollWrite id i buf) (E.update id i (m.pollWrite id E.txOpen buf).1
        (m.pollWrite id E.txOpen buf).2.1) []
  | copyPush {id : UInt32} {i : ℕ} {m : MuxStream} {buf : Bytes} (hown : E.owns id i = some m)
      (hbuf : buf ≠ []) :
      Acts E (.copyPush id i buf) (E.update id i (m.pollWrite id E.txOpen buf).1
        (m.pollWrite id E.txOpen buf).2.1) []
  | pollShutdown {id : UInt32} {i : ℕ} {m : MuxStream} (hown : E.owns id i = some m) :
      Acts E (.pollShutdown id i) (E.update id i (m.shutdownInner id E.txOpen).1
        (m.shutdownInner id E.txOpen).2.1) []
  | pollFillBuf {id : UInt32} {i : ℕ} {m : MuxStream} (hown : E.owns id i = some m) :
      Acts E (.pollFillBuf id i) (E.update id i
        (m.pollFillBuf id E.txOpen (E.senderAlive id i)).1
        (m.pollFillBuf id E.txOpen (E.senderAlive id i)).2.1) []
  | consume {id : UInt32} {i : ℕ} {m : MuxStream} {amt : ℕ} (hown : E.owns id i = some m)
      (hamt : amt ≤ m.buf.length) :
      Acts E (.consume id i amt) (E.update id i (m.consume amt) []) []
  | pollRead {id : UInt32} {i : ℕ} {m : MuxStream} (remaining : ℕ) (hown : E.owns id i = some m) :
      Acts E (.pollRead id i remaining) (E.update id i
        (m.pollRead id E.txOpen (E.senderAlive id i) remaining).1
        (m.pollRead id E.txOpen (E.senderAlive id i) remaining).2.1) []
  | dropStream {id : UInt32} {i : ℕ} {m : MuxStream} (hown : E.owns id i = some m) :
      Acts E (.dropStream id i) (E.dropStream id i) []
  -- iterations of the loops of the task
  | droppedZero {n : Notice} {rest : List Notice} (hrun : E.phase = .running)
      (hports : E.droppedPorts = n :: rest) (hzero : n.id = 0) :
      Acts E .droppedPort ({ E with droppedPorts := rest }.startWindDown true (.ok ())) []
  | droppedPort {n : Notice} {rest : List Notice} (hrun : E.phase = .running)
      (hports : E.droppedPorts = n :: rest) (hid : n.id ≠ 0) :
      Acts E .droppedPort ({ E with droppedPorts := rest }.closePort n.id false) []
  | sendFrame {f : Bytes} {rest : List Bytes} (hrun : E.phase = .running)
      (hframes : E.txFrames = f :: rest) :
      Acts E .sendFrame { E with txFrames := rest } [.binary f]
  | tick {t : ℕ} (hrun : E.phase = .running) (hkeep : E.opts.keepaliveInterval = some t) :
      Acts E .tick E [.ping]
  | resumeGone {id : UInt32} {i : ℕ} (hrun : E.phase = .running)
      (hblocked : E.blocked = some (.stream id i)) (hgone : E.muxAlive = false) :
      Acts E .resume (({ E with blocked := none }.dropStream id i).startWindDown false
        (.error .sendStreamToClient)) []
  | resumeStream {id : UInt32} {i : ℕ} (hrun : E.phase = .running)
      (hblocked : E.blocked = some (.stream id i)) (halive : E.muxAlive = true) :
      Acts E .resume ({ E with blocked := none }.sendStream id i).1 []
  | resumeBind {id : UInt32} {i : ℕ} (hrun : E.phase = .running)
      (hblocked : E.blocked = some (.bind id i)) :
      Acts E .resume ({ E with blocked := none }.sendBindRequest id i).1 []
  | sinkError (hrun : E.phase = .running) :
      Acts E .sinkError (E.startWindDown false (.error .webSocket)) []
  | sinkErrorDraining {res : Except Error Unit} (hph : E.phase = .draining res) :
      Acts E .sinkError { E with phase := .closing res } []
  | sourceError (hrun : E.phase = .running) (hfree : E.blocked = none) :
      Acts E .sourceError (E.startWindDown false (.error .webSocket)) []
  | sourceEnd (hrun : E.phase = .running) (hfree : E.blocked = none) :
      Acts E .sourceEnd (E.startWindDown false (.ok ())) []
  | lastError {res : Except Error Unit} (hph : E.phase = .reading res) :
      Acts E .sourceError (E.finish res) []
  | lastMessage {res : Except Error Unit} (hph : E.phase = .reading res) :
      Acts E .sourceEnd (E.finish res) []
  -- the points of `wind_down`
  | closeQueue {drain : Bool} {res : Except Error Unit} (hph : E.phase = .yielding drain res) :
      Acts E .closeQueue { E with phase := if drain then .draining res else .closing res } []
  | drainFrame {res : Except Error Unit} {f : Bytes} {rest : List Bytes}
      (hph : E.phase = .draining res) (hframes : E.txFrames = f :: rest) :
      Acts E .drainFrame { E with txFrames := rest } [.binary f]
  | drained {res : Except Error Unit} (hph : E.phase = .draining res) (hframes : E.txFrames = []) :
      Acts E .drainFrame { E with phase := .closing res } []
  | closeSink {res : Except Error Unit} (hph : E.phase = .closing res) :
      Acts E .closeSink { E with phase := .reading res } [.close]

variable {a : Action} {out : List Message}

lemma acts_newStreamChannel {id : UInt32} {host : Bytes} {port : UInt16}
    (h : E.newStreamChannel id host port = some E') :
    E.Acts (.newStreamChannel id host port) E' [] := by
  unfold newStreamChannel at h
  split_ifs at h with hcond
  obtain rfl := Option.some.inj h
  obtain ⟨halive, hkey⟩ := Bool.and_eq_true_iff.mp hcond
  exact .newStreamChannel host port halive hkey

lemma acts_sendConnect {id : UInt32} {j : ℕ} (h : E.sendConnect id j = some E') :
    E.Acts (.sendConnect id j) E' [] := by
  unfold sendConnect at h
  split at h
  case h_2 => cases h
  case h_1 c hc =>
    split_ifs at h with hstage hopen
    · obtain rfl := Option.some.inj h
      exact .connectSent hc hstage hopen
    · have hclosed : E.txOpen = false := Bool.eq_false_iff.mpr hopen
      split at h <;> obtain rfl := Option.some.inj h
      · rename_i i hreply
        exact .connectFailsWith hc hstage hclosed hreply
      · rename_i hreply
        exact .connectFails hc hstage hclosed hreply

lemma acts_awaitStream {id : UInt32} {j : ℕ} (h : E.awaitStream id j = some E') :
    E.Acts (.awaitStream id j) E' [] := by
  unfold awaitStream at h
  split at h
  case h_2 => cases h
  case h_1 c hc =>
    split at h
    case isFalse => cases h
    case isTrue hstage =>
      split at h
      case h_1 i hreply =>
        obtain rfl := Option.some.inj h
        exact .streamGiven hc hstage hreply
      case h_2 hreply =>
        obtain rfl := Option.some.inj h
        exact .streamRejected hc hstage hreply
      case h_3 hreply =>
        split_ifs at h with hslot
        obtain rfl := Option.some.inj h
        exact .senderGone hc hstage hreply hslot

lemma acts_retryStream {id id' : UInt32} {j : ℕ} (h : E.retryStream id j id' = some E') :
    E.Acts (.retryStream id j id') E' [] := by
  unfold retryStream at h
  split at h
  case h_2 => cases h
  case h_1 c hc =>
    split_ifs at h with hcond
    obtain rfl := Option.some.inj h
    simp only [Bool.and_eq_true, decide_eq_true_eq] at hcond
    obtain ⟨⟨hstage, hleft⟩, hkey⟩ := hcond
    exact .retryStream hc hstage hleft hkey

lemma acts_cancelStream {id : UInt32} {j : ℕ} (h : E.cancelStream id j = some E') :
    E.Acts (.cancelStream id j) E' [] := by
  simp only [Endpoint.cancelStream] at h
  split at h
  case h_2 => cases h
  case h_1 c hc =>
    split_ifs at h with hstage
    split at h <;> obtain rfl := Option.some.inj h
    · rename_i i hreply
      exact .cancelStreamWith hc hstage hreply
    · rename_i hreply
      exact .cancelStream hc hstage hreply

lemma acts_requestBind {id : UInt32} {host : Bytes} {port : UInt16} {t : BindType}
    (h : E.requestBind id host port t = some E') : E.Acts (.requestBind id host port t) E' [] := by
  unfold requestBind at h
  split_ifs at h with hcond
  obtain rfl := Option.some.inj h
  obtain ⟨halive, hkey⟩ := Bool.and_eq_true_iff.mp hcond
  exact .requestBind host port t halive hkey

lemma acts_sendBind {id : UInt32} {j : ℕ} (h : E.sendBind id j = some E') :
    E.Acts (.sendBind id j) E' [] := by
  unfold sendBind at h
  split at h
  case h_2 => cases h
  case h_1 c hc =>
    split_ifs at h with hstage hopen <;> obtain rfl := Option.some.inj h
    · exact .bindSent hc hstage hopen
    · exact .bindFails hc hstage (Bool.eq_false_iff.mpr hopen)

lemma acts_awaitBind {id : UInt32} {j : ℕ} (h : E.awaitBind id j = some E') :
    E.Acts (.awaitBind id j) E' [] := by
  unfold Endpoint.awaitBind at h
  split at h
  case h_2 => cases h
  case h_1 c hc =>
    split_ifs at h with hcond
    obtain rfl := Option.some.inj h
    simp only [Bool.and_eq_true, Bool.or_eq_true, decide_eq_true_eq] at hcond
    exact .awaitBind hc hcond.1 hcond.2

lemma acts_cancelBind {id : UInt32} {j : ℕ} (h : E.cancelBind id j = some E') :
    E.Acts (.cancelBind id j) E' [] := by
  unfold Endpoint.cancelBind at h
  split at h
  case h_2 => cases h
  case h_1 c hc =>
    split_ifs at h with hstage
    obtain rfl := Option.some.inj h
    exact .cancelBind hc hstage

lemma acts_acceptStreamChannel (h : E.acceptStreamChannel = some E') :
    E.Acts .acceptStreamChannel E' [] := by
  unfold acceptStreamChannel at h
  split at h
  case h_2 => cases h
  case h_1 hqueue =>
    obtain rfl := Option.some.inj h
    exact .acceptStreamChannel hqueue

lemma acts_getDatagram (h : E.getDatagram = some E') : E.Acts .getDatagram E' [] := by
  unfold getDatagram at h
  split at h
  case h_2 => cases h
  case h_1 hqueue =>
    obtain rfl := Option.some.inj h
    exact .getDatagram hqueue

lemma acts_sendDatagram {d : Datagram} (halive : E.muxAlive = true) :
    E.Acts (.sendDatagram d) (E.sendDatagram d).1 [] := by
  unfold sendDatagram
  split_ifs with hlong hopen
  · exact .datagramRefused halive (.inl hlong)
  · exact .sendDatagram halive (Nat.not_lt.mp hlong) hopen
  · exact .datagramRefused halive (.inr (Bool.eq_false_iff.mpr hopen))

lemma acts_nextBindRequest (h : E.nextBindRequest = some E') : E.Acts .nextBindRequest E' [] := by
  unfold nextBindRequest at h
  split at h
  case h_2 => cases h
  case h_1 hqueue =>
    obtain rfl := Option.some.inj h
    exact .nextBindRequest hqueue

-- iterations of the loops of the task, and the points of `wind_down`

lemma acts_droppedPort (h : E.droppedPort = some E') : E.Acts .droppedPort E' [] := by
  unfold Endpoint.droppedPort at h
  split at h
  case h_2 => cases h
  case h_1 n rest hrun hports =>
    dsimp only at h
    split_ifs at h with hzero <;> obtain rfl := Option.some.inj h
    · exact .droppedZero hrun hports hzero
    · exact .droppedPort hrun hports hzero

lemma acts_sendFrame (h : E.act .sendFrame = some (E', out)) : E.Acts .sendFrame E' out := by
  simp only [act] at h
  split at h
  case h_2 => cases h
  case h_1 hrun hframes =>
    obtain ⟨rfl, rfl⟩ := Prod.mk.inj (Option.some.inj h)
    exact .sendFrame hrun hframes

lemma acts_tick (h : E.act .tick = some (E', out)) : E.Acts .tick E' out := by
  simp only [act] at h
  split at h
  case h_2 => cases h
  case h_1 hrun hkeep =>
    obtain ⟨rfl, rfl⟩ := Prod.mk.inj (Option.some.inj h)
    exact .tick hrun hkeep

lemma acts_resume (h : E.resume = some E') : E.Acts .resume E' [] := by
  unfold resume at h
  split at h
  case h_3 => cases h
  case h_2 id i hrun hblocked =>
    obtain rfl := Option.some.inj h
    exact .resumeBind hrun hblocked
  case h_1 id i hrun hblocked =>
    by_cases halive : E.muxAlive = true
    · have hway := Acts.resumeStream hrun hblocked halive
      have hgone : ¬ (!E.muxAlive) = true := by simp [halive]
      simp only [sendStream, if_neg hgone] at h hway
      split_ifs at h hway <;> obtain rfl := Option.some.inj h
      · exact hway
      · exact hway
    · have hgone : E.muxAlive = false := Bool.eq_false_iff.mpr halive
      have hnot : (!E.muxAlive) = true := by simp [hgone]
      simp only [sendStream, if_pos hnot] at h
      obtain rfl := Option.some.inj h
      exact .resumeGone hrun hblocked hgone

lemma acts_sinkError (h : E.sinkError = some E') : E.Acts .sinkError E' [] := by
  unfold Endpoint.sinkError at h
  split at h
  case h_1 hrun =>
    obtain rfl := Option.some.inj h
    exact .sinkError hrun
  case h_2 res hph =>
    obtain rfl := Option.some.inj h
    exact .sinkErrorDraining hph
  case h_3 => cases h

lemma sourceStops_eq {res : Except Error Unit} (h : E.sourceStops res = some E') :
    (E.phase = .running ∧ E.blocked = none ∧ E' = E.startWindDown false res) ∨
      ∃ res', E.phase = .reading res' ∧ E' = E.finish res' := by
  unfold sourceStops at h
  split at h
  case h_1 hrun =>
    split_ifs at h with hblocked
    exact .inl ⟨hrun, by simpa using hblocked, (Option.some.inj h).symm⟩
  case h_2 res' hph => exact .inr ⟨res', hph, (Option.some.inj h).symm⟩
  case h_3 => cases h

lemma acts_closeQueue (h : E.closeQueue = some E') : E.Acts .closeQueue E' [] := by
  unfold Endpoint.closeQueue at h
  split at h
  case h_2 => cases h
  case h_1 hph =>
    obtain rfl := Option.some.inj h
    exact .closeQueue hph

lemma acts_drainFrame (h : E.act .drainFrame = some (E', out)) : E.Acts .drainFrame E' out := by
  simp only [act] at h
  split at h
  case h_1 hph hframes =>
    obtain ⟨rfl, rfl⟩ := Prod.mk.inj (Option.some.inj h)
    exact .drainFrame hph hframes
  case h_2 hph hframes =>
    obtain ⟨rfl, rfl⟩ := Prod.mk.inj (Option.some.inj h)
    exact .drained hph hframes
  case h_3 => cases h

lemma acts_closeSink (h : E.act .closeSink = some (E', out)) : E.Acts .closeSink E' out := by
  simp only [act] at h
  split at h
  case h_2 => cases h
  case h_1 hph =>
    obtain ⟨rfl, rfl⟩ := Prod.mk.inj (Option.some.inj h)
    exact .closeSink hph

/-- **Actions**: a step of the endpoint on its own goes one of these ways. -/
theorem acts (h : E.act a = some (E', out)) : E.Acts a E' out := by
  have mapped : ∀ {o : Option Endpoint}, o.map (·, ([] : List Message)) = some (E', out) →
      o = some E' ∧ out = [] := by
    intro o ho
    obtain ⟨F, hF, heq⟩ := Option.map_eq_some_iff.mp ho
    obtain ⟨rfl, rfl⟩ := Prod.mk.inj heq
    exact ⟨hF, rfl⟩
  have handle : ∀ {α : Type} {id : UInt32} {i : ℕ} {g : MuxStream → MuxStream × List Frame × α},
      (((E.owns id i).map fun m => (E.update id i (g m).1 (g m).2.1, (g m).2.2)).map
        fun r => (r.1, ([] : List Message))) = some (E', out) →
      ∃ m, E.owns id i = some m ∧ E' = E.update id i (g m).1 (g m).2.1 ∧ out = [] := by
    intro α id i g ho
    obtain ⟨r, hr, heq⟩ := Option.map_eq_some_iff.mp ho
    obtain ⟨m, hown, rfl⟩ := Option.map_eq_some_iff.mp hr
    obtain ⟨rfl, rfl⟩ := Prod.mk.inj heq
    exact ⟨m, hown, rfl, rfl⟩
  cases a with
  | newStreamChannel id host port =>
      obtain ⟨hE, rfl⟩ := mapped h
      exact acts_newStreamChannel hE
  | sendConnect id j =>
      obtain ⟨hE, rfl⟩ := mapped h
      exact acts_sendConnect hE
  | awaitStream id j =>
      obtain ⟨hE, rfl⟩ := mapped h
      exact acts_awaitStream hE
  | retryStream id j id' =>
      obtain ⟨hE, rfl⟩ := mapped h
      exact acts_retryStream hE
  | cancelStream id j =>
      obtain ⟨hE, rfl⟩ := mapped h
      exact acts_cancelStream hE
  | requestBind id host port t =>
      obtain ⟨hE, rfl⟩ := mapped h
      exact acts_requestBind hE
  | sendBind id j =>
      obtain ⟨hE, rfl⟩ := mapped h
      exact acts_sendBind hE
  | awaitBind id j =>
      obtain ⟨hE, rfl⟩ := mapped h
      exact acts_awaitBind hE
  | cancelBind id j =>
      obtain ⟨hE, rfl⟩ := mapped h
      exact acts_cancelBind hE
  | acceptStreamChannel =>
      obtain ⟨hE, rfl⟩ := mapped h
      exact acts_acceptStreamChannel hE
  | getDatagram =>
      obtain ⟨hE, rfl⟩ := mapped h
      exact acts_getDatagram hE
  | sendDatagram d =>
      simp only [act] at h
      split_ifs at h with halive
      obtain ⟨rfl, rfl⟩ := Prod.mk.inj (Option.some.inj h)
      exact acts_sendDatagram halive
  | nextBindRequest =>
      obtain ⟨hE, rfl⟩ := mapped h
      exact acts_nextBindRequest hE
  | reply id i accepted =>
      simp only [act] at h
      split_ifs at h with hown
      obtain ⟨rfl, rfl⟩ := Prod.mk.inj (Option.some.inj h)
      exact .reply accepted hown
  | dropBind id i =>
      simp only [act] at h
      split_ifs at h with hown
      obtain ⟨rfl, rfl⟩ := Prod.mk.inj (Option.some.inj h)
      exact .dropBind hown
  | dropMux =>
      simp only [act] at h
      split_ifs at h with halive
      obtain ⟨rfl, rfl⟩ := Prod.mk.inj (Option.some.inj h)
      exact .dropMux halive
  | pollWrite id i buf =>
      obtain ⟨m, hown, rfl, rfl⟩ := handle h
      exact .pollWrite buf hown
  | copyPush id i buf =>
      simp only [act] at h
      split_ifs at h with hbuf
      obtain ⟨m, hown, rfl, rfl⟩ := handle h
      exact .copyPush hown (by simpa using hbuf)
  | pollShutdown id i =>
      obtain ⟨m, hown, rfl, rfl⟩ := handle h
      exact .pollShutdown hown
  | pollFillBuf id i =>
      obtain ⟨m, hown, rfl, rfl⟩ := handle h
      exact .pollFillBuf hown
  | consume id i amt =>
      obtain ⟨hE, rfl⟩ := mapped h
      obtain ⟨m, hown, hm⟩ := Option.bind_eq_some_iff.mp hE
      split_ifs at hm with hamt
      obtain rfl := Option.some.inj hm
      exact .consume hown hamt
  | pollRead id i remaining =>
      obtain ⟨m, hown, rfl, rfl⟩ := handle h
      exact .pollRead remaining hown
  | dropStream id i =>
      obtain ⟨m, hown, heq⟩ := Option.map_eq_some_iff.mp h
      obtain ⟨rfl, rfl⟩ := Prod.mk.inj heq
      exact .dropStream hown
  | droppedPort =>
      obtain ⟨hE, rfl⟩ := mapped h
      exact acts_droppedPort hE
  | sendFrame => exact acts_sendFrame h
  | tick => exact acts_tick h
  | resume =>
      obtain ⟨hE, rfl⟩ := mapped h
      exact acts_resume hE
  | sinkError =>
      obtain ⟨hE, rfl⟩ := mapped h
      exact acts_sinkError hE
  | sourceError =>
      obtain ⟨hE, rfl⟩ := mapped h
      obtain ⟨hrun, hfree, rfl⟩ | ⟨res, hph, rfl⟩ := sourceStops_eq hE
      · exact .sourceError hrun hfree
      · exact .lastError hph
  | sourceEnd =>
      obtain ⟨hE, rfl⟩ := mapped h
      obtain ⟨hrun, hfree, rfl⟩ | ⟨res, hph, rfl⟩ := sourceStops_eq hE
      · exact .sourceEnd hrun hfree
      · exact .lastMessage hph
  | closeQueue =>
      obtain ⟨hE, rfl⟩ := mapped h
      exact acts_closeQueue hE
  | drainFrame => exact acts_drainFrame h
  | closeSink => exact acts_closeSink h

end Endpoint

end Penguin.Mux
