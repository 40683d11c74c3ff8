import Penguin.Mux.Actions

/-!
What a step of an endpoint is made of.

Every call of the user, every iteration of the loops and every message changes the state by a
few kinds of updates: a frame is queued, the counters of handles change, a handle is made or
dropped, a bind request comes in or is dropped, or something happens that neither the queue nor
the notifications nor the handles see. What holds of these holds of a step, except for what the
step takes out of a queue at its start.
-/

namespace Penguin.Mux

open Relation Penguin.Lib

/-- On whose behalf a frame is queued. -/
inductive Origin
  | connect (id : UInt32) (j : ℕ)
  | bind (id : UInt32) (j : ℕ)
  | write (id : UInt32) (i : ℕ)
  | shutdown (id : UInt32) (i : ℕ)
  | read (id : UInt32) (i : ℕ)
  /-- `close_port_local`, for the handle of the slot. -/
  | close (id : UInt32) (i : ℕ)
  /-- A bind request that the user was given. -/
  | request (id : UInt32) (i : ℕ)
  /-- The task answers the message with this number. -/
  | answer (k : ℕ)
  /-- Datagrams, and bind requests that nobody was given. -/
  | other
  deriving DecidableEq, Repr

/-- The frames that are queued on behalf of such an object. -/
def Origin.Makes : Origin → Frame → Prop
  | .connect id _, f => ∃ p, f = ⟨id, .connect p⟩
  | .bind id _, f => ∃ p, f = ⟨id, .bind p⟩
  | .write id _, f => ∃ data, f = ⟨id, .push data⟩
  | .shutdown id _, f => f = ⟨id, .finish⟩
  | .read id _, f => ∃ n, f = ⟨id, .acknowledge n⟩
  | .close id _, f => f = ⟨id, .reset⟩
  | .request id _, f => f = ⟨id, .finish⟩ ∨ f = ⟨id, .reset⟩
  | .answer _, f => f.payload = .reset ∨ ∃ n, f.payload = .acknowledge n
  | .other, f => f.payload = .reset ∨ ∃ p, f.payload = .datagram p

namespace Endpoint

/-- The handle of the slot of a flow. -/
def handleOf (E : Endpoint) (id : UInt32) : Option ℕ :=
  match E.flows id with
  | some (.established d) => some d.stream
  | _ => none

/-- Closing a slot. -/
def closeOrigin (E : Endpoint) (id : UInt32) : Origin :=
  match E.handleOf id with
  | some i => .close id i
  | none => .other

/-- On whose behalf a step queues frames. `seen` messages have arrived so far. -/
def origin (E : Endpoint) (seen : ℕ) : Event → Origin
  | .act (.sendConnect id j) => .connect id j
  | .act (.sendBind id j) => .bind id j
  | .act (.pollWrite id i _) | .act (.copyPush id i _) => .write id i
  | .act (.pollShutdown id i) => .shutdown id i
  | .act (.pollFillBuf id i) | .act (.pollRead id i _) => .read id i
  | .act (.reply id i _) | .act (.dropBind id i) => .request id i
  | .act .droppedPort =>
    match E.droppedPorts with
    | n :: _ => if n.id = 0 then .other else E.closeOrigin n.id
    | [] => .other
  | .recv (.binary data) =>
    match Frame.tryFrom data with
    | .ok ⟨id, .push bytes⟩ =>
      if (E.dispatch id bytes).2 = some (.error .full) then E.closeOrigin id else .answer seen
    | _ => .answer seen
  | _ => .other

/-! ### The life of the task -/

/-- How the task gets from one phase to the next, and by which steps. -/
inductive PhaseStep : Event → Phase → Phase → Prop
  | windDown (e : Event) (drain : Bool) (res : Except Error Unit) :
      PhaseStep e .running (.yielding drain res)
  | closeQueue (drain : Bool) (res : Except Error Unit) :
      PhaseStep (.act .closeQueue) (.yielding drain res)
        (if drain then .draining res else .closing res)
  | sinkError (res : Except Error Unit) :
      PhaseStep (.act .sinkError) (.draining res) (.closing res)
  | drained (res : Except Error Unit) :
      PhaseStep (.act .drainFrame) (.draining res) (.closing res)
  | closeSink (res : Except Error Unit) :
      PhaseStep (.act .closeSink) (.closing res) (.reading res)
  | finish (e : Event) (res res' : Except Error Unit) :
      PhaseStep e (.reading res) (.finished res')

/-! ### Updates -/

/-- Neither the two channels into the task nor the handles and bind requests are touched. -/
structure Quiet (E E' : Endpoint) : Prop where
  opts : E'.opts = E.opts
  txFrames : E'.txFrames = E.txFrames
  droppedPorts : E'.droppedPorts = E.droppedPorts
  streams : E'.streams = E.streams
  binds : E'.binds = E.binds
  muxAlive : E'.muxAlive = E.muxAlive
  phase : E'.phase = E.phase

/-- An update in a step of kind `e` that queues at most frames that `P` allows. -/
inductive Update (P : Frame → Prop) (e : Event) : Endpoint → Endpoint → Prop
  | quiet {E E' : Endpoint} (h : Quiet E E') : Update P e E E'
  | send (E : Endpoint) (f : Frame) (hf : P f) : Update P e E (E.send f)
  | streams (E : Endpoint) (g : UInt32 → List MuxStream)
      (hlen : ∀ id, (g id).length = (E.streams id).length) : Update P e E { E with streams := g }
  | addStream (E : Endpoint) (id : UInt32) (m : MuxStream) : Update P e E (E.addStream id m)
  | dropStream (E : Endpoint) (id : UInt32) (i : ℕ) : Update P e E (E.dropStream id i)
  | addBind (E : Endpoint) (id : UInt32) (p : BindPayload) : Update P e E (E.addBind id p)
  | dropBind (E : Endpoint) (id : UInt32) (i : ℕ) (hf : P (Frame.newReset id)) :
      Update P e E (E.dropBind id i)
  | phase (E : Endpoint) (ph : Phase) (h : PhaseStep e E.phase ph) :
      Update P e E { E with phase := ph }

/-- One update after the other. -/
def Updates (P : Frame → Prop) (e : Event) : Endpoint → Endpoint → Prop :=
  ReflTransGen (Update P e)

variable {E E' : Endpoint} {P : Frame → Prop} {e : Event}

namespace Updates

lemma refl (E : Endpoint) : Updates P e E E := ReflTransGen.refl

lemma trans {F : Endpoint} (h : Updates P e E F) (h' : Updates P e F E') : Updates P e E E' :=
  ReflTransGen.trans h h'

lemma single (h : Update P e E E') : Updates P e E E' := ReflTransGen.single h

lemma of_eq (hopts : E'.opts = E.opts) (hframes : E'.txFrames = E.txFrames)
    (hports : E'.droppedPorts = E.droppedPorts) (hstreams : E'.streams = E.streams)
    (hbinds : E'.binds = E.binds) (halive : E'.muxAlive = E.muxAlive)
    (hphase : E'.phase = E.phase) : Updates P e E E' :=
  single (.quiet ⟨hopts, hframes, hports, hstreams, hbinds, halive, hphase⟩)

lemma send {f : Frame} (hf : P f) : Updates P e E (E.send f) := single (.send E f hf)

lemma dropStream (id : UInt32) (i : ℕ) : Updates P e E (E.dropStream id i) :=
  single (.dropStream E id i)

lemma dropBind {id : UInt32} (i : ℕ) (hf : P (Frame.newReset id)) :
    Updates P e E (E.dropBind id i) := single (.dropBind E id i hf)

lemma modifyStream (id : UInt32) (i : ℕ) (f : MuxStream → MuxStream) :
    Updates P e E (E.modifyStream id i f) := by
  refine single (.streams E _ fun x => ?_)
  by_cases hx : x = id
  · subst hx
    simp
  · simp [Function.update_of_ne hx]

lemma foldl {α : Type} {f : Endpoint → α → Endpoint} {l : List α}
    (hf : ∀ F, ∀ a ∈ l, Updates P e F (f F a)) (F : Endpoint) : Updates P e F (l.foldl f F) := by
  induction l generalizing F with
  | nil => exact .refl F
  | cons a l ih =>
      have hrest := ih fun F b hb => hf F b (List.mem_cons_of_mem a hb)
      exact (hf F a (by simp)).trans (hrest _)

end Updates

/-! ### The task -/

lemma updates_closePort {id : UInt32} (inhibit : Bool)
    (hP : ∀ i, E.handleOf id = some i → P (Frame.newReset id)) :
    Updates P e E (E.closePort id inhibit) := by
  unfold closePort
  split
  case h_2 => exact .refl _
  case h_1 removed hslot =>
    have hclosed : Updates P e E (E.setSlot id none) := .of_eq rfl rfl rfl rfl rfl rfl rfl
    refine hclosed.trans ?_
    unfold closePortLocal
    cases removed with
    | requested j => exact .of_eq rfl rfl rfl rfl rfl rfl rfl
    | bindRequested j => exact .of_eq rfl rfl rfl rfl rfl rfl rfl
    | established d =>
        dsimp only
        split_ifs
        · refine (Updates.modifyStream id d.stream _).trans (.send (hP d.stream ?_))
          simp [handleOf, hslot]
        · exact .modifyStream id d.stream _

lemma updates_sendStream (id : UInt32) (i : ℕ) : Updates P e E (E.sendStream id i).1 := by
  unfold sendStream
  split_ifs
  · exact .dropStream id i
  · exact .of_eq rfl rfl rfl rfl rfl rfl rfl
  · exact .of_eq rfl rfl rfl rfl rfl rfl rfl

lemma updates_sendBindRequest {id : UInt32} (i : ℕ) (hP : P (Frame.newReset id)) :
    Updates P e E (E.sendBindRequest id i).1 := by
  unfold sendBindRequest
  split_ifs
  · exact .dropBind i hP
  · exact .of_eq rfl rfl rfl rfl rfl rfl rfl
  · exact .of_eq rfl rfl rfl rfl rfl rfl rfl

lemma updates_establish (id : UInt32) (m : MuxStream) : Updates P e E (E.establish id m) := by
  have hadd : Updates P e E (E.addStream id m) := .single (.addStream E id m)
  exact hadd.trans (.of_eq rfl rfl rfl rfl rfl rfl rfl)

/-- A frame is answered with `Reset`s and, if it is a `Connect` that is accepted, with an
`Acknowledge`. -/
lemma Handles.updates {f : Frame} {ignoreBind : Bool} {r : Poll (Except Error Unit)}
    (h : E.Handles ignoreBind f E' r) (hreset : ∀ id, P (Frame.newReset id))
    (hack : ∀ p, f.payload = .connect p → E.flows f.id = none →
      P (Frame.newAcknowledge f.id E.opts.rwnd)) : Updates P e E E' := by
  cases h with
  | connectUsed | ackBogus | finishBogus | pushBogus | bindOff => exact .send (hreset _)
  | connect p hslot =>
      exact ((updates_establish _ _).trans (.send (hack p rfl hslot))).trans (updates_sendStream _ _)
  | connectClosed | ackGone => exact (updates_establish _ _).trans (.dropStream _ _)
  | ackEstablished | push => exact .modifyStream _ _ _
  | ackRequested => exact (updates_establish _ _).trans (.of_eq rfl rfl rfl rfl rfl rfl rfl)
  | @finishRequested id =>
      have hclosed : Updates P e E (E.setSlot id none) := .of_eq rfl rfl rfl rfl rfl rfl rfl
      exact hclosed.trans (.send (hreset id))
  | finishBind | finishEstablished | datagram => exact .of_eq rfl rfl rfl rfl rfl rfl rfl
  | reset | pushFull => exact updates_closePort _ fun _ _ => hreset _
  | @bind id p =>
      have hadd : Updates P e E (E.addBind id p) := .single (.addBind E id p)
      exact hadd.trans (updates_sendBindRequest _ (hreset id))
  | pushClosed | bindIgnored | datagramGone | datagramLost => exact .refl E

/-- A `Push` is dispatched, or answered with a `Reset`; if the channel is full its slot is
closed. -/
lemma updates_push (id : UInt32) (data : Bytes) (ignoreBind : Bool) (k : ℕ) :
    Updates (if (E.dispatch id data).2 = some (.error .full) then E.closeOrigin id
      else .answer k).Makes e E (E.processFrame ⟨id, .push data⟩ ignoreBind).1 := by
  split_ifs with hfull
  · rw [processFrame_full ignoreBind hfull]
    refine updates_closePort false fun i' hi' => ?_
    simp [closeOrigin, hi', Origin.Makes, Frame.newReset]
  · exact (E.handles ⟨id, .push data⟩ ignoreBind).updates (fun _ => .inl rfl) nofun

lemma updates_processMessage (msg : Message) (ignoreBind : Bool) (k : ℕ) :
    Updates (E.origin k (.recv msg)).Makes (.recv msg) E (E.processMessage msg ignoreBind).1 := by
  rcases E.processMessage_cases msg ignoreBind with ⟨-, heq⟩ | ⟨data, ⟨id, p⟩, rfl, hdec, heq⟩
  · rw [heq]
    exact .refl E
  · rw [heq]
    cases p with
    | push bytes =>
        simp only [origin, hdec]
        exact updates_push id bytes ignoreBind k
    | _ =>
        simp only [origin, hdec]
        exact (E.handles _ ignoreBind).updates (fun _ => .inl rfl) fun _ _ _ => .inr ⟨_, rfl⟩

lemma updates_startWindDown (hrun : E.phase = .running) (drain : Bool)
    (res : Except Error Unit) (hP : ∀ id, P (Frame.newReset id)) :
    Updates P e E (E.startWindDown drain res) := by
  have hunblock : Updates P e E { E with blocked := none } := .of_eq rfl rfl rfl rfl rfl rfl rfl
  have hcancel : Updates P e E E.cancelNext := by
    unfold cancelNext
    split
    · exact hunblock.trans (.dropStream _ _)
    · exact hunblock.trans (.dropBind _ (hP _))
    · exact .refl _
  have hdisallow : Updates P e E.cancelNext E.cancelNext.disallowWrites := by
    refine .single (.streams _ _ fun id => ?_)
    split <;> simp
  refine (hcancel.trans hdisallow).trans (.single (.phase _ _ ?_))
  have hph : E.cancelNext.disallowWrites.phase = .running := phase_cancelNext.trans hrun
  rw [hph]
  exact .windDown e drain res

/-- Any `Reset` may be queued with a message, unless it is a `Push`, and that does not end the
task. -/
lemma makes_reset_or_push (E : Endpoint) (msg : Message) (ignoreBind : Bool) (k : ℕ) :
    (∀ id, (E.origin k (.recv msg)).Makes (Frame.newReset id)) ∨
      (E.processMessage msg ignoreBind).2 = .ready (.ok false) := by
  cases msg with
  | binary data =>
      cases hdec : Frame.tryFrom data with
      | error e =>
          refine .inl fun id => ?_
          simp only [origin, hdec]
          exact .inl rfl
      | ok f =>
          obtain ⟨id, p⟩ := f
          cases p with
          | push bytes =>
              have hok : (E.processFrame ⟨id, .push bytes⟩ ignoreBind).2 = .ready (.ok ()) := by
                simp only [processFrame]
                split <;> rfl
              refine .inr ?_
              rcases hres : E.processFrame ⟨id, .push bytes⟩ ignoreBind with ⟨E₁, r⟩
              rw [hres] at hok
              obtain rfl : r = .ready (.ok ()) := hok
              simp only [processMessage, hdec, hres]
          | _ =>
              refine .inl fun id => ?_
              simp only [origin, hdec]
              exact .inl rfl
  | ping => exact .inl fun id => .inl rfl
  | pong => exact .inl fun id => .inl rfl
  | close => exact .inl fun id => .inl rfl

lemma updates_finish {res' : Except Error Unit} (hph : E.phase = .reading res')
    (res : Except Error Unit) : Updates P e E (E.finish res) := by
  have hstreams : Updates P e E { E with streams := E.drainFlows.streams } := by
    refine .single (.streams E _ fun id => ?_)
    dsimp only [drainFlows]
    split <;> simp
  have hphase : Updates P e { E with streams := E.drainFlows.streams }
      { E with streams := E.drainFlows.streams, phase := .finished res } := by
    refine .single (.phase _ _ ?_)
    rw [show ({ E with streams := E.drainFlows.streams } : Endpoint).phase = .reading res' from hph]
    exact .finish e res' res
  exact (hstreams.trans hphase).trans (.of_eq rfl rfl rfl rfl rfl rfl rfl)

/-- A message is processed, and may end the task. -/
lemma updates_recv_of_message {msg : Message} (h : E.recv msg = some E')
    (hmsg : ∀ ignoreBind, Updates P e E (E.processMessage msg ignoreBind).1)
    (hend : (∀ id, P (Frame.newReset id)) ∨ (E.processMessage msg false).2 = .ready (.ok false)) :
    Updates P e E E' := by
  obtain ⟨hrun, -, rfl⟩ | ⟨res, hph, hlast⟩ := recv_cases h
  · refine (hmsg false).trans ?_
    have hfin : E.phase.isFinished = false := by simp [hrun, Phase.isFinished]
    have hphase := (sim_processMessage msg false 0 hfin).2.trans hrun
    rcases hend with hreset | hok
    · rcases (E.processMessage msg false).2 with (err | b) | _
      · exact updates_startWindDown hphase _ _ hreset
      · cases b
        · exact .refl _
        · exact updates_startWindDown hphase _ _ hreset
      · exact .refl _
    · rw [hok]
      exact .refl _
  · have hfin : E.phase.isFinished = false := by simp [hph, Phase.isFinished]
    have hphase := (sim_processMessage msg true 0 hfin).2.trans hph
    obtain ⟨err, -, rfl⟩ | ⟨-, rfl⟩ := hlast
    · refine (hmsg true).trans (.single (.phase _ _ ?_))
      rw [hphase]
      exact .finish _ _ _
    · exact hmsg true

lemma updates_recv {msg : Message} (h : E.recv msg = some E') (k : ℕ) :
    Updates (E.origin k (.recv msg)).Makes (.recv msg) E E' :=
  updates_recv_of_message h (fun ignoreBind => updates_processMessage msg ignoreBind k)
    (makes_reset_or_push E msg false k)

/-- What is queued with a message: `Reset`s, and the acknowledgement of a `Connect` that is
accepted. -/
lemma updates_recv_of {msg : Message} (h : E.recv msg = some E')
    (hreset : ∀ id, P (Frame.newReset id))
    (hack : ∀ data id p, msg = .binary data → Frame.tryFrom data = .ok ⟨id, .connect p⟩ →
      E.flows id = none → P (Frame.newAcknowledge id E.opts.rwnd)) : Updates P e E E' := by
  refine updates_recv_of_message h (fun ignoreBind => ?_) (.inl hreset)
  rcases E.processMessage_cases msg ignoreBind with ⟨-, heq⟩ | ⟨data, ⟨id, q⟩, rfl, hdec, heq⟩
  · rw [heq]
    exact .refl E
  · rw [heq]
    refine (E.handles _ ignoreBind).updates hreset fun p hp hnone => ?_
    obtain rfl : q = .connect p := hp
    exact hack data id p rfl hdec hnone

/-! ### The user -/

lemma updates_update (id : UInt32) (i : ℕ) (m : MuxStream) {sent : List Frame}
    (hP : ∀ f ∈ sent, P f) : Updates P e E (E.update id i m sent) :=
  (Updates.modifyStream id i _).trans (.foldl (fun _ f hf => .send (hP f hf)) _)

/-- What the operations of a handle queue. -/
lemma makes_pollWrite (m : MuxStream) (id : UInt32) (i : ℕ) (tx : Bool) (buf : Bytes) :
    ∀ f ∈ (m.pollWrite id tx buf).2.1, (Origin.write id i).Makes f := by
  rcases m.pollWrite_cases id tx buf with
    ⟨-, h⟩ | ⟨-, -, h⟩ | ⟨-, -, -, h⟩ | ⟨-, -, htx, h⟩
  · simp [h]
  · simp [h]
  · simp [h]
  · simp [h, Origin.Makes, Frame.newPush]

lemma makes_shutdownInner (m : MuxStream) (id : UInt32) (i : ℕ) (tx : Bool) :
    ∀ f ∈ (m.shutdownInner id tx).2.1, (Origin.shutdown id i).Makes f := by
  unfold MuxStream.shutdownInner
  split_ifs
  · simp
  · simp [Origin.Makes, Frame.newFinish]
  · simp

lemma makes_pollFillBuf (m : MuxStream) (id : UInt32) (i : ℕ) (tx rx : Bool) :
    ∀ f ∈ (m.pollFillBuf id tx rx).2.1, (Origin.read id i).Makes f := by
  rcases m.pollFillBuf_cases with hb | ⟨hb, hrx⟩ | ⟨next, rest, hb, hrx, hlt | hge⟩
  · simp [MuxStream.pollFillBuf_of_buf rx hb]
  · simp [MuxStream.pollFillBuf_of_empty rx hb hrx]
  · simp [MuxStream.pollFillBuf_of_lt rx hb hrx hlt]
  · cases tx <;>
      simp [MuxStream.pollFillBuf_of_ge rx hb hrx hge, Frame.newAcknowledge, Origin.Makes]

/-- What a step takes out of a queue before it does anything else; or, if the `Multiplexor` is
dropped, the notification that is sent first. -/
def popped (E : Endpoint) : Action → Endpoint
  | .droppedPort => { E with droppedPorts := E.droppedPorts.tail }
  | .sendFrame | .drainFrame => { E with txFrames := E.txFrames.tail }
  | .dropMux =>
    { E with
      muxAlive := false
      droppedPorts := if E.phase.isFinished then E.droppedPorts
        else E.droppedPorts ++ [.multiplexor] }
  | _ => E

/-- **What a step is made of**: after what it takes out of a queue, every step is a sequence
of updates. -/
theorem act_updates {a : Action} {out : List Message} (h : E.act a = some (E', out)) (k : ℕ) :
    Updates (E.origin k (.act a)).Makes (.act a) (E.popped a) E' := by
  have quiet : ∀ {F G : Endpoint}, G.opts = F.opts → G.txFrames = F.txFrames →
      G.droppedPorts = F.droppedPorts → G.streams = F.streams → G.binds = F.binds →
      G.muxAlive = F.muxAlive → G.phase = F.phase → Updates (E.origin k (.act a)).Makes (.act a) F G :=
    fun h₁ h₂ h₃ h₄ h₅ h₆ h₇ => .of_eq h₁ h₂ h₃ h₄ h₅ h₆ h₇
  -- a step that is a `Reset` at most
  have reset : ∀ id, Origin.other.Makes (Frame.newReset id) := fun _ => .inl rfl
  cases acts h with
  | newStreamChannel | streamGiven | streamRejected | senderGone | retryStream | requestBind
  | bindFails | connectFails | awaitBind | cancelBind | cancelStream | acceptStreamChannel
  | getDatagram | nextBindRequest => exact quiet rfl rfl rfl rfl rfl rfl rfl
  | @connectSent id j =>
      have hcall : Updates (E.origin k (.act (.sendConnect id j))).Makes _ E
          (E.modifyCall id j fun c => { c with stage := .awaiting }) :=
        quiet rfl rfl rfl rfl rfl rfl rfl
      exact hcall.trans (.send ⟨_, rfl⟩)
  | @connectFailsWith id i j =>
      have hcall : Updates (E.origin k (.act (.sendConnect id j))).Makes _ E
          (E.modifyCall id j fun c => { c with stage := .returned }) :=
        quiet rfl rfl rfl rfl rfl rfl rfl
      exact hcall.trans (.dropStream id i)
  | @cancelStreamWith id i j =>
      have hcall : Updates (E.origin k (.act (.cancelStream id j))).Makes _ E
          (E.modifyCall id j fun c => { c with stage := .cancelled }) :=
        quiet rfl rfl rfl rfl rfl rfl rfl
      exact hcall.trans (.dropStream id i)
  | @bindSent id j =>
      have hcall : Updates (E.origin k (.act (.sendBind id j))).Makes _ E
          (E.modifyBindCall id j fun c => { c with stage := .awaiting }) :=
        quiet rfl rfl rfl rfl rfl rfl rfl
      exact hcall.trans (.send ⟨_, rfl⟩)
  | sendDatagram => exact .send (.inr ⟨_, rfl⟩)
  | datagramRefused | tick => exact .refl E
  | reply accepted =>
      refine .send ?_
      cases accepted
      · exact .inr rfl
      · exact .inl rfl
  | dropBind => exact .dropBind _ (.inr rfl)
  | dropMux =>
      have hclear : Updates (E.origin k (.act .dropMux)).Makes _ (E.popped .dropMux)
          { E.popped .dropMux with datagrams := [], conRecvStream := [], bndRequests := [] } :=
        quiet rfl rfl rfl rfl rfl rfl rfl
      refine hclear.trans (.trans ?_ (.foldl (fun _ p _ => .dropBind p.2 (.inl rfl)) _))
      exact .foldl (fun _ p _ => .dropStream p.1 p.2) _
  | pollWrite | copyPush => exact updates_update _ _ _ (makes_pollWrite _ _ _ _ _)
  | pollShutdown => exact updates_update _ _ _ (makes_shutdownInner _ _ _ _)
  | pollFillBuf => exact updates_update _ _ _ (makes_pollFillBuf _ _ _ _ _)
  | consume => exact updates_update _ _ _ (by simp)
  | pollRead =>
      refine updates_update _ _ _ ?_
      rw [sent_pollRead]
      exact makes_pollFillBuf _ _ _ _ _
  | dropStream => exact .dropStream _ _
  | @droppedZero n rest hrun hports hzero =>
      simp only [origin, popped, hports, List.tail_cons, if_pos hzero]
      exact updates_startWindDown (E := { E with droppedPorts := rest }) hrun _ _ reset
  | @droppedPort n rest hrun hports hid =>
      simp only [origin, popped, hports, List.tail_cons, if_neg hid]
      refine updates_closePort false fun i hi => ?_
      have hi' : E.handleOf n.id = some i := hi
      simp [closeOrigin, hi', Origin.Makes, Frame.newReset]
  | sendFrame hrun hframes | drainFrame hph hframes =>
      simp only [popped, hframes, List.tail_cons]
      exact .refl _
  | @resumeGone id i hrun =>
      have hunblock : Updates Origin.other.Makes (.act .resume) E { E with blocked := none } :=
        quiet rfl rfl rfl rfl rfl rfl rfl
      have hph : ({ E with blocked := none }.dropStream id i).phase = .running :=
        (phase_dropStream id i).trans hrun
      exact (hunblock.trans (.dropStream id i)).trans (updates_startWindDown hph _ _ reset)
  | @resumeStream id i =>
      have hunblock : Updates Origin.other.Makes (.act .resume) E { E with blocked := none } :=
        quiet rfl rfl rfl rfl rfl rfl rfl
      exact hunblock.trans (updates_sendStream id i)
  | @resumeBind id i =>
      have hunblock : Updates Origin.other.Makes (.act .resume) E { E with blocked := none } :=
        quiet rfl rfl rfl rfl rfl rfl rfl
      exact hunblock.trans (updates_sendBindRequest i (reset id))
  | sinkError hrun | sourceError hrun | sourceEnd hrun => exact updates_startWindDown hrun _ _ reset
  | lastError hph | lastMessage hph => exact updates_finish hph _
  | sinkErrorDraining hph =>
      refine .single (.phase _ _ ?_)
      rw [show (E.popped .sinkError).phase = _ from hph]
      exact .sinkError _
  | closeQueue hph =>
      refine .single (.phase _ _ ?_)
      rw [show (E.popped .closeQueue).phase = _ from hph]
      exact .closeQueue _ _
  | @drained res hph hframes =>
      have hphase : PhaseStep (.act .drainFrame) E.phase (.closing res) := by
        rw [hph]
        exact .drained res
      have hpop : Updates (E.origin k (.act .drainFrame)).Makes (.act .drainFrame)
          (E.popped .drainFrame) E :=
        .of_eq rfl (by simp [popped, hframes]) rfl rfl rfl rfl rfl
      exact hpop.trans (.single (.phase E _ hphase))
  | closeSink hph =>
      refine .single (.phase _ _ ?_)
      rw [show (E.popped .closeSink).phase = _ from hph]
      exact .closeSink _

/-! ### The two channels into the task -/

/-- Both channels only get longer, and a closed queue takes no more frames. -/
structure Grows (E E' : Endpoint) : Prop where
  txFrames : E.txFrames <+: E'.txFrames
  closed : E.txOpen = false → E'.txOpen = false ∧ E'.txFrames = E.txFrames
  droppedPorts : E.droppedPorts <+: E'.droppedPorts

lemma Grows.refl (E : Endpoint) : Grows E E :=
  ⟨List.prefix_rfl, fun h => ⟨h, rfl⟩, List.prefix_rfl⟩

lemma Grows.trans {F : Endpoint} (h : Grows E F) (h' : Grows F E') : Grows E E' where
  txFrames := h.txFrames.trans h'.txFrames
  closed hc := by
    obtain ⟨hF, hframes⟩ := h.closed hc
    obtain ⟨hE', hframes'⟩ := h'.closed hF
    exact ⟨hE', hframes'.trans hframes⟩
  droppedPorts := h.droppedPorts.trans h'.droppedPorts

lemma grows_send (f : Frame) : Grows E (E.send f) := by
  by_cases hopen : E.txOpen = true
  · simp only [send, if_pos hopen]
    exact ⟨List.prefix_append _ _, fun h => by simp [hopen] at h, List.prefix_rfl⟩
  · simp only [send, if_neg hopen]
    exact .refl E

lemma PhaseStep.closed {ph ph' : Phase} (h : PhaseStep e ph ph') (hc : ph.isOpen = false) :
    ph'.isOpen = false := by
  cases h with
  | windDown | closeQueue => simp [Phase.isOpen] at hc
  | sinkError | drained | closeSink | finish => rfl

lemma Update.grows (h : Update P e E E') : Grows E E' := by
  cases h with
  | quiet h =>
      refine ⟨by rw [h.txFrames], fun hc => ⟨?_, h.txFrames⟩, by rw [h.droppedPorts]⟩
      rwa [txOpen, h.phase]
  | phase ph h =>
      refine ⟨List.prefix_rfl, fun hc => ⟨?_, rfl⟩, List.prefix_rfl⟩
      exact h.closed hc
  | send f hf => exact grows_send f
  | streams g hlen => exact ⟨List.prefix_rfl, fun hc => ⟨hc, rfl⟩, List.prefix_rfl⟩
  | addStream id m => exact ⟨List.prefix_rfl, fun hc => ⟨hc, rfl⟩, List.prefix_rfl⟩
  | addBind id p => exact ⟨List.prefix_rfl, fun hc => ⟨hc, rfl⟩, List.prefix_rfl⟩
  | dropStream id i =>
      unfold Endpoint.dropStream
      split
      case h_2 => exact .refl E
      case h_1 m hm =>
        split
        · exact .refl E
        · refine ⟨List.prefix_rfl, fun hc => ⟨hc, rfl⟩, ?_⟩
          dsimp only
          split_ifs
          · exact List.prefix_rfl
          · exact List.prefix_append _ _
  | dropBind id i hf =>
      unfold Endpoint.dropBind
      split
      · split
        · exact .refl E
        · have hbind : Grows E (E.modifyBind id i fun b => { b with dropped := true }) :=
            ⟨List.prefix_rfl, fun hc => ⟨hc, rfl⟩, List.prefix_rfl⟩
          exact hbind.trans (grows_send _)
      · exact .refl E

lemma Updates.grows (h : Updates P e E E') : Grows E E' := by
  induction h with
  | refl => exact .refl E
  | tail _ hu ih => exact ih.trans hu.grows

/-- What is queued, frame by frame. -/
lemma Updates.queued (h : Updates P e E E') :
    ∃ fs : List Frame, E'.txFrames = E.txFrames ++ fs.map finalize ∧ ∀ f ∈ fs, P f := by
  induction h with
  | refl => exact ⟨[], by simp, by simp⟩
  | @tail F F' _ hu ih =>
      obtain ⟨fs, hF, hfs⟩ := ih
      have hstep : ∃ gs : List Frame, F'.txFrames = F.txFrames ++ gs.map finalize ∧
          ∀ f ∈ gs, P f := by
        have hsend : ∀ (G : Endpoint) {f : Frame}, P f → ∃ gs : List Frame,
            (G.send f).txFrames = G.txFrames ++ gs.map finalize ∧ ∀ f ∈ gs, P f := by
          intro G f hf
          by_cases hopen : G.txOpen = true
          · exact ⟨[f], by simp [Endpoint.send, hopen], by simpa using hf⟩
          · exact ⟨[], by simp [Endpoint.send, hopen], by simp⟩
        cases hu with
        | quiet h => exact ⟨[], by simp [h.txFrames], by simp⟩
        | phase ph h => exact ⟨[], by simp, by simp⟩
        | send f hf => exact hsend F hf
        | streams g hlen => exact ⟨[], by simp, by simp⟩
        | addStream id m => exact ⟨[], by simp [Endpoint.addStream], by simp⟩
        | addBind id p => exact ⟨[], by simp [Endpoint.addBind], by simp⟩
        | dropStream id i =>
            refine ⟨[], ?_, by simp⟩
            unfold Endpoint.dropStream
            split
            · split_ifs <;> simp [Endpoint.modifyStream]
            · simp
        | dropBind id i hf =>
            unfold Endpoint.dropBind
            split
            · split
              · exact ⟨[], by simp, by simp⟩
              · exact hsend (F.modifyBind id i fun b => { b with dropped := true }) hf
            · exact ⟨[], by simp, by simp⟩
      obtain ⟨gs, hF', hgs⟩ := hstep
      refine ⟨fs ++ gs, by rw [hF', hF]; simp, fun f hf => ?_⟩
      exact (List.mem_append.mp hf).elim (hfs f) (hgs f)

/-! ### Bind requests -/

/-- The bind request has been dropped. -/
def bindDropped (E : Endpoint) (id : UInt32) (i : ℕ) : Bool :=
  (E.binds id)[i]?.any (·.dropped)

lemma bindDropped_modifyBind {f : BindRequest → BindRequest} (hf : ∀ b, b.dropped → (f b).dropped)
    {id : UInt32} {i : ℕ} (id' : UInt32) (i' : ℕ) (h : E.bindDropped id i = true) :
    (E.modifyBind id' i' f).bindDropped id i = true := by
  simp only [bindDropped, modifyBind, Lists.getElem?_update_modify]
  split_ifs with hchanged
  · obtain ⟨rfl, rfl⟩ := hchanged
    obtain ⟨b, hb, hdrop⟩ := (Option.any_eq_true _ _).mp h
    simp [hb, hf b hdrop]
  · exact h

lemma binds_send (f : Frame) : (E.send f).binds = E.binds := by
  unfold Endpoint.send
  split_ifs <;> rfl

lemma binds_dropStream (id : UInt32) (i : ℕ) : (E.dropStream id i).binds = E.binds := by
  unfold Endpoint.dropStream
  split
  · split_ifs <;> rfl
  · rfl

lemma Update.bindDropped (h : Update P e E E') {id : UInt32} {i : ℕ}
    (hd : E.bindDropped id i = true) : E'.bindDropped id i = true := by
  cases h with
  | quiet h => rwa [Endpoint.bindDropped, h.binds]
  | phase ph h => exact hd
  | send f hf => rwa [Endpoint.bindDropped, binds_send]
  | streams g hlen => exact hd
  | addStream id' m => exact hd
  | dropStream id' i' => rwa [Endpoint.bindDropped, binds_dropStream]
  | addBind id' p =>
      by_cases hid : id = id'
      · subst hid
        obtain ⟨b, hb, hdrop⟩ := (Option.any_eq_true _ _).mp hd
        have hlt := (List.getElem?_eq_some_iff.mp hb).1
        simp [Endpoint.bindDropped, Endpoint.addBind, List.getElem?_append_left hlt, hb, hdrop]
      · simpa [Endpoint.bindDropped, Endpoint.addBind, Function.update_of_ne hid] using hd
  | dropBind id' i' hf =>
      unfold Endpoint.dropBind
      split
      · split
        · exact hd
        · have := bindDropped_modifyBind (f := fun b => { b with dropped := true })
            (fun _ _ => rfl) id' i' hd
          rw [Endpoint.bindDropped] at this ⊢
          unfold Endpoint.reply Endpoint.send
          split_ifs <;> exact this
      · exact hd

lemma Updates.bindDropped (h : Updates P e E E') {id : UInt32} {i : ℕ}
    (hd : E.bindDropped id i = true) : E'.bindDropped id i = true := by
  induction h with
  | refl => exact hd
  | tail _ hu ih => exact hu.bindDropped ih

/-- Bind requests stay in their places. -/
lemma Update.length_binds (h : Update P e E E') (id : UInt32) :
    (E.binds id).length ≤ (E'.binds id).length := by
  cases h with
  | quiet h => rw [h.binds]
  | send f hf => rw [binds_send]
  | dropStream id' i' => rw [binds_dropStream]
  | phase | streams | addStream => exact le_rfl
  | addBind id' p =>
      by_cases hid : id = id'
      · simp [hid, Endpoint.addBind]
      · simp [Endpoint.addBind, Function.update_of_ne hid]
  | dropBind id' i' hf =>
      unfold Endpoint.dropBind
      split
      · split
        · exact le_rfl
        · rw [Endpoint.reply, binds_send]
          by_cases hid : id = id'
          · simp [hid, modifyBind]
          · simp [modifyBind, Function.update_of_ne hid]
      · exact le_rfl

lemma Updates.length_binds (h : Updates P e E E') (id : UInt32) :
    (E.binds id).length ≤ (E'.binds id).length := by
  induction h with
  | refl => exact le_rfl
  | tail _ hu ih => exact ih.trans (hu.length_binds id)

/-- What holds of the phase of the task and survives its transitions. -/
lemma Updates.phase {I : Phase → Prop} (h : Updates P e E E') (hI : I E.phase)
    (hstep : ∀ ph ph', I ph → PhaseStep e ph ph' → I ph') : I E'.phase := by
  induction h with
  | refl => exact hI
  | tail _ hu ih =>
      cases hu with
      | quiet h => rwa [h.phase]
      | phase ph h => exact hstep _ _ ih h
      | send f hf => rwa [phase_send]
      | dropStream id i => rwa [phase_dropStream]
      | dropBind id i hf => rwa [phase_dropBind]
      | streams | addStream | addBind => exact ih

end Endpoint

end Penguin.Mux
