import Penguin.Mux.Flow
import Penguin.Mux.Isolation

/-!
Every step of an endpoint is a run of steps of each of its flows.
-/

namespace Penguin.Mux

open View Penguin.Lib

/-! ### Views of an endpoint -/

/-- A frame that is not a datagram is decoded as it was encoded. -/
lemma tryFrom_finalize {f : Frame} (h : f.payload.isDatagram = false) :
    Frame.tryFrom (Endpoint.finalize f) = .ok f := by
  have hfit : f.payload.HostFits := by
    cases hp : f.payload <;> simp [hp, Payload.isDatagram, Payload.HostFits] at h ⊢
  have hlong : ¬ f.payload.ShortDatagram := by
    cases hp : f.payload <;> simp [hp, Payload.isDatagram, Payload.ShortDatagram] at h ⊢
  obtain ⟨bytes, hbytes, -⟩ := Frame.toVec_length hfit
  have hback := Frame.tryFrom_toVec hbytes
  rw [if_neg hlong] at hback
  simp [Endpoint.finalize, hbytes, hback]

/-- A finalized frame is found again under its own id, unless it is a datagram. -/
lemma onFlow_finalize (x : UInt32) {f : Frame} (h : f.payload.isDatagram = false) :
    onFlow x (Endpoint.finalize f) = if f.id = x then some f.payload else none := by
  simp [onFlow, tryFrom_finalize h, h]

lemma onFlow_finalize_datagram (x : UInt32) {f : Frame} (h : f.payload.isDatagram = true) :
    onFlow x (Endpoint.finalize f) = none := by
  unfold onFlow
  cases hv : f.toVec with
  | error e => simp [Endpoint.finalize, hv, Frame.tryFrom, checkRemaining]
  | ok bytes =>
      have hback := Frame.tryFrom_toVec hv
      by_cases hshort : f.payload.ShortDatagram
      · rw [if_pos hshort] at hback
        simp [Endpoint.finalize, hv, hback]
      · rw [if_neg hshort] at hback
        simp [Endpoint.finalize, hv, hback, h]

lemma StreamCall.isInserted_answer (r : Option ℕ) (c : StreamCall) :
    (c.answer r).stage.isInserted = c.stage.isInserted := by
  unfold StreamCall.answer
  split <;> rfl

lemma BindCall.isInserted_answer (r : Bool) (c : BindCall) :
    (c.answer r).stage.isInserted = c.stage.isInserted := by
  unfold BindCall.answer
  split <;> rfl

namespace Endpoint

/-- What the endpoint keeps about a flow. -/
def view (E : Endpoint) (x : UInt32) : View where
  slot := E.flows x
  streams := E.streams x
  unsent := bif E.txOpen then (E.calls x).countP (·.stage.isInserted) else 0
  bindUnsent := bif E.txOpen then (E.bindCalls x).countP (·.stage.isInserted) else 0
  binds := (E.binds x).countP (!·.dropped)
  -- a notification of id zero does not close a flow
  drops := E.droppedPorts.filterMap fun
    | .stream id i => if id = x ∧ x ≠ 0 then some i else none
    | .multiplexor => none
  txOpen := E.txOpen
  running := E.phase.isRunning
  finished := E.phase.isFinished

/-- The frames of the flow that are queued. -/
def queue (E : Endpoint) (x : UInt32) : List Payload := E.txFrames.filterMap (onFlow x)

/-- The step from `E` to `E'` is a run of the flow with event `ev`. -/
def Sim (x : UInt32) (E : Endpoint) (ev : Ev) (E' : Endpoint) : Prop :=
  E'.opts = E.opts ∧
    ∃ sent, View.Run E.opts (E.view x) ev sent (E'.view x) ∧ E'.queue x = E.queue x ++ sent

variable {x : UInt32} {E E' E₁ E₂ : Endpoint} {ev : Ev}

/-- The step does not concern the flow. -/
lemma Sim.idle (hopts : E'.opts = E.opts) (hview : E'.view x = E.view x)
    (hqueue : E'.queue x = E.queue x) : Sim x E .tau E' :=
  ⟨hopts, [], by rw [hview]; exact .idle _, by simp [hqueue]⟩

lemma Sim.refl (x : UInt32) (E : Endpoint) : Sim x E .tau E := Sim.idle rfl rfl rfl

lemma Sim.single (sent : List Payload) (hopts : E'.opts = E.opts)
    (h : View.Step E.opts (E.view x) ev sent (E'.view x))
    (hqueue : E'.queue x = E.queue x ++ sent) : Sim x E ev E' :=
  ⟨hopts, sent, .single h, hqueue⟩

lemma Sim.trans {F : Endpoint} (h : Sim x E ev F) (t : Sim x F .tau E₂) : Sim x E ev E₂ := by
  obtain ⟨ho, sent, hrun, hq⟩ := h
  obtain ⟨ho', sent', hrun', hq'⟩ := t
  rw [ho] at hrun'
  exact ⟨ho'.trans ho, sent ++ sent', hrun.trans hrun', by rw [hq', hq, List.append_assoc]⟩

/-! ### Small steps seen from a flow -/

@[simp] lemma view_send (f : Frame) : (E.send f).view x = E.view x := by
  unfold send
  split <;> rfl

lemma queue_send {f : Frame} (h : f.payload.isDatagram = false) :
    (E.send f).queue x = E.queue x ++ if f.id = x then (E.view x).sends f.payload else [] := by
  unfold send
  by_cases hopen : E.txOpen = true
  · by_cases hid : f.id = x <;>
      simp [hopen, queue, onFlow_finalize x h, hid, View.sends, view]
  · simp only [Bool.not_eq_true] at hopen
    simp [hopen, queue, View.sends, view]

lemma queue_send_own {p : Payload} (h : p.isDatagram = false) :
    (E.send ⟨x, p⟩).queue x = E.queue x ++ (E.view x).sends p := by
  simpa using queue_send (E := E) (x := x) (f := ⟨x, p⟩) h

@[simp] lemma queue_sendReset : (E.send (Frame.newReset x)).queue x =
    E.queue x ++ (E.view x).sends .reset := queue_send_own rfl

/-! ### Steps at another flow -/

namespace Within

variable {id : UInt32}

lemma view (h : Within id E E') (hx : x ≠ id) : E'.view x = E.view x := by
  have hentry := h.entry x hx
  obtain ⟨is, hports⟩ := h.noticed
  have hflows : E'.flows x = E.flows x := congrArg Entry.slot hentry
  have hstreams : E'.streams x = E.streams x := congrArg Entry.streams hentry
  have hcalls : E'.calls x = E.calls x := congrArg Entry.calls hentry
  have hbindCalls : E'.bindCalls x = E.bindCalls x := congrArg Entry.bindCalls hentry
  have hbinds : E'.binds x = E.binds x := congrArg Entry.binds hentry
  have hopen : E'.txOpen = E.txOpen := by simp [txOpen, h.phase]
  simp [Endpoint.view, hflows, hstreams, hcalls, hbindCalls, hbinds, hports, h.phase, hopen,
    List.filterMap_map, Ne.symm hx]

lemma queue (h : Within id E E') (hx : x ≠ id) : E'.queue x = E.queue x := by
  obtain ⟨fs, hid, hframes⟩ := h.queued
  have hnone : (fs.map finalize).filterMap (onFlow x) = [] := by
    simp only [List.filterMap_eq_nil_iff, List.mem_map, forall_exists_index, and_imp,
      forall_apply_eq_imp_iff₂]
    intro f hf
    by_cases hd : f.payload.isDatagram = true
    · exact onFlow_finalize_datagram x hd
    · rw [onFlow_finalize x (by simpa using hd), if_neg]
      rw [hid f hf]
      exact Ne.symm hx
  rw [Endpoint.queue, Endpoint.queue, hframes, List.filterMap_append, hnone, List.append_nil]

lemma sim (h : Within id E E') (hx : x ≠ id) : Sim x E .tau E' :=
  Sim.idle h.opts (h.view hx) (h.queue hx)

end Within

/-! ### Steps at the flow itself -/

lemma view_setSlot (slot : Option FlowSlot) :
    (E.setSlot x slot).view x = { E.view x with slot := slot } := by
  simp [setSlot, view]

lemma view_modifyStream (i : ℕ) (f : MuxStream → MuxStream) :
    (E.modifyStream x i f).view x =
      { E.view x with streams := (E.view x).streams.modify i f } := by
  simp [modifyStream, view]

lemma view_addStream (m : MuxStream) :
    (E.addStream x m).view x = { E.view x with streams := (E.view x).streams ++ [m] } := by
  simp [addStream, view]

lemma view_modifyCall {f : StreamCall → StreamCall} {j : ℕ}
    (h : ∀ c, (E.calls x)[j]? = some c → (f c).stage.isInserted = c.stage.isInserted) :
    (E.modifyCall x j f).view x = E.view x := by
  have hcount := Lists.countP_modify_of_eq (p := fun c : StreamCall => c.stage.isInserted) h
  simp [modifyCall, view, hcount]

lemma view_modifyBindCall {f : BindCall → BindCall} {j : ℕ}
    (h : ∀ c, (E.bindCalls x)[j]? = some c → (f c).stage.isInserted = c.stage.isInserted) :
    (E.modifyBindCall x j f).view x = E.view x := by
  have hcount := Lists.countP_modify_of_eq (p := fun c : BindCall => c.stage.isInserted) h
  simp [modifyBindCall, view, hcount]

lemma view_closePort (inhibit : Bool) : (E.closePort x inhibit).view x = (E.view x).close := by
  unfold closePort
  split
  case h_2 hslot =>
    have hs : (E.view x).slot = none := hslot
    simp only [View.close, hs]
    rw [← hs]
  case h_1 removed hslot =>
    have hs : (E.view x).slot = some removed := hslot
    cases removed with
    | established d =>
        have hmod : ((E.setSlot x none).modifyStream x d.stream MuxStream.disallowWrite).view x
            = (E.view x).close := by
          simp [view_modifyStream, view_setSlot, View.close, hs]
        simp only [closePortLocal]
        split_ifs
        · rw [view_send, hmod]
        · exact hmod
    | requested j =>
        rw [closePortLocal, view_modifyCall fun c _ => StreamCall.isInserted_answer none c]
        simp [view_setSlot, View.close, hs]
    | bindRequested j =>
        rw [closePortLocal, view_modifyBindCall fun c _ => BindCall.isInserted_answer false c]
        simp [view_setSlot, View.close, hs]

lemma opts_closePort (id : UInt32) (inhibit : Bool) : (E.closePort id inhibit).opts = E.opts :=
  (Within.closePort inhibit).opts

lemma queue_closePort (inhibit : Bool) : (E.closePort x inhibit).queue x =
    E.queue x ++ if inhibit then [] else (E.view x).closeSends := by
  unfold closePort
  split
  case h_2 hslot =>
    have hs : (E.view x).slot = none := hslot
    simp [View.closeSends, hs]
  case h_1 removed hslot =>
    have hs : (E.view x).slot = some removed := hslot
    cases removed with
    | established d =>
        have hold : ((E.setSlot x none).streams x)[d.stream]?.any (·.finishSent) =
            (E.view x).streams[d.stream]?.any (·.finishSent) := rfl
        have hsame : ((E.setSlot x none).modifyStream x d.stream
            MuxStream.disallowWrite).queue x = E.queue x := rfl
        have hsends : (((E.setSlot x none).modifyStream x d.stream
            MuxStream.disallowWrite).view x).sends .reset = (E.view x).sends .reset := rfl
        simp only [closePortLocal, hold, View.closeSends, hs]
        cases (E.view x).streams[d.stream]?.any (·.finishSent) <;> cases inhibit <;>
          simp [hsame, hsends]
    | requested j => simp [View.closeSends, hs, closePortLocal, queue, modifyCall, setSlot]
    | bindRequested j => simp [View.closeSends, hs, closePortLocal, queue, modifyBindCall, setSlot]

lemma view_dropStream {i : ℕ} {m : MuxStream} (hm : (E.streams x)[i]? = some m)
    (hd : m.dropped = false) : ∃ d, (d = [] ∨ d = [i]) ∧ (E.dropStream x i).view x =
      { (E.view x).setStream i { m with dropped := true, frameRx := [], buf := [] } with
        drops := (E.view x).drops ++ d } := by
  by_cases hfin : E.phase.isFinished = true ∨ x = 0
  · refine ⟨[], .inl rfl, ?_⟩
    rcases hfin with hfin | rfl
    · simp [dropStream, hm, hd, hfin, modifyStream, view, View.setStream, Lists.modify_eq_set hm]
    · by_cases hfin : E.phase.isFinished = true <;>
        simp [dropStream, hm, hd, hfin, modifyStream, view, View.setStream,
          Lists.modify_eq_set hm]
  · push Not at hfin
    refine ⟨[i], .inr rfl, ?_⟩
    simp [dropStream, hm, hd, hfin, modifyStream, view, View.setStream, Lists.modify_eq_set hm]

lemma sim_dropStream (x id : UInt32) (i : ℕ) : Sim x E .tau (E.dropStream id i) := by
  by_cases hx : x = id
  swap
  · exact (Within.dropStream i).sim hx
  subst hx
  cases hm : (E.streams x)[i]? with
  | none => simpa [dropStream, hm] using Sim.refl x E
  | some m =>
      by_cases hd : m.dropped = true
      · simpa [dropStream, hm, hd] using Sim.refl x E
      · simp only [Bool.not_eq_true] at hd
        obtain ⟨d, hdrop, hview⟩ := view_dropStream hm hd
        refine Sim.single [] (opts_dropStream x i) ?_ ?_
        · rw [hview]
          exact .drop d hm hd hdrop
        · simp [dropStream, hm, hd, queue, modifyStream]

lemma sim_dropBind (x id : UInt32) (i : ℕ) : Sim x E .tau (E.dropBind id i) := by
  by_cases hx : x = id
  swap
  · exact (Within.dropBind i).sim hx
  subst hx
  cases hb : (E.binds x)[i]? with
  | none => simpa [dropBind, hb] using Sim.refl x E
  | some b =>
      by_cases hd : b.dropped = true
      · simpa [dropBind, hb, hd] using Sim.refl x E
      · simp only [Bool.not_eq_true] at hd
        have hcount := Lists.countP_modify_add_one (p := fun b : BindRequest => !b.dropped)
          (f := fun b => { b with dropped := true }) hb (by simp [hd]) (by simp)
        have hbinds : 0 < (E.view x).binds := by
          show 0 < (E.binds x).countP (!·.dropped)
          omega
        refine Sim.single ((E.view x).sends .reset) (opts_dropBind x i) ?_ ?_
        · have hview : (E.dropBind x i).view x =
              { E.view x with binds := (E.view x).binds - 1 } := by
            simp only [dropBind, hb, hd, reply, Bool.false_eq_true, if_false, view_send]
            simp only [modifyBind, view, Function.update_self, View.mk.injEq, true_and, and_true]
            omega
          rw [hview]
          exact .dropBind hbinds
        · simp only [dropBind, hb, hd, reply, Bool.false_eq_true, if_false, queue_sendReset]
          rfl

/-! ### Frames -/

lemma sim_sendStream (x id : UInt32) (i : ℕ) : Sim x E .tau (E.sendStream id i).1 := by
  unfold sendStream
  split_ifs
  · exact sim_dropStream x id i
  · exact Sim.idle rfl rfl rfl
  · exact Sim.idle rfl rfl rfl

lemma sim_sendBindRequest (x id : UInt32) (i : ℕ) :
    Sim x E .tau (E.sendBindRequest id i).1 := by
  unfold sendBindRequest
  split_ifs
  · exact sim_dropBind x id i
  · exact Sim.idle rfl rfl rfl
  · exact Sim.idle rfl rfl rfl

/-- What a frame is to flow `x`. -/
def frameEvent (x : UInt32) (f : Frame) : Ev :=
  if f.id = x ∧ f.payload.isDatagram = false then .recv f.payload else .tau

lemma receiver_cases (V : View) : V.receiver = none ∨
    ∃ i m, V.slot = some (.established ⟨i, true⟩) ∧ V.streams[i]? = some m ∧
      V.receiver = some m := by
  unfold View.receiver
  split
  case h_1 i hslot =>
    cases hm : V.streams[i]? with
    | none => exact .inl rfl
    | some m => exact .inr ⟨i, m, hslot, hm, rfl⟩
  case h_2 => exact .inl rfl

lemma dispatch_of_receiver_none {data : Bytes} (h : (E.view x).receiver = none) :
    E.dispatch x data = (E, none) := by
  unfold dispatch
  split
  case h_1 i hslot =>
    have hs : (E.view x).slot = some (.established ⟨i, true⟩) := hslot
    have hm : (E.streams x)[i]? = none := by
      simp only [View.receiver, hs] at h
      exact h
    simp [hm]
  case h_2 => rfl

lemma dispatch_of_slot {i : ℕ} {m : MuxStream} {data : Bytes}
    (hslot : E.flows x = some (.established ⟨i, true⟩)) (hm : (E.streams x)[i]? = some m) :
    E.dispatch x data =
      if m.dropped then (E, some (.error .closed))
      else if m.frameRx.length < E.opts.rwnd.toNat then
        (E.modifyStream x i fun m => { m with frameRx := m.frameRx ++ [data] }, some (.ok ()))
      else (E, some (.error .full)) := by
  simp [dispatch, hslot, hm]

lemma receiver_of_slot {i : ℕ} {m : MuxStream}
    (hslot : E.flows x = some (.established ⟨i, true⟩)) (hm : (E.streams x)[i]? = some m) :
    (E.view x).receiver = some m := by
  simp [View.receiver, view, hslot, hm]

lemma receiver_eq_none
    (h : ∀ i m, E.flows x = some (.established ⟨i, true⟩) → (E.streams x)[i]? ≠ some m) :
    (E.view x).receiver = none := by
  rcases receiver_cases (E.view x) with hnone | ⟨i, m, hslot, hm, -⟩
  · exact hnone
  · exact absurd hm (h i m hslot)

lemma frameEvent_self {p : Payload} (h : p.isDatagram = false) :
    frameEvent x ⟨x, p⟩ = .recv p := by
  simp [frameEvent, h]

lemma view_establish (m : MuxStream) : (E.establish x m).view x =
    { E.view x with
      slot := some (.established ⟨(E.view x).streams.length, true⟩)
      streams := (E.view x).streams ++ [m] } := by
  rw [establish, view_setSlot, view_addStream]
  rfl

/-- The frame is answered with a `Reset`. -/
lemma sim_sendReset (h : View.Step E.opts (E.view x) ev ((E.view x).sends .reset) (E.view x)) :
    Sim x E ev (E.send (Frame.newReset x)) := by
  refine Sim.single _ (by simp) ?_ queue_sendReset
  rwa [view_send]

lemma sim_establish {m : MuxStream} {sent : List Payload} (hsent : sent = [])
    (h : View.Step E.opts (E.view x) ev sent { E.view x with
      slot := some (.established ⟨(E.view x).streams.length, true⟩)
      streams := (E.view x).streams ++ [m] }) : Sim x E ev (E.establish x m) := by
  refine Sim.single sent rfl ?_ (by simp [hsent]; rfl)
  rwa [view_establish]

lemma sim_closePort {sent : List Payload} (inhibit : Bool)
    (hsent : sent = if inhibit then [] else (E.view x).closeSends)
    (h : View.Step E.opts (E.view x) ev sent (E.view x).close) :
    Sim x E ev (E.closePort x inhibit) := by
  refine Sim.single sent (opts_closePort x inhibit) ?_ ?_
  · rwa [view_closePort]
  · rw [queue_closePort, hsent]

/-- A frame is a run of its own flow. -/
lemma Handles.sim_self {f : Frame} {ignoreBind : Bool} {r : Poll (Except Error Unit)}
    (h : E.Handles ignoreBind f E' r) (hfin : E.phase.isFinished = false) :
    Sim f.id E (frameEvent f.id f) E' := by
  cases h with
  | connectUsed p hslot =>
      rw [frameEvent_self rfl]
      exact sim_sendReset (.recvConnectUsed p hfin hslot)
  | @connect id p hslot =>
      rw [frameEvent_self rfl]
      refine Sim.trans (F := (E.establish id _).send _)
        (Sim.single _ (Within.send rfl).opts ?_ (queue_send_own rfl)) (sim_sendStream id id _)
      rw [view_send, view_establish]
      exact .recvConnect p hfin hslot
  | @connectClosed id p hslot hclosed =>
      rw [frameEvent_self rfl]
      have hsent : (E.view id).sends (.acknowledge E.opts.rwnd) = [] := by
        simp [View.sends, view, hclosed]
      exact (sim_establish hsent (.recvConnect p hfin hslot)).trans (sim_dropStream id id _)
  | ackEstablished n hslot =>
      rw [frameEvent_self rfl]
      refine Sim.single [] rfl ?_ (by simp; rfl)
      rw [view_modifyStream]
      exact .recvAck n hfin hslot
  | @ackRequested id j n hslot =>
      rw [frameEvent_self rfl]
      refine (sim_establish rfl (.recvAckNew n hfin hslot)).trans (Sim.idle rfl ?_ rfl)
      exact view_modifyCall fun c _ => StreamCall.isInserted_answer _ c
  | @ackGone id j n hslot =>
      rw [frameEvent_self rfl]
      exact (sim_establish rfl (.recvAckNew n hfin hslot)).trans (sim_dropStream id id _)
  | ackBogus n hslot =>
      rw [frameEvent_self rfl]
      exact sim_sendReset (.recvAckBogus n hfin hslot)
  | finishBogus hslot =>
      rw [frameEvent_self rfl]
      exact sim_sendReset (.recvFinishBogus hfin hslot)
  | finishBind hslot =>
      rw [frameEvent_self rfl]
      refine Sim.single [] rfl ?_ (by simp; rfl)
      rw [view_modifyBindCall fun c _ => BindCall.isInserted_answer true c, view_setSlot]
      exact .recvFinishBind hfin hslot
  | finishRequested hslot =>
      rw [frameEvent_self rfl]
      refine Sim.single _ (by simp; rfl) ?_ (queue_send_own rfl)
      rw [view_send, view_setSlot]
      exact .recvFinishRequested hfin hslot
  | finishEstablished hslot =>
      rw [frameEvent_self rfl]
      refine Sim.single [] rfl ?_ (by simp; rfl)
      rw [view_setSlot]
      exact .recvFinish hfin hslot
  | reset id =>
      rw [frameEvent_self rfl]
      exact sim_closePort true rfl (.recvReset hfin)
  | @push id i m data hslot hm hd hroom =>
      rw [frameEvent_self rfl]
      refine Sim.single [] rfl ?_ (by simp; rfl)
      have hmod : (E.view id).streams[i]? = some m := hm
      rw [view_modifyStream, Lists.modify_eq_set hmod]
      exact .recvPush data hfin hslot hm hd hroom
  | pushFull data hslot hm hd hfull =>
      rw [frameEvent_self rfl]
      exact sim_closePort false rfl
        (.recvPushFull data hfin (receiver_of_slot hslot hm) hd hfull)
  | pushClosed data hslot hm hd =>
      rw [frameEvent_self rfl]
      exact Sim.single [] rfl (.recvPushClosed data hfin (receiver_of_slot hslot hm) hd) (by simp)
  | pushBogus data hnone =>
      rw [frameEvent_self rfl]
      exact sim_sendReset (.recvPushBogus data hfin (receiver_eq_none hnone))
  | bindOff p =>
      rw [frameEvent_self rfl]
      exact sim_sendReset (.recvBindRefused p _ hfin (.inr rfl))
  | bindIgnored p =>
      rw [frameEvent_self rfl]
      exact Sim.single _ rfl (.recvBindRefused p [] hfin (.inl rfl)) (by simp)
  | @bind id p =>
      rw [frameEvent_self rfl]
      refine Sim.trans (F := E.addBind id p) (Sim.single [] rfl ?_ (by simp; rfl))
        (sim_sendBindRequest id id _)
      have hview : (E.addBind id p).view id = { E.view id with binds := (E.view id).binds + 1 } := by
        simp [addBind, view]
      rw [hview]
      exact .recvBind p hfin
  | datagram =>
      have htau : ∀ id p, frameEvent id ⟨id, .datagram p⟩ = .tau := by
        simp [frameEvent, Payload.isDatagram]
      rw [htau]
      exact Sim.idle rfl rfl rfl
  | datagramGone | datagramLost =>
      have htau : ∀ id p, frameEvent id ⟨id, .datagram p⟩ = .tau := by
        simp [frameEvent, Payload.isDatagram]
      rw [htau]
      exact Sim.refl _ E

/-- Processing a frame is a run of each flow. -/
lemma sim_processFrame (x : UInt32) (f : Frame) (ignoreBind : Bool)
    (hfin : E.phase.isFinished = false) :
    Sim x E (frameEvent x f) (E.processFrame f ignoreBind).1 := by
  have hway := E.handles f ignoreBind
  by_cases hx : x = f.id
  · rw [hx]
    exact hway.sim_self hfin
  · have hev : frameEvent x f = .tau := if_neg fun h => hx h.1.symm
    rw [hev]
    exact hway.within.sim hx

end Endpoint

end Penguin.Mux
