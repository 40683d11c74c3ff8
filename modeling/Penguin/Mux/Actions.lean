import Penguin.Mux.Simulation

/-!
Calls, operations and the loops of the task, seen from a flow.

With the frames of `Penguin.Mux.Simulation` this covers every step of an endpoint:
`act_sim` for what it does on its own, `recv_sim` for the arrival of a message.
-/

namespace Penguin.Mux

open View Penguin.Lib

/-! ### Operations on a handle -/

namespace View

variable {o : Options} {V : View} {i : ℕ} {m : MuxStream}

@[simp] lemma setStream_setStream (m' m'' : MuxStream) :
    (V.setStream i m').setStream i m'' = V.setStream i m'' := by
  simp [setStream]

lemma setStream_self (hm : V.streams[i]? = some m) : V.setStream i m = V := by
  obtain ⟨hlt, rfl⟩ := List.getElem?_eq_some_iff.mp hm
  simp [setStream]

lemma getElem?_setStream (m' : MuxStream) (hm : V.streams[i]? = some m) :
    (V.setStream i m').streams[i]? = some m' := by
  obtain ⟨hlt, -⟩ := List.getElem?_eq_some_iff.mp hm
  simp [setStream, hlt]

lemma run_setStream_self (hm : V.streams[i]? = some m) : Run o V .tau [] (V.setStream i m) := by
  rw [setStream_self hm]
  exact .idle V

/-- What a write is to a flow: a write, or nothing but the loss of a permission. -/
lemma run_pollWrite (x : UInt32) (buf : Bytes) (hm : V.streams[i]? = some m)
    (hd : m.dropped = false) : ∃ ev, (ev = .tau ∨ ev = .write buf) ∧
      Run o V ev ((m.pollWrite x V.txOpen buf).2.1.map Frame.payload)
        (V.setStream i (m.pollWrite x V.txOpen buf).1) := by
  rcases m.pollWrite_cases x V.txOpen buf with
    ⟨-, h⟩ | ⟨-, -, h⟩ | ⟨hf, hr, htx, h⟩ | ⟨hf, hr, htx, h⟩ <;> rw [h]
  · exact ⟨.tau, .inl rfl, run_setStream_self hm⟩
  · exact ⟨.tau, .inl rfl, run_setStream_self hm⟩
  · exact ⟨.tau, .inl rfl, .single (.writeFails hm hd hf hr htx)⟩
  · exact ⟨.write buf, .inr rfl, .single (.write buf hm hd hf hr htx)⟩

lemma run_shutdownInner (x : UInt32) (hm : V.streams[i]? = some m) (hd : m.dropped = false) :
    Run o V .tau ((m.shutdownInner x V.txOpen).2.1.map Frame.payload)
      (V.setStream i (m.shutdownInner x V.txOpen).1) := by
  unfold MuxStream.shutdownInner
  by_cases hf : m.finishSent = true
  · simpa [hf] using run_setStream_self hm
  simp only [Bool.not_eq_true] at hf
  have hstep := Run.single (Step.shutdown (o := o) hm hd hf)
  by_cases htx : V.txOpen = true
  · simpa [hf, htx, View.sends, Frame.newFinish] using hstep
  · simpa [hf, htx, View.sends] using hstep

lemma run_pollFillBuf (x : UInt32) (rx : Bool) (hm : V.streams[i]? = some m)
    (hd : m.dropped = false) :
    Run o V .tau ((m.pollFillBuf x V.txOpen rx).2.1.map Frame.payload)
      (V.setStream i (m.pollFillBuf x V.txOpen rx).1) := by
  rcases m.pollFillBuf_cases with hb | ⟨hb, hrx⟩ | ⟨next, rest, hb, hrx, hlt | hge⟩
  · rw [MuxStream.pollFillBuf_of_buf rx hb]
    exact run_setStream_self hm
  · rw [MuxStream.pollFillBuf_of_empty rx hb hrx]
    exact run_setStream_self hm
  · rw [MuxStream.pollFillBuf_of_lt rx hb hrx hlt]
    exact .single (.dequeue hm hd hb hrx hlt)
  · rw [MuxStream.pollFillBuf_of_ge rx hb hrx hge]
    have hsends : (if V.txOpen then [Frame.newAcknowledge x (m.pshRecvdSince + 1)]
        else []).map Frame.payload = V.sends (.acknowledge (m.pshRecvdSince + 1)) := by
      cases htx : V.txOpen <;> simp [View.sends, Frame.newAcknowledge, htx]
    rw [hsends]
    exact .single (.dequeueAck hm hd hb hrx hge)

lemma dropped_pollFillBuf (x : UInt32) (tx rx : Bool) :
    (m.pollFillBuf x tx rx).1.dropped = m.dropped := by
  rcases m.pollFillBuf_cases with hb | ⟨hb, hrx⟩ | ⟨next, rest, hb, hrx, hlt | hge⟩
  · rw [MuxStream.pollFillBuf_of_buf rx hb]
  · rw [MuxStream.pollFillBuf_of_empty rx hb hrx]
  · rw [MuxStream.pollFillBuf_of_lt rx hb hrx hlt]
  · rw [MuxStream.pollFillBuf_of_ge rx hb hrx hge]

/-- What is handed out is in the buffer. -/
lemma pollFillBuf_ready {x : UInt32} {tx rx : Bool} {m' : MuxStream} {sent : List Frame}
    {got : Bytes} (h : m.pollFillBuf x tx rx = (m', sent, .ready got)) : got = m'.buf := by
  rcases m.pollFillBuf_cases with hb | ⟨hb, hrx⟩ | ⟨next, rest, hb, hrx, hlt | hge⟩
  · rw [MuxStream.pollFillBuf_of_buf rx hb] at h
    cases h
    rfl
  · rw [MuxStream.pollFillBuf_of_empty rx hb hrx] at h
    cases rx <;> simp_all
  · rw [MuxStream.pollFillBuf_of_lt rx hb hrx hlt] at h
    cases h
    rfl
  · rw [MuxStream.pollFillBuf_of_ge rx hb hrx hge] at h
    cases h
    rfl

lemma run_pollRead (x : UInt32) (rx : Bool) (remaining : ℕ) (hm : V.streams[i]? = some m)
    (hd : m.dropped = false) :
    Run o V .tau ((m.pollRead x V.txOpen rx remaining).2.1.map Frame.payload)
      (V.setStream i (m.pollRead x V.txOpen rx remaining).1) := by
  have hfill := run_pollFillBuf (o := o) x rx hm hd
  have hdrop := dropped_pollFillBuf (m := m) x V.txOpen rx
  unfold MuxStream.pollRead
  rcases hres : m.pollFillBuf x V.txOpen rx with ⟨m', sent, r⟩
  rw [hres] at hfill hdrop
  cases r with
  | pending => exact hfill
  | ready got =>
      have hlen : min got.length remaining ≤ m'.buf.length := by
        rw [pollFillBuf_ready hres]
        exact min_le_left _ _
      have hcons := Step.consume (o := o) (min got.length remaining)
        (getElem?_setStream m' hm) (hdrop.trans hd) hlen
      rw [setStream_setStream] at hcons
      simpa using hfill.trans (.single hcons)

end View

namespace Endpoint

variable {x : UInt32} {E E' E₁ E₂ : Endpoint} {ev : Ev}

lemma Sim.of_idle (E₁ : Endpoint) (hopts : E₁.opts = E.opts) (hview : E₁.view x = E.view x)
    (hqueue : E₁.queue x = E.queue x) (h : Sim x E₁ ev E₂) : Sim x E ev E₂ := by
  obtain ⟨ho, sent, hrun, hq⟩ := h
  rw [hopts, hview] at hrun
  exact ⟨ho.trans hopts, sent, hrun, by rw [hq, hqueue]⟩

/-! ### Putting a handle back -/

lemma view_foldl_send (sent : List Frame) : (sent.foldl send E).view x = E.view x := by
  induction sent generalizing E with
  | nil => rfl
  | cons f sent ih => rw [List.foldl_cons, ih, view_send]

lemma queue_foldl_send {sent : List Frame} (hopen : E.txOpen = true)
    (h : ∀ f ∈ sent, f.id = x ∧ f.payload.isDatagram = false) :
    (sent.foldl send E).queue x = E.queue x ++ sent.map Frame.payload := by
  induction sent generalizing E with
  | nil => simp
  | cons f sent ih =>
      have hf := h f (by simp)
      have hopen' : (E.send f).txOpen = true := by simp [send, hopen]
      rw [List.foldl_cons, ih hopen' fun g hg => h g (by simp [hg]), queue_send hf.2, if_pos hf.1]
      simp [View.sends, view, hopen]

lemma view_update {i : ℕ} {m : MuxStream} (m' : MuxStream) (sent : List Frame)
    (hm : (E.streams x)[i]? = some m) :
    (E.update x i m' sent).view x = (E.view x).setStream i m' := by
  have hm' : (E.view x).streams[i]? = some m := hm
  rw [update, view_foldl_send, view_modifyStream, Lists.modify_eq_set hm']
  rfl

/-- An operation that is a run of the view is a step of the endpoint. -/
lemma sim_update {i : ℕ} {m m' : MuxStream} {sent : List Frame} (hm : (E.streams x)[i]? = some m)
    (hsent : ∀ f ∈ sent, f.id = x ∧ f.payload.isDatagram = false)
    (hopen : E.txOpen = false → sent = [])
    (hrun : View.Run E.opts (E.view x) ev (sent.map Frame.payload)
      ((E.view x).setStream i m')) : Sim x E ev (E.update x i m' sent) := by
  refine ⟨(Within.update fun f hf => (hsent f hf).1).opts, sent.map Frame.payload, ?_, ?_⟩
  · rwa [view_update m' sent hm]
  · cases htx : E.txOpen with
    | true => exact queue_foldl_send htx hsent
    | false =>
        rw [hopen htx]
        simp [update, queue, modifyStream]

lemma owns_eq {id : UInt32} {i : ℕ} {m : MuxStream} (h : E.owns id i = some m) :
    (E.streams id)[i]? = some m ∧ E.held id i = true ∧ m.dropped = false := by
  unfold owns at h
  split at h
  case h_1 m' hm =>
    split_ifs at h with hheld
    obtain rfl := Option.some.inj h
    simp only [Bool.and_eq_true, Bool.not_eq_true'] at hheld
    exact ⟨hm, hheld.1, hheld.2⟩
  case h_2 => cases h

/-! ### The operations of a handle as steps of the endpoint -/

lemma sent_pollWrite (m : MuxStream) (id : UInt32) (tx : Bool) (buf : Bytes) :
    (∀ f ∈ (m.pollWrite id tx buf).2.1, f.id = id ∧ f.payload.isDatagram = false) ∧
      (tx = false → (m.pollWrite id tx buf).2.1 = []) := by
  rcases m.pollWrite_cases id tx buf with
    ⟨-, h⟩ | ⟨-, -, h⟩ | ⟨-, -, -, h⟩ | ⟨-, -, htx, h⟩
  · simp [h]
  · simp [h]
  · simp [h]
  · refine ⟨?_, by simp [htx]⟩
    simp [h, Frame.newPush, Payload.isDatagram]

lemma sent_shutdownInner (m : MuxStream) (id : UInt32) (tx : Bool) :
    (∀ f ∈ (m.shutdownInner id tx).2.1, f.id = id ∧ f.payload.isDatagram = false) ∧
      (tx = false → (m.shutdownInner id tx).2.1 = []) := by
  unfold MuxStream.shutdownInner
  split_ifs with hf htx
  · simp
  · simp [htx, Frame.newFinish, Payload.isDatagram]
  · simp

lemma sent_pollFillBuf (m : MuxStream) (id : UInt32) (tx rx : Bool) :
    (∀ f ∈ (m.pollFillBuf id tx rx).2.1, f.id = id ∧ f.payload.isDatagram = false) ∧
      (tx = false → (m.pollFillBuf id tx rx).2.1 = []) := by
  rcases m.pollFillBuf_cases with hb | ⟨hb, hrx⟩ | ⟨next, rest, hb, hrx, hlt | hge⟩
  · simp [MuxStream.pollFillBuf_of_buf rx hb]
  · simp [MuxStream.pollFillBuf_of_empty rx hb hrx]
  · simp [MuxStream.pollFillBuf_of_lt rx hb hrx hlt]
  · cases tx <;>
      simp [MuxStream.pollFillBuf_of_ge rx hb hrx hge, Frame.newAcknowledge, Payload.isDatagram]

lemma sent_pollRead (m : MuxStream) (id : UInt32) (tx rx : Bool) (remaining : ℕ) :
    (m.pollRead id tx rx remaining).2.1 = (m.pollFillBuf id tx rx).2.1 := by
  unfold MuxStream.pollRead
  rcases m.pollFillBuf id tx rx with ⟨m', sent, _ | _⟩ <;> rfl

/-- What an operation makes of a handle is a run of its flow, and nothing to the others. -/
lemma sim_handle {id : UInt32} {i : ℕ} {m m' : MuxStream} {sent : List Frame} (x : UInt32)
    (hm : (E.streams id)[i]? = some m)
    (hsent : ∀ f ∈ sent, f.id = id ∧ f.payload.isDatagram = false)
    (hopen : E.txOpen = false → sent = [])
    (hrun : View.Run E.opts (E.view id) .tau (sent.map Frame.payload)
      ((E.view id).setStream i m')) : Sim x E .tau (E.update id i m' sent) := by
  by_cases hx : x = id
  · subst hx
    exact sim_update hm hsent hopen hrun
  · exact (Within.update fun f hf => (hsent f hf).1).sim hx

lemma sim_pollWrite {id : UInt32} {i : ℕ} {m : MuxStream} (x : UInt32) (buf : Bytes)
    (hown : E.owns id i = some m) : ∃ ev, (ev = .tau ∨ (id = x ∧ ev = .write buf)) ∧
      Sim x E ev (E.update id i (m.pollWrite id E.txOpen buf).1
        (m.pollWrite id E.txOpen buf).2.1) := by
  obtain ⟨hm, -, hd⟩ := owns_eq hown
  obtain ⟨hsent, hopen⟩ := sent_pollWrite m id E.txOpen buf
  by_cases hx : x = id
  · subst hx
    obtain ⟨ev, hev, hrun⟩ := run_pollWrite (o := E.opts) (V := E.view x) x buf hm hd
    exact ⟨ev, hev.imp_right fun hev => ⟨rfl, hev⟩, sim_update hm hsent hopen hrun⟩
  · exact ⟨.tau, .inl rfl, (Within.update fun f hf => (hsent f hf).1).sim hx⟩

lemma sim_pollShutdown {id : UInt32} {i : ℕ} {m : MuxStream} (x : UInt32)
    (hown : E.owns id i = some m) : Sim x E .tau (E.update id i (m.shutdownInner id E.txOpen).1
      (m.shutdownInner id E.txOpen).2.1) := by
  obtain ⟨hm, -, hd⟩ := owns_eq hown
  obtain ⟨hsent, hopen⟩ := sent_shutdownInner m id E.txOpen
  exact sim_handle x hm hsent hopen (run_shutdownInner (V := E.view id) id hm hd)

lemma sim_pollFillBuf {id : UInt32} {i : ℕ} {m : MuxStream} (x : UInt32)
    (hown : E.owns id i = some m) :
    Sim x E .tau (E.update id i (m.pollFillBuf id E.txOpen (E.senderAlive id i)).1
      (m.pollFillBuf id E.txOpen (E.senderAlive id i)).2.1) := by
  obtain ⟨hm, -, hd⟩ := owns_eq hown
  obtain ⟨hsent, hopen⟩ := sent_pollFillBuf m id E.txOpen (E.senderAlive id i)
  exact sim_handle x hm hsent hopen (run_pollFillBuf (V := E.view id) id _ hm hd)

lemma sim_pollRead {id : UInt32} {i : ℕ} {m : MuxStream} (x : UInt32) (remaining : ℕ)
    (hown : E.owns id i = some m) :
    Sim x E .tau (E.update id i (m.pollRead id E.txOpen (E.senderAlive id i) remaining).1
      (m.pollRead id E.txOpen (E.senderAlive id i) remaining).2.1) := by
  obtain ⟨hm, -, hd⟩ := owns_eq hown
  obtain ⟨hsent, hopen⟩ := sent_pollFillBuf m id E.txOpen (E.senderAlive id i)
  rw [← sent_pollRead m id _ _ remaining] at hsent hopen
  exact sim_handle x hm hsent hopen (run_pollRead (V := E.view id) id _ remaining hm hd)

lemma sim_consume {id : UInt32} {i amt : ℕ} {m : MuxStream} (x : UInt32)
    (hown : E.owns id i = some m) (hamt : amt ≤ m.buf.length) :
    Sim x E .tau (E.update id i (m.consume amt) []) := by
  obtain ⟨hm, -, hd⟩ := owns_eq hown
  exact sim_handle x hm (by simp) (by simp)
    (.single (.consume (V := E.view id) amt hm hd hamt))

/-! ### Calls -/

lemma sim_insertRequested {id : UInt32} (x : UInt32) (host : Bytes) (port : UInt16) (n : ℕ)
    (hfree : E.flows id = none) :
    Sim x E (if id = x then .request else .tau) (E.insertRequested id host port n) := by
  by_cases hx : x = id
  · subst hx
    rw [if_pos rfl]
    refine Sim.single [] rfl ?_ (by simp; rfl)
    have hview : (E.insertRequested x host port n).view x =
        { E.view x with
          slot := some (.requested (E.calls x).length)
          unsent := (E.view x).unsent + (E.view x).txOpen.toNat } := by
      cases htx : E.txOpen <;> simp [insertRequested, setSlot, view, htx, Stage.isInserted]
    rw [hview]
    exact .request _ hfree
  · rw [if_neg (Ne.symm hx)]
    exact (Within.insertRequested host port n).sim hx

lemma keyAvailable_eq {id : UInt32} (h : E.keyAvailable id = true) :
    E.flows id = none ∧ id ≠ 0 := by
  simp only [keyAvailable, Bool.and_eq_true, decide_eq_true_eq, Option.isNone_iff_eq_none] at h
  refine ⟨h.2, ?_⟩
  rintro rfl
  exact absurd h.1.1 (by decide)

lemma sim_insertBindRequested {id : UInt32} (x : UInt32) (host : Bytes) (port : UInt16)
    (t : BindType) (hfree : E.flows id = none) :
    Sim x E (if id = x then .bindRequest else .tau) (E.insertBindRequested id host port t) := by
  by_cases hx : x = id
  · subst hx
    rw [if_pos rfl]
    refine Sim.single [] rfl ?_ (by simp; rfl)
    have hview : (E.insertBindRequested x host port t).view x =
        { E.view x with
          slot := some (.bindRequested (E.bindCalls x).length)
          bindUnsent := (E.view x).bindUnsent + (E.view x).txOpen.toNat } := by
      have hopen : (E.insertBindRequested x host port t).txOpen = E.txOpen := rfl
      cases htx : E.txOpen <;> simp [setSlot, view, hopen, htx, Stage.isInserted]
    rw [hview]
    exact .bindRequest _ hfree
  · rw [if_neg (Ne.symm hx)]
    exact (Within.insertBindRequested host port t).sim hx

/-- A call that has queued its frame goes on. -/
lemma view_stage {id : UInt32} {j : ℕ} {c : StreamCall} (x : UInt32)
    (hc : (E.calls id)[j]? = some c) (hins : c.stage.isInserted = false) {stage : Stage}
    (hnew : stage.isInserted = false) :
    (E.modifyCall id j fun c => { c with stage := stage }).view x = E.view x := by
  by_cases hx : x = id
  · subst hx
    refine view_modifyCall fun c' hc' => ?_
    obtain rfl := Option.some.inj (hc.symm.trans hc')
    exact hnew.trans hins.symm
  · exact (Within.modifyCall j _).view hx

lemma sim_stage {id : UInt32} {j : ℕ} {c : StreamCall} (x : UInt32)
    (hc : (E.calls id)[j]? = some c) (hins : c.stage.isInserted = false) {stage : Stage}
    (hnew : stage.isInserted = false) :
    Sim x E .tau (E.modifyCall id j fun c => { c with stage := stage }) :=
  Sim.idle rfl (view_stage x hc hins hnew) rfl

lemma sim_bindStage {id : UInt32} {j : ℕ} {c : BindCall} (x : UInt32)
    (hc : (E.bindCalls id)[j]? = some c) (hins : c.stage.isInserted = false) {stage : Stage}
    (hnew : stage.isInserted = false) :
    Sim x E .tau (E.modifyBindCall id j fun c => { c with stage := stage }) := by
  by_cases hx : x = id
  · subst hx
    refine Sim.idle rfl (view_modifyBindCall fun c' hc' => ?_) rfl
    obtain rfl := Option.some.inj (hc.symm.trans hc')
    exact hnew.trans hins.symm
  · exact (Within.modifyBindCall j _).sim hx

lemma sim_connectSent {id : UInt32} {j : ℕ} {c : StreamCall} (x : UInt32)
    (hc : (E.calls id)[j]? = some c) (hins : c.stage = .inserted) (hopen : E.txOpen = true) :
    Sim x E .tau ((E.modifyCall id j fun c => { c with stage := .awaiting }).send
      (Frame.newConnect c.host c.port id E.opts.rwnd)) := by
  have hwithin : Within id E ((E.modifyCall id j fun c => { c with stage := .awaiting }).send
      (Frame.newConnect c.host c.port id E.opts.rwnd)) :=
    (Within.modifyCall j _).trans (.send rfl)
  by_cases hx : x = id
  swap
  · exact hwithin.sim hx
  subst hx
  have hcount := Lists.countP_modify_add_one (p := fun c : StreamCall => c.stage.isInserted)
    (f := fun c => { c with stage := .awaiting }) hc (by simp [hins, Stage.isInserted]) rfl
  have hview : (E.modifyCall x j fun c => { c with stage := .awaiting }).view x =
      { E.view x with unsent := (E.view x).unsent - 1 } := by
    simp only [modifyCall, view, Function.update_self, hopen, cond_true, ← hcount]
    rfl
  have hpos : 0 < (E.view x).unsent := by
    simp only [view, hopen, cond_true]
    omega
  refine Sim.single [.connect ⟨E.opts.rwnd, c.port, c.host⟩] hwithin.opts ?_ ?_
  · rw [view_send, hview]
    exact .connect c.host c.port hpos
  · have hsends : ((E.modifyCall x j fun c => { c with stage := .awaiting }).view x).sends
        (.connect ⟨E.opts.rwnd, c.port, c.host⟩) = [.connect ⟨E.opts.rwnd, c.port, c.host⟩] := by
      simp [View.sends, view, modifyCall, hopen]
    rw [← hsends]
    exact queue_send_own rfl

/-- With the queue closed, nobody counts the calls that have not queued their frame. -/
lemma sim_connectFails (x id : UInt32) (j : ℕ) (hclosed : E.txOpen = false) :
    Sim x E .tau (E.modifyCall id j fun c => { c with stage := .returned }) := by
  by_cases hx : x = id
  · subst hx
    exact Sim.idle rfl (by simp [modifyCall, view, hclosed]) rfl
  · exact (Within.modifyCall j _).sim hx

lemma sim_bindSent {id : UInt32} {j : ℕ} {c : BindCall} (x : UInt32)
    (hc : (E.bindCalls id)[j]? = some c) (hins : c.stage = .inserted) (hopen : E.txOpen = true) :
    Sim x E .tau ((E.modifyBindCall id j fun c => { c with stage := .awaiting }).send
      (Frame.newBind id c.bindType c.host c.port)) := by
  have hwithin : Within id E ((E.modifyBindCall id j fun c => { c with stage := .awaiting }).send
      (Frame.newBind id c.bindType c.host c.port)) := (Within.modifyBindCall j _).trans (.send rfl)
  by_cases hx : x = id
  swap
  · exact hwithin.sim hx
  subst hx
  have hcount := Lists.countP_modify_add_one (p := fun c : BindCall => c.stage.isInserted)
    (f := fun c => { c with stage := .awaiting }) hc (by simp [hins, Stage.isInserted]) rfl
  have hview : (E.modifyBindCall x j fun c => { c with stage := .awaiting }).view x =
      { E.view x with bindUnsent := (E.view x).bindUnsent - 1 } := by
    simp only [modifyBindCall, view, Function.update_self, hopen, cond_true, ← hcount]
    rfl
  have hpos : 0 < (E.view x).bindUnsent := by
    simp only [view, hopen, cond_true]
    omega
  refine Sim.single ([(Frame.newBind x c.bindType c.host c.port).payload]) hwithin.opts ?_ ?_
  · rw [view_send, hview]
    exact .bind _ hpos
  · have hsends : ((E.modifyBindCall x j fun c => { c with stage := .awaiting }).view x).sends
        (Frame.newBind x c.bindType c.host c.port).payload =
        [(Frame.newBind x c.bindType c.host c.port).payload] := by
      simp [View.sends, view, modifyBindCall, hopen]
    rw [← hsends]
    exact queue_send_own rfl

lemma sim_bindFails (x id : UInt32) (j : ℕ) (hclosed : E.txOpen = false) :
    Sim x E .tau (E.modifyBindCall id j fun c => { c with stage := .returned }) := by
  by_cases hx : x = id
  · subst hx
    exact Sim.idle rfl (by simp [modifyBindCall, view, hclosed]) rfl
  · exact (Within.modifyBindCall j _).sim hx

/-! ### The task -/

lemma phase_cancelNext : E.cancelNext.phase = E.phase := by
  unfold cancelNext
  split
  case h_1 id i _ => exact phase_dropStream (E := { E with blocked := none }) id i
  case h_2 id i _ => exact phase_dropBind (E := { E with blocked := none }) id i
  case h_3 => rfl

lemma sim_cancelNext (x : UInt32) : Sim x E .tau E.cancelNext := by
  unfold cancelNext
  split
  case h_1 id i _ =>
    exact Sim.of_idle { E with blocked := none } rfl rfl rfl (sim_dropStream x id i)
  case h_2 id i _ =>
    exact Sim.of_idle { E with blocked := none } rfl rfl rfl (sim_dropBind x id i)
  case h_3 => exact Sim.refl x E

lemma sim_startWindDown (x : UInt32) (drain : Bool) (res : Except Error Unit)
    (hrun : E.phase = .running) : Sim x E .tau (E.startWindDown drain res) := by
  refine (sim_cancelNext x).trans ?_
  have hphase : E.cancelNext.phase = .running := phase_cancelNext.trans hrun
  refine Sim.single [] rfl ?_ (by simp; rfl)
  have hview : (E.startWindDown drain res).view x =
      { (E.cancelNext.view x).disallow with running := false } := by
    rcases hslot : E.cancelNext.flows x with _ | j | d | j <;>
      simp [startWindDown, disallowWrites, view, View.disallow, hphase, hslot, txOpen,
        Phase.isRunning, Phase.isOpen, Phase.isFinished]
  rw [hview]
  exact .windDown (by simp [view, hphase, Phase.isRunning])

lemma sim_finishTask {res res' : Except Error Unit} (x : UInt32) (hph : E.phase = .reading res') :
    Sim x E .tau (E.finish res) := by
  refine Sim.single [] rfl ?_ (by simp; rfl)
  have hview : (E.finish res).view x = { (E.view x).close with finished := true } := by
    have hcalls : ∀ j, ((E.calls x).modify j (StreamCall.answer none)).countP
        (·.stage.isInserted) = (E.calls x).countP (·.stage.isInserted) := fun j =>
      Lists.countP_modify_of_eq fun c _ => StreamCall.isInserted_answer none c
    have hbinds : ∀ j, ((E.bindCalls x).modify j (BindCall.answer false)).countP
        (·.stage.isInserted) = (E.bindCalls x).countP (·.stage.isInserted) := fun j =>
      Lists.countP_modify_of_eq fun c _ => BindCall.isInserted_answer false c
    rcases hslot : E.flows x with _ | j | d | j <;>
      simp [finish, drainFlows, view, View.close, hslot, hph, txOpen, Phase.isRunning,
        Phase.isOpen, Phase.isFinished, hcalls, hbinds]
  rw [hview]
  exact .drain (by simp [view, hph, Phase.isRunning]) (by simp [view, txOpen, hph, Phase.isOpen])

/-- A notification is taken out of the channel that no handle of the flow has sent. -/
lemma view_popNotice {n : Notice} {rest : List Notice} (hports : E.droppedPorts = n :: rest)
    (h : n.id ≠ x ∨ x = 0) : ({ E with droppedPorts := rest } : Endpoint).view x = E.view x := by
  cases n with
  | multiplexor => simp [view, hports]
  | stream id i =>
      have hother : ¬ (id = x ∧ x ≠ 0) := fun hx => h.elim (· hx.1) hx.2
      simp [view, hports, hother]

lemma sim_droppedZero {n : Notice} {rest : List Notice} (x : UInt32) (hrun : E.phase = .running)
    (hports : E.droppedPorts = n :: rest) (hzero : n.id = 0) (res : Except Error Unit) :
    Sim x E .tau ({ E with droppedPorts := rest }.startWindDown true res) := by
  have hother : n.id ≠ x ∨ x = 0 := by
    by_cases hx : x = 0
    · exact .inr hx
    · exact .inl (by rw [hzero]; exact Ne.symm hx)
  exact Sim.of_idle { E with droppedPorts := rest } rfl (view_popNotice hports hother) rfl
    (sim_startWindDown x _ _ hrun)

lemma sim_droppedPort {n : Notice} {rest : List Notice} (x : UInt32) (hrun : E.phase = .running)
    (hports : E.droppedPorts = n :: rest) (hid : n.id ≠ 0) :
    Sim x E .tau ({ E with droppedPorts := rest }.closePort n.id false) := by
  by_cases hx : x = n.id
  swap
  · exact Sim.of_idle { E with droppedPorts := rest } rfl
      (view_popNotice hports (.inl (Ne.symm hx))) rfl ((Within.closePort false).sim hx)
  subst hx
  cases n with
  | multiplexor => exact absurd rfl hid
  | stream id i =>
      have hid : id ≠ 0 := hid
      have hdrops : (E.view id).drops = i ::
          (({ E with droppedPorts := rest } : Endpoint).view id).drops := by
        simp [view, hports, hid]
      refine Sim.single _ (opts_closePort id false) ?_ (queue_closePort false)
      rw [view_closePort]
      exact .dropped hdrops (by simp [view, hrun, Phase.isRunning])

lemma sim_foldl {α : Type} {f : Endpoint → α → Endpoint} (x : UInt32)
    (h : ∀ E a, Sim x E .tau (f E a)) (l : List α) (E : Endpoint) :
    Sim x E .tau (l.foldl f E) := by
  induction l generalizing E with
  | nil => exact Sim.refl x E
  | cons a l ih => exact (h E a).trans (ih (f E a))

lemma sim_dropMux (x : UInt32) : Sim x E .tau E.dropMux := by
  have hfirst : Sim x E .tau
      { E with
        droppedPorts := if E.phase.isFinished then E.droppedPorts
          else E.droppedPorts ++ [.multiplexor]
        muxAlive := false, datagrams := [], conRecvStream := [], bndRequests := [] } := by
    refine Sim.idle rfl ?_ rfl
    by_cases hfin : E.phase.isFinished = true <;> simp [view, hfin]
  exact (hfirst.trans (sim_foldl x (fun E (p : UInt32 × ℕ) => sim_dropStream x p.1 p.2) _ _)).trans
    (sim_foldl x (fun E (p : UInt32 × ℕ) => sim_dropBind x p.1 p.2) _ _)

lemma sim_closeQueue {drain : Bool} {res : Except Error Unit} (x : UInt32)
    (hph : E.phase = .yielding drain res) : Sim x E .tau
      { E with phase := if drain then .draining res else .closing res } := by
  refine Sim.single [] rfl ?_ (by simp; rfl)
  have hview : ({ E with
      phase := if drain then .draining res else .closing res } : Endpoint).view x =
      { E.view x with txOpen := false, unsent := 0, bindUnsent := 0 } := by
    cases drain <;> simp [view, txOpen, hph, Phase.isRunning, Phase.isOpen, Phase.isFinished]
  rw [hview]
  exact .closeQueue (by simp [view, hph, Phase.isRunning])

/-- From one point of `wind_down` behind the closing of the queue to the next. -/
lemma view_phase {ph : Phase} (hopen : E.phase.isOpen = false) (hopen' : ph.isOpen = false)
    (hfin : E.phase.isFinished = false) (hfin' : ph.isFinished = false) :
    ({ E with phase := ph } : Endpoint).view x = E.view x := by
  have hrun : ∀ q : Phase, q.isOpen = false → q.isRunning = false := by
    intro q hq
    cases q <;> simp_all [Phase.isOpen, Phase.isRunning]
  simp [view, txOpen, hopen, hopen', hfin, hfin', hrun _ hopen, hrun _ hopen']

/-! ### All steps -/

lemma sim_reply {id : UInt32} {i : ℕ} (x : UInt32) (accepted : Bool)
    (h : E.ownsBind id i = true) : Sim x E .tau (E.reply id accepted) := by
  have hframe : ∃ p : Payload, p.isDatagram = false ∧ p = (if accepted then .finish else .reset) ∧
      (if accepted then Frame.newFinish id else Frame.newReset id) = ⟨id, p⟩ := by
    cases accepted
    · exact ⟨.reset, rfl, rfl, rfl⟩
    · exact ⟨.finish, rfl, rfl, rfl⟩
  obtain ⟨p, hp, hdef, hframe⟩ := hframe
  unfold reply
  rw [hframe]
  by_cases hx : x = id
  swap
  · exact (Within.send rfl).sim hx
  subst hx
  refine Sim.single _ (by simp) ?_ (queue_send_own hp)
  rw [view_send, hdef]
  refine .reply accepted ?_
  unfold ownsBind at h
  split at h
  case h_2 => cases h
  case h_1 b hb =>
    simp only [Bool.and_eq_true] at h
    exact List.countP_pos_iff.mpr ⟨b, List.mem_of_getElem? hb, h.2⟩

/-- A step of the endpoint on its own is a run of the flow. What the run queues goes to the
end of the queue, and what the step hands to the sink comes from its front. -/
lemma act_sim {a : Action} {out : List Message} (x : UInt32) (h : E.act a = some (E', out)) :
    E'.opts = E.opts ∧ ∃ ev sent, (ev = .tau ∨ ev = a.event x) ∧
      View.Run E.opts (E.view x) ev sent (E'.view x) ∧
      out.filterMap (Message.onFlow x) ++ E'.queue x = E.queue x ++ sent := by
  have quiet : ∀ {ev : Ev}, (ev = .tau ∨ ev = a.event x) → Sim x E ev E' → out = [] →
      E'.opts = E.opts ∧ ∃ ev sent, (ev = .tau ∨ ev = a.event x) ∧
        View.Run E.opts (E.view x) ev sent (E'.view x) ∧
        out.filterMap (Message.onFlow x) ++ E'.queue x = E.queue x ++ sent := by
    rintro ev hev ⟨ho, sent, hrun, hq⟩ rfl
    exact ⟨ho, ev, sent, hev, hrun, by simpa using hq⟩
  cases acts h with
  | newStreamChannel host port halive hkey =>
      exact quiet (.inr rfl) (sim_insertRequested x host port _ (keyAvailable_eq hkey).1) rfl
  | connectSent hc hstage hopen => exact quiet (.inl rfl) (sim_connectSent x hc hstage hopen) rfl
  | connectFails hc hstage hclosed => exact quiet (.inl rfl) (sim_connectFails x _ _ hclosed) rfl
  | connectFailsWith hc hstage hclosed =>
      exact quiet (.inl rfl) ((sim_connectFails x _ _ hclosed).trans (sim_dropStream x _ _)) rfl
  | @streamGiven id i j c hc hstage =>
      have hgiven : Sim x E .tau (E.modifyCall id j fun c => { c with stage := .returned }) :=
        sim_stage x hc (by rw [hstage]; rfl) rfl
      exact quiet (.inl rfl) (hgiven.trans (Sim.idle rfl rfl rfl)) rfl
  | streamRejected hc hstage | senderGone hc hstage | cancelStream hc hstage =>
      exact quiet (.inl rfl) (sim_stage x hc (by rw [hstage]; rfl) rfl) rfl
  | @retryStream id id' j c hc hstage hleft hkey =>
      have hgone : (E.modifyCall id j fun c => { c with stage := .returned }).view x = E.view x :=
        view_stage x hc (by rw [hstage]; rfl) rfl
      exact quiet (.inr rfl) (Sim.of_idle (E.modifyCall id j _) rfl hgone rfl
        (sim_insertRequested x _ _ _ (keyAvailable_eq hkey).1)) rfl
  | @cancelStreamWith id i j c hc hstage =>
      have hgone : Sim x E .tau (E.modifyCall id j fun c => { c with stage := .cancelled }) :=
        sim_stage x hc (by rw [hstage]; rfl) rfl
      exact quiet (.inl rfl) (hgone.trans (sim_dropStream x _ _)) rfl
  | requestBind host port t halive hkey =>
      exact quiet (.inr rfl) (sim_insertBindRequested x host port t (keyAvailable_eq hkey).1) rfl
  | bindSent hc hstage hopen => exact quiet (.inl rfl) (sim_bindSent x hc hstage hopen) rfl
  | bindFails hc hstage hclosed => exact quiet (.inl rfl) (sim_bindFails x _ _ hclosed) rfl
  | awaitBind hc hstage | cancelBind hc hstage =>
      exact quiet (.inl rfl) (sim_bindStage x hc (by rw [hstage]; rfl) rfl) rfl
  | acceptStreamChannel | getDatagram | nextBindRequest =>
      exact quiet (.inl rfl) (Sim.idle rfl rfl rfl) rfl
  | @sendDatagram d halive hhost hopen =>
      refine quiet (.inl rfl) (Sim.idle (by simp) (by simp) ?_) rfl
      simp [send, hopen, queue, onFlow_finalize_datagram x (f := Frame.newDatagramOwned d.flowId
        d.targetHost d.targetPort d.data) rfl]
  | datagramRefused => exact quiet (.inl rfl) (Sim.refl x E) rfl
  | reply accepted hown => exact quiet (.inl rfl) (sim_reply x accepted hown) rfl
  | dropBind => exact quiet (.inl rfl) (sim_dropBind x _ _) rfl
  | dropMux => exact quiet (.inl rfl) (sim_dropMux x) rfl
  | pollWrite buf hown =>
      obtain ⟨ev, hev, hsim⟩ := sim_pollWrite x buf hown
      refine quiet (hev.imp_right ?_) hsim rfl
      rintro ⟨rfl, rfl⟩
      simp [Action.event]
  | @copyPush id i m buf hown =>
      obtain ⟨ev, hev, hsim⟩ := sim_pollWrite x buf hown
      refine quiet (hev.imp_right ?_) hsim rfl
      rintro ⟨rfl, rfl⟩
      simp [Action.event]
  | pollShutdown hown => exact quiet (.inl rfl) (sim_pollShutdown x hown) rfl
  | pollFillBuf hown => exact quiet (.inl rfl) (sim_pollFillBuf x hown) rfl
  | consume hown hamt => exact quiet (.inl rfl) (sim_consume x hown hamt) rfl
  | pollRead remaining hown => exact quiet (.inl rfl) (sim_pollRead x remaining hown) rfl
  | dropStream => exact quiet (.inl rfl) (sim_dropStream x _ _) rfl
  | droppedZero hrun hports hzero =>
      exact quiet (.inl rfl) (sim_droppedZero x hrun hports hzero _) rfl
  | droppedPort hrun hports hid => exact quiet (.inl rfl) (sim_droppedPort x hrun hports hid) rfl
  | @sendFrame f rest hrun hframes | @drainFrame res f rest hph hframes =>
      refine ⟨rfl, .tau, [], .inl rfl, .idle _, ?_⟩
      cases hf : onFlow x f <;> simp [queue, hframes, Message.onFlow, hf]
  | tick => exact ⟨rfl, .tau, [], .inl rfl, .idle _, by simp [Message.onFlow]⟩
  | @resumeGone id i hrun =>
      have hdrop : Sim x E .tau ({ E with blocked := none }.dropStream id i) :=
        Sim.of_idle { E with blocked := none } rfl rfl rfl (sim_dropStream x id i)
      have hph : ({ E with blocked := none }.dropStream id i).phase = .running :=
        (phase_dropStream id i).trans hrun
      exact quiet (.inl rfl) (hdrop.trans (sim_startWindDown x _ _ hph)) rfl
  | @resumeStream id i =>
      exact quiet (.inl rfl) (Sim.of_idle { E with blocked := none } rfl rfl rfl
        (sim_sendStream x id i)) rfl
  | @resumeBind id i =>
      exact quiet (.inl rfl) (Sim.of_idle { E with blocked := none } rfl rfl rfl
        (sim_sendBindRequest x id i)) rfl
  | sinkError hrun | sourceError hrun | sourceEnd hrun =>
      exact quiet (.inl rfl) (sim_startWindDown x _ _ hrun) rfl
  | lastError hph | lastMessage hph => exact quiet (.inl rfl) (sim_finishTask x hph) rfl
  | closeQueue hph => exact quiet (.inl rfl) (sim_closeQueue x hph) rfl
  | sinkErrorDraining hph | drained hph =>
      refine quiet (.inl rfl) (Sim.idle rfl ?_ rfl) rfl
      exact view_phase (by rw [hph]; rfl) rfl (by rw [hph]; rfl) rfl
  | @closeSink res hph =>
      refine ⟨rfl, .tau, [], .inl rfl, ?_, by simp [Message.onFlow, queue]⟩
      have hview : ({ E with phase := .reading res } : Endpoint).view x = E.view x :=
        view_phase (by rw [hph]; rfl) rfl (by rw [hph]; rfl) rfl
      rw [hview]
      exact .idle _

/-- What a message is to flow `x`. -/
def messageEvent (x : UInt32) (msg : Message) : Ev :=
  match msg.onFlow x with
  | some p => .recv p
  | none => .tau

lemma sim_processMessage (msg : Message) (ignoreBind : Bool) (x : UInt32)
    (hfin : E.phase.isFinished = false) :
    Sim x E (messageEvent x msg) (E.processMessage msg ignoreBind).1 ∧
      (E.processMessage msg ignoreBind).1.phase = E.phase := by
  rcases E.processMessage_cases msg ignoreBind with ⟨hno, heq⟩ | ⟨data, f, rfl, hdec, heq⟩
  · have hev : messageEvent x msg = .tau := by
      rw [messageEvent, Message.onFlow_of_frame?_none x hno]
    rw [hev, heq]
    exact ⟨Sim.refl x E, rfl⟩
  · have hev : messageEvent x (.binary data) = frameEvent x f := by
      by_cases hf : f.id = x ∧ f.payload.isDatagram = false <;>
        simp [messageEvent, Message.onFlow, onFlow, hdec, frameEvent, hf]
    rw [hev, heq]
    exact ⟨sim_processFrame x f ignoreBind hfin, (within_processFrame E f ignoreBind).phase⟩

/-- What becomes of the task is nothing to the flows, or the beginning of `wind_down`. -/
lemma sim_afterMessage (x : UInt32) (hrun : E.phase = .running) (r : Poll (Except Error Bool)) :
    Sim x E .tau (E.afterMessage r) := by
  rcases r with (e | b) | _
  · exact sim_startWindDown x _ _ hrun
  · cases b
    · exact Sim.refl x E
    · exact sim_startWindDown x _ _ hrun
  · exact Sim.refl x E

/-- The arrival of a message is a run of the flow. -/
lemma recv_sim {msg : Message} (x : UInt32) (h : E.recv msg = some E') :
    Sim x E (messageEvent x msg) E' := by
  obtain ⟨hrun, -, rfl⟩ | ⟨res, hph, hend⟩ := recv_cases h
  · have hfin : E.phase.isFinished = false := by simp [hrun, Phase.isFinished]
    obtain ⟨hsim, hrun'⟩ := sim_processMessage msg false x hfin
    exact hsim.trans (sim_afterMessage x (hrun'.trans hrun) _)
  · have hfin : E.phase.isFinished = false := by simp [hph, Phase.isFinished]
    obtain ⟨hsim, hph'⟩ := sim_processMessage msg true x hfin
    rw [hph] at hph'
    obtain ⟨e, -, rfl⟩ | ⟨-, rfl⟩ := hend
    · refine hsim.trans (Sim.single [] rfl ?_ (by simp; rfl))
      have hview : ({ (E.processMessage msg true).1 with
          phase := .finished (.error e) } : Endpoint).view x =
          { (E.processMessage msg true).1.view x with finished := true } := by
        simp [view, txOpen, hph', Phase.isRunning, Phase.isOpen, Phase.isFinished]
      rw [hview]
      exact .finish (by simp [view, hph', Phase.isRunning])
        (by simp [view, txOpen, hph', Phase.isOpen])
    · exact hsim

end Endpoint

end Penguin.Mux
