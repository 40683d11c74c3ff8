import Penguin.Mux.Credit

/-!
When flow control can come to a stop.

A reader acknowledges what it has read when it has read as much as its threshold, which
`new_stream_shared` takes from the window that the *other* end grants. The writer runs out of
credit after the window of the reader. If that is smaller than the threshold, the writer
waits for an acknowledgement that the reader does not send.
-/

namespace Penguin.Mux

open View Penguin.Lib.Transition

/-- The direction from `w` of flow `x` has come to a stop: the stream is established and
neither finished, reset nor dropped, the writer has no credit left, and nothing is left that
could return it. A task that winds down finishes its streams, so both tasks are running. -/
structure System.Stalled (s : System) (x : UInt32) (w : Side) : Prop where
  running : ∀ e, (s.ep e).phase = .running
  writer : ∃ i m, (s.ep w).flows x = some (.established ⟨i, true⟩) ∧
    ((s.ep w).streams x)[i]? = some m ∧ m.dropped = false ∧ m.finishSent = false ∧
    m.pshSendRemaining = 0
  reader : ∃ i m, (s.ep w.peer).flows x = some (.established ⟨i, true⟩) ∧
    ((s.ep w.peer).streams x)[i]? = some m ∧ m.dropped = false ∧ m.finishSent = false ∧
    m.frameRx = []
  wire : ∀ e, ∀ p ∈ s.wire x e, p.isPush = false ∧ ∀ n, p ≠ .acknowledge n

namespace System

/-- With a threshold that the window reaches, something is always left. -/
lemma not_stalled {opts : Side → Options} {x : UInt32} {s : System} {w : Side}
    (h : Reach step (UsedOnce x) (new opts) s)
    (hle : min (opts w.peer).defaultRwndThreshold (opts w).rwnd ≤ (opts w.peer).rwnd) :
    ¬ s.Stalled x w := by
  intro hst
  obtain ⟨i, m, -, hm, hd, -, hrem⟩ := hst.writer
  obtain ⟨i', m', -, hm', hd', -, hrx⟩ := hst.reader
  replace hm := streams_eq_of_mem h (List.mem_of_getElem? hm)
  replace hm' := streams_eq_of_mem h (List.mem_of_getElem? hm')
  obtain ⟨hc, hflow⟩ := flowing h w
  have huse : (s.conn x w).InUse := .inl (by simp [conn, Endpoint.view, hm])
  have halive : s.Alive x := by
    intro e
    refine ⟨hst.running e, ?_⟩
    rcases w.eq_or_eq_peer e with rfl | rfl
    · simp [hm, hd]
    · simp [hm', hd']
  have hwin : s.window x w = (s.ep w.peer).opts.rwnd.toNat :=
    ((hflow huse).1.steady (halive.live w)).window
  have hpush : (s.wire x w).countP Payload.isPush = 0 :=
    List.countP_eq_zero.mpr fun p hp => by simp [(hst.wire w p hp).1]
  have hack : ((s.wire x w.peer).map Payload.credit).sum = 0 := by
    rw [List.sum_eq_zero_iff]
    intro n hn
    obtain ⟨p, hp, rfl⟩ := List.mem_map.mp hn
    cases p with
    | acknowledge n => exact absurd rfl ((hst.wire w.peer _ hp).2 n)
    | _ => rfl
  have hmem : m' ∈ (s.ep w.peer).streams x := by simp [hm']
  have hthr : m'.rwndThreshold = min (opts w.peer).defaultRwndThreshold (opts w).rwnd := by
    have := (hc.used huse).2.threshold m' hmem
    simpa [conn, Conn.flip, opts_reach h] using this
  have hrecvd : m'.pshRecvdSince < m'.rwndThreshold := (hc.used huse).2.recvd m' hmem
  rw [hthr, UInt32.lt_iff_toNat_lt] at hrecvd
  rw [UInt32.le_iff_toNat_le] at hle
  rw [opts_reach h] at hwin
  simp [window, hm, hm', hrem, hrx, hpush, hack] at hwin
  omega

end System

/-! ### How the window is used up -/

namespace Endpoint

/-- The task is running with the frames `q` queued, and the user has the handle `m` of the
established flow `x`. -/
structure Holds (E : Endpoint) (x : UInt32) (m : MuxStream) (q : List Bytes) : Prop where
  phase : E.phase = .running
  blocked : E.blocked = none
  queue : E.txFrames = q
  slot : E.flows x = some (.established ⟨0, true⟩)
  streams : E.streams x = [m]
  held : E.held x 0 = true

variable {E : Endpoint} {x : UInt32} {m : MuxStream} {q : List Bytes}

lemma Holds.owns (h : E.Holds x m q) (hd : m.dropped = false) : E.owns x 0 = some m := by
  simp [Endpoint.owns, h.streams, h.held, hd]

lemma Holds.txOpen (h : E.Holds x m q) : E.txOpen = true := by
  simp [Endpoint.txOpen, h.phase, Phase.isOpen]

lemma Holds.update (h : E.Holds x m q) (m' : MuxStream) (sent : List Frame) :
    (E.update x 0 m' sent).Holds x m' (q ++ sent.map finalize) := by
  have hmod : (E.modifyStream x 0 fun _ => m').Holds x m' q :=
    ⟨h.phase, h.blocked, h.queue, h.slot, by simp [modifyStream, h.streams], h.held⟩
  unfold Endpoint.update
  generalize E.modifyStream x 0 (fun _ => m') = E' at hmod
  clear h
  induction sent generalizing E' q with
  | nil => simpa using hmod
  | cons f sent ih =>
      have hsend : (E'.send f).Holds x m' (q ++ [finalize f]) := by
        simp only [send, hmod.txOpen, if_true]
        exact ⟨hmod.phase, hmod.blocked, by simp [hmod.queue], hmod.slot, hmod.streams, hmod.held⟩
      simpa using ih _ hsend

lemma Holds.write (h : E.Holds x m q) (buf : Bytes) (hd : m.dropped = false)
    (hf : m.finishSent = false) (hr : m.pshSendRemaining ≠ 0) :
    ∃ E', E.act (.pollWrite x 0 buf) = some (E', []) ∧ E'.Holds x { m with
      pshSendRemaining := m.pshSendRemaining - 1, written := m.written ++ buf }
      (q ++ [finalize (Frame.newPush x buf)]) := by
  have hwrite : m.pollWrite x E.txOpen buf =
      ({ m with pshSendRemaining := m.pshSendRemaining - 1, written := m.written ++ buf },
        [Frame.newPush x buf], .ready (.ok buf.length)) := by
    simp [MuxStream.pollWrite, MuxStream.pollObtainWritePermission, hf, hr, h.txOpen]
  exact ⟨_, by simp only [act, pollWrite, h.owns hd, Option.map_some, hwrite],
    h.update _ [Frame.newPush x buf]⟩

lemma Holds.sendFrame {f : Bytes} (h : E.Holds x m (f :: q)) :
    ∃ E', E.act .sendFrame = some (E', [.binary f]) ∧ E'.Holds x m q :=
  ⟨{ E with txFrames := q }, by simp only [act, h.phase, h.queue],
    h.phase, h.blocked, rfl, h.slot, h.streams, h.held⟩

lemma Holds.recvPush (h : E.Holds x m q) (buf : Bytes) (hd : m.dropped = false)
    (hroom : m.frameRx.length < E.opts.rwnd.toNat) :
    ∃ E', E.recv (.binary (finalize (Frame.newPush x buf))) = some E' ∧
      E'.Holds x { m with frameRx := m.frameRx ++ [buf] } q := by
  have hdec := tryFrom_finalize (f := Frame.newPush x buf) rfl
  have hm : (E.streams x)[0]? = some m := by simp [h.streams]
  have hframe : E.processFrame (Frame.newPush x buf) false =
      (E.modifyStream x 0 fun m => { m with frameRx := m.frameRx ++ [buf] }, .ready (.ok ())) := by
    simp [processFrame, Frame.newPush, dispatch_of_slot h.slot hm, hd, hroom]
  have hproc : E.processMessage (.binary (finalize (Frame.newPush x buf))) false =
      (E.modifyStream x 0 fun m => { m with frameRx := m.frameRx ++ [buf] }, .ready (.ok false)) := by
    simp only [processMessage, hdec, hframe]
  refine ⟨E.modifyStream x 0 fun m => { m with frameRx := m.frameRx ++ [buf] }, ?_, h.phase,
    h.blocked, h.queue, h.slot, by simp [modifyStream, h.streams], h.held⟩
  simp only [recv, h.phase, h.blocked, hproc, afterMessage]
  rfl

lemma Holds.read (buf : Bytes) (h : E.Holds x m q) (hd : m.dropped = false) (hb : m.buf = [])
    (hrx : m.frameRx = [buf]) (hlt : m.pshRecvdSince + 1 < m.rwndThreshold) :
    ∃ E', E.act (.pollRead x 0 buf.length) = some (E', []) ∧ E'.Holds x { m with
      frameRx := [], pshRecvdSince := m.pshRecvdSince + 1, taken := m.taken ++ buf } q := by
  have hread : ∀ rx, m.pollRead x E.txOpen rx buf.length =
      ({ m with frameRx := [], pshRecvdSince := m.pshRecvdSince + 1, taken := m.taken ++ buf },
        [], .ready buf) := by
    intro rx
    simp [MuxStream.pollRead, MuxStream.pollFillBuf_of_lt rx hb hrx hlt, MuxStream.consume, hb]
  have hupd := h.update { m with
    frameRx := [], pshRecvdSince := m.pshRecvdSince + 1, taken := m.taken ++ buf } []
  rw [List.map_nil, List.append_nil] at hupd
  exact ⟨_, by simp only [act, pollRead, h.owns hd, Option.map_some, hread], hupd⟩

/-! ### Opening a stream -/

/-- The call of a user waits for the acknowledgement of its `Connect`. -/
structure Waits (E : Endpoint) (x : UInt32) : Prop where
  phase : E.phase = .running
  blocked : E.blocked = none
  queue : E.txFrames = []
  slot : E.flows x = some (.requested 0)
  streams : E.streams x = []
  call : ∃ c, E.calls x = [c] ∧ c.stage = .awaiting

lemma requests (o : Options) : ∃ E₁ E₂ E₃,
    (new o).act (.newStreamChannel 1 [] 0) = some (E₁, []) ∧
    E₁.act (.sendConnect 1 0) = some (E₂, []) ∧
    E₂.act .sendFrame = some (E₃, [.binary (finalize (Frame.newConnect [] 0 1 o.rwnd))]) ∧
    E₃.Waits 1 ∧ E₃.opts = o := by
  refine ⟨(new o).insertRequested 1 [] 0 (o.maxFlowIdRetries - 1), _, _, rfl, rfl, rfl, ?_, rfl⟩
  exact ⟨rfl, rfl, rfl, rfl, rfl, _, rfl, rfl⟩

lemma accepts_connect (o o' : Options) : ∃ R₁ R₂ R₃,
    (new o').recv (.binary (finalize (Frame.newConnect [] 0 1 o.rwnd))) = some R₁ ∧
    R₁.act .sendFrame = some (R₂, [.binary (finalize (Frame.newAcknowledge 1 o'.rwnd))]) ∧
    R₂.act .acceptStreamChannel = some (R₃, []) ∧
    R₃.Holds 1 (newStreamShared o' o.rwnd [] 0) [] ∧ R₃.opts = o' := by
  have hdec := tryFrom_finalize (f := Frame.newConnect [] 0 1 o.rwnd) rfl
  have hframe : ∃ R, (new o').processFrame (Frame.newConnect [] 0 1 o.rwnd) false =
      (R, .ready (.ok ())) ∧ R.phase = .running ∧ R.blocked = none ∧
      R.txFrames = [finalize (Frame.newAcknowledge 1 o'.rwnd)] ∧
      R.flows 1 = some (.established ⟨0, true⟩) ∧
      R.streams 1 = [newStreamShared o' o.rwnd [] 0] ∧ R.conRecvStream = [(1, 0)] ∧
      R.opts = o' := by
    have hroom : 0 < o'.streamBufferSize := o'.streamBufferSize_pos
    refine ⟨{ (((new o').addStream 1 (newStreamShared o' o.rwnd [] 0)).setSlot 1
      (some (.established ⟨0, true⟩))).send (Frame.newAcknowledge 1 o'.rwnd) with
      conRecvStream := [(1, 0)] }, ?_, rfl, rfl, rfl, rfl, rfl, rfl, rfl⟩
    have hsend : ∀ R : Endpoint, R.muxAlive = true → R.conRecvStream = [] → R.opts = o' →
        R.sendStream 1 0 = ({ R with conRecvStream := [(1, 0)] }, .ready (.ok ())) := by
      intro R halive hnil hopts
      simp [sendStream, halive, hnil, hopts, hroom]
    exact hsend ((((new o').addStream 1 (newStreamShared o' o.rwnd [] 0)).setSlot 1
      (some (.established ⟨0, true⟩))).send (Frame.newAcknowledge 1 o'.rwnd)) rfl rfl rfl
  obtain ⟨R, hR, h₁, h₂, h₃, h₄, h₅, h₆, h₇⟩ := hframe
  refine ⟨R, { R with txFrames := [] },
    ({ R with txFrames := [], conRecvStream := [] } : Endpoint).hold 1 0, ?_, ?_, ?_, ?_, h₇⟩
  · simp only [recv, processMessage, hdec, hR, afterMessage]
    rfl
  · simp only [act, h₁, h₃]
  · simp only [act, acceptStreamChannel, h₆, Option.map_some]
  · exact ⟨h₁, h₂, rfl, h₄, h₅, by simp [hold]⟩

lemma Waits.opened {E : Endpoint} {x : UInt32} (h : E.Waits x) (n : UInt32) : ∃ E₁ E₂,
    E.recv (.binary (finalize (Frame.newAcknowledge x n))) = some E₁ ∧
    E₁.act (.awaitStream x 0) = some (E₂, []) ∧
    E₂.Holds x (newStreamShared E.opts n [] 0) [] ∧ E₂.opts = E.opts := by
  obtain ⟨c, hcalls, hst⟩ := h.call
  have hdec := tryFrom_finalize (f := Frame.newAcknowledge x n) rfl
  have hframe : ∃ E₁, E.processFrame (Frame.newAcknowledge x n) false = (E₁, .ready (.ok ())) ∧
      E₁.phase = .running ∧ E₁.blocked = none ∧ E₁.txFrames = [] ∧
      E₁.flows x = some (.established ⟨0, true⟩) ∧
      E₁.streams x = [newStreamShared E.opts n [] 0] ∧
      (∃ c, E₁.calls x = [c] ∧ c.stage = .awaiting ∧ c.reply = some (some 0)) ∧
      E₁.opts = E.opts := by
    refine ⟨((E.addStream x (newStreamShared E.opts n [] 0)).setSlot x
      (some (.established ⟨0, true⟩))).modifyCall x 0 (StreamCall.answer (some 0)), ?_,
      h.phase, h.blocked, h.queue, ?_, ?_, ⟨c.answer (some 0), ?_, ?_, ?_⟩, rfl⟩
    · simp [processFrame, Frame.newAcknowledge, h.slot, ackRecvNewStream, h.streams, hcalls, hst,
        addStream, Stage.listening]
    · simp [setSlot, modifyCall]
    · simp [setSlot, modifyCall, addStream, h.streams]
    · simp [setSlot, modifyCall, addStream, hcalls]
    · simp [StreamCall.answer, hst, Stage.listening]
    · simp [StreamCall.answer, hst, Stage.listening]
  obtain ⟨E₁, hE, h₁, h₂, h₃, h₄, h₅, ⟨c', hc', hst', hr'⟩, h₇⟩ := hframe
  refine ⟨E₁, (E₁.modifyCall x 0 fun c => { c with stage := .returned }).hold x 0, ?_, ?_, ?_, h₇⟩
  · simp only [recv, h.phase, h.blocked, processMessage, hdec, hE, afterMessage]
    rfl
  · simp [act, awaitStream, hc', hst', hr']
  · exact ⟨h₁, h₂, h₃, h₄, h₅, by simp [hold]⟩

end Endpoint

namespace System

/-! ### The run -/

variable {opts : Side → Options} {x : UInt32} {s : System} {w : Side}

lemma reach_act {s₀ : System} {ok : System → Label → Prop} {e : Side} {a : Action}
    {E : Endpoint} {out : List Message} (hs : Reach step ok s₀ s) (hok : ok s (.act e a))
    (h : (s.ep e).act a = some (E, out)) :
    ∃ s', Reach step ok s₀ s' ∧ s'.ep e = E ∧ s'.ep e.peer = s.ep e.peer ∧
      s'.link e = s.link e ++ out ∧ s'.link e.peer = s.link e.peer := by
  refine ⟨_, .next hs hok (by simp [step, h]; rfl), ?_, ?_, ?_, ?_⟩
  · simp
  · simp [Function.update_of_ne e.peer_ne]
  · simp
  · simp [Function.update_of_ne e.peer_ne]

lemma reach_deliver {s₀ : System} {ok : System → Label → Prop} {e : Side} {msg : Message}
    {rest : List Message} {E : Endpoint} (hs : Reach step ok s₀ s) (hok : ok s (.deliver e))
    (hlink : s.link e.peer = msg :: rest) (h : (s.ep e).recv msg = some E) :
    ∃ s', Reach step ok s₀ s' ∧ s'.ep e = E ∧ s'.ep e.peer = s.ep e.peer ∧
      s'.link e = s.link e ∧ s'.link e.peer = rest := by
  refine ⟨_, .next hs hok (by simp [step, hlink, h]; rfl), ?_, ?_, ?_, ?_⟩
  · simp
  · simp [Function.update_of_ne e.peer_ne]
  · simp [Function.update_of_ne e.peer_ne.symm]
  · simp

/-- Both users have a handle of the flow and nothing is in flight. -/
structure Quiet (s : System) (x : UInt32) (w : Side) (m m' : MuxStream) : Prop where
  writer : (s.ep w).Holds x m []
  reader : (s.ep w.peer).Holds x m' []
  link : s.link w = []
  peer_link : s.link w.peer = []

lemma Quiet.round {m m' : MuxStream} (h : s.Quiet x w m m') (hd : m.dropped = false)
    (hf : m.finishSent = false) (hr : m.pshSendRemaining ≠ 0) (hd' : m'.dropped = false)
    (hb : m'.buf = []) (hrx : m'.frameRx = []) (hlt : m'.pshRecvdSince + 1 < m'.rwndThreshold) :
    ∃ s', Reach step (UsedOnce x) s s' ∧ s'.Quiet x w
      { m with pshSendRemaining := m.pshSendRemaining - 1, written := m.written ++ [0] }
      { m' with pshRecvdSince := m'.pshRecvdSince + 1, taken := m'.taken ++ [0] } := by
  have hroom : m'.frameRx.length < (s.ep w.peer).opts.rwnd.toNat := by
    have := UInt32.lt_iff_toNat_lt.mp (s.ep w.peer).opts.rwnd_pos
    simpa [hrx] using this
  obtain ⟨E₁, hE₁, hw₁⟩ := h.writer.write [0] hd hf hr
  obtain ⟨E₂, hE₂, hw₂⟩ := hw₁.sendFrame
  obtain ⟨R₁, hR₁, hr₁⟩ := h.reader.recvPush [0] hd' hroom
  obtain ⟨R₂, hR₂, hr₂⟩ := hr₁.read [0] hd' hb (by simp [hrx]) hlt
  obtain ⟨s₁, h₁, hw, hp, hl, hl'⟩ := reach_act (e := w) (a := .pollWrite x 0 [0])
    (.start : Reach step (UsedOnce x) s s) trivial hE₁
  obtain ⟨s₂, h₂, hw₂', hp₂, hl₂, hl₂'⟩ := reach_act (e := w) (a := .sendFrame) h₁ trivial
    (by rw [hw]; exact hE₂)
  have hsent : s₂.link w = [.binary (Endpoint.finalize (Frame.newPush x [0]))] := by
    simp [hl₂, hl, h.link]
  obtain ⟨s₃, h₃, hr₃, hp₃, hl₃, hl₃'⟩ := reach_deliver (e := w.peer) h₂ trivial
    (by rw [Side.peer_peer]; exact hsent) (by rw [hp₂, hp]; exact hR₁)
  obtain ⟨s₄, h₄, hr₄, hp₄, hl₄, hl₄'⟩ :=
    reach_act (e := w.peer) (a := .pollRead x 0 [(0 : UInt8)].length)
      h₃ trivial (by rw [hr₃]; exact hR₂)
  simp only [Side.peer_peer] at hp₃ hl₃' hp₄ hl₄'
  refine ⟨s₄, h₄, ?_, ?_, ?_, ?_⟩
  · rw [hp₄, hp₃, hw₂']
    exact hw₂
  · rw [hr₄]
    simpa [hrx] using hr₂
  · rw [hl₄', hl₃']
  · simp [hl₄, hl₃, hl₂', hl', h.peer_link]

/-- After `k` rounds the reader has the frames and has acknowledged none of them. -/
lemma Quiet.rounds {m m' : MuxStream} (h : s.Quiet x w m m') (k : ℕ) (hd : m.dropped = false)
    (hf : m.finishSent = false) (hk : k ≤ m.pshSendRemaining.toNat) (hd' : m'.dropped = false)
    (hf' : m'.finishSent = false) (hb : m'.buf = []) (hrx : m'.frameRx = [])
    (hlt : m'.pshRecvdSince.toNat + k < m'.rwndThreshold.toNat) :
    ∃ s' n n', Reach step (UsedOnce x) s s' ∧ s'.Quiet x w n n' ∧ n.dropped = false ∧
      n.finishSent = false ∧ n.pshSendRemaining.toNat + k = m.pshSendRemaining.toNat ∧
      n'.dropped = false ∧ n'.finishSent = false ∧ n'.frameRx = [] := by
  induction k generalizing s m m' with
  | zero => exact ⟨s, m, m', .start, h, hd, hf, rfl, hd', hf', hrx⟩
  | succ k ih =>
      have hpos : m.pshSendRemaining ≠ 0 := by
        intro h0
        simp [h0] at hk
      have hbound := m'.rwndThreshold.toNat_lt
      have hadd : (m'.pshRecvdSince + 1).toNat = m'.pshRecvdSince.toNat + 1 :=
        Conn.toNat_add_one (k := m'.rwndThreshold) (UInt32.lt_iff_toNat_lt.mpr (by omega))
      have hsub := Conn.toNat_sub_one hpos
      have hlt' : m'.pshRecvdSince + 1 < m'.rwndThreshold := by
        rw [UInt32.lt_iff_toNat_lt, hadd]
        omega
      obtain ⟨s₁, hreach, hq⟩ := h.round hd hf hpos hd' hb hrx hlt'
      obtain ⟨s₂, n, n', hreach', hq', h₁, h₂, h₃, h₄, h₅, h₆⟩ := ih hq hd hf
        (show k ≤ (m.pshSendRemaining - 1).toNat by omega) hd' hf' hb hrx
        (show (m'.pshRecvdSince + 1).toNat + k < m'.rwndThreshold.toNat by omega)
      refine ⟨s₂, n, n', hreach.trans hreach', hq', h₁, h₂, ?_, h₄, h₅, h₆⟩
      have : n.pshSendRemaining.toNat + k = (m.pshSendRemaining - 1).toNat := h₃
      omega

/-- Any two endpoints can open a stream. -/
lemma opens (opts : Side → Options) (w : Side) : ∃ s, Reach step (UsedOnce 1) (new opts) s ∧
    s.Quiet 1 w (newStreamShared (opts w) (opts w.peer).rwnd [] 0)
      (newStreamShared (opts w.peer) (opts w).rwnd [] 0) := by
  obtain ⟨E₁, E₂, E₃, hE₁, hE₂, hE₃, hwait, ho⟩ := Endpoint.requests (opts w)
  obtain ⟨R₁, R₂, R₃, hR₁, hR₂, hR₃, hholds, -⟩ := Endpoint.accepts_connect (opts w) (opts w.peer)
  obtain ⟨E₄, E₅, hE₄, hE₅, hopened, -⟩ := hwait.opened (opts w.peer).rwnd
  rw [ho] at hopened
  obtain ⟨s₁, h₁, hw₁, hp₁, hl₁, hl₁'⟩ := reach_act (e := w) (a := .newStreamChannel 1 [] 0)
    (.start : Reach step (UsedOnce 1) (new opts) _) (fun _ _ => rfl) hE₁
  obtain ⟨s₂, h₂, hw₂, hp₂, hl₂, hl₂'⟩ := reach_act (e := w) (a := .sendConnect 1 0) h₁ trivial
    (by rw [hw₁]; exact hE₂)
  obtain ⟨s₃, h₃, hw₃, hp₃, hl₃, hl₃'⟩ := reach_act (e := w) (a := .sendFrame) h₂ trivial
    (by rw [hw₂]; exact hE₃)
  have hsent : s₃.link w = [.binary (Endpoint.finalize
      (Frame.newConnect [] 0 1 (opts w).rwnd))] := by
    simp [hl₃, hl₂, hl₁, new]
  obtain ⟨s₄, h₄, hr₄, hp₄, hl₄, hl₄'⟩ := reach_deliver (e := w.peer) h₃ trivial
    (by rw [Side.peer_peer]; exact hsent) (by rw [hp₃, hp₂, hp₁]; exact hR₁)
  obtain ⟨s₅, h₅, hr₅, hp₅, hl₅, hl₅'⟩ := reach_act (e := w.peer) (a := .sendFrame) h₄ trivial
    (by rw [hr₄]; exact hR₂)
  obtain ⟨s₆, h₆, hr₆, hp₆, hl₆, hl₆'⟩ := reach_act (e := w.peer) (a := .acceptStreamChannel) h₅
    trivial (by rw [hr₅]; exact hR₃)
  simp only [Side.peer_peer] at hp₄ hl₄' hp₅ hl₅' hp₆ hl₆'
  have hsent' : s₆.link w.peer = [.binary (Endpoint.finalize
      (Frame.newAcknowledge 1 (opts w.peer).rwnd))] := by
    simp [hl₆, hl₅, hl₄, hl₃', hl₂', hl₁', new]
  obtain ⟨s₇, h₇, hw₇, hp₇, hl₇, hl₇'⟩ := reach_deliver (e := w) h₆ trivial hsent'
    (by rw [hp₆, hp₅, hp₄, hw₃]; exact hE₄)
  obtain ⟨s₈, h₈, hw₈, hp₈, hl₈, hl₈'⟩ := reach_act (e := w) (a := .awaitStream 1 0) h₇ trivial
    (by rw [hw₇]; exact hE₅)
  refine ⟨s₈, h₈, ?_, ?_, ?_, ?_⟩
  · rw [hw₈]
    exact hopened
  · rw [hp₈, hp₇, hr₆]
    exact hholds
  · simp [hl₈, hl₇, hl₆', hl₅', hl₄']
  · rw [hl₈', hl₇']

lemma Quiet.stalled {m m' : MuxStream} (h : s.Quiet x w m m') (hd : m.dropped = false)
    (hf : m.finishSent = false) (hr : m.pshSendRemaining = 0) (hd' : m'.dropped = false)
    (hf' : m'.finishSent = false) (hrx : m'.frameRx = []) : s.Stalled x w := by
  have both : ∀ {P : Side → Prop}, P w → P w.peer → ∀ e, P e := by
    intro P hw hp e
    rcases w.eq_or_eq_peer e with rfl | rfl
    · exact hw
    · exact hp
  refine ⟨both h.writer.phase h.reader.phase,
    ⟨0, m, h.writer.slot, by simp [h.writer.streams], hd, hf, hr⟩,
    ⟨0, m', h.reader.slot, by simp [h.reader.streams], hd', hf', hrx⟩, both ?_ ?_⟩
  · simp [wire, h.link, Endpoint.queue, h.writer.queue]
  · simp [wire, h.peer_link, Endpoint.queue, h.reader.queue]

/-- A window below the threshold can be used up. -/
lemma exists_stalled (opts : Side → Options) (w : Side) (hlt : (opts w.peer).rwnd <
    min (opts w.peer).defaultRwndThreshold (opts w).rwnd) :
    ∃ s, Reach step (UsedOnce 1) (new opts) s ∧ s.Stalled 1 w := by
  rw [UInt32.lt_iff_toNat_lt] at hlt
  obtain ⟨s, hreach, hq⟩ := opens opts w
  -- the writer sends all it may
  obtain ⟨s', n, n', hreach', hq', h₁, h₂, h₃, h₄, h₅, h₆⟩ := hq.rounds
    (opts w.peer).rwnd.toNat rfl rfl (by simp [newStreamShared]) rfl rfl rfl rfl
    (by simpa [newStreamShared] using hlt)
  have hzero : n.pshSendRemaining = 0 := by
    refine UInt32.toNat_inj.mp ?_
    simp only [newStreamShared] at h₃
    simpa using h₃
  exact ⟨s', hreach.trans hreach', hq'.stalled h₁ h₂ hzero h₄ h₅ h₆⟩

/-- **Deadlock**: two endpoints keep clear of it if and only if, in both directions, the
threshold that the reader uses is not larger than the window it grants. -/
theorem deadlock_free_iff (opts : Side → Options) :
    (∀ x s w, Reach step (UsedOnce x) (new opts) s → ¬ s.Stalled x w) ↔
      ∀ w : Side, min (opts w.peer).defaultRwndThreshold (opts w).rwnd ≤ (opts w.peer).rwnd := by
  constructor
  · intro hfree w
    by_contra hgt
    obtain ⟨s, hreach, hst⟩ := exists_stalled opts w (UInt32.not_le.mp hgt)
    exact hfree 1 s w hreach hst
  · intro hle x s w hreach
    exact not_stalled hreach (hle w)

/-- With the default options on one side and a window of one frame on the other, the stream
stops after the first frame. -/
theorem small_window_stalls : ∃ s,
    Reach step (UsedOnce 1) (new fun
      | .a => Options.new
      | .b => Options.new.setRwnd 1 (by decide)) s ∧ s.Stalled 1 .a :=
  exists_stalled _ .a (by decide)

-- Why an id must not be used again: the last acknowledgement of the first stream opens the
-- second one at `a`, while `b` still has the first, with no credit left.
example : (run step (new fun _ => Options.new.setRwnd 1 (by decide)) (openRun .a 1 ++
    [.act .a (.pollWrite 1 0 [7]), .act .a .sendFrame, .deliver .b, .act .b (.pollWrite 1 0 [8]),
      .act .b (.pollRead 1 0 1), .act .b .sendFrame, .act .b .sendFrame, .deliver .a,
      .act .a (.dropStream 1 0), .act .a .droppedPort, .act .a (.newStreamChannel 1 [] 0),
      .act .a (.sendConnect 1 1), .deliver .a])).any (fun s =>
        (s.ep .b).flows 1 == some (.established ⟨0, true⟩) &&
        ((s.ep .b).streams 1)[0]?.any (fun m => !m.dropped && !m.finishSent &&
          m.pshSendRemaining == 0) &&
        (s.ep .a).flows 1 == some (.established ⟨1, true⟩) &&
        ((s.ep .a).streams 1)[1]?.any (fun m => !m.dropped && !m.finishSent &&
          m.frameRx.isEmpty) &&
        s.wire 1 .b == [] && s.wire 1 .a == [.reset, .connect ⟨1, 0, []⟩]) = true := by
  decide +kernel

end System

end Penguin.Mux
