import Penguin.Mux.Moves

/-!
Flow control of a stream.

The window of a writer is spread over five places: what it may still send, the `Push` frames
on their way, the channel of the reader, what the reader has not acknowledged, and the
acknowledgements on their way. Nothing adds to the sum, and while both ends are alive nothing
is taken away from it.
-/

namespace Penguin.Mux

open View

def Payload.isPush : Payload → Bool
  | .push _ => true
  | _ => false

/-- The credit that a frame returns. -/
def Payload.credit : Payload → ℕ
  | .acknowledge n => n.toNat
  | _ => 0

namespace View

/-- What the handles of the flow may still send. -/
def credit (V : View) : ℕ := (V.streams.map (·.pshSendRemaining.toNat)).sum

/-- What waits in the channels of the handles. -/
def buffered (V : View) : ℕ := (V.streams.map (·.frameRx.length)).sum

/-- What the handles have read and not acknowledged. -/
def unacked (V : View) : ℕ := (V.streams.map (·.pshRecvdSince.toNat)).sum

/-- A handle of the flow has been shut down, or closed. -/
def Done (V : View) : Prop := ∃ m ∈ V.streams, m.finishSent = true

end View

namespace Conn

/-- Where the window is that the peer has granted to this end. -/
def window (c : Conn) : ℕ :=
  c.me.credit + c.out.countP Payload.isPush + c.peer.buffered + c.peer.unacked +
    (c.inn.map Payload.credit).sum

/-- Both tasks are running and no handle of the flow has been dropped. -/
structure Live (c : Conn) : Prop where
  me : c.me.running = true
  peer : c.peer.running = true
  streams : ∀ m ∈ c.me.streams, m.dropped = false
  peer_streams : ∀ m ∈ c.peer.streams, m.dropped = false

/-! ### Nothing is pushed after a `Finish` -/

/-- The frames of this end are in order. -/
structure Order (c : Conn) : Prop where
  pairwise : c.out.Pairwise fun p q => p = .finish → q.isPush = false
  finish : .finish ∈ c.out → c.me.Done
  closed : ∀ i, c.peer.slot = some (.established ⟨i, false⟩) →
    c.me.Done ∧ ∀ p ∈ c.out, p.isPush = false

lemma Closes.done {l l' : List MuxStream} (h : Closes l l')
    (hd : ∃ m ∈ l, m.finishSent = true) : ∃ m ∈ l', m.finishSent = true := by
  rcases h with rfl | rfl
  · exact hd
  · obtain ⟨m, hm, -⟩ := hd
    exact ⟨m.disallowWrite, List.mem_map_of_mem hm, rfl⟩

lemma done_singleton {V : View} {m : MuxStream} (hm : V.streams = [m]) :
    V.Done ↔ m.finishSent = true := by
  simp [View.Done, hm]

/-- Frames that are no data do not disturb the order. -/
lemma Order.append {c c' : Conn} (sent : List Payload) (h : Order c) (hpeer : c'.peer = c.peer)
    (hout : c'.out = c.out ++ sent) (hsent : ∀ p ∈ sent, p.isPush = false)
    (hdone : c.me.Done → c'.me.Done) (hfin : .finish ∈ sent → c'.me.Done) : Order c' where
  pairwise := by
    rw [hout, List.pairwise_append]
    refine ⟨h.pairwise, ?_, fun p _ q hq _ => hsent q hq⟩
    exact List.pairwise_of_forall_mem_list fun p _ q hq _ => hsent q hq
  finish hf := by
    rw [hout, List.mem_append] at hf
    exact hf.elim (fun hf => hdone (h.finish hf)) hfin
  closed i hi := by
    rw [hpeer] at hi
    obtain ⟨hd, hno⟩ := h.closed i hi
    refine ⟨hdone hd, fun p hp => ?_⟩
    rw [hout, List.mem_append] at hp
    exact hp.elim (hno p) (hsent p)

lemma Order.me_move {c c' : Conn} (h : Order c) (hmv : Move c c') : Order c' := by
  have same : ∀ c' : Conn, c'.peer = c.peer → c'.out = c.out → (c.me.Done → c'.me.Done) →
      Order c' := fun c' hp ho hd =>
    h.append [] hp (by simpa using ho) (by simp) hd (by simp)
  have reset : ∀ (c' : Conn) (sent : List Payload), c'.peer = c.peer → c'.out = c.out ++ sent →
      (sent = [] ∨ sent = c.me.sends .reset) → (c.me.Done → c'.me.Done) → Order c' := by
    rintro c' sent hp ho hsent hd
    have hmem : ∀ p ∈ sent, p = .reset := by
      rcases hsent with rfl | rfl
      · simp
      · exact fun p hp => mem_sends hp
    refine h.append _ hp ho (fun p hp => ?_) hd fun hf => ?_
    · rw [hmem p hp]
      rfl
    · cases hmem _ hf
  cases hmv with
  | @write m buf hm hf hr htx =>
      have hnot : ¬ c.me.Done := by simp [done_singleton hm, hf]
      refine ⟨?_, ?_, fun i hi => absurd (h.closed i hi).1 hnot⟩
      · rw [List.pairwise_append]
        refine ⟨h.pairwise, by simp, ?_⟩
        rintro p hp q - rfl
        exact absurd (h.finish hp) hnot
      · intro hfin
        rcases List.mem_append.mp hfin with hfin | hfin
        · exact absurd (h.finish hfin) hnot
        · simp at hfin
  | writeFails hm => exact same _ rfl rfl fun hd => by simpa [View.Done, hm] using hd
  | shutdown hm =>
      refine h.append _ rfl rfl (fun p hp => ?_) ?_ fun _ => ?_
      · rw [mem_sends hp]
        rfl
      · simp [View.Done]
      · simp [View.Done]
  | dequeue hm => exact same _ rfl rfl fun hd => by simpa [View.Done, hm] using hd
  | dequeueAck hm =>
      refine h.append _ rfl rfl (fun p hp => ?_) ?_ fun hf => ?_
      · rw [mem_sends hp]
        rfl
      · simp [View.Done, hm]
      · cases mem_sends hf
  | consume amt hm =>
      exact same _ rfl rfl fun hd => by simpa [View.Done, hm, MuxStream.consume] using hd
  | drop d hm => exact same _ rfl rfl fun hd => by simpa [View.Done, hm] using hd
  | dropped hm hd hl hsent => exact reset _ _ rfl rfl hsent fun hd => hl.done hd
  | windDown hrun hl => exact same _ rfl rfl fun hd => hl.done hd
  | closeQueue => exact same _ rfl rfl id
  | finish hrun hslot hl => exact same _ rfl rfl fun hd => hl.done hd
  | recvAck hin hm =>
      exact same _ rfl rfl fun hd => by simpa [View.Done, hm, MuxStream.acknowledge] using hd
  | recvAckNew hin hm => exact same _ rfl rfl fun hd => by simp [View.Done, hm] at hd
  | recvFinish => exact same _ rfl rfl id
  | recvReset hin hm hl => exact same _ rfl rfl fun hd => hl.done hd
  | recvPush hin hm => exact same _ rfl rfl fun hd => by simpa [View.Done, hm] using hd
  | recvPushFull hin hm hfull hl hsent => exact reset _ _ rfl rfl hsent fun hd => hl.done hd
  | recvPushClosed => exact same _ rfl rfl id
  | recvBogus => exact reset _ _ rfl rfl (.inr rfl) id

lemma Order.read {c c' : Conn} {p : Payload} (h : Order c.flip) (hin : c.inn = p :: c'.inn)
    (hpeer : c'.peer = c.peer)
    (hslot : ∀ i, c'.me.slot = some (.established ⟨i, false⟩) →
      p = .finish ∨ c.me.slot = some (.established ⟨i, false⟩)) : Order c'.flip := by
  obtain ⟨hp, hf, hc⟩ := h
  have hp' : (p :: c'.inn).Pairwise fun p q => p = .finish → q.isPush = false := hin ▸ hp
  rw [List.pairwise_cons] at hp'
  refine ⟨hp'.2, fun hmem => ?_, fun i hi => ?_⟩
  · have := hf (show .finish ∈ c.inn by simp [hin, show .finish ∈ c'.inn from hmem])
    simpa [Conn.flip, hpeer] using this
  · rcases hslot i hi with rfl | hs
    · have := hf (show .finish ∈ c.inn by simp [hin])
      exact ⟨by simpa [Conn.flip, hpeer] using this, fun q hq => hp'.1 q hq rfl⟩
    · obtain ⟨hd, hno⟩ := hc i hs
      refine ⟨by simpa [Conn.flip, hpeer] using hd, fun q hq => ?_⟩
      exact hno q (show q ∈ c.inn by simp [hin, show q ∈ c'.inn from hq])

lemma Order.peer_move {c c' : Conn} (h : Order c.flip) (hmv : Move c c') : Order c'.flip := by
  have same : ∀ c' : Conn, c'.peer = c.peer → c'.inn = c.inn →
      (∀ i, c'.me.slot = some (.established ⟨i, false⟩) →
        c.me.slot = some (.established ⟨i, false⟩)) → Order c'.flip := by
    intro c' hp hi hs
    refine ⟨?_, ?_, fun i hi' => ?_⟩
    · simpa [Conn.flip, hi] using h.pairwise
    · simpa [Conn.flip, hi, hp] using h.finish
    · simpa [Conn.flip, hi, hp] using h.closed i (hs i hi')
  cases hmv with
  | dropped => exact same _ rfl rfl (by simp)
  | finish hrun hslot hl =>
      refine same _ rfl rfl fun i hi => ?_
      rcases hslot with rfl | rfl
      · simp at hi
      · exact hi
  | recvAck hin => exact h.read hin rfl fun i hi => .inr hi
  | recvAckNew hin => exact h.read hin rfl fun i hi => by simp at hi
  | recvFinish hin => exact h.read hin rfl fun i hi => .inl rfl
  | recvReset hin => exact h.read hin rfl fun i hi => by simp at hi
  | recvPush hin => exact h.read hin rfl fun i hi => .inr hi
  | recvPushFull hin => exact h.read hin rfl fun i hi => by simp at hi
  | recvPushClosed hin => exact h.read hin rfl fun i hi => .inr hi
  | recvBogus hin => exact h.read hin rfl fun i hi => .inr hi
  | _ => exact same _ rfl rfl fun i hi => hi

/-! ### Nothing adds to the window -/

lemma Closes.map_eq {α : Type} {f : MuxStream → α} {l l' : List MuxStream} (h : Closes l l')
    (hf : ∀ m : MuxStream, f m.disallowWrite = f m) : l'.map f = l.map f := by
  rcases h with rfl | rfl
  · rfl
  · rw [List.map_map]
    exact List.map_congr_left fun m _ => hf m

lemma toNat_sub_one {n : UInt32} (h : n ≠ 0) : (n - 1).toNat + 1 = n.toNat := by
  have hpos : 1 ≤ n.toNat := Nat.one_le_iff_ne_zero.mpr fun h0 => h (UInt32.toNat_inj.mp h0)
  have hle : 1 ≤ n := UInt32.le_iff_toNat_le.mpr (by simpa using hpos)
  rw [UInt32.toNat_sub_of_le _ _ hle]
  exact Nat.sub_add_cancel hpos

lemma toNat_add_one {n k : UInt32} (h : n < k) : (n + 1).toNat = n.toNat + 1 := by
  have := UInt32.lt_iff_toNat_lt.mp h
  have := k.toNat_lt
  rw [UInt32.toNat_add, Nat.mod_eq_of_lt (by simp; omega)]
  rfl

lemma toNat_add_of_le {n k b : UInt32} (h : n.toNat + k.toNat ≤ b.toNat) :
    (n + k).toNat = n.toNat + k.toNat := by
  have := b.toNat_lt
  rw [UInt32.toNat_add, Nat.mod_eq_of_lt (by omega)]

@[simp] lemma countP_sends {V : View} {p : Payload} {q : Payload → Bool} (h : q p = false) :
    (V.sends p).countP q = 0 :=
  List.countP_eq_zero.mpr fun r hr => by simp [mem_sends hr, h]

lemma sum_sends {V : View} {p : Payload} (f : Payload → ℕ) :
    ((V.sends p).map f).sum ≤ f p ∧ (V.txOpen = true → ((V.sends p).map f).sum = f p) := by
  unfold View.sends
  split_ifs with h <;> simp [h]

/-- A move of this end does not add to its own window, and takes nothing away from it while
its slot and the queue are there ... -/
lemma window_me_move {c c' : Conn} (hle : c.window ≤ c.peerOpts.rwnd.toNat) (hmv : Move c c') :
    c'.window ≤ c.window ∧
      (c.me.txOpen = true → c.me.slot ≠ none → c'.window = c.window) := by
  have same : c'.window = c.window → c'.window ≤ c.window ∧
      (c.me.txOpen = true → c.me.slot ≠ none → c'.window = c.window) :=
    fun heq => ⟨heq.le, fun _ _ => heq⟩
  have resets : ∀ {sent : List Payload}, (sent = [] ∨ sent = c.me.sends .reset) →
      sent.countP Payload.isPush = 0 := by
    rintro sent (rfl | rfl)
    · rfl
    · exact countP_sends rfl
  have closes : ∀ {l : List MuxStream}, Closes c.me.streams l →
      l.map (·.pshSendRemaining.toNat) = c.me.streams.map (·.pshSendRemaining.toNat) :=
    fun hl => hl.map_eq fun _ => rfl
  cases hmv with
  | write buf hm hf hr htx =>
      have := toNat_sub_one hr
      refine same ?_
      simp [window, View.credit, hm, Payload.isPush]
      omega
  | writeFails hm hr htx =>
      have := toNat_sub_one hr
      refine ⟨?_, fun hopen => by simp [htx] at hopen⟩
      simp [window, View.credit, hm]
      omega
  | shutdown hm =>
      refine same ?_
      simp [window, View.credit, hm, countP_sends (p := .finish) (q := Payload.isPush) rfl]
  | dequeue hm => exact same (by simp [window, View.credit, hm])
  | @dequeueAck m next rest hm =>
      refine same ?_
      simp [window, View.credit, hm, countP_sends (V := c.me) (q := Payload.isPush)
        (p := .acknowledge (m.pshRecvdSince + 1)) rfl]
  | consume amt hm => exact same (by simp [window, View.credit, hm, MuxStream.consume])
  | drop d hm => exact same (by simp [window, View.credit, hm])
  | dropped hm hd hl hsent => exact same (by simp [window, View.credit, closes hl, resets hsent])
  | windDown hrun hl => exact same (by simp [window, View.credit, closes hl])
  | closeQueue hrun => exact same rfl
  | finish hrun hslot hl => exact same (by simp [window, View.credit, closes hl])
  | @recvAck m b n rest hin hm hslot =>
      have hno : m.pshSendRemaining.toNat + n.toNat ≤ c.peerOpts.rwnd.toNat := by
        simp [window, View.credit, hm, hin, Payload.credit] at hle
        omega
      have := toNat_add_of_le hno
      refine same ?_
      simp [window, View.credit, hm, hin, Payload.credit, MuxStream.acknowledge, this]
      omega
  | recvAckNew hin hm hslot =>
      refine same ?_
      simp [window, View.credit, hm, hin, Payload.credit, newStreamShared]
      omega
  | recvFinish hin => exact same (by simp [window, View.credit, hin, Payload.credit])
  | recvReset hin hm hl =>
      exact same (by simp [window, View.credit, closes hl, hin, Payload.credit])
  | recvPush hin hm => exact same (by simp [window, View.credit, hm, hin, Payload.credit])
  | recvPushFull hin hm hfull hl hsent =>
      exact same (by simp [window, View.credit, closes hl, resets hsent, hin, Payload.credit])
  | recvPushClosed hin => exact same (by simp [window, hin, Payload.credit])
  | recvBogus hin hfin hm hp hslot =>
      have hsends := countP_sends (V := c.me) (p := .reset) (q := Payload.isPush) rfl
      refine ⟨by simp [window, hin, hsends], fun _ hne => ?_⟩
      obtain ⟨⟨data, rfl⟩, -⟩ := hslot.resolve_left hne
      simp [window, hin, hsends, Payload.credit]

/-- There is room for a frame of data that arrives. -/
lemma room_of_window {c : Conn} {m : MuxStream} {data : Bytes} {rest : List Payload}
    (hle : c.flip.window ≤ c.opts.rwnd.toNat) (hin : c.inn = .push data :: rest)
    (hm : m ∈ c.me.streams) : m.frameRx.length < c.opts.rwnd.toNat := by
  have hbuf : m.frameRx.length ≤ c.me.buffered :=
    List.le_sum_of_mem (List.mem_map_of_mem hm)
  simp [window, Conn.flip, hin, Payload.isPush, List.countP_cons] at hle
  omega

/-- ... and neither does it add to the window of its peer. It takes something away only if
frames are lost: the queue is closed, the handle is dropped, or the slot is gone. -/
lemma window_peer_move {c c' : Conn} (hused : Used c)
    (hle : c.flip.window ≤ c.opts.rwnd.toNat) (horder : Order c.flip) (hmv : Move c c') :
    c'.flip.window ≤ c.flip.window ∧
      (c.me.txOpen = true → c.me.slot ≠ none → (∀ m ∈ c'.me.streams, m.dropped = false) →
        c'.flip.window = c.flip.window) := by
  have same : c'.flip.window = c.flip.window → c'.flip.window ≤ c.flip.window ∧
      (c.me.txOpen = true → c.me.slot ≠ none → (∀ m ∈ c'.me.streams, m.dropped = false) →
        c'.flip.window = c.flip.window) :=
    fun heq => ⟨heq.le, fun _ _ _ => heq⟩
  have resets : ∀ {sent : List Payload}, (sent = [] ∨ sent = c.me.sends .reset) →
      (sent.map Payload.credit).sum = 0 := by
    rintro sent (rfl | rfl)
    · rfl
    · have := (sum_sends (V := c.me) (p := .reset) Payload.credit).1
      simpa [Payload.credit] using this
  have buffered : ∀ {l : List MuxStream}, Closes c.me.streams l →
      l.map (·.frameRx.length) = c.me.streams.map (·.frameRx.length) :=
    fun hl => hl.map_eq fun _ => rfl
  have unacked : ∀ {l : List MuxStream}, Closes c.me.streams l →
      l.map (·.pshRecvdSince.toNat) = c.me.streams.map (·.pshRecvdSince.toNat) :=
    fun hl => hl.map_eq fun _ => rfl
  cases hmv with
  | write buf hm =>
      exact same (by simp [window, Conn.flip, View.buffered, View.unacked, hm, Payload.credit])
  | writeFails hm => exact same (by simp [window, Conn.flip, View.buffered, View.unacked, hm])
  | shutdown hm =>
      have := (sum_sends (V := c.me) (p := .finish) Payload.credit).1
      refine same ?_
      simp [window, Conn.flip, View.buffered, View.unacked, hm, Payload.credit] at this ⊢
      omega
  | @dequeue m next rest hm hb hrx hlt =>
      have hadd := toNat_add_one (hused.recvd m (by simp [hm]))
      refine same ?_
      simp [window, Conn.flip, View.buffered, View.unacked, hm, hrx, hadd]
      omega
  | @dequeueAck m next rest hm hb hrx hge =>
      have hadd := toNat_add_one (hused.recvd m (by simp [hm]))
      obtain ⟨hsum, hopen⟩ := sum_sends (V := c.me) (p := .acknowledge (m.pshRecvdSince + 1))
        Payload.credit
      simp only [Payload.credit, hadd] at hsum hopen
      simp [window, Conn.flip, View.buffered, View.unacked, hm, hrx]
      refine ⟨by omega, fun htx _ _ => ?_⟩
      have := hopen htx
      omega
  | consume amt hm =>
      exact same (by simp [window, Conn.flip, View.buffered, View.unacked, hm, MuxStream.consume])
  | drop d hm =>
      refine ⟨?_, fun _ _ hd => by simp at hd⟩
      simp [window, Conn.flip, View.buffered, View.unacked, hm]
  | dropped hm hd hl hsent =>
      exact same (by simp [window, Conn.flip, View.buffered, View.unacked, buffered hl, unacked hl,
        resets hsent])
  | windDown hrun hl =>
      exact same (by simp [window, Conn.flip, View.buffered, View.unacked, buffered hl, unacked hl])
  | closeQueue hrun => exact same rfl
  | finish hrun hslot hl =>
      exact same (by simp [window, Conn.flip, View.buffered, View.unacked, buffered hl, unacked hl])
  | recvAck hin hm =>
      exact same (by simp [window, Conn.flip, View.buffered, View.unacked, hm, hin, Payload.isPush,
        MuxStream.acknowledge])
  | recvAckNew hin hm =>
      exact same (by simp [window, Conn.flip, View.buffered, View.unacked, hm, hin, Payload.isPush,
        newStreamShared])
  | recvFinish hin =>
      exact same (by simp [window, Conn.flip, View.buffered, View.unacked, hin, Payload.isPush])
  | recvReset hin hm hl =>
      exact same (by simp [window, Conn.flip, View.buffered, View.unacked, buffered hl, unacked hl,
        hin, Payload.isPush])
  | recvPush hin hm =>
      refine same ?_
      simp [window, Conn.flip, View.buffered, View.unacked, hm, hin, Payload.isPush,
        List.countP_cons]
      omega
  | recvPushFull hin hm hfull hl hsent =>
      have := room_of_window hle hin (by rw [hm]; exact List.mem_singleton_self _)
      omega
  | @recvPushClosed m data rest hin hm hd =>
      refine ⟨?_, fun _ _ hall => ?_⟩
      · simp [window, Conn.flip, hin, Payload.isPush, List.countP_cons]
      · have := hall m (by simp [hm])
        simp [hd] at this
  | @recvBogus m p rest hin hfin hm hp hslot =>
      have hsum := resets (.inr rfl)
      refine ⟨?_, fun _ hne _ => ?_⟩
      · simp [window, Conn.flip, hin, hsum, List.countP_cons]
      · obtain ⟨⟨data, rfl⟩, hs⟩ := hslot.resolve_left hne
        have := (horder.closed 0 hs).2 (.push data) (by simp [Conn.flip, hin])
        simp [Payload.isPush] at this

/-! ### While both ends are alive -/

/-- While both ends are alive this end has its whole window, keeps its slot and sends no
`Reset`. -/
structure Steady (c : Conn) : Prop where
  window : c.window = c.peerOpts.rwnd.toNat
  slot : c.me.streams ≠ [] → ∃ b, c.me.slot = some (.established ⟨0, b⟩)
  out : .reset ∉ c.out

/-- What the flow control of this end rests on. -/
structure Flowing (c : Conn) : Prop where
  order : Order c
  window_le : c.window ≤ c.peerOpts.rwnd.toNat
  steady : Live c → Steady c

lemma Live.flip {c : Conn} (h : Live c) : Live c.flip := ⟨h.peer, h.me, h.peer_streams, h.streams⟩

lemma Move.live {c c' : Conn} (hmv : Move c c') (h : Live c') : Live c := by
  obtain ⟨hrun, hpeer, hst, hst'⟩ := h
  have closes : ∀ {l l' : List MuxStream}, Closes l l' → (∀ m ∈ l', m.dropped = false) →
      ∀ m ∈ l, m.dropped = false := by
    rintro l l' (rfl | rfl) hall m hm
    · exact hall m hm
    · exact hall m.disallowWrite (List.mem_map_of_mem hm)
  cases hmv with
  | drop d hm => simp at hst
  | windDown => cases hrun
  | dropped hm hd hl => exact ⟨hrun, hpeer, closes hl hst, hst'⟩
  | finish _ _ hl => exact ⟨hrun, hpeer, closes hl hst, hst'⟩
  | recvReset _ _ hl => exact ⟨hrun, hpeer, closes hl hst, hst'⟩
  | recvPushFull _ _ _ hl => exact ⟨hrun, hpeer, closes hl hst, hst'⟩
  | recvAckNew _ hm => exact ⟨hrun, hpeer, by simp [hm], hst'⟩
  | closeQueue => exact ⟨hrun, hpeer, hst, hst'⟩
  | recvFinish => exact ⟨hrun, hpeer, hst, hst'⟩
  | recvPushClosed => exact ⟨hrun, hpeer, hst, hst'⟩
  | recvBogus => exact ⟨hrun, hpeer, hst, hst'⟩
  | write buf hm => exact ⟨hrun, hpeer, by simpa [hm] using hst, hst'⟩
  | writeFails hm => exact ⟨hrun, hpeer, by simpa [hm] using hst, hst'⟩
  | shutdown hm => exact ⟨hrun, hpeer, by simpa [hm] using hst, hst'⟩
  | dequeue hm => exact ⟨hrun, hpeer, by simpa [hm] using hst, hst'⟩
  | dequeueAck hm => exact ⟨hrun, hpeer, by simpa [hm] using hst, hst'⟩
  | consume amt hm => exact ⟨hrun, hpeer, by simpa [hm, MuxStream.consume] using hst, hst'⟩
  | recvAck _ hm => exact ⟨hrun, hpeer, by simpa [hm, MuxStream.acknowledge] using hst, hst'⟩
  | recvPush _ hm => exact ⟨hrun, hpeer, by simpa [hm] using hst, hst'⟩

lemma mem_append_sends {l : List Payload} {V : View} {p q : Payload} (h : q ∉ l) (hne : q ≠ p) :
    q ∉ l ++ V.sends p := by
  intro hq
  rcases List.mem_append.mp hq with hq | hq
  · exact h hq
  · exact hne (mem_sends hq)

/-- While both ends are alive the slot of this end is there when a frame arrives. -/
lemma Steady.slot_ne_none {c : Conn} (h : Steady c) (hused : Used c) (hph : c.me.Phases)
    (hph' : c.peer.Phases) (hlive : Live c) : c.me.slot ≠ none := by
  obtain hnil | ⟨m, hm⟩ := hused.streams_cases
  · obtain ⟨-, hfin | ⟨j, rest, hslot, -⟩ | ⟨hclosed, -⟩⟩ := hused.waiting hnil
    · simp [hph.not_finished hlive.me] at hfin
    · simp [hslot]
    · simp [hph'.open_of_running hlive.peer] at hclosed
  · obtain ⟨b, hb⟩ := h.slot (by simp [hm])
    simp [hb]

lemma Steady.me_move {c c' : Conn} (h : Steady c) (h' : Steady c.flip) (hused : Used c)
    (hph : c.me.Phases) (hph' : c.peer.Phases) (hle : c.flip.window ≤ c.opts.rwnd.toNat)
    (horder : Order c.flip) (hlive : Live c) (hlive' : Live c') (hmv : Move c c') : Steady c' := by
  have htx := hph.open_of_running hlive.me
  have hslot := h.slot_ne_none hused hph hph' hlive
  have hopts : c'.peerOpts = c.peerOpts := by cases hmv <;> rfl
  have hwin : c'.window = c'.peerOpts.rwnd.toNat := by
    rw [hopts, ← h.window]
    exact (window_me_move h.window.le hmv).2 htx hslot
  have keep : ∀ c' : Conn, c'.window = c'.peerOpts.rwnd.toNat → c'.me.slot = c.me.slot →
      c.me.streams ≠ [] → .reset ∉ c'.out → Steady c' := fun c' hw hs hne hout =>
    ⟨hw, fun _ => by rw [hs]; exact h.slot hne, hout⟩
  cases hmv with
  | write buf hm => exact keep _ hwin rfl (by simp [hm]) (by simpa using h.out)
  | writeFails hm hr htx' => simp [htx] at htx'
  | shutdown hm => exact keep _ hwin rfl (by simp [hm]) (mem_append_sends h.out (by simp))
  | dequeue hm => exact keep _ hwin rfl (by simp [hm]) h.out
  | dequeueAck hm => exact keep _ hwin rfl (by simp [hm]) (mem_append_sends h.out (by simp))
  | consume amt hm => exact keep _ hwin rfl (by simp [hm]) h.out
  | drop d hm => simpa using hlive'.streams _ (List.mem_singleton_self _)
  | dropped hm hd =>
      have := hlive.streams _ (by rw [hm]; exact List.mem_singleton_self _)
      simp [hd] at this
  | windDown => cases hlive'.me
  | closeQueue hrun => simp [hlive.me] at hrun
  | finish hrun => simp [hlive.me] at hrun
  | recvAck hin hm => exact keep _ hwin rfl (by simp [hm]) h.out
  | recvAckNew hin hm hslot => exact ⟨hwin, fun _ => ⟨true, rfl⟩, h.out⟩
  | recvFinish hin hm => exact ⟨hwin, fun _ => ⟨false, rfl⟩, h.out⟩
  | recvReset hin => exact absurd (show .reset ∈ c.inn by simp [hin]) h'.out
  | recvPush hin hm => exact keep _ hwin rfl (by simp [hm]) h.out
  | recvPushFull hin hm hfull =>
      have := room_of_window hle hin (by rw [hm]; exact List.mem_singleton_self _)
      omega
  | recvPushClosed hin hm hd =>
      have := hlive.streams _ (by rw [hm]; exact List.mem_singleton_self _)
      simp [hd] at this
  | @recvBogus m p rest hin hfin hm hp hs =>
      obtain ⟨⟨data, rfl⟩, hfalse⟩ := hs.resolve_left hslot
      have := (horder.closed 0 hfalse).2 (.push data) (by simp [Conn.flip, hin])
      simp [Payload.isPush] at this

lemma Steady.peer_move {c c' : Conn} (h' : Steady c.flip)
    (hwin : c'.flip.window = c.flip.window) (hmv : Move c c') : Steady c'.flip := by
  have hpeer : c'.peer = c.peer := by cases hmv <;> rfl
  have hopts : c'.opts = c.opts := by cases hmv <;> rfl
  have hinn : ∀ p ∈ c'.inn, p ∈ c.inn := by
    cases hmv with
    | recvAck hin => simp +contextual [hin]
    | recvAckNew hin => simp +contextual [hin]
    | recvFinish hin => simp +contextual [hin]
    | recvReset hin => simp +contextual [hin]
    | recvPush hin => simp +contextual [hin]
    | recvPushFull hin => simp +contextual [hin]
    | recvPushClosed hin => simp +contextual [hin]
    | recvBogus hin => simp +contextual [hin]
    | _ => exact fun p hp => hp
  refine ⟨?_, ?_, fun hmem => h'.out (hinn _ hmem)⟩
  · rw [hwin, h'.window]
    simp [Conn.flip, hopts]
  · simpa [Conn.flip, hpeer] using h'.slot

/-- The flow control of both ends survives a move. -/
lemma Flowing.move {c c' : Conn} (hc : c.Handshake) (huse : InUse c) (h : Flowing c)
    (h' : Flowing c.flip) (hmv : Move c c') : Flowing c' ∧ Flowing c'.flip := by
  obtain ⟨hu, hu'⟩ := hc.used huse
  have hopts : c'.opts = c.opts ∧ c'.peerOpts = c.peerOpts := by cases hmv <;> exact ⟨rfl, rfl⟩
  have hme := window_me_move h.window_le hmv
  have hpeer := window_peer_move hu h'.window_le h'.order hmv
  refine ⟨⟨h.order.me_move hmv, ?_, fun hlive' => ?_⟩,
    ⟨h'.order.peer_move hmv, ?_, fun hlive' => ?_⟩⟩
  · rw [hopts.2]
    exact hme.1.trans h.window_le
  · have hlive := hmv.live hlive'
    exact (h.steady hlive).me_move (h'.steady hlive.flip) hu hc.me hc.peer h'.window_le h'.order
      hlive hlive' hmv
  · exact hpeer.1.trans (by simpa [Conn.flip, hopts.1] using h'.window_le)
  · have hlive'' : Live c' := by simpa using hlive'.flip
    have hlive := hmv.live hlive''
    have hslot := (h.steady hlive).slot_ne_none hu hc.me hc.peer hlive
    exact (h'.steady hlive.flip).peer_move
      (hpeer.2 (hc.me.open_of_running hlive.me) hslot hlive''.streams) hmv

/-- The window is whole when the `Connect` has been accepted. -/
lemma Accepted.flowing {c : Conn} (hc : c.Handshake) (h : Accepted c) :
    Flowing c ∧ Flowing c.flip := by
  obtain ⟨host, port, hst⟩ := h.streams
  have hout : ∀ p ∈ c.out, p = .acknowledge c.opts.rwnd := by
    rw [h.out]
    exact fun p hp => mem_sends hp
  have hpush : c.out.countP Payload.isPush = 0 := by
    rw [h.out]
    exact countP_sends rfl
  obtain ⟨hsum, hopen⟩ := sum_sends (V := c.me) (p := .acknowledge c.opts.rwnd) Payload.credit
  rw [← h.out] at hsum hopen
  have hwin : c.window = c.peerOpts.rwnd.toNat := by
    simp [window, View.credit, View.buffered, View.unacked, hst, h.peer_streams, h.inn, hpush,
      newStreamShared]
  have hwin' : c.flip.window = (c.out.map Payload.credit).sum := by
    simp [window, Conn.flip, View.credit, View.buffered, View.unacked, hst, h.peer_streams, h.inn,
      newStreamShared]
  refine ⟨⟨⟨?_, ?_, ?_⟩, hwin.le, fun _ => ⟨hwin, fun _ => ⟨true, h.slot⟩, ?_⟩⟩,
    ⟨⟨?_, ?_, ?_⟩, ?_, fun hlive => ⟨?_, ?_, ?_⟩⟩⟩
  · exact List.pairwise_of_forall_mem_list fun p hp q hq _ => by rw [hout q hq]; rfl
  · intro hf
    cases hout _ hf
  · intro i hi
    rcases h.peer_slot with hs | ⟨j, hs⟩ <;> simp [hs] at hi
  · intro hf
    cases hout _ hf
  · simp [Conn.flip, h.inn]
  · simp [Conn.flip, h.inn]
  · intro i hi
    simp [Conn.flip, h.slot] at hi
  · rw [hwin']
    exact hsum
  · rw [hwin']
    exact hopen (hc.me.open_of_running hlive.peer)
  · simp [Conn.flip, h.peer_streams]
  · simp [Conn.flip, h.inn]

end Conn

namespace System

open Penguin.Lib.Transition

/-- The window that the peer of `w` has granted on flow `x`: what the handle of `w` may still
send, the `Push` frames queued or in flight, the frames in the channel of the reader, those
it has read and not acknowledged, and the acknowledgements queued or in flight. -/
def window (s : System) (x : UInt32) (w : Side) : ℕ :=
  (((s.ep w).streams x).map (·.pshSendRemaining.toNat)).sum +
    (s.wire x w).countP Payload.isPush +
    (((s.ep w.peer).streams x).map (·.frameRx.length)).sum +
    (((s.ep w.peer).streams x).map (·.pshRecvdSince.toNat)).sum +
    ((s.wire x w.peer).map Payload.credit).sum

/-- Neither task is winding down and no handle of the flow has been dropped. -/
def Alive (s : System) (x : UInt32) : Prop :=
  ∀ e, (s.ep e).phase = .running ∧ ∀ m ∈ (s.ep e).streams x, m.dropped = false

variable {opts : Side → Options} {x : UInt32} {s : System}

lemma Alive.live (h : s.Alive x) (e : Side) : (s.conn x e).Live where
  me := by simp [conn, Endpoint.view, (h e).1, Phase.isRunning]
  peer := by simp [conn, Endpoint.view, (h e.peer).1, Phase.isRunning]
  streams := (h e).2
  peer_streams := (h e.peer).2

lemma flowing (h : Reach step (UsedOnce x) (new opts) s) (e : Side) :
    (s.conn x e).Handshake ∧ ((s.conn x e).InUse →
      (s.conn x e).Flowing ∧ (s.conn x e).flip.Flowing) :=
  inUse_invariant (X := Conn.Flowing) x (fun _ hc hacc => hacc.flowing hc)
    (fun _ _ hc huse h h' hmv => Conn.Flowing.move hc huse h h' hmv) h e

lemma length_streams_le (h : Reach step (UsedOnce x) (new opts) s) (e : Side) :
    ((s.ep e).streams x).length ≤ 1 := by
  rcases (flowing h e).1.stage with ⟨ho, -⟩ | ⟨-, hu, -⟩
  · simp [show (s.ep e).streams x = [] from ho.streams]
  · exact hu.length_le

/-- A handle of the flow is the only one at its end. -/
lemma streams_eq_of_mem (h : Reach step (UsedOnce x) (new opts) s) {e : Side} {m : MuxStream}
    (hm : m ∈ (s.ep e).streams x) : (s.ep e).streams x = [m] := by
  obtain ⟨i, hi⟩ := List.mem_iff_getElem?.mp hm
  exact (Conn.streams_eq_singleton (length_streams_le h e) hi).1

/-- A frame of the flow at the head of a link is the next that its reader processes. -/
lemma wire_of_link {e : Side} {bytes : Bytes} {p : Payload} {rest : List Message}
    (hlink : s.link e = .binary bytes :: rest) (hdec : Frame.tryFrom bytes = .ok ⟨x, p⟩)
    (hp : p.isDatagram = false) :
    s.wire x e = p :: (rest.filterMap (Message.onFlow x) ++ (s.ep e).queue x) := by
  simp [wire, hlink, Message.onFlow, onFlow, hdec, hp]

lemma window_le (h : Reach step (UsedOnce x) (new opts) s) (w : Side) :
    s.window x w ≤ (opts w.peer).rwnd.toNat := by
  obtain ⟨hc, hflow⟩ := flowing h w
  by_cases huse : (s.conn x w).InUse
  · have hwin : s.window x w ≤ (s.ep w.peer).opts.rwnd.toNat := (hflow huse).1.window_le
    rwa [opts_reach h] at hwin
  · obtain ⟨hnil, hnil'⟩ := Conn.not_inUse_iff.mp huse
    have hopen := hc.stage.resolve_right fun hst => huse hst.1
    have hwire : ∀ c : Conn, c.Opening → c.out.countP Payload.isPush = 0 ∧
        (c.out.map Payload.credit).sum = 0 := by
      intro c hc
      rw [List.countP_eq_zero, List.sum_eq_zero_iff]
      constructor
      · intro p hp
        rcases hc.out p hp with rfl | ⟨port, host, rfl⟩ <;> simp [Payload.isPush]
      · intro n hn
        obtain ⟨p, hp, rfl⟩ := List.mem_map.mp hn
        rcases hc.out p hp with rfl | ⟨port, host, rfl⟩ <;> rfl
    have h₁ : (s.wire x w).countP Payload.isPush = 0 := (hwire _ hopen.1).1
    have h₂ : ((s.wire x w.peer).map Payload.credit).sum = 0 := (hwire _ hopen.2).2
    have h₃ : (s.ep w).streams x = [] := hnil
    have h₄ : (s.ep w.peer).streams x = [] := hnil'
    simp [window, h₁, h₂, h₃, h₄]

/-- **Flow control**: on a flow that is used once, the parts of a window never add up to more
than what was granted, and to just that while both ends are alive. So a `Push` that arrives
finds room, an acknowledgement does not overflow the counter it is added to, and neither does
the counter of the reader. -/
theorem flow_control_credit (h : Reach step (UsedOnce x) (new opts) s) (w : Side) :
    ((s.ep w).streams x).length ≤ 1 ∧
    s.window x w ≤ (opts w.peer).rwnd.toNat ∧
    ((s.ep w).streams x ≠ [] → s.Alive x → s.window x w = (opts w.peer).rwnd.toNat) ∧
    (∀ bytes rest data, s.link w.peer = .binary bytes :: rest →
      Frame.tryFrom bytes = .ok ⟨x, .push data⟩ →
      ((s.ep w).dispatch x data).2 ≠ some (.error .full)) ∧
    (∀ bytes rest n d m, s.link w.peer = .binary bytes :: rest →
      Frame.tryFrom bytes = .ok ⟨x, .acknowledge n⟩ →
      (s.ep w).flows x = some (.established d) → ((s.ep w).streams x)[d.stream]? = some m →
      m.pshSendRemaining.toNat + n.toNat < 2 ^ 32) ∧
    (∀ m ∈ (s.ep w).streams x, m.pshRecvdSince.toNat + 1 < 2 ^ 32) := by
  obtain ⟨hc, hflow⟩ := flowing h w
  -- a handle at this end: the flow is in use
  have inUse : ∀ {m}, m ∈ (s.ep w).streams x → (s.conn x w).InUse :=
    fun hm => .inl (List.ne_nil_of_mem hm)
  refine ⟨length_streams_le h w, window_le h w, fun hne halive => ?_, ?_, ?_, ?_⟩
  · have huse : (s.conn x w).InUse := .inl hne
    have hwin : s.window x w = (s.ep w.peer).opts.rwnd.toNat :=
      ((hflow huse).1.steady (halive.live w)).window
    rwa [opts_reach h] at hwin
  · intro bytes rest data hlink hdec
    have hwire := wire_of_link hlink hdec rfl
    rcases Endpoint.receiver_cases ((s.ep w).view x) with hnone | ⟨i, m, hslot, hm, -⟩
    · rw [Endpoint.dispatch_of_receiver_none hnone]
      simp
    · have hmem : m ∈ (s.ep w).streams x := List.mem_of_getElem? hm
      have hroom : m.frameRx.length < (s.ep w).opts.rwnd.toNat :=
        Conn.room_of_window (hflow (inUse hmem)).2.window_le hwire hmem
      rw [Endpoint.dispatch_of_slot hslot hm, if_pos hroom]
      split_ifs <;> simp
  · intro bytes rest n d m hlink hdec hslot hm
    have hwire := wire_of_link hlink hdec rfl
    have hmem : m ∈ (s.ep w).streams x := List.mem_of_getElem? hm
    have hle := window_le h w
    have hcredit : m.pshSendRemaining.toNat ≤
        (((s.ep w).streams x).map (·.pshSendRemaining.toNat)).sum :=
      List.le_sum_of_mem (List.mem_map_of_mem hmem)
    have := (opts w.peer).rwnd.toNat_lt
    simp only [window, hwire, List.map_cons, List.sum_cons, Payload.credit] at hle
    omega
  · intro m hm
    have hlt := UInt32.lt_iff_toNat_lt.mp ((hc.used (inUse hm)).1.recvd m hm)
    have := m.rwndThreshold.toNat_lt
    omega

lemma usedOnce_openRun (e : Side) (ls : List Label)
    (h : ∀ l ∈ ls, ∀ s, UsedOnce x s l) :
    RunMeets step (UsedOnce x) (new opts) (openRun e x ++ ls) := by
  refine ⟨fun _ e' => rfl, fun s' _ => runMeets_of_forall ?_ s'⟩
  intro l hl
  simp only [List.mem_append, List.mem_cons, List.not_mem_nil, or_false, List.append_eq] at hl
  rcases hl with (rfl | rfl | rfl | rfl | rfl | rfl | rfl) | hl
  all_goals first | exact fun _ => trivial | exact h l hl

lemma Alive.of_checked (h : ((s.ep .a).phase.isRunning && (s.ep .b).phase.isRunning &&
    ((s.ep .a).streams x).all (!·.dropped) && ((s.ep .b).streams x).all (!·.dropped)) = true) :
    s.Alive x := by
  simp only [Bool.and_eq_true, List.all_eq_true, Bool.not_eq_true'] at h
  obtain ⟨⟨⟨ha, hb⟩, hda⟩, hdb⟩ := h
  intro e
  cases e with
  | a => exact ⟨Phase.isRunning_iff.mp ha, hda⟩
  | b => exact ⟨Phase.isRunning_iff.mp hb, hdb⟩

/-- Two ends with the default options, a stream between them and a frame on its way. -/
theorem flow_control_credit_opened : ∃ s,
    run step (new fun _ => Options.new) (openRun .a 1 ++ [.act .a (.pollWrite 1 0 [7])]) = some s ∧
    (s.wire 1 .a).countP Payload.isPush = 1 ∧ s.window 1 .a = 512 := by
  have hcheck : (run step (new fun _ => Options.new)
      (openRun .a 1 ++ [.act .a (.pollWrite 1 0 [7])])).any (fun s =>
        (s.wire 1 .a).countP Payload.isPush == 1 && ((s.ep .a).streams 1).length == 1 &&
        ((s.ep .a).phase.isRunning && (s.ep .b).phase.isRunning &&
          ((s.ep .a).streams 1).all (!·.dropped) && ((s.ep .b).streams 1).all (!·.dropped))) =
      true := by
    decide +kernel
  obtain ⟨s, hs, hfacts⟩ := (Option.any_eq_true _ _).mp hcheck
  simp only [Bool.and_eq_true, beq_iff_eq] at hfacts
  obtain ⟨⟨hpush, hlen⟩, halive⟩ := hfacts
  have hreach := reach_of_run hs (usedOnce_openRun .a _ (by simp [UsedOnce]))
  have hne : (s.ep .a).streams 1 ≠ [] := List.ne_nil_of_length_pos (by omega)
  exact ⟨s, hs, hpush, (flow_control_credit hreach .a).2.2.1 hne
    (Alive.of_checked (by simp [halive]))⟩

end System

end Penguin.Mux
