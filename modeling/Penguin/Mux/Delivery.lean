import Penguin.Mux.Credit

/-!
Delivery of the data of a stream.

What a writer has handed over is, in this order, in the hands of the reader, in the channel
of its handle, and on the way; as long as the reader's slot takes data nothing is lost. The
invariant is kept for one direction, with the reader at this end of the flow.
-/

namespace Penguin.Mux

open View

/-- The data a frame carries. -/
def Payload.data : Payload → Bytes
  | .push d => d
  | _ => []

/-- What has come as far as the handle: read, in its buffer or in its channel. -/
def MuxStream.received (m : MuxStream) : Bytes := m.taken ++ m.buf ++ m.frameRx.flatten

namespace View

/-- What has reached the handles of the flow. -/
def received (V : View) : Bytes := V.streams.flatMap (·.received)

/-- What the handles of the flow have accepted. -/
def written (V : View) : Bytes := V.streams.flatMap (·.written)

/-- No handle of the flow has been dropped. -/
def Held (V : View) : Prop := ∀ m ∈ V.streams, m.dropped = false

lemma received_singleton {V : View} {m : MuxStream} (hm : V.streams = [m]) :
    V.received = m.received := by
  simp [received, hm]

lemma held_singleton {V : View} {m : MuxStream} (hm : V.streams = [m]) :
    V.Held ↔ m.dropped = false := by
  simp [Held, hm]

end View

namespace Conn

/-- The data on the way to this end. -/
def pending (c : Conn) : Bytes := c.inn.flatMap Payload.data

/-- This end has processed a `Finish`, and no `Reset` before it. -/
def Ended (log : List (Bool × Payload)) : Prop :=
  ∃ before after, log = before ++ (true, .finish) :: after ∧ (true, .reset) ∉ before

lemma Ended.mem {log : List (Bool × Payload)} (h : Ended log) : (true, .finish) ∈ log := by
  obtain ⟨before, after, rfl, -⟩ := h
  simp

lemma Ended.of_append {log : List (Bool × Payload)} {q : Bool × Payload}
    (h : Ended (log ++ [q])) : Ended log ∨ q = (true, .finish) ∧ (true, .reset) ∉ log := by
  obtain ⟨before, after, heq, hno⟩ := h
  rcases List.eq_nil_or_concat after with rfl | ⟨after, q', rfl⟩
  · obtain ⟨rfl, hq⟩ := List.append_inj' heq rfl
    exact .inr ⟨by simpa using hq, hno⟩
  · left
    have heq' : log ++ [q] = (before ++ (true, .finish) :: after) ++ [q'] := by simpa using heq
    obtain ⟨rfl, -⟩ := List.append_inj' heq' rfl
    exact ⟨before, after, rfl, hno⟩

/-- The data of one direction, seen from its reader. -/
structure Delivered (c : Conn) : Prop where
  isPrefix : c.me.received <+: c.peer.written
  accepting : c.me.Held → (c.me.slot = some (.established ⟨0, true⟩) ∨
    ∃ j, c.me.slot = some (.requested j)) → c.me.received ++ c.pending = c.peer.written
  closed : c.me.Held → c.me.slot = some (.established ⟨0, false⟩) →
    c.me.received = c.peer.written
  /-- Only a `Reset` takes the slot away from a reader that holds on to its handle. -/
  kept : (true, .reset) ∉ c.log → c.me.finished = false → c.me.Held → c.me.streams ≠ [] →
    ∃ b, c.me.slot = some (.established ⟨0, b⟩)
  ended : (true, .finish) ∈ c.log → c.me.streams ≠ [] ∧ c.me.slot ≠ some (.established ⟨0, true⟩)
  complete : Ended c.log → c.me.Held → c.me.received = c.peer.written ∧ c.peer.Done

/-! ### The reader -/

/-- A step of the reader that only moves data within its handle. -/
lemma Delivered.keep {c c' : Conn} (h : Delivered c) (hrec : c'.me.received = c.me.received)
    (hpeer : c'.peer = c.peer) (hinn : c'.inn = c.inn) (hlog : c'.log = c.log)
    (hheld : c'.me.Held → c.me.Held) (hst : c'.me.streams = [] ↔ c.me.streams = [])
    (hslot : c'.me.slot = c.me.slot ∨ c'.me.slot = none ∧ (c'.me.Held → c'.me.finished = true))
    (hfin : c'.me.finished = false → c.me.finished = false) : Delivered c' where
  isPrefix := by
    rw [hrec, hpeer]
    exact h.isPrefix
  accepting hd hs := by
    rcases hslot with hsame | ⟨hnone, -⟩
    · rw [hsame] at hs
      rw [hrec, hpeer, pending, hinn]
      exact h.accepting (hheld hd) hs
    · simp [hnone] at hs
  closed hd hs := by
    rcases hslot with hsame | ⟨hnone, -⟩
    · rw [hrec, hpeer]
      exact h.closed (hheld hd) (hsame ▸ hs)
    · simp [hnone] at hs
  kept hno hf hd hne := by
    rcases hslot with hsame | ⟨-, hend⟩
    · rw [hsame]
      exact h.kept (hlog ▸ hno) (hfin hf) (hheld hd) (mt hst.mpr hne)
    · simp [hend hd] at hf
  ended hmem := by
    obtain ⟨hne, hs⟩ := h.ended (hlog ▸ hmem)
    refine ⟨mt hst.mp hne, ?_⟩
    rcases hslot with hsame | ⟨hnone, -⟩
    · rwa [hsame]
    · simp [hnone]
  complete hend hd := by
    rw [hrec, hpeer]
    exact h.complete (hlog ▸ hend) (hheld hd)

/-- A step of the reader that processes a frame without taking data from it. A `Finish`
comes too late: there has been a `Reset`. -/
lemma Delivered.read {c c' : Conn} {p : Payload} (h : Delivered c)
    (hrec : c'.me.received = c.me.received) (hpeer : c'.peer = c.peer)
    (hin : c.inn = p :: c'.inn) (hlog : c'.log = c.log ++ [(true, p)])
    (hp : p = .finish → c.me.streams ≠ [] ∧ c'.me.slot = none ∧
      (c.me.Held → (true, .reset) ∈ c.log))
    (hheld : c'.me.Held → c.me.Held) (hst : c'.me.streams = [] ↔ c.me.streams = [])
    (hslot : c'.me.slot = none ∨ p.data = [] ∧ c'.me.slot = c.me.slot)
    (hkept : c'.me.Held → (true, .reset) ∉ c'.log → c'.me.slot = c.me.slot)
    (hfin : c'.me.finished = c.me.finished) : Delivered c' where
  isPrefix := by
    rw [hrec, hpeer]
    exact h.isPrefix
  accepting hd hs := by
    rcases hslot with hnone | ⟨hp', hsame⟩
    · simp [hnone] at hs
    · have := h.accepting (hheld hd) (hsame ▸ hs)
      rwa [pending, hin, List.flatMap_cons, hp', List.nil_append, ← hrec, ← hpeer] at this
  closed hd hs := by
    rcases hslot with hnone | ⟨-, hsame⟩
    · simp [hnone] at hs
    · rw [hrec, hpeer]
      exact h.closed (hheld hd) (hsame ▸ hs)
  kept hno hf hd hne := by
    rw [hkept hd hno]
    exact h.kept (fun hmem => hno (by simp [hlog, hmem])) (hfin ▸ hf) (hheld hd) (mt hst.mpr hne)
  ended hmem := by
    rw [hlog, List.mem_append] at hmem
    rcases hmem with hmem | hmem
    · obtain ⟨hne, hs⟩ := h.ended hmem
      refine ⟨mt hst.mp hne, ?_⟩
      rcases hslot with hnone | ⟨-, hsame⟩
      · simp [hnone]
      · rwa [hsame]
    · obtain ⟨hne, hnone, -⟩ := hp (by simpa using Eq.symm (List.mem_singleton.mp hmem))
      exact ⟨mt hst.mp hne, by simp [hnone]⟩
  complete hend hd := by
    rw [hlog] at hend
    rw [hrec, hpeer]
    refine h.complete (hend.of_append.resolve_right fun hq => ?_) (hheld hd)
    exact hq.2 ((hp (Prod.mk.inj hq.1).2).2.2 (hheld hd))

lemma Closes.received {c : Conn} {V : View} (hl : Closes c.me.streams V.streams) :
    V.received = c.me.received := by
  have := hl.map_eq (f := MuxStream.received) fun _ => rfl
  simp only [View.received, List.flatMap_def, this]

lemma Closes.held {c : Conn} {V : View} (hl : Closes c.me.streams V.streams) :
    V.Held ↔ c.me.Held := by
  unfold View.Held
  rcases hl with hl | hl
  · rw [hl]
  · rw [hl]
    simp [MuxStream.disallowWrite]

lemma Closes.eq_nil {l l' : List MuxStream} (hl : Closes l l') : l' = [] ↔ l = [] := by
  rcases hl with rfl | rfl <;> simp

/-- **The reader**: what it does on its own and the frames it processes keep the data of the
direction in order. -/
lemma Delivered.me_move {c c' : Conn} (h : Delivered c)
    (hle : c.flip.window ≤ c.opts.rwnd.toNat) (horder : Order c.flip) (hmv : Move c c') :
    Delivered c' := by
  -- a step on the handle that is not a drop
  have handle : ∀ {m m' : MuxStream} {c' : Conn}, c.me.streams = [m] → c'.me.streams = [m'] →
      m'.received = m.received → m'.dropped = m.dropped → c'.peer = c.peer → c'.inn = c.inn →
      c'.log = c.log → c'.me.slot = c.me.slot → c'.me.finished = c.me.finished →
      Delivered c' := by
    intro m m' c' hm hm' hrec hdrop hpeer hinn hlog hslot hfin
    refine h.keep ?_ hpeer hinn hlog ?_ (by simp [hm, hm']) (.inl hslot) fun hf => hfin ▸ hf
    · rw [received_singleton hm, received_singleton hm', hrec]
    · rw [held_singleton hm, held_singleton hm', hdrop]
      exact id
  cases hmv with
  | write buf hm => exact handle hm rfl rfl rfl rfl rfl rfl rfl rfl
  | writeFails hm => exact handle hm rfl rfl rfl rfl rfl rfl rfl rfl
  | shutdown hm => exact handle hm rfl rfl rfl rfl rfl rfl rfl rfl
  | dequeue hm hb hrx =>
      exact handle hm rfl (by simp [MuxStream.received, hb, hrx]) rfl rfl rfl rfl rfl rfl
  | dequeueAck hm hb hrx =>
      exact handle hm rfl (by simp [MuxStream.received, hb, hrx]) rfl rfl rfl rfl rfl rfl
  | @consume m amt hm =>
      refine handle hm rfl ?_ rfl rfl rfl rfl rfl rfl
      simp [MuxStream.received, MuxStream.consume]
  | @drop m d hm =>
      have hno : ¬ View.Held { c.me with
          streams := [{ m with dropped := true, frameRx := [], buf := [] }]
          drops := c.me.drops ++ d } := by
        simp [View.Held]
      refine ⟨?_, fun hd => absurd hd hno, fun hd => absurd hd hno, fun _ _ hd => absurd hd hno,
        fun hmem => ⟨by simp, (h.ended hmem).2⟩, fun _ hd => absurd hd hno⟩
      have hpre := h.isPrefix
      rw [received_singleton hm, MuxStream.received, List.append_assoc] at hpre
      simpa [View.received, MuxStream.received] using (List.prefix_append _ _).trans hpre
  | dropped hm hd hl hsent =>
      refine h.keep (Closes.received hl) rfl rfl rfl (Closes.held hl).mp hl.eq_nil
        (.inr ⟨rfl, fun hheld => ?_⟩) id
      have := (held_singleton hm).mp ((Closes.held hl).mp hheld)
      simp [hd] at this
  | windDown hrun hl =>
      exact h.keep (Closes.received hl) rfl rfl rfl (Closes.held hl).mp hl.eq_nil (.inl rfl) id
  | closeQueue hrun => exact h.keep rfl rfl rfl rfl id Iff.rfl (.inl rfl) id
  | finish hrun hslot hl =>
      exact h.keep (Closes.received hl) rfl rfl rfl (Closes.held hl).mp hl.eq_nil
        (hslot.symm.imp_right fun hs => ⟨hs, fun _ => rfl⟩) (by simp)
  | recvAck hin hm hslot =>
      refine h.read ?_ rfl hin rfl (by simp) ?_ (by simp [hm]) (.inr ⟨rfl, rfl⟩) (fun _ _ => rfl)
        rfl
      · simp [View.received, hm, MuxStream.received, MuxStream.acknowledge]
      · simp [View.Held, hm, MuxStream.acknowledge]
  | @recvAckNew j rest hin hm hslot =>
      have hheld : c.me.Held := by simp [View.Held, hm]
      have hrec : c.me.received = [] := by simp [View.received, hm]
      have hall := h.accepting hheld (.inr ⟨j, hslot⟩)
      have hno : (true, .finish) ∉ c.log := fun hmem => (h.ended hmem).1 hm
      have hno' : (true, .finish) ∉ c.log ++ [(true, .acknowledge c.peerOpts.rwnd)] := by
        simpa using hno
      refine ⟨?_, fun _ _ => ?_, fun _ hs => by simp at hs, fun _ _ _ _ => ⟨true, rfl⟩,
        fun hmem => absurd hmem hno', fun hend => absurd hend.mem hno'⟩
      · simp [View.received, MuxStream.received, newStreamShared]
      · simpa [pending, hin, Payload.data, View.received, MuxStream.received, newStreamShared, hm]
          using hall
  | @recvFinish m b rest hin hm hslot =>
      -- no data follows the `Finish`
      have hord : (.finish :: rest : List Payload).Pairwise
          fun p q => p = .finish → q.isPush = false := hin ▸ horder.pairwise
      have hrest : rest.flatMap Payload.data = [] := by
        refine List.flatMap_eq_nil_iff.mpr fun p hp => ?_
        have hpush := (List.pairwise_cons.mp hord).1 p hp rfl
        cases p <;> simp [Payload.isPush, Payload.data] at hpush ⊢
      have hdone : c.peer.Done := horder.finish (by simp [Conn.flip, hin])
      have hall : c.me.Held → c.me.received = c.peer.written := by
        intro hheld
        cases b with
        | false => exact h.closed hheld hslot
        | true =>
            have := h.accepting hheld (.inl hslot)
            simpa [pending, hin, Payload.data, hrest] using this
      exact ⟨h.isPrefix, fun _ hs => by simp at hs, fun hheld _ => hall hheld,
        fun _ _ _ _ => ⟨false, rfl⟩, fun _ => ⟨by simp [hm], by simp⟩,
        fun _ hheld => ⟨hall hheld, hdone⟩⟩
  | recvReset hin hm hl =>
      exact h.read (Closes.received hl) rfl hin rfl (by simp) (Closes.held hl).mp hl.eq_nil
        (.inl rfl) (fun _ hno => absurd (by simp) hno) rfl
  | @recvPush m data rest hin hm hslot hd hroom =>
      have hheld : c.me.Held := (held_singleton hm).mpr hd
      have hall := h.accepting hheld (.inl hslot)
      have hmem : (true, .finish) ∉ c.log := fun hmem => (h.ended hmem).2 hslot
      have hmem' : (true, .finish) ∉ c.log ++ [(true, .push data)] := by simpa using hmem
      have hnew : View.received { c.me with
          streams := [{ m with frameRx := m.frameRx ++ [data] }] } = c.me.received ++ data := by
        simp [View.received, MuxStream.received, hm]
      have hall' : c.me.received ++ data ++ rest.flatMap Payload.data = c.peer.written := by
        simpa [pending, hin, Payload.data] using hall
      refine ⟨?_, fun _ _ => ?_, fun _ hs => ?_, fun _ _ _ _ => ⟨true, hslot⟩,
        fun h => absurd h hmem', fun hend => absurd hend.mem hmem'⟩
      · rw [hnew, ← hall']
        exact List.prefix_append _ _
      · rw [hnew]
        exact hall'
      · simp [hslot] at hs
  | @recvPushFull m data l rest sent hin hm hfull =>
      have := room_of_window hle hin (by rw [hm]; exact List.mem_singleton_self m)
      omega
  | @recvPushClosed m data rest hin hm hd =>
      have hno : ¬ c.me.Held := by simp [View.Held, hm, hd]
      refine ⟨h.isPrefix, fun hheld => absurd hheld hno, fun hheld => absurd hheld hno,
        fun _ _ hheld => absurd hheld hno, fun hmem => h.ended (by simpa using hmem),
        fun _ hheld => absurd hheld hno⟩
  | @recvBogus m p rest hin hfin hm hp hs =>
      -- a reader whose slot has finished does not get any data
      have hnone : c.me.slot = none := by
        refine hs.resolve_right ?_
        rintro ⟨⟨data, rfl⟩, hclosed⟩
        have := (horder.closed 0 hclosed).2 (.push data) (by simp [Conn.flip, hin])
        simp [Payload.isPush] at this
      refine h.read rfl rfl hin rfl (fun _ => ⟨by simp [hm], hnone, fun hheld => ?_⟩) id Iff.rfl
        (.inl hnone) (fun _ _ => rfl) rfl
      by_contra hno
      obtain ⟨b, hb⟩ := h.kept hno hfin hheld (by simp [hm])
      simp [hnone] at hb

/-! ### The writer -/

lemma Move.done {c c' : Conn} (hmv : Move c c') (hd : c.me.Done) : c'.me.Done := by
  cases hmv with
  | write buf hm hf => simp [done_singleton hm, hf] at hd
  | writeFails hm => simpa [View.Done, hm] using hd
  | shutdown hm => simp [View.Done]
  | dequeue hm => simpa [View.Done, hm] using hd
  | dequeueAck hm => simpa [View.Done, hm] using hd
  | consume amt hm => simpa [View.Done, hm, MuxStream.consume] using hd
  | drop d hm => simpa [View.Done, hm] using hd
  | dropped hm hd' hl => exact hl.done hd
  | windDown hrun hl => exact hl.done hd
  | closeQueue => exact hd
  | finish hrun hslot hl => exact hl.done hd
  | recvAck hin hm => simpa [View.Done, hm, MuxStream.acknowledge] using hd
  | recvAckNew hin hm => simp [View.Done, hm] at hd
  | recvFinish => exact hd
  | recvReset hin hm hl => exact hl.done hd
  | recvPush hin hm => simpa [View.Done, hm] using hd
  | recvPushFull hin hm hfull hl => exact hl.done hd
  | recvPushClosed => exact hd
  | recvBogus => exact hd

lemma data_sends {V : View} {p : Payload} (hp : p.data = []) :
    (V.sends p).flatMap Payload.data = [] := by
  refine List.flatMap_eq_nil_iff.mpr fun q hq => ?_
  rw [mem_sends hq, hp]

lemma Closes.written {c : Conn} {V : View} (hl : Closes c.me.streams V.streams) :
    V.written = c.me.written := by
  have := hl.map_eq (f := MuxStream.written) fun _ => rfl
  simp only [View.written, List.flatMap_def, this]

lemma Move.accepts {c c' : Conn} (hmv : Move c c') : ∃ sent, c'.out = c.out ++ sent ∧
    c'.me.written = c.me.written ++ sent.flatMap Payload.data ∧
    (c.me.Done → sent.flatMap Payload.data = []) := by
  have quiet : ∀ {c' : Conn} {sent : List Payload}, c'.out = c.out ++ sent →
      sent.flatMap Payload.data = [] → c'.me.written = c.me.written →
      ∃ sent, c'.out = c.out ++ sent ∧
        c'.me.written = c.me.written ++ sent.flatMap Payload.data ∧
        (c.me.Done → sent.flatMap Payload.data = []) := by
    intro c' sent hout hdata hw
    exact ⟨sent, hout, by rw [hdata, List.append_nil, hw], fun _ => hdata⟩
  have silent : ∀ {c' : Conn}, c'.out = c.out → c'.me.written = c.me.written →
      ∃ sent, c'.out = c.out ++ sent ∧
        c'.me.written = c.me.written ++ sent.flatMap Payload.data ∧
        (c.me.Done → sent.flatMap Payload.data = []) := by
    intro c' hout hw
    exact quiet (hout.trans (List.append_nil _).symm) rfl hw
  have resets : ∀ {sent : List Payload}, (sent = [] ∨ sent = c.me.sends .reset) →
      sent.flatMap Payload.data = [] := by
    rintro sent (rfl | rfl)
    · rfl
    · exact data_sends rfl
  cases hmv with
  | write buf hm hf =>
      refine ⟨_, rfl, ?_, fun hd => ?_⟩
      · simp [View.written, hm, Payload.data]
      · simp [done_singleton hm, hf] at hd
  | writeFails hm => exact silent rfl (by simp [View.written, hm])
  | shutdown hm => exact quiet rfl (data_sends rfl) (by simp [View.written, hm])
  | dequeue hm => exact silent rfl (by simp [View.written, hm])
  | dequeueAck hm => exact quiet rfl (data_sends rfl) (by simp [View.written, hm])
  | consume amt hm => exact silent rfl (by simp [View.written, hm, MuxStream.consume])
  | drop d hm => exact silent rfl (by simp [View.written, hm])
  | dropped hm hd hl hsent => exact quiet rfl (resets hsent) (Closes.written hl)
  | windDown hrun hl => exact silent rfl (Closes.written hl)
  | closeQueue => exact silent rfl rfl
  | finish hrun hslot hl => exact silent rfl (Closes.written hl)
  | recvAck hin hm => exact silent rfl (by simp [View.written, hm, MuxStream.acknowledge])
  | recvAckNew hin hm => exact silent rfl (by simp [View.written, hm, newStreamShared])
  | recvFinish => exact silent rfl rfl
  | recvReset hin hm hl => exact silent rfl (Closes.written hl)
  | recvPush hin hm => exact silent rfl (by simp [View.written, hm])
  | recvPushFull hin hm hfull hl hsent => exact quiet rfl (resets hsent) (Closes.written hl)
  | recvPushClosed => exact silent rfl rfl
  | recvBogus => exact quiet rfl (data_sends rfl) rfl

lemma Move.flip_log {c c' : Conn} (hmv : Move c c') :
    c'.flip.log = c.flip.log ∨ ∃ p, c'.flip.log = c.flip.log ++ [(false, p)] := by
  cases hmv <;> simp [Conn.flip]

/-- **The writer**: what it does keeps the data of the direction in order. -/
lemma Delivered.peer_move {c c' : Conn} (h : Delivered c.flip) (horder : Order c)
    (hmv : Move c c') : Delivered c'.flip := by
  have hpeer : c'.peer = c.peer := by cases hmv <;> rfl
  obtain ⟨sent, hout, hw, hnew⟩ := hmv.accepts
  have hmem : ∀ p, (true, p) ∈ c'.flip.log ↔ (true, p) ∈ c.flip.log := by
    intro p
    rcases hmv.flip_log with hlog | ⟨q, hlog⟩ <;> simp [hlog]
  have hend : Ended c'.flip.log → Ended c.flip.log := by
    intro he
    rcases hmv.flip_log with hlog | ⟨q, hlog⟩
    · rwa [hlog] at he
    · rw [hlog] at he
      exact he.of_append.resolve_right fun hq => by simp at hq
  obtain ⟨hpre, hacc, hclosed, hkept, hended, hcomp⟩ := h
  refine ⟨?_, fun hd hs => ?_, fun hd hs => ?_, ?_, ?_, fun he hd => ?_⟩
  · have hpre' : c.peer.received <+: c.me.written := hpre
    simp only [Conn.flip, hpeer, hw]
    exact hpre'.trans (List.prefix_append _ _)
  · simp only [Conn.flip, hpeer] at hd hs
    have hall : c.peer.received ++ c.out.flatMap Payload.data = c.me.written := hacc hd hs
    simp only [Conn.flip, pending, hpeer, hw, hout, List.flatMap_append]
    rw [← List.append_assoc, hall]
  · simp only [Conn.flip, hpeer] at hd hs
    have hall : c.peer.received = c.me.written := hclosed hd hs
    simp only [Conn.flip, hpeer, hw, hnew (horder.closed 0 hs).1, List.append_nil]
    exact hall
  · rw [hmem]
    simpa only [Conn.flip, hpeer] using hkept
  · rw [hmem]
    simpa only [Conn.flip, hpeer] using hended
  · simp only [Conn.flip, hpeer] at hd
    obtain ⟨hall, hdone⟩ := hcomp (hend he) hd
    have hall' : c.peer.received = c.me.written := hall
    refine ⟨?_, hmv.done hdone⟩
    simp only [Conn.flip, hpeer, hw, hnew hdone, List.append_nil]
    exact hall'

lemma Accepted.delivered {c : Conn} (h : Accepted c) : Delivered c ∧ Delivered c.flip := by
  obtain ⟨host, port, hst⟩ := h.streams
  have hend : ¬ Ended c.log := fun he => h.log he.mem
  have hend' : ¬ Ended c.flip.log := fun he => h.peer_log he.mem
  have hnil : c.peer.streams = [] := h.peer_streams
  have hsent : c.out.flatMap Payload.data = [] := by
    rw [h.out]
    exact data_sends rfl
  have hrec : c.me.received = [] := by
    simp [View.received, hst, MuxStream.received, newStreamShared]
  have hw : c.me.written = [] := by simp [View.written, hst, newStreamShared]
  have hrec' : c.peer.received = [] := by simp [View.received, hnil]
  have hw' : c.peer.written = [] := by simp [View.written, hnil]
  refine ⟨⟨?_, ?_, ?_, ?_, fun hm => absurd hm h.log, fun he => absurd he hend⟩,
    ⟨?_, ?_, ?_, ?_, fun hm => absurd hm h.peer_log, fun he => absurd he hend'⟩⟩
  · simp [hrec]
  · intro _ _
    simp [hrec, hw', pending, h.inn]
  · intro _ _
    rw [hrec, hw']
  · exact fun _ _ _ _ => ⟨true, h.slot⟩
  · simp [Conn.flip, hrec']
  · intro _ _
    simp [Conn.flip, hrec', hw, pending, hsent]
  · intro _ _
    simp [Conn.flip, hrec', hw]
  · intro _ _ _ hne
    exact absurd hnil hne

end Conn

namespace System

open Penguin.Lib.Transition

variable {opts : Side → Options} {x : UInt32} {s : System}

lemma delivered (h : Reach step (UsedOnce x) (new opts) s) (e : Side) :
    (s.conn x e).Handshake ∧ ((s.conn x e).InUse → (s.conn x e).Delivered) := by
  have hacc : ∀ c : Conn, c.Handshake → c.Accepted →
      (c.Flowing ∧ c.Delivered) ∧ c.flip.Flowing ∧ c.flip.Delivered := by
    intro c hc hacc
    obtain ⟨hf, hf'⟩ := hacc.flowing hc
    obtain ⟨hd, hd'⟩ := hacc.delivered
    exact ⟨⟨hf, hd⟩, hf', hd'⟩
  have hmove : ∀ c c' : Conn, c.Handshake → c.InUse → c.Flowing ∧ c.Delivered →
      c.flip.Flowing ∧ c.flip.Delivered → c.Move c' →
      (c'.Flowing ∧ c'.Delivered) ∧ c'.flip.Flowing ∧ c'.flip.Delivered := by
    rintro c c' hc huse ⟨hf, hd⟩ ⟨hf', hd'⟩ hmv
    obtain ⟨hn, hn'⟩ := hf.move hc huse hf' hmv
    exact ⟨⟨hn, hd.me_move hf'.window_le hf'.order hmv⟩, hn', hd'.peer_move hf.order hmv⟩
  obtain ⟨hc, hX⟩ := inUse_invariant (X := fun c => c.Flowing ∧ c.Delivered) x hacc hmove h e
  exact ⟨hc, fun huse => (hX huse).1.2⟩

/-- The bytes that side `e` has accepted for flow `x`. -/
def written (s : System) (x : UInt32) (e : Side) : Bytes :=
  ((s.ep e).streams x).flatMap (·.written)

/-- **Reliable delivery**: on a flow that is used once, what has been read from a handle is a
prefix of what the handle at the other end has accepted. When the reader has processed the
`Finish` of its peer, no `Reset` was processed before, and the channel and the buffer are
empty, it is all of it. -/
theorem reliable_delivery (h : Reach step (UsedOnce x) (new opts) s) (r : Side) :
    (∀ e, ((s.ep e).streams x).length ≤ 1) ∧
    (∀ m ∈ (s.ep r).streams x, m.taken <+: s.written x r.peer) ∧
    (∀ before after, s.log = before ++ (r, ⟨x, .finish⟩) :: after →
      (∀ e, (e, ⟨x, .reset⟩) ∉ before) →
      ∀ m ∈ (s.ep r).streams x, m.dropped = false → m.frameRx = [] → m.buf = [] →
        m.taken = s.written x r.peer) := by
  have hone : ∀ {m}, m ∈ (s.ep r).streams x → ((s.conn x r).me.streams = [m]) :=
    fun hm => streams_eq_of_mem h hm
  refine ⟨length_streams_le h, fun m hm => ?_, fun before after hlog hno m hm hd hrx hb => ?_⟩
  · have hdel := (delivered h r).2 (.inl (List.ne_nil_of_mem hm))
    have hpre : m.received <+: s.written x r.peer := by
      rw [← View.received_singleton (hone hm)]
      exact hdel.isPrefix
    rw [MuxStream.received, List.append_assoc] at hpre
    exact (List.prefix_append _ _).trans hpre
  · have hdel := (delivered h r).2 (.inl (List.ne_nil_of_mem hm))
    have hended : Conn.Ended (s.conn x r).log := by
      refine ⟨flowLog { s with log := before } x r, flowLog { s with log := after } x r, ?_, ?_⟩
      · simp [conn, flowLog, hlog, Payload.isDatagram]
      · intro hmem
        simp only [flowLog, List.mem_filterMap] at hmem
        obtain ⟨⟨e, f⟩, hmem, hf⟩ := hmem
        obtain ⟨hcond, hf⟩ := Option.ite_none_right_eq_some.mp hf
        obtain ⟨-, hp⟩ := Prod.mk.inj (Option.some.inj hf)
        simp only [Bool.and_eq_true, decide_eq_true_eq] at hcond
        have hfr : f = ⟨x, .reset⟩ := by rw [← hcond.1, ← hp]
        exact hno e (hfr ▸ hmem)
    obtain ⟨hall, -⟩ := hdel.complete hended ((View.held_singleton (hone hm)).mpr hd)
    rw [View.received_singleton (hone hm), MuxStream.received, hrx, hb] at hall
    have hall' : m.taken = (s.conn x r).peer.written := by simpa using hall
    exact hall'

/-- Two bytes are written, the stream is shut down, and the reader takes them one by one. -/
theorem reliable_delivery_two_bytes : ∃ s m,
    run step (new fun _ => Options.new) (openRun .a 1 ++
      [.act .a (.pollWrite 1 0 [7, 8]), .act .a (.pollShutdown 1 0), .act .a .sendFrame,
        .act .a .sendFrame, .deliver .b, .act .b (.pollRead 1 0 1), .deliver .b,
        .act .b (.pollRead 1 0 1)]) = some s ∧
    m ∈ (s.ep .b).streams 1 ∧ m.taken = s.written 1 .a ∧ s.written 1 .a = [7, 8] := by
  have hcheck : (run step (new fun _ => Options.new) (openRun .a 1 ++
      [.act .a (.pollWrite 1 0 [7, 8]), .act .a (.pollShutdown 1 0), .act .a .sendFrame,
        .act .a .sendFrame, .deliver .b, .act .b (.pollRead 1 0 1), .deliver .b,
        .act .b (.pollRead 1 0 1)])).any (fun s =>
          s.written 1 .a == [7, 8] &&
          s.log == [(.b, ⟨1, .connect ⟨512, 0, []⟩⟩), (.a, ⟨1, .acknowledge 512⟩),
            (.b, ⟨1, .push [7, 8]⟩)] ++ [(.b, ⟨1, .finish⟩)] &&
          ((s.ep .b).streams 1)[0]?.any fun m => !m.dropped && m.frameRx.isEmpty && m.buf.isEmpty) =
      true := by
    decide +kernel
  obtain ⟨s, hs, hfacts⟩ := (Option.any_eq_true _ _).mp hcheck
  simp only [Bool.and_eq_true, beq_iff_eq] at hfacts
  obtain ⟨⟨hw, hlog⟩, hm⟩ := hfacts
  obtain ⟨m, hm, hfacts⟩ := (Option.any_eq_true _ _).mp hm
  simp only [Bool.and_eq_true, Bool.not_eq_true', List.isEmpty_iff] at hfacts
  obtain ⟨⟨hd, hrx⟩, hb⟩ := hfacts
  have hreach := reach_of_run hs (usedOnce_openRun .a _ (by simp [UsedOnce]))
  have hmem : m ∈ (s.ep .b).streams 1 := List.mem_of_getElem? hm
  have hall := (reliable_delivery hreach .b).2.2 _ [] hlog (by simp) m hmem hd hrx hb
  exact ⟨s, m, hs, hmem, hall, hw⟩

end System

end Penguin.Mux
