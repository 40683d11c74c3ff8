import Penguin.Mux.Handshake

/-!
The moves of a flow in use.

What a step can do to a flow that is in use is listed once more, as `Conn.Move`, with
everything left out that cannot happen when its id is used for one stream. Invariants of such
a flow are proved against this list and lifted by `System.inUse_invariant`.
-/

namespace Penguin.Mux

open View

namespace Conn

/-! ### What happens to a flow in use -/

/-- The handles, or the same with `finish_sent` set. -/
def Closes (l l' : List MuxStream) : Prop := l' = l ∨ l' = l.map MuxStream.disallowWrite

/-- Everything this end can do to a flow in use. -/
inductive Move : Conn → Conn → Prop
  | write {c : Conn} {m : MuxStream} (buf : Bytes) (hm : c.me.streams = [m])
      (hf : m.finishSent = false) (hr : m.pshSendRemaining ≠ 0) (htx : c.me.txOpen = true) :
      Move c { c with
        me := { c.me with streams := [{ m with
          pshSendRemaining := m.pshSendRemaining - 1, written := m.written ++ buf }] }
        out := c.out ++ [.push buf] }
  | writeFails {c : Conn} {m : MuxStream} (hm : c.me.streams = [m])
      (hr : m.pshSendRemaining ≠ 0) (htx : c.me.txOpen = false) :
      Move c { c with
        me := { c.me with streams := [{ m with pshSendRemaining := m.pshSendRemaining - 1 }] } }
  | shutdown {c : Conn} {m : MuxStream} (hm : c.me.streams = [m]) :
      Move c { c with
        me := { c.me with streams := [{ m with finishSent := true }] }
        out := c.out ++ c.me.sends .finish }
  | dequeue {c : Conn} {m : MuxStream} {next : Bytes} {rest : List Bytes}
      (hm : c.me.streams = [m]) (hb : m.buf = []) (hrx : m.frameRx = next :: rest)
      (hlt : m.pshRecvdSince + 1 < m.rwndThreshold) :
      Move c { c with
        me := { c.me with streams := [{ m with
          frameRx := rest, buf := next, pshRecvdSince := m.pshRecvdSince + 1 }] } }
  | dequeueAck {c : Conn} {m : MuxStream} {next : Bytes} {rest : List Bytes}
      (hm : c.me.streams = [m]) (hb : m.buf = []) (hrx : m.frameRx = next :: rest)
      (hge : m.rwndThreshold ≤ m.pshRecvdSince + 1) :
      Move c { c with
        me := { c.me with streams := [{ m with frameRx := rest, buf := next, pshRecvdSince := 0 }] }
        out := c.out ++ c.me.sends (.acknowledge (m.pshRecvdSince + 1)) }
  | consume {c : Conn} {m : MuxStream} (amt : ℕ) (hm : c.me.streams = [m]) :
      Move c { c with me := { c.me with streams := [m.consume amt] } }
  | drop {c : Conn} {m : MuxStream} (d : List ℕ) (hm : c.me.streams = [m]) :
      Move c { c with me := { c.me with
        streams := [{ m with dropped := true, frameRx := [], buf := [] }]
        drops := c.me.drops ++ d } }
  | dropped {c : Conn} {m : MuxStream} {l : List MuxStream} {drops : List ℕ} {sent : List Payload}
      (hm : c.me.streams = [m]) (hd : m.dropped = true) (hl : Closes c.me.streams l)
      (hsent : sent = [] ∨ sent = c.me.sends .reset) :
      Move c { c with
        me := { c.me with slot := none, streams := l, drops := drops }
        out := c.out ++ sent }
  | windDown {c : Conn} {l : List MuxStream} (hrun : c.me.running = true)
      (hl : Closes c.me.streams l) :
      Move c { c with me := { c.me with streams := l, running := false } }
  | closeQueue {c : Conn} (hrun : c.me.running = false) :
      Move c { c with me := { c.me with txOpen := false, unsent := 0, bindUnsent := 0 } }
  | finish {c : Conn} {slot : Option FlowSlot} {l : List MuxStream} (hrun : c.me.running = false)
      (hslot : slot = none ∨ slot = c.me.slot) (hl : Closes c.me.streams l) :
      Move c { c with me := { c.me with slot := slot, streams := l, finished := true } }
  | recvAck {c : Conn} {m : MuxStream} {b : Bool} {n : UInt32} {rest : List Payload}
      (hin : c.inn = .acknowledge n :: rest) (hm : c.me.streams = [m])
      (hslot : c.me.slot = some (.established ⟨0, b⟩)) :
      Move c { c with
        me := { c.me with streams := [m.acknowledge n] }
        inn := rest
        log := c.log ++ [(true, .acknowledge n)] }
  | recvAckNew {c : Conn} {j : ℕ} {rest : List Payload}
      (hin : c.inn = .acknowledge c.peerOpts.rwnd :: rest) (hm : c.me.streams = [])
      (hslot : c.me.slot = some (.requested j)) :
      Move c { c with
        me := { c.me with
          slot := some (.established ⟨0, true⟩)
          streams := [newStreamShared c.opts c.peerOpts.rwnd [] 0] }
        inn := rest
        log := c.log ++ [(true, .acknowledge c.peerOpts.rwnd)] }
  | recvFinish {c : Conn} {m : MuxStream} {b : Bool} {rest : List Payload}
      (hin : c.inn = .finish :: rest) (hm : c.me.streams = [m])
      (hslot : c.me.slot = some (.established ⟨0, b⟩)) :
      Move c { c with
        me := { c.me with slot := some (.established ⟨0, false⟩) }
        inn := rest
        log := c.log ++ [(true, .finish)] }
  | recvReset {c : Conn} {m : MuxStream} {l : List MuxStream} {rest : List Payload}
      (hin : c.inn = .reset :: rest) (hm : c.me.streams = [m]) (hl : Closes c.me.streams l) :
      Move c { c with
        me := { c.me with slot := none, streams := l }
        inn := rest
        log := c.log ++ [(true, .reset)] }
  | recvPush {c : Conn} {m : MuxStream} {data : Bytes} {rest : List Payload}
      (hin : c.inn = .push data :: rest) (hm : c.me.streams = [m])
      (hslot : c.me.slot = some (.established ⟨0, true⟩)) (hd : m.dropped = false)
      (hroom : m.frameRx.length < c.opts.rwnd.toNat) :
      Move c { c with
        me := { c.me with streams := [{ m with frameRx := m.frameRx ++ [data] }] }
        inn := rest
        log := c.log ++ [(true, .push data)] }
  | recvPushFull {c : Conn} {m : MuxStream} {data : Bytes} {l : List MuxStream}
      {rest sent : List Payload} (hin : c.inn = .push data :: rest) (hm : c.me.streams = [m])
      (hfull : c.opts.rwnd.toNat ≤ m.frameRx.length) (hl : Closes c.me.streams l)
      (hsent : sent = [] ∨ sent = c.me.sends .reset) :
      Move c { c with
        me := { c.me with slot := none, streams := l }
        out := c.out ++ sent
        inn := rest
        log := c.log ++ [(true, .push data)] }
  | recvPushClosed {c : Conn} {m : MuxStream} {data : Bytes} {rest : List Payload}
      (hin : c.inn = .push data :: rest) (hm : c.me.streams = [m]) (hd : m.dropped = true) :
      Move c { c with inn := rest, log := c.log ++ [(true, .push data)] }
  | recvBogus {c : Conn} {m : MuxStream} {p : Payload} {rest : List Payload}
      (hin : c.inn = p :: rest) (hfin : c.me.finished = false) (hm : c.me.streams = [m])
      (hp : p ≠ .reset) (hslot : c.me.slot = none ∨
        (∃ data, p = .push data) ∧ c.me.slot = some (.established ⟨0, false⟩)) :
      Move c { c with
        out := c.out ++ c.me.sends .reset
        inn := rest
        log := c.log ++ [(true, p)] }

lemma streams_eq_singleton {l : List MuxStream} {i : ℕ} {m : MuxStream} (hlen : l.length ≤ 1)
    (hm : l[i]? = some m) : l = [m] ∧ i = 0 := by
  match l, i with
  | [], _ => simp at hm
  | [a], 0 => exact ⟨by simpa using hm, rfl⟩
  | [a], i + 1 => simp at hm
  | a :: b :: l, _ => simp at hlen

lemma Used.streams_cases {c : Conn} (h : Used c) : c.me.streams = [] ∨ ∃ m, c.me.streams = [m] := by
  have hlen := h.length_le
  match hst : c.me.streams with
  | [] => exact .inl rfl
  | [m] => exact .inr ⟨m, rfl⟩
  | a :: b :: l => simp [hst] at hlen

lemma Used.closes_close {c : Conn} (h : Used c) : Closes c.me.streams c.me.close.streams := by
  unfold View.close
  split
  case h_1 d hslot =>
    obtain ⟨hzero, hne⟩ := h.established d hslot
    obtain hnil | ⟨m, hm⟩ := h.streams_cases
    · exact absurd hnil hne
    · exact .inr (by simp [hm, hzero])
  case h_2 => exact .inl rfl

lemma Used.closes_disallow {c : Conn} (h : Used c) :
    Closes c.me.streams c.me.disallow.streams := h.closes_close

lemma setStream_singleton {V : View} {m : MuxStream} (hm : V.streams = [m]) (m' : MuxStream) :
    V.setStream 0 m' = { V with streams := [m'] } := by
  simp [View.setStream, hm]

lemma closeSends_cases (V : View) : V.closeSends = [] ∨ V.closeSends = V.sends .reset := by
  unfold View.closeSends
  split
  · split_ifs
    · exact .inl rfl
    · exact .inr rfl
  · exact .inl rfl

/-- An end without a handle can only receive the acknowledgement of its `Connect`. -/
lemma Used.recv_nil {c : Conn} {p : Payload} {rest : List Payload} (h : Used c)
    (hnil : c.me.streams = []) (hfin : c.me.finished = false) (hin : c.inn = p :: rest) :
    p = .acknowledge c.peerOpts.rwnd ∧ ∃ j, c.me.slot = some (.requested j) := by
  obtain ⟨-, hf | ⟨j, rest', hslot, hin'⟩ | ⟨-, hempty⟩⟩ := h.waiting hnil
  · simp [hfin] at hf
  · rw [hin] at hin'
    exact ⟨(List.cons.inj hin').1, j, hslot⟩
  · simp [hin] at hempty

/-- What a step of its own does to a flow in use ... -/
lemma Used.move_own {c : Conn} {ev : Ev} {sent : List Payload} {V : View} (h : Used c)
    (hme : c.me.Phases) (huse : InUse c) (hok : UsedOnce c ev) (hev : ∀ p, ev ≠ .recv p)
    (hs : View.Step c.opts c.me ev sent V) :
    Move c { c with me := V, out := c.out ++ sent } := by
  cases hs with
  | request j hslot => exact absurd hok (by simpa [UsedOnce, InUse, imp_iff_not_or] using huse)
  | bindRequest => exact hok.elim
  | connect host port hun => exact absurd h.unsent hun.ne'
  | bind p hun => exact absurd hme.bindUnsent hun.ne'
  | write buf hm hd hf hr htx =>
      obtain ⟨hone, rfl⟩ := streams_eq_singleton h.length_le hm
      rw [setStream_singleton hone]
      exact .write buf hone hf hr htx
  | writeFails hm hd hf hr htx =>
      obtain ⟨hone, rfl⟩ := streams_eq_singleton h.length_le hm
      rw [setStream_singleton hone, List.append_nil]
      exact .writeFails hone hr htx
  | shutdown hm hd hf =>
      obtain ⟨hone, rfl⟩ := streams_eq_singleton h.length_le hm
      rw [setStream_singleton hone]
      exact .shutdown hone
  | dequeue hm hd hb hrx hlt =>
      obtain ⟨hone, rfl⟩ := streams_eq_singleton h.length_le hm
      rw [setStream_singleton hone, List.append_nil]
      exact .dequeue hone hb hrx hlt
  | dequeueAck hm hd hb hrx hge =>
      obtain ⟨hone, rfl⟩ := streams_eq_singleton h.length_le hm
      rw [setStream_singleton hone]
      exact .dequeueAck hone hb hrx hge
  | consume amt hm hd hamt =>
      obtain ⟨hone, rfl⟩ := streams_eq_singleton h.length_le hm
      rw [setStream_singleton hone, List.append_nil]
      exact .consume amt hone
  | drop d hm hd hdrop =>
      obtain ⟨hone, rfl⟩ := streams_eq_singleton h.length_le hm
      rw [setStream_singleton hone, List.append_nil]
      exact .drop d hone
  | reply _ hb => exact absurd hme.binds hb.ne'
  | dropBind hb => exact absurd hme.binds hb.ne'
  | dropped hdrops hrun =>
      obtain ⟨m, hmem, hd⟩ := h.drops (by simp [hdrops])
      obtain hnil | ⟨m', hm⟩ := h.streams_cases
      · simp [hnil] at hmem
      · obtain rfl : m = m' := by simpa [hm] using hmem
        exact .dropped hm hd h.closes_close (closeSends_cases c.me)
  | windDown hrun =>
      rw [List.append_nil]
      exact .windDown hrun h.closes_disallow
  | closeQueue hrun =>
      rw [List.append_nil]
      exact .closeQueue hrun
  | drain hrun htx =>
      rw [List.append_nil]
      exact .finish hrun (.inl rfl) h.closes_close
  | finish hrun htx =>
      rw [List.append_nil]
      exact .finish hrun (.inr rfl) (.inl rfl)
  | _ => exact absurd rfl (hev _)

/-- ... and what a frame does. -/
lemma Used.move_recv {c : Conn} {p : Payload} {rest sent : List Payload} {V : View} (h : Used c)
    (h' : Used c.flip) (hme : c.me.Phases) (hin : c.inn = p :: rest)
    (hs : View.Step c.opts c.me (.recv p) sent V) :
    Move c { c with me := V, out := c.out ++ sent, inn := rest, log := c.log ++ [(true, p)] } := by
  have hp := h'.out p (by simp [Conn.flip, hin])
  -- a frame that is not an acknowledgement finds a handle
  have handle : c.me.finished = false → p ≠ .acknowledge c.peerOpts.rwnd →
      ∃ m, c.me.streams = [m] := by
    intro hfin hne
    refine h.streams_cases.resolve_left fun hnil => ?_
    exact hne (h.recv_nil hnil hfin hin).1
  cases hs with
  | recvConnectUsed p => simp [Payload.isConnect] at hp
  | recvConnect p => simp [Payload.isConnect] at hp
  | recvBind p => simp [Payload.isBind] at hp
  | recvBindRefused p => simp [Payload.isBind] at hp
  | @recvAck d n hfin hslot =>
      obtain ⟨i, b⟩ := d
      obtain ⟨rfl : i = 0, hne⟩ := h.established _ hslot
      obtain ⟨m, hm⟩ := h.streams_cases.resolve_left hne
      simp only [hm, List.append_nil]
      exact .recvAck hin hm hslot
  | recvAckNew n hfin hslot =>
      have hnil := h.requested _ hslot
      have hn := (h.recv_nil hnil hfin hin).1
      obtain rfl : n = c.peerOpts.rwnd := by simpa using hn
      simp only [hnil, List.append_nil]
      exact .recvAckNew hin hnil hslot
  | recvAckBogus n hfin hslot =>
      have hnone : c.me.slot = none := by
        obtain hnone | ⟨j, hj⟩ := hslot
        · exact hnone
        · exact absurd hj (hme.slot j)
      obtain hnil | ⟨m, hm⟩ := h.streams_cases
      · obtain ⟨-, j, hj⟩ := h.recv_nil hnil hfin hin
        simp [hnone] at hj
      · exact .recvBogus hin hfin hm (by simp) (.inl hnone)
  | @recvFinish d hfin hslot =>
      obtain ⟨i, b⟩ := d
      obtain ⟨rfl : i = 0, hne⟩ := h.established _ hslot
      obtain ⟨m, hm⟩ := h.streams_cases.resolve_left hne
      rw [List.append_nil]
      exact .recvFinish hin hm hslot
  | recvFinishBind hfin hslot => exact absurd hslot (hme.slot _)
  | recvFinishRequested hfin hslot =>
      have := (h.recv_nil (h.requested _ hslot) hfin hin).1
      simp at this
  | recvFinishBogus hfin hslot =>
      obtain ⟨m, hm⟩ := handle hfin (by simp)
      exact .recvBogus hin hfin hm (by simp) (.inl hslot)
  | recvReset hfin =>
      obtain ⟨m, hm⟩ := handle hfin (by simp)
      rw [List.append_nil]
      exact .recvReset hin hm h.closes_close
  | recvPush data hfin hslot hm hd hroom =>
      obtain ⟨hone, rfl⟩ := streams_eq_singleton h.length_le hm
      rw [setStream_singleton hone, List.append_nil]
      exact .recvPush hin hone hslot hd hroom
  | recvPushFull data hfin hrec hd hfull =>
      obtain ⟨m', hm⟩ := handle hfin (by simp)
      obtain hnone | ⟨i, m'', hslot, hi, hrec'⟩ := Endpoint.receiver_cases c.me
      · simp [hnone] at hrec
      · obtain rfl := Option.some.inj (hrec.symm.trans hrec')
        obtain ⟨hm, -⟩ := streams_eq_singleton h.length_le hi
        exact .recvPushFull hin hm hfull h.closes_close (closeSends_cases c.me)
  | recvPushClosed data hfin hrec hd =>
      obtain hnone | ⟨i, m'', hslot, hi, hrec'⟩ := Endpoint.receiver_cases c.me
      · simp [hnone] at hrec
      · obtain rfl := Option.some.inj (hrec.symm.trans hrec')
        obtain ⟨hm, -⟩ := streams_eq_singleton h.length_le hi
        rw [List.append_nil]
        exact .recvPushClosed hin hm hd
  | recvPushBogus data hfin hrec =>
      obtain ⟨m, hm⟩ := handle hfin (by simp)
      refine .recvBogus hin hfin hm (by simp) ?_
      rcases hslot : c.me.slot with _ | j | ⟨i, b⟩ | j
      · exact .inl rfl
      · have := h.requested j hslot
        simp [hm] at this
      · obtain ⟨rfl : i = 0, -⟩ := h.established _ hslot
        cases b
        · exact .inr ⟨⟨data, rfl⟩, rfl⟩
        · simp [View.receiver, hslot, hm] at hrec
      · exact absurd hslot (hme.slot j)

/-! ### The invariant is kept -/

lemma Used.dropped_of_drops {c : Conn} {m : MuxStream} (h : Used c) (hm : c.me.streams = [m])
    (hd : c.me.drops ≠ []) : m.dropped = true := by
  obtain ⟨n, hn, hdn⟩ := h.drops hd
  obtain rfl : n = m := by simpa [hm] using hn
  exact hdn

/-- An end with a handle keeps one. -/
lemma Used.keep {c c' : Conn} {m m' : MuxStream} (h : Used c) (hm : c.me.streams = [m])
    (hm' : c'.me.streams = [m']) (hopts : c'.opts = c.opts) (hpeer : c'.peerOpts = c.peerOpts)
    (hunsent : c'.me.unsent = 0)
    (hslot : c'.me.slot = none ∨ c'.me.slot = c.me.slot ∨
      ∃ b, c'.me.slot = some (.established ⟨0, b⟩))
    (hout : ∀ p ∈ c'.out, p ∈ c.out ∨ p.isConnect = false ∧ p.isBind = false)
    (hthr : m'.rwndThreshold = m.rwndThreshold) (hrecvd : m'.pshRecvdSince < m'.rwndThreshold)
    (hdrops : m'.dropped = true ∨ c'.me.drops = c.me.drops ∧ m'.dropped = m.dropped) :
    Used c' where
  length_le := by simp [hm']
  unsent := hunsent
  established d hd := by
    rcases hslot with hn | hs | ⟨b, hb⟩
    · simp [hn] at hd
    · exact ⟨(h.established d (hs.symm.trans hd)).1, by simp [hm']⟩
    · obtain rfl : ⟨0, b⟩ = d := by simpa [hb] using hd
      exact ⟨rfl, by simp [hm']⟩
  requested j hj := by
    rcases hslot with hn | hs | ⟨b, hb⟩
    · simp [hn] at hj
    · have := h.requested j (hs.symm.trans hj)
      simp [hm] at this
    · simp [hb] at hj
  out p hp := (hout p hp).elim (h.out p) id
  threshold n hn := by
    obtain rfl : n = m' := by simpa [hm'] using hn
    rw [hthr, hopts, hpeer]
    exact h.threshold m (by simp [hm])
  recvd n hn := by
    obtain rfl : n = m' := by simpa [hm'] using hn
    exact hrecvd
  drops hd := by
    refine ⟨m', by simp [hm'], hdrops.elim id fun ⟨hsame, hdrop⟩ => ?_⟩
    rw [hdrop]
    exact h.dropped_of_drops hm (by rwa [← hsame])
  waiting hn := by simp [hm'] at hn

/-- The peer keeps what it has when this end acts on its own ... -/
lemma Used.peer_own {c : Conn} {V : View} {sent : List Payload} (h' : Used c.flip)
    (htx : c.me.txOpen = false → V.txOpen = false ∧ sent = []) :
    Used { c with me := V, out := c.out ++ sent }.flip := by
  refine ⟨h'.1, h'.2, h'.3, h'.4, h'.5, h'.6, h'.7, h'.8, fun hnil => ?_⟩
  obtain ⟨hout, hcase⟩ := h'.waiting hnil
  refine ⟨hout, hcase.imp_right (Or.imp ?_ ?_)⟩
  · rintro ⟨j, rest, hslot, hin⟩
    have hin' : c.out = .acknowledge c.opts.rwnd :: rest := hin
    exact ⟨j, rest ++ sent, hslot, by simp [Conn.flip, hin']⟩
  · rintro ⟨hclosed, hin⟩
    have hin' : c.out = [] := hin
    obtain ⟨hV, rfl⟩ := htx hclosed
    exact ⟨hV, by simp [Conn.flip, hin']⟩

/-- ... and when it reads a frame, which the peer has only sent if it has a handle. -/
lemma Used.peer_recv {c : Conn} {V : View} {p : Payload} {rest out : List Payload}
    {log : List (Bool × Payload)} (h' : Used c.flip) (hin : c.inn = p :: rest) :
    Used { c with me := V, out := out, inn := rest, log := log }.flip := by
  have hne : c.peer.streams ≠ [] := by
    intro hnil
    have := (h'.waiting hnil).1
    simp [Conn.flip, hin] at this
  refine ⟨h'.1, h'.2, h'.3, h'.4, ?_, h'.6, h'.7, h'.8, fun hnil => absurd hnil hne⟩
  intro q hq
  exact h'.out q (by simpa [Conn.flip, hin] using .inr hq)

lemma sends_closed {V : View} {p : Payload} (h : V.txOpen = false) : V.sends p = [] := by
  simp [View.sends, h]

/-- A new handle has received less than its threshold, which is not zero. -/
lemma newStreamShared_recvd (o o' : Options) (host : Bytes) (port : UInt16) :
    (newStreamShared o o'.rwnd host port).pshRecvdSince <
      (newStreamShared o o'.rwnd host port).rwndThreshold := by
  have h₁ := UInt32.lt_iff_toNat_lt.mp o.defaultRwndThreshold_pos
  have h₂ := UInt32.lt_iff_toNat_lt.mp o'.rwnd_pos
  simp only [newStreamShared, UInt32.lt_iff_toNat_lt, UInt32.toNat_min]
  exact lt_min h₁ h₂

/-- Closing keeps the handle. -/
lemma Closes.singleton {m : MuxStream} {l l' : List MuxStream} (h : Closes l l') (hm : l = [m]) :
    ∃ m', l' = [m'] ∧ (m' = m ∨ m' = m.disallowWrite) := by
  subst hm
  rcases h with rfl | rfl
  · exact ⟨m, rfl, .inl rfl⟩
  · exact ⟨m.disallowWrite, rfl, .inr rfl⟩

/-- A handle that is closed keeps what the invariant speaks of. -/
lemma Used.keep_closed {c c' : Conn} {m : MuxStream} {l : List MuxStream} (h : Used c)
    (hm : c.me.streams = [m]) (hl : Closes c.me.streams l) (hl' : c'.me.streams = l)
    (hopts : c'.opts = c.opts) (hpeer : c'.peerOpts = c.peerOpts) (hunsent : c'.me.unsent = 0)
    (hslot : c'.me.slot = none ∨ c'.me.slot = c.me.slot)
    (hout : ∀ p ∈ c'.out, p ∈ c.out ∨ p.isConnect = false ∧ p.isBind = false)
    (hdrops : m.dropped = true ∨ c'.me.drops = c.me.drops) : Used c' := by
  have hrec := h.recvd m (by simp [hm])
  obtain ⟨m', rfl, hcase⟩ := hl.singleton hm
  rcases hcase with rfl | rfl
  · exact h.keep hm hl' hopts hpeer hunsent (hslot.imp_right .inl) hout rfl hrec
      (hdrops.imp_right fun hd => ⟨hd, rfl⟩)
  · exact h.keep hm hl' hopts hpeer hunsent (hslot.imp_right .inl) hout rfl hrec
      (hdrops.imp_right fun hd => ⟨hd, rfl⟩)

/-- An end without a handle keeps waiting, whatever happens to its task. -/
lemma Used.keep_nil {c : Conn} {V : View} (h : Used c) (hnil : c.me.streams = [])
    (hst : V.streams = []) (hdrops : V.drops = c.me.drops) (hun : V.unsent = 0)
    (hslot : V.slot = c.me.slot ∨ V.slot = none ∧ V.finished = true)
    (hfin : c.me.finished = true → V.finished = true) : Used { c with me := V } where
  length_le := by simp [hst]
  unsent := hun
  established d hd := by
    rcases hslot with hs | ⟨hs, -⟩
    · exact absurd hnil (h.established d (hs.symm.trans hd)).2
    · simp [hs] at hd
  requested _ _ := hst
  out := h.out
  threshold := by simp [hst]
  recvd := by simp [hst]
  drops hd := by
    obtain ⟨m, hm, -⟩ := h.drops (by rwa [← hdrops])
    simp [hnil] at hm
  waiting _ := by
    obtain ⟨hout, hcase⟩ := h.waiting hnil
    refine ⟨hout, ?_⟩
    rcases hcase with hf | ⟨j, rest, hs, hin⟩ | hclosed
    · exact .inl (hfin hf)
    · rcases hslot with hs' | ⟨-, hf⟩
      · exact .inr (.inl ⟨j, rest, hs'.trans hs, hin⟩)
      · exact .inl hf
    · exact .inr (.inr hclosed)

lemma Move.inUse {c c' : Conn} (hmv : Move c c') (huse : InUse c) : InUse c' := by
  have closes : ∀ {l l' : List MuxStream}, Closes l l' → (l ≠ [] → l' ≠ []) := by
    rintro l l' (rfl | rfl) hne
    · exact hne
    · simpa using hne
  cases hmv with
  | dropped _ _ hl _ => exact huse.imp_left (closes hl)
  | windDown _ hl => exact huse.imp_left (closes hl)
  | closeQueue _ => exact huse
  | finish _ _ hl => exact huse.imp_left (closes hl)
  | recvReset _ _ hl => exact huse.imp_left (closes hl)
  | recvPushFull _ _ _ hl _ => exact huse.imp_left (closes hl)
  | recvFinish _ _ _ => exact huse
  | recvPushClosed _ _ _ => exact huse
  | recvBogus _ _ _ _ _ => exact huse
  | _ => exact .inl (by simp)

/-- This end keeps the invariant ... -/
lemma Used.me_move {c c' : Conn} (h : Used c) (hmv : Move c c') : Used c' := by
  have old : ∀ p ∈ c.out, p ∈ c.out ∨ p.isConnect = false ∧ p.isBind = false :=
    fun p hp => .inl hp
  have more : ∀ {sent : List Payload}, (∀ p ∈ sent, p.isConnect = false ∧ p.isBind = false) →
      ∀ p ∈ c.out ++ sent, p ∈ c.out ∨ p.isConnect = false ∧ p.isBind = false := by
    intro sent hsent p hp
    exact (List.mem_append.mp hp).imp_right (hsent p)
  have reset : ∀ {sent : List Payload}, (sent = [] ∨ sent = c.me.sends .reset) →
      ∀ p ∈ sent, p.isConnect = false ∧ p.isBind = false := by
    rintro sent (rfl | rfl) p hp
    · simp at hp
    · rw [mem_sends hp]
      exact ⟨rfl, rfl⟩
  cases hmv with
  | @write m buf hm hf hr htx =>
      exact h.keep hm rfl rfl rfl h.unsent (.inr (.inl rfl)) (more (by simp [Payload.isConnect,
        Payload.isBind])) rfl (h.recvd m (by simp [hm])) (.inr ⟨rfl, rfl⟩)
  | @writeFails m hm hr htx =>
      exact h.keep hm rfl rfl rfl h.unsent (.inr (.inl rfl)) old rfl
        (h.recvd m (by simp [hm])) (.inr ⟨rfl, rfl⟩)
  | @shutdown m hm =>
      refine h.keep hm rfl rfl rfl h.unsent (.inr (.inl rfl)) (more fun p hp => ?_) rfl
        (h.recvd m (by simp [hm])) (.inr ⟨rfl, rfl⟩)
      rw [mem_sends hp]
      exact ⟨rfl, rfl⟩
  | @dequeue m next rest hm hb hrx hlt =>
      exact h.keep hm rfl rfl rfl h.unsent (.inr (.inl rfl)) old rfl hlt (.inr ⟨rfl, rfl⟩)
  | @dequeueAck m next rest hm hb hrx hge =>
      have hpos := h.recvd m (by simp [hm])
      refine h.keep hm rfl rfl rfl h.unsent (.inr (.inl rfl)) (more fun p hp => ?_) rfl ?_
        (.inr ⟨rfl, rfl⟩)
      · rw [mem_sends hp]
        exact ⟨rfl, rfl⟩
      · rw [UInt32.lt_iff_toNat_lt] at hpos ⊢
        exact lt_of_le_of_lt (Nat.zero_le _) hpos
  | @consume m amt hm =>
      exact h.keep hm rfl rfl rfl h.unsent (.inr (.inl rfl)) old rfl
        (h.recvd m (by simp [hm])) (.inr ⟨rfl, rfl⟩)
  | @drop m d hm =>
      exact h.keep hm rfl rfl rfl h.unsent (.inr (.inl rfl)) old rfl
        (h.recvd m (by simp [hm])) (.inl rfl)
  | dropped hm hd hl hsent =>
      exact h.keep_closed hm hl rfl rfl rfl h.unsent (.inl rfl) (more (reset hsent)) (.inl hd)
  | windDown hrun hl =>
      obtain hnil | ⟨m, hm⟩ := h.streams_cases
      · refine h.keep_nil hnil ?_ rfl h.unsent (.inl rfl) id
        rcases hl with rfl | rfl <;> simp [hnil]
      · exact h.keep_closed hm hl rfl rfl rfl h.unsent (.inr rfl) old (.inr rfl)
  | closeQueue hrun =>
      obtain hnil | ⟨m, hm⟩ := h.streams_cases
      · exact h.keep_nil hnil hnil rfl rfl (.inl rfl) id
      · exact h.keep_closed hm (.inl rfl) rfl rfl rfl rfl (.inr rfl) old (.inr rfl)
  | finish hrun hslot hl =>
      obtain hnil | ⟨m, hm⟩ := h.streams_cases
      · refine h.keep_nil hnil ?_ rfl h.unsent ?_ fun _ => rfl
        · rcases hl with rfl | rfl <;> simp [hnil]
        · exact hslot.symm.imp_right fun hs => ⟨hs, rfl⟩
      · exact h.keep_closed hm hl rfl rfl rfl h.unsent hslot old (.inr rfl)
  | @recvAck m b n rest hin hm hslot =>
      exact h.keep hm rfl rfl rfl h.unsent (.inr (.inl rfl)) old rfl
        (h.recvd m (by simp [hm])) (.inr ⟨rfl, rfl⟩)
  | @recvAckNew j rest hin hm hslot =>
      refine ⟨by simp, h.unsent, ?_, by simp, h.out, ?_, ?_, ?_, by simp⟩
      · rintro d hd
        obtain rfl : ⟨0, true⟩ = d := by simpa using hd
        exact ⟨rfl, by simp⟩
      · simp [newStreamShared]
      · simpa using newStreamShared_recvd c.opts c.peerOpts [] 0
      · intro hd
        obtain ⟨m, hmem, -⟩ := h.drops hd
        simp [hm] at hmem
  | @recvFinish m b rest hin hm hslot =>
      exact h.keep hm hm rfl rfl h.unsent (.inr (.inr ⟨false, rfl⟩)) old rfl
        (h.recvd m (by simp [hm])) (.inr ⟨rfl, rfl⟩)
  | recvReset hin hm hl =>
      exact h.keep_closed hm hl rfl rfl rfl h.unsent (.inl rfl) old (.inr rfl)
  | @recvPush m data rest hin hm hslot hd hroom =>
      exact h.keep hm rfl rfl rfl h.unsent (.inr (.inl rfl)) old rfl
        (h.recvd m (by simp [hm])) (.inr ⟨rfl, rfl⟩)
  | recvPushFull hin hm hfull hl hsent =>
      exact h.keep_closed hm hl rfl rfl rfl h.unsent (.inl rfl) (more (reset hsent))
        (.inr rfl)
  | @recvPushClosed m data rest hin hm hd =>
      exact h.keep hm hm rfl rfl h.unsent (.inr (.inl rfl)) old rfl
        (h.recvd m (by simp [hm])) (.inr ⟨rfl, rfl⟩)
  | @recvBogus m p rest hin hfin hm hp hslot =>
      exact h.keep hm hm rfl rfl h.unsent (.inr (.inl rfl)) (more (reset (.inr rfl))) rfl
        (h.recvd m (by simp [hm])) (.inr ⟨rfl, rfl⟩)

/-- ... and so does its peer. -/
lemma Used.peer_move {c c' : Conn} (h' : Used c.flip) (hmv : Move c c') : Used c'.flip := by
  have quiet : ∀ V : View, (c.me.txOpen = false → V.txOpen = false) →
      Used { c with me := V }.flip := by
    intro V hV
    have : Used { c with me := V, out := c.out ++ [] }.flip :=
      h'.peer_own fun htx => ⟨hV htx, rfl⟩
    simpa using this
  cases hmv with
  | write buf hm hf hr htx => exact h'.peer_own fun hclosed => by simp [htx] at hclosed
  | writeFails => exact quiet _ id
  | shutdown => exact h'.peer_own fun hclosed => ⟨hclosed, sends_closed hclosed⟩
  | dequeue => exact quiet _ id
  | dequeueAck => exact h'.peer_own fun hclosed => ⟨hclosed, sends_closed hclosed⟩
  | consume => exact quiet _ id
  | drop => exact quiet _ id
  | dropped hm hd hl hsent =>
      refine h'.peer_own fun hclosed => ⟨hclosed, ?_⟩
      rcases hsent with rfl | rfl
      · rfl
      · exact sends_closed hclosed
  | windDown => exact quiet _ id
  | closeQueue => exact quiet _ fun _ => rfl
  | finish => exact quiet _ id
  | recvAck hin => exact h'.peer_recv hin
  | recvAckNew hin => exact h'.peer_recv hin
  | recvFinish hin => exact h'.peer_recv hin
  | recvReset hin => exact h'.peer_recv hin
  | recvPush hin => exact h'.peer_recv hin
  | recvPushFull hin => exact h'.peer_recv hin
  | recvPushClosed hin => exact h'.peer_recv hin
  | recvBogus hin => exact h'.peer_recv hin

/-- This end has just accepted the `Connect` of its peer. -/
structure Accepted (c : Conn) : Prop where
  streams : ∃ host port, c.me.streams = [newStreamShared c.opts c.peerOpts.rwnd host port]
  slot : c.me.slot = some (.established ⟨0, true⟩)
  out : c.out = c.me.sends (.acknowledge c.opts.rwnd)
  inn : c.inn = []
  peer_streams : c.peer.streams = []
  peer_slot : c.peer.slot = none ∨ ∃ j, c.peer.slot = some (.requested j)
  peer_waits : c.peer.finished = true ∨ ∃ j, c.peer.slot = some (.requested j)
  log : (true, .finish) ∉ c.log
  peer_log : (true, .finish) ∉ c.flip.log

lemma Accepted.used {c : Conn} (h : Accepted c) (hdrops : c.me.drops = [])
    (hdrops' : c.peer.drops = []) (hun : c.me.unsent = 0) (hun' : c.peer.unsent = 0) :
    Used c ∧ Used c.flip := by
  obtain ⟨host, port, hst⟩ := h.streams
  have hout : ∀ p ∈ c.out, p.isConnect = false ∧ p.isBind = false := by
    intro p hp
    rw [h.out] at hp
    rw [mem_sends hp]
    exact ⟨rfl, rfl⟩
  constructor
  · refine ⟨by simp [hst], hun, ?_, ?_, hout, ?_, ?_, by simp [hdrops], by simp [hst]⟩
    · intro d hd
      obtain rfl : ⟨0, true⟩ = d := by simpa [h.slot] using hd
      exact ⟨rfl, by simp [hst]⟩
    · intro j hj
      simp [h.slot] at hj
    · simp [hst, newStreamShared]
    · simpa [hst] using newStreamShared_recvd c.opts c.peerOpts host port
  · have hnil : c.flip.me.streams = [] := h.peer_streams
    refine ⟨by simp [hnil], hun', ?_, fun _ _ => hnil, ?_, by simp [hnil], by simp [hnil], ?_, ?_⟩
    · intro d hd
      have hd' : c.peer.slot = some (.established d) := hd
      rcases h.peer_slot with hs | ⟨j, hs⟩ <;> simp [hs] at hd'
    · intro p hp
      simp [Conn.flip, h.inn] at hp
    · intro hd
      exact absurd hdrops' hd
    · intro _
      refine ⟨h.inn, ?_⟩
      rcases h.peer_waits with hfin | ⟨j, hj⟩
      · exact .inl hfin
      · right
        cases htx : c.me.txOpen with
        | true => exact .inl ⟨j, [], hj, by simp [Conn.flip, h.out, View.sends, htx]⟩
        | false => exact .inr ⟨htx, by simp [Conn.flip, h.out, View.sends, htx]⟩

lemma not_inUse_iff {c : Conn} : ¬ InUse c ↔ c.me.streams = [] ∧ c.peer.streams = [] := by
  simp [InUse]

/-- The frames of either end are no bind requests. -/
lemma Handshake.not_bind {c : Conn} {p : Payload} (h : Handshake c) (hp : p ∈ c.inn) :
    p.isBind = false := by
  rcases h.stage with ⟨-, h'⟩ | ⟨-, -, h'⟩
  · rcases h'.out p hp with rfl | ⟨port, host, rfl⟩ <;> rfl
  · exact (h'.out p hp).2

lemma Handshake.used {c : Conn} (h : Handshake c) (huse : InUse c) : Used c ∧ Used c.flip := by
  rcases h.stage with ⟨ho, ho'⟩ | ⟨-, hu⟩
  · exact absurd huse (not_inUse_iff.mpr ⟨ho.streams, ho'.streams⟩)
  · exact hu

lemma Handshake.step_me {c c' : Conn} {ev : Ev} (h : Handshake c) (hok : UsedOnce c ev)
    (hs : Step c ev c') : c'.me.Phases ∧ c'.peer.Phases := by
  cases hs with
  | own hev hs =>
      refine ⟨h.me.step hs ?_ fun p => hev _, h.peer⟩
      rintro rfl
      exact hok
  | @recv p rest sent V hin hs =>
      refine ⟨h.me.step hs (by simp) fun q hq => ?_, h.peer⟩
      obtain rfl : p = .bind q := by simpa using hq
      have := h.not_bind (p := .bind q) (by simp [hin])
      simp [Payload.isBind] at this

/-- **A step of a flow that is used once**: it leaves the flow unused, accepts its `Connect`,
or is one of the moves of a flow in use. -/
lemma Handshake.step {c c' : Conn} {ev : Ev} (h : Handshake c) (hok : UsedOnce c ev)
    (hs : Step c ev c') :
    Handshake c' ∧ ((¬ InUse c ∧ (¬ InUse c' ∨ Accepted c')) ∨ (InUse c ∧ Move c c')) := by
  obtain ⟨hme, hpeer⟩ := h.step_me hok hs
  have moved : InUse c → Used c → Used c.flip → Move c c' →
      Handshake c' ∧ ((¬ InUse c ∧ (¬ InUse c' ∨ Accepted c')) ∨ (InUse c ∧ Move c c')) := by
    intro huse hu hu' hmv
    exact ⟨⟨hme, hpeer, .inr ⟨hmv.inUse huse, hu.me_move hmv, hu'.peer_move hmv⟩⟩,
      .inr ⟨huse, hmv⟩⟩
  have opening : Opening c → Opening c.flip → Opening c' → Opening c'.flip →
      Handshake c' ∧ ((¬ InUse c ∧ (¬ InUse c' ∨ Accepted c')) ∨ (InUse c ∧ Move c c')) := by
    intro ho ho' hn hn'
    exact ⟨⟨hme, hpeer, .inl ⟨hn, hn'⟩⟩, .inl ⟨not_inUse_iff.mpr ⟨ho.streams, ho'.streams⟩,
      .inl (not_inUse_iff.mpr ⟨hn.streams, hn'.streams⟩)⟩⟩
  rcases h.stage with ⟨ho, ho'⟩ | ⟨huse, hu, hu'⟩
  · cases hs with
    | own hev hs =>
        obtain ⟨hn, hn'⟩ := ho.own ho' h.me hok hev hs
        exact opening ho ho' hn hn'
    | @recv p rest sent V hin hs =>
        rcases ho.recv ho' hin hs with ⟨hn, hn'⟩ |
          ⟨port, host, hfin, hout, rfl, hun, hun', hlog, hlog', hpeer', rfl, rfl⟩
        · exact opening ho ho' hn hn'
        · have hacc : Accepted { c with
              me := { c.me with
                slot := some (.established ⟨0, true⟩)
                streams := [newStreamShared c.opts c.peerOpts.rwnd host port] }
              out := c.out ++ c.me.sends (.acknowledge c.opts.rwnd)
              inn := []
              log := c.log ++ [(true, p)] } :=
            ⟨⟨host, port, rfl⟩, rfl, by simp [hout, View.sends], rfl, ho'.streams, ho'.slot, hpeer',
              hlog, hlog'⟩
          obtain ⟨hu, hu'⟩ := hacc.used ho.drops ho'.drops hun hun'
          exact ⟨⟨hme, hpeer, .inr ⟨.inl (by simp), hu, hu'⟩⟩,
            .inl ⟨not_inUse_iff.mpr ⟨ho.streams, ho'.streams⟩, .inr hacc⟩⟩
  · cases hs with
    | own hev hs => exact moved huse hu hu' (hu.move_own h.me huse hok hev hs)
    | recv hin hs => exact moved huse hu hu' (hu.move_recv hu' h.me hin hs)

end Conn

namespace System

/-- The flow id is used for one stream: no call draws it again once an end has a handle, and
no bind request does. -/
def UsedOnce (x : UInt32) (s : System) : Label → Prop
  | .act _ (.newStreamChannel id _ _) => id = x → ∀ e, (s.ep e).streams x = []
  | .act _ (.retryStream _ _ id) => id = x → ∀ e, (s.ep e).streams x = []
  | .act _ (.requestBind id _ _ _) => id ≠ x
  | _ => True

lemma UsedOnce.conn {x : UInt32} {s : System} {e : Side} {a : Action}
    (h : UsedOnce x s (.act e a)) : (s.conn x e).UsedOnce (a.event x) := by
  cases a with
  | newStreamChannel id host port =>
      simp only [Action.event]
      split_ifs with hid
      · exact ⟨h hid e, h hid e.peer⟩
      · trivial
  | retryStream id j id' =>
      simp only [Action.event]
      split_ifs with hid
      · exact ⟨h hid e, h hid e.peer⟩
      · trivial
  | requestBind id host port t =>
      have hid : id ≠ x := h
      simp [Action.event, hid, Conn.UsedOnce]
  | pollWrite id i buf =>
      simp only [Action.event]
      split_ifs <;> trivial
  | copyPush id i buf =>
      simp only [Action.event]
      split_ifs <;> trivial
  | _ => trivial

open Penguin.Lib.Transition in
/-- **Invariants of a flow that is used once.** What holds when its `Connect` has been
accepted and survives the moves holds whenever the flow is in use. -/
theorem inUse_invariant {X : Conn → Prop} (x : UInt32)
    (hacc : ∀ c, c.Handshake → c.Accepted → X c ∧ X c.flip)
    (hmove : ∀ c c', c.Handshake → c.InUse → X c → X c.flip → c.Move c' → X c' ∧ X c'.flip)
    {opts : Side → Options} {s : System} (h : Reach step (UsedOnce x) (new opts) s) (e : Side) :
    (s.conn x e).Handshake ∧ ((s.conn x e).InUse → X (s.conn x e) ∧ X (s.conn x e).flip) := by
  refine conn_invariant (I := fun c => c.Handshake ∧ (c.InUse → X c ∧ X c.flip)) x ?_ ?_ ?_
    (fun _ => trivial) (fun _ _ => trivial) (fun s e a => UsedOnce.conn) h e
  · rintro c ⟨hc, hX⟩
    refine ⟨hc.flip, fun huse => ?_⟩
    rw [Conn.flip_flip]
    exact (hX (Or.symm huse)).symm
  · intro o o'
    exact ⟨Conn.handshake_new o o', fun huse => absurd huse (by simp [Conn.InUse, Conn.new,
      View.new])⟩
  · rintro c ev c' ⟨hc, hX⟩ hok hs
    obtain ⟨hc', ⟨hno, hno' | hac⟩ | ⟨huse, hmv⟩⟩ := hc.step hok hs
    · exact ⟨hc', fun huse => absurd huse hno'⟩
    · exact ⟨hc', fun _ => hacc c' hc' hac⟩
    · exact ⟨hc', fun _ => hmove c c' hc huse (hX huse).1 (hX huse).2 hmv⟩

end System

end Penguin.Mux
