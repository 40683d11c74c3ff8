import Penguin.Mux.Credit

/-!
A flow id that is used again.

An end frees an id on its own, and may draw it again while the other end, or the connection,
still has something of the stream or the bind request that had it before. Here an id may be drawn
again once nothing is left of it, except that the other end may be using it for a request of its
own. A flow then goes through three stages, any number of times: there are only requests and
their answers; one end has accepted a `Connect`, and the other waits for the acknowledgement;
each end has its handle.
-/

namespace Penguin.Mux

open View

/-- What is delivered to a stream. -/
def Payload.isData : Payload → Bool
  | .push _ | .acknowledge _ => true
  | _ => false

namespace View

/-- The handle has not been dropped. -/
def Live (V : View) (i : ℕ) : Prop := ∃ m, V.streams[i]? = some m ∧ m.dropped = false

/-- Every handle has been dropped. -/
def Gone (V : View) : Prop := ∀ i, ¬ V.Live i

/-- With the queue closed no call can queue its frame. -/
def Sound (V : View) : Prop := V.txOpen = false → V.unsent = 0 ∧ V.bindUnsent = 0

/-- The only handle that can be in use is the last one. -/
structure Sole (V : View) : Prop where
  slot : V.slot = none ∨ ∃ b, V.slot = some (.established ⟨V.streams.length - 1, b⟩)
  live : ∀ i, V.Live i → i + 1 = V.streams.length

/-- Nothing is brought to life by what does not touch the drop flags. -/
lemma Live.of_modify {l : List MuxStream} {k i : ℕ} {f : MuxStream → MuxStream}
    (hf : ∀ m, (f m).dropped = false → m.dropped = false)
    (h : ∃ m, (l.modify k f)[i]? = some m ∧ m.dropped = false) :
    ∃ m, l[i]? = some m ∧ m.dropped = false := by
  obtain ⟨m, hm, hd⟩ := h
  rw [List.getElem?_modify] at hm
  obtain ⟨m', hm', rfl⟩ := Option.map_eq_some_iff.mp hm
  refine ⟨m', hm', ?_⟩
  split_ifs at hd
  · exact hf m' hd
  · exact hd

lemma Live.of_set {l : List MuxStream} {k i : ℕ} {m m' : MuxStream} (hm : l[k]? = some m)
    (hf : m'.dropped = false → m.dropped = false)
    (h : ∃ m, (l.set k m')[i]? = some m ∧ m.dropped = false) :
    ∃ m, l[i]? = some m ∧ m.dropped = false := by
  obtain ⟨n, hn, hd⟩ := h
  by_cases hik : k = i
  · subst hik
    have hlt := (List.getElem?_eq_some_iff.mp hm).1
    obtain rfl : m' = n := by simpa [hlt] using hn
    exact ⟨m, hm, hf hd⟩
  · exact ⟨n, by simpa [hik] using hn, hd⟩

lemma live_close {V : View} {i : ℕ} (h : V.close.Live i) : V.Live i := by
  unfold Live View.close at h
  split at h
  · exact Live.of_modify (f := MuxStream.disallowWrite) (fun _ hd => hd) h
  · exact h

lemma live_disallow {V : View} {i : ℕ} (h : V.disallow.Live i) : V.Live i := by
  unfold Live View.disallow at h
  split at h
  · exact Live.of_modify (f := MuxStream.disallowWrite) (fun _ hd => hd) h
  · exact h

lemma length_close (V : View) : V.close.streams.length = V.streams.length := by
  unfold View.close
  split <;> simp

lemma length_disallow (V : View) : V.disallow.streams.length = V.streams.length := by
  unfold View.disallow
  split <;> simp

/-- Closing a slot queues a `Reset` at most. -/
lemma mem_closeSends {V : View} {p : Payload} (h : p ∈ V.closeSends) : p = .reset := by
  rcases Conn.closeSends_cases V with hnil | hreset
  · simp [hnil] at h
  · exact mem_sends (hreset ▸ h)

lemma closeSends_closed {V : View} (h : V.txOpen = false) : V.closeSends = [] := by
  rcases Conn.closeSends_cases V with hnil | hreset
  · exact hnil
  · simp [hreset, View.sends, h]

/-- Nothing is requested by frames that are all `Reset`s. -/
lemma countP_resets {sent : List Payload} (h : ∀ p ∈ sent, p = .reset) :
    sent.countP Payload.isConnect = 0 ∧ sent.countP Payload.isBind = 0 := by
  simp only [List.countP_eq_zero]
  constructor <;> intro p hp <;> simp [h p hp, Payload.isConnect, Payload.isBind]

/-- What a step of an end can do, if it draws no id and reads no frame. -/
structure Own (V : View) (sent : List Payload) (V' : View) : Prop where
  length : V'.streams.length = V.streams.length
  live : ∀ i, V'.Live i → V.Live i
  slot : V'.slot = V.slot ∨ V'.slot = none ∧ (V.drops ≠ [] ∨ V'.finished = true)
  unsent : V'.unsent + sent.countP Payload.isConnect ≤ V.unsent
  bindUnsent : V'.bindUnsent + sent.countP Payload.isBind ≤ V.bindUnsent
  binds : V'.binds ≤ V.binds
  drops : V.Gone → V.drops = [] → V'.drops = []
  finished : V.finished = true → V'.finished = true
  closed : V.txOpen = false → V'.txOpen = false ∧ sent = []
  data : ∀ p ∈ sent, p.isData = true → ¬ V.Gone
  finish : .finish ∈ sent → ¬ V.Gone ∨ 0 < V.binds
  reset : .reset ∈ sent → V.drops ≠ [] ∨ 0 < V.binds

lemma Step.own {o : Options} {V V' : View} {ev : Ev} {sent : List Payload}
    (h : Step o V ev sent V') (hV : V.Sound) (hrecv : ∀ p, ev ≠ .recv p)
    (hreq : ev ≠ .request) (hbind : ev ≠ .bindRequest) : Own V sent V' := by
  have live : ∀ {i : ℕ} {m : MuxStream}, V.streams[i]? = some m → m.dropped = false → ¬ V.Gone :=
    fun hm hd hgone => hgone _ ⟨_, hm, hd⟩
  -- an operation on a handle
  have handle : ∀ {i : ℕ} {m : MuxStream} {sent : List Payload} (m' : MuxStream) (drops : List ℕ),
      V.streams[i]? = some m → m.dropped = false → (V.txOpen = false → sent = []) →
      (∀ p ∈ sent, p.isConnect = false ∧ p.isBind = false ∧ p ≠ .reset) →
      Own V sent { V.setStream i m' with drops := drops } := by
    intro i m sent m' drops hm hd hclosed hsent
    have hcount : sent.countP Payload.isConnect = 0 ∧ sent.countP Payload.isBind = 0 := by
      simp only [List.countP_eq_zero, Bool.not_eq_true]
      exact ⟨fun p hp => (hsent p hp).1, fun p hp => (hsent p hp).2.1⟩
    refine ⟨by simp [setStream], fun k => Live.of_set hm fun _ => hd, .inl rfl, ?_, ?_, le_rfl,
      fun hgone => absurd hgone (live hm hd), id, fun hc => ⟨hc, hclosed hc⟩,
      fun _ _ _ => live hm hd, fun _ => .inl (live hm hd),
      fun hr => absurd rfl (hsent _ hr).2.2⟩
    · simp [hcount.1]
    · simp [hcount.2]
  have sends : ∀ p, V.txOpen = false → V.sends p = [] := fun p hc => by simp [View.sends, hc]
  cases h with
  | request => exact absurd rfl hreq
  | bindRequest => exact absurd rfl hbind
  | connect host port hun =>
      refine ⟨rfl, fun _ => id, .inl rfl, ?_, by simp [Payload.isBind], le_rfl, fun _ => id, id,
        fun hc => ?_, by simp [Payload.isData], by simp, by simp⟩
      · simp [Payload.isConnect]
        omega
      · have := (hV hc).1
        omega
  | bind p hun =>
      refine ⟨rfl, fun _ => id, .inl rfl, by simp [Payload.isConnect], ?_, le_rfl, fun _ => id, id,
        fun hc => ?_, by simp [Payload.isData], by simp, by simp⟩
      · simp [Payload.isBind]
        omega
      · have := (hV hc).2
        omega
  | write buf hm hd hf hr htx =>
      exact handle _ V.drops hm hd (by simp [htx]) (by simp [Payload.isConnect, Payload.isBind])
  | writeFails hm hd => exact handle _ V.drops hm hd (fun _ => rfl) (by simp)
  | shutdown hm hd =>
      refine handle _ V.drops hm hd (sends _) fun p hp => ?_
      rw [mem_sends hp]
      simp [Payload.isConnect, Payload.isBind]
  | dequeue hm hd => exact handle _ V.drops hm hd (fun _ => rfl) (by simp)
  | dequeueAck hm hd =>
      refine handle _ V.drops hm hd (sends _) fun p hp => ?_
      rw [mem_sends hp]
      simp [Payload.isConnect, Payload.isBind]
  | consume amt hm hd => exact handle _ V.drops hm hd (fun _ => rfl) (by simp)
  | drop d hm hd => exact handle _ (V.drops ++ d) hm hd (fun _ => rfl) (by simp)
  | reply accepted hb =>
      have hmem : ∀ p ∈ V.sends (if accepted then .finish else .reset),
          p = .finish ∨ p = .reset := by
        intro p hp
        rw [mem_sends hp]
        cases accepted <;> simp
      refine ⟨rfl, fun _ => id, .inl rfl, ?_, ?_, le_rfl, fun _ => id, id, fun hc => ⟨hc, sends _ hc⟩,
        fun p hp hdata => ?_, fun _ => .inr hb, fun _ => .inr hb⟩
      · rw [List.countP_eq_zero.mpr fun p hp => ?_]
        · rfl
        · rcases hmem p hp with rfl | rfl <;> simp [Payload.isConnect]
      · rw [List.countP_eq_zero.mpr fun p hp => ?_]
        · rfl
        · rcases hmem p hp with rfl | rfl <;> simp [Payload.isBind]
      · rcases hmem p hp with rfl | rfl <;> simp [Payload.isData] at hdata
  | dropBind hb =>
      have hmem : ∀ p ∈ V.sends .reset, p = .reset := fun _ => mem_sends
      refine ⟨rfl, fun _ => id, .inl rfl, ?_, ?_, Nat.sub_le _ _, fun _ => id, id,
        fun hc => ⟨hc, sends _ hc⟩, fun p hp hdata => ?_, fun _ => .inr hb, fun _ => .inr hb⟩
      · simp [(countP_resets hmem).1]
      · simp [(countP_resets hmem).2]
      · simp [hmem p hp, Payload.isData] at hdata
  | dropped hdrops hrun =>
      have hne : V.drops ≠ [] := by simp [hdrops]
      have hmem : ∀ p ∈ V.closeSends, p = .reset := fun _ => mem_closeSends
      refine ⟨length_close V, fun _ => live_close, .inr ⟨rfl, .inl hne⟩, ?_, ?_, le_rfl,
        fun _ hnil => absurd hnil hne, id, fun hc => ⟨hc, closeSends_closed hc⟩,
        fun p hp hdata => ?_, fun hf => ?_, fun _ => .inl hne⟩
      · simp [(countP_resets hmem).1]
      · simp [(countP_resets hmem).2]
      · simp [hmem p hp, Payload.isData] at hdata
      · simpa using hmem _ hf
  | windDown hrun =>
      exact ⟨length_disallow V, fun _ => live_disallow, .inl rfl, by simp, by simp, le_rfl,
        fun _ => id, id, fun hc => ⟨hc, rfl⟩, by simp, by simp, by simp⟩
  | closeQueue hrun =>
      exact ⟨rfl, fun _ => id, .inl rfl, by simp, by simp, le_rfl, fun _ => id, id,
        fun _ => ⟨rfl, rfl⟩, by simp, by simp, by simp⟩
  | drain hrun htx =>
      exact ⟨length_close V, fun _ => live_close, .inr ⟨rfl, .inr rfl⟩, by simp, by simp, le_rfl,
        fun _ => id, fun _ => rfl, fun hc => ⟨hc, rfl⟩, by simp, by simp, by simp⟩
  | finish hrun htx =>
      exact ⟨rfl, fun _ => id, .inl rfl, by simp, by simp, le_rfl, fun _ => id, fun _ => rfl,
        fun hc => ⟨hc, rfl⟩, by simp, by simp, by simp⟩
  | _ => exact absurd rfl (hrecv _)

/-- What a frame can do to the end that reads it, if it does not open a stream. -/
structure Passes (V : View) (p : Payload) (sent : List Payload) (V' : View) : Prop where
  length : V'.streams.length = V.streams.length
  live : ∀ i, V'.Live i → V.Live i
  slot : V'.slot = V.slot ∨ V'.slot = none ∨
    ∃ i, (∃ b, V.slot = some (.established ⟨i, b⟩)) ∧ V'.slot = some (.established ⟨i, false⟩)
  freed : V'.slot = V.slot ∨ p = .reset ∨ p = .finish ∨ p.isData = true
  unsent : V'.unsent = V.unsent
  bindUnsent : V'.bindUnsent = V.bindUnsent
  binds : p.isBind = false → V'.binds = V.binds
  drops : V'.drops = V.drops
  txOpen : V'.txOpen = V.txOpen
  finished : V.finished = false ∧ V'.finished = false
  closed : V.txOpen = false → sent = []
  /-- A `Reset` is the answer, if there is one, and it is not answered. -/
  answer : sent = [] ∨ (sent = [.reset] ∧ p ≠ .reset ∧ p.isDatagram = false)

lemma Passes.resets {V V' : View} {p : Payload} {sent : List Payload} (h : Passes V p sent V') :
    ∀ q ∈ sent, q = .reset := by
  rcases h.answer with rfl | ⟨rfl, -⟩ <;> simp

lemma Step.passes {o : Options} {V V' : View} {p : Payload} {sent : List Payload}
    (h : Step o V (.recv p) sent V') (hconn : p.isConnect = true → V.slot ≠ none)
    (hack : ∀ n j, p = .acknowledge n → V.slot ≠ some (.requested j)) : Passes V p sent V' := by
  have sends : V.txOpen = false → V.sends .reset = [] := fun hc => by simp [View.sends, hc]
  have reset : p ≠ .reset → p.isDatagram = false →
      V.sends .reset = [] ∨ (V.sends .reset = [.reset] ∧ p ≠ .reset ∧ p.isDatagram = false) := by
    intro hne hdg
    unfold View.sends
    split_ifs
    · exact .inr ⟨rfl, hne, hdg⟩
    · exact .inl rfl
  -- the frame is answered, or ignored
  have bogus : ∀ {p sent}, V.finished = false → (V.txOpen = false → sent = []) →
      (sent = [] ∨ (sent = [.reset] ∧ p ≠ .reset ∧ p.isDatagram = false)) →
        Passes V p sent V := by
    intro p sent hfin hc ha
    exact ⟨rfl, fun _ => id, .inl rfl, .inl rfl, rfl, rfl, fun _ => rfl, rfl, rfl, ⟨hfin, hfin⟩, hc,
      ha⟩
  cases h with
  | recvConnectUsed q hfin => exact bogus hfin sends (reset (by simp) rfl)
  | recvConnect q hfin hslot => exact absurd hslot (hconn rfl)
  | recvAck n hfin hslot =>
      exact ⟨by simp, fun _ => Live.of_modify fun _ hd => hd, .inl rfl, .inl rfl, rfl, rfl,
        fun _ => rfl, rfl, rfl, ⟨hfin, hfin⟩, fun _ => rfl, .inl rfl⟩
  | @recvAckNew j n hfin hslot => exact absurd hslot (hack n j rfl)
  | recvAckBogus n hfin => exact bogus hfin sends (reset (by simp) rfl)
  | @recvFinish d hfin hslot =>
      exact ⟨rfl, fun _ => id, .inr (.inr ⟨d.stream, ⟨d.sender, hslot⟩, rfl⟩),
        .inr (.inr (.inl rfl)), rfl, rfl, fun _ => rfl, rfl, rfl, ⟨hfin, hfin⟩, fun _ => rfl, .inl rfl⟩
  | recvFinishBind hfin =>
      exact ⟨rfl, fun _ => id, .inr (.inl rfl), .inr (.inr (.inl rfl)), rfl, rfl, fun _ => rfl, rfl,
        rfl, ⟨hfin, hfin⟩, fun _ => rfl, .inl rfl⟩
  | recvFinishRequested hfin =>
      exact ⟨rfl, fun _ => id, .inr (.inl rfl), .inr (.inr (.inl rfl)), rfl, rfl, fun _ => rfl, rfl,
        rfl, ⟨hfin, hfin⟩, sends, reset (by simp) rfl⟩
  | recvFinishBogus hfin => exact bogus hfin sends (reset (by simp) rfl)
  | recvReset hfin =>
      exact ⟨length_close V, fun _ => live_close, .inr (.inl rfl), .inr (.inl rfl), rfl, rfl,
        fun _ => rfl, rfl, rfl, ⟨hfin, hfin⟩, fun _ => rfl, .inl rfl⟩
  | recvPush data hfin hslot hm hd =>
      exact ⟨by simp [setStream], fun _ => Live.of_set hm fun _ => hd, .inl rfl, .inl rfl, rfl, rfl,
        fun _ => rfl, rfl, rfl, ⟨hfin, hfin⟩, fun _ => rfl, .inl rfl⟩
  | recvPushFull data hfin =>
      refine ⟨length_close V, fun _ => live_close, .inr (.inl rfl), .inr (.inr (.inr rfl)), rfl, rfl,
        fun _ => rfl, rfl, rfl, ⟨hfin, hfin⟩, closeSends_closed, ?_⟩
      rcases Conn.closeSends_cases V with hnil | hreset
      · exact .inl hnil
      · rw [hreset]
        exact reset (by simp) rfl
  | recvPushClosed data hfin => exact bogus hfin (fun _ => rfl) (.inl rfl)
  | recvPushBogus data hfin => exact bogus hfin sends (reset (by simp) rfl)
  | recvBind q hfin =>
      exact ⟨rfl, fun _ => id, .inl rfl, .inl rfl, rfl, rfl, by simp [Payload.isBind], rfl, rfl,
        ⟨hfin, hfin⟩, fun _ => rfl, .inl rfl⟩
  | recvBindRefused q sent hfin hsent =>
      rcases hsent with rfl | rfl
      · exact bogus hfin (fun _ => rfl) (.inl rfl)
      · exact bogus hfin sends (reset (by simp) rfl)

lemma Sound.step {o : Options} {V V' : View} {ev : Ev} {sent : List Payload} (h : V.Sound)
    (hs : Step o V ev sent V') : V'.Sound := by
  cases hs with
  | request j hslot =>
      intro hc
      have hc' : V.txOpen = false := hc
      simp [h hc', hc']
  | bindRequest j hslot =>
      intro hc
      have hc' : V.txOpen = false := hc
      simp [h hc', hc']
  | connect => exact fun hc => ⟨by simp [(h hc).1], (h hc).2⟩
  | bind => exact fun hc => ⟨(h hc).1, by simp [(h hc).2]⟩
  | closeQueue => exact fun _ => ⟨rfl, rfl⟩
  | _ => exact h

lemma Gone.own {V V' : View} {sent : List Payload} (h : V.Gone) (hs : Own V sent V') : V'.Gone :=
  fun i hi => h i (hs.live i hi)

lemma Gone.passes {V V' : View} {p : Payload} {sent : List Payload} (h : V.Gone)
    (hs : Passes V p sent V') : V'.Gone :=
  fun i hi => h i (hs.live i hi)

lemma Sole.own {V V' : View} {sent : List Payload} (h : V.Sole) (hs : Own V sent V') :
    V'.Sole where
  slot := by
    rw [hs.length]
    rcases hs.slot with heq | ⟨hnone, -⟩
    · rw [heq]
      exact h.slot
    · exact .inl hnone
  live i hi := by
    rw [hs.length]
    exact h.live i (hs.live i hi)

lemma Sole.passes {V V' : View} {p : Payload} {sent : List Payload} (h : V.Sole)
    (hs : Passes V p sent V') : V'.Sole where
  slot := by
    rw [hs.length]
    rcases hs.slot with heq | hnone | ⟨i, ⟨b, hb⟩, hi⟩
    · rw [heq]
      exact h.slot
    · exact .inl hnone
    · right
      rcases h.slot with hnone | ⟨b', hb'⟩
      · simp [hnone] at hb
      · obtain ⟨rfl, -⟩ : V.streams.length - 1 = i ∧ b' = b := by simpa [hb'] using hb
        exact ⟨false, hi⟩
  live i hi := by
    rw [hs.length]
    exact h.live i (hs.live i hi)

/-- No call of the end has reserved the slot. -/
lemma Sole.slot_ne {V : View} (h : V.Sole) {slot : FlowSlot} (hne : ∀ d, slot ≠ .established d) :
    V.slot ≠ some slot := by
  intro hs
  rcases h.slot with hnone | ⟨b, hb⟩
  · simp [hnone] at hs
  · exact hne _ (Option.some.inj (hs.symm.trans hb))

lemma Sole.not_requested {V : View} (h : V.Sole) (j : ℕ) : V.slot ≠ some (.requested j) :=
  h.slot_ne (by simp)

/-- A slot is reserved by a draw only. -/
lemma Step.kept {o : Options} {V V' : View} {ev : Ev} {sent : List Payload}
    (h : Step o V ev sent V') (hev : ev ≠ .request ∧ ev ≠ .bindRequest) {slot : FlowSlot}
    (hslot : V'.slot = some slot) (hne : ∀ d, slot ≠ .established d) : V.slot = some slot := by
  cases h with
  | request => exact absurd rfl hev.1
  | bindRequest => exact absurd rfl hev.2
  | dropped | drain | recvReset | recvPushFull | recvFinishBind | recvFinishRequested => cases hslot
  | recvConnect | recvAckNew | recvFinish => exact absurd (Option.some.inj hslot).symm (hne _)
  | _ => exact hslot

lemma Run.kept {o : Options} {V V' : View} {ev : Ev} {sent : List Payload}
    (h : Run o V ev sent V') (hev : ev ≠ .request ∧ ev ≠ .bindRequest) {slot : FlowSlot}
    (hslot : V'.slot = some slot) (hne : ∀ d, slot ≠ .established d) : V.slot = some slot := by
  induction h with
  | idle V => exact hslot
  | cons hfirst _ ih => exact hfirst.kept hev (ih ⟨by simp, by simp⟩ hslot) hne

end View

/-! ### The stages of a flow -/

namespace Conn

/-- This end has no slot reserved for a stream, and no `Connect` on its way. -/
def Idle (c : Conn) : Prop :=
  (∀ j, c.me.slot ≠ some (.requested j)) ∧ c.me.unsent + c.out.countP Payload.isConnect = 0

/-- There is nothing of a bind request of this end. -/
structure NoBind (c : Conn) : Prop where
  unsent : c.me.bindUnsent = 0
  out : ∀ p ∈ c.out, p.isBind = false
  binds : c.peer.binds = 0
  inn : .finish ∉ c.inn

/-- What is left of an id that this end may draw: requests of the peer that are on their way, and
answers to them. If the peer is waiting with a slot for its `Connect` to be answered, there is at
most one of the `Connect` and its rejection. -/
structure Vacant (c : Conn) : Prop where
  gone : c.me.Gone
  peer_gone : c.peer.Gone
  drops : c.me.drops = []
  peer_drops : c.peer.drops = []
  unsent : c.me.unsent = 0
  bindUnsent : c.me.bindUnsent = 0
  binds : c.peer.binds = 0
  out : ∀ p ∈ c.out, p = .reset ∨ p = .finish
  inn : ∀ p ∈ c.inn, p.isConnect = true ∨ p.isBind = true
  peer_slot : ∀ d, c.peer.slot ≠ some (.established d)
  peer : c.flip.Idle ∨ ((∃ j, c.peer.slot = some (.requested j)) ∧ c.flip.attempts ≤ 1)

/-- There are only requests and answers to them, from this end. -/
structure Asking (c : Conn) : Prop where
  sound : c.me.Sound
  gone : c.me.Gone
  drops : c.me.drops = []
  slot : ∀ d, c.me.slot ≠ some (.established d)
  out : ∀ p ∈ c.out, p.isData = false
  one : c.me.unsent + c.out.countP Payload.isConnect ≤ 1
  bound : ∀ j, c.me.slot = some (.bindRequested j) →
    c.me.unsent + c.out.countP Payload.isConnect = 0
  noBind : ∀ j, c.me.slot = some (.requested j) → c.NoBind
  /-- Unless one of the ends asks for no stream, this end waits for one answer. -/
  tidy : c.me.finished = true ∨ c.Idle ∨ c.flip.Idle ∨
    ((∃ j, c.me.slot = some (.requested j)) ∧ c.attempts ≤ 1)

/-- The peer has accepted the `Connect` of this end, which has not got its handle. -/
structure Waiting (c : Conn) : Prop where
  sound : c.me.Sound
  peer_sound : c.peer.Sound
  gone : c.me.Gone
  slot : c.me.slot = none ∨ ∃ j, c.me.slot = some (.requested j)
  peer : c.peer.Sole
  unsent : c.me.unsent = 0
  peer_unsent : c.peer.unsent = 0
  out : ∀ p ∈ c.out, p.isData = false ∧ p.isConnect = false
  inn : ∀ p ∈ c.inn, p.isConnect = false
  bindUnsent : ∀ j, c.me.slot = some (.requested j) → c.me.bindUnsent = 0 ∧
    (∀ p ∈ c.out, p.isBind = false) ∧ c.peer.binds = 0
  /-- The acknowledgement is the first that is delivered, or it was not sent. -/
  answer : ∀ j, c.me.slot = some (.requested j) →
    (∃ n rest, c.inn.filter Payload.isData = .acknowledge n :: rest) ∨
    (c.peer.txOpen = false ∧ c.inn.filter Payload.isData = [] ∧ .finish ∉ c.inn)

/-- Each end has got its handle, from this end. -/
structure Linked (c : Conn) : Prop where
  sound : c.me.Sound
  held : c.me.Sole
  unsent : c.me.unsent = 0
  out : ∀ p ∈ c.out, p.isConnect = false

variable {c : Conn} {V : View} {sent : List Payload}

/-- The slot is there for the `Connect`, if it is there. -/
lemma Waiting.slot_ne (h : c.Waiting) {slot : FlowSlot} (hne : ∀ j, slot ≠ .requested j) :
    c.me.slot ≠ some slot := by
  intro hs
  rcases h.slot with hnone | ⟨j, hj⟩
  · simp [hnone] at hs
  · exact hne j (Option.some.inj (hs.symm.trans hj))

/-! ### Steps of an end on its own -/

lemma forall_mem_append {P : Payload → Prop} {l l' : List Payload} (h : ∀ p ∈ l, P p)
    (h' : ∀ p ∈ l', P p) : ∀ p ∈ l ++ l', P p := by
  intro p hp
  rcases List.mem_append.mp hp with hp | hp
  · exact h p hp
  · exact h' p hp

/-- An end that asks for no stream goes on asking for none. -/
lemma Idle.own (h : c.Idle) (hs : Own c.me sent V) :
    Idle { c with me := V, out := c.out ++ sent } := by
  refine ⟨fun j hj => ?_, ?_⟩
  · rcases hs.slot with heq | ⟨hnone, -⟩
    · exact h.1 j (heq ▸ hj)
    · simp [hnone] at hj
  · have := hs.unsent
    have := h.2
    simp only [List.countP_append]
    omega

lemma Asking.own (h : c.Asking) (h' : c.flip.Asking) (hs : Own c.me sent V) (hV : V.Sound) :
    Asking { c with me := V, out := c.out ++ sent } ∧
      Asking { c with me := V, out := c.out ++ sent }.flip := by
  have hdata : ∀ p ∈ sent, p.isData = false := by
    intro p hp
    by_contra hd
    exact hs.data p hp (by simpa using hd) h.gone
  have hslot : V.slot = c.me.slot ∨ V.slot = none ∧ V.finished = true := by
    rcases hs.slot with heq | ⟨hnone, hne | hfin⟩
    · exact .inl heq
    · exact absurd h.drops hne
    · exact .inr ⟨hnone, hfin⟩
  have kept : ∀ {slot}, V.slot = some slot → c.me.slot = some slot := by
    intro slot hV
    rcases hslot with heq | ⟨hnone, -⟩
    · rw [← heq, hV]
    · simp [hnone] at hV
  have hcount := hs.unsent
  have happend : (c.out ++ sent).countP Payload.isConnect =
      c.out.countP Payload.isConnect + sent.countP Payload.isConnect := List.countP_append
  refine ⟨⟨hV, h.gone.own hs, hs.drops h.gone h.drops, fun d hd => h.slot d (kept hd),
      forall_mem_append h.out hdata, ?_, fun j hj => ?_, fun j hj => ?_, ?_⟩,
    ⟨h'.sound, h'.gone, h'.drops, h'.slot, h'.out, h'.one, h'.bound, fun j hj => ?_, ?_⟩⟩
  · have := h.one
    simp only [happend]
    omega
  · have := h.bound j (kept hj)
    simp only [happend]
    omega
  · have hno := h.noBind j (kept hj)
    have hbind := hs.bindUnsent
    rw [hno.unsent] at hbind
    have hzero : sent.countP Payload.isBind = 0 := by omega
    refine ⟨show V.bindUnsent = 0 by omega, forall_mem_append hno.out fun p hp => ?_, hno.binds,
      hno.inn⟩
    simpa using List.countP_eq_zero.mp hzero p hp
  · rcases h.tidy with hfin | hidle | hidle | ⟨⟨j, hj⟩, hle⟩
    · exact .inl (hs.finished hfin)
    · exact .inr (.inl (hidle.own hs))
    · exact .inr (.inr (.inl hidle))
    · rcases hslot with heq | ⟨-, hfin⟩
      · refine .inr (.inr (.inr ⟨⟨j, heq.trans hj⟩, ?_⟩))
        simp only [attempts, happend] at hle ⊢
        omega
      · exact .inl hfin
  · -- the peer is not waiting for a bind request, so there is none that could be answered
    have hno := h'.noBind j hj
    have hbinds : c.me.binds = 0 := hno.binds
    refine ⟨hno.unsent, hno.out, show V.binds = 0 by have := hs.binds; omega, fun hf => ?_⟩
    rcases List.mem_append.mp hf with hf | hf
    · exact hno.inn hf
    · rcases hs.finish hf with hlive | hpos
      · exact hlive h.gone
      · omega
  · rcases h'.tidy with hfin | hidle | hidle | ⟨⟨j, hj⟩, hle⟩
    · exact .inl hfin
    · exact .inr (.inl hidle)
    · exact .inr (.inr (.inl (Idle.own (c := c) hidle hs)))
    · refine .inr (.inr (.inr ⟨⟨j, hj⟩, ?_⟩))
      have hbinds : c.me.binds = 0 := (h'.noBind j hj).binds
      have hreset : sent.countP Payload.isReset = 0 := by
        refine List.countP_eq_zero.mpr fun p hp hr => ?_
        cases p <;> simp [Payload.isReset] at hr
        rcases hs.reset hp with hne | hpos
        · exact hne h.drops
        · omega
      simp only [attempts, Conn.flip, List.countP_append] at hle ⊢
      omega

lemma Waiting.own (h : c.Waiting) (hs : Own c.me sent V) (hV : V.Sound) :
    Waiting { c with me := V, out := c.out ++ sent } := by
  have hcount := hs.unsent
  rw [h.unsent] at hcount
  have hconn : sent.countP Payload.isConnect = 0 := by omega
  have kept : ∀ {slot}, V.slot = some slot → c.me.slot = some slot := by
    intro slot hV
    rcases hs.slot with heq | ⟨hnone, -⟩
    · rw [← heq, hV]
    · simp [hnone] at hV
  refine ⟨hV, h.peer_sound, h.gone.own hs, ?_, h.peer, show V.unsent = 0 by omega, h.peer_unsent,
    forall_mem_append h.out fun p hp => ⟨?_, by simpa using List.countP_eq_zero.mp hconn p hp⟩,
    h.inn, fun j hj => ?_, fun j hj => h.answer j (kept hj)⟩
  · rcases hs.slot with heq | ⟨hnone, -⟩
    · simpa [heq] using h.slot
    · exact .inl hnone
  · by_contra hd
    exact hs.data p hp (by simpa using hd) h.gone
  · obtain ⟨hun, hout, hbinds⟩ := h.bindUnsent j (kept hj)
    have hbind := hs.bindUnsent
    rw [hun] at hbind
    have hzero : sent.countP Payload.isBind = 0 := by omega
    exact ⟨show V.bindUnsent = 0 by omega, forall_mem_append hout fun p hp => by
      simpa using List.countP_eq_zero.mp hzero p hp, hbinds⟩

/-- The end that has accepted the stream takes a step. -/
lemma Waiting.peer_own (h : c.flip.Waiting) (hs : Own c.me sent V) (hV : V.Sound) :
    Waiting { c with me := V, out := c.out ++ sent }.flip := by
  have hun : c.me.unsent = 0 := h.peer_unsent
  have hcount := hs.unsent
  have hconn : sent.countP Payload.isConnect = 0 := by omega
  refine ⟨h.sound, hV, h.gone, h.slot, Sole.own h.peer hs, h.unsent, show V.unsent = 0 by omega,
    h.out, forall_mem_append h.inn fun p hp => by simpa using List.countP_eq_zero.mp hconn p hp,
    fun j hj => ?_, fun j hj => ?_⟩
  · obtain ⟨hbun, hout, hbinds⟩ := h.bindUnsent j hj
    have hbinds' : c.me.binds = 0 := hbinds
    exact ⟨hbun, hout, show V.binds = 0 by have := hs.binds; omega⟩
  · rcases h.answer j hj with ⟨n, rest, hdata⟩ | ⟨hclosed, hdata, hfin⟩
    · left
      have hdata' : c.out.filter Payload.isData = .acknowledge n :: rest := hdata
      exact ⟨n, rest ++ sent.filter Payload.isData, by simp [Conn.flip, hdata']⟩
    · right
      obtain ⟨hclosed', hnil⟩ := hs.closed hclosed
      subst hnil
      refine ⟨hclosed', ?_, ?_⟩
      · simpa [Conn.flip] using hdata
      · simpa [Conn.flip] using hfin

lemma Linked.own (h : c.Linked) (hs : Own c.me sent V) (hV : V.Sound) :
    Linked { c with me := V, out := c.out ++ sent } := by
  have hcount := hs.unsent
  rw [h.unsent] at hcount
  have hconn : sent.countP Payload.isConnect = 0 := by omega
  exact ⟨hV, h.held.own hs, show V.unsent = 0 by omega, forall_mem_append h.out fun p hp => by
    simpa using List.countP_eq_zero.mp hconn p hp⟩

/-! ### Drawing the id -/

/-- The stage a flow is in. -/
inductive Staged (c : Conn) : Prop
  | asking (h : c.Asking) (h' : c.flip.Asking)
  | waiting (h : c.Waiting)
  | accepted (h : c.flip.Waiting)
  | linked (h : c.Linked) (h' : c.flip.Linked)

lemma Staged.sound (h : c.Staged) : c.me.Sound ∧ c.peer.Sound := by
  cases h with
  | asking h h' => exact ⟨h.sound, h'.sound⟩
  | waiting h => exact ⟨h.sound, h.peer_sound⟩
  | accepted h => exact ⟨h.peer_sound, h.sound⟩
  | linked h h' => exact ⟨h.sound, h'.sound⟩

/-- A peer that waits with a slot for its `Connect` has no bind request under way. -/
lemma Staged.noBind (h : c.Staged) (hv : c.Vacant) {j : ℕ}
    (hj : c.peer.slot = some (.requested j)) : c.flip.NoBind := by
  cases h with
  | asking h h' => exact h'.noBind j hj
  | waiting h => exact absurd hj (h.peer.not_requested j)
  | linked h h' => exact absurd hj (h'.held.not_requested j)
  | accepted h =>
      obtain ⟨hun, hout, hbinds⟩ := h.bindUnsent j hj
      refine ⟨hun, hout, hbinds, ?_⟩
      rcases h.answer j hj with ⟨n, rest, hdata⟩ | ⟨-, -, hfin⟩
      · have hmem : Payload.acknowledge n ∈ c.out := by
          have : Payload.acknowledge n ∈ c.flip.inn.filter Payload.isData := by simp [hdata]
          exact (List.mem_filter.mp this).1
        have := hv.out _ hmem
        simp at this
      · exact hfin

/-- An id that is drawn when nothing is left of it is asked for. -/
lemma Staged.draw (h : c.Staged) (hv : c.Vacant) {ev : Ev} (hs : View.Step c.opts c.me ev sent V)
    (hev : ev = .request ∨ ev = .bindRequest) :
    Asking { c with me := V, out := c.out ++ sent } ∧
      Asking { c with me := V, out := c.out ++ sent }.flip := by
  obtain ⟨rfl, hst, hdrops, hbinds, hslot⟩ : sent = [] ∧ V.streams = c.me.streams ∧
      V.drops = c.me.drops ∧ V.binds = c.me.binds ∧
      (((∃ j, V.slot = some (.requested j)) ∧ V.unsent ≤ 1 ∧ V.bindUnsent = 0) ∨
        ((∃ j, V.slot = some (.bindRequested j)) ∧ V.unsent = 0)) := by
    cases hs with
    | request j hslot =>
        have := Bool.toNat_le c.me.txOpen
        exact ⟨rfl, rfl, rfl, rfl, .inl ⟨⟨j, rfl⟩, by simpa [hv.unsent] using this, hv.bindUnsent⟩⟩
    | bindRequest j hslot => exact ⟨rfl, rfl, rfl, rfl, .inr ⟨⟨j, rfl⟩, hv.unsent⟩⟩
    | _ => simp at hev
  have hV : V.Sound := h.sound.1.step hs
  have hgone : V.Gone := by
    unfold View.Gone View.Live
    rw [hst]
    exact hv.gone
  have hconn : c.out.countP Payload.isConnect = 0 := by
    refine List.countP_eq_zero.mpr fun p hp => ?_
    rcases hv.out p hp with rfl | rfl <;> simp [Payload.isConnect]
  have hreset : c.inn.countP Payload.isReset = 0 := by
    refine List.countP_eq_zero.mpr fun p hp => ?_
    rcases hv.inn p hp with hp | hp <;> cases p <;>
      simp [Payload.isConnect, Payload.isBind, Payload.isReset] at hp ⊢
  rw [List.append_nil]
  refine ⟨⟨hV, hgone, hdrops.trans hv.drops, ?_, fun p hp => ?_, ?_, ?_, ?_, ?_⟩,
    ⟨h.sound.2, hv.peer_gone, hv.peer_drops, hv.peer_slot, fun p hp => ?_, ?_, ?_, ?_, ?_⟩⟩
  · rcases hslot with ⟨⟨j, hj⟩, -⟩ | ⟨⟨j, hj⟩, -⟩ <;> simp [hj]
  · rcases hv.out p hp with rfl | rfl <;> rfl
  · rcases hslot with ⟨-, hun, -⟩ | ⟨-, hun⟩ <;> simp only [hconn] <;> omega
  · intro j hj
    rcases hslot with ⟨⟨k, hk⟩, -⟩ | ⟨-, hun⟩
    · simp [hk] at hj
    · simp [hconn, hun]
  · intro j hj
    rcases hslot with ⟨-, -, hbun⟩ | ⟨⟨k, hk⟩, -⟩
    · refine ⟨hbun, fun p hp => ?_, hv.binds, fun hf => ?_⟩
      · rcases hv.out p hp with rfl | rfl <;> rfl
      · simpa [Payload.isConnect, Payload.isBind] using hv.inn _ hf
    · simp [hk] at hj
  · rcases hslot with ⟨hreq, hun, -⟩ | ⟨⟨k, hk⟩, hun⟩
    · refine .inr (.inr (.inr ⟨hreq, ?_⟩))
      simp only [attempts, hconn, hreset]
      omega
    · exact .inr (.inl ⟨by simp [hk], by simp [hconn, hun]⟩)
  · rcases hv.inn p hp with hp | hp <;> cases p <;>
      simp [Payload.isConnect, Payload.isBind, Payload.isData] at hp ⊢
  · rcases hv.peer with hidle | ⟨-, hle⟩
    · exact hidle.2.le.trans zero_le_one
    · simp only [attempts] at hle
      exact (Nat.le_add_right _ _).trans hle
  · intro j hj
    rcases hv.peer with hidle | ⟨⟨k, hk⟩, -⟩
    · exact hidle.2
    · have hj' : c.peer.slot = some (.bindRequested j) := hj
      simp [hk] at hj'
  · intro j hj
    have hno := h.noBind hv hj
    exact ⟨hno.unsent, hno.out, hbinds.trans hno.binds, hno.inn⟩
  · rcases hv.peer with hidle | hwait
    · exact .inr (.inl hidle)
    · exact .inr (.inr (.inr hwait))

/-! ### Frames -/

variable {p : Payload} {rest : List Payload} {log : List (Bool × Payload)}

/-- What is left to read has been there before. -/
lemma countP_tail_le (hin : c.inn = p :: rest) (q : Payload → Bool) :
    rest.countP q ≤ c.inn.countP q := by
  rw [hin, List.countP_cons]
  exact Nat.le_add_right _ _

lemma forall_mem_tail {P : Payload → Prop} (hin : c.inn = p :: rest) (h : ∀ q ∈ c.inn, P q) :
    ∀ q ∈ rest, P q := fun q hq => h q (by simp [hin, hq])

lemma forall_mem_resets {P : Payload → Prop} {l : List Payload} (h : ∀ q ∈ l, P q)
    (hs : Passes c.me p sent V) (hr : P .reset) : ∀ q ∈ l ++ sent, P q :=
  forall_mem_append h fun q hq => hs.resets q hq ▸ hr

/-- An end that asks for no stream still does not when it has read a frame. -/
lemma Idle.passes (h : c.Idle) (hs : Passes c.me p sent V) :
    Idle { c with me := V, out := c.out ++ sent, inn := rest, log := log } := by
  refine ⟨fun j hj => ?_, ?_⟩
  · rcases hs.slot with heq | hnone | ⟨i, -, hi⟩
    · exact h.1 j (heq ▸ hj)
    · simp [hnone] at hj
    · simp [hi] at hj
  · have := h.2
    simp only [List.countP_append, hs.unsent, (countP_resets hs.resets).1]
    omega

/-- Requests and answers to them go on, ... -/
lemma Asking.passes (h : c.Asking) (h' : c.flip.Asking) (hin : c.inn = p :: rest)
    (hs : Passes c.me p sent V) :
    Asking { c with me := V, out := c.out ++ sent, inn := rest, log := log } ∧
      Asking { c with me := V, out := c.out ++ sent, inn := rest, log := log }.flip := by
  have hconn := (countP_resets hs.resets).1
  have hrest := countP_tail_le hin
  have hdata : p.isData = false := h'.out p (by simp [Conn.flip, hin])
  have hinn : ∀ q, q ∉ c.inn → q ∉ rest := fun q hq hmem => hq (by simp [hin, hmem])
  have hslot : V.slot = c.me.slot ∨ V.slot = none := by
    rcases hs.slot with heq | hnone | ⟨i, ⟨b, hb⟩, -⟩
    · exact .inl heq
    · exact .inr hnone
    · exact absurd hb (h.slot _)
  have kept : ∀ {slot}, V.slot = some slot → c.me.slot = some slot := by
    intro slot hV
    rcases hslot with heq | hnone
    · rw [← heq, hV]
    · simp [hnone] at hV
  have idle' : c.flip.Idle →
      Idle { c with me := V, out := c.out ++ sent, inn := rest, log := log }.flip := by
    intro hidle
    refine ⟨hidle.1, ?_⟩
    have h₁ : c.peer.unsent + c.inn.countP Payload.isConnect = 0 := hidle.2
    have h₂ := hrest Payload.isConnect
    change c.peer.unsent + rest.countP Payload.isConnect = 0
    omega
  refine ⟨⟨fun hc => ?_, h.gone.passes hs, hs.drops.trans h.drops, fun d hd => h.slot d (kept hd),
      forall_mem_resets h.out hs rfl, ?_, fun j hj => ?_, fun j hj => ?_, ?_⟩,
    ⟨h'.sound, h'.gone, h'.drops, h'.slot, forall_mem_tail hin h'.out, ?_, fun j hj => ?_,
      fun j hj => ?_, ?_⟩⟩
  · have := h.sound (hs.txOpen ▸ hc)
    exact ⟨hs.unsent.trans this.1, hs.bindUnsent.trans this.2⟩
  · have := h.one
    simp only [List.countP_append, hs.unsent, hconn]
    omega
  · have := h.bound j (kept hj)
    simp only [List.countP_append, hs.unsent, hconn]
    omega
  · have hno := h.noBind j (kept hj)
    exact ⟨hs.bindUnsent.trans hno.unsent, forall_mem_resets hno.out hs rfl, hno.binds,
      hinn _ hno.inn⟩
  · rcases h.tidy with hfin | hidle | hidle | ⟨⟨j, hj⟩, hle⟩
    · simp [hs.finished.1] at hfin
    · exact .inr (.inl (hidle.passes hs))
    · exact .inr (.inr (.inl (idle' hidle)))
    · have h₁ := hrest Payload.isReset
      rcases hslot with heq | hnone
      · refine .inr (.inr (.inr ⟨⟨j, heq.trans hj⟩, ?_⟩))
        simp only [attempts, List.countP_append, hs.unsent, hconn] at hle ⊢
        omega
      · -- the slot was freed by the answer to the `Connect`
        obtain rfl : p = .reset := by
          rcases hs.freed with heq | hp | rfl | hp
          · simp [heq, hj] at hnone
          · exact hp
          · exact absurd (by simp [hin]) (h.noBind j hj).inn
          · simp [hdata] at hp
        refine .inr (.inl ⟨by simp [hnone], ?_⟩)
        simp only [attempts, hin, List.countP_cons, Payload.isReset, if_true] at hle
        simp only [List.countP_append, hs.unsent, hconn]
        omega
  · exact (Nat.add_le_add_left (hrest Payload.isConnect) _).trans h'.one
  · have h₁ : c.peer.unsent + c.inn.countP Payload.isConnect = 0 := h'.bound j hj
    have h₂ := hrest Payload.isConnect
    change c.peer.unsent + rest.countP Payload.isConnect = 0
    omega
  · have hno := h'.noBind j hj
    have hnb : p.isBind = false := hno.out p (by simp [Conn.flip, hin])
    exact ⟨hno.unsent, forall_mem_tail hin hno.out, (hs.binds hnb).trans hno.binds, fun hf =>
      (List.mem_append.mp hf).elim hno.inn fun hf => by simpa using hs.resets _ hf⟩
  · rcases h'.tidy with hfin | hidle | hidle | ⟨⟨j, hj⟩, hle⟩
    · exact .inl hfin
    · exact .inr (.inl (idle' hidle))
    · exact .inr (.inr (.inl (Idle.passes (c := c) hidle hs)))
    · have hj' : c.peer.slot = some (.requested j) := hj
      have h₁ := hrest Payload.isConnect
      -- only a `Connect` is answered, or this end does not ask for a stream
      by_cases hfin : p = .finish
      · subst hfin
        have hidle : c.Idle := by
          rcases h.tidy with hfin | hidle | hidle | ⟨⟨k, hk⟩, -⟩
          · simp [hs.finished.1] at hfin
          · exact hidle
          · exact absurd hj (hidle.1 j)
          · exact absurd (by simp [hin]) (h.noBind k hk).inn
        exact .inr (.inr (.inl (hidle.passes hs)))
      · refine .inr (.inr (.inr ⟨⟨j, hj⟩, ?_⟩))
        simp only [attempts, Conn.flip, List.countP_append] at hle ⊢
        rcases hs.answer with rfl | ⟨rfl, hne, hdg⟩
        · simp only [List.countP_nil]
          omega
        · have hnb : p.isBind = false := (h'.noBind j hj).out p (by simp [Conn.flip, hin])
          obtain ⟨q, rfl⟩ : ∃ q, p = .connect q := by
            cases p with
            | connect q => exact ⟨q, rfl⟩
            | finish => exact absurd rfl hfin
            | reset => exact absurd rfl hne
            | bind => cases hnb
            | datagram => cases hdg
            | acknowledge => cases hdata
            | push => cases hdata
          simp only [hin, List.countP_cons, Payload.isConnect, if_true] at hle
          simp [Payload.isReset]
          omega

lemma isData_of_resets {l : List Payload} (h : ∀ q ∈ l, q = .reset) :
    l.filter Payload.isData = [] := by
  refine List.filter_eq_nil_iff.mpr fun q hq => ?_
  simp [h q hq, Payload.isData]

/-- A new handle is the only one in use if the others have been dropped. -/
lemma sole_append {V V' : View} {m : MuxStream} (hgone : V.Gone)
    (hst : V'.streams = V.streams ++ [m]) {b : Bool}
    (hslot : V'.slot = some (.established ⟨V.streams.length, b⟩)) : V'.Sole := by
  refine ⟨.inr ⟨b, by simp [hslot, hst]⟩, fun i hi => ?_⟩
  obtain ⟨m', hm', hd⟩ := hi
  rw [hst] at hm' ⊢
  by_cases hlt : i < V.streams.length
  · rw [List.getElem?_append_left hlt] at hm'
    exact absurd ⟨m', hm', hd⟩ (hgone i)
  · have := (List.getElem?_eq_some_iff.mp hm').1
    simp only [List.length_append, List.length_singleton] at this ⊢
    omega

/-- ... until a `Connect` is accepted, ... -/
lemma Asking.accept (h : c.Asking) (h' : c.flip.Asking) (hin : c.inn = p :: rest)
    (hp : p.isConnect = true) (hslot : c.me.slot = none)
    (hs : View.Step c.opts c.me (.recv p) sent V) :
    Waiting { c with me := V, out := c.out ++ sent, inn := rest, log := log }.flip ∧
      V.streams.length = c.me.streams.length + 1 := by
  cases hs with
  | recvConnect q hfin _ =>
      have hcount : c.inn.countP Payload.isConnect = rest.countP Payload.isConnect + 1 := by
        rw [hin, List.countP_cons_of_pos rfl]
      have hone : c.peer.unsent + c.inn.countP Payload.isConnect ≤ 1 := h'.one
      have hidle : c.Idle := by
        rcases h.tidy with hdone | hidle | hidle | ⟨⟨j, hj⟩, -⟩
        · simp [hfin] at hdone
        · exact hidle
        · have : c.peer.unsent + c.inn.countP Payload.isConnect = 0 := hidle.2
          omega
        · simp [hslot] at hj
      have hquiet : c.me.unsent + c.out.countP Payload.isConnect = 0 := hidle.2
      have hno : ∀ q ∈ c.out, q.isConnect = false := fun q hq => by
        simpa using List.countP_eq_zero.mp (by omega : c.out.countP Payload.isConnect = 0) q hq
      have hrest : ∀ q ∈ rest, q.isConnect = false := fun q hq => by
        simpa using List.countP_eq_zero.mp (by omega : rest.countP Payload.isConnect = 0) q hq
      refine ⟨⟨h'.sound, h.sound, h'.gone, ?_, sole_append h.gone rfl rfl, ?_, ?_, ?_, ?_, ?_, ?_⟩,
        by simp⟩
      · rcases hpeer : c.peer.slot with _ | j | d | j
        · exact .inl hpeer
        · exact .inr ⟨j, hpeer⟩
        · exact absurd hpeer (h'.slot d)
        · have : c.peer.unsent + c.inn.countP Payload.isConnect = 0 := h'.bound j hpeer
          omega
      · show c.peer.unsent = 0
        omega
      · show c.me.unsent = 0
        omega
      · exact fun q hq => ⟨forall_mem_tail hin h'.out q hq, hrest q hq⟩
      · exact forall_mem_append hno fun q hq => by simp [mem_sends hq, Payload.isConnect]
      · intro j hj
        have hnb := h'.noBind j hj
        exact ⟨hnb.unsent, forall_mem_tail hin hnb.out, hnb.binds⟩
      · intro j hj
        have hnodata : c.out.filter Payload.isData = [] :=
          List.filter_eq_nil_iff.mpr fun q hq => by simp [h.out q hq]
        have hfin : .finish ∉ c.out := (h'.noBind j hj).inn
        by_cases htx : c.me.txOpen = true
        · exact .inl ⟨c.opts.rwnd, [], by simp [Conn.flip, View.sends, htx, hnodata, Payload.isData]⟩
        · refine .inr ⟨by simpa [Conn.flip] using htx, ?_, ?_⟩
          · simp [Conn.flip, View.sends, htx, hnodata]
          · simpa [Conn.flip, View.sends, htx] using hfin
  | recvConnectUsed q hfin hne => exact absurd hslot hne
  | _ => cases hp

/-- ... the acknowledgement of which makes the other handle. -/
lemma Waiting.acknowledge (h : c.Waiting) (hin : c.inn = p :: rest) {j : ℕ} {n : UInt32}
    (hp : p = .acknowledge n) (hslot : c.me.slot = some (.requested j))
    (hs : View.Step c.opts c.me (.recv p) sent V) :
    (Linked { c with me := V, out := c.out ++ sent, inn := rest, log := log } ∧
      Linked { c with me := V, out := c.out ++ sent, inn := rest, log := log }.flip) ∧
      V.streams.length = c.me.streams.length + 1 := by
  subst hp
  cases hs with
  | recvAckNew _ hfin _ =>
      refine ⟨⟨⟨h.sound, sole_append h.gone rfl rfl, h.unsent, ?_⟩,
        ⟨h.peer_sound, h.peer, h.peer_unsent, forall_mem_tail hin h.inn⟩⟩, by simp⟩
      intro q hq
      exact (h.out q (by simpa using hq)).2
  | recvAck _ hfin hest => simp [hslot] at hest
  | recvAckBogus _ hfin hest => simp [hslot] at hest

/-- The end that waits reads something else. -/
lemma Waiting.passes (h : c.Waiting) (hin : c.inn = p :: rest)
    (hack : ∀ n j, p = .acknowledge n → c.me.slot ≠ some (.requested j))
    (hs : Passes c.me p sent V) :
    Waiting { c with me := V, out := c.out ++ sent, inn := rest, log := log } ∧
      ∀ j, V.slot = some (.requested j) → p.isData = false := by
  have hslot : V.slot = c.me.slot ∨ V.slot = none := by
    rcases hs.slot with heq | hnone | ⟨i, ⟨b, hb⟩, -⟩
    · exact .inl heq
    · exact .inr hnone
    · rcases h.slot with hn | ⟨j, hj⟩
      · simp [hn] at hb
      · simp [hj] at hb
  have kept : ∀ {slot}, V.slot = some slot → c.me.slot = some slot := by
    intro slot hV
    rcases hslot with heq | hnone
    · rw [← heq, hV]
    · simp [hnone] at hV
  -- the first data that comes is the acknowledgement
  have hdata : ∀ j, V.slot = some (.requested j) → p.isData = false := by
    intro j hj
    by_contra hd
    rcases h.answer j (kept hj) with ⟨n, l, hl⟩ | ⟨-, hnil, -⟩
    · rw [hin, List.filter_cons_of_pos (by simpa using hd)] at hl
      exact hack n j (List.cons.inj hl).1 (kept hj)
    · rw [hin, List.filter_cons_of_pos (by simpa using hd)] at hnil
      cases hnil
  refine ⟨⟨fun hc => ?_, h.peer_sound, h.gone.passes hs, ?_, h.peer, hs.unsent.trans h.unsent,
    h.peer_unsent, ?_, forall_mem_tail hin h.inn, fun j hj => ?_, fun j hj => ?_⟩, hdata⟩
  · have := h.sound (hs.txOpen ▸ hc)
    exact ⟨hs.unsent.trans this.1, hs.bindUnsent.trans this.2⟩
  · rcases hslot with heq | hnone
    · simpa [heq] using h.slot
    · exact .inl hnone
  · exact forall_mem_resets h.out hs ⟨rfl, rfl⟩
  · obtain ⟨hun, hout, hbinds⟩ := h.bindUnsent j (kept hj)
    exact ⟨hs.bindUnsent.trans hun, forall_mem_resets hout hs rfl, hbinds⟩
  · have hfilter : c.inn.filter Payload.isData = rest.filter Payload.isData := by
      rw [hin, List.filter_cons_of_neg (by simp [hdata j hj])]
    rcases h.answer j (kept hj) with ⟨n, l, hl⟩ | ⟨hclosed, hnil, hfin⟩
    · exact .inl ⟨n, l, hfilter ▸ hl⟩
    · exact .inr ⟨hclosed, hfilter ▸ hnil, fun hmem => hfin (by simp [hin, hmem])⟩

/-- The end that has accepted the stream reads something. -/
lemma Waiting.peer_passes (h : c.flip.Waiting) (hin : c.inn = p :: rest)
    (hs : Passes c.me p sent V) :
    Waiting { c with me := V, out := c.out ++ sent, inn := rest, log := log }.flip := by
  refine ⟨h.sound, fun hc => ?_, h.gone, h.slot, Sole.passes h.peer hs, h.unsent,
    hs.unsent.trans h.peer_unsent, forall_mem_tail hin h.out, forall_mem_resets h.inn hs rfl,
    fun j hj => ?_, fun j hj => ?_⟩
  · have := h.peer_sound (hs.txOpen ▸ hc)
    exact ⟨hs.unsent.trans this.1, hs.bindUnsent.trans this.2⟩
  · obtain ⟨hun, hout, hbinds⟩ := h.bindUnsent j hj
    have hnb : p.isBind = false := hout p (by simp [Conn.flip, hin])
    exact ⟨hun, forall_mem_tail hin hout, (hs.binds hnb).trans hbinds⟩
  · have hfilter : (c.out ++ sent).filter Payload.isData = c.out.filter Payload.isData := by
      rw [List.filter_append, isData_of_resets hs.resets, List.append_nil]
    rcases h.answer j hj with ⟨n, l, hl⟩ | ⟨hclosed, hnil, hfin⟩
    · exact .inl ⟨n, l, hfilter.trans hl⟩
    · refine .inr ⟨hs.txOpen.trans hclosed, hfilter.trans hnil, ?_⟩
      show Payload.finish ∉ c.out ++ sent
      rw [hs.closed hclosed, List.append_nil]
      exact hfin

lemma Linked.passes (h : c.Linked) (h' : c.flip.Linked) (hin : c.inn = p :: rest)
    (hs : Passes c.me p sent V) :
    Linked { c with me := V, out := c.out ++ sent, inn := rest, log := log } ∧
      Linked { c with me := V, out := c.out ++ sent, inn := rest, log := log }.flip := by
  refine ⟨⟨fun hc => ?_, h.held.passes hs, hs.unsent.trans h.unsent,
    forall_mem_resets h.out hs rfl⟩, ⟨h'.sound, h'.held, h'.unsent, forall_mem_tail hin h'.out⟩⟩
  have := h.sound (hs.txOpen ▸ hc)
  exact ⟨hs.unsent.trans this.1, hs.bindUnsent.trans this.2⟩

/-! ### Whole steps -/

/-- An end that draws nothing and reads nothing keeps `I`. -/
structure Enduring (I : Conn → Prop) : Prop where
  sound : ∀ c, I c → c.me.Sound
  own : ∀ c sent V, I c → Own c.me sent V → V.Sound → I { c with me := V, out := c.out ++ sent }

lemma enduring_asking : Enduring fun c => c.Asking ∧ c.flip.Asking where
  sound _ h := h.1.sound
  own _ _ _ h hs hV := h.1.own h.2 hs hV

lemma enduring_waiting : Enduring Waiting where
  sound _ h := h.sound
  own _ _ _ h hs hV := h.own hs hV

lemma enduring_accepted : Enduring fun c => c.flip.Waiting where
  sound _ h := h.peer_sound
  own _ _ _ h hs hV := h.peer_own hs hV

lemma enduring_linked : Enduring fun c => c.Linked ∧ c.flip.Linked where
  sound _ h := h.1.sound
  own _ _ _ h hs hV := ⟨h.1.own hs hV, ⟨h.2.sound, h.2.held, h.2.unsent, h.2.out⟩⟩

/-- Neither a draw nor a frame that is read. -/
def Ownly (ev : Ev) : Prop := (∀ p, ev ≠ .recv p) ∧ ev ≠ .request ∧ ev ≠ .bindRequest

lemma Enduring.run {I : Conn → Prop} (hI : Enduring I) {ev : Ev} (hev : Ownly ev)
    (hrun : View.Run c.opts c.me ev sent V) (hc : I c) :
    I { c with me := V, out := c.out ++ sent } ∧ V.streams.length = c.me.streams.length := by
  have hnext : ∀ (c₁ : Conn) ev c₂,
      I c₁ ∧ c₁.me.streams.length = c.me.streams.length → Ownly ev → Conn.Step c₁ ev c₂ →
        I c₂ ∧ c₂.me.streams.length = c.me.streams.length := by
    rintro c₁ ev c₂ ⟨h, hlen⟩ hok hs
    cases hs with
    | own hne hstep =>
        have hown := hstep.own (hI.sound _ h) hok.1 hok.2.1 hok.2.2
        exact ⟨hI.own _ _ _ h hown ((hI.sound _ h).step hstep), hown.length.trans hlen⟩
    | recv hin hstep => exact absurd rfl (hok.1 _)
  have htau : ∀ _ : Conn, Ownly .tau := fun _ => ⟨by simp, by simp, by simp⟩
  exact Conn.run_own (I := fun c' => I c' ∧ c'.me.streams.length = c.me.streams.length)
    hnext htau hrun hev.1 hev ⟨hc, rfl⟩

/-- What is done in the same step, when a frame has been read. -/
lemma Enduring.finish {I : Conn → Prop} (hI : Enduring I) {V₁ : View} {sent₁ : List Payload}
    (hrun : View.Run c.opts V₁ .tau sent V)
    (hc : I { c with me := V₁, out := c.out ++ sent₁, inn := rest, log := log }) :
    I { c with me := V, out := c.out ++ (sent₁ ++ sent), inn := rest, log := log } ∧
      V.streams.length = V₁.streams.length := by
  have := hI.run ⟨by simp, by simp, by simp⟩ hrun hc
  simpa only [List.append_assoc] using this

/-- **Drawing the id** when nothing is left of it. -/
theorem Staged.draws (h : c.Staged) (hv : c.Vacant) {ev : Ev}
    (hrun : View.Run c.opts c.me ev sent V) (hev : ev = .request ∨ ev = .bindRequest) :
    Asking { c with me := V, out := c.out ++ sent } ∧
      Asking { c with me := V, out := c.out ++ sent }.flip := by
  cases hrun with
  | idle => simp at hev
  | cons hfirst hrest => exact (enduring_asking.finish hrest (h.draw hv hfirst hev)).1

/-- **Requests and answers**: a frame that is read leaves it at that, or it is a `Connect` that is
accepted. -/
theorem Asking.recv (h : c.Asking) (h' : c.flip.Asking) (hin : c.inn = p :: rest)
    (hrun : View.Run c.opts c.me (.recv p) sent V) :
    ((Asking { c with me := V, out := c.out ++ sent, inn := rest, log := log } ∧
        Asking { c with me := V, out := c.out ++ sent, inn := rest, log := log }.flip) ∧
      V.streams.length = c.me.streams.length) ∨
    (p.isConnect = true ∧ c.me.slot = none ∧
      Waiting { c with me := V, out := c.out ++ sent, inn := rest, log := log }.flip ∧
      V.streams.length = c.me.streams.length + 1) := by
  cases hrun with
  | @cons _ V₁ _ _ sent₁ sent₂ hfirst hrest =>
      by_cases hacc : p.isConnect = true ∧ c.me.slot = none
      · obtain ⟨hw, hlen⟩ := h.accept h' hin hacc.1 hacc.2 hfirst
        obtain ⟨hw', hlen'⟩ := enduring_accepted.finish hrest hw
        exact .inr ⟨hacc.1, hacc.2, hw', hlen'.trans hlen⟩
      · have hpass : Passes c.me p sent₁ V₁ := by
          refine hfirst.passes (fun hp hslot => hacc ⟨hp, hslot⟩) fun n j hp _ => ?_
          have := h'.out p (by simp [Conn.flip, hin])
          simp [hp, Payload.isData] at this
        obtain ⟨ha, hlen⟩ := enduring_asking.finish hrest (h.passes h' hin hpass)
        exact .inl ⟨ha, hlen.trans hpass.length⟩

/-- **The end that waits** gets its handle by an acknowledgement, if its slot is still there, and
goes on waiting after anything else. -/
theorem Waiting.recv (h : c.Waiting) (hin : c.inn = p :: rest)
    (hrun : View.Run c.opts c.me (.recv p) sent V) :
    (Waiting { c with me := V, out := c.out ++ sent, inn := rest, log := log } ∧
      V.streams.length = c.me.streams.length ∧
      ∀ j, V.slot = some (.requested j) → p.isData = false) ∨
    ((∃ n, p = .acknowledge n) ∧ (∃ j, c.me.slot = some (.requested j)) ∧
      (Linked { c with me := V, out := c.out ++ sent, inn := rest, log := log } ∧
        Linked { c with me := V, out := c.out ++ sent, inn := rest, log := log }.flip) ∧
      V.streams.length = c.me.streams.length + 1) := by
  cases hrun with
  | @cons _ V₁ _ _ sent₁ sent₂ hfirst hrest =>
      by_cases hack : ∃ n j, p = .acknowledge n ∧ c.me.slot = some (.requested j)
      · obtain ⟨n, j, hp, hj⟩ := hack
        obtain ⟨hl, hlen⟩ := h.acknowledge hin hp hj hfirst
        obtain ⟨hl', hlen'⟩ := enduring_linked.finish hrest hl
        exact .inr ⟨⟨n, hp⟩, ⟨j, hj⟩, hl', hlen'.trans hlen⟩
      · have hno : ∀ n j, p = .acknowledge n → c.me.slot ≠ some (.requested j) :=
          fun n j hp hj => hack ⟨n, j, hp, hj⟩
        have hpass : Passes c.me p sent₁ V₁ := by
          refine hfirst.passes (fun hp => ?_) hno
          have := h.inn p (by simp [hin])
          simp [hp] at this
        obtain ⟨hw, hdata⟩ : Waiting { c with
            me := V₁, out := c.out ++ sent₁, inn := rest, log := log } ∧ _ :=
          h.passes hin hno hpass
        obtain ⟨hw', hlen⟩ := enduring_waiting.finish hrest hw
        refine .inl ⟨hw', hlen.trans hpass.length, fun j hj => hdata j ?_⟩
        exact hrest.kept ⟨by simp, by simp⟩ hj (by simp)

/-- **The end that has accepted** reads no data and no `Connect`. -/
theorem Waiting.peer_recv (h : c.flip.Waiting) (hin : c.inn = p :: rest)
    (hrun : View.Run c.opts c.me (.recv p) sent V) :
    Waiting { c with me := V, out := c.out ++ sent, inn := rest, log := log }.flip ∧
      V.streams.length = c.me.streams.length := by
  cases hrun with
  | @cons _ V₁ _ _ sent₁ sent₂ hfirst hrest =>
      obtain ⟨hdata, hconn⟩ := h.out p (by simp [Conn.flip, hin])
      have hpass : Passes c.me p sent₁ V₁ := by
        refine hfirst.passes (fun hp => ?_) fun n j hp _ => ?_
        · simp [hp] at hconn
        · simp [hp, Payload.isData] at hdata
      obtain ⟨hw, hlen⟩ := enduring_accepted.finish hrest (h.peer_passes hin hpass)
      exact ⟨hw, hlen.trans hpass.length⟩

theorem Linked.recv (h : c.Linked) (h' : c.flip.Linked) (hin : c.inn = p :: rest)
    (hrun : View.Run c.opts c.me (.recv p) sent V) :
    (Linked { c with me := V, out := c.out ++ sent, inn := rest, log := log } ∧
      Linked { c with me := V, out := c.out ++ sent, inn := rest, log := log }.flip) ∧
      V.streams.length = c.me.streams.length := by
  cases hrun with
  | @cons _ V₁ _ _ sent₁ sent₂ hfirst hrest =>
      have hconn := h'.out p (by simp [Conn.flip, hin])
      have hpass : Passes c.me p sent₁ V₁ := by
        refine hfirst.passes (fun hp => ?_) fun n j _ hj => ?_
        · simp [hp] at hconn
        · exact h.held.not_requested j hj
      obtain ⟨hl, hlen⟩ := enduring_linked.finish hrest (h.passes h' hin hpass)
      exact ⟨hl, hlen.trans hpass.length⟩

end Conn

end Penguin.Mux
