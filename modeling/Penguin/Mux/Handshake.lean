import Penguin.Mux.Conn

/-!
The life of a flow whose id is used for one stream.

Until the first `Connect` is accepted neither end has a handle, and the frames in flight are
attempts and rejections. From then on each end has at most one handle; an end that has none
waits for the acknowledgement that carries the window of its peer. How a flow in use goes on
is the subject of `Penguin.Mux.Moves`.
-/

namespace Penguin.Mux

open View

def Payload.isConnect : Payload → Bool
  | .connect _ => true
  | _ => false

def Payload.isReset : Payload → Bool
  | .reset => true
  | _ => false

def Payload.isBind : Payload → Bool
  | .bind _ => true
  | _ => false

/-! ### One end on its own -/

namespace View

section

variable (V : View) (i : ℕ) (m : MuxStream)

@[simp] lemma slot_close : V.close.slot = none := rfl
@[simp] lemma unsent_close : V.close.unsent = V.unsent := rfl
@[simp] lemma bindUnsent_close : V.close.bindUnsent = V.bindUnsent := rfl
@[simp] lemma binds_close : V.close.binds = V.binds := rfl
@[simp] lemma drops_close : V.close.drops = V.drops := rfl
@[simp] lemma txOpen_close : V.close.txOpen = V.txOpen := rfl
@[simp] lemma running_close : V.close.running = V.running := rfl
@[simp] lemma finished_close : V.close.finished = V.finished := rfl

@[simp] lemma slot_disallow : V.disallow.slot = V.slot := rfl
@[simp] lemma unsent_disallow : V.disallow.unsent = V.unsent := rfl
@[simp] lemma bindUnsent_disallow : V.disallow.bindUnsent = V.bindUnsent := rfl
@[simp] lemma binds_disallow : V.disallow.binds = V.binds := rfl
@[simp] lemma drops_disallow : V.disallow.drops = V.drops := rfl
@[simp] lemma txOpen_disallow : V.disallow.txOpen = V.txOpen := rfl
@[simp] lemma running_disallow : V.disallow.running = V.running := rfl
@[simp] lemma finished_disallow : V.disallow.finished = V.finished := rfl

@[simp] lemma slot_setStream : (V.setStream i m).slot = V.slot := rfl
@[simp] lemma streams_setStream : (V.setStream i m).streams = V.streams.set i m := rfl
@[simp] lemma unsent_setStream : (V.setStream i m).unsent = V.unsent := rfl
@[simp] lemma bindUnsent_setStream : (V.setStream i m).bindUnsent = V.bindUnsent := rfl
@[simp] lemma binds_setStream : (V.setStream i m).binds = V.binds := rfl
@[simp] lemma drops_setStream : (V.setStream i m).drops = V.drops := rfl
@[simp] lemma txOpen_setStream : (V.setStream i m).txOpen = V.txOpen := rfl
@[simp] lemma running_setStream : (V.setStream i m).running = V.running := rfl
@[simp] lemma finished_setStream : (V.setStream i m).finished = V.finished := rfl

end

lemma mem_sends {V : View} {p q : Payload} (h : q ∈ V.sends p) : q = p := by
  unfold sends at h
  split_ifs at h
  · exact List.mem_singleton.mp h
  · simp at h

/-- What the phases of the task mean for a flow that is not used for a bind request. -/
structure Phases (V : View) : Prop where
  open_of_running : V.running = true → V.txOpen = true
  closed_of_finished : V.finished = true → V.txOpen = false
  unsent_of_closed : V.txOpen = false → V.unsent = 0
  binds : V.binds = 0
  bindUnsent : V.bindUnsent = 0
  slot : ∀ j, V.slot ≠ some (.bindRequested j)

lemma phases_new : Phases View.new where
  open_of_running _ := rfl
  closed_of_finished h := by cases h
  unsent_of_closed h := by cases h
  binds := rfl
  bindUnsent := rfl
  slot _ h := by cases h

lemma Phases.not_finished {V : View} (h : Phases V) (hrun : V.running = true) :
    V.finished = false := by
  by_contra hfin
  have := h.closed_of_finished (by simpa using hfin)
  simp [h.open_of_running hrun] at this

lemma Phases.step {o : Options} {V V' : View} {ev : Ev} {sent : List Payload} (h : Phases V)
    (hs : Step o V ev sent V') (hbind : ev ≠ .bindRequest) (hrecv : ∀ p, ev ≠ .recv (.bind p)) :
    Phases V' := by
  obtain ⟨h₁, h₂, h₃, h₄, h₅, h₆⟩ := h
  cases hs with
  | request j hslot =>
      refine ⟨h₁, h₂, fun hc => ?_, h₄, h₅, by simp⟩
      have hc' : V.txOpen = false := hc
      simp [h₃ hc', hc']
  | bindRequest => exact absurd rfl hbind
  | connect host port hun =>
      refine ⟨h₁, h₂, fun hc => ?_, h₄, h₅, h₆⟩
      have := h₃ hc
      omega
  | bind => exact ⟨h₁, h₂, h₃, h₄, by simp [h₅], h₆⟩
  | dropBind hb => omega
  | dropped _ _ => exact ⟨h₁, h₂, h₃, h₄, h₅, by simp⟩
  | windDown _ => exact ⟨by simp, h₂, h₃, h₄, h₅, h₆⟩
  | closeQueue hrun => exact ⟨by simp [hrun], by simp, by simp, h₄, rfl, h₆⟩
  | drain hrun htx => exact ⟨h₁, fun _ => htx, h₃, h₄, h₅, by simp⟩
  | finish hrun htx => exact ⟨h₁, fun _ => htx, h₃, h₄, h₅, h₆⟩
  | recvConnect _ _ _ => exact ⟨h₁, h₂, h₃, h₄, h₅, by simp⟩
  | recvAckNew _ _ _ => exact ⟨h₁, h₂, h₃, h₄, h₅, by simp⟩
  | recvFinish _ _ => exact ⟨h₁, h₂, h₃, h₄, h₅, by simp⟩
  | recvFinishBind _ _ => exact ⟨h₁, h₂, h₃, h₄, h₅, by simp⟩
  | recvFinishRequested _ _ => exact ⟨h₁, h₂, h₃, h₄, h₅, by simp⟩
  | recvReset _ => exact ⟨h₁, h₂, h₃, h₄, h₅, by simp⟩
  | recvPushFull _ _ _ _ _ => exact ⟨h₁, h₂, h₃, h₄, h₅, by simp⟩
  | recvBind p _ => exact absurd rfl (hrecv p)
  | _ => exact ⟨h₁, h₂, h₃, h₄, h₅, h₆⟩

end View

/-! ### Before the first handle -/

namespace Conn

/-- The attempt of this end that is under way, if any: a `Connect` not yet queued or not yet
answered, or its rejection. -/
def attempts (c : Conn) : ℕ :=
  c.me.unsent + c.out.countP Payload.isConnect + c.inn.countP Payload.isReset

/-- Neither end has accepted anything, from this end. -/
structure Opening (c : Conn) : Prop where
  streams : c.me.streams = []
  drops : c.me.drops = []
  slot : c.me.slot = none ∨ ∃ j, c.me.slot = some (.requested j)
  out : ∀ p ∈ c.out, p = .reset ∨ ∃ port host, p = .connect ⟨c.opts.rwnd, port, host⟩
  attempts_le : c.attempts ≤ 1
  attempts_eq : c.me.finished = false → c.me.slot = none → c.attempts = 0
  log : (true, .finish) ∉ c.log

/-! ### With a handle -/

/-- One of the ends has a handle, from this end. -/
structure Used (c : Conn) : Prop where
  length_le : c.me.streams.length ≤ 1
  unsent : c.me.unsent = 0
  established : ∀ d, c.me.slot = some (.established d) → d.stream = 0 ∧ c.me.streams ≠ []
  requested : ∀ j, c.me.slot = some (.requested j) → c.me.streams = []
  out : ∀ p ∈ c.out, p.isConnect = false ∧ p.isBind = false
  threshold : ∀ m ∈ c.me.streams, m.rwndThreshold = min c.opts.defaultRwndThreshold c.peerOpts.rwnd
  recvd : ∀ m ∈ c.me.streams, m.pshRecvdSince < m.rwndThreshold
  drops : c.me.drops ≠ [] → ∃ m ∈ c.me.streams, m.dropped = true
  /-- An end without a handle has not sent anything since its `Connect`. It has ended, or the
  acknowledgement of its `Connect` is the next frame to arrive, or none will. -/
  waiting : c.me.streams = [] → c.out = [] ∧ (c.me.finished = true ∨
    (∃ j rest, c.me.slot = some (.requested j) ∧
      c.inn = .acknowledge c.peerOpts.rwnd :: rest) ∨
    (c.peer.txOpen = false ∧ c.inn = []))

/-- The flow is in use: one of the ends has a handle. -/
def InUse (c : Conn) : Prop := c.me.streams ≠ [] ∨ c.peer.streams ≠ []

/-- The invariant of a flow whose id is used for one stream. -/
structure Handshake (c : Conn) : Prop where
  me : c.me.Phases
  peer : c.peer.Phases
  stage : (Opening c ∧ Opening c.flip) ∨
    (InUse c ∧ Used c ∧ Used c.flip)

/-- The id is not used again, nor for a bind request. -/
def UsedOnce (c : Conn) : Ev → Prop
  | .request => c.me.streams = [] ∧ c.peer.streams = []
  | .bindRequest => False
  | _ => True

@[simp] lemma flip_flip (c : Conn) : c.flip.flip = c := by
  simp [flip, Function.comp_def]

lemma Handshake.flip {c : Conn} (h : Handshake c) : Handshake c.flip where
  me := h.peer
  peer := h.me
  stage := by
    rw [flip_flip]
    exact h.stage.imp (fun h => ⟨h.2, h.1⟩) fun h => ⟨h.1.symm, h.2.2, h.2.1⟩

lemma handshake_new (o o' : Options) : Handshake (new o o') := by
  have hopen : ∀ o o', Opening (new o o') := fun o o' =>
    ⟨rfl, rfl, .inl rfl, by simp [new], by simp [attempts, new, View.new],
      by simp [attempts, new, View.new], by simp [new]⟩
  exact ⟨phases_new, phases_new, .inl ⟨hopen o o', hopen o' o⟩⟩

/-- The steps of an end of an opening flow that leave it opening. -/
lemma Opening.own {c : Conn} {ev : Ev} {sent : List Payload} {V : View} (h : Opening c)
    (h' : Opening c.flip) (hme : c.me.Phases) (hok : UsedOnce c ev) (hev : ∀ p, ev ≠ .recv p)
    (hs : View.Step c.opts c.me ev sent V) :
    Opening { c with me := V, out := c.out ++ sent } ∧
      Opening { c with me := V, out := c.out ++ sent }.flip := by
  have hst : c.me.streams = [] := h.streams
  obtain ⟨h₁, h₂, h₃, h₄, h₅, h₆, h₇⟩ := h
  have hlocal : ∀ V : View, V.streams = [] → V.drops = [] →
      (V.slot = none ∨ ∃ j, V.slot = some (.requested j)) → V.unsent ≤ c.me.unsent →
      (V.finished = false → V.slot = none → c.me.finished = false ∧ c.me.slot = none) →
      Opening { c with me := V } ∧ Opening { c with me := V }.flip := by
    intro V hs hd hslot hun hidle
    refine ⟨⟨hs, hd, hslot, h₄, ?_, ?_, h₇⟩, h'.1, h'.2, h'.3, h'.4, h'.5, h'.6, h'.7⟩
    · simp only [attempts] at h₅ ⊢
      omega
    · intro hf hn
      have := h₆ (hidle hf hn).1 (hidle hf hn).2
      simp only [attempts] at this ⊢
      omega
  have nostream : ∀ {i : ℕ} {m : MuxStream}, c.me.streams[i]? ≠ some m := by simp [hst]
  cases hs with
  | request j hslot =>
      refine ⟨⟨hst, h₂, .inr ⟨j, rfl⟩, by simpa using h₄, ?_, by simp, h₇⟩, ?_⟩
      · have hone : c.me.txOpen.toNat ≤ 1 := Bool.toNat_le _
        simp only [attempts, List.append_nil] at h₅ h₆ ⊢
        cases hfin : c.me.finished with
        | true =>
            rw [hme.closed_of_finished hfin]
            simpa using h₅
        | false =>
            have := h₆ hfin hslot
            omega
      · rw [List.append_nil]
        exact ⟨h'.1, h'.2, h'.3, h'.4, h'.5, h'.6, h'.7⟩
  | bindRequest => exact hok.elim
  | connect host port hun =>
      refine ⟨⟨hst, h₂, h₃, ?_, ?_, ?_, h₇⟩, h'.1, h'.2, h'.3, h'.4, ?_, ?_, h'.7⟩
      · intro p hp
        rcases List.mem_append.mp hp with hp | hp
        · exact h₄ p hp
        · exact .inr ⟨port, host, List.mem_singleton.mp hp⟩
      · simp only [attempts, List.countP_append] at h₅ ⊢
        simp [Payload.isConnect]
        omega
      · intro hf hn
        have := h₆ hf hn
        simp only [attempts] at this
        omega
      · simpa [attempts, Conn.flip, Payload.isReset] using h'.5
      · simpa [attempts, Conn.flip, Payload.isReset] using h'.6
  | bind p hun => exact absurd hme.bindUnsent hun.ne'
  | write _ hm => exact absurd hm nostream
  | writeFails hm => exact absurd hm nostream
  | shutdown hm => exact absurd hm nostream
  | dequeue hm => exact absurd hm nostream
  | dequeueAck hm => exact absurd hm nostream
  | consume _ hm => exact absurd hm nostream
  | drop _ hm => exact absurd hm nostream
  | reply _ hb => exact absurd hme.binds hb.ne'
  | dropBind hb => exact absurd hme.binds hb.ne'
  | dropped hdrops => simp [h₂] at hdrops
  | windDown hrun =>
      have hdis : c.me.disallow.streams = [] := by
        rcases h₃ with hslot | ⟨j, hslot⟩ <;> simp [View.disallow, hslot, hst]
      simpa using hlocal { c.me.disallow with running := false } hdis h₂ h₃ le_rfl fun hf hn =>
        ⟨hf, hn⟩
  | closeQueue hrun =>
      simpa using hlocal { c.me with txOpen := false, unsent := 0, bindUnsent := 0 } hst h₂ h₃
        (Nat.zero_le _) fun hf hn => ⟨hf, hn⟩
  | drain hrun htx =>
      have hclose : c.me.close.streams = [] := by
        rcases h₃ with hslot | ⟨j, hslot⟩ <;> simp [View.close, hslot, hst]
      simpa using hlocal { c.me.close with finished := true } hclose h₂ (.inl rfl) le_rfl
        fun hf => by simp at hf
  | finish hrun htx =>
      simpa using hlocal { c.me with finished := true } hst h₂ h₃ le_rfl fun hf => by simp at hf
  | _ => exact absurd rfl (hev _)

/-- Attempts and rejections that are counted none are none. -/
lemma nil_of_counts {l : List Payload} {w : UInt32}
    (h : ∀ p ∈ l, p = .reset ∨ ∃ port host, p = .connect ⟨w, port, host⟩)
    (hconn : l.countP Payload.isConnect = 0) (hreset : l.countP Payload.isReset = 0) :
    l = [] := by
  rw [List.countP_eq_zero] at hconn hreset
  refine List.eq_nil_iff_forall_not_mem.mpr fun q hq => ?_
  rcases h q hq with rfl | ⟨port, host, rfl⟩
  · exact hreset _ hq rfl
  · exact hconn _ hq rfl

/-- The frames of an opening flow are answered, or accepted. -/
lemma Opening.recv {c : Conn} {p : Payload} {rest sent : List Payload} {V : View} (h : Opening c)
    (h' : Opening c.flip) (hin : c.inn = p :: rest) (hs : View.Step c.opts c.me (.recv p) sent V) :
    let c' := { c with me := V, out := c.out ++ sent, inn := rest, log := c.log ++ [(true, p)] }
    (Opening c' ∧ Opening c'.flip) ∨
      ∃ port host, c.me.finished = false ∧ c.out = [] ∧ rest = [] ∧ c.me.unsent = 0 ∧
        c.peer.unsent = 0 ∧ (true, .finish) ∉ c'.log ∧ (true, .finish) ∉ c'.flip.log ∧
        (c.peer.finished = true ∨ ∃ j, c.peer.slot = some (.requested j)) ∧
        sent = c.me.sends (.acknowledge c.opts.rwnd) ∧
        V = { c.me with
          slot := some (.established ⟨0, true⟩)
          streams := [newStreamShared c.opts c.peerOpts.rwnd host port] } := by
  have hst : c.me.streams = [] := h.streams
  have hp : p = .reset ∨ ∃ port host, p = .connect ⟨c.peerOpts.rwnd, port, host⟩ :=
    h'.out p (by simp [Conn.flip, hin])
  have hrest : ∀ q ∈ rest, q = .reset ∨ ∃ port host, q = .connect ⟨c.peerOpts.rwnd, port, host⟩ :=
    fun q hq => h'.out q (by simp [Conn.flip, hin, hq])
  have hlog : (true, .finish) ∉ c.log ++ [(true, p)] := by
    have hne : p ≠ .finish := by rcases hp with rfl | ⟨port, host, rfl⟩ <;> simp
    simpa [hne.symm] using h.log
  have hlog' : (true, .finish) ∉ (c.log ++ [(true, p)]).map fun q => (!q.1, q.2) := by
    simpa [Conn.flip] using h'.log
  have hle := h.attempts_le
  have hle' := h'.attempts_le
  simp only [attempts, Conn.flip, hin, List.countP_cons] at hle hle'
  rcases hp with rfl | ⟨port, host, rfl⟩
  · -- a rejection ends the attempt
    left
    cases hs with
    | recvReset hfin =>
        have hclose : c.me.close.streams = [] := by
          rcases h.slot with hslot | ⟨j, hslot⟩ <;> simp [View.close, hslot, hst]
        simp only [Payload.isReset, if_true] at hle
        refine ⟨⟨hclose, h.drops, .inl rfl, by simpa using h.out, ?_, ?_, hlog⟩,
          h'.streams, h'.drops, h'.slot, hrest, ?_, ?_, hlog'⟩
        · simp only [attempts, List.append_nil, unsent_close]
          omega
        · intro _ _
          simp only [attempts, List.append_nil, unsent_close]
          omega
        · simpa [attempts, Conn.flip, Payload.isConnect] using hle'
        · intro hf hn
          have := h'.attempts_eq hf hn
          simpa [attempts, Conn.flip, hin, Payload.isConnect] using this
  · have hone : c.peer.unsent + rest.countP Payload.isConnect + c.out.countP Payload.isReset = 0 := by
      simp only [Payload.isConnect, if_true] at hle'
      omega
    have hslot' : c.peer.finished = true ∨ ∃ j, c.peer.slot = some (.requested j) := by
      cases hfin : c.peer.finished with
      | true => exact .inl rfl
      | false =>
          right
          rcases h'.slot with hslot | hslot
          · have := h'.attempts_eq hfin hslot
            simp [attempts, Conn.flip, hin, Payload.isConnect] at this
          · exact hslot
    cases hs with
    | recvConnectUsed _ hfin hslot =>
        left
        have hsends : (c.me.sends .reset).countP Payload.isReset ≤ 1 := by
          unfold View.sends
          split_ifs <;> simp [Payload.isReset]
        have hconn : (c.me.sends .reset).countP Payload.isConnect = 0 := by
          unfold View.sends
          split_ifs <;> simp [Payload.isConnect]
        refine ⟨⟨hst, h.drops, h.slot, ?_, ?_, fun _ hn => absurd hn hslot, hlog⟩,
          h'.streams, h'.drops, h'.slot, hrest, ?_, ?_, hlog'⟩
        · intro q hq
          rcases List.mem_append.mp hq with hq | hq
          · exact h.out q hq
          · left
            exact mem_sends hq
        · have := h.attempts_le
          simp [attempts, hin, Payload.isReset, hconn] at this ⊢
          omega
        · simp only [attempts, Conn.flip, List.countP_append]
          omega
        · intro hf hn
          have := h'.attempts_eq hf hn
          simp [attempts, Conn.flip, hin, Payload.isConnect] at this
    | recvConnect _ hfin hslot =>
        right
        have hzero := h.attempts_eq hfin hslot
        simp only [attempts, hin, List.countP_cons] at hzero
        have hout : c.out = [] := nil_of_counts h.out (by omega) (by omega)
        have hnil : rest = [] := nil_of_counts hrest (by omega) (by omega)
        exact ⟨port, host, hfin, hout, hnil, by omega, by omega, hlog, hlog', hslot', rfl,
          by simp [hst]⟩

end Conn

end Penguin.Mux
