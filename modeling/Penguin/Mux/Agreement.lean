import Penguin.Mux.Callers
import Penguin.Mux.Credit

/-!
Two ends that open streams agree on them.

Both users may ask for any number of streams, with the same id at the same time, and the slot of
a call is inserted before its `Connect` is queued. While nothing is closed, an id is drawn again
only if no stream has it, so that every flow is used once. What is left to show is who has got
the handles, and that nobody waits for an answer that is not coming.
-/

namespace Penguin.Mux

open View Penguin.Lib.Transition

/-- No step starts a task again or takes a handle away. -/
lemma View.Step.of_running {o : Options} {V V' : View} {ev : Ev} {sent : List Payload}
    (h : View.Step o V ev sent V') (hrun : V'.running = true) (hnil : V'.streams = []) :
    V.running = true ∧ V.streams = [] := by
  have hclose : V.close.streams = [] → V.streams = [] := by
    unfold View.close
    split <;> simp
  have hset : ∀ {i m}, (V.setStream i m).streams = [] → V.streams = [] := by
    simp
  cases h with
  | windDown => cases hrun
  | dropped => exact ⟨hrun, hclose hnil⟩
  | drain => exact ⟨hrun, hclose hnil⟩
  | recvReset => exact ⟨hrun, hclose hnil⟩
  | recvPushFull => exact ⟨hrun, hclose hnil⟩
  | recvConnect => simp at hnil
  | recvAckNew => simp at hnil
  | recvAck => exact ⟨hrun, by simpa using hnil⟩
  | write => exact ⟨hrun, hset hnil⟩
  | writeFails => exact ⟨hrun, hset hnil⟩
  | shutdown => exact ⟨hrun, hset hnil⟩
  | dequeue => exact ⟨hrun, hset hnil⟩
  | dequeueAck => exact ⟨hrun, hset hnil⟩
  | consume => exact ⟨hrun, hset hnil⟩
  | drop => exact ⟨hrun, hset hnil⟩
  | recvPush => exact ⟨hrun, hset hnil⟩
  | _ => exact ⟨hrun, hnil⟩

/-! ### A call that waits will be answered -/

namespace Conn

/-- While no stream has been accepted, a reserved slot waits for a `Connect` that is not queued,
or for the answer to it. -/
def Waits (c : Conn) : Prop :=
  c.me.running = true → c.peer.running = true → ¬ InUse c →
    (∃ j, c.me.slot = some (.requested j)) → 1 ≤ c.attempts

/-- Steps of an end whose flow stays opening: its attempts go on, and so do those of the peer. -/
lemma Opening.attempts_step {c c' : Conn} {ev : Ev} (ho : Opening c) (ho' : Opening c.flip)
    (hme : c.me.Phases) (hok : UsedOnce c ev) (hs : Step c ev c') (hrun : c'.me.running = true)
    (hnil : c'.me.streams = []) :
    ((∃ j, c'.me.slot = some (.requested j)) →
      1 ≤ c'.attempts ∨ (∃ j, c.me.slot = some (.requested j)) ∧ c.attempts ≤ c'.attempts) ∧
    c.flip.attempts ≤ c'.flip.attempts := by
  have hst := ho.streams
  have nostream : ∀ {i : ℕ} {m : MuxStream}, c.me.streams[i]? ≠ some m := by simp [hst]
  cases hs with
  | own hev h =>
      have hrun' := (h.of_running hrun hnil).1
      have htx := hme.open_of_running hrun'
      cases h with
      | request j hslot =>
          refine ⟨fun _ => .inl ?_, le_of_eq ?_⟩
          · simp only [attempts, htx, Bool.toNat_true]
            omega
          · simp [attempts, Conn.flip]
      | bindRequest => exact hok.elim
      | connect host port hun =>
          refine ⟨fun _ => .inl ?_, le_of_eq ?_⟩
          · simp [attempts, Payload.isConnect]
            omega
          · simp [attempts, Conn.flip, Payload.isReset]
      | bind p hun => exact absurd hme.bindUnsent hun.ne'
      | write _ hm => exact absurd hm nostream
      | writeFails hm => exact absurd hm nostream
      | shutdown hm => exact absurd hm nostream
      | dequeue hm => exact absurd hm nostream
      | dequeueAck hm => exact absurd hm nostream
      | consume _ hm => exact absurd hm nostream
      | drop _ hm => exact absurd hm nostream
      | reply _ hb => exact absurd hme.binds hb.ne'
      | dropBind hb => exact absurd hme.binds hb.ne'
      | dropped hdrops => simp [ho.drops] at hdrops
      | windDown => cases hrun
      | closeQueue hdown => simp [hrun'] at hdown
      | drain hdown => simp [hrun'] at hdown
      | finish hdown => simp [hrun'] at hdown
      | _ => exact absurd rfl (hev _)
  | @recv p rest sent V hin h =>
      have hrun' := (h.of_running hrun hnil).1
      have htx := hme.open_of_running hrun'
      rcases ho'.out p (by simp [Conn.flip, hin]) with rfl | ⟨port, host, rfl⟩
      · cases h with
        | recvReset =>
            refine ⟨by simp, ?_⟩
            simp [attempts, Conn.flip, hin, Payload.isConnect]
      · cases h with
        | recvConnectUsed =>
            refine ⟨fun hslot => .inr ⟨hslot, ?_⟩, ?_⟩
            · simp [attempts, hin, Payload.isReset, countP_sends (V := c.me) (p := .reset)
                (q := Payload.isConnect) rfl]
            · have hsends : c.me.sends .reset = [.reset] := if_pos htx
              change c.peer.unsent + c.inn.countP Payload.isConnect + c.out.countP Payload.isReset ≤
                c.peer.unsent + rest.countP Payload.isConnect +
                  (c.out ++ c.me.sends .reset).countP Payload.isReset
              rw [hin, hsends, List.countP_cons_of_pos rfl, List.countP_append]
              simp [Payload.isReset]
              omega
        | recvConnect => simp at hnil

lemma Waits.step {c c' : Conn} {ev : Ev} (hc : Handshake c) (hok : UsedOnce c ev) (h : Waits c)
    (h' : Waits c.flip) (hs : Step c ev c') : Waits c' ∧ Waits c'.flip := by
  have hpeer : c'.peer = c.peer := by cases hs <;> rfl
  -- what holds of the flow before the step, if it is still unused after it
  have before : c'.me.running = true → ¬ InUse c' →
      c.me.running = true ∧ ¬ InUse c ∧ Opening c ∧ Opening c.flip := by
    intro hrun hnot
    obtain ⟨hnil, hnil'⟩ := not_inUse_iff.mp hnot
    obtain ⟨hrun₀, hnil₀⟩ : c.me.running = true ∧ c.me.streams = [] := by
      cases hs with
      | own hev hstep => exact hstep.of_running hrun hnil
      | recv hin hstep => exact hstep.of_running hrun hnil
    rw [hpeer] at hnil'
    have hnot₀ := not_inUse_iff.mpr ⟨hnil₀, hnil'⟩
    exact ⟨hrun₀, hnot₀, hc.stage.resolve_right fun hst => hnot₀ hst.1⟩
  constructor
  · intro hrun hrun' hnot hslot
    obtain ⟨hrun₀, hnot₀, ho, ho'⟩ := before hrun hnot
    rw [hpeer] at hrun'
    rcases (ho.attempts_step ho' hc.me hok hs hrun (not_inUse_iff.mp hnot).1).1 hslot with
      hone | ⟨hslot₀, hle⟩
    · exact hone
    · exact (h hrun₀ hrun' hnot₀ hslot₀).trans hle
  · intro hrun' hrun hnot hslot
    have hnot' : ¬ InUse c' := fun huse => hnot (Or.symm huse)
    obtain ⟨hrun₀, hnot₀, ho, ho'⟩ := before hrun hnot'
    have hrun₀' : c.peer.running = true := by rwa [← hpeer]
    have hslot₀ : ∃ j, c.peer.slot = some (.requested j) := by rwa [← hpeer]
    exact (h' hrun₀' hrun₀ (fun huse => hnot₀ (Or.symm huse)) hslot₀).trans
      (ho.attempts_step ho' hc.me hok hs hrun (not_inUse_iff.mp hnot').1).2

lemma waits_new (o o' : Options) : Waits (new o o') := by
  rintro - - - ⟨j, hj⟩
  simp [new, View.new] at hj

end Conn

/-! ### Runs in which streams are opened -/

/-- A slot of the flow is established. -/
def Endpoint.Established (E : Endpoint) (x : UInt32) : Prop :=
  ∃ d, E.flows x = some (.established d)

namespace System

/-- Streams are opened and used; none is dropped and no call is cancelled. -/
def Undisturbed (_ : System) : Label → Prop
  | .act _ a => a.Undisturbing
  | .deliver _ => True

/-- No frame is queued or in flight, and no caller is between inserting its slot and queueing
its `Connect`. -/
structure Delivered (s : System) : Prop where
  queued : ∀ e, (s.ep e).txFrames = []
  inFlight : ∀ e bytes, .binary bytes ∉ s.link e
  calls : ∀ e x, ∀ c ∈ (s.ep e).calls x, c.stage ≠ .inserted

/-- Who has been given the streams of the flow: nobody, or one end for
`accept_stream_channel` and at most one caller at the other. -/
def Shared (s : System) (x : UInt32) : Prop :=
  (∀ e, (s.ep e).Unused x) ∨
    ∃ e, (s.ep e).Accepted x ∧ ((s.ep e.peer).Unused x ∨ (s.ep e.peer).Opened x)

/-- What holds of two ends between which streams are opened. -/
structure Agreed (s : System) : Prop where
  calm : ∀ e, (s.ep e).Calm
  links : ∀ e, ∀ msg ∈ s.link e, msg.Good
  shared : ∀ x, s.Shared x

variable {opts : Side → Options} {x : UInt32} {s s' : System}

lemma agreed_new (opts : Side → Options) : (new opts).Agreed where
  calm e := Endpoint.calm_new (opts e)
  links := by simp [new]
  shared x := .inl fun e => Endpoint.unused_new (opts e) x

lemma Agreed.alive (h : s.Agreed) (x : UInt32) : s.Alive x :=
  fun e => ⟨(h.calm e).running, (h.calm e).streams x⟩

lemma Shared.unused (h : s.Shared x) {e : Side} (hnil : (s.ep e).streams x = []) :
    (s.ep e).Unused x := by
  rcases h with hall | ⟨e', hacc, hother⟩
  · exact hall e
  · rcases e'.eq_or_eq_peer e with rfl | rfl
    · exact absurd hnil hacc.streams
    · exact hother.resolve_right fun ho => ho.streams hnil

lemma Shared.keeps (h : s.Shared x) (hk : ∀ e, Endpoint.Keeps (s.ep e) (s'.ep e) x) :
    s'.Shared x := by
  rcases h with hall | ⟨e, hacc, hother⟩
  · exact .inl fun e => (hk e).unused (hall e)
  · exact .inr ⟨e, (hk e).accepted hacc, hother.imp (hk e.peer).unused (hk e.peer).opened⟩

lemma Agreed.slot_ne_none (h : s.Agreed) (hreach : Reach step (UsedOnce x) (new opts) s)
    {e : Side} (huse : (s.conn x e).InUse) : (s.ep e).flows x ≠ none := by
  obtain ⟨hc, hflow⟩ := flowing hreach e
  have hlive := (h.alive x).live e
  exact ((hflow huse).1.steady hlive).slot_ne_none (hc.used huse).1 hc.me hc.peer hlive

lemma Agreed.unused_of_available (h : s.Agreed) (hreach : Reach step (UsedOnce x) (new opts) s)
    {e : Side} (hkey : (s.ep e).keyAvailable x = true) (e' : Side) :
    (s.ep e').streams x = [] := by
  have hnone : (s.ep e).flows x = none := by
    simp only [Endpoint.keyAvailable, Bool.and_eq_true, Option.isNone_iff_eq_none] at hkey
    exact hkey.2
  have hnot : ¬ (s.conn x e).InUse := fun huse => h.slot_ne_none hreach huse hnone
  obtain ⟨hnil, hnil'⟩ := Conn.not_inUse_iff.mp hnot
  rcases e.eq_or_eq_peer e' with rfl | rfl
  · exact hnil
  · exact hnil'

lemma Agreed.inn_of_requested (h : s.Agreed) (hreach : Reach step (UsedOnce x) (new opts) s)
    {e : Side} {p : Payload} {rest : List Payload} (hin : (s.conn x e).inn = p :: rest) {j : ℕ}
    (hslot : (s.ep e).flows x = some (.requested j)) :
    p = .reset ∨ p.isConnect = true ∨
      (p = .acknowledge (opts e.peer).rwnd ∧ (s.ep e).streams x = [] ∧ (s.conn x e).InUse) := by
  obtain ⟨hc, -⟩ := flowing hreach e
  have hlive := (h.alive x).live e
  rcases hc.stage with ⟨-, ho⟩ | ⟨huse, hu, -⟩
  · rcases ho.out p (by simp [Conn.flip, hin]) with rfl | ⟨port, host, rfl⟩
    · exact .inl rfl
    · exact .inr (.inl rfl)
  · have hnil := hu.requested j hslot
    obtain ⟨-, hfin | ⟨k, rest', -, hin'⟩ | ⟨hclosed, -⟩⟩ := hu.waiting hnil
    · simp [hc.me.not_finished hlive.me] at hfin
    · obtain ⟨rfl, -⟩ := List.cons.inj (hin.symm.trans hin')
      refine .inr (.inr ⟨?_, hnil, huse⟩)
      change Payload.acknowledge (s.ep e.peer).opts.rwnd = _
      rw [opts_reach hreach]
    · simp [hc.peer.open_of_running hlive.peer] at hclosed

lemma rwnd_of_connect (hreach : Reach step (UsedOnce x) (new opts) s) {e : Side}
    {p : ConnectPayload} {rest : List Payload} (hin : (s.conn x e).inn = .connect p :: rest) :
    p.rwnd = (opts e.peer).rwnd := by
  obtain ⟨hc, -⟩ := flowing hreach e
  rcases hc.stage with ⟨-, ho⟩ | ⟨-, -, hu⟩
  · rcases ho.out (.connect p) (by simp [Conn.flip, hin]) with hp | ⟨port, host, hp⟩
    · cases hp
    · obtain rfl := Payload.connect.inj hp
      change (s.ep e.peer).opts.rwnd = _
      rw [opts_reach hreach]
  · have := (hu.out (.connect p) (by simp [Conn.flip, hin])).1
    simp [Payload.isConnect] at this

lemma Agreed.usedOnce (h : s.Agreed) (hreach : Reach step (UsedOnce x) (new opts) s) {l : Label}
    (hl : s.Undisturbed l) (hs : s.step l = some s') : UsedOnce x s l := by
  cases l with
  | deliver e => trivial
  | act e a =>
      cases a with
      | newStreamChannel id host port =>
          rintro rfl
          refine h.unused_of_available hreach (e := e) ?_
          by_contra hkey
          simp [step, Endpoint.act, Endpoint.newStreamChannel, hkey] at hs
      | retryStream id j id' =>
          rintro rfl
          refine h.unused_of_available hreach (e := e) ?_
          by_contra hkey
          simp only [step, Endpoint.act, Endpoint.retryStream] at hs
          split at hs <;> simp [hkey] at hs
      | requestBind => exact False.elim hl
      | _ => trivial

/-- What a message does to one flow: it hands a stream over at the end that reads it, it gives
the stream to the caller there, or it leaves everything with those who have it. -/
lemma Agreed.shared_recv (h : s.Agreed) (hreach : Reach System.step (UsedOnce x) (new opts) s)
    {e : Side} {msg : Message} {rest : List Message} {E : Endpoint}
    (hlink : s.link e.peer = msg :: rest) (hep : ∀ e', s'.ep e' = Function.update s.ep e E e')
    (hall : Endpoint.Keeps (s.ep e) E x ∨
      ((∃ p, msg.onFlow x = some (.connect p) ∧ Endpoint.Grants (s.ep e) E x p.rwnd) ∧
        (s.ep e).flows x = none ∧ ((s.ep e).Unused x → E.Accepted x)) ∨
      ((∃ n, msg.onFlow x = some (.acknowledge n) ∧ Endpoint.Grants (s.ep e) E x n) ∧
        (∃ j, (s.ep e).flows x = some (.requested j)) ∧ ((s.ep e).Unused x → E.Opened x))) :
    s'.Shared x ∧ ((s.ep e).streams x = [] → ∀ m ∈ E.streams x,
      m.pshSendRemaining = (opts e.peer).rwnd) := by
  have hin : ∀ {p}, msg.onFlow x = some p → (s.conn x e).inn =
      p :: (rest.filterMap (Message.onFlow x) ++ (s.ep e.peer).queue x) := by
    intro p hp
    simp [conn, wire, hlink, hp]
  have hself : s'.ep e = E := by simp [hep]
  have hpeer : s'.ep e.peer = s.ep e.peer := by simp [hep, Function.update_of_ne e.peer_ne]
  have granted : ∀ {n}, Endpoint.Grants (s.ep e) E x n → n = (opts e.peer).rwnd →
      (s.ep e).streams x = [] → ∀ m ∈ E.streams x, m.pshSendRemaining = (opts e.peer).rwnd := by
    rintro n hg rfl hnil m hm
    exact (hg m hm).resolve_left (by simp [hnil])
  rcases hall with hk | ⟨⟨p, hp, hg⟩, hnone, hacc⟩ | ⟨⟨n, hn, hg⟩, ⟨j, hj⟩, hopened⟩
  · refine ⟨(h.shared x).keeps fun e' => ?_, fun hnil m hm => ?_⟩
    · rcases e.eq_or_eq_peer e' with rfl | rfl
      · rwa [hself]
      · rw [hpeer]
        exact (Endpoint.Neutral.refl _).keeps x
    · have hnil' := (hk.unused ((h.shared x).unused hnil)).streams
      simp [hnil'] at hm
  · -- the slot was free, so neither end had a handle
    have hnot : ¬ (s.conn x e).InUse := fun huse => h.slot_ne_none hreach huse hnone
    obtain ⟨hnil, hnil'⟩ := Conn.not_inUse_iff.mp hnot
    refine ⟨.inr ⟨e, ?_, .inl ?_⟩, granted hg (rwnd_of_connect hreach (hin hp))⟩
    · rw [hself]
      exact hacc ((h.shared x).unused hnil)
    · rw [hpeer]
      exact (h.shared x).unused hnil'
  · -- the stream has been accepted at the other end
    obtain ⟨hrwnd, hnil, huse⟩ : n = (opts e.peer).rwnd ∧ (s.ep e).streams x = [] ∧
        (s.conn x e).InUse := by
      rcases h.inn_of_requested hreach (hin hn) hj with hp | hp | ⟨hp, hrest⟩
      · cases hp
      · simp [Payload.isConnect] at hp
      · exact ⟨Payload.acknowledge.inj hp, hrest⟩
    refine ⟨.inr ⟨e.peer, ?_, .inr ?_⟩, granted hg hrwnd⟩
    · rw [hpeer]
      rcases h.shared x with hun | ⟨e', hacc, -⟩
      · exact absurd ⟨hnil, (hun e.peer).streams⟩ (fun hnot => Conn.not_inUse_iff.mpr hnot huse)
      · rcases e.eq_or_eq_peer e' with rfl | rfl
        · exact absurd hnil hacc.streams
        · exact hacc
    · rw [Side.peer_peer, hself]
      exact hopened ((h.shared x).unused hnil)

/-- A step of the run keeps the agreement, and a handle that is new starts with the window of
the peer. -/
lemma Agreed.step (h : s.Agreed) (hreach : ∀ x, Reach System.step (UsedOnce x) (new opts) s)
    {l : Label} (hl : s.Undisturbed l) (hs : s.step l = some s') :
    s'.Agreed ∧ ∀ e x, (s.ep e).streams x = [] → ∀ m ∈ (s'.ep e).streams x,
      m.pshSendRemaining = (opts e.peer).rwnd := by
  -- if the part of every flow is the same at both ends, there are no new handles
  have kept : (∀ e x, Endpoint.Keeps (s.ep e) (s'.ep e) x) → ∀ e x, (s.ep e).streams x = [] →
      ∀ m ∈ (s'.ep e).streams x, m.pshSendRemaining = (opts e.peer).rwnd := by
    intro hk e x hnil m hm
    have hnil' := ((hk e x).unused ((h.shared x).unused hnil)).streams
    simp [hnil'] at hm
  cases l with
  | act e a =>
      obtain ⟨⟨E, out⟩, hact, rfl⟩ := Option.map_eq_some_iff.mp hs
      obtain ⟨hcalm, hkeeps, hgood⟩ := Endpoint.calm_act (h.calm e) hl hact
      have hk : ∀ e' x, Endpoint.Keeps (s.ep e') (Function.update s.ep e E e') x := by
        intro e' x
        by_cases he : e' = e
        · subst he
          rw [Function.update_self]
          exact hkeeps x
        · rw [Function.update_of_ne he]
          exact (Endpoint.Neutral.refl _).keeps x
      refine ⟨⟨fun e' => ?_, fun e' msg hmsg => ?_, fun x => (h.shared x).keeps fun e' => hk e' x⟩,
        kept hk⟩
      · by_cases he : e' = e
        · subst he
          simpa using hcalm
        · simpa [Function.update_of_ne he] using h.calm e'
      · by_cases he : e' = e
        · subst he
          simp only [Function.update_self, List.mem_append] at hmsg
          exact hmsg.elim (h.links e' msg) (hgood msg)
        · simp only [Function.update_of_ne he] at hmsg
          exact h.links e' msg hmsg
  | deliver e =>
      simp only [System.step] at hs
      split at hs
      case h_2 => cases hs
      case h_1 msg rest hlink =>
        obtain ⟨E, hrecv, hs'⟩ := Option.map_eq_some_iff.mp hs
        have hep : s'.ep = Function.update s.ep e E := by rw [← hs']
        have hlinks : s'.link = Function.update s.link e.peer rest := by rw [← hs']
        have hfin : ∀ x, msg.onFlow x = some .finish → ∀ j,
            (s.ep e).flows x ≠ some (.requested j) := by
          intro x hx j hj
          have hin : (s.conn x e).inn = .finish :: (rest.filterMap (Message.onFlow x) ++
              (s.ep e.peer).queue x) := by
            simp [conn, wire, hlink, hx]
          have := h.inn_of_requested (hreach x) hin hj
          simp [Payload.isConnect] at this
        obtain ⟨hcalm, hall⟩ := Endpoint.calm_recv (h.calm e) (h.links e.peer msg (by simp [hlink]))
          hfin hrecv
        have hflow := fun x => h.shared_recv (hreach x) hlink (congrFun hep) (hall x)
        refine ⟨⟨fun e' => ?_, fun e' msg' hmsg => ?_, fun x => (hflow x).1⟩, fun e' x hnil m hm => ?_⟩
        · by_cases he : e' = e
          · subst he
            simpa [hep] using hcalm
          · simpa [hep, Function.update_of_ne he] using h.calm e'
        · by_cases he : e' = e.peer
          · subst he
            simp only [hlinks, Function.update_self] at hmsg
            exact h.links e.peer msg' (by simp [hlink, hmsg])
          · simp only [hlinks, Function.update_of_ne he] at hmsg
            exact h.links e' msg' hmsg
        · by_cases he : e' = e
          · subst he
            exact (hflow x).2 hnil m (by simpa [hep] using hm)
          · simp [hep, Function.update_of_ne he, hnil] at hm

lemma agreed (h : Reach System.step Undisturbed (new opts) s) :
    s.Agreed ∧ ∀ x, Reach System.step (UsedOnce x) (new opts) s := by
  induction h with
  | start => exact ⟨agreed_new opts, fun _ => .start⟩
  | next _ hok hs ih =>
      exact ⟨(ih.1.step ih.2 hok hs).1, fun x => .next (ih.2 x) (ih.1.usedOnce (ih.2 x) hok hs) hs⟩

lemma waits (h : Reach System.step (UsedOnce x) (new opts) s) (e : Side) : (s.conn x e).Waits := by
  refine (conn_invariant (I := fun c => c.Handshake ∧ c.Waits ∧ c.flip.Waits) x ?_ ?_ ?_
    (fun _ => trivial) (fun _ _ => trivial) (fun s e a => UsedOnce.conn) h e).2.1
  · rintro c ⟨hc, hw, hw'⟩
    refine ⟨hc.flip, hw', ?_⟩
    rwa [Conn.flip_flip]
  · exact fun o o' => ⟨Conn.handshake_new o o', Conn.waits_new o o', Conn.waits_new o' o⟩
  · rintro c ev c' ⟨hc, hw, hw'⟩ hok hs
    exact ⟨(hc.step hok hs).1, hw.step hc hok hw' hs⟩

lemma Delivered.wire (h : s.Delivered) (x : UInt32) (e : Side) : s.wire x e = [] := by
  have hlink : (s.link e).filterMap (Message.onFlow x) = [] := by
    rw [List.filterMap_eq_nil_iff]
    intro msg hmsg
    cases msg with
    | binary bytes => exact absurd hmsg (h.inFlight e bytes)
    | _ => rfl
  simp [System.wire, hlink, Endpoint.queue, h.queued e]

lemma Delivered.unsent (h : s.Delivered) (x : UInt32) (e : Side) : ((s.ep e).view x).unsent = 0 := by
  have hzero : ((s.ep e).calls x).countP (·.stage.isInserted) = 0 := by
    rw [List.countP_eq_zero]
    intro c hc hins
    refine h.calls e x c hc ?_
    cases hst : c.stage <;> simp [hst, Stage.isInserted] at hins ⊢
  simp [Endpoint.view, hzero]

lemma Delivered.settled (hq : s.Delivered) (h : s.Agreed)
    (hreach : Reach System.step (UsedOnce x) (new opts) s) :
    (∀ e, (s.ep e).flows x = none ∧ (s.ep e).streams x = []) ∨
      ∀ e, (s.ep e).Established x ∧ ((s.ep e).streams x).length = 1 := by
  have hin : ∀ e, (s.conn x e).inn = [] := fun e => hq.wire x e.peer
  by_cases huse : ∃ e, (s.conn x e).InUse
  · right
    intro e
    have huse' : (s.conn x e).InUse := by
      obtain ⟨e', he'⟩ := huse
      rcases e.eq_or_eq_peer e' with rfl | rfl
      · exact he'
      · rw [← flip_conn] at he'
        exact Or.symm he'
    obtain ⟨hc, hflow⟩ := flowing hreach e
    have hlive := (h.alive x).live e
    have hu := (hc.used huse').1
    -- an end without a handle would wait for an acknowledgement that is on its way
    have hne : (s.ep e).streams x ≠ [] := by
      intro hnil
      obtain ⟨-, hfin | ⟨k, rest', -, hin'⟩ | ⟨hclosed, -⟩⟩ := hu.waiting hnil
      · simp [hc.me.not_finished hlive.me] at hfin
      · simp [hin e] at hin'
      · simp [hc.peer.open_of_running hlive.peer] at hclosed
    obtain ⟨b, hb⟩ := ((hflow huse').1.steady hlive).slot hne
    have hpos := List.length_pos_iff.mpr hne
    have hle := length_streams_le hreach e
    exact ⟨⟨_, hb⟩, by omega⟩
  · left
    intro e
    have hnot : ¬ (s.conn x e).InUse := fun h => huse ⟨e, h⟩
    have hc := (flowing hreach e).1
    have ho := (hc.stage.resolve_right fun hst => hnot hst.1).1
    have hlive := (h.alive x).live e
    refine ⟨ho.slot.resolve_right fun hslot => ?_, ho.streams⟩
    have hone := waits hreach e hlive.me hlive.peer hnot hslot
    have hzero : (s.conn x e).attempts = 0 := by
      have hout : (s.conn x e).out = [] := hq.wire x e
      have hun : (s.conn x e).me.unsent = 0 := hq.unsent x e
      simp [Conn.attempts, hin e, hout, hun]
    omega

/-- **Agreement under simultaneous open**: two users open any number of streams, possibly with the
same id at the same time. When no frame is queued or in flight and no caller is about to queue
its `Connect`, the same ids are established at both ends. Each of them has been given to one
caller at one end and has been handed over once at the other, and every other request has been
told `None` and has no slot. Every handle starts with the window of the other end. -/
theorem handshake_agreement (h : Reach System.step Undisturbed (new opts) s) :
    (s.Delivered →
      (∀ x, (s.ep .a).Established x ↔ (s.ep .b).Established x) ∧
      (∀ x e, (s.ep e).Established x → (∀ e', ((s.ep e').streams x).length = 1) ∧
        ∃ e', (s.ep e').Opened x ∧ (s.ep e'.peer).Accepted x) ∧
      (∀ e x (j : ℕ) c, ((s.ep e).calls x)[j]? = some c →
        (c.reply = some (some 0) ∧ (s.ep e).Established x) ∨
        (c.reply = some none ∧ ∀ k, (s.ep e).flows x ≠ some (.requested k)))) ∧
    ∀ l s', s.Undisturbed l → s.step l = some s' → ∀ e x, (s.ep e).streams x = [] →
      ∀ m ∈ (s'.ep e).streams x, m.pshSendRemaining = (opts e.peer).rwnd := by
  obtain ⟨hag, hreach⟩ := agreed h
  refine ⟨fun hq => ⟨fun x => ?_, fun x e hest => ?_, fun e x j c hc => ?_⟩,
    fun l s' hl hs => (hag.step hreach hl hs).2⟩
  · rcases hq.settled hag (hreach x) with hnone | hest
    · simp [Endpoint.Established, hnone]
    · exact iff_of_true (hest .a).1 (hest .b).1
  · have hlen : ∀ e', ((s.ep e').streams x).length = 1 := by
      rcases hq.settled hag (hreach x) with hnone | hall
      · obtain ⟨d, hd⟩ := hest
        simp [(hnone e).1] at hd
      · exact fun e' => (hall e').2
    refine ⟨hlen, ?_⟩
    have hused : ∀ e', ¬ (s.ep e').Unused x := by
      intro e' hun
      have := hlen e'
      simp [hun.streams] at this
    rcases hag.shared x with hun | ⟨e', hacc, hun | hopened⟩
    · exact absurd (hun .a) (hused .a)
    · exact absurd hun (hused e'.peer)
    · exact ⟨e'.peer, hopened, by rwa [Side.peer_peer]⟩
  · have hfree : ∀ k, (s.ep e).flows x ≠ some (.requested k) := by
      intro k hk
      rcases hq.settled hag (hreach x) with hnone | hest
      · simp [(hnone e).1] at hk
      · obtain ⟨d, hd⟩ := (hest e).1
        simp [hd] at hk
    have hsome : c.reply ≠ none := fun hnone =>
      hfree j (((hag.calm e).calls x j c hc).1.mp hnone)
    obtain ⟨r, hr⟩ := Option.ne_none_iff_exists'.mp hsome
    cases r with
    | none => exact .inr ⟨hr, hfree⟩
    | some i =>
        left
        have hjoin : c.reply.join ≠ none := by simp [hr]
        have hmem := List.mem_of_getElem? hc
        -- a caller with a stream is the one the flow has been opened for
        obtain ⟨hopened, hest⟩ : (s.ep e).Opened x ∧ (s.ep e).Established x := by
          have hopened : (s.ep e).Opened x := by
            rcases hag.shared x with hun | ⟨e', hacc, hother⟩
            · exact absurd ((hun e).calls c hmem) hjoin
            · rcases e'.eq_or_eq_peer e with rfl | rfl
              · exact absurd (hacc.calls c hmem) hjoin
              · exact hother.resolve_left fun hun => hjoin (hun.calls c hmem)
          rcases hq.settled hag (hreach x) with hnone | hest
          · exact absurd (hnone e).2 hopened.streams
          · exact ⟨hopened, (hest e).1⟩
        obtain ⟨k, c', hk, hzero, huniq⟩ := hopened.call
        obtain rfl := huniq j c hc hjoin
        obtain rfl : c = c' := by simpa [hc] using hk
        exact ⟨hzero, hest⟩

lemma unsent_of_not_drawn {okSystem : System → Label → Prop}
    (hok : ∀ s e a, okSystem s (.act e a) → a.event x ≠ .request)
    (h : Reach System.step okSystem (new opts) s) (e : Side) : ((s.ep e).view x).unsent = 0 := by
  refine (conn_invariant (I := fun c => c.me.unsent = 0 ∧ c.peer.unsent = 0)
    (K := fun _ ev => ev ≠ .request) x (fun _ h => h.symm) (fun _ _ => ⟨rfl, rfl⟩) ?_ (by simp)
    (by simp) hok h e).1
  rintro c ev c' ⟨hun, hun'⟩ hev hs
  have hview : ∀ {sent V}, View.Step c.opts c.me ev sent V → V.unsent = 0 := by
    intro sent V hs
    cases hs with
    | request => exact absurd rfl hev
    | connect host port hpos => omega
    | closeQueue => rfl
    | _ => exact hun
  cases hs with
  | own _ hs => exact ⟨hview hs, hun'⟩
  | recv _ hs => exact ⟨hview hs, hun'⟩

/-- Both users draw id 1. The `Connect` of side `b` arrives before side `a` has queued its own,
and is rejected; the one of side `a` follows the rejection and is accepted. -/
def crossRun : List Label :=
  [.act .a (.newStreamChannel 1 [] 0), .act .b (.newStreamChannel 1 [] 0),
    .act .b (.sendConnect 1 0), .act .b .sendFrame, .deliver .a, .act .a (.sendConnect 1 0),
    .act .a .sendFrame, .act .a .sendFrame, .deliver .b, .deliver .b, .act .b .sendFrame,
    .deliver .a]

/-- The ends agree on the one stream of this run, and side `b` has been told `None`. -/
theorem handshake_agreement_cross : ∃ s,
    run System.step (new fun _ => Options.new) crossRun = some s ∧ s.Delivered ∧
    (s.ep .a).Established 1 ∧ (s.ep .b).Established 1 ∧
    (∃ e, (s.ep e).Opened 1 ∧ (s.ep e.peer).Accepted 1) ∧
    ((s.ep .b).calls 1)[0]?.map (·.reply) = some (some none) := by
  have hcheck : (run System.step (new fun _ => Options.new) crossRun).any (fun s =>
      (s.ep .a).txFrames = [] ∧ (s.ep .b).txFrames = [] ∧ s.link .a = [] ∧ s.link .b = [] ∧
      ((s.ep .a).calls 1).all (·.stage ≠ .inserted) ∧
      ((s.ep .b).calls 1).all (·.stage ≠ .inserted) ∧
      (s.ep .a).flows 1 = some (.established ⟨0, true⟩) ∧
      ((s.ep .b).calls 1)[0]?.map (·.reply) = some (some none)) = true := by
    decide +kernel
  obtain ⟨s, hs, hfacts⟩ := (Option.any_eq_true _ _).mp hcheck
  obtain ⟨hqa, hqb, hla, hlb, hca, hcb, hslot, hnone⟩ := of_decide_eq_true hfacts
  have hreach : Reach System.step (fun s l => s.Undisturbed l ∧
      ∀ x ≠ 1, ∀ e a, l = .act e a → a.event x ≠ .request) (new fun _ => Options.new) s := by
    refine reach_of_run hs (runMeets_of_forall ?_ _)
    simp +contextual [crossRun, Undisturbed, Action.Undisturbing, Action.event, ne_comm]
  have hun : Reach System.step Undisturbed (new fun _ => Options.new) s :=
    hreach.mono fun _ _ _ h _ => h.1
  -- only id 1 has been drawn
  have hcalls : ∀ e x, ∀ c ∈ (s.ep e).calls x, c.stage ≠ .inserted := by
    intro e x c hc hst
    by_cases hx : x = 1
    · subst hx
      cases e with
      | a => simpa [hst] using List.all_eq_true.mp hca c hc
      | b => simpa [hst] using List.all_eq_true.mp hcb c hc
    · have hzero := unsent_of_not_drawn (x := x) (fun _ e a h => h.2 x hx e a rfl) hreach e
      have hopen : (s.ep e).txOpen = true := by
        simp [Endpoint.txOpen, ((agreed hun).1.calm e).running, Phase.isOpen]
      simp only [Endpoint.view, hopen, cond_true, List.countP_eq_zero] at hzero
      simpa [hst, Stage.isInserted] using hzero c hc
  have hdelivered : s.Delivered := by
    refine ⟨fun e => ?_, fun e bytes => ?_, hcalls⟩
    · cases e <;> assumption
    · cases e <;> simp [hla, hlb]
  obtain ⟨hsame, hroles, -⟩ := (handshake_agreement hun).1 hdelivered
  have hest : (s.ep .a).Established 1 := ⟨_, hslot⟩
  exact ⟨s, hs, hdelivered, hest, (hsame 1).mp hest, (hroles 1 .a hest).2, hnone⟩

end System

end Penguin.Mux
