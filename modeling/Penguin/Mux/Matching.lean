import Penguin.Mux.Tracing

/-!
Which stream a frame belongs to.

A handle was made for one `Connect`, and what is delivered to it belongs to the same. A request is
answered by the frames that its own `Connect` or `Bind` was answered with. All of it holds as
long as an id is not drawn again before everything of it has been read, and an end that draws too
early can be answered by what was meant for the one before.
-/

namespace Penguin.Mux

open Penguin.Lib.Transition Penguin.Lib.Lists Endpoint Conn

/-- Ids are drawn when nothing is left of them. -/
def System.CleanDraws (s : System) : Label → Prop
  | .act e a => ∀ x, a.event x = .request ∨ a.event x = .bindRequest → (s.conn x e).Vacant
  | .deliver _ => True

namespace Traced

variable {t t' : Traced} {l : Label} {e : Side} {x : UInt32}

/-- A frame of end `e` belongs to the stream of the `Connect` queued for `o`: it acknowledges the
`Connect`, or it was queued by the handle that was made for it. -/
def Belongs (t : Traced) (x : UInt32) (e : Side) (c o : Cause) : Prop :=
  c = .answer o ∨ ∃ a i, c = .own e a ∧ a.stream? = some (x, i) ∧
    i < ((t.sys.ep e).streams x).length ∧ t.connects e x i = some o

/-- The frame that end `e` reads next. -/
def Reads (t : Traced) (e : Side) (x : UInt32) (c : Cause) (p : Payload) : Prop :=
  ∃ data left rest, t.sys.link e.peer = .binary data :: left ∧
    t.wires e.peer = (c, data) :: rest ∧ onFlow x data = some p

/-- In a step requests are answered by the frames that answer them, and streams get the frames
that belong to them. -/
structure Matched (t : Traced) (l : Label) (t' : Traced) : Prop where
  /-- A slot that was requested gets its stream by the acknowledgement of its own `Connect`. -/
  established : ∀ e x j d, (t.sys.ep e).flows x = some (.requested j) →
    (t'.sys.ep e).flows x = some (.established d) →
      l = .deliver e ∧ ∃ n, t.Reads e x (.answer (.own e (.sendConnect x j))) (.acknowledge n)
  /-- What a stream is delivered belongs to the `Connect` that the stream was made for. -/
  delivered : ∀ e x c p d, l = .deliver e → t.Reads e x c p → p.isData = true →
    (t.sys.ep e).flows x = some (.established d) →
      ∃ o, t.connects e x d.stream = some o ∧ t.Belongs x e.peer c o
  /-- A call is told that its bind request was accepted if the user of the peer accepted it. -/
  bound : ∀ e x j b, ((t'.sys.ep e).bindCalls x)[j]? = some b → b.reply = some true →
    (∃ b, ((t.sys.ep e).bindCalls x)[j]? = some b ∧ b.reply = some true) ∨
      (l = .deliver e ∧ ∃ i, t.Reads e x (.own e.peer (.reply x i true)) .finish ∧
        t.binds e.peer x i = some (.own e (.sendBind x j)))

/-! ### Requests -/

/-- The slot of a stream is answered for its own call only. -/
def Asked (t : Traced) (x : UInt32) (e : Side) : Prop :=
  ∀ j, (t.sys.ep e).flows x = some (.requested j) →
    ((t.sys.ep e).txOpen = true → ∀ k c, ((t.sys.ep e).calls x)[k]? = some c →
      c.stage.isInserted = true → k = j) ∧
    ∀ q ∈ t.wire x e, q.2.isConnect = true → q.1 = .own e (.sendConnect x j)

/-- The slot of a bind request is answered for its own call only. -/
structure Bound (t : Traced) (x : UInt32) (e : Side) (j : ℕ) : Prop where
  calls : (t.sys.ep e).txOpen = true → ∀ k c, ((t.sys.ep e).bindCalls x)[k]? = some c →
    c.stage.isInserted = true → k = j
  out : ∀ q ∈ t.wire x e, q.2.isBind = true → q.1 = .own e (.sendBind x j)
  binds : ∀ i b, ((t.sys.ep e.peer).binds x)[i]? = some b → b.dropped = false →
    t.binds e.peer x i = some (.own e (.sendBind x j))
  inn : ∀ q ∈ t.wire x e.peer, q.2 = .finish → ∃ i, q.1 = .own e.peer (.reply x i true) ∧
    i < ((t.sys.ep e.peer).binds x).length ∧ t.binds e.peer x i = some (.own e (.sendBind x j))

/-- A step of an end on its own draws the id when nothing is left of it, or does not draw it. -/
lemma act_run {a : Action} (hclean : t.sys.CleanDraws (.act e a)) (h : t.step (.act e a) = some t')
    (x : UInt32) :
    ∃ ev sent, (Conn.Ownly ev ∨
        (ev = .request ∨ ev = .bindRequest) ∧ (t.sys.conn x e).Vacant) ∧
      View.Run (t.sys.conn x e).opts (t.sys.conn x e).me ev sent (t'.sys.conn x e).me ∧
      t'.sys.conn x e = { t.sys.conn x e with
        me := (t'.sys.conn x e).me, out := (t.sys.conn x e).out ++ sent } := by
  obtain ⟨ev, sent, hev, hrun, heq⟩ := System.act_conn x (step_sys h)
  refine ⟨ev, sent, ?_, hrun, heq⟩
  have hrecv : ∀ p, ev ≠ .recv p := by
    intro p
    rcases hev with rfl | rfl
    · simp
    · cases a <;> simp only [Action.event] <;> (try split_ifs) <;> simp
  by_cases hdraw : ev = .request ∨ ev = .bindRequest
  · rcases hev with rfl | rfl
    · simp at hdraw
    · exact .inr ⟨hdraw, hclean x hdraw⟩
  · exact .inl ⟨hrecv, by simpa using hdraw⟩

lemma not_inserted {E : Endpoint} (h : (E.view x).unsent = 0) (hopen : E.txOpen = true) {k : ℕ}
    {c : StreamCall} (hc : (E.calls x)[k]? = some c) : c.stage.isInserted = false := by
  simp only [view, hopen, cond_true, List.countP_eq_zero] at h
  simpa using h c (List.mem_of_getElem? hc)

lemma bind_not_inserted {E : Endpoint} (h : (E.view x).bindUnsent = 0) (hopen : E.txOpen = true)
    {k : ℕ} {c : BindCall} (hc : (E.bindCalls x)[k]? = some c) : c.stage.isInserted = false := by
  simp only [view, hopen, cond_true, List.countP_eq_zero] at h
  simpa using h c (List.mem_of_getElem? hc)

lemma bind_dropped {E : Endpoint} (h : (E.view x).binds = 0) {i : ℕ} {b : BindRequest}
    (hb : (E.binds x)[i]? = some b) : b.dropped = true := by
  simp only [view, List.countP_eq_zero] at h
  simpa using h b (List.mem_of_getElem? hb)

/-- The frames of a flow, by what they are. -/
lemma forall_wire (hc : t.Consistent) {P : Payload → Prop}
    (h : ∀ p ∈ t.sys.wire x e, P p) : ∀ q ∈ t.wire x e, P q.2 := by
  intro q hq
  refine h q.2 ?_
  rw [← hc.wire]
  exact List.mem_map_of_mem hq

lemma Asked.mono (h : t.Asked x e) (hep : t'.sys.ep e = t.sys.ep e)
    (hwire : ∀ q ∈ t'.wire x e, q ∈ t.wire x e) : t'.Asked x e := by
  intro j hj
  rw [hep] at hj ⊢
  exact ⟨(h j hj).1, fun q hq => (h j hj).2 q (hwire q hq)⟩

lemma Asked.act {a : Action} (h : t.Asked x e) (hc : t.Consistent)
    (hclean : t.sys.CleanDraws (.act e a)) (hstep : t.step (.act e a) = some t') :
    t'.Asked x e := by
  have hact := act_on hstep x
  obtain ⟨new, hwire, hnew⟩ := hact.queues
  obtain ⟨ev, sent, hev, hrun, -⟩ := act_run hclean hstep x
  intro j hj
  rw [hwire]
  -- the calls that can queue a `Connect`, and the `Connect`s that are there, are of the slot
  have hold : ((t.sys.ep e).txOpen = true → ∀ k c, ((t.sys.ep e).calls x)[k]? = some c →
      c.stage.isInserted = true → k = j) ∧
      (∀ q ∈ t.wire x e, q.2.isConnect = true → q.1 = .own e (.sendConnect x j)) := by
    rcases hev with hown | ⟨-, hv⟩
    · exact h j (hrun.kept hown.2 hj (by simp))
    · refine ⟨fun hopen k c hk hins => ?_, fun q hq hconn => ?_⟩
      · simp [not_inserted hv.unsent hopen hk] at hins
      · rcases forall_wire hc hv.out q hq with hp | hp <;> simp [hp, Payload.isConnect] at hconn
  refine ⟨fun hopen k c hk hins => ?_, fun q hq hconn => ?_⟩
  · rcases hact.owes.calls k c hk hins with ⟨c', hk', hins'⟩ | hslot
    · exact hold.1 (hact.txOpen hopen) k c' hk' hins'
    · have : (some (FlowSlot.requested k)) = some (.requested j) := hslot.symm.trans hj
      simpa using this
  · rcases List.mem_append.mp hq with hq | hq
    · exact hold.2 q hq hconn
    · obtain ⟨hopen, hcause, hqueues⟩ := hnew q hq
      obtain ⟨c, p⟩ := q
      cases hqueues with
      | connect r hk hins => rw [hcause, hold.1 hopen _ _ hk hins]
      | data _ _ hp => cases p <;> simp [Payload.isConnect, Payload.isData] at hconn hp
      | _ => simp [Payload.isConnect] at hconn

lemma Asked.recv {head : Option (Cause × Payload)} (h : t.Asked x e)
    (hrecv : RecvOn t e x head t')
    (hkept : ∀ j, (t'.sys.ep e).flows x = some (.requested j) →
      (t.sys.ep e).flows x = some (.requested j)) : t'.Asked x e := by
  obtain ⟨new, hwire, hnew⟩ := hrecv.queues
  intro j hj
  obtain ⟨hcalls, hout⟩ := h j (hkept j hj)
  rw [hwire]
  refine ⟨fun hopen k c hk hins => ?_, fun q hq hconn => ?_⟩
  · obtain ⟨c', hk', hins'⟩ := hrecv.learns.calls k c hk hins
    exact hcalls (hrecv.txOpen hopen) k c' hk' hins'
  · rcases List.mem_append.mp hq with hq | hq
    · exact hout q hq hconn
    · obtain ⟨c, p⟩ := q
      rcases hnew _ hq with hp | ⟨hp, -⟩ <;>
        cases p <;> simp [Payload.isConnect, Payload.isData] at hconn hp

lemma Bound.act {a : Action} {j : ℕ}
    (h : (t.sys.ep e).flows x = some (.bindRequested j) → t.Bound x e j) (hc : t.Consistent)
    (hclean : t.sys.CleanDraws (.act e a)) (hstep : t.step (.act e a) = some t')
    (hj : (t'.sys.ep e).flows x = some (.bindRequested j)) : t'.Bound x e j := by
  have hact := act_on hstep x
  obtain ⟨new, hwire, hnew⟩ := hact.queues
  obtain ⟨ev, sent, hev, hrun, -⟩ := act_run hclean hstep x
  have hold : t.Bound x e j ∨ (t.sys.conn x e).Vacant := by
    rcases hev with hown | ⟨-, hv⟩
    · exact .inl (h (hrun.kept hown.2 hj (by simp)))
    · exact .inr hv
  -- the calls that can queue a `Bind`
  have hcalls : (t.sys.ep e).txOpen = true → ∀ k c, ((t.sys.ep e).bindCalls x)[k]? = some c →
      c.stage.isInserted = true → k = j := by
    intro hopen k c hk hins
    rcases hold with hb | hv
    · exact hb.calls hopen k c hk hins
    · simp [bind_not_inserted hv.bindUnsent hopen hk] at hins
  refine ⟨fun hopen k c hk hins => ?_, fun q hq hbind => ?_, fun i b hi hd => ?_,
    fun q hq hfin => ?_⟩
  · rcases hact.owes.bindCalls k c hk hins with ⟨c', hk', hins'⟩ | hslot
    · exact hcalls (hact.txOpen hopen) k c' hk' hins'
    · have : (some (FlowSlot.bindRequested k)) = some (.bindRequested j) := hslot.symm.trans hj
      simpa using this
  · rw [hwire] at hq
    rcases List.mem_append.mp hq with hq | hq
    · rcases hold with hb | hv
      · exact hb.out q hq hbind
      · rcases forall_wire hc hv.out q hq with hp | hp <;> simp [hp, Payload.isBind] at hbind
    · obtain ⟨hopen, hcause, hqueues⟩ := hnew q hq
      obtain ⟨c, p⟩ := q
      cases hqueues with
      | bind r hk hins => rw [hcause, hcalls hopen _ _ hk hins]
      | data _ _ hp => cases p <;> simp [Payload.isBind, Payload.isData] at hbind hp
      | _ => simp [Payload.isBind] at hbind
  · rw [hact.peer] at hi
    rw [hact.binds]
    rcases hold with hb | hv
    · exact hb.binds i b hi hd
    · simp [bind_dropped hv.binds hi] at hd
  · rw [hact.peer_wire] at hq
    rw [hact.binds, hact.peer]
    rcases hold with hb | hv
    · exact hb.inn q hq hfin
    · have := forall_wire hc hv.inn q hq
      simp [hfin, Payload.isConnect, Payload.isBind] at this

lemma Bound.peer_act {a : Action} {j : ℕ} (h : t.Bound x e.peer j)
    (hgone : ((t.sys.ep e).view x).Gone) (hact : ActOn t e a x t') : t'.Bound x e.peer j := by
  obtain ⟨new, hwire, hnew⟩ := hact.queues
  have hinn := h.inn
  have hbinds := h.binds
  rw [e.peer_peer] at hinn hbinds
  refine ⟨?_, ?_, fun i b hi hd => ?_, fun q hq hfin => ?_⟩
  · rw [hact.peer]
    exact h.calls
  · rw [hact.peer_wire]
    exact h.out
  · rw [e.peer_peer] at hi ⊢
    rw [hact.binds]
    obtain ⟨b', hi', hd'⟩ := hact.owes.binds i b hi hd
    exact hbinds i b' hi' hd'
  · rw [e.peer_peer] at hq ⊢
    rw [hwire] at hq
    rw [hact.binds]
    rcases List.mem_append.mp hq with hq | hq
    · obtain ⟨i, hcause, hlt, hi⟩ := hinn q hq hfin
      exact ⟨i, hcause, hlt.trans_le hact.grows, hi⟩
    · obtain ⟨-, hcause, hqueues⟩ := hnew q hq
      obtain ⟨c, p⟩ := q
      obtain rfl : p = .finish := hfin
      cases hqueues with
      | data _ _ hp => cases hp
      | shutdown hlive => exact absurd hlive (hgone _)
      | accept hb hd =>
          refine ⟨_, hcause, ?_, hbinds _ _ hb hd⟩
          exact (List.getElem?_eq_some_iff.mp hb).1.trans_le hact.grows

lemma Bound.recv {head : Option (Cause × Payload)} {j : ℕ} (h : t.Bound x e j)
    (hrecv : RecvOn t e x head t') : t'.Bound x e j := by
  obtain ⟨new, hwire, hnew⟩ := hrecv.queues
  have hbinds : ∀ i, t'.binds e.peer x i = t.binds e.peer x i := fun i =>
    hrecv.binds e.peer i fun he => absurd he e.peer_ne
  refine ⟨fun hopen k c hk hins => ?_, fun q hq hbind => ?_, fun i b hi hd => ?_,
    fun q hq hfin => ?_⟩
  · obtain ⟨c', hk', hins'⟩ := hrecv.learns.bindCalls k c hk hins
    exact h.calls (hrecv.txOpen hopen) k c' hk' hins'
  · rw [hwire] at hq
    rcases List.mem_append.mp hq with hq | hq
    · exact h.out q hq hbind
    · obtain ⟨c, p⟩ := q
      rcases hnew _ hq with hp | ⟨hp, -⟩ <;>
        cases p <;> simp [Payload.isBind, Payload.isData] at hbind hp
  · rw [hrecv.peer] at hi
    rw [hbinds]
    exact h.binds i b hi hd
  · rw [hrecv.peer]
    have hmem : q ∈ t.wire x e.peer := by simp [hrecv.peer_wire, hq]
    obtain ⟨i, hcause, hlt, hi⟩ := h.inn q hmem hfin
    exact ⟨i, hcause, hlt, (hbinds i).trans hi⟩

lemma Bound.peer_recv {head : Option (Cause × Payload)} {j : ℕ} (h : t.Bound x e.peer j)
    (hrecv : RecvOn t e x head t') : t'.Bound x e.peer j := by
  obtain ⟨new, hwire, hnew⟩ := hrecv.queues
  have hinn := h.inn
  have hbinds := h.binds
  rw [e.peer_peer] at hinn hbinds
  refine ⟨?_, fun q hq => h.out q ?_, fun i b hi hd => ?_, fun q hq hfin => ?_⟩
  · rw [hrecv.peer]
    exact h.calls
  · simp [hrecv.peer_wire, hq]
  · rw [e.peer_peer] at hi ⊢
    rcases hrecv.learns.binds i b hi hd with ⟨b', hi', hd'⟩ | ⟨rfl, q, hhead⟩
    · rw [hrecv.binds e i fun _ => (List.getElem?_eq_some_iff.mp hi').1]
      exact hbinds i b' hi' hd'
    · obtain ⟨⟨c, p⟩, rfl, rfl⟩ := Option.map_eq_some_iff.mp hhead
      have hcause : c = _ := h.out (c, .bind q) (by simp [hrecv.peer_wire]) rfl
      rw [(hrecv.entered c _ rfl).2, hcause]
  · rw [e.peer_peer] at hq ⊢
    rw [hwire] at hq
    rcases List.mem_append.mp hq with hq | hq
    · obtain ⟨i, hcause, hlt, hi⟩ := hinn q hq hfin
      exact ⟨i, hcause, hlt.trans_le hrecv.grows, (hrecv.binds e i fun _ => hlt).trans hi⟩
    · rcases hnew q hq with hp | ⟨hp, -⟩ <;> simp [hfin, Payload.isData] at hp

/-! ### Streams -/

/-- The last handle of the end was made for the `Connect` queued for `o`, and its frames belong to
the same. -/
structure Held (t : Traced) (x : UInt32) (e : Side) (o : Cause) : Prop where
  handle : ∃ i, ((t.sys.ep e).streams x).length = i + 1 ∧ t.connects e x i = some o
  belongs : ∀ q ∈ t.wire x e, q.2.isData = true → t.Belongs x e q.1 o

/-- The peer has accepted the `Connect` queued for `o`, and the acknowledgement comes first. -/
structure Answered (t : Traced) (x : UInt32) (e : Side) (o : Cause) : Prop where
  held : t.Held x e.peer o
  first : ∀ q rest, (t.wire x e.peer).filter (fun q => q.2.isData) = q :: rest → q.1 = .answer o

/-- The stage a flow is in, with what is known of its frames. -/
inductive Stage (t : Traced) (x : UInt32) : Prop
  | asking (h : ∀ e, (t.sys.conn x e).Asking)
  | waiting (e : Side) (h : (t.sys.conn x e).Waiting)
      (hanswered : ∀ j, (t.sys.ep e).flows x = some (.requested j) →
        t.Answered x e (.own e (.sendConnect x j)))
  | linked (h : ∀ e, (t.sys.conn x e).Linked) (o : Cause) (hheld : ∀ e, t.Held x e o)

lemma forall_side {P : Side → Prop} (h : P e) (h' : P e.peer) : ∀ e', P e' := by
  intro e'
  rcases e.eq_or_eq_peer e' with rfl | rfl
  · exact h
  · exact h'

/-- The stage, seen from one end. -/
lemma Stage.cases (h : t.Stage x) (e : Side) :
    ((t.sys.conn x e).Asking ∧ (t.sys.conn x e).flip.Asking) ∨
    ((t.sys.conn x e).Waiting ∧ ∀ j, (t.sys.ep e).flows x = some (.requested j) →
      t.Answered x e (.own e (.sendConnect x j))) ∨
    ((t.sys.conn x e).flip.Waiting ∧ ∀ j, (t.sys.ep e.peer).flows x = some (.requested j) →
      t.Answered x e.peer (.own e.peer (.sendConnect x j))) ∨
    (((t.sys.conn x e).Linked ∧ (t.sys.conn x e).flip.Linked) ∧ ∃ o, ∀ e', t.Held x e' o) := by
  rw [System.flip_conn]
  cases h with
  | asking h => exact .inl ⟨h e, h e.peer⟩
  | waiting e' h hanswered =>
      rcases e.eq_or_eq_peer e' with rfl | rfl
      · exact .inr (.inl ⟨h, hanswered⟩)
      · exact .inr (.inr (.inl ⟨h, hanswered⟩))
  | linked h o hheld => exact .inr (.inr (.inr ⟨⟨h e, h e.peer⟩, o, hheld⟩))

lemma Stage.of_asking (h : (t.sys.conn x e).Asking ∧ (t.sys.conn x e).flip.Asking) : t.Stage x := by
  rw [System.flip_conn] at h
  exact .asking (forall_side h.1 h.2)

lemma Stage.of_linked (h : (t.sys.conn x e).Linked ∧ (t.sys.conn x e).flip.Linked) {o : Cause}
    (hheld : t.Held x e o) (hheld' : t.Held x e.peer o) : t.Stage x := by
  rw [System.flip_conn] at h
  exact .linked (forall_side h.1 h.2) o (forall_side hheld hheld')

lemma Stage.staged (h : t.Stage x) (e : Side) : (t.sys.conn x e).Staged := by
  rcases h.cases e with ⟨h, h'⟩ | ⟨h, -⟩ | ⟨h, -⟩ | ⟨⟨h, h'⟩, -⟩
  · exact .asking h h'
  · exact .waiting h
  · exact .accepted h
  · exact .linked h h'

lemma Belongs.mono {c o : Cause} (h : t.Belongs x e c o)
    (hlen : ((t.sys.ep e).streams x).length ≤ ((t'.sys.ep e).streams x).length)
    (hconn : ∀ i < ((t.sys.ep e).streams x).length, t'.connects e x i = t.connects e x i) :
    t'.Belongs x e c o := by
  rcases h with rfl | ⟨a, i, rfl, ha, hi, ho⟩
  · exact .inl rfl
  · exact .inr ⟨a, i, rfl, ha, hi.trans_le hlen, (hconn i hi).trans ho⟩

/-- Frames of the same handle are added. -/
lemma Held.mono {o : Cause} (h : t.Held x e o)
    (hlen : ((t'.sys.ep e).streams x).length = ((t.sys.ep e).streams x).length)
    (hconn : ∀ i < ((t.sys.ep e).streams x).length, t'.connects e x i = t.connects e x i)
    (hwire : ∀ q ∈ t'.wire x e, q.2.isData = true → q ∈ t.wire x e ∨ t.Belongs x e q.1 o) :
    t'.Held x e o where
  handle := by
    obtain ⟨i, hi, ho⟩ := h.handle
    exact ⟨i, hlen.trans hi, (hconn i (by omega)).trans ho⟩
  belongs q hq hdata := by
    rcases hwire q hq hdata with hold | hnew
    · exact (h.belongs q hold hdata).mono hlen.ge hconn
    · exact hnew.mono hlen.ge hconn

/-- What the last handle queues belongs to its `Connect`. -/
lemma Held.queued {a : Action} {o : Cause} (h : t.Held x e o)
    (hsole : ((t.sys.ep e).view x).Sole) {q : Cause × Payload} (hcause : q.1 = .own e a)
    (hq : Queues (t.sys.ep e) x a q.2) (hdata : q.2.isData = true) : t.Belongs x e q.1 o := by
  obtain ⟨c, p⟩ := q
  obtain ⟨i, hi, ho⟩ := h.handle
  cases hq with
  | @data _ k _ hstream hlive _ =>
      have hk : k + 1 = ((t.sys.ep e).streams x).length := hsole.live k hlive
      obtain rfl : k = i := by omega
      exact .inr ⟨a, k, hcause, hstream, by omega, ho⟩
  | _ => cases hdata

lemma Held.act {a : Action} {o : Cause} (h : t.Held x e o) (hsole : ((t.sys.ep e).view x).Sole)
    (hact : ActOn t e a x t')
    (hlen : ((t'.sys.ep e).streams x).length = ((t.sys.ep e).streams x).length) :
    t'.Held x e o := by
  obtain ⟨new, hwire, hnew⟩ := hact.queues
  refine h.mono hlen (fun i _ => by rw [hact.connects]) fun q hq hdata => ?_
  rw [hwire] at hq
  rcases List.mem_append.mp hq with hq | hq
  · exact .inl hq
  · obtain ⟨-, hcause, hqueues⟩ := hnew q hq
    exact .inr (h.queued hsole hcause hqueues hdata)

lemma Held.peer_act {a : Action} {o : Cause} (h : t.Held x e.peer o) (hact : ActOn t e a x t') :
    t'.Held x e.peer o := by
  refine h.mono (by rw [hact.peer]) (fun i _ => by rw [hact.connects]) fun q hq _ => .inl ?_
  rwa [hact.peer_wire] at hq

lemma Held.recv {head : Option (Cause × Payload)} {o : Cause} (h : t.Held x e o)
    (hrecv : RecvOn t e x head t') (hhead : ∀ q ∈ head, q.2.isConnect = false)
    (hlen : ((t'.sys.ep e).streams x).length = ((t.sys.ep e).streams x).length) :
    t'.Held x e o := by
  obtain ⟨new, hwire, hnew⟩ := hrecv.queues
  refine h.mono hlen (fun i hi => hrecv.connects e i fun _ => hi) fun q hq hdata => .inl ?_
  rw [hwire] at hq
  rcases List.mem_append.mp hq with hq | hq
  · exact hq
  · rcases hnew q hq with hp | ⟨-, -, c, p, rfl, -⟩
    · simp [hp, Payload.isData] at hdata
    · simpa [Payload.isConnect] using hhead (c, .connect p) rfl

lemma Held.peer_recv {head : Option (Cause × Payload)} {o : Cause} (h : t.Held x e.peer o)
    (hrecv : RecvOn t e x head t') : t'.Held x e.peer o := by
  refine h.mono (by rw [hrecv.peer])
    (fun i _ => hrecv.connects e.peer i fun he => absurd he e.peer_ne) fun q hq _ => .inl ?_
  simp [hrecv.peer_wire, hq]

lemma map_filter_wire (hc : t.Consistent) (x : UInt32) (e : Side) :
    ((t.wire x e).filter fun q => q.2.isData).map Prod.snd =
      (t.sys.wire x e).filter Payload.isData := by
  rw [← hc.wire, List.filter_map]
  rfl

/-- What is queued behind the acknowledgement does not come first. -/
lemma Answered.act {a : Action} {j : ℕ}
    (hans : t.Answered x e.peer (.own e.peer (.sendConnect x j))) (hc : t.Consistent)
    (hw : (t.sys.conn x e).flip.Waiting)
    (hj : (t.sys.ep e.peer).flows x = some (.requested j)) (hact : ActOn t e a x t')
    (hlen : ((t'.sys.ep e).streams x).length = ((t.sys.ep e).streams x).length) :
    t'.Answered x e.peer (.own e.peer (.sendConnect x j)) := by
  obtain ⟨hheld, hfirst⟩ := hans
  obtain ⟨new, hwire, hnew⟩ := hact.queues
  have hmap := map_filter_wire hc x e
  have hsole : ((t.sys.ep e).view x).Sole := hw.peer
  constructor <;> rw [e.peer_peer] at *
  · exact hheld.act hsole hact hlen
  · intro q rest hq
    rw [hwire, List.filter_append] at hq
    rcases hw.answer j hj with ⟨n, data, hdata⟩ | ⟨hclosed, hnil, -⟩
    · have hdata' : (t.sys.wire x e).filter Payload.isData = .acknowledge n :: data := hdata
      rw [hdata'] at hmap
      obtain ⟨q', rest', hold, -, -⟩ := List.map_eq_cons_iff.mp hmap
      rw [hold] at hq
      obtain ⟨rfl, -⟩ := List.cons.inj hq
      exact hfirst _ _ hold
    · have hnil' : (t.sys.wire x e).filter Payload.isData = [] := hnil
      rw [hnil'] at hmap
      rw [List.map_eq_nil_iff.mp hmap, List.nil_append] at hq
      have hmem : q ∈ new.filter fun q => q.2.isData := by simp [hq]
      have hopen := (hnew q (List.mem_filter.mp hmem).1).1
      simp [show (t.sys.ep e).txOpen = false from hclosed] at hopen

/-- **Steps of an end on its own** make no stream of a slot that was requested. -/
theorem Stage.act {a : Action} (h : t.Stage x) (hc : t.Consistent)
    (hclean : t.sys.CleanDraws (.act e a)) (hstep : t.step (.act e a) = some t') :
    t'.Stage x ∧ ∀ j d, (t.sys.ep e).flows x = some (.requested j) →
      (t'.sys.ep e).flows x ≠ some (.established d) := by
  have hact := act_on hstep x
  obtain ⟨ev, sent, hown | ⟨hdraw, hv⟩, hrun, heq⟩ := act_run hclean hstep x
  · have kept : ∀ j, (t'.sys.ep e).flows x = some (.requested j) →
        (t.sys.ep e).flows x = some (.requested j) := fun j hj => hrun.kept hown.2 hj (by simp)
    rcases h.cases e with hask | ⟨hw, hans⟩ | ⟨hw, hans⟩ | ⟨hl, o, hheld⟩
    · obtain ⟨hask', -⟩ := enduring_asking.run hown hrun hask
      rw [← heq] at hask'
      exact ⟨.of_asking hask', fun _ d _ => hask'.1.slot d⟩
    · obtain ⟨hw', -⟩ := enduring_waiting.run hown hrun hw
      rw [← heq] at hw'
      refine ⟨.waiting e hw' fun j hj => ?_, fun _ d _ => hw'.slot_ne (by simp)⟩
      obtain ⟨hheld, hfirst⟩ := hans j (kept j hj)
      exact ⟨hheld.peer_act hact, by rwa [hact.peer_wire]⟩
    · obtain ⟨hw', hlen⟩ := enduring_accepted.run hown hrun hw
      rw [← heq, System.flip_conn] at hw'
      refine ⟨.waiting e.peer hw' fun j hj => ?_, fun j _ hj => absurd hj (hw.peer.not_requested j)⟩
      rw [hact.peer] at hj
      exact (hans j hj).act hc hw hj hact hlen
    · obtain ⟨hl', hlen⟩ := enduring_linked.run hown hrun hl
      rw [← heq] at hl'
      exact ⟨.of_linked hl' ((hheld e).act hl.1.held hact hlen) ((hheld e.peer).peer_act hact),
        fun j _ hj => absurd hj (hl.1.held.not_requested j)⟩
  · have hask := (h.staged e).draws hv hrun hdraw
    rw [← heq] at hask
    exact ⟨.of_asking hask, fun _ d _ => hask.1.slot d⟩

section Recv

variable {head : Option (Cause × Payload)} {o : Cause}

lemma Answered.recv (h : t.Answered x e o) (hrecv : RecvOn t e x head t')
    (hhead : ∀ q ∈ head, q.2.isData = false) : t'.Answered x e o where
  held := h.held.peer_recv hrecv
  first q rest hq := by
    refine h.first q rest ?_
    rw [hrecv.peer_wire, List.filter_append, hq]
    cases head with
    | none => rfl
    | some q' => simp [hhead q' rfl]

lemma Answered.peer_recv (h : t.Answered x e.peer o) (hrecv : RecvOn t e x head t')
    (hhead : ∀ q ∈ head, q.2.isConnect = false)
    (hlen : ((t'.sys.ep e).streams x).length = ((t.sys.ep e).streams x).length) :
    t'.Answered x e.peer o := by
  obtain ⟨hheld, hfirst⟩ := h
  obtain ⟨new, hwire, hnew⟩ := hrecv.queues
  constructor <;> rw [e.peer_peer] at *
  · exact hheld.recv hrecv hhead hlen
  · intro q rest hq
    refine hfirst q rest ?_
    have hnil : (new.filter fun q => q.2.isData) = [] := by
      refine List.filter_eq_nil_iff.mpr fun q hq hdata => ?_
      rcases hnew q hq with hp | ⟨-, -, c, p, rfl, -⟩
      · simp [hp, Payload.isData] at hdata
      · simpa [Payload.isConnect] using hhead (c, .connect p) rfl
    rwa [hwire, List.filter_append, hnil, List.append_nil] at hq

lemma Held.accept {c : Cause} {p : ConnectPayload} (hrecv : RecvOn t e x (some (c, .connect p)) t')
    (hslot : (t.sys.ep e).flows x = none) (hout : ∀ q ∈ t.wire x e, q.2.isData = false)
    (hlen : ((t'.sys.ep e).streams x).length = ((t.sys.ep e).streams x).length + 1) :
    t'.Held x e c ∧ ∀ q ∈ t'.wire x e, q.2.isData = true → q.1 = .answer c := by
  obtain ⟨new, hwire, hnew⟩ := hrecv.queues
  have hanswer : ∀ q ∈ t'.wire x e, q.2.isData = true → q.1 = .answer c := by
    intro q hq hdata
    rw [hwire] at hq
    rcases List.mem_append.mp hq with hq | hq
    · simp [hout q hq] at hdata
    · rcases hnew q hq with hp | ⟨-, -, c', p', heq, hcause⟩
      · simp [hp, Payload.isData] at hdata
      · obtain ⟨rfl, -⟩ := Prod.mk.inj (Option.some.inj heq)
        exact hcause
  refine ⟨⟨⟨_, hlen, ?_⟩, fun q hq hdata => .inl (hanswer q hq hdata)⟩, hanswer⟩
  rw [(hrecv.entered c _ rfl).1, connectOf, hslot]

lemma Answered.accept {c : Cause} {p : ConnectPayload} {j : ℕ}
    (hrecv : RecvOn t e x (some (c, .connect p)) t') (hasked : t.Asked x e.peer)
    (hj : (t.sys.ep e.peer).flows x = some (.requested j))
    (hslot : (t.sys.ep e).flows x = none) (hout : ∀ q ∈ t.wire x e, q.2.isData = false)
    (hlen : ((t'.sys.ep e).streams x).length = ((t.sys.ep e).streams x).length + 1) :
    t'.Answered x e.peer (.own e.peer (.sendConnect x j)) := by
  have hcause : c = _ := (hasked j hj).2 (c, .connect p) (by simp [hrecv.peer_wire]) rfl
  obtain ⟨hheld, hanswer⟩ := Held.accept hrecv hslot hout hlen
  rw [← hcause]
  constructor <;> rw [e.peer_peer]
  · exact hheld
  · intro q rest hq
    have hmem : q ∈ (t'.wire x e).filter fun q => q.2.isData := by simp [hq]
    obtain ⟨hq, hdata⟩ := List.mem_filter.mp hmem
    exact hanswer q hq hdata

lemma Held.acknowledge {c : Cause} {p : Payload} {j : ℕ} (hrecv : RecvOn t e x (some (c, p)) t')
    (hslot : (t.sys.ep e).flows x = some (.requested j))
    (hout : ∀ q ∈ t.wire x e, q.2.isData = false)
    (hlen : ((t'.sys.ep e).streams x).length = ((t.sys.ep e).streams x).length + 1) :
    t'.Held x e (.own e (.sendConnect x j)) := by
  obtain ⟨new, hwire, hnew⟩ := hrecv.queues
  refine ⟨⟨_, hlen, ?_⟩, fun q hq hdata => ?_⟩
  · rw [(hrecv.entered c _ rfl).1, connectOf, hslot]
  · rw [hwire] at hq
    rcases List.mem_append.mp hq with hq | hq
    · simp [hout q hq] at hdata
    · rcases hnew q hq with hp | ⟨-, hnone, -⟩
      · simp [hp, Payload.isData] at hdata
      · simp [hslot] at hnone

/-- **Frames that are read**: a slot that was requested gets its stream by the acknowledgement of
its own `Connect`. -/
theorem Stage.recv (h : t.Stage x) (hasked : t.Asked x e.peer) (hc : t.Consistent)
    (hc' : t'.Consistent) (hstep : t.step (.deliver e) = some t') (hrecv : RecvOn t e x head t') :
    t'.Stage x ∧ ∀ j d, (t.sys.ep e).flows x = some (.requested j) →
      (t'.sys.ep e).flows x = some (.established d) →
        ∃ n, head = some (.answer (.own e (.sendConnect x j)), .acknowledge n) := by
  have hpeer : t'.sys.ep e.peer = t.sys.ep e.peer := hrecv.peer
  obtain ⟨sent, ⟨rfl, hrun, heq⟩ | ⟨c, p, rest, rfl, hin, hrun, heq⟩⟩ := hrecv.run hc hc' hstep
  · -- the message is not about the flow
    have hown : Ownly .tau := ⟨by simp, by simp, by simp⟩
    rcases h.cases e with hask | ⟨hw, hans⟩ | ⟨hw, hans⟩ | ⟨hl, o, hheld⟩
    · obtain ⟨hask', -⟩ := enduring_asking.run hown hrun hask
      rw [← heq] at hask'
      exact ⟨.of_asking hask', fun _ d _ hd => absurd hd (hask'.1.slot d)⟩
    · obtain ⟨hw', -⟩ := enduring_waiting.run hown hrun hw
      rw [← heq] at hw'
      refine ⟨.waiting e hw' fun j hj => ?_, fun _ d _ hd => absurd hd (hw'.slot_ne (by simp))⟩
      exact (hans j (hrun.kept hown.2 hj (by simp))).recv hrecv (by simp)
    · obtain ⟨hw', hlen⟩ := enduring_accepted.run hown hrun hw
      rw [← heq, System.flip_conn] at hw'
      refine ⟨.waiting e.peer hw' fun j hj => ?_, fun j _ hj => absurd hj (hw.peer.not_requested j)⟩
      rw [hpeer] at hj
      exact (hans j hj).peer_recv hrecv (by simp) hlen
    · obtain ⟨hl', hlen⟩ := enduring_linked.run hown hrun hl
      rw [← heq] at hl'
      exact ⟨.of_linked hl' ((hheld e).recv hrecv (by simp) hlen) ((hheld e.peer).peer_recv hrecv),
        fun j _ hj => absurd hj (hl.1.held.not_requested j)⟩
  · have hmem : p ∈ (t.sys.conn x e).inn := by simp [hin]
    rcases h.cases e with ⟨hask, hask'⟩ | ⟨hw, hans⟩ | ⟨hw, hans⟩ | ⟨hl, o, hheld⟩
    · rcases hask.recv hask' hin hrun with
        ⟨hstay, -⟩ | ⟨hconn, hnone, hw, hlen⟩
      · rw [← heq] at hstay
        exact ⟨.of_asking hstay, fun _ d _ hd => absurd hd (hstay.1.slot d)⟩
      · have hslot : (t.sys.ep e).flows x = none := hnone
        rw [← heq, System.flip_conn] at hw
        refine ⟨.waiting e.peer hw fun j hj => ?_, fun j d hj => by simp [hslot] at hj⟩
        rw [hpeer] at hj
        obtain ⟨q, rfl⟩ : ∃ q, p = .connect q := by
          cases p <;> simp [Payload.isConnect] at hconn
          exact ⟨_, rfl⟩
        exact .accept hrecv hasked hj hslot (forall_wire hc hask.out) hlen
    · rcases hw.recv hin hrun with ⟨hw', -, hdata⟩ | ⟨⟨n, rfl⟩, ⟨j, hj⟩, hl, hlen⟩
      · rw [← heq] at hw'
        refine ⟨.waiting e hw' fun j hj => ?_, fun _ d _ hd => absurd hd (hw'.slot_ne (by simp))⟩
        have hkept := hrun.kept ⟨by simp, by simp⟩ hj (by simp)
        exact (hans j hkept).recv hrecv (by simpa using hdata j hj)
      · rw [← heq] at hl
        have hj' : (t.sys.ep e).flows x = some (.requested j) := hj
        have hout : ∀ q ∈ t.wire x e, q.2.isData = false :=
          forall_wire hc fun q hq => (hw.out q hq).1
        have hans := hans j hj'
        have hcause : c = .answer _ := hans.first (c, .acknowledge n)
          ((t'.wire x e.peer).filter fun q => q.2.isData) (by
            rw [hrecv.peer_wire, List.filter_append]
            rfl)
        refine ⟨.of_linked hl (Held.acknowledge hrecv hj' hout hlen) (hans.held.peer_recv hrecv),
          fun k d hk _ => ⟨n, ?_⟩⟩
        obtain rfl : j = k := by simpa [hj'] using hk
        rw [hcause]
    · obtain ⟨hw', hlen⟩ := hw.peer_recv hin hrun
      rw [← heq, System.flip_conn] at hw'
      refine ⟨.waiting e.peer hw' fun j hj => ?_, fun j _ hj => absurd hj (hw.peer.not_requested j)⟩
      rw [hpeer] at hj
      exact (hans j hj).peer_recv hrecv (by simpa using (hw.out p hmem).2) hlen
    · obtain ⟨hl', hlen⟩ := hl.1.recv hl.2 hin hrun
      rw [← heq] at hl'
      exact ⟨.of_linked hl' ((hheld e).recv hrecv (by simpa using hl.2.out p hmem) hlen)
        ((hheld e.peer).peer_recv hrecv), fun j _ hj => absurd hj (hl.1.held.not_requested j)⟩

end Recv

/-! ### Whole runs -/

/-- What is known of a flow. -/
structure Flowing (t : Traced) (x : UInt32) : Prop where
  stage : t.Stage x
  asked : ∀ e, t.Asked x e
  bound : ∀ e j, (t.sys.ep e).flows x = some (.bindRequested j) → t.Bound x e j

/-- An end has no stream with an id that its peer requests a bind with. -/
lemma Stage.gone (h : t.Stage x) {j : ℕ}
    (hj : (t.sys.ep e.peer).flows x = some (.bindRequested j)) : ((t.sys.ep e).view x).Gone := by
  rcases h.cases e with ⟨hask, -⟩ | ⟨hw, -⟩ | ⟨hw, -⟩ | ⟨hl, -⟩
  · exact hask.gone
  · exact hw.gone
  · exact absurd hj (hw.slot_ne (by simp))
  · exact absurd hj (hl.2.held.slot_ne (by simp))

lemma RecvOn.kept {head : Option (Cause × Payload)} (hc : t.Consistent) (hc' : t'.Consistent)
    (hstep : t.step (.deliver e) = some t') (h : RecvOn t e x head t') {slot : FlowSlot}
    (hslot : (t'.sys.ep e).flows x = some slot) (hne : ∀ d, slot ≠ .established d) :
    (t.sys.ep e).flows x = some slot := by
  obtain ⟨sent, ⟨-, hrun, -⟩ | ⟨c, p, rest, -, -, hrun, -⟩⟩ := h.run hc hc' hstep
  · exact hrun.kept ⟨by simp, by simp⟩ hslot hne
  · exact hrun.kept ⟨by simp, by simp⟩ hslot hne

lemma Flowing.act {a : Action} (h : t.Flowing x) (hc : t.Consistent)
    (hclean : t.sys.CleanDraws (.act e a)) (hstep : t.step (.act e a) = some t') :
    t'.Flowing x := by
  have hact := act_on hstep x
  refine ⟨(h.stage.act hc hclean hstep).1, forall_side ((h.asked e).act hc hclean hstep)
    ((h.asked e.peer).mono hact.peer fun q hq => by rwa [hact.peer_wire] at hq),
    forall_side (fun j hj => Bound.act (h.bound e j) hc hclean hstep hj) fun j hj => ?_⟩
  rw [hact.peer] at hj
  exact (h.bound e.peer j hj).peer_act (h.stage.gone hj) hact

lemma Flowing.recv (h : t.Flowing x) (hc : t.Consistent) (hstep : t.step (.deliver e) = some t') :
    t'.Flowing x := by
  have hc' := hc.step hstep
  obtain ⟨head, hrecv, -⟩ := recv_on hc hstep x
  refine ⟨(h.stage.recv (h.asked e.peer) hc hc' hstep hrecv).1,
    forall_side ((h.asked e).recv hrecv fun j hj => hrecv.kept hc hc' hstep hj (by simp))
      ((h.asked e.peer).mono hrecv.peer fun q hq => by simp [hrecv.peer_wire, hq]),
    forall_side (e := e) (fun j hj => ?_) fun j hj => ?_⟩
  · exact (h.bound e j (hrecv.kept hc hc' hstep hj (by simp))).recv hrecv
  · rw [hrecv.peer] at hj
    exact (h.bound e.peer j hj).peer_recv hrecv

lemma flowing_new (opts : Side → Options) (x : UInt32) : (new opts).Flowing x := by
  have hask : ∀ o o', (Conn.new o o').Asking := by
    intro o o'
    refine ⟨fun h => ⟨rfl, rfl⟩, ?_, rfl, ?_, ?_, ?_, ?_, ?_, .inr (.inl ⟨?_, rfl⟩)⟩ <;>
      simp [Conn.new, View.new, View.Gone, View.Live]
  refine ⟨.asking fun e => hask (opts e) (opts e.peer), fun e j hj => ?_, fun e j hj => ?_⟩
  · cases hj
  · cases hj

lemma flowing_reach {opts : Side → Options}
    (h : Reach step (fun t l => t.sys.CleanDraws l) (new opts) t) :
    t.Consistent ∧ ∀ x, t.Flowing x := by
  refine h.invariant (I := fun t => t.Consistent ∧ ∀ x, t.Flowing x)
    ⟨fun e => rfl, flowing_new opts⟩ ?_
  intro t l t' ⟨hc, hflow⟩ hclean hstep
  refine ⟨hc.step hstep, fun x => ?_⟩
  cases l with
  | act e a => exact (hflow x).act hc hclean hstep
  | deliver e => exact (hflow x).recv hc hstep

lemma Reads.mem {c : Cause} {p : Payload} (h : t.Reads e x c p) : (c, p) ∈ t.wire x e.peer := by
  obtain ⟨data, left, rest, -, hwires, hp⟩ := h
  rw [wire, hwires, List.filterMap_cons_some (by rw [hp]; rfl)]
  exact List.mem_cons_self

/-- **Replies are matched to their own request**, in every run in which ids are drawn when nothing
is left of them. -/
theorem replies_matched {opts : Side → Options}
    (h : Reach step (fun t l => t.sys.CleanDraws l) (new opts) t)
    (hclean : t.sys.CleanDraws l) (hstep : t.step l = some t') : t.Matched l t' := by
  obtain ⟨hc, hflow⟩ := flowing_reach h
  refine ⟨fun e x j d hj hd => ?_, fun e x c p d hl hread hdata hd => ?_, fun e x j b hb hr => ?_⟩
  · cases l with
    | act e' a =>
        rcases e'.eq_or_eq_peer e with rfl | rfl
        · exact absurd hd (((hflow x).stage.act hc hclean hstep).2 j d hj)
        · rw [(act_on hstep x).peer, hj] at hd
          cases hd
    | deliver e' =>
        obtain ⟨head, hrecv, hread⟩ := recv_on hc hstep x
        rcases e'.eq_or_eq_peer e with rfl | rfl
        · obtain ⟨n, hn⟩ := ((hflow x).stage.recv ((hflow x).asked e.peer) hc (hc.step hstep) hstep
            hrecv).2 j d hj hd
          exact ⟨rfl, n, hread _ _ hn⟩
        · rw [hrecv.peer, hj] at hd
          cases hd
  · have hmem : p ∈ (t.sys.conn x e).inn := by
      show p ∈ t.sys.wire x e.peer
      rw [← hc.wire]
      exact List.mem_map_of_mem hread.mem
    have hslot : ∀ {slot}, (t.sys.conn x e).me.slot = slot → slot = some (.established d) :=
      fun hs => hs.symm.trans hd
    rcases (hflow x).stage.cases e with ⟨hask, -⟩ | ⟨hw, -⟩ | ⟨hw, -⟩ | ⟨hlink, o, hheld⟩
    · exact absurd hd (hask.slot d)
    · exact absurd hd (hw.slot_ne (by simp))
    · simp [(hw.out p hmem).1] at hdata
    · refine ⟨o, ?_, (hheld e.peer).belongs _ hread.mem hdata⟩
      obtain ⟨i, hi, ho⟩ := (hheld e).handle
      rcases hlink.1.held.slot with hnone | ⟨k, hk⟩
      · cases hslot hnone
      · obtain rfl : _ = d := FlowSlot.established.inj (Option.some.inj (hslot hk))
        have hlen : (t.sys.conn x e).me.streams.length = i + 1 := hi
        simpa [hlen] using ho
  · cases l with
    | act e' a =>
        have hact := act_on hstep x
        rcases e'.eq_or_eq_peer e with rfl | rfl
        · exact .inl (hact.owes.replies j b hb hr)
        · rw [hact.peer] at hb
          exact .inl ⟨b, hb, hr⟩
    | deliver e' =>
        obtain ⟨head, hrecv, hread⟩ := recv_on hc hstep x
        rcases e'.eq_or_eq_peer e with rfl | rfl
        · rcases hrecv.learns.replies j b hb hr with hold | ⟨hfin, hj⟩
          · exact .inl hold
          · obtain ⟨⟨c, p⟩, rfl, rfl⟩ := Option.map_eq_some_iff.mp hfin
            have hread : t.Reads _ x c .finish := hread c _ rfl
            obtain ⟨i, hcause, -, hi⟩ := ((hflow x).bound e j hj).inn _ hread.mem rfl
            obtain rfl : c = _ := hcause
            exact .inr ⟨rfl, i, hread, hi⟩
        · rw [hrecv.peer] at hb
          exact .inl ⟨b, hb, hr⟩

/-- An id of which nothing is left at all may be drawn. -/
lemma vacant_of_quiet (hgone : ∀ e m, m ∈ (t.sys.ep e).streams x → m.dropped = true)
    (hdrops : ∀ e, ((t.sys.ep e).view x).drops = [])
    (hunsent : ∀ e, ((t.sys.ep e).view x).unsent = 0)
    (hbind : ((t.sys.ep e).view x).bindUnsent = 0) (hbinds : ((t.sys.ep e.peer).view x).binds = 0)
    (hwire : ∀ e, t.sys.wire x e = []) (hslot : (t.sys.ep e.peer).flows x = none) :
    (t.sys.conn x e).Vacant := by
  have gone : ∀ e, ((t.sys.ep e).view x).Gone := by
    rintro e i ⟨m, hm, hd⟩
    simp [hgone e m (List.mem_of_getElem? hm)] at hd
  have hslot' : ((t.sys.ep e.peer).view x).slot = none := hslot
  refine ⟨gone e, gone e.peer, hdrops e, hdrops e.peer, hunsent e, hbind, hbinds, ?_, ?_, ?_,
    .inl ?_⟩
  · simp [System.conn, hwire]
  · simp [System.conn, hwire]
  · simp [System.conn, hslot']
  · exact ⟨by simp [System.conn, Conn.flip, hslot'],
      by simp [System.conn, Conn.flip, hwire, hunsent]⟩

/-- A stream is opened, and dropped at both ends. -/
def droppedRun : List Label :=
  System.openRun .a 1 ++ [.act .a (.dropStream 1 0), .act .a .droppedPort, .act .a .sendFrame,
    .deliver .b, .act .b (.dropStream 1 0), .act .b .droppedPort]

/-- Its id is drawn again, and the `Connect` is acknowledged. -/
def reopenRun : List Label :=
  [.act .a (.newStreamChannel 1 [] 0), .act .a (.sendConnect 1 1), .act .a .sendFrame,
    .deliver .b, .act .b .sendFrame]

/-- The acknowledgement for the second stream with an id makes the handle. -/
theorem replies_matched_reuse : ∃ t₀ t t',
    run step (new fun _ => Options.new) droppedRun = some t₀ ∧ run step t₀ reopenRun = some t ∧
    t.step (.deliver .a) = some t' ∧ (t.sys.ep .a).flows 1 = some (.requested 1) ∧
    (t'.sys.ep .a).flows 1 = some (.established ⟨1, true⟩) ∧ t.Matched (.deliver .a) t' := by
  have hcheck : (run step (new fun _ => Options.new) droppedRun).any (fun t =>
      [Side.a, Side.b].all (fun e => ((t.sys.ep e).streams 1).all (·.dropped) &&
        ((t.sys.ep e).view 1).drops == [] && ((t.sys.ep e).view 1).unsent == 0 &&
        t.sys.wire 1 e == []) &&
      ((t.sys.ep .a).view 1).bindUnsent == 0 && ((t.sys.ep .b).view 1).binds == 0 &&
      (t.sys.ep .b).flows 1 == none &&
      (run step t reopenRun).any fun t₁ => (t₁.step (.deliver .a)).any fun t₂ =>
        (t₁.sys.ep .a).flows 1 == some (.requested 1) &&
        (t₂.sys.ep .a).flows 1 == some (.established ⟨1, true⟩)) = true := by
    decide +kernel
  obtain ⟨t, ht, hfacts⟩ := (Option.any_eq_true _ _).mp hcheck
  simp only [Bool.and_eq_true, beq_iff_eq] at hfacts
  obtain ⟨⟨⟨⟨hends, hbind⟩, hbinds⟩, hslot⟩, hrest⟩ := hfacts
  obtain ⟨t₁, ht₁, hrest⟩ := (Option.any_eq_true _ _).mp hrest
  obtain ⟨t₂, ht₂, hslots⟩ := (Option.any_eq_true _ _).mp hrest
  simp only [Bool.and_eq_true, beq_iff_eq] at hslots
  have hends : ∀ e, (∀ m ∈ (t.sys.ep e).streams 1, m.dropped = true) ∧
      ((t.sys.ep e).view 1).drops = [] ∧ ((t.sys.ep e).view 1).unsent = 0 ∧
      t.sys.wire 1 e = [] := by
    intro e
    have := List.all_eq_true.mp hends e (by cases e <;> simp)
    simpa [and_assoc] using this
  -- the id is drawn twice, and each time nothing is left of it
  have hfirst : RunMeets step (fun t l => t.sys.CleanDraws l) (new fun _ => Options.new)
      droppedRun := by
    refine ⟨fun x _ => vacant_of_quiet ?_ ?_ ?_ rfl rfl ?_ rfl, fun s' _ =>
      runMeets_of_forall (fun l hl t => ?_) s'⟩
    · exact fun e m hm => by cases hm
    · exact fun e => rfl
    · exact fun e => rfl
    · exact fun e => rfl
    · have hl : l ∈ droppedRun.tail := hl
      simp only [droppedRun, System.openRun, List.cons_append, List.nil_append, List.tail_cons,
        List.mem_cons, List.not_mem_nil, or_false] at hl
      rcases hl with rfl | rfl | rfl | rfl | rfl | rfl | rfl | rfl | rfl | rfl | rfl | rfl | rfl <;>
        simp [System.CleanDraws, Action.event]
  have hsecond : RunMeets step (fun t l => t.sys.CleanDraws l) t reopenRun := by
    refine ⟨fun x hx => ?_, fun s' _ => runMeets_of_forall (fun l hl t => ?_) s'⟩
    · obtain rfl : (1 : UInt32) = x := by
        by_contra hne
        simp [Action.event, hne] at hx
      exact vacant_of_quiet (fun e => (hends e).1) (fun e => (hends e).2.1)
        (fun e => (hends e).2.2.1) hbind hbinds (fun e => (hends e).2.2.2) hslot
    · simp only [List.mem_cons, List.not_mem_nil, or_false] at hl
      rcases hl with rfl | rfl | rfl | rfl <;> simp [System.CleanDraws, Action.event]
  have hreach := (reach_of_run ht hfirst).trans (reach_of_run ht₁ hsecond)
  exact ⟨t, t₁, t₂, ht, ht₁, ht₂, hslots.1, hslots.2, replies_matched hreach trivial ht₂⟩

/-- An id is drawn while an acknowledgement of the stream before is on its way. -/
def lateAcknowledge : List Label :=
  System.openRun .a 1 ++ [.act .a (.pollWrite 1 0 [7]), .act .a .sendFrame, .deliver .b,
    .act .b (.pollRead 1 0 1), .act .b .sendFrame, .act .a (.dropStream 1 0), .act .a .droppedPort,
    .act .a (.newStreamChannel 1 [] 0), .act .a (.sendConnect 1 1)]

/-- An id is drawn for a bind request while the `Finish` of the stream before is on its way. -/
def lateFinish : List Label :=
  System.openRun .a 1 ++ [.act .b (.pollShutdown 1 0), .act .b .sendFrame,
    .act .a (.pollShutdown 1 0), .act .a (.dropStream 1 0), .act .a .droppedPort,
    .act .a (.requestBind 1 [] 0 .stream), .act .a (.sendBind 1 0)]

/-- **Late replies**: a requested slot is established by what the peer has queued when it read from
the stream before, with its own `Connect` still in the queue. A call is told that its bind request
was accepted by the end of the stream before, when the peer has got no bind request. -/
theorem late_replies_mismatched :
    (∃ t t', run step (new fun _ => Options.new.setRwnd 1 (by decide)) lateAcknowledge = some t ∧
      t.step (.deliver .a) = some t' ∧
      (t.sys.ep .a).flows 1 = some (.requested 1) ∧
      t.wire 1 .b = [(.own .b (.pollRead 1 0 1), .acknowledge 1)] ∧
      (t'.sys.ep .a).flows 1 = some (.established ⟨1, true⟩) ∧
      ¬ t.Matched (.deliver .a) t') ∧
    ∃ t t', run step (new fun _ => Options.new) lateFinish = some t ∧
      t.step (.deliver .a) = some t' ∧
      ((t'.sys.ep .a).bindCalls 1).map (·.reply) = [some true] ∧
      (t'.sys.ep .b).binds 1 = [] ∧
      ¬ t.Matched (.deliver .a) t' := by
  constructor
  · have hcheck : (run step (new fun _ => Options.new.setRwnd 1 (by decide)) lateAcknowledge).any
        (fun t => (t.step (.deliver .a)).any fun t' =>
          (t.sys.ep .a).flows 1 == some (.requested 1) &&
          t.wire 1 .b == [(.own .b (.pollRead 1 0 1), .acknowledge 1)] &&
          (t'.sys.ep .a).flows 1 == some (.established ⟨1, true⟩)) = true := by
      decide +kernel
    obtain ⟨t, ht, hcheck⟩ := (Option.any_eq_true _ _).mp hcheck
    obtain ⟨t', ht', hfacts⟩ := (Option.any_eq_true _ _).mp hcheck
    simp only [Bool.and_eq_true, beq_iff_eq] at hfacts
    obtain ⟨⟨hreq, hwire⟩, hest⟩ := hfacts
    refine ⟨t, t', ht, ht', hreq, hwire, hest, fun hm => ?_⟩
    obtain ⟨-, n, hread⟩ := hm.established .a 1 1 _ hreq hest
    have hmem := hread.mem
    rw [show Side.a.peer = .b from rfl, hwire] at hmem
    simp at hmem
  · have hcheck : (run step (new fun _ => Options.new) lateFinish).any
        (fun t => (t.step (.deliver .a)).any fun t' =>
          ((t.sys.ep .a).bindCalls 1).map (·.reply) == [none] &&
          t.wire 1 .b == [(.own .b (.pollShutdown 1 0), .finish)] &&
          ((t'.sys.ep .a).bindCalls 1).map (·.reply) == [some true] &&
          (t'.sys.ep .b).binds 1 == []) = true := by
      decide +kernel
    obtain ⟨t, ht, hcheck⟩ := (Option.any_eq_true _ _).mp hcheck
    obtain ⟨t', ht', hfacts⟩ := (Option.any_eq_true _ _).mp hcheck
    simp only [Bool.and_eq_true, beq_iff_eq] at hfacts
    obtain ⟨⟨⟨hno, hwire⟩, hyes⟩, hbinds⟩ := hfacts
    refine ⟨t, t', ht, ht', hyes, hbinds, fun hm => ?_⟩
    obtain ⟨b, hb, hr⟩ := List.map_eq_singleton_iff.mp hyes
    obtain ⟨b₀, hb₀, hr₀⟩ := List.map_eq_singleton_iff.mp hno
    rcases hm.bound .a 1 0 b (by simp [hb]) hr with ⟨b', hb', hr'⟩ | ⟨-, i, hread, -⟩
    · obtain rfl : b₀ = b' := by simpa [hb₀] using hb'
      simp [hr₀] at hr'
    · have hmem := hread.mem
      rw [show Side.a.peer = .b from rfl, hwire] at hmem
      simp at hmem

end Traced

end Penguin.Mux
