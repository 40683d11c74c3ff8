import Penguin.Mux.Ledger

/-!
Where frames come from.

Two endpoints are run together with a record of what every frame on its way was queued for: a step
of its sender, or a frame that its sender was reading. With a handle the record keeps the
`Connect` it was made for, and with a bind request the `Bind`. No step reads the record.
-/

namespace Penguin.Mux

open Penguin.Lib.Transition Endpoint

/-- What a frame was queued for. -/
inductive Cause
  /-- A step of its sender. -/
  | own (e : Side) (a : Action)
  /-- A frame that its sender was reading. -/
  | answer (c : Cause)
  deriving DecidableEq, Repr

structure Traced where
  sys : System
  /-- The frames a side has queued or sent and its peer has not read. -/
  wires : Side → List (Cause × Bytes)
  /-- The `Connect` that a handle was made for. -/
  connects : Side → UInt32 → ℕ → Option Cause
  /-- The `Bind` that a bind request was made of. -/
  binds : Side → UInt32 → ℕ → Option Cause

namespace Traced

def new (opts : Side → Options) : Traced where
  sys := .new opts
  wires _ := []
  connects _ _ _ := none
  binds _ _ _ := none

/-- One more entry of a record. -/
def enter (g : Side → UInt32 → ℕ → Option Cause) (e : Side) (x : UInt32) (n : ℕ) (c : Cause) :
    Side → UInt32 → ℕ → Option Cause :=
  fun e' x' n' => if e' = e ∧ x' = x ∧ n' = n then some c else g e' x' n'

/-- The `Connect` a handle would be made for by a frame: the one of the call that has reserved the
slot, or else the frame itself. -/
def connectOf (E : Endpoint) (e : Side) (x : UInt32) (c : Cause) : Cause :=
  match E.flows x with
  | some (.requested j) => .own e (.sendConnect x j)
  | _ => c

/-- A frame is read: what it may make takes the next place in the lists of the endpoint. -/
def record (t : Traced) (e : Side) (c : Cause) (x : UInt32) : Traced :=
  let E := t.sys.ep e
  { t with
    connects := enter t.connects e x (E.streams x).length (connectOf E e x c)
    binds := enter t.binds e x (E.binds x).length c }

def step (t : Traced) (l : Label) : Option Traced :=
  (t.sys.step l).map fun s =>
    match l with
    | .act e a =>
      { t with
        sys := s
        wires := Function.update t.wires e
          (t.wires e ++ ((t.sys.ep e).queued (.act a) (s.ep e)).map fun f => (.own e a, f)) }
    | .deliver e =>
      match t.sys.link e.peer, t.wires e.peer with
      | .binary data :: _, (c, _) :: rest =>
        let r := match Frame.tryFrom data with
          | .ok f => t.record e c f.id
          | .error _ => t
        { r with
          sys := s
          wires := Function.update (Function.update t.wires e.peer rest) e
            (t.wires e ++
              ((t.sys.ep e).queued (.recv (.binary data)) (s.ep e)).map fun f => (.answer c, f)) }
      | _, _ => { t with sys := s }

variable {t t' : Traced} {l : Label}

/-- The record does not change what the endpoints do. -/
lemma step_sys (h : t.step l = some t') : t.sys.step l = some t'.sys := by
  obtain ⟨s, hs, rfl⟩ := Option.map_eq_some_iff.mp h
  rw [hs]
  cases l with
  | act e a => rfl
  | deliver e =>
      dsimp only
      split <;> rfl

lemma exists_step {s : System} (h : t.sys.step l = some s) :
    ∃ t', t.step l = some t' ∧ t'.sys = s := by
  obtain ⟨t', ht'⟩ : ∃ t', t.step l = some t' := by simp [step, h]
  refine ⟨t', ht', ?_⟩
  have := step_sys ht'
  rw [h] at this
  exact (Option.some.inj this).symm

/-- **The record adds nothing**: the systems that are reached are those that are reached with a
record. -/
theorem reach_iff {K : System → Label → Prop} {opts : Side → Options} {s : System} :
    Reach System.step K (.new opts) s ↔
      ∃ t, Reach step (fun t l => K t.sys l) (new opts) t ∧ t.sys = s := by
  constructor
  · intro h
    induction h with
    | start => exact ⟨new opts, .start, rfl⟩
    | next _ hok hs ih =>
        obtain ⟨t, ht, rfl⟩ := ih
        obtain ⟨t', hstep, heq⟩ := exists_step hs
        exact ⟨t', .next ht hok hstep, heq⟩
  · rintro ⟨t, h, rfl⟩
    induction h with
    | start => exact .start
    | next _ hok hs ih => exact .next ih hok (step_sys hs)

/-! ### The record and the endpoints -/

/-- The record is about the frames that are there. -/
def Consistent (t : Traced) : Prop :=
  ∀ e, (t.wires e).map Prod.snd =
    (t.sys.link e).filterMap Message.binary? ++ (t.sys.ep e).txFrames

/-- A message that is no frame does not queue anything. -/
lemma recv_of_not_binary {E E' : Endpoint} {msg : Message} (h : E.recv msg = some E')
    (hmsg : msg.binary? = none) : E'.txFrames = E.txFrames := by
  have hfst : ∀ ignoreBind, (E.processMessage msg ignoreBind).1 = E := by
    intro ignoreBind
    cases msg with
    | binary data => cases hmsg
    | ping | pong | close => rfl
  have hwind : ∀ drain res, E.blocked = none →
      (E.startWindDown drain res).txFrames = E.txFrames := by
    intro drain res hb
    simp [startWindDown, cancelNext, hb, disallowWrites]
  obtain ⟨-, hb, rfl⟩ | ⟨res, -, hend⟩ := recv_cases h
  · rw [hfst false]
    rcases (E.processMessage msg false).2 with (_ | b) | _
    · exact hwind _ _ hb
    · cases b
      · rfl
      · exact hwind _ _ hb
    · rfl
  · have hframes := congrArg Endpoint.txFrames (hfst true)
    obtain ⟨e, -, rfl⟩ | ⟨-, rfl⟩ := hend
    · exact hframes
    · exact hframes

/-- What a step of an end on its own does to the record. -/
lemma step_act {e : Side} {a : Action} (h : t.step (.act e a) = some t') :
    ∃ E out, (t.sys.ep e).act a = some (E, out) ∧
      t'.sys.ep = Function.update t.sys.ep e E ∧
      t'.sys.link = Function.update t.sys.link e (t.sys.link e ++ out) ∧
      t'.wires = Function.update t.wires e
        (t.wires e ++ ((t.sys.ep e).queued (.act a) E).map fun f => (.own e a, f)) ∧
      t'.connects = t.connects ∧ t'.binds = t.binds := by
  obtain ⟨s, hs, rfl⟩ := Option.map_eq_some_iff.mp h
  obtain ⟨⟨E, out⟩, hact, rfl⟩ := Option.map_eq_some_iff.mp hs
  exact ⟨E, out, hact, rfl, rfl, by simp, rfl, rfl⟩

/-- What the arrival of a message does to it. -/
lemma step_deliver {e : Side} (hc : t.Consistent) (h : t.step (.deliver e) = some t') :
    ∃ msg left E, t.sys.link e.peer = msg :: left ∧ (t.sys.ep e).recv msg = some E ∧
      t'.sys.ep = Function.update t.sys.ep e E ∧
      t'.sys.link = Function.update t.sys.link e.peer left ∧
      ((msg.binary? = none ∧ t'.wires = t.wires ∧ t'.connects = t.connects ∧ t'.binds = t.binds) ∨
        ∃ data c rest, msg = .binary data ∧ t.wires e.peer = (c, data) :: rest ∧
          t'.wires = Function.update (Function.update t.wires e.peer rest) e
            (t.wires e ++ ((t.sys.ep e).queued (.recv msg) E).map fun f => (.answer c, f)) ∧
          (∀ f, Frame.tryFrom data = .ok f → t'.connects = (t.record e c f.id).connects ∧
            t'.binds = (t.record e c f.id).binds) ∧
          ∀ err, Frame.tryFrom data = .error err →
            t'.connects = t.connects ∧ t'.binds = t.binds) := by
  obtain ⟨s, hs, heq⟩ := Option.map_eq_some_iff.mp h
  have hlink := hs
  simp only [System.step] at hlink
  split at hlink
  case h_2 => cases hlink
  case h_1 msg left hmsg =>
    obtain ⟨E, hrecv, rfl⟩ := Option.map_eq_some_iff.mp hlink
    cases hb : msg.binary? with
    | none =>
        cases msg with
        | binary data => cases hb
        | ping | pong | close =>
            simp only [hmsg] at heq
            subst heq
            exact ⟨_, left, E, hmsg, hrecv, rfl, rfl, .inl ⟨rfl, rfl, rfl, rfl⟩⟩
    | some data =>
        obtain rfl : msg = .binary data := by
          cases msg with
          | binary d =>
              obtain rfl : d = data := Option.some.inj hb
              rfl
          | ping | pong | close => cases hb
        have hmap := hc e.peer
        rw [hmsg] at hmap
        obtain ⟨⟨c, d⟩, rest, hwires, hd, -⟩ := List.map_eq_cons_iff.mp hmap
        obtain rfl : d = data := hd
        simp only [hmsg, hwires] at heq
        subst heq
        refine ⟨_, left, E, hmsg, hrecv, rfl, rfl, .inr ⟨d, c, rest, rfl, hwires, ?_, ?_, ?_⟩⟩
        · simp
        · intro f hf
          simp [hf]
        · intro err hf
          simp [hf]

lemma Consistent.step (hc : t.Consistent) (h : t.step l = some t') : t'.Consistent := by
  cases l with
  | act e a =>
      obtain ⟨E, out, hact, hep, hlink, hwires, -, -⟩ := step_act h
      intro e'
      rw [hep, hlink, hwires]
      rcases e.eq_or_eq_peer e' with rfl | rfl
      · have hout := act_out hact
        have hqueue : E.txFrames = ((t.sys.ep e').popped a).txFrames ++ _ :=
          txFrames_of_step (e := .act a) (by simp [Endpoint.step, hact])
        simp only [Function.update_self, List.map_append, List.map_map, hc e', List.filterMap_append]
        rw [hqueue, ← hout]
        simp [Function.comp_def]
      · simp only [Function.update_of_ne e.peer_ne]
        exact hc e.peer
  | deliver e =>
      obtain ⟨msg, left, E, hmsg, hrecv, hep, hlink, hrest⟩ := step_deliver hc h
      have hne : e ≠ e.peer := e.peer_ne.symm
      intro e'
      rw [hep, hlink]
      rcases hrest with ⟨hb, hwires, -, -⟩ | ⟨data, c, rest, rfl, hhead, hwires, -, -⟩
      · rw [hwires]
        rcases e.eq_or_eq_peer e' with rfl | rfl
        · simp only [Function.update_self, Function.update_of_ne hne, recv_of_not_binary hrecv hb]
          exact hc e'
        · have := hc e.peer
          rw [hmsg, List.filterMap_cons_none hb] at this
          simpa only [Function.update_self, Function.update_of_ne e.peer_ne] using this
      · rw [hwires]
        rcases e.eq_or_eq_peer e' with rfl | rfl
        · have hqueue : E.txFrames = (t.sys.ep e').txFrames ++ _ :=
            txFrames_of_step (e := .recv (.binary data)) hrecv
          simp only [Function.update_self, Function.update_of_ne hne, List.map_append, List.map_map,
            hc e', hqueue]
          simp [Function.comp_def]
        · have := hc e.peer
          rw [hmsg, hhead] at this
          simp only [Function.update_self, Function.update_of_ne e.peer_ne]
          simpa [Message.binary?] using this

/-! ### One flow -/

variable {e : Side} {x : UInt32}

/-- The frames of the flow that side `e` has queued or sent and its peer has not read, with their
causes. -/
def wire (t : Traced) (x : UInt32) (e : Side) : List (Cause × Payload) :=
  (t.wires e).filterMap fun p => (onFlow x p.2).map fun q => (p.1, q)

lemma Consistent.wire (hc : t.Consistent) (x : UInt32) (e : Side) :
    (t.wire x e).map Prod.snd = t.sys.wire x e := by
  have hwires : (t.wire x e).map Prod.snd = ((t.wires e).map Prod.snd).filterMap (onFlow x) := by
    rw [Traced.wire, List.map_filterMap, List.filterMap_map]
    refine List.filterMap_congr fun p _ => ?_
    simp only [Function.comp_apply]
    cases onFlow x p.2 <;> rfl
  rw [hwires, hc e, List.filterMap_append, System.wire, queue, filterMap_onFlow]

lemma mem_wire_map {c c' : Cause} {p : Payload} {l : List Bytes}
    (h : (c', p) ∈ (l.map fun f => (c, f)).filterMap fun q : Cause × Bytes =>
      (onFlow x q.2).map fun r => (q.1, r)) : c' = c ∧ ∃ f ∈ l, onFlow x f = some p := by
  obtain ⟨q, hq, hp⟩ := List.mem_filterMap.mp h
  obtain ⟨f, hf, rfl⟩ := List.mem_map.mp hq
  obtain ⟨r, hr, heq⟩ := Option.map_eq_some_iff.mp hp
  obtain ⟨rfl, rfl⟩ := Prod.mk.inj heq
  exact ⟨rfl, f, hf, hr⟩

lemma wire_append {new : List (Cause × Bytes)} (h : t'.wires e = t.wires e ++ new) :
    t'.wire x e = t.wire x e ++ new.filterMap fun p => (onFlow x p.2).map fun q => (p.1, q) := by
  rw [wire, h, List.filterMap_append, wire]

/-- A step of end `e` on its own, seen from a flow. -/
structure ActOn (t : Traced) (e : Side) (a : Action) (x : UInt32) (t' : Traced) : Prop where
  queues : ∃ new, t'.wire x e = t.wire x e ++ new ∧
    ∀ q ∈ new, (t.sys.ep e).txOpen = true ∧ q.1 = .own e a ∧ Queues (t.sys.ep e) x a q.2
  peer_wire : t'.wire x e.peer = t.wire x e.peer
  peer : t'.sys.ep e.peer = t.sys.ep e.peer
  owes : Owes x (t.sys.ep e) (t'.sys.ep e)
  txOpen : (t'.sys.ep e).txOpen = true → (t.sys.ep e).txOpen = true
  grows : ((t.sys.ep e).binds x).length ≤ ((t'.sys.ep e).binds x).length
  connects : t'.connects = t.connects
  binds : t'.binds = t.binds

lemma act_on {a : Action} (h : t.step (.act e a) = some t') (x : UInt32) : ActOn t e a x t' := by
  obtain ⟨E, out, hact, hep, -, hwires, hconnects, hbinds⟩ := step_act h
  have hE : t'.sys.ep e = E := by simp [hep]
  have hstep : (t.sys.ep e).step (.act a) = some E := by simp [Endpoint.step, hact]
  refine ⟨⟨_, wire_append (by rw [hwires, Function.update_self]), fun q hq => ?_⟩, ?_,
    by simp [hep, Function.update_of_ne e.peer_ne], ?_, ?_, ?_, hconnects, hbinds⟩
  · obtain ⟨c, p⟩ := q
    obtain ⟨hc, f, hf, hp⟩ := mem_wire_map hq
    refine ⟨?_, hc, act_queues hact hf hp⟩
    by_contra hclosed
    simp [(closed_step hstep (by simpa using hclosed)).2] at hf
  · rw [wire, hwires, Function.update_of_ne e.peer_ne]
    rfl
  · rw [hE]
    exact act_owes hact
  · rw [hE]
    exact txOpen_of_step hstep
  · rw [hE, ← before_binds _ (.act a)]
    exact (updates_step hstep 0).length_binds x

/-- End `e` reads a message, seen from a flow, of which it may have a frame. -/
structure RecvOn (t : Traced) (e : Side) (x : UInt32) (head : Option (Cause × Payload))
    (t' : Traced) : Prop where
  peer_wire : t.wire x e.peer = head.toList ++ t'.wire x e.peer
  queues : ∃ new, t'.wire x e = t.wire x e ++ new ∧ ∀ q ∈ new, q.2 = .reset ∨
    (q.2.isData = true ∧ (t.sys.ep e).flows x = none ∧
      ∃ c p, head = some (c, .connect p) ∧ q.1 = .answer c)
  peer : t'.sys.ep e.peer = t.sys.ep e.peer
  learns : Learns x (head.map Prod.snd) (t.sys.ep e) (t'.sys.ep e)
  txOpen : (t'.sys.ep e).txOpen = true → (t.sys.ep e).txOpen = true
  grows : ((t.sys.ep e).binds x).length ≤ ((t'.sys.ep e).binds x).length
  connects : ∀ e' i, (e' = e → i < ((t.sys.ep e).streams x).length) →
    t'.connects e' x i = t.connects e' x i
  binds : ∀ e' i, (e' = e → i < ((t.sys.ep e).binds x).length) → t'.binds e' x i = t.binds e' x i
  entered : ∀ c p, head = some (c, p) →
    t'.connects e x ((t.sys.ep e).streams x).length = some (connectOf (t.sys.ep e) e x c) ∧
    t'.binds e x ((t.sys.ep e).binds x).length = some c

lemma onFlow_id {data : Bytes} {p : Payload} (h : onFlow x data = some p) :
    ∃ f, Frame.tryFrom data = .ok f ∧ f.id = x := by
  unfold onFlow at h
  split at h
  case h_1 f hf =>
    split_ifs at h with hid
    exact ⟨f, hf, by simpa using (Bool.and_eq_true_iff.mp hid).1⟩
  case h_2 => cases h

lemma enter_of_lt {g : Side → UInt32 → ℕ → Option Cause} {y : UInt32} {n : UInt32 → ℕ} {c : Cause}
    {e' : Side} {i : ℕ} (h : e' = e → i < n x) : enter g e y (n y) c e' x i = g e' x i := by
  refine if_neg ?_
  rintro ⟨he, rfl, rfl⟩
  exact absurd (h he) (lt_irrefl _)

/-- **A message that is read**, seen from a flow. -/
theorem recv_on (hc : t.Consistent) (h : t.step (.deliver e) = some t') (x : UInt32) :
    ∃ head, RecvOn t e x head t' ∧ ∀ c p, head = some (c, p) → ∃ data left rest,
      t.sys.link e.peer = .binary data :: left ∧ t.wires e.peer = (c, data) :: rest ∧
        onFlow x data = some p := by
  obtain ⟨msg, left, E, hmsg, hrecv, hep, -, hrest⟩ := step_deliver hc h
  have hE : t'.sys.ep e = E := by simp [hep]
  have hne : e ≠ e.peer := e.peer_ne.symm
  have hpeer : t'.sys.ep e.peer = t.sys.ep e.peer := by simp [hep, Function.update_of_ne e.peer_ne]
  have htx : (t'.sys.ep e).txOpen = true → (t.sys.ep e).txOpen = true := by
    rw [hE]
    exact txOpen_of_step (e := .recv msg) hrecv
  have hgrows : ((t.sys.ep e).binds x).length ≤ ((t'.sys.ep e).binds x).length := by
    rw [hE, ← before_binds _ (.recv msg)]
    exact (updates_step (e := .recv msg) hrecv 0).length_binds x
  have hlearns := recv_learns (x := x) hrecv
  rcases hrest with ⟨hb, hwires, hconnects, hbinds⟩ |
    ⟨data, c, rest, rfl, hhead, hwires, hok, herror⟩
  · have honFlow : msg.onFlow x = none := by
      cases msg with
      | binary data => cases hb
      | ping | pong | close => rfl
    refine ⟨none, ⟨?_, ⟨[], ?_, by simp⟩, hpeer, ?_, htx, hgrows, ?_, ?_, by simp⟩, by simp⟩
    · simp [wire, hwires]
    · simp [wire, hwires]
    · rw [hE]
      simpa [honFlow] using hlearns
    · simp [hconnects]
    · simp [hbinds]
  · have hentered : ∀ e' i, (e' = e → i < ((t.sys.ep e).streams x).length) →
        t'.connects e' x i = t.connects e' x i := by
      intro e' i hi
      cases hdec : Frame.tryFrom data with
      | error err => rw [(herror err hdec).1]
      | ok f =>
          rw [(hok f hdec).1]
          exact enter_of_lt (n := fun y => ((t.sys.ep e).streams y).length) hi
    have hbound : ∀ e' i, (e' = e → i < ((t.sys.ep e).binds x).length) →
        t'.binds e' x i = t.binds e' x i := by
      intro e' i hi
      cases hdec : Frame.tryFrom data with
      | error err => rw [(herror err hdec).2]
      | ok f =>
          rw [(hok f hdec).2]
          exact enter_of_lt (n := fun y => ((t.sys.ep e).binds y).length) hi
    have hown := congrFun hwires e
    rw [Function.update_self] at hown
    refine ⟨(onFlow x data).map fun p => (c, p), ⟨?_, ⟨_, wire_append hown, fun q hq => ?_⟩, hpeer,
      ?_, htx, hgrows, hentered, hbound, fun c' p hcp => ?_⟩, fun c' p hcp => ?_⟩
    · have hw : t'.wires e.peer = rest := by
        rw [hwires, Function.update_of_ne e.peer_ne, Function.update_self]
      rw [wire, hhead, wire, hw, List.filterMap_cons]
      cases onFlow x data <;> rfl
    · obtain ⟨c', p⟩ := q
      obtain ⟨rfl, f, hf, hp⟩ := mem_wire_map hq
      rcases recv_queued hrecv hf hp with rfl | ⟨hdata, ⟨r, hr⟩, hnone⟩
      · exact .inl rfl
      · have hr' : onFlow x data = some (.connect r) := hr
        exact .inr ⟨hdata, hnone, c, r, by simp [hr'], rfl⟩
    · rw [hE]
      have hsnd : ((onFlow x data).map fun p => (c, p)).map Prod.snd = onFlow x data := by
        cases onFlow x data <;> rfl
      rw [hsnd]
      exact hlearns
    · obtain ⟨q, hq, heq⟩ := Option.map_eq_some_iff.mp hcp
      obtain ⟨rfl, rfl⟩ := Prod.mk.inj heq
      obtain ⟨f, hf, rfl⟩ := onFlow_id hq
      obtain ⟨h₁, h₂⟩ := hok f hf
      exact ⟨by simp [h₁, record, enter], by simp [h₂, record, enter]⟩
    · obtain ⟨q, hq, heq⟩ := Option.map_eq_some_iff.mp hcp
      obtain ⟨rfl, rfl⟩ := Prod.mk.inj heq
      exact ⟨data, left, rest, hmsg, hhead, hq⟩

/-- The frame that is read is the next one of the flow. -/
lemma RecvOn.run {head : Option (Cause × Payload)} (hc : t.Consistent) (hc' : t'.Consistent)
    (hstep : t.step (.deliver e) = some t') (h : RecvOn t e x head t') :
    ∃ sent, (head = none ∧
        View.Run (t.sys.conn x e).opts (t.sys.conn x e).me .tau sent (t'.sys.conn x e).me ∧
        t'.sys.conn x e = { t.sys.conn x e with
          me := (t'.sys.conn x e).me, out := (t.sys.conn x e).out ++ sent }) ∨
      ∃ c p rest, head = some (c, p) ∧ (t.sys.conn x e).inn = p :: rest ∧
        View.Run (t.sys.conn x e).opts (t.sys.conn x e).me (.recv p) sent (t'.sys.conn x e).me ∧
        t'.sys.conn x e = { t.sys.conn x e with
          me := (t'.sys.conn x e).me
          out := (t.sys.conn x e).out ++ sent
          inn := rest
          log := (t.sys.conn x e).log ++ [(true, p)] } := by
  have hinn : (t.sys.conn x e).inn = head.toList.map Prod.snd ++ (t'.sys.conn x e).inn := by
    have hw := congrArg (List.map Prod.snd) h.peer_wire
    rw [List.map_append, hc.wire, hc'.wire] at hw
    exact hw
  obtain ⟨sent, ⟨hrun, heq⟩ | ⟨p, rest, hp, hrun, heq⟩⟩ := System.deliver_conn x (step_sys hstep)
  · have hsame := congrArg Conn.inn heq
    rw [hinn] at hsame
    have hnone : head = none := by
      have := congrArg List.length hsame
      cases head with
      | none => rfl
      | some q => simp at this
    exact ⟨sent, .inl ⟨hnone, hrun, heq⟩⟩
  · have hrest := congrArg Conn.inn heq
    rw [hp, show (t'.sys.conn x e).inn = rest from hrest] at hinn
    cases head with
    | none => simp at hinn
    | some q =>
        obtain ⟨rfl, -⟩ := List.cons.inj hinn
        exact ⟨sent, .inr ⟨q.1, _, rest, rfl, hp, hrun, heq⟩⟩

end Traced

end Penguin.Mux
