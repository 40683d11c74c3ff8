import Penguin.Mux.Actions

/-!
One flow of two connected multiplexors, seen from one of its ends.

A connection takes a step when this end does something on its own or processes the next
frame of its peer. An invariant that does not tell the ends apart and survives the steps of
this end holds in every state that the two endpoints reach: `conn_invariant`.
-/

namespace Penguin.Mux

open View Penguin.Lib.Transition

@[simp] lemma Side.peer_peer (e : Side) : e.peer.peer = e := by cases e <;> rfl

lemma Side.peer_ne (e : Side) : e.peer ≠ e := by cases e <;> decide

lemma Side.eq_or_eq_peer (e e' : Side) : e' = e ∨ e' = e.peer := by
  cases e <;> cases e' <;> simp [Side.peer]

structure Conn where
  opts : Options
  peerOpts : Options
  me : View
  peer : View
  /-- The frames this end has queued or sent and its peer has not read. -/
  out : List Payload
  /-- The same for the peer. -/
  inn : List Payload
  /-- The frames that have been processed; the flag says whether this end did. -/
  log : List (Bool × Payload)

namespace Conn

def new (o o' : Options) : Conn := ⟨o, o', View.new, View.new, [], [], []⟩

/-- The same flow from the other end. -/
def flip (c : Conn) : Conn :=
  ⟨c.peerOpts, c.opts, c.peer, c.me, c.inn, c.out, c.log.map fun p => (!p.1, p.2)⟩

/-- A step of this end. -/
inductive Step : Conn → Ev → Conn → Prop
  | own {c : Conn} {ev : Ev} {sent : List Payload} {V : View} (hev : ∀ p, ev ≠ .recv p)
      (h : View.Step c.opts c.me ev sent V) :
      Step c ev { c with me := V, out := c.out ++ sent }
  | recv {c : Conn} {p : Payload} {rest sent : List Payload} {V : View}
      (hin : c.inn = p :: rest) (h : View.Step c.opts c.me (.recv p) sent V) :
      Step c (.recv p)
        { c with me := V, out := c.out ++ sent, inn := rest, log := c.log ++ [(true, p)] }

variable {I : Conn → Prop} {ok : Conn → Ev → Prop}

/-- What survives steps survives runs: first without an event... -/
lemma run_tau (hstep : ∀ c ev c', I c → ok c ev → Step c ev c' → I c')
    (htau : ∀ c, ok c .tau) {o : Options} {V V' : View} {ev : Ev} {sent : List Payload}
    (h : View.Run o V ev sent V') {c : Conn} (hc : I c) (hev : ev = .tau) (ho : c.opts = o)
    (hme : c.me = V) : I { c with me := V', out := c.out ++ sent } := by
  induction h generalizing c with
  | idle V =>
      subst hme
      simpa using hc
  | cons hfirst _ ih =>
      subst ho hme hev
      have hnext := hstep c _ _ hc (htau c) (.own (by simp) hfirst)
      simpa using ih hnext rfl rfl rfl

/-- ... then with an event of this end ... -/
lemma run_own (hstep : ∀ c ev c', I c → ok c ev → Step c ev c' → I c')
    (htau : ∀ c, ok c .tau) {c : Conn} {V' : View} {ev : Ev} {sent : List Payload}
    (h : View.Run c.opts c.me ev sent V') (hev : ∀ p, ev ≠ .recv p) (hok : ok c ev) (hc : I c) :
    I { c with me := V', out := c.out ++ sent } := by
  cases h with
  | idle => simpa using hc
  | cons hfirst hrest =>
      have hnext := hstep c _ _ hc hok (.own hev hfirst)
      simpa using run_tau hstep htau hrest hnext rfl rfl rfl

/-- ... then with a frame of the peer. -/
lemma run_recv (hstep : ∀ c ev c', I c → ok c ev → Step c ev c' → I c')
    (htau : ∀ c, ok c .tau) {c : Conn} {V' : View} {p : Payload} {rest sent : List Payload}
    (h : View.Run c.opts c.me (.recv p) sent V') (hin : c.inn = p :: rest)
    (hok : ok c (.recv p)) (hc : I c) :
    I { c with me := V', out := c.out ++ sent, inn := rest, log := c.log ++ [(true, p)] } := by
  cases h with
  | cons hfirst hrest =>
      have hnext := hstep c _ _ hc hok (.recv hin hfirst)
      simpa using run_tau hstep htau hrest hnext rfl rfl rfl

end Conn

namespace System

/-- The frames of the flow that side `e` has queued or sent and its peer has not read. -/
def wire (s : System) (x : UInt32) (e : Side) : List Payload :=
  (s.link e).filterMap (Message.onFlow x) ++ (s.ep e).queue x

/-- The part of the history that concerns the flow, from the end `e`. -/
def flowLog (s : System) (x : UInt32) (e : Side) : List (Bool × Payload) :=
  s.log.filterMap fun p =>
    if p.2.id = x && !p.2.payload.isDatagram then some (p.1 == e, p.2.payload) else none

def conn (s : System) (x : UInt32) (e : Side) : Conn where
  opts := (s.ep e).opts
  peerOpts := (s.ep e.peer).opts
  me := (s.ep e).view x
  peer := (s.ep e.peer).view x
  out := s.wire x e
  inn := s.wire x e.peer
  log := s.flowLog x e

lemma flip_conn (s : System) (x : UInt32) (e : Side) : (s.conn x e).flip = s.conn x e.peer := by
  have hlog : (s.flowLog x e).map (fun p => (!p.1, p.2)) = s.flowLog x e.peer := by
    unfold flowLog
    rw [List.map_filterMap]
    congr 1
    funext p
    split_ifs
    · cases p.1 <;> cases e <;> simp [Side.peer]
    · rfl
  simp [conn, Conn.flip, hlog]

/-- A frame of the flow is entered into its history. -/
lemma logged_filterMap (x : UInt32) (e : Side) (msg : Message) :
    (logged e msg).filterMap (fun p =>
      if p.2.id = x && !p.2.payload.isDatagram then some (p.1 == e, p.2.payload) else none) =
    ((msg.onFlow x).map fun p => (true, p)).toList := by
  cases msg with
  | binary data =>
      cases hdec : Frame.tryFrom data with
      | error err => simp [logged, Message.onFlow, onFlow, hdec]
      | ok f =>
          by_cases hf : f.id = x ∧ f.payload.isDatagram = false
          · simp [logged, Message.onFlow, onFlow, hdec, hf]
          · simp [logged, Message.onFlow, onFlow, hdec, hf]
  | ping => rfl
  | pong => rfl
  | close => rfl

variable {s s' : System}

lemma act_conn {e : Side} {a : Action} (x : UInt32) (h : s.step (.act e a) = some s') :
    ∃ ev sent, (ev = .tau ∨ ev = a.event x) ∧
      View.Run (s.conn x e).opts (s.conn x e).me ev sent (s'.conn x e).me ∧
      s'.conn x e = { s.conn x e with
        me := (s'.conn x e).me, out := (s.conn x e).out ++ sent } := by
  obtain ⟨⟨E, out⟩, hact, hs⟩ := Option.map_eq_some_iff.mp h
  obtain ⟨hopts, ev, sent, hev, hrun, hq⟩ := Endpoint.act_sim x hact
  subst hs
  refine ⟨ev, sent, hev, by simpa [conn] using hrun, ?_⟩
  have hwire : s.wire x e ++ sent =
      (s.link e ++ out).filterMap (Message.onFlow x) ++ E.queue x := by
    rw [List.filterMap_append, List.append_assoc, hq, wire, List.append_assoc]
  simp [conn, hopts, wire, flowLog, Function.update_of_ne e.peer_ne]
  simpa [wire] using hwire.symm

lemma deliver_conn {e : Side} (x : UInt32) (h : s.step (.deliver e) = some s') :
    ∃ sent, (View.Run (s.conn x e).opts (s.conn x e).me .tau sent (s'.conn x e).me ∧
        s'.conn x e = { s.conn x e with
          me := (s'.conn x e).me, out := (s.conn x e).out ++ sent }) ∨
      ∃ p rest, (s.conn x e).inn = p :: rest ∧
        View.Run (s.conn x e).opts (s.conn x e).me (.recv p) sent (s'.conn x e).me ∧
        s'.conn x e = { s.conn x e with
          me := (s'.conn x e).me
          out := (s.conn x e).out ++ sent
          inn := rest
          log := (s.conn x e).log ++ [(true, p)] } := by
  simp only [step] at h
  split at h
  case h_2 => cases h
  case h_1 msg rest hlink =>
    obtain ⟨E, hrecv, hs⟩ := Option.map_eq_some_iff.mp h
    obtain ⟨hopts, sent, hrun, hq⟩ := Endpoint.recv_sim x hrecv
    subst hs
    refine ⟨sent, ?_⟩
    have hne : e ≠ e.peer := e.peer_ne.symm
    have hlog := logged_filterMap x e msg
    unfold Endpoint.messageEvent at hrun
    cases hmsg : msg.onFlow x with
    | none =>
        rw [hmsg] at hrun hlog
        refine .inl ⟨by simpa [conn] using hrun, ?_⟩
        simp [conn, hopts, wire, flowLog, Function.update_of_ne e.peer_ne,
          Function.update_of_ne hne, hlink, hmsg, hq] at hlog ⊢
        exact hlog
    | some p =>
        rw [hmsg] at hrun hlog
        refine .inr ⟨p, rest.filterMap (Message.onFlow x) ++ (s.ep e.peer).queue x, ?_, ?_, ?_⟩
        · simp [conn, wire, hlink, hmsg]
        · simpa [conn] using hrun
        · simp only [conn, wire, flowLog, List.filterMap_append, hlog]
          simp [hopts, Function.update_of_ne e.peer_ne, Function.update_of_ne hne, hq]

/-- **Invariants of a flow**: what does not tell the ends apart, holds of an unused flow and
survives the steps of one end holds of the flow in every state the endpoints reach. The
condition on the events of the flow follows from the one on the steps of the system. -/
theorem conn_invariant {I : Conn → Prop} {K : Conn → Ev → Prop} {okSystem : System → Label → Prop}
    (x : UInt32) (hflip : ∀ c, I c → I c.flip) (hstart : ∀ o o', I (Conn.new o o'))
    (hstep : ∀ c ev c', I c → K c ev → Conn.Step c ev c' → I c')
    (htau : ∀ c, K c .tau) (hrecv : ∀ c p, K c (.recv p))
    (hok : ∀ s e a, okSystem s (.act e a) → K (s.conn x e) (a.event x))
    {opts : Side → Options} {s : System} (h : Reach step okSystem (new opts) s) (e : Side) :
    I (s.conn x e) := by
  -- it is enough to have it at the end that takes the step
  have other : ∀ (s : System) (e e' : Side), I (s.conn x e) → I (s.conn x e') := by
    intro s e e' hI
    rcases e.eq_or_eq_peer e' with rfl | rfl
    · exact hI
    · rw [← flip_conn]
      exact hflip _ hI
  suffices hall : ∀ e, I (s.conn x e) from hall e
  refine h.invariant (I := fun s => ∀ e, I (s.conn x e)) (fun e => hstart (opts e) (opts e.peer)) ?_
  intro s l s' hI hl hs e'
  cases l with
  | act e a =>
      refine other s' e e' ?_
      obtain ⟨ev, sent, hev, hrun, hs'⟩ := act_conn x hs
      rw [hs']
      refine Conn.run_own hstep htau hrun ?_ ?_ (hI e)
      · have : ∀ p, a.event x ≠ .recv p := by
          intro p
          cases a <;> simp only [Action.event] <;> (try split_ifs) <;> simp
        rcases hev with rfl | rfl
        · simp
        · exact this
      · rcases hev with rfl | rfl
        · exact htau _
        · exact hok s e a hl
  | deliver e =>
      refine other s' e e' ?_
      obtain ⟨sent, ⟨hrun, hs'⟩ | ⟨p, rest, hin, hrun, hs'⟩⟩ := deliver_conn x hs
      · rw [hs']
        exact Conn.run_own hstep htau hrun (by simp) (htau _) (hI e)
      · rw [hs']
        exact Conn.run_recv hstep htau hrun hin (hrecv _ p) (hI e)

lemma opts_reach {okSystem : System → Label → Prop} {opts : Side → Options}
    (h : Reach step okSystem (new opts) s) (e : Side) : (s.ep e).opts = opts e := by
  refine h.invariant (I := fun s => ∀ e, (s.ep e).opts = opts e) (fun _ => rfl) ?_ e
  intro s l s' hI _ hs e'
  cases l with
  | act e a =>
      obtain ⟨⟨E, out⟩, hact, rfl⟩ := Option.map_eq_some_iff.mp hs
      rcases e.eq_or_eq_peer e' with rfl | rfl
      · simpa using (Endpoint.act_sim 0 hact).1.trans (hI _)
      · simpa [Function.update_of_ne e.peer_ne] using hI _
  | deliver e =>
      simp only [step] at hs
      split at hs
      case h_2 => cases hs
      case h_1 msg rest _ =>
        obtain ⟨E, hrecv, rfl⟩ := Option.map_eq_some_iff.mp hs
        rcases e.eq_or_eq_peer e' with rfl | rfl
        · simpa using (Endpoint.recv_sim 0 hrecv).1.trans (hI _)
        · simpa [Function.update_of_ne e.peer_ne] using hI _

end System

end Penguin.Mux
