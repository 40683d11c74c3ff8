import Penguin.Mux.Closing
import Penguin.Mux.Datagrams

/-!
Streams and bind requests reach the user of the peer.

`new_stream_channel` and `request_bind` ask the peer for something, and `accept_stream_channel` and
`next_bind_request` hand it to the user there. In between there is a queue with a bound and, when
that is full, the one request with which the task waits for room. Two endpoints are run together
with a record of what was asked for and handed over. No step reads the record.
-/

namespace Penguin.Mux

open Penguin.Lib Penguin.Lib.Lists Penguin.Lib.Transition

/-- What the user can ask the peer for. -/
inductive Kind
  | stream
  | bind
  deriving DecidableEq

/-- A request, as the user of the peer sees it. -/
structure Asked where
  id : UInt32
  bindType : Option BindType
  host : Bytes
  port : UInt16
  deriving DecidableEq

def Frame.asked? (k : Kind) (f : Frame) : Option Asked :=
  match k, f.payload with
  | .stream, .connect p => some ⟨f.id, none, p.targetHost, p.targetPort⟩
  | .bind, .bind p => some ⟨f.id, some p.bindType, p.targetHost, p.targetPort⟩
  | _, _ => none

namespace Endpoint

variable {E E' F : Endpoint} {us : List Frame} {k : Kind} {x : UInt32 × ℕ} {q : Asked}

/-- The queue that the user takes requests from. -/
def backlog (E : Endpoint) : Kind → List (UInt32 × ℕ)
  | .stream => E.conRecvStream
  | .bind => E.bndRequests

/-- The request with which the task waits for room. -/
def standing (E : Endpoint) (k : Kind) : List (UInt32 × ℕ) :=
  match E.phase, k, E.blocked with
  | .running, .stream, some (.stream id i) => [(id, i)]
  | .running, .bind, some (.bind id i) => [(id, i)]
  | _, _, _ => []

/-- What was asked for with a request. -/
def lookUp (E : Endpoint) (k : Kind) (x : UInt32 × ℕ) : Option Asked :=
  match k with
  | .stream => (E.dests x.1)[x.2]?.map fun d => ⟨x.1, none, d.1, d.2⟩
  | .bind =>
    (E.payloads x.1)[x.2]?.map fun p => ⟨x.1, some p.bindType, p.targetHost, p.targetPort⟩

end Endpoint

def Options.room (o : Options) : Kind → ℕ
  | .stream => o.streamBufferSize
  | .bind => o.bindBufferSize

/-- The record beside the two endpoints. -/
structure Accepting where
  sys : System
  /-- What was asked for with a frame that was queued. -/
  asked : Side → Kind → List Asked
  /-- What was handed to the user. -/
  given : Side → Kind → List Asked

namespace Accepting

def new (opts : Side → Options) : Accepting :=
  ⟨System.new opts, fun _ _ => [], fun _ _ => []⟩

/-- What a step asks the peer for. -/
def asks (E : Endpoint) (k : Kind) (a : Action) : List Asked :=
  match k, a with
  | .stream, .sendConnect id j =>
    match (E.calls id)[j]? with
    | some c => if E.txOpen then [⟨id, none, c.host, c.port⟩] else []
    | none => []
  | .bind, .sendBind id j =>
    match (E.bindCalls id)[j]? with
    | some c => if E.txOpen then [⟨id, some c.bindType, c.host, c.port⟩] else []
    | none => []
  | _, _ => []

/-- What a step hands to the user. -/
def gives (E : Endpoint) (k : Kind) (a : Action) : List Asked :=
  match k, a with
  | .stream, .acceptStreamChannel => (E.backlog k).head?.toList.filterMap (E.lookUp k)
  | .bind, .nextBindRequest => (E.backlog k).head?.toList.filterMap (E.lookUp k)
  | _, _ => []

def record (m : Accepting) (s : System) : Label → Accepting
  | .act e a => {
      sys := s
      asked := Function.update m.asked e fun k => m.asked e k ++ asks (m.sys.ep e) k a
      given := Function.update m.given e fun k => m.given e k ++ gives (m.sys.ep e) k a }
  | .deliver _ => { m with sys := s }

def step (m : Accepting) (l : Label) : Option Accepting :=
  (m.sys.step l).map fun s => m.record s l

/-- The requests that side `e` has queued or sent and its peer has not read. -/
def flight (m : Accepting) (e : Side) (k : Kind) : List Asked := m.sys.flight (Frame.asked? k) e

/-- Side `e` still takes requests. -/
def Serves (m : Accepting) (e : Side) : Prop :=
  (m.sys.ep e).phase = .running ∧ (m.sys.ep e).muxAlive = true

/-- What a frame asks for is not refused: its flow id is free, or bind requests are taken. -/
def Welcome (E : Endpoint) (f : Frame) : Prop :=
  match f.payload with
  | .connect _ => (E.flows f.id).isSome = false
  | .bind _ => E.opts.bindBufferSize ≠ 0
  | _ => True

/-- The peer of side `e` reads no request that it refuses. -/
def Hospitable (e : Side) (m : Accepting) : Label → Prop
  | .act _ _ => True
  | .deliver e' => e' = e.peer →
      ∀ f ∈ (m.sys.link e).head?.bind Message.frame?, Welcome (m.sys.ep e.peer) f

instance (E : Endpoint) (f : Frame) : Decidable (Welcome E f) := by
  unfold Welcome
  split <;> infer_instance

instance (e : Side) (m : Accepting) (l : Label) : Decidable (Hospitable e m l) :=
  match l with
  | .act _ _ => inferInstanceAs (Decidable True)
  | .deliver e' => inferInstanceAs (Decidable (e' = e.peer → ∀ f ∈ _, _))

/-- What an endpoint has of the channel for requests of one kind, where `rest` is still to come. -/
structure Holds (E : Endpoint) (k : Kind) (rest : List Asked) (c : Lossy.Channel Asked) :
    Prop where
  flight : ∃ standing : List Asked,
    (E.standing k).map (E.lookUp k) = standing.map some ∧ c.flight = standing ++ rest
  buffer : (E.backlog k).map (E.lookUp k) = c.buffer.map some
  receiving : c.receiving = E.muxAlive

/-- The channel for requests of one kind from side `e` to its peer. -/
structure Shows (m : Accepting) (e : Side) (k : Kind) (c : Lossy.Channel Asked) : Prop where
  holds : Holds (m.sys.ep e.peer) k (m.flight e k) c
  sent : c.sent = m.asked e k
  taken : c.taken = m.given e.peer k

end Accepting

namespace Endpoint

variable {E E' F : Endpoint} {us : List Frame} {k : Kind} {x : UInt32 × ℕ} {q : Asked}

lemma lookUp_of_prefix (hdests : ∀ id, E.dests id <+: E'.dests id)
    (hpayloads : ∀ id, E.payloads id <+: E'.payloads id) (h : E.lookUp k x = some q) :
    E'.lookUp k x = some q := by
  cases k with
  | stream =>
      obtain ⟨d, hd, rfl⟩ := Option.map_eq_some_iff.mp h
      simp [lookUp, getElem?_of_prefix (hdests x.1) hd]
  | bind =>
      obtain ⟨p, hp, rfl⟩ := Option.map_eq_some_iff.mp h
      simp [lookUp, getElem?_of_prefix (hpayloads x.1) hp]

lemma map_lookUp_of_prefix (hdests : ∀ id, E.dests id <+: E'.dests id)
    (hpayloads : ∀ id, E.payloads id <+: E'.payloads id) {xs : List (UInt32 × ℕ)}
    {qs : List Asked} (h : xs.map (E.lookUp k) = qs.map some) :
    xs.map (E'.lookUp k) = qs.map some := by
  rw [← h]
  refine List.map_congr_left fun x hx => ?_
  have hmem : E.lookUp k x ∈ qs.map some := h ▸ List.mem_map_of_mem hx
  obtain ⟨q, -, hq⟩ := List.mem_map.mp hmem
  rw [← hq]
  exact lookUp_of_prefix hdests hpayloads hq.symm

lemma Spares.map_lookUp (h : Spares .dests E us E') {xs : List (UInt32 × ℕ)} {qs : List Asked}
    (hxs : xs.map (E.lookUp k) = qs.map some) : xs.map (E'.lookUp k) = qs.map some :=
  map_lookUp_of_prefix (fun id => h.streams id trivial) h.payloads hxs

lemma Spares.backlog (h : Spares .dests E us E') (k : Kind) : E'.backlog k = E.backlog k := by
  cases k with
  | stream => exact h.conRecvStream
  | bind => exact h.bndRequests

lemma standing_of_blocked (h : E.blocked = none) (k : Kind) : E.standing k = [] := by
  unfold standing
  split <;> simp_all

lemma standing_of_not_running (h : E.phase ≠ .running) (k : Kind) : E.standing k = [] := by
  unfold standing
  split <;> simp_all

lemma standing_stream {id : UInt32} {i : ℕ} (hrun : E.phase = .running)
    (hb : E.blocked = some (.stream id i)) : E.standing .stream = [(id, i)] := by
  simp [standing, hrun, hb]

lemma standing_bind {id : UInt32} {i : ℕ} (hrun : E.phase = .running)
    (hb : E.blocked = some (.bind id i)) : E.standing .bind = [(id, i)] := by
  simp [standing, hrun, hb]

/-- As long as the task runs, the request with which it waits for room is the same. -/
lemma Spares.standing (h : Spares .dests E us E') (hrun : E'.phase = .running) (k : Kind) :
    E'.standing k = E.standing k := by
  obtain ⟨hrun', hb⟩ := h.waits hrun
  simp only [Endpoint.standing, hrun, hrun', hb]

lemma lookUp_congr (hstreams : E'.streams = E.streams) (hbinds : E'.binds = E.binds) (k : Kind) :
    E'.lookUp k = E.lookUp k := by
  funext x
  cases k <;> simp [lookUp, dests, payloads, hstreams, hbinds]

/-- While a message is read, the task does not wait for room. -/
lemma standing_of_recv {msg : Message} (h : E.recv msg = some E') (k : Kind) :
    E.standing k = [] := by
  obtain ⟨-, hb, -⟩ | ⟨res, hph, -⟩ := recv_cases h
  · exact standing_of_blocked hb k
  · exact standing_of_not_running (by simp [hph]) k

lemma alive_of_act {a : Action} {out : List Message} (h : E.act a = some (E', out))
    (halive : E'.muxAlive = true) : E.muxAlive = true := by
  by_cases ha : a = .resume
  · subst ha
    have hres : E.resume = some E' := by
      obtain ⟨F, hF, heq⟩ := Option.map_eq_some_iff.mp h
      rw [hF, (Prod.mk.inj heq).1]
    obtain ⟨G, hG, -, hsame, -⟩ := (resume_resumes .dests hres).posts
    exact hsame.symm.trans (hG.muxAlive.symm.trans halive)
  · have hserved : (E.served a).muxAlive = true :=
      (act_spares .dests h ha (Watch.dests_permits a)).muxAlive.symm.trans halive
    cases a <;> first | exact hserved | cases hserved

lemma alive_of_recv {msg : Message} (h : E.recv msg = some E') : E'.muxAlive = E.muxAlive := by
  obtain ⟨-, hsp⟩ | ⟨f, F, -, hputs, hsp⟩ := recv_puts .dests h
  · exact hsp.muxAlive
  · obtain ⟨G, hG, -, hF, -⟩ := hputs.posts
    rw [hsp.muxAlive, hF, hG.muxAlive]

end Endpoint

namespace Accepting

/-! ### One step -/

variable {m m' : Accepting} {e : Side} {k : Kind} {c : Lossy.Channel Asked}

lemma seesOnlyForUser (k : Kind) : System.SeesOnlyForUser (Frame.asked? k) := by
  intro f hf
  cases k <;> cases hp : f.payload <;> simp [hp, Payload.forUser, Frame.asked?] at hf ⊢

/-- The requests among what a step queues arrive as they were asked. -/
lemma filterMap_posts (E : Endpoint) (k : Kind) (a : Action) : (E.posts a).filterMap (fun f =>
      System.seen (Frame.asked? k) (.binary (Endpoint.finalize f))) = asks E k a := by
  have hone : ∀ {f : Frame}, f.payload.isDatagram = false →
      [f].filterMap (fun f => System.seen (Frame.asked? k) (.binary (Endpoint.finalize f))) =
        (f.asked? k).toList := by
    intro f hf
    cases hq : f.asked? k with
    | none => rw [List.filterMap_cons_none (by rw [System.seen_finalize hf, hq])]; rfl
    | some q => rw [List.filterMap_cons_some (by rw [System.seen_finalize hf, hq])]; rfl
  cases a with
  | sendConnect id j =>
      simp only [Endpoint.posts]
      cases hc : (E.calls id)[j]? with
      | none => cases k <;> simp [asks, hc]
      | some c =>
          dsimp only
          split_ifs with hopen
          · rw [hone rfl]
            cases k <;> simp [asks, hc, hopen, Frame.asked?, Frame.newConnect]
          · cases k <;> simp [asks, hc, hopen]
  | sendBind id j =>
      simp only [Endpoint.posts]
      cases hc : (E.bindCalls id)[j]? with
      | none => cases k <;> simp [asks, hc]
      | some c =>
          dsimp only
          split_ifs with hopen
          · rw [hone rfl]
            cases k <;> simp [asks, hc, hopen, Frame.asked?, Frame.newBind]
          · cases k <;> simp [asks, hc, hopen]
  | sendDatagram d =>
      simp only [Endpoint.posts]
      split_ifs with hlong hopen
      · cases k <;> rfl
      · have hnone : System.seen (Frame.asked? k) (.binary (Endpoint.finalize
            (Frame.newDatagramOwned d.flowId d.targetHost d.targetPort d.data))) = none := by
          rw [System.seen_datagram _ (Nat.not_lt.mp hlong)]
          cases k <;> simp [Frame.asked?, Frame.newDatagramOwned]
        simp only [List.filterMap_cons, hnone]
        cases k <;> rfl
      · cases k <;> rfl
  | _ => cases k <;> rfl

/-- What the channel from side `e` has done at the end of a step: only what it may do, and if the
peer still takes requests and refused none, nothing was lost. -/
def Follows (m m' : Accepting) (e : Side) (k : Kind) (careful : Prop)
    (c : Lossy.Channel Asked) : Prop :=
  ∃ c', Shows m' e k c' ∧ Reach (Lossy.step ((m.sys.ep e.peer).opts.room k)) Any c c' ∧
    (m'.Serves e.peer → careful →
      Reach (Lossy.step ((m.sys.ep e.peer).opts.room k)) (fun _ op => op.Careful) c c')

section Holding

variable {E E' F G : Endpoint} {us : List Frame} {rest taken : List Asked} {x : UInt32 × ℕ}
  {q : Asked} {cap : ℕ} {careful : Prop}

lemma Holds.congr (h : Holds F k rest c) (hstanding : E'.standing k = F.standing k)
    (hbacklog : E'.backlog k = F.backlog k) (hlook : E'.lookUp k = F.lookUp k)
    (halive : E'.muxAlive = F.muxAlive) : Holds E' k rest c where
  flight := by rw [hstanding, hlook]; exact h.flight
  buffer := by rw [hbacklog, hlook]; exact h.buffer
  receiving := h.receiving.trans halive.symm

lemma Holds.flight_of_nil (h : Holds E k rest c) (hnil : E.standing k = []) : c.flight = rest := by
  obtain ⟨standing, hstanding, hflight⟩ := h.flight
  obtain rfl : standing = [] := by simpa [hnil] using hstanding.symm
  exact hflight

/-- Steps that spare what waits for the user are nothing for the channel, unless the task ends while
it waits for room. -/
lemma Holds.spares (cap : ℕ) (h : Holds F k rest c) (hs : Endpoint.Spares .dests F us E') :
    ∃ c', Holds E' k rest c' ∧ Reach (Lossy.step cap) Any c c' ∧ c'.sent = c.sent ∧
      c'.taken = c.taken ∧ (E'.phase = .running → c' = c) := by
  obtain ⟨standing, hstanding, hflight⟩ := h.flight
  have hbuffer := hs.map_lookUp h.buffer
  rw [← hs.backlog k] at hbuffer
  have halive : c.receiving = E'.muxAlive := h.receiving.trans hs.muxAlive.symm
  by_cases hrun : E'.phase = .running
  · refine ⟨c, ⟨⟨standing, ?_, hflight⟩, hbuffer, halive⟩, .start, rfl, rfl, fun _ => rfl⟩
    rw [hs.standing hrun k]
    exact hs.map_lookUp hstanding
  · refine ⟨{ c with flight := rest, lost := c.lost ++ standing }, ⟨⟨[], ?_, rfl⟩, hbuffer, halive⟩,
      Lossy.reach_lose standing hflight, rfl, rfl, fun hrun' => absurd hrun' hrun⟩
    rw [Endpoint.standing_of_not_running hrun k]
    rfl

/-- With nothing waiting for room it is nothing at all. -/
lemma Holds.spares_of_nil (h : Holds F k rest c) (hs : Endpoint.Spares .dests F us E')
    (hnil : F.standing k = []) : Holds E' k rest c ∧ E'.standing k = [] := by
  have hnil' : E'.standing k = [] := by
    by_cases hrun : E'.phase = .running
    · rw [hs.standing hrun k, hnil]
    · exact Endpoint.standing_of_not_running hrun k
  obtain ⟨standing, hstanding, hflight⟩ := h.flight
  have hbuffer := hs.map_lookUp h.buffer
  rw [← hs.backlog k] at hbuffer
  refine ⟨⟨⟨standing, ?_, hflight⟩, hbuffer, h.receiving.trans hs.muxAlive.symm⟩, hnil'⟩
  rw [hnil] at hstanding
  rw [hnil', ← hstanding]
  rfl

/-- A request that waits for room can be seen as one that is still to come. -/
lemma Holds.unblock (h : Holds E k rest c) : ∃ standing : List Asked,
    (E.standing k).map (E.lookUp k) = standing.map some ∧
    Holds { E with blocked := none } k (standing ++ rest) c := by
  obtain ⟨standing, hstanding, hflight⟩ := h.flight
  refine ⟨standing, hstanding, ⟨[], ?_, hflight⟩, ?_, h.receiving⟩
  · rw [Endpoint.standing_of_blocked rfl]
    rfl
  · rw [Endpoint.lookUp_congr rfl rfl]
    exact h.buffer

/-- What has become of the channel when an endpoint holds it again. It has done what it may do, and
`taken` was taken from it. While the task and the user go on and nothing is refused, nothing was
lost. -/
def Leads (cap : ℕ) (c : Lossy.Channel Asked) (E : Endpoint) (k : Kind) (rest taken : List Asked)
    (careful : Prop) : Prop :=
  ∃ c', Holds E k rest c' ∧ c'.sent = c.sent ∧ c'.taken = c.taken ++ taken ∧
    Reach (Lossy.step cap) Any c c' ∧
    (E.phase = .running → E.muxAlive = true → careful →
      Reach (Lossy.step cap) (fun _ op => op.Careful) c c')

lemma Holds.stays (h : Holds E k rest c) : Leads cap c E k rest [] careful :=
  ⟨c, h, rfl, (List.append_nil _).symm, .start, fun _ _ _ => .start⟩

lemma Leads.spares (h : Leads cap c F k rest taken careful)
    (hs : Endpoint.Spares .dests F us E') : Leads cap c E' k rest taken careful := by
  obtain ⟨d, hF, hsent, htaken, hreach, hcareful⟩ := h
  obtain ⟨c', hc', hreach', hsent', htaken', hsame⟩ := hF.spares cap hs
  refine ⟨c', hc', hsent'.trans hsent, htaken'.trans htaken, hreach.trans hreach',
    fun hrun halive hok => ?_⟩
  rw [hsame hrun]
  exact hcareful (hs.waits hrun).1 (hs.muxAlive ▸ halive) hok

lemma Holds.arrives (h : Holds G k (q :: rest) c) (hnil : G.standing k = [])
    (hnil' : F.standing k = []) (hq : G.lookUp k x = some q) (hlook : F.lookUp k = G.lookUp k)
    (hbacklog : F.backlog k = G.backlog k ++ [x]) (halive : G.muxAlive = true)
    (halive' : F.muxAlive = true) (hroom : (G.backlog k).length < cap) :
    Leads cap c F k rest [] careful := by
  have hflight := h.flight_of_nil hnil
  have hlength : (G.backlog k).length = c.buffer.length := by
    simpa using congrArg List.length h.buffer
  have hreceiving : c.receiving = true := h.receiving.trans halive
  have hlt : c.buffer.length < cap := hlength ▸ hroom
  have hstep : Lossy.step cap c .arrive =
      some { c with flight := rest, buffer := c.buffer ++ [q] } := by
    simp [Lossy.step, hflight, hreceiving, hlt]
  refine ⟨{ c with flight := rest, buffer := c.buffer ++ [q] },
    ⟨⟨[], by rw [hnil']; rfl, rfl⟩, ?_, ?_⟩, rfl, (List.append_nil _).symm,
    .next .start trivial hstep, fun _ _ _ => .next .start (l := .arrive) trivial hstep⟩
  · rw [hbacklog, List.map_append, hlook, h.buffer, List.map_append, List.map_singleton, hq]
    rfl
  · exact hreceiving.trans halive'.symm

/-- The next requests are given up. -/
lemma Holds.loses (lost : List Asked) (h : Holds E k (lost ++ rest) c)
    (hnil : E.standing k = []) (hwhy : E.phase = .running → E.muxAlive = true → ¬ careful) :
    Leads cap c E k rest [] careful :=
  ⟨{ c with flight := rest, lost := c.lost ++ lost },
    ⟨⟨[], by rw [hnil]; rfl, rfl⟩, h.buffer, h.receiving⟩, rfl, (List.append_nil _).symm,
    Lossy.reach_lose lost (h.flight_of_nil hnil),
    fun hrun halive hok => absurd hok (hwhy hrun halive)⟩

/-- The next request has to wait for room, if there is a task that waits. -/
lemma Holds.blocks (h : Holds G k (q :: rest) c) (hnil : G.standing k = [])
    (hstanding : F.phase = .running → F.standing k = [x]) (hq : G.lookUp k x = some q)
    (hlook : F.lookUp k = G.lookUp k) (hbacklog : F.backlog k = G.backlog k)
    (halive : F.muxAlive = G.muxAlive) : Leads cap c F k rest [] careful := by
  have hcoming := h.flight_of_nil hnil
  have hbuffer : (F.backlog k).map (F.lookUp k) = c.buffer.map some := by
    rw [hbacklog, hlook, h.buffer]
  have hreceiving := h.receiving.trans halive.symm
  by_cases hrun : F.phase = .running
  · refine Holds.stays ⟨⟨[q], ?_, hcoming⟩, hbuffer, hreceiving⟩
    rw [hstanding hrun, hlook, List.map_singleton, hq]
    rfl
  · have hgone : F.standing k = [] := Endpoint.standing_of_not_running hrun k
    have hF : Holds F k ([q] ++ rest) c := ⟨⟨[], by rw [hgone]; rfl, hcoming⟩, hbuffer, hreceiving⟩
    exact hF.loses _ hgone fun hrun' => absurd hrun' hrun

lemma Holds.takes {xs : List (UInt32 × ℕ)} (h : Holds E k rest c) (hx : E.backlog k = x :: xs)
    (hbacklog : F.backlog k = xs) (hstanding : F.standing k = E.standing k)
    (hlook : F.lookUp k = E.lookUp k) (halive : F.muxAlive = E.muxAlive) :
    Leads cap c F k rest ([x].filterMap (E.lookUp k)) careful := by
  have hbuffer := h.buffer
  rw [hx, List.map_cons] at hbuffer
  obtain ⟨q, qs, hqs, hq, hqs'⟩ := List.map_eq_cons_iff.mp hbuffer.symm
  have hstep : Lossy.step cap c .take =
      some { c with buffer := qs, taken := c.taken ++ [q] } := by
    simp [Lossy.step, hqs]
  have hgiven : [x].filterMap (E.lookUp k) = [q] := by simp [← hq]
  refine ⟨{ c with buffer := qs, taken := c.taken ++ [q] },
    ⟨?_, ?_, h.receiving.trans halive.symm⟩, rfl, by rw [hgiven], .next .start trivial hstep,
    fun _ _ _ => .next .start (l := .take) trivial hstep⟩
  · rw [hstanding, hlook]
    exact h.flight
  · rw [hbacklog, hlook]
    exact hqs'.symm

lemma Holds.closes (h : Holds E k rest c) (hbacklog : F.backlog k = [])
    (hstanding : F.standing k = E.standing k) (hlook : F.lookUp k = E.lookUp k)
    (hdead : F.muxAlive = false) : Leads cap c F k rest [] careful := by
  have hstep : Lossy.step cap c .close =
      some { c with receiving := false, buffer := [], lost := c.lost ++ c.buffer } := rfl
  refine ⟨{ c with receiving := false, buffer := [], lost := c.lost ++ c.buffer },
    ⟨?_, by rw [hbacklog]; rfl, hdead.symm⟩, rfl, (List.append_nil _).symm,
    .next .start trivial hstep, fun _ halive => absurd (halive.symm.trans hdead) (by simp)⟩
  rw [hstanding, hlook]
  exact h.flight

/-! ### What an endpoint does with the channel -/

/-- The request that waits for room is looked up as one. -/
lemma standing_singleton {standing : List Asked} (hx : E.standing k = [x])
    (h : (E.standing k).map (E.lookUp k) = standing.map some) :
    ∃ q, standing = [q] ∧ E.lookUp k x = some q := by
  rw [hx, List.map_singleton] at h
  obtain ⟨q, hq, hlook⟩ := List.map_eq_singleton_iff.mp h.symm
  exact ⟨q, hq, hlook.symm⟩

lemma leads_resume (h : Holds E k rest c) (hres : E.resume = some E') :
    Leads (E.opts.room k) c E' k rest [] careful := by
  have hrun : E.phase = .running := by cases Endpoint.acts_resume hres <;> assumption
  obtain ⟨standing, hstanding, hG⟩ := h.unblock
  have hnil : Endpoint.standing { E with blocked := none } k = [] :=
    Endpoint.standing_of_blocked rfl k
  have hlook : Endpoint.lookUp { E with blocked := none } k = E.lookUp k :=
    Endpoint.lookUp_congr rfl rfl k
  -- a request of the other kind waits
  have hother : ∀ {F : Endpoint}, E.standing k = [] → F.blocked = none →
      F.backlog k = E.backlog k → F.lookUp k = E.lookUp k → F.muxAlive = E.muxAlive →
      Leads (E.opts.room k) c F k rest [] careful := by
    intro F hE hfree hbacklog hlookF halive
    exact (h.congr ((Endpoint.standing_of_blocked hfree k).trans hE.symm) hbacklog hlookF
      halive).stays
  cases Endpoint.resume_resumes .dests hres with
  | nothing hsp => exact h.stays.spares hsp
  | gaveUp hgone hsp =>
      refine (hG.loses _ hnil fun _ halive => ?_).spares hsp
      exact absurd (halive.symm.trans hgone) (by simp)
  | @stream id i hb halive hroom hsp =>
      refine Leads.spares ?_ hsp
      cases k with
      | stream =>
          obtain ⟨q, rfl, hq⟩ := standing_singleton (Endpoint.standing_stream hrun hb) hstanding
          exact hG.arrives hnil (Endpoint.standing_of_blocked rfl _) (hlook ▸ hq)
            (Endpoint.lookUp_congr rfl rfl _) rfl halive halive hroom
      | bind =>
          exact hother (by simp [Endpoint.standing, hb]) rfl rfl
            (Endpoint.lookUp_congr rfl rfl _) rfl
  | @bind id i hb halive hroom hsp =>
      refine Leads.spares ?_ hsp
      cases k with
      | bind =>
          obtain ⟨q, rfl, hq⟩ := standing_singleton (Endpoint.standing_bind hrun hb) hstanding
          exact hG.arrives hnil (Endpoint.standing_of_blocked rfl _) (hlook ▸ hq)
            (Endpoint.lookUp_congr rfl rfl _) rfl halive halive hroom
      | stream =>
          exact hother (by simp [Endpoint.standing, hb]) rfl rfl
            (Endpoint.lookUp_congr rfl rfl _) rfl

lemma leads_act {a : Action} {out : List Message} (h : Holds E k rest c)
    (hact : E.act a = some (E', out)) :
    Leads (E.opts.room k) c E' k rest (gives E k a) careful := by
  by_cases ha : a = .resume
  · subst ha
    have hgives : gives E k .resume = [] := by cases k <;> rfl
    obtain ⟨F, hF, heq⟩ := Option.map_eq_some_iff.mp hact
    obtain rfl : F = E' := (Prod.mk.inj heq).1
    rw [hgives]
    exact leads_resume h hF
  refine Leads.spares ?_ (Endpoint.act_spares .dests hact ha (Watch.dests_permits a))
  have hlook : (E.served a).lookUp k = E.lookUp k := by
    cases a <;> exact Endpoint.lookUp_congr rfl rfl k
  have hstanding : (E.served a).standing k = E.standing k := by cases a <;> rfl
  have hplain : (E.served a).backlog k = E.backlog k → (E.served a).muxAlive = E.muxAlive →
      gives E k a = [] → Leads (E.opts.room k) c (E.served a) k rest (gives E k a) careful := by
    intro hbacklog halive hnil
    rw [hnil]
    exact (h.congr hstanding hbacklog hlook halive).stays
  have htake : ∀ x xs, E.backlog k = x :: xs → (E.served a).backlog k = xs →
      (E.served a).muxAlive = E.muxAlive →
      gives E k a = (E.backlog k).head?.toList.filterMap (E.lookUp k) →
      Leads (E.opts.room k) c (E.served a) k rest (gives E k a) careful := by
    intro x xs hx hxs halive hgives
    rw [hgives, hx]
    exact h.takes hx hxs hstanding hlook halive
  cases Endpoint.acts hact with
  | @acceptStreamChannel id i xs hqueue =>
      cases k with
      | stream =>
          exact htake (id, i) xs hqueue (by simp [Endpoint.served, Endpoint.backlog, hqueue]) rfl rfl
      | bind => exact hplain rfl rfl rfl
  | @nextBindRequest id i xs hqueue =>
      cases k with
      | bind =>
          exact htake (id, i) xs hqueue (by simp [Endpoint.served, Endpoint.backlog, hqueue]) rfl rfl
      | stream => exact hplain rfl rfl rfl
  | dropMux halive =>
      have hgives : gives E k .dropMux = [] := by cases k <;> rfl
      rw [hgives]
      exact h.closes (by cases k <;> rfl) hstanding hlook rfl
  | _ => cases k <;> exact hplain rfl rfl rfl

lemma asked_connect {f : Frame} {p : ConnectPayload} (hf : f.payload = .connect p) :
    f.asked? .stream = some ⟨f.id, none, p.targetHost, p.targetPort⟩ := by
  simp [Frame.asked?, hf]

lemma asked_bind {f : Frame} {p : BindPayload} (hf : f.payload = .bind p) :
    f.asked? .bind = some ⟨f.id, some p.bindType, p.targetHost, p.targetPort⟩ := by
  simp [Frame.asked?, hf]

lemma asked_cases {f : Frame} (h : f.asked? k = some q) :
    (∃ p, f.payload = .connect p) ∨ ∃ p, f.payload = .bind p := by
  unfold Frame.asked? at h
  cases k <;> cases hp : f.payload <;> simp [hp] at h ⊢

/-- While the task and the user go on, a welcome request is not refused. -/
lemma not_refuses {f : Frame} (hask : f.asked? k = some q) (hwelcome : Welcome E f)
    (hrun : E.phase = .running) (halive : E.muxAlive = true) : ¬ E.Refuses f := by
  intro hwhy
  obtain ⟨p, hp⟩ | ⟨p, hp⟩ := asked_cases hask
  · have hopen : E.txOpen = true := by simp [Endpoint.txOpen, hrun, Phase.isOpen]
    simp only [Welcome, Endpoint.Refuses, hp] at hwelcome hwhy
    obtain hused | hclosed | hdead := hwhy
    · exact Bool.false_ne_true (hwelcome.symm.trans hused)
    · exact Bool.false_ne_true (hclosed.symm.trans hopen)
    · exact Bool.false_ne_true (hdead.symm.trans halive)
  · simp only [Welcome, Endpoint.Refuses, hp] at hwelcome hwhy
    obtain hsize | hended | hdead := hwhy
    · exact hwelcome hsize
    · exact hended hrun
    · exact Bool.false_ne_true (hdead.symm.trans halive)

/-- The processing of a frame that comes next, if the frame asks for something. -/
lemma leads_puts {f : Frame} (h : Holds E k ((f.asked? k).toList ++ rest) c)
    (hnil : E.standing k = []) (hputs : Endpoint.Puts .dests f E F) :
    Leads (E.opts.room k) c F k rest [] (Welcome E f) := by
  -- what is not asked for is not seen here
  have haside : ∀ {G : Endpoint}, f.asked? k = none → Endpoint.Spares .dests E [] G →
      F.standing k = [] → F.backlog k = G.backlog k → F.lookUp k = G.lookUp k →
      F.muxAlive = G.muxAlive → Leads (E.opts.room k) c F k rest [] (Welcome E f) := by
    intro G hnone hG hstanding hbacklog hlook halive
    rw [hnone] at h
    obtain ⟨hG', hnil'⟩ := h.spares_of_nil hG hnil
    exact (hG'.congr (hstanding.trans hnil'.symm) hbacklog hlook halive).stays
  have hnext : ∀ {G : Endpoint} {q : Asked}, f.asked? k = some q →
      Endpoint.Spares .dests E [] G → Holds G k (q :: rest) c ∧ G.standing k = [] := by
    intro G q hask hG
    rw [hask] at h
    exact h.spares_of_nil hG hnil
  cases hputs with
  | nothing hG hwhy =>
      cases hask : f.asked? k with
      | none => exact haside hask hG (h.spares_of_nil hG hnil).2 rfl rfl rfl
      | some q =>
          obtain ⟨hF, hnil'⟩ := hnext hask hG
          refine Holds.loses [q] hF hnil' fun hrun halive hwelcome => ?_
          exact not_refuses hask hwelcome (hG.waits hrun).1 (hG.muxAlive ▸ halive) hwhy
  | @stream G p i hf hG hdest halive hroom heq =>
      subst heq
      cases k with
      | stream =>
          obtain ⟨hG', hnil'⟩ := hnext (asked_connect hf) hG
          have haliveG : G.muxAlive = true := hG.muxAlive.trans halive
          refine hG'.arrives (x := (f.id, i)) hnil' hnil' (by simp [Endpoint.lookUp, hdest])
            (Endpoint.lookUp_congr rfl rfl _) rfl haliveG haliveG ?_
          exact hG.backlog .stream ▸ hroom
      | bind =>
          exact haside (by simp [Frame.asked?, hf]) hG (h.spares_of_nil hG hnil).2 rfl
            (Endpoint.lookUp_congr rfl rfl _) rfl
  | @bind G p i hf hG hpayload halive hroom heq =>
      subst heq
      cases k with
      | bind =>
          obtain ⟨hG', hnil'⟩ := hnext (asked_bind hf) hG
          have haliveG : G.muxAlive = true := hG.muxAlive.trans halive
          refine hG'.arrives (x := (f.id, i)) hnil' hnil' (by simp [Endpoint.lookUp, hpayload])
            (Endpoint.lookUp_congr rfl rfl _) rfl haliveG haliveG ?_
          exact hG.backlog .bind ▸ hroom
      | stream =>
          exact haside (by simp [Frame.asked?, hf]) hG (h.spares_of_nil hG hnil).2 rfl
            (Endpoint.lookUp_congr rfl rfl _) rfl
  | @streamWaits G p i hf hG hdest halive heq =>
      subst heq
      cases k with
      | stream =>
          obtain ⟨hG', hnil'⟩ := hnext (asked_connect hf) hG
          exact hG'.blocks (x := (f.id, i)) hnil' (Endpoint.standing_stream · rfl)
            (by simp [Endpoint.lookUp, hdest]) (Endpoint.lookUp_congr rfl rfl _) rfl rfl
      | bind =>
          exact haside (by simp [Frame.asked?, hf]) hG (by simp [Endpoint.standing]) rfl
            (Endpoint.lookUp_congr rfl rfl _) rfl
  | @bindWaits G p i hf hG hpayload halive heq =>
      subst heq
      cases k with
      | bind =>
          obtain ⟨hG', hnil'⟩ := hnext (asked_bind hf) hG
          exact hG'.blocks (x := (f.id, i)) hnil' (Endpoint.standing_bind · rfl)
            (by simp [Endpoint.lookUp, hpayload]) (Endpoint.lookUp_congr rfl rfl _) rfl rfl
      | stream =>
          exact haside (by simp [Frame.asked?, hf]) hG (by simp [Endpoint.standing]) rfl
            (Endpoint.lookUp_congr rfl rfl _) rfl
  | datagram hf halive hroom heq =>
      subst heq
      exact haside (by cases k <;> simp [Frame.asked?, hf]) (.refl E) hnil (by cases k <;> rfl)
        (Endpoint.lookUp_congr rfl rfl _) rfl

lemma leads_recv {msg : Message} (h : Holds E k ((System.seen (Frame.asked? k) msg).toList ++ rest) c)
    (hrecv : E.recv msg = some E') :
    Leads (E.opts.room k) c E' k rest [] (∀ f ∈ msg.frame?, Welcome E f) := by
  have hnil : E.standing k = [] := Endpoint.standing_of_recv hrecv k
  obtain ⟨hmsg, hsp⟩ | ⟨f, F, hmsg, hputs, hsp⟩ := Endpoint.recv_puts .dests hrecv
  · rw [System.seen, hmsg] at h
    exact h.stays.spares hsp
  · rw [System.seen, hmsg, Option.bind_some] at h
    have hwelcome : (∀ f ∈ msg.frame?, Welcome E f) ↔ Welcome E f := by simp [hmsg]
    rw [hwelcome]
    exact (leads_puts h hnil hputs).spares hsp

end Holding

lemma follows_sender {a : Action} {s : System} (h : Shows m e k c)
    (hs : m.sys.step (.act e a) = some s) :
    Follows m (m.record s (.act e a)) e k (Hospitable e m (.act e a)) c := by
  have hflight := System.flight_act (seesOnlyForUser k) hs
  rw [filterMap_posts] at hflight
  have hne : e.peer ≠ e := e.peer_ne
  have hshows : Shows (m.record s (.act e a)) e k { c with
      flight := c.flight ++ asks (m.sys.ep e) k a, sent := c.sent ++ asks (m.sys.ep e) k a } := by
    obtain ⟨standing, hstanding, hcoming⟩ := h.holds.flight
    refine ⟨?_, by simp [record, h.sent], by simp [record, Function.update_of_ne hne, h.taken]⟩
    have hholds : Holds (m.sys.ep e.peer) k (s.flight (Frame.asked? k) e)
        { c with flight := c.flight ++ asks (m.sys.ep e) k a,
                 sent := c.sent ++ asks (m.sys.ep e) k a } :=
      ⟨⟨standing, hstanding, by simp [hflight, hcoming, flight]⟩, h.holds.buffer,
        h.holds.receiving⟩
    rw [← System.ep_of_act hs] at hholds
    exact hholds
  have hone : asks (m.sys.ep e) k a = [] ∨ ∃ q, asks (m.sys.ep e) k a = [q] := by
    cases k <;> cases a <;> simp only [asks, true_or]
    all_goals split
    · split_ifs <;> simp
    · simp
    · split_ifs <;> simp
    · simp
  obtain hnil | ⟨q, hq⟩ := hone
  · simp only [hnil, List.append_nil] at hshows
    exact ⟨c, hshows, .start, fun _ _ => .start⟩
  · rw [hq] at hshows
    exact ⟨_, hshows, .next .start trivial (l := .send q) rfl,
      fun _ _ => .next .start (l := .send q) trivial rfl⟩

/-- What an endpoint does with the channel, seen at both of them. -/
lemma Leads.follows {taken : List Asked} {careful : Prop}
    (h : Leads ((m.sys.ep e.peer).opts.room k) c (m'.sys.ep e.peer) k (m'.flight e k) taken careful)
    (hsent : m'.asked e k = c.sent) (htaken : m'.given e.peer k = c.taken ++ taken) :
    Follows m m' e k careful c := by
  obtain ⟨c', hholds, hsent', htaken', hreach, hcareful⟩ := h
  exact ⟨c', ⟨hholds, hsent'.trans hsent.symm, htaken'.trans htaken.symm⟩, hreach,
    fun hserves => hcareful hserves.1 hserves.2⟩

lemma follows_receiver {a : Action} {s : System} (h : Shows m e k c)
    (hs : m.sys.step (.act e.peer a) = some s) :
    Follows m (m.record s (.act e.peer a)) e k (Hospitable e m (.act e.peer a)) c := by
  have hne : e ≠ e.peer := e.peer_ne.symm
  have hflight : (m.record s (.act e.peer a)).flight e k = m.flight e k :=
    System.flight_act_peer hs
  obtain ⟨out, hact⟩ := System.act_of_step hs
  have hleads : Leads ((m.sys.ep e.peer).opts.room k) c (s.ep e.peer) k
      ((m.record s (.act e.peer a)).flight e k) (gives (m.sys.ep e.peer) k a)
      (Hospitable e m (.act e.peer a)) := hflight.symm ▸ leads_act h.holds hact
  exact hleads.follows (by simp [record, Function.update_of_ne hne, h.sent])
    (by simp [record, h.taken])

lemma follows_deliver {s : System} (h : Shows m e k c)
    (hs : m.sys.step (.deliver e.peer) = some s) :
    Follows m (m.record s (.deliver e.peer)) e k (Hospitable e m (.deliver e.peer)) c := by
  obtain ⟨msg, hhead, hrecv, hflight⟩ := System.flight_deliver (Frame.asked? k) hs
  have hheld := h.holds
  rw [flight, hflight] at hheld
  have hwelcome : Hospitable e m (.deliver e.peer) ↔
      ∀ f ∈ msg.frame?, Welcome (m.sys.ep e.peer) f := by
    simp [Hospitable, hhead]
  rw [hwelcome]
  exact (leads_recv hheld hrecv).follows h.sent.symm ((List.append_nil _).trans h.taken).symm

lemma follows_step {l : Label} (h : Shows m e k c) (hs : m.step l = some m') :
    Follows m m' e k (Hospitable e m l) c := by
  obtain ⟨s, hsys, rfl⟩ := Option.map_eq_some_iff.mp hs
  cases l with
  | act e' a =>
      rcases e.eq_or_eq_peer e' with rfl | rfl
      · exact follows_sender h hsys
      · exact follows_receiver h hsys
  | deliver e' =>
      rcases e.eq_or_eq_peer e' with rfl | rfl
      · refine ⟨c, ⟨?_, h.sent, h.taken⟩, .start, fun _ _ => .start⟩
        have hholds := h.holds
        rw [flight, ← System.flight_deliver_own (seesOnlyForUser k) hsys,
          ← System.ep_of_deliver hsys] at hholds
        exact hholds
      · exact follows_deliver h hsys

/-! ### Runs -/

lemma reach_sys {ok : Accepting → Label → Prop} {opts : Side → Options}
    (h : Reach step ok (new opts) m) : Reach System.step Any (System.new opts) m.sys := by
  induction h with
  | start => exact .start
  | @next m m' l _ _ hs ih =>
      obtain ⟨s, hsys, rfl⟩ := Option.map_eq_some_iff.mp hs
      have hrecord : (m.record s l).sys = s := by cases l <;> rfl
      rw [hrecord]
      exact .next ih trivial hsys

lemma shows_new (opts : Side → Options) (e : Side) (k : Kind) : Shows (new opts) e k Lossy.new where
  holds := ⟨⟨[], by cases k <;> rfl, (System.flight_new (Frame.asked? k) opts e).symm⟩,
    by cases k <;> rfl, rfl⟩
  sent := rfl
  taken := rfl

/-- A user that takes requests has always taken them. -/
lemma serves_of_step {l : Label} (hs : m.step l = some m') (h : m'.Serves e) : m.Serves e := by
  obtain ⟨s, hsys, rfl⟩ := Option.map_eq_some_iff.mp hs
  cases l with
  | act e' a =>
      rcases e'.eq_or_eq_peer e with rfl | rfl
      · obtain ⟨out, hact⟩ := System.act_of_step hsys
        exact ⟨Endpoint.running_of_step (e := .act a) (by rw [Endpoint.step, hact]; rfl) h.1,
          Endpoint.alive_of_act hact h.2⟩
      · rw [Serves, record, System.ep_of_act hsys] at h
        exact h
  | deliver e' =>
      rcases e'.eq_or_eq_peer e with rfl | rfl
      · obtain ⟨msg, -, hrecv, -⟩ := System.flight_deliver (Frame.asked? .stream)
          (e := e.peer) (by rwa [Side.peer_peer])
        rw [Side.peer_peer] at hrecv
        exact ⟨Endpoint.running_of_step (e := .recv msg) hrecv h.1,
          (Endpoint.alive_of_recv hrecv).symm.trans h.2⟩
      · rw [Serves, record, System.ep_of_deliver hsys] at h
        exact h

/-- **Refinement**: what one user asks for and the other gets is a channel. It loses nothing as long
as the other user takes requests and refuses none. -/
theorem refines_channel {opts : Side → Options} (h : Reach step Any (new opts) m) (e : Side)
    (k : Kind) :
    ∃ c, Shows m e k c ∧ Reach (Lossy.step ((opts e.peer).room k)) Any Lossy.new c := by
  refine h.simulates (R := fun m c => Shows m e k c) (shows_new opts e k) ?_
  intro m l m' c hreach hshows _ hs
  obtain ⟨c', hc', hreach', -⟩ := follows_step hshows hs
  rw [System.opts_reach (reach_sys hreach) e.peer] at hreach'
  exact ⟨c', hc', hreach'⟩

lemma refines_careful {opts : Side → Options} (h : Reach step (Hospitable e) (new opts) m)
    (k : Kind) (hserves : m.Serves e.peer) : ∃ c, Shows m e k c ∧
      Reach (Lossy.step ((opts e.peer).room k)) (fun _ op => op.Careful) Lossy.new c := by
  induction h with
  | start => exact ⟨_, shows_new opts e k, .start⟩
  | next hreach hok hs ih =>
      obtain ⟨c, hc, hcareful⟩ := ih (serves_of_step hs hserves)
      obtain ⟨c', hc', -, hmore⟩ := follows_step hc hs
      have hmore := hmore hserves hok
      rw [System.opts_reach (reach_sys hreach) e.peer] at hmore
      exact ⟨c', hc', hcareful.trans hmore⟩

/-- **Requests**: what the user of a `Multiplexor` was handed, what waits for it and what is on its
way are streams, or bind requests, that the peer has asked for, with the flow id, type, host and
port it gave, each once and in the order in which they were asked for. The queue has its bound.
While the user takes requests and has refused none, nothing is missing. -/
theorem requests_in_order {opts : Side → Options} (h : Reach step Any (new opts) m) (e : Side)
    (k : Kind) :
    ∃ waiting standing : List Asked,
      ((m.sys.ep e.peer).backlog k).map ((m.sys.ep e.peer).lookUp k) = waiting.map some ∧
      ((m.sys.ep e.peer).standing k).map ((m.sys.ep e.peer).lookUp k) = standing.map some ∧
      (m.given e.peer k ++ waiting ++ (standing ++ m.flight e k)).Sublist (m.asked e k) ∧
      waiting.length ≤ (opts e.peer).room k ∧
      (Reach step (Hospitable e) (new opts) m → m.Serves e.peer →
        m.asked e k = m.given e.peer k ++ waiting ++ (standing ++ m.flight e k)) := by
  obtain ⟨c, hc, hreach⟩ := refines_channel h e k
  have hsound := Lossy.Channel.sound hreach
  obtain ⟨standing, hstanding, hflight⟩ := hc.holds.flight
  refine ⟨c.buffer, standing, hc.holds.buffer, hstanding, ?_, hsound.bounded, ?_⟩
  · rw [← hc.taken, ← hflight, ← hc.sent]
    exact hsound.ordered
  · intro hhospitable hserves
    obtain ⟨c', hc', hcareful⟩ := refines_careful hhospitable k hserves
    obtain ⟨standing', hstanding', hflight'⟩ := hc'.holds.flight
    have hsome : Function.Injective (List.map (some : Asked → Option Asked)) :=
      List.map_injective_iff.mpr (Option.some_injective _)
    obtain rfl : standing = standing' := hsome (hstanding.symm.trans hstanding')
    have hbuffer : c.buffer = c'.buffer := hsome (hc.holds.buffer.symm.trans hc'.holds.buffer)
    rw [hbuffer, ← hflight', ← hc'.taken, ← hc'.sent]
    exact Lossy.Channel.sent_eq_kept hcareful

/-- Two streams are asked for and one is accepted. -/
def twoStreams : List Label :=
  [.act .a (.newStreamChannel 5 [104] 80), .act .a (.newStreamChannel 6 [105] 81),
    .act .a (.sendConnect 6 0), .act .a (.sendConnect 5 0), .act .a .sendFrame,
    .act .a .sendFrame, .deliver .b, .deliver .b, .act .b .acceptStreamChannel]

theorem requests_in_order_two :
    ∃ m waiting, run step (new fun _ => Options.new) twoStreams = some m ∧
      m.asked .a .stream = [⟨6, none, [105], 81⟩, ⟨5, none, [104], 80⟩] ∧
      m.given .b .stream = [⟨6, none, [105], 81⟩] ∧
      m.asked .a .stream = m.given .b .stream ++ waiting ++ m.flight .a .stream := by
  have hcheck : (run step (new fun _ => Options.new) twoStreams).any (fun m =>
      m.asked .a .stream == [⟨6, none, [105], 81⟩, ⟨5, none, [104], 80⟩] &&
      m.given .b .stream == [⟨6, none, [105], 81⟩] && (m.sys.ep .b).phase.isRunning &&
      (m.sys.ep .b).muxAlive && (m.sys.ep .b).standing .stream == []) = true := by
    decide +kernel
  have hhospitable : RunMeets step (Hospitable .a) (new fun _ => Options.new) twoStreams := by
    decide +kernel
  obtain ⟨m, hm, hrest⟩ := (Option.any_eq_true _ _).mp hcheck
  simp only [Bool.and_eq_true, beq_iff_eq] at hrest
  obtain ⟨⟨⟨⟨hasked, hgiven⟩, hrun⟩, halive⟩, hnone⟩ := hrest
  have hany : Reach step Any (new fun _ => Options.new) m :=
    reach_of_run hm (runMeets_of_forall (fun _ _ _ => trivial) _)
  obtain ⟨waiting, standing, -, hstanding, -, -, hall⟩ := requests_in_order hany .a .stream
  obtain rfl : standing = [] := by simpa [Side.peer, hnone] using hstanding.symm
  exact ⟨m, waiting, hm, hasked, hgiven,
    hall (reach_of_run hm hhospitable) ⟨Phase.isRunning_iff.mp hrun, halive⟩⟩

end Accepting

end Penguin.Mux
