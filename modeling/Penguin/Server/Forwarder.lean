import Penguin.Client.UdpClients
import Penguin.Lib.Lists
import Penguin.Server.Websocket

/-!
The UDP forwarders of the server.

`udp_forward_on` is spawned for the first datagram of a flow. It binds a socket, sends the datagram,
and then passes on what comes over its channel, and sends back what comes to its socket, until it
has been idle for too long. Here the loop of `handle_websocket` runs with its forwarders, which take
the place of the results that were made up for them there.
-/

namespace Penguin.Server

open Mux Penguin.Lib Penguin.Lib.Transition
open Client (SocketAddr)

/-- `MAX_UDP_PACKET_SIZE`. -/
def maxUdpPacketSize : ℕ := 65536

/-- `forwarder::Error`. -/
inductive ForwardError
  | io
  | host
  deriving DecidableEq, Repr

def fromUtf8 (host : Bytes) : Except ForwardError String :=
  match String.fromUTF8? ⟨host.toArray⟩ with
  | some s => .ok s
  | none => .error .host

/-- The loop of `bind_for_target`: the first address for which a socket can be bound. -/
def bindFirst : List (SocketAddr × Bool) → Except ForwardError SocketAddr
  | [] => .error .io
  | (target, true) :: _ => .ok target
  | (_, false) :: targets => bindFirst targets

/-- `bind_for_target`, from the result of the lookup and whether a socket can be bound for each of
the addresses. -/
def bindForTarget : Option (List (SocketAddr × Bool)) → Except ForwardError SocketAddr
  | none => .error .io
  | some targets => bindFirst targets

/-- Where `udp_forward_on` is waiting. -/
inductive Stage
  /-- For `bind_for_target`. -/
  | binding
  /-- For the first `send_to`. -/
  | sending (target : SocketAddr)
  | looping
  | ended (result : Except ForwardError Unit)

structure Forwarder where
  /-- `first_datagram_frame`. -/
  first : Datagram
  stage : Stage
  /-- History: the datagrams that were handed to the socket, and what came to the socket. -/
  out : List Datagram
  received : List Bytes

namespace Forwarder

def new (first : Datagram) : Forwarder := ⟨first, .binding, [], []⟩

/-- The frame for what the socket has received. -/
def frame (F : Forwarder) (data : Bytes) : Datagram := { F.first with data := data }

lemma frame_congr {F G : Forwarder} (h : G.first = F.first) : G.frame = F.frame := by
  funext data
  rw [frame, frame, h]

/-- Up to the first `send_to`. -/
def bind (F : Forwarder) (targets : Option (List (SocketAddr × Bool))) : Option Forwarder :=
  match F.stage with
  | .binding =>
    match do
      let _ ← fromUtf8 F.first.targetHost
      bindForTarget targets with
    | .ok target => some { F with stage := .sending target }
    | .error e => some { F with stage := .ended (.error e) }
  | _ => none

/-- `socket.send_to(&data, target)`, and its `?`. -/
def sendTo (F : Forwarder) (d : Datagram) (ok : Bool) : Forwarder :=
  { F with
    out := F.out ++ [d]
    stage := if ok then .looping else .ended (.error .io) }

def sendFirst (F : Forwarder) (ok : Bool) : Option Forwarder :=
  match F.stage with
  | .sending _ => some (F.sendTo F.first ok)
  | _ => none

/-- The arm of `recv_from`, up to the frame. -/
def receive (F : Forwarder) (data : Bytes) : Option Forwarder :=
  match F.stage with
  | .looping =>
    if data.length ≤ maxUdpPacketSize then some { F with received := F.received ++ [data] }
    else none
  | _ => none

/-- The arm of `datagram_rx`. -/
def pass (F : Forwarder) (d : Datagram) (ok : Bool) : Option Forwarder :=
  match F.stage with
  | .looping =>
    match fromUtf8 d.targetHost with
    | .ok _ => some (F.sendTo d ok)
    | .error e => some { F with stage := .ended (.error e) }
  | _ => none

def timeout (F : Forwarder) : Option Forwarder :=
  match F.stage with
  | .looping => some { F with stage := .ended (.ok ()) }
  | _ => none

/-- The result of a forwarder that has ended, as its job has it. -/
def result (F : Forwarder) : Option JobResult :=
  match F.stage with
  | .ended (.ok ()) => some .ok
  | .ended (.error _) => some .err
  | _ => none

end Forwarder

/-- The loop with its forwarders. -/
structure Forwarding where
  ws : Websocket
  /-- The UDP forwarders, each at the number of its channel. -/
  forwarders : List Forwarder
  /-- History: what the loop has got from the multiplexor, with the forwarder it was given to ... -/
  inbox : List (Datagram × Option ℕ)
  /-- ... what it has got from the forwarders ... -/
  outbox : List (Datagram × ℕ)
  /-- ... and what it has handed to the multiplexor. -/
  replied : List Datagram

namespace Forwarding

def new (reverse : Bool) : Forwarding := ⟨Websocket.new reverse, [], [], [], []⟩

inductive Act
  /-- What happens around the loop, and its arms. -/
  | loop (e : Websocket.Event)
  | bind (c : ℕ) (targets : Option (List (SocketAddr × Bool)))
  | sendFirst (c : ℕ) (ok : Bool)
  | receive (c : ℕ) (data : Bytes)
  | pass (c : ℕ) (ok : Bool)
  | timeout (c : ℕ)

/-- What is up to the UDP forwarders. -/
def ofForwarder (ws : Websocket) : Websocket.Event → Bool
  | .jobEnds k _ =>
    match ws.jobs[k]? with
    | some (.udp _, _) => true
    | _ => false
  | .jobReceives _ | .jobReplies _ _ => true
  | _ => false

/-- The forwarder that gets a datagram, if it is not dropped. -/
def givenTo (ws : Websocket) (d : Datagram) : Option ℕ :=
  match ws.udpClients d.flowId with
  | none => some ws.channels.length
  | some c =>
    match ws.channels[c]? with
    | some ch =>
      if ch.isOpen && ch.queue.length < incomingDatagramBufferSize then some c else none
    | none => none

def loop (s : Forwarding) (e : Websocket.Event) (ws : Websocket) : Forwarding :=
  match e with
  | .getDatagram =>
    match s.ws.mux.datagrams.head? with
    | some d => { s with
        ws := ws
        forwarders := s.forwarders ++
          (if (s.ws.udpClients d.flowId).isNone then [Forwarder.new d] else [])
        inbox := s.inbox ++ [(d, givenTo s.ws d)] }
    | none => { s with ws := ws }
  | .sendReply => { s with ws := ws, replied := s.replied ++ s.ws.replies.head?.toList }
  | _ => { s with ws := ws }

/-- A forwarder that runs. -/
def forwarder (s : Forwarding) (c : ℕ) : Option Forwarder :=
  if s.ws.outcome.isNone && s.ws.jobs.contains (.udp c, none) then s.forwarders[c]? else none

/-- A forwarder has taken a step; if it has ended, so has its job. -/
def update (s : Forwarding) (c : ℕ) (F : Forwarder) : Option Forwarding :=
  match F.result with
  | none => some { s with forwarders := s.forwarders.set c F }
  | some r => (s.ws.step (.jobEnds (s.ws.jobs.idxOf (.udp c, none)) r)).map fun ws =>
      { s with ws := ws, forwarders := s.forwarders.set c F }

/-- A datagram comes to the socket, and the frame for it goes to the loop if there is room. -/
def receive (s : Forwarding) (c : ℕ) (F : Forwarder) (data : Bytes) : Option Forwarding := do
  let G ← F.receive data
  if s.ws.replies.length < incomingDatagramBufferSize then
    let ws ← s.ws.step (.jobReplies c (F.frame data))
    ({ s with ws := ws, outbox := s.outbox ++ [(F.frame data, c)] } : Forwarding).update c G
  else s.update c G

/-- The next datagram is taken out of the channel and sent. -/
def pass (s : Forwarding) (c : ℕ) (F : Forwarder) (ok : Bool) : Option Forwarding := do
  let d ← (← s.ws.channels[c]?).queue.head?
  let G ← F.pass d ok
  let ws ← s.ws.step (.jobReceives c)
  ({ s with ws := ws } : Forwarding).update c G

def step (s : Forwarding) : Act → Option Forwarding
  | .loop e => if ofForwarder s.ws e then none else (s.ws.step e).map (s.loop e)
  | .bind c targets => do s.update c (← (← s.forwarder c).bind targets)
  | .sendFirst c ok => do s.update c (← (← s.forwarder c).sendFirst ok)
  | .receive c data => do s.receive c (← s.forwarder c) data
  | .pass c ok => do s.pass c (← s.forwarder c) ok
  | .timeout c => do s.update c (← (← s.forwarder c).timeout)

/-! ### What the loop does to the tables -/

/-- A job number belongs to one job, and the forwarder of a flow that may get something is the last
one that there was for it. -/
structure Tables (ws : Websocket) (firsts : List Datagram) : Prop where
  length : ws.channels.length = firsts.length
  mapped : ∀ f c, ws.udpClients f = some c → ∃ d, firsts[c]? = some d ∧ d.flowId = f ∧
    ∀ c' d', c < c' → firsts[c']? = some d' → d'.flowId ≠ f
  running : ∀ c, (.udp c, none) ∈ ws.jobs → ∃ d ch, firsts[c]? = some d ∧
    ws.channels[c]? = some ch ∧ ch.isOpen = true ∧ ws.udpClients d.flowId = some c
  once : (ws.jobs.map (·.1)).Pairwise fun j j' => ∀ c, j = .udp c → j' ≠ .udp c
  bounded : ∀ c r, (.udp c, r) ∈ ws.jobs → c < firsts.length

/-- Nothing changes for the UDP forwarders. -/
structure Quiet (ws ws' : Websocket) : Prop where
  channels : ws'.channels = ws.channels
  udpClients : ws'.udpClients = ws.udpClients
  running : ∀ c, (.udp c, none) ∈ ws'.jobs → (.udp c, none) ∈ ws.jobs
  jobs : ∀ c r, (.udp c, r) ∈ ws'.jobs → ∃ r', (.udp c, r') ∈ ws.jobs
  once : (ws.jobs.map (·.1)).Pairwise (fun j j' => ∀ c, j = .udp c → j' ≠ .udp c) →
    (ws'.jobs.map (·.1)).Pairwise (fun j j' => ∀ c, j = .udp c → j' ≠ .udp c)

section Tables

variable {ws ws' : Websocket} {firsts : List Datagram} {e : Websocket.Event}

lemma Quiet.of_jobs (hchannels : ws'.channels = ws.channels)
    (hclients : ws'.udpClients = ws.udpClients) (hjobs : ws'.jobs = ws.jobs) : Quiet ws ws' where
  channels := hchannels
  udpClients := hclients
  running _ h := hjobs ▸ h
  jobs _ r h := ⟨r, hjobs ▸ h⟩
  once h := hjobs ▸ h

lemma Quiet.of_sublist (hchannels : ws'.channels = ws.channels)
    (hclients : ws'.udpClients = ws.udpClients) (hjobs : ws'.jobs.Sublist ws.jobs) :
    Quiet ws ws' where
  channels := hchannels
  udpClients := hclients
  running _ h := hjobs.subset h
  jobs _ r h := ⟨r, hjobs.subset h⟩
  once h := h.sublist (hjobs.map _)

lemma Tables.quiet (h : Tables ws firsts) (hq : Quiet ws ws') : Tables ws' firsts where
  length := by rw [hq.channels, h.length]
  mapped f c hc := h.mapped f c (by rw [← hq.udpClients, hc])
  running c hc := by
    rw [hq.channels, hq.udpClients]
    exact h.running c (hq.running c hc)
  once := hq.once h.once
  bounded c r hc := by
    obtain ⟨r', hr'⟩ := hq.jobs c r hc
    exact h.bounded c r' hr'

/-- The arms and events that are not about UDP. -/
lemma quiet_of_step (h : ws.step e = some ws') (he : ofForwarder ws e = false)
    (hget : e ≠ .getDatagram) : Quiet ws ws' := by
  unfold Websocket.step at h
  split_ifs at h
  cases e with
  | act a =>
      simp only at h
      split_ifs at h
      obtain ⟨mux, -, rfl⟩ := Option.map_eq_some_iff.mp h
      exact .of_jobs rfl rfl rfl
  | recv msg =>
      obtain ⟨mux, -, rfl⟩ := Option.map_eq_some_iff.mp h
      exact .of_jobs rfl rfl rfl
  | jobEnds k r =>
      simp only [Websocket.jobEnds] at h
      split at h
      case h_2 => cases h
      case h_1 job hjob =>
        cases job with
        | udp c => simp [ofForwarder, hjob] at he
        | tcp id i =>
            obtain rfl := Option.some.inj h
            have hother : ∀ c r', (.udp c, r') ∈ ws.jobs.set k (.tcp id i, some r) →
                (.udp c, r') ∈ ws.jobs := fun c r' hmem =>
              (List.mem_or_eq_of_mem_set hmem).resolve_right (by simp)
            refine ⟨rfl, rfl, fun c => hother c none, fun c r' hc => ⟨r', hother c r' hc⟩, ?_⟩
            intro honce
            have hmap : (ws.jobs.set k (.tcp id i, some r)).map (·.1) = ws.jobs.map (·.1) :=
              Lists.map_set_of_eq hjob rfl
            show ((ws.jobs.set k (.tcp id i, some r)).map (·.1)).Pairwise _
            rw [hmap]
            exact honce
  | jobReceives c => simp [ofForwarder] at he
  | jobReplies c d => simp [ofForwarder] at he
  | joinNext k =>
      simp only [Websocket.joinNext] at h
      split at h
      · obtain rfl := Option.some.inj h
        exact .of_sublist rfl rfl (List.eraseIdx_sublist _ _)
      · cases h
  | acceptStream =>
      simp only [Websocket.acceptStream] at h
      split at h
      · obtain ⟨mux, -, rfl⟩ := Option.map_eq_some_iff.mp h
        refine ⟨rfl, rfl, fun c hc => ?_, fun c r hc => ⟨r, ?_⟩, fun honce => ?_⟩
        · simpa using hc
        · simpa using hc
        · rw [List.map_append, List.pairwise_append]
          exact ⟨honce, by simp, by simp⟩
      · cases h
  | getDatagram => exact absurd rfl hget
  | sendReply =>
      simp only [Websocket.sendReply] at h
      split at h
      · obtain rfl := Option.some.inj h
        exact .of_jobs rfl rfl rfl
      · cases h
  | elseArm =>
      simp only [Websocket.elseArm] at h
      split_ifs at h
      obtain rfl := Option.some.inj h
      exact .of_sublist rfl rfl (List.nil_sublist _)

lemma replies_of_step (h : ws.step e = some ws') (he : ofForwarder ws e = false)
    (hget : e ≠ .getDatagram) (hsend : e ≠ .sendReply) : ws'.replies = ws.replies := by
  unfold Websocket.step at h
  split_ifs at h
  cases e with
  | act a =>
      simp only at h
      split_ifs at h
      obtain ⟨mux, -, rfl⟩ := Option.map_eq_some_iff.mp h
      rfl
  | recv msg =>
      obtain ⟨mux, -, rfl⟩ := Option.map_eq_some_iff.mp h
      rfl
  | jobEnds k r =>
      simp only [Websocket.jobEnds] at h
      split at h
      · split at h <;> obtain rfl := Option.some.inj h <;> rfl
      · cases h
  | jobReceives c => simp [ofForwarder] at he
  | jobReplies c d => simp [ofForwarder] at he
  | joinNext k =>
      simp only [Websocket.joinNext] at h
      split at h
      · obtain rfl := Option.some.inj h
        rfl
      · cases h
  | acceptStream =>
      simp only [Websocket.acceptStream] at h
      split at h
      · obtain ⟨mux, -, rfl⟩ := Option.map_eq_some_iff.mp h
        rfl
      · cases h
  | getDatagram => exact absurd rfl hget
  | sendReply => exact absurd rfl hsend
  | elseArm =>
      simp only [Websocket.elseArm] at h
      split_ifs at h
      obtain rfl := Option.some.inj h
      rfl

/-- What a datagram does: it opens a flow, or is dropped, or is put into the channel of its flow. -/
inductive Forwarded (ws : Websocket) (d : Datagram) : Websocket → Option ℕ → Prop
  | opens (h : ws.udpClients d.flowId = none) :
      Forwarded ws d (ws.addUdpClient d.flowId) (some ws.channels.length)
  | forgets {c : ℕ} {ch : Channel} (h : ws.udpClients d.flowId = some c)
      (hch : ws.channels[c]? = some ch) (hopen : ch.isOpen = false) : Forwarded ws d
        { ws with udpClients := Function.update ws.udpClients d.flowId none } none
  | queues {c : ℕ} {ch : Channel} (h : ws.udpClients d.flowId = some c)
      (hch : ws.channels[c]? = some ch) (hopen : ch.isOpen = true) : Forwarded ws d
        { ws with channels := ws.channels.set c { ch with queue := ch.queue ++ [d] } } (some c)
  | drops (h : ws.udpClients d.flowId ≠ none) : Forwarded ws d ws none

lemma forwarded (h : Tables ws firsts) (d : Datagram) :
    Forwarded ws d (ws.forward d) (givenTo ws d) := by
  cases hc : ws.udpClients d.flowId with
  | none =>
      have hforward : ws.forward d = ws.addUdpClient d.flowId := by simp [Websocket.forward, hc]
      rw [hforward, givenTo, hc]
      exact .opens hc
  | some c =>
      obtain ⟨d', hd', -⟩ := h.mapped _ _ hc
      have hlt : c < ws.channels.length := by
        rw [h.length]
        exact (List.getElem?_eq_some_iff.mp hd').1
      obtain ⟨ch, hch⟩ : ∃ ch, ws.channels[c]? = some ch := ⟨_, List.getElem?_eq_getElem hlt⟩
      by_cases hopen : ch.isOpen = true
      · by_cases hroom : ch.queue.length < incomingDatagramBufferSize
        · have hforward : ws.forward d =
              { ws with channels := ws.channels.set c { ch with queue := ch.queue ++ [d] } } := by
            simp [Websocket.forward, hc, hch, hopen, hroom]
          have hgiven : givenTo ws d = some c := by simp [givenTo, hc, hch, hopen, hroom]
          rw [hforward, hgiven]
          exact .queues hc hch hopen
        · have hforward : ws.forward d = ws := by
            simp [Websocket.forward, hc, hch, hopen, hroom]
          have hgiven : givenTo ws d = none := by simp [givenTo, hc, hch, hroom]
          rw [hforward, hgiven]
          exact .drops (by simp [hc])
      · have hforward : ws.forward d =
            { ws with udpClients := Function.update ws.udpClients d.flowId none } := by
          simp [Websocket.forward, hc, hch, hopen]
        have hgiven : givenTo ws d = none := by simp [givenTo, hc, hch, hopen]
        rw [hforward, hgiven]
        exact .forgets hc hch (by simpa using hopen)

/-- A flow gets its next forwarder. -/
lemma Tables.opens (h : Tables ws firsts) (d : Datagram) (hnone : ws.udpClients d.flowId = none) :
    Tables (ws.addUdpClient d.flowId) (firsts ++ [d]) := by
  have hbounded : ∀ {c r}, (.udp c, r) ∈ ws.jobs → c < ws.channels.length := fun hc =>
    h.length ▸ h.bounded _ _ hc
  refine ⟨by simp [Websocket.addUdpClient, h.length], fun f c hc => ?_, fun c hc => ?_, ?_,
    fun c r hc => ?_⟩
  · by_cases hf : f = d.flowId
    · subst hf
      obtain rfl : ws.channels.length = c := by simpa [Websocket.addUdpClient] using hc
      refine ⟨d, Lists.getElem?_concat_iff.mpr (.inr ⟨h.length, rfl⟩), rfl, fun c' d' hlt hd' => ?_⟩
      have := (List.getElem?_eq_some_iff.mp hd').1
      simp only [List.length_append, List.length_singleton] at this
      rw [h.length] at hlt
      omega
    · have hc : ws.udpClients f = some c := by
        simpa [Websocket.addUdpClient, Function.update_of_ne hf] using hc
      obtain ⟨x, hx, hxf, hlater⟩ := h.mapped f c hc
      refine ⟨x, Lists.getElem?_concat_iff.mpr (.inl hx), hxf, fun c' d' hlt hd' => ?_⟩
      rcases Lists.getElem?_concat_iff.mp hd' with hd' | ⟨-, rfl⟩
      · exact hlater c' d' hlt hd'
      · exact fun heq => hf heq.symm
  · have hmem : (.udp c, none) ∈ ws.jobs ∨ c = ws.channels.length := by
      simpa [Websocket.addUdpClient] using hc
    rcases hmem with hmem | rfl
    · obtain ⟨x, ch, hx, hch, hopen, hclient⟩ := h.running c hmem
      refine ⟨x, ch, Lists.getElem?_concat_iff.mpr (.inl hx),
        Lists.getElem?_concat_iff.mpr (.inl hch), hopen, ?_⟩
      have hne : x.flowId ≠ d.flowId := fun heq => by simp [heq, hnone] at hclient
      simp [Websocket.addUdpClient, Function.update_of_ne hne, hclient]
    · exact ⟨d, _, Lists.getElem?_concat_iff.mpr (.inr ⟨h.length, rfl⟩),
        Lists.getElem?_concat_iff.mpr (.inr ⟨rfl, rfl⟩), rfl, by simp [Websocket.addUdpClient]⟩
  · rw [Websocket.addUdpClient, List.map_append, List.pairwise_append]
    refine ⟨h.once, by simp, fun j hj j' hj' c hc => ?_⟩
    obtain ⟨⟨job, r⟩, hmem, rfl⟩ := List.mem_map.mp hj
    obtain rfl : j' = .udp ws.channels.length := by simpa using hj'
    rintro heq
    obtain rfl : ws.channels.length = c := by simpa using heq
    have hjob : job = .udp ws.channels.length := hc
    subst hjob
    exact absurd (hbounded hmem) (Nat.lt_irrefl _)
  · have hmem : (.udp c, r) ∈ ws.jobs ∨ c = ws.channels.length ∧ r = none := by
      simpa [Websocket.addUdpClient] using hc
    rw [List.length_append, List.length_singleton, ← h.length]
    rcases hmem with hmem | ⟨rfl, -⟩
    · exact Nat.lt_succ_of_lt (hbounded hmem)
    · exact Nat.lt_succ_self _

/-- The sender of a channel that is closed is dropped. -/
lemma Tables.forgets (h : Tables ws firsts) {f : UInt32} {c : ℕ} {ch : Channel}
    (hc : ws.udpClients f = some c) (hch : ws.channels[c]? = some ch) (hopen : ch.isOpen = false) :
    Tables { ws with udpClients := Function.update ws.udpClients f none } firsts := by
  refine ⟨h.length, fun f' c' hc' => ?_, fun c' hc' => ?_, h.once, h.bounded⟩
  · by_cases hf : f' = f
    · subst hf
      simp at hc'
    · exact h.mapped f' c' (by simpa [Function.update_of_ne hf] using hc')
  · obtain ⟨d, ch', hd, hch', hopen', hclient⟩ := h.running c' hc'
    have hne : d.flowId ≠ f := by
      rintro rfl
      obtain rfl : c = c' := Option.some.inj (hc.symm.trans hclient)
      obtain rfl : ch = ch' := Option.some.inj (hch.symm.trans hch')
      simp [hopen] at hopen'
    exact ⟨d, ch', hd, hch', hopen', by simp [Function.update_of_ne hne, hclient]⟩

/-- The queue of a channel changes. -/
lemma Tables.requeue (h : Tables ws firsts) {c : ℕ} {ch ch' : Channel}
    (hch : ws.channels[c]? = some ch) (hopen : ch'.isOpen = ch.isOpen) :
    Tables { ws with channels := ws.channels.set c ch' } firsts := by
  refine ⟨by simp [h.length], h.mapped, fun c' hc' => ?_, h.once, h.bounded⟩
  obtain ⟨d, ch₁, hd, hch₁, hopen₁, hclient⟩ := h.running c' hc'
  have hlt := (List.getElem?_eq_some_iff.mp hch).1
  by_cases heq : c = c'
  · subst heq
    obtain rfl : ch = ch₁ := Option.some.inj (hch.symm.trans hch₁)
    exact ⟨d, ch', hd, by simp [hlt], hopen.trans hopen₁, hclient⟩
  · exact ⟨d, ch₁, hd, by simp [List.getElem?_set_ne heq, hch₁], hopen₁, hclient⟩

lemma eq_of_once {jobs : List (Job × Option JobResult)} {i j c : ℕ} {r r' : Option JobResult}
    (h : (jobs.map (·.1)).Pairwise fun j j' => ∀ c, j = .udp c → j' ≠ .udp c)
    (hi : jobs[i]? = some (.udp c, r)) (hj : jobs[j]? = some (.udp c, r')) : i = j := by
  obtain ⟨hilt, hi⟩ := List.getElem?_eq_some_iff.mp hi
  obtain ⟨hjlt, hj⟩ := List.getElem?_eq_some_iff.mp hj
  rw [List.pairwise_map, List.pairwise_iff_getElem] at h
  rcases Nat.lt_trichotomy i j with hlt | heq | hgt
  · exact absurd (by rw [hj]) (h i j hilt hjlt hlt c (by rw [hi]))
  · exact heq
  · exact absurd (by rw [hi]) (h j i hjlt hilt hgt c (by rw [hj]))

/-- A forwarder ends, and with it its channel. -/
lemma Tables.ends (h : Tables ws firsts) {k c : ℕ} (hjob : ws.jobs[k]? = some (.udp c, none))
    (r : JobResult) : Tables { ws with
      jobs := ws.jobs.set k (.udp c, some r)
      channels := ws.channels.modify c fun _ => ⟨[], false⟩ } firsts := by
  have hmap : (ws.jobs.set k (.udp c, some r)).map (·.1) = ws.jobs.map (·.1) :=
    Lists.map_set_of_eq hjob rfl
  have hlt := (List.getElem?_eq_some_iff.mp hjob).1
  refine ⟨by simp [h.length], h.mapped, fun c' hc' => ?_, ?_, fun c' r' hc' => ?_⟩
  · -- It is another job that still runs.
    obtain ⟨j, hj⟩ := List.mem_iff_getElem?.mp hc'
    have hne : k ≠ j := by
      rintro rfl
      simp [hlt] at hj
    have hj : ws.jobs[j]? = some (.udp c', none) := by simpa [List.getElem?_set_ne hne] using hj
    have hcc : c ≠ c' := by
      rintro rfl
      exact hne (eq_of_once h.once hjob hj)
    obtain ⟨d, ch, hd, hch, hopen, hclient⟩ := h.running c' (List.mem_of_getElem? hj)
    exact ⟨d, ch, hd, by simp [hcc, hch], hopen, hclient⟩
  · show ((ws.jobs.set k (.udp c, some r)).map (·.1)).Pairwise _
    rw [hmap]
    exact h.once
  · rcases List.mem_or_eq_of_mem_set hc' with hmem | heq
    · exact h.bounded c' r' hmem
    · obtain ⟨rfl, -⟩ : c' = c ∧ r' = some r := by simpa using heq
      exact h.bounded c' none (List.mem_of_getElem? hjob)

end Tables

/-! ### What the forwarders have been given -/

/-- What forwarder `c` was given, and what the loop has accepted from it. -/
def given (inbox : List (Datagram × Option ℕ)) (c : ℕ) : List Datagram :=
  inbox.filterMap fun x => if x.2 = some c then some x.1 else none

def accepted (outbox : List (Datagram × ℕ)) (c : ℕ) : List Datagram :=
  outbox.filterMap fun x => if x.2 = c then some x.1 else none

lemma mem_given {inbox : List (Datagram × Option ℕ)} {c : ℕ} {d : Datagram} :
    d ∈ given inbox c ↔ (d, some c) ∈ inbox := by
  rw [given, List.mem_filterMap]
  constructor
  · rintro ⟨⟨d', o⟩, hmem, hx⟩
    obtain ⟨rfl, rfl⟩ : o = some c ∧ d' = d := by simpa using hx
    exact hmem
  · exact fun hmem => ⟨(d, some c), hmem, by simp⟩

lemma mem_accepted {outbox : List (Datagram × ℕ)} {c : ℕ} {d : Datagram} :
    d ∈ accepted outbox c ↔ (d, c) ∈ outbox := by
  rw [accepted, List.mem_filterMap]
  constructor
  · rintro ⟨⟨d', c'⟩, hmem, hx⟩
    obtain ⟨rfl, rfl⟩ : c' = c ∧ d' = d := by simpa using hx
    exact hmem
  · exact fun hmem => ⟨(d, c), hmem, by simp⟩

def firsts (s : Forwarding) : List Datagram := s.forwarders.map (·.first)

/-- What a forwarder has begun with: it still has its first datagram, or it has handed on all. -/
def begun (F : Forwarder) : List Datagram :=
  match F.stage with
  | .binding | .sending _ => F.out ++ [F.first]
  | _ => F.out

/-- Where the datagrams are that a forwarder was given. -/
structure Fed (F : Forwarder) (ch : Channel) (given : List Datagram) : Prop where
  out : F.out <+: given
  queue : ch.isOpen = true → F.result = none → given = begun F ++ ch.queue

structure Inv (s : Forwarding) : Prop where
  tables : Tables s.ws s.firsts
  fed : ∀ c F ch, s.forwarders[c]? = some F → s.ws.channels[c]? = some ch →
    Fed F ch (given s.inbox c)
  heard : ∀ c F, s.forwarders[c]? = some F → (accepted s.outbox c).Sublist (F.received.map F.frame)
  flows : ∀ d c, (d, some c) ∈ s.inbox → ∃ x, s.firsts[c]? = some x ∧ x.flowId = d.flowId
  flowsOut : ∀ d c, (d, c) ∈ s.outbox → ∃ x, s.firsts[c]? = some x ∧ x.flowId = d.flowId
  inOrder : s.inbox.Pairwise fun x y => ∀ c c', x.2 = some c → y.2 = some c' →
    x.1.flowId = y.1.flowId → c ≤ c'
  outOrder : s.outbox.Pairwise fun x y => x.1.flowId = y.1.flowId → x.2 ≤ y.2
  handed : s.outbox.map (·.1) = s.replied ++ s.ws.replies

section Runs

variable {s s' : Forwarding} {ws : Websocket} {c : ℕ} {F G : Forwarder}

/-- Nobody has a forwarder later than the one that the flow has now. -/
lemma Tables.latest {firsts : List Datagram} (h : Tables ws firsts) {f : UInt32} {x : Datagram}
    {c' : ℕ} (hc : ws.udpClients f = some c) (hx : firsts[c']? = some x) (hf : x.flowId = f) :
    c' ≤ c := by
  obtain ⟨-, -, -, hlater⟩ := h.mapped f c hc
  by_contra hlt
  exact hlater c' x (by omega) hx hf

lemma given_append (inbox : List (Datagram × Option ℕ)) (d : Datagram) (o : Option ℕ) :
    given (inbox ++ [(d, o)]) c = given inbox c ++ if o = some c then [d] else [] := by
  unfold given
  rw [List.filterMap_append]
  split_ifs with h <;> simp [h]

/-- Nothing changes for the forwarders. -/
lemma Inv.quiet (h : Inv s) (hq : Quiet s.ws ws) (hreplies : ws.replies = s.ws.replies) :
    Inv { s with ws := ws } where
  tables := h.tables.quiet hq
  fed c F ch hF hch := h.fed c F ch hF (hq.channels ▸ hch)
  heard := h.heard
  flows := h.flows
  flowsOut := h.flowsOut
  inOrder := h.inOrder
  outOrder := h.outOrder
  handed := by rw [hreplies]; exact h.handed

/-- A forwarder takes a step, in which its channel may change. -/
lemma Inv.set (h : Inv s) (hF : s.forwarders[c]? = some F) (hfirst : G.first = F.first)
    (htables : Tables ws s.firsts) (hreplies : ws.replies = s.ws.replies)
    (hother : ∀ c', c' ≠ c → ws.channels[c']? = s.ws.channels[c']?)
    (hfed : ∀ ch, ws.channels[c]? = some ch → Fed G ch (given s.inbox c))
    (hheard : (accepted s.outbox c).Sublist (G.received.map G.frame)) :
    Inv { s with ws := ws, forwarders := s.forwarders.set c G } := by
  have hfirsts : (s.forwarders.set c G).map (·.first) = s.firsts := Lists.map_set_of_eq hF hfirst
  have hlt := (List.getElem?_eq_some_iff.mp hF).1
  refine ⟨?_, fun c' F' ch hF' hch => ?_, fun c' F' hF' => ?_, ?_, ?_, h.inOrder, h.outOrder, ?_⟩
  · rw [firsts, hfirsts]
    exact htables
  · by_cases hc : c' = c
    · subst hc
      obtain rfl : G = F' := by simpa [hlt] using hF'
      exact hfed ch hch
    · rw [List.getElem?_set_ne (Ne.symm hc)] at hF'
      exact h.fed c' F' ch hF' (hother c' hc ▸ hch)
  · by_cases hc : c' = c
    · subst hc
      obtain rfl : G = F' := by simpa [hlt] using hF'
      exact hheard
    · rw [List.getElem?_set_ne (Ne.symm hc)] at hF'
      exact h.heard c' F' hF'
  · rw [firsts, hfirsts]
    exact h.flows
  · rw [firsts, hfirsts]
    exact h.flowsOut
  · rw [hreplies]
    exact h.handed

/-- The job of a forwarder ends. -/
lemma Inv.ended (h : Inv s) {r : JobResult} (hmem : (.udp c, none) ∈ s.ws.jobs)
    (hs : s.ws.step (.jobEnds (s.ws.jobs.idxOf (.udp c, none)) r) = some ws) :
    Inv { s with ws := ws } := by
  have hjob : s.ws.jobs[s.ws.jobs.idxOf (.udp c, none)]? = some (.udp c, none) := by
    have hlt := List.idxOf_lt_length_of_mem hmem
    rw [List.getElem?_eq_getElem hlt, List.getElem_idxOf]
  unfold Websocket.step at hs
  split_ifs at hs
  simp only [Websocket.jobEnds, hjob] at hs
  obtain rfl := Option.some.inj hs
  refine ⟨h.tables.ends hjob r, fun c' F ch hF hch => ?_, h.heard, h.flows, h.flowsOut, h.inOrder,
    h.outOrder, h.handed⟩
  by_cases hc : c = c'
  · subst hc
    obtain ⟨ch₀, hch₀, rfl⟩ :
        ∃ ch₀, s.ws.channels[c]? = some ch₀ ∧ (⟨[], false⟩ : Channel) = ch := by
      simpa using hch
    exact ⟨(h.fed c F ch₀ hF hch₀).out, by simp⟩
  · exact h.fed c' F ch hF (by simpa [hc] using hch)

lemma inv_update (hs : s.update c G = some s') (hmem : (.udp c, none) ∈ s.ws.jobs)
    (h : Inv { s with forwarders := s.forwarders.set c G }) : Inv s' := by
  unfold Forwarding.update at hs
  split at hs
  · obtain rfl := Option.some.inj hs
    exact h
  · obtain ⟨ws, hws, rfl⟩ := Option.map_eq_some_iff.mp hs
    exact h.ended hmem hws

lemma forwarder_eq_some (hF : s.forwarder c = some F) : s.ws.outcome.isSome = false ∧
    (.udp c, none) ∈ s.ws.jobs ∧ s.forwarders[c]? = some F := by
  unfold forwarder at hF
  split_ifs at hF with h
  simp only [Bool.and_eq_true, List.contains_iff_mem] at h
  exact ⟨by simpa using h.1, h.2, hF⟩

/-- The channel of a forwarder that runs is open. -/
lemma Inv.channel (h : Inv s) (hmem : (.udp c, none) ∈ s.ws.jobs) :
    ∃ ch, s.ws.channels[c]? = some ch ∧ ch.isOpen = true := by
  obtain ⟨-, ch, -, hch, hopen, -⟩ := h.tables.running c hmem
  exact ⟨ch, hch, hopen⟩

/-- A step of a forwarder that is not about its channel or what comes to its socket. -/
structure Advances (F G : Forwarder) : Prop where
  first : G.first = F.first
  received : G.received = F.received
  running : F.result = none
  out : G.out <+: begun F
  begun : G.result = none → begun G = begun F

lemma Inv.advance (h : Inv s) (hF : s.forwarder c = some F) (ha : Advances F G)
    (hs : s.update c G = some s') : Inv s' := by
  obtain ⟨-, hmem, hF⟩ := forwarder_eq_some hF
  obtain ⟨ch, hch, hopen⟩ := h.channel hmem
  have hfed := h.fed c F ch hF hch
  have hgiven := hfed.queue hopen ha.running
  have hset : Inv { s with forwarders := s.forwarders.set c G } := by
    refine h.set hF ha.first h.tables rfl (fun _ _ => rfl) (fun ch' hch' => ?_) ?_
    · obtain rfl : ch = ch' := Option.some.inj (hch.symm.trans hch')
      refine ⟨ha.out.trans ?_, fun _ hresult => ?_⟩
      · rw [hgiven]
        exact List.prefix_append _ _
      · rw [ha.begun hresult]
        exact hgiven
    · rw [ha.received, Forwarder.frame_congr ha.first]
      exact h.heard c F hF
  exact inv_update hs hmem hset

lemma out_prefix_begun (F : Forwarder) : F.out <+: begun F := by
  unfold begun
  split
  · exact List.prefix_append _ _
  · exact List.prefix_append _ _
  · exact List.prefix_rfl

lemma advances_bind {targets : Option (List (SocketAddr × Bool))} (hG : F.bind targets = some G) :
    Advances F G := by
  unfold Forwarder.bind at hG
  split at hG
  case h_2 => cases hG
  case h_1 hstage =>
    have hresult : F.result = none := by simp [Forwarder.result, hstage]
    have hbegun : begun F = F.out ++ [F.first] := by simp [begun, hstage]
    split at hG <;> obtain rfl := Option.some.inj hG
    · exact ⟨rfl, rfl, hresult, hbegun ▸ List.prefix_append _ _, fun _ => by simp [begun, hstage]⟩
    · exact ⟨rfl, rfl, hresult, hbegun ▸ List.prefix_append _ _, by simp [Forwarder.result]⟩

lemma advances_sendFirst {ok : Bool} (hG : F.sendFirst ok = some G) : Advances F G := by
  unfold Forwarder.sendFirst at hG
  split at hG
  case h_2 => cases hG
  case h_1 target hstage =>
    obtain rfl := Option.some.inj hG
    have hbegun : begun F = F.out ++ [F.first] := by simp [begun, hstage]
    refine ⟨rfl, rfl, by simp [Forwarder.result, hstage], ?_, fun hresult => ?_⟩
    · rw [hbegun]
      exact List.prefix_rfl
    · cases ok
      · simp [Forwarder.sendTo, Forwarder.result] at hresult
      · simp [begun, Forwarder.sendTo, hstage]

lemma advances_timeout (hG : F.timeout = some G) : Advances F G := by
  unfold Forwarder.timeout at hG
  split at hG
  case h_2 => cases hG
  case h_1 hstage =>
    obtain rfl := Option.some.inj hG
    exact ⟨rfl, rfl, by simp [Forwarder.result, hstage], out_prefix_begun F,
      by simp [Forwarder.result]⟩

/-- What a forwarder hears is one frame more, which goes to the loop. -/
lemma Inv.hear (h : Inv s) (hmem : (.udp c, none) ∈ s.ws.jobs) (hF : s.forwarders[c]? = some F)
    (hG : Inv { s with forwarders := s.forwarders.set c G }) (hfirst : G.first = F.first)
    {data : Bytes} (hreceived : G.received = F.received ++ [data]) :
    Inv { s with
      ws := { s.ws with replies := s.ws.replies ++ [F.frame data] }
      forwarders := s.forwarders.set c G
      outbox := s.outbox ++ [(F.frame data, c)] } := by
  have hlt := (List.getElem?_eq_some_iff.mp hF).1
  have hfirstc : s.firsts[c]? = some F.first := by simp [firsts, hF]
  have hfirsts : (s.forwarders.set c G).map (·.first) = s.firsts := Lists.map_set_of_eq hF hfirst
  obtain ⟨x, -, hx, -, -, hclient⟩ := h.tables.running c hmem
  obtain rfl : F.first = x := Option.some.inj (hfirstc.symm.trans hx)
  refine ⟨hG.tables.quiet (.of_jobs rfl rfl rfl), hG.fed, fun c' F' hF' => ?_, hG.flows,
    fun d c' hd => ?_, h.inOrder, ?_, ?_⟩
  · have hheard := hG.heard c' F' hF'
    by_cases hc : c = c'
    · subst hc
      obtain rfl : G = F' := by simpa [hlt] using hF'
      have hold := h.heard c F hF
      have hnew : ((accepted s.outbox c) ++ [F.frame data]).Sublist
          ((F.received ++ [data]).map F.frame) := by
        simpa using hold.append_right [F.frame data]
      rw [hreceived, Forwarder.frame_congr hfirst]
      simpa [accepted] using hnew
    · simpa [accepted, hc] using hheard
  · have hd : (d, c') ∈ s.outbox ∨ d = F.frame data ∧ c' = c := by simpa using hd
    rw [firsts, hfirsts]
    rcases hd with hd | ⟨rfl, rfl⟩
    · exact h.flowsOut d c' hd
    · exact ⟨F.first, hfirstc, rfl⟩
  · refine List.pairwise_append.mpr ⟨h.outOrder, by simp, fun x hx y hy hflow => ?_⟩
    obtain rfl : y = (F.frame data, c) := by simpa using hy
    -- This forwarder is the last one of its flow.
    obtain ⟨z, hz, hzf⟩ := h.flowsOut x.1 x.2 hx
    exact h.tables.latest hclient hz (hzf.trans hflow)
  · simp [h.handed]

lemma Inv.receive (h : Inv s) (hF : s.forwarder c = some F) {data : Bytes}
    (hs : s.receive c F data = some s') : Inv s' := by
  obtain ⟨hrun, hmem, hF⟩ := forwarder_eq_some hF
  simp only [Forwarding.receive, Option.bind_eq_bind, Option.bind_eq_some_iff] at hs
  obtain ⟨G, hG, hs⟩ := hs
  unfold Forwarder.receive at hG
  split at hG
  case h_2 => cases hG
  case h_1 hstage =>
    split_ifs at hG
    obtain rfl := Option.some.inj hG
    have hset : Inv { s with
        forwarders := s.forwarders.set c { F with received := F.received ++ [data] } } := by
      refine h.set hF rfl h.tables rfl (fun _ _ => rfl) (fun ch hch => ?_) ?_
      · have hfed := h.fed c F ch hF hch
        exact ⟨hfed.out, hfed.queue⟩
      · refine (h.heard c F hF).trans ?_
        exact (List.sublist_append_left _ _).map F.frame
    split_ifs at hs with hroom
    · obtain ⟨ws, hws, hs⟩ := Option.bind_eq_some_iff.mp hs
      obtain rfl : { s.ws with replies := s.ws.replies ++ [F.frame data] } = ws := by
        simpa [Websocket.step, Websocket.jobReplies, hrun, hmem, hroom] using hws
      exact inv_update hs hmem (h.hear hmem hF hset rfl rfl)
    · exact inv_update hs hmem hset

lemma Inv.pass (h : Inv s) (hF : s.forwarder c = some F) {ok : Bool}
    (hs : s.pass c F ok = some s') : Inv s' := by
  obtain ⟨hrun, hmem, hF⟩ := forwarder_eq_some hF
  simp only [Forwarding.pass, Option.bind_eq_bind, Option.bind_eq_some_iff] at hs
  obtain ⟨ch, hch, d, hd, G, hG, ws, hws, hs⟩ := hs
  obtain ⟨ch₁, hch₁, hopen⟩ := h.channel hmem
  obtain rfl : ch = ch₁ := Option.some.inj (hch.symm.trans hch₁)
  obtain ⟨rest, hqueue⟩ : ∃ rest, ch.queue = d :: rest := by
    cases hq : ch.queue with
    | nil => simp [hq] at hd
    | cons d' rest =>
        obtain rfl : d' = d := by simpa [hq] using hd
        exact ⟨rest, rfl⟩
  obtain rfl : { s.ws with channels := s.ws.channels.set c { ch with queue := rest } } = ws := by
    have hmodify : s.ws.channels.modify c (fun ch => { ch with queue := ch.queue.tail }) =
        s.ws.channels.set c { ch with queue := rest } := by
      rw [Lists.modify_eq_set hch, hqueue, List.tail_cons]
    simpa [Websocket.step, Websocket.jobReceives, hrun, hmem, hmodify] using hws
  have htables : Tables { s.ws with
      channels := s.ws.channels.set c { ch with queue := rest } } s.firsts :=
    h.tables.requeue hch rfl
  have hlt := (List.getElem?_eq_some_iff.mp hch).1
  have hfed := h.fed c F ch hF hch
  unfold Forwarder.pass at hG
  split at hG
  case h_2 => cases hG
  case h_1 hstage =>
    have hgiven : given s.inbox c = F.out ++ d :: rest := by
      rw [hfed.queue hopen (by simp [Forwarder.result, hstage]), hqueue]
      simp [begun, hstage]
    have hset : ∀ G : Forwarder, G.first = F.first → G.received = F.received →
        G.out <+: F.out ++ [d] → (G.result = none → begun G = F.out ++ [d]) →
        Inv { s with
          ws := { s.ws with channels := s.ws.channels.set c { ch with queue := rest } }
          forwarders := s.forwarders.set c G } := by
      intro G hfirst hreceived hout hbegun
      refine h.set hF hfirst htables rfl (fun c' hc => ?_) (fun ch' hch' => ?_) ?_
      · exact List.getElem?_set_ne (Ne.symm hc)
      · obtain rfl : { ch with queue := rest } = ch' := by simpa [hlt] using hch'
        refine ⟨hout.trans ?_, fun _ hresult => ?_⟩
        · rw [hgiven]
          exact ⟨rest, by simp⟩
        · rw [hbegun hresult, hgiven]
          simp
      · rw [hreceived, Forwarder.frame_congr hfirst]
        exact h.heard c F hF
    split at hG <;> obtain rfl := Option.some.inj hG
    · refine inv_update hs hmem (hset _ rfl rfl List.prefix_rfl fun hresult => ?_)
      cases ok
      · simp [Forwarder.sendTo, Forwarder.result] at hresult
      · simp [begun, Forwarder.sendTo]
    · exact inv_update hs hmem
        (hset _ rfl rfl (List.prefix_append _ _) (by simp [Forwarder.result]))

/-- Whoever has got a datagram of the flow before is not later than the forwarder it has now. -/
lemma Inv.gives (h : Inv s) {d : Datagram} {o : Option ℕ}
    (ho : ∀ c, o = some c → ∀ c' x, s.firsts[c']? = some x → x.flowId = d.flowId → c' ≤ c) :
    (s.inbox ++ [(d, o)]).Pairwise fun x y => ∀ c c', x.2 = some c → y.2 = some c' →
      x.1.flowId = y.1.flowId → c ≤ c' := by
  refine List.pairwise_append.mpr ⟨h.inOrder, by simp, fun x hx y hy c c' hxc hyc hflow => ?_⟩
  obtain rfl : y = (d, o) := by simpa using hy
  obtain ⟨z, hz, hzf⟩ := h.flows x.1 c (hxc ▸ hx)
  exact ho c' hyc c z hz (hzf.trans hflow)

lemma Inv.drops (h : Inv s) (d : Datagram) (htables : Tables ws s.firsts)
    (hchannels : ws.channels = s.ws.channels) (hreplies : ws.replies = s.ws.replies) :
    Inv { s with ws := ws, inbox := s.inbox ++ [(d, none)] } := by
  refine ⟨htables, fun c F ch hF hch => ?_, h.heard, fun d' c hmem => ?_, h.flowsOut,
    h.gives (by simp), h.outOrder, hreplies ▸ h.handed⟩
  · dsimp only
    rw [given_append, if_neg (by simp), List.append_nil]
    exact h.fed c F ch hF (hchannels ▸ hch)
  · exact h.flows d' c (by simpa using hmem)

lemma Inv.queues (h : Inv s) {d : Datagram} {ch : Channel}
    (hclient : s.ws.udpClients d.flowId = some c) (hch : s.ws.channels[c]? = some ch) :
    Inv { s with
      ws := { s.ws with
        channels := s.ws.channels.set c { ch with queue := ch.queue ++ [d] } }
      inbox := s.inbox ++ [(d, some c)] } := by
  have hlt := (List.getElem?_eq_some_iff.mp hch).1
  refine ⟨h.tables.requeue hch rfl, fun c' F ch' hF hch' => ?_, h.heard, fun d' c' hmem => ?_,
    h.flowsOut, h.gives fun c' hc' => ?_, h.outOrder, h.handed⟩
  · dsimp only
    rw [given_append]
    by_cases hc : c = c'
    · subst hc
      obtain rfl : { ch with queue := ch.queue ++ [d] } = ch' := by simpa [hlt] using hch'
      have hfed := h.fed c F ch hF hch
      rw [if_pos rfl]
      refine ⟨hfed.out.trans (List.prefix_append _ _), fun hopen hresult => ?_⟩
      rw [hfed.queue hopen hresult, List.append_assoc]
    · rw [if_neg (by simpa using hc), List.append_nil]
      exact h.fed c' F ch' hF (by simpa [List.getElem?_set_ne hc] using hch')
  · have hmem : (d', some c') ∈ s.inbox ∨ d' = d ∧ c' = c := by simpa using hmem
    rcases hmem with hmem | ⟨rfl, rfl⟩
    · exact h.flows d' c' hmem
    · obtain ⟨x, hx, hxf, -⟩ := h.tables.mapped _ _ hclient
      exact ⟨x, hx, hxf⟩
  · obtain rfl := Option.some.inj hc'
    exact fun c' x hx hxf => h.tables.latest hclient hx hxf

lemma Inv.opens (h : Inv s) {d : Datagram} (hnone : s.ws.udpClients d.flowId = none) :
    Inv { s with
      ws := s.ws.addUdpClient d.flowId
      forwarders := s.forwarders ++ [Forwarder.new d]
      inbox := s.inbox ++ [(d, some s.ws.channels.length)] } := by
  have hlen : s.ws.channels.length = s.forwarders.length := by
    rw [h.tables.length, firsts, List.length_map]
  have hfirsts : (s.forwarders ++ [Forwarder.new d]).map (·.first) = s.firsts ++ [d] := by
    simp [firsts, Forwarder.new]
  have hold : ∀ {c x}, s.firsts[c]? = some x → (s.firsts ++ [d])[c]? = some x := fun hx =>
    Lists.getElem?_concat_iff.mpr (.inl hx)
  -- Nothing was said about this forwarder before.
  have hgiven : given s.inbox s.ws.channels.length = [] := by
    refine List.eq_nil_iff_forall_not_mem.mpr fun x hx => ?_
    obtain ⟨z, hz, -⟩ := h.flows x _ (mem_given.mp hx)
    have := (List.getElem?_eq_some_iff.mp hz).1
    rw [h.tables.length] at this
    omega
  have haccepted : accepted s.outbox s.ws.channels.length = [] := by
    refine List.eq_nil_iff_forall_not_mem.mpr fun x hx => ?_
    obtain ⟨z, hz, -⟩ := h.flowsOut x _ (mem_accepted.mp hx)
    have := (List.getElem?_eq_some_iff.mp hz).1
    rw [h.tables.length] at this
    omega
  refine ⟨?_, fun c F ch hF hch => ?_, fun c F hF => ?_, fun d' c hmem => ?_, fun d' c hmem => ?_,
    h.gives fun c' hc' => ?_, h.outOrder, h.handed⟩
  · rw [firsts, hfirsts]
    exact h.tables.opens d hnone
  · dsimp only
    rw [given_append]
    rcases Lists.getElem?_concat_iff.mp hF with hF | ⟨rfl, rfl⟩
    · have hlt := (List.getElem?_eq_some_iff.mp hF).1
      have hch : s.ws.channels[c]? = some ch :=
        (Lists.getElem?_concat_iff.mp hch).resolve_right fun heq => by omega
      rw [if_neg (by simp; omega), List.append_nil]
      exact h.fed c F ch hF hch
    · obtain rfl : ch = ⟨[], true⟩ := by
        rcases Lists.getElem?_concat_iff.mp hch with hch | ⟨-, hch⟩
        · have := (List.getElem?_eq_some_iff.mp hch).1
          omega
        · exact hch
      rw [← hlen, hgiven, if_pos rfl]
      exact ⟨List.nil_prefix, fun _ _ => rfl⟩
  · rcases Lists.getElem?_concat_iff.mp hF with hF | ⟨rfl, rfl⟩
    · exact h.heard c F hF
    · have hnil := haccepted
      rw [hlen] at hnil
      show (accepted s.outbox _).Sublist _
      rw [hnil]
      exact List.nil_sublist _
  · rw [firsts, hfirsts]
    have hmem : (d', some c) ∈ s.inbox ∨ d' = d ∧ c = s.ws.channels.length := by simpa using hmem
    rcases hmem with hmem | ⟨rfl, rfl⟩
    · obtain ⟨x, hx, hxf⟩ := h.flows d' c hmem
      exact ⟨x, hold hx, hxf⟩
    · exact ⟨d', Lists.getElem?_concat_iff.mpr (.inr ⟨h.tables.length, rfl⟩), rfl⟩
  · rw [firsts, hfirsts]
    obtain ⟨x, hx, hxf⟩ := h.flowsOut d' c hmem
    exact ⟨x, hold hx, hxf⟩
  · obtain rfl := Option.some.inj hc'
    intro c' x hx _
    have := (List.getElem?_eq_some_iff.mp hx).1
    rw [h.tables.length]
    omega

/-- The loop takes a datagram from the multiplexor. -/
lemma Inv.getDatagram (h : Inv s) {d : Datagram} {o : Option ℕ} (hd : Forwarded s.ws d ws o) :
    Inv { s with
      ws := ws
      forwarders := s.forwarders ++
        (if (s.ws.udpClients d.flowId).isNone then [Forwarder.new d] else [])
      inbox := s.inbox ++ [(d, o)] } := by
  cases hd with
  | drops hclient =>
      rw [if_neg (by simpa using hclient), List.append_nil]
      exact h.drops d h.tables rfl rfl
  | forgets hclient hch hopen =>
      rw [if_neg (by simp [hclient]), List.append_nil]
      exact h.drops d (h.tables.forgets hclient hch hopen) rfl rfl
  | queues hclient hch hopen =>
      rw [if_neg (by simp [hclient]), List.append_nil]
      exact h.queues hclient hch
  | opens hnone =>
      rw [if_pos (by simp [hnone])]
      exact h.opens hnone

lemma Inv.loop (h : Inv s) {e : Websocket.Event} (he : ofForwarder s.ws e = false)
    (hs : s.ws.step e = some ws) : Inv (s.loop e ws) := by
  by_cases hget : e = .getDatagram
  · subst hget
    unfold Websocket.step at hs
    split_ifs at hs
    simp only [Websocket.getDatagram] at hs
    split at hs
    case h_2 => cases hs
    case h_1 d rest hdatagrams =>
      obtain ⟨mux, -, rfl⟩ := Option.map_eq_some_iff.mp hs
      have hquiet : Inv { s with ws := { s.ws with mux := mux } } :=
        h.quiet (.of_jobs rfl rfl rfl) rfl
      have hloop := hquiet.getDatagram (forwarded hquiet.tables d)
      simp only [Forwarding.loop, hdatagrams, List.head?_cons]
      exact hloop
  by_cases hsend : e = .sendReply
  · subst hsend
    unfold Websocket.step at hs
    split_ifs at hs
    simp only [Websocket.sendReply] at hs
    split at hs
    case h_2 => cases hs
    case h_1 d rest hreplies =>
      obtain rfl := Option.some.inj hs
      have hhanded : s.outbox.map (·.1) = s.replied ++ [d] ++ rest := by
        rw [h.handed, hreplies, List.append_assoc, List.singleton_append]
      simp only [Forwarding.loop, hreplies, List.head?_cons, Option.toList_some]
      exact ⟨h.tables.quiet (.of_jobs rfl rfl rfl), h.fed, h.heard, h.flows, h.flowsOut, h.inOrder,
        h.outOrder, hhanded⟩
  · have hloop : s.loop e ws = { s with ws := ws } := by
      cases e with
      | getDatagram => exact absurd rfl hget
      | sendReply => exact absurd rfl hsend
      | _ => rfl
    rw [hloop]
    exact h.quiet (quiet_of_step hs he hget) (replies_of_step hs he hget hsend)

/-- The step lemma. -/
lemma Inv.step (h : Inv s) {a : Act} (hs : s.step a = some s') : Inv s' := by
  cases a with
  | loop e =>
      simp only [Forwarding.step] at hs
      split_ifs at hs with he
      obtain ⟨ws, hws, rfl⟩ := Option.map_eq_some_iff.mp hs
      exact h.loop (by simpa using he) hws
  | bind c targets =>
      obtain ⟨F, hF, hs⟩ := Option.bind_eq_some_iff.mp hs
      obtain ⟨G, hG, hs⟩ := Option.bind_eq_some_iff.mp hs
      exact h.advance hF (advances_bind hG) hs
  | sendFirst c ok =>
      obtain ⟨F, hF, hs⟩ := Option.bind_eq_some_iff.mp hs
      obtain ⟨G, hG, hs⟩ := Option.bind_eq_some_iff.mp hs
      exact h.advance hF (advances_sendFirst hG) hs
  | receive c data =>
      obtain ⟨F, hF, hs⟩ := Option.bind_eq_some_iff.mp hs
      exact h.receive hF hs
  | pass c ok =>
      obtain ⟨F, hF, hs⟩ := Option.bind_eq_some_iff.mp hs
      exact h.pass hF hs
  | timeout c =>
      obtain ⟨F, hF, hs⟩ := Option.bind_eq_some_iff.mp hs
      obtain ⟨G, hG, hs⟩ := Option.bind_eq_some_iff.mp hs
      exact h.advance hF (advances_timeout hG) hs

lemma inv_new (reverse : Bool) : Inv (new reverse) where
  tables := ⟨rfl, by simp [new, Websocket.new], by simp [new, Websocket.new],
    by simp [new, Websocket.new], by simp [new, Websocket.new]⟩
  fed c F ch hF := by simp [new] at hF
  heard c F hF := by simp [new] at hF
  flows d c h := by simp [new] at h
  flowsOut d c h := by simp [new] at h
  inOrder := .nil
  outOrder := .nil
  handed := rfl

end Runs

end Forwarding

end Penguin.Server
