import Penguin.Mux.System
import Penguin.Lib.Select

/-!
The loop of the server over one connection.

`handle_websocket` owns a `Multiplexor`, spawns a forwarder for each stream and each UDP client
it hears of, and sends the datagrams that forwarders put into a channel back through the
multiplexor. It is one loop around a `select!`, and it ends when all branches are disabled.

The multiplexor is the one of `Penguin.Mux`; what its task does, what arrives at it and what
forwarders do with their streams comes between the rounds of the loop. A forwarder is known by
its result.
-/

namespace Penguin.Server

open Mux Penguin.Lib.Transition Penguin.Lib.Select

/-- `INCOMING_DATAGRAM_BUFFER_SIZE`. -/
def incomingDatagramBufferSize : ℕ := 64

/-- `BIND_BUFFER_SIZE`. -/
def bindBufferSize : ℕ := 16

inductive Job
  /-- `tcp_forwarder_on_channel` with a handle of the multiplexor. -/
  | tcp (id : UInt32) (i : ℕ)
  /-- `udp_forward_on` with the receiving half of a channel. -/
  | udp (channel : ℕ)
  deriving DecidableEq, Repr

inductive JobResult
  | ok
  | err
  | cancelled
  | panic
  deriving DecidableEq, Repr

/-- The channel to a UDP forwarder; it is open while the forwarder holds its receiver. -/
structure Channel where
  queue : List Datagram
  isOpen : Bool
  deriving DecidableEq, Repr

/-- How the loop ended. -/
inductive Exit
  | closed
  | panicked
  deriving DecidableEq, Repr

structure Websocket where
  mux : Endpoint
  /-- The `JoinSet`, with the results that have not been taken. -/
  jobs : List (Job × Option JobResult)
  /-- The sending half of the channel of each UDP client. -/
  udpClients : UInt32 → Option ℕ
  channels : List Channel
  /-- What `datagram_send_rx` has not handed out. -/
  replies : List Datagram
  /-- The loop still has `datagram_send_tx`. -/
  datagramSendTx : Bool
  outcome : Option Exit

namespace Websocket

def options (reverse : Bool) : Options :=
  { Options.new with bindBufferSize := if reverse then Server.bindBufferSize else 0 }

/-- `handle_websocket` up to its loop. -/
def new (reverse : Bool) : Websocket where
  mux := Endpoint.new (options reverse)
  jobs := []
  udpClients _ := none
  channels := []
  replies := []
  datagramSendTx := true
  outcome := none

/-! ### The branches -/

/-- `jobs.join_next()`: an empty `JoinSet` gives `None`. -/
def joinNextBranch (s : Websocket) : Branch :=
  if s.jobs.any (·.2.isSome) then .ready else if s.jobs.isEmpty then .disabled else .pending

/-- The receivers of the `Multiplexor` give nothing more once the task has ended. -/
def muxBranch (s : Websocket) (waiting : Bool) : Branch :=
  if waiting then .ready else if s.mux.phase.isFinished then .disabled else .pending

/-- `datagram_send_rx.recv()`: `None` when every sender is gone. -/
def replyBranch (s : Websocket) : Branch :=
  if !s.replies.isEmpty then .ready
  else if s.datagramSendTx || s.jobs.any (fun j => j.1 matches .udp _ && j.2.isNone) then .pending
  else .disabled

def branches (s : Websocket) : List Branch :=
  [s.joinNextBranch, s.muxBranch (!s.mux.conRecvStream.isEmpty),
    s.muxBranch (!s.mux.datagrams.isEmpty), s.replyBranch]

/-! ### The arms -/

/-- The result of job `k` is taken; the loop asserts that it is no panic. -/
def joinNext (s : Websocket) (k : ℕ) : Option Websocket :=
  match s.jobs[k]? with
  | some (_, some r) =>
    some { s with
      jobs := s.jobs.eraseIdx k
      outcome := if r = .panic then some .panicked else none }
  | _ => none

def acceptStream (s : Websocket) : Option Websocket :=
  match s.mux.conRecvStream with
  | (id, i) :: _ =>
    s.mux.acceptStreamChannel.map fun mux =>
      { s with mux := mux, jobs := s.jobs ++ [(.tcp id i, none)] }
  | [] => none

/-- A new client: a channel, its sender in the map, and a forwarder. -/
def addUdpClient (s : Websocket) (flowId : UInt32) : Websocket :=
  { s with
    udpClients := Function.update s.udpClients flowId (some s.channels.length)
    channels := s.channels ++ [⟨[], true⟩]
    jobs := s.jobs ++ [(.udp s.channels.length, none)] }

/-- `sender.try_send(..)`, and what is done about its errors. -/
def forward (s : Websocket) (d : Datagram) : Websocket :=
  match s.udpClients d.flowId with
  | some c =>
    match s.channels[c]? with
    | some ch =>
      if !ch.isOpen then { s with udpClients := Function.update s.udpClients d.flowId none }
      else if ch.queue.length < incomingDatagramBufferSize then
        { s with channels := s.channels.set c { ch with queue := ch.queue ++ [d] } }
      else s
    | none => s
  | none => s.addUdpClient d.flowId

def getDatagram (s : Websocket) : Option Websocket :=
  match s.mux.datagrams with
  | d :: _ => s.mux.getDatagram.map fun mux => { s with mux := mux }.forward d
  | [] => none

/-- An error of `send_datagram` is only logged. -/
def sendReply (s : Websocket) : Option Websocket :=
  match s.replies with
  | d :: rest => some { s with replies := rest, mux := (s.mux.sendDatagram d).1 }
  | [] => none

/-- The loop ends: the remaining forwarders are stopped, and the `Multiplexor` and the sender
go out of scope. -/
def elseArm (s : Websocket) : Option Websocket :=
  if elseRuns s.branches then
    some { s with mux := s.mux.dropMux, jobs := [], datagramSendTx := false, outcome := some .closed }
  else none

/-! ### The machine -/

/-- A call on the `Multiplexor`; nobody but the loop has it. -/
def onMux : Action → Bool
  | .newStreamChannel _ _ _ | .requestBind _ _ _ _ | .acceptStreamChannel | .getDatagram
  | .sendDatagram _ | .nextBindRequest | .dropMux => true
  | _ => false

inductive Event
  -- what happens around the loop
  | act (a : Action)
  | recv (msg : Message)
  | jobEnds (k : ℕ) (r : JobResult)
  | jobReceives (channel : ℕ)
  | jobReplies (channel : ℕ) (d : Datagram)
  -- the arms
  | joinNext (k : ℕ)
  | acceptStream
  | getDatagram
  | sendReply
  | elseArm

/-- A forwarder ends, and drops its half of a channel. -/
def jobEnds (s : Websocket) (k : ℕ) (r : JobResult) : Option Websocket :=
  match s.jobs[k]? with
  | some (job, none) =>
    let s := { s with jobs := s.jobs.set k (job, some r) }
    match job with
    | .tcp _ _ => some s
    | .udp c => some { s with channels := s.channels.modify c fun _ => ⟨[], false⟩ }
  | _ => none

/-- A UDP forwarder takes a datagram out of its channel. -/
def jobReceives (s : Websocket) (c : ℕ) : Option Websocket :=
  if s.jobs.contains (.udp c, none) then
    some { s with channels := s.channels.modify c fun ch => { ch with queue := ch.queue.tail } }
  else none

/-- A UDP forwarder sends a datagram to the loop. -/
def jobReplies (s : Websocket) (c : ℕ) (d : Datagram) : Option Websocket :=
  if s.jobs.contains (.udp c, none) && s.replies.length < incomingDatagramBufferSize then
    some { s with replies := s.replies ++ [d] }
  else none

def step (s : Websocket) (e : Event) : Option Websocket :=
  if s.outcome.isSome then none
  else
    match e with
    | .act a =>
      if onMux a then none else (s.mux.step (.act a)).map fun mux => { s with mux := mux }
    | .recv msg => (s.mux.step (.recv msg)).map fun mux => { s with mux := mux }
    | .jobEnds k r => s.jobEnds k r
    | .jobReceives c => s.jobReceives c
    | .jobReplies c d => s.jobReplies c d
    | .joinNext k => s.joinNext k
    | .acceptStream => s.acceptStream
    | .getDatagram => s.getDatagram
    | .sendReply => s.sendReply
    | .elseArm => s.elseArm

/-- The multiplexor is closed: its task has ended, and `accept_stream_channel` and
`get_datagram` return `Err`. -/
def Disconnected (s : Websocket) : Prop :=
  s.mux.phase.isFinished = true ∧ s.mux.conRecvStream = [] ∧ s.mux.datagrams = []

instance (s : Websocket) : Decidable s.Disconnected := by
  unfold Disconnected
  infer_instance

/-- Nothing is left to wait for, the loop has not ended, and it cannot go on. -/
structure Stuck (s : Websocket) : Prop where
  running : s.outcome = none
  disconnected : s.Disconnected
  jobs : s.jobs = []
  replies : s.replies = []
  waits : waits s.branches = true
  noElse : elseRuns s.branches = false

/-! ### The sender that the loop keeps -/

variable {s s' : Websocket}

/-- The loop has its sender for as long as it runs, so it does not end by itself. -/
def Holding (s : Websocket) : Prop :=
  s.outcome ≠ some .closed ∧ (s.outcome = none → s.datagramSendTx = true)

lemma Holding.pending (h : s.Holding) (hrun : s.outcome = none) (hempty : s.replies = []) :
    s.replyBranch = .pending := by
  simp [replyBranch, hempty, h.2 hrun]

lemma Holding.elseRuns (h : s.Holding) (hrun : s.outcome = none) : elseRuns s.branches = false := by
  cases hempty : s.replies with
  | nil =>
      refine not_elseRuns_of_pending ?_
      simp [branches, h.pending hrun hempty]
  | cons d rest => simp [branches, Lib.Select.elseRuns, replyBranch, hempty]

lemma forward_datagramSendTx (s : Websocket) (d : Datagram) :
    (s.forward d).datagramSendTx = s.datagramSendTx ∧ (s.forward d).outcome = s.outcome := by
  unfold forward
  split
  · split
    · split_ifs <;> exact ⟨rfl, rfl⟩
    · exact ⟨rfl, rfl⟩
  · exact ⟨rfl, rfl⟩

lemma Holding.step {e : Event} (h : s.Holding) (hs : s.step e = some s') : s'.Holding := by
  unfold Websocket.step at hs
  split_ifs at hs with hend
  have hrun : s.outcome = none := by simpa using hend
  have keep : ∀ {t : Websocket}, t.datagramSendTx = s.datagramSendTx → t.outcome = s.outcome →
      t.Holding := by
    intro t htx hout
    refine ⟨by rw [hout]; exact h.1, fun _ => ?_⟩
    rw [htx]
    exact h.2 hrun
  cases e with
  | act a =>
      simp only at hs
      split_ifs at hs
      obtain ⟨mux, -, rfl⟩ := Option.map_eq_some_iff.mp hs
      exact keep rfl rfl
  | recv msg =>
      obtain ⟨mux, -, rfl⟩ := Option.map_eq_some_iff.mp hs
      exact keep rfl rfl
  | jobEnds k r =>
      simp only [jobEnds] at hs
      split at hs
      · split at hs <;> obtain rfl := Option.some.inj hs <;> exact keep rfl rfl
      · cases hs
  | jobReceives c =>
      simp only [jobReceives] at hs
      split_ifs at hs
      obtain rfl := Option.some.inj hs
      exact keep rfl rfl
  | jobReplies c d =>
      simp only [jobReplies] at hs
      split_ifs at hs
      obtain rfl := Option.some.inj hs
      exact keep rfl rfl
  | joinNext k =>
      simp only [joinNext] at hs
      split at hs
      · obtain rfl := Option.some.inj hs
        refine ⟨?_, fun _ => h.2 hrun⟩
        dsimp only
        split_ifs <;> simp
      · cases hs
  | acceptStream =>
      simp only [acceptStream] at hs
      split at hs
      · obtain ⟨mux, -, rfl⟩ := Option.map_eq_some_iff.mp hs
        exact keep rfl rfl
      · cases hs
  | getDatagram =>
      simp only [getDatagram] at hs
      split at hs
      · obtain ⟨mux, -, rfl⟩ := Option.map_eq_some_iff.mp hs
        exact keep (forward_datagramSendTx _ _).1 (forward_datagramSendTx _ _).2
      · cases hs
  | sendReply =>
      simp only [sendReply] at hs
      split at hs
      · obtain rfl := Option.some.inj hs
        exact keep rfl rfl
      · cases hs
  | elseArm =>
      simp only [elseArm, h.elseRuns hrun] at hs
      simp at hs

lemma holding {reverse : Bool} (h : Reach step Any (new reverse) s) : s.Holding :=
  h.invariant (I := Holding) ⟨by simp [new], fun _ => rfl⟩ fun _ _ _ hI _ hs => hI.step hs

/-- A loop over a connection that has ended, with nothing left to do, is stuck. -/
lemma Holding.stuck (h : s.Holding) (hrun : s.outcome = none) (hdis : s.Disconnected)
    (hjobs : s.jobs = []) (hreplies : s.replies = []) : s.Stuck := by
  refine ⟨hrun, hdis, hjobs, hreplies, waits_of_pending ?_ ?_, h.elseRuns hrun⟩
  · obtain ⟨hfin, hstreams, hdatagrams⟩ := hdis
    simp [branches, joinNextBranch, muxBranch, h.pending hrun hreplies, hjobs, hfin, hstreams,
      hdatagrams]
  · simp [branches, h.pending hrun hreplies]

/-- The peer closes the connection right after it was made, and the task winds down. -/
def disconnectRun : List Event :=
  [.act .sourceEnd, .act .closeQueue, .act .closeSink, .act .sourceEnd]

lemma exists_disconnected (reverse : Bool) : ∃ s, Reach step Any (new reverse) s ∧
    s.outcome = none ∧ s.Disconnected ∧ s.jobs = [] ∧ s.replies = [] := by
  have hrun : (run step (new reverse) disconnectRun).any (fun s =>
      s.outcome == none && decide s.Disconnected && s.jobs.isEmpty && s.replies.isEmpty) = true := by
    cases reverse <;> decide +kernel
  obtain ⟨s, hs, hfacts⟩ := (Option.any_eq_true _ _).mp hrun
  simp only [Bool.and_eq_true, beq_iff_eq, decide_eq_true_eq, List.isEmpty_iff] at hfacts
  obtain ⟨⟨⟨hout, hdis⟩, hjobs⟩, hreplies⟩ := hfacts
  exact ⟨s, reach_of_run hs (runMeets_of_forall (fun _ _ _ => trivial) _), hout, hdis, hjobs,
    hreplies⟩

/-- **The server loop does not end**: whatever has happened before, the `else` arm cannot run,
and when the connection has ended, all forwarders have, and all replies have been sent, the loop
is stuck. Such states are reached. -/
theorem handle_websocket_stuck (reverse : Bool) :
    (∀ s, Reach step Any (new reverse) s →
      s.outcome ≠ some .closed ∧
      (s.outcome = none → s.Disconnected → s.jobs = [] → s.replies = [] → s.Stuck)) ∧
    ∃ s, Reach step Any (new reverse) s ∧ s.Stuck := by
  refine ⟨fun s hs => ⟨(holding hs).1, (holding hs).stuck⟩, ?_⟩
  obtain ⟨s, hs, hout, hdis, hjobs, hreplies⟩ := exists_disconnected reverse
  exact ⟨s, hs, (holding hs).stuck hout hdis hjobs hreplies⟩

/-- The loop of a client that goes away without having asked for anything. -/
theorem disconnected_loop_stuck : ∃ s, Reach step Any (new false) s ∧ s.Stuck := by
  obtain ⟨s, hs, hout, hdis, hjobs, hreplies⟩ := exists_disconnected false
  exact ⟨s, hs, (holding hs).stuck hout hdis hjobs hreplies⟩

end Websocket

end Penguin.Server
