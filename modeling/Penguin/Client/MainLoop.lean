import Penguin.Lib.Transition
import Penguin.Lib.Select
import Penguin.Mux.Endpoint
import Penguin.Mux.Timing

/-!
The main loop of the client.

`client_main_inner` connects to the server again and again. On each connection `on_connected`
serves the requests of local listeners: it asks the multiplexor for a stream for each
`StreamCommand`, and passes datagrams on. A command for which no stream could be had is parked,
and the connection is given up.

A step is what happens between two await points. How the multiplexor answers is up to the
environment; of its task only the end and the result matter here, which `on_connected` learns
from a `JoinSet`. The senders of the two channels live in static resources, so a `recv` on an
empty channel is pending and never gives `None`.
-/

namespace Penguin.Client

open Penguin.Lib.Transition Penguin.Lib.Select Mux

/-! ### Errors, and which of them are worth another try -/

inductive IoErrorKind
  | addrNotAvailable | brokenPipe | connectionRefused | connectionReset | hostUnreachable
  | networkUnreachable | connectionAborted | notConnected | networkDown | timedOut
  | unexpectedEof
  | other
  deriving DecidableEq, Repr

def IoErrorKind.retryable : IoErrorKind → Bool
  | .other => false
  | _ => true

inductive ProtocolError
  | receivedAfterClosing | resetWithoutClosingHandshake | sendAfterClosing | handshakeIncomplete
  | other
  deriving DecidableEq, Repr

def ProtocolError.retryable : ProtocolError → Bool
  | .other => false
  | _ => true

inductive TungsteniteError
  | io (kind : IoErrorKind)
  | alreadyClosed
  | connectionClosed
  | protocol (e : ProtocolError)
  | other
  deriving DecidableEq, Repr

def TungsteniteError.retryable : TungsteniteError → Bool
  | .io kind => kind.retryable
  | .alreadyClosed | .connectionClosed => true
  | .protocol e => e.retryable
  | .other => false

/-- The errors of the multiplexor, as the client sees them. -/
inductive MuxError
  | sendStreamToClient
  | closed
  | peerUnsupportedOperation
  | unsupportedOperation
  | flowIdRejected
  /-- The boxed error, if it is one of `tungstenite`. -/
  | webSocket (e : Option TungsteniteError)
  | datagramHostTooLong
  | invalidFrame
  | textMessage
  | connAckGone
  | channelClosed
  deriving DecidableEq, Repr

def MuxError.retryable : MuxError → Bool
  | .sendStreamToClient | .closed => true
  | .webSocket (some e) => e.retryable
  | _ => false

inductive Error
  | maxRetryCountReached (e : Error)
  | parseRemote
  | remoteHandlerExited
  | tungstenite (e : TungsteniteError)
  | tls
  | mux (e : MuxError)
  | handshakeTimeout
  | handshakeCancelled
  | streamRequestTimeout
  | remoteDisconnected
  deriving DecidableEq, Repr

def Error.retryable : Error → Bool
  | .tungstenite e => e.retryable
  | .mux e => e.retryable
  | .handshakeTimeout | .streamRequestTimeout | .remoteDisconnected => true
  | _ => false

/-! ### The state -/

/-- `STREAM_REQUEST_COMMAND_SIZE` and `INCOMING_DATAGRAM_BUFFER_SIZE`. -/
def streamRequestCommandSize : ℕ := 64

def incomingDatagramBufferSize : ℕ := 64

/-- What the loop uses of the arguments. -/
structure ClientArgs where
  maxRetryInterval : ℕ
  maxRetryCount : UInt32
  /-- `channel_timeout` is a duration, and not "indefinite". -/
  channelTimeout : Bool
  /-- `ctrl_c()` can listen for the signal. -/
  ctrlC : Bool

structure StreamCommand where
  /-- The oneshot channel to the listener, by its number. -/
  tx : ℕ
  host : Bytes
  port : UInt16
  deriving DecidableEq, Repr

/-- The task of the multiplexor and its place in the `JoinSet`. -/
inductive MuxTask
  | running
  | ended (res : Except MuxError Unit)
  /-- The result was `Ok` and has been taken; the `JoinSet` is empty. -/
  | joined

/-- Where `main_future` is waiting. -/
inductive Pc
  /-- `ws_connect::handshake(args).await`. -/
  | connecting
  /-- `get_send_stream_chan(..).await`, for a command. -/
  | requesting (task : MuxTask) (command : StreamCommand)
  /-- The `select!` of `on_connected`. -/
  | serving (task : MuxTask)
  /-- After Ctrl-C: the multiplexor has been dropped, its task is awaited. -/
  | quitting (task : MuxTask)
  /-- The pause before the next attempt. -/
  | waiting
  | returned (r : Except Error Unit)

/-- `on_connected` has been called and has not returned. -/
def Pc.connected : Pc → Bool
  | .requesting _ _ | .serving _ | .quitting _ => true
  | _ => false

/-- An item taken from one of the channels. -/
inductive Item
  | command (command : StreamCommand)
  | datagram (d : Datagram)
  deriving DecidableEq, Repr

structure Main where
  args : ClientArgs
  /-- `stream_command_rx` and `datagram_rx`. -/
  commands : List StreamCommand
  datagrams : List Datagram
  failedStreamRequest : Option StreamCommand
  backoff : Backoff
  pc : Pc
  /-- What `get_datagram` of the current multiplexor has not handed out. -/
  incoming : List Datagram
  /-- History: the commands that have been taken from the channel ... -/
  taken : List StreamCommand
  /-- ... those that got a stream (or whose listener was gone by then) ... -/
  answered : List StreamCommand
  /-- ... and those that `replace` threw out of `failed_stream_request`. -/
  lost : List StreamCommand
  /-- History: what was taken when the result of the multiplexor task had been taken. -/
  late : List Item
  /-- History: what `on_connected` has returned. -/
  results : List (Except Error Unit)

namespace Main

def new (args : ClientArgs) : Main where
  args := args
  commands := []
  datagrams := []
  failedStreamRequest := none
  backoff := .new 200000000 (args.maxRetryInterval * 1000000) 2 args.maxRetryCount
  pc := .connecting
  incoming := []
  taken := []
  answered := []
  lost := []
  late := []
  results := []

/-! ### The retry loop -/

/-- What the loop does with an error. -/
def retry (s : Main) (e : Error) : Main :=
  if !e.retryable then { s with pc := .returned (.error e) }
  else
    match s.backoff.advance with
    | (backoff, some _) => { s with backoff := backoff, pc := .waiting }
    | (backoff, none) =>
      { s with backoff := backoff, pc := .returned (.error (.maxRetryCountReached e)) }

/-- `on_connected` returns an error. Since there was a connection, the retry count starts
anew. -/
def disconnected (s : Main) (e : Error) : Main :=
  ({ s with backoff := s.backoff.reset, results := s.results ++ [.error e] } : Main).retry e

/-- `on_connected` returns `Ok`. -/
def quit (s : Main) : Main :=
  { s with results := s.results ++ [.ok ()], pc := .returned (.ok ()) }

/-! ### Inside `on_connected` -/

/-- The first lines: a parked command is tried first. -/
def onConnected (s : Main) : Main :=
  let s := { s with incoming := [] }
  match s.failedStreamRequest with
  | some command => { s with failedStreamRequest := none, pc := .requesting .running command }
  | none => { s with pc := .serving .running }

/-- `failed_stream_request.replace(stream_command)`. -/
def park (s : Main) (command : StreamCommand) : Main :=
  { s with
    failedStreamRequest := some command
    lost := s.lost ++ s.failedStreamRequest.toList }

/-- How `new_stream_channel`, under its timeout, ends. -/
inductive ChannelResult
  | stream
  | error (e : MuxError)
  | elapsed
  deriving DecidableEq, Repr

/-- The rest of `get_send_stream_chan`. -/
def getSendStreamChan (s : Main) (task : MuxTask) (command : StreamCommand) :
    ChannelResult → Main
  | .stream => { s with answered := s.answered ++ [command], pc := .serving task }
  | .error e => (s.park command).disconnected (.mux e)
  | .elapsed => (s.park command).disconnected .streamRequestTimeout

/-- Something was taken from a channel while the loop already had the result of the task. -/
def note (s : Main) (task : MuxTask) (item : Item) : Main :=
  match task with
  | .joined => { s with late := s.late ++ [item] }
  | _ => s

/-- The branches of the `select!`: the task, the two channels, the multiplexor, Ctrl-C. -/
def branches (s : Main) (task : MuxTask) : List Branch :=
  [match task with
    | .running => .pending
    | .ended _ => .ready
    | .joined => .disabled,
    if s.commands.isEmpty then .pending else .ready,
    if s.datagrams.isEmpty then .pending else .ready,
    if !s.incoming.isEmpty then .ready
    else match task with
      | .running => .pending
      | _ => .disabled,
    if s.args.ctrlC then .pending else .disabled]

inductive Event
  -- the listeners
  | command (command : StreamCommand)
  | datagram (d : Datagram)
  -- the connection
  | handshakeOk
  | handshakeFails (e : Error)
  | muxEnds (res : Except MuxError Unit)
  | muxDatagram (d : Datagram)
  -- the arms of `on_connected`
  | joinNext
  | takeCommand
  | channelResult (r : ChannelResult)
  | takeDatagram
  | takeReply
  | ctrlC
  | elseArm
  -- the pause: it ends by itself, or when `ctrl_c()` completes, with or without an error
  | retryTimer
  | ctrlCWhileWaiting

/-- The task of the multiplexor ends. -/
def muxEnds (s : Main) (res : Except MuxError Unit) : Option Main :=
  match s.pc with
  | .requesting .running command => some { s with pc := .requesting (.ended res) command }
  | .serving .running => some { s with pc := .serving (.ended res) }
  | .quitting .running => some { s with pc := .quitting (.ended res) }
  | _ => none

/-- The result of the task is taken, in the loop or after Ctrl-C. -/
def joinNext (s : Main) : Option Main :=
  match s.pc with
  | .serving (.ended (.ok ())) => some { s with pc := .serving .joined }
  | .serving (.ended (.error e)) => some (s.disconnected (.mux e))
  | .quitting (.ended (.ok ())) => some s.quit
  | .quitting (.ended (.error e)) => some (s.disconnected (.mux e))
  | .quitting .joined => some s.quit
  | _ => none

def takeCommand (s : Main) : Option Main :=
  match s.pc, s.commands with
  | .serving task, command :: rest =>
    some (({ s with
      commands := rest
      taken := s.taken ++ [command]
      pc := .requesting task command } : Main).note task (.command command))
  | _, _ => none

/-- An error of `send_datagram` is only logged: the datagram is gone either way. -/
def takeDatagram (s : Main) : Option Main :=
  match s.pc, s.datagrams with
  | .serving task, d :: rest => some (({ s with datagrams := rest } : Main).note task (.datagram d))
  | _, _ => none

def step (s : Main) : Event → Option Main
  | .command command =>
    if s.commands.length < streamRequestCommandSize then
      some { s with commands := s.commands ++ [command] }
    else none
  | .datagram d =>
    if s.datagrams.length < incomingDatagramBufferSize then
      some { s with datagrams := s.datagrams ++ [d] }
    else none
  | .handshakeOk =>
    match s.pc with
    | .connecting => some s.onConnected
    | _ => none
  | .handshakeFails e =>
    match s.pc with
    | .connecting => some (s.retry e)
    | _ => none
  | .muxEnds res => s.muxEnds res
  | .muxDatagram d => some { s with incoming := s.incoming ++ [d] }
  | .joinNext => s.joinNext
  | .takeCommand => s.takeCommand
  | .channelResult r =>
    match s.pc with
    | .requesting task command =>
      if r = .elapsed && !s.args.channelTimeout then none
      else some (s.getSendStreamChan task command r)
    | _ => none
  | .takeDatagram => s.takeDatagram
  | .takeReply =>
    match s.pc, s.incoming with
    | .serving _, _ :: rest => some { s with incoming := rest }
    | _, _ => none
  | .ctrlC =>
    match s.pc with
    | .serving task => if s.args.ctrlC then some { s with pc := .quitting task } else none
    | _ => none
  | .elseArm =>
    match s.pc with
    | .serving task =>
      if elseRuns (s.branches task) then some (s.disconnected .remoteDisconnected) else none
    | _ => none
  | .retryTimer =>
    match s.pc with
    | .waiting => some { s with pc := .connecting }
    | _ => none
  | .ctrlCWhileWaiting =>
    match s.pc with
    | .waiting => some { s with pc := .returned (.error .handshakeCancelled) }
    | _ => none

/-! ### Small facts -/

/-- The command that `get_send_stream_chan` is working on. -/
def processing (s : Main) : Option StreamCommand :=
  match s.pc with
  | .requesting _ command => some command
  | _ => none

variable {s s' : Main}

/-- What an error does: the loop pauses or returns. -/
lemma retry_cases (s : Main) (e : Error) : ∃ backoff pc, s.retry e =
    { s with backoff := backoff, pc := pc } ∧ pc.connected = false := by
  unfold retry
  split_ifs
  · exact ⟨_, _, rfl, rfl⟩
  · split
    · exact ⟨_, _, rfl, rfl⟩
    · exact ⟨_, _, rfl, rfl⟩

lemma disconnected_cases (s : Main) (e : Error) : ∃ backoff pc, s.disconnected e =
    { s with backoff := backoff, results := s.results ++ [.error e], pc := pc } ∧
      pc.connected = false := by
  obtain ⟨backoff, pc, heq, hpc⟩ := retry_cases
    { s with backoff := s.backoff.reset, results := s.results ++ [.error e] } e
  exact ⟨backoff, pc, heq, hpc⟩

lemma processing_of_not_connected (h : s.pc.connected = false) : s.processing = none := by
  cases hpc : s.pc <;> simp [processing, hpc, Pc.connected] at h ⊢

lemma note_eq (s : Main) (task : MuxTask) (item : Item) :
    ∃ late, s.note task item = { s with late := s.late ++ late } ∧
      (late = [] ∨ late = [item]) := by
  unfold note
  split
  · exact ⟨[item], rfl, .inr rfl⟩
  · exact ⟨[], by simp, .inl rfl⟩

/-- The two channels are never disabled, so the `else` arm cannot run. -/
lemma not_elseRuns (s : Main) (task : MuxTask) : elseRuns (s.branches task) = false := by
  cases hc : s.commands with
  | nil => exact not_elseRuns_of_pending (by simp [branches, hc])
  | cons command rest => simp [branches, elseRuns, hc]

/-! ### What a step can do -/

/-- The ways a step can go. The `else` arm is not among them. -/
inductive Steps (s : Main) : Event → Main → Prop
  -- the listeners and the peer
  | command {command : StreamCommand} (hroom : s.commands.length < streamRequestCommandSize) :
      Steps s (.command command) { s with commands := s.commands ++ [command] }
  | datagram {d : Datagram} (hroom : s.datagrams.length < incomingDatagramBufferSize) :
      Steps s (.datagram d) { s with datagrams := s.datagrams ++ [d] }
  | muxDatagram (d : Datagram) :
      Steps s (.muxDatagram d) { s with incoming := s.incoming ++ [d] }
  -- the connection
  | unpark {command : StreamCommand} (hpc : s.pc = .connecting)
      (hparked : s.failedStreamRequest = some command) :
      Steps s .handshakeOk { s with
        incoming := [], failedStreamRequest := none, pc := .requesting .running command }
  | serve (hpc : s.pc = .connecting) (hfree : s.failedStreamRequest = none) :
      Steps s .handshakeOk { s with incoming := [], pc := .serving .running }
  | handshakeFails {e : Error} (hpc : s.pc = .connecting) :
      Steps s (.handshakeFails e) (s.retry e)
  | muxEnds {res : Except MuxError Unit} {pc : Pc}
      (hpc : (∃ command, s.pc = .requesting .running command ∧
          pc = .requesting (.ended res) command) ∨
        (s.pc = .serving .running ∧ pc = .serving (.ended res)) ∨
        (s.pc = .quitting .running ∧ pc = .quitting (.ended res))) :
      Steps s (.muxEnds res) { s with pc := pc }
  -- the result of the multiplexor task
  | joined (hpc : s.pc = .serving (.ended (.ok ()))) :
      Steps s .joinNext { s with pc := .serving .joined }
  | lost {e : MuxError}
      (hpc : s.pc = .serving (.ended (.error e)) ∨ s.pc = .quitting (.ended (.error e))) :
      Steps s .joinNext (s.disconnected (.mux e))
  | quits (hpc : s.pc = .quitting (.ended (.ok ())) ∨ s.pc = .quitting .joined) :
      Steps s .joinNext s.quit
  -- the other arms of the loop
  | takeCommand {task : MuxTask} {command : StreamCommand} {rest : List StreamCommand}
      (hpc : s.pc = .serving task) (hcommands : s.commands = command :: rest) :
      Steps s .takeCommand (({ s with
        commands := rest
        taken := s.taken ++ [command]
        pc := .requesting task command } : Main).note task (.command command))
  | answers {task : MuxTask} {command : StreamCommand} (hpc : s.pc = .requesting task command) :
      Steps s (.channelResult .stream)
        { s with answered := s.answered ++ [command], pc := .serving task }
  | channelFails {task : MuxTask} {command : StreamCommand} {e : MuxError}
      (hpc : s.pc = .requesting task command) :
      Steps s (.channelResult (.error e)) ((s.park command).disconnected (.mux e))
  | elapses {task : MuxTask} {command : StreamCommand} (hpc : s.pc = .requesting task command)
      (htimeout : s.args.channelTimeout = true) :
      Steps s (.channelResult .elapsed) ((s.park command).disconnected .streamRequestTimeout)
  | takeDatagram {task : MuxTask} {d : Datagram} {rest : List Datagram} (hpc : s.pc = .serving task)
      (hdatagrams : s.datagrams = d :: rest) :
      Steps s .takeDatagram (({ s with datagrams := rest } : Main).note task (.datagram d))
  | takeReply {task : MuxTask} {d : Datagram} {rest : List Datagram} (hpc : s.pc = .serving task)
      (hincoming : s.incoming = d :: rest) : Steps s .takeReply { s with incoming := rest }
  | ctrlC {task : MuxTask} (hpc : s.pc = .serving task) (hctrl : s.args.ctrlC = true) :
      Steps s .ctrlC { s with pc := .quitting task }
  -- the pause
  | retryTimer (hpc : s.pc = .waiting) : Steps s .retryTimer { s with pc := .connecting }
  | ctrlCWhileWaiting (hpc : s.pc = .waiting) :
      Steps s .ctrlCWhileWaiting { s with pc := .returned (.error .handshakeCancelled) }

lemma steps_joinNext (hs : s.joinNext = some s') : s.Steps .joinNext s' := by
  unfold joinNext at hs
  split at hs
  case h_1 hpc =>
    obtain rfl := Option.some.inj hs
    exact .joined hpc
  case h_2 hpc =>
    obtain rfl := Option.some.inj hs
    exact .lost (.inl hpc)
  case h_3 hpc =>
    obtain rfl := Option.some.inj hs
    exact .quits (.inl hpc)
  case h_4 hpc =>
    obtain rfl := Option.some.inj hs
    exact .lost (.inr hpc)
  case h_5 hpc =>
    obtain rfl := Option.some.inj hs
    exact .quits (.inr hpc)
  case h_6 => cases hs

lemma steps_muxEnds {res : Except MuxError Unit} (hs : s.muxEnds res = some s') :
    s.Steps (.muxEnds res) s' := by
  unfold muxEnds at hs
  split at hs
  case h_1 command hpc =>
    obtain rfl := Option.some.inj hs
    exact .muxEnds (.inl ⟨command, hpc, rfl⟩)
  case h_2 hpc =>
    obtain rfl := Option.some.inj hs
    exact .muxEnds (.inr (.inl ⟨hpc, rfl⟩))
  case h_3 hpc =>
    obtain rfl := Option.some.inj hs
    exact .muxEnds (.inr (.inr ⟨hpc, rfl⟩))
  case h_4 => cases hs

/-- **Steps**: whatever happens, the loop goes one of these ways. -/
theorem steps {e : Event} (hs : s.step e = some s') : s.Steps e s' := by
  cases e with
  | command command =>
      simp only [Main.step] at hs
      split_ifs at hs with hroom
      obtain rfl := Option.some.inj hs
      exact .command hroom
  | datagram d =>
      simp only [Main.step] at hs
      split_ifs at hs with hroom
      obtain rfl := Option.some.inj hs
      exact .datagram hroom
  | handshakeOk =>
      simp only [Main.step] at hs
      split at hs
      case h_2 => cases hs
      case h_1 hpc =>
        obtain rfl := Option.some.inj hs
        unfold onConnected
        dsimp only
        split
        case h_1 command hparked => exact .unpark hpc hparked
        case h_2 hfree => exact .serve hpc hfree
  | handshakeFails e =>
      simp only [Main.step] at hs
      split at hs
      case h_2 => cases hs
      case h_1 hpc =>
        obtain rfl := Option.some.inj hs
        exact .handshakeFails hpc
  | muxEnds res => exact steps_muxEnds hs
  | muxDatagram d =>
      obtain rfl := Option.some.inj hs
      exact .muxDatagram d
  | joinNext => exact steps_joinNext hs
  | takeCommand =>
      simp only [Main.step, takeCommand] at hs
      split at hs
      case h_2 => cases hs
      case h_1 hpc hcommands =>
        obtain rfl := Option.some.inj hs
        exact .takeCommand hpc hcommands
  | channelResult r =>
      simp only [Main.step] at hs
      split at hs
      case h_2 => cases hs
      case h_1 hpc =>
        split_ifs at hs with htimeout
        obtain rfl := Option.some.inj hs
        cases r with
        | stream => exact .answers hpc
        | error e => exact .channelFails hpc
        | elapsed => exact .elapses hpc (by simpa using htimeout)
  | takeDatagram =>
      simp only [Main.step, takeDatagram] at hs
      split at hs
      case h_2 => cases hs
      case h_1 hpc hdatagrams =>
        obtain rfl := Option.some.inj hs
        exact .takeDatagram hpc hdatagrams
  | takeReply =>
      simp only [Main.step] at hs
      split at hs
      case h_2 => cases hs
      case h_1 hpc hincoming =>
        obtain rfl := Option.some.inj hs
        exact .takeReply hpc hincoming
  | ctrlC =>
      simp only [Main.step] at hs
      split at hs
      case h_2 => cases hs
      case h_1 hpc =>
        split_ifs at hs with hctrl
        obtain rfl := Option.some.inj hs
        exact .ctrlC hpc hctrl
  | elseArm =>
      simp only [Main.step] at hs
      split at hs
      case h_2 => cases hs
      case h_1 => simp [not_elseRuns] at hs
  | retryTimer =>
      simp only [Main.step] at hs
      split at hs
      case h_2 => cases hs
      case h_1 hpc =>
        obtain rfl := Option.some.inj hs
        exact .retryTimer hpc
  | ctrlCWhileWaiting =>
      simp only [Main.step] at hs
      split at hs
      case h_2 => cases hs
      case h_1 hpc =>
        obtain rfl := Option.some.inj hs
        exact .ctrlCWhileWaiting hpc

/-! ### Where a command is -/

/-- Every command that was taken is in one place. -/
structure Accounted (s : Main) : Prop where
  taken : s.taken.Perm (s.answered ++ s.processing.toList ++ s.failedStreamRequest.toList)
  lost : s.lost = []
  /-- The place for a parked command is free while there is a connection. -/
  free : s.pc.connected = true → s.failedStreamRequest = none

lemma accounted_new (args : ClientArgs) : (new args).Accounted :=
  ⟨by simp [new, processing], rfl, fun _ => rfl⟩

lemma Accounted.keep (h : s.Accounted) (htaken : s'.taken = s.taken)
    (hanswered : s'.answered = s.answered) (hlost : s'.lost = s.lost)
    (hfailed : s'.failedStreamRequest = s.failedStreamRequest)
    (hproc : s'.processing = s.processing)
    (hconn : s'.pc.connected = true → s.pc.connected = true) : s'.Accounted := by
  refine ⟨?_, by rw [hlost, h.lost], fun hc => by rw [hfailed, h.free (hconn hc)]⟩
  rw [htaken, hanswered, hfailed, hproc]
  exact h.taken

lemma Accounted.retry (h : s.Accounted) (hproc : s.processing = none) (e : Error) :
    (s.retry e).Accounted := by
  obtain ⟨backoff, pc, heq, hpc⟩ := retry_cases s e
  rw [heq]
  refine h.keep rfl rfl rfl rfl ?_ (by simp [hpc])
  rw [hproc]
  exact processing_of_not_connected hpc

lemma Accounted.disconnected (h : s.Accounted) (hproc : s.processing = none) (e : Error) :
    (s.disconnected e).Accounted := by
  have hres : Accounted { s with backoff := s.backoff.reset, results := s.results ++ [.error e] } :=
    h.keep rfl rfl rfl rfl rfl fun hc => hc
  exact hres.retry hproc e

/-- The command that is being processed is parked, and the connection is given up. -/
lemma Accounted.park (h : s.Accounted) {task : MuxTask} {command : StreamCommand}
    (hpc : s.pc = .requesting task command) (e : Error) :
    ((s.park command).disconnected e).Accounted := by
  have hfree : s.failedStreamRequest = none := h.free (by simp [hpc, Pc.connected])
  have hproc : s.processing = some command := by simp [processing, hpc]
  obtain ⟨backoff, pc, heq, hpc'⟩ := disconnected_cases (s.park command) e
  rw [heq]
  refine ⟨?_, ?_, by simp [hpc']⟩
  · have hnone : processing { s.park command with
        backoff := backoff, results := (s.park command).results ++ [.error e], pc := pc } = none :=
      processing_of_not_connected hpc'
    rw [hnone]
    simpa [Main.park, hproc, hfree] using h.taken
  · simp [Main.park, hfree, h.lost]

/-- The parked command is the first that is tried. -/
lemma Accounted.unpark (h : s.Accounted) {command : StreamCommand} (hpc : s.pc = .connecting)
    (hparked : s.failedStreamRequest = some command) : Accounted { s with
      incoming := [], failedStreamRequest := none, pc := .requesting .running command } := by
  have hproc : s.processing = none := by simp [processing, hpc]
  have htaken := h.taken
  rw [hproc, hparked] at htaken
  exact ⟨by simpa [processing] using htaken, h.lost, fun _ => rfl⟩

lemma Accounted.serve (h : s.Accounted) (hpc : s.pc = .connecting)
    (hfree : s.failedStreamRequest = none) :
    Accounted { s with incoming := [], pc := .serving .running } := by
  have hproc : s.processing = none := by simp [processing, hpc]
  have htaken := h.taken
  rw [hproc] at htaken
  exact ⟨htaken, h.lost, fun _ => hfree⟩

lemma Accounted.take (h : s.Accounted) {task : MuxTask} (hpc : s.pc = .serving task)
    (command : StreamCommand) (rest : List StreamCommand) :
    Accounted (({ s with
      commands := rest
      taken := s.taken ++ [command]
      pc := .requesting task command } : Main).note task (.command command)) := by
  obtain ⟨late, heq, -⟩ := note_eq ({ s with
    commands := rest, taken := s.taken ++ [command], pc := .requesting task command } : Main)
    task (.command command)
  have hfree : s.failedStreamRequest = none := h.free (by simp [hpc, Pc.connected])
  have hproc : s.processing = none := by simp [processing, hpc]
  have htaken := h.taken
  rw [hproc, hfree] at htaken
  rw [heq]
  refine ⟨?_, h.lost, fun _ => hfree⟩
  simpa [processing, hfree] using htaken.append_right [command]

lemma Accounted.answer (h : s.Accounted) {task : MuxTask} {command : StreamCommand}
    (hpc : s.pc = .requesting task command) :
    Accounted { s with answered := s.answered ++ [command], pc := .serving task } := by
  have hfree : s.failedStreamRequest = none := h.free (by simp [hpc, Pc.connected])
  have hproc : s.processing = some command := by simp [processing, hpc]
  have htaken := h.taken
  rw [hproc, hfree] at htaken
  exact ⟨by simpa [processing, hfree] using htaken, h.lost, fun _ => hfree⟩

lemma Accounted.step {e : Event} (h : s.Accounted) (hs : s.step e = some s') : s'.Accounted := by
  cases steps hs with
  | unpark hpc hparked => exact h.unpark hpc hparked
  | serve hpc hfree => exact h.serve hpc hfree
  | takeCommand hpc hcommands => exact h.take hpc _ _
  | answers hpc => exact h.answer hpc
  -- a connection, or an attempt at one, fails
  | handshakeFails hpc => exact h.retry (by simp [processing, hpc]) _
  | lost hpc => exact h.disconnected (by rcases hpc with hpc | hpc <;> simp [processing, hpc]) _
  | channelFails hpc => exact h.park hpc _
  | elapses hpc htimeout => exact h.park hpc _
  -- the rest has nothing to do with commands
  | command | datagram | muxDatagram | takeReply => exact h.keep rfl rfl rfl rfl rfl fun hc => hc
  | @takeDatagram task d rest hpc hdatagrams =>
      obtain ⟨late, heq, -⟩ := note_eq ({ s with datagrams := rest } : Main) task (.datagram d)
      rw [heq]
      exact h.keep rfl rfl rfl rfl rfl fun hc => hc
  | muxEnds hpc =>
      obtain ⟨command, hpc, rfl⟩ | ⟨hpc, rfl⟩ | ⟨hpc, rfl⟩ := hpc <;>
        exact h.keep rfl rfl rfl rfl (by simp [processing, hpc]) (by simp [hpc, Pc.connected])
  | quits hpc =>
      rcases hpc with hpc | hpc <;>
        exact h.keep rfl rfl rfl rfl (by simp [processing, quit, hpc]) (by simp [quit, Pc.connected])
  | joined hpc | ctrlC hpc | retryTimer hpc | ctrlCWhileWaiting hpc =>
      exact h.keep rfl rfl rfl rfl (by simp [processing, hpc]) (by simp [hpc, Pc.connected])

/-- **No request is lost**: a command that was taken has been answered, is being processed, or
is the one that is parked. A parked command is not overwritten, and it is the first that is
tried on the next connection. -/
theorem stream_requests_kept {args : ClientArgs} (h : Reach Main.step Any (new args) s) :
    s.taken.Perm (s.answered ++ s.processing.toList ++ s.failedStreamRequest.toList) ∧
    s.lost = [] ∧
    (s.pc.connected = true → s.failedStreamRequest = none) ∧
    (∀ command s', s.failedStreamRequest = some command → s.step .handshakeOk = some s' →
      s'.processing = some command ∧ s'.failedStreamRequest = none) := by
  have hacc : s.Accounted := h.invariant (accounted_new args) fun _ _ _ hI _ hs => hI.step hs
  refine ⟨hacc.taken, hacc.lost, hacc.free, fun command s' hf hs => ?_⟩
  cases steps hs with
  | unpark hpc hparked =>
      obtain rfl := Option.some.inj (hf.symm.trans hparked)
      exact ⟨rfl, rfl⟩
  | serve hpc hfree => simp [hf] at hfree

/-- A request fails with the connection it was made on, and is parked. -/
theorem stream_requests_kept_parked : ∃ s,
    run Main.step (new ⟨1000, 0, true, true⟩) [.command ⟨0, [104], 80⟩, .handshakeOk, .takeCommand,
      .channelResult (.error .closed)] = some s ∧
    s.failedStreamRequest = some ⟨0, [104], 80⟩ ∧ s.taken = [⟨0, [104], 80⟩] ∧ s.lost = [] := by
  obtain ⟨s, hs, hparked, htaken⟩ : ∃ s,
      run Main.step (new ⟨1000, 0, true, true⟩) [.command ⟨0, [104], 80⟩, .handshakeOk,
        .takeCommand, .channelResult (.error .closed)] = some s ∧
      s.failedStreamRequest = some ⟨0, [104], 80⟩ ∧ s.taken = [⟨0, [104], 80⟩] :=
    ⟨_, rfl, rfl, rfl⟩
  have hreach := reach_of_run hs (runMeets_of_forall (fun _ _ _ => trivial) _)
  exact ⟨s, hs, hparked, htaken, (stream_requests_kept hreach).2.1⟩

/-! ### When the multiplexor task has ended -/

/-- Steps that are taken while `on_connected` has not returned. -/
def OnConnection (s : Main) (_ : Event) : Prop := s.pc.connected = true

/-- The loop has the result of the task, and it has done nothing since. Until it takes
something from a channel it can only be stopped by Ctrl-C. -/
def Idle (s t : Main) : Prop :=
  (t.late = s.late ∧ t.results = s.results ∧ (t.pc = .serving .joined ∨ t.pc = .quitting .joined)) ∨
  (t.late = s.late ∧ t.results = s.results ++ [.ok ()] ∧ t.pc.connected = false) ∨
  s.late.length < t.late.length

lemma late_step {e : Event} (hs : s.step e = some s') : s.late.length ≤ s'.late.length := by
  have hretry : ∀ (t : Main) (err : Error), (t.retry err).late = t.late := by
    intro t err
    obtain ⟨backoff, pc, heq, -⟩ := retry_cases t err
    rw [heq]
  have hdis : ∀ (t : Main) (err : Error), (t.disconnected err).late = t.late :=
    fun t err => hretry _ err
  have hnote : ∀ (t : Main) (task : MuxTask) (item : Item),
      t.late.length ≤ (t.note task item).late.length := by
    intro t task item
    obtain ⟨late, heq, -⟩ := note_eq t task item
    simp [heq]
  cases steps hs with
  | handshakeFails hpc => rw [hretry]
  | lost hpc => rw [hdis]
  | channelFails hpc => exact (congrArg List.length (hdis (s.park _) _)).ge
  | elapses hpc htimeout => exact (congrArg List.length (hdis (s.park _) _)).ge
  | @takeCommand task command rest hpc hcommands =>
      exact hnote { s with
        commands := rest, taken := s.taken ++ [command], pc := .requesting task command } task _
  | @takeDatagram task d rest hpc hdatagrams => exact hnote { s with datagrams := rest } task _
  | _ => exact le_rfl

lemma Idle.step {t t' : Main} {e : Event} (h : Idle s t) (hconn : t.pc.connected = true)
    (hs : t.step e = some t') : Idle s t' := by
  have hmono := late_step hs
  obtain ⟨hlate, hres, hpc⟩ | ⟨-, -, hgone⟩ | hlt := h
  · have keep : t'.late = t.late → t'.results = t.results → t'.pc = t.pc → Idle s t' :=
      fun h₁ h₂ h₃ => .inl ⟨h₁.trans hlate, h₂.trans hres, by rwa [h₃]⟩
    cases steps hs with
    | command | datagram | muxDatagram | takeReply => exact keep rfl rfl rfl
    -- Ctrl-C, and the end it brings
    | ctrlC hpc' =>
        obtain rfl : _ = MuxTask.joined := by simpa [hpc'] using hpc
        exact .inl ⟨hlate, hres, .inr rfl⟩
    | quits hpc' => exact .inr (.inl ⟨hlate, by simp [quit, hres], rfl⟩)
    -- something is taken
    | takeCommand hpc' hcommands =>
        obtain rfl : _ = MuxTask.joined := by simpa [hpc'] using hpc
        exact .inr (.inr (by simp [note, hlate]))
    | takeDatagram hpc' hdatagrams =>
        obtain rfl : _ = MuxTask.joined := by simpa [hpc'] using hpc
        exact .inr (.inr (by simp [note, hlate]))
    -- the loop is at another place
    | unpark hpc' | serve hpc' | handshakeFails hpc' | joined hpc' | answers hpc'
    | channelFails hpc' | elapses hpc' | retryTimer hpc' | ctrlCWhileWaiting hpc' =>
        simp [hpc'] at hpc
    | lost hpc' => rcases hpc' with hpc' | hpc' <;> simp [hpc'] at hpc
    | muxEnds hpc' =>
        obtain ⟨command, hpc', -⟩ | ⟨hpc', -⟩ | ⟨hpc', -⟩ := hpc' <;> simp [hpc'] at hpc
  · simp [hgone] at hconn
  · exact .inr (.inr (hlt.trans_le hmono))

lemma Idle.reach {t t' : Main} (h : Idle s t) (hreach : Reach Main.step OnConnection t t') :
    Idle s t' := by
  induction hreach with
  | start => exact h
  | next _ hconn hs ih => exact ih.step hconn hs

/-- A loop that goes on after the end of the task takes the next datagram. -/
lemma exists_late (hpc : s.pc = .serving .joined) :
    ∃ t, Reach Main.step OnConnection s t ∧ t.late ≠ s.late := by
  have htake : ∀ {u : Main} {d : Datagram} {rest : List Datagram}, u.pc = .serving .joined →
      u.datagrams = d :: rest → u.late = s.late → ∃ t, u.step .takeDatagram = some t ∧
        t.late ≠ s.late := by
    intro u d rest hupc hd hlate
    refine ⟨({ u with datagrams := rest } : Main).note .joined (.datagram d), ?_, ?_⟩
    · obtain ⟨_, _, _, _, _, _, _, _, _, _, _, _⟩ := u
      subst hupc hd
      rfl
    · simp [note, hlate]
  have hconn : s.pc.connected = true := by simp [hpc, Pc.connected]
  cases hd : s.datagrams with
  | cons d rest =>
      obtain ⟨t, ht, hne⟩ := htake hpc hd rfl
      exact ⟨t, .next .start hconn ht, hne⟩
  | nil =>
      -- a listener sends one
      set u : Main := { s with datagrams := [⟨1, [], 0, []⟩] } with hu
      have hsend : s.step (.datagram ⟨1, [], 0, []⟩) = some u := by
        simp [Main.step, hd, hu, incomingDatagramBufferSize]
      obtain ⟨t, ht, hne⟩ := htake (u := u) hpc rfl rfl
      exact ⟨t, .next (.next .start hconn hsend) hconn ht, hne⟩

/-- The loss of the connection is noticed in `s₁`, where the result of the multiplexor task has
been taken: whatever happens before `on_connected` returns, nothing more is taken from the
channels, and what it returns is an error that is worth another try. -/
structure NoticesLoss (s s₁ : Main) : Prop where
  takesNothing : ∀ s₂, Reach Main.step OnConnection s₁ s₂ → s₂.late = s.late
  retryable : ∀ s₂, Reach Main.step OnConnection s₁ s₂ → s₂.pc.connected = false →
    ∃ err : Error, s₂.results = s.results ++ [.error err] ∧ err.retryable = true
  returns : ∃ s₂, Reach Main.step OnConnection s₁ s₂ ∧ s₂.pc.connected = false

lemma eq_of_returned {s₁ s₂ : Main} (hgone : s₁.pc.connected = false)
    (hreach : Reach Main.step OnConnection s₁ s₂) : s₂ = s₁ := by
  induction hreach with
  | start => rfl
  | next _ hconn _ ih =>
      subst ih
      have hconn' : _ = true := hconn
      rw [hgone] at hconn'
      cases hconn'

lemma joinNext_error {e : MuxError} (hpc : s.pc = .serving (.ended (.error e))) :
    s.step .joinNext = some (s.disconnected (.mux e)) ∧
    (s.disconnected (.mux e)).pc.connected = false ∧
    (s.disconnected (.mux e)).results = s.results ++ [.error (.mux e)] ∧
    (s.disconnected (.mux e)).late = s.late := by
  obtain ⟨backoff, pc, heq, hgone⟩ := disconnected_cases s (.mux e)
  refine ⟨by simp only [Main.step, joinNext, hpc], ?_, ?_, ?_⟩
  all_goals rw [heq]
  exact hgone

/-- **The end of a connection**: when the result of the multiplexor task is taken, nothing more
is taken from the channels before `on_connected` returns an error worth another try if and only
if the result is such an error. Any error is returned at once. After `Ok` the loop goes on, and
only Ctrl-C stops it before it has taken something. -/
theorem lost_connection_noticed_iff {res : Except MuxError Unit}
    (hpc : s.pc = .serving (.ended res)) :
    ∃ s₁, s.step .joinNext = some s₁ ∧
      (NoticesLoss s s₁ ↔ ∃ e, res = .error e ∧ (Error.mux e).retryable = true) ∧
      (∀ e, res = .error e → s₁.pc.connected = false ∧
        s₁.results = s.results ++ [.error (.mux e)]) ∧
      (res = .ok () → ∀ s₂, Reach Main.step OnConnection s₁ s₂ → s₂.late = s.late →
        s₂.pc.connected = true ∨ s₂.results = s.results ++ [.ok ()]) := by
  cases res with
  | error e =>
      obtain ⟨hjoin, hgone, hres, hlate⟩ := joinNext_error hpc
      refine ⟨s.disconnected (.mux e), hjoin, ⟨fun h => ?_, ?_⟩, ?_, by simp⟩
      · obtain ⟨err, herr, hretry⟩ := h.retryable _ .start hgone
        rw [hres] at herr
        obtain rfl : Error.mux e = err := by simpa using herr
        exact ⟨e, rfl, hretry⟩
      · rintro ⟨e', he, hretry⟩
        obtain rfl := Except.error.inj he
        refine ⟨fun s₂ hreach => ?_, fun s₂ hreach _ => ?_, ⟨_, .start, hgone⟩⟩
        · rw [eq_of_returned hgone hreach, hlate]
        · rw [eq_of_returned hgone hreach]
          exact ⟨_, hres, hretry⟩
      · rintro e' he
        obtain rfl := Except.error.inj he
        exact ⟨hgone, hres⟩
  | ok u =>
      refine ⟨{ s with pc := .serving .joined }, by simp only [Main.step, joinNext, hpc], ?_,
        by simp, fun _ s₂ hreach hlate => ?_⟩
      · refine ⟨fun h => ?_, by simp⟩
        obtain ⟨t, hreach, hne⟩ := exists_late (s := { s with pc := .serving .joined }) rfl
        exact absurd (h.takesNothing t hreach) hne
      · have hidle : Idle s { s with pc := .serving .joined } := .inl ⟨rfl, rfl, .inl rfl⟩
        obtain ⟨-, -, hpc | hpc⟩ | ⟨-, hres, -⟩ | hlt := hidle.reach hreach
        · simp [hpc, Pc.connected]
        · simp [hpc, Pc.connected]
        · exact .inr hres
        · simp [hlate] at hlt

/-- The connection breaks: the loop returns the error, and there will be another try. -/
theorem lost_connection_noticed_closed : ∃ s s₁,
    run Main.step (new ⟨1000, 0, true, true⟩) [.handshakeOk, .muxEnds (.error .closed)] = some s ∧
    s.step .joinNext = some s₁ ∧ s₁.results = [.error (.mux .closed)] ∧ NoticesLoss s s₁ := by
  obtain ⟨s, hs, hpc, hres⟩ : ∃ s, run Main.step (new ⟨1000, 0, true, true⟩)
      [.handshakeOk, .muxEnds (.error .closed)] = some s ∧
      s.pc = .serving (.ended (.error .closed)) ∧ s.results = [] := ⟨_, rfl, rfl, rfl⟩
  obtain ⟨s₁, hs₁, hiff, hreturns, -⟩ := lost_connection_noticed_iff hpc
  refine ⟨s, s₁, hs, hs₁, ?_, hiff.mpr ⟨_, rfl, rfl⟩⟩
  rw [(hreturns _ rfl).2, hres]
  rfl

/-- The server closes the connection; the loop goes on, and takes a datagram that it cannot
send. -/
theorem closed_connection_drops_datagram : ∃ s,
    Reach Main.step Any (new ⟨1000, 0, true, true⟩) s ∧ s.pc.connected = true ∧
    s.late = [.datagram ⟨1, [], 53, [1]⟩] ∧ s.results.length = 0 := by
  have hrun : ∃ s, run Main.step (new ⟨1000, 0, true, true⟩) [.handshakeOk, .muxEnds (.ok ()),
      .joinNext, .datagram ⟨1, [], 53, [1]⟩, .takeDatagram] = some s ∧ s.pc.connected = true ∧
      s.late = [.datagram ⟨1, [], 53, [1]⟩] ∧ s.results.length = 0 := ⟨_, rfl, rfl, rfl, rfl⟩
  obtain ⟨s, hs, hfacts⟩ := hrun
  exact ⟨s, reach_of_run hs (runMeets_of_forall (fun _ _ _ => trivial) _), hfacts⟩

end Main

end Penguin.Client
