import Penguin.Mux.Task
import Penguin.Lib.Transition

/-!
The steps of a multiplexor, and two of them over a connection.

A step is one call of the user, one iteration of one of the loops of the task, or the
arrival of a message. The connection delivers what was sent in order; it may also fail at
any moment. The multiplexor on its own, with any messages arriving, is the machine the
claims about arbitrary peers are stated for.
-/

namespace Penguin.Mux

inductive Action
  -- calls of the user
  | newStreamChannel (id : UInt32) (host : Bytes) (port : UInt16)
  | sendConnect (id : UInt32) (j : ℕ)
  | awaitStream (id : UInt32) (j : ℕ)
  | retryStream (id : UInt32) (j : ℕ) (id' : UInt32)
  | cancelStream (id : UInt32) (j : ℕ)
  | requestBind (id : UInt32) (host : Bytes) (port : UInt16) (bindType : BindType)
  | sendBind (id : UInt32) (j : ℕ)
  | awaitBind (id : UInt32) (j : ℕ)
  | cancelBind (id : UInt32) (j : ℕ)
  | acceptStreamChannel
  | getDatagram
  | sendDatagram (d : Datagram)
  | nextBindRequest
  | reply (id : UInt32) (i : ℕ) (accepted : Bool)
  | dropBind (id : UInt32) (i : ℕ)
  | dropMux
  -- operations on a handle
  | pollWrite (id : UInt32) (i : ℕ) (buf : Bytes)
  | copyPush (id : UInt32) (i : ℕ) (buf : Bytes)
  | pollShutdown (id : UInt32) (i : ℕ)
  | pollFillBuf (id : UInt32) (i : ℕ)
  | consume (id : UInt32) (i : ℕ) (amt : ℕ)
  | pollRead (id : UInt32) (i : ℕ) (remaining : ℕ)
  | dropStream (id : UInt32) (i : ℕ)
  -- iterations of the loops of the task
  | droppedPort
  | sendFrame
  | tick
  | resume
  | sinkError
  | sourceError
  | sourceEnd
  -- the points of `wind_down`
  | closeQueue
  | drainFrame
  | closeSink
  deriving DecidableEq, Repr

namespace Endpoint

/-- The select ends, with what it gives to `wind_down`. -/
def startWindDown (E : Endpoint) (drain : Bool) (res : Except Error Unit) : Endpoint :=
  { E.cancelNext.disallowWrites with phase := .yielding drain res }

/-- The loop over the remaining messages has ended without an error. -/
def finish (E : Endpoint) (res : Except Error Unit) : Endpoint :=
  { E.drainFlows with phase := .finished res }

/-- One iteration of `process_dropped_ports_task`. -/
def droppedPort (E : Endpoint) : Option Endpoint :=
  match E.phase, E.droppedPorts with
  | .running, n :: rest =>
    let E := { E with droppedPorts := rest }
    if n.id = 0 then some (E.startWindDown true (.ok ())) else some (E.closePort n.id false)
  | _, _ => none

/-- What becomes of the task when `process_ws_next` has dealt with a message. -/
def afterMessage (E : Endpoint) : Poll (Except Error Bool) → Endpoint
  | .ready (.ok false) => E
  | .ready (.ok true) => E.startWindDown false (.ok ())
  | .ready (.error e) => E.startWindDown false (.error e)
  | .pending => E

/-- A message arrives, at `process_ws_next` or at the loop of `wind_down`. -/
def recv (E : Endpoint) (msg : Message) : Option Endpoint :=
  match E.phase with
  | .running =>
    if E.blocked.isSome then none
    else
      let (E, r) := E.processMessage msg false
      some (E.afterMessage r)
  | .reading _ =>
    match E.processMessage msg true with
    | (E, .ready (.error e)) => some { E with phase := .finished (.error e) }
    | (E, _) => some E
  | _ => none

/-- `process_ws_next` gets on with what it was waiting to hand over. -/
def resume (E : Endpoint) : Option Endpoint :=
  match E.phase, E.blocked with
  | .running, some (.stream id i) =>
    match { E with blocked := none }.sendStream id i with
    | (E, .ready (.error e)) => some (E.startWindDown false (.error e))
    | (E, _) => some E
  | .running, some (.bind id i) => some ({ E with blocked := none }.sendBindRequest id i).1
  | _, _ => none

/-- The sink reports an error. -/
def sinkError (E : Endpoint) : Option Endpoint :=
  match E.phase with
  | .running => some (E.startWindDown false (.error .webSocket))
  | .draining res => some { E with phase := .closing res }
  | _ => none

/-- The source reports an error, or ends (`res` is what `process_ws_next` returns). -/
def sourceStops (E : Endpoint) (res : Except Error Unit) : Option Endpoint :=
  match E.phase with
  | .running => if E.blocked.isSome then none else some (E.startWindDown false res)
  | .reading res => some (E.finish res)
  | _ => none

def closeQueue (E : Endpoint) : Option Endpoint :=
  match E.phase with
  | .yielding drain res =>
    some { E with phase := if drain then .draining res else .closing res }
  | _ => none

/-- A step of the endpoint on its own: the new state, and what is handed to the sink. -/
def act (E : Endpoint) : Action → Option (Endpoint × List Message)
  | .newStreamChannel id host port => (E.newStreamChannel id host port).map (·, [])
  | .sendConnect id j => (E.sendConnect id j).map (·, [])
  | .awaitStream id j => (E.awaitStream id j).map (·, [])
  | .retryStream id j id' => (E.retryStream id j id').map (·, [])
  | .cancelStream id j => (E.cancelStream id j).map (·, [])
  | .requestBind id host port t => (E.requestBind id host port t).map (·, [])
  | .sendBind id j => (E.sendBind id j).map (·, [])
  | .awaitBind id j => (E.awaitBind id j).map (·, [])
  | .cancelBind id j => (E.cancelBind id j).map (·, [])
  | .acceptStreamChannel => E.acceptStreamChannel.map (·, [])
  | .getDatagram => E.getDatagram.map (·, [])
  | .sendDatagram d => if E.muxAlive then some ((E.sendDatagram d).1, []) else none
  | .nextBindRequest => E.nextBindRequest.map (·, [])
  | .reply id i accepted => if E.ownsBind id i then some (E.reply id accepted, []) else none
  | .dropBind id i => if E.ownsBind id i then some (E.dropBind id i, []) else none
  | .dropMux => if E.muxAlive then some (E.dropMux, []) else none
  | .pollWrite id i buf => (E.pollWrite id i buf).map (·.1, [])
  -- `poll_write_us` pushes what it has read from the other side, which is not empty
  | .copyPush id i buf =>
    if buf.isEmpty then none else (E.pollWrite id i buf).map (·.1, [])
  | .pollShutdown id i => (E.pollShutdown id i).map (·.1, [])
  | .pollFillBuf id i => (E.pollFillBuf id i).map (·.1, [])
  | .consume id i amt => (E.consume id i amt).map (·, [])
  | .pollRead id i remaining => (E.pollRead id i remaining).map (·.1, [])
  | .dropStream id i => (E.owns id i).map fun _ => (E.dropStream id i, [])
  | .droppedPort => E.droppedPort.map (·, [])
  | .sendFrame =>
    match E.phase, E.txFrames with
    | .running, f :: rest => some ({ E with txFrames := rest }, [.binary f])
    | _, _ => none
  | .tick =>
    match E.phase, E.opts.keepaliveInterval with
    | .running, some _ => some (E, [.ping])
    | _, _ => none
  | .resume => E.resume.map (·, [])
  | .sinkError => E.sinkError.map (·, [])
  | .sourceError => (E.sourceStops (.error .webSocket)).map (·, [])
  | .sourceEnd => (E.sourceStops (.ok ())).map (·, [])
  | .closeQueue => E.closeQueue.map (·, [])
  | .drainFrame =>
    match E.phase, E.txFrames with
    | .draining _, f :: rest => some ({ E with txFrames := rest }, [.binary f])
    | .draining res, [] => some ({ E with phase := .closing res }, [])
    | _, _ => none
  | .closeSink =>
    match E.phase with
    | .closing res => some ({ E with phase := .reading res }, [.close])
    | _ => none

/-- A step of a multiplexor whose peer may send anything. -/
inductive Event
  | act (a : Action)
  | recv (msg : Message)
  deriving DecidableEq, Repr

def step (E : Endpoint) : Event → Option Endpoint
  | .act a => (E.act a).map (·.1)
  | .recv msg => E.recv msg

end Endpoint

/-! ### Two endpoints -/

inductive Side
  | a
  | b
  deriving DecidableEq, Repr

def Side.peer : Side → Side
  | .a => .b
  | .b => .a

structure System where
  ep : Side → Endpoint
  /-- What a side has sent and its peer has not read. -/
  link : Side → List Message
  /-- History: the frames that have been processed, and where. No step reads it. -/
  log : List (Side × Frame)

inductive Label
  | act (e : Side) (a : Action)
  /-- The side reads the next message of its peer. -/
  | deliver (e : Side)
  deriving DecidableEq, Repr

namespace System

def new (opts : Side → Options) : System where
  ep e := Endpoint.new (opts e)
  link _ := []
  log := []

def logged (e : Side) : Message → List (Side × Frame)
  | .binary data =>
    match Frame.tryFrom data with
    | .ok f => [(e, f)]
    | .error _ => []
  | _ => []

def step (s : System) : Label → Option System
  | .act e a =>
    (s.ep e).act a |>.map fun (E, out) =>
      { s with ep := Function.update s.ep e E, link := Function.update s.link e (s.link e ++ out) }
  | .deliver e =>
    match s.link e.peer with
    | msg :: rest =>
      ((s.ep e).recv msg).map fun E =>
        { ep := Function.update s.ep e E
          link := Function.update s.link e.peer rest
          log := s.log ++ logged e msg }
    | [] => none

/-- A run in which side `e` opens a stream with flow id `x` and both users get their handle. -/
def openRun (e : Side) (x : UInt32) : List Label :=
  [.act e (.newStreamChannel x [] 0), .act e (.sendConnect x 0), .act e .sendFrame,
    .deliver e.peer, .act e.peer .sendFrame, .act e.peer .acceptStreamChannel, .deliver e,
    .act e (.awaitStream x 0)]

end System

end Penguin.Mux
