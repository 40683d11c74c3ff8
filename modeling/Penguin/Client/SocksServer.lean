import Penguin.Client.SocksRequest
import Penguin.Lib.Logged

/-!
The sessions of the SOCKS server.

A session reads the request of a client, asks for what it wants, and writes the replies. The client
is given by what it sends, the rest of the surroundings by answers that may depend on everything
that has happened. `Session` lists all that can be seen of a session.
-/

namespace Penguin.Client.Socks

open Penguin.Lib.BigEndian Penguin.Lib.Logged Penguin.Lib.Reading
open Mux (Bytes putU16)

/-- The errors that are not only the end of a session. -/
inductive FatalError
  | clientIo
  | requestStream
  | sendDatagram
  | mainLoopExitWithoutSendingStream
  deriving DecidableEq, Repr

/-- `Error`, with the errors of the readers as one kind. -/
inductive SessionError
  | request (e : Error)
  | write
  | invalidCommand (command : UInt8)
  | otherAuth
  | fatal (e : FatalError)
  deriving DecidableEq, Repr

inductive Event
  /-- `write_all`. -/
  | wrote (bytes : Bytes) (ok : Bool)
  | flushed (ok : Bool)
  /-- `stream_command_tx.reserve()`. -/
  | reserved (ok : Bool)
  /-- A `StreamCommand` was sent, and a stream came back or nothing did. -/
  | requested (host : Bytes) (port : UInt16) (ok : Bool)
  /-- The stream was copied, with what the client had sent behind its request. -/
  | copied (rest : Bytes) (ok : Bool)
  | boundUdp (ok : Bool)
  | localAddr (addr : Option SocketAddr)
  | relaySpawned (addr : SocketAddr)
  /-- `read_exact` of one more byte has returned. -/
  | clientGone
  | relayAborted
  deriving DecidableEq

abbrev Log := List Event

abbrev Run (A : Type) := Prog Event SessionError A

structure World where
  write : Log → Bool
  flush : Log → Bool
  reserve : Log → Bool
  /-- The main loop gets a stream for the command. -/
  stream : Log → Bool
  copy : Log → Bool
  bindUdp : Log → Bool
  localAddr : Log → Option SocketAddr
  ipv6ToString : BitVec 128 → Bytes

/-! ### Replies -/

/-- A write or a flush, and `map_err`. -/
def output (answer : Log → Bool) (event : Bool → Event) (context : String) : Run Unit :=
  Prog.ask (fun log => if answer log then .ok ()
    else .error (.request (.processSocksRequest context))) fun r => event r.isOk

def reply (w : World) (bytes : Bytes) (context : String) : Run Unit := do
  output w.write (.wrote bytes) context
  output w.flush .flushed "flush"

/-- The bytes of `v4::write_response`. -/
def v4Response (response : UInt8) : Bytes := [0, response, 0, 0, 0, 0, 0, 0]

def v4WriteResponse (w : World) (response : UInt8) : Run Unit :=
  reply w (v4Response response) "write response"

/-- The bytes of `v5::write_response`. -/
def v5Response (response : UInt8) : SocketAddr → Bytes
  | .v4 ip port => [0x05, response, 0x00, 0x01] ++ toBytes 4 ip.toNat ++ putU16 port
  | .v6 ip port _ _ => [0x05, response, 0x00, 0x04] ++ toBytes 16 ip.toNat ++ putU16 port

def v5WriteResponse (w : World) (response : UInt8) (addr : SocketAddr) : Run Unit :=
  reply w (v5Response response addr) "write response"

/-- The bytes of `v5::write_response_unspecified`. -/
def v5Unspecified (response : UInt8) : Bytes := [0x05, response, 0x00, 0x01, 0, 0, 0, 0, 0, 0]

def v5WriteResponseUnspecified (w : World) (response : UInt8) : Run Unit :=
  reply w (v5Unspecified response) "write response"

def v5WriteAuthMethod (w : World) (method : UInt8) : Run Unit :=
  reply w [0x05, method] "write auth method"

/-! ### A session -/

/-- A reader of the stream, which may have written something before it fails. -/
def readRequest {A : Type} (w : World) (r : Except Failure (A × Bytes)) : Run (A × Bytes) :=
  match r with
  | .ok x => pure x
  | .error f => do
    if f.written ≠ [] then reply w f.written "write unsupported address type"
    Prog.fail (.request f.error)

def readAuthMethods (input : Bytes) : Except Failure (Bytes × Bytes) := do
  let (numMethods, input) ← readU8 "read number of methods" input
  readExact numMethods.toNat "read methods" input

/-- What only the end of the main loop makes fail. -/
def fromMain (answer : Log → Bool) (event : Bool → Event) (e : FatalError) : Run Unit :=
  Prog.ask (fun log => if answer log then .ok () else .error (.fatal e)) fun r => event r.isOk

/-- `handle_connect`, and the permit that its callers get for it. -/
def handleConnect (w : World) (rhost : Bytes) (rport : UInt16) (success : Run Unit)
    (rest : Bytes) : Run Unit := do
  fromMain w.reserve .reserved .requestStream
  fromMain w.stream (.requested rhost rport) .mainLoopExitWithoutSendingStream
  success
  Prog.ask (fun log => if w.copy log then .ok () else .error .write) fun r => .copied rest r.isOk

def socks4 (w : World) (input : Bytes) : Run Unit := do
  let ((command, rhost, rport), rest) ← readRequest w (v4ReadRequest input)
  if command = 0x01 then handleConnect w rhost rport (v4WriteResponse w 0x5a) rest
  else
    v4WriteResponse w 0x5b
    Prog.fail (.invalidCommand command)

def handleAssociate (w : World) : Run Unit := do
  match ← (output w.bindUdp .boundUdp "bind udp socket").attempt with
  | .error e =>
    v5WriteResponseUnspecified w 0x01
    Prog.fail e
  | .ok () =>
    match ← (Prog.ask (fun log => match w.localAddr log with
        | some addr => .ok addr
        | none => .error (.request (.processSocksRequest "get udp socket local addr")))
        fun r => .localAddr r.toOption).attempt with
    | .error e =>
      v5WriteResponseUnspecified w 0x01
      Prog.fail e
    | .ok addr =>
      Prog.emit (.relaySpawned addr)
      v5WriteResponse w 0x00 addr
      Prog.emit .clientGone
      Prog.emit .relayAborted

def socks5 (w : World) (input : Bytes) : Run Unit := do
  let (methods, input) ← readRequest w (readAuthMethods input)
  if !methods.contains 0x00 then
    v5WriteAuthMethod w 0xff
    Prog.fail .otherAuth
  else
    v5WriteAuthMethod w 0x00
    let ((command, rhost, rport), rest) ← readRequest w (v5ReadRequest w.ipv6ToString input)
    if command = 0x01 then
      handleConnect w rhost rport (v5WriteResponseUnspecified w 0x00) rest
    else if command = 0x03 then handleAssociate w
    else
      v5WriteResponseUnspecified w 0x07
      Prog.fail (.invalidCommand command)

/-- `on_socks_accept`, for a client that sends `input`. -/
def onSocksAccept (w : World) (input : Bytes) : Run Unit := do
  let (version, input) ← readRequest w (readU8 "read version" input)
  if version = 4 then socks4 w input
  else if version = 5 then socks5 w input
  else Prog.fail (.request (.socksVersion version))

/-! ### What can be seen of a session -/

/-- The request of the client and what it sends behind it, if the server comes to read one. -/
def requestOf (ipv6ToString : BitVec 128 → Bytes) (input : Bytes) :
    Option ((UInt8 × Bytes × UInt16) × Bytes) := do
  let (version, input) ← (readU8 "read version" input).toOption
  if version = 4 then (v4ReadRequest input).toOption
  else if version = 5 then
    let (methods, input) ← (readAuthMethods input).toOption
    if methods.contains 0x00 then (v5ReadRequest ipv6ToString input).toOption else none
  else none

/-- A reply, and whether all of it went out. -/
inductive Replied (bytes : Bytes) : List Event → Bool → Prop
  | out : Replied bytes [.wrote bytes true, .flushed true] true
  | unwritten : Replied bytes [.wrote bytes false] false
  | unflushed : Replied bytes [.wrote bytes true, .flushed false] false

/-- An error that ends the session only. -/
def Local (e : SessionError) : Prop := ∀ f, e ≠ .fatal f

inductive Connects (host : Bytes) (port : UInt16) (success rest : Bytes) :
    List Event → Except SessionError Unit → Prop
  | noPermit : Connects host port success rest [.reserved false] (.error (.fatal .requestStream))
  | noStream : Connects host port success rest [.reserved true, .requested host port false]
      (.error (.fatal .mainLoopExitWithoutSendingStream))
  | noReply {t : List Event} {e : SessionError} (ht : Replied success t false) (he : Local e) :
      Connects host port success rest ([.reserved true, .requested host port true] ++ t) (.error e)
  | copyFails : Connects host port success rest
      [.reserved true, .requested host port true, .wrote success true, .flushed true,
        .copied rest false] (.error .write)
  | copies : Connects host port success rest
      [.reserved true, .requested host port true, .wrote success true, .flushed true,
        .copied rest true] (.ok ())

inductive Associates : List Event → Except SessionError Unit → Prop
  | unbound {t : List Event} {ok : Bool} {e : SessionError} (ht : Replied (v5Unspecified 0x01) t ok)
      (he : Local e) : Associates (.boundUdp false :: t) (.error e)
  | noAddr {t : List Event} {ok : Bool} {e : SessionError} (ht : Replied (v5Unspecified 0x01) t ok)
      (he : Local e) : Associates ([.boundUdp true, .localAddr none] ++ t) (.error e)
  | noReply {t : List Event} {e : SessionError} (addr : SocketAddr)
      (ht : Replied (v5Response 0x00 addr) t false) (he : Local e) :
      Associates ([.boundUdp true, .localAddr (some addr), .relaySpawned addr] ++ t) (.error e)
  | relays (addr : SocketAddr) :
      Associates [.boundUdp true, .localAddr (some addr), .relaySpawned addr,
        .wrote (v5Response 0x00 addr) true, .flushed true, .clientGone, .relayAborted] (.ok ())

/-- What version 5 does with a request. -/
inductive Served (request : Option ((UInt8 × Bytes × UInt16) × Bytes)) :
    List Event → Except SessionError Unit → Prop
  | unread {e : SessionError} (he : Local e) : Served request [] (.error e)
  | rejected {t : List Event} {ok : Bool} {e : SessionError} (code : UInt8)
      (hcode : code = 0x07 ∨ code = 0x08) (ht : Replied (v5Unspecified code) t ok) (he : Local e) :
      Served request t (.error e)
  | connect {t : List Event} {r : Except SessionError Unit} {host rest : Bytes} {port : UInt16}
      (hreq : request = some ((0x01, host, port), rest))
      (ht : Connects host port (v5Unspecified 0x00) rest t r) : Served request t r
  | associate {t : List Event} {r : Except SessionError Unit} (ht : Associates t r) :
      Served request t r

inductive Session (request : Option ((UInt8 × Bytes × UInt16) × Bytes)) :
    List Event → Except SessionError Unit → Prop
  | unread {e : SessionError} (he : Local e) : Session request [] (.error e)
  | rejected {t : List Event} {ok : Bool} {e : SessionError} (ht : Replied (v4Response 0x5b) t ok)
      (he : Local e) : Session request t (.error e)
  | connect {t : List Event} {r : Except SessionError Unit} {host rest : Bytes} {port : UInt16}
      (hreq : request = some ((0x01, host, port), rest))
      (ht : Connects host port (v4Response 0x5a) rest t r) : Session request t r
  | refused {t : List Event} {ok : Bool} {e : SessionError} (ht : Replied [0x05, 0xff] t ok)
      (he : Local e) : Session request t (.error e)
  | unchosen {t : List Event} {e : SessionError} (ht : Replied [0x05, 0x00] t false)
      (he : Local e) : Session request t (.error e)
  | served {t : List Event} {r : Except SessionError Unit} (ht : Served request t r) :
      Session request ([.wrote [0x05, 0x00] true, .flushed true] ++ t) r

/-! ### Every session is one of these -/

lemma local_request (e : Error) : Local (.request e) := fun _ h => by cases h

lemma local_invalidCommand (command : UInt8) : Local (.invalidCommand command) := fun _ h => by
  cases h

section Sessions

variable {w : World} {input : Bytes} {T : List Event → Except SessionError Unit → Prop}

lemma emits_output {answer : Log → Bool} {event : Bool → Event} {context : String}
    (hok : T [event true] (.ok ()))
    (herror : T [event false] (.error (.request (.processSocksRequest context)))) :
    Emits (output answer event context) T := by
  refine Emits.ask fun log => ?_
  cases answer log
  · exact herror
  · exact hok

lemma emits_fromMain {answer : Log → Bool} {event : Bool → Event} {e : FatalError}
    (hok : T [event true] (.ok ())) (herror : T [event false] (.error (.fatal e))) :
    Emits (fromMain answer event e) T := by
  refine Emits.ask fun log => ?_
  cases answer log
  · exact herror
  · exact hok

lemma emits_reply {bytes : Bytes} {context : String}
    (hok : T [.wrote bytes true, .flushed true] (.ok ()))
    (herror : ∀ t e, Replied bytes t false → Local e → T t (.error e)) :
    Emits (reply w bytes context) T := by
  refine Emits.bind (T := fun t r => (t = [.wrote bytes true] ∧ r = .ok ()) ∨
      ∃ e, t = [.wrote bytes false] ∧ r = .error e ∧ Local e) ?_ ?_ ?_
  · exact emits_output (.inl ⟨rfl, rfl⟩) (.inr ⟨_, rfl, rfl, local_request _⟩)
  · rintro t e (⟨-, h⟩ | ⟨e', rfl, h, he⟩)
    · cases h
    · cases h
      exact herror _ _ .unwritten he
  · rintro t a (⟨rfl, -⟩ | ⟨e, -, h, -⟩)
    · exact emits_output hok (herror _ _ .unflushed (local_request _))
    · cases h

/-- A reply behind which the session ends. -/
lemma emits_reject {A : Type} {T : List Event → Except SessionError A → Prop} {bytes : Bytes}
    {context : String} {e : SessionError} (he : Local e)
    (h : ∀ t ok e', Replied bytes t ok → Local e' → T t (.error e')) :
    Emits (do reply w bytes context; Prog.fail e) T := by
  refine Emits.bind (T := fun t r => (t = [.wrote bytes true, .flushed true] ∧ r = .ok ()) ∨
      ∃ e, Replied bytes t false ∧ r = .error e ∧ Local e) ?_ ?_ ?_
  · exact emits_reply (.inl ⟨rfl, rfl⟩) fun t e ht he => .inr ⟨e, ht, rfl, he⟩
  · rintro t e' (⟨-, h'⟩ | ⟨e'', ht, h', he'⟩)
    · cases h'
    · cases h'
      exact h t _ _ ht he'
  · rintro t a (⟨rfl, -⟩ | ⟨e', -, h', -⟩)
    · exact Emits.fail (h _ _ _ .out he)
    · cases h'

/-- A request is read, or an error comes behind the reply that the reader makes. -/
lemma emits_readRequest {A : Type} {r : Except Failure (A × Bytes)}
    {T : List Event → Except SessionError (A × Bytes) → Prop}
    (hok : ∀ x, r = .ok x → T [] (.ok x))
    (hsilent : ∀ f, r = .error f → f.written = [] → ∀ e, Local e → T [] (.error e))
    (hreply : ∀ f, r = .error f → f.written ≠ [] → ∀ t ok e, Replied f.written t ok → Local e →
      T t (.error e)) : Emits (readRequest w r) T := by
  cases r with
  | ok x => exact Emits.pure (hok x rfl)
  | error f =>
      by_cases hf : f.written = []
      · have hprog : readRequest w (.error f) =
            (Prog.fail (.request f.error) : Run (A × Bytes)) := by
          simp [readRequest, hf]
        rw [hprog]
        exact Emits.fail (hsilent f rfl hf _ (local_request _))
      · have hprog : readRequest w (.error f) = (do
            reply w f.written "write unsupported address type"
            Prog.fail (.request f.error) : Run (A × Bytes)) := by
          simp [readRequest, hf]
        rw [hprog]
        exact emits_reject (local_request _) (hreply f rfl hf)

lemma emits_handleConnect {host rest bytes : Bytes} {port : UInt16} {context : String} :
    Emits (handleConnect w host port (reply w bytes context) rest)
      (Connects host port bytes rest) := by
  refine Emits.bind (T := fun t r => (t = [.reserved true] ∧ r = .ok ()) ∨
      t = [.reserved false] ∧ r = .error (.fatal .requestStream)) ?_ ?_ ?_
  · exact emits_fromMain (.inl ⟨rfl, rfl⟩) (.inr ⟨rfl, rfl⟩)
  · rintro t e (⟨-, h⟩ | ⟨rfl, h⟩)
    · cases h
    · cases h
      exact .noPermit
  rintro t a (⟨rfl, -⟩ | ⟨-, h⟩)
  swap
  · cases h
  refine Emits.bind (T := fun t r => (t = [.requested host port true] ∧ r = .ok ()) ∨
      t = [.requested host port false] ∧
        r = .error (.fatal .mainLoopExitWithoutSendingStream)) ?_ ?_ ?_
  · exact emits_fromMain (.inl ⟨rfl, rfl⟩) (.inr ⟨rfl, rfl⟩)
  · rintro t e (⟨-, h⟩ | ⟨rfl, h⟩)
    · cases h
    · cases h
      exact .noStream
  rintro t a (⟨rfl, -⟩ | ⟨-, h⟩)
  swap
  · cases h
  refine Emits.bind (T := fun t r => (t = [.wrote bytes true, .flushed true] ∧ r = .ok ()) ∨
      ∃ e, Replied bytes t false ∧ r = .error e ∧ Local e) ?_ ?_ ?_
  · exact emits_reply (.inl ⟨rfl, rfl⟩) fun t e ht he => .inr ⟨e, ht, rfl, he⟩
  · rintro t e (⟨-, h⟩ | ⟨e', ht, h, he⟩)
    · cases h
    · cases h
      exact .noReply ht he
  · rintro t a (⟨rfl, -⟩ | ⟨e, -, h, -⟩)
    swap
    · cases h
    refine Emits.ask fun log => ?_
    cases w.copy log
    · exact .copyFails
    · exact .copies

lemma emits_handleAssociate : Emits (handleAssociate w) Associates := by
  refine Emits.bind (T := fun t r => (t = [.boundUdp true] ∧ r = .ok (.ok ())) ∨
      ∃ e, t = [.boundUdp false] ∧ r = .ok (.error e) ∧ Local e) ?_ ?_ ?_
  · exact Emits.attempt (emits_output (.inl ⟨rfl, rfl⟩) (.inr ⟨_, rfl, rfl, local_request _⟩))
  · rintro t e (⟨-, h⟩ | ⟨e', -, h, -⟩) <;> cases h
  rintro t a (⟨rfl, h⟩ | ⟨e, rfl, h, he⟩) <;> cases h
  swap
  · exact emits_reject he fun t ok e' ht he' => .unbound ht he'
  refine Emits.bind (T := fun t r => (∃ addr, t = [.localAddr (some addr)] ∧ r = .ok (.ok addr)) ∨
      ∃ e, t = [.localAddr none] ∧ r = .ok (.error e) ∧ Local e) ?_ ?_ ?_
  · refine Emits.attempt (Emits.ask fun log => ?_)
    cases w.localAddr log with
    | some addr => exact .inl ⟨addr, rfl, rfl⟩
    | none => exact .inr ⟨_, rfl, rfl, local_request _⟩
  · rintro t e (⟨addr, -, h⟩ | ⟨e', -, h, -⟩) <;> cases h
  rintro t a (⟨addr, rfl, h⟩ | ⟨e, rfl, h, he⟩) <;> cases h
  swap
  · exact emits_reject he fun t ok e' ht he' => .noAddr ht he'
  refine Emits.bind (T := fun t r => t = [.relaySpawned addr] ∧ r = .ok ()) (Emits.emit ⟨rfl, rfl⟩)
    (fun t e h => by cases h.2) ?_
  rintro t a ⟨rfl, -⟩
  refine Emits.bind (T := fun t r =>
      (t = [.wrote (v5Response 0x00 addr) true, .flushed true] ∧ r = .ok ()) ∨
      ∃ e, Replied (v5Response 0x00 addr) t false ∧ r = .error e ∧ Local e) ?_ ?_ ?_
  · exact emits_reply (.inl ⟨rfl, rfl⟩) fun t e ht he => .inr ⟨e, ht, rfl, he⟩
  · rintro t e (⟨-, h⟩ | ⟨e', ht, h, he⟩)
    · cases h
    · cases h
      exact .noReply addr ht he
  rintro t a (⟨rfl, -⟩ | ⟨e, -, h, -⟩)
  swap
  · cases h
  refine Emits.bind (T := fun t r => t = [.clientGone] ∧ r = .ok ()) (Emits.emit ⟨rfl, rfl⟩)
    (fun t e h => by cases h.2) ?_
  rintro t a ⟨rfl, -⟩
  exact Emits.emit (.relays addr)

def Silent (f : Failure) : Prop := f.written = []

lemma silent_failed (context : String) : Silent (failed context) := rfl

/-- The readers write nothing, except where the address type is not supported. -/
def Quiet (f : Failure) : Prop := f.written = [] ∨ f.written = addressTypeNotSupported

lemma fails_readU16 {P : Failure → Prop} {context : String} (h : P (failed context)) :
    Fails P (readU16 context) :=
  Fails.bind (fails_exactly h) fun front => fails_pure (a := UInt16.ofNat (ofBytes front))

lemma fails_readU32 {P : Failure → Prop} {context : String} (h : P (failed context)) :
    Fails P (readU32 context) :=
  Fails.bind (fails_exactly h) fun front => fails_pure (a := UInt32.ofNat (ofBytes front))

lemma silent_v4ReadRequest : Fails Silent v4ReadRequest := by
  have hrest : ∀ (command : UInt8) (rport : UInt16) (ip : UInt32),
      Fails Silent fun input =>
        (if ip >>> 24 = 0 then
          .ok ((command, (through 0 (through 0 input).2).1.dropLast, rport),
            (through 0 (through 0 input).2).2)
        else .ok ((command, ipv4ToString ip.toBitVec, rport), (through 0 input).2) :
          Except Failure ((UInt8 × Bytes × UInt16) × Bytes)) := by
    intro command rport ip input f h
    split_ifs at h
  exact Fails.bind (fails_next (silent_failed _)) fun command =>
    Fails.bind (fails_readU16 (silent_failed _)) fun rport =>
      Fails.bind (fails_readU32 (silent_failed _)) fun ip => hrest command rport ip

lemma silent_readAuthMethods : Fails Silent readAuthMethods :=
  Fails.bind (fails_next (silent_failed _)) fun _ => fails_exactly (silent_failed _)

lemma quiet_readAddressOfType (addressType : UInt8) :
    Fails Quiet (readAddressOfType addressType) := by
  unfold readAddressOfType
  split_ifs
  · exact Fails.bind (fails_exactly (.inl rfl)) fun addr =>
      fails_pure (a := Host.v4 (BitVec.ofNat 32 (ofBytes addr)))
  · exact Fails.bind (fails_next (.inl rfl)) fun len =>
      Fails.bind (fails_exactly (.inl rfl)) fun addr => fails_pure (a := Host.domain addr)
  · exact Fails.bind (fails_exactly (.inl rfl)) fun addr =>
      fails_pure (a := Host.v6 (BitVec.ofNat 128 (ofBytes addr)))
  · exact fails_error (.inr rfl)

lemma quiet_v5ReadRequest (ipv6ToString : BitVec 128 → Bytes) :
    Fails Quiet (v5ReadRequest ipv6ToString) := by
  have hcommand : Fails Quiet (readCommand ipv6ToString) :=
    Fails.bind (fails_next (.inl rfl)) fun command => Fails.bind (fails_next (.inl rfl)) fun _ =>
      Fails.bind (Fails.bind (fails_next (.inl rfl)) quiet_readAddressOfType) fun address =>
        Fails.bind (fails_readU16 (.inl rfl)) fun port =>
          fails_pure (a := (command, address.text ipv6ToString, port))
  have hrest : ∀ version : UInt8, Fails Quiet fun input => if version ≠ 5 then
      (.error ⟨.socksVersion version, []⟩) else readCommand ipv6ToString input := by
    intro version
    split_ifs
    · exact fails_error (.inl rfl)
    · exact hcommand
  exact Fails.bind (fails_next (.inl rfl)) hrest

/-- Version 4. -/
lemma emits_socks4 {request : Option ((UInt8 × Bytes × UInt16) × Bytes)}
    (hreq : request = (v4ReadRequest input).toOption) :
    Emits (socks4 w input) (Session request) := by
  refine Emits.bind (T := fun t r => (∃ x, t = [] ∧ r = .ok x ∧ v4ReadRequest input = .ok x) ∨
      ∃ e, t = [] ∧ r = .error e ∧ Local e) ?_ ?_ ?_
  · refine emits_readRequest (fun x hx => .inl ⟨x, rfl, rfl, hx⟩)
      (fun f _ _ e he => .inr ⟨e, rfl, rfl, he⟩) fun f hf hne => ?_
    exact absurd (silent_v4ReadRequest input f hf) hne
  · rintro t e (⟨x, -, h, -⟩ | ⟨e', rfl, h, he⟩) <;> cases h
    exact .unread he
  · rintro t a (⟨x, rfl, h, hx⟩ | ⟨e, -, h, -⟩) <;> cases h
    obtain ⟨⟨command, rhost, rport⟩, rest⟩ := a
    rw [hx] at hreq
    refine Emits.ite (fun hcommand => ?_) fun _ => ?_
    · subst hcommand
      exact emits_handleConnect.mono fun t r ht => .connect hreq ht
    · exact emits_reject (local_invalidCommand command) fun t ok e ht he => .rejected ht he

/-- What comes behind the method that was chosen. -/
lemma emits_served (input : Bytes) : Emits (do
    let ((command, rhost, rport), rest) ← readRequest w (v5ReadRequest w.ipv6ToString input)
    if command = 0x01 then
      handleConnect w rhost rport (v5WriteResponseUnspecified w 0x00) rest
    else if command = 0x03 then handleAssociate w
    else
      v5WriteResponseUnspecified w 0x07
      Prog.fail (.invalidCommand command))
    (Served (v5ReadRequest w.ipv6ToString input).toOption) := by
  refine Emits.bind (T := fun t r =>
      (∃ x, t = [] ∧ r = .ok x ∧ v5ReadRequest w.ipv6ToString input = .ok x) ∨
      ∃ e, r = .error e ∧ Local e ∧ (t = [] ∨ ∃ ok, Replied (v5Unspecified 0x08) t ok)) ?_ ?_ ?_
  · refine emits_readRequest (fun x hx => .inl ⟨x, rfl, rfl, hx⟩)
      (fun f _ _ e he => .inr ⟨e, rfl, he, .inl rfl⟩) fun f hf hne t ok e ht he => ?_
    have hwritten := (quiet_v5ReadRequest w.ipv6ToString input f hf).resolve_left hne
    rw [hwritten] at ht
    exact .inr ⟨e, rfl, he, .inr ⟨ok, ht⟩⟩
  · rintro t e (⟨x, -, h, -⟩ | ⟨e', h, he, rfl | ⟨ok, ht⟩⟩) <;> cases h
    · exact .unread he
    · exact .rejected 0x08 (.inr rfl) ht he
  · rintro t a (⟨x, rfl, h, hx⟩ | ⟨e, h, -⟩) <;> cases h
    obtain ⟨⟨command, rhost, rport⟩, rest⟩ := a
    rw [hx]
    refine Emits.ite (fun hcommand => ?_) fun _ => Emits.ite (fun _ => ?_) fun _ => ?_
    · subst hcommand
      exact emits_handleConnect.mono fun t r ht => .connect rfl ht
    · exact emits_handleAssociate.mono fun t r ht => .associate ht
    · exact emits_reject (local_invalidCommand command) fun t ok e ht he =>
        .rejected 0x07 (.inl rfl) ht he

lemma emits_socks5 {request : Option ((UInt8 × Bytes × UInt16) × Bytes)}
    (hreq : ∀ methods rest, readAuthMethods input = .ok (methods, rest) →
      methods.contains 0x00 = true → request = (v5ReadRequest w.ipv6ToString rest).toOption) :
    Emits (socks5 w input) (Session request) := by
  refine Emits.bind (T := fun t r => (∃ x, t = [] ∧ r = .ok x ∧ readAuthMethods input = .ok x) ∨
      ∃ e, t = [] ∧ r = .error e ∧ Local e) ?_ ?_ ?_
  · refine emits_readRequest (fun x hx => .inl ⟨x, rfl, rfl, hx⟩)
      (fun f _ _ e he => .inr ⟨e, rfl, rfl, he⟩) fun f hf hne => ?_
    exact absurd (silent_readAuthMethods input f hf) hne
  · rintro t e (⟨x, -, h, -⟩ | ⟨e', rfl, h, he⟩) <;> cases h
    exact .unread he
  rintro t a (⟨x, rfl, h, hx⟩ | ⟨e, -, h, -⟩) <;> cases h
  obtain ⟨methods, rest⟩ := a
  refine Emits.ite (fun _ => ?_) fun hmethods => ?_
  · exact emits_reject (fun _ h => by cases h) fun t ok e ht he => .refused ht he
  have hreq := hreq methods rest hx (by simpa using hmethods)
  refine Emits.bind (T := fun t r => (t = [.wrote [0x05, 0x00] true, .flushed true] ∧ r = .ok ()) ∨
      ∃ e, Replied [0x05, 0x00] t false ∧ r = .error e ∧ Local e) ?_ ?_ ?_
  · exact emits_reply (.inl ⟨rfl, rfl⟩) fun t e ht he => .inr ⟨e, ht, rfl, he⟩
  · rintro t e (⟨-, h⟩ | ⟨e', ht, h, he⟩) <;> cases h
    exact .unchosen ht he
  · rintro t a (⟨rfl, -⟩ | ⟨e, -, h, -⟩)
    swap
    · cases h
    rw [hreq]
    exact (emits_served rest).mono fun t r ht => .served ht

/-- **A session is one of the sessions of the protocol**, whatever the client and the surroundings
do. -/
theorem session (w : World) (input : Bytes) :
    Emits (onSocksAccept w input) (Session (requestOf w.ipv6ToString input)) := by
  refine Emits.bind (T := fun t r =>
      (∃ x, t = [] ∧ r = .ok x ∧ readU8 "read version" input = .ok x) ∨
      ∃ e, t = [] ∧ r = .error e ∧ Local e) ?_ ?_ ?_
  · refine emits_readRequest (fun x hx => .inl ⟨x, rfl, rfl, hx⟩)
      (fun f _ _ e he => .inr ⟨e, rfl, rfl, he⟩) fun f hf hne => ?_
    exact absurd (fails_next (silent_failed _) input f hf) hne
  · rintro t e (⟨x, -, h, -⟩ | ⟨e', rfl, h, he⟩) <;> cases h
    exact .unread he
  rintro t a (⟨x, rfl, h, hx⟩ | ⟨e, -, h, -⟩) <;> cases h
  obtain ⟨version, rest⟩ := a
  refine Emits.ite (fun hversion => ?_) fun hfour => Emits.ite (fun hversion => ?_) fun _ => ?_
  · subst hversion
    exact emits_socks4 (by simp [requestOf, hx, Except.toOption])
  · subst hversion
    refine emits_socks5 fun methods rest' hmethods hmem => ?_
    have hmem : 0 ∈ methods := by simpa using hmem
    simp [requestOf, hx, hmethods, Except.toOption, hmem]
  · exact Emits.fail (.unread (local_request _))

end Sessions

end Penguin.Client.Socks
