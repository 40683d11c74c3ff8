import Penguin.Mux.Frame

/-!
The HTTP service of the server.

Every request goes through `State::call`: a request for `/ws` that passes the checks of
`ws_handler` becomes a WebSocket, and anything else is answered by the backend, or by a 404 when
there is none. What must not show from outside is how far through the checks a request came.

The request carries, besides its message, the extension through which the HTTP library hands out
the connection. The backend is the client's answer to a message, which has no such extension.
-/

namespace Penguin.Server

open Mux

inductive Method
  | get
  | post
  | put
  | delete
  | head
  | options
  | connect
  | patch
  | trace
  | extension (name : String)
  deriving DecidableEq, Repr

structure Uri where
  path : String
  pathAndQuery : Option String
  deriving DecidableEq, Repr

/-- A header name is in lower case; a name may occur more than once. -/
abbrev HeaderMap := List (String × Bytes)

/-- `HeaderMap::get`: the first value of a name. -/
def HeaderMap.get (headers : HeaderMap) (name : String) : Option Bytes :=
  (headers.find? (·.1 = name)).map (·.2)

structure Request (B : Type) where
  method : Method
  uri : Uri
  headers : HeaderMap
  body : B

/-- A request as it comes in, with its `OnUpgrade` extension. -/
structure Incoming (B U : Type) extends Request B where
  onUpgrade : Option U

structure Response (B : Type) where
  status : ℕ
  headers : HeaderMap
  body : B
  deriving DecidableEq, Repr

inductive ServiceError
  | http
  | client
  | body
  deriving DecidableEq, Repr

structure BackendUrl where
  scheme : String
  authority : String
  path : String

/-- What the service computes with other crates. -/
structure Library where
  /-- `Uri::builder()` with scheme, authority, and path and query. -/
  buildUri : String → String → String → Except ServiceError Uri
  sha1 : Bytes → Bytes
  /-- The text is a header value. -/
  base64 : Bytes → Bytes

/-- `State`, less the timeouts. The client gives a response whose body may fail to arrive. -/
structure State (B : Type) where
  backend : Option BackendUrl
  wsPsk : Option Bytes
  notFoundResp : Bytes
  obfs : Bool
  reverse : Bool
  client : Request B → Except ServiceError (Response (Except ServiceError Bytes))

/-- The answer to a request, and the call of `handle_websocket` that was spawned. -/
structure Outcome (U : Type) where
  answer : Except ServiceError (Response Bytes)
  spawned : Option (U × Bool)

/-! ### The headers of a handshake -/

def ascii (text : String) : Bytes := text.toList.map fun c => UInt8.ofNat c.toNat

/-- `CARGO_PKG_VERSION`. -/
def packageVersion : Bytes := ascii "0.7.0"

def upgradeValue : Bytes := ascii "upgrade"
def websocketValue : Bytes := ascii "websocket"
def wantedProtocol : Bytes := ascii "penguin-v7"
def websocketVersion : Bytes := ascii "13"

def toAsciiLowercase (b : UInt8) : UInt8 := if 65 ≤ b ∧ b ≤ 90 then b + 32 else b

def eqIgnoreAsciiCase (a b : Bytes) : Bool := a.map toAsciiLowercase == b.map toAsciiLowercase

def headerMatches (given : Option Bytes) (wanted : Bytes) : Bool :=
  (given.map (eqIgnoreAsciiCase · wanted)).getD false

def makeSecWebsocketAccept (lib : Library) (key : Bytes) : Bytes :=
  lib.base64 (lib.sha1 (key ++ ascii "258EAFA5-E914-47DA-95CA-C5AB0DC85B11"))

namespace State

variable {B U : Type}

/-! ### The handlers -/

def execRequest (s : State B) (req : Request B) : Except ServiceError (Response Bytes) := do
  let resp ← s.client req
  let body ← resp.body
  return { status := resp.status, headers := resp.headers, body := body }

def notFoundHandler (s : State B) : Except ServiceError (Response Bytes) :=
  .ok { status := 404, headers := [], body := s.notFoundResp }

/-- The path for the backend, without a repeated slash where the two paths meet. -/
def backendPath (basePath reqPathQuery : String) : String :=
  if basePath.endsWith "/" && reqPathQuery.startsWith "/" then
    basePath ++ (reqPathQuery.drop 1).toString
  else basePath ++ reqPathQuery

def backendOr404Handler (s : State B) (lib : Library) (req : Incoming B U) : Outcome U where
  answer :=
    match s.backend with
    | some backend =>
      let reqPathQuery := req.uri.pathAndQuery.getD req.uri.path
      match lib.buildUri backend.scheme backend.authority (backendPath backend.path reqPathQuery) with
      | .error e => .error e
      | .ok uri =>
        match s.execRequest { req.toRequest with uri := uri } with
        | .ok resp => .ok resp
        | .error _ => s.notFoundHandler
    | none => s.notFoundHandler
  spawned := none

def switchingProtocols (lib : Library) (key : Bytes) : Response Bytes where
  status := 101
  headers := [("connection", upgradeValue), ("upgrade", websocketValue),
    ("sec-websocket-protocol", wantedProtocol),
    ("sec-websocket-accept", makeSecWebsocketAccept lib key)]
  body := []

def wsHandler (s : State B) (lib : Library) (req : Incoming B U) (reverse : Bool) : Outcome U :=
  let onUpgrade := req.onUpgrade
  let req := { req with onUpgrade := none }
  let connection := req.headers.get "connection"
  let upgrade := req.headers.get "upgrade"
  let secWebsocketKey := req.headers.get "sec-websocket-key"
  let secWebsocketProtocol := req.headers.get "sec-websocket-protocol"
  let secWebsocketVersion := req.headers.get "sec-websocket-version"
  let xPenguinPsk := req.headers.get "x-penguin-psk"
  if req.method ≠ .get then s.backendOr404Handler lib req
  else if s.wsPsk.isSome ∧ xPenguinPsk ≠ s.wsPsk then s.backendOr404Handler lib req
  else
    match secWebsocketKey with
    | none => s.backendOr404Handler lib req
    | some key =>
      if !headerMatches connection upgradeValue || !headerMatches upgrade websocketValue
          || !headerMatches secWebsocketVersion websocketVersion
          || !headerMatches secWebsocketProtocol wantedProtocol then
        s.backendOr404Handler lib req
      else
        match onUpgrade with
        | none => s.backendOr404Handler lib req
        | some onUpgrade =>
          { answer := .ok (switchingProtocols lib key), spawned := some (onUpgrade, reverse) }

def call (s : State B) (lib : Library) (req : Incoming B U) : Outcome U :=
  if req.uri.path = "/health" ∧ s.obfs = false then
    { answer := .ok { status := 200, headers := [], body := ascii "OK" }, spawned := none }
  else if req.uri.path = "/version" ∧ s.obfs = false then
    { answer := .ok { status := 200, headers := [], body := packageVersion }, spawned := none }
  else if req.uri.path = "/ws" then s.wsHandler lib req s.reverse
  else s.backendOr404Handler lib req

/-! ### The gate -/

variable {s : State B} {lib : Library} {req : Incoming B U}

end State

end Penguin.Server
