import Penguin.Mux.Frame
import Penguin.Lib.Reading
import Penguin.Client.UdpClients

/-!
The SOCKS server of the client program: its requests and the UDP relay.

A request of either version comes on a stream, which is the bytes a client sends before it closes
its side. A datagram of the relay comes as one packet behind a header of its own. The readers of
the stream fail at its end; the reader of a packet checks how much is left before it takes
anything, and taking too much would be a panic.
-/

namespace Penguin.Client.Socks

open Penguin.Lib.BigEndian Penguin.Lib.Reading
open Mux (Bytes getU8 getU16 getU32 splitTo putU16)

inductive Error
  | socksVersion (version : UInt8)
  | addressType (addressType : UInt8)
  /-- The stream ended; the text is the context. -/
  | processSocksRequest (context : String)
  | parseAssociate
  deriving DecidableEq, Repr

/-- An error, and what was written to the stream before it was returned. -/
structure Failure where
  error : Error
  written : Bytes
  deriving DecidableEq, Repr

/-! ### The addresses as text -/

/-- A number below 256 in decimal. -/
def decimal (n : ℕ) : Bytes := n.repr.toList.map fun c => UInt8.ofNat c.toNat

/-- `Ipv4Addr::to_string`. -/
def ipv4ToString (ip : BitVec 32) : Bytes :=
  List.intercalate [46] ((toBytes 4 ip.toNat).map fun octet => decimal octet.toNat)

/-- A target as the header has it. -/
inductive Host
  | v4 (ip : BitVec 32)
  | domain (name : Bytes)
  | v6 (ip : BitVec 128)
  deriving DecidableEq, Repr

/-- The name that goes to the multiplexor, with the text of an `Ipv6Addr` as `ipv6ToString`. -/
def Host.text (ipv6ToString : BitVec 128 → Bytes) : Host → Bytes
  | .v4 ip => ipv4ToString ip
  | .domain name => name
  | .v6 ip => ipv6ToString ip

/-! ### Readers of the stream -/

def failed (context : String) : Failure := ⟨.processSocksRequest context, []⟩

def readU8 (context : String) : Reader UInt8 Failure UInt8 := next (failed context)

def readExact (n : ℕ) (context : String) : Reader UInt8 Failure Bytes := exactly n (failed context)

def readU16 (context : String) (input : Bytes) : Except Failure (UInt16 × Bytes) := do
  let (front, input) ← readExact 2 context input
  return (UInt16.ofNat (ofBytes front), input)

def readU32 (context : String) (input : Bytes) : Except Failure (UInt32 × Bytes) := do
  let (front, input) ← readExact 4 context input
  return (UInt32.ofNat (ofBytes front), input)

/-! ### Version 4 -/

/-- `v4::read_request`. `read_until` does not fail at the end of the stream, and `pop` takes the
last byte off whatever it is. -/
def v4ReadRequest (input : Bytes) : Except Failure ((UInt8 × Bytes × UInt16) × Bytes) := do
  let (command, input) ← readU8 "read command" input
  let (rport, input) ← readU16 "read port" input
  let (ip, input) ← readU32 "read ip" input
  let (_userId, input) := through 0 input
  if ip >>> 24 = 0 then
    let (domain, input) := through 0 input
    return ((command, domain.dropLast, rport), input)
  else return ((command, ipv4ToString ip.toBitVec, rport), input)

/-! ### Version 5 -/

/-- The answer to an address type that is not supported. -/
def addressTypeNotSupported : Bytes := [0x05, 0x08, 0x00, 0x01, 0x00, 0x00, 0x00, 0x00, 0x00, 0x00]

/-- `v5::read_address` behind the type, before the address is made a text. -/
def readAddressOfType (addressType : UInt8) (input : Bytes) : Except Failure (Host × Bytes) :=
  if addressType = 0x01 then do
    let (addr, input) ← readExact 4 "read address" input
    return (.v4 (BitVec.ofNat 32 (ofBytes addr)), input)
  else if addressType = 0x03 then do
    let (len, input) ← readU8 "read domain length" input
    let (addr, input) ← readExact len.toNat "read domain address" input
    return (.domain addr, input)
  else if addressType = 0x04 then do
    let (addr, input) ← readExact 16 "read address" input
    return (.v6 (BitVec.ofNat 128 (ofBytes addr)), input)
  else throw ⟨.addressType addressType, addressTypeNotSupported⟩

def readAddress (input : Bytes) : Except Failure (Host × Bytes) := do
  let (addressType, input) ← readU8 "read address type" input
  readAddressOfType addressType input

/-- `v5::read_request` behind the version. -/
def readCommand (ipv6ToString : BitVec 128 → Bytes) (input : Bytes) :
    Except Failure ((UInt8 × Bytes × UInt16) × Bytes) := do
  let (command, input) ← readU8 "read command" input
  let (_reserved, input) ← readU8 "read reserved" input
  let (address, input) ← readAddress input
  let (port, input) ← readU16 "read port" input
  return ((command, address.text ipv6ToString, port), input)

/-- `v5::read_request`. -/
def v5ReadRequest (ipv6ToString : BitVec 128 → Bytes) (input : Bytes) :
    Except Failure ((UInt8 × Bytes × UInt16) × Bytes) := do
  let (version, input) ← readU8 "read version" input
  if version ≠ 0x05 then throw ⟨.socksVersion version, []⟩ else readCommand ipv6ToString input

/-! ### The UDP relay -/

/-- An error that is returned, or a panic. -/
inductive Fault
  | err (e : Error)
  | panic
  deriving DecidableEq, Repr

/-- The methods of `Buf` panic when there is too little left. -/
def orPanic {α : Type} : Except Mux.Fault α → Except Fault α
  | .ok a => .ok a
  | .error _ => .error .panic

def getU128 (buf : Bytes) : Except Mux.Fault (BitVec 128 × Bytes) := do
  let (front, buf) ← splitTo buf 16
  return (BitVec.ofNat 128 (ofBytes front), buf)

/-- `if buf.remaining() < n { return Err(ParseAssociate) }`. -/
def ensureRemaining (buf : Bytes) (n : ℕ) : Except Fault Unit :=
  if buf.length < n then .error (.err .parseAssociate) else .ok ()

/-- The rest of a header from its address on: target host and port, and the data behind them;
`none` for a packet that is dropped. -/
def parseUdpRelayAddress (atyp : UInt8) (buf : Bytes) :
    Except Fault (Option (Host × UInt16 × Bytes)) :=
  if atyp = 0x01 then do
    ensureRemaining buf 6
    let (addr, buf) ← orPanic (getU32 buf)
    let (port, buf) ← orPanic (getU16 buf)
    return some (.v4 addr.toBitVec, port, buf)
  else if atyp = 0x03 then do
    ensureRemaining buf 1
    let (len, buf) ← orPanic (getU8 buf)
    ensureRemaining buf (len.toNat + 2)
    let (dst, buf) ← orPanic (splitTo buf len.toNat)
    let (port, buf) ← orPanic (getU16 buf)
    return some (.domain dst, port, buf)
  else if atyp = 0x04 then do
    ensureRemaining buf 18
    let (addr, buf) ← orPanic (getU128 buf)
    let (port, buf) ← orPanic (getU16 buf)
    return some (.v6 addr, port, buf)
  else return none

def parseUdpRelayHeader (buf : Bytes) : Except Fault (Option (Host × UInt16 × Bytes)) := do
  ensureRemaining buf 4
  let (_reserved, buf) ← orPanic (getU16 buf)
  let (frag, buf) ← orPanic (getU8 buf)
  if frag ≠ 0 then return none
  let (atyp, buf) ← orPanic (getU8 buf)
  parseUdpRelayAddress atyp buf

/-- `MAX_UDP_PACKET_SIZE`. -/
def maxUdpPacketSize : ℕ := 65536

/-- A packet that came to the socket of the relay. What does not fit the buffer is lost. -/
structure Packet where
  bytes : Bytes
  addr : SocketAddr

/-- The address made of `addr.ip()` and `addr.port()`. -/
def withoutScope : SocketAddr → SocketAddr
  | .v4 ip port => .v4 ip port
  | .v6 ip port _ _ => .v6 ip port 0 0

/-- `handle_udp_relay_header`, once a packet has come. -/
def handleUdpRelayHeader (ipv6ToString : BitVec 128 → Bytes) (packet : Packet) :
    Except Fault (Option (Bytes × UInt16 × Bytes × SocketAddr)) := do
  let buf := packet.bytes.take maxUdpPacketSize
  let parsed ← parseUdpRelayHeader buf
  return parsed.map fun x => (x.1.text ipv6ToString, x.2.1, x.2.2, withoutScope packet.addr)

/-- What `send_udp_relay_response` sends. -/
def udpRelayResponse (target : SocketAddr) (data : Bytes) : Bytes :=
  let header := List.replicate 3 0
  match target with
  | .v4 ip port => header ++ toBytes 4 ip.toNat ++ [0x01] ++ putU16 port ++ data
  | .v6 ip port _ _ => header ++ toBytes 16 ip.toNat ++ [0x04] ++ putU16 port ++ data

end Penguin.Client.Socks
