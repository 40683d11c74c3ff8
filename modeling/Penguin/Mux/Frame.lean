import Penguin.Lib.BigEndian

/-!
Frames of the multiplexor protocol and their wire format.

A frame is one byte of version and opcode, four bytes of flow id and a payload whose layout
depends on the opcode. Both directions of the codec are written as the program has them: the
encoder appends field after field, the decoder takes them off the front of a buffer after
checking how many bytes are left. Reading past the end of a buffer, and encoding a datagram
whose host does not fit its length byte, are panics. The length checks of the decoder carry
a `debug_assert!`; the model is the release build, where they only return an error.
-/

namespace Penguin.Mux

open Penguin.Lib.BigEndian

abbrev Bytes := List UInt8

/-- Errors that can occur when parsing a frame. -/
inductive FrameError
  | frameTooShort
  | frameVersion (ver : UInt8)
  | invalidOpCode (raw : UInt8)
  | invalidBindType (raw : UInt8)
  deriving DecidableEq, Repr

/-- The two ways the codec fails: an error it returns, or a panic. -/
inductive Fault
  | err (e : FrameError)
  | panic
  deriving DecidableEq, Repr

def protocolVersionNumber : UInt8 := 7

inductive BindType
  | stream
  | datagram
  deriving DecidableEq, Repr

def BindType.toU8 : BindType → UInt8
  | .stream => 1
  | .datagram => 3

def BindType.tryFrom (value : UInt8) : Except Fault BindType :=
  if value = 1 then .ok .stream
  else if value = 3 then .ok .datagram
  else .error (.err (.invalidBindType value))

inductive OpCode
  | connect | acknowledge | reset | finish | push | bind | datagram
  deriving DecidableEq, Repr

def OpCode.toU8 : OpCode → UInt8
  | .connect => 0
  | .acknowledge => 1
  | .reset => 2
  | .finish => 3
  | .push => 4
  | .bind => 5
  | .datagram => 6

def OpCode.tryFrom (value : UInt8) : Except Fault OpCode :=
  if value = 0 then .ok .connect
  else if value = 1 then .ok .acknowledge
  else if value = 2 then .ok .reset
  else if value = 3 then .ok .finish
  else if value = 4 then .ok .push
  else if value = 5 then .ok .bind
  else if value = 6 then .ok .datagram
  else .error (.err (.invalidOpCode value))

structure ConnectPayload where
  rwnd : UInt32
  targetPort : UInt16
  targetHost : Bytes
  deriving DecidableEq, Repr

structure BindPayload where
  bindType : BindType
  targetPort : UInt16
  targetHost : Bytes
  deriving DecidableEq, Repr

structure DatagramPayload where
  targetPort : UInt16
  targetHost : Bytes
  data : Bytes
  deriving DecidableEq, Repr

inductive Payload
  | connect (p : ConnectPayload)
  /-- Frames processed since the last one, or the window of an accepted stream. -/
  | acknowledge (n : UInt32)
  | reset
  | finish
  | push (data : Bytes)
  | bind (p : BindPayload)
  | datagram (p : DatagramPayload)
  deriving DecidableEq, Repr

def Payload.len : Payload → ℕ
  | .connect p => 4 + 2 + p.targetHost.length
  | .acknowledge _ => 4
  | .reset | .finish => 0
  | .push data => data.length
  | .bind p => 1 + 2 + p.targetHost.length
  | .datagram p => 1 + 2 + p.targetHost.length + p.data.length

def Payload.opCode : Payload → OpCode
  | .connect _ => .connect
  | .acknowledge _ => .acknowledge
  | .reset => .reset
  | .finish => .finish
  | .push _ => .push
  | .bind _ => .bind
  | .datagram _ => .datagram

structure Frame where
  id : UInt32
  payload : Payload
  deriving DecidableEq, Repr

namespace Frame

def newConnect (targetHost : Bytes) (targetPort : UInt16) (id rwnd : UInt32) : Frame :=
  ⟨id, .connect ⟨rwnd, targetPort, targetHost⟩⟩

def newAcknowledge (id pshRecvdSince : UInt32) : Frame := ⟨id, .acknowledge pshRecvdSince⟩

def newReset (id : UInt32) : Frame := ⟨id, .reset⟩

def newFinish (id : UInt32) : Frame := ⟨id, .finish⟩

def newPush (id : UInt32) (data : Bytes) : Frame := ⟨id, .push data⟩

def newBind (id : UInt32) (bindType : BindType) (targetHost : Bytes) (targetPort : UInt16) :
    Frame :=
  ⟨id, .bind ⟨bindType, targetPort, targetHost⟩⟩

def newDatagramOwned (id : UInt32) (targetHost : Bytes) (targetPort : UInt16) (data : Bytes) :
    Frame :=
  ⟨id, .datagram ⟨targetPort, targetHost, data⟩⟩

end Frame

/-! ### Encoding -/

def putU16 (v : UInt16) : Bytes := toBytes 2 v.toNat

def putU32 (v : UInt32) : Bytes := toBytes 4 v.toNat

/-- The fields after the flow id. -/
def Payload.toVec : Payload → Except Fault Bytes
  | .connect p => .ok (putU32 p.rwnd ++ putU16 p.targetPort ++ p.targetHost)
  | .acknowledge pshRecvdSince => .ok (putU32 pshRecvdSince)
  | .reset | .finish => .ok []
  | .push data => .ok data
  | .bind p => .ok ([p.bindType.toU8] ++ putU16 p.targetPort ++ p.targetHost)
  | .datagram p =>
    -- `u8::try_from(target_host.len()).expect(..)`
    if p.targetHost.length ≤ 255 then
      .ok ([UInt8.ofNat p.targetHost.length] ++ putU16 p.targetPort ++ p.targetHost ++ p.data)
    else .error .panic

/-- `Vec::from(&frame)`. -/
def Frame.toVec (frame : Frame) : Except Fault Bytes := do
  let firstbyte := frame.payload.opCode.toU8 ||| (protocolVersionNumber <<< 4)
  let fields ← frame.payload.toVec
  return [firstbyte] ++ putU32 frame.id ++ fields

/-! ### Decoding -/

def checkRemaining (data : Bytes) (len : ℕ) : Except Fault Unit :=
  if data.length < len then .error (.err .frameTooShort) else .ok ()

def getU8 : Bytes → Except Fault (UInt8 × Bytes)
  | [] => .error .panic
  | b :: data => .ok (b, data)

def splitTo (data : Bytes) (n : ℕ) : Except Fault (Bytes × Bytes) :=
  if data.length < n then .error .panic else .ok (data.take n, data.drop n)

def getU16 (data : Bytes) : Except Fault (UInt16 × Bytes) := do
  let (front, data) ← splitTo data 2
  return (UInt16.ofNat (ofBytes front), data)

def getU32 (data : Bytes) : Except Fault (UInt32 × Bytes) := do
  let (front, data) ← splitTo data 4
  return (UInt32.ofNat (ofBytes front), data)

/-- The part of the decoder that depends on the opcode. -/
def Payload.tryFrom (opcode : OpCode) (data : Bytes) : Except Fault Payload :=
  match opcode with
  | .connect => do
    checkRemaining data (4 + 2)
    let (rwnd, data) ← getU32 data
    let (targetPort, data) ← getU16 data
    return .connect ⟨rwnd, targetPort, data⟩
  | .acknowledge => do
    checkRemaining data 4
    let (pshRecvdSince, _) ← getU32 data
    return .acknowledge pshRecvdSince
  | .reset => .ok .reset
  | .finish => .ok .finish
  | .push => .ok (.push data)
  | .bind => do
    checkRemaining data (1 + 2)
    let (raw, data) ← getU8 data
    let bindType ← BindType.tryFrom raw
    let (targetPort, data) ← getU16 data
    return .bind ⟨bindType, targetPort, data⟩
  | .datagram => do
    checkRemaining data (1 + 6)
    let (hostLen, data) ← getU8 data
    checkRemaining data (hostLen.toNat + 6)
    let (targetPort, data) ← getU16 data
    let (targetHost, data) ← splitTo data hostLen.toNat
    return .datagram ⟨targetPort, targetHost, data⟩

/-- `Frame::try_from(bytes)`. -/
def Frame.tryFrom (data : Bytes) : Except Fault Frame := do
  checkRemaining data (1 + 4)
  let (firstbyte, data) ← getU8 data
  let ver := firstbyte >>> 4
  if ver ≠ protocolVersionNumber then
    throw (.err (.frameVersion ver))
  let opcode ← OpCode.tryFrom (firstbyte &&& 0x0F)
  let (id, data) ← getU32 data
  let payload ← Payload.tryFrom opcode data
  return ⟨id, payload⟩

/-! ### Reading back single fields -/

@[simp] lemma ok_bind {α β : Type} (a : α) (f : α → Except Fault β) :
    (Except.ok a >>= f) = f a := rfl

@[simp] lemma error_bind {α β : Type} (e : Fault) (f : α → Except Fault β) :
    (Except.error e >>= f) = Except.error e := rfl

@[simp] lemma pure_eq_ok {α : Type} (a : α) : (pure a : Except Fault α) = Except.ok a := rfl

@[simp] lemma length_putU16 (v : UInt16) : (putU16 v).length = 2 := by simp [putU16]

@[simp] lemma length_putU32 (v : UInt32) : (putU32 v).length = 4 := by simp [putU32]

lemma splitTo_append {n : ℕ} {front : Bytes} (h : front.length = n) (data : Bytes) :
    splitTo (front ++ data) n = .ok (front, data) := by
  subst h
  simp [splitTo]

@[simp] lemma getU16_putU16 (v : UInt16) (data : Bytes) :
    getU16 (putU16 v ++ data) = .ok (v, data) := by
  have hval : ofBytes (putU16 v) = v.toNat := ofBytes_toBytes_of_lt (by simpa using v.toNat_lt)
  simp [getU16, splitTo_append (length_putU16 v), hval]

@[simp] lemma getU32_putU32 (v : UInt32) (data : Bytes) :
    getU32 (putU32 v ++ data) = .ok (v, data) := by
  have hval : ofBytes (putU32 v) = v.toNat := ofBytes_toBytes_of_lt (by simpa using v.toNat_lt)
  simp [getU32, splitTo_append (length_putU32 v), hval]

lemma checkRemaining_of_le {data : Bytes} {len : ℕ} (h : len ≤ data.length) :
    checkRemaining data len = .ok () := by
  simp [checkRemaining, Nat.not_lt.mpr h]

lemma checkRemaining_of_lt {data : Bytes} {len : ℕ} (h : data.length < len) :
    checkRemaining data len = .error (.err .frameTooShort) := by
  simp [checkRemaining, h]

@[simp] lemma BindType.tryFrom_toU8 (t : BindType) : BindType.tryFrom t.toU8 = .ok t := by
  cases t <;> rfl

/-- The first byte gives back the version. -/
lemma firstbyte_ver (op : OpCode) :
    (op.toU8 ||| (protocolVersionNumber <<< 4)) >>> 4 = protocolVersionNumber := by
  cases op <;> decide

/-- The first byte gives back the opcode. -/
lemma firstbyte_opCode (op : OpCode) :
    OpCode.tryFrom ((op.toU8 ||| (protocolVersionNumber <<< 4)) &&& 0x0F) = .ok op := by
  cases op <;> rfl

/-! ### Reading back frames -/

/-- A datagram whose host fits its length byte; `send_datagram` lets only such through. -/
def Payload.HostFits : Payload → Prop
  | .datagram p => p.targetHost.length ≤ 255
  | _ => True

/-- A datagram with fewer than four bytes of data. -/
def Payload.ShortDatagram : Payload → Prop
  | .datagram p => p.data.length < 4
  | _ => False

instance : DecidablePred Payload.ShortDatagram
  | .datagram p => inferInstanceAs (Decidable (p.data.length < 4))
  | .connect _ | .acknowledge _ | .reset | .finish | .push _ | .bind _ =>
    inferInstanceAs (Decidable False)

lemma Payload.toVec_ok {p : Payload} (h : p.HostFits) :
    ∃ fields, p.toVec = .ok fields ∧ fields.length = p.len := by
  cases p with
  | datagram p =>
      have hfit : p.targetHost.length ≤ 255 := h
      refine ⟨_, by rw [Payload.toVec, if_pos hfit], ?_⟩
      simp [Payload.len]; omega
  | connect p => exact ⟨_, rfl, by simp [Payload.len]; omega⟩
  | bind p => exact ⟨_, rfl, by simp [Payload.len]; omega⟩
  | _ => exact ⟨_, rfl, by simp [Payload.len]⟩

/-- The fields of a payload are read back, but for a datagram that is too short. -/
lemma Payload.tryFrom_toVec {p : Payload} {fields : Bytes} (h : p.toVec = .ok fields) :
    Payload.tryFrom p.opCode fields =
      if p.ShortDatagram then .error (.err .frameTooShort) else .ok p := by
  cases p with
  | connect p =>
      obtain rfl := Except.ok.inj h
      rw [Payload.opCode, Payload.tryFrom, checkRemaining_of_le (by simp; omega)]
      simp [ShortDatagram, List.append_assoc]
  | acknowledge n =>
      obtain rfl := Except.ok.inj h
      have hn := getU32_putU32 n []
      rw [List.append_nil] at hn
      rw [Payload.opCode, Payload.tryFrom, checkRemaining_of_le (by simp)]
      simp [ShortDatagram, hn]
  | reset => simp [Payload.opCode, Payload.tryFrom, ShortDatagram]
  | finish => simp [Payload.opCode, Payload.tryFrom, ShortDatagram]
  | push data =>
      obtain rfl := Except.ok.inj h
      simp [Payload.opCode, Payload.tryFrom, ShortDatagram]
  | bind p =>
      obtain rfl := Except.ok.inj h
      rw [Payload.opCode, Payload.tryFrom, checkRemaining_of_le (by simp)]
      simp [ShortDatagram, getU8]
  | datagram p =>
      by_cases hfit : p.targetHost.length ≤ 255
      swap
      · simp [Payload.toVec, hfit] at h
      rw [Payload.toVec, if_pos hfit] at h
      obtain rfl := Except.ok.inj h
      have hlen : (UInt8.ofNat p.targetHost.length).toNat = p.targetHost.length := by
        simp; omega
      by_cases hshort : p.data.length < 4
      · -- one of the two length checks fails
        rw [if_pos (by exact hshort), Payload.opCode, Payload.tryFrom]
        by_cases hfirst : p.targetHost.length + p.data.length < 4
        · rw [checkRemaining_of_lt (by simp; omega)]
          rfl
        · rw [checkRemaining_of_le (by simp; omega)]
          simp only [List.cons_append, List.nil_append, getU8, ok_bind, hlen]
          rw [checkRemaining_of_lt (by simp; omega)]
          rfl
      · rw [if_neg (by exact hshort), Payload.opCode, Payload.tryFrom,
          checkRemaining_of_le (by simp; omega)]
        simp only [List.cons_append, List.nil_append, getU8, ok_bind, hlen]
        rw [checkRemaining_of_le (by simp; omega)]
        simp [List.append_assoc, splitTo_append (rfl : p.targetHost.length = _)]

lemma Frame.toVec_eq {f : Frame} {fields : Bytes} (h : f.payload.toVec = .ok fields) :
    f.toVec = .ok ([f.payload.opCode.toU8 ||| (protocolVersionNumber <<< 4)] ++ putU32 f.id
      ++ fields) := by
  simp [Frame.toVec, h]

/-- The decoder reads back every encoded frame, but for a datagram that is too short. -/
lemma Frame.tryFrom_toVec {f : Frame} {bytes : Bytes} (h : f.toVec = .ok bytes) :
    Frame.tryFrom bytes =
      if f.payload.ShortDatagram then .error (.err .frameTooShort) else .ok f := by
  cases hfields : f.payload.toVec with
  | error e => simp [Frame.toVec, hfields] at h
  | ok fields =>
      rw [Frame.toVec_eq hfields] at h
      obtain rfl := Except.ok.inj h
      rw [Frame.tryFrom, checkRemaining_of_le (by simp)]
      simp only [List.cons_append, List.nil_append, getU8, ok_bind, firstbyte_ver,
        firstbyte_opCode, getU32_putU32, Payload.tryFrom_toVec hfields]
      by_cases hshort : f.payload.ShortDatagram <;> simp [hshort]

/-- What the codec promises of a frame: the encoding is as long as estimated, and it decodes
to the frame. -/
def Frame.RoundTrips (f : Frame) : Prop :=
  ∃ bytes, f.toVec = .ok bytes ∧ bytes.length = 5 + f.payload.len ∧ Frame.tryFrom bytes = .ok f

lemma Frame.toVec_length {f : Frame} (h : f.payload.HostFits) :
    ∃ bytes, f.toVec = .ok bytes ∧ bytes.length = 5 + f.payload.len := by
  obtain ⟨fields, hfields, hlen⟩ := Payload.toVec_ok h
  exact ⟨_, Frame.toVec_eq hfields, by simp [hlen]; omega⟩

/-- **Round trip.** A frame comes back from the wire exactly when it is not a datagram with
fewer than four bytes of data. -/
lemma Frame.roundTrips_iff {f : Frame} (h : f.payload.HostFits) :
    f.RoundTrips ↔ ¬ f.payload.ShortDatagram := by
  obtain ⟨bytes, hbytes, hlen⟩ := Frame.toVec_length h
  have hback := Frame.tryFrom_toVec hbytes
  constructor
  · rintro ⟨bytes', hbytes', -, hok⟩ hshort
    obtain rfl := Except.ok.inj (hbytes.symm.trans hbytes')
    rw [hback, if_pos hshort] at hok
    cases hok
  · intro hlong
    exact ⟨bytes, hbytes, hlen, by rw [hback, if_neg hlong]⟩

end Penguin.Mux
