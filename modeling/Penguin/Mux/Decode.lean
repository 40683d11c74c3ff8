import Penguin.Mux.Frame

/-!
What the decoder accepts.

Every read of the decoder is behind a check of what is left in the buffer. A message that it
accepts begins with the encoding of the frame it is decoded to; it is that encoding, unless the
frame has fields of a fixed length only, where nothing checks what comes behind them.
-/

namespace Penguin.Mux

open Penguin.Lib.BigEndian

variable {data : Bytes} {op : OpCode}

/-! ### Fields -/

lemma exists_splitTo {n : ℕ} (h : n ≤ data.length) :
    ∃ front rest, front.length = n ∧ data = front ++ rest :=
  ⟨data.take n, data.drop n, by simp [h], (List.take_append_drop n data).symm⟩

lemma exists_putU16 (h : 2 ≤ data.length) : ∃ v rest, data = putU16 v ++ rest := by
  obtain ⟨front, rest, hfront, rfl⟩ := exists_splitTo h
  have hlt := ofBytes_lt front
  rw [hfront] at hlt
  refine ⟨UInt16.ofNat (ofBytes front), rest, ?_⟩
  rw [putU16, UInt16.toNat_ofNat', Nat.mod_eq_of_lt (by simpa using hlt), ← hfront, toBytes_ofBytes]

lemma exists_putU32 (h : 4 ≤ data.length) : ∃ v rest, data = putU32 v ++ rest := by
  obtain ⟨front, rest, hfront, rfl⟩ := exists_splitTo h
  have hlt := ofBytes_lt front
  rw [hfront] at hlt
  refine ⟨UInt32.ofNat (ofBytes front), rest, ?_⟩
  rw [putU32, UInt32.toNat_ofNat', Nat.mod_eq_of_lt (by simpa using hlt), ← hfront, toBytes_ofBytes]

lemma BindType.tryFrom_cases (value : UInt8) :
    (∃ t : BindType, BindType.tryFrom value = .ok t ∧ value = t.toU8) ∨
      ∃ e, BindType.tryFrom value = .error (.err e) := by
  unfold BindType.tryFrom
  split_ifs with hstream hdatagram
  · exact .inl ⟨.stream, rfl, hstream⟩
  · exact .inl ⟨.datagram, rfl, hdatagram⟩
  · exact .inr ⟨_, rfl⟩

lemma OpCode.tryFrom_cases (value : UInt8) :
    (∃ op : OpCode, OpCode.tryFrom value = .ok op ∧ value = op.toU8) ∨
      ∃ e, OpCode.tryFrom value = .error (.err e) := by
  unfold OpCode.tryFrom
  split_ifs with h0 h1 h2 h3 h4 h5 h6
  · exact .inl ⟨.connect, rfl, h0⟩
  · exact .inl ⟨.acknowledge, rfl, h1⟩
  · exact .inl ⟨.reset, rfl, h2⟩
  · exact .inl ⟨.finish, rfl, h3⟩
  · exact .inl ⟨.push, rfl, h4⟩
  · exact .inl ⟨.bind, rfl, h5⟩
  · exact .inl ⟨.datagram, rfl, h6⟩
  · exact .inr ⟨_, rfl⟩

/-- A byte is its low half beside its high half. -/
lemma low_or_high (b : UInt8) : (b &&& (0x0F : UInt8)) ||| (b >>> (4 : UInt8)) <<< (4 : UInt8) = b := by
  have h : ∀ n < 256, (UInt8.ofNat n &&& (0x0F : UInt8)) |||
      (UInt8.ofNat n >>> (4 : UInt8)) <<< (4 : UInt8) = UInt8.ofNat n := by
    decide +kernel
  have hb := h b.toNat b.toNat_lt
  rwa [UInt8.ofNat_toNat] at hb

/-! ### Payloads -/

/-- Payloads of a fixed length, behind which there may be other bytes. -/
def Payload.IgnoresTail : Payload → Prop
  | .acknowledge _ | .reset | .finish => True
  | .connect _ | .push _ | .bind _ | .datagram _ => False

/-- The outcomes of the decoder: an error that it returns, or a payload whose encoding is what was
read, up to bytes that are ignored. -/
inductive PayloadRead (op : OpCode) (data : Bytes) : Except Fault Payload → Prop
  | refused (e : FrameError) : PayloadRead op data (.error (.err e))
  | accepted {p : Payload} {fields tail : Bytes} (hop : p.opCode = op) (hfit : p.HostFits)
      (hvec : p.toVec = .ok fields) (hdata : data = fields ++ tail)
      (htail : tail = [] ∨ p.IgnoresTail) : PayloadRead op data (.ok p)

lemma PayloadRead.whole {p : Payload} (hop : p.opCode = op) (hfit : p.HostFits)
    (hvec : p.toVec = .ok data) : PayloadRead op data (.ok p) :=
  .accepted hop hfit hvec (List.append_nil data).symm (.inl rfl)

lemma payloadRead_connect (data : Bytes) :
    PayloadRead .connect data (Payload.tryFrom .connect data) := by
  rw [Payload.tryFrom]
  by_cases hlen : 4 + 2 ≤ data.length
  swap
  · rw [checkRemaining_of_lt (by omega)]
    exact .refused _
  rw [checkRemaining_of_le hlen]
  obtain ⟨rwnd, rest, rfl⟩ := exists_putU32 (by omega : 4 ≤ data.length)
  have hrest : 2 ≤ rest.length := by
    simp at hlen
    omega
  obtain ⟨port, host, rfl⟩ := exists_putU16 hrest
  simp only [ok_bind, getU32_putU32, getU16_putU16, pure_eq_ok]
  exact .whole rfl trivial (by simp [Payload.toVec])

lemma payloadRead_acknowledge (data : Bytes) :
    PayloadRead .acknowledge data (Payload.tryFrom .acknowledge data) := by
  rw [Payload.tryFrom]
  by_cases hlen : 4 ≤ data.length
  swap
  · rw [checkRemaining_of_lt (by omega)]
    exact .refused _
  rw [checkRemaining_of_le hlen]
  obtain ⟨n, rest, rfl⟩ := exists_putU32 hlen
  simp only [ok_bind, getU32_putU32, pure_eq_ok]
  exact .accepted rfl trivial rfl rfl (.inr trivial)

lemma payloadRead_bind (data : Bytes) :
    PayloadRead .bind data (Payload.tryFrom .bind data) := by
  rw [Payload.tryFrom]
  by_cases hlen : 1 + 2 ≤ data.length
  swap
  · rw [checkRemaining_of_lt (by omega)]
    exact .refused _
  rw [checkRemaining_of_le hlen]
  cases data with
  | nil => simp at hlen
  | cons raw rest =>
      simp only [ok_bind, getU8]
      rcases BindType.tryFrom_cases raw with ⟨t, ht, rfl⟩ | ⟨e, he⟩
      · have hrest : 2 ≤ rest.length := by
          simp at hlen
          omega
        obtain ⟨port, host, rfl⟩ := exists_putU16 hrest
        simp only [ht, ok_bind, getU16_putU16, pure_eq_ok]
        exact .whole rfl trivial (by simp [Payload.toVec])
      · rw [he]
        exact .refused e

lemma payloadRead_datagram (data : Bytes) :
    PayloadRead .datagram data (Payload.tryFrom .datagram data) := by
  rw [Payload.tryFrom]
  by_cases hlen : 1 + 6 ≤ data.length
  swap
  · rw [checkRemaining_of_lt (by omega)]
    exact .refused _
  rw [checkRemaining_of_le hlen]
  cases data with
  | nil => simp at hlen
  | cons hostLen rest =>
      simp only [ok_bind, getU8]
      by_cases hhost : hostLen.toNat + 6 ≤ rest.length
      swap
      · rw [checkRemaining_of_lt (by omega)]
        exact .refused _
      rw [checkRemaining_of_le hhost]
      obtain ⟨port, rest, rfl⟩ := exists_putU16 (by omega : 2 ≤ rest.length)
      -- the host ends before the buffer does, as the check counts the port and four bytes more
      have hrest : hostLen.toNat ≤ rest.length := by
        simp at hhost
        omega
      obtain ⟨host, rest, hhostLen, rfl⟩ := exists_splitTo hrest
      have hfit : host.length ≤ 255 := by
        have := hostLen.toNat_lt
        omega
      have hbyte : UInt8.ofNat host.length = hostLen := by rw [hhostLen, UInt8.ofNat_toNat]
      simp only [ok_bind, getU16_putU16, splitTo_append hhostLen, pure_eq_ok]
      exact .whole rfl hfit (by simp [Payload.toVec, hfit, hbyte])

/-- **The decoder of payloads never reads past the end**, and what it accepts was encoded. -/
theorem payloadRead (op : OpCode) (data : Bytes) : PayloadRead op data (Payload.tryFrom op data) := by
  cases op with
  | connect => exact payloadRead_connect data
  | acknowledge => exact payloadRead_acknowledge data
  | reset => exact .accepted rfl trivial rfl rfl (.inr trivial)
  | finish => exact .accepted rfl trivial rfl rfl (.inr trivial)
  | push => exact .whole rfl trivial rfl
  | bind => exact payloadRead_bind data
  | datagram => exact payloadRead_datagram data

/-! ### Frames -/

/-- The outcomes of the decoder of frames, as those of payloads. -/
inductive FrameRead (data : Bytes) : Except Fault Frame → Prop
  | refused (e : FrameError) : FrameRead data (.error (.err e))
  | accepted {f : Frame} {bytes tail : Bytes} (hfit : f.payload.HostFits)
      (hvec : f.toVec = .ok bytes) (hdata : data = bytes ++ tail)
      (htail : tail = [] ∨ f.payload.IgnoresTail) : FrameRead data (.ok f)

lemma frameRead (data : Bytes) : FrameRead data (Frame.tryFrom data) := by
  rw [Frame.tryFrom]
  by_cases hlen : 1 + 4 ≤ data.length
  swap
  · rw [checkRemaining_of_lt (by omega)]
    exact .refused _
  rw [checkRemaining_of_le hlen]
  cases data with
  | nil => simp at hlen
  | cons firstbyte rest =>
      have hrest : 4 ≤ rest.length := by
        simp at hlen
        omega
      obtain ⟨id, fields, rfl⟩ := exists_putU32 hrest
      simp only [ok_bind, getU8]
      by_cases hver : firstbyte >>> 4 = protocolVersionNumber
      swap
      · rw [if_pos hver]
        exact .refused _
      rw [if_neg (not_not.2 hver)]
      rcases OpCode.tryFrom_cases (firstbyte &&& 0x0F) with ⟨op, hop, hlow⟩ | ⟨e, he⟩
      swap
      · rw [he]
        exact .refused e
      have hfirst : op.toU8 ||| (protocolVersionNumber <<< 4) = firstbyte := by
        rw [← hlow, ← hver]
        exact low_or_high firstbyte
      simp only [pure_eq_ok, ok_bind, hop, getU32_putU32]
      cases hread : Payload.tryFrom op fields with
      | error e =>
          cases hread ▸ payloadRead op fields with
          | refused e => exact .refused e
      | ok p =>
          cases hread ▸ payloadRead op fields with
          | @accepted _ fields' tail hop' hfit hvec hdata htail =>
              subst hop' hdata
              refine .accepted hfit (Frame.toVec_eq hvec) ?_ htail
              simp [hfirst]

lemma Frame.tryFrom_ok {f : Frame} (h : Frame.tryFrom data = .ok f) : f.payload.HostFits ∧
    ∃ bytes tail, f.toVec = .ok bytes ∧ data = bytes ++ tail ∧
      (tail = [] ∨ f.payload.IgnoresTail) := by
  cases h ▸ frameRead data with
  | accepted hfit hvec hdata htail => exact ⟨hfit, _, _, hvec, hdata, htail⟩

lemma Frame.tryFrom_ne_panic (data : Bytes) : Frame.tryFrom data ≠ .error .panic := by
  intro h
  cases h ▸ frameRead data

/-- The encodings of a frame are the messages that are decoded to it, if no bytes are ignored. -/
lemma Frame.toVec_of_tryFrom {f : Frame} (h : Frame.tryFrom data = .ok f)
    (hf : ¬ f.payload.IgnoresTail) : f.toVec = .ok data := by
  obtain ⟨-, bytes, tail, hvec, rfl, htail⟩ := Frame.tryFrom_ok h
  rcases htail with rfl | htail
  · rw [hvec, List.append_nil]
  · exact absurd htail hf

/-- **The decoder is sound** on every string of bytes: no read is out of range, and an accepted
message is the encoding of its frame, behind which there are bytes only where they are ignored. So
messages without such bytes are told apart, and an accepted datagram can be encoded again. -/
theorem Frame.tryFrom_sound (b : Bytes) :
    Frame.tryFrom b ≠ .error .panic ∧
    (∀ f, Frame.tryFrom b = .ok f → ∃ bytes tail, f.toVec = .ok bytes ∧ b = bytes ++ tail ∧
      (tail = [] ∨ (∃ n, f.payload = .acknowledge n) ∨ f.payload = .reset ∨
        f.payload = .finish)) ∧
    (∀ f b', Frame.tryFrom b = .ok f → Frame.tryFrom b' = .ok f →
      (∃ p, f.payload = .connect p) ∨ (∃ p, f.payload = .push p) ∨ (∃ p, f.payload = .bind p) ∨
        (∃ p, f.payload = .datagram p) → b = b') ∧
    ∀ f p, Frame.tryFrom b = .ok f → f.payload = .datagram p →
      p.targetHost.length ≤ 255 ∧ ∃ bytes, f.toVec = .ok bytes := by
  refine ⟨Frame.tryFrom_ne_panic b, ?_, ?_, ?_⟩
  · intro f h
    obtain ⟨-, bytes, tail, hvec, hb, htail⟩ := Frame.tryFrom_ok h
    refine ⟨bytes, tail, hvec, hb, htail.imp_right ?_⟩
    intro hignores
    cases hp : f.payload with
    | acknowledge n => exact .inl ⟨n, rfl⟩
    | reset => exact .inr (.inl rfl)
    | finish => exact .inr (.inr rfl)
    | connect p => rw [hp] at hignores; cases hignores
    | push data => rw [hp] at hignores; cases hignores
    | bind p => rw [hp] at hignores; cases hignores
    | datagram p => rw [hp] at hignores; cases hignores
  · intro f b' h h' hkind
    have hf : ¬ f.payload.IgnoresTail := by
      rcases hkind with ⟨p, hp⟩ | ⟨p, hp⟩ | ⟨p, hp⟩ | ⟨p, hp⟩
      all_goals
        rw [hp]
        exact not_false
    have hvec := Frame.toVec_of_tryFrom h hf
    have hvec' := Frame.toVec_of_tryFrom h' hf
    exact Except.ok.inj (hvec.symm.trans hvec')
  · intro f p h hp
    obtain ⟨hfit, bytes, tail, hvec, -, -⟩ := Frame.tryFrom_ok h
    rw [hp] at hfit
    exact ⟨hfit, bytes, hvec⟩

end Penguin.Mux
