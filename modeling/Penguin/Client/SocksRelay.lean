import Penguin.Client.Socks
import Penguin.Mux.Endpoint

/-!
The packets of the UDP relay.

The reader of a header refuses what is too short for it and drops what it does not understand.
The relay goes on after a packet that was dropped, but not after one that was refused. The header
of a response is made by other code.
-/

namespace Penguin.Client.Socks

open Penguin.Lib.BigEndian Penguin.Lib.Reading
open Mux (Bytes getU8 getU16 getU32 splitTo putU16)

/-! ### The reader of a header -/

variable {buf : Bytes} {n : ℕ}

lemma splitTo_of_le (h : n ≤ buf.length) : splitTo buf n = .ok (buf.take n, buf.drop n) := by
  simp [splitTo, Nat.not_lt.mpr h]

lemma getU16_of_le (h : 2 ≤ buf.length) :
    getU16 buf = .ok (UInt16.ofNat (ofBytes (buf.take 2)), buf.drop 2) := by
  simp [getU16, splitTo_of_le h]

lemma getU32_of_le (h : 4 ≤ buf.length) :
    getU32 buf = .ok (UInt32.ofNat (ofBytes (buf.take 4)), buf.drop 4) := by
  simp [getU32, splitTo_of_le h]

lemma getU128_of_le (h : 16 ≤ buf.length) :
    getU128 buf = .ok (BitVec.ofNat 128 (ofBytes (buf.take 16)), buf.drop 16) := by
  simp [getU128, splitTo_of_le h]

lemma ensureRemaining_of_le (h : n ≤ buf.length) : ensureRemaining buf n = .ok () := by
  simp [ensureRemaining, Nat.not_lt.mpr h]

lemma ensureRemaining_of_lt (h : buf.length < n) :
    ensureRemaining buf n = .error (.err .parseAssociate) := by
  simp [ensureRemaining, h]

/-- The number that two bytes stand for. -/
def port (bytes : Bytes) : UInt16 := UInt16.ofNat (ofBytes bytes)

lemma parse_short (h : buf.length < 4) :
    parseUdpRelayHeader buf = .error (.err .parseAssociate) := by
  simp [parseUdpRelayHeader, ensureRemaining_of_lt h]

lemma parse_cons (r₁ r₂ frag atyp : UInt8) (rest : Bytes) :
    parseUdpRelayHeader (r₁ :: r₂ :: frag :: atyp :: rest) =
      if frag ≠ 0 then .ok none else parseUdpRelayAddress atyp rest := by
  have h4 : 4 ≤ (r₁ :: r₂ :: frag :: atyp :: rest).length := by simp
  have h2 : 2 ≤ (r₁ :: r₂ :: frag :: atyp :: rest).length := by simp
  rw [parseUdpRelayHeader, ensureRemaining_of_le h4, getU16_of_le h2]
  simp only [ok_bind, orPanic, getU8, List.drop_succ_cons, List.drop_zero]
  split_ifs <;> rfl

/-- Addresses of the type are a number of `k` bytes, behind which the port stands. -/
def ReadsNumber {w : ℕ} (atyp : UInt8) (k : ℕ) (host : BitVec w → Host) : Prop :=
  ∀ rest : Bytes, parseUdpRelayAddress atyp rest =
    if rest.length < k + 2 then .error (.err .parseAssociate)
    else .ok (some (host (BitVec.ofNat w (ofBytes (rest.take k))), port ((rest.drop k).take 2),
      rest.drop (k + 2)))

lemma parse_v4 : ReadsNumber 1 4 .v4 := by
  intro rest
  rw [parseUdpRelayAddress, if_pos rfl]
  split_ifs with h
  · rw [ensureRemaining_of_lt h, error_bind]
  · have h2 : 2 ≤ (rest.drop 4).length := by simp only [List.length_drop]; omega
    rw [ensureRemaining_of_le (by omega), getU32_of_le (by omega)]
    simp only [ok_bind, orPanic]
    rw [getU16_of_le h2, List.drop_drop]
    rfl

lemma parse_v6 : ReadsNumber 4 16 .v6 := by
  intro rest
  rw [parseUdpRelayAddress, if_neg (by decide), if_neg (by decide), if_pos rfl]
  split_ifs with h
  · rw [ensureRemaining_of_lt h, error_bind]
  · have h2 : 2 ≤ (rest.drop 16).length := by simp only [List.length_drop]; omega
    rw [ensureRemaining_of_le (by omega), getU128_of_le (by omega)]
    simp only [ok_bind, orPanic]
    rw [getU16_of_le h2, List.drop_drop]
    rfl

section Address

variable (rest : Bytes)

lemma parse_domain_nil : parseUdpRelayAddress 3 [] = .error (.err .parseAssociate) := by
  rw [parseUdpRelayAddress, if_neg (by decide), if_pos rfl, ensureRemaining_of_lt (by decide),
    error_bind]

lemma parse_domain (len : UInt8) : parseUdpRelayAddress 3 (len :: rest) =
    if rest.length < len.toNat + 2 then .error (.err .parseAssociate)
    else .ok (some (.domain (rest.take len.toNat), port ((rest.drop len.toNat).take 2),
      rest.drop (len.toNat + 2))) := by
  rw [parseUdpRelayAddress, if_neg (by decide), if_pos rfl, ensureRemaining_of_le (by simp)]
  simp only [getU8, orPanic, ok_bind]
  split_ifs with h
  · rw [ensureRemaining_of_lt h, error_bind]
  · have h2 : 2 ≤ (rest.drop len.toNat).length := by simp only [List.length_drop]; omega
    rw [ensureRemaining_of_le (by omega), splitTo_of_le (by omega), ok_bind]
    simp only [ok_bind]
    rw [getU16_of_le h2, List.drop_drop]
    rfl

lemma parse_other {atyp : UInt8} (h1 : atyp ≠ 1) (h3 : atyp ≠ 3) (h4 : atyp ≠ 4) :
    parseUdpRelayAddress atyp rest = .ok none := by
  rw [parseUdpRelayAddress, if_neg h1, if_neg h3, if_neg h4]
  rfl

end Address

/-! ### Packets that are too short -/

/-- How many bytes an address of the type takes, with the port behind it. -/
def announced (atyp : UInt8) (rest : Bytes) : ℕ :=
  if atyp = 1 then 4 + 2
  else if atyp = 3 then
    match rest with
    | [] => 1
    | len :: _ => 1 + len.toNat + 2
  else if atyp = 4 then 16 + 2
  else 0

/-- A packet that is shorter than its header: it has no address type, or is not fragmented and ends
before the address and the port do. -/
def Truncated : Bytes → Prop
  | _ :: _ :: frag :: atyp :: rest => frag = 0 ∧ rest.length < announced atyp rest
  | _ => True

lemma truncated_of_short (h : buf.length < 4) : Truncated buf := by
  unfold Truncated
  split
  · simp at h
    omega
  · trivial

lemma exists_cons_of_length_ge (h : ¬ buf.length < 4) :
    ∃ r₁ r₂ frag atyp rest, buf = r₁ :: r₂ :: frag :: atyp :: rest := by
  rcases buf with _ | ⟨r₁, _ | ⟨r₂, _ | ⟨frag, _ | ⟨atyp, rest⟩⟩⟩⟩
  · simp at h
  · simp at h
  · simp at h
  · simp at h
  · exact ⟨r₁, r₂, frag, atyp, rest, rfl⟩

lemma parseUdpRelayAddress_cases (atyp : UInt8) (rest : Bytes) :
    (rest.length < announced atyp rest ∧
      parseUdpRelayAddress atyp rest = .error (.err .parseAssociate)) ∨
    (¬ rest.length < announced atyp rest ∧ ∃ x, parseUdpRelayAddress atyp rest = .ok x) := by
  by_cases h1 : atyp = 1
  · subst h1
    rw [parse_v4]
    split_ifs with h
    · exact .inl ⟨h, rfl⟩
    · exact .inr ⟨h, _, rfl⟩
  by_cases h3 : atyp = 3
  · subst h3
    cases rest with
    | nil => exact .inl ⟨by decide, parse_domain_nil⟩
    | cons len rest =>
        have hlen : (len :: rest).length < announced 3 (len :: rest) ↔
            rest.length < len.toNat + 2 := by
          simp only [announced, List.length_cons]
          simp
          omega
        rw [parse_domain, hlen]
        split_ifs with h
        · exact .inl ⟨h, rfl⟩
        · exact .inr ⟨h, _, rfl⟩
  by_cases h4 : atyp = 4
  · subst h4
    rw [parse_v6]
    split_ifs with h
    · exact .inl ⟨h, rfl⟩
    · exact .inr ⟨h, _, rfl⟩
  · exact .inr ⟨by simp [announced, h1, h3, h4], _, parse_other rest h1 h3 h4⟩

/-- The reader refuses exactly the packets that are too short, and does not panic. -/
lemma parse_cases (buf : Bytes) :
    (Truncated buf ∧ parseUdpRelayHeader buf = .error (.err .parseAssociate)) ∨
    (¬ Truncated buf ∧ ∃ x, parseUdpRelayHeader buf = .ok x) := by
  by_cases hshort : buf.length < 4
  · exact .inl ⟨truncated_of_short hshort, parse_short hshort⟩
  obtain ⟨r₁, r₂, frag, atyp, rest, rfl⟩ := exists_cons_of_length_ge hshort
  rw [parse_cons]
  by_cases hfrag : frag = 0
  · rw [if_neg (not_not.mpr hfrag)]
    rcases parseUdpRelayAddress_cases atyp rest with ⟨hlt, h⟩ | ⟨hge, h⟩
    · exact .inl ⟨⟨hfrag, hlt⟩, h⟩
    · exact .inr ⟨fun ht => hge ht.2, h⟩
  · rw [if_pos hfrag]
    exact .inr ⟨fun ht => hfrag ht.1, _, rfl⟩

/-! ### The header of a response -/

/-- The address of a target, as a header has it. -/
def targetHost : SocketAddr → Host
  | .v4 ip _ => .v4 ip
  | .v6 ip _ _ _ => .v6 ip

def targetPort : SocketAddr → UInt16
  | .v4 _ port => port
  | .v6 _ port _ _ => port

lemma port_putU16 (p : UInt16) : port (putU16 p) = p := by
  have hval : ofBytes (putU16 p) = p.toNat := ofBytes_toBytes_of_lt (by simpa using p.toNat_lt)
  simp [port, hval]

/-- A string that is one of its rotations by one place has only one symbol. -/
lemma rotate_eq_iff (x : UInt8) (l : Bytes) :
    l ++ [x] = x :: l ↔ l = List.replicate l.length x := by
  induction l with
  | nil => simp
  | cons y l ih =>
      rw [List.cons_append, List.cons.injEq, List.length_cons, List.replicate_succ, List.cons.injEq]
      constructor
      · rintro ⟨rfl, h⟩
        exact ⟨rfl, ih.mp h⟩
      · rintro ⟨rfl, h⟩
        exact ⟨rfl, ih.mpr h⟩

lemma ofNat_ofBytes_eq_iff {w k : ℕ} (hw : 256 ^ k = 2 ^ w) {l : Bytes} (hl : l.length = k)
    (ip : BitVec w) : BitVec.ofNat w (ofBytes l) = ip ↔ l = toBytes k ip.toNat := by
  have hlt : ofBytes l < 2 ^ w := by
    rw [← hw, ← hl]
    exact ofBytes_lt l
  constructor
  · rintro rfl
    rw [BitVec.toNat_ofNat, Nat.mod_eq_of_lt hlt, ← hl, toBytes_ofBytes]
  · rintro rfl
    rw [ofBytes_toBytes_of_lt (by rw [hw]; exact ip.isLt), BitVec.ofNat_toNat, BitVec.setWidth_eq]

/-- The octets of an address behind which its type stands: they read as an address of this type
with the same octets only if all of them are the type. -/
lemma octets_iff {w k : ℕ} (hw : 256 ^ (k + 1) = 2 ^ w) {x atyp : UInt8} {l : Bytes}
    (hl : l.length = k) {ip : BitVec w} (hip : toBytes (k + 1) ip.toNat = x :: l) :
    (x = atyp ∧ BitVec.ofNat w (ofBytes (l ++ [atyp])) = ip) ↔
      ip = BitVec.ofNat w (ofBytes (List.replicate (k + 1) atyp)) := by
  rw [ofNat_ofBytes_eq_iff hw (by simp [hl]) ip, eq_comm (a := ip),
    ofNat_ofBytes_eq_iff hw (by simp) ip, hip, List.replicate_succ, List.cons.injEq, ← hl]
  constructor
  · rintro ⟨rfl, h⟩
    exact ⟨rfl, ((rotate_eq_iff x l).mp h).symm⟩
  · rintro ⟨rfl, h⟩
    exact ⟨rfl, (rotate_eq_iff atyp l).mpr h.symm⟩

/-- The type of an address decides what it is read as. -/
lemma atyp_of_parse {atyp : UInt8} {rest data : Bytes} {host : Host} {p : UInt16}
    (h : parseUdpRelayAddress atyp rest = .ok (some (host, p, data))) :
    (atyp = 1 ∧ ∃ ip, host = .v4 ip) ∨ (atyp = 3 ∧ ∃ name, host = .domain name) ∨
      (atyp = 4 ∧ ∃ ip, host = .v6 ip) := by
  by_cases h1 : atyp = 1
  · subst h1
    rw [parse_v4] at h
    split_ifs at h
    simp only [Except.ok.injEq, Option.some.injEq, Prod.mk.injEq] at h
    exact .inl ⟨rfl, _, h.1.symm⟩
  by_cases h3 : atyp = 3
  · subst h3
    cases rest with
    | nil =>
        rw [parse_domain_nil] at h
        cases h
    | cons len rest =>
        rw [parse_domain] at h
        split_ifs at h
        simp only [Except.ok.injEq, Option.some.injEq, Prod.mk.injEq] at h
        exact .inr (.inl ⟨rfl, _, h.1.symm⟩)
  by_cases h4 : atyp = 4
  · subst h4
    rw [parse_v6] at h
    split_ifs at h
    simp only [Except.ok.injEq, Option.some.injEq, Prod.mk.injEq] at h
    exact .inr (.inr ⟨rfl, _, h.1.symm⟩)
  · rw [parse_other rest h1 h3 h4] at h
    cases h

lemma ReadsNumber.append {w k : ℕ} {atyp : UInt8} {host : BitVec w → Host}
    (hreads : ReadsNumber atyp k host) {octets : Bytes} (h : octets.length = k) (p : UInt16)
    (data : Bytes) : parseUdpRelayAddress atyp (octets ++ (putU16 p ++ data)) =
      .ok (some (host (BitVec.ofNat w (ofBytes octets)), p, data)) := by
  have hlen : ¬ (octets ++ (putU16 p ++ data)).length < k + 2 := by
    simp only [List.length_append, h, Mux.length_putU16]
    omega
  have hdrop : (octets ++ (putU16 p ++ data)).drop (k + 2) = data := by
    rw [← List.append_assoc, List.drop_left' (by simp [h])]
  rw [hreads, if_neg hlen, List.take_left' h, List.drop_left' h,
    List.take_left' (Mux.length_putU16 p), port_putU16, hdrop]

/-- A packet that has the type of the address behind the address. -/
lemma ReadsNumber.misplaced_iff {w k : ℕ} {atyp : UInt8} {host : BitVec w → Host}
    (hreads : ReadsNumber atyp (k + 1) host) (hw : 256 ^ (k + 1) = 2 ^ w)
    (hinj : ∀ ip ip', host ip = host ip' → ip = ip')
    (honly : ∀ {x rest ip p data}, parseUdpRelayAddress x rest = .ok (some (host ip, p, data)) →
      x = atyp) (ip : BitVec w) (p : UInt16) (data : Bytes) :
    parseUdpRelayHeader
        (List.replicate 3 0 ++ toBytes (k + 1) ip.toNat ++ [atyp] ++ putU16 p ++ data) =
        .ok (some (host ip, p, data)) ↔
      ip = BitVec.ofNat w (ofBytes (List.replicate (k + 1) atyp)) := by
  obtain ⟨x, l, hx⟩ := List.exists_cons_of_length_eq_add_one (length_toBytes (k + 1) ip.toNat)
  have hl : l.length = k := by
    have := congrArg List.length hx
    simpa using this.symm
  have hpacket : List.replicate 3 0 ++ toBytes (k + 1) ip.toNat ++ [atyp] ++ putU16 p ++ data =
      0 :: 0 :: 0 :: x :: ((l ++ [atyp]) ++ (putU16 p ++ data)) := by
    simp [hx, List.replicate]
  rw [← octets_iff hw hl hx, hpacket, parse_cons, if_neg (by simp)]
  constructor
  · intro h
    obtain rfl := honly h
    rw [hreads.append (by simp [hl])] at h
    simp only [Except.ok.injEq, Option.some.injEq, Prod.mk.injEq] at h
    exact ⟨rfl, hinj _ _ h.1⟩
  · rintro ⟨rfl, h⟩
    rw [hreads.append (by simp [hl]), h]

/-- **When a response can be read.** The type of the address stands behind the address, so a
response reads as a datagram with its target only if all octets of the target are the type: for
1.1.1.1 and 404:404:404:404:404:404:404:404. -/
theorem udp_relay_response_iff (target : SocketAddr) (data : Bytes) :
    parseUdpRelayHeader (udpRelayResponse target data) =
        .ok (some (targetHost target, targetPort target, data)) ↔
      (∃ p, target = .v4 0x01010101 p) ∨
        ∃ p flowinfo scopeId, target = .v6 0x04040404040404040404040404040404 p flowinfo scopeId := by
  cases target with
  | v4 ip p =>
      have honly : ∀ {x rest ip p data},
          parseUdpRelayAddress x rest = .ok (some (.v4 ip, p, data)) → x = 1 := by
        intro x rest ip p data h
        obtain ⟨rfl, -⟩ | ⟨-, name, hname⟩ | ⟨-, ip', hip⟩ := atyp_of_parse h
        · rfl
        · cases hname
        · cases hip
      have hones : BitVec.ofNat 32 (ofBytes (List.replicate 4 1)) = 0x01010101 := by decide
      refine (parse_v4.misplaced_iff (by norm_num) (by simp) honly ip p data).trans ?_
      rw [hones]
      simp
  | v6 ip p flowinfo scopeId =>
      have honly : ∀ {x rest ip p data},
          parseUdpRelayAddress x rest = .ok (some (.v6 ip, p, data)) → x = 4 := by
        intro x rest ip p data h
        obtain ⟨-, ip', hip⟩ | ⟨-, name, hname⟩ | ⟨rfl, -⟩ := atyp_of_parse h
        · cases hip
        · cases hname
        · rfl
      have hfours : BitVec.ofNat 128 (ofBytes (List.replicate 16 4)) =
          0x04040404040404040404040404040404 := by decide
      refine (parse_v6.misplaced_iff (by norm_num) (by simp) honly ip p data).trans ?_
      rw [hfours]
      simp

/-- A response from 127.0.0.1:53 reads as a packet of the address type 127. -/
theorem udp_relay_response_dropped :
    parseUdpRelayHeader (udpRelayResponse (.v4 0x7f000001 53) [0x41]) = .ok none := by
  decide

/-! ### The relay -/

/-- A packet at the relay, and the id that `add_udp_client` gives its sender. -/
structure Arrival where
  packet : Packet
  clientId : UInt32

/-- What `udp_relay` forwards of the packets that come, and the error or panic it ends with; with
none it waits for the next packet. -/
def udpRelay (ipv6ToString : BitVec 128 → Bytes) : List Arrival → List Mux.Datagram × Option Fault
  | [] => ([], none)
  | a :: arrivals =>
    match handleUdpRelayHeader ipv6ToString a.packet with
    | .error e => ([], some e)
    | .ok none => udpRelay ipv6ToString arrivals
    | .ok (some (targetHost, targetPort, data, _)) =>
      let (sent, e) := udpRelay ipv6ToString arrivals
      (⟨a.clientId, targetHost, targetPort, data⟩ :: sent, e)

/-- The datagram in a packet, if it has one. -/
def Arrival.datagram (ipv6ToString : BitVec 128 → Bytes) (a : Arrival) : Option Mux.Datagram :=
  match handleUdpRelayHeader ipv6ToString a.packet with
  | .ok (some (targetHost, targetPort, data, _)) => some ⟨a.clientId, targetHost, targetPort, data⟩
  | _ => none

/-- The packet is too short, as far as it fits the buffer. -/
def Arrival.TooShort (a : Arrival) : Prop := Truncated (a.packet.bytes.take maxUdpPacketSize)

variable {ipv6ToString : BitVec 128 → Bytes} {a : Arrival} {arrivals : List Arrival}

lemma handle_cases (ipv6ToString : BitVec 128 → Bytes) (a : Arrival) :
    (a.TooShort ∧ handleUdpRelayHeader ipv6ToString a.packet = .error (.err .parseAssociate)) ∨
    (¬ a.TooShort ∧ ∃ x, handleUdpRelayHeader ipv6ToString a.packet = .ok x) := by
  rcases parse_cases (a.packet.bytes.take maxUdpPacketSize) with ⟨ht, h⟩ | ⟨ht, x, h⟩
  · exact .inl ⟨ht, by simp [handleUdpRelayHeader, h]⟩
  · exact .inr ⟨ht, _, by simp only [handleUdpRelayHeader, h, ok_bind]; rfl⟩

lemma udpRelay_of_not_tooShort (h : ∀ a ∈ arrivals, ¬ a.TooShort) :
    udpRelay ipv6ToString arrivals = (arrivals.filterMap (Arrival.datagram ipv6ToString), none) := by
  induction arrivals with
  | nil => rfl
  | cons a arrivals ih =>
      have ih := ih fun b hb => h b (by simp [hb])
      obtain ⟨ht, -⟩ | ⟨-, x, hx⟩ := handle_cases ipv6ToString a
      · exact absurd ht (h a (by simp))
      · rcases x with _ | ⟨host, port, data, src⟩
        · simp [udpRelay, Arrival.datagram, hx, ih]
        · simp [udpRelay, Arrival.datagram, hx, ih]

lemma not_tooShort_of_udpRelay (h : (udpRelay ipv6ToString arrivals).2 = none) :
    ∀ a ∈ arrivals, ¬ a.TooShort := by
  induction arrivals with
  | nil => simp
  | cons a arrivals ih =>
      obtain ⟨-, hx⟩ | ⟨ht, x, hx⟩ := handle_cases ipv6ToString a
      · simp [udpRelay, hx] at h
      · have hrest : (udpRelay ipv6ToString arrivals).2 = none := by
          rcases x with _ | ⟨host, port, data, src⟩
          · simpa [udpRelay, hx] using h
          · simpa [udpRelay, hx] using h
        exact List.forall_mem_cons.mpr ⟨ht, ih hrest⟩

/-- **When the relay goes on.** It forwards what is in each packet and waits for more exactly if
none of the packets was too short. -/
theorem udp_relay_forwards_iff (ipv6ToString : BitVec 128 → Bytes) (arrivals : List Arrival) :
    udpRelay ipv6ToString arrivals = (arrivals.filterMap (Arrival.datagram ipv6ToString), none) ↔
      ∀ a ∈ arrivals, ¬ a.TooShort :=
  ⟨fun h => not_tooShort_of_udpRelay (by rw [h]), udpRelay_of_not_tooShort⟩

/-- A packet without a byte, and then a datagram for 127.0.0.1. -/
def emptyThenGood : List Arrival :=
  [⟨⟨[], .v4 0x7f000001 4000⟩, 1⟩,
    ⟨⟨[0, 0, 0, 1, 127, 0, 0, 1, 0, 53, 0x41], .v4 0x7f000001 4000⟩, 1⟩]

/-- The empty packet ends the relay, and the datagram is not forwarded. -/
theorem udp_relay_ends :
    udpRelay (fun _ => []) emptyThenGood = ([], some (.err .parseAssociate)) ∧
    emptyThenGood.filterMap (Arrival.datagram fun _ => []) =
      [⟨1, "127.0.0.1".toList.map fun c => UInt8.ofNat c.toNat, 53, [0x41]⟩] := by
  decide

end Penguin.Client.Socks
