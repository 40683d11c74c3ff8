import Penguin.Client.SocksRelay

/-!
The requests of a SOCKS client, and what the readers of versions 4 and 5 make of a stream.

Version 5 has its address in the layout that the packets of the UDP relay have too, and there are
two readers of it. Version 4 has fields that end with a zero byte.
-/

namespace Penguin.Client.Socks

open Penguin.Lib.BigEndian Penguin.Lib.Reading
open Mux (Bytes getU8 getU16 getU32 splitTo putU16)

/-! ### Readers -/

lemma stable_readU16 (context : String) : Stable (readU16 context) :=
  Stable.bind (stable_exactly 2 _) fun front => stable_pure (UInt16.ofNat (ofBytes front))

lemma stable_readAddressOfType (addressType : UInt8) : Stable (readAddressOfType addressType) := by
  unfold readAddressOfType
  split_ifs
  · exact Stable.bind (stable_exactly 4 _) fun addr =>
      stable_pure (Host.v4 (BitVec.ofNat 32 (ofBytes addr)))
  · exact Stable.bind (stable_next _) fun len =>
      Stable.bind (stable_exactly len.toNat _) fun addr => stable_pure (Host.domain addr)
  · exact Stable.bind (stable_exactly 16 _) fun addr =>
      stable_pure (Host.v6 (BitVec.ofNat 128 (ofBytes addr)))
  · exact stable_error _

lemma stable_readAddress : Stable readAddress :=
  Stable.bind (stable_next _) stable_readAddressOfType

lemma stable_readCommand (ipv6ToString : BitVec 128 → Bytes) : Stable (readCommand ipv6ToString) :=
  Stable.bind (stable_next _) fun command => Stable.bind (stable_next _) fun _ =>
    Stable.bind stable_readAddress fun address => Stable.bind (stable_readU16 _) fun port =>
      stable_pure (command, address.text ipv6ToString, port)

lemma stable_v5ReadRequest (ipv6ToString : BitVec 128 → Bytes) :
    Stable (v5ReadRequest ipv6ToString) := by
  have hrest : ∀ version : UInt8, Stable fun input => if version ≠ 5 then
      (.error ⟨.socksVersion version, []⟩) else readCommand ipv6ToString input := by
    intro version
    split_ifs
    · exact stable_error _
    · exact stable_readCommand ipv6ToString
  exact Stable.bind (stable_next _) hrest

/-! ### Version 5 -/

/-- The bytes of an address behind its type. -/
inductive AddressBody : UInt8 → Bytes → Host → Prop
  | v4 {octets : Bytes} (h : octets.length = 4) :
      AddressBody 1 octets (.v4 (BitVec.ofNat 32 (ofBytes octets)))
  | domain {len : UInt8} {name : Bytes} (h : name.length = len.toNat) :
      AddressBody 3 (len :: name) (.domain name)
  | v6 {octets : Bytes} (h : octets.length = 16) :
      AddressBody 4 octets (.v6 (BitVec.ofNat 128 (ofBytes octets)))

variable {atyp : UInt8} {body : Bytes} {host : Host}

lemma AddressBody.readAddress (h : AddressBody atyp body host) (rest : Bytes) :
    readAddress (atyp :: (body ++ rest)) = .ok (host, rest) := by
  change readAddressOfType atyp (body ++ rest) = _
  cases h with
  | v4 hlen =>
      rw [readAddressOfType, if_pos rfl, readExact, exactly_append hlen]
      rfl
  | @domain len name hlen =>
      rw [readAddressOfType, if_neg (by decide), if_pos rfl]
      change (readExact len.toNat "read domain address" (name ++ rest) >>= _) = _
      rw [readExact, exactly_append hlen]
      rfl
  | v6 hlen =>
      rw [readAddressOfType, if_neg (by decide), if_neg (by decide), if_pos rfl, readExact,
        exactly_append hlen]
      rfl

lemma readU16_putU16 (context : String) (p : UInt16) (rest : Bytes) :
    readU16 context (putU16 p ++ rest) = .ok (p, rest) := by
  rw [readU16, readExact, exactly_append (Mux.length_putU16 p)]
  exact congrArg (fun q => Except.ok (q, rest)) (port_putU16 p)

lemma AddressBody.v5ReadRequest (h : AddressBody atyp body host)
    (ipv6ToString : BitVec 128 → Bytes) (command reserved : UInt8) (p : UInt16) (rest : Bytes) :
    Socks.v5ReadRequest ipv6ToString
        (5 :: command :: reserved :: atyp :: (body ++ (putU16 p ++ rest))) =
      .ok ((command, host.text ipv6ToString, p), rest) := by
  change (Socks.readAddress (atyp :: (body ++ (putU16 p ++ rest))) >>= _) = _
  rw [h.readAddress]
  change (readU16 "read port" (putU16 p ++ rest) >>= fun x =>
    Except.ok ((command, host.text ipv6ToString, x.1), x.2)) = _
  rw [readU16_putU16]
  rfl

lemma AddressBody.parseUdpRelayAddress (h : AddressBody atyp body host) (p : UInt16) (rest : Bytes) :
    Socks.parseUdpRelayAddress atyp (body ++ (putU16 p ++ rest)) = .ok (some (host, p, rest)) := by
  cases h with
  | v4 hlen => exact parse_v4.append hlen p rest
  | @domain len name hlen =>
      have hshort : ¬ (name ++ (putU16 p ++ rest)).length < len.toNat + 2 := by
        simp only [List.length_append, hlen, Mux.length_putU16]
        omega
      have hdrop : (name ++ (putU16 p ++ rest)).drop (len.toNat + 2) = rest := by
        rw [← List.append_assoc, List.drop_left' (by simp [hlen])]
      rw [List.cons_append, parse_domain, if_neg hshort, List.take_left' hlen, List.drop_left' hlen,
        List.take_left' (Mux.length_putU16 p), port_putU16, hdrop]
  | v6 hlen => exact parse_v6.append hlen p rest

lemma AddressBody.length_le (h : AddressBody atyp body host) : body.length ≤ 256 := by
  cases h with
  | v4 hlen => omega
  | @domain len name hlen =>
      have := len.toNat_lt
      simp only [List.length_cons, hlen]
      omega
  | v6 hlen => omega

/-- What comes before the end of an address and its port is too short. -/
lemma AddressBody.announced_gt (h : AddressBody atyp body host) {rest whole : Bytes}
    (hwhole : whole.length = body.length + 2) (hbody : body <+: whole) (hrest : rest <+: whole)
    (hlt : rest.length < whole.length) : rest.length < announced atyp rest := by
  cases h with
  | v4 hlen =>
      simp only [announced, if_true]
      omega
  | @domain len name hlen =>
      cases rest with
      | nil => simp [announced]
      | cons b rest =>
          obtain ⟨t, rfl⟩ := hbody
          obtain ⟨rfl, -⟩ : b = len ∧ rest <+: name ++ t := by
            simpa using hrest
          simp only [List.length_cons, hlen] at hwhole hlt ⊢
          simp only [announced]
          simp
          omega
  | v6 hlen =>
      simp [announced]
      omega

lemma handleUdpRelayHeader_of_le {ipv6ToString : BitVec 128 → Bytes} {bytes : Bytes}
    {addr : SocketAddr} (h : bytes.length ≤ maxUdpPacketSize) :
    handleUdpRelayHeader ipv6ToString ⟨bytes, addr⟩ =
      (parseUdpRelayHeader bytes).map fun parsed =>
        parsed.map fun x => (x.1.text ipv6ToString, x.2.1, x.2.2, withoutScope addr) := by
  simp only [handleUdpRelayHeader, List.take_of_length_le h]
  cases parseUdpRelayHeader bytes <;> rfl

/-- **The two readers of an address agree.** On an address of one of the three types and a port
both readers give the same host and port and leave everything behind them; both refuse whatever
ends before that; and neither finds a target behind another type. -/
theorem socks5_readers_agree (ipv6ToString : BitVec 128 → Bytes) :
    (∀ atyp body host, AddressBody atyp body host →
      ∀ (command reserved : UInt8) (p : UInt16) (rest : Bytes) (addr : SocketAddr),
        v5ReadRequest ipv6ToString
            (5 :: command :: reserved :: atyp :: (body ++ (putU16 p ++ rest))) =
          .ok ((command, host.text ipv6ToString, p), rest) ∧
        ((0 :: 0 :: 0 :: atyp :: (body ++ (putU16 p ++ rest))).length ≤ maxUdpPacketSize →
          handleUdpRelayHeader ipv6ToString
              ⟨0 :: 0 :: 0 :: atyp :: (body ++ (putU16 p ++ rest)), addr⟩ =
            .ok (some (host.text ipv6ToString, p, rest, withoutScope addr))) ∧
        (∀ l, l <+: 5 :: command :: reserved :: atyp :: (body ++ putU16 p) →
          l ≠ 5 :: command :: reserved :: atyp :: (body ++ putU16 p) →
            ∃ e, v5ReadRequest ipv6ToString l = .error e) ∧
        ∀ l, l <+: 0 :: 0 :: 0 :: atyp :: (body ++ putU16 p) →
          l ≠ 0 :: 0 :: 0 :: atyp :: (body ++ putU16 p) →
            handleUdpRelayHeader ipv6ToString ⟨l, addr⟩ = .error (.err .parseAssociate)) ∧
    ∀ atyp, atyp ≠ 1 → atyp ≠ 3 → atyp ≠ 4 →
      ∀ (command reserved : UInt8) (rest : Bytes) (addr : SocketAddr),
        (∃ e, v5ReadRequest ipv6ToString (5 :: command :: reserved :: atyp :: rest) = .error e) ∧
        handleUdpRelayHeader ipv6ToString ⟨0 :: 0 :: 0 :: atyp :: rest, addr⟩ = .ok none := by
  refine ⟨fun atyp body host h command reserved p rest addr => ⟨?_, fun hle => ?_, ?_, ?_⟩,
    fun atyp h1 h3 h4 command reserved rest addr => ⟨?_, ?_⟩⟩
  · exact h.v5ReadRequest ipv6ToString command reserved p rest
  · rw [handleUdpRelayHeader_of_le hle, parse_cons, if_neg (by simp), h.parseUdpRelayAddress]
    rfl
  · intro l hl hne
    have hwhole := h.v5ReadRequest ipv6ToString command reserved p []
    rw [List.append_nil] at hwhole
    exact (stable_v5ReadRequest ipv6ToString).fails_of_shorter hwhole hl hne
  · intro l hl hne
    have hlt : l.length < (0 :: 0 :: 0 :: atyp :: (body ++ putU16 p)).length :=
      lt_of_le_of_ne hl.length_le fun heq => hne (hl.eq_of_length heq)
    have hbody := h.length_le
    have hmax : l.length ≤ maxUdpPacketSize := by
      simp only [List.length_cons, List.length_append, Mux.length_putU16] at hlt
      simp only [maxUdpPacketSize]
      omega
    have htrunc : Truncated l := by
      by_cases hshort : l.length < 4
      · exact truncated_of_short hshort
      obtain ⟨r₁, r₂, frag, t, l, rfl⟩ := exists_cons_of_length_ge hshort
      simp only [List.cons_prefix_cons] at hl
      obtain ⟨rfl, rfl, rfl, rfl, hl⟩ := hl
      simp only [List.length_cons] at hlt
      exact ⟨rfl, h.announced_gt (by simp) (List.prefix_append _ _) hl (by omega)⟩
    rw [handleUdpRelayHeader_of_le hmax]
    obtain ⟨-, hparse⟩ | ⟨hno, -⟩ := parse_cases l
    · rw [hparse]
      rfl
    · exact absurd htrunc hno
  · refine ⟨⟨.addressType atyp, addressTypeNotSupported⟩, ?_⟩
    change (readAddressOfType atyp rest >>= _) = _
    rw [readAddressOfType, if_neg h1, if_neg h3, if_neg h4]
    rfl
  · obtain ⟨k, hk⟩ : ∃ k, maxUdpPacketSize = k + 4 := ⟨65532, rfl⟩
    simp only [handleUdpRelayHeader, hk, List.take_succ_cons]
    rw [parse_cons, if_neg (by simp), parse_other _ h1 h3 h4]
    rfl

/-- Port 53 of `127.0.0.1`, of `ab` and of `::1`, with a byte behind it. -/
theorem socks5_readers_agree_types :
    let text : BitVec 128 → Bytes := fun _ => [58, 58, 49]
    let localhost : Bytes := [49, 50, 55, 46, 48, 46, 48, 46, 49]
    (v5ReadRequest text [5, 1, 0, 1, 127, 0, 0, 1, 0, 53, 7] = .ok ((1, localhost, 53), [7]) ∧
      handleUdpRelayHeader text ⟨[0, 0, 0, 1, 127, 0, 0, 1, 0, 53, 7], .v4 0 9⟩ =
        .ok (some (localhost, 53, [7], .v4 0 9))) ∧
    (v5ReadRequest text [5, 1, 0, 3, 2, 97, 98, 0, 53, 7] = .ok ((1, [97, 98], 53), [7]) ∧
      handleUdpRelayHeader text ⟨[0, 0, 0, 3, 2, 97, 98, 0, 53, 7], .v4 0 9⟩ =
        .ok (some ([97, 98], 53, [7], .v4 0 9))) ∧
    v5ReadRequest text [5, 1, 0, 4, 0, 0, 0, 0, 0, 0, 0, 0, 0, 0, 0, 0, 0, 0, 0, 1, 0, 53, 7] =
        .ok ((1, [58, 58, 49], 53), [7]) ∧
      handleUdpRelayHeader text
          ⟨[0, 0, 0, 4, 0, 0, 0, 0, 0, 0, 0, 0, 0, 0, 0, 0, 0, 0, 0, 1, 0, 53, 7], .v4 0 9⟩ =
        .ok (some ([58, 58, 49], 53, [7], .v4 0 9)) := by
  intro text localhost
  have h := (socks5_readers_agree text).1
  have hv4 := h 1 [127, 0, 0, 1] _ (.v4 rfl) 1 0 53 [7] (.v4 0 9)
  have hdomain := h 3 [2, 97, 98] _ (.domain rfl) 1 0 53 [7] (.v4 0 9)
  have hv6 := h 4 [0, 0, 0, 0, 0, 0, 0, 0, 0, 0, 0, 0, 0, 0, 0, 1] _ (.v6 rfl) 1 0 53 [7] (.v4 0 9)
  exact ⟨⟨hv4.1, hv4.2.1 (by decide)⟩, ⟨hdomain.1, hdomain.2.1 (by decide)⟩, hv6.1,
    hv6.2.1 (by decide)⟩
/-! ### Version 4 -/

/-- The grammar of a request behind its version: command, port, address, and a user id and
possibly a name that end with a zero byte. Then comes what is not part of the request. -/
inductive V4Request (command : UInt8) (p : UInt16) (rest : Bytes) : Bytes → Bytes → Prop
  | ip {a b c d : UInt8} {user : Bytes} (ha : a ≠ 0) (hu : 0 ∉ user) :
      V4Request command p rest (ipv4ToString (BitVec.ofNat 32 (ofBytes [a, b, c, d])))
        (command :: (putU16 p ++ a :: b :: c :: d :: (user ++ 0 :: rest)))
  | domain {b c d : UInt8} {user host : Bytes} (hu : 0 ∉ user) (hh : 0 ∉ host) :
      V4Request command p rest host
        (command :: (putU16 p ++ 0 :: b :: c :: d :: (user ++ 0 :: (host ++ 0 :: rest))))

/-- The stream has the zero bytes that it needs: one behind the address, and two if a name follows
the user id. A stream that ends before is not meant. -/
def Terminated : Bytes → Prop
  | _ :: _ :: _ :: a :: _ :: _ :: _ :: tail => (if a = 0 then 2 else 1) ≤ tail.count 0
  | _ => True

lemma shiftRight_eq_zero_iff (a b c d : UInt8) :
    UInt32.ofNat (ofBytes [a, b, c, d]) >>> 24 = 0 ↔ a = 0 := by
  have ha := a.toNat_lt
  have hb := b.toNat_lt
  have hc := c.toNat_lt
  have hd := d.toNat_lt
  rw [← UInt32.toNat_inj, ← UInt8.toNat_inj, UInt32.toNat_shiftRight, UInt32.toNat_ofNat',
    Nat.shiftRight_eq_div_pow]
  simp only [ofBytes, List.foldl_cons, List.foldl_nil]
  change _ / 2 ^ 24 = 0 ↔ a.toNat = 0
  omega

lemma putU16_port (p₁ p₂ : UInt8) : putU16 (port [p₁, p₂]) = [p₁, p₂] := by
  have hlt : ofBytes [p₁, p₂] < 2 ^ 16 := by
    have h₁ := p₁.toNat_lt
    have h₂ := p₂.toNat_lt
    simp only [ofBytes, List.foldl_cons, List.foldl_nil]
    omega
  have hval : (port [p₁, p₂]).toNat = ofBytes [p₁, p₂] := by
    rw [port, UInt16.toNat_ofNat', Nat.mod_eq_of_lt hlt]
  rw [putU16, hval]
  exact toBytes_ofBytes [p₁, p₂]

lemma v4ReadRequest_cons (command p₁ p₂ a b c d : UInt8) (tail : Bytes) :
    v4ReadRequest (command :: p₁ :: p₂ :: a :: b :: c :: d :: tail) =
      if a = 0 then
        .ok ((command, (through 0 (through 0 tail).2).1.dropLast, port [p₁, p₂]),
          (through 0 (through 0 tail).2).2)
      else
        .ok ((command, ipv4ToString (BitVec.ofNat 32 (ofBytes [a, b, c, d])), port [p₁, p₂]),
          (through 0 tail).2) := by
  have h16 : ∀ l, readU16 "read port" (p₁ :: p₂ :: l) = .ok (port [p₁, p₂], l) := fun l => by
    have h := exactly_append (n := 2) (e := failed "read port") (l := [p₁, p₂]) rfl l
    simp only [List.cons_append, List.nil_append] at h
    simp only [readU16, readExact, h, ok_bind]
    rfl
  have h32 : readU32 "read ip" (a :: b :: c :: d :: tail) =
      .ok (UInt32.ofNat (ofBytes [a, b, c, d]), tail) := by
    have h := exactly_append (n := 4) (e := failed "read ip") (l := [a, b, c, d]) rfl tail
    simp only [List.cons_append, List.nil_append] at h
    simp only [readU32, readExact, h, ok_bind]
    rfl
  simp only [v4ReadRequest, readU8, next, h16, h32, ok_bind, shiftRight_eq_zero_iff]
  rfl

/-- A request of the grammar is read. -/
lemma V4Request.read {command : UInt8} {p : UInt16} {rest host input : Bytes}
    (h : V4Request command p rest host input) :
    v4ReadRequest input = .ok ((command, host, p), rest) := by
  have hport : ∀ l, putU16 p ++ l =
      UInt8.ofNat (p.toNat / 256) :: UInt8.ofNat p.toNat :: l := fun l => rfl
  have hp : port [UInt8.ofNat (p.toNat / 256), UInt8.ofNat p.toNat] = p := port_putU16 p
  cases h with
  | ip ha hu => rw [hport, v4ReadRequest_cons, if_neg ha, through_append hu, hp]
  | domain hu hh =>
      rw [hport, v4ReadRequest_cons, if_pos rfl, through_append hu]
      simp only [through_append hh, hp, List.dropLast_concat]

lemma V4Request.terminated {command : UInt8} {p : UInt16} {rest host input : Bytes}
    (h : V4Request command p rest host input) : Terminated input := by
  cases h with
  | ip ha hu =>
      change (if _ then 2 else 1) ≤ _
      rw [if_neg ha, List.count_append, List.count_cons_self]
      omega
  | domain hu hh =>
      change (if _ then 2 else 1) ≤ _
      rw [if_pos rfl, List.count_append, List.count_cons_self, List.count_append,
        List.count_cons_self]
      omega

/-- What is read from a stream with its zero bytes is a request. -/
lemma v4Request_of_read {command : UInt8} {p : UInt16} {rest host input : Bytes}
    (ht : Terminated input) (h : v4ReadRequest input = .ok ((command, host, p), rest)) :
    V4Request command p rest host input := by
  rcases input with _ | ⟨c₀, _ | ⟨p₁, _ | ⟨p₂, _ | ⟨a, _ | ⟨b, _ | ⟨c, _ | ⟨d, tail⟩⟩⟩⟩⟩⟩⟩
  · cases h
  · cases h
  · cases h
  · cases h
  · cases h
  · cases h
  · cases h
  have hport : ∀ l, p₁ :: p₂ :: l = putU16 (port [p₁, p₂]) ++ l := fun l => by
    rw [putU16_port]
    rfl
  change (if _ then 2 else 1) ≤ _ at ht
  rw [v4ReadRequest_cons] at h
  by_cases ha : a = 0
  · subst ha
    rw [if_pos rfl] at ht h
    obtain ⟨user, l, rfl, hu⟩ := List.eq_append_cons_of_mem
      (List.count_pos_iff.mp (by omega : 0 < tail.count 0))
    rw [List.count_append, List.count_cons_self, List.count_eq_zero_of_not_mem hu] at ht
    obtain ⟨name, l', rfl, hn⟩ := List.eq_append_cons_of_mem
      (List.count_pos_iff.mp (by omega : 0 < l.count 0))
    simp only [through_append hu, through_append hn, List.dropLast_concat, Except.ok.injEq,
      Prod.mk.injEq] at h
    obtain ⟨⟨rfl, rfl, rfl⟩, rfl⟩ := h
    have hr := @V4Request.domain c₀ (port [p₁, p₂]) l' b c d user name hu hn
    rwa [← hport] at hr
  · rw [if_neg ha] at ht h
    obtain ⟨user, l, rfl, hu⟩ := List.eq_append_cons_of_mem
      (List.count_pos_iff.mp (by omega : 0 < tail.count 0))
    simp only [through_append hu, Except.ok.injEq, Prod.mk.injEq] at h
    obtain ⟨⟨rfl, rfl, rfl⟩, rfl⟩ := h
    have hr := @V4Request.ip c₀ (port [p₁, p₂]) l a b c d user ha hu
    rwa [← hport] at hr

/-- A stream that ends before a zero byte that it needs is read all the same. -/
lemma exists_read_of_not_terminated {input : Bytes} (ht : ¬ Terminated input) :
    ∃ x, v4ReadRequest input = .ok x := by
  rcases input with _ | ⟨c₀, _ | ⟨p₁, _ | ⟨p₂, _ | ⟨a, _ | ⟨b, _ | ⟨c, _ | ⟨d, tail⟩⟩⟩⟩⟩⟩⟩
  · exact absurd trivial ht
  · exact absurd trivial ht
  · exact absurd trivial ht
  · exact absurd trivial ht
  · exact absurd trivial ht
  · exact absurd trivial ht
  · exact absurd trivial ht
  rw [v4ReadRequest_cons]
  split_ifs
  · exact ⟨_, rfl⟩
  · exact ⟨_, rfl⟩

/-- **What the reader of version 4 accepts.** It returns a request exactly when the stream begins
with one, and what comes behind it is left, if and only if the zero bytes that the stream needs
are there, or the stream ends before them. -/
theorem v4_read_request_iff (input : Bytes) :
    (∀ command host p rest, v4ReadRequest input = .ok ((command, host, p), rest) ↔
      V4Request command p rest host input) ↔ Terminated input := by
  constructor
  · intro h
    by_contra ht
    obtain ⟨x, hx⟩ := exists_read_of_not_terminated ht
    exact ht ((h x.1.1 x.1.2.1 x.1.2.2 x.2).mp hx).terminated
  · exact fun ht command host p rest => ⟨v4Request_of_read ht, V4Request.read⟩

/-- A CONNECT to port 80 with a name that was cut off: the host is `example.co`, and no request of
the grammar is there. -/
theorem v4_read_request_cut :
    v4ReadRequest ([0x01, 0x00, 0x50, 0x00, 0x00, 0x00, 0x01, 0x61, 0x00] ++
        "example.com".toList.map fun c => UInt8.ofNat c.toNat) =
      .ok ((0x01, "example.co".toList.map fun c => UInt8.ofNat c.toNat, 80), []) ∧
    ¬ ∃ host p rest, V4Request 0x01 p rest host
      ([0x01, 0x00, 0x50, 0x00, 0x00, 0x00, 0x01, 0x61, 0x00] ++
        "example.com".toList.map fun c => UInt8.ofNat c.toNat) := by
  refine ⟨by decide, ?_⟩
  rintro ⟨host, p, rest, h⟩
  have := h.terminated
  change (2 : ℕ) ≤ _ at this
  exact absurd this (by decide)

end Penguin.Client.Socks
