import Penguin.Lib.Transition

/-!
The maps of UDP clients of the client program.

A datagram that goes through the multiplexor carries a client id instead of addresses. One map
takes an id to what is needed for sending the reply, another takes the two addresses of a
client to its id. Entries expire when they have not been used for a while.

The maps of the program are hash maps, so the order in which `retain` visits the entries is
not determined: a step of its own puts them into any other order. Instants are natural
numbers, in nanoseconds.
-/

namespace Penguin.Client

open Penguin.Lib.Transition

inductive SocketAddr
  | v4 (ip : BitVec 32) (port : UInt16)
  | v6 (ip : BitVec 128) (port : UInt16) (flowinfo scopeId : UInt32)
  deriving DecidableEq

/-- A bound socket. Sockets with the same local address may still be different. -/
structure UdpSocket where
  fd : ℕ
  localAddr : SocketAddr
  deriving DecidableEq

structure ClientIdMapEntry where
  peerAddr : SocketAddr
  ourAddr : SocketAddr
  socket : UdpSocket
  socks5 : Bool
  expires : ℕ
  deriving DecidableEq

/-- `UDP_PRUNE_TIMEOUT`, ten seconds. -/
def udpPruneTimeout : ℕ := 10000000000

namespace ClientIdMapEntry

def new (now : ℕ) (peerAddr ourAddr : SocketAddr) (socket : UdpSocket) (socks5 : Bool) :
    ClientIdMapEntry :=
  ⟨peerAddr, ourAddr, socket, socks5, now + udpPruneTimeout⟩

def refresh (now : ℕ) (entry : ClientIdMapEntry) : ClientIdMapEntry :=
  { entry with expires := now + udpPruneTimeout }

/-- The key of the client in the other map. -/
def addrs (entry : ClientIdMapEntry) : SocketAddr × SocketAddr := (entry.peerAddr, entry.ourAddr)

end ClientIdMapEntry

abbrev IdMap := AList fun _ : UInt32 => ClientIdMapEntry

abbrev AddrMap := AList fun _ : SocketAddr × SocketAddr => UInt32

structure ClientIdMaps where
  clientIdMap : IdMap
  clientAddrMap : AddrMap

/-- One of the two `expect`s on the maps fails. -/
inductive Inconsistent
  | mk
  deriving DecidableEq

/-- Where a reply goes: to the standard output, or through a socket to an address, possibly
with a SOCKS5 header. -/
inductive Reply
  | stdout
  | send (socket : UdpSocket) (socks5 : Bool) (addr : SocketAddr)
  deriving DecidableEq

namespace ClientIdMaps

def new : ClientIdMaps := ⟨∅, ∅⟩

/-- The ids that `next_available_key` can return. -/
def KeyAvailable (s : ClientIdMaps) (id : UInt32) : Prop :=
  1 ≤ id ∧ id < 0xFFFFFFFF ∧ id ∉ s.clientIdMap

/-- `add_udp_client`; a new client gets the id `drawn`. -/
def addUdpClient (s : ClientIdMaps) (now : ℕ) (addr : SocketAddr) (socket : UdpSocket)
    (socks5 : Bool) (drawn : UInt32) : Except Inconsistent (UInt32 × ClientIdMaps) :=
  let ourAddr := socket.localAddr
  match s.clientAddrMap.lookup (addr, ourAddr) with
  | some id =>
    match s.clientIdMap.lookup id with
    | some entry =>
      .ok (id, { s with clientIdMap := s.clientIdMap.insert id (entry.refresh now) })
    | none => .error .mk
  | none =>
    .ok (drawn,
      { clientIdMap := s.clientIdMap.insert drawn (.new now addr ourAddr socket socks5)
        clientAddrMap := s.clientAddrMap.insert (addr, ourAddr) drawn })

/-- What the closure of `retain` does to the other map when it visits an entry. -/
def visit (now : ℕ) (addrs : AddrMap) (entry : ClientIdMapEntry) : Except Inconsistent AddrMap :=
  if now < entry.expires then .ok addrs
  else
    match addrs.lookup entry.addrs with
    | some _ => .ok (addrs.erase entry.addrs)
    | none => .error .mk

/-- The entries that `retain` keeps. -/
def retained (now : ℕ) (ids : IdMap) : IdMap where
  entries := ids.entries.filter fun e => now < e.2.expires
  nodupKeys := ids.nodupKeys.sublist List.filter_sublist

def pruneUdpClients (s : ClientIdMaps) (now : ℕ) : Except Inconsistent ClientIdMaps := do
  let addrs ← s.clientIdMap.entries.foldlM (fun addrs e => visit now addrs e.2) s.clientAddrMap
  return ⟨retained now s.clientIdMap, addrs⟩

/-- Where `send_datagram_reply` sends a reply, if the client is known. -/
def sendDatagramReply (s : ClientIdMaps) (id : UInt32) : Option Reply :=
  if id = 0 then some .stdout
  else (s.clientIdMap.lookup id).map fun info => .send info.socket info.socks5 info.peerAddr

inductive Op
  | add (now : ℕ) (addr : SocketAddr) (socket : UdpSocket) (socks5 : Bool) (drawn : UInt32)
  | prune (now : ℕ)
  /-- The entries come to stand in another order. -/
  | rehash (ids : IdMap)

/-- The time at which the operation looks at the clock. -/
def Op.time : Op → Option ℕ
  | .add now _ _ _ _ => some now
  | .prune now => some now
  | .rehash _ => none

def apply (s : ClientIdMaps) : Op → Except Inconsistent ClientIdMaps
  | .add now addr socket socks5 drawn =>
    (s.addUdpClient now addr socket socks5 drawn).map (·.2)
  | .prune now => s.pruneUdpClients now
  | .rehash ids => .ok { s with clientIdMap := ids }

def step (s : ClientIdMaps) (op : Op) : Option ClientIdMaps := (s.apply op).toOption

/-- The id of a new client is one that `next_available_key` can return, and rehashing keeps
the entries. -/
def Allowed (s : ClientIdMaps) : Op → Prop
  | .add _ addr socket _ drawn =>
    s.clientAddrMap.lookup (addr, socket.localAddr) = none → s.KeyAvailable drawn
  | .prune _ => True
  | .rehash ids => ids.entries.Perm s.clientIdMap.entries

/-! ### The two maps agree -/

/-- What holds between the maps. -/
structure Consistent (s : ClientIdMaps) : Prop where
  agree : ∀ k id, s.clientAddrMap.lookup k = some id ↔
    ∃ entry, s.clientIdMap.lookup id = some entry ∧ entry.addrs = k
  zero : s.clientIdMap.lookup 0 = none
  bound : ∀ id entry, s.clientIdMap.lookup id = some entry →
    entry.socket.localAddr = entry.ourAddr

variable {s s' : ClientIdMaps}

lemma consistent_new : Consistent new where
  agree k id := by simp [new]
  zero := by simp [new]
  bound id entry h := by simp [new] at h

/-- A client has one id. -/
lemma Consistent.eq_of_addrs (h : Consistent s) {id id' : UInt32} {entry entry' : ClientIdMapEntry}
    (hid : s.clientIdMap.lookup id = some entry) (hid' : s.clientIdMap.lookup id' = some entry')
    (heq : entry.addrs = entry'.addrs) : id = id' := by
  have h₁ := (h.agree entry.addrs id).mpr ⟨entry, hid, rfl⟩
  have h₂ := (h.agree entry.addrs id').mpr ⟨entry', hid', heq.symm⟩
  exact Option.some.inj (h₁.symm.trans h₂)

/-! ### Adding a client -/

/-- What `add_udp_client` does: it refreshes the entry of a known client, or makes one. -/
lemma Consistent.add_cases (h : Consistent s) (now : ℕ) (addr : SocketAddr) (socket : UdpSocket)
    (socks5 : Bool) (drawn : UInt32) :
    (∃ id entry, s.clientAddrMap.lookup (addr, socket.localAddr) = some id ∧
      s.clientIdMap.lookup id = some entry ∧ entry.addrs = (addr, socket.localAddr) ∧
      s.addUdpClient now addr socket socks5 drawn =
        .ok (id, { s with clientIdMap := s.clientIdMap.insert id (entry.refresh now) })) ∨
    (s.clientAddrMap.lookup (addr, socket.localAddr) = none ∧
      s.addUdpClient now addr socket socks5 drawn = .ok (drawn,
        { clientIdMap :=
            s.clientIdMap.insert drawn (.new now addr socket.localAddr socket socks5)
          clientAddrMap := s.clientAddrMap.insert (addr, socket.localAddr) drawn })) := by
  cases hk : s.clientAddrMap.lookup (addr, socket.localAddr) with
  | none => exact .inr ⟨rfl, by simp [addUdpClient, hk]⟩
  | some id =>
      obtain ⟨entry, hentry, haddrs⟩ := (h.agree _ id).mp hk
      exact .inl ⟨id, entry, rfl, hentry, haddrs, by simp [addUdpClient, hk, hentry]⟩

lemma Consistent.refresh (h : Consistent s) {id : UInt32} {entry : ClientIdMapEntry} (now : ℕ)
    (hid : s.clientIdMap.lookup id = some entry) :
    Consistent { s with clientIdMap := s.clientIdMap.insert id (entry.refresh now) } where
  agree k id' := by
    rw [h.agree]
    by_cases heq : id' = id
    · subst heq
      simp [hid, ClientIdMapEntry.refresh, ClientIdMapEntry.addrs]
    · simp [AList.lookup_insert_ne heq]
  zero := by
    have hne : (0 : UInt32) ≠ id := by
      rintro rfl
      simp [h.zero] at hid
    simp [AList.lookup_insert_ne hne, h.zero]
  bound id' e he := by
    by_cases heq : id' = id
    · subst heq
      obtain rfl : entry.refresh now = e := by simpa using he
      exact h.bound id' entry hid
    · exact h.bound id' e (by simpa [AList.lookup_insert_ne heq] using he)

lemma Consistent.create (h : Consistent s) {addr : SocketAddr} {socket : UdpSocket}
    {drawn : UInt32} (now : ℕ) (socks5 : Bool)
    (hnone : s.clientAddrMap.lookup (addr, socket.localAddr) = none)
    (havail : s.KeyAvailable drawn) :
    Consistent
      { clientIdMap := s.clientIdMap.insert drawn (.new now addr socket.localAddr socket socks5)
        clientAddrMap := s.clientAddrMap.insert (addr, socket.localAddr) drawn } where
  agree k id := by
    have hfree : s.clientIdMap.lookup drawn = none := AList.lookup_eq_none.mpr havail.2.2
    by_cases hk : k = (addr, socket.localAddr)
    · subst hk
      by_cases hid : id = drawn
      · subst hid
        simp [ClientIdMapEntry.new, ClientIdMapEntry.addrs]
      · -- nobody else has these addresses
        have hno := (h.agree (addr, socket.localAddr) id).not.mp (by simp [hnone])
        simpa [AList.lookup_insert_ne hid, Ne.symm hid] using hno
    · rw [AList.lookup_insert_ne hk, h.agree]
      by_cases hid : id = drawn
      · subst hid
        simp [hfree, ClientIdMapEntry.new, ClientIdMapEntry.addrs, Ne.symm hk]
      · simp [AList.lookup_insert_ne hid]
  zero := by
    have hne : (0 : UInt32) ≠ drawn := by
      rintro rfl
      exact absurd havail.1 (by decide)
    simp [AList.lookup_insert_ne hne, h.zero]
  bound id entry he := by
    by_cases hid : id = drawn
    · subst hid
      obtain rfl : ClientIdMapEntry.new now addr socket.localAddr socket socks5 = entry := by
        simpa using he
      rfl
    · exact h.bound id entry (by simpa [AList.lookup_insert_ne hid] using he)

/-! ### Pruning -/

lemma lookup_retained {now : ℕ} {ids : IdMap} {id : UInt32} {entry : ClientIdMapEntry} :
    (retained now ids).lookup id = some entry ↔
      ids.lookup id = some entry ∧ now < entry.expires := by
  have hmem : ∀ m : IdMap, m.lookup id = some entry ↔ ⟨id, entry⟩ ∈ m.entries :=
    fun m => AList.mem_lookup_iff
  rw [hmem, hmem]
  simp [retained, List.mem_filter]

/-- The visits of a list of entries that are all in the other map: they take out the keys of
those that have expired, and no other. -/
lemma foldlM_visit (now : ℕ) {l : List (Sigma fun _ : UInt32 => ClientIdMapEntry)} {addrs : AddrMap}
    (hnodup : l.NodupKeys) (hmem : ∀ e ∈ l, addrs.lookup e.2.addrs = some e.1) :
    ∃ addrs', l.foldlM (fun addrs e => visit now addrs e.2) addrs = .ok addrs' ∧
      ∀ k id, addrs'.lookup k = some id ↔ addrs.lookup k = some id ∧
        ∀ e ∈ l, e.2.addrs = k → now < e.2.expires := by
  induction l generalizing addrs with
  | nil => exact ⟨addrs, rfl, by simp⟩
  | cons e l ih =>
      obtain ⟨hhead, htail⟩ := List.nodupKeys_cons.mp hnodup
      rw [List.foldlM_cons]
      by_cases hlive : now < e.2.expires
      · obtain ⟨addrs', hok, hspec⟩ := ih htail fun e' he' => hmem e' (List.mem_cons_of_mem _ he')
        refine ⟨addrs', ?_, fun k id => ?_⟩
        · rw [visit, if_pos hlive]
          exact hok
        · rw [hspec]
          simp [hlive]
      · have hkey : addrs.lookup e.2.addrs = some e.1 := hmem e (by simp)
        have hother : ∀ e' ∈ l, e'.2.addrs ≠ e.2.addrs := by
          intro e' he' heq
          have hkey' := hmem e' (List.mem_cons_of_mem _ he')
          rw [heq, hkey] at hkey'
          exact hhead (by
            rw [Option.some.inj hkey']
            exact List.mem_keys_of_mem he')
        have hrest : ∀ e' ∈ l, (addrs.erase e.2.addrs).lookup e'.2.addrs = some e'.1 := by
          intro e' he'
          rw [AList.lookup_erase_ne (hother e' he')]
          exact hmem e' (List.mem_cons_of_mem _ he')
        obtain ⟨addrs', hok, hspec⟩ := ih htail hrest
        refine ⟨addrs', ?_, fun k id => ?_⟩
        · rw [visit, if_neg hlive, hkey]
          exact hok
        · rw [hspec]
          by_cases hk : k = e.2.addrs
          · subst hk
            simp [hlive]
          · rw [AList.lookup_erase_ne hk]
            simp [Ne.symm hk]

/-- `prune_udp_clients` takes out of both maps the clients that have expired. -/
lemma Consistent.prune (h : Consistent s) (now : ℕ) :
    ∃ s', s.pruneUdpClients now = .ok s' ∧
      (∀ id entry, s'.clientIdMap.lookup id = some entry ↔
        s.clientIdMap.lookup id = some entry ∧ now < entry.expires) ∧
      ∀ k id, s'.clientAddrMap.lookup k = some id ↔
        ∃ entry, s.clientIdMap.lookup id = some entry ∧ entry.addrs = k ∧ now < entry.expires := by
  have hentry : ∀ e ∈ s.clientIdMap.entries, s.clientIdMap.lookup e.1 = some e.2 :=
    fun e he => AList.mem_lookup_iff.mpr he
  have haddr : ∀ e ∈ s.clientIdMap.entries, s.clientAddrMap.lookup e.2.addrs = some e.1 :=
    fun e he => (h.agree _ _).mpr ⟨e.2, hentry e he, rfl⟩
  obtain ⟨addrs', hok, hspec⟩ := foldlM_visit now s.clientIdMap.nodupKeys haddr
  refine ⟨⟨retained now s.clientIdMap, addrs'⟩, ?_, fun id entry => lookup_retained, fun k id => ?_⟩
  · rw [pruneUdpClients, hok]
    rfl
  · rw [hspec, h.agree]
    constructor
    · rintro ⟨⟨entry, hid, haddrs⟩, hall⟩
      exact ⟨entry, hid, haddrs, hall ⟨id, entry⟩ (AList.mem_lookup_iff.mp hid) haddrs⟩
    · rintro ⟨entry, hid, haddrs, hlive⟩
      refine ⟨⟨entry, hid, haddrs⟩, fun e he heq => ?_⟩
      -- the entry with these addresses is this one
      have hsame := h.eq_of_addrs hid (hentry e he) (haddrs.trans heq.symm)
      have := hentry e he
      rw [← hsame, hid] at this
      rwa [← Option.some.inj this]

/-! ### Whole runs -/

lemma Consistent.apply (h : Consistent s) {op : Op} (hok : s.Allowed op) :
    ∃ s', s.apply op = .ok s' ∧ Consistent s' := by
  cases op with
  | add now addr socket socks5 drawn =>
      obtain ⟨id, entry, -, hid, -, hadd⟩ | ⟨hnone, hadd⟩ :=
        h.add_cases now addr socket socks5 drawn
      · refine ⟨_, by rw [ClientIdMaps.apply, hadd]; rfl, h.refresh now hid⟩
      · exact ⟨_, by rw [ClientIdMaps.apply, hadd]; rfl, h.create now socks5 hnone (hok hnone)⟩
  | prune now =>
      obtain ⟨s', hprune, hids, haddrs⟩ := h.prune now
      refine ⟨s', hprune, fun k id => ?_, ?_, fun id entry he => ?_⟩
      · rw [haddrs]
        exact exists_congr fun entry => by rw [hids]; tauto
      · cases hz : s'.clientIdMap.lookup 0 with
        | none => rfl
        | some entry =>
            have := ((hids 0 entry).mp hz).1
            simp [h.zero] at this
      · exact h.bound id entry ((hids id entry).mp he).1
  | rehash ids =>
      have hsame : ∀ id, ids.lookup id = s.clientIdMap.lookup id :=
        fun id => AList.perm_lookup hok
      exact ⟨_, rfl, fun k id => by rw [h.agree]; simp [hsame], by simp [hsame, h.zero],
        fun id entry he => h.bound id entry (by simpa [hsame] using he)⟩

lemma consistent {ok : ClientIdMaps → Op → Prop} (hle : ∀ s op, ok s op → s.Allowed op)
    (h : Consistent s) (hreach : Reach step ok s s') : Consistent s' := by
  refine hreach.invariant (I := Consistent) h fun s op s' hs hok hstep => ?_
  obtain ⟨s₁, hs₁, hc⟩ := hs.apply (hle s op hok)
  rw [step, hs₁] at hstep
  obtain rfl := Option.some.inj hstep
  exact hc

/-- The operation looks at the clock, if at all, before what was added at `t` expires. -/
def Before (t : ℕ) (s : ClientIdMaps) (op : Op) : Prop :=
  s.Allowed op ∧ ∀ now, op.time = some now → t ≤ now ∧ now < t + udpPruneTimeout

/-- The client has the id, and its entry does not expire before what is added at `t`. -/
def Known (s : ClientIdMaps) (t : ℕ) (k : SocketAddr × SocketAddr) (id : UInt32) : Prop :=
  ∃ entry, s.clientIdMap.lookup id = some entry ∧ entry.addrs = k ∧
    t + udpPruneTimeout ≤ entry.expires

lemma Known.step {t : ℕ} {k : SocketAddr × SocketAddr} {id : UInt32} {op : Op} (hs : Consistent s)
    (h : s.Known t k id) (hop : s.Before t op) (hstep : s.step op = some s') :
    s'.Known t k id := by
  obtain ⟨entry, hid, haddrs, hexp⟩ := h
  cases op with
  | add now addr socket socks5 drawn =>
      have hnow := (hop.2 now rfl).1
      obtain ⟨id', entry', hk', hid', -, hadd⟩ | ⟨hnone, hadd⟩ :=
        hs.add_cases now addr socket socks5 drawn
      · rw [ClientIdMaps.step, ClientIdMaps.apply, hadd] at hstep
        obtain rfl := Option.some.inj hstep
        by_cases heq : id = id'
        · subst heq
          obtain rfl : entry = entry' := Option.some.inj (hid.symm.trans hid')
          exact ⟨entry.refresh now, by simp, haddrs, by simpa [ClientIdMapEntry.refresh] using hnow⟩
        · exact ⟨entry, by simpa [AList.lookup_insert_ne heq] using hid, haddrs, hexp⟩
      · rw [ClientIdMaps.step, ClientIdMaps.apply, hadd] at hstep
        obtain rfl := Option.some.inj hstep
        have hne : id ≠ drawn := by
          rintro rfl
          exact (hop.1 hnone).2.2 (AList.lookup_isSome.mp (by simp [hid]))
        exact ⟨entry, by simpa [AList.lookup_insert_ne hne] using hid, haddrs, hexp⟩
  | prune now =>
      have hnow := (hop.2 now rfl).2
      obtain ⟨s₁, hprune, hids, -⟩ := hs.prune now
      rw [ClientIdMaps.step, ClientIdMaps.apply, hprune] at hstep
      obtain rfl := Option.some.inj hstep
      exact ⟨entry, (hids id entry).mpr ⟨hid, by omega⟩, haddrs, hexp⟩
  | rehash ids =>
      obtain rfl := Option.some.inj hstep
      exact ⟨entry, (AList.perm_lookup hop.1).trans hid, haddrs, hexp⟩

lemma Known.reach {t : ℕ} {k : SocketAddr × SocketAddr} {id : UInt32} (hs : Consistent s)
    (h : s.Known t k id) (hreach : Reach ClientIdMaps.step (Before t) s s') : s'.Known t k id := by
  induction hreach with
  | start => exact h
  | next hpre hop hstep ih =>
      exact ih.step (consistent (fun _ _ hok => hok.1) hs hpre) hop hstep

/-- The client that was added has the id that was returned. -/
lemma Consistent.known_of_add (h : Consistent s) {now : ℕ} {addr : SocketAddr} {socket : UdpSocket}
    {socks5 : Bool} {drawn id : UInt32}
    (hadd : s.addUdpClient now addr socket socks5 drawn = .ok (id, s')) :
    s'.Known now (addr, socket.localAddr) id := by
  obtain ⟨id', entry, -, hid, haddrs, hadd'⟩ | ⟨-, hadd'⟩ :=
    h.add_cases now addr socket socks5 drawn
  · obtain ⟨rfl, rfl⟩ := Prod.mk.inj (Except.ok.inj (hadd'.symm.trans hadd))
    exact ⟨entry.refresh now, by simp, haddrs, by simp [ClientIdMapEntry.refresh]⟩
  · obtain ⟨rfl, rfl⟩ := Prod.mk.inj (Except.ok.inj (hadd'.symm.trans hadd))
    exact ⟨.new now addr socket.localAddr socket socks5, by simp, rfl,
      by simp [ClientIdMapEntry.new]⟩

/-- **The maps of UDP clients** are inverse to each other after any operations at any times, so
neither `expect` fails. An id is not zero and belongs to one client, who keeps it until it
expires; pruning takes out those who have expired and no others; and a reply goes to the
address the id was made for, from the socket the client had sent to. -/
theorem udp_clients_bijection (h : Reach ClientIdMaps.step Allowed new s) :
    (∀ p o id, s.clientAddrMap.lookup (p, o) = some id ↔
      ∃ entry, s.clientIdMap.lookup id = some entry ∧ entry.peerAddr = p ∧ entry.ourAddr = o) ∧
    0 ∉ s.clientIdMap ∧
    (∀ op, s.Allowed op → ∃ s', s.apply op = .ok s') ∧
    (∀ k k' id, s.clientAddrMap.lookup k = some id → s.clientAddrMap.lookup k' = some id →
      k = k') ∧
    (∀ now addr socket socks5 drawn id s₁ s₂, s.Allowed (.add now addr socket socks5 drawn) →
      s.addUdpClient now addr socket socks5 drawn = .ok (id, s₁) →
      Reach ClientIdMaps.step (Before now) s₁ s₂ →
      ∀ now' socket' socks5' drawn', socket'.localAddr = socket.localAddr →
        ∃ s₃, s₂.addUdpClient now' addr socket' socks5' drawn' = .ok (id, s₃)) ∧
    (∀ now, ∃ s', s.pruneUdpClients now = .ok s' ∧
      (∀ id entry, s'.clientIdMap.lookup id = some entry ↔
        s.clientIdMap.lookup id = some entry ∧ now < entry.expires) ∧
      ∀ k id, s'.clientAddrMap.lookup k = some id ↔ s.clientAddrMap.lookup k = some id ∧
        ∃ entry, s.clientIdMap.lookup id = some entry ∧ now < entry.expires) ∧
    (∀ p o id, s.clientAddrMap.lookup (p, o) = some id →
      ∃ socket socks5, s.sendDatagramReply id = some (.send socket socks5 p) ∧
        socket.localAddr = o) := by
  have hs : Consistent s := consistent (fun _ _ hok => hok) consistent_new h
  refine ⟨fun p o id => ?_, AList.lookup_eq_none.mp hs.zero, fun op hop => ?_, ?_, ?_, ?_, ?_⟩
  · rw [hs.agree]
    simp [ClientIdMapEntry.addrs]
  · obtain ⟨s', hs', -⟩ := hs.apply hop
    exact ⟨s', hs'⟩
  · intro k k' id hk hk'
    obtain ⟨entry, hid, rfl⟩ := (hs.agree k id).mp hk
    obtain ⟨entry', hid', rfl⟩ := (hs.agree k' id).mp hk'
    rw [Option.some.inj (hid.symm.trans hid')]
  · intro now addr socket socks5 drawn id s₁ s₂ hallowed hadd hreach now' socket' socks5' drawn'
      hlocal
    have hs₁ : Consistent s₁ := by
      obtain ⟨s', hs', hc⟩ := hs.apply hallowed
      rw [ClientIdMaps.apply, hadd] at hs'
      obtain rfl : s₁ = s' := Except.ok.inj hs'
      exact hc
    have hs₂ : Consistent s₂ := consistent (fun _ _ hok => hok.1) hs₁ hreach
    obtain ⟨entry, hid, haddrs, -⟩ := (hs.known_of_add hadd).reach hs₁ hreach
    have hk := (hs₂.agree _ id).mpr ⟨entry, hid, haddrs⟩
    rw [← hlocal] at hk
    refine ⟨{ s₂ with clientIdMap := s₂.clientIdMap.insert id (entry.refresh now') }, ?_⟩
    simp only [addUdpClient, hk, hid]
  · intro now
    obtain ⟨s', hprune, hids, haddrs⟩ := hs.prune now
    refine ⟨s', hprune, hids, fun k id => ?_⟩
    rw [haddrs, hs.agree]
    constructor
    · rintro ⟨entry, hid, hk, hlive⟩
      exact ⟨⟨entry, hid, hk⟩, entry, hid, hlive⟩
    · rintro ⟨⟨entry, hid, hk⟩, entry', hid', hlive⟩
      obtain rfl : entry = entry' := Option.some.inj (hid.symm.trans hid')
      exact ⟨entry, hid, hk, hlive⟩
  · intro p o id hk
    obtain ⟨entry, hid, haddrs⟩ := (hs.agree (p, o) id).mp hk
    obtain ⟨rfl, rfl⟩ := Prod.mk.inj haddrs
    have hne : id ≠ 0 := by
      rintro rfl
      simp [hs.zero] at hid
    exact ⟨entry.socket, entry.socks5, by simp [sendDatagramReply, hne, hid], hs.bound id entry hid⟩

/-- A client of a SOCKS5 listener is added, and a reply to it finds its way. -/
theorem udp_clients_bijection_reply : ∃ s,
    run ClientIdMaps.step new
      [.add 5 (.v4 0x7F000001 1234) ⟨3, .v4 0x7F000001 80⟩ true 7] = some s ∧
    ∃ socket socks5, s.sendDatagramReply 7 = some (.send socket socks5 (.v4 0x7F000001 1234)) ∧
      socket.localAddr = .v4 0x7F000001 80 := by
  obtain ⟨s, hs, hk⟩ : ∃ s, run ClientIdMaps.step new
      [.add 5 (.v4 0x7F000001 1234) ⟨3, .v4 0x7F000001 80⟩ true 7] = some s ∧
      s.clientAddrMap.lookup (.v4 0x7F000001 1234, .v4 0x7F000001 80) = some 7 := ⟨_, rfl, rfl⟩
  have hreach : Reach ClientIdMaps.step Allowed new s := by
    refine reach_of_run hs ⟨fun _ => ?_, fun _ _ => trivial⟩
    exact ⟨by decide, by decide, AList.notMem_empty 7⟩
  exact ⟨s, hs, (udp_clients_bijection hreach).2.2.2.2.2.2 _ _ 7 hk⟩

end ClientIdMaps

end Penguin.Client
