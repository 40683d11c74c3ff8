import Penguin.Mux.Actions
import Penguin.Mux.Survival

/-!
Who gets a stream.

A handle is given to the caller of `new_stream_channel` whose slot the `Acknowledge` of the peer
has found, or it is handed over for `accept_stream_channel`, if need be after waiting for room in
the queue. Here this is followed on one endpoint, as long as nothing is dropped, cancelled or
bound and the connection does not fail.
-/

namespace Penguin.Mux

open Penguin.Lib Penguin.Lib.Transition

/-- Steps by which the users open streams and use them, and those of the task. No handle is
dropped, no call is cancelled, nothing is bound, the connection does not fail, and no datagram
is too short for the decoder. -/
def Action.Undisturbing : Action → Prop
  | .newStreamChannel _ _ _ | .sendConnect _ _ | .awaitStream _ _ | .retryStream _ _ _ => True
  | .acceptStreamChannel | .getDatagram => True
  | .sendDatagram d => 4 ≤ d.data.length
  | .pollWrite _ _ _ | .copyPush _ _ _ | .pollShutdown _ _ => True
  | .pollFillBuf _ _ | .consume _ _ _ | .pollRead _ _ _ => True
  | .droppedPort | .sendFrame | .tick | .resume => True
  | _ => False

/-- A message that the decoder takes and that does not close the connection. -/
def Message.Good : Message → Prop
  | .binary data => ∃ f, Frame.tryFrom data = .ok f
  | .ping | .pong => True
  | .close => False

namespace Endpoint

/-- Nothing has been dropped, and a slot is reserved for just the calls that have not been
answered. -/
structure Calm (E : Endpoint) : Prop where
  running : E.phase = .running
  alive : E.muxAlive = true
  ports : E.droppedPorts = []
  frames : ∀ bytes ∈ E.txFrames, Message.Good (.binary bytes)
  streams : ∀ x, ∀ m ∈ E.streams x, m.dropped = false
  calls : ∀ x j c, (E.calls x)[j]? = some c →
    (c.reply = none ↔ E.flows x = some (.requested j)) ∧ (c.reply = none → c.stage.listening = true)
  requested : ∀ x j, E.flows x = some (.requested j) → j < (E.calls x).length

/-- Neither a caller nor `accept_stream_channel` has been given a stream with this id. -/
structure Unused (E : Endpoint) (x : UInt32) : Prop where
  streams : E.streams x = []
  calls : ∀ c ∈ E.calls x, c.reply.join = none
  queue : ∀ p ∈ E.conRecvStream, p.1 ≠ x
  blocked : ∀ i, E.blocked ≠ some (.stream x i)
  held : ∀ i, E.held x i = false

/-- One caller has been given the stream, and nobody else. -/
structure Opened (E : Endpoint) (x : UInt32) : Prop where
  streams : E.streams x ≠ []
  call : ∃ (j : ℕ) (c : StreamCall), (E.calls x)[j]? = some c ∧ c.reply = some (some 0) ∧
    ∀ (k : ℕ) (c' : StreamCall), (E.calls x)[k]? = some c' → c'.reply.join ≠ none → k = j
  queue : ∀ p ∈ E.conRecvStream, p.1 ≠ x
  blocked : ∀ i, E.blocked ≠ some (.stream x i)

/-- The stream has been handed over once: it is in the queue, or waits for room in it, or has
been accepted. No caller has been given it. -/
structure Accepted (E : Endpoint) (x : UInt32) : Prop where
  streams : E.streams x ≠ []
  calls : ∀ c ∈ E.calls x, c.reply.join = none
  queue : ∀ p ∈ E.conRecvStream, p.1 = x → p.2 = 0
  blocked : ∀ i, E.blocked = some (.stream x i) → i = 0
  once : E.conRecvStream.count (x, 0) + (decide (E.blocked = some (.stream x 0))).toNat +
    (E.held x 0).toNat = 1

/-- A step that does not concern calls and hand-overs. -/
structure Neutral (E E' : Endpoint) : Prop where
  calls : E'.calls = E.calls
  requested : ∀ x j, E'.flows x = some (.requested j) ↔ E.flows x = some (.requested j)
  queue : E'.conRecvStream = E.conRecvStream
  blocked : ∀ x i, E'.blocked = some (.stream x i) ↔ E.blocked = some (.stream x i)
  held : E'.held = E.held
  streams : ∀ x, (E'.streams x).map (·.dropped) = (E.streams x).map (·.dropped)
  phase : E'.phase = E.phase
  muxAlive : E'.muxAlive = E.muxAlive
  ports : E'.droppedPorts = E.droppedPorts
  frames : ∀ bytes ∈ E'.txFrames, bytes ∈ E.txFrames ∨ Message.Good (.binary bytes)

variable {E E' F : Endpoint} {x : UInt32}

namespace Neutral

lemma refl (E : Endpoint) : Neutral E E :=
  ⟨rfl, fun _ _ => .rfl, rfl, fun _ _ => .rfl, rfl, fun _ => rfl, rfl, rfl, rfl, fun _ h => .inl h⟩

lemma trans (h : Neutral E F) (h' : Neutral F E') : Neutral E E' where
  calls := h'.calls.trans h.calls
  requested x j := (h'.requested x j).trans (h.requested x j)
  queue := h'.queue.trans h.queue
  blocked x i := (h'.blocked x i).trans (h.blocked x i)
  held := h'.held.trans h.held
  streams x := (h'.streams x).trans (h.streams x)
  phase := h'.phase.trans h.phase
  muxAlive := h'.muxAlive.trans h.muxAlive
  ports := h'.ports.trans h.ports
  frames bytes hmem := (h'.frames bytes hmem).elim (h.frames bytes) .inr

lemma send {f : Frame} (hf : Message.Good (.binary (finalize f))) : Neutral E (E.send f) := by
  unfold Endpoint.send
  split_ifs
  · refine ⟨rfl, fun _ _ => .rfl, rfl, fun _ _ => .rfl, rfl, fun _ => rfl, rfl, rfl, rfl,
      fun bytes hmem => ?_⟩
    rcases List.mem_append.mp hmem with hmem | hmem
    · exact .inl hmem
    · right
      rwa [List.mem_singleton.mp hmem]
  · exact refl E

lemma modifyStream (id : UInt32) (i : ℕ) {f : MuxStream → MuxStream}
    (hf : ∀ m, (E.streams id)[i]? = some m → (f m).dropped = m.dropped) :
    Neutral E (E.modifyStream id i f) := by
  refine ⟨rfl, fun _ _ => .rfl, rfl, fun _ _ => .rfl, rfl, fun x => ?_, rfl, rfl, rfl,
    fun _ h => .inl h⟩
  refine List.ext_getElem? fun k => ?_
  simp only [Endpoint.modifyStream, List.getElem?_map, Lists.getElem?_update_modify]
  split_ifs with hchanged
  · obtain ⟨rfl, rfl⟩ := hchanged
    cases hk : (E.streams x)[k]? with
    | none => rfl
    | some m => simp [hf m hk]
  · rfl

lemma setSlot (id : UInt32) {slot : Option FlowSlot}
    (hold : ∀ j, E.flows id ≠ some (.requested j)) (hnew : ∀ j, slot ≠ some (.requested j)) :
    Neutral E (E.setSlot id slot) := by
  refine ⟨rfl, fun x j => ?_, rfl, fun _ _ => .rfl, rfl, fun _ => rfl, rfl, rfl, rfl,
    fun _ h => .inl h⟩
  by_cases hx : x = id
  · subst hx
    simp [Endpoint.setSlot, hold j, hnew j]
  · simp [Endpoint.setSlot, Function.update_of_ne hx]

lemma closePort (id : UInt32) (inhibit : Bool) (hslot : ∀ j, E.flows id ≠ some (.requested j)) :
    Neutral E (E.closePort id inhibit) := by
  unfold Endpoint.closePort
  split
  case h_2 => exact refl E
  case h_1 removed hremoved =>
    have hclosed : Neutral E (E.setSlot id none) := setSlot id hslot (by simp)
    refine hclosed.trans ?_
    cases removed with
    | requested j => exact absurd hremoved (hslot j)
    | bindRequested j =>
        exact ⟨rfl, fun _ _ => .rfl, rfl, fun _ _ => .rfl, rfl, fun _ => rfl, rfl, rfl, rfl,
          fun _ h => .inl h⟩
    | established d =>
        have hmod := modifyStream (E := E.setSlot id none) id d.stream
          (f := MuxStream.disallowWrite) fun _ _ => rfl
        simp only [closePortLocal]
        split_ifs
        · exact hmod.trans (send ⟨_, tryFrom_finalize rfl⟩)
        · exact hmod

lemma update {id : UInt32} {i : ℕ} {m m' : MuxStream} {sent : List Frame}
    (hm : (E.streams id)[i]? = some m) (hd : m'.dropped = m.dropped)
    (hsent : ∀ f ∈ sent, f.payload.isDatagram = false) : Neutral E (E.update id i m' sent) := by
  have hmod := modifyStream (E := E) id i (f := fun _ => m') fun n hn => by
    obtain rfl : m = n := by simpa [hm] using hn
    exact hd
  have hfold : ∀ (fs : List Frame), (∀ f ∈ fs, f.payload.isDatagram = false) → ∀ F : Endpoint,
      Neutral F (fs.foldl Endpoint.send F) := by
    intro fs
    induction fs with
    | nil => exact fun _ F => refl F
    | cons f fs ih =>
        intro hfs F
        have hf : Message.Good (.binary (finalize f)) := ⟨f, tryFrom_finalize (hfs f (by simp))⟩
        exact (send hf).trans (ih (fun g hg => hfs g (by simp [hg])) _)
  exact hmod.trans (hfold sent hsent _)

lemma calm (h : Neutral E E') (hE : E.Calm) : E'.Calm where
  running := h.phase.trans hE.running
  alive := h.muxAlive.trans hE.alive
  ports := h.ports.trans hE.ports
  frames bytes hmem := (h.frames bytes hmem).elim (hE.frames bytes) id
  streams x m hm := by
    have hmem : m.dropped ∈ (E'.streams x).map (·.dropped) := List.mem_map_of_mem hm
    rw [h.streams x] at hmem
    obtain ⟨m', hm', heq⟩ := List.mem_map.mp hmem
    rw [← heq]
    exact hE.streams x m' hm'
  calls x j c hc := by
    rw [h.requested]
    exact hE.calls x j c (by rwa [← h.calls])
  requested x j hj := by
    rw [h.calls]
    exact hE.requested x j ((h.requested x j).mp hj)

end Neutral

/-- The part of every id is the same after the step. -/
structure Keeps (E E' : Endpoint) (x : UInt32) : Prop where
  unused : E.Unused x → E'.Unused x
  opened : E.Opened x → E'.Opened x
  accepted : E.Accepted x → E'.Accepted x

lemma Neutral.keeps (h : Neutral E E') (x : UInt32) : Keeps E E' x := by
  have hlen : (E'.streams x).length = (E.streams x).length := by
    simpa using congrArg List.length (h.streams x)
  have hnil : E.streams x ≠ [] → E'.streams x ≠ [] := by
    simp only [ne_eq, ← List.length_eq_zero_iff, hlen, imp_self]
  refine ⟨fun hu => ⟨?_, ?_, ?_, ?_, ?_⟩, fun ho => ⟨hnil ho.streams, ?_, ?_, ?_⟩,
    fun ha => ⟨hnil ha.streams, ?_, ?_, ?_, ?_⟩⟩
  · simpa [← List.length_eq_zero_iff, hlen] using hu.streams
  · simpa [h.calls] using hu.calls
  · simpa [h.queue] using hu.queue
  · simpa [h.blocked] using hu.blocked
  · simpa [h.held] using hu.held
  · simpa [h.calls] using ho.call
  · simpa [h.queue] using ho.queue
  · simpa [h.blocked] using ho.blocked
  · simpa [h.calls] using ha.calls
  · simpa [h.queue] using ha.queue
  · simpa [h.blocked] using ha.blocked
  · simpa [h.queue, h.blocked, h.held] using ha.once

/-- What happens to one flow does not concern the others. -/
lemma keeps_of_eq (hcalls : E'.calls x = E.calls x) (hst : E'.streams x = E.streams x)
    (hqueue : E'.conRecvStream = E.conRecvStream) (hblocked : E'.blocked = E.blocked)
    (hheld : E'.held x = E.held x) : Keeps E E' x := by
  refine ⟨fun h => ⟨?_, ?_, ?_, ?_, ?_⟩, fun h => ⟨?_, ?_, ?_, ?_⟩, fun h => ⟨?_, ?_, ?_, ?_, ?_⟩⟩
  · rw [hst]; exact h.streams
  · rw [hcalls]; exact h.calls
  · rw [hqueue]; exact h.queue
  · rw [hblocked]; exact h.blocked
  · rw [hheld]; exact h.held
  · rw [hst]; exact h.streams
  · rw [hcalls]; exact h.call
  · rw [hqueue]; exact h.queue
  · rw [hblocked]; exact h.blocked
  · rw [hst]; exact h.streams
  · rw [hcalls]; exact h.calls
  · rw [hqueue]; exact h.queue
  · rw [hblocked]; exact h.blocked
  · have := h.once
    simpa [hqueue, hblocked, hheld] using this

/-! ### Calls -/

lemma calm_insertRequested (hE : E.Calm) {id : UInt32} (hslot : E.flows id = none) (host : Bytes)
    (port : UInt16) (n : ℕ) : (E.insertRequested id host port n).Calm := by
  refine ⟨hE.running, hE.alive, hE.ports, hE.frames, hE.streams, fun x j c hc => ?_, fun x j hj => ?_⟩
  · by_cases hx : x = id
    · subst hx
      simp only [insertRequested, setSlot, Function.update_self] at hc ⊢
      by_cases hlt : j < (E.calls x).length
      · rw [List.getElem?_append_left hlt] at hc
        have hold := (hE.calls x j c hc).1
        simp only [hslot, reduceCtorEq, iff_false] at hold
        refine ⟨⟨fun h => absurd h hold, fun h => ?_⟩, fun h => absurd h hold⟩
        simp at h
        omega
      · rw [List.getElem?_append_right (by omega)] at hc
        have hj : j = (E.calls x).length := by
          have := (List.getElem?_eq_some_iff.mp hc).1
          simp only [List.length_singleton] at this
          omega
        subst hj
        obtain rfl : _ = c := by simpa using hc
        simp [Stage.listening]
    · simp only [insertRequested, setSlot, Function.update_of_ne hx] at hc ⊢
      exact hE.calls x j c hc
  · by_cases hx : x = id
    · subst hx
      simp only [insertRequested, setSlot, Function.update_self, Option.some.injEq,
        FlowSlot.requested.injEq] at hj ⊢
      simp [hj]
    · simp only [insertRequested, setSlot, Function.update_of_ne hx] at hj ⊢
      exact hE.requested x j hj

/-- Neither does a new call change what has been given away. -/
lemma keeps_insertRequested (id : UInt32) (host : Bytes) (port : UInt16) (n : ℕ) (x : UInt32) :
    Keeps E (E.insertRequested id host port n) x := by
  by_cases hx : x = id
  swap
  · exact keeps_of_eq (by simp [insertRequested, Function.update_of_ne hx]) rfl rfl rfl rfl
  subst hx
  have hcalls : (E.insertRequested x host port n).calls x =
      E.calls x ++ [⟨host, port, n, .inserted, none⟩] := by simp [insertRequested]
  have hnone : (∀ c ∈ E.calls x, c.reply.join = none) →
      ∀ c ∈ (E.insertRequested x host port n).calls x, c.reply.join = none := by
    intro hall c hc
    rw [hcalls, List.mem_append, List.mem_singleton] at hc
    rcases hc with hc | rfl
    · exact hall c hc
    · rfl
  refine ⟨fun h => ⟨h.streams, hnone h.calls, h.queue, h.blocked, h.held⟩,
    fun h => ⟨h.streams, ?_, h.queue, h.blocked⟩,
    fun h => ⟨h.streams, hnone h.calls, h.queue, h.blocked, h.once⟩⟩
  obtain ⟨j, c, hc, hreply, huniq⟩ := h.call
  have hlt := (List.getElem?_eq_some_iff.mp hc).1
  refine ⟨j, c, by rw [hcalls, List.getElem?_append_left hlt, hc], hreply, fun k c' hk hne => ?_⟩
  by_cases hklt : k < (E.calls x).length
  · rw [hcalls, List.getElem?_append_left hklt] at hk
    exact huniq k c' hk hne
  · rw [hcalls, List.getElem?_append_right (by omega)] at hk
    obtain ⟨hlt', rfl⟩ := List.getElem?_eq_some_iff.mp hk
    simp at hne

lemma calm_modifyCall (hE : E.Calm) (id : UInt32) (j : ℕ) {f : StreamCall → StreamCall}
    (hreply : ∀ c, (f c).reply = c.reply)
    (hlisten : ∀ c, (E.calls id)[j]? = some c → c.reply = none → (f c).stage.listening = true) :
    (E.modifyCall id j f).Calm := by
  refine ⟨hE.running, hE.alive, hE.ports, hE.frames, hE.streams, fun x k c hc => ?_, fun x k hk => ?_⟩
  · simp only [modifyCall, Lists.getElem?_update_modify] at hc
    split_ifs at hc with hchanged
    · obtain ⟨rfl, rfl⟩ := hchanged
      obtain ⟨c', hc', rfl⟩ := Option.map_eq_some_iff.mp hc
      rw [hreply]
      exact ⟨(hE.calls x k c' hc').1, hlisten c' hc'⟩
    · exact hE.calls x k c hc
  · rw [modifyCall, Lists.length_update_modify]
    exact hE.requested x k hk

lemma keeps_modifyCall (id : UInt32) (j : ℕ) {f : StreamCall → StreamCall}
    (hreply : ∀ c, (f c).reply = c.reply) (x : UInt32) : Keeps E (E.modifyCall id j f) x := by
  have hget : ∀ (k : ℕ) (c : StreamCall), ((E.modifyCall id j f).calls x)[k]? = some c →
      ∃ c', (E.calls x)[k]? = some c' ∧ c'.reply = c.reply := by
    intro k c hc
    simp only [modifyCall, Lists.getElem?_update_modify] at hc
    split_ifs at hc with hchanged
    · obtain ⟨rfl, rfl⟩ := hchanged
      obtain ⟨c', hc', rfl⟩ := Option.map_eq_some_iff.mp hc
      exact ⟨c', hc', (hreply c').symm⟩
    · exact ⟨c, hc, rfl⟩
  have hnone : (∀ c ∈ E.calls x, c.reply.join = none) →
      ∀ c ∈ (E.modifyCall id j f).calls x, c.reply.join = none := by
    intro hall c hc
    obtain ⟨k, hk⟩ := List.mem_iff_getElem?.mp hc
    obtain ⟨c', hc', heq⟩ := hget k c hk
    rw [← heq]
    exact hall c' (List.mem_of_getElem? hc')
  refine ⟨fun h => ⟨h.streams, hnone h.calls, h.queue, h.blocked, h.held⟩,
    fun h => ⟨h.streams, ?_, h.queue, h.blocked⟩,
    fun h => ⟨h.streams, hnone h.calls, h.queue, h.blocked, h.once⟩⟩
  obtain ⟨k, c, hc, hsome, huniq⟩ := h.call
  have hlt : k < ((E.modifyCall id j f).calls x).length := by
    rw [modifyCall, Lists.length_update_modify]
    exact (List.getElem?_eq_some_iff.mp hc).1
  obtain ⟨c', hc', heq⟩ := hget k _ (List.getElem?_eq_getElem hlt)
  obtain rfl : c = c' := by simpa [hc] using hc'
  refine ⟨k, _, List.getElem?_eq_getElem hlt, by rw [← heq, hsome], fun k' d hd hne => ?_⟩
  obtain ⟨d', hd', heq'⟩ := hget k' d hd
  exact huniq k' d' hd' (by rwa [heq'])

lemma Keeps.trans (h : Keeps E F x) (h' : Keeps F E' x) : Keeps E E' x :=
  ⟨fun hu => h'.unused (h.unused hu), fun ho => h'.opened (h.opened ho),
    fun ha => h'.accepted (h.accepted ha)⟩

/-- Only the call that was given the stream takes it. -/
lemma keeps_hold {id : UInt32} {i j : ℕ} {c : StreamCall} (hc : (E.calls id)[j]? = some c)
    (hreply : c.reply = some (some i)) (x : UInt32) : Keeps E (E.hold id i) x := by
  by_cases hx : x = id
  · subst hx
    have hsome : (∀ c ∈ E.calls x, c.reply.join = none) → False := by
      intro hall
      simpa [hreply] using hall c (List.mem_of_getElem? hc)
    exact ⟨fun h => absurd h.calls hsome, fun h => ⟨h.streams, h.call, h.queue, h.blocked⟩,
      fun h => absurd h.calls hsome⟩
  · exact keeps_of_eq rfl rfl rfl rfl (by simp [hold, Function.update_of_ne hx])

lemma calm_stage (hE : E.Calm) (id : UInt32) (j : ℕ) {stage : Stage}
    (hlisten : ∀ c, (E.calls id)[j]? = some c → c.reply = none → stage.listening = true) :
    (E.modifyCall id j fun c => { c with stage := stage }).Calm ∧
      ∀ x, Keeps E (E.modifyCall id j fun c => { c with stage := stage }) x :=
  ⟨calm_modifyCall hE id j (fun _ => rfl) hlisten,
    keeps_modifyCall id j (f := fun c => { c with stage := stage }) fun _ => rfl⟩

lemma calm_answered (hE : E.Calm) {id : UInt32} {j : ℕ} {c : StreamCall}
    (hc : (E.calls id)[j]? = some c) (hreply : c.reply ≠ none) (stage : Stage) :
    (E.modifyCall id j fun c => { c with stage := stage }).Calm ∧
      ∀ x, Keeps E (E.modifyCall id j fun c => { c with stage := stage }) x := by
  refine calm_stage hE id j fun c' hc' hnone => ?_
  obtain rfl := Option.some.inj (hc.symm.trans hc')
  exact absurd hnone hreply

lemma calm_retryStream (hE : E.Calm) {id id' : UInt32} {j : ℕ} {c : StreamCall}
    (hc : (E.calls id)[j]? = some c) (hstage : c.stage = .rejected) (hnone : E.flows id' = none)
    (host : Bytes) (port : UInt16) (n : ℕ) :
    ((E.modifyCall id j fun c => { c with stage := .returned }).insertRequested id' host port
        n).Calm ∧
      ∀ x, Keeps E ((E.modifyCall id j fun c => { c with stage := .returned }).insertRequested id'
        host port n) x := by
  have hreply : c.reply ≠ none := by
    intro hreply
    have hlisten := (hE.calls id j c hc).2 hreply
    simp [hstage, Stage.listening] at hlisten
  obtain ⟨hcalm, hkeeps⟩ := calm_answered hE hc hreply .returned
  exact ⟨calm_insertRequested hcalm hnone host port n,
    fun x => (hkeeps x).trans (keeps_insertRequested _ _ _ _ x)⟩

/-! ### Hand-overs -/

lemma keeps_acceptStreamChannel {id : UInt32} {i : ℕ} {rest : List (UInt32 × ℕ)}
    (hqueue : E.conRecvStream = (id, i) :: rest) (x : UInt32) :
    Keeps E ({ E with conRecvStream := rest }.hold id i) x := by
  have hrest : ∀ p ∈ rest, p ∈ E.conRecvStream := by
    intro p hp
    rw [hqueue]
    exact List.mem_cons_of_mem _ hp
  by_cases hx : x = id
  · subst hx
    have hmem : (x, i) ∈ E.conRecvStream := by simp [hqueue]
    refine ⟨fun h => absurd rfl (h.queue _ hmem), fun h => absurd rfl (h.queue _ hmem),
      fun ha => ⟨ha.streams, ha.calls, fun p hp => ha.queue p (hrest p hp), ha.blocked, ?_⟩⟩
    obtain rfl : i = 0 := ha.queue _ hmem rfl
    have honce := ha.once
    rw [hqueue, List.count_cons_self] at honce
    have hheld : (({ E with conRecvStream := rest } : Endpoint).hold x 0).held x 0 = true := by
      simp [hold]
    rw [hheld]
    show rest.count (x, 0) + (decide (E.blocked = some (.stream x 0))).toNat + 1 = 1
    omega
  · have hheld : ({ E with conRecvStream := rest }.hold id i).held x = E.held x := by
      simp [hold, Function.update_of_ne hx]
    have hcount : rest.count (x, 0) = E.conRecvStream.count (x, 0) := by
      rw [hqueue, List.count_cons_of_ne]
      simp [Ne.symm hx]
    refine ⟨fun h => ⟨h.streams, h.calls, fun p hp => h.queue p (hrest p hp), h.blocked, ?_⟩,
      fun h => ⟨h.streams, h.call, fun p hp => h.queue p (hrest p hp), h.blocked⟩,
      fun h => ⟨h.streams, h.calls, fun p hp => h.queue p (hrest p hp), h.blocked, ?_⟩⟩
    · rw [hheld]
      exact h.held
    · rw [hheld]
      show rest.count (x, 0) + _ + _ = 1
      rw [hcount]
      exact h.once

lemma sendStream_eq (halive : E.muxAlive = true) (id : UInt32) (i : ℕ) :
    E.sendStream id i = ({ E with conRecvStream := E.conRecvStream ++ [(id, i)] }, .ready (.ok ())) ∨
    E.sendStream id i = ({ E with blocked := some (.stream id i) }, .pending) := by
  rw [sendStream, if_neg (by simp [halive])]
  split_ifs
  · exact .inl rfl
  · exact .inr rfl

lemma keeps_append {id : UInt32} (hx : x ≠ id) (i : ℕ) :
    Keeps E { E with conRecvStream := E.conRecvStream ++ [(id, i)] } x := by
  have hother : ∀ p ∈ E.conRecvStream ++ [(id, i)], p.1 = x → p ∈ E.conRecvStream := by
    intro p hp hpx
    rcases List.mem_append.mp hp with hp | hp
    · exact hp
    · rw [List.mem_singleton.mp hp] at hpx
      exact absurd hpx.symm hx
  have hcount : (E.conRecvStream ++ [(id, i)]).count (x, 0) = E.conRecvStream.count (x, 0) := by
    have hzero : [(id, i)].count (x, 0) = 0 := List.count_eq_zero.mpr (by simp [hx])
    rw [List.count_append, hzero, add_zero]
  refine ⟨fun hu => ⟨hu.streams, hu.calls, fun p hp hpx => ?_, hu.blocked, hu.held⟩,
    fun ho => ⟨ho.streams, ho.call, fun p hp hpx => ?_, ho.blocked⟩,
    fun ha => ⟨ha.streams, ha.calls, fun p hp hpx => ha.queue p (hother p hp hpx) hpx, ha.blocked, ?_⟩⟩
  · exact hu.queue p (hother p hp hpx) hpx
  · exact ho.queue p (hother p hp hpx) hpx
  · rw [hcount]
    exact ha.once

lemma keeps_block {b : Option Blocked} (hold : ∀ i, E.blocked ≠ some (.stream x i))
    (hnew : ∀ i, b ≠ some (.stream x i)) : Keeps E { E with blocked := b } x := by
  refine ⟨fun hu => ⟨hu.streams, hu.calls, hu.queue, hnew, hu.held⟩,
    fun ho => ⟨ho.streams, ho.call, ho.queue, hnew⟩,
    fun ha => ⟨ha.streams, ha.calls, ha.queue, fun i hi => absurd hi (hnew i), ?_⟩⟩
  have honce := ha.once
  simpa [hold 0, hnew 0] using honce

lemma keeps_enqueue {id : UInt32} {i : ℕ} (hb : E.blocked = some (.stream id i)) (x : UInt32) :
    Keeps E { E with blocked := none, conRecvStream := E.conRecvStream ++ [(id, i)] } x := by
  by_cases hx : x = id
  · subst hx
    refine ⟨fun hu => absurd hb (hu.blocked i), fun ho => absurd hb (ho.blocked i),
      fun ha => ⟨ha.streams, ha.calls, fun p hp hpx => ?_, by simp, ?_⟩⟩
    · rcases List.mem_append.mp hp with hp | hp
      · exact ha.queue p hp hpx
      · rw [List.mem_singleton.mp hp]
        exact ha.blocked i hb
    · have honce := ha.once
      obtain rfl := ha.blocked i hb
      simpa [hb] using honce
  · have hfree : Keeps E { E with blocked := none } x :=
      keeps_block (by simp [hb, Ne.symm hx]) (by simp)
    exact hfree.trans (keeps_append hx i)

lemma calm_resumeStream (hE : E.Calm) {id : UInt32} {i : ℕ}
    (hb : E.blocked = some (.stream id i)) :
    ({ E with blocked := none }.sendStream id i).1.Calm ∧
      ∀ x, Keeps E ({ E with blocked := none }.sendStream id i).1 x := by
  rcases sendStream_eq (E := { E with blocked := none }) hE.alive id i with heq | heq
  · rw [heq]
    exact ⟨⟨hE.running, hE.alive, hE.ports, hE.frames, hE.streams, hE.calls, hE.requested⟩,
      keeps_enqueue hb⟩
  · have hsame : ({ E with blocked := some (.stream id i) } : Endpoint) = E := by rw [← hb]
    rw [heq, hsame]
    exact ⟨hE, fun x => (Neutral.refl E).keeps x⟩

lemma neutral_sendBindRequest (halive : F.muxAlive = true) (h : Neutral E F)
    (hnone : ∀ x i, F.blocked ≠ some (.stream x i)) (id : UInt32) (i : ℕ) :
    Neutral E (F.sendBindRequest id i).1 := by
  refine h.trans ?_
  rw [sendBindRequest, if_neg (by simp [halive])]
  split_ifs <;>
    exact ⟨rfl, fun _ _ => .rfl, rfl, fun x i => by simp [hnone x i], rfl, fun _ => rfl, rfl, rfl,
      rfl, fun _ h => .inl h⟩

/-! ### Steps -/

lemma dropped_pollWrite (m : MuxStream) (id : UInt32) (tx : Bool) (buf : Bytes) :
    (m.pollWrite id tx buf).1.dropped = m.dropped := by
  rcases m.pollWrite_cases id tx buf with ⟨-, h⟩ | ⟨-, -, h⟩ | ⟨-, -, -, h⟩ | ⟨-, -, -, h⟩ <;> simp [h]

lemma dropped_shutdownInner (m : MuxStream) (id : UInt32) (tx : Bool) :
    (m.shutdownInner id tx).1.dropped = m.dropped := by
  unfold MuxStream.shutdownInner
  split_ifs <;> rfl

lemma dropped_pollFillBuf (m : MuxStream) (id : UInt32) (tx rx : Bool) :
    (m.pollFillBuf id tx rx).1.dropped = m.dropped := by
  rcases m.pollFillBuf_cases with hb | ⟨hb, hrx⟩ | ⟨next, rest, hb, hrx, hlt | hge⟩
  · simp [MuxStream.pollFillBuf_of_buf rx hb]
  · simp [MuxStream.pollFillBuf_of_empty rx hb hrx]
  · simp [MuxStream.pollFillBuf_of_lt rx hb hrx hlt]
  · simp [MuxStream.pollFillBuf_of_ge rx hb hrx hge]

lemma dropped_pollRead (m : MuxStream) (id : UInt32) (tx rx : Bool) (remaining : ℕ) :
    (m.pollRead id tx rx remaining).1.dropped = m.dropped := by
  have hdrop := dropped_pollFillBuf m id tx rx
  unfold MuxStream.pollRead
  rcases hfill : m.pollFillBuf id tx rx with ⟨m', sent, _ | _⟩ <;>
    simpa [hfill, MuxStream.consume] using hdrop

lemma neutral_pollWrite {id : UInt32} {i : ℕ} {m : MuxStream} (hown : E.owns id i = some m)
    (buf : Bytes) : Neutral E (E.update id i (m.pollWrite id E.txOpen buf).1
      (m.pollWrite id E.txOpen buf).2.1) :=
  .update (owns_eq hown).1 (dropped_pollWrite m id E.txOpen buf)
    fun f hf => ((sent_pollWrite m id E.txOpen buf).1 f hf).2

/-- The decoder of the peer takes a datagram with enough data. -/
lemma good_datagram {d : Datagram} (hhost : d.targetHost.length ≤ 255) (hlen : 4 ≤ d.data.length) :
    Message.Good (.binary (finalize
      (Frame.newDatagramOwned d.flowId d.targetHost d.targetPort d.data))) := by
  refine ⟨Frame.newDatagramOwned d.flowId d.targetHost d.targetPort d.data, ?_⟩
  have hfits :
      (Frame.newDatagramOwned d.flowId d.targetHost d.targetPort d.data).payload.HostFits := hhost
  obtain ⟨bytes, hbytes, -⟩ := Frame.toVec_length hfits
  have hback := Frame.tryFrom_toVec hbytes
  have hshort : ¬ (Frame.newDatagramOwned d.flowId d.targetHost d.targetPort
      d.data).payload.ShortDatagram := Nat.not_lt.mpr hlen
  rw [finalize_eq hbytes, hback, if_neg hshort]

lemma calm_act (hE : E.Calm) {a : Action} {out : List Message} (ha : a.Undisturbing)
    (h : E.act a = some (E', out)) :
    E'.Calm ∧ (∀ x, Keeps E E' x) ∧ ∀ msg ∈ out, msg.Good := by
  have hopen : E.txOpen = true := by simp [txOpen, hE.running, Phase.isOpen]
  have silent : ∀ {F : Endpoint}, F.Calm ∧ (∀ x, Keeps E F x) →
      F.Calm ∧ (∀ x, Keeps E F x) ∧ ∀ msg ∈ ([] : List Message), msg.Good :=
    fun h => ⟨h.1, h.2, by simp⟩
  have neutral : ∀ {F : Endpoint}, Neutral E F →
      F.Calm ∧ (∀ x, Keeps E F x) ∧ ∀ msg ∈ ([] : List Message), msg.Good :=
    fun hn => ⟨hn.calm hE, hn.keeps, by simp⟩
  cases acts h with
  -- calls
  | newStreamChannel host port halive hkey =>
      exact silent ⟨calm_insertRequested hE (keyAvailable_eq hkey).1 _ _ _,
        keeps_insertRequested _ _ _ _⟩
  | @connectSent id j c hc hstage htx =>
      have hstaged : (E.modifyCall id j fun c => { c with stage := .awaiting }).Calm ∧
          ∀ x, Keeps E (E.modifyCall id j fun c => { c with stage := .awaiting }) x :=
        calm_stage hE id j fun _ _ _ => rfl
      have hsend : Neutral (E.modifyCall id j fun c => { c with stage := .awaiting }) _ :=
        .send (f := Frame.newConnect c.host c.port id E.opts.rwnd) ⟨_, tryFrom_finalize rfl⟩
      exact silent ⟨hsend.calm hstaged.1, fun x => (hstaged.2 x).trans (hsend.keeps x)⟩
  | connectFails hc hstage hclosed => simp [hopen] at hclosed
  | connectFailsWith hc hstage hclosed => simp [hopen] at hclosed
  | @streamGiven id i j c hc hstage hreply =>
      obtain ⟨hcalm, hkeeps⟩ := calm_answered hE hc (by simp [hreply]) .returned
      refine silent ⟨⟨hcalm.running, hcalm.alive, hcalm.ports, hcalm.frames, hcalm.streams,
        hcalm.calls, hcalm.requested⟩, fun x => (hkeeps x).trans ?_⟩
      refine keeps_hold (j := j) (c := { c with stage := .returned }) ?_ hreply x
      simp [modifyCall, hc]
  | streamRejected hc hstage hreply => exact silent (calm_answered hE hc (by simp [hreply]) _)
  | senderGone hc hstage hreply hslot => exact absurd ((hE.calls _ _ _ hc).1.mp hreply) hslot
  | retryStream hc hstage hleft hkey =>
      exact silent (calm_retryStream hE hc hstage (keyAvailable_eq hkey).1 _ _ _)
  -- what the user takes and sends
  | acceptStreamChannel hqueue =>
      exact silent ⟨⟨hE.running, hE.alive, hE.ports, hE.frames, hE.streams, hE.calls,
        hE.requested⟩, keeps_acceptStreamChannel hqueue⟩
  | getDatagram hqueue =>
      exact neutral ⟨rfl, fun _ _ => .rfl, rfl, fun _ _ => .rfl, rfl, fun _ => rfl, rfl, rfl, rfl,
        fun _ h => .inl h⟩
  | sendDatagram halive hhost htx => exact neutral (.send (good_datagram hhost ha))
  | datagramRefused halive href => exact neutral (.refl E)
  -- handles
  | pollWrite buf hown => exact neutral (neutral_pollWrite hown buf)
  | copyPush hown hbuf => exact neutral (neutral_pollWrite hown _)
  | @pollShutdown id i m hown =>
      exact neutral (.update (owns_eq hown).1 (dropped_shutdownInner m id E.txOpen)
        fun f hf => ((sent_shutdownInner m id E.txOpen).1 f hf).2)
  | @pollFillBuf id i m hown =>
      exact neutral (.update (owns_eq hown).1 (dropped_pollFillBuf _ _ _ _)
        fun f hf => ((sent_pollFillBuf m id _ _).1 f hf).2)
  | consume hown hamt => exact neutral (.update (owns_eq hown).1 rfl (by simp))
  | @pollRead id i m remaining hown =>
      refine neutral (.update (owns_eq hown).1
        (dropped_pollRead m id E.txOpen (E.senderAlive id i) remaining) fun f hf => ?_)
      rw [sent_pollRead] at hf
      exact ((sent_pollFillBuf m id _ _).1 f hf).2
  -- the task
  | droppedZero hrun hports => simp [hE.ports] at hports
  | droppedPort hrun hports => simp [hE.ports] at hports
  | @sendFrame f rest hrun hframes =>
      have hn : Neutral E { E with txFrames := rest } :=
        ⟨rfl, fun _ _ => .rfl, rfl, fun _ _ => .rfl, rfl, fun _ => rfl, rfl, rfl, rfl,
          fun bytes hmem => .inl (hframes ▸ List.mem_cons_of_mem f hmem)⟩
      refine ⟨hn.calm hE, hn.keeps, fun msg hmsg => ?_⟩
      rw [List.mem_singleton.mp hmsg]
      exact hE.frames f (by simp [hframes])
  | tick hrun hkeep =>
      refine ⟨hE, (Neutral.refl E).keeps, fun msg hmsg => ?_⟩
      rw [List.mem_singleton.mp hmsg]
      trivial
  | resumeGone hrun hblocked hgone => simp [hE.alive] at hgone
  | resumeStream hrun hblocked halive => exact silent (calm_resumeStream hE hblocked)
  | resumeBind hrun hblocked =>
      have hfree : Neutral E { E with blocked := none } :=
        ⟨rfl, fun _ _ => .rfl, rfl, by simp [hblocked], rfl, fun _ => rfl, rfl, rfl, rfl,
          fun _ h => .inl h⟩
      exact neutral (neutral_sendBindRequest (F := { E with blocked := none }) hE.alive hfree
        (by simp) _ _)
  | _ => exact ha.elim

/-! ### Frames -/

lemma calm_addStream (hE : E.Calm) (id : UInt32) {m : MuxStream} (hm : m.dropped = false) :
    (E.addStream id m).Calm := by
  refine ⟨hE.running, hE.alive, hE.ports, hE.frames, fun x m' hm' => ?_, hE.calls, hE.requested⟩
  by_cases hx : x = id
  · subst hx
    simp only [addStream, Function.update_self, List.mem_append, List.mem_singleton] at hm'
    rcases hm' with hm' | rfl
    · exact hE.streams x m' hm'
    · exact hm
  · simp only [addStream, Function.update_of_ne hx] at hm'
    exact hE.streams x m' hm'

lemma calm_answer (hE : E.Calm) {id : UInt32} {j : ℕ} (hslot : E.flows id = some (.requested j))
    {slot : Option FlowSlot} (hnew : ∀ k, slot ≠ some (.requested k)) (r : Option ℕ) :
    ((E.setSlot id slot).modifyCall id j (StreamCall.answer r)).Calm := by
  refine ⟨hE.running, hE.alive, hE.ports, hE.frames, hE.streams, fun x k c hc => ?_,
    fun x k hk => ?_⟩
  · by_cases hx : x = id
    · subst hx
      have hfree : ∀ k, ((E.setSlot x slot).modifyCall x j (StreamCall.answer r)).flows x ≠
          some (.requested k) := fun k => by simpa [setSlot, modifyCall] using hnew k
      simp only [setSlot, modifyCall, Function.update_self, List.getElem?_modify] at hc
      obtain ⟨c', hc', rfl⟩ := Option.map_eq_some_iff.mp hc
      have hold := hE.calls x k c' hc'
      have hsome : (if j = k then StreamCall.answer r c' else c').reply ≠ none := by
        split_ifs with hjk
        · subst hjk
          have hlisten := hold.2 (hold.1.mpr hslot)
          simp [StreamCall.answer, hlisten]
        · rw [ne_eq, hold.1, hslot]
          simpa using hjk
      exact ⟨⟨fun h => absurd h hsome, fun h => absurd h (hfree k)⟩, fun h => absurd h hsome⟩
    · simp only [setSlot, modifyCall, Function.update_of_ne hx] at hc ⊢
      exact hE.calls x k c hc
  · by_cases hx : x = id
    · subst hx
      simp only [setSlot, modifyCall, Function.update_self] at hk
      exact absurd hk (hnew k)
    · simp only [setSlot, modifyCall, Function.update_of_ne hx] at hk ⊢
      exact hE.requested x k hk

lemma keeps_reject (hE : E.Calm) {id : UInt32} {j : ℕ} (hslot : E.flows id = some (.requested j))
    (x : UInt32) : Keeps E ((E.setSlot id none).modifyCall id j (StreamCall.answer none)) x := by
  by_cases hx : x = id
  swap
  · exact keeps_of_eq (by simp [setSlot, modifyCall, Function.update_of_ne hx]) rfl rfl rfl rfl
  subst hx
  have hcalls : ((E.setSlot x none).modifyCall x j (StreamCall.answer none)).calls x =
      (E.calls x).modify j (StreamCall.answer none) := by simp [setSlot, modifyCall]
  have hanswer : ∀ c : StreamCall, c.reply.join = none → (c.answer none).reply.join = none := by
    intro c hc
    unfold StreamCall.answer
    split_ifs
    · rfl
    · exact hc
  have hnone : (∀ c ∈ E.calls x, c.reply.join = none) →
      ∀ c ∈ (E.calls x).modify j (StreamCall.answer none), c.reply.join = none :=
    fun hall => Penguin.Lib.Lists.forall_mem_modify hall hanswer j
  refine ⟨fun h => ⟨h.streams, by rw [hcalls]; exact hnone h.calls, h.queue, h.blocked, h.held⟩,
    fun h => ⟨h.streams, ?_, h.queue, h.blocked⟩,
    fun h => ⟨h.streams, by rw [hcalls]; exact hnone h.calls, h.queue, h.blocked, h.once⟩⟩
  obtain ⟨k, c, hc, hsome, huniq⟩ := h.call
  rw [hcalls]
  -- the call with the stream has been answered before, so it is another one
  have hjk : j ≠ k := by
    rintro rfl
    have := (hE.calls x j c hc).1.mpr hslot
    simp [hsome] at this
  refine ⟨k, c, by simp [hjk, hc], hsome, fun k' c' hk' hne => ?_⟩
  rw [List.getElem?_modify] at hk'
  obtain ⟨d, hd, rfl⟩ := Option.map_eq_some_iff.mp hk'
  refine huniq k' d hd fun hd' => hne ?_
  split_ifs
  · exact hanswer d hd'
  · exact hd'

/-- A caller is given the first handle of the flow. -/
lemma opened_of_answer (hE : E.Calm) {j : ℕ} (hslot : E.flows x = some (.requested j))
    (hu : E.Unused x) (m : MuxStream) (slot : Option FlowSlot) :
    (((E.addStream x m).setSlot x slot).modifyCall x j
      (StreamCall.answer (some (E.streams x).length))).Opened x := by
  have hlt := hE.requested x j hslot
  have hget := List.getElem?_eq_getElem hlt
  have hlisten := (hE.calls x j _ hget).2 ((hE.calls x j _ hget).1.mpr hslot)
  refine ⟨by simp [setSlot, modifyCall, addStream],
    ⟨j, (E.calls x)[j].answer (some (E.streams x).length), ?_, ?_, fun k c' hk hne => ?_⟩,
    hu.queue, hu.blocked⟩
  · simp [setSlot, modifyCall, addStream, hlt]
  · simp [StreamCall.answer, hlisten, hu.streams]
  · simp only [setSlot, modifyCall, addStream, Function.update_self, List.getElem?_modify] at hk
    obtain ⟨d, hd, rfl⟩ := Option.map_eq_some_iff.mp hk
    by_contra hkj
    rw [if_neg (Ne.symm hkj)] at hne
    exact hne (hu.calls d (List.mem_of_getElem? hd))

/-- A handle that is new starts with the window `n`. -/
def Grants (E E' : Endpoint) (x : UInt32) (n : UInt32) : Prop :=
  ∀ m ∈ E'.streams x, m ∈ E.streams x ∨ m.pshSendRemaining = n

lemma grants_addStream {id : UInt32} {m : MuxStream} {n : UInt32} (hm : m.pshSendRemaining = n)
    (h : E'.streams id = (E.addStream id m).streams id) : Grants E E' id n := by
  intro m' hm'
  rw [h] at hm'
  simp only [addStream, Function.update_self, List.mem_append, List.mem_singleton] at hm'
  rcases hm' with hm' | rfl
  · exact .inl hm'
  · exact .inr hm

lemma calm_establish (hE : E.Calm) {id : UInt32} (hslot : E.flows id = none) {m : MuxStream}
    (hm : m.dropped = false) (n : UInt32) :
    ((E.establish id m).send (Frame.newAcknowledge id n)).Calm ∧
      (∀ x ≠ id, Keeps E ((E.establish id m).send (Frame.newAcknowledge id n)) x) := by
  have hslot' : Neutral (E.addStream id m) (E.establish id m) :=
    .setSlot id (by simp [addStream, hslot]) (by simp)
  have hsend : Neutral (E.establish id m) ((E.establish id m).send (Frame.newAcknowledge id n)) :=
    .send ⟨_, tryFrom_finalize rfl⟩
  refine ⟨hsend.calm (hslot'.calm (calm_addStream hE id hm)), fun x hx => ?_⟩
  have hadd : Keeps E (E.addStream id m) x :=
    keeps_of_eq rfl (by simp [addStream, Function.update_of_ne hx]) rfl rfl rfl
  exact (hadd.trans (hslot'.keeps x)).trans (hsend.keeps x)

/-- What is about to be handed over: the first handle of the flow, which nobody has yet. -/
structure Fresh (E : Endpoint) (x : UInt32) : Prop where
  streams : (E.streams x).length = 1
  calls : ∀ c ∈ E.calls x, c.reply.join = none
  queue : ∀ p ∈ E.conRecvStream, p.1 ≠ x
  held : E.held x 0 = false

lemma Unused.establish {id : UInt32} (h : E.Unused id) (m : MuxStream) (f : Frame) :
    ((E.establish id m).send f).Fresh id := by
  have hlength : (((E.establish id m).send f).streams id).length = 1 := by
    rw [streams_send]
    simp [setSlot, addStream, h.streams]
  unfold Endpoint.send at hlength ⊢
  split_ifs at hlength ⊢
  · exact ⟨hlength, h.calls, h.queue, h.held 0⟩
  · exact ⟨hlength, h.calls, h.queue, h.held 0⟩

/-- A stream that nobody has is handed over. -/
lemma Fresh.accepted {id : UInt32} (h : E.Fresh id) (halive : E.muxAlive = true)
    (hb : E.blocked = none) : (E.sendStream id 0).1.Accepted id := by
  have hne : E.streams id ≠ [] := by
    rw [ne_eq, ← List.length_eq_zero_iff, h.streams]
    simp
  have hzero : E.conRecvStream.count (id, 0) = 0 :=
    List.count_eq_zero.mpr fun hmem => h.queue _ hmem rfl
  rcases sendStream_eq halive id 0 with hres | hres <;> rw [hres]
  · refine ⟨hne, h.calls, fun p hp hpx => ?_, by simp [hb], by simp [hb, h.held, hzero]⟩
    rcases List.mem_append.mp hp with hp | hp
    · exact absurd hpx (h.queue p hp)
    · rw [List.mem_singleton.mp hp]
  · exact ⟨hne, h.calls, fun p hp hpx => absurd hpx (h.queue p hp), by simp,
      by simp [h.held, hzero]⟩

lemma calm_accept (hE : E.Calm) {id : UInt32} (hb : E.blocked = none) (hslot : E.flows id = none)
    {m : MuxStream} (hm : m.dropped = false) (n : UInt32) :
    (((E.establish id m).send (Frame.newAcknowledge id n)).sendStream id
        (E.streams id).length).1.Calm ∧
    (∀ x ≠ id, Keeps E (((E.establish id m).send (Frame.newAcknowledge id n)).sendStream id
        (E.streams id).length).1 x) ∧
    Grants E (((E.establish id m).send (Frame.newAcknowledge id n)).sendStream id
        (E.streams id).length).1 id m.pshSendRemaining ∧
    (E.Unused id → (((E.establish id m).send (Frame.newAcknowledge id n)).sendStream id
        (E.streams id).length).1.Accepted id) := by
  obtain ⟨hcalm, hkeeps⟩ := calm_establish hE hslot hm n
  have hfresh := fun hu : E.Unused id => hu.establish m (Frame.newAcknowledge id n)
  have hstreams : ((E.establish id m).send (Frame.newAcknowledge id n)).streams id =
      (E.addStream id m).streams id := by
    rw [streams_send]
    rfl
  have hblocked : ((E.establish id m).send (Frame.newAcknowledge id n)).blocked = none := by
    unfold send
    split_ifs <;> exact hb
  have haccepted : E.Unused id → (((E.establish id m).send
      (Frame.newAcknowledge id n)).sendStream id (E.streams id).length).1.Accepted id := by
    intro hu
    rw [hu.streams]
    exact (hfresh hu).accepted hcalm.alive hblocked
  generalize (E.establish id m).send (Frame.newAcknowledge id n) = G at *
  refine ⟨?_, fun x hx => (hkeeps x hx).trans ?_, ?_, haccepted⟩ <;>
    rcases sendStream_eq hcalm.alive id (E.streams id).length with hres | hres <;> rw [hres]
  · exact ⟨hcalm.running, hcalm.alive, hcalm.ports, hcalm.frames, hcalm.streams, hcalm.calls,
      hcalm.requested⟩
  · exact ⟨hcalm.running, hcalm.alive, hcalm.ports, hcalm.frames, hcalm.streams, hcalm.calls,
      hcalm.requested⟩
  · exact keeps_append hx _
  · exact keeps_block (by simp [hblocked]) (by simp [Ne.symm hx])
  · exact grants_addStream (m := m) rfl hstreams
  · exact grants_addStream (m := m) rfl hstreams

/-- What a frame can be to the users: nothing, a stream for `accept_stream_channel`, or a stream
for the caller whose slot is waiting. -/
lemma Handles.calm {f : Frame} {r : Poll (Except Error Unit)} (h : E.Handles false f E' r)
    (hE : E.Calm) (hb : E.blocked = none)
    (hfin : f.payload = .finish → ∀ j, E.flows f.id ≠ some (.requested j)) :
    E'.Calm ∧ ∀ x, Keeps E E' x ∨
      (x = f.id ∧ (∃ p, f.payload = .connect p ∧ Grants E E' x p.rwnd) ∧
        E.flows x = none ∧ (E.Unused x → E'.Accepted x)) ∨
      (x = f.id ∧ (∃ n, f.payload = .acknowledge n ∧ Grants E E' x n) ∧
        (∃ j, E.flows x = some (.requested j)) ∧ (E.Unused x → E'.Opened x)) := by
  have hopen : E.txOpen = true := by simp [txOpen, hE.running, Phase.isOpen]
  have keep : ∀ {F : Endpoint} {A B : UInt32 → Prop}, Neutral E F →
      F.Calm ∧ ∀ x, Keeps E F x ∨ A x ∨ B x :=
    fun hn => ⟨hn.calm hE, fun x => .inl (hn.keeps x)⟩
  cases h with
  | @connect id p hslot htx =>
      obtain ⟨hcalm, hkeeps, hgrants, hacc⟩ := calm_accept hE hb hslot
        (m := newStreamShared E.opts p.rwnd p.targetHost p.targetPort) rfl E.opts.rwnd
      refine ⟨hcalm, fun x => ?_⟩
      by_cases hx : x = id
      · subst hx
        exact .inr (.inl ⟨rfl, ⟨p, rfl, hgrants⟩, hslot, hacc⟩)
      · exact .inl (hkeeps x hx)
  | connectClosed p hslot hclosed => simp [hopen] at hclosed
  | @ackRequested id j n hslot hlistens =>
      refine ⟨calm_answer (calm_addStream hE id rfl) hslot (by simp) _, fun x => ?_⟩
      by_cases hx : x = id
      · subst hx
        exact .inr (.inr ⟨rfl, ⟨n, rfl, grants_addStream rfl rfl⟩, ⟨j, hslot⟩,
          fun hu => opened_of_answer hE hslot hu _ _⟩)
      · left
        exact keeps_of_eq (by simp [modifyCall, setSlot, addStream, Function.update_of_ne hx])
          (by simp [modifyCall, setSlot, addStream, Function.update_of_ne hx]) rfl rfl rfl
  | @ackGone id j n hslot hgone =>
      have hget := List.getElem?_eq_getElem (hE.requested id j hslot)
      have hlisten := (hE.calls id j _ hget).2 ((hE.calls id j _ hget).1.mpr hslot)
      simp [hget, hlisten] at hgone
  | finishRequested hslot => exact absurd hslot (hfin rfl _)
  | reset id =>
      by_cases hreq : ∃ j, E.flows id = some (.requested j)
      · obtain ⟨j, hslot⟩ := hreq
        have heq : E.closePort id true =
            (E.setSlot id none).modifyCall id j (StreamCall.answer none) := by
          simp [closePort, hslot, closePortLocal]
        rw [heq]
        exact ⟨calm_answer hE hslot (by simp) none, fun x => .inl (keeps_reject hE hslot x)⟩
      · exact keep (.closePort id true fun j hj => hreq ⟨j, hj⟩)
  | connectUsed | ackBogus | finishBogus | pushBogus | bindOff =>
      exact keep (.send ⟨_, tryFrom_finalize rfl⟩)
  | @ackEstablished id d => exact keep (.modifyStream id d.stream fun _ _ => rfl)
  | @finishBind id j hslot =>
      have hclosed : Neutral E (E.setSlot id none) := .setSlot id (hfin rfl) (by simp)
      exact keep (hclosed.trans ⟨rfl, fun _ _ => .rfl, rfl, fun _ _ => .rfl, rfl, fun _ => rfl, rfl,
        rfl, rfl, fun _ h => .inl h⟩)
  | @finishEstablished id => exact keep (.setSlot id (hfin rfl) (by simp))
  | @push id i => exact keep (.modifyStream id i fun _ _ => rfl)
  | @pushFull id i m data hslot => exact keep (.closePort id false (by simp [hslot]))
  | @bind id p =>
      have hadd : Neutral E (E.addBind id p) := ⟨rfl, fun _ _ => .rfl, rfl, fun _ _ => .rfl, rfl,
        fun _ => rfl, rfl, rfl, rfl, fun _ h => .inl h⟩
      exact keep (neutral_sendBindRequest (F := E.addBind id p) hE.alive hadd
        (by simp [addBind, hb]) _ _)
  | datagram => exact keep ⟨rfl, fun _ _ => .rfl, rfl, fun _ _ => .rfl, rfl, fun _ => rfl, rfl, rfl,
      rfl, fun _ h => .inl h⟩
  | pushClosed | bindIgnored | datagramGone | datagramLost => exact keep (.refl E)

/-- What a message that arrives does to the callers: an accepted `Connect` hands a stream over,
an acknowledgement gives it to the caller that has asked for it. -/
lemma calm_recv (hE : E.Calm) {msg : Message} (hmsg : msg.Good)
    (hfin : ∀ x, msg.onFlow x = some .finish → ∀ j, E.flows x ≠ some (.requested j))
    (h : E.recv msg = some E') : E'.Calm ∧ ∀ x, Keeps E E' x ∨
      ((∃ p, msg.onFlow x = some (.connect p) ∧ Grants E E' x p.rwnd) ∧ E.flows x = none ∧
        (E.Unused x → E'.Accepted x)) ∨
      ((∃ n, msg.onFlow x = some (.acknowledge n) ∧ Grants E E' x n) ∧
        (∃ j, E.flows x = some (.requested j)) ∧ (E.Unused x → E'.Opened x)) := by
  obtain ⟨hrun, hb, rfl⟩ | ⟨res, hph, -⟩ := recv_cases h
  swap
  · simp [hE.running] at hph
  cases msg with
  | ping | pong => exact ⟨hE, fun x => .inl ((Neutral.refl E).keeps x)⟩
  | close => exact hmsg.elim
  | binary bytes =>
      obtain ⟨f, hdec⟩ := hmsg
      have honFlow : ∀ p, f.payload = p → p.isDatagram = false →
          (Message.binary bytes).onFlow f.id = some p := by
        rintro p rfl hp
        simp [Message.onFlow, Mux.onFlow, hdec, hp]
      -- every caller is still there, so nothing fails
      have horph : ¬ E.OrphanAck f := by
        rintro ⟨-, j, hj, hgone⟩
        have hget := List.getElem?_eq_getElem (hE.requested f.id j hj)
        have hlisten := (hE.calls f.id j _ hget).2 ((hE.calls f.id j _ hget).1.mpr hj)
        simp [hget, hlisten] at hgone
      have hopen : E.txOpen = true := by simp [txOpen, hE.running, Phase.isOpen]
      have hgoes : (E.processMessage (.binary bytes) false).1.afterMessage
          (E.processMessage (.binary bytes) false).2 = (E.processFrame f false).1 := by
        have halt := processFrame_alive hE.alive hopen f false
        rcases hproc : E.processFrame f false with ⟨F, r⟩
        rw [hproc] at halt
        rcases halt with ⟨-, rfl | ⟨rfl, -⟩⟩ | ⟨hno, -⟩
        · simp [processMessage, hdec, hproc, afterMessage]
        · simp [processMessage, hdec, hproc, afterMessage]
        · exact absurd hno horph
      rw [hgoes]
      obtain ⟨hcalm, hall⟩ := (E.handles f false).calm hE hb fun hp => hfin f.id (honFlow _ hp rfl)
      refine ⟨hcalm, fun x => ?_⟩
      rcases hall x with hkeeps | ⟨rfl, ⟨p, hp, hg⟩, hrest⟩ | ⟨rfl, ⟨n, hn, hg⟩, hrest⟩
      · exact .inl hkeeps
      · exact .inr (.inl ⟨⟨p, honFlow _ hp rfl, hg⟩, hrest⟩)
      · exact .inr (.inr ⟨⟨n, honFlow _ hn rfl, hg⟩, hrest⟩)

lemma calm_new (opts : Options) : (new opts).Calm where
  running := rfl
  alive := rfl
  ports := rfl
  frames := by simp [new]
  streams := by simp [new]
  calls := by simp [new]
  requested := by simp [new]

lemma unused_new (opts : Options) (x : UInt32) : (new opts).Unused x where
  streams := rfl
  calls := by simp [new]
  queue := by simp [new]
  blocked := by simp [new]
  held _ := rfl

end Endpoint

end Penguin.Mux
