import Penguin.Mux.Conn
import Penguin.Mux.History

/-!
What waits for the user of a `Multiplexor`.

The streams, bind requests and datagrams of the peer are put into queues, from which the user takes
them. Most steps leave these queues as they are, and nothing that they queue for the peer is made
for its user. The steps that do otherwise are listed here.
-/

namespace Penguin.Mux

open Penguin.Lib.Lists

/-- The frame makes something for the user of the peer. -/
def Payload.forUser : Payload → Bool
  | .connect _ | .bind _ | .datagram _ => true
  | _ => false

/-- The operations on a handle of the flow. -/
def Action.operates (x : UInt32) : Action → Bool
  | .pollWrite id _ _ | .copyPush id _ _ | .pollShutdown id _ | .pollFillBuf id _ | .consume id _ _
  | .pollRead id _ _ => id == x
  | _ => false

/-- Where the stream of a handle goes. -/
def MuxStream.dest (m : MuxStream) : Bytes × UInt16 := (m.destHost, m.destPort)

namespace MuxStream

variable (m : MuxStream) (id : UInt32) (tx rx : Bool)

lemma dest_pollWrite (buf : Bytes) : (m.pollWrite id tx buf).1.dest = m.dest := by
  obtain ⟨-, h⟩ | ⟨-, -, h⟩ | ⟨-, -, -, h⟩ | ⟨-, -, -, h⟩ := m.pollWrite_cases id tx buf <;>
    simp [h, dest]

lemma dest_shutdownInner : (m.shutdownInner id tx).1.dest = m.dest := by
  unfold shutdownInner
  split_ifs <;> rfl

lemma dest_pollFillBuf : (m.pollFillBuf id tx rx).1.dest = m.dest := by
  obtain hb | ⟨hb, hrx⟩ | ⟨next, rest, hb, hrx, hlt | hge⟩ := m.pollFillBuf_cases
  · rw [pollFillBuf_of_buf rx hb]
  · rw [pollFillBuf_of_empty rx hb hrx]
  · rw [pollFillBuf_of_lt rx hb hrx hlt]
    rfl
  · rw [pollFillBuf_of_ge rx hb hrx hge]
    rfl

lemma dest_pollRead (remaining : ℕ) : (m.pollRead id tx rx remaining).1.dest = m.dest := by
  rw [← m.dest_pollFillBuf id tx rx]
  unfold pollRead
  split <;> rename_i heq <;> simp [heq, consume, dest]

/-- What the operations queue is for the peer itself. -/
lemma forUser_pollWrite (buf : Bytes) :
    ∀ f ∈ (m.pollWrite id tx buf).2.1, f.payload.forUser = false := by
  obtain ⟨-, h⟩ | ⟨-, -, h⟩ | ⟨-, -, -, h⟩ | ⟨-, -, -, h⟩ := m.pollWrite_cases id tx buf <;>
    rw [h] <;> simp [Frame.newPush, Payload.forUser]

lemma forUser_shutdownInner : ∀ f ∈ (m.shutdownInner id tx).2.1, f.payload.forUser = false := by
  unfold shutdownInner
  split_ifs <;> simp [Frame.newFinish, Payload.forUser]

lemma forUser_pollFillBuf : ∀ f ∈ (m.pollFillBuf id tx rx).2.1, f.payload.forUser = false := by
  intro f hf
  obtain ⟨n, rfl⟩ := (m.filled id tx rx).acks f hf
  rfl

lemma forUser_pollRead (remaining : ℕ) :
    ∀ f ∈ (m.pollRead id tx rx remaining).2.1, f.payload.forUser = false := by
  have h := m.forUser_pollFillBuf id tx rx
  unfold pollRead
  split <;> rename_i heq <;> rw [heq] at h <;> exact h

end MuxStream

/-- Something about the handles of some flows that the task does not change. -/
structure Watch where
  κ : Type
  on : UInt32 → Prop
  key : MuxStream → κ
  stable : ∀ m m' : MuxStream, m'.dest = m.dest → m'.taken = m.taken → m'.written = m.written →
    key m' = key m

namespace Watch

/-- Where the streams go. -/
def dests : Watch := ⟨Bytes × UInt16, fun _ => True, MuxStream.dest, fun _ _ h _ _ => h⟩

/-- What has been read from and written to the streams of one flow. -/
def record (x : UInt32) : Watch :=
  ⟨Bytes × Bytes, (· = x), fun m => (m.taken, m.written), fun _ _ _ h h' => by rw [h, h']⟩

/-- The action does not change it either. -/
def Permits (w : Watch) (a : Action) : Prop :=
  ∀ id, a.operates id = true → w.on id → ∀ m m' : MuxStream, m'.dest = m.dest → w.key m' = w.key m

lemma dests_permits (a : Action) : dests.Permits a := fun _ _ _ _ _ h => h

end Watch

namespace Endpoint

variable {E E' F : Endpoint} {us us' : List Frame} {w : Watch}

def watched (E : Endpoint) (w : Watch) (id : UInt32) : List w.κ := (E.streams id).map w.key

def dests (E : Endpoint) (id : UInt32) : List (Bytes × UInt16) := (E.streams id).map (·.dest)

def payloads (E : Endpoint) (id : UInt32) : List BindPayload := (E.binds id).map (·.payload)

/-- What waits for the user is the same; of the frames that were queued `us` are for the user of
the peer. -/
structure Spares (w : Watch) (E : Endpoint) (us : List Frame) (E' : Endpoint) : Prop where
  opts : E'.opts = E.opts
  muxAlive : E'.muxAlive = E.muxAlive
  conRecvStream : E'.conRecvStream = E.conRecvStream
  bndRequests : E'.bndRequests = E.bndRequests
  datagrams : E'.datagrams = E.datagrams
  /-- As long as the task runs, it waits for room as before. -/
  waits : E'.phase = .running → E.phase = .running ∧ E'.blocked = E.blocked
  streams : ∀ id, w.on id → E.watched w id <+: E'.watched w id
  payloads : ∀ id, E.payloads id <+: E'.payloads id
  posts : ∃ fs : List Frame, E'.txFrames = E.txFrames ++ fs.map finalize ∧
    fs.filter (·.payload.forUser) = us

namespace Spares

lemma of_eq (hopts : E'.opts = E.opts) (halive : E'.muxAlive = E.muxAlive)
    (hcon : E'.conRecvStream = E.conRecvStream) (hbnd : E'.bndRequests = E.bndRequests)
    (hdatagrams : E'.datagrams = E.datagrams)
    (hwaits : E'.phase = .running → E.phase = .running ∧ E'.blocked = E.blocked)
    (hstreams : ∀ id, w.on id → E'.watched w id = E.watched w id)
    (hbinds : ∀ id, E'.payloads id = E.payloads id)
    (hframes : E'.txFrames = E.txFrames) : Spares w E [] E' :=
  ⟨hopts, halive, hcon, hbnd, hdatagrams, hwaits, fun id hon => hstreams id hon ▸ List.prefix_rfl,
    fun id => hbinds id ▸ List.prefix_rfl, [], by simpa using hframes, rfl⟩

lemma of_same (hopts : E'.opts = E.opts) (halive : E'.muxAlive = E.muxAlive)
    (hcon : E'.conRecvStream = E.conRecvStream) (hbnd : E'.bndRequests = E.bndRequests)
    (hdatagrams : E'.datagrams = E.datagrams)
    (hwaits : E'.phase = .running → E.phase = .running ∧ E'.blocked = E.blocked)
    (hstreams : E'.streams = E.streams) (hbinds : E'.binds = E.binds)
    (hframes : E'.txFrames = E.txFrames) : Spares w E [] E' :=
  .of_eq hopts halive hcon hbnd hdatagrams hwaits
    (fun id _ => by rw [Endpoint.watched, Endpoint.watched, hstreams])
    (fun id => by rw [Endpoint.payloads, Endpoint.payloads, hbinds]) hframes

lemma refl (E : Endpoint) : Spares w E [] E :=
  .of_same rfl rfl rfl rfl rfl (⟨·, rfl⟩) rfl rfl rfl

lemma trans (h : Spares w E us F) (h' : Spares w F us' E') : Spares w E (us ++ us') E' where
  opts := h'.opts.trans h.opts
  muxAlive := h'.muxAlive.trans h.muxAlive
  conRecvStream := h'.conRecvStream.trans h.conRecvStream
  bndRequests := h'.bndRequests.trans h.bndRequests
  datagrams := h'.datagrams.trans h.datagrams
  waits hrun := by
    obtain ⟨hF, hb'⟩ := h'.waits hrun
    obtain ⟨hE, hb⟩ := h.waits hF
    exact ⟨hE, hb'.trans hb⟩
  streams id hon := (h.streams id hon).trans (h'.streams id hon)
  payloads id := (h.payloads id).trans (h'.payloads id)
  posts := by
    obtain ⟨fs, hfs, rfl⟩ := h.posts
    obtain ⟨gs, hgs, rfl⟩ := h'.posts
    exact ⟨fs ++ gs, by simp [hgs, hfs], by simp⟩

/-- A quiet step behind another. -/
lemma andThen (h : Spares w E us F) (h' : Spares w F [] E') : Spares w E us E' := by
  simpa using h.trans h'

lemma foldl {α : Type} {f : Endpoint → α → Endpoint} {l : List α}
    (hf : ∀ F, ∀ a ∈ l, Spares w F [] (f F a)) (F : Endpoint) : Spares w F [] (l.foldl f F) := by
  induction l generalizing F with
  | nil => exact refl F
  | cons a l ih =>
      have hrest := ih fun F b hb => hf F b (List.mem_cons_of_mem a hb)
      exact (hf F a (by simp)).andThen (hrest _)

/-! ### Small steps -/

lemma post (f : Frame) :
    Spares w E (if E.txOpen && f.payload.forUser then [f] else []) (E.send f) := by
  unfold Endpoint.send
  by_cases hopen : E.txOpen = true
  · rw [if_pos hopen]
    refine ⟨rfl, rfl, rfl, rfl, rfl, (⟨·, rfl⟩), fun _ _ => List.prefix_rfl,
      fun _ => List.prefix_rfl,
      [f], rfl, ?_⟩
    by_cases hf : f.payload.forUser = true <;> simp [hopen, hf]
  · rw [if_neg hopen]
    simpa [hopen] using refl E

lemma send {f : Frame} (hf : f.payload.forUser = false) : Spares w E [] (E.send f) := by
  simpa [hf] using post (E := E) f

lemma modifyStream (id : UInt32) (i : ℕ) {f : MuxStream → MuxStream}
    (hf : w.on id → ∀ m, (E.streams id)[i]? = some m → w.key (f m) = w.key m) :
    Spares w E [] (E.modifyStream id i f) := by
  refine .of_eq rfl rfl rfl rfl rfl (⟨·, rfl⟩) (fun x hon => ?_) (fun _ => rfl) rfl
  by_cases hx : x = id
  · subst hx
    simp only [Endpoint.watched, Endpoint.modifyStream, Function.update_self]
    refine List.ext_getElem? fun k => ?_
    rw [List.getElem?_map, List.getElem?_map, List.getElem?_modify]
    split_ifs with hk
    · subst hk
      cases hm : (E.streams x)[i]? with
      | none => rfl
      | some m => simp [hf hon m hm]
    · simp
  · simp [Endpoint.watched, Endpoint.modifyStream, Function.update_of_ne hx]

/-- The task works on a handle. -/
lemma tend (id : UInt32) (i : ℕ) {f : MuxStream → MuxStream}
    (hdest : ∀ m, (f m).dest = m.dest) (htaken : ∀ m, (f m).taken = m.taken)
    (hwritten : ∀ m, (f m).written = m.written) : Spares w E [] (E.modifyStream id i f) :=
  modifyStream id i fun _ m _ => w.stable m (f m) (hdest m) (htaken m) (hwritten m)

lemma modifyBind (id : UInt32) (i : ℕ) :
    Spares w E [] (E.modifyBind id i fun b => { b with dropped := true }) := by
  refine .of_eq rfl rfl rfl rfl rfl (⟨·, rfl⟩) (fun _ _ => rfl) (fun x => ?_) rfl
  by_cases hx : x = id
  · subst hx
    simp only [Endpoint.payloads, Endpoint.modifyBind, Function.update_self]
    refine List.ext_getElem? fun k => ?_
    rw [List.getElem?_map, List.getElem?_map, List.getElem?_modify]
    split_ifs with hk
    · cases (E.binds x)[k]? <;> rfl
    · simp
  · simp [Endpoint.payloads, Endpoint.modifyBind, Function.update_of_ne hx]

lemma addStream (id : UInt32) (m : MuxStream) : Spares w E [] (E.addStream id m) := by
  refine ⟨rfl, rfl, rfl, rfl, rfl, (⟨·, rfl⟩), fun x _ => ?_, fun _ => List.prefix_rfl, [], by
    simp [Endpoint.addStream], rfl⟩
  by_cases hx : x = id
  · subst hx
    simp [Endpoint.watched, Endpoint.addStream]
  · simp [Endpoint.watched, Endpoint.addStream, Function.update_of_ne hx]

lemma addBind (id : UInt32) (p : BindPayload) : Spares w E [] (E.addBind id p) := by
  refine ⟨rfl, rfl, rfl, rfl, rfl, (⟨·, rfl⟩), fun _ _ => List.prefix_rfl, fun x => ?_, [], by
    simp [Endpoint.addBind], rfl⟩
  by_cases hx : x = id
  · subst hx
    simp [Endpoint.payloads, Endpoint.addBind]
  · simp [Endpoint.payloads, Endpoint.addBind, Function.update_of_ne hx]

lemma dropStream (id : UInt32) (i : ℕ) : Spares w E [] (E.dropStream id i) := by
  have hports : ∀ (F : Endpoint) ports, Spares w F [] { F with droppedPorts := ports } :=
    fun _ _ => .of_same rfl rfl rfl rfl rfl (⟨·, rfl⟩) rfl rfl rfl
  have hmod : Spares w E []
      (E.modifyStream id i fun m => { m with dropped := true, frameRx := [], buf := [] }) :=
    tend id i (fun _ => rfl) (fun _ => rfl) fun _ => rfl
  unfold Endpoint.dropStream
  split
  · split_ifs
    · exact refl E
    all_goals exact hmod.andThen (hports _ _)
  · exact refl E

lemma dropBind (id : UInt32) (i : ℕ) : Spares w E [] (E.dropBind id i) := by
  unfold Endpoint.dropBind
  split
  · split_ifs
    · exact refl E
    · exact (modifyBind id i).andThen (send rfl)
  · exact refl E

lemma update (id : UInt32) (i : ℕ) {m m' : MuxStream} {sent : List Frame}
    (hm : (E.streams id)[i]? = some m) (hkey : w.on id → w.key m' = w.key m)
    (hsent : ∀ f ∈ sent, f.payload.forUser = false) : Spares w E [] (E.update id i m' sent) := by
  have hmod : Spares w E [] (E.modifyStream id i fun _ => m') := by
    refine modifyStream id i fun hon m₁ hm₁ => ?_
    obtain rfl := Option.some.inj (hm.symm.trans hm₁)
    exact hkey hon
  exact hmod.andThen (foldl (fun _ f hf => send (hsent f hf)) _)

end Spares

/-! ### The task -/

lemma spares_closePort (id : UInt32) (inhibitRst : Bool) :
    Spares w E [] (E.closePort id inhibitRst) := by
  have hslot : Spares w E [] (E.setSlot id none) :=
    .of_same rfl rfl rfl rfl rfl (⟨·, rfl⟩) rfl rfl rfl
  have hcalls : ∀ (F : Endpoint) calls, Spares w F [] { F with calls := calls } :=
    fun _ _ => .of_same rfl rfl rfl rfl rfl (⟨·, rfl⟩) rfl rfl rfl
  have hbindCalls : ∀ (F : Endpoint) calls, Spares w F [] { F with bindCalls := calls } :=
    fun _ _ => .of_same rfl rfl rfl rfl rfl (⟨·, rfl⟩) rfl rfl rfl
  unfold closePort
  split
  case h_2 => exact .refl E
  case h_1 removed _ =>
    refine hslot.andThen ?_
    unfold closePortLocal
    cases removed with
    | requested j => exact hcalls _ _
    | bindRequested j => exact hbindCalls _ _
    | established d =>
        have hmod : ∀ F : Endpoint, Spares w F []
            (F.modifyStream id d.stream MuxStream.disallowWrite) :=
          fun _ => .tend id d.stream (fun _ => rfl) (fun _ => rfl) fun _ => rfl
        dsimp only
        split_ifs
        · exact (hmod _).andThen (.send rfl)
        · exact hmod _

lemma watched_disallow (w : Watch) (g : UInt32 → Option FlowSlot)
    (streams : UInt32 → List MuxStream) (id : UInt32) : ((match g id with
      | some (.established d) => (streams id).modify d.stream MuxStream.disallowWrite
      | _ => streams id).map w.key) = (streams id).map w.key := by
  split
  · refine List.ext_getElem? fun k => ?_
    rw [List.getElem?_map, List.getElem?_map, List.getElem?_modify]
    split_ifs
    · cases hm : (streams id)[k]? with
      | none => rfl
      | some m => simp [w.stable m m.disallowWrite rfl rfl rfl]
    · simp
  · rfl

lemma spares_disallowWrites : Spares w E [] E.disallowWrites :=
  .of_eq rfl rfl rfl rfl rfl (⟨·, rfl⟩) (fun id _ => watched_disallow w E.flows E.streams id)
    (fun _ => rfl) rfl

lemma spares_phase {ph : Phase} (hph : ph ≠ .running) : Spares w E [] { E with phase := ph } :=
  .of_same rfl rfl rfl rfl rfl (fun h => absurd h hph) rfl rfl rfl

/-- Once the task does not run any more, what it was waiting for does not matter. -/
lemma Spares.ended (h : Spares w { E with blocked := none } us E') (hph : E'.phase ≠ .running) :
    Spares w E us E' where
  opts := h.opts
  muxAlive := h.muxAlive
  conRecvStream := h.conRecvStream
  bndRequests := h.bndRequests
  datagrams := h.datagrams
  waits hrun := absurd hrun hph
  streams := h.streams
  payloads := h.payloads
  posts := h.posts

lemma spares_startWindDown (drain : Bool) (res : Except Error Unit) :
    Spares w E [] (E.startWindDown drain res) := by
  have hrest : ∀ F : Endpoint,
      Spares w F [] { F.disallowWrites with phase := .yielding drain res } :=
    fun F => spares_disallowWrites.andThen (spares_phase (by simp))
  have hph : (E.startWindDown drain res).phase ≠ .running := by simp [startWindDown]
  unfold startWindDown cancelNext at hph ⊢
  cases hb : E.blocked with
  | none => exact hrest E
  | some b =>
      cases b with
      | stream id i =>
          exact .ended ((Spares.dropStream (E := { E with blocked := none }) id i).andThen
            (hrest _)) hph
      | bind id i =>
          exact .ended ((Spares.dropBind (E := { E with blocked := none }) id i).andThen
            (hrest _)) hph

lemma spares_finish (res : Except Error Unit) : Spares w E [] (E.finish res) :=
  .of_eq rfl rfl rfl rfl rfl (by simp [finish])
    (fun id _ => watched_disallow w E.flows E.streams id) (fun _ => rfl) rfl

lemma spares_afterMessage (r : Poll (Except Error Bool)) : Spares w E [] (E.afterMessage r) := by
  rcases r with (_ | _ | _) | _
  · exact spares_startWindDown _ _
  · exact .refl E
  · exact spares_startWindDown _ _
  · exact .refl E

/-! ### Steps of the endpoint on its own -/

/-- The frames for the user of the peer that a step queues. -/
def posts (E : Endpoint) : Action → List Frame
  | .sendConnect id j =>
    match (E.calls id)[j]? with
    | some c => if E.txOpen then [Frame.newConnect c.host c.port id E.opts.rwnd] else []
    | none => []
  | .sendBind id j =>
    match (E.bindCalls id)[j]? with
    | some c => if E.txOpen then [Frame.newBind id c.bindType c.host c.port] else []
    | none => []
  | .sendDatagram d =>
    if 255 < d.targetHost.length then []
    else if E.txOpen then
      [Frame.newDatagramOwned d.flowId d.targetHost d.targetPort d.data]
    else []
  | _ => []

/-- What a step takes out of a queue, or clears. -/
def served (E : Endpoint) : Action → Endpoint
  | .acceptStreamChannel => { E with conRecvStream := E.conRecvStream.tail }
  | .getDatagram => { E with datagrams := E.datagrams.tail }
  | .nextBindRequest => { E with bndRequests := E.bndRequests.tail }
  | .dropMux =>
    { E with muxAlive := false, datagrams := [], conRecvStream := [], bndRequests := [] }
  | .sendFrame | .drainFrame => { E with txFrames := E.txFrames.tail }
  | _ => E

lemma spares_dropMux : Spares w (E.served .dropMux) [] E.dropMux := by
  have hports : ∀ ports, Spares w (E.served .dropMux) []
      { E.served .dropMux with droppedPorts := ports } :=
    fun _ => .of_same rfl rfl rfl rfl rfl (⟨·, rfl⟩) rfl rfl rfl
  have hstreams := fun F => Spares.foldl (w := w)
    (f := fun F (p : UInt32 × ℕ) => F.dropStream p.1 p.2) (l := E.conRecvStream)
    (fun _ p _ => .dropStream p.1 p.2) F
  have hbinds := fun F => Spares.foldl (w := w)
    (f := fun F (p : UInt32 × ℕ) => F.dropBind p.1 p.2) (l := E.bndRequests)
    (fun _ p _ => .dropBind p.1 p.2) F
  exact ((hports _).andThen (hstreams _)).andThen (hbinds _)

/-- What waits for the user behind a step, if it is not the one that hands over what was waiting
for room. -/
theorem act_spares (w : Watch) {a : Action} {out : List Message} (h : E.act a = some (E', out))
    (ha : a ≠ .resume) (hw : w.Permits a) : Spares w (E.served a) (E.posts a) E' := by
  have hcalls : ∀ calls, Spares w E [] { E with calls := calls } :=
    fun _ => .of_same rfl rfl rfl rfl rfl (⟨·, rfl⟩) rfl rfl rfl
  have hbindCalls : ∀ calls, Spares w E [] { E with bindCalls := calls } :=
    fun _ => .of_same rfl rfl rfl rfl rfl (⟨·, rfl⟩) rfl rfl rfl
  have hpop : ∀ ports, Spares w E [] { E with droppedPorts := ports } :=
    fun _ => .of_same rfl rfl rfl rfl rfl (⟨·, rfl⟩) rfl rfl rfl
  cases acts h with
  | resumeGone hrun hblocked hgone => exact absurd rfl ha
  | resumeStream hrun hblocked halive => exact absurd rfl ha
  | resumeBind hrun hblocked => exact absurd rfl ha
  -- calls
  | newStreamChannel host port halive hkey =>
      exact .of_same rfl rfl rfl rfl rfl (⟨·, rfl⟩) rfl rfl rfl
  | retryStream hc hstage hleft hkey =>
      exact .of_same rfl rfl rfl rfl rfl (⟨·, rfl⟩) rfl rfl rfl
  | requestBind host port t halive hkey =>
      exact .of_same rfl rfl rfl rfl rfl (⟨·, rfl⟩) rfl rfl rfl
  | @connectSent id j c hc hstage hopen =>
      have hpost := Spares.post (w := w)
        (E := E.modifyCall id j fun c => { c with stage := .awaiting })
        (Frame.newConnect c.host c.port id E.opts.rwnd)
      rw [show (E.modifyCall id j _).txOpen = true from hopen] at hpost
      simp only [posts, served, hc, if_pos hopen]
      exact (hcalls _).trans hpost
  | connectFails hc hstage hclosed hreply =>
      simp only [posts, served, hc, hclosed]
      exact hcalls _
  | @connectFailsWith id i j c hc hstage hclosed hreply =>
      simp only [posts, served, hc, hclosed]
      exact (hcalls _).andThen (.dropStream id i)
  | streamGiven hc hstage hreply => exact .of_same rfl rfl rfl rfl rfl (⟨·, rfl⟩) rfl rfl rfl
  | streamRejected hc hstage hreply => exact hcalls _
  | senderGone hc hstage hreply hslot => exact hcalls _
  | cancelStream hc hstage hreply => exact hcalls _
  | @cancelStreamWith id i j c hc hstage hreply => exact (hcalls _).andThen (.dropStream id i)
  | @bindSent id j c hc hstage hopen =>
      have hpost := Spares.post (w := w)
        (E := E.modifyBindCall id j fun c => { c with stage := .awaiting })
        (Frame.newBind id c.bindType c.host c.port)
      rw [show (E.modifyBindCall id j _).txOpen = true from hopen] at hpost
      simp only [posts, served, hc, if_pos hopen]
      exact (hbindCalls _).trans hpost
  | bindFails hc hstage hclosed =>
      simp only [posts, served, hc, hclosed]
      exact hbindCalls _
  | awaitBind hc hstage hreply => exact hbindCalls _
  | cancelBind hc hstage => exact hbindCalls _
  | @sendDatagram d halive hhost hopen =>
      have hpost := Spares.post (w := w) (E := E)
        (Frame.newDatagramOwned d.flowId d.targetHost d.targetPort d.data)
      rw [hopen] at hpost
      simp only [posts, served, if_neg (Nat.not_lt.mpr hhost), if_pos hopen]
      exact hpost
  | @datagramRefused d halive href =>
      have hnone : E.posts (.sendDatagram d) = [] := by
        obtain hlong | hclosed := href
        · simp [posts, hlong]
        · simp [posts, hclosed]
      rw [hnone]
      exact .refl E
  -- what the user takes and gives back
  | acceptStreamChannel hqueue =>
      exact .of_same rfl rfl (by simp [served, hqueue, hold]) rfl rfl (⟨·, rfl⟩) rfl rfl rfl
  | getDatagram hqueue =>
      exact .of_same rfl rfl rfl rfl (by simp [served, hqueue]) (⟨·, rfl⟩) rfl rfl rfl
  | nextBindRequest hqueue =>
      exact .of_same rfl rfl rfl (by simp [served, hqueue, holdBind]) rfl (⟨·, rfl⟩) rfl rfl rfl
  | reply accepted hown =>
      refine .send ?_
      split_ifs <;> rfl
  | @dropBind id i hown => exact .dropBind id i
  | dropMux halive => exact spares_dropMux
  -- handles
  | @pollWrite id i m buf hown =>
      exact .update id i (owns_eq hown).1
        (hw id (beq_self_eq_true id) · _ _ (m.dest_pollWrite id _ buf))
        (m.forUser_pollWrite id _ buf)
  | @copyPush id i m buf hown hbuf =>
      exact .update id i (owns_eq hown).1
        (hw id (beq_self_eq_true id) · _ _ (m.dest_pollWrite id _ buf))
        (m.forUser_pollWrite id _ buf)
  | @pollShutdown id i m hown =>
      exact .update id i (owns_eq hown).1
        (hw id (beq_self_eq_true id) · _ _ (m.dest_shutdownInner id _))
        (m.forUser_shutdownInner id _)
  | @pollFillBuf id i m hown =>
      exact .update id i (owns_eq hown).1
        (hw id (beq_self_eq_true id) · _ _ (m.dest_pollFillBuf id _ _))
        (m.forUser_pollFillBuf id _ _)
  | @pollRead id i m remaining hown =>
      exact .update id i (owns_eq hown).1
        (hw id (beq_self_eq_true id) · _ _ (m.dest_pollRead id _ _ remaining))
        (m.forUser_pollRead id _ _ remaining)
  | @consume id i m amt hown hamt =>
      exact .update id i (owns_eq hown).1 (hw id (beq_self_eq_true id) · _ _ rfl) (by simp)
  | @dropStream id i m hown => exact .dropStream id i
  -- the task
  | droppedZero hrun hports hzero => exact (hpop _).andThen (spares_startWindDown _ _)
  | droppedPort hrun hports hid => exact (hpop _).andThen (spares_closePort _ _)
  | sendFrame hrun hframes =>
      exact .of_same rfl rfl rfl rfl rfl (⟨·, rfl⟩) rfl rfl (by simp [served, hframes])
  | tick hrun hkeep => exact .refl E
  | sinkError hrun => exact spares_startWindDown _ _
  | sinkErrorDraining hph => exact spares_phase (by simp)
  | sourceError hrun hfree => exact spares_startWindDown _ _
  | sourceEnd hrun hfree => exact spares_startWindDown _ _
  | lastError hph => exact spares_finish _
  | lastMessage hph => exact spares_finish _
  | closeQueue hph => exact spares_phase (by split_ifs <;> simp)
  | drainFrame hph hframes =>
      exact .of_same rfl rfl rfl rfl rfl (⟨·, rfl⟩) rfl rfl (by simp [served, hframes])
  | drained hph hframes =>
      exact .of_same rfl rfl rfl rfl rfl (by simp) rfl rfl (by simp [served, hframes])
  | closeSink hph => exact spares_phase (by simp)

/-! ### Frames of the peer -/

/-- Why nothing comes of a frame that was made for the user. -/
def Refuses (E : Endpoint) (f : Frame) : Prop :=
  match f.payload with
  | .connect _ => (E.flows f.id).isSome = true ∨ E.txOpen = false ∨ E.muxAlive = false
  | .bind _ => E.opts.bindBufferSize = 0 ∨ E.phase ≠ .running ∨ E.muxAlive = false
  | .datagram _ => E.muxAlive = false ∨ E.opts.datagramBufferSize ≤ E.datagrams.length
  | _ => True

/-- What the processing of a frame puts into the queues: nothing, or a stream, a bind request or a
datagram; the first two may have to wait for room. -/
inductive Puts (w : Watch) (f : Frame) (E E' : Endpoint) : Prop
  | nothing (h : Spares w E [] E') (hwhy : E.Refuses f)
  | stream {G : Endpoint} {p : ConnectPayload} {i : ℕ} (hf : f.payload = .connect p)
      (h : Spares w E [] G) (hdest : (G.dests f.id)[i]? = some (p.targetHost, p.targetPort))
      (halive : E.muxAlive = true) (hroom : E.conRecvStream.length < E.opts.streamBufferSize)
      (heq : E' = { G with conRecvStream := G.conRecvStream ++ [(f.id, i)] })
  | streamWaits {G : Endpoint} {p : ConnectPayload} {i : ℕ} (hf : f.payload = .connect p)
      (h : Spares w E [] G) (hdest : (G.dests f.id)[i]? = some (p.targetHost, p.targetPort))
      (halive : E.muxAlive = true) (heq : E' = { G with blocked := some (.stream f.id i) })
  | bind {G : Endpoint} {p : BindPayload} {i : ℕ} (hf : f.payload = .bind p) (h : Spares w E [] G)
      (hpayload : (G.payloads f.id)[i]? = some p) (halive : E.muxAlive = true)
      (hroom : E.bndRequests.length < E.opts.bindBufferSize)
      (heq : E' = { G with bndRequests := G.bndRequests ++ [(f.id, i)] })
  | bindWaits {G : Endpoint} {p : BindPayload} {i : ℕ} (hf : f.payload = .bind p)
      (h : Spares w E [] G) (hpayload : (G.payloads f.id)[i]? = some p) (halive : E.muxAlive = true)
      (heq : E' = { G with blocked := some (.bind f.id i) })
  | datagram {p : DatagramPayload} (hf : f.payload = .datagram p) (halive : E.muxAlive = true)
      (hroom : E.datagrams.length < E.opts.datagramBufferSize)
      (heq : E' = { E with
        datagrams := E.datagrams ++ [⟨f.id, p.targetHost, p.targetPort, p.data⟩] })

lemma spares_setSlot (id : UInt32) (slot : Option FlowSlot) : Spares w E [] (E.setSlot id slot) :=
  .of_same rfl rfl rfl rfl rfl (⟨·, rfl⟩) rfl rfl rfl

lemma spares_establish (id : UInt32) (m : MuxStream) : Spares w E [] (E.establish id m) :=
  (Spares.addStream id m).andThen (spares_setSlot _ _)

lemma dests_establish (id : UInt32) (m : MuxStream) :
    ((E.establish id m).dests id)[(E.streams id).length]? = some m.dest := by
  simp [dests, Endpoint.addStream, setSlot]

/-- A new stream is handed to the user, if there is room for it. -/
lemma puts_connect {id : UInt32} (p : ConnectPayload) :
    Puts w ⟨id, .connect p⟩ E
      (((E.establish id (newStreamShared E.opts p.rwnd p.targetHost p.targetPort)).send
        (Frame.newAcknowledge id E.opts.rwnd)).sendStream id (E.streams id).length).1 := by
  have hspares : ∀ v : Watch, Spares v E []
      ((E.establish id (newStreamShared E.opts p.rwnd p.targetHost p.targetPort)).send
        (Frame.newAcknowledge id E.opts.rwnd)) :=
    fun _ => (spares_establish id _).andThen (.send rfl)
  have hdest := getElem?_of_prefix ((Spares.send (w := .dests)
    (f := Frame.newAcknowledge id E.opts.rwnd) rfl).streams id trivial)
    (dests_establish (E := E) id (newStreamShared E.opts p.rwnd p.targetHost p.targetPort))
  set G := (E.establish id (newStreamShared E.opts p.rwnd p.targetHost p.targetPort)).send
    (Frame.newAcknowledge id E.opts.rwnd)
  have hG : Spares w E [] G := hspares w
  unfold sendStream
  split_ifs with halive hroom
  · refine .nothing (hG.andThen (.dropStream id _)) (.inr (.inr ?_))
    simpa [hG.muxAlive] using halive
  · rw [hG.conRecvStream, hG.opts] at hroom
    exact .stream rfl hG hdest (by simpa [hG.muxAlive] using halive) hroom rfl
  · exact .streamWaits rfl hG hdest (by simpa [hG.muxAlive] using halive) rfl

lemma puts_bind {id : UInt32} (p : BindPayload) :
    Puts w ⟨id, .bind p⟩ E ((E.addBind id p).sendBindRequest id (E.binds id).length).1 := by
  have hG : Spares w E [] (E.addBind id p) := .addBind id p
  have hpayload : ((E.addBind id p).payloads id)[(E.binds id).length]? = some p := by
    simp [payloads, Endpoint.addBind]
  unfold sendBindRequest
  split_ifs with halive hroom
  · refine .nothing (hG.andThen (.dropBind id _)) (.inr (.inr ?_))
    simpa [hG.muxAlive] using halive
  · exact .bind rfl hG hpayload (by simpa [hG.muxAlive] using halive) hroom rfl
  · exact .bindWaits rfl hG hpayload (by simpa [hG.muxAlive] using halive) rfl

lemma Handles.puts {f : Frame} {ignoreBind : Bool} {r : Poll (Except Error Unit)}
    (h : E.Handles ignoreBind f E' r) (hign : ignoreBind = true → E.phase ≠ .running) :
    Puts w f E E' := by
  have hcalls : ∀ (F : Endpoint) calls, Spares w F [] { F with calls := calls } :=
    fun _ _ => .of_same rfl rfl rfl rfl rfl (⟨·, rfl⟩) rfl rfl rfl
  have hbindCalls : ∀ (F : Endpoint) calls, Spares w F [] { F with bindCalls := calls } :=
    fun _ _ => .of_same rfl rfl rfl rfl rfl (⟨·, rfl⟩) rfl rfl rfl
  cases h with
  | connectUsed p hslot => exact .nothing (.send rfl) (.inl (Option.isSome_iff_ne_none.mpr hslot))
  | connect p hslot hopen => exact puts_connect p
  | @connectClosed id p hslot hclosed =>
      exact .nothing ((spares_establish id _).andThen (.dropStream id _)) (.inr (.inl hclosed))
  | @ackEstablished id d n hslot =>
      exact .nothing (.tend id _ (fun _ => rfl) (fun _ => rfl) fun _ => rfl) trivial
  | @ackRequested id j n hslot hlistens =>
      exact .nothing ((spares_establish id _).andThen (hcalls _ _)) trivial
  | @ackGone id j n hslot hlistens =>
      exact .nothing ((spares_establish id _).andThen (.dropStream id _)) trivial
  | ackBogus n hslot => exact .nothing (.send rfl) trivial
  | finishBogus hslot => exact .nothing (.send rfl) trivial
  | @finishBind id j hslot =>
      exact .nothing ((spares_setSlot id _).andThen (hbindCalls _ _)) trivial
  | @finishRequested id j hslot =>
      exact .nothing ((spares_setSlot id _).andThen (.send rfl)) trivial
  | @finishEstablished id d hslot => exact .nothing (spares_setSlot id _) trivial
  | reset id => exact .nothing (spares_closePort id true) trivial
  | @push id i m data hslot hm hd hroom =>
      exact .nothing (.tend id _ (fun _ => rfl) (fun _ => rfl) fun _ => rfl) trivial
  | @pushFull id i m data hslot hm hd hfull => exact .nothing (spares_closePort id false) trivial
  | pushClosed data hslot hm hd => exact .nothing (.refl E) trivial
  | pushBogus data hnone => exact .nothing (.send rfl) trivial
  | bindOff p hzero => exact .nothing (.send rfl) (.inl hzero)
  | bindIgnored p hpos hig => exact .nothing (.refl E) (.inr (.inl (hign hig)))
  | bind p hpos hig => exact puts_bind p
  | datagramGone p hgone => exact .nothing (.refl E) (.inl hgone)
  | datagram p halive hroom => exact .datagram rfl halive hroom rfl
  | datagramLost p halive hfull => exact .nothing (.refl E) (.inr hfull)

/-- **What the arrival of a message puts into the queues.** -/
theorem recv_puts (w : Watch) {msg : Message} (h : E.recv msg = some E') :
    (msg.frame? = none ∧ Spares w E [] E') ∨
    ∃ f F, msg.frame? = some f ∧ Puts w f E F ∧ Spares w F [] E' := by
  have hmessage : ∀ ignoreBind, (ignoreBind = true → E.phase ≠ .running) → ∀ {F : Endpoint},
      Spares w (E.processMessage msg ignoreBind).1 [] F →
      (msg.frame? = none ∧ Spares w E [] F) ∨
        ∃ f G, msg.frame? = some f ∧ Puts w f E G ∧ Spares w G [] F := by
    intro ignoreBind hign F hF
    obtain ⟨hnone, heq⟩ | ⟨data, f, rfl, hdec, heq⟩ := E.processMessage_cases msg ignoreBind
    · rw [heq] at hF
      exact .inl ⟨hnone, hF⟩
    · rw [heq] at hF
      exact .inr ⟨f, _, Message.frame?_binary hdec, (E.handles f ignoreBind).puts hign, hF⟩
  obtain ⟨hrun, -, rfl⟩ | ⟨res, hph, ⟨e, -, rfl⟩ | ⟨-, rfl⟩⟩ := recv_cases h
  · exact hmessage false (by simp) (spares_afterMessage _)
  · exact hmessage true (fun _ => by simp [hph]) (spares_phase (by simp))
  · exact hmessage true (fun _ => by simp [hph]) (.refl _)

/-! ### Handing over what was waiting for room -/

/-- What waits, with what is waiting for room. -/
inductive Resumes (w : Watch) (E E' : Endpoint) : Prop
  /-- There is still no room for it. -/
  | nothing (h : Spares w E [] E')
  /-- It is given up with the `Multiplexor`. -/
  | gaveUp (halive : E.muxAlive = false) (h : Spares w { E with blocked := none } [] E')
  | stream {id : UInt32} {i : ℕ} (hb : E.blocked = some (.stream id i)) (halive : E.muxAlive = true)
      (hroom : E.conRecvStream.length < E.opts.streamBufferSize)
      (h : Spares w { E with blocked := none, conRecvStream := E.conRecvStream ++ [(id, i)] } [] E')
  | bind {id : UInt32} {i : ℕ} (hb : E.blocked = some (.bind id i)) (halive : E.muxAlive = true)
      (hroom : E.bndRequests.length < E.opts.bindBufferSize)
      (h : Spares w { E with blocked := none, bndRequests := E.bndRequests ++ [(id, i)] } [] E')

lemma resume_resumes (w : Watch) (h : E.resume = some E') : Resumes w E E' := by
  have hagain : ∀ {bl}, E.blocked = some bl →
      Spares w E [] { { E with blocked := none } with blocked := some bl } := by
    intro bl hb
    exact .of_same rfl rfl rfl rfl rfl (⟨·, hb.symm⟩) rfl rfl rfl
  cases acts_resume h with
  | @resumeGone id i _ hb hgone =>
      exact .gaveUp hgone ((Spares.dropStream id i).andThen (spares_startWindDown _ _))
  | @resumeStream id i _ hb halive =>
      have hnot : ¬ (!E.muxAlive) = true := by simp [halive]
      simp only [sendStream, if_neg hnot]
      split_ifs with hroom
      · exact .stream hb halive hroom (.refl _)
      · exact .nothing (hagain hb)
  | @resumeBind id i _ hb =>
      unfold sendBindRequest
      split_ifs with halive hroom
      · exact .gaveUp (by simpa using halive) (.dropBind id i)
      · exact .bind hb (by simpa using halive) hroom (.refl _)
      · exact .nothing (hagain hb)

/-! ### What the task leaves of the handles -/

lemma watched_of_puts {f : Frame} (h : Puts w f E E') {id : UInt32} (hon : w.on id) :
    E.watched w id <+: E'.watched w id := by
  cases h with
  | nothing h => exact h.streams id hon
  | stream hf h hdest halive hroom heq => exact heq ▸ h.streams id hon
  | streamWaits hf h hdest halive heq => exact heq ▸ h.streams id hon
  | bind hf h hpayload halive hroom heq => exact heq ▸ h.streams id hon
  | bindWaits hf h hpayload halive heq => exact heq ▸ h.streams id hon
  | datagram hf halive hroom heq => exact heq ▸ List.prefix_rfl

/-- **What is watched does not change**, except by the operations on the handles. -/
theorem watched_of_step {e : Event} (h : E.step e = some E') {id : UInt32} (hon : w.on id)
    (hw : ∀ a, e = .act a → w.Permits a) : E.watched w id <+: E'.watched w id := by
  cases e with
  | act a =>
      obtain ⟨⟨F, out⟩, hact, rfl⟩ := Option.map_eq_some_iff.mp h
      by_cases ha : a = .resume
      · subst ha
        have hres : E.resume = some F := by
          obtain ⟨G, hG, heq⟩ := Option.map_eq_some_iff.mp hact
          rw [hG, (Prod.mk.inj heq).1]
        cases resume_resumes w hres with
        | nothing h => exact h.streams id hon
        | gaveUp halive h => exact h.streams id hon
        | stream hb halive hroom h => exact h.streams id hon
        | bind hb halive hroom h => exact h.streams id hon
      · have hserved : (E.served a).watched w id = E.watched w id := by cases a <;> rfl
        rw [← hserved]
        exact (act_spares w hact ha (hw a rfl)).streams id hon
  | recv msg =>
      obtain ⟨-, h⟩ | ⟨f, F, -, hputs, h⟩ := recv_puts w h
      · exact h.streams id hon
      · exact (watched_of_puts hputs hon).trans (h.streams id hon)

/-! ### What is queued for the peer -/

/-- What can be seen of frames for the user is not changed by other frames. -/
lemma Spares.filterMap_txFrames {β : Type} {φ : Bytes → Option β}
    (hφ : ∀ f : Frame, f.payload.forUser = false → φ (finalize f) = none) (h : Spares w E us E') :
    E'.txFrames.filterMap φ = E.txFrames.filterMap φ ++ us.filterMap fun f => φ (finalize f) := by
  obtain ⟨fs, hfs, rfl⟩ := h.posts
  rw [hfs, List.filterMap_append, List.filterMap_map, List.filterMap_filter]
  congr 1
  refine List.filterMap_congr fun f _ => ?_
  by_cases hf : f.payload.forUser = true
  · simp [hf]
  · simp [hf, hφ f (by simpa using hf)]

lemma Puts.posts {f : Frame} (h : Puts w f E E') :
    ∃ G, Spares w E [] G ∧ E'.txFrames = G.txFrames ∧ E'.muxAlive = G.muxAlive ∧ E'.opts = G.opts ∧
      E'.streams = G.streams ∧ E'.binds = G.binds := by
  cases h with
  | nothing h => exact ⟨E', h, rfl, rfl, rfl, rfl, rfl⟩
  | stream hf h hdest halive hroom heq => exact ⟨_, h, by simp [heq]⟩
  | streamWaits hf h hdest halive heq => exact ⟨_, h, by simp [heq]⟩
  | bind hf h hpayload halive hroom heq => exact ⟨_, h, by simp [heq]⟩
  | bindWaits hf h hpayload halive heq => exact ⟨_, h, by simp [heq]⟩
  | datagram hf halive hroom heq => exact ⟨E, .refl E, by simp [heq]⟩

lemma Resumes.posts (h : Resumes w E E') :
    ∃ G, Spares w G [] E' ∧ G.txFrames = E.txFrames ∧ G.muxAlive = E.muxAlive ∧ G.opts = E.opts ∧
      G.datagrams = E.datagrams := by
  cases h with
  | nothing h => exact ⟨E, h, rfl, rfl, rfl, rfl⟩
  | gaveUp halive h => exact ⟨_, h, rfl, rfl, rfl, rfl⟩
  | stream hb halive hroom h => exact ⟨_, h, rfl, rfl, rfl, rfl⟩
  | bind hb halive hroom h => exact ⟨_, h, rfl, rfl, rfl, rfl⟩

/-- A message of the peer has nothing queued for its user. -/
lemma filterMap_txFrames_recv {β : Type} {φ : Bytes → Option β}
    (hφ : ∀ f : Frame, f.payload.forUser = false → φ (finalize f) = none) {msg : Message}
    (h : E.recv msg = some E') : E'.txFrames.filterMap φ = E.txFrames.filterMap φ := by
  obtain ⟨-, h⟩ | ⟨f, F, -, hputs, h⟩ := recv_puts .dests h
  · simpa using h.filterMap_txFrames hφ
  · obtain ⟨G, hG, heq, -⟩ := hputs.posts
    have hF := h.filterMap_txFrames hφ
    rw [heq, hG.filterMap_txFrames hφ] at hF
    simpa using hF

/-- What leaves the queue goes to the link, and what is new in the queue is in `posts`. -/
lemma filterMap_txFrames_act {β : Type} {φ : Bytes → Option β}
    (hφ : ∀ f : Frame, f.payload.forUser = false → φ (finalize f) = none) {a : Action}
    {out : List Message} (h : E.act a = some (E', out)) :
    (out.filterMap Message.binary?).filterMap φ ++ E'.txFrames.filterMap φ =
      E.txFrames.filterMap φ ++ (E.posts a).filterMap fun f => φ (finalize f) := by
  have hout := act_out h
  by_cases ha : a = .resume
  · subst ha
    have hres : E.resume = some E' := by
      obtain ⟨F, hF, heq⟩ := Option.map_eq_some_iff.mp h
      rw [hF, (Prod.mk.inj heq).1]
    obtain ⟨G, hG, heq, -⟩ := (resume_resumes .dests hres).posts
    rw [← hout, hG.filterMap_txFrames hφ, heq, List.filterMap_append]
    simp [Endpoint.posts, popped]
  · have hserved : (E.served a).txFrames = (E.popped a).txFrames := by cases a <;> rfl
    rw [(act_spares .dests h ha (Watch.dests_permits a)).filterMap_txFrames hφ, hserved,
      ← List.append_assoc,
      ← List.filterMap_append, hout]

end Endpoint

/-! ### On the way from one endpoint to the other -/

namespace System

variable {α : Type} {φ : Frame → Option α} {s s' : System} {e : Side}

/-- What is seen of a message. -/
def seen (φ : Frame → Option α) (msg : Message) : Option α := msg.frame?.bind φ

/-- What is seen of the frames that side `e` has queued or sent and its peer has not read. -/
def flight (φ : Frame → Option α) (s : System) (e : Side) : List α :=
  (s.link e).filterMap (seen φ) ++ (s.ep e).txFrames.filterMap fun bytes => seen φ (.binary bytes)

/-- Only frames that are made for the user are seen. -/
def SeesOnlyForUser (φ : Frame → Option α) : Prop :=
  ∀ f : Frame, f.payload.forUser = false → φ f = none

lemma seen_finalize {f : Frame} (h : f.payload.isDatagram = false) :
    seen φ (.binary (Endpoint.finalize f)) = φ f := by
  simp [seen, Message.frame?, tryFrom_finalize h, Except.toOption]

/-- A datagram is read as it was sent, or not at all if it has too little data. -/
lemma seen_datagram (φ : Frame → Option α) {host : Bytes} (hhost : host.length ≤ 255)
    (id : UInt32) (port : UInt16) (data : Bytes) :
    seen φ (.binary (Endpoint.finalize (Frame.newDatagramOwned id host port data))) =
      if data.length < 4 then none else φ (Frame.newDatagramOwned id host port data) := by
  set f := Frame.newDatagramOwned id host port data
  have hfits : f.payload.HostFits := hhost
  obtain ⟨bytes, hbytes, -⟩ := Frame.toVec_length hfits
  have hback := Frame.tryFrom_toVec hbytes
  have hshort : f.payload.ShortDatagram ↔ data.length < 4 := Iff.rfl
  rw [Endpoint.finalize_eq hbytes]
  simp only [seen, Message.frame?, hback, hshort]
  split_ifs <;> rfl

lemma SeesOnlyForUser.finalize (hφ : SeesOnlyForUser φ) (f : Frame)
    (h : f.payload.forUser = false) : seen φ (.binary (Endpoint.finalize f)) = none := by
  rw [seen_finalize, hφ f h]
  cases hp : f.payload <;> simp [hp, Payload.forUser, Payload.isDatagram] at h ⊢

lemma filterMap_seen (φ : Frame → Option α) (l : List Message) : l.filterMap (seen φ) =
    (l.filterMap Message.binary?).filterMap fun bytes => seen φ (.binary bytes) := by
  rw [List.filterMap_filterMap]
  refine List.filterMap_congr fun msg _ => ?_
  cases msg <;> rfl

lemma flight_new (φ : Frame → Option α) (opts : Side → Options) (e : Side) :
    (new opts).flight φ e = [] := by
  simp [flight, new, Endpoint.new]

lemma flight_act (hφ : SeesOnlyForUser φ) {a : Action} (h : s.step (.act e a) = some s') :
    s'.flight φ e = s.flight φ e ++
      ((s.ep e).posts a).filterMap fun f => seen φ (.binary (Endpoint.finalize f)) := by
  obtain ⟨⟨E, out⟩, hact, rfl⟩ := Option.map_eq_some_iff.mp h
  have hq := Endpoint.filterMap_txFrames_act
    (φ := fun bytes => seen φ (.binary bytes)) hφ.finalize hact
  rw [← filterMap_seen] at hq
  simp only [flight, Function.update_self, List.filterMap_append]
  rw [List.append_assoc, hq, List.append_assoc]

lemma flight_act_peer {a : Action} (h : s.step (.act e.peer a) = some s') :
    s'.flight φ e = s.flight φ e := by
  obtain ⟨⟨E, out⟩, hact, rfl⟩ := Option.map_eq_some_iff.mp h
  simp [flight, Function.update_of_ne e.peer_ne.symm]

lemma flight_deliver_own (hφ : SeesOnlyForUser φ) (h : s.step (.deliver e) = some s') :
    s'.flight φ e = s.flight φ e := by
  simp only [step] at h
  split at h
  case h_2 => cases h
  case h_1 msg rest hlink =>
    obtain ⟨E, hrecv, rfl⟩ := Option.map_eq_some_iff.mp h
    have hq := Endpoint.filterMap_txFrames_recv
      (φ := fun bytes => seen φ (.binary bytes)) hφ.finalize hrecv
    simp [flight, Function.update_of_ne e.peer_ne.symm, hq]

/-- The peer reads the first message. -/
lemma flight_deliver (φ : Frame → Option α) (h : s.step (.deliver e.peer) = some s') :
    ∃ msg, (s.link e).head? = some msg ∧ (s.ep e.peer).recv msg = some (s'.ep e.peer) ∧
      s.flight φ e = (seen φ msg).toList ++ s'.flight φ e := by
  have hne : e ≠ e.peer := e.peer_ne.symm
  simp only [step, Side.peer_peer] at h
  split at h
  case h_2 => cases h
  case h_1 msg rest hlink =>
    obtain ⟨E, hrecv, rfl⟩ := Option.map_eq_some_iff.mp h
    refine ⟨msg, by simp [hlink], by simpa using hrecv, ?_⟩
    simp only [flight, hlink, Function.update_self, Function.update_of_ne hne]
    cases hs : seen φ msg <;> simp [hs]

/-- A step of one endpoint leaves the other as it is. -/
lemma ep_of_act {a : Action} (h : s.step (.act e a) = some s') : s'.ep e.peer = s.ep e.peer := by
  obtain ⟨⟨E, out⟩, hact, rfl⟩ := Option.map_eq_some_iff.mp h
  simp [Function.update_of_ne e.peer_ne]

lemma ep_of_deliver (h : s.step (.deliver e) = some s') : s'.ep e.peer = s.ep e.peer := by
  simp only [step] at h
  split at h
  case h_2 => cases h
  case h_1 msg rest hlink =>
    obtain ⟨E, hrecv, rfl⟩ := Option.map_eq_some_iff.mp h
    simp [Function.update_of_ne e.peer_ne]

lemma act_of_step {a : Action} (h : s.step (.act e a) = some s') :
    ∃ out, (s.ep e).act a = some (s'.ep e, out) := by
  obtain ⟨⟨E, out⟩, hact, rfl⟩ := Option.map_eq_some_iff.mp h
  exact ⟨out, by simpa using hact⟩

/-- What a step of the two endpoints is at one side. -/
lemma ep_of_step {l : Label} (h : s.step l = some s') (e : Side) :
    s'.ep e = s.ep e ∨ ∃ ev, (s.ep e).step ev = some (s'.ep e) ∧
      ∀ a, ev = .act a → l = .act e a := by
  cases l with
  | act e' a =>
      obtain rfl | rfl := Side.eq_or_eq_peer e' e
      · obtain ⟨out, hact⟩ := act_of_step h
        exact .inr ⟨.act a, by simp [Endpoint.step, hact], fun _ heq => by cases heq; rfl⟩
      · exact .inl (ep_of_act h)
  | deliver e' =>
      obtain rfl | rfl := Side.eq_or_eq_peer e' e
      · simp only [step] at h
        split at h
        case h_2 => cases h
        case h_1 msg rest hlink =>
          obtain ⟨E, hrecv, rfl⟩ := Option.map_eq_some_iff.mp h
          exact .inr ⟨.recv msg, by simpa [Endpoint.step] using hrecv, by simp⟩
      · exact .inl (ep_of_deliver h)

end System

end Penguin.Mux
