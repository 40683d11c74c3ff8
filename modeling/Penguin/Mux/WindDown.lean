import Penguin.Mux.Requests
import Penguin.Mux.Survival

/-!
The end of the task.

`wind_down` closes the queue, hands the messages that the source still yields to the streams,
and closes every slot that is left. A message that `process_message` fails on ends it early:
the messages after it are not read, and the slots are not closed. Some messages that are
harmless while the task is running fail here, since the queue is closed and the `Multiplexor`
may be gone. And a `Finish` for a stream that was only requested takes the slot of a call that
waits, so that the call is not there any more when the slots are closed.
-/

namespace Penguin.Mux

open Penguin.Lib

/-- What a call is told when its slot is closed. -/
def FlowSlot.refusal : FlowSlot → Option (Option ℕ ⊕ Bool)
  | .requested _ => some (.inl none)
  | .bindRequested _ => some (.inr false)
  | .established _ => none

/-- The data of a `Push` for the flow. -/
def Message.push (id : UInt32) : Message → Option Bytes
  | .binary data =>
    match Frame.tryFrom data with
    | .ok ⟨id', .push d⟩ => if id' = id then some d else none
    | _ => none
  | _ => none

/-- The message is a `Connect`. -/
def Message.isConnect : Message → Bool
  | .binary data =>
    match Frame.tryFrom data with
    | .ok ⟨_, .connect _⟩ => true
    | _ => false
  | _ => false

lemma Message.push_of_frame?_none {msg : Message} (id : UInt32) (h : msg.frame? = none) :
    msg.push id = none := by
  cases msg with
  | binary data =>
      cases hdec : Frame.tryFrom data with
      | ok f => simp [Message.frame?, hdec, Except.toOption] at h
      | error e => simp [Message.push, hdec]
  | _ => rfl

namespace Endpoint

/-- What waits in the channel of a handle. -/
def channel (E : Endpoint) (id : UInt32) (i : ℕ) : List Bytes :=
  match (E.streams id)[i]? with
  | some m => m.frameRx
  | none => []

/-- The stream of the handle is established with its receive side open, and there is room in
the channel. -/
def accepts (E : Endpoint) (id : UInt32) (i : ℕ) : Bool :=
  E.flows id = some (.established ⟨i, true⟩) &&
    (E.streams id)[i]?.any fun m => !m.dropped && m.frameRx.length < E.opts.rwnd.toNat

/-- What a message owes to the handle ... -/
def owedBy (E : Endpoint) (id : UInt32) (i : ℕ) (msg : Message) : List Bytes :=
  match msg.push id with
  | some data => if E.accepts id i then [data] else []
  | none => []

/-- ... and what all of them do, if each is processed whatever became of those before it. -/
def owed (E : Endpoint) (id : UInt32) (i : ℕ) : List Message → List Bytes
  | [] => []
  | msg :: msgs => E.owedBy id i msg ++ (E.processMessage msg true).1.owed id i msgs

/-- The frames that `process_frame` fails on when the queue is closed: a `Connect` with an
unused id, an `Acknowledge` for a caller that has gone, and a datagram nobody can receive. -/
def FailsFrame (E : Endpoint) (f : Frame) : Prop :=
  match f.payload with
  | .connect _ => E.flows f.id = none
  | .acknowledge _ => E.CallerGone f.id
  | .datagram _ => E.muxAlive = false
  | _ => False

/-- The messages that `process_message` fails on. -/
def Fails (E : Endpoint) : Message → Prop
  | .binary data =>
    match Frame.tryFrom data with
    | .error _ => True
    | .ok f => E.FailsFrame f
  | _ => False

/-- The call that has inserted the slot waits for an answer. -/
def Unanswered (E : Endpoint) (id : UInt32) (s : FlowSlot) : Prop :=
  E.flows id = some s ∧ E.listens id s = true ∧ E.told id s = none

/-- The message is a `Finish` for a call of `new_stream_channel` that waits: the slot is taken out
of the map, and the call is not told. -/
def Strands (E : Endpoint) (msg : Message) : Prop :=
  ∃ id j, msg.frame? = some ⟨id, .finish⟩ ∧ E.Unanswered id (.requested j)

/-- No message strands a call, and none fails, or the first that does finds the map empty and
leaves it so. -/
def Undisturbed (E : Endpoint) : List Message → Prop
  | [] => True
  | msg :: msgs =>
    ¬ E.Strands msg ∧
    (E.Fails msg → (∀ id, E.flows id = none) ∧ msg.isConnect = false) ∧
    (¬ E.Fails msg → (E.processMessage msg true).1.Undisturbed msgs)

/-! ### One message -/

/-- What the handles of a flow keep when a message is not for them: those that are there keep
their channel and stay closed if they were, and new ones have an empty channel. -/
structure Kept (l l' : List MuxStream) : Prop where
  old : ∀ (i : ℕ) (m : MuxStream), l[i]? = some m → ∃ m' : MuxStream, l'[i]? = some m' ∧
    m'.frameRx = m.frameRx ∧ (m.finishSent = true → m'.finishSent = true)
  new : ∀ (i : ℕ) (m' : MuxStream), l[i]? = none → l'[i]? = some m' → m'.frameRx = []

lemma Kept.refl (l : List MuxStream) : Kept l l where
  old _ m hm := ⟨m, hm, rfl, id⟩
  new i m' hn hm := by simp [hn] at hm

lemma Kept.trans {l l' l'' : List MuxStream} (h : Kept l l') (h' : Kept l' l'') : Kept l l'' where
  old i m hm := by
    obtain ⟨m', hm', hrx, hfin⟩ := h.old i m hm
    obtain ⟨m'', hm'', hrx', hfin'⟩ := h'.old i m' hm'
    exact ⟨m'', hm'', hrx'.trans hrx, fun hf => hfin' (hfin hf)⟩
  new i m'' hn hm'' := by
    cases hmid : l'[i]? with
    | none => exact h'.new i m'' hmid hm''
    | some m' =>
        obtain ⟨n, hn', hrx, -⟩ := h'.old i m' hmid
        obtain rfl : n = m'' := by simpa [hn'] using hm''
        exact hrx.trans (h.new i m' hn hmid)

lemma Kept.modify (l : List MuxStream) (i : ℕ) {f : MuxStream → MuxStream}
    (hf : ∀ m, l[i]? = some m → (f m).frameRx = m.frameRx ∧
      (m.finishSent = true → (f m).finishSent = true)) : Kept l (l.modify i f) where
  old k m hm := by
    by_cases hk : i = k
    · subst hk
      exact ⟨f m, by simp [hm], hf m hm⟩
    · exact ⟨m, by simp [hk, hm], rfl, id⟩
  new k m' hn hm := by simp [List.getElem?_modify, hn] at hm

lemma Kept.append (l : List MuxStream) {m : MuxStream} (hm : m.frameRx = []) :
    Kept l (l ++ [m]) where
  old i n hn := by
    obtain ⟨hlt, -⟩ := List.getElem?_eq_some_iff.mp hn
    exact ⟨n, by rw [List.getElem?_append_left hlt, hn], rfl, id⟩
  new i m' hn hm' := by
    have hle := List.getElem?_eq_none_iff.mp hn
    rw [List.getElem?_append_right hle] at hm'
    have hmem := List.mem_of_getElem? hm'
    rwa [List.mem_singleton.mp hmem]

variable {E E' : Endpoint}

lemma kept_modifyStream (id x : UInt32) (i : ℕ) {f : MuxStream → MuxStream}
    (hf : ∀ m, (E.streams id)[i]? = some m → (f m).frameRx = m.frameRx ∧
      (m.finishSent = true → (f m).finishSent = true)) :
    Kept (E.streams x) ((E.modifyStream id i f).streams x) := by
  by_cases hx : x = id
  · subst hx
    simpa [modifyStream] using Kept.modify _ i hf
  · simpa [modifyStream, Function.update_of_ne hx] using Kept.refl (E.streams x)

lemma kept_addStream (id x : UInt32) {m : MuxStream} (hm : m.frameRx = []) :
    Kept (E.streams x) ((E.addStream id m).streams x) := by
  by_cases hx : x = id
  · subst hx
    simpa [addStream] using Kept.append _ hm
  · simpa [addStream, Function.update_of_ne hx] using Kept.refl (E.streams x)

lemma kept_dropStream (id x : UInt32) (i : ℕ)
    (hrx : ∀ m, (E.streams id)[i]? = some m → m.frameRx = []) :
    Kept (E.streams x) ((E.dropStream id i).streams x) := by
  unfold dropStream
  split
  · split
    · exact .refl _
    · exact kept_modifyStream id x i fun m hm => ⟨(hrx m hm).symm, fun hf => hf⟩
  · exact .refl _

lemma kept_closePort (id x : UInt32) (inhibit : Bool) :
    Kept (E.streams x) ((E.closePort id inhibit).streams x) := by
  unfold closePort
  split
  case h_2 => exact .refl _
  case h_1 removed _ =>
    unfold closePortLocal
    cases removed with
    | requested j => exact .refl _
    | bindRequested j => exact .refl _
    | established d =>
        have hkept : Kept (E.streams x)
            (((E.setSlot id none).modifyStream id d.stream MuxStream.disallowWrite).streams x) :=
          kept_modifyStream (E := E.setSlot id none) id x d.stream fun m _ => ⟨rfl, fun _ => rfl⟩
        dsimp only
        split_ifs
        · rw [streams_send]
          exact hkept
        · exact hkept

lemma kept_establish (id x : UInt32) {m : MuxStream} (hm : m.frameRx = []) :
    Kept (E.streams x) ((E.establish id m).streams x) :=
  kept_addStream id x hm

/-- A handle that has just been made is dropped again. -/
lemma kept_dropNew (id x : UInt32) {m : MuxStream} (hm : m.frameRx = []) :
    Kept (E.streams x) (((E.establish id m).dropStream id (E.streams id).length).streams x) := by
  refine (kept_establish id x hm).trans (kept_dropStream id x _ fun n hn => ?_)
  simp [setSlot, addStream] at hn
  rw [← hn, hm]

lemma accepts_iff {id : UInt32} {i : ℕ} : E.accepts id i = true ↔
    E.flows id = some (.established ⟨i, true⟩) ∧ ∃ m, (E.streams id)[i]? = some m ∧
      m.dropped = false ∧ m.frameRx.length < E.opts.rwnd.toNat := by
  simp [accepts, Option.any_eq_true]

/-- What becomes of one handle: `add` is put into its channel. -/
structure Gets (E E' : Endpoint) (id : UInt32) (i : ℕ) (add : List Bytes) : Prop where
  channel : E'.channel id i = E.channel id i ++ add
  finished : ∀ m, (E.streams id)[i]? = some m → ∃ m', (E'.streams id)[i]? = some m' ∧
    (m.finishSent = true → m'.finishSent = true)

lemma Gets.of_kept {id : UInt32} (i : ℕ)
    (h : Kept (E.streams id) (E'.streams id)) : Gets E E' id i [] := by
  constructor
  · unfold Endpoint.channel
    cases hm : (E.streams id)[i]? with
    | some m =>
        obtain ⟨m', hm', hrx, -⟩ := h.old i m hm
        simp [hm', hrx]
    | none =>
        cases hm' : (E'.streams id)[i]? with
        | some m' => simp [h.new i m' hm hm']
        | none => rfl
  · intro m hm
    obtain ⟨m', hm', -, hfin⟩ := h.old i m hm
    exact ⟨m', hm', hfin⟩

lemma gets_dispatched {id x : UInt32} {i k : ℕ} {m : MuxStream} (data : Bytes)
    (hm : (E.streams id)[k]? = some m) :
    Gets E (E.modifyStream id k fun m => { m with frameRx := m.frameRx ++ [data] }) x i
      (if x = id ∧ i = k then [data] else []) := by
  by_cases hx : x = id ∧ i = k
  · obtain ⟨rfl, rfl⟩ := hx
    rw [if_pos ⟨rfl, rfl⟩]
    constructor
    · simp [channel, modifyStream, hm]
    · intro n hn
      obtain rfl := Option.some.inj (hm.symm.trans hn)
      exact ⟨{ m with frameRx := m.frameRx ++ [data] }, by simp [modifyStream, hm], fun hf => hf⟩
  · have hsame : ((E.modifyStream id k fun m =>
        { m with frameRx := m.frameRx ++ [data] }).streams x)[i]? = (E.streams x)[i]? := by
      rw [modifyStream, Lists.getElem?_update_modify, if_neg hx]
    rw [if_neg hx]
    constructor
    · simp [channel, hsame]
    · intro n hn
      exact ⟨n, hsame.trans hn, fun hf => hf⟩

/-- A frame of data goes to the stream that accepts it, and to no other. -/
lemma Handles.gets_push {id : UInt32} {data : Bytes} {r : Poll (Except Error Unit)}
    (h : E.Handles true ⟨id, .push data⟩ E' r) (x : UInt32) (i : ℕ) :
    Gets E E' x i (if x = id ∧ E.accepts x i = true then [data] else []) := by
  cases h with
  | @push id k m data hslot hm hd hroom =>
      have hiff : (x = id ∧ E.accepts x i = true) ↔ (x = id ∧ i = k) := by
        refine and_congr_right fun hx => ?_
        subst hx
        constructor
        · intro hacc
          obtain ⟨hs, -⟩ := accepts_iff.mp hacc
          simpa [hslot, eq_comm] using hs
        · rintro rfl
          exact accepts_iff.mpr ⟨hslot, m, hm, hd, hroom⟩
      simp only [hiff]
      exact gets_dispatched data hm
  | @pushFull id k m data hslot hm hd hfull =>
      rw [if_neg]
      · exact .of_kept i (kept_closePort id x false)
      rintro ⟨rfl, hacc⟩
      obtain ⟨hs, n, hn, -, hroom⟩ := accepts_iff.mp hacc
      obtain ⟨⟨⟩⟩ := hslot.symm.trans hs
      obtain rfl := Option.some.inj (hm.symm.trans hn)
      exact absurd hroom (Nat.not_lt.mpr hfull)
  | pushClosed data hslot hm hd =>
      rw [if_neg]
      · exact .of_kept i (.refl _)
      rintro ⟨rfl, hacc⟩
      obtain ⟨hs, n, hn, hdn, -⟩ := accepts_iff.mp hacc
      obtain ⟨⟨⟩⟩ := hslot.symm.trans hs
      obtain rfl := Option.some.inj (hm.symm.trans hn)
      simp [hd] at hdn
  | pushBogus data hnone =>
      rw [if_neg]
      · refine .of_kept i ?_
        rw [streams_send]
        exact .refl _
      rintro ⟨rfl, hacc⟩
      obtain ⟨hs, n, hn, -⟩ := accepts_iff.mp hacc
      exact hnone i n hs hn

/-- The other frames leave the channels alone. -/
lemma Handles.kept {f : Frame} {r : Poll (Except Error Unit)} (h : E.Handles true f E' r)
    (htx : E.txOpen = false) (hf : ∀ data, f.payload ≠ .push data) (x : UInt32) :
    Kept (E.streams x) (E'.streams x) := by
  cases h with
  | connectUsed | ackBogus | finishBogus | finishRequested | bindOff =>
      rw [streams_send]
      exact .refl _
  | connect p hslot hopen => simp [htx] at hopen
  | @connectClosed id => exact kept_dropNew id x rfl
  | @ackEstablished id d => exact kept_modifyStream id x d.stream fun m _ => ⟨rfl, fun hf => hf⟩
  | @ackRequested id => exact kept_establish id x rfl
  | @ackGone id => exact kept_dropNew id x rfl
  | reset id => exact kept_closePort id x true
  | push data | pushFull data | pushClosed data | pushBogus data => exact absurd rfl (hf data)
  | finishBind | finishEstablished | bindIgnored | datagramGone | datagram | datagramLost =>
      exact .refl _
  | bind p hpos hig => cases hig

/-- **One message**: a handle gets what the message owes to it. -/
lemma gets_processMessage (htx : E.txOpen = false) (msg : Message) (x : UInt32) (i : ℕ) :
    Gets E (E.processMessage msg true).1 x i (E.owedBy x i msg) := by
  obtain ⟨hnone, heq⟩ | ⟨data, f, rfl, hdec, heq⟩ := E.processMessage_cases msg true
  · have howed : E.owedBy x i msg = [] := by
      rw [owedBy, Message.push_of_frame?_none x hnone]
    rw [howed, heq]
    exact .of_kept i (.refl _)
  · rw [heq]
    have hway := E.handles f true
    obtain ⟨id, p⟩ := f
    cases p with
    | push d =>
        have howed : E.owedBy x i (.binary data) =
            if x = id ∧ E.accepts x i = true then [d] else [] := by
          by_cases hid : id = x
          · simp [owedBy, Message.push, hdec, hid]
          · simp [owedBy, Message.push, hdec, hid, Ne.symm hid]
        rw [howed]
        exact hway.gets_push x i
    | _ =>
        have howed : E.owedBy x i (.binary data) = [] := by simp [owedBy, Message.push, hdec]
        rw [howed]
        exact .of_kept i (hway.kept htx (by simp) x)

/-- What `process_frame` answers when the queue is closed ... -/
lemma Handles.answer {f : Frame} {r : Poll (Except Error Unit)} (h : E.Handles true f E' r)
    (htx : E.txOpen = false) :
    (E.FailsFrame f ∧ ∃ e, r = .ready (.error e)) ∨ (¬ E.FailsFrame f ∧ r = .ready (.ok ())) := by
  cases h with
  | connectUsed p hslot => exact .inr ⟨hslot, rfl⟩
  | connect p hslot hopen => simp [htx] at hopen
  | connectClosed p hslot hclosed => exact .inl ⟨hslot, _, rfl⟩
  | ackEstablished n hslot => exact .inr ⟨not_callerGone (by simp [hslot]), rfl⟩
  | ackRequested n hslot hlistens => exact .inr ⟨not_callerGone_of_listens hslot hlistens, rfl⟩
  | ackGone n hslot hgone => exact .inl ⟨⟨_, hslot, hgone⟩, _, rfl⟩
  | ackBogus n hslot =>
      refine .inr ⟨not_callerGone fun j hj => ?_, rfl⟩
      rcases hslot with hslot | ⟨k, hslot⟩ <;> simp [hslot] at hj
  | bind p hpos hig => cases hig
  | datagramGone p hgone => exact .inl ⟨hgone, _, rfl⟩
  | datagram p halive hroom => exact .inr ⟨by simp [FailsFrame, halive], rfl⟩
  | datagramLost p halive hfull => exact .inr ⟨by simp [FailsFrame, halive], rfl⟩
  | _ => exact .inr ⟨fun h => h, rfl⟩

/-- ... and what `process_message` does. -/
lemma result_processMessage (htx : E.txOpen = false) (msg : Message) :
    (E.Fails msg ∧ ∃ e, (E.processMessage msg true).2 = .ready (.error e)) ∨
    (¬ E.Fails msg ∧ ∃ b, (E.processMessage msg true).2 = .ready (.ok b)) := by
  cases msg with
  | binary data =>
      cases hdec : Frame.tryFrom data with
      | error e =>
          exact .inl ⟨by simp [Fails, hdec], .invalidFrame e, by simp only [processMessage, hdec]⟩
      | ok f =>
          have hfails : E.Fails (.binary data) ↔ E.FailsFrame f := by simp [Fails, hdec]
          rw [hfails]
          rcases (E.handles f true).answer htx with ⟨hf, e, hres⟩ | ⟨hf, hres⟩
          · refine .inl ⟨hf, e, ?_⟩
            simp only [processMessage, hdec]
            split <;> simp_all
          · refine .inr ⟨hf, false, ?_⟩
            simp only [processMessage, hdec]
            split <;> simp_all
  | ping => exact .inr ⟨fun h => h, _, rfl⟩
  | pong => exact .inr ⟨fun h => h, _, rfl⟩
  | close => exact .inr ⟨fun h => h, _, rfl⟩

/-! ### After a failure -/

/-- A frame that fails leaves the map empty if it was, and if it is not a `Connect`. -/
lemma Handles.flows_of_fails {f : Frame} {r : Poll (Except Error Unit)}
    (h : E.Handles true f E' r) (htx : E.txOpen = false) (hf : E.FailsFrame f) :
    (∀ id, E'.flows id = none) ↔
      (∀ id, E.flows id = none) ∧ ∀ p, f.payload ≠ .connect p := by
  cases h with
  | connectUsed p hslot => exact absurd hf hslot
  | connect p hslot hopen => simp [htx] at hopen
  | @connectClosed id p hslot hclosed =>
      refine iff_of_false (fun hall => ?_) fun h => h.2 p rfl
      have hset := hall id
      simp [flows_dropStream, setSlot] at hset
  | @ackGone id j n hslot hgone =>
      refine iff_of_false (fun hall => ?_) fun h => ?_
      · have hset := hall id
        simp [flows_dropStream, setSlot] at hset
      · simp [h.1] at hslot
  | ackEstablished n hslot => exact absurd hf (not_callerGone (by simp [hslot]))
  | ackRequested n hslot hlistens => exact absurd hf (not_callerGone_of_listens hslot hlistens)
  | ackBogus n hslot =>
      refine absurd hf (not_callerGone fun j hj => ?_)
      rcases hslot with hslot | ⟨k, hslot⟩ <;> simp [hslot] at hj
  | datagramGone p hgone => simp
  | datagram p halive hroom | datagramLost p halive hfull =>
      have hgone : E.muxAlive = false := hf
      simp [halive] at hgone
  | _ => exact hf.elim

/-- A message that fails leaves the map empty if it was, and if it is not a `Connect`. -/
lemma flows_of_fails (htx : E.txOpen = false) {msg : Message} (hf : E.Fails msg) :
    (∀ id, (E.processMessage msg true).1.flows id = none) ↔
      (∀ id, E.flows id = none) ∧ msg.isConnect = false := by
  cases msg with
  | binary data =>
      cases hdec : Frame.tryFrom data with
      | error e => simp [processMessage, Message.isConnect, hdec]
      | ok f =>
          have hfails : E.FailsFrame f := by simpa [Fails, hdec] using hf
          rw [fst_processMessage hdec, (E.handles f true).flows_of_fails htx hfails]
          obtain ⟨id, p⟩ := f
          cases p <;> simp [Message.isConnect, hdec]
  | _ => exact hf.elim

lemma dropped_dropStream {id : UInt32} {i : ℕ} {m : MuxStream}
    (hm : ((E.dropStream id i).streams id)[i]? = some m) : m.dropped = true := by
  unfold dropStream at hm
  split at hm
  case h_1 n hn =>
    split at hm
    case isTrue hd =>
      obtain rfl : n = m := by simpa [hn] using hm
      exact hd
    case isFalse =>
      simp only [modifyStream, Function.update_self, List.getElem?_modify_eq, hn] at hm
      obtain rfl := Option.some.inj hm
      rfl
  case h_2 hn => simp [hn] at hm

/-- No stream of the flow takes data, and none is about to be established. -/
def Dead (E : Endpoint) (id : UInt32) : Prop := (∀ j, E.flows id ≠ some (.requested j)) ∧
  ∀ i m, E.flows id = some (.established ⟨i, true⟩) → (E.streams id)[i]? = some m →
    m.dropped = true

lemma Dead.accepts {id : UInt32} (h : E.Dead id) (i : ℕ) : E.accepts id i = false := by
  by_contra hacc
  obtain ⟨hslot, m, hm, hd, -⟩ := accepts_iff.mp (by simpa using hacc)
  simp [h.2 i m hslot hm] at hd

lemma Dead.congr {E' : Endpoint} {id : UInt32} (h : E.Dead id) (hflows : E'.flows id = E.flows id)
    (hst : E'.streams id = E.streams id) : E'.Dead id := by
  unfold Dead
  rw [hflows, hst]
  exact h

lemma Dead.send {id : UInt32} (h : E.Dead id) (f : Frame) : (E.send f).Dead id :=
  h.congr (by simp) (by simp)

lemma dead_of_closed {id : UInt32} (h : E.flows id = none) : E.Dead id := by
  simp [Dead, h]

lemma Dead.closePort {id : UInt32} (inhibit : Bool) : (E.closePort id inhibit).Dead id :=
  dead_of_closed (congrArg View.slot (view_closePort (E := E) (x := id) inhibit))

/-- The handle of the slot has been dropped. -/
lemma dead_dropNew (id : UInt32) (m : MuxStream) :
    ((E.establish id m).dropStream id (E.streams id).length).Dead id := by
  refine ⟨by simp [flows_dropStream, setSlot], fun i n hs hn => ?_⟩
  simp only [flows_dropStream, setSlot, Function.update_self, Option.some.injEq,
    FlowSlot.established.injEq, EstablishedStreamData.mk.injEq, and_true] at hs
  subst hs
  exact dropped_dropStream hn

/-- Without a stream that takes data, no frame brings one about. -/
lemma Handles.dead {f : Frame} {r : Poll (Except Error Unit)} (h : E.Handles true f E' r)
    (htx : E.txOpen = false) {x : UInt32} (hdead : E.Dead x) : E'.Dead x := by
  by_cases hx : x = f.id
  swap
  · have hentry := h.within.entry x hx
    exact hdead.congr (congrArg Entry.slot hentry) (congrArg Entry.streams hentry)
  subst hx
  cases h with
  | connectUsed | ackBogus | finishBogus | pushBogus | bindOff => exact hdead.send _
  | connect p hslot hopen => simp [htx] at hopen
  | connectClosed => exact dead_dropNew _ _
  | @ackEstablished id d n hslot =>
      refine ⟨hdead.1, fun i m hs hm => ?_⟩
      have hs' : E.flows id = some (.established ⟨i, true⟩) := hs
      rw [modifyStream, Lists.getElem?_update_modify] at hm
      split_ifs at hm with hchanged
      · obtain ⟨-, rfl⟩ := hchanged
        obtain ⟨n, hn, rfl⟩ := Option.map_eq_some_iff.mp hm
        exact hdead.2 _ n hs' hn
      · exact hdead.2 i m hs' hm
  | ackRequested n hslot | ackGone n hslot => exact absurd hslot (hdead.1 _)
  | finishBind => exact dead_of_closed (by simp [modifyBindCall, setSlot])
  | finishRequested hslot => exact absurd hslot (hdead.1 _)
  | finishEstablished => simp [Dead, setSlot]
  | reset | pushFull => exact .closePort _
  | push data hslot hm hd =>
      have hdropped := hdead.2 _ _ hslot hm
      simp [hd] at hdropped
  | bind p hpos hig => cases hig
  | pushClosed | bindIgnored | datagramGone | datagram | datagramLost => exact hdead

/-- Nothing is owed to a flow without a stream that takes data. -/
lemma owed_of_dead {res : Except Error Unit} (hph : E.phase = .reading res) {id : UInt32}
    (h : E.Dead id) (i : ℕ) (msgs : List Message) : E.owed id i msgs = [] := by
  induction msgs generalizing E with
  | nil => rfl
  | cons msg msgs ih =>
      have htx : E.txOpen = false := by simp [txOpen, hph, Phase.isOpen]
      have hfin : E.phase.isFinished = false := by simp [hph, Phase.isFinished]
      have hnow : E.owedBy id i msg = [] := by
        unfold owedBy
        split
        · simp [h.accepts]
        · rfl
      have hph' := (sim_processMessage msg true id hfin).2
      have hdead : (E.processMessage msg true).1.Dead id := by
        obtain ⟨-, heq⟩ | ⟨data, f, -, -, heq⟩ := E.processMessage_cases msg true
        · rwa [heq]
        · rw [heq]
          exact (E.handles f true).dead htx h
      rw [owed, hnow, ih (hph'.trans hph) hdead]
      rfl

/-! ### Calls that wait -/

lemma Unanswered.isRequest {id : UInt32} {s : FlowSlot} (h : E.Unanswered id s) :
    s.isRequest = true := by
  cases s with
  | established d => exact absurd h.2.1 (by simp [listens])
  | requested j | bindRequested j => rfl

lemma listens_of_same {x : UInt32} {s : FlowSlot} (h : Same E E') :
    E'.listens x s = E.listens x s :=
  listens_congr (congrFun h.calls x) (congrFun h.bindCalls x)

lemma listens_answer {x : UInt32} {s : FlowSlot} (id : UInt32) (j : ℕ) (r : Option ℕ) :
    (E.modifyCall id j (StreamCall.answer r)).listens x s = E.listens x s := by
  cases s with
  | established d | bindRequested k => rfl
  | requested k =>
      simp only [listens, modifyCall, Lists.getElem?_update_modify]
      split_ifs with hchanged
      · obtain ⟨rfl, rfl⟩ := hchanged
        cases (E.calls x)[k]? <;> simp [stage_answer]
      · rfl

lemma listens_bindAnswer {x : UInt32} {s : FlowSlot} (id : UInt32) (j : ℕ) (r : Bool) :
    (E.modifyBindCall id j (BindCall.answer r)).listens x s = E.listens x s := by
  cases s with
  | established d | requested k => rfl
  | bindRequested k =>
      simp only [listens, modifyBindCall, Lists.getElem?_update_modify]
      split_ifs with hchanged
      · obtain ⟨rfl, rfl⟩ := hchanged
        cases (E.bindCalls x)[k]? <;> simp [stage_bindAnswer]
      · rfl

lemma listens_closePort {x : UInt32} {s : FlowSlot} (id : UInt32) (inhibit : Bool) :
    (E.closePort id inhibit).listens x s = E.listens x s := by
  unfold closePort
  split
  case h_2 => rfl
  case h_1 removed hslot =>
    unfold closePortLocal
    cases removed with
    | requested j => exact listens_answer (E := E.setSlot id none) id j none
    | bindRequested j => exact listens_bindAnswer (E := E.setSlot id none) id j false
    | established d =>
        dsimp only
        split_ifs
        · exact (listens_of_same (.send _)).trans rfl
        · rfl

/-- The task does not make a call stop listening. -/
lemma Handles.listens {f : Frame} {r : Poll (Except Error Unit)} {x : UInt32} {s : FlowSlot}
    (h : E.Handles true f E' r) (htx : E.txOpen = false) : E'.listens x s = E.listens x s := by
  cases h with
  | connectUsed | ackBogus | finishBogus | pushBogus | bindOff => exact listens_of_same (.send _)
  | connect p hslot hopen => simp [htx] at hopen
  | connectClosed | ackGone => exact (listens_of_same (.dropStream _ _)).trans rfl
  | ackRequested => exact (listens_answer _ _ _).trans rfl
  | finishBind => exact (listens_bindAnswer _ _ _).trans rfl
  | finishRequested => exact (listens_of_same (.send _)).trans rfl
  | reset | pushFull => exact listens_closePort _ _
  | bind p hpos hig => cases hig
  | ackEstablished | finishEstablished | push | pushClosed | bindIgnored | datagramGone | datagram
    | datagramLost => rfl

lemma listens_processMessage (htx : E.txOpen = false) (msg : Message) (x : UInt32)
    (s : FlowSlot) : (E.processMessage msg true).1.listens x s = E.listens x s := by
  obtain ⟨-, heq⟩ | ⟨data, f, -, -, heq⟩ := E.processMessage_cases msg true
  · rw [heq]
  · rw [heq]
    exact (E.handles f true).listens htx

/-- A message leaves a call waiting, or tells it something, or strands it. -/
lemma Unanswered.processMessage (htx : E.txOpen = false) {msg : Message} (hs : ¬ E.Strands msg)
    {x : UInt32} {s : FlowSlot} (h : E.Unanswered x s) :
    (E.processMessage msg true).1.Unanswered x s ∨
      (E.processMessage msg true).1.flows x ≠ some s ∧
        ((E.processMessage msg true).1.told x s).isSome = true := by
  obtain ⟨hslot, hl, hnone⟩ := h
  have hset : Settles (E.Strands msg) x E (E.processMessage msg true).1 :=
    settles_processMessage msg true fun id j hframe hj hl hnone => ⟨id, j, hframe, hj, hl, hnone⟩
  by_cases hkept : (E.processMessage msg true).1.flows x = some s
  · refine .inl ⟨hkept, (listens_processMessage htx msg x s).trans hl, ?_⟩
    exact ((hset.told s).resolve_right fun h => h.2 hkept).trans hnone
  · exact .inr ⟨hkept, hset.answered hs s hslot hkept hl⟩

/-- Nobody begins to wait. -/
lemma Unanswered.of_processMessage {msg : Message} {x : UInt32} {s : FlowSlot}
    (h : (E.processMessage msg true).1.Unanswered x s) : E.Unanswered x s := by
  have hset : Settles True x E (E.processMessage msg true).1 :=
    settles_processMessage msg true fun _ _ _ _ _ _ => trivial
  obtain ⟨hslot, hl, hnone⟩ := h
  refine ⟨hset.slot s (Unanswered.isRequest ⟨hslot, hl, hnone⟩) hslot, hset.listens s hl, ?_⟩
  exact ((hset.told s).resolve_right fun h => h.2 hslot).symm.trans hnone

/-- A call that is stranded has lost its slot and has not been told anything. -/
lemma Strands.lost {msg : Message} (h : E.Strands msg) : ∃ id j, E.Unanswered id (.requested j) ∧
    (E.processMessage msg true).1.flows id = none ∧
    (E.processMessage msg true).1.told id (.requested j) = none := by
  obtain ⟨id, j, hframe, hwaits⟩ := h
  refine ⟨id, j, hwaits, ?_⟩
  obtain ⟨hnone, -⟩ | ⟨data, f, rfl, hdec, heq⟩ := E.processMessage_cases msg true
  · simp [hnone] at hframe
  · obtain rfl := Option.some.inj ((Message.frame?_binary hdec).symm.trans hframe)
    rw [heq]
    simp only [Endpoint.processFrame, hwaits.1]
    refine ⟨by simp [setSlot], ?_⟩
    rw [told_congr (congrFun (Same.send _).calls id) (congrFun (Same.send _).bindCalls id)]
    exact hwaits.2.2

lemma not_strands_of_fails {msg : Message} (hf : E.Fails msg) : ¬ E.Strands msg := by
  rintro ⟨id, j, hframe, -⟩
  cases msg with
  | binary data =>
      cases hdec : Frame.tryFrom data with
      | ok f =>
          obtain rfl := Option.some.inj ((Message.frame?_binary hdec).symm.trans hframe)
          have hfails : E.FailsFrame ⟨id, .finish⟩ := by simpa [Fails, hdec] using hf
          exact hfails
      | error e => simp [Message.frame?, hdec, Except.toOption] at hframe
  | _ => cases hframe

/-- Whoever waits in the one state has been told something in the other, or is still to be told. -/
def Minds (E F : Endpoint) : Prop :=
  ∀ id s, E.Unanswered id s → F.flows id = some s ∨ (F.told id s).isSome = true

/-! ### Streams that are made -/

/-- From the `n`th on, the handles are closed, but for that of the slot. -/
def ClosedFrom (E : Endpoint) (id : UInt32) (n : ℕ) : Prop :=
  ∀ i m, n ≤ i → (E.streams id)[i]? = some m →
    m.finishSent = true ∨ ∃ b, E.flows id = some (.established ⟨i, b⟩)

namespace ClosedFrom

variable {id : UInt32} {n : ℕ}

lemma congr (h : E.ClosedFrom id n) (hflows : E'.flows id = E.flows id)
    (hst : E'.streams id = E.streams id) : E'.ClosedFrom id n := by
  unfold ClosedFrom
  rw [hflows, hst]
  exact h

lemma send (h : E.ClosedFrom id n) (f : Frame) : (E.send f).ClosedFrom id n :=
  h.congr (by simp) (by simp)

lemma modifyStream (h : E.ClosedFrom id n) (k : ℕ) {g : MuxStream → MuxStream}
    (hg : ∀ m, m.finishSent = true → (g m).finishSent = true) :
    (E.modifyStream id k g).ClosedFrom id n := by
  intro i m hi hm
  rw [Endpoint.modifyStream, Lists.getElem?_update_modify] at hm
  split_ifs at hm with hchanged
  · obtain ⟨-, rfl⟩ := hchanged
    obtain ⟨m₀, hm₀, rfl⟩ := Option.map_eq_some_iff.mp hm
    exact (h i m₀ hi hm₀).imp_left (hg m₀)
  · exact h i m hi hm

lemma dropStream (h : E.ClosedFrom id n) (k : ℕ) : (E.dropStream id k).ClosedFrom id n := by
  unfold Endpoint.dropStream
  split
  · split_ifs
    · exact h
    all_goals
      refine ClosedFrom.congr (h.modifyStream k (g := fun m =>
        { m with dropped := true, frameRx := [], buf := [] }) fun _ hf => hf) rfl rfl
  · exact h

/-- As long as no slot is established, all of them are closed. -/
lemma finished (h : E.ClosedFrom id n) (hslot : ∀ d, E.flows id ≠ some (.established d)) {i : ℕ}
    {m : MuxStream} (hi : n ≤ i) (hm : (E.streams id)[i]? = some m) : m.finishSent = true :=
  (h i m hi hm).resolve_right fun ⟨_, hb⟩ => hslot _ hb

lemma establish (h : E.ClosedFrom id n) (hslot : ∀ d, E.flows id ≠ some (.established d))
    (m : MuxStream) : (E.establish id m).ClosedFrom id n := by
  intro i m' hi hm'
  simp only [setSlot, addStream, Function.update_self] at hm'
  rcases Lists.getElem?_concat_iff.mp hm' with hold | ⟨rfl, -⟩
  · exact .inl (h.finished hslot hi hold)
  · exact .inr ⟨true, by simp [setSlot]⟩

lemma clear (h : E.ClosedFrom id n) (hslot : ∀ d, E.flows id ≠ some (.established d)) :
    (E.setSlot id none).ClosedFrom id n := fun _ _ hi hm => .inl (h.finished hslot hi hm)

lemma closePort (h : E.ClosedFrom id n) (inhibit : Bool) :
    (E.closePort id inhibit).ClosedFrom id n := by
  unfold Endpoint.closePort
  split
  case h_2 => exact h
  case h_1 removed hslot =>
    unfold closePortLocal
    cases removed with
    | requested j | bindRequested j => exact (h.clear (by simp [hslot])).congr rfl rfl
    | established d =>
        have hmod : ((E.setSlot id none).modifyStream id d.stream
            MuxStream.disallowWrite).ClosedFrom id n := by
          intro i m hi hm
          rw [Endpoint.modifyStream, Lists.getElem?_update_modify] at hm
          split_ifs at hm with hd
          · obtain ⟨m₀, -, rfl⟩ := Option.map_eq_some_iff.mp hm
            exact .inl rfl
          · refine .inl ((h i m hi hm).resolve_right ?_)
            rintro ⟨b, hb⟩
            obtain rfl := FlowSlot.established.inj (Option.some.inj (hslot.symm.trans hb))
            exact hd ⟨rfl, rfl⟩
        dsimp only
        split_ifs
        · exact hmod.send _
        · exact hmod

end ClosedFrom

lemma Handles.closedFrom {f : Frame} {r : Poll (Except Error Unit)} (h : E.Handles true f E' r)
    (htx : E.txOpen = false) {x : UInt32} {n : ℕ} (hc : E.ClosedFrom x n) :
    E'.ClosedFrom x n := by
  by_cases hx : x = f.id
  swap
  · have hentry := h.within.entry x hx
    exact hc.congr (congrArg Entry.slot hentry) (congrArg Entry.streams hentry)
  subst hx
  cases h with
  | connectUsed | ackBogus | finishBogus | pushBogus | bindOff => exact hc.send _
  | connect p hslot hopen => simp [htx] at hopen
  | connectClosed p hslot => exact (hc.establish (by simp [hslot]) _).dropStream _
  | ackEstablished => exact hc.modifyStream _ fun _ hf => hf
  | ackRequested n hslot => exact (hc.establish (by simp [hslot]) _).congr rfl rfl
  | ackGone n hslot => exact (hc.establish (by simp [hslot]) _).dropStream _
  | finishBind hslot => exact (hc.clear (by simp [hslot])).congr rfl rfl
  | finishRequested hslot => exact (hc.clear (by simp [hslot])).send _
  | @finishEstablished id d hslot =>
      refine fun i m hi hm => (hc i m hi hm).imp_right ?_
      rintro ⟨b, hb⟩
      obtain rfl := FlowSlot.established.inj (Option.some.inj (hslot.symm.trans hb))
      exact ⟨false, by simp [setSlot]⟩
  | reset | pushFull => exact hc.closePort _
  | push => exact hc.modifyStream _ fun _ hf => hf
  | bind p hpos hig => cases hig
  | pushClosed | bindIgnored | datagramGone | datagram | datagramLost => exact hc

lemma ClosedFrom.processMessage (htx : E.txOpen = false) {id : UInt32} {n : ℕ}
    (h : E.ClosedFrom id n) (msg : Message) :
    (E.processMessage msg true).1.ClosedFrom id n := by
  obtain ⟨-, heq⟩ | ⟨data, f, -, -, heq⟩ := E.processMessage_cases msg true
  · rwa [heq]
  · rw [heq]
    exact (E.handles f true).closedFrom htx h

/-! ### The loop -/

section Loop

variable {res : Except Error Unit}

lemma txOpen_of_reading (hph : E.phase = .reading res) : E.txOpen = false := by
  simp [txOpen, hph, Phase.isOpen]

lemma phase_processMessage (hph : E.phase = .reading res) (msg : Message) :
    (E.processMessage msg true).1.phase = .reading res :=
  (sim_processMessage msg true 0 (by simp [hph, Phase.isFinished])).2.trans hph

/-- What every message preserves, the loop preserves. -/
lemma readRemaining_induction {I : Endpoint → Prop}
    (hstep : ∀ E msg, E.phase = .reading res → I E → I (E.processMessage msg true).1)
    (hph : E.phase = .reading res) (h : I E) (msgs : List Message) :
    I (E.readRemaining msgs).1 := by
  induction msgs generalizing E with
  | nil => exact h
  | cons msg msgs ih =>
      have hnow := hstep E msg hph h
      have hph' := phase_processMessage hph msg
      rw [readRemaining]
      rcases hres : E.processMessage msg true with ⟨E', (_ | b) | _⟩ <;> rw [hres] at hph' hnow
      · exact hnow
      · exact ih hph' hnow
      · exact hnow

/-- A handle that is there stays, and stays closed if it was. -/
lemma finished_readRemaining (hph : E.phase = .reading res) {id : UInt32} {i : ℕ} {m : MuxStream}
    (msgs : List Message) (hm : (E.streams id)[i]? = some m) :
    ∃ m', ((E.readRemaining msgs).1.streams id)[i]? = some m' ∧
      (m.finishSent = true → m'.finishSent = true) := by
  refine readRemaining_induction (I := fun F => ∃ m', (F.streams id)[i]? = some m' ∧
    (m.finishSent = true → m'.finishSent = true)) ?_ hph ⟨m, hm, fun hf => hf⟩ msgs
  rintro F msg hF ⟨m', hm', hkeep⟩
  obtain ⟨m'', hm'', hkeep'⟩ :=
    (gets_processMessage (txOpen_of_reading hF) msg id i).finished m' hm'
  exact ⟨m'', hm'', fun hf => hkeep' (hkeep hf)⟩

lemma listens_readRemaining (hph : E.phase = .reading res) (msgs : List Message) (x : UInt32)
    (s : FlowSlot) : (E.readRemaining msgs).1.listens x s = E.listens x s :=
  readRemaining_induction (I := fun F => F.listens x s = E.listens x s)
    (fun _ msg hF h => (listens_processMessage (txOpen_of_reading hF) msg x s).trans h) hph rfl msgs

/-- A call without a slot is not told anything any more. -/
lemma told_readRemaining (hph : E.phase = .reading res) (msgs : List Message) {x : UInt32}
    {s : FlowSlot} (hs : s.isRequest = true) (hslot : E.flows x ≠ some s) :
    (E.readRemaining msgs).1.flows x ≠ some s ∧
      (E.readRemaining msgs).1.told x s = E.told x s := by
  refine readRemaining_induction (I := fun F => F.flows x ≠ some s ∧ F.told x s = E.told x s)
    (fun F msg _ ⟨hF, htold⟩ => ?_) hph ⟨hslot, rfl⟩ msgs
  have hset : Settles True x F (F.processMessage msg true).1 :=
    settles_processMessage msg true fun _ _ _ _ _ _ => trivial
  exact ⟨fun h => hF (hset.slot s hs h), ((hset.told s).resolve_right fun h => hF h.1).trans htold⟩

/-- Nobody is forgotten if the message does not strand a call, and none behind it. -/
lemma minds_cons (hph : E.phase = .reading res) (msg : Message) {F : Endpoint}
    (hF : ∀ x s, s.isRequest = true → (E.processMessage msg true).1.flows x ≠ some s →
      F.flows x ≠ some s ∧ F.told x s = (E.processMessage msg true).1.told x s) :
    E.Minds F ↔ ¬ E.Strands msg ∧ (E.processMessage msg true).1.Minds F := by
  constructor
  · intro h
    refine ⟨fun hs => ?_, fun id s hw => h id s hw.of_processMessage⟩
    obtain ⟨id, j, hw, hslot, hnone⟩ := hs.lost
    obtain ⟨hlost, htold⟩ := hF id (.requested j) rfl (by simp [hslot])
    rcases h id _ hw with hkept | hsome
    · exact hlost hkept
    · simp [htold, hnone] at hsome
  · rintro ⟨hs, h⟩ id s hw
    rcases hw.processMessage (txOpen_of_reading hph) hs with hw' | ⟨hslot, htold⟩
    · exact h id s hw'
    · exact .inr ((hF id s hw.isRequest hslot).2 ▸ htold)

/-- **The loop over the remaining messages**: all that is owed is delivered, nobody is forgotten,
and the loop comes to its end or leaves an empty map, just when it is not disturbed. -/
lemma readRemaining_iff (hph : E.phase = .reading res) (msgs : List Message) :
    ((∀ id i, (E.readRemaining msgs).1.channel id i = E.channel id i ++ E.owed id i msgs) ∧
      ((E.readRemaining msgs).2 = .ok () ∨ ∀ id, (E.readRemaining msgs).1.flows id = none) ∧
      E.Minds (E.readRemaining msgs).1) ↔ E.Undisturbed msgs := by
  induction msgs generalizing E with
  | nil =>
      have hminds : E.Minds E := fun id s hw => .inl hw.1
      simp [readRemaining, owed, Undisturbed, hminds]
  | cons msg msgs ih =>
      have htx := txOpen_of_reading hph
      have hph' := phase_processMessage hph msg
      have hgets := fun id i => (gets_processMessage htx msg id i).channel
      rcases result_processMessage htx msg with ⟨hf, e, hres⟩ | ⟨hf, b, hres⟩
      · -- the message fails
        have hread : E.readRemaining (msg :: msgs) = ((E.processMessage msg true).1, .error e) := by
          rw [readRemaining]
          split <;> simp_all
        have hs := not_strands_of_fails hf
        have hminds : E.Minds (E.processMessage msg true).1 :=
          (minds_cons hph msg fun _ _ _ h => ⟨h, rfl⟩).mpr ⟨hs, fun _ _ hw => .inl hw.1⟩
        have hund : E.Undisturbed (msg :: msgs) ↔
            (∀ id, E.flows id = none) ∧ msg.isConnect = false := by
          simp [Undisturbed, hf, hs]
        rw [hund, hread, ← flows_of_fails htx hf]
        constructor
        · rintro ⟨-, hok | hnone, -⟩
          · cases hok
          · exact hnone
        · intro hnone
          refine ⟨fun id i => ?_, .inr hnone, hminds⟩
          rw [hgets, owed, owed_of_dead hph' (dead_of_closed (hnone id)), List.append_nil]
      · -- the loop goes on
        have hread : E.readRemaining (msg :: msgs) =
            (E.processMessage msg true).1.readRemaining msgs := by
          rw [readRemaining]
          split <;> simp_all
        have hund : E.Undisturbed (msg :: msgs) ↔
            ¬ E.Strands msg ∧ (E.processMessage msg true).1.Undisturbed msgs := by
          simp [Undisturbed, hf]
        have hminds := minds_cons hph msg fun x s hs hlost => told_readRemaining hph' msgs hs hlost
        rw [hund, hread, ← ih hph', hminds]
        simp only [hgets, owed, List.append_assoc]
        tauto

end Loop

/-! ### The whole of it -/

/-- `wind_down` up to its loop: the streams cannot send, the queue is closed, and part of what
was in it has been sent. -/
def closing (E : Endpoint) (shouldDrainFrameRx : Bool) (res : Except Error Unit) (sent : ℕ) :
    Endpoint :=
  let E := { E.disallowWrites with phase := .reading res }
  if shouldDrainFrameRx then { E with txFrames := E.txFrames.drop sent } else E

/-- What `wind_down` is to achieve, from the state `E` it starts in, through the states `E₀`
and `E₁` before and after its loop, to the state `F` it returns in. -/
structure WoundDown (E E₀ E₁ F : Endpoint) (msgs : List Message) : Prop where
  /-- Every `Push` that a stream could take has been put into its channel. -/
  dispatched : ∀ id i, F.channel id i = E.channel id i ++ E₀.owed id i msgs
  empty : ∀ id, F.flows id = none
  /-- Streams that were established are closed, in both directions. -/
  closed : ∀ id i b m, (E.flows id = some (.established ⟨i, b⟩) ∧ (E.streams id)[i]? = some m ∨
      E₁.flows id = some (.established ⟨i, b⟩) ∧ (E₁.streams id)[i]? = some m) →
    ∃ m', (F.streams id)[i]? = some m' ∧ m'.finishSent = true ∧ F.senderAlive id i = false
  /-- So are those that the remaining messages have established. -/
  made : ∀ id i m, (E.streams id).length ≤ i → (F.streams id)[i]? = some m → m.finishSent = true
  /-- Every call that waited has been sent its answer, ... -/
  answered : ∀ id s, E.Unanswered id s → (F.told id s).isSome = true
  /-- ... and if the remaining messages had none for it, that is `None` or `false`. -/
  refused : ∀ id s, E₁.flows id = some s → E₁.listens id s = true → F.told id s = s.refusal

lemma streams_closing (drain : Bool) (res : Except Error Unit) (sent : ℕ) :
    (E.closing drain res sent).streams = E.disallowWrites.streams := by
  cases drain <;> rfl

lemma phase_closing (drain : Bool) (res : Except Error Unit) (sent : ℕ) :
    (E.closing drain res sent).phase = .reading res := by
  cases drain <;> rfl

lemma unanswered_closing (drain : Bool) (res : Except Error Unit) (sent : ℕ) {id : UInt32}
    {s : FlowSlot} : (E.closing drain res sent).Unanswered id s ↔ E.Unanswered id s := by
  cases drain <;> cases s <;> rfl

lemma windDown_eq (drain : Bool) (res : Except Error Unit) (sent : ℕ) (msgs : List Message) :
    E.windDown drain res sent msgs =
      match (E.closing drain res sent).readRemaining msgs with
      | (E₁, .ok ()) => (E₁.drainFlows, .ok ())
      | (E₁, .error e) => (E₁, .error e) := by
  cases drain <;> rfl

lemma length_disallowWrites (id : UInt32) :
    (E.disallowWrites.streams id).length = (E.streams id).length := by
  simp only [disallowWrites]
  split
  · simp
  · rfl

/-- Setting `finish_sent` on the streams of established slots leaves their channels alone. -/
lemma disallowWrites_getElem? {id : UInt32} {i : ℕ} {m : MuxStream}
    (hm : (E.streams id)[i]? = some m) : ∃ m', (E.disallowWrites.streams id)[i]? = some m' ∧
      m'.frameRx = m.frameRx ∧ (m.finishSent = true → m'.finishSent = true) ∧
      (∀ b, E.flows id = some (.established ⟨i, b⟩) → m'.finishSent = true) := by
  simp only [disallowWrites]
  split
  case h_1 d hslot =>
    by_cases hd : d.stream = i
    · exact ⟨m.disallowWrite, by simp [hd, hm], rfl, fun _ => rfl, fun _ _ => rfl⟩
    · refine ⟨m, by simp [hd, hm], rfl, fun hf => hf, fun b hb => ?_⟩
      obtain rfl : d = ⟨i, b⟩ := by simpa [hslot] using hb
      exact absurd rfl hd
  case h_2 hslot =>
    refine ⟨m, hm, rfl, fun hf => hf, fun b hb => ?_⟩
    exact absurd hb (hslot _)

lemma channel_disallowWrites (id : UInt32) (i : ℕ) :
    E.disallowWrites.channel id i = E.channel id i := by
  unfold channel
  cases hm : (E.streams id)[i]? with
  | some m =>
      obtain ⟨m', hm', hrx, -⟩ := disallowWrites_getElem? hm
      simp [hm', hrx]
  | none =>
      have hnone : (E.disallowWrites.streams id)[i]? = none := by
        rw [List.getElem?_eq_none_iff, length_disallowWrites]
        exact List.getElem?_eq_none_iff.mp hm
      simp [hnone]

lemma channel_closing (drain : Bool) (res : Except Error Unit) (sent : ℕ) (id : UInt32) (i : ℕ) :
    (E.closing drain res sent).channel id i = E.channel id i := by
  rw [← channel_disallowWrites (E := E)]
  unfold channel
  rw [streams_closing]

/-- Nothing has been made when the loop begins. -/
lemma closedFrom_closing (drain : Bool) (res : Except Error Unit) (sent : ℕ) (id : UInt32) :
    (E.closing drain res sent).ClosedFrom id (E.streams id).length := by
  intro i m hi hm
  rw [streams_closing] at hm
  have hlt := (List.getElem?_eq_some_iff.mp hm).1
  rw [length_disallowWrites] at hlt
  omega

/-- A stream that was established at the start stays closed throughout the loop. -/
lemma finished_of_closing (drain : Bool) (res : Except Error Unit) (sent : ℕ)
    (msgs : List Message) {id : UInt32} {i : ℕ} {b : Bool} {m : MuxStream}
    (hslot : E.flows id = some (.established ⟨i, b⟩)) (hm : (E.streams id)[i]? = some m) :
    ∃ m', (((E.closing drain res sent).readRemaining msgs).1.streams id)[i]? = some m' ∧
      m'.finishSent = true := by
  obtain ⟨m₀, hm₀, -, -, hclosed⟩ := disallowWrites_getElem? hm
  rw [← streams_closing drain res sent] at hm₀
  obtain ⟨m', hm', hkeep⟩ := finished_readRemaining (phase_closing drain res sent) msgs hm₀
  exact ⟨m', hm', hkeep (hclosed b hslot)⟩

/-! ### The last of it -/

lemma ClosedFrom.drainFlows {id : UInt32} {n i : ℕ} {m : MuxStream} (h : E.ClosedFrom id n)
    (hi : n ≤ i) (hm : (E.drainFlows.streams id)[i]? = some m) : m.finishSent = true := by
  cases hm₀ : (E.streams id)[i]? with
  | none =>
      have hlt := (List.getElem?_eq_some_iff.mp hm).1
      have hle := List.getElem?_eq_none_iff.mp hm₀
      have hlen := length_disallowWrites (E := E) id
      exact absurd hlt (Nat.not_lt.mpr (hlen.trans_le hle))
  | some m₀ =>
      obtain ⟨m', hm', -, hkeep, hclosed⟩ := disallowWrites_getElem? hm₀
      obtain rfl := Option.some.inj (hm'.symm.trans hm)
      rcases h i m₀ hi hm₀ with hf | ⟨b, hb⟩
      · exact hkeep hf
      · exact hclosed b hb

/-- A call that still waits is refused. -/
lemma told_drainFlows {id : UInt32} {s : FlowSlot} (hslot : E.flows id = some s)
    (hl : E.listens id s = true) : E.drainFlows.told id s = s.refusal := by
  cases s with
  | established d => rfl
  | requested j =>
      obtain ⟨c, hc, hst⟩ := (Option.any_eq_true _ _).mp hl
      simp [told, drainFlows, hslot, hc, StreamCall.answer, hst, FlowSlot.refusal]
  | bindRequested j =>
      obtain ⟨c, hc, hst⟩ := (Option.any_eq_true _ _).mp hl
      simp [told, drainFlows, hslot, hc, BindCall.answer, hst, FlowSlot.refusal]

lemma told_drainFlows_of_ne {id : UInt32} {s : FlowSlot} (hslot : E.flows id ≠ some s) :
    E.drainFlows.told id s = E.told id s := by
  have hset : Settles False id E (E.finish (.ok ())) := .finish _
  exact (hset.told s).resolve_right fun h => hslot h.1

/-- Every call that waited has been told, if those that lost their slot have been. -/
lemma minds_iff_drainFlows {E₁ : Endpoint} (hl : ∀ id s, E₁.listens id s = E.listens id s) :
    E.Minds E₁ ↔ ∀ id s, E.Unanswered id s → (E₁.drainFlows.told id s).isSome = true := by
  refine forall₃_congr fun id s hw => ?_
  by_cases hslot : E₁.flows id = some s
  · have hrefused := told_drainFlows hslot ((hl id s).trans hw.2.1)
    have hsome : s.refusal.isSome = true := by
      have hreq := hw.isRequest
      cases s <;> first | rfl | cases hreq
    exact iff_of_true (.inl hslot) (hrefused ▸ hsome)
  · rw [told_drainFlows_of_ne hslot]
    simp [hslot]

/-- **Winding down**: whatever state the select leaves, and whatever the source still yields,
`wind_down` does all it is there for if and only if no remaining message fails before the map
is empty, and none is a `Finish` for a call that waits. -/
theorem windDown_complete_iff (E : Endpoint) (drain : Bool) (res : Except Error Unit) (sent : ℕ)
    (msgs : List Message) :
    WoundDown E (E.closing drain res sent) ((E.closing drain res sent).readRemaining msgs).1
      (E.windDown drain res sent msgs).1 msgs ↔ (E.closing drain res sent).Undisturbed msgs := by
  have hph := phase_closing (E := E) drain res sent
  have hstart : ∀ id i b m, E.flows id = some (.established ⟨i, b⟩) →
      (E.streams id)[i]? = some m →
      ∃ m', (((E.closing drain res sent).readRemaining msgs).1.streams id)[i]? = some m' ∧
        m'.finishSent = true :=
    fun _ _ _ _ hslot hm => finished_of_closing drain res sent msgs hslot hm
  have hmade : ∀ id, ((E.closing drain res sent).readRemaining msgs).1.ClosedFrom id
      (E.streams id).length := fun id =>
    readRemaining_induction (I := fun F => F.ClosedFrom id (E.streams id).length)
      (fun _ msg hF h => h.processMessage (txOpen_of_reading hF) msg) hph
      (closedFrom_closing drain res sent id) msgs
  have hminds := minds_iff_drainFlows fun id s => listens_readRemaining hph msgs id s
  rw [← readRemaining_iff hph msgs, windDown_eq]
  simp only [channel_closing]
  simp only [unanswered_closing] at hminds
  rcases hread : (E.closing drain res sent).readRemaining msgs with ⟨E₁, e | _⟩
  · -- the loop has failed
    rw [hread] at hstart hmade
    constructor
    · refine fun h => ⟨h.dispatched, .inr h.empty, fun id s hw => ?_⟩
      exact .inr (h.answered id s ((unanswered_closing drain res sent).mp hw))
    · rintro ⟨hall, hok | hnone, hminds⟩
      · cases hok
      have hnone' : ∀ id, E₁.flows id = none := hnone
      refine ⟨hall, hnone, ?_, fun id i m hi hm => ?_, fun id s hw => ?_, fun id s hs => ?_⟩
      · rintro id i b m (⟨hslot, hm⟩ | ⟨hslot, -⟩)
        · obtain ⟨m', hm', hf⟩ := hstart id i b m hslot hm
          exact ⟨m', hm', hf, by simp [senderAlive, hnone']⟩
        · simp [hnone'] at hslot
      · exact (hmade id).finished (by simp [hnone']) hi hm
      · have hkept := hminds id s ((unanswered_closing drain res sent).mpr hw)
        exact hkept.resolve_left (by simp [hnone'])
      · simp [hnone'] at hs
  · -- the loop has come to its end, and every slot is closed
    rw [hread] at hstart hmade hminds
    have hdrain : ∀ id i, E₁.drainFlows.channel id i = E₁.channel id i :=
      fun id i => channel_disallowWrites id i
    constructor
    · intro h
      refine ⟨fun id i => ?_, .inl rfl, hminds.mpr h.answered⟩
      have := h.dispatched id i
      rwa [hdrain] at this
    · rintro ⟨hall, -, hm⟩
      refine ⟨fun id i => ?_, fun _ => rfl, ?_, fun id i m hi => (hmade id).drainFlows hi,
        hminds.mp hm, fun id s => told_drainFlows⟩
      · rw [hdrain]
        exact hall id i
      · rintro id i b m (⟨hslot, hm⟩ | ⟨hslot, hm⟩)
        · obtain ⟨m', hm', hf⟩ := hstart id i b m hslot hm
          obtain ⟨m'', hm'', -, hkeep, -⟩ := disallowWrites_getElem? hm'
          exact ⟨m'', hm'', hkeep hf, by simp [senderAlive, drainFlows]⟩
        · obtain ⟨m'', hm'', -, -, hclosed⟩ := disallowWrites_getElem? hm
          exact ⟨m'', hm'', hclosed b hslot, by simp [senderAlive, drainFlows]⟩

/-- A multiplexor that has accepted a stream with flow id 1. -/
def servingOne : Endpoint :=
  ((new Options.new).processFrame (Frame.newConnect [] 0 1 512) false).1

/-- The `Connect` of another stream, then data for the first. -/
def lateMessages : List Message :=
  [.binary (finalize (Frame.newConnect [] 0 2 512)), .binary (finalize (Frame.newPush 1 [7]))]

/-- The late `Connect` cannot be acknowledged any more, and it is the end: the data is not
dispatched, and the reader of the first stream never comes to its end. -/
theorem windDown_stops_at_connect :
    ¬ WoundDown servingOne (servingOne.closing false (.ok ()) 0)
      ((servingOne.closing false (.ok ()) 0).readRemaining lateMessages).1
      (servingOne.windDown false (.ok ()) 0 lateMessages).1 lateMessages := by
  intro h
  have hempty := h.empty 1
  revert hempty
  decide +kernel

/-- A call has requested stream 1, and the peer answers with a `Finish`: the loop comes to its end,
and the call has not been told anything. -/
example : ((((new Options.new).insertRequested 1 [] 0 2).windDown false (.ok ()) 0
    [.binary (finalize ⟨1, .finish⟩)]).1.told 1 (.requested 0)) = none := by decide +kernel

end Endpoint

end Penguin.Mux
