import Penguin.Mux.Reuse
import Penguin.Mux.BindReply
import Penguin.Mux.Deals

/-!
Which calls, handles and requests an endpoint has, and which of them queues what.

Calls, handles and bind requests are kept in lists that only grow, so a place in a list stands
for one of them for ever. A frame that is queued tells which of them has queued it. Nothing comes
back: a call that has queued its frame does not queue it again, and a request that was dropped
stays dropped.
-/

namespace Penguin.Mux

open Penguin.Lib.Lists Penguin.Lib.Transition

/-- The handle that an action reads from or writes to. -/
def Action.stream? : Action → Option (UInt32 × ℕ)
  | .pollWrite id i _ | .copyPush id i _ | .pollFillBuf id i | .pollRead id i _ => some (id, i)
  | _ => none

namespace Endpoint

variable {E E' F : Endpoint} {x : UInt32}

/-! ### Who queues a frame -/

section Queued

variable {a : Action} {out : List Message} {bytes : Bytes} {p : Payload}

lemma queued_of_updates {P : Frame → Prop} {e : Event} (h : Updates P e (E.before e) E')
    (hmem : bytes ∈ E.queued e E') (hx : onFlow x bytes = some p) : P ⟨x, p⟩ := by
  obtain ⟨fs, hfs, hP⟩ := h.queued
  have hqueued : E.queued e E' = fs.map finalize := by simp [queued, hfs]
  rw [hqueued] at hmem
  obtain ⟨f, hf, rfl⟩ := List.mem_map.mp hmem
  by_cases hd : f.payload.isDatagram = true
  · simp [onFlow_finalize_datagram x hd] at hx
  · rw [onFlow_finalize x (by simpa using hd)] at hx
    split_ifs at hx with hid
    obtain rfl := Option.some.inj hx
    rw [← hid]
    exact hP f hf

/-- A message queues `Reset`s, and data only if it is a `Connect` that is accepted. -/
lemma recv_queued {msg : Message} (h : E.recv msg = some E')
    (hmem : bytes ∈ E.queued (.recv msg) E') (hx : onFlow x bytes = some p) :
    p = .reset ∨ p.isData = true ∧ (∃ q, msg.onFlow x = some (.connect q)) ∧ E.flows x = none := by
  refine queued_of_updates (P := fun f => f.payload = .reset ∨ f.payload.isData = true ∧
    (∃ q, msg.onFlow f.id = some (.connect q)) ∧ E.flows f.id = none) ?_ hmem hx
  refine updates_recv_of h (fun _ => .inl rfl) fun data id q hmsg hdec hnone =>
    .inr ⟨rfl, ⟨q, ?_⟩, hnone⟩
  simp [hmsg, Message.onFlow, onFlow, hdec, Payload.isDatagram, Frame.newAcknowledge]

/-- No closed slot stands for a call, a handle that is used or a request. -/
lemma closeOrigin_cases (E : Endpoint) (id : UInt32) :
    (∃ i, E.closeOrigin id = .close id i) ∨ E.closeOrigin id = .other := by
  unfold closeOrigin
  split
  · exact .inl ⟨_, rfl⟩
  · exact .inr rfl

lemma origin_droppedPort (E : Endpoint) (k : ℕ) :
    (∃ id i, E.origin k (.act .droppedPort) = .close id i) ∨
      E.origin k (.act .droppedPort) = .other := by
  simp only [origin]
  split
  · rename_i n _ _
    split_ifs
    · exact .inr rfl
    · rcases E.closeOrigin_cases n.id with ⟨i, hi⟩ | hother
      · exact .inl ⟨_, i, hi⟩
      · exact .inr hother
  · exact .inr rfl

/-- What an action queues for a flow, and which call, handle or request queues it. -/
inductive Queues (E : Endpoint) (x : UInt32) : Action → Payload → Prop
  | reset (a : Action) : Queues E x a .reset
  | connect {j : ℕ} {c : StreamCall} (q : ConnectPayload) (hc : (E.calls x)[j]? = some c)
      (hins : c.stage.isInserted = true) : Queues E x (.sendConnect x j) (.connect q)
  | bind {j : ℕ} {c : BindCall} (q : BindPayload) (hc : (E.bindCalls x)[j]? = some c)
      (hins : c.stage.isInserted = true) : Queues E x (.sendBind x j) (.bind q)
  | data {a : Action} {i : ℕ} {p : Payload} (ha : a.stream? = some (x, i))
      (hlive : (E.view x).Live i) (hp : p.isData = true) : Queues E x a p
  | shutdown {i : ℕ} (hlive : (E.view x).Live i) : Queues E x (.pollShutdown x i) .finish
  | accept {i : ℕ} {b : BindRequest} (hb : (E.binds x)[i]? = some b) (hd : b.dropped = false) :
      Queues E x (.reply x i true) .finish

lemma live_of_owns {i : ℕ} {m : MuxStream} (h : E.owns x i = some m) : (E.view x).Live i := by
  obtain ⟨hm, -, hd⟩ := owns_eq h
  exact ⟨m, hm, hd⟩

lemma undropped_of_ownsBind {i : ℕ} (h : E.ownsBind x i = true) :
    ∃ b, (E.binds x)[i]? = some b ∧ b.dropped = false := by
  unfold ownsBind at h
  split at h
  case h_1 b hb => exact ⟨b, hb, by simpa using (Bool.and_eq_true_iff.mp h).2⟩
  case h_2 => cases h

lemma act_makes (h : E.act a = some (E', out)) (hmem : bytes ∈ E.queued (.act a) E')
    (hx : onFlow x bytes = some p) : (E.origin 0 (.act a)).Makes ⟨x, p⟩ :=
  queued_of_updates (updates_step (by simp [step, h]) 0) hmem hx

/-- **Who queues a frame.** -/
theorem act_queues (h : E.act a = some (E', out)) (hmem : bytes ∈ E.queued (.act a) E')
    (hx : onFlow x bytes = some p) : Queues E x a p := by
  have hstep : E.step (.act a) = some E' := by simp [step, h]
  have hmakes := act_makes h hmem hx
  have rejects : ∀ {id : UInt32}, bytes ∈ (if E.txOpen then [replyFrame id false] else []) →
      onFlow x bytes ≠ some .finish := by
    intro id hbytes hfin
    split_ifs at hbytes
    · rw [List.mem_singleton.mp hbytes, replyFrame, if_neg (by simp), onFlow_finalize x rfl] at hfin
      split_ifs at hfin
      cases hfin
    · cases hbytes
  have hdatagram : ∀ q, p ≠ .datagram q := by
    rintro q rfl
    unfold onFlow at hx
    split at hx
    · split_ifs at hx with hd
      obtain hq := Option.some.inj hx
      simp [hq, Payload.isDatagram] at hd
    · cases hx
  -- nobody queues but `Reset`s
  have other : (p = .reset ∨ ∃ q, p = .datagram q) → Queues E x a p := by
    rintro (rfl | ⟨q, rfl⟩)
    · exact .reset a
    · exact absurd rfl (hdatagram q)
  have port : (E.origin 0 (.act .droppedPort)).Makes ⟨x, p⟩ → p = .reset ∨ ∃ q, p = .datagram q := by
    intro hmakes
    rcases E.origin_droppedPort 0 with ⟨id, i, ho⟩ | ho
    · rw [ho] at hmakes
      obtain ⟨-, rfl⟩ := Frame.mk.inj hmakes
      exact .inl rfl
    · rwa [ho] at hmakes
  cases acts h with
  | connectSent hc hstage hopen =>
      obtain ⟨q, ⟨⟩⟩ := hmakes
      exact .connect q hc (by simp [hstage, Stage.isInserted])
  | connectFails hc hstage hclosed hreply =>
      obtain ⟨q, ⟨⟩⟩ := hmakes
      exact .connect q hc (by simp [hstage, Stage.isInserted])
  | connectFailsWith hc hstage hclosed hreply =>
      obtain ⟨q, ⟨⟩⟩ := hmakes
      exact .connect q hc (by simp [hstage, Stage.isInserted])
  | bindSent hc hstage hopen =>
      obtain ⟨q, ⟨⟩⟩ := hmakes
      exact .bind q hc (by simp [hstage, Stage.isInserted])
  | bindFails hc hstage hclosed =>
      obtain ⟨q, ⟨⟩⟩ := hmakes
      exact .bind q hc (by simp [hstage, Stage.isInserted])
  | pollWrite buf hown =>
      obtain ⟨data, ⟨⟩⟩ := hmakes
      exact .data rfl (live_of_owns hown) rfl
  | copyPush hown hbuf =>
      obtain ⟨data, ⟨⟩⟩ := hmakes
      exact .data rfl (live_of_owns hown) rfl
  | pollFillBuf hown =>
      obtain ⟨n, ⟨⟩⟩ := hmakes
      exact .data rfl (live_of_owns hown) rfl
  | pollRead remaining hown =>
      obtain ⟨n, ⟨⟩⟩ := hmakes
      exact .data rfl (live_of_owns hown) rfl
  | pollShutdown hown =>
      cases hmakes
      exact .shutdown (live_of_owns hown)
  | reply accepted hown =>
      rw [Recorded.queued_reply hstep] at hmem
      obtain ⟨⟨⟩⟩ | ⟨⟨⟩⟩ := hmakes
      · cases accepted with
        | false => exact absurd hx (rejects hmem)
        | true =>
            obtain ⟨b, hb, hd⟩ := undropped_of_ownsBind hown
            exact .accept hb hd
      · exact .reset _
  | dropBind hown =>
      rw [Recorded.queued_dropBind hstep] at hmem
      obtain ⟨⟨⟩⟩ | ⟨⟨⟩⟩ := hmakes
      · exact absurd hx (rejects hmem)
      · exact .reset _
  | droppedZero hrun hports hzero => exact other (port hmakes)
  | droppedPort hrun hports hid => exact other (port hmakes)
  | _ => exact other hmakes

end Queued

/-! ### Nothing comes back -/

/-- What is left to do on the flow: calls whose frame has not been queued, bind requests of the
peer that have not been dropped. None of it is new, and no call has been told that its bind
request was accepted. -/
structure Retains (x : UInt32) (E E' : Endpoint) : Prop where
  calls : NoneNew (fun c : StreamCall => c.stage.isInserted = true) (E.calls x) (E'.calls x)
  bindCalls : NoneNew (fun c : BindCall => c.stage.isInserted = true) (E.bindCalls x) (E'.bindCalls x)
  replies : NoneNew (fun c : BindCall => c.reply = some true) (E.bindCalls x) (E'.bindCalls x)
  binds : NoneNew (fun b : BindRequest => b.dropped = false) (E.binds x) (E'.binds x)

namespace Retains

lemma of_eq (hcalls : E'.calls x = E.calls x) (hbindCalls : E'.bindCalls x = E.bindCalls x)
    (hbinds : E'.binds x = E.binds x) : Retains x E E' :=
  ⟨hcalls ▸ .refl _, hbindCalls ▸ .refl _, hbindCalls ▸ .refl _, hbinds ▸ .refl _⟩

lemma refl (E : Endpoint) : Retains x E E := of_eq rfl rfl rfl

lemma trans (h : Retains x E F) (h' : Retains x F E') : Retains x E E' :=
  ⟨h.calls.trans h'.calls, h.bindCalls.trans h'.bindCalls, h.replies.trans h'.replies,
    h.binds.trans h'.binds⟩

lemma send (f : Frame) : Retains x E (E.send f) := by
  unfold Endpoint.send
  split_ifs
  · exact of_eq rfl rfl rfl
  · exact refl E

lemma of_same (h : Same E E') : Retains x E E' :=
  ⟨h.calls ▸ .refl _, h.bindCalls ▸ .refl _, h.bindCalls ▸ .refl _, h.binds x⟩

/-- A call that does not go back to where it has inserted its slot. -/
lemma modifyCall (id : UInt32) (j : ℕ) {f : StreamCall → StreamCall}
    (hf : ∀ c, (f c).stage.isInserted = true → c.stage.isInserted = true) :
    Retains x E (E.modifyCall id j f) := by
  refine ⟨?_, .refl _, .refl _, .refl _⟩
  by_cases hx : x = id
  · subst hx
    simp only [Endpoint.modifyCall, Function.update_self]
    exact noneNew_modify hf _ j
  · simp only [Endpoint.modifyCall, Function.update_of_ne hx]
    exact .refl _

lemma modifyBindCall (id : UInt32) (j : ℕ) {f : BindCall → BindCall}
    (hf : ∀ c, (f c).stage.isInserted = true → c.stage.isInserted = true)
    (hr : ∀ c, (f c).reply = some true → c.reply = some true) :
    Retains x E (E.modifyBindCall id j f) := by
  by_cases hx : x = id
  · subst hx
    refine ⟨.refl _, ?_, ?_, .refl _⟩
    all_goals simp only [Endpoint.modifyBindCall, Function.update_self]
    · exact noneNew_modify hf _ j
    · exact noneNew_modify hr _ j
  · exact of_eq rfl (by simp [Endpoint.modifyBindCall, Function.update_of_ne hx]) rfl

/-- A call gets to a stage behind the first one. -/
lemma stage (id : UInt32) (j : ℕ) {stage : Stage} (hs : stage.isInserted = false) :
    Retains x E (E.modifyCall id j fun c => { c with stage := stage }) :=
  modifyCall id j fun c hc => by simp [hs] at hc

lemma bindStage (id : UInt32) (j : ℕ) {stage : Stage} (hs : stage.isInserted = false) :
    Retains x E (E.modifyBindCall id j fun c => { c with stage := stage }) :=
  modifyBindCall id j (fun c hc => by simp [hs] at hc) fun _ hc => hc

lemma answer (id : UInt32) (j : ℕ) (r : Option ℕ) :
    Retains x E (E.modifyCall id j (StreamCall.answer r)) :=
  modifyCall id j fun c hc => by rwa [StreamCall.isInserted_answer] at hc

lemma reject (id : UInt32) (j : ℕ) :
    Retains x E (E.modifyBindCall id j (BindCall.answer false)) := by
  refine modifyBindCall id j (fun c hc => by rwa [BindCall.isInserted_answer] at hc) fun c hc => ?_
  unfold BindCall.answer at hc
  split_ifs at hc
  · cases hc
  · exact hc

lemma closePort (id : UInt32) (inhibit : Bool) : Retains x E (E.closePort id inhibit) := by
  unfold Endpoint.closePort
  split
  case h_2 => exact refl E
  case h_1 removed _ =>
    have hclosed : Retains x E (E.setSlot id none) := of_eq rfl rfl rfl
    refine hclosed.trans ?_
    unfold closePortLocal
    cases removed with
    | established d =>
        have hmod : Retains x (E.setSlot id none)
            ((E.setSlot id none).modifyStream id d.stream MuxStream.disallowWrite) :=
          of_eq rfl rfl rfl
        dsimp only
        split_ifs
        · exact hmod.trans (send _)
        · exact hmod
    | requested j => exact answer id j none
    | bindRequested j => exact reject id j

lemma finish (res : Except Error Unit) : Retains x E (E.finish res) := by
  have hclose : Retains x E (E.closePort x true) := closePort x true
  refine hclose.trans (of_eq ?_ ?_ ?_)
  all_goals
    unfold Endpoint.finish drainFlows Endpoint.closePort closePortLocal
    rcases hslot : E.flows x with _ | j | d | j <;>
      simp [Endpoint.modifyCall, Endpoint.modifyBindCall, setSlot, Endpoint.modifyStream, hslot]

end Retains

/-- The same, but for a call that has just drawn the id: the slot is its own. -/
structure Owes (x : UInt32) (E E' : Endpoint) : Prop where
  calls : ∀ j c, (E'.calls x)[j]? = some c → c.stage.isInserted = true →
    (∃ c, (E.calls x)[j]? = some c ∧ c.stage.isInserted = true) ∨
      E'.flows x = some (.requested j)
  bindCalls : ∀ j c, (E'.bindCalls x)[j]? = some c → c.stage.isInserted = true →
    (∃ c, (E.bindCalls x)[j]? = some c ∧ c.stage.isInserted = true) ∨
      E'.flows x = some (.bindRequested j)
  replies : NoneNew (fun c : BindCall => c.reply = some true) (E.bindCalls x) (E'.bindCalls x)
  binds : NoneNew (fun b : BindRequest => b.dropped = false) (E.binds x) (E'.binds x)

lemma Retains.owes (h : Retains x E E') : Owes x E E' where
  calls j c hc hins := .inl (h.calls j c hc hins)
  bindCalls j c hc hins := .inl (h.bindCalls j c hc hins)
  replies := h.replies
  binds := h.binds

lemma Retains.then_owes (h : Retains x E F) (h' : Owes x F E') : Owes x E E' where
  calls j c hc hins := (h'.calls j c hc hins).imp_left fun h' => by
    obtain ⟨c', hc', hins'⟩ := h'
    exact h.calls j c' hc' hins'
  bindCalls j c hc hins := (h'.bindCalls j c hc hins).imp_left fun h' => by
    obtain ⟨c', hc', hins'⟩ := h'
    exact h.bindCalls j c' hc' hins'
  replies := h.replies.trans h'.replies
  binds := h.binds.trans h'.binds

lemma owes_insertRequested (host : Bytes) (port : UInt16) (n : ℕ) :
    Owes x E (E.insertRequested x host port n) := by
  refine ⟨fun j c hc hins => ?_, fun j c hc hins => .inl ⟨c, hc, hins⟩, .refl _, .refl _⟩
  simp only [insertRequested, Function.update_self] at hc
  rcases getElem?_concat_iff.mp hc with hc | ⟨rfl, -⟩
  · exact .inl ⟨c, hc, hins⟩
  · exact .inr (by simp [insertRequested, setSlot])

/-- What is not a draw leaves fewer things to do. -/
lemma act_retains_of_not_draw {a : Action} {out : List Message} (h : E.act a = some (E', out))
    (hnew : ∀ id host port, a ≠ .newStreamChannel id host port)
    (hretry : ∀ id j id', a ≠ .retryStream id j id')
    (hbind : ∀ id host port t, a ≠ .requestBind id host port t) : Retains x E E' := by
  cases act_deals h hnew hretry hbind with
  | same h => exact .of_same h
  | stage hc hgoes h =>
      refine (Retains.stage _ _ ?_).trans (.of_same h)
      cases hgoes <;> rfl
  | bindStage hc hgoes h =>
      refine (Retains.bindStage _ _ ?_).trans (.of_same h)
      cases hgoes <;> rfl
  | close _ h id inhibitRst heq =>
      rw [heq]
      exact (Retains.of_same h).trans (.closePort id inhibitRst)
  | finish _ res heq =>
      rw [heq]
      exact .finish res

/-- **Calls of the users and steps of the task**: only a draw adds something to do. -/
theorem act_owes {a : Action} {out : List Message} (h : E.act a = some (E', out)) :
    Owes x E E' := by
  have inserted : ∀ (F : Endpoint) (id : UInt32) (host : Bytes) (port : UInt16) (n : ℕ),
      Owes x F (F.insertRequested id host port n) := by
    intro F id host port n
    by_cases hx : id = x
    · subst hx
      exact owes_insertRequested host port n
    · refine Retains.owes (.of_eq ?_ rfl rfl)
      simp [insertRequested, Function.update_of_ne (Ne.symm hx)]
  cases acts h with
  | @newStreamChannel id host port halive hkey => exact inserted E id host port _
  | @retryStream id id' j c hc hstage hleft hkey =>
      exact (Retains.stage id j rfl).then_owes (inserted _ id' c.host c.port _)
  | @requestBind id host port t halive hkey =>
      by_cases hx : id = x
      · subst hx
        refine ⟨fun j c hc hins => .inl ⟨c, hc, hins⟩, fun j c hc hins => ?_, fun j c hc hr => ?_,
          .refl _⟩
        all_goals
          simp only [Function.update_self] at hc
          rcases getElem?_concat_iff.mp hc with hc | ⟨rfl, rfl⟩
        · exact .inl ⟨c, hc, hins⟩
        · exact .inr (by simp [setSlot])
        · exact ⟨c, hc, hr⟩
        · cases hr
      · refine Retains.owes (.of_eq rfl ?_ rfl)
        simp [Function.update_of_ne (Ne.symm hx)]
  | _ => exact (act_retains_of_not_draw h (by simp) (by simp) (by simp)).owes

/-! ### Messages -/

/-- What a frame of the flow, if there is one, can add: a bind request of the peer, and that the
bind request of the slot was accepted. -/
structure Learns (x : UInt32) (p : Option Payload) (E E' : Endpoint) : Prop where
  calls : NoneNew (fun c : StreamCall => c.stage.isInserted = true) (E.calls x) (E'.calls x)
  bindCalls : NoneNew (fun c : BindCall => c.stage.isInserted = true) (E.bindCalls x) (E'.bindCalls x)
  replies : ∀ j c, (E'.bindCalls x)[j]? = some c → c.reply = some true →
    (∃ c, (E.bindCalls x)[j]? = some c ∧ c.reply = some true) ∨
      (p = some .finish ∧ E.flows x = some (.bindRequested j))
  binds : ∀ i b, (E'.binds x)[i]? = some b → b.dropped = false →
    (∃ b, (E.binds x)[i]? = some b ∧ b.dropped = false) ∨
      (i = (E.binds x).length ∧ ∃ q, p = some (.bind q))

lemma Retains.learns (h : Retains x E E') (p : Option Payload) : Learns x p E E' :=
  ⟨h.calls, h.bindCalls, fun j c hc hr => .inl (h.replies j c hc hr),
    fun i b hb hd => .inl (h.binds i b hb hd)⟩

lemma Learns.of_eq {p : Option Payload} (hcalls : E'.calls x = E.calls x)
    (hbindCalls : E'.bindCalls x = E.bindCalls x) (hbinds : E'.binds x = E.binds x) :
    Learns x p E E' :=
  (Retains.of_eq hcalls hbindCalls hbinds).learns p

lemma Learns.trans {p : Option Payload} (h : Learns x p E F) (h' : Retains x F E') :
    Learns x p E E' where
  calls := h.calls.trans h'.calls
  bindCalls := h.bindCalls.trans h'.bindCalls
  replies j c hc hr := by
    obtain ⟨c', hc', hr'⟩ := h'.replies j c hc hr
    exact h.replies j c' hc' hr'
  binds i b hb hd := by
    obtain ⟨b', hb', hd'⟩ := h'.binds i b hb hd
    exact h.binds i b' hb' hd'

lemma retains_establish (id : UInt32) (m : MuxStream) : Retains x E (E.establish id m) :=
  .of_eq rfl rfl rfl

/-- The bind request of the slot was accepted. -/
lemma learns_accepted {id : UInt32} {j : ℕ} (hslot : E.flows id = some (.bindRequested j)) :
    Learns x (if id = x then some .finish else none) E
      ((E.setSlot id none).modifyBindCall id j (BindCall.answer true)) := by
  by_cases hx : id = x
  swap
  · refine .of_eq rfl ?_ rfl
    simp [modifyBindCall, setSlot, Function.update_of_ne (Ne.symm hx)]
  subst hx
  simp only [if_true]
  refine ⟨.refl _, ?_, fun k c hc hr => ?_, fun i b hb hd => .inl ⟨b, hb, hd⟩⟩
  · simp only [modifyBindCall, setSlot, Function.update_self]
    exact noneNew_modify (fun c hc => by rwa [BindCall.isInserted_answer] at hc) _ j
  · simp only [modifyBindCall, setSlot, Function.update_self, List.getElem?_modify] at hc
    obtain ⟨c', hc', rfl⟩ := Option.map_eq_some_iff.mp hc
    by_cases hjk : j = k
    · subst hjk
      exact .inr ⟨rfl, hslot⟩
    · rw [if_neg hjk] at hr
      exact .inl ⟨c', hc', hr⟩

lemma learns_addBind (id : UInt32) (q : BindPayload) :
    Learns x (if id = x then some (.bind q) else none) E (E.addBind id q) := by
  by_cases hx : id = x
  swap
  · refine .of_eq rfl rfl ?_
    simp [addBind, Function.update_of_ne (Ne.symm hx)]
  subst hx
  refine ⟨.refl _, .refl _, fun k c hc hr => .inl ⟨c, hc, hr⟩, fun i b hb hd => ?_⟩
  simp only [addBind, Function.update_self] at hb
  rcases getElem?_concat_iff.mp hb with hb | ⟨rfl, -⟩
  · exact .inl ⟨b, hb, hd⟩
  · exact .inr ⟨rfl, q, by simp⟩

lemma Handles.learns {f : Frame} {ignoreBind : Bool} {r : Poll (Except Error Unit)}
    (h : E.Handles ignoreBind f E' r) :
    Learns x (if f.id = x then some f.payload else none) E E' := by
  cases h with
  | connectUsed p hslot => exact (Retains.send _).learns _
  | @connect id p hslot hopen =>
      have hsent := (retains_establish (x := x) (E := E) id
        (newStreamShared E.opts p.rwnd p.targetHost p.targetPort)).trans
          (.send (Frame.newAcknowledge id E.opts.rwnd))
      exact (hsent.trans (.of_same (.sendStream id _))).learns _
  | @connectClosed id p hslot hclosed =>
      exact ((retains_establish id _).trans (.of_same (.dropStream id _))).learns _
  | ackEstablished n hslot => exact .of_eq rfl rfl rfl
  | @ackRequested id j n hslot hlistens =>
      exact ((retains_establish id _).trans (.answer id j _)).learns _
  | @ackGone id j n hslot hlistens =>
      exact ((retains_establish id _).trans (.of_same (.dropStream id _))).learns _
  | ackBogus n hslot => exact (Retains.send _).learns _
  | finishBogus hslot => exact (Retains.send _).learns _
  | finishBind hslot => exact learns_accepted hslot
  | @finishRequested id j hslot =>
      have hclosed : Retains x E (E.setSlot id none) := .of_eq rfl rfl rfl
      exact (hclosed.trans (.send _)).learns _
  | finishEstablished hslot => exact .of_eq rfl rfl rfl
  | reset id => exact (Retains.closePort id true).learns _
  | push data hslot hm hd hroom => exact .of_eq rfl rfl rfl
  | @pushFull id i m data hslot hm hd hfull => exact (Retains.closePort id false).learns _
  | pushClosed data hslot hm hd => exact (Retains.refl E).learns _
  | pushBogus data hnone => exact (Retains.send _).learns _
  | bindOff p hzero => exact (Retains.send _).learns _
  | bindIgnored p hpos hig => exact (Retains.refl E).learns _
  | @bind id p hpos hig => exact (learns_addBind id p).trans (.of_same (.sendBindRequest id _))
  | datagramGone p hgone => exact (Retains.refl E).learns _
  | datagram p halive hroom => exact .of_eq rfl rfl rfl
  | datagramLost p halive hfull => exact (Retains.refl E).learns _

/-- Datagrams are not on a flow, and add nothing. -/
lemma learns_processFrame {data : Bytes} {f : Frame} (hdec : Frame.tryFrom data = .ok f)
    (ignoreBind : Bool) : Learns x (onFlow x data) E (E.processFrame f ignoreBind).1 := by
  have hlearns : Learns x _ E (E.processFrame f ignoreBind).1 := (E.handles f ignoreBind).learns
  obtain ⟨id, p⟩ := f
  by_cases hp : p.isDatagram = true
  · cases p with
    | datagram q =>
        have hnone : onFlow x data = none := by simp [onFlow, hdec, Payload.isDatagram]
        rw [hnone]
        exact ⟨hlearns.calls, hlearns.bindCalls, fun j c hc hr =>
          (hlearns.replies j c hc hr).imp_right fun h => by simp at h,
          fun i b hb hd => (hlearns.binds i b hb hd).imp_right fun h => by simp at h⟩
    | _ => cases hp
  · simpa [onFlow, hdec, hp] using hlearns

lemma retains_afterMessage (r : Poll (Except Error Bool)) : Retains x E (E.afterMessage r) := by
  rcases r with (_ | _ | _) | _
  · exact .of_same (.startWindDown _ _)
  · exact .refl E
  · exact .of_same (.startWindDown _ _)
  · exact .refl E

/-- **Messages**: what is left to do, with what a frame of the flow can add to it. -/
theorem recv_learns {msg : Message} (h : E.recv msg = some E') :
    Learns x (msg.onFlow x) E E' := by
  have hmsg : ∀ ignoreBind, Learns x (msg.onFlow x) E (E.processMessage msg ignoreBind).1 := by
    intro ignoreBind
    obtain ⟨-, heq⟩ | ⟨data, f, rfl, hdec, heq⟩ := E.processMessage_cases msg ignoreBind
    · rw [heq]
      exact (Retains.refl E).learns _
    · rw [heq]
      exact learns_processFrame hdec ignoreBind
  obtain ⟨-, -, rfl⟩ | ⟨res, -, ⟨e, -, rfl⟩ | ⟨-, rfl⟩⟩ := recv_cases h
  · exact (hmsg false).trans (retains_afterMessage _)
  · exact (hmsg true).trans (.of_eq rfl rfl rfl)
  · exact hmsg true

end Endpoint

end Penguin.Mux
