import Penguin.Mux.Inversion
import Penguin.Lib.Lists

/-!
What the calls of the users and the iterations of the loops do to slots and calls.

Most of them do nothing to them. A call gets from one stage to the next, the task closes a slot or,
at its end, all of them; and a call that draws a flow id inserts a slot, which is not dealt with
here.
-/

namespace Penguin.Mux

open Penguin.Lib.Lists

/-- Where a round of `new_stream_channel` can get to. -/
inductive StreamCall.Goes (c : StreamCall) : Stage → Prop
  | sent (h : c.stage = .inserted) : c.Goes .awaiting
  | rejected (h : c.reply = some none) : c.Goes .rejected
  | returned : c.Goes .returned
  | cancelled : c.Goes .cancelled

/-- Where a call of `request_bind` can get to. -/
inductive BindCall.Goes (c : BindCall) : Stage → Prop
  | sent (h : c.stage = .inserted) : c.Goes .awaiting
  | returned : c.Goes .returned
  | cancelled : c.Goes .cancelled

namespace Endpoint

variable {E E' F : Endpoint}

/-! ### Steps that leave slots and calls alone -/

/-- Slots and calls are the same, and no bind request of the peer is new. -/
structure Same (E E' : Endpoint) : Prop where
  flows : E'.flows = E.flows
  calls : E'.calls = E.calls
  bindCalls : E'.bindCalls = E.bindCalls
  binds : ∀ x, NoneNew (fun b : BindRequest => b.dropped = false) (E.binds x) (E'.binds x)

namespace Same

lemma of_eq (hflows : E'.flows = E.flows) (hcalls : E'.calls = E.calls)
    (hbindCalls : E'.bindCalls = E.bindCalls) (hbinds : E'.binds = E.binds) : Same E E' :=
  ⟨hflows, hcalls, hbindCalls, fun _ => hbinds ▸ .refl _⟩

lemma refl (E : Endpoint) : Same E E := of_eq rfl rfl rfl rfl

lemma trans (h : Same E F) (h' : Same F E') : Same E E' :=
  ⟨h'.flows.trans h.flows, h'.calls.trans h.calls, h'.bindCalls.trans h.bindCalls,
    fun x => (h.binds x).trans (h'.binds x)⟩

lemma foldl {α : Type} {f : Endpoint → α → Endpoint} (hf : ∀ F a, Same F (f F a)) (l : List α)
    (F : Endpoint) : Same F (l.foldl f F) := by
  induction l generalizing F with
  | nil => exact refl F
  | cons a l ih => exact (hf F a).trans (ih _)

lemma send (f : Frame) : Same E (E.send f) := by
  unfold Endpoint.send
  split_ifs
  · exact of_eq rfl rfl rfl rfl
  · exact refl E

lemma dropStream (id : UInt32) (i : ℕ) : Same E (E.dropStream id i) := by
  unfold Endpoint.dropStream
  split
  · split_ifs <;> exact of_eq rfl rfl rfl rfl
  · exact refl E

lemma dropBind (id : UInt32) (i : ℕ) : Same E (E.dropBind id i) := by
  have hmod : Same E (E.modifyBind id i fun b => { b with dropped := true }) := by
    refine ⟨rfl, rfl, rfl, fun x => ?_⟩
    by_cases hx : x = id
    · subst hx
      simp only [modifyBind, Function.update_self]
      exact noneNew_modify (fun b hb => by cases hb) _ i
    · simp only [modifyBind, Function.update_of_ne hx]
      exact .refl _
  unfold Endpoint.dropBind
  split
  · split_ifs
    · exact refl E
    · exact hmod.trans (send _)
  · exact refl E

lemma update (id : UInt32) (i : ℕ) (m : MuxStream) (sent : List Frame) :
    Same E (E.update id i m sent) := by
  have hmod : Same E (E.modifyStream id i fun _ => m) := of_eq rfl rfl rfl rfl
  exact hmod.trans (foldl (fun _ f => send f) sent _)

lemma startWindDown (drain : Bool) (res : Except Error Unit) :
    Same E (E.startWindDown drain res) := by
  have hunblock : Same E { E with blocked := none } := of_eq rfl rfl rfl rfl
  have hcancel : Same E E.cancelNext := by
    unfold cancelNext
    split
    · exact hunblock.trans (dropStream _ _)
    · exact hunblock.trans (dropBind _ _)
    · exact refl E
  exact hcancel.trans (of_eq rfl rfl rfl rfl)

lemma sendStream (id : UInt32) (i : ℕ) : Same E (E.sendStream id i).1 := by
  unfold Endpoint.sendStream
  split_ifs
  · exact dropStream id i
  · exact of_eq rfl rfl rfl rfl
  · exact of_eq rfl rfl rfl rfl

lemma sendBindRequest (id : UInt32) (i : ℕ) : Same E (E.sendBindRequest id i).1 := by
  unfold Endpoint.sendBindRequest
  split_ifs
  · exact dropBind id i
  · exact of_eq rfl rfl rfl rfl
  · exact of_eq rfl rfl rfl rfl

lemma afterMessage (r : Poll (Except Error Bool)) : Same E (E.afterMessage r) := by
  rcases r with (_ | _ | _) | _
  · exact startWindDown _ _
  · exact refl E
  · exact startWindDown _ _
  · exact refl E

end Same

/-! ### Steps that draw no id -/

/-- What a step that draws no id does to slots and calls. -/
inductive Deals (a : Action) (E E' : Endpoint) : Prop
  | same (h : Same E E')
  | stage {id : UInt32} {j : ℕ} {c : StreamCall} {stage : Stage} (hc : (E.calls id)[j]? = some c)
      (hgoes : c.Goes stage) (h : Same (E.modifyCall id j fun c => { c with stage := stage }) E')
  | bindStage {id : UInt32} {j : ℕ} {c : BindCall} {stage : Stage}
      (hc : (E.bindCalls id)[j]? = some c) (hgoes : c.Goes stage)
      (h : Same (E.modifyBindCall id j fun c => { c with stage := stage }) E')
  | close {F : Endpoint} (ha : a = .droppedPort) (h : Same E F) (id : UInt32) (inhibitRst : Bool)
      (heq : E' = F.closePort id inhibitRst)
  | finish (ha : a = .sourceError ∨ a = .sourceEnd) (res : Except Error Unit)
      (heq : E' = E.finish res)

/-- **Calls of the users and steps of the task** that draw no id. -/
theorem act_deals {a : Action} {out : List Message} (h : E.act a = some (E', out))
    (hnew : ∀ id host port, a ≠ .newStreamChannel id host port)
    (hretry : ∀ id j id', a ≠ .retryStream id j id')
    (hbind : ∀ id host port t, a ≠ .requestBind id host port t) : Deals a E E' := by
  have unblock : Same E { E with blocked := none } := .of_eq rfl rfl rfl rfl
  have pop : ∀ ports, Same E { E with droppedPorts := ports } := fun _ => .of_eq rfl rfl rfl rfl
  cases acts h with
  | newStreamChannel => exact absurd rfl (hnew _ _ _)
  | retryStream => exact absurd rfl (hretry _ _ _)
  | requestBind => exact absurd rfl (hbind _ _ _ _)
  | connectSent hc hstage => exact .stage hc (.sent hstage) (.send _)
  | connectFails hc | senderGone hc => exact .stage hc .returned (.refl _)
  | connectFailsWith hc => exact .stage hc .returned (.dropStream _ _)
  | streamGiven hc => exact .stage hc .returned (.of_eq rfl rfl rfl rfl)
  | streamRejected hc hstage hreply => exact .stage hc (.rejected hreply) (.refl _)
  | cancelStream hc => exact .stage hc .cancelled (.refl _)
  | cancelStreamWith hc => exact .stage hc .cancelled (.dropStream _ _)
  | bindSent hc hstage => exact .bindStage hc (.sent hstage) (.send _)
  | bindFails hc | awaitBind hc => exact .bindStage hc .returned (.refl _)
  | cancelBind hc => exact .bindStage hc .cancelled (.refl _)
  | acceptStreamChannel | getDatagram | nextBindRequest | sendFrame | drainFrame | drained
  | sinkErrorDraining | closeQueue | closeSink => exact .same (.of_eq rfl rfl rfl rfl)
  | sendDatagram | reply => exact .same (.send _)
  | datagramRefused | tick => exact .same (.refl E)
  | dropBind => exact .same (.dropBind _ _)
  | dropMux =>
      have hclear : ∀ ports, Same E { E with
          droppedPorts := ports, muxAlive := false, datagrams := [], conRecvStream := [],
          bndRequests := [] } := fun _ => .of_eq rfl rfl rfl rfl
      have hstreams := fun F => Same.foldl
        (fun F (p : UInt32 × ℕ) => Same.dropStream (E := F) p.1 p.2) E.conRecvStream F
      have hbinds := fun F => Same.foldl
        (fun F (p : UInt32 × ℕ) => Same.dropBind (E := F) p.1 p.2) E.bndRequests F
      exact .same (((hclear _).trans (hstreams _)).trans (hbinds _))
  | pollWrite | copyPush | pollShutdown | pollFillBuf | consume | pollRead =>
      exact .same (.update _ _ _ _)
  | dropStream => exact .same (.dropStream _ _)
  | droppedZero => exact .same ((pop _).trans (.startWindDown _ _))
  | droppedPort => exact .close rfl (pop _) _ _ rfl
  | resumeGone => exact .same ((unblock.trans (.dropStream _ _)).trans (.startWindDown _ _))
  | resumeStream => exact .same (unblock.trans (.sendStream _ _))
  | resumeBind => exact .same (unblock.trans (.sendBindRequest _ _))
  | sinkError | sourceError | sourceEnd => exact .same (.startWindDown _ _)
  | lastError => exact .finish (.inl rfl) _ rfl
  | lastMessage => exact .finish (.inr rfl) _ rfl

end Endpoint

end Penguin.Mux
