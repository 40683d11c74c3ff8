import Penguin.Mux.Closing
import Penguin.Mux.Deals

/-!
What becomes of a request.

A call of `new_stream_channel` or `request_bind` inserts a slot into the map and waits for what
the task sends on the oneshot channel of the slot. Here the two kinds of requests are looked at in
one way: a request is the slot it has inserted, and what counts is whether the call still listens
and what it has been told. The step that takes a slot out of the map tells its call, but for one:
a `Finish` where an `Acknowledge` or a `Reset` was due.
-/

namespace Penguin.Mux

open Penguin.Lib

/-- The slot of a call that waits, or has not waited yet. -/
def FlowSlot.isRequest : FlowSlot → Bool
  | .requested _ | .bindRequested _ => true
  | .established _ => false

namespace Endpoint

/-- The call that has inserted the slot can still be told something. -/
def listens (E : Endpoint) (x : UInt32) : FlowSlot → Bool
  | .requested j => (E.calls x)[j]?.any (·.stage.listening)
  | .bindRequested j => (E.bindCalls x)[j]?.any (·.stage.listening)
  | .established _ => false

/-- There is a call with the number that the slot has. -/
def Placed (E : Endpoint) (x : UInt32) : FlowSlot → Prop
  | .requested j => j < (E.calls x).length
  | .bindRequested j => j < (E.bindCalls x).length
  | .established _ => True

/-- What was sent on the oneshot channel of the slot. -/
def told (E : Endpoint) (x : UInt32) : FlowSlot → Option (Option ℕ ⊕ Bool)
  | .requested j => ((E.calls x)[j]?.bind (·.reply)).map .inl
  | .bindRequested j => ((E.bindCalls x)[j]?.bind (·.reply)).map .inr
  | .established _ => none

/-- The round of `new_stream_channel` has received `None`. -/
def rejects (E : Endpoint) (x : UInt32) (j : ℕ) : Bool :=
  (E.calls x)[j]?.any fun c => c.stage = .rejected

/-- The frame that `process_ws_next` gets to see. -/
def arriving (E : Endpoint) : Event → Option Frame
  | .recv (.binary data) =>
    if E.phase.isRunning && E.blocked.isNone then (Frame.tryFrom data).toOption else none
  | _ => none

/-- A `Finish` arrives for a call of `new_stream_channel` that waits for its answer. -/
def FinishesRequested (E : Endpoint) (e : Event) : Prop :=
  ∃ id j, E.arriving e = some ⟨id, .finish⟩ ∧ E.flows id = some (.requested j) ∧
    E.listens id (.requested j) = true

variable {E E' F : Endpoint} {P : Prop} {x : UInt32} {s : FlowSlot}

lemma listens_congr (hcalls : E'.calls x = E.calls x)
    (hbindCalls : E'.bindCalls x = E.bindCalls x) : E'.listens x s = E.listens x s := by
  cases s <;> simp [listens, hcalls, hbindCalls]

lemma told_congr (hcalls : E'.calls x = E.calls x)
    (hbindCalls : E'.bindCalls x = E.bindCalls x) : E'.told x s = E.told x s := by
  cases s <;> simp [told, hcalls, hbindCalls]

lemma placed_of_length (hcalls : (E'.calls x).length = (E.calls x).length)
    (hbindCalls : (E'.bindCalls x).length = (E.bindCalls x).length) (h : E.Placed x s) :
    E'.Placed x s := by
  cases s with
  | requested j => exact Nat.lt_of_lt_of_eq h hcalls.symm
  | bindRequested j => exact Nat.lt_of_lt_of_eq h hbindCalls.symm
  | established d => trivial

lemma rejects_congr {j : ℕ} (hcalls : E'.calls x = E.calls x) :
    E'.rejects x j = E.rejects x j := by
  simp [rejects, hcalls]

/-! ### Calls that are changed -/

lemma placed_modifyCall (id : UInt32) (j : ℕ) (f : StreamCall → StreamCall) (h : E.Placed x s) :
    (E.modifyCall id j f).Placed x s :=
  placed_of_length (Lists.length_update_modify E.calls id j f x) rfl h

lemma placed_modifyBindCall (id : UInt32) (j : ℕ) (f : BindCall → BindCall)
    (h : E.Placed x s) : (E.modifyBindCall id j f).Placed x s :=
  placed_of_length (E := E) rfl (Lists.length_update_modify E.bindCalls id j f x) h

lemma told_modifyCall (id : UInt32) (j : ℕ) (f : StreamCall → StreamCall) :
    (E.modifyCall id j f).told x s = E.told x s ∨ x = id ∧ s = .requested j := by
  cases s with
  | established d => exact .inl rfl
  | bindRequested k => exact .inl rfl
  | requested k =>
      by_cases hchanged : x = id ∧ k = j
      · exact .inr ⟨hchanged.1, by rw [hchanged.2]⟩
      · left
        simp only [told, modifyCall, Lists.getElem?_update_modify, if_neg hchanged]

lemma told_modifyBindCall (id : UInt32) (j : ℕ) (f : BindCall → BindCall) :
    (E.modifyBindCall id j f).told x s = E.told x s ∨ x = id ∧ s = .bindRequested j := by
  cases s with
  | established d => exact .inl rfl
  | requested k => exact .inl rfl
  | bindRequested k =>
      by_cases hchanged : x = id ∧ k = j
      · exact .inr ⟨hchanged.1, by rw [hchanged.2]⟩
      · left
        simp only [told, modifyBindCall, Lists.getElem?_update_modify, if_neg hchanged]

/-- A call that does not listen again. -/
lemma listens_modifyCall {id : UInt32} {j : ℕ} {f : StreamCall → StreamCall}
    (hf : ∀ c, (E.calls id)[j]? = some c → (f c).stage.listening = true →
      c.stage.listening = true) (hl : (E.modifyCall id j f).listens x s = true) :
    E.listens x s = true := by
  cases s with
  | established d => exact hl
  | bindRequested k => exact hl
  | requested k =>
      rcases Lists.any_update_modify hl with hold | ⟨rfl, rfl, c, hc, hst⟩
      · exact hold
      · rw [listens, hc]
        exact hf c hc hst

lemma listens_modifyBindCall {id : UInt32} {j : ℕ} {f : BindCall → BindCall}
    (hf : ∀ c, (E.bindCalls id)[j]? = some c → (f c).stage.listening = true →
      c.stage.listening = true) (hl : (E.modifyBindCall id j f).listens x s = true) :
    E.listens x s = true := by
  cases s with
  | established d => exact hl
  | requested k => exact hl
  | bindRequested k =>
      rcases Lists.any_update_modify hl with hold | ⟨rfl, rfl, c, hc, hst⟩
      · exact hold
      · rw [listens, hc]
        exact hf c hc hst

/-- A call is not told anything by going on. -/
lemma told_stage (id : UInt32) (j : ℕ) (stage : Stage) :
    (E.modifyCall id j fun c => { c with stage := stage }).told x s = E.told x s := by
  cases s with
  | established d => rfl
  | bindRequested k => rfl
  | requested k => exact congrArg (Option.map Sum.inl) (Lists.bind_update_modify fun _ => rfl)

lemma told_bindStage (id : UInt32) (j : ℕ) (stage : Stage) :
    (E.modifyBindCall id j fun c => { c with stage := stage }).told x s = E.told x s := by
  cases s with
  | established d => rfl
  | requested k => rfl
  | bindRequested k => exact congrArg (Option.map Sum.inr) (Lists.bind_update_modify fun _ => rfl)

lemma stage_answer (r : Option ℕ) (c : StreamCall) : (c.answer r).stage = c.stage := by
  unfold StreamCall.answer
  split_ifs <;> rfl

lemma stage_bindAnswer (r : Bool) (c : BindCall) : (c.answer r).stage = c.stage := by
  unfold BindCall.answer
  split_ifs <;> rfl

/-- `oneshot::Sender::send`, to a call that still listens. -/
lemma told_answer {id : UInt32} {j : ℕ} (r : Option ℕ) (hl : E.listens id (.requested j) = true) :
    (E.modifyCall id j (StreamCall.answer r)).told id (.requested j) = some (.inl r) := by
  obtain ⟨c, hc, hst⟩ := (Option.any_eq_true _ _).mp hl
  simp [told, modifyCall, hc, StreamCall.answer, hst]

lemma told_bindAnswer {id : UInt32} {j : ℕ} (r : Bool)
    (hl : E.listens id (.bindRequested j) = true) :
    (E.modifyBindCall id j (BindCall.answer r)).told id (.bindRequested j) = some (.inr r) := by
  obtain ⟨c, hc, hst⟩ := (Option.any_eq_true _ _).mp hl
  simp [told, modifyBindCall, hc, BindCall.answer, hst]

/-! ### Steps that settle requests -/

/-- What can become of the requests with this id: nobody begins to listen, a round is
rejected when it has been told `None`, a call is told something in the step that takes its slot,
and unless `P` holds it is told in that step. -/
structure Settles (P : Prop) (x : UInt32) (E E' : Endpoint) : Prop where
  placed : ∀ s, E.Placed x s → E'.Placed x s
  slot : ∀ s, s.isRequest = true → E'.flows x = some s → E.flows x = some s
  listens : ∀ s, E'.listens x s = true → E.listens x s = true
  rejected : ∀ j, E'.rejects x j = true →
    E.rejects x j = true ∨ E.told x (.requested j) = some (.inl none)
  told : ∀ s, E'.told x s = E.told x s ∨ E.flows x = some s ∧ E'.flows x ≠ some s
  answered : ¬ P → ∀ s, E.flows x = some s → E'.flows x ≠ some s → E.listens x s = true →
    (E'.told x s).isSome = true

namespace Settles

/-- The requests are the same; what else is in the map does not matter. -/
lemma of_eq (hflows : ∀ s, s.isRequest = true → (E'.flows x = some s ↔ E.flows x = some s))
    (hcalls : E'.calls x = E.calls x) (hbindCalls : E'.bindCalls x = E.bindCalls x) :
    Settles P x E E' := by
  refine ⟨fun s => placed_of_length (by rw [hcalls]) (by rw [hbindCalls]),
    fun s hs => (hflows s hs).mp, fun s hl => ?_, fun j hj => .inl ?_,
    fun s => .inl (told_congr hcalls hbindCalls), fun _ s hs hlost hl => ?_⟩
  · rwa [listens_congr hcalls hbindCalls] at hl
  · rwa [rejects_congr hcalls] at hj
  · have hreq : s.isRequest = true := by
      cases s with
      | established d => cases hl
      | requested j | bindRequested j => rfl
    exact absurd ((hflows s hreq).mpr hs) hlost

lemma of_same (h : Same E E') : Settles P x E E' :=
  of_eq (fun s _ => by rw [h.flows]) (by rw [h.calls]) (by rw [h.bindCalls])

/-- What follows without touching the slot and the calls of the id. -/
lemma then_eq (h : Settles P x E F) (hflows : E'.flows x = F.flows x)
    (hcalls : E'.calls x = F.calls x) (hbindCalls : E'.bindCalls x = F.bindCalls x) :
    Settles P x E E' := by
  refine ⟨fun s hs => placed_of_length (by rw [hcalls]) (by rw [hbindCalls]) (h.placed s hs),
    fun s hs hE' => h.slot s hs ?_, fun s hl => h.listens s ?_,
    fun j hj => h.rejected j ?_, fun s => ?_, fun hP s hs hlost hl => ?_⟩
  · rwa [hflows] at hE'
  · rwa [listens_congr hcalls hbindCalls] at hl
  · rwa [rejects_congr hcalls] at hj
  · rw [told_congr hcalls hbindCalls, hflows]
    exact h.told s
  · rw [hflows] at hlost
    rw [told_congr hcalls hbindCalls]
    exact h.answered hP s hs hlost hl

lemma then_same (h : Settles P x E F) (h' : Same F E') : Settles P x E E' :=
  h.then_eq (congrFun h'.flows x) (congrFun h'.calls x) (congrFun h'.bindCalls x)

/-- What comes before without touching slots and calls. -/
lemma after_same (h : Same E F) (h' : Settles P x F E') : Settles P x E E' := by
  have hlistens : ∀ s, F.listens x s = E.listens x s := fun s =>
    listens_congr (congrFun h.calls x) (congrFun h.bindCalls x)
  have htold : ∀ s, F.told x s = E.told x s := fun s =>
    told_congr (congrFun h.calls x) (congrFun h.bindCalls x)
  refine ⟨fun s hs => h'.placed s (placed_of_length (by rw [h.calls]) (by rw [h.bindCalls]) hs),
    fun s hs hE' => ?_, fun s hl => ?_, fun j hj => ?_, fun s => ?_,
    fun hP s hs hlost hl => ?_⟩
  · rw [← h.flows]
    exact h'.slot s hs hE'
  · rw [← hlistens]
    exact h'.listens s hl
  · rw [← rejects_congr (congrFun h.calls x), ← htold]
    exact h'.rejected j hj
  · rw [← htold, ← h.flows]
    exact h'.told s
  · rw [← h.flows] at hs
    rw [← hlistens] at hl
    exact h'.answered hP s hs hlost hl

/-- A slot is replaced by one that is not a request. Its call is told, if there is one. -/
lemma takes {id : UInt32} {s₀ : FlowSlot} {slot : Option FlowSlot} (hslot : E.flows id = some s₀)
    (hflows : E'.flows = Function.update E.flows id slot)
    (hnew : ∀ s, s.isRequest = true → slot ≠ some s)
    (hplaced : ∀ s, E.Placed x s → E'.Placed x s)
    (hlistens : ∀ s, E'.listens x s = true → E.listens x s = true)
    (hrejects : ∀ j, E'.rejects x j = true → E.rejects x j = true)
    (htold : ∀ s, E'.told x s = E.told x s ∨ x = id ∧ s = s₀)
    (hans : ¬ P → E.listens id s₀ = true → (E'.told id s₀).isSome = true) : Settles P x E E' := by
  refine ⟨hplaced, fun s hs hE' => ?_, hlistens, fun j hj => .inl (hrejects j hj), fun s => ?_,
    fun hP s hs hlost hl => ?_⟩
  · by_cases hx : x = id
    · rw [hflows, hx, Function.update_self] at hE'
      exact absurd hE' (hnew s hs)
    · rwa [hflows, Function.update_of_ne hx] at hE'
  · cases hreq : s.isRequest with
    | false =>
        cases s with
        | established d => exact .inl rfl
        | requested j | bindRequested j => cases hreq
    | true =>
        refine (htold s).imp_right fun ⟨hx, hs⟩ => ?_
        rw [hflows, hx, Function.update_self, hs]
        exact ⟨hslot, hnew s₀ (hs ▸ hreq)⟩
  · by_cases hx : x = id
    · subst hx
      obtain rfl := Option.some.inj (hslot.symm.trans hs)
      exact hans hP hl
    · rw [hflows, Function.update_of_ne hx] at hlost
      exact absurd hs hlost

lemma stage {id : UInt32} {j : ℕ} {c : StreamCall} {stage : Stage}
    (hc : (E.calls id)[j]? = some c) (hgoes : c.Goes stage) :
    Settles P x E (E.modifyCall id j fun c => { c with stage := stage }) := by
  refine ⟨fun _ => placed_modifyCall id j _, fun _ _ hs => hs,
    fun _ => listens_modifyCall fun c' hc' hl => ?_, fun k hk => ?_,
    fun _ => .inl (told_stage id j stage), fun _ _ hs hlost _ => absurd hs hlost⟩
  · obtain rfl := Option.some.inj (hc.symm.trans hc')
    cases hgoes with
    | sent hins =>
        rw [hins]
        rfl
    | rejected | returned | cancelled => cases hl
  · rcases Lists.any_update_modify hk with hold | ⟨rfl, rfl, c', -, hstage⟩
    · exact .inl hold
    · right
      cases hgoes with
      | rejected hreply => simp [Endpoint.told, hc, hreply]
      | sent | returned | cancelled => simp at hstage

lemma bindStage {id : UInt32} {j : ℕ} {c : BindCall} {stage : Stage}
    (hc : (E.bindCalls id)[j]? = some c) (hgoes : c.Goes stage) :
    Settles P x E (E.modifyBindCall id j fun c => { c with stage := stage }) := by
  refine ⟨fun _ => placed_modifyBindCall id j _, fun _ _ hs => hs,
    fun _ => listens_modifyBindCall fun c' hc' hl => ?_,
    fun _ hj => .inl hj, fun _ => .inl (told_bindStage id j stage),
    fun _ _ hs hlost _ => absurd hs hlost⟩
  obtain rfl := Option.some.inj (hc.symm.trans hc')
  cases hgoes with
  | sent hins =>
      rw [hins]
      rfl
  | returned | cancelled => cases hl

/-- The slot of a call of `new_stream_channel` is replaced, and the call is told. -/
lemma answers {id : UInt32} {j : ℕ} {slot : Option FlowSlot}
    (hslot : E.flows id = some (.requested j)) (hnew : ∀ s, s.isRequest = true → slot ≠ some s)
    (r : Option ℕ) : Settles P x E ((E.setSlot id slot).modifyCall id j (StreamCall.answer r)) := by
  have hcalls : ∀ c, ((E.setSlot id slot).calls id)[j]? = some c →
      (c.answer r).stage.listening = true → c.stage.listening = true := fun c _ hl => by
    rwa [stage_answer] at hl
  have hrejects : ∀ k, ((E.setSlot id slot).modifyCall id j (StreamCall.answer r)).rejects x k =
      true → E.rejects x k = true := by
    intro k hk
    rcases Lists.any_update_modify hk with hold | ⟨rfl, rfl, c, hc, hst⟩
    · exact hold
    · have hc : (E.calls x)[k]? = some c := hc
      simpa [rejects, hc, stage_answer] using hst
  refine takes hslot rfl hnew (fun _ => placed_modifyCall (E := E.setSlot id slot) id j _)
    (fun s => listens_modifyCall hcalls) hrejects
    (fun s => told_modifyCall id j _) fun _ hl => ?_
  rw [told_answer (E := E.setSlot id slot) r hl]
  rfl

/-- The slot of a call of `request_bind` is taken, and the call is told. -/
lemma bindAnswers {id : UInt32} {j : ℕ} (hslot : E.flows id = some (.bindRequested j)) (r : Bool) :
    Settles P x E ((E.setSlot id none).modifyBindCall id j (BindCall.answer r)) := by
  have hcalls : ∀ c, ((E.setSlot id none).bindCalls id)[j]? = some c →
      (c.answer r).stage.listening = true → c.stage.listening = true := fun c _ hl => by
    rwa [stage_bindAnswer] at hl
  refine takes hslot rfl (by simp) (fun _ => placed_modifyBindCall (E := E.setSlot id none) id j _)
    (fun s => listens_modifyBindCall hcalls) (fun _ hj => hj)
    (fun s => told_modifyBindCall id j _) fun _ hl => ?_
  rw [told_bindAnswer (E := E.setSlot id none) r hl]
  rfl

/-- The slot of a handle is replaced. -/
lemma setEstablished {id : UInt32} {d : EstablishedStreamData} {slot : Option FlowSlot}
    (hslot : E.flows id = some (.established d)) (hnew : ∀ s, s.isRequest = true → slot ≠ some s) :
    Settles P x E (E.setSlot id slot) :=
  takes hslot rfl hnew (fun _ hs => hs) (fun _ hl => hl) (fun _ hj => hj) (fun _ => .inl rfl)
    fun _ hl => by cases hl

lemma closePort (id : UInt32) (inhibit : Bool) : Settles P x E (E.closePort id inhibit) := by
  unfold Endpoint.closePort
  split
  case h_2 => exact of_same (.refl E)
  case h_1 removed hslot =>
    unfold closePortLocal
    cases removed with
    | requested j => exact answers hslot (by simp) none
    | bindRequested j => exact bindAnswers hslot false
    | established d =>
        have hmod : Same (E.setSlot id none)
            ((E.setSlot id none).modifyStream id d.stream MuxStream.disallowWrite) :=
          .of_eq rfl rfl rfl rfl
        have hclosed : Settles P x E (E.setSlot id none) := setEstablished hslot (by simp)
        dsimp only
        split_ifs
        · exact hclosed.then_same (hmod.trans (.send _))
        · exact hclosed.then_same hmod

/-- The end of `wind_down` closes every slot as `close_port` does. -/
lemma finish (res : Except Error Unit) : Settles P x E (E.finish res) := by
  have hclose : Settles P x E (E.closePort x true) := closePort x true
  refine hclose.then_eq ?_ ?_ ?_
  all_goals
    unfold Endpoint.finish drainFlows Endpoint.closePort closePortLocal
    rcases hslot : E.flows x with _ | j | d | j <;>
      simp [Endpoint.modifyCall, Endpoint.modifyBindCall, setSlot, Endpoint.modifyStream, hslot]

lemma of_deals {a : Action} (h : Deals a E E') : Settles P x E E' := by
  cases h with
  | same h => exact of_same h
  | stage hc hgoes h => exact (stage hc hgoes).then_same h
  | bindStage hc hgoes h => exact (bindStage hc hgoes).then_same h
  | close _ h id inhibitRst heq =>
      rw [heq]
      exact after_same h (closePort id inhibitRst)
  | finish _ res heq =>
      rw [heq]
      exact finish res

end Settles

/-! ### Frames and messages -/

lemma ne_of_established {d : EstablishedStreamData} (hs : s.isRequest = true) :
    some (FlowSlot.established d) ≠ some s := by
  rintro ⟨⟩
  cases hs

/-- A slot is established where there was none. -/
lemma settles_establish {id : UInt32} (hnone : E.flows id = none) (m : MuxStream) :
    Settles P x E (E.establish id m) := by
  refine .of_eq (fun s hs => ?_) rfl rfl
  by_cases hx : x = id
  · subst hx
    cases s with
    | established d => cases hs
    | requested j | bindRequested j => simp [setSlot, hnone]
  · simp [setSlot, addStream, Function.update_of_ne hx]

/-- The stream for a call that is there no more goes back. -/
lemma settles_ackGone {id : UInt32} {j : ℕ} (hslot : E.flows id = some (.requested j))
    (hl : E.listens id (.requested j) = false) (m : MuxStream) :
    Settles P x E (E.establish id m) := by
  have hadd : Same E (E.addStream id m) := .of_eq rfl rfl rfl rfl
  have hgone : (E.addStream id m).listens id (.requested j) = false := hl
  have hset : Settles P x (E.addStream id m) (E.establish id m) :=
    .takes hslot rfl (fun s hs => ne_of_established hs) (fun _ hs => hs) (fun _ hl => hl)
      (fun _ hj => hj) (fun _ => .inl rfl) fun _ hl' => by simp [hgone] at hl'
  exact .after_same hadd hset

/-- A `Finish` for a call of `new_stream_channel`: its sender is dropped. -/
lemma settles_finishRequested {id : UInt32} {j : ℕ} (hslot : E.flows id = some (.requested j))
    (hfin : E.listens id (.requested j) = true → E.told id (.requested j) = none → P) :
    Settles P x E ((E.setSlot id none).send (Frame.newReset id)) := by
  have hgone : Settles P x E (E.setSlot id none) :=
    .takes hslot rfl (by simp) (fun _ hs => hs) (fun _ hl => hl) (fun _ hj => hj)
      (fun _ => .inl rfl) fun hP hl => Option.ne_none_iff_isSome.mp fun hnone => hP (hfin hl hnone)
  exact hgone.then_same (.send _)

lemma Handles.settles {f : Frame} {ignoreBind : Bool} {r : Poll (Except Error Unit)}
    (h : E.Handles ignoreBind f E' r)
    (hfin : ∀ j, f.payload = .finish → E.flows f.id = some (.requested j) →
      E.listens f.id (.requested j) = true → E.told f.id (.requested j) = none → P) :
    Settles P x E E' := by
  cases h with
  | connectUsed p hslot => exact .of_same (.send _)
  | connect p hslot hopen =>
      exact (settles_establish hslot _).then_same ((Same.send _).trans (.sendStream _ _))
  | connectClosed p hslot hclosed => exact (settles_establish hslot _).then_same (.dropStream _ _)
  | ackEstablished n hslot => exact .of_same (.of_eq rfl rfl rfl rfl)
  | @ackRequested id j n hslot hlistens =>
      have hadd : Same E (E.addStream id (newStreamShared E.opts n [] 0)) := .of_eq rfl rfl rfl rfl
      have hset := Settles.answers (P := P) (x := x)
        (E := E.addStream id (newStreamShared E.opts n [] 0)) hslot
        (fun s hs => ne_of_established (d := ⟨(E.streams id).length, true⟩) hs)
        (some (E.streams id).length)
      exact .after_same hadd hset
  | ackGone n hslot hlistens =>
      exact (settles_ackGone hslot hlistens _).then_same (.dropStream _ _)
  | ackBogus n hslot => exact .of_same (.send _)
  | finishBogus hslot => exact .of_same (.send _)
  | finishBind hslot => exact .bindAnswers hslot true
  | @finishRequested id j hslot => exact settles_finishRequested hslot (hfin j rfl hslot)
  | finishEstablished hslot => exact .setEstablished hslot fun s hs => ne_of_established hs
  | reset id => exact .closePort id true
  | push data hslot hm hd hroom => exact .of_same (.of_eq rfl rfl rfl rfl)
  | @pushFull id i m data hslot hm hd hfull => exact .closePort id false
  | pushClosed data hslot hm hd => exact .of_same (.refl E)
  | pushBogus data hnone => exact .of_same (.send _)
  | bindOff p hzero => exact .of_same (.send _)
  | bindIgnored p hpos hig => exact .of_same (.refl E)
  | @bind id p hpos hig =>
      have hadd : Settles P x E (E.addBind id p) := .of_eq (fun _ _ => .rfl) rfl rfl
      exact hadd.then_same (.sendBindRequest _ _)
  | datagramGone p hgone => exact .of_same (.refl E)
  | datagram p halive hroom => exact .of_same (.of_eq rfl rfl rfl rfl)
  | datagramLost p halive hfull => exact .of_same (.refl E)

/-- A message settles requests, if it is not a `Finish` for a call of `new_stream_channel` that
waits. -/
lemma settles_processMessage (msg : Message) (ignoreBind : Bool)
    (hfin : ∀ id j, msg.frame? = some ⟨id, .finish⟩ → E.flows id = some (.requested j) →
      E.listens id (.requested j) = true → E.told id (.requested j) = none → P) :
    Settles P x E (E.processMessage msg ignoreBind).1 := by
  obtain ⟨-, heq⟩ | ⟨data, ⟨id, p⟩, rfl, hdec, heq⟩ := E.processMessage_cases msg ignoreBind
  · rw [heq]
    exact .of_same (.refl E)
  · rw [heq]
    refine (E.handles _ ignoreBind).settles fun j hp hslot => hfin id j ?_ hslot
    obtain rfl : p = .finish := hp
    exact Message.frame?_binary hdec

/-- **Messages**: while the task runs, only a `Finish` for a call that waits goes by without a
word to the call. -/
lemma settles_recv {msg : Message} (h : E.recv msg = some E') :
    Settles (E.phase = .running → E.FinishesRequested (.recv msg)) x E E' := by
  obtain ⟨hrun, hfree, rfl⟩ | ⟨res, hph, hway⟩ := recv_cases h
  · have hmsg : Settles (E.phase = .running → E.FinishesRequested (.recv msg)) x E
        (E.processMessage msg false).1 := by
      refine settles_processMessage msg false fun id j hframe hslot hl _ _ => ?_
      refine ⟨id, j, ?_, hslot, hl⟩
      rw [← hframe]
      cases msg <;> simp [arriving, Message.frame?, hrun, hfree, Phase.isRunning]
    exact hmsg.then_same (.afterMessage _)
  · have hmsg : Settles (E.phase = .running → E.FinishesRequested (.recv msg)) x E
        (E.processMessage msg true).1 :=
      settles_processMessage msg true fun _ _ _ _ _ _ hrun => by simp [hph] at hrun
    obtain ⟨e, -, rfl⟩ | ⟨-, rfl⟩ := hway
    · exact hmsg.then_same (.of_eq rfl rfl rfl rfl)
    · exact hmsg

/-! ### Calls of the user and iterations of the loops -/

/-- A new request: its slot is where none was, and its call has not been told anything. -/
structure Inserts (id : UInt32) (s : FlowSlot) (E E' : Endpoint) : Prop where
  vacant : E.flows id = none
  flows : E'.flows = Function.update E.flows id (some s)
  new : ¬ E.Placed id s
  placed : E'.Placed id s
  kept : ∀ x s', E.Placed x s' → E'.Placed x s'
  fresh : E.told id s = none
  listens : ∀ x s', E'.listens x s' = true → E.listens x s' = true ∨ x = id ∧ s' = s
  rejected : ∀ x j, E'.rejects x j = true → E.rejects x j = true
  told : ∀ x s', E'.told x s' = E.told x s'

lemma inserts_insertRequested {id : UInt32} (hslot : E.flows id = none) (host : Bytes)
    (port : UInt16) (n : ℕ) :
    Inserts id (.requested (E.calls id).length) E (E.insertRequested id host port n) := by
  refine ⟨hslot, rfl, by simp [Placed], by simp [Placed, insertRequested], fun x s hs => ?_,
    by simp [told], fun x s hl => ?_, fun x j hj => ?_, fun x s => ?_⟩
  · cases s with
    | established d => trivial
    | bindRequested k => exact hs
    | requested k => exact hs.trans_le (Lists.length_le_update_append E.calls id _ x)
  · cases s with
    | established d => cases hl
    | bindRequested k => exact .inl hl
    | requested k =>
        refine (Lists.any_update_append hl).imp_right ?_
        rintro ⟨hx, hk, -⟩
        exact ⟨hx, by rw [hk]⟩
  · rcases Lists.any_update_append hj with hold | ⟨-, -, hst⟩
    · exact hold
    · simp at hst
  · cases s with
    | established d => rfl
    | bindRequested k => rfl
    | requested k =>
        exact congrArg (Option.map Sum.inl)
          (Lists.bind_update_append (q := fun c : StreamCall => c.reply) rfl)

lemma inserts_insertBindRequested {id : UInt32} (hslot : E.flows id = none) (host : Bytes)
    (port : UInt16) (t : BindType) :
    Inserts id (.bindRequested (E.bindCalls id).length) E (E.insertBindRequested id host port t) := by
  refine ⟨hslot, rfl, by simp [Placed], by simp [Placed], fun x s hs => ?_,
    by simp [told], fun x s hl => ?_, fun _ _ hj => hj, fun x s => ?_⟩
  · cases s with
    | established d => trivial
    | requested k => exact hs
    | bindRequested k => exact hs.trans_le (Lists.length_le_update_append E.bindCalls id _ x)
  · cases s with
    | established d => cases hl
    | requested k => exact .inl hl
    | bindRequested k =>
        refine (Lists.any_update_append hl).imp_right ?_
        rintro ⟨hx, hk, -⟩
        exact ⟨hx, by rw [hk]⟩
  · cases s with
    | established d => rfl
    | requested k => rfl
    | bindRequested k =>
        exact congrArg (Option.map Sum.inr)
          (Lists.bind_update_append (q := fun c : BindCall => c.reply) rfl)

/-- A round of `new_stream_channel` is given up for a new one. -/
lemma inserts_retryStream {id' : UInt32} (id : UInt32) (j : ℕ) (hslot : E.flows id' = none)
    (host : Bytes) (port : UInt16) (n : ℕ) :
    Inserts id' (.requested (E.calls id').length) E
      ((E.modifyCall id j fun c => { c with stage := .returned }).insertRequested id' host port
        n) := by
  have hlen : ((E.modifyCall id j fun c => { c with stage := .returned }).calls id').length =
      (E.calls id').length := Lists.length_update_modify E.calls id j _ id'
  have hins := inserts_insertRequested
    (E := E.modifyCall id j fun c => { c with stage := .returned }) hslot host port n
  rw [hlen] at hins
  refine ⟨hins.vacant, hins.flows, by simp [Placed], hins.placed,
    fun x s hs => hins.kept x s (placed_modifyCall id j _ hs),
    by rw [← told_stage id j .returned, hins.fresh],
    fun x s hl => (hins.listens x s hl).imp_left fun hl => ?_,
    fun x k hk => ?_, fun x s => (hins.told x s).trans (told_stage id j _)⟩
  · exact listens_modifyCall (fun _ _ hl => by cases hl) hl
  · rcases Lists.any_update_modify (hins.rejected x k hk) with hold | ⟨-, -, c, -, hst⟩
    · exact hold
    · simp at hst

/-- **Calls of the users and steps of the task**: a request is settled, or a new one made. -/
theorem act_settles {a : Action} {out : List Message} (h : E.act a = some (E', out)) :
    (∀ x, Settles P x E E') ∨ ∃ id s, Inserts id s E E' := by
  cases acts h with
  | @newStreamChannel id host port halive hkey =>
      exact .inr ⟨id, _, inserts_insertRequested (keyAvailable_eq hkey).1 _ _ _⟩
  | @retryStream id id' j c hc hstage hleft hkey =>
      exact .inr ⟨id', _, inserts_retryStream id j (keyAvailable_eq hkey).1 _ _ _⟩
  | @requestBind id host port t halive hkey =>
      exact .inr ⟨id, _, inserts_insertBindRequested (keyAvailable_eq hkey).1 host port t⟩
  | _ => exact .inl fun _ => .of_deals (act_deals h (by simp) (by simp) (by simp))

/-- **Steps**: a request is settled, or a new one made. While the task runs, only a `Finish` for
a call that waits goes by without a word to the call. -/
theorem step_settles {e : Event} (h : E.step e = some E') :
    (∀ x, Settles (E.phase = .running → E.FinishesRequested e) x E E') ∨
      ∃ id s, Inserts id s E E' := by
  cases e with
  | recv msg => exact .inl fun _ => settles_recv h
  | act a =>
      obtain ⟨⟨F, out⟩, hact, rfl⟩ := Option.map_eq_some_iff.mp h
      exact act_settles hact

/-! ### Runs -/

/-- What has been told has been told when the slot was taken. -/
def Told (E : Endpoint) : Prop := ∀ x s, E.flows x = some s → E.told x s = none

/-- While the task runs, a call that listens and has not been told anything has its slot. -/
def Awaited (E : Endpoint) : Prop :=
  E.phase = .running → ∀ x s, E.listens x s = true → E.told x s = none → E.flows x = some s

lemma told_new (opts : Options) : (new opts).Told := fun _ _ h => by cases h

lemma awaited_new (opts : Options) : (new opts).Awaited := by
  intro _ x s hl
  cases s <;> simp [listens, new] at hl

lemma Told.step {e : Event} (hI : E.Told) (h : E.step e = some E') : E'.Told := by
  intro x s hslot
  cases hreq : s.isRequest with
  | false =>
      cases s with
      | established d => rfl
      | requested j | bindRequested j => cases hreq
  | true =>
      rcases step_settles h with hset | ⟨id, s₀, hins⟩
      · have hold := (hset x).slot s hreq hslot
        rcases (hset x).told s with heq | ⟨-, hlost⟩
        · rw [heq]
          exact hI x s hold
        · exact absurd hslot hlost
      · rw [hins.told]
        by_cases hx : x = id
        · rw [hins.flows, hx, Function.update_self] at hslot
          rw [hx, ← Option.some.inj hslot]
          exact hins.fresh
        · rw [hins.flows, Function.update_of_ne hx] at hslot
          exact hI x s hslot

/-- What a call has been told stays. -/
lemma Told.kept {e : Event} {v : Option ℕ ⊕ Bool} (hI : E.Told) (h : E.step e = some E')
    (hv : E.told x s = some v) : E'.told x s = some v := by
  rcases step_settles h with hset | ⟨id, s₀, hins⟩
  · rcases (hset x).told s with heq | ⟨hslot, -⟩
    · rwa [heq]
    · simp [hI x s hslot] at hv
  · rwa [hins.told]

lemma Awaited.step {e : Event} (hI : E.Awaited) (h : E.step e = some E')
    (hfin : ¬ E.FinishesRequested e) : E'.Awaited := by
  intro hrun' x s hl hnone
  have hrun : E.phase = .running := running_of_step h hrun'
  rcases step_settles h with hset | ⟨id, s₀, hins⟩
  · have hl₀ := (hset x).listens s hl
    have hslot : E.flows x = some s := by
      rcases (hset x).told s with heq | ⟨hslot, -⟩
      · exact hI hrun x s hl₀ (heq ▸ hnone)
      · exact hslot
    by_contra hlost
    have htold := (hset x).answered (fun hP => hfin (hP hrun)) s hslot hlost hl₀
    simp [hnone] at htold
  · rcases hins.listens x s hl with hl₀ | ⟨rfl, rfl⟩
    · have hslot := hI hrun x s hl₀ (by rwa [← hins.told])
      have hx : x ≠ id := by
        rintro rfl
        simp [hins.vacant] at hslot
      rwa [hins.flows, Function.update_of_ne hx]
    · rw [hins.flows, Function.update_self]

end Endpoint

end Penguin.Mux
