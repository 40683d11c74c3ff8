import Penguin.Mux.Answers
import Penguin.Mux.Waiting

/-!
What takes the slot of a call out of the map.

A call whose frame cannot be queued returns without its slot, so it leaves nothing only if someone
else has taken the slot since it was inserted. A slot goes away with a frame of the peer, with the
notification of a handle, or at the end of `wind_down`. A slot that no such step has taken is still
in the map.
-/

namespace Penguin.Mux

open Penguin.Lib.Transition

/-- The step with which the call that has inserted the slot queues its frame. -/
def FlowSlot.queues (x : UInt32) : FlowSlot → Option Action
  | .requested j => some (.sendConnect x j)
  | .bindRequested j => some (.sendBind x j)
  | .established _ => none

namespace Endpoint

/-- The frame takes the slot of its flow id from its call, or closes its stream. -/
def TakenBy (E : Endpoint) (f : Frame) : Prop :=
  match f.payload with
  | .reset => True
  | .finish => ∃ s, E.flows f.id = some s ∧ s.isRequest = true
  -- the channel of the stream is full
  | .push _ => ∃ i m, E.flows f.id = some (.established ⟨i, true⟩) ∧
      (E.streams f.id)[i]? = some m ∧ m.dropped = false ∧ E.opts.rwnd.toNat ≤ m.frameRx.length
  -- the call is there no more
  | .acknowledge _ => ∃ j, E.flows f.id = some (.requested j) ∧
      E.listens f.id (.requested j) = false
  | _ => False

/-- The step takes the slot of a flow id, if there is one. -/
def Takes (E : Endpoint) (x : UInt32) : Event → Prop
  | .recv msg => ∃ f ∈ msg.frame?, f.id = x ∧ E.TakenBy f
  | .act .droppedPort => x ≠ 0 ∧ ∃ n rest, E.droppedPorts = n :: rest ∧ n.id = x
  -- the drain at the end of `wind_down`
  | .act .sourceError | .act .sourceEnd => ∃ res, E.phase = .reading res
  | _ => False

/-- The slot that a call has inserted is in the map: as it was inserted, or with the stream that
the call was given. -/
def Has (E : Endpoint) (x : UInt32) (s : FlowSlot) : Prop :=
  E.flows x = some s ∨ ∃ i b, E.told x s = some (.inl (some i)) ∧
    E.flows x = some (.established ⟨i, b⟩)

/-- A stream that a call was given is one of the handles. -/
def Bounded (E : Endpoint) (x : UInt32) (s : FlowSlot) : Prop :=
  ∀ i, E.told x s = some (.inl (some i)) → i < (E.streams x).length

variable {E E' F : Endpoint} {x : UInt32} {s : FlowSlot} {taken : Prop}

/-- What becomes of the slot of a flow id in a step that takes it, or does not. -/
inductive Turns (x : UInt32) (taken : Prop) (E E' : Endpoint) : Prop
  | stays (hnot : ¬ taken) (hslot : E'.flows x = E.flows x)
      (htold : ∀ s, E'.told x s = E.told x s)
  | inserted {s : FlowSlot} (hnot : ¬ taken) (hnone : E.flows x = none)
      (hslot : E'.flows x = some s) (hnew : s.isRequest = true ∧ ¬ E.Placed x s)
      (htold : ∀ s, E'.told x s = E.told x s)
  | accepted (hnot : ¬ taken) (hnone : E.flows x = none)
      (hslot : E'.flows x = some (.established ⟨(E.streams x).length, true⟩))
      (htold : ∀ s, E'.told x s = E.told x s)
  | answered {j : ℕ} (hnot : ¬ taken) (hslot : E.flows x = some (.requested j))
      (hslot' : E'.flows x = some (.established ⟨(E.streams x).length, true⟩))
      (hgiven : E'.told x (.requested j) = some (.inl (some (E.streams x).length)))
      (htold : ∀ s, s ≠ .requested j → E'.told x s = E.told x s)
      (hlen : (E.streams x).length < (E'.streams x).length)
  | halfClosed {i : ℕ} {b b' : Bool} (hnot : ¬ taken)
      (hslot : E.flows x = some (.established ⟨i, b⟩))
      (hslot' : E'.flows x = some (.established ⟨i, b'⟩))
      (htold : ∀ s, E'.told x s = E.told x s)
  | gone (htaken : taken) (hslot : E'.flows x = none)
      (htold : ∀ s i, E'.told x s = some (.inl (some i)) → E.told x s = some (.inl (some i)))
  /-- The stream for a call that is there no more. -/
  | stranded {j : ℕ} (htaken : taken) (hslot : E.flows x = some (.requested j))
      (hslot' : E'.flows x = some (.established ⟨(E.streams x).length, true⟩))
      (htold : ∀ s, E'.told x s = E.told x s)

lemma Spares.length_streams {us : List Frame} (h : Spares .dests E us E') :
    (E.streams x).length ≤ (E'.streams x).length := by
  simpa [watched] using (h.streams x trivial).length_le

lemma length_streams_sendStream (id : UInt32) (i : ℕ) :
    (E.streams x).length ≤ ((E.sendStream id i).1.streams x).length := by
  unfold sendStream
  split_ifs
  · exact (Spares.dropStream id i).length_streams
  · exact le_rfl
  · exact le_rfl

lemma length_streams_sendBindRequest (id : UInt32) (i : ℕ) :
    (E.streams x).length ≤ ((E.sendBindRequest id i).1.streams x).length := by
  unfold sendBindRequest
  split_ifs
  · exact (Spares.dropBind id i).length_streams
  · exact le_rfl
  · exact le_rfl

namespace Turns

lemma of_same (hnot : ¬ taken) (h : Same E E') : Turns x taken E E' :=
  .stays hnot (congrFun h.flows x) fun _ =>
    told_congr (congrFun h.calls x) (congrFun h.bindCalls x)

lemma then_same (h : Turns x taken E F) (h' : Same F E')
    (hlen : (F.streams x).length ≤ (E'.streams x).length) : Turns x taken E E' := by
  have hflows : E'.flows x = F.flows x := congrFun h'.flows x
  have htold' : ∀ s, E'.told x s = F.told x s := fun _ =>
    told_congr (congrFun h'.calls x) (congrFun h'.bindCalls x)
  cases h with
  | stays hnot hslot htold =>
      exact .stays hnot (hflows.trans hslot) fun s => (htold' s).trans (htold s)
  | inserted hnot hnone hslot hnew htold =>
      exact .inserted hnot hnone (hflows.trans hslot) hnew fun s => (htold' s).trans (htold s)
  | accepted hnot hnone hslot htold =>
      exact .accepted hnot hnone (hflows.trans hslot) fun s => (htold' s).trans (htold s)
  | answered hnot hslot hslot' hgiven htold hlt =>
      exact .answered hnot hslot (hflows.trans hslot') ((htold' _).trans hgiven)
        (fun s hs => (htold' s).trans (htold s hs)) (hlt.trans_le hlen)
  | halfClosed hnot hslot hslot' htold =>
      exact .halfClosed hnot hslot (hflows.trans hslot') fun s => (htold' s).trans (htold s)
  | gone htaken hslot htold =>
      exact .gone htaken (hflows.trans hslot) fun s i hi => htold s i ((htold' s).symm.trans hi)
  | stranded htaken hslot hslot' htold =>
      exact .stranded htaken hslot (hflows.trans hslot') fun s => (htold' s).trans (htold s)

lemma then_spares {us : List Frame} (h : Turns x taken E F) (h' : Same F E')
    (hs : Spares .dests F us E') : Turns x taken E E' :=
  h.then_same h' hs.length_streams

lemma of_within {id : UInt32} (hnot : ¬ taken) (h : Within id E E') (hx : x ≠ id) :
    Turns x taken E E' := by
  have hentry := h.entry x hx
  have hcalls : E'.calls x = E.calls x := congrArg Entry.calls hentry
  have hbindCalls : E'.bindCalls x = E.bindCalls x := congrArg Entry.bindCalls hentry
  exact .stays hnot (congrArg Entry.slot hentry) fun _ => told_congr hcalls hbindCalls

lemma of_inserts {id : UInt32} (hnot : ¬ taken) (hs : s.isRequest = true)
    (h : Inserts id s E E') : Turns x taken E E' := by
  by_cases hx : x = id
  · subst hx
    refine .inserted hnot h.vacant ?_ ⟨hs, h.new⟩ (h.told x)
    rw [h.flows, Function.update_self]
  · refine .stays hnot ?_ (h.told x)
    rw [h.flows, Function.update_of_ne hx]

lemma of_deals {a : Action} (h : Deals a E E') (hnot : ¬ taken) (hport : a ≠ .droppedPort)
    (herror : a ≠ .sourceError) (hend : a ≠ .sourceEnd) : Turns x taken E E' := by
  cases h with
  | same h => exact .of_same hnot h
  | @stage id j c stage hc hgoes h =>
      refine .stays hnot (congrFun h.flows x) fun s => ?_
      exact (told_congr (congrFun h.calls x) (congrFun h.bindCalls x)).trans (told_stage id j stage)
  | @bindStage id j c stage hc hgoes h =>
      refine .stays hnot (congrFun h.flows x) fun s => ?_
      exact (told_congr (congrFun h.calls x) (congrFun h.bindCalls x)).trans
        (told_bindStage id j stage)
  | close ha => exact absurd ha hport
  | finish ha => exact absurd ha (not_or.mpr ⟨herror, hend⟩)

end Turns

/-! ### What closing a slot does -/

/-- A call that is told `None` has not been given a stream. -/
lemma told_refused {id : UInt32} {j i : ℕ} {slot : Option FlowSlot}
    (h : ((E.setSlot id slot).modifyCall id j (StreamCall.answer none)).told x s =
      some (.inl (some i))) : E.told x s = some (.inl (some i)) := by
  obtain hsame | ⟨rfl, rfl⟩ := told_modifyCall (E := E.setSlot id slot) (x := x) (s := s) id j
    (StreamCall.answer none)
  · exact hsame.symm.trans h
  · cases hl : E.listens x (.requested j) with
    | true => simp [told_answer (E := E.setSlot x slot) none hl] at h
    | false =>
        cases hc : (E.calls x)[j]? with
        | none => simp [told, modifyCall, setSlot, hc] at h
        | some c =>
            have hst : c.stage.listening = false := by simpa [listens, hc] using hl
            simpa [told, modifyCall, setSlot, hc, StreamCall.answer, hst] using h

lemma told_bindAnswered {id : UInt32} {j i : ℕ} {slot : Option FlowSlot} {r : Bool}
    (h : ((E.setSlot id slot).modifyBindCall id j (BindCall.answer r)).told x s =
      some (.inl (some i))) : E.told x s = some (.inl (some i)) := by
  obtain hsame | ⟨rfl, rfl⟩ := told_modifyBindCall (E := E.setSlot id slot) (x := x) (s := s) id j
    (BindCall.answer r)
  · exact hsame.symm.trans h
  · obtain ⟨v, -, hv⟩ := Option.map_eq_some_iff.mp h
    cases hv

lemma flows_closePort (id : UInt32) (inhibitRst : Bool) :
    (E.closePort id inhibitRst).flows id = none := by
  unfold closePort
  split
  case h_2 hslot => exact hslot
  case h_1 removed hslot =>
    have hgone : (E.setSlot id none).flows id = none := by simp [setSlot]
    unfold closePortLocal
    cases removed with
    | requested j => exact hgone
    | bindRequested j => exact hgone
    | established d =>
        dsimp only
        split_ifs
        · rw [flows_send]
          exact hgone
        · exact hgone

lemma told_closePort {id : UInt32} {inhibitRst : Bool} {i : ℕ}
    (h : (E.closePort id inhibitRst).told x s = some (.inl (some i))) :
    E.told x s = some (.inl (some i)) := by
  unfold closePort at h
  split at h
  case h_2 => exact h
  case h_1 removed hslot =>
    unfold closePortLocal at h
    cases removed with
    | requested j => exact told_refused h
    | bindRequested j => exact told_bindAnswered h
    | established d =>
        have hsame : ∀ F : Endpoint, F.calls = E.calls → F.bindCalls = E.bindCalls →
            F.told x s = E.told x s := fun F hcalls hbindCalls =>
          told_congr (congrFun hcalls x) (congrFun hbindCalls x)
        dsimp only at h
        split_ifs at h
        · have hsend := Same.send (E := (E.setSlot id none).modifyStream id d.stream
            MuxStream.disallowWrite) (Frame.newReset id)
          rwa [hsame _ hsend.calls hsend.bindCalls] at h
        · exact h

/-- The end of `wind_down` is like `close_port` to every slot. -/
lemma told_finish {res : Except Error Unit} {i : ℕ}
    (h : (E.finish res).told x s = some (.inl (some i))) : E.told x s = some (.inl (some i)) := by
  suffices hclose : (E.closePort x true).told x s = some (.inl (some i)) from told_closePort hclose
  refine h ▸ told_congr ?_ ?_
  all_goals
    unfold finish drainFlows closePort closePortLocal
    rcases hslot : E.flows x with _ | j | d | j <;>
      simp [modifyCall, modifyBindCall, setSlot, modifyStream, hslot]

lemma Turns.closePort {id : UInt32} (inhibitRst : Bool) (htaken : taken) :
    Turns id taken E (E.closePort id inhibitRst) :=
  .gone htaken (flows_closePort id inhibitRst) fun _ _ hi => told_closePort hi

/-! ### Steps -/

lemma act_turns {a : Action} {out : List Message} (h : E.act a = some (E', out)) :
    Turns x (E.Takes x (.act a)) E E' := by
  cases acts h with
  | newStreamChannel host port halive hkey =>
      exact .of_inserts (fun ht => ht) rfl
        (inserts_insertRequested (keyAvailable_eq hkey).1 host port _)
  | @retryStream id id' j c hc hstage hleft hkey =>
      exact .of_inserts (fun ht => ht) rfl
        (inserts_retryStream id j (keyAvailable_eq hkey).1 c.host c.port _)
  | requestBind host port t halive hkey =>
      exact .of_inserts (fun ht => ht) rfl
        (inserts_insertBindRequested (keyAvailable_eq hkey).1 host port t)
  | @droppedZero n rest hrun hports hzero =>
      have hpop : Same E { E with droppedPorts := rest } := .of_eq rfl rfl rfl rfl
      refine .of_same ?_ (hpop.trans (.startWindDown _ _))
      rintro ⟨hx, m, rest', hm, rfl⟩
      obtain ⟨rfl, -⟩ := List.cons.inj (hports.symm.trans hm)
      exact hx hzero
  | @droppedPort n rest hrun hports hid =>
      by_cases hx : x = n.id
      · subst hx
        exact .gone ⟨hid, n, rest, hports, rfl⟩ (flows_closePort _ _) fun _ _ hi =>
          told_closePort (E := { E with droppedPorts := rest }) hi
      · have hwithin : Within n.id { E with droppedPorts := rest } _ := .closePort false
        have hentry := hwithin.entry x hx
        refine .stays ?_ (congrArg Entry.slot hentry) fun s =>
          told_congr (congrArg Entry.calls hentry) (congrArg Entry.bindCalls hentry)
        rintro ⟨-, m, rest', hm, rfl⟩
        obtain ⟨rfl, -⟩ := List.cons.inj (hports.symm.trans hm)
        exact hx rfl
  | lastError hph => exact .gone ⟨_, hph⟩ rfl fun _ _ hi => told_finish hi
  | lastMessage hph => exact .gone ⟨_, hph⟩ rfl fun _ _ hi => told_finish hi
  | sourceError hrun hfree =>
      refine .of_same ?_ (.startWindDown _ _)
      rintro ⟨res, hph⟩
      simp [hrun] at hph
  | sourceEnd hrun hfree =>
      refine .of_same ?_ (.startWindDown _ _)
      rintro ⟨res, hph⟩
      simp [hrun] at hph
  | _ =>
      exact .of_deals (act_deals h (by simp) (by simp) (by simp)) (fun ht => ht) (by simp) (by simp)
        (by simp)

lemma Handles.turns {f : Frame} {ignoreBind : Bool} {r : Poll (Except Error Unit)}
    (h : E.Handles ignoreBind f E' r) : Turns f.id (E.TakenBy f) E E' := by
  have haccept : ∀ (id : UInt32) (p : ConnectPayload) (m : MuxStream), E.flows id = none →
      Turns id (E.TakenBy ⟨id, .connect p⟩) E (E.establish id m) :=
    fun id p m hslot => .accepted (fun ht => ht) hslot (by simp [setSlot]) fun _ => rfl
  cases h with
  | connectUsed p hslot => exact .of_same (fun ht => ht) (.send _)
  | @connect id p hslot hopen =>
      have hsent := (haccept id p (newStreamShared E.opts p.rwnd p.targetHost p.targetPort)
        hslot).then_spares (.send (Frame.newAcknowledge id E.opts.rwnd)) (.send rfl)
      exact hsent.then_same (.sendStream _ _) (length_streams_sendStream _ _)
  | @connectClosed id p hslot hclosed =>
      exact (haccept id p _ hslot).then_spares (.dropStream _ _) (.dropStream _ _)
  | ackEstablished n hslot => exact .of_same (by simp [TakenBy, hslot]) (.of_eq rfl rfl rfl rfl)
  | @ackRequested id j n hslot hlistens =>
      refine .answered (by simp [TakenBy, hslot, listens, hlistens]) hslot
        (by simp [setSlot, modifyCall]) ?_ (fun s hs => ?_)
        (by simp [establish, addStream, setSlot, modifyCall])
      · exact told_answer (E := E.establish id (newStreamShared E.opts n [] 0)) _ hlistens
      · refine (told_modifyCall (E := E.establish id (newStreamShared E.opts n [] 0)) id j
          _).resolve_right fun hchanged => hs hchanged.2
  | @ackGone id j n hslot hlistens =>
      have hgone : Turns id (E.TakenBy ⟨id, .acknowledge n⟩) E
          (E.establish id (newStreamShared E.opts n [] 0)) :=
        .stranded ⟨j, hslot, hlistens⟩ hslot (by simp [setSlot]) fun _ => rfl
      exact hgone.then_spares (.dropStream _ _) (.dropStream _ _)
  | ackBogus n hslot =>
      refine .of_same ?_ (.send _)
      rintro ⟨j, hj, -⟩
      obtain hnone | ⟨k, hk⟩ := hslot
      · simp [hnone] at hj
      · simp [hk] at hj
  | finishBogus hslot => exact .of_same (by simp [TakenBy, hslot]) (.send _)
  | finishBind hslot =>
      exact .gone ⟨_, hslot, rfl⟩ (by simp [setSlot, modifyBindCall]) fun _ _ hi =>
        told_bindAnswered hi
  | @finishRequested id j hslot =>
      have hgone : Turns id (E.TakenBy ⟨id, .finish⟩) E (E.setSlot id none) :=
        .gone ⟨_, hslot, rfl⟩ (by simp [setSlot]) fun _ _ hi => hi
      exact hgone.then_spares (.send _) (.send rfl)
  | @finishEstablished id d hslot =>
      have hslot' : (E.setSlot id (some (.established { d with sender := false }))).flows id =
          some (.established ⟨d.stream, false⟩) := by simp [setSlot]
      refine .halfClosed ?_ hslot hslot' fun _ => rfl
      rintro ⟨s, hs, hreq⟩
      obtain rfl := Option.some.inj (hslot.symm.trans hs)
      cases hreq
  | reset id => exact .closePort true trivial
  | @push id i m data hslot hm hd hroom =>
      refine .of_same ?_ (.of_eq rfl rfl rfl rfl)
      rintro ⟨k, m', hk, hm', -, hfull⟩
      obtain rfl : i = k := by simpa [hslot] using hk
      obtain rfl := Option.some.inj (hm.symm.trans hm')
      exact absurd hfull (Nat.not_le.mpr hroom)
  | pushFull data hslot hm hd hfull => exact .closePort false ⟨_, _, hslot, hm, hd, hfull⟩
  | @pushClosed id i m data hslot hm hd =>
      refine .of_same ?_ (.refl E)
      rintro ⟨k, m', hk, hm', hlive, -⟩
      obtain rfl : i = k := by simpa [hslot] using hk
      obtain rfl := Option.some.inj (hm.symm.trans hm')
      simp [hd] at hlive
  | pushBogus data hnone =>
      refine .of_same ?_ (.send _)
      rintro ⟨i, m, hi, hm, -⟩
      exact hnone i m hi hm
  | bindOff p hzero => exact .of_same (fun ht => ht) (.send _)
  | bindIgnored p hpos hig => exact .of_same (fun ht => ht) (.refl E)
  | @bind id p hpos hig =>
      have hadd : Turns id (E.TakenBy ⟨id, .bind p⟩) E (E.addBind id p) :=
        .stays (fun ht => ht) rfl fun _ => rfl
      exact hadd.then_same (.sendBindRequest _ _) (length_streams_sendBindRequest _ _)
  | datagramGone p hgone => exact .of_same (fun ht => ht) (.refl E)
  | datagram p halive hroom => exact .of_same (fun ht => ht) (.of_eq rfl rfl rfl rfl)
  | datagramLost p halive hfull => exact .of_same (fun ht => ht) (.refl E)

lemma recv_turns {msg : Message} (h : E.recv msg = some E') :
    Turns x (E.Takes x (.recv msg)) E E' := by
  have hprocess : ∀ ignoreBind,
      Turns x (E.Takes x (.recv msg)) E (E.processMessage msg ignoreBind).1 := by
    intro ignoreBind
    obtain ⟨hnone, heq⟩ | ⟨data, f, rfl, hdec, heq⟩ := E.processMessage_cases msg ignoreBind
    · rw [heq]
      exact .of_same (by simp [Takes, hnone]) (.refl E)
    · have htakes : E.Takes x (.recv (.binary data)) ↔ f.id = x ∧ E.TakenBy f := by
        simp [Takes, Message.frame?_binary hdec]
      rw [heq, htakes]
      by_cases hx : x = f.id
      · subst hx
        simpa using (E.handles f ignoreBind).turns
      · exact .of_within (fun ht => hx ht.1.symm) (within_processFrame E f ignoreBind) hx
  obtain ⟨-, -, rfl⟩ | ⟨res, -, ⟨e, -, rfl⟩ | ⟨-, rfl⟩⟩ := recv_cases h
  · exact (hprocess false).then_spares (.afterMessage _) (spares_afterMessage _)
  · exact (hprocess true).then_same (.of_eq rfl rfl rfl rfl) le_rfl
  · exact hprocess true

/-- **Slots**: a step takes the slot of a flow id, or leaves it to its call. -/
theorem turns_of_step {e : Event} (h : E.step e = some E') : Turns x (E.Takes x e) E E' := by
  cases e with
  | recv msg => exact recv_turns h
  | act a =>
      obtain ⟨⟨F, out⟩, hact, rfl⟩ := Option.map_eq_some_iff.mp h
      exact act_turns hact

/-! ### Runs -/

lemma Bounded.turns (hI : E.Bounded x s) (h : Turns x taken E E')
    (hlen : (E.streams x).length ≤ (E'.streams x).length) : E'.Bounded x s := by
  intro i hi
  cases h with
  | stays hnot hslot htold => exact (hI i (htold s ▸ hi)).trans_le hlen
  | inserted hnot hnone hslot hnew htold => exact (hI i (htold s ▸ hi)).trans_le hlen
  | accepted hnot hnone hslot htold => exact (hI i (htold s ▸ hi)).trans_le hlen
  | halfClosed hnot hslot hslot' htold => exact (hI i (htold s ▸ hi)).trans_le hlen
  | gone htaken hslot htold => exact (hI i (htold s i hi)).trans_le hlen
  | stranded htaken hslot hslot' htold => exact (hI i (htold s ▸ hi)).trans_le hlen
  | @answered j hnot hslot hslot' hgiven htold hlt =>
      by_cases hs : s = .requested j
      · subst hs
        obtain rfl : (E.streams x).length = i := by simpa [hgiven] using hi
        exact hlt
      · exact (hI i (htold s hs ▸ hi)).trans_le hlen

/-- The slot of a call is there as long as no step takes it, and it does not come back. -/
lemma Turns.has_iff (h : Turns x taken E E') (hb : E.Bounded x s) (hp : E.Placed x s)
    (hs : s.isRequest = true) : E'.Has x s ↔ E.Has x s ∧ ¬ taken := by
  have hreq : ∀ {d : EstablishedStreamData}, s ≠ .established d := by
    rintro d rfl
    cases hs
  -- a stream that is new is not one that the call was given before
  have hlast : ∀ {b : Bool}, E'.flows x = some (.established ⟨(E.streams x).length, b⟩) →
      E'.told x s = E.told x s → ¬ E'.Has x s := by
    rintro b hslot htold (hsame | ⟨i, b', hi, hslot'⟩)
    · exact hreq (Option.some.inj (hsame.symm.trans hslot))
    · obtain ⟨rfl, -⟩ : (E.streams x).length = i ∧ b = b' := by simpa [hslot] using hslot'
      exact absurd (hb _ (htold ▸ hi)) (lt_irrefl _)
  have hnone' : E.flows x = none → ¬ E.Has x s := by
    rintro hnone (hsame | ⟨i, b, -, hslot⟩)
    · simp [hnone] at hsame
    · simp [hnone] at hslot
  cases h with
  | stays hnot hslot htold =>
      simp only [Has, hslot, htold]
      exact (and_iff_left hnot).symm
  | @inserted s' hnot hnone hslot hnew htold =>
      refine iff_of_false ?_ fun h => hnone' hnone h.1
      rintro (hsame | ⟨i, b, hi, hslot'⟩)
      · obtain rfl := Option.some.inj (hslot.symm.trans hsame)
        exact hnew.2 hp
      · obtain rfl := Option.some.inj (hslot.symm.trans hslot')
        cases hnew.1
  | accepted hnot hnone hslot htold =>
      exact iff_of_false (hlast hslot (htold s)) fun h => hnone' hnone h.1
  | @answered j hnot hslot hslot' hgiven htold hlt =>
      by_cases hj : s = .requested j
      · subst hj
        exact iff_of_true (.inr ⟨_, _, hgiven, hslot'⟩) ⟨.inl hslot, hnot⟩
      · refine iff_of_false (hlast hslot' (htold s hj)) ?_
        rintro ⟨hsame | ⟨i, b, -, hest⟩, -⟩
        · exact hj (Option.some.inj (hsame.symm.trans hslot))
        · simp [hslot] at hest
  | @halfClosed i b b' hnot hslot hslot' htold =>
      have hother : ∀ d, some (FlowSlot.established d) ≠ some s := fun d hd =>
        hreq (Option.some.inj hd).symm
      simp [Has, hslot, hslot', htold, hother, hnot]
  | gone htaken hslot htold =>
      refine iff_of_false ?_ fun h => h.2 htaken
      rintro (hsame | ⟨i, b, -, hest⟩)
      · simp [hslot] at hsame
      · simp [hslot] at hest
  | stranded htaken hslot hslot' htold =>
      exact iff_of_false (hlast hslot' (htold s)) fun h => h.2 htaken

/-- What is known of a request for as long as there is its call. -/
structure Known (x : UInt32) (s : FlowSlot) (E : Endpoint) : Prop where
  placed : E.Placed x s
  bounded : E.Bounded x s

lemma Known.step {e : Event} (hI : Known x s E) (h : E.step e = some E') : Known x s E' where
  placed := by
    rcases step_settles h with hset | ⟨id, s₀, hins⟩
    · exact (hset x).placed s hI.placed
    · exact hins.kept x s hI.placed
  bounded := by
    have hlen : (E.watched .dests x) <+: (E'.watched .dests x) :=
      watched_of_step h trivial fun a _ => Watch.dests_permits a
    exact hI.bounded.turns (turns_of_step h) (by simpa [watched] using hlen.length_le)

/-- A slot that was inserted is in the map if and only if no step has taken it since. -/
theorem has_iff_of_run {es : List Event} (hI : Known x s E) (hs : s.isRequest = true)
    (hslot : E.flows x = some s) (hrun : run step E es = some E') :
    E'.Has x s ↔ RunMeets step (fun E e => ¬ E.Takes x e) E es := by
  refine (iff_runMeets (I := Known x s) (Q := fun E => E.Has x s) (fun _ _ _ hF h => hF.step h)
    (fun _ _ _ hF h => ?_) hI hrun).trans (and_iff_right (.inl hslot))
  exact (turns_of_step h).has_iff hF.bounded hF.placed hs

/-- A call knows the slot that it has inserted. -/
lemma known_of_insertion {e : Event} (htold : E.Told) (h : E.step e = some E')
    (hnone : E.flows x = none) (hs : s.isRequest = true) (hslot : E'.flows x = some s) :
    Known x s E' := by
  have hsilent : E'.told x s = none := htold.step h x s hslot
  refine ⟨?_, fun i hi => by simp [hsilent] at hi⟩
  rcases step_settles h with hset | ⟨id, s₀, hins⟩
  · exact absurd ((hset x).slot s hs hslot) (by simp [hnone])
  · by_cases hx : x = id
    · subst hx
      rw [hins.flows, Function.update_self] at hslot
      rw [← Option.some.inj hslot]
      exact hins.placed
    · rw [hins.flows, Function.update_of_ne hx] at hslot
      simp [hnone] at hslot

lemma tooLate_iff_has {a : Action} {err : Error} (ha : s.queues x = some a)
    (herr : E.callError a = some err) : E.TooLate a ↔ E.Has x s := by
  cases s with
  | established d => cases ha
  | requested j =>
      obtain rfl := Option.some.inj ha
      exact and_iff_right (closed_of_callError (.inl herr))
  | bindRequested j =>
      obtain rfl := Option.some.inj ha
      have hgiven : ∀ i, E.told x (.bindRequested j) ≠ some (.inl (some i)) := by
        intro i hi
        obtain ⟨v, -, hv⟩ := Option.map_eq_some_iff.mp hi
        cases hv
      refine (and_iff_right (closed_of_callError (.inr herr))).trans (or_iff_left ?_).symm
      rintro ⟨i, b, hi, -⟩
      exact hgiven i hi

/-- **Failing too late**: of a call that cannot queue its frame the slot is left if and only if no
step since the insertion has taken it: no frame of the peer, no notification of a handle, and not
the end of `wind_down`. -/
theorem tooLate_iff {opts : Options} {es es' : List Event} {e : Event} {E₁ E₂ : Endpoint}
    {a : Action} {err : Error} (hE : run step (new opts) es = some E) (hins : E.step e = some E₁)
    (hnone : E.flows x = none) (hslot : E₁.flows x = some s) (hrun : run step E₁ es' = some E₂)
    (ha : s.queues x = some a) (herr : E₂.callError a = some err) :
    E₂.TooLate a ↔ RunMeets step (fun E e => ¬ E.Takes x e) E₁ es' := by
  have hs : s.isRequest = true := by
    cases s <;> first | rfl | cases ha
  have htold : E.Told := by
    have hreach : Reach step Any (new opts) E :=
      reach_of_run hE (runMeets_of_forall (fun _ _ _ => trivial) _)
    exact hreach.invariant (told_new opts) fun _ _ _ hI _ h => hI.step h
  rw [tooLate_iff_has ha herr]
  exact has_iff_of_run (known_of_insertion htold hins hnone hs hslot) hs hslot hrun

end Endpoint

end Penguin.Mux
