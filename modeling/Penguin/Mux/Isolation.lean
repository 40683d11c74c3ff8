import Penguin.Mux.Inversion
import Penguin.Lib.Lists

/-!
A frame concerns the flow whose id it has, and no other.

What an endpoint keeps about a flow is stored under its id, and the helpers of `process_frame` are
given the id of the frame. So each of them leaves what is stored under another id alone, and
queues frames with this id only.
-/

namespace Penguin.Mux

open Penguin.Lib

namespace Endpoint

/-- What is kept about a flow: its slot, and the channels, counters and waiting callers that the
slot can refer to. -/
structure Entry where
  slot : Option FlowSlot
  streams : List MuxStream
  calls : List StreamCall
  bindCalls : List BindCall
  binds : List BindRequest
  held : ℕ → Bool
  bindHeld : ℕ → Bool

def entry (E : Endpoint) (x : UInt32) : Entry where
  slot := E.flows x
  streams := E.streams x
  calls := E.calls x
  bindCalls := E.bindCalls x
  binds := E.binds x
  held := E.held x
  bindHeld := E.bindHeld x

/-- The handles whose waiting writers `process_frame` wakes: those that are acknowledged or closed
by way of a slot. -/
def wokenWriters (E : Endpoint) (f : Frame) : List (UInt32 × ℕ) :=
  match E.flows f.id with
  | some (.established d) =>
    match f.payload with
    | .acknowledge _ | .reset => [(f.id, d.stream)]
    | .push data =>
      if (E.dispatch f.id data).2 = some (.error .full) then [(f.id, d.stream)] else []
    | .connect _ | .finish | .bind _ | .datagram _ => []
  | _ => []

/-- Nothing happens but to the flow `id`: other entries are the same, and what is queued, for the
peer or for the task, has this id. -/
structure Within (id : UInt32) (E E' : Endpoint) : Prop where
  opts : E'.opts = E.opts
  phase : E'.phase = E.phase
  entry : ∀ x, x ≠ id → E'.entry x = E.entry x
  queued : ∃ fs : List Frame, (∀ f ∈ fs, f.id = id) ∧
    E'.txFrames = E.txFrames ++ fs.map finalize
  noticed : ∃ is : List ℕ, E'.droppedPorts = E.droppedPorts ++ is.map (.stream id)

variable {E F E' : Endpoint} {id : UInt32}

namespace Within

lemma of_eq (hopts : E'.opts = E.opts) (hphase : E'.phase = E.phase)
    (hentry : ∀ x, x ≠ id → E'.entry x = E.entry x) (hframes : E'.txFrames = E.txFrames)
    (hports : E'.droppedPorts = E.droppedPorts) : Within id E E' :=
  ⟨hopts, hphase, hentry, ⟨[], nofun, by simp [hframes]⟩, ⟨[], by simp [hports]⟩⟩

lemma refl (id : UInt32) (E : Endpoint) : Within id E E := of_eq rfl rfl (fun _ _ => rfl) rfl rfl

lemma trans (h : Within id E F) (h' : Within id F E') : Within id E E' := by
  obtain ⟨fs, hfs, hE⟩ := h.queued
  obtain ⟨gs, hgs, hF⟩ := h'.queued
  obtain ⟨is, his⟩ := h.noticed
  obtain ⟨js, hjs⟩ := h'.noticed
  refine ⟨h'.opts.trans h.opts, h'.phase.trans h.phase,
    fun x hx => (h'.entry x hx).trans (h.entry x hx), ⟨fs ++ gs, ?_, ?_⟩, ⟨is ++ js, ?_⟩⟩
  · intro f hf
    rcases List.mem_append.1 hf with hf | hf
    · exact hfs f hf
    · exact hgs f hf
  · rw [hF, hE, List.map_append, List.append_assoc]
  · rw [hjs, his, List.map_append, List.append_assoc]

lemma send {f : Frame} (hf : f.id = id) : Within id E (E.send f) := by
  unfold Endpoint.send
  split_ifs with hopen
  · exact ⟨rfl, rfl, fun _ _ => rfl, ⟨[f], by simp [hf], rfl⟩, ⟨[], by simp⟩⟩
  · exact .refl id E

lemma foldl_send {sent : List Frame} (h : ∀ f ∈ sent, f.id = id) :
    Within id E (sent.foldl Endpoint.send E) := by
  induction sent generalizing E with
  | nil => exact .refl id E
  | cons f sent ih => exact (send (h f (by simp))).trans (ih fun g hg => h g (by simp [hg]))

lemma setSlot (slot : Option FlowSlot) : Within id E (E.setSlot id slot) :=
  of_eq rfl rfl (fun x hx => by simp [Endpoint.setSlot, Endpoint.entry, hx]) rfl rfl

lemma modifyStream (i : ℕ) (g : MuxStream → MuxStream) : Within id E (E.modifyStream id i g) :=
  of_eq rfl rfl (fun x hx => by simp [Endpoint.modifyStream, Endpoint.entry, hx]) rfl rfl

lemma modifyCall (j : ℕ) (g : StreamCall → StreamCall) : Within id E (E.modifyCall id j g) :=
  of_eq rfl rfl (fun x hx => by simp [Endpoint.modifyCall, Endpoint.entry, hx]) rfl rfl

lemma modifyBindCall (j : ℕ) (g : BindCall → BindCall) : Within id E (E.modifyBindCall id j g) :=
  of_eq rfl rfl (fun x hx => by simp [Endpoint.modifyBindCall, Endpoint.entry, hx]) rfl rfl

lemma modifyBind (i : ℕ) (g : BindRequest → BindRequest) : Within id E (E.modifyBind id i g) :=
  of_eq rfl rfl (fun x hx => by simp [Endpoint.modifyBind, Endpoint.entry, hx]) rfl rfl

lemma addStream (m : MuxStream) : Within id E (E.addStream id m) :=
  of_eq rfl rfl (fun x hx => by simp [Endpoint.addStream, Endpoint.entry, hx]) rfl rfl

lemma establish (m : MuxStream) : Within id E (E.establish id m) :=
  (addStream m).trans (setSlot _)

lemma addBind (p : BindPayload) : Within id E (E.addBind id p) :=
  of_eq rfl rfl (fun x hx => by simp [Endpoint.addBind, Endpoint.entry, hx]) rfl rfl

lemma insertRequested (host : Bytes) (port : UInt16) (n : ℕ) :
    Within id E (E.insertRequested id host port n) :=
  of_eq rfl rfl (fun x hx => by simp [Endpoint.insertRequested, Endpoint.setSlot,
    Endpoint.entry, hx]) rfl rfl

lemma insertBindRequested (host : Bytes) (port : UInt16) (t : BindType) :
    Within id E (E.insertBindRequested id host port t) :=
  of_eq rfl rfl (fun x hx => by simp [Endpoint.setSlot, Endpoint.entry, hx]) rfl rfl

lemma update {i : ℕ} {m : MuxStream} {sent : List Frame} (h : ∀ f ∈ sent, f.id = id) :
    Within id E (E.update id i m sent) :=
  (modifyStream i _).trans (foldl_send h)

lemma dropStream (i : ℕ) : Within id E (E.dropStream id i) := by
  unfold Endpoint.dropStream
  split
  · split_ifs with _ hfin
    · exact .refl id E
    · exact (modifyStream i _).trans (.refl id _)
    · exact (modifyStream i _).trans
        ⟨rfl, rfl, fun _ _ => rfl, ⟨[], nofun, by simp⟩, ⟨[i], rfl⟩⟩
  · exact .refl id E

lemma dropBind (i : ℕ) : Within id E (E.dropBind id i) := by
  unfold Endpoint.dropBind
  split
  · split_ifs
    · exact .refl id E
    · exact (modifyBind i _).trans (send rfl)
  · exact .refl id E

lemma closePort (inhibitRst : Bool) : Within id E (E.closePort id inhibitRst) := by
  unfold Endpoint.closePort
  split
  · rename_i removed hslot
    refine (setSlot none).trans ?_
    cases removed with
    | established d =>
        simp only [closePortLocal]
        split_ifs
        · exact (modifyStream d.stream _).trans (send rfl)
        · exact modifyStream d.stream _
    | requested j => exact modifyCall j _
    | bindRequested j => exact modifyBindCall j _
  · exact .refl id E

lemma sendStream (i : ℕ) : Within id E (E.sendStream id i).1 := by
  unfold Endpoint.sendStream
  split_ifs
  · exact dropStream i
  · exact of_eq rfl rfl (fun _ _ => rfl) rfl rfl
  · exact of_eq rfl rfl (fun _ _ => rfl) rfl rfl

lemma sendBindRequest (i : ℕ) : Within id E (E.sendBindRequest id i).1 := by
  unfold Endpoint.sendBindRequest
  split_ifs
  · exact dropBind i
  · exact of_eq rfl rfl (fun _ _ => rfl) rfl rfl
  · exact of_eq rfl rfl (fun _ _ => rfl) rfl rfl

end Within

lemma opts_dropStream (id : UInt32) (i : ℕ) : (E.dropStream id i).opts = E.opts :=
  (Within.dropStream i).opts

lemma phase_dropStream (id : UInt32) (i : ℕ) : (E.dropStream id i).phase = E.phase :=
  (Within.dropStream i).phase

lemma opts_dropBind (id : UInt32) (i : ℕ) : (E.dropBind id i).opts = E.opts :=
  (Within.dropBind i).opts

lemma phase_dropBind (id : UInt32) (i : ℕ) : (E.dropBind id i).phase = E.phase :=
  (Within.dropBind i).phase

lemma Handles.within {f : Frame} {ignoreBind : Bool} {r : Poll (Except Error Unit)}
    (h : E.Handles ignoreBind f E' r) : Within f.id E E' := by
  cases h with
  | connectUsed | ackBogus | finishBogus | pushBogus | bindOff => exact .send rfl
  | @connect id p =>
      have hnew : Within id E (E.establish id
        (newStreamShared E.opts p.rwnd p.targetHost p.targetPort)) := .establish _
      exact (hnew.trans (.send rfl)).trans (.sendStream _)
  | connectClosed | ackGone => exact (Within.establish _).trans (.dropStream _)
  | ackEstablished => exact .modifyStream _ _
  | ackRequested => exact (Within.establish _).trans (.modifyCall _ _)
  | finishBind => exact (Within.setSlot none).trans (.modifyBindCall _ _)
  | finishRequested => exact (Within.setSlot none).trans (.send rfl)
  | finishEstablished => exact .setSlot _
  | reset | pushFull => exact .closePort _
  | push => exact .modifyStream _ _
  | bind => exact (Within.addBind _).trans (.sendBindRequest _)
  | datagram => exact .of_eq rfl rfl (fun _ _ => rfl) rfl rfl
  | pushClosed | bindIgnored | datagramGone | datagramLost => exact .refl _ E

/-- **What `process_frame` does stays within the flow of the frame.** -/
lemma within_processFrame (E : Endpoint) (f : Frame) (ignoreBind : Bool) :
    Within f.id E (E.processFrame f ignoreBind).1 :=
  (E.handles f ignoreBind).within

/-- Frames for a flow that is not in the map are answered at most. -/
lemma flows_processFrame_of_absent {f : Frame} (h : E.flows f.id = none)
    (hp : (∃ data, f.payload = .push data) ∨ f.payload = .finish ∨
      (∃ n, f.payload = .acknowledge n) ∨ f.payload = .reset) (ignoreBind : Bool) :
    (E.processFrame f ignoreBind).1.flows = E.flows := by
  obtain ⟨id, p⟩ := f
  dsimp only at h hp
  rcases hp with ⟨data, rfl⟩ | rfl | ⟨n, rfl⟩ | rfl
  · have hdispatch : E.dispatch id data = (E, none) := by simp [dispatch, h]
    simp only [processFrame, hdispatch]
    exact flows_send _
  · simp only [processFrame, h]
    exact flows_send _
  · simp only [processFrame, h]
    exact flows_send _
  · simp only [processFrame, closePort, h]

/-! ### The writers that are woken -/

/-- A writer that looks at the handle again finds what it found before. -/
def SameWriter (x : UInt32) (i : ℕ) (E E' : Endpoint) : Prop :=
  ∀ m, (E.streams x)[i]? = some m → ∃ m', (E'.streams x)[i]? = some m' ∧
    m'.pshSendRemaining = m.pshSendRemaining ∧ m'.finishSent = m.finishSent

namespace SameWriter

variable {x : UInt32} {i : ℕ}

lemma of_eq (h : (E'.streams x)[i]? = (E.streams x)[i]?) : SameWriter x i E E' :=
  fun m hm => ⟨m, h.trans hm, rfl, rfl⟩

lemma trans (h : SameWriter x i E F) (h' : SameWriter x i F E') : SameWriter x i E E' := by
  intro m hm
  obtain ⟨m₁, hm₁, hrem, hfin⟩ := h m hm
  obtain ⟨m₂, hm₂, hrem', hfin'⟩ := h' m₁ hm₁
  exact ⟨m₂, hm₂, hrem'.trans hrem, hfin'.trans hfin⟩

lemma modifyStream (k : ℕ) {g : MuxStream → MuxStream}
    (hg : ∀ m, (g m).pshSendRemaining = m.pshSendRemaining ∧ (g m).finishSent = m.finishSent) :
    SameWriter x i E (E.modifyStream id k g) := by
  intro m hm
  simp only [Endpoint.modifyStream, Lists.getElem?_update_modify]
  split_ifs with hchanged
  · obtain ⟨rfl, rfl⟩ := hchanged
    exact ⟨g m, by simp [hm], hg m⟩
  · exact ⟨m, hm, rfl, rfl⟩

/-- Another handle is changed. -/
lemma modifyOther {k : ℕ} (g : MuxStream → MuxStream) (hk : ¬ (x = id ∧ i = k)) :
    SameWriter x i E (E.modifyStream id k g) := by
  refine of_eq ?_
  rw [Endpoint.modifyStream, Lists.getElem?_update_modify, if_neg hk]

lemma establish (m : MuxStream) : SameWriter x i E (E.establish id m) := by
  intro n hn
  refine ⟨n, ?_, rfl, rfl⟩
  by_cases hx : x = id
  · subst hx
    have hlt := (List.getElem?_eq_some_iff.mp hn).1
    simpa [setSlot, addStream, List.getElem?_append_left hlt] using hn
  · simpa [setSlot, addStream, Function.update_of_ne hx] using hn

lemma dropStream (k : ℕ) : SameWriter x i E (E.dropStream id k) := by
  unfold Endpoint.dropStream
  split
  · split_ifs
    · exact of_eq rfl
    all_goals exact modifyStream (E := E) k fun _ => ⟨rfl, rfl⟩
  · exact of_eq rfl

lemma dropBind (k : ℕ) : SameWriter x i E (E.dropBind id k) := by
  refine of_eq ?_
  unfold Endpoint.dropBind
  split
  · split_ifs
    · rfl
    · rw [reply, streams_send]
      rfl
  · rfl

/-- The slot that is closed is not that of the handle. -/
lemma closePort (inhibitRst : Bool)
    (h : ∀ d, E.flows id = some (.established d) → ¬ (x = id ∧ i = d.stream)) :
    SameWriter x i E (E.closePort id inhibitRst) := by
  unfold Endpoint.closePort
  split
  case h_2 => exact of_eq rfl
  case h_1 removed hslot =>
    cases removed with
    | requested j | bindRequested j => exact of_eq rfl
    | established d =>
        have hmod : SameWriter x i E
            ((E.setSlot id none).modifyStream id d.stream MuxStream.disallowWrite) :=
          modifyOther (E := E.setSlot id none) _ (h d hslot)
        simp only [closePortLocal]
        split_ifs
        · exact hmod.trans (of_eq (by rw [streams_send]))
        · exact hmod

end SameWriter

lemma mem_wokenWriters {f : Frame} {x : UInt32} {i : ℕ} :
    (x, i) ∈ E.wokenWriters f ↔ x = f.id ∧ ∃ b, E.flows f.id = some (.established ⟨i, b⟩) ∧
      ((∃ n, f.payload = .acknowledge n) ∨ f.payload = .reset ∨
        ∃ data, f.payload = .push data ∧ (E.dispatch f.id data).2 = some (.error .full)) := by
  obtain ⟨id, p⟩ := f
  rcases hslot : E.flows id with _ | j | ⟨k, b⟩ | j
  case established =>
    cases p with
    | push data =>
        by_cases hfull : (E.dispatch id data).2 = some (.error .full)
        · simp [wokenWriters, hslot, hfull, eq_comm]
        · simp [wokenWriters, hslot, hfull]
    | _ => simp [wokenWriters, hslot, eq_comm]
  all_goals simp [wokenWriters, hslot]

/-- What the writer of a handle finds is changed by a frame only if it is woken ... -/
lemma Handles.sameWriter {f : Frame} {ignoreBind : Bool} {r : Poll (Except Error Unit)}
    {x : UInt32} {i : ℕ} (h : E.Handles ignoreBind f E' r) (hw : (x, i) ∉ E.wokenWriters f) :
    SameWriter x i E E' := by
  cases h with
  | connectUsed | ackBogus | finishBogus | pushBogus | bindOff => exact .of_eq (by rw [streams_send])
  | @connect id p =>
      have hnew : SameWriter x i E (E.establish id
        (newStreamShared E.opts p.rwnd p.targetHost p.targetPort)) := .establish _
      have hack := hnew.trans (.of_eq (congrArg (fun s => (s x)[i]?)
        (streams_send (Frame.newAcknowledge id E.opts.rwnd))))
      unfold sendStream
      split_ifs
      · exact hack.trans (.dropStream _)
      · exact hack
      · exact hack
  | connectClosed | ackGone => exact (SameWriter.establish _).trans (.dropStream _)
  | ackRequested => exact (SameWriter.establish _).trans (.of_eq rfl)
  | ackEstablished n hslot =>
      refine .modifyOther _ fun hxi => hw ?_
      simp [wokenWriters, hslot, hxi]
  | finishBind | finishEstablished => exact .of_eq rfl
  | finishRequested => exact .of_eq (by rw [streams_send]; rfl)
  | reset id =>
      refine .closePort true fun d hslot hxi => hw ?_
      simp [wokenWriters, hslot, hxi]
  | push => exact .modifyStream _ fun _ => ⟨rfl, rfl⟩
  | pushFull data hslot hm hd hfull =>
      refine .closePort false fun d hd' hxi => hw ?_
      have hnot : ¬ _ := Nat.not_lt.mpr hfull
      simp [wokenWriters, hslot, dispatch, hm, hd, hnot]
      obtain rfl : _ = d := by simpa [hslot] using hd'
      exact hxi
  | @bind id p =>
      have hadd : SameWriter x i E (E.addBind id p) := .of_eq rfl
      unfold sendBindRequest
      split_ifs
      · exact hadd.trans (.dropBind _)
      · exact hadd
      · exact hadd
  | datagram | pushClosed | bindIgnored | datagramGone | datagramLost => exact .of_eq rfl

/-- ... and a writer that is woken finds an acknowledgement, or that the stream is closed. -/
lemma Handles.woken {f : Frame} {ignoreBind : Bool} {r : Poll (Except Error Unit)}
    {x : UInt32} {i : ℕ} {m : MuxStream} (h : E.Handles ignoreBind f E' r)
    (hw : (x, i) ∈ E.wokenWriters f) (hm : (E.streams x)[i]? = some m) :
    (∃ n, f.payload = .acknowledge n ∧ (E'.streams x)[i]? = some (m.acknowledge n)) ∨
      (E'.streams x)[i]? = some m.disallowWrite := by
  obtain ⟨id, p⟩ := f
  obtain ⟨rfl, b, hslot, hp⟩ := mem_wokenWriters.mp hw
  have hclose : ∀ inhibitRst, ((E.closePort x inhibitRst).streams x)[i]? = some m.disallowWrite := by
    intro inhibitRst
    simp only [closePort, hslot, closePortLocal]
    split_ifs
    · rw [streams_send]
      simp [modifyStream, setSlot, hm]
    · simp [modifyStream, setSlot, hm]
  rcases hp with ⟨n, rfl⟩ | rfl | ⟨data, rfl, hfull⟩
  · cases h with
    | ackEstablished n hd =>
        obtain rfl := FlowSlot.established.inj (Option.some.inj (hd.symm.trans hslot))
        exact .inl ⟨n, rfl, by simp [modifyStream, hm]⟩
    | ackRequested n hd | ackGone n hd => simp [hslot] at hd
    | ackBogus n hd => simp [hslot] at hd
  · cases h with
    | reset => exact .inr (hclose true)
  · cases h with
    | pushFull => exact .inr (hclose false)
    | push data hd hn hdrop hroom => simp [dispatch, hd, hn, hdrop, hroom] at hfull
    | pushClosed data hd hn hdrop => simp [dispatch, hd, hn, hdrop] at hfull
    | pushBogus data hnone =>
        cases b with
        | true => exact absurd hm (hnone i m hslot)
        | false => simp [dispatch, hslot] at hfull

/-- **Wake-ups**: the writers that `process_frame` wakes are those for which it changes something:
a writer that is not woken finds the window and the flag as they were, and one that is woken finds
an acknowledgement, or that the stream is closed. -/
theorem processFrame_wakes (f : Frame) (ignoreBind : Bool) {x : UInt32} {i : ℕ} {m : MuxStream}
    (hm : (E.streams x)[i]? = some m) :
    ((x, i) ∉ E.wokenWriters f →
      ∃ m', ((E.processFrame f ignoreBind).1.streams x)[i]? = some m' ∧
        m'.pshSendRemaining = m.pshSendRemaining ∧ m'.finishSent = m.finishSent) ∧
    ((x, i) ∈ E.wokenWriters f →
      (∃ n, f.payload = .acknowledge n ∧
        ((E.processFrame f ignoreBind).1.streams x)[i]? = some (m.acknowledge n)) ∨
      ((E.processFrame f ignoreBind).1.streams x)[i]? = some m.disallowWrite) := by
  have hway := E.handles f ignoreBind
  exact ⟨fun hw => hway.sameWriter hw m hm, fun hw => hway.woken hw hm⟩

/-- **Flows do not interfere.** A frame leaves every other flow as it is, and every frame that it
makes the task queue has its id. A `Connect` for an id in use is answered with one `Reset`, and
does nothing else; a `Push`, `Finish`, `Acknowledge` or `Reset` for an id not in use leaves the map
as it is. -/
theorem flows_isolated (E : Endpoint) (f : Frame) (ignoreBind : Bool) :
    (∀ y, y ≠ f.id → (E.processFrame f ignoreBind).1.entry y = E.entry y) ∧
    (∀ w ∈ E.wokenWriters f, w.1 = f.id) ∧
    (∃ fs : List Frame, (∀ g ∈ fs, g.id = f.id) ∧
      (E.processFrame f ignoreBind).1.txFrames = E.txFrames ++ fs.map finalize) ∧
    (∀ p, f.payload = .connect p → E.flows f.id ≠ none →
      (E.processFrame f ignoreBind).1 = E.send (Frame.newReset f.id) ∧
      (E.processFrame f ignoreBind).1.flows = E.flows) ∧
    ((∃ data, f.payload = .push data) ∨ f.payload = .finish ∨
      (∃ n, f.payload = .acknowledge n) ∨ f.payload = .reset → E.flows f.id = none →
      (E.processFrame f ignoreBind).1.flows = E.flows) := by
  have hwithin := within_processFrame E f ignoreBind
  refine ⟨hwithin.entry, fun w hw => (mem_wokenWriters.mp hw).1, hwithin.queued, ?_, ?_⟩
  · intro p hp hused
    have hsome : (E.flows f.id).isSome = true := Option.isSome_iff_ne_none.2 hused
    have hsend : (E.processFrame f ignoreBind).1 = E.send (Frame.newReset f.id) := by
      simp only [processFrame, hp, conRecvNewStream, hsome, if_true]
    exact ⟨hsend, by rw [hsend, flows_send]⟩
  · intro hp habsent
    exact flows_processFrame_of_absent habsent hp ignoreBind

end Endpoint

end Penguin.Mux
