import Penguin.Mux.Conn

/-!
What the two tasks send by themselves.

A frame that a task has no use for is answered with a `Reset`, a `Connect` with an `Acknowledge`
or a `Reset`, and a handle that the task has to drop itself is closed later, with a `Reset`. A
`Reset` is not answered. So the tasks cannot keep each other busy: every frame weighs more than
all that can come of it.
-/

namespace Penguin.Mux

open Penguin.Lib.Transition

/-- More than what the processing of a frame can add to the queue and to the notifications. -/
def Payload.weight : Payload → ℕ
  | .reset | .datagram _ => 1
  | .push _ | .finish => 3
  | .acknowledge _ => 4
  | .bind _ => 6
  | .connect _ => 11

def Message.weight : Message → ℕ
  | .binary data =>
    match Frame.tryFrom data with
    | .ok f => f.payload.weight
    | .error _ => 1
  | _ => 1

/-- A frame that is still queued has a step more before it. -/
def queueWeight (fs : List Bytes) : ℕ := (fs.map fun f => Message.weight (.binary f) + 1).sum

namespace Endpoint

def weight (E : Endpoint) : ℕ :=
  queueWeight E.txFrames + 3 * E.droppedPorts.length + 5 * E.blocked.isSome.toNat

/-- At most the frames `fs` are queued, at most `k` notifications are sent, and at most `b`
objects have begun to wait for room. -/
structure Adds (E E' : Endpoint) (fs : List Frame) (k b : ℕ) : Prop where
  frames : ∃ l : List Frame, l.Sublist fs ∧ E'.txFrames = E.txFrames ++ l.map finalize
  notices : ∃ l : List Notice, l.length ≤ k ∧ E'.droppedPorts = E.droppedPorts ++ l
  blocked : E'.blocked.isSome.toNat ≤ E.blocked.isSome.toNat + b

namespace Adds

variable {E E' F : Endpoint} {fs gs : List Frame} {k l b c : ℕ}

lemma of_eq (hframes : E'.txFrames = E.txFrames) (hports : E'.droppedPorts = E.droppedPorts)
    (hblocked : E'.blocked = E.blocked) : Adds E E' [] 0 0 :=
  ⟨⟨[], .slnil, by simp [hframes]⟩, ⟨[], by simp, by simp [hports]⟩, by simp [hblocked]⟩

lemma trans (h : Adds E F fs k b) (h' : Adds F E' gs l c) : Adds E E' (fs ++ gs) (k + l) (b + c) := by
  obtain ⟨⟨l₁, hl₁, hq₁⟩, ⟨n₁, hn₁, hp₁⟩, hb₁⟩ := h
  obtain ⟨⟨l₂, hl₂, hq₂⟩, ⟨n₂, hn₂, hp₂⟩, hb₂⟩ := h'
  refine ⟨⟨l₁ ++ l₂, hl₁.append hl₂, by simp [hq₂, hq₁]⟩,
    ⟨n₁ ++ n₂, by simp; omega, by simp [hp₂, hp₁]⟩, by omega⟩

/-- What is only done to slots, handles and calls adds nothing. -/
lemma then_eq (h : Adds E F fs k b) (hframes : E'.txFrames = F.txFrames)
    (hports : E'.droppedPorts = F.droppedPorts) (hblocked : E'.blocked = F.blocked) :
    Adds E E' fs k b := by
  simpa using h.trans (of_eq hframes hports hblocked)

lemma mono (h : Adds E E' fs k b) (hf : fs.Sublist gs) (hk : k ≤ l) (hb : b ≤ c) :
    Adds E E' gs l c := by
  obtain ⟨⟨l₁, hl₁, hq₁⟩, ⟨n₁, hn₁, hp₁⟩, hb₁⟩ := h
  exact ⟨⟨l₁, hl₁.trans hf, hq₁⟩, ⟨n₁, hn₁.trans hk, hp₁⟩, by omega⟩

lemma send (f : Frame) : Adds E (E.send f) [f] 0 0 := by
  unfold Endpoint.send
  split_ifs
  · exact ⟨⟨[f], .refl _, rfl⟩, ⟨[], by simp, by simp⟩, by simp⟩
  · exact (of_eq rfl rfl rfl).mono (List.nil_sublist _) le_rfl le_rfl

lemma dropStream (id : UInt32) (i : ℕ) : Adds E (E.dropStream id i) [] 1 0 := by
  have hsame : Adds E E [] 1 0 := (of_eq rfl rfl rfl).mono (.refl _) (by omega) le_rfl
  unfold Endpoint.dropStream
  split
  · split_ifs
    · exact hsame
    · exact ⟨⟨[], .slnil, by simp [modifyStream]⟩, ⟨[], by simp, by simp⟩, by simp [modifyStream]⟩
    · exact ⟨⟨[], .slnil, by simp [modifyStream]⟩, ⟨[.stream id i], by simp, rfl⟩,
        by simp [modifyStream]⟩
  · exact hsame

lemma dropBind (id : UInt32) (i : ℕ) : Adds E (E.dropBind id i) [Frame.newReset id] 0 0 := by
  have hsame : Adds E E [Frame.newReset id] 0 0 :=
    (of_eq rfl rfl rfl).mono (List.nil_sublist _) le_rfl le_rfl
  unfold Endpoint.dropBind
  split
  · split_ifs
    · exact hsame
    · have hmod : Adds E (E.modifyBind id i fun b => { b with dropped := true }) [] 0 0 :=
        of_eq rfl rfl rfl
      exact hmod.trans (send (Frame.newReset id))
  · exact hsame

lemma closePort (id : UInt32) (inhibit : Bool) :
    Adds E (E.closePort id inhibit) (if inhibit then [] else [Frame.newReset id]) 0 0 := by
  have hany : ∀ {F : Endpoint}, Adds E F [] 0 0 →
      Adds E F (if inhibit then [] else [Frame.newReset id]) 0 0 :=
    fun h => h.mono (List.nil_sublist _) le_rfl le_rfl
  unfold Endpoint.closePort
  split
  case h_2 => exact hany (of_eq rfl rfl rfl)
  case h_1 removed hslot =>
    cases removed with
    | requested j => exact hany (of_eq rfl rfl rfl)
    | bindRequested j => exact hany (of_eq rfl rfl rfl)
    | established d =>
        have hmod : Adds E ((E.setSlot id none).modifyStream id d.stream MuxStream.disallowWrite)
            [] 0 0 := of_eq rfl rfl rfl
        simp only [closePortLocal]
        split_ifs with hsend hinh hinh
        · simp [hinh] at hsend
        · exact hmod.trans (send (Frame.newReset id))
        · exact hmod
        · exact hmod.mono (List.nil_sublist _) le_rfl le_rfl

lemma sendStream (id : UInt32) (i : ℕ) :
    ∃ k b, Adds E (E.sendStream id i).1 [] k b ∧ k ≤ 1 ∧ 3 * k + 5 * b ≤ 5 ∧
      ((E.sendStream id i).2 ≠ .pending → b = 0) := by
  unfold Endpoint.sendStream
  split_ifs
  · exact ⟨1, 0, dropStream id i, by omega, by omega, fun _ => rfl⟩
  · exact ⟨0, 0, of_eq rfl rfl rfl, by omega, by omega, fun _ => rfl⟩
  · refine ⟨0, 1, ⟨⟨[], .slnil, by simp⟩, ⟨[], by simp, by simp⟩, by simp⟩, by omega, by omega, ?_⟩
    simp

lemma sendBindRequest (id : UInt32) (i : ℕ) :
    ∃ fs b, Adds E (E.sendBindRequest id i).1 fs 0 b ∧ (fs = [] ∨ fs = [Frame.newReset id] ∧ b = 0) ∧
      b ≤ 1 ∧ ((E.sendBindRequest id i).2 ≠ .pending → b = 0) := by
  unfold Endpoint.sendBindRequest
  split_ifs
  · exact ⟨_, 0, dropBind id i, .inr ⟨rfl, rfl⟩, by omega, fun _ => rfl⟩
  · exact ⟨[], 0, of_eq rfl rfl rfl, .inl rfl, by omega, fun _ => rfl⟩
  · refine ⟨[], 1, ⟨⟨[], .slnil, by simp⟩, ⟨[], by simp, by simp⟩, by simp⟩, .inl rfl, by omega, ?_⟩
    simp

end Adds

/-! ### Frames -/

variable {E E' : Endpoint}

lemma weight_finalize {f : Frame} (h : f.payload.isDatagram = false) :
    Message.weight (.binary (finalize f)) = f.payload.weight := by
  simp [Message.weight, tryFrom_finalize h]

@[simp] lemma queueWeight_reset (id : UInt32) : queueWeight [finalize (Frame.newReset id)] = 2 := by
  have hweight := weight_finalize (f := Frame.newReset id) rfl
  simp only [queueWeight, List.map_cons, List.map_nil, hweight]
  rfl

@[simp] lemma queueWeight_acknowledge (id n : UInt32) :
    queueWeight [finalize (Frame.newAcknowledge id n)] = 5 := by
  have hweight := weight_finalize (f := Frame.newAcknowledge id n) rfl
  simp only [queueWeight, List.map_cons, List.map_nil, hweight]
  rfl

/-- What comes of a frame: at most one answer and one notification, which together weigh less.
If the task does not have to wait, nothing has begun to wait for room. -/
def Answered (w : ℕ) (ready : Prop) (E E' : Endpoint) : Prop :=
  ∃ fs k b, Adds E E' fs k b ∧ fs.length ≤ 1 ∧ k ≤ 1 ∧
    queueWeight (fs.map finalize) + 3 * k + 5 * b < w ∧ (ready → b = 0)

lemma Answered.nothing {w : ℕ} {ready : Prop} (h : Adds E E' [] 0 0) (hw : 0 < w) :
    Answered w ready E E' :=
  ⟨[], 0, 0, h, by simp, by omega, by simpa [queueWeight] using hw, fun _ => rfl⟩

lemma Answered.reset {w : ℕ} {ready : Prop} {id : UInt32} (h : Adds E E' [Frame.newReset id] 0 0)
    (hw : 2 < w) : Answered w ready E E' :=
  ⟨_, 0, 0, h, by simp, by omega, by simpa using hw, fun _ => rfl⟩

/-- Nothing comes of what weighs one. -/
lemma Answered.adds_nothing {ready : Prop} (h : Answered 1 ready E E') : Adds E E' [] 0 0 := by
  obtain ⟨fs, k, b, hadds, -, -, hcost, -⟩ := h
  obtain ⟨rfl, rfl⟩ : k = 0 ∧ b = 0 := by omega
  cases fs with
  | nil => exact hadds
  | cons f fs => simp [queueWeight] at hcost

lemma answered_conRecvNewStream (id : UInt32) (p : ConnectPayload) :
    Answered (Payload.connect p).weight
      ((E.conRecvNewStream id p.targetHost p.targetPort p.rwnd).2 ≠ .pending) E
      (E.conRecvNewStream id p.targetHost p.targetPort p.rwnd).1 := by
  have hnew : ∀ m slot, Adds E ((E.addStream id m).setSlot id slot) [] 0 0 :=
    fun m slot => .of_eq rfl rfl rfl
  simp only [conRecvNewStream]
  split_ifs
  · exact .reset (.send _) (by simp [Payload.weight])
  · have hack := (hnew (newStreamShared E.opts p.rwnd p.targetHost p.targetPort)
      (some (.established ⟨(E.streams id).length, true⟩))).trans
        (.send (Frame.newAcknowledge id E.opts.rwnd))
    obtain ⟨k, b, hsend, hk, hkb, hready⟩ := Adds.sendStream
      (E := (((E.addStream id (newStreamShared E.opts p.rwnd p.targetHost p.targetPort)).setSlot id
        (some (.established ⟨(E.streams id).length, true⟩))).send
          (Frame.newAcknowledge id E.opts.rwnd))) id (E.streams id).length
    refine ⟨_, _, _, hack.trans hsend, by simp, by omega, ?_, fun h => ?_⟩
    · simp only [List.nil_append, List.append_nil, List.map_cons, List.map_nil,
        queueWeight_acknowledge, Payload.weight]
      omega
    · simpa using hready h
  · refine ⟨_, _, _, (hnew _ _).trans (.dropStream id _), by simp, by omega, ?_, fun _ => rfl⟩
    simp [queueWeight, Payload.weight]

lemma answered_acknowledge (id n : UInt32) (ignoreBind : Bool) :
    Answered (Payload.acknowledge n).weight True E
      (E.processFrame ⟨id, .acknowledge n⟩ ignoreBind).1 := by
  simp only [processFrame]
  rcases hslot : E.flows id with _ | j | d | j
  · exact .reset (.send _) (by simp [Payload.weight])
  · simp only [ackRecvNewStream, hslot]
    split_ifs
    · exact .nothing (.of_eq rfl rfl rfl) (by simp [Payload.weight])
    · have hnew : Adds E ((E.addStream id (newStreamShared E.opts n [] 0)).setSlot id
          (some (.established ⟨(E.streams id).length, true⟩))) [] 0 0 := .of_eq rfl rfl rfl
      refine ⟨_, _, _, hnew.trans (.dropStream id _), by simp, by omega, ?_, fun _ => rfl⟩
      simp [queueWeight, Payload.weight]
  · exact .nothing (.of_eq rfl rfl rfl) (by simp [Payload.weight])
  · exact .reset (.send _) (by simp [Payload.weight])

lemma answered_finish (id : UInt32) (ignoreBind : Bool) :
    Answered Payload.finish.weight True E (E.processFrame ⟨id, .finish⟩ ignoreBind).1 := by
  simp only [processFrame]
  rcases hslot : E.flows id with _ | j | d | j
  · exact .reset (.send _) (by simp [Payload.weight])
  · have hclosed : Adds E (E.setSlot id none) [] 0 0 := .of_eq rfl rfl rfl
    exact .reset (hclosed.trans (.send (Frame.newReset id))) (by simp [Payload.weight])
  · exact .nothing (.of_eq rfl rfl rfl) (by simp [Payload.weight])
  · exact .nothing (.of_eq rfl rfl rfl) (by simp [Payload.weight])

lemma answered_push (id : UInt32) (data : Bytes) (ignoreBind : Bool) :
    Answered (Payload.push data).weight True E (E.processFrame ⟨id, .push data⟩ ignoreBind).1 := by
  have hdispatch : Adds E (E.dispatch id data).1 [] 0 0 := by
    unfold dispatch
    split
    · split
      · split_ifs <;> exact .of_eq rfl rfl rfl
      · exact .of_eq rfl rfl rfl
    · exact .of_eq rfl rfl rfl
  simp only [processFrame]
  split
  case h_1 F heq => exact .nothing (by simpa [heq] using hdispatch) (by simp [Payload.weight])
  case h_2 F heq =>
    rw [heq] at hdispatch
    exact .reset (hdispatch.trans (.closePort id false)) (by simp [Payload.weight])
  case h_3 F heq => exact .nothing (by simpa [heq] using hdispatch) (by simp [Payload.weight])
  case h_4 F heq =>
    rw [heq] at hdispatch
    exact .reset (hdispatch.trans (.send (Frame.newReset id))) (by simp [Payload.weight])

lemma answered_bind (id : UInt32) (p : BindPayload) (ignoreBind : Bool) :
    Answered (Payload.bind p).weight ((E.processFrame ⟨id, .bind p⟩ ignoreBind).2 ≠ .pending) E
      (E.processFrame ⟨id, .bind p⟩ ignoreBind).1 := by
  simp only [processFrame]
  split_ifs
  · exact .reset (.send _) (by simp [Payload.weight])
  · exact .nothing (.of_eq rfl rfl rfl) (by simp [Payload.weight])
  · have hadd : Adds E (E.addBind id p) [] 0 0 := .of_eq rfl rfl rfl
    obtain ⟨fs, b, hsend, hfs, hb, hready⟩ :=
      Adds.sendBindRequest (E := E.addBind id p) id (E.binds id).length
    refine ⟨_, _, _, hadd.trans hsend, ?_, by omega, ?_, fun h => ?_⟩
    · rcases hfs with rfl | ⟨rfl, -⟩ <;> simp
    · rcases hfs with rfl | ⟨rfl, rfl⟩
      · simp only [List.nil_append, List.map_nil, queueWeight, List.sum_nil, Payload.weight]
        omega
      · simp [Payload.weight]
    · simpa using hready h

/-- **Every frame is answered with less than it weighs.** -/
theorem answered_processFrame (f : Frame) (ignoreBind : Bool) :
    Answered f.payload.weight ((E.processFrame f ignoreBind).2 ≠ .pending) E
      (E.processFrame f ignoreBind).1 := by
  have hready : ∀ {w : ℕ} {r : Prop} {F : Endpoint}, Answered w True E F → Answered w r E F := by
    rintro w r F ⟨fs, k, b, hadds, hlen, hk, hcost, hb⟩
    exact ⟨fs, k, b, hadds, hlen, hk, hcost, fun _ => hb trivial⟩
  obtain ⟨id, p⟩ := f
  cases p with
  | connect p => exact answered_conRecvNewStream id p
  | acknowledge n => exact hready (answered_acknowledge id n ignoreBind)
  | finish => exact hready (answered_finish id ignoreBind)
  | reset => exact .nothing (.closePort id true) (by simp [Payload.weight])
  | push data => exact hready (answered_push id data ignoreBind)
  | bind p => exact answered_bind id p ignoreBind
  | datagram p =>
      simp only [processFrame]
      split_ifs <;> exact .nothing (.of_eq rfl rfl rfl) (by simp [Payload.weight])

/-! ### Messages -/

lemma answered_processMessage (msg : Message) (ignoreBind : Bool) :
    Answered msg.weight ((E.processMessage msg ignoreBind).2 ≠ .pending) E
      (E.processMessage msg ignoreBind).1 := by
  cases msg with
  | binary data =>
      cases hdec : Frame.tryFrom data with
      | error e =>
          simp only [processMessage, hdec]
          exact .nothing (.of_eq rfl rfl rfl) (by simp [Message.weight, hdec])
      | ok f =>
          have hframe := answered_processFrame (E := E) f ignoreBind
          simp only [processMessage, hdec, Message.weight]
          rcases hres : E.processFrame f ignoreBind with ⟨F, (_ | _) | _⟩ <;>
            rw [hres] at hframe <;> simpa using hframe
  | ping => exact .nothing (.of_eq rfl rfl rfl) (by simp [Message.weight])
  | pong => exact .nothing (.of_eq rfl rfl rfl) (by simp [Message.weight])
  | close => exact .nothing (.of_eq rfl rfl rfl) (by simp [Message.weight])

/-- A task that waits for nothing drops nothing when it winds down. -/
lemma Adds.startWindDown (h : E.blocked = none) (drain : Bool) (res : Except Error Unit) :
    Adds E (E.startWindDown drain res) [] 0 0 := by
  have hcancel : E.cancelNext = E := by simp [cancelNext, h]
  refine .of_eq ?_ ?_ ?_ <;> simp [Endpoint.startWindDown, hcancel, disallowWrites]

lemma answered_recv {msg : Message} (h : E.recv msg = some E') :
    Answered msg.weight False E E' := by
  have hwind : ∀ {F : Endpoint} {fs k b}, E.blocked = none → Adds E F fs k b → b = 0 →
      ∀ drain res, Adds E (F.startWindDown drain res) fs k b := by
    rintro F fs k b hblocked hadds rfl drain res
    have hF : F.blocked = none := by simpa [hblocked] using hadds.blocked
    simpa using hadds.trans (Adds.startWindDown hF drain res)
  obtain ⟨-, hblocked, rfl⟩ | ⟨res, -, hend⟩ := recv_cases h
  · obtain ⟨fs, k, b, hadds, hlen, hk, hcost, hready⟩ := answered_processMessage (E := E) msg false
    refine ⟨fs, k, b, ?_, hlen, hk, hcost, False.elim⟩
    rcases hres : E.processMessage msg false with ⟨F, (e | b') | _⟩ <;> rw [hres] at hadds hready
    · exact hwind hblocked hadds (hready (by simp)) false _
    · cases b'
      · exact hadds
      · exact hwind hblocked hadds (hready (by simp)) false _
    · exact hadds
  · obtain ⟨fs, k, b, hadds, hlen, hk, hcost, hready⟩ := answered_processMessage (E := E) msg true
    refine ⟨fs, k, b, ?_, hlen, hk, hcost, False.elim⟩
    obtain ⟨e, -, rfl⟩ | ⟨-, rfl⟩ := hend
    · exact hadds.then_eq rfl rfl rfl
    · exact hadds

/-! ### Weights -/

lemma queueWeight_append (fs gs : List Bytes) :
    queueWeight (fs ++ gs) = queueWeight fs + queueWeight gs := by
  simp [queueWeight]

lemma Adds.weight_le {fs : List Frame} {k b : ℕ} (h : Adds E E' fs k b) :
    E'.weight ≤ E.weight + queueWeight (fs.map finalize) + 3 * k + 5 * b := by
  obtain ⟨⟨l, hl, hq⟩, ⟨ns, hns, hp⟩, hb⟩ := h
  have hle : queueWeight (l.map finalize) ≤ queueWeight (fs.map finalize) :=
    ((hl.map finalize).map _).sum_le_sum fun _ _ => Nat.zero_le _
  simp only [weight, hq, queueWeight_append, hp, List.length_append]
  omega

lemma weight_recv {msg : Message} (h : E.recv msg = some E') :
    E'.weight < E.weight + msg.weight := by
  obtain ⟨fs, k, b, hadds, -, -, hcost, -⟩ := answered_recv h
  have := hadds.weight_le
  omega

/-- What the task was waiting to hand over is dropped, if it winds down. -/
lemma weight_startWindDown (drain : Bool) (res : Except Error Unit) :
    (E.startWindDown drain res).weight ≤ E.weight := by
  have hphase : (E.startWindDown drain res).weight = E.cancelNext.weight := rfl
  rw [hphase]
  unfold cancelNext
  split
  case h_1 id i hb =>
    have hdrop := (Adds.dropStream (E := { E with blocked := none }) id i).weight_le
    simp only [weight, hb, List.map_nil, queueWeight, List.sum_nil, Option.isSome_none,
      Option.isSome_some, Bool.toNat_false, Bool.toNat_true] at hdrop ⊢
    omega
  case h_2 id i hb =>
    have hdrop := (Adds.dropBind (E := { E with blocked := none }) id i).weight_le
    simp only [weight, hb, List.map_cons, List.map_nil, queueWeight_reset, Option.isSome_none,
      Option.isSome_some, Bool.toNat_false, Bool.toNat_true] at hdrop ⊢
    omega
  case h_3 => exact le_rfl

lemma weight_droppedPort (h : E.droppedPort = some E') : E'.weight < E.weight := by
  have hpop : ∀ {n rest}, E.droppedPorts = n :: rest →
      ({ E with droppedPorts := rest } : Endpoint).weight + 3 = E.weight := by
    intro n rest hports
    simp only [weight, hports, List.length_cons]
    omega
  cases acts_droppedPort h with
  | @droppedZero n rest hrun hports =>
      have hpop := hpop hports
      have := weight_startWindDown (E := { E with droppedPorts := rest }) true (.ok ())
      omega
  | @droppedPort n rest hrun hports =>
      have hpop := hpop hports
      have := (Adds.closePort (E := { E with droppedPorts := rest }) n.id false).weight_le
      simp only [Bool.false_eq_true, if_false, List.map_cons, List.map_nil, queueWeight_reset] at this
      omega

lemma Adds.length_txFrames {fs : List Frame} {k b : ℕ} (h : Adds E E' fs k b)
    (hlen : fs.length ≤ 1) : ∃ l, E'.txFrames = E.txFrames ++ l ∧ l.length ≤ 1 := by
  obtain ⟨l, hl, hq⟩ := h.frames
  refine ⟨l.map finalize, hq, ?_⟩
  rw [List.length_map]
  exact hl.length_le.trans hlen

/-- A notification makes the task queue one frame at most. -/
lemma txFrames_droppedPort (h : E.droppedPort = some E') :
    ∃ l, E'.txFrames = E.txFrames ++ l ∧ l.length ≤ 1 := by
  cases acts_droppedPort h with
  | @droppedZero n rest =>
      simp only [startWindDown, disallowWrites, cancelNext]
      split
      case h_1 id i hb =>
        exact (Adds.dropStream (E := { E with droppedPorts := rest, blocked := none }) id i)
          |>.length_txFrames (by simp)
      case h_2 id i hb =>
        exact (Adds.dropBind (E := { E with droppedPorts := rest, blocked := none }) id i)
          |>.length_txFrames (by simp)
      case h_3 => exact ⟨[], by simp, by simp⟩
  | @droppedPort n rest =>
      exact (Adds.closePort (E := { E with droppedPorts := rest }) n.id false).length_txFrames
        (by simp)

/-- The task gets on with what it was waiting to hand over. -/
lemma weight_resume (h : E.resume = some E') (hb : E'.blocked = none) : E'.weight < E.weight := by
  have hfree : ∀ {p : Blocked}, E.blocked = some p →
      ({ E with blocked := none } : Endpoint).weight + 5 = E.weight := by
    intro p hp
    simp [weight, hp]
  have hless : ∀ {p : Blocked}, E.blocked = some p →
      ({ E with blocked := none } : Endpoint).weight < E.weight := by
    intro p hp
    have := hfree hp
    omega
  cases acts_resume h with
  | @resumeGone id i hrun hblocked =>
      have hfree := hfree hblocked
      have hdrop := (Adds.dropStream (E := { E with blocked := none }) id i).weight_le
      simp only [List.map_nil, queueWeight, List.sum_nil] at hdrop
      have hwind := weight_startWindDown (E := ({ E with blocked := none } : Endpoint).dropStream id i)
        false (.error .sendStreamToClient)
      omega
  | @resumeStream id i hrun hblocked halive =>
      simp only [sendStream, halive, Bool.not_true, Bool.false_eq_true, if_false] at hb ⊢
      split_ifs at hb ⊢
      -- a queue for the user does not weigh
      exact hless hblocked
  | @resumeBind id i hrun hblocked =>
      have hfree := hfree hblocked
      have hdrop := (Adds.dropBind (E := { E with blocked := none }) id i).weight_le
      simp only [List.map_cons, List.map_nil, queueWeight_reset] at hdrop
      simp only [sendBindRequest] at hb ⊢
      split_ifs at hb ⊢
      · exact lt_of_le_of_lt hdrop (by omega)
      · exact hless hblocked

end Endpoint

/-! ### Two tasks -/

namespace System

/-- What is on its way or has not been dealt with: messages, frames, notifications, and what a
task is waiting to hand over. -/
def pending (s : System) : ℕ :=
  let of e := (s.link e).length + (s.ep e).txFrames.length + (s.ep e).droppedPorts.length +
    (s.ep e).blocked.isSome.toNat
  of .a + of .b

/-- The steps by which frames are delivered and notifications are processed. A frame is taken
out of the queue in the select or by `wind_down`; a task that is waiting for room gets on when
there is some. -/
def Exchange (s : System) : Label → Prop
  | .deliver _ => True
  | .act e a =>
    match a with
    | .sendFrame | .droppedPort => True
    | .drainFrame => (s.ep e).txFrames ≠ []
    | .resume => (s.ep e).resume.any (·.blocked.isNone) = true
    | _ => False

def sideWeight (s : System) (e : Side) : ℕ :=
  (s.ep e).weight + ((s.link e).map Message.weight).sum

def weight (s : System) : ℕ := s.sideWeight .a + s.sideWeight .b

variable {s s' : System}

lemma weight_eq (s : System) (e : Side) : s.weight = s.sideWeight e + s.sideWeight e.peer := by
  cases e with
  | a => rfl
  | b => exact Nat.add_comm _ _

/-- A step on one side. -/
lemma weight_act {e : Side} {a : Action} {E' : Endpoint} {out : List Message}
    (h : (s.ep e).act a = some (E', out))
    (hlt : E'.weight + (out.map Message.weight).sum < (s.ep e).weight)
    (hs : s.step (.act e a) = some s') : s'.weight < s.weight := by
  simp only [step, h, Option.map_some, Option.some.injEq] at hs
  subst hs
  rw [weight_eq _ e, weight_eq s e]
  simp only [sideWeight, Function.update_self, Function.update_of_ne e.peer_ne, List.map_append,
    List.sum_append]
  omega

lemma weight_deliver {e : Side} (hs : s.step (.deliver e) = some s') : s'.weight < s.weight := by
  simp only [step] at hs
  split at hs
  case h_2 => cases hs
  case h_1 msg rest hlink =>
    obtain ⟨E', hrecv, rfl⟩ := Option.map_eq_some_iff.mp hs
    have hlt := Endpoint.weight_recv hrecv
    rw [weight_eq _ e, weight_eq s e]
    simp only [sideWeight, Function.update_self, Function.update_of_ne e.peer_ne,
      Function.update_of_ne e.peer_ne.symm, hlink, List.map_cons, List.sum_cons]
    omega

/-- A frame goes from the queue to the sink. -/
lemma weight_pop {e : Side} {a : Action} (ha : a = .sendFrame ∨ a = .drainFrame)
    (hq : (s.ep e).txFrames ≠ []) (hs : s.step (.act e a) = some s') : s'.weight < s.weight := by
  obtain ⟨f, rest, hq⟩ := List.exists_cons_of_ne_nil hq
  have hact : ∀ {r}, (s.ep e).act a = some r →
      r = ({ s.ep e with txFrames := rest }, [.binary f]) := by
    intro r hr
    rcases ha with rfl | rfl
    · simp only [Endpoint.act, hq] at hr
      split at hr
      case h_1 heq =>
        obtain ⟨rfl, rfl⟩ := List.cons.inj heq
        exact (Option.some.inj hr).symm
      case h_2 => cases hr
    · simp only [Endpoint.act, hq] at hr
      split at hr
      case h_1 heq =>
        obtain ⟨rfl, rfl⟩ := List.cons.inj heq
        exact (Option.some.inj hr).symm
      case h_2 heq => cases heq
      case h_3 => cases hr
  obtain ⟨r, hr, -⟩ := Option.map_eq_some_iff.mp hs
  rw [hact hr] at hr
  refine weight_act hr ?_ hs
  simp only [Endpoint.weight, hq, queueWeight, List.map_cons, List.sum_cons, List.map_nil,
    List.sum_nil]
  omega

/-- Every step of an exchange makes the weight smaller. -/
lemma Exchange.weight_lt {l : Label} (hok : Exchange s l) (hs : s.step l = some s') :
    s'.weight < s.weight := by
  cases l with
  | deliver e => exact weight_deliver hs
  | act e a =>
      have own : ∀ {o : Option Endpoint}, (s.ep e).act a = o.map (·, []) →
          (∀ {E'}, o = some E' → E'.weight < (s.ep e).weight) → s'.weight < s.weight := by
        intro o ho hlt
        obtain ⟨r, hr, -⟩ := Option.map_eq_some_iff.mp hs
        obtain ⟨E', hE', rfl⟩ := Option.map_eq_some_iff.mp (ho.symm.trans hr)
        exact weight_act hr (by simpa using hlt hE') hs
      cases a with
      | sendFrame =>
          refine weight_pop (.inl rfl) (fun hq => ?_) hs
          obtain ⟨r, hr, -⟩ := Option.map_eq_some_iff.mp hs
          simp [Endpoint.act, hq] at hr
      | drainFrame => exact weight_pop (.inr rfl) hok hs
      | droppedPort => exact own rfl Endpoint.weight_droppedPort
      | resume =>
          refine own rfl fun {E'} hE' => Endpoint.weight_resume hE' ?_
          have hb : (s.ep e).resume.any (·.blocked.isNone) = true := hok
          simpa [hE'] using hb
      | _ => exact absurd hok id

/-- No frame weighs more than a `Connect`. -/
lemma weight_le (s : System) : s.weight ≤ 12 * s.pending := by
  have hmsg : ∀ msg : Message, msg.weight ≤ 11 := by
    intro msg
    cases msg with
    | binary data =>
        simp only [Message.weight]
        split
        case h_1 f _ => cases f.payload <;> simp [Payload.weight]
        case h_2 => omega
    | _ => simp [Message.weight]
  have hlink : ∀ l : List Message, (l.map Message.weight).sum ≤ 11 * l.length := by
    intro l
    simpa [Nat.mul_comm] using List.sum_le_card_nsmul (l.map Message.weight) 11 (by simp [hmsg])
  have hqueue : ∀ l : List Bytes, queueWeight l ≤ 12 * l.length := by
    intro l
    have hle := List.sum_le_card_nsmul (l.map fun f => Message.weight (.binary f) + 1) 12
      (by simpa using fun f _ => Nat.lt_succ_of_le (hmsg (.binary f)))
    simpa [queueWeight, Nat.mul_comm] using hle
  have hside : ∀ e, s.sideWeight e ≤ 12 * ((s.link e).length + (s.ep e).txFrames.length +
      (s.ep e).droppedPorts.length + (s.ep e).blocked.isSome.toNat) := by
    intro e
    have h₁ := hlink (s.link e)
    have h₂ := hqueue (s.ep e).txFrames
    simp only [sideWeight, Endpoint.weight]
    omega
  have ha := hside .a
  have hb := hside .b
  simp only [weight, pending]
  omega

/-- The delivery of a message is the arrival of a message at one side. -/
lemma deliver_eq {e : Side} (hs : s.step (.deliver e) = some s') :
    ∃ msg rest, s.link e.peer = msg :: rest ∧ (s.ep e).recv msg = some (s'.ep e) ∧
      s'.ep e.peer = s.ep e.peer := by
  simp only [step] at hs
  split at hs
  case h_1 msg rest hlink =>
    obtain ⟨E', hrecv, rfl⟩ := Option.map_eq_some_iff.mp hs
    exact ⟨msg, rest, hlink, by simpa using hrecv, by simp [Function.update_of_ne e.peer_ne]⟩
  case h_2 => cases hs

/-- **No storm of answers**, in any state of the two machines: a message that is delivered
causes at most one frame to be queued and one handle to be dropped, a `Reset` causes neither, a
notification causes at most one frame to be queued, and when only this goes on, it comes to an
end within twelve steps for everything that was pending. -/
theorem no_reply_storm (s : System) :
    (∀ e s', s.step (.deliver e) = some s' → s'.ep e.peer = s.ep e.peer ∧ ∃ fs ns,
      (s'.ep e).txFrames = (s.ep e).txFrames ++ fs ∧ fs.length ≤ 1 ∧
      (s'.ep e).droppedPorts = (s.ep e).droppedPorts ++ ns ∧ ns.length ≤ 1) ∧
    (∀ e s' data rest id, s.link e.peer = .binary data :: rest →
      Frame.tryFrom data = .ok ⟨id, .reset⟩ → s.step (.deliver e) = some s' →
      (s'.ep e).txFrames = (s.ep e).txFrames ∧ (s'.ep e).droppedPorts = (s.ep e).droppedPorts) ∧
    (∀ e s', s.step (.act e .droppedPort) = some s' →
      ∃ fs, (s'.ep e).txFrames = (s.ep e).txFrames ++ fs ∧ fs.length ≤ 1) ∧
    ∀ ls s', run step s ls = some s' → RunMeets step Exchange s ls →
      ls.length ≤ 12 * s.pending := by
  refine ⟨fun e s' hs => ?_, fun e s' data rest id hlink hdec hs => ?_, fun e s' hs => ?_,
    fun ls s' hrun hok => ?_⟩
  · obtain ⟨msg, rest, -, hrecv, hpeer⟩ := deliver_eq hs
    obtain ⟨fs, k, b, hadds, hlen, hk, -⟩ := Endpoint.answered_recv hrecv
    obtain ⟨l, hq, hl⟩ := hadds.length_txFrames hlen
    obtain ⟨ns, hns, hp⟩ := hadds.notices
    exact ⟨hpeer, l, ns, hq, hl, hp, hns.trans hk⟩
  · obtain ⟨msg, rest', hlink', hrecv, -⟩ := deliver_eq hs
    obtain ⟨rfl, rfl⟩ := List.cons.inj (hlink'.symm.trans hlink)
    have hans := Endpoint.answered_recv hrecv
    have hweight : Message.weight (.binary data) = 1 := by
      simp [Message.weight, hdec, Payload.weight]
    rw [hweight] at hans
    obtain ⟨⟨l, hl, hq⟩, ⟨ns, hns, hp⟩, -⟩ := hans.adds_nothing
    obtain rfl := List.sublist_nil.mp hl
    obtain rfl : ns = [] := by simpa using hns
    exact ⟨by simpa using hq, by simpa using hp⟩
  · obtain ⟨⟨E', out⟩, hact, rfl⟩ := Option.map_eq_some_iff.mp hs
    obtain ⟨F, hF, heq⟩ := Option.map_eq_some_iff.mp hact
    obtain ⟨rfl, -⟩ := Prod.mk.inj heq
    simpa using Endpoint.txFrames_droppedPort hF
  · have := length_add_le_of_run (fun _ _ _ hok hs => hok.weight_lt hs) hrun hok
    have := s.weight_le
    omega

/-- The stream of `openRun` is in use: side `a` has written to it, and side `b` has dropped its
handle. -/
def strayRun : List Label :=
  openRun .a 1 ++ [.act .a (.pollWrite 1 0 [7]), .act .b (.dropStream 1 0)]

/-- Side `b` closes its slot, and the `Push` meets nothing: two `Reset`s are all that comes of
it. -/
def strayExchange : List Label :=
  [.act .b .droppedPort, .act .a .sendFrame, .deliver .b, .act .b .sendFrame, .act .b .sendFrame,
    .deliver .a, .deliver .a]

theorem no_reply_storm_stray : ∃ s s', run step (new fun _ => Options.new) strayRun = some s ∧
    run step s strayExchange = some s' ∧ s.pending = 2 ∧ s'.pending = 0 ∧
    strayExchange.length ≤ 12 * s.pending := by
  have hrun : (run step (new fun _ => Options.new) strayRun).any (fun s =>
      s.pending = 2 ∧ ((run step s strayExchange).any fun s' => s'.pending = 0) = true) = true := by
    decide +kernel
  obtain ⟨s, hs, hrest⟩ := (Option.any_eq_true _ _).mp hrun
  obtain ⟨hpend, hrest⟩ := of_decide_eq_true hrest
  obtain ⟨s', hs', hpend'⟩ := (Option.any_eq_true _ _).mp hrest
  have hok : RunMeets step Exchange s strayExchange :=
    runMeets_of_forall (by simp [strayExchange, Exchange]) s
  exact ⟨s, s', hs, hs', hpend, of_decide_eq_true hpend',
    (no_reply_storm s).2.2.2 strayExchange s' hs' hok⟩

end System

end Penguin.Mux
