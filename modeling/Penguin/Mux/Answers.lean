import Penguin.Mux.Requests

/-!
What a call of `new_stream_channel` or `request_bind` returns.

While the task runs, every call is told how its request ends and none returns `Closed`, as long as
no `Finish` is sent where an `Acknowledge` or a `Reset` was due. A call that fails leaves no slot
behind, unless it fails because the queue is closed when its frame is due.
-/

namespace Penguin.Mux

open Penguin.Lib.Transition

namespace Endpoint

variable {E E' : Endpoint} {e : Event} {f : Frame}

/-- The error with which a step of a call ends it. -/
def callError (E : Endpoint) : Action → Option Error
  | .sendConnect id j =>
    match (E.calls id)[j]? with
    | some c => if c.stage = .inserted && !E.txOpen then some .closed else none
    | none => none
  | .awaitStream id j =>
    match (E.calls id)[j]? with
    | some c =>
      if c.stage = .awaiting then
        match c.reply with
        | some (some _) => none
        -- the loop ends when no retries are left
        | some none => if c.retriesLeft = 0 then some .flowIdRejected else none
        | none => if E.flows id = some (.requested j) then none else some .closed
      else none
    | none => none
  | .sendBind id j =>
    match (E.bindCalls id)[j]? with
    | some c => if c.stage = .inserted && !E.txOpen then some .closed else none
    | none => none
  | .awaitBind id j =>
    match (E.bindCalls id)[j]? with
    | some c =>
      if c.stage = .awaiting && c.reply.isNone && E.flows id ≠ some (.bindRequested j) then
        some .closed
      else none
    | none => none
  | _ => none

/-! ### Requests are answered -/

/-- What a step of the running task owes to the calls that wait. -/
structure Answers (E : Endpoint) (e : Event) (E' : Endpoint) : Prop where
  /-- A slot leaves the map, or changes, only with a value for its call. -/
  answered : ∀ x s, E.flows x = some s → E'.flows x ≠ some s → E.listens x s = true →
    (E'.told x s).isSome = true
  kept : ∀ x s v, E.told x s = some v → E'.told x s = some v
  notClosed : ∀ a, e = .act a → E.callError a ≠ some .closed
  /-- A refusal of the peer gets to the call. -/
  refused : ∀ f j, E.arriving e = some f → f.payload = .reset ∨ f.payload = .finish →
    E.flows f.id = some (.requested j) → E.listens f.id (.requested j) = true →
    E'.told f.id (.requested j) = some (.inl none)
  retried : ∀ x j, e = .act (.awaitStream x j) → E.told x (.requested j) = some (.inl none) →
    E.callError (.awaitStream x j) = some .flowIdRejected ∨
      ∃ c, (E'.calls x)[j]? = some c ∧ c.stage = .rejected ∧ 0 < c.retriesLeft

lemma step_of_arriving (h : E.arriving e = some f) :
    E.phase = .running ∧ ∃ r, E.step e = some ((E.processFrame f false).1.afterMessage r) := by
  unfold arriving at h
  split at h
  case h_2 => cases h
  case h_1 data =>
    split_ifs at h with hrun
    simp only [Bool.and_eq_true, Option.isNone_iff_eq_none, Phase.isRunning_iff] at hrun
    have hdec : Frame.tryFrom data = .ok f := by
      cases hdec : Frame.tryFrom data with
      | error e => simp [hdec, Except.toOption] at h
      | ok g => simpa [hdec, Except.toOption] using h
    refine ⟨hrun.1, (E.processMessage (.binary data) false).2, ?_⟩
    simp only [step, recv, hrun.1, hrun.2, Option.isSome_none, Bool.false_eq_true, if_false]
    rw [← fst_processMessage hdec]

lemma lost_of_finishes (h : E.FinishesRequested e) : ∃ E' id j, E.step e = some E' ∧
    E.phase = .running ∧ E.flows id = some (.requested j) ∧ E'.flows id ≠ some (.requested j) ∧
    E.listens id (.requested j) = true ∧
    E'.told id (.requested j) = E.told id (.requested j) := by
  obtain ⟨id, j, harr, hslot, hl⟩ := h
  obtain ⟨hrun, r, hstep⟩ := step_of_arriving harr
  have hframe : (E.processFrame ⟨id, .finish⟩ false).1 =
      (E.setSlot id none).send (Frame.newReset id) := by
    simp only [processFrame, hslot]
  rw [hframe] at hstep
  have hsame := (Same.send (E := E.setSlot id none) (Frame.newReset id)).trans (.afterMessage r)
  refine ⟨_, id, j, hstep, hrun, hslot, ?_, hl, ?_⟩
  · rw [hsame.flows]
    simp [setSlot]
  · exact told_congr (congrFun hsame.calls id) (congrFun hsame.bindCalls id)

lemma told_of_reset {id : UInt32} {j : ℕ} (harr : E.arriving e = some ⟨id, .reset⟩)
    (hslot : E.flows id = some (.requested j)) (hl : E.listens id (.requested j) = true)
    (h : E.step e = some E') : E'.told id (.requested j) = some (.inl none) := by
  obtain ⟨-, r, hstep⟩ := step_of_arriving harr
  obtain rfl := Option.some.inj (hstep.symm.trans h)
  have hframe : (E.processFrame ⟨id, .reset⟩ false).1 =
      (E.setSlot id none).modifyCall id j (StreamCall.answer none) := by
    simp only [processFrame, closePort, hslot, closePortLocal]
  rw [hframe]
  have hsame := Same.afterMessage
    (E := (E.setSlot id none).modifyCall id j (StreamCall.answer none)) r
  rw [told_congr (congrFun hsame.calls id) (congrFun hsame.bindCalls id)]
  exact told_answer (E := E.setSlot id none) none hl

lemma Awaited.notClosed (hI : E.Awaited) (hrun : E.phase = .running) (a : Action) :
    E.callError a ≠ some .closed := by
  have hopen : E.txOpen = true := by simp [txOpen, hrun, Phase.isOpen]
  intro h
  unfold callError at h
  split at h
  case h_1 id j =>
    split at h
    · simp [hopen] at h
    · cases h
  case h_2 id j =>
    split at h
    case h_2 => cases h
    case h_1 c hc =>
      split at h
      case isFalse => cases h
      case isTrue hst =>
        split at h
        case h_1 => cases h
        case h_2 =>
          split_ifs at h
          cases h
        case h_3 hreply =>
          have hslot : E.flows id = some (.requested j) := by
            refine hI hrun id _ ?_ ?_
            · simp [listens, hc, hst, Stage.listening]
            · simp [told, hc, hreply]
          simp [hslot] at h
  case h_3 id j =>
    split at h
    · simp [hopen] at h
    · cases h
  case h_4 id j =>
    split at h
    case h_2 => cases h
    case h_1 c hc =>
      split_ifs at h with hcond
      simp only [Bool.and_eq_true, decide_eq_true_eq, Option.isNone_iff_eq_none] at hcond
      obtain ⟨⟨hst, hreply⟩, hslot⟩ := hcond
      refine hslot (hI hrun id _ ?_ ?_)
      · simp [listens, hc, hst, Stage.listening]
      · simp [told, hc, hreply]
  case h_5 => cases h

lemma retried_of_told {x : UInt32} {j : ℕ} (h : E.step (.act (.awaitStream x j)) = some E')
    (htold : E.told x (.requested j) = some (.inl none)) :
    E.callError (.awaitStream x j) = some .flowIdRejected ∨
      ∃ c, (E'.calls x)[j]? = some c ∧ c.stage = .rejected ∧ 0 < c.retriesLeft := by
  obtain ⟨c, hc, hreply⟩ : ∃ c, (E.calls x)[j]? = some c ∧ c.reply = some none := by
    simpa [told, Option.bind_eq_some_iff] using htold
  simp only [step, act, awaitStream, Option.map_map, hc, hreply] at h
  split at h
  case isFalse => cases h
  case isTrue hst =>
    obtain rfl := Option.some.inj h
    by_cases hleft : c.retriesLeft = 0
    · exact .inl (by simp [callError, hc, hst, hreply, hleft])
    · exact .inr ⟨{ c with stage := .rejected }, by simp [modifyCall, hc], rfl,
        Nat.pos_of_ne_zero hleft⟩

/-- A step of the running task does what it owes, if it is not a `Finish` for a call that
waits. -/
lemma answers_of_step (htold : E.Told) (hI : E.Awaited) (hrun : E.phase = .running)
    (hfin : ¬ E.FinishesRequested e) (h : E.step e = some E') : Answers E e E' where
  answered x s hslot hlost hl := by
    rcases step_settles h with hset | ⟨id, s₀, hins⟩
    · exact (hset x).answered (fun hP => hfin (hP hrun)) s hslot hlost hl
    · have hx : x ≠ id := by
        rintro rfl
        simp [hins.vacant] at hslot
      rw [hins.flows, Function.update_of_ne hx] at hlost
      exact absurd hslot hlost
  kept x s v hv := htold.kept h hv
  notClosed a _ := hI.notClosed hrun a
  refused f j harr hp hslot hl := by
    obtain ⟨id, p⟩ := f
    rcases hp with rfl | rfl
    · exact told_of_reset harr hslot hl h
    · exact absurd ⟨id, j, harr, hslot, hl⟩ hfin
  retried x j he := by
    subst he
    exact retried_of_told h

lemma answers_runMeets (htold : E.Told) (hI : E.Awaited) (es : List Event)
    (hfin : RunMeets step (fun E e => ¬ E.FinishesRequested e) E es) :
    RunMeets step (fun E e => E.phase = .running → ∀ E', E.step e = some E' → Answers E e E')
      E es := by
  induction es generalizing E with
  | nil => trivial
  | cons e es ih =>
      exact ⟨fun hrun E' h => answers_of_step htold hI hrun hfin.1 h,
        fun E' h => ih (htold.step h) (hI.step h hfin.1) (hfin.2 E' h)⟩

lemma notFinishes_runMeets (htold : E.Told) (es : List Event)
    (hans : RunMeets step
      (fun E e => E.phase = .running → ∀ E', E.step e = some E' → Answers E e E') E es) :
    RunMeets step (fun E e => ¬ E.FinishesRequested e) E es := by
  induction es generalizing E with
  | nil => trivial
  | cons e es ih =>
      refine ⟨fun hfin => ?_, fun E' h => ih (htold.step h) (hans.2 E' h)⟩
      obtain ⟨E', id, j, h, hrun, hslot, hlost, hl, heq⟩ := lost_of_finishes hfin
      have hsome := (hans.1 hrun E' h).answered id _ hslot hlost hl
      rw [heq, htold id _ hslot] at hsome
      cases hsome

/-- **Pending requests are answered**: in a run, every step of the running task tells the calls
whose slots it takes, no call returns `Closed`, and a refusal leads to a retry or to
`FlowIdRejected`, if and only if no `Finish` arrives for a call of `new_stream_channel` that
waits. -/
theorem requests_answered_iff (opts : Options) (es : List Event) :
    RunMeets step (fun E e => E.phase = .running → ∀ E', E.step e = some E' → Answers E e E')
        (new opts) es ↔
      RunMeets step (fun E e => ¬ E.FinishesRequested e) (new opts) es :=
  ⟨notFinishes_runMeets (told_new opts) es, answers_runMeets (told_new opts) (awaited_new opts) es⟩

/-- A peer that sends `Finish` for a `Connect`: the call returns `Closed`, and the task runs. -/
theorem finish_returns_closed :
    let es : List Event := [.act (.newStreamChannel 1 [] 0), .act (.sendConnect 1 0),
      .recv (.binary (finalize (Frame.newFinish 1)))]
    ¬ RunMeets step (fun E e => E.phase = .running → ∀ E', E.step e = some E' → Answers E e E')
        (new Options.new) es ∧
      ∃ E E', run step (new Options.new) es = some E ∧ E.phase = .running ∧
        E.step (.act (.awaitStream 1 0)) = some E' ∧ E'.phase = .running ∧
        E.callError (.awaitStream 1 0) = some .closed := by
  refine ⟨fun h => ?_, _, _, rfl, rfl, rfl, rfl, rfl⟩
  have hfin := ((h.2 _ rfl).2 _ rfl).1 rfl _ rfl
  have hsome := hfin.answered 1 (.requested 0) rfl (by decide) rfl
  cases hsome

/-! ### Requests that fail -/

/-- A round is rejected when it has been told `None`. -/
def Rejected (E : Endpoint) : Prop :=
  ∀ x j, E.rejects x j = true → E.told x (.requested j) = some (.inl none)

lemma Rejected.step (hI : E.Rejected) (htold : E.Told) (h : E.step e = some E') : E'.Rejected := by
  intro x j hj
  refine htold.kept h ?_
  rcases step_settles h with hset | ⟨id, s, hins⟩
  · exact ((hset x).rejected j hj).elim (hI x j) id
  · exact hI x j (hins.rejected x j hj)

/-- The slot that a round of `new_stream_channel` has inserted is in the map: as it was inserted,
or with the stream that the round was given. -/
def Trace (E : Endpoint) (x : UInt32) (j : ℕ) : Prop :=
  E.flows x = some (.requested j) ∨ ∃ i b, E.told x (.requested j) = some (.inl (some i)) ∧
    E.flows x = some (.established ⟨i, b⟩)

/-- The frame of a request is due, the queue is closed, and nobody has taken the slot of the
request out of the map. -/
def TooLate (E : Endpoint) : Action → Prop
  | .sendConnect id j => E.txOpen = false ∧ E.Trace id j
  | .sendBind id j => E.txOpen = false ∧ E.flows id = some (.bindRequested j)
  | _ => False

lemma Told.no_trace (hI : E.Told) {x : UInt32} {j : ℕ}
    (h : E.told x (.requested j) = some (.inl none)) : ¬ E.Trace x j := by
  rintro (hslot | ⟨i, b, htold, -⟩)
  · simp [hI x _ hslot] at h
  · simp [htold] at h

lemma closed_of_callError {id : UInt32} {j : ℕ} {err : Error}
    (h : E.callError (.sendConnect id j) = some err ∨ E.callError (.sendBind id j) = some err) :
    E.txOpen = false := by
  simp only [callError] at h
  rcases h with h | h
  all_goals
    split at h
    case h_2 => cases h
    case h_1 =>
      split_ifs at h with hcond
      simp only [Bool.and_eq_true, Bool.not_eq_true'] at hcond
      exact hcond.2

lemma Told.no_trace_of_callError (hI : E.Told) {id : UInt32} {j : ℕ} {err : Error}
    (h : E.callError (.awaitStream id j) = some err) : ¬ E.Trace id j := by
  simp only [callError] at h
  split at h
  case h_2 => cases h
  case h_1 c hc =>
    split at h
    case isFalse => cases h
    case isTrue =>
      split at h
      case h_1 => cases h
      case h_2 hreply => exact hI.no_trace (by simp [told, hc, hreply])
      case h_3 hreply =>
        split_ifs at h with hslot
        rintro (hkept | ⟨i, b, htold, -⟩)
        · exact hslot hkept
        · simp [told, hc, hreply] at htold

/-- A call that ends with an error leaves the map to the task. -/
lemma flows_of_callError {a : Action} {err : Error} (herr : E.callError a = some err)
    (h : E.step (.act a) = some E') :
    E'.flows = E.flows ∧ ∀ x s, E'.told x s = E.told x s := by
  obtain ⟨⟨F, out⟩, hact, rfl⟩ := Option.map_eq_some_iff.mp h
  cases acts hact with
  | connectSent hc hstage hopen => simp [callError, hc, hopen] at herr
  | streamGiven hc hstage hreply => simp [callError, hc, hreply] at herr
  | bindSent hc hstage hopen => simp [callError, hc, hopen] at herr
  | @connectFailsWith id i j =>
      have hsame := Same.dropStream (E := E.modifyCall id j fun c => { c with stage := .returned }) id i
      refine ⟨hsame.flows, fun x s => ?_⟩
      exact (told_congr (congrFun hsame.calls x) (congrFun hsame.bindCalls x)).trans
        (told_stage id j _)
  | connectFails | streamRejected | senderGone => exact ⟨rfl, fun _ _ => told_stage _ _ _⟩
  | bindFails | awaitBind => exact ⟨rfl, fun _ _ => told_bindStage _ _ _⟩
  | _ => cases herr

lemma rejects_of_retryStream {id id' : UInt32} {j : ℕ}
    (h : E.step (.act (.retryStream id j id')) = some E') : E.rejects id j = true := by
  obtain ⟨⟨F, out⟩, hact, rfl⟩ := Option.map_eq_some_iff.mp h
  cases acts hact with
  | retryStream hc hstage =>
      rw [rejects, hc]
      exact decide_eq_true hstage

end Endpoint

/-- An endpoint, and the rounds that a call of `new_stream_channel` went through. -/
structure Rounds where
  ep : Endpoint
  /-- History: the rounds of the same call before this one. No step reads it. -/
  earlier : UInt32 → ℕ → List (UInt32 × ℕ)

namespace Rounds

def new (opts : Options) : Rounds where
  ep := Endpoint.new opts
  earlier _ _ := []

def noted (R : Rounds) : Endpoint.Event → UInt32 → ℕ → List (UInt32 × ℕ)
  | .act (.retryStream id j id') =>
    Function.update R.earlier id' (Function.update (R.earlier id') (R.ep.calls id').length
      ((id, j) :: R.earlier id j))
  | _ => R.earlier

def step (R : Rounds) (e : Endpoint.Event) : Option Rounds :=
  (R.ep.step e).map fun E => ⟨E, R.noted e⟩

/-- No slot that the call has inserted, in any of its rounds, is in the map. -/
def LeftNothing (R : Rounds) : Action → Prop
  | .sendConnect id j | .awaitStream id j =>
    ∀ p ∈ (id, j) :: R.earlier id j, ¬ R.ep.Trace p.1 p.2
  | .sendBind id j | .awaitBind id j => R.ep.flows id ≠ some (.bindRequested j)
  | _ => True

/-- Every round but the last was told `None`. -/
structure Sound (R : Rounds) : Prop where
  told : R.ep.Told
  rejected : R.ep.Rejected
  earlier : ∀ id j, ∀ p ∈ R.earlier id j, R.ep.told p.1 (.requested p.2) = some (.inl none)

lemma sound_new (opts : Options) : (new opts).Sound where
  told := Endpoint.told_new opts
  rejected x j h := by simp [new, Endpoint.new, Endpoint.rejects] at h
  earlier _ _ p hp := by cases hp

lemma Sound.step {R R' : Rounds} {e : Endpoint.Event} (hI : R.Sound) (h : R.step e = some R') :
    R'.Sound := by
  obtain ⟨E', hE', rfl⟩ := Option.map_eq_some_iff.mp h
  refine ⟨hI.told.step hE', hI.rejected.step hI.told hE', fun id j p hp => hI.told.kept hE' ?_⟩
  have hp : p ∈ R.noted e id j := hp
  unfold noted at hp
  split at hp
  case h_2 => exact hI.earlier id j p hp
  case h_1 id₀ j₀ id' _ =>
    -- the round that goes round the loop was rejected
    have hround : R.ep.told id₀ (.requested j₀) = some (.inl none) :=
      hI.rejected id₀ j₀ (Endpoint.rejects_of_retryStream hE')
    by_cases hid : id = id'
    swap
    · rw [Function.update_of_ne hid] at hp
      exact hI.earlier id j p hp
    subst hid
    rw [Function.update_self] at hp
    by_cases hj : j = (R.ep.calls id).length
    · rw [hj, Function.update_self] at hp
      rcases List.mem_cons.mp hp with rfl | hp
      · exact hround
      · exact hI.earlier id₀ j₀ p hp
    · rw [Function.update_of_ne hj] at hp
      exact hI.earlier id j p hp

lemma sound_of_reach {opts : Options} {R : Rounds} (h : Reach step Any (new opts) R) : R.Sound :=
  h.invariant (sound_new opts) fun _ _ _ hI _ hs => hI.step hs

/-- The earlier rounds have left nothing, so the last one decides. -/
lemma Sound.leftNothing_iff {R R' : Rounds} {a : Action} {err : Error} (hI : R.Sound)
    (h : R.step (.act a) = some R') (herr : R.ep.callError a = some err) :
    R'.LeftNothing a ↔ ¬ R.ep.TooLate a := by
  obtain ⟨E', hE', rfl⟩ := Option.map_eq_some_iff.mp h
  obtain ⟨hflows, htold⟩ := Endpoint.flows_of_callError herr hE'
  have htrace : ∀ x j, E'.Trace x j ↔ R.ep.Trace x j := by
    intro x j
    simp only [Endpoint.Trace, hflows, htold]
  have hearlier : ∀ id j, (∀ p ∈ (id, j) :: R.earlier id j, ¬ E'.Trace p.1 p.2) ↔
      ¬ R.ep.Trace id j := by
    intro id j
    simp only [htrace, List.forall_mem_cons]
    exact and_iff_left fun p hp => hI.told.no_trace (hI.earlier id j p hp)
  cases a with
  | sendConnect id j =>
      have hclosed := Endpoint.closed_of_callError (.inl herr)
      exact (hearlier id j).trans (not_congr (and_iff_right hclosed).symm)
  | awaitStream id j =>
      exact iff_of_true ((hearlier id j).mpr (hI.told.no_trace_of_callError herr)) not_false
  | sendBind id j =>
      have hclosed := Endpoint.closed_of_callError (.inr herr)
      change E'.flows id ≠ some (.bindRequested j) ↔ _
      rw [hflows]
      exact not_congr (and_iff_right hclosed).symm
  | awaitBind id j =>
      refine iff_of_true ?_ not_false
      change E'.flows id ≠ some (.bindRequested j)
      rw [hflows]
      simp only [Endpoint.callError] at herr
      split at herr
      case h_2 => cases herr
      case h_1 =>
        split_ifs at herr with hcond
        simp only [Bool.and_eq_true, decide_eq_true_eq] at hcond
        exact hcond.2
  | _ => cases herr

/-- **Failed requests**: when a call ends with an error, no slot of any of its rounds is in the
map, if and only if the call has not failed to queue the frame of a request whose slot is there. -/
theorem failed_leaves_nothing_iff {opts : Options} {R R' : Rounds} {a : Action} {err : Error}
    (hreach : Reach step Any (new opts) R) (h : R.step (.act a) = some R')
    (herr : R.ep.callError a = some err) : R'.LeftNothing a ↔ ¬ R.ep.TooLate a :=
  (sound_of_reach hreach).leftNothing_iff h herr

/-- Two rounds that the peer rejects. -/
theorem failed_leaves_nothing_rejected :
    let opts : Options := { Options.new with
      maxFlowIdRetries := 2, maxFlowIdRetries_pos := by decide }
    let es : List Endpoint.Event := [.act (.newStreamChannel 1 [] 0), .act (.sendConnect 1 0),
      .recv (.binary (Endpoint.finalize (Frame.newReset 1))), .act (.awaitStream 1 0),
      .act (.retryStream 1 0 2), .act (.sendConnect 2 0),
      .recv (.binary (Endpoint.finalize (Frame.newReset 2)))]
    ∃ R R', run step (new opts) es = some R ∧ R.earlier 2 0 = [(1, 0)] ∧
      R.step (.act (.awaitStream 2 0)) = some R' ∧
      R.ep.callError (.awaitStream 2 0) = some .flowIdRejected ∧
      R'.LeftNothing (.awaitStream 2 0) := by
  intro opts es
  refine ⟨_, _, rfl, rfl, rfl, rfl, ?_⟩
  have hrun : run step (new opts) es = some _ := rfl
  have hreach : Reach step Any (new opts) _ :=
    reach_of_run hrun (runMeets_of_forall (fun _ _ _ => trivial) _)
  exact (failed_leaves_nothing_iff (a := .awaitStream 2 0) hreach rfl rfl).mpr not_false

/-- After the task has ended, a call returns `Closed` and its slot stays. -/
theorem closed_leaves_slot :
    ∃ R R', run step (new Options.new) [.act .sourceEnd, .act .closeQueue, .act .closeSink,
        .act .sourceEnd, .act (.newStreamChannel 1 [] 0)] = some R ∧
      R.step (.act (.sendConnect 1 0)) = some R' ∧
      R.ep.callError (.sendConnect 1 0) = some .closed ∧
      R'.ep.phase = .finished (.ok ()) ∧ ¬ R'.LeftNothing (.sendConnect 1 0) :=
  ⟨_, _, rfl, rfl, rfl, rfl, fun h => h (1, 0) (by simp) (.inl rfl)⟩

end Rounds

end Penguin.Mux
