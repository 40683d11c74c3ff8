import Penguin.Mux.Closing

/-!
The way of a frame from the queue to the sink.

`process_frame_recv_task` takes frames from the queue, when the sink has room, and hands them
to `start_send`; it also sends the keepalive pings, and flushes. It is one branch of the select
in `start` and can be dropped wherever it waits. If that happens because the `Multiplexor` was
dropped, `wind_down` closes the queue and sends what is left in it, by a loop of its own, which
waits for room with a frame in its hands.

Here the two loops are run from one await point to the next. Everything else is a step of the
endpoint, with the record of what was queued. Between two await points a poll is not
interrupted.
-/

namespace Penguin.Mux

open Penguin.Lib.Transition Endpoint

/-- Where `process_frame_recv_task` waits. -/
inductive PumpPc
  /-- In its `select!`. -/
  | selecting
  /-- A tick has come, and the sink has no room for the ping. -/
  | pinging
  | flushing
  /-- The branch has been dropped. -/
  | cancelled
  deriving DecidableEq, Repr

structure Pump where
  recd : Recorded
  pc : PumpPc
  /-- The frame that the loop of `wind_down` is waiting to send. -/
  message : Option Bytes
  /-- History: what was handed to `start_send`. -/
  started : List Message
  /-- History: the notifications that were sent ... -/
  noticed : List Notice
  /-- ... and those that were processed, each with the handle of the slot at that moment. -/
  processed : List (Notice × Option ℕ)

/-- The task is past the loop over the queue. -/
def Phase.isDrained : Phase → Bool
  | .closing _ | .reading _ | .finished _ => true
  | _ => false

namespace Pump

def new (opts : Options) : Pump := ⟨.new opts, .selecting, none, [], [], []⟩

inductive Label
  /-- A step of the endpoint other than those of the two loops. -/
  | event (e : Endpoint.Event)
  /-- A poll of the `select!`: whether the sink has room, and whether it is time to ping. -/
  | pollSelect (ready ticked : Bool)
  /-- A poll of the future that waits for room for a ping. -/
  | pollPing (ready : Bool)
  | pollFlush (ready : Bool)
  /-- The loop of `wind_down`: the next frame, if there is one, ... -/
  | recv
  /-- ... and a poll of the future that waits for room for it. -/
  | pollReady (ready : Bool)
  deriving DecidableEq, Repr

/-- The steps that belong to the loops. -/
def isLoop : Endpoint.Event → Bool
  | .act .sendFrame | .act .tick | .act .drainFrame => true
  | _ => false

/-- The notifications that a step sends, and the one that it processes. -/
def notes (E : Endpoint) (e : Endpoint.Event) (E' : Endpoint) :
    List Notice × List (Notice × Option ℕ) :=
  match e, E.droppedPorts with
  | .act .droppedPort, n :: rest => (E'.droppedPorts.drop rest.length, [(n, E.handleOf n.id)])
  | _, ports => (E'.droppedPorts.drop ports.length, [])

/-- A step of the endpoint. When the select of `start` is over, its other branches are
dropped. -/
def event (p : Pump) (e : Endpoint.Event) : Option Pump :=
  (p.recd.step e).map fun R =>
    { p with
      recd := R
      pc := if R.ep.phase.isRunning then p.pc else .cancelled
      noticed := p.noticed ++ (notes p.recd.ep e R.ep).1
      processed := p.processed ++ (notes p.recd.ep e R.ep).2 }

def step (p : Pump) : Label → Option Pump
  | .event e => if isLoop e then none else p.event e
  | .pollSelect ready ticked =>
    if p.pc = .selecting then
      -- `poll_reserve_space_recv_frame`: nothing is taken from the queue without room
      match ready, p.recd.ep.txFrames with
      | true, f :: _ =>
        (p.recd.step (.act .sendFrame)).map fun R =>
          { p with recd := R, pc := .flushing, started := p.started ++ [.binary f] }
      | _, _ =>
        -- the branches are polled in order, so the tick is seen when there is nothing to send
        if ticked && p.recd.ep.opts.keepaliveInterval.isSome then some { p with pc := .pinging }
        else some p
    else none
  | .pollPing ready =>
    if p.pc = .pinging then
      if ready then some { p with pc := .flushing, started := p.started ++ [.ping] } else some p
    else none
  | .pollFlush ready =>
    if p.pc = .flushing then
      if ready then some { p with pc := .selecting } else some p
    else none
  | .recv =>
    match p.message, p.recd.ep.txFrames with
    | none, f :: _ => (p.recd.step (.act .drainFrame)).map fun R =>
        { p with recd := R, message := some f }
    | none, [] => (p.recd.step (.act .drainFrame)).map fun R => { p with recd := R }
    | some _, _ => none
  | .pollReady ready =>
    match p.message with
    | some f =>
      if ready then some { p with message := none, started := p.started ++ [.binary f] } else some p
    | none => none

/-- The sink never reports an error. -/
def NoSinkError (_ : Pump) : Label → Prop
  | .event e => e ≠ .act .sinkError
  | _ => True

/-- The `Binary` messages that were handed to `start_send`. -/
def frames (p : Pump) : List Bytes := p.started.filterMap Message.binary?

/-- The loop of `wind_down` is over. -/
def ended (p : Pump) : Bool := p.recd.ep.phase.isDrained

/-! ### What a step does -/

variable {p p' : Pump} {R R' : Recorded} {e : Endpoint.Event}

/-- The outcomes of a step. -/
inductive Moves (p : Pump) : Label → Pump → Prop
  | event {e : Endpoint.Event} {p' : Pump} (hloop : isLoop e = false) (h : p.event e = some p') :
      Moves p (.event e) p'
  /-- Nothing was ready, or the loop gets to its next await point. -/
  | waits (l : Label) (pc : PumpPc) : Moves p l { p with pc := pc }
  | pings (l : Label) : Moves p l { p with pc := .flushing, started := p.started ++ [.ping] }
  | sends {f : Bytes} {rest : List Bytes} {R : Recorded} (l : Label)
      (hq : p.recd.ep.txFrames = f :: rest) (h : p.recd.step (.act .sendFrame) = some R) :
      Moves p l { p with recd := R, pc := .flushing, started := p.started ++ [.binary f] }
  | takes {f : Bytes} {rest : List Bytes} {R : Recorded} (l : Label) (hmsg : p.message = none)
      (hq : p.recd.ep.txFrames = f :: rest) (h : p.recd.step (.act .drainFrame) = some R) :
      Moves p l { p with recd := R, message := some f }
  | drained {R : Recorded} (l : Label) (hmsg : p.message = none)
      (hq : p.recd.ep.txFrames = []) (h : p.recd.step (.act .drainFrame) = some R) :
      Moves p l { p with recd := R }
  | drains {f : Bytes} (l : Label) (hmsg : p.message = some f) :
      Moves p l { p with message := none, started := p.started ++ [.binary f] }

lemma moves_of_step {l : Label} (h : p.step l = some p') : Moves p l p' := by
  cases l with
  | event e =>
      simp only [step] at h
      split_ifs at h with hloop
      exact .event (by simpa using hloop) h
  | pollSelect ready ticked =>
      by_cases hpc : p.pc = .selecting
      case neg => simp [step, hpc] at h
      simp only [step, hpc, if_true] at h
      split at h
      case h_1 hq =>
        obtain ⟨R, hR, rfl⟩ := Option.map_eq_some_iff.mp h
        exact .sends _ hq hR
      case h_2 =>
        split_ifs at h <;> obtain rfl := Option.some.inj h
        · exact .waits _ .pinging
        · exact .waits _ p.pc
  | pollPing ready =>
      simp only [step] at h
      split_ifs at h <;> obtain rfl := Option.some.inj h
      · exact .pings _
      · exact .waits _ p.pc
  | pollFlush ready =>
      simp only [step] at h
      split_ifs at h <;> obtain rfl := Option.some.inj h
      · exact .waits _ .selecting
      · exact .waits _ p.pc
  | recv =>
      simp only [step] at h
      split at h
      case h_1 hmsg hq =>
        obtain ⟨R, hR, rfl⟩ := Option.map_eq_some_iff.mp h
        exact .takes _ hmsg hq hR
      case h_2 hmsg hq =>
        obtain ⟨R, hR, rfl⟩ := Option.map_eq_some_iff.mp h
        exact .drained _ hmsg hq hR
      case h_3 => cases h
  | pollReady ready =>
      simp only [step] at h
      split at h
      case h_1 hmsg =>
        split_ifs at h <;> obtain rfl := Option.some.inj h
        · exact .drains _ hmsg
        · exact .waits _ p.pc
      case h_2 => cases h

/-! ### Nothing is lost -/

/-- A loop takes the first frame out of the queue, or ends. -/
lemma pop_act {E E' : Endpoint} {a : Action} (ha : a = .sendFrame ∨ a = .drainFrame)
    (h : E.step (.act a) = some E') :
    ∃ ph, E' = { E with txFrames := E.txFrames.tail, phase := ph } ∧
      (E.txFrames ≠ [] → ph = E.phase) := by
  obtain ⟨⟨F, out⟩, hact, rfl⟩ := Option.map_eq_some_iff.mp h
  rcases ha with rfl | rfl
  · cases acts hact with
    | sendFrame hrun hframes => exact ⟨E.phase, by simp [hframes], fun _ => rfl⟩
  · cases acts hact with
    | drainFrame hph hframes => exact ⟨E.phase, by simp [hframes], fun _ => rfl⟩
    | @drained res hph hframes =>
        exact ⟨.closing res, by simp [hframes], fun hne => absurd hframes hne⟩

/-- The first loop runs in the select, the second in `wind_down`. -/
lemma phase_of_pop {E E' : Endpoint} {a : Action} (h : E.step (.act a) = some E') :
    (a = .sendFrame → E.phase = .running) ∧ (a = .drainFrame → ∃ res, E.phase = .draining res) := by
  obtain ⟨⟨F, out⟩, hact, rfl⟩ := Option.map_eq_some_iff.mp h
  constructor
  · rintro rfl
    cases acts hact with
    | sendFrame hrun hframes => exact hrun
  · rintro rfl
    cases acts hact with
    | drainFrame hph hframes => exact ⟨_, hph⟩
    | drained hph hframes => exact ⟨_, hph⟩

lemma pop_step {a : Action} (ha : a = .sendFrame ∨ a = .drainFrame)
    (h : R.step (.act a) = some R') : R'.sent = R.sent ∧
      ∃ ph, R'.ep = { R.ep with txFrames := R.ep.txFrames.tail, phase := ph } ∧
        (R.ep.txFrames ≠ [] → ph = R.ep.phase) := by
  obtain ⟨hep, hsent⟩ := Recorded.step_eq h
  obtain ⟨ph, hpop, hph⟩ := pop_act ha hep
  have hnone : R.ep.queued (.act a) R'.ep = [] := by
    have hle : R.ep.txFrames.length ≤ R.ep.txFrames.length - 1 + 1 := by omega
    rcases ha with rfl | rfl <;> simpa [queued, before, popped, hpop] using hle
  exact ⟨by rw [hsent, hnone]; simp, ph, hpop, hph⟩

/-- The other steps leave the frames that are in the queue where they are. -/
lemma before_txFrames (E : Endpoint) (h : isLoop e = false) :
    (E.before e).txFrames = E.txFrames := by
  cases e with
  | act a => cases a <;> first | rfl | cases h
  | recv msg => rfl

lemma event_step (hloop : isLoop e = false) (h : R.step e = some R') :
    ∃ q, R'.ep.txFrames = R.ep.txFrames ++ q ∧ R'.sent.map (·.2) = R.sent.map (·.2) ++ q := by
  obtain ⟨-, hsent⟩ := Recorded.step_eq h
  refine ⟨R.ep.queued e R'.ep, ?_, ?_⟩
  · rw [Recorded.txFrames_step h, before_txFrames R.ep hloop]
  · simp [hsent, Function.comp_def]

lemma notes_spec {E E' : Endpoint} (h : E.step e = some E') :
    E.droppedPorts ++ (notes E e E').1 = (notes E e E').2.map (·.1) ++ E'.droppedPorts := by
  have hgrows := (updates_step h 0).grows.droppedPorts
  have hkeep : ∀ {l : List Notice}, E.droppedPorts <+: l → l <+: E'.droppedPorts →
      E.droppedPorts ++ E'.droppedPorts.drop E.droppedPorts.length = E'.droppedPorts :=
    fun h h' => List.prefix_iff_eq_append.mp (h.trans h')
  cases e with
  | recv msg => simpa [notes] using hkeep List.prefix_rfl hgrows
  | act a =>
      cases a with
      | droppedPort =>
          cases hports : E.droppedPorts with
          | nil => simp [notes, hports]
          | cons n rest =>
              have hrest : rest <+: E'.droppedPorts := by simpa [before, popped, hports] using hgrows
              simp [notes, hports, List.prefix_iff_eq_append.mp hrest]
      | dropMux =>
          have hfirst : E.droppedPorts <+: (E.before (.act .dropMux)).droppedPorts := by
            simp only [before, popped]
            split_ifs
            · exact List.prefix_rfl
            · exact List.prefix_append _ _
          simpa [notes] using hkeep hfirst hgrows
      | _ => simpa [notes] using hkeep List.prefix_rfl hgrows

/-- Every frame that was queued has been handed to the sink, or is in the hands of the loop, or
still queued, in this order; and the same for notifications. -/
structure Intact (p : Pump) : Prop where
  frames : p.frames ++ p.message.toList ++ p.recd.ep.txFrames = p.recd.sent.map (·.2)
  message : p.message.isSome → ∃ res, p.recd.ep.phase = .draining res
  noticed : p.processed.map (·.1) ++ p.recd.ep.droppedPorts = p.noticed

lemma Intact.event (hI : p.Intact) (hok : NoSinkError p (.event e)) (hloop : isLoop e = false)
    (h : p.event e = some p') : p'.Intact := by
  obtain ⟨R, hR, rfl⟩ := Option.map_eq_some_iff.mp h
  obtain ⟨hep, -⟩ := Recorded.step_eq hR
  obtain ⟨q, hframes, hsent⟩ := event_step hloop hR
  refine ⟨?_, fun hm => ?_, ?_⟩
  · have := congrArg (· ++ q) hI.frames
    simpa [Pump.frames, hframes, hsent] using this
  · obtain ⟨res, hph⟩ := hI.message hm
    refine ⟨res, (updates_step hep 0).phase (I := (· = .draining res)) ?_ fun ph ph' hI hs => ?_⟩
    · rw [before_phase, hph]
    · subst hI
      cases hs with
      | sinkError => exact absurd rfl hok
      | drained => simp [isLoop] at hloop
  · have := notes_spec hep
    simp only [List.map_append, List.append_assoc, ← this, ← hI.noticed]

/-- No loop holds a frame while the task is running. -/
lemma Intact.message_none (hI : p.Intact) (hrun : p.recd.ep.phase = .running) :
    p.message = none := by
  by_contra hm
  obtain ⟨res, hph⟩ := hI.message (Option.isSome_iff_ne_none.mpr hm)
  simp [hrun] at hph

lemma Intact.step {l : Label} (hI : p.Intact) (hok : NoSinkError p l) (h : p.step l = some p') :
    p'.Intact := by
  have hframes := hI.frames
  cases moves_of_step h with
  | event hloop h => exact hI.event hok hloop h
  | waits _ pc => exact ⟨hI.frames, hI.message, hI.noticed⟩
  | pings =>
      have hping : [Message.ping].filterMap Message.binary? = [] := rfl
      exact ⟨by simpa [Pump.frames, hping] using hframes, hI.message, hI.noticed⟩
  | sends _ hq hR =>
      have hrun := (phase_of_pop (Recorded.step_eq hR).1).1 rfl
      obtain ⟨hsent, ph, hep, -⟩ := pop_step (.inl rfl) hR
      have hnone := hI.message_none hrun
      refine ⟨?_, by simp [hnone], by simpa [hep] using hI.noticed⟩
      simpa [Pump.frames, Message.binary?, hep, hsent, hq, hnone] using hframes
  | takes _ hmsg hq hR =>
      obtain ⟨res, hdrain⟩ := (phase_of_pop (Recorded.step_eq hR).1).2 rfl
      obtain ⟨hsent, ph, hep, hph⟩ := pop_step (.inr rfl) hR
      have hsame : ph = .draining res := by rw [hph (by simp [hq]), hdrain]
      refine ⟨?_, fun _ => ⟨res, by simp [hep, hsame]⟩, by simpa [hep] using hI.noticed⟩
      simpa [Pump.frames, hep, hsent, hq, hmsg] using hframes
  | drained _ hmsg hq hR =>
      obtain ⟨hsent, ph, hep, -⟩ := pop_step (.inr rfl) hR
      refine ⟨?_, by simp [hmsg], by simpa [hep] using hI.noticed⟩
      simpa [Pump.frames, hep, hsent, hq, hmsg] using hframes
  | drains _ hmsg =>
      refine ⟨?_, by simp, hI.noticed⟩
      simpa [Pump.frames, Message.binary?, hmsg] using hframes

lemma intact {opts : Options} (h : Reach step NoSinkError (new opts) p) : p.Intact := by
  refine h.invariant (I := Intact) ⟨rfl, by simp [new], rfl⟩ fun _ _ _ hI hok hs => hI.step hok hs

/-! ### The pump and the endpoint -/

variable {K : Pump → Label → Prop} {opts : Options}

lemma recd_step {l : Label} (h : p.step l = some p') :
    p'.recd = p.recd ∨ ∃ e, p.recd.step e = some p'.recd := by
  cases moves_of_step h with
  | event _ h =>
      obtain ⟨R, hR, rfl⟩ := Option.map_eq_some_iff.mp h
      exact .inr ⟨_, hR⟩
  | sends _ _ hR | takes _ _ _ hR | drained _ _ _ hR => exact .inr ⟨_, hR⟩
  | waits | pings | drains => exact .inl rfl

/-- Every run of the pump is a run of the endpoint with its record. -/
lemma reach_recd (h : Reach step K (new opts) p) :
    Reach Recorded.step Any (.new opts) p.recd := by
  induction h with
  | start => exact .start
  | next _ _ hs ih =>
      rcases recd_step hs with heq | ⟨e, he⟩
      · rwa [heq]
      · exact .next ih trivial he

/-! ### The end -/

/-- The task is to send what is left in the queue, or has done so. -/
def Emptying (p : Pump) : Prop :=
  (∃ res, p.recd.ep.phase = .yielding true res) ∨ (∃ res, p.recd.ep.phase = .draining res) ∨
    (p.ended = true ∧ p.message = none ∧ p.recd.ep.txFrames = [])

lemma Emptying.not_running (h : p.Emptying) : p.recd.ep.phase ≠ .running := by
  intro hrun
  rcases h with ⟨res, hph⟩ | ⟨res, hph⟩ | ⟨hend, -⟩
  · simp [hrun] at hph
  · simp [hrun] at hph
  · simp [ended, Phase.isDrained, hrun] at hend

lemma Emptying.event (hE : p.Emptying) (hok : NoSinkError p (.event e)) (hloop : isLoop e = false)
    (h : p.event e = some p') : p'.Emptying := by
  obtain ⟨R, hR, rfl⟩ := Option.map_eq_some_iff.mp h
  obtain ⟨hep, -⟩ := Recorded.step_eq hR
  have hups := updates_step hep 0
  have hbefore := before_phase p.recd.ep e
  rcases hE with hyield | hdrain | ⟨hend, hmsg, hq⟩
  · have hI : (∃ res, R.ep.phase = .yielding true res) ∨ ∃ res, R.ep.phase = .draining res := by
      refine hups.phase (I := fun ph => (∃ res, ph = .yielding true res) ∨ ∃ res, ph = .draining res)
        (.inl (by rwa [hbefore])) fun ph ph' hI hs => ?_
      rcases hI with ⟨res, rfl⟩ | ⟨res, rfl⟩
      · cases hs with
        | closeQueue => exact .inr ⟨res, rfl⟩
      · cases hs with
        | sinkError => exact absurd rfl hok
        | drained => simp [isLoop] at hloop
    exact hI.imp_right .inl
  · refine .inr (.inl ?_)
    refine hups.phase (I := fun ph => ∃ res, ph = .draining res) (by rwa [hbefore])
      fun ph ph' hI hs => ?_
    obtain ⟨res, rfl⟩ := hI
    cases hs with
    | sinkError => exact absurd rfl hok
    | drained => simp [isLoop] at hloop
  · have hclosed : (p.recd.ep.before e).txOpen = false := by
      rw [txOpen, hbefore]
      cases hph : p.recd.ep.phase <;> simp [ended, Phase.isDrained, hph] at hend <;> rfl
    obtain ⟨-, hsame⟩ := hups.grows.closed hclosed
    refine .inr (.inr ⟨?_, hmsg, by rw [hsame, before_txFrames _ hloop, hq]⟩)
    refine hups.phase (I := fun ph => ph.isDrained = true) (by rwa [hbefore]) fun ph ph' hI hs => ?_
    cases hs with
    | windDown | closeQueue => cases hI
    | sinkError | drained | closeSink | finish => rfl

lemma Emptying.step {l : Label} (hE : p.Emptying) (hI : p.Intact) (hok : NoSinkError p l)
    (h : p.step l = some p') : p'.Emptying := by
  cases moves_of_step h with
  | event hloop h => exact hE.event hok hloop h
  | waits | pings => exact hE
  | sends _ hq hR => exact absurd ((phase_of_pop (Recorded.step_eq hR).1).1 rfl) hE.not_running
  | takes _ hmsg hq hR =>
      obtain ⟨res, hdrain⟩ := (phase_of_pop (Recorded.step_eq hR).1).2 rfl
      obtain ⟨-, ph, hep, hph⟩ := pop_step (.inr rfl) hR
      exact .inr (.inl ⟨res, by simp [hep, hph (by simp [hq]), hdrain]⟩)
  | drained _ hmsg hq hR =>
      obtain ⟨hep, -⟩ := Recorded.step_eq hR
      obtain ⟨res, hdrain⟩ := (phase_of_pop hep).2 rfl
      simp only [Endpoint.step, act, hdrain, hq, Option.map_some, Option.some.injEq] at hep
      exact .inr (.inr ⟨by simp [ended, ← hep, Phase.isDrained], hmsg, by simp [← hep]⟩)
  | drains _ hmsg => exact .inr (.inl (hI.message (by simp [hmsg])))

/-- When the loop of `wind_down` is over, everything has been handed to the sink. -/
lemma Emptying.frames_eq (hE : p.Emptying) (hI : p.Intact) (hend : p.ended = true) :
    p.frames = p.recd.sent.map (·.2) := by
  rcases hE with ⟨res, hph⟩ | ⟨res, hph⟩ | ⟨-, hmsg, hq⟩
  · simp [ended, hph, Phase.isDrained] at hend
  · simp [ended, hph, Phase.isDrained] at hend
  · simpa [hmsg, hq] using hI.frames

/-! ### Handles that were dropped -/

/-- The handles whose notifications found their slots have queued a `Finish`, or the task has
queued their `Reset`. -/
def HandlesClosed (p : Pump) : Prop :=
  ∀ id i, id ≠ 0 → (.stream id i, some i) ∈ p.processed →
    (∃ f, (.shutdown id i, f) ∈ p.recd.sent) ∨
      (.close id i, finalize (Frame.newReset id)) ∈ p.recd.sent

/-- A processed notification is the first of its queue, and the slot is looked up then. -/
lemma notes_processed {E E' : Endpoint} {id : UInt32} {i : ℕ}
    (h : (.stream id i, some i) ∈ (notes E e E').2) :
    e = .act .droppedPort ∧ E.handleOf id = some i ∧
      ∃ rest, E.droppedPorts = .stream id i :: rest := by
  unfold notes at h
  split at h
  case h_1 n rest hports =>
    obtain ⟨rfl, hi⟩ : .stream id i = n ∧ some i = E.handleOf n.id := by simpa using h
    exact ⟨rfl, hi.symm, rest, hports⟩
  case h_2 => simp at h

lemma HandlesClosed.event (hp : p.HandlesClosed) (hreach : Reach Recorded.step Any (.new opts) p.recd)
    (h : p.event e = some p') : p'.HandlesClosed := by
  obtain ⟨R, hR, rfl⟩ := Option.map_eq_some_iff.mp h
  obtain ⟨hep, hsent⟩ := Recorded.step_eq hR
  have hold : ∀ {entry}, entry ∈ p.recd.sent → entry ∈ R.sent := by
    intro entry hmem
    rw [hsent]
    exact List.mem_append_left _ hmem
  intro id i hid hmem
  rcases List.mem_append.mp hmem with hmem | hmem
  · refine (hp id i hid hmem).imp ?_ hold
    rintro ⟨f, hf⟩
    exact ⟨f, hold hf⟩
  · obtain ⟨rfl, hi, rest, hports⟩ := notes_processed hmem
    by_cases hfin : p.recd.ep.finished id i = true
    · left
      have hrun : p.recd.ep.phase = .running := by
        obtain ⟨⟨F, out⟩, hact, -⟩ := Option.map_eq_some_iff.mp hep
        cases acts hact <;> assumption
      have hslot : ∃ b, p.recd.ep.flows id = some (.established ⟨i, b⟩) := by
        unfold handleOf at hi
        split at hi
        case h_1 d hd =>
          obtain rfl := Option.some.inj hi
          exact ⟨d.sender, hd⟩
        case h_2 => cases hi
      obtain ⟨f, hf⟩ := Recorded.shutdown_mem hreach hrun ⟨hslot, hfin⟩
      exact ⟨f, hold hf⟩
    · right
      obtain ⟨ho, hq⟩ := queued_droppedPort p.recd.seen hep hports hid hi
        (by simpa [Notice.id] using hfin)
      rw [hsent, ho, hq]
      simp [Notice.id]

lemma HandlesClosed.step {l : Label} (hp : p.HandlesClosed)
    (hreach : Reach Recorded.step Any (.new opts) p.recd)
    (h : p.step l = some p') : p'.HandlesClosed := by
  have hpopped : ∀ {R : Recorded}, R.sent = p.recd.sent → ∀ id i, id ≠ 0 →
      (.stream id i, some i) ∈ p.processed → (∃ f, (.shutdown id i, f) ∈ R.sent) ∨
        (.close id i, finalize (Frame.newReset id)) ∈ R.sent := by
    intro R hsent
    rw [hsent]
    exact hp
  cases moves_of_step h with
  | event hloop h => exact hp.event hreach h
  | waits | pings | drains => exact hp
  | sends _ _ hR => exact hpopped (pop_step (.inl rfl) hR).1
  | takes _ _ _ hR | drained _ _ _ hR => exact hpopped (pop_step (.inr rfl) hR).1

lemma handlesClosed_of_reach (h : Reach step K (new opts) p) : p.HandlesClosed := by
  induction h with
  | start => simp [HandlesClosed, new]
  | next hreach _ hs ih => exact ih.step (reach_recd hreach) hs

/-! ### The two together -/

lemma sent_step {l : Label} (h : p.step l = some p') : p.recd.sent <+: p'.recd.sent := by
  rcases recd_step h with heq | ⟨e, he⟩
  · rw [heq]
  · rw [(Recorded.step_eq he).2]
    exact List.prefix_append _ _

lemma emptying_of_reach (hI : p.Intact) (hE : p.Emptying) (h : Reach step NoSinkError p p') :
    p'.Emptying ∧ p'.Intact ∧ p.recd.sent <+: p'.recd.sent := by
  induction h with
  | start => exact ⟨hE, hI, List.prefix_rfl⟩
  | next _ hok hs ih =>
      obtain ⟨hE', hI', hpre⟩ := ih
      exact ⟨hE'.step hI' hok hs, hI'.step hok hs, hpre.trans (sent_step hs)⟩

/-- The task stops because the `Multiplexor` was dropped. -/
lemma emptying_of_dropped {rest : List Notice} (hports : p.recd.ep.droppedPorts = .multiplexor :: rest)
    (h : p.step (.event (.act .droppedPort)) = some p') : p'.Emptying := by
  simp only [step, isLoop, Bool.false_eq_true, if_false] at h
  obtain ⟨R, hR, rfl⟩ := Option.map_eq_some_iff.mp h
  obtain ⟨hep, -⟩ := Recorded.step_eq hR
  obtain ⟨⟨F, out⟩, hact, hF⟩ := Option.map_eq_some_iff.mp hep
  refine .inl ⟨.ok (), ?_⟩
  rw [← hF]
  cases acts hact with
  | droppedZero hrun hports' hzero => rfl
  | droppedPort hrun hports' hid =>
      obtain ⟨rfl, -⟩ := List.cons.inj (hports'.symm.trans hports)
      exact absurd rfl hid

/-- **Nothing that was queued is lost**: if the task ends because the `Multiplexor` was dropped
and the sink never fails, the `Binary` messages handed to the sink are the frames that were
queued, in this order. Every notification that was sent before has been processed, and a handle
that was not shut down and still had its slot then has its `Reset` among the frames, with no
`Push` of the handle behind it. -/
theorem frames_pumped {p p₁ p₂ : Pump} {rest : List Notice}
    (h : Reach step NoSinkError (new opts) p)
    (hports : p.recd.ep.droppedPorts = .multiplexor :: rest)
    (hdrop : p.step (.event (.act .droppedPort)) = some p₁) (h₂ : Reach step NoSinkError p₁ p₂)
    (hend : p₂.ended = true) :
    p₂.frames = p₂.recd.sent.map (·.2) ∧
    p.noticed = p.processed.map (·.1) ++ .multiplexor :: rest ∧
    ∀ id i, id ≠ 0 → (.stream id i, some i) ∈ p.processed →
      (∀ f, (.shutdown id i, f) ∉ p.recd.sent) →
      ∃ l₁ l₂, p₂.recd.sent = l₁ ++ (.close id i, finalize (Frame.newReset id)) :: l₂ ∧
        ∀ f, (.write id i, f) ∉ l₂ := by
  have hok : NoSinkError p (.event (.act .droppedPort)) := by simp [NoSinkError]
  have hI := intact h
  obtain ⟨hE₂, hI₂, hpre⟩ :=
    emptying_of_reach (hI.step hok hdrop) (emptying_of_dropped hports hdrop) h₂
  refine ⟨hE₂.frames_eq hI₂ hend, by rw [← hI.noticed, hports], fun id i hid hproc hno => ?_⟩
  have hclose : (.close id i, finalize (Frame.newReset id)) ∈ p.recd.sent := by
    rcases handlesClosed_of_reach h id i hid hproc with ⟨f, hf⟩ | hmem
    · exact absurd hf (hno f)
    · exact hmem
  have hreach₂ := (Reach.next h hok hdrop).trans h₂
  have horder := (Recorded.discipline (reach_recd hreach₂) id i).order
  obtain ⟨l₁, l₂, hsplit⟩ := List.append_of_mem (((sent_step hdrop).trans hpre).subset hclose)
  refine ⟨l₁, l₂, hsplit, fun f hf => ?_⟩
  rw [hsplit, List.pairwise_append, List.pairwise_cons] at horder
  exact horder.2.1.1 _ hf (.inr rfl) rfl

/-- The peer opens a stream. The user accepts it, writes to it, drops it and then the
`Multiplexor`; one frame goes out and the task processes the first notification. -/
def dropRun : List Label :=
  [.event (.recv (.binary (finalize (Frame.newConnect [] 0 1 512)))),
    .event (.act .acceptStreamChannel), .event (.act (.pollWrite 1 0 [7])),
    .event (.act (.dropStream 1 0)), .event (.act .dropMux), .pollSelect false true,
    .pollSelect true false, .event (.act .droppedPort)]

/-- The sink has no room at first. -/
def drainRun : List Label :=
  [.event (.act .closeQueue), .recv, .pollReady false, .pollReady true, .recv, .pollReady true,
    .recv]

/-- The `Acknowledge` is sent by the first loop, the `Push` and the `Reset` by the second. -/
theorem frames_pumped_drop : ∃ p₂ : Pump, p₂.started.length = 3 ∧
    p₂.frames = p₂.recd.sent.map (·.2) ∧
    ∃ l₁ l₂, p₂.recd.sent = l₁ ++ (.close 1 0, finalize (Frame.newReset 1)) :: l₂ ∧
      ∀ f, (.write 1 0, f) ∉ l₂ := by
  have hrun : (run step (new Options.new) dropRun).any (fun p =>
      p.recd.ep.droppedPorts = [.multiplexor] ∧ (.stream 1 0, some 0) ∈ p.processed ∧
      (p.recd.sent.all fun entry => entry.1 ≠ .shutdown 1 0) = true ∧
      ((p.step (.event (.act .droppedPort))).any fun p₁ => (run step p₁ drainRun).any fun p₂ =>
        p₂.ended = true ∧ p₂.started.length = 3) = true) = true := by
    decide +kernel
  obtain ⟨p, hp, hrest⟩ := (Option.any_eq_true _ _).mp hrun
  obtain ⟨hports, hproc, hno, hrest⟩ := of_decide_eq_true hrest
  obtain ⟨p₁, hp₁, hrest⟩ := (Option.any_eq_true _ _).mp hrest
  obtain ⟨p₂, hp₂, hend⟩ := (Option.any_eq_true _ _).mp hrest
  obtain ⟨hend, hlen⟩ := of_decide_eq_true hend
  have hreach : Reach step NoSinkError (new Options.new) p :=
    reach_of_run hp (runMeets_of_forall (by simp [dropRun, NoSinkError]) _)
  have hreach₂ : Reach step NoSinkError p₁ p₂ :=
    reach_of_run hp₂ (runMeets_of_forall (by simp [drainRun, NoSinkError]) _)
  obtain ⟨hframes, -, hreset⟩ := frames_pumped hreach hports hp₁ hreach₂ hend
  refine ⟨p₂, hlen, hframes, hreset 1 0 (by decide) hproc fun f hf => ?_⟩
  simpa using List.all_eq_true.mp hno _ hf

end Pump

end Penguin.Mux
