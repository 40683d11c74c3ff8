import Penguin.Mux.Updates

/-!
Who queues a frame.

Several objects queue frames for one flow id: calls, handles, bind requests of the peer, and
the task itself, when it answers a frame or closes a slot. The queue does not tell them apart.
Here an endpoint is run together with a record of every frame that was put into its queue and
on whose behalf. No step reads the record.
-/

namespace Penguin.Mux

open Penguin.Lib.Transition

/-- The frame in a message. -/
def Message.binary? : Message → Option Bytes
  | .binary data => some data
  | _ => none

namespace Endpoint

/-- What is left of a queue when a step begins. -/
def before (E : Endpoint) : Event → Endpoint
  | .act a => E.popped a
  | .recv _ => E

/-- The frames a step has added to the queue. -/
def queued (E : Endpoint) (e : Event) (E' : Endpoint) : List Bytes :=
  E'.txFrames.drop (E.before e).txFrames.length

/-- A step is a sequence of updates of what is left. -/
lemma updates_step {E E' : Endpoint} {e : Event} (h : E.step e = some E') (k : ℕ) :
    Updates (E.origin k e).Makes e (E.before e) E' := by
  cases e with
  | act a =>
      obtain ⟨⟨F, out⟩, hact, rfl⟩ := Option.map_eq_some_iff.mp h
      exact act_updates hact k
  | recv msg => exact updates_recv h k

lemma before_phase (E : Endpoint) (e : Event) : (E.before e).phase = E.phase := by
  cases e with
  | act a => cases a <;> rfl
  | recv msg => rfl

lemma before_binds (E : Endpoint) (e : Event) : (E.before e).binds = E.binds := by
  cases e with
  | act a => cases a <;> rfl
  | recv msg => rfl

lemma act_out {E E' : Endpoint} {a : Action} {out : List Message} (h : E.act a = some (E', out)) :
    out.filterMap Message.binary? ++ (E.popped a).txFrames = E.txFrames := by
  cases acts h with
  | sendFrame hrun hframes | drainFrame hph hframes => simp [popped, hframes, Message.binary?]
  | drained hph hframes => simp [popped, hframes]
  | _ => rfl

lemma txFrames_of_step {E E' : Endpoint} {e : Event} (h : E.step e = some E') :
    E'.txFrames = (E.before e).txFrames ++ E.queued e E' :=
  (List.prefix_iff_eq_append.mp (updates_step h 0).grows.txFrames).symm

lemma filterMap_onFlow (x : UInt32) (l : List Message) :
    l.filterMap (Message.onFlow x) = (l.filterMap Message.binary?).filterMap (onFlow x) := by
  rw [List.filterMap_filterMap]
  refine List.filterMap_congr fun msg _ => ?_
  cases msg <;> rfl

/-- A step is a run of each flow, which queues the frames of the flow. -/
lemma step_run {E E' : Endpoint} {e : Event} (x : UInt32) (h : E.step e = some E') :
    ∃ ev, View.Run E.opts (E.view x) ev ((E.queued e E').filterMap (onFlow x)) (E'.view x) := by
  have hqueue := txFrames_of_step h
  cases e with
  | act a =>
      obtain ⟨⟨F, out⟩, hact, rfl⟩ := Option.map_eq_some_iff.mp h
      obtain ⟨-, ev, sent, -, hrun, hsent⟩ := act_sim x hact
      have heq : (E.queued (.act a) F).filterMap (onFlow x) = sent := by
        rw [filterMap_onFlow, queue, queue, ← act_out hact, hqueue] at hsent
        simpa [before] using hsent
      exact ⟨ev, by rwa [heq]⟩
  | recv msg =>
      obtain ⟨-, sent, hrun, hsent⟩ := recv_sim x h
      have heq : (E.queued (.recv msg) E').filterMap (onFlow x) = sent := by
        rw [queue, queue, hqueue] at hsent
        simpa [before] using hsent
      exact ⟨_, by rwa [heq]⟩

lemma closed_step {E E' : Endpoint} {e : Event} (h : E.step e = some E')
    (hclosed : E.txOpen = false) : E'.txOpen = false ∧ E.queued e E' = [] := by
  have hbefore : (E.before e).txOpen = false := by
    rw [txOpen, before_phase]
    exact hclosed
  obtain ⟨hclosed', hframes⟩ := (updates_step h 0).grows.closed hbefore
  exact ⟨hclosed', by simp [queued, hframes]⟩

/-- A queue that is open has been open all along. -/
lemma txOpen_of_step {E E' : Endpoint} {e : Event} (h : E.step e = some E')
    (hopen : E'.txOpen = true) : E.txOpen = true := by
  by_contra hclosed
  simp [(closed_step h (by simpa using hclosed)).1] at hopen

end Endpoint

/-- An endpoint with its record. -/
structure Recorded where
  ep : Endpoint
  sent : List (Origin × Bytes)
  /-- The number of messages that have arrived. -/
  seen : ℕ

namespace Recorded

def new (opts : Options) : Recorded := ⟨.new opts, [], 0⟩

def step (R : Recorded) (e : Endpoint.Event) : Option Recorded :=
  (R.ep.step e).map fun E =>
    { ep := E
      sent := R.sent ++ (R.ep.queued e E).map fun f => (R.ep.origin R.seen e, f)
      seen := match e with
        | .recv _ => R.seen + 1
        | .act _ => R.seen }

/-- The frames that were queued on behalf of one object. -/
def framesOf (R : Recorded) (o : Origin) : List Bytes :=
  (R.sent.filter (·.1 = o)).map (·.2)

variable {R R' : Recorded} {e : Endpoint.Event}

lemma step_eq (h : R.step e = some R') : R.ep.step e = some R'.ep ∧
    R'.sent = R.sent ++ (R.ep.queued e R'.ep).map fun f => (R.ep.origin R.seen e, f) := by
  obtain ⟨E, hE, rfl⟩ := Option.map_eq_some_iff.mp h
  exact ⟨hE, rfl⟩

lemma framesOf_step (h : R.step e = some R') (o : Origin) : R'.framesOf o = R.framesOf o ++
    if R.ep.origin R.seen e = o then R.ep.queued e R'.ep else [] := by
  obtain ⟨-, hsent⟩ := step_eq h
  simp only [framesOf, hsent, List.filter_append, List.map_append]
  split_ifs with ho
  · simp [List.filter_map, Function.comp_def, ho]
  · simp [List.filter_map, Function.comp_def, ho]

lemma reach_ep {K : Endpoint → Endpoint.Event → Prop} {opts : Options}
    (h : Reach step (fun R e => K R.ep e) (new opts) R) :
    Reach Endpoint.step K (.new opts) R.ep := by
  induction h with
  | start => exact .start
  | next _ hok hs ih => exact .next ih hok (step_eq hs).1

lemma txFrames_step (h : R.step e = some R') :
    R'.ep.txFrames = (R.ep.before e).txFrames ++ R.ep.queued e R'.ep :=
  Endpoint.txFrames_of_step (step_eq h).1

/-- **What is queued on whose behalf**: the record holds frames of the kinds that their
origins make. -/
theorem sent_makes {K : Recorded → Endpoint.Event → Prop} {opts : Options}
    (h : Reach step K (new opts) R) :
    ∀ entry ∈ R.sent, ∃ f, entry.2 = Endpoint.finalize f ∧ entry.1.Makes f := by
  induction h with
  | start => simp [new]
  | @next R R' e _ _ hs ih =>
      intro entry hmem
      obtain ⟨hep, hsent⟩ := step_eq hs
      rw [hsent] at hmem
      rcases List.mem_append.mp hmem with hmem | hmem
      · exact ih entry hmem
      · obtain ⟨fs, hfs, hmakes⟩ := (Endpoint.updates_step hep R.seen).queued
        have hqueued : R.ep.queued e R'.ep = fs.map Endpoint.finalize := by
          simp [Endpoint.queued, hfs]
        rw [hqueued] at hmem
        obtain ⟨bytes, hbytes, rfl⟩ := List.mem_map.mp hmem
        obtain ⟨f, hf, rfl⟩ := List.mem_map.mp hbytes
        exact ⟨f, rfl, hmakes f hf⟩

end Recorded

end Penguin.Mux
