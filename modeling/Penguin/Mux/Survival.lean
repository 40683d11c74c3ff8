import Penguin.Mux.Isolation

/-!
One frame does not end the task, with one exception.

While the `Multiplexor` is there and the queue is open, `process_frame` has nothing to fail on:
a stream or a datagram can be handed over, if need be after waiting, and an acknowledgement can
be sent. What is left is a caller of `new_stream_channel` that gave up: its slot stays in the
map, and the `Acknowledge` of the peer finds nobody to hand the stream to.
-/

namespace Penguin.Mux

open Penguin.Lib.Transition

def Poll.failed {ε α : Type} : Poll (Except ε α) → Bool
  | .ready (.error _) => true
  | _ => false

namespace Endpoint

variable {E : Endpoint}

/-- A stream has been requested, and the call that did so is not waiting for it any more. -/
def CallerGone (E : Endpoint) (id : UInt32) : Prop :=
  ∃ j, E.flows id = some (.requested j) ∧ (E.calls id)[j]?.any (·.stage.listening) = false

/-- The frame acknowledges a stream that nobody is waiting for. -/
def OrphanAck (E : Endpoint) (f : Frame) : Prop :=
  (∃ n, f.payload = .acknowledge n) ∧ E.CallerGone f.id

lemma not_callerGone {id : UInt32} (h : ∀ j, E.flows id ≠ some (.requested j)) :
    ¬ E.CallerGone id := fun ⟨j, hslot, _⟩ => h j hslot

lemma not_callerGone_of_listens {id : UInt32} {j : ℕ} (hslot : E.flows id = some (.requested j))
    (hlistens : (E.calls id)[j]?.any (·.stage.listening) = true) : ¬ E.CallerGone id := by
  rintro ⟨k, hk, hgone⟩
  obtain ⟨⟨⟩⟩ := hslot.symm.trans hk
  simp [hlistens] at hgone

lemma sendStream_alive (halive : E.muxAlive = true) (id : UInt32) (i : ℕ) :
    (E.sendStream id i).2 = .ready (.ok ()) ∨
      (E.sendStream id i).2 = .pending ∧ (E.sendStream id i).1.blocked = some (.stream id i) := by
  simp only [sendStream, halive, Bool.not_true, Bool.false_eq_true, if_false]
  split_ifs
  · exact .inl rfl
  · exact .inr ⟨rfl, rfl⟩

lemma sendBindRequest_alive (halive : E.muxAlive = true) (id : UInt32) (i : ℕ) :
    (E.sendBindRequest id i).2 = .ready (.ok ()) ∨
      (E.sendBindRequest id i).2 = .pending ∧
        (E.sendBindRequest id i).1.blocked = some (.bind id i) := by
  simp only [sendBindRequest, halive, Bool.not_true, Bool.false_eq_true, if_false]
  split_ifs
  · exact .inl rfl
  · exact .inr ⟨rfl, rfl⟩

lemma muxAlive_send (f : Frame) : (E.send f).muxAlive = E.muxAlive := by
  unfold send
  split_ifs <;> rfl

/-- What `process_frame` answers while the task is running: it is done, or it waits until
something can be handed over, or the caller has gone. -/
lemma Handles.alive {E' : Endpoint} {f : Frame} {ignoreBind : Bool}
    {r : Poll (Except Error Unit)} (h : E.Handles ignoreBind f E' r) (halive : E.muxAlive = true)
    (hopen : E.txOpen = true) :
    (¬ E.OrphanAck f ∧ (r = .ready (.ok ()) ∨ r = .pending ∧ E'.blocked ≠ none)) ∨
      (E.OrphanAck f ∧ r = .ready (.error .sendStreamToClient)) := by
  have other : (∀ n, f.payload ≠ .acknowledge n) → ¬ E.OrphanAck f := fun hp ⟨⟨n, hn⟩, _⟩ => hp n hn
  cases h with
  | @connect id p hslot htx =>
      refine .inl ⟨other nofun, ?_⟩
      have hmux : ((E.establish id (newStreamShared E.opts p.rwnd p.targetHost p.targetPort)).send
          (Frame.newAcknowledge id E.opts.rwnd)).muxAlive = true := (muxAlive_send _).trans halive
      refine (sendStream_alive hmux id _).imp_right fun h => ⟨h.1, ?_⟩
      rw [h.2]
      simp
  | connectClosed p hslot hclosed => simp [hopen] at hclosed
  | ackEstablished n hslot =>
      exact .inl ⟨fun h => not_callerGone (by simp [hslot]) h.2, .inl rfl⟩
  | ackRequested n hslot hlistens =>
      exact .inl ⟨fun h => not_callerGone_of_listens hslot hlistens h.2, .inl rfl⟩
  | ackGone n hslot hgone => exact .inr ⟨⟨⟨n, rfl⟩, _, hslot, hgone⟩, rfl⟩
  | ackBogus n hslot =>
      refine .inl ⟨fun h => not_callerGone (fun j hj => ?_) h.2, .inl rfl⟩
      rcases hslot with hslot | ⟨k, hslot⟩ <;> simp [hslot] at hj
  | @bind id p hpos hig =>
      refine .inl ⟨other nofun, ?_⟩
      refine (sendBindRequest_alive (E := E.addBind id p) halive id _).imp_right fun h => ⟨h.1, ?_⟩
      rw [h.2]
      simp
  | datagramGone p hgone => simp [halive] at hgone
  | _ => exact .inl ⟨other nofun, .inl rfl⟩

lemma processFrame_alive (halive : E.muxAlive = true) (hopen : E.txOpen = true) (f : Frame)
    (ignoreBind : Bool) :
    (¬ E.OrphanAck f ∧ ((E.processFrame f ignoreBind).2 = .ready (.ok ()) ∨
      (E.processFrame f ignoreBind).2 = .pending ∧
        (E.processFrame f ignoreBind).1.blocked ≠ none)) ∨
    (E.OrphanAck f ∧ (E.processFrame f ignoreBind).2 = .ready (.error .sendStreamToClient)) :=
  (E.handles f ignoreBind).alive halive hopen

lemma resume_alive (halive : E.muxAlive = true) (hrun : E.phase = .running)
    (hblocked : E.blocked ≠ none) : ∃ E', E.resume = some E' ∧ E'.phase = .running := by
  obtain ⟨b, hb⟩ := Option.ne_none_iff_exists'.mp hblocked
  cases b with
  | stream id i =>
      have hsame : Within id { E with blocked := none } _ := .sendStream i
      have hres := sendStream_alive (E := { E with blocked := none }) halive id i
      rcases hsend : ({ E with blocked := none } : Endpoint).sendStream id i with ⟨E', r⟩
      rw [hsend] at hsame hres
      refine ⟨E', ?_, hsame.phase.trans hrun⟩
      rw [hrun] at hsend
      rcases hres with rfl | ⟨rfl, -⟩ <;> simp [resume, hrun, hb, hsend]
  | bind id i =>
      have hsame : Within id { E with blocked := none } _ := .sendBindRequest i
      exact ⟨_, by simp [resume, hrun, hb], hsame.phase.trans hrun⟩

/-- **One frame does not end the task**: with the `Multiplexor` alive and the queue open,
`process_frame` does not fail, and the task goes on, if and only if the frame is not the
acknowledgement of a stream whose caller has gone. A frame that has to wait before it can be
handed over does not fail later either, and the other flows are not touched. -/
theorem processFrame_survives_iff (halive : E.muxAlive = true) (hopen : E.txOpen = true)
    (f : Frame) (ignoreBind : Bool) :
    ((∀ e, (E.processFrame f ignoreBind).2 ≠ .ready (.error e)) ↔ ¬ E.OrphanAck f) ∧
    (∀ bytes, E.phase = .running → E.blocked = none → Frame.tryFrom bytes = .ok f →
      ∃ E', E.recv (.binary bytes) = some E' ∧ (E'.phase = .running ↔ ¬ E.OrphanAck f)) ∧
    ((E.processFrame f ignoreBind).2 = .pending → ∀ F : Endpoint, F.muxAlive = true →
      F.phase = .running → F.blocked = (E.processFrame f ignoreBind).1.blocked →
      ∃ F', F.resume = some F' ∧ F'.phase = .running) ∧
    (∀ x, x ≠ f.id → (E.processFrame f ignoreBind).1.flows x = E.flows x ∧
      (E.processFrame f ignoreBind).1.streams x = E.streams x) := by
  refine ⟨?_, fun bytes hrun hfree hdec => ?_, fun hpend F hF hrun hb => ?_, fun x hx => ?_⟩
  · rcases processFrame_alive halive hopen f ignoreBind with ⟨hno, hres⟩ | ⟨horph, hres⟩
    · refine ⟨fun _ => hno, fun _ e he => ?_⟩
      rcases hres with hres | ⟨hres, -⟩ <;> rw [hres] at he <;> cases he
    · exact ⟨fun h => absurd hres (h _), fun h => absurd horph h⟩
  · have hsame := within_processFrame E f false
    rcases hproc : E.processFrame f false with ⟨E', r⟩
    have halt := processFrame_alive halive hopen f false
    rw [hproc] at hsame halt
    have hph : E'.phase = .running := hsame.phase.trans hrun
    rcases halt with ⟨hno, rfl | ⟨rfl, -⟩⟩ | ⟨horph, rfl⟩
    · exact ⟨E', by simp [recv, hrun, hfree, processMessage, hdec, hproc, afterMessage], by
        simp [hph, hno]⟩
    · exact ⟨E', by simp [recv, hrun, hfree, processMessage, hdec, hproc, afterMessage], by
        simp [hph, hno]⟩
    · refine ⟨E'.startWindDown false (.error .sendStreamToClient), ?_, ?_⟩
      · simp [recv, hrun, hfree, processMessage, hdec, hproc, afterMessage]
      · simp [startWindDown, horph]
  · refine resume_alive hF hrun ?_
    rw [hb]
    rcases processFrame_alive halive hopen f ignoreBind with ⟨-, hres | ⟨-, hne⟩⟩ | ⟨-, hres⟩
    · rw [hpend] at hres
      cases hres
    · exact hne
    · rw [hpend] at hres
      cases hres
  · have hentry := (within_processFrame E f ignoreBind).entry x hx
    exact ⟨congrArg Entry.slot hentry, congrArg Entry.streams hentry⟩

/-- A stray `Push` for an unused id: it does not end a task that has just been started. -/
theorem processFrame_survives_push : (new Options.new).muxAlive = true ∧
    (new Options.new).txOpen = true ∧
    ¬ ∃ e, ((new Options.new).processFrame (Frame.newPush 7 [1]) false).2 = .ready (.error e) := by
  refine ⟨rfl, rfl, not_exists.mpr ?_⟩
  exact (processFrame_survives_iff (E := new Options.new) rfl rfl (Frame.newPush 7 [1]) false).1.mpr
    (by simp [OrphanAck, Frame.newPush])

/-- A caller asks for a stream, its `Connect` is queued, and it gives up: the `Acknowledge` of
the peer ends the task. -/
theorem cancelled_call_kills : ∃ E E' e,
    Reach step Any (new Options.new) E ∧ E.muxAlive = true ∧ E.phase = .running ∧
    (E.processFrame ⟨1, .acknowledge 512⟩ false).2 = .ready (.error e) ∧
    E.recv (.binary (finalize ⟨1, .acknowledge 512⟩)) = some E' ∧ E'.phase ≠ .running := by
  have hcheck : (run step (new Options.new) [.act (.newStreamChannel 1 [] 0),
      .act (.sendConnect 1 0), .act (.cancelStream 1 0)]).any (fun E => E.muxAlive &&
        E.phase.isRunning && (E.processFrame ⟨1, .acknowledge 512⟩ false).2.failed &&
        (E.recv (.binary (finalize ⟨1, .acknowledge 512⟩))).any (!·.phase.isRunning)) = true := by
    decide +kernel
  obtain ⟨E, hE, hfacts⟩ := (Option.any_eq_true _ _).mp hcheck
  simp only [Bool.and_eq_true] at hfacts
  obtain ⟨⟨⟨halive, hrun⟩, hfail⟩, hrecv⟩ := hfacts
  obtain ⟨E', hE', hdown⟩ := (Option.any_eq_true _ _).mp hrecv
  obtain ⟨e, he⟩ : ∃ e, (E.processFrame ⟨1, .acknowledge 512⟩ false).2 = .ready (.error e) := by
    rcases hres : (E.processFrame ⟨1, .acknowledge 512⟩ false).2 with (e | _) | _
    · exact ⟨e, rfl⟩
    · simp [hres, Poll.failed] at hfail
    · simp [hres, Poll.failed] at hfail
  refine ⟨E, E', e, reach_of_run hE (runMeets_of_forall (fun _ _ _ => trivial) _), halive,
    Phase.isRunning_iff.mp hrun, he, hE', fun hph => ?_⟩
  simp [hph, Phase.isRunning] at hdown

end Endpoint

end Penguin.Mux
