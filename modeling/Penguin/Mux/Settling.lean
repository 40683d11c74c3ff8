import Penguin.Mux.Delivery
import Penguin.Mux.Replies
import Penguin.Mux.Waiting

/-!
What is written arrives.

When the two tasks are left to themselves, they deliver frames and process notifications until
there is nothing left to do, or until a task waits for its user to make room. However these steps
are scheduled, there are not many of them. What has been written to a stream is then with its
reader.
-/

namespace Penguin.Mux

open Penguin.Lib.Transition

namespace System

variable {opts : Side → Options} {s s' : System} {x : UInt32} {e r : Side} {ls : List Label}

/-- No step of the exchange can be taken. -/
def Settled (s : System) : Prop := ∀ l, Exchange s l → s.step l = none

/-! ### Where the exchange ends -/

lemma settled_of_pending (h : s.pending = 0) : s.Settled := by
  have hside : ∀ e, s.link e = [] ∧ (s.ep e).txFrames = [] ∧ (s.ep e).droppedPorts = [] ∧
      (s.ep e).blocked = none := by
    simp only [pending] at h
    intro e
    cases e <;> refine ⟨?_, ?_, ?_, ?_⟩ <;>
      first
      | exact List.eq_nil_of_length_eq_zero (by omega)
      | exact Option.not_isSome_iff_eq_none.mp fun hsome => by simp [hsome] at h
  intro l hok
  cases l with
  | deliver e => simp [step, (hside e.peer).1]
  | act e a =>
      obtain ⟨-, hframes, hports, hblocked⟩ := hside e
      cases a with
      | sendFrame => simp [step, Endpoint.act, hframes]
      | droppedPort => simp [step, Endpoint.act, Endpoint.droppedPort, hports]
      | drainFrame => exact absurd hframes hok
      | resume => simp [step, Endpoint.act, Endpoint.resume, hblocked]
      | _ => exact hok.elim

/-- A task that runs and does not wait for room reads what there is. -/
lemma Settled.link_eq_nil (h : s.Settled) (hrun : (s.ep r).phase = .running)
    (hfree : (s.ep r).blocked = none) : s.link r.peer = [] := by
  by_contra hne
  obtain ⟨msg, rest, hlink⟩ := List.exists_cons_of_ne_nil hne
  have hstuck := h (.deliver r) trivial
  simp [step, hlink, Endpoint.recv, hrun, hfree] at hstuck

/-- A task that runs sends what it has. -/
lemma Settled.txFrames_eq_nil (h : s.Settled) (hrun : (s.ep e).phase = .running) :
    (s.ep e).txFrames = [] := by
  by_contra hne
  obtain ⟨f, rest, hframes⟩ := List.exists_cons_of_ne_nil hne
  have hstuck := h (.act e .sendFrame) trivial
  simp [step, Endpoint.act, hrun, hframes] at hstuck

lemma Settled.wire_eq_nil (h : s.Settled) (hrun : ∀ e, (s.ep e).phase = .running)
    (hfree : (s.ep r).blocked = none) : s.wire x r.peer = [] := by
  rw [wire, h.link_eq_nil (hrun r) hfree, Endpoint.queue, h.txFrames_eq_nil (hrun r.peer)]
  rfl

/-! ### What the exchange does not do -/

lemma Exchange.usedOnce {l : Label} (h : Exchange s l) : UsedOnce x s l := by
  cases l with
  | deliver e => trivial
  | act e a =>
      cases a with
      | newStreamChannel => exact h.elim
      | retryStream => exact h.elim
      | requestBind => exact h.elim
      | _ => trivial

/-- What has been written stays written. -/
lemma written_exchange {l : Label} (hok : Exchange s l) (hs : s.step l = some s') (e : Side) :
    s.written x e <+: s'.written x e := by
  obtain heq | ⟨ev, hev, hact⟩ := ep_of_step hs e
  · rw [written, written, heq]
  · have hpermits : ∀ a, ev = .act a → (Watch.record x).Permits a := by
      intro a ha id hid
      have hl := hact a ha
      subst hl
      cases a <;> first | cases hid | exact hok.elim
    have hpre : ((s.ep e).streams x).map (fun m => (m.taken, m.written)) <+:
        ((s'.ep e).streams x).map fun m => (m.taken, m.written) :=
      Endpoint.watched_of_step hev (w := Watch.record x) rfl hpermits
    have hflat : ∀ E : Endpoint, (E.streams x).flatMap (·.written) =
        ((E.streams x).map fun m => (m.taken, m.written)).flatMap Prod.snd := by
      intro E
      rw [List.flatMap_map]
    obtain ⟨rest, hrest⟩ := hpre
    rw [written, written, hflat, hflat, ← hrest, List.flatMap_append]
    exact List.prefix_append _ _

lemma written_exchanges (hrun : run step s ls = some s') (hok : RunMeets step Exchange s ls)
    (e : Side) : s.written x e <+: s'.written x e := by
  have hreach := reach_of_run hrun hok
  exact hreach.invariant (I := fun t => s.written x e <+: t.written x e) List.prefix_rfl
    fun _ _ _ hI hok hs => hI.trans (written_exchange hok hs e)

/-- What a reader without a `Reset` has of its stream when nothing is on the way. -/
lemma received_of_wire (h : Reach step (UsedOnce x) (new opts) s) (hwire : s.wire x r.peer = [])
    (hrun : (s.ep r).phase = .running) (hreset : (r, ⟨x, .reset⟩) ∉ s.log) {m : MuxStream}
    (hm : m ∈ (s.ep r).streams x) (hd : m.dropped = false) : m.received = s.written x r.peer := by
  have hone : (s.conn x r).me.streams = [m] := streams_eq_of_mem h hm
  have hheld := (View.held_singleton hone).mpr hd
  have hdel := (delivered h r).2 (.inl (List.ne_nil_of_mem hm))
  have hlog : (true, .reset) ∉ (s.conn x r).log := by
    intro hmem
    obtain ⟨⟨e, f⟩, hentry, hf⟩ := List.mem_filterMap.mp hmem
    obtain ⟨hcond, hf⟩ := Option.ite_none_right_eq_some.mp hf
    obtain ⟨he, hp⟩ := Prod.mk.inj (Option.some.inj hf)
    simp only [Bool.and_eq_true, decide_eq_true_eq] at hcond
    obtain rfl : e = r := by simpa using he
    have hf : (⟨x, .reset⟩ : Frame) = f := by rw [← hcond.1, ← hp]
    subst hf
    exact hreset hentry
  have hfin : (s.conn x r).me.finished = false := by
    simp [conn, Endpoint.view, hrun, Phase.isFinished]
  have hpending : (s.conn x r).pending = [] := by
    simp [Conn.pending, conn, hwire]
  have hwritten : (s.conn x r).peer.written = s.written x r.peer := rfl
  rw [← View.received_singleton hone, ← hwritten]
  obtain ⟨b, hslot⟩ := hdel.kept hlog hfin hheld (by simp [hone])
  cases b with
  | true => simpa [hpending] using hdel.accepting hheld (.inl hslot)
  | false => exact hdel.closed hheld hslot

/-- **Eventual delivery**: from any state of a run in which a flow is used once, the exchange comes
to an end after a bounded number of steps, however they are scheduled. If both tasks are running
then and that of a reader does not wait for room, everything that was written to the flow is with
the reader that holds its handle, unless it has processed a `Reset`. -/
theorem exchange_delivers (h : Reach step (UsedOnce x) (new opts) s)
    (hrun : run step s ls = some s') (hok : RunMeets step Exchange s ls) :
    ls.length ≤ 12 * s.pending ∧
    (s'.Settled → (∀ e, (s'.ep e).phase = .running) → ∀ r, (s'.ep r).blocked = none →
      (r, ⟨x, .reset⟩) ∉ s'.log → ∀ m ∈ (s'.ep r).streams x, m.dropped = false →
        m.received = s'.written x r.peer ∧ s.written x r.peer <+: m.received) := by
  have hbound := length_add_le_of_run (fun _ _ _ hok hs => Exchange.weight_lt hok hs) hrun hok
  have hweight := s.weight_le
  refine ⟨by omega, fun hset hphase r hfree hreset m hm hd => ?_⟩
  have hreach : Reach step (UsedOnce x) (new opts) s' :=
    h.trans ((reach_of_run hrun hok).mono fun _ _ _ hok _ => hok.usedOnce)
  have hall := received_of_wire hreach (hset.wire_eq_nil hphase hfree) (hphase r) hreset hm hd
  refine ⟨hall, ?_⟩
  rw [hall]
  exact written_exchanges hrun hok r.peer

/-- Two writes, none of which has left the queue. -/
def writtenRun : List Label :=
  openRun .a 1 ++ [.act .a (.pollWrite 1 0 [7, 8]), .act .a (.pollWrite 1 0 [9])]

def writtenExchange : List Label :=
  [.act .a .sendFrame, .deliver .b, .act .a .sendFrame, .deliver .b]

/-- Both writes are with the reader after four steps. -/
theorem exchange_delivers_writes : ∃ s s' m,
    run step (new fun _ => Options.new) writtenRun = some s ∧
    run step s writtenExchange = some s' ∧ m ∈ (s'.ep .b).streams 1 ∧
    writtenExchange.length ≤ 12 * s.pending ∧ m.received = s'.written 1 .a ∧
    s.written 1 .a = [7, 8, 9] ∧ s.written 1 .a <+: m.received := by
  have hcheck : (run step (new fun _ => Options.new) writtenRun).any (fun s =>
      (s.written 1 .a == [7, 8, 9]) && (run step s writtenExchange).any fun s' =>
        s'.pending == 0 && (s'.ep .a).phase.isRunning && (s'.ep .b).phase.isRunning &&
        (s'.ep .b).blocked == none &&
        !s'.log.contains (.b, ⟨1, .reset⟩) &&
        ((s'.ep .b).streams 1)[0]?.any fun m => !m.dropped) = true := by
    decide +kernel
  obtain ⟨s, hs, hfacts⟩ := (Option.any_eq_true _ _).mp hcheck
  simp only [Bool.and_eq_true, beq_iff_eq] at hfacts
  obtain ⟨hwritten, hfacts⟩ := hfacts
  obtain ⟨s', hs', hfacts⟩ := (Option.any_eq_true _ _).mp hfacts
  simp only [Bool.and_eq_true, beq_iff_eq, Bool.not_eq_true'] at hfacts
  obtain ⟨⟨⟨⟨⟨hpending, ha⟩, hb⟩, hfree⟩, hlog⟩, hm⟩ := hfacts
  obtain ⟨m, hm, hd⟩ := (Option.any_eq_true _ _).mp hm
  have hmem : m ∈ (s'.ep .b).streams 1 := List.mem_of_getElem? hm
  have hreach := reach_of_run hs (usedOnce_openRun .a _ (by simp [UsedOnce]))
  have hok : RunMeets step Exchange s writtenExchange :=
    runMeets_of_forall (by simp [writtenExchange, Exchange]) s
  obtain ⟨hbound, hall⟩ := exchange_delivers hreach hs' hok
  have hrun : ∀ e, (s'.ep e).phase = .running := by
    intro e
    cases e
    · exact Phase.isRunning_iff.mp ha
    · exact Phase.isRunning_iff.mp hb
  obtain ⟨hreceived, hpre⟩ := hall (settled_of_pending hpending) hrun .b hfree
    (by simpa using hlog) m hmem (by simpa using hd)
  exact ⟨s, s', m, hs, hs', hmem, hbound, hreceived, hwritten, hpre⟩

end System

end Penguin.Mux
