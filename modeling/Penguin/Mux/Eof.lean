import Penguin.Mux.Credit

/-!
The end of a stream.

A reader takes an empty slice for the end of the stream, so a frame without data must never
reach the channel of a handle. Nothing in the program filters such frames; it is up to the
user not to write an empty buffer.
-/

namespace Penguin.Mux

open View Penguin.Lib.Lists Penguin.Lib.Transition

namespace View

/-- No frame without data waits in a channel. -/
def Filled (V : View) : Prop := ∀ m ∈ V.streams, [] ∉ m.frameRx

lemma Filled.setStream {V : View} {i : ℕ} {m m' : MuxStream} (h : V.Filled)
    (hm : V.streams[i]? = some m) (hrx : ∀ d ∈ m'.frameRx, d ∈ m.frameRx ∨ d ≠ []) :
    (V.setStream i m').Filled := by
  intro n hn
  rcases List.mem_or_eq_of_mem_set hn with hn | rfl
  · exact h n hn
  · intro hmem
    exact (hrx [] hmem).elim (h m (List.mem_of_getElem? hm)) fun hne => hne rfl

lemma Filled.close {V : View} (h : V.Filled) : V.close.Filled := by
  unfold View.close
  rcases V.slot with _ | j | d | j
  · exact h
  · exact h
  · exact forall_mem_modify (f := MuxStream.disallowWrite) h (fun _ hm => hm) d.stream
  · exact h

/-- A frame without data comes from a write of nothing, or from another such frame. -/
lemma Step.filled {o : Options} {V V' : View} {ev : Ev} {sent : List Payload}
    (hs : Step o V ev sent V') (hw : ev ≠ .write []) (hr : ev ≠ .recv (.push [])) (h : V.Filled) :
    V'.Filled ∧ .push [] ∉ sent := by
  have quiet : ∀ {p : Payload}, p ≠ .push [] → .push [] ∉ V.sends p :=
    fun hne hmem => hne (mem_sends hmem).symm
  have closing : .push [] ∉ V.closeSends := by
    rcases Conn.closeSends_cases V with hc | hc <;> rw [hc]
    · simp
    · exact quiet (by simp)
  cases hs with
  | write buf hm =>
      refine ⟨h.setStream hm fun _ hd => .inl hd, ?_⟩
      have hne : buf ≠ [] := fun hb => hw (by rw [hb])
      simpa using hne.symm
  | writeFails hm => exact ⟨h.setStream hm fun _ hd => .inl hd, by simp⟩
  | shutdown hm => exact ⟨h.setStream hm fun _ hd => .inl hd, quiet (by simp)⟩
  | dequeue hm hd hb hrx =>
      refine ⟨h.setStream hm fun d hd => .inl ?_, by simp⟩
      rw [hrx]
      exact List.mem_cons_of_mem _ hd
  | dequeueAck hm hd hb hrx =>
      refine ⟨h.setStream hm fun d hd => .inl ?_, quiet (by simp)⟩
      rw [hrx]
      exact List.mem_cons_of_mem _ hd
  | consume amt hm => exact ⟨h.setStream hm fun _ hd => .inl hd, by simp⟩
  | drop d hm => exact ⟨h.setStream hm fun _ hd => by simp at hd, by simp⟩
  | reply accepted => exact ⟨h, quiet (by cases accepted <;> simp)⟩
  | dropped => exact ⟨h.close, closing⟩
  | windDown => exact ⟨h.close, by simp⟩
  | drain => exact ⟨h.close, by simp⟩
  | recvConnect p =>
      refine ⟨fun m hm => ?_, quiet (by simp)⟩
      rcases List.mem_append.mp hm with hm | hm
      · exact h m hm
      · rw [List.mem_singleton.mp hm]
        simp [newStreamShared]
  | @recvAck d n =>
      refine ⟨?_, by simp⟩
      exact forall_mem_modify (f := fun m => m.acknowledge n) h (fun _ hm => hm) d.stream
  | recvAckNew n =>
      refine ⟨fun m hm => ?_, by simp⟩
      rcases List.mem_append.mp hm with hm | hm
      · exact h m hm
      · rw [List.mem_singleton.mp hm]
        simp [newStreamShared]
  | recvReset => exact ⟨h.close, by simp⟩
  | @recvPush i m data hfin hslot hm =>
      have hne : data ≠ [] := fun hb => hr (by rw [hb])
      refine ⟨h.setStream hm fun d hd => ?_, by simp⟩
      rcases List.mem_append.mp hd with hd | hd
      · exact .inl hd
      · rw [List.mem_singleton.mp hd]
        exact .inr hne
  | recvPushFull => exact ⟨h.close, closing⟩
  | recvBindRefused p sent hfin hsent =>
      refine ⟨h, ?_⟩
      rcases hsent with rfl | rfl
      · simp
      · exact quiet (by simp)
  | connect => exact ⟨h, by simp⟩
  | bind => exact ⟨h, by simp⟩
  | recvConnectUsed => exact ⟨h, quiet (by simp)⟩
  | recvAckBogus => exact ⟨h, quiet (by simp)⟩
  | recvFinishRequested => exact ⟨h, quiet (by simp)⟩
  | recvFinishBogus => exact ⟨h, quiet (by simp)⟩
  | recvPushBogus => exact ⟨h, quiet (by simp)⟩
  | dropBind => exact ⟨h, quiet (by simp)⟩
  | _ => exact ⟨h, by simp⟩

end View

namespace Conn

/-- Neither the channels of this end nor the frames it has sent are without data. -/
def Filled (c : Conn) : Prop := c.me.Filled ∧ .push [] ∉ c.out

lemma Filled.step {c c' : Conn} {ev : Ev} (h : Filled c) (h' : Filled c.flip)
    (hw : ev ≠ .write []) (hs : Step c ev c') : Filled c' ∧ Filled c'.flip := by
  have hin : .push [] ∉ c.inn := h'.2
  cases hs with
  | own hev hs =>
      obtain ⟨hV, hsent⟩ := hs.filled hw (hev _) h.1
      exact ⟨⟨hV, by simp [h.2, hsent]⟩, h'⟩
  | @recv p rest sent V hinn hs =>
      rw [hinn, List.mem_cons, not_or] at hin
      obtain ⟨hV, hsent⟩ := hs.filled (by simp) (by simpa using Ne.symm hin.1) h.1
      exact ⟨⟨hV, by simp [h.2, hsent]⟩, h'.1, hin.2⟩

end Conn

namespace System

variable {opts : Side → Options} {x : UInt32} {s : System}

/-- No empty buffer is written to flow `x`. -/
def WritesData (x : UInt32) (_ : System) : Label → Prop
  | .act _ (.pollWrite id _ buf) => id = x → buf ≠ []
  | _ => True

lemma event_ne_write {s' : System} {e : Side} {a : Action} (h : WritesData x s (.act e a))
    (hs : s.step (.act e a) = some s') : a.event x ≠ .write [] := by
  cases a with
  | pollWrite id i buf =>
      simp only [Action.event]
      split_ifs with hid
      · simpa using h hid
      · simp
  | copyPush id i buf =>
      have hne : buf ≠ [] := by
        rintro rfl
        simp [step, Endpoint.act] at hs
      simp only [Action.event]
      split_ifs
      · simpa using hne
      · simp
  | newStreamChannel id =>
      simp only [Action.event]
      split_ifs <;> simp
  | retryStream id j id' =>
      simp only [Action.event]
      split_ifs <;> simp
  | requestBind id =>
      simp only [Action.event]
      split_ifs <;> simp
  | _ => simp [Action.event]

lemma filled (h : Reach step (WritesData x) (new opts) s) (e : Side) :
    ((s.ep e).view x).Filled := by
  -- `conn_invariant` asks for the condition of labels whether or not they can be taken
  have h' : Reach step (fun _ l => ∀ e a, l = .act e a → a.event x ≠ .write []) (new opts) s := by
    refine h.mono fun s l s' hok hs e a hl => ?_
    subst hl
    exact event_ne_write hok hs
  refine (conn_invariant (I := fun c => c.Filled ∧ c.flip.Filled)
    (K := fun _ ev => ev ≠ .write []) x ?_ ?_ ?_ ?_ ?_ ?_ h' e).1.1
  · rintro c ⟨hc, hc'⟩
    exact ⟨hc', by rwa [Conn.flip_flip]⟩
  · intro o o'
    simp [Conn.new, View.new, Conn.Filled, View.Filled, Conn.flip]
  · rintro c ev c' ⟨hc, hc'⟩ hok hs
    exact hc.step hc' hok hs
  · simp
  · simp
  · intro s e a hok
    exact hok e a rfl

lemma pollFillBuf_eof {E E' : Endpoint} {i : ℕ} (hfill : (E.view x).Filled)
    (h : E.pollFillBuf x i = some (E', .ready [])) : E.senderAlive x i = false := by
  obtain ⟨m, howns, hm⟩ := Option.map_eq_some_iff.mp h
  have hmem : m ∈ E.streams x := List.mem_of_getElem? (Endpoint.owns_eq howns).1
  have hres := congrArg Prod.snd hm
  simp only at hres
  rcases m.pollFillBuf_cases with hb | ⟨hb, hrx⟩ | ⟨next, rest, hb, hrx, hlt | hge⟩
  · rw [MuxStream.pollFillBuf_of_buf _ hb] at hres
    simp [hb] at hres
  · rw [MuxStream.pollFillBuf_of_empty _ hb hrx] at hres
    by_contra hsend
    simp [hsend] at hres
  · rw [MuxStream.pollFillBuf_of_lt _ hb hrx hlt] at hres
    exact absurd (by simpa [hrx] using Or.inl (Poll.ready.inj hres).symm) (hfill m hmem)
  · rw [MuxStream.pollFillBuf_of_ge _ hb hrx hge] at hres
    exact absurd (by simpa [hrx] using Or.inl (Poll.ready.inj hres).symm) (hfill m hmem)

/-- **The end of a stream**: on a flow that is used once and to which nothing empty is
written, no frame without data is in a channel, and a handle only reads the end of its stream
when its slot has been closed or the handle at the other end has been. -/
theorem eof_not_spurious (h : Reach step (fun s l => WritesData x s l ∧ UsedOnce x s l)
    (new opts) s) (e : Side) :
    (∀ e, ((s.ep e).streams x).length ≤ 1) ∧
    (∀ m ∈ (s.ep e).streams x, [] ∉ m.frameRx) ∧
    (∀ i E, (s.ep e).pollFillBuf x i = some (E, .ready []) →
      (∀ d, (s.ep e).flows x = some (.established d) → d.stream ≠ i) ∨
      ∃ m ∈ (s.ep e.peer).streams x, m.finishSent = true) := by
  have hdata := filled (h.mono fun _ _ _ hok _ => hok.1) e
  have honce : Reach step (UsedOnce x) (new opts) s := h.mono fun _ _ _ hok _ => hok.2
  obtain ⟨-, hflow⟩ := flowing honce e
  refine ⟨length_streams_le honce, hdata, fun i E hread => ?_⟩
  refine or_iff_not_imp_left.mpr fun hslot => ?_
  push Not at hslot
  obtain ⟨⟨j, b⟩, hslot, rfl : j = i⟩ := hslot
  have hsender := pollFillBuf_eof hdata hread
  simp only [Endpoint.senderAlive, hslot] at hsender
  obtain rfl : b = false := by simpa using hsender
  obtain ⟨m, howns, -⟩ := Option.map_eq_some_iff.mp hread
  have hmem : m ∈ (s.ep e).streams x := List.mem_of_getElem? (Endpoint.owns_eq howns).1
  have huse : (s.conn x e).InUse := .inl (List.ne_nil_of_mem hmem)
  exact ((hflow huse).2.order.closed j hslot).1

def shutdownRun : List Label :=
  openRun .a 1 ++ [.act .a (.pollWrite 1 0 [7]), .act .a (.pollShutdown 1 0), .act .a .sendFrame,
    .act .a .sendFrame, .deliver .b, .act .b (.pollRead 1 0 1), .deliver .b]

/-- The reader comes to the end of a stream that has been shut down. -/
theorem eof_not_spurious_shutdown : ∃ s E,
    run step (new fun _ => Options.new) shutdownRun = some s ∧
    (s.ep .b).pollFillBuf 1 0 = some (E, .ready []) ∧
    (s.ep .b).flows 1 = some (.established ⟨0, false⟩) ∧
    ∃ m ∈ (s.ep .a).streams 1, m.finishSent = true := by
  have hcheck : (run step (new fun _ => Options.new) shutdownRun).any (fun s =>
      ((s.ep .b).pollFillBuf 1 0).any (·.2 == .ready []) &&
      (s.ep .b).flows 1 == some (.established ⟨0, false⟩)) = true := by
    decide +kernel
  obtain ⟨s, hs, hfacts⟩ := (Option.any_eq_true _ _).mp hcheck
  simp only [Bool.and_eq_true, beq_iff_eq] at hfacts
  obtain ⟨hread, hslot⟩ := hfacts
  obtain ⟨⟨E, r⟩, hE, hr⟩ := (Option.any_eq_true _ _).mp hread
  obtain rfl : r = .ready [] := by simpa using hr
  have honce : RunMeets step (UsedOnce 1) (new fun _ => Options.new) shutdownRun :=
    usedOnce_openRun .a _ (by simp [UsedOnce])
  have hdata : ∀ l ∈ shutdownRun, ∀ s, WritesData 1 s l := by
    simp [shutdownRun, openRun, WritesData]
  have hreach := reach_of_run hs ((runMeets_of_forall hdata _).and honce)
  refine ⟨s, E, hs, hE, hslot, ?_⟩
  refine ((eof_not_spurious hreach .b).2.2 0 E hE).resolve_left fun hne => ?_
  exact hne _ hslot rfl

/-- An empty buffer is written, and the reader takes it for the end of the stream, with the
slots and the handles of both ends open. -/
theorem empty_write_is_eof : ∃ s E m,
    Reach step (UsedOnce 1) (new fun _ => Options.new) s ∧
    (s.ep .b).pollFillBuf 1 0 = some (E, .ready []) ∧
    (∀ e, (s.ep e).phase.isRunning = true ∧ (s.ep e).flows 1 = some (.established ⟨0, true⟩)) ∧
    (s.ep .a).streams 1 = [m] ∧ m.finishSent = false ∧ m.dropped = false := by
  have hcheck : (run step (new fun _ => Options.new) (openRun .a 1 ++
      [.act .a (.pollWrite 1 0 []), .act .a .sendFrame, .deliver .b])).any (fun s =>
        ((s.ep .b).pollFillBuf 1 0).any (·.2 == .ready []) &&
        [Side.a, Side.b].all (fun e => (s.ep e).phase.isRunning &&
          (s.ep e).flows 1 == some (.established ⟨0, true⟩)) &&
        ((s.ep .a).streams 1).map (fun m => m.finishSent || m.dropped) == [false]) = true := by
    decide +kernel
  obtain ⟨s, hs, hfacts⟩ := (Option.any_eq_true _ _).mp hcheck
  simp only [Bool.and_eq_true, beq_iff_eq] at hfacts
  obtain ⟨⟨hread, hopen⟩, hst⟩ := hfacts
  obtain ⟨⟨E, r⟩, hE, hr⟩ := (Option.any_eq_true _ _).mp hread
  obtain rfl : r = .ready [] := by simpa using hr
  obtain ⟨m, hm, hopen'⟩ := List.map_eq_singleton_iff.mp hst
  have hreach := reach_of_run hs (usedOnce_openRun .a _ (by simp [UsedOnce]))
  refine ⟨s, E, m, hreach, hE, fun e => ?_, hm, by simpa using hopen'⟩
  have := List.all_eq_true.mp hopen e (by cases e <;> simp)
  simpa using this

-- Why an id must not be used again: the last acknowledgement of the first stream opens the
-- second one, and the `Finish` of the first ends it, with the handle at the other end open.
example : (run step (new fun
    | .a => Options.new.setRwnd 1 (by decide)
    | .b => Options.new) (openRun .a 1 ++
    [.act .a (.pollWrite 1 0 [7]), .act .a .sendFrame, .deliver .b, .act .b (.pollRead 1 0 1),
      .act .b (.pollShutdown 1 0), .act .a (.dropStream 1 0), .act .a .droppedPort,
      .act .a (.newStreamChannel 1 [] 0), .act .a (.sendConnect 1 1), .act .b .sendFrame,
      .act .b .sendFrame, .deliver .a, .deliver .a, .act .a (.awaitStream 1 1),
      .act .a .sendFrame, .act .a .sendFrame, .deliver .b, .deliver .b])).any (fun s =>
        ((s.ep .a).pollFillBuf 1 1).any (·.2 == .ready []) &&
        (s.ep .a).flows 1 == some (.established ⟨1, false⟩) &&
        (s.ep .b).flows 1 == some (.established ⟨1, true⟩) &&
        ((s.ep .b).streams 1)[1]?.any (!·.finishSent)) = true := by
  decide +kernel

end System

end Penguin.Mux
