import Penguin.Mux.BindReply
import Penguin.Mux.Notices

/-!
How a stream is closed.

The flag `finish_sent` is shared by a handle and its slot. The user's `poll_shutdown`, the copy
loop and the task all set it, and each of them decides from the old value whether to queue a
frame: the handle a `Finish`, the task a `Reset`. The flag is never cleared, so one of these
frames is queued at most.
-/

namespace Penguin.Mux

open Penguin.Lib.Transition

/-! ### What becomes of a handle -/

namespace View

/-- Every handle is still there, closed and dropped if it was. -/
def Later (V V' : View) : Prop :=
  ∀ (i : ℕ) (m : MuxStream), V.streams[i]? = some m → ∃ m' : MuxStream, V'.streams[i]? = some m' ∧
    (m.finishSent = true → m'.finishSent = true) ∧ (m.dropped = true → m'.dropped = true)

lemma Later.of_eq {V V' : View} (h : V'.streams = V.streams) : Later V V' := by
  intro i m hm
  exact ⟨m, by rw [h, hm], id, id⟩

lemma Later.trans {V V₁ V₂ : View} (h : Later V V₁) (h' : Later V₁ V₂) : Later V V₂ := by
  intro i m hm
  obtain ⟨m₁, hm₁, hfin, hdrop⟩ := h i m hm
  obtain ⟨m₂, hm₂, hfin', hdrop'⟩ := h' i m₁ hm₁
  exact ⟨m₂, hm₂, fun hf => hfin' (hfin hf), fun hd => hdrop' (hdrop hd)⟩

lemma Later.modify {V V' : View} {i : ℕ} {f : MuxStream → MuxStream}
    (h : V'.streams = V.streams.modify i f)
    (hf : ∀ m, (m.finishSent = true → (f m).finishSent = true) ∧
      (m.dropped = true → (f m).dropped = true)) : Later V V' := by
  intro k m hm
  by_cases hk : i = k
  · subst hk
    exact ⟨f m, by simp [h, hm], hf m⟩
  · exact ⟨m, by simp [h, hk, hm], id, id⟩

lemma Later.set {V V' : View} {i : ℕ} {m m' : MuxStream} (h : V'.streams = V.streams.set i m')
    (hm : V.streams[i]? = some m) (hf : m.finishSent = true → m'.finishSent = true)
    (hd : m.dropped = true → m'.dropped = true) : Later V V' := by
  intro k n hn
  by_cases hk : i = k
  · subst hk
    obtain rfl : m = n := by simpa [hm] using hn
    have hlt := (List.getElem?_eq_some_iff.mp hm).1
    exact ⟨m', by simp [h, hlt], hf, hd⟩
  · exact ⟨n, by simp [h, hk, hn], id, id⟩

lemma Later.append {V V' : View} {m : MuxStream} (h : V'.streams = V.streams ++ [m]) :
    Later V V' := by
  intro i n hn
  have hlt := (List.getElem?_eq_some_iff.mp hn).1
  exact ⟨n, by rw [h, List.getElem?_append_left hlt, hn], id, id⟩

lemma later_close (V : View) : Later V V.close := by
  rcases hslot : V.slot with _ | j | d | j
  · exact .of_eq (by simp [close, hslot])
  · exact .of_eq (by simp [close, hslot])
  · refine .modify (i := d.stream) (f := MuxStream.disallowWrite) ?_ fun m => ⟨fun _ => rfl, id⟩
    simp [close, hslot]
  · exact .of_eq (by simp [close, hslot])

lemma later_disallow (V : View) : Later V V.disallow := by
  rcases hslot : V.slot with _ | j | d | j
  · exact .of_eq (by simp [disallow, hslot])
  · exact .of_eq (by simp [disallow, hslot])
  · refine .modify (i := d.stream) (f := MuxStream.disallowWrite) ?_ fun m => ⟨fun _ => rfl, id⟩
    simp [disallow, hslot]
  · exact .of_eq (by simp [disallow, hslot])

/-- The slot of a stream has a handle. -/
def HasHandle (V : View) : Prop :=
  ∀ d, V.slot = some (.established d) → d.stream < V.streams.length

lemma Step.later {o : Options} {V V' : View} {ev : Ev} {sent : List Payload}
    (h : Step o V ev sent V') : Later V V' := by
  cases h with
  | write buf hm hd hf hr htx => exact .set rfl hm id id
  | writeFails hm hd hf hr htx => exact .set rfl hm id id
  | shutdown hm hd hf => exact .set rfl hm (fun _ => rfl) id
  | dequeue hm hd hb hrx hlt => exact .set rfl hm id id
  | dequeueAck hm hd hb hrx hge => exact .set rfl hm id id
  | consume amt hm hd hamt => exact .set rfl hm id id
  | drop d hm hd hdrop => exact .set rfl hm id (fun _ => rfl)
  | dropped hdrops hrun => exact later_close V
  | windDown hrun => exact later_disallow V
  | drain hrun htx => exact later_close V
  | recvConnect p hfin hslot => exact .append rfl
  | recvAck n hfin hslot => exact .modify rfl fun m => ⟨id, id⟩
  | recvAckNew n hfin hslot => exact .append rfl
  | recvReset hfin => exact later_close V
  | recvPush data hfin hslot hm hd hroom => exact .set rfl hm id id
  | recvPushFull data hfin hm hd hfull => exact later_close V
  | _ => exact .of_eq rfl

lemma HasHandle.step {o : Options} {V V' : View} {ev : Ev} {sent : List Payload}
    (hV : HasHandle V) (h : Step o V ev sent V') : HasHandle V' := by
  have hlen : ∀ {d}, V.slot = some (.established d) → d.stream < V'.streams.length := by
    intro d hd
    have hlt := hV d hd
    obtain ⟨m', hm', -⟩ := h.later d.stream _ (List.getElem?_eq_getElem hlt)
    exact (List.getElem?_eq_some_iff.mp hm').1
  intro d' hd'
  cases h with
  | request | bindRequest => simp at hd'
  | dropped | drain | recvReset | recvPushFull => simp [close] at hd'
  | recvFinishBind | recvFinishRequested => simp at hd'
  | recvConnect | recvAckNew =>
      have heq : (⟨V.streams.length, true⟩ : EstablishedStreamData) = d' := by simpa using hd'
      simp [← heq]
  | @recvFinish d hfin hslot =>
      have heq : { d with sender := false } = d' := by simpa using hd'
      have hlt := hlen hslot
      rw [← heq]
      exact hlt
  | _ => exact hlen hd'

/-- The handle has its slot and is closed for writing. -/
def Shut (V : View) (i : ℕ) : Prop :=
  (∃ b, V.slot = some (.established ⟨i, b⟩)) ∧ V.streams[i]?.any (·.finishSent) = true

lemma Shut.of_modify {V V' : View} {i k : ℕ} {f : MuxStream → MuxStream} (h : V'.Shut i)
    (hslot : V'.slot = V.slot) (hst : V'.streams = V.streams.modify k f)
    (hf : ∀ m, (f m).finishSent = m.finishSent) : V.Shut i := by
  obtain ⟨hi, hany⟩ := h
  refine ⟨by rwa [← hslot], ?_⟩
  rw [hst, List.getElem?_modify] at hany
  obtain ⟨m', hm', hfin⟩ := (Option.any_eq_true _ _).mp hany
  obtain ⟨m, hm, rfl⟩ := Option.map_eq_some_iff.mp hm'
  rw [hm]
  split_ifs at hfin
  · simpa [hf] using hfin
  · exact hfin

lemma Shut.of_set {V V' : View} {i k : ℕ} {m m' : MuxStream} (h : V'.Shut i)
    (hslot : V'.slot = V.slot) (hst : V'.streams = V.streams.set k m')
    (hm : V.streams[k]? = some m) (hf : m'.finishSent = m.finishSent) : V.Shut i := by
  obtain ⟨hi, hany⟩ := h
  refine ⟨by rwa [← hslot], ?_⟩
  by_cases hk : k = i
  · subst hk
    have hlt := (List.getElem?_eq_some_iff.mp hm).1
    have hset : (V.streams.set k m')[k]? = some m' := by simp [hlt]
    rw [hst, hset] at hany
    rw [hm]
    simpa [hf] using hany
  · simpa [hst, hk] using hany

/-- While the task runs, a handle that has its slot is closed for writing by a `Finish`. -/
lemma Step.shut {o : Options} {V V' : View} {ev : Ev} {sent : List Payload}
    (h : Step o V ev sent V') (htx : V.running = true → V.txOpen = true)
    (hrun : V'.running = true) {i : ℕ} (hshut : V'.Shut i) : V.Shut i ∨ .finish ∈ sent := by
  obtain ⟨⟨b, hb⟩, hfin⟩ := id hshut
  cases h with
  | request | bindRequest => simp at hb
  | dropped | drain | recvReset | recvPushFull => simp [close] at hb
  | recvFinishBind | recvFinishRequested => simp at hb
  | windDown => simp at hrun
  | shutdown hm hd hf =>
      have hopen : V.txOpen = true := htx hrun
      exact .inr (by simp [sends, hopen])
  | recvConnect p hfin' hslot =>
      obtain ⟨rfl, -⟩ : V.streams.length = i ∧ true = b := by simpa using hb
      simp [newStreamShared] at hfin
  | recvAckNew n hfin' hslot =>
      obtain ⟨rfl, -⟩ : V.streams.length = i ∧ true = b := by simpa using hb
      simp [newStreamShared] at hfin
  | recvAck n hfin' hslot => exact .inl (hshut.of_modify rfl rfl fun _ => rfl)
  | @recvFinish d hfin' hslot =>
      obtain ⟨hd, -⟩ : d.stream = i ∧ false = b := by simpa using hb
      exact .inl ⟨⟨d.sender, by rw [hslot, ← hd]⟩, hfin⟩
  | write buf hm hd hf hr htx => exact .inl (hshut.of_set rfl rfl hm rfl)
  | writeFails hm hd hf hr htx => exact .inl (hshut.of_set rfl rfl hm rfl)
  | dequeue hm hd hb hrx hlt => exact .inl (hshut.of_set rfl rfl hm rfl)
  | dequeueAck hm hd hb hrx hge => exact .inl (hshut.of_set rfl rfl hm rfl)
  | consume amt hm hd hamt => exact .inl (hshut.of_set rfl rfl hm rfl)
  | drop d hm hd hdrop => exact .inl (hshut.of_set rfl rfl hm rfl)
  | recvPush data hfin' hslot hm hd hroom => exact .inl (hshut.of_set rfl rfl hm rfl)
  | _ => exact .inl ⟨⟨b, hb⟩, hfin⟩

lemma Step.running {o : Options} {V V' : View} {ev : Ev} {sent : List Payload}
    (h : Step o V ev sent V') (hrun : V'.running = true) :
    V.running = true ∧ V'.txOpen = V.txOpen := by
  cases h with
  | windDown => simp at hrun
  | closeQueue hrun' => simp [hrun'] at hrun
  | _ => exact ⟨hrun, rfl⟩

lemma Run.running {o : Options} {V V' : View} {ev : Ev} {sent : List Payload}
    (h : Run o V ev sent V') (hrun : V'.running = true) : V.running = true := by
  induction h with
  | idle V => exact hrun
  | cons hs _ ih => exact (hs.running (ih hrun)).1

lemma Run.shut {o : Options} {V V' : View} {ev : Ev} {sent : List Payload}
    (h : Run o V ev sent V') (htx : V.running = true → V.txOpen = true)
    (hrun : V'.running = true) {i : ℕ} (hshut : V'.Shut i) : V.Shut i ∨ .finish ∈ sent := by
  induction h with
  | idle V => exact .inl hshut
  | @cons V V₁ V₂ ev out₁ out₂ hs ht ih =>
      have hrun₁ := ht.running hrun
      have htx₁ : V₁.running = true → V₁.txOpen = true := by
        intro _
        obtain ⟨hrunV, htx'⟩ := hs.running hrun₁
        rw [htx', htx hrunV]
      rcases ih htx₁ hrun hshut with hshut₁ | hmem
      · exact (hs.shut htx hrun₁ hshut₁).imp_right (List.mem_append_left _)
      · exact .inr (List.mem_append_right _ hmem)

end View

namespace Endpoint

variable {E E' : Endpoint} {e : Event}

/-- A step of the endpoint on one of its flows. -/
lemma view_relation {T : View → View → Prop} (hrefl : ∀ V, T V V)
    (htrans : ∀ {V₁ V₂ V₃}, T V₁ V₂ → T V₂ V₃ → T V₁ V₃)
    (hstep : ∀ {o V ev sent V'}, View.Step o V ev sent V' → T V V') (h : E.step e = some E')
    (x : UInt32) : T (E.view x) (E'.view x) := by
  have hrun : ∀ {o V ev sent V'}, View.Run o V ev sent V' → T V V' := by
    intro o V ev sent V' hrun
    induction hrun with
    | idle V => exact hrefl V
    | cons hs _ ih => exact htrans (hstep hs) ih
  obtain ⟨ev, hr⟩ := step_run x h
  exact hrun hr

lemma later_step (h : E.step e = some E') (x : UInt32) : (E.view x).Later (E'.view x) :=
  view_relation (fun _ => .of_eq rfl) (fun h h' => h.trans h') (fun hs => hs.later) h x

lemma hasHandle {opts : Options} {K : Endpoint → Event → Prop} (h : Reach step K (new opts) E)
    (x : UInt32) : (E.view x).HasHandle := by
  refine view_invariant (I := View.HasHandle) (K := fun _ _ => True) x ?_ ?_ (fun _ => trivial)
    (fun _ _ => trivial) (fun _ => trivial) h
  · intro d hd
    cases hd
  · exact fun hV _ hs => hV.step hs

/-! ### The steps that queue frames for a handle -/

/-- The handle is closed for writing. -/
def finished (E : Endpoint) (id : UInt32) (i : ℕ) : Bool :=
  (E.streams id)[i]?.any (·.finishSent)

lemma finished_step (h : E.step e = some E') {id : UInt32} {i : ℕ}
    (hf : E.finished id i = true) : E'.finished id i = true := by
  obtain ⟨m, hm, hfin⟩ := (Option.any_eq_true _ _).mp hf
  obtain ⟨m', hm', hkeep, -⟩ := later_step h id i m hm
  have hm'' : (E'.streams id)[i]? = some m' := hm'
  simp [finished, hm'', hkeep hfin]

/-- A write to a handle that is closed for writing. -/
lemma pollWrite_of_finished {id : UInt32} {i : ℕ} {m : MuxStream} (hown : E.owns id i = some m)
    (hf : m.finishSent = true) (buf : Bytes) :
    E.pollWrite id i buf = some (E.update id i m [], .ready (.error .brokenPipe)) := by
  simp [pollWrite, hown, MuxStream.pollWrite, MuxStream.pollObtainWritePermission, hf]

lemma pollShutdown_cases {id : UInt32} {i : ℕ} {m : MuxStream} (hown : E.owns id i = some m) :
    (m.finishSent = true ∧ E.pollShutdown id i = some (E.update id i m [], .ok ())) ∨
    (m.finishSent = false ∧ ∃ r, E.pollShutdown id i =
      some (E.update id i { m with finishSent := true }
        (if E.txOpen then [Frame.newFinish id] else []), r)) := by
  cases hf : m.finishSent with
  | true => exact .inl ⟨rfl, by simp [pollShutdown, hown, MuxStream.shutdownInner, hf]⟩
  | false =>
      refine .inr ⟨rfl, ?_⟩
      cases hopen : E.phase.isOpen
      · refine ⟨.error .brokenPipe, ?_⟩
        simp [pollShutdown, hown, MuxStream.shutdownInner, hf, hopen]
      · refine ⟨.ok (), ?_⟩
        simp [pollShutdown, hown, MuxStream.shutdownInner, hf, hopen]

/-- A step that queues frames for writes of a handle is a write. -/
lemma origin_write {id : UInt32} {i k : ℕ} (ho : E.origin k e = .write id i) :
    ∃ buf, e = .act (.pollWrite id i buf) ∨ e = .act (.copyPush id i buf) := by
  have hclose : ∀ x, E.closeOrigin x ≠ .write id i := by
    intro x
    unfold closeOrigin
    split <;> simp
  cases e with
  | act a =>
      cases a with
      | pollWrite id' i' buf =>
          obtain ⟨rfl, rfl⟩ : id' = id ∧ i' = i := by simpa [origin] using ho
          exact ⟨buf, .inl rfl⟩
      | copyPush id' i' buf =>
          obtain ⟨rfl, rfl⟩ : id' = id ∧ i' = i := by simpa [origin] using ho
          exact ⟨buf, .inr rfl⟩
      | droppedPort =>
          simp only [origin] at ho
          split at ho
          · split_ifs at ho
            exact absurd ho (hclose _)
          · cases ho
      | _ => simp [origin] at ho
  | recv msg =>
      cases msg with
      | binary data =>
          simp only [origin] at ho
          split at ho
          · split_ifs at ho
            exact absurd ho (hclose _)
          · cases ho
      | _ => simp [origin] at ho

/-- Only an open handle queues a `Push`. -/
lemma queued_write {id : UInt32} {i : ℕ} (k : ℕ) (h : E.step e = some E')
    (ho : E.origin k e = .write id i) (hq : E.queued e E' ≠ []) : E.finished id i = false := by
  obtain ⟨buf, he⟩ := origin_write ho
  have hwrite : ∃ r, E.pollWrite id i buf = some (E', r) := by
    rcases he with rfl | rfl
    · simp only [step, act, Option.map_map] at h
      obtain ⟨⟨F, r⟩, hF, rfl⟩ := Option.map_eq_some_iff.mp h
      exact ⟨r, hF⟩
    · simp only [step, act] at h
      split_ifs at h
      · cases h
      · rw [Option.map_map] at h
        obtain ⟨⟨F, r⟩, hF, rfl⟩ := Option.map_eq_some_iff.mp h
        exact ⟨r, hF⟩
  have hbefore : E.before e = E := by rcases he with rfl | rfl <;> rfl
  obtain ⟨r, hwrite⟩ := hwrite
  obtain ⟨m, hown, -⟩ := Option.map_eq_some_iff.mp hwrite
  obtain ⟨hm, -, -⟩ := owns_eq hown
  by_contra hfin
  have hf : m.finishSent = true := by simpa [finished, hm] using hfin
  rw [pollWrite_of_finished hown hf] at hwrite
  obtain ⟨rfl, -⟩ := Prod.mk.inj (Option.some.inj hwrite)
  simp [queued, hbefore, update, modifyStream] at hq

/-- What closing the slot of a handle queues. -/
lemma queued_closePort {id : UInt32} {i : ℕ} (hi : E.handleOf id = some i)
    (hV : (E.view id).HasHandle) (hq : (E.closePort id false).txFrames ≠ E.txFrames) :
    (E.closePort id false).txFrames = E.txFrames ++ [finalize (Frame.newReset id)] ∧
      E.finished id i = false ∧ (E.closePort id false).finished id i = true := by
  unfold handleOf at hi
  split at hi
  case h_2 => cases hi
  case h_1 d hslot =>
    obtain rfl := Option.some.inj hi
    obtain ⟨m, hm⟩ : ∃ m, (E.streams id)[d.stream]? = some m :=
      ⟨_, List.getElem?_eq_getElem (hV d hslot)⟩
    have hfin : (E.closePort id false).finished id d.stream = true := by
      have hst : (E.closePort id false).streams id = (E.view id).close.streams :=
        congrArg View.streams (view_closePort false)
      have hslot' : (E.view id).slot = some (.established d) := hslot
      have hm' : (E.view id).streams[d.stream]? = some m := hm
      simp [finished, hst, View.close, hslot', hm', MuxStream.disallowWrite]
    refine ⟨?_, ?_, hfin⟩
    · simp only [closePort, hslot, closePortLocal] at hq ⊢
      split_ifs at hq ⊢
      · unfold send at hq ⊢
        split_ifs at hq ⊢
        · rfl
        · exact absurd rfl hq
      · exact absurd rfl hq
    · by_contra hf
      have hf' : m.finishSent = true := by simpa [finished, hm] using hf
      simp [closePort, hslot, closePortLocal, setSlot, modifyStream, hm, hf'] at hq

/-- A step that queues the `Finish` of a handle is a shutdown. -/
lemma origin_shutdown {id : UInt32} {i k : ℕ} (ho : E.origin k e = .shutdown id i) :
    e = .act (.pollShutdown id i) := by
  have hclose : ∀ x, E.closeOrigin x ≠ .shutdown id i := by
    intro x
    unfold closeOrigin
    split <;> simp
  cases e with
  | act a =>
      cases a with
      | pollShutdown id' i' =>
          obtain ⟨rfl, rfl⟩ : id' = id ∧ i' = i := by simpa [origin] using ho
          rfl
      | droppedPort =>
          simp only [origin] at ho
          split at ho
          · split_ifs at ho
            exact absurd ho (hclose _)
          · cases ho
      | _ => simp [origin] at ho
  | recv msg =>
      cases msg with
      | binary data =>
          simp only [origin] at ho
          split at ho
          · split_ifs at ho
            exact absurd ho (hclose _)
          · cases ho
      | _ => simp [origin] at ho

/-- What makes a `Finish`. -/
lemma makes_finish {o : Origin} {x : UInt32} (h : o.Makes ⟨x, .finish⟩) :
    (∃ i, o = .shutdown x i) ∨ ∃ i, o = .request x i := by
  cases o with
  | shutdown id i =>
      obtain ⟨rfl, -⟩ := Frame.mk.inj h
      exact .inl ⟨i, rfl⟩
  | request id i =>
      rcases h with h | h
      · obtain ⟨rfl, -⟩ := Frame.mk.inj h
        exact .inr ⟨i, rfl⟩
      · cases h
  | _ => simp [Origin.Makes] at h

lemma shut_pollShutdown {x : UInt32} {i i' : ℕ} (hne : i' ≠ i)
    (h : E.step (.act (.pollShutdown x i')) = some E') (hshut : (E'.view x).Shut i) :
    (E.view x).Shut i := by
  simp only [step, act, Option.map_map] at h
  obtain ⟨⟨F, r⟩, hF, rfl⟩ := Option.map_eq_some_iff.mp h
  obtain ⟨m, hown, hres⟩ := Option.map_eq_some_iff.mp hF
  obtain ⟨hm, -, -⟩ := owns_eq hown
  obtain ⟨hslot, hfin⟩ := hshut
  obtain ⟨rfl, -⟩ := Prod.mk.inj hres
  rw [Function.comp_apply, view_update _ _ hm] at hslot hfin
  exact ⟨hslot, by simpa [View.setStream, hne] using hfin⟩

lemma running_of_step (h : E.step e = some E') (hrun : E'.phase = .running) :
    E.phase = .running := by
  obtain ⟨ev, hr⟩ := step_run 0 h
  exact Phase.isRunning_iff.mp (hr.running (Phase.isRunning_iff.mpr hrun))

/-- While the task runs, only its own shutdown closes a handle that has its slot. -/
lemma shut_of_step {x : UInt32} {i : ℕ} (h : E.step e = some E') (hrun : E'.phase = .running)
    (hshut : (E'.view x).Shut i) : (E.view x).Shut i ∨
      (e = .act (.pollShutdown x i) ∧ E.queued e E' ≠ []) := by
  obtain ⟨ev, hr⟩ := step_run x h
  have hrun' : (E'.view x).running = true := by simp [view, hrun, Phase.isRunning]
  have hphase := running_of_step h hrun
  have htx : (E.view x).txOpen = true := by simp [view, txOpen, hphase, Phase.isOpen]
  rcases hr.shut (fun _ => htx) hrun' hshut with hold | hmem
  · exact .inl hold
  obtain ⟨bytes, hbytes, hfinish⟩ := List.mem_filterMap.mp hmem
  obtain ⟨fs, hfs, hmakes⟩ := (updates_step h 0).queued
  have hqueued : E.queued e E' = fs.map finalize := by simp [queued, hfs]
  rw [hqueued] at hbytes
  obtain ⟨f, hf, rfl⟩ := List.mem_map.mp hbytes
  have hframe : f = ⟨x, .finish⟩ := by
    cases hdg : f.payload.isDatagram with
    | true => simp [onFlow_finalize_datagram x hdg] at hfinish
    | false =>
        rw [onFlow_finalize x hdg] at hfinish
        split_ifs at hfinish with hid
        obtain ⟨id, p⟩ := f
        obtain rfl : id = x := hid
        obtain rfl := Option.some.inj hfinish
        rfl
  rw [hframe] at hf
  rcases makes_finish (hmakes _ hf) with ⟨i', ho⟩ | ⟨i', ho⟩
  · obtain rfl := origin_shutdown ho
    by_cases hi : i' = i
    · subst hi
      exact .inr ⟨rfl, by simpa [hqueued] using List.ne_nil_of_mem hf⟩
    · exact .inl (shut_pollShutdown hi h hshut)
  · -- bind requests share nothing with handles
    have hans : (answerOf x i' e).isSome := Recorded.origin_eq_request.mp ho
    obtain ⟨accepted, hans⟩ := Option.isSome_iff_exists.mp hans
    rcases Recorded.answerOf_eq_some hans with rfl | rfl
    · by_cases hown : E.ownsBind x i' = true
      · obtain rfl : E.reply x accepted = E' := by simpa [step, act, hown] using h
        exact .inl (by simpa [reply] using hshut)
      · simp [step, act, hown] at h
    · rw [← hqueued, Recorded.queued_dropBind h] at hbytes
      have hreset : onFlow x (replyFrame x false) = some .reset := by
        simpa [replyFrame, Frame.newReset] using onFlow_finalize x (f := Frame.newReset x) rfl
      split_ifs at hbytes
      · rw [List.mem_singleton.mp hbytes, hreset] at hfinish
        cases hfinish
      · simp at hbytes

lemma dispatch_full {id : UInt32} {bytes : Bytes}
    (h : E.dispatch id bytes = (E', some (.error .full))) : E' = E := by
  unfold dispatch at h
  split at h
  · split at h
    · split_ifs at h
      · simp at h
      · simp at h
      · exact (Prod.mk.inj h).1.symm
    · simp at h
  · simp at h

/-- A step that closes the slot of a handle. -/
lemma origin_close {id : UInt32} {i k : ℕ} (h : E.step e = some E')
    (ho : E.origin k e = .close id i) :
    (E.before e).handleOf id = some i ∧ E' = (E.before e).closePort id false := by
  have hclose : ∀ x, E.closeOrigin x = .close id i → x = id ∧ E.handleOf id = some i := by
    intro x hx
    unfold closeOrigin at hx
    split at hx
    case h_1 i' hi' =>
      obtain ⟨rfl, rfl⟩ : x = id ∧ i' = i := by simpa using hx
      exact ⟨rfl, hi'⟩
    case h_2 => cases hx
  cases e with
  | act a =>
      cases a with
      | droppedPort =>
          obtain ⟨⟨F, out⟩, hact, rfl⟩ := Option.map_eq_some_iff.mp h
          cases acts hact with
          | droppedZero hrun hports hzero => simp [origin, hports, hzero] at ho
          | droppedPort hrun hports hid =>
              obtain ⟨rfl, hi⟩ := hclose _ (by simpa [origin, hports, hid] using ho)
              exact ⟨hi, by simp [before, popped, hports]⟩
      | _ => simp [origin] at ho
  | recv msg =>
      cases msg with
      | binary data =>
          simp only [origin] at ho
          split at ho
          case h_2 => cases ho
          case h_1 id' bytes hdec =>
            split_ifs at ho with hfull
            obtain ⟨rfl, hi⟩ := hclose _ ho
            refine ⟨hi, ?_⟩
            have hframe : E.processFrame ⟨id', .push bytes⟩ =
                fun _ => (E.closePort id' false, .ready (.ok ())) := by
              funext ignoreBind
              rcases hres : E.dispatch id' bytes with ⟨F, r⟩
              rw [hres] at hfull
              obtain rfl : r = some (.error .full) := hfull
              obtain rfl := dispatch_full hres
              simp only [processFrame, hres]
            simp only [step, recv, processMessage, hdec, hframe, afterMessage] at h
            split at h
            · split_ifs at h
              exact (Option.some.inj h).symm
            · exact (Option.some.inj h).symm
            · cases h
      | _ => simp [origin] at ho

/-- The notification of an open handle that has its slot makes the task queue a `Reset`. -/
lemma queued_droppedPort {n : Notice} {rest : List Notice} {i : ℕ} (k : ℕ)
    (h : E.step (.act .droppedPort) = some E') (hports : E.droppedPorts = n :: rest)
    (hid : n.id ≠ 0) (hi : E.handleOf n.id = some i) (hopen : E.finished n.id i = false) :
    E.origin k (.act .droppedPort) = .close n.id i ∧
      E.queued (.act .droppedPort) E' = [finalize (Frame.newReset n.id)] := by
  refine ⟨by simp [origin, hports, hid, closeOrigin, hi], ?_⟩
  obtain ⟨⟨F, out⟩, hact, rfl⟩ := Option.map_eq_some_iff.mp h
  cases acts hact with
  | droppedZero hrun hports' hzero =>
      obtain ⟨rfl, -⟩ := List.cons.inj (hports'.symm.trans hports)
      exact absurd hzero hid
  | @droppedPort n' rest' hrun hports' =>
      obtain ⟨rfl, rfl⟩ := List.cons.inj (hports'.symm.trans hports)
      unfold handleOf at hi
      split at hi
      case h_2 => cases hi
      case h_1 d hslot =>
        obtain rfl := Option.some.inj hi
        have hfin : (E.streams n'.id)[d.stream]?.any (·.finishSent) = false := hopen
        simp [queued, before, popped, closePort, hslot, closePortLocal, setSlot, modifyStream, hfin,
          send, txOpen, hrun, Phase.isOpen]

/-- A `Finish` or a closing `Reset` is queued for an open handle, which it closes. -/
lemma queued_closing {id : UInt32} {i : ℕ} (k : ℕ) (h : E.step e = some E')
    (hV : (E.view id).HasHandle)
    (ho : E.origin k e = .shutdown id i ∨ E.origin k e = .close id i)
    (hq : E.queued e E' ≠ []) :
    (E.queued e E').length = 1 ∧ E.finished id i = false ∧ E'.finished id i = true := by
  rcases ho with ho | ho
  · obtain rfl := origin_shutdown ho
    simp only [step, act, Option.map_map] at h
    obtain ⟨⟨F, r⟩, hF, rfl⟩ := Option.map_eq_some_iff.mp h
    obtain ⟨m, hown, -⟩ := Option.map_eq_some_iff.mp hF
    obtain ⟨hm, -, -⟩ := owns_eq hown
    have hlt := (List.getElem?_eq_some_iff.mp hm).1
    rcases pollShutdown_cases hown with ⟨-, heq⟩ | ⟨hf, r', heq⟩
    · rw [hF] at heq
      obtain ⟨rfl, -⟩ := Prod.mk.inj (Option.some.inj heq)
      simp [queued, before, popped, update, modifyStream] at hq
    · rw [hF] at heq
      obtain ⟨rfl, -⟩ := Prod.mk.inj (Option.some.inj heq)
      by_cases hopen : E.txOpen = true
      · have hqueue : ∀ g, ((E.modifyStream id i g).send (Frame.newFinish id)).txFrames =
            E.txFrames ++ [finalize (Frame.newFinish id)] := by
          intro g
          have hopen' : (E.modifyStream id i g).txOpen = true := hopen
          simp only [send, if_pos hopen']
          rfl
        refine ⟨?_, by simp [finished, hm, hf], ?_⟩
        · simp [queued, before, popped, update, hopen, hqueue]
        · simp [finished, update, hopen, streams_send, modifyStream, hlt]
      · simp [queued, before, popped, update, hopen, modifyStream] at hq
  · obtain ⟨hi, rfl⟩ := origin_close h ho
    have hflows : (E.before e).flows = E.flows := by
      cases e with
      | act a => cases a <;> rfl
      | recv msg => rfl
    have hstreams : (E.before e).streams = E.streams := by
      cases e with
      | act a => cases a <;> rfl
      | recv msg => rfl
    have hV' : ((E.before e).view id).HasHandle := by
      intro d hd
      have hd' : E.flows id = some (.established d) := by
        rw [← hflows]
        exact hd
      have hlt : d.stream < (E.streams id).length := hV d hd'
      rwa [← hstreams] at hlt
    have hfin : (E.before e).finished id i = E.finished id i := by
      rw [finished, hstreams, finished]
    have hne : ((E.before e).closePort id false).txFrames ≠ (E.before e).txFrames := by
      intro heq
      simp [queued, heq] at hq
    obtain ⟨hframes, hopen, hclosed⟩ := queued_closePort hi hV' hne
    exact ⟨by simp [queued, hframes], by rwa [← hfin], hclosed⟩

end Endpoint

/-! ### The record -/

namespace Recorded

variable {R R' : Recorded} {e : Endpoint.Event} {id : UInt32} {i : ℕ}

/-- What the record says about the end of a stream. -/
structure Discipline (R : Recorded) (id : UInt32) (i : ℕ) : Prop where
  finished : ∀ entry ∈ R.sent, entry.1 = .shutdown id i ∨ entry.1 = .close id i →
    R.ep.finished id i = true
  count : R.sent.countP (fun entry => entry.1 = .shutdown id i ∨ entry.1 = .close id i) ≤ 1
  order : R.sent.Pairwise fun a b =>
    a.1 = .shutdown id i ∨ a.1 = .close id i → b.1 ≠ .write id i

lemma Discipline.step (h : R.Discipline id i) (hV : (R.ep.view id).HasHandle)
    (hs : R.step e = some R') : R'.Discipline id i := by
  obtain ⟨hep, hsent⟩ := step_eq hs
  set o := R.ep.origin R.seen e with ho
  set new := (R.ep.queued e R'.ep).map fun f => (o, f) with hnew
  have hmem : ∀ entry ∈ new, entry.1 = o ∧ R.ep.queued e R'.ep ≠ [] := by
    intro entry hentry
    obtain ⟨f, hf, rfl⟩ := List.mem_map.mp hentry
    exact ⟨rfl, List.ne_nil_of_mem hf⟩
  by_cases hclose : o = .shutdown id i ∨ o = .close id i
  · by_cases hq : R.ep.queued e R'.ep = []
    · have hnil : new = [] := by simp [hnew, hq]
      rw [hnil, List.append_nil] at hsent
      refine ⟨fun entry hentry hor => ?_, by rw [hsent]; exact h.count, by rw [hsent]; exact h.order⟩
      rw [hsent] at hentry
      exact Endpoint.finished_step hep (h.finished entry hentry hor)
    · obtain ⟨hlen, hopen, hfin⟩ := Endpoint.queued_closing R.seen hep hV hclose hq
      -- so nothing of the kind is in the record yet
      have hnone : ∀ entry ∈ R.sent, ¬ (entry.1 = .shutdown id i ∨ entry.1 = .close id i) := by
        intro entry hentry hor
        simp [h.finished entry hentry hor] at hopen
      refine ⟨fun _ _ _ => hfin, ?_, ?_⟩
      · have hzero : R.sent.countP
            (fun entry => entry.1 = .shutdown id i ∨ entry.1 = .close id i) = 0 :=
          List.countP_eq_zero.mpr fun entry hentry => by simpa using hnone entry hentry
        have hnew_le := List.countP_le_length (l := new)
          (p := fun entry => entry.1 = .shutdown id i ∨ entry.1 = .close id i)
        have hnew_len : new.length = 1 := by simp [hnew, hlen]
        rw [hsent, List.countP_append]
        omega
      · rw [hsent, List.pairwise_append]
        refine ⟨h.order, ?_, fun a ha b hb hor => absurd hor (hnone a ha)⟩
        obtain ⟨f, hf⟩ := List.length_eq_one_iff.mp hlen
        simp [hnew, hf]
  · refine ⟨fun entry hentry hor => ?_, ?_, ?_⟩
    · rw [hsent] at hentry
      rcases List.mem_append.mp hentry with hentry | hentry
      · exact Endpoint.finished_step hep (h.finished entry hentry hor)
      · rw [(hmem entry hentry).1] at hor
        exact absurd hor hclose
    · rw [hsent, List.countP_append]
      have hzero : new.countP
          (fun entry => entry.1 = .shutdown id i ∨ entry.1 = .close id i) = 0 := by
        refine List.countP_eq_zero.mpr fun entry hentry => ?_
        rw [(hmem entry hentry).1]
        simpa using hclose
      rw [hzero]
      exact h.count
    · rw [hsent, List.pairwise_append]
      refine ⟨h.order, ?_, fun a ha b hb hor hw => ?_⟩
      · refine List.pairwise_of_forall_mem_list fun a ha b hb hor => ?_
        rw [(hmem a ha).1] at hor
        exact absurd hor hclose
      · obtain ⟨hb, hq⟩ := hmem b hb
        rw [hb] at hw
        have hopen := Endpoint.queued_write R.seen hep hw hq
        simp [h.finished a ha hor] at hopen

lemma discipline {opts : Options} (h : Reach step Any (new opts) R) (id : UInt32) (i : ℕ) :
    R.Discipline id i := by
  induction h with
  | start => exact ⟨by simp [new], by simp [new], by simp [new]⟩
  | @next R R' e hreach _ hs ih =>
      have hep : Reach Endpoint.step Any (.new opts) R.ep := reach_ep hreach
      exact ih.step (Endpoint.hasHandle hep id) hs

/-- While the task runs, a handle that has its slot and is closed for writing has queued its
`Finish`. -/
lemma shutdown_mem {opts : Options} (h : Reach step Any (new opts) R)
    (hrun : R.ep.phase = .running) (hshut : (R.ep.view id).Shut i) :
    ∃ f, (.shutdown id i, f) ∈ R.sent := by
  induction h with
  | start => simp [View.Shut, new, Endpoint.new, Endpoint.view] at hshut
  | @next R R' e _ _ hs ih =>
      obtain ⟨hep, hsent⟩ := step_eq hs
      rcases Endpoint.shut_of_step hep hrun hshut with hold | ⟨rfl, hq⟩
      · obtain ⟨f, hf⟩ := ih (Endpoint.running_of_step hep hrun) hold
        exact ⟨f, by rw [hsent]; exact List.mem_append_left _ hf⟩
      · obtain ⟨f, hf⟩ := List.exists_mem_of_ne_nil _ hq
        refine ⟨f, ?_⟩
        rw [hsent]
        exact List.mem_append_right _ (List.mem_map.mpr ⟨f, hf, rfl⟩)

lemma finished_reach (h : Reach step Any R R') (hf : R.ep.finished id i = true) :
    R'.ep.finished id i = true := by
  induction h with
  | start => exact hf
  | next _ _ hs ih => exact Endpoint.finished_step (step_eq hs).1 ih

/-- **The end of a stream**: whatever the user, the copy loop, the peer and the task do, at
most one `Finish` or closing `Reset` is queued for a handle, no `Push` is queued after its
`Finish`, and once `finish_sent` is set every write fails and queues nothing. -/
theorem close_discipline {opts : Options} (h : Reach step Any (new opts) R) (id : UInt32) (i : ℕ) :
    R.sent.countP (fun entry => entry.1 = .shutdown id i ∨ entry.1 = .close id i) ≤ 1 ∧
    (R.sent.Pairwise fun a b => a.1 = .shutdown id i → b.1 ≠ .write id i) ∧
    (∀ entry ∈ R.sent, ∃ f, entry.2 = Endpoint.finalize f ∧ entry.1.Makes f) ∧
    (R.ep.finished id i = true → ∀ R' m buf, Reach step Any R R' → R'.ep.owns id i = some m →
      ∃ E', R'.ep.pollWrite id i buf = some (E', .ready (.error .brokenPipe)) ∧
        E'.txFrames = R'.ep.txFrames) := by
  obtain ⟨-, hcount, horder⟩ := discipline h id i
  refine ⟨hcount, horder.imp fun hab hsd => hab (.inl hsd), sent_makes h,
    fun hf R' m buf hreach hown => ?_⟩
  obtain ⟨hm, -, -⟩ := Endpoint.owns_eq hown
  have hfin : m.finishSent = true := by
    simpa [Endpoint.finished, hm] using finished_reach hreach hf
  exact ⟨_, Endpoint.pollWrite_of_finished hown hfin buf, rfl⟩

/-- The peer opens a stream; the user writes to it, shuts it down and drops it, and the task
reads the notification. -/
def finishRun : List Endpoint.Event :=
  [.recv (.binary (Endpoint.finalize (Frame.newConnect [] 0 1 512))), .act .acceptStreamChannel,
    .act (.pollWrite 1 0 [7]), .act (.pollShutdown 1 0), .act (.dropStream 1 0), .act .droppedPort]

/-- The `Finish` is the last frame of the stream. -/
theorem close_discipline_finish : ∃ R, run step (new Options.new) finishRun = some R ∧
    R.sent.map (·.1) = [.answer 0, .write 1 0, .shutdown 1 0] ∧
    R.sent.countP (fun entry => entry.1 = .shutdown 1 0 ∨ entry.1 = .close 1 0) ≤ 1 := by
  have hrun : (run step (new Options.new) finishRun).any
      (fun R => R.sent.map (·.1) = [.answer 0, .write 1 0, .shutdown 1 0]) = true := by
    decide +kernel
  obtain ⟨R, hR, hsent⟩ := (Option.any_eq_true _ _).mp hrun
  have hreach := reach_of_run hR (runMeets_of_forall (fun _ _ _ => trivial) _)
  exact ⟨R, hR, of_decide_eq_true hsent, (close_discipline hreach 1 0).1⟩

end Recorded

end Penguin.Mux
