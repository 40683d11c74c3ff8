import Penguin.Mux.Updates

/-!
The notifications of dropped handles.

A handle that is dropped, and the `Multiplexor` itself, tell the task by sending a flow id
through one channel: zero stands for the `Multiplexor`, and any other id for whatever the map
holds under it when the notification is read. Local ids are never zero, but a peer may choose
that for the stream it opens; and an id can have passed to another stream in between.

The peer may send anything here, so this is about one endpoint and any messages.
-/

namespace Penguin.Mux

open Penguin.Lib.Transition Penguin.Lib.Lists

namespace Endpoint

/-! ### Where notifications come from -/

/-- A step that does not drop the `Multiplexor`: new notifications are those of handles. -/
structure Notes (E E' : Endpoint) : Prop where
  alive : E'.muxAlive = E.muxAlive
  handles : ∀ id, E.streams id ≠ [] → E'.streams id ≠ []
  notices : ∀ n ∈ E'.droppedPorts, n ∈ E.droppedPorts ∨ ∃ id i, n = .stream id i ∧ E'.streams id ≠ []

variable {E E' : Endpoint}

lemma Notes.trans {F : Endpoint} (h : Notes E F) (h' : Notes F E') : Notes E E' where
  alive := h'.alive.trans h.alive
  handles id hne := h'.handles id (h.handles id hne)
  notices n hn := by
    rcases h'.notices n hn with hn | hn
    · rcases h.notices n hn with hn | ⟨id, i, rfl, hne⟩
      · exact .inl hn
      · exact .inr ⟨id, i, rfl, h'.handles id hne⟩
    · exact .inr hn

lemma Notes.quiet (halive : E'.muxAlive = E.muxAlive) (hports : E'.droppedPorts = E.droppedPorts)
    (hst : ∀ id, E.streams id ≠ [] → E'.streams id ≠ []) : Notes E E' :=
  ⟨halive, hst, fun _ hn => .inl (hports ▸ hn)⟩

lemma Notes.refl (E : Endpoint) : Notes E E := .quiet rfl rfl fun _ h => h

lemma notes_send (f : Frame) : Notes E (E.send f) := by
  unfold send
  split_ifs
  · exact .quiet rfl rfl fun _ h => h
  · exact .refl E

lemma notes_dropStream (id : UInt32) (i : ℕ) : Notes E (E.dropStream id i) := by
  unfold dropStream
  split
  case h_2 => exact .refl E
  case h_1 m hm =>
    split
    · exact .refl E
    · have hne : E.streams id ≠ [] := List.ne_nil_of_mem (List.mem_of_getElem? hm)
      have hkeep : ∀ x, E.streams x ≠ [] → (E.modifyStream id i fun m =>
          { m with dropped := true, frameRx := [], buf := [] }).streams x ≠ [] := by
        intro x hx
        by_cases hid : x = id
        · subst hid
          simpa [modifyStream] using hx
        · simpa [modifyStream, Function.update_of_ne hid] using hx
      refine ⟨rfl, hkeep, fun n hn => ?_⟩
      dsimp only at hn
      split_ifs at hn
      · exact .inl hn
      · rcases List.mem_append.mp hn with hn | hn
        · exact .inl hn
        · exact .inr ⟨id, i, List.mem_singleton.mp hn, hkeep id hne⟩

lemma Update.notes {P : Frame → Prop} {e : Event} (h : Update P e E E') : Notes E E' := by
  cases h with
  | phase ph h => exact .quiet rfl rfl fun _ hne => hne
  | quiet h => exact .quiet h.muxAlive h.droppedPorts fun id hne => by rwa [h.streams]
  | send f hf => exact notes_send f
  | streams g hlen =>
      refine .quiet rfl rfl fun id hne => ?_
      rw [← List.length_pos_iff] at hne ⊢
      rwa [hlen]
  | addStream id m =>
      refine .quiet rfl rfl fun x hne => ?_
      by_cases hx : x = id
      · subst hx
        simp [Endpoint.addStream]
      · simpa [Endpoint.addStream, Function.update_of_ne hx] using hne
  | dropStream id i => exact notes_dropStream id i
  | addBind id p => exact .quiet rfl rfl fun _ h => h
  | dropBind id i hf =>
      unfold Endpoint.dropBind
      split
      · split
        · exact .refl E
        · have hbind : Notes E (E.modifyBind id i fun b => { b with dropped := true }) :=
            .quiet rfl rfl fun _ h => h
          exact hbind.trans (notes_send _)
      · exact .refl E

lemma Updates.notes {P : Frame → Prop} {e : Event} (h : Updates P e E E') : Notes E E' := by
  induction h with
  | refl => exact .refl E
  | tail _ hu ih => exact ih.trans hu.notes

/-- What a step of the endpoint on its own does to the notifications, unless it drops the
`Multiplexor`. -/
lemma notes_act {a : Action} {out : List Message} (h : E.act a = some (E', out))
    (hmux : a ≠ .dropMux) : Notes E E' := by
  refine Notes.trans ?_ (act_updates h 0).notes
  cases a with
  | droppedPort => exact ⟨rfl, fun _ hne => hne, fun n hn => .inl (List.mem_of_mem_tail hn)⟩
  | sendFrame | drainFrame => exact .quiet rfl rfl fun _ hne => hne
  | dropMux => exact absurd rfl hmux
  | _ => exact .refl E

/-! ### One flow of an endpoint -/

/-- **Invariants of a flow of one endpoint**, whatever its peer sends: what holds of an unused
flow and survives the steps of a flow holds in every state the endpoint reaches. -/
theorem view_invariant {I : View → Prop} {K : View → Ev → Prop}
    {okStep : Endpoint → Event → Prop} (x : UInt32) (hnew : I View.new)
    (hstep : ∀ {o V ev sent V'}, I V → K V ev → View.Step o V ev sent V' → I V')
    (htau : ∀ V, K V .tau)
    (hact : ∀ {E a E'}, okStep E (.act a) → step E (.act a) = some E' → K (E.view x) (a.event x))
    (hrecv : ∀ {E msg}, okStep E (.recv msg) → K (E.view x) (messageEvent x msg))
    {opts : Options} (h : Reach step okStep (new opts) E) : I (E.view x) := by
  have quiet : ∀ {o V ev sent V'}, View.Run o V ev sent V' → ev = .tau → I V → I V' := by
    intro o V ev sent V' hrun
    induction hrun with
    | idle V => exact fun _ hV => hV
    | cons hs _ ih =>
        rintro rfl hV
        exact ih rfl (hstep hV (htau _) hs)
  have visible : ∀ {o V ev sent V'}, View.Run o V ev sent V' → K V ev → I V → I V' := by
    intro o V ev sent V' hrun hok hV
    cases hrun with
    | idle => exact hV
    | cons hs ht => exact quiet ht rfl (hstep hV hok hs)
  refine h.invariant (I := fun E => I (E.view x)) hnew fun E e E' hE hok hs => ?_
  cases e with
  | act a =>
      obtain ⟨⟨F, out⟩, hF, rfl⟩ := Option.map_eq_some_iff.mp hs
      obtain ⟨-, ev, sent, rfl | rfl, hrun, -⟩ := act_sim x hF
      · exact visible hrun (htau _) hE
      · exact visible hrun (hact hok hs) hE
  | recv msg =>
      obtain ⟨-, sent, hrun, -⟩ := recv_sim x hs
      exact visible hrun (hrecv hok) hE

/-- A call only draws ids that are not zero and not in the map. -/
lemma keyAvailable_of_request {a : Action} {x : UInt32} (hs : step E (.act a) = some E')
    (hev : a.event x = .request ∨ a.event x = .bindRequest) : x ≠ 0 ∧ E.flows x = none := by
  obtain ⟨⟨F, out⟩, hF, -⟩ := Option.map_eq_some_iff.mp hs
  cases a with
  | newStreamChannel id host port =>
      obtain rfl : id = x := by
        by_contra hne
        simp [Action.event, hne] at hev
      obtain ⟨G, hG, -⟩ := Option.map_eq_some_iff.mp hF
      simp only [newStreamChannel] at hG
      split_ifs at hG with hkey
      simp only [Bool.and_eq_true] at hkey
      exact (keyAvailable_eq hkey.2).symm
  | retryStream id j id' =>
      obtain rfl : id' = x := by
        by_contra hne
        simp [Action.event, hne] at hev
      obtain ⟨G, hG, -⟩ := Option.map_eq_some_iff.mp hF
      simp only [retryStream] at hG
      split at hG
      · split_ifs at hG with hkey
        simp only [Bool.and_eq_true] at hkey
        exact (keyAvailable_eq hkey.2).symm
      · cases hG
  | requestBind id host port t =>
      obtain rfl : id = x := by
        by_contra hne
        simp [Action.event, hne] at hev
      obtain ⟨G, hG, -⟩ := Option.map_eq_some_iff.mp hF
      simp only [requestBind] at hG
      split_ifs at hG with hkey
      simp only [Bool.and_eq_true] at hkey
      exact (keyAvailable_eq hkey.2).symm
  | pollWrite id i buf =>
      simp only [Action.event] at hev
      split_ifs at hev <;> simp at hev
  | copyPush id i buf =>
      simp only [Action.event] at hev
      split_ifs at hev <;> simp at hev
  | _ => simp [Action.event] at hev

/-! ### The notification zero -/

/-- The peer does not open a stream with flow id zero. -/
def NoConnectZero (_ : Endpoint) : Event → Prop
  | .recv (.binary bytes) => ∀ p, Frame.tryFrom bytes ≠ .ok ⟨0, .connect p⟩
  | _ => True

lemma tryFrom_of_messageEvent {x : UInt32} {msg : Message} {p : Payload}
    (h : messageEvent x msg = .recv p) :
    ∃ bytes, msg = .binary bytes ∧ Frame.tryFrom bytes = .ok ⟨x, p⟩ := by
  cases msg with
  | binary bytes =>
      refine ⟨bytes, rfl, ?_⟩
      cases hdec : Frame.tryFrom bytes with
      | error e => simp [messageEvent, Message.onFlow, onFlow, hdec] at h
      | ok f =>
          obtain ⟨id, q⟩ := f
          simp only [messageEvent, Message.onFlow, onFlow, hdec] at h
          split at h
          case h_1 r hr =>
            obtain rfl : r = p := by simpa using h
            obtain ⟨hcond, hq⟩ := Option.ite_none_right_eq_some.mp hr
            simp only [Bool.and_eq_true, decide_eq_true_eq] at hcond
            rw [← hcond.1, ← Option.some.inj hq]
          case h_2 => cases h
  | ping => simp [messageEvent, Message.onFlow] at h
  | pong => simp [messageEvent, Message.onFlow] at h
  | close => simp [messageEvent, Message.onFlow] at h

lemma unused_zero {opts : Options} (h : Reach step NoConnectZero (new opts) E) :
    E.flows 0 = none ∧ E.streams 0 = [] := by
  refine view_invariant (I := fun V => V.slot = none ∧ V.streams = [])
    (K := fun _ ev => ev ≠ .request ∧ ev ≠ .bindRequest ∧ ∀ p, ev ≠ .recv (.connect p)) 0
    ⟨rfl, rfl⟩ ?_ (by simp) ?_ ?_ h
  · rintro o V ev sent V' ⟨hslot, hst⟩ ⟨hreq, hbind, hcon⟩ hs
    cases hs with
    | request => exact absurd rfl hreq
    | bindRequest => exact absurd rfl hbind
    | recvConnect p => exact absurd rfl (hcon p)
    | write _ hm => simp [hst] at hm
    | writeFails hm => simp [hst] at hm
    | shutdown hm => simp [hst] at hm
    | dequeue hm => simp [hst] at hm
    | dequeueAck hm => simp [hst] at hm
    | consume _ hm => simp [hst] at hm
    | drop _ hm => simp [hst] at hm
    | recvAck _ _ hs => simp [hslot] at hs
    | recvAckNew _ _ hs => simp [hslot] at hs
    | recvFinish _ hs => simp [hslot] at hs
    | recvPush _ _ hs => simp [hslot] at hs
    | dropped => exact ⟨rfl, by simp [View.close, hslot, hst]⟩
    | windDown => exact ⟨hslot, by simp [View.disallow, hslot, hst]⟩
    | drain => exact ⟨rfl, by simp [View.close, hslot, hst]⟩
    | recvReset => exact ⟨rfl, by simp [View.close, hslot, hst]⟩
    | recvPushFull => exact ⟨rfl, by simp [View.close, hslot, hst]⟩
    | recvFinishBind => exact ⟨rfl, hst⟩
    | recvFinishRequested => exact ⟨rfl, hst⟩
    | _ => exact ⟨hslot, hst⟩
  · intro E a E' _ hs
    refine ⟨fun hev => ?_, fun hev => ?_, fun p hev => ?_⟩
    · exact (keyAvailable_of_request hs (.inl hev)).1 rfl
    · exact (keyAvailable_of_request hs (.inr hev)).1 rfl
    · cases a <;> simp only [Action.event] at hev <;> (try split_ifs at hev) <;> simp at hev
  · intro E msg hok
    refine ⟨?_, ?_, fun p hev => ?_⟩
    · unfold messageEvent
      split <;> simp
    · unfold messageEvent
      split <;> simp
    · obtain ⟨bytes, rfl, hdec⟩ := tryFrom_of_messageEvent hev
      exact hok p hdec

/-- The notifications of id zero that are pending come from the `Multiplexor`. -/
def Honest (E : Endpoint) : Prop :=
  ∀ n ∈ E.droppedPorts, n.id = 0 → n = .multiplexor ∧ E.muxAlive = false

lemma Honest.notes (h : E.Honest) (hn : Notes E E') (hzero : E'.streams 0 = []) : E'.Honest := by
  intro n hmem hid
  rcases hn.notices n hmem with hold | ⟨id, i, rfl, hne⟩
  · rw [hn.alive]
    exact h n hold hid
  · obtain rfl : id = 0 := hid
    exact absurd hzero hne

lemma Honest.dropMux (h : E.Honest) : (E.popped .dropMux).Honest := by
  intro n hmem hid
  dsimp only [popped] at hmem
  split_ifs at hmem
  · exact ⟨(h n hmem hid).1, rfl⟩
  · rcases List.mem_append.mp hmem with hmem | hmem
    · exact ⟨(h n hmem hid).1, rfl⟩
    · exact ⟨List.mem_singleton.mp hmem, rfl⟩

lemma honest {opts : Options} (h : Reach step NoConnectZero (new opts) E) : E.Honest := by
  induction h with
  | start => simp [Honest, new]
  | @next F F' e hF hok hs ih =>
      have hzero := (unused_zero (.next hF hok hs)).2
      cases e with
      | recv msg => exact ih.notes (updates_recv hs 0).notes hzero
      | act a =>
          obtain ⟨⟨G, out⟩, hG, rfl⟩ := Option.map_eq_some_iff.mp hs
          by_cases hmux : a = .dropMux
          · subst hmux
            exact ih.dropMux.notes (act_updates hG 0).notes hzero
          · exact ih.notes (notes_act hG hmux) hzero

lemma droppedPort_eq {n : Notice} {rest : List Notice} (hports : E.droppedPorts = n :: rest)
    (h : E.droppedPort = some E') : E.phase = .running ∧
      (n.id = 0 ∧ E' = ({ E with droppedPorts := rest } : Endpoint).startWindDown true (.ok ()) ∨
      n.id ≠ 0 ∧ E' = ({ E with droppedPorts := rest } : Endpoint).closePort n.id false) := by
  cases acts_droppedPort h with
  | droppedZero hrun hports' hzero =>
      obtain ⟨rfl, rfl⟩ := List.cons.inj (hports.symm.trans hports')
      exact ⟨hrun, .inl ⟨hzero, rfl⟩⟩
  | droppedPort hrun hports' hid =>
      obtain ⟨rfl, rfl⟩ := List.cons.inj (hports.symm.trans hports')
      exact ⟨hrun, .inr ⟨hid, rfl⟩⟩

/-- **The notification zero**: with a peer that does not open a stream with flow id zero, the
task is only told to end by the `Multiplexor`; the notification of a handle leaves it running. -/
theorem shutdown_by_multiplexor {opts : Options} (h : Reach step NoConnectZero (new opts) E) :
    (∀ E', E.droppedPort = some E' → E'.phase ≠ .running → E.muxAlive = false) ∧
    (∀ id i rest E', E.droppedPorts = .stream id i :: rest → E.droppedPort = some E' →
      E'.phase = .running) := by
  have hhonest := honest h
  -- a handle does not send zero
  have hstream : ∀ id i rest E', E.droppedPorts = .stream id i :: rest →
      E.droppedPort = some E' → E'.phase = .running := by
    intro id i rest E' hports hs
    obtain ⟨hph, ⟨hid, -⟩ | ⟨-, rfl⟩⟩ := droppedPort_eq hports hs
    · have := (hhonest (.stream id i) (by simp [hports]) hid).1
      simp at this
    · exact (Within.closePort false).phase.trans hph
  refine ⟨fun E' hs hend => ?_, hstream⟩
  cases hports : E.droppedPorts with
  | nil => simp [droppedPort, hports] at hs
  | cons n rest =>
      cases n with
      | stream id i => exact absurd (hstream id i rest E' hports hs) hend
      | multiplexor => exact (hhonest .multiplexor (by simp [hports]) rfl).2

/-- A stream of the peer, with a flow id other than zero, is dropped by the user. -/
theorem shutdown_by_multiplexor_dropped : ∃ E E' : Endpoint,
    run step (new Options.new) [.recv (.binary (finalize (Frame.newConnect [] 0 1 512))),
      .act .acceptStreamChannel, .act (.dropStream 1 0)] = some E ∧
    E.droppedPort = some E' ∧ E'.phase = .running := by
  have hcheck : (run step (new Options.new) [.recv (.binary (finalize (Frame.newConnect [] 0 1 512))),
      .act .acceptStreamChannel, .act (.dropStream 1 0)]).any (fun E =>
        E.droppedPorts == [.stream 1 0] && E.droppedPort.isSome) = true := by
    decide +kernel
  obtain ⟨E, hE, hfacts⟩ := (Option.any_eq_true _ _).mp hcheck
  simp only [Bool.and_eq_true, beq_iff_eq] at hfacts
  obtain ⟨E', hE'⟩ := Option.isSome_iff_exists.mp hfacts.2
  have hreach : Reach step NoConnectZero (new Options.new) E := by
    refine reach_of_run hE (runMeets_of_forall (fun l hl s => ?_) _)
    simp only [List.mem_cons, List.not_mem_nil, or_false] at hl
    rcases hl with rfl | rfl | rfl
    · have hdec : Frame.tryFrom (finalize (Frame.newConnect [] 0 1 512)) =
          .ok ⟨1, .connect ⟨512, 0, []⟩⟩ := tryFrom_finalize rfl
      intro p
      rw [hdec]
      simp
    · trivial
    · trivial
  exact ⟨E, E', hE, hE', (shutdown_by_multiplexor hreach).2 1 0 [] E' hfacts.1 hE'⟩

/-- The peer opens a stream with flow id zero; when the user drops it, the task ends, with the
`Multiplexor` alive. -/
theorem dropped_stream_zero_kills : ∃ E E' : Endpoint, Reach step Any (new Options.new) E ∧
    E.droppedPorts = [.stream 0 0] ∧ E.muxAlive = true ∧
    E.droppedPort = some E' ∧ E'.phase ≠ .running := by
  have hcheck : (run step (new Options.new) [.recv (.binary (finalize (Frame.newConnect [] 0 0 512))),
      .act .acceptStreamChannel, .act (.dropStream 0 0)]).any (fun E =>
        E.droppedPorts == [.stream 0 0] && E.muxAlive &&
        E.droppedPort.any (!·.phase.isRunning)) = true := by
    decide +kernel
  obtain ⟨E, hE, hfacts⟩ := (Option.any_eq_true _ _).mp hcheck
  simp only [Bool.and_eq_true, beq_iff_eq] at hfacts
  obtain ⟨⟨hports, halive⟩, hend⟩ := hfacts
  obtain ⟨E', hE', hdown⟩ := (Option.any_eq_true _ _).mp hend
  refine ⟨E, E', reach_of_run hE (runMeets_of_forall (fun _ _ _ => trivial) _), hports, halive,
    hE', fun hph => ?_⟩
  simp [hph, Phase.isRunning] at hdown

end Endpoint

/-! ### Stale handles -/

namespace View

/-- The handle has not been dropped, or the task has yet to hear of it. -/
def Active (V : View) (i : ℕ) : Prop :=
  (∃ m, V.streams[i]? = some m ∧ m.dropped = false) ∨ i ∈ V.drops

/-- The map has nothing under the id, or what belongs to the handles that are active. -/
def Owned (V : View) : Prop :=
  ∀ i, V.Active i → V.slot = none ∨ ∃ b, V.slot = some (.established ⟨i, b⟩)

/-- A slot is only made for the id when none of its handles is active. -/
def FreshOn (V : View) : Ev → Prop
  | .request => ∀ i, ¬ V.Active i
  | .bindRequest => ∀ i, ¬ V.Active i
  | .recv (.connect _) => V.slot = none → ∀ i, ¬ V.Active i
  | _ => True

/-- Fewer handles are active, and the slot stays with its handle or goes away. -/
lemma Owned.keep {V V' : View} (h : V.Owned) (hact : ∀ i, V'.Active i → V.Active i)
    (hslot : V'.slot = none ∨ ∀ i b, V.slot = some (.established ⟨i, b⟩) →
      ∃ b', V'.slot = some (.established ⟨i, b'⟩)) (hnone : V.slot = none → V'.slot = none) :
    V'.Owned := by
  intro i hi
  rcases h i (hact i hi) with hs | ⟨b, hb⟩
  · exact .inl (hnone hs)
  · exact hslot.imp_right fun hs => hs i b hb

lemma active_setStream {V : View} {k : ℕ} {m m' : MuxStream} (hm : V.streams[k]? = some m)
    (hd : m'.dropped = false → m.dropped = false) (i : ℕ) (h : (V.setStream k m').Active i) :
    V.Active i := by
  rcases h with ⟨n, hn, hdn⟩ | hdrop
  · by_cases hik : k = i
    · subst hik
      left
      have hlt : k < V.streams.length := (List.getElem?_eq_some_iff.mp hm).1
      obtain rfl : m' = n := by simpa [View.setStream, hlt] using hn
      exact ⟨m, hm, hd hdn⟩
    · exact .inl ⟨n, by simpa [View.setStream, hik] using hn, hdn⟩
  · exact .inr hdrop

lemma active_modify {V V' : View} {k : ℕ} {f : MuxStream → MuxStream}
    (hst : V'.streams = V.streams.modify k f) (hdrops : V'.drops = V.drops)
    (hf : ∀ m, (f m).dropped = m.dropped) (i : ℕ) (h : V'.Active i) : V.Active i := by
  rcases h with ⟨n, hn, hdn⟩ | hdrop
  · left
    rw [hst, List.getElem?_modify] at hn
    cases hm : V.streams[i]? with
    | none => simp [hm] at hn
    | some m =>
        refine ⟨m, rfl, ?_⟩
        by_cases hk : k = i
        · obtain rfl : f m = n := by simpa [hm, hk] using hn
          rwa [hf] at hdn
        · obtain rfl : m = n := by simpa [hm, hk] using hn
          exact hdn
  · exact .inr (hdrops ▸ hdrop)

lemma active_close {V : View} (i : ℕ) (h : V.close.Active i) : V.Active i := by
  have hst : V.close.streams = V.streams ∨
      ∃ k, V.close.streams = V.streams.modify k MuxStream.disallowWrite := by
    unfold View.close
    split
    · exact .inr ⟨_, rfl⟩
    · exact .inl rfl
  rcases hst with hst | ⟨k, hst⟩
  · unfold Active at h
    rwa [hst] at h
  · exact active_modify hst rfl (fun _ => rfl) i h

/-- A new handle and its slot. -/
lemma owned_new {V V' : View} {m : MuxStream} (hno : ∀ i, ¬ V.Active i)
    (hst : V'.streams = V.streams ++ [m]) (hdrops : V'.drops = V.drops)
    (hslot : V'.slot = some (.established ⟨V.streams.length, true⟩)) : V'.Owned := by
  intro i hi
  right
  refine ⟨true, ?_⟩
  rcases hi with ⟨n, hn, hdn⟩ | hdrop
  · by_cases hlt : i < V.streams.length
    · rw [hst, List.getElem?_append_left hlt] at hn
      exact absurd (.inl ⟨n, hn, hdn⟩) (hno i)
    · have hle : V'.streams.length ≤ V.streams.length + 1 := by simp [hst]
      have hi : i < V'.streams.length := (List.getElem?_eq_some_iff.mp hn).1
      obtain rfl : i = V.streams.length := by omega
      exact hslot
  · exact absurd (.inr (hdrops ▸ hdrop)) (hno i)

lemma Owned.step {o : Options} {V V' : View} {ev : Ev} {sent : List Payload} (h : V.Owned)
    (hok : V.FreshOn ev) (hs : Step o V ev sent V') : V'.Owned := by
  have handle : ∀ {k : ℕ} {m m' : MuxStream}, V.streams[k]? = some m →
      m'.dropped = m.dropped → (V.setStream k m').Owned := by
    intro k m m' hm hd
    exact h.keep (active_setStream hm (by rw [hd]; exact id)) (.inr fun i b hb => ⟨b, hb⟩) id
  have same : ∀ {V' : View}, V'.streams = V.streams → V'.drops = V.drops → V'.slot = V.slot →
      V'.Owned := by
    intro V' hst hdrops hslot i hi
    rw [hslot]
    refine h i ?_
    unfold Active at hi ⊢
    rwa [← hst, ← hdrops]
  have gone : ∀ {V' : View}, V'.slot = none → V'.Owned := fun hnone i _ => .inl hnone
  -- a slot that has been requested has no handle
  have nobody : ∀ {j}, V.slot = some (.requested j) → ∀ i, ¬ V.Active i := by
    intro j hslot i hi
    rcases h i hi with hnone | ⟨b, hb⟩
    · simp [hslot] at hnone
    · simp [hslot] at hb
  cases hs with
  | request j hslot => exact fun i hi => absurd hi (hok i)
  | bindRequest j hslot => exact fun i hi => absurd hi (hok i)
  | write buf hm => exact handle hm rfl
  | writeFails hm => exact handle hm rfl
  | shutdown hm => exact handle hm rfl
  | dequeue hm => exact handle hm rfl
  | dequeueAck hm => exact handle hm rfl
  | consume amt hm => exact handle hm rfl
  | @drop k m d hm hd hdrop =>
      refine h.keep (fun i hi => ?_) (.inr fun i b hb => ⟨b, hb⟩) id
      rcases hi with hi | hi
      · exact active_setStream hm (by simp) i (.inl hi)
      · rcases List.mem_append.mp hi with hi | hi
        · exact .inr hi
        · rcases hdrop with rfl | rfl
          · simp at hi
          · rw [List.mem_singleton.mp hi]
            exact .inl ⟨m, hm, hd⟩
  | dropped => exact gone rfl
  | windDown hrun =>
      exact h.keep (fun i hi => active_close i hi) (.inr fun i b hb => ⟨b, hb⟩) id
  | drain => exact gone rfl
  | recvConnect p hfin hslot => exact owned_new (hok hslot) rfl rfl rfl
  | @recvAck d n hfin hslot =>
      exact h.keep (active_modify (f := fun m => m.acknowledge n) rfl rfl fun _ => rfl)
        (.inr fun i b hb => ⟨b, hb⟩) id
  | recvAckNew n hfin hslot => exact owned_new (nobody hslot) rfl rfl rfl
  | @recvFinish d hfin hslot =>
      refine h.keep (fun i hi => hi) (.inr fun i b hb => ⟨false, ?_⟩) (by simp [hslot])
      obtain rfl : d = ⟨i, b⟩ := by simpa [hslot] using hb
      rfl
  | recvFinishBind => exact gone rfl
  | recvFinishRequested => exact gone rfl
  | recvReset => exact gone rfl
  | recvPush data hfin hslot hm => exact handle hm rfl
  | recvPushFull => exact gone rfl
  | _ => exact same rfl rfl rfl

end View

namespace Endpoint

variable {E E' : Endpoint}

/-- The handle has not been dropped, or the task has yet to hear of it. -/
def Active (E : Endpoint) (id : UInt32) (i : ℕ) : Prop :=
  (∃ m, (E.streams id)[i]? = some m ∧ m.dropped = false) ∨ .stream id i ∈ E.droppedPorts

/-- A slot is only made for an id, by a call or for the `Connect` of the peer, when none of the
handles with that id is active; and not for the id zero. -/
def NoReuse (E : Endpoint) : Event → Prop
  | .act (.newStreamChannel id _ _) => ∀ i, ¬ E.Active id i
  | .act (.retryStream _ _ id) => ∀ i, ¬ E.Active id i
  | .act (.requestBind id _ _ _) => ∀ i, ¬ E.Active id i
  | .recv (.binary bytes) => ∀ id p, Frame.tryFrom bytes = .ok ⟨id, .connect p⟩ →
      id ≠ 0 ∧ (E.flows id = none → ∀ i, ¬ E.Active id i)
  | _ => True

lemma active_of_view {x : UInt32} {i : ℕ} (h : (E.view x).Active i) : E.Active x i := by
  refine h.imp id fun hdrop => ?_
  obtain ⟨n, hn, hi⟩ := List.mem_filterMap.mp hdrop
  cases n with
  | multiplexor => simp at hi
  | stream id k =>
      obtain ⟨⟨rfl, -⟩, hk⟩ := Option.ite_none_right_eq_some.mp hi
      rwa [← Option.some.inj hk]

lemma owned {opts : Options} (h : Reach step NoReuse (new opts) E) (x : UInt32) :
    (E.view x).Owned := by
  refine view_invariant (I := View.Owned) (K := View.FreshOn) x ?_ View.Owned.step
    (fun _ => trivial) ?_ ?_ h
  · intro i hi
    exact .inl rfl
  · intro E a E' hok _
    cases a with
    | newStreamChannel id host port =>
        simp only [Action.event]
        split_ifs with hid
        · subst hid
          exact fun i hi => hok i (active_of_view hi)
        · trivial
    | retryStream id j id' =>
        simp only [Action.event]
        split_ifs with hid
        · subst hid
          exact fun i hi => hok i (active_of_view hi)
        · trivial
    | requestBind id host port t =>
        simp only [Action.event]
        split_ifs with hid
        · subst hid
          exact fun i hi => hok i (active_of_view hi)
        · trivial
    | pollWrite id i buf =>
        simp only [Action.event]
        split_ifs <;> trivial
    | copyPush id i buf =>
        simp only [Action.event]
        split_ifs <;> trivial
    | _ => trivial
  · intro E msg hok
    cases hev : messageEvent x msg with
    | recv p =>
        obtain ⟨bytes, rfl, hdec⟩ := tryFrom_of_messageEvent hev
        cases p with
        | connect p => exact fun hslot i hi => (hok x p hdec).2 hslot i (active_of_view hi)
        | _ => trivial
    | tau => trivial
    | request =>
        unfold messageEvent at hev
        split at hev <;> cases hev
    | bindRequest =>
        unfold messageEvent at hev
        split at hev <;> cases hev
    | write buf => trivial

lemma NoReuse.noConnectZero {e : Event} (h : NoReuse E e) : NoConnectZero E e := by
  cases e with
  | act a => trivial
  | recv msg =>
      cases msg with
      | binary bytes => exact fun p hdec => (h 0 p hdec).1 rfl
      | _ => trivial

/-- **Stale handles**: when slots are only made for ids without an active handle, dropping a
handle leaves the map alone, and so does its notification, unless the slot under its id is the
one made together with it. No other flow and no other handle is touched. -/
theorem stale_handle_harmless {opts : Options} (h : Reach step NoReuse (new opts) E) :
    (∀ id i E' out, E.act (.dropStream id i) = some (E', out) → E'.flows = E.flows) ∧
    (∀ id i rest E', E.droppedPorts = .stream id i :: rest → E.droppedPort = some E' →
      (E'.flows = E.flows ∨ ∃ b, E.flows id = some (.established ⟨i, b⟩)) ∧
      E'.phase = .running ∧
      (∀ x, x ≠ id → E'.flows x = E.flows x) ∧
      (∀ x k, (x, k) ≠ (id, i) → (E'.streams x)[k]? = (E.streams x)[k]?)) := by
  constructor
  · intro id i E' out hs
    obtain ⟨m, -, heq⟩ := Option.map_eq_some_iff.mp hs
    obtain ⟨rfl, -⟩ := Prod.mk.inj heq
    exact flows_dropStream id i
  intro id i rest E' hports hs
  have hhonest := honest (h.mono fun _ _ _ hok _ => hok.noConnectZero)
  obtain ⟨hph, ⟨hid, -⟩ | ⟨hid, heq⟩⟩ := droppedPort_eq hports hs
  · have := (hhonest (.stream id i) (by simp [hports]) hid).1
    simp at this
  have hid : id ≠ 0 := hid
  have hactive : (E.view id).Active i := .inr (by simp [view, hports, hid])
  have hwithin : Within id { E with droppedPorts := rest } E' := heq ▸ .closePort false
  have hview : E'.view id = (({ E with droppedPorts := rest } : Endpoint).view id).close :=
    heq ▸ view_closePort false
  have hflows : ∀ x, x ≠ id → E'.flows x = E.flows x := fun x hx =>
    congrArg Entry.slot (hwithin.entry x hx)
  have hstreams : ∀ x, x ≠ id → E'.streams x = E.streams x := fun x hx =>
    congrArg Entry.streams (hwithin.entry x hx)
  -- on the flow itself, the slot is the handle's own or there is none
  have hown : E'.streams id = E.streams id ∨ E'.streams id =
      (E.streams id).modify i MuxStream.disallowWrite := by
    have hst : E'.streams id = _ := congrArg View.streams hview
    rcases owned h id i hactive with hslot | ⟨b, hslot⟩
    · have hslot' : E.flows id = none := hslot
      exact .inl (by simpa [View.close, view, hslot'] using hst)
    · have hslot' : E.flows id = some (.established ⟨i, b⟩) := hslot
      exact .inr (by simpa [View.close, view, hslot'] using hst)
  refine ⟨(owned h id i hactive).imp_left fun hslot => ?_, hwithin.phase.trans hph, hflows,
    fun x k hxk => ?_⟩
  · funext x
    by_cases hx : x = id
    · subst hx
      have hgone : E'.flows x = none := congrArg View.slot hview
      exact hgone.trans hslot.symm
    · exact hflows x hx
  · by_cases hx : x = id
    · subst hx
      have hk : i ≠ k := fun hik => hxk (by rw [hik])
      rcases hown with hst | hst
      · rw [hst]
      · rw [hst]
        simp [hk]
    · rw [hstreams x hx]

/-- A stream of the peer is dropped by the user and its slot is taken out. -/
theorem stale_handle_harmless_own : ∃ E E' : Endpoint,
    run step (new Options.new) [.recv (.binary (finalize (Frame.newConnect [] 0 1 512))),
      .act .acceptStreamChannel, .act (.dropStream 1 0)] = some E ∧
    E.droppedPort = some E' ∧ E.flows 1 = some (.established ⟨0, true⟩) ∧ E'.flows 1 = none ∧
    ∀ x, x ≠ 1 → E'.flows x = E.flows x := by
  have hcheck : (run step (new Options.new) [.recv (.binary (finalize (Frame.newConnect [] 0 1 512))),
      .act .acceptStreamChannel, .act (.dropStream 1 0)]).any (fun E =>
        E.droppedPorts == [.stream 1 0] && E.flows 1 == some (.established ⟨0, true⟩) &&
        E.droppedPort.any (·.flows 1 == none)) = true := by
    decide +kernel
  obtain ⟨E, hE, hfacts⟩ := (Option.any_eq_true _ _).mp hcheck
  simp only [Bool.and_eq_true, beq_iff_eq] at hfacts
  obtain ⟨⟨hports, hslot⟩, hclosed⟩ := hfacts
  obtain ⟨E', hE', hgone⟩ := (Option.any_eq_true _ _).mp hclosed
  have hreach : Reach step NoReuse (new Options.new) E := by
    refine reach_of_run hE ⟨fun id p hdec => ?_, fun _ _ => ⟨trivial, fun _ _ => ⟨trivial,
      fun _ _ => trivial⟩⟩⟩
    have hframe : Frame.tryFrom (finalize (Frame.newConnect [] 0 1 512)) =
        .ok ⟨1, .connect ⟨512, 0, []⟩⟩ := tryFrom_finalize rfl
    obtain ⟨rfl, -⟩ : 1 = id ∧ _ := by simpa [hframe] using hdec
    refine ⟨by decide, fun _ i hactive => ?_⟩
    simp [Active, new] at hactive
  exact ⟨E, E', hE, hE', hslot, beq_iff_eq.mp hgone,
    ((stale_handle_harmless hreach).2 1 0 [] E' hports hE').2.2.1⟩

/-- The peer resets a stream whose handle the user keeps, and opens another with the same flow
id; when the user drops the first, the notification takes out the slot of the second. -/
theorem stale_handle_closes : ∃ E E' : Endpoint, Reach step Any (new Options.new) E ∧
    E.droppedPorts = [.stream 1 0] ∧ E.flows 1 = some (.established ⟨1, true⟩) ∧
    E.droppedPort = some E' ∧ E'.flows 1 = none := by
  have hcheck : (run step (new Options.new) [.recv (.binary (finalize (Frame.newConnect [] 0 1 512))),
      .act .acceptStreamChannel, .recv (.binary (finalize (Frame.newReset 1))),
      .recv (.binary (finalize (Frame.newConnect [] 0 1 512))), .act (.dropStream 1 0)]).any
      (fun E => E.droppedPorts == [.stream 1 0] && E.flows 1 == some (.established ⟨1, true⟩) &&
        E.droppedPort.any (·.flows 1 == none)) = true := by
    decide +kernel
  obtain ⟨E, hE, hfacts⟩ := (Option.any_eq_true _ _).mp hcheck
  simp only [Bool.and_eq_true, beq_iff_eq] at hfacts
  obtain ⟨⟨hports, hslot⟩, hclosed⟩ := hfacts
  obtain ⟨E', hE', hgone⟩ := (Option.any_eq_true _ _).mp hclosed
  exact ⟨E, E', reach_of_run hE (runMeets_of_forall (fun _ _ _ => trivial) _), hports, hslot, hE',
    beq_iff_eq.mp hgone⟩

end Endpoint

end Penguin.Mux
