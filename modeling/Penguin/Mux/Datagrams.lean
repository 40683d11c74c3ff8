import Penguin.Lib.Lossy
import Penguin.Mux.Waiting

/-!
Datagrams.

Datagrams are sent without waiting for anything: they go through the queue of frames and the link,
and are put into the buffer of the peer if there is room. Two endpoints are run together with a
record of the datagrams that `send_datagram` has accepted and `get_datagram` has given out. From
one side to the other this is a channel that loses what does not fit. No step reads the record.
-/

namespace Penguin.Mux

open Penguin.Lib Penguin.Lib.Transition

def Frame.datagram? (f : Frame) : Option Datagram :=
  match f.payload with
  | .datagram p => some ⟨f.id, p.targetHost, p.targetPort, p.data⟩
  | _ => none

/-- The record beside the two endpoints. -/
structure Mailed where
  sys : System
  /-- The datagrams that were accepted for sending. -/
  sent : Side → List Datagram
  /-- The datagrams that were given out. -/
  got : Side → List Datagram

namespace Mailed

def new (opts : Side → Options) : Mailed := ⟨System.new opts, fun _ => [], fun _ => []⟩

/-- What a step accepts. -/
def accepts (E : Endpoint) : Action → List Datagram
  | .sendDatagram d => if (E.sendDatagram d).2.isOk then [d] else []
  | _ => []

/-- What a step gives out. -/
def givesOut (E : Endpoint) : Action → List Datagram
  | .getDatagram => E.datagrams.head?.toList
  | _ => []

def record (m : Mailed) (s : System) : Label → Mailed
  | .act e a => {
      sys := s
      sent := Function.update m.sent e (m.sent e ++ accepts (m.sys.ep e) a)
      got := Function.update m.got e (m.got e ++ givesOut (m.sys.ep e) a) }
  | .deliver _ => { m with sys := s }

def step (m : Mailed) (l : Label) : Option Mailed := (m.sys.step l).map fun s => m.record s l

/-- The datagrams that side `e` has queued or sent and its peer has not read. -/
def flight (m : Mailed) (e : Side) : List Datagram := m.sys.flight Frame.datagram? e

/-- The channel from side `e` to its peer. -/
structure Shows (m : Mailed) (e : Side) (c : Lossy.Channel Datagram) : Prop where
  flight : c.flight = m.flight e
  buffer : c.buffer = (m.sys.ep e.peer).datagrams
  receiving : c.receiving = (m.sys.ep e.peer).muxAlive
  sent : c.sent = m.sent e
  taken : c.taken = m.got e.peer

/-- Where a channel with room for `cap` datagrams may lose one: on arrival when the buffer is full
or the receiver gone, and if the datagram has less than four bytes. -/
def DropTail (cap : ℕ) (c : Lossy.Channel Datagram) : Lossy.Op Datagram → Prop
  | .lose => c.receiving = false ∨ cap ≤ c.buffer.length
  | .spoil d => d.data.length < 4
  | _ => True

/-- Steps that lose nothing on the way from side `e`: datagrams have four bytes, they arrive when
there is room, and the receiver stays. -/
def Spacious (e : Side) (m : Mailed) : Label → Prop
  | .act e' (.sendDatagram d) => e' = e → 4 ≤ d.data.length
  | .act e' .dropMux => e' ≠ e.peer
  | .act _ _ => True
  | .deliver e' => e' = e.peer →
      (m.sys.ep e.peer).datagrams.length < (m.sys.ep e.peer).opts.datagramBufferSize ∧
      (m.sys.ep e.peer).muxAlive = true

instance (e : Side) (m : Mailed) (l : Label) : Decidable (Spacious e m l) := by
  cases l with
  | act e' a =>
      cases a with
      | sendDatagram d => exact inferInstanceAs (Decidable (e' = e → 4 ≤ d.data.length))
      | dropMux => exact inferInstanceAs (Decidable (e' ≠ e.peer))
      | _ => exact inferInstanceAs (Decidable True)
  | deliver e' => exact inferInstanceAs (Decidable (e' = e.peer → _ < _ ∧ _ = true))

/-! ### One step -/

variable {m m' : Mailed} {e : Side} {c : Lossy.Channel Datagram}

/-- What a step is for the channel from side `e`: nothing, or one step of the channel. -/
inductive Follows (m m' : Mailed) (e : Side) (careful : Prop) (c : Lossy.Channel Datagram) : Prop
  | stays (h : Shows m' e c)
  | moves (op : Lossy.Op Datagram) {c' : Lossy.Channel Datagram} (h : Shows m' e c')
      (hs : Lossy.step (m.sys.ep e.peer).opts.datagramBufferSize c op = some c')
      (hok : DropTail (m.sys.ep e.peer).opts.datagramBufferSize c op)
      (hcareful : careful → op.Careful)

lemma seesOnlyForUser : System.SeesOnlyForUser Frame.datagram? := by
  intro f hf
  cases hp : f.payload <;> simp [hp, Payload.forUser, Frame.datagram?] at hf ⊢

/-- Of what a step queues, the accepted datagrams arrive, unless they are too short. -/
lemma filterMap_posts (E : Endpoint) (a : Action) : (E.posts a).filterMap (fun f =>
      System.seen Frame.datagram? (.binary (Endpoint.finalize f))) =
    (accepts E a).filter (fun d => 4 ≤ d.data.length) := by
  -- the requests are not datagrams
  have hother : ∀ {f : Frame}, f.payload.isDatagram = false → f.datagram? = none →
      [f].filterMap (fun f => System.seen Frame.datagram? (.binary (Endpoint.finalize f))) =
        [] := by
    intro f hf hnone
    rw [List.filterMap_cons_none (by rw [System.seen_finalize hf, hnone]), List.filterMap_nil]
  cases a with
  | sendConnect id j =>
      simp only [Endpoint.posts, accepts, List.filter_nil]
      split
      · split_ifs
        · exact hother rfl rfl
        · rfl
      · rfl
  | sendBind id j =>
      simp only [Endpoint.posts, accepts, List.filter_nil]
      split
      · split_ifs
        · exact hother rfl rfl
        · rfl
      · rfl
  | sendDatagram d =>
      by_cases hlong : 255 < d.targetHost.length
      · simp [Endpoint.posts, accepts, Endpoint.sendDatagram, hlong, Except.isOk, Except.toBool]
      by_cases hopen : E.txOpen = true
      · have hread : System.seen Frame.datagram? (.binary (Endpoint.finalize
            (Frame.newDatagramOwned d.flowId d.targetHost d.targetPort d.data))) =
            if d.data.length < 4 then none else some d :=
          System.seen_datagram _ (Nat.not_lt.mp hlong) _ _ _
        by_cases hshort : d.data.length < 4
        · simp [Endpoint.posts, accepts, Endpoint.sendDatagram, hlong, hopen, Except.isOk,
            Except.toBool, hread, hshort, Nat.not_le.mpr hshort]
        · simp [Endpoint.posts, accepts, Endpoint.sendDatagram, hlong, hopen, Except.isOk,
            Except.toBool, hread, hshort, Nat.not_lt.mp hshort]
      · simp [Endpoint.posts, accepts, Endpoint.sendDatagram, hlong, hopen, Except.isOk,
          Except.toBool]
  | _ => rfl

lemma follows_sender {a : Action} {s : System} (h : Shows m e c)
    (hs : m.sys.step (.act e a) = some s) :
    Follows m (m.record s (.act e a)) e (Spacious e m (.act e a)) c := by
  have hne : e.peer ≠ e := e.peer_ne
  have hpeer := System.ep_of_act hs
  have hflight := System.flight_act seesOnlyForUser hs
  rw [filterMap_posts] at hflight
  have hshows : ∀ c' : Lossy.Channel Datagram, c'.flight = s.flight Frame.datagram? e →
      c'.buffer = c.buffer → c'.receiving = c.receiving → c'.taken = c.taken →
      c'.sent = c.sent ++ accepts (m.sys.ep e) a → Shows (m.record s (.act e a)) e c' := by
    intro c' h₁ h₂ h₃ h₄ h₅
    refine ⟨h₁, ?_, ?_, ?_, ?_⟩
    · simp [record, hpeer, h₂, h.buffer]
    · simp [record, hpeer, h₃, h.receiving]
    · simp [record, h₅, h.sent]
    · simp [record, Function.update_of_ne hne, h₄, h.taken]
  have hstays : accepts (m.sys.ep e) a = [] →
      Follows m (m.record s (.act e a)) e (Spacious e m (.act e a)) c := by
    intro hnil
    rw [hnil, List.filter_nil, List.append_nil] at hflight
    exact .stays (hshows c (by rw [hflight, h.flight, flight]) rfl rfl rfl (by simp [hnil]))
  cases a with
  | sendDatagram d =>
      by_cases hok : accepts (m.sys.ep e) (.sendDatagram d) = []
      · exact hstays hok
      · have hacc : accepts (m.sys.ep e) (.sendDatagram d) = [d] := by
          simp only [accepts] at hok ⊢
          split_ifs at hok ⊢
          · rfl
          · exact absurd rfl hok
        rw [hacc] at hflight
        by_cases hshort : d.data.length < 4
        · refine .moves (.spoil d) (hshows { c with sent := c.sent ++ [d], lost := c.lost ++ [d] }
            ?_ rfl rfl rfl (by rw [hacc])) rfl hshort ?_
          · simp [hflight, h.flight, flight, Nat.not_le.mpr hshort]
          · exact fun hsp => absurd (hsp rfl) (Nat.not_le.mpr hshort)
        · refine .moves (.send d) (hshows
            { c with flight := c.flight ++ [d], sent := c.sent ++ [d] } ?_ rfl rfl rfl
            (by rw [hacc])) rfl trivial fun _ => trivial
          simp [hflight, h.flight, flight, Nat.not_lt.mp hshort]
  | _ => exact hstays rfl

lemma follows_receiver {a : Action} {s : System} (h : Shows m e c)
    (hs : m.sys.step (.act e.peer a) = some s) :
    Follows m (m.record s (.act e.peer a)) e (Spacious e m (.act e.peer a)) c := by
  have hne : e ≠ e.peer := e.peer_ne.symm
  obtain ⟨out, hact⟩ := System.act_of_step hs
  have hshows : ∀ c' : Lossy.Channel Datagram, c'.flight = c.flight →
      c'.buffer = (s.ep e.peer).datagrams → c'.receiving = (s.ep e.peer).muxAlive →
      c'.sent = c.sent → c'.taken = c.taken ++ givesOut (m.sys.ep e.peer) a →
      Shows (m.record s (.act e.peer a)) e c' := by
    intro c' h₁ h₂ h₃ h₄ h₅
    refine ⟨?_, h₂, h₃, ?_, ?_⟩
    · rw [h₁, h.flight]
      exact (System.flight_act_peer hs).symm
    · simp [record, Function.update_of_ne hne, h₄, h.sent]
    · simp [record, h₅, h.taken]
  have hstays : (s.ep e.peer).datagrams = (m.sys.ep e.peer).datagrams →
      (s.ep e.peer).muxAlive = (m.sys.ep e.peer).muxAlive → givesOut (m.sys.ep e.peer) a = [] →
      Follows m (m.record s (.act e.peer a)) e (Spacious e m (.act e.peer a)) c := by
    intro hdatagrams halive hnil
    exact .stays (hshows c rfl (by rw [hdatagrams, h.buffer]) (by rw [halive, h.receiving]) rfl
      (by simp [hnil]))
  by_cases ha : a = .resume
  · subst ha
    have hres : (m.sys.ep e.peer).resume = some (s.ep e.peer) := by
      obtain ⟨F, hF, heq⟩ := Option.map_eq_some_iff.mp hact
      rw [hF, (Prod.mk.inj heq).1]
    obtain ⟨G, hG, -, halive, -, hdatagrams⟩ := (Endpoint.resume_resumes .dests hres).posts
    exact hstays (hG.datagrams.trans hdatagrams) (hG.muxAlive.trans halive) rfl
  have hsp := Endpoint.act_spares .dests hact ha (Watch.dests_permits a)
  cases a with
  | resume => exact absurd rfl ha
  | getDatagram =>
      cases hq : (m.sys.ep e.peer).datagrams with
      | nil => simp [Endpoint.act, Endpoint.getDatagram, hq] at hact
      | cons d rest =>
          have hbuffer : c.buffer = d :: rest := h.buffer.trans hq
          refine .moves .take (hshows { c with buffer := rest, taken := c.taken ++ [d] } rfl ?_ ?_
            rfl (by simp [givesOut, hq])) (by simp [Lossy.step, hbuffer]) trivial fun _ => trivial
          · simp [hsp.datagrams, Endpoint.served, hq]
          · rw [hsp.muxAlive]
            exact h.receiving
  | dropMux =>
      refine .moves .close (hshows { c with
          receiving := false, buffer := [], lost := c.lost ++ c.buffer } rfl ?_ ?_ rfl
        (by simp [givesOut])) rfl trivial fun hcare => absurd rfl hcare
      · rw [hsp.datagrams]
        rfl
      · rw [hsp.muxAlive]
        rfl
  | _ => exact hstays hsp.datagrams hsp.muxAlive rfl

lemma follows_deliver {s : System} (h : Shows m e c)
    (hs : m.sys.step (.deliver e.peer) = some s) :
    Follows m (m.record s (.deliver e.peer)) e (Spacious e m (.deliver e.peer)) c := by
  obtain ⟨msg, -, hrecv, hflight⟩ := System.flight_deliver Frame.datagram? hs
  have hflight : c.flight = (System.seen Frame.datagram? msg).toList ++
      s.flight Frame.datagram? e := h.flight.trans hflight
  have hshows : ∀ c' : Lossy.Channel Datagram, c'.flight = s.flight Frame.datagram? e →
      c'.buffer = (s.ep e.peer).datagrams → c'.receiving = (s.ep e.peer).muxAlive →
      c'.sent = c.sent → c'.taken = c.taken → Shows (m.record s (.deliver e.peer)) e c' :=
    fun c' h₁ h₂ h₃ h₄ h₅ => ⟨h₁, h₂, h₃, h₄.trans h.sent, h₅.trans h.taken⟩
  have hstays : System.seen Frame.datagram? msg = none →
      (s.ep e.peer).datagrams = (m.sys.ep e.peer).datagrams →
      (s.ep e.peer).muxAlive = (m.sys.ep e.peer).muxAlive →
      Follows m (m.record s (.deliver e.peer)) e (Spacious e m (.deliver e.peer)) c := by
    intro hmsg hdatagrams halive
    exact .stays (hshows c (by simpa [hmsg] using hflight) (by rw [hdatagrams, h.buffer])
      (by rw [halive, h.receiving]) rfl rfl)
  obtain ⟨hmsg, hsp⟩ | ⟨f, F, hmsg, hputs, hsp⟩ := Endpoint.recv_puts .dests hrecv
  · exact hstays (by simp [System.seen, hmsg]) hsp.datagrams hsp.muxAlive
  have hseen : System.seen Frame.datagram? msg = f.datagram? := by simp [System.seen, hmsg]
  have hother : ∀ {G : Endpoint}, f.datagram? = none →
      Endpoint.Spares .dests (m.sys.ep e.peer) [] G →
      F.datagrams = G.datagrams → F.muxAlive = G.muxAlive →
      Follows m (m.record s (.deliver e.peer)) e (Spacious e m (.deliver e.peer)) c := by
    intro G hf hG hdatagrams halive
    exact hstays (hseen.trans hf) (by rw [hsp.datagrams, hdatagrams, hG.datagrams])
      (by rw [hsp.muxAlive, halive, hG.muxAlive])
  cases hputs with
  | stream hf hG hdest halive hroom heq =>
      exact hother (by simp [Frame.datagram?, hf]) hG (by rw [heq]) (by rw [heq])
  | streamWaits hf hG hdest halive heq =>
      exact hother (by simp [Frame.datagram?, hf]) hG (by rw [heq]) (by rw [heq])
  | bind hf hG hpayload halive hroom heq =>
      exact hother (by simp [Frame.datagram?, hf]) hG (by rw [heq]) (by rw [heq])
  | bindWaits hf hG hpayload halive heq =>
      exact hother (by simp [Frame.datagram?, hf]) hG (by rw [heq]) (by rw [heq])
  | @datagram p hf halive hroom heq =>
      set d : Datagram := ⟨f.id, p.targetHost, p.targetPort, p.data⟩
      rw [hseen, show f.datagram? = some d by rw [Frame.datagram?, hf]] at hflight
      refine .moves .arrive (hshows { c with
          flight := s.flight Frame.datagram? e, buffer := c.buffer ++ [d] } rfl ?_ ?_ rfl rfl) ?_
        trivial fun _ => trivial
      · simp [hsp.datagrams, heq, h.buffer, d]
      · rw [hsp.muxAlive, heq]
        exact h.receiving
      · simp [Lossy.step, hflight, h.receiving, h.buffer, halive, hroom]
  | nothing hnothing hwhy =>
      cases hd : f.datagram? with
      | none => exact hother hd hnothing rfl rfl
      | some d =>
          rw [hseen, hd] at hflight
          have hfull : (m.sys.ep e.peer).muxAlive = false ∨
              (m.sys.ep e.peer).opts.datagramBufferSize ≤ (m.sys.ep e.peer).datagrams.length := by
            unfold Endpoint.Refuses at hwhy
            unfold Frame.datagram? at hd
            cases hp : f.payload <;> simp [hp] at hwhy hd
            exact hwhy
          refine .moves .lose (hshows { c with
              flight := s.flight Frame.datagram? e, lost := c.lost ++ [d] } rfl ?_ ?_ rfl rfl)
            (by simp [Lossy.step, hflight]) ?_ fun hcare => ?_
          · rw [hsp.datagrams, hnothing.datagrams]
            exact h.buffer
          · rw [hsp.muxAlive, hnothing.muxAlive]
            exact h.receiving
          · exact hfull.imp (fun h' => h.receiving.trans h') (fun h' => h.buffer ▸ h')
          · obtain ⟨hlt, halive⟩ := hcare rfl
            exact hfull.elim (fun h' => by simp [h'] at halive) fun h' => absurd hlt
              (Nat.not_lt.mpr h')

lemma follows_step {l : Label} (h : Shows m e c) (hs : m.step l = some m') :
    Follows m m' e (Spacious e m l) c := by
  obtain ⟨s, hsys, rfl⟩ := Option.map_eq_some_iff.mp hs
  cases l with
  | act e' a =>
      rcases e.eq_or_eq_peer e' with rfl | rfl
      · exact follows_sender h hsys
      · exact follows_receiver h hsys
  | deliver e' =>
      rcases e.eq_or_eq_peer e' with rfl | rfl
      · refine .stays ⟨?_, ?_, ?_, h.sent, h.taken⟩
        · exact h.flight.trans (System.flight_deliver_own seesOnlyForUser hsys).symm
        · rw [h.buffer, record, System.ep_of_deliver hsys]
        · rw [h.receiving, record, System.ep_of_deliver hsys]
      · exact follows_deliver h hsys

/-! ### Runs -/

lemma reach_sys {ok : Mailed → Label → Prop} {opts : Side → Options}
    (h : Reach step ok (new opts) m) : Reach System.step Any (System.new opts) m.sys := by
  induction h with
  | start => exact .start
  | @next m m' l _ _ hs ih =>
      obtain ⟨s, hsys, rfl⟩ := Option.map_eq_some_iff.mp hs
      have hrecord : (m.record s l).sys = s := by cases l <;> rfl
      rw [hrecord]
      exact .next ih trivial hsys

lemma shows_new (opts : Side → Options) (e : Side) : Shows (new opts) e Lossy.new where
  flight := (System.flight_new _ opts e).symm
  buffer := rfl
  receiving := rfl
  sent := rfl
  taken := rfl

/-- **Refinement**: what goes from one side to the other is a queue that drops what comes when it is
full. -/
theorem refines_dropTail {opts : Side → Options} (h : Reach step Any (new opts) m) (e : Side) :
    ∃ c, Shows m e c ∧ Reach (Lossy.step (opts e.peer).datagramBufferSize)
      (DropTail (opts e.peer).datagramBufferSize) Lossy.new c := by
  refine h.simulates (R := fun m c => Shows m e c) (shows_new opts e) ?_
  intro m l m' c hreach hshows _ hs
  rw [← System.opts_reach (reach_sys hreach) e.peer]
  cases follows_step hshows hs with
  | stays h => exact ⟨c, h, .start⟩
  | moves op h hs hok hcareful => exact ⟨_, h, .next .start hok hs⟩

lemma refines_careful {opts : Side → Options} (h : Reach step (Spacious e) (new opts) m) :
    ∃ c, Shows m e c ∧ Reach (Lossy.step (opts e.peer).datagramBufferSize)
      (fun _ op => op.Careful) Lossy.new c := by
  refine h.simulates (R := fun m c => Shows m e c) (shows_new opts e) ?_
  intro m l m' c hreach hshows hok hs
  rw [← System.opts_reach (reach_sys hreach) e.peer]
  cases follows_step hshows hs with
  | stays h => exact ⟨c, h, .start⟩
  | moves op h hs _ hcareful => exact ⟨_, h, .next .start (hcareful hok) hs⟩

lemma Shows.kept (h : Shows m e c) :
    c.kept = m.got e.peer ++ (m.sys.ep e.peer).datagrams ++ m.flight e := by
  rw [Lossy.Channel.kept, h.taken, h.buffer, h.flight]

/-- **The datagram service**: what `get_datagram` has given out, what waits in the buffer and what
is on its way are datagrams that the peer has sent, unchanged, each once and in the order in which
they were sent. The buffer has its bound. Nothing is missing if every datagram had four bytes of
data and found room when it arrived. -/
theorem datagrams_in_order {opts : Side → Options} (h : Reach step Any (new opts) m) (e : Side) :
    (m.got e.peer ++ (m.sys.ep e.peer).datagrams ++ m.flight e).Sublist (m.sent e) ∧
    (m.sys.ep e.peer).datagrams.length ≤ (opts e.peer).datagramBufferSize ∧
    (Reach step (Spacious e) (new opts) m →
      m.sent e = m.got e.peer ++ (m.sys.ep e.peer).datagrams ++ m.flight e) := by
  obtain ⟨c, hc, hreach⟩ := refines_dropTail h e
  have hsound := Lossy.Channel.sound (hreach.mono fun _ _ _ _ _ => trivial)
  refine ⟨?_, ?_, fun hspacious => ?_⟩
  · rw [← hc.kept, ← hc.sent]
    exact hsound.ordered
  · rw [← hc.buffer]
    exact hsound.bounded
  · obtain ⟨c', hc', hreach'⟩ := refines_careful hspacious
    rw [← hc'.kept, ← hc'.sent]
    exact Lossy.Channel.sent_eq_kept hreach'

/-- Two datagrams are sent and the first one is taken. -/
def twoDatagrams : List Label :=
  [.act .a (.sendDatagram ⟨7, [104], 53, [1, 2, 3, 4]⟩), .act .a .sendFrame, .deliver .b,
    .act .a (.sendDatagram ⟨7, [104], 53, [5, 6, 7, 8]⟩), .act .a .sendFrame, .deliver .b,
    .act .b .getDatagram]

theorem datagrams_in_order_two :
    ∃ m, run step (new fun _ => Options.new) twoDatagrams = some m ∧
      m.got .b = [⟨7, [104], 53, [1, 2, 3, 4]⟩] ∧
      m.sent .a = m.got .b ++ (m.sys.ep .b).datagrams ++ m.flight .a := by
  have hcheck : (run step (new fun _ => Options.new) twoDatagrams).any (fun m =>
      m.got .b == [⟨7, [104], 53, [1, 2, 3, 4]⟩]) = true := by
    decide +kernel
  have hspacious : RunMeets step (Spacious .a) (new fun _ => Options.new) twoDatagrams := by
    decide +kernel
  obtain ⟨m, hm, hgot⟩ := (Option.any_eq_true _ _).mp hcheck
  have hany : Reach step Any (new fun _ => Options.new) m :=
    reach_of_run hm (runMeets_of_forall (fun _ _ _ => trivial) _)
  exact ⟨m, hm, by simpa using hgot,
    (datagrams_in_order hany .a).2.2 (reach_of_run hm hspacious)⟩

end Mailed

end Penguin.Mux
