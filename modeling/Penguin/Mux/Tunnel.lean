import Penguin.Mux.CopySteps
import Penguin.Mux.Delivery
import Penguin.Mux.Eof

/-!
A stream with a copy at each end.

At either end of a flow the handle is given to a copy, which from then on is the only one that
operates on it: between the program at one end and the target at the other there are two copies,
the stream, and the two tasks. An iteration of a copy may come between any two steps of the
endpoints and of the links. What one `other` is given is what the other `other` has shown.
-/

namespace Penguin.Mux

open Penguin.Lib.Lists Penguin.Lib.Transition Relation

namespace View

variable {o : Options} {V V' : View} {ev : Ev} {sent : List Payload} {i : ℕ}

/-- There is nothing to read from handle `i`, and nothing will come for it. -/
def Drained (V : View) (i : ℕ) : Prop :=
  ∃ m, V.streams[i]? = some m ∧ m.buf = [] ∧ m.frameRx = [] ∧
    V.slot ≠ some (.established ⟨i, true⟩)

lemma Drained.of_modify (h : V.Drained i) {j : ℕ} {f : MuxStream → MuxStream}
    (hstreams : V'.streams = V.streams.modify j f) (hbuf : ∀ m, m.buf = [] → (f m).buf = [])
    (hrx : ∀ m, m.frameRx = [] → (f m).frameRx = [])
    (hslot : V'.slot = V.slot ∨ V'.slot ≠ some (.established ⟨i, true⟩)) : V'.Drained i := by
  obtain ⟨m, hm, hb, hr, hs⟩ := h
  have hs' : V'.slot ≠ some (.established ⟨i, true⟩) := hslot.elim (fun heq => heq ▸ hs) id
  by_cases hj : j = i
  · subst hj
    exact ⟨f m, by simp [hstreams, hm], hbuf m hb, hrx m hr, hs'⟩
  · exact ⟨m, by simp [hstreams, hj, hm], hb, hr, hs'⟩

lemma Drained.setStream (h : V.Drained i) {j : ℕ} {m m' : MuxStream}
    (hm : V.streams[j]? = some m)
    (hkeep : j = i → m.buf = [] → m.frameRx = [] → m'.buf = [] ∧ m'.frameRx = []) :
    (V.setStream j m').Drained i := by
  obtain ⟨m₀, hm₀, hb, hr, hs⟩ := h
  by_cases hj : j = i
  · subst hj
    obtain rfl := Option.some.inj (hm.symm.trans hm₀)
    obtain ⟨hlt, -⟩ := List.getElem?_eq_some_iff.mp hm
    obtain ⟨hb', hr'⟩ := hkeep rfl hb hr
    exact ⟨m', by simp [View.setStream, hlt], hb', hr', hs⟩
  · exact ⟨m₀, by simp [View.setStream, hj, hm₀], hb, hr, hs⟩

lemma Drained.close (h : V.Drained i) : V.close.Drained i := by
  unfold View.close
  rcases hslot : V.slot with _ | j | d | j
  case established =>
    exact h.of_modify (f := MuxStream.disallowWrite) rfl (fun _ hb => hb) (fun _ hr => hr)
      (.inr (by simp))
  all_goals
    obtain ⟨m, hm, hb, hr, -⟩ := h
    exact ⟨m, hm, hb, hr, by simp⟩

lemma Drained.disallow (h : V.Drained i) : V.disallow.Drained i := by
  unfold View.disallow
  split
  case h_1 d hslot =>
    exact h.of_modify (f := MuxStream.disallowWrite) rfl (fun _ hb => hb) (fun _ hr => hr)
      (.inl rfl)
  case h_2 => exact h

/-- A new handle is another one. -/
lemma Drained.newStream (h : V.Drained i) (m' : MuxStream) :
    ({ V with
      slot := some (.established ⟨V.streams.length, true⟩)
      streams := V.streams ++ [m'] } : View).Drained i := by
  obtain ⟨m, hm, hb, hr, -⟩ := h
  obtain ⟨hlt, -⟩ := List.getElem?_eq_some_iff.mp hm
  refine ⟨m, by rw [List.getElem?_append_left hlt, hm], hb, hr, ?_⟩
  simp only [ne_eq, Option.some.injEq, FlowSlot.established.injEq, EstablishedStreamData.mk.injEq]
  omega

lemma Drained.step (h : V.Drained i) (hs : Step o V ev sent V') : V'.Drained i := by
  have hslot : ∀ {slot : Option FlowSlot} {un un' : ℕ}, slot ≠ some (.established ⟨i, true⟩) →
      ({ V with slot := slot, unsent := un, bindUnsent := un' } : View).Drained i := by
    intro slot un un' hne
    obtain ⟨m, hm, hb, hr, -⟩ := h
    exact ⟨m, hm, hb, hr, hne⟩
  cases hs with
  | request j hfree => exact hslot (by simp)
  | bindRequest j hfree => exact hslot (by simp)
  | write buf hm => exact h.setStream hm fun _ hb hr => ⟨hb, hr⟩
  | writeFails hm => exact h.setStream hm fun _ hb hr => ⟨hb, hr⟩
  | shutdown hm => exact h.setStream hm fun _ hb hr => ⟨hb, hr⟩
  | dequeue hm hd hb hrx => exact h.setStream hm fun _ _ hr => by cases hrx.symm.trans hr
  | dequeueAck hm hd hb hrx => exact h.setStream hm fun _ _ hr => by cases hrx.symm.trans hr
  | consume amt hm =>
      exact h.setStream hm fun _ hb hr => ⟨by simp [MuxStream.consume, hb], hr⟩
  | drop d hm => exact h.setStream hm fun _ _ _ => ⟨rfl, rfl⟩
  | dropped => exact h.close
  | windDown => exact h.disallow
  | drain => exact h.close
  | recvConnect p => exact h.newStream _
  | @recvAck d n hfin hest =>
      exact h.of_modify (f := fun m => m.acknowledge n) rfl (fun _ hb => hb) (fun _ hr => hr)
        (.inl rfl)
  | recvAckNew n => exact h.newStream _
  | recvFinish => exact hslot (by simp)
  | recvFinishBind => exact hslot (by simp)
  | recvFinishRequested => exact hslot (by simp)
  | recvReset => exact h.close
  | @recvPush j m data hfin hest hm =>
      refine h.setStream hm fun hj _ _ => ?_
      obtain ⟨-, -, -, -, hs⟩ := h
      exact absurd (hj ▸ hest) hs
  | recvPushFull => exact h.close
  | _ => exact h

lemma Drained.run (h : V.Drained i) (hr : Run o V ev sent V') : V'.Drained i := by
  induction hr with
  | idle V => exact h
  | cons hs _ ih => exact ih (h.step hs)

end View

/-! ### Two endpoints and a copy at each -/

/-- A copy without its handle, which the endpoint has. -/
structure Copying (σ ε : Type) where
  other : σ
  readState : ReadState
  writeState : WriteState
  calls : List (Call ε)
  /-- History: what had been read from the handle and written to it when the copy got it. -/
  before : Bytes × Bytes

structure Tunnel (σ ε : Type) where
  sys : System
  copy : Side → Option (Copying σ ε)

inductive Tunnel.Label (σ : Type)
  | sys (l : Mux.Label)
  /-- `into_copy_bidirectional_with_buf`. -/
  | start (e : Side) (other : σ)
  /-- An iteration of `poll_read_us`. -/
  | read (e : Side)
  /-- An iteration of `poll_write_us`. -/
  | write (e : Side)
  /-- Something happens at `other`. -/
  | other (e : Side) (t : σ)

namespace Copying

variable {σ ε : Type}

/-- Everything from the stream that has been given to someone. -/
def given (k : Copying σ ε) : Bytes := k.before.1 ++ CopyBidirectional.written k.calls

/-- Everything that has been taken for the stream. -/
def shown (k : Copying σ ε) : Bytes := k.before.2 ++ CopyBidirectional.consumedFromOther k.calls

/-- The stream has ended for the copy, and it shuts `other` down. -/
def ShutsDown (k : Copying σ ε) : Prop := ∀ n, k.readState ≠ .transferring n

end Copying

namespace Tunnel

variable {σ ε : Type}

def new (opts : Side → Options) : Tunnel σ ε := ⟨System.new opts, fun _ => none⟩

/-- The copy at side `e` with its handle, as long as it has not dropped it. -/
def load (t : Tunnel σ ε) (x : UInt32) (e : Side) : Option (CopyBidirectional σ ε) :=
  match t.copy e, (t.sys.ep e).owns x 0 with
  | some k, some m => some {
      flowId := x, us := m, tx := (t.sys.ep e).txOpen, rx := (t.sys.ep e).senderAlive x 0
      other := k.other, readState := k.readState, writeState := k.writeState, sent := []
      calls := k.calls }
  | _, _ => none

def store (t : Tunnel σ ε) (e : Side) (c : CopyBidirectional σ ε) : Tunnel σ ε where
  sys := { t.sys with ep := Function.update t.sys.ep e (c.leaves (t.sys.ep e)) }
  copy := Function.update t.copy e ((t.copy e).map fun k => { k with
    other := c.other, readState := c.readState, writeState := c.writeState, calls := c.calls })

/-- The action is an operation on a handle that has been given to a copy. Such a handle can still
be dropped: that is what happens when the copy is. -/
def operatesOnCopied (t : Tunnel σ ε) (x : UInt32) : Mux.Label → Bool
  | .act e a => (t.copy e).isSome && a.operates x
  | .deliver _ => false

def step (o : Side → BufReadWrite σ ε) (x : UInt32) (t : Tunnel σ ε) :
    Label σ → Option (Tunnel σ ε)
  | .sys l =>
    if t.operatesOnCopied x l then none else (t.sys.step l).map fun s => { t with sys := s }
  | .start e other =>
    match t.copy e, (t.sys.ep e).owns x 0 with
    | none, some m => some { t with copy := Function.update t.copy e (some
        ⟨other, .transferring 0, .transferring 0, [], (m.taken, m.written)⟩) }
    | _, _ => none
  | .read e => (t.load x e).map fun c => t.store e (c.readOnce (o e))
  | .write e => (t.load x e).map fun c => t.store e (c.writeOnce (o e))
  | .other e other => (t.copy e).map fun k =>
      { t with copy := Function.update t.copy e (some { k with other := other }) }

/-- Flow `x` is used for one stream, and nothing empty is written to it. -/
def Fit (x : UInt32) (t : Tunnel σ ε) : Label σ → Prop
  | .sys l => System.WritesData x t.sys l ∧ System.UsedOnce x t.sys l
  | _ => True

variable {o : Side → BufReadWrite σ ε} {opts : Side → Options} {x : UInt32} {t t' : Tunnel σ ε}
  {e : Side} {c : CopyBidirectional σ ε} {k k' : Copying σ ε}

/-! ### A copy makes steps of its endpoint -/

/-- A run of two endpoints on which flow `x` is used as a copy wants it. -/
abbrev Runs (x : UInt32) : System → System → Prop :=
  Reach System.step fun s l => System.WritesData x s l ∧ System.UsedOnce x s l

lemma runs_operated {s : System} {E : Endpoint} (h : (s.ep e).Operated x E) :
    Runs x s { s with ep := Function.update s.ep e E } := by
  induction h with
  | refl =>
      rw [Function.update_eq_self]
      exact .start
  | @tail F G _ hop ih =>
      obtain ⟨a, ha, hact⟩ := hop
      refine .next (l := .act e a) ih ?_ ?_
      · cases a <;> first | exact ha.elim | exact ⟨trivial, trivial⟩
      · simp [System.step, hact]

lemma load_eq (h : t.load x e = some c) : c.On (t.sys.ep e) ∧ c.flowId = x ∧
    ∃ k, t.copy e = some k ∧ c.readState = k.readState ∧ c.writeState = k.writeState ∧
      c.calls = k.calls := by
  unfold load at h
  split at h
  case h_1 k m hk hm =>
    obtain rfl := Option.some.inj h
    exact ⟨⟨hm, rfl, rfl, rfl⟩, rfl, k, hk, rfl, rfl, rfl⟩
  case h_2 => cases h

/-- A copy finds its handle as it has left it. -/
lemma load_store {c' : CopyBidirectional σ ε} (h : t.load x e = some c) (hc : c.Keeps c') :
    (t.store e c').load x e = some { c' with sent := [] } := by
  obtain ⟨hon, rfl, k, hk, -⟩ := load_eq h
  have hdropped : c'.us.dropped = false := hc.dropped.trans (Endpoint.owns_eq hon.owns).2.2
  have howns : (c'.leaves (t.sys.ep e)).owns c'.flowId 0 = some c'.us := by
    rw [CopyBidirectional.leaves, hc.flowId]
    exact Endpoint.owns_update hon.owns hdropped
  have htx : (c'.leaves (t.sys.ep e)).txOpen = c'.tx := by
    rw [CopyBidirectional.leaves, Endpoint.txOpen_update, hc.tx, hon.tx]
  have hrx : (c'.leaves (t.sys.ep e)).senderAlive c'.flowId 0 = c'.rx := by
    rw [CopyBidirectional.leaves, Endpoint.senderAlive, Endpoint.flows_update, hc.rx, hon.rx,
      hc.flowId]
    rfl
  rw [← hc.flowId]
  simp [load, store, hk, howns, htx, hrx]

lemma store_store {c₁ c₂ : CopyBidirectional σ ε} (h : c₂.flowId = c₁.flowId) :
    (t.store e c₁).store e c₂ = t.store e (c₂.after c₁.sent) := by
  simp [store, CopyBidirectional.leaves, CopyBidirectional.after, h, Endpoint.update_update,
    Function.comp_def]

lemma store_load (h : t.load x e = some c) : t.store e c = t := by
  unfold load at h
  split at h
  case h_2 => cases h
  case h_1 k m hk hm =>
    obtain rfl := Option.some.inj h
    have hsame : (t.sys.ep e).update x 0 m [] = t.sys.ep e :=
      Endpoint.update_self (Endpoint.owns_eq hm).1
    simp only [store, CopyBidirectional.leaves, hsame, Function.update_eq_self, hk, Option.map_some]
    rw [← hk, Function.update_eq_self]

/-- Iterations of one loop, one after the other, are as many steps. -/
lemma runs_iterate {f : CopyBidirectional σ ε → CopyBidirectional σ ε} {l : Label σ}
    (hl : ∀ t : Tunnel σ ε, Fit x t l ∧ step o x t l = (t.load x e).map fun c => t.store e (f c))
    (hafter : ∀ sent c, f (c.after sent) = (f c).after sent)
    (hkeeps : ∀ (t : Tunnel σ ε) c, t.load x e = some c → c.Keeps (f c))
    {c' : CopyBidirectional σ ε}
    (h : t.load x e = some c) (hc : c.Keeps c') (j : ℕ) :
    c.Keeps (f^[j] c') ∧ Reach (step o x) (Fit x) (t.store e c') (t.store e (f^[j] c')) := by
  induction j generalizing c' with
  | zero => exact ⟨hc, .start⟩
  | succ j ih =>
      have hload := load_store h hc
      have hback : f c' = (f { c' with sent := [] }).after c'.sent := by
        rw [← hafter]
        simp [CopyBidirectional.after]
      have hone := hkeeps _ _ hload
      have hnext : c.Keeps (f c') := by
        rw [hback]
        exact ⟨hone.flowId.trans hc.flowId, hone.tx.trans hc.tx, hone.rx.trans hc.rx,
          hone.dropped.trans hc.dropped⟩
      obtain ⟨hrest, hruns⟩ := ih hnext
      refine ⟨hrest, Reach.trans (.next .start (hl _).1 ?_) hruns⟩
      have hflow : (f { c' with sent := [] }).flowId = c'.flowId := hone.flowId
      rw [(hl _).2, hload, Option.map_some, store_store hflow, ← hback]

/-- **A call of `poll` is a run of the tunnel**, in which nothing else happens. -/
theorem runs_poll {fuel : ℕ} {c' : CopyBidirectional σ ε}
    {r : Poll (Except (CopyError ε) (UInt64 × UInt64))} (h : t.load x e = some c)
    (hp : c.poll (o e) fuel = some (c', r)) : Reach (step o x) (Fit x) t (t.store e c') := by
  obtain ⟨i, j, rfl⟩ := CopyBidirectional.poll_iterates hp
  have hread := runs_iterate (o := o) (l := .read e) (fun _ => ⟨trivial, rfl⟩)
    (fun _ _ => CopyBidirectional.readOnce_after)
    (fun _ _ h => (CopyBidirectional.operated_readOnce (load_eq h).1).2.toKeeps) h
    ⟨rfl, rfl, rfl, rfl⟩ i
  have hwrite := runs_iterate (o := o) (l := .write e) (fun _ => ⟨trivial, rfl⟩)
    (fun _ _ => CopyBidirectional.writeOnce_after)
    (fun _ _ h => (CopyBidirectional.operated_writeOnce (load_eq h).1).2.toKeeps) h hread.1 j
  rw [store_load h] at hread
  exact hread.2.trans hwrite.2

/-- **A copy is a user of its endpoint**: without the copies, a run is one of the two endpoints. -/
lemma runs_sys (h : Reach (step o x) (Fit x) (new opts) t) :
    Runs x (System.new opts) t.sys := by
  refine h.invariant (I := fun t => Runs x (System.new opts) t.sys) .start ?_
  intro t l t' hr hfit hs
  cases l with
  | sys l =>
      simp only [step] at hs
      split_ifs at hs
      obtain ⟨s, hstep, rfl⟩ := Option.map_eq_some_iff.mp hs
      exact .next hr hfit hstep
  | start e other =>
      simp only [step] at hs
      split at hs
      case h_1 =>
        obtain rfl := Option.some.inj hs
        exact hr
      case h_2 => cases hs
  | read e =>
      obtain ⟨c, hc, rfl⟩ := Option.map_eq_some_iff.mp hs
      obtain ⟨hon, rfl, -⟩ := load_eq hc
      exact hr.trans (runs_operated (CopyBidirectional.operated_readOnce hon).1)
  | write e =>
      obtain ⟨c, hc, rfl⟩ := Option.map_eq_some_iff.mp hs
      obtain ⟨hon, rfl, -⟩ := load_eq hc
      exact hr.trans (runs_operated (CopyBidirectional.operated_writeOnce hon).1)
  | other e other =>
      obtain ⟨k, -, rfl⟩ := Option.map_eq_some_iff.mp hs
      exact hr

/-! ### What a copy and its handle agree on -/

/-- The handle has the record of the copy, and is at its end if the copy is. -/
structure Kept (x : UInt32) (E : Endpoint) (k : Copying σ ε) : Prop where
  record : ∃ m, (E.streams x)[0]? = some m ∧ m.taken = k.given ∧ m.written = k.shown
  read : k.readState.amount = UInt64.ofNat (CopyBidirectional.written k.calls).length
  wrote : k.writeState.amount = UInt64.ofNat (CopyBidirectional.consumedFromOther k.calls).length
  drained : k.ShutsDown → (E.view x).Drained 0

/-- A step of the endpoint that is no operation on the handle. -/
lemma Kept.of_step {E E' : Endpoint} {ev : Endpoint.Event} (h : Kept x E k)
    (hs : E.step ev = some E') (hop : ∀ a, ev = .act a → a.operates x = false) : Kept x E' k where
  record := by
    have hpermits : ∀ a, ev = .act a → (Watch.record x).Permits a := by
      rintro a ha id hid rfl
      rw [hop a ha] at hid
      cases hid
    have hpre : (E.streams x).map (fun m => (m.taken, m.written)) <+:
        (E'.streams x).map fun m => (m.taken, m.written) :=
      Endpoint.watched_of_step hs (w := Watch.record x) rfl hpermits
    obtain ⟨m, hm, htaken, hwritten⟩ := h.record
    have hkey : ((E.streams x).map fun m => (m.taken, m.written))[0]? =
        some (k.given, k.shown) := by
      rw [List.getElem?_map, hm, ← htaken, ← hwritten]
      rfl
    have hkey' := getElem?_of_prefix hpre hkey
    rw [List.getElem?_map] at hkey'
    obtain ⟨m', hm', heq⟩ := Option.map_eq_some_iff.mp hkey'
    exact ⟨m', hm', Prod.ext_iff.mp heq⟩
  read := h.read
  wrote := h.wrote
  drained hend := by
    obtain ⟨_, hr⟩ := Endpoint.step_run x hs
    exact (h.drained hend).run hr

/-- The handle after an iteration. -/
lemma streams_leaves {E : Endpoint} {c c' : CopyBidirectional σ ε} (hon : c.On E)
    (hid : c'.flowId = c.flowId) : ((c'.leaves E).streams c.flowId)[0]? = some c'.us := by
  rw [CopyBidirectional.leaves, hid]
  exact Endpoint.streams_update (Endpoint.owns_eq hon.owns).1

lemma view_leaves {E : Endpoint} {c c' : CopyBidirectional σ ε} (hon : c.On E)
    (hid : c'.flowId = c.flowId) :
    (c'.leaves E).view c.flowId = (E.view c.flowId).setStream 0 c'.us := by
  rw [CopyBidirectional.leaves, hid]
  exact Endpoint.view_update _ _ (Endpoint.owns_eq hon.owns).1

/-- The record of a handle that a copy has. -/
lemma Kept.us {E : Endpoint} (h : Kept c.flowId E k) (hon : c.On E) :
    c.us.taken = k.given ∧ c.us.written = k.shown := by
  obtain ⟨hm, -⟩ := Endpoint.owns_eq hon.owns
  obtain ⟨m, hm', hrecord⟩ := h.record
  obtain rfl := Option.some.inj (hm.symm.trans hm')
  exact hrecord

lemma Kept.readOnce {E : Endpoint} {c' : CopyBidirectional σ ε} (h : Kept c.flowId E k)
    (hon : c.On E) (hstate : c.readState = k.readState) (hwstate : c.writeState = k.writeState)
    (hcalls : c.calls = k.calls) (hdata : (E.view c.flowId).Filled) (hr : c.ReadOnce c') :
    Kept c.flowId (c'.leaves E) { k with
      other := c'.other, readState := c'.readState, writeState := c'.writeState
      calls := c'.calls } := by
  obtain ⟨htaken, hwritten⟩ := h.us hon
  obtain ⟨d, hd, hcalls', hamount⟩ := hr.taken
  obtain ⟨hm, -⟩ := Endpoint.owns_eq hon.owns
  have hview := view_leaves (E := E) hon hr.flowId
  constructor
  case record =>
    refine ⟨c'.us, streams_leaves hon hr.flowId, ?_, ?_⟩
    · rw [hd, htaken, Copying.given, Copying.given, hcalls', hcalls, List.append_assoc]
    · rw [hr.wrote, hwritten, Copying.shown, Copying.shown, hr.consumed, hcalls]
  case read => rw [hamount, hcalls', hcalls, hstate, h.read, List.length_append, UInt64.ofNat_add]
  case wrote => rw [hr.writeState, hwstate, hr.consumed, hcalls, h.wrote]
  case drained =>
    intro hend
    rw [hview]
    obtain ⟨hbefore, hus⟩ | hempty := hr.ended hend
    · refine (h.drained fun n => hstate ▸ hbefore n).setStream hm fun _ hb hrx => ?_
      rw [hus]
      exact ⟨hb, hrx⟩
    · -- the copy has seen the end of the stream just now
      obtain ⟨hb, hrx, hgone⟩ := hempty (hdata c.us (List.mem_of_getElem? hm))
      obtain ⟨hlt, -⟩ := List.getElem?_eq_some_iff.mp hm
      refine ⟨c'.us, ?_, hb, hrx, ?_⟩
      · exact List.getElem?_set_self hlt
      · rw [hon.rx] at hgone
        simpa [Endpoint.senderAlive, Endpoint.view] using hgone

lemma Kept.writeOnce {E : Endpoint} {c' : CopyBidirectional σ ε} (h : Kept c.flowId E k)
    (hon : c.On E) (hstate : c.readState = k.readState) (hwstate : c.writeState = k.writeState)
    (hcalls : c.calls = k.calls) (hw : c.WriteOnce c') :
    Kept c.flowId (c'.leaves E) { k with
      other := c'.other, readState := c'.readState, writeState := c'.writeState
      calls := c'.calls } := by
  obtain ⟨htaken, hwritten⟩ := h.us hon
  obtain ⟨d, hd, hcalls', hamount⟩ := hw.wrote
  obtain ⟨hm, -⟩ := Endpoint.owns_eq hon.owns
  constructor
  case record =>
    refine ⟨c'.us, streams_leaves hon hw.flowId, ?_, ?_⟩
    · rw [hw.taken, htaken, Copying.given, Copying.given, hw.written, hcalls]
    · rw [hd, hwritten, Copying.shown, Copying.shown, hcalls', hcalls, List.append_assoc]
  case read => rw [hw.readState, hstate, hw.written, hcalls, h.read]
  case wrote => rw [hamount, hcalls', hcalls, hwstate, h.wrote, List.length_append, UInt64.ofNat_add]
  case drained =>
    intro hend
    rw [view_leaves hon hw.flowId]
    refine (h.drained fun n => ?_).setStream hm fun _ hb hrx => ?_
    · rw [← hstate, ← hw.readState]
      exact hend n
    · rw [hw.buf, hw.frameRx]
      exact ⟨hb, hrx⟩

/-- After an iteration at one side, the copies are as they were or the one that has made it. -/
lemma kept_store {c' : CopyBidirectional σ ε} (hI : ∀ e k, t.copy e = some k →
    Kept x (t.sys.ep e) k) (hk : t.copy e = some k)
    (h : Kept x (c'.leaves (t.sys.ep e)) { k with
      other := c'.other, readState := c'.readState, writeState := c'.writeState
      calls := c'.calls }) {e' : Side} {k' : Copying σ ε}
    (hk' : (t.store e c').copy e' = some k') : Kept x ((t.store e c').sys.ep e') k' := by
  by_cases he : e' = e
  · subst he
    simp only [store, Function.update_self, hk, Option.map_some, Option.some.injEq] at hk'
    subst hk'
    simpa [store] using h
  · simp only [store, Function.update_of_ne he] at hk' ⊢
    exact hI e' k' hk'

/-- **Every copy and its handle agree**, whatever the endpoints do between its iterations. -/
lemma kept (h : Reach (step o x) (Fit x) (new opts) t) :
    ∀ e k, t.copy e = some k → Kept x (t.sys.ep e) k := by
  induction h with
  | start => simp [new]
  | @next t t' l hr hfit hs ih =>
      cases l with
      | sys l =>
          simp only [step] at hs
          split_ifs at hs with hop
          obtain ⟨s, hstep, rfl⟩ := Option.map_eq_some_iff.mp hs
          intro e k hk
          obtain heq | ⟨ev, hev, hact⟩ := System.ep_of_step hstep e
          · rw [heq]
            exact ih e k hk
          · -- the handle has been given away, so that this is no operation on it
            refine (ih e k hk).of_step hev fun a ha => ?_
            rw [hact a ha] at hop
            simpa [operatesOnCopied, show t.copy e = some k from hk] using hop
      | start e other =>
          simp only [step] at hs
          split at hs
          case h_2 => cases hs
          case h_1 m hnone hm =>
            obtain rfl := Option.some.inj hs
            intro e' k hk
            by_cases he : e' = e
            · subst he
              simp only [Function.update_self, Option.some.injEq] at hk
              subst hk
              obtain ⟨hm, -⟩ := Endpoint.owns_eq hm
              exact ⟨⟨m, hm, by simp [Copying.given, CopyBidirectional.written],
                by simp [Copying.shown, CopyBidirectional.consumedFromOther]⟩, rfl, rfl,
                fun hend => absurd rfl (hend 0)⟩
            · simp only [Function.update_of_ne he] at hk
              exact ih e' k hk
      | read e =>
          obtain ⟨c, hc, rfl⟩ := Option.map_eq_some_iff.mp hs
          obtain ⟨hon, rfl, k, hk, hstate, hwstate, hcalls⟩ := load_eq hc
          have hfilled := System.filled ((runs_sys hr).mono fun _ _ _ hok _ => hok.1) e
          exact fun e' k' hk' => kept_store ih hk ((ih e k hk).readOnce hon hstate hwstate hcalls
            hfilled (CopyBidirectional.operated_readOnce hon).2) hk'
      | write e =>
          obtain ⟨c, hc, rfl⟩ := Option.map_eq_some_iff.mp hs
          obtain ⟨hon, rfl, k, hk, hstate, hwstate, hcalls⟩ := load_eq hc
          exact fun e' k' hk' => kept_store ih hk ((ih e k hk).writeOnce hon hstate hwstate hcalls
            (CopyBidirectional.operated_writeOnce hon).2) hk'
      | other e other =>
          obtain ⟨k, hk, rfl⟩ := Option.map_eq_some_iff.mp hs
          intro e' k' hk'
          by_cases he : e' = e
          · subst he
            simp only [Function.update_self, Option.some.injEq] at hk'
            subst hk'
            exact { ih e' k hk with }
          · simp only [Function.update_of_ne he] at hk'
            exact ih e' k' hk'

/-- **A tunnel**: what `other` at one end has been given is a prefix of what `other` at the other
end has shown. When the copy shuts `other` down after a `Finish` of its peer, and nothing was reset
before, it is all of it, and both copies have counted the same, modulo `2 ^ 64`. -/
theorem tunnel_delivers (h : Reach (step o x) (Fit x) (new opts) t) (hk : t.copy e = some k)
    (hk' : t.copy e.peer = some k') :
    k.given <+: k'.shown ∧
    (k.ShutsDown → (t.load x e).isSome = true → ∀ before after,
      t.sys.log = before ++ (e, ⟨x, .finish⟩) :: after → (∀ e', (e', ⟨x, .reset⟩) ∉ before) →
        k.given = k'.shown ∧ UInt64.ofNat k.before.1.length + k.readState.amount =
          UInt64.ofNat k'.before.2.length + k'.writeState.amount) := by
  have hkept := kept h e k hk
  have hkept' := kept h e.peer k' hk'
  obtain ⟨m, hm, htaken, -⟩ := hkept.record
  obtain ⟨m', hm', -, hwritten'⟩ := hkept'.record
  have honce : Reach System.step (System.UsedOnce x) (System.new opts) t.sys :=
    (runs_sys h).mono fun _ _ _ hok _ => hok.2
  obtain ⟨-, hpre, hall⟩ := System.reliable_delivery honce e
  have hmem := List.mem_of_getElem? hm
  have hpeer : t.sys.written x e.peer = k'.shown := by
    rw [System.written, System.streams_eq_of_mem honce (List.mem_of_getElem? hm')]
    simpa using hwritten'
  refine ⟨?_, fun hend hload before after hlog hreset => ?_⟩
  · rw [← htaken, ← hpeer]
    exact hpre m hmem
  · obtain ⟨c, hc⟩ := Option.isSome_iff_exists.mp hload
    obtain ⟨hon, rfl, -⟩ := load_eq hc
    obtain ⟨m₀, hm₀, hbuf, hrx, -⟩ := hkept.drained hend
    obtain rfl := Option.some.inj (hm.symm.trans hm₀)
    obtain ⟨hm₁, -, hdropped⟩ := Endpoint.owns_eq hon.owns
    obtain rfl := Option.some.inj (hm.symm.trans hm₁)
    have heq : k.given = k'.shown := by
      rw [← htaken, ← hpeer]
      exact hall before after hlog hreset _ hmem hdropped hrx hbuf
    refine ⟨heq, ?_⟩
    have hlen := congrArg List.length heq
    rw [Copying.given, Copying.shown, List.length_append, List.length_append] at hlen
    rw [hkept.read, hkept'.wrote, ← UInt64.ofNat_add, ← UInt64.ofNat_add, hlen]

/-- The bytes to read and those that were written, with a writer that takes them one by one. -/
def tape : BufReadWrite (Bytes × Bytes) Unit where
  pollFillBuf s := (s, .ready (.ok s.1))
  consume s amt := (s.1.drop amt, s.2)
  pollWrite s buf := ((s.1, s.2 ++ buf.take 1), .ready (.ok ⟨min 1 buf.length, by omega⟩))
  pollFlush s := (s, .ready (.ok ()))
  pollShutdown s := (s, .ready (.ok ()))

/-- Two bytes go from one end to the other, and both ends are shut down. -/
def twoBytes : List (Label (Bytes × Bytes)) :=
  (System.openRun .a 1).map .sys ++
    [.start .a ([7, 8], []), .start .b ([], []), .write .a, .write .a, .sys (.act .a .sendFrame),
      .sys (.act .a .sendFrame), .sys (.deliver .b), .read .b, .read .b, .sys (.deliver .b),
      .read .b]

/-- Only the first step is one that the conditions are about. -/
lemma fit_twoBytes (o : Side → BufReadWrite (Bytes × Bytes) ε) :
    RunMeets (step o 1) (Fit 1) (new opts) twoBytes := by
  refine ⟨⟨trivial, fun _ _ => rfl⟩, fun s _ => runMeets_of_forall ?_ s⟩
  intro l hl
  simp only [List.mem_append, List.mem_cons, List.not_mem_nil, or_false, List.append_eq,
    List.mem_map] at hl
  rcases hl with ⟨l, hl, rfl⟩ | hl
  · rcases hl with rfl | rfl | rfl | rfl | rfl | rfl | rfl <;> exact fun _ => ⟨trivial, trivial⟩
  · rcases hl with rfl | rfl | rfl | rfl | rfl | rfl | rfl | rfl | rfl | rfl | rfl <;>
      first | exact fun _ => trivial | exact fun _ => ⟨trivial, trivial⟩

/-- A run of a tunnel to the end of one direction. -/
theorem tunnel_delivers_two_bytes : ∃ (t : Tunnel (Bytes × Bytes) Unit) (k k' : Copying _ Unit),
    run (step (fun _ => tape) 1) (new fun _ => Options.new) twoBytes = some t ∧
    t.copy .b = some k ∧ t.copy .a = some k' ∧ k.other.2 = [7, 8] ∧ k.readState = .done 2 ∧
    k.given <+: k'.shown ∧ k.given = k'.shown ∧ k'.writeState.amount = 2 := by
  have hcheck : (run (step (fun _ => tape) 1) (new (ε := Unit) fun _ => Options.new) twoBytes).any
      (fun t => (t.load 1 .b).isSome &&
        t.sys.log == [(.b, ⟨1, .connect ⟨512, 0, []⟩⟩), (.a, ⟨1, .acknowledge 512⟩),
          (.b, ⟨1, .push [7, 8]⟩)] ++ [(.b, ⟨1, .finish⟩)] &&
        (t.copy .b).any (fun k => k.other.2 == [7, 8] && k.readState == .done 2 &&
          k.before == ([], [])) &&
        (t.copy .a).any fun k' => k'.before == ([], [])) = true := by
    decide +kernel
  obtain ⟨t, ht, hfacts⟩ := (Option.any_eq_true _ _).mp hcheck
  simp only [Bool.and_eq_true, beq_iff_eq] at hfacts
  obtain ⟨⟨⟨hload, hlog⟩, hk⟩, hk'⟩ := hfacts
  obtain ⟨k, hk, hfacts⟩ := (Option.any_eq_true _ _).mp hk
  obtain ⟨k', hk', hbefore'⟩ := (Option.any_eq_true _ _).mp hk'
  simp only [Bool.and_eq_true, beq_iff_eq] at hfacts hbefore'
  obtain ⟨⟨hother, hdone⟩, hbefore⟩ := hfacts
  have hreach := reach_of_run ht (fit_twoBytes _)
  obtain ⟨hpre, hall⟩ := tunnel_delivers hreach hk (e := .b) hk'
  obtain ⟨heq, hcount⟩ := hall (by simp [Copying.ShutsDown, hdone]) hload _ [] hlog (by simp)
  have hcount : 2 = k'.writeState.amount := by
    simpa [hbefore, hbefore', hdone, ReadState.amount] using hcount
  exact ⟨t, k, k', ht, hk, hk', hother, hdone, hpre, heq, hcount.symm⟩

end Tunnel

end Penguin.Mux
