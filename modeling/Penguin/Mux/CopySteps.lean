import Penguin.Mux.CopyFaithful
import Penguin.Mux.Actions
import Penguin.Mux.Waiting

/-!
The iterations of a copy as operations on a handle.

A call of `poll` is a number of iterations of its two loops. What an iteration does with its stream
are operations on a handle of an endpoint, one after the other, and what it does with `other` is in
the record of the calls. So a copy can be run together with the endpoint that has its stream, and
the task can get in between two iterations.
-/

namespace Penguin.Mux

open Penguin.Lib.Loop Relation

namespace CopyBidirectional

variable {σ ε : Type} {o : BufReadWrite σ ε} {c c' : CopyBidirectional σ ε}

/-- One iteration of `poll_read_us`. -/
def readOnce (o : BufReadWrite σ ε) (c : CopyBidirectional σ ε) : CopyBidirectional σ ε :=
  match c.readState with
  | .transferring n => Sum.elim Prod.fst Prod.fst (readBody o (c, n))
  | .shuttingDown n => (shutDown o c n).1
  | .done _ => c

/-- One iteration of `poll_write_us`. -/
def writeOnce (o : BufReadWrite σ ε) (c : CopyBidirectional σ ε) : CopyBidirectional σ ε :=
  match c.writeState with
  | .transferring n => Sum.elim Prod.fst Prod.fst (writeBody o (c, n))
  | .done _ => c

lemma readOnce_of_transferring {n : UInt64} (h : c.readState = .transferring n) :
    c.readOnce o = Sum.elim Prod.fst Prod.fst (readBody o (c, n)) := by
  simp only [readOnce, h]

lemma writeOnce_of_transferring {n : UInt64} (h : c.writeState = .transferring n) :
    c.writeOnce o = Sum.elim Prod.fst Prod.fst (writeBody o (c, n)) := by
  simp only [writeOnce, h]

lemma pollReadUs_iterates {fuel : ℕ} {x : Stop σ ε} (h : c.pollReadUs o fuel = some x) :
    ∃ j, x.1 = (readOnce o)^[j] c := by
  unfold pollReadUs at h
  split at h
  case h_1 n hs =>
    refine loop_iterates (f := readOnce o) (I := fun y => y.1.readState = .transferring y.2)
      Prod.fst Prod.fst ?_ ?_ hs h
    · intro y y' hy hb
      have hr := reads o y.1 y.2
      rw [show readBody o (y.1, y.2) = .inl y' from hb] at hr
      refine ⟨by rw [readOnce_of_transferring hy, show readBody o (y.1, y.2) = _ from hb]; rfl, ?_⟩
      cases hr with
      | writes => rfl
    · intro y z hy hb
      rw [readOnce_of_transferring hy, show readBody o (y.1, y.2) = _ from hb]
      rfl
  case h_2 n hs =>
    obtain rfl := Option.some.inj h
    exact ⟨1, by simp [readOnce, hs]⟩
  case h_3 n hs =>
    obtain rfl := Option.some.inj h
    exact ⟨0, rfl⟩

lemma pollWriteUs_iterates {fuel : ℕ} {x : Stop σ ε} (h : c.pollWriteUs o fuel = some x) :
    ∃ j, x.1 = (writeOnce o)^[j] c := by
  unfold pollWriteUs at h
  split at h
  case h_1 n hs =>
    refine loop_iterates (f := writeOnce o) (I := fun y => y.1.writeState = .transferring y.2)
      Prod.fst Prod.fst ?_ ?_ hs h
    · intro y y' hy hb
      have hw := writes o y.1 y.2
      rw [show writeBody o (y.1, y.2) = .inl y' from hb] at hw
      refine ⟨?_, ?_⟩
      · rw [writeOnce_of_transferring hy, show writeBody o (y.1, y.2) = _ from hb]
        rfl
      cases hw with
      | pushes => rfl
    · intro y z hy hb
      rw [writeOnce_of_transferring hy, show writeBody o (y.1, y.2) = _ from hb]
      rfl
  case h_2 n hs =>
    obtain rfl := Option.some.inj h
    exact ⟨0, rfl⟩

/-- **A call of `poll` is a number of iterations**, first of one loop and then of the other. -/
theorem poll_iterates {fuel : ℕ} {r : Poll (Except (CopyError ε) (UInt64 × UInt64))}
    (h : c.poll o fuel = some (c', r)) :
    ∃ j k, c' = (writeOnce o)^[k] ((readOnce o)^[j] c) := by
  simp only [poll, Option.bind_eq_bind, Option.pure_def, Option.bind_eq_some_iff,
    Option.some.injEq, Prod.mk.injEq, Prod.exists] at h
  obtain ⟨c₁, r', hread, c₂, w, hwrite, rfl, -⟩ := h
  obtain ⟨j, hj⟩ := pollReadUs_iterates hread
  obtain ⟨k, hk⟩ := pollWriteUs_iterates hwrite
  exact ⟨j, k, hk.trans (congrArg _ hj)⟩

/-! ### The frames that a copy has queued are not read by it -/

/-- The copy with frames that it had queued before. -/
def after (l : List Frame) (c : CopyBidirectional σ ε) : CopyBidirectional σ ε :=
  { c with sent := l ++ c.sent }

section After

variable {l : List Frame}

lemma fillUs_after : (c.after l).fillUs = (c.fillUs.1.after l, c.fillUs.2) := by
  simp [fillUs, after]

lemma shutDown_after (n : UInt64) :
    shutDown o (c.after l) n = ((shutDown o c n).1.after l, (shutDown o c n).2) := by
  have hcall : (c.after l).shutdownOther o =
      ((c.shutdownOther o).1.after l, (c.shutdownOther o).2) := rfl
  simp only [shutDown, hcall]
  rcases c.shutdownOther o with ⟨c₁, (_ | _) | _⟩ <;> rfl

lemma readBody_after (n : UInt64) : readBody o (c.after l, n) =
    (readBody o (c, n)).map (Prod.map (after l) id) (Prod.map (after l) id) := by
  simp only [readBody, fillUs_after]
  rcases c.fillUs with ⟨c₁, buf | _⟩
  swap
  · rfl
  have hend := shutDown_after (o := o) (l := l) (c := { c₁ with readState := .shuttingDown n }) n
  have hcall : (c₁.after l).writeOther o buf =
      ((c₁.writeOther o buf).1.after l, (c₁.writeOther o buf).2) := rfl
  simp only [hcall]
  split_ifs
  · exact congrArg Sum.inr hend
  · rcases c₁.writeOther o buf with ⟨c₂, (_ | _) | _⟩ <;> rfl

lemma readOnce_after : (c.after l).readOnce o = (c.readOnce o).after l := by
  have hstate : (c.after l).readState = c.readState := rfl
  simp only [readOnce, hstate]
  split
  · rename_i n _
    rw [readBody_after]
    rcases readBody o (c, n) with _ | _ <;> rfl
  · rename_i n _
    rw [shutDown_after]
  · rfl

lemma flush_after : (c.after l).flush o = ((c.flush o).1.after l, (c.flush o).2) := by
  have hcall : (c.after l).flushOther o =
      ((c.flushOther o).1.after l, (c.flushOther o).2) := rfl
  simp only [flush, hcall]
  rcases c.flushOther o with ⟨c₁, (_ | _) | _⟩ <;> rfl

lemma finish_after (n : UInt64) :
    (c.after l).finish n = ((c.finish n).1.after l, (c.finish n).2) := by
  have hcall : (c.after l).shutdownUs = (c.shutdownUs.1.after l, c.shutdownUs.2) := by
    simp [shutdownUs, after]
  simp only [finish, hcall]
  rcases c.shutdownUs with ⟨c₁, _ | _⟩ <;> rfl

lemma sendPush_after (buf : Bytes) :
    (c.after l).sendPush buf = ((c.sendPush buf).1.after l, (c.sendPush buf).2) := by
  have htx : (c.after l).tx = c.tx := rfl
  unfold sendPush
  rw [htx]
  split_ifs
  · simp [after]
  · rfl

lemma writeBody_after (n : UInt64) : writeBody o (c.after l, n) =
    (writeBody o (c, n)).map (Prod.map (after l) id) (Prod.map (after l) id) := by
  have hfill : (c.after l).fillOther o = ((c.fillOther o).1.after l, (c.fillOther o).2) := rfl
  simp only [writeBody, hfill]
  rcases c.fillOther o with ⟨c₁, (_ | buf) | _⟩
  · rfl
  · have hpermission : (c₁.after l).obtainWritePermission =
        (c₁.obtainWritePermission.1.after l, c₁.obtainWritePermission.2) := rfl
    simp only [hpermission]
    split_ifs
    · exact congrArg Sum.inr (finish_after n)
    · rcases c₁.obtainWritePermission with ⟨c₂, (_ | _) | _⟩
      · rfl
      · simp only [sendPush_after]
        rcases c₂.sendPush buf with ⟨c₃, _ | _⟩ <;> rfl
      · rfl
  · exact congrArg Sum.inr flush_after

lemma writeOnce_after : (c.after l).writeOnce o = (c.writeOnce o).after l := by
  have hstate : (c.after l).writeState = c.writeState := rfl
  simp only [writeOnce, hstate]
  split
  · rename_i n _
    rw [writeBody_after]
    rcases writeBody o (c, n) with _ | _ <;> rfl
  · rfl

end After

end CopyBidirectional

/-! ### Updates of a handle -/

namespace Endpoint

variable {E E' F : Endpoint} {id x : UInt32} {i : ℕ} {m m' : MuxStream} {sent sent' : List Frame}

lemma modifyStream_send (f : Frame) (g : MuxStream → MuxStream) :
    (E.send f).modifyStream id i g = (E.modifyStream id i g).send f := by
  have htx : (E.modifyStream id i g).txOpen = E.txOpen := rfl
  unfold send
  rw [htx]
  split_ifs <;> rfl

lemma modifyStream_foldl_send (sent : List Frame) (g : MuxStream → MuxStream) :
    (sent.foldl send E).modifyStream id i g = sent.foldl send (E.modifyStream id i g) := by
  induction sent generalizing E with
  | nil => rfl
  | cons f sent ih => rw [List.foldl_cons, List.foldl_cons, ih, modifyStream_send]

/-- Two updates of one handle are one. -/
lemma update_update :
    (E.update id i m sent).update id i m' sent' = E.update id i m' (sent ++ sent') := by
  have hconst : (E.modifyStream id i fun _ => m).modifyStream id i (fun _ => m') =
      E.modifyStream id i fun _ => m' := by
    simp [modifyStream, List.modify_modify_eq, Function.comp_def]
  rw [update, update, modifyStream_foldl_send, hconst, update, List.foldl_append]

lemma update_self (hm : (E.streams id)[i]? = some m) : E.update id i m [] = E := by
  have hsame : (E.streams id).modify i (fun _ => m) = E.streams id := by
    refine List.ext_getElem? fun k => ?_
    rw [List.getElem?_modify]
    split_ifs with hk
    · rw [← hk, hm]
      rfl
    · simp
  simp [update, modifyStream, hsame]

/-- What the queueing of a frame does not touch. -/
lemma foldl_send_eq {α : Type} {g : Endpoint → α} (h : ∀ F f, g (F.send f) = g F)
    (sent : List Frame) (F : Endpoint) : g (sent.foldl send F) = g F := by
  induction sent generalizing F with
  | nil => rfl
  | cons f sent ih => rw [List.foldl_cons, ih, h]

lemma streams_update (hm : (E.streams id)[i]? = some m) :
    ((E.update id i m' sent).streams id)[i]? = some m' := by
  rw [update, foldl_send_eq (g := streams) fun F f => by unfold send; split_ifs <;> rfl]
  simp [modifyStream, hm]

lemma txOpen_update : (E.update id i m sent).txOpen = E.txOpen :=
  foldl_send_eq (g := txOpen) (fun F f => by unfold send; split_ifs <;> rfl) sent _

lemma flows_update : (E.update id i m sent).flows = E.flows :=
  foldl_send_eq (g := flows) (fun F f => by unfold send; split_ifs <;> rfl) sent _

lemma held_update : (E.update id i m sent).held = E.held :=
  foldl_send_eq (g := held) (fun F f => by unfold send; split_ifs <;> rfl) sent _

lemma owns_update (h : E.owns id i = some m) (hd : m'.dropped = false) :
    (E.update id i m' sent).owns id i = some m' := by
  obtain ⟨hm, hheld, -⟩ := owns_eq h
  simp [owns, streams_update hm, held_update, hheld, hd]

/-! ### The operations of a copy -/

/-- The operations that a copy makes on the first handle of a flow. -/
def CopyOp (x : UInt32) : Action → Prop
  | .copyPush id i _ | .pollShutdown id i | .pollFillBuf id i | .consume id i _ => id = x ∧ i = 0
  | _ => False

/-- From `E` to `E'` a copy has operated on its handle. -/
def Operated (x : UInt32) : Endpoint → Endpoint → Prop :=
  ReflTransGen fun E F => ∃ a, CopyOp x a ∧ E.act a = some (F, [])

lemma operated_pollFillBuf (h : E.owns x 0 = some m) :
    Operated x E (E.update x 0 (m.pollFillBuf x E.txOpen (E.senderAlive x 0)).1
      (m.pollFillBuf x E.txOpen (E.senderAlive x 0)).2.1) :=
  .single ⟨.pollFillBuf x 0, ⟨rfl, rfl⟩, by simp [act, pollFillBuf, h]⟩

lemma operated_consume {amt : ℕ} (h : E.owns x 0 = some m) (hamt : amt ≤ m.buf.length) :
    Operated x E (E.update x 0 (m.consume amt) []) :=
  .single ⟨.consume x 0 amt, ⟨rfl, rfl⟩, by simp [act, Endpoint.consume, h, hamt]⟩

lemma operated_pollShutdown (h : E.owns x 0 = some m) :
    Operated x E (E.update x 0 (m.shutdownInner x E.txOpen).1 (m.shutdownInner x E.txOpen).2.1) :=
  .single ⟨.pollShutdown x 0, ⟨rfl, rfl⟩, by simp [act, pollShutdown, h]⟩

lemma operated_copyPush {buf : Bytes} (h : E.owns x 0 = some m) (hne : buf ≠ []) :
    Operated x E (E.update x 0 (m.pollWrite x E.txOpen buf).1 (m.pollWrite x E.txOpen buf).2.1) :=
  .single ⟨.copyPush x 0 buf, ⟨rfl, rfl⟩, by simp [act, pollWrite, h, hne]⟩

end Endpoint

/-- What `poll_fill_buf` leaves alone. -/
lemma MuxStream.record_pollFillBuf (m : MuxStream) (id : UInt32) (tx rx : Bool) :
    (m.pollFillBuf id tx rx).1.taken = m.taken ∧ (m.pollFillBuf id tx rx).1.written = m.written ∧
      (m.pollFillBuf id tx rx).1.dropped = m.dropped := by
  obtain hb | ⟨hb, hrx⟩ | ⟨next, rest, hb, hrx, hlt | hge⟩ := m.pollFillBuf_cases
  · rw [pollFillBuf_of_buf rx hb]
    exact ⟨rfl, rfl, rfl⟩
  · rw [pollFillBuf_of_empty rx hb hrx]
    exact ⟨rfl, rfl, rfl⟩
  · rw [pollFillBuf_of_lt rx hb hrx hlt]
    exact ⟨rfl, rfl, rfl⟩
  · rw [pollFillBuf_of_ge rx hb hrx hge]
    exact ⟨rfl, rfl, rfl⟩

namespace CopyBidirectional

variable {σ ε : Type} {o : BufReadWrite σ ε} {c c' : CopyBidirectional σ ε}

/-! ### An iteration and its handle -/

/-- The copy runs on the first handle of an endpoint. -/
structure On (c : CopyBidirectional σ ε) (E : Endpoint) : Prop where
  owns : E.owns c.flowId 0 = some c.us
  tx : c.tx = E.txOpen
  rx : c.rx = E.senderAlive c.flowId 0
  sent : c.sent = []

/-- The endpoint after the copy has got to `c`. -/
def leaves (c : CopyBidirectional σ ε) (E : Endpoint) : Endpoint :=
  E.update c.flowId 0 c.us c.sent

/-- The copy still has its handle, and finds the endpoint as it was. -/
structure Keeps (c c' : CopyBidirectional σ ε) : Prop where
  flowId : c'.flowId = c.flowId
  tx : c'.tx = c.tx
  rx : c'.rx = c.rx
  dropped : c'.us.dropped = c.us.dropped

/-- What an iteration of `poll_read_us` does with the handle: what `other` takes is what is read. -/
structure ReadOnce (c c' : CopyBidirectional σ ε) : Prop extends Keeps c c' where
  writeState : c'.writeState = c.writeState
  taken : ∃ d, c'.us.taken = c.us.taken ++ d ∧ written c'.calls = written c.calls ++ d ∧
    c'.readState.amount = c.readState.amount + UInt64.ofNat d.length
  consumed : consumedFromOther c'.calls = consumedFromOther c.calls
  wrote : c'.us.written = c.us.written
  ended : (∀ n, c'.readState ≠ .transferring n) → (∀ n, c.readState ≠ .transferring n) ∧
    c'.us = c.us ∨ ([] ∉ c.us.frameRx → c'.us.buf = [] ∧ c'.us.frameRx = [] ∧ c.rx = false)

/-- What an iteration of `poll_write_us` does with the handle: what `other` gives is written. -/
structure WriteOnce (c c' : CopyBidirectional σ ε) : Prop extends Keeps c c' where
  readState : c'.readState = c.readState
  wrote : ∃ d, c'.us.written = c.us.written ++ d ∧
    consumedFromOther c'.calls = consumedFromOther c.calls ++ d ∧
    c'.writeState.amount = c.writeState.amount + UInt64.ofNat d.length
  written : written c'.calls = written c.calls
  taken : c'.us.taken = c.us.taken
  buf : c'.us.buf = c.us.buf
  frameRx : c'.us.frameRx = c.us.frameRx

/-- Behind a look into the stream nothing is taken out of it. -/
lemma readOnce_fillUs {l : List (Call ε)} (h : ReadSide c l c') (hus : c'.us = c.fillUs.1.us)
    (hwritten : written l = []) (hamount : c'.readState.amount = c.readState.amount)
    (hended : (∀ n, c'.readState ≠ .transferring n) →
      [] ∉ c.us.frameRx → c'.us.buf = [] ∧ c'.us.frameRx = [] ∧ c.rx = false) : ReadOnce c c' := by
  obtain ⟨htaken, hwrote, hdropped⟩ := c.us.record_pollFillBuf c.flowId c.tx c.rx
  refine ⟨⟨h.flowId, h.tx, h.rx, by rw [hus]; exact hdropped⟩, h.writeState,
    ⟨[], ?_, ?_, by simp [hamount]⟩, ?_, ?_, fun hn => .inr (hended hn)⟩
  · rw [hus, List.append_nil]
    exact htaken
  · rw [h.calls, written_append, hwritten]
  · rw [h.calls, consumedFromOther_append, consumedFromOther_of_read h.isRead, List.append_nil]
  · rw [hus]
    exact hwrote

/-- The shutdown of `other` is nothing to the handle. -/
lemma shutDown_leaves {n : UInt64} (hs : c.readState = .shuttingDown n) :
    (shutDown o c n).1.us = c.us ∧ (shutDown o c n).1.sent = c.sent ∧
      (∃ r, ReadSide c [.shutdown r] (shutDown o c n).1) ∧
      (shutDown o c n).1.readState.amount = n := by
  have hside : ReadSide c [.shutdown (c.shutdownOther o).2] (c.shutdownOther o).1 :=
    readSide_shutdownOther
  have hs' : (c.shutdownOther o).1.readState = .shuttingDown n := hs
  unfold shutDown
  split <;> rename_i hc <;> obtain ⟨rfl, -⟩ := Prod.ext_iff.mp hc
  · exact ⟨rfl, rfl, ⟨_, hside⟩, by rw [hs']; rfl⟩
  · exact ⟨rfl, rfl, ⟨_, hside⟩, by rw [hs']; rfl⟩
  · have hdone := hside.trans (readSide_readState (.done n))
    rw [List.append_nil] at hdone
    exact ⟨rfl, rfl, ⟨_, hdone⟩, rfl⟩

lemma operated_readBody {E : Endpoint} {n : UInt64} (h : c.On E) (hs : c.readState = .transferring n) :
    E.Operated c.flowId ((Sum.elim Prod.fst Prod.fst (readBody o (c, n))).leaves E) ∧
      ReadOnce c (Sum.elim Prod.fst Prod.fst (readBody o (c, n))) := by
  have hf := c.us.filled c.flowId c.tx c.rx
  have hs' : c.fillUs.1.readState = .transferring n := hs
  obtain ⟨htaken, hwrote, hdropped⟩ := c.us.record_pollFillBuf c.flowId c.tx c.rx
  -- the look into the stream, as an operation on the handle
  have hfill : E.Operated c.flowId (c.fillUs.1.leaves E) := by
    have hop := Endpoint.operated_pollFillBuf h.owns
    rw [← h.tx, ← h.rx] at hop
    simpa [leaves, fillUs, h.sent] using hop
  have hr := reads o c n
  generalize readBody o (c, n) = x at hr ⊢
  cases hr with
  | waits hlook =>
      exact ⟨hfill, readOnce_fillUs readSide_fillUs rfl rfl rfl fun hn => absurd hs' (hn n)⟩
  | ends hlook =>
      obtain ⟨hus, hsent, ⟨r, hside⟩, hamount⟩ := shutDown_leaves (o := o)
        (c := { c.fillUs.1 with readState := .shuttingDown n }) rfl
      have hside := (readSide_fillUs.trans (readSide_readState (.shuttingDown n))).trans hside
      refine ⟨?_, readOnce_fillUs hside hus rfl (hamount.trans (by rw [hs]; rfl)) fun _ hne => ?_⟩
      · simp only [Sum.elim_inr, leaves, hside.flowId, hus, hsent]
        exact hfill
      · obtain ⟨-, hempty, hrx⟩ := hf.ended hlook fun f hmem => ne_of_mem_of_not_mem hmem hne
        simp only [Sum.elim_inr, hus]
        refine ⟨hf.shown [] hlook, List.eq_nil_iff_forall_not_mem.mpr fun f hmem => ?_, hrx⟩
        have := hf.frameRx f hmem
        rw [hempty] at this
        cases this
  | blocks hlook hne hwrite =>
      refine ⟨hfill, readOnce_fillUs (readSide_fillUs.trans (readSide_writeOther _)) rfl ?_ rfl
        fun hn => absurd hs' (hn n)⟩
      rw [hwrite]
      rfl
  | fails hlook hne hwrite =>
      refine ⟨hfill, readOnce_fillUs (readSide_fillUs.trans (readSide_writeOther _)) rfl ?_ rfl
        fun hn => absurd hs' (hn n)⟩
      rw [hwrite]
      rfl
  | @writes buf k hlook hne hwrite =>
      have hbuf : c.fillUs.1.us.buf = buf := hf.shown buf hlook
      have hk := (writeOther_ok hwrite).1
      have hside := ((readSide_fillUs (c := c)).trans (readSide_writeOther (o := o) buf)).trans
        (readSide_consumeUs k)
      refine ⟨?_, ⟨hside.flowId, hside.tx, hside.rx, hdropped⟩, rfl, ⟨buf.take k, ?_, ?_, ?_⟩, ?_,
        hwrote,
        fun hn => absurd rfl (hn (n + UInt64.ofNat k))⟩
      · -- the second operation finds the handle as the first has left it
        have hown : (c.fillUs.1.leaves E).owns c.flowId 0 = some c.fillUs.1.us :=
          Endpoint.owns_update h.owns (hdropped.trans (Endpoint.owns_eq h.owns).2.2)
        have hop := Endpoint.operated_consume hown
          (show k ≤ c.fillUs.1.us.buf.length by rw [hbuf]; exact hk)
        have hboth : (c.fillUs.1.leaves E).update c.flowId 0 (c.fillUs.1.us.consume k) [] =
            E.update c.flowId 0 (c.fillUs.1.us.consume k) c.fillUs.1.sent := by
          rw [leaves, show c.fillUs.1.flowId = c.flowId from rfl, Endpoint.update_update,
            List.append_nil]
        rw [hboth] at hop
        exact hfill.trans hop
      · change c.fillUs.1.us.taken ++ c.fillUs.1.us.buf.take k = _
        rw [hbuf]
        exact congrArg (· ++ buf.take k) htaken
      · rw [Sum.elim_inl, hside.calls, written_append, hwrite]
        simp [written]
      · simp [ReadState.amount, hs, List.length_take, hk]
      · rw [Sum.elim_inl, hside.calls, consumedFromOther_append,
          consumedFromOther_of_read hside.isRead, List.append_nil]

/-- **An iteration of `poll_read_us`** is a number of operations on the handle. -/
theorem operated_readOnce {E : Endpoint} (h : c.On E) :
    E.Operated c.flowId ((c.readOnce o).leaves E) ∧ ReadOnce c (c.readOnce o) := by
  have hsame : c.leaves E = E := by
    rw [leaves, h.sent]
    exact Endpoint.update_self (Endpoint.owns_eq h.owns).1
  cases hs : c.readState with
  | transferring n =>
      rw [readOnce_of_transferring hs]
      exact operated_readBody h hs
  | shuttingDown n =>
      obtain ⟨hus, hsent, ⟨r, hside⟩, hamount⟩ := shutDown_leaves (o := o) hs
      have heq : c.readOnce o = (shutDown o c n).1 := by simp only [readOnce, hs]
      rw [heq]
      refine ⟨?_, ⟨hside.flowId, hside.tx, hside.rx, by rw [hus]⟩, hside.writeState,
        ⟨[], ?_, ?_, ?_⟩, ?_, ?_,
        fun _ => .inl ⟨by simp [hs], hus⟩⟩
      · rw [leaves, hside.flowId, hus, hsent, ← leaves, hsame]
        exact .refl
      · rw [hus, List.append_nil]
      · rw [hside.calls, written_append]
        rfl
      · rw [hamount, hs]
        exact (UInt64.add_zero n).symm
      · rw [hside.calls, consumedFromOther_append, consumedFromOther_of_read hside.isRead,
          List.append_nil]
      · rw [hus]
  | done n =>
      have heq : c.readOnce o = c := by simp only [readOnce, hs]
      rw [heq, hsame]
      exact ⟨.refl, ⟨rfl, rfl, rfl, rfl⟩, rfl, ⟨[], by simp⟩, rfl, rfl,
        fun _ => .inl ⟨by simp [hs], rfl⟩⟩

/-- Calls of `poll_write_us` that pass nothing on. -/
lemma writeOnce_of_side {l : List (Call ε)} (h : WriteSide c l c')
    (htaken : c'.us.taken = c.us.taken) {d : Bytes} (hwrote : c'.us.written = c.us.written ++ d)
    (hdropped : c'.us.dropped = c.us.dropped) (hconsumed : consumedFromOther l = d)
    (hamount : c'.writeState.amount = c.writeState.amount + UInt64.ofNat d.length) : WriteOnce c c' where
  flowId := h.flowId
  tx := h.tx
  rx := h.rx
  dropped := hdropped
  readState := h.readState
  wrote := ⟨d, hwrote, by rw [h.calls, consumedFromOther_append, hconsumed], hamount⟩
  written := by rw [h.calls, written_append, written_of_write h.isWrite, List.append_nil]
  taken := htaken
  buf := h.buf
  frameRx := h.frameRx

/-- A permission and the push it is for are one write. -/
lemma sendPush_eq (buf : Bytes) (h : c.obtainWritePermission.2 = .ready (.ok ())) :
    (c.obtainWritePermission.1.sendPush buf).1.us = (c.us.pollWrite c.flowId c.tx buf).1 ∧
      (c.obtainWritePermission.1.sendPush buf).1.sent =
        c.sent ++ (c.us.pollWrite c.flowId c.tx buf).2.1 ∧
      (c.us.pollWrite c.flowId c.tx buf).1.taken = c.us.taken ∧
      (c.us.pollWrite c.flowId c.tx buf).1.dropped = c.us.dropped ∧
      (c.us.pollWrite c.flowId c.tx buf).1.written =
        c.us.written ++ (if c.tx then buf else []) ∧
      ((c.obtainWritePermission.1.sendPush buf).2 = .ok () ↔ c.tx = true) := by
  have hp : c.us.pollObtainWritePermission.2 = .ready (.ok ()) := h
  have hrecord : c.us.pollObtainWritePermission.1.taken = c.us.taken ∧
      c.us.pollObtainWritePermission.1.dropped = c.us.dropped ∧
      c.us.pollObtainWritePermission.1.written = c.us.written := by
    unfold MuxStream.pollObtainWritePermission
    split_ifs <;> exact ⟨rfl, rfl, rfl⟩
  rcases hr : c.us.pollObtainWritePermission with ⟨m, r⟩
  obtain rfl : r = .ready (.ok ()) := by rw [hr] at hp; exact hp
  rw [hr] at hrecord
  obtain ⟨htaken, hdropped, hwritten⟩ : m.taken = c.us.taken ∧ m.dropped = c.us.dropped ∧
    m.written = c.us.written := hrecord
  cases htx : c.tx <;>
    simp [obtainWritePermission, sendPush, MuxStream.pollWrite, hr, htx, htaken, hdropped, hwritten]

lemma writeState_sendPush (buf : Bytes) : (c.sendPush buf).1.writeState = c.writeState := by
  unfold sendPush
  split_ifs <;> rfl

/-- Without a permission the handle is left as it is. -/
lemma obtainWritePermission_us (h : c.obtainWritePermission.2 ≠ .ready (.ok ())) :
    c.obtainWritePermission.1.us = c.us := by
  have hp : c.us.pollObtainWritePermission.2 ≠ .ready (.ok ()) := h
  simp only [obtainWritePermission]
  unfold MuxStream.pollObtainWritePermission at hp ⊢
  split_ifs at hp ⊢ with hf hr
  · rfl
  · rfl
  · exact absurd rfl hp

lemma flush_leaves : (c.flush o).1.us = c.us ∧ (c.flush o).1.sent = c.sent ∧
    (c.flush o).1.writeState = c.writeState ∧ ∃ r, WriteSide c [.flush r] (c.flush o).1 := by
  have hside : WriteSide c [.flush (c.flushOther o).2] (c.flushOther o).1 := writeSide_flushOther
  unfold flush
  split <;> rename_i hc <;> obtain ⟨rfl, -⟩ := Prod.ext_iff.mp hc <;>
    exact ⟨rfl, rfl, rfl, _, hside⟩

lemma finish_leaves {n : UInt64} (hs : c.writeState = .transferring n) :
    (c.finish n).1.us = (c.us.shutdownInner c.flowId c.tx).1 ∧
      (c.finish n).1.sent = c.sent ++ (c.us.shutdownInner c.flowId c.tx).2.1 ∧
      (c.finish n).1.writeState.amount = n ∧ ∃ r, WriteSide c [.shutdownUs r] (c.finish n).1 := by
  have hside : WriteSide c [.shutdownUs c.shutdownUs.2] c.shutdownUs.1 := writeSide_shutdownUs
  unfold finish
  split <;> rename_i hc <;> obtain ⟨rfl, -⟩ := Prod.ext_iff.mp hc
  · exact ⟨rfl, rfl, congrArg WriteState.amount hs, _, hside⟩
  · have hdone := hside.trans (writeSide_writeState (.done n))
    rw [List.append_nil] at hdone
    exact ⟨rfl, rfl, rfl, _, hdone⟩

lemma operated_writeBody {E : Endpoint} {n : UInt64} (h : c.On E)
    (hs : c.writeState = .transferring n) :
    E.Operated c.flowId ((Sum.elim Prod.fst Prod.fst (writeBody o (c, n))).leaves E) ∧
      WriteOnce c (Sum.elim Prod.fst Prod.fst (writeBody o (c, n))) := by
  have hsame : c.leaves E = E := by
    rw [leaves, h.sent]
    exact Endpoint.update_self (Endpoint.owns_eq h.owns).1
  -- nothing is done with the handle
  have hnone : ∀ {c' : CopyBidirectional σ ε} {l : List (Call ε)}, WriteSide c l c' →
      c'.us = c.us → c'.sent = c.sent → consumedFromOther l = [] →
      c'.writeState.amount = c.writeState.amount →
      E.Operated c.flowId (c'.leaves E) ∧ WriteOnce c c' := by
    intro c' l hside hus hsent hl hamount
    refine ⟨?_, writeOnce_of_side hside (by rw [hus]) (by rw [hus, List.append_nil]) (by rw [hus])
      hl (by simp [hamount])⟩
    rw [leaves, hside.flowId, hus, hsent, ← leaves, hsame]
    exact .refl
  have hfill := writeSide_fillOther (o := o) (c := c)
  -- a write, with what its permission and its push leave
  have hpush : ∀ {c' : CopyBidirectional σ ε} {l : List (Call ε)} {buf : Bytes}, buf ≠ [] →
      WriteSide c l c' → (c.fillOther o).1.obtainWritePermission.2 = .ready (.ok ()) →
      c'.us = ((c.fillOther o).1.obtainWritePermission.1.sendPush buf).1.us →
      c'.sent = ((c.fillOther o).1.obtainWritePermission.1.sendPush buf).1.sent →
      consumedFromOther l = (if c.tx then buf else []) →
      c'.writeState.amount =
        c.writeState.amount + UInt64.ofNat (if c.tx then buf else []).length →
      E.Operated c.flowId (c'.leaves E) ∧ WriteOnce c c' := by
    intro c' l buf hne hside hpermission hus hsent hl hamount
    obtain ⟨hus', hsent', htaken, hdropped, hwrote, -⟩ := sendPush_eq buf hpermission
    refine ⟨?_, writeOnce_of_side hside ?_ ?_ ?_ hl hamount⟩
    · have hop := Endpoint.operated_copyPush h.owns hne
      rw [← h.tx] at hop
      rw [leaves, hside.flowId, hus, hsent, hus', hsent']
      simpa [fillOther, h.sent] using hop
    · rw [hus, hus']
      exact htaken
    · rw [hus, hus']
      exact hwrote
    · rw [hus, hus']
      exact hdropped
  have hw := writes o c n
  generalize writeBody o (c, n) = x at hw ⊢
  cases hw with
  | waits hlook =>
      obtain ⟨hus, hsent, hstate, r, hside⟩ := flush_leaves (o := o) (c := (c.fillOther o).1)
      exact hnone (hfill.trans hside) hus hsent rfl (congrArg WriteState.amount hstate)
  | fails hlook => exact hnone hfill rfl rfl rfl rfl
  | ends hlook =>
      obtain ⟨hus, hsent, hamount, r, hside⟩ := finish_leaves (c := (c.fillOther o).1)
        (n := n) hs
      have hside := hfill.trans hside
      obtain ⟨htaken, hwrote, hdropped⟩ : (c.us.shutdownInner c.flowId c.tx).1.taken = c.us.taken ∧
          (c.us.shutdownInner c.flowId c.tx).1.written = c.us.written ∧
          (c.us.shutdownInner c.flowId c.tx).1.dropped = c.us.dropped := by
        unfold MuxStream.shutdownInner
        split_ifs <;> exact ⟨rfl, rfl, rfl⟩
      refine ⟨?_, writeOnce_of_side (d := []) hside ?_ ?_ ?_ rfl
        (hamount.trans (by rw [hs]; exact (UInt64.add_zero n).symm))⟩
      · have hop := Endpoint.operated_pollShutdown h.owns
        rw [← h.tx] at hop
        simp only [Sum.elim_inr, leaves, hside.flowId, hus, hsent]
        simpa [fillOther, h.sent] using hop
      · rw [Sum.elim_inr, hus]
        exact htaken
      · rw [Sum.elim_inr, hus, List.append_nil]
        exact hwrote
      · rw [Sum.elim_inr, hus]
        exact hdropped
  | blocks hlook hne hpermission =>
      exact hnone (hfill.trans writeSide_obtainWritePermission)
        (obtainWritePermission_us (by rw [hpermission]; simp)) rfl rfl rfl
  | refused hlook hne hpermission =>
      exact hnone (hfill.trans writeSide_obtainWritePermission)
        (obtainWritePermission_us (by rw [hpermission]; simp)) rfl rfl rfl
  | @closed buf e hlook hne hpermission hsend =>
      have htx : c.tx = false := by
        have := (sendPush_eq buf hpermission).2.2.2.2.2
        rw [hsend] at this
        simpa [fillOther] using this
      exact hpush hne ((hfill.trans writeSide_obtainWritePermission).trans
        (writeSide_sendPush buf)) hpermission rfl rfl (by simp [htx, consumedFromOther])
        (by
          rw [htx, Sum.elim_inr, writeState_sendPush]
          simp [obtainWritePermission, fillOther])
  | @pushes buf hlook hne hpermission hsend =>
      have htx : c.tx = true := (sendPush_eq buf hpermission).2.2.2.2.2.mp hsend
      exact hpush hne (((hfill.trans writeSide_obtainWritePermission).trans
        (writeSide_sendPush buf)).trans (writeSide_consumeOther (o := o) buf buf.length) |>.trans
          (writeSide_writeState _)) hpermission rfl rfl (by simp [htx, consumedFromOther])
        (by simp [WriteState.amount, hs, htx])

/-- **An iteration of `poll_write_us`** is at most one operation on the handle. -/
theorem operated_writeOnce {E : Endpoint} (h : c.On E) :
    E.Operated c.flowId ((c.writeOnce o).leaves E) ∧ WriteOnce c (c.writeOnce o) := by
  cases hs : c.writeState with
  | transferring n =>
      rw [writeOnce_of_transferring hs]
      exact operated_writeBody h hs
  | done n =>
      have heq : c.writeOnce o = c := by simp only [writeOnce, hs]
      have hsame : c.leaves E = E := by
        rw [leaves, h.sent]
        exact Endpoint.update_self (Endpoint.owns_eq h.owns).1
      rw [heq, hsame]
      exact ⟨.refl, ⟨rfl, rfl, rfl, rfl⟩, rfl, ⟨[], by simp⟩, rfl, rfl, rfl, rfl⟩

end CopyBidirectional

end Penguin.Mux
