import Penguin.Mux.CopyCalls

/-!
A copy passes on every byte once and in order.

Both directions keep a number in their state and may stop at any call to go on in a later `poll`.
The bytes that were consumed on one side and those that were passed on at the other stay in step in
every state between the calls of `poll`, and the numbers count them, modulo `2 ^ 64`.
-/

namespace Penguin.Mux

open Penguin.Lib.Loop Penguin.Lib.Transition

namespace CopyBidirectional

variable {σ ε : Type} {o : BufReadWrite σ ε} {c c' : CopyBidirectional σ ε} {l l' : List (Call ε)}
  {received : Bytes} {n m : UInt64}

/-! ### What the record says -/

/-- The bytes `other` has taken. -/
def written (l : List (Call ε)) : Bytes :=
  l.flatMap fun
    | .write buf (.ready (.ok k)) => buf.take k
    | _ => []

/-- The bytes that were consumed from the stream. -/
def consumedFromUs (l : List (Call ε)) : Bytes :=
  l.flatMap fun
    | .consumeUs bytes => bytes
    | _ => []

/-- The bytes that were read and consumed from `other`. -/
def consumedFromOther (l : List (Call ε)) : Bytes :=
  l.flatMap fun
    | .consumeOther bytes => bytes
    | _ => []

/-- The payloads of the `Push` frames that were queued. -/
def pushes (sent : List Frame) : List Bytes :=
  sent.filterMap fun f =>
    match f.payload with
    | .push data => some data
    | _ => none

/-- The frames that were queued, without the acknowledgements. -/
def dataFrames (sent : List Frame) : List Frame :=
  sent.filter fun f =>
    match f.payload with
    | .acknowledge _ => false
    | _ => true

/-- `other` was shut down, and not written to since. -/
def ShutDown (l : List (Call ε)) : Prop :=
  ∃ pre post, l = pre ++ .shutdown (.ready (.ok ())) :: post ∧ ∀ buf r, .write buf r ∉ post

/-- `other` has ended, and was not read since. -/
def Ended (l : List (Call ε)) : Prop :=
  ∃ pre post, l = pre ++ .fillOther (.ready (.ok [])) :: post ∧ (∀ r, .fillOther r ∉ post) ∧
    ∀ bytes, .consumeOther bytes ∉ post

lemma written_append : written (l ++ l') = written l ++ written l' := List.flatMap_append

lemma consumedFromUs_append :
    consumedFromUs (l ++ l') = consumedFromUs l ++ consumedFromUs l' := List.flatMap_append

lemma consumedFromOther_append :
    consumedFromOther (l ++ l') = consumedFromOther l ++ consumedFromOther l' := List.flatMap_append

lemma written_of_write (h : ∀ x ∈ l, x.isRead = false) : written l = [] := by
  refine List.flatMap_eq_nil_iff.mpr fun x hx => ?_
  have := h x hx
  cases x with
  | write buf r => cases this
  | _ => rfl

lemma consumedFromUs_of_write (h : ∀ x ∈ l, x.isRead = false) : consumedFromUs l = [] := by
  refine List.flatMap_eq_nil_iff.mpr fun x hx => ?_
  have := h x hx
  cases x with
  | consumeUs bytes => cases this
  | _ => rfl

lemma consumedFromOther_of_read (h : ∀ x ∈ l, x.isRead = true) : consumedFromOther l = [] := by
  refine List.flatMap_eq_nil_iff.mpr fun x hx => ?_
  have := h x hx
  cases x with
  | consumeOther bytes => cases this
  | _ => rfl

lemma ShutDown.append (h : ShutDown l) (hl : ∀ buf r, .write buf r ∉ l') : ShutDown (l ++ l') := by
  obtain ⟨pre, post, rfl, hpost⟩ := h
  exact ⟨pre, post ++ l', by simp, fun buf r => by simp [hpost buf r, hl buf r]⟩

lemma Ended.append (h : Ended l) (hl : ∀ x ∈ l', x.isRead = true) : Ended (l ++ l') := by
  obtain ⟨pre, post, rfl, hfill, hconsume⟩ := h
  refine ⟨pre, post ++ l', by simp, fun r hr => ?_, fun bytes hb => ?_⟩
  · rcases List.mem_append.mp hr with hr | hr
    · exact hfill r hr
    · cases hl _ hr
  · rcases List.mem_append.mp hb with hb | hb
    · exact hconsume bytes hb
    · cases hl _ hb

lemma pushes_acks {acks : List Frame} {id : UInt32}
    (h : ∀ f ∈ acks, ∃ n, f = Frame.newAcknowledge id n) : pushes acks = [] := by
  refine List.filterMap_eq_nil_iff.mpr fun f hf => ?_
  obtain ⟨n, rfl⟩ := h f hf
  rfl

lemma dataFrames_acks {acks : List Frame} {id : UInt32}
    (h : ∀ f ∈ acks, ∃ n, f = Frame.newAcknowledge id n) : dataFrames acks = [] := by
  refine List.filter_eq_nil_iff.mpr fun f hf => ?_
  obtain ⟨n, rfl⟩ := h f hf
  simp [Frame.newAcknowledge]

end CopyBidirectional

/-- The number of bytes of a direction. -/
def ReadState.amount : ReadState → UInt64
  | .transferring n | .shuttingDown n | .done n => n

@[inherit_doc ReadState.amount]
def WriteState.amount : WriteState → UInt64
  | .transferring n | .done n => n

namespace CopyBidirectional

variable {σ ε : Type} {o : BufReadWrite σ ε} {c c' : CopyBidirectional σ ε} {l l' : List (Call ε)}
  {received : Bytes} {n m : UInt64}

/-! ### The invariant of each direction -/

/-- From the stream to `other`, with the bytes that came for the stream. -/
structure ReadFaithful (received : Bytes) (c : CopyBidirectional σ ε) : Prop where
  received : received = written c.calls ++ (c.us.buf ++ c.us.frameRx.flatten)
  amount : c.readState.amount = UInt64.ofNat (written c.calls).length
  consumed : consumedFromUs c.calls = written c.calls
  frames : ∀ f ∈ c.us.frameRx, f ≠ []
  ended : (∀ n, c.readState ≠ .transferring n) → c.us.buf = [] ∧ c.us.frameRx = [] ∧ c.rx = false
  shutDown : ∀ n, c.readState = .done n → ShutDown c.calls

/-- From `other` to the stream. -/
structure WriteFaithful (c : CopyBidirectional σ ε) : Prop where
  pushed : (pushes c.sent).flatten = consumedFromOther c.calls
  amount : c.writeState.amount = UInt64.ofNat (consumedFromOther c.calls).length
  tx : c.tx = true
  going : ∀ m, c.writeState = .transferring m → c.us.finishSent = false ∧
    dataFrames c.sent = (pushes c.sent).map (Frame.newPush c.flowId)
  finished : ∀ m, c.writeState = .done m → Ended c.calls ∧
    dataFrames c.sent = (pushes c.sent).map (Frame.newPush c.flowId) ++ [Frame.newFinish c.flowId]

lemma ReadFaithful.of_writeSide (h : ReadFaithful received c) (hs : WriteSide c l c') :
    ReadFaithful received c' := by
  have hwritten : written c'.calls = written c.calls := by
    rw [hs.calls, written_append, written_of_write hs.isWrite, List.append_nil]
  have hconsumed : consumedFromUs c'.calls = consumedFromUs c.calls := by
    rw [hs.calls, consumedFromUs_append, consumedFromUs_of_write hs.isWrite, List.append_nil]
  refine ⟨?_, ?_, ?_, ?_, ?_, fun n hn => ?_⟩
  · rw [hwritten, hs.buf, hs.frameRx]
    exact h.received
  · rw [hwritten, hs.readState]
    exact h.amount
  · rw [hwritten, hconsumed]
    exact h.consumed
  · rw [hs.frameRx]
    exact h.frames
  · rw [hs.readState, hs.buf, hs.frameRx, hs.rx]
    exact h.ended
  · rw [hs.readState] at hn
    rw [hs.calls]
    refine (h.shutDown n hn).append fun buf r hmem => ?_
    cases hs.isWrite _ hmem

lemma WriteFaithful.of_readSide (h : WriteFaithful c) (hs : ReadSide c l c') : WriteFaithful c' := by
  obtain ⟨acks, hsent, hacks⟩ := hs.sent
  have hpushes : pushes c'.sent = pushes c.sent := by
    rw [hsent, pushes, List.filterMap_append, ← pushes, ← pushes, pushes_acks hacks, List.append_nil]
  have hdata : dataFrames c'.sent = dataFrames c.sent := by
    rw [hsent, dataFrames, List.filter_append, ← dataFrames, ← dataFrames, dataFrames_acks hacks,
      List.append_nil]
  have hconsumed : consumedFromOther c'.calls = consumedFromOther c.calls := by
    rw [hs.calls, consumedFromOther_append, consumedFromOther_of_read hs.isRead, List.append_nil]
  refine ⟨?_, ?_, hs.tx.trans h.tx, fun m hm => ?_, fun m hm => ?_⟩
  · rw [hpushes, hconsumed]
    exact h.pushed
  · rw [hs.writeState, hconsumed]
    exact h.amount
  · rw [hs.writeState] at hm
    rw [hs.finishSent, hdata, hpushes, hs.flowId]
    exact h.going m hm
  · rw [hs.writeState] at hm
    rw [hdata, hpushes, hs.flowId, hs.calls]
    exact ⟨(h.finished m hm).1.append hs.isRead, (h.finished m hm).2⟩

/-! ### The direction to `other` -/

/-- A call that takes nothing out of the stream. -/
lemma ReadFaithful.call {x : Call ε} (h : ReadFaithful received c) (hcalls : c'.calls = c.calls ++ [x])
    (hwritten : written [x] = []) (hconsumed : consumedFromUs [x] = [])
    (hwrite : c.readState.amount = c'.readState.amount)
    (hbytes : c'.us.buf ++ c'.us.frameRx.flatten = c.us.buf ++ c.us.frameRx.flatten)
    (hframes : ∀ f ∈ c'.us.frameRx, f ∈ c.us.frameRx)
    (hended : (∀ n, c'.readState ≠ .transferring n) →
      c'.us.buf = [] ∧ c'.us.frameRx = [] ∧ c'.rx = false)
    (hshut : ∀ n, c'.readState = .done n → ShutDown c'.calls) : ReadFaithful received c' := by
  have hw : written c'.calls = written c.calls := by
    rw [hcalls, written_append, hwritten, List.append_nil]
  refine ⟨?_, ?_, ?_, fun f hf => h.frames f (hframes f hf), hended, hshut⟩
  · rw [hw, hbytes]
    exact h.received
  · rw [hw, ← hwrite]
    exact h.amount
  · rw [hw, hcalls, consumedFromUs_append, hconsumed, List.append_nil]
    exact h.consumed

lemma ReadFaithful.fillUs (h : ReadFaithful received c) (hs : c.readState = .transferring n) :
    ReadFaithful received c.fillUs.1 := by
  have hf := c.us.filled c.flowId c.tx c.rx
  have hs' : c.fillUs.1.readState = .transferring n := hs
  refine h.call rfl rfl rfl rfl hf.bytes hf.frameRx (fun hn => absurd hs' (hn n)) fun k hk => ?_
  rw [hs'] at hk
  cases hk

lemma ReadFaithful.shutDown_stop (h : ReadFaithful received c) (hs : c.readState = .shuttingDown n) :
    ReadFaithful received (CopyBidirectional.shutDown o c n).1 ∧
      ∀ k, (CopyBidirectional.shutDown o c n).2 = .ready (.ok k) →
        (CopyBidirectional.shutDown o c n).1.readState = .done k := by
  have hended : c.us.buf = [] ∧ c.us.frameRx = [] ∧ c.rx = false :=
    h.ended (by simp [hs])
  have hfail : ReadFaithful received (c.shutdownOther o).1 := by
    refine h.call rfl rfl rfl rfl rfl (fun _ hf => hf) (fun _ => hended) fun k hk => ?_
    rw [show (c.shutdownOther o).1.readState = .shuttingDown n from hs] at hk
    cases hk
  unfold CopyBidirectional.shutDown
  split
  · rename_i c₁ hc
    obtain ⟨rfl, -⟩ := Prod.ext_iff.mp hc
    exact ⟨hfail, by simp⟩
  · rename_i c₁ e hc
    obtain ⟨rfl, -⟩ := Prod.ext_iff.mp hc
    exact ⟨hfail, by simp⟩
  · rename_i c₁ hc
    obtain ⟨rfl, hok⟩ := Prod.ext_iff.mp hc
    have hcalls : (c.shutdownOther o).1.calls = c.calls ++ [.shutdown (.ready (.ok ()))] :=
      congrArg (fun r => c.calls ++ [Call.shutdown r]) hok
    refine ⟨?_, by simp⟩
    exact h.call hcalls rfl rfl (by simp [hs, ReadState.amount]) rfl (fun _ hf => hf)
      (fun _ => hended) fun _ _ => ⟨c.calls, [], hcalls, by simp⟩

lemma ReadFaithful.writes {buf : Bytes} {k : ℕ} (h : ReadFaithful received c)
    (hs : c.readState = .transferring n) (hfill : c.fillUs.2 = .ready buf)
    (hwrite : (c.fillUs.1.writeOther o buf).2 = .ready (.ok k)) :
    ReadFaithful received { (c.fillUs.1.writeOther o buf).1.consumeUs k with
      readState := .transferring (n + UInt64.ofNat k) } := by
  have hf := h.fillUs hs
  have hbuf : c.fillUs.1.us.buf = buf := (c.us.filled c.flowId c.tx c.rx).shown buf hfill
  have hk := (writeOther_ok hwrite).1
  have hcalls : ((c.fillUs.1.writeOther o buf).1.consumeUs k).calls =
      c.fillUs.1.calls ++ [.write buf (.ready (.ok k)), .consumeUs (buf.take k)] := by
    rw [← hwrite, ← hbuf]
    simp [consumeUs, writeOther]
  have hw : written ((c.fillUs.1.writeOther o buf).1.consumeUs k).calls =
      written c.fillUs.1.calls ++ buf.take k := by
    rw [hcalls, written_append]
    simp [written]
  have hus : ((c.fillUs.1.writeOther o buf).1.consumeUs k).us = c.fillUs.1.us.consume k := rfl
  refine ⟨?_, ?_, ?_, hf.frames, fun hn => absurd rfl (hn (n + UInt64.ofNat k)), by simp⟩
  · simp only [hw, hus, MuxStream.consume, hbuf]
    rw [List.append_assoc, ← List.append_assoc (buf.take k), List.take_append_drop, ← hbuf]
    exact hf.received
  · have := hf.amount
    rw [show c.fillUs.1.readState = .transferring n from hs, ReadState.amount] at this
    rw [ReadState.amount, hw, List.length_append, List.length_take, UInt64.ofNat_add, this,
      Nat.min_eq_left hk]
  · simp only [hw]
    rw [hcalls, consumedFromUs_append, hf.consumed]
    simp [consumedFromUs]

/-- What a stopped `poll_read_us` leaves. -/
def ReadStopped (received : Bytes) (x : Stop σ ε) : Prop :=
  ReadFaithful received x.1 ∧ ∀ k, x.2 = .ready (.ok k) → x.1.readState = .done k

lemma readStopped_of_readBody {x : Stop σ ε} (h : ReadFaithful received c)
    (hs : c.readState = .transferring n) (hx : readBody o (c, n) = .inr x) :
    ReadStopped received x := by
  have hf := h.fillUs hs
  have hs' : c.fillUs.1.readState = .transferring n := hs
  -- a write that was not answered with a number
  have hno : ∀ buf, (∀ k, (c.fillUs.1.writeOther o buf).2 ≠ .ready (.ok k)) →
      ReadFaithful received (c.fillUs.1.writeOther o buf).1 := by
    intro buf hk
    refine hf.call (x := .write buf (c.fillUs.1.writeOther o buf).2) rfl ?_ rfl rfl rfl
      (fun _ hf => hf) (fun hn => absurd hs' (hn n)) fun k hdone => ?_
    · rcases hw : (c.fillUs.1.writeOther o buf).2 with (e | k) | _
      · rfl
      · exact absurd hw (hk k)
      · rfl
    · rw [show (c.fillUs.1.writeOther o buf).1.readState = .transferring n from hs] at hdone
      cases hdone
  have hr := reads o c n
  rw [hx] at hr
  cases hr with
  | waits hfill => exact ⟨hf, by simp⟩
  | ends hfill =>
      obtain ⟨hb, hrx, hclosed⟩ := (c.us.filled c.flowId c.tx c.rx).ended hfill h.frames
      have hempty : c.fillUs.1.us.buf = [] := (c.us.filled c.flowId c.tx c.rx).shown [] hfill
      have hnone : c.fillUs.1.us.frameRx = [] := by
        refine List.eq_nil_iff_forall_not_mem.mpr fun f hf => ?_
        have := (c.us.filled c.flowId c.tx c.rx).frameRx f hf
        rw [hrx] at this
        cases this
      refine ReadFaithful.shutDown_stop ?_ rfl
      refine ⟨hf.received, ?_, hf.consumed, hf.frames, fun _ => ⟨hempty, hnone, hclosed⟩, by simp⟩
      rw [← hf.amount, hs']
      rfl
  | blocks hfill hne hwrite => exact ⟨hno _ (by simp [hwrite]), by simp⟩
  | fails hfill hne hwrite => exact ⟨hno _ (by simp [hwrite]), by simp⟩

lemma readStopped_of_pollReadUs {fuel : ℕ} {x : Stop σ ε} (h : ReadFaithful received c)
    (hx : c.pollReadUs o fuel = some x) : ReadStopped received x := by
  unfold pollReadUs at hx
  split at hx
  · rename_i n hs
    refine loop_invariant
      (I := fun y => ReadFaithful received y.1 ∧ y.1.readState = .transferring y.2)
      (Q := ReadStopped received) ?_ ?_ ⟨h, hs⟩ hx
    · rintro y y' ⟨hy, hys⟩ hb
      have hr := reads o y.1 y.2
      rw [show readBody o (y.1, y.2) = .inl y' from hb] at hr
      cases hr with
      | writes hfill hne hwrite => exact ⟨hy.writes hys hfill hwrite, rfl⟩
    · rintro y z ⟨hy, hys⟩ hb
      exact readStopped_of_readBody hy hys hb
  · rename_i n hs
    obtain rfl := Option.some.inj hx
    exact h.shutDown_stop hs
  · rename_i n hs
    obtain rfl := Option.some.inj hx
    refine ⟨h, fun k hk => ?_⟩
    cases hk
    exact hs

/-! ### The direction from `other` -/

/-- A call that queues nothing. -/
lemma WriteFaithful.call {x : Call ε} (h : WriteFaithful c) (hs : c.writeState = .transferring m)
    (hcalls : c'.calls = c.calls ++ [x]) (hconsumed : consumedFromOther [x] = [])
    (hsent : c'.sent = c.sent) (hwrite : c'.writeState = c.writeState)
    (hid : c'.flowId = c.flowId) (htx : c'.tx = c.tx)
    (hfinish : c'.us.finishSent = c.us.finishSent) : WriteFaithful c' := by
  have hc : consumedFromOther c'.calls = consumedFromOther c.calls := by
    rw [hcalls, consumedFromOther_append, hconsumed, List.append_nil]
  refine ⟨?_, ?_, htx.trans h.tx, fun m hm => ?_, fun m hm => ?_⟩
  · rw [hsent, hc]
    exact h.pushed
  · rw [hwrite, hc]
    exact h.amount
  · rw [hfinish, hsent, hid]
    exact h.going m (hwrite ▸ hm)
  · rw [hwrite, hs] at hm
    cases hm

lemma WriteFaithful.fillOther (h : WriteFaithful c) (hs : c.writeState = .transferring m) :
    WriteFaithful (c.fillOther o).1 :=
  h.call hs rfl rfl rfl rfl rfl rfl rfl

lemma finishSent_obtainWritePermission :
    c.obtainWritePermission.1.us.finishSent = c.us.finishSent := by
  simp only [obtainWritePermission, MuxStream.pollObtainWritePermission]
  split_ifs <;> rfl

lemma WriteFaithful.obtainWritePermission (h : WriteFaithful c)
    (hs : c.writeState = .transferring m) : WriteFaithful c.obtainWritePermission.1 :=
  h.call hs rfl rfl rfl rfl rfl rfl finishSent_obtainWritePermission

/-- A push that was queued and consumed. -/
lemma WriteFaithful.push {buf : Bytes} (h : WriteFaithful c) (hs : c.writeState = .transferring m) :
    WriteFaithful { (c.sendPush buf).1.consumeOther o buf buf.length with
      writeState := .transferring (m + UInt64.ofNat buf.length) } := by
  have hsend : c.sendPush buf = ({ c with
      us := { c.us with written := c.us.written ++ buf }
      sent := c.sent ++ [Frame.newPush c.flowId buf]
      calls := c.calls ++ [.send (.ok ())] }, .ok ()) := by
    simp [sendPush, h.tx]
  have hpushes : pushes (c.sent ++ [Frame.newPush c.flowId buf]) = pushes c.sent ++ [buf] := by
    rw [pushes, List.filterMap_append, ← pushes]
    rfl
  have hconsumed : consumedFromOther (c.calls ++ [.send (.ok ())] ++ [.consumeOther buf]) =
      consumedFromOther c.calls ++ buf := by
    rw [consumedFromOther_append, consumedFromOther_append]
    simp [consumedFromOther]
  have hgoing := h.going m hs
  rw [hsend]
  simp only [consumeOther, List.take_length]
  refine ⟨?_, ?_, h.tx, fun k _ => ⟨hgoing.1, ?_⟩, by simp⟩
  · rw [hpushes, hconsumed, List.flatten_append, h.pushed]
    simp
  · have := h.amount
    rw [hs, WriteState.amount] at this
    rw [WriteState.amount, hconsumed, List.length_append, UInt64.ofNat_add, this]
  · rw [hpushes, List.map_append, ← hgoing.2, dataFrames, List.filter_append]
    rfl

/-- `other` has just shown its end. -/
lemma WriteFaithful.finish {pre : List (Call ε)} (h : WriteFaithful c)
    (hs : c.writeState = .transferring m)
    (hend : c.calls = pre ++ [.fillOther (.ready (.ok []))]) :
    WriteFaithful (c.finish m).1 ∧
      ∀ k, (c.finish m).2 = .ready (.ok k) → (c.finish m).1.writeState = .done k := by
  obtain ⟨hopen, hdata⟩ := h.going m hs
  have hshut : c.shutdownUs = ({ c with
      us := { c.us with finishSent := true }
      sent := c.sent ++ [Frame.newFinish c.flowId]
      calls := c.calls ++ [.shutdownUs (.ok ())] }, .ok ()) := by
    simp [shutdownUs, MuxStream.shutdownInner, hopen, h.tx]
  have hpushes : pushes (c.sent ++ [Frame.newFinish c.flowId]) = pushes c.sent := by
    rw [pushes, List.filterMap_append, ← pushes]
    exact List.append_nil _
  have hconsumed : consumedFromOther (c.calls ++ [.shutdownUs (.ok ())]) =
      consumedFromOther c.calls := by
    rw [consumedFromOther_append]
    exact List.append_nil _
  simp only [CopyBidirectional.finish, hshut]
  refine ⟨⟨?_, ?_, h.tx, by simp, fun k _ => ⟨?_, ?_⟩⟩, by simp⟩
  · rw [hpushes, hconsumed]
    exact h.pushed
  · rw [hconsumed, ← h.amount, hs]
    rfl
  · exact ⟨pre, [.shutdownUs (.ok ())], by simp [hend], by simp, by simp⟩
  · rw [hpushes, ← hdata, dataFrames, List.filter_append]
    rfl

/-- What a stopped `poll_write_us` leaves. -/
def WriteStopped (x : Stop σ ε) : Prop :=
  WriteFaithful x.1 ∧ ∀ k, x.2 = .ready (.ok k) → x.1.writeState = .done k

lemma writeStopped_of_writeBody {x : Stop σ ε} (h : WriteFaithful c)
    (hs : c.writeState = .transferring m) (hx : writeBody o (c, m) = .inr x) : WriteStopped x := by
  have hf : WriteFaithful (c.fillOther o).1 := h.fillOther hs
  have hw := writes o c m
  rw [hx] at hw
  cases hw with
  | waits hfill =>
      have hflush : WriteFaithful ((c.fillOther o).1.flushOther o).1 :=
        hf.call hs rfl rfl rfl rfl rfl rfl rfl
      unfold flush
      split
      all_goals
        rename_i hc
        obtain ⟨rfl, -⟩ := Prod.ext_iff.mp hc
        exact ⟨hflush, by simp⟩
  | fails hfill => exact ⟨hf, by simp⟩
  | ends hfill => exact hf.finish hs (congrArg (fun r => c.calls ++ [Call.fillOther r]) hfill)
  | blocks hfill hne hpermission => exact ⟨hf.obtainWritePermission hs, by simp⟩
  | refused hfill hne hpermission => exact ⟨hf.obtainWritePermission hs, by simp⟩
  | closed hfill hne hpermission hsend =>
      -- the queue is open
      have htx := (hf.obtainWritePermission hs).tx
      simp [sendPush, htx] at hsend

lemma writeStopped_of_pollWriteUs {fuel : ℕ} {x : Stop σ ε} (h : WriteFaithful c)
    (hx : c.pollWriteUs o fuel = some x) : WriteStopped x := by
  unfold pollWriteUs at hx
  split at hx
  · rename_i m hs
    refine loop_invariant (I := fun y => WriteFaithful y.1 ∧ y.1.writeState = .transferring y.2)
      (Q := WriteStopped) ?_ ?_ ⟨h, hs⟩ hx
    · rintro y y' ⟨hy, hys⟩ hb
      have hw := writes o y.1 y.2
      rw [show writeBody o (y.1, y.2) = .inl y' from hb] at hw
      cases hw with
      | pushes hfill hne hpermission hsend =>
          exact ⟨((hy.fillOther hys).obtainWritePermission hys).push hys, rfl⟩
    · rintro y z ⟨hy, hys⟩ hb
      exact writeStopped_of_writeBody hy hys hb
  · rename_i m hs
    obtain rfl := Option.some.inj hx
    refine ⟨h, fun k hk => ?_⟩
    cases hk
    exact hs

/-! ### Every call of `poll` returns -/

lemma credit_pushes {buf : Bytes}
    (hpermission : (c.fillOther o).1.obtainWritePermission.2 = .ready (.ok ())) :
    ((c.fillOther o).1.obtainWritePermission.1.sendPush buf).1.us.pshSendRemaining.toNat <
      c.us.pshSendRemaining.toNat := by
  have hsend : ((c.fillOther o).1.obtainWritePermission.1.sendPush buf).1.us.pshSendRemaining =
      c.us.pollObtainWritePermission.1.pshSendRemaining := by
    unfold sendPush
    split_ifs <;> rfl
  have hp : c.us.pollObtainWritePermission.2 = .ready (.ok ()) := hpermission
  rw [hsend]
  by_cases hf : c.us.finishSent = true
  · simp [MuxStream.pollObtainWritePermission, hf] at hp
  by_cases hz : c.us.pshSendRemaining = 0
  · simp [MuxStream.pollObtainWritePermission, hf, hz] at hp
  have hpos : c.us.pshSendRemaining.toNat ≠ 0 := fun h0 => hz (UInt32.toNat_inj.mp h0)
  have hle : (1 : UInt32) ≤ c.us.pshSendRemaining := by
    rw [UInt32.le_iff_toNat_le]
    exact Nat.one_le_iff_ne_zero.mpr hpos
  simp only [MuxStream.pollObtainWritePermission, hf, hz, Bool.false_eq_true, if_false]
  rw [UInt32.toNat_sub_of_le _ _ hle, UInt32.toNat_one]
  omega

/-- Every iteration of `poll_write_us` uses up credit. -/
lemma isSome_pollWriteUs (c : CopyBidirectional σ ε) :
    (c.pollWriteUs o (c.us.pshSendRemaining.toNat + 1)).isSome = true := by
  unfold pollWriteUs
  split
  · refine loop_isSome (I := fun _ => True) (fun x => x.1.us.pshSendRemaining.toNat) ?_ trivial
      (Nat.lt_succ_self _)
    intro x x' _ hx
    have hw := writes o x.1 x.2
    rw [show writeBody o (x.1, x.2) = .inl x' from hx] at hw
    cases hw with
    | pushes hfill hne hpermission hsend => exact ⟨trivial, credit_pushes hpermission⟩
  · rfl

lemma pollReadUs_mono {fuel fuel' : ℕ} {x : Stop σ ε} (h : c.pollReadUs o fuel = some x)
    (hle : fuel ≤ fuel') : c.pollReadUs o fuel' = some x := by
  unfold pollReadUs at h ⊢
  split at h
  · exact loop_mono h hle
  · exact h
  · exact h

lemma pollWriteUs_mono {fuel fuel' : ℕ} {x : Stop σ ε} (h : c.pollWriteUs o fuel = some x)
    (hle : fuel ≤ fuel') : c.pollWriteUs o fuel' = some x := by
  unfold pollWriteUs at h ⊢
  split at h
  · exact loop_mono h hle
  · exact h

lemma isSome_pollReadUs (ho : o.Progresses) (c : CopyBidirectional σ ε) :
    (c.pollReadUs o (c.us.available + 1)).isSome = true := by
  unfold pollReadUs
  split
  · exact isSome_loop_of_takes fun i t buf hoffer => ho t buf (BufReadWrite.offer_ne_nil hoffer)
  · rfl
  · rfl

lemma exists_poll (ho : o.Progresses) (c : CopyBidirectional σ ε) :
    ∃ fuel, (c.poll o fuel).isSome = true := by
  have hread : (c.pollReadUs o (c.us.available + 1)).isSome = true := isSome_pollReadUs ho c
  obtain ⟨x, hx⟩ := Option.isSome_iff_exists.mp hread
  obtain ⟨y, hy⟩ := Option.isSome_iff_exists.mp (isSome_pollWriteUs (o := o) x.1)
  have hx' := pollReadUs_mono hx (le_max_left _ (x.1.us.pshSendRemaining.toNat + 1))
  have hy' := pollWriteUs_mono hy (le_max_right (c.us.available + 1) _)
  refine ⟨max (c.us.available + 1) (x.1.us.pshSendRemaining.toNat + 1), ?_⟩
  simp only [poll, hx', hy', Option.bind_eq_bind, Option.bind_some]
  rfl

/-! ### Runs -/

variable {s s' : Session σ ε} {e : Event σ}

/-- The stream is not closed from below while the copy goes on. -/
def Undisturbed (_ : Session σ ε) (e : Event σ) : Prop := e ≠ .close ∧ e ≠ .closeQueue

structure Faithful (s : Session σ ε) : Prop where
  read : ReadFaithful s.received s.copy
  write : WriteFaithful s.copy
  outcome : ∀ n m, s.outcome = some (.ok (n, m)) →
    s.copy.readState = .done n ∧ s.copy.writeState = .done m

lemma Faithful.poll {fuel : ℕ} (h : Faithful s) (hs : step o s (.poll fuel) = some s') :
    Faithful s' := by
  obtain ⟨hnone, hreceived, r, hpoll, hr⟩ := step_poll hs
  simp only [CopyBidirectional.poll, Option.bind_eq_bind, Option.pure_def, Option.bind_eq_some_iff,
    Option.some.injEq, Prod.mk.injEq, Prod.exists] at hpoll
  obtain ⟨c₁, r', hread, c₂, w, hwrite, hcopy, rfl⟩ := hpoll
  subst hcopy
  obtain ⟨lr, hside, -⟩ := pollReadUs_calls hread
  obtain ⟨lw, hside', -⟩ := pollWriteUs_calls hwrite
  obtain ⟨hr₁, hdone⟩ := readStopped_of_pollReadUs h.read hread
  obtain ⟨hw₁, hdone'⟩ := writeStopped_of_pollWriteUs (h.write.of_readSide hside) hwrite
  refine ⟨?_, hw₁, fun n m hnm => ?_⟩
  · rw [hreceived]
    exact hr₁.of_writeSide hside'
  · rcases hr with ⟨-, hout⟩ | ⟨y, hy, hout⟩
    · rw [hout] at hnm
      cases hnm
    · rw [hout] at hnm
      obtain rfl := Option.some.inj hnm
      rcases r' with (err | k) | _
      · cases hy
      · rcases w with (err | k') | _
        · cases hy
        · obtain ⟨rfl, rfl⟩ : k = n ∧ k' = m := by simpa [both] using hy
          exact ⟨hside'.readState.trans (hdone k rfl), hdone' k' rfl⟩
        · cases hy
      · cases hy

lemma Faithful.push {frame : Bytes} (h : Faithful s) (hs : step o s (.push frame) = some s') :
    Faithful s' := by
  simp only [step] at hs
  split_ifs at hs with hok
  obtain rfl := Option.some.inj hs
  refine ⟨⟨?_, h.read.amount, h.read.consumed, ?_, fun hn => ?_, h.read.shutDown⟩,
    ⟨h.write.pushed, h.write.amount, h.write.tx, h.write.going, h.write.finished⟩, h.outcome⟩
  · simp only
    rw [h.read.received]
    simp
  · intro f hf
    rcases List.mem_append.mp hf with hf | hf
    · exact h.read.frames f hf
    · rw [List.mem_singleton.mp hf]
      exact hok.2
  · -- once the stream has ended no frame comes
    have := (h.read.ended hn).2.2
    rw [hok.1] at this
    cases this

lemma faithful_step (h : Faithful s) (hok : Undisturbed s e) (hs : step o s e = some s') :
    Faithful s' := by
  cases e with
  | push frame => exact h.push hs
  | poll fuel => exact h.poll hs
  | close => exact absurd rfl hok.1
  | closeQueue => exact absurd rfl hok.2
  | finish =>
      obtain rfl := Option.some.inj hs
      exact ⟨{ h.read with ended := fun hn => ⟨(h.read.ended hn).1, (h.read.ended hn).2.1, rfl⟩ },
        { h.write with }, h.outcome⟩
  | acknowledge k =>
      obtain rfl := Option.some.inj hs
      exact ⟨{ h.read with }, { h.write with }, h.outcome⟩
  | other t =>
      obtain rfl := Option.some.inj hs
      exact ⟨{ h.read with }, { h.write with }, h.outcome⟩

lemma faithful_start {flowId : UInt32} {us : MuxStream} {rx : Bool} {other : σ}
    (hopen : us.finishSent = false) (hframes : ∀ f ∈ us.frameRx, f ≠ []) :
    Faithful (start flowId us true rx other : Session σ ε) where
  read := ⟨rfl, rfl, rfl, hframes, fun hn => absurd rfl (hn 0), by simp [start]⟩
  write := ⟨rfl, rfl, rfl, fun _ _ => ⟨hopen, rfl⟩, by simp [start]⟩
  outcome := by simp [start]

lemma faithful {flowId : UInt32} {us : MuxStream} {rx : Bool} {other : σ}
    (hopen : us.finishSent = false) (hframes : ∀ f ∈ us.frameRx, f ≠ [])
    (hs : Reach (step o) Undisturbed (start flowId us true rx other) s) : Faithful s :=
  hs.invariant (faithful_start hopen hframes) fun _ _ _ h hok hs => faithful_step h hok hs

/-- Both sides have ended and everything was passed on. -/
structure Complete (s : Session σ ε) (n m : UInt64) : Prop where
  streamEnded : s.copy.us.buf = [] ∧ s.copy.us.frameRx = [] ∧ s.copy.rx = false
  otherEnded : Ended s.copy.calls
  read : written s.copy.calls = s.received ∧ n = UInt64.ofNat s.received.length
  wrote : (pushes s.copy.sent).flatten = consumedFromOther s.copy.calls ∧
    m = UInt64.ofNat (consumedFromOther s.copy.calls).length
  shutDown : ShutDown s.copy.calls
  finished : dataFrames s.copy.sent =
    (pushes s.copy.sent).map (Frame.newPush s.copy.flowId) ++ [Frame.newFinish s.copy.flowId]

lemma Faithful.complete (h : Faithful s) (hout : s.outcome = some (.ok (n, m))) : Complete s n m := by
  obtain ⟨hr, hw⟩ := h.outcome n m hout
  have hended := h.read.ended (by simp [hr])
  have hreceived : s.received = written s.copy.calls := by
    rw [h.read.received, hended.1, hended.2.1]
    simp
  have hn := h.read.amount
  have hm := h.write.amount
  rw [hr, ReadState.amount] at hn
  rw [hw, WriteState.amount] at hm
  obtain ⟨hother, hdata⟩ := h.write.finished m hw
  exact {
    streamEnded := hended
    otherEnded := hother
    read := ⟨hreceived.symm, hreceived ▸ hn⟩
    wrote := ⟨h.write.pushed, hm⟩
    shutDown := h.read.shutDown n hr
    finished := hdata }

/-- **The copy is faithful.** Whatever `other` does, in every state between the calls of `poll` the
bytes it has taken are the first ones that came for the stream and all that were consumed; and the
pushes are the bytes that were consumed from `other`. The state has their numbers modulo `2 ^ 64`,
so that up to there it says how many they are. When the copy has ended well both sides have ended,
everything was passed on, `other` was shut down after its last byte, and one `Finish` was queued
after the last push. If `other` takes a byte whenever it takes any, no call of `poll` goes on for
ever. -/
theorem copy_faithful (o : BufReadWrite σ ε) (flowId : UInt32) (us : MuxStream) (rx : Bool)
    (other : σ) (hopen : us.finishSent = false) (hframes : ∀ f ∈ us.frameRx, f ≠ [])
    (s : Session σ ε) (hs : Reach (step o) Undisturbed (start flowId us true rx other) s) :
    (written s.copy.calls <+: s.received ∧
      s.copy.readState.amount = UInt64.ofNat (written s.copy.calls).length ∧
      ((written s.copy.calls).length < 2 ^ 64 →
        written s.copy.calls = s.received.take s.copy.readState.amount.toNat) ∧
      consumedFromUs s.copy.calls = written s.copy.calls) ∧
    ((pushes s.copy.sent).flatten = consumedFromOther s.copy.calls ∧
      s.copy.writeState.amount = UInt64.ofNat (consumedFromOther s.copy.calls).length) ∧
    (∀ n m, s.outcome = some (.ok (n, m)) → Complete s n m) ∧
    (o.Progresses → ∃ fuel, (s.copy.poll o fuel).isSome = true) := by
  have h : Faithful s := faithful hopen hframes hs
  refine ⟨⟨?_, h.read.amount, fun hlt => ?_, h.read.consumed⟩, ⟨h.write.pushed, h.write.amount⟩,
    fun n m hout => h.complete hout, fun ho => exists_poll ho s.copy⟩
  · rw [h.read.received]
    exact List.prefix_append _ _
  · rw [h.read.amount, UInt64.toNat_ofNat_of_lt' hlt, h.read.received, List.take_left]

/-! ### Where the numbers wrap around -/

/-- An `other` that takes everything and shows nothing. -/
def sink : BufReadWrite Unit Unit where
  pollFillBuf s := (s, .pending)
  consume s _ := s
  pollWrite s buf := (s, .ready (.ok (Fin.last buf.length)))
  pollFlush s := (s, .ready (.ok ()))
  pollShutdown s := (s, .ready (.ok ()))

lemma progresses_sink : sink.Progresses := by
  intro s buf hne h
  have hlast : Fin.last buf.length = 0 := by simpa [sink] using h
  apply hne
  simpa using congrArg Fin.val hlast

/-- What came for the stream was written to the sink, and the copy waits for more. -/
structure Sunk (k : ℕ) (s : Session Unit Unit) : Prop where
  faithful : Faithful s
  outcome : s.outcome = none
  rx : s.copy.rx = true
  state : ∃ n, s.copy.readState = .transferring n
  drained : s.copy.us.buf = [] ∧ s.copy.us.frameRx = []
  received : s.received.length = k

/-- The sink does not stop `poll_read_us` before there is nothing left. -/
lemma pollReadUs_sink {c : CopyBidirectional Unit Unit} {fuel : ℕ} {x : Stop Unit Unit}
    (h : ReadFaithful received c) (hrx : c.rx = true) (hs : c.readState = .transferring n)
    (hx : c.pollReadUs sink fuel = some x) :
    x.2 = .pending ∧ (∃ n, x.1.readState = .transferring n) ∧ x.1.us.buf = [] ∧
      x.1.us.frameRx = [] := by
  simp only [pollReadUs, hs] at hx
  refine loop_invariant
    (I := fun y => ReadFaithful received y.1 ∧ y.1.rx = true ∧ y.1.readState = .transferring y.2)
    (Q := fun x => x.2 = .pending ∧ (∃ n, x.1.readState = .transferring n) ∧ x.1.us.buf = [] ∧
      x.1.us.frameRx = []) ?_ ?_ ⟨h, hrx, hs⟩ hx
  · rintro y y' ⟨hy, hyrx, hys⟩ hb
    have hr := reads sink y.1 y.2
    rw [show readBody sink (y.1, y.2) = .inl y' from hb] at hr
    cases hr with
    | writes hfill hne hwrite => exact ⟨hy.writes hys hfill hwrite, hyrx, rfl⟩
  · rintro y z ⟨hy, hyrx, hys⟩ hb
    have hf := y.1.us.filled y.1.flowId y.1.tx y.1.rx
    have hr := reads sink y.1 y.2
    rw [show readBody sink (y.1, y.2) = .inr z from hb] at hr
    cases hr with
    | waits hfill =>
        obtain ⟨hbuf, hframes, -⟩ := hf.waits hfill
        have hsame : y.1.fillUs.1.us = y.1.us := by
          simp [fillUs, MuxStream.pollFillBuf_of_empty y.1.rx hbuf hframes]
        exact ⟨rfl, ⟨_, hys⟩, by rw [hsame, hbuf], by rw [hsame, hframes]⟩
    | ends hfill =>
        -- more may come
        obtain ⟨-, -, hclosed⟩ := hf.ended hfill hy.frames
        rw [hyrx] at hclosed
        cases hclosed
    | blocks hfill hne hwrite => cases hwrite
    | fails hfill hne hwrite => cases hwrite

/-- One byte more. -/
lemma Sunk.round {k : ℕ} {s : Session Unit Unit} (h : Sunk k s) :
    ∃ s', Reach (step sink) Undisturbed s s' ∧ Sunk (k + 1) s' := by
  obtain ⟨s₁, hpush⟩ : ∃ s₁, step sink s (.push [0]) = some s₁ := by simp [step, h.rx]
  have hpushed : Undisturbed s (.push [0] : Event Unit) := by simp [Undisturbed]
  have h₁ : Faithful s₁ := faithful_step h.faithful hpushed hpush
  obtain rfl : s₁ = { s with
      copy := { s.copy with us := { s.copy.us with frameRx := s.copy.us.frameRx ++ [[0]] } }
      received := s.received ++ [0] } := by
    simpa [step, h.rx] using hpush.symm
  obtain ⟨fuel, hfuel⟩ := exists_poll progresses_sink
    { s.copy with us := { s.copy.us with frameRx := s.copy.us.frameRx ++ [[0]] } }
  obtain ⟨⟨c, r⟩, hpoll⟩ := Option.isSome_iff_exists.mp hfuel
  have hparts := hpoll
  simp only [CopyBidirectional.poll, Option.bind_eq_bind, Option.pure_def,
    Option.bind_eq_some_iff, Option.some.injEq, Prod.mk.injEq, Prod.exists] at hparts
  obtain ⟨c₁, r', hread, c₂, w, hwrite, rfl, rfl⟩ := hparts
  obtain ⟨n, hn⟩ := h.state
  obtain ⟨hpending, hstate, hbuf, hframes⟩ := pollReadUs_sink h₁.read h.rx hn hread
  obtain rfl : r' = .pending := hpending
  obtain ⟨lr, hside, -⟩ := pollReadUs_calls hread
  obtain ⟨lw, hside', -⟩ := pollWriteUs_calls hwrite
  have hstep : step sink { s with
      copy := { s.copy with us := { s.copy.us with frameRx := s.copy.us.frameRx ++ [[0]] } }
      received := s.received ++ [0] } (.poll fuel) =
      some { s with copy := c₂, received := s.received ++ [0] } := by
    simp [step, h.outcome, hpoll, both]
  have hpolled : ∀ s' : Session Unit Unit, Undisturbed s' (.poll fuel) := by simp [Undisturbed]
  refine ⟨_, .next (.next .start hpushed hpush) (hpolled _) hstep, ?_⟩
  exact {
    faithful := faithful_step h₁ (hpolled _) hstep
    outcome := h.outcome
    rx := (hside'.rx.trans hside.rx).trans h.rx
    state := by rw [hside'.readState]; exact hstate
    drained := ⟨hside'.buf.trans hbuf, hside'.frameRx.trans hframes⟩
    received := by simp [h.received] }

lemma exists_sunk (k : ℕ) : ∃ s : Session Unit Unit,
    Reach (step sink) Undisturbed (start 1 idleStream true true ()) s ∧ Sunk k s := by
  induction k with
  | zero =>
      refine ⟨_, .start, faithful_start rfl (by simp [idleStream]), rfl, rfl, ⟨0, rfl⟩, ⟨rfl, rfl⟩, ?_⟩
      rfl
  | succ k ih =>
      obtain ⟨s, hs, hk⟩ := ih
      obtain ⟨s', hs', hk'⟩ := hk.round
      exact ⟨s', hs.trans hs', hk'⟩

/-- When `2 ^ 64` bytes were copied the state says that none was. -/
theorem copy_faithful_wraps :
    ∃ s : Session Unit Unit, Reach (step sink) Undisturbed (start 1 idleStream true true ()) s ∧
      (written s.copy.calls).length = 2 ^ 64 ∧ s.copy.readState.amount = 0 ∧
      written s.copy.calls ≠ s.received.take s.copy.readState.amount.toNat := by
  obtain ⟨s, hs, h⟩ := exists_sunk (2 ^ 64)
  have hall : s.received = written s.copy.calls := by
    rw [h.faithful.read.received, h.drained.1, h.drained.2]
    simp
  have hlen : (written s.copy.calls).length = 2 ^ 64 := hall ▸ h.received
  have hamount : s.copy.readState.amount = 0 := by
    rw [h.faithful.read.amount, hlen]
    rfl
  refine ⟨s, hs, hlen, hamount, fun heq => ?_⟩
  rw [hamount] at heq
  have hzero : (written s.copy.calls).length = 0 := by simpa using congrArg List.length heq
  omega

/-- An `other` that shows all it has left, and takes one byte at a time. -/
def slowWriter : BufReadWrite Bytes Unit where
  pollFillBuf s := (s, .ready (.ok s))
  consume s amt := s.drop amt
  pollWrite s buf := (s, .ready (.ok ⟨min 1 buf.length, Nat.lt_succ_of_le (Nat.min_le_right _ _)⟩))
  pollFlush s := (s, .ready (.ok ()))
  pollShutdown s := (s, .ready (.ok ()))

/-- Three bytes one way and two the other. -/
theorem copy_faithful_sample :
    ∃ s : Session Bytes Unit,
      Reach (step slowWriter) Undisturbed (start 1 idleStream true true [7, 8]) s ∧
      s.outcome = some (.ok (3, 2)) ∧ Complete s 3 2 := by
  have hrun : run (step slowWriter) (start 1 idleStream true true [7, 8])
      [.push [1, 2], .poll 9, .push [3], .finish, .poll 9] = some _ := rfl
  have hs : Reach (step slowWriter) Undisturbed _ _ :=
    reach_of_run hrun (runMeets_of_forall (by simp [Undisturbed]) _)
  exact ⟨_, hs, rfl, (copy_faithful slowWriter 1 idleStream true [7, 8] rfl (by simp [idleStream]) _
    hs).2.2.1 3 2 rfl⟩

end CopyBidirectional

end Penguin.Mux
