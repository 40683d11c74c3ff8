import Penguin.Mux.Copy

/-!
The calls of one `poll` of a copy, and what becomes of their answers.

The two directions make different calls, so the record of a `poll` shows what each of them was
told. From it one reads off which errors were met and whether what was written to `other` has
been flushed.
-/

namespace Penguin.Mux

open Penguin.Lib.Loop Penguin.Lib.Transition

namespace Call

variable {ε : Type}

/-- A call of `poll_read_us`; the others are those of `poll_write_us`. -/
def isRead : Call ε → Bool
  | .fillUs _ | .write _ _ | .consumeUs _ | .shutdown _ => true
  | _ => false

def isPending : Call ε → Bool
  | .fillUs r => r.isPending
  | .write _ r => r.isPending
  | .shutdown r | .flush r => r.isPending
  | .fillOther r => r.isPending
  | .permission r => r.isPending
  | _ => false

def isErr : Call ε → Bool
  | .write _ r => r.isErr
  | .shutdown r | .flush r => r.isErr
  | .fillOther r => r.isErr
  | .permission r => r.isErr
  | .send (.error _) | .shutdownUs (.error _) => true
  | _ => false

/-- `other` has taken bytes. -/
def accepts : Call ε → Bool
  | .write _ (.ready (.ok k)) => 0 < k
  | _ => false

/-- `other` was told to pass on what it has taken, and did not fail. -/
def flushes : Call ε → Bool
  | .flush r | .shutdown r => !r.isErr
  | _ => false

/-- The stream has shown its end. -/
def ends : Call ε → Bool
  | .fillUs (.ready buf) => buf.isEmpty
  | _ => false

/-- A call that neither stops a direction nor flushes. -/
def isQuiet (x : Call ε) : Bool := !x.isPending && !x.isErr && !x.flushes && !x.ends

@[simp] lemma isQuiet_fillUs (buf : Bytes) :
    (fillUs (.ready buf) : Call ε).isQuiet = !buf.isEmpty := rfl

@[simp] lemma isQuiet_write (buf : Bytes) (k : ℕ) :
    (write buf (.ready (.ok k)) : Call ε).isQuiet = true := rfl

@[simp] lemma isQuiet_consumeUs (bytes : Bytes) : (consumeUs bytes : Call ε).isQuiet = true := rfl

@[simp] lemma isQuiet_fillOther (buf : Bytes) :
    (fillOther (.ready (.ok buf)) : Call ε).isQuiet = true := rfl

@[simp] lemma isQuiet_permission :
    (permission (.ready (.ok ())) : Call ε).isQuiet = true := rfl

@[simp] lemma isQuiet_send : (send (.ok ()) : Call ε).isQuiet = true := rfl

@[simp] lemma isQuiet_consumeOther (bytes : Bytes) :
    (consumeOther bytes : Call ε).isQuiet = true := rfl

end Call

namespace CopyBidirectional

variable {σ ε : Type} {o : BufReadWrite σ ε} {c c' c'' : CopyBidirectional σ ε}
  {l l' : List (Call ε)}

/-! ### What each direction leaves alone -/

/-- From `c` to `c'` only calls of `poll_read_us` were made. -/
structure ReadSide (c : CopyBidirectional σ ε) (l : List (Call ε)) (c' : CopyBidirectional σ ε) :
    Prop where
  calls : c'.calls = c.calls ++ l
  isRead : ∀ x ∈ l, x.isRead = true
  sent : ∃ acks, c'.sent = c.sent ++ acks ∧ ∀ f ∈ acks, ∃ n, f = Frame.newAcknowledge c.flowId n
  writeState : c'.writeState = c.writeState
  flowId : c'.flowId = c.flowId
  tx : c'.tx = c.tx
  rx : c'.rx = c.rx
  finishSent : c'.us.finishSent = c.us.finishSent
  credit : c'.us.pshSendRemaining = c.us.pshSendRemaining

/-- From `c` to `c'` only calls of `poll_write_us` were made. -/
structure WriteSide (c : CopyBidirectional σ ε) (l : List (Call ε)) (c' : CopyBidirectional σ ε) :
    Prop where
  calls : c'.calls = c.calls ++ l
  isWrite : ∀ x ∈ l, x.isRead = false
  readState : c'.readState = c.readState
  flowId : c'.flowId = c.flowId
  tx : c'.tx = c.tx
  rx : c'.rx = c.rx
  buf : c'.us.buf = c.us.buf
  frameRx : c'.us.frameRx = c.us.frameRx

lemma ReadSide.refl (c : CopyBidirectional σ ε) : ReadSide c [] c :=
  ⟨by simp, by simp, ⟨[], by simp, by simp⟩, rfl, rfl, rfl, rfl, rfl, rfl⟩

lemma WriteSide.refl (c : CopyBidirectional σ ε) : WriteSide c [] c :=
  ⟨by simp, by simp, rfl, rfl, rfl, rfl, rfl, rfl⟩

lemma ReadSide.trans (h : ReadSide c l c') (h' : ReadSide c' l' c'') : ReadSide c (l ++ l') c'' := by
  obtain ⟨acks, hsent, hacks⟩ := h.sent
  obtain ⟨acks', hsent', hacks'⟩ := h'.sent
  refine ⟨by rw [h'.calls, h.calls, List.append_assoc], ?_, ⟨acks ++ acks', ?_, ?_⟩,
    h'.writeState.trans h.writeState, h'.flowId.trans h.flowId, h'.tx.trans h.tx, h'.rx.trans h.rx,
    h'.finishSent.trans h.finishSent, h'.credit.trans h.credit⟩
  · exact List.forall_mem_append.mpr ⟨h.isRead, h'.isRead⟩
  · rw [hsent', hsent, List.append_assoc]
  · rw [h.flowId] at hacks'
    exact List.forall_mem_append.mpr ⟨hacks, hacks'⟩

lemma WriteSide.trans (h : WriteSide c l c') (h' : WriteSide c' l' c'') :
    WriteSide c (l ++ l') c'' :=
  ⟨by rw [h'.calls, h.calls, List.append_assoc],
    List.forall_mem_append.mpr ⟨h.isWrite, h'.isWrite⟩, h'.readState.trans h.readState,
    h'.flowId.trans h.flowId, h'.tx.trans h.tx, h'.rx.trans h.rx, h'.buf.trans h.buf,
    h'.frameRx.trans h.frameRx⟩

/-! ### One lemma for each call -/

lemma readSide_readState (s : ReadState) : ReadSide c [] { c with readState := s } :=
  { ReadSide.refl c with }

lemma readSide_fillUs : ReadSide c [.fillUs c.fillUs.2] c.fillUs.1 where
  calls := rfl
  isRead := by simp [Call.isRead]
  sent := ⟨_, rfl, (c.us.filled c.flowId c.tx c.rx).acks⟩
  writeState := rfl
  flowId := rfl
  tx := rfl
  rx := rfl
  finishSent := (c.us.filled c.flowId c.tx c.rx).finishSent
  credit := (c.us.filled c.flowId c.tx c.rx).credit

lemma readSide_writeOther (buf : Bytes) :
    ReadSide c [.write buf (c.writeOther o buf).2] (c.writeOther o buf).1 :=
  ⟨rfl, by simp [Call.isRead], ⟨[], by simp [writeOther], by simp⟩, rfl, rfl, rfl, rfl, rfl, rfl⟩

lemma readSide_consumeUs (amt : ℕ) :
    ReadSide c [.consumeUs (c.us.buf.take amt)] (c.consumeUs amt) :=
  ⟨rfl, by simp [Call.isRead], ⟨[], by simp [consumeUs], by simp⟩, rfl, rfl, rfl, rfl, rfl, rfl⟩

lemma readSide_shutdownOther : ReadSide c [.shutdown (c.shutdownOther o).2] (c.shutdownOther o).1 :=
  ⟨rfl, by simp [Call.isRead], ⟨[], by simp [shutdownOther], by simp⟩, rfl, rfl, rfl, rfl, rfl, rfl⟩

lemma writeSide_writeState (s : WriteState) : WriteSide c [] { c with writeState := s } :=
  { WriteSide.refl c with }

lemma writeSide_fillOther : WriteSide c [.fillOther (c.fillOther o).2] (c.fillOther o).1 :=
  ⟨rfl, by simp [Call.isRead], rfl, rfl, rfl, rfl, rfl, rfl⟩

lemma writeSide_flushOther : WriteSide c [.flush (c.flushOther o).2] (c.flushOther o).1 :=
  ⟨rfl, by simp [Call.isRead], rfl, rfl, rfl, rfl, rfl, rfl⟩

lemma writeSide_consumeOther (buf : Bytes) (amt : ℕ) :
    WriteSide c [.consumeOther (buf.take amt)] (c.consumeOther o buf amt) :=
  ⟨rfl, by simp [Call.isRead], rfl, rfl, rfl, rfl, rfl, rfl⟩

lemma writeSide_obtainWritePermission :
    WriteSide c [.permission c.obtainWritePermission.2] c.obtainWritePermission.1 := by
  refine ⟨rfl, by simp [Call.isRead], rfl, rfl, rfl, rfl, ?_, ?_⟩ <;>
    simp only [obtainWritePermission, MuxStream.pollObtainWritePermission] <;> split_ifs <;> rfl

lemma writeSide_sendPush (buf : Bytes) :
    WriteSide c [.send (c.sendPush buf).2] (c.sendPush buf).1 := by
  unfold sendPush
  split_ifs <;> exact ⟨rfl, by simp [Call.isRead], rfl, rfl, rfl, rfl, rfl, rfl⟩

lemma writeSide_shutdownUs : WriteSide c [.shutdownUs c.shutdownUs.2] c.shutdownUs.1 := by
  refine ⟨rfl, by simp [Call.isRead], rfl, rfl, rfl, rfl, ?_, ?_⟩ <;>
    simp only [shutdownUs, MuxStream.shutdownInner] <;> split_ifs <;> rfl

/-! ### How a direction stops -/

/-- `poll_read_us` found the state `s`, made the calls `l` and returned `r`: the answer it stopped at
is in `r`, `other` is shut down when the stream has ended, and nothing comes after that. -/
structure ReadCalls (s : ReadState) (l : List (Call ε)) (r : Poll (Except (CopyError ε) UInt64)) :
    Prop where
  pending : r.isPending = true ↔ ∃ x ∈ l, x.isPending = true
  err : r.isErr = true ↔ ∃ x ∈ l, x.isErr = true
  ended : (∃ a, .shutdown a ∈ l) ↔ (∃ x ∈ l, x.ends = true) ∨ ∃ n, s = .shuttingDown n
  last : ∀ x ∈ l, x.flushes = true → ∃ l₀, l = l₀ ++ [x]

/-- `poll_write_us` made the calls `l` and returned `w`: errors are in `w`, and it flushes when
`other` has nothing to read. -/
structure WriteCalls (l : List (Call ε)) (w : Poll (Except (CopyError ε) UInt64)) : Prop where
  err : w.isErr = true ↔ ∃ x ∈ l, x.isErr = true
  flushes : (∃ x ∈ l, x.flushes = true) ↔
    .fillOther .pending ∈ l ∧ ∀ e, .flush (.ready (.error e)) ∉ l

lemma Call.isQuiet_iff {x : Call ε} : x.isQuiet = true ↔
    x.isPending = false ∧ x.isErr = false ∧ x.flushes = false ∧ x.ends = false := by
  simp [Call.isQuiet, and_assoc]

lemma Call.isQuiet_shutdown (a : Poll (Except ε Unit)) :
    (Call.shutdown a : Call ε).isQuiet = false := by
  rcases a with (e | u) | _ <;> rfl

lemma exists_mem_append_of_quiet {p : Call ε → Bool} (hp : ∀ x, x.isQuiet = true → p x = false)
    (hl : ∀ x ∈ l, x.isQuiet = true) :
    (∃ x ∈ l ++ l', p x = true) ↔ ∃ x ∈ l', p x = true := by
  constructor
  · rintro ⟨x, hx, hpx⟩
    rcases List.mem_append.mp hx with hx | hx
    · rw [hp x (hl x hx)] at hpx
      cases hpx
    · exact ⟨x, hx, hpx⟩
  · rintro ⟨x, hx, hpx⟩
    exact ⟨x, List.mem_append_right l hx, hpx⟩

lemma not_mem_of_quiet {x : Call ε} (hx : x.isQuiet = false) (hl : ∀ x ∈ l, x.isQuiet = true) :
    x ∉ l := by
  intro hmem
  rw [hl x hmem] at hx
  cases hx

variable {state : ReadState}

lemma ReadCalls.after {r : Poll (Except (CopyError ε) UInt64)} (hl : ∀ x ∈ l, x.isQuiet = true)
    (h : ReadCalls state l' r) : ReadCalls state (l ++ l') r := by
  refine ⟨?_, ?_, ?_, fun x hx hf => ?_⟩
  · rw [exists_mem_append_of_quiet (fun x hq => (Call.isQuiet_iff.mp hq).1) hl]
    exact h.pending
  · rw [exists_mem_append_of_quiet (fun x hq => (Call.isQuiet_iff.mp hq).2.1) hl]
    exact h.err
  · have hshut : ∀ a : Poll (Except ε Unit), Call.shutdown a ∉ l := fun a =>
      not_mem_of_quiet (Call.isQuiet_shutdown a) hl
    rw [exists_mem_append_of_quiet (fun x hq => (Call.isQuiet_iff.mp hq).2.2.2) hl, ← h.ended]
    simp [hshut]
  · rcases List.mem_append.mp hx with hx | hx
    · rw [(Call.isQuiet_iff.mp (hl x hx)).2.2.1] at hf
      cases hf
    · obtain ⟨l₀, rfl⟩ := h.last x hx hf
      exact ⟨l ++ l₀, (List.append_assoc l l₀ [x]).symm⟩

lemma WriteCalls.after {w : Poll (Except (CopyError ε) UInt64)} (hl : ∀ x ∈ l, x.isQuiet = true)
    (h : WriteCalls l' w) : WriteCalls (l ++ l') w := by
  refine ⟨?_, ?_⟩
  · rw [exists_mem_append_of_quiet (fun x hq => (Call.isQuiet_iff.mp hq).2.1) hl]
    exact h.err
  · have hfill : Call.fillOther (.pending : Poll (Except ε Bytes)) ∉ l := not_mem_of_quiet rfl hl
    have hflush : ∀ e : ε, Call.flush (.ready (.error e)) ∉ l := fun e => not_mem_of_quiet rfl hl
    rw [exists_mem_append_of_quiet (fun x hq => (Call.isQuiet_iff.mp hq).2.2.1) hl, h.flushes]
    simp [hfill, hflush]

lemma ReadCalls.single {x : Call ε} {r : Poll (Except (CopyError ε) UInt64)}
    (hpending : r.isPending = x.isPending) (herr : r.isErr = x.isErr)
    (hended : (∃ a, .shutdown a = x) ↔ x.ends = true ∨ ∃ n, state = .shuttingDown n) :
    ReadCalls state [x] r :=
  ⟨by simp [hpending], by simp [herr], by simpa using hended,
    fun y hy _ => ⟨[], by rw [List.mem_singleton.mp hy]; rfl⟩⟩

lemma WriteCalls.single {x : Call ε} {w : Poll (Except (CopyError ε) UInt64)}
    (herr : w.isErr = x.isErr) (hflush : x.flushes = false) (hfill : x ≠ .fillOther .pending) :
    WriteCalls [x] w :=
  ⟨by simp [herr], by simp [hflush, hfill.symm]⟩

lemma shutDown_calls (n : UInt64) :
    ∃ a, ReadSide c [.shutdown a] (shutDown o c n).1 ∧
      ReadCalls (.shuttingDown n) [.shutdown a] (shutDown o c n).2 := by
  have hside : ReadSide c [.shutdown (c.shutdownOther o).2] (c.shutdownOther o).1 :=
    readSide_shutdownOther
  rcases hc : c.shutdownOther o with ⟨c₁, (e | u) | _⟩ <;> rw [hc] at hside <;>
    simp only [shutDown, hc]
  · exact ⟨_, hside, .single rfl rfl (by simp)⟩
  · exact ⟨_, hside.trans (readSide_readState _), .single rfl rfl (by simp)⟩
  · exact ⟨_, hside, .single rfl rfl (by simp)⟩

lemma readBody_calls {n : UInt64} {x : CopyBidirectional σ ε × UInt64}
    (h : readBody o (c, n) = .inl x) :
    ∃ l, ReadSide c l x.1 ∧ ∀ y ∈ l, y.isQuiet = true := by
  have hr := reads o c n
  rw [h] at hr
  cases hr with
  | @writes buf k hfill hne hwrite =>
      refine ⟨_, ((readSide_fillUs.trans (readSide_writeOther buf)).trans
        (readSide_consumeUs k)).trans (readSide_readState _), ?_⟩
      rw [hfill, hwrite]
      simp [hne]

lemma readBody_stop {n : UInt64} {x : Stop σ ε} (h : readBody o (c, n) = .inr x) :
    ∃ l, ReadSide c l x.1 ∧ ReadCalls (.transferring n) l x.2 := by
  have hr := reads o c n
  rw [h] at hr
  cases hr with
  | waits hfill =>
      refine ⟨_, readSide_fillUs, ?_⟩
      rw [hfill]
      exact .single rfl rfl (by simp [Call.ends])
  | ends hfill =>
      obtain ⟨a, hside, hl⟩ := shutDown_calls (o := o)
        (c := { c.fillUs.1 with readState := .shuttingDown n }) n
      refine ⟨_, (readSide_fillUs.trans (readSide_readState _)).trans hside, ?_⟩
      rw [hfill]
      refine ⟨?_, ?_, by simp [Call.ends], fun x hx hf => ?_⟩
      · rw [hl.pending]
        simp [Call.isPending, Poll.isPending]
      · rw [hl.err]
        simp [Call.isErr]
      · rcases List.mem_append.mp hx with hx | hx
        · obtain rfl : x = .fillUs (.ready []) := by simpa using hx
          cases hf
        · exact ⟨[.fillUs (.ready [])], by rw [List.mem_singleton.mp hx, List.append_nil]⟩
  | @blocks buf hfill hne hwrite =>
      refine ⟨_, readSide_fillUs.trans (readSide_writeOther buf), ?_⟩
      rw [hfill, hwrite]
      refine ReadCalls.after ?_ (.single rfl rfl (by simp [Call.ends]))
      simp [hne]
  | @fails buf e hfill hne hwrite =>
      refine ⟨_, readSide_fillUs.trans (readSide_writeOther buf), ?_⟩
      rw [hfill, hwrite]
      refine ReadCalls.after ?_ (.single rfl rfl (by simp [Call.ends]))
      simp [hne]

lemma pollReadUs_calls {fuel : ℕ} {x : Stop σ ε} (h : c.pollReadUs o fuel = some x) :
    ∃ l, ReadSide c l x.1 ∧ ReadCalls c.readState l x.2 := by
  unfold pollReadUs at h
  split at h
  case h_1 n hs =>
    -- each iteration adds quiet calls to those of the ones before
    refine loop_invariant (I := fun y => ∃ l, ReadSide c l y.1 ∧ ∀ z ∈ l, z.isQuiet = true)
      (Q := fun y => ∃ l, ReadSide c l y.1 ∧ ReadCalls c.readState l y.2) ?_ ?_
      ⟨[], .refl c, by simp⟩ h
    · rintro y y' ⟨l, hl, hq⟩ hy
      obtain ⟨l', hl', hq'⟩ := readBody_calls hy
      exact ⟨l ++ l', hl.trans hl', List.forall_mem_append.mpr ⟨hq, hq'⟩⟩
    · rintro y z ⟨l, hl, hq⟩ hy
      obtain ⟨l', hl', hcalls⟩ := readBody_stop hy
      refine ⟨l ++ l', hl.trans hl', ReadCalls.after hq ?_⟩
      exact { hcalls with ended := by rw [hcalls.ended]; simp [hs] }
  case h_2 n hs =>
    obtain rfl := Option.some.inj h
    obtain ⟨a, hside, hcalls⟩ := shutDown_calls (o := o) (c := c) n
    rw [hs]
    exact ⟨_, hside, hcalls⟩
  case h_3 n hs =>
    obtain rfl := Option.some.inj h
    exact ⟨[], .refl c, by simp [Poll.isPending], by simp [Poll.isErr], by simp [hs], by simp⟩

lemma flush_calls (hfill : (c.fillOther o).2 = .pending) :
    ∃ l, WriteSide c l ((c.fillOther o).1.flush o).1 ∧
      WriteCalls l ((c.fillOther o).1.flush o).2 := by
  have hside := (writeSide_fillOther (o := o) (c := c)).trans
    (writeSide_flushOther (o := o) (c := (c.fillOther o).1))
  rw [hfill] at hside
  rcases hf : (c.fillOther o).1.flushOther o with ⟨c₁, (e | u) | _⟩ <;> rw [hf] at hside <;>
    simp only [flush, hf]
  all_goals
    refine ⟨_, hside, ?_, ?_⟩
    · simp [Call.isErr, Poll.isErr]
    · simp [Call.flushes, Poll.isErr]

lemma finish_calls (m : UInt64) :
    ∃ l, WriteSide c l (c.finish m).1 ∧ WriteCalls l (c.finish m).2 := by
  have hside : WriteSide c [.shutdownUs c.shutdownUs.2] c.shutdownUs.1 := writeSide_shutdownUs
  rcases hc : c.shutdownUs with ⟨c₁, e | u⟩ <;> rw [hc] at hside <;> simp only [finish, hc]
  · exact ⟨_, hside, .single rfl rfl (by simp)⟩
  · exact ⟨_, hside.trans (writeSide_writeState _), .single rfl rfl (by simp)⟩

lemma writeBody_calls {m : UInt64} {x : CopyBidirectional σ ε × UInt64}
    (h : writeBody o (c, m) = .inl x) :
    ∃ l, WriteSide c l x.1 ∧ ∀ y ∈ l, y.isQuiet = true := by
  have hw := writes o c m
  rw [h] at hw
  cases hw with
  | @pushes buf hfill hne hpermission hsend =>
      refine ⟨_, (((writeSide_fillOther.trans writeSide_obtainWritePermission).trans
        (writeSide_sendPush buf)).trans (writeSide_consumeOther buf buf.length)).trans
        (writeSide_writeState _), ?_⟩
      rw [hfill, hpermission, hsend]
      simp

lemma writeBody_stop {m : UInt64} {x : Stop σ ε} (h : writeBody o (c, m) = .inr x) :
    ∃ l, WriteSide c l x.1 ∧ WriteCalls l x.2 := by
  have hw := writes o c m
  rw [h] at hw
  cases hw with
  | waits hfill => exact flush_calls hfill
  | fails hfill => exact ⟨_, writeSide_fillOther, by rw [hfill]; exact .single rfl rfl (by simp)⟩
  | ends hfill =>
      obtain ⟨l, hside, hl⟩ := finish_calls (c := (c.fillOther o).1) m
      refine ⟨_, writeSide_fillOther.trans hside, ?_⟩
      rw [hfill]
      exact hl.after (by simp)
  | blocks hfill hne hpermission =>
      refine ⟨_, writeSide_fillOther.trans writeSide_obtainWritePermission, ?_⟩
      rw [hfill, hpermission]
      refine WriteCalls.after ?_ (.single rfl rfl (by simp))
      simp
  | refused hfill hne hpermission =>
      refine ⟨_, writeSide_fillOther.trans writeSide_obtainWritePermission, ?_⟩
      rw [hfill, hpermission]
      refine WriteCalls.after ?_ (.single rfl rfl (by simp))
      simp
  | @closed buf e hfill hne hpermission hsend =>
      refine ⟨_, (writeSide_fillOther.trans writeSide_obtainWritePermission).trans
        (writeSide_sendPush buf), ?_⟩
      rw [hfill, hpermission, hsend]
      refine WriteCalls.after ?_ (.single rfl rfl (by simp))
      simp

lemma pollWriteUs_calls {fuel : ℕ} {x : Stop σ ε} (h : c.pollWriteUs o fuel = some x) :
    ∃ l, WriteSide c l x.1 ∧ WriteCalls l x.2 := by
  unfold pollWriteUs at h
  split at h
  · refine loop_invariant (I := fun y => ∃ l, WriteSide c l y.1 ∧ ∀ z ∈ l, z.isQuiet = true)
      (Q := fun y => ∃ l, WriteSide c l y.1 ∧ WriteCalls l y.2) ?_ ?_ ⟨[], .refl c, by simp⟩ h
    · rintro y y' ⟨l, hl, hq⟩ hy
      obtain ⟨l', hl', hq'⟩ := writeBody_calls hy
      exact ⟨l ++ l', hl.trans hl', List.forall_mem_append.mpr ⟨hq, hq'⟩⟩
    · rintro y z ⟨l, hl, hq⟩ hy
      obtain ⟨l', hl', hcalls⟩ := writeBody_stop hy
      exact ⟨l ++ l', hl.trans hl', hcalls.after hq⟩
  · obtain rfl := Option.some.inj h
    exact ⟨[], .refl c, by simp [Poll.isErr], by simp⟩

/-! ### One call of `poll` -/

variable {s s' : Session σ ε} {e : Event σ}

/-- The calls made between `c` and `c'`. -/
def made (c c' : CopyBidirectional σ ε) : List (Call ε) := c'.calls.drop c.calls.length

/-- What `poll` does, in terms of the two directions. -/
lemma poll_calls {fuel : ℕ} {r : Poll (Except (CopyError ε) (UInt64 × UInt64))}
    (h : c.poll o fuel = some (c', r)) :
    ∃ lr lw r' w, made c c' = lr ++ lw ∧ c'.calls = c.calls ++ (lr ++ lw) ∧ r = both r' w ∧
      ReadCalls c.readState lr r' ∧ WriteCalls lw w ∧ (∀ x ∈ lr, x.isRead = true) ∧
      ∀ x ∈ lw, x.isRead = false := by
  simp only [poll, Option.bind_eq_bind, Option.pure_def, Option.bind_eq_some_iff, Option.some.injEq,
    Prod.mk.injEq, Prod.exists] at h
  obtain ⟨c₁, r', hr, c₂, w, hw, rfl, rfl⟩ := h
  obtain ⟨lr, hside, hlr⟩ := pollReadUs_calls hr
  obtain ⟨lw, hside', hlw⟩ := pollWriteUs_calls hw
  have hcalls : c₂.calls = c.calls ++ (lr ++ lw) := by
    rw [hside'.calls, hside.calls, List.append_assoc]
  refine ⟨lr, lw, r', w, ?_, hcalls, rfl, hlr, hlw, hside.isRead, hside'.isWrite⟩
  rw [made, hcalls, List.drop_left]

/-- An error was met. -/
def MeetsError (c c' : CopyBidirectional σ ε) : Prop := ∃ x ∈ made c c', x.isErr = true

/-- The direction from the stream to `other` was told to wait. -/
def ReadWaits (c c' : CopyBidirectional σ ε) : Prop :=
  ∃ x ∈ made c c', x.isRead = true ∧ x.isPending = true

/-- The direction from `other` to the stream met an error. -/
def WriteFails (c c' : CopyBidirectional σ ε) : Prop :=
  ∃ x ∈ made c c', x.isRead = false ∧ x.isErr = true

lemma isErr_both (r w : Poll (Except (CopyError ε) UInt64)) : (both r w).isErr = true ↔
    r.isErr = true ∨ (r.isPending = false ∧ w.isErr = true) := by
  rcases r with (e | n) | _
  · simp [both, Poll.isErr]
  · rcases w with (e | m) | _ <;> simp [both, Poll.isErr, Poll.isPending]
  · simp [both, Poll.isErr, Poll.isPending]

lemma isErr_of_poll_iff {fuel : ℕ} {r : Poll (Except (CopyError ε) (UInt64 × UInt64))}
    (h : c.poll o fuel = some (c', r)) :
    (MeetsError c c' → r.isErr = true) ↔ ¬ (ReadWaits c c' ∧ WriteFails c c') := by
  obtain ⟨lr, lw, r', w, hmade, -, rfl, hlr, hlw, hread, hwrite⟩ := poll_calls h
  have hwaits : ReadWaits c c' ↔ r'.isPending = true := by
    rw [hlr.pending, ReadWaits, hmade]
    constructor
    · rintro ⟨x, hx, hr, hp⟩
      rcases List.mem_append.mp hx with hx | hx
      · exact ⟨x, hx, hp⟩
      · rw [hwrite x hx] at hr
        cases hr
    · rintro ⟨x, hx, hp⟩
      exact ⟨x, List.mem_append_left lw hx, hread x hx, hp⟩
  have hfails : WriteFails c c' ↔ w.isErr = true := by
    rw [hlw.err, WriteFails, hmade]
    constructor
    · rintro ⟨x, hx, hr, he⟩
      rcases List.mem_append.mp hx with hx | hx
      · rw [hread x hx] at hr
        cases hr
      · exact ⟨x, hx, he⟩
    · rintro ⟨x, hx, he⟩
      exact ⟨x, List.mem_append_right lr hx, hwrite x hx, he⟩
  have hmeets : MeetsError c c' ↔ r'.isErr = true ∨ w.isErr = true := by
    rw [hlr.err, hlw.err, MeetsError, hmade]
    simp only [List.mem_append, or_and_right, exists_or]
  rw [hwaits, hfails, hmeets, isErr_both]
  rcases r' with (e | n) | _
  · simp [Poll.isErr, Poll.isPending]
  · simp [Poll.isErr, Poll.isPending]
  · simp [Poll.isErr, Poll.isPending]

/-! ### Runs -/

lemma step_poll {fuel : ℕ} (h : step o s (.poll fuel) = some s') :
    s.outcome = none ∧ s'.received = s.received ∧
      ∃ r, s.copy.poll o fuel = some (s'.copy, r) ∧
        (r = .pending ∧ s'.outcome = none ∨ ∃ x, r = .ready x ∧ s'.outcome = some x) := by
  simp only [step] at h
  split_ifs at h with hout
  have hnone : s.outcome = none := by simpa using hout
  split at h
  · rename_i c hpoll
    obtain rfl := Option.some.inj h
    exact ⟨hnone, rfl, _, hpoll, .inl ⟨rfl, hnone⟩⟩
  · rename_i c r hpoll
    obtain rfl := Option.some.inj h
    exact ⟨hnone, rfl, _, hpoll, .inr ⟨r, rfl, rfl⟩⟩
  · cases h

lemma step_around (h : step o s e = some s') (he : ∀ fuel, e ≠ .poll fuel) :
    s'.copy.calls = s.copy.calls ∧ s'.outcome = s.outcome := by
  cases e with
  | push frame =>
      simp only [step] at h
      split_ifs at h
      obtain rfl := Option.some.inj h
      exact ⟨rfl, rfl⟩
  | poll fuel => exact absurd rfl (he fuel)
  | finish | acknowledge n | close | closeQueue | other t =>
      obtain rfl := Option.some.inj h
      exact ⟨rfl, rfl⟩

/-- In no call of `poll` does the write direction meet an error while the read direction waits. -/
def FailsAlone (o : BufReadWrite σ ε) (s : Session σ ε) (e : Event σ) : Prop :=
  ∀ fuel c' r, e = .poll fuel → s.copy.poll o fuel = some (c', r) →
    ¬ (ReadWaits s.copy c' ∧ WriteFails s.copy c')

/-- Every error that was met has ended the copy. -/
def Reported (s : Session σ ε) : Prop :=
  (∃ x ∈ s.copy.calls, x.isErr = true) → ∃ err, s.outcome = some (.error err)

lemma reported_step (h : Reported s) (hok : FailsAlone o s e) (hs : step o s e = some s') :
    Reported s' := by
  by_cases he : ∃ fuel, e = .poll fuel
  · obtain ⟨fuel, rfl⟩ := he
    obtain ⟨hnone, -, r, hpoll, hr⟩ := step_poll hs
    have hiff := (isErr_of_poll_iff hpoll).mpr (hok fuel _ r rfl hpoll)
    obtain ⟨lr, lw, -, -, hmade, hcalls, -⟩ := poll_calls hpoll
    rintro ⟨x, hx, herr⟩
    rw [hcalls, ← hmade] at hx
    rcases List.mem_append.mp hx with hx | hx
    · obtain ⟨err, herr'⟩ := h ⟨x, hx, herr⟩
      rw [hnone] at herr'
      cases herr'
    · have := hiff ⟨x, hx, herr⟩
      rcases hr with ⟨rfl, -⟩ | ⟨y, rfl, hy⟩
      · cases this
      · cases y with
        | error err => exact ⟨err, hy⟩
        | ok n => cases this
  · obtain ⟨hcalls, hout⟩ := step_around hs fun fuel h => he ⟨fuel, h⟩
    unfold Reported
    rw [hcalls, hout]
    exact h

/-- **When errors are reported.** A call of `poll` that meets an error returns one exactly if it is
not the write direction that meets it while the read direction waits. In a run without such calls
every error that was met is the outcome. -/
theorem poll_reports_errors_iff (o : BufReadWrite σ ε) (flowId : UInt32) (us : MuxStream)
    (tx rx : Bool) (other : σ) :
    (∀ s, Reach (step o) Any (start flowId us tx rx other) s → ∀ fuel c' r,
      s.copy.poll o fuel = some (c', r) →
        ((MeetsError s.copy c' → r.isErr = true) ↔ ¬ (ReadWaits s.copy c' ∧ WriteFails s.copy c'))) ∧
    ∀ s, Reach (step o) (FailsAlone o) (start flowId us tx rx other) s →
      (∃ x ∈ s.copy.calls, x.isErr = true) → ∃ err, s.outcome = some (.error err) := by
  refine ⟨fun s _ fuel c' r hpoll => isErr_of_poll_iff hpoll, fun s hs => ?_⟩
  refine hs.invariant (I := Reported) ?_ fun _ _ _ h hok hs => reported_step h hok hs
  rintro ⟨x, hx, -⟩
  cases hx

/-- An `other` that fails when it is read. -/
def failingReader : BufReadWrite Unit Unit where
  pollFillBuf s := (s, .ready (.error ()))
  consume s _ := s
  pollWrite s buf := (s, .ready (.ok (Fin.last buf.length)))
  pollFlush s := (s, .ready (.ok ()))
  pollShutdown s := (s, .ready (.ok ()))

/-- A stream that is open and idle. -/
def idleStream : MuxStream where
  frameRx := []
  destHost := []
  destPort := 0
  finishSent := false
  pshSendRemaining := 4
  pshRecvdSince := 0
  buf := []
  rwndThreshold := 4
  dropped := false
  written := []
  taken := []

/-- `other` is reset while nothing comes from the stream: the error is lost. -/
theorem poll_drops_error :
    ∃ c', (start 1 idleStream true true () : Session Unit Unit).copy.poll failingReader 1 =
        some (c', .pending) ∧
      MeetsError (start 1 idleStream true true () : Session Unit Unit).copy c' :=
  ⟨_, rfl, .fillOther (.ready (.error ())), .tail _ (.head _), rfl⟩

/-! ### Flushing -/

/-- After the last byte that `other` has taken it was told to pass it on. -/
def Flushed (l : List (Call ε)) : Prop :=
  ∀ pre x post, l = pre ++ x :: post → x.accepts = true → ∃ y ∈ post, y.flushes = true

lemma Call.flushes_of_accepts {x : Call ε} (h : x.accepts = true) : x.flushes = false := by
  cases x with
  | write buf r => rfl
  | _ => cases h

lemma Call.isRead_of_accepts {x : Call ε} (h : x.accepts = true) : x.isRead = true := by
  cases x with
  | write buf r => rfl
  | _ => cases h

lemma flushed_of_flushes {a b : List (Call ε)} {x : Call ε} (hx : x.flushes = true)
    (hb : ∀ y ∈ b, y.accepts = false) : Flushed (a ++ x :: b) := by
  intro pre z post heq hz
  have hne : x ≠ z := by
    rintro rfl
    rw [Call.flushes_of_accepts hz] at hx
    cases hx
  rcases List.append_eq_append_iff.mp heq with ⟨a', rfl, hrest⟩ | ⟨a', rfl, hrest⟩
  · -- the byte would have been taken after `x`
    rcases List.cons_eq_append_iff.mp hrest with ⟨-, hcons⟩ | ⟨a'', -, rfl⟩
    · cases hcons
      exact absurd rfl hne
    · have := hb z (by simp)
      rw [hz] at this
      cases this
  · rcases List.cons_eq_append_iff.mp hrest with ⟨-, hcons⟩ | ⟨a'', -, rfl⟩
    · cases hcons
      exact absurd rfl hne
    · exact ⟨x, by simp, hx⟩

lemma flushed_append {a l : List (Call ε)} (hl : ∀ x ∈ l, x.flushes = false) :
    Flushed (a ++ l) ↔ Flushed a ∧ ∀ x ∈ l, x.accepts = false := by
  refine ⟨fun h => ⟨?_, ?_⟩, ?_⟩
  · rintro pre x post rfl hx
    obtain ⟨y, hy, hf⟩ := h pre x (post ++ l) (by simp) hx
    rcases List.mem_append.mp hy with hy | hy
    · exact ⟨y, hy, hf⟩
    · rw [hl y hy] at hf
      cases hf
  · intro x hx
    by_contra hacc
    obtain ⟨l₁, l₂, rfl⟩ := List.append_of_mem hx
    obtain ⟨y, hy, hf⟩ := h (a ++ l₁) x l₂ (by simp) (by simpa using hacc)
    rw [hl y (by simp [hy])] at hf
    cases hf
  · rintro ⟨ha, hacc⟩ pre x post heq hx
    rcases List.append_eq_append_iff.mp heq with ⟨a', rfl, hrest⟩ | ⟨a', rfl, hrest⟩
    · have := hacc x (by simp [hrest])
      rw [hx] at this
      cases this
    · rcases List.cons_eq_append_iff.mp hrest with ⟨-, hcons⟩ | ⟨a'', rfl, rfl⟩
      · have := hacc x (by simp [hcons])
        rw [hx] at this
        cases this
      · obtain ⟨y, hy, hf⟩ := ha pre x a'' rfl hx
        exact ⟨y, by simp [hy], hf⟩

/-- Only `poll_read_us` looks for the end of the stream. -/
lemma exists_ends_iff (h : ∀ x ∈ l', x.isRead = false) :
    (∃ x ∈ l, x.ends = true) ↔ .fillUs (.ready []) ∈ l ++ l' := by
  constructor
  · rintro ⟨x, hx, hends⟩
    unfold Call.ends at hends
    split at hends
    · rw [List.isEmpty_iff.mp hends] at hx
      exact List.mem_append_left l' hx
    · cases hends
  · intro hmem
    rcases List.mem_append.mp hmem with hmem | hmem
    · exact ⟨_, hmem, rfl⟩
    · cases h _ hmem

/-- `other` took bytes. -/
def Accepts (c c' : CopyBidirectional σ ε) : Prop := ∃ x ∈ made c c', x.accepts = true

/-- `other` had nothing to read, and nothing went wrong when it was flushed then; or the stream had
ended, now or in an earlier call. -/
def NothingToRead (c c' : CopyBidirectional σ ε) : Prop :=
  (.fillOther .pending ∈ made c c' ∧ ∀ err, .flush (.ready (.error err)) ∉ made c c') ∨
    .fillUs (.ready []) ∈ made c c' ∨ ∃ n, c.readState = .shuttingDown n

lemma flushed_of_poll_iff {fuel : ℕ} (h : c.poll o fuel = some (c', .pending)) :
    Flushed c'.calls ↔ (Flushed c.calls ∧ ¬ Accepts c c') ∨ NothingToRead c c' := by
  obtain ⟨lr, lw, r, w, hmade, hcalls, hboth, hlr, hlw, hread, hwrite⟩ := poll_calls h
  have hquiet : ∀ y ∈ lw, y.accepts = false := by
    intro y hy
    by_contra hacc
    have := Call.isRead_of_accepts (by simpa using hacc : y.accepts = true)
    rw [hwrite y hy] at this
    cases this
  have hflush : ∀ err : ε, Call.flush (.ready (.error err)) ∉ lr := fun err hmem => by
    cases hread _ hmem
  have hended : (∃ a, .shutdown a ∈ lr) ↔
      .fillUs (.ready []) ∈ made c c' ∨ ∃ n, c.readState = .shuttingDown n := by
    rw [hlr.ended, hmade, exists_ends_iff hwrite]
  by_cases hw : ∃ x ∈ lw, x.flushes = true
  · -- flushed by the write direction, after everything was written
    have hnothing : NothingToRead c c' := by
      obtain ⟨hfill, herr⟩ := hlw.flushes.mp hw
      refine .inl ⟨by simp [hmade, hfill], fun err => ?_⟩
      simp [hmade, hflush err, herr err]
    obtain ⟨x, hx, hf⟩ := hw
    obtain ⟨b₁, b₂, rfl⟩ := List.append_of_mem hx
    refine iff_of_true ?_ (.inr hnothing)
    rw [hcalls, show c.calls ++ (lr ++ (b₁ ++ x :: b₂)) = (c.calls ++ lr ++ b₁) ++ x :: b₂ by simp]
    exact flushed_of_flushes hf fun y hy => hquiet y (by simp [hy])
  by_cases hr : ∃ x ∈ lr, x.flushes = true
  · obtain ⟨x, hx, hf⟩ := hr
    have hshut : ∃ a, x = .shutdown a := by
      have := hread x hx
      cases x with
      | shutdown a => exact ⟨a, rfl⟩
      | flush a => cases this
      | _ => cases hf
    obtain ⟨a, rfl⟩ := hshut
    refine iff_of_true ?_ (.inr (.inr (hended.mp ⟨a, hx⟩)))
    obtain ⟨l₀, rfl⟩ := hlr.last _ hx hf
    rw [hcalls, show c.calls ++ (l₀ ++ [.shutdown a] ++ lw) = (c.calls ++ l₀) ++ .shutdown a :: lw
      by simp]
    exact flushed_of_flushes hf hquiet
  -- nothing was flushed
  have hnone : ∀ x ∈ lr ++ lw, x.flushes = false := by
    intro x hx
    rcases List.mem_append.mp hx with hx | hx
    · simpa using fun hf => hr ⟨x, hx, hf⟩
    · simpa using fun hf => hw ⟨x, hx, hf⟩
  have hno : ¬ NothingToRead c c' := by
    rintro (⟨hfill, herr⟩ | hend)
    · rw [hmade] at hfill herr
      refine hw (hlw.flushes.mpr ⟨?_, fun err hmem => herr err (by simp [hmem])⟩)
      rcases List.mem_append.mp hfill with hfill | hfill
      · cases hread _ hfill
      · exact hfill
    · obtain ⟨a, hin⟩ := hended.mpr hend
      -- a shutdown that did not count has failed, and then `poll` does not wait
      have herr : a.isErr = true := by
        simpa [Call.flushes] using hnone _ (List.mem_append_left lw hin)
      have hris : r.isErr = true := hlr.err.mpr ⟨_, hin, herr⟩
      rw [Poll.isErr.eq_def] at hris
      split at hris
      · cases hboth
      · cases hris
  rw [hcalls, flushed_append hnone, Accepts, hmade]
  simp [hno]

/-- In every call of `poll` in which `other` takes bytes it has nothing to read, or the stream has
ended. -/
def FlushesAfter (o : BufReadWrite σ ε) (s : Session σ ε) (e : Event σ) : Prop :=
  ∀ fuel c' r, e = .poll fuel → s.copy.poll o fuel = some (c', r) →
    Accepts s.copy c' → NothingToRead s.copy c'

lemma flushed_step (h : s.outcome = none → Flushed s.copy.calls) (hok : FlushesAfter o s e)
    (hs : step o s e = some s') : s'.outcome = none → Flushed s'.copy.calls := by
  by_cases he : ∃ fuel, e = .poll fuel
  · obtain ⟨fuel, rfl⟩ := he
    obtain ⟨hnone, -, r, hpoll, ⟨rfl, -⟩ | ⟨y, rfl, hy⟩⟩ := step_poll hs
    · intro _
      rw [flushed_of_poll_iff hpoll]
      by_cases hacc : Accepts s.copy s'.copy
      · exact .inr (hok fuel _ _ rfl hpoll hacc)
      · exact .inl ⟨h hnone, hacc⟩
    · intro hout
      rw [hy] at hout
      cases hout
  · obtain ⟨hcalls, hout⟩ := step_around hs fun fuel h => he ⟨fuel, h⟩
    rw [hcalls, hout]
    exact h

/-- **When nothing is left unflushed.** After a call of `poll` that waits, what `other` has taken
is flushed exactly if it was before and nothing was taken, or `other` had nothing to read, or the
stream had ended. In a run in which this is so whenever something is taken, nothing is ever left. -/
theorem poll_flushes_iff (o : BufReadWrite σ ε) (flowId : UInt32) (us : MuxStream) (tx rx : Bool)
    (other : σ) :
    (∀ s, Reach (step o) Any (start flowId us tx rx other) s → ∀ fuel c',
      s.copy.poll o fuel = some (c', .pending) →
        (Flushed c'.calls ↔
          (Flushed s.copy.calls ∧ ¬ Accepts s.copy c') ∨ NothingToRead s.copy c')) ∧
    ∀ s, Reach (step o) (FlushesAfter o) (start flowId us tx rx other) s → s.outcome = none →
      Flushed s.copy.calls := by
  refine ⟨fun s _ fuel c' hpoll => flushed_of_poll_iff hpoll, fun s hs => ?_⟩
  refine hs.invariant (I := fun s => s.outcome = none → Flushed s.copy.calls) ?_
    fun _ _ _ h hok hs => flushed_step h hok hs
  intro _ pre x post heq
  cases pre <;> cases heq

/-- An `other` that has nothing more to say. -/
def endedReader : BufReadWrite Unit Unit :=
  { failingReader with pollFillBuf := fun s => (s, .ready (.ok [])) }

/-- A byte comes for an `other` that has ended: `poll` waits for more, and has not flushed. -/
theorem poll_strands_byte :
    ∃ s : Session Unit Unit, ∃ c',
      run (step endedReader) (start 1 idleStream true true ()) [.push [0x41]] = some s ∧
      s.copy.poll endedReader 2 = some (c', .pending) ∧ ¬ Flushed c'.calls := by
  refine ⟨_, _, rfl, rfl, fun h => ?_⟩
  obtain ⟨y, hy, hf⟩ := h [.fillUs (.ready [0x41])] (.write [0x41] (.ready (.ok 1)))
    [.consumeUs [0x41], .fillUs .pending, .fillOther (.ready (.ok [])), .shutdownUs (.ok ())] rfl rfl
  simp only [List.mem_cons, List.not_mem_nil, or_false] at hy
  rcases hy with rfl | rfl | rfl | rfl <;> cases hf

end CopyBidirectional

end Penguin.Mux
