import Penguin.Mux.History

/-!
Answers to bind requests.

A `BindRequest` is answered by `reply`, which may be called any number of times, and once more
by its destructor, which does not know of the calls before it. So a request that was accepted
is rejected when it is dropped. By then the requester has freed the flow id, and the `Reset`
meets whatever has come to use the id since.
-/

namespace Penguin.Mux

open Penguin.Lib.Transition Endpoint

/-- The frame that `reply` queues. -/
def replyFrame (id : UInt32) (accepted : Bool) : Bytes :=
  finalize (if accepted then Frame.newFinish id else Frame.newReset id)

/-- What a step answers to bind request `i` of the flow: the argument of `reply`, and a
rejection when the request is dropped. -/
def answerOf (id : UInt32) (i : ℕ) : Endpoint.Event → Option Bool
  | .act (.reply id' i' accepted) => if id' = id ∧ i' = i then some accepted else none
  | .act (.dropBind id' i') => if id' = id ∧ i' = i then some false else none
  | _ => none

namespace Recorded

/-- The answers of a run that were given while the queue took frames. -/
def openAnswers (id : UInt32) (i : ℕ) : Recorded → List Endpoint.Event → List Bool
  | _, [] => []
  | R, e :: es =>
    (if R.ep.txOpen then (answerOf id i e).toList else []) ++
      match R.step e with
      | some R' => openAnswers id i R' es
      | none => []

variable {R R' : Recorded} {e : Endpoint.Event} {id : UInt32} {i : ℕ}

lemma origin_eq_request {E : Endpoint} {seen : ℕ} :
    E.origin seen e = .request id i ↔ (answerOf id i e).isSome := by
  have hclose : ∀ x, E.closeOrigin x ≠ .request id i := by
    intro x
    unfold closeOrigin
    split <;> simp
  cases e with
  | act a =>
      cases a with
      | droppedPort =>
          simp only [origin, answerOf]
          split
          · split_ifs
            · simp
            · simp [hclose]
          · simp
      | reply id' i' accepted => by_cases hx : id' = id ∧ i' = i <;> simp [origin, answerOf, hx]
      | dropBind id' i' => by_cases hx : id' = id ∧ i' = i <;> simp [origin, answerOf, hx]
      | _ => simp [origin, answerOf]
  | recv msg =>
      cases msg with
      | binary data =>
          simp only [origin, answerOf]
          split
          · split_ifs
            · simp [hclose]
            · simp
          · simp
      | _ => simp [origin, answerOf]

lemma queued_send {E E' : Endpoint} {f : Frame} (hb : E.before e = E)
    (hframes : E'.txFrames = (E.send f).txFrames) :
    E.queued e E' = if E.txOpen then [finalize f] else [] := by
  rw [queued, hb, hframes, send]
  split_ifs <;> simp

lemma queued_reply {E E' : Endpoint} {accepted : Bool}
    (h : E.step (.act (.reply id i accepted)) = some E') :
    E.queued (.act (.reply id i accepted)) E' =
      if E.txOpen then [replyFrame id accepted] else [] := by
  by_cases howns : E.ownsBind id i = true
  · obtain rfl : E.reply id accepted = E' := by simpa [Endpoint.step, act, howns] using h
    exact queued_send rfl rfl
  · simp [Endpoint.step, act, howns] at h

lemma queued_dropBind {E E' : Endpoint} (h : E.step (.act (.dropBind id i)) = some E') :
    E.queued (.act (.dropBind id i)) E' = if E.txOpen then [replyFrame id false] else [] := by
  by_cases howns : E.ownsBind id i = true
  · obtain rfl : E.dropBind id i = E' := by simpa [Endpoint.step, act, howns] using h
    refine queued_send (f := Frame.newReset id) rfl ?_
    -- the user has the request, so it has not been dropped
    unfold ownsBind at howns
    split at howns
    case h_2 => cases howns
    case h_1 b hb =>
      have hlive : b.dropped = false := by simpa using (Bool.and_eq_true_iff.mp howns).2
      simp only [Endpoint.dropBind, hb, hlive]
      by_cases hopen : E.txOpen = true <;> simp [Endpoint.reply, send, modifyBind, hopen]
  · simp [Endpoint.step, act, howns] at h

lemma framesOf_request (h : R.step e = some R') : R'.framesOf (.request id i) =
    R.framesOf (.request id i) ++
      (if R.ep.txOpen then (answerOf id i e).toList else []).map (replyFrame id) := by
  rw [framesOf_step h]
  congr 1
  obtain ⟨hep, -⟩ := step_eq h
  cases hans : answerOf id i e with
  | none =>
      have : R.ep.origin R.seen e ≠ .request id i := by simp [Ne, origin_eq_request, hans]
      simp [this]
  | some accepted =>
      have ho : R.ep.origin R.seen e = .request id i := by simp [origin_eq_request, hans]
      rw [if_pos ho]
      have hlist : (if R.ep.txOpen then (some accepted).toList else []).map (replyFrame id) =
          if R.ep.txOpen then [replyFrame id accepted] else [] := by
        split_ifs <;> rfl
      rw [hlist]
      cases e with
      | recv msg => simp [answerOf] at hans
      | act a =>
          cases a with
          | reply id' i' acc =>
              simp only [answerOf] at hans
              split_ifs at hans with hx
              obtain ⟨rfl, rfl⟩ := hx
              obtain rfl := Option.some.inj hans
              exact queued_reply hep
          | dropBind id' i' =>
              simp only [answerOf] at hans
              split_ifs at hans with hx
              obtain ⟨rfl, rfl⟩ := hx
              obtain rfl := Option.some.inj hans
              exact queued_dropBind hep
          | _ => simp [answerOf] at hans

/-- What a request has queued is what it was answered while the queue took frames. -/
lemma framesOf_run {es : List Endpoint.Event} (h : run step R es = some R') :
    R'.framesOf (.request id i) =
      R.framesOf (.request id i) ++ (openAnswers id i R es).map (replyFrame id) := by
  induction es generalizing R with
  | nil =>
      obtain rfl := Option.some.inj h
      simp [openAnswers]
  | cons e es ih =>
      cases hs : R.step e with
      | none => simp [run, hs] at h
      | some R₁ =>
          have hrun : run step R₁ es = some R' := by simpa [run, hs] using h
          rw [ih hrun, framesOf_request hs, openAnswers, hs]
          simp

/-! ### Calls while the queue is open -/

lemma txOpen_of_run {es : List Endpoint.Event} (h : run step R es = some R')
    (hopen : R'.ep.txOpen = true) : R.ep.txOpen = true := by
  induction es generalizing R with
  | nil =>
      obtain rfl := Option.some.inj h
      exact hopen
  | cons e es ih =>
      cases hs : R.step e with
      | none => simp [run, hs] at h
      | some R₁ => exact txOpen_of_step (step_eq hs).1 (ih (by simpa [run, hs] using h))

lemma openAnswers_of_open {es : List Endpoint.Event} (h : run step R es = some R')
    (hopen : R'.ep.txOpen = true) :
    openAnswers id i R es = es.filterMap (answerOf id i) := by
  induction es generalizing R with
  | nil => rfl
  | cons e es ih =>
      have hfirst := txOpen_of_run h hopen
      cases hs : R.step e with
      | none => simp [run, hs] at h
      | some R₁ =>
          simp only [openAnswers, hs, hfirst, if_true, ih (by simpa [run, hs] using h)]
          cases hans : answerOf id i e <;> simp [hans]

lemma answerOf_of_dropped (hd : R.ep.bindDropped id i = true) (hs : R.step e = some R') :
    answerOf id i e = none := by
  have hgone : R.ep.ownsBind id i = false := by
    obtain ⟨b, hb, hdrop⟩ := (Option.any_eq_true _ _).mp hd
    simp [ownsBind, hb, hdrop]
  have hep := (step_eq hs).1
  cases e with
  | recv msg => rfl
  | act a =>
      cases a with
      | reply id' i' accepted =>
          by_cases hx : id' = id ∧ i' = i
          · obtain ⟨rfl, rfl⟩ := hx
            simp [Endpoint.step, act, hgone] at hep
          · simp [answerOf, hx]
      | dropBind id' i' =>
          by_cases hx : id' = id ∧ i' = i
          · obtain ⟨rfl, rfl⟩ := hx
            simp [Endpoint.step, act, hgone] at hep
          · simp [answerOf, hx]
      | _ => rfl

lemma bindDropped_step (hs : R.step e = some R') (hd : R.ep.bindDropped id i = true) :
    R'.ep.bindDropped id i = true := by
  refine (updates_step (step_eq hs).1 0).bindDropped ?_
  rwa [bindDropped, before_binds]

lemma bindDropped_dropBind (hs : R.step (.act (.dropBind id i)) = some R') :
    R'.ep.bindDropped id i = true := by
  have hep := (step_eq hs).1
  by_cases howns : R.ep.ownsBind id i = true
  · have hdrop : R.ep.dropBind id i = R'.ep := by simpa [Endpoint.step, act, howns] using hep
    rw [← hdrop]
    unfold ownsBind at howns
    split at howns
    case h_2 => cases howns
    case h_1 b hb =>
      have hlive : b.dropped = false := by simpa using (Bool.and_eq_true_iff.mp howns).2
      simp only [Endpoint.dropBind, hb, hlive]
      by_cases hopen : R.ep.txOpen = true <;>
        simp [Endpoint.reply, send, modifyBind, hopen, bindDropped, hb]
  · simp [Endpoint.step, act, howns] at hep

lemma no_answers_of_dropped {es : List Endpoint.Event} (hd : R.ep.bindDropped id i = true)
    (h : run step R es = some R') : ∀ e ∈ es, answerOf id i e = none := by
  induction es generalizing R with
  | nil => simp
  | cons e es ih =>
      cases hs : R.step e with
      | none => simp [run, hs] at h
      | some R₁ =>
          have hrest := ih (bindDropped_step hs hd) (by simpa [run, hs] using h)
          simpa [answerOf_of_dropped hd hs] using hrest

lemma answerOf_eq_some {accepted : Bool} (h : answerOf id i e = some accepted) :
    e = .act (.reply id i accepted) ∨ e = .act (.dropBind id i) := by
  cases e with
  | recv msg => simp [answerOf] at h
  | act a =>
      cases a with
      | reply id' i' acc =>
          simp only [answerOf] at h
          split_ifs at h with hx
          obtain ⟨rfl, rfl⟩ := hx
          obtain rfl := Option.some.inj h
          exact .inl rfl
      | dropBind id' i' =>
          simp only [answerOf] at h
          split_ifs at h with hx
          obtain ⟨rfl, rfl⟩ := hx
          exact .inr rfl
      | _ => simp [answerOf] at h

/-- The drop is the last answer, and the only one if `reply` was not called. -/
lemma answers_of_drop {es : List Endpoint.Event} (h : run step R es = some R')
    (hdrop : .act (.dropBind id i) ∈ es) : ∃ l, es.filterMap (answerOf id i) = l ++ [false] ∧
      (l = [] ↔ ∀ accepted, .act (.reply id i accepted) ∉ es) := by
  have hreply : ∀ accepted, answerOf id i (.act (.reply id i accepted)) = some accepted := by
    simp [answerOf]
  induction es generalizing R with
  | nil => simp at hdrop
  | cons e es ih =>
      cases hs : R.step e with
      | none => simp [run, hs] at h
      | some R₁ =>
          have hrun : run step R₁ es = some R' := by simpa [run, hs] using h
          by_cases he : e = .act (.dropBind id i)
          · subst he
            have hnone := no_answers_of_dropped (bindDropped_dropBind hs) hrun
            refine ⟨[], by simp [answerOf, List.filterMap_eq_nil_iff.mpr hnone], ?_⟩
            refine ⟨fun _ accepted hmem => ?_, fun _ => rfl⟩
            rcases List.mem_cons.mp hmem with heq | hmem
            · cases heq
            · simpa [hreply] using hnone _ hmem
          · have hdrop' : .act (.dropBind id i) ∈ es :=
              (List.mem_cons.mp hdrop).resolve_left fun heq => he heq.symm
            obtain ⟨l, hl, hiff⟩ := ih hrun hdrop'
            cases hans : answerOf id i e with
            | none =>
                refine ⟨l, by simp [hans, hl], hiff.trans ?_⟩
                refine forall_congr' fun accepted => not_congr ?_
                have hne : .act (.reply id i accepted) ≠ e := by
                  rintro rfl
                  simp [hreply] at hans
                simp [hne]
            | some accepted =>
                have heq := (answerOf_eq_some hans).resolve_right he
                refine ⟨accepted :: l, by simp [hans, hl], ?_⟩
                refine ⟨by simp, fun hall => ?_⟩
                exact absurd (by simp [heq]) (hall accepted)

/-- **One answer**: the frames that a bind request queues are the answers that were given
while the queue took frames, so there is exactly one if and only if there was exactly one such
call. As long as the queue is open this means that `reply` was not called: with the call, the
drop is one answer too many. -/
theorem bind_answered_once_iff {opts : Options} {es : List Endpoint.Event}
    (hrun : run step (new opts) es = some R) (hdrop : .act (.dropBind id i) ∈ es) :
    R.framesOf (.request id i) = (openAnswers id i (new opts) es).map (replyFrame id) ∧
    ((∃ accepted, R.framesOf (.request id i) = [replyFrame id accepted]) ↔
      (openAnswers id i (new opts) es).length = 1) ∧
    (R.ep.txOpen = true → ((∃ accepted, R.framesOf (.request id i) = [replyFrame id accepted]) ↔
      ∀ accepted, .act (.reply id i accepted) ∉ es)) := by
  have hframes : R.framesOf (.request id i) =
      (openAnswers id i (new opts) es).map (replyFrame id) := by
    rw [framesOf_run hrun]
    rfl
  have hone : (∃ accepted, R.framesOf (.request id i) = [replyFrame id accepted]) ↔
      (openAnswers id i (new opts) es).length = 1 := by
    rw [hframes]
    constructor
    · rintro ⟨accepted, heq⟩
      simpa using congrArg List.length heq
    · intro hlen
      obtain ⟨accepted, heq⟩ := List.length_eq_one_iff.mp hlen
      exact ⟨accepted, by simp [heq]⟩
  refine ⟨hframes, hone, fun hopen => ?_⟩
  obtain ⟨l, hl, hiff⟩ := answers_of_drop hrun hdrop
  rw [hone, openAnswers_of_open hrun hopen, hl, ← hiff]
  simp

/-- A multiplexor that takes bind requests. -/
def bindOptions : Options := { Options.new with bindBufferSize := 1 }

/-- A request comes in and is dropped by the user. -/
def rejectRun : List Endpoint.Event :=
  [.recv (.binary (finalize (Frame.newBind 1 .stream [104] 80))), .act .nextBindRequest,
    .act (.dropBind 1 0)]

/-- A request that is dropped without a `reply` is rejected by one `Reset`. -/
theorem bind_answered_once_rejected : ∃ R, run step (new bindOptions) rejectRun = some R ∧
    ∃ accepted, R.framesOf (.request 1 0) = [replyFrame 1 accepted] := by
  have hrun : ∃ R, run step (new bindOptions) rejectRun = some R ∧ R.ep.txOpen = true := by
    decide +kernel
  obtain ⟨R, hrun, hopen⟩ := hrun
  refine ⟨R, hrun, ((bind_answered_once_iff hrun (by decide)).2.2 hopen).mpr ?_⟩
  decide

/-- The user accepts the request, and later drops it. -/
def acceptRun : List Endpoint.Event :=
  [.recv (.binary (finalize (Frame.newBind 1 .stream [104] 80))), .act .nextBindRequest,
    .act (.reply 1 0 true), .act (.dropBind 1 0)]

/-- The same, with the requester: when it has read the `Finish` it opens a stream with the id
it has got back, and then the request is dropped. -/
def reuseRun : List Label :=
  [.act .a (.requestBind 1 [104] 80 .stream), .act .a (.sendBind 1 0), .act .a .sendFrame,
    .deliver .b, .act .b .nextBindRequest, .act .b (.reply 1 0 true), .act .b .sendFrame,
    .deliver .a] ++ System.openRun .a 1 ++ [.act .b (.dropBind 1 0), .act .b .sendFrame]

/-- An accepted request is rejected by its drop, and the `Reset` tears down the stream that
has the id by then. -/
theorem accepted_bind_rejected :
    (∃ R, run step (new bindOptions) acceptRun = some R ∧
      R.framesOf (.request 1 0) = [replyFrame 1 true, replyFrame 1 false]) ∧
    ∃ s s' : System, Reach System.step Any (System.new fun _ => bindOptions) s ∧
      (s.ep .a).flows 1 = some (.established ⟨0, true⟩) ∧ s.step (.deliver .a) = some s' ∧
      (s'.ep .a).flows 1 = none := by
  constructor
  · have hrun : (run step (new bindOptions) acceptRun).any
        (fun R => R.framesOf (.request 1 0) = [replyFrame 1 true, replyFrame 1 false]) = true := by
      decide +kernel
    obtain ⟨R, hR, hframes⟩ := (Option.any_eq_true _ _).mp hrun
    exact ⟨R, hR, by simpa using hframes⟩
  · have hrun : (run System.step (System.new fun _ => bindOptions) reuseRun).any (fun s =>
        (s.ep .a).flows 1 = some (.established ⟨0, true⟩) ∧
        (s.step (.deliver .a)).any fun s' => (s'.ep .a).flows 1 = none) = true := by
      decide +kernel
    obtain ⟨s, hs, hopen⟩ := (Option.any_eq_true _ _).mp hrun
    obtain ⟨hest, hnext⟩ := of_decide_eq_true hopen
    obtain ⟨s', hs', hgone⟩ := (Option.any_eq_true _ _).mp hnext
    exact ⟨s, s', reach_of_run hs (runMeets_of_forall (fun _ _ _ => trivial) _), hest, hs',
      of_decide_eq_true hgone⟩

end Recorded

end Penguin.Mux
