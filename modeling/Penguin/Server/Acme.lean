import Penguin.Lib.Logged
import Penguin.Mux.Timing

/-!
Issuing a certificate.

The helper is called to create a file for every challenge, and to remove it when the order is
done. The ACME server, the helper and the generation of keys and requests are outside: they answer
each call as they like. Most of the calls that can fail leave the function at once, also while there
are files to remove.
-/

namespace Penguin.Server.Acme

open Penguin.Lib.Logged Penguin.Mux

inductive ChallengeType
  | http01
  | dns01
  | tlsAlpn01
  deriving DecidableEq, Repr

structure Challenge where
  type : ChallengeType
  url : String
  token : String
  deriving DecidableEq, Repr

inductive AuthorizationStatus
  | pending
  | valid
  | invalid
  | revoked
  | expired
  deriving DecidableEq, Repr

structure Authorization where
  status : AuthorizationStatus
  challenges : List Challenge
  deriving DecidableEq, Repr

inductive OrderStatus
  | pending
  | ready
  | processing
  | valid
  | invalid
  deriving DecidableEq, Repr

inductive Error
  | instantAcme
  | challengeHelperExecution
  | certificateGeneration
  | authInvalid (status : AuthorizationStatus)
  | orderInvalid (status : OrderStatus)
  | noHttp01ChallengeSupport
  deriving DecidableEq, Repr

/-- What else than a result can come of a call: an error, a panic, or nothing. -/
inductive Fault
  | err (e : Error)
  | panic
  | diverge
  deriving DecidableEq, Repr

inductive Action
  | create
  | remove
  deriving DecidableEq, Repr

/-- What is asked of the ACME server and the generator. -/
inductive Request
  | newOrder
  | authorizations
  | setChallengeReady (url : String)
  | refresh
  | certificateParams
  | generateKeyPair
  | serializeRequest
  | finalize
  | certificate
  deriving DecidableEq, Repr

inductive Event
  /-- The helper is called. -/
  | called (action : Action) (keyAuth : String)
  /-- The helper that creates a file has ended, or could not be waited for. -/
  | waited (keyAuth : String) (ok : Bool)
  | replied (q : Request) (ok : Bool)
  deriving DecidableEq, Repr

abbrev Log := List Event

abbrev Run (A : Type) := Prog Event Fault A

/-- What is outside of the program. A reply may depend on all that has happened; no reply is an
error. -/
structure World where
  newOrder : Log → Option OrderStatus
  authorizations : Log → Option (List Authorization)
  keyAuthorization : Challenge → String
  /-- The helper can be started. -/
  spawn : Log → Action → String → Bool
  wait : Log → Bool
  setChallengeReady : Log → Bool
  refresh : Log → Option OrderStatus
  certificateParams : Log → Bool
  generateKeyPair : Log → Option String
  serializeRequest : Log → Bool
  finalize : Log → Bool
  certificate : Log → Option (Option String)

/-! ### The program -/

/-- A request, and `?`. -/
def request {A : Type} (q : Request) (e : Error) (reply : Log → Option A) : Run A :=
  Prog.ask (fun log => match reply log with
    | some a => .ok a
    | none => .error (.err e)) fun r => .replied q r.isOk

/-- A request without a result. -/
def check (q : Request) (e : Error) (reply : Log → Bool) : Run Unit :=
  request q e fun log => if reply log then some () else none

/-- `ChallengeHelper::call`. -/
def call (w : World) (action : Action) (keyAuth : String) : Run Unit :=
  Prog.ask (fun log => if w.spawn log action keyAuth then .ok ()
    else .error (.err .challengeHelperExecution)) fun _ => .called action keyAuth

/-- `Child::wait`, on the helper that creates a file. -/
def wait (w : World) (keyAuth : String) : Run Unit :=
  Prog.ask (fun log => if w.wait log then .ok () else .error (.err .challengeHelperExecution))
    fun r => .waited keyAuth r.isOk

/-- The challenge of a pending authorization. -/
def httpChallenge (auth : Authorization) : Except Error (Option Challenge) :=
  match auth.status with
  | .valid => .ok none
  | .pending =>
    match auth.challenges.find? (·.type = .http01) with
    | some c => .ok (some c)
    | none => .error .noHttp01ChallengeSupport
  | status => .error (.authInvalid status)

def oneChallenge (w : World) (auth : Authorization) : Run (Option (String × String)) :=
  match httpChallenge auth with
  | .error e => Prog.fail (.err e)
  | .ok none => pure none
  | .ok (some c) => do
    let keyAuth := w.keyAuthorization c
    call w .create keyAuth
    wait w keyAuth
    return some (keyAuth, c.url)

/-- `order_cleanup`, and the loop of the same kind in `process_challenges`. -/
def cleanUp (w : World) : List String → Run Unit
  | [] => pure ()
  | keyAuth :: keyAuths => do
    let _ ← (call w .remove keyAuth).attempt
    cleanUp w keyAuths

def processChallenges (w : World) : List Authorization → List String → Run (List String)
  | [], executed => pure executed
  | auth :: auths, executed => do
    match ← (oneChallenge w auth).attempt with
    | .ok (some (keyAuth, url)) =>
      check (.setChallengeReady url) .instantAcme w.setChallengeReady
      processChallenges w auths (executed ++ [keyAuth])
    | .ok none => processChallenges w auths executed
    | .error e =>
      cleanUp w executed
      Prog.fail e

def maxOrderRetries : UInt32 := 10

/-- An iteration of the loop that waits for the order to be ready. -/
def awaitReadyBody (w : World) (keyAuths : List String) (x : OrderStatus × Backoff) :
    Run ((OrderStatus × Backoff) ⊕ OrderStatus) := do
  if x.1 = .ready then return .inr x.1
  let status ← request .refresh .instantAcme w.refresh
  if status = .invalid then
    cleanUp w keyAuths
    Prog.fail (.err (.orderInvalid .invalid))
  else
    match x.2.advance with
    | (backoff, some _) => return .inl (status, backoff)
    | (_, none) =>
      cleanUp w keyAuths
      Prog.fail (.err (.orderInvalid status))

def awaitReady (w : World) (n : ℕ) (keyAuths : List String) (status : OrderStatus) :
    Run OrderStatus :=
  Prog.loop .diverge n (awaitReadyBody w keyAuths)
    (status, Backoff.new (5 * 10 ^ 9) (60 * 10 ^ 9) 2 maxOrderRetries)

def certificateBody (w : World) (_ : Unit) : Run (Unit ⊕ String) := do
  match ← request .certificate .instantAcme w.certificate with
  | some certChainPem => return .inr certChainPem
  | none => return .inl ()

/-- `issue`; its two loops are run for at most `n` iterations each. -/
def issue (w : World) (n : ℕ) : Run (String × String) := do
  let status ← request .newOrder .instantAcme w.newOrder
  let authorizations ← request .authorizations .instantAcme w.authorizations
  let keyAuths ← processChallenges w authorizations []
  let status ← awaitReady w n keyAuths status
  if status ≠ .ready then Prog.fail .panic
  else
    check .certificateParams .certificateGeneration w.certificateParams
    let privateKey ← request .generateKeyPair .certificateGeneration w.generateKeyPair
    check .serializeRequest .certificateGeneration w.serializeRequest
    check .finalize .instantAcme w.finalize
    let certChainPem ← Prog.loop .diverge n (certificateBody w) ()
    cleanUp w keyAuths
    return (privateKey, certChainPem)

/-! ### Files -/

/-- The files that were created, in this order. -/
def creates (log : Log) : List String :=
  log.filterMap fun
    | .waited keyAuth true => some keyAuth
    | _ => none

/-- The files that the helper was called to remove. -/
def removes (log : Log) : List String :=
  log.filterMap fun
    | .called .remove keyAuth => some keyAuth
    | _ => none

/-- For every file that was created the helper was called once to remove it, and later. -/
def Cleaned (log : Log) : Prop :=
  ∀ keyAuth, (removes log).count keyAuth = (creates log).count keyAuth ∧
    ∀ before after, log = before ++ .called .remove keyAuth :: after →
      (removes before).count keyAuth < (creates before).count keyAuth

/-- No request fails while there is a file. -/
def Undisturbed (log : Log) : Prop :=
  ∀ before q after, log = before ++ .replied q false :: after → creates before = []

/-! ### Phases of a run -/

@[simp] lemma creates_append (log log' : Log) : creates (log ++ log') = creates log ++ creates log' :=
  List.filterMap_append

@[simp] lemma removes_append (log log' : Log) : removes (log ++ log') = removes log ++ removes log' :=
  List.filterMap_append

/-- The files of `keyAuths` are there, and no request has failed. -/
structure Open (keyAuths : List String) (log : Log) : Prop where
  created : creates log = keyAuths
  kept : removes log = []
  answered : ∀ q, .replied q false ∉ log

/-- All files have been removed. -/
def Closed (log : Log) : Prop :=
  ∃ keyAuths before, Open keyAuths before ∧ log = before ++ keyAuths.map (.called .remove)

/-- A request has failed, and nothing has been removed. -/
def Broken (log : Log) : Prop :=
  ∃ keyAuths before q, Open keyAuths before ∧ log = before ++ [.replied q false]

/-- How the function is left with an error. -/
def Ended : Fault → Log → Prop
  | .err _, log => Closed log ∨ Broken log
  | .panic, _ => True
  | .diverge, _ => True

variable {keyAuths : List String} {log : Log} {w : World}

lemma open_nil : Open [] [] := ⟨rfl, rfl, nofun⟩

lemma Open.append (h : Open keyAuths log) {e : Event} (hremove : removes [e] = [])
    (hreply : ∀ q, e ≠ .replied q false) : Open (keyAuths ++ creates [e]) (log ++ [e]) where
  created := by rw [creates_append, h.created]
  kept := by rw [removes_append, h.kept, hremove, List.append_nil]
  answered := by
    intro q hq
    rcases List.mem_append.1 hq with hq | hq
    · exact h.answered q hq
    · exact hreply q (List.mem_singleton.1 hq).symm

lemma Open.quiet (h : Open keyAuths log) {e : Event} (hcreate : creates [e] = [])
    (hremove : removes [e] = []) (hreply : ∀ q, e ≠ .replied q false) :
    Open keyAuths (log ++ [e]) := by
  have happend := h.append hremove hreply
  rwa [hcreate, List.append_nil] at happend

/-- **A request that fails breaks the run off.** -/
lemma holds_request {A : Type} (q : Request) (e : Error) (reply : Log → Option A) :
    Holds (Open keyAuths) (request q e reply) (fun _ => Open keyAuths) Ended := by
  refine Holds.ask ?_ ?_
  · intro log a h _
    exact h.quiet rfl rfl nofun
  · intro log f h hreply
    split at hreply
    · cases hreply
    · cases hreply
      exact .inr ⟨keyAuths, log, q, h, rfl⟩

lemma holds_check (q : Request) (e : Error) (reply : Log → Bool) :
    Holds (Open keyAuths) (check q e reply) (fun _ => Open keyAuths) Ended :=
  holds_request q e _

lemma holds_call_create (w : World) (keyAuth : String) :
    Holds (Open keyAuths) (call w .create keyAuth) (fun _ => Open keyAuths)
      (fun _ => Open keyAuths) := by
  refine Holds.ask ?_ ?_
  · intro log a h _
    exact h.quiet rfl rfl nofun
  · intro log f h _
    exact h.quiet rfl rfl nofun

lemma holds_wait (w : World) (keyAuth : String) :
    Holds (Open keyAuths) (wait w keyAuth) (fun _ => Open (keyAuths ++ [keyAuth]))
      (fun _ => Open keyAuths) := by
  refine Holds.ask ?_ ?_
  · intro log a h _
    exact h.append (e := .waited keyAuth true) rfl nofun
  · intro log f h _
    exact h.quiet rfl rfl nofun

/-- The file that `one_challenge` has created. -/
def created : Option (String × String) → List String
  | some (keyAuth, _) => [keyAuth]
  | none => []

lemma holds_oneChallenge (w : World) (auth : Authorization) :
    Holds (Open keyAuths) (oneChallenge w auth) (fun r => Open (keyAuths ++ created r))
      (fun _ => Open keyAuths) := by
  unfold oneChallenge
  split
  · exact Holds.fail fun _ => id
  · refine Holds.pure fun log h => ?_
    rwa [created, List.append_nil]
  · refine (holds_call_create w _).bind fun _ => (holds_wait w _).bind fun _ => ?_
    exact Holds.pure fun log h => h

/-- The helper is called for every file, whether it can be started or not. -/
lemma cleanUp_eq (w : World) (keyAuths : List String) (log : Log) :
    cleanUp w keyAuths log = (log ++ keyAuths.map (.called .remove), .ok ()) := by
  induction keyAuths generalizing log with
  | nil => simp [cleanUp, pure, Prog.pure]
  | cons keyAuth keyAuths ih =>
      show cleanUp w keyAuths (log ++ [.called .remove keyAuth]) = _
      rw [ih]
      simp

lemma holds_cleanUp (w : World) (keyAuths : List String) {R : Fault → Log → Prop} :
    Holds (Open keyAuths) (cleanUp w keyAuths) (fun _ => Closed) R := by
  intro log h
  rw [cleanUp_eq]
  exact ⟨keyAuths, log, h, rfl⟩

/-- Errors behind a clean-up. -/
lemma holds_cleanUp_fail (w : World) (keyAuths : List String) {A : Type} (f : Fault)
    {Q : A → Log → Prop} :
    Holds (Open keyAuths) (cleanUp w keyAuths >>= fun _ => Prog.fail f) Q Ended := by
  refine (holds_cleanUp w keyAuths).bind fun _ => Holds.fail fun log h => ?_
  cases f with
  | err e => exact .inl h
  | panic => trivial
  | diverge => trivial

lemma holds_processChallenges (w : World) (auths : List Authorization) (executed : List String) :
    Holds (Open executed) (processChallenges w auths executed) Open Ended := by
  induction auths generalizing executed with
  | nil => exact Holds.pure fun log h => h
  | cons auth auths ih =>
      refine Holds.bind (Q := fun r => match r with
        | .ok r => Open (executed ++ created r)
        | .error _ => Open executed) (Holds.attempt (holds_oneChallenge w auth)) ?_
      rintro (f | _ | ⟨keyAuth, url⟩)
      · exact holds_cleanUp_fail w executed f
      · dsimp only [created]
        rw [List.append_nil]
        exact ih executed
      · exact (holds_check (.setChallengeReady url) .instantAcme w.setChallengeReady).bind
          fun _ => ih (executed ++ [keyAuth])

lemma holds_awaitReadyBody (w : World) (x : OrderStatus × Backoff) :
    Holds (Open keyAuths) (awaitReadyBody w keyAuths x)
      (fun y log => y.elim (fun _ => Open keyAuths log) (fun _ => Open keyAuths log)) Ended := by
  refine Holds.ite (fun _ => Holds.pure fun log h => h) fun _ => ?_
  refine (holds_request .refresh .instantAcme w.refresh).bind fun status => ?_
  refine Holds.ite (fun _ => holds_cleanUp_fail w keyAuths _) fun _ => ?_
  split
  · exact Holds.pure fun log h => h
  · exact holds_cleanUp_fail w keyAuths _

lemma holds_awaitReady (w : World) (n : ℕ) (status : OrderStatus) :
    Holds (Open keyAuths) (awaitReady w n keyAuths status) (fun _ => Open keyAuths) Ended :=
  Holds.loop (I := fun _ => Open keyAuths) (fun x => holds_awaitReadyBody w x) fun _ => trivial

lemma holds_certificateBody (w : World) (u : Unit) :
    Holds (Open keyAuths) (certificateBody w u)
      (fun y log => y.elim (fun _ => Open keyAuths log) (fun _ => Open keyAuths log)) Ended := by
  refine (holds_request .certificate .instantAcme w.certificate).bind fun r => ?_
  cases r with
  | none => exact Holds.pure fun log h => h
  | some certChainPem => exact Holds.pure fun log h => h

/-- **How `issue` is left**: everything is removed, or a request has just failed. -/
lemma holds_issue (w : World) (n : ℕ) :
    Holds (Open []) (issue w n) (fun _ => Closed) Ended := by
  refine (holds_request .newOrder .instantAcme w.newOrder).bind fun status => ?_
  refine (holds_request .authorizations .instantAcme w.authorizations).bind fun auths => ?_
  refine (holds_processChallenges w auths []).bind fun keyAuths => ?_
  refine (holds_awaitReady w n status).bind fun status => ?_
  refine Holds.ite (fun _ => Holds.fail fun _ _ => trivial) fun _ => ?_
  refine (holds_check .certificateParams .certificateGeneration w.certificateParams).bind
    fun _ => ?_
  refine (holds_request .generateKeyPair .certificateGeneration w.generateKeyPair).bind
    fun privateKey => ?_
  refine (holds_check .serializeRequest .certificateGeneration w.serializeRequest).bind
    fun _ => ?_
  refine (holds_check .finalize .instantAcme w.finalize).bind fun _ => ?_
  have hcertificate : Holds (Open keyAuths) (Prog.loop Fault.diverge n (certificateBody w) ())
      (fun _ => Open keyAuths) Ended :=
    Holds.loop (I := fun _ => Open keyAuths) (holds_certificateBody w) fun _ => trivial
  refine hcertificate.bind fun certChainPem => ?_
  exact (holds_cleanUp w keyAuths).bind fun _ => Holds.pure fun log h => h

/-! ### What is left behind -/

lemma removes_map (keyAuths : List String) :
    removes (keyAuths.map (.called .remove)) = keyAuths := by
  induction keyAuths with
  | nil => rfl
  | cons keyAuth keyAuths ih => exact congrArg (keyAuth :: ·) ih

lemma creates_map (keyAuths : List String) : creates (keyAuths.map (.called .remove)) = [] := by
  induction keyAuths with
  | nil => rfl
  | cons keyAuth keyAuths ih => exact ih

lemma Open.not_mem_remove (h : Open keyAuths log) (keyAuth : String) :
    .called .remove keyAuth ∉ log := by
  intro hmem
  have hremove : keyAuth ∈ removes log := List.mem_filterMap.2 ⟨_, hmem, rfl⟩
  rw [h.kept] at hremove
  cases hremove

/-- The part of a log before an event of its second half. -/
lemma split_of_not_mem {before log log' after : Log} {e : Event}
    (h : log ++ log' = before ++ e :: after)
    (he : e ∉ log) : ∃ mid, before = log ++ mid ∧ log' = mid ++ e :: after := by
  rcases List.append_eq_append_iff.1 h with ⟨mid, hbefore, hlog'⟩ | ⟨mid, hlog, hafter⟩
  · exact ⟨mid, hbefore, hlog'⟩
  · cases mid with
    | nil => exact ⟨[], by simpa using hlog.symm, by simpa using hafter.symm⟩
    | cons d mid =>
        obtain ⟨rfl, -⟩ := List.cons.inj hafter
        exact absurd (by rw [hlog]; simp) he

lemma Closed.cleaned (h : Closed log) : Cleaned log := by
  obtain ⟨keyAuths, before, hopen, rfl⟩ := h
  intro keyAuth
  refine ⟨?_, ?_⟩
  · rw [removes_append, creates_append, removes_map, creates_map, hopen.kept, hopen.created]
    simp
  · intro before' after h
    obtain ⟨mid, rfl, hmid⟩ := split_of_not_mem h (hopen.not_mem_remove keyAuth)
    have hkeys := congrArg removes hmid
    rw [removes_map, removes_append] at hkeys
    have hcreates : creates mid = [] := by
      have := congrArg creates hmid
      rw [creates_map, creates_append] at this
      exact (List.append_eq_nil_iff.1 this.symm).1
    rw [removes_append, creates_append, hopen.kept, hopen.created, hcreates, hkeys]
    show ([] ++ removes mid).count keyAuth <
      (removes mid ++ keyAuth :: removes after ++ []).count keyAuth
    simp

lemma Closed.undisturbed (h : Closed log) : Undisturbed log := by
  obtain ⟨keyAuths, before, hopen, rfl⟩ := h
  intro before' q after h
  obtain ⟨mid, -, hmid⟩ := split_of_not_mem h (hopen.answered q)
  have hmem : .replied q false ∈ keyAuths.map (Event.called .remove) := by
    rw [hmid]
    simp
  simp at hmem

lemma Broken.cleaned_iff (h : Broken log) : Cleaned log ↔ Undisturbed log := by
  obtain ⟨keyAuths, before, q, hopen, rfl⟩ := h
  have hcreates : creates (before ++ [.replied q false]) = keyAuths := by
    rw [creates_append, hopen.created]
    exact List.append_nil keyAuths
  have hremoves : removes (before ++ [.replied q false]) = [] := by
    rw [removes_append, hopen.kept]
    rfl
  constructor
  · intro hcleaned
    have hnil : keyAuths = [] := by
      refine List.eq_nil_iff_forall_not_mem.2 fun keyAuth hmem => ?_
      have hcount := (hcleaned keyAuth).1
      rw [hcreates, hremoves, List.count_nil] at hcount
      exact List.count_eq_zero.1 hcount.symm hmem
    intro before' q' after h
    obtain ⟨mid, rfl, hmid⟩ := split_of_not_mem h (hopen.answered q')
    have hmidnil : mid = [] := by
      cases mid with
      | nil => rfl
      | cons d mid => simp at hmid
    rw [hmidnil, List.append_nil, hopen.created, hnil]
  · intro hundisturbed
    have hnil : keyAuths = [] := by
      rw [← hopen.created]
      exact hundisturbed before q [] rfl
    subst hnil
    intro keyAuth
    refine ⟨by rw [hcreates, hremoves], ?_⟩
    intro before' after h
    obtain ⟨mid, -, hmid⟩ := split_of_not_mem h (hopen.not_mem_remove keyAuth)
    have hmem : .called .remove keyAuth ∈ [Event.replied q false] := by
      rw [hmid]
      simp
    simp at hmem

/-- **When the challenge files are cleaned up**: in the runs in which no request fails once a file
has been created. -/
theorem issue_cleaned_iff (w : World) (n : ℕ) (log : Log) (r : Except Error (String × String))
    (h : issue w n [] = (log, r.mapError .err)) : Cleaned log ↔ Undisturbed log := by
  have hissue := holds_issue w n [] open_nil
  rw [h] at hissue
  cases r with
  | ok a =>
      have hclosed : Closed log := hissue
      exact iff_of_true hclosed.cleaned hclosed.undisturbed
  | error e =>
      have hended : Closed log ∨ Broken log := hissue
      rcases hended with hclosed | hbroken
      · exact iff_of_true hclosed.cleaned hclosed.undisturbed
      · exact hbroken.cleaned_iff

/-- A server with one pending authorization, that answers every request but may not take the notice
that a challenge is ready. -/
def oneAuthorization (takesReady : Bool) : World where
  newOrder _ := some .ready
  authorizations _ := some [⟨.pending, [⟨.http01, "url", "token"⟩]⟩]
  keyAuthorization c := c.token
  spawn _ _ _ := true
  wait _ := true
  setChallengeReady _ := takesReady
  refresh _ := some .ready
  certificateParams _ := true
  generateKeyPair _ := some "key"
  serializeRequest _ := true
  finalize _ := true
  certificate _ := some (some "certificate")

theorem issue_cleaned_one : ∃ log,
    issue (oneAuthorization true) 1 [] = (log, Except.mapError .err (.ok ("key", "certificate"))) ∧
    (Cleaned log ↔ Undisturbed log) := by
  obtain ⟨log, hlog⟩ : ∃ log, issue (oneAuthorization true) 1 [] =
      (log, Except.mapError .err (.ok ("key", "certificate"))) := ⟨_, rfl⟩
  exact ⟨log, hlog, issue_cleaned_iff _ 1 log _ hlog⟩

/-- The server does not take the notice: the file stays. -/
theorem issue_leaves_file : ∃ log,
    issue (oneAuthorization false) 1 [] = (log, .error (.err .instantAcme)) ∧ ¬ Cleaned log := by
  refine ⟨_, rfl, ?_⟩
  intro hcleaned
  exact absurd (hcleaned "token").1 (by decide)

end Penguin.Server.Acme
