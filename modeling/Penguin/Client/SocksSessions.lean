import Penguin.Client.SocksServer
import Penguin.Lib.Transition

/-!
What the SOCKS server promises.

A client reads one of a few dialogues, and is told of success only when there is a stream or a relay
for it. The sessions of a listener run beside each other: what goes wrong in one of them is its own
affair, but for the end of the main loop, which ends the listener too.
-/

namespace Penguin.Client.Socks

open Penguin.Lib.Logged Penguin.Lib.Transition
open Mux (Bytes)

/-! ### One session -/

/-- The replies, in order. -/
def replies (log : Log) : List Bytes := log.filterMap fun
  | .wrote bytes _ => some bytes
  | _ => none

/-- What a client may read in a session. -/
inductive Dialogue : List Bytes → Prop
  | silent : Dialogue []
  | v4 {code : UInt8} (h : code = 0x5a ∨ code = 0x5b) : Dialogue [v4Response code]
  | refused : Dialogue [[0x05, 0xff]]
  | chosen : Dialogue [[0x05, 0x00]]
  | answered {code : UInt8} {addr : SocketAddr}
      (h : code = 0x00 ∨ code = 0x01 ∨ code = 0x07 ∨ code = 0x08) :
      Dialogue [[0x05, 0x00], v5Response code addr]

lemma Dialogue.answered_unspecified {code : UInt8}
    (h : code = 0x00 ∨ code = 0x01 ∨ code = 0x07 ∨ code = 0x08) :
    Dialogue [[0x05, 0x00], v5Unspecified code] :=
  @Dialogue.answered code (.v4 0 0) h

/-- The reply tells the client of either version that its request was granted. -/
def Success (bytes : Bytes) : Prop :=
  bytes.take 2 = [0x00, 0x5a] ∨ 2 < bytes.length ∧ bytes.take 2 = [0x05, 0x00]

/-- Every reply of success comes behind events of which `G` holds. -/
def Earned (G : Log → Bytes → Prop) (past log : Log) : Prop :=
  ∀ before after bytes ok, log = before ++ .wrote bytes ok :: after → Success bytes →
    G (past ++ before) bytes

section Earned

variable {G : Log → Bytes → Prop} {past log : Log}

@[simp] lemma earned_nil : Earned G past [] := by
  intro before after bytes ok h
  simp at h

@[simp] lemma earned_wrote {bytes : Bytes} {ok : Bool} :
    Earned G past (.wrote bytes ok :: log) ↔
      (Success bytes → G past bytes) ∧ Earned G (past ++ [.wrote bytes ok]) log := by
  constructor
  · intro h
    refine ⟨fun hs => ?_, fun before after bytes' ok' heq hs => ?_⟩
    · simpa using h [] log bytes ok rfl hs
    · simpa using h (.wrote bytes ok :: before) after bytes' ok' (by simp [heq]) hs
  · rintro ⟨h, hrest⟩ before after bytes' ok' heq hs
    rcases before with _ | ⟨e, before⟩
    · obtain ⟨⟨rfl, -⟩, -⟩ : (bytes = bytes' ∧ ok = ok') ∧ log = after := by simpa using heq
      simpa using h hs
    · obtain ⟨rfl, hlog⟩ : .wrote bytes ok = e ∧ log = before ++ .wrote bytes' ok' :: after := by
        simpa using heq
      simpa using hrest before after bytes' ok' hlog hs

@[simp] lemma earned_cons {e : Event} (he : ∀ bytes ok, e ≠ .wrote bytes ok) :
    Earned G past (e :: log) ↔ Earned G (past ++ [e]) log := by
  constructor
  · intro h before after bytes ok heq hs
    simpa using h (e :: before) after bytes ok (by simp [heq]) hs
  · intro h before after bytes ok heq hs
    rcases before with _ | ⟨e', before⟩
    · have := (List.cons.inj heq).1
      exact absurd this (he bytes ok)
    · obtain ⟨rfl, hlog⟩ : e = e' ∧ log = before ++ .wrote bytes ok :: after := by simpa using heq
      simpa using h before after bytes ok hlog hs

end Earned

/-- What was asked for when a reply of success is written. -/
def Granted (request : Option ((UInt8 × Bytes × UInt16) × Bytes)) (log : Log) (bytes : Bytes) :
    Prop :=
  (∃ host port rest, request = some ((0x01, host, port), rest) ∧ .requested host port true ∈ log) ∨
    ∃ addr, bytes = v5Response 0x00 addr ∧ .localAddr (some addr) ∈ log

/-- The streams that were asked for. -/
def requests (log : Log) : List (Bytes × UInt16) := log.filterMap fun
  | .requested host port _ => some (host, port)
  | _ => none

section Properties

variable {request : Option ((UInt8 × Bytes × UInt16) × Bytes)} {t : Log} {bytes : Bytes} {ok : Bool}
  {past : Log} {r : Except SessionError Unit}

lemma not_success_v4 : ¬ Success (v4Response 0x5b) := by
  simp [Success, v4Response]

lemma not_success_method (method : UInt8) : ¬ Success [0x05, method] := by
  simp [Success]

lemma not_success_v5 {code : UInt8} (h : code ≠ 0) : ¬ Success (v5Unspecified code) := by
  simp [Success, v5Unspecified, h]

lemma Replied.replies (h : Replied bytes t ok) : replies t = [bytes] := by
  cases h <;> rfl

lemma Replied.earned {G : Log → Bytes → Prop} (h : Replied bytes t ok)
    (hs : Success bytes → G past bytes) : Earned G past t := by
  cases h <;> simpa using hs

lemma Replied.requests (h : Replied bytes t ok) : requests t = [] := by
  cases h <;> rfl

lemma replies_append (log log' : Log) : replies (log ++ log') = replies log ++ replies log' :=
  List.filterMap_append

lemma requests_append (log log' : Log) : requests (log ++ log') = requests log ++ requests log' :=
  List.filterMap_append

lemma Connects.replies {host rest : Bytes} {port : UInt16} (h : Connects host port bytes rest t r) :
    replies t = [] ∨ replies t = [bytes] := by
  cases h with
  | noPermit => exact .inl rfl
  | noStream => exact .inl rfl
  | noReply ht => exact .inr (by rw [replies_append, ht.replies]; rfl)
  | copyFails => exact .inr rfl
  | copies => exact .inr rfl

lemma Connects.earned {host rest : Bytes} {port : UInt16}
    (hreq : request = some ((0x01, host, port), rest))
    (h : Connects host port bytes rest t r) : Earned (Granted request) past t := by
  have hgranted : ∀ {l}, .requested host port true ∈ l → Granted request l bytes := fun hl =>
    .inl ⟨host, port, rest, hreq, hl⟩
  cases h with
  | noPermit => simp
  | noStream => simp
  | noReply ht =>
      refine (earned_cons (by simp)).mpr ((earned_cons (by simp)).mpr ?_)
      exact ht.earned fun _ => hgranted (by simp)
  | copyFails => simpa using fun _ => hgranted (by simp)
  | copies => simpa using fun _ => hgranted (by simp)

lemma Connects.requests {host rest : Bytes} {port : UInt16}
    (h : Connects host port bytes rest t r) : requests t = [] ∨ requests t = [(host, port)] := by
  cases h with
  | noPermit => exact .inl rfl
  | noStream => exact .inr rfl
  | noReply ht => exact .inr (by rw [requests_append, ht.requests]; rfl)
  | copyFails => exact .inr rfl
  | copies => exact .inr rfl

lemma Associates.replies (h : Associates t r) :
    ∃ code addr, (code = 0x00 ∨ code = 0x01) ∧ replies t = [v5Response code addr] := by
  cases h with
  | unbound ht => exact ⟨0x01, .v4 0 0, .inr rfl, ht.replies⟩
  | noAddr ht => exact ⟨0x01, .v4 0 0, .inr rfl, ht.replies⟩
  | noReply addr ht => exact ⟨0x00, addr, .inl rfl, ht.replies⟩
  | relays addr => exact ⟨0x00, addr, .inl rfl, rfl⟩

lemma Associates.earned (h : Associates t r) : Earned (Granted request) past t := by
  have hgranted : ∀ {l addr}, .localAddr (some addr) ∈ l →
      Granted request l (v5Response 0x00 addr) := fun hl => .inr ⟨_, rfl, hl⟩
  have hfailed : ∀ {past t ok}, Replied (v5Unspecified 0x01) t ok →
      Earned (Granted request) past t := fun ht =>
    ht.earned fun hs => absurd hs (not_success_v5 (by decide))
  cases h with
  | unbound ht => exact (earned_cons (by simp)).mpr (hfailed ht)
  | noAddr ht => exact (earned_cons (by simp)).mpr ((earned_cons (by simp)).mpr (hfailed ht))
  | noReply addr ht =>
      refine (earned_cons (by simp)).mpr ((earned_cons (by simp)).mpr
        ((earned_cons (by simp)).mpr ?_))
      exact ht.earned fun _ => hgranted (by simp)
  | relays addr => simpa using fun _ => hgranted (by simp)

lemma Associates.requests (h : Associates t r) : requests t = [] := by
  cases h with
  | unbound ht => exact ht.requests
  | noAddr ht => exact ht.requests
  | noReply addr ht => exact ht.requests
  | relays addr => rfl

lemma Session.dialogue (h : Session request t r) : Dialogue (replies t) := by
  cases h with
  | unread => exact .silent
  | rejected ht => exact ht.replies ▸ .v4 (.inr rfl)
  | connect hreq ht =>
      rcases ht.replies with h | h
      · exact h ▸ .silent
      · exact h ▸ .v4 (.inl rfl)
  | refused ht => exact ht.replies ▸ .refused
  | unchosen ht => exact ht.replies ▸ .chosen
  | @served t r ht =>
      have happend : replies ([.wrote [0x05, 0x00] true, .flushed true] ++ t) =
          [0x05, 0x00] :: replies t := rfl
      rw [happend]
      cases ht with
      | unread => exact .chosen
      | rejected code hcode ht =>
          rw [ht.replies]
          exact Dialogue.answered_unspecified (by rcases hcode with rfl | rfl <;> simp)
      | connect hreq ht =>
          rcases ht.replies with h | h
          · exact h ▸ .chosen
          · exact h ▸ Dialogue.answered_unspecified (.inl rfl)
      | associate ht =>
          obtain ⟨code, addr, hcode, h⟩ := ht.replies
          exact h ▸ .answered (hcode.imp_right .inl)

lemma Session.earned (h : Session request t r) : Earned (Granted request) past t := by
  cases h with
  | unread => simp
  | rejected ht => exact ht.earned fun hs => absurd hs not_success_v4
  | connect hreq ht => exact ht.earned hreq
  | refused ht => exact ht.earned fun hs => absurd hs (not_success_method _)
  | unchosen ht => exact ht.earned fun hs => absurd hs (not_success_method _)
  | served ht =>
      refine earned_wrote.mpr ⟨fun hs => absurd hs (not_success_method _),
        (earned_cons (by simp)).mpr ?_⟩
      cases ht with
      | unread => simp
      | rejected code hcode ht =>
          have hne : code ≠ 0 := by rcases hcode with rfl | rfl <;> decide
          exact ht.earned fun hs => absurd hs (not_success_v5 hne)
      | connect hreq ht => exact ht.earned hreq
      | associate ht => exact ht.earned

/-- At most one stream is asked for, and it is what the client has asked for. -/
lemma Session.requests (h : Session request t r) : requests t = [] ∨
    ∃ host port rest, request = some ((0x01, host, port), rest) ∧ requests t = [(host, port)] := by
  have hconnect : ∀ {host port rest bytes t r}, request = some ((0x01, host, port), rest) →
      Connects host port bytes rest t r → Socks.requests t = [] ∨
        ∃ host port rest, request = some ((0x01, host, port), rest) ∧
          Socks.requests t = [(host, port)] := fun hreq ht =>
    ht.requests.imp_right fun h => ⟨_, _, _, hreq, h⟩
  cases h with
  | unread => exact .inl rfl
  | rejected ht => exact .inl ht.requests
  | connect hreq ht => exact hconnect hreq ht
  | refused ht => exact .inl ht.requests
  | unchosen ht => exact .inl ht.requests
  | @served t r ht =>
      have happend : Socks.requests ([.wrote [0x05, 0x00] true, .flushed true] ++ t) =
          Socks.requests t := rfl
      rw [happend]
      cases ht with
      | unread => exact .inl rfl
      | rejected code hcode ht => exact .inl ht.requests
      | connect hreq ht => exact hconnect hreq ht
      | associate ht => exact .inl ht.requests

/-- Nothing but a reply has happened. -/
lemma Replied.mem {e : Event} (h : Replied bytes t ok) (he : e ∈ t) :
    (∃ ok, e = .wrote bytes ok) ∨ ∃ ok, e = .flushed ok := by
  cases h <;> simp at he
  · exact he.imp (⟨_, ·⟩) (⟨_, ·⟩)
  · exact .inl ⟨_, he⟩
  · exact he.imp (⟨_, ·⟩) (⟨_, ·⟩)

lemma Local.not_fatal {e : SessionError} (h : Local e) :
    ¬ ∃ f, (.error e : Except SessionError Unit) = .error (.fatal f) := by
  rintro ⟨f, hf⟩
  exact h f (Except.error.inj hf)

/-- How a session ends, by what is in its log. -/
structure Ends (request : Option ((UInt8 × Bytes × UInt16) × Bytes)) (t : Log)
    (r : Except SessionError Unit) : Prop where
  /-- The program ends with the session if and only if the main loop is gone. -/
  fatal : (∃ f, r = .error (.fatal f)) ↔
    .reserved false ∈ t ∨ ∃ host port, .requested host port false ∈ t
  kind : ∀ f, r = .error (.fatal f) →
    f = .requestStream ∨ f = .mainLoopExitWithoutSendingStream
  /-- What is copied begins with all that came behind the request. -/
  copied : ∀ rest ok, .copied rest ok ∈ t →
    ∃ host port, request = some ((0x01, host, port), rest)
  /-- A relay is stopped if and only if the session ends well. -/
  relay : ∀ addr, .relaySpawned addr ∈ t → (.relayAborted ∈ t ↔ r = .ok ())

lemma Replied.ends {e : SessionError} (h : Replied bytes t ok) (he : Local e) :
    Ends request t (.error e) := by
  refine ⟨iff_of_false he.not_fatal ?_, fun f hf => absurd ⟨f, hf⟩ he.not_fatal,
    fun rest ok hmem => ?_, fun addr hmem => ?_⟩
  · rintro (hmem | ⟨host, port, hmem⟩) <;> rcases h.mem hmem with ⟨_, h⟩ | ⟨_, h⟩ <;> cases h
  · rcases h.mem hmem with ⟨_, h⟩ | ⟨_, h⟩ <;> cases h
  · rcases h.mem hmem with ⟨_, h⟩ | ⟨_, h⟩ <;> cases h

lemma Ends.unread {e : SessionError} (he : Local e) : Ends request [] (.error e) :=
  ⟨iff_of_false he.not_fatal (by simp), fun f hf => absurd ⟨f, hf⟩ he.not_fatal, by simp, by simp⟩

/-- Events that say nothing of the end of a session. -/
def Event.Plain (e : Event) : Prop :=
  e ≠ .reserved false ∧ (∀ host port, e ≠ .requested host port false) ∧
    (∀ rest ok, e ≠ .copied rest ok) ∧ (∀ addr, e ≠ .relaySpawned addr) ∧ e ≠ .relayAborted

lemma Ends.cons {e : Event} (he : e.Plain) (h : Ends request t r) : Ends request (e :: t) r := by
  obtain ⟨hreserved, hrequested, hcopied, hspawned, haborted⟩ := he
  refine ⟨h.fatal.trans ?_, h.kind, fun rest ok hmem => ?_, fun addr hmem => ?_⟩
  · simp only [List.mem_cons, hreserved.symm, (hrequested _ _).symm, false_or]
  · rcases List.mem_cons.mp hmem with heq | hmem
    · exact absurd heq.symm (hcopied rest ok)
    · exact h.copied rest ok hmem
  · rcases List.mem_cons.mp hmem with heq | hmem
    · exact absurd heq.symm (hspawned addr)
    · simpa [haborted.symm] using h.relay addr hmem

lemma Connects.ends {host rest : Bytes} {port : UInt16}
    (hreq : request = some ((0x01, host, port), rest))
    (h : Connects host port bytes rest t r) : Ends request t r := by
  cases h with
  | noPermit => exact ⟨by simp, by simp, by simp, by simp⟩
  | noStream => exact ⟨by simp, by simp, by simp, by simp⟩
  | noReply ht he =>
      exact ((ht.ends he).cons (by simp [Event.Plain])).cons (by simp [Event.Plain])
  | copyFails => exact ⟨by simp, by simp, by simp [hreq], by simp⟩
  | copies => exact ⟨by simp, by simp, by simp [hreq], by simp⟩

/-- The relay goes on if the reply fails: its handle is dropped, and that does not stop a task. -/
lemma Ends.forgotten {addr : SocketAddr} {e : SessionError} (ht : Replied bytes t ok)
    (he : Local e) : Ends request (.relaySpawned addr :: t) (.error e) := by
  have h : Ends request t (.error e) := ht.ends he
  refine ⟨h.fatal.trans (by simp), h.kind, by simpa using h.copied, fun _ _ => ?_⟩
  refine iff_of_false (fun hmem => ?_) (by simp)
  have hmem : .relayAborted ∈ t := by simpa using hmem
  rcases ht.mem hmem with ⟨_, h⟩ | ⟨_, h⟩ <;> cases h

lemma Associates.ends (h : Associates t r) : Ends request t r := by
  cases h with
  | unbound ht he => exact (ht.ends he).cons (by simp [Event.Plain])
  | noAddr ht he =>
      exact ((ht.ends he).cons (by simp [Event.Plain])).cons (by simp [Event.Plain])
  | noReply addr ht he =>
      exact ((Ends.forgotten ht he).cons (by simp [Event.Plain])).cons (by simp [Event.Plain])
  | relays addr => exact ⟨by simp, by simp, by simp, by simp⟩

lemma Served.ends (h : Served request t r) : Ends request t r := by
  cases h with
  | unread he => exact .unread he
  | rejected code hcode ht he => exact ht.ends he
  | connect hreq ht => exact ht.ends hreq
  | associate ht => exact ht.ends

lemma Session.ends (h : Session request t r) : Ends request t r := by
  cases h with
  | unread he => exact .unread he
  | rejected ht he => exact ht.ends he
  | connect hreq ht => exact ht.ends hreq
  | refused ht he => exact ht.ends he
  | unchosen ht he => exact ht.ends he
  | served ht => exact (ht.ends.cons (by simp [Event.Plain])).cons (by simp [Event.Plain])

end Properties

/-- What `Session` says of a run from the start. -/
lemma session_of_run {w : World} {input : Bytes} {log : Log} {r : Except SessionError Unit}
    (h : onSocksAccept w input [] = (log, r)) : Session (requestOf w.ipv6ToString input) log r := by
  obtain ⟨t, hlog, ht⟩ := session w input []
  rw [h, List.nil_append] at hlog
  rw [h] at ht
  obtain rfl : log = t := hlog
  exact ht

/-- **A client is told of success only when it is served.** Whatever it sends, it reads one of the
dialogues; a reply of success comes behind the stream or the relay it is about; at most one stream
is asked for, for the host and the port of its request, and it gets all that came behind the
request. A relay is stopped only by a session that ends well. -/
theorem session_replies {w : World} {input : Bytes} {log : Log} {r : Except SessionError Unit}
    (h : onSocksAccept w input [] = (log, r)) :
    Dialogue (replies log) ∧ Earned (Granted (requestOf w.ipv6ToString input)) [] log ∧
      (requests log = [] ∨ ∃ host port rest,
        requestOf w.ipv6ToString input = some ((0x01, host, port), rest) ∧
          requests log = [(host, port)]) ∧
      (∀ rest ok, .copied rest ok ∈ log → ∃ host port,
        requestOf w.ipv6ToString input = some ((0x01, host, port), rest)) ∧
      ∀ addr, .relaySpawned addr ∈ log → (.relayAborted ∈ log ↔ r = .ok ()) :=
  have hsession := session_of_run h
  ⟨hsession.dialogue, hsession.earned, hsession.requests, hsession.ends.copied,
    hsession.ends.relay⟩

/-- Surroundings in which all goes well. -/
def helpful : World where
  write _ := true
  flush _ := true
  reserve _ := true
  stream _ := true
  copy _ := true
  bindUdp _ := true
  localAddr _ := some (.v4 0x7f000001 5353)
  ipv6ToString _ := []

theorem session_replies_connect :
    Dialogue [[0x05, 0x00], v5Unspecified 0x00] ∧
      Earned (Granted (some ((0x01, [0x61], 80), [7, 8]))) []
        [.wrote [0x05, 0x00] true, .flushed true, .reserved true, .requested [0x61] 80 true,
          .wrote (v5Unspecified 0x00) true, .flushed true, .copied [7, 8] true] :=
  have hrun : onSocksAccept helpful [5, 1, 0, 5, 1, 0, 3, 1, 0x61, 0, 80, 7, 8] [] = (_, .ok ()) :=
    rfl
  have h := session_replies hrun
  ⟨h.1, h.2.1⟩

/-! ### The listener -/

/-- A client that has connected: what its session finds, and what it sends. -/
structure Accepted where
  world : World
  input : Bytes

def Accepted.session (c : Accepted) : Log × Except SessionError Unit :=
  onSocksAccept c.world c.input []

/-- The session has seen that the main loop is gone. -/
def MainGone (log : Log) : Prop :=
  .reserved false ∈ log ∨ ∃ host port, .requested host port false ∈ log

/-- `handle_socks`. -/
structure Listener where
  listening : Bool
  /-- The sessions in the `JoinSet` that run, and those that have ended. -/
  running : List Accepted
  finished : List Accepted
  /-- `join_next` has been polled in this turn of the `select!`, and no session had ended. -/
  polled : Bool
  returned : Option FatalError
  /-- History: the clients whose sessions were spawned, and those that were joined. -/
  accepted : List Accepted
  joined : List Accepted

namespace Listener

def new : Listener where
  listening := false
  running := []
  finished := []
  polled := false
  returned := none
  accepted := []
  joined := []

inductive Act
  | bind (ok : Bool)
  /-- The session at this place of the running ones ends. -/
  | sessionEnds (i : ℕ)
  | pollJobs
  | joinNext (i : ℕ)
  | accept (c : Accepted)
  | acceptFails
  | acceptPending

def step (s : Listener) (a : Act) : Option Listener :=
  if s.returned.isSome then none
  else match a with
  | .bind ok =>
    if s.listening then none
    else if ok then some { s with listening := true }
    else some { s with returned := some .clientIo }
  | .sessionEnds i => do
    let c ← s.running[i]?
    some { s with running := s.running.eraseIdx i, finished := s.finished ++ [c] }
  | .pollJobs =>
    if s.listening ∧ s.finished = [] then some { s with polled := true } else none
  | .joinNext i => do
    let c ← s.finished[i]?
    if s.polled then none
    else
      let s := { s with finished := s.finished.eraseIdx i, joined := s.joined ++ [c] }
      match c.session.2 with
      | .error (.fatal e) => some { s with returned := some e }
      | _ => some s
  | .accept c =>
    if s.polled then
      some { s with polled := false, running := s.running ++ [c], accepted := s.accepted ++ [c] }
    else none
  | .acceptFails => if s.polled then some { s with returned := some .clientIo } else none
  | .acceptPending => if s.polled then some { s with polled := false } else none

/-- The socket of the listener does not fail. -/
def Sockets (_ : Listener) : Act → Prop
  | .bind ok => ok = true
  | .acceptFails => False
  | _ => True

/-- All that a step can do. -/
inductive Stepped (s : Listener) : Act → Listener → Prop
  | bind : Stepped s (.bind true) { s with listening := true }
  | bindFails : Stepped s (.bind false) { s with returned := some .clientIo }
  | sessionEnds {i : ℕ} {c : Accepted} (hi : s.running[i]? = some c) :
      Stepped s (.sessionEnds i)
        { s with running := s.running.eraseIdx i, finished := s.finished ++ [c] }
  | pollJobs (h : s.finished = []) : Stepped s .pollJobs { s with polled := true }
  | joinFatal {i : ℕ} {c : Accepted} {e : FatalError} (hi : s.finished[i]? = some c)
      (hc : c.session.2 = .error (.fatal e)) : Stepped s (.joinNext i)
        { s with finished := s.finished.eraseIdx i, joined := s.joined ++ [c], returned := some e }
  | join {i : ℕ} {c : Accepted} (hi : s.finished[i]? = some c)
      (hc : ∀ e, c.session.2 ≠ .error (.fatal e)) : Stepped s (.joinNext i)
        { s with finished := s.finished.eraseIdx i, joined := s.joined ++ [c] }
  | accept {c : Accepted} (h : s.polled = true) : Stepped s (.accept c)
      { s with polled := false, running := s.running ++ [c], accepted := s.accepted ++ [c] }
  | acceptFails : Stepped s .acceptFails { s with returned := some .clientIo }
  | acceptPending : Stepped s .acceptPending { s with polled := false }

section Steps

variable {s s' : Listener} {a : Act}

lemma stepped_joinNext {i : ℕ} (hreturned : s.returned = none)
    (h : step s (.joinNext i) = some s') : Stepped s (.joinNext i) s' := by
  simp only [step, hreturned, Option.isSome_none, Bool.false_eq_true, if_false,
    Option.bind_eq_bind, Option.bind_eq_some_iff] at h
  obtain ⟨c, hi, h⟩ := h
  by_cases hpolled : s.polled
  · simp [hpolled] at h
  rw [if_neg hpolled] at h
  rcases hc : c.session.2 with (e | u)
  · cases e with
    | fatal f =>
        rw [hc] at h
        obtain rfl := Option.some.inj h
        exact .joinFatal hi hc
    | _ =>
        rw [hc] at h
        obtain rfl := Option.some.inj h
        exact hreturned ▸ .join hi (by simp [hc])
  · rw [hc] at h
    obtain rfl := Option.some.inj h
    exact hreturned ▸ .join hi (by simp [hc])

lemma step_cases (h : step s a = some s') : s.returned = none ∧ Stepped s a s' := by
  rcases hreturned : s.returned with _ | e
  swap
  · simp [step, hreturned] at h
  refine ⟨rfl, ?_⟩
  cases a with
  | joinNext i => exact stepped_joinNext hreturned h
  | bind ok =>
      cases ok <;> simp [step, hreturned] at h <;> obtain ⟨-, rfl⟩ := h
      · exact .bindFails
      · exact hreturned ▸ .bind
  | sessionEnds i =>
      simp only [step, hreturned, Option.isSome_none, Bool.false_eq_true, if_false,
        Option.bind_eq_bind, Option.bind_eq_some_iff, Option.some.injEq] at h
      obtain ⟨c, hi, rfl⟩ := h
      exact hreturned ▸ .sessionEnds hi
  | pollJobs =>
      simp [step, hreturned] at h
      obtain ⟨⟨-, hfinished⟩, rfl⟩ := h
      exact hreturned ▸ .pollJobs hfinished
  | accept c =>
      simp [step, hreturned] at h
      obtain ⟨hpolled, rfl⟩ := h
      exact hreturned ▸ .accept hpolled
  | acceptFails =>
      simp [step, hreturned] at h
      obtain ⟨-, rfl⟩ := h
      exact .acceptFails
  | acceptPending =>
      simp [step, hreturned] at h
      obtain ⟨-, rfl⟩ := h
      exact hreturned ▸ .acceptPending

end Steps

/-- Every session that was spawned is in one place, and the listener has returned if and only if a
session that it has joined tells it of the end of the main loop. -/
structure Inv (s : Listener) : Prop where
  once : (s.joined ++ s.finished ++ s.running).Perm s.accepted
  returned : (∃ e, s.returned = some e) ↔ ∃ c ∈ s.joined, MainGone c.session.1
  kind : ∀ e, s.returned = some e → e = .requestStream ∨ e = .mainLoopExitWithoutSendingStream

lemma inv_new : Inv new :=
  ⟨.nil, by simp [new], by simp [new]⟩

lemma ends_session (c : Accepted) :
    Ends (requestOf c.world.ipv6ToString c.input) c.session.1 c.session.2 :=
  (session_of_run (show onSocksAccept c.world c.input [] = c.session from rfl)).ends

lemma perm_eraseIdx {l : List Accepted} {i : ℕ} {c : Accepted} (hi : l[i]? = some c) :
    (c :: l.eraseIdx i).Perm l := by
  obtain ⟨hlt, rfl⟩ := List.getElem?_eq_some_iff.mp hi
  exact List.getElem_cons_eraseIdx_perm hlt

/-- A session moves from the ones that have ended to the ones that were joined. -/
lemma perm_join {joined finished running : List Accepted} {i : ℕ} {c : Accepted}
    (hi : finished[i]? = some c) :
    (joined ++ [c] ++ finished.eraseIdx i ++ running).Perm (joined ++ finished ++ running) := by
  refine List.Perm.append_right _ ?_
  rw [List.append_assoc]
  exact (perm_eraseIdx hi).append_left joined

section Runs

variable {s s' : Listener} {a : Act}

lemma Inv.step (hok : Sockets s a) (h : Inv s) (hs : step s a = some s') : Inv s' := by
  obtain ⟨hnone, hs⟩ := step_cases hs
  have hquiet : ¬ ∃ c ∈ s.joined, MainGone c.session.1 := by
    rw [← h.returned]
    simp [hnone]
  cases hs with
  | bind => exact ⟨h.once, h.returned, h.kind⟩
  | bindFails => cases hok
  | @sessionEnds i c hi =>
      refine ⟨.trans ?_ h.once, h.returned, h.kind⟩
      rw [List.append_assoc, List.append_assoc, List.append_assoc]
      exact ((perm_eraseIdx hi).append_left s.finished).append_left s.joined
  | pollJobs => exact ⟨h.once, h.returned, h.kind⟩
  | @joinFatal i c e hi hc =>
      have hgone : MainGone c.session.1 := (ends_session c).fatal.mp ⟨e, hc⟩
      refine ⟨(perm_join hi).trans h.once, ⟨fun _ => ⟨c, by simp, hgone⟩, fun _ => ⟨e, rfl⟩⟩, ?_⟩
      rintro e' he
      obtain rfl := Option.some.inj he
      exact (ends_session c).kind e hc
  | @join i c hi hc =>
      have hthere : ¬ MainGone c.session.1 := fun hgone => by
        obtain ⟨e, he⟩ := (ends_session c).fatal.mpr hgone
        exact hc e he
      refine ⟨(perm_join hi).trans h.once, iff_of_false (by simp [hnone]) ?_, h.kind⟩
      rintro ⟨c', hmem, hgone⟩
      rcases List.mem_append.mp hmem with hmem | hmem
      · exact hquiet ⟨c', hmem, hgone⟩
      · obtain rfl := List.mem_singleton.mp hmem
        exact hthere hgone
  | @accept c =>
      refine ⟨?_, h.returned, h.kind⟩
      rw [← List.append_assoc]
      exact h.once.append_right [c]
  | acceptFails => cases hok
  | acceptPending => exact ⟨h.once, h.returned, h.kind⟩

/-- The end of the main loop is known to a session that has ended, or to the listener. -/
def Doomed (s : Listener) : Prop :=
  s.returned ≠ none ∨ ∃ c ∈ s.finished, ∃ e, c.session.2 = .error (.fatal e)

/-- How many clients may still be accepted then. -/
def last (s : Listener) : ℕ := if s.polled then 1 else 0

lemma Doomed.step (h : Doomed s) (hs : step s a = some s') :
    Doomed s' ∧ s'.accepted.length + last s' ≤ s.accepted.length + last s := by
  obtain ⟨hnone, hs⟩ := step_cases hs
  obtain ⟨c, hc, e, hfatal⟩ := h.resolve_left (by simp [hnone])
  have hstays : ∀ {s' : Listener}, c ∈ s'.finished → Doomed s' := fun h => .inr ⟨c, h, e, hfatal⟩
  cases hs with
  | bind => exact ⟨hstays hc, le_rfl⟩
  | bindFails => exact ⟨.inl (by simp), le_rfl⟩
  | sessionEnds hi => exact ⟨hstays (List.mem_append_left _ hc), le_rfl⟩
  | pollJobs h =>
      rw [h] at hc
      cases hc
  | joinFatal hi hc' => exact ⟨.inl (by simp), le_rfl⟩
  | @join i c' hi hc' =>
      refine ⟨hstays ?_, le_rfl⟩
      refine (List.mem_cons.mp ((perm_eraseIdx hi).mem_iff.mpr hc)).resolve_left ?_
      rintro rfl
      exact hc' e hfatal
  | accept h => exact ⟨hstays hc, by simp [last, h]⟩
  | acceptFails => exact ⟨.inl (by simp), le_rfl⟩
  | acceptPending => exact ⟨hstays hc, by simp [last]⟩

lemma accepted_le_of_doomed (h : Doomed s) (hs : Reach step Any s s') :
    s'.accepted.length ≤ s.accepted.length + 1 := by
  have hinv : Doomed s' ∧ s'.accepted.length + last s' ≤ s.accepted.length + last s :=
    hs.invariant (I := fun s' => Doomed s' ∧
      s'.accepted.length + last s' ≤ s.accepted.length + last s) ⟨h, le_rfl⟩
      fun s₁ a s₂ hI _ hstep => ⟨(hI.1.step hstep).1, (hI.1.step hstep).2.trans hI.2⟩
  have hlast : last s ≤ 1 := by
    unfold last
    split_ifs <;> omega
  omega

/-- **What goes wrong with a client is its own affair**, but for the end of the main loop. As long
as its socket works, the listener spawns and joins a session for each client once, returns if and
only if a session that it has joined has met the end of the main loop, and then with the error that
says so; and when such a session has ended, at most one more client is accepted. -/
theorem listener_ends (h : Reach step Sockets new s) :
    (s.joined ++ s.finished ++ s.running).Perm s.accepted ∧
      ((∃ e, s.returned = some e) ↔ ∃ c ∈ s.joined, MainGone c.session.1) ∧
      (∀ e, s.returned = some e → e = .requestStream ∨ e = .mainLoopExitWithoutSendingStream) ∧
      ∀ c ∈ s.finished, MainGone c.session.1 → ∀ s', Reach step Any s s' →
        s'.accepted.length ≤ s.accepted.length + 1 := by
  have hinv : Inv s := h.invariant inv_new fun _ _ _ hI hok hs => hI.step hok hs
  refine ⟨hinv.once, hinv.returned, hinv.kind, fun c hc hgone s' hs => ?_⟩
  obtain ⟨e, he⟩ := (ends_session c).fatal.mpr hgone
  exact accepted_le_of_doomed (.inr ⟨c, hc, e, he⟩) hs

end Runs

/-- A client that does not speak the protocol .. -/
def stranger : Accepted := ⟨helpful, [1]⟩

/-- .. and one that comes when the main loop has ended. -/
def late : Accepted :=
  ⟨{ helpful with reserve := fun _ => false }, [4, 1, 0, 80, 0, 0, 0, 1, 0, 0x61, 0]⟩

def acts : List Act :=
  [.bind true, .pollJobs, .accept stranger, .pollJobs, .accept late, .sessionEnds 0, .joinNext 0,
    .pollJobs, .acceptPending, .sessionEnds 0, .joinNext 0]

theorem listener_ends_main : ∃ s, Reach step Sockets new s ∧ s.returned = some .requestStream ∧
    s.accepted = [stranger, late] ∧ (s.joined ++ s.finished ++ s.running).Perm [stranger, late] ∧
    ∃ c ∈ s.joined, MainGone c.session.1 := by
  have hreach : Reach step Sockets new _ :=
    reach_of_run (show run step new acts = some _ from rfl) (by simp [acts, RunMeets, Sockets])
  have h := listener_ends hreach
  exact ⟨_, hreach, rfl, rfl, h.1, h.2.1.mp ⟨_, rfl⟩⟩

end Listener

end Penguin.Client.Socks
