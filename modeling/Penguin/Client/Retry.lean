import Penguin.Client.MainLoop

/-!
When the client gives up.

The main loop is watched from outside: the errors since a connection last ended, and the pauses that
were made because of them. That the loop goes by the law of the backoff is then a statement
about these two lists.
-/

namespace Penguin.Client.Main

open Penguin.Lib.Transition Mux

/-- The error that an event brings to the retry loop, and whether it ends a connection. -/
def failure (s : Main) : Event → Option (Bool × Error)
  | .handshakeFails e => some (false, e)
  | .joinNext =>
    match s.pc with
    | .serving (.ended (.error e)) | .quitting (.ended (.error e)) => some (true, .mux e)
    | _ => none
  | .channelResult (.error e) => some (true, .mux e)
  | .channelResult .elapsed => some (true, .streamRequestTimeout)
  | .elseArm => some (true, .remoteDisconnected)
  | _ => none

/-- The result of the loop. -/
def result (s : Main) : Option (Except Error Unit) :=
  match s.pc with
  | .returned r => some r
  | _ => none

/-- The backoff that the loop asks for a pause. -/
def asked (s : Main) (lost : Bool) : Backoff := if lost then s.backoff.reset else s.backoff

section Steps

variable {s s' : Main} {ev : Event}

lemma result_of_connected (h : s.pc.connected = true) : s.result = none := by
  cases hpc : s.pc <;> simp [hpc, Pc.connected, result] at h ⊢

/-- What a step is for the retry loop: an error, or nothing, or the end for another reason. -/
inductive Tries (s s' : Main) (ev : Event) : Prop
  | fails {lost : Bool} {e : Error} (t : Main) (h : s.failure ev = some (lost, e))
      (hresult : s.result = none) (hargs : t.args = s.args) (hbackoff : t.backoff = s.asked lost)
      (hs' : s' = t.retry e)
  | keeps (h : s.failure ev = none) (hresult : s'.result = s.result) (hargs : s'.args = s.args)
      (hbackoff : s'.backoff = s.backoff)
  | ends (h : s.failure ev = none) (hresult : s.result = none)
      (hresult' : s'.result = some (.ok ()) ∨ s'.result = some (.error .handshakeCancelled))
      (hargs : s'.args = s.args) (hbackoff : s'.backoff = s.backoff)

lemma Tries.disconnected {e : Error} (t : Main) (h : s.failure ev = some (true, e))
    (hconn : s.pc.connected = true) (hargs : t.args = s.args) (hbackoff : t.backoff = s.backoff) :
    Tries s (t.disconnected e) ev :=
  .fails { t with backoff := t.backoff.reset, results := t.results ++ [.error e] } h
    (result_of_connected hconn) hargs (by simp [asked, hbackoff]) rfl

lemma note_keeps (s : Main) (task : MuxTask) (item : Item) :
    (s.note task item).result = s.result ∧ (s.note task item).args = s.args ∧
      (s.note task item).backoff = s.backoff := by
  obtain ⟨late, heq, -⟩ := note_eq s task item
  rw [heq]
  exact ⟨rfl, rfl, rfl⟩

lemma tries (hs : s.step ev = some s') : Tries s s' ev := by
  cases steps hs with
  | command | datagram | muxDatagram | takeReply => exact .keeps rfl rfl rfl rfl
  -- something fails
  | handshakeFails hpc => exact .fails s rfl (by simp [result, hpc]) rfl rfl rfl
  | lost hpc =>
      rcases hpc with hpc | hpc <;>
        exact .disconnected s (by simp [failure, hpc]) (by simp [hpc, Pc.connected]) rfl rfl
  | @channelFails task command e hpc =>
      exact .disconnected (s.park command) rfl (by simp [hpc, Pc.connected]) rfl rfl
  | @elapses task command hpc htimeout =>
      exact .disconnected (s.park command) rfl (by simp [hpc, Pc.connected]) rfl rfl
  -- the loop returns without an error, or without a connection
  | quits hpc =>
      rcases hpc with hpc | hpc <;>
        exact .ends (by simp [failure, hpc]) (by simp [result, hpc]) (.inl rfl) rfl rfl
  | ctrlCWhileWaiting hpc => exact .ends rfl (by simp [result, hpc]) (.inr rfl) rfl rfl
  -- the loop goes on
  | muxEnds hpc =>
      obtain ⟨command, hpc, rfl⟩ | ⟨hpc, rfl⟩ | ⟨hpc, rfl⟩ := hpc <;>
        exact .keeps rfl (by simp [result, hpc]) rfl rfl
  | joined hpc => exact .keeps (by simp [failure, hpc]) (by simp [result, hpc]) rfl rfl
  | unpark hpc | serve hpc | answers hpc | ctrlC hpc | retryTimer hpc =>
      exact .keeps rfl (by simp [result, hpc]) rfl rfl
  | @takeCommand task command rest hpc hcommands =>
      obtain ⟨hresult, hargs, hbackoff⟩ := note_keeps ({ s with
        commands := rest, taken := s.taken ++ [command], pc := .requesting task command } : Main)
        task (.command command)
      exact .keeps rfl (hresult.trans (by simp [result, hpc])) hargs hbackoff
  | @takeDatagram task d rest hpc hdatagrams =>
      obtain ⟨hresult, hargs, hbackoff⟩ :=
        note_keeps ({ s with datagrams := rest } : Main) task (.datagram d)
      exact .keeps rfl hresult hargs hbackoff

end Steps

/-! ### The loop, watched -/

/-- The pause that follows an error. -/
def pause (s : Main) (lost : Bool) (e : Error) : List ℕ :=
  if e.retryable then (s.asked lost).advance.2.toList else []

structure Watched where
  main : Main
  /-- The errors since a connection last ended, beginning with the one that ended it .. -/
  row : List Error
  /-- .. and the pauses that they led to. -/
  pauses : List ℕ

def Watched.new (args : ClientArgs) : Watched := ⟨Main.new args, [], []⟩

def Watched.step (w : Watched) (ev : Event) : Option Watched :=
  (w.main.step ev).map fun s =>
    match w.main.failure ev with
    | none => { w with main := s }
    | some (lost, e) =>
      { main := s
        row := (if lost then [] else w.row) ++ [e]
        pauses := (if lost then [] else w.pauses) ++ w.main.pause lost e }

/-- No handshake fails with this error, which is one of the loop. -/
def Event.foreign : Event → Bool
  | .handshakeFails (.maxRetryCountReached _) => true
  | _ => false

/-- The counter does not overflow, and a handshake does not fail with an error of the loop. -/
def Fits (w : Watched) (ev : Event) : Prop :=
  (w.main.args.maxRetryCount = 0 → w.row.length + 1 < 2 ^ 32) ∧ ev.foreign = false

instance (w : Watched) (ev : Event) : Decidable (Fits w ev) :=
  inferInstanceAs (Decidable (_ ∧ _))

/-- The `k`-th pause. -/
def interval (args : ClientArgs) (k : ℕ) : ℕ :=
  min (200000000 * 2 ^ k) (args.maxRetryInterval * 1000000)

/-- What the errors and the number of pauses say of the result. -/
inductive Verdict (args : ClientArgs) (row : List Error) (n : ℕ) :
    Option (Except Error Unit) → Prop
  | going {r : Option (Except Error Unit)}
      (hr : r = none ∨ r = some (.ok ()) ∨ r = some (.error .handshakeCancelled))
      (hn : n = row.length) (hall : ∀ e ∈ row, e.retryable = true) : Verdict args row n r
  | fatal {before : List Error} {e : Error} (hrow : row = before ++ [e])
      (hall : ∀ e ∈ before, e.retryable = true) (he : e.retryable = false)
      (hmax : ∀ e', e ≠ .maxRetryCountReached e') : Verdict args row n (some (.error e))
  | gaveUp {before : List Error} {e : Error} (hrow : row = before ++ [e])
      (hcount : args.maxRetryCount ≠ 0) (hn : before.length = args.maxRetryCount.toNat)
      (hall : ∀ e ∈ row, e.retryable = true) :
      Verdict args row n (some (.error (.maxRetryCountReached e)))

/-- What has been seen so far, with the backoff that would be asked next. -/
structure Lawful (args : ClientArgs) (backoff : Backoff) (pauses : List ℕ) : Prop where
  advanced : Backoff.Advanced 200000000 (args.maxRetryInterval * 1000000) 2 args.maxRetryCount
    backoff pauses.length
  paused : pauses = (List.range pauses.length).map (interval args)
  count : args.maxRetryCount ≠ 0 → pauses.length ≤ args.maxRetryCount.toNat

structure Inv (args : ClientArgs) (w : Watched) : Prop where
  sameArgs : w.main.args = args
  lawful : Lawful args w.main.backoff w.pauses
  verdict : Verdict args w.row w.pauses.length w.main.result

section Runs

variable {args : ClientArgs} {backoff : Backoff} {pauses : List ℕ} {row : List Error}
  {w w' : Watched} {ev : Event}

lemma Lawful.reset (h : Lawful args backoff pauses) : Lawful args backoff.reset [] :=
  ⟨h.advanced.reset, rfl, by simp⟩

/-- One more pause. -/
lemma Lawful.advance (h : Lawful args backoff pauses) (hk : pauses.length + 1 < 2 ^ 32)
    (hmore : args.maxRetryCount = 0 ∨ pauses.length < args.maxRetryCount.toNat) :
    backoff.advance.2 = some (interval args pauses.length) ∧
      Lawful args backoff.advance.1 (pauses ++ [interval args pauses.length]) := by
  obtain ⟨hout, hadvanced⟩ := h.advanced.advance hk hmore
  refine ⟨hout, ?_, ?_, fun hne => ?_⟩
  · simpa using hadvanced
  · rw [List.length_append, List.length_singleton, List.range_succ, List.map_append, ← h.paused]
    rfl
  · have hlt := hmore.resolve_left hne
    simpa using hlt

lemma Verdict.of_none {n : ℕ} (h : Verdict args row n none) :
    n = row.length ∧ ∀ e ∈ row, e.retryable = true := by
  cases h with
  | going hr hn hall => exact ⟨hn, hall⟩

lemma inv_new (args : ClientArgs) : Inv args (.new args) where
  sameArgs := rfl
  lawful := ⟨Backoff.advanced_new, rfl, by simp [Watched.new]⟩
  verdict := .going (.inl rfl) rfl (by simp [Watched.new])

/-- **An error at the retry loop**, after `row` and its pauses. -/
lemma retry_inv {t : Main} {e : Error} (hargs : t.args = args)
    (h : Lawful args t.backoff pauses) (hrow : pauses.length = row.length)
    (hall : ∀ e ∈ row, e.retryable = true)
    (hfits : args.maxRetryCount = 0 → row.length + 1 < 2 ^ 32)
    (hmax : ∀ e', e ≠ .maxRetryCountReached e') :
    Inv args ⟨t.retry e, row ++ [e],
      pauses ++ if e.retryable then t.backoff.advance.2.toList else []⟩ := by
  cases he : e.retryable with
  | false =>
      have hretry : t.retry e = { t with pc := .returned (.error e) } := by simp [retry, he]
      rw [hretry]
      exact ⟨hargs, by simpa using h, .fatal rfl hall he hmax⟩
  | true =>
      have hall' : ∀ e' ∈ row ++ [e], e'.retryable = true := by
        intro e' hmem
        rcases List.mem_append.mp hmem with hmem | hmem
        · exact hall e' hmem
        · obtain rfl := List.mem_singleton.mp hmem
          exact he
      by_cases hmore : args.maxRetryCount = 0 ∨ pauses.length < args.maxRetryCount.toNat
      · have hk : pauses.length + 1 < 2 ^ 32 := by
          rcases hmore with hzero | hlt
          · have := hfits hzero
            omega
          · have := args.maxRetryCount.toNat_lt
            omega
        obtain ⟨hout, hlawful⟩ := h.advance hk hmore
        have hretry : t.retry e = { t with backoff := t.backoff.advance.1, pc := .waiting } := by
          rcases hadvance : t.backoff.advance with ⟨backoff, _ | d⟩
          · rw [hadvance] at hout
            cases hout
          · simp [retry, he, hadvance]
        rw [hretry, if_pos rfl, hout]
        refine ⟨hargs, hlawful, .going (.inl rfl) (by simp [hrow]) hall'⟩
      · have hnone : t.backoff.advance = (t.backoff, none) := h.advanced.advance_of_exhausted hmore
        have hretry :
            t.retry e = { t with pc := .returned (.error (.maxRetryCountReached e)) } := by
          simp [retry, he, hnone]
        obtain ⟨hcount, hle⟩ := not_or.mp hmore
        rw [hretry, hnone]
        refine ⟨hargs, by simpa using h, .gaveUp rfl hcount ?_ hall'⟩
        have hbound := h.count hcount
        omega

lemma failure_ne {s : Main} {lost : Bool} {e : Error} (h : s.failure ev = some (lost, e))
    (hmax : ev.foreign = false) (e' : Error) : e ≠ .maxRetryCountReached e' := by
  rintro rfl
  cases ev with
  | handshakeFails err =>
      obtain ⟨-, rfl⟩ : false = lost ∧ err = .maxRetryCountReached e' := by simpa [failure] using h
      cases hmax
  | joinNext =>
      simp only [failure] at h
      split at h <;> simp at h
  | channelResult r => cases r <;> simp [failure] at h
  | _ => simp [failure] at h

lemma Inv.step (hok : Fits w ev) (h : Inv args w) (hs : w.step ev = some w') : Inv args w' := by
  obtain ⟨s, hmain, rfl⟩ := Option.map_eq_some_iff.mp hs
  obtain ⟨hargs, hlawful, hverdict⟩ := h
  obtain ⟨hfits, hmax⟩ := hok
  rw [hargs] at hfits
  cases tries hmain with
  | @fails lost e t hfailure hresult hargs' hbackoff hs' =>
      rw [hresult] at hverdict
      obtain ⟨hrow, hall⟩ := hverdict.of_none
      have hne := failure_ne hfailure hmax
      subst hs'
      simp only [hfailure, pause, ← hbackoff]
      cases lost with
      | false =>
          have hbase : Lawful args t.backoff w.pauses := hbackoff ▸ hlawful
          exact retry_inv (hargs'.trans hargs) hbase hrow hall hfits hne
      | true =>
          -- There was a connection: the count starts anew.
          have hbase : Lawful args t.backoff [] := hbackoff ▸ hlawful.reset
          exact retry_inv (hargs'.trans hargs) hbase rfl (by simp) (by simp) hne
  | keeps hfailure hresult hargs' hbackoff =>
      simp only [hfailure]
      exact ⟨hargs'.trans hargs, hbackoff ▸ hlawful, hresult ▸ hverdict⟩
  | ends hfailure hresult hresult' hargs' hbackoff =>
      rw [hresult] at hverdict
      obtain ⟨hrow, hall⟩ := hverdict.of_none
      simp only [hfailure]
      exact ⟨hargs'.trans hargs, hbackoff ▸ hlawful, .going (.inr hresult') hrow hall⟩

/-- **When the client gives up.** The pauses since a connection last ended follow the law of the
backoff. The loop returns because there were too many errors if and only if there were
`max_retry_count` and one more in a row, all of them worth another try; the last one is named. One
that is not worth it is returned at once, and while the loop goes on every error has had its
pause. -/
theorem gives_up_iff (h : Reach Watched.step Fits (.new args) w) :
    w.pauses = (List.range w.pauses.length).map (interval args) ∧
      (∀ e, w.main.result = some (.error (.maxRetryCountReached e)) ↔
        args.maxRetryCount ≠ 0 ∧ w.row.length = args.maxRetryCount.toNat + 1 ∧
          w.row.getLast? = some e ∧ ∀ e' ∈ w.row, e'.retryable = true) ∧
      (∀ e ∈ w.row, e.retryable = false →
        w.main.result = some (.error e) ∧ w.row.getLast? = some e) ∧
      (w.main.result = none → w.pauses.length = w.row.length ∧
        (args.maxRetryCount ≠ 0 → w.row.length ≤ args.maxRetryCount.toNat)) := by
  have hinv : Inv args w := h.invariant (inv_new args) fun _ _ _ hI hok hs => hI.step hok hs
  obtain ⟨-, hlawful, hverdict⟩ := hinv
  refine ⟨hlawful.paused, fun e => ?_, fun e hmem he => ?_, fun hnone => ?_⟩
  · generalize hr : w.main.result = r at hverdict
    cases hverdict with
    | going hres hn hall =>
        refine iff_of_false (by rcases hres with rfl | rfl | rfl <;> simp) ?_
        rintro ⟨hcount, hlen, -⟩
        have := hlawful.count hcount
        omega
    | @fatal before e' hrow hall he hmax =>
        refine iff_of_false (by simpa using hmax e) ?_
        rintro ⟨-, -, -, hall'⟩
        have := hall' e' (by simp [hrow])
        simp [he] at this
    | @gaveUp before e' hrow hcount hn hall =>
        have hlast : w.row.getLast? = some e' := by simp [hrow]
        have hlen : w.row.length = args.maxRetryCount.toNat + 1 := by simp [hrow, hn]
        rw [hlast]
        constructor
        · intro h
          obtain rfl : e' = e := by simpa using h
          exact ⟨hcount, hlen, rfl, hall⟩
        · rintro ⟨-, -, h, -⟩
          obtain rfl := Option.some.inj h
          rfl
  · generalize hr : w.main.result = r at hverdict
    have habsurd : ¬ ∀ e ∈ w.row, e.retryable = true := fun hall => by simp [hall e hmem] at he
    cases hverdict with
    | going hres hn hall => exact absurd hall habsurd
    | @fatal before e' hrow hall he' hmax =>
        have hmem' : e ∈ before ∨ e = e' := by simpa [hrow] using hmem
        rcases hmem' with hmem' | rfl
        · simp [hall e hmem'] at he
        · exact ⟨rfl, by simp [hrow]⟩
    | gaveUp hrow hcount hn hall => exact absurd hall habsurd
  · rw [hnone] at hverdict
    obtain ⟨hrow, -⟩ := hverdict.of_none
    exact ⟨hrow, fun hcount => hrow ▸ hlawful.count hcount⟩

/-- Three refusals, where two are tried again. -/
theorem gives_up_iff_refused : ∃ w, run Watched.step (.new ⟨300, 2, true, true⟩)
      [.handshakeFails (.tungstenite (.io .connectionRefused)), .retryTimer,
        .handshakeFails .handshakeTimeout, .retryTimer,
        .handshakeFails (.tungstenite (.io .connectionRefused))] = some w ∧
    w.main.result =
      some (.error (.maxRetryCountReached (.tungstenite (.io .connectionRefused)))) ∧
    w.pauses = [200000000, 300000000] := by
  obtain ⟨w, hw, hrow⟩ : ∃ w, run Watched.step (.new ⟨300, 2, true, true⟩)
      [.handshakeFails (.tungstenite (.io .connectionRefused)), .retryTimer,
        .handshakeFails .handshakeTimeout, .retryTimer,
        .handshakeFails (.tungstenite (.io .connectionRefused))] = some w ∧
      w.row = [.tungstenite (.io .connectionRefused), .handshakeTimeout,
        .tungstenite (.io .connectionRefused)] ∧ w.pauses.length = 2 := ⟨_, rfl, rfl, rfl⟩
  have hreach : Reach Watched.step Fits (.new ⟨300, 2, true, true⟩) w :=
    reach_of_run hw (by decide)
  obtain ⟨hpauses, hiff, -⟩ := gives_up_iff hreach
  refine ⟨w, hw, (hiff _).mpr ⟨by decide, by simp [hrow.1], by simp [hrow.1], ?_⟩, ?_⟩
  · simp [hrow.1, Error.retryable, TungsteniteError.retryable, IoErrorKind.retryable]
  · rw [hpauses, hrow.2]
    rfl

end Runs

end Penguin.Client.Main
