import Penguin.Lib.Loop
import Penguin.Lib.Reading
import Penguin.Mux.Endpoint

/-!
Forwarding the standard input over UDP.

Every line becomes a datagram. At the end of the input there is an empty line to read, again and
again; the loop does not look at how much was read.
-/

namespace Penguin.Client.UdpStdio

open Penguin.Lib.Loop Penguin.Lib.Reading Penguin.Mux

inductive FatalError
  | clientIo
  | sendDatagram
  deriving DecidableEq, Repr

def IsUtf8 (line : Bytes) : Prop := (ByteArray.mk line.toArray).validateUTF8 = true

instance (line : Bytes) : Decidable (IsUtf8 line) := inferInstanceAs (Decidable (_ = true))

/-- `AsyncBufReadExt::read_line` into an empty string, with what is left of the input. -/
def readLine (stdin : Bytes) : Except FatalError (Bytes × Bytes) :=
  let (line, rest) := through 10 stdin
  if IsUtf8 line then .ok (line, rest) else .error .clientIo

def frame (rhost : Bytes) (rport : UInt16) (line : Bytes) : Datagram where
  flowId := 0
  targetHost := rhost
  targetPort := rport
  data := line

/-- An iteration, with what is left of the input and the datagrams sent so far. Whether the main
loop still receives may change from one to the next. -/
def handleUdpStdioBody (receives : List Datagram → Bool) (rhost : Bytes) (rport : UInt16)
    (x : Bytes × List Datagram) :
    (Bytes × List Datagram) ⊕ (Except FatalError Unit × List Datagram) :=
  let (stdin, sent) := x
  match readLine stdin with
  | .error e => .inr (.error e, sent)
  | .ok (line, rest) =>
    if receives sent then .inl (rest, sent ++ [frame rhost rport line])
    else .inr (.error .sendDatagram, sent)

/-- `handle_udp_stdio`, for at most `n` iterations: what it returns and what it has sent. -/
def handleUdpStdio (receives : List Datagram → Bool) (rhost : Bytes) (rport : UInt16) (n : ℕ)
    (stdin : Bytes) : Option (Except FatalError Unit × List Datagram) :=
  loop (handleUdpStdioBody receives rhost rport) n (stdin, [])

/-! ### Lines -/

/-- The lines of an input, with their newlines; the last one may be without. -/
def lines : Bytes → List Bytes
  | [] => []
  | b :: stdin =>
    if b = 10 then [b] :: lines stdin
    else
      match lines stdin with
      | [] => [[b]]
      | line :: rest => (b :: line) :: rest

lemma lines_eq_cons {stdin : Bytes} (h : stdin ≠ []) :
    lines stdin = (through 10 stdin).1 :: lines (through 10 stdin).2 := by
  induction stdin with
  | nil => exact absurd rfl h
  | cons b stdin ih =>
      by_cases hb : b = 10
      · simp [lines, through, hb]
      · cases stdin with
        | nil => simp [lines, through, hb]
        | cons c stdin =>
            have ih := ih (List.cons_ne_nil c stdin)
            rw [lines, if_neg hb, ih]
            simp [through, hb]

/-! ### The loop -/

variable {rhost : Bytes} {rport : UInt16} {stdin rest : Bytes} {sent : List Datagram}

/-- The main loop receives every datagram. -/
abbrev Always : List Datagram → Bool := fun _ => true

lemma body_of_utf8 (h : IsUtf8 (through 10 stdin).1) :
    handleUdpStdioBody Always rhost rport (stdin, sent) =
      .inl ((through 10 stdin).2,
        sent ++ [frame rhost rport (through 10 stdin).1]) := by
  simp [handleUdpStdioBody, readLine, h]

lemma body_of_not_utf8 (h : ¬ IsUtf8 (through 10 stdin).1) :
    handleUdpStdioBody Always rhost rport (stdin, sent) = .inr (.error .clientIo, sent) := by
  simp [handleUdpStdioBody, readLine, h]

lemma isUtf8_nil : IsUtf8 [] := by decide

/-- **At the end of the input** every iteration sends an empty datagram. -/
lemma body_nil : handleUdpStdioBody Always rhost rport ([], sent) =
    .inl ([], sent ++ [frame rhost rport []]) :=
  body_of_utf8 isUtf8_nil

/-- Until the end of the input there is a datagram for every line that was read. -/
def Forwarded (rhost : Bytes) (rport : UInt16) (stdin : Bytes) (x : Bytes × List Datagram) :
    Prop :=
  x.1 = [] ∨ ∃ read, lines stdin = read ++ lines x.1 ∧ x.2 = read.map (frame rhost rport)

lemma Forwarded.next {x x' : Bytes × List Datagram} (h : Forwarded rhost rport stdin x)
    (hb : handleUdpStdioBody Always rhost rport x = .inl x') : Forwarded rhost rport stdin x' := by
  obtain ⟨rest, sent⟩ := x
  by_cases hrest : rest = []
  · rw [hrest, body_nil] at hb
    cases hb
    exact .inl rfl
  · rcases h with h | ⟨read, hread, hsent⟩
    · exact absurd h hrest
    dsimp only at hread hsent
    by_cases hutf : IsUtf8 (through 10 rest).1
    · rw [body_of_utf8 hutf] at hb
      cases hb
      refine .inr ⟨read ++ [(through 10 rest).1], ?_, ?_⟩
      · rw [hread, lines_eq_cons hrest]
        simp
      · simp [hsent]
    · rw [body_of_not_utf8 hutf] at hb
      cases hb

/-- A line that is not UTF-8 ends the loop, and is not sent. -/
lemma Forwarded.leave {x : Bytes × List Datagram} {r : Except FatalError Unit × List Datagram}
    (h : Forwarded rhost rport stdin x) (hb : handleUdpStdioBody Always rhost rport x = .inr r) :
    r.2.length < (lines stdin).length := by
  obtain ⟨rest, sent⟩ := x
  have hutf : ¬ IsUtf8 (through 10 rest).1 := by
    intro hutf
    rw [body_of_utf8 hutf] at hb
    cases hb
  have hrest : rest ≠ [] := by
    rintro rfl
    exact hutf isUtf8_nil
  rw [body_of_not_utf8 hutf] at hb
  cases hb
  rcases h with h | ⟨read, hread, hsent⟩
  · exact absurd h hrest
  dsimp only at hread hsent
  rw [hread, lines_eq_cons hrest, hsent]
  simp

/-- **The standard input is not forwarded as it should be**, whatever it is: with a datagram for
every line, the function does not return. -/
theorem handleUdpStdio_never (rhost : Bytes) (rport : UInt16) (stdin : Bytes) :
    ¬ ∃ n r, handleUdpStdio Always rhost rport n stdin =
      some (r, (lines stdin).map (frame rhost rport)) := by
  rintro ⟨n, r, h⟩
  have hstart : Forwarded rhost rport stdin (stdin, []) := .inr ⟨[], rfl, rfl⟩
  have hlt := loop_invariant (I := Forwarded rhost rport stdin)
    (Q := fun r => r.2.length < (lines stdin).length)
    (fun _ _ => Forwarded.next) (fun _ _ => Forwarded.leave) hstart h
  simp at hlt

/-- It does not return at all unless there is a line that is not UTF-8. -/
theorem handleUdpStdio_eq_none (rhost : Bytes) (rport : UInt16) (n : ℕ) {stdin : Bytes}
    (h : ∀ line ∈ lines stdin, IsUtf8 line) :
    handleUdpStdio Always rhost rport n stdin = none := by
  refine loop_eq_none (I := fun x => ∀ line ∈ lines x.1, IsUtf8 line) ?_ h
  rintro ⟨rest, sent⟩ hrest
  by_cases hnil : rest = []
  · rw [hnil]
    exact ⟨_, body_nil, nofun⟩
  · rw [lines_eq_cons hnil] at hrest
    exact ⟨_, body_of_utf8 (hrest _ (by simp)), fun line hline => hrest line (by simp [hline])⟩

theorem handleUdpStdio_empty_input :
    ¬ ∃ n r, handleUdpStdio Always [] 53 n [] = some (r, (lines []).map (frame [] 53)) := by
  rintro ⟨n, r, h⟩
  have hutf : ∀ line ∈ lines [], IsUtf8 line := nofun
  rw [handleUdpStdio_eq_none [] 53 n hutf] at h
  cases h

end Penguin.Client.UdpStdio
