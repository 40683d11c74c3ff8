import Penguin.Lib.Utf8
import Penguin.Lib.Loop

/-!
The specification of a remote on the command line.

A specification is cut into tokens at its colons, where an IPv6 address in brackets is one token;
which tokens there are decides what they mean. The text is any text. Cutting it at an offset that
is behind its end, or inside a character, is a panic.
-/

namespace Penguin.Client.ParseRemote

open Penguin.Lib.Utf8 Penguin.Lib.Loop

inductive LocalSpec
  | inet (host : Text) (port : UInt16)
  | stdio
  deriving DecidableEq, Repr

inductive RemoteSpec
  | inet (host : Text) (port : UInt16)
  | socks
  deriving DecidableEq, Repr

inductive Protocol
  | tcp
  | udp
  deriving DecidableEq, Repr

structure Remote where
  localAddr : LocalSpec
  remoteAddr : RemoteSpec
  protocol : Protocol
  deriving DecidableEq, Repr

inductive IntErrorKind
  | empty
  | invalidDigit
  | posOverflow
  deriving DecidableEq, Repr

inductive Error
  | format
  | protocol
  | host
  | port (e : IntErrorKind)
  | udpSocks
  deriving DecidableEq, Repr

/-- What else than a result can come of a call: an error, a panic, or nothing. -/
inductive Fault
  | err (e : Error)
  | panic
  | diverge
  deriving DecidableEq, Repr

/-- The slices at an offset. -/
def cutOrPanic (i : ℕ) (s : Text) : Except Fault (Text × Text) :=
  match cut i s with
  | some x => .ok x
  | none => .error .panic

/-! ### Parts of a specification -/

/-- `default_host!(local)`; the feature is `default-is-ipv6`. -/
def defaultHostLocal (defaultIsIpv6 : Bool) : Text :=
  if defaultIsIpv6 then "::1".toList else "127.0.0.1".toList

/-- `default_host!(unspec)`. -/
def defaultHostUnspec (defaultIsIpv6 : Bool) : Text :=
  if defaultIsIpv6 then "::".toList else "0.0.0.0".toList

/-- `Protocol::from_str`. No character outside ASCII has one of these letters as its lower case. -/
def protocolFromStr (s : Text) : Except Fault Protocol :=
  let lower := s.map Char.toLower
  if lower = "tcp".toList then .ok .tcp
  else if lower = "udp".toList then .ok .udp
  else .error (.err .protocol)

/-- The digits of `u16::from_str`, after a sign. -/
def parseDigits : ℕ → Text → Except IntErrorKind ℕ
  | n, [] => .ok n
  | n, c :: s =>
    if c.isDigit then
      let n := 10 * n + (c.toNat - '0'.toNat)
      if n < 65536 then parseDigits n s else .error .posOverflow
    else .error .invalidDigit

/-- `u16::from_str`. -/
def parseU16 (s : Text) : Except Fault UInt16 :=
  let digits : Except IntErrorKind ℕ :=
    match s with
    | [] => .error .empty
    | ['+'] => .error .invalidDigit
    | '+' :: s => parseDigits 0 s
    | s => parseDigits 0 s
  match digits with
  | .ok n => .ok (UInt16.ofNat n)
  | .error e => .error (.err (.port e))

def removeBrackets (s : Text) : Except Fault Text :=
  if s.head? = some '[' ∧ s.getLast? = some ']' then do
    let (s, _) ← cutOrPanic (size s - 1) s
    let (_, s) ← cutOrPanic 1 s
    return s
  else return s

/-! ### Tokens -/

/-- An iteration of `tokenize_remote`, with the tokens so far and the rest of the text. -/
def tokenizeBody (x : List Text × Text) : (List Text × Text) ⊕ Except Fault (List Text) :=
  let (tokens, stuff) := x
  if stuff.head? = some '[' then
    match find ']' stuff with
    | none => .inr (.error (.err .host))
    | some i =>
      let stop := i + 1
      match cutOrPanic stop stuff with
      | .error e => .inr (.error e)
      | .ok (token, behind) =>
        if behind ≠ [] ∧ behind.head? ≠ some ':' then .inr (.error (.err .format))
        else
          match cutOrPanic (stop + 1) stuff with
          | .error e => .inr (.error e)
          | .ok (_, rest) => .inl (tokens ++ [token], rest)
  else
    match splitOnce ':' stuff with
    | some (token, rest) => .inl (tokens ++ [token], rest)
    | none => .inr (.ok (tokens ++ [stuff]))

/-- `tokenize_remote`; every iteration takes a character off the text. -/
def tokenizeRemote (s : Text) : Except Fault (List Text) :=
  (loop tokenizeBody (s.length + 1) ([], s)).getD (.error .diverge)

/-! ### Specifications -/

/-- The local and the remote side for the tokens. -/
def sides (defaultIsIpv6 : Bool) (tokens : List Text) : Except Fault (LocalSpec × RemoteSpec) :=
  let lo := defaultHostLocal defaultIsIpv6
  let unspec := defaultHostUnspec defaultIsIpv6
  let socks := "socks".toList
  let stdio := "stdio".toList
  match tokens with
  | [port] =>
    if port = socks then return (.inet lo 1080, .socks)
    else return (.inet unspec (← parseU16 port), .inet lo (← parseU16 port))
  | [a, b] =>
    if a = stdio ∧ b = socks then return (.stdio, .socks)
    else if b = socks then return (.inet lo (← parseU16 a), .socks)
    else if a = stdio then return (.stdio, .inet lo (← parseU16 b))
    else return (.inet unspec (← parseU16 b), .inet (← removeBrackets a) (← parseU16 b))
  | [a, b, c] =>
    if a = stdio then return (.stdio, .inet (← removeBrackets b) (← parseU16 c))
    else if c = socks then return (.inet (← removeBrackets a) (← parseU16 b), .socks)
    else return (.inet unspec (← parseU16 a), .inet (← removeBrackets b) (← parseU16 c))
  | [a, b, c, d] =>
    return (.inet (← removeBrackets a) (← parseU16 b), .inet (← removeBrackets c) (← parseU16 d))
  | _ => throw (.err .format)

/-- The specification without its protocol, and the protocol. -/
def splitProtocol (s : Text) : Except Fault (Text × Protocol) :=
  match rsplitOnce '/' s with
  | some (rest, proto) => do return (rest, ← protocolFromStr proto)
  | none => return (s, .tcp)

/-- `Remote::from_str`. -/
def fromStr (defaultIsIpv6 : Bool) (s : Text) : Except Fault Remote := do
  let (rest, proto) ← splitProtocol s
  let tokens ← tokenizeRemote rest
  let (localAddr, remoteAddr) ← sides defaultIsIpv6 tokens
  if remoteAddr = .socks ∧ proto = .udp then throw (.err .udpSocks)
  return ⟨localAddr, remoteAddr, proto⟩

/-! ### One iteration of the tokenizer -/

/-- A token without brackets. -/
def IsPlain (t : Text) : Prop := ':' ∉ t ∧ t.head? ≠ some '['

/-- A token that is a host in brackets. -/
def IsBracketed (t : Text) : Prop := ∃ inside, ']' ∉ inside ∧ t = '[' :: inside ++ [']']

def IsToken (t : Text) : Prop := IsPlain t ∨ IsBracketed t

variable {tokens : List Text} {s t rest : Text}

lemma tokenizeBody_last (h : IsPlain t) :
    tokenizeBody (tokens, t) = .inr (.ok (tokens ++ [t])) := by
  simp [tokenizeBody, h.2, splitOnce_of_not_mem h.1]

lemma tokenizeBody_plain (h : IsPlain t) :
    tokenizeBody (tokens, t ++ ':' :: rest) = .inl (tokens ++ [t], rest) := by
  have hhead : ¬ (t ++ ':' :: rest).head? = some '[' := by
    cases t with
    | nil => simp
    | cons c t => simpa using h.2
  simp only [tokenizeBody, if_neg hhead, splitOnce_append h.1]

/-- The offsets behind a host in brackets. -/
lemma cut_bracketed (h : IsBracketed t) (rest : Text) :
    ∃ i, find ']' (t ++ rest) = some i ∧ cut (i + 1) (t ++ rest) = some (t, rest) ∧
      i + 1 = size t ∧ (t ++ rest).head? = some '[' := by
  obtain ⟨inside, hin, rfl⟩ := h
  have hnot : ']' ∉ '[' :: inside := by simp [hin]
  have hsize : size ('[' :: inside) + 1 = size ('[' :: inside ++ [']']) := by
    rw [size_append]
    rfl
  refine ⟨size ('[' :: inside), ?_, ?_, hsize, rfl⟩
  · rw [List.append_assoc]
    exact find_append hnot rest
  · rw [hsize]
    exact cut_append _ _

lemma tokenizeBody_bracketed (h : IsBracketed t) :
    tokenizeBody (tokens, t ++ ':' :: rest) = .inl (tokens ++ [t], rest) := by
  obtain ⟨i, hfind, hcut, hi, hhead⟩ := cut_bracketed h (':' :: rest)
  have hsize : i + 1 + 1 = size (t ++ [':']) := by
    rw [hi, size_append]
    rfl
  have hnext : cut (i + 1 + 1) (t ++ ':' :: rest) = some (t ++ [':'], rest) := by
    rw [hsize, List.append_cons t ':' rest]
    exact cut_append _ _
  simp [tokenizeBody, hhead, hfind, cutOrPanic, hcut, hnext]

lemma tokenizeBody_next (h : IsToken t) :
    tokenizeBody (tokens, t ++ ':' :: rest) = .inl (tokens ++ [t], rest) := by
  rcases h with h | h
  · exact tokenizeBody_plain h
  · exact tokenizeBody_bracketed h

/-- There is nothing to skip behind a host in brackets at the end. -/
lemma tokenizeBody_panic (h : IsBracketed t) :
    tokenizeBody (tokens, t) = .inr (.error .panic) := by
  obtain ⟨i, hfind, hcut, hi, hhead⟩ := cut_bracketed h []
  rw [List.append_nil] at hfind hcut hhead
  have hnext : cut (i + 1 + 1) t = none := cut_of_lt (by omega)
  simp [tokenizeBody, hhead, hfind, cutOrPanic, hcut, hnext]

lemma tokenizeBody_format {c : Char} (h : IsBracketed t) (hc : c ≠ ':') :
    tokenizeBody (tokens, t ++ c :: rest) = .inr (.error (.err .format)) := by
  obtain ⟨i, hfind, hcut, hi, hhead⟩ := cut_bracketed h (c :: rest)
  simp [tokenizeBody, hhead, hfind, cutOrPanic, hcut, hc]

lemma tokenizeBody_host {inside : Text} (h : ']' ∉ inside) :
    tokenizeBody (tokens, '[' :: inside) = .inr (.error (.err .host)) := by
  have hnot : ']' ∉ '[' :: inside := by simp [h]
  simp [tokenizeBody, find_of_not_mem hnot]

/-- What an iteration of the tokenizer can find: a token with a colon behind it, one token up to
the end, or a bracket that is not closed or has other text behind it. -/
inductive Iterates (tokens : List Text) :
    Text → (List Text × Text) ⊕ Except Fault (List Text) → Prop
  | next {t rest : Text} (h : IsToken t) :
      Iterates tokens (t ++ ':' :: rest) (.inl (tokens ++ [t], rest))
  | last {t : Text} (h : IsPlain t) : Iterates tokens t (.inr (.ok (tokens ++ [t])))
  | panic {t : Text} (h : IsBracketed t) : Iterates tokens t (.inr (.error .panic))
  | host {inside : Text} (h : ']' ∉ inside) :
      Iterates tokens ('[' :: inside) (.inr (.error (.err .host)))
  | format {t rest : Text} {c : Char} (h : IsBracketed t) (hc : c ≠ ':') :
      Iterates tokens (t ++ c :: rest) (.inr (.error (.err .format)))

lemma iterates_bracket (tokens : List Text) (inside : Text) :
    Iterates tokens ('[' :: inside) (tokenizeBody (tokens, '[' :: inside)) := by
  by_cases hmem : ']' ∈ inside
  · obtain ⟨host, behind, rfl, hhost⟩ := List.eq_append_cons_of_mem hmem
    have ht : IsBracketed ('[' :: host ++ [']']) := ⟨host, hhost, rfl⟩
    have hs : '[' :: (host ++ ']' :: behind) = ('[' :: host ++ [']']) ++ behind := by simp
    rw [hs]
    cases behind with
    | nil =>
        rw [List.append_nil, tokenizeBody_panic ht]
        exact .panic ht
    | cons c rest =>
        by_cases hc : c = ':'
        · subst hc
          rw [tokenizeBody_next (.inr ht)]
          exact .next (.inr ht)
        · rw [tokenizeBody_format ht hc]
          exact .format ht hc
  · rw [tokenizeBody_host hmem]
    exact .host hmem

/-- **One iteration of the tokenizer.** -/
theorem iterates (tokens : List Text) (s : Text) :
    Iterates tokens s (tokenizeBody (tokens, s)) := by
  by_cases hhead : s.head? = some '['
  · obtain ⟨inside, rfl⟩ : ∃ inside, s = '[' :: inside := by
      cases s with
      | nil => cases hhead
      | cons c s => exact ⟨s, by simpa using hhead⟩
    exact iterates_bracket tokens inside
  · by_cases hmem : ':' ∈ s
    · obtain ⟨t, rest, rfl, ht⟩ := List.eq_append_cons_of_mem hmem
      have hplain : IsPlain t := by
        refine ⟨ht, ?_⟩
        cases t with
        | nil => decide
        | cons c t => simpa using hhead
      rw [tokenizeBody_next (.inl hplain)]
      exact .next (.inl hplain)
    · rw [tokenizeBody_last ⟨hmem, hhead⟩]
      exact .last ⟨hmem, hhead⟩

/-- The loop goes on behind a token and its colon only. -/
lemma tokenizeBody_inl {x x' : List Text × Text} (hb : tokenizeBody x = .inl x') :
    ∃ t, IsToken t ∧ x.2 = t ++ ':' :: x'.2 ∧ x'.1 = x.1 ++ [t] := by
  obtain ⟨tokens, stuff⟩ := x
  have hi := iterates tokens stuff
  rw [hb] at hi
  cases hi with
  | @next t rest ht => exact ⟨t, ht, rfl, rfl⟩

/-! ### Whole texts -/

/-- Tokens with a colon behind each, before the rest of a text. -/
def join (tokens : List Text) (rest : Text) : Text :=
  tokens.foldr (fun t s => t ++ ':' :: s) rest

/-- The last token of a text is a host in brackets. -/
def EndsInBrackets (s : Text) : Prop :=
  ∃ tokens last, (∀ t ∈ tokens, IsToken t) ∧ IsBracketed last ∧ s = join tokens last

lemma join_append (tokens : List Text) (t rest : Text) :
    join (tokens ++ [t]) rest = join tokens (t ++ ':' :: rest) := by
  simp [join]

/-- The tokens so far and the rest of the text make up the text. -/
def Split (s : Text) (x : List Text × Text) : Prop :=
  (∀ t ∈ x.1, IsToken t) ∧ s = join x.1 x.2

lemma Split.next {x x' : List Text × Text} (h : Split s x) (hb : tokenizeBody x = .inl x') :
    Split s x' := by
  obtain ⟨t, ht, hs, htokens⟩ := tokenizeBody_inl hb
  rw [Split, htokens]
  refine ⟨?_, ?_⟩
  · intro u hu
    rcases List.mem_append.1 hu with hu | hu
    · exact h.1 u hu
    · rwa [List.mem_singleton.1 hu]
  · rw [join_append, ← hs]
    exact h.2

/-- The tokenizer comes to an end, with what an iteration leaves the loop with. -/
lemma tokenizeRemote_eq (s : Text) :
    loop tokenizeBody (s.length + 1) ([], s) = some (tokenizeRemote s) := by
  have hsome : (loop tokenizeBody (s.length + 1) ([], s)).isSome = true := by
    refine loop_isSome (I := fun _ => True) (fun x => x.2.length) ?_ trivial (Nat.lt_succ_self _)
    intro x x' _ hb
    obtain ⟨t, -, hs, -⟩ := tokenizeBody_inl hb
    refine ⟨trivial, ?_⟩
    rw [hs]
    simp
    omega
  obtain ⟨r, hr⟩ := Option.isSome_iff_exists.1 hsome
  rw [tokenizeRemote, hr]
  rfl

lemma tokenizeBody_ne_diverge (x : List Text × Text) :
    tokenizeBody x ≠ .inr (.error .diverge) := by
  obtain ⟨tokens, stuff⟩ := x
  intro hb
  have hi := iterates tokens stuff
  rw [hb] at hi
  cases hi

lemma tokenizeRemote_ne_diverge (s : Text) : tokenizeRemote s ≠ .error .diverge := by
  refine loop_invariant (I := fun _ => True) (Q := fun r => r ≠ .error .diverge)
    (fun _ _ _ _ => trivial) ?_ trivial (tokenizeRemote_eq s)
  intro x r _ hb hr
  exact tokenizeBody_ne_diverge x (hr ▸ hb)

/-- What the tokenizer gives is what its last iteration leaves the loop with. -/
lemma exists_split {r : Except Fault (List Text)} (h : tokenizeRemote s = r) :
    ∃ tokens rest, Split s (tokens, rest) ∧ tokenizeBody (tokens, rest) = .inr r := by
  have hstart : Split s ([], s) := ⟨by simp, rfl⟩
  have hlast := loop_invariant (I := Split s)
    (Q := fun r => ∃ tokens rest, Split s (tokens, rest) ∧ tokenizeBody (tokens, rest) = .inr r)
    (fun _ _ => Split.next) (fun x r hx hb => ⟨x.1, x.2, hx, hb⟩) hstart (tokenizeRemote_eq s)
  rwa [h] at hlast

lemma loop_join {n : ℕ} {left : List Text} {r : Except Fault (List Text)}
    (hb : tokenizeBody (tokens ++ left, rest) = .inr r)
    (hleft : ∀ t ∈ left, IsToken t) (hn : left.length < n) :
    loop tokenizeBody n (tokens, join left rest) = some r := by
  induction left generalizing n tokens with
  | nil =>
      obtain ⟨n, rfl⟩ : ∃ k, n = k + 1 := ⟨n - 1, by simp at hn; omega⟩
      rw [List.append_nil] at hb
      exact loop_of_inr hb
  | cons t left ih =>
      obtain ⟨n, rfl⟩ : ∃ k, n = k + 1 := ⟨n - 1, by simp at hn; omega⟩
      have ht : IsToken t := hleft t (by simp)
      have hbody : tokenizeBody (tokens, join (t :: left) rest) =
          .inl (tokens ++ [t], join left rest) := tokenizeBody_next ht
      rw [loop_of_inl hbody]
      refine ih ?_ (fun u hu => hleft u (by simp [hu])) (by simpa using hn)
      rwa [List.append_assoc]

lemma length_le_join (tokens : List Text) (rest : Text) :
    tokens.length ≤ (join tokens rest).length := by
  induction tokens with
  | nil => simp
  | cons t tokens ih =>
      simp only [join, List.foldr_cons, List.length_append, List.length_cons] at ih ⊢
      omega

lemma tokenizeRemote_of_split {r : Except Fault (List Text)} (h : Split s (tokens, rest))
    (hb : tokenizeBody (tokens, rest) = .inr r) : tokenizeRemote s = r := by
  obtain ⟨htokens, hs⟩ := h
  dsimp only at htokens hs
  have hn := length_le_join tokens rest
  have hb : tokenizeBody ([] ++ tokens, rest) = .inr r := hb
  have hloop := loop_join hb htokens
    (by omega : _ < (join tokens rest).length + 1)
  rw [← hs, tokenizeRemote_eq] at hloop
  exact Option.some.inj hloop

/-- **When the tokenizer panics.** -/
theorem tokenizeRemote_panic_iff (s : Text) :
    tokenizeRemote s = .error .panic ↔ EndsInBrackets s := by
  constructor
  · intro h
    obtain ⟨tokens, rest, ⟨htokens, hs⟩, hb⟩ := exists_split h
    have hi := iterates tokens rest
    rw [hb] at hi
    cases hi with
    | panic hlast => exact ⟨tokens, rest, htokens, hlast, hs⟩
  · rintro ⟨tokens, last, htokens, hlast, hs⟩
    exact tokenizeRemote_of_split ⟨htokens, hs⟩ (tokenizeBody_panic hlast)

/-! ### Tokens of a text -/

/-- The tokens of a text, with a colon between each and the next; the last has no brackets. -/
lemma tokenizeRemote_ok_iff (s : Text) (tokens : List Text) :
    tokenizeRemote s = .ok tokens ↔
      ∃ left last, (∀ t ∈ left, IsToken t) ∧ IsPlain last ∧ tokens = left ++ [last] ∧
        s = join left last := by
  constructor
  · intro h
    obtain ⟨left, rest, ⟨hleft, hs⟩, hb⟩ := exists_split h
    have hi := iterates left rest
    rw [hb] at hi
    cases hi with
    | last hlast => exact ⟨left, rest, hleft, hlast, rfl, hs⟩
  · rintro ⟨left, last, hleft, hlast, rfl, hs⟩
    exact tokenizeRemote_of_split ⟨hleft, hs⟩ (tokenizeBody_last hlast)

lemma intercalate_append (left : List Text) (last : Text) :
    [':'].intercalate (left ++ [last]) = join left last := by
  induction left with
  | nil => simp [join]
  | cons t left ih =>
      have hne : left ++ [last] ≠ [] := by simp
      obtain ⟨u, rest, hu⟩ := List.exists_cons_of_ne_nil hne
      rw [List.cons_append, hu, List.intercalate_cons_cons, ← hu, ih]
      simp [join]

lemma tokens_spec (h : tokenizeRemote s = .ok tokens) :
    [':'].intercalate tokens = s ∧ tokens ≠ [] ∧ ∀ t ∈ tokens, IsToken t := by
  obtain ⟨left, last, hleft, hlast, rfl, rfl⟩ := (tokenizeRemote_ok_iff s tokens).1 h
  refine ⟨intercalate_append left last, by simp, ?_⟩
  intro t ht
  rcases List.mem_append.1 ht with ht | ht
  · exact hleft t ht
  · obtain rfl := List.mem_singleton.1 ht
    exact .inl hlast

/-- The tokenizer reads the text from left to right, and here a token begins. -/
def AtBoundary (s rest : Text) : Prop :=
  ∃ tokens, (∀ t ∈ tokens, IsToken t) ∧ s = join tokens rest

lemma tokenizeRemote_host_iff (s : Text) :
    tokenizeRemote s = .error (.err .host) ↔ ∃ inside, AtBoundary s ('[' :: inside) ∧
      ']' ∉ inside := by
  constructor
  · intro h
    obtain ⟨tokens, rest, ⟨htokens, hs⟩, hb⟩ := exists_split h
    have hi := iterates tokens rest
    rw [hb] at hi
    cases hi with
    | @host inside hin => exact ⟨inside, ⟨tokens, htokens, hs⟩, hin⟩
  · rintro ⟨inside, ⟨tokens, htokens, hs⟩, hin⟩
    exact tokenizeRemote_of_split ⟨htokens, hs⟩ (tokenizeBody_host hin)

lemma tokenizeRemote_format_iff (s : Text) :
    tokenizeRemote s = .error (.err .format) ↔ ∃ inside c behind,
      AtBoundary s ('[' :: inside ++ ']' :: c :: behind) ∧ ']' ∉ inside ∧ c ≠ ':' := by
  have happend : ∀ inside : Text, ∀ c behind,
      '[' :: inside ++ ']' :: c :: behind = ('[' :: inside ++ [']']) ++ c :: behind := by simp
  constructor
  · intro h
    obtain ⟨tokens, rest, ⟨htokens, hs⟩, hb⟩ := exists_split h
    have hi := iterates tokens rest
    rw [hb] at hi
    cases hi with
    | @format t behind c ht hc =>
        obtain ⟨inside, hin, rfl⟩ := ht
        exact ⟨inside, c, behind, ⟨tokens, htokens, by rw [happend]; exact hs⟩, hin, hc⟩
  · rintro ⟨inside, c, behind, ⟨tokens, htokens, hs⟩, hin, hc⟩
    rw [happend] at hs
    exact tokenizeRemote_of_split ⟨htokens, hs⟩ (tokenizeBody_format ⟨inside, hin, rfl⟩ hc)

/-- No other error is reported. -/
lemma tokenizeRemote_err {e : Error} (h : tokenizeRemote s = .error (.err e)) :
    e = .host ∨ e = .format := by
  obtain ⟨tokens, rest, -, hb⟩ := exists_split h
  have hi := iterates tokens rest
  rw [hb] at hi
  cases hi with
  | host => exact .inl rfl
  | format => exact .inr rfl

/-- **The tokens of a text are the text**, cut at colons outside of brackets. The errors are those
of a bracket at the start of a token: it is not closed, or there is other text behind it. -/
theorem tokenizeRemote_faithful (s : Text) :
    (∀ tokens, tokenizeRemote s = .ok tokens → [':'].intercalate tokens = s ∧ tokens ≠ [] ∧
      ∀ t ∈ tokens, (':' ∉ t ∧ t.head? ≠ some '[') ∨
        ∃ inside, ']' ∉ inside ∧ t = '[' :: inside ++ [']']) ∧
    ∀ e, tokenizeRemote s = .error (.err e) ↔
      (e = .host ∧ ∃ inside, AtBoundary s ('[' :: inside) ∧ ']' ∉ inside) ∨
      (e = .format ∧ ∃ inside c behind,
        AtBoundary s ('[' :: inside ++ ']' :: c :: behind) ∧ ']' ∉ inside ∧ c ≠ ':') := by
  refine ⟨fun tokens h => tokens_spec h, ?_⟩
  intro e
  rw [← tokenizeRemote_host_iff, ← tokenizeRemote_format_iff]
  constructor
  · intro h
    rcases tokenizeRemote_err h with rfl | rfl
    · exact .inl ⟨rfl, h⟩
    · exact .inr ⟨rfl, h⟩
  · rintro (⟨rfl, h⟩ | ⟨rfl, h⟩)
    · exact h
    · exact h

/-! ### Whole specifications -/

/-- A result or an error. -/
def Returns {A : Type} (x : Except Fault A) : Prop :=
  (∃ a, x = .ok a) ∨ ∃ e, x = .error (.err e)

section Returns

variable {A B : Type} {x : Except Fault A} {f : A → Except Fault B}

lemma returns_ok (a : A) : Returns (.ok a : Except Fault A) := .inl ⟨a, rfl⟩

lemma returns_err (e : Error) : Returns (.error (.err e) : Except Fault A) := .inr ⟨e, rfl⟩

lemma Returns.bind (hx : Returns x) (hf : ∀ a, Returns (f a)) : Returns (x >>= f) := by
  rcases hx with ⟨a, rfl⟩ | ⟨e, rfl⟩
  · exact hf a
  · exact returns_err e

end Returns

lemma protocolFromStr_returns (s : Text) : Returns (protocolFromStr s) := by
  unfold protocolFromStr
  dsimp only
  split_ifs
  · exact returns_ok _
  · exact returns_ok _
  · exact returns_err _

lemma parseU16_returns (s : Text) : Returns (parseU16 s) := by
  unfold parseU16
  dsimp only
  split
  · exact returns_ok _
  · exact returns_err _

/-- The slice of `remove_brackets` is in range, and its ends are between characters. -/
lemma removeBrackets_bracketed (inside : Text) :
    removeBrackets ('[' :: inside ++ [']']) = .ok inside := by
  have hsize : size ('[' :: inside ++ [']']) - 1 = size ('[' :: inside) := by
    rw [size_append]
    rfl
  have hstop : cut (size ('[' :: inside)) ('[' :: inside ++ [']']) = some ('[' :: inside, [']']) :=
    cut_append _ _
  have hstart : cut 1 ('[' :: inside) = some (['['], inside) := cut_append ['['] inside
  have hif : ('[' :: inside ++ [']']).head? = some '[' ∧
      ('[' :: inside ++ [']']).getLast? = some ']' := ⟨rfl, List.getLast?_concat⟩
  rw [removeBrackets, if_pos hif, hsize]
  simp only [cutOrPanic, hstop]
  show (match cut 1 ('[' :: inside) with
    | some x => Except.ok x
    | none => .error Fault.panic) >>= _ = _
  rw [hstart]
  rfl

lemma removeBrackets_returns (s : Text) : Returns (removeBrackets s) := by
  by_cases h : s.head? = some '[' ∧ s.getLast? = some ']'
  · obtain ⟨inside, rfl⟩ : ∃ inside, s = '[' :: inside ++ [']'] := by
      obtain ⟨hhead, hlast⟩ := h
      cases s with
      | nil => cases hhead
      | cons c s =>
          obtain rfl : c = '[' := by simpa using hhead
          rcases List.eq_nil_or_concat s with rfl | ⟨inside, d, rfl⟩
          · simp at hlast
          · obtain rfl : d = ']' := by simpa [List.getLast?_cons] using hlast
            exact ⟨inside, by simp⟩
    rw [removeBrackets_bracketed]
    exact returns_ok inside
  · rw [removeBrackets, if_neg h]
    exact returns_ok s

lemma sides_returns (defaultIsIpv6 : Bool) (tokens : List Text) :
    Returns (sides defaultIsIpv6 tokens) := by
  have hport := parseU16_returns
  have hhost := removeBrackets_returns
  unfold sides
  dsimp only
  split
  · split_ifs
    · exact returns_ok _
    · exact (hport _).bind fun _ => (hport _).bind fun _ => returns_ok _
  · split_ifs
    · exact returns_ok _
    · exact (hport _).bind fun _ => returns_ok _
    · exact (hport _).bind fun _ => returns_ok _
    · exact (hport _).bind fun _ => (hhost _).bind fun _ => (hport _).bind fun _ => returns_ok _
  · split_ifs
    · exact (hhost _).bind fun _ => (hport _).bind fun _ => returns_ok _
    · exact (hhost _).bind fun _ => (hport _).bind fun _ => returns_ok _
    · exact (hport _).bind fun _ => (hhost _).bind fun _ => (hport _).bind fun _ => returns_ok _
  · exact (hhost _).bind fun _ => (hport _).bind fun _ => (hhost _).bind fun _ =>
      (hport _).bind fun _ => returns_ok _
  · exact returns_err _

/-- The specification `s` is `rest` with a protocol, or without one. -/
def HasRest (s rest : Text) : Prop :=
  ('/' ∉ s ∧ rest = s) ∨
    ∃ proto, '/' ∉ proto ∧ s = rest ++ '/' :: proto ∧
      (proto.map Char.toLower = "tcp".toList ∨ proto.map Char.toLower = "udp".toList)

lemma protocolFromStr_ok_iff (s : Text) :
    (∃ p, protocolFromStr s = .ok p) ↔
      s.map Char.toLower = "tcp".toList ∨ s.map Char.toLower = "udp".toList := by
  unfold protocolFromStr
  dsimp only
  split_ifs with htcp hudp
  · exact iff_of_true ⟨_, rfl⟩ (.inl htcp)
  · exact iff_of_true ⟨_, rfl⟩ (.inr hudp)
  · refine iff_of_false ?_ (not_or.2 ⟨htcp, hudp⟩)
    rintro ⟨p, hp⟩
    cases hp

lemma splitProtocol_of_not_mem (h : '/' ∉ s) : splitProtocol s = .ok (s, .tcp) := by
  rw [splitProtocol, rsplitOnce_of_not_mem h]
  rfl

lemma splitProtocol_append {proto : Text} (h : '/' ∉ proto) (rest : Text) :
    splitProtocol (rest ++ '/' :: proto) = (protocolFromStr proto).map fun p => (rest, p) := by
  rw [splitProtocol, rsplitOnce_append h]
  dsimp only
  cases protocolFromStr proto with
  | ok p => rfl
  | error e => rfl

lemma splitProtocol_returns (s : Text) : Returns (splitProtocol s) := by
  by_cases hmem : '/' ∈ s
  · obtain ⟨rest, proto, rfl, hproto⟩ := exists_last_of_mem hmem
    rw [splitProtocol_append hproto]
    rcases protocolFromStr_returns proto with ⟨p, hp⟩ | ⟨e, he⟩
    · rw [hp]
      exact returns_ok _
    · rw [he]
      exact returns_err _
  · rw [splitProtocol_of_not_mem hmem]
    exact returns_ok _

lemma splitProtocol_ok_iff (s rest : Text) :
    (∃ p, splitProtocol s = .ok (rest, p)) ↔ HasRest s rest := by
  constructor
  · rintro ⟨p, hp⟩
    by_cases hmem : '/' ∈ s
    · obtain ⟨before, proto, rfl, hproto⟩ := exists_last_of_mem hmem
      rw [splitProtocol_append hproto] at hp
      cases hq : protocolFromStr proto with
      | ok q =>
          rw [hq] at hp
          cases hp
          exact .inr ⟨proto, hproto, rfl, (protocolFromStr_ok_iff proto).1 ⟨_, hq⟩⟩
      | error e =>
          rw [hq] at hp
          cases hp
    · rw [splitProtocol_of_not_mem hmem] at hp
      cases hp
      exact .inl ⟨hmem, rfl⟩
  · rintro (⟨hmem, rfl⟩ | ⟨proto, hproto, rfl, hname⟩)
    · exact ⟨_, splitProtocol_of_not_mem hmem⟩
    · obtain ⟨p, hp⟩ := (protocolFromStr_ok_iff proto).2 hname
      exact ⟨p, by rw [splitProtocol_append hproto, hp]; rfl⟩

lemma HasRest.unique {rest' : Text} (h : HasRest s rest) (h' : HasRest s rest') : rest = rest' := by
  obtain ⟨p, hp⟩ := (splitProtocol_ok_iff s rest).2 h
  obtain ⟨p', hp'⟩ := (splitProtocol_ok_iff s rest').2 h'
  rw [hp] at hp'
  cases hp'
  rfl

lemma fromStr_of_rest (defaultIsIpv6 : Bool) {proto : Protocol}
    (h : splitProtocol s = .ok (rest, proto)) :
    fromStr defaultIsIpv6 s = tokenizeRemote rest >>= fun tokens =>
      sides defaultIsIpv6 tokens >>= fun x =>
        if x.2 = .socks ∧ proto = .udp then .error (.err .udpSocks) else .ok ⟨x.1, x.2, proto⟩ := by
  rw [fromStr, h]
  rfl

/-- What is behind the tokenizer neither panics nor goes on for ever. -/
lemma fromStr_returns_of_rest (defaultIsIpv6 : Bool) {proto : Protocol}
    (h : splitProtocol s = .ok (rest, proto)) :
    Returns (fromStr defaultIsIpv6 s) ↔ tokenizeRemote rest ≠ .error .panic := by
  rw [fromStr_of_rest defaultIsIpv6 h]
  cases htokens : tokenizeRemote rest with
  | ok tokens =>
      refine iff_of_true ?_ nofun
      refine (sides_returns defaultIsIpv6 tokens).bind fun x => ?_
      split_ifs
      · exact returns_err _
      · exact returns_ok _
  | error f =>
      cases f with
      | err e => exact iff_of_true (returns_err e) nofun
      | panic =>
          refine iff_of_false ?_ (by simp)
          rintro (⟨a, ha⟩ | ⟨e, he⟩)
          · cases ha
          · cases he
      | diverge => exact absurd htokens (tokenizeRemote_ne_diverge rest)

/-- **Which specifications are parsed or refused**: all of them, unless the last token is a host
in brackets. Behind its bracket there is no colon to skip, and the slice that skips it panics. -/
theorem fromStr_returns_iff (defaultIsIpv6 : Bool) (s : Text) :
    ((∃ r, fromStr defaultIsIpv6 s = .ok r) ∨ ∃ e, fromStr defaultIsIpv6 s = .error (.err e)) ↔
      ¬ ∃ rest, HasRest s rest ∧ EndsInBrackets rest := by
  show Returns (fromStr defaultIsIpv6 s) ↔ _
  rcases splitProtocol_returns s with ⟨x, hx⟩ | ⟨e, he⟩
  · have hrest : HasRest s x.1 := (splitProtocol_ok_iff s x.1).1 ⟨x.2, hx⟩
    rw [fromStr_returns_of_rest defaultIsIpv6 hx, not_iff_not, tokenizeRemote_panic_iff]
    refine ⟨fun h => ⟨x.1, hrest, h⟩, ?_⟩
    rintro ⟨rest, hrest', h⟩
    rwa [hrest.unique hrest']
  · refine iff_of_true ?_ ?_
    · rw [fromStr, he]
      exact returns_err e
    · rintro ⟨rest, hrest, -⟩
      obtain ⟨p, hp⟩ := (splitProtocol_ok_iff s rest).2 hrest
      rw [he] at hp
      cases hp

theorem fromStr_bracketed_panics :
    ¬ ((∃ r, fromStr false "[::1]".toList = .ok r) ∨
      ∃ e, fromStr false "[::1]".toList = .error (.err e)) := by
  have h : fromStr false "[::1]".toList = .error .panic := by decide
  rintro (⟨r, hr⟩ | ⟨e, he⟩)
  · rw [h] at hr
    cases hr
  · rw [h] at he
    cases he

end Penguin.Client.ParseRemote
