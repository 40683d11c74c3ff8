import Penguin.Client.ParseRemote

/-!
The text of a remote specification, and what it is parsed back to.

Brackets around a host are dropped when a specification is parsed, and printed again only if there
is a colon in the host. A host whose brackets kept it from being read as something else is printed
without them.
-/

namespace Penguin.Client.FormatRemote

open Penguin.Lib.Utf8 Penguin.Client.ParseRemote

/-! ### Formatting -/

/-- `Display for u16`. -/
def decimal (n : UInt16) : Text := Nat.toDigits 10 n.toNat

/-- A host in a text; the four formats of `Display for Remote` differ in this alone. -/
def formatHost (host : Text) : Text :=
  if ':' ∈ host then '[' :: host ++ [']'] else host

/-- `Display for Protocol`. -/
def formatProtocol : Protocol → Text
  | .tcp => "tcp".toList
  | .udp => "udp".toList

/-- `Display for Remote`. -/
def format (r : Remote) : Text :=
  (match r.localAddr with
    | .inet host port => formatHost host ++ ':' :: decimal port
    | .stdio => "stdio".toList) ++
  (match r.remoteAddr with
    | .inet host port => ':' :: formatHost host ++ ':' :: decimal port
    | .socks => ":socks".toList) ++
  '/' :: formatProtocol r.protocol

/-! ### Ports -/

lemma isDigit_of_mem_decimal {n : UInt16} {c : Char} (h : c ∈ decimal n) : c.isDigit = true :=
  Nat.isDigit_of_mem_toDigits (by decide) (by decide) h

lemma not_mem_decimal (n : UInt16) {c : Char} (h : c.isDigit = false) : c ∉ decimal n := by
  intro hc
  rw [isDigit_of_mem_decimal hc] at h
  cases h

lemma decimal_ne_nil (n : UInt16) : decimal n ≠ [] := Nat.toDigits_ne_nil

lemma head_decimal (n : UInt16) {c : Char} (h : c.isDigit = false) :
    (decimal n).head? ≠ some c := by
  intro hc
  exact not_mem_decimal n h (List.mem_of_head? hc)

lemma isPlain_decimal (n : UInt16) : IsPlain (decimal n) :=
  ⟨not_mem_decimal n (by decide), head_decimal n (by decide)⟩

lemma le_ofDigitChars (s : Text) (n : ℕ) : n ≤ Nat.ofDigitChars 10 s n := by
  induction s generalizing n with
  | nil => simp
  | cons c s ih =>
      rw [Nat.ofDigitChars_cons]
      have := ih (10 * n + (c.toNat - '0'.toNat))
      omega

/-- Digits are parsed to the number they stand for, if it is not too large. -/
lemma parseDigits_eq {s : Text} {n : ℕ} (hs : ∀ c ∈ s, c.isDigit = true)
    (hlt : Nat.ofDigitChars 10 s n < 65536) :
    parseDigits n s = .ok (Nat.ofDigitChars 10 s n) := by
  induction s generalizing n with
  | nil => simp [parseDigits]
  | cons c s ih =>
      rw [Nat.ofDigitChars_cons] at hlt ⊢
      have hle := le_ofDigitChars s (10 * n + (c.toNat - '0'.toNat))
      have hc : c.isDigit = true := hs c (by simp)
      simp only [parseDigits, hc, if_true]
      rw [if_pos (by omega)]
      exact ih (fun d hd => hs d (by simp [hd])) hlt

lemma parseU16_of_digits {s : Text} {n : ℕ} (hne : s ≠ []) (hs : ∀ c ∈ s, c.isDigit = true)
    (h : parseDigits 0 s = .ok n) : parseU16 s = .ok (UInt16.ofNat n) := by
  cases s with
  | nil => exact absurd rfl hne
  | cons c s =>
      have hc : c ≠ '+' := by
        rintro rfl
        exact absurd (hs '+' (by simp)) (by decide)
      simp [parseU16, hc, h]

/-- **A port is parsed back.** -/
theorem parseU16_decimal (n : UInt16) : parseU16 (decimal n) = .ok n := by
  have hval : Nat.ofDigitChars 10 (decimal n) 0 = n.toNat := Nat.ofDigitChars_ten_toDigits
  have hlt : Nat.ofDigitChars 10 (decimal n) 0 < 65536 := by
    rw [hval]
    exact n.toNat_lt
  have hdigits : ∀ c ∈ decimal n, c.isDigit = true := fun c => isDigit_of_mem_decimal
  rw [parseU16_of_digits (decimal_ne_nil n) hdigits (parseDigits_eq hdigits hlt), hval,
    UInt16.ofNat_toNat]

lemma decimal_ne_socks (n : UInt16) : decimal n ≠ "socks".toList := by
  intro h
  exact head_decimal n (by decide : 's'.isDigit = false) (by rw [h]; rfl)

/-! ### Hosts -/

/-- The text of a host is a token that stands for it. -/
def Printable (host : Text) : Prop :=
  (':' ∈ host → ']' ∉ host) ∧ (':' ∉ host → host.head? ≠ some '[')

variable {host t : Text}

lemma removeBrackets_of_head (h : t.head? ≠ some '[') : removeBrackets t = .ok t := by
  have hif : ¬ (t.head? = some '[' ∧ t.getLast? = some ']') := fun ht => h ht.1
  rw [removeBrackets, if_neg hif]
  rfl

lemma isToken_formatHost (h : Printable host) : IsToken (formatHost host) := by
  unfold formatHost
  split_ifs with hc
  · exact .inr ⟨host, h.1 hc, rfl⟩
  · exact .inl ⟨hc, h.2 hc⟩

lemma removeBrackets_formatHost (h : Printable host) :
    removeBrackets (formatHost host) = .ok host := by
  unfold formatHost
  split_ifs with hc
  · exact removeBrackets_bracketed host
  · exact removeBrackets_of_head (h.2 hc)

lemma formatHost_eq_stdio (h : formatHost host = "stdio".toList) : host = "stdio".toList := by
  unfold formatHost at h
  split_ifs at h with hc
  · cases h
  · exact h

/-- A token stands for itself, or for what is in its brackets. -/
lemma removeBrackets_token (ht : IsToken t) (h : removeBrackets t = .ok host) :
    (IsPlain t ∧ host = t) ∨ (']' ∉ host ∧ t = '[' :: host ++ [']']) := by
  rcases ht with ht | ⟨inside, hin, rfl⟩
  · rw [removeBrackets_of_head ht.2] at h
    cases h
    exact .inl ⟨ht, rfl⟩
  · rw [removeBrackets_bracketed] at h
    cases h
    exact .inr ⟨hin, rfl⟩

/-- A host that cannot be printed has an opening bracket, and was in brackets itself. -/
lemma printable_or_bracket (ht : IsToken t) (h : removeBrackets t = .ok host) :
    Printable host ∨ ∃ inside, ':' ∉ inside ∧ ']' ∉ inside ∧ host = '[' :: inside ∧
      t = '[' :: '[' :: inside ++ [']'] := by
  rcases removeBrackets_token ht h with ⟨hplain, rfl⟩ | ⟨hin, rfl⟩
  · exact .inl ⟨fun hc => absurd hc hplain.1, fun _ => hplain.2⟩
  · by_cases hbad : ':' ∉ host ∧ host.head? = some '['
    · obtain ⟨hc, hhead⟩ := hbad
      cases host with
      | nil => cases hhead
      | cons c inside =>
          obtain rfl : c = '[' := by simpa using hhead
          refine .inr ⟨inside, ?_, ?_, rfl, rfl⟩
          · exact fun h => hc (by simp [h])
          · exact fun h => hin (by simp [h])
    · exact .inl ⟨fun _ => hin, fun hc hhead => hbad ⟨hc, hhead⟩⟩

lemma printable_defaultHostLocal (defaultIsIpv6 : Bool) :
    Printable (defaultHostLocal defaultIsIpv6) := by
  cases defaultIsIpv6 <;> simp [Printable, defaultHostLocal]

lemma printable_defaultHostUnspec (defaultIsIpv6 : Bool) :
    Printable (defaultHostUnspec defaultIsIpv6) := by
  cases defaultIsIpv6 <;> simp [Printable, defaultHostUnspec]

/-! ### Readings -/

/-- The ways in which tokens are read, in the order of the patterns. -/
inductive Reads (defaultIsIpv6 : Bool) : List Text → LocalSpec → RemoteSpec → Prop
  | socks : Reads defaultIsIpv6 ["socks".toList] (.inet (defaultHostLocal defaultIsIpv6) 1080) .socks
  | port {a : Text} {p : UInt16} (ha : parseU16 a = .ok p) :
      Reads defaultIsIpv6 [a] (.inet (defaultHostUnspec defaultIsIpv6) p)
        (.inet (defaultHostLocal defaultIsIpv6) p)
  | stdioSocks : Reads defaultIsIpv6 ["stdio".toList, "socks".toList] .stdio .socks
  | portSocks {a : Text} {p : UInt16} (ha : parseU16 a = .ok p) :
      Reads defaultIsIpv6 [a, "socks".toList] (.inet (defaultHostLocal defaultIsIpv6) p) .socks
  | stdioPort {b : Text} {p : UInt16} (hb : parseU16 b = .ok p) :
      Reads defaultIsIpv6 ["stdio".toList, b] .stdio (.inet (defaultHostLocal defaultIsIpv6) p)
  | hostPort {a b host : Text} {p : UInt16} (ha : removeBrackets a = .ok host)
      (hb : parseU16 b = .ok p) :
      Reads defaultIsIpv6 [a, b] (.inet (defaultHostUnspec defaultIsIpv6) p) (.inet host p)
  | stdioHost {b c host : Text} {p : UInt16} (hb : removeBrackets b = .ok host)
      (hc : parseU16 c = .ok p) :
      Reads defaultIsIpv6 ["stdio".toList, b, c] .stdio (.inet host p)
  | hostSocks {a b host : Text} {p : UInt16} (hne : a ≠ "stdio".toList)
      (ha : removeBrackets a = .ok host) (hb : parseU16 b = .ok p) :
      Reads defaultIsIpv6 [a, b, "socks".toList] (.inet host p) .socks
  | portHost {a b c host : Text} {p q : UInt16} (ha : parseU16 a = .ok p)
      (hb : removeBrackets b = .ok host) (hc : parseU16 c = .ok q) :
      Reads defaultIsIpv6 [a, b, c] (.inet (defaultHostUnspec defaultIsIpv6) p) (.inet host q)
  | hostHost {a b c d host host' : Text} {p q : UInt16} (ha : removeBrackets a = .ok host)
      (hb : parseU16 b = .ok p) (hc : removeBrackets c = .ok host') (hd : parseU16 d = .ok q) :
      Reads defaultIsIpv6 [a, b, c, d] (.inet host p) (.inet host' q)

lemma ok_of_bind {A B : Type} {x : Except Fault A} {f : A → Except Fault B} {b : B}
    (h : x >>= f = .ok b) : ∃ a, x = .ok a ∧ f a = .ok b := by
  cases x with
  | ok a => exact ⟨a, rfl, h⟩
  | error e => cases h

lemma reads_of_sides {defaultIsIpv6 : Bool} {tokens : List Text} {l : LocalSpec} {r : RemoteSpec}
    (h : sides defaultIsIpv6 tokens = .ok (l, r)) : Reads defaultIsIpv6 tokens l r := by
  unfold sides at h
  dsimp only at h
  split at h
  · split_ifs at h with hsocks
    · cases h
      rw [hsocks]
      exact .socks
    · obtain ⟨p, hp, h⟩ := ok_of_bind h
      obtain ⟨q, hq, h⟩ := ok_of_bind h
      cases h
      obtain rfl : p = q := Except.ok.inj (hp.symm.trans hq)
      exact .port hp
  · split_ifs at h with hboth hsocks hstdio
    · cases h
      rw [hboth.1, hboth.2]
      exact .stdioSocks
    · obtain ⟨p, hp, h⟩ := ok_of_bind h
      cases h
      rw [hsocks]
      exact .portSocks hp
    · obtain ⟨p, hp, h⟩ := ok_of_bind h
      cases h
      rw [hstdio]
      exact .stdioPort hp
    · obtain ⟨p, hp, h⟩ := ok_of_bind h
      obtain ⟨host, hhost, h⟩ := ok_of_bind h
      obtain ⟨q, hq, h⟩ := ok_of_bind h
      cases h
      obtain rfl : p = q := Except.ok.inj (hp.symm.trans hq)
      exact .hostPort hhost hp
  · split_ifs at h with hstdio hsocks
    · obtain ⟨host, hhost, h⟩ := ok_of_bind h
      obtain ⟨p, hp, h⟩ := ok_of_bind h
      cases h
      rw [hstdio]
      exact .stdioHost hhost hp
    · obtain ⟨host, hhost, h⟩ := ok_of_bind h
      obtain ⟨p, hp, h⟩ := ok_of_bind h
      cases h
      rw [hsocks]
      exact .hostSocks hstdio hhost hp
    · obtain ⟨p, hp, h⟩ := ok_of_bind h
      obtain ⟨host, hhost, h⟩ := ok_of_bind h
      obtain ⟨q, hq, h⟩ := ok_of_bind h
      cases h
      exact .portHost hp hhost hq
  · obtain ⟨host, hhost, h⟩ := ok_of_bind h
    obtain ⟨p, hp, h⟩ := ok_of_bind h
    obtain ⟨host', hhost', h⟩ := ok_of_bind h
    obtain ⟨q, hq, h⟩ := ok_of_bind h
    cases h
    exact .hostHost hhost hp hhost' hq
  · cases h

/-- The hosts of the two sides. -/
inductive HasHost (l : LocalSpec) (r : RemoteSpec) : Text → Prop
  | localHost {host : Text} {port : UInt16} (h : l = .inet host port) : HasHost l r host
  | remoteHost {host : Text} {port : UInt16} (h : r = .inet host port) : HasHost l r host

section Reads

variable {defaultIsIpv6 : Bool} {tokens : List Text} {l : LocalSpec} {r : RemoteSpec}

/-- The local host is a default one, or is in the first token. -/
lemma Reads.localHost {port : UInt16} (h : Reads defaultIsIpv6 tokens l r)
    (hl : l = .inet host port) : host = defaultHostLocal defaultIsIpv6 ∨
      host = defaultHostUnspec defaultIsIpv6 ∨
      ∃ t rest, tokens = t :: rest ∧ removeBrackets t = .ok host := by
  cases h with
  | socks => cases hl; exact .inl rfl
  | port ha => cases hl; exact .inr (.inl rfl)
  | stdioSocks => cases hl
  | portSocks ha => cases hl; exact .inl rfl
  | stdioPort hb => cases hl
  | hostPort ha hb => cases hl; exact .inr (.inl rfl)
  | stdioHost hb hc => cases hl
  | hostSocks hne ha hb => cases hl; exact .inr (.inr ⟨_, _, rfl, ha⟩)
  | portHost ha hb hc => cases hl; exact .inr (.inl rfl)
  | hostHost ha hb hc hd => cases hl; exact .inr (.inr ⟨_, _, rfl, ha⟩)

/-- The remote host is a default one, or is in a token. -/
lemma Reads.remoteHost {port : UInt16} (h : Reads defaultIsIpv6 tokens l r)
    (hr : r = .inet host port) :
    host = defaultHostLocal defaultIsIpv6 ∨ ∃ t ∈ tokens, removeBrackets t = .ok host := by
  cases h with
  | socks => cases hr
  | port ha => cases hr; exact .inl rfl
  | stdioSocks => cases hr
  | portSocks ha => cases hr
  | stdioPort hb => cases hr; exact .inl rfl
  | hostPort ha hb => cases hr; exact .inr ⟨_, by simp, ha⟩
  | stdioHost hb hc => cases hr; exact .inr ⟨_, by simp, hb⟩
  | hostSocks hne ha hb => cases hr
  | portHost ha hb hc => cases hr; exact .inr ⟨_, by simp, hb⟩
  | hostHost ha hb hc hd => cases hr; exact .inr ⟨_, by simp, hc⟩

/-- A host is printed as a token, or is what is in brackets in a token. -/
lemma Reads.printable (h : Reads defaultIsIpv6 tokens l r) (htokens : ∀ t ∈ tokens, IsToken t)
    (hhost : HasHost l r host) : Printable host ∨ ∃ inside, ':' ∉ inside ∧ ']' ∉ inside ∧
      host = '[' :: inside ∧ '[' :: '[' :: inside ++ [']'] ∈ tokens := by
  have hlocal := printable_defaultHostLocal defaultIsIpv6
  have hunspec := printable_defaultHostUnspec defaultIsIpv6
  have htoken : ∀ t ∈ tokens, removeBrackets t = .ok host → Printable host ∨
      ∃ inside, ':' ∉ inside ∧ ']' ∉ inside ∧ host = '[' :: inside ∧
        '[' :: '[' :: inside ++ [']'] ∈ tokens := by
    intro t ht hremove
    rcases printable_or_bracket (htokens t ht) hremove with hp | ⟨inside, hc, hb, hh, rfl⟩
    · exact .inl hp
    · exact .inr ⟨inside, hc, hb, hh, ht⟩
  cases hhost with
  | localHost hl =>
      rcases h.localHost hl with rfl | rfl | ⟨t, rest, rfl, hremove⟩
      · exact .inl hlocal
      · exact .inl hunspec
      · exact htoken t (by simp) hremove
  | remoteHost hr =>
      rcases h.remoteHost hr with rfl | ⟨t, ht, hremove⟩
      · exact .inl hlocal
      · exact htoken t ht hremove

lemma parseU16_bracket (s : Text) (p : UInt16) : parseU16 ('[' :: s) ≠ .ok p := by
  have hc : ('[' : Char).isDigit = false := by decide
  simp [parseU16, parseDigits, hc]

/-- A token in brackets is read as a host. -/
lemma Reads.hasHost (h : Reads defaultIsIpv6 tokens l r) {inside : Text}
    (hmem : '[' :: inside ++ [']'] ∈ tokens) : HasHost l r inside := by
  have hremove := removeBrackets_bracketed inside
  have hport : ∀ {t : Text} {p : UInt16}, parseU16 t = .ok p → '[' :: inside ++ [']'] ≠ t := by
    rintro t p hp rfl
    exact parseU16_bracket _ p hp
  have hword : ∀ {c : Char} {s : Text}, c ≠ '[' → '[' :: inside ++ [']'] ≠ c :: s := by
    rintro c s hc hcs
    exact hc (List.cons.inj hcs).1.symm
  have hsocks : '[' :: inside ++ [']'] ≠ "socks".toList := hword (by decide)
  have hstdio : '[' :: inside ++ [']'] ≠ "stdio".toList := hword (by decide)
  have hhost : ∀ {t host : Text}, removeBrackets t = .ok host → '[' :: inside ++ [']'] = t →
      host = inside := by
    rintro t host ht rfl
    exact Except.ok.inj (ht.symm.trans hremove)
  cases h with
  | socks => exact absurd (List.mem_singleton.1 hmem) hsocks
  | port ha => exact absurd (List.mem_singleton.1 hmem) (hport ha)
  | stdioSocks =>
      rcases List.mem_pair.1 hmem with hm | hm
      · exact absurd hm hstdio
      · exact absurd hm hsocks
  | portSocks ha =>
      rcases List.mem_pair.1 hmem with hm | hm
      · exact absurd hm (hport ha)
      · exact absurd hm hsocks
  | stdioPort hb =>
      rcases List.mem_pair.1 hmem with hm | hm
      · exact absurd hm hstdio
      · exact absurd hm (hport hb)
  | hostPort ha hb =>
      rcases List.mem_pair.1 hmem with hm | hm
      · obtain rfl := hhost ha hm
        exact .remoteHost rfl
      · exact absurd hm (hport hb)
  | stdioHost hb hc =>
      rcases List.mem_cons.1 hmem with hm | hmem
      · exact absurd hm hstdio
      rcases List.mem_pair.1 hmem with hm | hm
      · obtain rfl := hhost hb hm
        exact .remoteHost rfl
      · exact absurd hm (hport hc)
  | hostSocks hne ha hb =>
      rcases List.mem_cons.1 hmem with hm | hmem
      · obtain rfl := hhost ha hm
        exact .localHost rfl
      rcases List.mem_pair.1 hmem with hm | hm
      · exact absurd hm (hport hb)
      · exact absurd hm hsocks
  | portHost ha hb hc =>
      rcases List.mem_cons.1 hmem with hm | hmem
      · exact absurd hm (hport ha)
      rcases List.mem_pair.1 hmem with hm | hm
      · obtain rfl := hhost hb hm
        exact .remoteHost rfl
      · exact absurd hm (hport hc)
  | hostHost ha hb hc hd =>
      rcases List.mem_cons.1 hmem with hm | hmem
      · obtain rfl := hhost ha hm
        exact .localHost rfl
      rcases List.mem_cons.1 hmem with hm | hmem
      · exact absurd hm (hport hb)
      rcases List.mem_pair.1 hmem with hm | hm
      · obtain rfl := hhost hc hm
        exact .remoteHost rfl
      · exact absurd hm (hport hd)

/-- The local host can be `stdio` beside a SOCKS remote only if it was in brackets. -/
lemma Reads.stdio_iff (h : Reads defaultIsIpv6 tokens l r) (htokens : ∀ t ∈ tokens, IsToken t) :
    (∃ port, l = .inet "stdio".toList port ∧ r = .socks) ↔
      ∃ port, tokens = ["[stdio]".toList, port, "socks".toList] := by
  constructor
  · rintro ⟨port, rfl, rfl⟩
    have hlocal : defaultHostLocal defaultIsIpv6 ≠ "stdio".toList := by
      cases defaultIsIpv6 <;> decide
    generalize hl : LocalSpec.inet "stdio".toList port = l at h
    cases h with
    | socks => exact absurd (LocalSpec.inet.inj hl).1.symm hlocal
    | stdioSocks => cases hl
    | portSocks ha => exact absurd (LocalSpec.inet.inj hl).1.symm hlocal
    | @hostSocks a b host p hne ha hb =>
        obtain rfl := (LocalSpec.inet.inj hl).1
        rcases removeBrackets_token (htokens a (by simp)) ha with ⟨-, ha⟩ | ⟨-, ha⟩
        · exact absurd ha.symm hne
        · exact ⟨b, by rw [ha]; rfl⟩
  · rintro ⟨port, rfl⟩
    have hremove : removeBrackets "[stdio]".toList = .ok "stdio".toList :=
      removeBrackets_bracketed "stdio".toList
    cases h with
    | @hostSocks a b host p hne ha hb =>
        rw [hremove] at ha
        cases ha
        exact ⟨_, rfl, rfl⟩
    | portHost ha => exact absurd ha (parseU16_bracket _ _)

end Reads

/-! ### Tokens of a formatted text -/

/-- The tokens that are meant by `format`, without the last one. -/
def leftTokens (r : Remote) : List Text :=
  (match r.localAddr with
    | .inet host port => [formatHost host, decimal port]
    | .stdio => ["stdio".toList]) ++
  (match r.remoteAddr with
    | .inet host _ => [formatHost host]
    | .socks => [])

def lastToken (r : Remote) : Text :=
  match r.remoteAddr with
  | .inet _ port => decimal port
  | .socks => "socks".toList

lemma format_eq (r : Remote) :
    format r = join (leftTokens r) (lastToken r) ++ '/' :: formatProtocol r.protocol := by
  obtain ⟨l, r, p⟩ := r
  cases l <;> cases r <;> simp [format, leftTokens, lastToken, join]

lemma splitProtocol_format (r : Remote) :
    splitProtocol (format r) = .ok (join (leftTokens r) (lastToken r), r.protocol) := by
  have hslash : '/' ∉ formatProtocol r.protocol := by
    cases r.protocol <;> decide
  have hproto : protocolFromStr (formatProtocol r.protocol) = .ok r.protocol := by
    cases r.protocol <;> decide
  rw [format_eq, splitProtocol_append hslash, hproto]
  rfl

lemma isPlain_lastToken (r : Remote) : IsPlain (lastToken r) := by
  unfold lastToken
  split
  · exact isPlain_decimal _
  · exact ⟨by decide, by decide⟩

lemma isToken_leftTokens {r : Remote}
    (h : ∀ host, HasHost r.localAddr r.remoteAddr host → Printable host) :
    ∀ t ∈ leftTokens r, IsToken t := by
  obtain ⟨l, r, p⟩ := r
  dsimp only at h
  have hstdio : IsToken "stdio".toList := .inl ⟨by decide, by decide⟩
  have hlocal : ∀ host port, l = .inet host port → IsToken (formatHost host) :=
    fun host port hl => isToken_formatHost (h host (.localHost hl))
  have hremote : ∀ host port, r = .inet host port → IsToken (formatHost host) :=
    fun host port hr => isToken_formatHost (h host (.remoteHost hr))
  have hdecimal : ∀ port, IsToken (decimal port) := fun port => .inl (isPlain_decimal port)
  cases l with
  | inet host port =>
      cases r with
      | inet host' port' =>
          simp [leftTokens, hlocal host port rfl, hremote host' port' rfl, hdecimal]
      | socks => simp [leftTokens, hlocal host port rfl, hdecimal]
  | stdio =>
      cases r with
      | inet host' port' =>
          have := hremote host' port' rfl
          simp only [leftTokens, List.singleton_append, List.mem_cons, List.not_mem_nil, or_false]
          rintro t (rfl | rfl)
          · exact hstdio
          · exact this
      | socks =>
          simp only [leftTokens, List.append_nil, List.mem_singleton]
          rintro t rfl
          exact hstdio

lemma tokenizeRemote_format {r : Remote}
    (h : ∀ host, HasHost r.localAddr r.remoteAddr host → Printable host) :
    tokenizeRemote (join (leftTokens r) (lastToken r)) = .ok (leftTokens r ++ [lastToken r]) :=
  (tokenizeRemote_ok_iff _ _).2
    ⟨leftTokens r, lastToken r, isToken_leftTokens h, isPlain_lastToken r, rfl, rfl⟩

/-- **What `format` means is read**, but for a local host `stdio` beside a SOCKS remote. -/
lemma sides_format (defaultIsIpv6 : Bool) {r : Remote}
    (h : ∀ host, HasHost r.localAddr r.remoteAddr host → Printable host)
    (hstdio : ¬ ∃ port, r.localAddr = .inet "stdio".toList port ∧ r.remoteAddr = .socks) :
    sides defaultIsIpv6 (leftTokens r ++ [lastToken r]) = .ok (r.localAddr, r.remoteAddr) := by
  obtain ⟨l, r, p⟩ := r
  dsimp only at h hstdio
  have hsocks : ∀ port, decimal port ≠ "socks".toList := decimal_ne_socks
  cases l with
  | inet host port =>
      have hhost := removeBrackets_formatHost (h host (.localHost rfl))
      cases r with
      | inet host' port' =>
          have hhost' := removeBrackets_formatHost (h host' (.remoteHost rfl))
          show sides defaultIsIpv6
            [formatHost host, decimal port, formatHost host', decimal port'] = _
          simp only [sides, hhost, hhost', parseU16_decimal]
          rfl
      | socks =>
          have hne : formatHost host ≠ "stdio".toList := by
            intro hs
            exact hstdio ⟨port, by rw [formatHost_eq_stdio hs], rfl⟩
          show sides defaultIsIpv6 [formatHost host, decimal port, "socks".toList] = _
          simp only [sides, if_neg hne, if_true, hhost, parseU16_decimal]
          rfl
  | stdio =>
      cases r with
      | inet host' port' =>
          have hhost' := removeBrackets_formatHost (h host' (.remoteHost rfl))
          show sides defaultIsIpv6 ["stdio".toList, formatHost host', decimal port'] = _
          simp only [sides, if_true, hhost', parseU16_decimal]
          rfl
      | socks => rfl

lemma fromStr_ok_iff (defaultIsIpv6 : Bool) (s : Text) (r : Remote) :
    fromStr defaultIsIpv6 s = .ok r ↔ ∃ rest tokens, splitProtocol s = .ok (rest, r.protocol) ∧
      tokenizeRemote rest = .ok tokens ∧
      sides defaultIsIpv6 tokens = .ok (r.localAddr, r.remoteAddr) ∧
      ¬ (r.remoteAddr = .socks ∧ r.protocol = .udp) := by
  constructor
  · intro h
    obtain ⟨⟨rest, proto⟩, hrest, h⟩ := ok_of_bind h
    obtain ⟨tokens, htokens, h⟩ := ok_of_bind h
    obtain ⟨⟨l, rem⟩, hsides, h⟩ := ok_of_bind h
    dsimp only at h
    split_ifs at h with hudp
    · cases h
    · cases h
      exact ⟨rest, tokens, hrest, htokens, hsides, hudp⟩
  · rintro ⟨rest, tokens, hrest, htokens, hsides, hudp⟩
    rw [fromStr_of_rest defaultIsIpv6 hrest, htokens]
    show (sides defaultIsIpv6 tokens >>= _) = _
    rw [hsides]
    show (if _ then _ else _) = _
    rw [if_neg hudp]

/-! ### What is parsed back -/

section Format

variable {defaultIsIpv6 : Bool} {r : Remote}

lemma fromStr_format_of_printable (hudp : ¬ (r.remoteAddr = .socks ∧ r.protocol = .udp))
    (h : ∀ host, HasHost r.localAddr r.remoteAddr host → Printable host)
    (hstdio : ¬ ∃ port, r.localAddr = .inet "stdio".toList port ∧ r.remoteAddr = .socks) :
    fromStr defaultIsIpv6 (format r) = .ok r :=
  (fromStr_ok_iff defaultIsIpv6 (format r) r).2
    ⟨_, _, splitProtocol_format r, tokenizeRemote_format h, sides_format defaultIsIpv6 h hstdio,
      hudp⟩

/-- The tokens of a formatted text that is parsed back. -/
lemma tokens_of_format (h : fromStr defaultIsIpv6 (format r) = .ok r) :
    ∃ tokens, tokenizeRemote (join (leftTokens r) (lastToken r)) = .ok tokens ∧
      Reads defaultIsIpv6 tokens r.localAddr r.remoteAddr := by
  obtain ⟨rest, tokens, hrest, htokens, hsides, -⟩ := (fromStr_ok_iff _ _ _).1 h
  rw [splitProtocol_format] at hrest
  cases hrest
  exact ⟨tokens, htokens, reads_of_sides hsides⟩

/-- `stdio` is read as the standard input and output then, and `socks` as a port. -/
lemma fromStr_format_ne_of_stdio {port : UInt16} (hl : r.localAddr = .inet "stdio".toList port)
    (hr : r.remoteAddr = .socks) : fromStr defaultIsIpv6 (format r) ≠ .ok r := by
  intro h
  obtain ⟨tokens, htokens, hreads⟩ := tokens_of_format h
  have hprint : ∀ host, HasHost r.localAddr r.remoteAddr host → Printable host := by
    intro host hhost
    cases hhost with
    | localHost hh =>
        rw [hl] at hh
        cases hh
        exact ⟨by decide, by decide⟩
    | remoteHost hh =>
        rw [hr] at hh
        cases hh
  rw [tokenizeRemote_format hprint] at htokens
  cases htokens
  have hleft : leftTokens r = ["stdio".toList, decimal port] := by
    simp only [leftTokens, hl, hr]
    rfl
  have hmem : ∀ t ∈ leftTokens r ++ [lastToken r], IsToken t := by
    intro t ht
    rcases List.mem_append.1 ht with ht | ht
    · exact isToken_leftTokens hprint t ht
    · rw [List.mem_singleton.1 ht]
      exact .inl (isPlain_lastToken r)
  obtain ⟨port', hport'⟩ := (hreads.stdio_iff hmem).1 ⟨port, hl, hr⟩
  rw [hleft] at hport'
  exact absurd (List.cons.inj hport').1 (by decide)

/-- A local host with a bracket takes what is behind it into its token. -/
lemma fromStr_format_ne_of_local {inside : Text} {port : UInt16} (hcolon : ':' ∉ inside)
    (hl : r.localAddr = .inet ('[' :: inside) port) :
    fromStr defaultIsIpv6 (format r) ≠ .ok r := by
  intro h
  obtain ⟨tokens, htokens, hreads⟩ := tokens_of_format h
  have hhost : formatHost ('[' :: inside) = '[' :: inside := by simp [formatHost, hcolon]
  obtain ⟨behind, hbehind⟩ : ∃ behind,
      join (leftTokens r) (lastToken r) = '[' :: inside ++ ':' :: behind := by
    simp only [leftTokens, hl, hhost]
    exact ⟨_, rfl⟩
  obtain ⟨left, last, hleft, hlast, rfl, hjoin⟩ := (tokenizeRemote_ok_iff _ _).1 htokens
  rw [hbehind] at hjoin
  have hnot : ':' ∉ '[' :: inside := by simp [hcolon]
  rcases hreads.localHost hl with hd | hd | ⟨t, rest, ht, hremove⟩
  · exact (printable_defaultHostLocal defaultIsIpv6).2 (hd ▸ hnot) (hd ▸ rfl)
  · exact (printable_defaultHostUnspec defaultIsIpv6).2 (hd ▸ hnot) (hd ▸ rfl)
  · cases left with
    | nil =>
        obtain rfl : last = '[' :: inside ++ ':' :: behind := hjoin.symm
        exact hlast.2 rfl
    | cons t' left =>
        obtain rfl : t' = t := (List.cons.inj ht).1
        have htoken : IsToken t' := hleft t' (by simp)
        rcases removeBrackets_token htoken hremove with ⟨hplain, rfl⟩ | ⟨-, rfl⟩
        · exact hplain.2 rfl
        · -- the first colon is behind the host here, and behind its brackets there
          have hnot' : ':' ∉ '[' :: ('[' :: inside) ++ [']'] := by simp [hcolon]
          have h₁ := splitOnce_append hnot behind
          have h₂ := splitOnce_append hnot' (join left last)
          rw [hjoin] at h₁
          have heq := Option.some.inj (h₁.symm.trans h₂)
          have hlen := congrArg (fun x : Text × Text => x.1.length) heq
          simp at hlen

/-- A remote host with a bracket is not closed. -/
lemma fromStr_format_ne_of_remote {inside : Text} {port : UInt16} (hcolon : ':' ∉ inside)
    (hbracket : ']' ∉ inside) (hr : r.remoteAddr = .inet ('[' :: inside) port)
    (hl : ∀ host port, r.localAddr = .inet host port → Printable host) :
    fromStr defaultIsIpv6 (format r) ≠ .ok r := by
  intro h
  obtain ⟨tokens, htokens, -⟩ := tokens_of_format h
  have hhost : formatHost ('[' :: inside) = '[' :: inside := by simp [formatHost, hcolon]
  have hboundary : AtBoundary (join (leftTokens r) (lastToken r))
      ('[' :: (inside ++ ':' :: decimal port)) := by
    obtain ⟨l, rem, p⟩ := r
    dsimp only at hr hl
    subst hr
    cases l with
    | inet host port' =>
        have htoken : IsToken (formatHost host) := isToken_formatHost (hl host port' rfl)
        refine ⟨[formatHost host, decimal port'], ?_, ?_⟩
        · have hport : IsToken (decimal port') := .inl (isPlain_decimal port')
          simp [htoken, hport]
        · simp [leftTokens, lastToken, join, hhost]
    | stdio =>
        refine ⟨["stdio".toList], ?_, ?_⟩
        · simp [IsToken, IsPlain]
        · simp [leftTokens, lastToken, join, hhost]
  have hnot : ']' ∉ inside ++ ':' :: decimal port := by
    simp [hbracket, not_mem_decimal port (by decide : ']'.isDigit = false)]
  rw [(tokenizeRemote_host_iff _).2 ⟨_, hboundary, hnot⟩] at htokens
  cases htokens

end Format

/-- Specifications with brackets that change the meaning: around a local host `stdio` beside a
SOCKS remote, or around a host that has an opening bracket at its start, and no colon. -/
def Misprinted (s : Text) : Prop :=
  ∃ rest tokens, HasRest s rest ∧ [':'].intercalate tokens = rest ∧ (∀ t ∈ tokens, IsToken t) ∧
    ((∃ port, tokens = ["[stdio]".toList, port, "socks".toList]) ∨
      ∃ inside, ':' ∉ inside ∧ '[' :: '[' :: inside ++ [']'] ∈ tokens)

/-- A text is cut into tokens in one way, if the tokenizer gives any. -/
lemma tokens_unique {s : Text} {tokens tokens' : List Text} (h : tokenizeRemote s = .ok tokens)
    (hs : [':'].intercalate tokens' = s) (htokens : ∀ t ∈ tokens', IsToken t) (hne : tokens' ≠ []) :
    tokens' = tokens := by
  rcases List.eq_nil_or_concat tokens' with rfl | ⟨left, last, rfl⟩
  · exact absurd rfl hne
  · rw [List.concat_eq_append] at hs htokens ⊢
    rw [intercalate_append] at hs
    have hleft : ∀ t ∈ left, IsToken t := fun t ht => htokens t (by simp [ht])
    rcases htokens last (by simp) with hlast | hlast
    · have := (tokenizeRemote_ok_iff s (left ++ [last])).2 ⟨left, last, hleft, hlast, rfl, hs.symm⟩
      exact Except.ok.inj (this.symm.trans h)
    · have := (tokenizeRemote_panic_iff s).2 ⟨left, last, hleft, hlast, hs.symm⟩
      rw [this] at h
      cases h

lemma misprinted_iff {s rest : Text} {tokens : List Text} (hrest : HasRest s rest)
    (h : tokenizeRemote rest = .ok tokens) :
    Misprinted s ↔ (∃ port, tokens = ["[stdio]".toList, port, "socks".toList]) ∨
      ∃ inside, ':' ∉ inside ∧ '[' :: '[' :: inside ++ [']'] ∈ tokens := by
  constructor
  · rintro ⟨rest', tokens', hrest', hs, htokens, hbad⟩
    obtain rfl := hrest.unique hrest'
    have hne : tokens' ≠ [] := by
      rintro rfl
      rcases hbad with ⟨port, hp⟩ | ⟨inside, -, hmem⟩
      · cases hp
      · cases hmem
    obtain rfl := tokens_unique h hs htokens hne
    exact hbad
  · intro hbad
    obtain ⟨hjoin, -, htokens⟩ := tokens_spec h
    exact ⟨rest, tokens, hrest, hjoin, htokens, hbad⟩

/-- **Which specifications are printed as what they were parsed to**: all of them that are parsed,
but for those whose brackets change the meaning. -/
theorem fromStr_format_iff (defaultIsIpv6 : Bool) (s : Text) (r : Remote)
    (h : fromStr defaultIsIpv6 s = .ok r) :
    fromStr defaultIsIpv6 (format r) = .ok r ↔ ¬ Misprinted s := by
  obtain ⟨rest, tokens, hrest, htokens, hsides, hudp⟩ := (fromStr_ok_iff _ _ _).1 h
  have hreads := reads_of_sides hsides
  have htoken : ∀ t ∈ tokens, IsToken t := (tokens_spec htokens).2.2
  rw [misprinted_iff ((splitProtocol_ok_iff s rest).1 ⟨_, hrest⟩) htokens,
    ← hreads.stdio_iff htoken, not_or]
  constructor
  · intro hback
    refine ⟨?_, ?_⟩
    · rintro ⟨port, hl, hr⟩
      exact fromStr_format_ne_of_stdio hl hr hback
    · rintro ⟨inside, hcolon, hmem⟩
      have hnot : ¬ Printable ('[' :: inside) := fun hp => hp.2 (by simp [hcolon]) rfl
      have hbracket : ']' ∉ inside := by
        rcases htoken _ hmem with hplain | ⟨inside', hin, heq⟩
        · exact absurd rfl hplain.2
        · obtain rfl := (List.cons.inj (List.append_cancel_right heq)).2
          exact fun hb => hin (by simp [hb])
      have hhost : HasHost r.localAddr r.remoteAddr ('[' :: inside) := hreads.hasHost hmem
      cases hhost with
      | localHost hl => exact fromStr_format_ne_of_local hcolon hl hback
      | remoteHost hr =>
          by_cases hl : ∀ host port, r.localAddr = .inet host port → Printable host
          · exact fromStr_format_ne_of_remote hcolon hbracket hr hl hback
          · push Not at hl
            obtain ⟨host, port, hl, hprint⟩ := hl
            rcases hreads.printable htoken (.localHost hl) with hp | ⟨inside', hc, -, rfl, -⟩
            · exact hprint hp
            · exact fromStr_format_ne_of_local hc hl hback
  · rintro ⟨hstdio, hbad⟩
    refine fromStr_format_of_printable hudp ?_ hstdio
    intro host hhost
    rcases hreads.printable htoken hhost with hp | ⟨inside, hc, -, -, hmem⟩
    · exact hp
    · exact absurd ⟨inside, hc, hmem⟩ hbad

theorem fromStr_format_port :
    fromStr false "3000".toList =
      .ok ⟨.inet "0.0.0.0".toList 3000, .inet "127.0.0.1".toList 3000, .tcp⟩ ∧
    (fromStr false
        (format ⟨.inet "0.0.0.0".toList 3000, .inet "127.0.0.1".toList 3000, .tcp⟩) =
      .ok ⟨.inet "0.0.0.0".toList 3000, .inet "127.0.0.1".toList 3000, .tcp⟩ ↔
    ¬ Misprinted "3000".toList) := by
  have h : fromStr false "3000".toList =
      .ok ⟨.inet "0.0.0.0".toList 3000, .inet "127.0.0.1".toList 3000, .tcp⟩ := by decide
  exact ⟨h, fromStr_format_iff false _ _ h⟩

theorem fromStr_format_stdio_fails :
    ∃ r, fromStr false "[stdio]:1080:socks".toList = .ok r ∧
      fromStr false (format r) ≠ .ok r := by
  refine ⟨⟨.inet "stdio".toList 1080, .socks, .tcp⟩, by decide, ?_⟩
  exact fromStr_format_ne_of_stdio rfl rfl

end Penguin.Client.FormatRemote
