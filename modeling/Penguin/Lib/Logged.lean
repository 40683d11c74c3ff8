import Penguin.Lib.Loop

/-!
Programs that call out and keep a log.

What a program asks of its surroundings is answered by functions of everything that has happened
before, so the surroundings may be anything. A program gives a result or a fault, and the log as it
is then, and what holds of the log is shown with rules for pre- and postconditions.
-/

namespace Penguin.Lib.Logged

variable {E F A B S : Type}

/-- A program with events `E`, faults `F` and results `A`. -/
def Prog (E F A : Type) : Type := List E → List E × Except F A

namespace Prog

protected def pure (a : A) : Prog E F A := fun log => (log, .ok a)

protected def bind (x : Prog E F A) (f : A → Prog E F B) : Prog E F B := fun log =>
  match x log with
  | (log, .ok a) => f a log
  | (log, .error e) => (log, .error e)

instance : Monad (Prog E F) where
  pure := Prog.pure
  bind := Prog.bind

def fail (e : F) : Prog E F A := fun log => (log, .error e)

/-- An event. -/
def emit (e : E) : Prog E F Unit := fun log => (log ++ [e], .ok ())

/-- A question, with the event that its answer makes. -/
def ask (answer : List E → Except F A) (event : Except F A → E) : Prog E F A := fun log =>
  (log ++ [event (answer log)], answer log)

/-- The result as a value, if it is a fault too. -/
def attempt (x : Prog E F A) : Prog E F (Except F A) := fun log => ((x log).1, .ok (x log).2)

/-- An iteration of a loop, on the log and the state. -/
def iteration (body : S → Prog E F (S ⊕ A)) (x : List E × S) :
    (List E × S) ⊕ (List E × Except F A) :=
  match body x.2 x.1 with
  | (log, .ok (.inl s)) => .inl (log, s)
  | (log, .ok (.inr a)) => .inr (log, .ok a)
  | (log, .error e) => .inr (log, .error e)

/-- `loop { .. }`, for at most `n` iterations, and a fault for want of more. -/
def loop (outOfFuel : F) (n : ℕ) (body : S → Prog E F (S ⊕ A)) (s : S) : Prog E F A := fun log =>
  (Loop.loop (iteration body) n (log, s)).getD (log, .error outOfFuel)

end Prog

/-! ### Rules -/

/-- From a log of which `P` holds, the program comes to a result and a log of which `Q` holds, or to
a fault and a log of which `R` holds. -/
def Holds (P : List E → Prop) (x : Prog E F A) (Q : A → List E → Prop) (R : F → List E → Prop) :
    Prop :=
  ∀ log, P log → match x log with
    | (log, .ok a) => Q a log
    | (log, .error e) => R e log

variable {P : List E → Prop} {Q : A → List E → Prop} {Q' : B → List E → Prop}
  {R : F → List E → Prop} {x : Prog E F A}

namespace Holds

lemma pure {a : A} (h : ∀ log, P log → Q a log) : Holds P (Pure.pure a) Q R := h

lemma bind {f : A → Prog E F B} (hx : Holds P x Q R) (hf : ∀ a, Holds (Q a) (f a) Q' R) :
    Holds P (x >>= f) Q' R := by
  intro log hP
  have hx := hx log hP
  show match Prog.bind x f log with
    | (log, .ok a) => Q' a log
    | (log, .error e) => R e log
  unfold Prog.bind
  rcases hxlog : x log with ⟨log', r⟩
  rw [hxlog] at hx
  cases r with
  | ok a => exact hf a log' hx
  | error e => exact hx

lemma fail {e : F} (h : ∀ log, P log → R e log) : Holds P (Prog.fail e) Q R := h

lemma emit {e : E} {Q : Unit → List E → Prop} (h : ∀ log, P log → Q () (log ++ [e])) :
    Holds P (Prog.emit e) Q R := h

lemma ask {answer : List E → Except F A} {event : Except F A → E}
    (hok : ∀ log a, P log → answer log = .ok a → Q a (log ++ [event (.ok a)]))
    (herror : ∀ log e, P log → answer log = .error e → R e (log ++ [event (.error e)])) :
    Holds P (Prog.ask answer event) Q R := by
  intro log hP
  unfold Prog.ask
  cases hanswer : answer log with
  | ok a => exact hok log a hP hanswer
  | error e => exact herror log e hP hanswer

lemma attempt {Q' : Except F A → List E → Prop}
    (hx : Holds P x (fun a => Q' (.ok a)) (fun e => Q' (.error e))) :
    Holds P x.attempt Q' R := by
  intro log hP
  have hx := hx log hP
  unfold Prog.attempt
  rcases hxlog : x log with ⟨log', r⟩
  rw [hxlog] at hx
  cases r with
  | ok a => exact hx
  | error e => exact hx

lemma ite {c : Prop} [Decidable c] {y : Prog E F A} (hx : c → Holds P x Q R)
    (hy : ¬ c → Holds P y Q R) : Holds P (if c then x else y) Q R := by
  split_ifs with h
  · exact hx h
  · exact hy h

/-- **Invariant rule** for loops. -/
lemma loop {I : S → List E → Prop} {body : S → Prog E F (S ⊕ A)} {outOfFuel : F} {n : ℕ} {s : S}
    (hbody : ∀ s, Holds (I s) (body s)
      (fun y log => y.elim (fun s => I s log) (fun a => Q a log)) R)
    (hfuel : ∀ log, R outOfFuel log) : Holds (I s) (Prog.loop outOfFuel n body s) Q R := by
  intro log hI
  unfold Prog.loop
  cases hloop : Loop.loop (Prog.iteration body) n (log, s) with
  | none => exact hfuel log
  | some out =>
      refine Loop.loop_invariant (I := fun x : List E × S => I x.2 x.1)
        (Q := fun out : List E × Except F A => match out with
          | (log, .ok a) => Q a log
          | (log, .error e) => R e log) ?_ ?_ hI hloop
      · rintro ⟨log, s⟩ ⟨log', s'⟩ hI hb
        have h := hbody s log hI
        simp only [Prog.iteration] at hb
        split at hb
        · rename_i hrun
          cases hb
          rw [hrun] at h
          exact h
        · cases hb
        · cases hb
      · rintro ⟨log, s⟩ out hI hb
        have h := hbody s log hI
        simp only [Prog.iteration] at hb
        split at hb
        · cases hb
        · rename_i hrun
          cases hb
          rw [hrun] at h
          exact h
        · rename_i hrun
          cases hb
          rw [hrun] at h
          exact h

end Holds

/-! ### Traces -/

/-- What the program adds to the log, with its result, is in a set of traces. -/
def Emits (x : Prog E F A) (T : List E → Except F A → Prop) : Prop :=
  ∀ log, ∃ t, (x log).1 = log ++ t ∧ T t (x log).2

namespace Emits

variable {x : Prog E F A} {T T' : List E → Except F A → Prop} {U : List E → Except F B → Prop}

lemma mono (hx : Emits x T) (h : ∀ t r, T t r → T' t r) : Emits x T' := by
  intro log
  obtain ⟨t, hlog, ht⟩ := hx log
  exact ⟨t, hlog, h t _ ht⟩

lemma pure {a : A} (h : T [] (.ok a)) : Emits (Pure.pure a) T := fun log =>
  ⟨[], (List.append_nil log).symm, h⟩

lemma fail {e : F} (h : T [] (.error e)) : Emits (Prog.fail e) T := fun log =>
  ⟨[], (List.append_nil log).symm, h⟩

lemma emit {e : E} {T : List E → Except F Unit → Prop} (h : T [e] (.ok ())) :
    Emits (Prog.emit e) T := fun _ => ⟨[e], rfl, h⟩

lemma ask {answer : List E → Except F A} {event : Except F A → E}
    (h : ∀ log, T [event (answer log)] (answer log)) : Emits (Prog.ask answer event) T := fun log =>
  ⟨[event (answer log)], rfl, h log⟩

/-- One program after the other: a fault of the first is one of both. -/
lemma bind {f : A → Prog E F B} (hx : Emits x T) (herror : ∀ t e, T t (.error e) → U t (.error e))
    (hf : ∀ t a, T t (.ok a) → Emits (f a) fun t' r => U (t ++ t') r) : Emits (x >>= f) U := by
  intro log
  obtain ⟨t, hlog, ht⟩ := hx log
  show ∃ t, (Prog.bind x f log).1 = log ++ t ∧ U t (Prog.bind x f log).2
  unfold Prog.bind
  rcases hxlog : x log with ⟨log', r⟩
  rw [hxlog] at hlog ht
  cases r with
  | error e => exact ⟨t, hlog, herror t e ht⟩
  | ok a =>
      obtain ⟨t', hlog', ht'⟩ := hf t a ht log'
      have hlog : log' = log ++ t := hlog
      exact ⟨t ++ t', by rw [hlog', hlog, List.append_assoc], ht'⟩

lemma attempt {T : List E → Except F (Except F A) → Prop} (hx : Emits x fun t r => T t (.ok r)) :
    Emits x.attempt T := hx

lemma ite {c : Prop} [Decidable c] {y : Prog E F A} (hx : c → Emits x T) (hy : ¬ c → Emits y T) :
    Emits (if c then x else y) T := by
  split_ifs with h
  · exact hx h
  · exact hy h

end Emits

end Penguin.Lib.Logged
