import Mathlib

/-!
Runs of a labelled partial step function.

A machine is a function that says, for a state and a label, whether the step can be taken
and where it leads. Runs may be restricted to steps that meet a condition on the state
before the step and the label, which is how assumptions on the environment are stated.
-/

namespace Penguin.Lib.Transition

variable {S L : Type*}

/-- The states reached from `s₀` by steps that all meet `ok`. -/
inductive Reach (step : S → L → Option S) (ok : S → L → Prop) (s₀ : S) : S → Prop
  | start : Reach step ok s₀ s₀
  | next {s s' : S} {l : L} (h : Reach step ok s₀ s) (hok : ok s l) (hs : step s l = some s') :
      Reach step ok s₀ s'

/-- No restriction on the steps of a run. -/
abbrev Any : S → L → Prop := fun _ _ => True

variable {step : S → L → Option S} {ok : S → L → Prop} {s₀ : S}

/-- **Invariant rule**: what holds at the start and survives every allowed step holds in
every state reached. -/
theorem Reach.invariant {I : S → Prop} (hstart : I s₀)
    (hnext : ∀ s l s', I s → ok s l → step s l = some s' → I s') {s : S}
    (h : Reach step ok s₀ s) : I s := by
  induction h with
  | start => exact hstart
  | next _ hok hs ih => exact hnext _ _ _ ih hok hs

/-- A condition that the steps that are taken meet anyway may be added. -/
lemma Reach.mono {ok' : S → L → Prop} (hle : ∀ s l s', ok s l → step s l = some s' → ok' s l)
    {s : S} (h : Reach step ok s₀ s) : Reach step ok' s₀ s := by
  induction h with
  | start => exact .start
  | next _ hok hs ih => exact .next ih (hle _ _ _ hok hs) hs

lemma Reach.trans {s s' : S} (h : Reach step ok s₀ s) (h' : Reach step ok s s') :
    Reach step ok s₀ s' := by
  induction h' with
  | start => exact h
  | next _ hok hs ih => exact .next ih hok hs

/-- **Simulation rule**: a machine whose steps another can follow, with none or several of its own,
is followed by it wherever it gets. -/
theorem Reach.simulates {T M : Type*} {step' : T → M → Option T} {ok' : T → M → Prop} {t₀ : T}
    {R : S → T → Prop} (hstart : R s₀ t₀)
    (hnext : ∀ s l s' t, Reach step ok s₀ s → R s t → ok s l → step s l = some s' →
      ∃ t', R s' t' ∧ Reach step' ok' t t') {s : S} (h : Reach step ok s₀ s) :
    ∃ t, R s t ∧ Reach step' ok' t₀ t := by
  induction h with
  | start => exact ⟨t₀, hstart, .start⟩
  | next hs hok hstep ih =>
      obtain ⟨t, hR, ht⟩ := ih
      obtain ⟨t', hR', ht'⟩ := hnext _ _ _ t hs hR hok hstep
      exact ⟨t', hR', ht.trans ht'⟩

/-- Taking the steps of a list of labels one after the other. -/
def run (step : S → L → Option S) : S → List L → Option S
  | s, [] => some s
  | s, l :: ls => (step s l).bind fun s' => run step s' ls

lemma run_append (s : S) (ls ls' : List L) :
    run step s (ls ++ ls') = (run step s ls).bind fun s' => run step s' ls' := by
  induction ls generalizing s with
  | nil => rfl
  | cons l ls ih =>
      cases hs : step s l with
      | none => simp [run, hs]
      | some s₁ => simp [run, hs, ih]

/-- Every step of the run meets the condition. -/
def RunMeets (step : S → L → Option S) (ok : S → L → Prop) : S → List L → Prop
  | _, [] => True
  | s, l :: ls => ok s l ∧ ∀ s', step s l = some s' → RunMeets step ok s' ls

instance decidableRunMeets [∀ s l, Decidable (ok s l)] :
    ∀ (ls : List L) (s : S), Decidable (RunMeets step ok s ls)
  | [], _ => isTrue trivial
  | l :: ls, s =>
    have : Decidable (∀ s', step s l = some s' → RunMeets step ok s' ls) :=
      match h : step s l with
      | none => isTrue fun _ h' => by cases h'
      | some s₁ =>
        have := decidableRunMeets ls s₁
        decidable_of_iff (RunMeets step ok s₁ ls) (by simp)
    inferInstanceAs (Decidable (ok s l ∧ ∀ s', step s l = some s' → RunMeets step ok s' ls))

/-- Labels that meet the condition wherever they are taken. -/
lemma runMeets_of_forall {ls : List L} (h : ∀ l ∈ ls, ∀ s, ok s l) (s : S) :
    RunMeets step ok s ls := by
  induction ls generalizing s with
  | nil => trivial
  | cons l ls ih =>
      exact ⟨h l (by simp) s, fun s' _ => ih (fun l' hl' => h l' (by simp [hl'])) s'⟩

lemma RunMeets.mono {ok' : S → L → Prop} (hle : ∀ s l, ok s l → ok' s l) {s : S} {ls : List L}
    (h : RunMeets step ok s ls) : RunMeets step ok' s ls := by
  induction ls generalizing s with
  | nil => trivial
  | cons l ls ih => exact ⟨hle s l h.1, fun s' hs => ih (h.2 s' hs)⟩

lemma RunMeets.and {ok' : S → L → Prop} {s : S} {ls : List L} (h : RunMeets step ok s ls)
    (h' : RunMeets step ok' s ls) : RunMeets step (fun s l => ok s l ∧ ok' s l) s ls := by
  induction ls generalizing s with
  | nil => trivial
  | cons l ls ih => exact ⟨⟨h.1, h'.1⟩, fun s' hs => ih (h.2 s' hs) (h'.2 s' hs)⟩

/-- **Survival rule**: where every step leaves `Q` as it was, but takes it if the condition is not
met, `Q` holds at the end of a run if it held at the start and every step met the condition. -/
theorem iff_runMeets {I Q : S → Prop} (hI : ∀ s l s', I s → step s l = some s' → I s')
    (hQ : ∀ s l s', I s → step s l = some s' → (Q s' ↔ Q s ∧ ok s l)) {s s' : S} {ls : List L}
    (hs : I s) (hrun : run step s ls = some s') : Q s' ↔ Q s ∧ RunMeets step ok s ls := by
  induction ls generalizing s with
  | nil =>
      obtain rfl := Option.some.inj hrun
      exact (and_iff_left trivial).symm
  | cons l ls ih =>
      obtain ⟨s₁, hs₁, hrest⟩ := Option.bind_eq_some_iff.mp hrun
      have hmeets : RunMeets step ok s (l :: ls) ↔ ok s l ∧ RunMeets step ok s₁ ls := by
        simp [RunMeets, hs₁]
      rw [ih (hI s l s₁ hs hs₁) hrest, hQ s l s₁ hs hs₁, hmeets, and_assoc]

lemma reach_of_run {s : S} {ls : List L} (h : run step s₀ ls = some s)
    (hok : RunMeets step ok s₀ ls) : Reach step ok s₀ s := by
  induction ls generalizing s₀ with
  | nil =>
      obtain rfl := Option.some.inj h
      exact .start
  | cons l ls ih =>
      cases hs : step s₀ l with
      | none => simp [run, hs] at h
      | some s₁ =>
          have hfirst : Reach step ok s₀ s₁ := .next .start hok.1 hs
          exact hfirst.trans (ih (by simpa [run, hs] using h) (hok.2 s₁ hs))

/-- **Measure rule**: a run whose steps all make a number smaller is no longer than the number. -/
theorem length_add_le_of_run {μ : S → ℕ}
    (hdec : ∀ s l s', ok s l → step s l = some s' → μ s' < μ s) {s s' : S} {ls : List L}
    (h : run step s ls = some s') (hok : RunMeets step ok s ls) : ls.length + μ s' ≤ μ s := by
  induction ls generalizing s with
  | nil =>
      obtain rfl := Option.some.inj h
      simp
  | cons l ls ih =>
      cases hs : step s l with
      | none => simp [run, hs] at h
      | some s₁ =>
          have hlt := hdec s l s₁ hok.1 hs
          have hrest := ih (by simpa [run, hs] using h) (hok.2 s₁ hs)
          rw [List.length_cons]
          omega

end Penguin.Lib.Transition
