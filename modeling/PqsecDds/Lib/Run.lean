import Mathlib.Tactic.TypeStar

/-!
# Runs of a labelled transition system

| here | meaning |
|---|---|
| `System` | initial states and a step relation |
| `Trace` | the (pre-state, label) pairs of a run, the latest first |
| `Run S tr s` | from an initial state, `tr` leads to `s` |
| `Steps S s tr s'` | from `s`, `tr` leads to `s'` |

A property of the past is a property of the trace, so no state has to carry history of its own.
-/

namespace PqsecDds.Lib

structure System (σ ℓ : Type*) where
  init : σ → Prop
  step : σ → ℓ → σ → Prop

abbrev Trace (σ ℓ : Type*) := List (σ × ℓ)

variable {σ ℓ : Type*}

inductive Run (S : System σ ℓ) : Trace σ ℓ → σ → Prop
  | init {s} (h : S.init s) : Run S [] s
  | step {tr s l s'} (hr : Run S tr s) (hs : S.step s l s') : Run S ((s, l) :: tr) s'

inductive Steps (S : System σ ℓ) (s₀ : σ) : Trace σ ℓ → σ → Prop
  | refl : Steps S s₀ [] s₀
  | step {tr s l s'} (hr : Steps S s₀ tr s) (hs : S.step s l s') : Steps S s₀ ((s, l) :: tr) s'

variable {S : System σ ℓ}

namespace Run

/-- The invariant rule: what holds initially and is kept by every step holds in every reached state.
A step may use that its pre-state is reached. -/
theorem inv {I : Trace σ ℓ → σ → Prop} (h0 : ∀ s, S.init s → I [] s)
    (hstep : ∀ tr s l s', Run S tr s → I tr s → S.step s l s' → I ((s, l) :: tr) s')
    {tr : Trace σ ℓ} {s : σ} (hr : Run S tr s) : I tr s := by
  induction hr with
  | init h => exact h0 _ h
  | step hr hs ih => exact hstep _ _ _ _ hr ih hs

/-- The invariant rule for properties of the state alone. -/
theorem state_inv {I : σ → Prop} (h0 : ∀ s, S.init s → I s)
    (hstep : ∀ s l s', I s → S.step s l s' → I s') {tr : Trace σ ℓ} {s : σ} (hr : Run S tr s) : I s :=
  hr.inv (I := fun _ s => I s) h0 fun _ s l s' _ hI hs => hstep s l s' hI hs

theorem append {tr tr' : Trace σ ℓ} {s s' : σ} (hr : Run S tr s) (hs : Steps S s tr' s') :
    Run S (tr' ++ tr) s' := by
  induction hs with
  | refl => exact hr
  | step _ hs ih => exact .step ih hs

/-- A run splits at each of its steps. -/
theorem split {tr₁ tr₀ : Trace σ ℓ} {s₁ s : σ} {l : ℓ} (hr : Run S (tr₁ ++ (s₁, l) :: tr₀) s) :
    ∃ s₂, Run S tr₀ s₁ ∧ S.step s₁ l s₂ ∧ Steps S s₂ tr₁ s := by
  induction tr₁ generalizing s with
  | nil =>
    cases hr with
    | step hr hs => exact ⟨s, hr, hs, .refl⟩
  | cons e tr₁ ih =>
    cases hr with
    | step hr hs =>
      obtain ⟨s₂, h0, h1, h2⟩ := ih hr
      exact ⟨s₂, h0, h1, .step h2 hs⟩

/-- Every event of a trace was a step of the run, taken in a state the run had reached. -/
theorem of_mem {tr : Trace σ ℓ} {s s₁ : σ} {l : ℓ} (hr : Run S tr s) (he : (s₁, l) ∈ tr) :
    ∃ tr₁ tr₀ s₂, tr = tr₁ ++ (s₁, l) :: tr₀ ∧ Run S tr₀ s₁ ∧ S.step s₁ l s₂ ∧ Steps S s₂ tr₁ s := by
  obtain ⟨tr₁, tr₀, rfl⟩ := List.append_of_mem he
  obtain ⟨s₂, h⟩ := hr.split
  exact ⟨tr₁, tr₀, s₂, rfl, h⟩

/-- A system whose steps are steps of another one has no runs the other one lacks. `J` is what the
first system is already known to keep. -/
theorem weaken {S' : System σ ℓ} {J : Trace σ ℓ → σ → Prop} {tr : Trace σ ℓ} {s : σ} (hr : Run S tr s)
    (h0 : ∀ s, S.init s → S'.init s) (hJ : ∀ {tr s}, Run S tr s → J tr s)
    (hstep : ∀ {tr s l s'}, J tr s → S.step s l s' → S'.step s l s') : Run S' tr s := by
  induction hr with
  | init h => exact .init (h0 _ h)
  | step hr hs ih => exact .step ih (hstep (hJ hr) hs)

end Run

namespace Steps

/-- What every step preserves, a sequence of steps preserves. -/
theorem inv {I : σ → Prop} (hstep : ∀ s l s', I s → S.step s l s' → I s') {s s' : σ}
    {tr : Trace σ ℓ} (hs : Steps S s tr s') (h : I s) : I s' := by
  induction hs with
  | refl => exact h
  | step _ hs ih => exact hstep _ _ _ ih hs

/-- What every step of a kind preserves, a sequence of such steps preserves. A step may use how its pre-state was
reached. -/
theorem inv_of {I : σ → Prop} {P : σ × ℓ → Prop} {tr : Trace σ ℓ} {s₀ s : σ} (hs : Steps S s₀ tr s)
    (hP : ∀ e ∈ tr, P e)
    (hstep : ∀ tr s l s', Steps S s₀ tr s → I s → P (s, l) → S.step s l s' → I s') (h : I s₀) : I s := by
  induction hs with
  | refl => exact h
  | step hs' hs ih =>
    have hI := ih fun e he => hP e (List.mem_cons_of_mem _ he)
    exact hstep _ _ _ _ hs' hI (hP _ List.mem_cons_self) hs

end Steps

end PqsecDds.Lib
