import Mathlib.Logic.Basic
import Mathlib.Tactic.TypeStar

/-!
# Purging what a client did not call

A deterministic service takes calls from several clients. `own` picks the calls of one of them. The client is
isolated if the answers to its calls do not change when the calls of all the others are struck out.

| here | meaning |
|---|---|
| `Service` | a step function and the answer to each call |
| `after` | the state after a list of calls, the first call at the head |
| `answers` | the answers to the client's own calls, in their order |
| `Quiet` | every call of the list keeps a side condition, in the state it is made in |
| `Unwinding` | the conditions on single calls |

`Unwinding.purge` reduces isolation, a statement about whole sequences of calls, to conditions on single calls.
-/

namespace PqsecDds.Lib

structure Service (σ ℓ ω : Type*) where
  step : σ → ℓ → σ
  answer : σ → ℓ → ω

variable {σ ℓ ω : Type*}

namespace Service

def after (M : Service σ ℓ ω) : σ → List ℓ → σ
  | s, [] => s
  | s, l :: ls => M.after (M.step s l) ls

def answers (M : Service σ ℓ ω) (own : ℓ → Bool) : σ → List ℓ → List ω
  | _, [] => []
  | s, l :: ls => if own l then M.answer s l :: M.answers own (M.step s l) ls else M.answers own (M.step s l) ls

def Quiet (M : Service σ ℓ ω) (P : σ → ℓ → Prop) : σ → List ℓ → Prop
  | _, [] => True
  | s, l :: ls => P s l ∧ M.Quiet P (M.step s l) ls

end Service

open Service

/-- Two states agree (`R`) when the client cannot tell them apart. `J` is an invariant of the service and `P` the side
condition on its calls. -/
structure Unwinding (M : Service σ ℓ ω) (own : ℓ → Bool) (J : σ → Prop) (P : σ → ℓ → Prop) (R : σ → σ → Prop) :
    Prop where
  invariant : ∀ {s l}, J s → J (M.step s l)
  /-- A call of another client is not noticed. -/
  foreign : ∀ {s t l}, J s → P s l → own l = false → R s t → R (M.step s l) t
  /-- A call of the client's own leads from states that agree to states that agree, with the same answer. -/
  own_call : ∀ {s t l}, J s → P s l → own l = true → R s t → M.answer s l = M.answer t l ∧ R (M.step s l) (M.step t l)

namespace Unwinding

variable {M : Service σ ℓ ω} {own : ℓ → Bool} {J : σ → Prop} {P : σ → ℓ → Prop} {R : σ → σ → Prop}

/-- The client gets the same answers, and the two services still agree when all calls are made. -/
theorem purge (h : Unwinding M own J P R) (ls : List ℓ) :
    ∀ {s t : σ}, J s → R s t → M.Quiet P s ls →
      M.answers own s ls = M.answers own t (ls.filter own) ∧ R (M.after s ls) (M.after t (ls.filter own)) := by
  induction ls with
  | nil =>
    intro s t _ hR _
    exact ⟨rfl, hR⟩
  | cons l ls ih =>
    intro s t hJ hR hP
    by_cases hl : own l = true
    · obtain ⟨hans, hnext⟩ := h.own_call hJ hP.1 hl hR
      obtain ⟨hrest, hend⟩ := ih (h.invariant hJ) hnext hP.2
      rw [List.filter_cons_of_pos hl]
      simp only [answers, after, hl, if_true]
      exact ⟨by rw [hans, hrest], hend⟩
    · have hl' : own l = false := by simpa using hl
      obtain ⟨hrest, hend⟩ := ih (h.invariant hJ) (h.foreign hJ hP.1 hl' hR) hP.2
      rw [List.filter_cons_of_neg hl]
      simp only [answers, after, hl]
      exact ⟨hrest, hend⟩

end Unwinding

end PqsecDds.Lib
