import PqsecDds.Lib.Run
import Mathlib.Tactic.Tauto

/-!
# What has happened and was not undone since

`Since A B tr`: the trace has an event in `A`, and no later event is in `B`. A flag of the state that the events in `A`
set and those in `B` clear is on exactly then (`Run.iff_since`).
-/

namespace PqsecDds.Lib

variable {σ ℓ : Type*} {S : System σ ℓ} {A B : σ × ℓ → Prop} {tr : Trace σ ℓ} {s : σ}

def Since (A B : σ × ℓ → Prop) (tr : Trace σ ℓ) : Prop :=
  ∃ later e before, tr = later ++ e :: before ∧ A e ∧ ∀ e' ∈ later, ¬ B e'

theorem not_since_nil : ¬ Since A B ([] : Trace σ ℓ) := by
  rintro ⟨later, e, before, h, -⟩
  simp at h

theorem since_cons (e : σ × ℓ) : Since A B (e :: tr) ↔ A e ∨ Since A B tr ∧ ¬ B e := by
  constructor
  · rintro ⟨later, e', before, heq, hA, hB⟩
    cases later with
    | nil =>
      obtain ⟨rfl, rfl⟩ := List.cons.inj heq
      exact .inl hA
    | cons x later =>
      obtain ⟨rfl, rfl⟩ := List.cons.inj heq
      exact .inr ⟨⟨later, e', before, rfl, hA, fun y hy => hB y (List.mem_cons_of_mem _ hy)⟩, hB _ List.mem_cons_self⟩
  · rintro (hA | ⟨⟨later, e', before, rfl, hA, hB⟩, he⟩)
    · exact ⟨[], e, tr, rfl, hA, nofun⟩
    · refine ⟨e :: later, e', before, rfl, hA, fun y hy => ?_⟩
      rcases List.mem_cons.1 hy with rfl | hy
      · exact he
      · exact hB y hy

theorem Run.iff_since {Q : σ → Prop} (h0 : ∀ s, S.init s → ¬ Q s)
    (hstep : ∀ tr s l s', Run S tr s → S.step s l s' → (Q s' ↔ A (s, l) ∨ Q s ∧ ¬ B (s, l))) (hr : Run S tr s) :
    Q s ↔ Since A B tr := by
  induction hr with
  | init h => exact iff_of_false (h0 _ h) not_since_nil
  | @step tr s l s' hr hs ih => rw [since_cons, hstep tr s l s' hr hs, ih]

end PqsecDds.Lib
