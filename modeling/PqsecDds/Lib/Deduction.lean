import Mathlib.Data.Set.Basic

/-!
# Deduction from known facts, and a letter type with opaque terms

`Derives rule K` closes what is known under inference rules. To show that something cannot be derived,
exhibit a set that contains everything known, is closed under the rules, and misses it
(`Derives.mem_of_closed`).

`Letter β F` adds to the letters `β` the pieces of opaque terms `f args`: the free interpretation of
functions on words, in which two applications are equal only when they are the same application.
-/

namespace PqsecDds.Lib

section

variable {A : Type*}

inductive Derives (rule : List A → A → Prop) (K : Set A) : A → Prop
  | known {a} (h : a ∈ K) : Derives rule K a
  | infer {ps a} (h : rule ps a) (hps : ∀ p ∈ ps, Derives rule K p) : Derives rule K a

variable {rule : List A → A → Prop} {K : Set A} {a : A}

theorem Derives.mem_of_closed {S : Set A} (hK : K ⊆ S)
    (hS : ∀ ps a, rule ps a → (∀ p ∈ ps, p ∈ S) → a ∈ S) (h : Derives rule K a) : a ∈ S := by
  induction h with
  | known h => exact hK h
  | infer h _ ih => exact hS _ _ h ih

end

inductive Letter (β F : Type) where
  | base (b : β)
  | cell (f : F) (args : List (Letter β F)) (i : Nat)

namespace Letter

variable {β F : Type} [DecidableEq β] [DecidableEq F]

mutual

/-- Equality of letters compares the arguments of opaque terms letter by letter. -/
def decEq : (x y : Letter β F) → Decidable (x = y)
  | .base b, .base c => if h : b = c then .isTrue (by rw [h]) else .isFalse (by simp [h])
  | .base _, .cell .. => .isFalse (by simp)
  | .cell .., .base _ => .isFalse (by simp)
  | .cell f xs i, .cell g ys j =>
    if hf : f = g ∧ i = j then
      match decEqWord xs ys with
      | .isTrue h => .isTrue (by rw [hf.1, hf.2, h])
      | .isFalse h => .isFalse (by simp [h])
    else .isFalse fun heq => by
      injection heq with h1 h2 h3
      exact hf ⟨h1, h3⟩

def decEqWord : (xs ys : List (Letter β F)) → Decidable (xs = ys)
  | [], [] => .isTrue rfl
  | [], _ :: _ => .isFalse (by simp)
  | _ :: _, [] => .isFalse (by simp)
  | x :: xs, y :: ys =>
    match decEq x y with
    | .isFalse h => .isFalse (by simp [h])
    | .isTrue hx =>
      match decEqWord xs ys with
      | .isTrue h => .isTrue (by rw [hx, h])
      | .isFalse h => .isFalse (by simp [h])

end

instance : DecidableEq (Letter β F) := decEq

end Letter

end PqsecDds.Lib
