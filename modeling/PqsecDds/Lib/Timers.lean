import Mathlib.Data.List.AList
import Mathlib.Logic.Function.Basic

/-!
# Owners and their timers

A dispatcher holds armed triggers, each with its owner. An owner keeps the number of its trigger, or 0 when none is
armed. `Matches` says that the two sides agree: what an owner keeps is armed and its own, and nothing else is armed.
-/

namespace PqsecDds.Lib

variable {α β : Type} [DecidableEq α]

/-- `timer x` is what the owner `x` keeps, if it is there. -/
def Matches (timer : α → Option Nat) (triggers : AList fun _ : Nat => α × β) : Prop :=
  ∀ t x, (∃ due, triggers.lookup t = some (x, due)) ↔ t ≠ 0 ∧ timer x = some t

namespace Matches

variable {timer : α → Option Nat} {triggers : AList fun _ : Nat => α × β} {x : α} {t : Nat} {due : β}

omit [DecidableEq α] in
theorem empty : Matches (fun _ => none) (∅ : AList fun _ : Nat => α × β) := by
  intro t x
  simp

omit [DecidableEq α] in
/-- Of an owner without a timer, no trigger is armed. -/
theorem unarmed (h : Matches timer triggers) (hx : timer x = none ∨ timer x = some 0) :
    triggers.lookup t ≠ some (x, due) := by
  intro hlookup
  obtain ⟨ht, htimer⟩ := (h t x).1 ⟨due, hlookup⟩
  rcases hx with hx | hx
  · rw [hx] at htimer
    cases htimer
  · rw [hx] at htimer
    exact ht (Option.some.inj htimer).symm

/-- A new owner, without a timer. -/
theorem add (h : Matches timer triggers) (hx : timer x = none) : Matches (Function.update timer x (some 0)) triggers := by
  intro t y
  rw [h t y, Function.update_apply]
  by_cases hy : y = x
  · subst hy
    simp only [hx, if_true, Option.some.injEq]
    constructor
    · rintro ⟨-, hnone⟩
      cases hnone
    · rintro ⟨ht, hzero⟩
      exact absurd hzero.symm ht
  · rw [if_neg hy]

/-- A trigger is armed for an owner that has none. -/
theorem arm (h : Matches timer triggers) (hx : timer x = none ∨ timer x = some 0) (ht : t ≠ 0) (hfree : t ∉ triggers) :
    Matches (Function.update timer x (some t)) (triggers.insert t (x, due)) := by
  intro t' y
  rw [Function.update_apply]
  by_cases htt : t' = t
  · subst htt
    rw [AList.lookup_insert]
    constructor
    · rintro ⟨due', heq⟩
      obtain ⟨rfl, -⟩ := Prod.mk.inj (Option.some.inj heq)
      exact ⟨ht, if_pos rfl⟩
    · rintro ⟨-, htimer⟩
      by_cases hy : y = x
      · exact ⟨due, by rw [hy]⟩
      · rw [if_neg hy] at htimer
        obtain ⟨due', hlookup⟩ := (h t' y).2 ⟨ht, htimer⟩
        rw [AList.lookup_eq_none.2 hfree] at hlookup
        cases hlookup
  · rw [AList.lookup_insert_ne htt]
    by_cases hy : y = x
    · subst hy
      rw [if_pos rfl]
      constructor
      · rintro ⟨due', hlookup⟩
        exact absurd hlookup (h.unarmed hx)
      · rintro ⟨-, heq⟩
        exact absurd (Option.some.inj heq).symm htt
    · rw [if_neg hy]
      exact h t' y

/-- The trigger of an owner goes, and with it the owner or what it keeps. -/
theorem disarm {kept : Option Nat} (h : Matches timer triggers) (hx : timer x = some t)
    (hkept : kept = none ∨ kept = some 0) :
    Matches (Function.update timer x kept) (if t = 0 then triggers else triggers.erase t) := by
  have hgone : ∀ {t'}, t' ≠ 0 → kept ≠ some t' := by
    rintro t' ht' heq
    rcases hkept with rfl | rfl
    · cases heq
    · exact ht' (Option.some.inj heq).symm
  intro t' y
  rw [Function.update_apply]
  by_cases htt : t ≠ 0 ∧ t' = t
  · obtain ⟨ht, rfl⟩ := htt
    rw [if_neg ht, AList.lookup_erase]
    constructor
    · rintro ⟨_, hnone⟩
      cases hnone
    · rintro ⟨-, htimer⟩
      by_cases hy : y = x
      · rw [if_pos hy] at htimer
        exact absurd htimer (hgone ht)
      · rw [if_neg hy] at htimer
        obtain ⟨due, hlookup⟩ := (h t' y).2 ⟨ht, htimer⟩
        obtain ⟨due', hlookup'⟩ := (h t' x).2 ⟨ht, hx⟩
        rw [hlookup] at hlookup'
        exact absurd (Prod.mk.inj (Option.some.inj hlookup')).1 hy
  · have hlookup : (if t = 0 then triggers else triggers.erase t).lookup t' = triggers.lookup t' := by
      by_cases ht : t = 0
      · rw [if_pos ht]
      · rw [if_neg ht, AList.lookup_erase_ne fun heq => htt ⟨ht, heq⟩]
    rw [hlookup, h t' y]
    by_cases hy : y = x
    · subst hy
      rw [if_pos rfl, hx]
      constructor
      · rintro ⟨ht', heq⟩
        obtain rfl := Option.some.inj heq
        exact absurd ⟨ht', rfl⟩ htt
      · rintro ⟨ht', heq⟩
        exact absurd heq (hgone ht')
    · rw [if_neg hy]

end Matches

end PqsecDds.Lib
