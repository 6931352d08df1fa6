import PqsecDds.Lib.Act
import Mathlib.Data.List.AList

/-!
# Computations seen through a map of their states

`Maps f g x y`: where `x` runs from `s`, `y` runs from `f s`; it returns what `g` makes of the result of `x` and ends
in what `f` makes of its state. When `f` forgets a part of the state, `x` neither branches on that part nor returns
anything of it but what `g` leaves.

`mapValues` is the map of a table that keeps the keys and their order.
-/

namespace PqsecDds.Lib

universe u

/-! ## Computations -/

namespace Act

variable {σ τ σ' τ' ε α β γ δ : Type u}

def Maps (f : σ → τ) (g : α → β) (x : Act σ ε α) (y : Act τ ε β) : Prop :=
  ∀ s, y (f s) = ((x s).1.map g, f (x s).2)

namespace Maps

variable {f : σ → τ} {g : α → β} {k : γ → δ}

theorem bind {x : Act σ ε α} {y : Act τ ε β} {x' : α → Act σ ε γ} {y' : β → Act τ ε δ} (h : Maps f g x y)
    (h' : ∀ a, Maps f k (x' a) (y' (g a))) : Maps f k (x >>= x') (y >>= y') := by
  intro s
  change Act.bind y y' (f s) = ((Act.bind x x' s).1.map k, f (Act.bind x x' s).2)
  have hs := h s
  rcases hx : x s with ⟨e | a, s₁⟩
  · rw [hx] at hs
    simp [Act.bind, hs, hx, Except.map]
  · rw [hx] at hs
    simp only [Act.bind, hs, hx, Except.map]
    exact h' a s₁

theorem pure (a : α) : Maps f g (Pure.pure a : Act σ ε α) (Pure.pure (g a)) := fun _ => rfl

theorem read {r : σ → α} {r' : τ → β} (h : ∀ s, r' (f s) = g (r s)) :
    Maps f g (Act.read r : Act σ ε α) (Act.read r') := by
  intro s
  simp [Act.read, h, Except.map]

theorem write {w : σ → σ} {w' : τ → τ} (h : ∀ s, w' (f s) = f (w s)) :
    Maps f id (Act.write w : Act σ ε PUnit) (Act.write w') := by
  intro s
  simp [Act.write, h, Except.map]

theorem stop (e : ε) : Maps f g (Act.stop e : Act σ ε α) (Act.stop e) := fun _ => rfl

/-- A check whose result nothing is forgotten of. -/
theorem lift_id (x : Except ε α) : Maps f id (Act.lift x : Act σ ε α) (Act.lift x) := by
  intro s
  cases x <;> rfl

theorem demand {r : σ → Option α} {r' : τ → Option β} {e : ε} (h : ∀ s, r' (f s) = (r s).map g) :
    Maps f g (Act.demand r e : Act σ ε α) (Act.demand r' e) := by
  intro s
  simp only [Act.demand, h]
  cases r s <;> rfl

theorem onStop {x : Act σ ε α} {y : Act τ ε β} {c : σ → σ} {c' : τ → τ} (h : Maps f g x y)
    (hc : ∀ s, c' (f s) = f (c s)) : Maps f g (Act.onStop x c) (Act.onStop y c') := by
  intro s
  have hs := h s
  rcases hx : x s with ⟨e | a, s₁⟩
  · rw [hx] at hs
    simp [Act.onStop, hs, hx, Except.map, hc]
  · rw [hx] at hs
    simp [Act.onStop, hs, hx, Except.map]

theorem zoom {load : σ → Except ε σ'} {load' : τ → Except ε τ'} {store : σ → σ' → σ} {store' : τ → τ' → τ}
    {p : σ' → τ'} {x : Act σ' ε α} {y : Act τ' ε β} (h : Maps p g x y) (hload : ∀ s, load' (f s) = (load s).map p)
    (hstore : ∀ s t, store' (f s) (p t) = f (store s t)) : Maps f g (Act.zoom load store x) (Act.zoom load' store' y) := by
  intro s
  simp only [Act.zoom, hload]
  rcases load s with e | t
  · rfl
  · simp only [Except.map, h t, hstore]

end Maps

end Act

/-! ## Tables -/

section Tables

variable {κ α β : Type u} [DecidableEq κ]

/-- The map of the values of a table. -/
def mapValues (f : α → β) (t : AList fun _ : κ => α) : AList fun _ : κ => β where
  entries := t.entries.map (.map id fun _ => f)
  nodupKeys := t.nodupKeys.map₂ _ _

variable (f : α → β) (t : AList fun _ : κ => α) (k : κ) (a : α)

omit [DecidableEq κ] in
@[simp] theorem entries_mapValues : (mapValues f t).entries = t.entries.map (.map id fun _ => f) := rfl

@[simp] theorem lookup_mapValues : (mapValues f t).lookup k = (t.lookup k).map f := List.dlookup_map₂ k

@[simp] theorem mem_mapValues : k ∈ mapValues f t ↔ k ∈ t := by
  rw [← AList.lookup_isSome, ← AList.lookup_isSome, lookup_mapValues, Option.isSome_map]

@[simp] theorem erase_mapValues : (mapValues f t).erase k = mapValues f (t.erase k) := by
  have hkeys : (mapValues f t).entries.kerase k = (t.entries.kerase k).map (.map id fun _ => f) := by
    simp only [entries_mapValues, List.kerase, List.eraseP_map]
    rfl
  exact AList.ext hkeys

@[simp] theorem insert_mapValues : (mapValues f t).insert k (f a) = mapValues f (t.insert k a) := by
  apply AList.ext
  have herase := congrArg AList.entries (erase_mapValues f t k)
  simp only [AList.entries_insert, entries_mapValues, List.map_cons, Sigma.map]
  exact congrArg _ herase

end Tables

end PqsecDds.Lib
