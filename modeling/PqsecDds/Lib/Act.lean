import PqsecDds.Lib.Checks
import Mathlib.Order.Defs.Unbundled

/-!
# Computations that stop and keep their writes

`Act σ ε α` reads and writes a state `σ` and returns an `α` or stops with an `ε`; what it wrote before
it stopped stays written, as in a C function that leaves through its error label. `bind_ok` takes a
successful run apart, `Keeps` is for what holds of every run, successful or not.
-/

namespace PqsecDds.Lib

universe u

def Act (σ ε α : Type u) := σ → Except ε α × σ

namespace Act

variable {σ τ ε α β : Type u}

protected def bind (x : Act σ ε α) (f : α → Act σ ε β) : Act σ ε β := fun s =>
  match x s with
  | (.ok a, s') => f a s'
  | (.error e, s') => (.error e, s')

instance : Monad (Act σ ε) where
  pure a := fun s => (.ok a, s)
  bind := Act.bind

/-- Read the state. -/
def read (f : σ → α) : Act σ ε α := fun s => (.ok (f s), s)

/-- Write the state. -/
def write (f : σ → σ) : Act σ ε PUnit := fun s => (.ok ⟨⟩, f s)

def stop (e : ε) : Act σ ε α := fun s => (.error e, s)

/-- A check that does not look at the state. -/
def lift (x : Except ε α) : Act σ ε α := fun s => (x, s)

/-- Read what must be there, or stop. -/
def demand (f : σ → Option α) (e : ε) : Act σ ε α := fun s => (need (f s) e, s)

/-- Clean up if `x` stops. -/
def onStop (x : Act σ ε α) (cleanup : σ → σ) : Act σ ε α := fun s =>
  match x s with
  | (.ok a, s') => (.ok a, s')
  | (.error e, s') => (.error e, cleanup s')

/-- Run on a part of the state: load it, run, store it back. -/
def zoom (load : σ → Except ε τ) (store : σ → τ → σ) (x : Act τ ε α) : Act σ ε α := fun s =>
  match load s with
  | .error e => (.error e, s)
  | .ok t => ((x t).1, store s (x t).2)

section Ok

variable {s s' : σ} {a : α} {b : β} {e : ε}

theorem bind_ok {x : Act σ ε α} {f : α → Act σ ε β} :
    (x >>= f) s = (.ok b, s') ↔ ∃ a s₁, x s = (.ok a, s₁) ∧ f a s₁ = (.ok b, s') := by
  change Act.bind x f s = _ ↔ _
  rcases hx : x s with ⟨r, s₁⟩
  cases r with
  | error e => simp [Act.bind, hx]
  | ok a =>
    simp only [Act.bind, hx, Prod.mk.injEq, Except.ok.injEq]
    constructor
    · intro h
      exact ⟨a, s₁, ⟨rfl, rfl⟩, h⟩
    · rintro ⟨_, _, ⟨rfl, rfl⟩, h⟩
      exact h

/-- Every run of a sequence: the first part stops, or the second goes on where it left off. -/
theorem bind_eq {x : Act σ ε α} {f : α → Act σ ε β} {r : Except ε β} :
    (x >>= f) s = (r, s') ↔
      (∃ e, x s = (.error e, s') ∧ r = .error e) ∨ ∃ a s₁, x s = (.ok a, s₁) ∧ f a s₁ = (r, s') := by
  change Act.bind x f s = _ ↔ _
  rcases hx : x s with ⟨rx, s₁⟩
  cases rx with
  | error e =>
    simp only [Act.bind, hx, Prod.mk.injEq, Except.error.injEq, reduceCtorEq, false_and, exists_false, or_false]
    constructor
    · rintro ⟨rfl, rfl⟩
      exact ⟨e, ⟨rfl, rfl⟩, rfl⟩
    · rintro ⟨_, ⟨rfl, rfl⟩, rfl⟩
      exact ⟨rfl, rfl⟩
  | ok a =>
    simp only [Act.bind, hx, Prod.mk.injEq, Except.ok.injEq, reduceCtorEq, false_and, exists_false, false_or]
    constructor
    · intro h
      exact ⟨a, s₁, ⟨rfl, rfl⟩, h⟩
    · rintro ⟨_, _, ⟨rfl, rfl⟩, h⟩
      exact h

theorem read_bind (f : σ → α) (g : α → Act σ ε β) (s : σ) : (read f >>= g) s = g (f s) s := rfl

theorem write_bind (f : σ → σ) (g : PUnit → Act σ ε β) (s : σ) : (write f >>= g) s = g ⟨⟩ (f s) := rfl

/-- A run whose value is only repackaged. -/
theorem bind_pure_eq {x : Act σ ε α} {f : α → β} {r : Except ε β} :
    (x >>= fun a => pure (f a)) s = (r, s') ↔ ∃ rx, x s = (rx, s') ∧ r = rx.map f := by
  rw [bind_eq]
  constructor
  · rintro (⟨e, hx, rfl⟩ | ⟨a, s₁, hx, hpure⟩)
    · exact ⟨.error e, hx, rfl⟩
    · obtain ⟨rfl, rfl⟩ := Prod.mk.inj hpure
      exact ⟨.ok a, hx, rfl⟩
  · rintro ⟨rx, hx, rfl⟩
    cases rx with
    | error e => exact .inl ⟨e, hx, rfl⟩
    | ok a => exact .inr ⟨a, s', hx, rfl⟩

theorem pure_ok {b' : α} : (pure a : Act σ ε α) s = (.ok b', s') ↔ a = b' ∧ s = s' := by
  change (Except.ok a, s) = _ ↔ _
  simp

theorem read_ok {f : σ → α} : (read f : Act σ ε α) s = (.ok a, s') ↔ f s = a ∧ s = s' := by
  simp [read]

theorem write_ok {f : σ → σ} {u : PUnit} : (write f : Act σ ε PUnit) s = (.ok u, s') ↔ f s = s' := by
  simp [write]

theorem stop_ok : ¬ (stop e : Act σ ε α) s = (.ok a, s') := by
  simp [stop]

theorem lift_ok {x : Except ε α} : (lift x : Act σ ε α) s = (.ok a, s') ↔ x = .ok a ∧ s = s' := by
  simp [lift]

theorem demand_ok {f : σ → Option α} : (demand f e : Act σ ε α) s = (.ok a, s') ↔ f s = some a ∧ s = s' := by
  simp [demand, need_ok]

theorem onStop_ok {x : Act σ ε α} {cleanup : σ → σ} :
    onStop x cleanup s = (.ok a, s') ↔ x s = (.ok a, s') := by
  rcases hx : x s with ⟨r, s₁⟩
  cases r <;> simp [onStop, hx]

theorem onStop_eq {x : Act σ ε α} {cleanup : σ → σ} {r : Except ε α} :
    onStop x cleanup s = (r, s') ↔ ∃ s₁, x s = (r, s₁) ∧ s' = if r.isOk then s₁ else cleanup s₁ := by
  rcases hx : x s with ⟨rx, s₁⟩
  cases rx with
  | error e =>
    simp only [onStop, hx, Prod.mk.injEq]
    constructor
    · rintro ⟨rfl, rfl⟩
      exact ⟨s₁, ⟨rfl, rfl⟩, rfl⟩
    · rintro ⟨_, ⟨rfl, rfl⟩, rfl⟩
      exact ⟨rfl, rfl⟩
  | ok a =>
    simp only [onStop, hx, Prod.mk.injEq]
    constructor
    · rintro ⟨rfl, rfl⟩
      exact ⟨s₁, ⟨rfl, rfl⟩, rfl⟩
    · rintro ⟨_, ⟨rfl, rfl⟩, rfl⟩
      exact ⟨rfl, rfl⟩

end Ok

/-- Whether it succeeds or stops, `x` takes a state to a related one. -/
def Keeps (R : σ → σ → Prop) (x : Act σ ε α) : Prop := ∀ s, R s (x s).2

/-- The two states agree on `f`. -/
def Same {σ : Type u} {γ : Type*} (f : σ → γ) (s s' : σ) : Prop := f s' = f s

instance {γ : Type*} (f : σ → γ) : Std.Refl (Same f) := ⟨fun _ => rfl⟩

instance {γ : Type*} (f : σ → γ) : IsTrans σ (Same f) := ⟨fun _ _ _ h h' => h'.trans h⟩

namespace Keeps

variable {R : σ → σ → Prop}

theorem result {x : Act σ ε α} (h : Keeps R x) {s s' : σ} {r : Except ε α} (hx : x s = (r, s')) : R s s' := by
  have h := h s
  rwa [hx] at h

theorem bind [IsTrans σ R] {x : Act σ ε α} {f : α → Act σ ε β} (hx : Keeps R x) (hf : ∀ a, Keeps R (f a)) :
    Keeps R (x >>= f) := by
  intro s
  change R s (Act.bind x f s).2
  have h := hx s
  rcases hr : x s with ⟨r, s₁⟩
  rw [hr] at h
  cases r with
  | error e => simpa [Act.bind, hr] using h
  | ok a => simpa [Act.bind, hr] using IsTrans.trans _ _ _ h (hf a s₁)

section Refl

variable [Std.Refl R]

theorem pure (a : α) : Keeps R (Pure.pure a : Act σ ε α) := fun s => Std.Refl.refl s

theorem read (f : σ → α) : Keeps R (Act.read f : Act σ ε α) := fun s => Std.Refl.refl s

theorem lift (x : Except ε α) : Keeps R (Act.lift x : Act σ ε α) := fun s => Std.Refl.refl s

theorem stop (e : ε) : Keeps R (Act.stop e : Act σ ε α) := fun s => Std.Refl.refl s

theorem demand (f : σ → Option α) (e : ε) : Keeps R (Act.demand f e : Act σ ε α) := fun s => Std.Refl.refl s

end Refl

theorem write {f : σ → σ} (h : ∀ s, R s (f s)) : Keeps R (Act.write f : Act σ ε PUnit) := h

theorem onStop [IsTrans σ R] {x : Act σ ε α} {cleanup : σ → σ} (hx : Keeps R x) (h : ∀ s, R s (cleanup s)) :
    Keeps R (Act.onStop x cleanup) := by
  intro s
  have hs := hx s
  rcases hr : x s with ⟨r, s₁⟩
  rw [hr] at hs
  cases r with
  | error e => simpa [Act.onStop, hr] using IsTrans.trans _ _ _ hs (h s₁)
  | ok a => simpa [Act.onStop, hr] using hs

end Keeps

/-- Run from `s`, `x` stops only with what satisfies `P`. -/
def StopsWith (P : ε → Prop) (x : Act σ ε α) (s : σ) : Prop := ∀ e, (x s).1 = .error e → P e

/-- Run from `s`, `x` does not stop with `e`. -/
def Avoids (e : ε) (x : Act σ ε α) (s : σ) : Prop := (x s).1 ≠ .error e

namespace StopsWith

variable {P : ε → Prop} {s : σ}

theorem avoids {e : ε} {x : Act σ ε α} (h : StopsWith (· ≠ e) x s) : Avoids e x s := fun hrun => h e hrun rfl

theorem bind {x : Act σ ε α} {f : α → Act σ ε β} (hx : StopsWith P x s)
    (hf : ∀ a s', x s = (.ok a, s') → StopsWith P (f a) s') : StopsWith P (x >>= f) s := by
  intro e h
  rcases bind_eq.1 (Prod.ext h rfl : (x >>= f) s = (.error e, ((x >>= f) s).2)) with ⟨e', hrun, he⟩ | ⟨a, s', hrun, hrest⟩
  · obtain rfl := Except.error.inj he
    exact hx e (by rw [hrun])
  · exact hf a s' hrun e (by rw [hrest])

theorem pure (a : α) : StopsWith P (Pure.pure a : Act σ ε α) s := by
  intro e h
  cases h

theorem read (f : σ → α) : StopsWith P (Act.read f : Act σ ε α) s := by
  intro e h
  cases h

theorem write (f : σ → σ) : StopsWith P (Act.write f : Act σ ε PUnit) s := by
  intro e h
  cases h

theorem lift {x : Except ε α} (h : ∀ e, x = .error e → P e) : StopsWith P (Act.lift x : Act σ ε α) s := h

theorem stop {e : ε} (h : P e) : StopsWith P (Act.stop e : Act σ ε α) s := by
  intro e' hstop
  obtain rfl := Except.error.inj hstop
  exact h

theorem demand {f : σ → Option α} {e : ε} (h : P e ∨ (f s).isSome) : StopsWith P (Act.demand f e : Act σ ε α) s := by
  intro e' hrun
  rcases hf : f s with _ | a
  · simp only [Act.demand, hf, need, Option.elim_none, Except.error.injEq] at hrun
    simpa [hf, hrun] using h
  · simp [Act.demand, hf, need] at hrun

theorem onStop {x : Act σ ε α} {cleanup : σ → σ} (h : StopsWith P x s) : StopsWith P (Act.onStop x cleanup) s := by
  intro e hrun
  obtain ⟨s', hx, -⟩ := onStop_eq.1 (Prod.ext hrun rfl : Act.onStop x cleanup s = (.error e, (Act.onStop x cleanup s).2))
  exact h e (by rw [hx])

theorem zoom {load : σ → Except ε τ} {store : σ → τ → σ} {x : Act τ ε α} {t : τ} (hload : load s = .ok t)
    (h : StopsWith P x t) : StopsWith P (Act.zoom load store x) s := by
  intro e hrun
  simp only [Act.zoom, hload] at hrun
  exact h e hrun

/-- What does not stop returns. -/
theorem ok {x : Act σ ε α} (h : StopsWith (fun _ => False) x s) : ∃ a s', x s = (.ok a, s') := by
  rcases hrun : x s with ⟨e | a, s'⟩
  · exact absurd (by rw [hrun]) (h e)
  · exact ⟨a, s', rfl⟩

theorem of_ok {x : Act σ ε α} {a : α} {s' : σ} (h : x s = (.ok a, s')) : StopsWith P x s := by
  intro e he
  rw [h] at he
  cases he

end StopsWith

/-! ## A second component

The second component stands for what a caller lends for the time of a call. `Extends` says that a computation with it
does to the first component what another one does without it. -/

/-- Run on the first component. -/
def onFirst (x : Act σ ε α) : Act (σ × τ) ε α := fun s => ((x s.1).1, (x s.1).2, s.2)

theorem onFirst_eq {x : Act σ ε α} {s s' : σ} {t t' : τ} {r : Except ε α} :
    onFirst x (s, t) = (r, s', t') ↔ x s = (r, s') ∧ t' = t := by
  rcases hx : x s with ⟨rx, s₁⟩
  simp only [onFirst, hx, Prod.mk.injEq]
  constructor
  · rintro ⟨rfl, rfl, rfl⟩
    exact ⟨⟨rfl, rfl⟩, rfl⟩
  · rintro ⟨⟨rfl, rfl⟩, rfl⟩
    exact ⟨rfl, rfl, rfl⟩

theorem onFirst_bind_eq {x : Act σ ε α} {g : α → Act (σ × τ) ε β} {s s' : σ} {t t' : τ} {r : Except ε β} :
    (onFirst x >>= g) (s, t) = (r, s', t') ↔
      (∃ e, x s = (.error e, s') ∧ r = .error e ∧ t' = t) ∨ ∃ a s₁, x s = (.ok a, s₁) ∧ g a (s₁, t) = (r, s', t') := by
  rw [bind_eq]
  constructor
  · rintro (⟨e, hx, rfl⟩ | ⟨a, ⟨s₁, t₁⟩, hx, hg⟩)
    · obtain ⟨hrun, rfl⟩ := onFirst_eq.1 hx
      exact .inl ⟨e, hrun, rfl, rfl⟩
    · obtain ⟨hrun, rfl⟩ := onFirst_eq.1 hx
      exact .inr ⟨a, s₁, hrun, hg⟩
  · rintro (⟨e, hx, rfl, rfl⟩ | ⟨a, s₁, hx, hg⟩)
    · exact .inl ⟨e, onFirst_eq.2 ⟨hx, rfl⟩, rfl⟩
    · exact .inr ⟨a, (s₁, t), onFirst_eq.2 ⟨hx, rfl⟩, hg⟩

/-- Run on a part of the first component, with the second: load it, run, store it back. -/
def zoomFirst {τ' : Type u} (load : σ → Except ε τ) (store : σ → τ → σ) (y : Act (τ × τ') ε α) : Act (σ × τ') ε α := fun s =>
  match load s.1 with
  | .error e => (.error e, s)
  | .ok t => ((y (t, s.2)).1, store s.1 (y (t, s.2)).2.1, (y (t, s.2)).2.2)

theorem zoomFirst_bind_eq {τ' : Type u} {load : σ → Except ε τ} {store : σ → τ → σ} {y : Act (τ × τ') ε α}
    {g : α → Act (σ × τ') ε β} {s s' : σ} {t t' : τ'} {r : Except ε β}
    (h : (zoomFirst load store y >>= g) (s, t) = (r, s', t')) :
    (∃ e, load s = .error e ∧ r = .error e ∧ t' = t) ∨ ∃ a a' t₁ ra, load s = .ok a ∧ y (a, t) = (ra, a', t₁) ∧
      ((∃ e, ra = .error e ∧ r = .error e ∧ t' = t₁) ∨ ∃ v, ra = .ok v ∧ g v (store s a', t₁) = (r, s', t')) := by
  rcases hload : load s with e | a
  · rcases bind_eq.1 h with ⟨e', hy, rfl⟩ | ⟨v, s₁, hy, -⟩
    · simp only [zoomFirst, hload, Prod.mk.injEq, Except.error.injEq] at hy
      obtain ⟨rfl, -, rfl⟩ := hy
      exact .inl ⟨e, rfl, rfl, rfl⟩
    · simp [zoomFirst, hload] at hy
  · right
    rcases hy : y (a, t) with ⟨ra, a', t₁⟩
    refine ⟨a, a', t₁, ra, rfl, hy, ?_⟩
    have hrun : zoomFirst load store y (s, t) = (ra, store s a', t₁) := by simp [zoomFirst, hload, hy]
    rcases bind_eq.1 h with ⟨e', he, rfl⟩ | ⟨v, s₁, hv, hg⟩
    · obtain ⟨rfl, hs⟩ := Prod.mk.inj (hrun.symm.trans he)
      obtain ⟨-, rfl⟩ := Prod.mk.inj hs
      exact .inl ⟨e', rfl, rfl, rfl⟩
    · obtain ⟨rfl, rfl⟩ := Prod.mk.inj (hrun.symm.trans hv)
      exact .inr ⟨v, rfl, hg⟩

def Extends (y : Act (σ × τ) ε α) (x : Act σ ε α) : Prop := ∀ s, ((y s).1, (y s).2.1) = x s.1

namespace Extends

variable {x : Act σ ε α} {y : Act (σ × τ) ε α}

theorem onFirst (x : Act σ ε α) : Extends (Act.onFirst x : Act (σ × τ) ε α) x := fun _ => rfl

theorem pure (a : α) : Extends (Pure.pure a : Act (σ × τ) ε α) (Pure.pure a) := fun _ => rfl

theorem read (f : σ → α) : Extends (Act.read fun s => f s.1 : Act (σ × τ) ε α) (Act.read f) := fun _ => rfl

theorem bind {f : α → Act σ ε β} {g : α → Act (σ × τ) ε β} (hx : Extends y x) (hf : ∀ a, Extends (g a) (f a)) :
    Extends (y >>= g) (x >>= f) := by
  intro s
  change ((Act.bind y g s).1, (Act.bind y g s).2.1) = Act.bind x f s.1
  rw [Act.bind, Act.bind, ← hx s]
  rcases y s with ⟨e | a, s'⟩
  · rfl
  · exact hf a s'

/-- A write to the second component goes unseen. -/
theorem write_bind {w : σ × τ → σ × τ} {y : PUnit → Act (σ × τ) ε α} (hw : ∀ s, (w s).1 = s.1) (h : Extends (y ⟨⟩) x) :
    Extends (Act.write w >>= y) x := by
  intro s
  rw [← hw s]
  exact h (w s)

theorem onStop {cleanup : σ × τ → σ × τ} (h : Extends y x) (hcleanup : ∀ s, (cleanup s).1 = s.1) :
    Extends (Act.onStop y cleanup) x := by
  intro s
  rw [← h s, Act.onStop]
  rcases y s with ⟨e | a, s'⟩
  · rw [hcleanup]
  · rfl

theorem zoom {τ' : Type u} {load : σ → Except ε τ} {store : σ → τ → σ} {x : Act τ ε α} {y : Act (τ × τ') ε α}
    (h : Extends y x) : Extends (Act.zoomFirst load store y) (Act.zoom load store x) := by
  intro s
  rw [Act.zoomFirst, Act.zoom]
  rcases load s.1 with e | t
  · rfl
  · have ht : ((y (t, s.2)).1, (y (t, s.2)).2.1) = x t := h (t, s.2)
    change ((y (t, s.2)).1, store s.1 (y (t, s.2)).2.1) = ((x t).1, store s.1 (x t).2)
    rw [← ht]

/-- The run with the second component, from the run without it. -/
theorem run (h : Extends y x) {s s' : σ} {r : Except ε α} (hx : x s = (r, s')) (t : τ) : ∃ t', y (s, t) = (r, s', t') := by
  have hs := h (s, t)
  rw [hx] at hs
  obtain ⟨rfl, rfl⟩ := Prod.mk.inj hs
  exact ⟨_, rfl⟩

/-- The run without the second component, from the run with it. -/
theorem result (h : Extends y x) {s s' : σ} {t t' : τ} {r : Except ε α} (hy : y (s, t) = (r, s', t')) : x s = (r, s') := by
  rw [← h (s, t), hy]

end Extends

end Act

end PqsecDds.Lib
