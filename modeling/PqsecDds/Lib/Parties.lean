import PqsecDds.Lib.Run

/-!
# Parties that act on private states and release messages

Every party runs the same machine on a state of its own. An operation may release messages; the log
keeps each of them with the party that released it. What the environment may feed into an operation
is the admissibility condition `ok`, which sees the whole world: the network itself is not a
component, a party can be given any input that `ok` allows. A run ends where the program's behaviour
is not defined: no step is taken there.
-/

namespace PqsecDds.Lib

/-- A party's state machine: where it may start, which operations are defined in a state, and what an operation does and
releases there. -/
structure Machine (σ ι μ : Type*) where
  start : σ → Prop
  defined : σ → ι → Prop
  exec : σ → ι → σ × List μ

structure World (π σ μ : Type*) where
  node : π → σ
  log : List (π × μ)

variable {π σ ι μ : Type*} [DecidableEq π]

/-- Party `p` performs `op`: its own state moves, the others stay, the log grows. -/
def Machine.act (M : Machine σ ι μ) (w : World π σ μ) (p : π) (op : ι) : World π σ μ where
  node q := if q = p then (M.exec (w.node p) op).1 else w.node q
  log := (M.exec (w.node p) op).2.map (p, ·) ++ w.log

/-- All parties together, under the admissibility condition `ok`. -/
def Machine.net (M : Machine σ ι μ) (ok : World π σ μ → π → ι → Prop) :
    System (World π σ μ) (π × ι) where
  init w := (∀ p, M.start (w.node p)) ∧ w.log = []
  step w l w' := ok w l.1 l.2 ∧ M.defined (w.node l.1) l.2 ∧ w' = M.act w l.1 l.2

/-- One party on its own. -/
def Machine.solo (M : Machine σ ι μ) : System σ ι where
  init := M.start
  step s op s' := M.defined s op ∧ s' = (M.exec s op).1

namespace Machine

/-- Every operation of the list is defined in the state that it comes to. -/
def Performs (M : Machine σ ι μ) : σ → List ι → Prop
  | _, [] => True
  | s, op :: ops => M.defined s op ∧ Performs M (M.exec s op).1 ops

instance decidablePerforms (M : Machine σ ι μ) [∀ s op, Decidable (M.defined s op)] :
    ∀ s ops, Decidable (M.Performs s ops)
  | _, [] => .isTrue trivial
  | s, op :: ops =>
    have := decidablePerforms M (M.exec s op).1 ops
    inferInstanceAs (Decidable (M.defined s op ∧ M.Performs (M.exec s op).1 ops))

/-- The state after a list of operations. -/
def perform (M : Machine σ ι μ) (s : σ) (ops : List ι) : σ := ops.foldl (fun s op => (M.exec s op).1) s

/-- The trace of a list of operations, on top of the trace before them. -/
def history (M : Machine σ ι μ) (tr : Trace σ ι) : σ → List ι → Trace σ ι
  | _, [] => tr
  | s, op :: ops => history M ((s, op) :: tr) (M.exec s op).1 ops

theorem solo_perform {M : Machine σ ι μ} (ops : List ι) :
    ∀ {tr : Trace σ ι} {s : σ}, Run M.solo tr s → M.Performs s ops →
      Run M.solo (M.history tr s ops) (M.perform s ops) := by
  induction ops with
  | nil => exact fun hr _ => hr
  | cons op ops ih => exact fun hr h => ih (.step hr ⟨h.1, rfl⟩) h.2

theorem mem_history {M : Machine σ ι μ} (ops : List ι) :
    ∀ {tr : Trace σ ι} {s : σ} {e : σ × ι}, e ∈ M.history tr s ops → e ∈ tr ∨ e.2 ∈ ops := by
  induction ops with
  | nil => exact fun he => .inl he
  | cons op ops ih =>
    intro tr s e he
    rcases ih he with he | he
    · rcases List.mem_cons.1 he with rfl | he
      · exact .inr List.mem_cons_self
      · exact .inl he
    · exact .inr (List.mem_cons_of_mem _ he)

variable {M : Machine σ ι μ} {ok : World π σ μ → π → ι → Prop}

@[simp] theorem act_node_self (w : World π σ μ) (p : π) (op : ι) :
    (M.act w p op).node p = (M.exec (w.node p) op).1 := by
  simp [act]

theorem act_node_of_ne (w : World π σ μ) {p q : π} (op : ι) (h : q ≠ p) :
    (M.act w p op).node q = w.node q := by
  simp [act, h]

theorem mem_act_log {w : World π σ μ} {p q : π} {op : ι} {e : μ} :
    (q, e) ∈ (M.act w p op).log ↔ (q = p ∧ e ∈ (M.exec (w.node p) op).2) ∨ (q, e) ∈ w.log := by
  simp only [act, List.mem_append, List.mem_map, Prod.mk.injEq]
  constructor
  · rintro (⟨e', he, rfl, rfl⟩ | h)
    · exact .inl ⟨rfl, he⟩
    · exact .inr h
  · rintro (⟨rfl, he⟩ | h)
    · exact .inl ⟨e, he, rfl, rfl⟩
    · exact .inr h

theorem log_subset_act (w : World π σ μ) (p : π) (op : ι) : w.log ⊆ (M.act w p op).log :=
  fun _ h => List.mem_append_right _ h

/-- The operations of party `p` in a run of the net, with the states of `p` they were performed in. -/
def calls (p : π) (tr : Trace (World π σ μ) (π × ι)) : Trace σ ι :=
  tr.filterMap fun (w, q, op) => if q = p then some (w.node p, op) else none

theorem mem_calls {p : π} {tr : Trace (World π σ μ) (π × ι)} {s : σ} {op : ι} :
    (s, op) ∈ calls p tr ↔ ∃ w, (w, p, op) ∈ tr ∧ w.node p = s := by
  simp only [calls, List.mem_filterMap, Prod.exists]
  constructor
  · rintro ⟨w, q, op', hmem, h⟩
    split at h
    · rename_i hq
      subst hq
      obtain ⟨rfl, rfl⟩ := Prod.mk.inj (Option.some.inj h)
      exact ⟨w, hmem, rfl⟩
    · cases h
  · rintro ⟨w, hmem, rfl⟩
    exact ⟨w, p, op, hmem, by simp⟩

/-- Every party is in a state it could have reached on its own, by the operations it performed. -/
theorem net_solo {tr : Trace _ _} {w : World π σ μ} (hr : Run (M.net ok) tr w) (p : π) :
    Run M.solo (calls p tr) (w.node p) := by
  induction hr with
  | init h => exact .init (h.1 p)
  | @step tr w l w' hr hs ih =>
    obtain ⟨q, op⟩ := l
    obtain ⟨-, hdef, rfl⟩ := hs
    by_cases hq : q = p
    · subst hq
      have hcalls : calls q ((w, q, op) :: tr) = (w.node q, op) :: calls q tr := by simp [calls]
      rw [hcalls, act_node_self]
      exact .step ih ⟨hdef, rfl⟩
    · have hcalls : calls p ((w, q, op) :: tr) = calls p tr := by simp [calls, hq]
      rw [hcalls, act_node_of_ne w op (Ne.symm hq)]
      exact ih

/-- Whatever was logged in an earlier world of the run is still in the log. -/
theorem log_subset_of_mem {tr : Trace _ _} {w w₀ : World π σ μ} {l : π × ι} (hr : Run (M.net ok) tr w)
    (hmem : (w₀, l) ∈ tr) : ok w₀ l.1 l.2 ∧ w₀.log ⊆ w.log := by
  obtain ⟨tr₁, tr₀, w₁, -, -, ⟨hok, -, rfl⟩, hsteps⟩ := hr.of_mem hmem
  refine ⟨hok, ?_⟩
  refine hsteps.inv (I := fun w => w₀.log ⊆ w.log) ?_ (log_subset_act w₀ l.1 l.2)
  rintro w l w' hsub ⟨-, -, rfl⟩
  exact List.Subset.trans hsub (log_subset_act w l.1 l.2)

/-- A property of one party's state and the log, kept by the party's own operations and monotone in
the log, holds of every party in every run. -/
theorem net_inv {I : List (π × μ) → π → σ → Prop}
    (mono : ∀ {log log' p s}, log ⊆ log' → I log p s → I log' p s) (start : ∀ p s, M.start s → I [] p s)
    (exec : ∀ {w p op}, ok w p op → I w.log p (w.node p) →
      I (M.act w p op).log p (M.exec (w.node p) op).1)
    {tr : Trace _ _} {w : World π σ μ} (hr : Run (M.net ok) tr w) : ∀ p, I w.log p (w.node p) := by
  refine hr.state_inv (I := fun w => ∀ p, I w.log p (w.node p)) ?_ ?_
  · rintro w ⟨hstart, hlog⟩ p
    rw [hlog]
    exact start p _ (hstart p)
  · rintro w ⟨p, op⟩ w' hI ⟨hok, -, rfl⟩ q
    by_cases hq : q = p
    · subst hq
      rw [act_node_self]
      exact exec hok (hI q)
    · rw [act_node_of_ne w op hq]
      exact mono (log_subset_act w p op) (hI q)

/-- What an operation establishes about the messages it releases, and later operations of the same
party keep, holds of every message in the log. `J` is what the net is already known to keep. -/
theorem net_log {J : World π σ μ → Prop} {L : π → σ → μ → Prop}
    (inv : ∀ {tr w}, Run (M.net ok) tr w → J w)
    (released : ∀ {w p op e}, J w → ok w p op → e ∈ (M.exec (w.node p) op).2 →
      L p (M.exec (w.node p) op).1 e)
    (stable : ∀ {w p op e}, J w → ok w p op → L p (w.node p) e → L p (M.exec (w.node p) op).1 e)
    {tr : Trace _ _} {w : World π σ μ} (hr : Run (M.net ok) tr w) :
    ∀ p e, (p, e) ∈ w.log → L p (w.node p) e := by
  refine hr.inv (I := fun _ w => ∀ p e, (p, e) ∈ w.log → L p (w.node p) e) ?_ ?_
  · rintro w ⟨-, hlog⟩ p e h
    rw [hlog] at h
    simp at h
  · rintro tr w ⟨p, op⟩ w' hrw hL ⟨hok, -, rfl⟩ q e he
    have hJ := inv hrw
    by_cases hq : q = p
    · subst hq
      rw [act_node_self]
      rcases mem_act_log.1 he with ⟨-, he⟩ | he
      · exact released hJ hok he
      · exact stable hJ hok (hL q e he)
    · rw [act_node_of_ne w op hq]
      rcases mem_act_log.1 he with ⟨h, -⟩ | he
      · exact absurd h hq
      · exact hL q e he

/-- Every message in the log was released by an operation of the party that it is kept with. -/
theorem log_origin {tr : Trace _ _} {w : World π σ μ} (hr : Run (M.net ok) tr w) :
    ∀ p e, (p, e) ∈ w.log → ∃ w₀ op, (w₀, p, op) ∈ tr ∧ e ∈ (M.exec (w₀.node p) op).2 := by
  refine hr.inv (I := fun tr w => ∀ p e, (p, e) ∈ w.log → ∃ w₀ op, (w₀, p, op) ∈ tr ∧ e ∈ (M.exec (w₀.node p) op).2) ?_ ?_
  · rintro w ⟨-, hlog⟩ p e he
    rw [hlog] at he
    simp at he
  · rintro tr w ⟨q, op⟩ w' - ih ⟨-, -, rfl⟩ p e he
    rcases mem_act_log.1 he with ⟨rfl, he⟩ | he
    · exact ⟨w, op, List.mem_cons_self, he⟩
    · obtain ⟨w₀, op₀, hmem, hrel⟩ := ih p e he
      exact ⟨w₀, op₀, List.mem_cons_of_mem _ hmem, hrel⟩

end Machine

end PqsecDds.Lib
