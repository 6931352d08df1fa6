import PqsecDds.Lib.Since
import PqsecDds.OpenDDS.Handles

/-!
# Which handles are live

A handle is live from the call that issues it to the call that returns it, whatever happens to its object in between:
a handshake that failed or completed keeps its handle, and so does an identity whose handshakes are gone. No operation
but the two return operations takes a handle away, and none brings one back (`live_handles`).

| here | there |
|---|---|
| `issuesTo` | the map an operation enters its new handle in |
| `Returns` | `return_handshake_handle` and `return_identity_handle` (Authentication.cpp:672-689) |
-/

namespace PqsecDds.OpenDDS

open Lib Authentication

variable {α κ π ρ : Type} [Octet α] [DecidableEq α]
variable {env : Env α κ π ρ} {amb : Ambient α ρ} {s s' : Authentication α κ π} {op : Op α}
variable {ev : List (Event α π)} {tr : Calls α κ π ρ} {k : Table} {h : Handle}

/-! ## One call -/

def issuesTo : Op α → Option Table
  | .validateLocalIdentity .. => some .locals
  | .validateRemoteIdentity .. => some .remotes
  | .beginHandshakeRequest .. => some .handshakes
  | .beginHandshakeReply .. => some .handshakes
  | _ => none

/-- The call enters the handle in the map. -/
def Issues (env : Env α κ π ρ) (k : Table) (h : Handle) (e : Authentication α κ π × Op α × Ambient α ρ) : Prop :=
  issued env e.1 e.2 = some h ∧ issuesTo e.2.1 = some k

/-- The call gives the handle back, as one of the map. -/
def Returns (k : Table) (h : Handle) : Op α → Prop
  | .returnHandshakeHandle h' => k = .handshakes ∧ h' = h
  | .returnIdentityHandle h' => k ≠ .handshakes ∧ h' = h
  | _ => False

omit [Octet α] [DecidableEq α] in
theorem enter_isSome {m : Table → Handle → Option Nat} {k' : Table} {h' : Handle} {p : Nat} :
    (enter m k' h' (some p) k h).isSome ↔ (k = k' ∧ h = h') ∨ (m k h).isSome := by
  by_cases hsame : k = k' ∧ h = h'
  · obtain ⟨rfl, rfl⟩ := hsame
    simp [enter_self]
  · rw [enter_of_ne hsame]
    simp [hsame]

omit [Octet α] [DecidableEq α] in
theorem enter_none_isSome {m : Table → Handle → Option Nat} {k' : Table} {h' : Handle} :
    (enter m k' h' none k h).isSome ↔ (m k h).isSome ∧ ¬ (k = k' ∧ h = h') := by
  by_cases hsame : k = k' ∧ h = h'
  · obtain ⟨rfl, rfl⟩ := hsame
    simp [enter_self]
  · rw [enter_of_ne hsame]
    simp [hsame]

/-- A call that draws a handle enters it in its map; one that draws none leaves the maps alone. -/
theorem Effect.entered (e : Effect env amb s op s' ev) (hop : ∀ h, op ≠ .returnHandshakeHandle h)
    (hop' : ∀ h, op ≠ .returnIdentityHandle h) :
    (s'.nextHandle = s.nextHandle ∧ s'.table = s.table) ∨
    ∃ k p, issuesTo op = some k ∧ s'.nextHandle = s.nextHandle + 1 ∧
      s'.table = enter s.table k s.nextHandle (some p) := by
  cases e with
  | localIdentity _ _ _ _ _ _ => exact .inr ⟨.locals, _, rfl, rfl, (enter_table s _ _).1⟩
  | remoteNew _ _ _ _ _ _ => exact .inr ⟨.remotes, _, rfl, rfl, (enter_table s _ _).2.1⟩
  | request _ => exact .inr ⟨.handshakes, _, rfl, rfl, (enter_table s _ _).2.2⟩
  | reply _ => exact .inr ⟨.handshakes, _, rfl, rfl, (enter_table s _ _).2.2⟩
  | forgetHandshake => exact absurd rfl (hop _)
  | forgetLocal => exact absurd rfl (hop' _)
  | forgetRemote => exact absurd rfl (hop' _)
  | _ => exact .inl ⟨rfl, rfl⟩

theorem returnHandshakeHandle_live (h' : Handle) :
    ((exec env s (.returnHandshakeHandle h', amb)).1.table k h).isSome ↔
      (s.table k h).isSome ∧ ¬ Returns (α := α) k h (.returnHandshakeHandle h') := by
  by_cases hlive : (s.handshakes h').isSome = true
  · have hret : returnHandshakeHandle s h' = .ok { s with handshakes := Function.update s.handshakes h' none } := by
      simp only [returnHandshakeHandle, hlive]
      rfl
    simp only [exec, stateOr, hret, (enter_table s h' none).2.2, enter_none_isSome, Returns]
    exact and_congr_right fun _ => not_congr (and_congr_right fun _ => eq_comm)
  · have hret : returnHandshakeHandle s h' = .error (str "Unknown PQSec handshake handle") := by
      simp only [returnHandshakeHandle, hlive]
      rfl
    simp only [exec, stateOr, hret, iff_self_and]
    rintro hsome ⟨rfl, rfl⟩
    exact hlive hsome

theorem returnIdentityHandle_live (hd : KeysDisjoint s) (h' : Handle) :
    ((exec env s (.returnIdentityHandle h', amb)).1.table k h).isSome ↔
      (s.table k h).isSome ∧ ¬ Returns (α := α) k h (.returnIdentityHandle h') := by
  simp only [exec, returnIdentityHandle, Returns]
  split
  · rename_i hlocal
    simp only [stateOr, (enter_table s h' none).1, enter_none_isSome]
    refine and_congr_right fun hsome => not_congr ⟨?_, ?_⟩
    · rintro ⟨rfl, rfl⟩
      exact ⟨by decide, rfl⟩
    · rintro ⟨-, rfl⟩
      exact ⟨hd k .locals h' hsome hlocal, rfl⟩
  split
  · rename_i hlocal hremote
    simp only [stateOr, (enter_table s h' none).2.1, enter_none_isSome]
    refine and_congr_right fun hsome => not_congr ⟨?_, ?_⟩
    · rintro ⟨rfl, rfl⟩
      exact ⟨by decide, rfl⟩
    · rintro ⟨-, rfl⟩
      exact ⟨hd k .remotes h' hsome hremote, rfl⟩
  · rename_i hlocal hremote
    simp only [stateOr, iff_self_and]
    rintro hsome ⟨hk, rfl⟩
    cases k with
    | locals => exact hlocal hsome
    | remotes => exact hremote hsome
    | handshakes => exact hk rfl

/-- What one call does to the liveness of a handle. -/
theorem exec_live (hd : KeysDisjoint s) (k : Table) (h : Handle) (op : Op α) (amb : Ambient α ρ) :
    ((exec env s (op, amb)).1.table k h).isSome ↔
      Issues env k h (s, op, amb) ∨ (s.table k h).isSome ∧ ¬ Returns k h op := by
  by_cases hop : ∃ h', op = .returnHandshakeHandle h'
  · obtain ⟨h', rfl⟩ := hop
    simp only [returnHandshakeHandle_live, Issues, issuesTo, reduceCtorEq, and_false, false_or]
  by_cases hop' : ∃ h', op = .returnIdentityHandle h'
  · obtain ⟨h', rfl⟩ := hop'
    simp only [returnIdentityHandle_live hd, Issues, issuesTo, reduceCtorEq, and_false, false_or]
  have hno : ¬ Returns k h op := by
    cases op with
    | returnHandshakeHandle h' => exact absurd ⟨h', rfl⟩ hop
    | returnIdentityHandle h' => exact absurd ⟨h', rfl⟩ hop'
    | _ => exact id
  have heffect : Effect env amb s op _ _ := exec_effect op
  have he := heffect.entered (fun h' heq => hop ⟨h', heq⟩)
    fun h' heq => hop' ⟨h', heq⟩
  rcases he with ⟨hnext, htable⟩ | ⟨k', p, hk, hnext, htable⟩
  · rcases issued_cases env s (op, amb) with ⟨hnone, -⟩ | ⟨-, hmoved⟩
    · simp [htable, Issues, hnone, hno]
    · exact absurd (hmoved.symm.trans hnext) (next_ne _)
  · rcases issued_cases env s (op, amb) with ⟨-, hsame⟩ | ⟨hsome, -⟩
    · exact absurd (hnext.symm.trans hsame) (next_ne _)
    · simp only [htable, enter_isSome, Issues, hsome, hk, Option.some.injEq, hno, not_false_eq_true, and_true]
      refine or_congr_left ⟨?_, ?_⟩
      · rintro ⟨rfl, rfl⟩
        exact ⟨rfl, rfl⟩
      · rintro ⟨rfl, rfl⟩
        exact ⟨rfl, rfl⟩

/-! ## Runs -/

/-- A handle is a key of a map exactly if it was issued for the map and not returned since. -/
theorem live_handles (env : Env α κ π ρ) (hr : Run (plugin env).solo tr s) (k : Table) (h : Handle) :
    (s.table k h).isSome ↔ Since (Issues env k h) (fun e => Returns k h e.2.1) tr := by
  refine hr.iff_since (Q := fun s => (s.table k h).isSome = true) ?_ ?_
  · rintro s rfl
    cases k <;> exact Bool.false_ne_true
  · rintro tr s ⟨op, amb⟩ s' hr ⟨-, rfl⟩
    exact exec_live (keysNumbered hr).disjoint k h op amb

/-! Participant 1 spoils a handshake and gives its own identity back; the handle of the handshake outlives both. -/

def spoilCall : SampleCall := (.processHandshake {} {} 3, sampleAmbient 25)

def partingCall : SampleCall := (.returnIdentityHandle 1, sampleAmbient 26)

def spoiled : Authentication Sym KemKey Nat := after (after (acquainted 1 2) requestCall) spoilCall

def partingCalls : Calls Sym KemKey Nat Nat :=
  (spoiled, partingCall) :: (after (acquainted 1 2) requestCall, spoilCall) :: sampleCalls

theorem live_handles_sample :
    Since (Issues sampleEnv .handshakes 3) (fun e => Returns .handshakes 3 e.2.1) partingCalls := by
  have hr : Run (plugin sampleEnv).solo partingCalls (after spoiled partingCall) :=
    run_after (run_after (run_after (acquainted_run 1 2) requestCall (by decide)) spoilCall (by decide)) partingCall
      (by decide)
  exact (live_handles sampleEnv hr .handshakes 3).1 (by decide +kernel)

end PqsecDds.OpenDDS
