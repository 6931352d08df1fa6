import PqsecDds.OpenDDS.Failures

/-!
# Handles

| here | there |
|---|---|
| `table` | the three maps, by name |
| `issued` | the handle a call draws from `next_handle()` (Authentication.cpp:242, 322, 403, 526) |
| `HandleStep` | what a call does to the counter and the maps |

The `n`-th handle of a run is `n`, so no two are the same and none is `HANDLE_NIL`; the counter has no value after
`2 ^ 31 - 1`, and the call that draws this handle is not defined (`handles_fresh_iff`).
-/

namespace PqsecDds.OpenDDS

open Lib Authentication

variable {α κ π ρ : Type}

/-! ## The three maps -/

inductive Table where
  | locals
  | remotes
  | handshakes
  deriving DecidableEq

def Authentication.table (s : Authentication α κ π) : Table → Handle → Option Nat
  | .locals => s.locals
  | .remotes => s.remotes
  | .handshakes => s.handshakes

/-- No handle is a key of two maps. -/
def KeysDisjoint (s : Authentication α κ π) : Prop :=
  ∀ k k' h, (s.table k h).isSome → (s.table k' h).isSome → k = k'

/-- The maps with one entry set. -/
def enter (m : Table → Handle → Option Nat) (k : Table) (h : Handle) (p : Option Nat) :
    Table → Handle → Option Nat :=
  Function.update m k (Function.update (m k) h p)

theorem enter_self (m : Table → Handle → Option Nat) (k : Table) (h : Handle) (p : Option Nat) :
    enter m k h p k h = p := by
  rw [enter, Function.update_self, Function.update_self]

theorem enter_of_ne {m : Table → Handle → Option Nat} {k k' : Table} {h h' : Handle} {p : Option Nat}
    (hne : ¬ (k' = k ∧ h' = h)) : enter m k h p k' h' = m k' h' := by
  by_cases hk : k' = k
  · subst hk
    have hh : h' ≠ h := fun hh => hne ⟨rfl, hh⟩
    rw [enter, Function.update_self, Function.update_of_ne hh]
  · rw [enter, Function.update_of_ne hk]

theorem enter_table (s : Authentication α κ π) (h : Handle) (p : Option Nat) :
    ({ s with locals := Function.update s.locals h p } : Authentication α κ π).table = enter s.table .locals h p ∧
    ({ s with remotes := Function.update s.remotes h p } : Authentication α κ π).table =
      enter s.table .remotes h p ∧
    ({ s with handshakes := Function.update s.handshakes h p } : Authentication α κ π).table =
      enter s.table .handshakes h p := by
  refine ⟨?_, ?_, ?_⟩ <;> funext k <;> cases k <;> rfl

/-! ## What a call does to them -/

inductive HandleStep (s s' : Authentication α κ π) : Prop
  | keeps (hnext : s'.nextHandle = s.nextHandle) (htable : s'.table = s.table)
  | issues (k : Table) (p : Nat) (hnext : s'.nextHandle = s.nextHandle + 1)
      (htable : s'.table = enter s.table k s.nextHandle (some p))
  | forgets (k : Table) (h : Handle) (hnext : s'.nextHandle = s.nextHandle) (htable : s'.table = enter s.table k h none)

variable [Octet α] [DecidableEq α]
variable {env : Env α κ π ρ} {amb : Ambient α ρ} {s s' : Authentication α κ π} {op : Op α}

theorem Effect.handleStep {ev : List (Event α π)} (e : Effect env amb s op s' ev) : HandleStep s s' := by
  cases e with
  | nothing => exact .keeps rfl rfl
  | provider _ => exact .keeps rfl rfl
  | localIdentity _ _ _ _ _ _ => exact .issues .locals _ rfl (enter_table s _ _).1
  | identityToken _ => exact .keeps rfl rfl
  | permissions _ _ => exact .keeps rfl rfl
  | remoteKnown _ _ _ => exact .keeps rfl rfl
  | remoteNew _ _ _ _ _ _ => exact .issues .remotes _ rfl (enter_table s _ _).2.1
  | request _ => exact .issues .handshakes _ rfl (enter_table s _ _).2.2
  | reply _ => exact .issues .handshakes _ rfl (enter_table s _ _).2.2
  | process _ _ => exact .keeps rfl rfl
  | forgetHandshake => exact .forgets .handshakes _ rfl (enter_table s _ _).2.2
  | forgetLocal => exact .forgets .locals _ rfl (enter_table s _ _).1
  | forgetRemote => exact .forgets .remotes _ rfl (enter_table s _ _).2.1

/-- The handle an operation returns, if it drew one. -/
def issuedBy (s : Authentication α κ π) (result : Outcome α π × Authentication α κ π) : Option Handle :=
  if result.2.nextHandle = s.nextHandle then none else some result.1.handle

/-- The handle a call issues. -/
def issued (env : Env α κ π ρ) (s : Authentication α κ π) : Op α × Ambient α ρ → Option Handle
  | (.validateLocalIdentity handle properties candidate, amb) =>
    issuedBy s (validateLocalIdentity env amb s handle properties candidate)
  | (.validateRemoteIdentity remoteHandle localRequest remoteRequest localHandle identityToken remoteGuid, amb) =>
    issuedBy s
      (validateRemoteIdentity env amb s remoteHandle localRequest remoteRequest localHandle identityToken remoteGuid)
  | (.beginHandshakeRequest handle message initiatorHandle replierHandle participantData, amb) =>
    issuedBy s (beginHandshakeRequest env amb s handle message initiatorHandle replierHandle participantData)
  | (.beginHandshakeReply handle message initiatorHandle replierHandle participantData, amb) =>
    issuedBy s (beginHandshakeReply env amb s handle message initiatorHandle replierHandle participantData)
  | _ => none

/-- The operation leaves the counter alone, or takes a handle from it and returns that one. -/
def Draws (s : Authentication α κ π) (result : Outcome α π × Authentication α κ π) : Prop :=
  result.2.nextHandle = s.nextHandle ∨ (result.1.handle = s.nextHandle ∧ result.2.nextHandle = s.nextHandle + 1)

omit [Octet α] [DecidableEq α] in
theorem next_ne (h : Int) : h + 1 ≠ h := by omega

omit [Octet α] [DecidableEq α] in
theorem Draws.issuedBy {result : Outcome α π × Authentication α κ π} (h : Draws s result) :
    (issuedBy s result = none ∧ result.2.nextHandle = s.nextHandle) ∨
    (issuedBy s result = some s.nextHandle ∧ result.2.nextHandle = s.nextHandle + 1) := by
  rcases h with hsame | ⟨hhandle, hnext⟩
  · exact .inl ⟨if_pos hsame, hsame⟩
  · refine .inr ⟨?_, hnext⟩
    rw [OpenDDS.issuedBy, hnext, if_neg (next_ne _), hhandle]

theorem validateLocalIdentity_draws (h : Handle) (props : List (Property α)) (cand : Guid) :
    Draws s (validateLocalIdentity env amb s h props cand) := by
  simp only [validateLocalIdentity]
  split
  · exact .inl rfl
  split
  · exact .inl rfl
  split
  · exact .inl rfl
  split
  · exact .inl rfl
  split
  · exact .inl rfl
  · exact .inr ⟨rfl, rfl⟩

theorem validateRemoteIdentity_draws (rh : Handle) (lt rt : Token α) (lh : Handle) (it : Token α) (g : Guid) :
    Draws s (validateRemoteIdentity env amb s rh lt rt lh it g) := by
  rcases validateRemoteIdentity_cases env amb s rh lt rt lh it g with
    ⟨-, hst⟩ | ⟨p, l, r, r', -, -, -, hst⟩ | ⟨q, l, challenge, r', -, -, -, -, hhandle, hst⟩
  · exact .inl (by rw [hst])
  · exact .inl (by rw [hst]; rfl)
  · exact .inr ⟨hhandle, by rw [hst]; rfl⟩

omit [DecidableEq α] in
theorem beginHandshakeRequest_draws (h : Handle) (m : Token α) (ih rh : Handle) (pd : OctetSeq α) :
    Draws s (beginHandshakeRequest env amb s h m ih rh pd) := by
  rw [beginHandshakeRequest]
  split
  · exact .inl rfl
  split
  · exact .inl rfl
  · exact .inr ⟨rfl, rfl⟩

theorem beginHandshakeReply_draws (h : Handle) (m : Token α) (ih rh : Handle) (pd : OctetSeq α) :
    Draws s (beginHandshakeReply env amb s h m ih rh pd) := by
  rw [beginHandshakeReply]
  split
  · exact .inl rfl
  split
  · exact .inl rfl
  · exact .inr ⟨rfl, rfl⟩

variable (env s) in
/-- The counter moves exactly with the handles that are issued. -/
theorem issued_cases (call : Op α × Ambient α ρ) :
    (issued env s call = none ∧ (exec env s call).1.nextHandle = s.nextHandle) ∨
    (issued env s call = some s.nextHandle ∧ (exec env s call).1.nextHandle = s.nextHandle + 1) := by
  obtain ⟨op, amb⟩ := call
  cases op with
  | validateLocalIdentity h props cand => exact (validateLocalIdentity_draws h props cand).issuedBy
  | validateRemoteIdentity rh lt rt lh it g => exact (validateRemoteIdentity_draws rh lt rt lh it g).issuedBy
  | beginHandshakeRequest h m ih rh pd => exact (beginHandshakeRequest_draws h m ih rh pd).issuedBy
  | beginHandshakeReply h m ih rh pd => exact (beginHandshakeReply_draws h m ih rh pd).issuedBy
  | getIdentityToken token h =>
    refine .inl ⟨rfl, ?_⟩
    simp only [exec]
    split <;> rfl
  | setPermissionsCredentialAndToken h credential =>
    refine .inl ⟨rfl, ?_⟩
    simp only [exec, stateOr]
    split
    · rename_i s' hs'
      simp only [setPermissionsCredentialAndToken, bind_ok, need_ok, pure_ok, Prod.exists] at hs'
      obtain ⟨p, l, -, perms, -, rfl⟩ := hs'
      rfl
    · rfl
  | processHandshake out inp h =>
    refine .inl ⟨rfl, ?_⟩
    simp only [exec, processHandshake]
    split
    · rfl
    · split <;> rfl
  | getSharedSecret h => exact .inl ⟨rfl, rfl⟩
  | getAuthenticatedPeerCredentialToken token h => exact .inl ⟨rfl, rfl⟩
  | returnHandshakeHandle h =>
    refine .inl ⟨rfl, ?_⟩
    simp only [exec, stateOr]
    split
    · rename_i s' hs'
      simp only [returnHandshakeHandle, bind_ok, pure_ok] at hs'
      obtain ⟨-, -, rfl⟩ := hs'
      rfl
    · rfl
  | returnIdentityHandle h =>
    refine .inl ⟨rfl, ?_⟩
    simp only [exec, returnIdentityHandle]
    split
    · rfl
    · split <;> rfl

/-! ## The handles of a run -/

/-- The handles issued in a run, the latest first. -/
def issuedHandles (env : Env α κ π ρ) (tr : Calls α κ π ρ) : List Handle :=
  tr.filterMap fun e => issued env e.1 e.2

/-- Every key is the number of a handle that was issued, and no handle is a key of two maps. -/
structure KeysNumbered (s : Authentication α κ π) (n : Nat) : Prop where
  numbers : ∀ (k : Table) (h : Int), (s.table k h).isSome → 1 ≤ h ∧ h ≤ n
  disjoint : KeysDisjoint s

omit [Octet α] [DecidableEq α] in
theorem KeysNumbered.of_eq {n : Nat} (h : KeysNumbered s n) (htable : s'.table = s.table) : KeysNumbered s' n := by
  refine ⟨?_, ?_⟩
  · rw [htable]
    exact h.numbers
  · rw [KeysDisjoint, htable]
    exact h.disjoint

omit [Octet α] [DecidableEq α] in
/-- The next handle is no key. -/
theorem KeysNumbered.unused {n : Nat} (h : KeysNumbered s n) (k : Table) : s.table k ((n : Int) + 1) = none := by
  rw [← Option.not_isSome_iff_eq_none]
  intro hsome
  have hle := (h.numbers k _ hsome).2
  omega

omit [Octet α] [DecidableEq α] in
theorem KeysNumbered.issues {n p : Nat} {k : Table} (h : KeysNumbered s n)
    (htable : s'.table = enter s.table k ((n : Int) + 1) (some p)) : KeysNumbered s' (n + 1) where
  numbers := by
    intro k' (h' : Int) hsome
    by_cases hsame : k' = k ∧ h' = (n : Int) + 1
    · obtain ⟨-, rfl⟩ := hsame
      omega
    · rw [htable, enter_of_ne hsame] at hsome
      have hold := h.numbers k' h' hsome
      omega
  disjoint := by
    intro k₁ k₂ h' h₁ h₂
    by_cases hnew : h' = (n : Int) + 1
    · -- the new handle is a key of `k` only
      have honly : ∀ k', (s'.table k' h').isSome → k' = k := by
        intro k' hsome
        by_contra hne
        rw [htable, enter_of_ne fun hsame => hne hsame.1, hnew, h.unused k'] at hsome
        cases hsome
      rw [honly k₁ h₁, honly k₂ h₂]
    · rw [htable, enter_of_ne fun hsame => hnew hsame.2] at h₁ h₂
      exact h.disjoint k₁ k₂ h' h₁ h₂

omit [Octet α] [DecidableEq α] in
theorem KeysNumbered.forgets {n : Nat} {k : Table} {h' : Handle} (h : KeysNumbered s n)
    (htable : s'.table = enter s.table k h' none) : KeysNumbered s' n := by
  have hold : ∀ k₁ h₁, (s'.table k₁ h₁).isSome → (s.table k₁ h₁).isSome := by
    intro k₁ h₁ hsome
    by_cases hsame : k₁ = k ∧ h₁ = h'
    · obtain ⟨rfl, rfl⟩ := hsame
      rw [htable, enter_self] at hsome
      cases hsome
    · rwa [htable, enter_of_ne hsame] at hsome
  exact ⟨fun k₁ h₁ hsome => h.numbers k₁ h₁ (hold k₁ h₁ hsome),
    fun k₁ k₂ h₁ hs₁ hs₂ => h.disjoint k₁ k₂ h₁ (hold k₁ h₁ hs₁) (hold k₂ h₁ hs₂)⟩

variable {tr : Calls α κ π ρ} {call : Op α × Ambient α ρ}

theorem issuedHandles_none (h : issued env s call = none) :
    issuedHandles env ((s, call) :: tr) = issuedHandles env tr :=
  List.filterMap_cons_none h

theorem issuedHandles_some {h' : Handle} (h : issued env s call = some h') :
    issuedHandles env ((s, call) :: tr) = h' :: issuedHandles env tr :=
  List.filterMap_cons_some h

/-- The counter stands at the number of the next handle. -/
theorem counter (hr : Run (plugin env).solo tr s) : s.nextHandle = ((issuedHandles env tr).length : Int) + 1 := by
  refine hr.inv (I := fun tr s => s.nextHandle = ((issuedHandles env tr).length : Int) + 1) ?_ ?_
  · rintro s rfl
    rfl
  · rintro tr s call s' - hnext ⟨-, rfl⟩
    rcases issued_cases env s call with ⟨hnone, hsame⟩ | ⟨hsome, hmoved⟩
    · rw [issuedHandles_none hnone]
      exact hsame.trans hnext
    · rw [issuedHandles_some hsome, List.length_cons]
      simp only [plugin]
      omega

theorem keysNumbered (hr : Run (plugin env).solo tr s) : KeysNumbered s (issuedHandles env tr).length := by
  refine hr.inv (I := fun tr s => KeysNumbered s (issuedHandles env tr).length) ?_ ?_
  · rintro s rfl
    have hempty : ∀ k h, ¬ ((Authentication.new env).table k h).isSome := by
      intro k h
      cases k <;> exact Bool.false_ne_true
    exact ⟨fun k h hsome => absurd hsome (hempty k h), fun k k' h hsome => absurd hsome (hempty k h)⟩
  · rintro tr s ⟨op, amb⟩ s' hr h ⟨-, rfl⟩
    have hstep : HandleStep s (exec env s (op, amb)).1 := (exec_effect op).handleStep
    rcases issued_cases env s (op, amb) with ⟨hnone, hsame⟩ | ⟨hsome, hmoved⟩
    · rw [issuedHandles_none hnone]
      cases hstep with
      | keeps _ htable => exact h.of_eq htable
      | issues k p hnext _ => exact absurd (hnext.symm.trans hsame) (next_ne _)
      | forgets k h' _ htable => exact h.forgets htable
    · rw [issuedHandles_some hsome, List.length_cons]
      cases hstep with
      | keeps hnext _ => exact absurd (hmoved.symm.trans hnext) (next_ne _)
      | issues k p _ htable =>
        rw [counter hr] at htable
        exact h.issues htable
      | forgets k h' hnext _ => exact absurd (hmoved.symm.trans hnext) (next_ne _)

/-- A call that issues a handle is defined as long as the counter has another value. -/
theorem defined_iff_of_issued (hr : Run (plugin env).solo tr s) {h : Handle} (hsome : issued env s call = some h) :
    Defined env s call ↔ (issuedHandles env ((s, call) :: tr)).length < 2 ^ 31 - 1 := by
  have hnext := counter hr
  rw [issuedHandles_some hsome, List.length_cons]
  rcases issued_cases env s call with ⟨hnone, -⟩ | ⟨-, hmoved⟩
  · rw [hnone] at hsome
    cases hsome
  · rw [Defined, hmoved, hnext, InInt32]
    omega

/-- No run issues more handles than the counter has values. -/
theorem issuedHandles_lt (hr : Run (plugin env).solo tr s) : (issuedHandles env tr).length < 2 ^ 31 - 1 := by
  induction hr with
  | init _ => exact Nat.lt_of_sub_eq_succ rfl
  | @step tr s call s' hr hs ih =>
    cases hissued : issued env s call with
    | none => rwa [issuedHandles_none hissued]
    | some h => exact (defined_iff_of_issued hr hissued).1 hs.1

/-! ## Freshness -/

/-- A handle is issued by a call whose behaviour is defined; it is not `HANDLE_NIL` and no key of a map. -/
def IssuesFresh (env : Env α κ π ρ) (s : Authentication α κ π) (call : Op α × Ambient α ρ) : Prop :=
  ∀ h, issued env s call = some h → Defined env s call ∧ h ≠ 0 ∧ ∀ k, s.table k h = none

/-- A call leaves the object of a handle where it is or takes it out; it puts no other in its place. -/
def ReplacesNothing (env : Env α κ π ρ) (s : Authentication α κ π) (call : Op α × Ambient α ρ) : Prop :=
  ∀ k h p, s.table k h = some p → (exec env s call).1.table k h = some p ∨ (exec env s call).1.table k h = none

/-- `return_identity_handle` takes the one object of the handle out, and nothing else. -/
def ReturnsOne (s : Authentication α κ π) : Prop :=
  ∀ h s', returnIdentityHandle s h = .ok s' →
    ∃ k, (s.table k h).isSome ∧ (∀ k', k' ≠ k → s.table k' h = none) ∧ s'.table = enter s.table k h none

/-- What a history says about handles: in every call, and in every state a call was made in. -/
structure HandlesFresh (env : Env α κ π ρ) (calls : Calls α κ π ρ) : Prop where
  issues : ∀ e ∈ calls, IssuesFresh env e.1 e.2
  replaces : ∀ e ∈ calls, ReplacesNothing env e.1 e.2
  states : ∀ e ∈ calls, KeysDisjoint e.1 ∧ ReturnsOne e.1

omit [DecidableEq α] in
theorem KeysDisjoint.returnsOne (h : KeysDisjoint s) : ReturnsOne s := by
  have honly : ∀ k h', (s.table k h').isSome → ∀ k', k' ≠ k → s.table k' h' = none := by
    intro k h' hsome k' hne
    rw [← Option.not_isSome_iff_eq_none]
    intro hsome'
    exact hne (h k' k h' hsome' hsome)
  intro h' s' hreturn
  rw [returnIdentityHandle] at hreturn
  split at hreturn
  · rename_i hlocal
    obtain rfl := Except.ok.inj hreturn
    exact ⟨.locals, hlocal, honly .locals h' hlocal, (enter_table s h' none).1⟩
  split at hreturn
  · rename_i hremote
    obtain rfl := Except.ok.inj hreturn
    exact ⟨.remotes, hremote, honly .remotes h' hremote, (enter_table s h' none).2.1⟩
  · cases hreturn

/-- A call puts its new object under a handle that was no key. -/
theorem replacesNothing (hr : Run (plugin env).solo tr s) (call : Op α × Ambient α ρ) : ReplacesNothing env s call := by
  intro k h p hp
  have hstep : HandleStep s (exec env s call).1 := (exec_effect call.1).handleStep
  cases hstep with
  | keeps _ htable => exact .inl (by rw [htable, hp])
  | issues k' p' _ htable =>
    have hunused := (keysNumbered hr).unused k
    rw [← counter hr] at hunused
    have hne : ¬ (k = k' ∧ h = s.nextHandle) := by
      rintro ⟨rfl, rfl⟩
      rw [hunused] at hp
      cases hp
    exact .inl (by rw [htable, enter_of_ne hne, hp])
  | forgets k' h' _ htable =>
    by_cases hat : k = k' ∧ h = h'
    · obtain ⟨rfl, rfl⟩ := hat
      exact .inr (by rw [htable, enter_self])
    · exact .inl (by rw [htable, enter_of_ne hat, hp])

/-- A defined call issues a fresh handle. -/
theorem issuesFresh (hr : Run (plugin env).solo tr s) (hdef : ∀ h, issued env s call = some h → Defined env s call) :
    IssuesFresh env s call := by
  intro h hissued
  have hnext := counter hr
  rcases issued_cases env s call with ⟨hnone, -⟩ | ⟨hsome, -⟩
  · rw [hnone] at hissued
    cases hissued
  · obtain rfl := Option.some.inj (hsome.symm.trans hissued)
    have hne : s.nextHandle ≠ 0 := by omega
    refine ⟨hdef _ hsome, hne, fun k => ?_⟩
    rw [hnext]
    exact (keysNumbered hr).unused k

/-- **Handles.** Whatever call comes next in a run: every handle issued up to it is fresh, the maps stay apart and nothing
is replaced, exactly as long as fewer than `2 ^ 31 - 1` handles were issued, this call's included. -/
theorem handles_fresh_iff (env : Env α κ π ρ) {tr : Calls α κ π ρ} {s : Authentication α κ π}
    (hr : Run (plugin env).solo tr s) (call : Op α × Ambient α ρ) :
    HandlesFresh env ((s, call) :: tr) ↔ (issuedHandles env ((s, call) :: tr)).length < 2 ^ 31 - 1 := by
  constructor
  · intro h
    have hold := issuedHandles_lt hr
    cases hissued : issued env s call with
    | none => rwa [issuedHandles_none hissued]
    | some h' =>
      have hdef := (h.issues (s, call) List.mem_cons_self h' hissued).1
      exact (defined_iff_of_issued hr hissued).1 hdef
  · intro hn
    have hevent : ∀ e ∈ (s, call) :: tr, IssuesFresh env e.1 e.2 ∧ ReplacesNothing env e.1 e.2 ∧ KeysDisjoint e.1 := by
      rintro ⟨s₁, call₁⟩ he
      rcases List.mem_cons.1 he with heq | he
      · obtain ⟨rfl, rfl⟩ := Prod.mk.inj heq
        exact ⟨issuesFresh hr fun h hissued => (defined_iff_of_issued hr hissued).2 hn, replacesNothing hr call₁,
          (keysNumbered hr).disjoint⟩
      · obtain ⟨tr₁, tr₀, s₂, -, hr₀, ⟨hdef, -⟩, -⟩ := hr.of_mem he
        exact ⟨issuesFresh hr₀ fun _ _ => hdef, replacesNothing hr₀ call₁, (keysNumbered hr₀).disjoint⟩
    exact ⟨fun e he => (hevent e he).1, fun e he => (hevent e he).2.1,
      fun e he => ⟨(hevent e he).2.2, (hevent e he).2.2.returnsOne⟩⟩

def sampleCalls : Calls Sym KemKey Nat Nat := (acquainted 1 2, requestCall) :: acquaintedCalls 1 2

theorem handles_fresh_sample : HandlesFresh sampleEnv sampleCalls := by
  have hlen : (issuedHandles sampleEnv sampleCalls).length = 3 := by decide +kernel
  have hlt : (issuedHandles sampleEnv sampleCalls).length < 2 ^ 31 - 1 := by
    rw [hlen]
    decide
  exact (handles_fresh_iff sampleEnv (acquainted_run 1 2) requestCall).2 hlt

/-! ### A long run

Participant 1 is told again and again about participant 2, and makes a remote identity every time. -/

theorem introduced_again {s : Authentication Sym KemKey Nat} {l : LocalIdentity Sym Nat}
    (hl : s.findLocal 1 = some (0, l)) :
    (after s (remoteCall 2)).findLocal 1 = some (0, l) ∧ issued sampleEnv s (remoteCall 2) = some s.nextHandle := by
  have hintro : Introduces sampleEnv (sampleAmbient 12) s 0 1 (Token.writer {} "pqsec-dds.auth:1.0") l (nonce 12) :=
    ⟨⟨0, hl⟩, by decide +kernel, fun hne => absurd rfl hne, rfl⟩
  obtain ⟨r', hst, -, -⟩ := receiveAuthRequest_received (s.addRemote (newRemote 1 (sampleGuid 2) (nonce 12)))
    s.remoteHeap.length (newRemote 1 (sampleGuid 2) (nonce 12)) s.nextHandle {} {} l.guid
  have hafter : after s (remoteCall 2) = s.addRemote r' := by
    rw [← setRemote_addRemote (newRemote 1 (sampleGuid 2) (nonce 12)), ← hst, ← validateRemoteIdentity_new hintro]
    rfl
  constructor
  · rw [hafter]
    exact hl
  · rcases issued_cases sampleEnv s (remoteCall 2) with ⟨-, hsame⟩ | ⟨hsome, -⟩
    · have hmoved : (after s (remoteCall 2)).nextHandle = s.nextHandle + 1 := by rw [hafter]; rfl
      exact absurd (hmoved.symm.trans hsame) (next_ne _)
    · exact hsome

theorem exists_long_run (n : Nat) (hn : n < 2 ^ 31 - 2) : ∃ tr s l, Run (plugin sampleEnv).solo tr s ∧
    (issuedHandles sampleEnv tr).length = n + 1 ∧ s.findLocal 1 = some (0, l) := by
  induction n with
  | zero =>
    have hfind : ((after (.new sampleEnv) (localCall 1)).findLocal 1).map (·.1) = some 0 := by decide +kernel
    obtain ⟨⟨p, l⟩, hl, rfl⟩ := Option.map_eq_some_iff.1 hfind
    exact ⟨_, _, l, run_after (.init rfl) (localCall 1) (by decide), by decide +kernel, hl⟩
  | succ n ih =>
    obtain ⟨tr, s, l, hr, hlen, hl⟩ := ih (by omega)
    obtain ⟨hl', hissued⟩ := introduced_again hl
    have hlen' : (issuedHandles sampleEnv ((s, remoteCall 2) :: tr)).length = n + 1 + 1 := by
      rw [issuedHandles_some hissued, List.length_cons, hlen]
    have hdef : Defined sampleEnv s (remoteCall 2) := (defined_iff_of_issued hr hissued).2 (by omega)
    exact ⟨_, _, l, .step hr ⟨hdef, rfl⟩, hlen', hl'⟩

/-- The call that draws the handle `2 ^ 31 - 1` overflows the counter. -/
theorem handles_fresh_fails : ¬ ∀ tr s, Run (plugin sampleEnv).solo tr s →
    ∀ call, HandlesFresh sampleEnv ((s, call) :: tr) := by
  intro h
  obtain ⟨tr, s, l, hr, hlen, hl⟩ := exists_long_run (2 ^ 31 - 3) (by omega)
  obtain ⟨-, hissued⟩ := introduced_again hl
  have hdef := ((h tr s hr (remoteCall 2)).issues (s, remoteCall 2) List.mem_cons_self _ hissued).1
  have hlt := (defined_iff_of_issued hr hissued).1 hdef
  rw [issuedHandles_some hissued, List.length_cons, hlen] at hlt
  omega

end PqsecDds.OpenDDS
