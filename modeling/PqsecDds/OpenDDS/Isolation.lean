import PqsecDds.Lib.Purge
import PqsecDds.OpenDDS.Exchange
import PqsecDds.OpenDDS.Handles

/-!
# A handshake is served as if it were alone

One plugin serves the handshakes of all its participants from shared tables. `concerns h` picks the calls made with
the handshake handle `h`: the messages given to it, and the questions for its secret and its peer credentials. The
answers to these calls are the ones the plugin would give if nobody else called it (`handshake_isolated`): no other
handshake of the same two participants, no message for it, no returned identity and no new permissions document gets
into them.

What the owner of the handle must keep is `Leaves`: the handle is neither returned nor issued anew, and no further
AuthRequest is validated for the remote identity, whose challenge the handshake still reads.

| here | there |
|---|---|
| `service` | the plugin as the one who answers, `Answer` being what the caller gets to see |
| `Owned` | a pointer is held under one handle only |
| `Agrees` | two plugins hold the same handshake under `h` |
-/

namespace PqsecDds.OpenDDS

open Lib Authentication

variable {α κ π ρ : Type} [Octet α] [DecidableEq α]
variable {env : Env α κ π ρ} {amb : Ambient α ρ} {s s' t : Authentication α κ π} {op : Op α}
variable {ev : List (Event α π)} {tr : Calls α κ π ρ} {h rh : Handle} {p : Nat} {hs : Handshake α κ π}
variable {l l' : LocalIdentity α π} {r : RemoteIdentity α}

/-! ## Calls and answers -/

/-- What the caller of an operation gets to see: its outcome, or a result with the text of the error. -/
inductive Answer (α π : Type) where
  | outcome (outcome : Outcome α π)
  | token (result : Except (Str α) (Token α))
  | secret (result : Except (Str α) (SharedSecret α))
  | done (result : Except (Str α) Unit)

/-- The calls made with the handshake handle `h`. -/
def concerns (h : Handle) : Op α × Ambient α ρ → Bool
  | (.processHandshake _ _ h', _) => h' = h
  | (.getSharedSecret h', _) => h' = h
  | (.getAuthenticatedPeerCredentialToken _ h', _) => h' = h
  | _ => false

def answer (env : Env α κ π ρ) (s : Authentication α κ π) : Op α × Ambient α ρ → Answer α π
  | (.validateLocalIdentity handle properties candidate, amb) =>
    .outcome (validateLocalIdentity env amb s handle properties candidate).1
  | (.getIdentityToken token handle, _) => .token (getIdentityToken s token handle)
  | (.setPermissionsCredentialAndToken handle credential, _) =>
    .done ((setPermissionsCredentialAndToken env s handle credential).map fun _ => ())
  | (.validateRemoteIdentity remoteHandle localRequest remoteRequest localHandle identityToken remoteGuid, amb) =>
    .outcome
      (validateRemoteIdentity env amb s remoteHandle localRequest remoteRequest localHandle identityToken remoteGuid).1
  | (.beginHandshakeRequest handle message initiatorHandle replierHandle participantData, amb) =>
    .outcome (beginHandshakeRequest env amb s handle message initiatorHandle replierHandle participantData).1
  | (.beginHandshakeReply handle message initiatorHandle replierHandle participantData, amb) =>
    .outcome (beginHandshakeReply env amb s handle message initiatorHandle replierHandle participantData).1
  | (.processHandshake output input handle, amb) => .outcome (processHandshake env amb s output input handle).1
  | (.getSharedSecret handle, _) => .secret (getSharedSecret s handle)
  | (.getAuthenticatedPeerCredentialToken token handle, _) =>
    .token (getAuthenticatedPeerCredentialToken s token handle)
  | (.returnHandshakeHandle handle, _) => .done ((returnHandshakeHandle s handle).map fun _ => ())
  | (.returnIdentityHandle handle, _) => .done ((returnIdentityHandle s handle).map fun _ => ())

def service (env : Env α κ π ρ) : Service (Authentication α κ π) (Op α × Ambient α ρ) (Answer α π) where
  step s call := (exec env s call).1
  answer := answer env

/-- The remote identity a call validates anew. -/
def revalidated : Op α → Option Handle
  | .validateRemoteIdentity remoteHandle _ _ _ _ _ => some remoteHandle
  | _ => none

/-- The call leaves the handle `h` and the remote identity `rh` of its handshake to their owner. -/
def Leaves (env : Env α κ π ρ) (h rh : Handle) (s : Authentication α κ π) (call : Op α × Ambient α ρ) : Prop :=
  issued env s call ≠ some h ∧ call.1 ≠ .returnHandshakeHandle h ∧ revalidated call.1 ≠ some rh

instance (env : Env α κ π ρ) (h rh : Handle) (s : Authentication α κ π) (call : Op α × Ambient α ρ) :
    Decidable (Leaves env h rh s call) :=
  inferInstanceAs (Decidable (_ ∧ _ ∧ _))

/-! ## One handle for each pointer -/

/-- No two handles hold one pointer, and a handshake's remote identity is held under no handle but the one the
handshake was made with. -/
structure Owned (s : Authentication α κ π) : Prop where
  handshakes : ∀ {h h' p}, s.handshakes h = some p → s.handshakes h' = some p → h = h'
  remotes : ∀ {h h' p}, s.remotes h = some p → s.remotes h' = some p → h = h'
  remote : ∀ hs ∈ s.handshakeHeap, ∀ h, s.remotes h = some hs.remotePtr → h = hs.remoteHandle

/-- A new object has a pointer of its own. -/
theorem update_injective {m : Handle → Option Nat} {n k : Nat} {g h h' : Handle}
    (hm : ∀ {h h' p}, m h = some p → m h' = some p → h = h') (hk : ∀ h p, m h = some p → p < k)
    (hh : Function.update m g (some k) h = some n) (hh' : Function.update m g (some k) h' = some n) : h = h' := by
  by_cases hg : h = g <;> by_cases hg' : h' = g
  · rw [hg, hg']
  · rw [hg, Function.update_self] at hh
    rw [Function.update_of_ne hg'] at hh'
    have := hk h' n hh'
    have := Option.some.inj hh
    omega
  · rw [hg', Function.update_self] at hh'
    rw [Function.update_of_ne hg] at hh
    have := hk h n hh
    have := Option.some.inj hh'
    omega
  · rw [Function.update_of_ne hg] at hh
    rw [Function.update_of_ne hg'] at hh'
    exact hm hh hh'

omit [Octet α] [DecidableEq α] in
/-- The handle a new handshake names for its remote identity is the one that holds it. -/
theorem Owned.addHandshake (ho : Owned s) (hw : WellFormed s) (hr : s.findRemote hs.remoteHandle = some (hs.remotePtr, r)) :
    Owned (s.addHandshake hs) where
  handshakes := update_injective ho.handshakes hw.handshakes
  remotes := ho.remotes
  remote := by
    intro hs' hmem h hh
    rcases List.mem_append.1 hmem with hmem | hmem
    · exact ho.remote hs' hmem h hh
    · obtain rfl := List.mem_singleton.1 hmem
      exact ho.remotes hh (findRemote_eq_some.1 hr).1

theorem Effect.owned (e : Effect env amb s op s' ev) (hw : WellFormed s) (ho : Owned s) : Owned s' := by
  cases e with
  | remoteNew _ _ _ _ _ _ =>
    refine ⟨ho.handshakes, update_injective ho.remotes hw.remotes, fun hs hmem h hh => ?_⟩
    have hlt := (hw.identities hs hmem).2
    by_cases hn : h = s.nextHandle
    · simp only [addRemote, hn, Function.update_self, Option.some.injEq] at hh
      omega
    · simp only [addRemote, Function.update_of_ne hn] at hh
      exact ho.remote hs hmem h hh
  | request hm =>
    obtain ⟨l, r, -, hr, -, -, rfl, -⟩ := makeRequest_ok hm
    exact ho.addHandshake hw hr
  | reply hm =>
    obtain ⟨l, r, -, -, hr, -, -, rfl, -⟩ := makeReply_ok hm
    exact ho.addHandshake hw hr
  | process hf _ =>
    refine ⟨ho.handshakes, ho.remotes, fun hs hmem h hh => ?_⟩
    rcases List.mem_or_eq_of_mem_set hmem with hmem | rfl
    · exact ho.remote hs hmem h hh
    · rw [processMessage_frame.remotePtr] at hh
      rw [processMessage_frame.remoteHandle]
      exact ho.remote _ (List.mem_of_getElem? (findHandshake_eq_some.1 hf).2) h hh
  | forgetHandshake =>
    exact ⟨fun h₁ h₂ => ho.handshakes (eq_some_of_update_none h₁) (eq_some_of_update_none h₂), ho.remotes, ho.remote⟩
  | forgetRemote =>
    exact ⟨ho.handshakes, fun h₁ h₂ => ho.remotes (eq_some_of_update_none h₁) (eq_some_of_update_none h₂),
      fun hs hmem h hh => ho.remote hs hmem h (eq_some_of_update_none hh)⟩
  | _ => exact ⟨ho.handshakes, ho.remotes, ho.remote⟩

theorem owned (hr : Run (plugin env).solo tr s) : WellFormed s ∧ Owned s := by
  refine hr.state_inv (I := fun s => WellFormed s ∧ Owned s) ?_ ?_
  · rintro s rfl
    exact ⟨⟨nofun, nofun, nofun, nofun⟩, nofun, nofun, nofun⟩
  · rintro s ⟨op, amb⟩ s' ⟨hw, ho⟩ ⟨-, rfl⟩
    exact ⟨(exec_effect op).wellFormed hw, (exec_effect op).owned hw ho⟩

/-! ## What a handshake reads -/

/-- The parts of a local identity that a handshake reads after its first message. -/
structure SameKeys (l l' : LocalIdentity α π) : Prop where
  caCert : l'.credentials.caCert = l.credentials.caCert
  key : l'.credentials.participantPrivateKey = l.credentials.participantPrivateKey
  kemAlgorithm : l'.kemAlgorithm = l.kemAlgorithm

omit [Octet α] [DecidableEq α] in
theorem SameKeys.refl (l : LocalIdentity α π) : SameKeys l l := ⟨rfl, rfl, rfl⟩

theorem processMessage_sameKeys (hk : SameKeys l l') (input : Token α) :
    processMessage env amb l' r hs h input = processMessage env amb l r hs h input := by
  simp only [processMessage, processReply, validateRemoteCredentials, hk.caCert, hk.key, hk.kemAlgorithm]

/-- Two plugins hold the same handshake under `h`, made for the remote identity `rh`. -/
def Agrees (h rh : Handle) (s t : Authentication α κ π) : Prop :=
  ∃ p q hs l l' r, s.findHandshake h = some (p, hs) ∧ t.findHandshake h = some (q, hs) ∧ hs.remoteHandle = rh ∧
    s.identities hs = some (l, r) ∧ t.identities hs = some (l', r) ∧ SameKeys l l'

/-! ## Calls of others -/

omit [Octet α] [DecidableEq α] in
/-- The handshake stays where it is when neither its handle nor its object is touched. -/
theorem unnoticed (hk : SameKeys l l') (hp : s.handshakes h = some p) (hhandle : s'.handshakes h = s.handshakes h)
    (hobject : s'.handshakeHeap[p]? = some hs) (hlocal : s'.localHeap[hs.localPtr]? = some l')
    (hremote : s'.remoteHeap[hs.remotePtr]? = some r) :
    s'.findHandshake h = some (p, hs) ∧ s'.identities hs = some (l', r) ∧ SameKeys l l' := by
  rw [findHandshake_eq_some, identities_eq_some]
  exact ⟨⟨hhandle.trans hp, hobject⟩, ⟨hlocal, hremote⟩, hk⟩

theorem getElem?_append {β : Type} {heap : List β} {n : Nat} {x y : β} (hn : heap[n]? = some x) :
    (heap ++ [y])[n]? = some x := by
  rw [List.getElem?_append_left (List.getElem?_eq_some_iff.1 hn).1, hn]

/-- A call of another client. -/
theorem Effect.unnoticed (e : Effect env amb s op s' ev) (ho : Owned s)
    (hissued : s'.nextHandle ≠ s.nextHandle → s.nextHandle ≠ h) (hreturn : op ≠ .returnHandshakeHandle h)
    (hrenew : revalidated op ≠ some hs.remoteHandle) (hforeign : concerns h (op, amb) = false)
    (hfind : s.findHandshake h = some (p, hs)) (hid : s.identities hs = some (l, r)) :
    ∃ l', s'.findHandshake h = some (p, hs) ∧ s'.identities hs = some (l', r) ∧ SameKeys l l' := by
  obtain ⟨hp, hget⟩ := findHandshake_eq_some.1 hfind
  obtain ⟨hl, hr⟩ := identities_eq_some.1 hid
  have hmade : h ≠ s.nextHandle → ∀ hs' : Handshake α κ π,
      (s.addHandshake hs').findHandshake h = some (p, hs) ∧ (s.addHandshake hs').identities hs = some (l, r) ∧
        SameKeys l l := fun hn hs' =>
    OpenDDS.unnoticed (.refl l) hp (Function.update_of_ne hn _ _) (getElem?_append hget) hl hr
  cases e with
  | localIdentity _ _ _ _ _ _ => exact ⟨l, OpenDDS.unnoticed (.refl l) hp rfl hget (getElem?_append hl) hr⟩
  | @permissions _ _ q l₀ perms hl₀ _ =>
    have hq := (findLocal_eq_some.1 hl₀).2
    by_cases hn : hs.localPtr = q
    · -- The handshake's own local identity gets new permissions; the keys stay.
      rw [hn, hq] at hl
      obtain rfl := Option.some.inj hl
      have hlt := (List.getElem?_eq_some_iff.1 hq).1
      let l₁ := { l₀ with credentials := { l₀.credentials with accessPermissions := perms } }
      refine ⟨l₁, OpenDDS.unnoticed ⟨rfl, rfl, rfl⟩ hp rfl hget ?_ hr⟩
      rw [hn, List.getElem?_set_self hlt]
    · exact ⟨l, OpenDDS.unnoticed (.refl l) hp rfl hget ((List.getElem?_set_ne (Ne.symm hn)).trans hl) hr⟩
  | @remoteKnown rh' _ _ _ _ _ q _ _ _ hr₀ _ _ =>
    have hne : q ≠ hs.remotePtr := by
      rintro rfl
      have hheld := (findRemote_eq_some.1 hr₀).1
      exact hrenew (congrArg some (ho.remote hs (List.mem_of_getElem? hget) rh' hheld))
    exact ⟨l, OpenDDS.unnoticed (.refl l) hp rfl hget hl ((List.getElem?_set_ne hne).trans hr)⟩
  | remoteNew _ _ _ _ _ _ => exact ⟨l, OpenDDS.unnoticed (.refl l) hp rfl hget hl (getElem?_append hr)⟩
  | request _ => exact ⟨l, hmade (hissued (next_ne _)).symm _⟩
  | reply _ => exact ⟨l, hmade (hissued (next_ne _)).symm _⟩
  | @process _ _ h' q _ _ _ hf₀ _ =>
    have hne : q ≠ p := by
      rintro rfl
      have heq := ho.handshakes (findHandshake_eq_some.1 hf₀).1 hp
      simp [concerns, heq] at hforeign
    exact ⟨l, OpenDDS.unnoticed (.refl l) hp rfl ((List.getElem?_set_ne hne).trans hget) hl hr⟩
  | @forgetHandshake h' =>
    have hne : h ≠ h' := by
      rintro rfl
      exact hreturn rfl
    exact ⟨l, OpenDDS.unnoticed (.refl l) hp (Function.update_of_ne hne _ _) hget hl hr⟩
  | _ => exact ⟨l, hfind, hid, .refl l⟩

/-! ## Calls of the owner -/

variable (env amb) in
/-- Both plugins process a message in the same way. -/
theorem Agrees.process (ha : Agrees h rh s t) (output input : Token α) :
    (processHandshake env amb s output input h).1 = (processHandshake env amb t output input h).1 ∧
      Agrees h rh (processHandshake env amb s output input h).2 (processHandshake env amb t output input h).2 := by
  obtain ⟨p, q, hs, l, l', r, hf, hf', hrh, hi, hi', hk⟩ := ha
  simp only [processHandshake, hf, hf', hi, hi', processMessage_sameKeys hk]
  refine ⟨trivial, p, q, _, l, l', r, findHandshake_setHandshake hf, findHandshake_setHandshake hf', ?_, ?_, ?_, hk⟩
  · rw [processMessage_frame.remoteHandle, hrh]
  · rw [identities_eq_some, processMessage_frame.localPtr, processMessage_frame.remotePtr]
    exact identities_eq_some.1 hi
  · rw [identities_eq_some, processMessage_frame.localPtr, processMessage_frame.remotePtr]
    exact identities_eq_some.1 hi'

omit [DecidableEq α] in
theorem Agrees.getSharedSecret (ha : Agrees h rh s t) : getSharedSecret s h = getSharedSecret t h := by
  obtain ⟨p, q, hs, l, l', r, hf, hf', -⟩ := ha
  simp only [OpenDDS.getSharedSecret, hf, hf']

omit [DecidableEq α] in
theorem Agrees.getAuthenticatedPeerCredentialToken (ha : Agrees h rh s t) (token : Token α) :
    getAuthenticatedPeerCredentialToken s token h = getAuthenticatedPeerCredentialToken t token h := by
  obtain ⟨p, q, hs, l, l', r, hf, hf', -⟩ := ha
  simp only [OpenDDS.getAuthenticatedPeerCredentialToken, hf, hf']

/-! ## The whole run -/

/-- What a handshake's callers see depends on the calls with its own handle only. -/
theorem unwinding (env : Env α κ π ρ) (h rh : Handle) :
    Unwinding (service env) (concerns h) (fun s => WellFormed s ∧ Owned s) (Leaves env h rh) (Agrees h rh) where
  invariant := by
    rintro s ⟨op, amb⟩ ⟨hw, ho⟩
    exact ⟨(exec_effect op).wellFormed hw, (exec_effect op).owned hw ho⟩
  foreign := by
    rintro s t ⟨op, amb⟩ ⟨-, ho⟩ ⟨hissued, hreturn, hrenew⟩ hforeign ⟨p, q, hs, l, l', r, hf, hf', rfl, hi, hi', hk⟩
    have hnext : (exec env s (op, amb)).1.nextHandle ≠ s.nextHandle → s.nextHandle ≠ h := by
      intro hne
      rcases issued_cases env s (op, amb) with ⟨-, hsame⟩ | ⟨hsome, -⟩
      · exact absurd hsame hne
      · rintro rfl
        exact hissued hsome
    obtain ⟨l₁, hf₁, hi₁, hk₁⟩ := (exec_effect op).unnoticed ho hnext hreturn hrenew hforeign hf hi
    refine ⟨p, q, hs, l₁, l', r, hf₁, hf', rfl, hi₁, hi', ?_⟩
    exact ⟨hk.caCert.trans hk₁.caCert.symm, hk.key.trans hk₁.key.symm, hk.kemAlgorithm.trans hk₁.kemAlgorithm.symm⟩
  own_call := by
    rintro s t ⟨op, amb⟩ - - hown ha
    cases op with
    | processHandshake output input h' =>
      obtain rfl : h' = h := by simpa [concerns] using hown
      obtain ⟨hans, hnext⟩ := ha.process env amb output input
      exact ⟨congrArg Answer.outcome hans, hnext⟩
    | getSharedSecret h' =>
      obtain rfl : h' = h := by simpa [concerns] using hown
      exact ⟨congrArg Answer.secret ha.getSharedSecret, ha⟩
    | getAuthenticatedPeerCredentialToken token h' =>
      obtain rfl : h' = h := by simpa [concerns] using hown
      exact ⟨congrArg Answer.token (ha.getAuthenticatedPeerCredentialToken token), ha⟩
    | _ => simp [concerns] at hown

/-- The answers to the calls made with a handshake's handle are the ones the plugin would give if no other call were
made, whatever the others do to their own handshakes, to the two identities and to the permissions. -/
theorem handshake_isolated (env : Env α κ π ρ) (hrun : Run (plugin env).solo tr s)
    (hfind : s.findHandshake h = some (p, hs)) (calls : List (Op α × Ambient α ρ))
    (hleaves : (service env).Quiet (Leaves env h hs.remoteHandle) s calls) :
    (service env).answers (concerns h) s calls = (service env).answers (concerns h) s (calls.filter (concerns h)) := by
  obtain ⟨hw, ho⟩ := owned hrun
  obtain ⟨l, r, hi⟩ := hw.exists_identities (findHandshake_eq_some.1 hfind).2
  have hagrees : Agrees h hs.remoteHandle s s := ⟨p, p, hs, l, l, r, hfind, hfind, rfl, hi, hi, .refl l⟩
  exact ((unwinding env h hs.remoteHandle).purge calls ⟨hw, ho⟩ hagrees hleaves).1

/-! Participant 1 waits for the Reply of participant 2 under handle 3. Meanwhile it makes a second handshake with the
same participant, spoils it, and gives both identities back. -/

def waiting : Authentication Sym KemKey Nat := after (acquainted 1 2) requestCall

def busyCalls : List SampleCall :=
  [requestCall, (.processHandshake {} {} 4, sampleAmbient 25), (.returnIdentityHandle 1, sampleAmbient 26),
    (.returnIdentityHandle 2, sampleAmbient 27), replyProcessed, (.getSharedSecret 3, sampleAmbient 28)]

theorem waiting_handshake : ∃ p hs, waiting.findHandshake 3 = some (p, hs) ∧ hs.remoteHandle = 2 := by
  have h : (waiting.findHandshake 3).any (·.2.remoteHandle = 2) = true := by decide +kernel
  obtain ⟨⟨p, hs⟩, hf, hremote⟩ := (Option.any_eq_true _ _).1 h
  exact ⟨p, hs, hf, by simpa using hremote⟩

theorem handshake_isolated_sample :
    (service sampleEnv).answers (concerns 3) waiting busyCalls =
      (service sampleEnv).answers (concerns 3) waiting [replyProcessed, (.getSharedSecret 3, sampleAmbient 28)] := by
  have hr := run_after (acquainted_run 1 2) requestCall (by decide)
  obtain ⟨p, hs, hf, hremote⟩ := waiting_handshake
  have hquiet : (service sampleEnv).Quiet (Leaves sampleEnv 3 2) waiting busyCalls := by
    refine ⟨?_, ?_, ?_, ?_, ?_, ?_, trivial⟩ <;> decide +kernel
  exact handshake_isolated sampleEnv hr hf busyCalls (by rw [hremote]; exact hquiet)

/-- The handshake completes without its identities. -/
example : (((service sampleEnv).after waiting busyCalls).findHandshake 3).map (·.2.state) = some .okFinalMessage := by
  decide +kernel

end PqsecDds.OpenDDS
