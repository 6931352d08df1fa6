import PqsecDds.Lib.Parties
import PqsecDds.OpenDDS.Steps
import PqsecDds.OpenDDS.Symbolic
import Mathlib.Algebra.Group.Nat.Defs

/-!
# The life of a handshake object

A handshake object is made by `begin_handshake_request` or `begin_handshake_reply` and waits for one
message. `History` says which calls of a run can have brought it to the fields it has now; it is an
invariant of every run (`history`). From it follow the state machine of the adapter: one message is
processed at most, and a secret or peer credentials are handed out exactly for completed handshakes.
-/

namespace PqsecDds.OpenDDS

open Lib Authentication

variable {α κ π ρ : Type} [Octet α] [DecidableEq α]

/-- A participant's plugin: calls change its state and set events free. -/
def plugin (env : Env α κ π ρ) : Machine (Authentication α κ π) (Op α × Ambient α ρ) (Event α π) where
  start s := s = Authentication.new env
  defined := Defined env
  exec := exec env

instance (env : Env α κ π ρ) (s : Authentication α κ π) (call : Op α × Ambient α ρ) :
    Decidable ((plugin env).defined s call) :=
  inferInstanceAs (Decidable (Defined env s call))

/-- A run of one plugin: the calls with the states they were made in, the latest first. -/
abbrev Calls (α κ π ρ : Type) := Trace (Authentication α κ π) (Op α × Ambient α ρ)

variable {env : Env α κ π ρ} {amb : Ambient α ρ} {s s' : Authentication α κ π} {op : Op α}
variable {ev : List (Event α π)} {tr : Calls α κ π ρ}

/-! ## Pointers -/

/-- No pointer dangles. -/
structure WellFormed (s : Authentication α κ π) : Prop where
  locals : ∀ h p, s.locals h = some p → p < s.localHeap.length
  remotes : ∀ h p, s.remotes h = some p → p < s.remoteHeap.length
  handshakes : ∀ h p, s.handshakes h = some p → p < s.handshakeHeap.length
  identities : ∀ hs ∈ s.handshakeHeap, hs.localPtr < s.localHeap.length ∧ hs.remotePtr < s.remoteHeap.length

omit [Octet α] [DecidableEq α] in
theorem WellFormed.exists_identities (h : WellFormed s) {p : Nat} {hs : Handshake α κ π}
    (hp : s.handshakeHeap[p]? = some hs) : ∃ l r, s.identities hs = some (l, r) := by
  obtain ⟨hl, hr⟩ := h.identities hs (List.mem_of_getElem? hp)
  exact ⟨_, _, identities_eq_some.2 ⟨List.getElem?_eq_getElem hl, List.getElem?_eq_getElem hr⟩⟩

omit [Octet α] [DecidableEq α] in
theorem lt_of_update {β : Type} {m : Handle → Option Nat} {heap : List β} {x : β} {n h : Handle} {p : Nat}
    (hm : ∀ h p, m h = some p → p < heap.length)
    (hp : Function.update m n (some heap.length) h = some p) : p < (heap ++ [x]).length := by
  rw [List.length_append, List.length_singleton]
  by_cases hn : h = n
  · subst hn
    rw [Function.update_self] at hp
    have := Option.some.inj hp
    omega
  · rw [Function.update_of_ne hn] at hp
    have := hm h p hp
    omega

theorem eq_some_of_update_none {m : Handle → Option Nat} {n h : Handle} {p : Nat}
    (hp : Function.update m n none h = some p) : m h = some p := by
  by_cases hn : h = n
  · subst hn
    rw [Function.update_self] at hp
    cases hp
  · rwa [Function.update_of_ne hn] at hp

omit [Octet α] [DecidableEq α] in
/-- A new handshake points to identities that the maps hold. -/
theorem WellFormed.addHandshake (hw : WellFormed s) {hs : Handshake α κ π} {l : LocalIdentity α π}
    {r : RemoteIdentity α} {h h' : Handle} (hl : s.findLocal h = some (hs.localPtr, l))
    (hr : s.findRemote h' = some (hs.remotePtr, r)) : WellFormed (s.addHandshake hs) where
  locals := hw.locals
  remotes := hw.remotes
  handshakes _ _ hp := lt_of_update hw.handshakes hp
  identities hs' hmem := by
    rcases List.mem_append.1 hmem with hmem | hmem
    · exact hw.identities hs' hmem
    · obtain rfl := List.mem_singleton.1 hmem
      exact ⟨hw.locals _ _ (findLocal_eq_some.1 hl).1, hw.remotes _ _ (findRemote_eq_some.1 hr).1⟩

theorem processMessage_frame {l : LocalIdentity α π} {r : RemoteIdentity α} {hs : Handshake α κ π}
    {h : Handle} {inp : Token α} : Frame hs (processMessage env amb l r hs h inp).2 := by
  rcases hpm : processMessage env amb l r hs h inp with ⟨o, hs'⟩
  rcases processMessage_cases hpm with ⟨-, -, rfl⟩ | ⟨-, ⟨-, -, hfr, -⟩ | ⟨_, _, hacc, -⟩ | ⟨hacc, -⟩⟩
  · exact .refl hs'
  · exact hfr
  · exact hacc.frame
  · rw [hacc.updated]
    constructor <;> rfl

theorem Effect.wellFormed (e : Effect env amb s op s' ev) (hw : WellFormed s) : WellFormed s' := by
  cases e with
  | nothing => exact hw
  | identityToken _ => exact hw
  | provider _ => exact ⟨hw.locals, hw.remotes, hw.handshakes, hw.identities⟩
  | localIdentity f g k _ _ _ =>
    refine ⟨fun _ _ hp => lt_of_update hw.locals hp, hw.remotes, hw.handshakes, fun hs hmem => ?_⟩
    obtain ⟨hl, hr⟩ := hw.identities hs hmem
    refine ⟨?_, hr⟩
    simp only [addLocal, List.length_append, List.length_singleton]
    omega
  | permissions hl _ =>
    refine ⟨fun h p hp => ?_, hw.remotes, hw.handshakes, fun hs hmem => ?_⟩
    · simpa using hw.locals h p hp
    · simpa using hw.identities hs hmem
  | remoteKnown hr _ _ =>
    refine ⟨hw.locals, fun h p hp => ?_, hw.handshakes, fun hs hmem => ?_⟩
    · simpa [setRemote] using hw.remotes h p hp
    · simpa [setRemote] using hw.identities hs hmem
  | remoteNew _ _ _ _ _ _ =>
    refine ⟨hw.locals, fun _ _ hp => lt_of_update hw.remotes hp, hw.handshakes, fun hs hmem => ?_⟩
    obtain ⟨hl, hr⟩ := hw.identities hs hmem
    refine ⟨hl, ?_⟩
    simp only [addRemote, List.length_append, List.length_singleton]
    omega
  | request h =>
    obtain ⟨l, r, hl, hr, -⟩ := makeRequest_ok h
    exact hw.addHandshake hl hr
  | reply h =>
    obtain ⟨l, r, -, hl, hr, -⟩ := makeReply_ok h
    exact hw.addHandshake hl hr
  | process hf hi =>
    refine ⟨hw.locals, hw.remotes, fun h p hp => ?_, fun hs hmem => ?_⟩
    · simpa [setHandshake] using hw.handshakes h p hp
    · rcases List.mem_or_eq_of_mem_set hmem with hmem | rfl
      · exact hw.identities hs hmem
      · have hold := hw.identities _ (List.mem_of_getElem? (findHandshake_eq_some.1 hf).2)
        rw [processMessage_frame.localPtr, processMessage_frame.remotePtr]
        exact hold
  | forgetHandshake =>
    exact ⟨hw.locals, hw.remotes, fun h p hp => hw.handshakes h p (eq_some_of_update_none hp), hw.identities⟩
  | forgetLocal =>
    exact ⟨fun h p hp => hw.locals h p (eq_some_of_update_none hp), hw.remotes, hw.handshakes, hw.identities⟩
  | forgetRemote =>
    exact ⟨hw.locals, fun h p hp => hw.remotes h p (eq_some_of_update_none hp), hw.handshakes, hw.identities⟩

theorem wellFormed (hr : Run (plugin env).solo tr s) : WellFormed s := by
  refine hr.state_inv (I := WellFormed) ?_ ?_
  · rintro s rfl
    exact ⟨nofun, nofun, nofun, nofun⟩
  · rintro s ⟨op, amb⟩ s' hw ⟨-, rfl⟩
    exact (exec_effect op).wellFormed hw

/-! ## The counter -/

theorem Effect.nextHandle_cases (e : Effect env amb s op s' ev) :
    s'.nextHandle = s.nextHandle ∨ s'.nextHandle = s.nextHandle + 1 := by
  cases e with
  | localIdentity _ _ _ _ _ _ => exact .inr rfl
  | remoteNew _ _ _ _ _ _ => exact .inr rfl
  | request _ => exact .inr rfl
  | reply _ => exact .inr rfl
  | _ => exact .inl rfl

theorem nextHandle_le (hr : Run (plugin env).solo tr s) : 1 ≤ s.nextHandle ∧ s.nextHandle ≤ tr.length + 1 := by
  refine hr.inv (I := fun tr s => 1 ≤ s.nextHandle ∧ s.nextHandle ≤ (tr.length : Int) + 1) ?_ ?_
  · rintro s rfl
    exact ⟨le_refl _, le_refl _⟩
  · rintro tr s ⟨op, amb⟩ s' - ⟨hpos, hle⟩ ⟨-, rfl⟩
    have heffect : Effect env amb s op _ _ := exec_effect op
    have hnext := heffect.nextHandle_cases
    simp only [plugin, List.length_cons]
    omega

/-- A run that is not as long as the counter has values can go on with any call. -/
theorem defined_of_short (hr : Run (plugin env).solo tr s) (hlen : tr.length < 2 ^ 31 - 2)
    (call : Op α × Ambient α ρ) : Defined env s call := by
  obtain ⟨op, amb⟩ := call
  obtain ⟨hpos, hle⟩ := nextHandle_le hr
  have heffect : Effect env amb s op _ _ := exec_effect op
  have hnext := heffect.nextHandle_cases
  unfold Defined InInt32
  omega

/-! ## The handshake heap -/

/-- Where a handshake object of the successor state comes from. -/
theorem Effect.handshake_origin (e : Effect env amb s op s' ev) {p : Nat} {hs' : Handshake α κ π}
    (h : s'.handshakeHeap[p]? = some hs') :
    s.handshakeHeap[p]? = some hs' ∨
    (∃ m ih rh pd t, op = .beginHandshakeRequest 0 m ih rh pd ∧ p = s.handshakeHeap.length ∧
      makeRequest env amb s m ih rh pd = .ok (hs', t)) ∨
    (∃ m ih rh pd t key data, op = .beginHandshakeReply 0 m ih rh pd ∧ p = s.handshakeHeap.length ∧
      makeReply env amb s m ih rh pd = .ok (hs', t, key, data)) ∨
    (∃ out inp hd hs l r, op = .processHandshake out inp hd ∧ s.findHandshake hd = some (p, hs) ∧
      s.identities hs = some (l, r) ∧ hs' = (processMessage env amb l r hs hd inp).2) := by
  have happ : ∀ hs, (s.handshakeHeap ++ [hs])[p]? = some hs' →
      s.handshakeHeap[p]? = some hs' ∨ (p = s.handshakeHeap.length ∧ hs = hs') := by
    intro hs hget
    rcases Nat.lt_or_ge p s.handshakeHeap.length with hp | hp
    · rw [List.getElem?_append_left hp] at hget
      exact .inl hget
    · rw [List.getElem?_append_right hp, List.getElem?_singleton] at hget
      split at hget
      · exact .inr ⟨by omega, Option.some.inj hget⟩
      · cases hget
  cases e with
  | request hm =>
    rcases happ _ h with h | ⟨hp, rfl⟩
    · exact .inl h
    · exact .inr (.inl ⟨_, _, _, _, _, rfl, hp, hm⟩)
  | reply hm =>
    rcases happ _ h with h | ⟨hp, rfl⟩
    · exact .inl h
    · exact .inr (.inr (.inl ⟨_, _, _, _, _, _, _, rfl, hp, hm⟩))
  | @process out inp hd q hs l r hf hi =>
    simp only [setHandshake, List.getElem?_set] at h
    split at h
    · rename_i hq
      subst hq
      split at h
      · exact .inr (.inr (.inr ⟨out, inp, hd, hs, l, r, rfl, hf, hi, (Option.some.inj h).symm⟩))
      · cases h
    · exact .inl h
  | _ => exact .inl h

/-- One step in the life of a handshake object: only its one message changes it, and of a replier only
the state. -/
def Evolves (hs hs' : Handshake α κ π) : Prop :=
  hs' = hs ∨ hs.state = .pendingHandshakeMessage ∧ hs'.state ≠ .pendingHandshakeMessage ∧ Frame hs hs' ∧
    (hs.initiator = false → hs' = { hs with state := hs'.state })

theorem processMessage_evolves {l : LocalIdentity α π} {r : RemoteIdentity α} {hs : Handshake α κ π}
    {h : Handle} {inp : Token α} : Evolves hs (processMessage env amb l r hs h inp).2 := by
  rcases hpm : processMessage env amb l r hs h inp with ⟨o, hs'⟩
  rcases processMessage_cases hpm with ⟨-, -, heq⟩ | ⟨hp, ⟨-, hst, hfr, hrep⟩ | ⟨_, _, hacc, -⟩ | ⟨hacc, -⟩⟩
  · exact .inl heq
  · exact .inr ⟨hp, by rw [hst]; decide, hfr, fun hi => by rw [hrep hi]; rfl⟩
  · exact .inr ⟨hp, by rw [hacc.state]; decide, hacc.frame, fun hi => by
      rw [hacc.initiator] at hi
      cases hi⟩
  · refine .inr ⟨hp, by rw [hacc.updated]; nofun, ?_, fun _ => by rw [hacc.updated]⟩
    rw [hacc.updated]
    constructor <;> rfl

/-- Objects never leave the heap, and change only by processing a message. -/
theorem Effect.handshake_later (e : Effect env amb s op s' ev) {p : Nat} {hs : Handshake α κ π}
    (h : s.handshakeHeap[p]? = some hs) : ∃ hs', s'.handshakeHeap[p]? = some hs' ∧ Evolves hs hs' := by
  have hp : p < s.handshakeHeap.length := (List.getElem?_eq_some_iff.1 h).1
  have happ : ∀ x, (s.handshakeHeap ++ [x])[p]? = some hs := fun x => by
    rw [List.getElem?_append_left hp, h]
  cases e with
  | request _ => exact ⟨hs, happ _, .inl rfl⟩
  | reply _ => exact ⟨hs, happ _, .inl rfl⟩
  | @process out inp hd q hs₀ l r hf hi =>
    by_cases hq : q = p
    · subst hq
      obtain rfl : hs₀ = hs := by
        rw [(findHandshake_eq_some.1 hf).2] at h
        exact Option.some.inj h
      exact ⟨(processMessage env amb l r hs₀ hd inp).2, by simp [setHandshake, hp], processMessage_evolves⟩
    · exact ⟨hs, by simp [setHandshake, hq, h], .inl rfl⟩
  | _ => exact ⟨hs, h, .inl rfl⟩

/-! ## History -/

/-- A call of `begin_handshake_request` in the run made `hs` at `p`. -/
def RequestedIn (env : Env α κ π ρ) (tr : Calls α κ π ρ) (p : Nat) (hs : Handshake α κ π) : Prop :=
  ∃ s amb m ih rh pd t, (s, .beginHandshakeRequest 0 m ih rh pd, amb) ∈ tr ∧ p = s.handshakeHeap.length ∧
    makeRequest env amb s m ih rh pd = .ok (hs, t)

/-- A call of `begin_handshake_reply` in the run made `hs` at `p`. -/
def RepliedIn (env : Env α κ π ρ) (tr : Calls α κ π ρ) (p : Nat) (hs : Handshake α κ π) : Prop :=
  ∃ s amb m ih rh pd t key data, (s, .beginHandshakeReply 0 m ih rh pd, amb) ∈ tr ∧
    p = s.handshakeHeap.length ∧ makeReply env amb s m ih rh pd = .ok (hs, t, key, data)

/-- A call of `process_handshake` in the run accepted a Reply for `hs` at `p` and left `hs'`. -/
def ReplyAcceptedIn (env : Env α κ π ρ) (tr : Calls α κ π ρ) (p : Nat) (hs hs' : Handshake α κ π) : Prop :=
  ∃ s amb out inp h l r data sig, (s, .processHandshake out inp h, amb) ∈ tr ∧
    s.findHandshake h = some (p, hs) ∧ s.identities hs = some (l, r) ∧
    ReplyAccepted env amb l r hs inp hs' data sig

/-- A call of `process_handshake` in the run accepted a Final for `hs` at `p` and left `hs'`. -/
def FinalAcceptedIn (env : Env α κ π ρ) (tr : Calls α κ π ρ) (p : Nat) (hs hs' : Handshake α κ π) : Prop :=
  ∃ s amb out inp h, (s, .processHandshake out inp h, amb) ∈ tr ∧ s.findHandshake h = some (p, hs) ∧
    FinalAccepted env hs inp hs'

/-- What the calls of a run can have made of the handshake object at `p`. -/
inductive History (env : Env α κ π ρ) (tr : Calls α κ π ρ) (p : Nat) : Handshake α κ π → Prop
  | requested {hs} (h : RequestedIn env tr p hs) : History env tr p hs
  | replied {hs} (h : RepliedIn env tr p hs) : History env tr p hs
  | replyRejected {hs hs'} (h : RequestedIn env tr p hs) (hst : hs'.state = .failed) (hfr : Frame hs hs') :
      History env tr p hs'
  | finalRejected {hs} (h : RepliedIn env tr p hs) : History env tr p hs.setFailed
  | replyAccepted {hs hs'} (h : RequestedIn env tr p hs) (ha : ReplyAcceptedIn env tr p hs hs') :
      History env tr p hs'
  | finalAccepted {hs hs'} (h : RepliedIn env tr p hs) (ha : FinalAcceptedIn env tr p hs hs') :
      History env tr p hs'

theorem History.mono {tr tr' : Calls α κ π ρ} (hsub : tr ⊆ tr') {p : Nat} {hs : Handshake α κ π}
    (h : History env tr p hs) : History env tr' p hs := by
  have hreq : ∀ {hs}, RequestedIn env tr p hs → RequestedIn env tr' p hs := by
    rintro hs ⟨s, amb, m, ih, rh, pd, t, hmem, h⟩
    exact ⟨s, amb, m, ih, rh, pd, t, hsub hmem, h⟩
  have hrep : ∀ {hs}, RepliedIn env tr p hs → RepliedIn env tr' p hs := by
    rintro hs ⟨s, amb, m, ih, rh, pd, t, key, data, hmem, h⟩
    exact ⟨s, amb, m, ih, rh, pd, t, key, data, hsub hmem, h⟩
  cases h with
  | requested h => exact .requested (hreq h)
  | replied h => exact .replied (hrep h)
  | replyRejected h hst hfr => exact .replyRejected (hreq h) hst hfr
  | finalRejected h => exact .finalRejected (hrep h)
  | replyAccepted h ha =>
    obtain ⟨s, amb, out, inp, hd, l, r, data, sig, hmem, ha⟩ := ha
    exact .replyAccepted (hreq h) ⟨s, amb, out, inp, hd, l, r, data, sig, hsub hmem, ha⟩
  | finalAccepted h ha =>
    obtain ⟨s, amb, out, inp, hd, hmem, ha⟩ := ha
    exact .finalAccepted (hrep h) ⟨s, amb, out, inp, hd, hsub hmem, ha⟩

omit [DecidableEq α] in
theorem RequestedIn.facts {p : Nat} {hs : Handshake α κ π} (h : RequestedIn env tr p hs) :
    hs.initiator = true ∧ hs.state = .pendingHandshakeMessage := by
  obtain ⟨s, amb, m, ih, rh, pd, t, -, -, h⟩ := h
  obtain ⟨l, r, -, -, hq, -⟩ := makeRequest_ok h
  exact ⟨hq.initiator, hq.state⟩

theorem RepliedIn.facts {p : Nat} {hs : Handshake α κ π} (h : RepliedIn env tr p hs) :
    hs.initiator = false ∧ hs.state = .pendingHandshakeMessage := by
  obtain ⟨s, amb, m, ih, rh, pd, t, key, data, -, -, h⟩ := h
  obtain ⟨l, r, sig, -, -, hq, -⟩ := makeReply_ok h
  exact ⟨hq.initiator, hq.state⟩

/-- A handshake that is awaiting a message is as it was made. -/
theorem History.of_pending {p : Nat} {hs : Handshake α κ π} (h : History env tr p hs)
    (hst : hs.state = .pendingHandshakeMessage) : RequestedIn env tr p hs ∨ RepliedIn env tr p hs := by
  cases h with
  | requested h => exact .inl h
  | replied h => exact .inr h
  | replyRejected _ hf _ =>
    rw [hf] at hst
    cases hst
  | finalRejected h => cases hst
  | replyAccepted _ ha =>
    obtain ⟨s, amb, out, inp, hd, l, r, data, sig, -, -, -, ha⟩ := ha
    rw [ha.state] at hst
    cases hst
  | finalAccepted _ ha =>
    obtain ⟨s, amb, out, inp, hd, -, -, ha⟩ := ha
    rw [ha.updated] at hst
    cases hst

/-- Processing a message extends the history of a handshake. -/
theorem History.process {out inp : Token α} {h : Handle} {p : Nat} {hs : Handshake α κ π}
    {l : LocalIdentity α π} {r : RemoteIdentity α} (hh : History env tr p hs)
    (hf : s.findHandshake h = some (p, hs)) (hi : s.identities hs = some (l, r)) :
    History env ((s, .processHandshake out inp h, amb) :: tr) p (processMessage env amb l r hs h inp).2 := by
  have hsub : tr ⊆ (s, .processHandshake out inp h, amb) :: tr := fun _ hx => List.mem_cons_of_mem _ hx
  have hh' := hh.mono hsub
  rcases hpm : processMessage env amb l r hs h inp with ⟨o, hs'⟩
  rcases processMessage_cases hpm with
    ⟨-, -, heq⟩ | ⟨hp, ⟨-, hst, hfr, hrej⟩ | ⟨data, sig, hacc, -⟩ | ⟨hacc, -⟩⟩
  · rw [heq]
    exact hh'
  · rcases hh'.of_pending hp with hq | hq
    · exact .replyRejected hq hst hfr
    · rw [hrej hq.facts.1]
      exact .finalRejected hq
  · rcases hh'.of_pending hp with hq | hq
    · exact .replyAccepted hq ⟨s, amb, out, inp, h, l, r, data, sig, List.mem_cons_self, hf, hi, hacc⟩
    · exact absurd hacc.initiator (by simp [hq.facts.1])
  · rcases hh'.of_pending hp with hq | hq
    · exact absurd hacc.initiator (by simp [hq.facts.1])
    · exact .finalAccepted hq ⟨s, amb, out, inp, h, List.mem_cons_self, hf, hacc⟩

theorem history (hr : Run (plugin env).solo tr s) :
    ∀ p hs, s.handshakeHeap[p]? = some hs → History env tr p hs := by
  refine hr.inv (I := fun tr s => ∀ p hs, s.handshakeHeap[p]? = some hs → History env tr p hs) ?_ ?_
  · rintro s rfl p hs h
    simp [Authentication.new] at h
  · rintro tr s ⟨op, amb⟩ s' - ih ⟨-, rfl⟩ p hs' hget
    have hsub : tr ⊆ (s, op, amb) :: tr := fun _ hx => List.mem_cons_of_mem _ hx
    rcases (exec_effect op).handshake_origin hget with h | ⟨m, ih', rh, pd, t, rfl, hp, h⟩ |
      ⟨m, ih', rh, pd, t, key, data, rfl, hp, h⟩ | ⟨out, inp, hd, hs, l, r, rfl, hf, hi, rfl⟩
    · exact (ih p hs' h).mono hsub
    · exact .requested ⟨s, amb, m, ih', rh, pd, t, List.mem_cons_self, hp, h⟩
    · exact .replied ⟨s, amb, m, ih', rh, pd, t, key, data, List.mem_cons_self, hp, h⟩
    · exact (ih p hs (findHandshake_eq_some.1 hf).2).process hf hi

/-! ## Completed handshakes -/

/-- The certificate of `hs` passed `validate_remote_credentials`, and its secret comes from its own
encapsulation, both in the `begin_handshake_reply` call that made the handshake. -/
def ReplierOrigin (env : Env α κ π ρ) (tr : Calls α κ π ρ) (p : Nat) (hs : Handshake α κ π) : Prop :=
  ∃ s amb m ih rh pd l r v, (s, .beginHandshakeReply 0 m ih rh pd, amb) ∈ tr ∧ p = s.handshakeHeap.length ∧
    s.findLocal rh = some (hs.localPtr, l) ∧ s.findRemote ih = some (hs.remotePtr, r) ∧
    validateRemoteCredentials env amb l r m = .ok v ∧ hs.remoteCertificate = some v.certificate ∧
    (env.kem l.kemAlgorithm).Encapsulated hs.publicKey amb.encapSeed hs.ciphertext hs.secret

/-- The secret of `hs` comes from decapsulation with the key that the `begin_handshake_request` call
generated that made the handshake. -/
def InitiatorSecret (env : Env α κ π ρ) (tr : Calls α κ π ρ) (p : Nat) (hs : Handshake α κ π) : Prop :=
  ∃ s amb m ih rh pd l, (s, .beginHandshakeRequest 0 m ih rh pd, amb) ∈ tr ∧ p = s.handshakeHeap.length ∧
    s.findLocal ih = some (hs.localPtr, l) ∧
    (env.kem l.kemAlgorithm).Decapsulated amb.keySeed hs.publicKey hs.ciphertext hs.secret

/-- The certificate of `hs` passed `validate_remote_credentials` when `process_handshake` took a message
for this handshake. -/
def InitiatorCertificate (env : Env α κ π ρ) (tr : Calls α κ π ρ) (p : Nat) (hs : Handshake α κ π) : Prop :=
  ∃ s amb out inp h hs₀ l r v, (s, .processHandshake out inp h, amb) ∈ tr ∧
    s.findHandshake h = some (p, hs₀) ∧ s.identities hs₀ = some (l, r) ∧
    validateRemoteCredentials env amb l r inp = .ok v ∧ hs.remoteCertificate = some v.certificate

theorem RepliedIn.origin {p : Nat} {hs hs' : Handshake α κ π} (h : RepliedIn env tr p hs)
    (hst : hs' = { hs with state := hs'.state }) : ReplierOrigin env tr p hs' := by
  obtain ⟨s, amb, m, ih, rh, pd, t, key, data, hmem, hp, h⟩ := h
  obtain ⟨l, r, sig, hl, hr, hq, -⟩ := makeReply_ok h
  obtain ⟨v, hv, hcert, -, -⟩ := hq.validated
  rw [hst]
  exact ⟨s, amb, m, ih, rh, pd, l, r, v, hmem, hp, hl, hr, hv, hcert, hq.encapsulated⟩

theorem ReplyAcceptedIn.secret {p : Nat} {hs hs' : Handshake α κ π} (hq : RequestedIn env tr p hs)
    (ha : ReplyAcceptedIn env tr p hs hs') : InitiatorSecret env tr p hs' := by
  obtain ⟨s, amb, m, ih, rh, pd, t, hmem, hp, hq⟩ := hq
  obtain ⟨s₁, amb₁, out, inp, h, l₁, r₁, data, sig, -, -, -, ha⟩ := ha
  obtain ⟨l, r, hl, -, hq, -⟩ := makeRequest_ok hq
  obtain ⟨key, hgen, hkem, hexp⟩ := hq.key
  obtain ⟨key', hkey', hdec⟩ := ha.decapsulated
  rw [hkem] at hkey'
  obtain rfl := Option.some.inj hkey'
  refine ⟨s, amb, m, ih, rh, pd, l, hmem, hp, ?_, key, hgen, ?_, hdec⟩
  · rw [ha.frame.localPtr]
    exact hl
  · rw [ha.frame.publicKey]
    exact hexp

theorem ReplyAcceptedIn.certificate {p : Nat} {hs hs' : Handshake α κ π} (ha : ReplyAcceptedIn env tr p hs hs') :
    InitiatorCertificate env tr p hs' := by
  obtain ⟨s, amb, out, inp, h, l, r, data, sig, hmem, hf, hi, ha⟩ := ha
  obtain ⟨v, hv, hcert, -⟩ := ha.validated
  exact ⟨s, amb, out, inp, h, hs, l, r, v, hmem, hf, hi, hv, hcert⟩

theorem History.of_ok {p : Nat} {hs : Handshake α κ π} (h : History env tr p hs) (hst : hs.state = .ok) :
    hs.initiator = false ∧ ReplierOrigin env tr p hs := by
  cases h with
  | requested h => rw [h.facts.2] at hst; cases hst
  | replied h => rw [h.facts.2] at hst; cases hst
  | replyRejected _ hf _ => rw [hf] at hst; cases hst
  | finalRejected h => cases hst
  | replyAccepted _ ha =>
    obtain ⟨s, amb, out, inp, hd, l, r, data, sig, -, -, -, ha⟩ := ha
    rw [ha.state] at hst
    cases hst
  | finalAccepted h ha =>
    obtain ⟨s, amb, out, inp, hd, -, -, ha⟩ := ha
    have hfr := ha.updated
    refine ⟨?_, h.origin ?_⟩
    · rw [hfr]
      exact h.facts.1
    · rw [hfr]

theorem History.of_okFinalMessage {p : Nat} {hs : Handshake α κ π} (h : History env tr p hs)
    (hst : hs.state = .okFinalMessage) :
    hs.initiator = true ∧ InitiatorCertificate env tr p hs ∧ InitiatorSecret env tr p hs := by
  cases h with
  | requested h => rw [h.facts.2] at hst; cases hst
  | replied h => rw [h.facts.2] at hst; cases hst
  | replyRejected _ hf _ => rw [hf] at hst; cases hst
  | finalRejected h => cases hst
  | replyAccepted h ha =>
    refine ⟨?_, ha.certificate, ha.secret h⟩
    obtain ⟨s, amb, out, inp, hd, l, r, data, sig, -, -, -, ha⟩ := ha
    rw [ha.frame.initiator]
    exact ha.initiator
  | finalAccepted _ ha =>
    obtain ⟨s, amb, out, inp, hd, -, -, ha⟩ := ha
    rw [ha.updated] at hst
    cases hst

/-- A handshake that has processed a message is not awaiting one any more. -/
theorem processed_not_pending (hr : Run (plugin env).solo tr s) {s₀ : Authentication α κ π} {out inp : Token α}
    {h : Handle} {p : Nat} {hs₀ : Handshake α κ π} (hmem : (s₀, .processHandshake out inp h, amb) ∈ tr)
    (hf : s₀.findHandshake h = some (p, hs₀)) :
    ∃ hs, s.handshakeHeap[p]? = some hs ∧ hs.state ≠ .pendingHandshakeMessage := by
  obtain ⟨tr₁, tr₀, s₁, -, hr₀, ⟨-, rfl⟩, hsteps⟩ := hr.of_mem hmem
  obtain ⟨-, hget⟩ := findHandshake_eq_some.1 hf
  refine hsteps.inv (I := fun s => ∃ hs, s.handshakeHeap[p]? = some hs ∧ hs.state ≠ .pendingHandshakeMessage)
    ?_ ?_
  · rintro s ⟨op, amb⟩ s' ⟨hs, hs_get, hst⟩ ⟨-, rfl⟩
    obtain ⟨hs', hget', rfl | ⟨hpend, -⟩⟩ := (exec_effect op).handshake_later hs_get
    · exact ⟨hs', hget', hst⟩
    · exact absurd hpend hst
  · obtain ⟨l, r, hi⟩ := (wellFormed hr₀).exists_identities hget
    have hp : p < s₀.handshakeHeap.length := (List.getElem?_eq_some_iff.1 hget).1
    rcases hpm : processMessage env amb l r hs₀ h inp with ⟨o, hs'⟩
    refine ⟨hs', ?_, ?_⟩
    · simp [plugin, exec, processHandshake, hf, hi, hpm, setHandshake, hp]
    · rcases processMessage_cases hpm with ⟨hst, -, rfl⟩ | ⟨-, ⟨-, hst, -⟩ | ⟨_, _, hacc, -⟩ | ⟨hacc, -⟩⟩
      · exact hst
      · rw [hst]; decide
      · rw [hacc.state]; decide
      · rw [hacc.updated]
        intro hpending
        cases hpending

/-- A handshake that is not awaiting a message rejects every message and stays as it is. -/
theorem processHandshake_not_pending {h : Handle} {p : Nat} {hs : Handshake α κ π}
    (hf : s.findHandshake h = some (p, hs)) (hst : hs.state ≠ .pendingHandshakeMessage) (out inp : Token α) :
    (processHandshake env amb s out inp h).1.result = .failed ∧ (processHandshake env amb s out inp h).2 = s := by
  obtain ⟨-, hget⟩ := findHandshake_eq_some.1 hf
  simp only [processHandshake, hf]
  split
  · exact ⟨rfl, rfl⟩
  · simp only [processMessage, hst, ne_eq, not_false_eq_true, if_true, setHandshake, fail, true_and]
    obtain ⟨hp, rfl⟩ := List.getElem?_eq_some_iff.1 hget
    rw [List.set_getElem_self]

omit [DecidableEq α] in
theorem getSharedSecret_isOk (h : Handle) :
    (∃ secret, getSharedSecret s h = .ok secret) ↔
      ∃ p hs, s.findHandshake h = some (p, hs) ∧ (hs.state = .ok ∨ hs.state = .okFinalMessage) := by
  simp only [getSharedSecret]
  constructor
  · rintro ⟨secret, hsec⟩
    split at hsec
    · cases hsec
    · rename_i p hs hf
      split at hsec
      · rename_i hc
        exact ⟨p, hs, hf, by simpa [Handshake.completed] using hc⟩
      · cases hsec
  · rintro ⟨p, hs, hf, hst⟩
    have hc : hs.completed = true := by simpa [Handshake.completed] using hst
    exact ⟨_, by simp only [hf, hc, if_true]; rfl⟩

omit [DecidableEq α] in
/-- Peer credentials need a certificate on top; `hcert` is what a completed handshake always has. -/
theorem getAuthenticatedPeerCredentialToken_isOk (token : Token α) (h : Handle)
    (hcert : ∀ p hs, s.findHandshake h = some (p, hs) → hs.state = .ok ∨ hs.state = .okFinalMessage →
      hs.remoteCertificate ≠ none) :
    (∃ t, getAuthenticatedPeerCredentialToken s token h = .ok t) ↔
      ∃ p hs, s.findHandshake h = some (p, hs) ∧ (hs.state = .ok ∨ hs.state = .okFinalMessage) := by
  simp only [getAuthenticatedPeerCredentialToken]
  constructor
  · rintro ⟨t, ht⟩
    split at ht
    · cases ht
    · rename_i p hs hf
      split at ht
      · cases ht
      · split at ht
        · rename_i hc
          exact ⟨p, hs, hf, by simpa [Handshake.completed] using hc⟩
        · cases ht
  · rintro ⟨p, hs, hf, hst⟩
    have hc : hs.completed = true := by simpa [Handshake.completed] using hst
    obtain ⟨certificate, hcert⟩ := Option.ne_none_iff_exists'.1 (hcert p hs hf hst)
    exact ⟨_, by simp only [hf, hcert, hc, if_true]; rfl⟩

theorem completed_certificate (hr : Run (plugin env).solo tr s) {h : Handle} {p : Nat} {hs : Handshake α κ π}
    (hf : s.findHandshake h = some (p, hs)) (hst : hs.state = .ok ∨ hs.state = .okFinalMessage) :
    hs.remoteCertificate ≠ none := by
  have hh := history hr p hs (findHandshake_eq_some.1 hf).2
  rcases hst with hst | hst
  · obtain ⟨-, _, _, _, _, _, _, _, _, _, -, -, -, -, -, hcert, -⟩ := hh.of_ok hst
    simp [hcert]
  · obtain ⟨-, ⟨_, _, _, _, _, _, _, _, _, -, -, -, -, hcert⟩, -⟩ := hh.of_okFinalMessage hst
    simp [hcert]

/-- **The handshake state machine.** In every state `s` a run reaches: a handshake that some
`process_handshake` call has been made on is no longer awaiting a message, and every further call on it
fails and changes nothing; secrets and peer credentials are handed out exactly for live completed
handshakes; a completed handshake is in the state of its role, with a certificate that passed
`validate_remote_credentials` and a secret of its own encapsulation or decapsulation. -/
theorem handshake_state_machine (env : Env α κ π ρ) {tr : Calls α κ π ρ} {s : Authentication α κ π}
    (hr : Run (plugin env).solo tr s) :
    (∀ s₀ out inp h amb p hs₀, (s₀, .processHandshake out inp h, amb) ∈ tr →
      s₀.findHandshake h = some (p, hs₀) →
      ∃ hs, s.handshakeHeap[p]? = some hs ∧ hs.state ≠ .pendingHandshakeMessage ∧
        ∀ h' out' inp' amb', s.handshakes h' = some p →
          (processHandshake env amb' s out' inp' h').1.result = .failed ∧
          (processHandshake env amb' s out' inp' h').2 = s) ∧
    (∀ h, (∃ secret, getSharedSecret s h = .ok secret) ↔
      ∃ p hs, s.findHandshake h = some (p, hs) ∧ (hs.state = .ok ∨ hs.state = .okFinalMessage)) ∧
    (∀ token h, (∃ t, getAuthenticatedPeerCredentialToken s token h = .ok t) ↔
      ∃ p hs, s.findHandshake h = some (p, hs) ∧ (hs.state = .ok ∨ hs.state = .okFinalMessage)) ∧
    (∀ p hs, s.handshakeHeap[p]? = some hs → hs.state = .ok →
      hs.initiator = false ∧ ReplierOrigin env tr p hs) ∧
    (∀ p hs, s.handshakeHeap[p]? = some hs → hs.state = .okFinalMessage →
      hs.initiator = true ∧ InitiatorCertificate env tr p hs ∧ InitiatorSecret env tr p hs) := by
  refine ⟨?_, getSharedSecret_isOk, ?_, ?_, ?_⟩
  · intro s₀ out inp h amb p hs₀ hmem hf
    obtain ⟨hs, hget, hst⟩ := processed_not_pending hr hmem hf
    refine ⟨hs, hget, hst, fun h' out' inp' amb' hh' => ?_⟩
    exact processHandshake_not_pending (findHandshake_eq_some.2 ⟨hh', hget⟩) hst out' inp'
  · intro token h
    exact getAuthenticatedPeerCredentialToken_isOk token h fun p hs hf hst => completed_certificate hr hf hst
  · exact fun p hs hget hst => (history hr p hs hget).of_ok hst
  · exact fun p hs hget hst => (history hr p hs hget).of_okFinalMessage hst

/-! ## A complete session

Participants 1 and 2 of the small platform meet, 1 sends a Request, 2 a Reply, 1 a Final. The states are
those of each participant's own calls. -/

def sampleEnv : Env Sym KemKey Nat Nat := symbolic samplePlatform

def sampleAmbient (draw : Nat) : Ambient Sym Nat :=
  { now := 0, nonceSeed := draw, keySeed := draw, encapSeed := draw, signSeed := draw }

abbrev SampleCall := Op Sym × Ambient Sym Nat

def localCall (n : UInt8) : SampleCall :=
  (.validateLocalIdentity 0 [⟨[], [.base n]⟩] (sampleGuid 0), sampleAmbient n.toNat)

def remoteCall (n : UInt8) : SampleCall :=
  (.validateRemoteIdentity 0 {} {} 1 (Token.writer {} "pqsec-dds.auth:1.0") (sampleGuid n),
    sampleAmbient (10 + n.toNat))

def after (s : Authentication Sym KemKey Nat) (call : SampleCall) : Authentication Sym KemKey Nat :=
  (exec sampleEnv s call).1

def sentBy (s : Authentication Sym KemKey Nat) (call : SampleCall) : Token Sym :=
  match (exec sampleEnv s call).2 with
  | .sent token :: _ => token
  | _ => {}

/-- Participant `n` has validated itself and participant `m`. -/
def acquainted (n m : UInt8) : Authentication Sym KemKey Nat :=
  after (after (.new sampleEnv) (localCall n)) (remoteCall m)

def requestCall : SampleCall := (.beginHandshakeRequest 0 {} 1 2 [.base 1], sampleAmbient 21)

def replyCall : SampleCall :=
  (.beginHandshakeReply 0 (sentBy (acquainted 1 2) requestCall) 2 1 [.base 2], sampleAmbient 22)

def replyProcessed : SampleCall :=
  (.processHandshake {} (sentBy (acquainted 2 1) replyCall) 3, sampleAmbient 23)

def finalProcessed : SampleCall :=
  (.processHandshake {} (sentBy (after (acquainted 1 2) requestCall) replyProcessed) 3, sampleAmbient 24)

def initiatorDone : Authentication Sym KemKey Nat := after (after (acquainted 1 2) requestCall) replyProcessed

def replierDone : Authentication Sym KemKey Nat := after (after (acquainted 2 1) replyCall) finalProcessed

theorem initiatorDone_handshakes : ∃ hs, initiatorDone.handshakeHeap[0]? = some hs ∧
    hs.state = .okFinalMessage ∧ hs.remoteCertificate = some (sampleCertificate 2) := by
  have h : (initiatorDone.handshakeHeap.map fun hs => (hs.state, hs.remoteCertificate))[0]? =
      some (.okFinalMessage, some (sampleCertificate 2)) := by decide +kernel
  simpa using h

theorem replierDone_handshakes : ∃ hs, replierDone.handshakeHeap[0]? = some hs ∧
    hs.state = .ok ∧ hs.remoteCertificate = some (sampleCertificate 1) := by
  have h : (replierDone.handshakeHeap.map fun hs => (hs.state, hs.remoteCertificate))[0]? =
      some (.ok, some (sampleCertificate 1)) := by decide +kernel
  simpa using h

theorem run_after {tr : Calls Sym KemKey Nat Nat} {s : Authentication Sym KemKey Nat}
    (hr : Run (plugin sampleEnv).solo tr s) (call : SampleCall) (hlen : tr.length < 2 ^ 31 - 2) :
    Run (plugin sampleEnv).solo ((s, call) :: tr) (after s call) :=
  .step hr ⟨defined_of_short hr hlen call, rfl⟩

def acquaintedCalls (n m : UInt8) : Calls Sym KemKey Nat Nat :=
  [(after (.new sampleEnv) (localCall n), remoteCall m), (.new sampleEnv, localCall n)]

theorem acquainted_run (n m : UInt8) : Run (plugin sampleEnv).solo (acquaintedCalls n m) (acquainted n m) :=
  run_after (run_after (.init rfl) (localCall n) (by simp)) (remoteCall m) (by simp)

/-- The initiator of the complete session, as the theorem describes it. -/
theorem handshake_state_machine_sample : ∃ tr hs, Run (plugin sampleEnv).solo tr initiatorDone ∧
    initiatorDone.handshakeHeap[0]? = some hs ∧ hs.state = .okFinalMessage ∧ hs.initiator = true ∧
    InitiatorCertificate sampleEnv tr 0 hs ∧ InitiatorSecret sampleEnv tr 0 hs := by
  have hr := run_after (run_after (acquainted_run 1 2) requestCall (by decide)) replyProcessed (by decide)
  obtain ⟨hs, hget, hst, -⟩ := initiatorDone_handshakes
  obtain ⟨-, -, -, -, hfinal⟩ := handshake_state_machine sampleEnv hr
  obtain ⟨hi, hcert, hsec⟩ := hfinal 0 hs hget hst
  exact ⟨_, hs, hr, hget, hst, hi, hcert, hsec⟩

end PqsecDds.OpenDDS
