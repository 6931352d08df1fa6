import PqsecDds.OpenDDS.Exchange

/-!
# Two honest participants always finish

In every run of the `exchange` both callers know each other as far as they can and the handshake is at some stage
(`OnTrack`); so every call of theirs succeeds and they end with one secret (`honest_completeness`). The calls the adapter
makes are assumed to work (`Works`, `KemWorks`), and the participants to have what they need (`Prepared`).
-/

namespace PqsecDds.OpenDDS

open Lib Authentication

variable {α κ π ρ : Type} [Octet α] [DecidableEq α]
variable {env : Env α κ π ρ} {amb : Ambient α ρ} {k : Str α}
variable {P : Bool → Participant α π} {i a : Bool} {c' : Caller α κ π}

/-! ## Runs of the exchange -/

/-- Side `a` is the initiator. -/
structure Leads (P : Bool → Participant α π) (a : Bool) : Prop where
  initiator : role (P a).guid (P !a).guid = .pendingHandshakeRequest
  replier : role (P !a).guid (P a).guid = .pendingHandshakeMessage

omit [DecidableEq α] [Octet α] in
theorem exists_leads (hne : (P false).guid ≠ (P true).guid) : ∃ a, Leads P a := by
  have hbytes : (P false).guid.bytes ≠ (P true).guid.bytes := by
    intro heq
    cases hf : (P false).guid
    cases ht : (P true).guid
    rw [hf, ht] at heq hne
    dsimp only at heq
    subst heq
    exact hne rfl
  have hleads : ∀ a, (P a).guid.bytes < (P !a).guid.bytes → Leads P a := by
    intro a hlt
    refine ⟨?_, ?_⟩
    · simp only [role, initiator, hlt, decide_true, if_true]
    · simp only [role, initiator, List.lt_asymm hlt, decide_false, Bool.false_eq_true, if_false]
  by_cases hlt : (P false).guid.bytes < (P true).guid.bytes
  · exact ⟨false, hleads false hlt⟩
  by_cases hgt : (P true).guid.bytes < (P false).guid.bytes
  · exact ⟨true, hleads true hgt⟩
  · exact absurd (List.le_antisymm (List.not_lt.1 hgt) (List.not_lt.1 hlt)) hbytes

/-- Both sides know each other as far as they can, and the handshake is at some stage. -/
structure OnTrack (env : Env α κ π ρ) (P : Bool → Participant α π) (k : Str α) (a : Bool) (x : Exchange α κ π) : Prop where
  acquainted : ∀ i, Acquainted env P k i (x i) (x !i)
  stage : Stage env P k a (x a) (x !a)

variable {x : Exchange α κ π}

theorem OnTrack.update (h : OnTrack env P k a x) (hacq : Acquainted env P k i c' (x !i))
    (hsub : (x i).authRequests ⊆ c'.authRequests)
    (hstage : Stage env P k a (Function.update x i c' a) (Function.update x i c' !a)) :
    OnTrack env P k a (Function.update x i c') := by
  refine ⟨fun j => ?_, hstage⟩
  by_cases hj : j = i
  · subst hj
    rw [Function.update_self, Function.update_of_ne (Bool.not_ne_self j)]
    exact hacq
  · obtain rfl : i = !j := by
      cases i <;> cases j <;> simp_all
    rw [Function.update_of_ne hj, Function.update_self]
    have hold := h.acquainted j
    exact hold.mono hsub

/-- A move that is no handshake call. -/
theorem OnTrack.background (h : OnTrack env P k a x) (hacq : Acquainted env P k i c' (x !i))
    (hb : Background (P i).localHandle (x i) c') : OnTrack env P k a (Function.update x i c') := by
  have hback : ∀ j, Background (P j).localHandle (x j) (Function.update x i c' j) := by
    intro j
    by_cases hj : j = i
    · subst hj
      rw [Function.update_self]
      exact hb
    · rw [Function.update_of_ne hj]
      exact Background.refl _ _
  exact h.update hacq hb.returned (h.stage.later (hback a) (hback !a))

/-- The side that was told to begin is the initiator. -/
theorem OnTrack.initiator (h : OnTrack env P k a x) (hl : Leads P a) (hv : .pendingHandshakeRequest ∈ (x i).verdicts) :
    i = a := by
  by_cases hi : i = a
  · exact hi
  obtain rfl : i = !a := by
    cases i <;> cases a <;> simp_all
  obtain ⟨p, r, -, -, hmeets⟩ := (h.acquainted !a).discovered (List.ne_nil_of_mem hv)
  have hrole := hmeets.verdicts _ hv
  rw [Bool.not_not, hl.replier] at hrole
  cases hrole

theorem OnTrack.replier (h : OnTrack env P k a x) (hl : Leads P a) (hv : .pendingHandshakeMessage ∈ (x i).verdicts) :
    i = !a := by
  by_cases hi : i = a
  · subst hi
    obtain ⟨p, r, -, -, hmeets⟩ := (h.acquainted i).discovered (List.ne_nil_of_mem hv)
    have hrole := hmeets.verdicts _ hv
    rw [hl.initiator] at hrole
    cases hrole
  · cases i <;> cases a <;> simp_all

theorem OnTrack.peer (h : OnTrack env P k a x) (i : Bool) : Acquainted env P k (!i) (x !i) (x i) := by
  have hold := h.acquainted !i
  rw [Bool.not_not] at hold
  exact hold

/-- A handshake call of the initiator. -/
theorem OnTrack.lead (h : OnTrack env P k a x) (hacq : Acquainted env P k a c' (x !a))
    (hkept : c'.authRequests = (x a).authRequests) (hstage : Stage env P k a c' (x !a)) :
    OnTrack env P k a (Function.update x a c') := by
  refine h.update hacq (by rw [hkept]; exact List.Subset.refl _) ?_
  rw [Function.update_self, Function.update_of_ne (Bool.not_ne_self a)]
  exact hstage

/-- A handshake call of the other side. -/
theorem OnTrack.follow (h : OnTrack env P k a x) (hacq : Acquainted env P k (!a) c' (x a))
    (hkept : c'.authRequests = (x !a).authRequests) (hstage : Stage env P k a (x a) c') :
    OnTrack env P k a (Function.update x (!a) c') := by
  refine h.update (i := !a) ?_ (by rw [hkept]; exact List.Subset.refl _) ?_
  · rw [Bool.not_not]
    exact hacq
  · rw [Function.update_self, Function.update_of_ne (Bool.not_ne_self a).symm]
    exact hstage

theorem OnTrack.request (hw : Works env) (hk : KemWorks env k) (hP : Prepared env P) (h : OnTrack env P k a x)
    {m : Token α} (hv : .pendingHandshakeRequest ∈ (x a).verdicts) (hnone : (x a).outcomes = [])
    (hm : m.binaryProperties = [])
    (hdef : InInt32 ((x a).move env P (x !a) (.request a m amb)).plugin.nextHandle) :
    OnTrack env P k a (Function.update x a ((x a).move env P (x !a) (.request a m amb))) := by
  obtain ⟨hacq, hkept, hout, key, permissions, hs, ho⟩ :=
    Opened.of_request hw hk hP (h.acquainted a) (List.ne_nil_of_mem hv) hnone hm hdef
  refine h.lead hacq hkept ?_
  rcases h.stage with ⟨-, hd⟩ | ⟨hc, -, -⟩ | ⟨hc, -, -, -⟩ | ⟨hc, -, -, -⟩ | ⟨hc, -, -, -, -, -, -⟩
  · exact .requested hout hd ho
  all_goals
    rw [hc] at hnone
    cases hnone

theorem OnTrack.reply (hw : Works env) (hk : KemWorks env k) (hP : Prepared env P) (h : OnTrack env P k a x)
    (hv : .pendingHandshakeMessage ∈ (x !a).verdicts) (hnone : (x !a).outcomes = []) (hone : (x a).outcomes.length = 1)
    (hvalid : env.validateCertificate amb.now (P !!a).certificate (P !a).ca = true)
    (hdef : InInt32 ((x !a).move env P (x a) (.reply (!a) amb)).plugin.nextHandle) :
    OnTrack env P k a (Function.update x (!a) ((x !a).move env P (x a) (.reply (!a) amb))) := by
  rcases h.stage with ⟨hc, -⟩ | ⟨hc, -, ho⟩ | ⟨-, hd, -, -⟩ | ⟨-, hd, -, -⟩ | ⟨-, hd, -, -, -, -, -⟩
  · rw [hc] at hone
    cases hone
  · rename_i key permissions hs
    have hacqc : Acquainted env P k (!!a) (x a) (x !a) := by
      rw [Bool.not_not]
      exact h.acquainted a
    have ho' : Opened env P k (!!a) (x a) key permissions hs := by
      rw [Bool.not_not]
      exact ho
    obtain ⟨hacq, hkept, hout, seed, permissions', signature, hs', ha⟩ :=
      Answered.of_reply hw hk hP (h.peer a) hacqc (List.ne_nil_of_mem hv) hnone hvalid ho' hdef
    exact h.follow hacq hkept (.replied hc hout ho ha)
  all_goals
    rw [hd] at hnone
    cases hnone

theorem OnTrack.finish (hw : Works env) (hk : KemWorks env k) (hP : Prepared env P) (h : OnTrack env P k a x)
    (out : Token α) (hv : .pendingHandshakeRequest ∈ (x a).verdicts) (hone : (x a).outcomes.length = 1)
    (hone' : (x !a).outcomes.length = 1) (hvalid : env.validateCertificate amb.now (P !a).certificate (P a).ca = true)
    (hdef : InInt32 ((x a).move env P (x !a) (.finish a out amb)).plugin.nextHandle) :
    OnTrack env P k a (Function.update x a ((x a).move env P (x !a) (.finish a out amb))) := by
  rcases h.stage with ⟨hc, -⟩ | ⟨-, hd, -⟩ | ⟨hc, hd, ho, ha⟩ | ⟨hc, -, -, -⟩ | ⟨hc, -, -, -, -, -, -⟩
  · rw [hc] at hone
    cases hone
  · rw [hd] at hone'
    cases hone'
  · obtain ⟨hacq, hkept, hout, signature', hs₁, hf⟩ :=
      Finished.of_finish hw hk hP (h.acquainted a) (h.peer a) (List.ne_nil_of_mem hv) hc hvalid ho ha out hdef
    exact h.lead hacq hkept (.finished hout hd hf ha)
  all_goals
    rw [hc] at hone
    cases hone

theorem OnTrack.accept (h : OnTrack env P k a x) (out : Token α) (hv : .pendingHandshakeMessage ∈ (x !a).verdicts)
    (hone : (x !a).outcomes.length = 1) (htwo : (x a).outcomes.length = 2)
    (hdef : InInt32 ((x !a).move env P (x a) (.accept (!a) out amb)).plugin.nextHandle) :
    OnTrack env P k a (Function.update x (!a) ((x !a).move env P (x a) (.accept (!a) out amb))) := by
  rcases h.stage with ⟨hc, -⟩ | ⟨hc, -, -⟩ | ⟨hc, -, -, -⟩ | ⟨hc, hd, hf, ha⟩ | ⟨-, hd, -, -, -, -, -⟩
  · rw [hc] at htwo
    cases htwo
  · rw [hc] at htwo
    cases htwo
  · rw [hc] at htwo
    cases htwo
  · rename_i hs hs₀ seed permissions' signature signature' hs'
    have hf' : Finished env P (!!a) (x a) signature' hs hs' := by
      rw [Bool.not_not]
      exact hf
    obtain ⟨hacq, hkept, hout, hfound⟩ := accept_final (h.peer a) (List.ne_nil_of_mem hv) hd ha hf' out hdef
    have hsame := hf.same
    exact h.follow hacq hkept (.accepted hc hout hf.found hf.state hfound rfl
      ⟨hsame.hash1, hsame.hash2, hsame.challenge1, hsame.challenge2, hsame.publicKey, hsame.ciphertext, hsame.secret⟩)
  · rw [hd] at hone
    cases hone

theorem OnTrack.step (hw : Works env) (hk : KemWorks env k) (hP : Prepared env P) (hl : Leads P a)
    (h : OnTrack env P k a x) {m : Move α ρ} (hi : m.mover = i) (hperm : Permitted env P (x i) (x !i) m)
    (hdef : InInt32 ((x i).move env P (x !i) m).plugin.nextHandle) :
    OnTrack env P k a (Function.update x i ((x i).move env P (x !i) m)) := by
  cases m with
  | discover j lt rt it amb =>
    obtain rfl : j = i := hi
    obtain ⟨hclass, hrt⟩ := hperm
    obtain ⟨hacq, hb⟩ := (h.acquainted j).discover hw lt (h.peer j) hclass hrt hdef
    exact h.background hacq hb
  | other j op amb =>
    obtain rfl : j = i := hi
    obtain ⟨hacq, hb⟩ := (h.acquainted j).other hperm hdef
    exact h.background hacq hb
  | request j m amb =>
    obtain rfl : j = i := hi
    obtain ⟨hv, hnone, hm⟩ := hperm
    obtain rfl := h.initiator hl hv
    exact h.request hw hk hP hv hnone hm hdef
  | reply j amb =>
    obtain rfl : j = i := hi
    obtain ⟨hv, hnone, hone, hvalid⟩ := hperm
    obtain rfl := h.replier hl hv
    rw [Bool.not_not] at hone hdef ⊢
    exact h.reply hw hk hP hv hnone hone hvalid hdef
  | finish j out amb =>
    obtain rfl : j = i := hi
    obtain ⟨hv, hone, hone', hvalid⟩ := hperm
    obtain rfl := h.initiator hl hv
    exact h.finish hw hk hP out hv hone hone' hvalid hdef
  | accept j out amb =>
    obtain rfl : j = i := hi
    obtain ⟨hv, hone, htwo⟩ := hperm
    obtain rfl := h.replier hl hv
    rw [Bool.not_not] at htwo hdef ⊢
    exact h.accept out hv hone htwo hdef

theorem onTrack (hw : Works env) (hk : KemWorks env k) (hP : Prepared env P) (hl : Leads P a)
    {tr : Trace (Exchange α κ π) (Move α ρ)} (hr : Run (exchange env P k) tr x) : OnTrack env P k a x := by
  refine hr.state_inv (I := OnTrack env P k a) ?_ ?_
  · intro x hfresh
    refine ⟨fun i => (hfresh i).acquainted, .idle ?_ ?_⟩
    · rw [(hfresh a).memory]
    · rw [(hfresh !a).memory]
  · rintro x m x' h ⟨hperm, hdef, rfl⟩
    exact h.step hw hk hP hl rfl hperm hdef

/-- **Honest completeness.** In every run of the exchange one side is always told to begin the handshake and the other
one to wait for it, every handshake call succeeds, and when the Final is accepted both sides hand out the same
challenges and the same secret. -/
theorem honest_completeness (env : Env α κ π ρ) (P : Bool → Participant α π) (k : Str α) (hw : Works env)
    (hk : KemWorks env k) (hP : Prepared env P) {tr : Trace (Exchange α κ π) (Move α ρ)} {x : Exchange α κ π}
    (hr : Run (exchange env P k) tr x) :
    ∃ a, (∀ v ∈ (x a).verdicts, v = .pendingHandshakeRequest) ∧ (∀ v ∈ (x !a).verdicts, v = .pendingHandshakeMessage) ∧
      (x a).outcomes <:+ [.okFinalMessage, .pendingHandshakeMessage] ∧
      (x !a).outcomes <:+ [.ok, .pendingHandshakeMessage] ∧
      ((x !a).outcomes.length = 2 → ∃ secret, getSharedSecret (x a).plugin (x a).handshakeHandle = .ok secret ∧
        getSharedSecret (x !a).plugin (x !a).handshakeHandle = .ok secret) := by
  obtain ⟨a, hl⟩ := exists_leads hP.distinct
  have h := onTrack hw hk hP hl hr
  have hverdicts : ∀ i, ∀ v ∈ (x i).verdicts, v = role (P i).guid (P !i).guid := by
    intro i v hv
    obtain ⟨p, r, -, -, hmeets⟩ := (h.acquainted i).discovered (List.ne_nil_of_mem hv)
    exact hmeets.verdicts v hv
  refine ⟨a, fun v hv => ?_, fun v hv => ?_, ?_⟩
  · rw [hverdicts a v hv, hl.initiator]
  · rw [hverdicts (!a) v hv, Bool.not_not, hl.replier]
  have hsuffix : ∀ v : ValidationResult, [] <:+ [v, .pendingHandshakeMessage] ∧
      [.pendingHandshakeMessage] <:+ [v, .pendingHandshakeMessage] :=
    fun v => ⟨List.nil_suffix, List.suffix_cons _ _⟩
  rcases h.stage with ⟨hc, hd⟩ | ⟨hc, hd, -⟩ | ⟨hc, hd, -, -⟩ | ⟨hc, hd, -, -⟩ | ⟨hc, hd, hcs, hok, hds, hok', hsame⟩
  · rw [hc, hd]
    exact ⟨(hsuffix _).1, (hsuffix _).1, nofun⟩
  · rw [hc, hd]
    exact ⟨(hsuffix _).2, (hsuffix _).1, nofun⟩
  · rw [hc, hd]
    exact ⟨(hsuffix _).2, (hsuffix _).2, nofun⟩
  · rw [hc, hd]
    exact ⟨List.suffix_rfl, (hsuffix _).2, nofun⟩
  · rename_i hs hs'
    rw [hc, hd]
    refine ⟨List.suffix_rfl, List.suffix_rfl, fun _ => ⟨⟨hs.challenge1, hs.challenge2, hs.secret⟩, ?_, ?_⟩⟩
    · obtain ⟨p, hf⟩ := hcs
      have hcompleted : hs.completed = true := by
        simp [Handshake.completed, hok]
      simp only [getSharedSecret, hf, hcompleted, if_true]
    · obtain ⟨p, hf⟩ := hds
      have hcompleted : hs'.completed = true := by
        simp [Handshake.completed, hok']
      simp only [getSharedSecret, hf, hcompleted, if_true, hsame.challenge1, hsame.challenge2, hsame.secret]

/-! Participants 1 and 2 of the small platform: 1 is given a nil token, 2 the AuthRequest of 1. -/

section Sample

def party (i : Bool) : UInt8 := if i then 2 else 1

def sampleParticipant (i : Bool) : Participant Sym Nat where
  localHandle := 1
  guid := sampleGuid (party i)
  certificate := sampleCertificate (party i)
  ca := sampleCertificate 0
  participantData := [.base (party i)]

def sampleKem : Str Sym := str "X25519MLKEM768"

theorem sampleEnv_works : Works sampleEnv where
  nonce seed := ⟨nonce seed, rfl, by simp [nonce]⟩
  serialize properties := ⟨_, rfl⟩
  sha256 data := ⟨_, rfl⟩
  signature key data seed := ⟨_, rfl, (symbolic_verify samplePlatform).2 rfl⟩

theorem sampleEnv_kemWorks (k : Str Sym) : KemWorks sampleEnv k where
  correct := symbolic_kem_correct samplePlatform k
  generates seed := ⟨_, rfl⟩
  exports := by
    intro seed key hgen
    obtain rfl := Option.some.inj hgen
    refine ⟨fun h => ?_, _, exportPublic_symbolic samplePlatform k seed, by simp [term]⟩
    simp [sampleEnv, symbolic, KemKey.publicHalf, term] at h
  imports _ := ⟨_, rfl⟩
  encapsulates _ _ := ⟨⟨1, 1, rfl, by decide, by decide⟩, fun seed => ⟨_, _, rfl⟩⟩
  decapsulates := by
    intro key pk pub seed ct ss _ _ henc
    obtain ⟨rfl, -⟩ := Prod.mk.inj (Option.some.inj henc)
    exact ⟨by simp [term], by simp [sampleEnv, symbolic]⟩

theorem sample_prepared : Prepared sampleEnv sampleParticipant where
  distinct := by decide +kernel
  adjusted i _ _ := by cases i <;> decide +kernel
  certificate i := by cases i <;> decide +kernel
  participantData i := by cases i <;> decide +kernel

def opening : Exchange Sym KemKey Nat := fun i => { plugin := after (.new sampleEnv) (localCall (party i)) }

/-- The local identity that a plugin has under the handle 1 is that of the participant. -/
def ownsIdentity (i : Bool) (s : Authentication Sym KemKey Nat) : Bool :=
  (s.findLocal 1).any fun (_, l) =>
    l.guid = (sampleParticipant i).guid && l.credentials.participantCert = (sampleParticipant i).certificate &&
    l.credentials.participantPrivateKey = (sampleParticipant i).certificate.publicKey &&
    l.credentials.caCert = (sampleParticipant i).ca && l.kemAlgorithm = sampleKem

theorem owns_of_ownsIdentity {i : Bool} {s : Authentication Sym KemKey Nat} (h : ownsIdentity i s) :
    ∃ q l, s.findLocal (sampleParticipant i).localHandle = some (q, l) ∧ (sampleParticipant i).Owns sampleKem l := by
  obtain ⟨⟨q, l⟩, hl, howns⟩ := (Option.any_eq_true _ _).1 h
  simp only [Bool.and_eq_true, decide_eq_true_eq] at howns
  obtain ⟨⟨⟨⟨h₁, h₂⟩, h₃⟩, h₄⟩, h₅⟩ := howns
  exact ⟨q, l, hl, h₁, h₂, h₃, h₄, h₅⟩

theorem opening_fresh (i : Bool) : Fresh sampleEnv (sampleParticipant i) sampleKem (opening i) := by
  have hfacts : ∀ i, ownsIdentity i (opening i).plugin := by decide +kernel
  have hplugin : (opening i).plugin = after (.new sampleEnv) (localCall (party i)) := by rw [opening]
  refine ⟨?_, owns_of_ownsIdentity (hfacts i), by rw [opening]⟩
  rw [hplugin]
  exact ⟨_, run_after (.init rfl) (localCall (party i)) (by decide)⟩

abbrev SampleMove := Move Sym Nat

def play (x : Exchange Sym KemKey Nat) (m : SampleMove) : Exchange Sym KemKey Nat :=
  Function.update x m.mover ((x m.mover).move sampleEnv sampleParticipant (x !m.mover) m)

def identityToken : Token Sym := Token.writer {} "pqsec-dds.auth:1.0"

def introduction : SampleMove := .discover false {} {} identityToken (sampleAmbient 12)

def discovered : Exchange Sym KemKey Nat :=
  play (play opening introduction) (.discover true {} (advertisement (nonce 12)) identityToken (sampleAmbient 11))

def requestOut : Exchange Sym KemKey Nat := play discovered (.request false {} (sampleAmbient 21))

def replyOut : Exchange Sym KemKey Nat := play requestOut (.reply true (sampleAmbient 22))

def finalOut : Exchange Sym KemKey Nat := play replyOut (.finish false {} (sampleAmbient 23))

def exchangeDone : Exchange Sym KemKey Nat := play finalOut (.accept true {} (sampleAmbient 24))

theorem play_run {tr : Trace (Exchange Sym KemKey Nat) SampleMove} {x y : Exchange Sym KemKey Nat}
    (hr : Run (exchange sampleEnv sampleParticipant sampleKem) tr x) {m : SampleMove} {b : Bool} (hb : m.mover = b)
    (hperm : Permitted sampleEnv sampleParticipant (x b) (x !b) m) (hdef : InInt32 (y b).plugin.nextHandle)
    (hy : y = play x m) : ∃ tr, Run (exchange sampleEnv sampleParticipant sampleKem) tr y := by
  subst hb hy
  rw [play, Function.update_self] at hdef
  exact ⟨_, .step hr ⟨hperm, hdef, rfl⟩⟩

theorem exchange_facts :
    identityToken.classIs "pqsec-dds.auth:1.0" = true ∧
    advertisement (nonce 12) ∈ (play opening introduction false).authRequests ∧
    .pendingHandshakeRequest ∈ (discovered false).verdicts ∧ (discovered false).outcomes = [] ∧
    .pendingHandshakeMessage ∈ (requestOut true).verdicts ∧ (requestOut true).outcomes = [] ∧
    (requestOut false).outcomes.length = 1 ∧
    .pendingHandshakeRequest ∈ (replyOut false).verdicts ∧ (replyOut false).outcomes.length = 1 ∧
    (replyOut true).outcomes.length = 1 ∧
    .pendingHandshakeMessage ∈ (finalOut true).verdicts ∧ (finalOut true).outcomes.length = 1 ∧
    (finalOut false).outcomes.length = 2 ∧ (exchangeDone true).outcomes = [.ok, .pendingHandshakeMessage] := by
  decide +kernel

theorem exchange_counters :
    InInt32 (play opening introduction false).plugin.nextHandle ∧ InInt32 (discovered true).plugin.nextHandle ∧
    InInt32 (requestOut false).plugin.nextHandle ∧ InInt32 (replyOut true).plugin.nextHandle ∧
    InInt32 (finalOut false).plugin.nextHandle ∧ InInt32 (exchangeDone true).plugin.nextHandle := by
  decide +kernel

theorem exchangeDone_run : ∃ tr, Run (exchange sampleEnv sampleParticipant sampleKem) tr exchangeDone := by
  obtain ⟨hclass, hmem, hv₁, hn₁, hv₂, hn₂, hone₂, hv₃, hone₃, hone₃', hv₄, hone₄, htwo₄, -⟩ := exchange_facts
  obtain ⟨hdef₁, hdef₂, hdef₃, hdef₄, hdef₅, hdef₆⟩ := exchange_counters
  obtain ⟨_, h₁⟩ := play_run (.init opening_fresh) (m := introduction) (b := false) rfl ⟨hclass, .inl ⟨rfl, rfl⟩⟩ hdef₁ rfl
  obtain ⟨_, h₂⟩ := play_run h₁ (m := .discover true {} (advertisement (nonce 12)) identityToken (sampleAmbient 11))
    (b := true) rfl ⟨hclass, .inr hmem⟩ hdef₂ rfl
  obtain ⟨_, h₃⟩ := play_run h₂ (m := .request false {} (sampleAmbient 21)) (b := false) rfl ⟨hv₁, hn₁, rfl⟩ hdef₃ rfl
  obtain ⟨_, h₄⟩ := play_run h₃ (m := .reply true (sampleAmbient 22)) (b := true) rfl ⟨hv₂, hn₂, hone₂, rfl⟩ hdef₄ rfl
  obtain ⟨_, h₅⟩ := play_run h₄ (m := .finish false {} (sampleAmbient 23)) (b := false) rfl ⟨hv₃, hone₃, hone₃', rfl⟩ hdef₅ rfl
  exact play_run h₅ (m := .accept true {} (sampleAmbient 24)) (b := true) rfl ⟨hv₄, hone₄, htwo₄⟩ hdef₆ rfl

theorem honest_completeness_sample : ∃ a secret,
    getSharedSecret (exchangeDone a).plugin (exchangeDone a).handshakeHandle = .ok secret ∧
    getSharedSecret (exchangeDone !a).plugin (exchangeDone !a).handshakeHandle = .ok secret := by
  obtain ⟨tr, hr⟩ := exchangeDone_run
  obtain ⟨-, -, -, -, -, -, -, -, -, -, -, -, -, hdone⟩ := exchange_facts
  obtain ⟨a, -, -, hc, -, hsecret⟩ :=
    honest_completeness sampleEnv sampleParticipant sampleKem sampleEnv_works (sampleEnv_kemWorks _) sample_prepared hr
  cases a with
  | false =>
    have htwo : (exchangeDone !false).outcomes.length = 2 := by
      rw [Bool.not_false, hdone]
      rfl
    obtain ⟨secret, h₁, h₂⟩ := hsecret htwo
    exact ⟨false, secret, h₁, h₂⟩
  | true =>
    rw [hdone] at hc
    exact absurd hc (by decide)

end Sample

end PqsecDds.OpenDDS
