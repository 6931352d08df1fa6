import PqsecDds.CycloneDDS.HonestCalls
import PqsecDds.CycloneDDS.Ideal

/-!
# Two honest participants finish

Whatever the callers of two honest participants do, in whatever order, one of them is told to begin the handshake, every
handshake call succeeds, and both plugins end with one secret (`honest_handshake_completes`). `find_required_binprop` takes
no property of more than `INT_MAX` octets, so permissions documents and participant data have to be shorter
(`honest_handshake_fails`).
-/

namespace PqsecDds.CycloneDDS

open Lib

/-! ## Runs of the exchange -/

section Runs

variable {κ ρ : Type} {env : Env κ ρ} {amb : Ambient ρ} {k : AuthAlgoKind} {P : Bool → Participant}
variable {own : Bool → Option Challenge} {i a : Bool} {c c' : Caller κ} {optional : Bool} {x : Exchange κ}

/-- Side `a` is the initiator. -/
structure Leads (P : Bool → Participant) (a : Bool) : Prop where
  initiator : role (P a).guid (P !a).guid = .pendingHandshakeRequest
  replier : role (P !a).guid (P a).guid = .pendingHandshakeMessage

theorem exists_leads (hne : (P false).guid ≠ (P true).guid) : ∃ a, Leads P a := by
  have hoctets : (P false).guid.octets ≠ (P true).guid.octets := fun heq => hne (Guid.octets_inj.1 heq)
  have hleads : ∀ a, (P a).guid.octets < (P !a).guid.octets → Leads P a := by
    intro a hlt
    refine ⟨?_, ?_⟩
    · simp only [role, memcmpLt, hlt, decide_true, if_true]
    · simp only [role, memcmpLt, List.lt_asymm hlt, decide_false, Bool.false_eq_true, if_false]
  by_cases hlt : (P false).guid.octets < (P true).guid.octets
  · exact ⟨false, hleads false hlt⟩
  by_cases hgt : (P true).guid.octets < (P false).guid.octets
  · exact ⟨true, hleads true hgt⟩
  · exact absurd (List.le_antisymm (List.not_lt.1 hgt) (List.not_lt.1 hlt)) hoctets

/-- Both sides know each other as far as they can, and the handshake is at some stage. -/
structure OnTrack (env : Env κ ρ) (P : Bool → Participant) (optional : Bool) (k : AuthAlgoKind)
    (own : Bool → Option Challenge) (a : Bool) (x : Exchange κ) : Prop where
  acquainted : ∀ i, Acquainted env P optional k own i (x i)
  stage : Stage env P optional k own a (x a) (x !a)

theorem OnTrack.update (h : OnTrack env P optional k own a x) (hacq : Acquainted env P optional k own i c')
    (hstage : Stage env P optional k own a (Function.update x i c' a) (Function.update x i c' !a)) :
    OnTrack env P optional k own a (Function.update x i c') := by
  refine ⟨fun j => ?_, hstage⟩
  by_cases hj : j = i
  · subst hj
    rw [Function.update_self]
    exact hacq
  · rw [Function.update_of_ne hj]
    exact h.acquainted j

theorem Background.refl (c : Caller κ) : Background c c := ⟨rfl, rfl, rfl, fun _ => rfl, fun _ => ⟨rfl, fun _ => rfl⟩⟩

/-- A move that is no handshake call. -/
theorem OnTrack.background (h : OnTrack env P optional k own a x) {own' : Bool → Option Challenge}
    (hext : Extends own own') (hother : own' (!i) = own (!i)) (hacq : Acquainted env P optional k own' i c')
    (hb : Background (x i) c') : OnTrack env P optional k own' a (Function.update x i c') := by
  have hback : ∀ j, Background (x j) (Function.update x i c' j) := by
    intro j
    by_cases hj : j = i
    · subst hj
      rw [Function.update_self]
      exact hb
    · rw [Function.update_of_ne hj]
      exact Background.refl _
  refine ⟨fun j => ?_, h.stage.later hext (hback a) (hback !a)⟩
  by_cases hj : j = i
  · subst hj
    rw [Function.update_self]
    exact hacq
  · obtain rfl : j = !i := by
      cases i <;> cases j <;> simp_all
    rw [Function.update_of_ne hj]
    exact (h.acquainted !i).mono hother hext

theorem OnTrack.verdict (h : OnTrack env P optional k own a x) {v : Except Stop RemoteResult} (hv : v ∈ (x i).verdicts) :
    v = .ok (role (P i).guid (P !i).guid) := by
  obtain ⟨remote, rel, relation, hmeets⟩ := (h.acquainted i).met (List.ne_nil_of_mem hv)
  exact hmeets.verdicts v hv

/-- The side that was told to begin is the initiator. -/
theorem OnTrack.initiator (h : OnTrack env P optional k own a x) (hl : Leads P a)
    (hv : .ok .pendingHandshakeRequest ∈ (x i).verdicts) : i = a := by
  by_cases hi : i = a
  · exact hi
  obtain rfl : i = !a := by
    cases i <;> cases a <;> simp_all
  have hrole := h.verdict hv
  rw [Bool.not_not, hl.replier] at hrole
  cases hrole

theorem OnTrack.replier (h : OnTrack env P optional k own a x) (hl : Leads P a)
    (hv : .ok .pendingHandshakeMessage ∈ (x i).verdicts) : i = !a := by
  by_cases hi : i = a
  · subst hi
    have hrole := h.verdict hv
    rw [hl.initiator] at hrole
    cases hrole
  · cases i <;> cases a <;> simp_all

/-! One lemma for each move. -/

theorem OnTrack.discover (hw : Works env) (h : OnTrack env P optional k own a x) {request : Option Token} {token : Token}
    (ha : Allocates amb (x i).plugin) (hperm : Permitted env P (x i) (x !i) (.discover i request token amb)) :
    ∃ own', OnTrack env P optional k own' a (Function.update x i ((x i).discover env amb P i request token)) := by
  obtain ⟨own', hext, hother, hacq, hb⟩ := (h.acquainted i).discover hw (h.acquainted !i) ha hperm
  exact ⟨own', h.background hext hother hacq hb⟩

theorem OnTrack.request (hw : Works env) (hk : KemWorks env k) (hP : Prepared env P) (hl : Leads P a)
    (h : OnTrack env P optional k own a x) (ha : Allocates amb (x i).plugin)
    (hperm : Permitted env P (x i) (x !i) (.request i amb)) :
    OnTrack env P optional k own a (Function.update x i ((x i).move env P (x !i) (.request i amb))) := by
  obtain ⟨hv, hnone⟩ := hperm
  obtain rfl := h.initiator hl hv
  obtain ⟨c', key, publicKey, challenge1, heq, hacq, hout, ho⟩ :=
    Opened.of_request hw hk hP (h.acquainted i) (List.ne_nil_of_mem hv) hnone ha
  rw [Caller.move, heq]
  refine h.update hacq ?_
  rw [Function.update_self, Function.update_of_ne (Bool.not_ne_self i)]
  rcases h.stage with ⟨-, hd⟩ | ⟨hc, -, -⟩ | ⟨hc, -, -, -⟩ | ⟨hc, -, -, -, -⟩ | ⟨hc, -, -, -⟩
  · exact .opened hout hd ho
  all_goals
    rw [hc] at hnone
    cases hnone

theorem OnTrack.reply (hw : Works env) (hk : KemWorks env k) (hP : Prepared env P) (hfit : ∀ i, (P i).Sendable)
    (hl : Leads P a) (h : OnTrack env P optional k own a x) (ha : Allocates amb (x i).plugin)
    (hperm : Permitted env P (x i) (x !i) (.reply i amb)) :
    OnTrack env P optional k own a (Function.update x i ((x i).move env P (x !i) (.reply i amb))) := by
  obtain ⟨hv, hnone, hone, htrusts⟩ := hperm
  obtain rfl := h.replier hl hv
  rw [Bool.not_not] at hone ⊢
  rcases h.stage with ⟨hc, -⟩ | ⟨hc, -, ho⟩ | ⟨-, hd, -, -⟩ | ⟨-, hd, -, -, -⟩ | ⟨-, hd, -, -⟩
  · rw [hc] at hone
    cases hone
  · obtain ⟨d', v, ss, heq, hacq, hout, rfl, rfl, hr⟩ := Replied.of_reply hw hk hP hfit (h.acquainted !a) (h.acquainted a)
      (List.ne_nil_of_mem hv) hnone ha htrusts ho
    rw [Caller.move, heq]
    refine h.update hacq ?_
    rw [Function.update_self, Function.update_of_ne (Bool.not_ne_self a).symm]
    exact .replied hc hout ho hr
  all_goals
    rw [hd] at hnone
    cases hnone

theorem OnTrack.finish (hw : Works env) (hk : KemWorks env k) (hP : Prepared env P) (hfit : ∀ i, (P i).Sendable)
    (hl : Leads P a) (h : OnTrack env P optional k own a x) (ha : Allocates amb (x i).plugin)
    (hperm : Permitted env P (x i) (x !i) (.finish i amb)) :
    OnTrack env P optional k own a (Function.update x i ((x i).move env P (x !i) (.finish i amb))) := by
  obtain ⟨hv, hone, hone', htrusts⟩ := hperm
  obtain rfl := h.initiator hl hv
  rcases h.stage with ⟨hc, -⟩ | ⟨-, hd, -⟩ | ⟨hc, hd, ho, hr⟩ | ⟨hc, -, -, -, -⟩ | ⟨hc, -, -, -⟩
  · rw [hc] at hone
    cases hone
  · rw [hd] at hone'
    cases hone'
  · obtain ⟨c', heq, hacq, hout, hf⟩ := Finished.of_finish hw hk hP hfit (h.acquainted i) (h.acquainted !i)
      (List.ne_nil_of_mem hv) hc ha htrusts ho hr
    rw [Caller.move, heq]
    refine h.update hacq ?_
    rw [Function.update_self, Function.update_of_ne (Bool.not_ne_self i)]
    exact .finished hout hd ho.exported hf hr
  all_goals
    rw [hc] at hone
    cases hone

theorem OnTrack.accept (hk : KemWorks env k) (hP : Prepared env P) (hl : Leads P a) (h : OnTrack env P optional k own a x)
    (ha : Allocates amb (x i).plugin) (hperm : Permitted env P (x i) (x !i) (.accept i amb)) :
    OnTrack env P optional k own a (Function.update x i ((x i).move env P (x !i) (.accept i amb))) := by
  obtain ⟨hv, hone, htwo, htrusts⟩ := hperm
  obtain rfl := h.replier hl hv
  rw [Bool.not_not] at htwo ⊢
  rcases h.stage with ⟨hc, -⟩ | ⟨hc, -, -⟩ | ⟨hc, -, -, -⟩ | ⟨hc, hd, hexp, hf, hr⟩ | ⟨-, hd, -, -⟩
  · rw [hc] at htwo
    cases htwo
  · rw [hc] at htwo
    cases htwo
  · rw [hc] at htwo
    cases htwo
  · obtain ⟨d', heq, hacq, hout, hds⟩ := Finished.accept hk hP (h.acquainted !a) (List.ne_nil_of_mem hv) hd ha htrusts hexp
      hf hr
    rw [Caller.move, heq]
    refine h.update hacq ?_
    rw [Function.update_self, Function.update_of_ne (Bool.not_ne_self a).symm]
    exact .accepted hc hout hf.handsOut hds
  · rw [hd] at hone
    cases hone

theorem OnTrack.step (hw : Works env) (hk : KemWorks env k) (hP : Prepared env P) (hfit : ∀ i, (P i).Sendable)
    (hl : Leads P a) (h : OnTrack env P optional k own a x) (m : Move ρ) (ha : Allocates m.ambient (x m.mover).plugin)
    (hperm : Permitted env P (x m.mover) (x !m.mover) m) :
    ∃ own', OnTrack env P optional k own' a (Function.update x m.mover ((x m.mover).move env P (x !m.mover) m)) := by
  cases m with
  | discover i request token amb => exact h.discover hw ha hperm
  | request i amb => exact ⟨own, h.request hw hk hP hl ha hperm⟩
  | reply i amb => exact ⟨own, h.reply hw hk hP hfit hl ha hperm⟩
  | finish i amb => exact ⟨own, h.finish hw hk hP hfit hl ha hperm⟩
  | accept i amb => exact ⟨own, h.accept hk hP hl ha hperm⟩

theorem Fresh.onTrack {x : Exchange κ} (h : ∀ i, Fresh env (P i) (P !i).guid optional k (x i)) :
    OnTrack env P optional k (fun _ => none) a x := by
  refine ⟨fun i => (h i).acquainted, .idle ?_ ?_⟩
  · rw [(h a).memory]
  · rw [(h !a).memory]

theorem run_onTrack (hw : Works env) (hk : KemWorks env k) (hP : Prepared env P) (hfit : ∀ i, (P i).Sendable)
    (hl : Leads P a) {tr : Trace (Exchange κ) (Move ρ)} (hr : Run (exchange env P optional k) tr x) :
    ∃ own, OnTrack env P optional k own a x := by
  refine hr.state_inv (I := fun x => ∃ own, OnTrack env P optional k own a x) ?_ ?_
  · intro x hfresh
    exact ⟨_, Fresh.onTrack hfresh⟩
  · rintro x m x' ⟨own, h⟩ ⟨ha, hperm, rfl⟩
    exact h.step hw hk hP hfit hl m ha hperm

theorem HandsOut.getSharedSecret {secret : SharedSecret} (h : HandsOut c secret) :
    (CycloneDDS.getSharedSecret c.handshakeHandle c.plugin).1 = .ok (some secret) := by
  obtain ⟨hne, hs, hfound, hsecret⟩ := h
  simp [CycloneDDS.getSharedSecret, bind, Act.bind, check, Act.lift, Act.demand, require, need, Except.mapError, hne, hfound,
    hsecret, pure]

/-- The exchange went well as far as it got, with side `a` as the initiator. -/
structure Completes (a : Bool) (x : Exchange κ) : Prop where
  begins : ∀ v ∈ (x a).verdicts, v = .ok .pendingHandshakeRequest
  waits : ∀ v ∈ (x !a).verdicts, v = .ok .pendingHandshakeMessage
  initiator : (x a).outcomes <:+ [.ok .okFinalMessage, .ok .pendingHandshakeMessage]
  replier : (x !a).outcomes <:+ [.ok .ok, .ok .pendingHandshakeMessage]
  secret : (x !a).outcomes.length = 2 → ∃ secret,
    (getSharedSecret (x a).handshakeHandle (x a).plugin).1 = .ok (some secret) ∧
      (getSharedSecret (x !a).handshakeHandle (x !a).plugin).1 = .ok (some secret)

theorem OnTrack.completes (h : OnTrack env P optional k own a x) (hl : Leads P a) : Completes a x := by
  have hsuffix : ∀ o : Except Stop Outcome, [] <:+ [o, .ok .pendingHandshakeMessage] ∧
      [.ok .pendingHandshakeMessage] <:+ [o, .ok .pendingHandshakeMessage] :=
    fun o => ⟨List.nil_suffix, List.suffix_cons _ _⟩
  have hbegins : ∀ v ∈ (x a).verdicts, v = .ok .pendingHandshakeRequest := by
    intro v hv
    rw [h.verdict hv, hl.initiator]
  have hwaits : ∀ v ∈ (x !a).verdicts, v = .ok .pendingHandshakeMessage := by
    intro v hv
    rw [h.verdict hv, Bool.not_not, hl.replier]
  rcases h.stage with ⟨hc, hd⟩ | ⟨hc, hd, -⟩ | ⟨hc, hd, -, -⟩ | ⟨hc, hd, -, -, -⟩ | ⟨hc, hd, hcs, hds⟩
  · exact ⟨hbegins, hwaits, by rw [hc]; exact (hsuffix _).1, by rw [hd]; exact (hsuffix _).1, by simp [hd]⟩
  · exact ⟨hbegins, hwaits, by rw [hc]; exact (hsuffix _).2, by rw [hd]; exact (hsuffix _).1, by simp [hd]⟩
  · exact ⟨hbegins, hwaits, by rw [hc]; exact (hsuffix _).2, by rw [hd]; exact (hsuffix _).2, by simp [hd]⟩
  · exact ⟨hbegins, hwaits, hc ▸ List.suffix_rfl, by rw [hd]; exact (hsuffix _).2, by simp [hd]⟩
  · exact ⟨hbegins, hwaits, hc ▸ List.suffix_rfl, hd ▸ List.suffix_rfl,
      fun _ => ⟨_, hcs.getSharedSecret, hds.getSharedSecret⟩⟩

/-- **Honest participants finish.** In every run of the exchange one side is always told to begin the handshake and the
other one to wait for it, every handshake call succeeds, and when the Final is accepted both sides hand out the same
challenges and the same secret. -/
theorem honest_handshake_completes (env : Env κ ρ) (P : Bool → Participant) (optional : Bool) (k : AuthAlgoKind)
    (hw : Works env) (hk : KemWorks env k) (hP : Prepared env P) (hfit : ∀ i, (P i).Sendable)
    {tr : Trace (Exchange κ) (Move ρ)} {x : Exchange κ} (hr : Run (exchange env P optional k) tr x) :
    ∃ a, Completes a x := by
  obtain ⟨a, hl⟩ := exists_leads hP.distinct
  obtain ⟨own, h⟩ := run_onTrack hw hk hP hfit hl hr
  exact ⟨a, h.completes hl⟩

end Runs

/-! Two participants, their runs, and what stops the Reply. -/

namespace Honest

/-- The ideal environment with signatures of 33 octets, and participant data that start with the participant key. -/
def env : Env UInt8 UInt8 :=
  { Ideal.env with
    participantKey := fun pdata => if h : (pdata.take 12).length = 12 then some ⟨pdata.take 12, h⟩ else none
    digestSign := fun key data _ => some (key.pair.toUInt8 :: (Ideal.hash data).1)
    digestVerify := fun key data signature => signature = key.pair.toUInt8 :: (Ideal.hash data).1 }

theorem env_works : Works env where
  serialize _ := rfl
  dataHolderEqual t := decide_eq_true rfl
  signature key data seed _ := by
    refine ⟨_, rfl, List.cons_ne_nil _ _, ?_, decide_eq_true rfl⟩
    rw [List.length_cons, (Ideal.hash data).2]
    decide

theorem env_publicKey (key : UInt8) : (env.kem .mlKem512).publicKey key = some (key :: List.replicate 799 0) := by
  have hexport : exportPublicKey env key = some (key :: List.replicate 799 0) := if_pos (List.cons_ne_nil _ _)
  exact hexport

theorem env_kemWorks : KemWorks env .mlKem512 where
  correct := Ideal.env_kem_correct .mlKem512
  generates seed := ⟨seed, rfl⟩
  exports {_ key} _ := by
    refine ⟨key :: List.replicate 799 0, env_publicKey key, ?_⟩
    rw [List.length_cons, List.length_replicate]
    rfl
  imports := by
    rintro key pk ⟨-, hpk⟩
    obtain rfl := Option.some.inj ((env_publicKey key).symm.trans hpk)
    exact ⟨key, _, rfl, rfl⟩
  encapsulates := by
    intro key pk pub _ _
    refine ⟨⟨768, 2, rfl, by decide, by decide⟩, fun seed => ⟨_, _, rfl, ?_, List.cons_ne_nil _ _⟩⟩
    rw [List.length_cons, List.length_cons, List.length_replicate]
    rfl
  decapsulates := by
    intro key pk pub seed ct ss _ _ _
    exact Nat.succ_ne_zero 1

def party (i : Bool) : UInt8 := if i then 5 else 3

def certificate (pair : UInt8) : X509 where
  encoding := [pair, 0, 9, 1]
  pubkey := some (Ideal.key pair 0)
  subject := some ⟨[pair], [pair]⟩
  notBefore := some 0
  notAfter := some 1001

variable (document : CStr) (rest : Octets)

/-- The participants 3 and 5, with this permissions document and participant data that go on with `rest`. -/
def participant (i : Bool) : Participant where
  localHandle := 1
  guid := Ideal.guid (party i)
  certificate := certificate (party i)
  ca := certificate 9
  crl := none
  permissions := some document
  participantData := Ideal.pdata (party i) ++ rest

theorem env_participantKey {pdata : Octets} {key : Bytes 12} (h : pdata.take 12 = key.1) :
    env.participantKey pdata = some key := by
  have hlen : (pdata.take 12).length = 12 := by rw [h, key.2]
  simp only [env, dif_pos hlen]
  exact congrArg some (Subtype.ext h)

theorem certificate_read (i : Bool) : (certificate (party i)).encoding ≠ [] ∧
    (certificate (party i)).encoding.length ≤ intMax ∧
    env.pemReadX509 (certificate (party i)).encoding = some (certificate (party i)) := by
  cases i <;> decide +kernel

theorem prepared : Prepared env (participant document rest) where
  distinct := by
    change Ideal.guid 3 ≠ Ideal.guid 5
    decide +kernel
  certificate i := ⟨_, rfl, certificate_read i⟩
  signs i key hkey := by
    obtain rfl := Option.some.inj hkey
    rfl
  participantData i := by
    have htake : ((participant document rest i).participantData).take 12 = (Ideal.guid (party i)).guidPrefix.1 :=
      List.take_left' (Ideal.guid (party i)).guidPrefix.2
    refine ⟨?_, env_participantKey htake⟩
    intro hnil
    have hlen := (Ideal.guid (party i)).guidPrefix.2
    rw [← htake, hnil] at hlen
    cases hlen

/-- `set_permissions_credential_and_token` with the permissions document. -/
def permissionsCredential : Token where
  classId := some (str "DDS:Access:PermissionsCredential")
  properties := [⟨some (str "dds.perm.cert"), some document⟩]

/-- The participant has become the first local identity. -/
def validated (i : Bool) : Ideal.State := (plugin env).perform Ideal.start [Ideal.localCall (party i)]

def opening : Exchange UInt8 := fun i =>
  { plugin := (exec env (validated i) (.setPermissionsCredentialAndToken 1 (permissionsCredential document),
      Ideal.ambient 3)).1 }

def ownsIdentity (i : Bool) (s : Ideal.State) : Bool :=
  (s.localIdentity 1).any fun identity =>
    identity.adjustedGuid = Ideal.guid (party i) && identity.identityCert = certificate (party i) &&
    identity.identityCa = certificate 9 && identity.crl.isNone

theorem validated_facts (i : Bool) : ownsIdentity i (validated i) ∧ Allocates (Ideal.ambient 3) (validated i) ∧
    (validated i).remoteGuidHash.lookup (Ideal.guid (party !i)) = none ∧ (validated i).includeOptional = true ∧
    (validated i).kem = .mlKem512 := by
  cases i <;> decide +kernel

theorem setPermissions_call {s : Ideal.State} {identity : LocalIdentityInfo} (hl : s.localIdentity 1 = some identity) :
    (Op.setPermissionsCredentialAndToken 1 (permissionsCredential document)).call env (Ideal.ambient 3) s =
      (.ok [], s.putObject 1 (.localIdentity { identity with permissionsDocument := some document })) := by
  have hset : setPermissionsCredentialAndToken 1 (permissionsCredential document) s = (.ok ⟨⟩,
      s.putObject 1 (.localIdentity { identity with permissionsDocument := some document })) := by
    refine Act.bind_ok.2 ⟨⟨⟩, s, check_ok.2 ⟨require_ok.2 (decide_eq_true Nat.one_ne_zero), rfl⟩, ?_⟩
    refine Act.bind_ok.2 ⟨⟨⟩, s, check_ok.2 ⟨require_ok.2 (decide_eq_true rfl), rfl⟩, ?_⟩
    refine Act.bind_ok.2 ⟨_, s, check_ok.2 ⟨need_ok.2 rfl, rfl⟩, ?_⟩
    refine Act.bind_ok.2 ⟨⟨⟩, s, check_ok.2 ⟨require_ok.2 (decide_eq_true rfl), rfl⟩, ?_⟩
    exact Act.bind_ok.2 ⟨identity, s, Act.demand_ok.2 ⟨hl, rfl⟩, rfl⟩
  simp only [Op.call, bind, Act.bind, hset, pure]

theorem validated_run (i : Bool) : ∃ tr, Run (plugin env).solo tr (validated i) :=
  ⟨_, Machine.solo_perform _ (.init ⟨true, .mlKem512, rfl⟩) (by cases i <;> decide +kernel)⟩

theorem opening_fresh (i : Bool) :
    Fresh env (participant document rest i) (participant document rest !i).guid true .mlKem512 (opening document i) := by
  obtain ⟨howns, ha, hunknown, hsettings⟩ := validated_facts i
  obtain ⟨tr, hr⟩ := validated_run i
  have hplugin : opening document i = { plugin :=
      (exec env (validated i) (.setPermissionsCredentialAndToken 1 (permissionsCredential document), Ideal.ambient 3)).1 } :=
    rfl
  generalize validated i = s at howns ha hunknown hsettings hr hplugin
  obtain ⟨identity, hl, howns⟩ := (Option.any_eq_true _ _).1 howns
  simp only [Bool.and_eq_true, decide_eq_true_eq, Option.isNone_iff_eq_none] at howns
  obtain ⟨⟨⟨hguid, hcert⟩, hca⟩, hcrl⟩ := howns
  have hcall := setPermissions_call document hl
  rw [hplugin, exec_ok ha hcall]
  refine ⟨⟨_, .step hr (step_of_ok ha hcall)⟩,
    ⟨{ identity with permissionsDocument := some document }, ?_, hguid, hcert, hca, hcrl, rfl⟩, ?_, ?_, rfl⟩
  · exact (localIdentity_putObject _ 1 1 _).trans (if_pos rfl)
  · exact hunknown
  · exact hsettings

def token (i : Bool) : Token := (identityTokenOf (certificate (party i)) (certificate 9)).getD {}

def play (x : Exchange UInt8) (m : Move UInt8) : Exchange UInt8 :=
  Function.update x m.mover ((x m.mover).move env (participant document rest) (x !m.mover) m)

theorem play_discover (x : Exchange UInt8) (i : Bool) (request : Option Token) (t : Token) (amb : Ambient UInt8) :
    play document rest x (.discover i request t amb) =
      Function.update x i ((x i).discover env amb (participant document rest) i request t) := rfl

def introduction : Move UInt8 := .discover false none (token true) (Ideal.ambient 2)

/-- The replier is given the AuthRequest of the initiator. -/
def answer : Move UInt8 := .discover true (some (authRequestToken (Ideal.ambient 2).randBytes)) (token false) (Ideal.ambient 2)

def discovered : Exchange UInt8 := play document rest (play document rest (opening document) introduction) answer

def requested : Exchange UInt8 := play document rest (discovered document rest) (.request false (Ideal.ambient 10))

def replied : Exchange UInt8 := play document rest (requested document rest) (.reply true (Ideal.ambient 10))

def finished : Exchange UInt8 := play document rest (replied document rest) (.finish false (Ideal.ambient 11))

def accepted : Exchange UInt8 := play document rest (finished document rest) (.accept true (Ideal.ambient 11))

/-- What a run up to the Request depends on. -/
structure Begun : Prop where
  first : Allocates (Ideal.ambient 2) (opening document false).plugin
  second : Allocates (Ideal.ambient 2) (opening document true).plugin
  returned : authRequestToken (Ideal.ambient 2).randBytes ∈
    (play document rest (opening document) introduction false).authRequests
  told : .ok .pendingHandshakeRequest ∈ (discovered document rest false).verdicts
  unused : (discovered document rest false).outcomes = []
  third : Allocates (Ideal.ambient 10) (discovered document rest false).plugin

instance : Decidable (Begun document rest) :=
  decidable_of_iff (Allocates (Ideal.ambient 2) (opening document false).plugin ∧
    Allocates (Ideal.ambient 2) (opening document true).plugin ∧
    authRequestToken (Ideal.ambient 2).randBytes ∈
      (play document rest (opening document) introduction false).authRequests ∧
    .ok .pendingHandshakeRequest ∈ (discovered document rest false).verdicts ∧
    (discovered document rest false).outcomes = [] ∧ Allocates (Ideal.ambient 10) (discovered document rest false).plugin)
    ⟨fun ⟨h₁, h₂, h₃, h₄, h₅, h₆⟩ => ⟨h₁, h₂, h₃, h₄, h₅, h₆⟩, fun ⟨h₁, h₂, h₃, h₄, h₅, h₆⟩ => ⟨h₁, h₂, h₃, h₄, h₅, h₆⟩⟩

variable {document rest}

theorem participant_leads : Leads (participant document rest) false := by
  have hrole : role (Ideal.guid 3) (Ideal.guid 5) = .pendingHandshakeRequest ∧
      role (Ideal.guid 5) (Ideal.guid 3) = .pendingHandshakeMessage := by
    decide +kernel
  exact ⟨hrole.1, hrole.2⟩

/-- The other side's identity token can be had. -/
theorem token_permitted {own : Bool → Option Challenge} {x : Exchange UInt8} {i : Bool}
    (h : OnTrack env (participant document rest) true .mlKem512 own false x) :
    (getIdentityToken (Ideal.ambient 2) 1 (x i).plugin).1 = .ok (token i) := by
  obtain ⟨identity, hl, howns⟩ := (h.acquainted i).identity
  refine getIdentityToken_works hl ?_
  rw [howns.certificate, howns.ca]
  rfl

theorem play_run {tr : Trace (Exchange UInt8) (Move UInt8)} {x : Exchange UInt8} {m : Move UInt8}
    (hr : Run (exchange env (participant document rest) true .mlKem512) tr x) (ha : Allocates m.ambient (x m.mover).plugin)
    (hperm : Permitted env (participant document rest) (x m.mover) (x !m.mover) m) :
    Run (exchange env (participant document rest) true .mlKem512) ((x, m) :: tr) (play document rest x m) :=
  .step hr ⟨ha, hperm, rfl⟩

theorem Begun.run (h : Begun document rest) :
    ∃ tr own, Run (exchange env (participant document rest) true .mlKem512) tr (requested document rest) ∧
      OnTrack env (participant document rest) true .mlKem512 own false (requested document rest) := by
  have hP := prepared document rest
  have hr₀ : Run (exchange env (participant document rest) true .mlKem512) [] (opening document) :=
    .init (opening_fresh document rest)
  have h₀ : OnTrack env (participant document rest) true .mlKem512 (fun _ => none) false (opening document) :=
    Fresh.onTrack (opening_fresh document rest)
  have hperm₁ : Permitted env (participant document rest) (opening document false) (opening document !false)
      introduction := by
    refine ⟨rfl, ?_, Ideal.ambient 2, token_permitted h₀⟩
    intro t ht
    cases ht
  obtain ⟨own₁, h₁⟩ := h₀.discover env_works h.first hperm₁
  rw [← play_discover] at h₁
  have hr₁ := play_run (m := introduction) hr₀ h.first hperm₁
  have hperm₂ : Permitted env (participant document rest) (play document rest (opening document) introduction true)
      (play document rest (opening document) introduction !true) answer := by
    refine ⟨rfl, ?_, Ideal.ambient 2, token_permitted h₁⟩
    intro t ht
    obtain rfl := Option.some.inj ht
    exact h.returned
  obtain ⟨own₂, h₂⟩ := h₁.discover env_works h.second hperm₂
  rw [← play_discover] at h₂
  have hr₂ := play_run (m := answer) hr₁ h.second hperm₂
  have hperm₃ : Permitted env (participant document rest) (discovered document rest false) (discovered document rest !false)
      (.request false (Ideal.ambient 10)) := ⟨h.told, h.unused⟩
  exact ⟨_, own₂, play_run (m := .request false (Ideal.ambient 10)) hr₂ h.third hperm₃,
    h₂.request env_works env_kemWorks hP participant_leads h.third hperm₃⟩

/-- What the Reply depends on. -/
structure Waiting (document : CStr) (rest : Octets) : Prop where
  told : .ok .pendingHandshakeMessage ∈ (requested document rest true).verdicts
  unused : (requested document rest true).outcomes = []
  asked : (requested document rest false).outcomes.length = 1
  untrusting : (requested document rest true).plugin.trustedCaList = []
  fresh : Allocates (Ideal.ambient 10) (requested document rest true).plugin

instance (document : CStr) (rest : Octets) : Decidable (Waiting document rest) :=
  decidable_of_iff (.ok .pendingHandshakeMessage ∈ (requested document rest true).verdicts ∧
    (requested document rest true).outcomes = [] ∧ (requested document rest false).outcomes.length = 1 ∧
    (requested document rest true).plugin.trustedCaList = [] ∧
    Allocates (Ideal.ambient 10) (requested document rest true).plugin)
    ⟨fun ⟨h₁, h₂, h₃, h₄, h₅⟩ => ⟨h₁, h₂, h₃, h₄, h₅⟩, fun ⟨h₁, h₂, h₃, h₄, h₅⟩ => ⟨h₁, h₂, h₃, h₄, h₅⟩⟩

theorem trusts {i : Bool} {c : Caller UInt8} {n : UInt8} (h : c.plugin.trustedCaList = []) :
    Trusts env (participant document rest) i c (Ideal.ambient n) where
  valid := by
    have htime : (0 : Int) ≤ 100 ∧ (100 : Int) < 1001 := by decide
    refine ⟨⟨0, rfl, htime.1⟩, ⟨1001, rfl, htime.2⟩, .inl ⟨h, ?_⟩⟩
    cases i <;> rfl
  clock := by
    change (0 : Int) ≤ 100000000000 ∧ (100000000000 : Int) ≤ int64Max
    decide

theorem Waiting.permitted (h : Waiting document rest) : Permitted env (participant document rest)
    (requested document rest true) (requested document rest !true) (.reply true (Ideal.ambient 10)) :=
  ⟨h.told, h.unused, h.asked, trusts h.untrusting⟩

/-- What the Final depends on, and its acceptance. -/
structure Closing (document : CStr) (rest : Octets) : Prop where
  told : .ok .pendingHandshakeRequest ∈ (replied document rest false).verdicts
  asked : (replied document rest false).outcomes.length = 1
  answered : (replied document rest true).outcomes.length = 1
  untrusting : (replied document rest false).plugin.trustedCaList = []
  fresh : Allocates (Ideal.ambient 11) (replied document rest false).plugin
  waits : .ok .pendingHandshakeMessage ∈ (finished document rest true).verdicts
  answered' : (finished document rest true).outcomes.length = 1
  finishes : (finished document rest false).outcomes.length = 2
  untrusting' : (finished document rest true).plugin.trustedCaList = []
  fresh' : Allocates (Ideal.ambient 11) (finished document rest true).plugin
  done : (accepted document rest true).outcomes.length = 2

theorem Closing.run (h : Closing document rest) (hw : Waiting document rest) (hb : Begun document rest) :
    ∃ tr, Run (exchange env (participant document rest) true .mlKem512) tr (accepted document rest) := by
  obtain ⟨tr, own, hr, -⟩ := hb.run
  have hr₁ := play_run (m := .reply true (Ideal.ambient 10)) hr hw.fresh hw.permitted
  have hperm₂ : Permitted env (participant document rest) (replied document rest false) (replied document rest !false)
      (.finish false (Ideal.ambient 11)) := ⟨h.told, h.asked, h.answered, trusts h.untrusting⟩
  have hr₂ := play_run (m := .finish false (Ideal.ambient 11)) hr₁ h.fresh hperm₂
  have hperm₃ : Permitted env (participant document rest) (finished document rest true) (finished document rest !true)
      (.accept true (Ideal.ambient 11)) := ⟨h.waits, h.answered', h.finishes, trusts h.untrusting'⟩
  exact ⟨_, play_run (m := .accept true (Ideal.ambient 11)) hr₂ h.fresh' hperm₃⟩

/-- The Reply is refused if the credentials of the initiator are not of a size that a token may have. -/
theorem Waiting.refused (hw : Waiting document rest) (hb : Begun document rest)
    (hsize : ¬ (participant document rest false).Sendable) :
    ∃ tr, Run (exchange env (participant document rest) true .mlKem512) tr (replied document rest) ∧
      ¬ ∃ a, Completes a (replied document rest) := by
  obtain ⟨tr, own, hr, h⟩ := hb.run
  refine ⟨_, play_run (m := .reply true (Ideal.ambient 10)) hr hw.fresh hw.permitted, ?_⟩
  have hreplied : replied document rest true = (requested document rest true).note
      ((participant document rest true).reply env (Ideal.ambient 10) (requested document rest false).message
        (requested document rest true).remoteHandle (requested document rest true).plugin) := by
    change Function.update (requested document rest) true _ true = _
    rw [Function.update_self]
    rfl
  obtain ⟨key, publicKey, challenge1, ho⟩ : ∃ key publicKey challenge1, Opened env (participant document rest) true .mlKem512
      own false (requested document rest false) key publicKey challenge1 := by
    have hasked := hw.asked
    rcases h.stage with ⟨hc, -⟩ | ⟨-, -, ho⟩ | ⟨-, hd, -, -⟩ | ⟨hc, -, -, -, -⟩ | ⟨hc, -, -, -⟩
    · rw [hc] at hasked
      cases hasked
    · exact ⟨_, _, _, ho⟩
    · rw [Bool.not_false, hw.unused] at hd
      cases hd
    all_goals
      rw [hc] at hasked
      cases hasked
  rcases hrun : (participant document rest true).reply env (Ideal.ambient 10) (requested document rest false).message
    (requested document rest true).remoteHandle (requested document rest true).plugin with ⟨e | v, s'⟩
  · rw [hrun] at hreplied
    rintro ⟨a, hdone⟩
    cases a with
    | false =>
      have hsuffix := hdone.replier
      rw [Bool.not_false, hreplied, Caller.note, hw.unused] at hsuffix
      have hmem := hsuffix.subset (List.mem_singleton_self _)
      simp at hmem
    | true =>
      have hbegins := hdone.begins (.ok .pendingHandshakeMessage) (by rw [hreplied]; exact hw.told)
      cases hbegins
  · exact absurd (ho.sendable hw.fresh hrun) hsize

end Honest

theorem honest_handshake_completes_sample : ∃ a secret,
    (getSharedSecret (Honest.accepted (str "permissions") [] a).handshakeHandle
      (Honest.accepted (str "permissions") [] a).plugin).1 = .ok (some secret) ∧
    (getSharedSecret (Honest.accepted (str "permissions") [] !a).handshakeHandle
      (Honest.accepted (str "permissions") [] !a).plugin).1 = .ok (some secret) := by
  have hb : Honest.Begun (str "permissions") [] := by
    decide +kernel
  have hw : Honest.Waiting (str "permissions") [] := by
    decide +kernel
  have hclosing : Honest.Closing (str "permissions") [] := by
    constructor <;> decide +kernel
  obtain ⟨tr, hr⟩ := hclosing.run hw hb
  have hfit : ∀ i, (Honest.participant (str "permissions") [] i).Sendable := by
    intro i
    cases i <;> exact ⟨by decide +kernel, by decide +kernel⟩
  obtain ⟨a, hdone⟩ := honest_handshake_completes Honest.env (Honest.participant (str "permissions") []) true .mlKem512
    Honest.env_works Honest.env_kemWorks (Honest.prepared _ _) hfit hr
  cases a with
  | false =>
    obtain ⟨secret, h₁, h₂⟩ := hdone.secret hclosing.done
    exact ⟨false, secret, h₁, h₂⟩
  | true =>
    have htold : .ok .pendingHandshakeRequest ∈ (Honest.accepted (str "permissions") [] false).verdicts := by
      decide +kernel
    have hwaits := hdone.waits _ htold
    cases hwaits

/-- A permissions document, or participant data, of a size that a token may not have stops the Reply. -/
theorem honest_handshake_fails :
    (¬ ∀ (env : Env UInt8 UInt8) P optional k tr x, Works env → KemWorks env k → Prepared env P →
        (∀ i, (P i).participantData.length ≤ intMax) → Run (exchange env P optional k) tr x → ∃ a, Completes a x) ∧
      ¬ ∀ (env : Env UInt8 UInt8) P optional k tr x, Works env → KemWorks env k → Prepared env P →
        (∀ i, ((P i).permissions.getD []).length < intMax) → Run (exchange env P optional k) tr x →
          ∃ a, Completes a x := by
  constructor
  · intro hall
    have hb : Honest.Begun (List.replicate intMax 65) [] := by
      decide +kernel
    have hw : Honest.Waiting (List.replicate intMax 65) [] := by
      decide +kernel
    obtain ⟨tr, hr, hnot⟩ := hw.refused hb (by
      intro hfit
      have hlt := hfit.permissions
      simp only [Honest.participant, Option.getD_some, List.length_replicate] at hlt
      exact absurd hlt (Nat.lt_irrefl _))
    exact hnot (hall _ _ _ _ _ _ Honest.env_works Honest.env_kemWorks (Honest.prepared _ _)
      (by intro i; cases i <;> decide +kernel) hr)
  · intro hall
    have hb : Honest.Begun [] (List.replicate intMax 65) := by
      decide +kernel
    have hw : Honest.Waiting [] (List.replicate intMax 65) := by
      decide +kernel
    obtain ⟨tr, hr, hnot⟩ := hw.refused hb (by
      intro hfit
      have hle := hfit.participantData
      have hlen : (Ideal.pdata (Honest.party false)).length = 12 := (Ideal.guid (Honest.party false)).guidPrefix.2
      simp only [Honest.participant, List.length_append, List.length_replicate, hlen] at hle
      omega)
    exact hnot (hall _ _ _ _ _ _ Honest.env_works Honest.env_kemWorks (Honest.prepared _ _)
      (by intro i; cases i <;> decide +kernel) hr)

end PqsecDds.CycloneDDS
