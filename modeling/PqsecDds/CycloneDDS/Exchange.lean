import PqsecDds.CycloneDDS.AuthRequests
import PqsecDds.CycloneDDS.KeyMaterial
import PqsecDds.CycloneDDS.Works
import Mathlib.Data.Bool.Basic

/-!
# Two callers and their plugins

Two participants, each the local identity of a plugin of its own, are validated against each other and pass the three
handshake tokens on. `exchange` is the system of both callers. An identity is validated against the other in any order,
any number of times, without an AuthRequest or with one that the other side returned.

| here | meaning |
|---|---|
| `Participant`, `Prepared` | a participant and what it needs |
| `Caller`, `Move`, `Permitted` | a caller with its plugin, and when it makes which call |
| `Session`, `Meets` | what a plugin holds about the other participant |
-/

namespace PqsecDds.CycloneDDS

open Lib

variable {κ ρ : Type} {env : Env κ ρ} {amb : Ambient ρ} {s s' : Authentication κ} {l r h : Handle} {k : AuthAlgoKind}
variable {tr : Trace (Authentication κ) (Op × Ambient ρ)} {optional : Bool}

/-! ## Local identities -/

/-- What `validate_local_identity` establishes about the identity it makes. -/
structure Loaded (env : Env κ ρ) (identity : LocalIdentityInfo) : Prop where
  pubkey : identity.identityCert.pubkey = some identity.privateKey
  known : getAuthenticationAlgoKind identity.identityCert ≠ .unknown
  dsign : identity.dsignAlgoKind = getAuthenticationAlgoKind identity.identityCert
  subject : ∃ name, identity.identityCert.subject = some name ∧ name.der ≠ [] ∧
    identity.adjustedGuid.guidPrefix.1.take 6 = subjectPrefix env name.der

theorem loadX509Certificate_known {data : CStr} {cert : X509} (h : loadX509Certificate env amb data = .ok cert) :
    getAuthenticationAlgoKind cert ≠ .unknown := by
  unfold loadX509Certificate at h
  split at h
  · simp only [loadX509CertificateFromFile, bind_ok, pure_ok] at h
    obtain ⟨cert', ⟨bio, -, hbio⟩, -, -, -, -, rfl⟩ := h
    exact (loadX509CertificateFromBio_ok hbio).2
  · simp only [bind_ok, pure_ok] at h
    obtain ⟨cert', hload, -, -, -, -, rfl⟩ := h
    exact (loadX509CertificateFromBio_ok hload).2
  · cases h
  · cases h

theorem getAdjustedParticipantGuid_ok {cert : X509} {candidate adjusted : Guid}
    (h : getAdjustedParticipantGuid env amb cert candidate = .ok adjusted) :
    ∃ name, cert.subject = some name ∧ name.der ≠ [] ∧ adjusted.guidPrefix.1.take 6 = subjectPrefix env name.der := by
  simp only [getAdjustedParticipantGuid, bind_ok, pure_ok] at h
  obtain ⟨subject, hsubject, rfl⟩ := h
  unfold getSubjectNameDerEncoded at hsubject
  split at hsubject
  · cases hsubject
  rename_i name hname
  split at hsubject
  · cases hsubject
  rename_i hder
  obtain rfl := Except.ok.inj hsubject
  exact ⟨name, hname, by simpa using hder, List.take_left' (subjectPrefix_length env name.der)⟩

theorem LocalMade.identity_loaded {qos : Qos} {candidate : Guid} {identity : LocalIdentityInfo} {certExpiry : Int}
    (h : LocalMade env amb s qos candidate identity certExpiry s') : Loaded env identity := by
  have hloaded := h.loaded
  simp only [identityOf, bind_ok, need_ok] at hloaded
  obtain ⟨certPem, -, caPem, -, keyPem, -, trusted, -, hload⟩ := hloaded
  simp only [loadIdentity, bind_ok, require_ok, pure_ok, decide_eq_true_eq, Prod.mk.injEq] at hload
  obtain ⟨ca, -, -, -, cert, hcert, key, -, -, hkey, crl, -, -, -, -, -, adjusted, hadjusted, rfl, rfl, rfl, rfl, -, rfl⟩ :=
    hload
  exact ⟨hkey, loadX509Certificate_known hcert, congrArg LocalIdentityInfo.dsignAlgoKind h.made,
    getAdjustedParticipantGuid_ok hadjusted⟩

theorem run_loaded (hr : Run (plugin env).solo tr s) : ∀ l identity, s.localIdentity l = some identity →
    Loaded env identity := by
  refine hr.state_inv (I := fun s => ∀ l identity, s.localIdentity l = some identity → Loaded env identity) ?_ ?_
  · rintro s ⟨optional, kem, rfl⟩ l identity hl
    cases hl
  · rintro s ⟨op, amb⟩ s' ih ⟨-, rfl⟩ l identity hl
    have he : Effect env amb s op _ := exec_effect s op amb
    rcases he.localIdentity_cases hl with ⟨old, _, _, _, hold, rfl⟩ | ⟨_, _, _, -, -, -, hmade⟩
    · obtain ⟨hpubkey, hknown, hdsign, hsubject⟩ := ih l old hold
      exact ⟨hpubkey, hknown, hdsign, hsubject⟩
    · exact hmade.identity_loaded

/-- `get_identity_token`, of the certificate and the CA. -/
def identityTokenOf (cert ca : X509) : Option Token := do
  let snCert ← cert.subject
  let snCa ← ca.subject
  let algo (cert : X509) := str (getAuthenticationAlgo (getAuthenticationAlgoKind cert))
  return {
    classId := str "pqsec-dds.auth:1.0"
    properties :=
      [⟨str "dds.cert.sn", snCert.oneline⟩, ⟨str "dds.cert.algo", algo cert⟩,
       ⟨str "dds.ca.sn", snCa.oneline⟩, ⟨str "dds.ca.algo", algo ca⟩] }

theorem getCertificateSubjectName_ok {cert : X509} {text : CStr} (h : getCertificateSubjectName amb cert = .ok text) :
    ∃ name, cert.subject = some name ∧ text = name.oneline := by
  unfold getCertificateSubjectName at h
  split at h
  · cases h
  · rename_i name hname
    exact ⟨name, hname, (Except.ok.inj h).symm⟩

theorem getIdentityToken_ok {token : Token} (h : getIdentityToken amb l s = (.ok token, s')) :
    ∃ identity, s.localIdentity l = some identity ∧
      identityTokenOf identity.identityCert identity.identityCa = some token := by
  simp only [getIdentityToken, Act.bind_ok, Act.demand_ok, check_ok, Act.pure_ok] at h
  obtain ⟨identity, _, ⟨hl, -⟩, snCert, _, ⟨hcert, -⟩, snCa, _, ⟨hca, -⟩, rfl, -⟩ := h
  obtain ⟨name, hname, rfl⟩ := getCertificateSubjectName_ok hcert
  obtain ⟨caName, hcaName, rfl⟩ := getCertificateSubjectName_ok hca
  exact ⟨identity, hl, by simp [identityTokenOf, hname, hcaName]⟩

theorem getIdentityToken_works {identity : LocalIdentityInfo} {token : Token} (hl : s.localIdentity l = some identity)
    (h : identityTokenOf identity.identityCert identity.identityCa = some token) :
    (getIdentityToken amb l s).1 = .ok token := by
  simp only [identityTokenOf, Option.bind_eq_bind, Option.bind_eq_some_iff, Option.pure_def, Option.some.injEq] at h
  obtain ⟨name, hname, caName, hcaName, rfl⟩ := h
  simp [getIdentityToken, getCertificateSubjectName, bind, Act.bind, Act.demand, check, Act.lift, need, Except.mapError, hl,
    hname, hcaName, pure]

theorem identityTokenOf_classId {cert ca : X509} {token : Token} (h : identityTokenOf cert ca = some token) :
    token.classId = some (str "pqsec-dds.auth:1.0") := by
  simp only [identityTokenOf, Option.bind_eq_bind, Option.bind_eq_some_iff, Option.pure_def, Option.some.injEq] at h
  obtain ⟨_, -, _, -, rfl⟩ := h
  rfl

/-! ## The exchange -/

/-- A participant: its local identity, and what its caller passes to the handshake calls. -/
structure Participant where
  localHandle : Handle
  guid : Guid
  certificate : X509
  ca : X509
  crl : Option X509Crl
  permissions : Option CStr
  participantData : Octets

/-- The local identity of a participant. -/
structure Participant.Owns (P : Participant) (identity : LocalIdentityInfo) : Prop where
  guid : identity.adjustedGuid = P.guid
  certificate : identity.identityCert = P.certificate
  ca : identity.identityCa = P.ca
  crl : identity.crl = P.crl
  permissions : identity.permissionsDocument = P.permissions

/-- What a participant says of itself. -/
def Participant.credentials (env : Env κ ρ) (k : AuthAlgoKind) (P : Participant) : Credentials where
  certData := (env.pemWriteX509 P.certificate).getD []
  permissions := P.permissions.getD []
  pdata := P.participantData
  dsign := getAuthenticationAlgoKind P.certificate
  kagree := k

def Participant.hash (env : Env κ ρ) (k : AuthAlgoKind) (P : Participant) : HashValue :=
  env.sha256 (env.serializeArray (P.credentials env k).properties)

/-- The participants have different GUIDs, certificates that are written and read back, keys that sign, and participant data
that hold their GUIDs. -/
structure Prepared (env : Env κ ρ) (P : Bool → Participant) : Prop where
  distinct : (P false).guid ≠ (P true).guid
  certificate : ∀ i, ∃ data, env.pemWriteX509 (P i).certificate = some data ∧ data ≠ [] ∧ data.length ≤ intMax ∧
    env.pemReadX509 data = some (P i).certificate
  signs : ∀ i key, (P i).certificate.pubkey = some key → key.canSign = true
  participantData : ∀ i, (P i).participantData ≠ [] ∧
    env.participantKey (P i).participantData = some (P i).guid.guidPrefix

/-- The permissions document, with its terminator, and the participant data are of sizes that a token may have. -/
structure Participant.Sendable (P : Participant) : Prop where
  permissions : (P.permissions.getD []).length < intMax
  participantData : P.participantData.length ≤ intMax

/-- What the handshake calls return. -/
inductive Outcome where
  | pendingHandshakeMessage
  | okFinalMessage
  | ok
  deriving DecidableEq

/-- A caller: its plugin, and what it remembers of the calls it has made. -/
structure Caller (κ : Type) where
  plugin : Authentication κ
  /-- The remote handle that `validate_remote_identity` returned. -/
  remoteHandle : Handle := 0
  /-- The results of `validate_remote_identity`, the latest first. -/
  verdicts : List (Except Stop RemoteResult) := []
  /-- The AuthRequests that `validate_remote_identity` returned. -/
  authRequests : List Token := []
  handshakeHandle : Handle := 0
  /-- The results of the handshake calls, the latest first. -/
  outcomes : List (Except Stop Outcome) := []
  /-- The token of the latest handshake call. -/
  message : Token := {}

inductive Move (ρ : Type) where
  | discover (i : Bool) (request : Option Token) (identityToken : Token) (amb : Ambient ρ)
  | request (i : Bool) (amb : Ambient ρ)
  | reply (i : Bool) (amb : Ambient ρ)
  | finish (i : Bool) (amb : Ambient ρ)
  | accept (i : Bool) (amb : Ambient ρ)

def Move.mover : Move ρ → Bool
  | .discover i .. | .request i _ | .reply i _ | .finish i _ | .accept i _ => i

def Move.ambient : Move ρ → Ambient ρ
  | .discover _ _ _ amb | .request _ amb | .reply _ amb | .finish _ amb | .accept _ amb => amb

/-- The caller after a successful `validate_remote_identity`. -/
def Caller.seen (c : Caller κ) (s' : Authentication κ) (r : Handle) (verdict : RemoteResult) (out : Option Token) :
    Caller κ :=
  { c with
    plugin := s', remoteHandle := r, verdicts := .ok verdict :: c.verdicts, authRequests := out.toList ++ c.authRequests }

variable (env amb) in
/-- The caller notes what `validate_remote_identity` returned. -/
def Caller.discover (P : Bool → Participant) (i : Bool) (request : Option Token) (identityToken : Token)
    (c : Caller κ) : Caller κ :=
  match validateRemoteIdentity env amb request (P i).localHandle identityToken (P !i).guid c.plugin with
  | (.ok (verdict, r, out), s) => c.seen s r verdict out
  | (.error e, s) => { c with plugin := s, verdicts := .error e :: c.verdicts }

/-- The caller notes the result of a handshake call. -/
def Caller.note (c : Caller κ) : Except Stop (Handle × Outcome × Token) × Authentication κ → Caller κ
  | (.ok (h, outcome, out), s) =>
    { c with plugin := s, handshakeHandle := h, outcomes := .ok outcome :: c.outcomes, message := out }
  | (.error e, s) => { c with plugin := s, outcomes := .error e :: c.outcomes }

section Calls

variable (env amb)

/-- `begin_handshake_request` -/
def Participant.request (P : Participant) (r : Handle) : Call κ (Handle × Outcome × Token) := do
  let (h, out) ← beginHandshakeRequest env amb P.localHandle r P.participantData
  return (h, .pendingHandshakeMessage, out)

/-- `begin_handshake_reply` -/
def Participant.reply (P : Participant) (inp : Token) (r : Handle) : Call κ (Handle × Outcome × Token) := do
  let (h, out, _) ← beginHandshakeReply env amb inp r P.localHandle P.participantData
  return (h, .pendingHandshakeMessage, out)

/-- `process_handshake` -/
def processMessage (inp : Token) (h : Handle) : Call κ (Handle × Outcome × Token) := do
  match ← processHandshake env amb inp h with
  | .ok => return (h, .ok, {})
  | .okFinalMessage out _ => return (h, .okFinalMessage, out)

end Calls

/-- What a move makes of the caller that makes it; `peer` is the other one. -/
def Caller.move (env : Env κ ρ) (P : Bool → Participant) (c peer : Caller κ) : Move ρ → Caller κ
  | .discover i request identityToken amb => c.discover env amb P i request identityToken
  | .request i amb => c.note ((P i).request env amb c.remoteHandle c.plugin)
  | .reply i amb => c.note ((P i).reply env amb peer.message c.remoteHandle c.plugin)
  | .finish _ amb => c.note (processMessage env amb peer.message c.handshakeHandle c.plugin)
  | .accept _ amb => c.note (processMessage env amb peer.message c.handshakeHandle c.plugin)

/-- The certificate of the other side is valid for the plugin of side `i`, and its clock can be read. -/
structure Trusts (env : Env κ ρ) (P : Bool → Participant) (i : Bool) (c : Caller κ) (amb : Ambient ρ) : Prop where
  valid : ValidUnder env amb (P !i).certificate (P i).ca (P i).crl c.plugin.trustedCaList
  clock : 0 ≤ amb.ddsTime ∧ amb.ddsTime ≤ int64Max

/-- When a caller makes a move. -/
def Permitted (env : Env κ ρ) (P : Bool → Participant) (c peer : Caller κ) : Move ρ → Prop
  -- No AuthRequest, or one that the other side returned, and the identity token of the other side.
  | .discover i request identityToken amb =>
    amb.randReturn = 1 ∧ (∀ t, request = some t → t ∈ peer.authRequests) ∧
      ∃ amb : Ambient ρ, (getIdentityToken amb (P !i).localHandle peer.plugin).1 = .ok identityToken
  | .request _ _ => .ok .pendingHandshakeRequest ∈ c.verdicts ∧ c.outcomes = []
  | .reply i amb =>
    .ok .pendingHandshakeMessage ∈ c.verdicts ∧ c.outcomes = [] ∧ peer.outcomes.length = 1 ∧ Trusts env P i c amb
  | .finish i amb =>
    .ok .pendingHandshakeRequest ∈ c.verdicts ∧ c.outcomes.length = 1 ∧ peer.outcomes.length = 1 ∧ Trusts env P i c amb
  | .accept i amb =>
    .ok .pendingHandshakeMessage ∈ c.verdicts ∧ c.outcomes.length = 1 ∧ peer.outcomes.length = 2 ∧ Trusts env P i c amb

abbrev Exchange (κ : Type) := Bool → Caller κ

/-- A caller that knows nothing of the participant with the GUID `other`. -/
structure Fresh (env : Env κ ρ) (P : Participant) (other : Guid) (optional : Bool) (k : AuthAlgoKind) (c : Caller κ) :
    Prop where
  reached : ∃ tr, Run (plugin env).solo tr c.plugin
  identity : ∃ identity, c.plugin.localIdentity P.localHandle = some identity ∧ P.Owns identity
  unknown : c.plugin.remoteGuidHash.lookup other = none
  settings : c.plugin.includeOptional = optional ∧ c.plugin.kem = k
  memory : c = { plugin := c.plugin }

/-- Both callers with their plugins. -/
def exchange (env : Env κ ρ) (P : Bool → Participant) (optional : Bool) (k : AuthAlgoKind) :
    System (Exchange κ) (Move ρ) where
  init x := ∀ i, Fresh env (P i) (P !i).guid optional k (x i)
  step x m x' := Allocates m.ambient (x m.mover).plugin ∧ Permitted env P (x m.mover) (x !m.mover) m ∧
    x' = Function.update x m.mover ((x m.mover).move env P (x !m.mover) m)

/-! ## Acquaintance -/

/-- The verdict of the participant with the GUID `guid` about the one with the GUID `other`. -/
def role (guid other : Guid) : RemoteResult :=
  if memcmpLt guid.octets other.octets then .pendingHandshakeRequest else .pendingHandshakeMessage

/-- What the plugin of side `i` holds about the other side once it has met it; `own` are the challenges of both sides. -/
structure Meets (P : Bool → Participant) (own : Bool → Option Challenge) (i : Bool) (c : Caller κ)
    (remote : RemoteIdentityInfo) (a : Handle) (relation : IdentityRelation) : Prop where
  known : c.plugin.remoteGuidHash.lookup (P !i).guid = some c.remoteHandle
  object : c.plugin.remoteIdentity c.remoteHandle = some remote
  token : identityTokenOf (P !i).certificate (P !i).ca = some remote.remoteIdentityToken
  linked : remote.linkHash.lookup (P i).localHandle = some a
  pointer : c.plugin.relation a = some relation
  challenge : ∃ x, own i = some x ∧ relation.lchallenge = some x
  pinned : ∀ y, relation.rchallenge = some y → own (!i) = some y
  returned : ∀ t ∈ c.authRequests, ∃ x, own i = some x ∧ t = authRequestToken x
  verdict : c.verdicts ≠ []
  verdicts : ∀ v ∈ c.verdicts, v = .ok (role (P i).guid (P !i).guid)
  unused : c.outcomes = [] → c.plugin.findHandshake (P i).localHandle c.remoteHandle = none

structure Unmet (P : Bool → Participant) (own : Bool → Option Challenge) (i : Bool) (c : Caller κ) : Prop where
  unknown : c.plugin.remoteGuidHash.lookup (P !i).guid = none
  challenge : own i = none
  verdicts : c.verdicts = []
  authRequests : c.authRequests = []
  outcomes : c.outcomes = []

structure Acquainted (env : Env κ ρ) (P : Bool → Participant) (optional : Bool) (k : AuthAlgoKind)
    (own : Bool → Option Challenge) (i : Bool) (c : Caller κ) : Prop where
  reached : ∃ tr, Run (plugin env).solo tr c.plugin
  identity : ∃ identity, c.plugin.localIdentity (P i).localHandle = some identity ∧ (P i).Owns identity
  settings : c.plugin.includeOptional = optional ∧ c.plugin.kem = k
  remote : Unmet P own i c ∨ ∃ remote a relation, Meets P own i c remote a relation

/-- What `validate_remote_identity` leaves alone when a handshake is begun. -/
structure Background (c c' : Caller κ) : Prop where
  outcomes : c'.outcomes = c.outcomes
  message : c'.message = c.message
  handshakeHandle : c'.handshakeHandle = c.handshakeHandle
  handshake : ∀ h, c'.plugin.handshake h = c.plugin.handshake h
  remote : c.outcomes ≠ [] → c'.remoteHandle = c.remoteHandle ∧
    ∀ r, c'.plugin.remoteIdentity r = c.plugin.remoteIdentity r

variable {P : Bool → Participant} {own own' : Bool → Option Challenge} {i : Bool} {c c' peer : Caller κ}

theorem Fresh.acquainted (h : Fresh env (P i) (P !i).guid optional k c) :
    Acquainted env P optional k (fun _ => none) i c := by
  obtain ⟨hreached, hidentity, hunknown, hsettings, hmemory⟩ := h
  refine ⟨hreached, hidentity, hsettings, .inl ⟨hunknown, rfl, ?_, ?_, ?_⟩⟩ <;> rw [hmemory]

/-- No side replaces a challenge of its own. -/
def Extends (own own' : Bool → Option Challenge) : Prop := ∀ j x, own j = some x → own' j = some x

theorem Acquainted.mono (h : Acquainted env P optional k own i c) (hown : own' i = own i) (hext : Extends own own') :
    Acquainted env P optional k own' i c := by
  obtain ⟨hreached, hidentity, hsettings, hun | ⟨remote, a, relation, hmeets⟩⟩ := h
  · exact ⟨hreached, hidentity, hsettings, .inl { hun with challenge := by rw [hown, hun.challenge] }⟩
  · refine ⟨hreached, hidentity, hsettings, .inr ⟨remote, a, relation, { hmeets with challenge := ?_, pinned := ?_, returned := ?_ }⟩⟩
    · rw [hown]
      exact hmeets.challenge
    · intro y hy
      exact hext _ y (hmeets.pinned y hy)
    · rw [hown]
      exact hmeets.returned

theorem Acquainted.returned (h : Acquainted env P optional k own i c) {t : Token} (ht : t ∈ c.authRequests) :
    ∃ x, own i = some x ∧ t = authRequestToken x := by
  rcases h.remote with hun | ⟨remote, a, relation, hmeets⟩
  · rw [hun.authRequests] at ht
    cases ht
  · exact hmeets.returned t ht

/-- A caller that has had a verdict has met the other side. -/
theorem Acquainted.met (h : Acquainted env P optional k own i c) (hverdict : c.verdicts ≠ []) :
    ∃ remote a relation, Meets P own i c remote a relation := by
  rcases h.remote with hun | hmet
  · exact absurd hun.verdicts hverdict
  · exact hmet

theorem validateAuthRequestToken_authRequestToken (x : Challenge) :
    validateAuthRequestToken (authRequestToken x) = .ok x := by
  refine validateAuthRequestToken_ok.2 ⟨rfl, ?_⟩
  have hfind : (authRequestToken x).binaryProperties.find? isFutureChallenge =
      some (binaryProperty "future_challenge" x.1) := by
    simp [authRequestToken, isFutureChallenge_of_name, binaryProperty]
  rw [Token.foundChallenge, hfind]
  exact challenge_eq_some.2 rfl

theorem reached_call (hr : Run (plugin env).solo tr s) {op : Op} {signed : List Signed} (ha : Allocates amb s)
    (hrun : op.call env amb s = (.ok signed, s')) : ∃ tr, Run (plugin env).solo tr s' :=
  ⟨_, hr.step (step_of_ok ha hrun)⟩

theorem findHandshake_unused {a : Handle} (hG : s.graph.Sound) (hlink : s.findIdentityRelation l r = some a)
    (hunused : ∀ h hs, s.handshake h = some hs → hs.relation ≠ a) : s.findHandshake l r = none := by
  rcases hfind : s.findHandshake l r with _ | h
  · rfl
  · obtain ⟨hs, hh, ha⟩ := Option.map_eq_some_iff.1 ((findHandshake_iff hG hlink).1 hfind)
    exact absurd ha (hunused h hs hh)

section Seen

variable {request out : Option Token} {token : Token} {rchallenge : Option Challenge} {remote remote₀ : RemoteIdentityInfo}
variable {a a₀ : Handle} {relation relation₀ : IdentityRelation}

/-- The first time, the plugin makes a remote identity, a relation and a challenge. -/
theorem Unmet.seen (h : Unmet P own i c) (ha : Allocates amb c.plugin) (hG : c.plugin.graph.Sound)
    (hG' : s'.graph.Sound)
    (hseen : RemoteSeen env amb c.plugin request (P i).localHandle token (P !i).guid r a remote relation rchallenge s')
    (htoken : identityTokenOf (P !i).certificate (P !i).ca = some token)
    (hpin : ∀ y, rchallenge = some y → own (!i) = some y)
    (hout : out = if request.isSome then none else relation.lchallenge.map authRequestToken) :
    ∃ x, Meets P (Function.update own i (some x)) i (c.seen s' r (role (P i).guid (P !i).guid) out) remote a relation := by
  have hpointer := hseen.relation a
  have hobject := hseen.remoteIdentity r
  have hknown := hseen.remoteGuidHash (P !i).guid
  rw [if_pos rfl] at hpointer hobject hknown
  obtain ⟨lchallenge, -, hsight⟩ := hseen.sighting
  cases hsight with
  | linked known object unlinked =>
    rw [h.unknown] at known
    cases known
  | known known object linked pointer =>
    rw [h.unknown] at known
    cases known
  | made new =>
    refine ⟨lchallenge, hknown, hobject, htoken, AList.lookup_insert _, hpointer,
      ⟨lchallenge, Function.update_self _ _ _, rfl⟩, ?_, ?_, List.cons_ne_nil _ _, ?_, ?_⟩
    · intro y hy
      rw [Function.update_of_ne (Bool.not_ne_self i)]
      exact hpin y hy
    · intro t ht
      simp only [Caller.seen, h.authRequests, List.append_nil, Option.mem_toList, hout] at ht
      refine ⟨lchallenge, Function.update_self _ _ _, ?_⟩
      split at ht
      · cases ht
      · exact (Option.some.inj ht).symm
    · intro v hv
      simp only [Caller.seen, h.verdicts, List.mem_singleton] at hv
      exact hv
    · intro _
      refine findHandshake_unused hG' (a := amb.relation) ?_ ?_
      · simp only [Caller.seen, Authentication.findIdentityRelation, hobject, Option.bind_some]
        exact AList.lookup_insert _
      · -- the relation is new, so no handshake is on it
        intro h hs hh hrel
        rw [Caller.seen, hseen.handshake] at hh
        have hpair := hG.handshake h amb.relation (by simp [Authentication.graph, hh, hrel])
        simp [Authentication.graph, relation_fresh ha] at hpair

/-- Later, it takes note of the challenge of the other side at most. -/
theorem Meets.seen (h : Meets P own i c remote₀ a₀ relation₀) (hG : c.plugin.graph.Sound) (hG' : s'.graph.Sound)
    (hseen : RemoteSeen env amb c.plugin request (P i).localHandle token (P !i).guid r a remote relation rchallenge s')
    (hpin : ∀ y, rchallenge = some y → own (!i) = some y)
    (hout : out = if request.isSome then none else relation.lchallenge.map authRequestToken) :
    r = c.remoteHandle ∧ remote = remote₀ ∧
      Meets P own i (c.seen s' r (role (P i).guid (P !i).guid) out) remote a relation := by
  have hpointer := hseen.relation a
  have hobject := hseen.remoteIdentity r
  have hknown := hseen.remoteGuidHash (P !i).guid
  rw [if_pos rfl] at hpointer hobject hknown
  obtain ⟨lchallenge, -, hsight⟩ := hseen.sighting
  cases hsight with
  | made new =>
    rw [h.known] at new
    cases new
  | linked known object unlinked =>
    rw [h.known] at known
    obtain rfl := Option.some.inj known
    rw [h.object] at object
    obtain rfl := Option.some.inj object
    rw [h.linked] at unlinked
    cases unlinked
  | known known object linked pointer =>
    rw [h.known] at known
    obtain rfl := Option.some.inj known
    rw [h.object] at object
    obtain rfl := Option.some.inj object
    rw [h.linked] at linked
    obtain rfl := Option.some.inj linked
    rw [h.pointer] at pointer
    obtain rfl := Option.some.inj pointer
    obtain ⟨x, hx, hlch⟩ := h.challenge
    refine ⟨rfl, rfl, hknown, hobject, h.token, h.linked, hpointer, ⟨x, hx, hlch⟩, ?_, ?_, List.cons_ne_nil _ _, ?_, ?_⟩
    · intro y hy
      rcases Option.or_eq_some_iff.1 hy with hnew | ⟨-, hold⟩
      · exact hpin y hnew
      · exact h.pinned y hold
    · intro t ht
      rcases List.mem_append.1 ht with hnew | hold
      · refine ⟨x, hx, ?_⟩
        simp only [Option.mem_toList, hout, hlch] at hnew
        split at hnew
        · cases hnew
        · exact (Option.some.inj hnew).symm
      · exact h.returned t hold
    · intro v hv
      rcases List.mem_cons.1 hv with rfl | hold
      · rfl
      · exact h.verdicts v hold
    · intro hnone
      refine findHandshake_unused hG' (a := a₀) ?_ ?_
      · simp only [Caller.seen, Authentication.findIdentityRelation, hobject, Option.bind_some]
        exact h.linked
      · intro x hs hh hrel
        rw [Caller.seen, hseen.handshake] at hh
        refine findHandshake_none (h.unused hnone) hh ?_
        rw [pairOf_eq_some_iff, hrel]
        refine (hG.link _ _ _).1 ?_
        simp only [Authentication.graph, Authentication.findIdentityRelation, h.object, Option.bind_some]
        exact h.linked

end Seen

/-- **Discovery works.** A call of `validate_remote_identity` succeeds, with the verdict of the GUIDs, and leaves the
handshake alone. -/
theorem Acquainted.discover (hw : Works env) {request : Option Token} {token : Token}
    (h : Acquainted env P optional k own i c) (hpeer : Acquainted env P optional k own (!i) peer)
    (ha : Allocates amb c.plugin) (hperm : Permitted env P c peer (.discover i request token amb)) :
    ∃ own', Extends own own' ∧ own' (!i) = own (!i) ∧
      Acquainted env P optional k own' i (c.discover env amb P i request token) ∧
      Background c (c.discover env amb P i request token) := by
  obtain ⟨hrandom, hrequest, amb', htoken⟩ := hperm
  obtain ⟨tr, hr⟩ := h.reached
  obtain ⟨identity, hl, howns⟩ := h.identity
  have hs := run_referential hr
  have htoken : identityTokenOf (P !i).certificate (P !i).ca = some token := by
    obtain ⟨identity', hl', howns'⟩ := hpeer.identity
    obtain ⟨identity'', hl'', htoken⟩ := getIdentityToken_ok (Prod.ext htoken rfl)
    rw [hl'] at hl''
    obtain rfl := Option.some.inj hl''
    rw [howns'.certificate, howns'.ca] at htoken
    exact htoken
  obtain ⟨rchallenge, hrchallenge, hpin⟩ : ∃ rchallenge, request.mapM validateAuthRequestToken = .ok rchallenge ∧
      ∀ y, rchallenge = some y → own (!i) = some y := by
    cases request with
    | none => exact ⟨none, rfl, fun y hy => by cases hy⟩
    | some t =>
      obtain ⟨x, hx, rfl⟩ := hpeer.returned (hrequest t rfl)
      refine ⟨some x, ?_, fun y hy => ?_⟩
      · simp only [Option.mapM_some, validateAuthRequestToken_authRequestToken]
        rfl
      · rw [hx, hy]
  have hsame : ∀ r remote, c.plugin.remoteGuidHash.lookup (P !i).guid = some r →
      c.plugin.remoteIdentity r = some remote → env.dataHolderEqual remote.remoteIdentityToken token = true := by
    intro r remote hr hremote
    rcases h.remote with hun | ⟨remote', a, relation, hmeets⟩
    · rw [hun.unknown] at hr
      cases hr
    · rw [hmeets.known] at hr
      obtain rfl := Option.some.inj hr
      rw [hmeets.object] at hremote
      obtain rfl := Option.some.inj hremote
      rw [Option.some.inj (hmeets.token.symm.trans htoken)]
      exact hw.dataHolderEqual token
  obtain ⟨⟨verdict, r, out⟩, s', hrun⟩ := validateRemoteIdentity_works hs (by rw [hl]; rfl)
    (identityTokenOf_classId htoken) hrchallenge hrandom hsame
  have hdiscover : c.discover env amb P i request token = c.seen s' r verdict out := by
    simp only [Caller.discover, hrun]
  have hcall : (Op.validateRemoteIdentity request (P i).localHandle token (P !i).guid).call env amb c.plugin = (.ok [], s') := by
    simp only [Op.call, bind, Act.bind, hrun, pure]
  obtain ⟨tr', hr'⟩ := reached_call hr ha hcall
  rcases validateRemoteIdentity_cases ha hrun (by simp) with ⟨⟨_, he⟩, -⟩ |
    ⟨r', a, remote, relation, rchallenge', localIdent, hl', hseen, hres⟩
  · cases he
  rw [hl] at hl'
  obtain rfl := Option.some.inj hl'
  obtain ⟨hverdict, hrest⟩ := Prod.mk.inj (Except.ok.inj hres)
  obtain ⟨rfl, hout⟩ := Prod.mk.inj hrest
  rw [howns.guid] at hverdict
  change verdict = role (P i).guid (P !i).guid at hverdict
  subst hverdict
  obtain rfl : rchallenge' = rchallenge := Except.ok.inj (hseen.request.symm.trans hrchallenge)
  have hG' := run_sound hr'
  have hidentity : ∃ identity, s'.localIdentity (P i).localHandle = some identity ∧ (P i).Owns identity :=
    ⟨identity, by rw [hseen.localIdentity, hl], howns⟩
  have hsettings : s'.includeOptional = optional ∧ s'.kem = k := by
    rw [hseen.includeOptional, hseen.kem]
    exact h.settings
  rw [hdiscover]
  rcases h.remote with hun | ⟨remote₀, a₀, relation₀, hmeets⟩
  · obtain ⟨x, hmeets⟩ := hun.seen ha hs.sound hG' hseen htoken hpin hout
    refine ⟨Function.update own i (some x), ?_, Function.update_of_ne (Bool.not_ne_self i) _ _,
      ⟨⟨tr', hr'⟩, hidentity, hsettings, .inr ⟨_, _, _, hmeets⟩⟩, rfl, rfl, rfl, hseen.handshake, ?_⟩
    · intro j y hy
      by_cases hj : j = i
      · subst hj
        rw [hun.challenge] at hy
        cases hy
      · rw [Function.update_of_ne hj]
        exact hy
    · intro hne
      exact absurd hun.outcomes hne
  · obtain ⟨rfl, rfl, hmeets'⟩ := hmeets.seen hs.sound hG' hseen hpin hout
    refine ⟨own, fun _ _ hy => hy, rfl, ⟨⟨tr', hr'⟩, hidentity, hsettings, .inr ⟨_, _, _, hmeets'⟩⟩, rfl, rfl, rfl,
      hseen.handshake, fun _ => ⟨rfl, fun x => ?_⟩⟩
    rw [Caller.seen, hseen.remoteIdentity]
    by_cases hx : x = c.remoteHandle
    · rw [if_pos hx, hx, hmeets.object]
    · rw [if_neg hx]

end PqsecDds.CycloneDDS
