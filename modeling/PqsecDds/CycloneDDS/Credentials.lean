import PqsecDds.CycloneDDS.Rejection

/-!
# Whose credentials a remote identity has

The certificate, the permissions document, the algorithms and the participant data of a remote identity are those of the
Request or Reply that was accepted for it last, by whichever local identity (`run_accredited`). The GUID is the one that
`validate_remote_identity` was called with (`run_introduced`); no operation compares it with the credentials.
-/

namespace PqsecDds.CycloneDDS

open Lib Context

variable {κ ρ : Type} {env : Env κ ρ} {amb : Ambient ρ} {s s' : Authentication κ} {h l r a : Handle} {op : Op}
variable {c c' : Context κ} {m t : Token} {type : HandshakeTokenType} {cert : X509} {remote : RemoteIdentityInfo}
variable {tr : Trace (Authentication κ) (Op × Ambient ρ)}

/-! ## The call that accepts credentials -/

/-- A remote identity without its links and its trigger. -/
def RemoteIdentityInfo.peer (remote : RemoteIdentityInfo) : RemoteIdentityInfo := { remote with linkHash := ∅, timer := 0 }

/-- The call takes in a Request or a Reply, on a handshake with the context `c`. -/
inductive Op.Receives (c : Context κ) : Op → HandshakeTokenType → Token → Prop
  | request {t : Token} {initiator replier : Handle} {pdata : Octets} :
      Receives c (.beginHandshakeReply t initiator replier pdata) .req t
  | reply {t : Token} {h : Handle} (createdIn : c.handshake.createdIn = .createdRequest) :
      Receives c (.processHandshake t h) .reply t

/-- A call on the handshake `h` accepts the credentials of `t` for the remote identity `r`. -/
structure Accredits (env : Env κ ρ) (amb : Ambient ρ) (s : Authentication κ) (op : Op) (h r : Handle)
    (type : HandshakeTokenType) (t : Token) (cert : X509) (c c' : Context κ) : Prop where
  touches : Touches env amb s (exec env s (op, amb)).1 op h c c'
  receives : op.Receives c type t
  remote : c.relation.remoteIdentity = r
  credentials : AcceptedCredentials env amb s.trustedCaList t c.localIdentity cert
  stored : c'.remoteIdentity = c.remoteIdentity.accepted t cert c.localIdentity.kagreeAlgoKind

theorem makeRequest_remoteIdentity {optional : Bool} {certData pdata : Octets} {rx : Except Stop Token}
    (hrun : makeRequest env amb optional certData pdata c = (rx, c')) : c'.remoteIdentity = c.remoteIdentity :=
  congrArg Prod.fst (makeRequest_same.result hrun)

theorem processToken_replier_remoteIdentity {optional : Bool} {trusted : List X509}
    {rx : Except Stop (HandshakeResult × Int)} (hstep : c.handshake.createdIn = .createdReply)
    (hrun : processToken env amb optional trusted m c = (rx, c')) : c'.remoteIdentity = c.remoteIdentity := by
  have h := congrArg Context.remoteIdentity (processToken_replier hstep hrun)
  exact h

/-- A certificate that is stored after a call was stored before it with the same credentials, or the call accepted it. -/
theorem Effect.accredited (he : Effect env amb s op (exec env s (op, amb)).1)
    (hr : (exec env s (op, amb)).1.remoteIdentity r = some remote) (hcert : remote.identityCert = some cert) :
    (∃ old, s.remoteIdentity r = some old ∧ remote.peer = old.peer) ∨
      ∃ h type t c c', Accredits env amb s op h r type t cert c c' ∧ remote.peer = c'.remoteIdentity.peer := by
  have houtcome : ∀ {h c c' type t}, Touches env amb s (exec env s (op, amb)).1 op h c c' → op.Receives c type t →
      c.relation.remoteIdentity = r → CredentialsOutcome env amb s.trustedCaList t c c'.remoteIdentity →
      c'.remoteIdentity.identityCert = some cert → Accredits env amb s op h r type t cert c c' := by
    intro h c c' type t ht hrec hremote hout hcert'
    cases hout with
    | rejected hnone =>
      rw [hnone] at hcert'
      cases hcert'
    | accepted cert' hacc heq =>
      have hsame : some cert' = some cert := by
        rw [heq] at hcert'
        exact hcert'
      obtain rfl := Option.some.inj hsame
      exact ⟨ht, hrec, hremote, hacc, heq⟩
  rcases he.remoteIdentity_cases hr with ⟨old, linkHash, timer, hold, rfl⟩ | ⟨_, _, _, _, linkHash, -, -, rfl⟩ |
    ⟨h, c, c', timer, ht, hremote, rfl⟩
  · exact .inl ⟨old, hold, rfl⟩
  · cases hcert
  · have hpoints := ht.points
    have hbefore : s.remoteIdentity r = some c.remoteIdentity := by
      rw [← hremote]
      exact hpoints.remoteIdentity
    have hsame : c'.remoteIdentity = c.remoteIdentity →
        ∃ old, s.remoteIdentity r = some old ∧ { c'.remoteIdentity with timer := timer }.peer = old.peer := by
      intro heq
      exact ⟨_, hbefore, by rw [heq]; rfl⟩
    cases ht with
    | request ha hrx on => exact .inl (hsame (makeRequest_remoteIdentity on.run))
    | reply ha hrx on =>
      exact .inr ⟨h, .req, _, c, c', houtcome (.reply ha hrx on) .request hremote (makeReply_credentials on.run) hcert, rfl⟩
    | process ha hrx on =>
      rcases hstep : c.handshake.createdIn with _ | _
      · exact .inr ⟨h, .reply, _, c, c', houtcome (.process ha hrx on) (.reply hstep) hremote
          (processToken_credentials hstep on.run) hcert, rfl⟩
      · exact .inl (hsame (processToken_replier_remoteIdentity hstep on.run))

/-! ## Runs -/

/-- The credentials of the remote identity `r` are those of `t`, which a call of the run accepted with `cert`. -/
def Accredited (env : Env κ ρ) (tr : Trace (Authentication κ) (Op × Ambient ρ)) (r : Handle) (remote : RemoteIdentityInfo)
    (t : Token) (cert : X509) : Prop :=
  ∃ s₀ op amb h type c c', (s₀, op, amb) ∈ tr ∧ Accredits env amb s₀ op h r type t cert c c' ∧
    remote.peer = c'.remoteIdentity.peer

theorem run_accredited (hr : Run (plugin env).solo tr s) : ∀ r remote cert, s.remoteIdentity r = some remote →
    remote.identityCert = some cert → ∃ t, Accredited env tr r remote t cert := by
  refine hr.inv (I := fun tr s => ∀ r remote cert, s.remoteIdentity r = some remote →
    remote.identityCert = some cert → ∃ t, Accredited env tr r remote t cert) ?_ ?_
  · rintro s ⟨optional, kem, rfl⟩ r remote cert hr
    cases hr
  · rintro tr s ⟨op, amb⟩ s' - ih ⟨-, rfl⟩ r remote cert hr hcert
    have he : Effect env amb s op _ := exec_effect s op amb
    rcases he.accredited hr hcert with ⟨old, hold, hpeer⟩ | ⟨h, type, t, c, c', hacc, hpeer⟩
    · have hcert' : old.identityCert = some cert := by
        have hsame := congrArg RemoteIdentityInfo.identityCert hpeer
        exact hsame.symm.trans hcert
      obtain ⟨t, s₀, op₀, amb₀, h, type, c, c', hmem, hacc, hpeer'⟩ := ih r old cert hold hcert'
      exact ⟨t, s₀, op₀, amb₀, h, type, c, c', List.mem_cons_of_mem _ hmem, hacc, hpeer.trans hpeer'⟩
    · exact ⟨t, s, op, amb, h, type, c, c', List.mem_cons_self, hacc, hpeer⟩

/-- `validate_remote_identity` was called with this GUID. -/
def Introduced (tr : Trace (Authentication κ) (Op × Ambient ρ)) (guid : Guid) : Prop :=
  ∃ s₀ request l token amb, (s₀, .validateRemoteIdentity request l token guid, amb) ∈ tr

theorem run_introduced (hr : Run (plugin env).solo tr s) : ∀ r remote, s.remoteIdentity r = some remote →
    Introduced tr remote.guid := by
  refine hr.inv (I := fun tr s => ∀ r remote, s.remoteIdentity r = some remote → Introduced tr remote.guid) ?_ ?_
  · rintro s ⟨optional, kem, rfl⟩ r remote hr
    cases hr
  · rintro tr s ⟨op, amb⟩ s' - ih ⟨-, rfl⟩ r remote hr
    have hold : ∀ old, s.remoteIdentity r = some old → remote.guid = old.guid → Introduced ((s, op, amb) :: tr) remote.guid := by
      intro old hold hguid
      obtain ⟨s₀, request, l, token, amb₀, hmem⟩ := ih r old hold
      rw [hguid]
      exact ⟨s₀, request, l, token, amb₀, List.mem_cons_of_mem _ hmem⟩
    have he : Effect env amb s op _ := exec_effect s op amb
    rcases he.remoteIdentity_cases hr with ⟨old, linkHash, timer, ho, rfl⟩ | ⟨request, l, token, guid, linkHash, rfl, -, rfl⟩ |
      ⟨h, c, c', timer, ht, rfl, rfl⟩
    · exact hold old ho rfl
    · exact ⟨s, request, l, token, amb, List.mem_cons_self⟩
    · exact hold _ ht.points.remoteIdentity ht.frame.guid

/-! ## The names of a peer -/

/-- The participant data that a token authenticates: a Reply brings it, for a Final it is that of the Request. -/
def Context.peerPdata (inp : Token) (c : Context κ) : Octets :=
  match c.handshake.createdIn with
  | .createdRequest => inp.value "c.pdata"
  | .createdReply => c.remoteIdentity.pdata

/-- The certificate derives the GUID, and the participant data has it as its key. -/
structure Names (env : Env κ ρ) (guid : Guid) (cert : X509) (pdata : Octets) : Prop where
  subject : ∃ name, cert.subject = some name ∧ guid.guidPrefix.1.take 6 = subjectPrefix env name.der
  participant : env.participantKey pdata = some guid.guidPrefix

/-- Accepted participant data has the six octets of the certificate in its key. -/
theorem validatePdata_ok {pdata : Octets} {u : Unit} (hv : validatePdata env amb pdata cert = .ok u) :
    ∃ key name, env.participantKey pdata = some key ∧ cert.subject = some name ∧ key.1.take 6 = subjectPrefix env name.der := by
  simp only [validatePdata, getAdjustedParticipantGuid, getSubjectNameDerEncoded, bind_ok, need_ok, require_ok, pure_ok,
    decide_eq_true_eq] at hv
  obtain ⟨key, hkey, aguid, ⟨subject, hsubject, rfl⟩, htake⟩ := hv
  rcases hname : cert.subject with _ | name
  · rw [hname] at hsubject
    cases hsubject
  · rw [hname] at hsubject
    simp only at hsubject
    split at hsubject
    · cases hsubject
    · obtain rfl := Except.ok.inj hsubject
      refine ⟨key, name, hkey, rfl, ?_⟩
      rw [htake, adjustedPrefix, List.take_left' (subjectPrefix_length env name.der)]

theorem names_iff {pdata : Octets} {guid : Guid} (hv : validatePdata env amb pdata cert = .ok ()) :
    Names env guid cert pdata ↔ env.participantKey pdata = some guid.guidPrefix := by
  refine ⟨fun hn => hn.participant, fun hkey => ?_⟩
  obtain ⟨key, name, hkey', hname, htake⟩ := validatePdata_ok hv
  obtain rfl := Option.some.inj (hkey'.symm.trans hkey)
  exact ⟨⟨name, hname, htake⟩, hkey⟩

/-- The participant data of an accepted token was checked against the certificate it authenticates. -/
theorem processToken_pdata {optional : Bool} {v : HandshakeResult × Int} (hr : Run (plugin env).solo tr s) (hp : Points s c)
    (hrun : processToken env amb optional s.trustedCaList m c = (.ok v, c')) (hcert : c.peerCertificate env m = some cert) :
    c'.remoteIdentity.pdata = c.peerPdata m ∧ ∃ amb₀, validatePdata env amb₀ (c.peerPdata m) cert = .ok () := by
  obtain ⟨result, certExp⟩ := v
  rcases processToken_ok hrun with
    ⟨out, signed, cert', key, keypair, ss, -, hstep, c₁, hacc, c₂, hfin, hdone⟩ | ⟨-, cert', key, hstep, hacc, hdone⟩
  · obtain ⟨⟨ss', challenge1, challenge2, -, -, -, rfl⟩, -⟩ := hdone
    obtain rfl := hfin.state
    obtain ⟨x, -, rfl⟩ := hacc.state
    have hread : c.peerCertificate env m = some cert' := by
      simp only [peerCertificate, hstep]
      exact loadX509CertificateFromBinprop_ok hacc.credentials.loaded
    obtain rfl := Option.some.inj (hread.symm.trans hcert)
    simp only [peerPdata, hstep]
    refine ⟨?_, amb, hacc.credentials.pdata⟩
    change (c.accepted env m .reply cert' x).remoteIdentity.pdata = _
    rw [accepted_remoteIdentity]
    rfl
  · simp only [peerCertificate, hstep] at hcert
    simp only [peerPdata, hstep]
    refine ⟨by rw [processToken_replier_remoteIdentity hstep hrun], ?_⟩
    obtain ⟨t, s₀, op, amb₀, h, type, c₀, c₁, -, hacc₀, hpeer⟩ := run_accredited hr _ _ cert hp.remoteIdentity hcert
    have hpdata := congrArg RemoteIdentityInfo.pdata hpeer
    refine ⟨amb₀, ?_⟩
    rw [show c.remoteIdentity.pdata = c₁.remoteIdentity.pdata from hpdata, hacc₀.stored]
    exact hacc₀.credentials.pdata

/-- **The certificate and the GUID of a peer.** When `process_handshake` accepts a token, the participant data of the peer
was checked against the certificate that authenticated it. Both belong to the GUID under which the remote identity was
introduced exactly if that GUID is the key of the participant data. -/
theorem certificate_names_guid (env : Env κ ρ) {tr : Trace (Authentication κ) (Op × Ambient ρ)} {s s' : Authentication κ}
    (hr : Run (plugin env).solo tr s) {amb : Ambient ρ} {m : Token} {h : Handle} {result : HandshakeResult}
    (hrun : processHandshake env amb m h s = (.ok result, s')) :
    ∃ c c' cert key, s.context h = some c ∧ s'.context h = some c' ∧ c.peerCertificate env m = some cert ∧
      Verified env c' (c'.transcript s.includeOptional m) (m.value "signature") cert key ∧
      c'.remoteIdentity.guid = c.remoteIdentity.guid ∧ c'.remoteIdentity.pdata = c.peerPdata m ∧
      Introduced tr c.remoteIdentity.guid ∧
      (Names env c'.remoteIdentity.guid cert c'.remoteIdentity.pdata ↔
        env.participantKey (c.peerPdata m) = some c.remoteIdentity.guid.guidPrefix) := by
  rcases processHandshake_cases hrun (by simp) with ⟨⟨e, he⟩, -⟩ | ⟨c, c', rx, hres, hon⟩
  · cases he
  rcases rx with e | v
  · cases hres
  obtain ⟨timer, hcontext⟩ := hon.context
  obtain ⟨cert, hcert, hstored, -⟩ := processToken_certificate hon.run
  obtain ⟨x, hacc⟩ := processToken_accepted hon.run
  obtain ⟨cert', key, hv⟩ := hacc.verified
  obtain rfl := Option.some.inj (hstored.symm.trans hv.stored)
  have hframe : c.Frame c' := processToken_frame.result hon.run
  obtain ⟨hpdata, amb₀, hvalid⟩ := processToken_pdata hr hon.points hon.run hcert
  refine ⟨c, _, cert, key, context_eq_some.2 ⟨hon.handshake, hon.points⟩, hcontext, hcert,
    ⟨hv.stored, hv.pubkey, hv.canSign, hv.verify⟩, hframe.guid, hpdata, run_introduced hr _ _ hon.points.remoteIdentity, ?_⟩
  change Names env c'.remoteIdentity.guid cert c'.remoteIdentity.pdata ↔ _
  rw [hframe.guid, hpdata]
  exact names_iff hvalid

/-! ## A peer under another name

Alice introduces the remote identity with the GUID of 7, and Bob, who is 5, completes the handshake. -/

namespace Ideal

def misnamed : State := after start [localCall 3, remoteCall none 7, requestCall 10 3]

/-- The GUID of the remote identity, what the certificate in the Reply derives, and the participant key next to it. -/
structure NamesOf where
  guid : Guid
  derived : Option Octets
  key : Option (Bytes 12)
  deriving DecidableEq

def namesOf (s : State) : Option NamesOf := (s.context 10).map fun c =>
  ⟨c.remoteIdentity.guid, (c.peerCertificate Ideal.env reply).bind fun cert => cert.subject.map fun name =>
    subjectPrefix Ideal.env name.der, Ideal.env.participantKey (c.peerPdata reply)⟩

theorem namesOf_some {s : State} {g : Guid} {der : Octets} {key : Bytes 12}
    (hn : namesOf s = some ⟨g, some der, some key⟩) :
    ∃ c cert name, s.context 10 = some c ∧ c.remoteIdentity.guid = g ∧ c.peerCertificate Ideal.env reply = some cert ∧
      cert.subject = some name ∧ subjectPrefix Ideal.env name.der = der ∧
      Ideal.env.participantKey (c.peerPdata reply) = some key := by
  obtain ⟨c, hc, heq⟩ := Option.map_eq_some_iff.1 hn
  obtain ⟨hguid, hderived, hkey⟩ := NamesOf.mk.inj heq
  obtain ⟨cert, hcert, hsubject⟩ := Option.bind_eq_some_iff.1 hderived
  obtain ⟨name, hname, hder⟩ := Option.map_eq_some_iff.1 hsubject
  exact ⟨c, cert, name, hc, hguid, hcert, hname, hder, hkey⟩

/-- The names of 5 in the tokens, with the GUID of the remote identity. -/
def bobUnder (g : Guid) : NamesOf := ⟨g, some ((guid 5).guidPrefix.1.take 6), some (guid 5).guidPrefix⟩

theorem names_facts : namesOf misnamed = some (bobUnder (guid 7)) ∧ namesOf awaiting = some (bobUnder (guid 5)) ∧
    (processHandshake Ideal.env (ambient 11) reply 10 misnamed).1.isOk ∧
    (guid 7).guidPrefix.1.take 6 ≠ (guid 5).guidPrefix.1.take 6 ∧ (guid 5).guidPrefix ≠ (guid 7).guidPrefix := by
  decide +kernel

end Ideal

/-- Alice accepts the Reply, though neither the certificate nor the participant data in it has the GUID. -/
theorem certificate_names_guid_fails : ∃ tr s s' m h amb result c cert name,
    Run (plugin Ideal.env).solo tr s ∧ processHandshake Ideal.env amb m h s = (.ok result, s') ∧ s.context h = some c ∧
    c.peerCertificate Ideal.env m = some cert ∧ cert.subject = some name ∧
    c.remoteIdentity.guid.guidPrefix.1.take 6 ≠ subjectPrefix Ideal.env name.der ∧
    Ideal.env.participantKey (c.peerPdata m) ≠ some c.remoteIdentity.guid.guidPrefix := by
  obtain ⟨hnames, -, hok, hprefix, hkey⟩ := Ideal.names_facts
  obtain ⟨c, cert, name, hc, hguid, hcert, hname, hder, hparticipant⟩ := Ideal.namesOf_some hnames
  rcases hrun : processHandshake Ideal.env (Ideal.ambient 11) Ideal.reply 10 Ideal.misnamed with ⟨res, s'⟩
  rw [hrun] at hok
  cases res with
  | error e => cases hok
  | ok result =>
    refine ⟨_, _, s', _, 10, _, result, c, cert, name, Ideal.calls_run true .mlKem512 _, hrun, hc, hcert, hname, ?_, ?_⟩
    · rw [hguid, hder]
      exact hprefix
    · rw [hguid, hparticipant]
      intro heq
      exact hkey (Option.some.inj heq)

theorem certificate_names_guid_sample : ∃ c cert, Ideal.completed.context 10 = some c ∧
    Names Ideal.env c.remoteIdentity.guid cert c.remoteIdentity.pdata := by
  obtain ⟨-, hnames, -⟩ := Ideal.names_facts
  obtain ⟨c₀, -, -, hc₀, hguid, -, -, -, hparticipant⟩ := Ideal.namesOf_some hnames
  obtain ⟨result, hrun⟩ := Ideal.completed_ok
  obtain ⟨c, c', cert, key, hc, hc', -, -, -, -, -, hiff⟩ := certificate_names_guid Ideal.env
    (Ideal.calls_run true .mlKem512 Ideal.initiatorCalls.dropLast) hrun
  obtain rfl := Option.some.inj (hc₀.symm.trans hc)
  refine ⟨c', cert, hc', hiff.2 ?_⟩
  rw [hguid]
  exact hparticipant

end PqsecDds.CycloneDDS
