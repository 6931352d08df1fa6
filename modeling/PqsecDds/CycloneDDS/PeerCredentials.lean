import PqsecDds.CycloneDDS.Credentials
import PqsecDds.CycloneDDS.Signatures
import PqsecDds.CycloneDDS.Trust

/-!
# The credentials that handshakes share

All handshakes with a remote identity have one copy of its credentials: a Final is verified with the certificate of the
Request or Reply that was accepted last for any of them (`LastAccepted`), and `get_authenticated_peer_credential_token`
hands that certificate out. The hash of the credentials is each handshake's own (`HashedFor`).
-/

namespace PqsecDds.CycloneDDS

open Lib Context Authentication

variable {κ ρ : Type} {env : Env κ ρ} {amb : Ambient ρ} {s s' : Authentication κ} {h l r : Handle} {op : Op}
variable {c c' : Context κ} {m t out : Token} {type : HandshakeTokenType} {cert : X509} {remote old : RemoteIdentityInfo}
variable {trusted : List X509}
variable {tr : Trace (Authentication κ) (Op × Ambient ρ)}

/-! ## The token that was accepted last -/

/-- The call accepts credentials for the remote identity. -/
def Accrediting (env : Env κ ρ) (r : Handle) (e : Authentication κ × Op × Ambient ρ) : Prop :=
  ∃ h type t cert c c', Accredits env e.2.2 e.1 e.2.1 h r type t cert c c'

/-- The credentials in `t`, with the certificate `cert`, were accepted last for the remote identity `r`; it was `old`
before. -/
def LastAccepted (env : Env κ ρ) (tr : Trace (Authentication κ) (Op × Ambient ρ)) (r : Handle)
    (remote old : RemoteIdentityInfo) (t : Token) (cert : X509) : Prop :=
  ∃ later s₀ op amb earlier h type c c', tr = later ++ (s₀, op, amb) :: earlier ∧
    Accredits env amb s₀ op h r type t cert c c' ∧ old = c.remoteIdentity ∧ remote.peer = c'.remoteIdentity.peer ∧
    ∀ e ∈ later, ¬ Accrediting env r e

theorem Accredits.peer (hacc : Accredits env amb s op h r type t cert c c')
    (hr : (exec env s (op, amb)).1.remoteIdentity r = some remote) : remote.peer = c'.remoteIdentity.peer := by
  obtain ⟨timer, left, -, hm⟩ := hacc.touches.moved
  rw [hm.remoteIdentity, if_pos hacc.remote.symm] at hr
  obtain rfl := Option.some.inj hr
  rfl

theorem run_lastAccepted (hr : Run (plugin env).solo tr s) : ∀ r remote cert, s.remoteIdentity r = some remote →
    remote.identityCert = some cert → ∃ old t, LastAccepted env tr r remote old t cert := by
  refine hr.inv (I := fun tr s => ∀ r remote cert, s.remoteIdentity r = some remote →
    remote.identityCert = some cert → ∃ old t, LastAccepted env tr r remote old t cert) ?_ ?_
  · rintro s ⟨optional, kem, rfl⟩ r remote cert hr
    cases hr
  · rintro tr s ⟨op, amb⟩ s' - ih ⟨-, rfl⟩ r remote cert hr hcert
    by_cases hacc : Accrediting env r (s, op, amb)
    · obtain ⟨h, type, t, cert', c, c', hacc⟩ := hacc
      have hpeer : remote.peer = c'.remoteIdentity.peer := hacc.peer hr
      have hsame : some cert' = some cert := by
        have h₁ := congrArg RemoteIdentityInfo.identityCert hpeer
        rw [← hcert]
        rw [hacc.stored] at h₁
        exact h₁.symm
      obtain rfl := Option.some.inj hsame
      exact ⟨_, t, [], s, op, amb, tr, h, type, c, c', rfl, hacc, rfl, hpeer, by simp⟩
    · have he : Effect env amb s op _ := exec_effect s op amb
      rcases he.accredited hr hcert with ⟨before, hbefore, hpeer⟩ | ⟨h, type, t, c, c', hacc', -⟩
      · have hcert' : before.identityCert = some cert := by
          have hsame := congrArg RemoteIdentityInfo.identityCert hpeer
          exact hsame.symm.trans hcert
        obtain ⟨old, t, later, s₀, op₀, amb₀, earlier, h, type, c, c', rfl, hacc', hold, hpeer', hlast⟩ :=
          ih r before cert hbefore hcert'
        refine ⟨old, t, (s, op, amb) :: later, s₀, op₀, amb₀, earlier, h, type, c, c', rfl, hacc', hold,
          hpeer.trans hpeer', fun e he => ?_⟩
        rcases List.mem_cons.1 he with rfl | he
        · exact hacc
        · exact hlast e he
      · exact absurd ⟨h, type, t, cert, c, c', hacc'⟩ hacc

theorem LastAccepted.certificate (hlast : LastAccepted env tr r remote old t cert) :
    env.pemReadX509 (t.value "c.id") = some cert := by
  obtain ⟨_, _, _, _, _, _, _, _, _, -, hacc, -⟩ := hlast
  exact loadX509CertificateFromBinprop_ok hacc.credentials.loaded

theorem LastAccepted.stored (hlast : LastAccepted env tr r remote old t cert) :
    remote.identityCert = some cert ∧ remote.permissionsDocument =
      if (t.value "c.perm").isEmpty then old.permissionsDocument else stringFromData (t.value "c.perm") := by
  obtain ⟨_, _, _, _, _, _, _, c, c', -, hacc, rfl, hpeer, -⟩ := hlast
  rw [hacc.stored] at hpeer
  have hcert := congrArg RemoteIdentityInfo.identityCert hpeer
  have hdocument := congrArg RemoteIdentityInfo.permissionsDocument hpeer
  exact ⟨hcert, hdocument⟩

/-! ## The token that was hashed -/

/-- The hash of the peer's credentials in the transcript. -/
def Context.peerHash (c : Context κ) : HashValue :=
  match c.handshake.createdIn with
  | .createdRequest => c.handshake.hashC2
  | .createdReply => c.handshake.hashC1

/-- A call on the handshake `h` of the local identity `l` found the credentials in `t` in order, with the certificate `cert`
and in the state `s₀`; `h` is live since. -/
def CheckedFor (env : Env κ ρ) (tr : Trace (Authentication κ) (Op × Ambient ρ)) (h l : Handle) (t : Token) (cert : X509)
    (s₀ : Authentication κ) (earlier : Trace (Authentication κ) (Op × Ambient ρ)) : Prop :=
  ∃ later op amb type c c', tr = later ++ (s₀, op, amb) :: earlier ∧
    Touches env amb s₀ (exec env s₀ (op, amb)).1 op h c c' ∧ op.Receives c type t ∧ c.relation.localIdentity = l ∧
    AcceptedCredentials env amb s₀.trustedCaList t c.localIdentity cert ∧ ∀ e ∈ later, (e.1.handshake h).isSome

/-- The handshake holds the hash of the credentials in `t`, which were checked for it. -/
def HashedFor (env : Env κ ρ) (tr : Trace (Authentication κ) (Op × Ambient ρ)) (h : Handle) (c : Context κ) (t : Token) :
    Prop :=
  (∃ cert s₀ earlier, CheckedFor env tr h c.relation.localIdentity t cert s₀ earlier) ∧ c.peerHash = credentialHash env t

/-- A call of `begin_handshake_request` was on the handshake `h`. -/
def Rerequested (env : Env κ ρ) (tr : Trace (Authentication κ) (Op × Ambient ρ)) (h : Handle) : Prop :=
  ∃ s₀ l r pdata amb c c', (s₀, .beginHandshakeRequest l r pdata, amb) ∈ tr ∧
    Touches env amb s₀ (exec env s₀ (.beginHandshakeRequest l r pdata, amb)).1 (.beginHandshakeRequest l r pdata) h c c'

theorem CheckedFor.later {s₀ : Authentication κ} {earlier : Trace (Authentication κ) (Op × Ambient ρ)}
    (hchecked : CheckedFor env tr h l t cert s₀ earlier) (hh : (s.handshake h).isSome) :
    CheckedFor env ((s, op, amb) :: tr) h l t cert s₀ earlier := by
  obtain ⟨later, op₀, amb₀, type, c, c', rfl, ht, hreceives, hl, hacc, hlive⟩ := hchecked
  refine ⟨(s, op, amb) :: later, op₀, amb₀, type, c, c', rfl, ht, hreceives, hl, hacc, fun e he => ?_⟩
  rcases List.mem_cons.1 he with rfl | he
  · exact hh
  · exact hlive e he

theorem HashedFor.later (hhashed : HashedFor env tr h c t) (hh : (s.handshake h).isSome)
    (hlocal : c'.relation.localIdentity = c.relation.localIdentity) (hhash : c'.peerHash = c.peerHash) :
    HashedFor env ((s, op, amb) :: tr) h c' t := by
  obtain ⟨⟨cert, s₀, earlier, hchecked⟩, hsame⟩ := hhashed
  refine ⟨⟨cert, s₀, earlier, ?_⟩, hhash.trans hsame⟩
  rw [hlocal]
  exact hchecked.later hh

theorem readCredentials_accepted (hread : c.readCredentials env amb trusted m type = .ok cert) :
    AcceptedCredentials env amb trusted m c.localIdentity cert := by
  simp only [readCredentials, readCertificate, bind_ok, require_ok, pure_ok, decide_eq_true_eq] at hread
  obtain ⟨cert', ⟨_, -, cId, hid, hload⟩, _, -, cPdata, hpdata, _, hvalid, cDsign, hdsign, _, hknown, _, hkind, cKagree,
    hkagree, _, -, _, hlocal, rfl⟩ := hread
  obtain ⟨rfl, -⟩ := findRequiredNonemptyBinprop_ok hid
  obtain ⟨rfl, -⟩ := findRequiredBinprop_ok hpdata
  obtain ⟨rfl, -⟩ := findRequiredNonemptyBinprop_ok hdsign
  obtain ⟨rfl, -⟩ := findRequiredNonemptyBinprop_ok hkagree
  refine ⟨hload, hvalid, hkind, ?_, hlocal⟩
  rw [← hkind]
  exact hknown

/-- A Request that is not answered leaves the hash, or its credentials are in order and hashed. -/
theorem makeReply_hash {optional : Bool} {pdata : Octets} {rx : Except Stop (Token × Signed)}
    (hrun : makeReply env amb optional trusted m pdata c = (rx, c')) :
    (c'.handshake.hashC1 = c.handshake.hashC1 ∧ ∃ e, rx = .error e) ∨ c'.handshake.hashC1 = credentialHash env m ∧
      ∃ cert, AcceptedCredentials env amb trusted m c.localIdentity cert := by
  rcases Act.bind_eq.1 hrun with ⟨e, hv, rfl⟩ | ⟨_, c₁, hv, ha⟩
  · have hhashed : ∀ {cert}, (c.withCredentials env m .req cert).handshake.hashC1 = credentialHash env m := by
      intro cert
      simp only [withCredentials, setHash]
    cases validateHandshakeToken_leaves (by decide) hv with
    | nothing unread => exact .inl ⟨rfl, e, rfl⟩
    | certificate read missing => exact .inl ⟨rfl, e, rfl⟩
    | permissions read found rejected =>
      refine .inl ⟨?_, e, rfl⟩
      rw [show ∀ c : Context κ, (c.setIdentityCert none).handshake = c.handshake from fun _ => rfl,
        setPermissionsDocument_handshake]
    | credentials read rejected => exact .inr ⟨hhashed, _, readCredentials_accepted read⟩
    | challenge read readRchallenge pinned rejected => exact .inr ⟨hhashed, _, readCredentials_accepted read⟩
    | algorithms reply => cases reply
  · obtain ⟨cert, hacc⟩ := validateRequest_ok hv
    obtain ⟨x, -, rfl⟩ := hacc.state
    have hsame := congrArg (fun x : RemoteIdentityInfo × IdentityRelation × HandshakeInfo κ => x.2.2.hashC1)
      (answerRequest_same.result ha)
    refine .inr ⟨?_, cert, hacc.credentials⟩
    change c'.handshake.hashC1 = (c.accepted env m .req cert x).handshake.hashC1 at hsame
    rw [hsame, accepted_handshake_req]

/-- A handshake that is there afterwards is between the identities it was between. -/
theorem Effect.ends_kept (he : Effect env amb s op s') (hs : Referential s) (hc : s.context h = some c)
    (hc' : s'.context h = some c') :
    c'.relation.localIdentity = c.relation.localIdentity ∧ c'.relation.remoteIdentity = c.relation.remoteIdentity := by
  obtain ⟨hh, hp⟩ := context_eq_some.1 hc
  obtain ⟨hh', hp'⟩ := context_eq_some.1 hc'
  have hlinks : s.graph.Links h c.handshake.relation c.relation.localIdentity c.relation.remoteIdentity :=
    ⟨by simp [Authentication.graph, hh], by simp [Authentication.graph, hp.relation]⟩
  by_cases hend : op.Ends h c.relation.localIdentity c.relation.remoteIdentity
  · cases he with
    | same => simp [Option.some.inj (hc.symm.trans hc')]
    | handshakeReturned handshake =>
      have hsame : _ = h := hend
      simp [hsame] at hh'
    | @identityReturned x obj lookup identity =>
      have hshrunk := Shrunk.returnIdentity s x obj
      have hold := hshrunk.handshake h _ hh'
      obtain hsame := Option.some.inj (hh.symm.trans hold)
      have hrelation := hshrunk.relation _ _ hp'.relation
      rw [← hsame] at hrelation
      simp [Option.some.inj (hp.relation.symm.trans hrelation)]
    | _ => exact False.elim hend
  · have hkept := he.links hs.sound hend hlinks
    have hrelation : c'.handshake.relation = c.handshake.relation := by
      have h₁ := hkept.relationOf
      simpa [Authentication.graph, hh'] using h₁
    have hpair := hkept.pair
    rw [← hrelation] at hpair
    simpa [Authentication.graph, hp'.relation] using hpair

/-- What a call on a handshake leaves of it. -/
theorem Touches.context (ht : Touches env amb s s' op h c c') (hh : (s'.handshake h).isSome) :
    ∃ timer, s'.context h = some { c' with remoteIdentity.timer := timer } := by
  obtain ⟨timer, left, hleft, hm⟩ := ht.moved
  obtain ⟨hs, hs'⟩ := Option.isSome_iff_exists.1 hh
  have hl : left = some hs := by
    rw [hm.handshake, if_pos rfl] at hs'
    exact hs'
  obtain rfl := hleft hs hl
  have hframe := ht.frame
  refine ⟨timer, context_eq_some.2 ⟨hs', ?_, ?_, ?_⟩⟩
  · rw [hm.relation, if_pos hframe.relation]
  · rw [hm.localIdentity, if_pos hframe.localHandle]
  · rw [hm.remoteIdentity, if_pos hframe.remoteHandle]

/-- What a call on a handshake that was made for a Request does to the hash of the Request. -/
theorem Touches.hash_cases (ht : Touches env amb s s' op h c c') (hh : (s'.handshake h).isSome)
    (hcreated : c.handshake.createdIn = .createdReply) :
    (s.handshake h = some c.handshake ∧ c'.handshake.hashC1 = c.handshake.hashC1) ∨
      (∃ l r pdata, op = .beginHandshakeRequest l r pdata) ∨
      ∃ t cert, op.Receives c .req t ∧ AcceptedCredentials env amb s.trustedCaList t c.localIdentity cert ∧
        c'.handshake.hashC1 = credentialHash env t := by
  cases ht with
  | request ha hrx on => exact .inr (.inl ⟨_, _, _, rfl⟩)
  | @reply inp l r _ pdata _ _ rx ha hrx on =>
    rcases makeReply_hash on.run with ⟨hsame, e, rfl⟩ | ⟨hhash, cert, hacc⟩
    · rcases on.source with ⟨handshake, -, -⟩ | ⟨-, -, handshake⟩
      · exact .inl ⟨handshake, hsame⟩
      · have hnone : s.handshake amb.object = none := handshake_fresh ha
        rw [on.moved.handshake, if_pos rfl] at hh
        simp [remaining, hnone, Except.isOk, Except.toBool] at hh
    · exact .inr (.inr ⟨inp, cert, .request, hacc, hhash⟩)
  | process ha hrx on =>
    have hsame := congrArg (fun c : Context κ => c.handshake.hashC1) (processToken_replier hcreated on.run)
    exact .inl ⟨on.handshake, hsame⟩

/-- A handshake that was made for a Request holds the hash of a Request, unless it was used for a Request of its own. -/
theorem run_hashed (hr : Run (plugin env).solo tr s) : ∀ h c, s.context h = some c →
    c.handshake.createdIn = .createdReply → Rerequested env tr h ∨ ∃ t, HashedFor env tr h c t := by
  refine hr.inv (I := fun tr s => ∀ h c, s.context h = some c → c.handshake.createdIn = .createdReply →
    Rerequested env tr h ∨ ∃ t, HashedFor env tr h c t) ?_ ?_
  · rintro s ⟨optional, kem, rfl⟩ h c hc
    cases hc
  · rintro tr s ⟨op, amb⟩ s' hr ih ⟨-, rfl⟩ h c' hc' hcreated
    change (exec env s (op, amb)).1.context h = some c' at hc'
    have he : Effect env amb s op _ := exec_effect s op amb
    obtain ⟨hh', -⟩ := context_eq_some.1 hc'
    have hlive : ((exec env s (op, amb)).1.handshake h).isSome := by simp [hh']
    have hlater : ∀ c, s.context h = some c → c.handshake.createdIn = .createdReply →
        c'.relation.localIdentity = c.relation.localIdentity → c'.peerHash = c.peerHash →
        Rerequested env ((s, op, amb) :: tr) h ∨ ∃ t, HashedFor env ((s, op, amb) :: tr) h c' t := by
      intro c hc hcreated₀ hlocal hhash
      obtain ⟨hh, -⟩ := context_eq_some.1 hc
      rcases ih h c hc hcreated₀ with ⟨s₀, l, r, pdata, amb₀, c₀, c₁, hmem, ht⟩ | ⟨t, hhashed⟩
      · exact .inl ⟨s₀, l, r, pdata, amb₀, c₀, c₁, List.mem_cons_of_mem _ hmem, ht⟩
      · exact .inr ⟨t, hhashed.later (by simp [hh]) hlocal hhash⟩
    rcases he.handshake_cases hh' with hold | ⟨c, c₁, ht, heq⟩
    · obtain ⟨c, hc⟩ := Option.isSome_iff_exists.1 (context_isSome (run_referential hr).sound hold)
      have hsame : c'.handshake = c.handshake := Option.some.inj (hold.symm.trans (context_eq_some.1 hc).1)
      obtain ⟨hlocal, -⟩ := he.ends_kept (run_referential hr) hc hc'
      refine hlater c hc ?_ hlocal ?_
      · rw [← hsame]
        exact hcreated
      · simp only [peerHash, hsame]
    · obtain ⟨timer, hc₁⟩ := ht.context hlive
      obtain rfl := Option.some.inj (hc'.symm.trans hc₁)
      have hframe := ht.frame
      have hcreated₀ : c.handshake.createdIn = .createdReply := hframe.createdIn.symm.trans hcreated
      rcases ht.hash_cases hlive hcreated₀ with
        ⟨hold, hsame⟩ | ⟨l, r, pdata, rfl⟩ | ⟨t, cert, hreceives, hacc, hhash⟩
      · refine hlater c (context_eq_some.2 ⟨hold, ht.points⟩) hcreated₀ hframe.localHandle ?_
        simp only [peerHash, hframe.createdIn, hcreated₀, hsame]
      · exact .inl ⟨s, l, r, pdata, amb, c, c₁, List.mem_cons_self, ht⟩
      · refine .inr ⟨t, ⟨cert, s, tr, [], op, amb, .req, c, c₁, rfl, ht, hreceives, hframe.localHandle.symm, hacc, by simp⟩, ?_⟩
        simp only [peerHash, hframe.createdIn, hcreated₀, hhash]

/-! ## The certificate that verifies -/

/-- The call that accepts a Reply checks its credentials and hashes them. -/
theorem processToken_hash {optional : Bool} {v : HandshakeResult × Int}
    (hrun : processToken env amb optional trusted m c = (.ok v, c')) (hcreated : c.handshake.createdIn = .createdRequest) :
    c'.handshake.hashC2 = credentialHash env m ∧ ∃ cert, AcceptedCredentials env amb trusted m c.localIdentity cert := by
  rcases processToken_ok hrun with ⟨out, signed, cert, key, keypair, ss, -, -, c₁, hacc, c₂, hfin, hdone⟩ | ⟨-, _, _, hstep, -⟩
  · obtain ⟨⟨ss', challenge1, challenge2, -, -, -, rfl⟩, -⟩ := hdone
    obtain rfl := hfin.state
    obtain ⟨x, -, rfl⟩ := hacc.state
    refine ⟨?_, cert, hacc.credentials⟩
    change (c.accepted env m .reply cert x).handshake.hashC2 = credentialHash env m
    rw [accepted_handshake_reply]
  · rw [hcreated] at hstep
    cases hstep

/-- What is known after `process_handshake` accepted a token. -/
structure Processed (env : Env κ ρ) (tr : Trace (Authentication κ) (Op × Ambient ρ)) (s : Authentication κ) (m : Token)
    (h : Handle) (s' : Authentication κ) (c : Context κ) (cert : X509) (key : EvpPkey) : Prop where
  context : s'.context h = some c
  verified : Verified env c (c.transcript s.includeOptional m) (m.value "signature") cert key
  reply : c.handshake.createdIn = .createdRequest → HashedFor env tr h c m ∧ env.pemReadX509 (m.value "c.id") = some cert

theorem processHandshake_processed {result : HandshakeResult} (tr : Trace (Authentication κ) (Op × Ambient ρ))
    (ha : Allocates amb s) (hrun : processHandshake env amb m h s = (.ok result, s')) :
    ∃ c cert key, Processed env ((s, .processHandshake m h, amb) :: tr) s m h s' c cert key := by
  rcases processHandshake_cases hrun (by simp) with ⟨⟨e, he⟩, -⟩ | ⟨c, c', rx, hres, hon⟩
  · cases he
  rcases rx with e | v
  · cases hres
  obtain ⟨timer, hcontext⟩ := hon.context
  obtain ⟨x, hacc⟩ := processToken_accepted hon.run
  obtain ⟨cert, key, hv⟩ := hacc.verified
  have hframe : c.Frame c' := processToken_frame.result hon.run
  refine ⟨_, cert, key, hcontext, ⟨hv.stored, hv.pubkey, hv.canSign, hv.verify⟩, fun hcreated => ?_⟩
  have hcreated₀ : c.handshake.createdIn = .createdRequest := hframe.createdIn.symm.trans hcreated
  obtain ⟨hhash, cert', hchecked⟩ := processToken_hash hon.run hcreated₀
  obtain ⟨cert₁, hread, hstored, -⟩ := processToken_certificate hon.run
  obtain rfl := Option.some.inj (hstored.symm.trans hv.stored)
  simp only [peerCertificate, hcreated₀] at hread
  refine ⟨⟨⟨cert', s, tr, [], _, amb, .reply, c, c', rfl, ?_, .reply hcreated₀, hframe.localHandle.symm, hchecked, by simp⟩, ?_⟩,
    hread⟩
  · rw [exec_processHandshake ha hrun]
    exact .process ha (by simp) hon
  · simp only [peerHash, hframe.createdIn, hcreated₀]
    exact hhash

/-- The certificate was checked for the handshake itself, against the anchors of its own local identity, in the token whose
credentials the handshake holds the hash of. -/
def Isolated (env : Env κ ρ) (tr : Trace (Authentication κ) (Op × Ambient ρ)) (h : Handle) (c : Context κ) (cert : X509) :
    Prop :=
  ∃ t s₀ earlier, CheckedFor env tr h c.relation.localIdentity t cert s₀ earlier ∧
    OwnAnchors env earlier s₀ c.relation.localIdentity ∧ c.peerHash = credentialHash env t

theorem CheckedFor.certificate {s₀ : Authentication κ} {earlier : Trace (Authentication κ) (Op × Ambient ρ)}
    (hchecked : CheckedFor env tr h l t cert s₀ earlier) : env.pemReadX509 (t.value "c.id") = some cert := by
  obtain ⟨_, _, _, _, _, _, -, -, -, -, hacc, -⟩ := hchecked
  exact loadX509CertificateFromBinprop_ok hacc.loaded

theorem CheckedFor.ownAnchors {s₀ : Authentication κ} {earlier : Trace (Authentication κ) (Op × Ambient ρ)}
    (hr : Run (plugin env).solo tr s) (hsep : AllSeparate env tr) (hchecked : CheckedFor env tr h l t cert s₀ earlier) :
    OwnAnchors env earlier s₀ l := by
  obtain ⟨later, op, amb, type, c, c', rfl, ht, -, rfl, -⟩ := hchecked
  obtain ⟨s₁, hr₀, -, -⟩ := hr.split
  refine run_ownAnchors hr₀ (fun s qos candidate amb hmem => ?_) _ ?_
  · exact hsep s qos candidate amb (List.mem_append_right _ (List.mem_cons_of_mem _ hmem))
  · rw [ht.points.localIdentity]
    rfl

/-- **Isolation of handshakes.** `process_handshake` accepted a token for `h`, in a run whose `validate_local_identity`
calls are separate. The certificate that verified the signature is the one of the Request or Reply `t` that was accepted
last for the remote identity, whichever handshake it was for. It was checked for `h` itself exactly if `t` has the
certificate in it that the token hashed for `h` has. For a Reply this is so. -/
theorem handshakes_isolated (env : Env κ ρ) {tr : Trace (Authentication κ) (Op × Ambient ρ)} {s s' : Authentication κ}
    (hr : Run (plugin env).solo tr s) (hsep : AllSeparate env tr) {amb : Ambient ρ} {m : Token} {h : Handle}
    {result : HandshakeResult} (ha : Allocates amb s) (hrun : processHandshake env amb m h s = (.ok result, s')) :
    ∃ c cert key old t, s'.context h = some c ∧
      Verified env c (c.transcript s.includeOptional m) (m.value "signature") cert key ∧
      LastAccepted env ((s, .processHandshake m h, amb) :: tr) c.relation.remoteIdentity c.remoteIdentity old t cert ∧
      (Isolated env ((s, .processHandshake m h, amb) :: tr) h c cert ↔
        ∃ t', HashedFor env ((s, .processHandshake m h, amb) :: tr) h c t' ∧
          env.pemReadX509 (t'.value "c.id") = env.pemReadX509 (t.value "c.id")) ∧
      (c.handshake.createdIn = .createdRequest → Isolated env ((s, .processHandshake m h, amb) :: tr) h c cert) ∧
      (c.handshake.createdIn = .createdReply → Rerequested env tr h ∨
        ∃ t', HashedFor env ((s, .processHandshake m h, amb) :: tr) h c t') := by
  have hr' : Run (plugin env).solo ((s, .processHandshake m h, amb) :: tr) s' := by
    have hcall : (Op.processHandshake m h).call env amb s = (.ok result.signed, s') := Act.bind_ok.2 ⟨result, s', hrun, rfl⟩
    exact hr.step (step_of_ok ha hcall)
  have hsep' : AllSeparate env ((s, .processHandshake m h, amb) :: tr) := by
    intro s₀ qos candidate amb₀ hmem
    rcases List.mem_cons.1 hmem with heq | hmem
    · cases heq
    · exact hsep s₀ qos candidate amb₀ hmem
  obtain ⟨c, cert, key, hp⟩ := processHandshake_processed tr ha hrun
  obtain ⟨-, hpoints⟩ := context_eq_some.1 hp.context
  obtain ⟨old, t, hlast⟩ := run_lastAccepted hr' _ _ cert hpoints.remoteIdentity hp.verified.stored
  have hiff : Isolated env ((s, .processHandshake m h, amb) :: tr) h c cert ↔
      ∃ t', HashedFor env ((s, .processHandshake m h, amb) :: tr) h c t' ∧
        env.pemReadX509 (t'.value "c.id") = env.pemReadX509 (t.value "c.id") := by
    constructor
    · rintro ⟨t', s₀, earlier, hchecked, -, hhash⟩
      exact ⟨t', ⟨⟨cert, s₀, earlier, hchecked⟩, hhash⟩, hchecked.certificate.trans hlast.certificate.symm⟩
    · rintro ⟨t', ⟨⟨cert', s₀, earlier, hchecked⟩, hhash⟩, hsame⟩
      obtain rfl : cert' = cert := Option.some.inj (hchecked.certificate.symm.trans (hsame.trans hlast.certificate))
      exact ⟨t', s₀, earlier, hchecked, hchecked.ownAnchors hr' hsep', hhash⟩
  refine ⟨c, cert, key, old, t, hp.context, hp.verified, hlast, hiff, fun hcreated => ?_, fun hcreated => ?_⟩
  · obtain ⟨hhashed, hread⟩ := hp.reply hcreated
    exact hiff.2 ⟨m, hhashed, hread.trans hlast.certificate.symm⟩
  · rcases run_hashed hr' h c hp.context hcreated with ⟨s₀, l, r, pdata, amb₀, c₀, c₁, hmem, ht⟩ | hhashed
    · rcases List.mem_cons.1 hmem with heq | hmem
      · cases heq
      · exact .inl ⟨s₀, l, r, pdata, amb₀, c₀, c₁, hmem, ht⟩
    · exact .inr hhashed

/-! ## Two local identities and one remote identity

Bob's plugin has the local identities 5 and 6. Both answer a Request of 3, with another certificate in the second. Then the
Final of the first handshake arrives.
-/

namespace Ideal

def secondReply (request : Token) : SampleCall := (.beginHandshakeReply request 2 3 (pdata 6), ambient 20)

def mixedCalls : List SampleCall := bobCalls ++ [replyCall 10 plainRequest 5,
  (.validateLocalIdentity (Ideal.qos 6) (Ideal.candidate 6), ambient 3),
  (.validateRemoteIdentity none 3 identityToken (guid 3), ambient 4), secondReply replacedRequest]

def mixed : State := after plainStart mixedCalls

def mixedTrace : Trace State SampleCall := (plugin Ideal.env).history [] plainStart mixedCalls

theorem calls_separate (optional : Bool) {calls : List SampleCall}
    (hdef : (plugin Ideal.env).Performs { includeOptional := optional, kem := .mlKem512 } calls)
    (hcalls : ∀ call ∈ calls, ∀ qos candidate, call.1 = .validateLocalIdentity qos candidate →
      nonEmpty qos.trustedCaDir = none) :
    AllSeparate Ideal.env ((plugin Ideal.env).history [] { includeOptional := optional, kem := .mlKem512 } calls) := by
  refine (run_separate (calls_run optional .mlKem512 calls hdef) ?_).2
  intro e he
  rcases Machine.mem_history calls he with he | he
  · cases he
  · exact hcalls e.2 he

theorem mixed_separate : AllSeparate Ideal.env mixedTrace := by
  refine calls_separate false (by decide +kernel) ?_
  intro call hcall qos candidate hop
  simp only [mixedCalls, bobCalls, List.cons_append, List.nil_append, List.mem_cons, List.not_mem_nil, or_false] at hcall
  rcases hcall with rfl | rfl | rfl | rfl | rfl | rfl
  all_goals cases hop
  all_goals rfl

theorem mixed_facts : Allocates (ambient 30) mixed ∧
    (processHandshake Ideal.env (ambient 30) plainFinal 10 mixed).1.isOk ∧
    ((processHandshake Ideal.env (ambient 30) plainFinal 10 mixed).2.context 10).map (·.peerHash) =
      some (credentialHash Ideal.env plainRequest) ∧
    ((processHandshake Ideal.env (ambient 30) plainFinal 10 mixed).2.context 10).bind (·.remoteIdentity.identityCert) =
      Ideal.env.pemReadX509 (replacedRequest.value "c.id") ∧
    Ideal.env.pemReadX509 (plainRequest.value "c.id") ≠ Ideal.env.pemReadX509 (replacedRequest.value "c.id") ∧
    Ideal.env.pemReadX509 (plainFinal.value "c.id") = none ∧
    credentialHash Ideal.env plainRequest ≠ credentialHash Ideal.env replacedRequest := by
  decide +kernel

end Ideal

/-- The Request, Reply or Final that a call takes in. -/
def Op.token : Op → Option Token
  | .beginHandshakeReply t _ _ _ => some t
  | .processHandshake t _ => some t
  | _ => none

theorem Op.Receives.token (hreceives : op.Receives c type t) : op.token = some t := by
  cases hreceives <;> rfl

theorem CheckedFor.token {s₀ : Authentication κ} {earlier : Trace (Authentication κ) (Op × Ambient ρ)}
    (hchecked : CheckedFor env tr h l t cert s₀ earlier) : ∃ e ∈ tr, e.2.1.token = some t := by
  obtain ⟨later, op, amb, type, c, c', rfl, -, hreceives, -⟩ := hchecked
  exact ⟨(s₀, op, amb), by simp, hreceives.token⟩

/-- The Final of the first handshake is verified with the certificate that the second Request brought. -/
theorem handshakes_isolated_fails : ∃ tr s s' amb m h result c cert key, Run (plugin Ideal.env).solo tr s ∧
    AllSeparate Ideal.env tr ∧ Allocates amb s ∧ processHandshake Ideal.env amb m h s = (.ok result, s') ∧
    s'.context h = some c ∧ Verified Ideal.env c (c.transcript s.includeOptional m) (m.value "signature") cert key ∧
    ¬ Isolated Ideal.env ((s, .processHandshake m h, amb) :: tr) h c cert := by
  obtain ⟨ha, hok, hhash, hcert, hdiffer, hfinal, hhashes⟩ := Ideal.mixed_facts
  rcases hrun : processHandshake Ideal.env (Ideal.ambient 30) Ideal.plainFinal 10 Ideal.mixed with ⟨res, s'⟩
  rw [hrun] at hok hhash hcert
  cases res with
  | error e => cases hok
  | ok result =>
    obtain ⟨c, cert, key, hp⟩ := processHandshake_processed Ideal.mixedTrace ha hrun
    refine ⟨Ideal.mixedTrace, _, s', _, _, 10, result, c, cert, key, Ideal.calls_run false .mlKem512 Ideal.mixedCalls,
      Ideal.mixed_separate, ha, hrun, hp.context, hp.verified, ?_⟩
    rw [hp.context] at hhash hcert
    have hstored : some cert = Ideal.env.pemReadX509 (Ideal.replacedRequest.value "c.id") :=
      hp.verified.stored.symm.trans hcert
    rintro ⟨t, s₀, earlier, hchecked, -, hpeer⟩
    have hread := hchecked.certificate
    have hpeer' : credentialHash Ideal.env t = credentialHash Ideal.env Ideal.plainRequest :=
      hpeer.symm.trans (Option.some.inj hhash)
    obtain ⟨e, he, htoken⟩ := hchecked.token
    rcases List.mem_cons.1 he with rfl | he
    · rw [← Option.some.inj htoken, hfinal] at hread
      cases hread
    · rcases Machine.mem_history _ he with he | he
      · cases he
      · have hmem : some t ∈ Ideal.mixedCalls.map (·.1.token) := List.mem_map.2 ⟨e.2, he, htoken⟩
        have hcalls : Ideal.mixedCalls.map (·.1.token) =
            [none, none, some Ideal.plainRequest, none, none, some Ideal.replacedRequest] := rfl
        rw [hcalls] at hmem
        simp only [List.mem_cons, reduceCtorEq, Option.some.injEq, List.not_mem_nil, or_false, false_or] at hmem
        rcases hmem with ht | ht
        · rw [ht] at hread
          exact hdiffer (hread.trans hstored)
        · rw [ht] at hpeer'
          exact hhashes hpeer'.symm

theorem handshakes_isolated_sample : ∃ tr c cert, Isolated Ideal.env tr 10 c cert := by
  obtain ⟨ha, -⟩ := Ideal.completed_facts
  obtain ⟨result, hrun⟩ := Ideal.completed_ok
  have hsep : AllSeparate Ideal.env ((plugin Ideal.env).history [] Ideal.start Ideal.initiatorCalls.dropLast) := by
    refine Ideal.calls_separate true (by decide +kernel) ?_
    intro call hcall qos candidate hop
    simp only [Ideal.initiatorCalls, Ideal.aliceCalls, List.cons_append, List.nil_append, List.dropLast, List.mem_cons,
      List.not_mem_nil, or_false] at hcall
    rcases hcall with rfl | rfl | rfl
    all_goals cases hop
    rfl
  obtain ⟨c, cert, key, old, t, hc, -, -, -, hreply, -⟩ := handshakes_isolated Ideal.env
    (Ideal.calls_run true .mlKem512 Ideal.initiatorCalls.dropLast) hsep ha hrun
  have hcreated : (Ideal.completed.context 10).map (·.handshake.createdIn) = some .createdRequest := by decide +kernel
  rw [hc] at hcreated
  exact ⟨_, c, cert, hreply (Option.some.inj hcreated)⟩

/-! ## The credentials that are handed out -/

def credentialToken (certData : Octets) (document : CStr) : Token where
  classId := str "pqsec-dds.auth:1.0"
  properties := [⟨str "c.id", certData⟩, ⟨str "c.perm", document⟩]

theorem credentialToken_inj {certData certData' : Octets} {document document' : CStr} :
    credentialToken certData document = credentialToken certData' document' ↔ certData = certData' ∧ document = document' := by
  simp [credentialToken]

theorem getAuthenticatedPeerCredentialToken_ok (hrun : getAuthenticatedPeerCredentialToken env amb h s = (.ok out, s')) :
    ∃ c cert document certData, s.context h = some c ∧ c.remoteIdentity.identityCert = some cert ∧
      c.remoteIdentity.permissionsDocument = some document ∧ env.pemWriteX509 cert = some certData ∧
      out = credentialToken certData document := by
  simp only [getAuthenticatedPeerCredentialToken, getCertificateContents, Act.bind_ok, check_ok, Act.demand_ok, Act.pure_ok,
    need_ok, and_assoc, exists_and_left, exists_eq_left'] at hrun
  obtain ⟨_, -, _, -, c, hc, cert, hcert, document, hdocument, certData, hwrite, rfl, -⟩ := hrun
  exact ⟨c, cert, document, certData, hc, hcert, hdocument, hwrite, rfl⟩

theorem getAuthenticatedPeerCredentialToken_state {res : Except Stop Token}
    (hrun : getAuthenticatedPeerCredentialToken env amb h s = (res, s')) : s' = s :=
  getAuthenticatedPeerCredentialToken_same.result hrun

/-- The certificate in a token, as it is handed out. -/
def Token.certificate (env : Env κ ρ) (t : Token) : Option Octets :=
  (env.pemReadX509 (t.value "c.id")).bind env.pemWriteX509

/-- The certificate and the permissions document in `out` are those in `t`. -/
def Carries (env : Env κ ρ) (t out : Token) : Prop :=
  ∃ certData, t.certificate env = some certData ∧ out = credentialToken certData (cStr (t.value "c.perm"))

/-- `process_handshake` accepts a token for the handshake. -/
def Completing (env : Env κ ρ) (h : Handle) (e : Authentication κ × Op × Ambient ρ) : Prop :=
  ∃ m result s', e.2.1 = .processHandshake m h ∧ Allocates e.2.2 e.1 ∧ processHandshake env e.2.2 m h e.1 = (.ok result, s')

/-- `process_handshake` accepted a token for the handshake, which is live since; when it did last, the hash of the
credentials in `t` was in the transcript. -/
def CompletedFor (env : Env κ ρ) (tr : Trace (Authentication κ) (Op × Ambient ρ)) (h : Handle) (t : Token) : Prop :=
  ∃ later s₀ m amb earlier result s₁ c, tr = later ++ (s₀, .processHandshake m h, amb) :: earlier ∧ Allocates amb s₀ ∧
    processHandshake env amb m h s₀ = (.ok result, s₁) ∧ (∀ e ∈ later, (e.1.handshake h).isSome ∧ ¬ Completing env h e) ∧
    s₁.context h = some c ∧ HashedFor env ((s₀, .processHandshake m h, amb) :: earlier) h c t

/-- The remote identity was `old` when it accepted `t`, and has the certificate and the permissions document in `t'` since. An
empty document in `t` leaves the one that was there. -/
structure SameCredentials (env : Env κ ρ) (old : RemoteIdentityInfo) (t t' : Token) : Prop where
  certificate : t'.certificate env = t.certificate env
  document : if (t.value "c.perm").isEmpty then old.permissionsDocument = some (cStr (t'.value "c.perm"))
    else cStr (t.value "c.perm") = cStr (t'.value "c.perm")

theorem LastAccepted.sameCredentials_iff {t' : Token} {document : CStr} {certData : Octets}
    (hlast : LastAccepted env tr r remote old t cert) (hdocument : remote.permissionsDocument = some document)
    (hwrite : env.pemWriteX509 cert = some certData) :
    SameCredentials env old t t' ↔ Carries env t' (credentialToken certData document) := by
  have hcert : t.certificate env = some certData := by
    rw [Token.certificate, hlast.certificate]
    exact hwrite
  obtain ⟨-, hstored⟩ := hlast.stored
  rw [hdocument] at hstored
  have hsame : (if (t.value "c.perm").isEmpty then old.permissionsDocument = some (cStr (t'.value "c.perm"))
      else cStr (t.value "c.perm") = cStr (t'.value "c.perm")) ↔ document = cStr (t'.value "c.perm") := by
    by_cases hempty : (t.value "c.perm").isEmpty
    · rw [if_pos hempty] at hstored ⊢
      rw [← hstored, Option.some.injEq]
    · rw [if_neg hempty, stringFromData, if_neg hempty, Option.some.injEq] at hstored
      rw [if_neg hempty, hstored]
  constructor
  · intro hs
    refine ⟨certData, hs.certificate.trans hcert, ?_⟩
    rw [hsame.1 hs.document]
  · rintro ⟨certData', hcert', hout⟩
    obtain ⟨rfl, hdocument'⟩ := credentialToken_inj.1 hout
    exact ⟨hcert'.trans hcert.symm, hsame.2 hdocument'⟩

/-- **The credentials of an authenticated peer.** What is handed out for `h` are the credentials of the Request or Reply `t`
that was accepted last for the remote identity, whichever handshake it was for. They are those that `h` was authenticated
with exactly if `h` was completed, and `t` has the same certificate and permissions document in it as the token whose hash
was in the transcript. -/
theorem peer_credentials (env : Env κ ρ) {tr : Trace (Authentication κ) (Op × Ambient ρ)} {s s' : Authentication κ}
    (hr : Run (plugin env).solo tr s) {amb : Ambient ρ} {h : Handle} {out : Token}
    (hrun : getAuthenticatedPeerCredentialToken env amb h s = (.ok out, s')) :
    ∃ c cert old t, s.context h = some c ∧ LastAccepted env tr c.relation.remoteIdentity c.remoteIdentity old t cert ∧
      ((∃ t', CompletedFor env tr h t' ∧ Carries env t' out) ↔
        ∃ t', CompletedFor env tr h t' ∧ SameCredentials env old t t') := by
  obtain ⟨c, cert, document, certData, hc, hcert, hdocument, hwrite, rfl⟩ := getAuthenticatedPeerCredentialToken_ok hrun
  obtain ⟨-, hp⟩ := context_eq_some.1 hc
  obtain ⟨old, t, hlast⟩ := run_lastAccepted hr _ _ cert hp.remoteIdentity hcert
  refine ⟨c, cert, old, t, hc, hlast, ?_⟩
  simp only [hlast.sameCredentials_iff hdocument hwrite]

/-! ## A handshake that is not completed -/

namespace Ideal

theorem answered_token : (getAuthenticatedPeerCredentialToken Ideal.env (ambient 30) 10 answered).1.isOk ∧
    (getAuthenticatedPeerCredentialToken Ideal.env (ambient 30) 10 completed).1.isOk := by
  decide +kernel

end Ideal

/-- The certificate and the permissions of the Request are handed out before the Final arrives. -/
theorem peer_credentials_fails : ∃ tr s amb h out, Run (plugin Ideal.env).solo tr s ∧
    getAuthenticatedPeerCredentialToken Ideal.env amb h s = (.ok out, s) ∧ (∀ e ∈ tr, ¬ Completing Ideal.env h e) ∧
    ¬ ∃ t, CompletedFor Ideal.env tr h t ∧ Carries Ideal.env t out := by
  obtain ⟨hok, -⟩ := Ideal.answered_token
  rcases hrun : getAuthenticatedPeerCredentialToken Ideal.env (Ideal.ambient 30) 10 Ideal.answered with ⟨res, s'⟩
  have hstate : s' = Ideal.answered := getAuthenticatedPeerCredentialToken_state hrun
  rw [hrun] at hok
  rw [hstate] at hrun
  cases res with
  | error e => cases hok
  | ok out =>
    have hnone : ∀ e ∈ (plugin Ideal.env).history [] Ideal.start (Ideal.bobCalls ++ [Ideal.replyCall 10 Ideal.request 5]),
        ∀ m h, e.2.1 ≠ .processHandshake m h := by
      intro e he m h hop
      rcases Machine.mem_history _ he with he | he
      · cases he
      · simp only [Ideal.bobCalls, List.cons_append, List.nil_append, List.mem_cons, List.not_mem_nil, or_false] at he
        rcases he with he | he | he
        all_goals
          rw [he] at hop
          cases hop
    refine ⟨_, _, _, 10, out, Ideal.calls_run true .mlKem512 _, hrun, ?_, ?_⟩
    · rintro e he ⟨m, result, s', hop, -⟩
      exact hnone e he m 10 hop
    · rintro ⟨t, ⟨later, s₀, m, amb, earlier, result, s₁, c, htr, -⟩, -⟩
      have hmem : (s₀, Op.processHandshake m 10, amb) ∈ later ++ (s₀, .processHandshake m 10, amb) :: earlier := by simp
      rw [← htr] at hmem
      exact hnone _ hmem m 10 rfl

theorem LastAccepted.token (hlast : LastAccepted env tr r remote old t cert) : ∃ e ∈ tr, e.2.1.token = some t := by
  obtain ⟨later, s₀, op, amb, earlier, h, type, c, c', rfl, hacc, -⟩ := hlast
  exact ⟨(s₀, op, amb), by simp, hacc.receives.token⟩

theorem peer_credentials_sample : ∃ t out, CompletedFor Ideal.env Ideal.completedTrace 10 t ∧ Carries Ideal.env t out := by
  obtain ⟨-, hok⟩ := Ideal.answered_token
  obtain ⟨ha, -⟩ := Ideal.completed_facts
  obtain ⟨result, hcompleted⟩ := Ideal.completed_ok
  obtain ⟨c₁, cert₁, key, hp⟩ := processHandshake_processed
    ((plugin Ideal.env).history [] Ideal.start Ideal.initiatorCalls.dropLast) ha hcompleted
  have hcreated : (Ideal.completed.context 10).map (·.handshake.createdIn) = some .createdRequest := by decide +kernel
  rw [hp.context] at hcreated
  obtain ⟨hhashed, -⟩ := hp.reply (Option.some.inj hcreated)
  have hdone : CompletedFor Ideal.env Ideal.completedTrace 10 Ideal.reply :=
    ⟨[], _, _, _, _, result, _, c₁, rfl, ha, hcompleted, by simp, hp.context, hhashed⟩
  rcases hrun : getAuthenticatedPeerCredentialToken Ideal.env (Ideal.ambient 30) 10 Ideal.completed with ⟨res, s'⟩
  rw [hrun] at hok
  cases res with
  | error e => cases hok
  | ok out =>
    obtain ⟨c, cert, old, t, -, hlast, hiff⟩ := peer_credentials Ideal.env Ideal.completed_run hrun
    have ht : t = Ideal.reply := by
      obtain ⟨e, he, htoken⟩ := hlast.token
      rcases List.mem_cons.1 he with rfl | he
      · exact (Option.some.inj htoken).symm
      rcases Machine.mem_history _ he with he | he
      · cases he
      · have hmem : some t ∈ Ideal.initiatorCalls.dropLast.map (·.1.token) := List.mem_map.2 ⟨e.2, he, htoken⟩
        have hcalls : Ideal.initiatorCalls.dropLast.map (·.1.token) = [none, none, none] := rfl
        rw [hcalls] at hmem
        simp at hmem
    have hdocument : (Ideal.reply.value "c.perm").isEmpty = false := by decide +kernel
    obtain ⟨t', hfor, hcarries⟩ := hiff.2 ⟨Ideal.reply, hdone, by rw [ht], by simp [ht, hdocument]⟩
    exact ⟨t', out, hfor, hcarries⟩

end PqsecDds.CycloneDDS
