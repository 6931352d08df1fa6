import PqsecDds.CycloneDDS.Credentials
import PqsecDds.CycloneDDS.KeyMaterial

/-!
# Algorithms of an authenticated peer

`c.dsign_algo` has to be the algorithm of the certificate's key, and `c.kagree_algo` the KEM of the local identity. The
table of signature algorithms (auth_algs.c:31-37) and `get_authentication_algo_kind` also know RSA of 2048 bits and EC of
256 bits, and no other check asks for ML-DSA.
-/

namespace PqsecDds.CycloneDDS

open Lib Context

variable {κ ρ : Type} {env : Env κ ρ} {amb : Ambient ρ} {s s' : Authentication κ} {h l r : Handle}
variable {c c' : Context κ} {m t : Token} {tr : Trace (Authentication κ) (Op × Ambient ρ)} {cert : X509} {optional : Bool}

/-! ## The kinds of a key -/

/-- What OpenSSL calls the keys of an ML-DSA parameter set. -/
def AuthAlgoKind.mlDsaNames : AuthAlgoKind → List String
  | .mlDsa44 => ["ML-DSA-44", "MLDSA44"]
  | .mlDsa65 => ["ML-DSA-65", "MLDSA65"]
  | .mlDsa87 => ["ML-DSA-87", "MLDSA87"]
  | _ => []

/-- The key is one of the ML-DSA parameter set `kind`. -/
def EvpPkey.IsMlDsa (key : EvpPkey) (kind : AuthAlgoKind) : Prop := ∃ name ∈ kind.mlDsaNames, key.isA name = true

/-- RSA of 2048 bits or EC of 256 bits. -/
def AuthAlgoKind.Classical (kind : AuthAlgoKind) : Prop := kind = .rsa2048 ∨ kind = .ecPrime256v1

theorem isMlDsa_keyAlgoKind {key : EvpPkey} (hknown : keyAlgoKind key ≠ .unknown)
    (hclassical : ¬ (keyAlgoKind key).Classical) : key.IsMlDsa (keyAlgoKind key) := by
  revert hknown hclassical
  unfold keyAlgoKind
  split_ifs with h₁ h₂ h₃ h₄ h₅
  · intro _ _
    simpa [EvpPkey.IsMlDsa, AuthAlgoKind.mlDsaNames] using h₁
  · intro _ _
    simpa [EvpPkey.IsMlDsa, AuthAlgoKind.mlDsaNames] using h₂
  · intro _ _
    simpa [EvpPkey.IsMlDsa, AuthAlgoKind.mlDsaNames] using h₃
  · intro _ hnot
    exact absurd (.inl rfl) hnot
  · intro _ hnot
    exact absurd (.inr rfl) hnot
  · intro hnot
    exact absurd rfl hnot

/-- The tests for ML-DSA come first. -/
theorem EvpPkey.IsMlDsa.not_classical {key : EvpPkey} {kind : AuthAlgoKind} (hkey : key.IsMlDsa kind) :
    ¬ (keyAlgoKind key).Classical := by
  obtain ⟨name, hname, hisA⟩ := hkey
  have htests : (key.isA "ML-DSA-44" || key.isA "MLDSA44") = true ∨ (key.isA "ML-DSA-65" || key.isA "MLDSA65") = true ∨
      (key.isA "ML-DSA-87" || key.isA "MLDSA87") = true := by
    cases kind <;> simp only [AuthAlgoKind.mlDsaNames, List.mem_cons, List.not_mem_nil, or_false] at hname
    all_goals
      rcases hname with rfl | rfl <;> simp [hisA]
  unfold keyAlgoKind
  rintro (h | h)
  · revert h
    split_ifs <;> simp_all
  · revert h
    split_ifs <;> simp_all

/-! ## The peer -/

/-- The token with the credentials of the peer: a Reply itself, or the Request that was accepted last for the remote
identity. -/
inductive PeerToken (env : Env κ ρ) (tr : Trace (Authentication κ) (Op × Ambient ρ)) (c : Context κ) (m : Token) (cert : X509) :
    Token → Prop
  | reply (createdIn : c.handshake.createdIn = .createdRequest) : PeerToken env tr c m cert m
  | request {t : Token} (createdIn : c.handshake.createdIn = .createdReply)
      (accredited : Accredited env tr c.relation.remoteIdentity c.remoteIdentity t cert) : PeerToken env tr c m cert t

/-- The secret `ss` is what the token leads to, with the KEM `kind`: decapsulated with a key pair that was generated for a
Request, or encapsulated for one. -/
inductive DerivedWith (env : Env κ ρ) (tr : Trace (Authentication κ) (Op × Ambient ρ)) (h : Handle) (hs : HandshakeInfo κ)
    (m : Token) (kind : AuthAlgoKind) (ss : Octets) : Prop
  | decapsulated {keypair : KemKeypair κ} (createdIn : hs.createdIn = .createdRequest)
      (stored : hs.kemKeypair = some keypair) (requested : Requested env tr kind keypair)
      (secret : env.decapsulate keypair.key (m.value "pqsec-dds.kem_ciphertext") = some ss)
  | encapsulated {inp : Token} (createdIn : hs.createdIn = .createdReply) (answered : AnsweredFor env tr kind h hs inp)
      (secret : hs.kemSs = some ss)

/-- The key that verified the signature is one of ML-DSA, the credentials of the peer say which, and the secret is of the
KEM of the local identity. -/
structure PostQuantum (env : Env κ ρ) (tr : Trace (Authentication κ) (Op × Ambient ρ)) (optional : Bool) (h : Handle)
    (m : Token) (c c' : Context κ) : Prop where
  signature : ∃ cert key kind t, Verified env c' (c'.transcript optional m) (m.value "signature") cert key ∧
    key.IsMlDsa kind ∧ PeerToken env tr c m cert t ∧ getDsignAlgoFromOctseq (t.value "c.dsign_algo") = kind
  secret : ∃ x ss, c'.handshake.sharedSecret = some x ∧ x.sharedSecret = env.sha256 ss ∧
    DerivedWith env tr h c.handshake m c.localIdentity.kagreeAlgoKind ss

/-- Accepted credentials name the algorithm of the certificate's key, which is a known one. -/
theorem AcceptedCredentials.keyKind {trusted : List X509} {identity : LocalIdentityInfo} {key : EvpPkey}
    (hacc : AcceptedCredentials env amb trusted t identity cert) (hkey : cert.pubkey = some key) :
    getDsignAlgoFromOctseq (t.value "c.dsign_algo") = keyAlgoKind key ∧ keyAlgoKind key ≠ .unknown := by
  have hkind : getAuthenticationAlgoKind cert = keyAlgoKind key := by simp [getAuthenticationAlgoKind, hkey]
  exact ⟨hacc.dsign.trans hkind, hkind ▸ hacc.known⟩

/-- The peer of an accepted token presented credentials that name the algorithm of its key. -/
theorem processToken_peerToken {v : HandshakeResult × Int} {key : EvpPkey} (hr : Run (plugin env).solo tr s)
    (hp : Points s c) (hrun : processToken env amb optional s.trustedCaList m c = (.ok v, c'))
    (hcert : c.peerCertificate env m = some cert) (hkey : cert.pubkey = some key) :
    ∃ t, PeerToken env tr c m cert t ∧ getDsignAlgoFromOctseq (t.value "c.dsign_algo") = keyAlgoKind key ∧
      keyAlgoKind key ≠ .unknown := by
  obtain ⟨result, certExp⟩ := v
  rcases processToken_ok hrun with
    ⟨out, signed, cert', key', keypair, ss, -, hstep, c₁, hacc, -⟩ | ⟨-, cert', key', hstep, hacc, -⟩
  · simp only [peerCertificate, hstep] at hcert
    have hloaded := loadX509CertificateFromBinprop_ok hacc.credentials.loaded
    obtain rfl := Option.some.inj (hloaded.symm.trans hcert)
    exact ⟨m, .reply hstep, hacc.credentials.keyKind hkey⟩
  · simp only [peerCertificate, hstep] at hcert
    obtain ⟨t, haccredited⟩ := run_accredited hr _ _ cert hp.remoteIdentity hcert
    have hcredentials := haccredited
    obtain ⟨s₀, op, amb₀, h₀, type, c₀, c₁, -, hacc₀, -⟩ := hcredentials
    exact ⟨t, .request hstep haccredited, hacc₀.credentials.keyKind hkey⟩

/-- The secret of an accepted token is one of the KEM of the local identity. -/
theorem processToken_derived {v : HandshakeResult × Int} (hr : Run (plugin env).solo tr s) (hh : s.handshake h = some c.handshake)
    (hp : Points s c) (hrun : processToken env amb optional s.trustedCaList m c = (.ok v, c')) :
    ∃ x ss, c'.handshake.sharedSecret = some x ∧ x.sharedSecret = env.sha256 ss ∧
      DerivedWith env tr h c.handshake m c.localIdentity.kagreeAlgoKind ss := by
  rw [run_kagree hr _ _ hp.localIdentity]
  obtain ⟨result, certExp⟩ := v
  rcases processToken_ok hrun with
    ⟨out, signed, cert, key, keypair, ss, -, hstep, c₁, hacc, c₂, hfin, hdone⟩ | ⟨-, cert, key, hstep, hacc, hdone⟩
  · obtain ⟨⟨ss', challenge1, challenge2, hss, -, -, rfl⟩, -⟩ := hdone
    obtain rfl := hfin.state
    obtain rfl : ss = ss' := Option.some.inj hss
    obtain ⟨x, -, rfl⟩ := hacc.state
    have hstored := hfin.stored
    rw [accepted_handshake_reply] at hstored
    exact ⟨_, ss, rfl, rfl, .decapsulated hstep hstored (run_requested hr _ _ _ hh hstored) hfin.decapsulated⟩
  · obtain ⟨⟨ss, challenge1, challenge2, hss, -, -, rfl⟩, -⟩ := hdone
    obtain ⟨inp, hans⟩ := run_answeredFor hr _ _ hh hstep
    exact ⟨_, ss, rfl, rfl, .encapsulated hstep hans hss⟩

/-- **No classical downgrade.** When `process_handshake` accepts a token, the signature was made with ML-DSA, as the
credentials of the peer say, and the secret is of the KEM of the local identity, exactly if the key in the certificate of
the peer is not an RSA or an EC key. -/
theorem no_classical_downgrade (env : Env κ ρ) {tr : Trace (Authentication κ) (Op × Ambient ρ)} {s s' : Authentication κ}
    (hr : Run (plugin env).solo tr s) {amb : Ambient ρ} {m : Token} {h : Handle} {result : HandshakeResult}
    (hrun : processHandshake env amb m h s = (.ok result, s')) :
    ∃ c c' cert, s.context h = some c ∧ s'.context h = some c' ∧ c.peerCertificate env m = some cert ∧
      (PostQuantum env tr s.includeOptional h m c c' ↔ ¬ (getAuthenticationAlgoKind cert).Classical) := by
  rcases processHandshake_cases hrun (by simp) with ⟨⟨e, he⟩, -⟩ | ⟨c, c', rx, hres, hon⟩
  · cases he
  rcases rx with e | v
  · cases hres
  obtain ⟨timer, hcontext⟩ := hon.context
  obtain ⟨cert, hcert, hstored, -⟩ := processToken_certificate hon.run
  obtain ⟨x, hacc⟩ := processToken_accepted hon.run
  obtain ⟨cert', key, hv⟩ := hacc.verified
  obtain rfl := Option.some.inj (hstored.symm.trans hv.stored)
  have hkind : getAuthenticationAlgoKind cert = keyAlgoKind key := by simp [getAuthenticationAlgoKind, hv.pubkey]
  refine ⟨c, _, cert, context_eq_some.2 ⟨hon.handshake, hon.points⟩, hcontext, hcert, ?_⟩
  rw [hkind]
  constructor
  · rintro ⟨⟨cert', key', kind, t, hv', hmldsa, -⟩, -⟩
    obtain rfl : cert = cert' := Option.some.inj (hv.stored.symm.trans hv'.stored)
    obtain rfl : key = key' := Option.some.inj (hv.pubkey.symm.trans hv'.pubkey)
    exact hmldsa.not_classical
  · intro hclassical
    obtain ⟨t, hpeer, hdsign, hknown⟩ := processToken_peerToken hr hon.points hon.run hcert hv.pubkey
    obtain ⟨y, ss, hy, hhash, hderived⟩ := processToken_derived hr hon.handshake hon.points hon.run
    exact ⟨⟨cert, key, _, t, ⟨hv.stored, hv.pubkey, hv.canSign, hv.verify⟩, isMlDsa_keyAlgoKind hknown hclassical, hpeer,
      hdsign⟩, ⟨y, ss, hy, hhash, hderived⟩⟩

theorem no_classical_downgrade_sample : ∃ c c', PostQuantum Ideal.env
    ((plugin Ideal.env).history [] Ideal.start Ideal.initiatorCalls.dropLast) Ideal.awaiting.includeOptional 10 Ideal.reply c c' := by
  obtain ⟨result, hrun⟩ := Ideal.completed_ok
  obtain ⟨c, c', cert, hc, -, hcert, hiff⟩ := no_classical_downgrade Ideal.env
    (Ideal.calls_run true .mlKem512 Ideal.initiatorCalls.dropLast) hrun
  have hkind : ((Ideal.awaiting.context 10).bind fun c => (c.peerCertificate Ideal.env Ideal.reply).map
      getAuthenticationAlgoKind) = some .mlDsa44 := by decide +kernel
  obtain ⟨c₀, hc₀, hkind⟩ := Option.bind_eq_some_iff.1 hkind
  obtain rfl := Option.some.inj (hc₀.symm.trans hc)
  rw [hcert, Option.map_some] at hkind
  refine ⟨c₀, c', hiff.2 ?_⟩
  rw [Option.some.inj hkind]
  rintro (h | h) <;> cases h

/-! ## RSA on both sides -/

namespace Ideal

/-- The participant with an RSA certificate. -/
def classicalQos (pair : UInt8) : Qos where
  identityCertificate := item [pair, 1, 9, 1]
  identityCa := item [9, 0, 9, 1]
  privateKey := item [pair, 1, 9, 1]
  password := none
  trustedCaDir := none
  crl := none

def classicalCall (pair : UInt8) : SampleCall := (.validateLocalIdentity (classicalQos pair) (candidate pair), ambient 1)

def classicalCalls : List SampleCall := [classicalCall 3, remoteCall none 5, requestCall 10 3]

def classicalState : State := after start classicalCalls

/-- The answer of the participant 5, also with an RSA certificate. -/
def classicalReply : Token :=
  replyOf (after start [classicalCall 5, remoteCall none 3]) 10
    (requestOf (after start [classicalCall 3, remoteCall none 5]) 10 3) 5

theorem classical_facts : (processHandshake Ideal.env (ambient 11) classicalReply 10 classicalState).1.isOk ∧
    ((classicalState.context 10).bind fun c => (c.peerCertificate Ideal.env classicalReply).bind (·.pubkey)).map
      keyAlgoKind = some .rsa2048 := by
  decide +kernel

end Ideal

/-- Alice accepts a Reply that Bob signed with an RSA key. -/
theorem no_classical_downgrade_fails : ∃ tr s s' m h amb result c cert key,
    Run (plugin Ideal.env).solo tr s ∧ processHandshake Ideal.env amb m h s = (.ok result, s') ∧ s.context h = some c ∧
    c.peerCertificate Ideal.env m = some cert ∧ cert.pubkey = some key ∧ ∀ kind, ¬ key.IsMlDsa kind := by
  obtain ⟨hok, hkind⟩ := Ideal.classical_facts
  obtain ⟨key, hkey, hrsa⟩ := Option.map_eq_some_iff.1 hkind
  obtain ⟨c, hc, hkey⟩ := Option.bind_eq_some_iff.1 hkey
  obtain ⟨cert, hcert, hkey⟩ := Option.bind_eq_some_iff.1 hkey
  rcases hrun : processHandshake Ideal.env (Ideal.ambient 11) Ideal.classicalReply 10 Ideal.classicalState with ⟨res, s'⟩
  rw [hrun] at hok
  cases res with
  | error e => cases hok
  | ok result =>
    refine ⟨_, _, s', _, 10, _, result, c, cert, key, Ideal.calls_run true .mlKem512 Ideal.classicalCalls, hrun, hc, hcert,
      hkey, fun kind hmldsa => hmldsa.not_classical ?_⟩
    exact .inl hrsa

end PqsecDds.CycloneDDS
