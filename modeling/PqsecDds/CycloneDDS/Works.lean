import PqsecDds.CycloneDDS.Answers
import PqsecDds.CycloneDDS.Expiry

/-!
# Calls that work

What the adapter calls is assumed to work (`Works`, `KemWorks`). Then every part of the validator accepts what the
builders make, and every builder succeeds.

| here | meaning |
|---|---|
| `Token.Holds` | the token has a property with this value, of a size that the validator takes |
| `Credentials` | what one side says of itself in a Request or a Reply |
| `ValidUnder` | a certificate is valid under the trust anchors of the other side |
-/

namespace PqsecDds.CycloneDDS

open Lib

variable {κ ρ : Type} {env : Env κ ρ} {amb : Ambient ρ} {k : AuthAlgoKind} {c c' : Context κ} {inp : Token}
variable {trusted : List X509} {optional : Bool} {cert : X509}

/-! ## What is called -/

/-- Serializing, comparing tokens and signing. -/
structure Works (env : Env κ ρ) : Prop where
  serialize : ∀ properties, env.serializeSeq properties = env.serializeArray properties
  dataHolderEqual : ∀ t, env.dataHolderEqual t t = true
  signature : ∀ key data seed, key.canSign = true → ∃ signature, env.digestSign key data seed = some signature ∧
    signature ≠ [] ∧ signature.length ≤ intMax ∧ env.digestVerify key data signature = true

/-- `pk` is the public half of a generated key. -/
def Exported (env : Env κ ρ) (k : AuthAlgoKind) (key : κ) (pk : Octets) : Prop :=
  (∃ seed, (env.kem k).generate seed = some key) ∧ (env.kem k).publicKey key = some pk

/-- The KEM `k`, with keys and ciphertexts of the sizes in the table. -/
structure KemWorks (env : Env κ ρ) (k : AuthAlgoKind) : Prop where
  correct : (env.kem k).Correct
  generates : ∀ seed, ∃ key, (env.kem k).generate seed = some key
  exports : ∀ {seed key}, (env.kem k).generate seed = some key →
    ∃ pk, (env.kem k).publicKey key = some pk ∧ pk.length = getKemPublicKeySize k
  imports : ∀ {key pk}, Exported env k key pk → ∃ pub, (env.kem k).imports pk pub
  encapsulates : ∀ {key pk pub}, Exported env k key pk → (env.kem k).imports pk pub →
    (∃ m n, env.encapsulateSizes pub = some (m, n) ∧ m ≠ 0 ∧ n ≠ 0) ∧
    ∀ seed, ∃ ct ss, env.encapsulate pub seed = some (ct, ss) ∧ ct.length = getKemCiphertextSize k ∧ ss ≠ []
  decapsulates : ∀ {key pk pub seed ct ss}, Exported env k key pk → (env.kem k).imports pk pub →
    env.encapsulate pub seed = some (ct, ss) → (env.decapsulateSize key ct).getD 0 ≠ 0

/-- A key can be generated for a KEM of the table only. -/
theorem KemWorks.known (hk : KemWorks env k) (seed : ρ) : findByKind kemAlgorithms k ≠ none := by
  obtain ⟨key, hkey⟩ := hk.generates seed
  intro hnone
  simp [Env.kem, newKeygenContext, getKemOpensslNameByKind, hnone] at hkey

theorem kemSizes_of_known (h : findByKind kemAlgorithms k ≠ none) :
    (getKemPublicKeySize k ≠ 0 ∧ getKemPublicKeySize k ≤ intMax) ∧
      getKemCiphertextSize k ≠ 0 ∧ getKemCiphertextSize k ≤ intMax := by
  revert h
  cases k <;> decide

theorem pqsecKemKeypairGenerate_works (hk : KemWorks env k) (seed : ρ) :
    ∃ key pk, pqsecKemKeypairGenerate env k seed = some ⟨k, key, pk⟩ ∧ Exported env k key pk ∧
      pk.length = getKemPublicKeySize k := by
  obtain ⟨key, hkey⟩ := hk.generates seed
  obtain ⟨pk, hpk, hlen⟩ := hk.exports hkey
  refine ⟨key, pk, ?_, ⟨⟨seed, hkey⟩, hpk⟩, hlen⟩
  obtain ⟨name, hname, hgen⟩ := Option.bind_eq_some_iff.1 hkey
  have hexport : exportPublicKey env key = some pk := hpk
  simp [pqsecKemKeypairGenerate, hname, hgen, hexport]

theorem Exported.length (hk : KemWorks env k) {key : κ} {pk : Octets} (hexp : Exported env k key pk) :
    pk.length = getKemPublicKeySize k := by
  obtain ⟨⟨seed, hgen⟩, hpk⟩ := hexp
  obtain ⟨pk', hpk', hlen⟩ := hk.exports hgen
  rw [hpk] at hpk'
  rw [Option.some.inj hpk', hlen]

theorem pqsecKemEncapsulate_works (hk : KemWorks env k) {key : κ} {pk : Octets} (hexp : Exported env k key pk) (seed : ρ)
    (out : Option Octets × Option Octets) :
    ∃ ct ss, pqsecKemEncapsulate env k pk seed out = (true, some ct, some ss) ∧
      ct.length = getKemCiphertextSize k ∧ ss ≠ [] := by
  obtain ⟨pub, himports⟩ := hk.imports hexp
  obtain ⟨⟨m, n, hsizes, hm, hn⟩, henc⟩ := hk.encapsulates hexp himports
  obtain ⟨ct, ss, hct, hlen, hss⟩ := henc seed
  obtain ⟨name, hname, himport⟩ := himports
  have hne : pk ≠ [] := by
    rintro rfl
    exact (kemSizes_of_known (hk.known seed)).1.1 (hexp.length hk).symm
  refine ⟨ct, ss, ?_, hlen, hss⟩
  simp [pqsecKemEncapsulate, hname, hne, himport, hsizes, hm, hn, hct]

section Encapsulated

variable {key : κ} {pk ct ss : Octets} {seed : ρ}

/-- What is encapsulated to a generated key has the sizes of the table, and is decapsulated. -/
theorem Exported.encapsulated (hk : KemWorks env k) (hexp : Exported env k key pk)
    (henc : (env.kem k).Encapsulated pk seed ct ss) :
    ct.length = getKemCiphertextSize k ∧ ss ≠ [] ∧ env.decapsulate key ct = some ss := by
  obtain ⟨pub, himports, henc⟩ := henc
  obtain ⟨-, hct⟩ := hk.encapsulates hexp himports
  obtain ⟨ct', ss', henc', hlen, hne⟩ := hct seed
  obtain ⟨rfl, rfl⟩ := Prod.mk.inj (Option.some.inj (henc.symm.trans henc'))
  obtain ⟨⟨seed', hgen⟩, hpk⟩ := hexp
  exact ⟨hlen, hne, hk.correct hgen hpk himports henc⟩

theorem pqsecKemDecapsulate_works (hk : KemWorks env k) (hexp : Exported env k key pk)
    (henc : (env.kem k).Encapsulated pk seed ct ss) (out : Option Octets) :
    pqsecKemDecapsulate env (some ⟨k, key, pk⟩) ct out = (true, some ss) := by
  obtain ⟨hlen, -, hdec⟩ := hexp.encapsulated hk henc
  obtain ⟨pub, himports, henc⟩ := henc
  have hsize := hk.decapsulates hexp himports henc
  have hne : ct ≠ [] := by
    rintro rfl
    exact (kemSizes_of_known (hk.known seed)).2.1 hlen.symm
  simp [pqsecKemDecapsulate, hne, hsize, hdec]

end Encapsulated

/-! ## Properties of a token -/

/-- The token has the property, with a value of a size that the validator takes. -/
structure Token.Holds (t : Token) (name : String) (value : Octets) : Prop where
  found : t.findBinaryProperty name = some (binaryProperty name value)
  size : value.length ≤ intMax

theorem Token.Holds.value {name : String} {value : Octets} (h : inp.Holds name value) : inp.value name = value :=
  Token.value_eq h.found

/-- A hash property is sent with the optional ones. -/
def HashSent (t : Token) (optional : Bool) (name : String) (hash : HashValue) : Prop :=
  t.findBinaryProperty name = if optional then some (binaryProperty name hash.1) else none

section Find

variable {name : String} {value : Octets}

theorem findRequiredBinprop_works (h : inp.Holds name value) :
    findRequiredBinprop inp name = .ok (binaryProperty name value) := by
  simp only [findRequiredBinprop, bind_ok, need_ok, require_ok, pure_ok, decide_eq_true_eq]
  exact ⟨_, h.found, ⟨⟩, h.size, rfl⟩

theorem findRequiredNonemptyBinprop_works (h : inp.Holds name value) (hne : value ≠ []) :
    findRequiredNonemptyBinprop inp name = .ok (binaryProperty name value) := by
  simp only [findRequiredNonemptyBinprop, bind_ok, require_ok, pure_ok]
  exact ⟨_, findRequiredBinprop_works h, ⟨⟩, by simpa [binaryProperty] using hne, rfl⟩

theorem findRequiredBinpropExactsize_works {size : Nat} (h : inp.Holds name value) (hsize : value.length = size) :
    findRequiredBinpropExactsize inp name size = .ok (binaryProperty name value) := by
  simp only [findRequiredBinpropExactsize, bind_ok, require_ok, pure_ok, decide_eq_true_eq]
  exact ⟨_, findRequiredBinprop_works h, ⟨⟩, hsize, rfl⟩

theorem checkHash_works {hash : HashValue} (h : HashSent inp optional name hash) : checkHash inp name hash = .ok () := by
  unfold checkHash
  rw [h]
  cases optional with
  | true => exact require_ok.2 (by simp [binaryProperty])
  | false => rfl

end Find

/-! ## Credentials -/

/-- What a participant says of itself in a Request or a Reply. -/
structure Credentials where
  certData : Octets
  permissions : CStr
  pdata : Octets
  dsign : AuthAlgoKind
  kagree : AuthAlgoKind

def Credentials.properties (d : Credentials) : List BinaryProperty :=
  credentialProperties d.certData (some d.permissions) d.pdata (getDsignAlgo d.dsign) (getKagreeAlgo d.kagree)

/-- The token has the credentials. -/
structure Token.Carries (t : Token) (d : Credentials) : Prop where
  id : t.Holds "c.id" d.certData
  perm : t.Holds "c.perm" (d.permissions ++ [0])
  pdata : t.Holds "c.pdata" d.pdata
  dsign : t.Holds "c.dsign_algo" (str (getDsignAlgo d.dsign) ++ [0])
  kagree : t.Holds "c.kagree_algo" (str (getKagreeAlgo d.kagree) ++ [0])

theorem Token.Carries.credentials {d : Credentials} (h : inp.Carries d) : inp.credentials = d.properties := by
  simp only [Token.credentials, List.map_cons, List.map_nil, h.id.value, h.perm.value, h.pdata.value, h.dsign.value,
    h.kagree.value]
  rfl

/-- The credentials are of sizes that the validator takes. -/
structure Credentials.Sendable (d : Credentials) : Prop where
  certData : d.certData.length ≤ intMax
  permissions : d.permissions.length < intMax
  pdata : d.pdata.length ≤ intMax

theorem algo_length (kind : AuthAlgoKind) :
    (str (getDsignAlgo kind) ++ [0]).length ≤ intMax ∧ (str (getKagreeAlgo kind) ++ [0]).length ≤ intMax := by
  cases kind <;> decide

section Tokens

variable {d : Credentials} {hashC1 hashC2 : HashValue} {challenge1 challenge2 : Challenge} {kemPublic kemCt signature : Octets}

theorem requestToken_carries (hd : d.Sendable) :
    (requestToken optional d.properties hashC1 kemPublic challenge1).Carries d where
  id := ⟨by cases optional <;> rfl, hd.certData⟩
  perm := ⟨by cases optional <;> rfl, by rw [List.length_append]; exact hd.permissions⟩
  pdata := ⟨by cases optional <;> rfl, hd.pdata⟩
  dsign := ⟨by cases optional <;> rfl, (algo_length _).1⟩
  kagree := ⟨by cases optional <;> rfl, (algo_length _).2⟩

theorem replyToken_carries (hd : d.Sendable) :
    (replyToken optional d.properties hashC1 hashC2 kemCt kemPublic challenge1 challenge2 signature).Carries d where
  id := ⟨by cases optional <;> rfl, hd.certData⟩
  perm := ⟨by cases optional <;> rfl, by rw [List.length_append]; exact hd.permissions⟩
  pdata := ⟨by cases optional <;> rfl, hd.pdata⟩
  dsign := ⟨by cases optional <;> rfl, (algo_length _).1⟩
  kagree := ⟨by cases optional <;> rfl, (algo_length _).2⟩

end Tokens

/-- The certificate is in force, and verifies against the own CA and CRL, or against one of the trusted CAs. -/
structure ValidUnder (env : Env κ ρ) (amb : Ambient ρ) (cert ca : X509) (crl : Option X509Crl) (trusted : List X509) :
    Prop where
  begun : ∃ t, cert.notBefore = some t ∧ t ≤ amb.time
  unexpired : ∃ t, cert.notAfter = some t ∧ amb.time < t
  verified : trusted = [] ∧ env.x509VerifyCert amb.time cert ca crl = none ∨
    trusted ≠ [] ∧ crl = none ∧ ∃ anchor ∈ trusted, env.x509VerifyCert amb.time cert anchor none = none

section Certificate

variable {ca : X509} {crl : Option X509Crl}

theorem verifyCertificate_works (h : env.x509VerifyCert amb.time cert ca crl = none) :
    verifyCertificate env amb cert ca crl = .ok () := by
  simp only [verifyCertificate, h]

/-- The loop stops at the first trusted CA that verifies the certificate. -/
theorem verifyWithTrusted_works (h : ∃ anchor ∈ trusted, env.x509VerifyCert amb.time cert anchor none = none) :
    verifyWithTrusted env amb cert trusted = .ok () := by
  induction trusted with
  | nil =>
    obtain ⟨anchor, hmem, -⟩ := h
    cases hmem
  | cons ca cas ih =>
    by_cases hca : env.x509VerifyCert amb.time cert ca none = none
    · have hok : verifyCertificate env amb cert ca none = .ok () := verifyCertificate_works hca
      cases cas with
      | nil => exact hok
      | cons ca' cas => simp only [verifyWithTrusted, hok]
    · obtain ⟨anchor, hmem, hanchor⟩ := h
      rcases List.mem_cons.1 hmem with rfl | hmem
      · exact absurd hanchor hca
      have hrest := ih ⟨anchor, hmem, hanchor⟩
      cases cas with
      | nil => cases hmem
      | cons ca' cas =>
        simp only [verifyWithTrusted]
        split
        · rfl
        · exact hrest

theorem checkCertificateExpiry_works (h : ValidUnder env amb cert ca crl trusted) :
    checkCertificateExpiry amb cert = .ok () := by
  obtain ⟨t, hbefore, hle⟩ := h.begun
  obtain ⟨t', hafter, hlt⟩ := h.unexpired
  have hnot : ¬ t' ≤ amb.time := by omega
  simp [checkCertificateExpiry, hbefore, hafter, x509CmpCurrentTime, hle, hnot, require, bind, Except.bind]

theorem loadX509CertificateFromBinprop_works {prop : BinaryProperty} (hread : env.pemReadX509 prop.value = some cert)
    (hknown : getAuthenticationAlgoKind cert ≠ .unknown) (h : ValidUnder env amb cert ca crl trusted) :
    loadX509CertificateFromBinprop env amb prop ca crl trusted = .ok cert := by
  have hload : loadX509CertificateFromData env amb prop.value = .ok cert := by
    simp only [loadX509CertificateFromData, loadX509CertificateFromBio, bind_ok, need_ok, require_ok, pure_ok,
      decide_eq_true_eq]
    exact ⟨cert, hread, ⟨⟩, hknown, rfl⟩
  have hexpiry := checkCertificateExpiry_works h
  simp only [loadX509CertificateFromBinprop, bind_ok, require_ok]
  rcases h.verified with ⟨rfl, hverify⟩ | ⟨hne, rfl, hverify⟩
  · refine ⟨⟨⟩, by simp, cert, hload, ?_⟩
    simp [verifyCertificate_works hverify, hexpiry, bind, Except.bind, pure, Except.pure]
  · refine ⟨⟨⟩, by simp, cert, hload, ?_⟩
    simp [hne, verifyWithTrusted_works hverify, hexpiry, bind, Except.bind, pure, Except.pure]

/-- The key of participant data, and the certificate it is sent with, determine the same six octets. -/
structure MatchesCertificate (env : Env κ ρ) (pdata : Octets) (cert : X509) : Prop where
  key : ∃ key name, env.participantKey pdata = some key ∧ cert.subject = some name ∧ name.der ≠ [] ∧
    key.1.take 6 = subjectPrefix env name.der

theorem validatePdata_works {pdata : Octets} (h : MatchesCertificate env pdata cert) :
    validatePdata env amb pdata cert = .ok () := by
  obtain ⟨key, name, hkey, hsubject, hder, hsix⟩ := h.key
  have hprefix : (adjustedPrefix env name.der (zeroBytes 12)).1.take 6 = subjectPrefix env name.der :=
    List.take_left' (subjectPrefix_length env name.der)
  simp [validatePdata, getAdjustedParticipantGuid, getSubjectNameDerEncoded, hkey, hsubject, hder, hsix, hprefix, need,
    require, bind, Except.bind, pure, Except.pure]

end Certificate

/-- The other side's credentials are in order. -/
structure InOrder (env : Env κ ρ) (amb : Ambient ρ) (trusted : List X509) (l : LocalIdentityInfo) (d : Credentials)
    (cert : X509) : Prop where
  certificate : d.certData ≠ [] ∧ env.pemReadX509 d.certData = some cert
  valid : ValidUnder env amb cert l.identityCa l.crl trusted
  pdata : MatchesCertificate env d.pdata cert
  dsign : getAuthenticationAlgoKind cert ≠ .unknown ∧ d.dsign = getAuthenticationAlgoKind cert
  kagree : findByKind kemAlgorithms d.kagree ≠ none ∧ d.kagree = l.kagreeAlgoKind

theorem getAuthenticationAlgoKind_known (h : getAuthenticationAlgoKind cert ≠ .unknown) :
    findByKind signatureAlgorithms (getAuthenticationAlgoKind cert) ≠ none := by
  unfold getAuthenticationAlgoKind at h ⊢
  rcases hkey : cert.pubkey with _ | key
  · simp [hkey] at h
  · simp only [hkey] at h ⊢
    have hmem := (keyAlgoKind_mem key).resolve_left h
    generalize keyAlgoKind key = kind at hmem
    revert hmem
    cases kind <;> decide

theorem acceptCredentials_works (tokenType : HandshakeTokenType) {d : Credentials} (hcarries : inp.Carries d)
    (hd : InOrder env amb trusted c.localIdentity d cert) :
    ∃ info, acceptCredentials env amb trusted inp tokenType c = (.ok info, c.withCredentials env inp tokenType cert) ∧
      info.kagreeAlgoKind = d.kagree := by
  obtain ⟨hne, hread⟩ := hd.certificate
  obtain ⟨hknown, hdsign⟩ := hd.dsign
  obtain ⟨hkem, hkagree⟩ := hd.kagree
  have hreadDsign : getDsignAlgoFromOctseq (str (getDsignAlgo d.dsign) ++ [0]) = d.dsign :=
    getDsignAlgoFromOctseq_get (by rw [hdsign]; exact getAuthenticationAlgoKind_known hknown)
  have hreadKagree : getKagreeAlgoFromOctseq (str (getKagreeAlgo d.kagree) ++ [0]) = d.kagree :=
    getKagreeAlgoFromOctseq_get hkem
  have hunknown : d.kagree ≠ .unknown := by
    intro hunknown
    rw [hunknown] at hkem
    exact hkem (by decide)
  have hload : loadX509CertificateFromBinprop env amb (binaryProperty "c.id" d.certData) c.localIdentity.identityCa
      c.localIdentity.crl trusted = .ok cert := loadX509CertificateFromBinprop_works hread hknown hd.valid
  have hvalid : validatePdata env amb d.pdata cert = .ok () := validatePdata_works hd.pdata
  have hrun : ∃ info c', acceptCredentials env amb trusted inp tokenType c = (.ok info, c') := by
    simp only [acceptCredentials, Act.bind_ok, check_ok, Act.read_ok, Act.write_ok, Act.pure_ok, require_ok,
      decide_eq_true_eq, and_assoc, exists_and_left, exists_eq_left', exists_const]
    refine ⟨_, _, _, findRequiredNonemptyBinprop_works hcarries.id hne, cert, hload, _,
      findRequiredBinprop_works hcarries.perm, _, findRequiredBinprop_works hcarries.pdata, ⟨⟩, hvalid, _,
      findRequiredNonemptyBinprop_works hcarries.dsign (by simp), ?_, ?_, _,
      findRequiredNonemptyBinprop_works hcarries.kagree (by simp), ?_, ?_, rfl, rfl⟩
    · simp only [binaryProperty, hreadDsign]
      rw [hdsign]
      exact hknown
    · simp only [binaryProperty, hreadDsign]
      exact hdsign
    · simp only [binaryProperty, hreadKagree]
      exact hunknown
    · simp only [binaryProperty, hreadKagree]
      exact hkagree
  obtain ⟨info, c', hrun⟩ := hrun
  obtain ⟨cert', hacc, rfl, hinfo⟩ := acceptCredentials_ok hrun
  have hloaded := hacc.loaded
  rw [hcarries.id.value, hload] at hloaded
  obtain rfl := Except.ok.inj hloaded
  exact ⟨info, hrun, by rw [hinfo, hkagree]⟩

/-! ## The validator -/

theorem validateKemProperty_works {name : String} {value : Octets} {kind : AuthAlgoKind} {publicKey : Bool}
    (hne : value ≠ [])
    (hsize : value.length = if publicKey then getKemPublicKeySize kind else getKemCiphertextSize kind) :
    validateKemProperty (binaryProperty name value) kind publicKey = .ok () := by
  have hlen : value.length ≠ 0 := by simpa using hne
  simp only [validateKemProperty, bind_ok, require_ok, Bool.and_eq_true, decide_eq_true_eq]
  refine ⟨⟨⟩, by simpa [binaryProperty] using hne, ?_, hsize⟩
  rw [← hsize]
  exact hlen

/-- The relation holds the challenge of the other side, or none yet. -/
def Pinned (c : Context κ) (challenge : Challenge) : Prop :=
  c.relation.rchallenge = none ∨ c.relation.rchallenge = some challenge

theorem checkRchallenge_works (tokenType : HandshakeTokenType) {challenge : Challenge} (h : Pinned c challenge) :
    ∃ c', checkRchallenge challenge.1 tokenType c = (.ok ⟨⟩, c') := by
  simp only [checkRchallenge, Act.bind_ok, Act.read_ok, and_assoc, exists_and_left, exists_eq_left']
  rcases h with h | h
  · simp only [h, Act.write_ok]
    exact ⟨_, rfl⟩
  · simp only [h, check_ok, require_ok, decide_true, true_and]
    exact ⟨c, rfl⟩

/-- The values that both sides of a handshake send and sign. -/
structure Exchanged where
  publicKey : Octets
  ciphertext : Octets
  challenge1 : Challenge
  challenge2 : Challenge

/-- A token has the values, in the sizes of the KEM, and a signature. -/
structure HasParts (t : Token) (k : AuthAlgoKind) (v : Exchanged) (signature : Octets) : Prop where
  publicKey : t.findBinaryProperty "pqsec-dds.kem_public" = some (binaryProperty "pqsec-dds.kem_public" v.publicKey)
  ciphertext : t.findBinaryProperty "pqsec-dds.kem_ciphertext" =
    some (binaryProperty "pqsec-dds.kem_ciphertext" v.ciphertext)
  challenge1 : t.findBinaryProperty "challenge1" = some (binaryProperty "challenge1" v.challenge1.1)
  challenge2 : t.findBinaryProperty "challenge2" = some (binaryProperty "challenge2" v.challenge2.1)
  signed : t.Holds "signature" signature
  signature_ne_nil : signature ≠ []
  known : findByKind kemAlgorithms k ≠ none
  publicKeySize : v.publicKey.length = getKemPublicKeySize k
  ciphertextSize : v.ciphertext.length = getKemCiphertextSize k

theorem holds_challenge {name : String} {challenge : Challenge}
    (h : inp.findBinaryProperty name = some (binaryProperty name challenge.1)) : inp.Holds name challenge.1 :=
  ⟨h, by rw [challenge.2]; decide⟩

theorem findKemPublic_works {pk : Octets} (hknown : findByKind kemAlgorithms k ≠ none)
    (hfind : inp.findBinaryProperty "pqsec-dds.kem_public" = some (binaryProperty "pqsec-dds.kem_public" pk))
    (hsize : pk.length = getKemPublicKeySize k) :
    findKemPublic inp k = .ok (binaryProperty "pqsec-dds.kem_public" pk) := by
  obtain ⟨⟨hpos, hle⟩, -⟩ := kemSizes_of_known hknown
  have hne : pk ≠ [] := by
    rintro rfl
    exact hpos hsize.symm
  simp only [findKemPublic, bind_ok, pure_ok]
  exact ⟨_, findRequiredNonemptyBinprop_works ⟨hfind, by rw [hsize]; exact hle⟩ hne, ⟨⟩, validateKemProperty_works hne hsize,
    rfl⟩

theorem findSignedParts_works {v : Exchanged} {signature : Octets} (h : HasParts inp k v signature) :
    findSignedParts inp k = .ok ⟨v.publicKey, v.challenge1.1, v.challenge2.1, v.ciphertext, signature⟩ := by
  obtain ⟨-, hpos, hle⟩ := kemSizes_of_known h.known
  have hne : v.ciphertext ≠ [] := by
    intro hnil
    have hlen := h.ciphertextSize
    rw [hnil] at hlen
    exact hpos hlen.symm
  simp only [findSignedParts, bind_ok, pure_ok]
  exact ⟨_, findKemPublic_works h.known h.publicKey h.publicKeySize, _,
    findRequiredBinpropExactsize_works (holds_challenge h.challenge1) v.challenge1.2, _,
    findRequiredBinpropExactsize_works (holds_challenge h.challenge2) v.challenge2.2, _,
    findRequiredNonemptyBinprop_works ⟨h.ciphertext, by rw [h.ciphertextSize]; exact hle⟩ hne, ⟨⟩,
    validateKemProperty_works hne h.ciphertextSize, _, findRequiredNonemptyBinprop_works h.signed h.signature_ne_nil, rfl⟩

theorem validateRequest_works {d : Credentials} {pk : Octets} {challenge1 : Challenge}
    (hclass : inp.classId = some (str "pqsec-dds.auth:1.0+Req")) (hcarries : inp.Carries d)
    (hd : InOrder env amb trusted c.localIdentity d cert)
    (hpk : inp.findBinaryProperty "pqsec-dds.kem_public" = some (binaryProperty "pqsec-dds.kem_public" pk))
    (hsize : pk.length = getKemPublicKeySize d.kagree)
    (hc1 : inp.findBinaryProperty "challenge1" = some (binaryProperty "challenge1" challenge1.1)) (hpin : Pinned c challenge1)
    (hhash : HashSent inp optional "hash_c1" (credentialHash env inp)) :
    ∃ c', validateHandshakeToken env amb optional trusted inp .req c = (.ok ⟨⟩, c') := by
  obtain ⟨info, hcred, hkagree⟩ := acceptCredentials_works .req hcarries hd
  have hpin₁ : Pinned (c.withCredentials env inp .req cert) challenge1 := by
    rw [Pinned, withCredentials_relation]
    exact hpin
  obtain ⟨c₂, hr⟩ := checkRchallenge_works .req hpin₁
  obtain ⟨x, -, rfl⟩ := checkRchallenge_ok challenge1.2 (by decide) hr
  have hkem := findKemPublic_works hd.kagree.1 hpk hsize
  rw [← hkagree] at hkem
  obtain ⟨hdsign, hknown⟩ := acceptCredentials_known hcred
  simp only [validateHandshakeToken, Act.onStop_ok, validateHandshakeTokenImpl, validateRequest, checkIn,
    Act.bind_ok, check_ok, Act.read_ok, updateRemote_ok, and_assoc, exists_and_left, exists_eq_left']
  exact ⟨_, ⟨⟩, require_ok.2 (decide_eq_true hclass), _, _, hcred, _, hkem, _,
    findRequiredBinpropExactsize_works (holds_challenge hc1) challenge1.2, ⟨⟩, _, hr, ⟨⟩, checkHash_works hhash, hdsign,
    hknown, rfl⟩

theorem checkLchallenge_works {challenge : Challenge} (h : c.relation.lchallenge = some challenge) :
    checkLchallenge c challenge.1 = .ok () := by
  simp only [checkLchallenge, bind_ok, need_ok, require_ok, decide_eq_true_eq]
  exact ⟨challenge, h, rfl⟩

/-- The signature of `transcript` verifies with the key of the certificate. -/
structure SignedBy (env : Env κ ρ) (cert : X509) (transcript : List BinaryProperty) (signature : Octets) : Prop where
  key : ∃ key, cert.pubkey = some key ∧ key.canSign = true ∧
    env.digestVerify key (env.serializeArray transcript) signature = true
  ne_nil : signature ≠ []

theorem checkSignature_works {transcript : List BinaryProperty} {signature : Octets}
    (hcert : c.remoteIdentity.identityCert = some cert) (h : SignedBy env cert transcript signature) :
    checkSignature env c transcript signature = .ok () := by
  obtain ⟨key, hkey, hcan, hverify⟩ := h.key
  have hsignature : validatePqSignature env key transcript signature = .ok () := by
    simp only [validatePqSignature, bind_ok, require_ok]
    exact ⟨⟨⟩, by simpa using h.ne_nil, hverify⟩
  simp only [checkSignature, bind_ok, need_ok, require_ok, hcert, Option.bind_some]
  refine ⟨key, hkey, ⟨⟩, hcan, ?_⟩
  rw [hsignature]
  rfl

theorem validateReply_works {d : Credentials} {v : Exchanged} {signature : Octets}
    (hclass : inp.classId = some (str "pqsec-dds.auth:1.0+Reply")) (hcarries : inp.Carries d)
    (hd : InOrder env amb trusted c.localIdentity d cert) (hparts : HasParts inp d.kagree v signature)
    (hpin : Pinned c v.challenge2) (hlch : c.relation.lchallenge = some v.challenge1)
    (hhash1 : HashSent inp optional "hash_c1" c.handshake.hashC1)
    (hhash2 : HashSent inp optional "hash_c2" (credentialHash env inp))
    (hsigned : SignedBy env cert (replyTranscript optional c.handshake.hashC1 (credentialHash env inp) v.challenge1.1
      v.challenge2.1 v.publicKey v.ciphertext) signature) :
    ∃ c', validateHandshakeToken env amb optional trusted inp .reply c = (.ok ⟨⟩, c') := by
  obtain ⟨info, hcred, hkagree⟩ := acceptCredentials_works .reply hcarries hd
  have hrelation : (c.withCredentials env inp .reply cert).relation = c.relation := withCredentials_relation
  have hpin₁ : Pinned (c.withCredentials env inp .reply cert) v.challenge2 := by
    rw [Pinned, hrelation]
    exact hpin
  obtain ⟨c₂, hr⟩ := checkRchallenge_works .reply hpin₁
  obtain ⟨x, -, rfl⟩ := checkRchallenge_ok v.challenge2.2 (by decide) hr
  have hfind := findSignedParts_works hparts
  rw [← hkagree] at hfind
  have hhandshake : (c.withCredentials env inp .reply cert).handshake =
      { c.handshake with hashC2 := credentialHash env inp } := by
    simp only [Context.withCredentials, Context.setHash, setPermissionsDocument_handshake, Context.setIdentityCert]
  have hhash1' : HashSent inp optional "hash_c1" (c.withCredentials env inp .reply cert).handshake.hashC1 := by
    rw [hhandshake]
    exact hhash1
  have hstored : (c.withCredentials env inp .reply cert).remoteIdentity.identityCert = some cert := by
    simp only [Context.withCredentials, Context.setHash, Context.setPermissionsDocument, Context.setIdentityCert]
    split <;> rfl
  obtain ⟨hdsign, hknown⟩ := acceptCredentials_known hcred
  simp only [validateHandshakeToken, Act.onStop_ok, validateHandshakeTokenImpl, validateReply, checkIn,
    Act.bind_ok, check_ok, Act.read_ok, updateRemote_ok, and_assoc, exists_and_left, exists_eq_left', id_eq]
  refine ⟨_, ⟨⟩, require_ok.2 (decide_eq_true hclass), _, _, hcred, _, hfind, ⟨⟩, _, hr, ⟨⟩, checkHash_works hhash1', ⟨⟩,
    checkHash_works hhash2, ⟨⟩, checkLchallenge_works ?_, hdsign, hknown, checkSignature_works hstored ?_, ⟨⟩, rfl⟩
  · change (c.withCredentials env inp .reply cert).relation.lchallenge = _
    rw [hrelation]
    exact hlch
  · change SignedBy env cert (replyTranscript optional (c.withCredentials env inp .reply cert).handshake.hashC1
      (c.withCredentials env inp .reply cert).handshake.hashC2 _ _ _ _) signature
    rw [hhandshake]
    exact hsigned

theorem validateFinal_works {v : Exchanged} {signature : Octets}
    (hclass : inp.classId = some (str "pqsec-dds.auth:1.0+Final"))
    (hparts : HasParts inp c.remoteIdentity.kagreeAlgoKind v signature)
    (hpin : Pinned c v.challenge1) (hlch : c.relation.lchallenge = some v.challenge2)
    (hhash1 : HashSent inp optional "hash_c1" c.handshake.hashC1)
    (hhash2 : HashSent inp optional "hash_c2" c.handshake.hashC2)
    (hcert : c.remoteIdentity.identityCert = some cert)
    (hsigned : SignedBy env cert (finalTranscript optional c.handshake.hashC1 c.handshake.hashC2 v.challenge1.1
      v.challenge2.1 v.publicKey v.ciphertext) signature) :
    ∃ c', validateHandshakeToken env amb optional trusted inp .final c = (.ok ⟨⟩, c') := by
  obtain ⟨c₁, hr⟩ := checkRchallenge_works .final hpin
  obtain ⟨rfl, -⟩ := checkRchallenge_final_ok hr
  simp only [validateHandshakeToken, Act.onStop_ok, validateHandshakeTokenImpl, validateFinal, checkIn,
    Act.bind_ok, check_ok, Act.read_ok, and_assoc, exists_and_left, exists_eq_left', id_eq]
  exact ⟨_, ⟨⟩, require_ok.2 (decide_eq_true hclass), _, findSignedParts_works hparts, ⟨⟩, _, hr, ⟨⟩, checkHash_works hhash1,
    ⟨⟩, checkHash_works hhash2, ⟨⟩, checkLchallenge_works hlch, checkSignature_works hcert hsigned, rfl⟩

/-! ## The builders -/

variable {certData pdata pk ct ss : Octets} {key : κ}

theorem makeRequest_works (hk : KemWorks env k) (hkagree : c.localIdentity.kagreeAlgoKind = k) {challenge : Challenge}
    (hlch : c.relation.lchallenge = some challenge) :
    ∃ out c', makeRequest env amb optional certData pdata c = (.ok out, c') := by
  obtain ⟨key, pk, hgen, -, hlen⟩ := pqsecKemKeypairGenerate_works hk amb.keySeed
  have hpos := (kemSizes_of_known (hk.known amb.keySeed)).1.1
  have hne : pk ≠ [] := by
    rintro rfl
    exact hpos hlen.symm
  have hkeypair : generateKeypair env amb c = (.ok ⟨k, key, pk⟩, c.setKemKeypair (some ⟨k, key, pk⟩)) := by
    simp only [generateKeypair, bind, Act.bind, Act.write, Act.read, check, Act.lift, Context.setKemKeypair, hkagree, hgen,
      need, Option.elim_some, Except.mapError, pure]
  refine (exists_congr fun out => exists_congr fun c' => Act.bind_ok).2 ?_
  simp only [buildRequest, deref, Act.bind_ok, Act.write_ok, Act.read_ok, check_ok, assertThat_ok, Act.lift_ok, need_ok,
    require_ok, Act.pure_ok, decide_eq_true_eq, and_assoc, exists_and_left, exists_eq_left', exists_const]
  refine ⟨_, _, _, _, hkeypair, ?_, ?_, challenge, ?_, ?_, rfl, rfl⟩
  · change pk.length = getKemPublicKeySize c.localIdentity.kagreeAlgoKind
    rw [hkagree, hlen]
  · simpa using hne
  · rw [setPdata_eq]
    exact hlch
  · cases optional <;> rfl

variable (amb) in
theorem encapsulateTo_works (hk : KemWorks env k) (hkagree : c.remoteIdentity.kagreeAlgoKind = k)
    (hpk : inp.findBinaryProperty "pqsec-dds.kem_public" = some (binaryProperty "pqsec-dds.kem_public" pk))
    (hexp : Exported env k key pk) (hnone : c.handshake.kemCt = none) :
    ∃ ct ss, encapsulateTo env amb inp c =
        (.ok (binaryProperty "pqsec-dds.kem_public" pk), c.setEncapsulated (some ct, some ss)) ∧
      ct.length = getKemCiphertextSize k ∧ ss ≠ [] := by
  obtain ⟨ct, ss, henc, hlen, hss⟩ := pqsecKemEncapsulate_works hk hexp amb.encapSeed (c.handshake.kemCt, c.handshake.kemSs)
  refine ⟨ct, ss, ?_, hlen, hss⟩
  have hunset : (c.handshake.kemCt.isNone || c.handshake.kemSs.isNone) = true := by
    rw [hnone]
    rfl
  simp only [encapsulateTo, Act.bind_ok, Act.read_ok, and_assoc, exists_and_left, exists_eq_left', id_eq, hunset, if_true,
    check_ok, need_ok, Act.write_ok, require_ok, Act.pure_ok, exists_const, hkagree]
  exact ⟨_, hpk, by simp only [binaryProperty, henc], rfl, by simp only [binaryProperty, henc]⟩

theorem createPqSignature_works (hw : Works env) (amb : Ambient ρ) {signer : EvpPkey} (hcan : signer.canSign = true) :
    ∃ sign : List BinaryProperty → Octets, ∀ properties,
      createPqSignature env amb signer properties = .ok (env.serializeArray properties, sign properties) := by
  refine ⟨fun properties => (env.digestSign signer (env.serializeArray properties) amb.signSeed).getD [], ?_⟩
  intro properties
  obtain ⟨signature, hsign, -⟩ := hw.signature signer (env.serializeArray properties) amb.signSeed hcan
  simp only [createPqSignature, bind_ok, need_ok, pure_ok, hsign, Option.getD_some]
  exact ⟨signature, rfl, rfl⟩

/-- What is signed verifies. -/
theorem Works.signed (hw : Works env) {signer : EvpPkey} {properties : List BinaryProperty} {signature : Octets}
    (hsign : env.digestSign signer (env.serializeArray properties) amb.signSeed = some signature)
    (hkey : cert.pubkey = some signer) (hcan : signer.canSign = true) :
    SignedBy env cert properties signature ∧ signature.length ≤ intMax := by
  obtain ⟨signature', hsign', hne, hle, hverify⟩ := hw.signature signer (env.serializeArray properties) amb.signSeed hcan
  obtain rfl := Option.some.inj (hsign.symm.trans hsign')
  exact ⟨⟨⟨signer, hkey, hcan, hverify⟩, hne⟩, hle⟩

theorem answerRequest_works (hw : Works env) (hk : KemWorks env k) (hkagree : c.remoteIdentity.kagreeAlgoKind = k)
    (hpem : env.pemWriteX509 c.localIdentity.identityCert = some certData)
    (hpk : inp.findBinaryProperty "pqsec-dds.kem_public" = some (binaryProperty "pqsec-dds.kem_public" pk))
    (hexp : Exported env k key pk) (hnone : c.handshake.kemCt = none) {challenge1 challenge2 : Challenge}
    (h1 : c.relation.rchallenge = some challenge1) (h2 : c.relation.lchallenge = some challenge2)
    (hcan : c.localIdentity.privateKey.canSign = true) :
    ∃ v c', answerRequest env amb optional inp pdata c = (.ok v, c') := by
  obtain ⟨ct, ss, hencap, -⟩ := encapsulateTo_works amb hk hkagree hpk hexp hnone
  simp only [answerRequest, deref, getCertificateContents, Act.bind_ok, Act.write_ok, Act.read_ok, check_ok, assertThat_ok,
    Act.lift_ok, need_ok, require_ok, Act.pure_ok, and_assoc, exists_and_left, exists_eq_left', exists_const, id_eq]
  have hkept : ∀ out pdata, ((c.setEncapsulated out).setPdata pdata).relation = c.relation := by
    intro out pdata
    rw [setPdata_eq]
    rfl
  have hct : ∀ pdata, ((c.setEncapsulated (some ct, some ss)).setPdata pdata).handshake.kemCt = some ct := by
    intro pdata
    rw [setPdata_eq]
    rfl
  obtain ⟨sign, hsign⟩ := createPqSignature_works hw amb hcan
  refine ⟨_, _, certData, hpem, _, _, hencap, ct, hct pdata, challenge1, ?_, challenge2, ?_, hcan, (_, sign _), hsign _, ?_,
    rfl, rfl⟩
  · exact (congrArg IdentityRelation.rchallenge (hkept _ pdata)).trans h1
  · exact (congrArg IdentityRelation.lchallenge (hkept _ pdata)).trans h2
  · cases optional <;> rfl

/-- A Request whose credentials, public key and challenge are in order is answered. -/
theorem makeReply_works (hw : Works env) (hk : KemWorks env k) {d : Credentials} {challenge1 challenge2 : Challenge}
    (hclass : inp.classId = some (str "pqsec-dds.auth:1.0+Req")) (hcarries : inp.Carries d)
    (hd : InOrder env amb trusted c.localIdentity d cert) (hkagree : d.kagree = k)
    (hpk : inp.findBinaryProperty "pqsec-dds.kem_public" = some (binaryProperty "pqsec-dds.kem_public" pk))
    (hexp : Exported env k key pk)
    (hc1 : inp.findBinaryProperty "challenge1" = some (binaryProperty "challenge1" challenge1.1)) (hpin : Pinned c challenge1)
    (hhash : HashSent inp optional "hash_c1" (credentialHash env inp))
    (hpem : env.pemWriteX509 c.localIdentity.identityCert = some certData) (hnone : c.handshake.kemCt = none)
    (hlch : c.relation.lchallenge = some challenge2) (hcan : c.localIdentity.privateKey.canSign = true) :
    ∃ v c', makeReply env amb optional trusted inp pdata c = (.ok v, c') := by
  subst hkagree
  obtain ⟨c₁, hv⟩ := validateRequest_works hclass hcarries hd hpk (hexp.length hk) hc1 hpin hhash
  obtain ⟨cert', hacc⟩ := validateRequest_ok hv
  obtain ⟨x, -, rfl⟩ := hacc.state
  have hlocal : (c.accepted env inp .req cert' x).localIdentity = c.localIdentity := accepted_localIdentity
  have hremote : (c.accepted env inp .req cert' x).remoteIdentity.kagreeAlgoKind = d.kagree := by
    rw [accepted_remoteIdentity, hd.kagree.2]
    rfl
  have hrelation : (c.accepted env inp .req cert' x).relation = { c.relation with rchallenge := some x } := accepted_relation
  have hct : (c.accepted env inp .req cert' x).handshake.kemCt = none := by
    rw [accepted_handshake_req]
    exact hnone
  have hpem' : env.pemWriteX509 (c.accepted env inp .req cert' x).localIdentity.identityCert = some certData := by
    rw [hlocal]
    exact hpem
  have h1 : (c.accepted env inp .req cert' x).relation.rchallenge = some x := by rw [hrelation]
  have h2 : (c.accepted env inp .req cert' x).relation.lchallenge = some challenge2 := by
    rw [hrelation]
    exact hlch
  obtain ⟨v, c', ha⟩ : ∃ v c', answerRequest env amb optional inp pdata (c.accepted env inp .req cert' x) = (.ok v, c') :=
    answerRequest_works hw hk hremote hpem' hpk hexp hct h1 h2 (by rw [hlocal]; exact hcan)
  exact ⟨v, c', Act.bind_ok.2 ⟨_, _, hv, ha⟩⟩

theorem answerReply_works (hw : Works env) (hk : KemWorks env k) {seed : ρ} {challenge1 challenge2 : Challenge}
    (hct : inp.findBinaryProperty "pqsec-dds.kem_ciphertext" = some (binaryProperty "pqsec-dds.kem_ciphertext" ct))
    (hpk : inp.findBinaryProperty "pqsec-dds.kem_public" = some (binaryProperty "pqsec-dds.kem_public" pk))
    (hkeypair : c.handshake.kemKeypair = some ⟨k, key, pk⟩) (hexp : Exported env k key pk)
    (henc : (env.kem k).Encapsulated pk seed ct ss) (h1 : c.relation.lchallenge = some challenge1)
    (h2 : c.relation.rchallenge = some challenge2) (hcan : c.localIdentity.privateKey.canSign = true) :
    ∃ v c', answerReply env amb optional inp c = (.ok v, c') := by
  obtain ⟨sign, hsign⟩ := createPqSignature_works hw amb hcan
  have hdec := pqsecKemDecapsulate_works hk hexp henc c.handshake.kemSs
  simp only [answerReply, Act.bind_ok, Act.write_ok, Act.read_ok, check_ok, Act.lift_ok, need_ok, require_ok, Act.pure_ok,
    and_assoc, exists_and_left, exists_eq_left', exists_const, id_eq]
  refine ⟨_, _, _, hct, _, hpk, ?_, challenge1, h1, challenge2, h2, (_, sign _), hsign _, rfl, rfl⟩
  rw [hkeypair]
  simp only [binaryProperty, hdec]

theorem getCertificateExpiry_valid {t : Int} (hread : cert.notAfter = some t) (hafter : amb.time ≤ t)
    (hclock : 0 ≤ amb.ddsTime ∧ amb.ddsTime ≤ int64Max) : getCertificateExpiry amb cert ≠ ddsTimeInvalid := by
  rcases hdiff : asn1TimeDiff amb t with ⟨days, seconds⟩
  obtain ⟨-, hrange⟩ := asn1TimeDiff_spec hdiff
  obtain ⟨-, hdays, hseconds, hlt⟩ := hrange hafter
  have hinvalid : ddsTimeInvalid < 0 := by decide
  rcases getCertificateExpiry_cases hread hdiff hclock.2 hlt with ⟨heq, -, -⟩ | ⟨heq, -⟩
  · rw [heq, instantAfter]
    omega
  · rw [heq]
    decide

theorem completeHandshake_works (hss : c.handshake.kemSs = some ss) (hne : ss ≠ []) {challenge1 challenge2 : Challenge}
    (h1 : c.challenges.1 = some challenge1) (h2 : c.challenges.2 = some challenge2)
    (hcert : c.remoteIdentity.identityCert = some cert) (hexpiry : ∃ t, cert.notAfter = some t ∧ amb.time < t)
    (hclock : 0 ≤ amb.ddsTime ∧ amb.ddsTime ≤ int64Max) :
    ∃ certExp c', completeHandshake env amb c = (.ok certExp, c') := by
  obtain ⟨t, hread, hlt⟩ := hexpiry
  have hvalid : getCertificateExpiry amb cert ≠ ddsTimeInvalid := getCertificateExpiry_valid hread (by omega) hclock
  simp only [completeHandshake, deref, generateSharedSecret, Act.bind_ok, bind_ok, pure_ok, Act.write_ok, Act.read_ok,
    check_ok, Act.lift_ok, need_ok, require_ok, Act.pure_ok, Act.onStop_ok, and_assoc, exists_and_left, exists_eq_left',
    exists_const, id_eq, decide_eq_true_eq]
  exact ⟨_, _, _, ⟨ss, hss, by simpa using hne, rfl⟩, challenge1, h1, challenge2, h2, cert, hcert, hvalid, rfl, rfl⟩

/-! ## The operations -/

section Operations

variable {s s' : Authentication κ} {h l r a : Handle}

theorem check_works {σ α : Type} {P : Stop → Prop} {x : Except SecurityException α} {v : α} {t : σ} (h : x = .ok v) :
    Act.StopsWith P (check x) t :=
  .of_ok (check_ok.2 ⟨h, rfl⟩)

theorem remoteFor_works {token : Token} {guid : Guid} (hG : s.graph.Sound)
    (hsame : ∀ r remote, s.remoteGuidHash.lookup guid = some r → s.remoteIdentity r = some remote →
      env.dataHolderEqual remote.remoteIdentityToken token = true) :
    Act.StopsWith (fun _ => False) (remoteFor env amb token guid) s := by
  unfold remoteFor
  refine .bind (.read _) fun found s₁ h₁ => ?_
  obtain ⟨rfl, rfl⟩ := Act.read_ok.1 h₁
  rcases hfound : s.remoteGuidHash.lookup guid with _ | r
  · exact .bind (.write _) fun _ _ _ => .pure _
  · obtain ⟨remote, hremote, -⟩ := Option.map_eq_some_iff.1 ((hG.guid guid r).1 hfound)
    refine .bind (.demand (.inr (by rw [hremote]; rfl))) fun remote' s₂ h₂ => ?_
    obtain ⟨hremote', rfl⟩ := Act.demand_ok.1 h₂
    exact .bind (check_works (v := ⟨⟩) (require_ok.2 (hsame r remote' hfound hremote'))) fun _ _ _ => .pure _

theorem validateRemoteIdentity_works {request : Option Token} {token : Token} {guid : Guid}
    {rchallenge : Option Challenge} (hs : Referential s) (hl : (s.localIdentity l).isSome)
    (hclass : token.classId = some (str "pqsec-dds.auth:1.0"))
    (hrequest : request.mapM validateAuthRequestToken = .ok rchallenge) (hrandom : amb.randReturn = 1)
    (hsame : ∀ r remote, s.remoteGuidHash.lookup guid = some r → s.remoteIdentity r = some remote →
      env.dataHolderEqual remote.remoteIdentityToken token = true) :
    ∃ v s', validateRemoteIdentity env amb request l token guid s = (.ok v, s') := by
  have htoken : validateRemoteIdentityToken token = .ok () := by
    simp only [validateRemoteIdentityToken, bind_ok, need_ok, require_ok, decide_eq_true_eq]
    exact ⟨_, hclass, rfl⟩
  have hchallenge : generateChallenge amb = .ok amb.randBytes := by
    rw [generateChallenge, hrandom, if_neg (by decide)]
  refine Act.StopsWith.ok ?_
  unfold validateRemoteIdentity
  refine .bind (.demand (.inr hl)) fun localIdent s₁ h₁ => .bind (check_works htoken) fun _ s₂ h₂ =>
    .bind (check_works hrequest) fun rchallenge' s₃ h₃ => .bind (check_works hchallenge) fun lchallenge s₄ h₄ => ?_
  obtain ⟨-, rfl⟩ := Act.demand_ok.1 h₁
  obtain ⟨-, rfl⟩ := check_ok.1 h₂
  obtain ⟨-, rfl⟩ := check_ok.1 h₃
  obtain ⟨-, rfl⟩ := check_ok.1 h₄
  refine .bind (remoteFor_works hs.sound hsame) fun r s₅ hfor =>
    .bind (relate_stops (remoteFor_remote hfor (l := l)).1) fun a s₆ hrelate => ?_
  obtain ⟨relation, hrel, hlch⟩ := relate_relation hs hfor hrelate
  refine .bind (.demand (.inr (by rw [hrel]; rfl))) fun relation' s₇ h₇ => ?_
  obtain ⟨hrel', rfl⟩ := Act.demand_ok.1 h₇
  obtain rfl := Option.some.inj (hrel.symm.trans hrel')
  cases request with
  | some _ => exact .bind (.pure _) fun _ _ _ => .pure _
  | none =>
    obtain ⟨x, hx⟩ := Option.isSome_iff_exists.1 hlch
    exact .bind (.of_ok (Act.lift_ok.2 ⟨by rw [hx]; rfl, rfl⟩)) fun _ _ _ => .bind (.pure _) fun _ _ _ => .pure _

/-- An operation that works on a new handshake makes one for a pair that has none yet. -/
theorem onHandshake_new {α : Type} {x : HandshakeCall κ α} {step : CreatedHandshakeStep} (ha : Allocates amb s)
    (hs : Referential s) (hlink : s.findIdentityRelation l r = some a) (hnone : s.findHandshake l r = none)
    (hframe : Act.Keeps Context.Frame x)
    (hx : ∀ c, Points s c → c.handshake = .new a step → ∃ v c', x c = (.ok v, c')) :
    ∃ v c c' s', onHandshake amb l r step x s = (.ok (amb.object, v), s') ∧ c.handshake = .new a step ∧
      OnHandshake amb s l r step x amb.object c c' (.ok v) s' := by
  have hsource : ∀ h c, Source amb s l r step h c → Points s c → h = amb.object ∧ c.handshake = .new a step := by
    intro h c hsource hp
    cases hsource with
    | found handshake localHandle remoteHandle =>
      refine absurd ?_ (findHandshake_none hnone handshake)
      simp [Authentication.pairOf, hp.relation, localHandle, remoteHandle]
    | made none linked handshake =>
      obtain rfl := Option.some.inj (hlink.symm.trans linked)
      exact ⟨rfl, handshake⟩
  have hstops : Act.StopsWith (fun _ => False) (onHandshake amb l r step x) s := by
    refine onHandshake_stops ha hs (.inr (by rw [hlink]; rfl)) fun h c hsrc hp _ => ?_
    obtain ⟨v, c', hrun⟩ := hx c hp (hsource h c hsrc hp).2
    exact .of_ok hrun
  obtain ⟨v, s', hrun⟩ := hstops.ok
  obtain ⟨h, c, c', rx, hres, hon⟩ := onHandshake_cases ha hframe hrun (by simp)
  obtain ⟨rfl, hnew⟩ := hsource h c hon.source hon.points
  rcases rx with e | v'
  · cases hres
  · obtain rfl := Except.ok.inj hres
    exact ⟨v', c, c', s', hrun, hnew, hon⟩

theorem beginHandshakeRequest_eq {identity : LocalIdentityInfo} {remote : RemoteIdentityInfo}
    (hl : s.localIdentity l = some identity) (hr : s.remoteIdentity r = some remote)
    (hpem : env.pemWriteX509 identity.identityCert = some certData) :
    beginHandshakeRequest env amb l r pdata s =
      onHandshake amb l r .createdRequest (makeRequest env amb s.includeOptional certData pdata) s := by
  simp [beginHandshakeRequest, Act.demand, Act.read, Act.lift, getCertificateContents, need, bind, Act.bind, hl, hr, hpem,
    Except.mapError]

theorem processHandshake_works (hc : s.context h = some c) (hne : h ≠ 0)
    (hx : ∃ v c', processToken env amb s.includeOptional s.trustedCaList inp c = (.ok v, c')) :
    ∃ v s', processHandshake env amb inp h s = (.ok v, s') := by
  refine Act.StopsWith.ok ?_
  obtain ⟨hh, -⟩ := context_eq_some.1 hc
  unfold processHandshake
  refine .bind (check_works (v := ⟨⟩) (require_ok.2 (decide_eq_true hne))) fun _ s₁ h₁ => ?_
  obtain ⟨-, rfl⟩ := check_ok.1 h₁
  refine .bind (.demand (.inr (by rw [hh]; rfl))) fun hs' s₂ h₂ => .bind (.read _) fun s₃ s₄ h₃ => ?_
  obtain ⟨-, rfl⟩ := Act.demand_ok.1 h₂
  obtain ⟨rfl, rfl⟩ := Act.read_ok.1 h₃
  obtain ⟨v, c', hrun⟩ := hx
  refine .bind (withContext_stops hc (.of_ok hrun)) fun v' s₅ hwith => ?_
  rcases withContext_eq hwith with ⟨he, -, -⟩ | ⟨c₁, c₁', hc₁, hx₁, rfl⟩
  · cases he
  have hframe : c₁.Frame c₁' := processToken_frame.result hx₁
  refine .bind ?_ fun _ _ _ => .pure _
  intro e hwatch
  have heq := (watchExpiry_eq (setContext_moved hc₁ hframe) hframe (Prod.ext hwatch rfl)).1
  cases heq

end Operations

end PqsecDds.CycloneDDS
