import PqsecDds.CycloneDDS.Authentication

/-!
# What the parts of a handshake operation establish

For each part one lemma that says what its success means, and one that says what it leaves alone whether it
succeeds or not.
-/

namespace PqsecDds.CycloneDDS

open Lib

variable {κ ρ : Type} {env : Env κ ρ} {amb : Ambient ρ} {c c' : Context κ} {trusted : List X509} {inp : Token}
variable {optional : Bool} {u : PUnit}

/-! ## Properties of a token -/

/-- The value of a property, empty if it is missing. -/
def Token.value (t : Token) (name : String) : Octets := ((t.findBinaryProperty name).map (·.value)).getD []

theorem findBinaryProperty_value {t : Token} {name : String} {p : BinaryProperty}
    (h : t.findBinaryProperty name = some p) : p = binaryProperty name (t.value name) := by
  rw [findBinaryProperty_eq h]
  simp [Token.value, h, binaryProperty]

theorem findRequiredBinprop_ok {t : Token} {name : String} {p : BinaryProperty}
    (h : findRequiredBinprop t name = .ok p) :
    p = binaryProperty name (t.value name) ∧ t.findBinaryProperty name = some p := by
  simp only [findRequiredBinprop, bind_ok, need_ok, require_ok, pure_ok] at h
  obtain ⟨p', hp, -, -, rfl⟩ := h
  exact ⟨findBinaryProperty_value hp, hp⟩

theorem findRequiredNonemptyBinprop_ok {t : Token} {name : String} {p : BinaryProperty}
    (h : findRequiredNonemptyBinprop t name = .ok p) : p = binaryProperty name (t.value name) ∧ t.value name ≠ [] := by
  simp only [findRequiredNonemptyBinprop, bind_ok, require_ok, pure_ok] at h
  obtain ⟨p', hp, -, hne, rfl⟩ := h
  obtain ⟨rfl, -⟩ := findRequiredBinprop_ok hp
  exact ⟨rfl, by simpa [binaryProperty] using hne⟩

theorem findRequiredBinpropExactsize_ok {t : Token} {name : String} {size : Nat} {p : BinaryProperty}
    (h : findRequiredBinpropExactsize t name size = .ok p) :
    p = binaryProperty name (t.value name) ∧ (t.value name).length = size := by
  simp only [findRequiredBinpropExactsize, bind_ok, require_ok, pure_ok, decide_eq_true_eq] at h
  obtain ⟨p', hp, -, hlen, rfl⟩ := h
  obtain ⟨rfl, -⟩ := findRequiredBinprop_ok hp
  exact ⟨rfl, hlen⟩

/-- The five credential properties of a token, as they are hashed. -/
def Token.credentials (t : Token) : List BinaryProperty :=
  ["c.id", "c.perm", "c.pdata", "c.dsign_algo", "c.kagree_algo"].map fun name => binaryProperty name (t.value name)

def credentialHash (env : Env κ ρ) (t : Token) : HashValue := env.sha256 (env.serializeArray t.credentials)

/-! ## The frame of an operation -/

/-- What no operation on a handshake changes. -/
structure Context.Frame (c c' : Context κ) : Prop where
  localIdentity : ∃ pdata, c'.localIdentity = { c.localIdentity with pdata }
  localHandle : c'.relation.localIdentity = c.relation.localIdentity
  remoteHandle : c'.relation.remoteIdentity = c.relation.remoteIdentity
  lchallenge : c'.relation.lchallenge = c.relation.lchallenge
  rchallenge : ∀ x, c.relation.rchallenge = some x → c'.relation.rchallenge = some x
  guid : c'.remoteIdentity.guid = c.remoteIdentity.guid
  remoteIdentityToken : c'.remoteIdentity.remoteIdentityToken = c.remoteIdentity.remoteIdentityToken
  linkHash : c'.remoteIdentity.linkHash = c.remoteIdentity.linkHash
  timer : c'.remoteIdentity.timer = c.remoteIdentity.timer
  relation : c'.handshake.relation = c.handshake.relation
  createdIn : c'.handshake.createdIn = c.handshake.createdIn

namespace Context.Frame

instance : Std.Refl (Frame : Context κ → Context κ → Prop) :=
  ⟨fun c => ⟨⟨c.localIdentity.pdata, rfl⟩, rfl, rfl, rfl, fun _ h => h, rfl, rfl, rfl, rfl, rfl, rfl⟩⟩

instance : IsTrans (Context κ) Frame where
  trans a b c h h' := by
    refine ⟨?_, h'.localHandle.trans h.localHandle, h'.remoteHandle.trans h.remoteHandle,
      h'.lchallenge.trans h.lchallenge, fun x hx => h'.rchallenge x (h.rchallenge x hx), h'.guid.trans h.guid,
      h'.remoteIdentityToken.trans h.remoteIdentityToken, h'.linkHash.trans h.linkHash, h'.timer.trans h.timer,
      h'.relation.trans h.relation, h'.createdIn.trans h.createdIn⟩
    obtain ⟨p, hp⟩ := h.localIdentity
    obtain ⟨p', hp'⟩ := h'.localIdentity
    exact ⟨p', by rw [hp', hp]⟩

theorem of_remote {r : RemoteIdentityInfo} (hguid : r.guid = c.remoteIdentity.guid)
    (htoken : r.remoteIdentityToken = c.remoteIdentity.remoteIdentityToken)
    (hlink : r.linkHash = c.remoteIdentity.linkHash) (htimer : r.timer = c.remoteIdentity.timer) :
    Frame c { c with remoteIdentity := r } :=
  ⟨⟨c.localIdentity.pdata, rfl⟩, rfl, rfl, rfl, fun _ h => h, hguid, htoken, hlink, htimer, rfl, rfl⟩

theorem of_handshake {hs : HandshakeInfo κ} (hrel : hs.relation = c.handshake.relation)
    (hcreated : hs.createdIn = c.handshake.createdIn) : Frame c { c with handshake := hs } :=
  ⟨⟨c.localIdentity.pdata, rfl⟩, rfl, rfl, rfl, fun _ h => h, rfl, rfl, rfl, rfl, hrel, hcreated⟩

theorem setIdentityCert (cert : Option X509) (c : Context κ) : Frame c (c.setIdentityCert cert) :=
  .of_remote rfl rfl rfl rfl

theorem setPermissionsDocument (value : Octets) (c : Context κ) : Frame c (c.setPermissionsDocument value) := by
  unfold Context.setPermissionsDocument
  split
  · exact Std.Refl.refl c
  · exact .of_remote rfl rfl rfl rfl

theorem setAlgorithms (d k : AuthAlgoKind) (pdata : Octets) (c : Context κ) : Frame c (c.setAlgorithms d k pdata) :=
  .of_remote rfl rfl rfl rfl

theorem setHash (tokenType : HandshakeTokenType) (hash : HashValue) (c : Context κ) :
    Frame c (c.setHash tokenType hash) := by
  cases tokenType <;> exact .of_handshake rfl rfl

theorem setPdata (pdata : Octets) (c : Context κ) : Frame c (c.setPdata pdata) := by
  unfold Context.setPdata
  split
  · exact ⟨⟨pdata, rfl⟩, rfl, rfl, rfl, fun _ h => h, rfl, rfl, rfl, rfl, rfl, rfl⟩
  · exact Std.Refl.refl c

theorem setKemKeypair (keypair : Option (KemKeypair κ)) (c : Context κ) : Frame c (c.setKemKeypair keypair) :=
  .of_handshake rfl rfl

theorem setEncapsulated (out : Option Octets × Option Octets) (c : Context κ) : Frame c (c.setEncapsulated out) :=
  .of_handshake rfl rfl

theorem setKemSs (ss : Option Octets) (c : Context κ) : Frame c (c.setKemSs ss) := .of_handshake rfl rfl

theorem setSharedSecret (secret : Option SharedSecret) (c : Context κ) : Frame c (c.setSharedSecret secret) :=
  .of_handshake rfl rfl

end Context.Frame

open Context

theorem checkRchallenge_frame (value : Octets) (tokenType : HandshakeTokenType) :
    Act.Keeps (Frame (κ := κ)) (checkRchallenge value tokenType) := by
  intro c
  rcases hr : c.relation.rchallenge with _ | x
  · have hpost : (checkRchallenge value tokenType c).2 =
        if tokenType = .final then c else c.setRchallenge (toChallenge value) := by
      simp [checkRchallenge, bind, Act.bind, Act.read, Act.write, hr]
    rw [hpost]
    split
    · exact Std.Refl.refl c
    · refine ⟨⟨c.localIdentity.pdata, rfl⟩, rfl, rfl, rfl, fun y hy => ?_, rfl, rfl, rfl, rfl, rfl, rfl⟩
      rw [hr] at hy
      cases hy
  · have hpost : (checkRchallenge value tokenType c).2 = c := by
      simp [checkRchallenge, bind, Act.bind, Act.read, check, Act.lift, hr]
    rw [hpost]
    exact Std.Refl.refl c

theorem acceptCredentials_frame (tokenType : HandshakeTokenType) :
    Act.Keeps Frame (acceptCredentials env amb trusted inp tokenType) := by
  unfold acceptCredentials
  repeat' first
    | refine Act.Keeps.bind ?_ fun _ => ?_
    | exact .lift _
    | exact .read _
    | exact .pure _
  · exact .write (Frame.setIdentityCert _)
  · exact .write (Frame.setPermissionsDocument _)
  · exact .write (Frame.setHash _ _)

theorem checkIn_frame {α : Type} (x : Context κ → Except SecurityException α) :
    Act.Keeps Frame (checkIn x) :=
  .bind (.read _) fun _ => .lift _

theorem updateRemote_frame (info : CredentialsInfo) : Act.Keeps Frame (updateRemote info : HandshakeCall κ PUnit) :=
  .bind (.lift _) fun _ => .bind (.lift _) fun _ => .write (Frame.setAlgorithms _ _ _)

theorem validateHandshakeToken_frame (tokenType : HandshakeTokenType) :
    Act.Keeps Frame (validateHandshakeToken env amb optional trusted inp tokenType) := by
  unfold validateHandshakeToken
  refine .onStop ?_ fun c => ?_
  · cases tokenType <;> simp only [validateHandshakeTokenImpl]
    · unfold validateRequest
      repeat' first
        | with_reducible exact acceptCredentials_frame _
        | with_reducible exact checkRchallenge_frame _ _
        | with_reducible exact checkIn_frame _
        | with_reducible refine Act.Keeps.bind ?_ fun _ => ?_
        | with_reducible exact updateRemote_frame _
        | exact .lift _
    · unfold validateReply
      repeat' first
        | with_reducible exact acceptCredentials_frame _
        | with_reducible exact checkRchallenge_frame _ _
        | with_reducible exact checkIn_frame _
        | with_reducible refine Act.Keeps.bind ?_ fun _ => ?_
        | with_reducible exact updateRemote_frame _
        | exact .lift _
    · unfold validateFinal
      repeat' first
        | with_reducible exact checkRchallenge_frame _ _
        | with_reducible exact checkIn_frame _
        | exact .read _
        | with_reducible refine Act.Keeps.bind ?_ fun _ => ?_
        | exact .lift _
  · split
    · exact Std.Refl.refl c
    · exact Frame.setIdentityCert none c

/-- The key material and the shared secret of a handshake: all but its hashes. -/
def Context.material (c : Context κ) : HandshakeInfo κ :=
  { c.handshake with hashC1 := zeroBytes 32, hashC2 := zeroBytes 32 }

theorem setPermissionsDocument_handshake (value : Octets) (c : Context κ) :
    (c.setPermissionsDocument value).handshake = c.handshake := by
  unfold Context.setPermissionsDocument
  split <;> rfl

theorem acceptCredentials_material (tokenType : HandshakeTokenType) :
    Act.Keeps (Act.Same material) (acceptCredentials env amb trusted inp tokenType) := by
  unfold acceptCredentials
  repeat' first
    | with_reducible refine Act.Keeps.bind ?_ fun _ => ?_
    | exact .lift _
    | exact .read _
    | exact .pure _
  · exact .write fun _ => rfl
  · refine .write fun c => ?_
    simp only [Act.Same, material, setPermissionsDocument_handshake]
  · refine .write fun c => ?_
    cases tokenType <;> rfl

theorem checkRchallenge_material (value : Octets) (tokenType : HandshakeTokenType) :
    Act.Keeps (Act.Same material) (checkRchallenge value tokenType : HandshakeCall κ PUnit) := by
  unfold checkRchallenge
  refine .bind (.read _) fun rchallenge => ?_
  cases rchallenge
  · refine .write fun c => ?_
    split <;> rfl
  · exact .lift _

theorem updateRemote_material (info : CredentialsInfo) :
    Act.Keeps (Act.Same material) (updateRemote info : HandshakeCall κ PUnit) :=
  .bind (.lift _) fun _ => .bind (.lift _) fun _ => .write fun _ => rfl

theorem validateHandshakeToken_material (tokenType : HandshakeTokenType) :
    Act.Keeps (Act.Same material) (validateHandshakeToken env amb optional trusted inp tokenType) := by
  unfold validateHandshakeToken
  refine .onStop ?_ fun c => ?_
  · cases tokenType <;> simp only [validateHandshakeTokenImpl]
    · unfold validateRequest checkIn
      repeat' first
        | with_reducible exact acceptCredentials_material _
        | with_reducible exact checkRchallenge_material _ _
        | with_reducible refine Act.Keeps.bind ?_ fun _ => ?_
        | with_reducible exact updateRemote_material _
        | exact .read _
        | exact .lift _
    · unfold validateReply checkIn
      repeat' first
        | with_reducible exact acceptCredentials_material _
        | with_reducible exact checkRchallenge_material _ _
        | with_reducible refine Act.Keeps.bind ?_ fun _ => ?_
        | with_reducible exact updateRemote_material _
        | exact .read _
        | exact .lift _
    · unfold validateFinal checkIn
      repeat' first
        | with_reducible exact checkRchallenge_material _ _
        | with_reducible refine Act.Keeps.bind ?_ fun _ => ?_
        | exact .read _
        | exact .lift _
  · split <;> rfl

/-! ## Credentials -/

/-- The local identity `l` accepts the credentials of `inp`, with the certificate `cert`. -/
structure AcceptedCredentials (env : Env κ ρ) (amb : Ambient ρ) (trusted : List X509) (inp : Token)
    (l : LocalIdentityInfo) (cert : X509) : Prop where
  loaded : loadX509CertificateFromBinprop env amb (binaryProperty "c.id" (inp.value "c.id")) l.identityCa l.crl
    trusted = .ok cert
  pdata : validatePdata env amb (inp.value "c.pdata") cert = .ok ()
  dsign : getDsignAlgoFromOctseq (inp.value "c.dsign_algo") = getAuthenticationAlgoKind cert
  known : getAuthenticationAlgoKind cert ≠ .unknown
  kagree : getKagreeAlgoFromOctseq (inp.value "c.kagree_algo") = l.kagreeAlgoKind

/-- What is stored of accepted credentials before the rest of the token is looked at. -/
def Context.withCredentials (env : Env κ ρ) (inp : Token) (tokenType : HandshakeTokenType) (cert : X509)
    (c : Context κ) : Context κ :=
  ((c.setIdentityCert (some cert)).setPermissionsDocument (inp.value "c.perm")).setHash tokenType
    (credentialHash env inp)

theorem acceptCredentials_ok {tokenType : HandshakeTokenType} {info : CredentialsInfo}
    (h : acceptCredentials env amb trusted inp tokenType c = (.ok info, c')) :
    ∃ cert, AcceptedCredentials env amb trusted inp c.localIdentity cert ∧
      c' = c.withCredentials env inp tokenType cert ∧
      info = ⟨getAuthenticationAlgoKind cert, c.localIdentity.kagreeAlgoKind,
        binaryProperty "c.pdata" (inp.value "c.pdata")⟩ := by
  simp only [acceptCredentials, Act.bind_ok, check_ok, Act.read_ok, Act.write_ok, Act.pure_ok, require_ok,
    decide_eq_true_eq, and_assoc, exists_and_left, exists_eq_left', exists_const] at h
  obtain ⟨cId, hid, cert, hload, cPerm, hperm, cPdata, hpdata, _, hvalid, cDsign, hdsign, hknown, hkind, cKagree,
    hkagree, -, hlocal, hinfo, hc'⟩ := h
  obtain ⟨rfl, -⟩ := findRequiredNonemptyBinprop_ok hid
  obtain ⟨rfl, -⟩ := findRequiredBinprop_ok hperm
  obtain ⟨rfl, -⟩ := findRequiredBinprop_ok hpdata
  obtain ⟨rfl, -⟩ := findRequiredNonemptyBinprop_ok hdsign
  obtain ⟨rfl, -⟩ := findRequiredNonemptyBinprop_ok hkagree
  refine ⟨cert, ⟨hload, hvalid, hkind, ?_, hlocal⟩, hc'.symm, ?_⟩
  · rw [← hkind]
    exact hknown
  · rw [← hinfo]
    simp only [binaryProperty] at hkind hlocal ⊢
    rw [hkind, hlocal]

/-- Both algorithms of accepted credentials are known. -/
theorem acceptCredentials_known {tokenType : HandshakeTokenType} {info : CredentialsInfo}
    (h : acceptCredentials env amb trusted inp tokenType c = (.ok info, c')) :
    info.dsignAlgoKind ≠ .unknown ∧ info.kagreeAlgoKind ≠ .unknown := by
  simp only [acceptCredentials, Act.bind_ok, check_ok, Act.read_ok, Act.write_ok, Act.pure_ok, require_ok,
    decide_eq_true_eq, and_assoc, exists_and_left, exists_eq_left', exists_const] at h
  obtain ⟨_, -, _, -, _, -, _, -, _, -, _, -, hdsign, -, _, -, hkagree, -, rfl, -⟩ := h
  exact ⟨hdsign, hkagree⟩

theorem updateRemote_ok {info : CredentialsInfo} :
    updateRemote info c = (.ok u, c') ↔ info.dsignAlgoKind ≠ .unknown ∧ info.kagreeAlgoKind ≠ .unknown ∧
      c.setAlgorithms info.dsignAlgoKind info.kagreeAlgoKind info.cPdata.value = c' := by
  simp only [updateRemote, Act.bind_ok, assertThat_ok, Act.write_ok, decide_eq_true_eq, and_assoc, exists_and_left,
    exists_eq_left', exists_const]

/-- What is kept of a remote identity's credentials once they are accepted. -/
def RemoteIdentityInfo.accepted (r : RemoteIdentityInfo) (inp : Token) (cert : X509) (kagreeAlgoKind : AuthAlgoKind) :
    RemoteIdentityInfo :=
  { r with
    identityCert := some cert
    permissionsDocument := if (inp.value "c.perm").isEmpty then r.permissionsDocument
      else stringFromData (inp.value "c.perm")
    dsignAlgoKind := getAuthenticationAlgoKind cert
    kagreeAlgoKind
    pdata := inp.value "c.pdata" }

/-! ## Challenges and signatures -/

theorem toChallenge_val {value : Octets} (h : value.length = 32) : (toChallenge value).1 = value := by
  simp [toChallenge, h]

/-- The challenge of the remote side is the one the relation held, or is held from now on. -/
theorem checkRchallenge_ok {value : Octets} {tokenType : HandshakeTokenType} (hlen : value.length = 32)
    (htype : tokenType ≠ .final) (h : checkRchallenge value tokenType c = (.ok u, c')) :
    ∃ x : Challenge, x.1 = value ∧ c' = c.setRchallenge x := by
  simp only [checkRchallenge, Act.bind_ok, Act.read_ok] at h
  obtain ⟨r, c₁, ⟨hr, rfl⟩, h⟩ := h
  cases r with
  | none =>
    simp only [htype, if_false, Act.write_ok] at h
    exact ⟨toChallenge value, toChallenge_val hlen, h.symm⟩
  | some x =>
    simp only [check_ok, require_ok, decide_eq_true_eq] at h
    obtain ⟨hx, rfl⟩ := h
    refine ⟨x, hx, ?_⟩
    cases c
    simp only at hr
    simp [setRchallenge, ← hr]

theorem checkRchallenge_final_ok {value : Octets} (h : checkRchallenge value .final c = (.ok u, c')) :
    c' = c ∧ ∀ x, c.relation.rchallenge = some x → x.1 = value := by
  simp only [checkRchallenge, Act.bind_ok, Act.read_ok] at h
  obtain ⟨r, c₁, ⟨hr, rfl⟩, h⟩ := h
  cases r with
  | none =>
    simp only [if_true, Act.write_ok] at h
    exact ⟨h.symm, fun x hx => by rw [hr] at hx; cases hx⟩
  | some x =>
    simp only [check_ok, require_ok, decide_eq_true_eq] at h
    obtain ⟨hx, rfl⟩ := h
    refine ⟨rfl, fun y hy => ?_⟩
    rw [hr] at hy
    obtain rfl := Option.some.inj hy
    exact hx

theorem checkLchallenge_ok {value : Octets} {v : Unit} (h : checkLchallenge c value = .ok v) :
    ∃ x : Challenge, c.relation.lchallenge = some x ∧ x.1 = value := by
  simp only [checkLchallenge, bind_ok, need_ok, require_ok, decide_eq_true_eq] at h
  exact h

/-- The signature verifies with the key of the certificate that is stored for the remote identity. -/
structure Verified (env : Env κ ρ) (c : Context κ) (transcript : List BinaryProperty) (signature : Octets)
    (cert : X509) (key : EvpPkey) : Prop where
  stored : c.remoteIdentity.identityCert = some cert
  pubkey : cert.pubkey = some key
  canSign : key.canSign = true
  verify : env.digestVerify key (env.serializeArray transcript) signature = true

theorem checkSignature_ok {transcript : List BinaryProperty} {signature : Octets} {v : Unit}
    (h : checkSignature env c transcript signature = .ok v) : ∃ cert key, Verified env c transcript signature cert key := by
  simp only [checkSignature, bind_ok, need_ok, require_ok, Option.bind_eq_some_iff] at h
  obtain ⟨key, ⟨cert, hcert, hkey⟩, -, hsign, h⟩ := h
  rcases hv : validatePqSignature env key transcript signature with e | v'
  · rw [hv] at h
    cases h
  · exact ⟨cert, key, hcert, hkey, hsign, validatePqSignature_ok hv⟩

/-- The parts of a token, taken from its properties. -/
def Token.parts (t : Token) : SignedParts :=
  ⟨t.value "pqsec-dds.kem_public", t.value "challenge1", t.value "challenge2", t.value "pqsec-dds.kem_ciphertext",
    t.value "signature"⟩

theorem findKemPublic_ok {kind : AuthAlgoKind} {p : BinaryProperty} (h : findKemPublic inp kind = .ok p) :
    p = binaryProperty "pqsec-dds.kem_public" (inp.value "pqsec-dds.kem_public") ∧
      (inp.value "pqsec-dds.kem_public").length = getKemPublicKeySize kind ∧
      inp.value "pqsec-dds.kem_public" ≠ [] := by
  simp only [findKemPublic, bind_ok, pure_ok] at h
  obtain ⟨p', hp, _, hsize, rfl⟩ := h
  obtain ⟨rfl, hne⟩ := findRequiredNonemptyBinprop_ok hp
  exact ⟨rfl, (validateKemProperty_ok hsize).1, hne⟩

theorem findSignedParts_ok {kind : AuthAlgoKind} {parts : SignedParts} (h : findSignedParts inp kind = .ok parts) :
    parts = inp.parts ∧ inp.parts.kemPublic.length = getKemPublicKeySize kind ∧ inp.parts.kemPublic ≠ [] ∧
      inp.parts.challenge1.length = 32 ∧ inp.parts.challenge2.length = 32 := by
  simp only [findSignedParts, bind_ok, pure_ok] at h
  obtain ⟨kp, hkp, ch1, hch1, ch2, hch2, ct, hct, _, -, sig, hsig, rfl⟩ := h
  obtain ⟨rfl, hsize, hne⟩ := findKemPublic_ok hkp
  obtain ⟨rfl, h1⟩ := findRequiredBinpropExactsize_ok hch1
  obtain ⟨rfl, h2⟩ := findRequiredBinpropExactsize_ok hch2
  obtain ⟨rfl, -⟩ := findRequiredNonemptyBinprop_ok hct
  obtain ⟨rfl, -⟩ := findRequiredNonemptyBinprop_ok hsig
  exact ⟨rfl, hsize, hne, h1, h2⟩

/-! ## The validator -/

/-- The state after a Request or a Reply was accepted with the certificate `cert`; `x` is the challenge of the
remote side. -/
def Context.accepted (env : Env κ ρ) (inp : Token) (tokenType : HandshakeTokenType) (cert : X509) (x : Challenge)
    (c : Context κ) : Context κ :=
  ((c.withCredentials env inp tokenType cert).setRchallenge x).setAlgorithms (getAuthenticationAlgoKind cert)
    c.localIdentity.kagreeAlgoKind (inp.value "c.pdata")

structure RequestAccepted (env : Env κ ρ) (amb : Ambient ρ) (trusted : List X509) (inp : Token) (cert : X509)
    (c c' : Context κ) : Prop where
  credentials : AcceptedCredentials env amb trusted inp c.localIdentity cert
  state : ∃ x : Challenge, x.1 = inp.value "challenge1" ∧ c' = c.accepted env inp .req cert x
  kemPublic : (inp.value "pqsec-dds.kem_public").length = getKemPublicKeySize c.localIdentity.kagreeAlgoKind
  kemPublic_ne_nil : inp.value "pqsec-dds.kem_public" ≠ []

theorem validateRequest_ok (h : validateHandshakeToken env amb optional trusted inp .req c = (.ok u, c')) :
    ∃ cert, RequestAccepted env amb trusted inp cert c c' := by
  simp only [validateHandshakeToken, Act.onStop_ok, validateHandshakeTokenImpl, validateRequest, checkIn,
    Act.bind_ok, check_ok, Act.read_ok, updateRemote_ok, and_assoc, exists_and_left, exists_eq_left'] at h
  obtain ⟨_, -, info, c₁, hcred, _, hkem, ch1, hch1, _, c₂, hr, _, -, -, -, rfl⟩ := h
  obtain ⟨cert, hacc, rfl, rfl⟩ := acceptCredentials_ok hcred
  obtain ⟨-, hsize, hne⟩ := findKemPublic_ok hkem
  obtain ⟨rfl, hlen⟩ := findRequiredBinpropExactsize_ok hch1
  obtain ⟨x, hx, rfl⟩ := checkRchallenge_ok hlen (by decide) hr
  exact ⟨cert, hacc, ⟨x, hx, rfl⟩, hsize, hne⟩

structure ReplyAccepted (env : Env κ ρ) (amb : Ambient ρ) (optional : Bool) (trusted : List X509) (inp : Token)
    (cert : X509) (key : EvpPkey) (c c' : Context κ) : Prop where
  credentials : AcceptedCredentials env amb trusted inp c.localIdentity cert
  state : ∃ x : Challenge, x.1 = inp.value "challenge2" ∧ c' = c.accepted env inp .reply cert x
  kemPublic : (inp.value "pqsec-dds.kem_public").length = getKemPublicKeySize c.localIdentity.kagreeAlgoKind
  kemPublic_ne_nil : inp.value "pqsec-dds.kem_public" ≠ []
  lchallenge : ∃ x : Challenge, c.relation.lchallenge = some x ∧ x.1 = inp.value "challenge1"
  verified : Verified env c' (replyTranscript optional c'.handshake.hashC1 c'.handshake.hashC2
    (inp.value "challenge1") (inp.value "challenge2") (inp.value "pqsec-dds.kem_public")
    (inp.value "pqsec-dds.kem_ciphertext")) (inp.value "signature") cert key

theorem withCredentials_relation {tokenType : HandshakeTokenType} {cert : X509} :
    (c.withCredentials env inp tokenType cert).relation = c.relation := by
  cases tokenType <;> simp only [withCredentials, setHash, setPermissionsDocument, setIdentityCert] <;> split <;> rfl

theorem accepted_remoteIdentity {tokenType : HandshakeTokenType} {cert : X509} {x : Challenge} :
    (c.accepted env inp tokenType cert x).remoteIdentity =
      c.remoteIdentity.accepted inp cert c.localIdentity.kagreeAlgoKind := by
  cases tokenType <;>
    simp only [Context.accepted, withCredentials, setHash, setPermissionsDocument, setIdentityCert, setRchallenge,
      setAlgorithms, RemoteIdentityInfo.accepted] <;> split <;> rfl

theorem accepted_localIdentity {tokenType : HandshakeTokenType} {cert : X509} {x : Challenge} :
    (c.accepted env inp tokenType cert x).localIdentity = c.localIdentity := by
  cases tokenType <;>
    simp only [Context.accepted, withCredentials, setHash, setPermissionsDocument, setIdentityCert, setRchallenge,
      setAlgorithms] <;> split <;> rfl

theorem accepted_relation {tokenType : HandshakeTokenType} {cert : X509} {x : Challenge} :
    (c.accepted env inp tokenType cert x).relation = { c.relation with rchallenge := some x } := by
  cases tokenType <;>
    simp only [Context.accepted, withCredentials, setHash, setPermissionsDocument, setIdentityCert, setRchallenge,
      setAlgorithms] <;> split <;> rfl

theorem accepted_handshake_req {cert : X509} {x : Challenge} :
    (c.accepted env inp .req cert x).handshake = { c.handshake with hashC1 := credentialHash env inp } := by
  simp only [Context.accepted, withCredentials, setHash, setPermissionsDocument, setIdentityCert, setRchallenge,
    setAlgorithms]
  split <;> rfl

theorem accepted_handshake_reply {cert : X509} {x : Challenge} :
    (c.accepted env inp .reply cert x).handshake = { c.handshake with hashC2 := credentialHash env inp } := by
  simp only [Context.accepted, withCredentials, setHash, setPermissionsDocument, setIdentityCert, setRchallenge,
    setAlgorithms]
  split <;> rfl

theorem validateReply_ok (h : validateHandshakeToken env amb optional trusted inp .reply c = (.ok u, c')) :
    ∃ cert key, ReplyAccepted env amb optional trusted inp cert key c c' := by
  simp only [validateHandshakeToken, Act.onStop_ok, validateHandshakeTokenImpl, validateReply, checkIn,
    Act.bind_ok, check_ok, Act.read_ok, updateRemote_ok, and_assoc, exists_and_left, exists_eq_left', id_eq] at h
  obtain ⟨_, -, info, c₁, hcred, parts, hparts, _, c₂, hr, _, -, _, -, _, hl, -, -, hsig, -, rfl⟩ := h
  obtain ⟨cert, hacc, rfl, rfl⟩ := acceptCredentials_ok hcred
  obtain ⟨rfl, hsize, hne, h1, h2⟩ := findSignedParts_ok hparts
  obtain ⟨x, hx, rfl⟩ := checkRchallenge_ok h2 (by decide) hr
  obtain ⟨cert', key, hv⟩ := checkSignature_ok hsig
  have hcert : cert' = cert := by
    have h := hv.stored
    change (c.accepted env inp .reply cert x).remoteIdentity.identityCert = some cert' at h
    rw [accepted_remoteIdentity] at h
    exact (Option.some.inj h).symm
  subst hcert
  refine ⟨cert', key, hacc, ⟨x, hx, rfl⟩, hsize, hne, ?_, hv⟩
  have hl := checkLchallenge_ok hl
  simp only [setRchallenge] at hl
  rwa [withCredentials_relation] at hl

structure FinalAccepted (env : Env κ ρ) (optional : Bool) (inp : Token) (cert : X509) (key : EvpPkey)
    (c c' : Context κ) : Prop where
  state : c' = c
  rchallenge : ∀ x, c.relation.rchallenge = some x → x.1 = inp.value "challenge1"
  lchallenge : ∃ x : Challenge, c.relation.lchallenge = some x ∧ x.1 = inp.value "challenge2"
  verified : Verified env c (finalTranscript optional c.handshake.hashC1 c.handshake.hashC2
    (inp.value "challenge1") (inp.value "challenge2") (inp.value "pqsec-dds.kem_public")
    (inp.value "pqsec-dds.kem_ciphertext")) (inp.value "signature") cert key

theorem validateFinal_ok (h : validateHandshakeToken env amb optional trusted inp .final c = (.ok u, c')) :
    ∃ cert key, FinalAccepted env optional inp cert key c c' := by
  simp only [validateHandshakeToken, Act.onStop_ok, validateHandshakeTokenImpl, validateFinal, checkIn,
    Act.bind_ok, check_ok, Act.read_ok, and_assoc, exists_and_left, exists_eq_left', id_eq] at h
  obtain ⟨_, -, parts, hparts, _, c₂, hr, _, -, _, -, _, hl, hsig, rfl⟩ := h
  obtain ⟨rfl, -⟩ := findSignedParts_ok hparts
  obtain ⟨rfl, hrch⟩ := checkRchallenge_final_ok hr
  obtain ⟨cert, key, hv⟩ := checkSignature_ok hsig
  exact ⟨cert, key, rfl, hrch, checkLchallenge_ok hl, hv⟩

/-! ## Building a Request -/

variable {certData pdata : Octets} {out : Token} {signed : Signed} {keypair : KemKeypair κ}

theorem generateKeypair_frame : Act.Keeps Frame (generateKeypair env amb) := by
  unfold generateKeypair
  repeat' first
    | refine Act.Keeps.bind ?_ fun _ => ?_
    | exact .lift _
    | exact .read _
    | exact .pure _
  · exact .write (Frame.setKemKeypair _)
  · exact .write (Frame.setKemKeypair _)

theorem buildRequest_frame : Act.Keeps Frame (buildRequest env optional certData pdata keypair) := by
  unfold buildRequest
  repeat' first
    | refine Act.Keeps.bind ?_ fun _ => ?_
    | exact .lift _
    | exact .read _
    | exact .pure _
  · exact .write (Frame.setPdata _)
  · exact .write (Frame.setHash _ _)

theorem makeRequest_frame : Act.Keeps Frame (makeRequest env amb optional certData pdata) :=
  .bind generateKeypair_frame fun _ => buildRequest_frame

theorem setPdata_eq (pdata : Octets) (c : Context κ) :
    c.setPdata pdata = { c with localIdentity := (c.setPdata pdata).localIdentity } := by
  unfold Context.setPdata
  split <;> rfl

/-- The objects that making the credentials of a local identity leaves alone. -/
def Context.besideCredentials (c : Context κ) : RemoteIdentityInfo × IdentityRelation × HandshakeInfo κ :=
  (c.remoteIdentity, c.relation, { c.handshake with hashC1 := zeroBytes 32, hashC2 := zeroBytes 32 })

theorem setPdata_besideCredentials (pdata : Octets) (c : Context κ) :
    Act.Same besideCredentials c (c.setPdata pdata) := by
  rw [setPdata_eq]
  rfl

theorem buildRequest_same :
    Act.Keeps (Act.Same besideCredentials) (buildRequest env optional certData pdata keypair) := by
  unfold buildRequest
  repeat' first
    | refine Act.Keeps.bind ?_ fun _ => ?_
    | exact .lift _
    | exact .read _
    | exact .pure _
  · exact .write (setPdata_besideCredentials _)
  · exact .write fun _ => rfl

theorem generateKeypair_cases {r : Except Stop (KemKeypair κ)} (h : generateKeypair env amb c = (r, c')) :
    (∃ e, r = .error e ∧ c' = c.setKemKeypair none) ∨
      ∃ keypair, r = .ok keypair ∧ c' = c.setKemKeypair (some keypair) ∧
        pqsecKemKeypairGenerate env c.localIdentity.kagreeAlgoKind amb.keySeed = some keypair := by
  rcases hgen : pqsecKemKeypairGenerate env c.localIdentity.kagreeAlgoKind amb.keySeed with _ | keypair
  · left
    simp only [generateKeypair, bind, Act.bind, Act.write, Act.read, check, Act.lift, setKemKeypair, hgen, need,
      Option.elim_none, Except.mapError, Prod.mk.injEq] at h
    exact ⟨_, h.1.symm, h.2.symm⟩
  · right
    simp only [generateKeypair, bind, Act.bind, Act.write, Act.read, check, Act.lift, setKemKeypair, hgen, need,
      Option.elim_some, Except.mapError, pure, Prod.mk.injEq] at h
    exact ⟨keypair, h.1.symm, h.2.symm, rfl⟩

/-- The key pair after any attempt to make a Request is the one the attempt generated, if any. -/
theorem makeRequest_keypair {r : Except Stop Token} (h : makeRequest env amb optional certData pdata c = (r, c')) :
    c'.handshake.kemKeypair = none ∨ ∃ keypair, c'.handshake.kemKeypair = some keypair ∧
      pqsecKemKeypairGenerate env c.localIdentity.kagreeAlgoKind amb.keySeed = some keypair := by
  rcases Act.bind_eq.1 h with ⟨e, hk, -⟩ | ⟨keypair, c₁, hk, hb⟩
  · rcases generateKeypair_cases hk with ⟨_, -, rfl⟩ | ⟨_, hr, -⟩
    · exact .inl rfl
    · cases hr
  · rcases generateKeypair_cases hk with ⟨_, hr, -⟩ | ⟨keypair', hr, rfl, hgen⟩
    · cases hr
    · obtain rfl := Except.ok.inj hr
      have hsame := buildRequest_same.result hb
      have hkp : c'.handshake.kemKeypair = some keypair :=
        congrArg (fun x : _ × _ × HandshakeInfo κ => x.2.2.kemKeypair) hsame
      exact .inr ⟨keypair, hkp, hgen⟩

/-- What a Request does not touch. -/
def Context.besideRequest (c : Context κ) : RemoteIdentityInfo × IdentityRelation × HandshakeInfo κ :=
  (c.remoteIdentity, c.relation, { c.handshake with hashC1 := zeroBytes 32, kemKeypair := none })

theorem makeRequest_same :
    Act.Keeps (Act.Same besideRequest) (makeRequest env amb optional certData pdata) := by
  refine .bind ?_ fun keypair => ?_
  · unfold generateKeypair
    repeat' first
      | refine Act.Keeps.bind ?_ fun _ => ?_
      | exact .lift _
      | exact .read _
      | exact .write fun _ => rfl
  · unfold buildRequest
    repeat' first
      | refine Act.Keeps.bind ?_ fun _ => ?_
      | exact .lift _
      | exact .read _
      | exact .write fun _ => rfl
      | exact .pure _
    refine .write fun c => ?_
    rw [setPdata_eq]
    rfl

/-- The credentials that the local identity sends. -/
def LocalIdentityInfo.credentials (l : LocalIdentityInfo) (certData pdata : Octets) (kagree : AuthAlgoKind) :
    List BinaryProperty :=
  credentialProperties certData l.permissionsDocument pdata (getDsignAlgo l.dsignAlgoKind) (getKagreeAlgo kagree)

def requestToken (optional : Bool) (credentials : List BinaryProperty) (hashC1 : HashValue) (publicKey : Octets)
    (challenge1 : Challenge) : Token where
  classId := str "pqsec-dds.auth:1.0+Req"
  binaryProperties := credentials ++ (if optional then [binaryProperty "hash_c1" hashC1.1] else []) ++
    [binaryProperty "pqsec-dds.kem_public" publicKey, binaryProperty "challenge1" challenge1.1]

theorem makeRequest_ok (h : makeRequest env amb optional certData pdata c = (.ok out, c')) :
    ∃ keypair challenge1,
      pqsecKemKeypairGenerate env c.localIdentity.kagreeAlgoKind amb.keySeed = some keypair ∧
      keypair.publicKey.length = getKemPublicKeySize c.localIdentity.kagreeAlgoKind ∧
      c.relation.lchallenge = some challenge1 ∧
      c' = ((c.setKemKeypair (some keypair)).setPdata pdata).setHash .req
        (env.sha256 (env.serializeSeq (c.localIdentity.credentials certData pdata c.localIdentity.kagreeAlgoKind))) ∧
      out = requestToken optional (c.localIdentity.credentials certData pdata c.localIdentity.kagreeAlgoKind)
        c'.handshake.hashC1 keypair.publicKey challenge1 := by
  obtain ⟨keypair, c₁, hk, hb⟩ := Act.bind_ok.1 h
  rcases generateKeypair_cases hk with ⟨_, hr, -⟩ | ⟨keypair', hr, rfl, hgen⟩
  · cases hr
  obtain rfl := Except.ok.inj hr
  simp only [buildRequest, deref, Act.bind_ok, Act.write_ok, Act.read_ok, check_ok, assertThat_ok, Act.lift_ok, need_ok,
    require_ok, Act.pure_ok, decide_eq_true_eq, and_assoc, exists_and_left, exists_eq_left', exists_const] at hb
  obtain ⟨hsize, -, challenge1, hch, -, rfl, rfl⟩ := hb
  refine ⟨keypair, challenge1, hgen, hsize, ?_, rfl, rfl⟩
  rw [setPdata_eq] at hch
  exact hch

/-! ## Building a Reply -/

theorem encapsulateTo_frame : Act.Keeps Frame (encapsulateTo env amb inp) := by
  unfold encapsulateTo
  refine .bind (.read _) fun c => ?_
  split
  · refine .bind (.lift _) fun kemPublic => ?_
    split
    exact .bind (.write (Frame.setEncapsulated _)) fun _ => .bind (.lift _) fun _ => .pure _
  · exact .stop _

theorem answerRequest_frame : Act.Keeps Frame (answerRequest env amb optional inp pdata) := by
  unfold answerRequest
  repeat' first
    | with_reducible exact encapsulateTo_frame
    | with_reducible refine Act.Keeps.bind ?_ fun _ => ?_
    | exact .lift _
    | exact .read _
    | exact .pure _
  · exact .write (Frame.setPdata _)
  · exact .write (Frame.setHash _ _)

theorem makeReply_frame : Act.Keeps Frame (makeReply env amb optional trusted inp pdata) :=
  .bind (validateHandshakeToken_frame _) fun _ => answerRequest_frame

/-- What the answer to a Request does not touch. -/
def Context.besideReply (c : Context κ) : RemoteIdentityInfo × IdentityRelation × HandshakeInfo κ :=
  (c.remoteIdentity, c.relation, { c.handshake with hashC2 := zeroBytes 32, kemCt := none, kemSs := none })

theorem encapsulateTo_same : Act.Keeps (Act.Same besideReply) (encapsulateTo env amb inp) := by
  unfold encapsulateTo
  refine .bind (.read _) fun c => ?_
  split
  · refine .bind (.lift _) fun kemPublic => ?_
    split
    exact .bind (.write fun _ => rfl) fun _ => .bind (.lift _) fun _ => .pure _
  · exact .stop _

theorem answerRequest_same : Act.Keeps (Act.Same besideReply) (answerRequest env amb optional inp pdata) := by
  unfold answerRequest
  repeat' first
    | with_reducible exact encapsulateTo_same
    | with_reducible refine Act.Keeps.bind ?_ fun _ => ?_
    | exact .lift _
    | exact .read _
    | exact .pure _
  · refine .write fun c => ?_
    rw [setPdata_eq]
    rfl
  · exact .write fun _ => rfl

/-- The ciphertext and the secret of a handshake are made by one encapsulation, and only if it has none. -/
theorem encapsulateTo_ok {kemPublic : BinaryProperty} (h : encapsulateTo env amb inp c = (.ok kemPublic, c')) :
    (c.handshake.kemCt = none ∨ c.handshake.kemSs = none) ∧
      kemPublic = binaryProperty "pqsec-dds.kem_public" (inp.value "pqsec-dds.kem_public") ∧
      ∃ ct ss, c' = c.setEncapsulated (some ct, some ss) ∧
        (env.kem c.remoteIdentity.kagreeAlgoKind).Encapsulated (inp.value "pqsec-dds.kem_public") amb.encapSeed ct ss := by
  simp only [encapsulateTo, Act.bind_ok, Act.read_ok, and_assoc, exists_and_left, exists_eq_left', id_eq] at h
  split at h
  · rename_i hnone
    simp only [Act.bind_ok, check_ok, need_ok, Act.write_ok, require_ok, Act.pure_ok, and_assoc, exists_and_left,
      exists_eq_left', exists_const] at h
    obtain ⟨prop, hprop, htrue, rfl, rfl⟩ := h
    obtain rfl := findBinaryProperty_value hprop
    obtain ⟨ct, ss, hout, henc⟩ := pqsecKemEncapsulate_true (Prod.ext htrue rfl)
    exact ⟨by simpa using hnone, rfl, ct, ss, congrArg (fun out => c.setEncapsulated out) hout, henc⟩
  · exact absurd h Act.stop_ok

def replyToken (optional : Bool) (credentials : List BinaryProperty) (hashC1 hashC2 : HashValue)
    (kemCt kemPublic : Octets) (challenge1 challenge2 : Challenge) (signature : Octets) : Token where
  classId := str "pqsec-dds.auth:1.0+Reply"
  binaryProperties := credentials ++ [binaryProperty "pqsec-dds.kem_ciphertext" kemCt,
      binaryProperty "pqsec-dds.kem_public" kemPublic, binaryProperty "challenge1" challenge1.1,
      binaryProperty "challenge2" challenge2.1] ++
    (if optional then [binaryProperty "hash_c2" hashC2.1, binaryProperty "hash_c1" hashC1.1] else []) ++
    [binaryProperty "signature" signature]

/-- The Reply that answers `inp`. -/
structure Answered (env : Env κ ρ) (amb : Ambient ρ) (optional : Bool) (inp : Token) (pdata : Octets)
    (c c' : Context κ) (out : Token) (signed : Signed) (ct ss : Octets) : Prop where
  unset : c.handshake.kemCt = none ∨ c.handshake.kemSs = none
  encapsulated : (env.kem c.remoteIdentity.kagreeAlgoKind).Encapsulated (inp.value "pqsec-dds.kem_public")
    amb.encapSeed ct ss
  state : ∃ certData, env.pemWriteX509 c.localIdentity.identityCert = some certData ∧
    c' = ((c.setEncapsulated (some ct, some ss)).setPdata pdata).setHash .reply
      (env.sha256 (env.serializeSeq (c.localIdentity.credentials certData pdata c.remoteIdentity.kagreeAlgoKind)))
  token : ∃ certData challenge1 challenge2 signature, env.pemWriteX509 c.localIdentity.identityCert = some certData ∧
    c.relation.rchallenge = some challenge1 ∧ c.relation.lchallenge = some challenge2 ∧
    out = replyToken optional (c.localIdentity.credentials certData pdata c.remoteIdentity.kagreeAlgoKind)
      c'.handshake.hashC1 c'.handshake.hashC2 ct (inp.value "pqsec-dds.kem_public") challenge1 challenge2 signature ∧
    signed.data = env.serializeArray (replyTranscript optional c'.handshake.hashC1 c'.handshake.hashC2 challenge1.1
      challenge2.1 (inp.value "pqsec-dds.kem_public") ct) ∧
    env.digestSign c.localIdentity.privateKey signed.data amb.signSeed = some signature
  key : signed.key = c.localIdentity.privateKey

theorem answerRequest_ok (h : answerRequest env amb optional inp pdata c = (.ok (out, signed), c')) :
    ∃ ct ss, Answered env amb optional inp pdata c c' out signed ct ss := by
  simp only [answerRequest, deref, getCertificateContents, Act.bind_ok, Act.write_ok, Act.read_ok, check_ok, assertThat_ok,
    Act.lift_ok, need_ok, require_ok, Act.pure_ok, and_assoc, exists_and_left, exists_eq_left', exists_const, id_eq] at h
  obtain ⟨certData, hpem, kemPublic, c₁, henc, kemCt, hct, challenge1, h1, challenge2, h2, -, ⟨data, signature⟩, hsig, -,
    heq, rfl⟩ := h
  obtain ⟨hunset, rfl, ct, ss, rfl, hencap⟩ := encapsulateTo_ok henc
  obtain ⟨rfl, hsign⟩ := createPqSignature_ok hsig
  obtain ⟨rfl, rfl⟩ := Prod.mk.inj heq
  rw [setPdata_eq] at hct h1 h2
  obtain rfl := Option.some.inj (hct : some ct = some kemCt)
  have hremote : ((c.setEncapsulated (some ct, some ss)).setPdata pdata).remoteIdentity = c.remoteIdentity := by
    rw [setPdata_eq]
    rfl
  refine ⟨ct, ss, hunset, hencap, ⟨certData, hpem, ?_⟩, ⟨certData, challenge1, challenge2, signature, hpem, h1, h2, ?_, rfl,
    hsign⟩, rfl⟩
  · rw [hremote]
    rfl
  · rw [hremote]
    rfl

/-! ## Completing a handshake -/

theorem answerReply_frame : Act.Keeps Frame (answerReply env amb optional inp) := by
  unfold answerReply
  repeat' first
    | with_reducible refine Act.Keeps.bind ?_ fun _ => ?_
    | exact .lift _
    | exact .read _
    | exact .pure _
  exact .write (Frame.setKemSs _)

/-- Of the objects, the answer to a Reply changes the secret only. -/
theorem answerReply_same :
    Act.Keeps (Act.Same fun c : Context κ => c.setKemSs none) (answerReply env amb optional inp) := by
  unfold answerReply
  repeat' first
    | with_reducible refine Act.Keeps.bind ?_ fun _ => ?_
    | exact .lift _
    | exact .read _
    | exact .pure _
  exact .write fun _ => rfl

def finalToken (optional : Bool) (hashC1 hashC2 : HashValue) (kemCt kemPublic : Octets)
    (challenge1 challenge2 : Challenge) (signature : Octets) : Token where
  classId := str "pqsec-dds.auth:1.0+Final"
  binaryProperties := [binaryProperty "challenge1" challenge1.1, binaryProperty "challenge2" challenge2.1] ++
    (if optional then [binaryProperty "hash_c2" hashC2.1, binaryProperty "hash_c1" hashC1.1] else []) ++
    [binaryProperty "pqsec-dds.kem_public" kemPublic, binaryProperty "pqsec-dds.kem_ciphertext" kemCt,
     binaryProperty "signature" signature]

/-- The Final that answers `inp`; `ss` is the secret the key pair gives for the ciphertext. -/
structure Finalised (env : Env κ ρ) (amb : Ambient ρ) (optional : Bool) (inp : Token) (c c' : Context κ) (out : Token)
    (signed : Signed) (keypair : KemKeypair κ) (ss : Octets) : Prop where
  stored : c.handshake.kemKeypair = some keypair
  decapsulated : env.decapsulate keypair.key (inp.value "pqsec-dds.kem_ciphertext") = some ss
  state : c' = c.setKemSs (some ss)
  token : ∃ challenge1 challenge2 signature, c.relation.lchallenge = some challenge1 ∧
    c.relation.rchallenge = some challenge2 ∧
    out = finalToken optional c.handshake.hashC1 c.handshake.hashC2 (inp.value "pqsec-dds.kem_ciphertext")
      (inp.value "pqsec-dds.kem_public") challenge1 challenge2 signature ∧
    signed.data = env.serializeArray (finalTranscript optional c.handshake.hashC1 c.handshake.hashC2 challenge1.1
      challenge2.1 (inp.value "pqsec-dds.kem_public") (inp.value "pqsec-dds.kem_ciphertext")) ∧
    env.digestSign c.localIdentity.privateKey signed.data amb.signSeed = some signature
  key : signed.key = c.localIdentity.privateKey

theorem answerReply_ok (h : answerReply env amb optional inp c = (.ok (out, signed), c')) :
    ∃ keypair ss, Finalised env amb optional inp c c' out signed keypair ss := by
  simp only [answerReply, Act.bind_ok, Act.write_ok, Act.read_ok, check_ok, Act.lift_ok, need_ok, require_ok, Act.pure_ok,
    and_assoc, exists_and_left, exists_eq_left', exists_const, id_eq] at h
  obtain ⟨kemCt, hct, kemPublic, hpk, htrue, challenge1, h1, challenge2, h2, ⟨data, signature⟩, hsig, heq, rfl⟩ := h
  obtain rfl := findBinaryProperty_value hct
  obtain rfl := findBinaryProperty_value hpk
  obtain ⟨rfl, hsign⟩ := createPqSignature_ok hsig
  obtain ⟨rfl, rfl⟩ := Prod.mk.inj heq
  obtain ⟨keypair, ss, hkp, hss, hdec⟩ := pqsecKemDecapsulate_true (Prod.ext htrue rfl)
  exact ⟨keypair, ss, hkp, hdec, congrArg (fun ss => c.setKemSs ss) hss, ⟨challenge1, challenge2, signature, h1, h2, rfl,
    rfl, hsign⟩, rfl⟩

theorem completeHandshake_frame : Act.Keeps Frame (completeHandshake env amb) := by
  unfold completeHandshake
  repeat' first
    | with_reducible refine Act.Keeps.bind ?_ fun _ => ?_
    | exact .lift _
    | exact .read _
    | exact .pure _
    | exact .write (Frame.setSharedSecret _)
    | exact .onStop (.lift _) (Frame.setSharedSecret none)

/-- Completing a handshake changes its shared secret only. -/
theorem completeHandshake_same :
    Act.Keeps (Act.Same fun c : Context κ => c.setSharedSecret none) (completeHandshake env amb) := by
  unfold completeHandshake
  repeat' first
    | with_reducible refine Act.Keeps.bind ?_ fun _ => ?_
    | exact .lift _
    | exact .read _
    | exact .pure _
    | exact .write fun _ => rfl
    | exact .onStop (.lift _) fun _ => rfl

/-- The secret and the challenges that a completed handshake hands out. -/
structure Completed (env : Env κ ρ) (amb : Ambient ρ) (c c' : Context κ) (certExp : Int) : Prop where
  secret : ∃ ss challenge1 challenge2, c.handshake.kemSs = some ss ∧ c.challenges.1 = some challenge1 ∧
    c.challenges.2 = some challenge2 ∧ c' = c.setSharedSecret (some ⟨challenge1, challenge2, env.sha256 ss⟩)
  expiry : ∃ cert, c.remoteIdentity.identityCert = some cert ∧ certExp = getCertificateExpiry amb cert ∧
    certExp ≠ ddsTimeInvalid

theorem completeHandshake_ok {certExp : Int} (h : completeHandshake env amb c = (.ok certExp, c')) :
    Completed env amb c c' certExp := by
  simp only [completeHandshake, deref, generateSharedSecret, Act.bind_ok, bind_ok, pure_ok, Act.write_ok, Act.read_ok,
    check_ok, Act.lift_ok, need_ok, require_ok, Act.pure_ok, Act.onStop_ok, and_assoc, exists_and_left, exists_eq_left',
    exists_const, id_eq, decide_eq_true_eq] at h
  obtain ⟨_, ⟨ss, hss, -, rfl⟩, challenge1, h1, challenge2, h2, cert, hcert, hexp, rfl, rfl⟩ := h
  exact ⟨⟨ss, challenge1, challenge2, hss, h1, h2, rfl⟩, ⟨cert, hcert, rfl, hexp⟩⟩

theorem processToken_frame : Act.Keeps Frame (processToken env amb optional trusted inp) := by
  unfold processToken
  refine .bind (.read _) fun handshake => ?_
  cases handshake.createdIn
  · exact .bind (validateHandshakeToken_frame _) fun _ => .bind answerReply_frame fun _ =>
      .bind completeHandshake_frame fun _ => .pure _
  · exact .bind (validateHandshakeToken_frame _) fun _ => .bind completeHandshake_frame fun _ => .pure _

/-! ## Whole operations -/

/-- What an operation that reads the credentials of `inp` leaves of the remote identity. -/
inductive CredentialsOutcome (env : Env κ ρ) (amb : Ambient ρ) (trusted : List X509) (inp : Token) (c : Context κ)
    (r : RemoteIdentityInfo) : Prop
  | rejected (h : r.identityCert = none)
  | accepted (cert : X509) (hacc : AcceptedCredentials env amb trusted inp c.localIdentity cert)
      (h : r = c.remoteIdentity.accepted inp cert c.localIdentity.kagreeAlgoKind)

theorem validateHandshakeToken_error {tokenType : HandshakeTokenType} {e : Stop} (htype : tokenType ≠ .final)
    (h : validateHandshakeToken env amb optional trusted inp tokenType c = (.error e, c')) :
    c'.remoteIdentity.identityCert = none := by
  simp only [validateHandshakeToken, Act.onStop] at h
  split at h
  · cases h
  · simp only [htype, if_false, Prod.mk.injEq] at h
    rw [← h.2]
    rfl

/-- A Reply is made once the Request is accepted. -/
theorem makeReply_cases {r : Except Stop (Token × Signed)}
    (h : makeReply env amb optional trusted inp pdata c = (r, c')) :
    (∃ e, r = .error e ∧ c'.remoteIdentity.identityCert = none) ∨
      ∃ cert c₁, RequestAccepted env amb trusted inp cert c c₁ ∧
        answerRequest env amb optional inp pdata c₁ = (r, c') := by
  rcases Act.bind_eq.1 h with ⟨e, hv, rfl⟩ | ⟨_, c₁, hv, ha⟩
  · exact .inl ⟨e, rfl, validateHandshakeToken_error (by decide) hv⟩
  · obtain ⟨cert, hacc⟩ := validateRequest_ok hv
    exact .inr ⟨cert, c₁, hacc, ha⟩

theorem makeReply_credentials {r : Except Stop (Token × Signed)}
    (h : makeReply env amb optional trusted inp pdata c = (r, c')) :
    CredentialsOutcome env amb trusted inp c c'.remoteIdentity := by
  rcases makeReply_cases h with ⟨e, -, hnone⟩ | ⟨cert, c₁, hacc, ha⟩
  · exact .rejected hnone
  · have hremote : c'.remoteIdentity = c₁.remoteIdentity := congrArg Prod.fst (answerRequest_same.result ha)
    obtain ⟨x, -, rfl⟩ := hacc.state
    refine .accepted cert hacc.credentials ?_
    rw [hremote, accepted_remoteIdentity]

theorem makeReply_ok (h : makeReply env amb optional trusted inp pdata c = (.ok (out, signed), c')) :
    ∃ cert c₁ ct ss, RequestAccepted env amb trusted inp cert c c₁ ∧
      Answered env amb optional inp pdata c₁ c' out signed ct ss := by
  rcases makeReply_cases h with ⟨e, hr, -⟩ | ⟨cert, c₁, hacc, ha⟩
  · cases hr
  · obtain ⟨ct, ss, ha⟩ := answerRequest_ok ha
    exact ⟨cert, c₁, ct, ss, hacc, ha⟩

theorem checkRchallenge_final_same (value : Octets) :
    Act.Keeps (Act.Same id) (checkRchallenge value .final : HandshakeCall κ PUnit) := by
  unfold checkRchallenge
  refine .bind (.read _) fun rchallenge => ?_
  cases rchallenge
  · exact .write fun _ => rfl
  · exact .lift _

theorem validateFinal_same : Act.Keeps (Act.Same id) (validateHandshakeToken env amb optional trusted inp .final) := by
  unfold validateHandshakeToken
  refine .onStop ?_ fun c => rfl
  simp only [validateHandshakeTokenImpl]
  unfold validateFinal checkIn
  repeat' first
    | with_reducible exact checkRchallenge_final_same _
    | with_reducible refine Act.Keeps.bind ?_ fun _ => ?_
    | exact .lift _
    | exact .read _

/-- Of a handshake made for a Request, processing a token changes the shared secret only. -/
theorem processToken_replier {r : Except Stop (HandshakeResult × Int)} (hstep : c.handshake.createdIn = .createdReply)
    (h : processToken env amb optional trusted inp c = (r, c')) : c'.setSharedSecret none = c.setSharedSecret none := by
  simp only [processToken] at h
  rcases Act.bind_eq.1 h with ⟨e, hr, -⟩ | ⟨hs, c₁, hr, h₁⟩
  · cases hr
  obtain ⟨rfl, rfl⟩ := Act.read_ok.1 hr
  simp only [hstep] at h₁
  rcases Act.bind_eq.1 h₁ with ⟨e, hv, -⟩ | ⟨_, c₁, hv, h₂⟩
  · exact congrArg (Context.setSharedSecret none) (validateFinal_same.result hv)
  · obtain rfl : c₁ = c := validateFinal_same.result hv
    rcases Act.bind_eq.1 h₂ with ⟨e, hc, -⟩ | ⟨exp, c₂, hc, h₃⟩
    · exact completeHandshake_same.result hc
    · obtain ⟨-, rfl⟩ := Prod.mk.inj h₃
      exact completeHandshake_same.result hc

/-- Processing a Reply. -/
theorem processToken_initiator_cases {r : Except Stop (HandshakeResult × Int)}
    (hstep : c.handshake.createdIn = .createdRequest) (h : processToken env amb optional trusted inp c = (r, c')) :
    (∃ e, r = .error e ∧ c'.remoteIdentity.identityCert = none ∧
        validateHandshakeToken env amb optional trusted inp .reply c = (.error e, c')) ∨
      ∃ cert key c₁, ReplyAccepted env amb optional trusted inp cert key c c₁ ∧
        (c'.setKemSs none).setSharedSecret none = (c₁.setKemSs none).setSharedSecret none := by
  simp only [processToken] at h
  rcases Act.bind_eq.1 h with ⟨e, hr, -⟩ | ⟨hs, c₁, hr, h⟩
  · cases hr
  obtain ⟨rfl, rfl⟩ := Act.read_ok.1 hr
  simp only [hstep] at h
  rcases Act.bind_eq.1 h with ⟨e, hv, rfl⟩ | ⟨_, c₁, hv, h⟩
  · exact .inl ⟨e, rfl, validateHandshakeToken_error (by decide) hv, hv⟩
  · obtain ⟨cert, key, hacc⟩ := validateReply_ok hv
    refine .inr ⟨cert, key, c₁, hacc, ?_⟩
    rcases Act.bind_eq.1 h with ⟨e, ha, -⟩ | ⟨⟨out, signed⟩, c₂, ha, h⟩
    · exact congrArg (Context.setSharedSecret none) (answerReply_same.result ha)
    · have h₁ : c₂.setKemSs none = c₁.setKemSs none := answerReply_same.result ha
      have h₂ : c'.setSharedSecret none = c₂.setSharedSecret none := by
        rcases Act.bind_eq.1 h with ⟨e, hc, -⟩ | ⟨exp, c₃, hc, h⟩
        · exact completeHandshake_same.result hc
        · obtain ⟨-, rfl⟩ := Prod.mk.inj h
          exact completeHandshake_same.result hc
      calc (c'.setKemSs none).setSharedSecret none = (c'.setSharedSecret none).setKemSs none := rfl
        _ = (c₂.setSharedSecret none).setKemSs none := by rw [h₂]
        _ = (c₂.setKemSs none).setSharedSecret none := rfl
        _ = (c₁.setKemSs none).setSharedSecret none := by rw [h₁]

theorem processToken_credentials {r : Except Stop (HandshakeResult × Int)}
    (hstep : c.handshake.createdIn = .createdRequest) (h : processToken env amb optional trusted inp c = (r, c')) :
    CredentialsOutcome env amb trusted inp c c'.remoteIdentity := by
  rcases processToken_initiator_cases hstep h with ⟨e, -, hnone, -⟩ | ⟨cert, key, c₁, hacc, hsame⟩
  · exact .rejected hnone
  · have hremote : c'.remoteIdentity = c₁.remoteIdentity := by
      have h := congrArg Context.remoteIdentity hsame
      exact h
    obtain ⟨x, -, rfl⟩ := hacc.state
    refine .accepted cert hacc.credentials ?_
    rw [hremote, accepted_remoteIdentity]

/-- `process_handshake` returned `VALIDATION_OK_FINAL_MESSAGE` for the Reply `inp`. -/
structure InitiatorCompleted (env : Env κ ρ) (amb : Ambient ρ) (optional : Bool) (trusted : List X509) (inp : Token)
    (c c' : Context κ) (out : Token) (signed : Signed) (certExp : Int) (cert : X509) (key : EvpPkey)
    (keypair : KemKeypair κ) (ss : Octets) : Prop where
  createdIn : c.handshake.createdIn = .createdRequest
  accepted : ∃ c₁, ReplyAccepted env amb optional trusted inp cert key c c₁ ∧ ∃ c₂,
    Finalised env amb optional inp c₁ c₂ out signed keypair ss ∧ Completed env amb c₂ c' certExp

/-- `process_handshake` returned `VALIDATION_OK` for the Final `inp`. -/
structure ReplierCompleted (env : Env κ ρ) (amb : Ambient ρ) (optional : Bool) (inp : Token) (c c' : Context κ)
    (certExp : Int) (cert : X509) (key : EvpPkey) : Prop where
  createdIn : c.handshake.createdIn = .createdReply
  accepted : FinalAccepted env optional inp cert key c c
  completed : Completed env amb c c' certExp

theorem processToken_ok {result : HandshakeResult} {certExp : Int}
    (h : processToken env amb optional trusted inp c = (.ok (result, certExp), c')) :
    (∃ out signed cert key keypair ss, result = .okFinalMessage out signed ∧
        InitiatorCompleted env amb optional trusted inp c c' out signed certExp cert key keypair ss) ∨
      (result = .ok ∧ ∃ cert key, ReplierCompleted env amb optional inp c c' certExp cert key) := by
  simp only [processToken, Act.bind_ok, Act.read_ok, and_assoc, exists_and_left, exists_eq_left'] at h
  rcases hstep : c.handshake.createdIn with _ | _
  · simp only [hstep, Act.bind_ok, Act.pure_ok, Prod.mk.injEq] at h
    obtain ⟨_, c₁, hv, ⟨out, signed⟩, c₂, ha, exp, c₃, hc, ⟨rfl, rfl⟩, rfl⟩ := h
    obtain ⟨cert, key, hv⟩ := validateReply_ok hv
    obtain ⟨keypair, ss, ha⟩ := answerReply_ok ha
    exact .inl ⟨out, signed, cert, key, keypair, ss, rfl, hstep, c₁, hv, c₂, ha, completeHandshake_ok hc⟩
  · simp only [hstep, Act.bind_ok, Act.pure_ok, Prod.mk.injEq] at h
    obtain ⟨_, c₁, hv, exp, c₂, hc, ⟨rfl, rfl⟩, rfl⟩ := h
    obtain ⟨cert, key, hv⟩ := validateFinal_ok hv
    obtain rfl := hv.state
    exact .inr ⟨rfl, cert, key, hstep, hv, completeHandshake_ok hc⟩

theorem encapsulateTo_error (hct : c.handshake.kemCt ≠ none) (hss : c.handshake.kemSs ≠ none) :
    encapsulateTo env amb inp c = (.error (.fault .uninitialised), c) := by
  have h : (c.handshake.kemCt.isNone || c.handshake.kemSs.isNone) = false := by
    simp [Option.isSome_iff_ne_none, hct, hss]
  simp [encapsulateTo, bind, Act.bind, Act.read, h, Act.stop]

/-- A handshake with a ciphertext and a secret is not answered again. -/
theorem answerRequest_error {r : Except Stop (Token × Signed)} (hct : c.handshake.kemCt ≠ none)
    (hss : c.handshake.kemSs ≠ none) (h : answerRequest env amb optional inp pdata c = (r, c')) :
    (∃ e, r = .error e) ∧ c' = c := by
  rcases Act.bind_eq.1 h with ⟨e, hr, -⟩ | ⟨l, c₁, hr, h₁⟩
  · cases hr
  obtain ⟨-, rfl⟩ := Act.read_ok.1 hr
  rcases Act.bind_eq.1 h₁ with ⟨e, hpem, rfl⟩ | ⟨certData, c₁, hpem, h₂⟩
  · exact ⟨⟨e, rfl⟩, (Prod.mk.inj hpem).2.symm⟩
  obtain ⟨-, rfl⟩ := check_ok.1 hpem
  rcases Act.bind_eq.1 h₂ with ⟨e, hencap, rfl⟩ | ⟨kemPublic, c₁, hencap, -⟩
  · rw [encapsulateTo_error hct hss] at hencap
    exact ⟨⟨e, rfl⟩, (Prod.mk.inj hencap).2.symm⟩
  · rw [encapsulateTo_error hct hss] at hencap
    cases hencap

/-- Another Request leaves the key pair of a handshake alone, and its ciphertext and secret if it has both. -/
theorem makeReply_material {r : Except Stop (Token × Signed)}
    (h : makeReply env amb optional trusted inp pdata c = (r, c')) :
    c'.handshake.kemKeypair = c.handshake.kemKeypair ∧
      (c.handshake.kemCt ≠ none → c.handshake.kemSs ≠ none → c'.material = c.material ∧ ∃ e, r = .error e) := by
  rcases Act.bind_eq.1 h with ⟨e, hv, rfl⟩ | ⟨_, c₁, hv, ha⟩
  · have hsame : c'.material = c.material := (validateHandshakeToken_material _).result hv
    refine ⟨?_, fun _ _ => ⟨hsame, e, rfl⟩⟩
    have hkp := congrArg HandshakeInfo.kemKeypair hsame
    exact hkp
  · have hsame : c₁.material = c.material := (validateHandshakeToken_material _).result hv
    constructor
    · have hkp₁ := congrArg HandshakeInfo.kemKeypair hsame
      have hkp := congrArg (fun x : RemoteIdentityInfo × IdentityRelation × HandshakeInfo κ => x.2.2.kemKeypair)
        (answerRequest_same.result ha)
      exact Eq.trans hkp hkp₁
    · intro hct hss
      have hct₁ : c₁.handshake.kemCt ≠ none := by
        have h := congrArg HandshakeInfo.kemCt hsame
        exact fun hnone => hct (h.symm.trans hnone)
      have hss₁ : c₁.handshake.kemSs ≠ none := by
        have h := congrArg HandshakeInfo.kemSs hsame
        exact fun hnone => hss (h.symm.trans hnone)
      obtain ⟨hr, rfl⟩ := answerRequest_error hct₁ hss₁ ha
      exact ⟨hsame, hr⟩

/-- Processing a token leaves the key pair alone. -/
theorem processToken_keypair {r : Except Stop (HandshakeResult × Int)}
    (h : processToken env amb optional trusted inp c = (r, c')) :
    c'.handshake.kemKeypair = c.handshake.kemKeypair := by
  rcases hstep : c.handshake.createdIn with _ | _
  · rcases processToken_initiator_cases hstep h with ⟨e, -, -, hv⟩ | ⟨cert, key, c₁, hacc, hsame⟩
    · have hkp := congrArg HandshakeInfo.kemKeypair ((validateHandshakeToken_material .reply).result hv)
      exact hkp
    · have hkp := congrArg (fun c : Context κ => c.handshake.kemKeypair) hsame
      obtain ⟨x, -, rfl⟩ := hacc.state
      change c'.handshake.kemKeypair = (c.accepted env inp .reply cert x).handshake.kemKeypair at hkp
      rwa [accepted_handshake_reply] at hkp
  · have hkp := congrArg (fun c : Context κ => c.handshake.kemKeypair) (processToken_replier hstep h)
    exact hkp

end PqsecDds.CycloneDDS
