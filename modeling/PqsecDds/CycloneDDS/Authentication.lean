import PqsecDds.CycloneDDS.Validate

/-!
# The operations of the plugin

| here | there |
|---|---|
| `validateLocalIdentity` | authentication.c:688-917 |
| `getIdentityToken`, `setPermissionsCredentialAndToken` | authentication.c:919-1057 |
| `validateRemoteIdentity` | authentication.c:1059-1373 |
| `beginHandshakeRequest` | authentication.c:1375-1613 |
| `beginHandshakeReply` | authentication.c:2457-2872 |
| `generateSharedSecret`, `processHandshake`, `processHandshakeOut` | authentication.c:2874-3397 |
| `getSharedSecret`, `getAuthenticatedPeerCredentialToken` | authentication.c:3399-3528 |
| `returnHandshakeHandle`, `returnIdentityHandle` | authentication.c:3587-3776 |
| `validityCallback` | authentication.c:621-645 |

This is the `PQ_CRYPTO` build with assertions. Null out parameters, the listener and the mutex are left out, and
so are the operations that do nothing. An operation that signs returns what it signed with its token. An operation
returns what it writes to its out parameters; what becomes of `handshake_message_out` when it fails is in
`Op.callOut`.
-/

namespace PqsecDds.CycloneDDS

open Lib

variable {κ ρ : Type} (env : Env κ ρ) (amb : Ambient ρ)

/-! ## Local identities -/

/-- The properties of the participant's QoS that the plugin reads. -/
structure Qos where
  identityCertificate : Option CStr
  identityCa : Option CStr
  privateKey : Option CStr
  password : Option CStr
  trustedCaDir : Option CStr
  crl : Option CStr

/-- A text that is there and not empty. -/
def nonEmpty : Option CStr → Option CStr
  | some (c :: cs) => some (c :: cs)
  | _ => none

def missingProperty (name : String) : SecurityException :=
  message ("validate_local_identity: missing property '" ++ name ++ "'")

/-- authentication.c:778-803 -/
def checkTrustedCa (trustedCaList : List X509) (identityCa : X509) (crl : Option CStr) :
    Except SecurityException Unit :=
  if trustedCaList.isEmpty then .ok ()
  else do
    require (nonEmpty crl).isNone (message "Cannot specify both CRL and trusted_ca_list")
    require ((env.x509Sha1 identityCa).isSome && trustedCaList.any fun ca => env.x509Sha1 ca = env.x509Sha1 identityCa)
      .caNotTrusted

/-- The trusted CAs are those of the last participant that named a directory. -/
def loadTrustedCas (trustedCaDir : Option CStr) : Call κ PUnit :=
  match nonEmpty trustedCaDir with
  | none => pure ⟨⟩
  | some dir => do
    let trustedCaList ← check (getTrustedCaList env amb dir)
    Act.write fun s => { s with trustedCaList }

def loadCrl (crl : Option CStr) : Except SecurityException (Option X509Crl) :=
  match nonEmpty crl with
  | none => .ok none
  | some data => do
    let crl ← loadX509Crl env amb data
    return some crl

/-- What the QoS and the trusted CAs make of a local identity: its certificate, CA, private key and CRL, when it
expires, and its adjusted GUID. -/
def loadIdentity (trustedCaList : List X509) (identityCertPem identityCaPem privateKeyPem : CStr) (qos : Qos)
    (candidate : Guid) :
    Except SecurityException (X509 × X509 × EvpPkey × Option X509Crl × Int × Guid) := do
  let identityCa ← loadX509Certificate env amb identityCaPem
  checkTrustedCa env trustedCaList identityCa qos.crl
  let identityCert ← loadX509Certificate env amb identityCertPem
  let privateKey ← loadX509PrivateKey env amb privateKeyPem qos.password
  require (identityCert.pubkey = some privateKey)
    (opensslFailure amb "Private key does not match identity certificate: ")
  let crl ← loadCrl env amb qos.crl
  verifyCertificate env amb identityCert identityCa crl
  let certExpiry := getCertificateExpiry amb identityCert
  require (certExpiry ≠ ddsTimeInvalid) (message "Expiry date of the certificate is invalid")
  let adjusted ← getAdjustedParticipantGuid env amb identityCert candidate
  return (identityCert, identityCa, privateKey, crl, certExpiry, adjusted)

def validateLocalIdentity (qos : Qos) (candidate : Guid) : Call κ (Handle × Guid) := do
  let identityCertPem ← check (need qos.identityCertificate (missingProperty "dds.sec.auth.identity_certificate"))
  let identityCaPem ← check (need qos.identityCa (missingProperty "dds.sec.auth.identity_ca"))
  let privateKeyPem ← check (need qos.privateKey (missingProperty "dds.sec.auth.private_key"))
  loadTrustedCas env amb qos.trustedCaDir
  let s ← Act.read id
  let (identityCert, identityCa, privateKey, crl, certExpiry, adjusted) ←
    check (loadIdentity env amb s.trustedCaList identityCertPem identityCaPem privateKeyPem qos candidate)
  let identity : LocalIdentityInfo :=
    { adjustedGuid := adjusted, identityCert, identityCa, privateKey, crl
      dsignAlgoKind := getAuthenticationAlgoKind identityCert
      kagreeAlgoKind := s.kem
      timer := if certExpiry = ddsNever then 0 else amb.timer }
  if certExpiry ≠ ddsNever then addValidityEndTrigger amb amb.object certExpiry
  Act.write (·.putObject amb.object (.localIdentity identity))
  return (amb.object, adjusted)

def getIdentityToken (h : Handle) : Call κ Token := do
  let identity ← Act.demand (·.localIdentity h) (.failed (message "get_identity_token: Invalid handle provided"))
  let snCert ← check (getCertificateSubjectName amb identity.identityCert)
  let snCa ← check (getCertificateSubjectName amb identity.identityCa)
  let algo (cert : X509) := str (getAuthenticationAlgo (getAuthenticationAlgoKind cert))
  return {
    classId := str "pqsec-dds.auth:1.0"
    properties :=
      [⟨str "dds.cert.sn", snCert⟩, ⟨str "dds.cert.algo", algo identity.identityCert⟩,
       ⟨str "dds.ca.sn", snCa⟩, ⟨str "dds.ca.algo", algo identity.identityCa⟩] }

def setPermissionsCredentialAndToken (h : Handle) (credential : Token) : Call κ PUnit := do
  check (require (h ≠ 0) (message "set_permissions_credential_and_token: Invalid parameter provided"))
  check (require (credential.classId = some (str "DDS:Access:PermissionsCredential"))
    (message "set_permissions_credential_and_token: Invalid credential class_id"))
  let document ← check (need credential.properties.head?
    (message "set_permissions_credential_and_token: Invalid credential properties"))
  check (require (document.name = some (str "dds.perm.cert"))
    (message "set_permissions_credential_and_token: Invalid credential properties"))
  let identity ← Act.demand (·.localIdentity h)
    (.failed (message "set_permissions_credential_and_token: Invalid handle provided"))
  Act.write (·.putObject h (.localIdentity { identity with permissionsDocument := some (document.value.getD []) }))

/-! ## Remote identities -/

def validateRemoteIdentityToken (token : Token) : Except SecurityException Unit := do
  let classId ← need token.classId (message "remote identity token: class_id is empty")
  require (classId = str "pqsec-dds.auth:1.0")
    (.message (str "remote identity token: class_id='" ++ classId ++ str "' not supported"))

/-- The name is compared over the length of `future_challenge` only. -/
def isFutureChallenge (prop : BinaryProperty) : Bool :=
  match prop.name with
  | none => false
  | some name => (str "future_challenge").isPrefixOf name

def validateAuthRequestToken (token : Token) : Except SecurityException Challenge := do
  let classId ← need token.classId (message "AuthRequestMessageToken invalid: missing class_id")
  require (classId = str "pqsec-dds.auth:1.0+AuthReq")
    (.message (str "AuthRequestMessageToken invalid: class_id '" ++ classId ++ str "' is invalid"))
  require (!token.binaryProperties.isEmpty) (message "AuthRequestMessageToken invalid: properties are missing")
  let prop ← need (token.binaryProperties.find? isFutureChallenge)
    (message "AuthRequestMessageToken invalid: future_challenge not found")
  require (prop.value.length = 32) (message "AuthRequestMessageToken invalid: future_challenge invalid size")
  return toChallenge prop.value

/-- `fill_auth_request_token` -/
def authRequestToken (challenge : Challenge) : Token where
  classId := str "pqsec-dds.auth:1.0+AuthReq"
  binaryProperties := [binaryProperty "future_challenge" challenge.1]

inductive RemoteResult where
  | pendingHandshakeRequest
  | pendingHandshakeMessage
  deriving DecidableEq

/-- The relation of the local to the remote identity, with a new challenge if there is none yet. -/
def relate (l r : Handle) (lchallenge : Challenge) (rchallenge : Option Challenge) : Call κ Handle := do
  match ← Act.read (·.findIdentityRelation l r) with
  | some a => do
    Act.write fun s =>
      match s.relation a, rchallenge with
      | some relation, some c => s.putRelation a { relation with rchallenge := some c }
      | _, _ => s
    pure a
  | none => do
    let remote ← Act.demand (·.remoteIdentity r) (.fault .nullPointer)
    Act.write fun s => (s.putRelation amb.relation ⟨l, r, some lchallenge, rchallenge⟩).putObject r
      (.remoteIdentity { remote with linkHash := remote.linkHash.insert l amb.relation })
    pure amb.relation

/-- The remote identity with that GUID, made if there is none. -/
def remoteFor (remoteIdentityToken : Token) (guid : Guid) : Call κ Handle := do
  match ← Act.read (·.remoteGuidHash.lookup guid) with
  | some r => do
    let remote ← Act.demand (·.remoteIdentity r) (.fault .nullPointer)
    check (require (env.dataHolderEqual remote.remoteIdentityToken remoteIdentityToken)
      (message "validate_remote_identity: remote_identity_token does not match with previously received one"))
    pure r
  | none => do
    Act.write fun s => { s.putObject amb.object (.remoteIdentity { guid, remoteIdentityToken }) with
      remoteGuidHash := s.remoteGuidHash.insert guid amb.object }
    pure amb.object

/-- The result, the remote identity's handle, and the AuthRequest to send, unless one was received. -/
def validateRemoteIdentity (remoteAuthRequestToken : Option Token) (l : Handle) (remoteIdentityToken : Token)
    (guid : Guid) : Call κ (RemoteResult × Handle × Option Token) := do
  let localIdent ← Act.demand (·.localIdentity l)
    (.failed (message "validate_remote_identity: Invalid handle provided"))
  check (validateRemoteIdentityToken remoteIdentityToken)
  let rchallenge ← check (remoteAuthRequestToken.mapM validateAuthRequestToken)
  let lchallenge ← check (generateChallenge amb)
  let r ← remoteFor env amb remoteIdentityToken guid
  let a ← relate amb l r lchallenge rchallenge
  let relation ← Act.demand (·.relation a) (.fault .nullPointer)
  let token ← match remoteAuthRequestToken with
    | some _ => pure none
    | none => do
      let challenge ← Act.lift (need relation.lchallenge (.fault .nullPointer))
      pure (some (authRequestToken challenge))
  return (if memcmpLt localIdent.adjustedGuid.octets guid.octets then .pendingHandshakeRequest
    else .pendingHandshakeMessage, r, token)

/-! ## Handshake tokens -/

/-- The five credential properties. -/
def credentialProperties (certData : Octets) (permissionsDocument : Option CStr) (pdata : Octets)
    (dsignAlgo kagreeAlgo : String) : List BinaryProperty :=
  [binaryProperty "c.id" certData, setByString "c.perm" (permissionsDocument.getD []),
   binaryProperty "c.pdata" pdata, setByString "c.dsign_algo" (str dsignAlgo),
   setByString "c.kagree_algo" (str kagreeAlgo)]

namespace Context

def setPdata (pdata : Octets) (c : Context κ) : Context κ :=
  if c.localIdentity.pdata.isEmpty then { c with localIdentity.pdata := pdata } else c

def setKemKeypair (keypair : Option (KemKeypair κ)) (c : Context κ) : Context κ :=
  { c with handshake.kemKeypair := keypair }

def setEncapsulated (out : Option Octets × Option Octets) (c : Context κ) : Context κ :=
  { c with handshake.kemCt := out.1, handshake.kemSs := out.2 }

def setKemSs (ss : Option Octets) (c : Context κ) : Context κ := { c with handshake.kemSs := ss }

def setSharedSecret (secret : Option SharedSecret) (c : Context κ) : Context κ :=
  { c with handshake.sharedSecret := secret }

end Context

/-- A pointer that is read. -/
def deref {σ α : Type} (o : Option α) : Act σ Stop α := Act.lift (need o (.fault .nullPointer))

/-- authentication.c:1466-1484: a fresh key pair replaces the one of an earlier Request. -/
def generateKeypair : HandshakeCall κ (KemKeypair κ) := do
  Act.write (Context.setKemKeypair none)
  let localIdent ← Act.read (·.localIdentity)
  let keypair ← check (need (pqsecKemKeypairGenerate env localIdent.kagreeAlgoKind amb.keySeed)
    (.message (str "OpenSSL EVP failed to generate " ++ str (getAuthenticationAlgo localIdent.kagreeAlgoKind) ++
      str " keypair")))
  Act.write (Context.setKemKeypair (some keypair))
  return keypair

/-- authentication.c:1486-1596, with the fresh key pair. -/
def buildRequest (includeOptional : Bool) (certData pdata : Octets) (keypair : KemKeypair κ) : HandshakeCall κ Token := do
  let localIdent ← Act.read (·.localIdentity)
  let expectedPkSize := getKemPublicKeySize localIdent.kagreeAlgoKind
  check (require (keypair.publicKey.length = expectedPkSize)
    (.message (str "Generated " ++ str (getAuthenticationAlgo localIdent.kagreeAlgoKind) ++
      str " public key has incorrect size: " ++ decimal keypair.publicKey.length ++ str " (expected " ++
      decimal expectedPkSize ++ str ")")))
  Act.write (Context.setPdata pdata)
  let credentials := credentialProperties certData localIdent.permissionsDocument pdata
    (getDsignAlgo localIdent.dsignAlgoKind) (getKagreeAlgo localIdent.kagreeAlgoKind)
  let hashC1 := env.sha256 (env.serializeSeq credentials)
  Act.write (Context.setHash .req hashC1)
  assertThat (!keypair.publicKey.isEmpty)
  let relation ← Act.read (·.relation)
  let lchallenge ← deref relation.lchallenge
  let tokens := credentials ++ (if includeOptional then [binaryProperty "hash_c1" hashC1.1] else []) ++
    [binaryProperty "pqsec-dds.kem_public" keypair.publicKey, binaryProperty "challenge1" lchallenge.1]
  assertThat (tokens.length = if includeOptional then 8 else 7)
  return { classId := str "pqsec-dds.auth:1.0+Req", binaryProperties := tokens }

/-- What `begin_handshake_request` does to the handshake. -/
def makeRequest (includeOptional : Bool) (certData pdata : Octets) : HandshakeCall κ Token := do
  let keypair ← generateKeypair env amb
  buildRequest env includeOptional certData pdata keypair

def beginHandshakeRequest (initiator replier : Handle) (pdata : Octets) : Call κ (Handle × Token) := do
  let localIdent ← Act.demand (·.localIdentity initiator)
    (.failed (message "begin_handshake_request: Invalid initiator_identity_handle provided"))
  let _ ← Act.demand (·.remoteIdentity replier)
    (.failed (message "begin_handshake_request: Invalid replier_identity_handle provided"))
  -- the error path frees `certData`, which was never set
  let certData ← Act.lift ((getCertificateContents env amb localIdent.identityCert).mapError fun _ =>
    .fault .uninitialised)
  let includeOptional ← Act.read (·.includeOptional)
  onHandshake amb initiator replier .createdRequest (makeRequest env amb includeOptional certData pdata)

/-- authentication.c:2575-2600: encapsulate, unless a ciphertext and a secret are there already. Then
`binary_property_kem_public` is never set, though it is read below. -/
def encapsulateTo (inp : Token) : HandshakeCall κ BinaryProperty := do
  let c ← Act.read id
  if c.handshake.kemCt.isNone || c.handshake.kemSs.isNone then do
    let kemPublic ← check (need (inp.findBinaryProperty "pqsec-dds.kem_public")
      (message "begin_handshake_reply: KEM public key not found"))
    let (ok, out) := pqsecKemEncapsulate env c.remoteIdentity.kagreeAlgoKind kemPublic.value amb.encapSeed
      (c.handshake.kemCt, c.handshake.kemSs)
    Act.write (Context.setEncapsulated out)
    check (require ok (message "OpenSSL EVP KEM encapsulation failed"))
    pure kemPublic
  else Act.stop (.fault .uninitialised)

/-- authentication.c:2566-2835, after the Request is validated. -/
def answerRequest (includeOptional : Bool) (inp : Token) (pdata : Octets) : HandshakeCall κ (Token × Signed) := do
  let localIdent ← Act.read (·.localIdentity)
  let certData ← check (getCertificateContents env amb localIdent.identityCert)
  let kemPublic ← encapsulateTo env amb inp
  Act.write (Context.setPdata pdata)
  let remoteIdent ← Act.read (·.remoteIdentity)
  let credentials := credentialProperties certData localIdent.permissionsDocument pdata
    (getDsignAlgo localIdent.dsignAlgoKind) (getKagreeAlgo remoteIdent.kagreeAlgoKind)
  Act.write (Context.setHash .reply (env.sha256 (env.serializeSeq credentials)))
  let c ← Act.read id
  let kemCt ← deref c.handshake.kemCt
  let challenge1 ← Act.lift (need c.relation.rchallenge (.fault .assertion))
  let challenge2 ← Act.lift (need c.relation.lchallenge (.fault .assertion))
  let hashC1 := c.handshake.hashC1
  let hashC2 := c.handshake.hashC2
  check (require localIdent.privateKey.canSign (message "Selected key cannot perform signing operations"))
  let (data, signature) ← check (createPqSignature env amb localIdent.privateKey
    (replyTranscript includeOptional hashC1 hashC2 challenge1.1 challenge2.1 kemPublic.value kemCt))
  let tokens := credentials ++ [binaryProperty "pqsec-dds.kem_ciphertext" kemCt,
      binaryProperty "pqsec-dds.kem_public" kemPublic.value, binaryProperty "challenge1" challenge1.1,
      binaryProperty "challenge2" challenge2.1] ++
    (if includeOptional then [binaryProperty "hash_c2" hashC2.1, binaryProperty "hash_c1" hashC1.1] else []) ++
    [binaryProperty "signature" signature]
  assertThat (tokens.length = if includeOptional then 12 else 10)
  return ({ classId := str "pqsec-dds.auth:1.0+Reply", binaryProperties := tokens }, ⟨localIdent.privateKey, data⟩)

/-- authentication.c:2557-2835, on the handshake. -/
def makeReply (includeOptional : Bool) (trustedCaList : List X509) (inp : Token) (pdata : Octets) :
    HandshakeCall κ (Token × Signed) := do
  validateHandshakeToken env amb includeOptional trustedCaList inp .req
  answerRequest env amb includeOptional inp pdata

def beginHandshakeReply (inp : Token) (initiator replier : Handle) (pdata : Octets) :
    Call κ (Handle × Token × Signed) := do
  check (require (!pdata.isEmpty) (message "begin_handshake_reply: Invalid parameter provided"))
  let _ ← Act.demand (·.localIdentity replier)
    (.failed (message "begin_handshake_reply: Invalid replier_identity_handle provided"))
  let _ ← Act.demand (·.remoteIdentity initiator)
    (.failed (message "begin_handshake_reply: Invalid initiator_identity_handle provided"))
  let s ← Act.read id
  onHandshake amb replier initiator .createdReply (makeReply env amb s.includeOptional s.trustedCaList inp pdata)

/-! ## Completing a handshake -/

/-- `VALIDATION_OK_FINAL_MESSAGE` comes with the Final token. -/
inductive HandshakeResult where
  | ok
  | okFinalMessage (out : Token) (signed : Signed)

/-- authentication.c:3066-3247, after the Reply is validated. -/
def answerReply (includeOptional : Bool) (inp : Token) : HandshakeCall κ (Token × Signed) := do
  let kemCiphertext ← check (need (inp.findBinaryProperty "pqsec-dds.kem_ciphertext") .unset)
  let kemPublic ← check (need (inp.findBinaryProperty "pqsec-dds.kem_public") .unset)
  let c ← Act.read id
  let (ok, ss) := pqsecKemDecapsulate env c.handshake.kemKeypair kemCiphertext.value c.handshake.kemSs
  Act.write (Context.setKemSs ss)
  check (require ok (message "OpenSSL EVP KEM decapsulation failed"))
  let challenge1 ← Act.lift (need c.relation.lchallenge (.fault .assertion))
  let challenge2 ← Act.lift (need c.relation.rchallenge (.fault .assertion))
  let hashC1 := c.handshake.hashC1
  let hashC2 := c.handshake.hashC2
  let (data, signature) ← check (createPqSignature env amb c.localIdentity.privateKey
    (finalTranscript includeOptional hashC1 hashC2 challenge1.1 challenge2.1 kemPublic.value kemCiphertext.value))
  let tokens := [binaryProperty "challenge1" challenge1.1, binaryProperty "challenge2" challenge2.1] ++
    (if includeOptional then [binaryProperty "hash_c2" hashC2.1, binaryProperty "hash_c1" hashC1.1] else []) ++
    [binaryProperty "pqsec-dds.kem_public" kemPublic.value,
     binaryProperty "pqsec-dds.kem_ciphertext" kemCiphertext.value, binaryProperty "signature" signature]
  return ({ classId := str "pqsec-dds.auth:1.0+Final", binaryProperties := tokens }, ⟨c.localIdentity.privateKey, data⟩)

def generateSharedSecret (handshake : HandshakeInfo κ) : Except SecurityException HashValue := do
  let ss ← need handshake.kemSs (message "process_handshake: No KEM shared secret available")
  require (!ss.isEmpty) (message "process_handshake: No KEM shared secret available")
  return env.sha256 ss

/-- The challenges in the roles of the handshake. -/
def Context.challenges (c : Context κ) : Option Challenge × Option Challenge :=
  match c.handshake.createdIn with
  | .createdRequest => (c.relation.lchallenge, c.relation.rchallenge)
  | .createdReply => (c.relation.rchallenge, c.relation.lchallenge)

/-- authentication.c:3290-3329: the secret is stored, and goes again if the certificate's expiry cannot be read.
Returns the expiry. -/
def completeHandshake : HandshakeCall κ Int := do
  let c ← Act.read id
  let sharedSecret ← check (generateSharedSecret env c.handshake)
  let challenge1 ← deref c.challenges.1
  let challenge2 ← deref c.challenges.2
  Act.write (Context.setSharedSecret (some ⟨challenge1, challenge2, sharedSecret⟩))
  let cert ← Act.lift (need c.remoteIdentity.identityCert (.fault .assertion))
  let certExp := getCertificateExpiry amb cert
  Act.onStop (check (require (certExp ≠ ddsTimeInvalid) (message "Expiry date of the certificate is invalid")))
    (Context.setSharedSecret none)
  return certExp

/-- What `process_handshake` does to the handshake: the result and the expiry of the peer's certificate. -/
def processToken (includeOptional : Bool) (trustedCaList : List X509) (inp : Token) :
    HandshakeCall κ (HandshakeResult × Int) := do
  let handshake ← Act.read (·.handshake)
  match handshake.createdIn with
  | .createdRequest => do
    validateHandshakeToken env amb includeOptional trustedCaList inp .reply
    let (out, signed) ← answerReply env amb includeOptional inp
    let certExp ← completeHandshake env amb
    pure (.okFinalMessage out signed, certExp)
  | .createdReply => do
    validateHandshakeToken env amb includeOptional [] inp .final
    let certExp ← completeHandshake env amb
    pure (.ok, certExp)

/-- authentication.c:3325-3328 -/
def watchExpiry (h : Handle) (certExp : Int) : Call κ PUnit := do
  let c ← Act.demand (·.context h) (.fault .nullPointer)
  if certExp ≠ ddsNever && c.remoteIdentity.timer = 0 then do
    addValidityEndTrigger amb c.relation.remoteIdentity certExp
    Act.write (·.putObject c.relation.remoteIdentity (.remoteIdentity { c.remoteIdentity with timer := amb.timer }))
  else pure ⟨⟩

def processHandshake (inp : Token) (h : Handle) : Call κ HandshakeResult := do
  check (require (h ≠ 0) (message "process_handshake: Invalid parameter provided"))
  let _ ← Act.demand (·.handshake h) (.failed (message "process_handshake: Invalid handshake_handle provided"))
  let s ← Act.read id
  let (result, certExp) ← withContext h (processToken env amb s.includeOptional s.trustedCaList inp)
  watchExpiry amb h certExp
  return result

/-- The address of the secret, here the secret itself. -/
def getSharedSecret (h : Handle) : Call κ (Option SharedSecret) := do
  check (require (h ≠ 0) (message "get_shared_secret: Invalid parameter provided"))
  let handshake ← Act.demand (·.handshake h) (.failed (message "get_shared_secret: Invalid handle provided"))
  return handshake.sharedSecret

def getAuthenticatedPeerCredentialToken (h : Handle) : Call κ Token := do
  check (require (h ≠ 0) .invalidParameter)
  let _ ← Act.demand (·.handshake h) (.failed .invalidParameter)
  let c ← Act.demand (·.context h) (.fault .nullPointer)
  let identityCert ← check (need c.remoteIdentity.identityCert .operationNotPermitted)
  let permissionsDoc ← check (need c.remoteIdentity.permissionsDocument .missingRemotePermissionsDocument)
  let certData ← check (getCertificateContents env amb identityCert)
  return {
    classId := str "pqsec-dds.auth:1.0"
    properties := [⟨str "c.id", certData⟩, ⟨str "c.perm", permissionsDoc⟩] }

/-! ## Returning handles -/

def returnHandshakeHandle (h : Handle) : Call κ PUnit := do
  check (require (h ≠ 0) (message "return_handshake_handle: Invalid parameter provided"))
  let _ ← Act.demand (·.handshake h) (.failed (message "return_handshake_handle: Invalid handle provided"))
  Act.write (·.removeObject h)

namespace Authentication

/-- The handshake and the relation of a pair go. -/
def invalidatePair (s : Authentication κ) (l r : Handle) : Authentication κ :=
  let s := match s.findHandshake l r with
    | some h => s.removeObject h
    | none => s
  match s.remoteIdentity r with
  | none => s
  | some remote =>
    match remote.linkHash.lookup l with
    | none => s
    | some a => { s.putObject r (.remoteIdentity { remote with linkHash := remote.linkHash.erase l }) with
        relations := s.relations.erase a }

/-- `invalidate_local_related_objects`: over all remote identities. -/
def invalidateLocal (s : Authentication κ) (l : Handle) : Authentication κ :=
  s.objectHash.entries.foldl (fun s e => if e.2.asRemote.isSome then s.invalidatePair l e.1 else s) s

/-- `invalidate_remote_related_objects`: over all relations of the remote identity. -/
def invalidateRemote (s : Authentication κ) (r : Handle) (remote : RemoteIdentityInfo) : Authentication κ :=
  remote.linkHash.entries.foldl (fun s e => s.invalidatePair e.1 r) s

/-- `dds_security_timed_dispatcher_remove` -/
def removeTimer (s : Authentication κ) (timer : Nat) : Authentication κ :=
  if timer = 0 then s else { s with dispatcher := s.dispatcher.erase timer }

def returnIdentity (s : Authentication κ) (h : Handle) : SecurityObject κ → Authentication κ
  | .localIdentity identity => ((s.removeTimer identity.timer).invalidateLocal h).removeObject h
  | .remoteIdentity identity =>
    { ((s.removeTimer identity.timer).invalidateRemote h identity).removeObject h with
      remoteGuidHash := s.remoteGuidHash.erase identity.guid }
  | .handshake _ => s

end Authentication

def returnIdentityHandle (h : Handle) : Call κ PUnit := do
  check (require (h ≠ 0) (message "return_identity_handle: Invalid parameter provided"))
  let obj ← Act.demand (·.objectHash.lookup h)
    (.failed (message "return_identity_handle: Invalid handle provided"))
  check (require obj.asHandshake.isNone (message "return_identity_handle: Invalid handle provided"))
  Act.write (·.returnIdentity h obj)

/-! ## Triggers -/

namespace Authentication

/-- The identity's timer is cleared when its trigger has gone off. -/
def clearTimer (s : Authentication κ) (h : Handle) : Authentication κ :=
  match s.objectHash.lookup h with
  | some (.localIdentity identity) => s.putObject h (.localIdentity { identity with timer := 0 })
  | some (.remoteIdentity identity) => s.putObject h (.remoteIdentity { identity with timer := 0 })
  | _ => s

end Authentication

/-- A trigger goes off. -/
def validityCallback (timer : Nat) : Call κ PUnit :=
  Act.write fun s =>
    match s.dispatcher.lookup timer with
    | none => s
    | some (h, _) => { s with dispatcher := s.dispatcher.erase timer }.clearTimer h

/-! ## Calls -/

inductive Op where
  | validateLocalIdentity (qos : Qos) (candidate : Guid)
  | getIdentityToken (h : Handle)
  | setPermissionsCredentialAndToken (h : Handle) (credential : Token)
  | validateRemoteIdentity (remoteAuthRequestToken : Option Token) (l : Handle) (remoteIdentityToken : Token)
      (guid : Guid)
  | beginHandshakeRequest (initiator replier : Handle) (pdata : Octets)
  | beginHandshakeReply (inp : Token) (initiator replier : Handle) (pdata : Octets)
  | processHandshake (inp : Token) (h : Handle)
  | getSharedSecret (h : Handle)
  | getAuthenticatedPeerCredentialToken (h : Handle)
  | returnHandshakeHandle (h : Handle)
  | returnIdentityHandle (h : Handle)
  | validityCallback (timer : Nat)

def HandshakeResult.signed : HandshakeResult → List Signed
  | .ok => []
  | .okFinalMessage _ signed => [signed]

/-- The call, with the signatures it hands out. -/
def Op.call : Op → Call κ (List Signed)
  | .validateLocalIdentity qos candidate => do
    let _ ← CycloneDDS.validateLocalIdentity env amb qos candidate
    return []
  | .getIdentityToken h => do
    let _ ← CycloneDDS.getIdentityToken amb h
    return []
  | .setPermissionsCredentialAndToken h credential => do
    CycloneDDS.setPermissionsCredentialAndToken h credential
    return []
  | .validateRemoteIdentity request l token guid => do
    let _ ← CycloneDDS.validateRemoteIdentity env amb request l token guid
    return []
  | .beginHandshakeRequest initiator replier pdata => do
    let _ ← CycloneDDS.beginHandshakeRequest env amb initiator replier pdata
    return []
  | .beginHandshakeReply inp initiator replier pdata => do
    let (_, _, signed) ← CycloneDDS.beginHandshakeReply env amb inp initiator replier pdata
    return [signed]
  | .processHandshake inp h => do
    let result ← CycloneDDS.processHandshake env amb inp h
    return result.signed
  | .getSharedSecret h => do
    let _ ← CycloneDDS.getSharedSecret h
    return []
  | .getAuthenticatedPeerCredentialToken h => do
    let _ ← CycloneDDS.getAuthenticatedPeerCredentialToken env amb h
    return []
  | .returnHandshakeHandle h => do
    CycloneDDS.returnHandshakeHandle h
    return []
  | .returnIdentityHandle h => do
    CycloneDDS.returnIdentityHandle h
    return []
  | .validityCallback timer => do
    CycloneDDS.validityCallback timer
    return []

/-! ## The message that a handshake call fills -/

/-- `handshake_message_out`, with the signatures that it carries. All zero, it is empty. -/
structure MessageOut where
  token : Token := {}
  signed : List Signed := []

/-- An operation on the caller's message, too. -/
abbrev MessageCall (κ α : Type) := Act (Authentication κ × MessageOut) Stop α

/-- authentication.c:3385-3386: a message that was filled already is emptied. -/
def deinitMessage {σ : Type} (s : σ × MessageOut) : σ × MessageOut := if s.2.token.classId.isSome then (s.1, {}) else s

/-- `processToken`, with the message. A token that does not validate leaves by `err_inv_token`, the rest by
`err_signature`, `err_openssl` or `err_invalid_expiry`. -/
def processTokenOut (includeOptional : Bool) (trustedCaList : List X509) (inp : Token) :
    Act (Context κ × MessageOut) Stop (HandshakeResult × Int) := do
  let handshake ← Act.read (·.1.handshake)
  match handshake.createdIn with
  | .createdRequest => do
    Act.onFirst (validateHandshakeToken env amb includeOptional trustedCaList inp .reply)
    Act.onStop (do
      let (out, signed) ← Act.onFirst (answerReply env amb includeOptional inp)
      Act.write fun s => (s.1, ⟨out, [signed]⟩)
      let certExp ← Act.onFirst (completeHandshake env amb)
      pure (.okFinalMessage out signed, certExp)) deinitMessage
  | .createdReply => do
    Act.onFirst (validateHandshakeToken env amb includeOptional [] inp .final)
    Act.onStop (do
      let certExp ← Act.onFirst (completeHandshake env amb)
      pure (.ok, certExp)) deinitMessage

/-- `processHandshake`, with the message: it is emptied before anything is written. -/
def processHandshakeOut (inp : Token) (h : Handle) : MessageCall κ HandshakeResult := do
  Act.onFirst (check (require (h ≠ 0) (message "process_handshake: Invalid parameter provided")))
  Act.write fun s => (s.1, {})
  let _ ← Act.onFirst (Act.demand (·.handshake h)
    (.failed (message "process_handshake: Invalid handshake_handle provided")))
  let s ← Act.read (·.1)
  let (result, certExp) ← Act.zoomFirst (fun s => need (s.context h) (.fault .nullPointer))
    (fun s c => s.setContext h c) (processTokenOut env amb s.includeOptional s.trustedCaList inp)
  Act.onFirst (watchExpiry amb h certExp)
  return result

/-- The call, with the message. The other two handshake calls write it last (authentication.c:1587-1591 and
2836-2838), the calls that have none leave it alone. -/
def Op.callOut : Op → MessageCall κ (List Signed)
  | .beginHandshakeRequest initiator replier pdata => do
    let (_, token) ← Act.onFirst (CycloneDDS.beginHandshakeRequest env amb initiator replier pdata)
    Act.write fun s => (s.1, ⟨token, []⟩)
    return []
  | .beginHandshakeReply inp initiator replier pdata => do
    let (_, token, signed) ← Act.onFirst (CycloneDDS.beginHandshakeReply env amb inp initiator replier pdata)
    Act.write fun s => (s.1, ⟨{ token with properties := s.2.token.properties }, [signed]⟩)
    return [signed]
  | .processHandshake inp h => do
    let result ← processHandshakeOut env amb inp h
    return result.signed
  | op => Act.onFirst (op.call env amb)

/-! ## Which calls are defined -/

/-- The allocator and the dispatcher hand out what is not in use. -/
structure Allocates (s : Authentication κ) : Prop where
  object_ne_zero : amb.object ≠ 0
  object : amb.object ∉ s.objectHash
  relation : amb.relation ∉ s.relations
  timer_ne_zero : amb.timer ≠ 0
  timer : amb.timer ∉ s.dispatcher

instance (s : Authentication κ) : Decidable (Allocates amb s) :=
  decidable_of_iff (amb.object ≠ 0 ∧ amb.object ∉ s.objectHash ∧ amb.relation ∉ s.relations ∧ amb.timer ≠ 0 ∧
    amb.timer ∉ s.dispatcher)
    ⟨fun ⟨h1, h2, h3, h4, h5⟩ => ⟨h1, h2, h3, h4, h5⟩, fun ⟨h1, h2, h3, h4, h5⟩ => ⟨h1, h2, h3, h4, h5⟩⟩

/-- The behaviour of a call is defined if it returns. -/
def Defined (s : Authentication κ) (op : Op × Ambient ρ) : Prop := Allocates op.2 s ∧ Returns (op.1.call env op.2) s

instance (s : Authentication κ) (op : Op × Ambient ρ) : Decidable (Defined env s op) :=
  inferInstanceAs (Decidable (_ ∧ _))

/-- The state after a call, and the signatures in the message that it was lent. A call that is not defined ends a
run (see `plugin`), here it changes nothing. -/
def exec (s : Authentication κ) (op : Op × Ambient ρ) : Authentication κ × List Signed :=
  if Allocates op.2 s then
    match op.1.callOut env op.2 (s, {}) with
    | (.error (.fault _), _) => (s, [])
    | (_, s', out) => (s', out.signed)
  else (s, [])

end PqsecDds.CycloneDDS
