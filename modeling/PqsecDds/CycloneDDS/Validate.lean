import PqsecDds.CycloneDDS.Store

/-!
# Validation of handshake tokens

| here | there |
|---|---|
| `getAdjustedParticipantGuid` | authentication.c:656-685 |
| `validatePdata` | authentication.c:1615-1675 |
| `findRequiredBinprop` and its variants | authentication.c:1691-1760 |
| `loadX509CertificateFromBinprop` | authentication.c:1762-1820 |
| `validateHandshakeTokenImpl`, in the parts a token type goes through | authentication.c:1848-2421 |
| `validateHandshakeToken` | authentication.c:2423-2455 |

The parts write into the remote identity, the relation and the handshake while later parts may still fail.
-/

namespace PqsecDds.CycloneDDS

open Lib

variable {κ ρ : Type} (env : Env κ ρ) (amb : Ambient ρ)

/-! ## The adjusted GUID -/

/-- Shift right by one bit through the octets; `hb` holds what comes in at the top. -/
def shiftIn (hb : UInt8) : Octets → Octets
  | [] => []
  | x :: xs => (hb ||| x >>> 1) :: shiftIn (x <<< 7) xs

theorem shiftIn_length (hb : UInt8) (l : Octets) : (shiftIn hb l).length = l.length := by
  induction l generalizing hb with
  | nil => rfl
  | cons x xs ih => simp [shiftIn, ih]

/-- The six octets that a subject name determines. -/
def subjectPrefix (subject : Octets) : Octets := shiftIn 0x80 ((env.sha256 subject).1.take 6)

theorem subjectPrefix_length (subject : Octets) : (subjectPrefix env subject).length = 6 := by
  rw [subjectPrefix, shiftIn_length, List.length_take, (env.sha256 subject).2]
  rfl

def adjustedPrefix (subject : Octets) (candidate : Bytes 12) : Bytes 12 :=
  ⟨subjectPrefix env subject ++ (env.sha256 candidate.1).1.take 6, by
    rw [List.length_append, subjectPrefix_length, List.length_take, (env.sha256 candidate.1).2]
    rfl⟩

def getAdjustedParticipantGuid (cert : X509) (candidate : Guid) : Except SecurityException Guid := do
  let subject ← getSubjectNameDerEncoded amb cert
  return { guidPrefix := adjustedPrefix env subject candidate.guidPrefix, entityId := candidate.entityId }

/-- The key of the participant data has the six octets of the certificate. -/
def validatePdata (pdata : Octets) (cert : X509) : Except SecurityException Unit := do
  let key ← need (env.participantKey pdata) .foreign
  let aguid ← getAdjustedParticipantGuid env amb cert ⟨zeroBytes 12, zeroBytes 4⟩
  require (key.1.take 6 = aguid.guidPrefix.1.take 6)
    (message "begin_handshake_reply: c.pdata contains incorrect participant guid")

/-! ## Properties of a token -/

def intMax : Nat := 2 ^ 31 - 1

def propertyFailure (name text : String) : SecurityException :=
  message ("process_handshake: HandshakeMessageToken property " ++ name ++ text)

def findRequiredBinprop (token : Token) (name : String) : Except SecurityException BinaryProperty := do
  let prop ← need (token.findBinaryProperty name) (propertyFailure name " missing")
  require (prop.value.length ≤ intMax)
    (.message (str ("process_handshake: HandshakeMessageToken property " ++ name ++ " has unsupported size (") ++
      decimal prop.value.length ++ str " bytes)"))
  return prop

def findRequiredNonemptyBinprop (token : Token) (name : String) : Except SecurityException BinaryProperty := do
  let prop ← findRequiredBinprop token name
  require (!prop.value.isEmpty) (propertyFailure name " is empty")
  return prop

def findRequiredBinpropExactsize (token : Token) (name : String) (size : Nat) :
    Except SecurityException BinaryProperty := do
  let prop ← findRequiredBinprop token name
  require (prop.value.length = size)
    (.message (str ("process_handshake: HandshakeMessageToken property " ++ name ++ " has wrong size (") ++
      decimal prop.value.length ++ str " while expecting " ++ decimal size ++ str ")"))
  return prop

/-- A hash property is optional, but if it is there it is right. -/
def checkHash (token : Token) (name : String) (hash : HashValue) : Except SecurityException Unit :=
  match token.findBinaryProperty name with
  | none => .ok ()
  | some prop => require (prop.value = hash.1) (propertyFailure name " invalid")

/-! ## The certificate of a token -/

/-- The loop over the trusted CAs. -/
def verifyWithTrusted (cert : X509) : List X509 → Except SecurityException Unit
  | [] => .error .unset
  | [ca] => verifyCertificate env amb cert ca none
  | ca :: cas =>
    match verifyCertificate env amb cert ca none with
    | .ok _ => .ok ()
    | .error _ => verifyWithTrusted cert cas

def loadX509CertificateFromBinprop (prop : BinaryProperty) (ownCa : X509) (ownCrl : Option X509Crl)
    (trustedCaList : List X509) : Except SecurityException X509 := do
  require (!(ownCrl.isSome && !trustedCaList.isEmpty))
    (message "load_X509_certificate_from_binprop: Cannot specify both CRL and trusted_ca_list")
  let cert ← loadX509CertificateFromData env amb prop.value
  if trustedCaList.isEmpty then verifyCertificate env amb cert ownCa ownCrl
  else verifyWithTrusted env amb cert trustedCaList
  checkCertificateExpiry amb cert
  return cert

/-! ## Signed contents -/

/-- What a Reply signature covers. A property found by its name is `binaryProperty name value`. -/
def replyTranscript (includeOptional : Bool) (hashC1 hashC2 : HashValue)
    (challenge1 challenge2 kemPublic kemCiphertext : Octets) : List BinaryProperty :=
  let content := [binaryProperty "challenge2" challenge2, binaryProperty "pqsec-dds.kem_ciphertext" kemCiphertext,
    binaryProperty "challenge1" challenge1, binaryProperty "pqsec-dds.kem_public" kemPublic]
  if includeOptional then
    binaryProperty "hash_c2" hashC2.1 :: content ++ [binaryProperty "hash_c1" hashC1.1]
  else content

/-- What a Final signature covers. -/
def finalTranscript (includeOptional : Bool) (hashC1 hashC2 : HashValue)
    (challenge1 challenge2 kemPublic kemCiphertext : Octets) : List BinaryProperty :=
  let content := [binaryProperty "challenge1" challenge1, binaryProperty "pqsec-dds.kem_public" kemPublic,
    binaryProperty "challenge2" challenge2, binaryProperty "pqsec-dds.kem_ciphertext" kemCiphertext]
  if includeOptional then
    binaryProperty "hash_c1" hashC1.1 :: content ++ [binaryProperty "hash_c2" hashC2.1]
  else content

/-! ## The parts of the validator -/

inductive HandshakeTokenType where
  | req
  | reply
  | final
  deriving DecidableEq

def HandshakeTokenType.classId : HandshakeTokenType → String
  | .req => "pqsec-dds.auth:1.0+Req"
  | .reply => "pqsec-dds.auth:1.0+Reply"
  | .final => "pqsec-dds.auth:1.0+Final"

def checkClassId (token : Token) (tokenType : HandshakeTokenType) : Except SecurityException Unit :=
  require (token.classId = some (str tokenType.classId))
    (.message (str "process_handshake: HandshakeMessageToken incorrect class_id: " ++
      token.classId.getD (str "NULL") ++ str " (expected " ++ str tokenType.classId ++ str ")"))

namespace Context

def setIdentityCert (cert : Option X509) (c : Context κ) : Context κ :=
  { c with remoteIdentity.identityCert := cert }

/-- An empty value leaves the document as it is. -/
def setPermissionsDocument (value : Octets) (c : Context κ) : Context κ :=
  if value.isEmpty then c else { c with remoteIdentity.permissionsDocument := stringFromData value }

def setAlgorithms (dsignAlgoKind kagreeAlgoKind : AuthAlgoKind) (pdata : Octets) (c : Context κ) : Context κ :=
  { c with
    remoteIdentity.dsignAlgoKind := dsignAlgoKind
    remoteIdentity.kagreeAlgoKind := kagreeAlgoKind
    remoteIdentity.pdata := pdata }

/-- The credentials of a Request are hashed in `hash_c1`, those of a Reply in `hash_c2`. -/
def setHash (tokenType : HandshakeTokenType) (hash : HashValue) (c : Context κ) : Context κ :=
  match tokenType with
  | .req => { c with handshake.hashC1 := hash }
  | _ => { c with handshake.hashC2 := hash }

def setRchallenge (challenge : Challenge) (c : Context κ) : Context κ :=
  { c with relation.rchallenge := some challenge }

end Context

/-- What the credentials of an accepted token say. -/
structure CredentialsInfo where
  dsignAlgoKind : AuthAlgoKind
  kagreeAlgoKind : AuthAlgoKind
  cPdata : BinaryProperty

/-- authentication.c:1918-2024, for a Request or a Reply. -/
def acceptCredentials (trustedCaList : List X509) (token : Token) (tokenType : HandshakeTokenType) :
    HandshakeCall κ CredentialsInfo := do
  let cId ← check (findRequiredNonemptyBinprop token "c.id")
  let localIdentity ← Act.read (·.localIdentity)
  let identityCert ← check (loadX509CertificateFromBinprop env amb cId localIdentity.identityCa localIdentity.crl
    trustedCaList)
  Act.write (Context.setIdentityCert (some identityCert))
  let cPerm ← check (findRequiredBinprop token "c.perm")
  Act.write (Context.setPermissionsDocument cPerm.value)
  let cPdata ← check (findRequiredBinprop token "c.pdata")
  check (validatePdata env amb cPdata.value identityCert)
  let cDsignAlgo ← check (findRequiredNonemptyBinprop token "c.dsign_algo")
  let dsignAlgoKind := getDsignAlgoFromOctseq cDsignAlgo.value
  check (require (dsignAlgoKind ≠ .unknown) (propertyFailure "c.dsign_algo" " not supported"))
  check (require (dsignAlgoKind = getAuthenticationAlgoKind identityCert)
    (propertyFailure "c.dsign_algo" " does not match the certificate public key"))
  let cKagreeAlgo ← check (findRequiredNonemptyBinprop token "c.kagree_algo")
  let kagreeAlgoKind := getKagreeAlgoFromOctseq cKagreeAlgo.value
  check (require (kagreeAlgoKind ≠ .unknown) (propertyFailure "c.kagree_algo" " not supported"))
  check (require (kagreeAlgoKind = localIdentity.kagreeAlgoKind)
    (propertyFailure "c.kagree_algo" " does not match the locally configured KEM"))
  Act.write (Context.setHash tokenType
    (env.sha256 (env.serializeArray [cId, cPerm, cPdata, cDsignAlgo, cKagreeAlgo])))
  return { dsignAlgoKind, kagreeAlgoKind, cPdata }

def findKemPublic (token : Token) (kind : AuthAlgoKind) : Except SecurityException BinaryProperty := do
  let kemPublic ← findRequiredNonemptyBinprop token "pqsec-dds.kem_public"
  validateKemProperty kemPublic kind true
  return kemPublic

/-- The properties that a Reply and a Final have in common, besides the hashes. -/
structure SignedParts where
  kemPublic : Octets
  challenge1 : Octets
  challenge2 : Octets
  kemCiphertext : Octets
  signature : Octets
  deriving DecidableEq

/-- authentication.c:2055-2147, for a Reply or a Final. -/
def findSignedParts (token : Token) (kind : AuthAlgoKind) : Except SecurityException SignedParts := do
  let kemPublic ← findKemPublic token kind
  let challenge1 ← findRequiredBinpropExactsize token "challenge1" 32
  let challenge2 ← findRequiredBinpropExactsize token "challenge2" 32
  let kemCiphertext ← findRequiredNonemptyBinprop token "pqsec-dds.kem_ciphertext"
  validateKemProperty kemCiphertext kind false
  let signature ← findRequiredNonemptyBinprop token "signature"
  return ⟨kemPublic.value, challenge1.value, challenge2.value, kemCiphertext.value, signature.value⟩

/-- The value of a property of 32 octets. -/
def toChallenge (value : Octets) : Challenge := if h : value.length = 32 then ⟨value, h⟩ else zeroBytes 32

/-- The challenge of the remote side (authentication.c:2187-2206). A Final stores none. -/
def checkRchallenge (value : Octets) (tokenType : HandshakeTokenType) : HandshakeCall κ PUnit := do
  let rchallenge ← Act.read (·.relation.rchallenge)
  match rchallenge with
  | some challenge =>
    check (require (challenge.1 = value) (propertyFailure (if tokenType = .reply then "challenge2" else "challenge1")
      " does not match future_challenge"))
  | none =>
    Act.write fun c => if tokenType = .final then c else c.setRchallenge (toChallenge value)

/-- The challenge of the local side (authentication.c:2232-2245). -/
def checkLchallenge (c : Context κ) (value : Octets) : Except SecurityException Unit := do
  let challenge ← need c.relation.lchallenge (message "process_handshake: No future challenge exists for this token")
  require (challenge.1 = value)
    (message "process_handshake: HandshakeMessageToken property challenge1 does not match future_challenge")

def checkSignature (c : Context κ) (transcript : List BinaryProperty) (signature : Octets) :
    Except SecurityException Unit := do
  let publicKey ← need (c.remoteIdentity.identityCert.bind (·.pubkey)) (message "X509_get_pubkey failed")
  require publicKey.canSign (message "Certificate contains non-signing key - need ML-DSA certificate for signatures")
  (validatePqSignature env publicKey transcript signature).mapError fun _ => message "PQ signature validation failed"

/-- A check that reads the objects. -/
def checkIn {α : Type} (x : Context κ → Except SecurityException α) : HandshakeCall κ α := do
  let c ← Act.read id
  check (x c)

/-- authentication.c:2269-2277. The asserted `c_pdata` is a field of `info`. -/
def updateRemote (info : CredentialsInfo) : HandshakeCall κ PUnit := do
  assertThat (info.dsignAlgoKind ≠ .unknown)
  assertThat (info.kagreeAlgoKind ≠ .unknown)
  Act.write (Context.setAlgorithms info.dsignAlgoKind info.kagreeAlgoKind info.cPdata.value)

/-! ## The validator -/

def validateRequest (trustedCaList : List X509) (token : Token) : HandshakeCall κ PUnit := do
  check (checkClassId token .req)
  let info ← acceptCredentials env amb trustedCaList token .req
  let _ ← check (findKemPublic token info.kagreeAlgoKind)
  let challenge1 ← check (findRequiredBinpropExactsize token "challenge1" 32)
  checkRchallenge challenge1.value .req
  checkIn fun c => checkHash token "hash_c1" c.handshake.hashC1
  updateRemote info

def validateReply (includeOptional : Bool) (trustedCaList : List X509) (token : Token) : HandshakeCall κ PUnit := do
  check (checkClassId token .reply)
  let info ← acceptCredentials env amb trustedCaList token .reply
  let parts ← check (findSignedParts token info.kagreeAlgoKind)
  checkRchallenge parts.challenge2 .reply
  checkIn fun c => checkHash token "hash_c1" c.handshake.hashC1
  checkIn fun c => checkHash token "hash_c2" c.handshake.hashC2
  checkIn fun c => checkLchallenge c parts.challenge1
  updateRemote info
  checkIn fun c => checkSignature env c (replyTranscript includeOptional c.handshake.hashC1 c.handshake.hashC2
    parts.challenge1 parts.challenge2 parts.kemPublic parts.kemCiphertext) parts.signature

def validateFinal (includeOptional : Bool) (token : Token) : HandshakeCall κ PUnit := do
  check (checkClassId token .final)
  let kagreeAlgoKind ← Act.read (·.remoteIdentity.kagreeAlgoKind)
  let parts ← check (findSignedParts token kagreeAlgoKind)
  checkRchallenge parts.challenge1 .final
  checkIn fun c => checkHash token "hash_c1" c.handshake.hashC1
  checkIn fun c => checkHash token "hash_c2" c.handshake.hashC2
  checkIn fun c => checkLchallenge c parts.challenge2
  checkIn fun c => checkSignature env c (finalTranscript includeOptional c.handshake.hashC1 c.handshake.hashC2
    parts.challenge1 parts.challenge2 parts.kemPublic parts.kemCiphertext) parts.signature

def validateHandshakeTokenImpl (includeOptional : Bool) (trustedCaList : List X509) (token : Token) :
    HandshakeTokenType → HandshakeCall κ PUnit
  | .req => validateRequest env amb trustedCaList token
  | .reply => validateReply env amb includeOptional trustedCaList token
  | .final => validateFinal env includeOptional token

/-- After a failure no certificate is kept, unless the token is a Final. -/
def validateHandshakeToken (includeOptional : Bool) (trustedCaList : List X509) (token : Token)
    (tokenType : HandshakeTokenType) : HandshakeCall κ PUnit :=
  Act.onStop (validateHandshakeTokenImpl env amb includeOptional trustedCaList token tokenType) fun c =>
    if tokenType = .final then c else c.setIdentityCert none

end PqsecDds.CycloneDDS
