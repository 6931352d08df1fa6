import Mathlib.Logic.Function.Basic
import PqsecDds.Lib.Checks
import PqsecDds.Lib.SignedInt
import PqsecDds.OpenDDS.Crypto

/-!
# The OpenDDS authentication plugin (`Authentication.cpp`)

| here | there |
|---|---|
| `LocalIdentity`, `RemoteIdentity`, `Handshake` | the structs of Authentication.cpp:139-174 |
| `localHeap`, `remoteHeap`, `handshakeHeap` | the objects the `shared_ptr`s point to |
| `locals`, `remotes`, `handshakes` | `locals_`, `remotes_`, `handshakes_` |
| `Outcome` | the return value and the out-parameters of an operation |
| `Op`, `exec`, `Defined` | a call of the plugin |

A pointer is a position in its heap. An object is shared by every pointer to it and stays in the heap
when the last map entry for it is erased: it is then out of reach of every operation.
`Outcome.signed` records the key and the data of a successful `sign_serialized` call.

Left out: `set_listener` and the `return_*_token` operations, which touch nothing below, and the mutex.
-/

namespace PqsecDds.OpenDDS

open Lib

/-- `DDS::Security::IdentityHandle` and `HandshakeHandle`, a `CORBA::Long`; `Defined` keeps the counter in its range. Zero is
`HANDLE_NIL`. -/
abbrev Handle := Int

inductive ValidationResult where
  | ok
  | failed
  | pendingRetry
  | pendingHandshakeRequest
  | pendingHandshakeMessage
  | okFinalMessage
  deriving DecidableEq

structure LocalIdentity (α π : Type) where
  credentials : Credentials α π
  guid : Guid
  kemAlgorithm : Str α
  deriving DecidableEq

structure RemoteIdentity (α : Type) where
  localHandle : Handle
  guid : Guid
  localAuthRequest : Token α
  remoteAuthRequest : Token α
  localChallenge : OctetSeq α
  remoteChallenge : OctetSeq α
  localAuthRequestSent : Bool
  deriving DecidableEq

structure Handshake (α κ π : Type) where
  initiator : Bool
  state : ValidationResult
  localHandle : Handle
  remoteHandle : Handle
  localPtr : Nat
  remotePtr : Nat
  kem : Kem α κ
  request : Token α := {}
  reply : Token α := {}
  hash1 : OctetSeq α := []
  hash2 : OctetSeq α := []
  challenge1 : OctetSeq α := []
  challenge2 : OctetSeq α := []
  publicKey : OctetSeq α := []
  ciphertext : OctetSeq α := []
  secret : OctetSeq α := []
  remoteCertificate : Option (Certificate α π) := none
  remotePermissions : OctetSeq α := []
  deriving DecidableEq

structure Authentication (α κ π : Type) where
  fallbackProvider : ProviderFallback α
  nextHandle : Int
  locals : Handle → Option Nat
  remotes : Handle → Option Nat
  handshakes : Handle → Option Nat
  localHeap : List (LocalIdentity α π)
  remoteHeap : List (RemoteIdentity α)
  handshakeHeap : List (Handshake α κ π)

/-- The secret handed out by `get_shared_secret`. -/
structure SharedSecret (α : Type) where
  challenge1 : OctetSeq α
  challenge2 : OctetSeq α
  sharedSecret : OctetSeq α
  deriving DecidableEq

structure Outcome (α π : Type) where
  result : ValidationResult
  handle : Handle
  token : Token α
  message : Str α := []
  adjusted : Option Guid := none
  signed : Option (π × OctetSeq α) := none
  deriving DecidableEq

variable {α κ π ρ : Type} [Octet α] [DecidableEq α]

/-- `fail` and the `VALIDATION_FAILED` that follows it everywhere (Authentication.cpp:42-44). -/
def fail (handle : Handle) (token : Token α) (message : Str α) : Outcome α π :=
  { result := .failed, handle, token, message }

/-! ## Names and checks -/

def mldsaAlgorithm (value : Str α) : Bool :=
  value = str "ML-DSA-44" || value = str "ML-DSA-65" || value = str "ML-DSA-87"

def kemAlgorithm (value : Str α) : Bool :=
  value = str "ML-KEM-512" || value = str "ML-KEM-768" || value = str "ML-KEM-1024" ||
  value = str "X25519MLKEM768" || value = str "SecP256r1MLKEM768" || value = str "frodo640shake" ||
  value = str "bikel1" || value = str "hqc128"

/-- The order of GUIDs is the order of their octets (Authentication.cpp:66-68). -/
def initiator (ours theirs : Guid) : Bool := ours.bytes < theirs.bytes

/-- `SSL::offset_1bit`: octet `i` of the array moved right by one bit. -/
def offset1bit (array : List UInt8) (i : Nat) : UInt8 :=
  let carry : UInt8 := if i = 0 then 0 else array.getD (i - 1) 0 <<< 7
  array.getD i 0 >>> 1 ||| carry

/-- Authentication.cpp:70-84. -/
def certMatchesGuid (certificate : Certificate α π) (guid : Guid) : Bool :=
  match certificate.subjectNameDigest with
  | none => false
  | some digest =>
    decide (6 ≤ digest.length) && guid.bytes.getD 0 0 &&& 0x80 == 0x80 &&
      guid.bytes.getD 0 0 &&& 0x7f == offset1bit digest 0 &&
      [1, 2, 3, 4, 5].all fun i => guid.bytes.getD i 0 == offset1bit digest i

/-- Only the first `PID_PARTICIPANT_GUID` counts (Authentication.cpp:86-100). -/
def firstGuid : List Parameter → Option Guid
  | [] => none
  | .participantGuid guid :: _ => some guid
  | .other :: rest => firstGuid rest

def participantDataHasGuid (env : Env α κ π ρ) (data : OctetSeq α) (expected : Guid) : Bool :=
  match env.deserializeParameterList data with
  | none => false
  | some parameters => firstGuid parameters = some expected

/-! ## Handles -/

namespace Authentication

def new (env : Env α κ π ρ) : Authentication α κ π where
  fallbackProvider := { loaded := env.initialProviders }
  nextHandle := 1
  locals _ := none
  remotes _ := none
  handshakes _ := none
  localHeap := []
  remoteHeap := []
  handshakeHeap := []

/-- `local(handle)`: the pointer and the object behind it. -/
def findLocal (s : Authentication α κ π) (handle : Handle) : Option (Nat × LocalIdentity α π) :=
  (s.locals handle).bind fun p => s.localHeap[p]?.map (p, ·)

/-- `remote(handle)`. -/
def findRemote (s : Authentication α κ π) (handle : Handle) : Option (Nat × RemoteIdentity α) :=
  (s.remotes handle).bind fun p => s.remoteHeap[p]?.map (p, ·)

def findHandshake (s : Authentication α κ π) (handle : Handle) : Option (Nat × Handshake α κ π) :=
  (s.handshakes handle).bind fun p => s.handshakeHeap[p]?.map (p, ·)

def addLocal (s : Authentication α κ π) (identity : LocalIdentity α π) : Authentication α κ π :=
  { s with
    nextHandle := s.nextHandle + 1
    locals := Function.update s.locals s.nextHandle (some s.localHeap.length)
    localHeap := s.localHeap ++ [identity] }

def addRemote (s : Authentication α κ π) (identity : RemoteIdentity α) : Authentication α κ π :=
  { s with
    nextHandle := s.nextHandle + 1
    remotes := Function.update s.remotes s.nextHandle (some s.remoteHeap.length)
    remoteHeap := s.remoteHeap ++ [identity] }

def addHandshake (s : Authentication α κ π) (hs : Handshake α κ π) : Authentication α κ π :=
  { s with
    nextHandle := s.nextHandle + 1
    handshakes := Function.update s.handshakes s.nextHandle (some s.handshakeHeap.length)
    handshakeHeap := s.handshakeHeap ++ [hs] }

def setRemote (s : Authentication α κ π) (p : Nat) (identity : RemoteIdentity α) : Authentication α κ π :=
  { s with remoteHeap := s.remoteHeap.set p identity }

def setHandshake (s : Authentication α κ π) (p : Nat) (hs : Handshake α κ π) : Authentication α κ π :=
  { s with handshakeHeap := s.handshakeHeap.set p hs }

end Authentication

open Authentication

/-! ## Identities -/

/-- The KEM and the provider the QoS properties select (Authentication.cpp:210-221). -/
def selectKem (amb : Ambient α ρ) (properties : List (Property α)) : Str α × Str α :=
  properties.foldl
    (fun (kem, provider) property =>
      if property.name = str "pqsec-dds.kem" then (property.value, provider)
      else if property.name = str "pqsec-dds.provider" then (kem, property.value)
      else (kem, provider))
    (str "X25519MLKEM768", amb.environmentProvider.getD (str "oqsprovider"))

/-- Authentication.cpp:194-245. -/
def validateLocalIdentity (env : Env α κ π ρ) (amb : Ambient α ρ) (s : Authentication α κ π)
    (handle : Handle) (properties : List (Property α)) (candidate : Guid) :
    Outcome α π × Authentication α κ π :=
  match (env.loadCredentials properties).filter (env.validateCredentials amb.now) with
  | none => (fail handle {} (str "PQSec failed to load or validate local credentials"), s)
  | some credentials =>
    if !mldsaAlgorithm credentials.participantCert.dsignAlgo then
      (fail handle {} (str "PQSec requires an ML-DSA identity certificate"), s)
    else
      let (selectedKem, selectedProvider) := selectKem amb properties
      if !kemAlgorithm selectedKem then
        (fail handle {} (str "PQSec requested an unsupported KEM algorithm: " ++ selectedKem), s)
      else
        match s.fallbackProvider.ensureAlgorithm env amb selectedKem selectedProvider with
        | (.error providerError, fallbackProvider) =>
          (fail handle {} (str "PQSec requested an unavailable KEM algorithm: " ++ providerError),
            { s with fallbackProvider })
        | (.ok (), fallbackProvider) =>
          let s := { s with fallbackProvider }
          match env.makeAdjustedGuid candidate credentials.participantCert with
          | none => (fail handle {} (str "PQSec failed to derive the adjusted participant GUID"), s)
          | some adjusted =>
            ({ result := .ok, handle := s.nextHandle, token := {}, adjusted := some adjusted },
              s.addLocal { credentials, guid := adjusted, kemAlgorithm := selectedKem })

/-- Authentication.cpp:247-266. -/
def getIdentityToken (s : Authentication α κ π) (token : Token α) (handle : Handle) :
    Except (Str α) (Token α) := do
  let (_, identity) ← need (s.findLocal handle) (str "Unknown local identity")
  let cert := identity.credentials.participantCert
  let ca := identity.credentials.caCert
  let writer := token.writer "pqsec-dds.auth:1.0"
  let writer := writer.addProperty "dds.cert.sn" cert.subjectName
  let writer := writer.addProperty "dds.cert.algo" cert.keypairAlgo
  let writer := writer.addProperty "dds.ca.sn" ca.subjectName
  return writer.addProperty "dds.ca.algo" ca.keypairAlgo

/-- Authentication.cpp:279-290. -/
def setPermissionsCredentialAndToken (env : Env α κ π ρ) (s : Authentication α κ π) (handle : Handle)
    (credential : Token α) : Except (Str α) (Authentication α κ π) := do
  let (p, identity) ← need (s.findLocal handle) (str "Unknown local identity")
  let accessPermissions ← env.loadAccessPermissions credential
  let credentials := { identity.credentials with accessPermissions }
  return { s with localHeap := s.localHeap.set p { identity with credentials } }

/-- The part of `validate_remote_identity` that is common to a new and to a known remote identity
(Authentication.cpp:325-345). `identity` is the object at `p`. -/
def receiveAuthRequest (s : Authentication α κ π) (p : Nat) (identity : RemoteIdentity α)
    (remoteHandle : Handle) (localRequest remoteRequest : Token α) (localGuid : Guid) :
    Outcome α π × Authentication α κ π :=
  let identity := { identity with remoteAuthRequest := remoteRequest }
  if !remoteRequest.isNil && !remoteRequest.classIs "pqsec-dds.auth:1.0+AuthReq" then
    (fail remoteHandle localRequest (str "Incompatible PQSec AuthRequest token"), s.setRemote p identity)
  else
    let identity := { identity with remoteChallenge := remoteRequest.getBinPropertyValue "future_challenge" }
    if !remoteRequest.isNil && identity.remoteChallenge.length ≠ 32 then
      (fail remoteHandle localRequest (str "PQSec AuthRequest challenge must contain 256 bits"),
        s.setRemote p identity)
    else
      let identity :=
        if remoteRequest.isNil then { identity with localAuthRequestSent := true } else identity
      let token := if remoteRequest.isNil then identity.localAuthRequest else {}
      let result := if initiator localGuid identity.guid then
        .pendingHandshakeRequest else .pendingHandshakeMessage
      ({ result, handle := remoteHandle, token }, s.setRemote p identity)

/-- Authentication.cpp:292-346. -/
def validateRemoteIdentity (env : Env α κ π ρ) (amb : Ambient α ρ) (s : Authentication α κ π)
    (remoteHandle : Handle) (localRequest remoteRequest : Token α) (localHandle : Handle)
    (identityToken : Token α) (remoteGuid : Guid) : Outcome α π × Authentication α κ π :=
  match s.findLocal localHandle with
  | none =>
    (fail remoteHandle localRequest
      (str "Unknown local identity or incompatible remote authentication plugin"), s)
  | some (_, localIdentity) =>
    if !identityToken.classIs "pqsec-dds.auth:1.0" then
      (fail remoteHandle localRequest
        (str "Unknown local identity or incompatible remote authentication plugin"), s)
    else
      match if remoteHandle ≠ 0 then s.findRemote remoteHandle else none with
      | some (p, identity) =>
        if identity.localHandle ≠ localHandle || identity.guid ≠ remoteGuid then
          (fail remoteHandle localRequest
            (str "Remote identity handle does not match the supplied participants"), s)
        else receiveAuthRequest s p identity remoteHandle localRequest remoteRequest localIdentity.guid
      | none =>
        match env.makeNonce256 amb.nonceSeed with
        | none => (fail remoteHandle localRequest (str "Failed to generate PQSec AuthRequest challenge"), s)
        | some localChallenge =>
          let writer : Token α := Token.writer {} "pqsec-dds.auth:1.0+AuthReq"
          let identity : RemoteIdentity α :=
            { localHandle, guid := remoteGuid,
              localAuthRequest := writer.addBinProperty "future_challenge" localChallenge,
              remoteAuthRequest := {}, localChallenge, remoteChallenge := [],
              localAuthRequestSent := false }
          receiveAuthRequest (s.addRemote identity) s.remoteHeap.length identity s.nextHandle
            localRequest remoteRequest localIdentity.guid

/-! ## Handshakes -/

/-- The five credential properties of a Request or Reply (Authentication.cpp:394-398, 515-519). -/
def writeCredentials (writer : Token α) (l : LocalIdentity α π) (participantData : OctetSeq α) : Token α :=
  let certificate := l.credentials.participantCert
  let writer := writer.addBinProperty "c.id" certificate.originalBytes
  let writer := writer.addBinProperty "c.perm" l.credentials.accessPermissions
  let writer := writer.addBinProperty "c.pdata" participantData
  let writer := writer.addBinProperty "c.dsign_algo" (cStr certificate.dsignAlgo)
  writer.addBinProperty "c.kagree_algo" (cStr l.kemAlgorithm)

def localCredentialHash (env : Env α κ π ρ) (l : LocalIdentity α π) (participantData : OctetSeq α) :
    Option (OctetSeq α) :=
  credentialHash env l.credentials.participantCert.originalBytes l.credentials.accessPermissions
    participantData l.credentials.participantCert.dsignAlgo l.kemAlgorithm

/-- The challenge advertised in our AuthRequest when it was sent, else a new one. -/
def ownChallenge (env : Env α κ π ρ) (amb : Ambient α ρ) (r : RemoteIdentity α) : Option (OctetSeq α) :=
  if r.localAuthRequestSent then some r.localChallenge else env.makeNonce256 amb.nonceSeed

/-- The new handshake and the Request token of `begin_handshake_request` (Authentication.cpp:357-402). -/
def makeRequest (env : Env α κ π ρ) (amb : Ambient α ρ) (s : Authentication α κ π) (message : Token α)
    (initiatorHandle replierHandle : Handle) (participantData : OctetSeq α) :
    Except (Str α) (Handshake α κ π × Token α) := do
  let invalid := str "Invalid identities or participant data for PQSec handshake request"
  let (localPtr, l) ← need (s.findLocal initiatorHandle) invalid
  let (remotePtr, r) ← need (s.findRemote replierHandle) invalid
  require (participantData ≠ []) invalid
  let kem ← Kem.generate env amb s.fallbackProvider.loaded { algorithm := l.kemAlgorithm }
  let publicKey ← kem.publicKey env amb
  let challenge1 ← need (ownChallenge env amb r) (str "Failed to generate PQSec request challenge")
  let hash1 ← need (localCredentialHash env l participantData)
    (str "Failed to hash PQSec request credentials")
  let writer := writeCredentials (message.writer "pqsec-dds.auth:1.0+Req") l participantData
  let writer := writer.addBinProperty "pqsec-dds.kem_public" publicKey
  let request := writer.addBinProperty "challenge1" challenge1
  return ({ initiator := true, state := .pendingHandshakeMessage, localHandle := initiatorHandle,
            remoteHandle := replierHandle, localPtr, remotePtr, kem, request, hash1, challenge1,
            publicKey }, request)

/-- Authentication.cpp:348-406. -/
def beginHandshakeRequest (env : Env α κ π ρ) (amb : Ambient α ρ) (s : Authentication α κ π)
    (handle : Handle) (message : Token α) (initiatorHandle replierHandle : Handle)
    (participantData : OctetSeq α) : Outcome α π × Authentication α κ π :=
  if handle ≠ 0 then
    (fail handle message (str "PQSec handshake request requires a NIL output handle"), s)
  else
    match makeRequest env amb s message initiatorHandle replierHandle participantData with
    | .error e => (fail handle message e, s)
    | .ok (hs, request) =>
      ({ result := .pendingHandshakeMessage, handle := s.nextHandle, token := request }, s.addHandshake hs)

/-- What `validate_remote_credentials` stores on success. -/
structure ValidatedCredentials (α π : Type) where
  certificate : Certificate α π
  permissions : OctetSeq α
  hash : OctetSeq α
  deriving DecidableEq

/-- Authentication.cpp:408-440. -/
def validateRemoteCredentials (env : Env α κ π ρ) (amb : Ambient α ρ) (l : LocalIdentity α π)
    (r : RemoteIdentity α) (token : Token α) : Except (Str α) (ValidatedCredentials α π) := do
  let certificateData := token.getBinPropertyValue "c.id"
  let permissions := token.getBinPropertyValue "c.perm"
  let participantData := token.getBinPropertyValue "c.pdata"
  let signatureAlgorithm := stringValue (token.getBinPropertyValue "c.dsign_algo")
  let selectedKem := stringValue (token.getBinPropertyValue "c.kagree_algo")
  require (mldsaAlgorithm signatureAlgorithm && selectedKem = l.kemAlgorithm)
    (str "Unsupported or mismatched PQSec algorithms")
  let invalid := str "Remote ML-DSA certificate, adjusted GUID, or participant data is invalid"
  let certificate ← need (env.deserializeCertificate certificateData) invalid
  require (env.validateCertificate amb.now certificate l.credentials.caCert) invalid
  require (certificate.dsignAlgo = signatureAlgorithm) invalid
  require (certMatchesGuid certificate r.guid) invalid
  require (participantDataHasGuid env participantData r.guid) invalid
  let hash ← need
    (credentialHash env certificateData permissions participantData signatureAlgorithm selectedKem)
    (str "Failed to hash remote PQSec credentials")
  return { certificate, permissions, hash }

/-- The new handshake, the Reply token and the signed data of `begin_handshake_reply`
(Authentication.cpp:453-525). -/
def makeReply (env : Env α κ π ρ) (amb : Ambient α ρ) (s : Authentication α κ π) (request : Token α)
    (initiatorHandle replierHandle : Handle) (participantData : OctetSeq α) :
    Except (Str α) (Handshake α κ π × Token α × π × OctetSeq α) := do
  let invalid := str "Invalid PQSec handshake request"
  let (localPtr, l) ← need (s.findLocal replierHandle) invalid
  let (remotePtr, r) ← need (s.findRemote initiatorHandle) invalid
  require (request.classIs "pqsec-dds.auth:1.0+Req") invalid
  let validated ← validateRemoteCredentials env amb l r request
  let hash1 := validated.hash
  let challenge1 := request.getBinPropertyValue "challenge1"
  let publicKey := request.getBinPropertyValue "pqsec-dds.kem_public"
  require (challenge1.length = 32) (str "PQSec request challenge must contain 256 bits")
  require (r.remoteChallenge = [] || challenge1 = r.remoteChallenge)
    (str "PQSec request challenge does not match AuthRequest")
  let kem ← Kem.importPublic env amb s.fallbackProvider.loaded { algorithm := l.kemAlgorithm } publicKey
  let (ciphertext, secret) ← kem.encapsulate env amb
  let challenge2 ← need (ownChallenge env amb r) (str "Failed to generate PQSec reply challenge")
  let hash2 ← need (localCredentialHash env l participantData)
    (str "Failed to hash PQSec reply credentials")
  let key := l.credentials.participantPrivateKey
  let (data, signature) ← need
    (signSerialized env amb (replyTranscript hash2 challenge2 ciphertext challenge1 publicKey hash1) key)
    (str "ML-DSA reply signature failed")
  let writer := writeCredentials (Token.writer {} "pqsec-dds.auth:1.0+Reply") l participantData
  let writer := writer.addBinProperty "pqsec-dds.kem_ciphertext" ciphertext
  let writer := writer.addBinProperty "challenge1" challenge1
  let writer := writer.addBinProperty "challenge2" challenge2
  let reply := writer.addBinProperty "signature" signature
  return ({ initiator := false, state := .pendingHandshakeMessage, localHandle := replierHandle,
            remoteHandle := initiatorHandle, localPtr, remotePtr, kem, request, reply, hash1, hash2,
            challenge1, challenge2, publicKey, ciphertext, secret,
            remoteCertificate := some validated.certificate,
            remotePermissions := validated.permissions }, reply, key, data)

/-- Authentication.cpp:442-529. The token argument is emptied before anything but the handle is checked. -/
def beginHandshakeReply (env : Env α κ π ρ) (amb : Ambient α ρ) (s : Authentication α κ π)
    (handle : Handle) (message : Token α) (initiatorHandle replierHandle : Handle)
    (participantData : OctetSeq α) : Outcome α π × Authentication α κ π :=
  if handle ≠ 0 then
    (fail handle message (str "PQSec handshake reply requires a NIL output handle"), s)
  else
    match makeReply env amb s message initiatorHandle replierHandle participantData with
    | .error e => (fail handle {} e, s)
    | .ok (hs, reply, key, data) =>
      ({ result := .pendingHandshakeMessage, handle := s.nextHandle, token := reply,
         signed := some (key, data) }, s.addHandshake hs)

def Handshake.replyProperties (hs : Handshake α κ π) : BinaryPropertySeq α :=
  replyTranscript hs.hash2 hs.challenge2 hs.ciphertext hs.challenge1 hs.publicKey hs.hash1

def Handshake.finalProperties (hs : Handshake α κ π) : BinaryPropertySeq α :=
  finalTranscript hs.hash1 hs.challenge1 hs.publicKey hs.challenge2 hs.ciphertext hs.hash2

def Handshake.setFailed (hs : Handshake α κ π) : Handshake α κ π := { hs with state := .failed }

/-- The Reply branch of `process_handshake` (Authentication.cpp:547-595). The fields are overwritten as
the checks go; a failure leaves those already written. -/
def processReply (env : Env α κ π ρ) (amb : Ambient α ρ) (l : LocalIdentity α π) (r : RemoteIdentity α)
    (hs : Handshake α κ π) (handle : Handle) (input : Token α) : Outcome α π × Handshake α κ π :=
  match validateRemoteCredentials env amb l r input with
  | .error e => (fail handle {} e, hs.setFailed)
  | .ok validated =>
    let hs := { hs with
      hash2 := validated.hash
      remoteCertificate := some validated.certificate
      remotePermissions := validated.permissions
      challenge2 := input.getBinPropertyValue "challenge2"
      ciphertext := input.getBinPropertyValue "pqsec-dds.kem_ciphertext" }
    if hs.challenge2.length ≠ 32 || input.getBinPropertyValue "challenge1" ≠ hs.challenge1 ||
        (r.remoteChallenge ≠ [] && hs.challenge2 ≠ r.remoteChallenge) then
      (fail handle {} (str "PQSec reply challenge mismatch"), hs.setFailed)
    else if !verifySerialized env hs.replyProperties validated.certificate
        (input.getBinPropertyValue "signature") then
      (fail handle {} (str "ML-DSA reply signature verification failed"), hs.setFailed)
    else
      let decapsulated := hs.kem.decapsulate env amb hs.ciphertext
      let hs := { hs with kem := hs.kem.clear }
      match decapsulated with
      | .error e => (fail handle {} e, hs.setFailed)
      | .ok secret =>
        let hs := { hs with secret }
        let key := l.credentials.participantPrivateKey
        match signSerialized env amb hs.finalProperties key with
        | none => (fail handle {} (str "ML-DSA final signature failed"), hs.setFailed)
        | some (data, signature) =>
          let writer : Token α := Token.writer {} "pqsec-dds.auth:1.0+Final"
          let output := writer.addBinProperty "signature" signature
          ({ result := .okFinalMessage, handle, token := output, signed := some (key, data) },
            { hs with reply := input, state := .okFinalMessage })

/-- The Final branch (Authentication.cpp:597-610). -/
def processFinal (env : Env α κ π ρ) (hs : Handshake α κ π) (handle : Handle) (input : Token α) :
    Outcome α π × Handshake α κ π :=
  let signature := input.getBinPropertyValue "signature"
  if hs.remoteCertificate.any (verifySerialized env hs.finalProperties · signature) then ({ result := .ok, handle, token := {} }, { hs with state := .ok })
  else (fail handle {} (str "ML-DSA final signature verification failed"), hs.setFailed)

/-- What `process_handshake` does with a live handshake (Authentication.cpp:540-614). -/
def processMessage (env : Env α κ π ρ) (amb : Ambient α ρ) (l : LocalIdentity α π) (r : RemoteIdentity α)
    (hs : Handshake α κ π) (handle : Handle) (input : Token α) : Outcome α π × Handshake α κ π :=
  if hs.state ≠ .pendingHandshakeMessage then
    (fail handle {} (str "PQSec handshake is not awaiting a message"), hs)
  else if hs.initiator && input.classIs "pqsec-dds.auth:1.0+Reply" then
    processReply env amb l r hs handle input
  else if !hs.initiator && input.classIs "pqsec-dds.auth:1.0+Final" then
    processFinal env hs handle input
  else (fail handle {} (str "Unexpected PQSec handshake message"), hs.setFailed)

/-- The identities a handshake points to. -/
def Authentication.identities (s : Authentication α κ π) (hs : Handshake α κ π) :
    Option (LocalIdentity α π × RemoteIdentity α) :=
  s.localHeap[hs.localPtr]?.bind fun l => s.remoteHeap[hs.remotePtr]?.map (l, ·)

/-- Authentication.cpp:531-614. A handshake's own pointers never dangle (`WellFormed`). -/
def processHandshake (env : Env α κ π ρ) (amb : Ambient α ρ) (s : Authentication α κ π)
    (output input : Token α) (handle : Handle) : Outcome α π × Authentication α κ π :=
  match s.findHandshake handle with
  | none => (fail handle output (str "Unknown PQSec handshake handle"), s)
  | some (p, hs) =>
    match s.identities hs with
    | none => (fail handle output [], s)
    | some (l, r) =>
      let (outcome, hs) := processMessage env amb l r hs handle input
      (outcome, s.setHandshake p hs)

/-! ## Results -/

def Handshake.completed (hs : Handshake α κ π) : Bool := hs.state = .ok || hs.state = .okFinalMessage

/-- Authentication.cpp:616-628. -/
def getSharedSecret (s : Authentication α κ π) (handle : Handle) : Except (Str α) (SharedSecret α) :=
  let unavailable := str "PQSec shared secret requested before authentication completed"
  match s.findHandshake handle with
  | none => .error unavailable
  | some (_, hs) =>
    if hs.completed then
      .ok { challenge1 := hs.challenge1, challenge2 := hs.challenge2, sharedSecret := hs.secret }
    else .error unavailable

/-- Authentication.cpp:630-645. -/
def getAuthenticatedPeerCredentialToken (s : Authentication α κ π) (token : Token α) (handle : Handle) :
    Except (Str α) (Token α) :=
  let unavailable := str "PQSec peer credentials are unavailable"
  match s.findHandshake handle with
  | none => .error unavailable
  | some (_, hs) =>
    match hs.remoteCertificate with
    | none => .error unavailable
    | some certificate =>
      if hs.completed then
        let writer := token.writer "pqsec-dds.auth:1.0"
        let writer := writer.addBinProperty "c.id" certificate.originalBytes
        .ok (writer.addBinProperty "c.perm" hs.remotePermissions)
      else .error unavailable

/-- Authentication.cpp:672-680. -/
def returnHandshakeHandle (s : Authentication α κ π) (handle : Handle) :
    Except (Str α) (Authentication α κ π) := do
  require (s.handshakes handle).isSome (str "Unknown PQSec handshake handle")
  return { s with handshakes := Function.update s.handshakes handle none }

/-- Authentication.cpp:682-689. -/
def returnIdentityHandle (s : Authentication α κ π) (handle : Handle) :
    Except (Str α) (Authentication α κ π) :=
  if (s.locals handle).isSome then .ok { s with locals := Function.update s.locals handle none }
  else if (s.remotes handle).isSome then .ok { s with remotes := Function.update s.remotes handle none }
  else .error (str "Unknown PQSec identity handle")

/-! ## Calls -/

inductive Op (α : Type) where
  | validateLocalIdentity (handle : Handle) (properties : List (Property α)) (candidate : Guid)
  | getIdentityToken (token : Token α) (handle : Handle)
  | setPermissionsCredentialAndToken (handle : Handle) (credential : Token α)
  | validateRemoteIdentity (remoteHandle : Handle) (localRequest remoteRequest : Token α)
      (localHandle : Handle) (identityToken : Token α) (remoteGuid : Guid)
  | beginHandshakeRequest (handle : Handle) (message : Token α) (initiatorHandle replierHandle : Handle)
      (participantData : OctetSeq α)
  | beginHandshakeReply (handle : Handle) (message : Token α) (initiatorHandle replierHandle : Handle)
      (participantData : OctetSeq α)
  | processHandshake (output input : Token α) (handle : Handle)
  | getSharedSecret (handle : Handle)
  | getAuthenticatedPeerCredentialToken (token : Token α) (handle : Handle)
  | returnHandshakeHandle (handle : Handle)
  | returnIdentityHandle (handle : Handle)
  deriving DecidableEq

/-- What a call sets free: a signature of some data under some key, or a token for the wire. -/
inductive Event (α π : Type) where
  | signed (key : π) (data : OctetSeq α)
  | sent (token : Token α)
  deriving DecidableEq

/-- The token of a successful operation goes out, with the signature in it. -/
def Outcome.events (o : Outcome α π) : List (Event α π) :=
  if o.result = .failed then [] else .sent o.token :: o.signed.toList.map fun (key, data) => .signed key data

/-- The operations that return a boolean change nothing when it is false. -/
def stateOr (s : Authentication α κ π) : Except (Str α) (Authentication α κ π) → Authentication α κ π
  | .ok s' => s'
  | .error _ => s

def exec (env : Env α κ π ρ) (s : Authentication α κ π) :
    Op α × Ambient α ρ → Authentication α κ π × List (Event α π)
  | (.validateLocalIdentity handle properties candidate, amb) =>
    let (o, s) := validateLocalIdentity env amb s handle properties candidate
    (s, o.events)
  | (.getIdentityToken token handle, _) =>
    match getIdentityToken s token handle with
    | .ok token => (s, [.sent token])
    | .error _ => (s, [])
  | (.setPermissionsCredentialAndToken handle credential, _) =>
    (stateOr s (setPermissionsCredentialAndToken env s handle credential), [])
  | (.validateRemoteIdentity remoteHandle localRequest remoteRequest localHandle identityToken remoteGuid, amb) =>
    let (o, s) :=
      validateRemoteIdentity env amb s remoteHandle localRequest remoteRequest localHandle identityToken remoteGuid
    (s, o.events)
  | (.beginHandshakeRequest handle message initiatorHandle replierHandle participantData, amb) =>
    let (o, s) := beginHandshakeRequest env amb s handle message initiatorHandle replierHandle participantData
    (s, o.events)
  | (.beginHandshakeReply handle message initiatorHandle replierHandle participantData, amb) =>
    let (o, s) := beginHandshakeReply env amb s handle message initiatorHandle replierHandle participantData
    (s, o.events)
  | (.processHandshake output input handle, amb) =>
    let (o, s) := processHandshake env amb s output input handle
    (s, o.events)
  | (.getSharedSecret _, _) => (s, [])
  | (.getAuthenticatedPeerCredentialToken _ _, _) => (s, [])
  | (.returnHandshakeHandle handle, _) => (stateOr s (returnHandshakeHandle s handle), [])
  | (.returnIdentityHandle handle, _) => (stateOr s (returnIdentityHandle s handle), [])

/-- `next_handle_++` stays in the range of a `CORBA::Long` (Authentication.cpp:180). Past it the behaviour of the call is
not defined. -/
def Defined (env : Env α κ π ρ) (s : Authentication α κ π) (call : Op α × Ambient α ρ) : Prop :=
  InInt32 (exec env s call).1.nextHandle

instance (env : Env α κ π ρ) (s : Authentication α κ π) (call : Op α × Ambient α ρ) : Decidable (Defined env s call) :=
  inferInstanceAs (Decidable (InInt32 _))

end PqsecDds.OpenDDS
