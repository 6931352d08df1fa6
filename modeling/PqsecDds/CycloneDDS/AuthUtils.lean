import PqsecDds.CycloneDDS.PqKem
import PqsecDds.Lib.Checks
import Mathlib.Algebra.Group.Int.Defs
import Mathlib.Algebra.Group.Nat.Defs

/-!
# Certificates, signatures and random numbers (`auth_utils.c`)

| here | there |
|---|---|
| `getCertificateExpiry` | auth_utils.c:83-107 |
| `checkKeyTypeAndSize` | auth_utils.c:152-228 |
| `checkCertificateExpiry` | auth_utils.c:256-287 |
| `loadX509CertificateFromBio` | auth_utils.c:289-311 |
| `getConfItemType` | auth_utils.c:498-522 |
| `loadX509Certificate`, `loadX509PrivateKey`, `loadX509Crl` | auth_utils.c:524-700 |
| `verifyCertificate` | auth_utils.c:702-782 |
| `generateChallenge`, `getCertificateContents` | auth_utils.c:784-834 |
| `getTrustedCaList` | auth_utils.c:1360-1420 |
| `createPqSignature`, `validatePqSignature` | auth_utils.c:1516-1628 |
| `validateKemProperty` | auth_utils.c:1630-1666 |

Allocation and the setting up of OpenSSL's stores and contexts do not fail here.
-/

namespace PqsecDds.CycloneDDS

open Lib

variable {κ ρ : Type} (env : Env κ ρ) (amb : Ambient ρ)

/-- A failure of OpenSSL, with its error queue. -/
def opensslFailure (text : String) : SecurityException := .message (str text ++ amb.opensslError)

/-! ## Expiry -/

def ddsTimeInvalid : Int := -2 ^ 63

def ddsNever : Int := 2 ^ 63 - 1

def getCertificateExpiry (cert : X509) : Int :=
  match cert.notAfter with
  | none => ddsTimeInvalid
  | some notAfter =>
    let (days, seconds) := asn1TimeDiff amb notAfter
    let secsInDay := 86400
    let nsecsInSec := 1000000000
    let maxValidDaysToWait := ((ddsNever - amb.ddsTime).tdiv nsecsInSec).tdiv secsInDay
    if days < maxValidDaysToWait then amb.ddsTime + (seconds + days * secsInDay) * nsecsInSec else ddsNever

def checkCertificateExpiry (cert : X509) : Except SecurityException Unit := do
  let comparison := x509CmpCurrentTime amb cert.notBefore
  require (comparison ≠ 0) (message "Certificate has an invalid notBefore value")
  require (comparison ≤ 0) .certStartdateInFuture
  let comparison := x509CmpCurrentTime amb cert.notAfter
  require (comparison ≠ 0) (message "Certificate has an invalid notAfter value")
  require (0 ≤ comparison) .certExpired

/-! ## Loading -/

def getSubjectNameDerEncoded (cert : X509) : Except SecurityException Octets :=
  match cert.subject with
  | none => .error (opensslFailure amb "X509_get_subject_name failed : ")
  | some name => if name.der.isEmpty then .error (opensslFailure amb "i2d_X509_NAME failed : ") else .ok name.der

def getCertificateSubjectName (cert : X509) : Except SecurityException CStr :=
  match cert.subject with
  | none => .error (opensslFailure amb "X509_get_subject_name failed : ")
  | some name => .ok name.oneline

def checkKeyTypeAndSize (key : EvpPkey) (isPrivate : Bool) : Except SecurityException Unit :=
  let sub := str (if isPrivate then "private key" else "certificate")
  if key.isA "ML-DSA-44" || key.isA "MLDSA44" || key.isA "ML-DSA-65" || key.isA "MLDSA65" ||
      key.isA "ML-DSA-87" || key.isA "MLDSA87" then
    require (if isPrivate then env.privateCheck key else env.publicCheck key)
      (.message (str "Invalid ML-DSA " ++ sub))
  else match key.id with
    | .rsa => do
      require (key.bits = 2048)
        (.message (str "RSA " ++ sub ++ str " has unsupported key size (" ++ decimal key.bits ++ str ")"))
      require (!isPrivate || env.rsaCheckKey key) (opensslFailure amb "RSA key not correct : ")
    | .ec => do
      require (key.bits = 256)
        (.message (str "EC " ++ sub ++ str " has unsupported key size (" ++ decimal key.bits ++ str ")"))
      require (env.ecCheckKey key) (message "EC key not correct : ")
    | .other => .error (.message (sub ++ str " has not supported type"))

def checkCertificateTypeAndSize (cert : X509) : Except SecurityException Unit := do
  let key ← need cert.pubkey (message "X509_get_pubkey failed")
  checkKeyTypeAndSize env amb key false

def loadX509CertificateFromBio (bio : Octets) : Except SecurityException X509 := do
  let cert ← need (env.pemReadX509 bio) (opensslFailure amb "Failed to parse certificate: ")
  require (getAuthenticationAlgoKind cert ≠ .unknown) .certAuthAlgoKindUnknown
  return cert

def loadX509CertificateFromData (data : Octets) : Except SecurityException X509 :=
  loadX509CertificateFromBio env amb data

def loadX509CertificateFromFile (path : CStr) : Except SecurityException X509 := do
  let bio ← need (env.readFile path) (.invalidFilePath path)
  loadX509CertificateFromBio env amb bio

/-- `AuthConfItemPrefix_t`, with the text after the prefix. -/
inductive ConfItem where
  | unknown
  | file (path : CStr)
  | data (contents : CStr)
  | pkcs11 (text : CStr)
  deriving DecidableEq

def getConfItemType (text : CStr) : ConfItem :=
  let ptr := text.dropWhile fun c => c = 32 || c = 9
  if (str "file:").isPrefixOf ptr then
    let rest := ptr.drop 5
    .file (if (str "//").isPrefixOf rest then rest.drop 2 else rest)
  else if (str "data:,").isPrefixOf ptr then .data (ptr.drop 6)
  else if (str "pkcs11:").isPrefixOf ptr then .pkcs11 (ptr.drop 7)
  else .unknown

def loadX509Certificate (data : CStr) : Except SecurityException X509 := do
  let cert ← match getConfItemType data with
    | .file path => loadX509CertificateFromFile env amb path
    | .data contents => loadX509CertificateFromData env amb contents
    | .pkcs11 _ => .error (.message (str "Certificate pkcs11 format currently not supported:\n" ++ data))
    | .unknown => .error (.message (str "Specified certificate has wrong format:\n" ++ data))
  checkCertificateTypeAndSize env amb cert
  checkCertificateExpiry amb cert
  return cert

def loadPrivateKey (bio : Octets) (password : Option CStr) : Except SecurityException EvpPkey :=
  need (env.pemReadPrivateKey bio (password.getD [])) (opensslFailure amb "Failed to parse private key: ")

def loadX509PrivateKey (data : CStr) (password : Option CStr) : Except SecurityException EvpPkey := do
  let key ← match getConfItemType data with
    | .file path => do
      let bio ← need (env.readFile path) (.invalidFilePath path)
      loadPrivateKey env amb bio password
    | .data contents => loadPrivateKey env amb contents password
    | .pkcs11 _ => .error (.message (str "PrivateKey pkcs11 format currently not supported:\n" ++ data))
    | .unknown => .error (.message (str "Specified PrivateKey has wrong format:\n" ++ data))
  checkKeyTypeAndSize env amb key true
  return key

def loadX509Crl (data : CStr) : Except SecurityException X509Crl := do
  let bio ← match getConfItemType data with
    | .file path => need (env.readFile path) (.invalidFilePath path)
    | .data contents => .ok contents
    | _ => .error (.message (str "Specified CRL has wrong format:\n" ++ data))
  need (env.pemReadCrl bio) (opensslFailure amb "Failed to read CRL: ")

/-! ## Verification -/

def verifyCertificate (identityCert identityCa : X509) (crl : Option X509Crl) : Except SecurityException Unit :=
  match env.x509VerifyCert amb.time identityCert identityCa crl with
  | none => .ok ()
  | some error =>
    .error (.message (str "Certificate not valid: error: " ++ error ++ str "; subject: " ++
      match identityCert.subject with
      | some name => name.oneline
      | none => str "[not found]"))

/-- `RAND_bytes` returns 1 on success, 0 or -1 on failure; the code tests for a negative value. -/
def generateChallenge : Except SecurityException Challenge :=
  if amb.randReturn < 0 then .error (opensslFailure amb "Failed to generate a 256 bit random number ")
  else .ok amb.randBytes

def getCertificateContents (cert : X509) : Except SecurityException Octets :=
  need (env.pemWriteX509 cert) (opensslFailure amb "PEM_write_bio_X509 failed: ")

/-! ## Trusted CA certificates -/

def maxTrustedCa : Nat := 100

/-- The loop over the directory. `caBuf` is what was loaded so far. -/
def readTrustedCas : List DirEntry → List X509 → Except SecurityException (List X509)
  | [], caBuf => .ok caBuf
  | entry :: entries, caBuf =>
    match entry.normalized with
    | some fname =>
      if entry.stat && entry.name ≠ str "." && entry.name ≠ str ".." then
        if maxTrustedCa ≤ caBuf.length then .error .trustedCaDirMaxExceeded
        else match loadX509CertificateFromFile env amb fname with
          | .ok ca => readTrustedCas entries (caBuf ++ [ca])
          | .error _ => readTrustedCas entries caBuf
      else readTrustedCas entries caBuf
    | none => readTrustedCas entries caBuf

def getTrustedCaList (trustedCaDir : CStr) : Except SecurityException (List X509) := do
  let entries ← need (env.readDirectory trustedCaDir) .invalidTrustedCaDir
  readTrustedCas env amb entries []

/-! ## Signatures -/

/-- The signature over a list of properties, with the octets that were signed. -/
def createPqSignature (key : EvpPkey) (properties : List BinaryProperty) :
    Except SecurityException (Octets × Octets) := do
  let signature ← need (env.digestSign key (env.serializeArray properties) amb.signSeed)
    (opensslFailure amb "ML-DSA operation failed: ")
  return (env.serializeArray properties, signature)

def validatePqSignature (key : EvpPkey) (properties : List BinaryProperty) (signature : Octets) :
    Except SecurityException Unit := do
  require (!signature.isEmpty) (message "Invalid ML-DSA operation parameters")
  require (env.digestVerify key (env.serializeArray properties) signature)
    (message "ML-DSA signature verification failed")

/-! ## KEM properties -/

def validateKemProperty (property : BinaryProperty) (expectedKind : AuthAlgoKind) (publicKey : Bool) :
    Except SecurityException Unit := do
  let expectedSize := if publicKey then getKemPublicKeySize expectedKind else getKemCiphertextSize expectedKind
  let description := if publicKey then "public key" else "ciphertext"
  require (!property.value.isEmpty) (.message (str "ML-KEM " ++ str description ++ str " is missing"))
  require (expectedSize ≠ 0 && property.value.length = expectedSize)
    (.message (str "Invalid " ++ str (getAuthenticationAlgo expectedKind) ++ str " " ++ str description ++
      str " size: " ++ decimal property.value.length ++ str " (expected " ++ decimal expectedSize ++ str ")"))

/-! ## What the successful calls establish -/

section Spec

variable {env amb}

theorem loadX509CertificateFromBio_ok {bio : Octets} {cert : X509}
    (h : loadX509CertificateFromBio env amb bio = .ok cert) :
    env.pemReadX509 bio = some cert ∧ getAuthenticationAlgoKind cert ≠ .unknown := by
  simp only [loadX509CertificateFromBio, bind_ok, need_ok, require_ok, pure_ok, decide_eq_true_eq] at h
  obtain ⟨c, hc, -, hk, rfl⟩ := h
  exact ⟨hc, hk⟩

theorem validateKemProperty_ok {property : BinaryProperty} {kind : AuthAlgoKind} {publicKey : Bool} {u : Unit}
    (h : validateKemProperty property kind publicKey = .ok u) :
    property.value.length = (if publicKey then getKemPublicKeySize kind else getKemCiphertextSize kind) ∧
      property.value.length ≠ 0 := by
  simp only [validateKemProperty, bind_ok, require_ok, Bool.and_eq_true, decide_eq_true_eq] at h
  obtain ⟨-, -, hne, hlen⟩ := h
  exact ⟨hlen, by rw [hlen]; exact hne⟩

theorem validatePqSignature_ok {key : EvpPkey} {properties : List BinaryProperty} {signature : Octets} {u : Unit}
    (h : validatePqSignature env key properties signature = .ok u) :
    env.digestVerify key (env.serializeArray properties) signature = true := by
  simp only [validatePqSignature, bind_ok, require_ok] at h
  obtain ⟨-, -, h⟩ := h
  exact h

theorem createPqSignature_ok {key : EvpPkey} {properties : List BinaryProperty} {data signature : Octets}
    (h : createPqSignature env amb key properties = .ok (data, signature)) :
    data = env.serializeArray properties ∧ env.digestSign key data amb.signSeed = some signature := by
  simp only [createPqSignature, bind_ok, need_ok, pure_ok, Prod.mk.injEq] at h
  obtain ⟨sig, hsig, rfl, rfl⟩ := h
  exact ⟨rfl, hsig⟩

end Spec

end PqsecDds.CycloneDDS
