import PqsecDds.Lib.Crypto
import PqsecDds.OpenDDS.Transcript

/-!
# The outside of the OpenDDS adapter, and its KEM wrapper (`Crypto.cpp`)

`Env` holds what the adapter calls and does not define: OpenSSL, and the certificate, credential and
serialization helpers of OpenDDS. `Ambient` holds what a single call reads from its surroundings: the
clock, the random generator, OpenSSL's error queue and an environment variable.

| here | there |
|---|---|
| `Env.serialize`, `hashSerialized`, `signSerialized`, `verifySerialized` | `SSL::hash_serialized`, `SSL::sign_serialized`, `SSL::verify_serialized` |
| `Certificate` | what the adapter reads of `SSL::Certificate` |
| `Credentials` | what the adapter reads of `LocalAuthCredentialData` |
| `ProviderFallback`, `ensureAlgorithm` | Crypto.cpp:22-42 |
| `Kem` and its operations | Crypto.cpp:66-197 |

The four type parameters are octets `α`, EVP keys of a KEM `κ`, signature key pairs `π` (a private key
and its public key are the same element) and random draws `ρ`.
-/

namespace PqsecDds.OpenDDS

/-- `OpenDDS::DCPS::GUID_t`: twelve octets of prefix and four of entity id. -/
structure Guid where
  bytes : List UInt8
  size : bytes.length = 16
  deriving DecidableEq

/-- A member of `RTPS::ParameterList`; only `PID_PARTICIPANT_GUID` is looked at. -/
inductive Parameter where
  | participantGuid (guid : Guid)
  | other
  deriving DecidableEq

structure Certificate (α π : Type) where
  originalBytes : OctetSeq α
  subjectName : Str α
  subjectNameDigest : Option (List UInt8)
  keypairAlgo : Str α
  dsignAlgo : Str α
  publicKey : π
  deriving DecidableEq

structure Credentials (α π : Type) where
  participantCert : Certificate α π
  participantPrivateKey : π
  caCert : Certificate α π
  accessPermissions : OctetSeq α
  deriving DecidableEq

/-- Certificates, credentials, participant data and the providers of OpenSSL. -/
structure Platform (α π : Type) where
  deserializeCertificate : OctetSeq α → Option (Certificate α π)
  /-- `Certificate::validate` at a time: the first certificate against the CA certificate. -/
  validateCertificate : Nat → Certificate α π → Certificate α π → Bool
  makeAdjustedGuid : Guid → Certificate α π → Option Guid
  loadCredentials : List (Property α) → Option (Credentials α π)
  validateCredentials : Nat → Credentials α π → Bool
  loadAccessPermissions : Token α → Except (Str α) (OctetSeq α)
  deserializeParameterList : OctetSeq α → Option (List Parameter)
  /-- The providers OpenSSL has loaded before the adapter loads any. -/
  initialProviders : List (Str α)
  loadable : Str α → Bool
  /-- `exposes provider algorithm` -/
  exposes : Str α → Str α → Bool

structure Env (α κ π ρ : Type) extends Platform α π where
  serialize : BinaryPropertySeq α → Option (OctetSeq α)
  sha256 : OctetSeq α → Option (OctetSeq α)
  sign : π → OctetSeq α → ρ → Option (OctetSeq α)
  /-- `verify key data signature` -/
  verify : π → OctetSeq α → OctetSeq α → Bool
  makeNonce256 : ρ → Option (OctetSeq α)
  generate : Str α → ρ → Option κ
  /-- `EVP_PKEY_get1_encoded_public_key`, empty when it fails. -/
  encodedPublicKey : κ → OctetSeq α
  rawPublicKeySize : κ → Option Nat
  rawPublicKey : κ → Option (OctetSeq α)
  fromData : Str α → OctetSeq α → Option κ
  newRawPublicKey : Str α → OctetSeq α → Option κ
  /-- The sizes of ciphertext and secret. -/
  encapsulateSizes : κ → Option (Nat × Nat)
  encapsulate : κ → ρ → Option (OctetSeq α × OctetSeq α)
  decapsulateSize : κ → OctetSeq α → Option Nat
  decapsulate : κ → OctetSeq α → Option (OctetSeq α)

structure Ambient (α ρ : Type) where
  now : Nat
  nonceSeed : ρ
  keySeed : ρ
  encapSeed : ρ
  signSeed : ρ
  errorQueue : List (Str α) := []
  /-- `getenv("PQSEC_OPENSSL_PROVIDER")` -/
  environmentProvider : Option (Str α) := none

variable {α κ π ρ : Type}

/-! ## Serialized hashes and signatures -/

def hashSerialized (env : Env α κ π ρ) (properties : BinaryPropertySeq α) : Option (OctetSeq α) :=
  (env.serialize properties).bind env.sha256

/-- The signature, with the data that was signed. -/
def signSerialized (env : Env α κ π ρ) (amb : Ambient α ρ) (properties : BinaryPropertySeq α) (key : π) :
    Option (OctetSeq α × OctetSeq α) :=
  (env.serialize properties).bind fun data => (env.sign key data amb.signSeed).map (data, ·)

def verifySerialized (env : Env α κ π ρ) (properties : BinaryPropertySeq α) (cert : Certificate α π)
    (signature : OctetSeq α) : Bool :=
  match env.serialize properties with
  | some data => env.verify cert.publicKey data signature
  | none => false

theorem signSerialized_eq_some {env : Env α κ π ρ} {amb : Ambient α ρ} {properties : BinaryPropertySeq α} {key : π}
    {data sig : OctetSeq α} :
    signSerialized env amb properties key = some (data, sig) ↔
      env.serialize properties = some data ∧ env.sign key data amb.signSeed = some sig := by
  simp only [signSerialized, Option.bind_eq_some_iff, Option.map_eq_some_iff, Prod.mk.injEq]
  constructor
  · rintro ⟨d, hd, s, hs, rfl, rfl⟩
    exact ⟨hd, hs⟩
  · rintro ⟨hd, hs⟩
    exact ⟨data, hd, sig, hs, rfl, rfl⟩

theorem verifySerialized_eq_true {env : Env α κ π ρ} {properties : BinaryPropertySeq α}
    {cert : Certificate α π} {sig : OctetSeq α} (h : verifySerialized env properties cert sig = true) :
    ∃ data, env.serialize properties = some data ∧ env.verify cert.publicKey data sig = true := by
  simp only [verifySerialized] at h
  split at h
  · exact ⟨_, ‹_›, h⟩
  · cases h

variable [Octet α]

def credentialHash (env : Env α κ π ρ) (certificate permissions participantData : OctetSeq α)
    (signatureAlgorithm kemAlgorithm : Str α) : Option (OctetSeq α) :=
  hashSerialized env
    (credentialProperties certificate permissions participantData signatureAlgorithm kemAlgorithm)

/-! ## Provider fallback -/

/-- The fallback and the providers of the OpenSSL library context it works on. -/
structure ProviderFallback (α : Type) where
  loaded : List (Str α)
  provider : Option (Str α) := none
  deriving DecidableEq

/-- `openssl_errors` (Crypto.cpp:44-54). -/
def opensslErrors (amb : Ambient α ρ) (start : Str α) : Str α :=
  amb.errorQueue.foldl (fun out text => out ++ str ": " ++ text) start

/-- `openssl_supports` (Crypto.cpp:56-64). -/
def opensslSupports (env : Env α κ π ρ) (loaded : List (Str α)) (algorithm : Str α) : Bool :=
  loaded.any (env.exposes · algorithm)

/-- `ProviderFallback::ensure_algorithm` (Crypto.cpp:22-42). -/
def ProviderFallback.ensureAlgorithm (env : Env α κ π ρ) (amb : Ambient α ρ) (s : ProviderFallback α)
    (algorithm provider : Str α) : Except (Str α) Unit × ProviderFallback α :=
  if opensslSupports env s.loaded algorithm then (.ok (), s)
  else if provider = [] then
    (.error (str "OpenSSL does not expose " ++ algorithm ++ str " and no fallback provider is configured"), s)
  else
    let s := if s.provider.isNone && env.loadable provider then
      { loaded := s.loaded ++ [provider], provider := some provider } else s
    if s.provider.isNone then
      (.error (opensslErrors amb (str "Failed to load OpenSSL provider " ++ provider)), s)
    else if !opensslSupports env s.loaded algorithm then
      (.error (str "OpenSSL provider " ++ provider ++ str " does not expose " ++ algorithm), s)
    else (.ok (), s)

/-! ## `Kem` -/

structure Kem (α κ : Type) where
  algorithm : Str α
  key : Option κ := none
  deriving DecidableEq

namespace Kem

/-- Crypto.cpp:68-84. -/
def generate (env : Env α κ π ρ) (amb : Ambient α ρ) (loaded : List (Str α)) (k : Kem α κ) :
    Except (Str α) (Kem α κ) :=
  if !opensslSupports env loaded k.algorithm then
    .error (opensslErrors amb (str "EVP_PKEY_CTX_new_from_name(" ++ k.algorithm ++ str ")"))
  else match env.generate k.algorithm amb.keySeed with
    | none => .error (opensslErrors amb (str "ML-KEM key generation failed"))
    | some generated => .ok { k with key := some generated }

/-- Crypto.cpp:86-114: a raw import is the second attempt. -/
def importPublic (env : Env α κ π ρ) (amb : Ambient α ρ) (loaded : List (Str α)) (k : Kem α κ)
    (publicKey : OctetSeq α) : Except (Str α) (Kem α κ) :=
  if publicKey = [] then .error (str "ML-KEM public key is empty")
  else
    let fromData := if opensslSupports env loaded k.algorithm then env.fromData k.algorithm publicKey else none
    match fromData.or (env.newRawPublicKey k.algorithm publicKey) with
    | none => .error (opensslErrors amb (str "ML-KEM public-key import failed"))
    | some imported => .ok { k with key := some imported }

/-- The public key `Kem::public_key` exports: the encoded form, else the raw form. -/
def exportPublic (env : Env α κ π ρ) (key : κ) : Option (OctetSeq α) :=
  if env.encodedPublicKey key ≠ [] then some (env.encodedPublicKey key) else env.rawPublicKey key

/-- Crypto.cpp:116-141. -/
def publicKey (env : Env α κ π ρ) (amb : Ambient α ρ) (k : Kem α κ) : Except (Str α) (OctetSeq α) :=
  match k.key with
  | none => .error (str "ML-KEM key has not been initialized")
  | some key =>
    if env.encodedPublicKey key = [] && (env.rawPublicKeySize key).getD 0 = 0 then
      .error (opensslErrors amb (str "ML-KEM public-key size query failed"))
    else match exportPublic env key with
      | none => .error (opensslErrors amb (str "ML-KEM public-key export failed"))
      | some result => .ok result

/-- Crypto.cpp:143-170: ciphertext and secret. -/
def encapsulate (env : Env α κ π ρ) (amb : Ambient α ρ) (k : Kem α κ) :
    Except (Str α) (OctetSeq α × OctetSeq α) :=
  match k.key with
  | none => .error (str "ML-KEM public key has not been initialized")
  | some key =>
    let (ciphertextSize, secretSize) := (env.encapsulateSizes key).getD (0, 0)
    if ciphertextSize = 0 || secretSize = 0 then
      .error (opensslErrors amb (str "ML-KEM encapsulation size query failed"))
    else match env.encapsulate key amb.encapSeed with
      | none => .error (opensslErrors amb (str "ML-KEM encapsulation failed"))
      | some (ciphertext, secret) => .ok (ciphertext, secret)

/-- Crypto.cpp:172-197. -/
def decapsulate (env : Env α κ π ρ) (amb : Ambient α ρ) (k : Kem α κ) (ciphertext : OctetSeq α) :
    Except (Str α) (OctetSeq α) :=
  match k.key with
  | none => .error (str "ML-KEM private key or ciphertext is missing")
  | some key =>
    if ciphertext = [] then .error (str "ML-KEM private key or ciphertext is missing")
    else if (env.decapsulateSize key ciphertext).getD 0 = 0 then
      .error (opensslErrors amb (str "ML-KEM decapsulation size query failed"))
    else match env.decapsulate key ciphertext with
      | none => .error (opensslErrors amb (str "ML-KEM decapsulation failed"))
      | some secret => .ok secret

def clear (k : Kem α κ) : Kem α κ := { k with key := none }

end Kem

/-- The KEM of an algorithm name, as the operations of `Kem` use it. -/
def Env.kem (env : Env α κ π ρ) (algorithm : Str α) : Lib.KEM κ ρ (OctetSeq α) where
  generate := env.generate algorithm
  publicKey := Kem.exportPublic env
  imports pk key := env.fromData algorithm pk = some key ∨ env.newRawPublicKey algorithm pk = some key
  encapsulate := env.encapsulate
  decapsulate := env.decapsulate

/-! ## What the successful calls establish -/

section Spec

variable {env : Env α κ π ρ} {amb : Ambient α ρ} {loaded : List (Str α)} {k k' : Kem α κ}

theorem Kem.generate_ok (h : k.generate env amb loaded = .ok k') :
    ∃ key, env.generate k.algorithm amb.keySeed = some key ∧ k' = { k with key := some key } := by
  simp only [Kem.generate] at h
  split at h
  · cases h
  · split at h
    · cases h
    · rename_i key hkey
      exact ⟨key, hkey, (Except.ok.inj h).symm⟩

theorem Kem.importPublic_ok {pk : OctetSeq α} (h : k.importPublic env amb loaded pk = .ok k') :
    pk ≠ [] ∧ ∃ key, (env.kem k.algorithm).imports pk key ∧ k' = { k with key := some key } := by
  simp only [Kem.importPublic] at h
  split at h
  · cases h
  · rename_i hne
    split at h
    · cases h
    · rename_i key hkey
      refine ⟨hne, key, ?_, (Except.ok.inj h).symm⟩
      rcases Option.or_eq_some_iff.1 hkey with hd | ⟨-, hr⟩
      · split at hd
        · exact .inl hd
        · cases hd
      · exact .inr hr

theorem Kem.publicKey_ok {pk : OctetSeq α} (h : k.publicKey env amb = .ok pk) :
    ∃ key, k.key = some key ∧ Kem.exportPublic env key = some pk := by
  simp only [Kem.publicKey] at h
  split at h
  · cases h
  · rename_i key hkey
    split at h
    · cases h
    · split at h
      · cases h
      · rename_i result hres
        obtain rfl := Except.ok.inj h
        exact ⟨key, hkey, hres⟩

theorem Kem.encapsulate_ok {ct ss : OctetSeq α} (h : k.encapsulate env amb = .ok (ct, ss)) :
    ∃ key, k.key = some key ∧ env.encapsulate key amb.encapSeed = some (ct, ss) := by
  simp only [Kem.encapsulate] at h
  split at h
  · cases h
  · rename_i key hkey
    split at h
    · cases h
    · split at h
      · cases h
      · rename_i ct' ss' henc
        obtain ⟨rfl, rfl⟩ := Prod.mk.inj (Except.ok.inj h)
        exact ⟨key, hkey, henc⟩

theorem Kem.decapsulate_ok {ct ss : OctetSeq α} (h : k.decapsulate env amb ct = .ok ss) :
    ∃ key, k.key = some key ∧ env.decapsulate key ct = some ss := by
  simp only [Kem.decapsulate] at h
  split at h
  · cases h
  · rename_i key hkey
    split at h
    · cases h
    · split at h
      · cases h
      · split at h
        · cases h
        · rename_i secret hdec
          obtain rfl := Except.ok.inj h
          exact ⟨key, hkey, hdec⟩

end Spec

end PqsecDds.OpenDDS
