import PqsecDds.CycloneDDS.Tokens
import PqsecDds.Lib.Crypto

/-!
# The outside of the CycloneDDS adapter

`Env` holds what the adapter calls and does not define: OpenSSL, the file system, and the serializer and
token helpers of Cyclone DDS. `Ambient` holds what a single call reads from its surroundings: the clocks, the
random generator, the addresses the allocator hands out and OpenSSL's error queue.

Certificates and keys are records of what the adapter reads of them. A private key and its public half are
the same element. The type parameters are EVP keys of a KEM `κ` and random draws `ρ`.
-/

namespace PqsecDds.CycloneDDS

/-! ## Certificates and keys -/

/-- `EVP_PKEY_id` -/
inductive EvpPkeyId where
  | rsa
  | ec
  | other
  deriving DecidableEq

structure EvpPkey where
  /-- the names `EVP_PKEY_is_a` accepts -/
  names : List CStr
  id : EvpPkeyId
  bits : Nat
  canSign : Bool
  /-- the key pair itself -/
  pair : Nat
  deriving DecidableEq

def EvpPkey.isA (key : EvpPkey) (name : String) : Bool := str name ∈ key.names

/-- A subject name: its DER encoding, empty when `i2d_X509_NAME` fails, and its one-line form. -/
structure X509Name where
  der : Octets
  oneline : CStr
  deriving DecidableEq

structure X509 where
  /-- the certificate itself -/
  encoding : Octets
  /-- `X509_get_pubkey` -/
  pubkey : Option EvpPkey
  /-- `X509_get_subject_name` -/
  subject : Option X509Name
  /-- Seconds since the epoch; `none` when the field cannot be read. -/
  notBefore : Option Int
  notAfter : Option Int
  deriving DecidableEq

structure X509Crl where
  encoding : Octets
  deriving DecidableEq

structure DirEntry where
  name : CStr
  /-- `ddsrt_stat` succeeds -/
  stat : Bool
  /-- `ddsrt_file_normalize` of the entry's path -/
  normalized : Option CStr
  deriving DecidableEq

/-! ## The environment -/

structure Env (κ ρ : Type) where
  pemReadX509 : Octets → Option X509
  pemWriteX509 : X509 → Option Octets
  pemReadCrl : Octets → Option X509Crl
  /-- a private key, with its password -/
  pemReadPrivateKey : Octets → CStr → Option EvpPkey
  /-- `X509_digest` with SHA-1 -/
  x509Sha1 : X509 → Option Octets
  /-- `X509_verify_cert` at a time, of a certificate against a CA and a CRL: the error string, if any -/
  x509VerifyCert : Int → X509 → X509 → Option X509Crl → Option CStr
  publicCheck : EvpPkey → Bool
  privateCheck : EvpPkey → Bool
  rsaCheckKey : EvpPkey → Bool
  ecCheckKey : EvpPkey → Bool
  readFile : CStr → Option Octets
  readDirectory : CStr → Option (List DirEntry)
  /-- `DDS_Security_Serialize_BinaryPropertySeq` -/
  serializeSeq : List BinaryProperty → Octets
  /-- `DDS_Security_Serialize_BinaryPropertyArray` -/
  serializeArray : List BinaryProperty → Octets
  /-- The participant key of serialized participant data, big-endian. -/
  participantKey : Octets → Option (Bytes 12)
  dataHolderEqual : Token → Token → Bool
  sha256 : Octets → HashValue
  /-- `EVP_DigestSign` with the key's default digest -/
  digestSign : EvpPkey → Octets → ρ → Option Octets
  /-- `digestVerify key data signature` -/
  digestVerify : EvpPkey → Octets → Octets → Bool
  /-- `EVP_PKEY_CTX_new_from_name` -/
  contextNew : CStr → Bool
  generate : CStr → ρ → Option κ
  /-- `EVP_PKEY_get1_encoded_public_key`, empty when it fails -/
  encodedPublicKey : κ → Octets
  rawPublicKeySize : κ → Option Nat
  rawPublicKey : κ → Option Octets
  fromData : CStr → Octets → Option κ
  newRawPublicKey : CStr → Octets → Option κ
  /-- the sizes of ciphertext and secret -/
  encapsulateSizes : κ → Option (Nat × Nat)
  encapsulate : κ → ρ → Option (Octets × Octets)
  decapsulateSize : κ → Octets → Option Nat
  decapsulate : κ → Octets → Option Octets

abbrev Handle := Nat

structure Ambient (ρ : Type) where
  /-- seconds since the epoch -/
  time : Int
  /-- `dds_time`, nanoseconds since the epoch -/
  ddsTime : Int
  /-- what `RAND_bytes` returns, and the buffer after the call -/
  randReturn : Int
  randBytes : Challenge
  keySeed : ρ
  encapSeed : ρ
  signSeed : ρ
  /-- the address of the object a call allocates, and of the identity relation -/
  object : Handle
  relation : Handle
  /-- the handle the dispatcher gives to a new trigger -/
  timer : Nat
  opensslError : CStr := []

/-! ## Clocks -/

/-- `X509_cmp_current_time` -/
def x509CmpCurrentTime {ρ : Type} (amb : Ambient ρ) : Option Int → Int
  | none => 0
  | some t => if t ≤ amb.time then -1 else 1

/-- `ASN1_TIME_diff` from now: days and seconds, both with the sign of the difference. -/
def asn1TimeDiff {ρ : Type} (amb : Ambient ρ) (t : Int) : Int × Int :=
  ((t - amb.time).tdiv 86400, (t - amb.time).tmod 86400)

end PqsecDds.CycloneDDS
