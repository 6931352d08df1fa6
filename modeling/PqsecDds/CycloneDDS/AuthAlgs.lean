import PqsecDds.CycloneDDS.OpenSSL

/-!
# Algorithm tables (`auth_algs.c`)

| here | there |
|---|---|
| `AuthAlgoKind` | `AuthenticationAlgoKind_t` |
| `kemAlgorithms`, `signatureAlgorithms` | auth_algs.c:17-37 |
| `octetsEqualString`, `findWireKind` | auth_algs.c:63-83 |
| `getAuthenticationAlgoKind` | auth_algs.c:85-109 |
| `kemKeySizes`, `getKemPublicKeySize`, `getKemCiphertextSize` | auth_algs.c:158-186 |

The terminating row of a table is the end of its list.
-/

namespace PqsecDds.CycloneDDS

inductive AuthAlgoKind where
  | unknown
  | rsa2048
  | ecPrime256v1
  | mlKem512
  | mlKem768
  | mlKem1024
  | mlDsa44
  | mlDsa65
  | mlDsa87
  | x25519MlKem768
  | p256MlKem768
  | frodo640Shake
  | bikeL1
  | hqc128
  deriving DecidableEq

structure AlgorithmInfo where
  configurationName : String
  kind : AuthAlgoKind
  opensslName : String
  wireName : String

def kemAlgorithms : List AlgorithmInfo :=
  [⟨"ecdh_p256", .ecPrime256v1, "EC", "ECDH+prime256v1-CEUM"⟩,
   ⟨"dh_2048", .rsa2048, "DH", "DH+MODP-2048-256"⟩,
   ⟨"mlkem512", .mlKem512, "ML-KEM-512", "ML-KEM-512"⟩,
   ⟨"mlkem768", .mlKem768, "ML-KEM-768", "ML-KEM-768"⟩,
   ⟨"mlkem1024", .mlKem1024, "ML-KEM-1024", "ML-KEM-1024"⟩,
   ⟨"x25519_mlkem768", .x25519MlKem768, "X25519MLKEM768", "X25519MLKEM768"⟩,
   ⟨"p256_mlkem768", .p256MlKem768, "SecP256r1MLKEM768", "SecP256r1MLKEM768"⟩,
   ⟨"frodo640shake", .frodo640Shake, "frodo640shake", "FrodoKEM-640-SHAKE"⟩,
   ⟨"bikel1", .bikeL1, "bikel1", "BIKE-L1"⟩,
   ⟨"hqc128", .hqc128, "hqc128", "HQC-128"⟩]

def signatureAlgorithms : List AlgorithmInfo :=
  [⟨"rsa2048", .rsa2048, "RSA", "RSASSA-PSS-SHA256"⟩,
   ⟨"ecdsa_p256", .ecPrime256v1, "EC", "ECDSA-SHA256"⟩,
   ⟨"mldsa44", .mlDsa44, "ML-DSA-44", "ML-DSA-44"⟩,
   ⟨"mldsa65", .mlDsa65, "ML-DSA-65", "ML-DSA-65"⟩,
   ⟨"mldsa87", .mlDsa87, "ML-DSA-87", "ML-DSA-87"⟩]

def findByKind (table : List AlgorithmInfo) (kind : AuthAlgoKind) : Option AlgorithmInfo :=
  table.find? (·.kind = kind)

/-- With or without a terminating NUL. -/
def octetsEqualString (octets : Octets) (text : CStr) : Bool :=
  (octets.length = text.length || (octets.length = text.length + 1 && octets[text.length]? = some 0)) &&
    octets.take text.length = text

def findWireKind (table : List AlgorithmInfo) (name : Octets) : AuthAlgoKind :=
  match table.find? fun info => octetsEqualString name (str info.wireName) with
  | some info => info.kind
  | none => .unknown

/-- The chain of tests on the key of a certificate. -/
def keyAlgoKind (key : EvpPkey) : AuthAlgoKind :=
  if key.isA "ML-DSA-44" || key.isA "MLDSA44" then .mlDsa44
  else if key.isA "ML-DSA-65" || key.isA "MLDSA65" then .mlDsa65
  else if key.isA "ML-DSA-87" || key.isA "MLDSA87" then .mlDsa87
  else if key.isA "RSA" && key.bits = 2048 then .rsa2048
  else if key.isA "EC" && key.bits = 256 then .ecPrime256v1
  else .unknown

def getAuthenticationAlgoKind (certificate : X509) : AuthAlgoKind :=
  match certificate.pubkey with
  | none => .unknown
  | some key => keyAlgoKind key

def getAuthenticationAlgo (kind : AuthAlgoKind) : String :=
  match (findByKind signatureAlgorithms kind).or (findByKind kemAlgorithms kind) with
  | some info => info.configurationName
  | none => "unknown"

def getDsignAlgo (kind : AuthAlgoKind) : String := ((findByKind signatureAlgorithms kind).map (·.wireName)).getD ""

def getKagreeAlgo (kind : AuthAlgoKind) : String := ((findByKind kemAlgorithms kind).map (·.wireName)).getD ""

def getDsignAlgoFromOctseq (name : Octets) : AuthAlgoKind := findWireKind signatureAlgorithms name

def getKagreeAlgoFromOctseq (name : Octets) : AuthAlgoKind := findWireKind kemAlgorithms name

def getKemOpensslNameByKind (kind : AuthAlgoKind) : Option String := (findByKind kemAlgorithms kind).map (·.opensslName)

/-- `KemKeySizes`; the secret key size is read by no operation. -/
structure KemKeySizes where
  kind : AuthAlgoKind
  publicKeySize : Nat
  ciphertextSize : Nat

def kemKeySizes : List KemKeySizes :=
  [⟨.ecPrime256v1, 65, 65⟩,
   ⟨.rsa2048, 256, 256⟩,
   ⟨.mlKem512, 800, 768⟩,
   ⟨.mlKem768, 1184, 1088⟩,
   ⟨.mlKem1024, 1568, 1568⟩,
   ⟨.x25519MlKem768, 1216, 1120⟩,
   ⟨.p256MlKem768, 1249, 1153⟩,
   ⟨.frodo640Shake, 9616, 9720⟩,
   ⟨.bikeL1, 1541, 1573⟩,
   ⟨.hqc128, 2249, 4481⟩]

def findSizes (kind : AuthAlgoKind) : Option KemKeySizes := kemKeySizes.find? (·.kind = kind)

def getKemPublicKeySize (kind : AuthAlgoKind) : Nat := ((findSizes kind).map (·.publicKeySize)).getD 0

def getKemCiphertextSize (kind : AuthAlgoKind) : Nat := ((findSizes kind).map (·.ciphertextSize)).getD 0

/-! ## What the tables say -/

/-- The size of a public key tells the KEM. -/
theorem getKemPublicKeySize_inj {k k' : AuthAlgoKind} (h : getKemPublicKeySize k = getKemPublicKeySize k')
    (hpos : getKemPublicKeySize k ≠ 0) : k = k' := by
  revert h hpos
  cases k <;> cases k' <;> decide

/-- The wire names of the KEMs are read back as the kinds they stand for. -/
theorem getKagreeAlgoFromOctseq_get {kind : AuthAlgoKind} (h : findByKind kemAlgorithms kind ≠ none) :
    getKagreeAlgoFromOctseq (str (getKagreeAlgo kind) ++ [0]) = kind := by
  revert h
  cases kind <;> decide

theorem getDsignAlgoFromOctseq_get {kind : AuthAlgoKind} (h : findByKind signatureAlgorithms kind ≠ none) :
    getDsignAlgoFromOctseq (str (getDsignAlgo kind) ++ [0]) = kind := by
  revert h
  cases kind <;> decide

/-- A certificate key has one of the five kinds of the signature table, or none. -/
theorem keyAlgoKind_mem (key : EvpPkey) :
    keyAlgoKind key = .unknown ∨ keyAlgoKind key ∈ signatureAlgorithms.map (·.kind) := by
  unfold keyAlgoKind
  split_ifs <;> simp [signatureAlgorithms]

end PqsecDds.CycloneDDS
