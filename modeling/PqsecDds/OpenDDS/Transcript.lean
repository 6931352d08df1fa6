import Mathlib.Data.List.Basic

/-!
# Octets, tokens and transcripts of the OpenDDS adapter (`Transcript.cpp`)

The adapter is written over an arbitrary octet type `α`: the running program is the instance
`α = UInt8`, and an analysis may put symbolic octets in its place. No function of the adapter looks
into an octet except to compare it with another one or with a literal.

| here | there |
|---|---|
| `OctetSeq` | `DDS::OctetSeq`, `std::vector<unsigned char>` |
| `Str` | `std::string` and C strings, without the final NUL |
| `Token`, `BinaryProperty` | `DDS::Security::Token`, `DDS::BinaryProperty_t` |
| `getBinPropertyValue`, `isNil` | `OpenDDS::Security::TokenReader` |
| `writer`, `addProperty`, `addBinProperty` | `OpenDDS::Security::TokenWriter` |
| `append`, `appendDomain` | `append`, `append_domain` (Transcript.cpp:21-24, 43-57) |
| `credentialProperties` | the properties `credential_hash` hashes (Transcript.cpp:59-70) |
| `replyTranscript`, `finalTranscript` | Transcript.cpp:72-102 |

`propagate` is left out: every property the adapter builds has it set and none is read.
-/

namespace PqsecDds.OpenDDS

/-- An octet type contains the 256 octets. -/
class Octet (α : Type) where
  byte : UInt8 → α
  byte_injective : Function.Injective byte

instance : Octet UInt8 := ⟨id, fun _ _ h => h⟩

abbrev OctetSeq (α : Type) := List α

abbrev Str (α : Type) := List α

/-- The octets of a character string literal. -/
def latin1 (s : String) : List UInt8 := s.toList.map fun c => c.toNat.toUInt8

variable {α : Type} [Octet α]

def str (s : String) : Str α := (latin1 s).map Octet.byte

theorem str_inj {s t : String} : (str s : Str α) = str t ↔ latin1 s = latin1 t :=
  (List.map_injective_iff.2 Octet.byte_injective).eq_iff

/-- `std::string::c_str` with its terminator, as a property value (Transcript.cpp:52-57). -/
def cStr (s : Str α) : OctetSeq α := s ++ [Octet.byte 0]

theorem cStr_inj {s t : Str α} : cStr s = cStr t ↔ s = t :=
  List.append_left_inj _

/-- `string_value` (Authentication.cpp:50-54): empty unless the last octet is NUL, else the octets
before the first NUL. -/
def stringValue [DecidableEq α] (value : OctetSeq α) : Str α :=
  if value.getLast? = some (Octet.byte 0) then value.takeWhile (· ≠ Octet.byte 0) else []

/-! ## Tokens -/

structure Property (α : Type) where
  name : Str α
  value : Str α
  deriving DecidableEq

structure BinaryProperty (α : Type) where
  name : Str α
  value : OctetSeq α
  deriving DecidableEq

structure Token (α : Type) where
  classId : Str α := []
  properties : List (Property α) := []
  binaryProperties : List (BinaryProperty α) := []
  deriving DecidableEq

namespace Token

/-- `TokenReader::get_bin_property_value`: the first property of that name, else an empty value. -/
def getBinPropertyValue [DecidableEq α] (t : Token α) (name : String) : OctetSeq α :=
  ((t.binaryProperties.find? (·.name = str name)).map (·.value)).getD []

def isNil (t : Token α) : Bool :=
  t.classId.isEmpty && t.properties.isEmpty && t.binaryProperties.isEmpty

/-- The `TokenWriter` constructor sets the class id and keeps the properties. -/
def writer (t : Token α) (classId : String) : Token α := { t with classId := str classId }

def addProperty (t : Token α) (name : String) (value : Str α) : Token α :=
  { t with properties := t.properties ++ [⟨str name, value⟩] }

def addBinProperty (t : Token α) (name : String) (value : OctetSeq α) : Token α :=
  { t with binaryProperties := t.binaryProperties ++ [⟨str name, value⟩] }

/-- `class_is` (Authentication.cpp:46-48). -/
def classIs [DecidableEq α] (t : Token α) (expected : String) : Bool := t.classId = str expected

end Token

/-! ## Property sequences that are hashed or signed -/

abbrev BinaryPropertySeq (α : Type) := List (BinaryProperty α)

def append (properties : BinaryPropertySeq α) (name : String) (value : OctetSeq α) : BinaryPropertySeq α :=
  properties ++ [⟨str name, value⟩]

def appendDomain (properties : BinaryPropertySeq α) (role : String) : BinaryPropertySeq α :=
  let properties := append properties "pqsec-dds.protocol" (cStr (str "pqsec-dds.auth:1.0"))
  append properties "pqsec-dds.role" (cStr (str role))

/-- What `credential_hash` hashes. -/
def credentialProperties (certificate permissions participantData : OctetSeq α)
    (signatureAlgorithm kemAlgorithm : Str α) : BinaryPropertySeq α :=
  let properties := appendDomain [] "credential-hash"
  let properties := append properties "c.id" certificate
  let properties := append properties "c.perm" permissions
  let properties := append properties "c.pdata" participantData
  let properties := append properties "c.dsign_algo" (cStr signatureAlgorithm)
  append properties "c.kagree_algo" (cStr kemAlgorithm)

def replyTranscript (hash2 challenge2 ciphertext challenge1 publicKey hash1 : OctetSeq α) :
    BinaryPropertySeq α :=
  let result := appendDomain [] "reply"
  let result := append result "hash_c2" hash2
  let result := append result "challenge2" challenge2
  let result := append result "pqsec-dds.kem_ciphertext" ciphertext
  let result := append result "challenge1" challenge1
  let result := append result "pqsec-dds.kem_public" publicKey
  append result "hash_c1" hash1

def finalTranscript (hash1 challenge1 publicKey challenge2 ciphertext hash2 : OctetSeq α) :
    BinaryPropertySeq α :=
  let result := appendDomain [] "final"
  let result := append result "hash_c1" hash1
  let result := append result "challenge1" challenge1
  let result := append result "pqsec-dds.kem_public" publicKey
  let result := append result "challenge2" challenge2
  let result := append result "pqsec-dds.kem_ciphertext" ciphertext
  append result "hash_c2" hash2

theorem credentialProperties_inj {c p d c' p' d' : OctetSeq α} {s k s' k' : Str α} :
    credentialProperties c p d s k = credentialProperties c' p' d' s' k' ↔
      c = c' ∧ p = p' ∧ d = d' ∧ s = s' ∧ k = k' := by
  simp [credentialProperties, appendDomain, append, cStr_inj]

theorem replyTranscript_inj {h2 c2 ct c1 pk h1 h2' c2' ct' c1' pk' h1' : OctetSeq α} :
    replyTranscript h2 c2 ct c1 pk h1 = replyTranscript h2' c2' ct' c1' pk' h1' ↔
      h2 = h2' ∧ c2 = c2' ∧ ct = ct' ∧ c1 = c1' ∧ pk = pk' ∧ h1 = h1' := by
  simp [replyTranscript, appendDomain, append]

theorem finalTranscript_inj {h1 c1 pk c2 ct h2 h1' c1' pk' c2' ct' h2' : OctetSeq α} :
    finalTranscript h1 c1 pk c2 ct h2 = finalTranscript h1' c1' pk' c2' ct' h2' ↔
      h1 = h1' ∧ c1 = c1' ∧ pk = pk' ∧ c2 = c2' ∧ ct = ct' ∧ h2 = h2' := by
  simp [finalTranscript, appendDomain, append]

/-- The role property keeps the two signed transcripts apart. -/
theorem replyTranscript_ne_finalTranscript (h2 c2 ct c1 pk h1 h1' c1' pk' c2' ct' h2' : OctetSeq α) :
    replyTranscript h2 c2 ct c1 pk h1 ≠ finalTranscript h1' c1' pk' c2' ct' h2' := by
  have hrole : (str "reply" : Str α) ≠ str "final" := fun h => absurd (str_inj.1 h) (by decide)
  simp [replyTranscript, finalTranscript, appendDomain, append, cStr_inj, hrole]

end PqsecDds.OpenDDS
