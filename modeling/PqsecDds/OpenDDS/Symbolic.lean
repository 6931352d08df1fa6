import PqsecDds.Lib.Deduction
import PqsecDds.Lib.Framing
import PqsecDds.OpenDDS.Crypto

/-!
# The symbolic environment

An octet is a plain octet or a piece of an opaque term. Digests, signatures, public keys, ciphertexts,
secrets and nonces are opaque terms, so two of them are equal only when they come from the same call;
serialization is a framing of names and values. Every idealisation the adapter's analysis assumes holds
here: `symbolic_kem_correct`, `symbolic_serialize_injective`, `symbolic_sha256_injective`,
`symbolic_verify`. Certificates, credentials, providers and participant data are those of a platform.
-/

namespace PqsecDds.OpenDDS

open Lib

/-- The opaque functions; the number is the random draw or the signature key pair. -/
inductive Fn where
  | nonce (r : Nat)
  | publicKey (r : Nat)
  | ciphertext (r : Nat)
  | secret (r : Nat)
  | rejected (r : Nat)
  | digest
  | signature (key : Nat)
  deriving DecidableEq

abbrev Sym := Letter UInt8 Fn

instance : Octet Sym := ⟨.base, fun _ _ h => Letter.base.inj h⟩

inductive KemKey where
  | generated (algorithm : Str Sym) (r : Nat)
  | imported (publicKey : OctetSeq Sym)
  deriving DecidableEq

def term (f : Fn) (args : List Sym) : OctetSeq Sym := [.cell f args 0]

theorem term_inj {f g : Fn} {xs ys : List Sym} : term f xs = term g ys ↔ f = g ∧ xs = ys := by
  simp [term]

def nonce (r : Nat) : OctetSeq Sym := (List.range 32).map (.cell (.nonce r) [])

namespace KemKey

/-- The public half a key exports. -/
def publicHalf : KemKey → OctetSeq Sym
  | .generated algorithm r => term (.publicKey r) algorithm
  | .imported publicKey => publicKey

/-- Only a ciphertext made for the public half decapsulates to its secret; any other one to a value of
its own, as with implicit rejection. -/
def decapsulate (key : KemKey) (ciphertext : OctetSeq Sym) : Option (OctetSeq Sym) :=
  match key with
  | .imported _ => none
  | .generated algorithm r =>
    match ciphertext with
    | [.cell (.ciphertext r') publicKey 0] =>
      if publicKey = term (.publicKey r) algorithm then some (term (.secret r') publicKey)
      else some (term (.rejected r) ciphertext)
    | _ => some (term (.rejected r) ciphertext)

end KemKey

def propertyFrames {α : Type} [Octet α] (properties : BinaryPropertySeq α) : OctetSeq α :=
  frames (Octet.byte 1) (Octet.byte 0) (properties.flatMap fun p => [p.name, p.value])

theorem propertyFrames_injective {α : Type} [Octet α] :
    Function.Injective (propertyFrames : BinaryPropertySeq α → OctetSeq α) := by
  intro ps qs h
  have hletters : (Octet.byte 1 : α) ≠ Octet.byte 0 := fun h => absurd (Octet.byte_injective h) (by decide)
  have h := frames_injective hletters h
  induction ps generalizing qs with
  | nil =>
    cases qs with
    | nil => rfl
    | cons q qs => simp at h
  | cons p ps ih =>
    cases qs with
    | nil => simp at h
    | cons q qs =>
      simp only [List.flatMap_cons, List.cons_append, List.nil_append, List.cons.injEq] at h
      obtain ⟨hname, hvalue, hrest⟩ := h
      have hpq : p = q := by
        cases p
        cases q
        simp_all
      rw [hpq, ih (by rw [propertyFrames, propertyFrames, hrest]) hrest]

/-- A platform with symbolic cryptography. -/
def symbolic (base : Platform Sym Nat) : Env Sym KemKey Nat Nat :=
  { base with
    serialize := fun properties => some (propertyFrames properties)
    sha256 := fun data => some (term .digest data)
    sign := fun key data _ => some (term (.signature key) data)
    verify := fun key data signature => signature = term (.signature key) data
    makeNonce256 := fun r => some (nonce r)
    generate := fun algorithm r => some (.generated algorithm r)
    encodedPublicKey := KemKey.publicHalf
    rawPublicKeySize := fun key => some key.publicHalf.length
    rawPublicKey := fun key => some key.publicHalf
    fromData := fun _ publicKey => some (.imported publicKey)
    newRawPublicKey := fun _ publicKey => some (.imported publicKey)
    encapsulateSizes := fun _ => some (1, 1)
    encapsulate := fun key r =>
      some (term (.ciphertext r) key.publicHalf, term (.secret r) key.publicHalf)
    decapsulateSize := fun _ _ => some 1
    decapsulate := KemKey.decapsulate }

variable (base : Platform Sym Nat)

theorem symbolic_serialize_injective {p q : BinaryPropertySeq Sym} {d : OctetSeq Sym}
    (hp : (symbolic base).serialize p = some d) (hq : (symbolic base).serialize q = some d) : p = q := by
  obtain rfl := Option.some.inj hp
  exact propertyFrames_injective (Option.some.inj hq).symm

theorem symbolic_sha256_injective {x y d : OctetSeq Sym} (hx : (symbolic base).sha256 x = some d)
    (hy : (symbolic base).sha256 y = some d) : x = y := by
  obtain rfl := Option.some.inj hx
  exact (term_inj.1 (Option.some.inj hy)).2.symm

/-- A signature is valid for the one key and the one text it was made for. -/
theorem symbolic_verify {key : Nat} {data sig : OctetSeq Sym} :
    (symbolic base).verify key data sig = true ↔ sig = term (.signature key) data := by
  simp [symbolic]

theorem exportPublic_symbolic (algorithm : Str Sym) (r : Nat) :
    Kem.exportPublic (symbolic base) (.generated algorithm r) = some (term (.publicKey r) algorithm) := by
  simp [Kem.exportPublic, symbolic, KemKey.publicHalf, term]

/-- What a public key encapsulates to. -/
theorem symbolic_encapsulated {algorithm : Str Sym} {pk ct ss : OctetSeq Sym} {r : Nat}
    (h : ((symbolic base).kem algorithm).Encapsulated pk r ct ss) :
    ct = term (.ciphertext r) pk ∧ ss = term (.secret r) pk := by
  obtain ⟨pub, himp, henc⟩ := h
  obtain rfl : KemKey.imported pk = pub := by
    rcases himp with himp | himp <;> exact Option.some.inj himp
  obtain ⟨rfl, rfl⟩ := Prod.mk.inj (Option.some.inj henc)
  exact ⟨rfl, rfl⟩

theorem symbolic_kem_correct (algorithm : Str Sym) : ((symbolic base).kem algorithm).Correct := by
  intro seed sk pk pub r ct ss hgen hpk himp henc
  obtain rfl : KemKey.generated algorithm seed = sk := Option.some.inj hgen
  have hexp := exportPublic_symbolic base algorithm seed
  obtain rfl : term (.publicKey seed) algorithm = pk := Option.some.inj (hexp.symm.trans hpk)
  obtain ⟨rfl, rfl⟩ := symbolic_encapsulated base ⟨pub, himp, henc⟩
  simp [Env.kem, symbolic, KemKey.decapsulate, term]

/-! ## A small platform

Certificate `n` has the octets `n, 0` and the key pair `n`; the QoS property `n` loads its credentials, and
the participant data of its owner is the octet `n`. -/

def sampleCertificate (n : UInt8) : Certificate Sym Nat where
  originalBytes := [.base n, .base 0]
  subjectName := [.base n]
  subjectNameDigest := some (List.replicate 32 n)
  keypairAlgo := str "ML-DSA-65"
  dsignAlgo := str "ML-DSA-65"
  publicKey := n.toNat

/-- The GUID that certificate `n` derives. -/
def sampleGuid (n : UInt8) : Guid where
  bytes :=
    let half : UInt8 := n >>> 1
    let carry : UInt8 := n <<< 7
    (0x80 ||| half) :: (List.replicate 5 (half ||| carry) ++ List.replicate 10 0)
  size := by simp

def samplePlatform : Platform Sym Nat where
  deserializeCertificate
    | [.base n, .base 0] => some (sampleCertificate n)
    | _ => none
  validateCertificate _ _ _ := true
  makeAdjustedGuid _ certificate := some (sampleGuid certificate.publicKey.toUInt8)
  loadCredentials
    | [⟨_, [.base n]⟩] => some ⟨sampleCertificate n, n.toNat, sampleCertificate 0, []⟩
    | _ => none
  validateCredentials _ _ := true
  loadAccessPermissions token := .ok (token.getBinPropertyValue "dds.perm.cert")
  deserializeParameterList
    | [.base n] => some [.participantGuid (sampleGuid n)]
    | _ => none
  initialProviders := [str "default"]
  loadable _ := false
  exposes _ _ := true

end PqsecDds.OpenDDS
