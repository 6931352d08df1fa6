import PqsecDds.CycloneDDS.Secrets

/-!
# What a signature binds

| here | there |
|---|---|
| `SignedContents` | what the two parties should agree on when a signature is checked |
| `SignedContents.octets` | `create_pq_signature` and `validate_pq_signature` serialize the properties, then sign and verify them |
| `SignsContents` | the two places that sign and the one that verifies work on these octets |
| `Binds` | the octets determine the contents |

With `include_optional` the six properties are in every transcript. Without it the hashes are left out, and a
signature says nothing about the credentials.
-/

namespace PqsecDds.CycloneDDS

open Lib Context

variable {κ ρ : Type} {env : Env κ ρ} {amb : Ambient ρ} {c c' : Context κ} {inp out : Token} {optional : Bool}
variable {trusted : List X509} {signed : Signed} {cert : X509} {key : EvpPkey}

/-! ## The contents and their octets -/

inductive SignedRole where
  | reply
  | final
  deriving DecidableEq

structure SignedContents where
  role : SignedRole
  hashC1 : HashValue
  hashC2 : HashValue
  challenge1 : Octets
  challenge2 : Octets
  kemPublic : Octets
  kemCiphertext : Octets
  deriving DecidableEq

namespace SignedContents

def transcript (optional : Bool) (x : SignedContents) : List BinaryProperty :=
  (match x.role with
    | .reply => replyTranscript
    | .final => finalTranscript) optional x.hashC1 x.hashC2 x.challenge1 x.challenge2 x.kemPublic x.kemCiphertext

def octets (env : Env κ ρ) (optional : Bool) (x : SignedContents) : Octets := env.serializeArray (x.transcript optional)

/-- The role, the challenges and the KEM material are in every transcript, under their names and in their order. -/
theorem transcript_common {x y : SignedContents} (h : x.transcript optional = y.transcript optional) :
    x.role = y.role ∧ x.challenge1 = y.challenge1 ∧ x.challenge2 = y.challenge2 ∧ x.kemPublic = y.kemPublic ∧
      x.kemCiphertext = y.kemCiphertext := by
  have h₁₂ : str "hash_c1" ≠ str "hash_c2" := by decide
  have hch : str "challenge1" ≠ str "challenge2" := by decide
  rcases x with ⟨_ | _, x₁, x₂, x₃, x₄, x₅, x₆⟩ <;> rcases y with ⟨_ | _, y₁, y₂, y₃, y₄, y₅, y₆⟩ <;> cases optional <;>
    simp_all [transcript, replyTranscript, finalTranscript, binaryProperty]

theorem transcript_injective : Function.Injective (transcript true) := by
  intro x y h
  obtain ⟨hrole, h₁, h₂, h₃, h₄⟩ := transcript_common h
  rcases x with ⟨role, x₁, x₂, x₃, x₄, x₅, x₆⟩
  rcases y with ⟨role', y₁, y₂, y₃, y₄, y₅, y₆⟩
  simp only at hrole h₁ h₂ h₃ h₄
  subst hrole h₁ h₂ h₃ h₄
  cases role <;>
    simp_all [transcript, replyTranscript, finalTranscript, binaryProperty, Subtype.ext_iff]

/-- Without the optional properties no transcript has the hashes in it. -/
theorem transcript_hashes (x : SignedContents) (hashC1 hashC2 : HashValue) :
    { x with hashC1, hashC2 }.transcript false = x.transcript false := by
  rcases x with ⟨_ | _, _⟩ <;> rfl

end SignedContents

/-- The hashes of the handshake and the properties of the token. -/
def Context.contents (role : SignedRole) (token : Token) (c : Context κ) : SignedContents :=
  ⟨role, c.handshake.hashC1, c.handshake.hashC2, token.value "challenge1", token.value "challenge2",
    token.value "pqsec-dds.kem_public", token.value "pqsec-dds.kem_ciphertext"⟩

/-! ## The places that sign and verify -/

theorem replyToken_contents {l : LocalIdentityInfo} {certData pdata kemCt kemPublic signature : Octets}
    {kagree : AuthAlgoKind} {challenge1 challenge2 : Challenge} :
    c.contents .reply (replyToken optional (l.credentials certData pdata kagree) c.handshake.hashC1 c.handshake.hashC2 kemCt
      kemPublic challenge1 challenge2 signature) =
      ⟨.reply, c.handshake.hashC1, c.handshake.hashC2, challenge1.1, challenge2.1, kemPublic, kemCt⟩ := by
  cases optional <;> rfl

theorem finalToken_contents {kemCt kemPublic signature : Octets} {challenge1 challenge2 : Challenge} :
    c.contents .final (finalToken optional c.handshake.hashC1 c.handshake.hashC2 kemCt kemPublic challenge1 challenge2
      signature) = ⟨.final, c.handshake.hashC1, c.handshake.hashC2, challenge1.1, challenge2.1, kemPublic, kemCt⟩ := by
  cases optional <;> rfl

theorem makeReply_signed {pdata : Octets}
    (hrun : makeReply env amb optional trusted inp pdata c = (.ok (out, signed), c')) :
    signed.data = (c'.contents .reply out).octets env optional := by
  obtain ⟨cert, c₁, ct, ss, -, hans⟩ := makeReply_ok hrun
  obtain ⟨certData, challenge1, challenge2, signature, -, -, -, rfl, hdata, -⟩ := hans.token
  rw [replyToken_contents, hdata]
  rfl

theorem processToken_signed {certExp : Int}
    (hrun : processToken env amb optional trusted inp c = (.ok (.okFinalMessage out signed, certExp), c')) :
    signed.data = (c'.contents .final out).octets env optional := by
  rcases processToken_ok hrun with ⟨out', signed', cert, key, keypair, ss, heq, -, c₁, -, c₂, hfin, hdone⟩ | ⟨heq, -⟩
  · cases heq
    obtain ⟨challenge1, challenge2, signature, -, -, rfl, hdata, -⟩ := hfin.token
    obtain ⟨⟨ss', x₁, x₂, -, -, -, rfl⟩, -⟩ := hdone
    obtain rfl := hfin.state
    change signed.data = SignedContents.octets env optional (c₁.contents .final _)
    rw [finalToken_contents, hdata]
    rfl
  · cases heq

/-- What is signed and what is verified are the octets of the contents, as the handshake has them afterwards. -/
structure SignsContents (env : Env κ ρ) (optional : Bool) : Prop where
  reply : ∀ {amb trusted inp pdata c c' out signed},
    makeReply env amb optional trusted inp pdata c = (.ok (out, signed), c') →
    signed.data = (c'.contents .reply out).octets env optional
  final : ∀ {amb trusted inp c c' out signed certExp},
    processToken env amb optional trusted inp c = (.ok (.okFinalMessage out signed, certExp), c') →
    signed.data = (c'.contents .final out).octets env optional
  verified_reply : ∀ {amb trusted inp c c' u}, validateHandshakeToken env amb optional trusted inp .reply c = (.ok u, c') →
    ∃ cert key, Verified env c' ((c'.contents .reply inp).transcript optional) (inp.value "signature") cert key
  verified_final : ∀ {amb trusted inp c c' u}, validateHandshakeToken env amb optional trusted inp .final c = (.ok u, c') →
    ∃ cert key, Verified env c' ((c'.contents .final inp).transcript optional) (inp.value "signature") cert key

theorem signsContents (env : Env κ ρ) (optional : Bool) : SignsContents env optional where
  reply := makeReply_signed
  final := processToken_signed
  verified_reply hrun := by
    obtain ⟨cert, key, hacc⟩ := validateReply_ok hrun
    exact ⟨cert, key, hacc.verified⟩
  verified_final hrun := by
    obtain ⟨cert, key, hacc⟩ := validateFinal_ok hrun
    obtain rfl := hacc.state
    exact ⟨cert, key, hacc.verified⟩

/-! ## What is bound -/

/-- A signature that verifies over one string only, under the key. -/
def Exclusive (env : Env κ ρ) (key : EvpPkey) (signature : Octets) : Prop :=
  ∀ data data', env.digestVerify key data signature = true → env.digestVerify key data' signature = true → data = data'

/-- Two lists of properties whose hashes do not collide. -/
def NoCollision (env : Env κ ρ) (ps ps' : List BinaryProperty) : Prop :=
  env.sha256 (env.serializeArray ps) = env.sha256 (env.serializeArray ps') →
    env.serializeArray ps = env.serializeArray ps'

/-- A signature binds the role and all six properties; two handshakes that accept it have the same credentials. -/
structure Binds (env : Env κ ρ) (optional : Bool) : Prop where
  determined : Function.Injective (SignedContents.octets env optional)
  separated : ∀ {c₁ c₂ : Context κ} {role₁ role₂ m₁ m₂ signature cert₁ cert₂ key},
    Verified env c₁ ((c₁.contents role₁ m₁).transcript optional) signature cert₁ key →
    Verified env c₂ ((c₂.contents role₂ m₂).transcript optional) signature cert₂ key → Exclusive env key signature →
    c₁.contents role₁ m₁ = c₂.contents role₂ m₂ ∧
      (∀ ps ps', c₁.handshake.hashC1 = env.sha256 (env.serializeArray ps) →
        c₂.handshake.hashC1 = env.sha256 (env.serializeArray ps') → NoCollision env ps ps' → ps = ps') ∧
      ∀ ps ps', c₁.handshake.hashC2 = env.sha256 (env.serializeArray ps) →
        c₂.handshake.hashC2 = env.sha256 (env.serializeArray ps') → NoCollision env ps ps' → ps = ps'

theorem binds_of_injective (hinj : Function.Injective env.serializeArray)
    (hoct : Function.Injective (SignedContents.octets env optional)) : Binds env optional := by
  refine ⟨hoct, fun {c₁ c₂ role₁ role₂ m₁ m₂} signature cert₁ cert₂ key h₁ h₂ hex => ?_⟩
  have heq : c₁.contents role₁ m₁ = c₂.contents role₂ m₂ := hoct (hex _ _ h₁.verify h₂.verify)
  refine ⟨heq, fun ps ps' hps hps' hno => hinj (hno ?_), fun ps ps' hps hps' hno => hinj (hno ?_)⟩
  · rw [← hps, ← hps']
    exact congrArg SignedContents.hashC1 heq
  · rw [← hps, ← hps']
    exact congrArg SignedContents.hashC2 heq

theorem not_injective_without_optional (env : Env κ ρ) : ¬ Function.Injective (SignedContents.octets env false) := by
  intro hinj
  have h := congrArg SignedContents.hashC1 (hinj (congrArg env.serializeArray
    (SignedContents.transcript_hashes ⟨.final, zeroBytes 32, zeroBytes 32, [], [], [], []⟩
      ⟨List.replicate 32 1, List.length_replicate⟩ (zeroBytes 32))))
  revert h
  decide

/-- **What a signature binds.** The octets that are signed and verified always determine the role, the challenges and
the KEM material; they determine the hashes of the credentials too exactly if the optional properties are included. -/
theorem signature_binding (env : Env κ ρ) (hinj : Function.Injective env.serializeArray) (optional : Bool) :
    SignsContents env optional ∧ (Binds env optional ↔ optional = true) ∧
      ∀ x y : SignedContents, x.octets env optional = y.octets env optional →
        x.role = y.role ∧ x.challenge1 = y.challenge1 ∧ x.challenge2 = y.challenge2 ∧ x.kemPublic = y.kemPublic ∧
          x.kemCiphertext = y.kemCiphertext := by
  refine ⟨signsContents env optional, ⟨fun h => ?_, ?_⟩, fun x y h => SignedContents.transcript_common (hinj h)⟩
  · cases optional with
    | false => exact absurd h.determined (not_injective_without_optional env)
    | true => rfl
  · rintro rfl
    exact binds_of_injective hinj fun x y h => SignedContents.transcript_injective (hinj h)

theorem signature_binding_sample : Binds Ideal.env true :=
  (signature_binding Ideal.env Ideal.serialize_injective true).2.1.2 rfl

/-! ## One Final for two certificates

Without the optional properties, Alice's certificate is replaced on the way by another one with her key. -/

namespace Ideal

def plainStart : State := { includeOptional := false, kem := .mlKem512 }

def plainRequest : Token := requestOf (after plainStart aliceCalls) 10 3

/-- A Request with another certificate in it. -/
def withCertificate (cert : Octets) (request : Token) : Token :=
  { request with binaryProperties := request.binaryProperties.map fun p =>
      if p.name = some (str "c.id") then binaryProperty "c.id" cert else p }

def replacedRequest : Token := withCertificate [3, 0, 9, 2] plainRequest

def bobAfter (request : Token) : State := after plainStart (bobCalls ++ [replyCall 10 request 5])

def plainFinal : Token :=
  finalOf (after plainStart (aliceCalls ++ [requestCall 10 3])) 11
    (replyOf (after plainStart bobCalls) 10 replacedRequest 5) 10

end Ideal

/-- Bob accepts the same Final in both handshakes, whose `hash_c1` differ. -/
theorem signature_binding_fails :
    ¬ Function.Injective (SignedContents.octets Ideal.env false) ∧
      (processHandshake Ideal.env (Ideal.ambient 11) Ideal.plainFinal 10 (Ideal.bobAfter Ideal.plainRequest)).1.isOk ∧
      (processHandshake Ideal.env (Ideal.ambient 11) Ideal.plainFinal 10 (Ideal.bobAfter Ideal.replacedRequest)).1.isOk ∧
      ((Ideal.bobAfter Ideal.plainRequest).handshake 10).map (·.hashC1) ≠
        ((Ideal.bobAfter Ideal.replacedRequest).handshake 10).map (·.hashC1) := by
  refine ⟨not_injective_without_optional Ideal.env, ?_, ?_, ?_⟩
  · decide +kernel
  · decide +kernel
  · decide +kernel

end PqsecDds.CycloneDDS
