import PqsecDds.Lib.Xcdr
import PqsecDds.OpenDDS.Transcript

/-!
# What is hashed and signed, on the wire

`hash_serialized` and `sign_serialized` work on the XCDR1 octets of a property sequence: a count, and for every property
its name as a string and its value as an octet sequence. `Transcript` has the three sequences the adapter builds.
-/

namespace PqsecDds.OpenDDS

open Lib.Xcdr

/-! ## Property sequences -/

def binaryProperty : Encoder (BinaryProperty UInt8) := comap (fun p => (p.name, p.value)) (pair string octets)

/-- The serialization of a `DDS::BinaryPropertySeq`. -/
def xcdr1 (properties : BinaryPropertySeq UInt8) : OctetSeq UInt8 := sequence binaryProperty 0 properties

/-- The lengths of the name, with its NUL, and of the value fit a `CORBA::ULong`. -/
def BinaryProperty.Fits (p : BinaryProperty UInt8) : Prop := p.name.length + 1 < 2 ^ 32 ∧ p.value.length < 2 ^ 32

theorem binaryProperty_unambiguous : Unambiguous BinaryProperty.Fits binaryProperty := by
  have hfields : Function.Injective fun p : BinaryProperty UInt8 => (p.name, p.value) := by
    rintro ⟨name, value⟩ ⟨name', value'⟩ h
    obtain ⟨rfl, rfl⟩ := Prod.mk.inj h
    rfl
  exact comap_unambiguous hfields (pair_unambiguous string_unambiguous octets_unambiguous)

theorem xcdr1_injOn :
    Set.InjOn xcdr1 {ps | ps.length < 2 ^ 32 ∧ ∀ p ∈ ps, p.Fits} :=
  (sequence_unambiguous binaryProperty_unambiguous).injOn 0

/-! ## Transcripts -/

/-- A `DDS::OctetSeq`: a `CORBA::ULong` counts its octets. -/
abbrev DdsOctetSeq := { value : OctetSeq UInt8 // value.length < 2 ^ 32 }

/-- A `std::string` that is copied with its NUL into a `DDS::OctetSeq`. -/
abbrev DdsString := { value : Str UInt8 // value.length + 1 < 2 ^ 32 }

inductive Transcript where
  | credentialHash (certificate permissions participantData : DdsOctetSeq) (signatureAlgorithm kemAlgorithm : DdsString)
  | reply (hash2 challenge2 ciphertext challenge1 publicKey hash1 : DdsOctetSeq)
  | final (hash1 challenge1 publicKey challenge2 ciphertext hash2 : DdsOctetSeq)

def Transcript.properties : Transcript → BinaryPropertySeq UInt8
  | .credentialHash certificate permissions participantData signatureAlgorithm kemAlgorithm =>
    credentialProperties certificate.1 permissions.1 participantData.1 signatureAlgorithm.1 kemAlgorithm.1
  | .reply hash2 challenge2 ciphertext challenge1 publicKey hash1 =>
    replyTranscript hash2.1 challenge2.1 ciphertext.1 challenge1.1 publicKey.1 hash1.1
  | .final hash1 challenge1 publicKey challenge2 ciphertext hash2 =>
    finalTranscript hash1.1 challenge1.1 publicKey.1 challenge2.1 ciphertext.1 hash2.1

/-- The role is the second property of every sequence. -/
theorem credentialProperties_ne (c p d : OctetSeq UInt8) (sa ka : Str UInt8)
    (a a₁ a₂ a₃ a₄ a₅ : OctetSeq UInt8) :
    credentialProperties c p d sa ka ≠ replyTranscript a a₁ a₂ a₃ a₄ a₅ ∧
    credentialProperties c p d sa ka ≠ finalTranscript a a₁ a₂ a₃ a₄ a₅ := by
  have hreply : (str "credential-hash" : Str UInt8) ≠ str "reply" := fun h => absurd (str_inj.1 h) (by decide)
  have hfinal : (str "credential-hash" : Str UInt8) ≠ str "final" := fun h => absurd (str_inj.1 h) (by decide)
  constructor
  · simp [credentialProperties, replyTranscript, appendDomain, append, cStr_inj, hreply]
  · simp [credentialProperties, finalTranscript, appendDomain, append, cStr_inj, hfinal]

theorem Transcript.properties_injective : Function.Injective Transcript.properties := by
  intro t t' h
  cases t with
  | credentialHash c p d sa ka =>
    cases t' with
    | credentialHash c' p' d' sa' ka' =>
      obtain ⟨hc, hp, hd, hsa, hka⟩ := credentialProperties_inj.1 h
      rw [Subtype.ext hc, Subtype.ext hp, Subtype.ext hd, Subtype.ext hsa, Subtype.ext hka]
    | reply => exact absurd h (credentialProperties_ne _ _ _ _ _ _ _ _ _ _ _).1
    | final => exact absurd h (credentialProperties_ne _ _ _ _ _ _ _ _ _ _ _).2
  | reply h2 c2 ct c1 pk h1 =>
    cases t' with
    | credentialHash => exact absurd h.symm (credentialProperties_ne _ _ _ _ _ _ _ _ _ _ _).1
    | reply h2' c2' ct' c1' pk' h1' =>
      obtain ⟨hh2, hc2, hct, hc1, hpk, hh1⟩ := replyTranscript_inj.1 h
      rw [Subtype.ext hh2, Subtype.ext hc2, Subtype.ext hct, Subtype.ext hc1, Subtype.ext hpk, Subtype.ext hh1]
    | final => exact absurd h (replyTranscript_ne_finalTranscript _ _ _ _ _ _ _ _ _ _ _ _)
  | final h1 c1 pk c2 ct h2 =>
    cases t' with
    | credentialHash => exact absurd h.symm (credentialProperties_ne _ _ _ _ _ _ _ _ _ _ _).2
    | reply => exact absurd h.symm (replyTranscript_ne_finalTranscript _ _ _ _ _ _ _ _ _ _ _ _)
    | final h1' c1' pk' c2' ct' h2' =>
      obtain ⟨hh1, hc1, hpk, hc2, hct, hh2⟩ := finalTranscript_inj.1 h
      rw [Subtype.ext hh1, Subtype.ext hc1, Subtype.ext hpk, Subtype.ext hc2, Subtype.ext hct, Subtype.ext hh2]

/-! ### Their lengths -/

/-- The names of the adapter are short, so the value decides. -/
theorem append_fits {ps : BinaryPropertySeq UInt8} {name : String} {value : OctetSeq UInt8}
    (hname : (latin1 name).length < 64) (hvalue : value.length < 2 ^ 32) (hps : ∀ p ∈ ps, p.Fits) :
    ∀ p ∈ append ps name value, p.Fits := by
  intro p hp
  rcases List.mem_append.1 hp with hp | hp
  · exact hps p hp
  · obtain rfl := List.mem_singleton.1 hp
    have hlen : (str name : Str UInt8).length = (latin1 name).length := List.length_map ..
    refine ⟨?_, hvalue⟩
    show (str name : Str UInt8).length + 1 < 2 ^ 32
    omega

theorem cStr_length_lt (s : DdsString) : (cStr s.1).length < 2 ^ 32 := by
  have h := s.2
  rw [cStr, List.length_append, List.length_singleton]
  exact h

theorem appendDomain_fits {role : String} (hrole : (latin1 role).length < 64) :
    ∀ p ∈ appendDomain ([] : BinaryPropertySeq UInt8) role, p.Fits := by
  have hcStr : ∀ text : String, (latin1 text).length < 64 → (cStr (str text : Str UInt8)).length < 2 ^ 32 := by
    intro text htext
    simp only [cStr, str, List.length_append, List.length_map, List.length_singleton]
    omega
  refine append_fits (by decide) (hcStr role hrole) (append_fits (by decide) (hcStr _ (by decide)) ?_)
  intro p hp
  cases hp

theorem Transcript.properties_fit (t : Transcript) :
    t.properties.length < 2 ^ 32 ∧ ∀ p ∈ t.properties, p.Fits := by
  cases t with
  | credentialHash c p d sa ka =>
    refine ⟨by simp [properties, credentialProperties, appendDomain, append], ?_⟩
    refine append_fits (by decide) (cStr_length_lt ka) (append_fits (by decide) (cStr_length_lt sa) ?_)
    refine append_fits (by decide) d.2 (append_fits (by decide) p.2 (append_fits (by decide) c.2 ?_))
    exact appendDomain_fits (by decide)
  | reply h2 c2 ct c1 pk h1 =>
    refine ⟨by simp [properties, replyTranscript, appendDomain, append], ?_⟩
    refine append_fits (by decide) h1.2 (append_fits (by decide) pk.2 (append_fits (by decide) c1.2 ?_))
    refine append_fits (by decide) ct.2 (append_fits (by decide) c2.2 (append_fits (by decide) h2.2 ?_))
    exact appendDomain_fits (by decide)
  | final h1 c1 pk c2 ct h2 =>
    refine ⟨by simp [properties, finalTranscript, appendDomain, append], ?_⟩
    refine append_fits (by decide) h2.2 (append_fits (by decide) ct.2 (append_fits (by decide) c2.2 ?_))
    refine append_fits (by decide) pk.2 (append_fits (by decide) c1.2 (append_fits (by decide) h1.2 ?_))
    exact appendDomain_fits (by decide)

/-- **Transcripts.** The octets determine the role and every field. -/
theorem transcripts_injective : Function.Injective fun t : Transcript => xcdr1 t.properties := by
  intro t t' h
  exact Transcript.properties_injective (xcdr1_injOn t.properties_fit t'.properties_fit h)

end PqsecDds.OpenDDS
