import PqsecDds.CycloneDDS.Ideal
import PqsecDds.OpenDDS.Authentication
import PqsecDds.OpenDDS.Symbolic

/-!
# The participant GUID of a certificate, in both adapters

CycloneDDS computes the six octets of a subject name with a carry that runs through a loop
(authentication.c:673-679); OpenDDS checks them one by one, the first with its own masks
(Authentication.cpp:70-84). Both are the flag bit in front of the bits of the digest.
-/

namespace PqsecDds

open CycloneDDS (Bytes Octets shiftIn getAdjustedParticipantGuid getSubjectNameDerEncoded adjustedPrefix subjectPrefix)
open OpenDDS (offset1bit certMatchesGuid)

/-! ## Bits -/

/-- The eight bits of an octet, the highest one first. -/
def octetBits (x : UInt8) : List Bool := [7, 6, 5, 4, 3, 2, 1, 0].map x.toNat.testBit

def bits (l : Octets) : List Bool := l.flatMap octetBits

/-- The octet with this highest bit and no other. -/
def topBit (b : Bool) : UInt8 := if b then 0x80 else 0

@[simp] theorem octetBits_length (x : UInt8) : (octetBits x).length = 8 := rfl

@[simp] theorem bits_cons (x : UInt8) (l : Octets) : bits (x :: l) = octetBits x ++ bits l := rfl

theorem bits_length (l : Octets) : (bits l).length = 8 * l.length := by
  induction l with
  | nil => rfl
  | cons x l ih => rw [bits_cons, List.length_append, octetBits_length, ih, List.length_cons]; omega

theorem bits_take (l : Octets) (n : Nat) : bits (l.take n) = (bits l).take (8 * n) := by
  induction l generalizing n with
  | nil => simp [bits]
  | cons x l ih =>
    cases n with
    | zero => simp [bits]
    | succ n =>
      have hn : 8 * (n + 1) = (octetBits x).length + 8 * n := by rw [octetBits_length]; omega
      rw [List.take_succ_cons, bits_cons, bits_cons, ih, hn, List.take_length_add_append]

theorem octetBits_topBit (b : Bool) (x : UInt8) :
    octetBits (topBit b ||| x >>> 1) = b :: (octetBits x).dropLast := by
  cases x with
  | ofBitVec x =>
    cases x with
    | ofFin x =>
      revert b x
      decide +kernel

/-- What leaves an octet at the bottom is its last bit. -/
theorem octetBits_carry (x : UInt8) :
    ∃ b, x <<< 7 = topBit b ∧ (octetBits x).dropLast ++ [b] = octetBits x := by
  cases x with
  | ofBitVec x =>
    cases x with
    | ofFin x =>
      revert x
      decide +kernel

/-- The loop moves every bit one place on and loses the last one. -/
theorem bits_shiftIn (b : Bool) (l : Octets) : bits (shiftIn (topBit b) l) = (b :: bits l).dropLast := by
  induction l generalizing b with
  | nil => rfl
  | cons x l ih =>
    obtain ⟨c, hc, hx⟩ := octetBits_carry x
    calc bits (shiftIn (topBit b) (x :: l))
        = (b :: (octetBits x).dropLast) ++ (c :: bits l).dropLast := by
          rw [shiftIn, bits_cons, octetBits_topBit, hc, ih]
      _ = ((b :: (octetBits x).dropLast) ++ (c :: bits l)).dropLast :=
          (List.dropLast_append_of_ne_nil (List.cons_ne_nil _ _)).symm
      _ = (b :: ((octetBits x).dropLast ++ [c] ++ bits l)).dropLast := by simp
      _ = (b :: bits (x :: l)).dropLast := by rw [hx, bits_cons]

/-! ## The octets that OpenDDS compares -/

/-- An octet of the loop is the octet of `offset_1bit`, the first one under what comes in. -/
theorem shiftIn_getElem (hb : UInt8) (l : Octets) (i : Nat) (hi : i < (shiftIn hb l).length) :
    (shiftIn hb l)[i] = if i = 0 then hb ||| offset1bit l 0 else offset1bit l i := by
  induction l generalizing hb i with
  | nil => simp [shiftIn] at hi
  | cons x l ih =>
    cases i with
    | zero => simp [shiftIn, offset1bit]
    | succ i =>
      have hi' : i < (shiftIn (x <<< 7) l).length := by simpa [shiftIn] using hi
      have h : (shiftIn hb (x :: l))[i + 1] = (shiftIn (x <<< 7) l)[i] := rfl
      rw [h, ih _ i hi']
      cases i with
      | zero => simp [offset1bit, UInt8.or_comm]
      | succ i => simp [offset1bit]

theorem mask_shiftRight (x : UInt8) :
    ((0x80 : UInt8) ||| x >>> 1) &&& 0x80 = 0x80 ∧ ((0x80 : UInt8) ||| x >>> 1) &&& (0x7f : UInt8) = x >>> 1 := by
  cases x with
  | ofBitVec x =>
    cases x with
    | ofFin x =>
      revert x
      decide +kernel

theorem mask_or (x : UInt8) : (x &&& (0x80 : UInt8)) ||| (x &&& 0x7f) = x := by
  cases x with
  | ofBitVec x =>
    cases x with
    | ofFin x =>
      revert x
      decide +kernel

/-- The two masks of the first octet are one comparison. -/
theorem masks_iff (x y : UInt8) :
    x &&& 0x80 = 0x80 ∧ x &&& (0x7f : UInt8) = y >>> 1 ↔ x = (0x80 : UInt8) ||| y >>> 1 := by
  constructor
  · rintro ⟨h₁, h₂⟩
    rw [← mask_or x, h₁, h₂]
  · rintro rfl
    exact mask_shiftRight y

/-- The first octet carries the flag and nothing comes into it. -/
def prefixOctet (digest : Octets) (i : Nat) : UInt8 :=
  if i = 0 then 0x80 ||| offset1bit digest 0 else offset1bit digest i

theorem offset1bit_take (digest : Octets) (i : Nat) (hi : i < 6) :
    offset1bit (digest.take 6) i = offset1bit digest i := by
  have hlast : i - 1 < 6 := by omega
  simp [offset1bit, hi, hlast]

theorem shiftIn_eq_prefixOctet (digest : Octets) (i : Nat) (hi : i < 6)
    (h : i < (shiftIn 0x80 (digest.take 6)).length) : (shiftIn 0x80 (digest.take 6))[i] = prefixOctet digest i := by
  rw [shiftIn_getElem, prefixOctet, offset1bit_take digest i hi, offset1bit_take digest 0 (by omega)]

variable {α π : Type}

/-- `cert_matches_guid` says yes to the six octets and to nothing else. -/
theorem certMatchesGuid_iff (certificate : OpenDDS.Certificate α π) (g : OpenDDS.Guid) (digest : Octets)
    (hd : certificate.subjectNameDigest = some digest) (hsize : 6 ≤ digest.length) :
    certMatchesGuid certificate g = true ↔ g.bytes.take 6 = shiftIn 0x80 (digest.take 6) := by
  have hlen : (shiftIn 0x80 (digest.take 6)).length = 6 := by
    rw [CycloneDDS.shiftIn_length, List.length_take]; omega
  have hglen : (g.bytes.take 6).length = 6 := by rw [List.length_take, g.size]; rfl
  have hmatch : certMatchesGuid certificate g = true ↔ ∀ i < 6, g.bytes.getD i 0 = prefixOctet digest i := by
    have hfirst := masks_iff (g.bytes.getD 0 0) (digest.getD 0 0)
    have hoff : offset1bit digest 0 = digest.getD 0 0 >>> 1 := by simp [offset1bit]
    simp only [certMatchesGuid, hd, hsize, decide_true, Bool.true_and, Bool.and_eq_true, beq_iff_eq,
      List.all_eq_true, hoff, hfirst]
    constructor
    · rintro ⟨h₀, h⟩ i hi
      by_cases hz : i = 0
      · subst hz
        rw [h₀, prefixOctet, if_pos rfl, hoff]
      · rw [h i (by simp; omega), prefixOctet, if_neg hz]
    · intro h
      refine ⟨by rw [h 0 (by omega), prefixOctet, if_pos rfl, hoff], fun i hi => ?_⟩
      have hr : i < 6 ∧ i ≠ 0 := by simp at hi; omega
      rw [h i hr.1, prefixOctet, if_neg hr.2]
  have hoctet : ∀ i (hi : i < (g.bytes.take 6).length), (g.bytes.take 6)[i] = g.bytes.getD i 0 := by
    intro i hi
    have hi' : i < g.bytes.length := by rw [g.size]; omega
    rw [List.getElem_take, List.getD_eq_getElem?_getD, List.getElem?_eq_getElem hi', Option.getD_some]
  rw [hmatch]
  constructor
  · intro h
    refine List.ext_getElem (hglen.trans hlen.symm) fun i h₁ h₂ => ?_
    have hi : i < 6 := by omega
    rw [hoctet, h i hi, shiftIn_eq_prefixOctet digest i hi]
  · intro h i hi
    have h₁ : i < (g.bytes.take 6).length := by omega
    rw [← hoctet i h₁, ← shiftIn_eq_prefixOctet digest i hi (by omega)]
    simp only [h]

/-! ## One rule -/

variable {κ ρ : Type}

/-- The adjusted GUID begins with the flag and the first 47 bits of the digest whatever the candidate is, and
OpenDDS takes the GUIDs that begin like it. -/
theorem adapters_share_guid_rule (env : CycloneDDS.Env κ ρ) (amb : CycloneDDS.Ambient ρ) (cert : CycloneDDS.X509)
    (subject : Octets) (digest : Bytes 32) (certificate : OpenDDS.Certificate α π) (candidate : CycloneDDS.Guid)
    (g : OpenDDS.Guid) (hs : getSubjectNameDerEncoded amb cert = .ok subject) (hd : env.sha256 subject = digest)
    (hc : certificate.subjectNameDigest = some digest.1) :
    ∃ adjusted, getAdjustedParticipantGuid env amb cert candidate = .ok adjusted ∧
      bits (adjusted.guidPrefix.1.take 6) = true :: (bits digest.1).take 47 ∧
      (certMatchesGuid certificate g = true ↔ g.bytes.take 6 = adjusted.guidPrefix.1.take 6) := by
  have hsize : 6 ≤ digest.1.length := by rw [digest.2]; omega
  have hsix : (adjustedPrefix env subject candidate.guidPrefix).1.take 6 = shiftIn 0x80 (digest.1.take 6) := by
    rw [adjustedPrefix, List.take_left' (CycloneDDS.subjectPrefix_length env subject), subjectPrefix, hd]
  refine ⟨⟨adjustedPrefix env subject candidate.guidPrefix, candidate.entityId⟩, ?_, ?_, ?_⟩
  · simp only [getAdjustedParticipantGuid, hs]
    rfl
  · have hlen : (bits (digest.1.take 6)).length = 48 := by
      rw [bits_length, List.length_take]; omega
    calc bits ((adjustedPrefix env subject candidate.guidPrefix).1.take 6)
        = bits (shiftIn (topBit true) (digest.1.take 6)) := by rw [hsix]; rfl
      _ = (true :: bits (digest.1.take 6)).dropLast := bits_shiftIn true _
      _ = true :: (bits (digest.1.take 6)).take 47 := by
          rw [List.dropLast_eq_take, List.length_cons, hlen, Nat.add_sub_cancel, List.take_succ_cons]
      _ = true :: (bits digest.1).take 47 := by rw [bits_take, List.take_take]; rfl
  · rw [certMatchesGuid_iff certificate g digest.1 hc hsize, hsix]

/-- Subject `5` with the digest `5, 0, …, 0`, which begins with `0x82, 0x80`. -/
theorem adapters_share_guid_rule_sample :
    ∃ adjusted, getAdjustedParticipantGuid CycloneDDS.Ideal.env (CycloneDDS.Ideal.ambient 0)
        ⟨[5], none, some ⟨[5], [5]⟩, none, none⟩ ⟨CycloneDDS.zeroBytes 12, CycloneDDS.zeroBytes 4⟩ =
        .ok adjusted ∧
      bits (adjusted.guidPrefix.1.take 6) = true :: (bits (5 :: List.replicate 31 0)).take 47 ∧
      (certMatchesGuid { OpenDDS.sampleCertificate 5 with subjectNameDigest := some (5 :: List.replicate 31 0) }
          ⟨[0x82, 0x80, 0, 0, 0, 0, 1, 2, 3, 4, 5, 6, 0, 0, 1, 0xc1], rfl⟩ = true ↔
        [0x82, 0x80, 0, 0, 0, 0] = adjusted.guidPrefix.1.take 6) :=
  adapters_share_guid_rule CycloneDDS.Ideal.env (CycloneDDS.Ideal.ambient 0) _ [5] ⟨5 :: List.replicate 31 0, rfl⟩
    _ _ _ rfl (by decide +kernel) rfl

end PqsecDds
