import PqsecDds.CycloneDDS.Ideal
import PqsecDds.Lib.SignedInt

/-!
# The expiry of a certificate

`get_certificate_expiry` adds the time a certificate has left to the clock, and gives up (`DDS_NEVER`) on certificates
that are valid for too many days. `checkedExpiry` is its arithmetic with every operation on 64-bit integers checked; the
test on the whole days leaves room for the seconds, so none overflows.
-/

namespace PqsecDds.CycloneDDS

open Lib

variable {ρ : Type} {amb : Ambient ρ} {cert : X509} {now days seconds notAfter : Int}

/-- auth_utils.c:97-106, on the int64 values of `now`, `days` and `seconds`. -/
def checkedExpiry (now days seconds : Int) : Option Int := do
  let secsInDay := 86400
  let nsecsInSec := 1000000000
  let nsecs ← Checked.sub int64Max now
  let secs ← Checked.div nsecs nsecsInSec
  let maxValidDaysToWait ← Checked.div secs secsInDay
  if days < maxValidDaysToWait then do
    let daySecs ← Checked.mul days secsInDay
    let sum ← Checked.add seconds daySecs
    let delta ← Checked.mul sum nsecsInSec
    Checked.add now delta
  else some ddsNever

/-- The instant that lies `days` and `seconds` after `now`. -/
def instantAfter (now days seconds : Int) : Int := now + (days * 86400 + seconds) * 1000000000

/-- A number of days below the limit leaves room for the seconds of one more day. -/
theorem instantAfter_lt (hdays : days < (int64Max - now) / 1000000000 / 86400) (hseconds : seconds < 86400) :
    instantAfter now days seconds < int64Max := by
  unfold instantAfter
  have hday : (days + 1) * 86400 ≤ (int64Max - now) / 1000000000 := by omega
  have hsec : (days + 1) * 86400 * 1000000000 ≤ int64Max - now := by omega
  omega

/-- No operation overflows. -/
theorem checkedExpiry_eq (hnow : 0 ≤ now ∧ now ≤ int64Max) (hdays : 0 ≤ days) (hseconds : 0 ≤ seconds ∧ seconds < 86400) :
    checkedExpiry now days seconds =
      some (if days < (int64Max - now) / 1000000000 / 86400 then instantAfter now days seconds else ddsNever) := by
  have hnsecs : InInt64 (int64Max - now) := inInt64_of_nonneg (by omega) (by omega)
  have hsecs : InInt64 ((int64Max - now) / 1000000000) := inInt64_of_nonneg (by omega) (by omega)
  simp only [checkedExpiry, Option.bind_eq_bind]
  rw [Checked.sub_eq_some hnsecs, Option.bind_some, Checked.div_eq_some hnsecs (by omega) (by decide), Option.bind_some,
    Checked.div_eq_some hsecs (by omega) (by decide), Option.bind_some]
  by_cases hlt : days < (int64Max - now) / 1000000000 / 86400
  · have hroom := instantAfter_lt hlt hseconds.2
    unfold instantAfter at hroom ⊢
    have hdaySecs : InInt64 (days * 86400) := inInt64_of_nonneg (by omega) (by omega)
    have hsum : InInt64 (seconds + days * 86400) := inInt64_of_nonneg (by omega) (by omega)
    have hdelta : InInt64 ((seconds + days * 86400) * 1000000000) := inInt64_of_nonneg (by omega) (by omega)
    have hinstant : InInt64 (now + (seconds + days * 86400) * 1000000000) := inInt64_of_nonneg (by omega) (by omega)
    rw [if_pos hlt, if_pos hlt, Checked.mul_eq_some hdaySecs, Option.bind_some, Checked.add_eq_some hsum, Option.bind_some,
      Checked.mul_eq_some hdelta, Option.bind_some, Checked.add_eq_some hinstant, Int.add_comm seconds]
  · rw [if_neg hlt, if_neg hlt]

/-! ## What `get_certificate_expiry` returns -/

theorem ddsNever_eq : ddsNever = int64Max := rfl

/-- The days and seconds of a difference add up to it, and are not negative unless it is. -/
theorem asn1TimeDiff_spec (hdiff : asn1TimeDiff amb notAfter = (days, seconds)) :
    days * 86400 + seconds = notAfter - amb.time ∧
      (amb.time ≤ notAfter → days = (notAfter - amb.time) / 86400 ∧ 0 ≤ days ∧ 0 ≤ seconds ∧ seconds < 86400) := by
  obtain ⟨rfl, rfl⟩ := Prod.mk.inj hdiff
  refine ⟨?_, fun hle => ?_⟩
  · rw [Int.mul_comm]
    exact Int.mul_tdiv_add_tmod _ _
  · rw [Int.tdiv_eq_ediv_of_nonneg (by omega), Int.tmod_eq_emod_of_nonneg (by omega)]
    omega

/-- Every such pair is the difference of some instant. -/
theorem asn1TimeDiff_add (amb : Ambient ρ) (hdays : 0 ≤ days) (hseconds : 0 ≤ seconds ∧ seconds < 86400) :
    asn1TimeDiff amb (amb.time + (days * 86400 + seconds)) = (days, seconds) := by
  rw [asn1TimeDiff, Int.tdiv_eq_ediv_of_nonneg (by omega), Int.tmod_eq_emod_of_nonneg (by omega), Prod.mk.injEq]
  omega

theorem getCertificateExpiry_eq (hread : cert.notAfter = some notAfter)
    (hdiff : asn1TimeDiff amb notAfter = (days, seconds)) (hnow : amb.ddsTime ≤ int64Max) :
    getCertificateExpiry amb cert =
      if days < (int64Max - amb.ddsTime) / 1000000000 / 86400 then instantAfter amb.ddsTime days seconds else ddsNever := by
  have hsecs : (int64Max - amb.ddsTime).tdiv 1000000000 = (int64Max - amb.ddsTime) / 1000000000 :=
    Int.tdiv_eq_ediv_of_nonneg (by omega)
  have hdays : ((int64Max - amb.ddsTime) / 1000000000).tdiv 86400 = (int64Max - amb.ddsTime) / 1000000000 / 86400 :=
    Int.tdiv_eq_ediv_of_nonneg (by omega)
  simp only [getCertificateExpiry, hread, hdiff, ddsNever_eq, hsecs, hdays, instantAfter, Int.add_comm seconds]

/-- The expiry is at the instant itself or later. -/
theorem getCertificateExpiry_cases (hread : cert.notAfter = some notAfter)
    (hdiff : asn1TimeDiff amb notAfter = (days, seconds)) (hnow : amb.ddsTime ≤ int64Max) (hseconds : seconds < 86400) :
    (getCertificateExpiry amb cert = instantAfter amb.ddsTime days seconds ∧
      instantAfter amb.ddsTime days seconds < ddsNever ∧ days < (int64Max - amb.ddsTime) / 1000000000 / 86400) ∨
    (getCertificateExpiry amb cert = ddsNever ∧ (int64Max - amb.ddsTime) / 1000000000 / 86400 ≤ days) := by
  rw [getCertificateExpiry_eq hread hdiff hnow]
  by_cases hlt : days < (int64Max - amb.ddsTime) / 1000000000 / 86400
  · left
    rw [if_pos hlt]
    exact ⟨rfl, instantAfter_lt hlt hseconds, hlt⟩
  · right
    rw [if_neg hlt]
    exact ⟨rfl, by omega⟩

/-- A certificate that expires later is given the same expiry or a later one. -/
theorem getCertificateExpiry_mono {later : X509} {notAfter' : Int} (hread : cert.notAfter = some notAfter)
    (hread' : later.notAfter = some notAfter') (hnow : amb.ddsTime ≤ int64Max) (hafter : amb.time ≤ notAfter)
    (hle : notAfter ≤ notAfter') : getCertificateExpiry amb cert ≤ getCertificateExpiry amb later := by
  rcases hdiff : asn1TimeDiff amb notAfter with ⟨days, seconds⟩
  rcases hdiff' : asn1TimeDiff amb notAfter' with ⟨days', seconds'⟩
  obtain ⟨hsum, hrange⟩ := asn1TimeDiff_spec hdiff
  obtain ⟨hsum', hrange'⟩ := asn1TimeDiff_spec hdiff'
  obtain ⟨hdays, -, -, hseconds⟩ := hrange hafter
  obtain ⟨hdays', -, -, hseconds'⟩ := hrange' (by omega)
  rcases getCertificateExpiry_cases hread hdiff hnow hseconds with ⟨heq, hlt, hroom⟩ | ⟨heq, hroom⟩
  · rcases getCertificateExpiry_cases hread' hdiff' hnow hseconds' with ⟨heq', -, -⟩ | ⟨heq', -⟩
    · rw [heq, heq', instantAfter, instantAfter]
      omega
    · rw [heq, heq']
      omega
  · rcases getCertificateExpiry_cases hread' hdiff' hnow hseconds' with ⟨-, -, hroom'⟩ | ⟨heq', -⟩
    · omega
    · exact Int.le_of_eq (heq.trans heq'.symm)

/-- **The expiry of a certificate.** Computing it overflows nowhere, and it is the exact instant or `DDS_NEVER`: never
before now, never `DDS_TIME_INVALID`, `DDS_NEVER` when the instant is out of range, and monotone in `notAfter`. -/
theorem certificate_expiry (amb : Ambient ρ) (cert : X509) {notAfter days seconds : Int}
    (hread : cert.notAfter = some notAfter) (hdiff : asn1TimeDiff amb notAfter = (days, seconds))
    (hnow : 0 ≤ amb.ddsTime ∧ amb.ddsTime ≤ int64Max) (hdays : 0 ≤ days) (hseconds : 0 ≤ seconds ∧ seconds < 86400) :
    checkedExpiry amb.ddsTime days seconds = some (getCertificateExpiry amb cert) ∧
    (getCertificateExpiry amb cert = amb.ddsTime + (days * 86400 + seconds) * 10 ^ 9 ∨
      getCertificateExpiry amb cert = ddsNever) ∧
    amb.ddsTime ≤ getCertificateExpiry amb cert ∧ getCertificateExpiry amb cert ≠ ddsTimeInvalid ∧
    (int64Max < amb.ddsTime + (days * 86400 + seconds) * 10 ^ 9 → getCertificateExpiry amb cert = ddsNever) ∧
    ∀ later notAfter', later.notAfter = some notAfter' → notAfter ≤ notAfter' →
      getCertificateExpiry amb cert ≤ getCertificateExpiry amb later := by
  have hexact : amb.ddsTime + (days * 86400 + seconds) * 10 ^ 9 = instantAfter amb.ddsTime days seconds := rfl
  have hafter : amb.time ≤ notAfter := by
    obtain ⟨hsum, -⟩ := asn1TimeDiff_spec hdiff
    omega
  have hchecked : checkedExpiry amb.ddsTime days seconds = some (getCertificateExpiry amb cert) := by
    rw [checkedExpiry_eq hnow hdays hseconds, getCertificateExpiry_eq hread hdiff hnow.2]
  have hinvalid : ddsTimeInvalid < 0 := by decide
  have hmono : ∀ later notAfter', later.notAfter = some notAfter' → notAfter ≤ notAfter' →
      getCertificateExpiry amb cert ≤ getCertificateExpiry amb later :=
    fun _ _ hread' hle => getCertificateExpiry_mono hread hread' hnow.2 hafter hle
  rw [hexact]
  rcases getCertificateExpiry_cases hread hdiff hnow.2 hseconds.2 with ⟨heq, hlt, -⟩ | ⟨heq, -⟩
  · have hge : amb.ddsTime ≤ instantAfter amb.ddsTime days seconds := by
      unfold instantAfter
      omega
    rw [ddsNever_eq] at hlt
    refine ⟨hchecked, .inl heq, ?_, ?_, fun hout => ?_, hmono⟩
    · rw [heq]
      exact hge
    · rw [heq]
      omega
    · omega
  · refine ⟨hchecked, .inr heq, ?_, ?_, fun _ => heq, hmono⟩
    · rw [heq, ddsNever_eq]
      exact hnow.2
    · rw [heq]
      decide

/-- A certificate of the ideal environment that is valid for another 901 seconds. -/
theorem certificate_expiry_sample : ∃ cert, Ideal.certificate [3, 0, 9, 1] = some cert ∧
    checkedExpiry (Ideal.ambient 0).ddsTime 0 901 = some (getCertificateExpiry (Ideal.ambient 0) cert) := by
  rcases hcert : Ideal.certificate [3, 0, 9, 1] with _ | cert
  · cases hcert
  · obtain rfl := Option.some.inj hcert
    have hdiff := asn1TimeDiff_add (Ideal.ambient 0) (show (0 : Int) ≤ 0 by decide) (show (0 : Int) ≤ 901 ∧ 901 < 86400 by decide)
    exact ⟨_, rfl, (certificate_expiry (Ideal.ambient 0) _ rfl hdiff ⟨by decide, by decide⟩ (by decide)
      ⟨by decide, by decide⟩).1⟩

end PqsecDds.CycloneDDS
