import PqsecDds.OpenDDS.Agreement
import PqsecDds.OpenDDS.Works

/-!
# What the credential hash says about the token

`validate_remote_credentials` hashes three properties as they came. The two algorithm names are read as C strings,
compared, and written again for the hash (Authentication.cpp:415-417, 432-433). `string_value` asks for a NUL at the end
of the octets and stops at the first one.
-/

namespace PqsecDds.OpenDDS

open Lib Authentication

variable {α κ π ρ : Type} [Octet α] [DecidableEq α]
variable {env : Env α κ π ρ} {amb : Ambient α ρ} {s : Authentication α κ π}

/-- No NUL before the last octet. -/
def OneString (value : OctetSeq α) : Prop := Octet.byte 0 ∉ value.dropLast

theorem stringValue_zero (value : OctetSeq α) : Octet.byte 0 ∉ stringValue value := by
  rw [stringValue]
  split
  · intro h
    simpa using List.all_eq_true.1 List.all_takeWhile _ h
  · exact List.not_mem_nil

omit [DecidableEq α] in
theorem oneString_cStr {t : Str α} : OneString (cStr t) ↔ Octet.byte 0 ∉ t := by
  rw [OneString, cStr, List.dropLast_concat]

/-- Reading loses nothing exactly when there is one string in the octets. -/
theorem eq_cStr_stringValue (value : OctetSeq α) (h : stringValue value ≠ []) :
    value = cStr (stringValue value) ↔ OneString value := by
  constructor
  · intro heq
    rw [heq, oneString_cStr]
    exact stringValue_zero value
  · intro hone
    have hlast : value.getLast? = some (Octet.byte 0) := by
      by_contra hne
      rw [stringValue, if_neg hne] at h
      exact h rfl
    have hne : value ≠ [] := by
      rintro rfl
      cases hlast
    have hsplit : cStr value.dropLast = value := by
      rw [List.getLast?_eq_some_getLast hne] at hlast
      rw [cStr, ← Option.some.inj hlast, List.dropLast_append_getLast]
    have hread : stringValue value = value.dropLast := by
      conv_lhs => rw [← hsplit]
      exact stringValue_cStr hone
    rw [hread, hsplit]

theorem mldsaAlgorithm_ne_nil {t : Str α} (h : mldsaAlgorithm t = true) : t ≠ [] := by
  rintro rfl
  simp [mldsaAlgorithm, str, latin1] at h

theorem kemAlgorithm_ne_nil {t : Str α} (h : kemAlgorithm t = true) : t ≠ [] := by
  rintro rfl
  simp [kemAlgorithm, str, latin1] at h

/-! ## Two accepted tokens -/

/-- `hash_serialized` without collisions. -/
def HashInjective (env : Env α κ π ρ) : Prop :=
  ∀ ps qs hash, hashSerialized env ps = some hash → hashSerialized env qs = some hash → ps = qs

/-- The algorithm properties are the names and one NUL. -/
structure ExactNames (l : LocalIdentity α π) (t : Token α) (v : ValidatedCredentials α π) : Prop where
  signature : mldsaAlgorithm v.certificate.dsignAlgo = true ∧
    t.getBinPropertyValue "c.dsign_algo" = cStr v.certificate.dsignAlgo
  kem : t.getBinPropertyValue "c.kagree_algo" = cStr l.kemAlgorithm

/-- The credential properties that are read out of the two tokens are the same. -/
structure SameCredentials (t t' : Token α) : Prop where
  certificate : t.getBinPropertyValue "c.id" = t'.getBinPropertyValue "c.id"
  permissions : t.getBinPropertyValue "c.perm" = t'.getBinPropertyValue "c.perm"
  participantData : t.getBinPropertyValue "c.pdata" = t'.getBinPropertyValue "c.pdata"
  signatureAlgorithm : t.getBinPropertyValue "c.dsign_algo" = t'.getBinPropertyValue "c.dsign_algo"
  kemAlgorithm : t.getBinPropertyValue "c.kagree_algo" = t'.getBinPropertyValue "c.kagree_algo"

/-- The algorithm properties of the token hold one string each. -/
def OneStringEach (t : Token α) : Prop :=
  OneString (t.getBinPropertyValue "c.dsign_algo") ∧ OneString (t.getBinPropertyValue "c.kagree_algo")

variable {l : LocalIdentity α π} {r : RemoteIdentity α} {t t' : Token α} {v v' : ValidatedCredentials α π}

theorem exactNames_iff (hk : kemAlgorithm l.kemAlgorithm = true)
    (hv : validateRemoteCredentials env amb l r t = .ok v) : ExactNames l t v ↔ OneStringEach t := by
  obtain ⟨hml, hsig, hkem, -⟩ := validateRemoteCredentials_ok hv
  have hs := eq_cStr_stringValue (t.getBinPropertyValue "c.dsign_algo")
    (by rw [hsig]; exact mldsaAlgorithm_ne_nil hml)
  have hka := eq_cStr_stringValue (t.getBinPropertyValue "c.kagree_algo")
    (by rw [hkem]; exact kemAlgorithm_ne_nil hk)
  rw [hsig] at hs
  rw [hkem] at hka
  constructor
  · intro h
    exact ⟨hs.1 h.signature.2, hka.1 h.kem⟩
  · intro h
    exact ⟨⟨hml, hs.2 h.1⟩, hka.2 h.2⟩

theorem hashed_eq {amb' : Ambient α ρ} (hinj : HashInjective env)
    (hv : validateRemoteCredentials env amb l r t = .ok v) (hv' : validateRemoteCredentials env amb' l r t' = .ok v')
    (hhash : v.hash = v'.hash) :
    t.getBinPropertyValue "c.id" = t'.getBinPropertyValue "c.id" ∧
    t.getBinPropertyValue "c.perm" = t'.getBinPropertyValue "c.perm" ∧
    t.getBinPropertyValue "c.pdata" = t'.getBinPropertyValue "c.pdata" ∧
    v.certificate.dsignAlgo = v'.certificate.dsignAlgo := by
  obtain ⟨-, -, -, -, -, -, -, hperm, hh⟩ := validateRemoteCredentials_ok hv
  obtain ⟨-, -, -, -, -, -, -, hperm', hh'⟩ := validateRemoteCredentials_ok hv'
  rw [hhash] at hh
  have hps := hinj _ _ _ hh hh'
  rw [credentialProperties_inj, hperm, hperm'] at hps
  obtain ⟨hid, hp, hpd, hsig, -⟩ := hps
  exact ⟨hid, hp, hpd, hsig⟩

/-- **Credential hash.** Two tokens accepted with one hash agree on the certificate, the permissions and the
participant data. They agree on all five properties, with the algorithms written as they are hashed, exactly if no
algorithm property of theirs has a NUL before its end. -/
theorem credential_hash_covers {tr : Calls α κ π ρ} (hr : Run (plugin env).solo tr s) (hl : l ∈ s.localHeap)
    {amb' : Ambient α ρ} (hinj : HashInjective env) (hv : validateRemoteCredentials env amb l r t = .ok v)
    (hv' : validateRemoteCredentials env amb' l r t' = .ok v') (hhash : v.hash = v'.hash) :
    (t.getBinPropertyValue "c.id" = t'.getBinPropertyValue "c.id" ∧
      t.getBinPropertyValue "c.perm" = t'.getBinPropertyValue "c.perm" ∧
      t.getBinPropertyValue "c.pdata" = t'.getBinPropertyValue "c.pdata") ∧
    (SameCredentials t t' ∧ ExactNames l t v ∧ ExactNames l t' v' ↔ OneStringEach t ∧ OneStringEach t') := by
  obtain ⟨hid, hperm, hpd, hsig⟩ := hashed_eq hinj hv hv' hhash
  have hk : kemAlgorithm l.kemAlgorithm = true := (localIdentities_valid hr l hl).algorithm
  refine ⟨⟨hid, hperm, hpd⟩, ?_⟩
  rw [exactNames_iff hk hv, exactNames_iff hk hv']
  constructor
  · intro h
    exact h.2
  · intro h
    have hexact := (exactNames_iff hk hv).2 h.1
    have hexact' := (exactNames_iff hk hv').2 h.2
    refine ⟨⟨hid, hperm, hpd, ?_, ?_⟩, h⟩
    · rw [hexact.signature.2, hexact'.signature.2, hsig]
    · rw [hexact.kem, hexact'.kem]

/-! ### A second string in the property -/

def credentialsToken (signatureAlgorithm : OctetSeq Sym) : Token Sym where
  binaryProperties := [⟨str "c.id", [.base 2, .base 0]⟩, ⟨str "c.perm", []⟩, ⟨str "c.pdata", [.base 2]⟩,
    ⟨str "c.dsign_algo", signatureAlgorithm⟩, ⟨str "c.kagree_algo", cStr (str "X25519MLKEM768")⟩]

def exactToken : Token Sym := credentialsToken (cStr (str "ML-DSA-65"))

/-- `ML-DSA-65`, a NUL, an `x` and a NUL. -/
def paddedToken : Token Sym := credentialsToken (cStr (str "ML-DSA-65") ++ cStr (str "x"))

theorem sampleEnv_hashInjective : HashInjective sampleEnv := by
  intro ps qs hash hp hq
  obtain ⟨x, hx, hd⟩ := Option.bind_eq_some_iff.1 hp
  obtain ⟨y, hy, hd'⟩ := Option.bind_eq_some_iff.1 hq
  obtain rfl := symbolic_sha256_injective samplePlatform hd hd'
  exact symbolic_serialize_injective samplePlatform hx hy

/-- Participant 1 accepts both tokens from participant 2, with one hash. -/
theorem tokens_accepted : ∃ l r v v', l ∈ (acquainted 1 2).localHeap ∧
    validateRemoteCredentials sampleEnv (sampleAmbient 0) l r exactToken = .ok v ∧
    validateRemoteCredentials sampleEnv (sampleAmbient 0) l r paddedToken = .ok v' ∧ v.hash = v'.hash := by
  have hl : (acquainted 1 2).localHeap.length = 1 ∧ (acquainted 1 2).remoteHeap.length = 1 := by decide +kernel
  obtain ⟨l, hl'⟩ := List.length_eq_one_iff.1 hl.1
  obtain ⟨r, hr'⟩ := List.length_eq_one_iff.1 hl.2
  have hboth : ∀ l ∈ (acquainted 1 2).localHeap, ∀ r ∈ (acquainted 1 2).remoteHeap,
      ((validateRemoteCredentials sampleEnv (sampleAmbient 0) l r exactToken).toOption.map (·.hash)).isSome ∧
      (validateRemoteCredentials sampleEnv (sampleAmbient 0) l r exactToken).toOption.map (·.hash) =
        (validateRemoteCredentials sampleEnv (sampleAmbient 0) l r paddedToken).toOption.map (·.hash) := by
    decide +kernel
  obtain ⟨hsome, hsame⟩ := hboth l (by simp [hl']) r (by simp [hr'])
  cases hv : validateRemoteCredentials sampleEnv (sampleAmbient 0) l r exactToken with
  | error e => simp [hv, Except.toOption] at hsome
  | ok v =>
    cases hv' : validateRemoteCredentials sampleEnv (sampleAmbient 0) l r paddedToken with
    | error e => simp [hv, hv', Except.toOption] at hsame
    | ok v' =>
      refine ⟨l, r, v, v', by simp [hl'], hv, hv', ?_⟩
      simpa [hv, hv', Except.toOption] using hsame

/-- The two tokens agree on what is hashed as it came, and no further. -/
theorem credential_hash_covers_sample : ∃ (l : LocalIdentity Sym Nat) (v v' : ValidatedCredentials Sym Nat),
    (exactToken.getBinPropertyValue "c.id" = paddedToken.getBinPropertyValue "c.id" ∧
      exactToken.getBinPropertyValue "c.perm" = paddedToken.getBinPropertyValue "c.perm" ∧
      exactToken.getBinPropertyValue "c.pdata" = paddedToken.getBinPropertyValue "c.pdata") ∧
    (SameCredentials exactToken paddedToken ∧ ExactNames l exactToken v ∧ ExactNames l paddedToken v' ↔
      OneStringEach exactToken ∧ OneStringEach paddedToken) := by
  obtain ⟨l, r, v, v', hl, hv, hv', hhash⟩ := tokens_accepted
  exact ⟨l, v, v', credential_hash_covers (acquainted_run 1 2) hl sampleEnv_hashInjective hv hv' hhash⟩

theorem credential_hash_covers_fails : HashInjective sampleEnv ∧ ∃ tr s l r v v',
    Run (plugin sampleEnv).solo tr s ∧ l ∈ s.localHeap ∧
    validateRemoteCredentials sampleEnv (sampleAmbient 0) l r exactToken = .ok v ∧
    validateRemoteCredentials sampleEnv (sampleAmbient 0) l r paddedToken = .ok v' ∧ v.hash = v'.hash ∧
    exactToken.getBinPropertyValue "c.dsign_algo" ≠ paddedToken.getBinPropertyValue "c.dsign_algo" := by
  obtain ⟨l, r, v, v', hl, hv, hv', hhash⟩ := tokens_accepted
  exact ⟨sampleEnv_hashInjective, _, _, l, r, v, v', acquainted_run 1 2, hl, hv, hv', hhash, by decide +kernel⟩

end PqsecDds.OpenDDS
