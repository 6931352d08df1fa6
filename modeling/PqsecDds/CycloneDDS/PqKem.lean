import PqsecDds.CycloneDDS.AuthAlgs

/-!
# The KEM wrapper (`pq_kem.c`)

An out parameter that a function may leave alone is passed in and returned with the result. A null pointer
is `none`.
-/

namespace PqsecDds.CycloneDDS

variable {κ ρ : Type}

/-- `pqsec_kem_keypair` -/
structure KemKeypair (κ : Type) where
  kind : AuthAlgoKind
  key : κ
  publicKey : Octets
  deriving DecidableEq

/-- pq_kem.c:14-17. -/
def newKeygenContext (env : Env κ ρ) (kind : AuthAlgoKind) : Option CStr :=
  match getKemOpensslNameByKind kind with
  | none => none
  | some name => if name.isEmpty || !env.contextNew (str name) then none else some (str name)

/-- pq_kem.c:19-30: the encoded form, else the raw form. -/
def exportPublicKey (env : Env κ ρ) (key : κ) : Option Octets :=
  if env.encodedPublicKey key ≠ [] then some (env.encodedPublicKey key)
  else match env.rawPublicKeySize key with
    | none => none
    | some size => if size = 0 then none else env.rawPublicKey key

/-- pq_kem.c:32-50: a raw import is the second attempt. -/
def importPublicKey (env : Env κ ρ) (name : CStr) (publicKey : Octets) : Option κ :=
  (if env.contextNew name then env.fromData name publicKey else none).or (env.newRawPublicKey name publicKey)

/-- pq_kem.c:79-107. -/
def pqsecKemKeypairGenerate (env : Env κ ρ) (kind : AuthAlgoKind) (seed : ρ) : Option (KemKeypair κ) := do
  let name ← newKeygenContext env kind
  let key ← env.generate name seed
  let publicKey ← exportPublicKey env key
  return ⟨kind, key, publicKey⟩

/-- pq_kem.c:109-154: success, ciphertext and secret. -/
def pqsecKemEncapsulate (env : Env κ ρ) (kind : AuthAlgoKind) (publicKey : Octets) (seed : ρ)
    (out : Option Octets × Option Octets) : Bool × Option Octets × Option Octets :=
  match getKemOpensslNameByKind kind with
  | none => (false, out)
  | some name =>
    if publicKey.isEmpty then (false, out)
    else match importPublicKey env (str name) publicKey with
      | none => (false, none, none)
      | some remoteKey =>
        let (ciphertextSize, secretSize) := (env.encapsulateSizes remoteKey).getD (0, 0)
        -- allocating nothing gives a null pointer
        if ciphertextSize = 0 || secretSize = 0 then (false, none, none)
        else match env.encapsulate remoteKey seed with
          | none => (false, none, none)
          | some (ciphertext, secret) => (true, some ciphertext, some secret)

/-- pq_kem.c:156-188: success and secret. -/
def pqsecKemDecapsulate (env : Env κ ρ) (keypair : Option (KemKeypair κ)) (ciphertext : Octets)
    (out : Option Octets) : Bool × Option Octets :=
  match keypair with
  | none => (false, out)
  | some keypair =>
    if ciphertext.isEmpty then (false, out)
    else if (env.decapsulateSize keypair.key ciphertext).getD 0 = 0 then (false, none)
    else match env.decapsulate keypair.key ciphertext with
      | none => (false, none)
      | some secret => (true, some secret)

/-- The KEM of a kind, as the wrapper uses it. -/
def Env.kem (env : Env κ ρ) (kind : AuthAlgoKind) : Lib.KEM κ ρ Octets where
  generate seed := (newKeygenContext env kind).bind (env.generate · seed)
  publicKey := exportPublicKey env
  imports pk key := ∃ name, getKemOpensslNameByKind kind = some name ∧
    importPublicKey env (str name) pk = some key
  encapsulate := env.encapsulate
  decapsulate := env.decapsulate

/-! ## What the calls establish -/

variable {env : Env κ ρ} {kind : AuthAlgoKind} {seed : ρ}

/-- `keypair` was generated for its kind, with this draw. -/
def KemKeypair.Generated (env : Env κ ρ) (keypair : KemKeypair κ) (seed : ρ) : Prop :=
  (env.kem keypair.kind).generate seed = some keypair.key ∧
    exportPublicKey env keypair.key = some keypair.publicKey

theorem pqsecKemKeypairGenerate_some {keypair : KemKeypair κ}
    (h : pqsecKemKeypairGenerate env kind seed = some keypair) :
    keypair.kind = kind ∧ keypair.Generated env seed := by
  simp only [pqsecKemKeypairGenerate, Option.bind_eq_bind, Option.bind_eq_some_iff, Option.pure_def,
    Option.some.injEq] at h
  obtain ⟨name, hname, key, hkey, pk, hpk, rfl⟩ := h
  refine ⟨rfl, ?_, hpk⟩
  simp [Env.kem, hname, hkey]

theorem pqsecKemEncapsulate_true {pk : Octets} {out out' : Option Octets × Option Octets}
    (h : pqsecKemEncapsulate env kind pk seed out = (true, out')) :
    ∃ ct ss, out' = (some ct, some ss) ∧ (env.kem kind).Encapsulated pk seed ct ss := by
  simp only [pqsecKemEncapsulate] at h
  split at h
  · simp at h
  · rename_i name hname
    split at h
    · simp at h
    · split at h
      · simp at h
      · rename_i key hkey
        split at h
        · simp at h
        · split at h
          · simp at h
          · rename_i ct ss henc
            simp only [Prod.mk.injEq, true_and] at h
            exact ⟨ct, ss, h.symm, key, ⟨name, hname, hkey⟩, henc⟩

theorem pqsecKemDecapsulate_true {keypair : Option (KemKeypair κ)} {ct : Octets} {out out' : Option Octets}
    (h : pqsecKemDecapsulate env keypair ct out = (true, out')) :
    ∃ kp ss, keypair = some kp ∧ out' = some ss ∧ env.decapsulate kp.key ct = some ss := by
  simp only [pqsecKemDecapsulate] at h
  split at h
  · simp at h
  · rename_i kp
    split at h
    · simp at h
    · split at h
      · simp at h
      · split at h
        · simp at h
        · rename_i ss hss
          simp only [Prod.mk.injEq, true_and] at h
          exact ⟨kp, ss, rfl, h.symm, hss⟩

/-- Encapsulating to the public half of a generated key pair and decapsulating with it give one secret. -/
theorem KemKeypair.agree (hK : (env.kem kind).Correct) {keypair : KemKeypair κ} {r : ρ} {ct ss ss' : Octets}
    (hgen : keypair.Generated env seed) (hkind : keypair.kind = kind)
    (henc : (env.kem kind).Encapsulated keypair.publicKey r ct ss)
    (hdec : env.decapsulate keypair.key ct = some ss') : ss' = ss := by
  obtain ⟨hg, hpk⟩ := hgen
  rw [hkind] at hg
  exact hK.agree henc ⟨keypair.key, hg, hpk, hdec⟩

end PqsecDds.CycloneDDS
