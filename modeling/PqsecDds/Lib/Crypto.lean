import Mathlib.Tactic.TypeStar

/-!
# Idealised primitives

Key encapsulation and signatures as partial functions on byte strings `β`. Randomness is an argument
(`ρ`), so a call is a function and two calls that use different randomness are different calls.
`none` is a failure of the implementation.
-/

namespace PqsecDds.Lib

/-- A key encapsulation mechanism. A key is private or only public; both kinds have type `κ`. There may
be several ways to import an encoded public key, hence the relation. -/
structure KEM (κ ρ β : Type*) where
  generate : ρ → Option κ
  publicKey : κ → Option β
  imports : β → κ → Prop
  encapsulate : κ → ρ → Option (β × β)
  decapsulate : κ → β → Option β

namespace KEM

variable {κ ρ β : Type*}

/-- Decapsulation with a generated key undoes encapsulation to its exported public half. -/
def Correct (K : KEM κ ρ β) : Prop :=
  ∀ ⦃seed sk pk pub r ct ss⦄, K.generate seed = some sk → K.publicKey sk = some pk →
    K.imports pk pub → K.encapsulate pub r = some (ct, ss) → K.decapsulate sk ct = some ss

/-- `ct` and `ss` come from one encapsulation to the public key `pk`. -/
def Encapsulated (K : KEM κ ρ β) (pk : β) (r : ρ) (ct ss : β) : Prop :=
  ∃ pub, K.imports pk pub ∧ K.encapsulate pub r = some (ct, ss)

/-- `pk` is the public half of a key generated from `seed` with which `ct` decapsulates to `ss`. -/
def Decapsulated (K : KEM κ ρ β) (seed : ρ) (pk ct ss : β) : Prop :=
  ∃ sk, K.generate seed = some sk ∧ K.publicKey sk = some pk ∧ K.decapsulate sk ct = some ss

/-- The two ends of one encapsulation hold the same secret. -/
theorem Correct.agree {K : KEM κ ρ β} (hK : K.Correct) {seed r : ρ} {pk ct ss ss' : β}
    (henc : K.Encapsulated pk r ct ss) (hdec : K.Decapsulated seed pk ct ss') : ss' = ss := by
  obtain ⟨pub, himp, henc⟩ := henc
  obtain ⟨sk, hgen, hpk, hdec⟩ := hdec
  have h := hK hgen hpk himp henc
  rw [hdec] at h
  exact Option.some.inj h

end KEM

/-- No data verifies under an honest key unless that key has signed it. -/
def Unforged {κ β : Type*} (honest : κ → Prop) (signed : κ → β → Prop) (verify : κ → β → Bool) :
    Prop :=
  ∀ k m, honest k → verify k m = true → signed k m

end PqsecDds.Lib
