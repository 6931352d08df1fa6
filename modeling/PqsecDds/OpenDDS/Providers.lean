import PqsecDds.OpenDDS.Symbolic

/-!
# The fallback provider after any history

`ProviderFallback` keeps one provider. `ensure_algorithm` (Crypto.cpp:22-42) loads the provider it is given only while
it keeps none, so the first provider that some call loads is the only one there will be (`afterCalls_eq`). A later call
that names another one is answered by what the first exposes.
-/

namespace PqsecDds.OpenDDS

variable {α κ π ρ : Type} [Octet α]

/-- A call of `ensure_algorithm`. -/
structure FallbackCall (α ρ : Type) where
  amb : Ambient α ρ
  algorithm : Str α
  provider : Str α

variable (env : Env α κ π ρ)

/-- The fallback after calls of `ensure_algorithm` since the plugin was made. -/
def afterCalls (calls : List (FallbackCall α ρ)) : ProviderFallback α :=
  calls.foldl (fun s call => (s.ensureAlgorithm env call.amb call.algorithm call.provider).2)
    { loaded := env.initialProviders }

/-- The call would load its provider, were it the first. -/
def FallbackCall.loads (call : FallbackCall α ρ) : Bool :=
  !opensslSupports env env.initialProviders call.algorithm && call.provider ≠ [] && env.loadable call.provider

/-- The provider that was loaded first. -/
def firstLoaded (calls : List (FallbackCall α ρ)) : Option (Str α) := (calls.find? (·.loads env)).map (·.provider)

/-- A call with those names succeeds exactly if the algorithm is exposed, by a loaded provider or by the named one. -/
def Serves (calls : List (FallbackCall α ρ)) (amb : Ambient α ρ) (algorithm provider : Str α) : Prop :=
  ((afterCalls env calls).ensureAlgorithm env amb algorithm provider).1 = .ok () ↔
    opensslSupports env (afterCalls env calls).loaded algorithm = true ∨
      (env.loadable provider = true ∧ env.exposes provider algorithm = true)

variable {env} {s : ProviderFallback α} {amb : Ambient α ρ} {algorithm provider q : Str α}

omit [Octet α] in
theorem opensslSupports_append {loaded : List (Str α)} :
    opensslSupports env (loaded ++ [provider]) algorithm =
      (opensslSupports env loaded algorithm || env.exposes provider algorithm) := by
  simp [opensslSupports]

/-! ## One call -/

/-- With a provider, nothing is loaded any more. -/
theorem ensureAlgorithm_of_some (hs : s.provider = some q) :
    s.ensureAlgorithm env amb algorithm provider =
      (if opensslSupports env s.loaded algorithm then .ok ()
        else if provider = [] then
          .error (str "OpenSSL does not expose " ++ algorithm ++ str " and no fallback provider is configured")
        else .error (str "OpenSSL provider " ++ provider ++ str " does not expose " ++ algorithm), s) := by
  unfold ProviderFallback.ensureAlgorithm
  by_cases hsup : opensslSupports env s.loaded algorithm = true
  · simp [hsup]
  · by_cases hp : provider = []
    · simp [hsup, hp]
    · simp [hsup, hp, hs]

/-- Without one, the named provider is tried if the algorithm is missing. -/
theorem ensureAlgorithm_of_none (hs : s.provider = none) :
    (s.ensureAlgorithm env amb algorithm provider).2 =
      if !opensslSupports env s.loaded algorithm && provider ≠ [] && env.loadable provider then
        { loaded := s.loaded ++ [provider], provider := some provider } else s := by
  unfold ProviderFallback.ensureAlgorithm
  by_cases hsup : opensslSupports env s.loaded algorithm = true
  · simp [hsup]
  · by_cases hp : provider = []
    · simp [hsup, hp]
    · have hcond : (!opensslSupports env s.loaded algorithm && provider ≠ [] && env.loadable provider) =
          env.loadable provider := by simp [hsup, hp]
      rw [hcond, if_neg hsup, if_neg hp, hs]
      simp only [Option.isNone_none, Bool.true_and]
      by_cases hload : env.loadable provider = true
      · rw [if_pos hload]
        simp only [Option.isNone_some, Bool.false_eq_true, if_false]
        split <;> rfl
      · rw [if_neg hload, hs]
        rfl

theorem ensureAlgorithm_ok_of_some (hs : s.provider = some q) :
    (s.ensureAlgorithm env amb algorithm provider).1 = .ok () ↔ opensslSupports env s.loaded algorithm = true := by
  rw [ensureAlgorithm_of_some hs]
  by_cases hsup : opensslSupports env s.loaded algorithm = true
  · simp [hsup]
  · by_cases hp : provider = []
    · simp [hsup, hp]
    · simp [hsup, hp]

theorem ensureAlgorithm_ok_of_none (hs : s.provider = none) (hp : provider ≠ []) :
    (s.ensureAlgorithm env amb algorithm provider).1 = .ok () ↔ opensslSupports env s.loaded algorithm = true ∨
      (env.loadable provider = true ∧ env.exposes provider algorithm = true) := by
  unfold ProviderFallback.ensureAlgorithm
  by_cases hsup : opensslSupports env s.loaded algorithm = true
  · simp [hsup]
  · by_cases hload : env.loadable provider = true
    · by_cases hex : env.exposes provider algorithm = true
      · simp [hsup, hp, hs, hload, hex, opensslSupports_append]
      · simp [hsup, hp, hs, hload, hex, opensslSupports_append]
    · simp [hsup, hp, hs, hload]

/-! ## Any number of calls -/

theorem foldl_of_some (calls : List (FallbackCall α ρ)) (hs : s.provider = some q) :
    calls.foldl (fun s call => (s.ensureAlgorithm env call.amb call.algorithm call.provider).2) s = s := by
  induction calls with
  | nil => rfl
  | cons call calls ih =>
    rw [List.foldl_cons, ensureAlgorithm_of_some hs]
    exact ih

/-- The first provider that is loaded stays. -/
theorem afterCalls_eq (calls : List (FallbackCall α ρ)) :
    afterCalls env calls =
      { loaded := env.initialProviders ++ (firstLoaded env calls).toList, provider := firstLoaded env calls } := by
  unfold afterCalls firstLoaded
  induction calls with
  | nil => simp
  | cons call calls ih =>
    rw [List.foldl_cons, ensureAlgorithm_of_none rfl]
    by_cases hload : call.loads env = true
    · have hcond := hload
      unfold FallbackCall.loads at hcond
      rw [if_pos hcond, foldl_of_some calls rfl, List.find?_cons_of_pos hload]
      rfl
    · have hcond := hload
      unfold FallbackCall.loads at hcond
      rw [if_neg hcond, List.find?_cons_of_neg hload]
      exact ih

/-- **The fallback provider** serves a call that names a provider exactly if no earlier call loaded one, or the
algorithm is exposed by a loaded provider, or the named one would not help. -/
theorem provider_fallback_serves_iff (env : Env α κ π ρ) (calls : List (FallbackCall α ρ)) (amb : Ambient α ρ)
    (algorithm provider : Str α) (hp : provider ≠ []) :
    Serves env calls amb algorithm provider ↔
      firstLoaded env calls = none ∨
        opensslSupports env (env.initialProviders ++ (firstLoaded env calls).toList) algorithm = true ∨
        ¬ (env.loadable provider = true ∧ env.exposes provider algorithm = true) := by
  have hafter : afterCalls env calls = _ := afterCalls_eq calls
  have hloaded : (afterCalls env calls).loaded = env.initialProviders ++ (firstLoaded env calls).toList := by rw [hafter]
  have hprovider : (afterCalls env calls).provider = firstLoaded env calls := by rw [hafter]
  unfold Serves
  rw [← hloaded]
  rcases hfirst : firstLoaded env calls with _ | q
  · rw [ensureAlgorithm_ok_of_none (hprovider.trans hfirst) hp]
    simp only [true_or, iff_self]
  · rw [ensureAlgorithm_ok_of_some (hprovider.trans hfirst)]
    by_cases hsup : opensslSupports env (afterCalls env calls).loaded algorithm = true
    · simp only [hsup, true_or, or_true, iff_self]
    · simp only [hsup, false_or, false_iff, reduceCtorEq]

/-! ## Two participants with different providers -/

/-- Each of two loadable providers exposes a KEM of its own. -/
def twoProviders : Platform Sym Nat :=
  { samplePlatform with
    loadable := fun provider => provider = str "oqsprovider" || provider = str "other"
    exposes := fun provider algorithm => (provider = str "oqsprovider" && algorithm = str "FrodoKEM-640-SHAKE") ||
      (provider = str "other" && algorithm = str "HQC-128") }

def quietAmbient : Ambient Sym Nat := { now := 0, nonceSeed := 0, keySeed := 0, encapSeed := 0, signSeed := 0 }

theorem provider_fallback_serves_sample :
    Serves (symbolic twoProviders) [] quietAmbient (str "HQC-128") (str "other") :=
  (provider_fallback_serves_iff (symbolic twoProviders) [] quietAmbient (str "HQC-128") (str "other") (by decide)).2
    (.inl rfl)

/-- After `oqsprovider` was loaded for one participant, `other` is not loaded for the next. -/
theorem provider_fallback_fails :
    ¬ Serves (symbolic twoProviders) [⟨quietAmbient, str "FrodoKEM-640-SHAKE", str "oqsprovider"⟩] quietAmbient
      (str "HQC-128") (str "other") := by
  unfold Serves
  decide +kernel

end PqsecDds.OpenDDS
