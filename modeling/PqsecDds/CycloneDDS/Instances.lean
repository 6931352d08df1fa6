import PqsecDds.CycloneDDS.Ideal
import PqsecDds.CycloneDDS.KeyMaterial
import PqsecDds.Lib.Leases

/-!
# The instances of the plugin in a process

| here | there |
|---|---|
| `getDefaultKemAlgorithmKind` | auth_algs.c:132-135 |
| `pqsecKemIsAvailable` | pq_kem.c:52-60 |
| `ensureSelectedKemAvailable` | authentication.c:185-224 |
| `Process.initAuthentication` | authentication.c:3778-3852 |
| `Process.finalizeAuthentication` | authentication.c:3854-3901 |

Each participant of a process has an instance of its own; OpenSSL and the providers it has loaded are shared. An instance
that does not find the KEM loads a provider, with a reference that it gives back when it is finalized. An instance that
finds the KEM takes no reference, also when it is the provider of another instance that exposes the KEM.
-/

namespace PqsecDds.CycloneDDS

open Lib

variable {κ ρ : Type}

/-- The kind of the KEM that is selected at compile time, by its configuration name. -/
def getDefaultKemAlgorithmKind (selected : String) : AuthAlgoKind :=
  match kemAlgorithms.find? (·.configurationName = selected) with
  | some info => info.kind
  | none => .unknown

def pqsecKemIsAvailable (env : Env κ ρ) (kind : AuthAlgoKind) : Bool := (newKeygenContext env kind).isSome

/-- How the plugin was built, and OpenSSL with its providers. -/
structure Platform (κ ρ : Type) where
  /-- `SELECTED_KEM_ALGORITHM` -/
  selectedKemAlgorithm : String
  /-- `PQSEC_FALLBACK_PROVIDER` -/
  fallbackProvider : CStr
  /-- `OSSL_PROVIDER_try_load` succeeds -/
  loadable : CStr → Bool
  /-- what OpenSSL exposes by itself -/
  native : CStr → Bool
  /-- what a provider exposes -/
  exposes : CStr → CStr → Bool
  /-- OpenSSL with these references to providers -/
  env : List CStr → Env κ ρ
  contextNew : ∀ loads name, (env loads).contextNew name = (native name || loads.any (exposes · name))

/-- `fallback_provider` beside the rest of `dds_security_authentication_impl` -/
structure Instance (κ : Type) where
  authentication : Authentication κ
  fallbackProvider : Option CStr := none

structure Process (κ : Type) where
  /-- the references to providers that were not given back -/
  loads : List CStr := []
  /-- by their addresses -/
  instances : AList fun _ : Nat => Instance κ := ∅

variable (platform : Platform κ ρ)

namespace Platform

def kem : AuthAlgoKind := getDefaultKemAlgorithmKind platform.selectedKemAlgorithm

/-- The selected KEM can be used while these references are out. -/
def kemAvailable (loads : List CStr) : Bool := pqsecKemIsAvailable (platform.env loads) platform.kem

/-- The provider that is tried: the one that the environment variable names, else the one of the build. -/
def providerName (environment : Option CStr) : CStr :=
  match environment with
  | some name => if name = [] then platform.fallbackProvider else name
  | none => platform.fallbackProvider

end Platform

/-- Success, the provider that was loaded, and the references afterwards. -/
def ensureSelectedKemAvailable (environment : Option CStr) (loads : List CStr) : Bool × Option CStr × List CStr :=
  if platform.kem = .unknown then (false, none, loads)
  else if platform.kemAvailable loads then (true, none, loads)
  else
    let name := platform.providerName environment
    if name = [] then (false, none, loads)
    else if !platform.loadable name then (false, none, loads)
    else if !platform.kemAvailable (name :: loads) then (false, none, (name :: loads).erase name)
    else (true, some name, name :: loads)

namespace Process

/-- The instance gets the address `i`. -/
def initAuthentication (i : Nat) (environment : Option CStr) (includeOptional : Bool) (p : Process κ) : Bool × Process κ :=
  match ensureSelectedKemAvailable platform environment p.loads with
  | (false, _, loads) => (false, { p with loads })
  | (true, fallbackProvider, loads) =>
    let inst : Instance κ := { authentication := { includeOptional, kem := platform.kem }, fallbackProvider }
    (true, { loads, instances := p.instances.insert i inst })

/-- A call of the plugin, while OpenSSL is as it is then. -/
def call (i : Nat) (op : Op) (amb : Ambient ρ) (p : Process κ) : Process κ :=
  match p.instances.lookup i with
  | none => p
  | some inst =>
    let authentication := (exec (platform.env p.loads) inst.authentication (op, amb)).1
    { p with instances := p.instances.insert i { inst with authentication } }

/-- The provider is unloaded; the instance and its objects are freed. -/
def finalizeAuthentication (i : Nat) (p : Process κ) : Process κ :=
  match p.instances.lookup i with
  | none => p
  | some inst => { loads := release inst.fallbackProvider p.loads, instances := p.instances.erase i }

end Process

inductive ProcessOp (ρ : Type) where
  | init (i : Nat) (environment : Option CStr) (includeOptional : Bool)
  | call (i : Nat) (op : Op) (amb : Ambient ρ)
  | finalize (i : Nat)

def ProcessOp.perform : ProcessOp ρ → Process κ → Process κ
  | .init i environment includeOptional, p =>
    -- the allocator hands out what is not in use
    if i ∈ p.instances then p else (p.initAuthentication platform i environment includeOptional).2
  | .call i op amb, p => p.call platform i op amb
  | .finalize i, p => p.finalizeAuthentication i

/-- A call of the plugin has to return. -/
def ProcessOp.Defined : ProcessOp ρ → Process κ → Prop
  | .call i op amb, p =>
    ∀ inst, p.instances.lookup i = some inst → CycloneDDS.Defined (platform.env p.loads) inst.authentication (op, amb)
  | _, _ => True

/-- A process, from before its first instance on. -/
def process : System (Process κ) (ProcessOp ρ) where
  init p := p = {}
  step p op p' := op.Defined platform p ∧ p' = op.perform platform p

variable {platform} {p : Process κ} {loads : List CStr} {q : CStr} {i : Nat} {inst : Instance κ} {environment : Option CStr}
variable {tr : Trace (Process κ) (ProcessOp ρ)}

/-! ## Whether the KEM can be used -/

theorem kemAvailable_eq (platform : Platform κ ρ) (loads : List CStr) : platform.kemAvailable loads =
    match getKemOpensslNameByKind platform.kem with
    | none => false
    | some name => !name.isEmpty && (platform.native (str name) || loads.any (platform.exposes · (str name))) := by
  unfold Platform.kemAvailable pqsecKemIsAvailable newKeygenContext
  rcases getKemOpensslNameByKind platform.kem with _ | name
  · rfl
  · simp only [platform.contextNew]
    cases name.isEmpty <;> cases (platform.native (str name) || loads.any (platform.exposes · (str name))) <;> rfl

/-- It is there by itself, or one of the references exposes it. -/
theorem kemAvailable_iff (platform : Platform κ ρ) (loads : List CStr) : platform.kemAvailable loads = true ↔
    platform.kemAvailable [] = true ∨ ∃ q ∈ loads, platform.kemAvailable [q] = true := by
  simp only [kemAvailable_eq]
  rcases getKemOpensslNameByKind platform.kem with _ | name
  · simp
  · simp only [Bool.and_eq_true, Bool.or_eq_true, List.any_eq_true, List.not_mem_nil, false_and, exists_false, or_false,
      List.mem_singleton, exists_eq_left]
    grind

/-- A provider that makes the difference exposes the KEM. -/
theorem kemAvailable_cons (hno : platform.kemAvailable loads = false) (hyes : platform.kemAvailable (q :: loads) = true) :
    platform.kemAvailable [q] = true := by
  have hnot : ¬ platform.kemAvailable loads = true := by
    rw [hno]
    exact Bool.false_ne_true
  rw [kemAvailable_iff] at hnot
  rcases (kemAvailable_iff platform (q :: loads)).1 hyes with hnative | ⟨q', hmem, hq'⟩
  · exact absurd (.inl hnative) hnot
  · rcases List.mem_cons.1 hmem with rfl | hmem
    · exact hq'
    · exact absurd (.inr ⟨q', hmem, hq'⟩) hnot

/-- The provider can be loaded and exposes the KEM. -/
def Platform.Serves (platform : Platform κ ρ) (q : CStr) : Prop :=
  q ≠ [] ∧ platform.loadable q = true ∧ platform.kemAvailable [q] = true

instance : Decidable (platform.Serves q) := inferInstanceAs (Decidable (_ ∧ _ ∧ _))

/-! ## One step -/

theorem kemAvailable_known (h : platform.kemAvailable loads = true) : platform.kem ≠ .unknown := by
  intro hkind
  rw [kemAvailable_eq, hkind] at h
  cases h

/-- A provider is loaded only for want of the KEM, and kept only if it helps. -/
theorem ensureSelectedKemAvailable_eq (platform : Platform κ ρ) (environment : Option CStr) (loads : List CStr) :
    ensureSelectedKemAvailable platform environment loads =
      if platform.kemAvailable loads = true then (true, none, loads)
      else if platform.Serves (platform.providerName environment) then
        (true, some (platform.providerName environment), platform.providerName environment :: loads)
      else (false, none, loads) := by
  unfold ensureSelectedKemAvailable
  generalize platform.providerName environment = name
  by_cases hnow : platform.kemAvailable loads = true
  · rw [if_neg (kemAvailable_known hnow), if_pos hnow, if_pos hnow]
  rw [if_neg hnow, if_neg hnow]
  by_cases hserves : platform.Serves name
  · rw [if_pos hserves]
    obtain ⟨hname, hload, hexposes⟩ := hserves
    have hthen : platform.kemAvailable (name :: loads) = true :=
      (kemAvailable_iff platform _).2 (.inr ⟨name, List.mem_cons_self, hexposes⟩)
    rw [if_neg (kemAvailable_known hexposes)]
    simp [hname, hload, hthen]
  · rw [if_neg hserves]
    by_cases hkind : platform.kem = .unknown
    · rw [if_pos hkind]
    rw [if_neg hkind]
    by_cases hname : name = []
    · exact if_pos hname
    by_cases hload : platform.loadable name = true
    · have hno : platform.kemAvailable loads = false := by simpa using hnow
      have hthen : platform.kemAvailable (name :: loads) = false := by
        by_contra hyes
        exact hserves ⟨hname, hload, kemAvailable_cons hno (by simpa using hyes)⟩
      simp [hname, hload, hthen]
    · simp [hname, hload]

/-- Everything `init_authentication` can do. -/
theorem initAuthentication_cases (platform : Platform κ ρ) (p : Process κ) (i : Nat) (environment : Option CStr)
    (optional : Bool) : ∃ fallbackProvider : Option CStr,
      (p.initAuthentication platform i environment optional = (true, ⟨acquire fallbackProvider p.loads,
          p.instances.insert i ⟨{ includeOptional := optional, kem := platform.kem }, fallbackProvider⟩⟩) ∧
        ((platform.kemAvailable p.loads = true ∧ fallbackProvider = none) ∨
          platform.Serves (platform.providerName environment) ∧
            fallbackProvider = some (platform.providerName environment))) ∨
      (p.initAuthentication platform i environment optional = (false, p) ∧ ¬ platform.kemAvailable p.loads = true ∧
        ¬ platform.Serves (platform.providerName environment)) := by
  unfold Process.initAuthentication
  rw [ensureSelectedKemAvailable_eq]
  by_cases hnow : platform.kemAvailable p.loads = true
  · rw [if_pos hnow]
    exact ⟨none, .inl ⟨rfl, .inl ⟨hnow, rfl⟩⟩⟩
  rw [if_neg hnow]
  by_cases hserves : platform.Serves (platform.providerName environment)
  · rw [if_pos hserves]
    exact ⟨some (platform.providerName environment), .inl ⟨rfl, .inr ⟨hserves, rfl⟩⟩⟩
  · rw [if_neg hserves]
    exact ⟨none, .inr ⟨rfl, hnow, hserves⟩⟩

/-- What the instances and the references have to do with each other. -/
structure Provided (platform : Platform κ ρ) (p : Process κ) : Prop where
  balanced : Balanced Instance.fallbackProvider p.loads p.instances
  exposing : ∀ i inst q, p.instances.lookup i = some inst → inst.fallbackProvider = some q →
    platform.kemAvailable [q] = true
  kem : ∀ i inst, p.instances.lookup i = some inst → inst.authentication.kem = platform.kem
  kagree : ∀ i inst, p.instances.lookup i = some inst → ∀ l identity, inst.authentication.localIdentity l = some identity →
    identity.kagreeAlgoKind = platform.kem

theorem lookup_insert_cases {i' : Nat} {inst' : Instance κ} {instances : AList fun _ : Nat => Instance κ}
    (h : (instances.insert i inst).lookup i' = some inst') : inst' = inst ∨ instances.lookup i' = some inst' := by
  by_cases hi : i' = i
  · subst hi
    rw [AList.lookup_insert] at h
    exact .inl (Option.some.inj h).symm
  · rw [AList.lookup_insert_ne hi] at h
    exact .inr h

theorem lookup_of_erase {i' : Nat} {inst' : Instance κ} {instances : AList fun _ : Nat => Instance κ}
    (h : (instances.erase i).lookup i' = some inst') : instances.lookup i' = some inst' := by
  by_cases hi : i' = i
  · subst hi
    rw [AList.lookup_erase] at h
    cases h
  · rwa [AList.lookup_erase_ne hi] at h

theorem Provided.init (hp : Provided platform p) (hi : i ∉ p.instances) (environment : Option CStr) (optional : Bool) :
    Provided platform (p.initAuthentication platform i environment optional).2 := by
  have hfree : p.instances.lookup i = none := AList.lookup_eq_none.2 hi
  have hnew : ∀ fallbackProvider : Option CStr, (∀ q, fallbackProvider = some q → platform.kemAvailable [q] = true) →
      Provided platform ⟨acquire fallbackProvider p.loads,
        p.instances.insert i ⟨{ includeOptional := optional, kem := platform.kem }, fallbackProvider⟩⟩ := by
    intro fallbackProvider hexposing
    have hbalanced := hp.balanced.opened (b := ⟨{ includeOptional := optional, kem := platform.kem }, fallbackProvider⟩) hfree
    refine ⟨hbalanced, fun i' inst q hinst hq => ?_, fun i' inst hinst => ?_, fun i' inst hinst l identity hl => ?_⟩
    · rcases lookup_insert_cases hinst with rfl | hold
      · exact hexposing q hq
      · exact hp.exposing i' inst q hold hq
    · rcases lookup_insert_cases hinst with rfl | hold
      · rfl
      · exact hp.kem i' inst hold
    · rcases lookup_insert_cases hinst with rfl | hold
      · cases hl
      · exact hp.kagree i' inst hold l identity hl
  obtain ⟨fallbackProvider, ⟨heq, ⟨-, rfl⟩ | ⟨⟨-, -, hexposes⟩, rfl⟩⟩ | ⟨heq, -⟩⟩ :=
    initAuthentication_cases platform p i environment optional
  · rw [heq]
    exact hnew none fun q hq => nomatch hq
  · rw [heq]
    exact hnew (some (platform.providerName environment)) fun q hq => Option.some.inj hq ▸ hexposes
  · rw [heq]
    exact hp

theorem Provided.call (hp : Provided platform p) (i : Nat) (op : Op) (amb : Ambient ρ) :
    Provided platform (p.call platform i op amb) := by
  unfold Process.call
  rcases hinst : p.instances.lookup i with _ | inst
  · exact hp
  have he : Effect (platform.env p.loads) amb inst.authentication op _ := exec_effect inst.authentication op amb
  refine ⟨hp.balanced.changed hinst rfl, fun i' inst' q hinst' hq => ?_, fun i' inst' hinst' => ?_,
    fun i' inst' hinst' l identity hl => ?_⟩
  · rcases lookup_insert_cases hinst' with rfl | hold
    · exact hp.exposing i inst q hinst hq
    · exact hp.exposing i' inst' q hold hq
  · rcases lookup_insert_cases hinst' with rfl | hold
    · exact he.settings.2.trans (hp.kem i inst hinst)
    · exact hp.kem i' inst' hold
  · rcases lookup_insert_cases hinst' with rfl | hold
    · rcases he.localIdentity_cases hl with ⟨old, _, _, _, hold, rfl⟩ | ⟨_, _, _, -, -, -, hmade⟩
      · exact hp.kagree i inst hinst l old hold
      · exact (congrArg LocalIdentityInfo.kagreeAlgoKind hmade.made).trans (hp.kem i inst hinst)
    · exact hp.kagree i' inst' hold l identity hl

theorem Provided.finalize (hp : Provided platform p) (i : Nat) : Provided platform (p.finalizeAuthentication i) := by
  unfold Process.finalizeAuthentication
  rcases hinst : p.instances.lookup i with _ | inst
  · exact hp
  · exact ⟨hp.balanced.closed hinst, fun i' inst' q h hq => hp.exposing i' inst' q (lookup_of_erase h) hq,
      fun i' inst' h => hp.kem i' inst' (lookup_of_erase h), fun i' inst' h => hp.kagree i' inst' (lookup_of_erase h)⟩

theorem run_provided (hr : Run (process platform) tr p) : Provided platform p := by
  refine hr.state_inv ?_ ?_
  · rintro p rfl
    have hnone : ∀ i inst, ({} : Process κ).instances.lookup i ≠ some inst := by simp
    exact ⟨.empty, fun i inst _ h => absurd h (hnone i inst), fun i inst h => absurd h (hnone i inst),
      fun i inst h => absurd h (hnone i inst)⟩
  · rintro p op p' hp ⟨-, rfl⟩
    cases op with
    | init i environment optional =>
      by_cases hi : i ∈ p.instances
      · simpa only [ProcessOp.perform, if_pos hi] using hp
      · simpa only [ProcessOp.perform, if_neg hi] using hp.init hi environment optional
    | call i op amb => exact hp.call i op amb
    | finalize i => exact hp.finalize i

/-! ## Every reachable process -/

/-- The instance at the address has loaded the provider. -/
def Process.Holds (p : Process κ) (i : Nat) (q : CStr) : Prop :=
  ∃ inst, p.instances.lookup i = some inst ∧ inst.fallbackProvider = some q

theorem Provided.available_iff (hp : Provided platform p) : platform.kemAvailable p.loads = true ↔
    platform.kemAvailable [] = true ∨ ∃ i q, p.Holds i q := by
  rw [kemAvailable_iff]
  constructor
  · rintro (hnative | ⟨q, hq, -⟩)
    · exact .inl hnative
    · obtain ⟨i, inst, hinst, hholds⟩ := hp.balanced.mem_iff.1 hq
      exact .inr ⟨i, q, inst, hinst, hholds⟩
  · rintro (hnative | ⟨i, q, inst, hinst, hholds⟩)
    · exact .inl hnative
    · exact .inr ⟨q, hp.balanced.mem_iff.2 ⟨i, inst, hinst, hholds⟩, hp.exposing i inst q hinst hholds⟩

/-- A Request is made with a key pair of the selected KEM. -/
theorem Provided.of_request {amb : Ambient ρ} {l r h : Handle} {pdata : Octets} {out : Token} {s' : Authentication κ}
    (hp : Provided platform p) (hinst : p.instances.lookup i = some inst) (ha : Allocates amb inst.authentication)
    (hrun : beginHandshakeRequest (platform.env p.loads) amb l r pdata inst.authentication = (.ok (h, out), s')) :
    platform.kemAvailable p.loads = true := by
  rcases beginHandshakeRequest_cases ha hrun (by simp) with ⟨⟨e, he⟩, -⟩ | ⟨certData, h', c, c', rx, heq, hon⟩
  · cases he
  cases rx with
  | error e => cases heq
  | ok out' =>
    obtain ⟨keypair, _, hgen, -⟩ := makeRequest_ok hon.run
    have hkagree := hp.kagree i inst hinst _ _ hon.points.localIdentity
    rw [hkagree] at hgen
    obtain ⟨name, hname, -⟩ := Option.bind_eq_some_iff.1 hgen
    exact Option.isSome_iff_exists.2 ⟨name, hname⟩

/-- The providers of a process and its instances. -/
structure ProviderLifetime (platform : Platform κ ρ) (p : Process κ) : Prop where
  /-- a provider has a reference for each instance that loaded it -/
  references : ∀ q, p.loads.count q = p.instances.entries.countP (·.2.fallbackProvider == some q)
  available : platform.kemAvailable p.loads = true ↔ platform.kemAvailable [] = true ∨ ∃ i q, p.Holds i q
  /-- without the KEM, none of the instances can begin a handshake -/
  requests : ∀ i inst amb l r pdata h out s', p.instances.lookup i = some inst → Allocates amb inst.authentication →
    beginHandshakeRequest (platform.env p.loads) amb l r pdata inst.authentication = (.ok (h, out), s') →
    platform.kemAvailable [] = true ∨ ∃ i q, p.Holds i q

/-- **The fallback provider of a process**: after any interleaving of initialisations, calls and finalizations, each provider
has the references of the live instances that loaded it. The KEM is there only by itself or while one of these lives, so an
instance that found it through another one loses it when that one is finalized. -/
theorem provider_lifetime (platform : Platform κ ρ) {tr : Trace (Process κ) (ProcessOp ρ)} {p : Process κ}
    (hr : Run (process platform) tr p) : ProviderLifetime platform p := by
  have hp := run_provided hr
  refine ⟨fun q => ?_, hp.available_iff, fun i inst amb l r pdata h out s' hinst ha hrun => ?_⟩
  · rw [hp.balanced.count_eq q]
    exact List.count_filterMap
  · exact hp.available_iff.1 (hp.of_request hinst ha hrun)

/-- What `init_authentication` comes to for a new instance. -/
structure InitOutcome (platform : Platform κ ρ) (p : Process κ) (i : Nat) (environment : Option CStr) (optional : Bool) :
    Prop where
  succeeds_iff : (p.initAuthentication platform i environment optional).1 = true ↔
    platform.kemAvailable [] = true ∨ (∃ i q, p.Holds i q) ∨ platform.Serves (platform.providerName environment)
  failed : (p.initAuthentication platform i environment optional).1 = false →
    (p.initAuthentication platform i environment optional).2 = p

/-- **A new instance** is made exactly if the KEM is there by itself, or through a live instance, or the named provider can
be loaded and exposes it. If it is not made, no reference is left behind. -/
theorem init_succeeds_iff (platform : Platform κ ρ) {tr : Trace (Process κ) (ProcessOp ρ)} {p : Process κ}
    (hr : Run (process platform) tr p) (i : Nat) (environment : Option CStr) (optional : Bool) :
    InitOutcome platform p i environment optional := by
  have hiff := (run_provided hr).available_iff
  obtain ⟨fallbackProvider, ⟨heq, hwhy⟩ | ⟨heq, hnow, hserves⟩⟩ := initAuthentication_cases platform p i environment optional
  · refine ⟨⟨fun _ => ?_, fun _ => by rw [heq]⟩, fun hfail => ?_⟩
    · rcases hwhy with ⟨hnow, -⟩ | ⟨hserves, -⟩
      · rcases hiff.1 hnow with hnative | hholder
        · exact .inl hnative
        · exact .inr (.inl hholder)
      · exact .inr (.inr hserves)
    · rw [heq] at hfail
      cases hfail
  · refine ⟨⟨fun hok => ?_, fun hcond => ?_⟩, fun _ => by rw [heq]⟩
    · rw [heq] at hok
      cases hok
    · rcases hcond with hnative | hholder | hyes
      · exact absurd (hiff.2 (.inl hnative)) hnow
      · exact absurd (hiff.2 (.inr hholder)) hnow
      · exact absurd hyes hserves

/-! ## Two participants of one process -/

namespace Ideal

/-- Only `oqsprovider` exposes the KEM. -/
def oqs : Platform UInt8 UInt8 where
  selectedKemAlgorithm := "frodo640shake"
  fallbackProvider := str "oqsprovider"
  loadable name := name = str "oqsprovider"
  native _ := false
  exposes provider algorithm := provider = str "oqsprovider" && algorithm = str "frodo640shake"
  env loads :=
    let exposed (algorithm : CStr) := loads.any fun q => q = str "oqsprovider" && algorithm = str "frodo640shake"
    { env with contextNew := exposed }
  contextNew _ _ := rfl

/-- The second participant finds the KEM through the first one, which then goes. -/
def shared : List (ProcessOp UInt8) := [.init 1 none true, .init 2 none true, .finalize 1]

def processAfter (ops : List (ProcessOp UInt8)) : Process UInt8 := ops.foldl (fun p op => op.perform oqs p) {}

theorem process_run {ops : List (ProcessOp UInt8)} (hdef : ∀ op ∈ ops, ∀ p, op.Defined oqs p) :
    ∃ tr, Run (process oqs) tr (processAfter ops) := by
  have hfrom : ∀ (ops : List (ProcessOp UInt8)) tr p, (∀ op ∈ ops, ∀ p, op.Defined oqs p) → Run (process oqs) tr p →
      ∃ tr', Run (process oqs) tr' (ops.foldl (fun p op => op.perform oqs p) p) := by
    intro ops
    induction ops with
    | nil => exact fun tr p _ hr => ⟨tr, hr⟩
    | cons op ops ih =>
      intro tr p h hr
      exact ih _ _ (fun op' hop => h op' (List.mem_cons_of_mem _ hop)) (.step hr ⟨h op List.mem_cons_self p, rfl⟩)
  exact hfrom ops [] {} hdef (.init rfl)

theorem shared_run : ∃ tr, Run (process oqs) tr (processAfter shared) :=
  process_run (by simp [shared, ProcessOp.Defined])

end Ideal

theorem provider_lifetime_sample : ProviderLifetime Ideal.oqs (Ideal.processAfter Ideal.shared) := by
  obtain ⟨tr, hr⟩ := Ideal.shared_run
  exact provider_lifetime Ideal.oqs hr

theorem init_succeeds_sample : InitOutcome Ideal.oqs (Ideal.processAfter Ideal.shared) 3 (some (str "other")) true := by
  obtain ⟨tr, hr⟩ := Ideal.shared_run
  exact init_succeeds_iff Ideal.oqs hr 3 (some (str "other")) true

-- the second participant is there, the KEM is not
example : (2 ∈ (Ideal.processAfter Ideal.shared).instances) ∧
    Ideal.oqs.kemAvailable (Ideal.processAfter Ideal.shared).loads = false := by
  decide +kernel

end PqsecDds.CycloneDDS
