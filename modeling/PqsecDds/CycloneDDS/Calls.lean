import PqsecDds.CycloneDDS.Objects

/-!
# The calls, one by one

For each call of the plugin what it can do to the state, by its result.

| here | meaning |
|---|---|
| `OnProcess` | a run of `process_handshake` on a handshake |
| `LocalMade` | a local identity was made |
| `PermissionsSet` | the permissions of a local identity were set |
| `RemoteSeen` | a remote identity was seen, and the relation to it made or refreshed |
-/

namespace PqsecDds.CycloneDDS

open Lib

variable {κ ρ : Type} {env : Env κ ρ} {amb : Ambient ρ} {s s' : Authentication κ} {h h' l r a : Handle}
variable {s₁ : Authentication κ} {c c' : Context κ} {hs : HandshakeInfo κ}

/-! ## What a check leaves -/

theorem check_eq {σ α : Type} {x : Except SecurityException α} {t t' : σ} {res : Except Stop α}
    (h : check x t = (res, t')) : t' = t ∧ res = x.mapError .failed := by
  simp only [check, Act.lift, Prod.mk.injEq] at h
  exact ⟨h.2.symm, h.1.symm⟩

theorem demand_eq {σ α : Type} {f : σ → Option α} {e : Stop} {t t' : σ} {res : Except Stop α}
    (h : Act.demand f e t = (res, t')) : t' = t ∧ res = need (f t) e := by
  simp only [Act.demand, Prod.mk.injEq] at h
  exact ⟨h.2.symm, h.1.symm⟩

theorem demand_error {σ α : Type} {f : σ → Option α} {e e' : Stop} {t t' : σ}
    (h : Act.demand f e t = (.error e', t')) : f t = none := by
  obtain ⟨-, he⟩ := demand_eq h
  rcases hf : f t with _ | a
  · rfl
  · rw [hf] at he
    cases he

theorem demand_error_fault {σ α : Type} {f : σ → Option α} {e : Stop} {x : Fault} {t t' : σ}
    (h : Act.demand f (.fault x) t = (.error e, t')) : e = .fault x := by
  obtain ⟨-, he⟩ := demand_eq h
  rcases hf : f t with _ | a
  · rw [hf] at he
    exact Except.error.inj he
  · rw [hf] at he
    cases he

theorem lift_eq {σ α : Type} {x : Except Stop α} {t t' : σ} {res : Except Stop α}
    (h : Act.lift x t = (res, t')) : t' = t ∧ res = x := by
  simp only [Act.lift, Prod.mk.injEq] at h
  exact ⟨h.2.symm, h.1.symm⟩

theorem need_error_fault {σ α : Type} {o : Option α} {e : Stop} {x : Fault} {t t' : σ}
    (h : Act.lift (need o (.fault x)) t = (.error e, t')) : e = .fault x := by
  obtain ⟨-, he⟩ := lift_eq h
  cases o with
  | none => exact Except.error.inj he
  | some a => cases he

section Handshakes

variable {pdata : Octets} {inp : Token}

theorem beginHandshakeRequest_cases {res : Except Stop (Handle × Token)} (ha : Allocates amb s)
    (hrun : beginHandshakeRequest env amb l r pdata s = (res, s')) (hok : ∀ f, res ≠ .error (.fault f)) :
    ((∃ e, res = .error e) ∧ s' = s) ∨ ∃ certData h c c' rx, res = rx.map (h, ·) ∧
      OnHandshake amb s l r .createdRequest (makeRequest env amb s.includeOptional certData pdata) h c c' rx s' := by
  rcases Act.bind_eq.1 hrun with ⟨e, h₁, rfl⟩ | ⟨l', s₁, h₁, hrun₁⟩
  · exact .inl ⟨⟨e, rfl⟩, (demand_eq h₁).1⟩
  obtain ⟨rfl, -⟩ := demand_eq h₁
  rcases Act.bind_eq.1 hrun₁ with ⟨e, h₂, rfl⟩ | ⟨r', s₂, h₂, hrun₂⟩
  · exact .inl ⟨⟨e, rfl⟩, (demand_eq h₂).1⟩
  obtain ⟨rfl, -⟩ := demand_eq h₂
  rcases Act.bind_eq.1 hrun₂ with ⟨e, h₃, rfl⟩ | ⟨certData, s₃, h₃, hrun₃⟩
  · exact .inl ⟨⟨e, rfl⟩, (lift_eq h₃).1⟩
  obtain ⟨rfl, -⟩ := lift_eq h₃
  rcases Act.bind_eq.1 hrun₃ with ⟨e, h₄, -⟩ | ⟨optional, s₄, h₄, hrun₄⟩
  · cases h₄
  obtain ⟨rfl, rfl⟩ := Act.read_ok.1 h₄
  obtain ⟨h, c, c', rx, hres, hon⟩ := onHandshake_cases ha makeRequest_frame hrun₄ hok
  exact .inr ⟨certData, h, c, c', rx, hres, hon⟩

theorem beginHandshakeReply_cases {res : Except Stop (Handle × Token × Signed)} (ha : Allocates amb s)
    (hrun : beginHandshakeReply env amb inp r l pdata s = (res, s')) (hok : ∀ f, res ≠ .error (.fault f)) :
    ((∃ e, res = .error e) ∧ s' = s ∧ (pdata = [] ∨ s.localIdentity l = none ∨ s.remoteIdentity r = none)) ∨
      ∃ h c c' rx, res = rx.map (h, ·) ∧ OnHandshake amb s l r .createdReply
        (makeReply env amb s.includeOptional s.trustedCaList inp pdata) h c c' rx s' := by
  rcases Act.bind_eq.1 hrun with ⟨e, h₁, rfl⟩ | ⟨_, s₁, h₁, hrun₁⟩
  · obtain ⟨rfl, he⟩ := check_eq h₁
    refine .inl ⟨⟨e, rfl⟩, rfl, .inl ?_⟩
    cases pdata with
    | nil => rfl
    | cons x xs => cases he
  obtain ⟨rfl, -⟩ := check_eq h₁
  rcases Act.bind_eq.1 hrun₁ with ⟨e, h₂, rfl⟩ | ⟨l', s₂, h₂, hrun₂⟩
  · have hnone := demand_error h₂
    exact .inl ⟨⟨e, rfl⟩, (demand_eq h₂).1, .inr (.inl hnone)⟩
  obtain ⟨rfl, -⟩ := demand_eq h₂
  rcases Act.bind_eq.1 hrun₂ with ⟨e, h₃, rfl⟩ | ⟨r', s₃, h₃, hrun₃⟩
  · have hnone := demand_error h₃
    exact .inl ⟨⟨e, rfl⟩, (demand_eq h₃).1, .inr (.inr hnone)⟩
  obtain ⟨rfl, -⟩ := demand_eq h₃
  rcases Act.bind_eq.1 hrun₃ with ⟨e, h₄, -⟩ | ⟨s₅, s₄, h₄, hrun₄⟩
  · cases h₄
  obtain ⟨rfl, rfl⟩ := Act.read_ok.1 h₄
  obtain ⟨h, c, c', rx, hres, hon⟩ := onHandshake_cases ha makeReply_frame hrun₄ hok
  exact .inr ⟨h, c, c', rx, hres, hon⟩

/-- The remote identity of `c`, with its trigger armed if it is due. -/
def Context.watched (amb : Ambient ρ) (certExp : Int) (c : Context κ) : Context κ :=
  if certExp ≠ ddsNever ∧ c.remoteIdentity.timer = 0 then { c with remoteIdentity.timer := amb.timer } else c

def watchedTriggers (amb : Ambient ρ) (certExp : Int) (c : Context κ) (triggers : AList fun _ : Nat => Handle × Int) :
    AList fun _ : Nat => Handle × Int :=
  if certExp ≠ ddsNever ∧ c.remoteIdentity.timer = 0 then triggers.insert amb.timer (c.relation.remoteIdentity, certExp)
  else triggers

/-- A run of `process_handshake` on a handshake. -/
structure OnProcess (env : Env κ ρ) (amb : Ambient ρ) (s : Authentication κ) (inp : Token) (h : Handle)
    (c c' : Context κ) (result : Except Stop (HandshakeResult × Int)) (s' : Authentication κ) : Prop where
  handshake : s.handshake h = some c.handshake
  points : Points s c
  run : processToken env amb s.includeOptional s.trustedCaList inp c = (result, c')
  failed : ∀ e, result = .error e → Moved s h c c' (some c'.handshake) s' ∧ s'.dispatcher = s.dispatcher
  ok : ∀ v certExp, result = .ok (v, certExp) →
    Moved s h c (c'.watched amb certExp) (some c'.handshake) s' ∧
      s'.dispatcher = watchedTriggers amb certExp c' s.dispatcher

theorem Moved.points {left : Option (HandshakeInfo κ)} (hm : Moved s h c c' left s') (hframe : c.Frame c') :
    Points s' c' := by
  refine ⟨?_, ?_, ?_⟩
  · rw [hm.relation, if_pos hframe.relation]
  · rw [hm.localIdentity, if_pos hframe.localHandle]
  · rw [hm.remoteIdentity, if_pos hframe.remoteHandle]

theorem Moved.context (hm : Moved s h c c' (some c'.handshake) s') (hframe : c.Frame c') : s'.context h = some c' := by
  refine context_eq_some.2 ⟨?_, hm.points hframe⟩
  rw [hm.handshake, if_pos rfl]

theorem watchExpiry_eq {certExp : Int} {res : Except Stop PUnit} (hm : Moved s h c c' (some c'.handshake) s')
    (hframe : c.Frame c') (hrun : watchExpiry amb h certExp s' = (res, s₁)) :
    res = .ok ⟨⟩ ∧ Moved s h c (c'.watched amb certExp) (some c'.handshake) s₁ ∧
      s₁.dispatcher = watchedTriggers amb certExp c' s'.dispatcher := by
  have hcontext := hm.context hframe
  rcases Act.bind_eq.1 hrun with ⟨e, h₁, -⟩ | ⟨c₁, s₂, h₁, hrun₁⟩
  · obtain ⟨-, he⟩ := demand_eq h₁
    rw [hcontext] at he
    cases he
  obtain ⟨rfl, hc₁⟩ := demand_eq h₁
  rw [hcontext] at hc₁
  obtain rfl := Except.ok.inj hc₁
  by_cases harm : certExp ≠ ddsNever ∧ c₁.remoteIdentity.timer = 0
  · have hcond : (certExp ≠ ddsNever && c₁.remoteIdentity.timer = 0) = true := by simpa using harm
    simp only [hcond, if_true] at hrun₁
    obtain ⟨rfl, rfl⟩ := Prod.mk.inj hrun₁
    rw [Context.watched, watchedTriggers, if_pos harm, if_pos harm]
    have hr := (hm.points hframe).remoteIdentity
    have hnl := localIdentity_of_remoteIdentity hr
    have hnh := handshake_of_remoteIdentity hr
    have hremote := hframe.remoteHandle
    refine ⟨rfl, ⟨fun x => ?_, fun x => ?_, hm.relation, fun x => ?_, hm.settings.1, hm.settings.2, hm.settings.3,
      hm.settings.4⟩, rfl⟩
    · rw [localIdentity_putObject]
      change (if x = _ then none else s₂.localIdentity x) = _
      rw [hm.localIdentity] at hnl ⊢
      grind
    · rw [remoteIdentity_putObject]
      change (if x = _ then some _ else s₂.remoteIdentity x) = _
      rw [hm.remoteIdentity]
      grind
    · rw [handshake_putObject]
      change (if x = _ then none else s₂.handshake x) = _
      rw [hm.handshake] at hnh ⊢
      grind
  · have hcond : (certExp ≠ ddsNever && c₁.remoteIdentity.timer = 0) = false := by simpa using harm
    simp only [hcond, Bool.false_eq_true, if_false] at hrun₁
    obtain ⟨rfl, rfl⟩ := Prod.mk.inj hrun₁
    rw [Context.watched, watchedTriggers, if_neg harm, if_neg harm]
    exact ⟨rfl, hm, rfl⟩

theorem processHandshake_cases {res : Except Stop HandshakeResult}
    (hrun : processHandshake env amb inp h s = (res, s')) (hok : ∀ f, res ≠ .error (.fault f)) :
    ((∃ e, res = .error e) ∧ s' = s ∧ (h = 0 ∨ s.handshake h = none)) ∨
      ∃ c c' rx, res = rx.map (·.1) ∧ OnProcess env amb s inp h c c' rx s' := by
  rcases Act.bind_eq.1 hrun with ⟨e, h₁, rfl⟩ | ⟨_, s₁, h₁, hrun₁⟩
  · obtain ⟨rfl, he⟩ := check_eq h₁
    refine .inl ⟨⟨e, rfl⟩, rfl, .inl ?_⟩
    by_contra hne
    rw [require, if_pos (decide_eq_true hne)] at he
    cases he
  obtain ⟨rfl, -⟩ := check_eq h₁
  rcases Act.bind_eq.1 hrun₁ with ⟨e, h₂, rfl⟩ | ⟨hs, s₂, h₂, hrun₂⟩
  · have hnone := demand_error h₂
    exact .inl ⟨⟨e, rfl⟩, (demand_eq h₂).1, .inr hnone⟩
  obtain ⟨rfl, -⟩ := demand_eq h₂
  rcases Act.bind_eq.1 hrun₂ with ⟨e, h₃, -⟩ | ⟨s₅, s₃, h₃, hrun₃⟩
  · cases h₃
  obtain ⟨rfl, rfl⟩ := Act.read_ok.1 h₃
  rcases Act.bind_eq.1 hrun₃ with ⟨e, hwith, rfl⟩ | ⟨⟨result, certExp⟩, s₄, hwith, hrun₄⟩
  · rcases withContext_eq hwith with ⟨he, -, -⟩ | ⟨c, c', hc, hx, rfl⟩
    · obtain rfl := Except.error.inj he
      exact absurd rfl (hok _)
    · obtain ⟨hh, hp⟩ := context_eq_some.1 hc
      refine .inr ⟨c, c', .error e, rfl, hh, hp, hx, fun _ _ => ⟨setContext_moved hc (processToken_frame.result hx), rfl⟩, ?_⟩
      intro v certExp hv
      cases hv
  · rcases withContext_eq hwith with ⟨he, -, -⟩ | ⟨c, c', hc, hx, rfl⟩
    · cases he
    obtain ⟨hh, hp⟩ := context_eq_some.1 hc
    have hframe : c.Frame c' := processToken_frame.result hx
    rcases Act.bind_eq.1 hrun₄ with ⟨e, hwatch, -⟩ | ⟨_, s₆, hwatch, hpure⟩
    · obtain ⟨he, -⟩ := watchExpiry_eq (setContext_moved hc hframe) hframe hwatch
      cases he
    · obtain ⟨-, hmoved, htriggers⟩ := watchExpiry_eq (setContext_moved hc hframe) hframe hwatch
      obtain ⟨rfl, rfl⟩ := Prod.mk.inj hpure
      refine .inr ⟨c, c', .ok (result, certExp), rfl, hh, hp, hx, ?_, ?_⟩
      · intro e he
        cases he
      · intro v exp hv
        obtain ⟨rfl, rfl⟩ := Prod.mk.inj (Except.ok.inj hv)
        exact ⟨hmoved, htriggers⟩

end Handshakes

/-! ## Local identities -/

/-- The trusted CAs in force once a participant with that directory is validated. -/
def trustedCasAfter (env : Env κ ρ) (amb : Ambient ρ) (trustedCaDir : Option CStr) (trusted : List X509) :
    Except SecurityException (List X509) :=
  match nonEmpty trustedCaDir with
  | none => .ok trusted
  | some dir => getTrustedCaList env amb dir

theorem loadTrustedCas_eq {dir : Option CStr} {res : Except Stop PUnit}
    (hrun : loadTrustedCas env amb dir s = (res, s')) :
    (∃ e, trustedCasAfter env amb dir s.trustedCaList = .error e ∧ res = .error (.failed e) ∧ s' = s) ∨
      ∃ cas, trustedCasAfter env amb dir s.trustedCaList = .ok cas ∧ res = .ok ⟨⟩ ∧
        s' = { s with trustedCaList := cas } := by
  rcases hdir : nonEmpty dir with _ | d
  · simp only [loadTrustedCas, hdir] at hrun
    obtain ⟨rfl, rfl⟩ := Prod.mk.inj hrun
    exact .inr ⟨s.trustedCaList, by simp only [trustedCasAfter, hdir], rfl, rfl⟩
  · simp only [loadTrustedCas, hdir] at hrun
    simp only [trustedCasAfter, hdir]
    rcases hcas : getTrustedCaList env amb d with e | cas
    · left
      simp only [bind, Act.bind, check, Act.lift, hcas, Except.mapError, Prod.mk.injEq] at hrun
      exact ⟨e, rfl, hrun.1.symm, hrun.2.symm⟩
    · right
      simp only [bind, Act.bind, check, Act.lift, hcas, Except.mapError, Act.write, Prod.mk.injEq] at hrun
      exact ⟨cas, rfl, hrun.1.symm, hrun.2.symm⟩

/-- The texts of the three mandatory properties, and what they and the trusted CAs make of a local identity. -/
def identityOf (env : Env κ ρ) (amb : Ambient ρ) (trusted : List X509) (qos : Qos) (candidate : Guid) :
    Except SecurityException (X509 × X509 × EvpPkey × Option X509Crl × Int × Guid) := do
  let identityCertPem ← need qos.identityCertificate (missingProperty "dds.sec.auth.identity_certificate")
  let identityCaPem ← need qos.identityCa (missingProperty "dds.sec.auth.identity_ca")
  let privateKeyPem ← need qos.privateKey (missingProperty "dds.sec.auth.private_key")
  let trusted ← trustedCasAfter env amb qos.trustedCaDir trusted
  loadIdentity env amb trusted identityCertPem identityCaPem privateKeyPem qos candidate

/-- Of the objects, `identity` was put at `h`. -/
structure LocalPut (s : Authentication κ) (h : Handle) (identity : LocalIdentityInfo) (s' : Authentication κ) : Prop where
  localIdentity : ∀ l, s'.localIdentity l = if l = h then some identity else s.localIdentity l
  remoteIdentity : ∀ r, s'.remoteIdentity r = s.remoteIdentity r
  handshake : ∀ h, s'.handshake h = s.handshake h
  relation : ∀ a, s'.relation a = s.relation a

theorem localPut_putObject {t : Authentication κ} {identity : LocalIdentityInfo} (hobj : t.objectHash = s.objectHash)
    (hrel : t.relations = s.relations) (hr : s.remoteIdentity h = none) (hh : s.handshake h = none) :
    LocalPut s h identity (t.putObject h (.localIdentity identity)) := by
  have hlocal : ∀ x, t.localIdentity x = s.localIdentity x := fun x => by simp [Authentication.localIdentity, hobj]
  have hremote : ∀ x, t.remoteIdentity x = s.remoteIdentity x := fun x => by simp [Authentication.remoteIdentity, hobj]
  have hhandshake : ∀ x, t.handshake x = s.handshake x := fun x => by simp [Authentication.handshake, hobj]
  refine ⟨fun x => ?_, fun x => ?_, fun x => ?_, fun x => ?_⟩
  · rw [localIdentity_putObject, hlocal]
    rfl
  · rw [remoteIdentity_putObject, hremote]
    grind [SecurityObject.asRemote]
  · rw [handshake_putObject, hhandshake]
    grind [SecurityObject.asHandshake]
  · rw [relation_putObject]
    simp [Authentication.relation, hrel]

/-- A local identity was made, which expires at `certExpiry`. -/
structure LocalMade (env : Env κ ρ) (amb : Ambient ρ) (s : Authentication κ) (qos : Qos) (candidate : Guid)
    (identity : LocalIdentityInfo) (certExpiry : Int) (s' : Authentication κ) : Prop where
  loaded : identityOf env amb s.trustedCaList qos candidate = .ok (identity.identityCert, identity.identityCa,
    identity.privateKey, identity.crl, certExpiry, identity.adjustedGuid)
  trusted : trustedCasAfter env amb qos.trustedCaDir s.trustedCaList = .ok s'.trustedCaList
  made : identity =
    { adjustedGuid := identity.adjustedGuid, identityCert := identity.identityCert, identityCa := identity.identityCa
      privateKey := identity.privateKey, crl := identity.crl
      dsignAlgoKind := getAuthenticationAlgoKind identity.identityCert, kagreeAlgoKind := s.kem
      timer := if certExpiry = ddsNever then 0 else amb.timer }
  put : LocalPut s amb.object identity s'
  remoteGuidHash : s'.remoteGuidHash = s.remoteGuidHash
  includeOptional : s'.includeOptional = s.includeOptional
  kem : s'.kem = s.kem
  dispatcher : s'.dispatcher =
    if certExpiry = ddsNever then s.dispatcher else s.dispatcher.insert amb.timer (amb.object, certExpiry)

theorem validateLocalIdentity_cases {qos : Qos} {candidate : Guid} {res : Except Stop (Handle × Guid)}
    (ha : Allocates amb s) (hrun : validateLocalIdentity env amb qos candidate s = (res, s')) :
    (∃ e, res = .error (.failed e) ∧ identityOf env amb s.trustedCaList qos candidate = .error e ∧
        (s' = s ∨ ∃ cas, trustedCasAfter env amb qos.trustedCaDir s.trustedCaList = .ok cas ∧
          s' = { s with trustedCaList := cas })) ∨
      ∃ identity certExpiry, res = .ok (amb.object, identity.adjustedGuid) ∧
        LocalMade env amb s qos candidate identity certExpiry s' := by
  unfold identityOf
  rcases hcert : qos.identityCertificate with _ | certPem
  · left
    simp only [validateLocalIdentity, hcert] at hrun
    obtain ⟨rfl, rfl⟩ := Prod.mk.inj hrun
    exact ⟨_, rfl, rfl, .inl rfl⟩
  rcases hca : qos.identityCa with _ | caPem
  · left
    simp only [validateLocalIdentity, hcert, hca] at hrun
    obtain ⟨rfl, rfl⟩ := Prod.mk.inj hrun
    exact ⟨_, rfl, rfl, .inl rfl⟩
  rcases hkey : qos.privateKey with _ | keyPem
  · left
    simp only [validateLocalIdentity, hcert, hca, hkey] at hrun
    obtain ⟨rfl, rfl⟩ := Prod.mk.inj hrun
    exact ⟨_, rfl, rfl, .inl rfl⟩
  simp only [validateLocalIdentity, hcert, hca, hkey] at hrun
  change (loadTrustedCas env amb qos.trustedCaDir >>= _) s = _ at hrun
  rcases Act.bind_eq.1 hrun with ⟨e, hload, rfl⟩ | ⟨_, s₁, hload, hrun₁⟩
  · rcases loadTrustedCas_eq hload with ⟨e', htrusted, he, rfl⟩ | ⟨_, -, he, -⟩
    · obtain rfl := Except.error.inj he
      refine .inl ⟨e', rfl, ?_, .inl rfl⟩
      simp [htrusted, need, bind, Except.bind]
    · cases he
  rcases loadTrustedCas_eq hload with ⟨_, -, he, -⟩ | ⟨cas, htrusted, -, rfl⟩
  · cases he
  rcases Act.bind_eq.1 hrun₁ with ⟨e, hr, -⟩ | ⟨s₂, s₃, hr, hrun₂⟩
  · cases hr
  obtain ⟨rfl, rfl⟩ := Act.read_ok.1 hr
  have hidentity : identityOf env amb s.trustedCaList qos candidate =
      loadIdentity env amb cas certPem caPem keyPem qos candidate := by
    simp [identityOf, hcert, hca, hkey, htrusted, need, bind, Except.bind]
  rcases Act.bind_eq.1 hrun₂ with
    ⟨e, hid, rfl⟩ | ⟨⟨identityCert, identityCa, privateKey, crl, certExpiry, adjusted⟩, s₃, hid, hrun₃⟩
  · obtain ⟨rfl, he⟩ := check_eq hid
    change .error e = (loadIdentity env amb cas certPem caPem keyPem qos candidate).mapError Stop.failed at he
    rcases hload : loadIdentity env amb cas certPem caPem keyPem qos candidate with e' | v
    · rw [hload] at he
      obtain rfl := Except.error.inj he
      refine .inl ⟨e', rfl, ?_, .inr ⟨cas, htrusted, rfl⟩⟩
      rw [← hload, ← hidentity]
      simp [identityOf, hcert, hca, hkey]
    · rw [hload] at he
      cases he
  · obtain ⟨hload, rfl⟩ := check_ok.1 hid
    right
    have hload : identityOf env amb s.trustedCaList qos candidate =
        .ok (identityCert, identityCa, privateKey, crl, certExpiry, adjusted) := hidentity.trans hload
    have hr := remoteIdentity_fresh ha
    have hh := handshake_fresh ha
    by_cases hnever : certExpiry = ddsNever
    · simp only [hnever, ne_eq, not_true_eq_false, if_false, if_true] at hrun₃
      obtain ⟨rfl, rfl⟩ := Prod.mk.inj hrun₃
      exact ⟨_, certExpiry, rfl, hload, htrusted, by simp [hnever], localPut_putObject rfl rfl hr hh, rfl, rfl, rfl,
        by rw [if_pos hnever]; rfl⟩
    · simp only [hnever, ne_eq, not_false_eq_true, if_true, if_false] at hrun₃
      obtain ⟨rfl, rfl⟩ := Prod.mk.inj hrun₃
      exact ⟨_, certExpiry, rfl, hload, htrusted, by simp [hnever], localPut_putObject rfl rfl hr hh, rfl, rfl, rfl,
        by rw [if_neg hnever]; rfl⟩

/-- A permissions document was stored for the local identity `h`. -/
structure PermissionsSet (s : Authentication κ) (h : Handle) (document : CStr) (s' : Authentication κ) : Prop where
  put : ∃ identity, s.localIdentity h = some identity ∧
    LocalPut s h { identity with permissionsDocument := some document } s'
  settings : SameSettings s s'
  dispatcher : s'.dispatcher = s.dispatcher

theorem setPermissionsCredentialAndToken_cases {credential : Token} {res : Except Stop PUnit}
    (hrun : setPermissionsCredentialAndToken h credential s = (res, s')) :
    ((∃ e, res = .error e) ∧ s' = s) ∨ ∃ document, PermissionsSet s h document s' := by
  rcases Act.bind_eq.1 hrun with ⟨e, h₁, rfl⟩ | ⟨_, s₁, h₁, hrun₁⟩
  · exact .inl ⟨⟨e, rfl⟩, (check_eq h₁).1⟩
  obtain ⟨rfl, -⟩ := check_eq h₁
  rcases Act.bind_eq.1 hrun₁ with ⟨e, h₂, rfl⟩ | ⟨_, s₂, h₂, hrun₂⟩
  · exact .inl ⟨⟨e, rfl⟩, (check_eq h₂).1⟩
  obtain ⟨rfl, -⟩ := check_eq h₂
  rcases Act.bind_eq.1 hrun₂ with ⟨e, h₃, rfl⟩ | ⟨document, s₃, h₃, hrun₃⟩
  · exact .inl ⟨⟨e, rfl⟩, (check_eq h₃).1⟩
  obtain ⟨rfl, -⟩ := check_eq h₃
  rcases Act.bind_eq.1 hrun₃ with ⟨e, h₄, rfl⟩ | ⟨_, s₄, h₄, hrun₄⟩
  · exact .inl ⟨⟨e, rfl⟩, (check_eq h₄).1⟩
  obtain ⟨rfl, -⟩ := check_eq h₄
  rcases Act.bind_eq.1 hrun₄ with ⟨e, h₅, rfl⟩ | ⟨identity, s₅, h₅, hrun₅⟩
  · exact .inl ⟨⟨e, rfl⟩, (demand_eq h₅).1⟩
  obtain ⟨hl, rfl⟩ := Act.demand_ok.1 h₅
  obtain ⟨-, rfl⟩ := Prod.mk.inj hrun₅
  refine .inr ⟨document.value.getD [], ⟨identity, hl, ?_⟩, ⟨rfl, rfl, rfl, rfl⟩, rfl⟩
  exact localPut_putObject rfl rfl (remoteIdentity_of_localIdentity hl) (handshake_of_localIdentity hl)

/-! ## Remote identities -/

/-- How `validate_remote_identity` comes to the remote identity `r` with that GUID and to its relation `a` to `l`. -/
inductive Sighting (amb : Ambient ρ) (s : Authentication κ) (l : Handle) (token : Token) (guid : Guid)
    (lchallenge : Challenge) (rchallenge : Option Challenge) :
    Handle → Handle → RemoteIdentityInfo → IdentityRelation → Prop
  | made (new : s.remoteGuidHash.lookup guid = none) :
      Sighting amb s l token guid lchallenge rchallenge amb.object amb.relation
        { guid, remoteIdentityToken := token, linkHash := (∅ : AList fun _ : Handle => Handle).insert l amb.relation }
        ⟨l, amb.object, some lchallenge, rchallenge⟩
  | linked {r : Handle} {remote : RemoteIdentityInfo} (known : s.remoteGuidHash.lookup guid = some r)
      (object : s.remoteIdentity r = some remote) (unlinked : remote.linkHash.lookup l = none) :
      Sighting amb s l token guid lchallenge rchallenge r amb.relation
        { remote with linkHash := remote.linkHash.insert l amb.relation } ⟨l, r, some lchallenge, rchallenge⟩
  | known {r a : Handle} {remote : RemoteIdentityInfo} {relation : IdentityRelation}
      (known : s.remoteGuidHash.lookup guid = some r) (object : s.remoteIdentity r = some remote)
      (linked : remote.linkHash.lookup l = some a) (pointer : s.relation a = some relation) :
      Sighting amb s l token guid lchallenge rchallenge r a remote
        { relation with rchallenge := rchallenge.or relation.rchallenge }

theorem remoteFor_cases {token : Token} {guid : Guid} {res : Except Stop Handle}
    (hrun : remoteFor env amb token guid s = (res, s')) :
    ((∃ e, res = .error e) ∧ s' = s) ∨
      (∃ r remote, res = .ok r ∧ s.remoteGuidHash.lookup guid = some r ∧ s.remoteIdentity r = some remote ∧ s' = s) ∨
      (res = .ok amb.object ∧ s.remoteGuidHash.lookup guid = none ∧
        s' = { s.putObject amb.object (.remoteIdentity { guid, remoteIdentityToken := token }) with
          remoteGuidHash := s.remoteGuidHash.insert guid amb.object }) := by
  rcases Act.bind_eq.1 hrun with ⟨e, h₁, -⟩ | ⟨found, s₁, h₁, hrun₁⟩
  · cases h₁
  obtain ⟨rfl, rfl⟩ := Act.read_ok.1 h₁
  rcases hfound : s.remoteGuidHash.lookup guid with _ | r
  · simp only [hfound] at hrun₁
    obtain ⟨rfl, rfl⟩ := Prod.mk.inj hrun₁
    exact .inr (.inr ⟨rfl, rfl, rfl⟩)
  · simp only [hfound] at hrun₁
    rcases Act.bind_eq.1 hrun₁ with ⟨e, h₂, rfl⟩ | ⟨remote, s₂, h₂, hrun₂⟩
    · exact .inl ⟨⟨e, rfl⟩, (demand_eq h₂).1⟩
    obtain ⟨hremote, rfl⟩ := Act.demand_ok.1 h₂
    rcases Act.bind_eq.1 hrun₂ with ⟨e, h₃, rfl⟩ | ⟨_, s₃, h₃, hrun₃⟩
    · exact .inl ⟨⟨e, rfl⟩, (check_eq h₃).1⟩
    obtain ⟨rfl, -⟩ := check_eq h₃
    obtain ⟨rfl, rfl⟩ := Prod.mk.inj hrun₃
    exact .inr (.inl ⟨r, remote, rfl, rfl, hremote, rfl⟩)

/-- The state with a new challenge of the remote side in a relation. -/
def Authentication.refresh (s : Authentication κ) (a : Handle) (rchallenge : Option Challenge) : Authentication κ :=
  match s.relation a, rchallenge with
  | some relation, some c => s.putRelation a { relation with rchallenge := some c }
  | _, _ => s

theorem relation_refresh {relation : IdentityRelation} {rchallenge : Option Challenge} (hrel : s.relation a = some relation)
    (x : Handle) : (s.refresh a rchallenge).relation x =
      if x = a then some { relation with rchallenge := rchallenge.or relation.rchallenge } else s.relation x := by
  cases rchallenge with
  | none =>
    simp only [Authentication.refresh, hrel, Option.none_or]
    split
    · rename_i hx
      rw [hx, hrel]
    · rfl
  | some c => simp only [Authentication.refresh, hrel, relation_putRelation, Option.some_or]

theorem refresh_eq (s : Authentication κ) (a : Handle) (rchallenge : Option Challenge) :
    ∃ relations, s.refresh a rchallenge = { s with relations } := by
  unfold Authentication.refresh
  split
  · exact ⟨_, rfl⟩
  · exact ⟨s.relations, rfl⟩

theorem relate_error {lchallenge : Challenge} {rchallenge : Option Challenge} {e : Stop}
    (hrun : relate amb l r lchallenge rchallenge s = (.error e, s')) : ∃ f, e = .fault f := by
  rcases Act.bind_eq.1 hrun with ⟨e, h₁, -⟩ | ⟨found, s₁, h₁, hrun₁⟩
  · cases h₁
  obtain ⟨rfl, rfl⟩ := Act.read_ok.1 h₁
  rcases hfound : s.findIdentityRelation l r with _ | a'
  · simp only [hfound] at hrun₁
    rcases Act.bind_eq.1 hrun₁ with ⟨e', h₂, he⟩ | ⟨remote, s₂, h₂, hrun₂⟩
    · obtain rfl := Except.error.inj he
      exact ⟨_, demand_error_fault h₂⟩
    · cases hrun₂
  · simp only [hfound] at hrun₁
    cases hrun₁

theorem relate_ok {lchallenge : Challenge} {rchallenge : Option Challenge}
    (hrun : relate amb l r lchallenge rchallenge s = (.ok a, s')) :
    (s.findIdentityRelation l r = some a ∧ s' = s.refresh a rchallenge) ∨
      ∃ remote, s.findIdentityRelation l r = none ∧ s.remoteIdentity r = some remote ∧ a = amb.relation ∧
        s' = (s.putRelation amb.relation ⟨l, r, some lchallenge, rchallenge⟩).putObject r
          (.remoteIdentity { remote with linkHash := remote.linkHash.insert l amb.relation }) := by
  rcases Act.bind_eq.1 hrun with ⟨e, h₁, -⟩ | ⟨found, s₁, h₁, hrun₁⟩
  · cases h₁
  obtain ⟨rfl, rfl⟩ := Act.read_ok.1 h₁
  rcases hfound : s.findIdentityRelation l r with _ | a'
  · simp only [hfound] at hrun₁
    rcases Act.bind_eq.1 hrun₁ with ⟨e, h₂, he⟩ | ⟨remote, s₂, h₂, hrun₂⟩
    · cases he
    obtain ⟨hremote, rfl⟩ := Act.demand_ok.1 h₂
    obtain ⟨ha', rfl⟩ := Prod.mk.inj hrun₂
    exact .inr ⟨remote, rfl, hremote, (Except.ok.inj ha').symm, rfl⟩
  · simp only [hfound] at hrun₁
    obtain ⟨ha', rfl⟩ := Prod.mk.inj hrun₁
    obtain rfl := Except.ok.inj ha'
    exact .inl ⟨rfl, rfl⟩

/-- `validate_remote_identity` for the local identity `l`. -/
structure RemoteSeen (env : Env κ ρ) (amb : Ambient ρ) (s : Authentication κ) (request : Option Token) (l : Handle)
    (token : Token) (guid : Guid) (r a : Handle) (remote : RemoteIdentityInfo) (relation : IdentityRelation)
    (rchallenge : Option Challenge) (s' : Authentication κ) : Prop where
  local_isSome : (s.localIdentity l).isSome
  request : request.mapM validateAuthRequestToken = .ok rchallenge
  sighting : ∃ lchallenge, generateChallenge amb = .ok lchallenge ∧
    Sighting amb s l token guid lchallenge rchallenge r a remote relation
  localIdentity : ∀ l, s'.localIdentity l = s.localIdentity l
  remoteIdentity : ∀ x, s'.remoteIdentity x = if x = r then some remote else s.remoteIdentity x
  handshake : ∀ h, s'.handshake h = s.handshake h
  relation : ∀ x, s'.relation x = if x = a then some relation else s.relation x
  remoteGuidHash : ∀ g, s'.remoteGuidHash.lookup g = if g = guid then some r else s.remoteGuidHash.lookup g
  trustedCaList : s'.trustedCaList = s.trustedCaList
  includeOptional : s'.includeOptional = s.includeOptional
  kem : s'.kem = s.kem
  dispatcher : s'.dispatcher = s.dispatcher

theorem remoteSeen_of_parts {request : Option Token} {token : Token} {guid : Guid} {lchallenge : Challenge}
    {rchallenge : Option Challenge} {relation : IdentityRelation} (ha : Allocates amb s)
    (hl : (s.localIdentity l).isSome) (hrequest : request.mapM validateAuthRequestToken = .ok rchallenge)
    (hchallenge : generateChallenge amb = .ok lchallenge) (hfor : remoteFor env amb token guid s = (.ok r, s₁))
    (hrelate : relate amb l r lchallenge rchallenge s₁ = (.ok a, s')) (hrelation : s'.relation a = some relation) :
    ∃ remote, RemoteSeen env amb s request l token guid r a remote relation rchallenge s' := by
  rcases remoteFor_cases hfor with ⟨⟨_, he⟩, -⟩ | ⟨r', remote, hr, hguid, hremote, rfl⟩ | ⟨hr, hguid, rfl⟩
  · cases he
  · obtain rfl := Except.ok.inj hr
    rcases relate_ok hrelate with ⟨hfound, rfl⟩ | ⟨remote', hfound, hremote', rfl, rfl⟩
    · simp only [Authentication.findIdentityRelation, hremote, Option.bind_some] at hfound
      rcases hold : s₁.relation a with _ | old
      · simp only [Authentication.refresh, hold] at hrelation
        cases hrelation
      · rw [relation_refresh hold, if_pos rfl] at hrelation
        obtain rfl := Option.some.inj hrelation
        have hrel : ∀ x, (s₁.refresh a rchallenge).relation x = _ := relation_refresh hold
        obtain ⟨relations, heq⟩ := refresh_eq s₁ a rchallenge
        rw [heq] at hrel ⊢
        refine ⟨remote, hl, hrequest, ⟨lchallenge, hchallenge, .known hguid hremote hfound hold⟩, fun _ => rfl, fun x => ?_,
          fun _ => rfl, hrel, fun g => ?_, rfl, rfl, rfl, rfl⟩
        · by_cases hx : x = r
          · rw [if_pos hx, hx, ← hremote]
            rfl
          · rw [if_neg hx]
            rfl
        · by_cases hg : g = guid
          · rw [if_pos hg, hg, ← hguid]
          · rw [if_neg hg]
    · rw [hremote] at hremote'
      obtain rfl := Option.some.inj hremote'
      simp only [Authentication.findIdentityRelation, hremote, Option.bind_some] at hfound
      simp only [relation_putObject, relation_putRelation, if_pos, Option.some.injEq] at hrelation
      subst hrelation
      have hnl := localIdentity_of_remoteIdentity hremote
      have hnh := handshake_of_remoteIdentity hremote
      refine ⟨_, hl, hrequest, ⟨lchallenge, hchallenge, .linked hguid hremote hfound⟩, fun x => ?_, fun x => ?_,
        fun x => ?_, fun x => ?_, fun g => ?_, rfl, rfl, rfl, rfl⟩
      · rw [localIdentity_putObject, localIdentity_putRelation]
        grind [SecurityObject.asLocal]
      · rw [remoteIdentity_putObject, remoteIdentity_putRelation]
        rfl
      · rw [handshake_putObject, handshake_putRelation]
        grind [SecurityObject.asHandshake]
      · rw [relation_putObject, relation_putRelation]
      · by_cases hg : g = guid
        · rw [if_pos hg, hg, ← hguid]
          rfl
        · rw [if_neg hg]
          rfl
  · obtain rfl := Except.ok.inj hr
    have hnew : { s.putObject amb.object (.remoteIdentity { guid, remoteIdentityToken := token }) with
        remoteGuidHash := s.remoteGuidHash.insert guid amb.object }.remoteIdentity amb.object =
        some { guid, remoteIdentityToken := token } := by
      change (s.putObject amb.object _).remoteIdentity amb.object = _
      rw [remoteIdentity_putObject, if_pos rfl]
      rfl
    rcases relate_ok hrelate with ⟨hfound, -⟩ | ⟨remote', -, hremote', rfl, rfl⟩
    · simp only [Authentication.findIdentityRelation, hnew, Option.bind_some] at hfound
      cases hfound
    rw [hnew] at hremote'
    obtain rfl := Option.some.inj hremote'
    simp only [relation_putObject, relation_putRelation, if_pos, Option.some.injEq] at hrelation
    subst hrelation
    have hnl := localIdentity_fresh ha
    have hnh := handshake_fresh ha
    refine ⟨_, hl, hrequest, ⟨lchallenge, hchallenge, .made hguid⟩, fun x => ?_, fun x => ?_,
      fun x => ?_, fun x => ?_, fun g => ?_, rfl, rfl, rfl, rfl⟩
    · rw [localIdentity_putObject, localIdentity_putRelation]
      change (if x = _ then none else (s.putObject _ _).localIdentity x) = _
      rw [localIdentity_putObject]
      grind [SecurityObject.asLocal]
    · rw [remoteIdentity_putObject, remoteIdentity_putRelation]
      change (if x = _ then some _ else (s.putObject _ _).remoteIdentity x) = _
      rw [remoteIdentity_putObject]
      grind
    · rw [handshake_putObject, handshake_putRelation]
      change (if x = _ then none else (s.putObject _ _).handshake x) = _
      rw [handshake_putObject]
      grind [SecurityObject.asHandshake]
    · rw [relation_putObject, relation_putRelation]
      rfl
    · change (s.remoteGuidHash.insert guid amb.object).lookup g = _
      by_cases hg : g = guid
      · rw [if_pos hg, hg, AList.lookup_insert]
      · rw [if_neg hg, AList.lookup_insert_ne hg]

theorem validateRemoteIdentity_cases {request : Option Token} {token : Token} {guid : Guid}
    {res : Except Stop (RemoteResult × Handle × Option Token)} (ha : Allocates amb s)
    (hrun : validateRemoteIdentity env amb request l token guid s = (res, s')) (hok : ∀ f, res ≠ .error (.fault f)) :
    ((∃ e, res = .error e) ∧ s' = s) ∨ ∃ r a remote relation rchallenge localIdent,
      s.localIdentity l = some localIdent ∧
      RemoteSeen env amb s request l token guid r a remote relation rchallenge s' ∧
      res = .ok (if memcmpLt localIdent.adjustedGuid.octets guid.octets then .pendingHandshakeRequest
          else .pendingHandshakeMessage, r,
        if request.isSome then none else relation.lchallenge.map authRequestToken) := by
  rcases Act.bind_eq.1 hrun with ⟨e, h₁, rfl⟩ | ⟨localIdent, s₁, h₁, hrun₁⟩
  · exact .inl ⟨⟨e, rfl⟩, (demand_eq h₁).1⟩
  obtain ⟨hl, rfl⟩ := Act.demand_ok.1 h₁
  rcases Act.bind_eq.1 hrun₁ with ⟨e, h₂, rfl⟩ | ⟨_, s₂, h₂, hrun₂⟩
  · exact .inl ⟨⟨e, rfl⟩, (check_eq h₂).1⟩
  obtain ⟨rfl, -⟩ := check_eq h₂
  rcases Act.bind_eq.1 hrun₂ with ⟨e, h₃, rfl⟩ | ⟨rchallenge, s₃, h₃, hrun₃⟩
  · exact .inl ⟨⟨e, rfl⟩, (check_eq h₃).1⟩
  obtain ⟨hrequest, rfl⟩ := check_ok.1 h₃
  rcases Act.bind_eq.1 hrun₃ with ⟨e, h₄, rfl⟩ | ⟨lchallenge, s₄, h₄, hrun₄⟩
  · exact .inl ⟨⟨e, rfl⟩, (check_eq h₄).1⟩
  obtain ⟨hchallenge, rfl⟩ := check_ok.1 h₄
  rcases Act.bind_eq.1 hrun₄ with ⟨e, h₅, rfl⟩ | ⟨r, s₅, h₅, hrun₅⟩
  · rcases remoteFor_cases h₅ with ⟨-, rfl⟩ | ⟨_, _, he, -⟩ | ⟨he, -⟩
    · exact .inl ⟨⟨e, rfl⟩, rfl⟩
    · cases he
    · cases he
  rcases Act.bind_eq.1 hrun₅ with ⟨e, h₆, rfl⟩ | ⟨a, s₆, h₆, hrun₆⟩
  · obtain ⟨f, rfl⟩ := relate_error h₆
    exact absurd rfl (hok f)
  rcases Act.bind_eq.1 hrun₆ with ⟨e, h₇, rfl⟩ | ⟨relation, s₇, h₇, hrun₇⟩
  · obtain rfl := demand_error_fault h₇
    exact absurd rfl (hok _)
  obtain ⟨hrelation, rfl⟩ := Act.demand_ok.1 h₇
  have hres : s' = s₆ ∧ res = .ok (if memcmpLt localIdent.adjustedGuid.octets guid.octets then .pendingHandshakeRequest
          else .pendingHandshakeMessage, r,
        if request.isSome then none else relation.lchallenge.map authRequestToken) := by
    cases request with
    | some request =>
      obtain ⟨rfl, rfl⟩ := Prod.mk.inj hrun₇
      exact ⟨rfl, rfl⟩
    | none =>
      rcases hlch : relation.lchallenge with _ | x
      · simp only [hlch] at hrun₇
        obtain ⟨rfl, -⟩ := Prod.mk.inj hrun₇
        exact absurd rfl (hok .nullPointer)
      · simp only [hlch] at hrun₇
        obtain ⟨rfl, rfl⟩ := Prod.mk.inj hrun₇
        exact ⟨rfl, rfl⟩
  obtain ⟨rfl, rfl⟩ := hres
  obtain ⟨remote, hseen⟩ := remoteSeen_of_parts ha (by rw [hl]; rfl) hrequest hchallenge h₅ h₆ hrelation
  exact .inr ⟨r, a, remote, relation, rchallenge, localIdent, hl, hseen, rfl⟩

/-! ## Handles and triggers -/

theorem returnHandshakeHandle_cases {res : Except Stop PUnit} (hrun : returnHandshakeHandle h s = (res, s')) :
    s' = s ∨ (s.handshake h).isSome ∧ s' = s.removeObject h := by
  rcases Act.bind_eq.1 hrun with ⟨e, h₁, rfl⟩ | ⟨_, s₁, h₁, hrun₁⟩
  · exact .inl (check_eq h₁).1
  obtain ⟨rfl, -⟩ := check_eq h₁
  rcases Act.bind_eq.1 hrun₁ with ⟨e, h₂, rfl⟩ | ⟨hs, s₂, h₂, hrun₂⟩
  · exact .inl (demand_eq h₂).1
  obtain ⟨hh, rfl⟩ := Act.demand_ok.1 h₂
  obtain ⟨-, rfl⟩ := Prod.mk.inj hrun₂
  exact .inr ⟨by rw [hh]; rfl, rfl⟩

theorem returnIdentityHandle_cases {res : Except Stop PUnit} (hrun : returnIdentityHandle h s = (res, s')) :
    s' = s ∨ ∃ obj, s.objectHash.lookup h = some obj ∧ obj.asHandshake = none ∧ s' = s.returnIdentity h obj := by
  rcases Act.bind_eq.1 hrun with ⟨e, h₁, rfl⟩ | ⟨_, s₁, h₁, hrun₁⟩
  · exact .inl (check_eq h₁).1
  obtain ⟨rfl, -⟩ := check_eq h₁
  rcases Act.bind_eq.1 hrun₁ with ⟨e, h₂, rfl⟩ | ⟨obj, s₂, h₂, hrun₂⟩
  · exact .inl (demand_eq h₂).1
  obtain ⟨hobj, rfl⟩ := Act.demand_ok.1 h₂
  rcases Act.bind_eq.1 hrun₂ with ⟨e, h₃, rfl⟩ | ⟨_, s₃, h₃, hrun₃⟩
  · exact .inl (check_eq h₃).1
  obtain ⟨hnone, rfl⟩ := check_ok.1 h₃
  obtain ⟨-, rfl⟩ := Prod.mk.inj hrun₃
  exact .inr ⟨obj, hobj, Option.isNone_iff_eq_none.1 (require_ok.1 hnone), rfl⟩

theorem getIdentityToken_same : Act.Keeps (Act.Same id) (getIdentityToken amb h : Call κ Token) := by
  unfold getIdentityToken
  repeat' first
    | with_reducible refine Act.Keeps.bind ?_ fun _ => ?_
    | exact .demand _ _
    | exact .lift _

theorem getSharedSecret_same : Act.Keeps (Act.Same id) (getSharedSecret h : Call κ (Option SharedSecret)) := by
  unfold getSharedSecret
  repeat' first
    | with_reducible refine Act.Keeps.bind ?_ fun _ => ?_
    | exact .demand _ _
    | exact .lift _

theorem getAuthenticatedPeerCredentialToken_same :
    Act.Keeps (Act.Same id) (getAuthenticatedPeerCredentialToken env amb h) := by
  unfold getAuthenticatedPeerCredentialToken
  repeat' first
    | with_reducible refine Act.Keeps.bind ?_ fun _ => ?_
    | exact .demand _ _
    | exact .lift _

end PqsecDds.CycloneDDS
