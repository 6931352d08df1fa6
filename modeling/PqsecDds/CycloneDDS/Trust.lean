import PqsecDds.CycloneDDS.Ideal

/-!
# Trust anchors

A peer certificate is verified against the trusted CAs if there are any, else against the identity CA and the CRL of the
local identity. The identity CA and the CRL belong to the local identity. The trusted CAs belong to the instance: every
`validate_local_identity` that names a directory replaces them, for all.

`Separate` says when such a call leaves the others alone and is left alone by them. If all calls do, each participant is
served as if it had the instance to itself.
-/

namespace PqsecDds.CycloneDDS

open Lib

variable {κ ρ : Type} {env : Env κ ρ} {amb : Ambient ρ} {s s' : Authentication κ} {l : Handle} {qos : Qos}
variable {candidate : Guid}

namespace Authentication

/-- What a peer certificate is verified against in a handshake of the local identity `l`: its identity CA, its CRL and the
trusted CAs. -/
def anchors (s : Authentication κ) (l : Handle) : Option (X509 × Option X509Crl × List X509) :=
  (s.localIdentity l).map fun identity => (identity.identityCa, identity.crl, s.trustedCaList)

/-- An instance with the same settings and nothing in it. -/
def fresh (s : Authentication κ) : Authentication κ := { includeOptional := s.includeOptional, kem := s.kem }

end Authentication

open Authentication

/-- One of the mandatory properties is missing. -/
def Qos.incomplete (qos : Qos) : Bool :=
  qos.identityCertificate.isNone || qos.identityCa.isNone || qos.privateKey.isNone

/-- The call and the participants of the instance do not touch each other's trusted CAs: it names no directory and there
are none, or it names one with the CAs that are there already, or nobody else is there. -/
def Separate (env : Env κ ρ) (amb : Ambient ρ) (s : Authentication κ) (qos : Qos) : Prop :=
  qos.incomplete = true ∨
    match nonEmpty qos.trustedCaDir with
    | none => s.trustedCaList = []
    | some dir => ∀ cas, getTrustedCaList env amb dir = .ok cas → cas = s.trustedCaList ∨ ∀ l, s.localIdentity l = none

/-! ## One call -/

theorem allocates_fresh (ha : Allocates amb s) : Allocates amb s.fresh :=
  ⟨ha.object_ne_zero, AList.notMem_empty amb.object, AList.notMem_empty amb.relation, ha.timer_ne_zero,
    AList.notMem_empty amb.timer⟩

theorem validateLocalIdentity_incomplete (env : Env κ ρ) (amb : Ambient ρ) (candidate : Guid)
    (h : qos.incomplete = true) :
    ∃ e, ∀ s : Authentication κ, validateLocalIdentity env amb qos candidate s = (.error (.failed e), s) := by
  rcases hcert : qos.identityCertificate with _ | cert
  · refine ⟨missingProperty "dds.sec.auth.identity_certificate", fun s => ?_⟩
    simp only [validateLocalIdentity, hcert]
    rfl
  rcases hca : qos.identityCa with _ | ca
  · refine ⟨missingProperty "dds.sec.auth.identity_ca", fun s => ?_⟩
    simp only [validateLocalIdentity, hcert, hca]
    rfl
  rcases hkey : qos.privateKey with _ | key
  · refine ⟨missingProperty "dds.sec.auth.private_key", fun s => ?_⟩
    simp only [validateLocalIdentity, hcert, hca, hkey]
    rfl
  simp [Qos.incomplete, hcert, hca, hkey] at h

/-- The result of the call, from what the properties make of the participant. -/
theorem validateLocalIdentity_result (ha : Allocates amb s) :
    (validateLocalIdentity env amb qos candidate s).1 =
      match identityOf env amb s.trustedCaList qos candidate with
      | .error e => .error (.failed e)
      | .ok (_, _, _, _, _, adjusted) => .ok (amb.object, adjusted) := by
  rcases hrun : validateLocalIdentity env amb qos candidate s with ⟨res, s'⟩
  rcases validateLocalIdentity_cases ha hrun with ⟨e, rfl, hid, -⟩ | ⟨identity, expiry, rfl, hmade⟩
  · rw [hid]
  · rw [hmade.loaded]

theorem trustedCasAfter_separate (hsep : Separate env amb s qos) (hcomplete : ¬ qos.incomplete = true) :
    trustedCasAfter env amb qos.trustedCaDir s.trustedCaList = trustedCasAfter env amb qos.trustedCaDir [] := by
  rcases hsep with hinc | hsep
  · exact absurd hinc hcomplete
  · unfold trustedCasAfter
    rcases hdir : nonEmpty qos.trustedCaDir with _ | dir
    · rw [hdir] at hsep
      simp only at hsep ⊢
      rw [hsep]
    · rfl

theorem identityOf_separate (hsep : Separate env amb s qos) (hcomplete : ¬ qos.incomplete = true) :
    identityOf env amb s.trustedCaList qos candidate = identityOf env amb [] qos candidate := by
  simp only [identityOf, trustedCasAfter_separate hsep hcomplete]

/-- A separate call has the result it has in a fresh instance. -/
theorem validateLocalIdentity_separate (ha : Allocates amb s) (hsep : Separate env amb s qos) :
    (validateLocalIdentity env amb qos candidate s).1 = (validateLocalIdentity env amb qos candidate s.fresh).1 := by
  by_cases hinc : qos.incomplete = true
  · obtain ⟨e, he⟩ := validateLocalIdentity_incomplete env amb candidate hinc
    rw [he, he]
  · rw [validateLocalIdentity_result ha, validateLocalIdentity_result (allocates_fresh ha),
      identityOf_separate hsep hinc]
    rfl

/-- The state of a fresh instance after the call. -/
def alone (env : Env κ ρ) (amb : Ambient ρ) (s : Authentication κ) (qos : Qos) (candidate : Guid) : Authentication κ :=
  (validateLocalIdentity env amb qos candidate s.fresh).2

/-- A participant that is made has the anchors it has in a fresh instance. -/
theorem LocalMade.anchors_alone {identity : LocalIdentityInfo} {certExpiry : Int} (ha : Allocates amb s)
    (hmade : LocalMade env amb s qos candidate identity certExpiry s') (hsep : Separate env amb s qos) :
    s'.anchors amb.object = (alone env amb s qos candidate).anchors amb.object := by
  have hcomplete : ¬ qos.incomplete = true := by
    intro hinc
    obtain ⟨e, he⟩ := validateLocalIdentity_incomplete env amb candidate hinc
    have hresult : (validateLocalIdentity env amb qos candidate s).1 = _ := validateLocalIdentity_result ha
    rw [hmade.loaded, he s] at hresult
    cases hresult
  have hloaded := hmade.loaded
  rw [identityOf_separate hsep hcomplete] at hloaded
  have htrusted := hmade.trusted
  rw [trustedCasAfter_separate hsep hcomplete] at htrusted
  rcases hrun : validateLocalIdentity env amb qos candidate s.fresh with ⟨res, t⟩
  have halone : alone env amb s qos candidate = t := by rw [alone, hrun]
  rw [halone]
  rcases validateLocalIdentity_cases (allocates_fresh ha) hrun with ⟨e, -, hid, -⟩ | ⟨identity', expiry', -, hmade'⟩
  · have herr : identityOf env amb [] qos candidate = .error e := hid
    rw [hloaded] at herr
    cases herr
  · have hloaded' : identityOf env amb [] qos candidate = _ := hmade'.loaded
    have htrusted' : trustedCasAfter env amb qos.trustedCaDir [] = .ok t.trustedCaList := hmade'.trusted
    rw [hloaded] at hloaded'
    rw [htrusted] at htrusted'
    simp only [Except.ok.injEq, Prod.mk.injEq] at hloaded' htrusted'
    obtain ⟨-, hca, -, hcrl, -, -⟩ := hloaded'
    simp only [anchors, hmade.put.localIdentity, hmade'.put.localIdentity, if_true, Option.map_some, hca, hcrl, htrusted']

/-! ## Runs -/

/-- The local identity `l` was made by a call of the run, and has since had the anchors that call gives it in a fresh
instance. -/
def OwnAnchors (env : Env κ ρ) (tr : Trace (Authentication κ) (Op × Ambient ρ)) (s : Authentication κ) (l : Handle) : Prop :=
  ∃ later s₀ qos candidate amb earlier, tr = later ++ (s₀, .validateLocalIdentity qos candidate, amb) :: earlier ∧
    amb.object = l ∧ (∀ e ∈ later, (e.1.localIdentity l).isSome) ∧
    s.anchors l = (alone env amb s₀ qos candidate).anchors l

/-- Only a call of `validate_local_identity` changes the trusted CAs. -/
theorem Effect.trusted_cases {op : Op} (he : Effect env amb s op s') : s'.trustedCaList = s.trustedCaList ∨
    ∃ qos candidate, op = .validateLocalIdentity qos candidate ∧
      trustedCasAfter env amb qos.trustedCaDir s.trustedCaList = .ok s'.trustedCaList := by
  have htouched : ∀ {h c c'}, Touches env amb s s' op h c c' → s'.trustedCaList = s.trustedCaList := by
    intro h c c' ht
    obtain ⟨timer, left, -, hm⟩ := ht.moved
    exact hm.settings.trustedCaList
  cases he with
  | same => exact .inl rfl
  | trustedCas named => exact .inr ⟨_, _, rfl, named⟩
  | localMade ha made => exact .inr ⟨_, _, rfl, made.trusted⟩
  | permissionsSet set => exact .inl set.settings.trustedCaList
  | remoteSeen ha seen => exact .inl seen.trustedCaList
  | request ha hrx on => exact .inl (htouched (.request ha hrx on))
  | reply ha hrx on => exact .inl (htouched (.reply ha hrx on))
  | process ha hrx on => exact .inl (htouched (.process ha hrx on))
  | handshakeReturned handshake => exact .inl rfl
  | @identityReturned h obj lookup identity => exact .inl (Shrunk.returnIdentity s h obj).trustedCaList
  | callback armed =>
    left
    unfold Authentication.clearTimer
    split <;> rfl

/-- What becomes of the trusted CAs while `l` is there, in a step that is separate. -/
theorem Effect.trusted_separate {op : Op} (he : Effect env amb s op s') (hl : (s.localIdentity l).isSome)
    (hsep : ∀ qos candidate, op = .validateLocalIdentity qos candidate → ¬ qos.incomplete = true ∧ Separate env amb s qos) :
    s'.trustedCaList = s.trustedCaList := by
  rcases he.trusted_cases with hsame | ⟨qos, candidate, hop, hcas⟩
  · exact hsame
  obtain ⟨hcomplete, hinc | hsep⟩ := hsep qos candidate hop
  · exact absurd hinc hcomplete
  unfold trustedCasAfter at hcas
  rcases hdir : nonEmpty qos.trustedCaDir with _ | dir
  · rw [hdir] at hcas
    exact (Except.ok.inj hcas).symm
  · rw [hdir] at hcas hsep
    rcases hsep _ hcas with heq | hnone
    · exact heq
    · rw [hnone l] at hl
      cases hl

/-- The anchors of a participant that was there before a separate step are kept. -/
theorem Effect.anchors_separate {op : Op} (he : Effect env amb s op s') (hl : (s.localIdentity l).isSome)
    (hl' : (s'.localIdentity l).isSome)
    (hsep : ∀ qos candidate, op = .validateLocalIdentity qos candidate → ¬ qos.incomplete = true ∧ Separate env amb s qos) :
    s'.anchors l = s.anchors l := by
  have htrusted := he.trusted_separate hl hsep
  obtain ⟨identity, hidentity⟩ := Option.isSome_iff_exists.1 hl'
  rcases he.localIdentity_cases hidentity with ⟨old, pdata, document, timer, hold, rfl⟩ | ⟨_, _, _, -, -, hnone, -⟩
  · simp only [anchors, hidentity, hold, Option.map_some, htrusted]
  · rw [hnone] at hl
    cases hl

/-- All calls of `validate_local_identity` in the run are separate. -/
def AllSeparate (env : Env κ ρ) (tr : Trace (Authentication κ) (Op × Ambient ρ)) : Prop :=
  ∀ s qos candidate amb, (s, .validateLocalIdentity qos candidate, amb) ∈ tr → Separate env amb s qos

/-- Participants that name no directory leave each other alone. -/
theorem run_separate {tr : Trace (Authentication κ) (Op × Ambient ρ)} (hr : Run (plugin env).solo tr s) :
    (∀ e ∈ tr, ∀ qos candidate, e.2.1 = .validateLocalIdentity qos candidate → nonEmpty qos.trustedCaDir = none) →
      s.trustedCaList = [] ∧ AllSeparate env tr := by
  refine hr.inv (I := fun tr s => (∀ e ∈ tr, ∀ qos candidate, e.2.1 = .validateLocalIdentity qos candidate →
    nonEmpty qos.trustedCaDir = none) → s.trustedCaList = [] ∧ AllSeparate env tr) ?_ ?_
  · rintro s ⟨optional, kem, rfl⟩ -
    refine ⟨rfl, ?_⟩
    intro s qos candidate amb hmem
    cases hmem
  · rintro tr s ⟨op, amb⟩ s' - ih ⟨-, rfl⟩ hnone
    obtain ⟨hempty, hsep⟩ := ih fun e he => hnone e (List.mem_cons_of_mem _ he)
    have hop : ∀ qos candidate, op = .validateLocalIdentity qos candidate → nonEmpty qos.trustedCaDir = none :=
      hnone _ List.mem_cons_self
    constructor
    · have he : Effect env amb s op _ := exec_effect s op amb
      rcases he.trusted_cases with hsame | ⟨qos, candidate, rfl, hcas⟩
      · exact hsame.trans hempty
      · unfold trustedCasAfter at hcas
        rw [hop qos candidate rfl, hempty] at hcas
        exact (Except.ok.inj hcas).symm
    · intro s₀ qos candidate amb₀ hmem
      rcases List.mem_cons.1 hmem with heq | hmem
      · obtain ⟨rfl, hcall⟩ := Prod.mk.inj heq
        obtain ⟨rfl, rfl⟩ := Prod.mk.inj hcall
        right
        rw [hop qos candidate rfl]
        exact hempty
      · exact hsep s₀ qos candidate amb₀ hmem

theorem run_ownAnchors {tr : Trace (Authentication κ) (Op × Ambient ρ)} (hr : Run (plugin env).solo tr s) :
    AllSeparate env tr → ∀ l, (s.localIdentity l).isSome → OwnAnchors env tr s l := by
  refine hr.inv (I := fun tr s => AllSeparate env tr → ∀ l, (s.localIdentity l).isSome → OwnAnchors env tr s l) ?_ ?_
  · rintro s ⟨optional, kem, rfl⟩ - l hl
    cases hl
  · rintro tr s ⟨op, amb⟩ s' - ih ⟨-, rfl⟩ hsep l hl
    have hstep : ∀ qos candidate, op = .validateLocalIdentity qos candidate → Separate env amb s qos := by
      rintro qos candidate rfl
      exact hsep s qos candidate amb List.mem_cons_self
    have hkept : (s.localIdentity l).isSome → (exec env s (op, amb)).1.anchors l = s.anchors l →
        OwnAnchors env ((s, op, amb) :: tr) (exec env s (op, amb)).1 l := by
      intro hold hanchors
      obtain ⟨later, s₀, qos, candidate, amb₀, earlier, rfl, hobj, hlive, heq⟩ :=
        ih (fun s qos candidate amb hmem => hsep s qos candidate amb (List.mem_cons_of_mem _ hmem)) l hold
      refine ⟨(s, op, amb) :: later, s₀, qos, candidate, amb₀, earlier, rfl, hobj, fun e he => ?_, hanchors.trans heq⟩
      rcases List.mem_cons.1 he with rfl | he
      · exact hold
      · exact hlive e he
    rcases exec_call env s op amb with hsame | ⟨ha, res, hcall, hok⟩
    · refine hkept ?_ (by rw [hsame])
      rwa [← hsame]
    have heffect := call_effect ha hcall hok
    obtain ⟨identity, hidentity⟩ := Option.isSome_iff_exists.1 hl
    rcases heffect.localIdentity_cases hidentity with ⟨old, _, _, _, hold, -⟩ | ⟨qos, candidate, _, rfl, rfl, -, hmade⟩
    · have hlive : (s.localIdentity l).isSome := by rw [hold]; rfl
      refine hkept hlive ?_
      by_cases hinc : ∃ qos candidate, op = .validateLocalIdentity qos candidate ∧ qos.incomplete = true
      · obtain ⟨qos, candidate, rfl, hinc⟩ := hinc
        obtain ⟨e, he⟩ := validateLocalIdentity_incomplete env amb candidate hinc
        obtain ⟨rx, hrun, -⟩ := Act.bind_pure_eq.1 hcall
        rw [he] at hrun
        rw [← (Prod.mk.inj hrun).2]
      · exact heffect.anchors_separate hlive hl fun qos candidate hop =>
          ⟨fun h => hinc ⟨qos, candidate, hop, h⟩, hstep qos candidate hop⟩
    · exact ⟨[], s, qos, candidate, amb, tr, rfl, rfl, by simp, hmade.anchors_alone ha (hstep qos candidate rfl)⟩

/-- The certificate in `m` was verified against the anchors of `l`. -/
def VerifiedAgainst (env : Env κ ρ) (amb : Ambient ρ) (s : Authentication κ) (l : Handle) (m : Token) : Prop :=
  ∃ ca crl cas cert, s.anchors l = some (ca, crl, cas) ∧
    loadX509CertificateFromBinprop env amb (binaryProperty "c.id" (m.value "c.id")) ca crl cas = .ok cert

theorem verifiedAgainst_of_points {c : Context κ} {m : Token} {cert : X509} (hp : Points s c)
    (hacc : AcceptedCredentials env amb s.trustedCaList m c.localIdentity cert) :
    VerifiedAgainst env amb s c.relation.localIdentity m :=
  ⟨c.localIdentity.identityCa, c.localIdentity.crl, s.trustedCaList, cert, by simp [anchors, hp.localIdentity], hacc.loaded⟩

/-- A Request is accepted with a certificate that was verified against the anchors of the replier. -/
theorem beginHandshakeReply_verified {m out : Token} {initiator replier h : Handle} {pdata : Octets} {signed : Signed}
    (ha : Allocates amb s) (hrun : beginHandshakeReply env amb m initiator replier pdata s = (.ok (h, out, signed), s')) :
    ∃ c, s'.context h = some c ∧ VerifiedAgainst env amb s c.relation.localIdentity m := by
  rcases beginHandshakeReply_cases ha hrun (by simp) with ⟨⟨e, he⟩, -⟩ | ⟨h', c, c', rx, hres, hon⟩
  · cases he
  rcases rx with e | v
  · cases hres
  obtain ⟨rfl, rfl⟩ := Prod.mk.inj (Except.ok.inj hres)
  have hframe : c.Frame c' := makeReply_frame.result hon.run
  obtain ⟨cert, c₁, ct, ss, hacc, -⟩ := makeReply_ok hon.run
  have hm := hon.moved
  have hleft : remaining (s.handshake h) (.ok (out, signed) : Except Stop (Token × Signed)) c'.handshake =
      some c'.handshake := by simp [remaining, Except.isOk, Except.toBool]
  rw [hleft] at hm
  refine ⟨c', hm.context hframe, ?_⟩
  rw [hframe.localHandle]
  exact verifiedAgainst_of_points hon.points hacc.credentials

/-- A Reply is accepted with a certificate that was verified against the anchors of the initiator. -/
theorem processHandshake_verified {m out : Token} {h : Handle} {signed : Signed}
    (hrun : processHandshake env amb m h s = (.ok (.okFinalMessage out signed), s')) :
    ∃ c, s.context h = some c ∧ VerifiedAgainst env amb s c.relation.localIdentity m := by
  rcases processHandshake_cases hrun (by simp) with ⟨⟨e, he⟩, -⟩ | ⟨c, c', rx, hres, hon⟩
  · cases he
  rcases rx with e | ⟨v, certExp⟩
  · cases hres
  obtain rfl : HandshakeResult.okFinalMessage out signed = v := Except.ok.inj hres
  rcases processToken_ok hon.run with ⟨_, _, cert, key, keypair, ss, -, hdone⟩ | ⟨hv, -⟩
  · obtain ⟨c₁, hacc, -⟩ := hdone.accepted
    exact ⟨c, context_eq_some.2 ⟨hon.handshake, hon.points⟩, verifiedAgainst_of_points hon.points hacc.credentials⟩
  · cases hv

/-- **Trust anchors per local identity.** In a run whose `validate_local_identity` calls are all separate, each of these
calls has the result it has in a fresh instance, and every local identity verifies its peers against what that call alone
gives it: its identity CA, its CRL and the CAs it named. -/
theorem own_trust_anchors (env : Env κ ρ) {tr : Trace (Authentication κ) (Op × Ambient ρ)} {s : Authentication κ}
    (hr : Run (plugin env).solo tr s) (hsep : AllSeparate env tr) :
    (∀ s₀ qos candidate amb, (s₀, .validateLocalIdentity qos candidate, amb) ∈ tr → Allocates amb s₀ →
      (validateLocalIdentity env amb qos candidate s₀).1 = (validateLocalIdentity env amb qos candidate s₀.fresh).1) ∧
    (∀ l, (s.localIdentity l).isSome → OwnAnchors env tr s l) ∧
    (∀ amb m initiator replier pdata h out signed s', Allocates amb s →
      beginHandshakeReply env amb m initiator replier pdata s = (.ok (h, out, signed), s') →
      ∃ c, s'.context h = some c ∧ VerifiedAgainst env amb s c.relation.localIdentity m) ∧
    ∀ amb m h out signed s', processHandshake env amb m h s = (.ok (.okFinalMessage out signed), s') →
      ∃ c, s.context h = some c ∧ VerifiedAgainst env amb s c.relation.localIdentity m :=
  ⟨fun s₀ qos candidate amb hmem ha => validateLocalIdentity_separate ha (hsep s₀ qos candidate amb hmem),
    run_ownAnchors hr hsep, fun _ _ _ _ _ _ _ _ _ => beginHandshakeReply_verified,
    fun _ _ _ _ _ _ => processHandshake_verified⟩

/-! ## Participants with directories -/

namespace Ideal

/-- The `n`-th local identity, whose directory holds the certificate of CA `ca`. -/
def trustingCall (n pair ca : UInt8) : SampleCall :=
  (.validateLocalIdentity { Ideal.qos pair with trustedCaDir := some [ca, 0, ca, 1] } (Ideal.candidate pair), ambient n)

/-- Participant 3 trusts CA 9. Participant 5, of CA 9 too, names a directory with CA 8, and fails. -/
def clashingCalls : List SampleCall := [trustingCall 1 3 9, trustingCall 2 5 8]

def crlQos : Qos := { Ideal.qos 4 with crl := item [1] }

def agreeingCalls : List SampleCall := [trustingCall 1 3 9, trustingCall 2 5 9]

end Ideal

/-- The call of the other participant fails and changes what the first one trusts; and a participant with a CRL fails
because of the directory of another one. -/
theorem own_trust_anchors_fail :
    (∃ tr, Run (plugin Ideal.env).solo tr (Ideal.after Ideal.start Ideal.clashingCalls)) ∧
    (Ideal.after Ideal.start Ideal.clashingCalls).anchors 1 ≠
      (alone Ideal.env (Ideal.ambient 1) Ideal.start { Ideal.qos 3 with trustedCaDir := some [9, 0, 9, 1] }
        (Ideal.candidate 3)).anchors 1 ∧
    (validateLocalIdentity Ideal.env (Ideal.ambient 2) Ideal.crlQos (Ideal.candidate 4)
      (Ideal.after Ideal.start [Ideal.trustingCall 1 3 9])).1.isOk = false ∧
    (validateLocalIdentity Ideal.env (Ideal.ambient 2) Ideal.crlQos (Ideal.candidate 4) Ideal.start).1.isOk = true := by
  refine ⟨⟨_, Ideal.calls_run true .mlKem512 Ideal.clashingCalls⟩, ?_, ?_, ?_⟩
  · decide +kernel
  · decide +kernel
  · decide +kernel

theorem agreeing_separate :
    AllSeparate Ideal.env ((plugin Ideal.env).history [] Ideal.start Ideal.agreeingCalls) := by
  have hsecond : getTrustedCaList Ideal.env (Ideal.ambient 2) [9, 0, 9, 1] =
      .ok (Ideal.after Ideal.start [Ideal.trustingCall 1 3 9]).trustedCaList := by
    have h : (getTrustedCaList Ideal.env (Ideal.ambient 2) [9, 0, 9, 1]).toOption =
        some (Ideal.after Ideal.start [Ideal.trustingCall 1 3 9]).trustedCaList := by decide +kernel
    rcases hcas : getTrustedCaList Ideal.env (Ideal.ambient 2) [9, 0, 9, 1] with e | cas
    · rw [hcas] at h
      cases h
    · rw [hcas] at h
      rw [Option.some.inj h]
  have hcall : ∀ {n pair ca : UInt8} {qos : Qos} {candidate : Guid} {amb : Ambient UInt8},
      (Op.validateLocalIdentity qos candidate, amb) = Ideal.trustingCall n pair ca →
      qos.trustedCaDir = some [ca, 0, ca, 1] ∧ amb = Ideal.ambient n := by
    intro n pair ca qos candidate amb heq
    obtain ⟨hop, hamb⟩ := Prod.mk.inj heq
    obtain ⟨hqos, -⟩ := Op.validateLocalIdentity.inj hop
    exact ⟨congrArg Qos.trustedCaDir hqos, hamb⟩
  intro s qos candidate amb hmem
  right
  rcases List.mem_cons.1 hmem with hsecond' | hfirst
  · obtain ⟨rfl, hop⟩ := Prod.mk.inj hsecond'
    obtain ⟨hdir, rfl⟩ := hcall hop
    rw [hdir]
    refine fun cas hcas => .inl ?_
    exact Except.ok.inj (hcas.symm.trans hsecond)
  · obtain ⟨rfl, hop⟩ := Prod.mk.inj (List.mem_singleton.1 hfirst)
    obtain ⟨hdir, rfl⟩ := hcall hop
    rw [hdir]
    exact fun cas hcas => .inr fun l => rfl

theorem own_trust_anchors_sample :
    OwnAnchors Ideal.env ((plugin Ideal.env).history [] Ideal.start Ideal.agreeingCalls)
      (Ideal.after Ideal.start Ideal.agreeingCalls) 1 :=
  (own_trust_anchors Ideal.env (Ideal.calls_run true .mlKem512 Ideal.agreeingCalls) agreeing_separate).2.1 1
    (by decide +kernel)

end PqsecDds.CycloneDDS
