import PqsecDds.CycloneDDS.KeyMaterial

/-!
# A completed handshake

The secret of a handshake was made of the KEM secret that the token led to and of the challenges of its relation
(`Context.Derives`). A handshake made for a Request keeps the KEM secret, and a relation keeps the challenge of the local
side; the key pair and the challenge of the remote side can be replaced, and nothing marks a handshake as complete. So
the secret stays as long as the tokens that are accepted meet what the first one met (`Context.Meets`).
-/

namespace PqsecDds.CycloneDDS

open Lib Context

variable {κ ρ : Type} {env : Env κ ρ} {amb : Ambient ρ} {s s' : Authentication κ} {h a : Handle} {op : Op}
variable {c c' c₁ : Context κ} {hs hs' : HandshakeInfo κ} {optional : Bool} {trusted : List X509} {m m' : Token}
variable {x : SharedSecret}

/-! ## The same inputs, the same secret -/

/-- The handshake was completed by the token `m` and its objects were `c₁` then. The token `m'` meets the same: the
challenge of the remote side is the one of then and the certificate has an expiry; for a handshake made by
`begin_handshake_request` the key pair is the one of then, and `m'` has the ciphertext of `m`. -/
structure Context.Meets (env : Env κ ρ) (amb : Ambient ρ) (m' : Token) (c : Context κ) (m : Token) (c₁ : Context κ) :
    Prop where
  rchallenge : c.relation.rchallenge = c₁.relation.rchallenge
  expiry : ∀ cert, c.peerCertificate env m' = some cert → getCertificateExpiry amb cert ≠ ddsTimeInvalid
  keypair : c.handshake.createdIn = .createdRequest → c.handshake.kemKeypair = c₁.handshake.kemKeypair
  ciphertext : c.handshake.createdIn = .createdRequest →
    m'.value "pqsec-dds.kem_ciphertext" = m.value "pqsec-dds.kem_ciphertext"

/-- What no call replaces: the challenge of the local side, and the KEM secret of a handshake made for a Request. -/
structure Context.Kept (c₁ c : Context κ) : Prop where
  createdIn : c.handshake.createdIn = c₁.handshake.createdIn
  lchallenge : c.relation.lchallenge = c₁.relation.lchallenge
  kemSs : c.handshake.createdIn = .createdReply → c.handshake.kemSs = c₁.handshake.kemSs

theorem Context.Derives.unique {y : SharedSecret} (hx : c₁.Derives env m x) (hy : c.Derives env m' y)
    (hch : c.challenges = c₁.challenges) (hss : c.kemSecret env m' = c₁.kemSecret env m) : y = x := by
  obtain ⟨ss, hss₁, hhash⟩ := hx.secret
  obtain ⟨ss', hss', hhash'⟩ := hy.secret
  obtain rfl : ss' = ss := Option.some.inj (hss'.symm.trans (hss.trans hss₁))
  have hpair := hy.challenges.symm.trans (hch.trans hx.challenges)
  obtain ⟨h1, h2⟩ := Prod.mk.inj hpair
  cases x
  cases y
  simp only [Option.some.injEq] at h1 h2
  simp only [SharedSecret.mk.injEq]
  exact ⟨h1, h2, hhash'.trans hhash.symm⟩

/-- Processing a token leaves what it meets. -/
theorem processToken_kemSecret {res : Except Stop (HandshakeResult × Int)}
    (hrun : processToken env amb optional trusted m' c = (res, c')) : c'.kemSecret env m' = c.kemSecret env m' := by
  have hcreated : c'.handshake.createdIn = c.handshake.createdIn := (processToken_frame.result hrun).createdIn
  simp only [kemSecret, hcreated]
  cases hstep : c.handshake.createdIn with
  | createdRequest => rw [processToken_keypair hrun]
  | createdReply =>
    have hss := congrArg (fun c : Context κ => c.handshake.kemSs) (processToken_replier hstep hrun)
    exact hss

theorem Context.Meets.kemSecret (hmeets : c.Meets env amb m' m c₁) (hkept : c₁.Kept c) :
    c.kemSecret env m' = c₁.kemSecret env m := by
  have hcreated := hkept.createdIn
  cases hstep : c.handshake.createdIn with
  | createdRequest =>
    have hstep₁ := hcreated.symm.trans hstep
    simp only [Context.kemSecret, hstep, hstep₁, hmeets.keypair hstep, hmeets.ciphertext hstep]
  | createdReply =>
    have hstep₁ := hcreated.symm.trans hstep
    simp only [Context.kemSecret, hstep, hstep₁, hkept.kemSs hstep]

theorem Context.Derives.rchallenge (hx : c₁.Derives env m x) : ∃ y, c₁.relation.rchallenge = some y := by
  have hpair := hx.challenges
  cases hstep : c₁.handshake.createdIn with
  | createdRequest =>
    simp only [Context.challenges, hstep, Prod.mk.injEq] at hpair
    exact ⟨_, hpair.2⟩
  | createdReply =>
    simp only [Context.challenges, hstep, Prod.mk.injEq] at hpair
    exact ⟨_, hpair.1⟩

/-- A token that meets the same makes no other secret. -/
theorem processToken_meets {res : Except Stop (HandshakeResult × Int)}
    (hrun : processToken env amb optional trusted m' c = (res, c')) (hok : ∀ f, res ≠ .error (.fault f))
    (hx : c.handshake.sharedSecret = some x) (hderives : c₁.Derives env m x) (hkept : c₁.Kept c)
    (hmeets : c.Validates env amb optional trusted m' → c.Meets env amb m' m c₁) :
    c'.handshake.sharedSecret = some x := by
  rcases processToken_secret hrun hok with hsame | ⟨hv, cert, y, hcert, hy, hsecret⟩
  · exact hsame.trans hx
  have hm := hmeets hv
  have hframe : c.Frame c' := processToken_frame.result hrun
  obtain ⟨z, hz⟩ := hderives.rchallenge
  have hrchallenge : c'.relation.rchallenge = c₁.relation.rchallenge := by
    rw [hz]
    exact hframe.rchallenge z (hm.rchallenge.trans hz)
  have hch : c'.challenges = c₁.challenges := by
    simp only [Context.challenges, hframe.createdIn, hkept.createdIn, hframe.lchallenge, hkept.lchallenge, hrchallenge]
  obtain rfl := hderives.unique hy hch ((processToken_kemSecret hrun).trans (hm.kemSecret hkept))
  rw [hsecret, if_neg (hm.expiry cert hcert)]

/-! ## Runs -/

theorem Touches.handshake_eq (ht : Touches env amb s s' op h c c') (hh : s.handshake h = some hs) : c.handshake = hs := by
  cases ht with
  | request ha hrx on => exact on.source.handshake_eq ha hh
  | reply ha hrx on => exact on.source.handshake_eq ha hh
  | process ha hrx on => exact Option.some.inj (on.handshake.symm.trans hh)

theorem Effect.createdIn_kept (he : Effect env amb s op s') (hh : s.handshake h = some hs)
    (hh' : s'.handshake h = some hs') : hs'.createdIn = hs.createdIn := by
  rcases he.handshake_cases hh' with hold | ⟨c, c', ht, rfl⟩
  · rw [Option.some.inj (hh.symm.trans hold)]
  · rw [ht.frame.createdIn, ht.handshake_eq hh]

/-- A relation keeps the challenge of the local side. -/
theorem Effect.lchallenge_kept {relation relation' : IdentityRelation} (he : Effect env amb s op s')
    (hrel : s.relation a = some relation) (hrel' : s'.relation a = some relation') :
    relation'.lchallenge = relation.lchallenge := by
  rcases he.relation_cases hrel' with hsame | ⟨_, _, _, _, _, _, _, -, hnone, -⟩ |
    ⟨request, l, token, guid, r, z, old, -, -, -, hold, -, rfl⟩ | ⟨h, c, c', ht, rfl, rfl⟩
  · rw [Option.some.inj (hrel.symm.trans hsame)]
  · rw [hrel] at hnone
    cases hnone
  · rw [Option.some.inj (hrel.symm.trans hold)]
  · rw [ht.frame.lchallenge, Option.some.inj (ht.points.relation.symm.trans hrel)]

/-- The call passes a token to `process_handshake` for `h` that is accepted: it meets what `m` met. -/
def Authentication.Meets (env : Env κ ρ) (h : Handle) (m : Token) (c₁ : Context κ) (s : Authentication κ) (op : Op)
    (amb : Ambient ρ) : Prop :=
  ∀ m' c, op = .processHandshake m' h → s.context h = some c →
    c.Validates env amb s.includeOptional s.trustedCaList m' → c.Meets env amb m' m c₁

/-- The handshake `h` of `c₁` is live, between the same identities, and has the secret `x` and what no call replaces. -/
structure Authentication.Keeps (s : Authentication κ) (h : Handle) (c₁ : Context κ) (x : SharedSecret) : Prop where
  links : s.graph.Links h c₁.handshake.relation c₁.relation.localIdentity c₁.relation.remoteIdentity
  kept : ∃ c, s.context h = some c ∧ c.handshake.sharedSecret = some x ∧ c₁.Kept c

theorem Effect.secret_kept (he : Effect env amb s op s') (hc : s.context h = some c) (hx : c.handshake.sharedSecret = some x)
    (hderives : c₁.Derives env m x) (hkept : c₁.Kept c) (hmeets : s.Meets env h m c₁ op amb)
    (hh' : s'.handshake h = some hs') : hs'.sharedSecret = some x := by
  obtain ⟨hh, hp⟩ := context_eq_some.1 hc
  rcases he.handshake_cases hh' with hold | ⟨c₂, c', ht, rfl⟩
  · rw [← Option.some.inj (hh.symm.trans hold)]
    exact hx
  have hsame := ht.handshake_eq hh
  cases ht with
  | request ha hrx on => rw [makeRequest_secret on.run, hsame, hx]
  | reply ha hrx on => rw [makeReply_secret on.run, hsame, hx]
  | process ha hrx on =>
    obtain rfl : c₂ = c := Option.some.inj ((context_eq_some.2 ⟨on.handshake, on.points⟩).symm.trans hc)
    exact processToken_meets on.run hrx hx hderives hkept (hmeets _ _ rfl hc)

/-- One step: what is kept stays, unless the call returns the handshake or one of its identities. -/
theorem Effect.keeps (he : Effect env amb s op s') (hs : Referential s)
    (hend : ¬ op.Ends h c₁.relation.localIdentity c₁.relation.remoteIdentity)
    (hset : ∀ old, s.handshake h = some old → old.createdIn = .createdReply → old.kemCt ≠ none ∧ old.kemSs ≠ none)
    (hmeets : s.Meets env h m c₁ op amb) (hderives : c₁.Derives env m x) (hk : s.Keeps h c₁ x) : s'.Keeps h c₁ x := by
  have hlinks := he.links hs.sound hend hk.links
  refine ⟨hlinks, ?_⟩
  obtain ⟨c, hc, hx, hkept⟩ := hk.kept
  obtain ⟨hh, hp⟩ := context_eq_some.1 hc
  obtain ⟨hs', hh', -⟩ := Option.map_eq_some_iff.1 hlinks.relationOf
  obtain ⟨c', hc'⟩ := Option.isSome_iff_exists.1 (context_isSome (he.referential hs).sound hh')
  obtain ⟨hh', hp'⟩ := context_eq_some.1 hc'
  have hrelation : c'.handshake.relation = c.handshake.relation := by
    have hold := hk.links.relationOf
    have hnew := hlinks.relationOf
    simp only [Authentication.graph, hh, hh', Option.map_some, Option.some.injEq] at hold hnew
    exact hnew.trans hold.symm
  have hcreated := he.createdIn_kept hh hh'
  have hlchallenge := he.lchallenge_kept hp.relation (hrelation ▸ hp'.relation)
  refine ⟨c', hc', he.secret_kept hc hx hderives hkept hmeets hh', hcreated.trans hkept.createdIn,
    hlchallenge.trans hkept.lchallenge, fun hstep => ?_⟩
  rcases he.answered_cases hh' hstep hset with ⟨old, hold, hstep', -, hss⟩ | ⟨_, _, _, _, _, -, hnone, -⟩
  · obtain rfl := Option.some.inj (hh.symm.trans hold)
    exact hss.trans (hkept.kemSs hstep')
  · rw [hh] at hnone
    cases hnone

/-- A handshake made for a Request holds a ciphertext and a secret. -/
theorem run_encapsulated {tr : Trace (Authentication κ) (Op × Ambient ρ)} (hr : Run (plugin env).solo tr s)
    (hh : s.handshake h = some hs) (hcreated : hs.createdIn = .createdReply) : hs.kemCt ≠ none ∧ hs.kemSs ≠ none := by
  obtain ⟨inp, _, _, _, _, _, _, _, -, -, -, -, ct, ss, hct, hss, -⟩ := run_answeredFor hr h hs hh hcreated
  simp [hct, hss]

/-- **A completed handshake is stable.** `process_handshake` accepted the token `m` for `h`, whose objects are `c₁` then
and whose secret is `x`. As long as neither `h` nor one of its identities is returned, and each token accepted for `h`
meets what `m` met, `h` keeps handing out `x`. -/
theorem completed_handshake_stable (env : Env κ ρ) {later earlier : Trace (Authentication κ) (Op × Ambient ρ)}
    {s s₀ s₁ : Authentication κ} {m : Token} {h : Handle} {amb : Ambient ρ} {result : HandshakeResult}
    (hr : Run (plugin env).solo (later ++ (s₀, .processHandshake m h, amb) :: earlier) s)
    (hrun : processHandshake env amb m h s₀ = (.ok result, s₁)) :
    ∃ x c₁, getSharedSecret h s₁ = (.ok (some x), s₁) ∧ s₁.context h = some c₁ ∧
      ((∀ e ∈ later, ¬ e.2.1.Ends h c₁.relation.localIdentity c₁.relation.remoteIdentity ∧
          e.1.Meets env h m c₁ e.2.1 e.2.2) →
        getSharedSecret h s = (.ok (some x), s)) := by
  obtain ⟨s₂, hr₀, hstep, hsteps⟩ := hr.split
  obtain rfl : s₂ = s₁ := hstep.2.trans (congrArg Prod.fst (exec_processHandshake hstep.1.1 hrun))
  rcases processHandshake_cases hrun (by simp) with ⟨⟨e, he⟩, -⟩ | ⟨c, c', rx, hres, hon⟩
  · cases he
  rcases rx with e | v
  · cases hres
  obtain ⟨timer, hcontext⟩ := hon.context
  obtain ⟨x, hx, hderives⟩ := processToken_derives hon.run
  obtain ⟨hh, hp⟩ := context_eq_some.1 hcontext
  have hne : h ≠ 0 := processHandshake_handle hrun
  refine ⟨x, _, getSharedSecret_some.2 ⟨rfl, hne, _, hh, hx⟩, hcontext, fun hlater => ?_⟩
  have hinv := hsteps.inv_of (I := fun t => t.Keeps h { c' with remoteIdentity.timer := timer } x) hlater ?_ ?_
  · obtain ⟨c₂, hc₂, hx₂, -⟩ := hinv.kept
    exact getSharedSecret_some.2 ⟨rfl, hne, _, (context_eq_some.1 hc₂).1, hx₂⟩
  · rintro tr t ⟨op, amb'⟩ t' hmid hk ⟨hend, hmeets⟩ ⟨-, rfl⟩
    have hrt := (hr₀.step hstep).append hmid
    exact (exec_effect t op amb').keeps (run_referential hrt) hend (fun _ hold => run_encapsulated hrt hold) hmeets
      ⟨hderives.challenges, hderives.secret⟩ hk
  · exact ⟨⟨by simp [Authentication.graph, hh], by simp [Authentication.graph, hp.relation]⟩, _, hcontext, hx, rfl, rfl,
      fun _ => rfl⟩

/-! ## A Reply that is processed again

Alice completes a handshake. To process the Reply again is harmless, unless she makes another Request first. -/

namespace Ideal

def restarted : State := after completed [requestCall 12 3]

def replayed : State := after restarted [processCall 13 reply 10]

def repeated : State := after completed [processCall 13 reply 10]

/-- The secret at the handle 10. -/
def secretOf (s : State) : Option SharedSecret := (s.handshake 10).bind (·.sharedSecret)

theorem secretOf_eq_some {s : State} {x : SharedSecret} :
    secretOf s = some x ↔ getSharedSecret 10 s = (.ok (some x), s) := by
  simp [getSharedSecret_some, secretOf, Option.bind_eq_some_iff]

/-- When the certificate in the Reply expires. -/
def expiryOf (s : State) : Option (Option Int) :=
  (s.context 10).map fun c => (c.peerCertificate Ideal.env reply).map (getCertificateExpiry (ambient 13))

theorem restarted_facts : (plugin Ideal.env).defined completed (requestCall 12 3) ∧
    (plugin Ideal.env).defined restarted (processCall 13 reply 10) ∧ (secretOf completed).isSome ∧
    (secretOf replayed).isSome ∧ secretOf replayed ≠ secretOf completed := by
  decide +kernel

theorem repeated_facts : (plugin Ideal.env).defined completed (processCall 13 reply 10) ∧
    (plugin Ideal.env).defined repeated (requestCall 12 3) ∧ expiryOf completed = some (some 1001000000000) := by
  decide +kernel

/-- The Reply meets what it met before. -/
theorem reply_meets {c : Context UInt8} (hc : completed.context 10 = some c) :
    c.Meets Ideal.env (ambient 13) reply reply c := by
  refine ⟨rfl, fun cert hcert => ?_, fun _ => rfl, fun _ => rfl⟩
  have hexpiry := repeated_facts.2.2
  rw [expiryOf, hc, Option.map_some, hcert, Option.map_some, Option.some.injEq, Option.some.injEq] at hexpiry
  rw [hexpiry]
  decide

end Ideal

/-- Alice makes another Request for the pair and processes the first Reply again, and her secret is another one. -/
theorem completed_handshake_fails : ∃ later earlier s s₀ s₁ m h amb result x x',
    Run (plugin Ideal.env).solo (later ++ (s₀, .processHandshake m h, amb) :: earlier) s ∧
    processHandshake Ideal.env amb m h s₀ = (.ok result, s₁) ∧ getSharedSecret h s₁ = (.ok (some x), s₁) ∧
    (∀ e ∈ later, ∀ l r, ¬ e.2.1.Ends h l r) ∧ getSharedSecret h s = (.ok (some x'), s) ∧ x' ≠ x := by
  obtain ⟨hdef, hdef', h₁, h₂, hne⟩ := Ideal.restarted_facts
  obtain ⟨x, hx⟩ := Option.isSome_iff_exists.1 h₁
  obtain ⟨x', hx'⟩ := Option.isSome_iff_exists.1 h₂
  obtain ⟨result, hrun⟩ := Ideal.completed_ok
  have hrestarted := Ideal.run_after Ideal.completed_run (Ideal.requestCall 12 3) hdef
  have hreplay := Ideal.run_after hrestarted (Ideal.processCall 13 Ideal.reply 10) hdef'
  refine ⟨[(Ideal.restarted, Ideal.processCall 13 Ideal.reply 10), (Ideal.completed, Ideal.requestCall 12 3)], _, _, _, _, _, _,
    _, result, x, x', hreplay, hrun, Ideal.secretOf_eq_some.1 hx, ?_, Ideal.secretOf_eq_some.1 hx', ?_⟩
  · simp [Ideal.processCall, Ideal.requestCall, Op.Ends]
  · rintro rfl
    exact hne (hx'.trans hx.symm)

theorem completed_handshake_stable_sample : ∃ x, getSharedSecret 10 (Ideal.after Ideal.repeated [Ideal.requestCall 12 3]) =
    (.ok (some x), Ideal.after Ideal.repeated [Ideal.requestCall 12 3]) := by
  obtain ⟨hdef, hdef', -⟩ := Ideal.repeated_facts
  obtain ⟨result, hrun⟩ := Ideal.completed_ok
  have hr : Run (plugin Ideal.env).solo ([(Ideal.repeated, Ideal.requestCall 12 3),
      (Ideal.completed, Ideal.processCall 13 Ideal.reply 10)] ++ Ideal.completedTrace)
      (Ideal.after Ideal.repeated [Ideal.requestCall 12 3]) :=
    Ideal.run_after (Ideal.run_after Ideal.completed_run (Ideal.processCall 13 Ideal.reply 10) hdef) (Ideal.requestCall 12 3)
      hdef'
  obtain ⟨x, c, -, hc, hstable⟩ := completed_handshake_stable Ideal.env hr hrun
  refine ⟨x, hstable ?_⟩
  simp only [List.mem_cons, List.not_mem_nil, or_false]
  rintro e (rfl | rfl)
  · refine ⟨id, fun m' c' hop => ?_⟩
    cases hop
  · refine ⟨id, fun m' c' hop hc' _ => ?_⟩
    have hm : m' = Ideal.reply := (Op.processHandshake.inj hop).1.symm
    dsimp only at hc'
    obtain rfl : c' = c := Option.some.inj (hc'.symm.trans hc)
    rw [hm]
    exact Ideal.reply_meets hc

end PqsecDds.CycloneDDS
