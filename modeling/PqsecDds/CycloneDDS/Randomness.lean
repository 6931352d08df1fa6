import PqsecDds.CycloneDDS.Integrity

/-!
# Where the challenges come from

`generate_challenge` draws a challenge, `validate_remote_identity` stores it in the relation, and the AuthRequest, the
Request, the Reply and the Final take it from there. `RAND_bytes` says 1 when it filled the buffer and 0 or -1 when it
did not; `generate_challenge` (auth_utils.c:787) tests for a negative value, so an answer of 0 counts as success.
-/

namespace PqsecDds.CycloneDDS

open Lib

variable {κ ρ : Type} {env : Env κ ρ} {amb : Ambient ρ} {s s' : Authentication κ} {l r h a : Handle} {inp out : Token}
variable {c c' : Context κ} {tr : Trace (Authentication κ) (Op × Ambient ρ)} {x : Challenge} {guid : Guid}
variable {request : Option Token} {token : Token} {optional : Bool} {trusted : List X509} {pdata : Octets}

/-- `RAND_bytes` filled the buffer, or its answer was negative. -/
def Decisive (amb : Ambient ρ) : Prop := amb.randReturn = 1 ∨ amb.randReturn < 0

/-- In this call, if it draws a challenge. -/
def DecisiveCall : Op × Ambient ρ → Prop
  | (.validateRemoteIdentity .., amb) => Decisive amb
  | _ => True

/-- A call of `validate_remote_identity` filled `x` with random octets. -/
def Drawn (tr : Trace (Authentication κ) (Op × Ambient ρ)) (x : Challenge) : Prop :=
  ∃ s₀ request l token guid amb, (s₀, .validateRemoteIdentity request l token guid, amb) ∈ tr ∧ amb.randReturn = 1 ∧
    amb.randBytes = x

/-- The challenge of that name in `out` was drawn. -/
def Originates (tr : Trace (Authentication κ) (Op × Ambient ρ)) (out : Token) (name : String) : Prop :=
  ∃ x : Challenge, out.findBinaryProperty name = some (binaryProperty name x.1) ∧ Drawn tr x

theorem Drawn.later {e : Authentication κ × Op × Ambient ρ} (h : Drawn tr x) : Drawn (e :: tr) x := by
  obtain ⟨s₀, request, l, token, guid, amb, hmem, hx⟩ := h
  exact ⟨s₀, request, l, token, guid, amb, List.mem_cons_of_mem _ hmem, hx⟩

/-- A challenge is returned only if the generator filled it, or answered neither yes nor no. -/
theorem generateChallenge_ok (hdec : Decisive amb) (hx : generateChallenge amb = .ok x) :
    amb.randReturn = 1 ∧ amb.randBytes = x := by
  unfold generateChallenge at hx
  by_cases hneg : amb.randReturn < 0
  · rw [if_pos hneg] at hx
    cases hx
  · rw [if_neg hneg] at hx
    refine ⟨?_, Except.ok.inj hx⟩
    rcases hdec with h | h
    · exact h
    · exact absurd h hneg

/-! ## Relations -/

/-- The challenge of a relation was there before `validate_remote_identity`, or is the one it drew. -/
theorem Sighting.lchallenge {y : Challenge} {rchallenge : Option Challenge} {remote : RemoteIdentityInfo}
    {relation : IdentityRelation} (hsight : Sighting amb s l token guid y rchallenge r a remote relation)
    (hx : relation.lchallenge = some x) :
    x = y ∨ ∃ old, s.relation a = some old ∧ old.lchallenge = some x := by
  cases hsight with
  | made new => exact .inl (Option.some.inj hx).symm
  | linked known object unlinked => exact .inl (Option.some.inj hx).symm
  | known known object linked pointer => exact .inr ⟨_, pointer, hx⟩

theorem Effect.lchallenge_cases {op : Op} {relation : IdentityRelation} (he : Effect env amb s op s')
    (hrel : s'.relation a = some relation) (hx : relation.lchallenge = some x) :
    (∃ old, s.relation a = some old ∧ old.lchallenge = some x) ∨
      ∃ request l token guid, op = .validateRemoteIdentity request l token guid ∧ generateChallenge amb = .ok x := by
  have hold : (∃ old, s.relation a = some old ∧ old.lchallenge = relation.lchallenge) →
      ∃ old, s.relation a = some old ∧ old.lchallenge = some x := by
    rintro ⟨old, ho, heq⟩
    exact ⟨old, ho, heq.trans hx⟩
  rcases he.relation_cases hrel with hsame | ⟨request, l, token, guid, r, y, z, rfl, hnone, rfl⟩ |
    ⟨request, l, token, guid, r, y, old, -, -, -, ho, -, rfl⟩ | ⟨h, c, c', ht, rfl, rfl⟩
  · exact .inl (hold ⟨relation, hsame, rfl⟩)
  · right
    obtain rfl := Option.some.inj hx
    refine ⟨request, l, token, guid, rfl, ?_⟩
    cases he with
    | same => simp [hnone] at hrel
    | remoteSeen ha seen =>
      obtain ⟨y', hgen, hsight⟩ := seen.sighting
      rw [seen.relation] at hrel
      split at hrel
      · rename_i heq
        subst heq
        obtain rfl := Option.some.inj hrel
        rcases hsight.lchallenge rfl with rfl | ⟨old, ho, -⟩
        · exact hgen
        · rw [hnone] at ho
          cases ho
      · rw [hnone] at hrel
        cases hrel
  · exact .inl (hold ⟨old, ho, rfl⟩)
  · exact .inl (hold ⟨c.relation, ht.points.relation, ht.frame.lchallenge.symm⟩)

/-- Every challenge of the local side was drawn. -/
theorem run_drawn (hr : Run (plugin env).solo tr s) (hdec : ∀ e ∈ tr, DecisiveCall e.2) :
    ∀ a relation x, s.relation a = some relation → relation.lchallenge = some x → Drawn tr x := by
  revert hdec
  refine hr.inv (I := fun tr s => (∀ e ∈ tr, DecisiveCall e.2) → ∀ a relation x, s.relation a = some relation →
    relation.lchallenge = some x → Drawn tr x) ?_ ?_
  · rintro s ⟨optional, kem, rfl⟩ - a relation x hrel
    cases hrel
  · rintro tr s ⟨op, amb⟩ s' - ih ⟨-, rfl⟩ hdec a relation x hrel hx
    have he : Effect env amb s op _ := exec_effect s op amb
    rcases he.lchallenge_cases hrel hx with ⟨old, hold, hx'⟩ | ⟨request, l, token, guid, rfl, hgen⟩
    · exact (ih (fun e he => hdec e (List.mem_cons_of_mem _ he)) a old x hold hx').later
    · obtain ⟨hone, hbytes⟩ := generateChallenge_ok (hdec _ List.mem_cons_self) hgen
      exact ⟨s, request, l, token, guid, amb, List.mem_cons_self, hone, hbytes⟩

/-! ## Tokens -/

theorem makeRequest_challenge1 {certData : Octets}
    (hrun : makeRequest env amb optional certData pdata c = (.ok out, c')) :
    ∃ x, c.relation.lchallenge = some x ∧ out.findBinaryProperty "challenge1" = some (binaryProperty "challenge1" x.1) := by
  obtain ⟨keypair, x, -, -, hx, -, rfl⟩ := makeRequest_ok hrun
  refine ⟨x, hx, ?_⟩
  cases optional <;> rfl

theorem makeReply_challenge2 {signed : Signed}
    (hrun : makeReply env amb optional trusted inp pdata c = (.ok (out, signed), c')) :
    ∃ x, c.relation.lchallenge = some x ∧ out.findBinaryProperty "challenge2" = some (binaryProperty "challenge2" x.1) := by
  obtain ⟨cert, c₁, ct, ss, hacc, hans⟩ := makeReply_ok hrun
  obtain ⟨y, -, rfl⟩ := hacc.state
  obtain ⟨certData, challenge1, x, signature, -, -, hx, rfl, -⟩ := hans.token
  rw [accepted_relation] at hx
  refine ⟨x, hx, ?_⟩
  cases optional <;> rfl

theorem processToken_challenge1 {signed : Signed} {certExp : Int}
    (hrun : processToken env amb optional trusted inp c = (.ok (.okFinalMessage out signed, certExp), c')) :
    ∃ x, c.relation.lchallenge = some x ∧ out.findBinaryProperty "challenge1" = some (binaryProperty "challenge1" x.1) := by
  rcases processToken_ok hrun with ⟨out', signed', cert, key, keypair, ss, heq, -, c₁, hacc, c₂, hfin, -⟩ | ⟨heq, -⟩
  · cases heq
    obtain ⟨y, -, rfl⟩ := hacc.state
    obtain ⟨x, challenge2, signature, hx, -, rfl, -⟩ := hfin.token
    rw [accepted_relation] at hx
    refine ⟨x, hx, ?_⟩
    cases optional <;> rfl
  · cases heq

/-! ## Every run -/

/-- What is promised of the challenges after the calls `tr`, and of the next call. -/
structure Genuine (env : Env κ ρ) (tr : Trace (Authentication κ) (Op × Ambient ρ)) (s : Authentication κ)
    (amb : Ambient ρ) : Prop where
  relation : ∀ a relation x, s.relation a = some relation → relation.lchallenge = some x → Drawn tr x
  authRequest : ∀ request l token guid result r out s',
    validateRemoteIdentity env amb request l token guid s = (.ok (result, r, some out), s') →
    Originates ((s, .validateRemoteIdentity request l token guid, amb) :: tr) out "future_challenge"
  request : ∀ l r pdata h out s', beginHandshakeRequest env amb l r pdata s = (.ok (h, out), s') →
    Originates tr out "challenge1"
  reply : ∀ inp l r pdata h out signed s', beginHandshakeReply env amb inp r l pdata s = (.ok (h, out, signed), s') →
    Originates tr out "challenge2"
  final : ∀ inp h out signed s', processHandshake env amb inp h s = (.ok (.okFinalMessage out signed), s') →
    Originates tr out "challenge1"
  /-- a generator that fails fails the call, which leaves everything as it was -/
  failure : ∀ request l token guid, amb.randReturn ≠ 1 →
    ∃ e, validateRemoteIdentity env amb request l token guid s = (.error (.failed e), s)

theorem validateRemoteIdentity_ne_fault {res : Except Stop (RemoteResult × Handle × Option Token)} (hs : Referential s)
    (hrun : validateRemoteIdentity env amb request l token guid s = (res, s')) (f : Fault) : res ≠ .error (.fault f) := by
  rintro rfl
  have hstops : Act.StopsWith (fun e => ∃ ex, e = .failed ex) (validateRemoteIdentity env amb request l token guid) s :=
    validateRemoteIdentity_stops (fun ex => ⟨ex, rfl⟩) hs
  obtain ⟨ex, he⟩ := hstops _ (congrArg Prod.fst hrun)
  cases he

/-- **Every challenge is genuine randomness** in every run in which `RAND_bytes` never answers 0: the challenges that
the plugin originates were drawn, and a generator that fails fails `validate_remote_identity`. -/
theorem challenges_are_drawn (hr : Run (plugin env).solo tr s) (hdec : ∀ e ∈ tr, DecisiveCall e.2) (ha : Allocates amb s)
    (hd : Decisive amb) : Genuine env tr s amb := by
  have hs := run_referential hr
  have hdrawn := run_drawn hr hdec
  constructor
  · exact hdrawn
  · intro request l token guid result r out s' hrun
    rcases validateRemoteIdentity_cases ha hrun (by simp) with ⟨⟨e, he⟩, -⟩ |
      ⟨r', a, remote, relation, rchallenge, localIdent, -, hseen, hres⟩
    · cases he
    have hout : (if request.isSome then none else relation.lchallenge.map authRequestToken) = some out :=
      (congrArg (fun p : RemoteResult × Handle × Option Token => p.2.2) (Except.ok.inj hres)).symm
    split at hout
    · cases hout
    obtain ⟨x, hx, rfl⟩ := Option.map_eq_some_iff.1 hout
    obtain ⟨y, hgen, hsight⟩ := hseen.sighting
    refine ⟨x, rfl, ?_⟩
    rcases hsight.lchallenge hx with rfl | ⟨old, hold, hx'⟩
    · obtain ⟨hone, hbytes⟩ := generateChallenge_ok hd hgen
      exact ⟨s, request, l, token, guid, amb, List.mem_cons_self, hone, hbytes⟩
    · exact (hdrawn a old x hold hx').later
  · intro l r pdata h out s' hrun
    rcases beginHandshakeRequest_cases ha hrun (by simp) with ⟨⟨e, he⟩, -⟩ | ⟨certData, h', c, c', rx, hres, hon⟩
    · cases he
    cases rx with
    | error e => cases hres
    | ok v =>
      obtain ⟨rfl, rfl⟩ := Prod.mk.inj (Except.ok.inj hres)
      obtain ⟨x, hx, hout⟩ := makeRequest_challenge1 hon.run
      exact ⟨x, hout, hdrawn _ _ x hon.points.relation hx⟩
  · intro inp l r pdata h out signed s' hrun
    rcases beginHandshakeReply_cases ha hrun (by simp) with ⟨⟨e, he⟩, -⟩ | ⟨h', c, c', rx, hres, hon⟩
    · cases he
    cases rx with
    | error e => cases hres
    | ok v =>
      obtain ⟨rfl, rfl⟩ := Prod.mk.inj (Except.ok.inj hres)
      obtain ⟨x, hx, hout⟩ := makeReply_challenge2 hon.run
      exact ⟨x, hout, hdrawn _ _ x hon.points.relation hx⟩
  · intro inp h out signed s' hrun
    rcases processHandshake_cases hrun (by simp) with ⟨⟨e, he⟩, -⟩ | ⟨c, c', rx, hres, hon⟩
    · cases he
    cases rx with
    | error e => cases hres
    | ok v =>
      obtain ⟨result, certExp⟩ := v
      obtain rfl := Except.ok.inj hres
      obtain ⟨x, hx, hout⟩ := processToken_challenge1 hon.run
      exact ⟨x, hout, hdrawn _ _ x hon.points.relation hx⟩
  · intro request l token guid hone
    rcases hrun : validateRemoteIdentity env amb request l token guid s with ⟨res, s'⟩
    have hok := validateRemoteIdentity_ne_fault hs hrun
    rcases validateRemoteIdentity_cases ha hrun hok with ⟨⟨e, rfl⟩, rfl⟩ | ⟨r, a, remote, relation, rchallenge, localIdent, -, hseen, -⟩
    · cases e with
      | failed ex => exact ⟨ex, rfl⟩
      | fault f => exact absurd rfl (hok f)
    · obtain ⟨y, hgen, -⟩ := hseen.sighting
      exact absurd (generateChallenge_ok hd hgen).1 hone

theorem challenges_are_drawn_sample : Genuine Ideal.env ((plugin Ideal.env).history [] Ideal.start Ideal.aliceCalls)
    (Ideal.after Ideal.start Ideal.aliceCalls) (Ideal.ambient 10) := by
  refine challenges_are_drawn (Ideal.calls_run true .mlKem512 Ideal.aliceCalls) ?_ (by decide +kernel) (.inl rfl)
  intro e he
  simp only [Ideal.aliceCalls, Machine.history, List.mem_cons, List.not_mem_nil, or_false] at he
  rcases he with rfl | rfl
  · exact .inl rfl
  · trivial

/-! ## A generator that answers 0 -/

namespace Ideal

/-- The remote participant is met while `RAND_bytes` answers 0. -/
def unluckyCalls : List SampleCall :=
  [localCall 3, (.validateRemoteIdentity none 1 identityToken (Ideal.guid 5), { ambient 2 with randReturn := 0 })]

end Ideal

/-- The buffer that was not filled is the challenge of the relation, and is sent in the AuthRequest. -/
theorem challenges_are_drawn_fails :
    ¬ ∀ tr s amb, Run (plugin Ideal.env).solo tr s → Allocates amb s → Genuine Ideal.env tr s amb := by
  intro hall
  have hgenuine := hall _ _ (Ideal.ambient 10) (Ideal.calls_run true .mlKem512 Ideal.unluckyCalls) (by decide +kernel)
  have hrel : ((Ideal.after Ideal.start Ideal.unluckyCalls).relation 2).bind (·.lchallenge) =
      some (Ideal.ambient 2).randBytes := by decide +kernel
  obtain ⟨relation, hrelation, hx⟩ := Option.bind_eq_some_iff.1 hrel
  obtain ⟨s₀, request, l, token, guid, amb, hmem, hone, -⟩ := hgenuine.relation 2 relation _ hrelation hx
  simp only [Ideal.unluckyCalls, Machine.history, List.mem_cons, Prod.mk.injEq, List.not_mem_nil, or_false] at hmem
  rcases hmem with ⟨-, -, rfl⟩ | ⟨-, hop, -⟩
  revert hone
  decide

end PqsecDds.CycloneDDS
