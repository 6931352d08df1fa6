import PqsecDds.CycloneDDS.Answers
import PqsecDds.CycloneDDS.Stability

/-!
# Where the key material of a handshake comes from

The local identities use the KEM of the instance (`run_kagree`), every key pair was generated by a call of
`begin_handshake_request` (`run_requested`), and a handshake that was made for a Request keeps what was encapsulated for
that Request (`run_answeredFor`).
-/

namespace PqsecDds.CycloneDDS

open Lib Context

variable {κ ρ : Type} {env : Env κ ρ} {amb : Ambient ρ} {s s' : Authentication κ} {h l r : Handle} {op : Op}
variable {c c' : Context κ} {hs : HandshakeInfo κ} {tr : Trace (Authentication κ) (Op × Ambient ρ)} {inp : Token}

/-! ## The KEM of the instance -/

theorem exec_kem (s : Authentication κ) (op : Op) (amb : Ambient ρ) : ((plugin env).exec s (op, amb)).1.kem = s.kem :=
  (exec_effect s op amb).settings.2

theorem run_kagree (hr : Run (plugin env).solo tr s) : ∀ l identity, s.localIdentity l = some identity →
    identity.kagreeAlgoKind = s.kem := by
  refine hr.state_inv (I := fun s => ∀ l identity, s.localIdentity l = some identity → identity.kagreeAlgoKind = s.kem) ?_ ?_
  · rintro s ⟨optional, kem, rfl⟩ l identity hl
    cases hl
  · rintro s ⟨op, amb⟩ s' ih ⟨-, rfl⟩ l identity hl
    have he : Effect env amb s op _ := exec_effect s op amb
    rw [exec_kem]
    rcases he.localIdentity_cases hl with ⟨old, _, _, _, hold, rfl⟩ | ⟨_, _, _, -, -, -, hmade⟩
    · exact ih l old hold
    · exact congrArg LocalIdentityInfo.kagreeAlgoKind hmade.made

/-! ## Key pairs -/

/-- A call of `begin_handshake_request` generated the key pair, for the KEM `kind`. -/
def Requested (env : Env κ ρ) (tr : Trace (Authentication κ) (Op × Ambient ρ)) (kind : AuthAlgoKind)
    (keypair : KemKeypair κ) : Prop :=
  keypair.kind = kind ∧ ∃ s₀ l r pdata amb, (s₀, .beginHandshakeRequest l r pdata, amb) ∈ tr ∧
    keypair.Generated env amb.keySeed

theorem Requested.later {kind : AuthAlgoKind} {keypair : KemKeypair κ} {e : Authentication κ × Op × Ambient ρ}
    (hk : Requested env tr kind keypair) : Requested env (e :: tr) kind keypair := by
  obtain ⟨hkind, s₀, l, r, pdata, amb, hmem, hgen⟩ := hk
  exact ⟨hkind, s₀, l, r, pdata, amb, List.mem_cons_of_mem _ hmem, hgen⟩

theorem Source.kemKeypair {step : CreatedHandshakeStep} {keypair : KemKeypair κ} (hsrc : Source amb s l r step h c)
    (hk : c.handshake.kemKeypair = some keypair) : s.handshake h = some c.handshake := by
  cases hsrc with
  | found handshake localHandle remoteHandle => exact handshake
  | made none linked handshake =>
    rw [handshake] at hk
    cases hk

/-- Only `begin_handshake_request` gives a handshake a key pair. -/
theorem Effect.keypair_cases {keypair : KemKeypair κ} (he : Effect env amb s op s') (hh : s'.handshake h = some hs)
    (hk : hs.kemKeypair = some keypair) :
    (∃ old, s.handshake h = some old ∧ old.kemKeypair = some keypair) ∨
      ∃ l r pdata c, op = .beginHandshakeRequest l r pdata ∧ Points s c ∧
        pqsecKemKeypairGenerate env c.localIdentity.kagreeAlgoKind amb.keySeed = some keypair := by
  rcases he.handshake_cases hh with hold | ⟨c, c', ht, rfl⟩
  · exact .inl ⟨hs, hold, hk⟩
  cases ht with
  | request ha hrx on =>
    rcases makeRequest_keypair on.run with hnone | ⟨keypair', hsome, hgen⟩
    · rw [hnone] at hk
      cases hk
    · obtain rfl := Option.some.inj (hsome.symm.trans hk)
      exact .inr ⟨_, _, _, c, rfl, on.points, hgen⟩
  | reply ha hrx on =>
    rw [(makeReply_material on.run).1] at hk
    exact .inl ⟨_, on.source.kemKeypair hk, hk⟩
  | process ha hrx on =>
    rw [processToken_keypair on.run] at hk
    exact .inl ⟨_, on.handshake, hk⟩

theorem run_requested (hr : Run (plugin env).solo tr s) : ∀ h hs keypair, s.handshake h = some hs →
    hs.kemKeypair = some keypair → Requested env tr s.kem keypair := by
  refine hr.inv (I := fun tr s => ∀ h hs keypair, s.handshake h = some hs → hs.kemKeypair = some keypair →
    Requested env tr s.kem keypair) ?_ ?_
  · rintro s ⟨optional, kem, rfl⟩ h hs keypair hh
    cases hh
  · rintro tr s ⟨op, amb⟩ s' hr ih ⟨-, rfl⟩ h hs keypair hh hk
    have he : Effect env amb s op _ := exec_effect s op amb
    rw [exec_kem]
    rcases he.keypair_cases hh hk with ⟨old, hold, hk'⟩ | ⟨l, r, pdata, c, rfl, hp, hgen⟩
    · exact (ih h old keypair hold hk').later
    · obtain ⟨hkind, hgenerated⟩ := pqsecKemKeypairGenerate_some hgen
      refine ⟨hkind.trans (run_kagree hr _ _ hp.localIdentity), s, l, r, pdata, amb, List.mem_cons_self, hgenerated⟩

/-! ## Ciphertexts and secrets -/

/-- The ciphertext and the secret of the handshake are those of one encapsulation to the public key in `inp`. -/
structure Holds (env : Env κ ρ) (kind : AuthAlgoKind) (seed : ρ) (inp : Token) (hs : HandshakeInfo κ) : Prop where
  size : (inp.value "pqsec-dds.kem_public").length = getKemPublicKeySize kind
  encapsulated : ∃ ct ss, hs.kemCt = some ct ∧ hs.kemSs = some ss ∧
    (env.kem kind).Encapsulated (inp.value "pqsec-dds.kem_public") seed ct ss

theorem Holds.of_eq {kind : AuthAlgoKind} {seed : ρ} {hs' : HandshakeInfo κ} (hholds : Holds env kind seed inp hs)
    (hct : hs'.kemCt = hs.kemCt) (hss : hs'.kemSs = hs.kemSs) : Holds env kind seed inp hs' := by
  obtain ⟨hsize, ct, ss, hct', hss', henc⟩ := hholds
  exact ⟨hsize, ct, ss, hct.trans hct', hss.trans hss', henc⟩

/-- A call of `begin_handshake_reply` answered `inp` and made the handshake `h`, which is live since then and keeps what
was encapsulated. -/
def AnsweredFor (env : Env κ ρ) (tr : Trace (Authentication κ) (Op × Ambient ρ)) (kind : AuthAlgoKind) (h : Handle)
    (hs : HandshakeInfo κ) (inp : Token) : Prop :=
  ∃ later s₀ r l pdata amb earlier, tr = later ++ (s₀, .beginHandshakeReply inp r l pdata, amb) :: earlier ∧
    s₀.handshake h = none ∧ (∀ e ∈ later, (e.1.handshake h).isSome) ∧ Holds env kind amb.encapSeed inp hs

theorem AnsweredFor.later {kind : AuthAlgoKind} {hs' : HandshakeInfo κ} (hans : AnsweredFor env tr kind h hs inp)
    (hh : s.handshake h = some hs) (hct : hs'.kemCt = hs.kemCt) (hss : hs'.kemSs = hs.kemSs) :
    AnsweredFor env ((s, op, amb) :: tr) kind h hs' inp := by
  obtain ⟨later, s₀, r, l, pdata, amb₀, earlier, rfl, hnone, hlive, hholds⟩ := hans
  refine ⟨(s, op, amb) :: later, s₀, r, l, pdata, amb₀, earlier, rfl, hnone, fun e he => ?_, hholds.of_eq hct hss⟩
  rcases List.mem_cons.1 he with rfl | he
  · simp [hh]
  · exact hlive e he

/-- A handshake that was made for a Request keeps what it holds, or this call made it. -/
theorem Effect.answered_cases (he : Effect env amb s op s') (hh : s'.handshake h = some hs)
    (hcreated : hs.createdIn = .createdReply)
    (hset : ∀ old, s.handshake h = some old → old.createdIn = .createdReply → old.kemCt ≠ none ∧ old.kemSs ≠ none) :
    (∃ old, s.handshake h = some old ∧ old.createdIn = .createdReply ∧ hs.kemCt = old.kemCt ∧ hs.kemSs = old.kemSs) ∨
      ∃ inp r l pdata c, op = .beginHandshakeReply inp r l pdata ∧ s.handshake h = none ∧ Points s c ∧
        Holds env c.localIdentity.kagreeAlgoKind amb.encapSeed inp hs := by
  rcases he.handshake_cases hh with hold | ⟨c, c', ht, rfl⟩
  · exact .inl ⟨hs, hold, hcreated, rfl, rfl⟩
  have hframe := ht.frame
  rw [hframe.createdIn] at hcreated
  cases ht with
  | @request l r _ pdata certData _ _ rx ha hrx on =>
    have hsame := makeRequest_same.result on.run
    have hct : c'.handshake.kemCt = c.handshake.kemCt := congrArg (fun x : _ × _ × HandshakeInfo κ => x.2.2.kemCt) hsame
    have hss : c'.handshake.kemSs = c.handshake.kemSs := congrArg (fun x : _ × _ × HandshakeInfo κ => x.2.2.kemSs) hsame
    rcases on.source with ⟨handshake, -, -⟩ | ⟨-, -, handshake⟩
    · exact .inl ⟨c.handshake, handshake, hcreated, hct, hss⟩
    · rw [handshake] at hcreated
      cases hcreated
  | @reply inp l r _ pdata _ _ rx ha hrx on =>
    rcases on.source with ⟨handshake, -, -⟩ | ⟨-, -, handshake⟩
    · obtain ⟨hct, hss⟩ := hset _ handshake hcreated
      obtain ⟨hmaterial, -⟩ := (makeReply_material on.run).2 hct hss
      have hct' := congrArg HandshakeInfo.kemCt hmaterial
      have hss' := congrArg HandshakeInfo.kemSs hmaterial
      exact .inl ⟨c.handshake, handshake, hcreated, hct', hss'⟩
    · have hnone : s.handshake amb.object = none := handshake_fresh ha
      have hleft := on.moved.handshake amb.object
      rw [if_pos rfl, hh] at hleft
      rcases rx with e | ⟨out, signed⟩
      · simp [remaining, hnone, Except.isOk, Except.toBool] at hleft
      · obtain ⟨cert, c₁, ct, ss, hacc, -⟩ := makeReply_ok on.run
        obtain ⟨ct', ss', -, hct, hss, henc⟩ := (makeReply_reply on.run).kem.encapsulated
        exact .inr ⟨inp, r, l, pdata, c, rfl, hnone, on.points, hacc.kemPublic, ct', ss', hct, hss, henc⟩
  | process ha hrx on =>
    have hsame := processToken_replier hcreated on.run
    have hct := congrArg (fun c : Context κ => c.handshake.kemCt) hsame
    have hss := congrArg (fun c : Context κ => c.handshake.kemSs) hsame
    exact .inl ⟨c.handshake, on.handshake, hcreated, hct, hss⟩

theorem run_answeredFor (hr : Run (plugin env).solo tr s) : ∀ h hs, s.handshake h = some hs →
    hs.createdIn = .createdReply → ∃ inp, AnsweredFor env tr s.kem h hs inp := by
  refine hr.inv (I := fun tr s => ∀ h hs, s.handshake h = some hs → hs.createdIn = .createdReply →
    ∃ inp, AnsweredFor env tr s.kem h hs inp) ?_ ?_
  · rintro s ⟨optional, kem, rfl⟩ h hs hh
    cases hh
  · rintro tr s ⟨op, amb⟩ s' hr ih ⟨-, rfl⟩ h hs hh hcreated
    have he : Effect env amb s op _ := exec_effect s op amb
    rw [exec_kem]
    have hset : ∀ old, s.handshake h = some old → old.createdIn = .createdReply → old.kemCt ≠ none ∧ old.kemSs ≠ none := by
      intro old hold hstep
      obtain ⟨inp, _, _, _, _, _, _, _, -, -, -, -, ct, ss, hct, hss, -⟩ := ih h old hold hstep
      simp [hct, hss]
    rcases he.answered_cases hh hcreated hset with
      ⟨old, hold, hstep, hct, hss⟩ | ⟨inp, r, l, pdata, c, rfl, hnone, hp, hholds⟩
    · obtain ⟨inp, hans⟩ := ih h old hold hstep
      exact ⟨inp, hans.later hold hct hss⟩
    · rw [run_kagree hr _ _ hp.localIdentity] at hholds
      exact ⟨inp, [], s, r, l, pdata, amb, tr, rfl, hnone, by simp, hholds⟩

end PqsecDds.CycloneDDS
