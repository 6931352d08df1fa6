import PqsecDds.CycloneDDS.Specs

/-!
# How the parts of a handshake operation can stop

With an exception, unless something is missing that the source takes for granted. For each part one lemma says what
must be there; `P` holds of every exception, and may hold of a fault.
-/

namespace PqsecDds.CycloneDDS

open Lib

variable {κ ρ : Type} {env : Env κ ρ} {amb : Ambient ρ} {c c' : Context κ} {trusted : List X509} {inp : Token}
variable {optional : Bool} {certData pdata : Octets} {P : Stop → Prop}

/-- A kind that key pairs are generated for has a row in the table of sizes. -/
theorem getKemPublicKeySize_ne_zero {kind : AuthAlgoKind} {seed : ρ} {keypair : KemKeypair κ}
    (hgen : pqsecKemKeypairGenerate env kind seed = some keypair) : getKemPublicKeySize kind ≠ 0 := by
  simp only [pqsecKemKeypairGenerate, Option.bind_eq_bind, Option.bind_eq_some_iff] at hgen
  obtain ⟨name, hname, -⟩ := hgen
  have hrow : getKemOpensslNameByKind kind ≠ none := by
    intro hnone
    simp [newKeygenContext, hnone] at hname
  revert hrow
  cases kind <;> decide

theorem Context.Frame.rchallenge_isSome (hframe : c.Frame c') (h : c.relation.rchallenge.isSome) :
    c'.relation.rchallenge.isSome := by
  obtain ⟨x, hx⟩ := Option.isSome_iff_exists.1 h
  rw [hframe.rchallenge x hx]
  rfl

theorem kem_of_material (h : c'.material = c.material) :
    c'.handshake.kemCt = c.handshake.kemCt ∧ c'.handshake.kemSs = c.handshake.kemSs := by
  constructor
  · have h := congrArg HandshakeInfo.kemCt h
    exact h
  · have h := congrArg HandshakeInfo.kemSs h
    exact h

/-- The handshake holds what it was given for an earlier Request, and `inp` would be answered as well. -/
structure Stale (env : Env κ ρ) (amb : Ambient ρ) (optional : Bool) (trusted : List X509) (inp : Token)
    (c : Context κ) : Prop where
  kemCt : c.handshake.kemCt ≠ none
  kemSs : c.handshake.kemSs ≠ none
  accepted : ∃ c', validateHandshakeToken env amb optional trusted inp .req c = (.ok ⟨⟩, c')
  written : ∃ certData, env.pemWriteX509 c.localIdentity.identityCert = some certData

/-- The handshake of the pair is stale. -/
def StaleFor (env : Env κ ρ) (amb : Ambient ρ) (s : Authentication κ) (inp : Token) (l r : Handle) : Prop :=
  ∃ h c, s.context h = some c ∧ c.relation.localIdentity = l ∧ c.relation.remoteIdentity = r ∧
    Stale env amb s.includeOptional s.trustedCaList inp c

section Stops

variable (hP : ∀ ex, P (.failed ex))

theorem deref_stops {σ α : Type} {t : σ} {o : Option α} {e : Stop} (h : o.isSome) :
    Act.StopsWith P (Act.lift (need o e)) t := by
  obtain ⟨x, rfl⟩ := Option.isSome_iff_exists.1 h
  exact .lift (by simp [need])

theorem assertThat_stops {σ : Type} {t : σ} {b : Bool} (h : b = true) : Act.StopsWith P (assertThat b) t :=
  .lift (by simp [require, h])

theorem updateRemote_stops {info : CredentialsInfo} (h : info.dsignAlgoKind ≠ .unknown ∧ info.kagreeAlgoKind ≠ .unknown) :
    Act.StopsWith P (updateRemote info) c :=
  .bind (assertThat_stops (decide_eq_true h.1)) fun _ _ _ =>
    .bind (assertThat_stops (decide_eq_true h.2)) fun _ _ _ => .write _

include hP

theorem check_stops {σ α : Type} {t : σ} {x : Except SecurityException α} : Act.StopsWith P (check x) t := by
  intro e hrun
  cases x with
  | ok a => cases hrun
  | error ex =>
    obtain rfl := Except.error.inj hrun
    exact hP ex

theorem checkRchallenge_stops (value : Octets) (tokenType : HandshakeTokenType) :
    Act.StopsWith P (checkRchallenge value tokenType) c := by
  unfold checkRchallenge
  refine .bind (.read _) fun rchallenge c' _ => ?_
  cases rchallenge
  · exact .write _
  · exact check_stops hP

theorem acceptCredentials_stops (tokenType : HandshakeTokenType) :
    Act.StopsWith P (acceptCredentials env amb trusted inp tokenType) c := by
  unfold acceptCredentials
  repeat' first
    | with_reducible exact check_stops hP
    | with_reducible refine Act.StopsWith.bind ?_ fun _ _ _ => ?_
    | exact .read _
    | exact .write _

theorem validateHandshakeToken_stops (tokenType : HandshakeTokenType) :
    Act.StopsWith P (validateHandshakeToken env amb optional trusted inp tokenType) c := by
  unfold validateHandshakeToken
  refine .onStop ?_
  cases tokenType <;> simp only [validateHandshakeTokenImpl]
  · unfold validateRequest checkIn
    refine .bind (check_stops hP) fun _ _ _ => .bind (acceptCredentials_stops hP _) fun info _ hinfo => ?_
    have hknown := acceptCredentials_known hinfo
    repeat' first
      | with_reducible exact check_stops hP
      | with_reducible exact checkRchallenge_stops hP _ _
      | with_reducible exact updateRemote_stops hknown
      | with_reducible refine Act.StopsWith.bind ?_ fun _ _ _ => ?_
      | exact .read _
  · unfold validateReply checkIn
    refine .bind (check_stops hP) fun _ _ _ => .bind (acceptCredentials_stops hP _) fun info _ hinfo => ?_
    have hknown := acceptCredentials_known hinfo
    repeat' first
      | with_reducible exact check_stops hP
      | with_reducible exact checkRchallenge_stops hP _ _
      | with_reducible exact updateRemote_stops hknown
      | with_reducible refine Act.StopsWith.bind ?_ fun _ _ _ => ?_
      | exact .read _
  · unfold validateFinal checkIn
    repeat' first
      | with_reducible exact check_stops hP
      | with_reducible exact checkRchallenge_stops hP _ _
      | with_reducible refine Act.StopsWith.bind ?_ fun _ _ _ => ?_
      | exact .read _

theorem generateKeypair_stops : Act.StopsWith P (generateKeypair env amb) c := by
  unfold generateKeypair
  repeat' first
    | with_reducible exact check_stops hP
    | with_reducible refine Act.StopsWith.bind ?_ fun _ _ _ => ?_
    | exact .read _
    | exact .write _

/-- The assertions on the number of tokens and on the public key hold in every run. -/
theorem makeRequest_stops (hl : c.relation.lchallenge.isSome) :
    Act.StopsWith P (makeRequest env amb optional certData pdata) c := by
  refine .bind (generateKeypair_stops hP) fun keypair c₁ h₁ => ?_
  rcases generateKeypair_cases h₁ with ⟨_, he, -⟩ | ⟨keypair', hr, rfl, hgen⟩
  · cases he
  obtain rfl := Except.ok.inj hr
  unfold buildRequest
  refine .bind (.read _) fun localIdent c₂ h₂ => .bind (check_stops hP) fun _ c₃ h₃ => .bind (.write _) fun _ c₄ h₄ =>
    .bind (.write _) fun _ c₅ h₅ => ?_
  obtain ⟨rfl, rfl⟩ := Act.read_ok.1 h₂
  obtain ⟨hsize, rfl⟩ := check_ok.1 h₃
  obtain rfl := Act.write_ok.1 h₄
  obtain rfl := Act.write_ok.1 h₅
  have hne : keypair.publicKey ≠ [] := by
    intro hnil
    simp only [require_ok, decide_eq_true_eq, hnil] at hsize
    exact getKemPublicKeySize_ne_zero hgen hsize.symm
  refine .bind (assertThat_stops (by simp [hne])) fun _ c₆ h₆ => .bind (.read _) fun relation c₇ h₇ => ?_
  obtain ⟨-, rfl⟩ := assertThat_ok.1 h₆
  obtain ⟨rfl, rfl⟩ := Act.read_ok.1 h₇
  rw [setPdata_eq]
  refine .bind (deref_stops hl) fun challenge c₈ h₈ => .bind (assertThat_stops ?_) fun _ _ _ => .pure _
  cases optional <;> rfl

theorem encapsulateTo_stops (h : P (.fault .uninitialised) ∨ c.handshake.kemCt = none ∨ c.handshake.kemSs = none) :
    Act.StopsWith P (encapsulateTo env amb inp) c := by
  unfold encapsulateTo
  refine .bind (.read _) fun c₁ c₂ h₁ => ?_
  obtain ⟨rfl, rfl⟩ := Act.read_ok.1 h₁
  split
  · refine .bind (check_stops hP) fun kemPublic _ _ => ?_
    split
    exact .bind (.write _) fun _ _ _ => .bind (check_stops hP) fun _ _ _ => .pure _
  · rename_i hset
    rcases h with h | h
    · exact .stop h
    · simp [h] at hset

theorem answerRequest_stops (hl : c.relation.lchallenge.isSome) (hr : c.relation.rchallenge.isSome)
    (h : P (.fault .uninitialised) ∨ c.handshake.kemCt = none ∨ c.handshake.kemSs = none ∨
      env.pemWriteX509 c.localIdentity.identityCert = none) :
    Act.StopsWith P (answerRequest env amb optional inp pdata) c := by
  unfold answerRequest
  refine .bind (.read _) fun localIdent c₁ h₁ => .bind (check_stops hP) fun certData c₂ h₂ => ?_
  obtain ⟨rfl, rfl⟩ := Act.read_ok.1 h₁
  obtain ⟨hpem, rfl⟩ := check_ok.1 h₂
  have hpem := need_ok.1 hpem
  refine .bind (encapsulateTo_stops hP ?_) fun kemPublic c₃ h₃ => .bind (.write _) fun _ c₄ h₄ =>
    .bind (.read _) fun remote c₅ h₅ => .bind (.write _) fun _ c₆ h₆ => .bind (.read _) fun c₇ c₈ h₇ => ?_
  · simpa [hpem] using h
  obtain ⟨-, -, ct, ss, rfl, -⟩ := encapsulateTo_ok h₃
  obtain rfl := Act.write_ok.1 h₄
  obtain ⟨rfl, rfl⟩ := Act.read_ok.1 h₅
  obtain rfl := Act.write_ok.1 h₆
  obtain ⟨rfl, rfl⟩ := Act.read_ok.1 h₇
  rw [setPdata_eq]
  refine .bind (deref_stops rfl) fun _ _ _ => .bind (deref_stops hr) fun _ _ _ => .bind (deref_stops hl) fun _ _ _ =>
    .bind (check_stops hP) fun _ _ _ => .bind (check_stops hP) fun _ _ _ => .bind (assertThat_stops ?_) fun _ _ _ => .pure _
  cases optional <;> rfl

/-- A Reply is made unless the handshake holds the answer to another Request. -/
theorem makeReply_stops (hl : c.relation.lchallenge.isSome)
    (h : P (.fault .uninitialised) ∨ ¬ Stale env amb optional trusted inp c) :
    Act.StopsWith P (makeReply env amb optional trusted inp pdata) c := by
  refine .bind (validateHandshakeToken_stops hP _) fun u c₁ hv => ?_
  obtain ⟨hct, hss⟩ := kem_of_material ((validateHandshakeToken_material _).result hv)
  obtain ⟨cert, hacc⟩ := validateRequest_ok hv
  obtain ⟨x, -, rfl⟩ := hacc.state
  refine answerRequest_stops hP ?_ ?_ ?_
  · rw [accepted_relation]
    exact hl
  · rw [accepted_relation]
    rfl
  · rcases h with h | h
    · exact .inl h
    · right
      rw [hct, hss, accepted_localIdentity]
      by_contra hall
      simp only [not_or] at hall
      obtain ⟨hct', hss', hpem⟩ := hall
      exact h ⟨hct', hss', ⟨_, hv⟩, Option.ne_none_iff_exists'.1 hpem⟩

theorem answerReply_stops (hl : c.relation.lchallenge.isSome) (hr : c.relation.rchallenge.isSome) :
    Act.StopsWith P (answerReply env amb optional inp) c := by
  unfold answerReply
  refine .bind (check_stops hP) fun kemCt c₁ h₁ => .bind (check_stops hP) fun kemPublic c₂ h₂ =>
    .bind (.read _) fun c₃ c₄ h₃ => ?_
  obtain ⟨-, rfl⟩ := check_ok.1 h₁
  obtain ⟨-, rfl⟩ := check_ok.1 h₂
  obtain ⟨rfl, rfl⟩ := Act.read_ok.1 h₃
  split
  exact .bind (.write _) fun _ _ _ => .bind (check_stops hP) fun _ _ _ => .bind (deref_stops hl) fun _ _ _ =>
    .bind (deref_stops hr) fun _ _ _ => .bind (check_stops hP) fun _ _ _ => .pure _

theorem completeHandshake_stops (hl : c.relation.lchallenge.isSome) (hr : c.relation.rchallenge.isSome)
    (hcert : c.remoteIdentity.identityCert.isSome) : Act.StopsWith P (completeHandshake env amb) c := by
  unfold completeHandshake
  refine .bind (.read _) fun c₁ c₂ h₁ => .bind (check_stops hP) fun secret c₃ h₂ => ?_
  obtain ⟨rfl, rfl⟩ := Act.read_ok.1 h₁
  obtain ⟨-, rfl⟩ := check_ok.1 h₂
  have hboth : (id c).challenges.1.isSome ∧ (id c).challenges.2.isSome := by
    unfold Context.challenges
    split
    · exact ⟨hl, hr⟩
    · exact ⟨hr, hl⟩
  exact .bind (deref_stops hboth.1) fun _ _ _ => .bind (deref_stops hboth.2) fun _ _ _ => .bind (.write _) fun _ _ _ =>
    .bind (deref_stops hcert) fun _ _ _ => .bind (.onStop (check_stops hP)) fun _ _ _ => .pure _

/-- When a handshake is completed, the certificate that the last token was verified with is there. -/
theorem processToken_stops (hl : c.relation.lchallenge.isSome)
    (hr : c.handshake.createdIn = .createdReply → c.relation.rchallenge.isSome) :
    Act.StopsWith P (processToken env amb optional trusted inp) c := by
  unfold processToken
  refine .bind (.read _) fun hs c₁ h₁ => ?_
  obtain ⟨rfl, rfl⟩ := Act.read_ok.1 h₁
  rcases hstep : c.handshake.createdIn with _ | _
  · refine .bind (validateHandshakeToken_stops hP _) fun _ c₁ hv => ?_
    obtain ⟨cert, key, hacc⟩ := validateReply_ok hv
    have hframe : c.Frame c₁ := (validateHandshakeToken_frame _).result hv
    have hl₁ : c₁.relation.lchallenge.isSome := by
      rw [hframe.lchallenge]
      exact hl
    have hr₁ : c₁.relation.rchallenge.isSome := by
      obtain ⟨x, -, rfl⟩ := hacc.state
      rw [accepted_relation]
      rfl
    refine .bind (answerReply_stops hP hl₁ hr₁) fun _ c₂ ha => ?_
    have hsame : c₂.setKemSs none = c₁.setKemSs none := answerReply_same.result ha
    have hrelation : c₂.relation = c₁.relation := by
      have h := congrArg Context.relation hsame
      exact h
    have hremote : c₂.remoteIdentity = c₁.remoteIdentity := by
      have h := congrArg Context.remoteIdentity hsame
      exact h
    refine .bind (completeHandshake_stops hP ?_ ?_ ?_) fun _ _ _ => .pure _
    · rw [hrelation]
      exact hl₁
    · rw [hrelation]
      exact hr₁
    · rw [hremote, hacc.verified.stored]
      rfl
  · refine .bind (validateHandshakeToken_stops hP _) fun _ c₁ hv => ?_
    obtain ⟨cert, key, hacc⟩ := validateFinal_ok hv
    obtain rfl := hacc.state
    refine .bind (completeHandshake_stops hP hl (hr hstep) ?_) fun _ _ _ => .pure _
    rw [hacc.verified.stored]
    rfl

end Stops

/-- A stale handshake is answered with a public key that was never set. -/
theorem makeReply_stale (h : Stale env amb optional trusted inp c) :
    ∃ c', makeReply env amb optional trusted inp pdata c = (.error (.fault .uninitialised), c') := by
  obtain ⟨c₁, hv⟩ := h.accepted
  obtain ⟨certData, hpem⟩ := h.written
  obtain ⟨hct, hss⟩ := kem_of_material ((validateHandshakeToken_material _).result hv)
  have hpem₁ : env.pemWriteX509 c₁.localIdentity.identityCert = some certData := by
    obtain ⟨cert, hacc⟩ := validateRequest_ok hv
    obtain ⟨x, -, rfl⟩ := hacc.state
    rw [accepted_localIdentity, hpem]
  refine ⟨c₁, Act.bind_eq.2 (.inr ⟨_, c₁, hv, Act.bind_eq.2 (.inr ⟨_, c₁, rfl, ?_⟩)⟩)⟩
  refine Act.bind_eq.2 (.inr ⟨certData, c₁, check_ok.2 ⟨need_ok.2 hpem₁, rfl⟩, ?_⟩)
  refine Act.bind_eq.2 (.inl ⟨_, encapsulateTo_error ?_ ?_, rfl⟩)
  · rw [hct]
    exact h.kemCt
  · rw [hss]
    exact h.kemSs

end PqsecDds.CycloneDDS
