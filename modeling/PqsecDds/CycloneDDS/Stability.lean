import PqsecDds.CycloneDDS.Integrity
import PqsecDds.CycloneDDS.Triggers

/-!
# What a completed handshake keeps

A handshake stays at its handle, between its two identities, until one of the three is returned. Its secret stays until
`process_handshake` accepts another token: nothing marks the handshake as complete, so a new Reply is answered with the
key pair that is stored then.
-/

namespace PqsecDds.CycloneDDS

open Lib Context

variable {κ ρ : Type} {env : Env κ ρ} {amb : Ambient ρ} {s s' : Authentication κ} {h l r a : Handle} {op : Op}
variable {c c' : Context κ} {hs : HandshakeInfo κ} {inp : Token} {optional : Bool} {trusted : List X509}
variable {x : SharedSecret}

/-! ## The handshake of a pair -/

/-- The call returns the handshake or one of its identities. -/
def Op.Ends (h l r : Handle) : Op → Prop
  | .returnHandshakeHandle x => x = h
  | .returnIdentityHandle x => x = l ∨ x = r
  | _ => False

/-- The handshake `h` is on the relation `a` between `l` and `r`. -/
structure ObjectGraph.Links (G : ObjectGraph) (h a l r : Handle) : Prop where
  relationOf : G.relationOf h = some a
  pair : G.pair a = some (l, r)

open ObjectGraph

theorem RemoteSeen.links {request : Option Token} {token : Token} {guid : Guid} {remote : RemoteIdentityInfo}
    {relation : IdentityRelation} {rchallenge : Option Challenge} {l' r' a' : Handle} (ha : Allocates amb s)
    (hseen : RemoteSeen env amb s request l' token guid r' a' remote relation rchallenge s')
    (hl : s.graph.Links h a l r) : s'.graph.Links h a l r := by
  obtain ⟨lchallenge, -, hsight⟩ := hseen.sighting
  obtain ⟨old, hold, hends⟩ := Option.map_eq_some_iff.1 hl.pair
  refine ⟨?_, ?_⟩
  · simp only [Authentication.graph, hseen.handshake]
    exact hl.relationOf
  · have hfresh := relation_fresh ha
    simp only [Authentication.graph, hseen.relation]
    by_cases haa : a = a'
    · subst haa
      cases hsight with
      | made new =>
        rw [hfresh] at hold
        cases hold
      | linked known object unlinked =>
        rw [hfresh] at hold
        cases hold
      | known known object linked pointer =>
        obtain rfl := Option.some.inj (pointer.symm.trans hold)
        rw [if_pos rfl]
        exact congrArg some hends
    · rw [if_neg haa]
      exact hl.pair

theorem Moved.links {left : Option (HandshakeInfo κ)} {x : Handle} (hm : Moved s x c c' left s') (hp : Points s c)
    (hframe : c.SameReferences c') (hleft : x = h → left.map (·.relation) = some a) (hl : s.graph.Links h a l r) :
    s'.graph.Links h a l r := by
  rw [hm.graph hp hframe]
  refine ⟨?_, hl.pair⟩
  simp only [Function.update_apply]
  by_cases hx : h = x
  · rw [if_pos hx, hleft hx.symm]
  · rw [if_neg hx]
    exact hl.relationOf

theorem Source.handshake_eq {step : CreatedHandshakeStep} (ha : Allocates amb s) (hsrc : Source amb s l r step h c)
    (hh : s.handshake h = some hs) : c.handshake = hs := by
  cases hsrc with
  | found handshake localHandle remoteHandle => exact Option.some.inj (handshake.symm.trans hh)
  | made none linked handshake =>
    rw [handshake_fresh ha] at hh
    cases hh

theorem OnHandshake.links {α : Type} {f : HandshakeCall κ α} {step : CreatedHandshakeStep} {rx : Except Stop α}
    {l' r' x : Handle} (ha : Allocates amb s) (hon : OnHandshake amb s l' r' step f x c c' rx s') (hframe : c.Frame c')
    (hl : s.graph.Links h a l r) : s'.graph.Links h a l r := by
  refine hon.moved.links hon.points hframe.references ?_ hl
  rintro rfl
  obtain ⟨hs, hh, hrel⟩ := Option.map_eq_some_iff.1 hl.relationOf
  have heq := hon.source.handshake_eq ha hh
  simp [remaining, hh, hframe.relation, heq, hrel]

theorem OnProcess.links {x : Handle} {rx : Except Stop (HandshakeResult × Int)}
    (hon : OnProcess env amb s inp x c c' rx s') (hl : s.graph.Links h a l r) : s'.graph.Links h a l r := by
  have hframe : c.Frame c' := processToken_frame.result hon.run
  have hleft : x = h → (some c'.handshake).map (·.relation) = some a := by
    rintro rfl
    obtain ⟨hs, hh, hrel⟩ := Option.map_eq_some_iff.1 hl.relationOf
    obtain rfl := Option.some.inj (hh.symm.trans hon.handshake)
    simp [hframe.relation, hrel]
  cases rx with
  | error e => exact (hon.failed e rfl).1.links hon.points hframe.references hleft hl
  | ok v => exact (hon.ok v.1 v.2 rfl).1.links hon.points hframe.watched_references hleft hl

/-- A handshake stays at its handle until it or one of its identities is returned. -/
theorem Effect.links (hG : s.graph.Sound) (he : Effect env amb s op s') (hend : ¬ op.Ends h l r)
    (hl : s.graph.Links h a l r) : s'.graph.Links h a l r := by
  cases he with
  | same => exact hl
  | trustedCas named => exact hl
  | localMade ha made =>
    refine ⟨?_, ?_⟩
    · simp only [Authentication.graph, made.put.handshake]
      exact hl.relationOf
    · simp only [Authentication.graph, made.put.relation]
      exact hl.pair
  | permissionsSet set =>
    obtain ⟨identity, -, hput⟩ := set.put
    refine ⟨?_, ?_⟩
    · simp only [Authentication.graph, hput.handshake]
      exact hl.relationOf
    · simp only [Authentication.graph, hput.relation]
      exact hl.pair
  | remoteSeen ha seen => exact seen.links ha hl
  | request ha hrx on => exact on.links ha (makeRequest_frame.result on.run) hl
  | reply ha hrx on => exact on.links ha (makeReply_frame.result on.run) hl
  | process ha hrx on => exact on.links hl
  | @handshakeReturned x handshake =>
    obtain ⟨hs, hh⟩ := Option.isSome_iff_exists.1 handshake
    rw [removeObject_handshake_graph hh]
    refine ⟨?_, hl.pair⟩
    simp only [removeHandshake]
    rw [Function.update_of_ne fun heq => hend heq.symm]
    exact hl.relationOf
  | @identityReturned x obj lookup identity =>
    obtain ⟨hp, hkept⟩ := returnIdentity_kept hG lookup hl.pair (fun h => hend (.inl h)) fun h => hend (.inr h)
    exact ⟨hkept h hl.relationOf, hp⟩
  | callback armed =>
    rw [clearTimer_graph]
    exact hl

/-! ## The token of a completed handshake -/

/-- The token a handshake waits for. -/
def CreatedHandshakeStep.awaits : CreatedHandshakeStep → HandshakeTokenType
  | .createdRequest => .reply
  | .createdReply => .final

/-- `validate_handshake_token` accepts the token for the handshake. -/
def Context.Validates (env : Env κ ρ) (amb : Ambient ρ) (optional : Bool) (trusted : List X509) (inp : Token)
    (c : Context κ) : Prop :=
  ∃ c', validateHandshakeToken env amb optional trusted inp c.handshake.createdIn.awaits c = (.ok ⟨⟩, c')

/-- The KEM secret a token leads to: what the stored key pair makes of the ciphertext of a Reply, or what was
encapsulated for the Request. -/
def Context.kemSecret (env : Env κ ρ) (inp : Token) (c : Context κ) : Option Octets :=
  match c.handshake.createdIn with
  | .createdRequest =>
    c.handshake.kemKeypair.bind fun keypair => env.decapsulate keypair.key (inp.value "pqsec-dds.kem_ciphertext")
  | .createdReply => c.handshake.kemSs

/-- What the secret `x` was made of: the KEM secret that the token leads to, and the challenges of the relation. -/
structure Context.Derives (env : Env κ ρ) (inp : Token) (c : Context κ) (x : SharedSecret) : Prop where
  challenges : c.challenges = (some x.challenge1, some x.challenge2)
  secret : ∃ ss, c.kemSecret env inp = some ss ∧ x.sharedSecret = env.sha256 ss

theorem derives_setSharedSecret {ss : Octets} {challenge1 challenge2 : Challenge} (hss : c.kemSecret env inp = some ss)
    (h1 : c.challenges.1 = some challenge1) (h2 : c.challenges.2 = some challenge2) (secret : Option SharedSecret) :
    (c.setSharedSecret secret).Derives env inp ⟨challenge1, challenge2, env.sha256 ss⟩ :=
  ⟨Prod.ext h1 h2, ss, hss, rfl⟩

theorem Finalised.kemSecret {out : Token} {signed : Signed} {keypair : KemKeypair κ} {ss : Octets}
    (hfin : Finalised env amb optional inp c c' out signed keypair ss) (hstep : c.handshake.createdIn = .createdRequest) :
    c'.kemSecret env inp = some ss := by
  obtain rfl := hfin.state
  have hstored : (c.setKemSs (some ss)).handshake.kemKeypair = some keypair := hfin.stored
  simp only [Context.kemSecret, show (c.setKemSs (some ss)).handshake.createdIn = .createdRequest from hstep, hstored,
    Option.bind_some, hfin.decapsulated]

theorem ReplyAccepted.createdIn {cert : X509} {key : EvpPkey}
    (hacc : ReplyAccepted env amb optional trusted inp cert key c c') : c'.handshake.createdIn = c.handshake.createdIn := by
  obtain ⟨x, -, rfl⟩ := hacc.state
  rw [accepted_handshake_reply]

/-- A token leaves the secret alone, or is accepted and replaces the secret by the one that it leads to. -/
theorem processToken_secret {res : Except Stop (HandshakeResult × Int)}
    (hrun : processToken env amb optional trusted inp c = (res, c')) (hok : ∀ f, res ≠ .error (.fault f)) :
    c'.handshake.sharedSecret = c.handshake.sharedSecret ∨ c.Validates env amb optional trusted inp ∧
      ∃ cert x, c.peerCertificate env inp = some cert ∧ c'.Derives env inp x ∧
        c'.handshake.sharedSecret = if getCertificateExpiry amb cert = ddsTimeInvalid then none else some x := by
  simp only [processToken] at hrun
  rcases Act.bind_eq.1 hrun with ⟨e, h₁, -⟩ | ⟨hs, c₁, h₁, hrun₁⟩
  · cases h₁
  obtain ⟨rfl, rfl⟩ := Act.read_ok.1 h₁
  rcases hstep : c.handshake.createdIn with _ | _
  · simp only [hstep] at hrun₁
    rcases Act.bind_eq.1 hrun₁ with ⟨e, hv, -⟩ | ⟨_, c₁, hv, hrun₂⟩
    · exact .inl (validateHandshakeToken_secret hv)
    have hsame₁ := validateHandshakeToken_secret hv
    rcases Act.bind_eq.1 hrun₂ with ⟨e, ha, -⟩ | ⟨⟨out, signed⟩, c₂, ha, hrun₃⟩
    · exact .inl ((answerReply_secret ha).trans hsame₁)
    have hsame₂ := (answerReply_secret ha).trans hsame₁
    obtain ⟨rc, hc, rfl⟩ := Act.bind_pure_eq.1 hrun₃
    rcases completeHandshake_cases hc (map_ne_fault hok) with
      rfl | ⟨ss, challenge1, challenge2, cert, hss, hch₁, hch₂, hcert, rfl, -⟩
    · exact .inl hsame₂
    obtain ⟨cert', key, hacc⟩ := validateReply_ok hv
    obtain ⟨keypair, ss', hfin⟩ := answerReply_ok ha
    have hsecret := hfin.kemSecret (hacc.createdIn.trans hstep)
    have hstored := hacc.verified.stored
    obtain rfl := hfin.state
    obtain rfl := Option.some.inj hss
    obtain rfl := Option.some.inj (hstored.symm.trans hcert)
    refine .inr ⟨⟨c₁, by rw [hstep]; exact hv⟩, cert', _, ?_, derives_setSharedSecret hsecret hch₁ hch₂ _, rfl⟩
    simp only [peerCertificate, hstep]
    exact loadX509CertificateFromBinprop_ok hacc.credentials.loaded
  · simp only [hstep] at hrun₁
    rcases Act.bind_eq.1 hrun₁ with ⟨e, hv, -⟩ | ⟨_, c₁, hv, hrun₂⟩
    · exact .inl (validateHandshakeToken_secret hv)
    obtain ⟨cert', key, hacc⟩ := validateFinal_ok hv
    obtain rfl := hacc.state
    obtain ⟨rc, hc, rfl⟩ := Act.bind_pure_eq.1 hrun₂
    rcases completeHandshake_cases hc (map_ne_fault hok) with
      rfl | ⟨ss, challenge1, challenge2, cert, hss, hch₁, hch₂, hcert, rfl, -⟩
    · exact .inl rfl
    have hsecret : c₁.kemSecret env inp = some ss := by
      simp only [kemSecret, hstep]
      exact hss
    refine .inr ⟨⟨c₁, by rw [hstep]; exact hv⟩, cert, _, ?_, derives_setSharedSecret hsecret hch₁ hch₂ _, rfl⟩
    simp only [peerCertificate, hstep]
    exact hcert

/-- A handshake is completed with the secret that the token leads to. -/
theorem processToken_derives {v : HandshakeResult × Int}
    (hrun : processToken env amb optional trusted inp c = (.ok v, c')) :
    ∃ x, c'.handshake.sharedSecret = some x ∧ c'.Derives env inp x := by
  rcases processToken_ok hrun with ⟨out, signed, cert, key, keypair, ss, -, hdone⟩ | ⟨-, cert, key, hdone⟩
  · obtain ⟨c₁, hacc, c₂, hfin, hcompleted⟩ := hdone.accepted
    obtain ⟨ss', challenge1, challenge2, hss, h1, h2, rfl⟩ := hcompleted.secret
    have hsecret := hfin.kemSecret (hacc.createdIn.trans hdone.createdIn)
    obtain rfl := hfin.state
    obtain rfl := Option.some.inj hss
    exact ⟨_, rfl, derives_setSharedSecret hsecret h1 h2 _⟩
  · obtain ⟨ss, challenge1, challenge2, hss, h1, h2, rfl⟩ := hdone.completed.secret
    have hsecret : c.kemSecret env inp = some ss := by
      simp only [kemSecret, hdone.createdIn]
      exact hss
    exact ⟨_, rfl, derives_setSharedSecret hsecret h1 h2 _⟩

theorem processHandshake_handle {result : HandshakeResult} (hrun : processHandshake env amb inp h s = (.ok result, s')) :
    h ≠ 0 := by
  obtain ⟨_, s₁, hcheck, -⟩ := Act.bind_ok.1 hrun
  obtain ⟨hne, -⟩ := check_ok.1 hcheck
  rw [require_ok, decide_eq_true_eq] at hne
  exact hne

/-! ## A completed session -/

namespace Ideal

def awaiting : State := after start initiatorCalls.dropLast

def completed : State := after awaiting [processCall 11 reply 10]

theorem after_one (s : State) (call : SampleCall) : after s [call] = (exec Ideal.env s call).1 := rfl

def completedTrace : Trace State SampleCall :=
  (awaiting, processCall 11 reply 10) :: (plugin Ideal.env).history [] start initiatorCalls.dropLast

theorem run_after {tr : Trace State SampleCall} {s : State} (hr : Run (plugin Ideal.env).solo tr s) (call : SampleCall)
    (hdef : (plugin Ideal.env).defined s call) : Run (plugin Ideal.env).solo ((s, call) :: tr) (after s [call]) :=
  hr.step ⟨hdef, rfl⟩

theorem completed_facts : Allocates (ambient 11) awaiting ∧
    (processHandshake Ideal.env (ambient 11) reply 10 awaiting).1.isOk ∧
    (plugin Ideal.env).defined awaiting (processCall 11 reply 10) := by
  decide +kernel

theorem completed_run : Run (plugin Ideal.env).solo completedTrace completed :=
  run_after (calls_run true .mlKem512 initiatorCalls.dropLast) (processCall 11 reply 10) completed_facts.2.2

theorem completed_ok : ∃ result,
    processHandshake Ideal.env (ambient 11) reply 10 awaiting = (.ok result, completed) := by
  obtain ⟨ha, hok, -⟩ := completed_facts
  rcases hrun : processHandshake Ideal.env (ambient 11) reply 10 awaiting with ⟨res, s'⟩
  rw [hrun] at hok
  cases res with
  | error e => cases hok
  | ok result =>
    have hexec : (exec Ideal.env awaiting (.processHandshake reply 10, ambient 11)).1 = s' :=
      congrArg Prod.fst (exec_processHandshake ha hrun)
    exact ⟨result, by rw [← hexec, ← after_one]; rfl⟩

end Ideal

end PqsecDds.CycloneDDS
