import PqsecDds.CycloneDDS.Randomness

/-!
# The challenges of a pair are settled once

An AuthRequest announces the challenge that its sender will use, `future_challenge`. Both sides are bound by it as long as
the pair of identities is there: the sender puts this challenge and no other into every message of the pair
(`future_challenge_kept`), and the receiver accepts no message of the pair with another (`auth_request_pins`).
-/

namespace PqsecDds.CycloneDDS

open Lib

variable {κ ρ : Type} {env : Env κ ρ} {amb : Ambient ρ} {s s' : Authentication κ} {l r h a : Handle} {op : Op}
variable {c c' : Context κ} {tr tr₀ : Trace (Authentication κ) (Op × Ambient ρ)} {relation : IdentityRelation}
variable {inp out : Token} {x y : Challenge} {optional : Bool} {trusted : List X509} {pdata : Octets}

/-! ## A relation over a call -/

/-- The call returns one of the identities. -/
def Op.Returns (l r : Handle) : Op → Prop
  | .returnIdentityHandle x => x = l ∨ x = r
  | _ => False

/-- The call brings an AuthRequest of the remote identity `r` for `l`. -/
def Op.Announces (s : Authentication κ) (l r : Handle) : Op → Prop
  | .validateRemoteIdentity (some _) l' _ guid => l' = l ∧ s.remoteGuidHash.lookup guid = some r
  | _ => False

theorem RemoteSeen.pair_kept {request : Option Token} {token : Token} {guid : Guid} {remote : RemoteIdentityInfo}
    {rchallenge : Option Challenge} {l' r' a' : Handle} (ha : Allocates amb s)
    (hseen : RemoteSeen env amb s request l' token guid r' a' remote relation rchallenge s')
    (hp : s.graph.pair a = some (l, r)) : s'.graph.pair a = some (l, r) := by
  obtain ⟨lchallenge, -, hsight⟩ := hseen.sighting
  obtain ⟨old, hold, hends⟩ := Option.map_eq_some_iff.1 hp
  have hfresh := relation_fresh ha
  simp only [Authentication.graph, hseen.relation]
  by_cases haa : a = a'
  · subst haa
    rw [if_pos rfl]
    cases hsight with
    | made new =>
      rw [hfresh] at hold
      cases hold
    | linked known object unlinked =>
      rw [hfresh] at hold
      cases hold
    | known known object linked pointer =>
      obtain rfl := Option.some.inj (pointer.symm.trans hold)
      exact congrArg some hends
  · rw [if_neg haa]
    exact hp

theorem Touches.pair_kept (ht : Touches env amb s s' op h c c') (hp : s.graph.pair a = some (l, r)) :
    s'.graph.pair a = some (l, r) := by
  obtain ⟨timer, left, -, hm⟩ := ht.moved
  simp only [Authentication.graph, hm.relation]
  by_cases haa : a = c.handshake.relation
  · subst haa
    rw [if_pos rfl]
    simp only [Authentication.graph, ht.points.relation, Option.map_some] at hp
    simp only [Option.map_some, ht.frame.localHandle, ht.frame.remoteHandle]
    exact hp
  · rw [if_neg haa]
    exact hp

/-- A relation stays until one of its identities is returned. -/
theorem Effect.pair_kept (hG : s.graph.Sound) (he : Effect env amb s op s') (hkept : ¬ op.Returns l r)
    (hp : s.graph.pair a = some (l, r)) : s'.graph.pair a = some (l, r) := by
  cases he with
  | same => exact hp
  | trustedCas named => exact hp
  | localMade ha made =>
    simp only [Authentication.graph, made.put.relation]
    exact hp
  | permissionsSet set =>
    obtain ⟨identity, -, hput⟩ := set.put
    simp only [Authentication.graph, hput.relation]
    exact hp
  | remoteSeen ha seen => exact seen.pair_kept ha hp
  | request ha hrx on => exact (Touches.request ha hrx on).pair_kept hp
  | reply ha hrx on => exact (Touches.reply ha hrx on).pair_kept hp
  | process ha hrx on => exact (Touches.process ha hrx on).pair_kept hp
  | handshakeReturned handshake => exact hp
  | identityReturned lookup identity =>
    exact (returnIdentity_kept hG lookup hp (fun h => hkept (.inl h)) fun h => hkept (.inr h)).1
  | callback armed =>
    rw [clearTimer_graph]
    exact hp

/-- What is settled between `l` and `r`: the challenge of the local side, and that of the remote side once it is known. -/
structure Settled (s : Authentication κ) (l r : Handle) (x : Challenge) (y : Option Challenge) : Prop where
  relation : ∃ a relation, s.findIdentityRelation l r = some a ∧ s.relation a = some relation ∧
    relation.lchallenge = some x ∧ ∀ z, y = some z → relation.rchallenge = some z

theorem Settled.forget {y : Option Challenge} (hx : Settled s l r x y) : Settled s l r x none := by
  obtain ⟨a, relation, hlink, hrel, hl, -⟩ := hx.relation
  exact ⟨a, relation, hlink, hrel, hl, nofun⟩

/-- It is settled for good, except that another AuthRequest replaces the challenge of the remote side. -/
theorem Effect.settled (hs : Referential s) (he : Effect env amb s op s') (hkept : ¬ op.Returns l r) {y : Option Challenge}
    (hy : y.isSome → ¬ op.Announces s l r) (hx : Settled s l r x y) : Settled s' l r x y := by
  obtain ⟨a, relation, hlink, hrel, hl, hr⟩ := hx.relation
  have hp := he.pair_kept hs.sound hkept ((hs.sound.link l r a).1 hlink)
  obtain ⟨relation', hrel', hends⟩ := Option.map_eq_some_iff.1 hp
  refine ⟨a, relation', ((he.referential hs).sound.link l r a).2 hp, hrel', ?_⟩
  rcases he.relation_cases hrel' with hsame | ⟨_, _, _, _, _, _, _, -, hnone, -⟩ |
    ⟨request, l', token, guid, r', z, old, rfl, hguid, hlink', hold, -, rfl⟩ | ⟨h, c, c', ht, rfl, rfl⟩
  · obtain rfl := Option.some.inj (hrel.symm.trans hsame)
    exact ⟨hl, hr⟩
  · rw [hrel] at hnone
    cases hnone
  · obtain rfl := Option.some.inj (hrel.symm.trans hold)
    refine ⟨hl, fun z' hz' => absurd ?_ (hy (by rw [hz']; rfl))⟩
    obtain ⟨rfl, rfl⟩ := Prod.mk.inj (Option.some.inj (((hs.sound.link l r a).1 hlink).symm.trans
      ((hs.sound.link l' r' a).1 hlink')))
    exact ⟨rfl, hguid⟩
  · obtain rfl := Option.some.inj (hrel.symm.trans ht.points.relation)
    exact ⟨ht.frame.lchallenge.trans hl, fun z hz => ht.frame.rchallenge z (hr z hz)⟩

theorem settled_later {s₀ : Authentication κ} {y : Option Challenge} (hr : Run (plugin env).solo tr₀ s₀)
    (hs : Steps (plugin env).solo s₀ tr s) (hkept : ∀ e ∈ tr, ¬ e.2.1.Returns l r)
    (hy : y.isSome → ∀ e ∈ tr, ¬ e.2.1.Announces e.1 l r) (hx : Settled s₀ l r x y) : Settled s l r x y := by
  refine hs.inv_of (I := fun s => Settled s l r x y)
    (P := fun e => ¬ e.2.1.Returns l r ∧ (y.isSome → ¬ e.2.1.Announces e.1 l r))
    (fun e he => ⟨hkept e he, fun h => hy h e he⟩) ?_ hx
  rintro tr s ⟨op, amb⟩ s' hlater hx ⟨hkept, hy⟩ ⟨-, rfl⟩
  exact (exec_effect s op amb).settled (run_referential (hr.append hlater)) hkept hy hx

/-! ## Messages of a pair -/

/-- The handshake that an operation on the pair works on has what is settled. -/
theorem Settled.onHandshake {α : Type} {f : HandshakeCall κ α} {step : CreatedHandshakeStep} {rx : Except Stop α}
    {y : Option Challenge} (hG : s.graph.Sound) (hx : Settled s l r x y) (hon : OnHandshake amb s l r step f h c c' rx s') :
    c.relation.lchallenge = some x ∧ ∀ z, y = some z → c.relation.rchallenge = some z := by
  obtain ⟨a, relation, hlink, hrel, hl, hr⟩ := hx.relation
  have hends : (c.relation.localIdentity, c.relation.remoteIdentity) = (l, r) := by
    obtain ⟨hl', hr'⟩ := hon.source.ends hG hon.points
    rw [hl', hr']
  have hpair : s.graph.pair c.handshake.relation = some (l, r) := by
    simp only [Authentication.graph, hon.points.relation, Option.map_some, hends]
  have hsame : a = c.handshake.relation := Option.some.inj (hlink.symm.trans ((hG.link l r _).2 hpair))
  have heq := hon.points.relation
  rw [← hsame, hrel] at heq
  obtain rfl := Option.some.inj heq
  exact ⟨hl, hr⟩

theorem Settled.onProcess {rx : Except Stop (HandshakeResult × Int)} {hs : HandshakeInfo κ} {y : Option Challenge}
    (hG : s.graph.Sound) (hx : Settled s l r x y) (hon : OnProcess env amb s inp h c c' rx s')
    (hh : s.handshake h = some hs) (hpair : s.pairOf hs = some (l, r)) :
    c.relation.lchallenge = some x ∧ ∀ z, y = some z → c.relation.rchallenge = some z := by
  obtain ⟨a, relation, hlink, hrel, hl, hr⟩ := hx.relation
  obtain rfl := Option.some.inj (hon.handshake.symm.trans hh)
  have hsame : a = c.handshake.relation :=
    Option.some.inj (hlink.symm.trans ((hG.link l r _).2 (pairOf_eq_some_iff.1 hpair)))
  have heq := hon.points.relation
  rw [← hsame, hrel] at heq
  obtain rfl := Option.some.inj heq
  exact ⟨hl, hr⟩

/-- The token has the challenge `x` in the property of that name. -/
def Token.Brings (t : Token) (name : String) (x : Challenge) : Prop :=
  t.findBinaryProperty name = some (binaryProperty name x.1)

/-- Whatever is called next for `l` and `r`, the messages that go out carry `x`, and `x` is what comes back. -/
structure KeepsOwn (env : Env κ ρ) (s : Authentication κ) (amb : Ambient ρ) (l r : Handle) (x : Challenge) : Prop where
  authRequest : ∀ request token guid result out s',
    validateRemoteIdentity env amb request l token guid s = (.ok (result, r, some out), s') →
      out.Brings "future_challenge" x
  request : ∀ pdata h out s', beginHandshakeRequest env amb l r pdata s = (.ok (h, out), s') → out.Brings "challenge1" x
  reply : ∀ inp pdata h out signed s', beginHandshakeReply env amb inp r l pdata s = (.ok (h, out, signed), s') →
    out.Brings "challenge2" x
  final : ∀ inp h hs out signed s', s.handshake h = some hs → s.pairOf hs = some (l, r) →
    processHandshake env amb inp h s = (.ok (.okFinalMessage out signed), s') →
      out.Brings "challenge1" x ∧ inp.value "challenge1" = x.1
  accepted : ∀ inp h hs s', s.handshake h = some hs → s.pairOf hs = some (l, r) →
    processHandshake env amb inp h s = (.ok .ok, s') → inp.value "challenge2" = x.1

/-- Whatever is called next for `l` and `r`, a message with another challenge of the remote side than `y` is refused. -/
structure ExpectsOnly (env : Env κ ρ) (s : Authentication κ) (amb : Ambient ρ) (l r : Handle) (y : Challenge) : Prop where
  request : ∀ inp pdata h out signed s', beginHandshakeReply env amb inp r l pdata s = (.ok (h, out, signed), s') →
    inp.value "challenge1" = y.1
  reply : ∀ inp h hs out signed s', s.handshake h = some hs → s.pairOf hs = some (l, r) →
    processHandshake env amb inp h s = (.ok (.okFinalMessage out signed), s') → inp.value "challenge2" = y.1
  final : ∀ inp h hs s', s.handshake h = some hs → s.pairOf hs = some (l, r) →
    processHandshake env amb inp h s = (.ok .ok, s') → inp.value "challenge1" = y.1

theorem Settled.keepsOwn (hs : Referential s) (ha : Allocates amb s) (hx : Settled s l r x none) :
    KeepsOwn env s amb l r x := by
  constructor
  · intro request token guid result out s' hrun
    rcases validateRemoteIdentity_cases ha hrun (by simp) with ⟨⟨e, he⟩, -⟩ |
      ⟨r', a', remote, relation', rchallenge, localIdent, -, hseen, hres⟩
    · cases he
    obtain rfl : r = r' := congrArg (fun p : RemoteResult × Handle × Option Token => p.2.1) (Except.ok.inj hres)
    have hout : (if request.isSome then none else relation'.lchallenge.map authRequestToken) = some out :=
      (congrArg (fun p : RemoteResult × Handle × Option Token => p.2.2) (Except.ok.inj hres)).symm
    split at hout
    · cases hout
    obtain ⟨z, hz, rfl⟩ := Option.map_eq_some_iff.1 hout
    obtain ⟨a, relation, hlink, hrel, hl, -⟩ := hx.relation
    obtain ⟨lchallenge, -, hsight⟩ := hseen.sighting
    cases hsight with
    | made new =>
      simp [Authentication.findIdentityRelation, remoteIdentity_fresh ha] at hlink
    | linked known object unlinked =>
      simp [Authentication.findIdentityRelation, object, unlinked] at hlink
    | known known object linked pointer =>
      simp only [Authentication.findIdentityRelation, object, Option.bind_some, linked, Option.some.injEq] at hlink
      subst hlink
      obtain rfl := Option.some.inj (pointer.symm.trans hrel)
      obtain rfl := Option.some.inj (hl.symm.trans hz)
      rfl
  · intro pdata h out s' hrun
    rcases beginHandshakeRequest_cases ha hrun (by simp) with ⟨⟨e, he⟩, -⟩ | ⟨certData, h', c, c', rx, hres, hon⟩
    · cases he
    cases rx with
    | error e => cases hres
    | ok v =>
      obtain ⟨rfl, rfl⟩ := Prod.mk.inj (Except.ok.inj hres)
      obtain ⟨z, hz, hout⟩ := makeRequest_challenge1 hon.run
      obtain rfl := Option.some.inj ((hx.onHandshake hs.sound hon).1.symm.trans hz)
      exact hout
  · intro inp pdata h out signed s' hrun
    rcases beginHandshakeReply_cases ha hrun (by simp) with ⟨⟨e, he⟩, -⟩ | ⟨h', c, c', rx, hres, hon⟩
    · cases he
    cases rx with
    | error e => cases hres
    | ok v =>
      obtain ⟨rfl, rfl⟩ := Prod.mk.inj (Except.ok.inj hres)
      obtain ⟨z, hz, hout⟩ := makeReply_challenge2 hon.run
      obtain rfl := Option.some.inj ((hx.onHandshake hs.sound hon).1.symm.trans hz)
      exact hout
  · intro inp h hand out signed s' hh hpair hrun
    rcases processHandshake_cases hrun (by simp) with ⟨⟨e, he⟩, -⟩ | ⟨c, c', rx, hres, hon⟩
    · cases he
    cases rx with
    | error e => cases hres
    | ok v =>
      obtain ⟨result, certExp⟩ := v
      obtain rfl := Except.ok.inj hres
      have hl := (hx.onProcess hs.sound hon hh hpair).1
      obtain ⟨z, hz, hout⟩ := processToken_challenge1 hon.run
      obtain rfl := Option.some.inj (hl.symm.trans hz)
      refine ⟨hout, ?_⟩
      rcases processToken_ok hon.run with ⟨_, _, cert, key, keypair, ss, -, -, c₁, hacc, -⟩ | ⟨hok, -⟩
      · obtain ⟨z, hz, hval⟩ := hacc.lchallenge
        obtain rfl := Option.some.inj (hl.symm.trans hz)
        exact hval.symm
      · cases hok
  · intro inp h hand s' hh hpair hrun
    rcases processHandshake_cases hrun (by simp) with ⟨⟨e, he⟩, -⟩ | ⟨c, c', rx, hres, hon⟩
    · cases he
    cases rx with
    | error e => cases hres
    | ok v =>
      obtain ⟨result, certExp⟩ := v
      obtain rfl := Except.ok.inj hres
      have hl := (hx.onProcess hs.sound hon hh hpair).1
      rcases processToken_ok hon.run with ⟨_, _, cert, key, keypair, ss, hok, -⟩ | ⟨-, cert, key, hdone⟩
      · cases hok
      · obtain ⟨z, hz, hval⟩ := hdone.accepted.lchallenge
        obtain rfl := Option.some.inj (hl.symm.trans hz)
        exact hval.symm

theorem Settled.expectsOnly (hs : Referential s) (ha : Allocates amb s) (hx : Settled s l r x (some y)) :
    ExpectsOnly env s amb l r y := by
  constructor
  · intro inp pdata h out signed s' hrun
    rcases beginHandshakeReply_cases ha hrun (by simp) with ⟨⟨e, he⟩, -⟩ | ⟨h', c, c', rx, hres, hon⟩
    · cases he
    cases rx with
    | error e => cases hres
    | ok v =>
      obtain ⟨rfl, rfl⟩ := Prod.mk.inj (Except.ok.inj hres)
      have hr := (hx.onHandshake hs.sound hon).2 y rfl
      obtain ⟨_, c₁, hv, -⟩ := Act.bind_ok.1 hon.run
      obtain ⟨cert, hacc⟩ := validateRequest_ok hv
      have hframe : c.Frame c₁ := (validateHandshakeToken_frame .req).result hv
      obtain ⟨z, hz, rfl⟩ := hacc.state
      have hr' := hframe.rchallenge y hr
      rw [accepted_relation] at hr'
      obtain rfl := Option.some.inj hr'
      exact hz.symm
  · intro inp h hand out signed s' hh hpair hrun
    rcases processHandshake_cases hrun (by simp) with ⟨⟨e, he⟩, -⟩ | ⟨c, c', rx, hres, hon⟩
    · cases he
    cases rx with
    | error e => cases hres
    | ok v =>
      obtain ⟨result, certExp⟩ := v
      obtain rfl := Except.ok.inj hres
      have hr := (hx.onProcess hs.sound hon hh hpair).2 y rfl
      rcases processToken_ok hon.run with ⟨_, _, cert, key, keypair, ss, -, hdone⟩ | ⟨hok, -⟩
      · obtain ⟨c₁, hacc, c₂, hfinal, hcompleted⟩ := hdone.accepted
        obtain ⟨z, hz, rfl⟩ := hacc.state
        obtain ⟨ss', challenge1, challenge2, -, -, -, rfl⟩ := hcompleted.secret
        have hkept : (c.accepted env inp .reply cert z).relation.rchallenge = some y := by
          have hframe := (processToken_frame.result hon.run).rchallenge y hr
          rw [hfinal.state] at hframe
          exact hframe
        rw [accepted_relation] at hkept
        obtain rfl := Option.some.inj hkept
        exact hz.symm
      · cases hok
  · intro inp h hand s' hh hpair hrun
    rcases processHandshake_cases hrun (by simp) with ⟨⟨e, he⟩, -⟩ | ⟨c, c', rx, hres, hon⟩
    · cases he
    cases rx with
    | error e => cases hres
    | ok v =>
      obtain ⟨result, certExp⟩ := v
      obtain rfl := Except.ok.inj hres
      have hr := (hx.onProcess hs.sound hon hh hpair).2 y rfl
      rcases processToken_ok hon.run with ⟨_, _, cert, key, keypair, ss, hok, -⟩ | ⟨-, cert, key, hdone⟩
      · cases hok
      · exact (hdone.accepted.rchallenge y hr).symm

/-! ## Every run -/

/-- What `validate_remote_identity` settles for its two identities. -/
theorem RemoteSeen.settled {request : Option Token} {token : Token} {guid : Guid} {remote : RemoteIdentityInfo}
    {rchallenge : Option Challenge} (hs' : Referential s')
    (hseen : RemoteSeen env amb s request l token guid r a remote relation rchallenge s') :
    ∃ x, relation.lchallenge = some x ∧ Settled s' l r x rchallenge := by
  have hrel : s'.relation a = some relation := by rw [hseen.relation, if_pos rfl]
  obtain ⟨x, hx⟩ := Option.isSome_iff_exists.1 (hs'.challenged.lchallenge a relation hrel)
  obtain ⟨lchallenge, -, hsight⟩ := hseen.sighting
  have hremote : s'.remoteIdentity r = some remote := by rw [hseen.remoteIdentity, if_pos rfl]
  refine ⟨x, hx, a, relation, ?_, hrel, hx, ?_⟩
  · simp only [Authentication.findIdentityRelation, hremote, Option.bind_some]
    cases hsight with
    | made new => exact AList.lookup_insert _
    | linked known object unlinked => exact AList.lookup_insert _
    | known known object linked pointer => exact linked
  · intro z hz
    cases hsight with
    | made new => exact hz
    | linked known object unlinked => exact hz
    | known known object linked pointer =>
      rw [hz]
      rfl

theorem validateRemoteIdentity_step {request : Option Token} {token : Token} {guid : Guid}
    {res : RemoteResult × Handle × Option Token} (ha : Allocates amb s)
    (hrun : validateRemoteIdentity env amb request l token guid s = (.ok res, s')) :
    (plugin env).solo.step s (.validateRemoteIdentity request l token guid, amb) s' := by
  have hcall : (Op.validateRemoteIdentity request l token guid).call env amb s = (.ok [], s') :=
    Act.bind_ok.2 ⟨res, s', hrun, rfl⟩
  exact step_of_ok ha hcall

/-- **`future_challenge` is kept.** Once an AuthRequest for a remote identity was handed out, then until one of the two
identities is returned every AuthRequest, Request, Reply and Final of the pair carries the challenge it announced, and a
Reply or a Final is accepted only if it returns that challenge. -/
theorem future_challenge_kept (hr : Run (plugin env).solo tr₀ s) (ha : Allocates amb s) {request : Option Token}
    {token : Token} {guid : Guid} {result : RemoteResult}
    (hrun : validateRemoteIdentity env amb request l token guid s = (.ok (result, r, some out), s'))
    {s₁ : Authentication κ} (hs : Steps (plugin env).solo s' tr s₁) (hkept : ∀ e ∈ tr, ¬ e.2.1.Returns l r)
    {amb₁ : Ambient ρ} (ha₁ : Allocates amb₁ s₁) :
    ∃ x, out.Brings "future_challenge" x ∧ KeepsOwn env s₁ amb₁ l r x := by
  have hr' : Run (plugin env).solo ((s, .validateRemoteIdentity request l token guid, amb) :: tr₀) s' :=
    hr.step (validateRemoteIdentity_step ha hrun)
  have hs' := run_referential hr'
  rcases validateRemoteIdentity_cases ha hrun (by simp) with ⟨⟨e, he⟩, -⟩ |
    ⟨r', a, remote, relation, rchallenge, localIdent, -, hseen, hres⟩
  · cases he
  obtain rfl : r = r' := congrArg (fun p : RemoteResult × Handle × Option Token => p.2.1) (Except.ok.inj hres)
  have hout : (if request.isSome then none else relation.lchallenge.map authRequestToken) = some out :=
    (congrArg (fun p : RemoteResult × Handle × Option Token => p.2.2) (Except.ok.inj hres)).symm
  obtain ⟨x, hx, hsettled⟩ := hseen.settled hs'
  have hlater := settled_later hr' hs hkept (fun h => by cases h) hsettled.forget
  refine ⟨x, ?_, hlater.keepsOwn (run_referential (hr'.append hs)) ha₁⟩
  split at hout
  · cases hout
  rw [hx, Option.map_some] at hout
  obtain rfl := Option.some.inj hout
  rfl

/-- **An AuthRequest pins its sender.** Once an AuthRequest of a remote identity was taken in, then until the next one or
until one of the two identities is returned, a Request, a Reply or a Final of the pair is accepted only with the challenge
that the AuthRequest announced. -/
theorem auth_request_pins (hr : Run (plugin env).solo tr₀ s) (ha : Allocates amb s) {request token : Token} {guid : Guid}
    {result : RemoteResult} {reply : Option Token}
    (hrun : validateRemoteIdentity env amb (some request) l token guid s = (.ok (result, r, reply), s'))
    {s₁ : Authentication κ} (hs : Steps (plugin env).solo s' tr s₁)
    (hkept : ∀ e ∈ tr, ¬ e.2.1.Returns l r ∧ ¬ e.2.1.Announces e.1 l r) {amb₁ : Ambient ρ} (ha₁ : Allocates amb₁ s₁) :
    ∃ y, validateAuthRequestToken request = .ok y ∧ ExpectsOnly env s₁ amb₁ l r y := by
  have hr' : Run (plugin env).solo ((s, .validateRemoteIdentity (some request) l token guid, amb) :: tr₀) s' :=
    hr.step (validateRemoteIdentity_step ha hrun)
  rcases validateRemoteIdentity_cases ha hrun (by simp) with ⟨⟨e, he⟩, -⟩ |
    ⟨r', a, remote, relation, rchallenge, localIdent, -, hseen, hres⟩
  · cases he
  obtain rfl : r = r' := congrArg (fun p : RemoteResult × Handle × Option Token => p.2.1) (Except.ok.inj hres)
  obtain ⟨x, -, hsettled⟩ := hseen.settled (run_referential hr')
  rcases Effect.mapM_ok hseen.request with ⟨hnone, -⟩ | ⟨request', y, heq, rfl, hy⟩
  · cases hnone
  obtain rfl := Option.some.inj heq
  have hlater := settled_later hr' hs (fun e he => (hkept e he).1) (fun _ e he => (hkept e he).2) hsettled
  exact ⟨y, hy, hlater.expectsOnly (run_referential (hr'.append hs)) ha₁⟩

/-! ## Two participants that meet -/

namespace Ideal

/-- What `validate_remote_identity` reports when the participant `pair` meets another one. -/
def firstSight (request : Option Token) (pair remote : UInt8) :=
  validateRemoteIdentity Ideal.env (ambient 2) request 1 identityToken (Ideal.guid remote) (after start [localCall pair])

/-- The AuthRequest of the participant 3. -/
def aliceRequest : Token := authRequestToken (ambient 2).randBytes

theorem firstSight_facts :
    Allocates (ambient 2) (after start [localCall 3]) ∧ (firstSight none 3 5).1.toOption.map (·.2.1) = some 2 ∧
    ((firstSight none 3 5).1.toOption.bind (·.2.2)).isSome ∧ Allocates (ambient 2) (after start [localCall 5]) ∧
    (firstSight (some aliceRequest) 5 3).1.toOption.map (·.2.1) = some 2 := by
  decide +kernel

end Ideal

/-- After the participant 3 has met 5 and sent it a Request. -/
theorem future_challenge_kept_sample :
    ∃ x, KeepsOwn Ideal.env (Ideal.after Ideal.start (Ideal.aliceCalls ++ [Ideal.requestCall 10 3])) (Ideal.ambient 11)
      1 2 x := by
  obtain ⟨ha, hr, hout, -, -⟩ := Ideal.firstSight_facts
  rcases hrun : Ideal.firstSight none 3 5 with ⟨_ | ⟨result, r, out⟩, s'⟩
  · rw [hrun] at hr
    cases hr
  rw [hrun] at hr hout
  obtain rfl : r = 2 := Option.some.inj hr
  obtain ⟨out, rfl⟩ := Option.isSome_iff_exists.1 hout
  obtain rfl : s' = Ideal.after Ideal.start Ideal.aliceCalls := (validateRemoteIdentity_step ha hrun).2
  have hsteps : Steps (plugin Ideal.env).solo (Ideal.after Ideal.start Ideal.aliceCalls)
      [(Ideal.after Ideal.start Ideal.aliceCalls, Ideal.requestCall 10 3)]
      (Ideal.after Ideal.start (Ideal.aliceCalls ++ [Ideal.requestCall 10 3])) := .step .refl ⟨by decide +kernel, rfl⟩
  obtain ⟨x, -, hx⟩ := future_challenge_kept (Ideal.calls_run true .mlKem512 [Ideal.localCall 3]) ha hrun hsteps
    (by simp [Ideal.requestCall, Op.Returns]) (by decide +kernel : Allocates (Ideal.ambient 11) _)
  exact ⟨x, hx⟩

/-- After the participant 5 has taken in the AuthRequest of 3. -/
theorem auth_request_pins_sample : ∃ y, validateAuthRequestToken Ideal.aliceRequest = .ok y ∧
    ExpectsOnly Ideal.env (Ideal.after Ideal.start [Ideal.localCall 5, Ideal.remoteCall (some Ideal.aliceRequest) 3])
      (Ideal.ambient 10) 1 2 y := by
  obtain ⟨-, -, -, ha, hr⟩ := Ideal.firstSight_facts
  rcases hrun : Ideal.firstSight (some Ideal.aliceRequest) 5 3 with ⟨_ | ⟨result, r, out⟩, s'⟩
  · rw [hrun] at hr
    cases hr
  rw [hrun] at hr
  obtain rfl : r = 2 := Option.some.inj hr
  obtain rfl : s' = Ideal.after Ideal.start [Ideal.localCall 5, Ideal.remoteCall (some Ideal.aliceRequest) 3] :=
    (validateRemoteIdentity_step ha hrun).2
  exact auth_request_pins (Ideal.calls_run true .mlKem512 [Ideal.localCall 5]) ha hrun .refl (by simp)
    (by decide +kernel : Allocates (Ideal.ambient 10) _)

end PqsecDds.CycloneDDS
