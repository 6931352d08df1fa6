import PqsecDds.OpenDDS.Works

/-!
# The exchange of two honest participants

Two callers discover each other with `validate_remote_identity`, in any order and with any mixture of nil and genuine
AuthRequest tokens, and pass the three handshake tokens on. `exchange` is the system of both callers with their plugins.
What a caller knows of the other one is `Acquainted`, how far the handshake is `Stage`; here is what one move does to
them.
-/

namespace PqsecDds.OpenDDS

open Lib Authentication

variable {α κ π ρ : Type} [Octet α] [DecidableEq α]
variable {env : Env α κ π ρ} {amb : Ambient α ρ} {s : Authentication α κ π} {op : Op α} {k : Str α}

/-! ## The exchange -/

/-- A participant, as the other one knows it. -/
structure Participant (α π : Type) where
  localHandle : Handle
  guid : Guid
  certificate : Certificate α π
  ca : Certificate α π
  participantData : OctetSeq α

/-- The local identity of a participant. -/
structure Participant.Owns (P : Participant α π) (k : Str α) (l : LocalIdentity α π) : Prop where
  guid : l.guid = P.guid
  certificate : l.credentials.participantCert = P.certificate
  privateKey : l.credentials.participantPrivateKey = P.certificate.publicKey
  ca : l.credentials.caCert = P.ca
  algorithm : l.kemAlgorithm = k

/-- The participants have different GUIDs, derived from their certificates, and certificates and participant data that can
be read. -/
structure Prepared (env : Env α κ π ρ) (P : Bool → Participant α π) : Prop where
  distinct : (P false).guid ≠ (P true).guid
  adjusted : ∀ i candidate, env.makeAdjustedGuid candidate (P i).certificate = some (P i).guid →
    certMatchesGuid (P i).certificate (P i).guid = true
  certificate : ∀ i, env.deserializeCertificate (P i).certificate.originalBytes = some (P i).certificate
  participantData : ∀ i, (P i).participantData ≠ [] ∧
    participantDataHasGuid env (P i).participantData (P i).guid = true

/-- A caller: its plugin, and what it remembers of the calls it has made. -/
structure Caller (α κ π : Type) where
  plugin : Authentication α κ π
  /-- The remote handle that the first call of `validate_remote_identity` returned. -/
  remoteHandle : Handle := 0
  /-- The results of `validate_remote_identity`, the latest first. -/
  verdicts : List ValidationResult := []
  /-- The AuthRequests that the calls with a nil token returned. -/
  authRequests : List (Token α) := []
  handshakeHandle : Handle := 0
  /-- The results of the handshake calls, the latest first. -/
  outcomes : List ValidationResult := []
  /-- The token of the latest handshake call. -/
  message : Token α := {}

inductive Move (α ρ : Type) where
  | discover (i : Bool) (localRequest remoteRequest identityToken : Token α) (amb : Ambient α ρ)
  | request (i : Bool) (message : Token α) (amb : Ambient α ρ)
  | reply (i : Bool) (amb : Ambient α ρ)
  | finish (i : Bool) (output : Token α) (amb : Ambient α ρ)
  | accept (i : Bool) (output : Token α) (amb : Ambient α ρ)
  | other (i : Bool) (op : Op α) (amb : Ambient α ρ)

def Caller.discover (env : Env α κ π ρ) (amb : Ambient α ρ) (P : Bool → Participant α π) (i : Bool)
    (localRequest remoteRequest identityToken : Token α) (c : Caller α κ π) : Caller α κ π :=
  let (o, s) := validateRemoteIdentity env amb c.plugin c.remoteHandle localRequest remoteRequest (P i).localHandle
    identityToken (P !i).guid
  { c with
    plugin := s
    remoteHandle := o.handle
    verdicts := o.result :: c.verdicts
    authRequests := if remoteRequest.isNil then o.token :: c.authRequests else c.authRequests }

/-- The caller notes the outcome of a handshake call. -/
def Caller.note (c : Caller α κ π) (result : Outcome α π × Authentication α κ π) : Caller α κ π :=
  { c with
    plugin := result.2
    handshakeHandle := result.1.handle
    outcomes := result.1.result :: c.outcomes
    message := result.1.token }

/-- What a move makes of the caller that makes it; `peer` is the other one. -/
def Caller.move (env : Env α κ π ρ) (P : Bool → Participant α π) (c peer : Caller α κ π) :
    Move α ρ → Caller α κ π
  | .discover i localRequest remoteRequest identityToken amb =>
    c.discover env amb P i localRequest remoteRequest identityToken
  | .request i message amb =>
    c.note (beginHandshakeRequest env amb c.plugin 0 message (P i).localHandle c.remoteHandle (P i).participantData)
  | .reply i amb =>
    c.note (beginHandshakeReply env amb c.plugin 0 peer.message c.remoteHandle (P i).localHandle (P i).participantData)
  | .finish _ output amb => c.note (processHandshake env amb c.plugin output peer.message c.handshakeHandle)
  | .accept _ output amb => c.note (processHandshake env amb c.plugin output peer.message c.handshakeHandle)
  | .other _ op amb => { c with plugin := (exec env c.plugin (op, amb)).1 }

def Move.mover : Move α ρ → Bool
  | .discover i .. | .request i .. | .reply i .. | .finish i .. | .accept i .. | .other i .. => i

/-- A call that is none of the exchange leaves the exchange's objects alone; it may load permissions. -/
structure Undisturbed (c : Caller α κ π) (localHandle : Handle) (s' : Authentication α κ π) : Prop where
  localIdentity : ∀ q l, c.plugin.findLocal localHandle = some (q, l) →
    ∃ permissions, s'.findLocal localHandle =
      some (q, { l with credentials := { l.credentials with accessPermissions := permissions } })
  remoteIdentity : s'.findRemote c.remoteHandle = c.plugin.findRemote c.remoteHandle
  handshake : s'.findHandshake c.handshakeHandle = c.plugin.findHandshake c.handshakeHandle

/-- When a caller makes a move. -/
def Permitted (env : Env α κ π ρ) (P : Bool → Participant α π) (c peer : Caller α κ π) : Move α ρ → Prop
  -- A nil token only before the handshake is begun, else an AuthRequest of the other side.
  | .discover _ _ remoteRequest identityToken _ =>
    identityToken.classIs "pqsec-dds.auth:1.0" = true ∧
      (remoteRequest.isNil = true ∧ c.outcomes = [] ∨ remoteRequest ∈ peer.authRequests)
  | .request _ message _ =>
    .pendingHandshakeRequest ∈ c.verdicts ∧ c.outcomes = [] ∧ message.binaryProperties = []
  | .reply i amb =>
    .pendingHandshakeMessage ∈ c.verdicts ∧ c.outcomes = [] ∧ peer.outcomes.length = 1 ∧
      env.validateCertificate amb.now (P !i).certificate (P i).ca = true
  | .finish i _ amb =>
    .pendingHandshakeRequest ∈ c.verdicts ∧ c.outcomes.length = 1 ∧ peer.outcomes.length = 1 ∧
      env.validateCertificate amb.now (P !i).certificate (P i).ca = true
  | .accept _ _ _ =>
    .pendingHandshakeMessage ∈ c.verdicts ∧ c.outcomes.length = 1 ∧ peer.outcomes.length = 2
  | .other i op amb => Undisturbed c (P i).localHandle (exec env c.plugin (op, amb)).1

abbrev Exchange (α κ π : Type) := Bool → Caller α κ π

/-- A caller that knows nothing of the other participant yet. -/
structure Fresh (env : Env α κ π ρ) (P : Participant α π) (k : Str α) (c : Caller α κ π) : Prop where
  reached : ∃ tr, Run (plugin env).solo tr c.plugin
  identity : ∃ q l, c.plugin.findLocal P.localHandle = some (q, l) ∧ P.Owns k l
  memory : c = { plugin := c.plugin }

/-- Both callers with their plugins. As in a run of one plugin (`Defined`), no counter leaves its range. -/
def exchange (env : Env α κ π ρ) (P : Bool → Participant α π) (k : Str α) : System (Exchange α κ π) (Move α ρ) where
  init x := ∀ i, Fresh env (P i) k (x i)
  step x m x' := Permitted env P (x m.mover) (x !m.mover) m ∧
    InInt32 ((x m.mover).move env P (x !m.mover) m).plugin.nextHandle ∧
    x' = Function.update x m.mover ((x m.mover).move env P (x !m.mover) m)

/-! ## Discovery -/

/-- The AuthRequest that advertises `challenge`. -/
def advertisement (challenge : OctetSeq α) : Token α :=
  (Token.writer {} "pqsec-dds.auth:1.0+AuthReq").addBinProperty "future_challenge" challenge

theorem advertisement_facts (challenge : OctetSeq α) :
    (advertisement challenge).isNil = false ∧ (advertisement challenge).classIs "pqsec-dds.auth:1.0+AuthReq" = true ∧
    futureChallenge (advertisement challenge) = challenge := by
  have hcarries : Carries (advertisement challenge) "pqsec-dds.auth:1.0+AuthReq" [("future_challenge", challenge)] :=
    (Carries.writer rfl _).add _ _
  refine ⟨?_, hcarries.classIs, ?_⟩
  · simp [advertisement, Token.isNil, Token.addBinProperty, Token.writer]
  · rw [futureChallenge, hcarries.get, lookup_cons_self]

/-- What a participant knows of its remote identity `r`. -/
structure Meets (P : Bool → Participant α π) (i : Bool) (c peer : Caller α κ π) (r : RemoteIdentity α) : Prop where
  localHandle : r.localHandle = (P i).localHandle
  guid : r.guid = (P !i).guid
  length : r.localChallenge.length = 32
  advertised : r.localAuthRequest = advertisement r.localChallenge
  returned : ∀ t ∈ c.authRequests, t = advertisement r.localChallenge
  sent : c.authRequests ≠ [] → r.localAuthRequestSent = true
  noted : r.remoteChallenge = [] ∨ advertisement r.remoteChallenge ∈ peer.authRequests
  verdict : c.verdicts ≠ []
  verdicts : ∀ v ∈ c.verdicts, v = role (P i).guid (P !i).guid

structure Undiscovered (c : Caller α κ π) : Prop where
  remoteHandle : c.remoteHandle = 0
  verdicts : c.verdicts = []
  authRequests : c.authRequests = []
  outcomes : c.outcomes = []

structure Acquainted (env : Env α κ π ρ) (P : Bool → Participant α π) (k : Str α) (i : Bool) (c peer : Caller α κ π) :
    Prop where
  reached : ∃ tr, Run (plugin env).solo tr c.plugin
  identity : ∃ q l, c.plugin.findLocal (P i).localHandle = some (q, l) ∧ (P i).Owns k l
  remote : Undiscovered c ∨
    ∃ p r, c.remoteHandle ≠ 0 ∧ c.plugin.findRemote c.remoteHandle = some (p, r) ∧ Meets P i c peer r

variable {P : Bool → Participant α π} {i a : Bool} {c c' peer peer' : Caller α κ π}

theorem Fresh.acquainted (h : Fresh env (P i) k c) : Acquainted env P k i c peer := by
  obtain ⟨hreached, hidentity, hmemory⟩ := h
  refine ⟨hreached, hidentity, .inl ⟨?_, ?_, ?_, ?_⟩⟩ <;> rw [hmemory]

omit [DecidableEq α] in
theorem Meets.mono {r : RemoteIdentity α} (h : Meets P i c peer r) (hsub : peer.authRequests ⊆ peer'.authRequests) :
    Meets P i c peer' r :=
  { h with noted := h.noted.imp_right fun hmem => hsub hmem }

theorem Acquainted.mono (h : Acquainted env P k i c peer) (hsub : peer.authRequests ⊆ peer'.authRequests) :
    Acquainted env P k i c peer' :=
  { h with remote := h.remote.imp_right fun ⟨p, r, hne, hr, hmeets⟩ => ⟨p, r, hne, hr, hmeets.mono hsub⟩ }

/-- A caller that has had a verdict knows its remote identity. -/
theorem Acquainted.discovered (h : Acquainted env P k i c peer) (hverdict : c.verdicts ≠ []) :
    ∃ p r, c.remoteHandle ≠ 0 ∧ c.plugin.findRemote c.remoteHandle = some (p, r) ∧ Meets P i c peer r := by
  rcases h.remote with hun | hremote
  · exact absurd hun.verdicts hverdict
  · exact hremote

theorem Acquainted.returned (h : Acquainted env P k i c peer) {t : Token α} (ht : t ∈ c.authRequests) :
    ∃ challenge, t = advertisement challenge ∧ challenge.length = 32 := by
  rcases h.remote with hun | ⟨p, r, -, -, hmeets⟩
  · rw [hun.authRequests] at ht
    cases ht
  · exact ⟨r.localChallenge, hmeets.returned t ht, hmeets.length⟩

theorem Acquainted.supported (h : Acquainted env P k i c peer) :
    opensslSupports env c.plugin.fallbackProvider.loaded k = true ∧ kemAlgorithm k = true ∧
    mldsaAlgorithm (P i).certificate.dsignAlgo = true ∧
    ∃ candidate, env.makeAdjustedGuid candidate (P i).certificate = some (P i).guid := by
  obtain ⟨tr, hr⟩ := h.reached
  obtain ⟨q, l, hl, howns⟩ := h.identity
  obtain ⟨hcert, halg, hsup, hguid⟩ := localIdentities_valid hr l (List.mem_of_getElem? (findLocal_eq_some.1 hl).2)
  rw [howns.certificate] at hcert hguid
  rw [howns.algorithm] at halg hsup
  rw [howns.guid] at hguid
  exact ⟨hsup, halg, hcert, hguid⟩

/-! ### `validate_remote_identity` between honest participants -/

/-- The AuthRequests an honest caller passes on: a nil token, or one that the other side returned. -/
def FromPeer (peer : Caller α κ π) (rt : Token α) : Prop := rt.isNil = true ∨ rt ∈ peer.authRequests

/-- An honest AuthRequest is never rejected. -/
theorem receiveAuthRequest_honest (hpeer : ∀ t ∈ peer.authRequests, ∃ challenge, t = advertisement challenge ∧ challenge.length = 32)
    (s : Authentication α κ π) (p : Nat) (r : RemoteIdentity α) (rh : Handle) (lt : Token α) {rt : Token α} (g : Guid)
    (hrt : FromPeer peer rt) :
    ∃ r', receiveAuthRequest s p r rh lt rt g =
        ({ result := role g r.guid, handle := rh, token := if rt.isNil then r.localAuthRequest else {} },
          s.setRemote p r') ∧
      AuthRequestFrame r r' ∧ r'.localAuthRequestSent = (rt.isNil || r.localAuthRequestSent) ∧
      (r'.remoteChallenge = [] ∨ advertisement r'.remoteChallenge ∈ peer.authRequests) := by
  rcases hrt with hnil | hmem
  · have hchallenge : rt.getBinPropertyValue "future_challenge" = [] := futureChallenge_nil hnil
    simp only [receiveAuthRequest, hnil, hchallenge, Bool.not_true, Bool.false_and, Bool.false_eq_true, if_false, if_true,
      Bool.true_or]
    exact ⟨_, rfl, by constructor <;> rfl, rfl, .inl rfl⟩
  · obtain ⟨challenge, rfl, hlen⟩ := hpeer rt hmem
    obtain ⟨hnil, hclass, hchallenge⟩ := advertisement_facts challenge
    have hread : (advertisement challenge).getBinPropertyValue "future_challenge" = challenge := hchallenge
    simp only [receiveAuthRequest, hnil, hclass, hread, hlen, Bool.not_false, Bool.not_true, Bool.and_false, ne_eq,
      not_true_eq_false, decide_false, Bool.false_eq_true, if_false, Bool.false_or]
    exact ⟨_, rfl, by constructor <;> rfl, rfl, .inr hmem⟩

omit [Octet α] [DecidableEq α] in
theorem findRemote_addRemote (s : Authentication α κ π) (r : RemoteIdentity α) :
    (s.addRemote r).findRemote s.nextHandle = some (s.remoteHeap.length, r) := by
  rw [findRemote_eq_some, addRemote]
  exact ⟨Function.update_self _ _ _, by rw [List.getElem?_concat_length]⟩

omit [Octet α] [DecidableEq α] in
theorem findRemote_setRemote {h : Handle} {p : Nat} {r r' : RemoteIdentity α} (hr : s.findRemote h = some (p, r)) :
    (s.setRemote p r').findRemote h = some (p, r') := by
  obtain ⟨hp, hget⟩ := findRemote_eq_some.1 hr
  rw [findRemote_eq_some, setRemote]
  exact ⟨hp, by rw [List.getElem?_set_self (List.getElem?_eq_some_iff.1 hget).1]⟩

/-- The handshake belongs to the two identities of the caller. -/
structure Linked (lh : Handle) (c : Caller α κ π) (hs : Handshake α κ π) : Prop where
  localIdentity : ∃ l, c.plugin.findLocal lh = some (hs.localPtr, l)
  remoteIdentity : ∃ r, c.plugin.findRemote c.remoteHandle = some (hs.remotePtr, r)

/-- What the moves that are no handshake calls leave alone. -/
structure Background (lh : Handle) (c c' : Caller α κ π) : Prop where
  outcomes : c'.outcomes = c.outcomes
  message : c'.message = c.message
  returned : c.authRequests ⊆ c'.authRequests
  authRequests : c.outcomes ≠ [] → c'.authRequests = c.authRequests
  handshake : c'.plugin.findHandshake c'.handshakeHandle = c.plugin.findHandshake c.handshakeHandle
  linked : c.outcomes ≠ [] → ∀ hs, Linked lh c hs → Linked lh c' hs

variable (env amb P i) in
/-- Only AuthRequests that were asked for are noted. -/
theorem Caller.discover_authRequests (lt : Token α) {rt : Token α} (it : Token α)
    (hnil : rt.isNil = true → c.outcomes = []) :
    c.authRequests ⊆ (c.discover env amb P i lt rt it).authRequests ∧
    (c.outcomes ≠ [] → (c.discover env amb P i lt rt it).authRequests = c.authRequests) := by
  constructor
  · simp only [Caller.discover]
    split
    · exact List.subset_cons_self _ _
    · exact List.Subset.refl _
  · intro hne
    simp only [Caller.discover]
    exact if_neg fun h => hne (hnil h)

/-- The first call of `validate_remote_identity` makes the remote identity. -/
theorem Acquainted.introduce (hw : Works env) (lt : Token α) {rt it : Token α} (h : Acquainted env P k i c peer)
    (hpeer : Acquainted env P k (!i) peer c) (hclass : it.classIs "pqsec-dds.auth:1.0" = true)
    (hfrom : FromPeer peer rt) (hnil : rt.isNil = true → c.outcomes = [])
    (hreached : ∃ tr, Run (plugin env).solo tr (c.discover env amb P i lt rt it).plugin) (hun : Undiscovered c) :
    Acquainted env P k i (c.discover env amb P i lt rt it) peer ∧
    Background (P i).localHandle c (c.discover env amb P i lt rt it) := by
  obtain ⟨q, l, hl, howns⟩ := h.identity
  obtain ⟨hreturned, hkept⟩ := Caller.discover_authRequests env amb P i lt it hnil
  obtain ⟨challenge, hn, hlen⟩ := hw.nonce amb.nonceSeed
  have hnext : c.plugin.nextHandle ≠ 0 := by
    obtain ⟨tr, hr⟩ := h.reached
    have hpos := (nextHandle_le hr).1
    omega
  obtain ⟨r', hreceive, hframe, hsent, hnoted⟩ := receiveAuthRequest_honest (fun t ht => hpeer.returned ht)
    (c.plugin.addRemote (newRemote (P i).localHandle (P !i).guid challenge)) c.plugin.remoteHeap.length
    (newRemote (P i).localHandle (P !i).guid challenge) c.plugin.nextHandle lt l.guid hfrom
  rw [setRemote_addRemote] at hreceive
  have hdiscover : c.discover env amb P i lt rt it = { c with
      plugin := c.plugin.addRemote r', remoteHandle := c.plugin.nextHandle,
      verdicts := role (P i).guid (P !i).guid :: c.verdicts
      authRequests := if rt.isNil then (if rt.isNil then advertisement challenge else {}) :: c.authRequests
        else c.authRequests } := by
    have hintro : Introduces env amb c.plugin 0 (P i).localHandle it l challenge :=
      ⟨⟨q, hl⟩, hclass, fun hne => absurd rfl hne, hn⟩
    simp only [Caller.discover, hun.remoteHandle, validateRemoteIdentity_new hintro, hreceive]
    rw [howns.guid]
    rfl
  rw [hdiscover] at hreached hreturned hkept ⊢
  refine ⟨⟨hreached, ⟨q, l, hl, howns⟩, .inr ⟨_, r', hnext, findRemote_addRemote _ _, ?_⟩⟩, ?_⟩
  · refine ⟨hframe.localHandle, hframe.guid, ?_, ?_, ?_, ?_, hnoted, List.cons_ne_nil _ _, ?_⟩
    · rw [hframe.localChallenge]
      exact hlen
    · rw [hframe.localAuthRequest, hframe.localChallenge]
      rfl
    · intro t ht
      rw [hframe.localChallenge]
      dsimp only at ht
      rw [hun.authRequests] at ht
      split at ht
      · exact List.mem_singleton.1 ht
      · cases ht
    · intro hne
      dsimp only at hne
      rw [hun.authRequests] at hne
      rw [hsent]
      split at hne
      · rename_i hnil
        rw [hnil]
        rfl
      · exact absurd rfl hne
    · intro v hv
      rcases List.mem_cons.1 hv with rfl | hv
      · rfl
      · rw [hun.verdicts] at hv
        cases hv
  · exact ⟨rfl, rfl, hreturned, hkept, rfl, fun hne => absurd hun.outcomes hne⟩

/-- A later call of `validate_remote_identity` finds the remote identity. -/
theorem Acquainted.address (lt : Token α) {rt it : Token α} (h : Acquainted env P k i c peer)
    (hpeer : Acquainted env P k (!i) peer c) (hclass : it.classIs "pqsec-dds.auth:1.0" = true)
    (hfrom : FromPeer peer rt) (hnil : rt.isNil = true → c.outcomes = [])
    (hreached : ∃ tr, Run (plugin env).solo tr (c.discover env amb P i lt rt it).plugin) {p : Nat} {r : RemoteIdentity α}
    (hne : c.remoteHandle ≠ 0) (hr : c.plugin.findRemote c.remoteHandle = some (p, r)) (hmeets : Meets P i c peer r) :
    Acquainted env P k i (c.discover env amb P i lt rt it) peer ∧
    Background (P i).localHandle c (c.discover env amb P i lt rt it) := by
  obtain ⟨q, l, hl, howns⟩ := h.identity
  obtain ⟨hreturned, hkept⟩ := Caller.discover_authRequests env amb P i lt it hnil
  have haddr : Addresses c.plugin c.remoteHandle (P i).localHandle it (P !i).guid p l r :=
    ⟨⟨q, hl⟩, hclass, hne, hr, hmeets.localHandle, hmeets.guid⟩
  obtain ⟨r', hreceive, hframe, hsent, hnoted⟩ := receiveAuthRequest_honest (fun t ht => hpeer.returned ht)
    c.plugin p r c.remoteHandle lt l.guid hfrom
  have hdiscover : c.discover env amb P i lt rt it = { c with
      plugin := c.plugin.setRemote p r', remoteHandle := c.remoteHandle,
      verdicts := role (P i).guid (P !i).guid :: c.verdicts
      authRequests := if rt.isNil then (if rt.isNil then r.localAuthRequest else {}) :: c.authRequests
        else c.authRequests } := by
    simp only [Caller.discover, validateRemoteIdentity_known haddr, hreceive]
    rw [howns.guid, hmeets.guid]
  rw [hdiscover] at hreached hreturned hkept ⊢
  refine ⟨⟨hreached, ⟨q, l, hl, howns⟩, .inr ⟨p, r', hne, findRemote_setRemote hr, ?_⟩⟩, ?_⟩
  · refine ⟨by rw [hframe.localHandle, hmeets.localHandle], by rw [hframe.guid, hmeets.guid],
      by rw [hframe.localChallenge, hmeets.length],
      by rw [hframe.localAuthRequest, hframe.localChallenge, hmeets.advertised], ?_, ?_, hnoted, List.cons_ne_nil _ _, ?_⟩
    · intro t ht
      rw [hframe.localChallenge]
      dsimp only at ht
      split at ht
      · rcases List.mem_cons.1 ht with rfl | ht
        · exact hmeets.advertised
        · exact hmeets.returned t ht
      · exact hmeets.returned t ht
    · intro hsome
      dsimp only at hsome
      rw [hsent]
      split at hsome
      · rename_i hnil
        rw [hnil]
        rfl
      · rw [hmeets.sent hsome, Bool.or_true]
    · intro v hv
      rcases List.mem_cons.1 hv with rfl | hv
      · rfl
      · exact hmeets.verdicts v hv
  · refine ⟨rfl, rfl, hreturned, hkept, rfl, fun _ hs hlinked => ⟨hlinked.localIdentity, ?_⟩⟩
    obtain ⟨r₁, hr₁⟩ := hlinked.remoteIdentity
    rw [hr] at hr₁
    obtain ⟨hp, -⟩ := Prod.mk.inj (Option.some.inj hr₁)
    exact ⟨r', by rw [← hp]; exact findRemote_setRemote hr⟩

theorem Acquainted.discover (hw : Works env) (lt : Token α) {rt it : Token α} (h : Acquainted env P k i c peer)
    (hpeer : Acquainted env P k (!i) peer c) (hclass : it.classIs "pqsec-dds.auth:1.0" = true)
    (hrt : rt.isNil = true ∧ c.outcomes = [] ∨ rt ∈ peer.authRequests)
    (hdef : InInt32 (c.discover env amb P i lt rt it).plugin.nextHandle) :
    Acquainted env P k i (c.discover env amb P i lt rt it) peer ∧
    Background (P i).localHandle c (c.discover env amb P i lt rt it) := by
  have hfrom : FromPeer peer rt := hrt.imp And.left id
  have hnil : rt.isNil = true → c.outcomes = [] := by
    intro hnil
    rcases hrt with ⟨-, hnone⟩ | hmem
    · exact hnone
    · obtain ⟨challenge, rfl, -⟩ := hpeer.returned hmem
      rw [(advertisement_facts challenge).1] at hnil
      cases hnil
  have hreached : ∃ tr, Run (plugin env).solo tr (c.discover env amb P i lt rt it).plugin := by
    obtain ⟨tr, hr⟩ := h.reached
    have hdefined : Defined env c.plugin
        (.validateRemoteIdentity c.remoteHandle lt rt (P i).localHandle it (P !i).guid, amb) := hdef
    exact ⟨_, .step hr ⟨hdefined, rfl⟩⟩
  rcases h.remote with hun | ⟨p, r, hne, hr, hmeets⟩
  · exact h.introduce hw lt hpeer hclass hfrom hnil hreached hun
  · exact h.address lt hpeer hclass hfrom hnil hreached hne hr hmeets

theorem Acquainted.other (h : Acquainted env P k i c peer)
    (hother : Undisturbed c (P i).localHandle (exec env c.plugin (op, amb)).1)
    (hdef : Defined env c.plugin (op, amb)) :
    Acquainted env P k i { c with plugin := (exec env c.plugin (op, amb)).1 } peer ∧
    Background (P i).localHandle c { c with plugin := (exec env c.plugin (op, amb)).1 } := by
  refine ⟨⟨?_, ?_, ?_⟩, ?_⟩
  · obtain ⟨tr, hr⟩ := h.reached
    exact ⟨_, .step (l := (op, amb)) hr ⟨hdef, rfl⟩⟩
  · obtain ⟨q, l, hl, howns⟩ := h.identity
    obtain ⟨permissions, hl'⟩ := hother.localIdentity q l hl
    exact ⟨q, _, hl', ⟨howns.guid, howns.certificate, howns.privateKey, howns.ca, howns.algorithm⟩⟩
  · rcases h.remote with hun | ⟨p, r, hne, hr, hmeets⟩
    · exact .inl ⟨hun.remoteHandle, hun.verdicts, hun.authRequests, hun.outcomes⟩
    · refine .inr ⟨p, r, hne, ?_, ⟨hmeets.localHandle, hmeets.guid, hmeets.length, hmeets.advertised, hmeets.returned,
        hmeets.sent, hmeets.noted, hmeets.verdict, hmeets.verdicts⟩⟩
      rw [← hr]
      exact hother.remoteIdentity
  · refine ⟨rfl, rfl, List.Subset.refl _, fun _ => rfl, hother.handshake, fun _ hs hlinked => ⟨?_, ?_⟩⟩
    · obtain ⟨l, hl⟩ := hlinked.localIdentity
      obtain ⟨permissions, hl'⟩ := hother.localIdentity _ l hl
      exact ⟨_, hl'⟩
    · obtain ⟨r, hr⟩ := hlinked.remoteIdentity
      exact ⟨r, hother.remoteIdentity.trans hr⟩

/-! ## The handshake -/

/-- The Request is out. -/
structure Opened (env : Env α κ π ρ) (P : Bool → Participant α π) (k : Str α) (a : Bool) (c : Caller α κ π) (key : κ)
    (permissions : OctetSeq α) (hs : Handshake α κ π) : Prop where
  found : ∃ p, c.plugin.findHandshake c.handshakeHandle = some (p, hs)
  linked : Linked (P a).localHandle c hs
  initiator : hs.initiator = true
  state : hs.state = .pendingHandshakeMessage
  kem : hs.kem = { algorithm := k, key := some key }
  exported : Exported env k key hs.publicKey
  length : hs.challenge1.length = 32
  own : ∀ t ∈ c.authRequests, futureChallenge t = hs.challenge1
  hash : credentialHash env (P a).certificate.originalBytes permissions (P a).participantData (P a).certificate.dsignAlgo k =
    some hs.hash1
  message : Carries c.message "pqsec-dds.auth:1.0+Req"
    (requestValues (P a).certificate permissions (P a).participantData k hs.publicKey hs.challenge1)

/-- The Reply to the Request of `hs` is out. -/
structure Answered (env : Env α κ π ρ) (P : Bool → Participant α π) (k : Str α) (b : Bool) (d : Caller α κ π) (seed : ρ)
    (permissions signature : OctetSeq α) (hs hs' : Handshake α κ π) : Prop where
  found : ∃ p, d.plugin.findHandshake d.handshakeHandle = some (p, hs')
  linked : Linked (P b).localHandle d hs'
  initiator : hs'.initiator = false
  state : hs'.state = .pendingHandshakeMessage
  certificate : hs'.remoteCertificate = some (P !b).certificate
  hash1 : hs'.hash1 = hs.hash1
  challenge1 : hs'.challenge1 = hs.challenge1
  publicKey : hs'.publicKey = hs.publicKey
  length : hs'.challenge2.length = 32
  own : ∀ t ∈ d.authRequests, futureChallenge t = hs'.challenge2
  encapsulated : (env.kem k).Encapsulated hs.publicKey seed hs'.ciphertext hs'.secret
  hash : credentialHash env (P b).certificate.originalBytes permissions (P b).participantData (P b).certificate.dsignAlgo k =
    some hs'.hash2
  message : Carries d.message "pqsec-dds.auth:1.0+Reply"
    (replyValues (P b).certificate permissions (P b).participantData k hs'.ciphertext hs'.challenge1 hs'.challenge2 signature)
  verified : verifySerialized env hs'.replyProperties (P b).certificate signature = true

/-- The Final to the Reply of `hs'` is out. -/
structure Finished (env : Env α κ π ρ) (P : Bool → Participant α π) (a : Bool) (c : Caller α κ π) (signature : OctetSeq α)
    (hs hs' : Handshake α κ π) : Prop where
  found : ∃ p, c.plugin.findHandshake c.handshakeHandle = some (p, hs)
  state : hs.state = .okFinalMessage
  same : SameSession hs hs'
  message : Carries c.message "pqsec-dds.auth:1.0+Final" [("signature", signature)]
  verified : verifySerialized env hs'.finalProperties (P a).certificate signature = true

theorem Opened.later {key : κ} {permissions : OctetSeq α} {hs : Handshake α κ π} (h : Opened env P k a c key permissions hs)
    (hb : Background (P a).localHandle c c') (hne : c.outcomes ≠ []) : Opened env P k a c' key permissions hs :=
  { h with
    found := by rw [hb.handshake]; exact h.found
    linked := hb.linked hne _ h.linked
    own := by rw [hb.authRequests hne]; exact h.own
    message := by rw [hb.message]; exact h.message }

theorem Answered.later {seed : ρ} {permissions signature : OctetSeq α} {hs hs' : Handshake α κ π}
    (h : Answered env P k i c seed permissions signature hs hs') (hb : Background (P i).localHandle c c')
    (hne : c.outcomes ≠ []) : Answered env P k i c' seed permissions signature hs hs' :=
  { h with
    found := by rw [hb.handshake]; exact h.found
    linked := hb.linked hne _ h.linked
    own := by rw [hb.authRequests hne]; exact h.own
    message := by rw [hb.message]; exact h.message }

omit [DecidableEq α] in
theorem Finished.later {signature : OctetSeq α} {hs hs' : Handshake α κ π} (h : Finished env P a c signature hs hs')
    (hb : Background (P a).localHandle c c') : Finished env P a c' signature hs hs' :=
  { h with
    found := by rw [hb.handshake]; exact h.found
    message := by rw [hb.message]; exact h.message }

/-- How far the handshake is; `c` is the initiator `a`, `d` the other side. -/
inductive Stage (env : Env α κ π ρ) (P : Bool → Participant α π) (k : Str α) (a : Bool) (c d : Caller α κ π) : Prop
  | idle (hc : c.outcomes = []) (hd : d.outcomes = [])
  | requested {key permissions hs} (hc : c.outcomes = [.pendingHandshakeMessage]) (hd : d.outcomes = [])
      (ho : Opened env P k a c key permissions hs)
  | replied {key permissions hs seed permissions' signature hs'} (hc : c.outcomes = [.pendingHandshakeMessage])
      (hd : d.outcomes = [.pendingHandshakeMessage]) (ho : Opened env P k a c key permissions hs)
      (ha : Answered env P k (!a) d seed permissions' signature hs hs')
  | finished {hs hs₀ seed permissions' signature signature' hs'}
      (hc : c.outcomes = [.okFinalMessage, .pendingHandshakeMessage]) (hd : d.outcomes = [.pendingHandshakeMessage])
      (hf : Finished env P a c signature' hs hs')
      (ha : Answered env P k (!a) d seed permissions' signature hs₀ hs')
  | accepted {hs hs' : Handshake α κ π} (hc : c.outcomes = [.okFinalMessage, .pendingHandshakeMessage])
      (hd : d.outcomes = [.ok, .pendingHandshakeMessage])
      (hcs : ∃ p, c.plugin.findHandshake c.handshakeHandle = some (p, hs)) (hok : hs.state = .okFinalMessage)
      (hds : ∃ p, d.plugin.findHandshake d.handshakeHandle = some (p, hs')) (hok' : hs'.state = .ok)
      (hsame : SameSession hs hs')

theorem Stage.later {d d' : Caller α κ π} (h : Stage env P k a c d) (hc : Background (P a).localHandle c c')
    (hd : Background (P !a).localHandle d d') : Stage env P k a c' d' := by
  cases h with
  | idle h₁ h₂ => exact .idle (by rw [hc.outcomes, h₁]) (by rw [hd.outcomes, h₂])
  | requested h₁ h₂ ho =>
    exact .requested (by rw [hc.outcomes, h₁]) (by rw [hd.outcomes, h₂]) (ho.later hc (by rw [h₁]; nofun))
  | replied h₁ h₂ ho ha =>
    exact .replied (by rw [hc.outcomes, h₁]) (by rw [hd.outcomes, h₂]) (ho.later hc (by rw [h₁]; nofun))
      (ha.later hd (by rw [h₂]; nofun))
  | finished h₁ h₂ hf ha =>
    exact .finished (by rw [hc.outcomes, h₁]) (by rw [hd.outcomes, h₂]) (hf.later hc) (ha.later hd (by rw [h₂]; nofun))
  | accepted h₁ h₂ hcs hok hds hok' hsame =>
    exact .accepted (by rw [hc.outcomes, h₁]) (by rw [hd.outcomes, h₂]) (by rw [hc.handshake]; exact hcs) hok
      (by rw [hd.handshake]; exact hds) hok' hsame

omit [Octet α] [DecidableEq α] in
theorem Background.refl (lh : Handle) (c : Caller α κ π) : Background lh c c :=
  ⟨rfl, rfl, List.Subset.refl _, fun _ => rfl, rfl, fun _ _ h => h⟩

omit [Octet α] [DecidableEq α] in
theorem findHandshake_addHandshake (s : Authentication α κ π) (hs : Handshake α κ π) :
    (s.addHandshake hs).findHandshake s.nextHandle = some (s.handshakeHeap.length, hs) := by
  rw [findHandshake_eq_some, addHandshake]
  exact ⟨Function.update_self _ _ _, by rw [List.getElem?_concat_length]⟩

omit [Octet α] [DecidableEq α] in
theorem findHandshake_setHandshake {h : Handle} {p : Nat} {hs hs' : Handshake α κ π}
    (hf : s.findHandshake h = some (p, hs)) : (s.setHandshake p hs').findHandshake h = some (p, hs') := by
  obtain ⟨hp, hget⟩ := findHandshake_eq_some.1 hf
  rw [findHandshake_eq_some, setHandshake]
  exact ⟨hp, by rw [List.getElem?_set_self (List.getElem?_eq_some_iff.1 hget).1]⟩

/-- A handshake call leaves the acquaintance alone. -/
theorem Acquainted.note (h : Acquainted env P k i c peer) (hverdict : c.verdicts ≠ [])
    {result : Outcome α π × Authentication α κ π} (hstep : (exec env c.plugin (op, amb)).1 = result.2)
    (hdef : InInt32 result.2.nextHandle)
    (hlocal : result.2.findLocal = c.plugin.findLocal) (hremote : result.2.findRemote = c.plugin.findRemote) :
    Acquainted env P k i (c.note result) peer := by
  refine ⟨?_, ?_, ?_⟩
  · obtain ⟨tr, hr⟩ := h.reached
    have hdefined : Defined env c.plugin (op, amb) := by
      rw [Defined, hstep]
      exact hdef
    exact ⟨_, .step (l := (op, amb)) hr ⟨hdefined, hstep.symm⟩⟩
  · simp only [Caller.note, hlocal]
    exact h.identity
  · obtain ⟨p, r, hne, hr, hmeets⟩ := h.discovered hverdict
    refine .inr ⟨p, r, hne, ?_, ⟨hmeets.localHandle, hmeets.guid, hmeets.length, hmeets.advertised, hmeets.returned,
      hmeets.sent, hmeets.noted, hmeets.verdict, hmeets.verdicts⟩⟩
    simp only [Caller.note, hremote]
    exact hr

/-- The challenge a caller uses is the one it has advertised, if it has. -/
theorem Meets.own {r : RemoteIdentity α} (h : Meets P i c peer r) (hw : Works env) {challenge : OctetSeq α}
    (hc : ownChallenge env amb r = some challenge) :
    challenge.length = 32 ∧ ∀ t ∈ c.authRequests, futureChallenge t = challenge := by
  obtain ⟨challenge', hc', hlen⟩ := ownChallenge_works hw amb h.length
  rw [hc] at hc'
  obtain rfl := Option.some.inj hc'
  refine ⟨hlen, fun t ht => ?_⟩
  have hsent := h.sent (List.ne_nil_of_mem ht)
  rw [ownChallenge, hsent, if_pos rfl] at hc
  rw [h.returned t ht, (advertisement_facts _).2.2]
  exact Option.some.inj hc

theorem Opened.of_request (hw : Works env) (hk : KemWorks env k) (hP : Prepared env P) (h : Acquainted env P k a c peer)
    (hverdict : c.verdicts ≠ []) (hnone : c.outcomes = []) {m : Token α} (hm : m.binaryProperties = [])
    (hdef : InInt32 (c.move env P peer (.request a m amb)).plugin.nextHandle) :
    Acquainted env P k a (c.move env P peer (.request a m amb)) peer ∧
    (c.move env P peer (.request a m amb)).authRequests = c.authRequests ∧
    (c.move env P peer (.request a m amb)).outcomes = [.pendingHandshakeMessage] ∧
    ∃ key permissions hs, Opened env P k a (c.move env P peer (.request a m amb)) key permissions hs := by
  obtain ⟨q, l, hl, howns⟩ := h.identity
  obtain ⟨p, r, hne, hr, hmeets⟩ := h.discovered hverdict
  obtain ⟨hs, t, hmake⟩ := makeRequest_works (m := m) hw hk amb hl hr howns.algorithm h.supported.1 hmeets.length
    (hP.participantData a).1
  have hbegin : beginHandshakeRequest env amb c.plugin 0 m (P a).localHandle c.remoteHandle (P a).participantData =
      ({ result := .pendingHandshakeMessage, handle := c.plugin.nextHandle, token := t }, c.plugin.addHandshake hs) := by
    simp only [beginHandshakeRequest, hmake, ne_eq, not_true_eq_false, if_false]
  have hexec : (exec env c.plugin (.beginHandshakeRequest 0 m (P a).localHandle c.remoteHandle (P a).participantData,
      amb)).1 = c.plugin.addHandshake hs := by
    simp only [exec, hbegin]
  obtain ⟨l', r', hl', hr', hreq, -, -, -, hc1, hhash, ht⟩ := makeRequest_ok hmake
  rw [hl] at hl'
  obtain ⟨rfl, rfl⟩ := Prod.mk.inj (Option.some.inj hl')
  rw [hr] at hr'
  obtain ⟨rfl, rfl⟩ := Prod.mk.inj (Option.some.inj hr')
  obtain ⟨key, hgen, hkem, hexp⟩ := hreq.key
  obtain ⟨hlen, hown⟩ := hmeets.own hw hc1
  simp only [Caller.move, hbegin] at hdef ⊢
  refine ⟨h.note hverdict hexec hdef rfl rfl, rfl, by rw [Caller.note, hnone], key, l.credentials.accessPermissions, hs, ?_⟩
  exact {
    found := ⟨_, findHandshake_addHandshake _ _⟩
    linked := ⟨⟨l, hl⟩, ⟨r, hr⟩⟩
    initiator := hreq.initiator
    state := hreq.state
    kem := by rw [hkem, howns.algorithm]
    exported := by
      rw [howns.algorithm] at hgen
      exact ⟨⟨_, hgen⟩, hexp⟩
    length := hlen
    own := hown
    hash := by
      rw [localCredentialHash, howns.certificate, howns.algorithm] at hhash
      exact hhash
    message := by
      have hcarries := (((Carries.writer hm "pqsec-dds.auth:1.0+Req").credentials l (P a).participantData).add
        "pqsec-dds.kem_public" hs.publicKey).add "challenge1" hs.challenge1
      rw [← ht, howns.certificate, howns.algorithm] at hcarries
      exact hcarries }

/-- The other participant's credentials are accepted. -/
theorem Acquainted.credentials (hw : Works env) (hP : Prepared env P) (h : Acquainted env P k i c peer)
    (hpeer : Acquainted env P k (!i) peer c)
    (hvalid : env.validateCertificate amb.now (P !i).certificate (P i).ca = true) {l : LocalIdentity α π}
    (howns : (P i).Owns k l) {r : RemoteIdentity α} (hguid : r.guid = (P !i).guid) {t : Token α} {classId : String}
    {permissions : OctetSeq α} {rest : List (String × OctetSeq α)}
    (hcarries : Carries t classId (namedValues (P !i).certificate permissions (P !i).participantData k rest)) :
    ∃ hash, credentialHash env (P !i).certificate.originalBytes permissions (P !i).participantData
        (P !i).certificate.dsignAlgo k = some hash ∧
      validateRemoteCredentials env amb l r t = .ok { certificate := (P !i).certificate, permissions, hash } := by
  obtain ⟨-, hkem, -, -⟩ := h.supported
  obtain ⟨-, -, hsign, candidate, hadjusted⟩ := hpeer.supported
  refine validateRemoteCredentials_works hw hcarries hsign hkem howns.algorithm (hP.certificate _) ?_ ?_ ?_
  · rw [howns.ca]
    exact hvalid
  · rw [hguid]
    exact hP.adjusted _ candidate hadjusted
  · rw [hguid]
    exact (hP.participantData _).2

theorem Answered.of_reply (hw : Works env) (hk : KemWorks env k) (hP : Prepared env P) {b : Bool} {d : Caller α κ π}
    (h : Acquainted env P k b d c) (hpeer : Acquainted env P k (!b) c d) (hverdict : d.verdicts ≠ [])
    (hnone : d.outcomes = []) (hvalid : env.validateCertificate amb.now (P !b).certificate (P b).ca = true) {key : κ}
    {permissions : OctetSeq α} {hs : Handshake α κ π} (ho : Opened env P k (!b) c key permissions hs)
    (hdef : InInt32 (d.move env P c (.reply b amb)).plugin.nextHandle) :
    Acquainted env P k b (d.move env P c (.reply b amb)) c ∧
    (d.move env P c (.reply b amb)).authRequests = d.authRequests ∧
    (d.move env P c (.reply b amb)).outcomes = [.pendingHandshakeMessage] ∧
    ∃ seed permissions' signature hs', Answered env P k b (d.move env P c (.reply b amb)) seed permissions' signature hs hs' := by
  obtain ⟨q, l, hl, howns⟩ := h.identity
  obtain ⟨p, r, hne, hr, hmeets⟩ := h.discovered hverdict
  obtain ⟨hash, hhash1, hv⟩ := h.credentials hw hP hpeer hvalid howns hmeets.guid ho.message
  obtain ⟨hpk, hc1⟩ := requestValues_lookup (P !b).certificate permissions (P !b).participantData k hs.publicKey
    hs.challenge1
  rw [← ho.message.get] at hpk hc1
  have hpin : r.remoteChallenge = [] ∨ c.message.getBinPropertyValue "challenge1" = r.remoteChallenge := by
    refine hmeets.noted.imp_right fun hmem => ?_
    rw [hc1, ← ho.own _ hmem]
    exact (advertisement_facts _).2.2
  obtain ⟨hs', t, ⟨key', data⟩, hmake⟩ := makeReply_works hw hk amb (P b).participantData hl hr howns.algorithm
    h.supported.1 hmeets.length ho.message.classIs hv (by rw [hc1]; exact ho.length) hpin
    (by rw [hpk]; exact ho.exported)
  have hbegin : beginHandshakeReply env amb d.plugin 0 c.message d.remoteHandle (P b).localHandle (P b).participantData =
      ({ result := .pendingHandshakeMessage, handle := d.plugin.nextHandle, token := t, signed := some (key', data) },
        d.plugin.addHandshake hs') := by
    simp only [beginHandshakeReply, hmake, ne_eq, not_true_eq_false, if_false]
  have hexec : (exec env d.plugin (.beginHandshakeReply 0 c.message d.remoteHandle (P b).localHandle
      (P b).participantData, amb)).1 = d.plugin.addHandshake hs' := by
    simp only [exec, hbegin]
  obtain ⟨l', r', signature, hl', hr', hrep, -, -, -, -, -, hc2, hhash2, hkey, hser, hsign, ht⟩ := makeReply_ok hmake
  rw [hl] at hl'
  obtain ⟨rfl, rfl⟩ := Prod.mk.inj (Option.some.inj hl')
  rw [hr] at hr'
  obtain ⟨rfl, rfl⟩ := Prod.mk.inj (Option.some.inj hr')
  obtain ⟨v, hv', hcert, -, hhash⟩ := hrep.validated
  rw [hv] at hv'
  obtain rfl := Except.ok.inj hv'
  obtain ⟨hlen, hown⟩ := hmeets.own hw hc2
  simp only [Caller.move, hbegin] at hdef ⊢
  refine ⟨h.note hverdict hexec hdef rfl rfl, rfl, by rw [Caller.note, hnone], amb.encapSeed,
    l.credentials.accessPermissions, signature, hs', ?_⟩
  exact {
    found := ⟨_, findHandshake_addHandshake _ _⟩
    linked := ⟨⟨l, hl⟩, ⟨r, hr⟩⟩
    initiator := hrep.initiator
    state := hrep.state
    certificate := hcert
    hash1 := by
      have hsame := hhash1.symm.trans ho.hash
      rw [hhash]
      exact Option.some.inj hsame
    challenge1 := by rw [hrep.challenge1, hc1]
    publicKey := by rw [hrep.publicKey, hpk]
    length := hlen
    own := hown
    encapsulated := by
      have henc := hrep.encapsulated
      rw [howns.algorithm, hrep.publicKey, hpk] at henc
      exact henc
    hash := by
      rw [localCredentialHash, howns.certificate, howns.algorithm] at hhash2
      exact hhash2
    message := by
      have hcarries := (((((Carries.writer (t := {}) rfl "pqsec-dds.auth:1.0+Reply").credentials l (P b).participantData).add
        "pqsec-dds.kem_ciphertext" hs'.ciphertext).add "challenge1" hs'.challenge1).add "challenge2" hs'.challenge2).add
        "signature" signature
      rw [← ht, howns.certificate, howns.algorithm] at hcarries
      exact hcarries
    verified := by
      rw [verifySerialized, hser]
      obtain ⟨signature', hsign', hverify⟩ := hw.signature key' data amb.signSeed
      rw [hsign] at hsign'
      obtain rfl := Option.some.inj hsign'
      rw [hkey, howns.privateKey] at hverify
      exact hverify }

variable (env amb) in
/-- A message to a handshake whose identities are live. -/
theorem processHandshake_linked {lh : Handle} {hs : Handshake α κ π} {p : Nat} (hlinked : Linked lh c hs)
    (hf : c.plugin.findHandshake c.handshakeHandle = some (p, hs)) {q p' : Nat} {l : LocalIdentity α π}
    {r : RemoteIdentity α} (hl : c.plugin.findLocal lh = some (q, l))
    (hr : c.plugin.findRemote c.remoteHandle = some (p', r)) (out inp : Token α) :
    processHandshake env amb c.plugin out inp c.handshakeHandle =
      ((processMessage env amb l r hs c.handshakeHandle inp).1,
        c.plugin.setHandshake p (processMessage env amb l r hs c.handshakeHandle inp).2) := by
  obtain ⟨⟨l', hl'⟩, ⟨r', hr'⟩⟩ := hlinked
  rw [hl] at hl'
  obtain ⟨hq, -⟩ := Prod.mk.inj (Option.some.inj hl')
  rw [hr] at hr'
  obtain ⟨hp, -⟩ := Prod.mk.inj (Option.some.inj hr')
  have hident : c.plugin.identities hs = some (l, r) := by
    rw [identities_eq_some, ← hq, ← hp]
    exact ⟨(findLocal_eq_some.1 hl).2, (findRemote_eq_some.1 hr).2⟩
  simp only [processHandshake, hf, hident]

omit [DecidableEq α] in
theorem SameSession.finalProperties {hs hs' : Handshake α κ π} (h : SameSession hs hs') :
    hs.finalProperties = hs'.finalProperties := by
  rw [Handshake.finalProperties, Handshake.finalProperties, h.hash1, h.hash2, h.challenge1, h.challenge2, h.publicKey,
    h.ciphertext]

/-- The Reply is accepted. -/
theorem ReplyAccepted.of_reply (hw : Works env) (hk : KemWorks env k) (hP : Prepared env P) {d : Caller α κ π}
    (h : Acquainted env P k a c d) (hpeer : Acquainted env P k (!a) d c)
    (hvalid : env.validateCertificate amb.now (P !a).certificate (P a).ca = true) {key : κ} {seed : ρ}
    {permissions permissions' signature : OctetSeq α} {hs hs' : Handshake α κ π}
    (ho : Opened env P k a c key permissions hs) (ha : Answered env P k (!a) d seed permissions' signature hs hs')
    {l : LocalIdentity α π} {r : RemoteIdentity α} (howns : (P a).Owns k l) (hmeets : Meets P a c d r) (hd : Handle) :
    ∃ data signature' hs₁, processMessage env amb l r hs hd d.message =
        ({ result := .okFinalMessage, handle := hd,
           token := (Token.writer {} "pqsec-dds.auth:1.0+Final").addBinProperty "signature" signature',
           signed := some (l.credentials.participantPrivateKey, data) }, hs₁) ∧
      ReplyAccepted env amb l r hs d.message hs₁ data signature' ∧ SameSession hs₁ hs' := by
  obtain ⟨hash, hhash, hv⟩ := h.credentials hw hP hpeer hvalid howns hmeets.guid ha.message
  have hhash2 : hash = hs'.hash2 := Option.some.inj (hhash.symm.trans ha.hash)
  obtain ⟨hct, hc1, hc2, hsig⟩ := replyValues_lookup (P !a).certificate permissions' (P !a).participantData k
    hs'.ciphertext hs'.challenge1 hs'.challenge2 signature
  rw [← ha.message.get] at hct hc1 hc2 hsig
  have hpin : r.remoteChallenge = [] ∨ d.message.getBinPropertyValue "challenge2" = r.remoteChallenge := by
    refine hmeets.noted.imp_right fun hmem => ?_
    rw [hc2, ← ha.own _ hmem]
    exact (advertisement_facts _).2.2
  have hver : verifySerialized env (replyTranscript hash (d.message.getBinPropertyValue "challenge2")
      (d.message.getBinPropertyValue "pqsec-dds.kem_ciphertext") hs.challenge1 hs.publicKey hs.hash1) (P !a).certificate
      (d.message.getBinPropertyValue "signature") = true := by
    have hverified := ha.verified
    rw [Handshake.replyProperties, ha.hash1, ha.challenge1, ha.publicKey] at hverified
    rw [hc2, hct, hsig, hhash2]
    exact hverified
  have henc := ha.encapsulated
  rw [← hct] at henc
  have hok := processReply_works (h := hd) hw hk amb hv (by rw [hc2]; exact ha.length) (by rw [hc1, ha.challenge1]) hpin
    hver ho.kem ho.exported henc
  have hprocess : processMessage env amb l r hs hd d.message = processReply env amb l r hs hd d.message := by
    simp only [processMessage, ho.state, ho.initiator, ha.message.classIs, ne_eq, not_true_eq_false, if_false, Bool.and_self,
      if_true]
  rw [hprocess]
  rcases hpm : processReply env amb l r hs hd d.message with ⟨o, hs₁⟩
  rcases processReply_cases ho.initiator ha.message.classIs hpm with ⟨⟨msg, rfl⟩, -⟩ | ⟨data, signature', hacc, rfl⟩
  · rw [hpm] at hok
    cases hok
  refine ⟨data, signature', hs₁, rfl, hacc, ?_⟩
  obtain ⟨v, hv', -, -, hvhash, -⟩ := hacc.validated
  rw [hv] at hv'
  obtain rfl := Except.ok.inj hv'
  exact {
    hash1 := by rw [hacc.frame.hash1, ha.hash1]
    hash2 := by rw [hvhash, hhash2]
    challenge1 := by rw [hacc.frame.challenge1, ha.challenge1]
    challenge2 := by rw [hacc.challenge2, hc2]
    publicKey := by rw [hacc.frame.publicKey, ha.publicKey]
    ciphertext := by rw [hacc.ciphertext, hct]
    secret := by
      obtain ⟨key', hkey', hdec⟩ := hacc.decapsulated
      rw [ho.kem] at hkey'
      obtain rfl := Option.some.inj hkey'
      obtain ⟨⟨seed', hgen⟩, hexp⟩ := ho.exported
      rw [hacc.ciphertext] at hdec
      exact hk.correct.agree henc ⟨key, hgen, hexp, hdec⟩ }

theorem Finished.of_finish (hw : Works env) (hk : KemWorks env k) (hP : Prepared env P) {d : Caller α κ π}
    (h : Acquainted env P k a c d) (hpeer : Acquainted env P k (!a) d c) (hverdict : c.verdicts ≠ [])
    (hone : c.outcomes = [.pendingHandshakeMessage])
    (hvalid : env.validateCertificate amb.now (P !a).certificate (P a).ca = true) {key : κ} {seed : ρ}
    {permissions permissions' signature : OctetSeq α} {hs hs' : Handshake α κ π}
    (ho : Opened env P k a c key permissions hs) (ha : Answered env P k (!a) d seed permissions' signature hs hs')
    (out : Token α) (hdef : InInt32 (c.move env P d (.finish a out amb)).plugin.nextHandle) :
    Acquainted env P k a (c.move env P d (.finish a out amb)) d ∧
    (c.move env P d (.finish a out amb)).authRequests = c.authRequests ∧
    (c.move env P d (.finish a out amb)).outcomes = [.okFinalMessage, .pendingHandshakeMessage] ∧
    ∃ signature' hs₁, Finished env P a (c.move env P d (.finish a out amb)) signature' hs₁ hs' := by
  obtain ⟨q, l, hl, howns⟩ := h.identity
  obtain ⟨p, r, hne, hr, hmeets⟩ := h.discovered hverdict
  obtain ⟨p', hf⟩ := ho.found
  obtain ⟨data, signature', hs₁, hpm, hacc, hsame⟩ :=
    ReplyAccepted.of_reply hw hk hP h hpeer hvalid ho ha howns hmeets c.handshakeHandle
  have hprocess := processHandshake_linked env amb ho.linked hf hl hr out d.message
  rw [hpm] at hprocess
  have hexec : (exec env c.plugin (.processHandshake out d.message c.handshakeHandle, amb)).1 =
      c.plugin.setHandshake p' hs₁ := by
    simp only [exec, hprocess]
  simp only [Caller.move, hprocess] at hdef ⊢
  refine ⟨h.note hverdict hexec hdef rfl rfl, rfl, by rw [Caller.note, hone], signature', hs₁, ?_⟩
  exact {
    found := ⟨p', findHandshake_setHandshake hf⟩
    state := hacc.state
    same := hsame
    message := (Carries.writer (t := {}) rfl "pqsec-dds.auth:1.0+Final").add "signature" signature'
    verified := by
      obtain ⟨hser, hsign⟩ := hacc.signed
      obtain ⟨signature'', hsign', hverify⟩ := hw.signature l.credentials.participantPrivateKey data amb.signSeed
      rw [hsign] at hsign'
      obtain rfl := Option.some.inj hsign'
      rw [← hsame.finalProperties, verifySerialized, hser]
      rw [howns.privateKey] at hverify
      exact hverify }

theorem accept_final {d : Caller α κ π} {b : Bool} (h : Acquainted env P k b d c) (hverdict : d.verdicts ≠ [])
    (hone : d.outcomes = [.pendingHandshakeMessage]) {seed : ρ} {permissions' signature signature' : OctetSeq α}
    {hs hs₀ hs' : Handshake α κ π} (ha : Answered env P k b d seed permissions' signature hs₀ hs')
    (hf : Finished env P (!b) c signature' hs hs') (out : Token α)
    (hdef : InInt32 (d.move env P c (.accept b out amb)).plugin.nextHandle) :
    Acquainted env P k b (d.move env P c (.accept b out amb)) c ∧
    (d.move env P c (.accept b out amb)).authRequests = d.authRequests ∧
    (d.move env P c (.accept b out amb)).outcomes = [.ok, .pendingHandshakeMessage] ∧
    ∃ p, (d.move env P c (.accept b out amb)).plugin.findHandshake (d.move env P c (.accept b out amb)).handshakeHandle =
      some (p, { hs' with state := .ok }) := by
  obtain ⟨q, l, hl, -⟩ := h.identity
  obtain ⟨p, r, hne, hr, -⟩ := h.discovered hverdict
  obtain ⟨p', hfound⟩ := ha.found
  have hsig : c.message.getBinPropertyValue "signature" = signature' := by
    rw [hf.message.get, lookup_cons_self]
  have hpm : processMessage env amb l r hs' d.handshakeHandle c.message =
      ({ result := .ok, handle := d.handshakeHandle, token := {} }, { hs' with state := .ok }) := by
    simp only [processMessage, processFinal, ha.state, ha.initiator, ha.certificate, hf.message.classIs, hsig, hf.verified,
      Option.any_some, Bool.false_and, Bool.not_false, Bool.and_self, ne_eq, not_true_eq_false, Bool.false_eq_true, if_false,
      if_true]
  have hprocess := processHandshake_linked env amb ha.linked hfound hl hr out c.message
  rw [hpm] at hprocess
  have hexec : (exec env d.plugin (.processHandshake out c.message d.handshakeHandle, amb)).1 =
      d.plugin.setHandshake p' { hs' with state := .ok } := by
    simp only [exec, hprocess]
  simp only [Caller.move, hprocess] at hdef ⊢
  exact ⟨h.note hverdict hexec hdef rfl rfl, rfl, by rw [Caller.note, hone], p', findHandshake_setHandshake hfound⟩

end PqsecDds.OpenDDS
