import PqsecDds.CycloneDDS.Exchange

/-!
# The handshake calls of two honest participants

Each of the four handshake calls of an `Exchange` succeeds and takes the handshake from one `Stage` to the next, if the
permissions documents and the participant data are of sizes that a token may have (`Participant.Sendable`). A longer one
stops the Reply (`Opened.sendable`).

| call | from | to |
|---|---|---|
| `begin_handshake_request` | `idle` | `opened` |
| `begin_handshake_reply` | `opened` | `replied` |
| `process_handshake` of the Reply | `replied` | `finished` |
| `process_handshake` of the Final | `finished` | `accepted` |
-/

namespace PqsecDds.CycloneDDS

open Lib

variable {κ ρ : Type} {env : Env κ ρ} {amb : Ambient ρ} {s s' : Authentication κ} {l r h a : Handle} {k : AuthAlgoKind}
variable {P : Bool → Participant} {own : Bool → Option Challenge} {i : Bool} {c c' peer : Caller κ} {optional : Bool}
variable {identity : LocalIdentityInfo} {remote : RemoteIdentityInfo} {relation : IdentityRelation}

/-! ## What a caller relies on -/

/-- The local identity of side `i`, and what its plugin has checked of it. -/
structure Ready (env : Env κ ρ) (P : Bool → Participant) (k : AuthAlgoKind) (i : Bool) (identity : LocalIdentityInfo) :
    Prop where
  owns : (P i).Owns identity
  kagree : identity.kagreeAlgoKind = k
  dsign : identity.dsignAlgoKind = getAuthenticationAlgoKind (P i).certificate
  known : getAuthenticationAlgoKind (P i).certificate ≠ .unknown
  pubkey : (P i).certificate.pubkey = some identity.privateKey
  signs : identity.privateKey.canSign = true
  matchesData : MatchesCertificate env (P i).participantData (P i).certificate

theorem Acquainted.ready (h : Acquainted env P optional k own i c) (hP : Prepared env P) :
    ∃ identity, c.plugin.localIdentity (P i).localHandle = some identity ∧ Ready env P k i identity := by
  obtain ⟨tr, hr⟩ := h.reached
  obtain ⟨identity, hl, howns⟩ := h.identity
  have hloaded := run_loaded hr _ identity hl
  refine ⟨identity, hl, ?_⟩
  obtain ⟨hpubkey, hknown, hdsign, name, hsubject, hder, hsix⟩ := hloaded
  rw [howns.certificate] at hpubkey hknown hdsign hsubject
  exact {
    owns := howns
    kagree := by rw [run_kagree hr _ identity hl, h.settings.2]
    dsign := hdsign
    known := hknown
    pubkey := hpubkey
    signs := hP.signs i _ hpubkey
    matchesData := by
      rw [howns.guid] at hsix
      exact ⟨_, name, (hP.participantData i).2, hsubject, hder, hsix⟩ }

theorem Ready.credentials (h : Ready env P k i identity) {certData : Octets}
    (hpem : env.pemWriteX509 (P i).certificate = some certData) :
    identity.credentials certData (P i).participantData k = ((P i).credentials env k).properties := by
  simp only [LocalIdentityInfo.credentials, Credentials.properties, Participant.credentials, credentialProperties, hpem,
    h.dsign, h.owns.permissions, Option.getD_some]

/-- The credentials of the other side are in order. -/
theorem Ready.inOrder (hk : KemWorks env k) (hP : Prepared env P) (h : Ready env P k i identity)
    {identity' : LocalIdentityInfo} (hpeer : Ready env P k (!i) identity') (htrusts : Trusts env P i c amb) :
    InOrder env amb c.plugin.trustedCaList identity ((P !i).credentials env k) (P !i).certificate where
  certificate := by
    obtain ⟨data, hpem, hne, -, hread⟩ := hP.certificate !i
    simp only [Participant.credentials, hpem, Option.getD_some]
    exact ⟨hne, hread⟩
  valid := by
    rw [h.owns.ca, h.owns.crl]
    exact htrusts.valid
  pdata := hpeer.matchesData
  dsign := ⟨hpeer.known, rfl⟩
  kagree := ⟨hk.known amb.keySeed, h.kagree.symm⟩

theorem Prepared.sendable (hP : Prepared env P) (hfit : (P i).Sendable) : ((P i).credentials env k).Sendable where
  certData := by
    obtain ⟨data, hpem, -, hle, -⟩ := hP.certificate i
    simp only [Participant.credentials, hpem, Option.getD_some]
    exact hle
  permissions := hfit.permissions
  pdata := hfit.participantData

theorem Token.Carries.hash {t : Token} (h : t.Carries ((P i).credentials env k)) : credentialHash env t = (P i).hash env k := by
  rw [credentialHash, h.credentials, Participant.hash]

/-- The certificate that is accepted is the one that the token has. -/
theorem AcceptedCredentials.eq_of_carries {trusted : List X509} {inp : Token} {cert cert' : X509} {creds : Credentials}
    (h : AcceptedCredentials env amb trusted inp identity cert) (hcarries : inp.Carries creds)
    (hread : env.pemReadX509 creds.certData = some cert') : cert = cert' := by
  have hloaded := loadX509CertificateFromBinprop_ok h.loaded
  rw [hcarries.id.value] at hloaded
  exact Option.some.inj (hloaded.symm.trans hread)

theorem Meets.findIdentityRelation (h : Meets P own i c remote a relation) :
    c.plugin.findIdentityRelation (P i).localHandle c.remoteHandle = some a := by
  rw [Authentication.findIdentityRelation, h.object]
  exact h.linked

theorem Meets.ends (h : Meets P own i c remote a relation) (hG : c.plugin.graph.Sound) :
    relation.localIdentity = (P i).localHandle ∧ relation.remoteIdentity = c.remoteHandle := by
  have hpair : c.plugin.graph.pair a = some ((P i).localHandle, c.remoteHandle) :=
    (hG.link _ _ _).1 h.findIdentityRelation
  simp only [Authentication.graph, h.pointer, Option.map_some, Option.some.injEq, Prod.mk.injEq] at hpair
  exact hpair

theorem Meets.points (h : Meets P own i c remote a relation) (hG : c.plugin.graph.Sound)
    (hl : c.plugin.localIdentity (P i).localHandle = some identity) {hs : HandshakeInfo κ} (hrel : hs.relation = a) :
    Points c.plugin ⟨identity, remote, relation, hs⟩ := by
  obtain ⟨hlocal, hremote⟩ := h.ends hG
  refine ⟨?_, ?_, ?_⟩
  · rw [hrel]
    exact h.pointer
  · change c.plugin.localIdentity relation.localIdentity = _
    rw [hlocal, hl]
  · change c.plugin.remoteIdentity relation.remoteIdentity = _
    rw [hremote, h.object]

/-- The context of a handshake on the relation of the two sides. -/
theorem Meets.context_eq (h : Meets P own i c remote a relation) (hG : c.plugin.graph.Sound)
    (hl : c.plugin.localIdentity (P i).localHandle = some identity) {ctx : Context κ} (hp : Points c.plugin ctx)
    (hrel : ctx.handshake.relation = a) :
    ctx.localIdentity = identity ∧ ctx.remoteIdentity = remote ∧ ctx.relation = relation := by
  have heq := hp.unique (h.points hG hl hrel) rfl
  exact ⟨congrArg Context.localIdentity heq, congrArg Context.remoteIdentity heq, congrArg Context.relation heq⟩

/-- The relation holds the challenge of the other side, or none yet. -/
theorem Meets.pinned_to (h : Meets P own i c remote a relation) {y : Challenge} (hy : own (!i) = some y) :
    relation.rchallenge = none ∨ relation.rchallenge = some y := by
  rcases hr : relation.rchallenge with _ | z
  · exact .inl rfl
  · right
    rw [← hy, h.pinned z hr]

/-- A call on the handshake of the two sides keeps the acquaintance. -/
theorem Acquainted.touched (h : Acquainted env P optional k own i c) (hmeets : Meets P own i c remote a relation)
    (ha : Allocates amb c.plugin) {op : Op} {signed : List Signed} (hrun : op.call env amb c.plugin = (.ok signed, s'))
    {ctx ctx' : Context κ} (ht : Touches env amb c.plugin s' op h' ctx ctx') (hrel : ctx.handshake.relation = a)
    (hpin : ∀ y, ctx'.relation.rchallenge = some y → own (!i) = some y) (outcome : Outcome) (out : Token) :
    Acquainted env P optional k own i (c.note (.ok (h', outcome, out), s')) ∧
      s'.findIdentityRelation (P i).localHandle c.remoteHandle = some a := by
  obtain ⟨tr, hr⟩ := h.reached
  obtain ⟨identity, hl, howns⟩ := h.identity
  have hG := run_sound hr
  obtain ⟨rfl, rfl, rfl⟩ := hmeets.context_eq hG hl ht.points hrel
  obtain ⟨hlocal, hremote⟩ := hmeets.ends hG
  have hframe := ht.frame
  obtain ⟨timer, left, -, hm⟩ := ht.moved
  have hlink : ctx'.remoteIdentity.linkHash.lookup (P i).localHandle = some a := by
    rw [hframe.linkHash]
    exact hmeets.linked
  have hobject : s'.remoteIdentity c.remoteHandle = some { ctx'.remoteIdentity with timer } := by
    rw [hm.remoteIdentity, if_pos hremote.symm]
  refine ⟨⟨reached_call hr ha hrun, ?_, ?_, .inr ⟨{ ctx'.remoteIdentity with timer }, a, ctx'.relation, ?_⟩⟩, ?_⟩
  · obtain ⟨pdata, hpdata⟩ := hframe.localIdentity
    refine ⟨ctx'.localIdentity, ?_, ?_⟩
    · rw [Caller.note, hm.localIdentity, if_pos hlocal.symm]
    · rw [hpdata]
      exact ⟨howns.guid, howns.certificate, howns.ca, howns.crl, howns.permissions⟩
  · rw [Caller.note, hm.settings.includeOptional, hm.settings.kem]
    exact h.settings
  · have htoken := hframe.remoteIdentityToken
    have hlch := hframe.lchallenge
    refine ⟨?_, hobject, ?_, hlink, ?_, ?_, hpin, hmeets.returned, hmeets.verdict, hmeets.verdicts, ?_⟩
    · rw [Caller.note, hm.settings.remoteGuidHash]
      exact hmeets.known
    · rw [htoken]
      exact hmeets.token
    · rw [Caller.note, hm.relation, if_pos hrel.symm]
    · rw [hlch]
      exact hmeets.challenge
    · intro hnone
      cases hnone
  · rw [Authentication.findIdentityRelation, hobject]
    exact hlink

/-! ## The tokens -/

section Tokens

variable {creds : Credentials} {hashC1 hashC2 : HashValue} {publicKey signature : Octets} {challenge1 : Challenge} {v : Exchanged}

theorem requestToken_kemPublic :
    (requestToken optional creds.properties hashC1 publicKey challenge1).findBinaryProperty "pqsec-dds.kem_public" =
      some (binaryProperty "pqsec-dds.kem_public" publicKey) := by
  cases optional <;> rfl

theorem requestToken_challenge1 :
    (requestToken optional creds.properties hashC1 publicKey challenge1).findBinaryProperty "challenge1" =
      some (binaryProperty "challenge1" challenge1.1) := by
  cases optional <;> rfl

theorem requestToken_hash :
    HashSent (requestToken optional creds.properties hashC1 publicKey challenge1) optional "hash_c1" hashC1 := by
  cases optional <;> rfl

theorem replyToken_parts (hknown : findByKind kemAlgorithms k ≠ none) (hpk : v.publicKey.length = getKemPublicKeySize k)
    (hct : v.ciphertext.length = getKemCiphertextSize k) (hne : signature ≠ []) (hle : signature.length ≤ intMax) :
    HasParts (replyToken optional creds.properties hashC1 hashC2 v.ciphertext v.publicKey v.challenge1 v.challenge2 signature)
      k v signature where
  publicKey := by cases optional <;> rfl
  ciphertext := by cases optional <;> rfl
  challenge1 := by cases optional <;> rfl
  challenge2 := by cases optional <;> rfl
  signed := ⟨by cases optional <;> rfl, hle⟩
  signature_ne_nil := hne
  known := hknown
  publicKeySize := hpk
  ciphertextSize := hct

theorem replyToken_hashes :
    HashSent (replyToken optional creds.properties hashC1 hashC2 v.ciphertext v.publicKey v.challenge1 v.challenge2 signature)
        optional "hash_c1" hashC1 ∧
      HashSent (replyToken optional creds.properties hashC1 hashC2 v.ciphertext v.publicKey v.challenge1 v.challenge2
        signature) optional "hash_c2" hashC2 := by
  cases optional <;> exact ⟨rfl, rfl⟩

theorem finalToken_parts (hknown : findByKind kemAlgorithms k ≠ none) (hpk : v.publicKey.length = getKemPublicKeySize k)
    (hct : v.ciphertext.length = getKemCiphertextSize k) (hne : signature ≠ []) (hle : signature.length ≤ intMax) :
    HasParts (finalToken optional hashC1 hashC2 v.ciphertext v.publicKey v.challenge1 v.challenge2 signature) k v
      signature where
  publicKey := by cases optional <;> rfl
  ciphertext := by cases optional <;> rfl
  challenge1 := by cases optional <;> rfl
  challenge2 := by cases optional <;> rfl
  signed := ⟨by cases optional <;> rfl, hle⟩
  signature_ne_nil := hne
  known := hknown
  publicKeySize := hpk
  ciphertextSize := hct

theorem finalToken_hashes :
    HashSent (finalToken optional hashC1 hashC2 v.ciphertext v.publicKey v.challenge1 v.challenge2 signature) optional
        "hash_c1" hashC1 ∧
      HashSent (finalToken optional hashC1 hashC2 v.ciphertext v.publicKey v.challenge1 v.challenge2 signature) optional
        "hash_c2" hashC2 := by
  cases optional <;> exact ⟨rfl, rfl⟩

end Tokens

/-! ## The stages of a handshake -/

/-- The handshake that side `i` holds. -/
structure Underway (P : Bool → Participant) (i : Bool) (c : Caller κ) (hs : HandshakeInfo κ) : Prop where
  handle : c.handshakeHandle ≠ 0
  found : c.plugin.handshake c.handshakeHandle = some hs
  linked : c.plugin.findIdentityRelation (P i).localHandle c.remoteHandle = some hs.relation

/-- The initiator has sent its Request, and holds the secret key. -/
structure Opened (env : Env κ ρ) (P : Bool → Participant) (optional : Bool) (k : AuthAlgoKind)
    (own : Bool → Option Challenge) (a : Bool) (c : Caller κ) (key : κ) (publicKey : Octets) (challenge1 : Challenge) :
    Prop where
  exported : Exported env k key publicKey
  challenge : own a = some challenge1
  underway : ∃ hs, Underway P a c hs ∧ hs.createdIn = .createdRequest ∧ hs.kemKeypair = some ⟨k, key, publicKey⟩ ∧
    hs.hashC1 = (P a).hash env k
  message : c.message = requestToken optional ((P a).credentials env k).properties ((P a).hash env k) publicKey challenge1

/-- The replier has sent its Reply, and holds the secret. -/
structure Replied (env : Env κ ρ) (P : Bool → Participant) (optional : Bool) (k : AuthAlgoKind)
    (own : Bool → Option Challenge) (a : Bool) (d : Caller κ) (v : Exchanged) (ss : Octets) : Prop where
  encapsulated : ∃ seed, (env.kem k).Encapsulated v.publicKey seed v.ciphertext ss
  challenge1 : own a = some v.challenge1
  challenge2 : own (!a) = some v.challenge2
  underway : ∃ hs, Underway P (!a) d hs ∧ hs.createdIn = .createdReply ∧ hs.kemSs = some ss ∧
    hs.hashC1 = (P a).hash env k ∧ hs.hashC2 = (P !a).hash env k
  certificate : ∃ remote, d.plugin.remoteIdentity d.remoteHandle = some remote ∧
    remote.identityCert = some (P a).certificate ∧ remote.kagreeAlgoKind = k
  message : ∃ signature, d.message = replyToken optional ((P !a).credentials env k).properties ((P a).hash env k)
      ((P !a).hash env k) v.ciphertext v.publicKey v.challenge1 v.challenge2 signature ∧
    SignedBy env (P !a).certificate (replyTranscript optional ((P a).hash env k) ((P !a).hash env k) v.challenge1.1
      v.challenge2.1 v.publicKey v.ciphertext) signature ∧ signature.length ≤ intMax

/-- The caller hands out the secret. -/
structure HandsOut (c : Caller κ) (secret : SharedSecret) : Prop where
  handle : c.handshakeHandle ≠ 0
  found : ∃ hs, c.plugin.handshake c.handshakeHandle = some hs ∧ hs.sharedSecret = some secret

/-- The secret of a handshake with these values. -/
def Exchanged.secret (env : Env κ ρ) (v : Exchanged) (ss : Octets) : SharedSecret :=
  ⟨v.challenge1, v.challenge2, env.sha256 ss⟩

/-- The initiator has sent its Final, and hands out the secret. -/
structure Finished (env : Env κ ρ) (P : Bool → Participant) (optional : Bool) (k : AuthAlgoKind) (a : Bool) (c : Caller κ)
    (v : Exchanged) (ss : Octets) : Prop where
  handsOut : HandsOut c (v.secret env ss)
  message : ∃ signature, c.message = finalToken optional ((P a).hash env k) ((P !a).hash env k) v.ciphertext v.publicKey
      v.challenge1 v.challenge2 signature ∧
    SignedBy env (P a).certificate (finalTranscript optional ((P a).hash env k) ((P !a).hash env k) v.challenge1.1
      v.challenge2.1 v.publicKey v.ciphertext) signature ∧ signature.length ≤ intMax

/-- How far the handshake has got; `a` is the initiator, `c` its caller and `d` the caller of the other side. -/
inductive Stage (env : Env κ ρ) (P : Bool → Participant) (optional : Bool) (k : AuthAlgoKind)
    (own : Bool → Option Challenge) (a : Bool) (c d : Caller κ) : Prop
  | idle (hc : c.outcomes = []) (hd : d.outcomes = [])
  | opened {key : κ} {publicKey : Octets} {challenge1 : Challenge} (hc : c.outcomes = [.ok .pendingHandshakeMessage])
      (hd : d.outcomes = []) (ho : Opened env P optional k own a c key publicKey challenge1)
  | replied {key : κ} {v : Exchanged} {ss : Octets} (hc : c.outcomes = [.ok .pendingHandshakeMessage])
      (hd : d.outcomes = [.ok .pendingHandshakeMessage])
      (ho : Opened env P optional k own a c key v.publicKey v.challenge1) (hr : Replied env P optional k own a d v ss)
  | finished {key : κ} {v : Exchanged} {ss : Octets}
      (hc : c.outcomes = [.ok .okFinalMessage, .ok .pendingHandshakeMessage])
      (hd : d.outcomes = [.ok .pendingHandshakeMessage]) (hexp : Exported env k key v.publicKey)
      (hf : Finished env P optional k a c v ss) (hr : Replied env P optional k own a d v ss)
  | accepted {secret : SharedSecret} (hc : c.outcomes = [.ok .okFinalMessage, .ok .pendingHandshakeMessage])
      (hd : d.outcomes = [.ok .ok, .ok .pendingHandshakeMessage]) (hcs : HandsOut c secret) (hds : HandsOut d secret)

section Later

variable {hs : HandshakeInfo κ} {key : κ} {publicKey ss : Octets} {challenge1 : Challenge} {v : Exchanged} {d d' : Caller κ}
variable {a : Bool} {secret : SharedSecret} {own' : Bool → Option Challenge}

theorem Underway.later (h : Underway P i c hs) (hb : Background c c') (hne : c.outcomes ≠ []) : Underway P i c' hs := by
  obtain ⟨hremote, hidentity⟩ := hb.remote hne
  refine ⟨?_, ?_, ?_⟩
  · rw [hb.handshakeHandle]
    exact h.handle
  · rw [hb.handshakeHandle, hb.handshake]
    exact h.found
  · rw [hremote, Authentication.findIdentityRelation, hidentity]
    exact h.linked

theorem HandsOut.later (h : HandsOut c secret) (hb : Background c c') : HandsOut c' secret := by
  obtain ⟨hne, hs, hfound, hsecret⟩ := h
  refine ⟨?_, hs, ?_, hsecret⟩
  · rw [hb.handshakeHandle]
    exact hne
  · rw [hb.handshakeHandle, hb.handshake]
    exact hfound

theorem Opened.later (h : Opened env P optional k own a c key publicKey challenge1) (hext : Extends own own')
    (hb : Background c c') (hne : c.outcomes ≠ []) : Opened env P optional k own' a c' key publicKey challenge1 := by
  obtain ⟨hs, hway, hrest⟩ := h.underway
  refine ⟨h.exported, hext _ _ h.challenge, ⟨hs, hway.later hb hne, hrest⟩, ?_⟩
  rw [hb.message]
  exact h.message

theorem Replied.later (h : Replied env P optional k own a d v ss) (hext : Extends own own') (hb : Background d d')
    (hne : d.outcomes ≠ []) : Replied env P optional k own' a d' v ss := by
  obtain ⟨hs, hway, hrest⟩ := h.underway
  obtain ⟨hremote, hidentity⟩ := hb.remote hne
  refine ⟨h.encapsulated, hext _ _ h.challenge1, hext _ _ h.challenge2, ⟨hs, hway.later hb hne, hrest⟩, ?_, ?_⟩
  · rw [hremote, hidentity]
    exact h.certificate
  · rw [hb.message]
    exact h.message

theorem Finished.later (h : Finished env P optional k a c v ss) (hb : Background c c') :
    Finished env P optional k a c' v ss := by
  refine ⟨h.handsOut.later hb, ?_⟩
  rw [hb.message]
  exact h.message

/-- Meeting the other side again leaves the handshake where it is. -/
theorem Stage.later (h : Stage env P optional k own a c d) (hext : Extends own own') (hc : Background c c')
    (hd : Background d d') : Stage env P optional k own' a c' d' := by
  have hco := hc.outcomes
  have hdo := hd.outcomes
  cases h with
  | idle hco' hdo' => exact .idle (hco.trans hco') (hdo.trans hdo')
  | opened hco' hdo' ho => exact .opened (hco.trans hco') (hdo.trans hdo') (ho.later hext hc (by simp [hco']))
  | replied hco' hdo' ho hr =>
    exact .replied (hco.trans hco') (hdo.trans hdo') (ho.later hext hc (by simp [hco'])) (hr.later hext hd (by simp [hdo']))
  | finished hco' hdo' hexp hf hr =>
    exact .finished (hco.trans hco') (hdo.trans hdo') hexp (hf.later hc) (hr.later hext hd (by simp [hdo']))
  | accepted hco' hdo' hcs hds => exact .accepted (hco.trans hco') (hdo.trans hdo') (hcs.later hc) (hds.later hd)

end Later

/-! ## The calls -/

section Calls

variable {a : Bool} {d : Caller κ} {key : κ} {publicKey ss : Octets} {challenge1 : Challenge} {v : Exchanged}

/-- `begin_handshake_request` makes the Request. -/
theorem Opened.of_request (hw : Works env) (hk : KemWorks env k) (hP : Prepared env P)
    (h : Acquainted env P optional k own a c) (hverdict : c.verdicts ≠ []) (hnone : c.outcomes = [])
    (ha : Allocates amb c.plugin) :
    ∃ c' key publicKey challenge1, c.note ((P a).request env amb c.remoteHandle c.plugin) = c' ∧
      Acquainted env P optional k own a c' ∧ c'.outcomes = [.ok .pendingHandshakeMessage] ∧
      Opened env P optional k own a c' key publicKey challenge1 := by
  obtain ⟨tr, hr⟩ := h.reached
  have hs := run_referential hr
  obtain ⟨identity, hl, hready⟩ := h.ready hP
  obtain ⟨remote, rel, relation, hmeets⟩ := h.met hverdict
  obtain ⟨challenge1, hown, hlch⟩ := hmeets.challenge
  obtain ⟨certData, hpem, -⟩ := hP.certificate a
  have hpem' : env.pemWriteX509 identity.identityCert = some certData := by
    rw [hready.owns.certificate]
    exact hpem
  have hmakes : ∀ ctx, Points c.plugin ctx → ctx.handshake = .new rel .createdRequest →
      ∃ out ctx', makeRequest env amb c.plugin.includeOptional certData (P a).participantData ctx = (.ok out, ctx') := by
    intro ctx hp hnew
    obtain ⟨rfl, -, rfl⟩ := hmeets.context_eq hs.sound hl hp (by rw [hnew]; rfl)
    exact makeRequest_works hk hready.kagree hlch
  obtain ⟨out, ctx, ctx', s', hrun, hnew, hon⟩ :=
    onHandshake_new ha hs hmeets.findIdentityRelation (hmeets.unused hnone) makeRequest_frame hmakes
  have hrequest : (P a).request env amb c.remoteHandle c.plugin =
      (.ok (amb.object, .pendingHandshakeMessage, out), s') := by
    simp only [Participant.request, bind, Act.bind, beginHandshakeRequest_eq hl hmeets.object hpem', hrun, pure]
  have hrel : ctx.handshake.relation = rel := by rw [hnew]; rfl
  obtain ⟨rfl, rfl, rfl⟩ := hmeets.context_eq hs.sound hl hon.points hrel
  obtain ⟨keypair, challenge1', hgen, -, hlch', hstate, hout⟩ := makeRequest_ok hon.run
  obtain rfl := Option.some.inj (hlch.symm.trans hlch')
  rw [hready.kagree] at hgen
  obtain ⟨key, publicKey, hgen', hexported, -⟩ := pqsecKemKeypairGenerate_works hk amb.keySeed
  obtain rfl := Option.some.inj (hgen'.symm.trans hgen)
  have htouches : Touches env amb c.plugin s' (.beginHandshakeRequest (P a).localHandle c.remoteHandle (P a).participantData)
      amb.object ctx _ := .request ha (fun f hf => by cases hf) hon
  have hframe := htouches.frame
  have hrelation : ctx'.relation = ctx.relation := congrArg (fun x => x.2.1) (makeRequest_same.result hon.run)
  have hhash : ctx'.handshake.hashC1 = (P a).hash env k := by
    rw [hstate, hready.kagree, hready.credentials hpem, hw.serialize]
    rfl
  have hcall : (Op.beginHandshakeRequest (P a).localHandle c.remoteHandle (P a).participantData).call env amb c.plugin =
      (.ok [], s') := by
    simp only [Op.call, bind, Act.bind, beginHandshakeRequest_eq hl hmeets.object hpem', hrun, pure]
  have hfound : s'.handshake amb.object = some ctx'.handshake := by
    rw [hon.moved.handshake, if_pos rfl]
    simp [remaining, Except.isOk, Except.toBool]
  obtain ⟨hacq, hlinked⟩ := h.touched hmeets ha hcall htouches hrel (by rw [hrelation]; exact hmeets.pinned)
    .pendingHandshakeMessage out
  refine ⟨_, key, publicKey, challenge1, congrArg c.note hrequest, hacq, by rw [Caller.note, hnone], hexported, hown,
    ⟨ctx'.handshake, ⟨ha.object_ne_zero, hfound, ?_⟩, ?_, ?_, ?_⟩, ?_⟩
  · rw [hframe.relation, hrel]
    exact hlinked
  · rw [hframe.createdIn, hnew]
    rfl
  · rw [hstate, setPdata_eq]
    rfl
  · exact hhash
  · rw [Caller.note, hout, hready.kagree, hready.credentials hpem, h.settings.1, hhash]

/-- The Reply to a Request with known parts. -/
theorem makeReply_known (hw : Works env) {trusted : List X509} {inp out : Token} {signed : Signed} {ctx ctx' : Context κ}
    {creds : Credentials} {cert : X509} {certData pdata : Octets} {challenge2 : Challenge}
    (hrun : makeReply env amb optional trusted inp pdata ctx = (.ok (out, signed), ctx'))
    (hkagree : ctx.localIdentity.kagreeAlgoKind = k) (hcarries : inp.Carries creds)
    (hread : env.pemReadX509 creds.certData = some cert) (hpk : inp.value "pqsec-dds.kem_public" = publicKey)
    (hc1 : inp.value "challenge1" = challenge1.1) (hpem : env.pemWriteX509 ctx.localIdentity.identityCert = some certData)
    (hlch : ctx.relation.lchallenge = some challenge2) :
    ∃ ct ss signature, (env.kem k).Encapsulated publicKey amb.encapSeed ct ss ∧
      ctx'.relation = { ctx.relation with rchallenge := some challenge1 } ∧
      ctx'.remoteIdentity = ctx.remoteIdentity.accepted inp cert k ∧
      ctx'.handshake = { ctx.handshake with
        hashC1 := credentialHash env inp
        hashC2 := env.sha256 (env.serializeArray (ctx.localIdentity.credentials certData pdata k))
        kemCt := some ct, kemSs := some ss } ∧
      out = replyToken optional (ctx.localIdentity.credentials certData pdata k) ctx'.handshake.hashC1 ctx'.handshake.hashC2
        ct publicKey challenge1 challenge2 signature ∧
      env.digestSign ctx.localIdentity.privateKey (env.serializeArray (replyTranscript optional ctx'.handshake.hashC1
        ctx'.handshake.hashC2 challenge1.1 challenge2.1 publicKey ct)) amb.signSeed = some signature := by
  obtain ⟨cert', c₁, ct, ss, hacc, hans⟩ := makeReply_ok hrun
  obtain rfl := hacc.credentials.eq_of_carries hcarries hread
  obtain ⟨x, hx, hc₁⟩ := hacc.state
  obtain rfl : x = challenge1 := Subtype.ext (hx.trans hc1)
  have hlocal : c₁.localIdentity = ctx.localIdentity := by rw [hc₁, accepted_localIdentity]
  have hremote : c₁.remoteIdentity = ctx.remoteIdentity.accepted inp cert' k := by
    rw [hc₁, accepted_remoteIdentity, hkagree]
  have hrelation : c₁.relation = { ctx.relation with rchallenge := some x } := by rw [hc₁, accepted_relation]
  have hhandshake : c₁.handshake = { ctx.handshake with hashC1 := credentialHash env inp } := by
    rw [hc₁, accepted_handshake_req]
  have hkind : c₁.remoteIdentity.kagreeAlgoKind = k := by rw [hremote]; rfl
  obtain ⟨certData', hpem', hstate⟩ := hans.state
  obtain ⟨certData'', x', challenge2', signature, hpem'', hrch, hlch', hout, hdata, hsign⟩ := hans.token
  have henc := hans.encapsulated
  rw [hlocal, hpem] at hpem' hpem''
  obtain rfl := Option.some.inj hpem'
  obtain rfl := Option.some.inj hpem''
  rw [hrelation] at hrch hlch'
  obtain rfl := Option.some.inj hrch
  obtain rfl := Option.some.inj (hlch.symm.trans hlch')
  rw [hkind, hpk] at henc
  rw [hlocal, hkind, hpk] at hout
  rw [hpk] at hdata
  rw [hlocal, hdata] at hsign
  rw [hlocal, hkind, hw.serialize, setPdata_eq] at hstate
  refine ⟨ct, ss, signature, henc, ?_, ?_, ?_, hout, hsign⟩
  · rw [hstate]
    exact hrelation
  · rw [hstate]
    exact hremote
  · rw [hstate]
    simp only [Context.setHash, Context.setEncapsulated, hhandshake]

/-- `begin_handshake_reply` accepts the Request and makes the Reply. -/
theorem Replied.of_reply (hw : Works env) (hk : KemWorks env k) (hP : Prepared env P) (hfit : ∀ i, (P i).Sendable)
    (h : Acquainted env P optional k own (!a) d) (hpeer : Acquainted env P optional k own a c) (hverdict : d.verdicts ≠ [])
    (hnone : d.outcomes = []) (ha : Allocates amb d.plugin) (htrusts : Trusts env P (!a) d amb)
    (ho : Opened env P optional k own a c key publicKey challenge1) :
    ∃ d' v ss, d.note ((P !a).reply env amb c.message d.remoteHandle d.plugin) = d' ∧
      Acquainted env P optional k own (!a) d' ∧ d'.outcomes = [.ok .pendingHandshakeMessage] ∧ v.publicKey = publicKey ∧
      v.challenge1 = challenge1 ∧ Replied env P optional k own a d' v ss := by
  obtain ⟨tr, hr⟩ := h.reached
  have hs := run_referential hr
  obtain ⟨identity, hl, hready⟩ := h.ready hP
  obtain ⟨identity', -, hready'⟩ := hpeer.ready hP
  obtain ⟨remote, rel, relation, hmeets⟩ := h.met hverdict
  obtain ⟨challenge2, hown, hlch⟩ := hmeets.challenge
  obtain ⟨certData, hpem, -⟩ := hP.certificate !a
  have hpem' : env.pemWriteX509 identity.identityCert = some certData := by
    rw [hready.owns.certificate]
    exact hpem
  have hpinned : relation.rchallenge = none ∨ relation.rchallenge = some challenge1 :=
    hmeets.pinned_to (by rw [Bool.not_not]; exact ho.challenge)
  have hcarries : c.message.Carries ((P a).credentials env k) := by
    rw [ho.message]
    exact requestToken_carries (hP.sendable (hfit a))
  have hpk : c.message.findBinaryProperty "pqsec-dds.kem_public" = some (binaryProperty "pqsec-dds.kem_public" publicKey) := by
    rw [ho.message]
    exact requestToken_kemPublic
  have hc1 : c.message.findBinaryProperty "challenge1" = some (binaryProperty "challenge1" challenge1.1) := by
    rw [ho.message]
    exact requestToken_challenge1
  have hhash : HashSent c.message d.plugin.includeOptional "hash_c1" (credentialHash env c.message) := by
    rw [hcarries.hash, h.settings.1, ho.message]
    exact requestToken_hash
  have hclass : c.message.classId = some (str "pqsec-dds.auth:1.0+Req") := by
    rw [ho.message]
    rfl
  have horder : InOrder env amb d.plugin.trustedCaList identity ((P a).credentials env k) (P a).certificate := by
    rw [← Bool.not_not a] at hready' ⊢
    exact hready.inOrder hk hP hready' htrusts
  have hmakes : ∀ ctx, Points d.plugin ctx → ctx.handshake = .new rel .createdReply →
      ∃ v ctx', makeReply env amb d.plugin.includeOptional d.plugin.trustedCaList c.message (P !a).participantData ctx =
        (.ok v, ctx') := by
    intro ctx hp hnew
    obtain ⟨rfl, -, rfl⟩ := hmeets.context_eq hs.sound hl hp (by rw [hnew]; rfl)
    exact makeReply_works hw hk hclass hcarries horder rfl hpk ho.exported hc1 hpinned hhash hpem' (by rw [hnew]; rfl) hlch
      hready.signs
  obtain ⟨⟨out, signed⟩, ctx, ctx', s', hrun, hnew, hon⟩ :=
    onHandshake_new ha hs hmeets.findIdentityRelation (hmeets.unused hnone) makeReply_frame hmakes
  have hreply : (P !a).reply env amb c.message d.remoteHandle d.plugin =
      (.ok (amb.object, .pendingHandshakeMessage, out), s') := by
    simp only [Participant.reply, bind, Act.bind, beginHandshakeReply_eq (hP.participantData !a).1 hl hmeets.object, hrun,
      pure]
  have hcall : (Op.beginHandshakeReply c.message d.remoteHandle (P !a).localHandle (P !a).participantData).call env amb
      d.plugin = (.ok [signed], s') := by
    simp only [Op.call, bind, Act.bind, beginHandshakeReply_eq (hP.participantData !a).1 hl hmeets.object, hrun, pure]
  have htouches : Touches env amb d.plugin s'
      (.beginHandshakeReply c.message d.remoteHandle (P !a).localHandle (P !a).participantData) amb.object ctx ctx' :=
    .reply ha (fun f hf => by cases hf) hon
  have hframe := htouches.frame
  have hrel : ctx.handshake.relation = rel := by rw [hnew]; rfl
  have hfound : s'.handshake amb.object = some ctx'.handshake := by
    rw [hon.moved.handshake, if_pos rfl]
    simp [remaining, Except.isOk, Except.toBool]
  obtain ⟨rfl, rfl, rfl⟩ := hmeets.context_eq hs.sound hl hon.points hrel
  obtain ⟨ct, ss, signature, henc, hrelation, hremote, hhandshake, hout, hsign⟩ := makeReply_known hw hon.run hready.kagree
    hcarries horder.certificate.2 (Token.value_eq hpk) (Token.value_eq hc1) hpem' hlch
  have hhash1 : ctx'.handshake.hashC1 = (P a).hash env k := by rw [hhandshake, hcarries.hash]
  have hhash2 : ctx'.handshake.hashC2 = (P !a).hash env k := by
    rw [hhandshake, hready.credentials hpem]
    rfl
  have hpin : ∀ y, ctx'.relation.rchallenge = some y → own (!!a) = some y := by
    intro y hy
    rw [hrelation] at hy
    rw [Bool.not_not, ← hy]
    exact ho.challenge
  obtain ⟨hacq, hlinked⟩ := h.touched hmeets ha hcall htouches hrel hpin .pendingHandshakeMessage out
  refine ⟨_, ⟨publicKey, ct, challenge1, challenge2⟩, ss, congrArg d.note hreply, hacq, by rw [Caller.note, hnone], rfl, rfl,
    ⟨_, henc⟩, ho.challenge, hown, ⟨ctx'.handshake, ⟨ha.object_ne_zero, hfound, ?_⟩, ?_, ?_, hhash1, hhash2⟩, ?_, signature,
    ?_, ?_⟩
  · rw [hframe.relation, hrel]
    exact hlinked
  · rw [hframe.createdIn, hnew]
    rfl
  · rw [hhandshake]
  · refine ⟨ctx'.remoteIdentity, ?_, ?_, ?_⟩
    · rw [Caller.note, hon.moved.remoteIdentity, if_pos (hmeets.ends hs.sound).2.symm]
    · rw [hremote]
      rfl
    · rw [hremote]
      rfl
  · rw [Caller.note, hout, hhash1, hhash2, hready.credentials hpem, h.settings.1]
  · rw [hhash1, hhash2, h.settings.1] at hsign
    exact hw.signed hsign hready.pubkey hready.signs

/-- Credentials that are accepted are of sizes that a token may have. -/
theorem acceptCredentials_sizes {trusted : List X509} {inp : Token} {tokenType : HandshakeTokenType} {info : CredentialsInfo}
    {ctx ctx' : Context κ} (hrun : acceptCredentials env amb trusted inp tokenType ctx = (.ok info, ctx')) :
    (inp.value "c.perm").length ≤ intMax ∧ (inp.value "c.pdata").length ≤ intMax := by
  have hsize : ∀ {name : String} {p : BinaryProperty}, findRequiredBinprop inp name = .ok p →
      (inp.value name).length ≤ intMax := by
    intro name p hfind
    obtain ⟨rfl, -⟩ := findRequiredBinprop_ok hfind
    simp only [findRequiredBinprop, bind_ok, need_ok, require_ok, pure_ok, decide_eq_true_eq] at hfind
    obtain ⟨p', -, -, hle, rfl⟩ := hfind
    exact hle
  simp only [acceptCredentials, Act.bind_ok, check_ok, Act.read_ok, Act.write_ok, Act.pure_ok, require_ok,
    decide_eq_true_eq, and_assoc, exists_and_left, exists_eq_left', exists_const] at hrun
  obtain ⟨_, -, _, -, _, hperm, _, hpdata, -⟩ := hrun
  exact ⟨hsize hperm, hsize hpdata⟩

theorem beginHandshakeReply_sizes {inp : Token} {pdata : Octets} {res : Handle × Token × Signed} (ha : Allocates amb s)
    (hrun : beginHandshakeReply env amb inp r l pdata s = (.ok res, s')) :
    (inp.value "c.perm").length ≤ intMax ∧ (inp.value "c.pdata").length ≤ intMax := by
  rcases beginHandshakeReply_cases ha hrun (by simp) with ⟨⟨e, he⟩, -⟩ | ⟨h', ctx, ctx', rx, hres, hon⟩
  · cases he
  cases rx with
  | error e => cases hres
  | ok v =>
    obtain ⟨_, ctx₁, hv, -⟩ := Act.bind_ok.1 hon.run
    simp only [validateHandshakeToken, Act.onStop_ok, validateHandshakeTokenImpl, validateRequest, Act.bind_ok, check_ok,
      and_assoc, exists_and_left, exists_eq_left'] at hv
    obtain ⟨_, -, info, ctx₂, hcred, -⟩ := hv
    exact acceptCredentials_sizes hcred

/-- Only a Request whose credentials are of such sizes is answered. -/
theorem Opened.sendable (ho : Opened env P optional k own a c key publicKey challenge1) (ha : Allocates amb d.plugin)
    {res : Handle × Outcome × Token} (hrun : (P !a).reply env amb c.message r d.plugin = (.ok res, s')) : (P a).Sendable := by
  obtain ⟨res', s'', hreply, -⟩ := Act.bind_ok.1 hrun
  obtain ⟨hperm, hpdata⟩ := beginHandshakeReply_sizes ha hreply
  have hvalues : c.message.value "c.perm" = (P a).permissions.getD [] ++ [0] ∧
      c.message.value "c.pdata" = (P a).participantData := by
    rw [ho.message]
    cases optional <;> exact ⟨rfl, rfl⟩
  rw [hvalues.1, List.length_append] at hperm
  rw [hvalues.2] at hpdata
  exact ⟨hperm, hpdata⟩

/-- The secret of a completed handshake. -/
theorem completeHandshake_secret {ctx ctx' : Context κ} {certExp : Int}
    (hrun : completeHandshake env amb ctx = (.ok certExp, ctx')) (hss : ctx.handshake.kemSs = some ss)
    (hchallenges : ctx.challenges = (some v.challenge1, some v.challenge2)) :
    ctx' = ctx.setSharedSecret (some (v.secret env ss)) := by
  obtain ⟨⟨ss', x, y, hss', hx, hy, heq⟩, -⟩ := completeHandshake_ok hrun
  rw [hchallenges] at hx hy
  obtain rfl := Option.some.inj (hss.symm.trans hss')
  obtain rfl := Option.some.inj hx
  obtain rfl := Option.some.inj hy
  exact heq

/-- A Reply with known parts is answered. -/
theorem processToken_reply (hw : Works env) (hk : KemWorks env k) {trusted : List X509} {inp : Token} {ctx : Context κ}
    {creds : Credentials} {cert : X509} {signature : Octets} {seed : ρ}
    (hcreated : ctx.handshake.createdIn = .createdRequest) (hclass : inp.classId = some (str "pqsec-dds.auth:1.0+Reply"))
    (hcarries : inp.Carries creds) (horder : InOrder env amb trusted ctx.localIdentity creds cert)
    (hparts : HasParts inp creds.kagree v signature) (hpin : Pinned ctx v.challenge2)
    (hlch : ctx.relation.lchallenge = some v.challenge1) (hhash1 : HashSent inp optional "hash_c1" ctx.handshake.hashC1)
    (hhash2 : HashSent inp optional "hash_c2" (credentialHash env inp))
    (hsigned : SignedBy env cert (replyTranscript optional ctx.handshake.hashC1 (credentialHash env inp) v.challenge1.1
      v.challenge2.1 v.publicKey v.ciphertext) signature)
    (hkeypair : ctx.handshake.kemKeypair = some ⟨k, key, v.publicKey⟩) (hexp : Exported env k key v.publicKey)
    (henc : (env.kem k).Encapsulated v.publicKey seed v.ciphertext ss) (hcan : ctx.localIdentity.privateKey.canSign = true)
    (hclock : 0 ≤ amb.ddsTime ∧ amb.ddsTime ≤ int64Max) :
    ∃ out signed certExp ctx' signature',
      processToken env amb optional trusted inp ctx = (.ok (.okFinalMessage out signed, certExp), ctx') ∧
      ctx'.relation = { ctx.relation with rchallenge := some v.challenge2 } ∧
      ctx'.handshake.sharedSecret = some (v.secret env ss) ∧
      out = finalToken optional ctx.handshake.hashC1 (credentialHash env inp) v.ciphertext v.publicKey v.challenge1
        v.challenge2 signature' ∧
      env.digestSign ctx.localIdentity.privateKey (env.serializeArray (finalTranscript optional ctx.handshake.hashC1
        (credentialHash env inp) v.challenge1.1 v.challenge2.1 v.publicKey v.ciphertext)) amb.signSeed = some signature' := by
  obtain ⟨c₁, hv⟩ := validateReply_works hclass hcarries horder hparts hpin hlch hhash1 hhash2 hsigned
  obtain ⟨cert', key', hacc⟩ := validateReply_ok hv
  obtain rfl := hacc.credentials.eq_of_carries hcarries horder.certificate.2
  obtain ⟨x, hx, hc₁⟩ := hacc.state
  obtain rfl : x = v.challenge2 := Subtype.ext (hx.trans (Token.value_eq hparts.challenge2))
  have hlocal : c₁.localIdentity = ctx.localIdentity := by rw [hc₁, accepted_localIdentity]
  have hrelation : c₁.relation = { ctx.relation with rchallenge := some v.challenge2 } := by rw [hc₁, accepted_relation]
  have hhandshake : c₁.handshake = { ctx.handshake with hashC2 := credentialHash env inp } := by
    rw [hc₁, accepted_handshake_reply]
  have h1 : c₁.relation.lchallenge = some v.challenge1 := by
    rw [hrelation]
    exact hlch
  have h2 : c₁.relation.rchallenge = some v.challenge2 := by rw [hrelation]
  obtain ⟨⟨out, signed⟩, c₂, ha⟩ : ∃ v c₂, answerReply env amb optional inp c₁ = (.ok v, c₂) :=
    answerReply_works hw hk hparts.ciphertext hparts.publicKey (by rw [hhandshake]; exact hkeypair) hexp henc h1 h2
      (by rw [hlocal]; exact hcan)
  obtain ⟨keypair, ss', hfin⟩ := answerReply_ok ha
  obtain ⟨challenge1', challenge2', signature', hlch', hrch', hout, hdata, hsign⟩ := hfin.token
  obtain ⟨-, hne, hdec⟩ := hexp.encapsulated hk henc
  obtain rfl : keypair = ⟨k, key, v.publicKey⟩ := by
    have hstored := hfin.stored
    rw [hhandshake] at hstored
    exact Option.some.inj (hstored.symm.trans hkeypair)
  obtain rfl : ss' = ss := by
    have hdecapsulated := hfin.decapsulated
    rw [Token.value_eq hparts.ciphertext] at hdecapsulated
    exact Option.some.inj (hdecapsulated.symm.trans hdec)
  obtain rfl := Option.some.inj (h1.symm.trans hlch')
  obtain rfl := Option.some.inj (h2.symm.trans hrch')
  have hc₂ := hfin.state
  have hkem : c₂.handshake.kemSs = some ss' := by
    rw [hc₂]
    rfl
  have hchallenges : c₂.challenges = (some v.challenge1, some v.challenge2) := by
    simp only [hc₂, Context.challenges, Context.setKemSs, hhandshake, hcreated, h1, h2]
  have hcert : c₂.remoteIdentity.identityCert = some cert' := by
    rw [hc₂]
    exact hacc.verified.stored
  obtain ⟨certExp, c₃, hdone⟩ : ∃ certExp c₃, completeHandshake env amb c₂ = (.ok certExp, c₃) :=
    completeHandshake_works hkem hne (congrArg Prod.fst hchallenges) (congrArg Prod.snd hchallenges) hcert
      horder.valid.unexpired hclock
  have hsecret := completeHandshake_secret hdone hkem hchallenges
  refine ⟨out, signed, certExp, c₃, signature', ?_, ?_, ?_, ?_, ?_⟩
  · simp only [processToken, bind, Act.bind, Act.read, hcreated, hv, ha, hdone, pure]
  · rw [hsecret, hc₂]
    exact hrelation
  · rw [hsecret]
    rfl
  · rw [hout, Token.value_eq hparts.ciphertext, Token.value_eq hparts.publicKey, hhandshake]
  · rw [hdata, Token.value_eq hparts.ciphertext, Token.value_eq hparts.publicKey, hhandshake, hlocal] at hsign
    exact hsign

/-- A Final with known parts is accepted. -/
theorem processToken_final {trusted : List X509} {inp : Token} {ctx : Context κ} {cert : X509} {signature : Octets}
    (hcreated : ctx.handshake.createdIn = .createdReply) (hclass : inp.classId = some (str "pqsec-dds.auth:1.0+Final"))
    (hparts : HasParts inp ctx.remoteIdentity.kagreeAlgoKind v signature)
    (hrch : ctx.relation.rchallenge = some v.challenge1) (hlch : ctx.relation.lchallenge = some v.challenge2)
    (hhash1 : HashSent inp optional "hash_c1" ctx.handshake.hashC1)
    (hhash2 : HashSent inp optional "hash_c2" ctx.handshake.hashC2)
    (hcert : ctx.remoteIdentity.identityCert = some cert)
    (hsigned : SignedBy env cert (finalTranscript optional ctx.handshake.hashC1 ctx.handshake.hashC2 v.challenge1.1
      v.challenge2.1 v.publicKey v.ciphertext) signature)
    (hss : ctx.handshake.kemSs = some ss) (hne : ss ≠ []) (hexpiry : ∃ t, cert.notAfter = some t ∧ amb.time < t)
    (hclock : 0 ≤ amb.ddsTime ∧ amb.ddsTime ≤ int64Max) :
    ∃ certExp ctx', processToken env amb optional trusted inp ctx = (.ok (.ok, certExp), ctx') ∧
      ctx'.relation = ctx.relation ∧ ctx'.handshake.sharedSecret = some (v.secret env ss) := by
  obtain ⟨c₁, hv⟩ : ∃ c₁, validateHandshakeToken env amb optional [] inp .final ctx = (.ok ⟨⟩, c₁) :=
    validateFinal_works hclass hparts (.inr hrch) hlch hhash1 hhash2 hcert hsigned
  obtain rfl : c₁ = ctx := validateFinal_same.result hv
  have hchallenges : c₁.challenges = (some v.challenge1, some v.challenge2) := by
    simp only [Context.challenges, hcreated, hrch, hlch]
  obtain ⟨certExp, c₂, hdone⟩ : ∃ certExp c₂, completeHandshake env amb c₁ = (.ok certExp, c₂) :=
    completeHandshake_works hss hne (congrArg Prod.fst hchallenges) (congrArg Prod.snd hchallenges) hcert hexpiry hclock
  have hsecret := completeHandshake_secret hdone hss hchallenges
  refine ⟨certExp, c₂, ?_, ?_, ?_⟩
  · simp only [processToken, bind, Act.bind, Act.read, hcreated, hv, hdone, pure]
  · rw [hsecret]
    rfl
  · rw [hsecret]
    rfl

variable {own' : Bool → Option Challenge} {hs : HandshakeInfo κ} {secret : SharedSecret}

/-- `process_handshake` works if it does on the handshake. -/
theorem Acquainted.processed (h : Acquainted env P optional k own i c) {rel : Handle}
    (hmeets : Meets P own i c remote rel relation) (hl : c.plugin.localIdentity (P i).localHandle = some identity)
    (hway : Underway P i c hs) (ha : Allocates amb c.plugin) {inp : Token} {result : HandshakeResult} {certExp : Int}
    {ctx' : Context κ}
    (hrun : processToken env amb c.plugin.includeOptional c.plugin.trustedCaList inp ⟨identity, remote, relation, hs⟩ =
      (.ok (result, certExp), ctx'))
    (hpin : ∀ y, ctx'.relation.rchallenge = some y → own (!i) = some y)
    (hsecret : ctx'.handshake.sharedSecret = some secret) :
    ∃ s', processHandshake env amb inp c.handshakeHandle c.plugin = (.ok result, s') ∧
      ∀ outcome out, Acquainted env P optional k own i (c.note (.ok (c.handshakeHandle, outcome, out), s')) ∧
        HandsOut (c.note (.ok (c.handshakeHandle, outcome, out), s')) secret := by
  obtain ⟨tr, hr⟩ := h.reached
  have hG := run_sound hr
  have hrel : hs.relation = rel := by
    have hlinked := hway.linked
    rw [hmeets.findIdentityRelation] at hlinked
    exact (Option.some.inj hlinked).symm
  have hp := hmeets.points hG hl hrel
  obtain ⟨v, s', hprocess⟩ := processHandshake_works (context_eq_some.2 ⟨hway.found, hp⟩) hway.handle ⟨_, _, hrun⟩
  rcases processHandshake_cases hprocess (by simp) with ⟨⟨e, he⟩, -⟩ | ⟨ctx, ctx₁, rx, hres, hon⟩
  · cases he
  obtain rfl := hp.unique hon.points (Option.some.inj (hway.found.symm.trans hon.handshake))
  obtain ⟨rfl, rfl⟩ := Prod.mk.inj (hrun.symm.trans hon.run)
  obtain rfl := Except.ok.inj hres
  have htouches : Touches env amb c.plugin s' (.processHandshake inp c.handshakeHandle) c.handshakeHandle _ ctx' :=
    .process ha (fun f hf => by cases hf) hon
  have hcall : (Op.processHandshake inp c.handshakeHandle).call env amb c.plugin = (.ok v.signed, s') := by
    simp only [Op.call, bind, Act.bind, hprocess, pure]
  refine ⟨s', hprocess, fun outcome out => ⟨?_, hway.handle, ctx'.handshake, ?_, hsecret⟩⟩
  · exact (h.touched hmeets ha hcall htouches hrel hpin outcome out).1
  · rw [Caller.note, (hon.ok v certExp rfl).1.handshake, if_pos rfl]

/-- `process_handshake` accepts the Reply and makes the Final. -/
theorem Finished.of_finish (hw : Works env) (hk : KemWorks env k) (hP : Prepared env P) (hfit : ∀ i, (P i).Sendable)
    (h : Acquainted env P optional k own a c) (hpeer : Acquainted env P optional k own (!a) d) (hverdict : c.verdicts ≠ [])
    (hone : c.outcomes = [.ok .pendingHandshakeMessage]) (ha : Allocates amb c.plugin) (htrusts : Trusts env P a c amb)
    (ho : Opened env P optional k own a c key v.publicKey v.challenge1) (hr : Replied env P optional k own a d v ss) :
    ∃ c', c.note (processMessage env amb d.message c.handshakeHandle c.plugin) = c' ∧
      Acquainted env P optional k own a c' ∧ c'.outcomes = [.ok .okFinalMessage, .ok .pendingHandshakeMessage] ∧
      Finished env P optional k a c' v ss := by
  obtain ⟨identity, hl, hready⟩ := h.ready hP
  obtain ⟨identity', -, hready'⟩ := hpeer.ready hP
  obtain ⟨remote, rel, relation, hmeets⟩ := h.met hverdict
  obtain ⟨x, hx, hlch⟩ := hmeets.challenge
  obtain rfl := Option.some.inj (ho.challenge.symm.trans hx)
  obtain ⟨hs, hway, hcreated, hkeypair, hhash⟩ := ho.underway
  obtain ⟨seed, henc⟩ := hr.encapsulated
  obtain ⟨hct, -, -⟩ := ho.exported.encapsulated hk henc
  obtain ⟨signature, hmessage, hsigned, hle⟩ := hr.message
  have hcarries : d.message.Carries ((P !a).credentials env k) := by
    rw [hmessage]
    exact replyToken_carries (hP.sendable (hfit !a))
  have hparts : HasParts d.message k v signature := by
    rw [hmessage]
    exact replyToken_parts (hk.known amb.keySeed) (ho.exported.length hk) hct hsigned.ne_nil hle
  have hhashes : HashSent d.message optional "hash_c1" hs.hashC1 ∧
      HashSent d.message optional "hash_c2" (credentialHash env d.message) := by
    rw [hcarries.hash, hhash, hmessage]
    exact replyToken_hashes
  have hclass : d.message.classId = some (str "pqsec-dds.auth:1.0+Reply") := by
    rw [hmessage]
    rfl
  have hcreated' : (Context.mk identity remote relation hs).handshake.createdIn = .createdRequest := hcreated
  rw [← hhash, ← hcarries.hash] at hsigned
  obtain ⟨out, signed, certExp, ctx', signature', hrun, hrelation, hsecret, hout, hsign⟩ :=
    processToken_reply hw hk hcreated' hclass hcarries (hready.inOrder hk hP hready' htrusts) hparts
      (hmeets.pinned_to hr.challenge2) hlch hhashes.1 hhashes.2 hsigned hkeypair ho.exported henc hready.signs htrusts.clock
  rw [← h.settings.1] at hrun
  have hpin : ∀ y, ctx'.relation.rchallenge = some y → own (!a) = some y := by
    intro y hy
    rw [hrelation] at hy
    rw [← hy]
    exact hr.challenge2
  obtain ⟨s', hprocess, hafter⟩ := h.processed hmeets hl hway ha hrun hpin hsecret
  obtain ⟨hacq, hout'⟩ := hafter .okFinalMessage out
  have hnote : processMessage env amb d.message c.handshakeHandle c.plugin =
      (.ok (c.handshakeHandle, .okFinalMessage, out), s') := by
    simp only [processMessage, bind, Act.bind, hprocess, pure]
  rw [hhash, hcarries.hash] at hout hsign
  exact ⟨_, congrArg c.note hnote, hacq, by rw [Caller.note, hone], hout', signature', hout,
    hw.signed hsign hready.pubkey hready.signs⟩

/-- `process_handshake` accepts the Final. -/
theorem Finished.accept (hk : KemWorks env k) (hP : Prepared env P) (h : Acquainted env P optional k own (!a) d)
    (hverdict : d.verdicts ≠ []) (hone : d.outcomes = [.ok .pendingHandshakeMessage]) (ha : Allocates amb d.plugin)
    (htrusts : Trusts env P (!a) d amb) (hexp : Exported env k key v.publicKey) (hf : Finished env P optional k a c v ss)
    (hr : Replied env P optional k own a d v ss) :
    ∃ d', d.note (processMessage env amb c.message d.handshakeHandle d.plugin) = d' ∧
      Acquainted env P optional k own (!a) d' ∧ d'.outcomes = [.ok .ok, .ok .pendingHandshakeMessage] ∧
      HandsOut d' (v.secret env ss) := by
  obtain ⟨tr, hreached⟩ := h.reached
  obtain ⟨identity, hl, hready⟩ := h.ready hP
  obtain ⟨remote, rel, relation, hmeets⟩ := h.met hverdict
  obtain ⟨x, hx, hlch⟩ := hmeets.challenge
  obtain rfl := Option.some.inj (hr.challenge2.symm.trans hx)
  obtain ⟨hs, hway, hcreated, hkem, hhash1, hhash2⟩ := hr.underway
  obtain ⟨seed, henc⟩ := hr.encapsulated
  obtain ⟨hct, hne, -⟩ := hexp.encapsulated hk henc
  obtain ⟨signature, hmessage, hsigned, hle⟩ := hf.message
  obtain ⟨remote', hremote, hcert, hkagree⟩ := hr.certificate
  obtain rfl := Option.some.inj (hmeets.object.symm.trans hremote)
  have hrel : hs.relation = rel := by
    have hlinked := hway.linked
    rw [hmeets.findIdentityRelation] at hlinked
    exact (Option.some.inj hlinked).symm
  -- the handshake was made for a Request, so the challenge of the initiator is known
  have hrch : relation.rchallenge = some v.challenge1 := by
    have hsome := (run_referential hreached).challenged.rchallenge _ hs relation hway.found hcreated
      (by rw [hrel]; exact hmeets.pointer)
    have hpinned := hmeets.pinned_to (by rw [Bool.not_not]; exact hr.challenge1)
    rcases hpinned with hnone | hsome'
    · rw [hnone] at hsome
      cases hsome
    · exact hsome'
  have hparts : HasParts c.message remote.kagreeAlgoKind v signature := by
    rw [hmessage, hkagree]
    exact finalToken_parts (hk.known amb.keySeed) (hexp.length hk) hct hsigned.ne_nil hle
  have hhashes : HashSent c.message optional "hash_c1" hs.hashC1 ∧ HashSent c.message optional "hash_c2" hs.hashC2 := by
    rw [hhash1, hhash2, hmessage]
    exact finalToken_hashes
  have hclass : c.message.classId = some (str "pqsec-dds.auth:1.0+Final") := by
    rw [hmessage]
    rfl
  have hvalid := htrusts.valid.unexpired
  rw [Bool.not_not] at hvalid
  have hcreated' : (Context.mk identity remote relation hs).handshake.createdIn = .createdReply := hcreated
  rw [← hhash1, ← hhash2] at hsigned
  obtain ⟨certExp, ctx', hrun, hrelation, hsecret⟩ : ∃ certExp ctx', processToken env amb optional d.plugin.trustedCaList
      c.message ⟨identity, remote, relation, hs⟩ = (.ok (.ok, certExp), ctx') ∧ ctx'.relation = relation ∧
        ctx'.handshake.sharedSecret = some (v.secret env ss) :=
    processToken_final hcreated' hclass hparts hrch hlch hhashes.1 hhashes.2 hcert hsigned hkem hne hvalid htrusts.clock
  rw [← h.settings.1] at hrun
  obtain ⟨s', hprocess, hafter⟩ := h.processed hmeets hl hway ha hrun (by rw [hrelation]; exact hmeets.pinned) hsecret
  obtain ⟨hacq, hout⟩ := hafter .ok {}
  have hnote : processMessage env amb c.message d.handshakeHandle d.plugin = (.ok (d.handshakeHandle, .ok, {}), s') := by
    simp only [processMessage, bind, Act.bind, hprocess, pure]
  exact ⟨_, congrArg d.note hnote, hacq, by rw [Caller.note, hone], hout⟩

end Calls

end PqsecDds.CycloneDDS
