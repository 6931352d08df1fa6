import Mathlib.Tactic.Basic
import PqsecDds.OpenDDS.Authentication

/-!
# What a call of the plugin can do

`exec_effect` lists, for every operation, the successor states and the events it can have; every
invariant below is read off that list. The operations that build or process a handshake have their own
success lemmas first (`makeRequest_ok`, `makeReply_ok`, `processMessage_cases`).
-/

namespace PqsecDds.OpenDDS

open Lib Authentication

variable {α κ π ρ : Type}
variable {env : Env α κ π ρ} {amb : Ambient α ρ} {s s' : Authentication α κ π}

/-! ## Finding objects -/

theorem findLocal_eq_some {h : Handle} {p : Nat} {l : LocalIdentity α π} :
    s.findLocal h = some (p, l) ↔ s.locals h = some p ∧ s.localHeap[p]? = some l := by
  simp only [findLocal, Option.bind_eq_some_iff, Option.map_eq_some_iff, Prod.mk.injEq]
  constructor
  · rintro ⟨p', hp, l', hl, rfl, rfl⟩
    exact ⟨hp, hl⟩
  · rintro ⟨hp, hl⟩
    exact ⟨p, hp, l, hl, rfl, rfl⟩

theorem findRemote_eq_some {h : Handle} {p : Nat} {r : RemoteIdentity α} :
    s.findRemote h = some (p, r) ↔ s.remotes h = some p ∧ s.remoteHeap[p]? = some r := by
  simp only [findRemote, Option.bind_eq_some_iff, Option.map_eq_some_iff, Prod.mk.injEq]
  constructor
  · rintro ⟨p', hp, r', hr, rfl, rfl⟩
    exact ⟨hp, hr⟩
  · rintro ⟨hp, hr⟩
    exact ⟨p, hp, r, hr, rfl, rfl⟩

theorem findHandshake_eq_some {h : Handle} {p : Nat} {hs : Handshake α κ π} :
    s.findHandshake h = some (p, hs) ↔ s.handshakes h = some p ∧ s.handshakeHeap[p]? = some hs := by
  simp only [findHandshake, Option.bind_eq_some_iff, Option.map_eq_some_iff, Prod.mk.injEq]
  constructor
  · rintro ⟨p', hp, hs', hhs, rfl, rfl⟩
    exact ⟨hp, hhs⟩
  · rintro ⟨hp, hhs⟩
    exact ⟨p, hp, hs, hhs, rfl, rfl⟩

theorem identities_eq_some {hs : Handshake α κ π} {l : LocalIdentity α π} {r : RemoteIdentity α} :
    s.identities hs = some (l, r) ↔
      s.localHeap[hs.localPtr]? = some l ∧ s.remoteHeap[hs.remotePtr]? = some r := by
  simp only [identities, Option.bind_eq_some_iff, Option.map_eq_some_iff, Prod.mk.injEq]
  constructor
  · rintro ⟨l', hl, r', hr, rfl, rfl⟩
    exact ⟨hl, hr⟩
  · rintro ⟨hl, hr⟩
    exact ⟨l, hl, r, hr, rfl, rfl⟩

theorem setRemote_addRemote (r r' : RemoteIdentity α) :
    (s.addRemote r).setRemote s.remoteHeap.length r' = s.addRemote r' := by
  simp [addRemote, setRemote]

/-! ## Success of the handshake builders -/

section

variable [Octet α]

/-- What `begin_handshake_request` establishes about the handshake it makes for the local identity `l`. -/
structure Requested (env : Env α κ π ρ) (amb : Ambient α ρ) (l : LocalIdentity α π) (hs : Handshake α κ π) :
    Prop where
  initiator : hs.initiator = true
  state : hs.state = .pendingHandshakeMessage
  certificate : hs.remoteCertificate = none
  key : ∃ key, env.generate l.kemAlgorithm amb.keySeed = some key ∧
    hs.kem = { algorithm := l.kemAlgorithm, key := some key } ∧
    Kem.exportPublic env key = some hs.publicKey
  hash1 : ∃ participantData, localCredentialHash env l participantData = some hs.hash1
  unset : hs.hash2 = [] ∧ hs.challenge2 = [] ∧ hs.ciphertext = []

theorem makeRequest_ok {m t : Token α} {ih rh : Handle} {pd : OctetSeq α} {hs : Handshake α κ π}
    (h : makeRequest env amb s m ih rh pd = .ok (hs, t)) :
    ∃ l r, s.findLocal ih = some (hs.localPtr, l) ∧ s.findRemote rh = some (hs.remotePtr, r) ∧
      Requested env amb l hs ∧ hs.localHandle = ih ∧ hs.remoteHandle = rh ∧ hs.request = t ∧
      ownChallenge env amb r = some hs.challenge1 ∧ localCredentialHash env l pd = some hs.hash1 ∧
      t = ((writeCredentials (m.writer "pqsec-dds.auth:1.0+Req") l pd).addBinProperty
        "pqsec-dds.kem_public" hs.publicKey).addBinProperty "challenge1" hs.challenge1 := by
  simp only [makeRequest, bind_ok, need_ok, require_ok, pure_ok, Prod.exists, Prod.mk.injEq] at h
  obtain ⟨lp, l, hl, rp, r, hr, -, -, kem, hkem, pk, hpk, c1, hc1, h1, hh1, rfl, rfl⟩ := h
  obtain ⟨key, hgen, rfl⟩ := Kem.generate_ok hkem
  obtain ⟨key', hkey, hexp⟩ := Kem.publicKey_ok hpk
  obtain rfl := Option.some.inj hkey
  exact ⟨l, r, hl, hr, ⟨rfl, rfl, rfl, ⟨_, hgen, rfl, hexp⟩, ⟨pd, hh1⟩, rfl, rfl, rfl⟩, rfl, rfl, rfl,
    hc1, hh1, rfl⟩

variable [DecidableEq α]

theorem validateRemoteCredentials_ok {l : LocalIdentity α π} {r : RemoteIdentity α} {t : Token α}
    {v : ValidatedCredentials α π} (h : validateRemoteCredentials env amb l r t = .ok v) :
    mldsaAlgorithm v.certificate.dsignAlgo = true ∧
    stringValue (t.getBinPropertyValue "c.dsign_algo") = v.certificate.dsignAlgo ∧
    stringValue (t.getBinPropertyValue "c.kagree_algo") = l.kemAlgorithm ∧
    env.deserializeCertificate (t.getBinPropertyValue "c.id") = some v.certificate ∧
    env.validateCertificate amb.now v.certificate l.credentials.caCert = true ∧
    certMatchesGuid v.certificate r.guid = true ∧
    participantDataHasGuid env (t.getBinPropertyValue "c.pdata") r.guid = true ∧
    v.permissions = t.getBinPropertyValue "c.perm" ∧
    credentialHash env (t.getBinPropertyValue "c.id") v.permissions (t.getBinPropertyValue "c.pdata")
      v.certificate.dsignAlgo l.kemAlgorithm = some v.hash := by
  simp only [validateRemoteCredentials, bind_ok, need_ok, require_ok, pure_ok, Bool.and_eq_true,
    decide_eq_true_eq] at h
  obtain ⟨-, ⟨hml, hkem⟩, cert, hcert, -, hval, -, hds, -, hguid, -, hpd, hash, hhash, rfl⟩ := h
  rw [← hds, hkem] at hhash
  exact ⟨by rw [hds]; exact hml, hds.symm, hkem, hcert, hval, hguid, hpd, rfl, hhash⟩

/-- What `begin_handshake_reply` establishes about the handshake it makes for the local identity `l`. -/
structure Replied (env : Env α κ π ρ) (amb : Ambient α ρ) (l : LocalIdentity α π) (r : RemoteIdentity α)
    (message : Token α) (hs : Handshake α κ π) : Prop where
  initiator : hs.initiator = false
  state : hs.state = .pendingHandshakeMessage
  request : hs.request = message
  validated : ∃ v, validateRemoteCredentials env amb l r message = .ok v ∧
    hs.remoteCertificate = some v.certificate ∧ hs.remotePermissions = v.permissions ∧ hs.hash1 = v.hash
  algorithm : hs.kem.algorithm = l.kemAlgorithm
  publicKey : hs.publicKey = message.getBinPropertyValue "pqsec-dds.kem_public"
  challenge1 : hs.challenge1 = message.getBinPropertyValue "challenge1"
  encapsulated : (env.kem l.kemAlgorithm).Encapsulated hs.publicKey amb.encapSeed hs.ciphertext hs.secret

theorem makeReply_ok {m t : Token α} {ih rh : Handle} {pd data : OctetSeq α} {key : π}
    {hs : Handshake α κ π} (h : makeReply env amb s m ih rh pd = .ok (hs, t, key, data)) :
    ∃ l r sig, s.findLocal rh = some (hs.localPtr, l) ∧ s.findRemote ih = some (hs.remotePtr, r) ∧
      Replied env amb l r m hs ∧ hs.localHandle = rh ∧ hs.remoteHandle = ih ∧
      m.classIs "pqsec-dds.auth:1.0+Req" = true ∧ hs.challenge1.length = 32 ∧
      (r.remoteChallenge = [] ∨ hs.challenge1 = r.remoteChallenge) ∧
      ownChallenge env amb r = some hs.challenge2 ∧ localCredentialHash env l pd = some hs.hash2 ∧
      key = l.credentials.participantPrivateKey ∧ env.serialize hs.replyProperties = some data ∧
      env.sign key data amb.signSeed = some sig ∧
      t = ((((writeCredentials (Token.writer {} "pqsec-dds.auth:1.0+Reply") l pd).addBinProperty
        "pqsec-dds.kem_ciphertext" hs.ciphertext).addBinProperty "challenge1" hs.challenge1).addBinProperty
        "challenge2" hs.challenge2).addBinProperty "signature" sig := by
  simp only [makeReply, bind_ok, need_ok, require_ok, pure_ok, Prod.exists, Prod.mk.injEq,
    Bool.or_eq_true, decide_eq_true_eq] at h
  obtain ⟨lp, l, hl, rp, r, hr, -, hreq, v, hv, -, hlen, -, hc, kem, hkem, ct, ss, henc, c2, hc2, h2, hh2,
    data', sig, hsig, rfl, rfl, rfl, rfl⟩ := h
  obtain ⟨-, pub, himp, rfl⟩ := Kem.importPublic_ok hkem
  obtain ⟨key, hkey, henc⟩ := Kem.encapsulate_ok henc
  obtain rfl := Option.some.inj hkey
  obtain ⟨hser, hsig⟩ := signSerialized_eq_some.1 hsig
  exact ⟨l, r, sig, hl, hr,
    ⟨rfl, rfl, rfl, ⟨v, hv, rfl, rfl, rfl⟩, rfl, rfl, rfl, ⟨_, himp, henc⟩⟩,
    rfl, rfl, hreq, hlen, hc, hc2, hh2, rfl, hser, hsig, rfl⟩

end

/-! ## Processing a message -/

/-- What a handshake keeps for its whole life. -/
structure Frame (hs hs' : Handshake α κ π) : Prop where
  initiator : hs'.initiator = hs.initiator
  localHandle : hs'.localHandle = hs.localHandle
  remoteHandle : hs'.remoteHandle = hs.remoteHandle
  localPtr : hs'.localPtr = hs.localPtr
  remotePtr : hs'.remotePtr = hs.remotePtr
  request : hs'.request = hs.request
  hash1 : hs'.hash1 = hs.hash1
  challenge1 : hs'.challenge1 = hs.challenge1
  publicKey : hs'.publicKey = hs.publicKey
  algorithm : hs'.kem.algorithm = hs.kem.algorithm

theorem Frame.refl (hs : Handshake α κ π) : Frame hs hs := by
  constructor <;> rfl

section

variable [Octet α] [DecidableEq α]

/-- A Reply the initiator accepts. -/
structure ReplyAccepted (env : Env α κ π ρ) (amb : Ambient α ρ) (l : LocalIdentity α π)
    (r : RemoteIdentity α) (hs : Handshake α κ π) (input : Token α) (hs' : Handshake α κ π)
    (data signature : OctetSeq α) : Prop where
  initiator : hs.initiator = true
  classId : input.classIs "pqsec-dds.auth:1.0+Reply" = true
  frame : Frame hs hs'
  state : hs'.state = .okFinalMessage
  reply : hs'.reply = input
  validated : ∃ v, validateRemoteCredentials env amb l r input = .ok v ∧
    hs'.remoteCertificate = some v.certificate ∧ hs'.remotePermissions = v.permissions ∧
    hs'.hash2 = v.hash ∧
    verifySerialized env hs'.replyProperties v.certificate (input.getBinPropertyValue "signature") = true
  challenge1 : input.getBinPropertyValue "challenge1" = hs.challenge1
  challenge2 : hs'.challenge2 = input.getBinPropertyValue "challenge2"
  ciphertext : hs'.ciphertext = input.getBinPropertyValue "pqsec-dds.kem_ciphertext"
  pinned : r.remoteChallenge = [] ∨ hs'.challenge2 = r.remoteChallenge
  decapsulated : ∃ key, hs.kem.key = some key ∧ env.decapsulate key hs'.ciphertext = some hs'.secret
  signed : env.serialize hs'.finalProperties = some data ∧
    env.sign l.credentials.participantPrivateKey data amb.signSeed = some signature

theorem processReply_cases {l : LocalIdentity α π} {r : RemoteIdentity α} {hs hs' : Handshake α κ π}
    {handle : Handle} {input : Token α} {o : Outcome α π} (hinit : hs.initiator = true)
    (hclass : input.classIs "pqsec-dds.auth:1.0+Reply" = true)
    (h : processReply env amb l r hs handle input = (o, hs')) :
    ((∃ msg, o = fail handle {} msg) ∧ hs'.state = .failed ∧ Frame hs hs') ∨
    ∃ data signature, ReplyAccepted env amb l r hs input hs' data signature ∧
      o = { result := .okFinalMessage, handle,
            token := (Token.writer {} "pqsec-dds.auth:1.0+Final").addBinProperty "signature" signature,
            signed := some (l.credentials.participantPrivateKey, data) } := by
  simp only [processReply] at h
  split at h
  · obtain ⟨rfl, rfl⟩ := Prod.mk.inj h
    exact .inl ⟨⟨_, rfl⟩, rfl, by constructor <;> rfl⟩
  rename_i v hv
  split at h
  · obtain ⟨rfl, rfl⟩ := Prod.mk.inj h
    exact .inl ⟨⟨_, rfl⟩, rfl, by constructor <;> rfl⟩
  rename_i hchal
  simp only [Bool.or_eq_true, Bool.and_eq_true, decide_eq_true_eq, not_or, not_and, ne_eq, not_not] at hchal
  split at h
  · obtain ⟨rfl, rfl⟩ := Prod.mk.inj h
    exact .inl ⟨⟨_, rfl⟩, rfl, by constructor <;> rfl⟩
  rename_i hver
  split at h
  · obtain ⟨rfl, rfl⟩ := Prod.mk.inj h
    exact .inl ⟨⟨_, rfl⟩, rfl, by constructor <;> rfl⟩
  rename_i secret hdec
  split at h
  · obtain ⟨rfl, rfl⟩ := Prod.mk.inj h
    exact .inl ⟨⟨_, rfl⟩, rfl, by constructor <;> rfl⟩
  rename_i data sig hsig
  obtain ⟨rfl, rfl⟩ := Prod.mk.inj h
  obtain ⟨key, hkey, hdec⟩ := Kem.decapsulate_ok hdec
  refine .inr ⟨data, sig, ?_, rfl⟩
  exact {
    initiator := hinit
    classId := hclass
    frame := by constructor <;> rfl
    state := rfl
    reply := rfl
    validated := ⟨v, hv, rfl, rfl, rfl, by simpa [Handshake.replyProperties] using hver⟩
    challenge1 := hchal.1.2
    challenge2 := rfl
    ciphertext := rfl
    pinned := by
      by_cases hr : r.remoteChallenge = []
      · exact .inl hr
      · exact .inr (hchal.2 hr)
    decapsulated := ⟨key, hkey, hdec⟩
    signed := signSerialized_eq_some.1 hsig }

/-- A Final the replier accepts. -/
structure FinalAccepted (env : Env α κ π ρ) (hs : Handshake α κ π) (input : Token α)
    (hs' : Handshake α κ π) : Prop where
  initiator : hs.initiator = false
  classId : input.classIs "pqsec-dds.auth:1.0+Final" = true
  updated : hs' = { hs with state := .ok }
  verified : ∃ certificate, hs.remoteCertificate = some certificate ∧
    verifySerialized env hs.finalProperties certificate (input.getBinPropertyValue "signature") = true

/-- `process_handshake` on a live handshake: not awaiting a message, rejected, or one of the two
acceptances. A rejected message leaves a replier as it was but for its state. -/
theorem processMessage_cases {l : LocalIdentity α π} {r : RemoteIdentity α} {hs hs' : Handshake α κ π}
    {handle : Handle} {input : Token α} {o : Outcome α π}
    (h : processMessage env amb l r hs handle input = (o, hs')) :
    (hs.state ≠ .pendingHandshakeMessage ∧ (∃ msg, o = fail handle {} msg) ∧ hs' = hs) ∨
    hs.state = .pendingHandshakeMessage ∧
      (((∃ msg, o = fail handle {} msg) ∧ hs'.state = .failed ∧ Frame hs hs' ∧
          (hs.initiator = false → hs' = hs.setFailed)) ∨
        (∃ data signature, ReplyAccepted env amb l r hs input hs' data signature ∧
          o = { result := .okFinalMessage, handle,
                token := (Token.writer {} "pqsec-dds.auth:1.0+Final").addBinProperty "signature" signature,
                signed := some (l.credentials.participantPrivateKey, data) }) ∨
        (FinalAccepted env hs input hs' ∧ o = { result := .ok, handle, token := {} })) := by
  simp only [processMessage] at h
  split at h
  · rename_i hst
    obtain ⟨rfl, rfl⟩ := Prod.mk.inj h
    exact .inl ⟨by simpa using hst, ⟨_, rfl⟩, rfl⟩
  rename_i hst
  have hpending : hs.state = .pendingHandshakeMessage := by simpa using hst
  refine .inr ⟨hpending, ?_⟩
  split at h
  · rename_i hc
    obtain ⟨hinit, hclass⟩ := Bool.and_eq_true_iff.1 hc
    rcases processReply_cases hinit hclass h with ⟨ho, hs'f, hfr⟩ | hacc
    · exact .inl ⟨ho, hs'f, hfr, fun hrep => by rw [hinit] at hrep; cases hrep⟩
    · exact .inr (.inl hacc)
  split at h
  · rename_i hc
    obtain ⟨hrep, hclass⟩ := Bool.and_eq_true_iff.1 hc
    have hrep : hs.initiator = false := by simpa using hrep
    simp only [processFinal] at h
    split at h
    · rename_i hacc
      obtain ⟨rfl, rfl⟩ := Prod.mk.inj h
      exact .inr (.inr ⟨⟨hrep, hclass, rfl, (Option.any_eq_true _ _).1 hacc⟩, rfl⟩)
    · obtain ⟨rfl, rfl⟩ := Prod.mk.inj h
      exact .inl ⟨⟨_, rfl⟩, rfl, by constructor <;> rfl, fun _ => rfl⟩
  · obtain ⟨rfl, rfl⟩ := Prod.mk.inj h
    exact .inl ⟨⟨_, rfl⟩, rfl, by constructor <;> rfl, fun _ => rfl⟩

/-! ## All operations -/

/-- What an AuthRequest may change in a remote identity. -/
structure AuthRequestFrame (r r' : RemoteIdentity α) : Prop where
  localHandle : r'.localHandle = r.localHandle
  guid : r'.guid = r.guid
  localAuthRequest : r'.localAuthRequest = r.localAuthRequest
  localChallenge : r'.localChallenge = r.localChallenge

theorem receiveAuthRequest_spec (s : Authentication α κ π) (p : Nat) (r : RemoteIdentity α) (rh : Handle)
    (lt rt : Token α) (g : Guid) :
    ∃ r', (receiveAuthRequest s p r rh lt rt g).2 = s.setRemote p r' ∧ AuthRequestFrame r r' ∧
      ((receiveAuthRequest s p r rh lt rt g).1.events = ([] : List (Event α π)) ∨
        (receiveAuthRequest s p r rh lt rt g).1.events = ([.sent r.localAuthRequest] : List (Event α π)) ∨
        (receiveAuthRequest s p r rh lt rt g).1.events = ([.sent {}] : List (Event α π))) := by
  simp only [receiveAuthRequest]
  split
  · exact ⟨_, rfl, by constructor <;> rfl, .inl rfl⟩
  · split
    · exact ⟨_, rfl, by constructor <;> rfl, .inl rfl⟩
    · have hsucc : (if initiator g r.guid = true then ValidationResult.pendingHandshakeRequest
          else .pendingHandshakeMessage) ≠ .failed := by split <;> decide
      cases hnil : rt.isNil
      · refine ⟨_, rfl, by constructor <;> rfl, .inr (.inr ?_)⟩
        simp [Outcome.events, hsucc]
      · refine ⟨_, rfl, by constructor <;> rfl, .inr (.inl ?_)⟩
        simp [Outcome.events, hsucc]

/-- The effects of a call: the operation, the successor state and the events it sets free. -/
inductive Effect (env : Env α κ π ρ) (amb : Ambient α ρ) (s : Authentication α κ π) :
    Op α → Authentication α κ π → List (Event α π) → Prop
  | nothing {op} : Effect env amb s op s []
  | provider {h props cand} (fallbackProvider : ProviderFallback α) :
      Effect env amb s (.validateLocalIdentity h props cand) { s with fallbackProvider } []
  | localIdentity {h props cand credentials} (fallbackProvider : ProviderFallback α) (guid : Guid)
      (kemAlgorithm : Str α) (hload : env.loadCredentials props = some credentials)
      (hsign : mldsaAlgorithm credentials.participantCert.dsignAlgo = true)
      (hkem : OpenDDS.kemAlgorithm kemAlgorithm = true) :
      Effect env amb s (.validateLocalIdentity h props cand)
        (addLocal { s with fallbackProvider } { credentials, guid, kemAlgorithm }) [.sent {}]
  | identityToken {token h t} (ht : getIdentityToken s token h = .ok t) :
      Effect env amb s (.getIdentityToken token h) s [.sent t]
  | permissions {h credential p l} {accessPermissions : OctetSeq α} (hl : s.findLocal h = some (p, l))
      (hp : env.loadAccessPermissions credential = .ok accessPermissions) :
      Effect env amb s (.setPermissionsCredentialAndToken h credential)
        { s with
          localHeap := s.localHeap.set p { l with credentials := { l.credentials with accessPermissions } } } []
  | remoteKnown {rh lt rt lh it g p r r' ev} (hr : s.findRemote rh = some (p, r)) (hf : AuthRequestFrame r r')
      (hev : ev = [] ∨ ev = [.sent r.localAuthRequest] ∨ ev = [.sent {}]) :
      Effect env amb s (.validateRemoteIdentity rh lt rt lh it g) (s.setRemote p r') ev
  | remoteNew {rh lt rt lh it g challenge r ev} (hn : env.makeNonce256 amb.nonceSeed = some challenge)
      (hc : r.localChallenge = challenge) (hh : r.localHandle = lh) (hg : r.guid = g)
      (ha : r.localAuthRequest = (Token.writer {} "pqsec-dds.auth:1.0+AuthReq").addBinProperty
        "future_challenge" challenge)
      (hev : ev = [] ∨ ev = [.sent r.localAuthRequest] ∨ ev = [.sent {}]) :
      Effect env amb s (.validateRemoteIdentity rh lt rt lh it g) (s.addRemote r) ev
  | request {m ih rh pd hs t} (h : makeRequest env amb s m ih rh pd = .ok (hs, t)) :
      Effect env amb s (.beginHandshakeRequest 0 m ih rh pd) (s.addHandshake hs) [.sent t]
  | reply {m ih rh pd hs t key data} (h : makeReply env amb s m ih rh pd = .ok (hs, t, key, data)) :
      Effect env amb s (.beginHandshakeReply 0 m ih rh pd) (s.addHandshake hs) [.sent t, .signed key data]
  | process {out inp h p hs l r} (hf : s.findHandshake h = some (p, hs)) (hi : s.identities hs = some (l, r)) :
      Effect env amb s (.processHandshake out inp h)
        (s.setHandshake p (processMessage env amb l r hs h inp).2) (processMessage env amb l r hs h inp).1.events
  | forgetHandshake {h} :
      Effect env amb s (.returnHandshakeHandle h)
        { s with handshakes := Function.update s.handshakes h none } []
  | forgetLocal {h} :
      Effect env amb s (.returnIdentityHandle h) { s with locals := Function.update s.locals h none } []
  | forgetRemote {h} :
      Effect env amb s (.returnIdentityHandle h) { s with remotes := Function.update s.remotes h none } []

theorem validateLocalIdentity_effect (h : Handle) (props : List (Property α)) (cand : Guid) :
    Effect env amb s (.validateLocalIdentity h props cand) (validateLocalIdentity env amb s h props cand).2
      (validateLocalIdentity env amb s h props cand).1.events := by
  simp only [validateLocalIdentity]
  split
  · exact .nothing
  rename_i credentials hcred
  have hload : env.loadCredentials props = some credentials := (Option.filter_eq_some_iff.1 hcred).1
  split
  · exact .nothing
  rename_i hsign
  split
  · exact .nothing
  rename_i hkem
  split
  · exact .provider _
  · split
    · exact .provider _
    · exact .localIdentity _ _ _ hload (by simpa using hsign) (by simpa using hkem)

theorem validateRemoteIdentity_effect (rh : Handle) (lt rt : Token α) (lh : Handle) (it : Token α) (g : Guid) :
    Effect env amb s (.validateRemoteIdentity rh lt rt lh it g)
      (validateRemoteIdentity env amb s rh lt rt lh it g).2
      (validateRemoteIdentity env amb s rh lt rt lh it g).1.events := by
  simp only [validateRemoteIdentity]
  split
  · exact .nothing
  rename_i l _
  split
  · exact .nothing
  split
  · rename_i p r hfind
    split
    · exact .nothing
    · obtain ⟨r', hst, hfr, hev⟩ := receiveAuthRequest_spec s p r rh lt rt l.guid
      rw [hst]
      refine .remoteKnown ?_ hfr hev
      split at hfind
      · exact hfind
      · cases hfind
  · split
    · exact .nothing
    · rename_i challenge hnonce
      generalize hr : RemoteIdentity.mk lh g _ _ challenge [] false = r
      obtain ⟨r', hst, hfr, hev⟩ := receiveAuthRequest_spec (s.addRemote r) s.remoteHeap.length r
        s.nextHandle lt rt l.guid
      subst hr
      rw [hst, setRemote_addRemote]
      refine .remoteNew hnonce hfr.localChallenge hfr.localHandle hfr.guid hfr.localAuthRequest ?_
      rw [hfr.localAuthRequest]
      exact hev

theorem exec_effect (op : Op α) : Effect env amb s op (exec env s (op, amb)).1 (exec env s (op, amb)).2 := by
  cases op with
  | validateLocalIdentity h props cand => exact validateLocalIdentity_effect h props cand
  | getIdentityToken token h =>
    simp only [exec]
    split
    · exact .identityToken ‹_›
    · exact .nothing
  | setPermissionsCredentialAndToken h credential =>
    simp only [exec, stateOr]
    split
    · rename_i s' hs'
      simp only [setPermissionsCredentialAndToken, bind_ok, need_ok, pure_ok, Prod.exists] at hs'
      obtain ⟨p, l, hl, perms, hp, rfl⟩ := hs'
      exact .permissions hl hp
    · exact .nothing
  | validateRemoteIdentity rh lt rt lh it g => exact validateRemoteIdentity_effect rh lt rt lh it g
  | beginHandshakeRequest h m ih rh pd =>
    simp only [exec, beginHandshakeRequest]
    split
    · exact .nothing
    · rename_i hnil
      obtain rfl : h = 0 := by simpa using hnil
      split
      · exact .nothing
      · exact .request ‹_›
  | beginHandshakeReply h m ih rh pd =>
    simp only [exec, beginHandshakeReply]
    split
    · exact .nothing
    · rename_i hnil
      obtain rfl : h = 0 := by simpa using hnil
      split
      · exact .nothing
      · exact .reply ‹_›
  | processHandshake out inp h =>
    simp only [exec, processHandshake]
    split
    · exact .nothing
    · split
      · exact .nothing
      · exact .process ‹_› ‹_›
  | getSharedSecret h => exact .nothing
  | getAuthenticatedPeerCredentialToken token h => exact .nothing
  | returnHandshakeHandle h =>
    simp only [exec, stateOr]
    split
    · rename_i s' hs'
      simp only [returnHandshakeHandle, bind_ok, pure_ok] at hs'
      obtain ⟨-, -, rfl⟩ := hs'
      exact .forgetHandshake
    · exact .nothing
  | returnIdentityHandle h =>
    simp only [exec, returnIdentityHandle]
    split
    · exact .forgetLocal
    · split
      · exact .forgetRemote
      · exact .nothing

end

end PqsecDds.OpenDDS
