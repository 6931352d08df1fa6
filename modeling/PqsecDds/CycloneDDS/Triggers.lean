import PqsecDds.CycloneDDS.Secrets
import PqsecDds.Lib.Timers

/-!
# Expiry triggers

An identity keeps the number of its armed trigger. Each call arms, clears or removes at most one, so the identities and
the dispatcher agree in every reachable state.
-/

namespace PqsecDds.CycloneDDS

open Lib Context

variable {κ ρ : Type} {env : Env κ ρ} {amb : Ambient ρ} {s s' : Authentication κ} {h l r a : Handle}
variable {c c' : Context κ} {hs : HandshakeInfo κ} {inp : Token}

namespace Authentication

/-- What the identity at a handle keeps. -/
def timerOf (s : Authentication κ) (x : Handle) : Option Nat :=
  ((s.localIdentity x).map (·.timer)).or ((s.remoteIdentity x).map (·.timer))

/-- The identities and the dispatcher agree on the triggers. -/
def TimersMatch (s : Authentication κ) : Prop := Matches s.timerOf s.dispatcher

end Authentication

open Authentication

theorem timerOf_remoteIdentity {remote : RemoteIdentityInfo} (hr : s.remoteIdentity r = some remote) :
    s.timerOf r = some remote.timer := by
  simp [timerOf, localIdentity_of_remoteIdentity hr, hr]

theorem timerOf_localIdentity {identity : LocalIdentityInfo} (hl : s.localIdentity l = some identity) :
    s.timerOf l = some identity.timer := by
  simp [timerOf, hl]

theorem timerOf_handshake (hh : s.handshake h = some hs) : s.timerOf h = none := by
  simp [timerOf, localIdentity_of_handshake hh, remoteIdentity_of_handshake hh]

/-! ## What the calls do to the timers -/

theorem timerOf_removeObject (s : Authentication κ) (h : Handle) :
    (s.removeObject h).timerOf = Function.update s.timerOf h none := by
  funext x
  simp only [timerOf, localIdentity_removeObject, remoteIdentity_removeObject, Function.update_apply]
  by_cases hx : x = h
  · simp [hx]
  · simp [hx]

theorem timerOf_removeHandshake (hh : s.handshake h = some hs) : (s.removeObject h).timerOf = s.timerOf := by
  rw [timerOf_removeObject, ← timerOf_handshake hh, Function.update_eq_self]

theorem timerOf_eq {t : Authentication κ} (hl : ∀ x, t.localIdentity x = s.localIdentity x)
    (hr : ∀ x, (t.remoteIdentity x).map (·.timer) = (s.remoteIdentity x).map (·.timer)) : t.timerOf = s.timerOf := by
  funext x
  simp only [timerOf, hl, hr]

theorem timerOf_withoutRelation (s : Authentication κ) (l r : Handle) : (s.withoutRelation l r).timerOf = s.timerOf := by
  unfold withoutRelation
  split
  · rfl
  · rename_i remote hr
    split
    · rfl
    · have hnl := localIdentity_of_remoteIdentity hr
      refine timerOf_eq (fun x => ?_) (fun x => ?_)
      · change (s.putObject r _).localIdentity x = _
        rw [localIdentity_putObject]
        grind [SecurityObject.asLocal]
      · change ((s.putObject r _).remoteIdentity x).map _ = _
        rw [remoteIdentity_putObject]
        grind [SecurityObject.asRemote]

theorem timerOf_invalidatePair (s : Authentication κ) (l r : Handle) : (s.invalidatePair l r).timerOf = s.timerOf := by
  rw [invalidatePair_eq, timerOf_withoutRelation]
  unfold withoutHandshake
  split
  · rename_i h hfind
    obtain ⟨hs, hh, -⟩ := findHandshake_some hfind
    exact timerOf_removeHandshake hh
  · rfl

theorem dispatcher_invalidatePair (s : Authentication κ) (l r : Handle) :
    (s.invalidatePair l r).dispatcher = s.dispatcher := by
  rw [invalidatePair_eq]
  unfold withoutRelation withoutHandshake
  split <;> split
  all_goals first | rfl | (split <;> rfl)

theorem foldl_timers {α : Type} {f : Authentication κ → α → Authentication κ}
    (hf : ∀ s x, (f s x).timerOf = s.timerOf ∧ (f s x).dispatcher = s.dispatcher) (xs : List α) :
    ∀ s, (xs.foldl f s).timerOf = s.timerOf ∧ (xs.foldl f s).dispatcher = s.dispatcher := by
  induction xs with
  | nil => exact fun _ => ⟨rfl, rfl⟩
  | cons x xs ih =>
    intro s
    obtain ⟨h₁, h₂⟩ := ih (f s x)
    obtain ⟨h₁', h₂'⟩ := hf s x
    exact ⟨h₁.trans h₁', h₂.trans h₂'⟩

theorem dispatcher_removeTimer (s : Authentication κ) (timer : Nat) :
    (s.removeTimer timer).dispatcher = if timer = 0 then s.dispatcher else s.dispatcher.erase timer := by
  unfold removeTimer
  split <;> rfl

theorem timerOf_removeTimer (s : Authentication κ) (timer : Nat) : (s.removeTimer timer).timerOf = s.timerOf := by
  unfold removeTimer
  split <;> rfl

/-- Returning an identity takes it and its trigger away. -/
theorem returnIdentity_timersMatch {obj : SecurityObject κ} (hT : s.TimersMatch) (hobj : s.objectHash.lookup h = some obj)
    (hidentity : obj.asHandshake = none) : (s.returnIdentity h obj).TimersMatch := by
  cases obj with
  | localIdentity identity =>
    have hl : s.localIdentity h = some identity := by simp [Authentication.localIdentity, hobj, SecurityObject.asLocal]
    obtain ⟨h₁, h₂⟩ := foldl_timers (f := fun s e => if e.2.asRemote.isSome then s.invalidatePair h e.1 else s)
      (fun s e => by
        split
        · exact ⟨timerOf_invalidatePair s h e.1, dispatcher_invalidatePair s h e.1⟩
        · exact ⟨rfl, rfl⟩) (s.removeTimer identity.timer).objectHash.entries (s.removeTimer identity.timer)
    unfold TimersMatch
    have htimers : (s.returnIdentity h (.localIdentity identity)).timerOf = Function.update s.timerOf h none := by
      rw [returnIdentity, timerOf_removeObject]
      change Function.update (invalidateLocal _ h).timerOf h none = _
      rw [invalidateLocal, h₁, timerOf_removeTimer]
    have htriggers : (s.returnIdentity h (.localIdentity identity)).dispatcher =
        if identity.timer = 0 then s.dispatcher else s.dispatcher.erase identity.timer :=
      h₂.trans (dispatcher_removeTimer s identity.timer)
    rw [htimers, htriggers]
    exact hT.disarm (timerOf_localIdentity hl) (.inl rfl)
  | remoteIdentity identity =>
    have hr : s.remoteIdentity h = some identity := by simp [Authentication.remoteIdentity, hobj, SecurityObject.asRemote]
    obtain ⟨h₁, h₂⟩ := foldl_timers (f := fun s (e : Σ _ : Handle, Handle) => s.invalidatePair e.1 h)
      (fun s e => ⟨timerOf_invalidatePair s e.1 h, dispatcher_invalidatePair s e.1 h⟩) identity.linkHash.entries
      (s.removeTimer identity.timer)
    unfold TimersMatch
    have htimers : (s.returnIdentity h (.remoteIdentity identity)).timerOf = Function.update s.timerOf h none := by
      change (removeObject (invalidateRemote _ h identity) h).timerOf = _
      rw [timerOf_removeObject, invalidateRemote, h₁, timerOf_removeTimer]
    have htriggers : (s.returnIdentity h (.remoteIdentity identity)).dispatcher =
        if identity.timer = 0 then s.dispatcher else s.dispatcher.erase identity.timer :=
      h₂.trans (dispatcher_removeTimer s identity.timer)
    rw [htimers, htriggers]
    exact hT.disarm (timerOf_remoteIdentity hr) (.inl rfl)
  | handshake hs => cases hidentity

theorem timerOf_moved {left : Option (HandshakeInfo κ)} (hm : Moved s h c c' left s') (hp : Points s c)
    (hl : c'.localIdentity.timer = c.localIdentity.timer) :
    s'.timerOf = Function.update s.timerOf c.relation.remoteIdentity (some c'.remoteIdentity.timer) := by
  have hlocal := hp.localIdentity
  have hnl := localIdentity_of_remoteIdentity hp.remoteIdentity
  funext x
  simp only [timerOf, hm.localIdentity, hm.remoteIdentity, Function.update_apply]
  grind

theorem timerOf_clearTimer (hx : s.timerOf h ≠ none) :
    (s.clearTimer h).timerOf = Function.update s.timerOf h (some 0) := by
  funext x
  simp only [timerOf, clearTimer_localIdentity, clearTimer_remoteIdentity, Function.update_apply] at hx ⊢
  by_cases hxh : x = h
  · subst hxh
    rcases hl : s.localIdentity x with _ | identity
    · rcases hr : s.remoteIdentity x with _ | remote
      · simp [hl, hr] at hx
      · simp
    · simp
  · simp [hxh]

theorem frame_timers (hframe : c.Frame c') :
    c'.localIdentity.timer = c.localIdentity.timer ∧ c'.remoteIdentity.timer = c.remoteIdentity.timer := by
  obtain ⟨pdata, hl⟩ := hframe.localIdentity
  exact ⟨by rw [hl], hframe.timer⟩

/-- An operation that leaves the timers of its objects alone. -/
theorem Moved.timersMatch {left : Option (HandshakeInfo κ)} (hm : Moved s h c c' left s') (hp : Points s c)
    (hframe : c.Frame c') (hd : s'.dispatcher = s.dispatcher) (hT : s.TimersMatch) : s'.TimersMatch := by
  obtain ⟨hl, hr⟩ := frame_timers hframe
  unfold TimersMatch
  rw [timerOf_moved hm hp hl, hr, hd, ← timerOf_remoteIdentity hp.remoteIdentity, Function.update_eq_self]
  exact hT

/-- `watchExpiry` arms a trigger if there is none. -/
theorem Moved.timersMatch_watched {left : Option (HandshakeInfo κ)} {certExp : Int} (ha : Allocates amb s)
    (hm : Moved s h c (c'.watched amb certExp) left s') (hp : Points s c) (hframe : c.Frame c')
    (hd : s'.dispatcher = watchedTriggers amb certExp c' s.dispatcher) (hT : s.TimersMatch) : s'.TimersMatch := by
  obtain ⟨hl, hr⟩ := frame_timers hframe
  by_cases harm : certExp ≠ ddsNever ∧ c'.remoteIdentity.timer = 0
  · rw [watchedTriggers, if_pos harm] at hd
    rw [Context.watched, if_pos harm] at hm
    unfold TimersMatch
    rw [timerOf_moved hm hp hl, hd, hframe.remoteHandle]
    refine hT.arm (.inr ?_) ha.timer_ne_zero ha.timer
    rw [timerOf_remoteIdentity hp.remoteIdentity, ← hr, harm.2]
  · rw [watchedTriggers, if_neg harm] at hd
    rw [Context.watched, if_neg harm] at hm
    exact hm.timersMatch hp hframe hd hT

theorem LocalPut.timerOf {identity : LocalIdentityInfo} (hput : LocalPut s l identity s') :
    s'.timerOf = Function.update s.timerOf l (some identity.timer) := by
  funext x
  simp only [Authentication.timerOf, hput.localIdentity, hput.remoteIdentity, Function.update_apply]
  by_cases hx : x = l
  · simp [hx]
  · simp [hx]

theorem timerOf_fresh (ha : Allocates amb s) : s.timerOf amb.object = none := by
  simp [timerOf, localIdentity_fresh ha, remoteIdentity_fresh ha]

theorem LocalMade.timersMatch {qos : Qos} {candidate : Guid} {identity : LocalIdentityInfo} {certExpiry : Int}
    (ha : Allocates amb s) (hmade : LocalMade env amb s qos candidate identity certExpiry s') (hT : s.TimersMatch) :
    s'.TimersMatch := by
  have htimer := congrArg LocalIdentityInfo.timer hmade.made
  simp only at htimer
  unfold TimersMatch
  rw [hmade.put.timerOf, hmade.dispatcher, htimer]
  by_cases hnever : certExpiry = ddsNever
  · rw [if_pos hnever, if_pos hnever]
    exact hT.add (timerOf_fresh ha)
  · rw [if_neg hnever, if_neg hnever]
    exact hT.arm (.inl (timerOf_fresh ha)) ha.timer_ne_zero ha.timer

theorem RemoteSeen.timersMatch {request : Option Token} {token : Token} {guid : Guid} {remote : RemoteIdentityInfo}
    {relation : IdentityRelation} {rchallenge : Option Challenge} (ha : Allocates amb s)
    (hseen : RemoteSeen env amb s request l token guid r a remote relation rchallenge s') (hT : s.TimersMatch) :
    s'.TimersMatch := by
  unfold TimersMatch
  rw [hseen.dispatcher]
  obtain ⟨lchallenge, -, hsight⟩ := hseen.sighting
  have hsame : ∀ old, s.remoteIdentity r = some old → remote.timer = old.timer → s'.timerOf = s.timerOf := by
    intro old hold htimer
    refine timerOf_eq hseen.localIdentity fun x => ?_
    rw [hseen.remoteIdentity]
    grind
  cases hsight with
  | made new =>
    have hnew : s'.timerOf = Function.update s.timerOf amb.object (some 0) := by
      have hfresh := localIdentity_fresh ha
      funext x
      simp only [timerOf, hseen.localIdentity, hseen.remoteIdentity, Function.update_apply]
      grind
    rw [hnew]
    exact hT.add (timerOf_fresh ha)
  | linked known object unlinked =>
    rw [hsame _ object rfl]
    exact hT
  | known known object linked pointer =>
    rw [hsame _ object rfl]
    exact hT

/-! ## Runs -/

theorem Effect.timersMatch {op : Op} (he : Effect env amb s op s') (hT : s.TimersMatch) : s'.TimersMatch := by
  cases he with
  | same => exact hT
  | trustedCas named => exact hT
  | localMade ha made => exact made.timersMatch ha hT
  | permissionsSet set =>
    obtain ⟨identity, hl, hput⟩ := set.put
    unfold TimersMatch
    rw [hput.timerOf, set.dispatcher, ← timerOf_localIdentity hl, Function.update_eq_self]
    exact hT
  | remoteSeen ha seen => exact seen.timersMatch ha hT
  | request ha hrx on => exact on.moved.timersMatch on.points (makeRequest_frame.result on.run) on.dispatcher hT
  | reply ha hrx on => exact on.moved.timersMatch on.points (makeReply_frame.result on.run) on.dispatcher hT
  | @process _ _ _ _ rx _ ha hrx on =>
    have hframe : Context.Frame _ _ := processToken_frame.result on.run
    cases rx with
    | error e =>
      obtain ⟨hm, hd⟩ := on.failed e rfl
      exact hm.timersMatch on.points hframe hd hT
    | ok v =>
      obtain ⟨hm, hd⟩ := on.ok v.1 v.2 rfl
      exact hm.timersMatch_watched ha on.points hframe hd hT
  | handshakeReturned handshake =>
    obtain ⟨hs, hh⟩ := Option.isSome_iff_exists.1 handshake
    unfold TimersMatch
    rw [timerOf_removeHandshake hh]
    exact hT
  | identityReturned lookup identity => exact returnIdentity_timersMatch hT lookup identity
  | @callback timer h expiry armed =>
    obtain ⟨ht, htimer⟩ := (hT timer h).1 ⟨expiry, armed⟩
    unfold TimersMatch
    have hd : ({ s with dispatcher := s.dispatcher.erase timer }.clearTimer h).dispatcher = s.dispatcher.erase timer := by
      unfold clearTimer
      split <;> rfl
    have htimers := timerOf_clearTimer (s := { s with dispatcher := s.dispatcher.erase timer }) (h := h)
      (fun hnone => by
        rw [show s.timerOf h = none from hnone] at htimer
        cases htimer)
    rw [htimers, hd]
    have hdisarm := hT.disarm htimer (.inr rfl)
    rw [if_neg ht] at hdisarm
    exact hdisarm

theorem run_timersMatch {tr : Trace (Authentication κ) (Op × Ambient ρ)} (hr : Run (plugin env).solo tr s) :
    s.TimersMatch := by
  refine hr.state_inv ?_ ?_
  · rintro s ⟨optional, kem, rfl⟩
    exact Matches.empty
  · rintro s ⟨op, amb⟩ s' hT ⟨-, rfl⟩
    exact (exec_effect s op amb).timersMatch hT

/-! ## The certificate of a completed handshake -/

/-- The certificate that a token authenticates: a Reply brings it, for a Final it is the one of the Request. -/
def Context.peerCertificate (env : Env κ ρ) (inp : Token) (c : Context κ) : Option X509 :=
  match c.handshake.createdIn with
  | .createdRequest => env.pemReadX509 (inp.value "c.id")
  | .createdReply => c.remoteIdentity.identityCert

theorem loadX509CertificateFromBinprop_ok {prop : BinaryProperty} {ca cert : X509} {crl : Option X509Crl}
    {trusted : List X509} (h : loadX509CertificateFromBinprop env amb prop ca crl trusted = .ok cert) :
    env.pemReadX509 prop.value = some cert := by
  simp only [loadX509CertificateFromBinprop, bind_ok] at h
  obtain ⟨-, -, cert', hload, h⟩ := h
  have hcert : cert' = cert := by
    split at h
    all_goals
      simp only [bind_ok, pure_ok] at h
      obtain ⟨-, -, -, -, h⟩ := h
      exact h
  rw [← hcert]
  exact (loadX509CertificateFromBio_ok hload).1

theorem processToken_certificate {optional : Bool} {trusted : List X509} {result : HandshakeResult} {certExp : Int}
    (hrun : processToken env amb optional trusted inp c = (.ok (result, certExp), c')) :
    ∃ cert, c.peerCertificate env inp = some cert ∧ c'.remoteIdentity.identityCert = some cert ∧
      certExp = getCertificateExpiry amb cert := by
  rcases processToken_ok hrun with
    ⟨out, signed, cert, key, keypair, ss, -, hstep, c₁, hacc, c₂, hfin, hdone⟩ | ⟨-, cert, key, hstep, hacc, hdone⟩
  · obtain ⟨⟨ss', challenge1, challenge2, -, -, -, rfl⟩, cert', hcert', hexp, -⟩ := hdone
    obtain rfl := hfin.state
    have hstored : c₁.remoteIdentity.identityCert = some cert := hacc.verified.stored
    obtain rfl := Option.some.inj (hstored.symm.trans hcert')
    refine ⟨cert, ?_, hcert', hexp⟩
    simp only [peerCertificate, hstep]
    exact loadX509CertificateFromBinprop_ok hacc.credentials.loaded
  · obtain ⟨⟨ss, challenge1, challenge2, -, -, -, rfl⟩, cert', hcert', hexp, -⟩ := hdone
    refine ⟨cert', ?_, hcert', hexp⟩
    simp only [peerCertificate, hstep]
    exact hcert'

namespace Authentication

/-- A trigger of the remote identity is armed, due no later than `expiry`. -/
def Watched (s : Authentication κ) (r : Handle) (expiry : Int) : Prop :=
  ∃ timer due, s.dispatcher.lookup timer = some (r, due) ∧ due ≤ expiry

/-- No trigger of the remote identity is armed. -/
def Unwatched (s : Authentication κ) (r : Handle) : Prop := ∀ timer due, s.dispatcher.lookup timer ≠ some (r, due)

end Authentication

/-- A handshake completes with its peer watched, unless a later trigger was armed before. -/
theorem watched_iff {certExp : Int} (hT : s.TimersMatch) (hp : Points s c) (hframe : c.Frame c')
    (hd : s'.dispatcher = watchedTriggers amb certExp c' s.dispatcher) (hnever : certExp ≠ ddsNever) :
    s'.Watched c.relation.remoteIdentity certExp ↔
      s.Unwatched c.relation.remoteIdentity ∨ s.Watched c.relation.remoteIdentity certExp := by
  have htimer := timerOf_remoteIdentity hp.remoteIdentity
  rw [← (frame_timers hframe).2] at htimer
  by_cases hzero : c'.remoteIdentity.timer = 0
  · rw [watchedTriggers, if_pos ⟨hnever, hzero⟩, hframe.remoteHandle] at hd
    rw [hzero] at htimer
    constructor
    · rintro -
      exact .inl fun t due => hT.unarmed (.inr htimer)
    · rintro -
      exact ⟨amb.timer, certExp, by rw [hd, AList.lookup_insert], Int.le_refl _⟩
  · rw [watchedTriggers, if_neg fun h => hzero h.2] at hd
    obtain ⟨due, harmed⟩ := (hT _ _).2 ⟨hzero, htimer⟩
    unfold Watched
    rw [hd]
    constructor
    · exact .inr
    · rintro (hnone | hwatched)
      · exact absurd harmed (hnone _ _)
      · exact hwatched

/-- **Expiry of the authenticated certificate.** In a reachable state `process_handshake` accepts a token. The
certificate with whose key the signature verified is then watched, if it expires at all, exactly if the remote identity
had no armed trigger before or one that is due no later. -/
theorem expiry_watched (env : Env κ ρ) {tr : Trace (Authentication κ) (Op × Ambient ρ)} {s s' : Authentication κ}
    (hr : Run (plugin env).solo tr s) {amb : Ambient ρ} {m : Token} {h : Handle} {result : HandshakeResult}
    (hrun : processHandshake env amb m h s = (.ok result, s')) :
    ∃ c cert, s.context h = some c ∧ c.peerCertificate env m = some cert ∧
      (∃ c' key, s'.context h = some c' ∧
        Verified env c' (c'.transcript s.includeOptional m) (m.value "signature") cert key) ∧
      ((getCertificateExpiry amb cert ≠ ddsNever →
          s'.Watched c.relation.remoteIdentity (getCertificateExpiry amb cert)) ↔
        getCertificateExpiry amb cert = ddsNever ∨ s.Unwatched c.relation.remoteIdentity ∨
          s.Watched c.relation.remoteIdentity (getCertificateExpiry amb cert)) := by
  rcases processHandshake_cases hrun (by simp) with ⟨⟨e, he⟩, -⟩ | ⟨c, c', rx, hres, hon⟩
  · cases he
  rcases rx with e | ⟨v, certExp⟩
  · cases hres
  have hframe : c.Frame c' := processToken_frame.result hon.run
  obtain ⟨cert, hpeer, hstored, rfl⟩ := processToken_certificate hon.run
  obtain ⟨x, hacc⟩ := processToken_accepted hon.run
  obtain ⟨cert', key, hv⟩ := hacc.verified
  obtain rfl := Option.some.inj (hv.stored.symm.trans hstored)
  obtain ⟨timer, hcontext⟩ := hon.context
  refine ⟨c, cert', context_eq_some.2 ⟨hon.handshake, hon.points⟩, hpeer, ⟨_, key, hcontext, hv.stored, hv.pubkey,
    hv.canSign, hv.verify⟩, ?_⟩
  by_cases hnever : getCertificateExpiry amb cert' = ddsNever
  · exact ⟨fun _ => .inl hnever, fun _ hne => absurd hnever hne⟩
  · have hiff := watched_iff (run_timersMatch hr) hon.points hframe (hon.ok _ _ rfl).2 hnever
    constructor
    · exact fun hw => .inr (hiff.1 (hw hnever))
    · rintro (heq | hcond) -
      · exact absurd heq hnever
      · exact hiff.2 hcond

/-! ## A renewed certificate

Bob completes a handshake with a certificate, then another one with a certificate that expires earlier. -/

namespace Ideal

/-- Participant 5 with a certificate of that lifetime answers the Request. -/
def replyWith (lifetime : UInt8) (request : Token) : Token :=
  replyOf (after start [(.validateLocalIdentity { qos 5 with identityCertificate := item [5, 0, 9, lifetime] } (candidate 5),
    ambient 1), remoteCall none 3]) 10 request 5

def firstCalls : List SampleCall := initiatorCalls.dropLast ++ [processCall 11 (replyWith 2 request) 10]

def secondRequest : Token := requestOf (after start firstCalls) 12 3

def renewedCalls : List SampleCall := firstCalls ++ [requestCall 12 3]

def renewed : State := after start renewedCalls

/-- What is armed for the remote identity of participant 5. -/
def armed (s : State) : List Int := (s.dispatcher.entries.filter (·.2.1 = 2)).map (·.2.2)

theorem mem_armed {s : State} {timer : Nat} {due : Int} (h : s.dispatcher.lookup timer = some (2, due)) : due ∈ armed s :=
  List.mem_map.2 ⟨⟨timer, 2, due⟩,
    List.mem_filter.2 ⟨AList.mem_lookup_iff.1 (Option.mem_def.2 h), decide_eq_true rfl⟩, rfl⟩

/-- The remote identity of the handshake 10, and when the certificate it authenticates with `m` expires. -/
def peer (amb : Ambient UInt8) (m : Token) (s : State) : Option (Handle × Option Int) :=
  (s.context 10).map fun c => (c.relation.remoteIdentity, (c.peerCertificate Ideal.env m).map (getCertificateExpiry amb))

theorem peer_some {n : UInt8} {m : Token} {s : State} {r : Handle} {expiry : Int}
    (h : peer (ambient n) m s = some (r, some expiry)) : ∃ c cert, s.context 10 = some c ∧
      c.peerCertificate Ideal.env m = some cert ∧ c.relation.remoteIdentity = r ∧
        getCertificateExpiry (ambient n) cert = expiry := by
  obtain ⟨c, hc, heq⟩ := Option.map_eq_some_iff.1 h
  obtain ⟨hr, hcert⟩ := Prod.mk.inj heq
  obtain ⟨cert, hcert, hexp⟩ := Option.map_eq_some_iff.1 hcert
  exact ⟨c, cert, hc, hcert, hr, hexp⟩

end Ideal

/-- Alice completes the second handshake, and the trigger for Bob is due after his new certificate expires. -/
theorem expiry_watched_fails : ∃ tr c cert result s', Run (plugin Ideal.env).solo tr Ideal.renewed ∧
    processHandshake Ideal.env (Ideal.ambient 13) (Ideal.replyWith 1 Ideal.secondRequest) 10 Ideal.renewed =
      (.ok result, s') ∧
    Ideal.renewed.context 10 = some c ∧ c.peerCertificate Ideal.env (Ideal.replyWith 1 Ideal.secondRequest) = some cert ∧
    getCertificateExpiry (Ideal.ambient 13) cert ≠ ddsNever ∧
    ¬ s'.Watched c.relation.remoteIdentity (getCertificateExpiry (Ideal.ambient 13) cert) := by
  have hpeer : Ideal.peer (Ideal.ambient 13) (Ideal.replyWith 1 Ideal.secondRequest) Ideal.renewed =
      some (2, some 1001000000000) := by
    decide +kernel
  have hok : (processHandshake Ideal.env (Ideal.ambient 13) (Ideal.replyWith 1 Ideal.secondRequest) 10
      Ideal.renewed).1.isOk ∧ Ideal.armed (processHandshake Ideal.env (Ideal.ambient 13)
        (Ideal.replyWith 1 Ideal.secondRequest) 10 Ideal.renewed).2 = [1002000000000] := by
    decide +kernel
  obtain ⟨c, cert, hc, hcert, hr, hexp⟩ := Ideal.peer_some hpeer
  rcases hrun : processHandshake Ideal.env (Ideal.ambient 13) (Ideal.replyWith 1 Ideal.secondRequest) 10
    Ideal.renewed with ⟨res, s'⟩
  rw [hrun] at hok
  obtain ⟨hok, harmed⟩ := hok
  cases res with
  | error e => cases hok
  | ok result =>
    refine ⟨_, c, cert, result, s', Ideal.calls_run true .mlKem512 Ideal.renewedCalls, rfl, hc, hcert, ?_, ?_⟩
    · rw [hexp]
      decide
    · rw [hr, hexp]
      rintro ⟨timer, due, hlookup, hdue⟩
      have hmem := Ideal.mem_armed hlookup
      rw [harmed, List.mem_singleton] at hmem
      omega

theorem expiry_watched_sample : ∃ result s',
    processHandshake Ideal.env (Ideal.ambient 11) Ideal.reply 10 (Ideal.after Ideal.start Ideal.initiatorCalls.dropLast) =
      (.ok result, s') ∧ s'.Watched 2 1001000000000 := by
  have hpeer : Ideal.peer (Ideal.ambient 11) Ideal.reply (Ideal.after Ideal.start Ideal.initiatorCalls.dropLast) =
      some (2, some 1001000000000) := by
    decide +kernel
  have hok : (processHandshake Ideal.env (Ideal.ambient 11) Ideal.reply 10
      (Ideal.after Ideal.start Ideal.initiatorCalls.dropLast)).1.isOk ∧
      Ideal.armed (Ideal.after Ideal.start Ideal.initiatorCalls.dropLast) = [] := by
    decide +kernel
  obtain ⟨c, cert, hc, hcert, hr, hexp⟩ := Ideal.peer_some hpeer
  rcases hrun : processHandshake Ideal.env (Ideal.ambient 11) Ideal.reply 10
    (Ideal.after Ideal.start Ideal.initiatorCalls.dropLast) with ⟨res, s'⟩
  rw [hrun] at hok
  obtain ⟨hok, harmed⟩ := hok
  cases res with
  | error e => cases hok
  | ok result =>
    obtain ⟨c', cert', hc', hcert', -, hiff⟩ := expiry_watched Ideal.env
      (Ideal.calls_run true .mlKem512 Ideal.initiatorCalls.dropLast) hrun
    obtain rfl := Option.some.inj (hc.symm.trans hc')
    obtain rfl := Option.some.inj (hcert.symm.trans hcert')
    rw [hr, hexp] at hiff
    refine ⟨result, s', rfl, hiff.2 (.inr (.inl fun timer due hlookup => ?_)) (by decide)⟩
    have hmem : due ∈ Ideal.armed (Ideal.after Ideal.start Ideal.initiatorCalls.dropLast) := Ideal.mem_armed hlookup
    rw [harmed] at hmem
    cases hmem

end PqsecDds.CycloneDDS
