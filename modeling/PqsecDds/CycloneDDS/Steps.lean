import PqsecDds.CycloneDDS.Calls
import PqsecDds.CycloneDDS.Messages
import PqsecDds.Lib.Parties

/-!
# What a call of the plugin does

| here | meaning |
|---|---|
| `Shrunk s s'` | objects, links and triggers have gone, what is left is as it was |
| `Effect s op s'` | everything a call can do to the state |
| `plugin` | one instance of the plugin |
| `Touches` | a call on a handshake, with the context before and after |

`exec_effect` says that `exec` does nothing else. Invariants are proved over the cases of `Effect`.
-/

namespace PqsecDds.CycloneDDS

open Lib

variable {κ ρ : Type} {env : Env κ ρ} {amb : Ambient ρ} {s s' : Authentication κ} {h h' l r a : Handle}
variable {s₁ : Authentication κ} {c c' : Context κ} {hs : HandshakeInfo κ}

/-! ## What is left when objects go -/

/-- The two halves of `invalidatePair`. -/
def Authentication.withoutHandshake (s : Authentication κ) (l r : Handle) : Authentication κ :=
  match s.findHandshake l r with
  | some h => s.removeObject h
  | none => s

def Authentication.withoutRelation (s : Authentication κ) (l r : Handle) : Authentication κ :=
  match s.remoteIdentity r with
  | none => s
  | some remote =>
    match remote.linkHash.lookup l with
    | none => s
    | some a => { s.putObject r (.remoteIdentity { remote with linkHash := remote.linkHash.erase l }) with
        relations := s.relations.erase a }

theorem invalidatePair_eq : s.invalidatePair l r = (s.withoutHandshake l r).withoutRelation l r := rfl

/-- Objects and triggers have gone and links with them; what is left is as it was. -/
structure Shrunk (s s' : Authentication κ) : Prop where
  localIdentity : ∀ l x, s'.localIdentity l = some x → s.localIdentity l = some x
  remoteIdentity : ∀ r x, s'.remoteIdentity r = some x → ∃ linkHash, s.remoteIdentity r = some { x with linkHash }
  handshake : ∀ h x, s'.handshake h = some x → s.handshake h = some x
  relation : ∀ a x, s'.relation a = some x → s.relation a = some x
  dispatcher : ∀ t x, s'.dispatcher.lookup t = some x → s.dispatcher.lookup t = some x
  trustedCaList : s'.trustedCaList = s.trustedCaList
  includeOptional : s'.includeOptional = s.includeOptional
  kem : s'.kem = s.kem

namespace Shrunk

theorem refl (s : Authentication κ) : Shrunk s s :=
  ⟨fun _ _ h => h, fun _ x h => ⟨x.linkHash, h⟩, fun _ _ h => h, fun _ _ h => h, fun _ _ h => h, rfl, rfl, rfl⟩

theorem trans {s₂ : Authentication κ} (h : Shrunk s s₁) (h' : Shrunk s₁ s₂) : Shrunk s s₂ where
  localIdentity l x hx := h.localIdentity l x (h'.localIdentity l x hx)
  remoteIdentity r x hx := by
    obtain ⟨linkHash, hx⟩ := h'.remoteIdentity r x hx
    obtain ⟨linkHash', hx⟩ := h.remoteIdentity r _ hx
    exact ⟨linkHash', hx⟩
  handshake a x hx := h.handshake a x (h'.handshake a x hx)
  relation a x hx := h.relation a x (h'.relation a x hx)
  dispatcher t x hx := h.dispatcher t x (h'.dispatcher t x hx)
  trustedCaList := h'.trustedCaList.trans h.trustedCaList
  includeOptional := h'.includeOptional.trans h.includeOptional
  kem := h'.kem.trans h.kem

theorem removeObject (s : Authentication κ) (h : Handle) : Shrunk s (s.removeObject h) where
  localIdentity l x hx := by
    rw [localIdentity_removeObject] at hx
    grind
  remoteIdentity r x hx := by
    rw [remoteIdentity_removeObject] at hx
    split at hx
    · cases hx
    · exact ⟨x.linkHash, hx⟩
  handshake a x hx := by
    rw [handshake_removeObject] at hx
    grind
  relation _ _ hx := hx
  dispatcher _ _ hx := hx
  trustedCaList := rfl
  includeOptional := rfl
  kem := rfl

theorem eraseTrigger (s : Authentication κ) (timer : Nat) :
    Shrunk s { s with dispatcher := s.dispatcher.erase timer } := by
  refine ⟨fun _ _ h => h, fun _ x h => ⟨x.linkHash, h⟩, fun _ _ h => h, fun _ _ h => h, fun t x hx => ?_, rfl, rfl, rfl⟩
  by_cases ht : t = timer
  · subst ht
    rw [AList.lookup_erase] at hx
    cases hx
  · rwa [AList.lookup_erase_ne ht] at hx

theorem removeTimer (s : Authentication κ) (timer : Nat) : Shrunk s (s.removeTimer timer) := by
  unfold Authentication.removeTimer
  split
  · exact refl s
  · exact eraseTrigger s timer

theorem eraseLink {remote : RemoteIdentityInfo} {linkHash : AList fun _ : Handle => Handle}
    (hr : s.remoteIdentity r = some remote) :
    Shrunk s { s.putObject r (.remoteIdentity { remote with linkHash }) with relations := s.relations.erase a } := by
  have hl := localIdentity_of_remoteIdentity hr
  have hh := handshake_of_remoteIdentity hr
  refine ⟨fun x y hx => ?_, fun x y hx => ?_, fun x y hx => ?_, fun x y hx => ?_, fun _ _ h => h, rfl, rfl, rfl⟩
  · change (s.putObject r _).localIdentity x = _ at hx
    rw [localIdentity_putObject] at hx
    grind [SecurityObject.asLocal]
  · change (s.putObject r _).remoteIdentity x = _ at hx
    rw [remoteIdentity_putObject] at hx
    split at hx
    · rename_i hxr
      obtain rfl := Option.some.inj hx
      exact ⟨remote.linkHash, by rw [hxr, hr]⟩
    · exact ⟨y.linkHash, hx⟩
  · change (s.putObject r _).handshake x = _ at hx
    rw [handshake_putObject] at hx
    grind [SecurityObject.asHandshake]
  · change (s.relations.erase a).lookup x = _ at hx
    by_cases hxa : x = a
    · subst hxa
      rw [AList.lookup_erase] at hx
      cases hx
    · rwa [AList.lookup_erase_ne hxa] at hx

theorem invalidatePair (s : Authentication κ) (l r : Handle) : Shrunk s (s.invalidatePair l r) := by
  have hfirst : Shrunk s (s.withoutHandshake l r) := by
    unfold Authentication.withoutHandshake
    split
    · exact removeObject s _
    · exact refl s
  have hsecond : Shrunk (s.withoutHandshake l r) ((s.withoutHandshake l r).withoutRelation l r) := by
    generalize s.withoutHandshake l r = s₁
    unfold Authentication.withoutRelation
    split
    · exact refl s₁
    · rename_i remote hr
      split
      · exact refl s₁
      · exact eraseLink hr
  rw [invalidatePair_eq]
  exact hfirst.trans hsecond

theorem foldl {α : Type} {f : Authentication κ → α → Authentication κ} (hf : ∀ s x, Shrunk s (f s x)) (xs : List α) :
    ∀ s, Shrunk s (xs.foldl f s) := by
  induction xs with
  | nil => exact refl
  | cons x xs ih => exact fun s => (hf s x).trans (ih _)

theorem returnIdentity (s : Authentication κ) (h : Handle) (obj : SecurityObject κ) :
    Shrunk s (s.returnIdentity h obj) := by
  cases obj with
  | localIdentity identity =>
    refine ((removeTimer s _).trans (foldl (fun s e => ?_) _ _)).trans (removeObject _ h)
    split
    · exact invalidatePair s h e.1
    · exact refl s
  | remoteIdentity identity =>
    have hshrunk := ((removeTimer s identity.timer).trans (foldl (fun s e => invalidatePair s e.1 h)
      identity.linkHash.entries _)).trans (removeObject _ h)
    exact ⟨hshrunk.localIdentity, hshrunk.remoteIdentity, hshrunk.handshake, hshrunk.relation, hshrunk.dispatcher,
      hshrunk.trustedCaList, hshrunk.includeOptional, hshrunk.kem⟩
  | handshake hs => exact refl s

end Shrunk

/-! ## All calls -/

/-- What a call can do to the state. -/
inductive Effect (env : Env κ ρ) (amb : Ambient ρ) (s : Authentication κ) : Op → Authentication κ → Prop
  | same (op : Op) : Effect env amb s op s
  | trustedCas {qos : Qos} {candidate : Guid} {cas : List X509}
      (named : trustedCasAfter env amb qos.trustedCaDir s.trustedCaList = .ok cas) :
      Effect env amb s (.validateLocalIdentity qos candidate) { s with trustedCaList := cas }
  | localMade {qos : Qos} {candidate : Guid} {identity : LocalIdentityInfo} {certExpiry : Int} {s' : Authentication κ}
      (ha : Allocates amb s) (made : LocalMade env amb s qos candidate identity certExpiry s') :
      Effect env amb s (.validateLocalIdentity qos candidate) s'
  | permissionsSet {h : Handle} {credential : Token} {document : CStr} {s' : Authentication κ}
      (set : PermissionsSet s h document s') : Effect env amb s (.setPermissionsCredentialAndToken h credential) s'
  | remoteSeen {request : Option Token} {l r a : Handle} {token : Token} {guid : Guid} {remote : RemoteIdentityInfo}
      {relation : IdentityRelation} {rchallenge : Option Challenge} {s' : Authentication κ} (ha : Allocates amb s)
      (seen : RemoteSeen env amb s request l token guid r a remote relation rchallenge s') :
      Effect env amb s (.validateRemoteIdentity request l token guid) s'
  | request {l r h : Handle} {pdata certData : Octets} {c c' : Context κ} {rx : Except Stop Token}
      {s' : Authentication κ} (ha : Allocates amb s) (hrx : ∀ f, rx ≠ .error (.fault f))
      (on : OnHandshake amb s l r .createdRequest (makeRequest env amb s.includeOptional certData pdata) h c c' rx s') :
      Effect env amb s (.beginHandshakeRequest l r pdata) s'
  | reply {inp : Token} {l r h : Handle} {pdata : Octets} {c c' : Context κ} {rx : Except Stop (Token × Signed)}
      {s' : Authentication κ} (ha : Allocates amb s) (hrx : ∀ f, rx ≠ .error (.fault f))
      (on : OnHandshake amb s l r .createdReply (makeReply env amb s.includeOptional s.trustedCaList inp pdata) h c c' rx
        s') : Effect env amb s (.beginHandshakeReply inp r l pdata) s'
  | process {inp : Token} {h : Handle} {c c' : Context κ} {rx : Except Stop (HandshakeResult × Int)}
      {s' : Authentication κ} (ha : Allocates amb s) (hrx : ∀ f, rx ≠ .error (.fault f))
      (on : OnProcess env amb s inp h c c' rx s') : Effect env amb s (.processHandshake inp h) s'
  | handshakeReturned {h : Handle} (handshake : (s.handshake h).isSome) :
      Effect env amb s (.returnHandshakeHandle h) (s.removeObject h)
  | identityReturned {h : Handle} {obj : SecurityObject κ} (lookup : s.objectHash.lookup h = some obj)
      (identity : obj.asHandshake = none) : Effect env amb s (.returnIdentityHandle h) (s.returnIdentity h obj)
  | callback {timer : Nat} {h : Handle} {expiry : Int} (armed : s.dispatcher.lookup timer = some (h, expiry)) :
      Effect env amb s (.validityCallback timer) ({ s with dispatcher := s.dispatcher.erase timer }.clearTimer h)

theorem map_ne_fault {α β : Type} {rx : Except Stop α} {f : α → β} (hok : ∀ x, rx.map f ≠ .error (.fault x)) :
    ∀ x, rx ≠ .error (.fault x) := by
  rintro x rfl
  exact hok x rfl

theorem call_effect {op : Op} {res : Except Stop (List Signed)} (ha : Allocates amb s)
    (hrun : op.call env amb s = (res, s')) (hok : ∀ f, res ≠ .error (.fault f)) : Effect env amb s op s' := by
  cases op with
  | validateLocalIdentity qos candidate =>
    obtain ⟨rx, hx, rfl⟩ := Act.bind_pure_eq.1 hrun
    rcases validateLocalIdentity_cases ha hx with ⟨e, -, -, rfl | ⟨cas, hcas, rfl⟩⟩ | ⟨identity, exp, -, hmade⟩
    · exact .same _
    · exact .trustedCas hcas
    · exact .localMade ha hmade
  | getIdentityToken h =>
    obtain ⟨rx, hx, rfl⟩ := Act.bind_pure_eq.1 hrun
    obtain rfl : s' = s := getIdentityToken_same.result hx
    exact .same _
  | setPermissionsCredentialAndToken h credential =>
    obtain ⟨rx, hx, rfl⟩ := Act.bind_pure_eq.1 hrun
    rcases setPermissionsCredentialAndToken_cases hx with ⟨-, rfl⟩ | ⟨document, hset⟩
    · exact .same _
    · exact .permissionsSet hset
  | validateRemoteIdentity request l token guid =>
    obtain ⟨rx, hx, rfl⟩ := Act.bind_pure_eq.1 hrun
    rcases validateRemoteIdentity_cases ha hx (map_ne_fault hok) with ⟨-, rfl⟩ | ⟨r, a, remote, relation, rch, _, -, hseen, -⟩
    · exact .same _
    · exact .remoteSeen ha hseen
  | beginHandshakeRequest initiator replier pdata =>
    obtain ⟨rx, hx, rfl⟩ := Act.bind_pure_eq.1 hrun
    have hok' := map_ne_fault hok
    rcases beginHandshakeRequest_cases ha hx hok' with ⟨-, rfl⟩ | ⟨certData, h, c, c', rx, rfl, hon⟩
    · exact .same _
    · exact .request ha (map_ne_fault hok') hon
  | beginHandshakeReply inp initiator replier pdata =>
    obtain ⟨rx, hx, rfl⟩ := Act.bind_pure_eq.1 hrun
    have hok' := map_ne_fault hok
    rcases beginHandshakeReply_cases ha hx hok' with ⟨-, rfl, -⟩ | ⟨h, c, c', rx, rfl, hon⟩
    · exact .same _
    · exact .reply ha (map_ne_fault hok') hon
  | processHandshake inp h =>
    obtain ⟨rx, hx, rfl⟩ := Act.bind_pure_eq.1 hrun
    have hok' := map_ne_fault hok
    rcases processHandshake_cases hx hok' with ⟨-, rfl, -⟩ | ⟨c, c', rx, rfl, hon⟩
    · exact .same _
    · exact .process ha (map_ne_fault hok') hon
  | getSharedSecret h =>
    obtain ⟨rx, hx, rfl⟩ := Act.bind_pure_eq.1 hrun
    obtain rfl : s' = s := getSharedSecret_same.result hx
    exact .same _
  | getAuthenticatedPeerCredentialToken h =>
    obtain ⟨rx, hx, rfl⟩ := Act.bind_pure_eq.1 hrun
    obtain rfl : s' = s := getAuthenticatedPeerCredentialToken_same.result hx
    exact .same _
  | returnHandshakeHandle h =>
    obtain ⟨rx, hx, rfl⟩ := Act.bind_pure_eq.1 hrun
    rcases returnHandshakeHandle_cases hx with rfl | ⟨hh, rfl⟩
    · exact .same _
    · exact .handshakeReturned hh
  | returnIdentityHandle h =>
    obtain ⟨rx, hx, rfl⟩ := Act.bind_pure_eq.1 hrun
    rcases returnIdentityHandle_cases hx with rfl | ⟨obj, hobj, hnone, rfl⟩
    · exact .same _
    · exact .identityReturned hobj hnone
  | validityCallback timer =>
    obtain ⟨rx, hx, rfl⟩ := Act.bind_pure_eq.1 hrun
    simp only [validityCallback, Act.write, Prod.mk.injEq] at hx
    obtain ⟨-, rfl⟩ := hx
    rcases harmed : s.dispatcher.lookup timer with _ | ⟨h, expiry⟩
    · exact .same _
    · exact .callback harmed

/-- `exec` changes nothing, or does what a call that returns does. -/
theorem exec_call (env : Env κ ρ) (s : Authentication κ) (op : Op) (amb : Ambient ρ) :
    (exec env s (op, amb)).1 = s ∨ Allocates amb s ∧
      ∃ res, op.call env amb s = (res, (exec env s (op, amb)).1) ∧ ∀ f, res ≠ .error (.fault f) := by
  by_cases ha : Allocates amb s
  · rw [exec_eq env s op amb ha]
    rcases hrun : op.call env amb s with ⟨res, s'⟩
    rcases res with (ex | f) | signed
    · exact .inr ⟨ha, _, rfl, by simp⟩
    · exact .inl rfl
    · exact .inr ⟨ha, _, rfl, by simp⟩
  · exact .inl (by rw [exec, if_neg ha])

theorem exec_ok {op : Op} {signed : List Signed} (ha : Allocates amb s) (hrun : op.call env amb s = (.ok signed, s')) :
    exec env s (op, amb) = (s', signed) := by
  rw [exec_eq env s op amb ha, hrun]

theorem exec_processHandshake {m : Token} {result : HandshakeResult} (ha : Allocates amb s)
    (hrun : processHandshake env amb m h s = (.ok result, s')) :
    exec env s (.processHandshake m h, amb) = (s', result.signed) := by
  refine exec_ok ha ?_
  rw [Op.call]
  exact Act.bind_ok.2 ⟨result, s', hrun, rfl⟩

theorem exec_failed {op : Op} {ex : SecurityException} (ha : Allocates amb s)
    (hrun : op.call env amb s = (.error (.failed ex), s')) : exec env s (op, amb) = (s', []) := by
  rw [exec_eq env s op amb ha, hrun]

/-- Only a call that succeeds releases signatures. -/
theorem exec_released {op : Op} {signed : Signed} (hmem : signed ∈ (exec env s (op, amb)).2) :
    Allocates amb s ∧ ∃ released s', op.call env amb s = (.ok released, s') ∧ signed ∈ released := by
  by_cases ha : Allocates amb s
  · rw [exec_eq env s op amb ha] at hmem
    rcases hrun : op.call env amb s with ⟨(ex | f) | released, s'⟩
    · simp [hrun] at hmem
    · simp [hrun] at hmem
    · simp only [hrun] at hmem
      exact ⟨ha, released, s', rfl, hmem⟩
  · simp [exec, ha] at hmem

/-- A call with a result is defined. -/
theorem defined_of_result {op : Op} {res : Except Stop (List Signed)} (ha : Allocates amb s)
    (hrun : op.call env amb s = (res, s')) (hok : ∀ f, res ≠ .error (.fault f)) : Defined env s (op, amb) := by
  refine ⟨ha, fun f => ?_⟩
  rw [hrun]
  exact hok f

theorem defined_of_released {op : Op} {signed : Signed} (hmem : signed ∈ (exec env s (op, amb)).2) :
    Defined env s (op, amb) := by
  obtain ⟨ha, released, s', hrun, -⟩ := exec_released hmem
  exact defined_of_result ha hrun (by simp)

/-- A call of the plugin has one of the effects. -/
theorem exec_effect (s : Authentication κ) (op : Op) (amb : Ambient ρ) :
    Effect env amb s op (exec env s (op, amb)).1 := by
  rcases exec_call env s op amb with hsame | ⟨ha, res, hrun, hok⟩
  · rw [hsame]
    exact .same op
  · exact call_effect ha hrun hok

/-- One instance of the plugin, from `init_authentication` on. -/
def plugin (env : Env κ ρ) : Machine (Authentication κ) (Op × Ambient ρ) Signed where
  start s := ∃ includeOptional kem, s = { includeOptional, kem }
  defined := Defined env
  exec := exec env

instance (s : Authentication κ) (op : Op × Ambient ρ) : Decidable ((plugin env).defined s op) :=
  inferInstanceAs (Decidable (Defined env s op))

/-- A call that succeeds is a step. -/
theorem step_of_ok {op : Op} {signed : List Signed} (ha : Allocates amb s) (hrun : op.call env amb s = (.ok signed, s')) :
    (plugin env).solo.step s (op, amb) s' :=
  ⟨defined_of_result ha hrun (by simp), congrArg Prod.fst (exec_ok ha hrun).symm⟩

/-! ## One object at a time -/

theorem clearTimer_localIdentity (s : Authentication κ) (h l : Handle) :
    (s.clearTimer h).localIdentity l = if l = h then (s.localIdentity l).map ({ · with timer := 0 })
      else s.localIdentity l := by
  unfold Authentication.clearTimer
  split
  · rename_i identity hobj
    have hl : s.localIdentity h = some identity := by simp [Authentication.localIdentity, hobj, SecurityObject.asLocal]
    rw [localIdentity_putObject]
    grind [SecurityObject.asLocal]
  · rename_i identity hobj
    have hl : s.localIdentity h = none := by simp [Authentication.localIdentity, hobj, SecurityObject.asLocal]
    rw [localIdentity_putObject]
    grind [SecurityObject.asLocal]
  · rename_i hobj hobj'
    have hl : s.localIdentity h = none := by
      rcases hx : s.localIdentity h with _ | x
      · rfl
      · exact absurd (lookup_of_localIdentity hx) (hobj x)
    grind

theorem clearTimer_remoteIdentity (s : Authentication κ) (h r : Handle) :
    (s.clearTimer h).remoteIdentity r = if r = h then (s.remoteIdentity r).map ({ · with timer := 0 })
      else s.remoteIdentity r := by
  unfold Authentication.clearTimer
  split
  · rename_i identity hobj
    have hr : s.remoteIdentity h = none := by simp [Authentication.remoteIdentity, hobj, SecurityObject.asRemote]
    rw [remoteIdentity_putObject]
    grind [SecurityObject.asRemote]
  · rename_i identity hobj
    have hr : s.remoteIdentity h = some identity := by
      simp [Authentication.remoteIdentity, hobj, SecurityObject.asRemote]
    rw [remoteIdentity_putObject]
    grind [SecurityObject.asRemote]
  · rename_i hobj hobj'
    have hr : s.remoteIdentity h = none := by
      rcases hx : s.remoteIdentity h with _ | x
      · rfl
      · exact absurd (lookup_of_remoteIdentity hx) (hobj' x)
    grind

theorem clearTimer_handshake (s : Authentication κ) (h x : Handle) : (s.clearTimer h).handshake x = s.handshake x := by
  unfold Authentication.clearTimer
  split
  · rename_i identity hobj
    have hh : s.handshake h = none := by simp [Authentication.handshake, hobj, SecurityObject.asHandshake]
    rw [handshake_putObject]
    grind [SecurityObject.asHandshake]
  · rename_i identity hobj
    have hh : s.handshake h = none := by simp [Authentication.handshake, hobj, SecurityObject.asHandshake]
    rw [handshake_putObject]
    grind [SecurityObject.asHandshake]
  · rfl

theorem clearTimer_relation (s : Authentication κ) (h a : Handle) : (s.clearTimer h).relation a = s.relation a := by
  unfold Authentication.clearTimer
  split <;> rfl

/-- A call on a handshake: the operation, the handle, and the context before and after. -/
inductive Touches (env : Env κ ρ) (amb : Ambient ρ) (s : Authentication κ) (s' : Authentication κ) :
    Op → Handle → Context κ → Context κ → Prop
  | request {l r h : Handle} {pdata certData : Octets} {c c' : Context κ} {rx : Except Stop Token}
      (ha : Allocates amb s) (hrx : ∀ f, rx ≠ .error (.fault f))
      (on : OnHandshake amb s l r .createdRequest (makeRequest env amb s.includeOptional certData pdata) h c c' rx s') :
      Touches env amb s s' (.beginHandshakeRequest l r pdata) h c c'
  | reply {inp : Token} {l r h : Handle} {pdata : Octets} {c c' : Context κ} {rx : Except Stop (Token × Signed)}
      (ha : Allocates amb s) (hrx : ∀ f, rx ≠ .error (.fault f))
      (on : OnHandshake amb s l r .createdReply (makeReply env amb s.includeOptional s.trustedCaList inp pdata) h c c' rx
        s') : Touches env amb s s' (.beginHandshakeReply inp r l pdata) h c c'
  | process {inp : Token} {h : Handle} {c c' : Context κ} {rx : Except Stop (HandshakeResult × Int)}
      (ha : Allocates amb s) (hrx : ∀ f, rx ≠ .error (.fault f)) (on : OnProcess env amb s inp h c c' rx s') :
      Touches env amb s s' (.processHandshake inp h) h c c'

namespace Touches

variable {op : Op}

theorem points (ht : Touches env amb s s' op h c c') : Points s c := by
  cases ht with
  | request ha hrx on => exact on.points
  | reply ha hrx on => exact on.points
  | process ha hrx on => exact on.points

theorem frame (ht : Touches env amb s s' op h c c') : c.Frame c' := by
  cases ht with
  | request ha hrx on => exact makeRequest_frame.result on.run
  | reply ha hrx on => exact makeReply_frame.result on.run
  | process ha hrx on => exact processToken_frame.result on.run

variable (amb) in
theorem watched_eq (certExp : Int) (c : Context κ) :
    ∃ timer, c.watched amb certExp = { c with remoteIdentity.timer := timer } := by
  unfold Context.watched
  split
  · exact ⟨amb.timer, rfl⟩
  · exact ⟨c.remoteIdentity.timer, rfl⟩

/-- What a call on a handshake leaves, up to the trigger of the remote identity. -/
theorem moved (ht : Touches env amb s s' op h c c') : ∃ timer left, (∀ x, left = some x → x = c'.handshake) ∧
    Moved s h c { c' with remoteIdentity.timer := timer } left s' := by
  cases ht with
  | request ha hrx on =>
    refine ⟨c'.remoteIdentity.timer, _, fun x hx => ?_, on.moved⟩
    simp only [remaining] at hx
    grind
  | reply ha hrx on =>
    refine ⟨c'.remoteIdentity.timer, _, fun x hx => ?_, on.moved⟩
    simp only [remaining] at hx
    grind
  | @process _ _ _ _ rx ha hrx on =>
    cases rx with
    | error e => exact ⟨c'.remoteIdentity.timer, _, fun x hx => (Option.some.inj hx).symm, (on.failed e rfl).1⟩
    | ok v =>
      have hm := (on.ok v.1 v.2 rfl).1
      obtain ⟨timer, heq⟩ := watched_eq amb v.2 c'
      rw [heq] at hm
      exact ⟨timer, _, fun x hx => (Option.some.inj hx).symm, hm⟩

end Touches

namespace Effect

variable {op : Op}

/-- A handshake is as before, or the call was on it. -/
theorem handshake_cases (he : Effect env amb s op s') (hh : s'.handshake h = some hs) :
    s.handshake h = some hs ∨ ∃ c c', Touches env amb s s' op h c c' ∧ hs = c'.handshake := by
  have htouched : ∀ {h' c c'}, Touches env amb s s' op h' c c' →
      s.handshake h = some hs ∨ ∃ c c', Touches env amb s s' op h c c' ∧ hs = c'.handshake := by
    intro h' c c' ht
    obtain ⟨timer, left, hleft, hm⟩ := ht.moved
    rw [hm.handshake] at hh
    split at hh
    · rename_i heq
      subst heq
      exact .inr ⟨c, c', ht, hleft hs hh⟩
    · exact .inl hh
  cases he with
  | same => exact .inl hh
  | trustedCas named => exact .inl hh
  | localMade ha made =>
    rw [made.put.handshake] at hh
    exact .inl hh
  | permissionsSet set =>
    obtain ⟨identity, -, hput⟩ := set.put
    rw [hput.handshake] at hh
    exact .inl hh
  | remoteSeen ha seen =>
    rw [seen.handshake] at hh
    exact .inl hh
  | request ha hrx on => exact htouched (.request ha hrx on)
  | reply ha hrx on => exact htouched (.reply ha hrx on)
  | process ha hrx on => exact htouched (.process ha hrx on)
  | handshakeReturned handshake => exact .inl ((Shrunk.removeObject s _).handshake h hs hh)
  | identityReturned lookup identity => exact .inl ((Shrunk.returnIdentity s _ _).handshake h hs hh)
  | callback armed =>
    rw [clearTimer_handshake] at hh
    exact .inl hh

/-- A remote identity is as before, up to its links and its trigger, or new, or the call was on one of its handshakes. -/
theorem remoteIdentity_cases {remote : RemoteIdentityInfo} (he : Effect env amb s op s')
    (hr : s'.remoteIdentity r = some remote) :
    (∃ old linkHash timer, s.remoteIdentity r = some old ∧ remote = { old with linkHash, timer }) ∨
      (∃ request l token guid linkHash, op = .validateRemoteIdentity request l token guid ∧ s.remoteIdentity r = none ∧
        remote = { guid, remoteIdentityToken := token, linkHash }) ∨
      ∃ h c c' timer, Touches env amb s s' op h c c' ∧ c.relation.remoteIdentity = r ∧
        remote = { c'.remoteIdentity with timer } := by
  have hsame : s.remoteIdentity r = some remote → ∃ old linkHash timer, s.remoteIdentity r = some old ∧
      remote = { old with linkHash, timer } := fun h => ⟨remote, remote.linkHash, remote.timer, h, rfl⟩
  have htouched : ∀ {h' c c'}, Touches env amb s s' op h' c c' →
      (∃ old linkHash timer, s.remoteIdentity r = some old ∧ remote = { old with linkHash, timer }) ∨
      ∃ h c c' timer, Touches env amb s s' op h c c' ∧ c.relation.remoteIdentity = r ∧
        remote = { c'.remoteIdentity with timer } := by
    intro h' c c' ht
    obtain ⟨timer, left, hleft, hm⟩ := ht.moved
    rw [hm.remoteIdentity] at hr
    split at hr
    · rename_i heq
      exact .inr ⟨h', c, c', timer, ht, heq.symm, (Option.some.inj hr).symm⟩
    · exact .inl (hsame hr)
  have hshrunk : Shrunk s s' → ∃ old linkHash timer, s.remoteIdentity r = some old ∧
      remote = { old with linkHash, timer } := by
    intro h
    obtain ⟨linkHash, hold⟩ := h.remoteIdentity r remote hr
    exact ⟨_, remote.linkHash, remote.timer, hold, rfl⟩
  cases he with
  | same => exact .inl (hsame hr)
  | trustedCas named => exact .inl (hsame hr)
  | localMade ha made =>
    rw [made.put.remoteIdentity] at hr
    exact .inl (hsame hr)
  | permissionsSet set =>
    obtain ⟨identity, -, hput⟩ := set.put
    rw [hput.remoteIdentity] at hr
    exact .inl (hsame hr)
  | @remoteSeen request l r' a token guid remote' relation rchallenge _ ha seen =>
    rw [seen.remoteIdentity] at hr
    split at hr
    · rename_i heq
      subst heq
      obtain rfl := Option.some.inj hr
      obtain ⟨lchallenge, -, hsight⟩ := seen.sighting
      cases hsight with
      | made new => exact .inr (.inl ⟨request, l, token, guid, _, rfl, remoteIdentity_fresh ha, rfl⟩)
      | @linked _ old known object unlinked => exact .inl ⟨old, _, old.timer, object, rfl⟩
      | known known object linked pointer => exact .inl (hsame object)
    · exact .inl (hsame hr)
  | request ha hrx on => exact (htouched (.request ha hrx on)).imp_right .inr
  | reply ha hrx on => exact (htouched (.reply ha hrx on)).imp_right .inr
  | process ha hrx on => exact (htouched (.process ha hrx on)).imp_right .inr
  | handshakeReturned handshake => exact .inl (hshrunk (.removeObject s _))
  | identityReturned lookup identity => exact .inl (hshrunk (.returnIdentity s _ _))
  | callback armed =>
    rw [clearTimer_remoteIdentity] at hr
    split at hr
    · obtain ⟨old, hold, rfl⟩ := Option.map_eq_some_iff.1 hr
      exact .inl ⟨old, old.linkHash, 0, hold, rfl⟩
    · exact .inl (hsame hr)

theorem mapM_ok {α β ε : Type} {f : α → Except ε β} {o : Option α} {v : Option β} (h : o.mapM f = .ok v) :
    (o = none ∧ v = none) ∨ ∃ x y, o = some x ∧ v = some y ∧ f x = .ok y := by
  cases o with
  | none => exact .inl ⟨rfl, (Except.ok.inj h).symm⟩
  | some x =>
    right
    rcases hx : f x with e | y
    · simp [hx, Functor.map, Except.map] at h
    · simp only [Option.mapM_some, hx, Functor.map, Except.map, Except.ok.injEq] at h
      exact ⟨x, y, rfl, h.symm, hx⟩

/-- A relation is as before, or new, or its remote challenge was replaced, or the call was on its handshake. -/
theorem relation_cases {relation : IdentityRelation} (he : Effect env amb s op s')
    (hrel : s'.relation a = some relation) :
    s.relation a = some relation ∨
      (∃ request l token guid r lchallenge rchallenge, op = .validateRemoteIdentity request l token guid ∧
        s.relation a = none ∧ relation = ⟨l, r, some lchallenge, rchallenge⟩) ∨
      (∃ request l token guid r x old, op = .validateRemoteIdentity (some request) l token guid ∧
        s.remoteGuidHash.lookup guid = some r ∧ s.findIdentityRelation l r = some a ∧ s.relation a = some old ∧
        validateAuthRequestToken request = .ok x ∧ relation = { old with rchallenge := some x }) ∨
      ∃ h c c', Touches env amb s s' op h c c' ∧ c.handshake.relation = a ∧ relation = c'.relation := by
  have htouched : ∀ {h' c c'}, Touches env amb s s' op h' c c' → s.relation a = some relation ∨
      ∃ h c c', Touches env amb s s' op h c c' ∧ c.handshake.relation = a ∧ relation = c'.relation := by
    intro h' c c' ht
    obtain ⟨timer, left, hleft, hm⟩ := ht.moved
    rw [hm.relation] at hrel
    split at hrel
    · rename_i heq
      exact .inr ⟨h', c, c', ht, heq.symm, (Option.some.inj hrel).symm⟩
    · exact .inl hrel
  cases he with
  | same => exact .inl hrel
  | trustedCas named => exact .inl hrel
  | localMade ha made =>
    rw [made.put.relation] at hrel
    exact .inl hrel
  | permissionsSet set =>
    obtain ⟨identity, -, hput⟩ := set.put
    rw [hput.relation] at hrel
    exact .inl hrel
  | @remoteSeen request l r a' token guid remote relation' rchallenge _ ha seen =>
    rw [seen.relation] at hrel
    split at hrel
    · rename_i heq
      subst heq
      obtain rfl := Option.some.inj hrel
      obtain ⟨lchallenge, -, hsight⟩ := seen.sighting
      cases hsight with
      | made new =>
        exact .inr (.inl ⟨request, l, token, guid, amb.object, lchallenge, rchallenge, rfl, relation_fresh ha, rfl⟩)
      | linked known object unlinked =>
        exact .inr (.inl ⟨request, l, token, guid, r, lchallenge, rchallenge, rfl, relation_fresh ha, rfl⟩)
      | @known _ _ remote old known object linked pointer =>
        have hlink : s.findIdentityRelation l r = some a := by simp [Authentication.findIdentityRelation, object, linked]
        rcases mapM_ok seen.request with ⟨-, rfl⟩ | ⟨request', x, rfl, rfl, hx⟩
        · exact .inl pointer
        · exact .inr (.inr (.inl ⟨request', l, token, guid, r, x, old, rfl, known, hlink, pointer, hx, rfl⟩))
    · exact .inl hrel
  | request ha hrx on => exact (htouched (.request ha hrx on)).imp_right fun h => .inr (.inr h)
  | reply ha hrx on => exact (htouched (.reply ha hrx on)).imp_right fun h => .inr (.inr h)
  | process ha hrx on => exact (htouched (.process ha hrx on)).imp_right fun h => .inr (.inr h)
  | handshakeReturned handshake => exact .inl ((Shrunk.removeObject s _).relation a relation hrel)
  | identityReturned lookup identity => exact .inl ((Shrunk.returnIdentity s _ _).relation a relation hrel)
  | callback armed =>
    rw [clearTimer_relation] at hrel
    exact .inl hrel

/-- A local identity is as before, up to what it sends and its trigger, or new. -/
theorem localIdentity_cases {identity : LocalIdentityInfo} (he : Effect env amb s op s')
    (hl : s'.localIdentity l = some identity) :
    (∃ old pdata permissionsDocument timer, s.localIdentity l = some old ∧
        identity = { old with pdata, permissionsDocument, timer }) ∨
      ∃ qos candidate certExpiry, op = .validateLocalIdentity qos candidate ∧ l = amb.object ∧
        s.localIdentity l = none ∧ LocalMade env amb s qos candidate identity certExpiry s' := by
  have hsame : s.localIdentity l = some identity → ∃ old pdata permissionsDocument timer, s.localIdentity l = some old ∧
      identity = { old with pdata, permissionsDocument, timer } :=
    fun h => ⟨identity, identity.pdata, identity.permissionsDocument, identity.timer, h, rfl⟩
  have htouched : ∀ {h' c c'}, Touches env amb s s' op h' c c' → ∃ old pdata permissionsDocument timer,
      s.localIdentity l = some old ∧ identity = { old with pdata, permissionsDocument, timer } := by
    intro h' c c' ht
    obtain ⟨timer, left, hleft, hm⟩ := ht.moved
    rw [hm.localIdentity] at hl
    split at hl
    · rename_i heq
      obtain ⟨pdata, hpdata⟩ := ht.frame.localIdentity
      refine ⟨c.localIdentity, pdata, c.localIdentity.permissionsDocument, c.localIdentity.timer, ?_, ?_⟩
      · rw [heq]
        exact ht.points.localIdentity
      · rw [← Option.some.inj hl]
        exact hpdata
    · exact hsame hl
  cases he with
  | same => exact .inl (hsame hl)
  | trustedCas named => exact .inl (hsame hl)
  | @localMade qos candidate made' certExpiry _ ha made =>
    have hl' := hl
    rw [made.put.localIdentity] at hl'
    split at hl'
    · rename_i heq
      obtain rfl := Option.some.inj hl'
      subst heq
      exact .inr ⟨qos, candidate, certExpiry, rfl, rfl, localIdentity_fresh ha, made⟩
    · exact .inl (hsame hl')
  | permissionsSet set =>
    obtain ⟨old, hold, hput⟩ := set.put
    rw [hput.localIdentity] at hl
    split at hl
    · rename_i heq
      subst heq
      exact .inl ⟨old, old.pdata, _, old.timer, hold, (Option.some.inj hl).symm⟩
    · exact .inl (hsame hl)
  | remoteSeen ha seen =>
    rw [seen.localIdentity] at hl
    exact .inl (hsame hl)
  | request ha hrx on => exact .inl (htouched (.request ha hrx on))
  | reply ha hrx on => exact .inl (htouched (.reply ha hrx on))
  | process ha hrx on => exact .inl (htouched (.process ha hrx on))
  | handshakeReturned handshake => exact .inl (hsame ((Shrunk.removeObject s _).localIdentity l identity hl))
  | identityReturned lookup identity' => exact .inl (hsame ((Shrunk.returnIdentity s _ _).localIdentity l identity hl))
  | callback armed =>
    rw [clearTimer_localIdentity] at hl
    split at hl
    · obtain ⟨old, hold, rfl⟩ := Option.map_eq_some_iff.1 hl
      exact .inl ⟨old, old.pdata, old.permissionsDocument, 0, hold, rfl⟩
    · exact .inl (hsame hl)

/-- The settings of the instance stay, but for the trusted CAs. -/
theorem settings (he : Effect env amb s op s') : s'.includeOptional = s.includeOptional ∧ s'.kem = s.kem := by
  have htouched : ∀ {h' c c'}, Touches env amb s s' op h' c c' →
      s'.includeOptional = s.includeOptional ∧ s'.kem = s.kem := by
    intro h' c c' ht
    obtain ⟨timer, left, hleft, hm⟩ := ht.moved
    exact ⟨hm.settings.includeOptional, hm.settings.kem⟩
  cases he with
  | same => exact ⟨rfl, rfl⟩
  | trustedCas named => exact ⟨rfl, rfl⟩
  | localMade ha made => exact ⟨made.includeOptional, made.kem⟩
  | permissionsSet set => exact ⟨set.settings.includeOptional, set.settings.kem⟩
  | remoteSeen ha seen => exact ⟨seen.includeOptional, seen.kem⟩
  | request ha hrx on => exact htouched (.request ha hrx on)
  | reply ha hrx on => exact htouched (.reply ha hrx on)
  | process ha hrx on => exact htouched (.process ha hrx on)
  | handshakeReturned handshake => exact ⟨rfl, rfl⟩
  | @identityReturned h obj lookup identity =>
    have hshrunk := Shrunk.returnIdentity s h obj
    exact ⟨hshrunk.includeOptional, hshrunk.kem⟩
  | callback armed =>
    unfold Authentication.clearTimer
    split <;> exact ⟨rfl, rfl⟩

end Effect

end PqsecDds.CycloneDDS
