import PqsecDds.CycloneDDS.Ideal

/-!
# Which challenge an AuthRequest carries

| here | there |
|---|---|
| `Token.futureChallenge` | the property named exactly `future_challenge`, as `find_binary_property` would find it |
| `validateAuthRequestToken` | authentication.c:1102-1180: the loop compares `strlen("future_challenge")` characters only |

`auth_request_challenge` says when the two agree: unless a property whose name goes on after `future_challenge` stands
before all that are named so.
-/

namespace PqsecDds.CycloneDDS

open Lib

variable {κ ρ : Type} {env : Env κ ρ} {amb : Ambient ρ} {s s' : Authentication κ} {t t' : Token}

/-! ## What the loop finds -/

def Token.IsAuthRequest (t : Token) : Prop := t.classId = some (str "pqsec-dds.auth:1.0+AuthReq")

/-- The value of a property that has the size of a challenge. -/
def BinaryProperty.challenge (p : BinaryProperty) : Option Challenge :=
  if h : p.value.length = 32 then some ⟨p.value, h⟩ else none

/-- The challenge in the first property named `future_challenge`. -/
def Token.futureChallenge (t : Token) : Option Challenge :=
  (t.findBinaryProperty "future_challenge").bind (·.challenge)

/-- The challenge in the property that the loop stops at. -/
def Token.foundChallenge (t : Token) : Option Challenge :=
  (t.binaryProperties.find? isFutureChallenge).bind (·.challenge)

theorem challenge_eq_some {p : BinaryProperty} {x : Challenge} : p.challenge = some x ↔ p.value = x.1 := by
  unfold BinaryProperty.challenge
  constructor
  · intro h
    split at h
    · rw [← Option.some.inj h]
    · cases h
  · intro h
    have hlen : p.value.length = 32 := by rw [h, x.2]
    rw [dif_pos hlen, Option.some.injEq]
    exact Subtype.ext h

theorem validateAuthRequestToken_ok {x : Challenge} :
    validateAuthRequestToken t = .ok x ↔ t.IsAuthRequest ∧ t.foundChallenge = some x := by
  simp only [validateAuthRequestToken, bind_ok, need_ok, require_ok, pure_ok, decide_eq_true_eq, Token.foundChallenge,
    Option.bind_eq_some_iff]
  constructor
  · rintro ⟨classId, hclass, _, rfl, _, -, p, hp, _, hlen, rfl⟩
    refine ⟨hclass, p, hp, ?_⟩
    rw [challenge_eq_some, toChallenge, dif_pos hlen]
  · rintro ⟨hclass, p, hp, hx⟩
    have hvalue := challenge_eq_some.1 hx
    have hlen : p.value.length = 32 := by rw [hvalue, x.2]
    have hne : (!t.binaryProperties.isEmpty) = true := by
      have hmem := List.mem_of_find?_eq_some hp
      cases hnil : t.binaryProperties with
      | nil =>
        rw [hnil] at hmem
        cases hmem
      | cons _ _ => rfl
    refine ⟨_, hclass, ⟨⟩, rfl, ⟨⟩, hne, p, hp, ⟨⟩, hlen, ?_⟩
    rw [toChallenge, dif_pos hlen]
    exact Subtype.ext hvalue

theorem isFutureChallenge_iff {p : BinaryProperty} :
    isFutureChallenge p = true ↔ ∃ rest, p.name = some (str "future_challenge" ++ rest) := by
  unfold isFutureChallenge
  cases p.name with
  | none => simp
  | some name =>
    simp only [List.isPrefixOf_iff_prefix, Option.some.injEq]
    constructor
    · rintro ⟨rest, h⟩
      exact ⟨rest, h.symm⟩
    · rintro ⟨rest, h⟩
      exact ⟨rest, h.symm⟩

theorem isFutureChallenge_of_name {p : BinaryProperty} (h : p.name = some (str "future_challenge")) :
    isFutureChallenge p = true :=
  isFutureChallenge_iff.2 ⟨[], by rw [h, List.append_nil]⟩

/-- A property whose name goes on after `future_challenge` stands before all that are named so, and does not hold the
challenge that they hold. -/
def Token.Overshadowed (t : Token) : Prop :=
  t.IsAuthRequest ∧ ∃ before p after rest, t.binaryProperties = before ++ p :: after ∧
    p.name = some (str "future_challenge" ++ rest) ∧ rest ≠ [] ∧ (∀ q ∈ before, isFutureChallenge q = false) ∧
    p.challenge ≠ t.futureChallenge

theorem foundChallenge_of_split {before after : List BinaryProperty} {p : BinaryProperty}
    (hsplit : t.binaryProperties = before ++ p :: after) (hp : isFutureChallenge p = true)
    (hbefore : ∀ q ∈ before, isFutureChallenge q = false) : t.foundChallenge = p.challenge := by
  have hfind : t.binaryProperties.find? isFutureChallenge = some p :=
    List.find?_eq_some_iff_append.2 ⟨hp, before, after, hsplit, fun q hq => by rw [hbefore q hq]; rfl⟩
  rw [Token.foundChallenge, hfind, Option.bind_some]

theorem overshadowed_iff : t.Overshadowed ↔ t.IsAuthRequest ∧ t.foundChallenge ≠ t.futureChallenge := by
  constructor
  · rintro ⟨hclass, before, p, after, rest, hsplit, hname, -, hbefore, hne⟩
    rw [foundChallenge_of_split hsplit (isFutureChallenge_iff.2 ⟨rest, hname⟩) hbefore]
    exact ⟨hclass, hne⟩
  · rintro ⟨hclass, hne⟩
    refine ⟨hclass, ?_⟩
    rcases hfind : t.binaryProperties.find? isFutureChallenge with _ | p
    · -- nothing begins like the name, so nothing has it
      have hexact : t.findBinaryProperty "future_challenge" = none := by
        rw [Token.findBinaryProperty, List.find?_eq_none]
        intro q hq hname
        exact List.find?_eq_none.1 hfind q hq (isFutureChallenge_of_name (of_decide_eq_true hname))
      rw [Token.foundChallenge, Token.futureChallenge, hfind, hexact] at hne
      exact absurd rfl hne
    · obtain ⟨hp, before, after, hsplit, hbefore⟩ := List.find?_eq_some_iff_append.1 hfind
      have hbefore : ∀ q ∈ before, isFutureChallenge q = false := fun q hq => by simpa using hbefore q hq
      have hfound := foundChallenge_of_split hsplit hp hbefore
      obtain ⟨rest, hname⟩ := isFutureChallenge_iff.1 hp
      refine ⟨before, p, after, rest, hsplit, hname, ?_, hbefore, by rwa [hfound] at hne⟩
      rintro rfl
      rw [List.append_nil] at hname
      have hexact : t.findBinaryProperty "future_challenge" = some p := by
        refine List.find?_eq_some_iff_append.2 ⟨by simpa using hname, before, after, hsplit, fun q hq => ?_⟩
        have hq' := hbefore q hq
        by_cases hqname : q.name = some (str "future_challenge")
        · rw [isFutureChallenge_of_name hqname] at hq'
          cases hq'
        · simpa using hqname
      rw [hfound, Token.futureChallenge, hexact] at hne
      exact hne rfl

/-! ## Reading and storing the challenge -/

/-- `validate_auth_request_token` reads the property named `future_challenge`, and nothing else. -/
structure ReadsChallenge (t : Token) : Prop where
  succeeds : (∃ x, validateAuthRequestToken t = .ok x) ↔
    t.IsAuthRequest ∧ ∃ p, t.findBinaryProperty "future_challenge" = some p ∧ p.value.length = 32
  returned : ∀ x, validateAuthRequestToken t = .ok x →
    ∃ p, t.findBinaryProperty "future_challenge" = some p ∧ x.1 = p.value

theorem futureChallenge_isSome : (∃ x, t.futureChallenge = some x) ↔
    ∃ p, t.findBinaryProperty "future_challenge" = some p ∧ p.value.length = 32 := by
  constructor
  · rintro ⟨x, hx⟩
    obtain ⟨p, hp, hpx⟩ := Option.bind_eq_some_iff.1 hx
    exact ⟨p, hp, by rw [challenge_eq_some.1 hpx, x.2]⟩
  · rintro ⟨p, hp, hlen⟩
    exact ⟨⟨p.value, hlen⟩, Option.bind_eq_some_iff.2 ⟨p, hp, challenge_eq_some.2 rfl⟩⟩

theorem readsChallenge_iff : ReadsChallenge t ↔ ¬ t.Overshadowed := by
  rw [overshadowed_iff]
  constructor
  · rintro ⟨hsucceeds, hreturned⟩ ⟨hclass, hne⟩
    refine hne ?_
    rcases hfound : t.foundChallenge with _ | x
    · rcases hfuture : t.futureChallenge with _ | y
      · rfl
      · obtain ⟨x, hx⟩ := hsucceeds.2 ⟨hclass, futureChallenge_isSome.1 ⟨y, hfuture⟩⟩
        rw [(validateAuthRequestToken_ok.1 hx).2] at hfound
        cases hfound
    · obtain ⟨p, hp, hx⟩ := hreturned x (validateAuthRequestToken_ok.2 ⟨hclass, hfound⟩)
      rw [Token.futureChallenge, hp, Option.bind_some, challenge_eq_some.2 hx.symm]
  · intro hsame
    have hfound : t.IsAuthRequest → t.foundChallenge = t.futureChallenge := by
      intro hclass
      by_contra hne
      exact hsame ⟨hclass, hne⟩
    constructor
    · rw [← futureChallenge_isSome]
      constructor
      · rintro ⟨x, hx⟩
        obtain ⟨hclass, hx⟩ := validateAuthRequestToken_ok.1 hx
        exact ⟨hclass, x, by rw [← hfound hclass, hx]⟩
      · rintro ⟨hclass, x, hx⟩
        exact ⟨x, validateAuthRequestToken_ok.2 ⟨hclass, by rw [hfound hclass, hx]⟩⟩
    · intro x hx
      obtain ⟨hclass, hx⟩ := validateAuthRequestToken_ok.1 hx
      rw [hfound hclass] at hx
      obtain ⟨p, hp, hpx⟩ := Option.bind_eq_some_iff.1 hx
      exact ⟨p, hp, (challenge_eq_some.1 hpx).symm⟩

/-- The challenge that the relation of the two identities holds after a successful call. -/
theorem validateRemoteIdentity_rchallenge {l r : Handle} {token : Token} {guid : Guid} {v : RemoteResult}
    {out : Option Token} (ha : Allocates amb s)
    (hrun : validateRemoteIdentity env amb (some t) l token guid s = (.ok (v, r, out), s')) :
    ∃ x a relation, validateAuthRequestToken t = .ok x ∧ s'.findIdentityRelation l r = some a ∧
      s'.relation a = some relation ∧ relation.rchallenge = some x := by
  rcases validateRemoteIdentity_cases ha hrun (by simp) with ⟨⟨_, he⟩, -⟩ |
    ⟨r', a, remote, relation, rchallenge, localIdent, -, hseen, hres⟩
  · cases he
  obtain rfl : r = r' := (Prod.mk.inj (Prod.mk.inj (Except.ok.inj hres)).2).1
  rcases Effect.mapM_ok hseen.request with ⟨hnone, -⟩ | ⟨t₁, x, ht, hx, hok⟩
  · cases hnone
  obtain rfl := Option.some.inj ht
  subst hx
  have hremote := hseen.remoteIdentity r
  have hrelation := hseen.relation a
  rw [if_pos rfl] at hremote hrelation
  obtain ⟨lchallenge, -, hsight⟩ := hseen.sighting
  have hlink : remote.linkHash.lookup l = some a ∧ relation.rchallenge = some x := by
    cases hsight with
    | made new => exact ⟨AList.lookup_insert _, rfl⟩
    | linked known object unlinked => exact ⟨AList.lookup_insert _, rfl⟩
    | known known object linked pointer => exact ⟨linked, rfl⟩
  refine ⟨x, a, relation, hok, ?_, hrelation, hlink.2⟩
  rw [Authentication.findIdentityRelation, hremote]
  exact hlink.1

/-- `validate_remote_identity` stores the challenge of the property named `future_challenge`. -/
def StoresChallenge (env : Env κ ρ) (t : Token) : Prop :=
  ∀ amb s s' l r token guid v out, Allocates amb s →
    validateRemoteIdentity env amb (some t) l token guid s = (.ok (v, r, out), s') →
    ∃ p a relation x, t.findBinaryProperty "future_challenge" = some p ∧ s'.findIdentityRelation l r = some a ∧
      s'.relation a = some relation ∧ relation.rchallenge = some x ∧ x.1 = p.value

theorem ReadsChallenge.stores (env : Env κ ρ) (h : ReadsChallenge t) : StoresChallenge env t := by
  intro amb s s' l r token guid v out ha hrun
  obtain ⟨x, a, relation, hok, hlink, hrelation, hx⟩ := validateRemoteIdentity_rchallenge ha hrun
  obtain ⟨p, hp, hvalue⟩ := h.returned x hok
  exact ⟨p, a, relation, x, hp, hlink, hrelation, hx, hvalue⟩

/-! ## Other properties -/

/-- The second list is the first with properties of other names anywhere in it. -/
inductive Padded : List BinaryProperty → List BinaryProperty → Prop
  | nil : Padded [] []
  | keep {ps ps'} (p : BinaryProperty) (h : Padded ps ps') : Padded (p :: ps) (p :: ps')
  | add {ps ps'} (p : BinaryProperty) (hname : p.name ≠ some (str "future_challenge")) (h : Padded ps ps') :
      Padded ps (p :: ps')

/-- `t'` is `t` with more properties. -/
structure Token.Extended (t t' : Token) : Prop where
  classId : t'.classId = t.classId
  padded : Padded t.binaryProperties t'.binaryProperties

theorem Padded.find_eq {ps ps' : List BinaryProperty} (h : Padded ps ps') :
    ps'.find? (·.name = some (str "future_challenge")) = ps.find? (·.name = some (str "future_challenge")) := by
  induction h with
  | nil => rfl
  | keep p h ih => rw [List.find?_cons, List.find?_cons, ih]
  | add p hname h ih => rw [List.find?_cons_of_neg (by simpa using hname), ih]

theorem Token.Extended.futureChallenge (h : t.Extended t') : t'.futureChallenge = t.futureChallenge := by
  rw [Token.futureChallenge, Token.futureChallenge, Token.findBinaryProperty, Token.findBinaryProperty, h.padded.find_eq]

theorem Token.Extended.isAuthRequest (h : t.Extended t') : t'.IsAuthRequest ↔ t.IsAuthRequest := by
  rw [Token.IsAuthRequest, Token.IsAuthRequest, h.classId]

/-- The outcome of validating a token, with the challenge. -/
theorem validateAuthRequestToken_toOption {x : Challenge} :
    (validateAuthRequestToken t).toOption = some x ↔ t.IsAuthRequest ∧ t.foundChallenge = some x := by
  rw [← validateAuthRequestToken_ok]
  cases validateAuthRequestToken t <;> simp [Except.toOption]

/-- **The challenge of an AuthRequest.** It is that of the property named `future_challenge`, whatever properties are
added, unless one that begins like it stands before it. -/
theorem auth_request_challenge (env : Env κ ρ) (hext : t.Extended t') :
    (ReadsChallenge t ∧ StoresChallenge env t ∧
      (validateAuthRequestToken t').toOption = (validateAuthRequestToken t).toOption) ↔
    ¬ t.Overshadowed ∧ ¬ t'.Overshadowed := by
  constructor
  · rintro ⟨hreads, -, hsame⟩
    have hnot := readsChallenge_iff.1 hreads
    refine ⟨hnot, fun hover => ?_⟩
    rw [overshadowed_iff] at hnot hover
    obtain ⟨hclass', hne⟩ := hover
    have hclass := hext.isAuthRequest.1 hclass'
    refine hne ?_
    have hfound : t'.foundChallenge = t.foundChallenge := by
      refine Option.ext fun x => ?_
      have hiff : (validateAuthRequestToken t').toOption = some x ↔ (validateAuthRequestToken t).toOption = some x := by
        rw [hsame]
      rw [validateAuthRequestToken_toOption, validateAuthRequestToken_toOption] at hiff
      simpa [hclass, hclass'] using hiff
    rw [hfound, hext.futureChallenge]
    by_contra hne'
    exact hnot ⟨hclass, hne'⟩
  · rintro ⟨hnot, hnot'⟩
    have hreads := readsChallenge_iff.2 hnot
    refine ⟨hreads, hreads.stores env, ?_⟩
    rw [overshadowed_iff] at hnot hnot'
    refine Option.ext fun x => ?_
    rw [validateAuthRequestToken_toOption, validateAuthRequestToken_toOption, hext.isAuthRequest]
    by_cases hclass : t.IsAuthRequest
    · have hfound : t.foundChallenge = t.futureChallenge := by
        by_contra hne
        exact hnot ⟨hclass, hne⟩
      have hfound' : t'.foundChallenge = t'.futureChallenge := by
        by_contra hne
        exact hnot' ⟨hext.isAuthRequest.2 hclass, hne⟩
      rw [hfound, hfound', hext.futureChallenge]
    · simp [hclass]

/-! ## Two AuthRequests -/

section Sample

/-- The AuthRequest with one more property, in front. -/
def prefixedRequest (name : String) : Token :=
  let request := authRequestToken (zeroBytes 32)
  { request with binaryProperties := binaryProperty name [1] :: request.binaryProperties }

theorem prefixedRequest_extended {name : String} (hname : str name ≠ str "future_challenge") :
    (authRequestToken (zeroBytes 32)).Extended (prefixedRequest name) := by
  refine ⟨rfl, .add _ (fun h => hname (Option.some.inj h)) (.keep _ .nil)⟩

theorem auth_request_challenge_sample :
    ReadsChallenge (authRequestToken (zeroBytes 32)) ∧ StoresChallenge Ideal.env (authRequestToken (zeroBytes 32)) ∧
    (validateAuthRequestToken (prefixedRequest "origin")).toOption =
      (validateAuthRequestToken (authRequestToken (zeroBytes 32))).toOption := by
  refine (auth_request_challenge Ideal.env (prefixedRequest_extended (by decide))).2 ⟨?_, ?_⟩
  · rw [overshadowed_iff]
    rintro ⟨-, hne⟩
    exact hne (by decide)
  · rw [overshadowed_iff]
    rintro ⟨-, hne⟩
    exact hne (by decide)

/-- A property named `future_challenge_2` hides the challenge. -/
theorem auth_request_challenge_fails : ∃ t t' : Token, t.Extended t' ∧ (∃ x, validateAuthRequestToken t = .ok x) ∧
    t'.IsAuthRequest ∧ (∃ p, t'.findBinaryProperty "future_challenge" = some p ∧ p.value.length = 32) ∧
    ∀ x, validateAuthRequestToken t' ≠ .ok x := by
  refine ⟨authRequestToken (zeroBytes 32), prefixedRequest "future_challenge_2", prefixedRequest_extended (by decide),
    ⟨zeroBytes 32, validateAuthRequestToken_ok.2 ⟨rfl, by decide⟩⟩, rfl,
    futureChallenge_isSome.1 ⟨zeroBytes 32, by decide⟩, fun x hx => ?_⟩
  have hnone : (prefixedRequest "future_challenge_2").foundChallenge = none := by decide
  rw [(validateAuthRequestToken_ok.1 hx).2] at hnone
  cases hnone

end Sample

end PqsecDds.CycloneDDS
