import PqsecDds.CycloneDDS.KeyMaterial

/-!
# Agreement of two participants of the CycloneDDS adapter

Any number of participants run the plugin, and the network hands any token to any call. `owner` says which participant an
uncorrupted signature key belongs to. What a run may do is `Admissible`: a participant's key is loaded by itself only, and
a signature that verifies under it was made with it.

The public key of a Reply and the KEM properties of a Final are signed, but not compared with what the handshake holds.
`initiator_agreement` and `replier_agreement` say what that leaves open.
-/

namespace PqsecDds.CycloneDDS

open Lib Context

abbrev Net (κ Pid : Type) := World Pid (Authentication κ) Signed

section Protocol

variable {κ ρ Pid : Type} [DecidableEq Pid] {env : Env κ ρ} {amb : Ambient ρ} {s s' : Authentication κ} {h l r : Handle}
variable {op : Op} {m inp out : Token} {signed : Signed} {c c' : Context κ} {pdata : Octets} {key : EvpPkey}

/-- What the network and the participants' surroundings respect. -/
structure Admissible (env : Env κ ρ) (owner : EvpPkey → Option Pid) (w : Net κ Pid) (p : Pid) (call : Op × Ambient ρ) :
    Prop where
  own : ∀ qos candidate cert ca key crl expiry guid q, call.1 = .validateLocalIdentity qos candidate →
    identityOf env call.2 (w.node p).trustedCaList qos candidate = .ok (cert, ca, key, crl, expiry, guid) →
    owner key = some q → q = p
  unforged : ∀ m h, call.1 = .processHandshake m h →
    Unforged (fun key => (owner key).isSome) (fun key data => ∃ q, (q, ⟨key, data⟩) ∈ w.log)
      (fun key data => env.digestVerify key data (m.value "signature"))

def network (env : Env κ ρ) (owner : EvpPkey → Option Pid) : System (Net κ Pid) (Pid × Op × Ambient ρ) :=
  (plugin env).net (Admissible env owner)

/-! ## Transcripts -/

/-- A transcript tells whether the hashes are in it, what it is for, and what it covers besides them. -/
theorem SignedContents.transcript_parts {o o' : Bool} {x y : SignedContents} (heq : x.transcript o = y.transcript o') :
    x.role = y.role ∧ x.challenge1 = y.challenge1 ∧ x.challenge2 = y.challenge2 ∧ x.kemPublic = y.kemPublic ∧
      x.kemCiphertext = y.kemCiphertext := by
  have hlength : ∀ o (z : SignedContents), (z.transcript o).length = if o then 6 else 4 := by
    rintro o ⟨_ | _, _⟩ <;> cases o <;> rfl
  have ho : o = o' := by
    have h := congrArg List.length heq
    rw [hlength, hlength] at h
    revert h
    cases o <;> cases o' <;> simp
  subst ho
  exact transcript_common heq

/-! ## The calls that sign -/

theorem exec_signed (hmem : signed ∈ (exec env s (op, amb)).2) : Allocates amb s ∧
    ((∃ inp r l pdata h out s', op = .beginHandshakeReply inp r l pdata ∧
        beginHandshakeReply env amb inp r l pdata s = (.ok (h, out, signed), s')) ∨
      ∃ m h out s', op = .processHandshake m h ∧
        processHandshake env amb m h s = (.ok (.okFinalMessage out signed), s')) := by
  obtain ⟨ha, released, s', hrun, hmem⟩ := exec_released hmem
  refine ⟨ha, ?_⟩
  cases op with
  | beginHandshakeReply inp r l pdata =>
    obtain ⟨rx, hx, hres⟩ := Act.bind_pure_eq.1 hrun
    rcases rx with e | ⟨h, out, signed'⟩
    · cases hres
    · obtain rfl := Except.ok.inj hres
      obtain rfl := List.mem_singleton.1 hmem
      exact .inl ⟨inp, r, l, pdata, h, out, s', rfl, hx⟩
  | processHandshake m h =>
    obtain ⟨rx, hx, hres⟩ := Act.bind_pure_eq.1 hrun
    rcases rx with e | result
    · cases hres
    · obtain rfl := Except.ok.inj hres
      cases result with
      | ok => cases hmem
      | okFinalMessage out signed' =>
        obtain rfl := List.mem_singleton.1 hmem
        exact .inr ⟨m, h, out, s', rfl, hx⟩
  | _ =>
    obtain ⟨rx, -, hres⟩ := Act.bind_pure_eq.1 hrun
    rcases rx with e | v
    · cases hres
    · obtain rfl := Except.ok.inj hres
      cases hmem

/-- A Reply that was handed out, with the handshake it was made for. -/
structure ReplyReleased (env : Env κ ρ) (amb : Ambient ρ) (s : Authentication κ) (inp : Token) (h : Handle) (out : Token)
    (signed : Signed) (s' : Authentication κ) (c c' : Context κ) : Prop where
  points : Points s c
  context : s'.context h = some c'
  key : signed.key = c.localIdentity.privateKey
  data : signed.data = (c'.contents .reply out).octets env s.includeOptional
  kemPublic : out.value "pqsec-dds.kem_public" = inp.value "pqsec-dds.kem_public"
  kemCiphertext : c'.handshake.kemCt = some (out.value "pqsec-dds.kem_ciphertext")
  holds : Holds env s.kem amb.encapSeed inp c'.handshake

theorem beginHandshakeReply_released {tr : Trace (Authentication κ) (Op × Ambient ρ)} (hr : Run (plugin env).solo tr s)
    (ha : Allocates amb s) (hrun : beginHandshakeReply env amb inp r l pdata s = (.ok (h, out, signed), s')) :
    ∃ c c', ReplyReleased env amb s inp h out signed s' c c' := by
  rcases beginHandshakeReply_cases ha hrun (by simp) with ⟨⟨e, he⟩, -⟩ | ⟨h', c, c', rx, hres, hon⟩
  · cases he
  rcases rx with e | v
  · cases hres
  obtain ⟨rfl, rfl⟩ := Prod.mk.inj (Except.ok.inj hres)
  have hframe : c.Frame c' := makeReply_frame.result hon.run
  have hm := hon.moved
  have hleft : remaining (s.handshake h) (.ok (out, signed) : Except Stop (Token × Signed)) c'.handshake =
      some c'.handshake := by simp [remaining, Except.isOk, Except.toBool]
  rw [hleft] at hm
  obtain ⟨cert, c₁, ct, ss, hacc, -⟩ := makeReply_ok hon.run
  have hreply := makeReply_reply hon.run
  obtain ⟨ct', ss', hout, hct, hss, henc⟩ := hreply.kem.encapsulated
  obtain ⟨_, _, _, hover⟩ := hreply.signed
  have hsize := hacc.kemPublic
  have hkem := run_kagree hr _ _ hon.points.localIdentity
  rw [hkem] at hsize henc
  refine ⟨c, c', hon.points, hm.context hframe, hover.key, makeReply_signed hon.run, ?_, ?_, hsize, ct', ss', hct, hss, henc⟩
  · exact Token.value_eq (hreply.kem.kemPublic.trans hreply.kem.requested)
  · rw [hct, Token.value_eq hout]

/-- A Final that was handed out, with the handshake it completes. -/
structure FinalReleased (env : Env κ ρ) (s : Authentication κ) (m : Token) (h : Handle) (signed : Signed)
    (s' : Authentication κ) (c c' : Context κ) (keypair : KemKeypair κ) (x : SharedSecret) : Prop where
  before : s.context h = some c
  after : s'.context h = some c'
  createdIn : c'.handshake.createdIn = .createdRequest
  key : signed.key = c.localIdentity.privateKey
  data : signed.data = (c'.contents .final m).octets env s.includeOptional
  size : (m.value "pqsec-dds.kem_public").length = getKemPublicKeySize s.kem
  kemPublic_ne_nil : m.value "pqsec-dds.kem_public" ≠ []
  stored : c.handshake.kemKeypair = some keypair
  secret : ∃ ss, env.decapsulate keypair.key (m.value "pqsec-dds.kem_ciphertext") = some ss ∧
    c'.handshake.kemSs = some ss ∧ x.sharedSecret = env.sha256 ss
  accepted : Accepted env s.includeOptional m c c' x

theorem processHandshake_released {tr : Trace (Authentication κ) (Op × Ambient ρ)} (hr : Run (plugin env).solo tr s)
    (hrun : processHandshake env amb m h s = (.ok (.okFinalMessage out signed), s')) :
    ∃ c c' keypair x, FinalReleased env s m h signed s' c c' keypair x := by
  rcases processHandshake_cases hrun (by simp) with ⟨⟨e, he⟩, -⟩ | ⟨c, c', rx, hres, hon⟩
  · cases he
  rcases rx with e | ⟨v, certExp⟩
  · cases hres
  obtain rfl : HandshakeResult.okFinalMessage out signed = v := Except.ok.inj hres
  obtain ⟨timer, hcontext⟩ := hon.context
  obtain ⟨x, haccepted⟩ := processToken_accepted hon.run
  have hdata := processToken_signed hon.run
  have hframe : c.Frame c' := processToken_frame.result hon.run
  rcases processToken_ok hon.run with ⟨out', signed', cert, key, keypair, ss, heq, hstep, c₁, hacc, c₂, hfin, hdone⟩ | ⟨hv, -⟩
  · obtain ⟨rfl, rfl⟩ := HandshakeResult.okFinalMessage.inj heq
    obtain ⟨⟨ss', challenge1, challenge2, hss, -, -, rfl⟩, -⟩ := hdone
    obtain ⟨challenge1', challenge2', signature, hch₁, hch₂, hout, -⟩ := hfin.token
    obtain ⟨y, hy, hych⟩ := hacc.lchallenge
    have hkey := hfin.key
    have hstored := hfin.stored
    obtain rfl := hfin.state
    obtain rfl : ss = ss' := Option.some.inj hss
    obtain ⟨z, hz, rfl⟩ := hacc.state
    rw [accepted_relation] at hch₁ hch₂
    obtain rfl := Option.some.inj (hy.symm.trans hch₁)
    obtain rfl := Option.some.inj hch₂
    rw [accepted_localIdentity] at hkey
    rw [accepted_handshake_reply] at hstored
    have hsize := hacc.kemPublic
    rw [run_kagree hr _ _ hon.points.localIdentity] at hsize
    obtain ⟨cert', key', hv⟩ := haccepted.verified
    refine ⟨c, _, keypair, x, context_eq_some.2 ⟨hon.handshake, hon.points⟩, hcontext, hframe.createdIn.trans hstep, hkey, ?_,
      hsize, hacc.kemPublic_ne_nil, hstored, ⟨ss, hfin.decapsulated, rfl, ?_⟩,
      ⟨haccepted.secret, haccepted.derived, ⟨cert', key', hv.stored, hv.pubkey, hv.canSign, hv.verify⟩, haccepted.challenge1,
        haccepted.challenge2⟩⟩
    · rw [hdata, hout]
      change SignedContents.octets env _ ((c.accepted env m .reply cert z).contents .final _) =
        SignedContents.octets env _ ((c.accepted env m .reply cert z).contents .final m)
      rw [finalToken_contents, hych, hz]
      rfl
    · obtain ⟨ss', hss', hderived⟩ := haccepted.derived
      obtain rfl := Option.some.inj hss'
      exact hderived
  · cases hv

/-! ## Whose signature it is -/

variable {owner : EvpPkey → Option Pid} {w : Net κ Pid} {tr : Trace (Net κ Pid) (Pid × Op × Ambient ρ)} {p q : Pid}

/-- The private keys `p` holds are its own or nobody's. -/
def OwnKeys (owner : EvpPkey → Option Pid) (p : Pid) (s : Authentication κ) : Prop :=
  ∀ l identity q, s.localIdentity l = some identity → owner identity.privateKey = some q → q = p

theorem ownKeys (hr : Run (network env owner) tr w) (p : Pid) : OwnKeys owner p (w.node p) := by
  refine Machine.net_inv (I := fun _ p s => OwnKeys owner p s) (fun {_ _ _ _} _ h => h) ?_ ?_ hr p
  · rintro p _ ⟨optional, kem, rfl⟩ l identity q hl
    cases hl
  · rintro w p ⟨op, amb⟩ hok ih l identity q hl hq
    have he : Effect env amb (w.node p) op _ := exec_effect (w.node p) op amb
    rcases he.localIdentity_cases hl with ⟨old, _, _, _, hold, rfl⟩ | ⟨qos, candidate, _, rfl, -, -, hmade⟩
    · exact ih l old q hold hq
    · exact hok.own qos candidate _ _ _ _ _ _ q rfl hmade.loaded hq

/-- The call of `p` that handed the signature out, in a state that `p` reached by earlier calls. -/
structure Origin (env : Env κ ρ) (tr : Trace (Net κ Pid) (Pid × Op × Ambient ρ)) (p : Pid) (signed : Signed)
    (w₀ : Net κ Pid) (op : Op) (amb : Ambient ρ) (earlier : Trace (Authentication κ) (Op × Ambient ρ)) : Prop where
  mem : (w₀, p, op, amb) ∈ tr
  released : signed ∈ (exec env (w₀.node p) (op, amb)).2
  reached : Run (plugin env).solo earlier (w₀.node p)
  earlier : earlier ⊆ Machine.calls p tr

/-- A signature with the key of `q` was handed out by a call of `q`. -/
theorem signed_origin (hr : Run (network env owner) tr w) (hlog : (p, signed) ∈ w.log) (hq : owner signed.key = some q) :
    ∃ w₀ op amb earlier, Origin env tr q signed w₀ op amb earlier := by
  obtain ⟨w₀, ⟨op, amb⟩, hmem, hreleased⟩ := Machine.log_origin hr p signed hlog
  obtain ⟨tr₁, tr₀, w₁, rfl, hr₀, -, -⟩ := hr.of_mem hmem
  have hsolo := Machine.net_solo hr₀ p
  have hsub : Machine.calls p tr₀ ⊆ Machine.calls p (tr₁ ++ (w₀, p, op, amb) :: tr₀) := by
    rintro ⟨s, call⟩ hs
    obtain ⟨w₂, hw₂, rfl⟩ := Machine.mem_calls.1 hs
    exact Machine.mem_calls.2 ⟨w₂, List.mem_append_right _ (List.mem_cons_of_mem _ hw₂), rfl⟩
  have hown : ∀ {c : Context κ}, Points (w₀.node p) c → signed.key = c.localIdentity.privateKey → q = p := by
    intro c hp hkey
    rw [hkey] at hq
    exact ownKeys hr₀ p _ _ q hp.localIdentity hq
  have hqp : q = p := by
    obtain ⟨ha, ⟨inp, r, l, pdata, h, out, s', rfl, hrun⟩ | ⟨m, h, out, s', rfl, hrun⟩⟩ := exec_signed hreleased
    · obtain ⟨c, c', hrel⟩ := beginHandshakeReply_released hsolo ha hrun
      exact hown hrel.points hrel.key
    · obtain ⟨c, c', keypair, x, hrel⟩ := processHandshake_released hsolo hrun
      exact hown (context_eq_some.1 hrel.before).2 hrel.key
  subst hqp
  exact ⟨w₀, op, amb, _, hmem, hreleased, hsolo, hsub⟩

/-- A signature that `process_handshake` verified with the key of `q` was handed out by a call of `q`. -/
theorem verified_origin (hr : Run (network env owner) tr w) (hok : Admissible env owner w p (.processHandshake m h, amb))
    {transcript : List BinaryProperty} {cert : X509} (hv : Verified env c transcript (m.value "signature") cert key)
    (hq : owner key = some q) :
    ∃ w₀ op amb₀ earlier, Origin env tr q ⟨key, env.serializeArray transcript⟩ w₀ op amb₀ earlier := by
  obtain ⟨p', hlog⟩ := hok.unforged m h rfl key (env.serializeArray transcript) (by simp [hq]) hv.verify
  exact signed_origin hr hlog hq

/-! ## The initiator -/

/-- `B` made the Reply `m`, up to what is not signed, for a Request with the public key `kemPublic`, and its handshake holds
the secret `ss`. -/
def BuiltBy (env : Env κ ρ) (tr : Trace (Net κ Pid) (Pid × Op × Ambient ρ)) (B : Pid) (signed : Signed) (m : Token)
    (kemPublic ss : Octets) : Prop :=
  ∃ w₀ inp r l pdata amb h out s₁ hs, (w₀, B, .beginHandshakeReply inp r l pdata, amb) ∈ tr ∧ Allocates amb (w₀.node B) ∧
    beginHandshakeReply env amb inp r l pdata (w₀.node B) = (.ok (h, out, signed), s₁) ∧
    { out.parts with signature := m.value "signature" } = m.parts ∧
    inp.value "pqsec-dds.kem_public" = kemPublic ∧ s₁.handshake h = some hs ∧ hs.kemSs = some ss

theorem transcript_createdRequest {optional : Bool} (hcreated : c.handshake.createdIn = .createdRequest) :
    c.transcript optional m = (c.contents .reply m).transcript optional := by
  simp only [transcript, hcreated]
  rfl

theorem transcript_createdReply {optional : Bool} (hcreated : c.handshake.createdIn = .createdReply) :
    c.transcript optional m = (c.contents .final m).transcript optional := by
  simp only [transcript, hcreated]
  rfl

/-- Whoever decapsulates with the key pair whose public half was encapsulated to has the same secret. -/
theorem Holds.agree {kind kind' : AuthAlgoKind} {seed : ρ} {hs : HandshakeInfo κ} {keypair : KemKeypair κ} {ct ss ss' : Octets}
    {calls : Trace (Authentication κ) (Op × Ambient ρ)} (hkem : (env.kem kind).Correct) (hholds : Holds env kind seed inp hs)
    (hct : hs.kemCt = some ct) (hss : hs.kemSs = some ss) (hrequested : Requested env calls kind' keypair)
    (hpublic : inp.value "pqsec-dds.kem_public" = keypair.publicKey) (hne : keypair.publicKey ≠ [])
    (hsize : keypair.publicKey.length = getKemPublicKeySize kind') (hdec : env.decapsulate keypair.key ct = some ss') :
    ss' = ss := by
  obtain ⟨hlength, ct₁, ss₁, hct₁, hss₁, henc⟩ := hholds
  obtain rfl := Option.some.inj (hct₁.symm.trans hct)
  obtain rfl := Option.some.inj (hss₁.symm.trans hss)
  obtain ⟨hkind, _, _, _, _, _, -, hgen⟩ := hrequested
  rw [hpublic] at hlength henc
  have hpos : getKemPublicKeySize kind' ≠ 0 := by
    rw [← hsize]
    intro hzero
    exact hne (List.length_eq_zero_iff.1 hzero)
  have hkinds : kind' = kind := getKemPublicKeySize_inj (hsize.symm.trans hlength) hpos
  exact KemKeypair.agree hkem hgen (hkind.trans hkinds) henc hdec

/-- A Reply that was built for a Request has the public key of that Request. -/
theorem BuiltBy.kemPublic {B : Pid} {kemPublic ss : Octets} (hr : Run (network env owner) tr w)
    (hbuilt : BuiltBy env tr B signed m kemPublic ss) : m.value "pqsec-dds.kem_public" = kemPublic := by
  obtain ⟨w₀, inp, r, l, pdata, amb, h, out, s₁, hs, hmem, ha, hrun, hparts, hpublic, -⟩ := hbuilt
  obtain ⟨tr₁, tr₀, w₁, -, hr₀, -, -⟩ := hr.of_mem hmem
  obtain ⟨c, c', hrel⟩ := beginHandshakeReply_released (Machine.net_solo hr₀ B) ha hrun
  have hsame : out.value "pqsec-dds.kem_public" = m.value "pqsec-dds.kem_public" := congrArg SignedParts.kemPublic hparts
  rw [← hsame, hrel.kemPublic, hpublic]

/-- **Agreement of the initiator.** When `process_handshake` accepts a Reply under the key of `B`, then `B` built this Reply
for a Request with the public half of the handshake's key pair, and holds the same secret, exactly if the Reply has that
public half in it. -/
theorem initiator_agreement (env : Env κ ρ) (owner : EvpPkey → Option Pid) (hinj : Function.Injective env.serializeArray)
    (hkem : ∀ kind, (env.kem kind).Correct) {tr : Trace (Net κ Pid) (Pid × Op × Ambient ρ)} {w : Net κ Pid}
    (hr : Run (network env owner) tr w) {A : Pid} {amb : Ambient ρ} {m out : Token} {h : Handle} {signed : Signed}
    {s' : Authentication κ} (hok : Admissible env owner w A (.processHandshake m h, amb))
    (hrun : processHandshake env amb m h (w.node A) = (.ok (.okFinalMessage out signed), s')) :
    ∃ c c' cert key keypair ss, (w.node A).context h = some c ∧ s'.context h = some c' ∧
      Verified env c' (c'.transcript (w.node A).includeOptional m) (m.value "signature") cert key ∧
      c.handshake.kemKeypair = some keypair ∧ c'.handshake.kemSs = some ss ∧
      ∀ B, owner key = some B →
        (BuiltBy env tr B ⟨key, env.serializeArray (c'.transcript (w.node A).includeOptional m)⟩ m keypair.publicKey ss ↔
          m.value "pqsec-dds.kem_public" = keypair.publicKey) := by
  have hsolo := Machine.net_solo hr A
  obtain ⟨c, c', keypair, x, hfinal⟩ := processHandshake_released hsolo hrun
  obtain ⟨cert, key, hv⟩ := hfinal.accepted.verified
  obtain ⟨ss, hdec, hss, -⟩ := hfinal.secret
  refine ⟨c, c', cert, key, keypair, ss, hfinal.before, hfinal.after, hv, hfinal.stored, hss, fun B hB => ?_⟩
  constructor
  · intro hbuilt
    exact hbuilt.kemPublic hr
  · intro hpublic
    obtain ⟨w₀, op, amb₀, earlier, horigin⟩ := verified_origin hr hok hv hB
    obtain ⟨ha, ⟨inp, r, l, pdata, h₀, out₀, s₁, rfl, hrun₀⟩ | ⟨m₀, h₀, out₀, s₁, rfl, hrun₀⟩⟩ := exec_signed horigin.released
    · obtain ⟨c₀, c₀', hrel⟩ := beginHandshakeReply_released horigin.reached ha hrun₀
      have hdata : env.serializeArray (c'.transcript (w.node A).includeOptional m) = _ := hrel.data
      rw [transcript_createdRequest hfinal.createdIn] at hdata
      obtain ⟨-, hch₁, hch₂, hpk, hct⟩ := SignedContents.transcript_parts (hinj hdata)
      obtain ⟨ct₀, ss₀, hct₀, hss₀, -⟩ := hrel.holds.encapsulated
      have hsame : ss = ss₀ := by
        refine hrel.holds.agree (hkem _) hrel.kemCiphertext hss₀ (run_requested hsolo _ _ _ (context_eq_some.1 hfinal.before).1
          hfinal.stored) ?_ ?_ ?_ ?_
        · rw [← hrel.kemPublic]
          exact hpk.symm.trans hpublic
        · rw [← hpublic]
          exact hfinal.kemPublic_ne_nil
        · rw [← hpublic]
          exact hfinal.size
        · rw [← hdec]
          exact congrArg _ hct.symm
      refine ⟨w₀, inp, r, l, pdata, amb₀, h₀, out₀, s₁, c₀'.handshake, horigin.mem, ha, hrun₀, ?_, ?_,
        (context_eq_some.1 hrel.context).1, hsame ▸ hss₀⟩
      · simp only [contents] at hch₁ hch₂ hpk hct
        simp only [Token.parts, hch₁, hch₂, hpk, hct]
      · rw [← hrel.kemPublic]
        exact hpk.symm.trans hpublic
    · obtain ⟨c₀, c₀', keypair₀, x₀, hrel⟩ := processHandshake_released horigin.reached hrun₀
      have hdata : env.serializeArray (c'.transcript (w.node A).includeOptional m) = _ := hrel.data
      rw [transcript_createdRequest hfinal.createdIn] at hdata
      obtain ⟨hrole, -⟩ := SignedContents.transcript_parts (hinj hdata)
      cases hrole

/-! ## The replier -/

/-- What `get_shared_secret` returns right after the call. -/
theorem processHandshake_getSharedSecret {result : HandshakeResult} {x : SharedSecret}
    (hrun : processHandshake env amb m h s = (.ok result, s')) (hc : s'.context h = some c')
    (hx : c'.handshake.sharedSecret = some x) : getSharedSecret h s' = (.ok (some x), s') :=
  getSharedSecret_some.2 ⟨rfl, processHandshake_handle hrun, _, (context_eq_some.1 hc).1, hx⟩

/-- `A` made the Final with this signature for the Reply `m`, when the handshake had the key pair; right after that call
`get_shared_secret` returned `x`. -/
def FinishedBy (env : Env κ ρ) (tr : Trace (Net κ Pid) (Pid × Op × Ambient ρ)) (A : Pid) (signed : Signed) (m : Token)
    (keypair : KemKeypair κ) (x : SharedSecret) : Prop :=
  ∃ w₀ h amb out s₁ c, (w₀, A, .processHandshake m h, amb) ∈ tr ∧ Allocates amb (w₀.node A) ∧
    processHandshake env amb m h (w₀.node A) = (.ok (.okFinalMessage out signed), s₁) ∧
    (w₀.node A).context h = some c ∧ c.handshake.kemKeypair = some keypair ∧ getSharedSecret h s₁ = (.ok (some x), s₁)

/-- `A` generated the public key in the Request `inp`, accepted a Reply with this key and the ciphertext `ct`, and has the
secret and the challenges of `x`. -/
def AgreedBy (env : Env κ ρ) (tr : Trace (Net κ Pid) (Pid × Op × Ambient ρ)) (A : Pid) (signed : Signed) (inp : Token)
    (ct : Octets) (x : SharedSecret) : Prop :=
  ∃ m keypair kind, FinishedBy env tr A signed m keypair x ∧ Requested env (Machine.calls A tr) kind keypair ∧
    keypair.publicKey = inp.value "pqsec-dds.kem_public" ∧
    m.value "pqsec-dds.kem_public" = inp.value "pqsec-dds.kem_public" ∧ m.value "pqsec-dds.kem_ciphertext" = ct

/-- What is known of the call behind `FinishedBy`. -/
theorem FinishedBy.released {A : Pid} {keypair : KemKeypair κ} {x : SharedSecret} (hr : Run (network env owner) tr w)
    (hfinished : FinishedBy env tr A signed m keypair x) :
    ∃ (w₀ : Net κ Pid) (h : Handle) (s₁ : Authentication κ) (c c' : Context κ) (earlier : Trace _ _),
      FinalReleased env (w₀.node A) m h signed s₁ c c' keypair x ∧
      Run (plugin env).solo earlier (w₀.node A) ∧ earlier ⊆ Machine.calls A tr := by
  obtain ⟨w₀, h, amb, out, s₁, c, hmem, ha, hrun, hc, hkeypair, hsecret⟩ := hfinished
  obtain ⟨-, -, hs, hh, hx⟩ := getSharedSecret_some.1 hsecret
  obtain ⟨tr₁, tr₀, w₁, rfl, hr₀, -, -⟩ := hr.of_mem hmem
  obtain ⟨c₁, c₁', keypair₁, x₁, hrel⟩ := processHandshake_released (Machine.net_solo hr₀ A) hrun
  obtain rfl := Option.some.inj (hrel.before.symm.trans hc)
  obtain rfl := Option.some.inj ((context_eq_some.1 hrel.after).1.symm.trans hh)
  obtain rfl := Option.some.inj (hrel.stored.symm.trans hkeypair)
  obtain rfl := Option.some.inj (hrel.accepted.secret.symm.trans hx)
  refine ⟨w₀, h, s₁, c₁, c₁', _, hrel, Machine.net_solo hr₀ A, ?_⟩
  rintro ⟨s, call⟩ hs
  obtain ⟨w₂, hw₂, rfl⟩ := Machine.mem_calls.1 hs
  exact Machine.mem_calls.2 ⟨w₂, List.mem_append_right _ (List.mem_cons_of_mem _ hw₂), rfl⟩

theorem Requested.mono {calls calls' : Trace (Authentication κ) (Op × Ambient ρ)} {kind : AuthAlgoKind}
    {keypair : KemKeypair κ} (hrequested : Requested env calls kind keypair) (hsub : calls ⊆ calls') :
    Requested env calls' kind keypair := by
  obtain ⟨hkind, s₀, l, r, pdata, amb, hmem, hgen⟩ := hrequested
  exact ⟨hkind, s₀, l, r, pdata, amb, hsub hmem, hgen⟩

/-- What `process_handshake` established when it accepted a Final. -/
structure FinalChecked (env : Env κ ρ) (s : Authentication κ) (m : Token) (h : Handle) (s' : Authentication κ)
    (c c' : Context κ) (ct ss : Octets) (x : SharedSecret) : Prop where
  before : s.context h = some c
  after : s'.context h = some c'
  createdIn : c.handshake.createdIn = .createdReply
  created' : c'.handshake.createdIn = .createdReply
  kemCt : c.handshake.kemCt = some ct
  kemSs : c.handshake.kemSs = some ss
  secret : x.sharedSecret = env.sha256 ss
  accepted : Accepted env s.includeOptional m c c' x

theorem processHandshake_checked {calls : Trace (Authentication κ) (Op × Ambient ρ)}
    (hr : Run (plugin env).solo calls s) (hrun : processHandshake env amb m h s = (.ok .ok, s')) :
    ∃ c c' inp ct ss x, FinalChecked env s m h s' c c' ct ss x ∧ AnsweredFor env calls s.kem h c.handshake inp := by
  rcases processHandshake_cases hrun (by simp) with ⟨⟨e, he⟩, -⟩ | ⟨c, c', rx, hres, hon⟩
  · cases he
  rcases rx with e | ⟨v, certExp⟩
  · cases hres
  obtain rfl : HandshakeResult.ok = v := Except.ok.inj hres
  obtain ⟨timer, hcontext⟩ := hon.context
  obtain ⟨x, haccepted⟩ := processToken_accepted hon.run
  have hframe : c.Frame c' := processToken_frame.result hon.run
  rcases processToken_ok hon.run with ⟨_, _, _, _, _, _, heq, -⟩ | ⟨-, cert, key, hstep, hacc, hdone⟩
  · cases heq
  · obtain ⟨inp, hans⟩ := run_answeredFor hr _ _ hon.handshake hstep
    have hholds := hans
    obtain ⟨_, _, _, _, _, _, _, -, -, -, -, ct, ss, hct, hss, -⟩ := hholds
    obtain ⟨cert', key', hv⟩ := haccepted.verified
    refine ⟨c, _, inp, ct, ss, x, ⟨context_eq_some.2 ⟨hon.handshake, hon.points⟩, hcontext, hstep,
      hframe.createdIn.trans hstep, hct, hss, ?_, haccepted.secret, haccepted.derived,
      ⟨cert', key', hv.stored, hv.pubkey, hv.canSign, hv.verify⟩, haccepted.challenge1, haccepted.challenge2⟩, hans⟩
    obtain ⟨⟨ss', challenge1, challenge2, hss', -, -, rfl⟩, -⟩ := hdone
    obtain rfl := Option.some.inj (hss.symm.trans hss')
    have hx : SharedSecret.mk challenge1 challenge2 (env.sha256 ss) = x := Option.some.inj haccepted.secret
    rw [← hx]

/-- **Agreement of the replier.** When `process_handshake` accepts a Final under the key of `A`, then `A` generated the public
key that was encapsulated to, accepted a Reply with it and with the ciphertext, and has the same challenges and secret,
exactly if the Final repeats the key and the ciphertext, and the Reply for which `A` made it had the public half of its key
pair. -/
theorem replier_agreement (env : Env κ ρ) (owner : EvpPkey → Option Pid) (hinj : Function.Injective env.serializeArray)
    (hkem : ∀ kind, (env.kem kind).Correct) {tr : Trace (Net κ Pid) (Pid × Op × Ambient ρ)} {w : Net κ Pid}
    (hr : Run (network env owner) tr w) {B : Pid} {amb : Ambient ρ} {m : Token} {h : Handle} {s' : Authentication κ}
    (hok : Admissible env owner w B (.processHandshake m h, amb))
    (hrun : processHandshake env amb m h (w.node B) = (.ok .ok, s')) :
    ∃ c c' cert key inp ct x, (w.node B).context h = some c ∧ s'.context h = some c' ∧
      Verified env c' (c'.transcript (w.node B).includeOptional m) (m.value "signature") cert key ∧
      AnsweredFor env (Machine.calls B tr) (w.node B).kem h c.handshake inp ∧ c.handshake.kemCt = some ct ∧
      getSharedSecret h s' = (.ok (some x), s') ∧
      ∀ A signed, owner key = some A → signed = ⟨key, env.serializeArray (c'.transcript (w.node B).includeOptional m)⟩ →
        (∃ m' keypair x', FinishedBy env tr A signed m' keypair x') ∧
        (AgreedBy env tr A signed inp ct x ↔
          m.value "pqsec-dds.kem_public" = inp.value "pqsec-dds.kem_public" ∧ m.value "pqsec-dds.kem_ciphertext" = ct ∧
            ∃ m' keypair x', FinishedBy env tr A signed m' keypair x' ∧
              m'.value "pqsec-dds.kem_public" = keypair.publicKey) := by
  have hsolo := Machine.net_solo hr B
  obtain ⟨c, c', inp, ct, ss, x, hchecked, hans⟩ := processHandshake_checked hsolo hrun
  obtain ⟨cert, key, hv⟩ := hchecked.accepted.verified
  refine ⟨c, c', cert, key, inp, ct, x, hchecked.before, hchecked.after, hv, hans, hchecked.kemCt,
    processHandshake_getSharedSecret hrun hchecked.after hchecked.accepted.secret, ?_⟩
  rintro A signed hA rfl
  rw [transcript_createdReply hchecked.created']
  have hsame : ∀ {s₁ s₂ m' h' c₁ c₁' keypair x'}, FinalReleased env s₁ m' h'
      ⟨key, env.serializeArray ((c'.contents .final m).transcript (w.node B).includeOptional)⟩ s₂ c₁ c₁' keypair x' →
      m.value "challenge1" = m'.value "challenge1" ∧ m.value "challenge2" = m'.value "challenge2" ∧
        m.value "pqsec-dds.kem_public" = m'.value "pqsec-dds.kem_public" ∧
        m.value "pqsec-dds.kem_ciphertext" = m'.value "pqsec-dds.kem_ciphertext" := by
    intro s₁ s₂ m' h' c₁ c₁' keypair x' hrel
    obtain ⟨-, hparts⟩ := SignedContents.transcript_parts (hinj hrel.data)
    exact hparts
  refine ⟨?_, ?_, ?_⟩
  · rw [transcript_createdReply hchecked.created'] at hv
    obtain ⟨w₀, op, amb₀, earlier, horigin⟩ := verified_origin hr hok hv hA
    obtain ⟨ha, ⟨inp₀, r, l, pdata, h₀, out, s₁, rfl, hrun₀⟩ | ⟨m', h₀, out, s₁, rfl, hrun₀⟩⟩ := exec_signed horigin.released
    · obtain ⟨c₀, c₀', hrel⟩ := beginHandshakeReply_released horigin.reached ha hrun₀
      obtain ⟨hrole, -⟩ := SignedContents.transcript_parts (hinj hrel.data)
      cases hrole
    · obtain ⟨c₀, c₀', keypair, x', hrel⟩ := processHandshake_released horigin.reached hrun₀
      exact ⟨m', keypair, x', w₀, h₀, amb₀, out, s₁, c₀, horigin.mem, ha, hrun₀, hrel.before, hrel.stored,
        processHandshake_getSharedSecret hrun₀ hrel.after hrel.accepted.secret⟩
  · rintro ⟨m', keypair, kind, hfinished, -, hown, hpublic, hct⟩
    obtain ⟨w₀, h', s₁, c₁, c₁', _, hrel, -, -⟩ := hfinished.released hr
    obtain ⟨-, -, hpk, hct'⟩ := hsame hrel
    exact ⟨hpk.trans hpublic, hct'.trans hct, m', keypair, x, hfinished, hpublic.trans hown.symm⟩
  · rintro ⟨hpublic, hct, m', keypair, x', hfinished, hown⟩
    obtain ⟨w₀, h', s₁, c₁, c₁', earlier, hrel, hsolo₀, hsub⟩ := hfinished.released hr
    obtain ⟨hch₁, hch₂, hpk, hct'⟩ := hsame hrel
    have hrequested := run_requested hsolo₀ _ _ _ (context_eq_some.1 hrel.before).1 hrel.stored
    obtain ⟨ss', hdec, -, hsecret⟩ := hrel.secret
    obtain ⟨_, _, _, _, _, amb₀, _, -, -, -, hholds⟩ := hans
    have hss : ss' = ss := by
      refine hholds.agree (hkem _) hchecked.kemCt hchecked.kemSs hrequested ?_ ?_ ?_ ?_
      · rw [← hpublic, hpk, hown]
      · rw [← hown]
        exact hrel.kemPublic_ne_nil
      · rw [← hown]
        exact hrel.size
      · rw [← hct, hct']
        exact hdec
    have hx : x' = x := by
      have h₁ : x'.challenge1 = x.challenge1 :=
        Subtype.ext ((hrel.accepted.challenge1.trans hch₁.symm).trans hchecked.accepted.challenge1.symm)
      have h₂ : x'.challenge2 = x.challenge2 :=
        Subtype.ext ((hrel.accepted.challenge2.trans hch₂.symm).trans hchecked.accepted.challenge2.symm)
      have h₃ : x'.sharedSecret = x.sharedSecret := by rw [hsecret, hchecked.secret, hss]
      cases x'
      cases x
      simp only at h₁ h₂ h₃
      rw [h₁, h₂, h₃]
    rw [hx] at hfinished
    exact ⟨m', keypair, _, hfinished, hrequested.mono hsub, by rw [← hown, ← hpk, hpublic], hpk.symm.trans hpublic,
      hct'.symm.trans hct⟩

end Protocol

/-! ## Two participants -/

namespace Ideal

abbrev SampleNet := Net UInt8 Bool

/-- The participant 3 is `false`, the participant 5 is `true`. -/
def owner (k : EvpPkey) : Option Bool := if k = key 3 0 then some false else if k = key 5 0 then some true else none

def netStart : SampleNet := ⟨fun _ => start, []⟩

def netAfter (w : SampleNet) (calls : List (Bool × SampleCall)) : SampleNet :=
  calls.foldl (fun w e => (plugin Ideal.env).act w e.1 e.2) w

theorem netAfter_node (calls : List (Bool × SampleCall)) : ∀ (w : SampleNet) (p : Bool),
    (netAfter w calls).node p = after (w.node p) ((calls.filter fun e => e.1 = p).map (·.2)) := by
  induction calls with
  | nil =>
    intro w p
    rfl
  | cons e calls ih =>
    intro w p
    have hrest := ih ((plugin Ideal.env).act w e.1 e.2) p
    rw [show netAfter w (e :: calls) = netAfter ((plugin Ideal.env).act w e.1 e.2) calls from rfl, hrest]
    by_cases he : e.1 = p
    · subst he
      simp [after, Machine.perform]
    · rw [Machine.act_node_of_ne w e.2 (Ne.symm he)]
      simp [he]

theorem admissible_local {w : SampleNet} {p : Bool} (pair : UInt8) (hp : owner (key pair 0) = some p)
    (htrusted : (w.node p).trustedCaList = [])
    (hkey : (identityOf Ideal.env (ambient 1) [] (Ideal.qos pair) (candidate pair)).toOption.map (·.2.2.1) = some (key pair 0)) :
    Admissible Ideal.env owner w p (localCall pair) where
  own := by
    intro qos cand cert ca k crl expiry guid q hop hid hq
    obtain ⟨rfl, rfl⟩ := Op.validateLocalIdentity.inj hop
    have hid' : identityOf Ideal.env (ambient 1) [] (Ideal.qos pair) (candidate pair) = .ok (cert, ca, k, crl, expiry, guid) :=
      htrusted ▸ hid
    rw [hid'] at hkey
    obtain rfl : k = key pair 0 := Option.some.inj hkey
    exact Option.some.inj (hq.symm.trans hp)
  unforged := by
    intro m h hop
    cases hop

theorem admissible_other {w : SampleNet} {p : Bool} (call : SampleCall)
    (h₁ : ∀ qos candidate, call.1 ≠ .validateLocalIdentity qos candidate) (h₂ : ∀ m h, call.1 ≠ .processHandshake m h) :
    Admissible Ideal.env owner w p call where
  own := fun qos candidate _ _ _ _ _ _ _ hop => absurd hop (h₁ qos candidate)
  unforged := fun m h hop => absurd hop (h₂ m h)

/-- The signature in the token is the one that the participant handed out. -/
theorem admissible_process {w : SampleNet} {p : Bool} {inp : Token} {h : Handle} {amb : Ambient UInt8} (q : Bool)
    (pair : UInt8) (hsig : inp.value "signature" = pair :: (inp.value "signature").tail)
    (hlog : (q, ⟨key pair 0, (inp.value "signature").tail⟩) ∈ w.log) :
    Admissible Ideal.env owner w p (.processHandshake inp h, amb) where
  own := by
    intro qos cand cert ca k crl expiry guid q hop
    cases hop
  unforged := by
    intro m' h' hop k data hk hver
    obtain ⟨rfl, -⟩ := Op.processHandshake.inj hop
    have hver : inp.value "signature" = k.pair.toUInt8 :: data := of_decide_eq_true hver
    rw [hver, List.tail_cons] at hlog hsig
    obtain ⟨hpair, -⟩ := List.cons.inj hsig
    refine ⟨q, ?_⟩
    have hkey : k = key pair 0 := by
      unfold owner at hk
      split_ifs at hk with h₃ h₅
      · rw [← hpair, h₃]
        rfl
      · rw [← hpair, h₅]
        rfl
      · cases hk
    rw [hkey]
    exact hlog

theorem net_step {tr : Trace SampleNet (Bool × SampleCall)} {calls : List (Bool × SampleCall)} {p : Bool} {call : SampleCall}
    (hr : Run (network Ideal.env owner) tr (netAfter netStart calls))
    (hok : Admissible Ideal.env owner (netAfter netStart calls) p call)
    (hdef : (plugin Ideal.env).defined ((netAfter netStart calls).node p) call) :
    Run (network Ideal.env owner) ((netAfter netStart calls, p, call) :: tr) (netAfter netStart (calls ++ [(p, call)])) := by
  refine .step hr ⟨hok, hdef, ?_⟩
  simp [netAfter]

/-- The call processes no token, and answers no Request but `inp`. -/
def QuietCall (inp : Token) (call : SampleCall) : Prop :=
  (∀ m h, call.1 ≠ .processHandshake m h) ∧ ∀ m r l pdata, call.1 = .beginHandshakeReply m r l pdata → m = inp

def Quiet (inp : Token) (tr : Trace SampleNet (Bool × SampleCall)) : Prop := ∀ e ∈ tr, QuietCall inp e.2.2

theorem quiet_step {inp : Token} {tr : Trace SampleNet (Bool × SampleCall)} {calls : List (Bool × SampleCall)} {p : Bool}
    {call : SampleCall} (hr : Run (network Ideal.env owner) tr (netAfter netStart calls)) (hquiet : Quiet inp tr)
    (hok : Admissible Ideal.env owner (netAfter netStart calls) p call)
    (hdef : (plugin Ideal.env).defined ((netAfter netStart calls).node p) call) (hcall : QuietCall inp call) :
    ∃ tr, Run (network Ideal.env owner) tr (netAfter netStart (calls ++ [(p, call)])) ∧ Quiet inp tr := by
  refine ⟨_, net_step hr hok hdef, ?_⟩
  intro e he
  rcases List.mem_cons.1 he with rfl | he
  · exact hcall
  · exact hquiet e he

/-- The two participants know each other. -/
def meeting : List (Bool × SampleCall) :=
  [(false, localCall 3), (true, localCall 5), (false, remoteCall none 5), (true, remoteCall none 3)]

theorem meeting_run (inp : Token) :
    ∃ tr, Run (network Ideal.env owner) tr (netAfter netStart meeting) ∧ Quiet inp tr := by
  have h₀ : Run (network Ideal.env owner) [] (netAfter netStart []) := .init ⟨fun _ => ⟨true, .mlKem512, rfl⟩, rfl⟩
  obtain ⟨tr₁, h₁, hq₁⟩ := quiet_step h₀ (by simp [Quiet])
    (admissible_local (p := false) 3 (by decide) (by decide +kernel) (by decide +kernel)) (by decide +kernel) ⟨nofun, nofun⟩
  obtain ⟨tr₂, h₂, hq₂⟩ := quiet_step h₁ hq₁
    (admissible_local (p := true) 5 (by decide) (by decide +kernel) (by decide +kernel)) (by decide +kernel) ⟨nofun, nofun⟩
  obtain ⟨tr₃, h₃, hq₃⟩ := quiet_step h₂ hq₂
    (admissible_other (p := false) (remoteCall none 5) nofun nofun) (by decide +kernel) ⟨nofun, nofun⟩
  exact quiet_step h₃ hq₃ (admissible_other (p := true) (remoteCall none 3) nofun nofun) (by decide +kernel) ⟨nofun, nofun⟩

/-- Alice sends a Request, and Bob answers the Request `inp`. -/
def replied (inp : Token) : List (Bool × SampleCall) :=
  meeting ++ [(false, requestCall 10 3)] ++ [(true, replyCall 10 inp 5)]

theorem replied_run {inp : Token} {released : Signed}
    (hreleased : released ∈ (exec Ideal.env (after start bobCalls) (replyCall 10 inp 5)).2) :
    ∃ tr, Run (network Ideal.env owner) tr (netAfter netStart (replied inp)) ∧ Quiet inp tr := by
  obtain ⟨tr, hr, hquiet⟩ := meeting_run inp
  obtain ⟨tr', hr', hquiet'⟩ := quiet_step hr hquiet
    (admissible_other (p := false) (requestCall 10 3) nofun nofun) (by decide +kernel) ⟨nofun, nofun⟩
  refine quiet_step hr' hquiet' (admissible_other (replyCall 10 inp 5) nofun nofun) ?_ ⟨nofun, ?_⟩
  · rw [netAfter_node]
    exact defined_of_released hreleased
  · intro m r l pdata hcall
    exact (Op.beginHandshakeReply.inj hcall).1.symm

theorem replied_node (inp : Token) :
    (netAfter netStart (replied inp)).node false = after start (aliceCalls ++ [requestCall 10 3]) :=
  netAfter_node (replied inp) netStart false

theorem netAfter_log {calls : List (Bool × SampleCall)} {p : Bool} {call : SampleCall} {released : Signed}
    (hreleased : released ∈ (exec Ideal.env ((netAfter netStart calls).node p) call).2) :
    (p, released) ∈ (netAfter netStart (calls ++ [(p, call)])).log := by
  have hact : netAfter netStart (calls ++ [(p, call)]) = (plugin Ideal.env).act (netAfter netStart calls) p call := by
    simp [netAfter]
  rw [hact]
  exact Machine.mem_act_log.2 (.inl ⟨rfl, hreleased⟩)

/-- Alice makes another Request before the Reply to the first one arrives. -/
def rerequested : List (Bool × SampleCall) := replied request ++ [(false, requestCall 12 3)]

def isFinal : Except Stop HandshakeResult → Bool
  | .ok (.okFinalMessage _ _) => true
  | _ => false

theorem isFinal_iff {res : Except Stop HandshakeResult} (hres : isFinal res = true) :
    ∃ out signed, res = .ok (.okFinalMessage out signed) := by
  rcases res with e | ⟨_ | ⟨out, signed⟩⟩
  · cases hres
  · cases hres
  · exact ⟨out, signed, rfl⟩

/-- The key of the peer of the handshake, and the public half of its own key pair. -/
def peerKey (s : State) : Option EvpPkey := ((s.context 10).bind (·.remoteIdentity.identityCert)).bind (·.pubkey)

def ownPublic (s : State) : Option Octets := ((s.context 10).bind (·.handshake.kemKeypair)).map (·.publicKey)

theorem ownPublic_eq {s : State} {c : Context UInt8} {keypair : KemKeypair UInt8} (hc : s.context 10 = some c)
    (hkeypair : c.handshake.kemKeypair = some keypair) : ownPublic s = some keypair.publicKey := by
  simp [ownPublic, hc, hkeypair]

theorem peerKey_eq {s : State} {c : Context UInt8} {cert : X509} {k : EvpPkey} (hc : s.context 10 = some c)
    (hcert : c.remoteIdentity.identityCert = some cert) (hk : cert.pubkey = some k) : peerKey s = some k := by
  simp [peerKey, hc, hcert, hk]

/-- Bob signs the Reply, and Alice processes it. -/
theorem reply_facts : (reply.value "signature" = 5 :: (reply.value "signature").tail ∧
    (⟨key 5 0, (reply.value "signature").tail⟩ : Signed) ∈
      (exec Ideal.env (after start bobCalls) (replyCall 10 request 5)).2) ∧
    isFinal (processHandshake Ideal.env (ambient 11) reply 10 (after start (aliceCalls ++ [requestCall 10 3]))).1 ∧
    peerKey (processHandshake Ideal.env (ambient 11) reply 10 (after start (aliceCalls ++ [requestCall 10 3]))).2 =
      some (key 5 0) ∧
    ownPublic (after start (aliceCalls ++ [requestCall 10 3])) = some (reply.value "pqsec-dds.kem_public") := by
  decide +kernel

theorem reply_log :
    (true, (⟨key 5 0, (reply.value "signature").tail⟩ : Signed)) ∈ (netAfter netStart (replied request)).log := by
  refine netAfter_log ?_
  rw [netAfter_node]
  exact reply_facts.1.2

theorem rerequested_run : ∃ tr, Run (network Ideal.env owner) tr (netAfter netStart rerequested) := by
  obtain ⟨tr, hr, -⟩ := replied_run reply_facts.1.2
  refine ⟨_, net_step hr (admissible_other (requestCall 12 3) nofun nofun) ?_⟩
  rw [replied_node]
  decide +kernel

theorem rerequested_facts :
    isFinal (processHandshake Ideal.env (ambient 13) reply 10
      (after start (aliceCalls ++ [requestCall 10 3, requestCall 12 3]))).1 ∧
    peerKey (processHandshake Ideal.env (ambient 13) reply 10
      (after start (aliceCalls ++ [requestCall 10 3, requestCall 12 3]))).2 = some (key 5 0) ∧
    ownPublic (after start (aliceCalls ++ [requestCall 10 3, requestCall 12 3])) ≠
      some (reply.value "pqsec-dds.kem_public") := by
  decide +kernel

end Ideal

theorem initiator_agreement_sample : ∃ tr signed kemPublic ss, BuiltBy Ideal.env tr true signed Ideal.reply kemPublic ss := by
  obtain ⟨tr, hr, -⟩ := Ideal.replied_run Ideal.reply_facts.1.2
  obtain ⟨-, hfinal, hpeer, hown⟩ := Ideal.reply_facts
  rw [← Ideal.replied_node Ideal.request] at hfinal hpeer hown
  rcases hrun : processHandshake Ideal.env (Ideal.ambient 11) Ideal.reply 10
    ((Ideal.netAfter Ideal.netStart (Ideal.replied Ideal.request)).node false) with ⟨res, s'⟩
  rw [hrun] at hfinal hpeer
  obtain ⟨out, signed, rfl⟩ := Ideal.isFinal_iff hfinal
  obtain ⟨c, c', cert, key, keypair, ss, hc, hc', hv, hkeypair, -, hiff⟩ := initiator_agreement Ideal.env Ideal.owner
    Ideal.serialize_injective Ideal.env_kem_correct hr
    (Ideal.admissible_process true 5 Ideal.reply_facts.1.1 Ideal.reply_log) hrun
  rw [Ideal.peerKey_eq hc' hv.stored hv.pubkey] at hpeer
  rw [Ideal.ownPublic_eq hc hkeypair] at hown
  obtain rfl := Option.some.inj hpeer
  exact ⟨tr, _, _, ss, (hiff true (by decide)).2 (Option.some.inj hown).symm⟩

/-- Alice accepts the Reply to her first Request when she has made a second one: her key pair is not the one that Bob
encapsulated to. -/
theorem initiator_agreement_fails : ∃ tr w amb m h out signed s' c c' cert key keypair ss,
    Run (network Ideal.env Ideal.owner) tr w ∧ Admissible Ideal.env Ideal.owner w false (.processHandshake m h, amb) ∧
    processHandshake Ideal.env amb m h (w.node false) = (.ok (.okFinalMessage out signed), s') ∧
    (w.node false).context h = some c ∧ s'.context h = some c' ∧
    Verified Ideal.env c' (c'.transcript (w.node false).includeOptional m) (m.value "signature") cert key ∧
    c.handshake.kemKeypair = some keypair ∧ c'.handshake.kemSs = some ss ∧ Ideal.owner key = some true ∧
    ∀ released, ¬ BuiltBy Ideal.env tr true released m keypair.publicKey ss := by
  obtain ⟨tr, hr⟩ := Ideal.rerequested_run
  have hnode : (Ideal.netAfter Ideal.netStart Ideal.rerequested).node false =
      Ideal.after Ideal.start (Ideal.aliceCalls ++ [Ideal.requestCall 10 3, Ideal.requestCall 12 3]) :=
    Ideal.netAfter_node Ideal.rerequested Ideal.netStart false
  have hlog : (true, (⟨Ideal.key 5 0, (Ideal.reply.value "signature").tail⟩ : Signed)) ∈
      (Ideal.netAfter Ideal.netStart Ideal.rerequested).log := by
    have hact : Ideal.netAfter Ideal.netStart Ideal.rerequested = (plugin Ideal.env).act
        (Ideal.netAfter Ideal.netStart (Ideal.replied Ideal.request)) false (Ideal.requestCall 12 3) := by
      simp [Ideal.netAfter, Ideal.rerequested]
    rw [hact]
    exact Machine.log_subset_act _ _ _ Ideal.reply_log
  obtain ⟨hfinal, hpeer, hown⟩ := Ideal.rerequested_facts
  rw [← hnode] at hfinal hpeer hown
  rcases hrun : processHandshake Ideal.env (Ideal.ambient 13) Ideal.reply 10
    ((Ideal.netAfter Ideal.netStart Ideal.rerequested).node false) with ⟨res, s'⟩
  rw [hrun] at hfinal hpeer
  obtain ⟨out, signed, rfl⟩ := Ideal.isFinal_iff hfinal
  obtain ⟨c, c', keypair, x, hrel⟩ := processHandshake_released (Machine.net_solo hr false) hrun
  obtain ⟨cert, key, hv⟩ := hrel.accepted.verified
  obtain ⟨ss, -, hss, -⟩ := hrel.secret
  rw [Ideal.peerKey_eq hrel.after hv.stored hv.pubkey] at hpeer
  rw [Ideal.ownPublic_eq hrel.before hrel.stored] at hown
  obtain rfl := Option.some.inj hpeer
  refine ⟨tr, _, _, _, 10, out, signed, s', c, c', cert, _, keypair, ss, hr,
    Ideal.admissible_process true 5 Ideal.reply_facts.1.1 hlog, hrun, hrel.before, hrel.after, hv, hrel.stored, hss,
    by decide, fun released hbuilt => hown ?_⟩
  rw [← hbuilt.kemPublic hr]

/-! ## Another public key in the Request -/

namespace Ideal

/-- Alice processes a Reply. -/
def finished (inp reply : Token) : List (Bool × SampleCall) := replied inp ++ [(false, processCall 11 reply 10)]

/-- The Request with the public key of the key 77 in place of Alice's. -/
def otherRequest : Token :=
  { request with binaryProperties := request.binaryProperties.map fun p =>
      if p.name = some (str "pqsec-dds.kem_public") then
        binaryProperty "pqsec-dds.kem_public" (Ideal.env.encodedPublicKey 77) else p }

def otherReply : Token := replyOf (after start bobCalls) 10 otherRequest 5

def otherFinal : Token := finalOf (after start (aliceCalls ++ [requestCall 10 3])) 11 otherReply 10

theorem finished_run {inp reply : Token} {released released' : Signed}
    (hreply : released ∈ (exec Ideal.env (after start bobCalls) (replyCall 10 inp 5)).2)
    (hfinal : released' ∈ (exec Ideal.env (after start (aliceCalls ++ [requestCall 10 3])) (processCall 11 reply 10)).2)
    (hsig : reply.value "signature" = 5 :: (reply.value "signature").tail)
    (hlog : (true, (⟨key 5 0, (reply.value "signature").tail⟩ : Signed)) ∈ (netAfter netStart (replied inp)).log) :
    ∃ tr, Run (network Ideal.env owner) ((netAfter netStart (replied inp), false, processCall 11 reply 10) :: tr)
      (netAfter netStart (finished inp reply)) ∧ Quiet inp tr := by
  obtain ⟨tr, hr, hquiet⟩ := replied_run hreply
  refine ⟨tr, net_step hr (admissible_process true 5 hsig hlog) ?_, hquiet⟩
  rw [replied_node]
  exact defined_of_released hfinal

theorem finishedBy_own {inp reply m : Token} {tr : Trace SampleNet (Bool × SampleCall)} {A : Bool} {signed : Signed}
    {keypair : KemKeypair UInt8} {x : SharedSecret} (hquiet : Quiet inp tr)
    (hfinished : FinishedBy Ideal.env ((netAfter netStart (replied inp), false, processCall 11 reply 10) :: tr) A signed m
      keypair x) :
    m = reply ∧ ownPublic ((netAfter netStart (replied inp)).node false) = some keypair.publicKey := by
  obtain ⟨w₀, h, amb, out, s₁, c, hmem, -, -, hc, hkeypair, -⟩ := hfinished
  rcases List.mem_cons.1 hmem with heq | hmem
  · obtain ⟨rfl, hcall⟩ := Prod.mk.inj heq
    obtain ⟨rfl, hprocess⟩ := Prod.mk.inj hcall
    obtain ⟨hop, rfl⟩ := Prod.mk.inj hprocess
    obtain ⟨rfl, rfl⟩ := Op.processHandshake.inj hop
    exact ⟨rfl, ownPublic_eq hc hkeypair⟩
  · exact absurd rfl ((hquiet _ hmem).1 m h)

theorem answeredFor_request {inp inp' reply : Token} {tr : Trace SampleNet (Bool × SampleCall)} {kind : AuthAlgoKind}
    {h : Handle} {hs : HandshakeInfo UInt8} (hquiet : Quiet inp tr)
    (hans : AnsweredFor Ideal.env (Machine.calls true ((netAfter netStart (replied inp), false, processCall 11 reply 10) :: tr))
      kind h hs inp') : inp' = inp := by
  obtain ⟨later, s₀, r, l, pdata, amb, earlier, hcalls, -⟩ := hans
  have hmem : (s₀, Op.beginHandshakeReply inp' r l pdata, amb) ∈
      Machine.calls true ((netAfter netStart (replied inp), false, processCall 11 reply 10) :: tr) := by
    rw [hcalls]
    simp
  obtain ⟨w₀, hmem, -⟩ := Machine.mem_calls.1 hmem
  rcases List.mem_cons.1 hmem with heq | hmem
  · obtain ⟨-, hcall⟩ := Prod.mk.inj heq
    cases (Prod.mk.inj hcall).1
  · exact (hquiet _ hmem).2 _ _ _ _ rfl

def isOk : Except Stop HandshakeResult → Bool
  | .ok .ok => true
  | _ => false

theorem isOk_iff {res : Except Stop HandshakeResult} (hres : isOk res = true) : res = .ok .ok := by
  rcases res with e | ⟨_ | ⟨out, signed⟩⟩
  · cases hres
  · rfl
  · cases hres

/-- The ciphertext of the handshake. -/
def ownCt (s : State) : Option Octets := (s.context 10).bind (·.handshake.kemCt)

theorem ownCt_eq {s : State} {c : Context UInt8} {ct : Octets} (hc : s.context 10 = some c)
    (hct : c.handshake.kemCt = some ct) : ownCt s = some ct := by
  simp [ownCt, hc, hct]

theorem finished_node (inp reply : Token) :
    (netAfter netStart (finished inp reply)).node true = after start (bobCalls ++ [replyCall 10 inp 5]) :=
  netAfter_node (finished inp reply) netStart true

/-- Alice signs the Final, and Bob processes it. -/
theorem final_facts : (final.value "signature" = 3 :: (final.value "signature").tail ∧
    (⟨key 3 0, (final.value "signature").tail⟩ : Signed) ∈
      (exec Ideal.env (after start (aliceCalls ++ [requestCall 10 3])) (processCall 11 reply 10)).2) ∧
    isOk (processHandshake Ideal.env (ambient 11) final 10 (after start (bobCalls ++ [replyCall 10 request 5]))).1 ∧
    peerKey (processHandshake Ideal.env (ambient 11) final 10 (after start (bobCalls ++ [replyCall 10 request 5]))).2 =
      some (key 3 0) ∧
    ownCt (after start (bobCalls ++ [replyCall 10 request 5])) = some (final.value "pqsec-dds.kem_ciphertext") ∧
    final.value "pqsec-dds.kem_public" = request.value "pqsec-dds.kem_public" := by
  decide +kernel

theorem final_log :
    (false, (⟨key 3 0, (final.value "signature").tail⟩ : Signed)) ∈ (netAfter netStart (finished request reply)).log := by
  refine netAfter_log ?_
  rw [replied_node]
  exact final_facts.1.2

/-- Bob signs the Reply to the other Request, Alice signs the Final, and Bob processes it. -/
theorem other_facts : (otherReply.value "signature" = 5 :: (otherReply.value "signature").tail ∧
    (⟨key 5 0, (otherReply.value "signature").tail⟩ : Signed) ∈
      (exec Ideal.env (after start bobCalls) (replyCall 10 otherRequest 5)).2) ∧
    ownPublic (after start (aliceCalls ++ [requestCall 10 3])) ≠ some (otherReply.value "pqsec-dds.kem_public") ∧
    (otherFinal.value "signature" = 3 :: (otherFinal.value "signature").tail ∧
    (⟨key 3 0, (otherFinal.value "signature").tail⟩ : Signed) ∈
      (exec Ideal.env (after start (aliceCalls ++ [requestCall 10 3])) (processCall 11 otherReply 10)).2) ∧
    isOk (processHandshake Ideal.env (ambient 11) otherFinal 10
      (after start (bobCalls ++ [replyCall 10 otherRequest 5]))).1 ∧
    peerKey (processHandshake Ideal.env (ambient 11) otherFinal 10
      (after start (bobCalls ++ [replyCall 10 otherRequest 5]))).2 = some (key 3 0) := by
  decide +kernel

theorem otherReply_log : (true, (⟨key 5 0, (otherReply.value "signature").tail⟩ : Signed)) ∈
    (netAfter netStart (replied otherRequest)).log := by
  refine netAfter_log ?_
  rw [netAfter_node]
  exact other_facts.1.2

theorem otherFinal_log : (false, (⟨key 3 0, (otherFinal.value "signature").tail⟩ : Signed)) ∈
    (netAfter netStart (finished otherRequest otherReply)).log := by
  refine netAfter_log ?_
  rw [replied_node]
  exact other_facts.2.2.1.2

end Ideal

theorem replier_agreement_sample : ∃ tr signed ct x, AgreedBy Ideal.env tr false signed Ideal.request ct x := by
  obtain ⟨-, -, -, hown⟩ := Ideal.reply_facts
  obtain ⟨-, hok, hpeer, hct, hpublic⟩ := Ideal.final_facts
  rw [← Ideal.replied_node Ideal.request] at hown
  rw [← Ideal.finished_node Ideal.request Ideal.reply] at hok hpeer hct
  obtain ⟨tr, hr, hquiet⟩ := Ideal.finished_run Ideal.reply_facts.1.2 Ideal.final_facts.1.2 Ideal.reply_facts.1.1
    Ideal.reply_log
  rcases hrun : processHandshake Ideal.env (Ideal.ambient 11) Ideal.final 10
    ((Ideal.netAfter Ideal.netStart (Ideal.finished Ideal.request Ideal.reply)).node true) with ⟨res, s'⟩
  rw [hrun] at hok hpeer
  obtain rfl := Ideal.isOk_iff hok
  obtain ⟨c, c', cert, key, inp, ct, x, hc, hc', hv, hans, hkemCt, -, hiff⟩ := replier_agreement Ideal.env Ideal.owner
    Ideal.serialize_injective Ideal.env_kem_correct hr
    (Ideal.admissible_process false 3 Ideal.final_facts.1.1 Ideal.final_log) hrun
  rw [Ideal.peerKey_eq hc' hv.stored hv.pubkey] at hpeer
  rw [Ideal.ownCt_eq hc hkemCt] at hct
  obtain rfl := Option.some.inj hpeer
  rw [Ideal.answeredFor_request hquiet hans] at hiff
  obtain ⟨⟨m', keypair, x', hfinished⟩, hagreed⟩ := hiff false _ (by decide) rfl
  obtain ⟨hm, hown'⟩ := Ideal.finishedBy_own hquiet hfinished
  refine ⟨_, _, ct, x, hagreed.2 ⟨hpublic, (Option.some.inj hct).symm, m', keypair, x', hfinished, ?_⟩⟩
  rw [hm]
  exact Option.some.inj (hown.symm.trans hown')

/-- Bob accepts the Final of a handshake in which the public key of the Request was replaced on the way: Alice did not make
the key that he encapsulated to. -/
theorem replier_agreement_fails : ∃ tr w amb m h s' c c' cert key inp ct x,
    Run (network Ideal.env Ideal.owner) tr w ∧ Admissible Ideal.env Ideal.owner w true (.processHandshake m h, amb) ∧
    processHandshake Ideal.env amb m h (w.node true) = (.ok .ok, s') ∧ (w.node true).context h = some c ∧
    s'.context h = some c' ∧
    Verified Ideal.env c' (c'.transcript (w.node true).includeOptional m) (m.value "signature") cert key ∧
    AnsweredFor Ideal.env (Machine.calls true tr) (w.node true).kem h c.handshake inp ∧ c.handshake.kemCt = some ct ∧
    getSharedSecret h s' = (.ok (some x), s') ∧ Ideal.owner key = some false ∧
    ∀ signed, ¬ AgreedBy Ideal.env tr false signed inp ct x := by
  obtain ⟨⟨hsig, hreply⟩, hown, ⟨hfinal, hreleased⟩, hok, hpeer⟩ := Ideal.other_facts
  rw [← Ideal.replied_node Ideal.otherRequest] at hown
  rw [← Ideal.finished_node Ideal.otherRequest Ideal.otherReply] at hok hpeer
  obtain ⟨tr, hr, hquiet⟩ := Ideal.finished_run hreply hreleased hsig Ideal.otherReply_log
  rcases hrun : processHandshake Ideal.env (Ideal.ambient 11) Ideal.otherFinal 10
    ((Ideal.netAfter Ideal.netStart (Ideal.finished Ideal.otherRequest Ideal.otherReply)).node true) with ⟨res, s'⟩
  rw [hrun] at hok hpeer
  obtain rfl := Ideal.isOk_iff hok
  obtain ⟨c, c', inp, ct, ss, x, hchecked, hans⟩ := processHandshake_checked (Machine.net_solo hr true) hrun
  obtain ⟨cert, key, hv⟩ := hchecked.accepted.verified
  rw [Ideal.peerKey_eq hchecked.after hv.stored hv.pubkey] at hpeer
  obtain rfl := Option.some.inj hpeer
  refine ⟨_, _, _, _, 10, s', c, c', cert, _, inp, ct, x, hr,
    Ideal.admissible_process false 3 hfinal Ideal.otherFinal_log, hrun, hchecked.before, hchecked.after, hv,
    hans, hchecked.kemCt, processHandshake_getSharedSecret hrun hchecked.after hchecked.accepted.secret, by decide, ?_⟩
  rintro signed ⟨m', keypair, kind, hfinished, -, hpublic, hrequest, -⟩
  obtain ⟨hm, hown'⟩ := Ideal.finishedBy_own hquiet hfinished
  rw [hown', hpublic, ← hrequest, hm] at hown
  exact hown rfl

end PqsecDds.CycloneDDS
