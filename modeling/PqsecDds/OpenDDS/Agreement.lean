import PqsecDds.OpenDDS.Lifecycle

/-!
# Mutual agreement of the OpenDDS adapter

Any number of participants run the plugin; the network hands any token to any call. `owner` says which
participant an uncorrupted signature key belongs to. What a run may do is `Admissible`: the private key of
a participant is loaded by that participant only, and a signature that verifies under an uncorrupted key
was made with it. Everything else about the tokens is open: they may be dropped, repeated, reordered,
replayed and rewritten.

The proof has two halves. A completed handshake has verified a signature, so the owner of the key has
signed that transcript (`okFinal_signed`, `ok_signed`); and whoever signed a transcript holds a handshake
object with exactly its fields (`signed_origin`).
-/

namespace PqsecDds.OpenDDS

open Lib Authentication

variable {α κ π ρ Pid : Type} [Octet α] [DecidableEq α] [DecidableEq Pid]

abbrev Net (α κ π Pid : Type) := World Pid (Authentication α κ π) (Event α π)

/-- What the network and the participants' surroundings respect. -/
structure Admissible (env : Env α κ π ρ) (owner : π → Option Pid) (w : Net α κ π Pid) (p : Pid)
    (call : Op α × Ambient α ρ) : Prop where
  own : ∀ h props cand credentials q, call.1 = .validateLocalIdentity h props cand →
    env.loadCredentials props = some credentials → owner credentials.participantPrivateKey = some q → q = p
  unforged : ∀ out inp h, call.1 = .processHandshake out inp h →
    Unforged (fun key => (owner key).isSome) (fun key data => ∃ q, (q, .signed key data) ∈ w.log)
      (fun key data => env.verify key data (inp.getBinPropertyValue "signature"))

def network (env : Env α κ π ρ) (owner : π → Option Pid) :
    System (Net α κ π Pid) (Pid × Op α × Ambient α ρ) :=
  (plugin env).net (Admissible env owner)

/-- The values two ends of a session share. -/
structure SameSession (hs hs' : Handshake α κ π) : Prop where
  hash1 : hs.hash1 = hs'.hash1
  hash2 : hs.hash2 = hs'.hash2
  challenge1 : hs.challenge1 = hs'.challenge1
  challenge2 : hs.challenge2 = hs'.challenge2
  publicKey : hs.publicKey = hs'.publicKey
  ciphertext : hs.ciphertext = hs'.ciphertext
  secret : hs.secret = hs'.secret

/-- The idealisations: the serialization is injective, SHA-256 is free of collisions, the KEMs are
correct. -/
structure Ideal (env : Env α κ π ρ) : Prop where
  serialize : ∀ {p q d}, env.serialize p = some d → env.serialize q = some d → p = q
  sha256 : ∀ {x y d}, env.sha256 x = some d → env.sha256 y = some d → x = y
  kem : ∀ algorithm, (env.kem algorithm).Correct

variable {env : Env α κ π ρ} {owner : π → Option Pid} {w : Net α κ π Pid}
variable {tr : Trace (Net α κ π Pid) (Pid × Op α × Ambient α ρ)}

omit [DecidableEq α] in
theorem Ideal.credentialHash_inj (hI : Ideal env) {c p d c' p' d' h : OctetSeq α} {sa ka sa' ka' : Str α}
    (h1 : credentialHash env c p d sa ka = some h) (h2 : credentialHash env c' p' d' sa' ka' = some h) :
    credentialProperties c p d sa ka = credentialProperties c' p' d' sa' ka' := by
  obtain ⟨x, hx, hd⟩ := Option.bind_eq_some_iff.1 h1
  obtain ⟨y, hy, hd'⟩ := Option.bind_eq_some_iff.1 h2
  obtain rfl := hI.sha256 hd hd'
  exact hI.serialize hx hy

/-! ## Keys -/

/-- The private keys `p` holds are its own or nobody's. -/
def OwnKeys (owner : π → Option Pid) (p : Pid) (s : Authentication α κ π) : Prop :=
  ∀ l ∈ s.localHeap, ∀ q, owner l.credentials.participantPrivateKey = some q → q = p

omit [DecidableEq Pid] in
theorem OwnKeys.later {p : Pid} {amb : Ambient α ρ} {s s' : Authentication α κ π} {op : Op α}
    {ev : List (Event α π)} (h : OwnKeys owner p s) (e : Effect env amb s op s' ev)
    (hok : Admissible env owner w p (op, amb)) : OwnKeys owner p s' := by
  cases e with
  | localIdentity f g k hload _ _ =>
    intro l hl q hq
    rcases List.mem_append.1 hl with hl | hl
    · exact h l hl q hq
    · obtain rfl := List.mem_singleton.1 hl
      exact hok.own _ _ _ _ q rfl hload hq
  | @permissions _ _ i l₀ perms hl₀ _ =>
    intro l hl q hq
    rcases List.mem_or_eq_of_mem_set hl with hl | rfl
    · exact h l hl q hq
    · exact h l₀ (List.mem_of_getElem? (findLocal_eq_some.1 hl₀).2) q hq
  | _ => exact h

theorem ownKeys (hr : Run (network env owner) tr w) (p : Pid) : OwnKeys owner p (w.node p) := by
  refine Machine.net_inv (I := fun _ p s => OwnKeys owner p s) (fun {_ _ _ _} _ h => h) ?_ ?_ hr p
  · rintro p _ rfl l hl
    cases hl
  · rintro w p ⟨op, amb⟩ hok ih
    exact ih.later (exec_effect op) hok

/-! ## Who signed -/

/-- The signer of `data` has a handshake object with these fields, the Reply of a replier or the Final of
a completed initiator. -/
def SignedFor (env : Env α κ π ρ) (s : Authentication α κ π) (data : OctetSeq α) : Prop :=
  ∃ (j : Nat) (hs : Handshake α κ π), s.handshakeHeap[j]? = some hs ∧
    ((hs.initiator = false ∧ env.serialize hs.replyProperties = some data) ∨
     (hs.state = .okFinalMessage ∧ env.serialize hs.finalProperties = some data))

theorem SignedFor.later {amb : Ambient α ρ} {s s' : Authentication α κ π} {op : Op α}
    {ev : List (Event α π)} {data : OctetSeq α} (h : SignedFor env s data) (e : Effect env amb s op s' ev) :
    SignedFor env s' data := by
  obtain ⟨j, hs, hget, hcase⟩ := h
  obtain ⟨hs', hget', heq | ⟨hp, -, -, hrep⟩⟩ := e.handshake_later hget
  · rw [← heq] at hcase
    exact ⟨j, hs', hget', hcase⟩
  · refine ⟨j, hs', hget', .inl ?_⟩
    rcases hcase with ⟨hi, hser⟩ | ⟨hst, -⟩
    · rw [hrep hi]
      exact ⟨hi, hser⟩
    · rw [hst] at hp
      cases hp

/-- A signature an operation sets free is made with a key its participant holds, over the transcript of a
handshake object it has. -/
theorem signed_released {amb : Ambient α ρ} {s s' : Authentication α κ π} {op : Op α}
    {ev : List (Event α π)} {key : π} {data : OctetSeq α} (e : Effect env amb s op s' ev)
    (hmem : .signed key data ∈ ev) :
    (∃ l ∈ s.localHeap, l.credentials.participantPrivateKey = key) ∧ SignedFor env s' data := by
  cases e with
  | @reply m ih rh pd hs t key' data' h =>
    obtain ⟨l, r, sig, hl, -, hrep, -, -, -, -, -, -, -, hkey, hser, -, -⟩ := makeReply_ok h
    simp only [List.mem_cons, List.not_mem_nil, or_false, reduceCtorEq, false_or] at hmem
    obtain ⟨rfl, rfl⟩ := Event.signed.inj hmem
    refine ⟨⟨l, List.mem_of_getElem? (findLocal_eq_some.1 hl).2, hkey.symm⟩, ?_⟩
    exact ⟨s.handshakeHeap.length, hs, by simp [addHandshake], .inl ⟨hrep.initiator, hser⟩⟩
  | @process out inp h p hs l r hf hi =>
    rcases hpm : processMessage env amb l r hs h inp with ⟨o, hs'⟩
    rw [hpm] at hmem
    have hp : p < s.handshakeHeap.length := (List.getElem?_eq_some_iff.1 (findHandshake_eq_some.1 hf).2).1
    rcases processMessage_cases hpm with
      ⟨-, ⟨msg, rfl⟩, -⟩ | ⟨-, ⟨⟨msg, rfl⟩, -⟩ | ⟨d, sig, hacc, rfl⟩ | ⟨-, rfl⟩⟩
    · simp [Outcome.events, fail] at hmem
    · simp [Outcome.events, fail] at hmem
    · simp only [Outcome.events, reduceCtorEq, if_false, Option.toList_some, List.map_cons, List.map_nil,
        List.mem_cons, List.not_mem_nil, or_false, false_or] at hmem
      obtain ⟨rfl, rfl⟩ := Event.signed.inj hmem
      refine ⟨⟨l, List.mem_of_getElem? (identities_eq_some.1 hi).1, rfl⟩, ?_⟩
      exact ⟨p, hs', by simp [setHandshake, hp], .inr ⟨hacc.state, hacc.signed.1⟩⟩
    · simp [Outcome.events] at hmem
  | nothing => cases hmem
  | provider _ => cases hmem
  | localIdentity _ _ _ _ _ _ => simp at hmem
  | identityToken _ => simp at hmem
  | permissions _ _ => cases hmem
  | remoteKnown _ _ hev =>
    rcases hev with rfl | rfl | rfl <;> simp at hmem
  | remoteNew _ _ _ _ _ hev =>
    rcases hev with rfl | rfl | rfl <;> simp at hmem
  | request _ => simp at hmem
  | forgetHandshake => cases hmem
  | forgetLocal => cases hmem
  | forgetRemote => cases hmem

/-- Data signed with the key of `q` was signed by `q`, for a handshake object of its own. -/
theorem signed_origin (hr : Run (network env owner) tr w) {p q : Pid} {key : π} {data : OctetSeq α}
    (hlog : (p, .signed key data) ∈ w.log) (hq : owner key = some q) :
    q = p ∧ SignedFor env (w.node q) data := by
  have hL := Machine.net_log
    (J := fun w => ∀ p, OwnKeys owner p (w.node p))
    (L := fun p s e => ∀ key data q, e = .signed key data → owner key = some q →
      q = p ∧ SignedFor env s data)
    (fun {_ _} hr => ownKeys hr) ?_ ?_ hr p _ hlog key data q rfl hq
  · obtain ⟨rfl, hs⟩ := hL
    exact ⟨rfl, hs⟩
  · rintro w p ⟨op, amb⟩ e hJ - hmem key data q rfl hq
    obtain ⟨⟨l, hl, rfl⟩, hs⟩ := signed_released (exec_effect op) hmem
    exact ⟨hJ p l hl q hq, hs⟩
  · rintro w p ⟨op, amb⟩ e - - hL key data q he hq
    obtain ⟨hqp, hs⟩ := hL key data q he hq
    exact ⟨hqp, hs.later (exec_effect op)⟩

/-! ## What a completed handshake has verified -/

theorem accepted_signed (hr : Run (network env owner) tr w) {p q : Pid} {s : Authentication α κ π}
    {amb : Ambient α ρ} {out inp : Token α} {h : Handle} {properties : BinaryPropertySeq α}
    {certificate : Certificate α π}
    (hmem : (s, .processHandshake out inp h, amb) ∈ Machine.calls p tr)
    (hver : verifySerialized env properties certificate (inp.getBinPropertyValue "signature") = true)
    (hq : owner certificate.publicKey = some q) :
    ∃ data, env.serialize properties = some data ∧ SignedFor env (w.node q) data := by
  obtain ⟨w₀, hmem, -⟩ := Machine.mem_calls.1 hmem
  obtain ⟨hok, hsub⟩ := Machine.log_subset_of_mem hr hmem
  obtain ⟨data, hser, hver⟩ := verifySerialized_eq_true hver
  obtain ⟨p', hlog⟩ := hok.unforged out inp h rfl certificate.publicKey data (by simp [hq]) hver
  obtain ⟨-, hsig⟩ := signed_origin hr (hsub hlog) hq
  exact ⟨data, hser, hsig⟩

theorem okFinal_signed (hr : Run (network env owner) tr w) {p q : Pid} {i : Nat} {hs : Handshake α κ π}
    (hget : (w.node p).handshakeHeap[i]? = some hs) (hst : hs.state = .okFinalMessage)
    {certificate : Certificate α π} (hcert : hs.remoteCertificate = some certificate)
    (hq : owner certificate.publicKey = some q) :
    ∃ data, env.serialize hs.replyProperties = some data ∧ SignedFor env (w.node q) data := by
  have hist := history (Machine.net_solo hr p) i hs hget
  cases hist with
  | replyAccepted _ ha =>
    obtain ⟨s, amb, out, inp, h, l, r, data, sig, hmem, -, -, ha⟩ := ha
    obtain ⟨v, -, hv, -, -, hver⟩ := ha.validated
    obtain rfl := Option.some.inj (hv.symm.trans hcert)
    exact accepted_signed hr hmem hver hq
  | requested h => rw [h.facts.2] at hst; cases hst
  | replied h => rw [h.facts.2] at hst; cases hst
  | replyRejected _ hf _ => rw [hf] at hst; cases hst
  | finalRejected h => cases hst
  | finalAccepted _ ha =>
    obtain ⟨s, amb, out, inp, hd, -, -, ha⟩ := ha
    rw [ha.updated] at hst
    cases hst

theorem ok_signed (hr : Run (network env owner) tr w) {p q : Pid} {i : Nat} {hs : Handshake α κ π}
    (hget : (w.node p).handshakeHeap[i]? = some hs) (hst : hs.state = .ok)
    {certificate : Certificate α π} (hcert : hs.remoteCertificate = some certificate)
    (hq : owner certificate.publicKey = some q) :
    ∃ data, env.serialize hs.finalProperties = some data ∧ SignedFor env (w.node q) data := by
  have hist := history (Machine.net_solo hr p) i hs hget
  cases hist with
  | finalAccepted _ ha =>
    obtain ⟨s, amb, out, inp, h, hmem, -, ha⟩ := ha
    obtain ⟨c, hc, hver⟩ := ha.verified
    have hupd := ha.updated
    rw [hupd] at hcert ⊢
    obtain rfl := Option.some.inj (hc.symm.trans hcert)
    exact accepted_signed hr hmem hver hq
  | requested h => rw [h.facts.2] at hst; cases hst
  | replied h => rw [h.facts.2] at hst; cases hst
  | replyRejected _ hf _ => rw [hf] at hst; cases hst
  | finalRejected h => cases hst
  | replyAccepted _ ha =>
    obtain ⟨s, amb, out, inp, hd, l, r, data, sig, -, -, -, ha⟩ := ha
    rw [ha.state] at hst
    cases hst

/-! ## The two ends of a session -/

omit [DecidableEq α] in
theorem replyProperties_ne_finalProperties (hs hs' : Handshake α κ π) :
    hs.replyProperties ≠ hs'.finalProperties :=
  replyTranscript_ne_finalTranscript _ _ _ _ _ _ _ _ _ _ _ _

/-- A replier's handshake is, but for its state, as `begin_handshake_reply` made it. -/
theorem History.replied_of_replier {ctr : Calls α κ π ρ} {p : Nat} {hs : Handshake α κ π}
    (h : History env ctr p hs) (hi : hs.initiator = false) :
    ∃ hs₀, RepliedIn env ctr p hs₀ ∧ hs = { hs₀ with state := hs.state } := by
  cases h with
  | requested h => rw [h.facts.1] at hi; cases hi
  | replied h => exact ⟨hs, h, rfl⟩
  | replyRejected h _ hfr => rw [hfr.initiator, h.facts.1] at hi; cases hi
  | finalRejected h => exact ⟨_, h, rfl⟩
  | replyAccepted h ha =>
    obtain ⟨s, amb, out, inp, hd, l, r, data, sig, -, -, -, ha⟩ := ha
    rw [ha.frame.initiator, h.facts.1] at hi
    cases hi
  | finalAccepted h ha =>
    obtain ⟨s, amb, out, inp, hd, -, -, ha⟩ := ha
    have hupd := ha.updated
    exact ⟨_, h, by rw [hupd]⟩

/-- A completed initiator's handshake is one that `begin_handshake_request` made, after a Reply was
accepted for it. -/
theorem History.accepted_of_okFinal {ctr : Calls α κ π ρ} {p : Nat} {hs : Handshake α κ π}
    (h : History env ctr p hs) (hst : hs.state = .okFinalMessage) :
    ∃ hs₀, RequestedIn env ctr p hs₀ ∧ ReplyAcceptedIn env ctr p hs₀ hs := by
  cases h with
  | requested h => rw [h.facts.2] at hst; cases hst
  | replied h => rw [h.facts.2] at hst; cases hst
  | replyRejected _ hf _ => rw [hf] at hst; cases hst
  | finalRejected h => cases hst
  | replyAccepted h ha => exact ⟨_, h, ha⟩
  | finalAccepted _ ha =>
    obtain ⟨s, amb, out, inp, hd, -, -, ha⟩ := ha
    rw [ha.updated] at hst
    cases hst

/-- Equal credential hashes mean one KEM algorithm; with one public key and one ciphertext the two sides
then hold one secret. -/
theorem secrets_agree (hI : Ideal env) {ctr ctr' : Calls α κ π ρ} {i j : Nat}
    {hs₀ hs hs₁ hs' : Handshake α κ π} (hq : RequestedIn env ctr i hs₀) (ha : ReplyAcceptedIn env ctr i hs₀ hs)
    (hrep : RepliedIn env ctr' j hs₁) (heq : hs' = { hs₁ with state := hs'.state }) (h1 : hs.hash1 = hs'.hash1)
    (hpk : hs.publicKey = hs'.publicKey) (hct : hs.ciphertext = hs'.ciphertext) : hs.secret = hs'.secret := by
  rw [heq] at h1 hpk hct ⊢
  obtain ⟨s, amb, m, ih, rh, pd, t, -, -, hq⟩ := hq
  obtain ⟨l, r, -, -, hreq, -⟩ := makeRequest_ok hq
  obtain ⟨key, hgen, hkem, hexp⟩ := hreq.key
  obtain ⟨pd', hhash⟩ := hreq.hash1
  obtain ⟨s₁, amb₁, out, inp, h, l₁, r₁, data, sig, -, -, -, ha⟩ := ha
  obtain ⟨key', hkey', hdec⟩ := ha.decapsulated
  rw [hkem] at hkey'
  obtain rfl := Option.some.inj hkey'
  obtain ⟨s', amb', m', ih', rh', pd'', t', k', data', -, -, hrep⟩ := hrep
  obtain ⟨l', r', sig', -, -, hrep, -⟩ := makeReply_ok hrep
  obtain ⟨v, hv, -, -, hvh⟩ := hrep.validated
  obtain ⟨-, -, -, -, -, -, -, -, hhash'⟩ := validateRemoteCredentials_ok hv
  have halg : l.kemAlgorithm = l'.kemAlgorithm := by
    rw [← ha.frame.hash1, h1, hvh] at hhash
    exact (credentialProperties_inj.1 (hI.credentialHash_inj hhash hhash')).2.2.2.2
  have henc := hrep.encapsulated
  rw [← halg, ← hpk, ← hct] at henc
  refine (hI.kem _).agree henc ⟨key, hgen, ?_, hdec⟩
  rw [ha.frame.publicKey]
  exact hexp

/-- The key material of a completed handshake comes from participants when the peer key belongs to one: one of them
generated the public key, and one of them encapsulated to it and has the same secret. -/
theorem completed_origin (hI : Ideal env) (hr : Run (network env owner) tr w) {p q : Pid} {i : Nat}
    {hs : Handshake α κ π} {certificate : Certificate α π} (hget : (w.node p).handshakeHeap[i]? = some hs)
    (hst : hs.state = .ok ∨ hs.state = .okFinalMessage) (hcert : hs.remoteCertificate = some certificate)
    (hq : owner certificate.publicKey = some q) :
    ∃ A B i' j' hs₀ hs₁, RequestedIn env (Machine.calls A tr) i' hs₀ ∧ hs.publicKey = hs₀.publicKey ∧
      RepliedIn env (Machine.calls B tr) j' hs₁ ∧ hs.publicKey = hs₁.publicKey ∧ hs.secret = hs₁.secret := by
  have hist := history (Machine.net_solo hr p) i hs hget
  rcases hst with hst | hst
  · obtain ⟨hs₁, hrep, heq⟩ := hist.replied_of_replier (hist.of_ok hst).1
    have hrest : hs.publicKey = hs₁.publicKey ∧ hs.secret = hs₁.secret := by
      rw [heq]
      exact ⟨rfl, rfl⟩
    obtain ⟨data, hser, i', hs', hget', hcase⟩ := ok_signed hr hget hst hcert hq
    rcases hcase with ⟨-, hser'⟩ | ⟨hst', hser'⟩
    · exact absurd (hI.serialize hser' hser) (replyProperties_ne_finalProperties hs' hs)
    · obtain ⟨-, -, hpk, -⟩ := finalTranscript_inj.1 (hI.serialize hser hser')
      obtain ⟨hs₀, hreq, ha⟩ := (history (Machine.net_solo hr q) i' hs' hget').accepted_of_okFinal hst'
      obtain ⟨_, _, _, _, _, _, _, _, _, -, -, -, ha⟩ := ha
      exact ⟨q, p, i', i, hs₀, hs₁, hreq, hpk.trans ha.frame.publicKey, hrep, hrest⟩
  · obtain ⟨hs₀, hreq, ha⟩ := hist.accepted_of_okFinal hst
    have hown : hs.publicKey = hs₀.publicKey := by
      obtain ⟨_, _, _, _, _, _, _, _, _, -, -, -, ha⟩ := ha
      exact ha.frame.publicKey
    obtain ⟨data, hser, j', hs', hget', hcase⟩ := okFinal_signed hr hget hst hcert hq
    rcases hcase with ⟨hi, hser'⟩ | ⟨-, hser'⟩
    · obtain ⟨-, -, hct, -, hpk, h1⟩ := replyTranscript_inj.1 (hI.serialize hser hser')
      obtain ⟨hs₁, hrep, heq⟩ := (history (Machine.net_solo hr q) j' hs' hget').replied_of_replier hi
      have hsecret := secrets_agree hI hreq ha hrep heq h1 hpk hct
      rw [heq] at hpk hsecret
      exact ⟨p, q, i, j', hs₀, hs₁, hreq, hown, hrep, hpk, hsecret⟩
    · exact absurd (hI.serialize hser hser') (replyProperties_ne_finalProperties hs hs')

/-- **Mutual agreement.** A completed initiator whose peer key belongs to `B` agrees with a handshake that
`B` made in `begin_handshake_reply` from a Request with this initiator's own public key; a completed
replier whose peer key belongs to `A` agrees with a completed initiator handshake of `A`. -/
theorem mutual_agreement (env : Env α κ π ρ) (owner : π → Option Pid) (hI : Ideal env)
    {tr : Trace (Net α κ π Pid) (Pid × Op α × Ambient α ρ)} {w : Net α κ π Pid}
    (hr : Run (network env owner) tr w) :
    (∀ (A : Pid) (i : Nat) (hs : Handshake α κ π) certificate B, (w.node A).handshakeHeap[i]? = some hs → hs.state = .okFinalMessage →
      hs.remoteCertificate = some certificate → owner certificate.publicKey = some B →
      (∃ hs₀, RequestedIn env (Machine.calls A tr) i hs₀ ∧ Frame hs₀ hs) ∧
      ∃ (j : Nat) (hs' : Handshake α κ π), (w.node B).handshakeHeap[j]? = some hs' ∧ hs'.initiator = false ∧
        (∃ hs₀, RepliedIn env (Machine.calls B tr) j hs₀ ∧ hs' = { hs₀ with state := hs'.state }) ∧
        hs'.request.getBinPropertyValue "pqsec-dds.kem_public" = hs.publicKey ∧ SameSession hs hs') ∧
    (∀ (B : Pid) (j : Nat) (hs' : Handshake α κ π) certificate A, (w.node B).handshakeHeap[j]? = some hs' → hs'.state = .ok →
      hs'.remoteCertificate = some certificate → owner certificate.publicKey = some A →
      ∃ (i : Nat) (hs : Handshake α κ π), (w.node A).handshakeHeap[i]? = some hs ∧ hs.initiator = true ∧ hs.state = .okFinalMessage ∧
        SameSession hs hs') := by
  constructor
  · intro A i hs certificate B hget hst hcert hB
    obtain ⟨hs₀, hq, ha⟩ := (history (Machine.net_solo hr A) i hs hget).accepted_of_okFinal hst
    have hfr : Frame hs₀ hs := by
      obtain ⟨s, amb, out, inp, h, l, r, data, sig, -, -, -, ha⟩ := ha
      exact ha.frame
    refine ⟨⟨hs₀, hq, hfr⟩, ?_⟩
    obtain ⟨data, hser, j, hs', hget', hcase⟩ := okFinal_signed hr hget hst hcert hB
    rcases hcase with ⟨hi, hser'⟩ | ⟨-, hser'⟩
    · obtain ⟨h2, hc2, hct, hc1, hpk, h1⟩ := replyTranscript_inj.1 (hI.serialize hser hser')
      obtain ⟨hs₁, hrep, heq⟩ := (history (Machine.net_solo hr B) j hs' hget').replied_of_replier hi
      have hreq : hs'.request.getBinPropertyValue "pqsec-dds.kem_public" = hs'.publicKey := by
        obtain ⟨s, amb, m, ih, rh, pd, t, key, d, -, -, hrep⟩ := hrep
        obtain ⟨l, r, sig, -, -, hrep, -⟩ := makeReply_ok hrep
        rw [heq]
        simp only [hrep.request, hrep.publicKey]
      refine ⟨j, hs', hget', hi, ⟨hs₁, hrep, heq⟩, hreq.trans hpk.symm, h1, h2, hc1, hc2, hpk, hct, ?_⟩
      exact secrets_agree hI hq ha hrep heq h1 hpk hct
    · exact absurd (hI.serialize hser hser') (replyProperties_ne_finalProperties hs hs')
  · intro B j hs' certificate A hget hst hcert hA
    obtain ⟨data, hser, i, hs, hget', hcase⟩ := ok_signed hr hget hst hcert hA
    rcases hcase with ⟨-, hser'⟩ | ⟨hst', hser'⟩
    · exact absurd (hI.serialize hser' hser) (replyProperties_ne_finalProperties hs hs')
    · obtain ⟨h1, hc1, hpk, hc2, hct, h2⟩ := finalTranscript_inj.1 (hI.serialize hser' hser)
      have hist := history (Machine.net_solo hr A) i hs hget'
      obtain ⟨hs₀, hq, ha⟩ := hist.accepted_of_okFinal hst'
      have hrole := (history (Machine.net_solo hr B) j hs' hget).of_ok hst
      obtain ⟨hs₁, hrep, heq⟩ := (history (Machine.net_solo hr B) j hs' hget).replied_of_replier hrole.1
      refine ⟨i, hs, hget', (hist.of_okFinalMessage hst').1, hst', h1, h2, hc1, hc2, hpk, hct, ?_⟩
      exact secrets_agree hI hq ha hrep heq h1 hpk hct

/-! ## The complete session, as a run of two participants -/

section Sample

theorem symbolic_ideal (base : Platform Sym Nat) : Ideal (symbolic base) where
  serialize := symbolic_serialize_injective base
  sha256 := symbolic_sha256_injective base
  kem := symbolic_kem_correct base

/-- Key pair 1 belongs to the initiator `false`, key pair 2 to the replier `true`. -/
def sampleOwner (key : Nat) : Option Bool :=
  if key = 1 then some false else if key = 2 then some true else none

def signedBy (s : Authentication Sym KemKey Nat) (call : SampleCall) : OctetSeq Sym :=
  match (exec sampleEnv s call).2 with
  | [_, .signed _ data] => data
  | _ => []

theorem reply_signed :
    (sentBy (acquainted 2 1) replyCall).getBinPropertyValue "signature" =
      term (.signature 2) (signedBy (acquainted 2 1) replyCall) ∧
    .signed 2 (signedBy (acquainted 2 1) replyCall) ∈ (exec sampleEnv (acquainted 2 1) replyCall).2 := by
  decide +kernel

theorem final_signed :
    (sentBy (after (acquainted 1 2) requestCall) replyProcessed).getBinPropertyValue "signature" =
      term (.signature 1) (signedBy (after (acquainted 1 2) requestCall) replyProcessed) ∧
    .signed 1 (signedBy (after (acquainted 1 2) requestCall) replyProcessed) ∈
      (exec sampleEnv (after (acquainted 1 2) requestCall) replyProcessed).2 := by
  decide +kernel

abbrev SampleNet := Net Sym KemKey Nat Bool

def sampleStart : SampleNet := ⟨fun _ => .new sampleEnv, []⟩

def step (w : SampleNet) (p : Bool) (call : SampleCall) : SampleNet := (plugin sampleEnv).act w p call

theorem step_node (w : SampleNet) (p q : Bool) (call : SampleCall) :
    (step w p call).node q = if q = p then after (w.node q) call else w.node q := by
  by_cases h : q = p
  · subst h
    simp [step, after, plugin]
  · simp [step, Machine.act_node_of_ne w call h, h]

theorem run_step {tr : Trace SampleNet (Bool × SampleCall)} {w : SampleNet} {p : Bool}
    {call : SampleCall} (hr : Run (network sampleEnv sampleOwner) tr w) (hlen : tr.length < 2 ^ 31 - 2)
    (hok : Admissible sampleEnv sampleOwner w p call) :
    Run (network sampleEnv sampleOwner) ((w, p, call) :: tr) (step w p call) := by
  have hcalls : (Machine.calls p tr).length ≤ tr.length := List.length_filterMap_le _ _
  exact .step hr ⟨hok, defined_of_short (Machine.net_solo hr p) (lt_of_le_of_lt hcalls hlen) call, rfl⟩

/-- Both participants are acquainted and the Request is out. -/
def requested : SampleNet :=
  step (step (step (step (step sampleStart false (localCall 1)) true (localCall 2)) false (remoteCall 2))
    true (remoteCall 1)) false requestCall

def replied : SampleNet := step requested true replyCall

def finalSent : SampleNet := step replied false replyProcessed

def sessionDone : SampleNet := step finalSent true finalProcessed

theorem requested_node : requested.node false = after (acquainted 1 2) requestCall ∧
    requested.node true = acquainted 2 1 := by
  simp [requested, step_node, acquainted, sampleStart]

theorem replied_node : replied.node false = after (acquainted 1 2) requestCall ∧
    replied.node true = after (acquainted 2 1) replyCall := by
  simp [replied, step_node, requested_node]

theorem sessionDone_node : sessionDone.node false = initiatorDone ∧ sessionDone.node true = replierDone := by
  simp [sessionDone, finalSent, step_node, replied_node, initiatorDone, replierDone]

theorem admissible_local (w : SampleNet) {p : Bool} {n : UInt8} (h : sampleOwner n.toNat = some p) :
    Admissible sampleEnv sampleOwner w p (localCall n) where
  own := by
    rintro _ _ _ credentials q heq hload hq
    obtain ⟨-, rfl, -⟩ := Op.validateLocalIdentity.inj heq
    obtain rfl := Option.some.inj hload
    exact Option.some.inj (hq.symm.trans h)
  unforged := nofun

theorem admissible_other (w : SampleNet) (p : Bool) (call : SampleCall)
    (h1 : ∀ h props cand, call.1 ≠ .validateLocalIdentity h props cand)
    (h2 : ∀ out inp h, call.1 ≠ .processHandshake out inp h) :
    Admissible sampleEnv sampleOwner w p call where
  own := fun h props cand _ _ heq => absurd heq (h1 h props cand)
  unforged := fun out inp h heq => absurd heq (h2 out inp h)

theorem admissible_process {w : SampleNet} (p q : Bool) {out inp : Token Sym} {h : Handle}
    {amb : Ambient Sym Nat} {key : Nat} {data : OctetSeq Sym}
    (hsig : inp.getBinPropertyValue "signature" = term (.signature key) data)
    (hlog : (q, .signed key data) ∈ w.log) :
    Admissible sampleEnv sampleOwner w p (.processHandshake out inp h, amb) where
  own := nofun
  unforged := by
    rintro _ inp' _ heq key' data' - hver
    obtain ⟨-, rfl, -⟩ := Op.processHandshake.inj heq
    have heq := (symbolic_verify samplePlatform).1 hver
    rw [hsig] at heq
    obtain ⟨hkey, rfl⟩ := term_inj.1 heq
    obtain rfl := Fn.signature.inj hkey
    exact ⟨q, hlog⟩

theorem session_run : ∃ tr, Run (network sampleEnv sampleOwner) tr sessionDone := by
  have h1 := run_step (.init (s := sampleStart) ⟨fun _ => rfl, rfl⟩) (by decide) (admissible_local sampleStart (n := 1) rfl)
  have h2 := run_step h1 (by decide) (admissible_local _ (n := 2) rfl)
  have h3 := run_step h2 (by decide) (admissible_other _ false (remoteCall 2) nofun nofun)
  have h4 := run_step h3 (by decide) (admissible_other _ true (remoteCall 1) nofun nofun)
  have h5 : Run (network sampleEnv sampleOwner) _ requested :=
    run_step h4 (by decide) (admissible_other _ false requestCall nofun nofun)
  have h6 : Run (network sampleEnv sampleOwner) _ replied :=
    run_step h5 (by decide) (admissible_other _ true replyCall nofun nofun)
  have hreply : (true, .signed 2 (signedBy (acquainted 2 1) replyCall)) ∈ replied.log := by
    refine Machine.mem_act_log.2 (.inl ⟨rfl, ?_⟩)
    rw [requested_node.2]
    exact reply_signed.2
  have h7 : Run (network sampleEnv sampleOwner) _ finalSent :=
    run_step h6 (by decide) (admissible_process false true reply_signed.1 hreply)
  have hfinal : (false, .signed 1 (signedBy (after (acquainted 1 2) requestCall) replyProcessed)) ∈
      finalSent.log := by
    refine Machine.mem_act_log.2 (.inl ⟨rfl, ?_⟩)
    rw [replied_node.1]
    exact final_signed.2
  exact ⟨_, run_step h7 (by decide) (admissible_process true false final_signed.1 hfinal)⟩

/-- Both ends of the complete session agree. -/
theorem mutual_agreement_sample :
    (∃ hs, (sessionDone.node false).handshakeHeap[0]? = some hs ∧ hs.state = .okFinalMessage ∧
      ∃ (j : Nat) (hs' : Handshake Sym KemKey Nat), (sessionDone.node true).handshakeHeap[j]? = some hs' ∧
        hs'.initiator = false ∧ SameSession hs hs') ∧
    (∃ hs', (sessionDone.node true).handshakeHeap[0]? = some hs' ∧ hs'.state = .ok ∧
      ∃ (i : Nat) (hs : Handshake Sym KemKey Nat), (sessionDone.node false).handshakeHeap[i]? = some hs ∧
        hs.initiator = true ∧ SameSession hs hs') := by
  obtain ⟨tr, hr⟩ := session_run
  obtain ⟨ha, hb⟩ := mutual_agreement sampleEnv sampleOwner (symbolic_ideal samplePlatform) hr
  constructor
  · obtain ⟨hs, hget, hst, hcert⟩ := initiatorDone_handshakes
    rw [← sessionDone_node.1] at hget
    obtain ⟨-, j, hs', hget', hi, -, -, hsame⟩ := ha false 0 hs (sampleCertificate 2) true hget hst hcert rfl
    exact ⟨hs, hget, hst, j, hs', hget', hi, hsame⟩
  · obtain ⟨hs', hget', hst, hcert⟩ := replierDone_handshakes
    rw [← sessionDone_node.2] at hget'
    obtain ⟨i, hs, hget, hi, -, hsame⟩ := hb true 0 hs' (sampleCertificate 1) false hget' hst hcert rfl
    exact ⟨hs', hget', hst, i, hs, hget, hi, hsame⟩

end Sample

end PqsecDds.OpenDDS
