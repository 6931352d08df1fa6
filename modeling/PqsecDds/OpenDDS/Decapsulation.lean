import PqsecDds.OpenDDS.Isolation

/-!
# What the KEM private key is used for

The initiator of a handshake holds the private key of a KEM key pair. A plugin that decapsulated whatever the network
brings would let the network question that key. This one decapsulates at most once for each handshake, and only a
ciphertext that a certified participant signed together with the handshake's own Request (`Vouched`):

* `decapsulation_guarded`: the run does not depend on what decapsulation yields anywhere else;
* `private_key_used_once`: the private key leaves the handshake with that one ciphertext, and with nothing else.
-/

namespace PqsecDds.OpenDDS

open Lib Authentication

variable {α κ π ρ : Type} [Octet α] [DecidableEq α]
variable {env : Env α κ π ρ} {amb : Ambient α ρ} {s s' : Authentication α κ π} {op : Op α}
variable {ev : List (Event α π)} {tr : Calls α κ π ρ} {h : Handle} {p : Nat} {hs : Handshake α κ π}
variable {l : LocalIdentity α π} {r : RemoteIdentity α} {input : Token α}
variable {d : κ → OctetSeq α → Option (OctetSeq α)}

/-- A Reply whose ciphertext the private key is put to work on. -/
structure Vouched (env : Env α κ π ρ) (amb : Ambient α ρ) (l : LocalIdentity α π) (r : RemoteIdentity α)
    (hs : Handshake α κ π) (input : Token α) : Prop where
  state : hs.state = .pendingHandshakeMessage
  initiator : hs.initiator = true
  classId : input.classIs "pqsec-dds.auth:1.0+Reply" = true
  size : (input.getBinPropertyValue "challenge2").length = 32
  challenge1 : input.getBinPropertyValue "challenge1" = hs.challenge1
  pinned : r.remoteChallenge = [] ∨ input.getBinPropertyValue "challenge2" = r.remoteChallenge
  signed : ∃ v, validateRemoteCredentials env amb l r input = .ok v ∧
    verifySerialized env (replyTranscript v.hash (input.getBinPropertyValue "challenge2")
      (input.getBinPropertyValue "pqsec-dds.kem_ciphertext") hs.challenge1 hs.publicKey hs.hash1)
      v.certificate (input.getBinPropertyValue "signature") = true

/-- The platform with another decapsulation function. -/
def Env.decapsulating (env : Env α κ π ρ) (d : κ → OctetSeq α → Option (OctetSeq α)) : Env α κ π ρ :=
  { env with decapsulate := d }

/-! ## One message -/

/-- What a Reply writes into the handshake before its challenges are compared. -/
def Handshake.received (hs : Handshake α κ π) (v : ValidatedCredentials α π) (input : Token α) : Handshake α κ π :=
  { hs with
    hash2 := v.hash
    remoteCertificate := some v.certificate
    remotePermissions := v.permissions
    challenge2 := input.getBinPropertyValue "challenge2"
    ciphertext := input.getBinPropertyValue "pqsec-dds.kem_ciphertext" }

/-- The challenge checks of the Reply branch. -/
def mismatch (r : RemoteIdentity α) (hs : Handshake α κ π) (input : Token α) : Bool :=
  (input.getBinPropertyValue "challenge2").length ≠ 32 || input.getBinPropertyValue "challenge1" ≠ hs.challenge1 ||
    (r.remoteChallenge ≠ [] && input.getBinPropertyValue "challenge2" ≠ r.remoteChallenge)

theorem mismatch_eq_false : mismatch r hs input = false ↔
    (input.getBinPropertyValue "challenge2").length = 32 ∧ input.getBinPropertyValue "challenge1" = hs.challenge1 ∧
      (r.remoteChallenge = [] ∨ input.getBinPropertyValue "challenge2" = r.remoteChallenge) := by
  by_cases hr : r.remoteChallenge = [] <;> simp [mismatch, and_assoc, hr]

/-- The Reply branch from the decapsulation on (Authentication.cpp:575-595). -/
def concludeReply (env : Env α κ π ρ) (amb : Ambient α ρ) (l : LocalIdentity α π) (hs : Handshake α κ π)
    (handle : Handle) (input : Token α) (decapsulated : Except (Str α) (OctetSeq α)) :
    Outcome α π × Handshake α κ π :=
  let hs := { hs with kem := hs.kem.clear }
  match decapsulated with
  | .error e => (fail handle {} e, hs.setFailed)
  | .ok secret =>
    let hs := { hs with secret }
    let key := l.credentials.participantPrivateKey
    match signSerialized env amb hs.finalProperties key with
    | none => (fail handle {} (str "ML-DSA final signature failed"), hs.setFailed)
    | some (data, signature) =>
      let writer : Token α := Token.writer {} "pqsec-dds.auth:1.0+Final"
      let output := writer.addBinProperty "signature" signature
      ({ result := .okFinalMessage, handle, token := output, signed := some (key, data) },
        { hs with reply := input, state := .okFinalMessage })

omit [DecidableEq α] in
theorem concludeReply_kem (decapsulated : Except (Str α) (OctetSeq α)) :
    (concludeReply env amb l hs h input decapsulated).2.kem = hs.kem.clear := by
  unfold concludeReply
  cases decapsulated with
  | error e => rfl
  | ok secret =>
    dsimp only
    split <;> rfl

/-- The Reply branch, given what decapsulation yields. -/
def replyWith (env : Env α κ π ρ) (amb : Ambient α ρ) (l : LocalIdentity α π) (r : RemoteIdentity α)
    (hs : Handshake α κ π) (handle : Handle) (input : Token α) (decapsulated : Except (Str α) (OctetSeq α)) :
    Outcome α π × Handshake α κ π :=
  match validateRemoteCredentials env amb l r input with
  | .error e => (fail handle {} e, hs.setFailed)
  | .ok v =>
    let hs' := hs.received v input
    if mismatch r hs input then (fail handle {} (str "PQSec reply challenge mismatch"), hs'.setFailed)
    else if !verifySerialized env hs'.replyProperties v.certificate (input.getBinPropertyValue "signature") then
      (fail handle {} (str "ML-DSA reply signature verification failed"), hs'.setFailed)
    else concludeReply env amb l hs' handle input decapsulated

theorem processReply_decapsulating (d : κ → OctetSeq α → Option (OctetSeq α)) :
    processReply (env.decapsulating d) amb l r hs h input = replyWith env amb l r hs h input
      (hs.kem.decapsulate (env.decapsulating d) amb (input.getBinPropertyValue "pqsec-dds.kem_ciphertext")) := rfl

/-- The private key is used when all checks pass, and whether they pass does not depend on it. -/
theorem replyWith_cases (hst : hs.state = .pendingHandshakeMessage) (hi : hs.initiator = true)
    (hc : input.classIs "pqsec-dds.auth:1.0+Reply" = true) :
    (¬ Vouched env amb l r hs input ∧ ∃ x : Outcome α π × Handshake α κ π, x.2.kem = hs.kem ∧
      ∀ decapsulated, replyWith env amb l r hs h input decapsulated = x) ∨
    (Vouched env amb l r hs input ∧ ∃ v, ∀ decapsulated,
      replyWith env amb l r hs h input decapsulated = concludeReply env amb l (hs.received v input) h input decapsulated) := by
  unfold replyWith
  cases hv : validateRemoteCredentials env amb l r input with
  | error e =>
    refine .inl ⟨fun hV => ?_, (fail h {} e, hs.setFailed), rfl, fun _ => rfl⟩
    obtain ⟨v, hok, -⟩ := hV.signed
    rw [hv] at hok
    cases hok
  | ok v =>
    by_cases hmis : mismatch r hs input = true
    · refine .inl ⟨fun hV => ?_, (_, (hs.received v input).setFailed), rfl, fun _ => if_pos hmis⟩
      rw [mismatch_eq_false.2 ⟨hV.size, hV.challenge1, hV.pinned⟩] at hmis
      cases hmis
    · have hmis' : mismatch r hs input = false := by simpa using hmis
      obtain ⟨hsize, hchal1, hpin⟩ := mismatch_eq_false.1 hmis'
      by_cases hver : verifySerialized env (hs.received v input).replyProperties v.certificate
          (input.getBinPropertyValue "signature") = true
      · refine .inr ⟨⟨hst, hi, hc, hsize, hchal1, hpin, v, hv, hver⟩, v, fun _ => ?_⟩
        simp only [hmis', hver, Bool.false_eq_true, Bool.not_true, if_false]
      · refine .inl ⟨fun hV => ?_, (fail h {} (str "ML-DSA reply signature verification failed"),
          (hs.received v input).setFailed), rfl, fun _ => ?_⟩
        · obtain ⟨v', hok, hsig⟩ := hV.signed
          rw [hv] at hok
          obtain rfl := Except.ok.inj hok
          exact hver hsig
        · simp only [hmis', hver, Bool.false_eq_true, Bool.not_false, if_false, if_true]

/-! ## Any message -/

/-- What processing a message does with the private key: nothing, or it is used once and erased. -/
structure Use (env : Env α κ π ρ) (amb : Ambient α ρ) (l : LocalIdentity α π) (r : RemoteIdentity α)
    (hs : Handshake α κ π) (h : Handle) (input : Token α) : Prop where
  unvouched : ¬ Vouched env amb l r hs input → (processMessage env amb l r hs h input).2.kem = hs.kem
  vouched : Vouched env amb l r hs input → (processMessage env amb l r hs h input).2.kem = hs.kem.clear
  independent : ∀ d : κ → OctetSeq α → Option (OctetSeq α),
    (Vouched env amb l r hs input → ∀ key, hs.kem.key = some key →
      d key (input.getBinPropertyValue "pqsec-dds.kem_ciphertext") =
        env.decapsulate key (input.getBinPropertyValue "pqsec-dds.kem_ciphertext")) →
    processMessage (env.decapsulating d) amb l r hs h input = processMessage env amb l r hs h input

omit [DecidableEq α] in
theorem decapsulate_decapsulating {k : Kem α κ} {ct : OctetSeq α}
    (hd : ∀ key, k.key = some key → d key ct = env.decapsulate key ct) :
    k.decapsulate (env.decapsulating d) amb ct = k.decapsulate env amb ct := by
  unfold Kem.decapsulate
  cases hk : k.key with
  | none => rfl
  | some key =>
    have hkey : (env.decapsulating d).decapsulate key ct = env.decapsulate key ct := hd key hk
    have hsize : (env.decapsulating d).decapsulateSize = env.decapsulateSize := rfl
    simp only [hkey, hsize]

theorem processReply_use (hst : hs.state = .pendingHandshakeMessage) (hi : hs.initiator = true)
    (hc : input.classIs "pqsec-dds.auth:1.0+Reply" = true) : Use env amb l r hs h input := by
  have hself : processMessage env amb l r hs h input = replyWith env amb l r hs h input
      (hs.kem.decapsulate env amb (input.getBinPropertyValue "pqsec-dds.kem_ciphertext")) := by
    simp only [processMessage, hst, hi, hc, ne_eq, not_true, Bool.and_true, if_false, if_true]
    exact processReply_decapsulating env.decapsulate
  have hother : ∀ d, processMessage (env.decapsulating d) amb l r hs h input = replyWith env amb l r hs h input
      (hs.kem.decapsulate (env.decapsulating d) amb (input.getBinPropertyValue "pqsec-dds.kem_ciphertext")) := by
    intro d
    simp only [processMessage, hst, hi, hc, ne_eq, not_true, Bool.and_true, if_false, if_true]
    exact processReply_decapsulating d
  rcases replyWith_cases hst hi hc with ⟨hV, x, hx, hall⟩ | ⟨hV, v, hall⟩
  · refine ⟨fun _ => ?_, fun hV' => absurd hV' hV, fun d _ => ?_⟩
    · rw [hself, hall, hx]
    · rw [hself, hother, hall, hall]
  · refine ⟨fun hV' => absurd hV hV', fun _ => ?_, fun d hd => ?_⟩
    · rw [hself, hall, concludeReply_kem]
      rfl
    · rw [hself, hother, decapsulate_decapsulating (hd hV)]

theorem processMessage_use (input : Token α) : Use env amb l r hs h input := by
  by_cases hst : hs.state = .pendingHandshakeMessage
  swap
  · have hsame : ∀ env : Env α κ π ρ, processMessage env amb l r hs h input =
        (fail h {} (str "PQSec handshake is not awaiting a message"), hs) := fun _ => if_pos hst
    refine ⟨fun _ => ?_, fun hV => absurd hV.state hst, fun d _ => ?_⟩
    · rw [hsame]
    · rw [hsame, hsame]
  by_cases hreply : hs.initiator = true ∧ input.classIs "pqsec-dds.auth:1.0+Reply" = true
  · exact processReply_use hst hreply.1 hreply.2
  -- A replier's Final, or a message out of turn: nothing reads the private key.
  have hnot : (hs.initiator && input.classIs "pqsec-dds.auth:1.0+Reply") = false := by
    simpa using hreply
  refine ⟨fun _ => ?_, fun hV => absurd ⟨hV.initiator, hV.classId⟩ hreply, fun d _ => ?_⟩
  · simp only [processMessage, hst, hnot, ne_eq, not_true, if_false, Bool.false_eq_true]
    split
    · unfold processFinal
      dsimp only
      split <;> rfl
    · rfl
  · simp only [processMessage, hst, hnot, ne_eq, not_true, if_false, Bool.false_eq_true]
    rfl

/-! ## Runs -/

/-- The call puts the private key of the handshake `hs` at `p` to work on the ciphertext of `input`. -/
structure Queries (env : Env α κ π ρ) (s : Authentication α κ π) (call : Op α × Ambient α ρ) (p : Nat)
    (hs : Handshake α κ π) (input : Token α) : Prop where
  called : ∃ output h, call.1 = .processHandshake output input h ∧ s.findHandshake h = some (p, hs)
  vouched : ∃ l r, s.identities hs = some (l, r) ∧ Vouched env call.2 l r hs input

def QueriedIn (env : Env α κ π ρ) (tr : Calls α κ π ρ) (p : Nat) : Prop :=
  ∃ e ∈ tr, ∃ hs input, Queries env e.1 e.2 p hs input

/-- `d` answers the questions put to the private keys of the plugin as the platform does. -/
def AgreesOn (env : Env α κ π ρ) (d : κ → OctetSeq α → Option (OctetSeq α)) (s : Authentication α κ π)
    (call : Op α × Ambient α ρ) : Prop :=
  ∀ p hs input key, Queries env s call p hs input → hs.kem.key = some key →
    d key (input.getBinPropertyValue "pqsec-dds.kem_ciphertext") =
      env.decapsulate key (input.getBinPropertyValue "pqsec-dds.kem_ciphertext")

theorem processHandshake_decapsulating {output : Token α}
    (hd : AgreesOn env d s (.processHandshake output input h, amb)) :
    processHandshake (env.decapsulating d) amb s output input h = processHandshake env amb s output input h := by
  unfold processHandshake
  cases hf : s.findHandshake h with
  | none => rfl
  | some found =>
    obtain ⟨p, hs⟩ := found
    cases hi : s.identities hs with
    | none => simp only [hi]
    | some lr =>
      obtain ⟨l, r⟩ := lr
      have huse : Use env amb l r hs h input := processMessage_use input
      have hsame := huse.independent d fun hV key hkey => hd p hs input key ⟨⟨output, h, rfl, hf⟩, l, r, hi, hV⟩ hkey
      simp only [hi, hsame]

/-- No operation but `process_handshake` decapsulates. -/
theorem exec_decapsulating (hd : AgreesOn env d s (op, amb)) :
    exec (env.decapsulating d) s (op, amb) = exec env s (op, amb) ∧
      answer (env.decapsulating d) s (op, amb) = answer env s (op, amb) := by
  cases op with
  | processHandshake output input h =>
    simp only [exec, answer, processHandshake_decapsulating hd]
    exact ⟨trivial, trivial⟩
  | _ => exact ⟨rfl, rfl⟩

/-- The private keys are no oracle: a run stays a run, with the same answers and the same tokens sent, when decapsulation
is changed on every ciphertext that no certified participant signed for the handshake in question. -/
theorem decapsulation_guarded (env : Env α κ π ρ) (d : κ → OctetSeq α → Option (OctetSeq α))
    (hr : Run (plugin env).solo tr s) (hd : ∀ e ∈ tr, AgreesOn env d e.1 e.2) :
    Run (plugin (env.decapsulating d)).solo tr s ∧
      ∀ e ∈ tr, exec (env.decapsulating d) e.1 e.2 = exec env e.1 e.2 ∧
        answer (env.decapsulating d) e.1 e.2 = answer env e.1 e.2 := by
  induction hr with
  | init h => exact ⟨.init h, nofun⟩
  | @step tr s call s' _ hs ih =>
    obtain ⟨op, amb⟩ := call
    obtain ⟨hrun, hans⟩ := ih fun e he => hd e (List.mem_cons_of_mem _ he)
    have hagrees : AgreesOn env d s (op, amb) := hd _ List.mem_cons_self
    have hsame := exec_decapsulating hagrees
    obtain ⟨hdef, rfl⟩ := hs
    refine ⟨.step hrun ⟨?_, congrArg Prod.fst hsame.1.symm⟩, fun e he => ?_⟩
    · simp only [plugin, Defined, hsame.1]
      exact hdef
    · rcases List.mem_cons.1 he with rfl | he
      · exact hsame
      · exact hans e he

/-! ## Erasure -/

/-- The record of the private keys of a run. -/
structure KeyRecord (env : Env α κ π ρ) (tr : Calls α κ π ρ) (s : Authentication α κ π) : Prop where
  erased : ∀ p hs, s.handshakeHeap[p]? = some hs → hs.initiator = true → (hs.kem.key = none ↔ QueriedIn env tr p)
  unmade : ∀ p, s.handshakeHeap.length ≤ p → ¬ QueriedIn env tr p

theorem Queries.object {call : Op α × Ambient α ρ} (h : Queries env s call p hs input) :
    s.handshakeHeap[p]? = some hs := by
  obtain ⟨output, h', -, hf⟩ := h.called
  exact (findHandshake_eq_some.1 hf).2

/-- The call that uses the private key leaves the object without it. -/
theorem Queries.after (hq : Queries env s (op, amb) p hs input) :
    ∃ hs', (exec env s (op, amb)).1.handshakeHeap[p]? = some hs' ∧ hs'.kem.key = none := by
  obtain ⟨output, h, hop, hf⟩ := hq.called
  obtain ⟨l, r, hi, hV⟩ := hq.vouched
  obtain rfl : op = .processHandshake output input h := hop
  have hlt := (List.getElem?_eq_some_iff.1 hq.object).1
  refine ⟨(processMessage env amb l r hs h input).2, ?_, ?_⟩
  · simp only [exec, processHandshake, hf, hi]
    exact List.getElem?_set_self hlt
  · rw [(processMessage_use input).vouched hV]
    rfl

theorem queriedIn_cons {call : Op α × Ambient α ρ} :
    QueriedIn env ((s, call) :: tr) p ↔ (∃ hs input, Queries env s call p hs input) ∨ QueriedIn env tr p := by
  simp [QueriedIn]

theorem Effect.length_le (e : Effect env amb s op s' ev) : s.handshakeHeap.length ≤ s'.handshakeHeap.length := by
  by_contra hlt
  obtain ⟨hs', hget, -⟩ := e.handshake_later (List.getElem?_eq_getElem (Nat.lt_of_not_le hlt))
  have := (List.getElem?_eq_some_iff.1 hget).1
  omega

theorem KeyRecord.step (hk : KeyRecord env tr s) (op : Op α) (amb : Ambient α ρ) :
    KeyRecord env ((s, op, amb) :: tr) (exec env s (op, amb)).1 := by
  refine ⟨fun p hs' hget hinit => ?_, fun p hp hq => ?_⟩
  · rw [queriedIn_cons]
    by_cases hq : ∃ hs input, Queries env s (op, amb) p hs input
    · -- The call uses the private key.
      obtain ⟨hs, input, hq'⟩ := hq
      obtain ⟨hs₁, hget₁, hnone⟩ := hq'.after
      rw [hget₁] at hget
      obtain rfl := Option.some.inj hget
      simp only [hnone, true_iff]
      exact .inl ⟨hs, input, hq'⟩
    · rw [or_iff_right hq]
      rcases (exec_effect op).handshake_origin hget with h | ⟨m, ih, rh, pd, t, rfl, rfl, h⟩ |
        ⟨m, ih, rh, pd, t, key, data, rfl, rfl, h⟩ | ⟨output, input, hd, hs, l, r, rfl, hf, hi, rfl⟩
      · exact hk.erased p hs' h hinit
      · -- A new handshake has its key, and nothing was asked of it before it was there.
        obtain ⟨l, r, -, -, hreq, -⟩ := makeRequest_ok h
        obtain ⟨key, -, hkem, -⟩ := hreq.key
        simp [hkem, hk.unmade _ le_rfl]
      · obtain ⟨l, r, -, -, -, hrep, -⟩ := makeReply_ok h
        rw [hrep.initiator] at hinit
        cases hinit
      · have hV : ¬ Vouched env amb l r hs input := fun hV => hq ⟨hs, input, ⟨output, hd, rfl, hf⟩, l, r, hi, hV⟩
        rw [(processMessage_use input).unvouched hV]
        rw [processMessage_frame.initiator] at hinit
        exact hk.erased p hs (findHandshake_eq_some.1 hf).2 hinit
  · have he : Effect env amb s op _ _ := exec_effect op
    have hle := he.length_le
    rcases queriedIn_cons.1 hq with ⟨hs, input, hq⟩ | hq
    · have hlt := (List.getElem?_eq_some_iff.1 hq.object).1
      omega
    · exact hk.unmade p (by omega) hq

theorem keyRecord (hr : Run (plugin env).solo tr s) : KeyRecord env tr s := by
  refine hr.inv (I := KeyRecord env) ?_ ?_
  · rintro s rfl
    exact ⟨nofun, fun p _ ⟨_, he, _⟩ => by cases he⟩
  · rintro tr s ⟨op, amb⟩ s' - ih ⟨-, rfl⟩
    exact ih.step op amb

/-- A handshake that still waits for its Reply has its private key. -/
theorem pending_key (hr : Run (plugin env).solo tr s) (hget : s.handshakeHeap[p]? = some hs)
    (hst : hs.state = .pendingHandshakeMessage) (hi : hs.initiator = true) : hs.kem.key ≠ none := by
  rcases (history hr p hs hget).of_pending hst with ⟨s₀, amb, m, ih, rh, pd, t, -, -, h⟩ | hrep
  · obtain ⟨l, r, -, -, hreq, -⟩ := makeRequest_ok h
    obtain ⟨key, -, hkem, -⟩ := hreq.key
    simp [hkem]
  · rw [hrep.facts.1] at hi
    cases hi

/-- An initiator's private key leaves its handshake with the first ciphertext that a certified participant signed for
the handshake, and only then. No two calls of a run use the private key of one handshake. -/
theorem private_key_used_once (env : Env α κ π ρ) (hr : Run (plugin env).solo tr s) :
    (∀ p hs, s.handshakeHeap[p]? = some hs → hs.initiator = true → (hs.kem.key = none ↔ QueriedIn env tr p)) ∧
    tr.Pairwise fun e e' => ∀ p hs hs' input input',
      ¬ (Queries env e.1 e.2 p hs input ∧ Queries env e'.1 e'.2 p hs' input') := by
  refine ⟨(keyRecord hr).erased, ?_⟩
  refine hr.inv (I := fun tr _ => tr.Pairwise fun e e' => ∀ p hs hs' input input',
    ¬ (Queries env e.1 e.2 p hs input ∧ Queries env e'.1 e'.2 p hs' input')) (fun _ _ => .nil) ?_
  intro tr s call s' hr ih _
  refine List.pairwise_cons.2 ⟨fun e he p hs hs' input input' ⟨hq, hq'⟩ => ?_, ih⟩
  obtain ⟨l, r, -, hV⟩ := hq.vouched
  have hkey := pending_key hr hq.object hV.state hV.initiator
  exact hkey (((keyRecord hr).erased p hs hq.object hV.initiator).2 ⟨e, he, hs', input', hq'⟩)

/-! The initiator of the complete session: its one question is the ciphertext of the Reply. -/

def replyCiphertext : OctetSeq Sym :=
  (sentBy (acquainted 2 1) replyCall).getBinPropertyValue "pqsec-dds.kem_ciphertext"

/-- A platform that decapsulates nothing but that ciphertext. -/
def onlyReply (key : KemKey) (ciphertext : OctetSeq Sym) : Option (OctetSeq Sym) :=
  if ciphertext = replyCiphertext then sampleEnv.decapsulate key ciphertext else none

theorem decapsulation_guarded_sample :
    ∃ tr, Run (plugin (sampleEnv.decapsulating onlyReply)).solo tr initiatorDone := by
  have hrun := run_after (run_after (acquainted_run 1 2) requestCall (by decide)) replyProcessed (by decide)
  refine ⟨_, (decapsulation_guarded sampleEnv onlyReply hrun ?_).1⟩
  rintro e he p hs input key ⟨⟨output, h, hop, -⟩, -⟩ -
  simp only [acquaintedCalls, List.mem_cons, List.not_mem_nil, or_false] at he
  rcases he with rfl | rfl | rfl | rfl
  · obtain ⟨-, rfl, -⟩ := Op.processHandshake.inj hop
    exact if_pos rfl
  · cases hop
  · cases hop
  · cases hop

theorem private_key_used_once_sample :
    ∃ tr, Run (plugin sampleEnv).solo tr initiatorDone ∧ QueriedIn sampleEnv tr 0 := by
  have hr := run_after (run_after (acquainted_run 1 2) requestCall (by decide)) replyProcessed (by decide)
  refine ⟨_, hr, ?_⟩
  have hkey : (initiatorDone.handshakeHeap[0]?).any (fun hs => hs.initiator && hs.kem.key.isNone) = true := by
    decide +kernel
  obtain ⟨hs, hget, hs_key⟩ := (Option.any_eq_true _ _).1 hkey
  obtain ⟨hi, hnone⟩ := Bool.and_eq_true_iff.1 hs_key
  exact ((private_key_used_once sampleEnv hr).1 0 hs hget hi).1 (by simpa using hnone)

end PqsecDds.OpenDDS
