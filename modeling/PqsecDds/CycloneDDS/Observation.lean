import PqsecDds.CycloneDDS.Steps

/-!
# What a caller sees of the plugin

`exec` gives the state after a call and the signatures that it handed out. `Answer` is all that it hands out: handles,
results, tokens and the secret. `exec_respond` connects the two.
-/

namespace PqsecDds.CycloneDDS

open Lib

variable {κ ρ : Type}

/-- The out parameters of a call. A signature stands beside the token that it is in. -/
inductive Answer where
  | localIdentity (h : Handle) (adjusted : Guid)
  | token (out : Token)
  | remoteIdentity (result : RemoteResult) (h : Handle) (authRequest : Option Token)
  | request (h : Handle) (out : Token)
  | reply (h : Handle) (out : Token) (signed : Signed)
  | processed (result : HandshakeResult)
  | sharedSecret (secret : Option SharedSecret)
  | done

def Answer.signed : Answer → List Signed
  | .reply _ _ signed => [signed]
  | .processed result => result.signed
  | _ => []

section Answers

variable (env : Env κ ρ) (amb : Ambient ρ)

def Op.answer : Op → Call κ Answer
  | .validateLocalIdentity qos candidate => do
    let a ← CycloneDDS.validateLocalIdentity env amb qos candidate
    return .localIdentity a.1 a.2
  | .getIdentityToken h => do
    let out ← CycloneDDS.getIdentityToken amb h
    return .token out
  | .setPermissionsCredentialAndToken h credential => do
    let _ ← CycloneDDS.setPermissionsCredentialAndToken h credential
    return .done
  | .validateRemoteIdentity request l token guid => do
    let a ← CycloneDDS.validateRemoteIdentity env amb request l token guid
    return .remoteIdentity a.1 a.2.1 a.2.2
  | .beginHandshakeRequest initiator replier pdata => do
    let a ← CycloneDDS.beginHandshakeRequest env amb initiator replier pdata
    return .request a.1 a.2
  | .beginHandshakeReply inp initiator replier pdata => do
    let a ← CycloneDDS.beginHandshakeReply env amb inp initiator replier pdata
    return .reply a.1 a.2.1 a.2.2
  | .processHandshake inp h => do
    let result ← CycloneDDS.processHandshake env amb inp h
    return .processed result
  | .getSharedSecret h => do
    let secret ← CycloneDDS.getSharedSecret h
    return .sharedSecret secret
  | .getAuthenticatedPeerCredentialToken h => do
    let out ← CycloneDDS.getAuthenticatedPeerCredentialToken env amb h
    return .token out
  | .returnHandshakeHandle h => do
    let _ ← CycloneDDS.returnHandshakeHandle h
    return .done
  | .returnIdentityHandle h => do
    let _ ← CycloneDDS.returnIdentityHandle h
    return .done
  | .validityCallback timer => do
    let _ ← CycloneDDS.validityCallback timer
    return .done

end Answers

/-- What a call reports: an answer or an exception. A call that is not defined reports nothing. -/
def respond (env : Env κ ρ) (s : Authentication κ) (op : Op × Ambient ρ) :
    Option (Except SecurityException Answer) :=
  if Allocates op.2 s then
    match (op.1.answer env op.2 s).1 with
    | .ok a => some (.ok a)
    | .error (.failed ex) => some (.error ex)
    | .error (.fault _) => none
  else none

/-- What a sequence of calls reports, up to the first that is not defined. -/
def observe (env : Env κ ρ) : Authentication κ → List (Op × Ambient ρ) → List (Option (Except SecurityException Answer))
  | _, [] => []
  | s, op :: ops =>
    match respond env s op with
    | none => [none]
    | some report => some report :: observe env (exec env s op).1 ops

variable {env : Env κ ρ} {amb : Ambient ρ} {s s' : Authentication κ} {op : Op}

/-- Two calls in a row that only repackage a value are one. -/
theorem bind_pure_bind {σ ε α β γ : Type} (x : Act σ ε α) (f : α → β) (g : β → γ) :
    ((x >>= fun a => pure (f a)) >>= fun b => pure (g b)) = x >>= fun a => pure (g (f a)) := by
  funext s
  change Act.bind (Act.bind x _) _ s = Act.bind x _ s
  rcases hx : x s with ⟨e | a, s₁⟩
  · simp only [Act.bind, hx]
  · simp only [Act.bind, hx]
    rfl

theorem Op.call_eq : op.call env amb = op.answer env amb >>= fun a => pure a.signed := by
  cases op
  all_goals
    simp only [Op.answer, bind_pure_bind]
    rfl

/-- A call by its answer: the state it leaves, and what it signed. -/
theorem Op.call_run {r : Except Stop Answer} (h : op.answer env amb s = (r, s')) :
    op.call env amb s = (r.map Answer.signed, s') := by
  rw [Op.call_eq]
  exact Act.bind_pure_eq.2 ⟨r, h, rfl⟩

/-- The signatures of a call are those of its answer. -/
theorem exec_respond (s : Authentication κ) (call : Op × Ambient ρ) :
    (exec env s call).2 = match respond env s call with
      | some (.ok a) => a.signed
      | _ => [] := by
  obtain ⟨op, amb⟩ := call
  by_cases ha : Allocates amb s
  · rcases h : op.answer env amb s with ⟨(ex | f) | a, s'⟩ <;>
      simp only [exec_eq env s op amb ha, respond, if_pos ha, Op.call_run h, h, Except.map]
  · simp only [exec, respond, if_neg ha]

end PqsecDds.CycloneDDS
