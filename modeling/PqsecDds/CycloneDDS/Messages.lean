import PqsecDds.CycloneDDS.Specs

/-!
# The message that a handshake call fills

`Op.callOut` is `Op.call` with `handshake_message_out`. It does the same to the plugin (`callOut_extends`), and the
message of a call that fails is as the caller lent it, or empty (`callOut_failed`): `process_handshake` empties it
first, and where a step after `answerReply` fails the Final in it is freed.
-/

namespace PqsecDds.CycloneDDS

open Lib

variable {κ ρ : Type} {env : Env κ ρ} {amb : Ambient ρ} {s s' : Authentication κ} {c c' : Context κ}
variable {inp : Token} {h : Handle} {optional : Bool} {trusted : List X509} {out out' : MessageOut}

theorem deinitMessage_fst {σ : Type} (s : σ × MessageOut) : (deinitMessage s).1 = s.1 := by
  unfold deinitMessage
  split <;> rfl

/-! ## What the plugin does -/

theorem processTokenOut_extends :
    Act.Extends (processTokenOut env amb optional trusted inp) (processToken env amb optional trusted inp) := by
  refine .bind (.read Context.handshake) fun handshake => ?_
  rcases handshake.createdIn with _ | _
  · refine .bind (.onFirst _) fun _ => .onStop (.bind (.onFirst _) fun v => ?_) deinitMessage_fst
    exact .write_bind (fun _ => rfl) (.bind (.onFirst _) fun _ => .pure _)
  · exact .bind (.onFirst _) fun _ => .onStop (.bind (.onFirst _) fun _ => .pure _) deinitMessage_fst

theorem processHandshakeOut_extends :
    Act.Extends (processHandshakeOut env amb inp h) (processHandshake env amb inp h) := by
  refine .bind (.onFirst _) fun _ => .write_bind (fun _ => rfl) ?_
  refine .bind (.onFirst _) fun _ => .bind (.read id) fun s => ?_
  exact .bind (.zoom processTokenOut_extends) fun _ => .bind (.onFirst _) fun _ => .pure _

theorem callOut_extends (op : Op) : Act.Extends (op.callOut env amb) (op.call env amb) := by
  cases op with
  | beginHandshakeRequest => exact .bind (.onFirst _) fun _ => .write_bind (fun _ => rfl) (.pure _)
  | beginHandshakeReply => exact .bind (.onFirst _) fun _ => .write_bind (fun _ => rfl) (.pure _)
  | processHandshake => exact .bind processHandshakeOut_extends fun _ => .pure _
  | _ => exact .onFirst _

/-! ## What is in the message -/

/-- The message that a result comes with. -/
def HandshakeResult.message : HandshakeResult → MessageOut
  | .ok => {}
  | .okFinalMessage out signed => ⟨out, [signed]⟩

/-- A failure comes with none. -/
def messageOf : Except Stop HandshakeResult → MessageOut
  | .ok result => result.message
  | .error _ => {}

theorem HandshakeResult.signed_message (result : HandshakeResult) : result.message.signed = result.signed := by
  cases result <;> rfl

theorem deinitMessage_empty {σ : Type} (s : σ) : deinitMessage (s, {}) = (s, {}) := rfl

theorem deinitMessage_final {σ : Type} {s : σ} {hashC1 hashC2 : HashValue} {kemCt kemPublic : Octets}
    {challenge1 challenge2 : Challenge} {signature : Octets} {signed : List Signed} :
    deinitMessage (s, ⟨finalToken optional hashC1 hashC2 kemCt kemPublic challenge1 challenge2 signature, signed⟩) =
      (s, {}) := rfl

/-- Whichever step it is that fails, no message is left. -/
theorem processTokenOut_message {res : Except Stop (HandshakeResult × Int)}
    (hrun : processTokenOut env amb optional trusted inp (c, {}) = (res, c', out')) :
    out' = messageOf (res.map Prod.fst) := by
  rw [processTokenOut, Act.read_bind] at hrun
  cases hstep : c.handshake.createdIn with
  | createdRequest =>
    simp only [hstep] at hrun
    rcases Act.onFirst_bind_eq.1 hrun with ⟨e, -, rfl, rfl⟩ | ⟨_, c₁, -, hrun⟩
    · rfl
    obtain ⟨⟨c₂, out₂⟩, hrun, hout⟩ := Act.onStop_eq.1 hrun
    rcases Act.onFirst_bind_eq.1 hrun with ⟨e, -, rfl, rfl⟩ | ⟨v, c₃, hanswer, hrun⟩
    · exact congrArg Prod.snd (hout.trans (deinitMessage_empty _))
    obtain ⟨_, _, hfinal⟩ := answerReply_ok hanswer
    obtain ⟨challenge1, challenge2, signature, -, -, htoken, -⟩ := hfinal.token
    rw [Act.write_bind] at hrun
    rcases Act.onFirst_bind_eq.1 hrun with ⟨e, -, rfl, rfl⟩ | ⟨certExp, c₄, -, hrun⟩
    · rw [htoken] at hout
      exact congrArg Prod.snd (hout.trans deinitMessage_final)
    · obtain ⟨rfl, hsame⟩ := Prod.mk.inj hrun
      exact congrArg Prod.snd (hout.trans hsame.symm)
  | createdReply =>
    simp only [hstep] at hrun
    rcases Act.onFirst_bind_eq.1 hrun with ⟨e, -, rfl, rfl⟩ | ⟨_, c₁, -, hrun⟩
    · rfl
    obtain ⟨⟨c₂, out₂⟩, hrun, hout⟩ := Act.onStop_eq.1 hrun
    rcases Act.onFirst_bind_eq.1 hrun with ⟨e, -, rfl, rfl⟩ | ⟨certExp, c₃, -, hrun⟩
    · exact congrArg Prod.snd (hout.trans (deinitMessage_empty _))
    · obtain ⟨rfl, hsame⟩ := Prod.mk.inj hrun
      exact congrArg Prod.snd (hout.trans hsame.symm)

theorem watchExpiry_error {certExp : Int} {e : Stop} (hrun : watchExpiry amb h certExp s = (.error e, s')) :
    e = .fault .nullPointer := by
  rcases Act.bind_eq.1 hrun with ⟨e', hdemand, he⟩ | ⟨c, s₁, -, hrest⟩
  · obtain rfl := Except.error.inj he
    rcases hc : s.context h with _ | c
    · simp only [Act.demand, hc, need, Option.elim_none, Prod.mk.injEq, Except.error.injEq] at hdemand
      exact hdemand.1.symm
    · simp [Act.demand, hc, need] at hdemand
  · split at hrest
    · cases hrest
    · cases hrest

/-- Only for the nil handle the message stays as it was lent. -/
theorem processHandshakeOut_message {res : Except Stop HandshakeResult} (hok : ∀ f, res ≠ .error (.fault f))
    (hrun : processHandshakeOut env amb inp h (s, out) = (res, s', out')) :
    out' = messageOf res ∨ h = 0 ∧ out' = out ∧ ∃ ex, res = .error (.failed ex) := by
  rcases Act.onFirst_bind_eq.1 hrun with ⟨e, hzero, rfl, rfl⟩ | ⟨_, s₁, -, hrun⟩
  · right
    by_cases hne : h = 0
    · rcases e with ex | f
      · exact ⟨hne, rfl, ex, rfl⟩
      · exact absurd rfl (hok f)
    · simp [check, require, hne, Act.lift, Except.mapError] at hzero
  left
  rw [Act.write_bind] at hrun
  rcases Act.onFirst_bind_eq.1 hrun with ⟨e, -, rfl, rfl⟩ | ⟨hs, s₂, -, hrun⟩
  · rfl
  rw [Act.read_bind] at hrun
  rcases Act.zoomFirst_bind_eq hrun with ⟨e, -, rfl, rfl⟩ | ⟨c, c', out₁, rx, -, htoken, hrun⟩
  · rfl
  have hmessage := processTokenOut_message htoken
  rcases hrun with ⟨e, rfl, rfl, rfl⟩ | ⟨v, rfl, hrun⟩
  · exact hmessage
  rcases Act.onFirst_bind_eq.1 hrun with ⟨e, hwatch, rfl, rfl⟩ | ⟨_, s₃, -, hrun⟩
  · exact absurd (congrArg Except.error (watchExpiry_error hwatch)) (hok _)
  · obtain ⟨rfl, hsame⟩ := Prod.mk.inj hrun
    exact (congrArg Prod.snd hsame.symm).trans hmessage

/-- A call that fails leaves the message as it was lent, or empty. -/
theorem callOut_failed {op : Op} {ex : SecurityException}
    (hrun : op.callOut env amb (s, out) = (.error (.failed ex), s', out')) : out' = out ∨ out' = {} := by
  cases op with
  | processHandshake inp h =>
    rcases Act.bind_eq.1 hrun with ⟨e, hprocess, he⟩ | ⟨result, _, -, hpure⟩
    · obtain rfl := Except.error.inj he
      rcases processHandshakeOut_message (by simp) hprocess with hmessage | ⟨-, hsame, -⟩
      · exact .inr hmessage
      · exact .inl hsame
    · cases hpure
  | beginHandshakeRequest =>
    rcases Act.onFirst_bind_eq.1 hrun with ⟨e, -, -, hsame⟩ | ⟨v, s₁, -, hrun⟩
    · exact .inl hsame
    · cases hrun
  | beginHandshakeReply =>
    rcases Act.onFirst_bind_eq.1 hrun with ⟨e, -, -, hsame⟩ | ⟨v, s₁, -, hrun⟩
    · exact .inl hsame
    · cases hrun
  | _ => exact .inl (Act.onFirst_eq.1 hrun).2

/-- A call that succeeds on an empty message leaves the signatures in it that `Op.call` returns. -/
theorem callOut_ok {op : Op} {signed : List Signed} (hrun : op.callOut env amb (s, {}) = (.ok signed, s', out')) :
    out'.signed = signed := by
  cases op with
  | processHandshake inp h =>
    obtain ⟨result, ⟨s₁, out₁⟩, hprocess, hpure⟩ := Act.bind_ok.1 hrun
    obtain ⟨rfl, hsame⟩ := Act.pure_ok.1 hpure
    rcases processHandshakeOut_message (by simp) hprocess with hmessage | ⟨-, -, ex, he⟩
    · obtain ⟨-, rfl⟩ := Prod.mk.inj hsame
      rw [hmessage]
      exact result.signed_message
    · cases he
  | beginHandshakeRequest =>
    rcases Act.onFirst_bind_eq.1 hrun with ⟨e, -, he, -⟩ | ⟨v, s₁, -, hrun⟩
    · cases he
    · cases hrun
      rfl
  | beginHandshakeReply =>
    rcases Act.onFirst_bind_eq.1 hrun with ⟨e, -, he, -⟩ | ⟨v, s₁, -, hrun⟩
    · cases he
    · cases hrun
      rfl
  | _ =>
    obtain ⟨hcall, rfl⟩ := Act.onFirst_eq.1 hrun
    obtain ⟨rx, -, hres⟩ := Act.bind_pure_eq.1 hcall
    rcases rx with e | v
    · cases hres
    · exact (Except.ok.inj hres).symm

/-! ## What is released -/

/-- `exec`, by the call without the message. -/
theorem exec_eq (env : Env κ ρ) (s : Authentication κ) (op : Op) (amb : Ambient ρ) (ha : Allocates amb s) :
    exec env s (op, amb) = match op.call env amb s with
      | (.ok signed, s') => (s', signed)
      | (.error (.failed _), s') => (s', [])
      | (.error (.fault _), _) => (s, []) := by
  rcases hrun : op.call env amb s with ⟨res, s'⟩
  obtain ⟨out, hout⟩ := (callOut_extends op).run hrun ({} : MessageOut)
  simp only [exec, if_pos ha, hout]
  rcases res with (ex | f) | signed
  · rcases callOut_failed hout with rfl | rfl <;> rfl
  · rfl
  · exact congrArg (Prod.mk s') (callOut_ok hout)

end PqsecDds.CycloneDDS
