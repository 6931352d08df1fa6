/-!
# Sequences of checks that stop at the first failure

A function that tests one condition after the other and reports the first that fails is a program in
`Except ε`. The lemmas read the success of such a program as what each of its steps established.
-/

namespace PqsecDds.Lib

universe u v

variable {ε : Type u} {α β : Type v}

/-- Go on if `b`, else stop with `e`. -/
def require (b : Bool) (e : ε) : Except ε Unit := if b then .ok () else .error e

/-- Go on with the value of `o`, or stop with `e`. -/
def need (o : Option α) (e : ε) : Except ε α := o.elim (.error e) .ok

theorem bind_ok {x : Except ε α} {f : α → Except ε β} {b : β} :
    x >>= f = .ok b ↔ ∃ a, x = .ok a ∧ f a = .ok b := by
  cases x <;> simp [bind, Except.bind]

theorem pure_ok {a b : α} : (pure a : Except ε α) = .ok b ↔ a = b := by
  simp [pure, Except.pure]

theorem require_ok {b : Bool} {e : ε} {u : Unit} : require b e = .ok u ↔ b = true := by
  cases b <;> simp [require]

theorem need_ok {o : Option α} {e : ε} {a : α} : need o e = .ok a ↔ o = some a := by
  cases o <;> simp [need]

end PqsecDds.Lib
