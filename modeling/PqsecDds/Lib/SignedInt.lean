/-!
# Checked arithmetic on signed integers

A signed 64-bit integer is an `Int` in the range `InInt64`, one of 32 bits an `Int` in the range `InInt32`. An operation of
C on two of them is the operation on `Int`, and is defined only if its result is in the range: there is no wrap-around.
Under `Checked`, for 64 bits, `none` stands for an overflow or a division by zero.
-/

namespace PqsecDds.Lib

def int64Min : Int := -9223372036854775808

def int64Max : Int := 9223372036854775807

def InInt64 (x : Int) : Prop := int64Min ≤ x ∧ x ≤ int64Max

instance : DecidablePred InInt64 := fun _ => inferInstanceAs (Decidable (_ ∧ _))

def InInt32 (x : Int) : Prop := -2147483648 ≤ x ∧ x ≤ 2147483647

instance : DecidablePred InInt32 := fun _ => inferInstanceAs (Decidable (_ ∧ _))

theorem inInt64_of_nonneg {x : Int} (h0 : 0 ≤ x) (hle : x ≤ int64Max) : InInt64 x := by
  refine ⟨?_, hle⟩
  unfold int64Min
  omega

namespace Checked

def value (x : Int) : Option Int := if InInt64 x then some x else none

def add (x y : Int) : Option Int := value (x + y)

def sub (x y : Int) : Option Int := value (x - y)

def mul (x y : Int) : Option Int := value (x * y)

/-- Division truncates. -/
def div (x y : Int) : Option Int := if y = 0 then none else value (x.tdiv y)

variable {x y : Int}

theorem value_of_inInt64 (h : InInt64 x) : value x = some x := if_pos h

theorem add_eq_some (h : InInt64 (x + y)) : add x y = some (x + y) := value_of_inInt64 h

theorem sub_eq_some (h : InInt64 (x - y)) : sub x y = some (x - y) := value_of_inInt64 h

theorem mul_eq_some (h : InInt64 (x * y)) : mul x y = some (x * y) := value_of_inInt64 h

/-- Dividing a number that is not negative by a positive one stays in the range. -/
theorem div_eq_some (hx : InInt64 x) (h0 : 0 ≤ x) (hy : 0 < y) : div x y = some (x / y) := by
  have hle : x / y ≤ x := Int.ediv_le_self y h0
  have hnonneg : 0 ≤ x / y := Int.ediv_nonneg h0 (Int.le_of_lt hy)
  rw [div, if_neg (by omega), Int.tdiv_eq_ediv_of_nonneg h0]
  exact value_of_inInt64 (inInt64_of_nonneg hnonneg (Int.le_trans hle hx.2))

end Checked

end PqsecDds.Lib
