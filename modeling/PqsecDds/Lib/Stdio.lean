import Mathlib.Data.List.Basic

/-!
# Reading a stream in blocks

A C stream as its reader sees it: the elements that can be read, what stands behind them (the end of the file or a read
error), and the two flags. A reader that takes blocks of a fixed size finds the blocks of the contents one after the other;
`Stream.at` is the stream after `i` of them.
-/

namespace PqsecDds.Lib

variable {α : Type} {n i : Nat} {contents : List α} {broken : Bool}

/-- `broken` says that a read error stands behind `rest`, and not the end of the file. -/
structure Stream (α : Type) where
  rest : List α
  broken : Bool
  eof : Bool := false
  error : Bool := false
  deriving DecidableEq

/-- A read that comes up short sets a flag; one that is satisfied does not look further. -/
def Stream.fread (n : Nat) (fp : Stream α) : List α × Stream α :=
  (fp.rest.take n,
    { fp with
      rest := fp.rest.drop n
      eof := fp.eof || (!fp.broken && decide (fp.rest.length < n))
      error := fp.error || (fp.broken && decide (fp.rest.length < n)) })

/-- Block `i` of a list in blocks of `n`; the last one is short. -/
def block (n : Nat) (xs : List α) (i : Nat) : List α := (xs.drop (n * i)).take n

/-- The number of blocks. -/
def blockCount (n len : Nat) : Nat := (len + (n - 1)) / n

/-- The stream after `i` reads of `n` elements. -/
def Stream.at (n : Nat) (contents : List α) (broken : Bool) (i : Nat) : Stream α where
  rest := contents.drop (n * i)
  broken := broken
  eof := !broken && decide (contents.length < n * i)
  error := broken && decide (contents.length < n * i)

namespace Stream

theorem at_zero : Stream.at n contents broken 0 = { rest := contents, broken } := by
  simp [Stream.at]

/-- Once a read came up short, further reads change nothing. -/
theorem at_succ_of_short (h : contents.length < n * i) :
    Stream.at n contents broken (i + 1) = Stream.at n contents broken i := by
  have hmul : n * i ≤ n * (i + 1) := Nat.mul_le_mul_left n (Nat.le_succ i)
  have hnext : contents.length < n * (i + 1) := Nat.lt_of_lt_of_le h hmul
  simp only [Stream.at, h, hnext, List.drop_of_length_le (Nat.le_of_lt h), List.drop_of_length_le (Nat.le_of_lt hnext)]

theorem fread_at (n : Nat) (contents : List α) (broken : Bool) (i : Nat) :
    (Stream.at n contents broken i).fread n = (block n contents i, Stream.at n contents broken (i + 1)) := by
  have hshort : (contents.length < n * i ∨ contents.length - n * i < n) ↔ contents.length < n * (i + 1) := by
    rw [Nat.mul_succ]
    omega
  have hflag : ∀ b : Bool, (b && decide (contents.length < n * i) || b && decide (contents.length - n * i < n)) =
      (b && decide (contents.length < n * (i + 1))) := by
    intro b
    rw [← Bool.and_or_distrib_left, ← Bool.decide_or]
    simp only [hshort]
  simp only [fread, Stream.at, block, List.length_drop, List.drop_drop, hflag, Nat.mul_succ]

end Stream

theorem length_block (n : Nat) (xs : List α) (i : Nat) : (block n xs i).length = min n (xs.length - n * i) := by
  simp [block]

/-- The blocks of a list are the list. -/
theorem flatMap_block (n : Nat) (xs : List α) (k : Nat) : (List.range k).flatMap (block n xs) = xs.take (n * k) := by
  induction k with
  | zero => simp
  | succ k ih =>
    rw [List.range_succ, List.flatMap_append, ih, Nat.mul_succ, List.take_add]
    simp [block]

end PqsecDds.Lib
