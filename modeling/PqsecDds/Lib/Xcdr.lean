import Mathlib.Data.Set.Function
import Mathlib.Data.List.Basic
import Mathlib.Algebra.Group.Nat.Defs

/-!
# XCDR1 in big-endian order

An encoder is given the offset in the stream, because numbers are aligned to four octets from its start. Encoders whose
values can be told from what follows them, whatever that is, compose.
-/

namespace PqsecDds.Lib.Xcdr

variable {β γ : Type*}

abbrev Encoder (β : Type*) := Nat → β → List UInt8

/-- The encoding of a value in `P`, with anything behind it, is that of no other value in `P`. -/
def Unambiguous (P : β → Prop) (e : Encoder β) : Prop :=
  ∀ o x y r r', P x → P y → e o x ++ r = e o y ++ r' → x = y ∧ r = r'

theorem Unambiguous.injOn {P : β → Prop} {e : Encoder β} (he : Unambiguous P e) (o : Nat) :
    Set.InjOn (e o) {x | P x} := by
  intro x hx y hy h
  exact (he o x y [] [] hx hy (by rw [h])).1

/-! ## Numbers -/

def bigEndian (n : UInt32) : List UInt8 := [(n >>> 24).toUInt8, (n >>> 16).toUInt8, (n >>> 8).toUInt8, n.toUInt8]

theorem bigEndian_injective : Function.Injective bigEndian := by
  intro n m h
  have h24 : UInt32.toNat 24 % 32 = 24 := rfl
  have h16 : UInt32.toNat 16 % 32 = 16 := rfl
  have h8 : UInt32.toNat 8 % 32 = 8 := rfl
  simp only [bigEndian, List.cons.injEq, and_true, ← UInt8.toNat_inj, UInt32.toNat_toUInt8,
    UInt32.toNat_shiftRight, Nat.shiftRight_eq_div_pow, h24, h16, h8] at h
  have hn := n.toNat_lt
  have hm := m.toNat_lt
  have heq : n.toNat = m.toNat := by omega
  exact UInt32.toNat_inj.1 heq

def padding (o : Nat) : List UInt8 := List.replicate ((4 - o % 4) % 4) 0

/-- A number that fits a `CORBA::ULong`. -/
def ulong : Encoder Nat := fun o n => padding o ++ bigEndian (UInt32.ofNat n)

theorem ulong_unambiguous : Unambiguous (· < 2 ^ 32) ulong := by
  intro o n m r r' hn hm h
  rw [ulong, ulong, List.append_assoc, List.append_assoc, List.append_cancel_left_eq] at h
  obtain ⟨hword, hrest⟩ := List.append_inj h rfl
  have heq := congrArg UInt32.toNat (bigEndian_injective hword)
  rw [UInt32.toNat_ofNat_of_lt' hn, UInt32.toNat_ofNat_of_lt' hm] at heq
  exact ⟨heq, hrest⟩

/-! ## Octets -/

def octets : Encoder (List UInt8) := fun o l => ulong o l.length ++ l

/-- A string goes with its NUL. -/
def string : Encoder (List UInt8) := fun o s => octets o (s ++ [0])

theorem octets_unambiguous : Unambiguous (·.length < 2 ^ 32) octets := by
  intro o l l' r r' hl hl' h
  rw [octets, octets, List.append_assoc, List.append_assoc] at h
  obtain ⟨hlen, hrest⟩ := ulong_unambiguous o _ _ _ _ hl hl' h
  exact List.append_inj hrest hlen

theorem string_unambiguous : Unambiguous (fun s => s.length + 1 < 2 ^ 32) string := by
  intro o s s' r r' hs hs' h
  have hlen : ∀ t : List UInt8, t.length + 1 < 2 ^ 32 → (t ++ [0]).length < 2 ^ 32 := by simp
  obtain ⟨heq, hrest⟩ := octets_unambiguous o _ _ r r' (hlen s hs) (hlen s' hs') h
  exact ⟨List.append_cancel_right heq, hrest⟩

/-! ## Records and sequences -/

def pair (e : Encoder β) (f : Encoder γ) : Encoder (β × γ) :=
  fun o x => e o x.1 ++ f (o + (e o x.1).length) x.2

def comap (g : γ → β) (e : Encoder β) : Encoder γ := fun o x => e o (g x)

def items (e : Encoder β) : Encoder (List β)
  | _, [] => []
  | o, x :: l => e o x ++ items e (o + (e o x).length) l

def sequence (e : Encoder β) : Encoder (List β) :=
  fun o l => ulong o l.length ++ items e (o + (ulong o l.length).length) l

variable {P : β → Prop} {Q : γ → Prop} {e : Encoder β} {f : Encoder γ}

theorem pair_unambiguous (he : Unambiguous P e) (hf : Unambiguous Q f) :
    Unambiguous (fun x => P x.1 ∧ Q x.2) (pair e f) := by
  rintro o ⟨x, y⟩ ⟨x', y'⟩ r r' ⟨hx, hy⟩ ⟨hx', hy'⟩ h
  simp only [pair, List.append_assoc] at h
  obtain ⟨rfl, hrest⟩ := he o x x' _ _ hx hx' h
  obtain ⟨rfl, hr⟩ := hf _ y y' _ _ hy hy' hrest
  exact ⟨rfl, hr⟩

theorem comap_unambiguous {g : γ → β} (hg : Function.Injective g) (he : Unambiguous P e) :
    Unambiguous (fun x => P (g x)) (comap g e) := by
  intro o x y r r' hx hy h
  obtain ⟨heq, hr⟩ := he o (g x) (g y) r r' hx hy h
  exact ⟨hg heq, hr⟩

/-- Once the count is known, the items can be read one by one. -/
theorem items_unambiguous (he : Unambiguous P e) {l l' : List β} (hlen : l.length = l'.length)
    (hl : ∀ x ∈ l, P x) (hl' : ∀ x ∈ l', P x) {o : Nat} {r r' : List UInt8}
    (h : items e o l ++ r = items e o l' ++ r') : l = l' ∧ r = r' := by
  induction l generalizing l' o with
  | nil =>
    cases l' with
    | nil => exact ⟨rfl, h⟩
    | cons x' l' => cases hlen
  | cons x l ih =>
    cases l' with
    | nil => cases hlen
    | cons x' l' =>
      simp only [items, List.append_assoc] at h
      obtain ⟨rfl, hrest⟩ := he o x x' _ _ (hl x List.mem_cons_self) (hl' x' List.mem_cons_self) h
      obtain ⟨rfl, hr⟩ := ih (Nat.succ.inj hlen) (fun y hy => hl y (List.mem_cons_of_mem _ hy))
        (fun y hy => hl' y (List.mem_cons_of_mem _ hy)) hrest
      exact ⟨rfl, hr⟩

theorem sequence_unambiguous (he : Unambiguous P e) :
    Unambiguous (fun l => l.length < 2 ^ 32 ∧ ∀ x ∈ l, P x) (sequence e) := by
  rintro o l l' r r' ⟨hl, hP⟩ ⟨hl', hP'⟩ h
  simp only [sequence, List.append_assoc] at h
  obtain ⟨hlen, hrest⟩ := ulong_unambiguous o _ _ _ _ hl hl' h
  rw [hlen] at hrest
  exact items_unambiguous he hlen hP hP' hrest

end PqsecDds.Lib.Xcdr
