import EpubLibrary.Number.Decimal
import Mathlib.Algebra.Order.Field.Rat
import Mathlib.Algebra.Order.Field.Basic
import Mathlib.Order.WithBot
import Mathlib.Tactic.NormNum
import Mathlib.Tactic.Ring

namespace EpubLibrary

namespace Binary64

/-- The rational that a number stands for. -/
def value? : Binary64 → Option ℚ
  | .finite negative m e => some (signed negative m * 2 ^ e)
  | .infinite _ => none
  | .nan => none

theorem signed_mul (negative : Bool) (m k : Nat) :
    signed negative (m * k) = signed negative m * k := by
  cases negative <;> simp [signed]

/-- Lowering an exponent raises the significand. -/
theorem value_lower (negative : Bool) (m : Nat) {e low : Int} (below : low ≤ e) :
    (signed negative m : ℚ) * 2 ^ e =
      (signed negative (m * Nat.pow 2 (e - low).toNat) : ℚ) * 2 ^ low := by
  have two : (2 : ℚ) ≠ 0 := by norm_num
  have split : (2 : ℚ) ^ e = 2 ^ (e - low).toNat * 2 ^ low := by
    rw [← zpow_natCast, ← zpow_add₀ two]
    congr 1
    omega
  rw [split, signed_mul, Nat.pow_eq]
  push_cast
  ring

/-- The order of finite numbers is that of their values. -/
theorem le_iff_value {s t : Bool} {m n : Nat} {e f : Int} :
    (finite s m e).le (finite t n f) = true ↔
      (signed s m : ℚ) * 2 ^ e ≤ (signed t n : ℚ) * 2 ^ f := by
  have positive : (0 : ℚ) < 2 ^ min e f := zpow_pos (by norm_num) _
  rw [value_lower s m (Int.min_le_left e f), value_lower t n (Int.min_le_right e f),
    mul_le_mul_iff_left₀ positive, Int.cast_le]
  exact decide_eq_true_iff

/-- Where a number stands in the order; what is no number stands nowhere above the least. -/
def rank : Binary64 → WithBot (WithTop ℚ)
  | .nan => ⊥
  | .infinite true => ⊥
  | .infinite false => ((⊤ : WithTop ℚ) : WithBot (WithTop ℚ))
  | .finite negative m e => ((signed negative m * 2 ^ e : ℚ) : WithTop ℚ)

theorem rank_finite (negative : Bool) (m : Nat) (e : Int) :
    ∃ q : ℚ, (finite negative m e).rank = (q : WithTop ℚ) := ⟨_, rfl⟩

/-- The order is linear, apart from what is no number. -/
theorem le_iff_rank {x y : Binary64} (hx : x ≠ .nan) (hy : y ≠ .nan) :
    x.le y = true ↔ x.rank ≤ y.rank := by
  cases x with
  | nan => exact absurd rfl hx
  | infinite s =>
    cases y with
    | nan => exact absurd rfl hy
    | infinite t => cases s <;> cases t <;> simp [le, rank]
    | finite t n f =>
      obtain ⟨q, value⟩ := rank_finite t n f
      rw [value]
      cases s <;> simp [le, rank]
  | finite s m e =>
    cases y with
    | nan => exact absurd rfl hy
    | infinite t =>
      obtain ⟨q, value⟩ := rank_finite s m e
      rw [value]
      cases t <;> simp [le, rank]
    | finite t n f => rw [le_iff_value, rank, rank, WithBot.coe_le_coe, WithTop.coe_le_coe]

/-- The sign of zero does not change a value. -/
theorem value?_unsignZero (x : Binary64) : x.unsignZero.value? = x.value? := by
  unfold unsignZero
  split
  · rename_i negative e
    cases negative <;> simp [value?, signed]
  · rfl

end Binary64

namespace Number

theorem isFraction_iff {x : Binary64} :
    (binary x).isFraction = true ↔ ∃ q, x.value? = some q ∧ 0 ≤ q ∧ q ≤ 1 := by
  cases x with
  | nan => simp [isFraction, Binary64.le, Binary64.value?]
  | infinite negative =>
    cases negative <;> simp [isFraction, Binary64.le, Binary64.value?, Binary64.zero]
  | finite negative m e =>
    have one : ((Binary64.signed false 0x10000000000000 : Int) : ℚ) * 2 ^ (-52 : Int) = 1 := by
      norm_num [Binary64.signed]
    have zero : ((Binary64.signed false 0 : Int) : ℚ) * 2 ^ Binary64.minExponent = 0 := by
      simp [Binary64.signed]
    simp only [isFraction, Bool.and_eq_true, Binary64.zero, Binary64.le_iff_value, one, zero,
      Binary64.value?, Option.some.injEq, exists_eq_left']

/-- The rational that a number stands for. -/
def value? : Number → Option ℚ
  | .integer n => some n
  | .binary x => x.value?

/-- A number passes for a fraction exactly if its value lies between zero and one. -/
theorem isFraction_iff_value {n : Number} :
    n.isFraction = true ↔ ∃ q, n.value? = some q ∧ 0 ≤ q ∧ q ≤ 1 := by
  cases n with
  | binary x => exact isFraction_iff
  | integer n =>
    simp only [isFraction, Bool.and_eq_true, decide_eq_true_eq, value?, Option.some.injEq,
      exists_eq_left', Int.cast_nonneg_iff]
    norm_cast

/-- A fraction keeps its value when a cell holds it as a binary number. -/
theorem value?_stored {n : Number} (h : n.isFraction = true) :
    (n.toBinary?.getD .nan).unsignZero.value? = n.value? := by
  rw [Binary64.value?_unsignZero]
  cases n with
  | binary x => rfl
  | integer n =>
    simp only [isFraction, Bool.and_eq_true, decide_eq_true_eq] at h
    obtain rfl | rfl : n = 0 ∨ n = 1 := by omega
    · have zero : (Binary64.ofInt? 0).getD .nan = .finite false 0 Binary64.minExponent := by decide
      simp [toBinary?, zero, Binary64.value?, value?, Binary64.signed]
    · have one : (Binary64.ofInt? 1).getD .nan = .finite false 0x10000000000000 (-52) := by decide
      norm_num [toBinary?, one, Binary64.value?, value?, Binary64.signed]

/-- So does the number that a cell holds of it. -/
theorem stored_fraction {n : Number} (h : n.isFraction = true) :
    ∃ q, (n.toBinary?.getD .nan).unsignZero.value? = some q ∧ 0 ≤ q ∧ q ≤ 1 := by
  rw [value?_stored h]
  exact isFraction_iff_value.1 h

end Number
end EpubLibrary
