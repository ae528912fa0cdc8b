import Mathlib.Algebra.Order.Field.Rat
import Mathlib.Data.Rat.Lemmas
import Mathlib.Tactic.Linarith
import Mathlib.Tactic.Positivity
import Provision.Size

namespace Provision.Size

variable {x y : ℚ} {p q a b : ℕ}

/-- The whole number nearest to `x`; of two, the even one. -/
structure RoundsTo (x : ℚ) (q : ℕ) : Prop where
  near : |x - q| ≤ 1 / 2
  even : |x - q| = 1 / 2 → Even q

theorem roundsTo_natCast (n : ℕ) : RoundsTo n n := by
  constructor <;> norm_num

theorem RoundsTo.of_lt (h : |x - q| < 1 / 2) : RoundsTo x q :=
  ⟨h.le, fun heq => absurd heq h.ne⟩

theorem RoundsTo.mono (hx : RoundsTo x p) (hy : RoundsTo y q) (hxy : x ≤ y) : p ≤ q := by
  by_contra! hlt
  have hsucc : (q : ℚ) + 1 ≤ p := mod_cast hlt
  obtain ⟨hx', -⟩ := abs_le.1 hx.near
  obtain ⟨-, hy'⟩ := abs_le.1 hy.near
  -- Both lie half-way, between the same two numbers.
  have hxp : x - p = -(1 / 2) := by linarith
  have hyq : y - q = 1 / 2 := by linarith
  have hp : Even p := hx.even (by rw [hxp]; norm_num)
  have hq : Even q := hy.even (by rw [hyq]; norm_num)
  have hpq : p = q + 1 := by
    have h : (p : ℚ) = q + 1 := by linarith
    exact_mod_cast h
  rw [hpq, Nat.even_add_one] at hp
  exact hp hq

theorem RoundsTo.unique (hp : RoundsTo x p) (hq : RoundsTo x q) : p = q :=
  le_antisymm (hp.mono hq le_rfl) (hq.mono hp le_rfl)

theorem one_le_of_ne (x : ℚ) (h : p ≠ q) : 1 ≤ |x - p| + |x - q| := by
  have hone : (1 : ℚ) ≤ |(p : ℚ) - q| := by
    have hz : (1 : ℤ) ≤ |(p : ℤ) - q| := Int.one_le_abs (by omega)
    exact_mod_cast hz
  have htriangle := abs_sub_le (p : ℚ) x q
  rw [abs_sub_comm (p : ℚ) x] at htriangle
  exact hone.trans htriangle

theorem RoundsTo.le (h : RoundsTo x p) (q : ℕ) : |x - p| ≤ |x - q| := by
  obtain rfl | hne := eq_or_ne p q
  · rfl
  · have := one_le_of_ne x hne
    linarith [h.near]

theorem RoundsTo.even_of_tie (h : RoundsTo x p) (hne : p ≠ q) (heq : |x - q| = |x - p|) :
    Even p := by
  have := one_le_of_ne x hne
  exact h.even (h.near.antisymm (by linarith))

theorem RoundsTo.of_le (h : RoundsTo x q) (hle : |x - p| ≤ |x - q|)
    (heven : p ≠ q → |x - q| = |x - p| → Even p) : RoundsTo x p := by
  refine ⟨hle.trans h.near, fun heq => ?_⟩
  obtain rfl | hne := eq_or_ne p q
  · exact h.even heq
  · exact heven hne ((h.near.trans heq.ge).antisymm hle)

theorem roundsTo_roundDiv (hb : 0 < b) (a : ℕ) : RoundsTo (a / b) (roundDiv a b) := by
  have hb' : (0 : ℚ) < b := mod_cast hb
  have hrest : (a : ℚ) / b - (a / b : ℕ) = (a % b : ℕ) / b := by
    rw [sub_eq_iff_eq_add, div_eq_iff hb'.ne', add_mul, div_mul_cancel₀ _ hb'.ne']
    exact_mod_cast (Nat.mod_add_div' a b).symm
  simp only [roundDiv]
  split
  · rename_i hlt
    have hhalf : ((a % b : ℕ) : ℚ) / b < 1 / 2 := by
      rw [div_lt_div_iff₀ hb' two_pos]
      exact_mod_cast (by omega : a % b * 2 < 1 * b)
    exact .of_lt (by rwa [hrest, abs_of_nonneg (by positivity)])
  · split
    · rename_i hlt
      have hhalf : 1 / 2 < ((a % b : ℕ) : ℚ) / b := by
        rw [div_lt_div_iff₀ two_pos hb']
        exact_mod_cast (by omega : 1 * b < a % b * 2)
      have hone : ((a % b : ℕ) : ℚ) / b < 1 := by
        rw [div_lt_one hb']
        exact_mod_cast Nat.mod_lt a hb
      refine .of_lt (abs_lt.2 ?_)
      push_cast at hrest ⊢
      constructor <;> linarith
    · have hhalf : (a : ℚ) / b - (a / b : ℕ) = 1 / 2 := by
        rw [hrest, div_eq_div_iff hb'.ne' two_ne_zero]
        exact_mod_cast (by omega : a % b * 2 = 1 * b)
      obtain heven | hodd := Nat.mod_two_eq_zero_or_one (a / b)
      · rw [heven, add_zero]
        exact ⟨by rw [hhalf]; norm_num, fun _ => Nat.even_iff.2 heven⟩
      · have hdown : (a : ℚ) / b - (a / b + 1 : ℕ) = -(1 / 2) := by
          push_cast
          linarith
        rw [hodd]
        exact ⟨by rw [hdown]; norm_num, fun _ => Nat.even_add_one.2 (Nat.not_even_iff.2 hodd)⟩

theorem exists_roundsTo (hx : 0 ≤ x) : ∃ q, RoundsTo x q := by
  have hnum : (x.num.toNat : ℚ) = x.num := mod_cast Int.toNat_of_nonneg (Rat.num_nonneg.2 hx)
  have h := roundsTo_roundDiv x.den_pos x.num.toNat
  rw [hnum, Rat.num_div_den] at h
  exact ⟨_, h⟩

theorem RoundsTo.mem_Icc (h : RoundsTo x q) (hlo : a ≤ x) (hhi : x ≤ b) : a ≤ q ∧ q ≤ b :=
  ⟨(roundsTo_natCast a).mono h hlo, h.mono (roundsTo_natCast b) hhi⟩

theorem RoundsTo.between (h : RoundsTo x q) (hlo : 2 ^ 52 ≤ x) (hhi : x ≤ 2 ^ 53) :
    2 ^ 52 ≤ q ∧ q ≤ 2 ^ 53 :=
  h.mem_Icc (by exact_mod_cast hlo) (by exact_mod_cast hhi)

end Provision.Size
