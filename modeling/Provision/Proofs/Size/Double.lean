import Mathlib.Algebra.Order.Field.Power
import Mathlib.Tactic.Ring
import Provision.Proofs.Size.Rounding

/-!
Rounding to binary floating-point numbers of 64 bits. Between two powers of two that follow each other
these are the multiples of one unit, so that rounding to them is rounding to whole numbers of units.
-/

namespace Provision.Size

variable {x y : ℚ} {p q b n : ℕ} {e : ℤ}

theorem two_zpow_pos (e : ℤ) : (0 : ℚ) < 2 ^ e :=
  zpow_pos two_pos e

theorem abs_sub_units (e : ℤ) (x : ℚ) (p : ℕ) : |x * 2 ^ e - p * 2 ^ e| = |x - p| * 2 ^ e := by
  rw [← sub_mul, abs_mul, abs_of_pos (two_zpow_pos e)]

theorem abs_sub_units_le_iff :
    |x * 2 ^ e - p * 2 ^ e| ≤ |x * 2 ^ e - q * 2 ^ e| ↔ |x - p| ≤ |x - q| := by
  rw [abs_sub_units, abs_sub_units, mul_le_mul_iff_of_pos_right (two_zpow_pos e)]

theorem abs_sub_units_eq_iff :
    |x * 2 ^ e - p * 2 ^ e| = |x * 2 ^ e - q * 2 ^ e| ↔ |x - p| = |x - q| := by
  rw [abs_sub_units, abs_sub_units, mul_left_inj' (two_zpow_pos e).ne']

theorem units_inj : (p * 2 ^ e : ℚ) = q * 2 ^ e ↔ p = q := by
  rw [mul_left_inj' (two_zpow_pos e).ne', Nat.cast_inj]

/-- A finite floating-point number of 64 bits: a significand of 53 binary digits, the first of them
not nought unless the exponent is the least. -/
structure Double where
  significand : ℤ
  exponent : ℤ
  bound : |significand| < 2 ^ 53
  least : -1074 ≤ exponent
  greatest : exponent ≤ 971
  canonical : 2 ^ 52 ≤ |significand| ∨ exponent = -1074

namespace Double

variable {c d : Double}

def value (d : Double) : ℚ := d.significand * 2 ^ d.exponent

/-- No floating-point number is nearer to `x`; if another is as near, this is the one whose last
binary digit is nought. -/
structure IsNearest (d : Double) (x : ℚ) : Prop where
  near : ∀ c : Double, |x - d.value| ≤ |x - c.value|
  even : ∀ c : Double, c.value ≠ d.value → |x - c.value| = |x - d.value| → Even d.significand

theorem isNearest_iff_of_value (hc : c.value = x) : d.IsNearest x ↔ d.value = x := by
  constructor
  · intro hd
    have hle := hd.near c
    rw [hc, sub_self, abs_zero, abs_nonpos_iff, sub_eq_zero] at hle
    exact hle.symm
  · rintro rfl
    refine ⟨fun c => by simp, fun c hne heq => ?_⟩
    rw [sub_self, abs_zero, abs_eq_zero, sub_eq_zero] at heq
    exact absurd heq.symm hne

theorem IsNearest.mono (hd : d.IsNearest x) (hc : c.IsNearest y) (hxy : x < y) :
    d.value ≤ c.value := by
  by_contra! hlt
  have hx := sq_le_sq.2 (hd.near c)
  have hy := sq_le_sq.2 (hc.near d)
  -- The middle between the two is not above `x` and not below `y`.
  have hmiddle : c.value + d.value ≤ 2 * x := by nlinarith
  have hmiddle' : 2 * y ≤ c.value + d.value := by nlinarith
  linarith

theorem exists_natural (h : 0 < d.value) : ∃ m : ℕ, d.significand = m := by
  have hpos : (0 : ℚ) < d.significand := pos_of_mul_pos_left h (two_zpow_pos _).le
  exact Int.eq_ofNat_of_zero_le (by exact_mod_cast hpos.le)

theorem le_exponent (h : 2 ^ 52 * 2 ^ e ≤ d.value) : e ≤ d.exponent := by
  by_contra! hlt
  have hbound : (d.significand : ℚ) < 2 ^ 53 := mod_cast (abs_lt.1 d.bound).2
  have hsmall : d.value < 2 ^ 52 * 2 ^ e := by
    calc d.value < 2 ^ 53 * 2 ^ d.exponent :=
          mul_lt_mul_of_pos_right hbound (two_zpow_pos _)
      _ = 2 ^ 52 * 2 ^ (d.exponent + 1) := by
        rw [zpow_add_one₀ two_ne_zero]
        ring
      _ ≤ 2 ^ 52 * 2 ^ e :=
        mul_le_mul_of_nonneg_left (zpow_le_zpow_right₀ one_le_two hlt) (by norm_num)
  exact absurd h (not_le.2 hsmall)

theorem even_iff_even_shifted {m j : ℕ} (hfull : 2 ^ 52 ≤ m ∨ j = 0) (hhi : m * 2 ^ j ≤ 2 ^ 53) :
    Even m ↔ Even (m * 2 ^ j) := by
  cases j with
  | zero => simp
  | succ i =>
    have hlo : 2 ^ 52 ≤ m := hfull.resolve_right (Nat.succ_ne_zero i)
    have hle : m * 1 ≤ m * 2 ^ i := Nat.mul_le_mul_left m Nat.one_le_two_pow
    rw [pow_succ, ← Nat.mul_assoc] at hhi
    have hm : m = 2 ^ 52 := by omega
    have heven : Even m := by
      rw [hm]
      decide
    exact iff_of_true heven (heven.mul_right _)

theorem exists_multiple (he : -1074 ≤ e) (hlo : 2 ^ 52 * 2 ^ e ≤ d.value)
    (hhi : d.value ≤ 2 ^ 53 * 2 ^ e) :
    ∃ p : ℕ, d.value = p * 2 ^ e ∧ (Even d.significand ↔ Even p) := by
  have hunit := two_zpow_pos e
  obtain ⟨m, hm⟩ := exists_natural ((by positivity : (0 : ℚ) < 2 ^ 52 * 2 ^ e).trans_le hlo)
  obtain ⟨j, hj⟩ := Int.le.dest (le_exponent hlo)
  have hval : d.value = (m * 2 ^ j : ℕ) * 2 ^ e := by
    rw [value, hm, ← hj, zpow_add₀ two_ne_zero, zpow_natCast]
    push_cast
    ring
  have hfull : 2 ^ 52 ≤ m ∨ j = 0 := by
    have hcan := d.canonical
    rw [hm, Nat.abs_cast] at hcan
    exact hcan.imp (fun h => by exact_mod_cast h) fun h => by omega
  have htop : m * 2 ^ j ≤ 2 ^ 53 := by
    rw [hval] at hhi
    exact_mod_cast le_of_mul_le_mul_right hhi hunit
  refine ⟨m * 2 ^ j, hval, ?_⟩
  rw [hm, Int.even_coe_nat]
  exact even_iff_even_shifted hfull htop

theorem exists_of_multiple (he : -1074 ≤ e) (he' : e ≤ 970) (hlo : 2 ^ 52 ≤ p) (hhi : p ≤ 2 ^ 53) :
    ∃ d : Double, d.value = p * 2 ^ e := by
  obtain hlt | rfl := hhi.lt_or_eq
  · refine ⟨⟨p, e, ?_, he, by omega, .inl ?_⟩, ?_⟩
    · rw [Nat.abs_cast]
      exact_mod_cast hlt
    · rw [Nat.abs_cast]
      exact_mod_cast hlo
    · simp [value]
  · refine ⟨⟨2 ^ 52, e + 1, by norm_num, by omega, by omega, .inl (by norm_num)⟩, ?_⟩
    simp only [value]
    rw [zpow_add_one₀ (by norm_num)]
    push_cast
    ring

section Binade

variable (he : -1074 ≤ e) (he' : e ≤ 970) (hlo : 2 ^ 52 ≤ y) (hhi : y ≤ 2 ^ 53)

include he hlo hhi

theorem multiple_or_lt (c : Double) :
    (∃ p : ℕ, c.value = p * 2 ^ e ∧ (Even c.significand ↔ Even p)) ∨
      ∃ p : ℕ, 2 ^ 52 ≤ p ∧ p ≤ 2 ^ 53 ∧ |y * 2 ^ e - p * 2 ^ e| < |y * 2 ^ e - c.value| := by
  have hunit := two_zpow_pos e
  have hlo' : 2 ^ 52 * 2 ^ e ≤ y * 2 ^ e := mul_le_mul_of_nonneg_right hlo hunit.le
  have hhi' : y * 2 ^ e ≤ 2 ^ 53 * 2 ^ e := mul_le_mul_of_nonneg_right hhi hunit.le
  by_cases hc : c.value < 2 ^ 52 * 2 ^ e
  · right
    refine ⟨2 ^ 52, le_rfl, by norm_num, ?_⟩
    rw [Nat.cast_pow, Nat.cast_two, abs_of_nonneg (sub_nonneg.2 hlo'),
      abs_of_pos (sub_pos.2 (hc.trans_le hlo'))]
    linarith
  · by_cases hc' : 2 ^ 53 * 2 ^ e < c.value
    · right
      refine ⟨2 ^ 53, by norm_num, le_rfl, ?_⟩
      rw [Nat.cast_pow, Nat.cast_two, abs_of_nonpos (sub_nonpos.2 hhi'),
        abs_of_neg (sub_neg.2 (hhi'.trans_lt hc'))]
      linarith
    · exact .inl (exists_multiple he (not_lt.1 hc) (not_lt.1 hc'))

theorem isNearest_of_roundsTo (hp : RoundsTo y p) (hd : d.value = p * 2 ^ e) :
    d.IsNearest (y * 2 ^ e) := by
  have hnear : ∀ q : ℕ, |y * 2 ^ e - d.value| ≤ |y * 2 ^ e - q * 2 ^ e| := fun q => by
    rw [hd, abs_sub_units_le_iff]
    exact hp.le q
  refine ⟨fun c => ?_, fun c hne htie => ?_⟩
  · obtain ⟨q, hq, -⟩ | ⟨q, -, -, hlt⟩ := multiple_or_lt he hlo hhi c
    · exact hq ▸ hnear q
    · exact (hnear q).trans hlt.le
  · obtain ⟨q, hq, -⟩ | ⟨q, -, -, hlt⟩ := multiple_or_lt he hlo hhi c
    · obtain ⟨r, hr, hparity⟩ | ⟨r, -, -, hlt⟩ := multiple_or_lt he hlo hhi d
      · obtain rfl : p = r := units_inj.1 (hd.symm.trans hr)
        rw [hq, hd, abs_sub_units_eq_iff] at htie
        rw [hq, hd, Ne, units_inj] at hne
        exact hparity.2 (hp.even_of_tie (Ne.symm hne) htie)
      · exact absurd (hnear r) (not_le.2 hlt)
    · exact absurd (hnear q) (not_le.2 (htie ▸ hlt))

include he'

theorem IsNearest.exists_roundsTo (hd : d.IsNearest (y * 2 ^ e)) :
    ∃ p : ℕ, RoundsTo y p ∧ d.value = p * 2 ^ e := by
  obtain ⟨p, hp, hparity⟩ | ⟨p, hplo, hphi, hlt⟩ := multiple_or_lt he hlo hhi d
  · obtain ⟨q, hq⟩ := Size.exists_roundsTo (le_trans (by norm_num) hlo)
    obtain ⟨hqlo, hqhi⟩ := hq.between hlo hhi
    obtain ⟨c, hc⟩ := exists_of_multiple he he' hqlo hqhi
    refine ⟨p, hq.of_le ?_ fun hne htie => hparity.1 (hd.even c ?_ ?_), hp⟩
    · rw [← abs_sub_units_le_iff (e := e), ← hp, ← hc]
      exact hd.near c
    · rw [hc, hp, Ne, units_inj]
      exact hne.symm
    · rwa [hc, hp, abs_sub_units_eq_iff]
  · obtain ⟨c, hc⟩ := exists_of_multiple he he' hplo hphi
    rw [← hc] at hlt
    exact absurd (hd.near c) (not_le.2 hlt)

theorem isNearest_iff :
    d.IsNearest (y * 2 ^ e) ↔ ∃ p : ℕ, RoundsTo y p ∧ d.value = p * 2 ^ e := by
  constructor
  · exact IsNearest.exists_roundsTo he he' hlo hhi
  · rintro ⟨p, hp, hd⟩
    exact isNearest_of_roundsTo he hlo hhi hp hd

end Binade

theorem exists_value (hn : n < 2 ^ 53) : ∃ d : Double, d.value = n := by
  obtain rfl | hpos := n.eq_zero_or_pos
  · exact ⟨⟨0, -1074, by norm_num, le_rfl, by norm_num, .inr rfl⟩, by simp [value]⟩
  · have hlog : n.log2 < 53 := (Nat.log2_lt hpos.ne').2 hn
    obtain ⟨j, hj⟩ := Nat.exists_eq_add_of_le (Nat.lt_succ_iff.1 hlog)
    have hlo : 2 ^ 52 ≤ n * 2 ^ j := by
      rw [hj, pow_add]
      exact Nat.mul_le_mul_right _ (Nat.log2_self_le hpos.ne')
    have hhi : n * 2 ^ j ≤ 2 ^ 53 := by
      have hlt : n < 2 ^ (n.log2 + 1) := Nat.lt_log2_self
      calc n * 2 ^ j ≤ 2 ^ (n.log2 + 1) * 2 ^ j := Nat.mul_le_mul_right _ hlt.le
        _ = 2 ^ 53 := by rw [← pow_add, show n.log2 + 1 + j = 53 by omega]
    obtain ⟨d, hd⟩ := exists_of_multiple (e := -j) (by omega) (by omega) hlo hhi
    refine ⟨d, ?_⟩
    rw [hd, zpow_neg, zpow_natCast]
    push_cast
    exact mul_inv_cancel_right₀ (by positivity) _

end Double

theorem nearest_of_lt (hn : n < 2 ^ 53) : nearest n = n := by
  have hlog : n.log2 ≤ 52 := by
    obtain rfl | hpos := n.eq_zero_or_pos
    · decide
    · exact Nat.lt_succ_iff.1 ((Nat.log2_lt hpos.ne').2 hn)
  have hunit : n.log2 + 1 - 53 = 0 := by omega
  simp [nearest, hunit, roundDiv, Nat.mod_one]

theorem exists_units (hlo : 2 ^ 53 ≤ n) (hhi : n < 2 ^ 64) : ∃ (y : ℚ) (e : ℤ),
    -1074 ≤ e ∧ e ≤ 970 ∧ 2 ^ 52 ≤ y ∧ y ≤ 2 ^ 53 ∧ (n : ℚ) = y * 2 ^ e ∧
      ∃ p : ℕ, RoundsTo y p ∧ (nearest n : ℚ) = p * 2 ^ e := by
  have hne : n ≠ 0 := by
    rintro rfl
    norm_num at hlo
  have hlog : 53 ≤ n.log2 := (Nat.le_log2 hne).2 hlo
  have hlog' : n.log2 < 64 := (Nat.log2_lt hne).2 hhi
  obtain ⟨j, hj⟩ := Nat.exists_eq_add_of_le (show 52 ≤ n.log2 by omega)
  have hpos : (0 : ℚ) < 2 ^ j := by positivity
  have hround := roundsTo_roundDiv (Nat.two_pow_pos j) n
  rw [Nat.cast_pow, Nat.cast_two] at hround
  refine ⟨n / 2 ^ j, j, by omega, by omega, ?_, ?_, ?_, _, hround, ?_⟩
  · rw [le_div_iff₀ hpos, ← pow_add, ← hj]
    exact_mod_cast Nat.log2_self_le hne
  · rw [div_le_iff₀ hpos, ← pow_add, show 53 + j = n.log2 + 1 by omega]
    exact_mod_cast Nat.lt_log2_self.le
  · rw [zpow_natCast, div_mul_cancel₀ _ hpos.ne']
  · have hunit : n.log2 + 1 - 53 = j := by omega
    simp only [nearest, hunit, Nat.one_shiftLeft]
    push_cast
    rw [zpow_natCast]

theorem isNearest_iff_nearest {d : Double} (hn : n < 2 ^ 64) :
    d.IsNearest n ↔ d.value = nearest n := by
  obtain hlt | hle := lt_or_ge n (2 ^ 53)
  · obtain ⟨c, hc⟩ := Double.exists_value hlt
    rw [Double.isNearest_iff_of_value hc, nearest_of_lt hlt]
  · obtain ⟨y, e, he, he', hlo, hhi, hy, p, hp, hnear⟩ := exists_units hle hn
    rw [hy, Double.isNearest_iff he he' hlo hhi, hnear]
    constructor
    · rintro ⟨q, hq, hd⟩
      rw [hd, hq.unique hp]
    · exact fun hd => ⟨p, hp, hd⟩

theorem exists_isNearest (hn : n < 2 ^ 64) : ∃ d : Double, d.IsNearest n := by
  obtain hlt | hle := lt_or_ge n (2 ^ 53)
  · obtain ⟨c, hc⟩ := Double.exists_value hlt
    exact ⟨c, (Double.isNearest_iff_of_value hc).2 hc⟩
  · obtain ⟨y, e, he, he', hlo, hhi, hy, p, hp, -⟩ := exists_units hle hn
    obtain ⟨hplo, hphi⟩ := hp.between hlo hhi
    obtain ⟨d, hd⟩ := Double.exists_of_multiple he he' hplo hphi
    exact ⟨d, hy ▸ (Double.isNearest_iff he he' hlo hhi).2 ⟨p, hp, hd⟩⟩

theorem nearest_mono {m : ℕ} (hmn : m ≤ n) (hn : n < 2 ^ 64) : nearest m ≤ nearest n := by
  obtain hlt | rfl := hmn.lt_or_eq
  · have hm := hlt.trans hn
    obtain ⟨c, hc⟩ := exists_isNearest hm
    obtain ⟨d, hd⟩ := exists_isNearest hn
    have hle := hc.mono hd (by exact_mod_cast hlt)
    rw [(isNearest_iff_nearest hm).1 hc, (isNearest_iff_nearest hn).1 hd] at hle
    exact_mod_cast hle
  · exact le_rfl

theorem le_nearest_iff (hb : b < 2 ^ 53) (hn : n < 2 ^ 64) : b ≤ nearest n ↔ b ≤ n := by
  constructor
  · intro h
    by_contra! hlt
    rw [nearest_of_lt (hlt.trans hb)] at h
    exact absurd hlt (not_lt.2 h)
  · intro h
    have hle := nearest_mono h hn
    rwa [nearest_of_lt hb] at hle

end Provision.Size
