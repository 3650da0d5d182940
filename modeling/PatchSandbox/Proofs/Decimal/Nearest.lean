import Mathlib.Algebra.Order.Field.Power
import Mathlib.Algebra.Order.Field.Rat
import Mathlib.Tactic.FieldSimp
import Mathlib.Tactic.Linarith
import Mathlib.Tactic.Positivity
import Mathlib.Tactic.Ring
import PatchSandbox.Decimal

/-!
# The double nearest to a fraction

A positive double is a mantissa times a power of two, and around it lies an interval of the values
that are nearer to it than to any other double.

* **`Dyadic.Normal`** says which mantissas and exponents a double has, and **`Dyadic.Within`** which
  values lie in the interval.
* **`Fits`** says which exponent rounding goes by. It is the exponent of the double, except for a
  value just below a power of two that is rounded up to it (**`exponent_cases`**).
* **`nearestBits_of_within`** says that every fraction in the interval is rounded to the double.
-/

namespace PatchSandbox.Decimal

/-! ### Doubles and their intervals -/

namespace Dyadic

/-- The number that is meant. -/
def value (x : Dyadic) : ℚ := x.mantissa * 2 ^ x.exponent

/-- The magnitudes of the finite doubles but zero. The mantissa has fifty-three digits, or fewer at
the least exponent. -/
structure Normal (x : Dyadic) : Prop where
  pos : 0 < x.mantissa
  short : x.mantissa < 2 ^ 53
  low : -1074 ≤ x.exponent
  high : x.exponent ≤ 971
  full : x.exponent = -1074 ∨ 2 ^ 52 ≤ x.mantissa
  narrow : x.narrow = true ↔ x.mantissa = 2 ^ 52 ∧ x.exponent ≠ -1074

/-- How far the values reach that are rounded up to a double, in units of its last digit. -/
def reach (x : Dyadic) : ℚ := if x.narrow then 1 / 4 else 1 / 2

/-- The values that are rounded to a double. The ends belong to it if its mantissa is even. -/
structure Within (x : Dyadic) (v : ℚ) : Prop where
  lower : (x.mantissa - x.reach) * 2 ^ x.exponent ≤ v
  upper : v ≤ (x.mantissa + 1 / 2) * 2 ^ x.exponent
  inner : x.mantissa % 2 = 1 →
    (x.mantissa - x.reach) * 2 ^ x.exponent < v ∧ v < (x.mantissa + 1 / 2) * 2 ^ x.exponent

/-- The bits of a double that is not negative. -/
def bits (x : Dyadic) : Nat :=
  if x.mantissa < 2 ^ 52 then x.mantissa
  else (x.exponent + 1075).toNat * 2 ^ 52 + (x.mantissa - 2 ^ 52)

variable {x : Dyadic} {v : ℚ}

theorem reach_le (x : Dyadic) : x.reach ≤ 1 / 2 := by
  unfold reach
  split <;> norm_num

theorem reach_pos (x : Dyadic) : 0 < x.reach := by
  unfold reach
  split <;> norm_num

/-- A double lies in its own interval. -/
theorem within_value (x : Dyadic) : x.Within x.value := by
  have unit : (0 : ℚ) < 2 ^ x.exponent := by positivity
  have reach := mul_pos x.reach_pos unit
  unfold value
  constructor
  · linarith
  · linarith
  · intro _
    constructor <;> linarith

end Dyadic

/-! ### Rounding to a whole number -/

/-- **A fraction** that lies less than a half from a whole number is rounded to it, and so is one
that lies a half from an even one. -/
theorem roundHalfEven_eq {n d m : Nat} (hd : 0 < d) (lower : (m : ℚ) - 1 / 2 ≤ n / d)
    (upper : (n : ℚ) / d ≤ m + 1 / 2)
    (inner : m % 2 = 1 → (m : ℚ) - 1 / 2 < n / d ∧ (n : ℚ) / d < m + 1 / 2) :
    roundHalfEven n d = m := by
  have hd' : (0 : ℚ) < d := by exact_mod_cast hd
  have lo : 2 * (m * d) ≤ 2 * n + d := by
    rw [le_div_iff₀ hd'] at lower
    have : (2 * (m * d) : ℚ) ≤ 2 * n + d := by linarith
    exact_mod_cast this
  have hi : 2 * n ≤ 2 * (m * d) + d := by
    rw [div_le_iff₀ hd'] at upper
    have : (2 * n : ℚ) ≤ 2 * (m * d) + d := by linarith
    exact_mod_cast this
  have strict : m % 2 = 1 → 2 * (m * d) < 2 * n + d ∧ 2 * n < 2 * (m * d) + d := by
    intro odd
    obtain ⟨l, u⟩ := inner odd
    rw [lt_div_iff₀ hd'] at l
    rw [div_lt_iff₀ hd'] at u
    have l' : (2 * (m * d) : ℚ) < 2 * n + d := by linarith
    have u' : (2 * n : ℚ) < 2 * (m * d) + d := by linarith
    exact ⟨by exact_mod_cast l', by exact_mod_cast u'⟩
  have parts := Nat.div_add_mod n d
  have rest := Nat.mod_lt n hd
  unfold roundHalfEven
  generalize n / d = q at parts
  generalize n % d = r at parts rest
  -- the quotient is the whole number or the one below it
  have near : q = m ∨ q + 1 = m := by
    have above : q ≤ m := by
      by_contra h
      have : (m + 1) * d ≤ q * d := Nat.mul_le_mul_right d (by omega)
      grind
    have below : m ≤ q + 1 := by
      by_contra h
      have : (q + 2) * d ≤ m * d := Nat.mul_le_mul_right d (by omega)
      grind
    omega
  rcases near with rfl | rfl
  · have small : ¬ (d < 2 * r ∨ 2 * r = d ∧ q % 2 = 1) := by grind
    simp [small]
  · have large : d < 2 * r ∨ 2 * r = d ∧ q % 2 = 1 := by grind
    simp [large]

/-! ### The exponent -/

/-- The exponent that a value is rounded by: as many as fifty-three digits before the point, unless
it is the least exponent. -/
structure Fits (v : ℚ) (t : Int) : Prop where
  low : -1074 ≤ t
  short : v < 2 ^ 53 * 2 ^ t
  full : t = -1074 ∨ 2 ^ 52 * 2 ^ t ≤ v

section

variable {x : Dyadic} {v : ℚ} {t : Int}

theorem two_mul_zpow_le {s t : Int} (h : s < t) : 2 * (2 : ℚ) ^ s ≤ 2 ^ t := by
  have step : (2 : ℚ) ^ (s + 1) ≤ 2 ^ t := zpow_le_zpow_right₀ (by norm_num) h
  rw [zpow_add_one₀ (by norm_num)] at step
  linarith

/-- **The exponent** that a value of the interval is rounded by is that of the double, or the one
below, if the value lies below a power of two. -/
theorem exponent_cases (hx : x.Normal) (hv : x.Within v) (ht : Fits v t) :
    t = x.exponent ∨ t = x.exponent - 1 ∧ x.narrow = true ∧ x.mantissa = 2 ^ 52 := by
  have unit : (0 : ℚ) < 2 ^ x.exponent := by positivity
  rcases lt_trichotomy t x.exponent with below | same | above
  · right
    have normal : 2 ^ 52 ≤ x.mantissa := by
      rcases hx.full with least | full
      · exact absurd below (by have := ht.low; omega)
      · exact full
    have lower := hv.lower
    have upper := ht.short
    have half := two_mul_zpow_le below
    have least : (2 ^ 52 : ℚ) ≤ x.mantissa := by exact_mod_cast normal
    -- the value is less than the least that a mantissa of this length is worth
    have less : ((x.mantissa : ℚ) - x.reach) * 2 ^ x.exponent < 2 ^ 52 * 2 ^ x.exponent := by
      linarith
    have mantissa : x.mantissa = 2 ^ 52 := by
      have := lt_of_mul_lt_mul_right less unit.le
      have := x.reach_le
      have : (x.mantissa : ℚ) < 2 ^ 52 + 1 := by linarith
      have : x.mantissa < 2 ^ 52 + 1 := by exact_mod_cast this
      omega
    have narrow : x.narrow = true := hx.narrow.mpr ⟨mantissa, by have := ht.low; omega⟩
    refine ⟨?_, narrow, mantissa⟩
    by_contra other
    have quarter := two_mul_zpow_le (show t < x.exponent - 1 by omega)
    have next := two_mul_zpow_le (show x.exponent - 1 < x.exponent by omega)
    rw [Dyadic.reach, if_pos narrow, mantissa] at lower
    push_cast at lower
    linarith
  · exact .inl same
  · exfalso
    have double := two_mul_zpow_le above
    have upper := hv.upper
    have lower : 2 ^ 52 * (2 : ℚ) ^ t ≤ v := by
      rcases ht.full with least | full
      · exact absurd hx.low (by omega)
      · exact full
    have most : (x.mantissa : ℚ) + 1 ≤ 2 ^ 53 := by exact_mod_cast hx.short
    have : (x.mantissa + 1 / 2 : ℚ) * 2 ^ x.exponent < 2 ^ 53 * 2 ^ x.exponent :=
      mul_lt_mul_of_pos_right (by linarith) unit
    linarith

/-- **A value of the interval** is rounded to the mantissa of the double, or at the exponent below
to twice as much. -/
theorem roundHalfEven_of_within {n d : Nat} (hx : x.Normal) (hv : x.Within v) (ht : Fits v t)
    (hd : 0 < d) (hn : (n : ℚ) / d * 2 ^ t = v) :
    (t = x.exponent ∧ roundHalfEven n d = x.mantissa) ∨
      t = x.exponent - 1 ∧ x.mantissa = 2 ^ 52 ∧ roundHalfEven n d = 2 ^ 53 := by
  have unit : (0 : ℚ) < 2 ^ t := by positivity
  subst hn
  rcases exponent_cases hx hv ht with rfl | ⟨exponent, narrow, mantissa⟩
  · have reach := x.reach_le
    refine .inl ⟨rfl, roundHalfEven_eq hd ?_ ?_ fun odd => ?_⟩
    · have := le_of_mul_le_mul_right hv.lower unit
      linarith
    · exact le_of_mul_le_mul_right hv.upper unit
    · obtain ⟨lower, upper⟩ := hv.inner odd
      have := lt_of_mul_lt_mul_right lower unit.le
      exact ⟨by linarith, lt_of_mul_lt_mul_right upper unit.le⟩
  · refine .inr ⟨exponent, mantissa, roundHalfEven_eq hd ?_ ?_ fun odd => absurd odd (by decide)⟩
    · have lower := hv.lower
      have next : (2 : ℚ) ^ x.exponent = 2 * 2 ^ t := by
        rw [exponent, zpow_sub_one₀ (by norm_num)]
        ring
      rw [Dyadic.reach, if_pos narrow, mantissa, next, ← mul_assoc] at lower
      have := le_of_mul_le_mul_right lower unit
      push_cast at this ⊢
      linarith
    · have := lt_of_mul_lt_mul_right ht.short unit.le
      push_cast
      linarith

end

/-! ### The nearest double -/

/-- A fraction in units of a power of two. -/
def shifted (num den : Nat) (q : Int) : Nat × Nat :=
  if 0 ≤ q then (num, den * Nat.pow 2 q.toNat) else (num * Nat.pow 2 (-q).toNat, den)

theorem shifted_pos (num : Nat) {den : Nat} (hd : 0 < den) (q : Int) :
    0 < (shifted num den q).2 := by
  unfold shifted
  split
  · exact Nat.mul_pos hd (Nat.two_pow_pos _)
  · exact hd

theorem shifted_value (num : Nat) {den : Nat} (hd : 0 < den) (q : Int) :
    ((shifted num den q).1 : ℚ) / (shifted num den q).2 * 2 ^ q = num / den := by
  have hd' : (den : ℚ) ≠ 0 := by exact_mod_cast hd.ne'
  unfold shifted
  split
  case isTrue h =>
      obtain ⟨k, rfl⟩ := Int.eq_ofNat_of_zero_le h
      simp only [Int.toNat_natCast, Nat.pow_eq, Nat.cast_mul, Nat.cast_pow, Nat.cast_ofNat,
        zpow_natCast]
      field_simp
  case isFalse h =>
      obtain ⟨k, hk⟩ := Int.eq_ofNat_of_zero_le (show 0 ≤ -q by omega)
      obtain rfl : q = -(k : Int) := by omega
      simp only [neg_neg, Int.toNat_natCast, Nat.pow_eq, Nat.cast_mul, Nat.cast_pow,
        Nat.cast_ofNat, zpow_neg, zpow_natCast]
      field_simp

/-- The exponent that a fraction is rounded by. -/
def exponentOf (num den : Nat) : Int :=
  let guess : Int := (num.log2 : Int) - den.log2 - 52
  let s := shifted num den guess
  max (if s.1 / s.2 < Nat.pow 2 52 then guess - 1 else guess) (-1074)

theorem nearestBits_eq {num den : Nat} (hn : num ≠ 0) :
    nearestBits num den =
      let q := exponentOf num den
      let m := roundHalfEven (shifted num den q).1 (shifted num den q).2
      let bits := if m < 2 ^ 52 then m else (q + 1075).toNat * 2 ^ 52 + (m - 2 ^ 52)
      if 0x7FF * 2 ^ 52 ≤ bits then 0x7FF0000000000000 else bits.toUInt64 := by
  rw [nearestBits, if_neg hn]
  rfl

theorem two_pow_log2_le {n : Nat} (hn : n ≠ 0) : (2 : ℚ) ^ (n.log2 : Int) ≤ n := by
  rw [zpow_natCast]
  exact_mod_cast Nat.log2_self_le hn

theorem lt_two_pow_log2 (n : Nat) : (n : ℚ) < 2 * 2 ^ (n.log2 : Int) := by
  rw [zpow_natCast, mul_comm, ← pow_succ]
  exact_mod_cast Nat.lt_log2_self

/-- The guess is off by one at most: the value is below the greatest that it fits, -/
theorem lt_of_guess (num : Nat) {den : Nat} (hd : 0 < den) :
    (num : ℚ) / den < 2 ^ 53 * 2 ^ ((num.log2 : Int) - den.log2 - 52) := by
  have hd' : (0 : ℚ) < den := by exact_mod_cast hd
  have unit : (2 : ℚ) ^ (den.log2 : Int) ≠ 0 := by positivity
  rw [div_lt_iff₀ hd', zpow_sub₀ (by norm_num), zpow_sub₀ (by norm_num)]
  have d := two_pow_log2_le hd.ne'
  calc (num : ℚ) < 2 * 2 ^ (num.log2 : Int) := lt_two_pow_log2 num
    _ = 2 * 2 ^ (num.log2 : Int) / 2 ^ (den.log2 : Int) * 2 ^ (den.log2 : Int) := by field_simp
    _ ≤ 2 * 2 ^ (num.log2 : Int) / 2 ^ (den.log2 : Int) * den := by gcongr
    _ = _ := by
        rw [show (2 : ℚ) ^ (52 : Int) = 2 ^ 52 by norm_cast]
        ring

/-- and above half of the least. -/
theorem le_of_guess {num den : Nat} (hn : num ≠ 0) (hd : 0 < den) :
    2 ^ 51 * (2 : ℚ) ^ ((num.log2 : Int) - den.log2 - 52) ≤ num / den := by
  have hd' : (0 : ℚ) < den := by exact_mod_cast hd
  have unit : (2 : ℚ) ^ (den.log2 : Int) ≠ 0 := by positivity
  rw [le_div_iff₀ hd', zpow_sub₀ (by norm_num), zpow_sub₀ (by norm_num)]
  have d := lt_two_pow_log2 den
  calc 2 ^ 51 * ((2 : ℚ) ^ (num.log2 : Int) / 2 ^ (den.log2 : Int) / 2 ^ (52 : Int)) * den
      ≤ 2 ^ 51 * ((2 : ℚ) ^ (num.log2 : Int) / 2 ^ (den.log2 : Int) / 2 ^ (52 : Int)) *
          (2 * 2 ^ (den.log2 : Int)) := by gcongr
    _ = (2 : ℚ) ^ (num.log2 : Int) := by
        rw [show (2 : ℚ) ^ (52 : Int) = 2 ^ 52 by norm_cast]
        field_simp
    _ ≤ num := two_pow_log2_le hn

theorem fits_exponentOf {num den : Nat} (hn : num ≠ 0) (hd : 0 < den) :
    Fits (num / den) (exponentOf num den) := by
  have unit (q : Int) : (0 : ℚ) < 2 ^ q := by positivity
  have upper := lt_of_guess num hd
  have lower := le_of_guess hn hd
  unfold exponentOf
  dsimp only
  generalize (num.log2 : Int) - den.log2 - 52 = guess at upper lower
  have value := shifted_value num hd guess
  have pos := shifted_pos num hd guess
  generalize shifted num den guess = s at value pos
  have pos' : (0 : ℚ) < s.2 := by exact_mod_cast pos
  have step : (2 : ℚ) ^ guess = 2 * 2 ^ (guess - 1) := by
    rw [zpow_sub_one₀ (by norm_num)]
    ring
  -- the exponent before it is held above the least
  have exact : ∃ q, (if s.1 / s.2 < Nat.pow 2 52 then guess - 1 else guess) = q ∧
      (num : ℚ) / den < 2 ^ 53 * 2 ^ q ∧ 2 ^ 52 * (2 : ℚ) ^ q ≤ num / den := by
    by_cases h : s.1 / s.2 < Nat.pow 2 52
    · refine ⟨_, if_pos h, ?_, by linarith⟩
      have small : (s.1 : ℚ) / s.2 < 2 ^ 52 := by
        rw [div_lt_iff₀ pos']
        exact_mod_cast (Nat.div_lt_iff_lt_mul pos).mp h
      have := mul_lt_mul_of_pos_right small (unit guess)
      linarith
    · refine ⟨_, if_neg h, upper, ?_⟩
      have large : 2 ^ 52 ≤ (s.1 : ℚ) / s.2 := by
        rw [le_div_iff₀ pos']
        exact_mod_cast (Nat.le_div_iff_mul_le pos).mp (Nat.le_of_not_lt h)
      have := mul_le_mul_of_nonneg_right large (unit guess).le
      linarith
  obtain ⟨q, hq, short, full⟩ := exact
  rw [hq]
  rcases le_total q (-1074) with least | normal
  · rw [max_eq_right least]
    refine ⟨le_rfl, ?_, .inl rfl⟩
    have : (2 : ℚ) ^ q ≤ 2 ^ (-1074 : Int) := zpow_le_zpow_right₀ (by norm_num) least
    linarith
  · rw [max_eq_left normal]
    exact ⟨normal, short, .inr full⟩

/-- The bits of a double are fewer than those of infinity. -/
theorem Dyadic.Normal.bits_lt {x : Dyadic} (hx : x.Normal) : x.bits < 0x7FF * 2 ^ 52 := by
  have short := hx.short
  have high := hx.high
  unfold Dyadic.bits
  split <;> omega

/-- **Every fraction in the interval of a double** is rounded to the double. -/
theorem nearestBits_of_within {x : Dyadic} (hx : x.Normal) {num den : Nat} (hn : num ≠ 0)
    (hd : 0 < den) (hv : x.Within (num / den)) : nearestBits num den = x.bits.toUInt64 := by
  have fits := fits_exponentOf hn hd
  have rounded := roundHalfEven_of_within hx hv fits (shifted_pos _ hd _) (shifted_value _ hd _)
  have least := fits.low
  rw [nearestBits_eq hn]
  dsimp only
  generalize exponentOf num den = q at rounded least
  generalize roundHalfEven (shifted num den q).1 (shifted num den q).2 = m at rounded
  have same : (if m < 2 ^ 52 then m else (q + 1075).toNat * 2 ^ 52 + (m - 2 ^ 52)) = x.bits := by
    unfold Dyadic.bits
    rcases rounded with ⟨rfl, rfl⟩ | ⟨rfl, mantissa, rfl⟩
    · rfl
    · have exponent : (x.exponent - 1 + 1075).toNat + 1 = (x.exponent + 1075).toNat := by omega
      rw [mantissa, ← exponent, if_neg (by norm_num), if_neg (by norm_num)]
      omega
  rw [same, if_neg (by have := hx.bits_lt; omega)]

end PatchSandbox.Decimal
