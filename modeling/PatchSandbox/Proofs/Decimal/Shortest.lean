import PatchSandbox.Proofs.Decimal.Nearest

/-!
# The shortest decimal reads back

The search for the shortest decimal of a double takes the first grid that has a point in the
interval of the double, and every such point is rounded to the double.

* **`Dyadic.within_of_pick`** says that a point that is taken lies in the interval, and
  **`Dyadic.exists_pick`** that a fine grid has one.
* **`Dyadic.zpow_magnitude_le`** says that the search begins no further up than the first digit, so
  it comes to a grid that is fine enough.
* **`Dyadic.within_shortest`** says that the shortest decimal lies in the interval, and
  **`Scientific.toFloat_of_within`** that every decimal there is read as the double.
-/

namespace PatchSandbox.Decimal

/-- The number that is meant. -/
def Scientific.value (s : Scientific) : ℚ := s.digits * 10 ^ s.exponent

namespace Dyadic

variable {x : Dyadic} {e : Int}

/-! ### Grids -/

theorem scale_pos (x : Dyadic) (e : Int) : 0 < (x.scale e).1 ∧ 0 < (x.scale e).2 := by
  unfold scale
  constructor <;> dsimp only [Nat.pow_eq] <;> split <;> split <;> positivity

/-- The spacing of a grid, in quarters of the last digit. -/
theorem scale_value (x : Dyadic) (e : Int) :
    4 * ((x.scale e).1 / (x.scale e).2 : ℚ) * 10 ^ e = 2 ^ x.exponent := by
  have fraction (b : Nat) (hb : b ≠ 0) (k : Int) :
      ((if 0 ≤ k then Nat.pow b k.toNat else 1 : Nat) : ℚ) /
        (if 0 ≤ k then 1 else Nat.pow b (-k).toNat : Nat) = (b : ℚ) ^ k := by
    split
    case isTrue h =>
        obtain ⟨i, rfl⟩ := Int.eq_ofNat_of_zero_le h
        simp
    case isFalse h =>
        obtain ⟨i, hi⟩ := Int.eq_ofNat_of_zero_le (show 0 ≤ -k by omega)
        obtain rfl : k = -(i : Int) := by omega
        simp
  have two := fraction 2 (by decide) (x.exponent - 2)
  have ten : ((if e < 0 then Nat.pow 10 (-e).toNat else 1 : Nat) : ℚ) /
      (if e < 0 then 1 else Nat.pow 10 e.toNat : Nat) = ((10 : ℚ) ^ e)⁻¹ := by
    rw [← inv_inj, inv_inv, inv_div]
    have := fraction 10 (by decide) e
    by_cases h : e < 0
    · simpa [h, Int.not_le.mpr h] using this
    · simpa [h, Int.not_lt.mp h] using this
  unfold scale
  dsimp only
  rw [Nat.cast_mul, Nat.cast_mul, mul_div_mul_comm, two, ten, zpow_sub₀ (by norm_num)]
  have : (10 : ℚ) ^ e ≠ 0 := by positivity
  push_cast
  field_simp

/-- A point of a grid that rounds to a double lies in its interval. -/
theorem within_iff_rounds (hx : x.Normal) (e : Int) (g : Nat) :
    x.rounds (x.scale e).1 (x.scale e).2 g = true ↔ x.Within (g * 10 ^ e) := by
  obtain ⟨hn, hd⟩ := x.scale_pos e
  have value := x.scale_value e
  generalize (x.scale e).1 = n at hn value
  generalize (x.scale e).2 = d at hd value
  have hd' : (0 : ℚ) < d := by exact_mod_cast hd
  have unit : (0 : ℚ) < 10 ^ e := by positivity
  have pos := hx.pos
  -- an end of the interval, four times as many steps from zero
  have quarters : (((if x.narrow then 1 else 2 : Nat) : ℚ)) = 4 * x.reach := by
    unfold reach
    split <;> norm_num
  have low : ((4 * x.mantissa - (if x.narrow then 1 else 2) : Nat) : ℚ) * n / d * 10 ^ e =
      (x.mantissa - x.reach) * 2 ^ x.exponent := by
    rw [Nat.cast_sub (by split <;> omega), quarters, ← value]
    push_cast
    ring
  have high : ((4 * x.mantissa + 2 : Nat) : ℚ) * n / d * 10 ^ e =
      (x.mantissa + 1 / 2) * 2 ^ x.exponent := by
    rw [← value]
    push_cast
    ring
  have lower_le : (4 * x.mantissa - (if x.narrow then 1 else 2)) * n ≤ g * d ↔
      (x.mantissa - x.reach) * 2 ^ x.exponent ≤ g * 10 ^ e := by
    rw [← low, mul_le_mul_iff_of_pos_right unit, div_le_iff₀ hd']
    exact_mod_cast Iff.rfl
  have lower_lt : (4 * x.mantissa - (if x.narrow then 1 else 2)) * n < g * d ↔
      (x.mantissa - x.reach) * 2 ^ x.exponent < g * 10 ^ e := by
    rw [← low, mul_lt_mul_iff_of_pos_right unit, div_lt_iff₀ hd']
    exact_mod_cast Iff.rfl
  have upper_le : g * d ≤ (4 * x.mantissa + 2) * n ↔
      g * 10 ^ e ≤ (x.mantissa + 1 / 2) * (2 : ℚ) ^ x.exponent := by
    rw [← high, mul_le_mul_iff_of_pos_right unit, le_div_iff₀ hd']
    exact_mod_cast Iff.rfl
  have upper_lt : g * d < (4 * x.mantissa + 2) * n ↔
      g * 10 ^ e < (x.mantissa + 1 / 2) * (2 : ℚ) ^ x.exponent := by
    rw [← high, mul_lt_mul_iff_of_pos_right unit, lt_div_iff₀ hd']
    exact_mod_cast Iff.rfl
  unfold rounds
  dsimp only
  split
  case isTrue even =>
      rw [Bool.and_eq_true, decide_eq_true_iff, decide_eq_true_iff, lower_le, upper_le]
      exact ⟨fun h => ⟨h.1, h.2, fun odd => absurd odd (by omega)⟩, fun h => ⟨h.lower, h.upper⟩⟩
  case isFalse odd =>
      rw [Bool.and_eq_true, decide_eq_true_iff, decide_eq_true_iff, lower_lt, upper_lt]
      exact ⟨fun h => ⟨h.1.le, h.2.le, fun _ => h⟩, fun h => h.inner (by omega)⟩

/-- **A point that is taken** lies in the interval. -/
theorem within_of_pick (hx : x.Normal) {s : Scientific} (h : x.pick e = some s) :
    x.Within s.value ∧ s.digits ≠ 0 := by
  have within (g : Nat) := within_iff_rounds hx e g
  unfold pick at h
  dsimp only at h
  split at h
  case isTrue up =>
      obtain rfl := Option.some.inj h
      have above := (Bool.and_eq_true_iff.mp up).1
      exact ⟨(within _).mp above, Nat.succ_ne_zero _⟩
  case isFalse =>
      split at h
      case isTrue below =>
          obtain rfl := Option.some.inj h
          obtain ⟨positive, rounds⟩ := Bool.and_eq_true_iff.mp below
          exact ⟨(within _).mp rounds, Nat.ne_of_gt (of_decide_eq_true positive)⟩
      case isFalse => cases h

/-- **A grid** that is finer than half the distance to the next double has a point in the
interval: the first one above the value. -/
theorem exists_pick (hx : x.Normal) (fine : 2 * (10 : ℚ) ^ e < 2 ^ x.exponent) :
    ∃ s, x.pick e = some s := by
  obtain ⟨hn, hd⟩ := x.scale_pos e
  have value := x.scale_value e
  have within := within_iff_rounds hx e (4 * x.mantissa * (x.scale e).1 / (x.scale e).2 + 1)
  have unit : (0 : ℚ) < 10 ^ e := by positivity
  have hd' : (0 : ℚ) < (x.scale e).2 := by exact_mod_cast hd
  have exact : (4 * x.mantissa * (x.scale e).1 : Nat) / ((x.scale e).2 : ℚ) * 10 ^ e = x.value := by
    rw [Dyadic.value, ← value]
    push_cast
    ring
  have above : x.rounds (x.scale e).1 (x.scale e).2
      (4 * x.mantissa * (x.scale e).1 / (x.scale e).2 + 1) = true := by
    rw [within]
    have reach := mul_pos x.reach_pos (show (0 : ℚ) < 2 ^ x.exponent by positivity)
    generalize 4 * x.mantissa * (x.scale e).1 = v at exact
    have floor : ((v / (x.scale e).2 : Nat) : ℚ) * 10 ^ e ≤ x.value := by
      rw [← exact]
      gcongr
      rw [le_div_iff₀ hd']
      exact_mod_cast Nat.div_mul_le_self v _
    have ceil : x.value < ((v / (x.scale e).2 : Nat) + 1) * (10 : ℚ) ^ e := by
      rw [← exact]
      gcongr
      rw [div_lt_iff₀ hd']
      exact_mod_cast (Nat.div_lt_iff_lt_mul hd).mp (Nat.lt_succ_self _)
    unfold Dyadic.value at floor ceil
    push_cast
    constructor
    · linarith
    · linarith
    · intro _
      constructor <;> linarith
  unfold pick
  dsimp only
  rw [above]
  split
  case isTrue => exact ⟨_, rfl⟩
  case isFalse up =>
      rw [if_pos]
      · exact ⟨_, rfl⟩
      · by_contra below
        rw [Bool.not_eq_true] at below
        rw [below] at up
        exact up rfl

/-! ### The search -/

theorem within_search (hx : x.Normal) (n : Nat) (fine : 2 * (10 : ℚ) ^ (e - n) < 2 ^ x.exponent) :
    x.Within (x.search n e).value ∧ (x.search n e).digits ≠ 0 := by
  induction n generalizing e with
  | zero =>
      obtain ⟨s, hs⟩ := exists_pick hx (e := e) (by simpa using fine)
      rw [search, hs]
      exact within_of_pick hx hs
  | succ n ih =>
      rw [search]
      cases hs : x.pick e with
      | some s => exact within_of_pick hx hs
      | none =>
          refine ih ?_
          rwa [show e - 1 - (n : Int) = e - (n + 1 : Nat) by omega]

/-- A power of ten whose exponent is a share of that of a power of two is not much greater: the
shares are decided by two great powers that are nearly equal. -/
theorem zpow_pred_le {n k : Nat} {g l : Int} (low : 2 ^ n ≤ 10 ^ k) (high : 10 ^ k ≤ 2 * 2 ^ n)
    (hg : g * n ≤ l * k) (hn : n ≠ 0) (hl : l ≤ n) : (10 : ℚ) ^ (g - 1) ≤ 2 ^ l := by
  have low' : (2 : ℚ) ^ n ≤ 10 ^ k := by exact_mod_cast low
  have high' : (10 : ℚ) ^ k ≤ 2 * 2 ^ n := by exact_mod_cast high
  have ten : (0 : ℚ) < 10 ^ n := by positivity
  refine le_of_pow_le_pow_left₀ hn (by positivity) ?_
  have exponents : ((10 : ℚ) ^ (g - 1)) ^ n ≤ (10 ^ k) ^ l / 10 ^ n := by
    rw [← zpow_natCast, ← zpow_mul, sub_mul, one_mul, zpow_sub₀ (by norm_num), zpow_natCast,
      ← zpow_natCast 10 k, ← zpow_mul, mul_comm (k : Int)]
    gcongr
    norm_num
  refine exponents.trans ?_
  rw [← zpow_natCast (2 ^ l), ← zpow_mul, mul_comm l, zpow_mul, zpow_natCast, div_le_iff₀ ten]
  obtain ⟨i, rfl | rfl⟩ := l.eq_nat_or_neg
  · have few : (2 : ℚ) ^ i ≤ 10 ^ n :=
      (pow_le_pow_right₀ (by norm_num) (by omega)).trans
        (pow_le_pow_left₀ (by norm_num) (by norm_num) n)
    rw [zpow_natCast, zpow_natCast]
    calc ((10 : ℚ) ^ k) ^ i ≤ (2 * 2 ^ n) ^ i := by gcongr
      _ = (2 ^ n) ^ i * 2 ^ i := by rw [mul_pow, mul_comm]
      _ ≤ (2 ^ n) ^ i * 10 ^ n := by gcongr
  · rw [zpow_neg, zpow_neg, zpow_natCast, zpow_natCast]
    calc (((10 : ℚ) ^ k) ^ i)⁻¹ ≤ ((2 ^ n) ^ i)⁻¹ := by gcongr
      _ = ((2 ^ n) ^ i)⁻¹ * 1 := by rw [mul_one]
      _ ≤ ((2 ^ n) ^ i)⁻¹ * 10 ^ n := by
          gcongr
          exact one_le_pow₀ (by norm_num)

/-- **The search begins** no further up than at the first digit. -/
theorem zpow_magnitude_le (hx : x.Normal) : (10 : ℚ) ^ x.magnitude ≤ x.value := by
  have tested {e : Int} (h : 4 * x.mantissa * (x.scale e).1 ≥ (x.scale e).2) :
      (10 : ℚ) ^ e ≤ x.value := by
    have hd : (0 : ℚ) < (x.scale e).2 := by exact_mod_cast (x.scale_pos e).2
    have ratio : 1 ≤ (4 * x.mantissa * (x.scale e).1 : ℚ) / (x.scale e).2 := by
      rw [one_le_div hd]
      exact_mod_cast h
    have unit : (0 : ℚ) ≤ 10 ^ e := by positivity
    calc (10 : ℚ) ^ e = 1 * 10 ^ e := (one_mul _).symm
      _ ≤ (4 * x.mantissa * (x.scale e).1 : ℚ) / (x.scale e).2 * 10 ^ e :=
          mul_le_mul_of_nonneg_right ratio unit
      _ = x.value := by
          rw [Dyadic.value, ← x.scale_value e]
          ring
  unfold magnitude
  dsimp only
  split
  case isTrue h => exact tested h
  case isFalse =>
      split
      case isTrue h => exact tested h
      case isFalse =>
          have log : x.mantissa.log2 < 53 := (Nat.log2_lt hx.pos.ne').mpr hx.short
          have high := hx.high
          have leading : (2 : ℚ) ^ ((x.mantissa.log2 : Int) + x.exponent) ≤ x.value := by
            rw [zpow_add₀ (by norm_num), Dyadic.value]
            gcongr
            exact two_pow_log2_le hx.pos.ne'
          refine le_trans (zpow_pred_le (n := 100000) (k := 30103) (by decide +kernel)
            (by decide +kernel) ?_ (by decide) (by omega)) leading
          push_cast
          omega

theorem value_lt (hx : x.Normal) : x.value < 2 ^ 53 * 2 ^ x.exponent := by
  unfold Dyadic.value
  gcongr
  exact_mod_cast hx.short

end Dyadic

/-! ### The shortest decimal -/

namespace Scientific

theorem value_strip (n : Nat) (s : Scientific) : (strip n s).value = s.value := by
  induction n generalizing s with
  | zero => rfl
  | succ n ih =>
      rw [strip]
      split
      case isTrue h =>
          have whole : (s.digits : ℚ) = (s.digits / 10 : Nat) * 10 := by
            exact_mod_cast (Nat.div_mul_cancel (Nat.dvd_of_mod_eq_zero h.2)).symm
          rw [ih, value, value, whole, zpow_add_one₀ (by norm_num)]
          ring
      case isFalse => rfl

theorem strip_digits_ne_zero (n : Nat) {s : Scientific} (h : s.digits ≠ 0) :
    (strip n s).digits ≠ 0 := by
  induction n generalizing s with
  | zero => exact h
  | succ n ih =>
      rw [strip]
      split
      case isTrue whole =>
          refine ih ?_
          dsimp only
          omega
      case isFalse => exact h

end Scientific

namespace Dyadic

variable {x : Dyadic}

theorem within_shortest (hx : x.Normal) : x.Within x.shortest.value ∧ x.shortest.digits ≠ 0 := by
  have fine : 2 * (10 : ℚ) ^ (x.magnitude - (18 : Nat)) < 2 ^ x.exponent := by
    have first := zpow_magnitude_le hx
    have short := value_lt hx
    have unit : (0 : ℚ) < 2 ^ x.exponent := by positivity
    rw [zpow_sub₀ (by norm_num), zpow_natCast]
    norm_num
    linarith
  obtain ⟨within, nonzero⟩ := within_search hx 18 fine
  unfold shortest
  rw [Scientific.value_strip]
  exact ⟨within, Scientific.strip_digits_ne_zero _ nonzero⟩

end Dyadic

/-! ### Reading it back -/

namespace Scientific

variable {x : Dyadic} {s : Scientific}

theorem nearest_of_within (hx : x.Normal) {num den : Nat} (hn : num ≠ 0) (hd : 0 < den)
    (hv : x.Within (num / den)) : nearest num den = Float.ofBits x.bits.toUInt64 := by
  rw [nearest, nearestBits_of_within hx hn hd hv]

/-- Great decimals are beyond all doubles, -/
theorem exponent_le (hx : x.Normal) (hs : s.digits ≠ 0) (hv : x.Within s.value) :
    ¬ 400 < s.exponent := by
  intro large
  have upper := hv.upper
  have short : (x.mantissa : ℚ) + 1 ≤ 2 ^ 53 := by exact_mod_cast hx.short
  have one : (1 : ℚ) ≤ s.digits := by exact_mod_cast Nat.one_le_iff_ne_zero.mpr hs
  have most : (x.mantissa + 1 / 2 : ℚ) * 2 ^ x.exponent ≤ 2 ^ 53 * 2 ^ (971 : Int) := by
    gcongr
    · linarith
    · norm_num
    · exact hx.high
  have least : (2 : ℚ) ^ (1203 : Int) ≤ s.value := by
    calc (2 : ℚ) ^ (1203 : Int) = 8 ^ (401 : Int) := by
          rw [show (1203 : Int) = 3 * 401 by norm_num, zpow_mul]
          norm_num
      _ ≤ 10 ^ (401 : Int) := zpow_le_zpow_left₀ (by norm_num) (by norm_num) (by norm_num)
      _ ≤ 10 ^ s.exponent := zpow_le_zpow_right₀ (by norm_num) large
      _ = 1 * 10 ^ s.exponent := (one_mul _).symm
      _ ≤ s.value := mul_le_mul_of_nonneg_right one (by positivity)
  have gap : (2 : ℚ) ^ 53 * 2 ^ (971 : Int) < 2 ^ (1203 : Int) := by
    rw [← zpow_natCast, ← zpow_add₀ (by norm_num)]
    exact zpow_lt_zpow_right₀ (by norm_num) (by norm_num)
  exact absurd (least.trans (upper.trans most)) (not_le.mpr gap)

theorem lt_ten_pow_digitCount (n : Nat) : n < 10 ^ digitCount n :=
  (Nat.length_toDigits_le_iff (by decide)
    (Nat.pos_of_ne_zero (by simp [digitCount, Nat.toDigits_ne_nil]))).mp le_rfl

/-- and small ones are below all of them. -/
theorem le_exponent (hx : x.Normal) (hv : x.Within s.value) :
    ¬ s.exponent + digitCount s.digits < -400 := by
  intro small
  have lower := hv.lower
  have reach := x.reach_le
  have one : (1 : ℚ) ≤ x.mantissa := by exact_mod_cast hx.pos
  have least : (2 : ℚ)⁻¹ * 2 ^ (-1074 : Int) ≤ (x.mantissa - x.reach) * 2 ^ x.exponent := by
    gcongr
    · linarith
    · linarith
    · norm_num
    · exact hx.low
  have most : s.value ≤ 2 ^ (-1203 : Int) := by
    have few : (s.digits : ℚ) ≤ 10 ^ (digitCount s.digits : Int) := by
      rw [zpow_natCast]
      exact_mod_cast (lt_ten_pow_digitCount s.digits).le
    calc s.value ≤ 10 ^ (digitCount s.digits : Int) * 10 ^ s.exponent :=
          mul_le_mul_of_nonneg_right few (by positivity)
      _ = 10 ^ (s.exponent + digitCount s.digits) := by
          rw [← zpow_add₀ (by norm_num), add_comm]
      _ ≤ 10 ^ (-401 : Int) := zpow_le_zpow_right₀ (by norm_num) (by omega)
      _ ≤ 8 ^ (-401 : Int) := by
          rw [zpow_neg, zpow_neg]
          exact inv_anti₀ (by positivity)
            (zpow_le_zpow_left₀ (by norm_num) (by norm_num) (by norm_num))
      _ = 2 ^ (-1203 : Int) := by
          rw [show (-1203 : Int) = 3 * -401 by norm_num, zpow_mul]
          norm_num
  have gap : (2 : ℚ) ^ (-1203 : Int) < 2⁻¹ * 2 ^ (-1074 : Int) := by
    rw [← zpow_neg_one, ← zpow_add₀ (by norm_num)]
    exact zpow_lt_zpow_right₀ (by norm_num) (by norm_num)
  exact absurd (least.trans (lower.trans most)) (not_le.mpr gap)

/-- **A decimal in the interval of a double** is read as the double. -/
theorem toFloat_of_within (hx : x.Normal) (hs : s.digits ≠ 0) (hv : x.Within s.value) :
    s.toFloat = Float.ofBits x.bits.toUInt64 := by
  rw [toFloat, if_neg hs, if_neg (exponent_le hx hs hv), if_neg (le_exponent hx hv)]
  unfold value at hv
  split
  case isTrue h =>
      obtain ⟨k, hk⟩ := Int.eq_ofNat_of_zero_le h
      rw [hk, Int.toNat_natCast, Nat.pow_eq]
      refine nearest_of_within hx (by positivity) Nat.one_pos ?_
      rw [hk, zpow_natCast] at hv
      simpa using hv
  case isFalse h =>
      obtain ⟨k, hk⟩ := Int.eq_ofNat_of_zero_le (show 0 ≤ -s.exponent by omega)
      rw [hk, Int.toNat_natCast, Nat.pow_eq]
      refine nearest_of_within hx hs (by positivity) ?_
      rw [show s.exponent = -(k : Int) by omega, zpow_neg, zpow_natCast, ← div_eq_mul_inv] at hv
      simpa using hv

end Scientific

end PatchSandbox.Decimal
