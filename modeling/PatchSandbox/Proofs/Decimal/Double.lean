import PatchSandbox.Proofs.Decimal.Shortest
import PatchSandbox.Machine.Numeric
import PatchSandbox.Proofs.Json.Finite

/-!
# Doubles and their bits

A finite double is a sign and a magnitude, a mantissa with an exponent. Both its bits and the way in
which it is rounded are told by them.

* **`pack_finite`** and **`unpack_packed`** say which bits a sign and a magnitude have, and that the
  bits say both.
* **`finite_cases`** goes over the finite doubles: zeros, and those of a sign and a magnitude.
* **`roundWithAccuracy_of_within`** says that what lies in the interval of a double is rounded to
  it, however long its mantissa is.
* **`ofNat_of_within`** says so of integers.
-/

namespace PatchSandbox.Double

open Float.Model (Format UnpackedFloat totalExponent)
open Float.Model.UnpackedFloat

/-! ### Signs, exponents and mantissas -/

/-- The bit that stands for a sign. -/
def signBit : Sign → Nat
  | .negative => 1
  | .positive => 0

theorem toNat_packComponents (s : Sign) (e : BitVec 11) (m : BitVec 52) :
    (packComponents Format.binary64 s e m).toNat =
      signBit s * 2 ^ 63 + e.toNat * 2 ^ 52 + m.toNat := by
  have sign : s.toBitVec.toNat = signBit s := by cases s <;> rfl
  change (s.toBitVec ++ e ++ m).toNat = _
  rw [BitVec.toNat_append, BitVec.toNat_append, ← Nat.shiftLeft_add_eq_or_of_lt e.isLt,
    ← Nat.shiftLeft_add_eq_or_of_lt m.isLt, sign, Nat.shiftLeft_eq, Nat.shiftLeft_eq]
  ring

theorem toNat_unpackExponent (b : BitVec Format.binary64.numBits) :
    (unpackExponent b).toNat = b.toNat / 2 ^ 52 % 2 ^ 11 := by
  simp [unpackExponent, Nat.shiftRight_eq_div_pow]

theorem toNat_unpackSign (b : BitVec Format.binary64.numBits) :
    (unpackSign b).toNat = b.toNat / 2 ^ 63 := by
  have : b.toNat < 2 ^ 64 := b.isLt
  simp [unpackSign, Nat.shiftRight_eq_div_pow]
  omega

/-! ### Packing and unpacking -/

variable {x : Decimal.Dyadic}

/-- The bits of a double with a sign. -/
def packed (s : Sign) (x : Decimal.Dyadic) : BitVec Format.binary64.numBits :=
  packComponents Format.binary64 s (BitVec.ofNat 11 (x.bits / 2 ^ 52))
    (BitVec.ofNat 52 (x.bits % 2 ^ 52))

theorem toNat_packed (hx : x.Normal) (s : Sign) :
    (packed s x).toNat = signBit s * 2 ^ 63 + x.bits := by
  have few := hx.bits_lt
  rw [packed, toNat_packComponents, BitVec.toNat_ofNat, BitVec.toNat_ofNat]
  omega

/-- A double is packed into its bits. -/
theorem pack_finite (hx : x.Normal) (s : Sign) :
    pack Format.binary64 (.finite s x.mantissa x.exponent hx.pos) = packed s x := by
  have bias : (Format.exponentBias Format.binary64 : Int) = 1023 := by decide
  have length : Format.mantissaBits Format.binary64 = 53 := by decide
  have low := hx.low
  have high := hx.high
  have short := hx.short
  have fits : ¬ 2 ^ 11 ≤ (x.exponent + 1023 + (52 : Nat)).toNat + 1 := by omega
  have log : x.mantissa.log2 + 1 = 53 ↔ 2 ^ 52 ≤ x.mantissa := by
    rw [← Nat.le_log2 hx.pos.ne']
    have := (Nat.log2_lt hx.pos.ne').mpr short
    omega
  rw [pack]
  simp only [bias, length, log]
  rw [if_neg fits, packed, Decimal.Dyadic.bits]
  refine BitVec.eq_of_toNat_eq ?_
  by_cases normal : 2 ^ 52 ≤ x.mantissa
  · rw [if_pos normal, if_neg (by omega)]
    simp only [toNat_packComponents, BitVec.toNat_ofNat]
    omega
  · rw [if_neg normal, if_pos (by omega)]
    simp only [toNat_packComponents, BitVec.toNat_ofNat]
    omega

@[simp] theorem unpackSign_packComponents (s : Sign) (e : BitVec 11) (m : BitVec 52) :
    Sign.ofBitVec (unpackSign (packComponents Format.binary64 s e m)) = s := by
  have bits := toNat_packComponents s e m
  have sign : unpackSign (packComponents Format.binary64 s e m) = s.toBitVec := by
    refine BitVec.eq_of_toNat_eq ?_
    have whole : s.toBitVec.toNat = signBit s := by cases s <;> rfl
    rw [toNat_unpackSign, bits, whole]
    omega
  rw [sign]
  cases s <;> rfl

/-- The bits of a double say what it is. -/
theorem unpack_packed (hx : x.Normal) (s : Sign) :
    UnpackedFloat.unpack Format.binary64 (packed s x) =
      .finite s x.mantissa x.exponent hx.pos := by
  have bias : (Format.exponentBias Format.binary64 : Int) = 1023 := by decide
  have few := hx.bits_lt
  have low := hx.low
  have exponent : (BitVec.ofNat 11 (x.bits / 2 ^ 52)).toNat = x.bits / 2 ^ 52 := by
    rw [BitVec.toNat_ofNat]
    omega
  have mantissa : (BitVec.ofNat 52 (x.bits % 2 ^ 52)).toNat = x.bits % 2 ^ 52 := by
    rw [BitVec.toNat_ofNat]
    omega
  have finite : BitVec.ofNat 11 (x.bits / 2 ^ 52) ≠ -1#_ := by
    intro h
    rw [h] at exponent
    change 2047 = _ at exponent
    omega
  unfold UnpackedFloat.unpack packed
  simp only [unpackExponent_packComponents, unpackMantissa_packComponents,
    unpackSign_packComponents, finite, if_false, bias]
  generalize BitVec.ofNat 11 (x.bits / 2 ^ 52) = e at exponent
  generalize BitVec.ofNat 52 (x.bits % 2 ^ 52) = m at mantissa
  have pos := hx.pos
  have short := hx.short
  by_cases normal : x.mantissa < 2 ^ 52
  · have bits : x.bits = x.mantissa := if_pos normal
    have least : x.exponent = -1074 := hx.full.resolve_right (by omega)
    have zero : e = 0#_ := BitVec.eq_of_toNat_eq (by rw [exponent]; simp; omega)
    have nonzero : m ≠ 0#_ := by
      rintro rfl
      simp at mantissa
      omega
    rw [if_pos zero, dif_neg nonzero, UnpackedFloat.finite.injEq]
    refine ⟨rfl, by omega, ?_⟩
    subst zero
    rw [least]
    rfl
  · have bits : x.bits = (x.exponent + 1075).toNat * 2 ^ 52 + (x.mantissa - 2 ^ 52) :=
      if_neg normal
    have nonzero : e ≠ 0#_ := by
      rintro rfl
      simp at exponent
      omega
    have leading : (1#1 ++ m).toNat = 2 ^ 52 + m.toNat := by
      rw [BitVec.toNat_append, ← Nat.shiftLeft_add_eq_or_of_lt m.isLt, Nat.shiftLeft_eq]
      rfl
    rw [if_neg nonzero, UnpackedFloat.finite.injEq]
    refine ⟨rfl, ?_, ?_⟩
    · change (1#1 ++ m).toNat = _
      omega
    · change (e.toNat : Int) - (1023 + 52) = _
      omega

/-! ### Finite doubles -/

/-- The magnitude of a double. -/
def magnitude (f : Float) : Decimal.Dyadic := .ofBits f.toBits

/-- The sign of a double. -/
def sign (f : Float) : Sign := if Machine.isNegative f then .negative else .positive

theorem toNat_eq_sign (f : Float) :
    f.toBits.toNat = signBit (sign f) * 2 ^ 63 + f.toBits.toNat % 2 ^ 63 := by
  have total : f.toBits.toNat < 2 ^ 64 := f.toBits.toNat_lt
  have bit : signBit (sign f) = f.toBits.toNat / 2 ^ 63 := by
    unfold sign Machine.isNegative
    by_cases h : 2 ^ 63 ≤ f.toBits.toNat
    · have negative : f.toBits ≥ 0x8000000000000000 := UInt64.le_iff_toNat_le.mpr h
      simp only [negative, decide_true, if_true, signBit]
      omega
    · have positive : ¬ f.toBits ≥ 0x8000000000000000 := fun le => h (UInt64.le_iff_toNat_le.mp le)
      simp only [positive, decide_false, Bool.false_eq_true, if_false, signBit]
      omega
  rw [bit]
  omega

/-- **A finite double** is a zero, or it is packed of its sign and its magnitude. -/
theorem finite_cases {f : Float} (hf : f.isFinite = true) :
    (magnitude f).mantissa = 0 ∧ f.toModel.unpack = .zero (sign f) ∨
      (magnitude f).Normal ∧ f.toBits.toBitVec = packed (sign f) (magnitude f) := by
  have few := toNat_lt_of_ne (unpackExponent_ne_of_isFinite hf)
  rw [toNat_unpackExponent] at few
  change f.toBits.toNat / 2 ^ 52 % 2 ^ 11 < 2047 at few
  have bits := toNat_eq_sign f
  have of_bits (hx : (magnitude f).Normal) (h : (magnitude f).bits = f.toBits.toNat % 2 ^ 63) :
      f.toBits.toBitVec = packed (sign f) (magnitude f) := by
    refine BitVec.eq_of_toNat_eq ?_
    rw [toNat_packed hx, h]
    exact bits
  -- the mantissa has a leading bit that is not written, except at the least exponent
  by_cases least : f.toBits.toNat / 2 ^ 52 % 2 ^ 11 = 0
  · have x : magnitude f = ⟨f.toBits.toNat % 2 ^ 52, -1074, false⟩ := if_pos least
    by_cases zero : f.toBits.toNat % 2 ^ 52 = 0
    · have empty : f.toBits.toBitVec = packComponents Format.binary64 (sign f) 0#11 0#52 := by
        refine BitVec.eq_of_toNat_eq ((toNat_packComponents _ _ _).trans ?_).symm
        rw [UInt64.toNat_toBitVec, BitVec.toNat_ofNat, BitVec.toNat_ofNat]
        omega
      refine .inl ⟨by rw [x]; exact zero, ?_⟩
      change UnpackedFloat.unpack Format.binary64 f.toBits.toBitVec = _
      rw [empty]
      simp [UnpackedFloat.unpack]
    · have hx : (magnitude f).Normal := by
        rw [x]
        constructor <;> dsimp only <;> simp <;> omega
      refine .inr ⟨hx, of_bits hx ?_⟩
      rw [x, Decimal.Dyadic.bits, if_pos (by dsimp only; omega)]
      dsimp only
      omega
  · have x : magnitude f = ⟨f.toBits.toNat % 2 ^ 52 + 2 ^ 52,
        (f.toBits.toNat / 2 ^ 52 % 2 ^ 11 : Nat) - 1075,
        f.toBits.toNat % 2 ^ 52 == 0 && f.toBits.toNat / 2 ^ 52 % 2 ^ 11 != 1⟩ := if_neg least
    have hx : (magnitude f).Normal := by
      rw [x]
      constructor <;> dsimp only <;> simp <;> omega
    refine .inr ⟨hx, of_bits hx ?_⟩
    rw [x, Decimal.Dyadic.bits, if_neg (by dsimp only; omega)]
    dsimp only
    omega

theorem eq_of_toBits {f g : Float} (h : f.toBits = g.toBits) : f = g := by
  obtain ⟨⟨b, hb⟩⟩ := f
  obtain ⟨⟨c, hc⟩⟩ := g
  obtain rfl : b = c := h
  rfl

/-- The double of a sign and a magnitude. -/
def ofDyadic (s : Sign) (x : Decimal.Dyadic) : Float := Float.ofBits (.ofBitVec (packed s x))

theorem toBits_ofDyadic (hx : x.Normal) (s : Sign) :
    (ofDyadic s x).toBits = .ofBitVec (packed s x) := by
  change UInt64.ofBitVec
    (pack Format.binary64 (UnpackedFloat.unpack Format.binary64 (packed s x))) = _
  rw [unpack_packed hx, pack_finite hx]

theorem unpack_ofDyadic (hx : x.Normal) (s : Sign) :
    (ofDyadic s x).toModel.unpack = .finite s x.mantissa x.exponent hx.pos := by
  change UnpackedFloat.unpack Format.binary64 (ofDyadic s x).toBits.toBitVec = _
  rw [toBits_ofDyadic hx, UInt64.toBitVec_ofBitVec, unpack_packed hx]

theorem isInf_ofDyadic (hx : x.Normal) (s : Sign) : (ofDyadic s x).isInf = false := by
  change (ofDyadic s x).toModel.unpack.isInf = false
  rw [unpack_ofDyadic hx]
  rfl

theorem beq_self_ofDyadic (hx : x.Normal) (s : Sign) :
    (ofDyadic s x == ofDyadic s x) = true := by
  change (ofDyadic s x).toModel.unpack.beq (ofDyadic s x).toModel.unpack = true
  rw [unpack_ofDyadic hx]
  cases s <;> simp [UnpackedFloat.beq, UnpackedFloat.compare]

theorem unpack_zero : (0 : Float).toModel.unpack = .zero .positive := rfl

theorem beq_zero_ofDyadic (hx : x.Normal) (s : Sign) : (ofDyadic s x == 0) = false := by
  change (ofDyadic s x).toModel.unpack.beq (0 : Float).toModel.unpack = false
  rw [unpack_ofDyadic hx, unpack_zero]
  cases s <;> rfl

theorem beq_zero_of_unpack {f : Float} {s : Sign} (h : f.toModel.unpack = .zero s) :
    (f == 0) = true := by
  change f.toModel.unpack.beq (0 : Float).toModel.unpack = true
  rw [h, unpack_zero]
  rfl

theorem isNaN_eq_false {f : Float} (hf : f.isFinite = true) : f.isNaN = false := by
  change f.toModel.unpack.isFinite = true at hf
  change f.toModel.unpack.isNaN = false
  cases h : f.toModel.unpack <;> rw [h] at hf <;> first | rfl | cases hf

theorem isInf_eq_false {f : Float} (hf : f.isFinite = true) : f.isInf = false := by
  change f.toModel.unpack.isFinite = true at hf
  change f.toModel.unpack.isInf = false
  cases h : f.toModel.unpack <;> rw [h] at hf <;> first | rfl | cases hf

theorem ofModel_pack (hx : x.Normal) (s : Sign) :
    Float.ofModel (.pack (.finite s x.mantissa x.exponent hx.pos)) = ofDyadic s x := by
  refine eq_of_toBits ?_
  rw [toBits_ofDyadic hx, ← pack_finite hx]
  rfl

theorem neg_ofDyadic (hx : x.Normal) (s : Sign) : -ofDyadic s x = ofDyadic (-s) x := by
  change Float.ofModel (.pack (ofDyadic s x).toModel.unpack.neg) = _
  rw [unpack_ofDyadic hx, ← ofModel_pack hx]
  rfl

theorem ofBits_bits (hx : x.Normal) : Float.ofBits x.bits.toUInt64 = ofDyadic .positive x := by
  have few := hx.bits_lt
  have same : x.bits.toUInt64 = .ofBitVec (packed .positive x) := by
    refine UInt64.toNat_inj.mp ?_
    change x.bits.toUInt64.toNat = (packed .positive x).toNat
    rw [toNat_packed hx, Nat.toUInt64_eq, UInt64.toNat_ofNat', Nat.mod_eq_of_lt (by omega)]
    exact (Nat.zero_add _).symm
  rw [same]
  rfl

/-- **A finite double** that is no zero is that of its sign and its magnitude. -/
theorem eq_ofDyadic {f : Float} (hx : (magnitude f).Normal)
    (h : f.toBits.toBitVec = packed (sign f) (magnitude f)) :
    f = ofDyadic (sign f) (magnitude f) := by
  refine eq_of_toBits ?_
  rw [toBits_ofDyadic hx, ← h]

/-! ### Rounding -/

/-- What is left of a mantissa after a shift, and the two bits that remember what is lost. -/
theorem shift_eq (m k : Nat) :
    ExtendedMantissa.ofMantissaAndAccuracy m .exact >>> (k + 1) =
      ⟨m / 2 ^ (k + 1), m / 2 ^ k % 2 != 0, m % 2 ^ k != 0⟩ := by
  change (k + 1).repeat ExtendedMantissa.shiftRightOne _ = _
  induction k with
  | zero => simp [Nat.repeat, ExtendedMantissa.shiftRightOne,
      ExtendedMantissa.ofMantissaAndAccuracy, Nat.mod_one]
  | succ k ih =>
      rw [Nat.repeat, ih, ExtendedMantissa.shiftRightOne]
      have lost : m % 2 ^ (k + 1) = m % 2 ^ k + 2 ^ k * (m / 2 ^ k % 2) := Nat.mod_pow_succ
      have pos := Nat.two_pow_pos k
      have bit : m / 2 ^ k % 2 = 0 ∨ m / 2 ^ k % 2 = 1 := by omega
      rw [Nat.div_div_eq_div_mul, ← pow_succ, lost]
      rcases bit with bit | bit <;> simp [bit]

theorem roundedMantissa_mk (q : Nat) (round sticky : Bool) :
    (ExtendedMantissa.mk q round sticky).roundedMantissa =
      if round = true ∧ (sticky = true ∨ q % 2 = 1) then q + 1 else q := by
  have parity : q % 2 = 0 ∨ q % 2 = 1 := by omega
  cases round <;> cases sticky <;>
    simp [ExtendedMantissa.roundedMantissa, ExtendedMantissa.accuracy,
      Accuracy.roundToNearestEven]
  rcases parity with even | odd <;> simp [*]

/-- **A shifted mantissa** is rounded to the nearest, a half to the even one. -/
theorem roundedMantissa_shift (m k : Nat) :
    (ExtendedMantissa.ofMantissaAndAccuracy m .exact >>> k).roundedMantissa =
      Decimal.roundHalfEven m (2 ^ k) := by
  cases k with
  | zero =>
      simp [Decimal.roundHalfEven, Nat.mod_one]
      rfl
  | succ k =>
      have lost : m % 2 ^ (k + 1) = m % 2 ^ k + 2 ^ k * (m / 2 ^ k % 2) := Nat.mod_pow_succ
      have few := Nat.mod_lt m (Nat.two_pow_pos k)
      have bit : m / 2 ^ k % 2 = 0 ∨ m / 2 ^ k % 2 = 1 := by omega
      rw [shift_eq, roundedMantissa_mk, Decimal.roundHalfEven, lost, pow_succ]
      generalize m / (2 ^ k * 2) = q
      generalize m / 2 ^ k % 2 = b at bit
      generalize m % 2 ^ k = r at few
      generalize 2 ^ k = p at few
      -- what is lost is compared with a half: its first bit, and whether there is more
      refine if_congr ?_ rfl rfl
      simp only [bne_iff_ne, Bool.or_eq_true, Bool.and_eq_true, decide_eq_true_eq]
      rcases bit with rfl | rfl <;> omega

/-- The exponent that a number is shifted to, unless it is greater already. -/
def target (m : Nat) (e : Int) : Int := max (m.log2 + 1 + e - 53) (-1074)

theorem shiftToTargetExponent_eq (m : Nat) (e : Int) :
    shiftToTargetExponent Format.binary64 m e .exact =
      (ExtendedMantissa.ofMantissaAndAccuracy m .exact >>> (target m e - e).toNat,
        e + (target m e - e).toNat) := by
  have min : Format.minExponent Format.binary64 = -1074 := by decide
  have bits : (Format.mantissaBits Format.binary64 : Int) = 53 := by decide
  simp only [shiftToTargetExponent, shiftToExponent, Format.targetExponent, totalExponent, min,
    bits, target]

theorem fits_target {m : Nat} (hm : m ≠ 0) (e : Int) : Decimal.Fits (m * 2 ^ e) (target m e) := by
  have unit : (0 : ℚ) < 2 ^ e := by positivity
  refine ⟨le_max_right _ _, ?_, ?_⟩
  · have upper := mul_lt_mul_of_pos_right (Decimal.lt_two_pow_log2 m) unit
    have step : (2 : ℚ) * 2 ^ (m.log2 : Int) * 2 ^ e ≤ 2 ^ 53 * 2 ^ target m e := by
      rw [← zpow_one_add₀ (by norm_num), ← zpow_add₀ (by norm_num), ← zpow_natCast,
        ← zpow_add₀ (by norm_num)]
      refine zpow_le_zpow_right₀ (by norm_num) ?_
      unfold target
      omega
    exact upper.trans_le step
  · by_cases least : target m e = -1074
    · exact .inl least
    · right
      have exact : target m e = m.log2 + 1 + e - 53 := by
        unfold target at least ⊢
        omega
      have lower := mul_le_mul_of_nonneg_right (Decimal.two_pow_log2_le hm) unit.le
      refine le_trans (le_of_eq ?_) lower
      rw [← zpow_add₀ (by norm_num), ← zpow_natCast, ← zpow_add₀ (by norm_num), exact]
      congr 1
      push_cast
      ring

/-- A double is where it belongs. -/
theorem target_normal (hx : x.Normal) : target x.mantissa x.exponent = x.exponent := by
  have low := hx.low
  have log := (Nat.log2_lt hx.pos.ne').mpr hx.short
  unfold target
  rcases hx.full with least | full
  · omega
  · have := (Nat.le_log2 hx.pos.ne').mpr full
    omega

/-- **A number in the interval of a double** is rounded to the double. -/
theorem roundWithAccuracy_of_within (hx : x.Normal) {m : Nat} {e : Int} (s : Sign)
    (hm : 2 ^ 52 ≤ m) (hv : x.Within (m * 2 ^ e)) :
    roundWithAccuracy Format.binary64 s m e .exact =
      .finite s x.mantissa x.exponent hx.pos := by
  have nonzero : m ≠ 0 := by omega
  have long : 52 ≤ m.log2 := (Nat.le_log2 nonzero).mpr hm
  obtain ⟨k, hk⟩ := Int.eq_ofNat_of_zero_le (show 0 ≤ target m e - e by unfold target; omega)
  have shifted : ((m : ℚ) / (2 ^ k : Nat)) * 2 ^ target m e = m * 2 ^ e := by
    rw [show target m e = e + k by omega, zpow_add₀ (by norm_num), zpow_natCast]
    push_cast
    field_simp
  have rounded := Decimal.roundHalfEven_of_within hx hv (fits_target nonzero e)
    (Nat.two_pow_pos k) shifted
  -- after rounding the mantissa is shifted again, since it may have become one digit longer
  have final {m' : Nat} {e' : Int} {n : Nat} (hn : target m' e' - e' = n)
      (hm' : m' / 2 ^ n = x.mantissa) (he : e' + n = x.exponent) :
      ((ExtendedMantissa.ofMantissaAndAccuracy m' .exact >>> (target m' e' - e').toNat).mantissa,
        e' + ((target m' e' - e').toNat : Int)) = (x.mantissa, x.exponent) := by
    rw [hn, Int.toNat_natCast, mantissa_shift, mantissa_ofMantissaAndAccuracy, hm', he]
  have result : ∃ m' e', Decimal.roundHalfEven m (2 ^ k) = m' ∧ target m e = e' ∧
      ((ExtendedMantissa.ofMantissaAndAccuracy m' .exact >>> (target m' e' - e').toNat).mantissa,
        e' + ((target m' e' - e').toNat : Int)) = (x.mantissa, x.exponent) := by
    rcases rounded with ⟨exponent, mantissa⟩ | ⟨exponent, two, mantissa⟩
    · refine ⟨_, _, mantissa, exponent, final (n := 0) ?_ (by simp) (by simp)⟩
      rw [target_normal hx]
      simp
    · refine ⟨_, _, mantissa, exponent, final (n := 1) ?_ (by rw [two]; norm_num) (by omega)⟩
      have low : -1074 ≤ target m e := le_max_right _ _
      have log : (2 ^ 53 : Nat).log2 = 53 := Nat.log2_two_pow
      rw [target, log]
      omega
  obtain ⟨m', e', hm', he', h⟩ := result
  obtain ⟨mantissa, exponent⟩ := Prod.mk.inj h
  have first : e + (k : Int) = e' := by omega
  have pos := hx.pos
  unfold roundWithAccuracy
  simp only [shiftToTargetExponent_eq, roundedMantissa_shift, hk, Int.toNat_natCast, hm', first]
  rw [dif_neg (by rw [mantissa]; omega), UnpackedFloat.finite.injEq]
  exact ⟨rfl, mantissa, exponent⟩

/-! ### Integers -/

/-- A number moved by a power of two. -/
theorem shift_value (n k : Nat) : ((n <<< k : Nat) : ℚ) * 2 ^ (-(k : Int)) = n := by
  have : (2 : ℚ) ^ k ≠ 0 := by positivity
  rw [Nat.shiftLeft_eq, zpow_neg, zpow_natCast]
  push_cast
  field_simp

theorem two_pow_le_shiftLeft {n k : Nat} (hn : n ≠ 0) (hk : 52 ≤ n.log2 + k) :
    2 ^ 52 ≤ n <<< k := by
  rw [Nat.shiftLeft_eq]
  calc 2 ^ 52 ≤ 2 ^ (n.log2 + k) := Nat.pow_le_pow_right (by decide) hk
    _ = 2 ^ n.log2 * 2 ^ k := Nat.pow_add ..
    _ ≤ n * 2 ^ k := Nat.mul_le_mul_right _ (Nat.log2_self_le hn)

theorem ofNat_small (hx : x.Normal) {n : Nat} (hn : n ≠ 0) (small : n < 2 ^ 53)
    (hv : x.Within n) :
    UnpackedFloat.ofNat Format.binary64 n = .finite .positive x.mantissa x.exponent hx.pos := by
  have bits : (Format.mantissaBits Format.binary64 : Int) = 53 := by decide
  have min : Format.minExponent Format.binary64 = -1074 := by decide
  have log : n.log2 < 53 := (Nat.log2_lt hn).mpr small
  have above : compare (n : Int) 0 = .gt := by
    rw [Int.compare_eq_gt]
    omega
  unfold UnpackedFloat.ofNat UnpackedFloat.ofInt UnpackedFloat.normalize
  rw [above]
  unfold UnpackedFloat.round decreaseExponent
  simp only [Format.targetExponent, totalExponent, bits, min, Int.toNat_natCast]
  generalize hk : (0 - max ((n.log2 : Int) + 1 + 0 - 53) (-1074)).toNat = k
  refine roundWithAccuracy_of_within hx _ (two_pow_le_shiftLeft hn (by omega)) ?_
  rw [Int.zero_sub, shift_value]
  exact hv

theorem ofScientific_of_within (hx : x.Normal) {n : Nat} (hn : n ≠ 0) (hv : x.Within n) :
    UnpackedFloat.ofScientific Format.binary64 n 0 =
      .finite .positive x.mantissa x.exponent hx.pos := by
  have bits : Format.mantissaBits Format.binary64 = 53 := by decide
  have wide : (2 : Int) ^ Format.exponentBits Format.binary64 = 2048 := by decide
  have few : ¬ (0 : Int) > 2 ^ Format.exponentBits Format.binary64 := by omega
  have many : ¬ (0 : Int) < -(2 ^ Format.exponentBits Format.binary64 + (n.log2 : Int)) := by
    omega
  unfold UnpackedFloat.ofScientific
  rw [dif_neg hn, if_neg few, if_neg many, if_pos (Int.le_refl 0), mul_finite]
  simp only [bits, Int.toNat_zero, Nat.pow_zero, Nat.mul_one, Int.add_zero]
  have long := two_pow_le_shiftLeft (k := 53) hn (by omega)
  have value := shift_value n 53
  -- unfolding a shift by a fixed length takes the checker forever
  generalize n <<< 53 = m at long value
  refine roundWithAccuracy_of_within hx _ long ?_
  rw [value]
  exact hv

/-- **An integer in the interval of a double** is read as the double. -/
theorem ofNat_of_within (hx : x.Normal) {n : Nat} (hn : n ≠ 0) (hv : x.Within n) :
    Float.ofNat n = ofDyadic .positive x := by
  by_cases small : n < 2 ^ 53
  · have size : n.toUInt64.toNat = n := by
      rw [Nat.toUInt64_eq, UInt64.toNat_ofNat', Nat.mod_eq_of_lt (by omega)]
    have value : ((x.mantissa * 2 ^ 52 : Nat) : ℚ) * 2 ^ (x.exponent + -52) = x.value := by
      rw [zpow_add₀ (by norm_num), Decimal.Dyadic.value]
      push_cast
      ring
    have long : 2 ^ 52 ≤ x.mantissa * 2 ^ 52 := Nat.le_mul_of_pos_left _ hx.pos
    rw [ofNat_eq_mul small, size, ofNat_small hx hn small hv, pack_finite hx, unpack_packed hx,
      mul_finite, roundWithAccuracy_of_within hx _ long (value ▸ x.within_value),
      ← ofModel_pack hx]
    rfl
  · rw [ofNat_eq_ofScientific small, ofScientific_of_within hx hn hv, ofModel_pack hx]

end PatchSandbox.Double
