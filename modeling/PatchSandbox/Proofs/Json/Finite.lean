import Mathlib
import PatchSandbox.Json.Value

/-!
# Numbers that are finite doubles

An integer of sixty-four bits is read as a double that is far from the range where doubles end. So
whatever number a JSON value can hold, reading it as a double gives a finite one.

The arithmetic of doubles rounds to fifty-three bits and then packs the exponent into eleven. All
that matters here is the exponent: **`Below`** bounds it, rounding raises the bound by one at most
(**`below_round`**), packing and unpacking keep it (**`below_unpack_pack`**), and below the greatest
exponent there is, nothing becomes infinite (**`isFinite_pack`**).
-/

namespace PatchSandbox

namespace Double

open Float.Model (Format UnpackedFloat totalExponent)
open Float.Model.UnpackedFloat

/-- A finite number with an exponent up to a bound, or zero. -/
def Below (bound : Int) : UnpackedFloat → Prop
  | .zero _ => True
  | .finite _ _ e _ => e ≤ bound
  | _ => False

theorem Below.mono {a b : Int} {u : UnpackedFloat} (h : Below a u) (hab : a ≤ b) : Below b u := by
  cases u with
  | zero s => trivial
  | finite s m e hm => exact Int.le_trans h hab
  | _ => exact h.elim

/-! ### Rounding -/

theorem mantissa_shift (em : ExtendedMantissa) (n : Nat) :
    (em >>> n).mantissa = em.mantissa / 2 ^ n := by
  change (n.repeat ExtendedMantissa.shiftRightOne em).mantissa = _
  induction n with
  | zero => simp [Nat.repeat]
  | succ n ih =>
      rw [Nat.repeat, ExtendedMantissa.shiftRightOne, ih, Nat.div_div_eq_div_mul, Nat.pow_succ]

theorem roundedMantissa_le (em : ExtendedMantissa) : em.roundedMantissa ≤ em.mantissa + 1 := by
  unfold ExtendedMantissa.roundedMantissa
  rcases em.accuracy with _ | (_ | _ | _) <;> simp [Accuracy.roundToNearestEven]
  omega

@[simp] theorem mantissa_ofMantissaAndAccuracy (m : Nat) (acc : Accuracy) :
    (ExtendedMantissa.ofMantissaAndAccuracy m acc).mantissa = m := by
  rcases acc with _ | (_ | _ | _) <;> rfl

/-- The exponent that a shift comes to. -/
theorem shiftToTargetExponent_snd (m : Nat) (e : Int) (acc : Accuracy) :
    (shiftToTargetExponent Format.binary64 m e acc).2 =
      max e (max (m.log2 + 1 + e - 53) (-1074)) := by
  have min : Format.minExponent Format.binary64 = -1074 := by decide
  have bits : (Format.mantissaBits Format.binary64 : Int) = 53 := by decide
  simp only [shiftToTargetExponent, shiftToExponent, Format.targetExponent, totalExponent, min,
    bits]
  omega

/-- A shift leaves fifty-three bits at most. -/
theorem shiftToTargetExponent_mantissa_lt (m : Nat) (e : Int) (acc : Accuracy) :
    (shiftToTargetExponent Format.binary64 m e acc).1.mantissa < 2 ^ 53 := by
  have bits : (Format.mantissaBits Format.binary64 : Int) = 53 := by decide
  simp only [shiftToTargetExponent, shiftToExponent, mantissa_shift, mantissa_ofMantissaAndAccuracy]
  rw [Nat.div_lt_iff_lt_mul (Nat.two_pow_pos _), ← Nat.pow_add]
  refine Nat.lt_of_lt_of_le Nat.lt_log2_self (Nat.pow_le_pow_right (by decide) ?_)
  simp only [Format.targetExponent, totalExponent, bits]
  omega

/-- **Rounding** raises the exponent by one at most. -/
theorem below_round {s : Sign} {m : Nat} {e : Int} {acc : Accuracy} (bound : Int) (he : e ≤ bound)
    (ht : totalExponent m e ≤ bound + 53) (hb : -1074 ≤ bound) :
    Below (bound + 1) (roundWithAccuracy Format.binary64 s m e acc) := by
  have first := shiftToTargetExponent_snd m e acc
  have short := shiftToTargetExponent_mantissa_lt m e acc
  unfold roundWithAccuracy
  generalize shiftToTargetExponent Format.binary64 m e acc = x at first short
  obtain ⟨em, e'⟩ := x
  have rounded : em.roundedMantissa ≤ 2 ^ 53 := Nat.le_trans (roundedMantissa_le em) short
  have log : em.roundedMantissa.log2 ≤ 53 := by
    by_cases zero : em.roundedMantissa = 0
    · simp [zero]
    · exact Nat.le_of_lt_succ ((Nat.log2_lt zero).mpr (Nat.lt_of_le_of_lt rounded (by decide)))
  have second := shiftToTargetExponent_snd em.roundedMantissa e' .exact
  simp only at first second ⊢
  generalize shiftToTargetExponent Format.binary64 em.roundedMantissa e' .exact = y at second
  obtain ⟨em', e''⟩ := y
  simp only at second ⊢
  unfold totalExponent at ht
  split
  · trivial
  · change e'' ≤ bound + 1
    omega

/-! ### Packing -/

/-- The leading bit of a number that is not small. -/
theorem toNat_append_pos {n : Nat} (m : BitVec n) : 0 < (1#1 ++ m).toNat := by simp

/-- What the bits of a double say when they do not stand for infinity or no number. -/
theorem unpack_cases {b : BitVec Format.binary64.numBits} (h : unpackExponent b ≠ -1#_) :
    (∃ s, UnpackedFloat.unpack Format.binary64 b = .zero s) ∨
      ∃ s m e hm, UnpackedFloat.unpack Format.binary64 b = .finite s m e hm ∧ m < 2 ^ 53 ∧
        e = max (((unpackExponent b).toNat : Int) - 1075) (-1074) := by
  have bias : (Format.exponentBias Format.binary64 : Int) = 1023 := by decide
  unfold UnpackedFloat.unpack
  simp only [h, if_false, bias]
  split
  case isTrue zero =>
      split
      case isTrue => exact .inl ⟨_, rfl⟩
      case isFalse nonzero =>
          have pos : 0 < (unpackMantissa b).toNat := by
            refine Nat.pos_of_ne_zero fun hm => nonzero ?_
            exact BitVec.eq_of_toNat_eq (by simpa using hm)
          refine .inr ⟨_, _, _, pos, rfl, ?_, ?_⟩
          · exact Nat.lt_trans (BitVec.isLt _) (by decide)
          · rw [zero]
            rfl
  case isFalse positive =>
      have whole : 0 < (1#1 ++ unpackMantissa b).toNat := toNat_append_pos _
      refine .inr ⟨_, _, _, whole, rfl, BitVec.isLt _, ?_⟩
      have pos : 0 < (unpackExponent b).toNat := by
        refine Nat.pos_of_ne_zero fun zero => positive ?_
        exact BitVec.eq_of_toNat_eq (by simpa using zero)
      change _ - (1023 + 52) = _
      omega

/-- The bits of an exponent that is not that of infinity. -/
theorem toNat_lt_of_ne {e : BitVec 11} (h : e ≠ -1#_) : e.toNat < 2047 := by
  have le : e.toNat < 2048 := e.isLt
  have ne : e.toNat ≠ 2047 := fun he => h (BitVec.eq_of_toNat_eq (by simpa using he))
  omega

theorem below_unpack {b : BitVec Format.binary64.numBits} (h : unpackExponent b ≠ -1#_) :
    Below 971 (UnpackedFloat.unpack Format.binary64 b) := by
  have lt := toNat_lt_of_ne h
  rcases unpack_cases h with ⟨s, hu⟩ | ⟨s, m, e, hm, hu, -, he⟩
  · rw [hu]
    trivial
  · rw [hu]
    change e ≤ 971
    omega

theorem unpackExponent_ne_of_isFinite {b : BitVec Format.binary64.numBits}
    (h : (UnpackedFloat.unpack Format.binary64 b).isFinite = true) : unpackExponent b ≠ -1#_ := by
  intro he
  unfold UnpackedFloat.unpack at h
  simp only [he, if_true] at h
  split at h <;> simp [UnpackedFloat.isFinite] at h

/-- A number below the greatest exponent is packed with an exponent of its own. -/
theorem unpackExponent_pack {u : UnpackedFloat} {bound : Int} (hu : Below bound u)
    (hb : bound ≤ 971) (hl : -1074 ≤ bound) :
    unpackExponent (pack Format.binary64 u) ≠ -1#_ ∧
      ((unpackExponent (pack Format.binary64 u)).toNat : Int) ≤ bound + 1075 := by
  have small {e : BitVec 11} (he : (e.toNat : Int) ≤ bound + 1075) :
      e ≠ -1#_ ∧ (e.toNat : Int) ≤ bound + 1075 := by
    refine ⟨?_, he⟩
    rintro rfl
    have : (2047 : Int) ≤ bound + 1075 := he
    omega
  cases u with
  | zero s =>
      rw [pack, packedZero, unpackExponent_packComponents]
      exact small (by simp; omega)
  | finite s m e hm =>
      have he : e ≤ bound := hu
      have bias : (Format.exponentBias Format.binary64 : Int) = 1023 := by decide
      rw [pack]
      simp only [bias]
      have fits : ¬ 2 ^ 11 ≤ (e + 1023 + (52 : Nat)).toNat + 1 := by omega
      rw [if_neg fits]
      split
      · rw [unpackExponent_packComponents]
        refine small ?_
        rw [BitVec.toNat_ofNat, Nat.mod_eq_of_lt (by omega)]
        omega
      · rw [unpackExponent_packComponents]
        exact small (by simp; omega)
  | _ => exact hu.elim

/-- **Packing and unpacking** keep a bound. -/
theorem below_unpack_pack {u : UnpackedFloat} {bound : Int} (hu : Below bound u)
    (hb : bound ≤ 971) (hl : -1074 ≤ bound) :
    (∃ s, UnpackedFloat.unpack Format.binary64 (pack Format.binary64 u) = .zero s) ∨
      ∃ s m e hm, UnpackedFloat.unpack Format.binary64 (pack Format.binary64 u) =
        .finite s m e hm ∧ m < 2 ^ 53 ∧ e ≤ bound := by
  obtain ⟨ne, le⟩ := unpackExponent_pack hu hb hl
  rcases unpack_cases ne with hz | ⟨s, m, e, hm, hf, short, he⟩
  · exact .inl hz
  · exact .inr ⟨s, m, e, hm, hf, short, by omega⟩

/-- **Below the greatest exponent** a number is packed as a finite one. -/
theorem isFinite_pack {u : UnpackedFloat} (hu : Below 971 u) :
    (Float.ofModel (.pack u)).isFinite = true := by
  change (UnpackedFloat.unpack Format.binary64 (pack Format.binary64 u)).isFinite = true
  rcases below_unpack_pack hu (by decide) (by decide) with ⟨s, hz⟩ | ⟨s, m, e, hm, hf, -, -⟩
  · rw [hz]
    rfl
  · rw [hf]
    rfl

/-! ### Arithmetic -/

/-- The negative of a finite double is finite. -/
theorem isFinite_neg {x : Float} (hx : x.isFinite = true) : (-x).isFinite = true := by
  have below := below_unpack (unpackExponent_ne_of_isFinite hx)
  refine isFinite_pack
    (u := (UnpackedFloat.unpack Format.binary64 x.toModel.toBits.toBitVec).neg) ?_
  generalize UnpackedFloat.unpack Format.binary64 _ = u at below
  cases u with
  | zero s => trivial
  | finite s m e hm => exact below
  | _ => exact below.elim

theorem log2_shiftLeft_le {n k : Nat} (hn : n ≠ 0) : (n <<< k).log2 ≤ n.log2 + k := by
  have pos : n <<< k ≠ 0 := by
    rw [Nat.shiftLeft_eq]
    exact Nat.mul_ne_zero hn (Nat.ne_of_gt (Nat.two_pow_pos k))
  refine Nat.le_of_lt_succ ((Nat.log2_lt pos).mpr ?_)
  rw [Nat.shiftLeft_eq, Nat.succ_eq_add_one, Nat.add_right_comm, Nat.pow_add]
  exact Nat.mul_lt_mul_of_pos_right Nat.lt_log2_self (Nat.two_pow_pos k)

/-- Rounding an integer whose length is bounded. -/
theorem below_round_nat {n : Nat} {s : Sign} (bound : Nat) (hn : n ≠ 0)
    (hl : n.log2 + 1 ≤ bound + 53) :
    Below (bound + 1) (UnpackedFloat.round Format.binary64 s n 0) := by
  have bits : (Format.mantissaBits Format.binary64 : Int) = 53 := by decide
  have min : Format.minExponent Format.binary64 = -1074 := by decide
  unfold UnpackedFloat.round decreaseExponent
  simp only [Format.targetExponent, totalExponent, bits, min]
  generalize hk : (0 - max ((n.log2 : Int) + 1 + 0 - 53) (-1074)).toNat = k
  have log := log2_shiftLeft_le (k := k) hn
  refine below_round _ (by omega) ?_ (by omega)
  unfold totalExponent
  omega

/-- An integer of sixty-four bits has a small exponent. -/
theorem below_ofNat {n : Nat} (hn : n < 2 ^ 64) :
    Below 12 (UnpackedFloat.ofNat Format.binary64 n) := by
  unfold UnpackedFloat.ofNat UnpackedFloat.ofInt UnpackedFloat.normalize
  split
  case h_1 h =>
      rw [Int.compare_eq_lt] at h
      omega
  case h_2 h => trivial
  case h_3 h =>
      have pos : n ≠ 0 := by
        rw [Int.compare_eq_gt] at h
        omega
      have log : n.log2 < 64 := (Nat.log2_lt pos).mpr hn
      rw [Int.toNat_natCast]
      exact below_round_nat 11 pos (by omega)

/-- One, as a double. -/
theorem unpack_one : (Float.ofBits 0x3FF0000000000000).toModel.unpack =
    .finite .positive (2 ^ 52) (-52) (by decide) := rfl

/-- A small integer is multiplied by one. -/
theorem ofNat_eq_mul {n : Nat} (hn : n < 2 ^ 53) :
    Float.ofNat n = .ofModel (.pack (UnpackedFloat.mul Format.binary64
      (UnpackedFloat.unpack Format.binary64
        (pack Format.binary64 (UnpackedFloat.ofNat Format.binary64 n.toUInt64.toNat)))
      (.finite .positive (2 ^ 52) (-52) (by decide)))) := by
  rw [← unpack_one]
  simp only [Float.ofNat, OfScientific.ofScientific, Float.ofScientific]
  rw [dif_pos (by omega)]
  rfl

/-- A greater one is rounded. -/
theorem ofNat_eq_ofScientific {n : Nat} (hn : ¬ n < 2 ^ 53) :
    Float.ofNat n = .ofModel (.pack (UnpackedFloat.ofScientific Format.binary64 n 0)) := by
  simp only [Float.ofNat, OfScientific.ofScientific, Float.ofScientific]
  rw [dif_neg (by omega)]
  rfl

/-- A product with a power of two below the length of the fraction. -/
theorem below_mul_one {u : UnpackedFloat} (hu : (∃ s, u = .zero s) ∨
    ∃ s m e hm, u = .finite s m e hm ∧ m < 2 ^ 53 ∧ e ≤ 12) :
    Below 13
      (UnpackedFloat.mul Format.binary64 u (.finite .positive (2 ^ 52) (-52) (by decide))) := by
  obtain ⟨s, rfl⟩ | ⟨s, m, e, hm, rfl, short, he⟩ := hu
  · trivial
  · have log : (m * 2 ^ 52).log2 < 105 := by
      refine (Nat.log2_lt (Nat.mul_ne_zero (Nat.ne_of_gt hm) (by decide))).mpr ?_
      calc m * 2 ^ 52 < 2 ^ 53 * 2 ^ 52 := Nat.mul_lt_mul_of_pos_right short (by decide)
        _ = 2 ^ 105 := by decide
    refine below_round 12 (by omega) ?_ (by decide)
    unfold totalExponent
    omega

theorem mul_finite (s s' : Sign) (m m' : Nat) (e e' : Int) (hm : 0 < m) (hm' : 0 < m') :
    UnpackedFloat.mul Format.binary64 (.finite s m e hm) (.finite s' m' e' hm') =
      roundWithAccuracy Format.binary64 (s * s') (m * m') (e + e') .exact := rfl

/-- What is written without an exponent is rounded as it stands. -/
theorem below_ofScientific {n : Nat} (hn : n < 2 ^ 64) :
    Below 12 (UnpackedFloat.ofScientific Format.binary64 n 0) := by
  unfold UnpackedFloat.ofScientific
  split
  case isTrue => trivial
  case isFalse pos =>
      have log : n.log2 < 64 := (Nat.log2_lt pos).mpr hn
      have shifted := log2_shiftLeft_le (k := 53) pos
      have wide : (2 : Int) ^ Format.exponentBits Format.binary64 = 2048 := by decide
      have bits : Format.mantissaBits Format.binary64 = 53 := by decide
      have few : ¬ (0 : Int) > 2 ^ Format.exponentBits Format.binary64 := by omega
      have many : ¬ (0 : Int) < -(2 ^ Format.exponentBits Format.binary64 + (n.log2 : Int)) := by
        omega
      rw [if_neg few, if_neg many, if_pos (Int.le_refl 0), mul_finite]
      simp only [bits, Int.toNat_zero, Nat.pow_zero, Nat.mul_one]
      -- unfolding a shift by a fixed length takes the checker forever
      generalize n <<< 53 = m at shifted
      refine (below_round 11 (by decide) ?_ (by decide)).mono (by decide)
      unfold totalExponent
      omega

/-- **Integers of sixty-four bits** are finite as doubles. -/
theorem isFinite_ofNat {n : Nat} (hn : n < 2 ^ 64) : (Float.ofNat n).isFinite = true := by
  by_cases small : n < 2 ^ 53
  · have below : Below 12 (UnpackedFloat.ofNat Format.binary64 n.toUInt64.toNat) :=
      below_ofNat (UInt64.toNat_lt _)
    have product := below_mul_one (below_unpack_pack below (by decide) (by decide))
    rw [ofNat_eq_mul small]
    exact isFinite_pack (product.mono (by decide))
  · rw [ofNat_eq_ofScientific small]
    exact isFinite_pack ((below_ofScientific hn).mono (by decide))

end Double

/-- A number as JSON values hold it: an integer of sixty-four bits, or a double that is one. -/
def Number.IsSound : Number → Prop
  | .int i => -2 ^ 63 ≤ i ∧ i < 2 ^ 64
  | .float f => f.isFinite = true

/-- **Every such number** is a finite double. -/
theorem Number.isFinite_toFloat {n : Number} (hn : n.IsSound) : n.toFloat.isFinite = true := by
  cases n with
  | float f => exact hn
  | int i =>
      obtain ⟨low, high⟩ := hn
      have size : i.natAbs < 2 ^ 64 := by omega
      have positive : (Float.ofNat i.natAbs).isFinite = true := Double.isFinite_ofNat size
      rw [toFloat]
      by_cases negative : i < 0
      · rw [if_pos negative]
        exact Double.isFinite_neg positive
      · rw [if_neg negative]
        exact positive

end PatchSandbox
