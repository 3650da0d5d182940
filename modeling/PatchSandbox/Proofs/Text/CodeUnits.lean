import Mathlib.Data.List.Basic
import PatchSandbox.Text.CodeUnits

/-!
# Units and characters

Two units that are halves of a pair stand for one character. A half that stands alone stands for
none.

* **`points`** cuts units into code points, and **`units_induction`** is the induction that goes
  with it.
* **`toString?_eq`** says which units are a text: those whose code points are all characters.
* **`encode`** gives the units of characters, and **`toString?_ofList`** says that characters are
  read back from them.
-/

namespace PatchSandbox.Text.CodeUnits

/-- The units, one after the other. -/
def toList (u : CodeUnits) : List UInt16 := u.toArray.toList

theorem eq_of_toList {u v : CodeUnits} (h : u.toList = v.toList) : u = v := by
  obtain ⟨⟨u⟩⟩ := u
  obtain ⟨⟨v⟩⟩ := v
  exact congrArg (fun l => CodeUnits.mk ⟨l⟩) h

@[simp] theorem toList_append (u v : CodeUnits) : (u ++ v).toList = u.toList ++ v.toList :=
  Array.toList_append

/-! ### The units of characters -/

/-- The units of some characters. -/
def encode (cs : List Char) : List UInt16 := cs.flatMap fun c => (pushScalar #[] c.toNat).toList

@[simp] theorem encode_nil : encode [] = [] := rfl

theorem encode_cons (c : Char) (cs : List Char) :
    encode (c :: cs) = (pushScalar #[] c.toNat).toList ++ encode cs := rfl

@[simp] theorem encode_append (cs ds : List Char) : encode (cs ++ ds) = encode cs ++ encode ds :=
  List.flatMap_append

theorem encode_singleton_append (c : Char) (cs : List Char) :
    encode (c :: cs) = encode [c] ++ encode cs := by
  rw [← encode_append]
  rfl

theorem toList_pushScalar (acc : Array UInt16) (n : Nat) :
    (pushScalar acc n).toList = acc.toList ++ (pushScalar #[] n).toList := by
  unfold pushScalar
  split <;> simp

theorem toList_foldl_pushScalar (cs : List Char) (acc : Array UInt16) :
    (cs.foldl (fun acc c => pushScalar acc c.toNat) acc).toList = acc.toList ++ encode cs := by
  induction cs generalizing acc with
  | nil => simp
  | cons c cs ih => rw [List.foldl_cons, ih, toList_pushScalar, encode_cons, List.append_assoc]

@[simp] theorem toList_ofList (cs : List Char) : (ofList cs).toList = encode cs := by
  simpa [toList, ofList] using toList_foldl_pushScalar cs #[]

theorem ofList_append (cs ds : List Char) : ofList (cs ++ ds) = ofList cs ++ ofList ds :=
  eq_of_toList (by simp)

theorem ofString_eq (s : String) : ofString s = ofList s.toList := by
  rw [ofString, ofList, String.foldl_eq_foldl_toList]

/-! ### Code points -/

/-- The code points of some units. A surrogate that stands alone is one of its own. -/
def points : List UInt16 → List Nat
  | [] => []
  | [c] => [c.toNat]
  | c :: d :: rest =>
    if isLead c && isTrail d then pairScalar c d :: points rest else c.toNat :: points (d :: rest)

/-- Half of a pair. -/
def IsSurrogate (n : Nat) : Prop := 0xD800 ≤ n ∧ n < 0xE000

instance (n : Nat) : Decidable (IsSurrogate n) := inferInstanceAs (Decidable (_ ∧ _))

/-- The characters of code points, unless a surrogate stands alone. -/
def characters (ps : List Nat) : Option (List Char) :=
  if ∀ p ∈ ps, ¬ IsSurrogate p then some (ps.map Char.ofNat) else none

theorem characters_cons (p : Nat) (ps : List Nat) : characters (p :: ps) =
    if IsSurrogate p then none else (characters ps).map (Char.ofNat p :: ·) := by
  unfold characters
  by_cases hp : IsSurrogate p <;> by_cases hps : ∀ q ∈ ps, ¬ IsSurrogate q <;> simp [hp, hps]

theorem isLead_iff {c : UInt16} : isLead c = true ↔ 0xD800 ≤ c.toNat ∧ c.toNat < 0xDC00 := by
  simp [isLead, UInt16.le_iff_toNat_le, UInt16.lt_iff_toNat_lt]

theorem isTrail_iff {c : UInt16} : isTrail c = true ↔ 0xDC00 ≤ c.toNat ∧ c.toNat < 0xE000 := by
  simp [isTrail, UInt16.le_iff_toNat_le, UInt16.lt_iff_toNat_lt]

theorem isSurrogate_iff {c : UInt16} :
    IsSurrogate c.toNat ↔ isLead c = true ∨ isTrail c = true := by
  rw [isLead_iff, isTrail_iff, IsSurrogate]
  omega

theorem not_isSurrogate_pairScalar (c d : UInt16) : ¬ IsSurrogate (pairScalar c d) := by
  unfold IsSurrogate pairScalar
  omega

/-- What stands alone is read as it is, -/
theorem points_cons {c : UInt16} {l : List UInt16}
    (alone : ∀ d ∈ l.head?, ¬ (isLead c = true ∧ isTrail d = true)) :
    points (c :: l) = c.toNat :: points l := by
  cases l with
  | nil => rfl
  | cons d l => rw [points, if_neg (by simpa using alone d rfl)]

/-- and a pair as one. -/
theorem points_pair {c d : UInt16} (lead : isLead c = true) (trail : isTrail d = true)
    (l : List UInt16) : points (c :: d :: l) = pairScalar c d :: points l := by
  rw [points, if_pos (by simp [lead, trail])]

/-- The first code point is the first unit, or it is that of a pair. -/
theorem head?_points {l : List UInt16} {p : Nat} (h : (points l).head? = some p) :
    (∃ c, l.head? = some c ∧ p = c.toNat) ∨ 0x10000 ≤ p := by
  cases l with
  | nil => cases h
  | cons c l =>
      cases l with
      | nil => exact .inl ⟨c, rfl, (Option.some.inj h).symm⟩
      | cons d l =>
          rw [points] at h
          split at h
          · obtain rfl := Option.some.inj h
            right
            unfold pairScalar
            omega
          · exact .inl ⟨c, rfl, (Option.some.inj h).symm⟩

/-- Units are gone through pair by pair, and what is in no pair for itself. -/
@[elab_as_elim] theorem units_induction {motive : List UInt16 → Prop} (nil : motive [])
    (single : ∀ c l, (∀ d ∈ l.head?, ¬ (isLead c = true ∧ isTrail d = true)) → motive l →
      motive (c :: l))
    (pair : ∀ c d l, isLead c = true → isTrail d = true → motive l → motive (c :: d :: l))
    (l : List UInt16) : motive l := by
  induction l using points.induct with
  | case1 => exact nil
  | case2 c => exact single c [] (by simp) nil
  | case3 c d l both ih =>
      obtain ⟨lead, trail⟩ := Bool.and_eq_true_iff.mp both
      exact pair c d l lead trail ih
  | case4 c d l apart ih =>
      refine single c (d :: l) ?_ ih
      rintro d ⟨⟩
      simpa using apart

/-! ### Decoding -/

section

variable {u : CodeUnits} {i : Nat} {c d : UInt16} {l : List UInt16}

theorem get?_eq (u : CodeUnits) (i : Nat) : u.get? i = (u.toList.drop i).head? := by
  simp [get?, toList, List.head?_drop]

theorem drop_succ (h : u.toList.drop i = c :: l) : u.toList.drop (i + 1) = l := by
  rw [← List.drop_drop, h]
  rfl

theorem codePointAt_nil (h : u.toList.drop i = []) : u.codePointAt i = none := by
  rw [codePointAt, get?_eq, h]
  rfl

theorem codePointAt_single (h : u.toList.drop i = c :: l)
    (alone : ∀ d ∈ l.head?, ¬ (isLead c = true ∧ isTrail d = true)) :
    u.codePointAt i = some (c.toNat, 1) := by
  rw [codePointAt, get?_eq, get?_eq, h, drop_succ h]
  cases l with
  | nil => simp
  | cons d l =>
      have := alone d rfl
      by_cases lead : isLead c = true <;> simp_all

theorem codePointAt_pair (h : u.toList.drop i = c :: d :: l) (lead : isLead c = true)
    (trail : isTrail d = true) : u.codePointAt i = some (pairScalar c d, 2) := by
  rw [codePointAt, get?_eq, get?_eq, h, drop_succ h]
  simp [lead, trail]

theorem push_append_ofList (acc : String) (c : Char) (cs : List Char) :
    acc.push c ++ String.ofList cs = acc ++ String.ofList (c :: cs) := by
  rw [← String.toList_inj]
  simp

theorem decodeFrom_succ {n p w : Nat} {ps : List Nat} {acc : String}
    (point : u.codePointAt i = some (p, w))
    (rest : u.decodeFrom n (i + w) (acc.push (Char.ofNat p)) =
      (characters ps).map fun cs => acc.push (Char.ofNat p) ++ String.ofList cs) :
    u.decodeFrom (n + 1) i acc =
      (characters (p :: ps)).map fun cs => acc ++ String.ofList cs := by
  rw [decodeFrom, point, characters_cons]
  dsimp only
  rw [rest]
  by_cases half : IsSurrogate p
  · rw [if_pos (by simpa [IsSurrogate] using half), if_pos half]
    rfl
  · rw [if_neg (by simpa [IsSurrogate] using half), if_neg half, Option.map_map]
    simp only [push_append_ofList, Function.comp_def]

/-- What is decoded from an index on is told by the code points there. -/
theorem decodeFrom_eq {n : Nat} (acc : String) (h : u.toList.drop i = l) (hn : l.length ≤ n) :
    u.decodeFrom n i acc = (characters (points l)).map fun cs => acc ++ String.ofList cs := by
  induction l using units_induction generalizing n i acc with
  | nil =>
      have stop : u.decodeFrom n i acc = some acc := by
        cases n with
        | zero => rfl
        | succ n => rw [decodeFrom, codePointAt_nil h]
      rw [stop]
      simp [points, characters]
  | single c l alone ih =>
      obtain ⟨n, rfl⟩ := Nat.exists_eq_succ_of_ne_zero (n := n) (by simp at hn; omega)
      rw [points_cons alone]
      exact decodeFrom_succ (codePointAt_single h alone)
        (ih _ (drop_succ h) (by simpa using hn))
  | pair c d l lead trail ih =>
      obtain ⟨n, rfl⟩ := Nat.exists_eq_succ_of_ne_zero (n := n) (by simp at hn; omega)
      rw [points_pair lead trail]
      refine decodeFrom_succ (codePointAt_pair h lead trail)
        (ih _ (drop_succ (drop_succ h)) ?_)
      simp only [List.length_cons] at hn
      omega

/-- **Units are a text** exactly if no surrogate stands alone. -/
theorem toString?_eq (u : CodeUnits) :
    u.toString? = (characters (points u.toList)).map String.ofList := by
  have all : u.toList.length ≤ u.size := Nat.le_of_eq Array.length_toList
  rw [toString?, decodeFrom_eq (l := u.toList) "" rfl all]
  simp

end

/-! ### Encoding -/

theorem toNat_charOfNat {n : Nat} (h : n.isValidChar) : (Char.ofNat n).toNat = n := by
  rw [Char.ofNat, dif_pos h]
  rfl

theorem charOfNat_ne {n : Nat} {c : Char} (h : n ≠ c.toNat) (hc : c ≠ '\x00') :
    Char.ofNat n ≠ c := by
  intro he
  by_cases valid : n.isValidChar
  · rw [← he, toNat_charOfNat valid] at h
    exact h rfl
  · rw [Char.ofNat, dif_neg valid] at he
    exact hc he.symm

theorem encode_of_lt {n : Nat} (hn : n < 0x10000) (hs : ¬ IsSurrogate n) :
    encode [Char.ofNat n] = [n.toUInt16] := by
  have valid : n.isValidChar := by
    unfold IsSurrogate at hs
    unfold Nat.isValidChar
    omega
  rw [encode_cons, toNat_charOfNat valid, pushScalar, if_pos hn]
  rfl

theorem encode_pairScalar {c d : UInt16} (lead : isLead c = true) (trail : isTrail d = true) :
    encode [Char.ofNat (pairScalar c d)] = [c, d] := by
  rw [isLead_iff] at lead
  rw [isTrail_iff] at trail
  have scalar : pairScalar c d = 0x10000 + (c.toNat - 0xD800) * 0x400 + (d.toNat - 0xDC00) := rfl
  have valid : (pairScalar c d).isValidChar := by
    unfold Nat.isValidChar
    omega
  have high : 0xD800 + (pairScalar c d - 0x10000) / 0x400 = c.toNat := by omega
  have low : 0xDC00 + (pairScalar c d - 0x10000) % 0x400 = d.toNat := by omega
  rw [encode_cons, toNat_charOfNat valid, pushScalar, if_neg (by omega)]
  dsimp only
  rw [high, low]
  simp

/-- A character of one unit stands alone, and one of two is a pair. -/
theorem encode_char (c : Char) :
    (∃ u : UInt16, encode [c] = [u] ∧ u.toNat = c.toNat ∧ ¬ IsSurrogate u.toNat) ∨
      ∃ u v : UInt16, encode [c] = [u, v] ∧ isLead u = true ∧ isTrail v = true ∧
        pairScalar u v = c.toNat := by
  have valid : c.toNat.isValidChar := c.valid
  unfold Nat.isValidChar at valid
  rw [encode_cons, encode_nil, List.append_nil]
  unfold pushScalar
  by_cases small : c.toNat < 0x10000
  · rw [if_pos small]
    have size : c.toNat.toUInt16.toNat = c.toNat := by
      rw [Nat.toUInt16_eq, UInt16.toNat_ofNat', Nat.mod_eq_of_lt (by omega)]
    refine .inl ⟨_, rfl, size, ?_⟩
    rw [size, IsSurrogate]
    omega
  · rw [if_neg small]
    have lead : (0xD800 + (c.toNat - 0x10000) / 0x400).toUInt16.toNat =
        0xD800 + (c.toNat - 0x10000) / 0x400 := by
      rw [Nat.toUInt16_eq, UInt16.toNat_ofNat', Nat.mod_eq_of_lt (by omega)]
    have trail : (0xDC00 + (c.toNat - 0x10000) % 0x400).toUInt16.toNat =
        0xDC00 + (c.toNat - 0x10000) % 0x400 := by
      rw [Nat.toUInt16_eq, UInt16.toNat_ofNat', Nat.mod_eq_of_lt (by omega)]
    refine .inr ⟨_, _, rfl, isLead_iff.mpr ?_, isTrail_iff.mpr ?_, ?_⟩
    · omega
    · omega
    · unfold pairScalar
      omega

theorem points_encode (cs : List Char) : points (encode cs) = cs.map Char.toNat := by
  induction cs with
  | nil => rfl
  | cons c cs ih =>
      rw [encode_singleton_append, List.map_cons, ← ih]
      -- a character of one unit is no half of a pair, whatever follows it
      rcases encode_char c with ⟨u, one, value, whole⟩ | ⟨u, v, two, lead, trail, value⟩
      · rw [one, List.singleton_append, points_cons, value]
        rintro d - ⟨lead, -⟩
        exact whole (isSurrogate_iff.mpr (.inl lead))
      · rw [two]
        change points (u :: v :: encode cs) = _
        rw [points_pair lead trail, value]

/-- **Characters** are read back from their units. -/
theorem toString?_ofList (cs : List Char) : (ofList cs).toString? = some (String.ofList cs) := by
  have sound : ∀ p ∈ cs.map Char.toNat, ¬ IsSurrogate p := by
    intro p hp
    obtain ⟨c, -, rfl⟩ := List.mem_map.mp hp
    have valid : c.toNat.isValidChar := c.valid
    unfold Nat.isValidChar at valid
    unfold IsSurrogate
    omega
  rw [toString?_eq, toList_ofList, points_encode, characters, if_pos sound, List.map_map]
  simp [Function.comp_def, Char.ofNat_toNat]

end PatchSandbox.Text.CodeUnits
