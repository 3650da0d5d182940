/-!
# Texts in the order of their bytes

Texts are compared character by character. Comparing the bytes of their UTF-8 forms comes to the
same (**`lt_iff_utf8_lt`**, **`le_iff_utf8_le`**): the first byte of a character tells how long its
form is, longer forms begin with greater bytes, and no form begins another one.
-/

namespace PatchSandbox.Text

/-- The bytes of a text. -/
def utf8 (s : String) : List UInt8 := s.toUTF8.data.toList

theorem utf8_eq_flatMap (s : String) : utf8 s = s.toList.flatMap String.utf8EncodeChar := by
  have bytes : s.toUTF8 = (s.toList.flatMap String.utf8EncodeChar).toByteArray := by
    rw [← List.utf8Encode, ← String.toByteArray_ofList, String.ofList_toList]
    rfl
  rw [utf8, bytes, List.data_toByteArray]

/-- Bytes are compared as the numbers they stand for. -/
theorem ofNat_cons_lt_iff {a b : Nat} (ha : a < 256) (hb : b < 256) (s t : List UInt8) :
    UInt8.ofNat a :: s < UInt8.ofNat b :: t ↔ a < b ∨ a = b ∧ s < t := by
  rw [List.cons_lt_cons_iff, UInt8.lt_iff_toNat_lt, ← UInt8.toNat_inj, UInt8.toNat_ofNat',
    UInt8.toNat_ofNat', Nat.mod_eq_of_lt ha, Nat.mod_eq_of_lt hb]

/-- A smaller character has the smaller bytes, whatever follows. -/
theorem utf8EncodeChar_append_lt {c d : Char} (h : c < d) (s t : List UInt8) :
    String.utf8EncodeChar c ++ s < String.utf8EncodeChar d ++ t := by
  have below : c.val.toNat < d.val.toNat := h
  have bound : d.val.toNat < 0x110000 := by
    rcases d.valid with hd | hd
    · exact Nat.lt_trans hd (by decide)
    · exact hd.2
  unfold String.utf8EncodeChar
  generalize c.val.toNat = m at below
  generalize d.val.toNat = n at below bound
  -- digit by digit, from the last one
  have second (x : Nat) : x / 4096 = x / 64 / 64 := by rw [Nat.div_div_eq_div_mul]
  have third (x : Nat) : x / 262144 = x / 64 / 64 / 64 := by
    rw [Nat.div_div_eq_div_mul, Nat.div_div_eq_div_mul]
  simp only [second, third]
  -- the two forms may have any two lengths
  repeat' split
  all_goals
    simp (disch := omega) only [List.cons_append, List.nil_append, ofNat_cons_lt_iff]
    omega

theorem flatMap_utf8EncodeChar_lt {as bs : List Char} (h : as < bs) :
    as.flatMap String.utf8EncodeChar < bs.flatMap String.utf8EncodeChar := by
  induction h with
  | @nil b bs =>
      obtain ⟨x, xs, form⟩ := List.exists_cons_of_ne_nil (String.utf8EncodeChar_ne_nil (c := b))
      rw [List.flatMap_nil, List.flatMap_cons, form]
      exact List.nil_lt_cons _ _
  | rel hab =>
      rw [List.flatMap_cons, List.flatMap_cons]
      exact utf8EncodeChar_append_lt hab _ _
  | cons h ih =>
      rw [List.flatMap_cons, List.flatMap_cons]
      exact List.append_left_lt ih

/-- **A text is smaller than another** exactly if its bytes are. -/
theorem lt_iff_utf8_lt (s t : String) : s < t ↔ utf8 s < utf8 t := by
  have smaller {s t : String} (h : s < t) : utf8 s < utf8 t := by
    rw [utf8_eq_flatMap, utf8_eq_flatMap]
    exact flatMap_utf8EncodeChar_lt h
  refine ⟨smaller, fun h => ?_⟩
  rw [← Std.not_le]
  intro hle
  rcases Std.le_iff_lt_or_eq.mp hle with hlt | rfl
  · exact absurd (smaller hlt) (List.lt_asymm h)
  · exact absurd h (List.lt_irrefl _)

theorem le_iff_utf8_le (s t : String) : s ≤ t ↔ utf8 s ≤ utf8 t := by
  rw [← String.not_lt, ← List.not_lt, lt_iff_utf8_lt]

end PatchSandbox.Text
