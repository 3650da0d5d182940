import PatchSandbox.Json.Reader

/-!
# The digits of a number

The digits that a number is written with are digits, the first of them is no zero unless it is the
only one, and they stand for the number.
-/

namespace PatchSandbox.Digits

theorem isDigit_of_mem {n : Nat} {c : Char} (h : c ∈ Nat.toDigits 10 n) : c.isDigit = true :=
  Nat.isDigit_of_mem_toDigits (by decide) (by decide) h

/-- No number but zero is written with a zero first. -/
theorem head?_toDigits {n : Nat} (h : 0 < n) : (Nat.toDigits 10 n).head? ≠ some '0' := by
  induction n using Nat.strongRecOn with
  | ind n ih =>
      by_cases hn : n < 10
      · rw [Nat.toDigits_of_lt_base hn]
        intro zero
        have value := Nat.toNat_digitChar_sub_48_of_lt_ten hn
        rw [Option.some.inj zero] at value
        exact Nat.ne_of_lt h value
      · have above : 0 < n / 10 := by omega
        obtain ⟨c, cs, hc⟩ :=
          List.exists_cons_of_ne_nil (Nat.toDigits_ne_nil (n := n / 10) (b := 10))
        have head := ih (n / 10) (by omega) above
        rw [Nat.toDigits_of_base_le (by decide) (by omega), List.head?_append, hc]
        rw [hc] at head
        simpa using head

theorem exists_cons (n : Nat) :
    ∃ c cs, Nat.toDigits 10 n = c :: cs ∧ c.isDigit = true ∧ ∀ d ∈ cs, d.isDigit = true := by
  obtain ⟨c, cs, h⟩ := List.exists_cons_of_ne_nil (Nat.toDigits_ne_nil (n := n) (b := 10))
  have digit {d : Char} (hd : d ∈ c :: cs) : d.isDigit = true := isDigit_of_mem (h ▸ hd)
  exact ⟨c, cs, h, digit (List.mem_cons_self ..), fun d hd => digit (List.mem_cons_of_mem _ hd)⟩

theorem le_of_isDigit {c : Char} (h : c.isDigit = true) : 48 ≤ c.toNat ∧ c.toNat ≤ 57 := by
  simpa [Char.isDigit, UInt32.le_iff_toNat_le] using h

theorem hexDigit?_of_isDigit {c : Char} (h : c.isDigit = true) :
    Json.hexDigit? c = some (c.toNat - 48) := by
  obtain ⟨lo, hi⟩ := le_of_isDigit h
  have fits : '0' ≤ c ∧ c ≤ '9' := by
    simp only [Char.le_def, UInt32.le_iff_toNat_le]
    exact ⟨lo, hi⟩
  rw [Json.hexDigit?, if_pos fits]

end PatchSandbox.Digits
