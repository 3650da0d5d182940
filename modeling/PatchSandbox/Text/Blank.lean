/-!
# Blank characters

Three sets of characters that a reader may skip. They differ only outside the
ASCII range, and each is used where its own rule is the contract.

* **`isBlank`** — the Unicode property White_Space, used by the bracket scan when
  it looks for the last visible character before a slash.
* **`isScriptSpace`** — WhiteSpace of the ECMAScript grammar.
* **`isLineTerminator`** — LineTerminator of the ECMAScript grammar.
-/

namespace PatchSandbox.Text

/-- The Unicode property White_Space. -/
def isBlank (c : Char) : Bool :=
  let n := c.toNat
  (9 ≤ n && n ≤ 13) || n == 0x20 || n == 0x85 || n == 0xA0 || n == 0x1680 ||
    (0x2000 ≤ n && n ≤ 0x200A) || n == 0x2028 || n == 0x2029 || n == 0x202F ||
    n == 0x205F || n == 0x3000

/-- WhiteSpace of the ECMAScript grammar: tab, vertical tab, form feed, the byte
order mark and every space separator. -/
def isScriptSpace (c : Char) : Bool :=
  let n := c.toNat
  n == 0x20 || n == 9 || n == 11 || n == 12 || n == 0xA0 || n == 0xFEFF || n == 0x1680 ||
    (0x2000 ≤ n && n ≤ 0x200A) || n == 0x202F || n == 0x205F || n == 0x3000

/-- LineTerminator of the ECMAScript grammar. -/
def isLineTerminator (c : Char) : Bool :=
  c == '\n' || c == '\r' || c.toNat == 0x2028 || c.toNat == 0x2029

/-- Core's whitespace is part of White_Space. -/
theorem isBlank_of_isWhitespace {c : Char} (h : c.isWhitespace = true) : isBlank c = true := by
  simp only [Char.isWhitespace, Bool.or_eq_true, decide_eq_true_eq] at h
  rcases h with ((rfl | rfl) | rfl) | rfl <;> decide

end PatchSandbox.Text
