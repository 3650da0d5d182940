import PatchSandbox.Machine.Serialize
import PatchSandbox.Proofs.Text.CodeUnits
import PatchSandbox.Json.Reader

/-!
# Quoted texts

A text is written code point by code point: as it is, or as an escape. A surrogate that stands alone
is written as an escape too, but no reader takes it.

* **`quotePoints`** is what is written between the quotes (**`toList_pushQuoted`**).
* **`stringTail_quotePoints`** says what it is read as: the text, unless a surrogate stands alone.
-/

namespace PatchSandbox

namespace Json

open Text (CodeUnits)
open Text.CodeUnits
open Machine (radixDigit)

/-! ### What is written -/

/-- Four hexadecimal digits. -/
def hexDigits (n : Nat) : List Char :=
  [radixDigit (n / 4096 % 16), radixDigit (n / 256 % 16), radixDigit (n / 16 % 16),
    radixDigit (n % 16)]

/-- What is written of a code point: the character, if it needs no escape. -/
def quotePoint (n : Nat) : List Char :=
  if n = 34 then ['\\', '"']
  else if n = 92 then ['\\', '\\']
  else if n = 8 then ['\\', 'b']
  else if n = 9 then ['\\', 't']
  else if n = 10 then ['\\', 'n']
  else if n = 12 then ['\\', 'f']
  else if n = 13 then ['\\', 'r']
  else if n < 32 ∨ IsSurrogate n then '\\' :: 'u' :: hexDigits n
  else [Char.ofNat n]

/-- What is written between the quotes. -/
def quotePoints (ps : List Nat) : List Char := ps.flatMap quotePoint

theorem quotePoints_cons (p : Nat) (ps : List Nat) :
    quotePoints (p :: ps) = quotePoint p ++ quotePoints ps := rfl

theorem encode_radixDigit {d : Nat} (hd : d < 16) :
    encode [radixDigit d] = [(radixDigit d).toNat.toUInt16] := by
  revert d
  decide

theorem toList_pushEscape (acc : Array UInt16) (c : UInt16) :
    (Machine.pushEscape acc c).toList =
      acc.toList ++ encode ('\\' :: 'u' :: hexDigits c.toNat) := by
  have digit (d : Nat) : encode [radixDigit (d % 16)] = [(radixDigit (d % 16)).toNat.toUInt16] :=
    encode_radixDigit (Nat.mod_lt d (by decide))
  have slash : encode ['\\'] = [92] := by decide
  have u : encode ['u'] = [117] := by decide
  rw [encode_singleton_append, encode_singleton_append 'u', slash, u, hexDigits]
  rw [encode_singleton_append, encode_singleton_append (radixDigit (c.toNat / 256 % 16)),
    encode_singleton_append (radixDigit (c.toNat / 16 % 16)), digit, digit, digit, digit]
  simp [Machine.pushEscape]

theorem beq_eq_decide_toNat (c k : UInt16) : (c == k) = decide (c.toNat = k.toNat) := by
  rw [beq_eq_decide]
  exact decide_eq_decide.mpr UInt16.toNat_inj.symm

theorem lt_iff_toNat_lt (c : UInt16) : (c < 32) = (c.toNat < 32) := by
  rw [UInt16.lt_iff_toNat_lt]
  rfl

/-- **A unit that stands alone** is written as its code point. -/
theorem toList_pushQuotedUnit (acc : Array UInt16) {before after : Option UInt16} {c : UInt16}
    (lead : ¬ (isLead c = true ∧ after.any isTrail = true))
    (trail : ¬ (before.any isLead = true ∧ isTrail c = true)) :
    (Machine.pushQuotedUnit acc before after c).toList =
      acc.toList ++ encode (quotePoint c.toNat) := by
  have pushed (a : UInt16) (l : Char) (hl : encode ['\\', l] = [92, a]) :
      ((acc.push 92).push a).toList = acc.toList ++ encode ['\\', l] := by
    rw [hl]
    simp
  unfold Machine.pushQuotedUnit quotePoint
  simp only [beq_eq_decide_toNat, lt_iff_toNat_lt, decide_eq_true_eq, UInt16.reduceToNat]
  by_cases short : c.toNat ∈ [34, 92, 8, 9, 10, 12, 13]
  · simp only [List.mem_cons, List.not_mem_nil, or_false] at short
    rcases short with h | h | h | h | h | h | h <;> rw [h] <;> exact pushed _ _ (by decide)
  · simp only [List.mem_cons, List.not_mem_nil, or_false, not_or] at short
    obtain ⟨h34, h92, h8, h9, h10, h12, h13⟩ := short
    simp only [h34, h92, h8, h9, h10, h12, h13, if_false]
    by_cases escape : c.toNat < 32 ∨ IsSurrogate c.toNat
    · rw [if_pos escape, ← toList_pushEscape]
      rcases escape with low | half
      · rw [if_pos low]
      · rcases isSurrogate_iff.mp half with first | second
        · have alone : after.any isTrail = false := by simpa [first] using lead
          simp [first, alone]
        · have alone : before.any isLead = false := by simpa [second] using trail
          simp [second, alone]
    · obtain ⟨low, half⟩ := not_or.mp escape
      obtain ⟨first, second⟩ := not_or.mp (isSurrogate_iff.not.mp half)
      rw [if_neg escape, encode_of_lt c.toNat_lt half]
      simp [low, first, second]

/-- Half of a pair is written as it is. -/
theorem pushQuotedUnit_half (acc : Array UInt16) {before after : Option UInt16} {c : UInt16}
    (half : IsSurrogate c.toNat) (lead : isLead c = true → after.any isTrail = true)
    (trail : isTrail c = true → before.any isLead = true) :
    Machine.pushQuotedUnit acc before after c = acc.push c := by
  unfold IsSurrogate at half
  have other (k : Nat) (hk : k < 0xD800) : c.toNat ≠ k := by omega
  have low : ¬ c.toNat < 32 := by omega
  have first : ¬ (isLead c = true ∧ after.any isTrail = false) := fun h => by simp [lead h.1] at h
  have second : ¬ (isTrail c = true ∧ before.any isLead = false) := fun h => by
    simp [trail h.1] at h
  unfold Machine.pushQuotedUnit
  simp only [beq_eq_decide_toNat, lt_iff_toNat_lt, decide_eq_true_eq, UInt16.reduceToNat]
  simp [other, low, first, second]

theorem quotePoint_pairScalar (c d : UInt16) :
    quotePoint (pairScalar c d) = [Char.ofNat (pairScalar c d)] := by
  have large : 0x10000 ≤ pairScalar c d := by
    unfold pairScalar
    omega
  have other (k : Nat) (hk : k < 0x10000) : pairScalar c d ≠ k := by omega
  have low : ¬ (pairScalar c d < 32 ∨ IsSurrogate (pairScalar c d)) := by
    unfold IsSurrogate
    omega
  simp [quotePoint, other, low]

/-- What is written from an index on is told by the code points there. -/
theorem toList_pushQuotedFrom {u : CodeUnits} {i n : Nat} {l : List UInt16} (acc : Array UInt16)
    (h : u.toList.drop i = l) (hn : l.length ≤ n)
    (start : ¬ ((if i = 0 then none else u.get? (i - 1)).any isLead = true ∧
      l.head?.any isTrail = true)) :
    (Machine.pushQuotedFrom u n i acc).toList = acc.toList ++ encode (quotePoints (points l)) := by
  -- a half of a pair looks at its neighbour, so a pair is gone through as one
  induction l using units_induction generalizing n i acc with
  | nil =>
      have stop : Machine.pushQuotedFrom u n i acc = acc := by
        cases n with
        | zero => rfl
        | succ n => rw [Machine.pushQuotedFrom, get?_eq, h]; rfl
      rw [stop]
      simp [points, quotePoints]
  | single c l alone ih =>
      obtain ⟨n, rfl⟩ := Nat.exists_eq_succ_of_ne_zero (n := n) (by simp at hn; omega)
      have here : u.get? i = some c := by rw [get?_eq, h]; rfl
      have next : u.get? (i + 1) = l.head? := by rw [get?_eq, drop_succ h]
      have apart : ¬ (isLead c = true ∧ l.head?.any isTrail = true) := by
        cases hd : l.head? with
        | none => simp
        | some d => simpa using alone d hd
      rw [Machine.pushQuotedFrom, here]
      dsimp only
      rw [ih _ (drop_succ h) (by simpa using hn), points_cons alone, quotePoints_cons,
        encode_append, ← List.append_assoc, toList_pushQuotedUnit]
      · rw [next]
        exact apart
      · simpa using start
      · simpa [here] using apart
  | pair c d l lead trail ih =>
      obtain ⟨n, rfl⟩ := Nat.exists_eq_succ_of_ne_zero (n := n) (by simp at hn; omega)
      obtain ⟨n, rfl⟩ := Nat.exists_eq_succ_of_ne_zero (n := n) (by simp at hn; omega)
      have here : u.get? i = some c := by rw [get?_eq, h]; rfl
      have next : u.get? (i + 1) = some d := by rw [get?_eq, drop_succ h]; rfl
      have firstHalf := isSurrogate_iff.mpr (.inl lead)
      have secondHalf := isSurrogate_iff.mpr (.inr trail)
      have notTrail : isTrail c = false := by
        rw [isLead_iff] at lead
        rw [← Bool.not_eq_true, isTrail_iff]
        omega
      have notLead : isLead d = false := by
        rw [isTrail_iff] at trail
        rw [← Bool.not_eq_true, isLead_iff]
        omega
      rw [Machine.pushQuotedFrom, here]
      dsimp only
      rw [Machine.pushQuotedFrom, next]
      dsimp only
      rw [pushQuotedUnit_half acc firstHalf, pushQuotedUnit_half _ secondHalf,
        ih _ (drop_succ (drop_succ h)), points_pair lead trail, quotePoints_cons, encode_append,
        quotePoint_pairScalar, encode_pairScalar lead trail]
      · simp
      · simp only [List.length_cons] at hn
        omega
      · simp [next, notLead]
      · simp [notLead]
      · simp [here, lead]
      · simp [trail]
      · simp [notTrail]

/-- **A text is written** in quotes. -/
theorem toList_pushQuoted (acc : Array UInt16) (u : CodeUnits) :
    (Machine.pushQuoted acc u).toList =
      acc.toList ++ encode ('"' :: quotePoints (points u.toList) ++ ['"']) := by
  have quote : encode ['"'] = [34] := by decide
  have all : u.toList.length ≤ u.size := Nat.le_of_eq Array.length_toList
  rw [Machine.pushQuoted, Array.toList_push,
    toList_pushQuotedFrom (l := u.toList) _ rfl all (by simp), encode_append,
    encode_singleton_append, quote]
  simp

/-! ### What is read -/

theorem hexDigit?_radixDigit {d : Nat} (hd : d < 16) : hexDigit? (radixDigit d) = some d := by
  revert d
  decide

theorem hex_hexDigits {n : Nat} (hn : n < 0x10000) (rest : List Char) :
    hex 4 0 (hexDigits n ++ rest) = .ok (n, rest) := by
  have digit (d : Nat) : hexDigit? (radixDigit (d % 16)) = some (d % 16) :=
    hexDigit?_radixDigit (Nat.mod_lt d (by decide))
  simp only [hexDigits, List.cons_append, List.nil_append, hex, digit]
  congr 2
  omega

/-- A character that needs no escape. -/
theorem stringTail_plain {c : Char} (quote : c ≠ '"') (slash : c ≠ '\\') (high : ¬ c.toNat < 0x20)
    (n : Nat) (acc : String) (rest : List Char) :
    stringTail (n + 1) acc (c :: rest) = stringTail n (acc.push c) rest := by
  rw [stringTail]
  · rw [if_neg high]
  all_goals simp_all

/-- An escape of one letter. -/
theorem stringTail_simple {c d : Char} (hc : simpleEscape? c = some d) (hu : c ≠ 'u')
    (n : Nat) (acc : String) (rest : List Char) :
    stringTail (n + 1) acc ('\\' :: c :: rest) = stringTail n (acc.push d) rest := by
  rw [stringTail]
  · rw [hc]
  all_goals simp_all

theorem unicodeEscape_hexDigits {n : Nat} (hn : n < 0x10000) (hs : ¬ IsSurrogate n)
    (rest : List Char) :
    unicodeEscape (hexDigits n ++ rest) = .ok (Char.ofNat n, rest) := by
  unfold IsSurrogate at hs
  unfold unicodeEscape
  rw [hex_hexDigits hn]
  change (if 0xDC00 ≤ n ∧ n < 0xE000 then _ else if 0xD800 ≤ n ∧ n < 0xDC00 then _ else _) = _
  rw [if_neg (by omega), if_neg (by omega)]

/-- **A code point** that is no surrogate is read as its character. -/
theorem stringTail_quotePoint {p : Nat} (hp : ¬ IsSurrogate p) (hv : p < 0x110000) (n : Nat)
    (acc : String) (rest : List Char) :
    stringTail (n + 1) acc (quotePoint p ++ rest) =
      stringTail n (acc.push (Char.ofNat p)) rest := by
  by_cases short : p ∈ [34, 92, 8, 9, 10, 12, 13]
  · simp only [List.mem_cons, List.not_mem_nil, or_false] at short
    rcases short with rfl | rfl | rfl | rfl | rfl | rfl | rfl <;>
      exact stringTail_simple (by decide) (by decide) n acc rest
  · simp only [List.mem_cons, List.not_mem_nil, or_false, not_or] at short
    obtain ⟨h34, h92, h8, h9, h10, h12, h13⟩ := short
    simp only [quotePoint, h34, h92, h8, h9, h10, h12, h13, if_false, hp, or_false]
    by_cases low : p < 32
    · rw [if_pos low, List.cons_append, List.cons_append, stringTail,
        unicodeEscape_hexDigits (by omega) hp]
    · have valid : p.isValidChar := by
        unfold IsSurrogate at hp
        unfold Nat.isValidChar
        omega
      rw [if_neg low]
      exact stringTail_plain (charOfNat_ne h34 (by decide)) (charOfNat_ne h92 (by decide))
        (by rwa [toNat_charOfNat valid]) n acc rest

/-- What follows the first half of a pair that is no second half does not complete it. -/
theorem not_completed {ps : List Nat} {rest r r' : List Char} {m : Nat}
    (hps : ∀ q ∈ ps.head?, ¬ (0xDC00 ≤ q ∧ q < 0xE000))
    (hw : word ['\\', 'u'] (quotePoints ps ++ '"' :: rest) = .ok r)
    (hm : hex 4 0 r = .ok (m, r')) : ¬ (0xDC00 ≤ m ∧ m < 0xE000) := by
  cases ps with
  | nil => cases hw
  | cons q ps =>
      have other := hps q rfl
      rw [quotePoints_cons, List.append_assoc] at hw
      by_cases short : q ∈ [34, 92, 8, 9, 10, 12, 13]
      · simp only [List.mem_cons, List.not_mem_nil, or_false] at short
        rcases short with rfl | rfl | rfl | rfl | rfl | rfl | rfl <;> cases hw
      · simp only [List.mem_cons, List.not_mem_nil, or_false, not_or] at short
        obtain ⟨h34, h92, h8, h9, h10, h12, h13⟩ := short
        simp only [quotePoint, h34, h92, h8, h9, h10, h12, h13, if_false] at hw
        by_cases escape : q < 32 ∨ IsSurrogate q
        · rw [if_pos escape] at hw
          obtain rfl : hexDigits q ++ (quotePoints ps ++ '"' :: rest) = r := Except.ok.inj hw
          have small : q < 0x10000 := by
            unfold IsSurrogate at escape
            omega
          rw [hex_hexDigits small] at hm
          obtain ⟨rfl, -⟩ := Prod.mk.inj (Except.ok.inj hm)
          exact other
        · rw [if_neg escape, List.singleton_append, word,
            if_neg (charOfNat_ne h92 (by decide)).symm] at hw
          cases hw

/-- A surrogate that stands alone is refused. -/
theorem unicodeEscape_surrogate {p : Nat} (hp : IsSurrogate p) {ps : List Nat} (rest : List Char)
    (hps : p < 0xDC00 → ∀ q ∈ ps.head?, ¬ (0xDC00 ≤ q ∧ q < 0xE000)) :
    ∃ e, unicodeEscape (hexDigits p ++ (quotePoints ps ++ '"' :: rest)) = .error e := by
  unfold IsSurrogate at hp
  unfold unicodeEscape
  rw [hex_hexDigits (by omega)]
  -- a second half is refused at once, and a first one unless the escape of a second one follows
  by_cases lead : p < 0xDC00
  · have first : ¬ (0xDC00 ≤ p ∧ p < 0xE000) := by omega
    change ∃ e, (if 0xDC00 ≤ p ∧ p < 0xE000 then _ else if 0xD800 ≤ p ∧ p < 0xDC00 then _ else _) =
      Except.error e
    rw [if_neg first, if_pos ⟨hp.1, lead⟩]
    cases hw : word ['\\', 'u'] (quotePoints ps ++ '"' :: rest) with
    | error e => exact ⟨e, rfl⟩
    | ok r =>
        cases hm : hex 4 0 r with
        | error e => exact ⟨e, by change Except.bind (hex 4 0 r) _ = _; rw [hm]; rfl⟩
        | ok v =>
            obtain ⟨m, r'⟩ := v
            refine ⟨.malformed, ?_⟩
            change Except.bind (hex 4 0 r) _ = _
            rw [hm]
            exact if_neg (not_completed (hps lead) hw hm)
  · exact ⟨_, if_pos ⟨by omega, by omega⟩⟩

/-- One code point more. -/
theorem stringTail_cons {p n : Nat} {ps : List Nat} {acc : String} {rest : List Char}
    (hv : p < 0x110000)
    (alone : IsSurrogate p → p < 0xDC00 → ∀ q ∈ ps.head?, ¬ (0xDC00 ≤ q ∧ q < 0xE000))
    (ih : (stringTail n (acc.push (Char.ofNat p)) (quotePoints ps ++ '"' :: rest)).toOption =
      (characters ps).map fun cs => (acc.push (Char.ofNat p) ++ String.ofList cs, rest)) :
    (stringTail (n + 1) acc (quotePoints (p :: ps) ++ '"' :: rest)).toOption =
      (characters (p :: ps)).map fun cs => (acc ++ String.ofList cs, rest) := by
  rw [quotePoints_cons, List.append_assoc, characters_cons]
  by_cases half : IsSurrogate p
  · obtain ⟨e, refused⟩ := unicodeEscape_surrogate half rest (alone half)
    have escape : quotePoint p = '\\' :: 'u' :: hexDigits p := by
      have other (k : Nat) (hk : k < 0xD800) : p ≠ k := by
        unfold IsSurrogate at half
        omega
      simp [quotePoint, other, half]
    rw [if_pos half, escape, List.cons_append, List.cons_append, stringTail, refused]
    rfl
  · rw [if_neg half, stringTail_quotePoint half hv, ih, Option.map_map]
    simp only [push_append_ofList, Function.comp_def]

/-- **A quoted text** is read as the text, unless a surrogate stands alone. -/
theorem stringTail_quotePoints (l : List UInt16) {n : Nat} (acc : String) (rest : List Char)
    (hn : (points l).length < n) :
    (stringTail n acc (quotePoints (points l) ++ '"' :: rest)).toOption =
      (characters (points l)).map fun cs => (acc ++ String.ofList cs, rest) := by
  obtain ⟨n, rfl⟩ := Nat.exists_eq_succ_of_ne_zero (Nat.ne_zero_of_lt hn)
  induction l using units_induction generalizing n acc with
  | nil => simp [points, quotePoints, characters, stringTail, Except.toOption]
  | single c l apart ih =>
      rw [points_cons apart, List.length_cons] at hn
      obtain ⟨n, rfl⟩ := Nat.exists_eq_succ_of_ne_zero (n := n) (by omega)
      rw [points_cons apart]
      refine stringTail_cons (Nat.lt_trans c.toNat_lt (by decide)) ?_ (ih _ _ (by omega))
      intro half lead q hq trail
      rcases head?_points hq with ⟨d, hd, rfl⟩ | large
      · refine apart d hd ⟨isLead_iff.mpr ⟨half.1, lead⟩, isTrail_iff.mpr trail⟩
      · omega
  | pair c d l lead trail ih =>
      rw [points_pair lead trail, List.length_cons] at hn
      obtain ⟨n, rfl⟩ := Nat.exists_eq_succ_of_ne_zero (n := n) (by omega)
      rw [points_pair lead trail]
      refine stringTail_cons ?_ (fun half => absurd half (not_isSurrogate_pairScalar c d))
        (ih _ _ (by omega))
      rw [isLead_iff] at lead
      rw [isTrail_iff] at trail
      unfold pairScalar
      omega

theorem length_le_quotePoints (ps : List Nat) : ps.length ≤ (quotePoints ps).length := by
  induction ps with
  | nil => exact Nat.le_refl 0
  | cons p ps ih =>
      have some : 0 < (quotePoint p).length := by
        unfold quotePoint
        repeat' split
        all_goals simp
      rw [quotePoints_cons, List.length_append, List.length_cons]
      omega

theorem stringTail_text (u : CodeUnits) (rest : List Char) :
    (stringTail ((quotePoints (points u.toList) ++ '"' :: rest).length + 1) ""
      (quotePoints (points u.toList) ++ '"' :: rest)).toOption = u.toString?.map (·, rest) := by
  have enough := length_le_quotePoints (points u.toList)
  rw [stringTail_quotePoints u.toList "" rest, toString?_eq, Option.map_map]
  · simp [Function.comp_def]
  · rw [List.length_append]
    omega

end Json

end PatchSandbox
