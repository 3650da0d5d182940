import PatchSandbox.Proofs.Decimal.Double
import PatchSandbox.Proofs.Text.Digits

/-!
# Numbers in JSON text

A number is written with digits, and it may have a point and an exponent.

* **`Numeral`** is a number as it is written, and **`number_text`** says what it is read as.
* **`exists_numeral`** says that every decimal is written as a numeral that stands for it, be it
  small or whole, with a point between its digits or with an exponent.
* **`numberOf_of_within`** says that digits in the interval of a double are read as the double, also
  where they are taken for an integer.
* **`number_numberText`** puts this together: a finite double is read back from its text, and a
  negative zero as zero.
-/

namespace PatchSandbox

namespace Json

/-- What may stand after a value inside another one, or nothing. -/
def Ends (rest : List Char) : Prop := ∀ c ∈ rest.head?, c = ',' ∨ c = ']' ∨ c = '\x7d'

/-! ### Runs of digits -/

/-- **Digits** are read up to where they end. -/
theorem digits_append {ds rest : List Char} (hd : ∀ c ∈ ds, c.isDigit = true)
    (hr : ∀ c ∈ rest.head?, c.isDigit = false) (acc count : Nat) :
    digits (ds ++ rest) acc count = (Nat.ofDigitChars 10 ds acc, count + ds.length, rest) := by
  induction ds generalizing acc count with
  | nil =>
      cases rest with
      | nil => rfl
      | cons c rest => simp [digits, hr c rfl]
  | cons d ds ih =>
      obtain ⟨first, others⟩ := List.forall_mem_cons.mp hd
      rw [List.cons_append, digits, if_pos first, ih others, Nat.ofDigitChars_cons,
        List.length_cons, Nat.mul_comm acc]
      congr 2
      omega

/-! ### Numerals -/

/-- A number as it is written: the digits before the point and after it, and the exponent, with
whether it is negative. -/
structure Numeral where
  whole : List Char
  fraction : List Char
  exponent : Option (Bool × List Char)

namespace Numeral

/-- The exponent part. -/
def exponentText (n : Numeral) : List Char :=
  match n.exponent with
  | some (negative, ds) => 'e' :: (if negative then '-' else '+') :: ds
  | none => []

/-- The point and what follows it. -/
def fractionText (n : Numeral) : List Char := if n.fraction = [] then [] else '.' :: n.fraction

def text (n : Numeral) : List Char := n.whole ++ n.fractionText ++ n.exponentText

/-- The grammar of numbers: digits, without a zero in front of others. -/
structure Sound (n : Numeral) : Prop where
  digits : ∀ c ∈ n.whole ++ n.fraction, c.isDigit = true
  whole : n.whole = ['0'] ∨ n.whole ≠ [] ∧ n.whole.head? ≠ some '0'
  exponent : ∀ x ∈ n.exponent, x.2 ≠ [] ∧ ∀ c ∈ x.2, c.isDigit = true

/-- All digits, as a number. -/
def value (n : Numeral) : Nat := Nat.ofDigitChars 10 (n.whole ++ n.fraction) 0

/-- What the exponent part says. -/
def power (n : Numeral) : Option Int :=
  n.exponent.map fun x =>
    if x.1 then -(Nat.ofDigitChars 10 x.2 0 : Int) else Nat.ofDigitChars 10 x.2 0

end Numeral

/-- Reads a number whose sign has been read. -/
def magnitude (negative : Bool) (cs : List Char) : Except ReadError (Number × List Char) := do
  let (value, rest) ← match cs with
    | '0' :: d :: rest => if d.isDigit then .error .malformed else .ok (0, d :: rest)
    | _ =>
      let (value, count, rest) := digits cs 0 0
      if count = 0 then stop rest else .ok (value, rest)
  let ((value, places), rest) ← fractionPart value rest
  let (exponent, rest) ← exponentPart rest
  let n ← numberOf negative value places exponent
  .ok (n, rest)

theorem number_minus (cs : List Char) : number ('-' :: cs) = magnitude true cs := rfl

theorem number_plain {cs : List Char} (h : cs.head? ≠ some '-') :
    number cs = magnitude false cs := by
  unfold number
  split
  case h_1 negative rest unsigned =>
    obtain ⟨rfl, rfl⟩ : negative = false ∧ rest = cs := by
      split at unsigned
      case h_1 => simp at h
      case h_2 => exact ⟨(Prod.mk.inj unsigned).1.symm, (Prod.mk.inj unsigned).2.symm⟩
    rfl

/-- What is read as a number begins with its sign or a digit. -/
theorem head_of_number {cs : List Char} {r : Number × List Char} (h : number cs = .ok r) :
    ∃ c rest, cs = c :: rest ∧ (c = '-' ∨ c.isDigit = true) := by
  cases cs with
  | nil => cases h
  | cons c rest =>
      refine ⟨c, rest, rfl, ?_⟩
      by_contra other
      obtain ⟨minus, digit⟩ := not_or.mp other
      have refused : magnitude false (c :: rest) = .error .malformed := by
        unfold magnitude
        split
        case h_1 head =>
            rw [(List.cons.inj head).1] at digit
            exact absurd rfl digit
        case h_2 =>
            rw [digits, if_neg digit]
            rfl
      rw [number_plain (by simpa using minus), refused] at h
      cases h

/-- Reads what follows the digits before the point. -/
def afterWhole (negative : Bool) (value : Nat) (cs : List Char) :
    Except ReadError (Number × List Char) := do
  let ((value, places), rest) ← fractionPart value cs
  let (exponent, rest) ← exponentPart rest
  let n ← numberOf negative value places exponent
  .ok (n, rest)

section

variable {n : Numeral} {rest : List Char}

theorem Ends.head {c : Char} (h : Ends rest) (hc : c ∈ rest.head?) :
    c.isDigit = false ∧ c ≠ '.' ∧ c ≠ 'e' ∧ c ≠ 'E' := by
  rcases h c hc with rfl | rfl | rfl <;> decide

/-- What follows the digits is no digit. -/
theorem head_exponentText (hr : Ends rest) {c : Char}
    (hc : c ∈ (n.exponentText ++ rest).head?) : c.isDigit = false ∧ c ≠ '.' := by
  unfold Numeral.exponentText at hc
  cases he : n.exponent with
  | none =>
      simp only [he, List.nil_append] at hc
      exact ⟨(hr.head hc).1, (hr.head hc).2.1⟩
  | some x =>
      simp only [he, List.cons_append, List.head?_cons, Option.mem_some_iff] at hc
      obtain rfl := hc
      decide

theorem exponentPart_text (hn : n.Sound) (hr : Ends rest) :
    exponentPart (n.exponentText ++ rest) = .ok (n.power, rest) := by
  unfold Numeral.exponentText Numeral.power
  cases he : n.exponent with
  | none =>
      cases rest with
      | nil => rfl
      | cons c rest =>
          obtain ⟨-, -, small, large⟩ := hr.head (c := c) rfl
          simp [exponentPart, small, large]
  | some x =>
      obtain ⟨negative, ds⟩ := x
      obtain ⟨some, digits⟩ := hn.exponent _ he
      have count : ds.length ≠ 0 := by simpa using some
      have read := digits_append digits (fun c hc => (hr.head hc).1) 0 0
      cases negative <;> simp [exponentPart, read, count]

theorem fractionPart_text (hn : n.Sound) (hr : Ends rest) (acc : Nat) :
    fractionPart acc (n.fractionText ++ (n.exponentText ++ rest)) =
      .ok ((Nat.ofDigitChars 10 n.fraction acc, n.fraction.length), n.exponentText ++ rest) := by
  unfold Numeral.fractionText
  by_cases h : n.fraction = []
  · simp only [h, if_true, List.nil_append, Nat.ofDigitChars_nil, List.length_nil]
    have point : (n.exponentText ++ rest).head? ≠ some '.' := fun hc =>
      (head_exponentText hr hc).2 rfl
    unfold fractionPart
    split
    case h_1 h => simp [h] at point
    case h_2 => rfl
  · have digits (c) (hc : c ∈ n.fraction) := hn.digits c (List.mem_append_right _ hc)
    have read := digits_append digits (fun c hc => (head_exponentText (n := n) hr hc).1) acc 0
    have count : n.fraction.length ≠ 0 := by simpa using h
    simp [h, fractionPart, read]

theorem magnitude_text (hn : n.Sound) (hr : Ends rest) (negative : Bool) :
    magnitude negative (n.whole ++ (n.fractionText ++ (n.exponentText ++ rest))) =
      afterWhole negative (Nat.ofDigitChars 10 n.whole 0)
        (n.fractionText ++ (n.exponentText ++ rest)) := by
  have next : ∀ c ∈ (n.fractionText ++ (n.exponentText ++ rest)).head?, c.isDigit = false := by
    intro c hc
    unfold Numeral.fractionText at hc
    split at hc
    · exact (head_exponentText hr hc).1
    · simp only [List.cons_append, List.head?_cons, Option.mem_some_iff] at hc
      obtain rfl := hc
      decide
  generalize n.fractionText ++ (n.exponentText ++ rest) = tail at next
  have digits (c) (hc : c ∈ n.whole) := hn.digits c (List.mem_append_left _ hc)
  have read := digits_append digits next 0 0
  unfold magnitude
  rcases hn.whole with zero | ⟨some, first⟩
  · rw [zero] at read ⊢
    cases tail with
    | nil => rfl
    | cons d tail =>
        simp only [List.cons_append, List.nil_append, next d rfl, Bool.false_eq_true, if_false]
        rfl
  · have count : 0 + n.whole.length ≠ 0 := by simpa using some
    split
    case h_1 d more h =>
        obtain ⟨c, cs, hc⟩ := List.exists_cons_of_ne_nil some
        rw [hc, List.cons_append] at h
        rw [hc, List.head?_cons, (List.cons.inj h).1] at first
        exact absurd rfl first
    case h_2 =>
        rw [read]
        dsimp only
        rw [if_neg count]
        rfl

theorem Numeral.Sound.exists_cons (hn : n.Sound) :
    ∃ c cs, n.whole = c :: cs ∧ c.isDigit = true := by
  have some : n.whole ≠ [] := by
    rcases hn.whole with zero | ⟨some, -⟩
    · simp [zero]
    · exact some
  obtain ⟨c, cs, hc⟩ := List.exists_cons_of_ne_nil some
  exact ⟨c, cs, hc, hn.digits c (by simp [hc])⟩

/-- **A numeral** is read as the number of its digits and its exponent. -/
theorem number_text (hn : n.Sound) (hr : Ends rest) (negative : Bool) :
    number ((if negative then ['-'] else []) ++ n.text ++ rest) =
      (numberOf negative n.value n.fraction.length n.power).map (·, rest) := by
  have text : n.text ++ rest = n.whole ++ (n.fractionText ++ (n.exponentText ++ rest)) := by
    simp [Numeral.text]
  have parts : afterWhole negative (Nat.ofDigitChars 10 n.whole 0)
        (n.fractionText ++ (n.exponentText ++ rest)) =
      (numberOf negative n.value n.fraction.length n.power).map (·, rest) := by
    simp only [afterWhole, fractionPart_text hn hr, exponentPart_text hn hr, Numeral.value,
      Nat.ofDigitChars_append, bind, Except.bind]
    cases numberOf negative _ _ n.power <;> rfl
  rw [← parts, ← magnitude_text hn hr, List.append_assoc, text]
  cases negative with
  | true => exact number_minus _
  | false =>
      obtain ⟨c, cs, hc, digit⟩ := hn.exists_cons
      refine number_plain ?_
      rw [hc]
      rintro ⟨⟩
      cases digit

end

/-! ### Doubles -/

section

open Decimal (Scientific Layout)
open Float.Model.UnpackedFloat (Sign)

variable {x : Decimal.Dyadic}

/-- Digits that are taken for a double. -/
def floatOf (negative : Bool) (d : Scientific) : Except ReadError Number :=
  let f := d.toFloat
  if f.isInf then .error .malformed else .ok (.float (if negative then -f else f))

/-- Digits are taken for a double, unless they are the digits of an integer. -/
theorem numberOf_eq (negative : Bool) (value places : Nat) (power : Option Int) :
    numberOf negative value places power = floatOf negative ⟨value, power.getD 0 - places⟩ ∨
      power.getD 0 - places = 0 ∧ numberOf negative value places power =
        .ok (.int (if negative then -(value : Int) else value)) := by
  rcases places with _ | places
  · rcases power with _ | power
    · cases negative with
      | true =>
          by_cases wide : value = 0 ∨ Nat.pow 2 63 < value
          · exact .inl (if_pos wide)
          · exact .inr ⟨rfl, if_neg wide⟩
      | false =>
          by_cases fits : value < Nat.pow 2 64
          · exact .inr ⟨rfl, if_pos fits⟩
          · exact .inl (if_neg fits)
    · exact .inl rfl
  · exact .inl rfl

/-- **Digits in the interval of a double** are read as the double, whether they are taken for an
integer or not. -/
theorem numberOf_of_within (hx : x.Normal) {s : Sign} {value places : Nat} {power : Option Int}
    (hv : value ≠ 0) (within : x.Within (Scientific.mk value (power.getD 0 - places)).value) :
    ∃ n, numberOf (s == .negative) value places power = .ok n ∧
      n.toFloat = Double.ofDyadic s x := by
  -- an integer of sixty-four bits is kept as it is and only rounded where a double is asked for
  rcases numberOf_eq (s == .negative) value places power with float | ⟨whole, int⟩
  · rw [float, floatOf, Scientific.toFloat_of_within hx hv within, Double.ofBits_bits hx]
    rw [Double.isInf_ofDyadic hx, if_neg Bool.false_ne_true]
    refine ⟨_, rfl, ?_⟩
    cases s with
    | positive => rfl
    | negative => exact Double.neg_ofDyadic hx _
  · have size : Float.ofNat value = Double.ofDyadic .positive x := by
      refine Double.ofNat_of_within hx hv ?_
      rw [whole, Scientific.value] at within
      simpa using within
    refine ⟨_, int, ?_⟩
    cases s with
    | positive =>
        change Number.toFloat (.int value) = _
        rw [Number.toFloat, if_neg (by omega), Int.natAbs_natCast, size]
    | negative =>
        change Number.toFloat (.int (-(value : Int))) = _
        rw [Number.toFloat, if_pos (by omega), Int.natAbs_neg, Int.natAbs_natCast, size]
        exact Double.neg_ofDyadic hx _

/-- A numeral stands for a decimal. -/
def Numeral.Denotes (m : Numeral) (d : Scientific) : Prop :=
  m.value ≠ 0 ∧
    (Scientific.mk m.value (m.power.getD 0 - m.fraction.length)).value = d.value

/-- Digits that come to the digits of the decimal stand for it, if the exponent is the same. -/
theorem Numeral.denotes_of_eq {m : Numeral} {n : Nat} {k : Int} (hn : n ≠ 0) (hm : m.value = n)
    (hk : m.power.getD 0 - m.fraction.length = k) : m.Denotes ⟨n, k⟩ := by
  rw [Numeral.Denotes, hm, hk]
  exact ⟨hn, rfl⟩

section

variable {n : Nat} {k e : Int}

theorem length_toDigits_pos (n : Nat) : 0 < (Nat.toDigits 10 n).length :=
  List.length_pos_of_ne_nil Nat.toDigits_ne_nil

/-- Small decimals begin with zeros, -/
theorem numeral_below (hn : n ≠ 0) (he : e = k + ((Nat.toDigits 10 n).length - 1 : Nat))
    (below : e < 0) :
    ∃ m : Numeral, m.Sound ∧ m.Denotes ⟨n, k⟩ ∧
      m.text = ('0' :: '.' :: List.replicate (-e - 1).toNat '0') ++ Nat.toDigits 10 n := by
  have pos := length_toDigits_pos n
  refine ⟨⟨['0'], List.replicate (-e - 1).toNat '0' ++ Nat.toDigits 10 n, none⟩,
    ⟨?_, .inl rfl, by simp⟩, Numeral.denotes_of_eq hn ?_ ?_, ?_⟩
  · intro c hc
    simp only [List.cons_append, List.nil_append, List.mem_cons, List.mem_append,
      List.mem_replicate] at hc
    rcases hc with rfl | ⟨-, rfl⟩ | hc
    · rfl
    · rfl
    · exact Digits.isDigit_of_mem hc
  · change Nat.ofDigitChars 10
      (List.replicate ((-e - 1).toNat + 1) '0' ++ Nat.toDigits 10 n) 0 = n
    rw [Nat.ofDigitChars_append, Nat.ofDigitChars_replicate_zero, Nat.mul_zero,
      Nat.ofDigitChars_ten_toDigits]
  · simp [Numeral.power]
    omega
  · simp [Numeral.text, Numeral.fractionText, Numeral.exponentText, Nat.toDigits_ne_nil]

/-- whole ones may end in zeros, -/
theorem numeral_whole (hn : n ≠ 0) (he : e = k + ((Nat.toDigits 10 n).length - 1 : Nat))
    (above : ¬ e < 0) (whole : (Nat.toDigits 10 n).length ≤ e.toNat + 1) :
    ∃ m : Numeral, m.Sound ∧ m.Denotes ⟨n, k⟩ ∧
      m.text = Nat.toDigits 10 n ++
        List.replicate (e.toNat + 1 - (Nat.toDigits 10 n).length) '0' := by
  have pos := length_toDigits_pos n
  obtain ⟨i, hi⟩ := Int.eq_ofNat_of_zero_le (show 0 ≤ k by omega)
  have count : e.toNat + 1 - (Nat.toDigits 10 n).length = i := by omega
  rw [count]
  have value : Nat.ofDigitChars 10 (Nat.toDigits 10 n ++ List.replicate i '0') 0 = 10 ^ i * n := by
    rw [Nat.ofDigitChars_append, Nat.ofDigitChars_replicate_zero, Nat.ofDigitChars_ten_toDigits]
  refine ⟨⟨Nat.toDigits 10 n ++ List.replicate i '0', [], none⟩, ⟨?_, .inr ⟨?_, ?_⟩, by simp⟩,
    ⟨?_, ?_⟩, ?_⟩
  · intro c hc
    simp only [List.append_nil, List.mem_append, List.mem_replicate] at hc
    rcases hc with hc | ⟨-, rfl⟩
    · exact Digits.isDigit_of_mem hc
    · rfl
  · simp [Nat.toDigits_ne_nil]
  · obtain ⟨c, cs, hc⟩ := List.exists_cons_of_ne_nil (Nat.toDigits_ne_nil (n := n) (b := 10))
    have head := Digits.head?_toDigits (Nat.pos_of_ne_zero hn)
    rw [hc] at head ⊢
    simpa using head
  · simp [Numeral.value, value, hn]
  · simp only [Numeral.value, List.append_nil, value, Scientific.value, hi, Numeral.power]
    push_cast
    simp
    ring
  · simp [Numeral.text, Numeral.fractionText, Numeral.exponentText]

/-- and the others have a point between their digits. -/
theorem numeral_fraction (hn : n ≠ 0) (he : e = k + ((Nat.toDigits 10 n).length - 1 : Nat))
    (above : ¬ e < 0) (more : ¬ (Nat.toDigits 10 n).length ≤ e.toNat + 1) :
    ∃ m : Numeral, m.Sound ∧ m.Denotes ⟨n, k⟩ ∧
      m.text = (Nat.toDigits 10 n).take (e.toNat + 1) ++
        '.' :: (Nat.toDigits 10 n).drop (e.toNat + 1) := by
  have head := Digits.head?_toDigits (Nat.pos_of_ne_zero hn)
  refine ⟨⟨(Nat.toDigits 10 n).take (e.toNat + 1), (Nat.toDigits 10 n).drop (e.toNat + 1), none⟩,
    ⟨?_, .inr ⟨?_, ?_⟩, by simp⟩, Numeral.denotes_of_eq hn ?_ ?_, ?_⟩
  · intro c hc
    rw [List.take_append_drop] at hc
    exact Digits.isDigit_of_mem hc
  · simp [Nat.toDigits_ne_nil]
  · rwa [List.head?_take, if_neg (by omega)]
  · rw [Numeral.value, List.take_append_drop, Nat.ofDigitChars_ten_toDigits]
  · simp [Numeral.power]
    omega
  · have some : (Nat.toDigits 10 n).drop (e.toNat + 1) ≠ [] := by
      rw [Ne, List.drop_eq_nil_iff]
      exact more
    simp [Numeral.text, Numeral.fractionText, Numeral.exponentText, some]

/-- A decimal that is far from one has an exponent. -/
theorem numeral_exponent (hn : n ≠ 0) (he : e = k + ((Nat.toDigits 10 n).length - 1 : Nat))
    {d : Char} {ds : List Char} (hd : Nat.toDigits 10 n = d :: ds) :
    ∃ m : Numeral, m.Sound ∧ m.Denotes ⟨n, k⟩ ∧
      m.text = d :: ((if ds = [] then [] else '.' :: ds) ++
        'e' :: (if e < 0 then '-' else '+') :: Nat.toDigits 10 e.natAbs) := by
  have head := Digits.head?_toDigits (Nat.pos_of_ne_zero hn)
  have value : Nat.ofDigitChars 10 (d :: ds) 0 = n := by
    rw [← hd, Nat.ofDigitChars_ten_toDigits]
  have power : (if decide (e < 0) = true then -(e.natAbs : Int) else e.natAbs) = e := by
    split <;> rename_i h <;> simp at h <;> omega
  rw [hd] at he head
  refine ⟨⟨[d], ds, some (e < 0, Nat.toDigits 10 e.natAbs)⟩,
    ⟨?_, .inr ⟨by simp, by simpa using head⟩, ?_⟩, Numeral.denotes_of_eq hn value ?_, ?_⟩
  · intro c hc
    exact Digits.isDigit_of_mem (n := n) (hd ▸ hc)
  · rintro x ⟨⟩
    exact ⟨Nat.toDigits_ne_nil, fun c hc => Digits.isDigit_of_mem hc⟩
  · simp only [Numeral.power, Option.map_some, Option.getD_some, Nat.ofDigitChars_ten_toDigits,
      power]
    simp only [List.length_cons] at he
    omega
  · simp [Numeral.text, Numeral.fractionText, Numeral.exponentText]

theorem toList_zeros (n : Nat) : (Decimal.zeros n).toList = List.replicate n '0' := by
  simp [Decimal.zeros]

/-- **A decimal** is written as a numeral that stands for it. -/
theorem exists_numeral (hn : n ≠ 0) (k : Int) :
    ∃ m : Numeral, m.Sound ∧ m.Denotes ⟨n, k⟩ ∧
      m.text = (Layout.script.write ⟨n, k⟩).toList := by
  unfold Layout.write
  dsimp only
  rw [if_neg hn]
  generalize he : k + ((Nat.toDigits 10 n).length - 1 : Nat) = e
  unfold Layout.place
  split
  case isTrue positional =>
      split
      case isTrue below =>
          obtain ⟨m, sound, denotes, text⟩ := numeral_below hn he.symm below
          refine ⟨m, sound, denotes, text.trans ?_⟩
          simp [toList_zeros]
      case isFalse above =>
          dsimp only
          split
          case isTrue whole =>
              obtain ⟨m, sound, denotes, text⟩ := numeral_whole hn he.symm above whole
              refine ⟨m, sound, denotes, text.trans ?_⟩
              simp [toList_zeros, Layout.script]
          case isFalse more =>
              obtain ⟨m, sound, denotes, text⟩ := numeral_fraction hn he.symm above more
              refine ⟨m, sound, denotes, text.trans ?_⟩
              simp
  case isFalse far =>
      obtain ⟨d, ds, hd⟩ := List.exists_cons_of_ne_nil (Nat.toDigits_ne_nil (n := n) (b := 10))
      obtain ⟨m, sound, denotes, text⟩ := numeral_exponent hn he.symm hd
      refine ⟨m, sound, denotes, text.trans ?_⟩
      have sign : (if e < 0 then "-" else Layout.script.exponentPlus).toList =
          [if e < 0 then '-' else '+'] := by
        split <;> rfl
      rw [hd]
      cases ds with
      | nil => simp [sign, Nat.toList_repr]
      | cons c cs => simp [sign, Nat.toList_repr]

end

/-- The text of a double that is no zero: a sign, and its shortest decimal. -/
theorem toList_numberText {f : Float} (hf : f.isFinite = true) (nonzero : (f == 0) = false)
    (hx : (Double.magnitude f).Normal) :
    (Machine.numberText f).toList = (if Double.sign f == .negative then ['-'] else []) ++
      (Layout.script.write (Double.magnitude f).shortest).toList := by
  have shortest : Decimal.shortest f = (Double.magnitude f).shortest :=
    if_neg (Nat.ne_of_gt hx.pos)
  unfold Machine.numberText
  rw [Double.isNaN_eq_false hf, Double.isInf_eq_false hf, nonzero, Layout.writeFloat, shortest]
  simp only [Bool.false_eq_true, if_false, String.toList_append]
  congr 1
  unfold Double.sign Machine.isNegative
  by_cases h : f.toBits ≥ 0x8000000000000000
  · simp only [h, decide_true, if_true]
    rfl
  · simp only [h, decide_false, Bool.false_eq_true, if_false]
    rfl

/-- **A finite double** is read back from its text. -/
theorem number_numberText {f : Float} (hf : f.isFinite = true) :
    ∃ n : Number, n.toFloat.isFinite = true ∧ (f == n.toFloat) = true ∧
      ∀ rest, Ends rest → number ((Machine.numberText f).toList ++ rest) = .ok (n, rest) := by
  rcases Double.finite_cases hf with ⟨-, zero⟩ | ⟨hx, bits⟩
  -- both zeros are written without a sign, and they are equal
  · have none : (f == 0) = true := Double.beq_zero_of_unpack zero
    have text : Machine.numberText f = "0" := by
      unfold Machine.numberText
      rw [Double.isNaN_eq_false hf, Double.isInf_eq_false hf, none]
      rfl
    refine ⟨.int 0, rfl, none, fun rest hr => ?_⟩
    have sound : Numeral.Sound ⟨['0'], [], Option.none⟩ := ⟨by simp, .inl rfl, by simp⟩
    rw [text]
    exact number_text sound hr false
  · have same := Double.eq_ofDyadic hx bits
    have nonzero : (f == 0) = false := by
      rw [same]
      exact Double.beq_zero_ofDyadic hx _
    obtain ⟨within, some⟩ := Decimal.Dyadic.within_shortest hx
    obtain ⟨m, sound, ⟨hm, denotes⟩, written⟩ :=
      exists_numeral some (Double.magnitude f).shortest.exponent
    obtain ⟨n, read, value⟩ := numberOf_of_within hx (s := Double.sign f) hm (denotes ▸ within)
    rw [← same] at value
    refine ⟨n, value ▸ hf, ?_, fun rest hr => ?_⟩
    · rw [value, same]
      exact Double.beq_self_ofDyadic hx _
    · rw [toList_numberText hf nonzero hx, ← written, number_text sound hr, read]
      rfl

end

end Json

end PatchSandbox
