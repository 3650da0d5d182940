import Mathlib.Data.List.Basic
import PatchSandbox.Proofs.Text.Digits
import PatchSandbox.Proofs.Toml.Table
import PatchSandbox.Toml.Reader

/-!
# Documents of numbers

* A plain document has three sorts of lines: empty ones, headers, and lines that give a key a
  number. The parts of its keys are written without quotes. **`read_lines`** says that it is read as
  the statements of its lines, in their order.
* A document that gives numbers to keys, at its top and in sections, describes the table with these
  keys, in whichever order they come: **`Document.ofStatements_eq`**. The plain lines that write it
  down are read as this table: **`Document.read_text`**.
-/

/-! ### Plain lines -/

namespace PatchSandbox.Toml

/-- What a predicate holds of is taken up to where it does not hold any more. -/
theorem takeWhile_dropWhile_append {p : Char → Bool} {word r : List Char}
    (hw : ∀ c ∈ word, p c = true) (hr : ∀ c ∈ r.head?, p c = false) :
    (word ++ r).takeWhile p = word ∧ (word ++ r).dropWhile p = r := by
  rw [List.takeWhile_append_of_pos hw, List.dropWhile_append_of_pos hw]
  cases r with
  | nil => simp
  | cons c r => simp [hr c rfl]

/-! ### Numbers -/

namespace Scalar

theorem digits_eq_self {cs : List Char} (hn : cs ≠ []) (hd : ∀ c ∈ cs, c.isDigit = true) :
    digits Char.isDigit cs = some cs := by
  induction cs with
  | nil => exact absurd rfl hn
  | cons c cs ih =>
      obtain ⟨hc, hcs⟩ := List.forall_mem_cons.mp hd
      cases cs with
      | nil => simp [digits, hc]
      | cons d cs =>
          have noUnderscore : d ≠ '_' := by
            rintro rfl
            exact absurd (hcs '_' (List.mem_cons_self ..)) (by decide)
          rw [digits.eq_4]
          · simp [hc, ih (List.cons_ne_nil _ _) hcs]
          · simp
          · intro rest h
            exact noUnderscore (List.cons.inj h).1

theorem valueOf_eq {cs : List Char} (hd : ∀ c ∈ cs, c.isDigit = true) :
    valueOf 10 cs = Nat.ofDigitChars 10 cs 0 := by
  unfold valueOf
  rw [Nat.ofDigitChars_eq_foldl]
  refine List.foldl_ext _ _ 0 fun n c hc => ?_
  rw [Digits.hexDigit?_of_isDigit (hd c hc), Nat.mul_comm]
  rfl

theorem hasLeadingZero_toDigits (n : Nat) : hasLeadingZero (Nat.toDigits 10 n) = false := by
  by_cases hn : 0 < n
  · have head := Digits.head?_toDigits hn
    unfold hasLeadingZero
    split
    case h_1 h => simp [h] at head
    case h_2 => rfl
  · obtain rfl : n = 0 := by omega
    decide

/-- A number is read from its digits. -/
theorem read_toDigits (n : Nat) : read (Nat.toDigits 10 n) = some (.integer n) := by
  obtain ⟨c, cs, whole, hc, hcs⟩ := Digits.exists_cons n
  have all : ∀ d ∈ Nat.toDigits 10 n, d.isDigit = true := fun d => Digits.isDigit_of_mem
  have first {d : Char} {ds : List Char} (hd : d.isDigit = false) :
      Nat.toDigits 10 n ≠ d :: ds := by
    intro h
    rw [all d (h ▸ List.mem_cons_self ..)] at hd
    cases hd
  have second {d : Char} {ds : List Char} (hd : d.isDigit = false) :
      Nat.toDigits 10 n ≠ '0' :: d :: ds := by
    intro h
    rw [all d (h ▸ List.mem_cons_of_mem _ (List.mem_cons_self ..))] at hd
    cases hd
  have noSign : sign (Nat.toDigits 10 n) = (false, Nat.toDigits 10 n) := by
    unfold sign
    split
    case h_1 h => exact absurd h (first (by decide))
    case h_2 h => exact absurd h (first (by decide))
    case h_3 => rfl
  have decimal : anyInteger (Nat.toDigits 10 n) = integer (Nat.toDigits 10 n) := by
    unfold anyInteger
    split
    case h_1 h => exact absurd h (second (by decide))
    case h_2 h => exact absurd h (second (by decide))
    case h_3 h => exact absurd h (second (by decide))
    case h_4 => rfl
  have value : integer (Nat.toDigits 10 n) = some (n : Int) := by
    simp [integer, noSign, digits_eq_self Nat.toDigits_ne_nil all, valueOf_eq all,
      Nat.ofDigitChars_ten_toDigits, hasLeadingZero_toDigits]
  have notTrue : Nat.toDigits 10 n ≠ "true".toList := first (by decide)
  have notFalse : Nat.toDigits 10 n ≠ "false".toList := first (by decide)
  unfold read
  rw [if_neg notTrue, if_neg notFalse, decimal, value]

theorem isWordChar_of_isDigit {c : Char} (h : c.isDigit = true) : isWordChar c = true := by
  simp [isWordChar, Char.isAlphanum, h]

/-- A number is a word up to the end of its line. -/
theorem takeWord_toDigits (n : Nat) (rest : List Char) :
    takeWord (Nat.toDigits 10 n ++ '\n' :: rest) = (Nat.toDigits 10 n, '\n' :: rest) := by
  obtain ⟨taken, dropped⟩ := takeWhile_dropWhile_append (p := isWordChar) (r := '\n' :: rest)
    (fun c hc => isWordChar_of_isDigit (Digits.isDigit_of_mem (n := n) hc)) (by rintro c ⟨⟩; decide)
  unfold takeWord
  simp only [taken, dropped]
  split
  case h_1 h => cases h
  case h_2 => rfl

end Scalar

namespace Reader

theorem value_toDigits (n depth k : Nat) (rest : List Char) :
    value (k + 1) depth (Nat.toDigits 10 n ++ '\n' :: rest) = some (.integer n, '\n' :: rest) := by
  obtain ⟨c, cs, whole, hc, -⟩ := Digits.exists_cons n
  have word := Scalar.takeWord_toDigits n rest
  have scalar := Scalar.read_toDigits n
  rw [whole] at word scalar ⊢
  have other {d : Char} (hd : d.isDigit = false) : c ≠ d := by
    rintro rfl
    rw [hc] at hd
    cases hd
  rw [List.cons_append] at word ⊢
  rw [value.eq_4]
  · rw [if_neg (by simp [other]), word]
    simp [scalar]
  all_goals
    intro h
    exact other (by decide) h

/-! ### Keys -/

/-- A part of a key that needs no quotes. -/
def IsBareKey (key : String) : Prop := key ≠ "" ∧ ∀ c ∈ key.toList, isBare c = true

/-- A key of such parts. -/
def IsBarePath (path : Path) : Prop := path ≠ [] ∧ ∀ part ∈ path, IsBareKey part

-- The characters of a key are gone through, and not all characters that there are.
instance (key : String) : Decidable (IsBareKey key) :=
  decidable_of_iff (key ≠ "" ∧ key.toList.all isBare = true)
    (and_congr Iff.rfl List.all_eq_true)

instance (path : Path) : Decidable (IsBarePath path) :=
  decidable_of_iff (path ≠ [] ∧ path.all (fun part => decide (IsBareKey part)) = true)
    (and_congr Iff.rfl (by simp))

/-- The text of a key. -/
def keyText : Path → List Char
  | [] => []
  | [part] => part.toList
  | part :: path => part.toList ++ '.' :: keyText path

theorem ne_of_isBare {c d : Char} (hc : isBare c = true) (hd : isBare d = false) : c ≠ d := by
  rintro rfl
  rw [hc] at hd
  cases hd

/-- A bare key begins with one of its characters. -/
theorem IsBareKey.exists_cons {key : String} (h : IsBareKey key) :
    ∃ c cs, key.toList = c :: cs ∧ isBare c = true := by
  obtain ⟨c, cs, hc⟩ := List.exists_cons_of_ne_nil fun hn => h.1 (String.toList_eq_nil_iff.mp hn)
  exact ⟨c, cs, hc, h.2 c (hc ▸ List.mem_cons_self ..)⟩

theorem keyText_cons {part : String} {path : Path} (hp : path ≠ []) :
    keyText (part :: path) = part.toList ++ '.' :: keyText path :=
  keyText.eq_3 part path hp

theorem IsBarePath.exists_cons {path : Path} (h : IsBarePath path) :
    ∃ c cs, keyText path = c :: cs ∧ isBare c = true := by
  obtain ⟨hn, hb⟩ := h
  cases path with
  | nil => exact absurd rfl hn
  | cons part path =>
      obtain ⟨c, cs, hc, bare⟩ := (hb part (List.mem_cons_self ..)).exists_cons
      cases path with
      | nil => exact ⟨c, cs, hc, bare⟩
      | cons next path => exact ⟨c, _, by rw [keyText_cons (by simp), hc]; rfl, bare⟩

theorem length_le_keyText {path : Path} (h : ∀ part ∈ path, IsBareKey part) :
    path.length ≤ (keyText path).length := by
  induction path with
  | nil => exact Nat.le_refl 0
  | cons part path ih =>
      obtain ⟨c, cs, hc, -⟩ := (h part (List.mem_cons_self ..)).exists_cons
      have rest := ih fun p hp => h p (List.mem_cons_of_mem _ hp)
      cases path with
      | nil => simp [keyText, hc]
      | cons next path =>
          rw [keyText_cons (by simp), hc]
          simp only [List.length_cons, List.length_append] at rest ⊢
          omega

theorem skipBlanks_of_isBare {c : Char} (hc : isBare c = true) (cs : List Char) :
    skipBlanks (c :: cs) = c :: cs := by
  have blank : c ≠ ' ' := ne_of_isBare hc (by decide)
  have tab : c ≠ '\t' := ne_of_isBare hc (by decide)
  simp [skipBlanks, blank, tab]

theorem keyPart_bare {part : String} (hp : IsBareKey part) {rest : List Char}
    (hr : ∀ c ∈ rest.head?, isBare c = false) :
    keyPart (part.toList ++ rest) = some (part, rest) := by
  obtain ⟨c, cs, hc, bare⟩ := hp.exists_cons
  obtain ⟨taken, dropped⟩ := takeWhile_dropWhile_append hp.2 hr
  unfold keyPart
  split
  case h_1 h =>
      rw [hc] at h
      exact absurd (List.cons.inj h).1 (ne_of_isBare bare (by decide))
  case h_2 h =>
      rw [hc] at h
      exact absurd (List.cons.inj h).1 (ne_of_isBare bare (by decide))
  case h_3 =>
      simp only [taken, dropped]
      simp [hp.1]

/-- **A bare key** is read, with the blanks behind it. -/
theorem key_bare {path : Path} (hp : IsBarePath path) {r : List Char}
    (hr : ∀ c ∈ r.head?, isBare c = false) (dot : (skipBlanks r).head? ≠ some '.') {n : Nat}
    (hn : path.length ≤ n) : key n (keyText path ++ r) = some (path, skipBlanks r) := by
  induction path generalizing n with
  | nil => exact absurd rfl hp.1
  | cons part path ih =>
      have bare := hp.2 part (List.mem_cons_self ..)
      obtain ⟨c, cs, hc, first⟩ := bare.exists_cons
      have blanks (more : List Char) : skipBlanks (part.toList ++ more) = part.toList ++ more := by
        rw [hc]
        exact skipBlanks_of_isBare first _
      obtain ⟨n, rfl⟩ : ∃ m, n = m + 1 := ⟨n - 1, by simp at hn; omega⟩
      cases path with
      | nil =>
          have last : key (n + 1) (part.toList ++ r) = some ([part], skipBlanks r) := by
            rw [key, blanks, keyPart_bare bare hr]
            simp only [bind, Option.bind]
            split
            case h_1 h => simp [h] at dot
            case h_2 => rfl
          exact last
      | cons next path =>
          have more := ih ⟨by simp, fun p hp' => hp.2 p (List.mem_cons_of_mem _ hp')⟩
            (n := n) (by simpa using hn)
          have dots : skipBlanks ('.' :: (keyText (next :: path) ++ r)) =
              '.' :: (keyText (next :: path) ++ r) := rfl
          rw [keyText_cons (by simp), List.append_assoc, List.cons_append, key, blanks,
            keyPart_bare bare (by rintro c ⟨⟩; decide)]
          simp [dots, more]

/-! ### Lines -/

/-- A line of a plain document. -/
inductive Line where
  | blank
  | header (path : Path)
  | number (path : Path) (n : Nat)

namespace Line

/-- The text of a line. -/
def text : Line → List Char
  | blank => ['\n']
  | header path => '[' :: keyText path ++ [']', '\n']
  | number path n => keyText path ++ [' ', '=', ' '] ++ Nat.toDigits 10 n ++ ['\n']

/-- What a line states. -/
def statement? : Line → Option Statement
  | blank => none
  | header path => some (.header path)
  | number path n => some (.assign path (.integer n))

/-- Whether the key of a line, if it has one, needs no quotes. -/
def IsPlain : Line → Prop
  | blank => True
  | header path => IsBarePath path
  | number path _ => IsBarePath path

instance : (l : Line) → Decidable l.IsPlain
  | blank => inferInstanceAs (Decidable True)
  | header path => inferInstanceAs (Decidable (IsBarePath path))
  | number path _ => inferInstanceAs (Decidable (IsBarePath path))

end Line

theorem skipLines_of_isBare {c : Char} (hc : isBare c = true) (cs : List Char) (n : Nat) :
    skipLines (n + 1) (c :: cs) = some (c :: cs) := by
  have noComment : comment (c :: cs) = some (c :: cs) := by
    rw [comment.eq_2]
    intro rest h
    exact ne_of_isBare hc (by decide) (List.cons.inj h).1
  rw [skipLines, skipBlanks_of_isBare hc, noComment]
  simp only [bind, Option.bind]
  have noBreak : Quoted.lineBreak? (c :: cs) = none := by
    rw [Quoted.lineBreak?.eq_3]
    · exact fun rest h => ne_of_isBare hc (by decide) (List.cons.inj h).1
    · exact fun rest h => ne_of_isBare hc (by decide) (List.cons.inj h).1
  simp [noBreak]

theorem lineEnd_break (rest : List Char) : lineEnd ('\n' :: rest) = some rest := by
  simp [lineEnd, skipBlanks, comment, Quoted.lineBreak?]

theorem statement_header {path : Path} (hp : IsBarePath path) (rest : List Char) :
    statement ('[' :: (keyText path ++ ']' :: '\n' :: rest)) =
      some (.header path, '\n' :: rest) := by
  obtain ⟨c, cs, hc, bare⟩ := hp.exists_cons
  have read := key_bare hp (r := ']' :: '\n' :: rest) (by rintro c ⟨⟩; decide)
    (by simp [skipBlanks])
    (n := (keyText path ++ ']' :: '\n' :: rest).length + 1) (by
      have := length_le_keyText hp.2
      simp
      omega)
  have bracket : skipBlanks (']' :: '\n' :: rest) = ']' :: '\n' :: rest := rfl
  rw [bracket] at read
  rw [statement.eq_2]
  · simp only [read]
  · intro more h
    rw [hc] at h
    exact ne_of_isBare bare (by decide) (List.cons.inj h).1

theorem statement_number {path : Path} (hp : IsBarePath path) (n : Nat) (rest : List Char) :
    statement (keyText path ++ ' ' :: '=' :: ' ' :: (Nat.toDigits 10 n ++ '\n' :: rest)) =
      some (.assign path (.integer n), '\n' :: rest) := by
  obtain ⟨c, cs, hc, bare⟩ := hp.exists_cons
  obtain ⟨d, ds, hd, digit, -⟩ := Digits.exists_cons n
  have equals : skipBlanks (' ' :: '=' :: ' ' :: (Nat.toDigits 10 n ++ '\n' :: rest)) =
      '=' :: ' ' :: (Nat.toDigits 10 n ++ '\n' :: rest) := rfl
  have read := key_bare hp (r := ' ' :: '=' :: ' ' :: (Nat.toDigits 10 n ++ '\n' :: rest))
    (by rintro c ⟨⟩; decide) (by simp [equals])
    (n := (keyText path ++ ' ' :: '=' :: ' ' :: (Nat.toDigits 10 n ++ '\n' :: rest)).length + 1) (by
      have := length_le_keyText hp.2
      rw [List.length_append]
      omega)
  have blank : skipBlanks (' ' :: (Nat.toDigits 10 n ++ '\n' :: rest)) =
      Nat.toDigits 10 n ++ '\n' :: rest := by
    have notBlank : d ≠ ' ' ∧ d ≠ '\t' := by
      constructor <;> rintro rfl <;> exact absurd digit (by decide)
    simp [skipBlanks, hd, notBlank]
  rw [equals] at read
  rw [statement.eq_3]
  · rw [read]
    simp only [blank, value_toDigits]
  · intro more h
    rw [hc] at h
    exact ne_of_isBare bare (by decide) (List.cons.inj h).1
  · intro more h
    rw [hc] at h
    exact ne_of_isBare bare (by decide) (List.cons.inj h).1

/-- **Plain lines** are read as what they state. -/
theorem statements_lines {lines : List Line} (h : ∀ l ∈ lines, l.IsPlain) {n : Nat}
    (hn : lines.length < n) :
    statements n (lines.flatMap Line.text) = some (lines.filterMap Line.statement?) := by
  induction lines generalizing n with
  | nil =>
      obtain ⟨n, rfl⟩ : ∃ m, n = m + 1 := ⟨n - 1, by simp at hn; omega⟩
      rfl
  | cons line lines ih =>
      obtain ⟨plain, rest⟩ := List.forall_mem_cons.mp h
      obtain ⟨n, rfl⟩ : ∃ m, n = m + 1 := ⟨n - 1, by simp at hn; omega⟩
      have less : lines.length < n := by simpa using hn
      rw [List.flatMap_cons]
      cases line with
      | blank =>
          have same (cs : List Char) : statements (n + 1) ('\n' :: cs) = statements (n + 1) cs := by
            rw [statements, statements]
            rfl
          exact (same _).trans (ih rest (Nat.lt_succ_of_lt less))
      | header path =>
          have first (cs : List Char) (k : Nat) :
              skipLines (k + 1) ('[' :: cs) = some ('[' :: cs) := rfl
          have text : (Line.header path).text ++ lines.flatMap Line.text =
              '[' :: (keyText path ++ ']' :: '\n' :: lines.flatMap Line.text) := by
            simp [Line.text]
          rw [text, statements, first]
          simp only [statement_header plain, lineEnd_break, ih rest less]
          rfl
      | number path k =>
          have text : (Line.number path k).text ++ lines.flatMap Line.text = keyText path ++
              ' ' :: '=' :: ' ' :: (Nat.toDigits 10 k ++ '\n' :: lines.flatMap Line.text) := by
            simp [Line.text]
          obtain ⟨c, cs, hc, bare⟩ := plain.exists_cons
          have read := statement_number plain k (lines.flatMap Line.text)
          rw [text, statements]
          rw [hc, List.cons_append] at read ⊢
          rw [skipLines_of_isBare bare]
          simp only [read, lineEnd_break, ih rest less]
          rfl

/-- A line has characters, and does not begin with a byte order mark. -/
theorem Line.exists_cons {line : Line} (h : line.IsPlain) :
    ∃ c cs, line.text = c :: cs ∧ c ≠ '\uFEFF' := by
  cases line with
  | blank => exact ⟨_, _, rfl, by decide⟩
  | header path => exact ⟨_, _, rfl, by decide⟩
  | number path n =>
      obtain ⟨c, cs, hc, bare⟩ := IsBarePath.exists_cons h
      exact ⟨c, _, by rw [Line.text, hc]; rfl, ne_of_isBare bare (by decide)⟩

theorem length_le_lines {lines : List Line} (h : ∀ l ∈ lines, l.IsPlain) :
    lines.length ≤ (lines.flatMap Line.text).length := by
  induction lines with
  | nil => exact Nat.le_refl 0
  | cons line lines ih =>
      obtain ⟨plain, rest⟩ := List.forall_mem_cons.mp h
      obtain ⟨c, cs, hc, -⟩ := Line.exists_cons plain
      have := ih rest
      simp only [List.flatMap_cons, hc, List.length_append, List.length_cons]
      omega

end Reader

open Reader in
/-- **A plain document** is read as the table that its lines describe. -/
theorem Table.read_lines {lines : List Line} (h : ∀ l ∈ lines, l.IsPlain) {text : String}
    (ht : text.toList = lines.flatMap Line.text) :
    Table.read text = Table.ofStatements (lines.filterMap Line.statement?) := by
  have noMark (cs : List Char) : text.toList ≠ '\uFEFF' :: cs := by
    intro hm
    cases lines with
    | nil => simp [hm] at ht
    | cons line lines =>
        obtain ⟨c, cs, hc, other⟩ := Line.exists_cons (h line (List.mem_cons_self ..))
        rw [hm, List.flatMap_cons, hc] at ht
        exact other (List.cons.inj ht).1.symm
  unfold Table.read
  split
  case h_1 cs hm => exact absurd hm (noMark cs)
  case h_2 =>
      simp only [ht, statements_lines h (Nat.lt_succ_of_le (length_le_lines h)), Option.bind_some]

/-! ### Documents -/

/-- Keys with numbers. -/
abbrev Numbers := List (String × Nat)

namespace Numbers

/-- The table of some numbers. -/
def table (es : Numbers) : Table := es.map fun e => (e.1, .integer e.2)

/-- What gives the numbers to their keys. -/
def statements (es : Numbers) : List Statement := es.map fun e => .assign [e.1] (.integer e.2)

theorem keys_table (es : Numbers) : es.table.map (·.1) = es.map (·.1) := by
  simp [table, Function.comp_def]

theorem find?_table (es : Numbers) (key : String) :
    Table.find? es.table key = (es.lookup key).map fun n => Value.integer n := by
  induction es with
  | nil => rfl
  | cons e es ih =>
      rw [table, List.map_cons, ← table, Table.find?, List.lookup_cons, List.lookup_cons]
      split
      · rfl
      · exact ih

end Numbers

namespace Table

variable {t : Table} {key : String}

theorem find?_of_not_mem (h : key ∉ t.map (·.1)) : t.find? key = none := by
  rw [find?, List.lookup_eq_none_iff]
  intro e he
  simpa using fun hk : key = e.1 => h (hk ▸ List.mem_map_of_mem he)

theorem put_append_of_not_mem (h : key ∉ t.map (·.1)) (u : Table) (v : Value) :
    Table.put (t ++ u) key v = t ++ Table.put u key v := by
  induction t with
  | nil => rfl
  | cons e t ih =>
      obtain ⟨k, old⟩ := e
      have other : k ≠ key := fun hk => h (hk ▸ List.mem_cons_self ..)
      rw [List.cons_append, put, if_neg other, ih fun hm => h (List.mem_cons_of_mem _ hm)]
      rfl

theorem put_of_not_mem (h : key ∉ t.map (·.1)) (v : Value) : t.put key v = t ++ [(key, v)] := by
  simpa [put] using put_append_of_not_mem h [] v

theorem find?_append_self (h : key ∉ t.map (·.1)) (v : Value) :
    Table.find? (t ++ [(key, v)]) key = some v := by
  have none := find?_of_not_mem h
  rw [find?] at none ⊢
  rw [List.lookup_append, none]
  simp

/-- New keys are added at the top of a document. -/
theorem extend_numbers {es : Numbers} (nodup : (t.map (·.1) ++ es.map (·.1)).Nodup)
    (rest : List Statement) :
    extend (es.statements ++ rest) [] t = extend rest [] (t ++ es.table) := by
  induction es generalizing t with
  | nil => simp [Numbers.statements, Numbers.table]
  | cons e es ih =>
      have new : e.1 ∉ t.map (·.1) := fun hm =>
        (List.nodup_append.mp nodup).2.2 _ hm _ (List.mem_cons_self ..) rfl
      have step : (Statement.assign [e.1] (.integer e.2)).apply [] t =
          some (t ++ [(e.1, .integer e.2)]) := by
        simp [Statement.apply, inside, assign, find?_of_not_mem new, put_of_not_mem new]
      have more := ih (t := t ++ [(e.1, .integer e.2)]) (by simpa using nodup)
      simp only [Numbers.statements, List.map_cons, List.cons_append, extend, step] at more ⊢
      simp only [Option.bind_some, Statement.here, more]
      simp [Numbers.table]

/-- New keys are added to the section that is open. -/
theorem extend_section {name : String} (new : name ∉ t.map (·.1)) {b es : Numbers}
    (nodup : (b.map (·.1) ++ es.map (·.1)).Nodup) (rest : List Statement) :
    extend (es.statements ++ rest) [name] (t ++ [(name, .table .opened b.table)]) =
      extend rest [name] (t ++ [(name, .table .opened (b ++ es).table)]) := by
  induction es generalizing b with
  | nil => simp [Numbers.statements]
  | cons e es ih =>
      have other : e.1 ∉ b.table.map (·.1) := by
        rw [Numbers.keys_table]
        exact fun hm => (List.nodup_append.mp nodup).2.2 _ hm _ (List.mem_cons_self ..) rfl
      have step : (Statement.assign [e.1] (.integer e.2)).apply [name]
          (t ++ [(name, .table .opened b.table)]) =
          some (t ++ [(name, .table .opened (b ++ [e]).table)]) := by
        simp only [Statement.apply, inside, find?_append_self new, assign,
          find?_of_not_mem other, put_of_not_mem other, Option.map_some,
          put_append_of_not_mem new]
        simp [put, Numbers.table]
      have more := ih (b := b ++ [e]) (by simpa using nodup)
      simp only [Numbers.statements, List.map_cons, List.cons_append, extend, step] at more ⊢
      simp only [Option.bind_some, Statement.here, more]
      simp

/-- A new section is added to a document. -/
theorem extend_header {name : String} (new : name ∉ t.map (·.1)) {es : Numbers}
    (nodup : (es.map (·.1)).Nodup) (here : Path) (rest : List Statement) :
    extend (.header [name] :: es.statements ++ rest) here t =
      extend rest [name] (t ++ [(name, .table .opened es.table)]) := by
  have opened : (Statement.header [name]).apply here t =
      some (t ++ [(name, .table .opened [])]) := by
    simp [Statement.apply, inside, openTable, find?_of_not_mem new, put_of_not_mem new]
  have filled := extend_section new (b := []) (by simpa using nodup) rest
  rw [List.cons_append, extend, opened]
  exact filled

end Table

/-- A document that gives numbers to keys, at its top and in sections. -/
structure Document where
  top : Numbers
  sections : List (String × Numbers)

namespace Document

/-- Neither the document nor a section of it has a key twice. -/
structure Distinct (d : Document) : Prop where
  keys : (d.top.map (·.1) ++ d.sections.map (·.1)).Nodup
  inner : ∀ s ∈ d.sections, (s.2.map (·.1)).Nodup

/-- The table that a document describes. -/
def table (d : Document) : Table :=
  d.top.table ++ d.sections.map fun s => (s.1, .table .opened s.2.table)

/-- The statements of a document. -/
def statements (d : Document) : List Statement :=
  d.top.statements ++ d.sections.flatMap fun s => .header [s.1] :: s.2.statements

theorem extend_sections {sections : List (String × Numbers)} {t : Table} (here : Path)
    (keys : (t.map (·.1) ++ sections.map (·.1)).Nodup)
    (inner : ∀ s ∈ sections, (s.2.map (·.1)).Nodup) :
    Table.extend (sections.flatMap fun s => .header [s.1] :: s.2.statements) here t =
      some (t ++ sections.map fun s => (s.1, .table .opened s.2.table)) := by
  induction sections generalizing t here with
  | nil => simp [Table.extend]
  | cons s sections ih =>
      obtain ⟨first, rest⟩ := List.forall_mem_cons.mp inner
      have new : s.1 ∉ t.map (·.1) := fun hm =>
        (List.nodup_append.mp keys).2.2 _ hm _ (List.mem_cons_self ..) rfl
      have more := ih (t := t ++ [(s.1, Value.table .opened s.2.table)]) [s.1] (by simpa using keys)
        rest
      rw [List.flatMap_cons, Table.extend_header new first, more]
      simp

/-- **A document of numbers** describes the table with its keys, whatever their order. -/
theorem ofStatements_eq {d : Document} (h : d.Distinct) :
    Table.ofStatements d.statements = some d.table := by
  rw [Table.ofStatements, statements,
    Table.extend_numbers (by simpa using (List.nodup_append.mp h.keys).1),
    List.nil_append, extend_sections [] (by rw [Numbers.keys_table]; exact h.keys) h.inner]
  rfl

/-- **Plain lines** of a document, with empty ones anywhere between them, are read as its table. -/
theorem read_text {d : Document} (h : d.Distinct) (lines : List Reader.Line)
    (plain : ∀ l ∈ lines, l.IsPlain)
    (states : lines.filterMap Reader.Line.statement? = d.statements)
    {text : String} (ht : text.toList = lines.flatMap Reader.Line.text) :
    Table.read text = some d.table := by
  rw [Table.read_lines plain ht, states, ofStatements_eq h]

/-- What a document gives to a key: a number at its top, or a section. -/
theorem find?_table (d : Document) (key : String) :
    d.table.find? key = ((d.top.lookup key).map fun n => Value.integer n).or
      ((d.sections.lookup key).map fun es => Value.table .opened es.table) := by
  have sections (all : List (String × Numbers)) :
      (all.map fun s => (s.1, Value.table .opened s.2.table)).lookup key =
        (all.lookup key).map fun es => Value.table .opened es.table := by
    induction all with
    | nil => rfl
    | cons s all ih =>
        rw [List.map_cons, List.lookup_cons, List.lookup_cons, ih]
        split <;> rfl
  have top := d.top.find?_table key
  rw [Table.find?] at top ⊢
  rw [table, List.lookup_append, top, sections]

/-! ### What can be held -/

theorem holdable_integer_iff {i : Int} :
    (Value.integer i).Holdable ↔ -2 ^ 127 ≤ i ∧ i < 2 ^ 128 :=
  ⟨fun h => by cases h with | integer low high => exact ⟨low, high⟩, fun h => .integer h.1 h.2⟩

theorem holdable_table_iff {origin : Origin} {t : Table} :
    (Value.table origin t).Holdable ↔ t.Holdable :=
  ⟨fun h => by cases h with | table h => exact h, .table⟩

theorem holdable_numbers_iff {es : Numbers} : es.table.Holdable ↔ ∀ e ∈ es, e.2 < 2 ^ 128 := by
  simp only [Numbers.table, Table.Holdable, List.forall_mem_map, holdable_integer_iff]
  exact forall₂_congr fun e _ => by omega

/-- A document of numbers can be held if all of them can. -/
theorem holdable_iff {d : Document} :
    d.table.Holdable ↔
      (∀ e ∈ d.top, e.2 < 2 ^ 128) ∧ ∀ s ∈ d.sections, ∀ e ∈ s.2, e.2 < 2 ^ 128 := by
  rw [← holdable_numbers_iff]
  simp only [table, Table.Holdable, List.forall_mem_append, List.forall_mem_map]
  refine and_congr Iff.rfl (forall₂_congr fun s _ => ?_)
  exact holdable_table_iff.trans holdable_numbers_iff

end Document

end PatchSandbox.Toml
