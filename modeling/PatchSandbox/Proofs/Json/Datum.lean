import PatchSandbox.Proofs.Json.Numeral
import PatchSandbox.Proofs.Json.Quoted

/-!
# Plain data

Plain data have a JSON text that depends on nothing but the data.

* **`Datum.text`** is this text. Numbers that are not finite and items that have no text are written
  as `null`, fields that have none are left out, and in a text a surrogate that stands alone is an
  escape.
* **`Datum.json?`** is what the text is read as. It is refused if a surrogate stands alone
  somewhere.
* **`Json.Reads`** says of some characters what they are read as, whatever follows them. Arrays and
  objects are put together from what has been shown of their parts (**`Json.reads_array`**,
  **`Json.reads_object`**).
* **`Datum.parse_text`** says that data that are not nested too deep are read as they should be.
-/

namespace PatchSandbox

open Text (CodeUnits)

/-- Plain data, as scripts make them: nothing of the script runs when their JSON text is made. -/
inductive Datum where
  | null
  /-- What has no JSON text: `undefined`, a function, a symbol. -/
  | absent
  | bool (value : Bool)
  | number (value : Float)
  | string (units : CodeUnits)
  | array (items : List Datum)
  /-- The fields that are listed of an object, in the order in which they are. -/
  | object (fields : List (CodeUnits × Datum))

namespace Datum

/-- Whether there is no JSON text. -/
def isAbsent : Datum → Bool
  | .absent => true
  | _ => false

/-- A quoted text. -/
def quoted (u : CodeUnits) : CodeUnits := ⟨Machine.pushQuoted #[] u⟩

mutual

/-- The JSON text, with `null` for what has none. -/
def text : Datum → CodeUnits
  | .null => "null"
  | .absent => "null"
  | .bool b => if b then "true" else "false"
  | .number x => if x.isFinite then Machine.numberText x else "null"
  | .string u => quoted u
  | .array items => "[" ++ CodeUnits.join "," (itemTexts items) ++ "]"
  | .object fields => "\x7b" ++ CodeUnits.join "," (fieldTexts fields) ++ "\x7d"

/-- The texts of the items of an array. -/
def itemTexts : List Datum → List CodeUnits
  | [] => []
  | d :: rest => text d :: itemTexts rest

/-- The texts of the fields of an object. A field that has no text is left out. -/
def fieldTexts : List (CodeUnits × Datum) → List CodeUnits
  | [] => []
  | (key, d) :: rest =>
    if d.isAbsent then fieldTexts rest else (quoted key ++ ":" ++ text d) :: fieldTexts rest

end

mutual

/-- How deep arrays and objects are nested. -/
def depth : Datum → Nat
  | .array items => itemsDepth items + 1
  | .object fields => fieldsDepth fields + 1
  | _ => 0

/-- How deep they are nested in some items. -/
def itemsDepth : List Datum → Nat
  | [] => 0
  | d :: rest => max (depth d) (itemsDepth rest)

/-- How deep they are nested in some fields. -/
def fieldsDepth : List (CodeUnits × Datum) → Nat
  | [] => 0
  | (_, d) :: rest => max (depth d) (fieldsDepth rest)

end

/-- The number that the text of a double is read as. -/
def numberRead (x : Float) : Number :=
  match Json.number (Machine.numberText x).toList with
  | .ok (n, _) => n
  | .error _ => .int 0

mutual

/-- What the JSON text is read as. -/
def json? : Datum → Option Json
  | .null => some .null
  | .absent => some .null
  | .bool b => some (.bool b)
  | .number x => some (if x.isFinite then .num (numberRead x) else .null)
  | .string u => u.toString?.map .str
  | .array items => (items? items).map .arr
  | .object fields => (fields? fields).map Json.object

/-- What the items of an array are read as. -/
def items? : List Datum → Option (List Json)
  | [] => some []
  | d :: rest => do return (← json? d) :: (← items? rest)

/-- What the fields of an object are read as. -/
def fields? : List (CodeUnits × Datum) → Option (List (String × Json))
  | [] => some []
  | (key, d) :: rest =>
    if d.isAbsent then fields? rest
    else do return (← key.toString?, ← json? d) :: (← fields? rest)

end

end Datum

/-! ### Reading values -/

namespace Json

open Text.CodeUnits (points characters)

/-- A text is read as a value, or as none if it is refused. It takes no more fuel than it has
characters. -/
structure Reads (cs : List Char) (depth : Nat) (j : Option Json) : Prop where
  starts : ∃ c rest, cs = c :: rest ∧ isBlank c = false ∧ c ≠ ']'
  read : ∀ {fuel d : Nat} {rest : List Char}, cs.length ≤ fuel → depth ≤ d → Ends rest →
    (value fuel d (cs ++ rest)).toOption = j.map (·, rest)

theorem Reads.mono {cs : List Char} {n m : Nat} {j : Option Json} (h : Reads cs n j)
    (hm : n ≤ m) : Reads cs m j :=
  ⟨h.starts, fun hf hd hr => h.read hf (Nat.le_trans hm hd) hr⟩

theorem toOption_cases {α : Type} {x : Except ReadError α} {o : Option α} (h : x.toOption = o) :
    (o = none ∧ ∃ e, x = .error e) ∨ ∃ a, o = some a ∧ x = .ok a := by
  cases x with
  | error e => exact .inl ⟨h.symm, e, rfl⟩
  | ok a => exact .inr ⟨a, h.symm, rfl⟩

/-- What comes of reading a text: it is refused, or all of it is read. -/
theorem Reads.cases {cs : List Char} {n : Nat} {j : Option Json} (h : Reads cs n j)
    {fuel d : Nat} {rest : List Char} (hf : cs.length ≤ fuel) (hd : n ≤ d) (hr : Ends rest) :
    (j = none ∧ ∃ e, value fuel d (cs ++ rest) = .error e) ∨
      ∃ v, j = some v ∧ value fuel d (cs ++ rest) = .ok (v, rest) := by
  rcases toOption_cases (h.read hf hd hr) with ⟨none, refused⟩ | ⟨a, hj, read⟩
  · exact .inl ⟨by simpa using none, refused⟩
  · obtain ⟨v, hv, rfl⟩ := Option.map_eq_some_iff.mp hj
    exact .inr ⟨v, hv, read⟩

theorem skipBlanks_cons {c : Char} (hc : isBlank c = false) (cs : List Char) :
    skipBlanks (c :: cs) = c :: cs := by
  rw [skipBlanks, List.dropWhile_cons, hc]
  rfl

theorem reads_null : Reads ['n', 'u', 'l', 'l'] 0 (some .null) := by
  refine ⟨⟨_, _, rfl, rfl, by decide⟩, fun {fuel d rest} hf _ _ => ?_⟩
  obtain ⟨fuel, rfl⟩ := Nat.exists_eq_succ_of_ne_zero (n := fuel) (by simp at hf; omega)
  rfl

theorem reads_bool (b : Bool) :
    Reads (if b then "true" else "false").toList 0 (some (.bool b)) := by
  cases b
  all_goals
    refine ⟨⟨_, _, rfl, rfl, by decide⟩, fun {fuel d rest} hf _ _ => ?_⟩
    obtain ⟨fuel, rfl⟩ := Nat.exists_eq_succ_of_ne_zero (n := fuel) (by simp at hf; omega)
    rfl

/-- A number that is read up to where it ends. -/
theorem reads_number {cs : List Char} {n : Number}
    (hc : ∃ c rest, cs = c :: rest ∧ (c = '-' ∨ c.isDigit = true))
    (h : ∀ rest, Ends rest → number (cs ++ rest) = .ok (n, rest)) : Reads cs 0 (some (.num n)) := by
  obtain ⟨c, cs, rfl, first⟩ := hc
  have other {d : Char} (minus : d ≠ '-') (digit : d.isDigit = false) : c ≠ d := by
    rintro rfl
    rcases first with rfl | first
    · exact minus rfl
    · rw [digit] at first
      cases first
  have blank : isBlank c = false := by
    simp [isBlank, other (d := ' '), other (d := '\n'), other (d := '\r'), other (d := '\t')]
  refine ⟨⟨_, _, rfl, blank, other (by decide) (by decide)⟩, fun {fuel d rest} hf _ hr => ?_⟩
  obtain ⟨fuel, rfl⟩ := Nat.exists_eq_succ_of_ne_zero (n := fuel) (by simp at hf; omega)
  have number := h rest hr
  rw [List.cons_append] at number ⊢
  have read : value (fuel + 1) d (c :: (cs ++ rest)) = .ok (.num n, rest) := by
    rw [value, skipBlanks_cons blank]
    split
    case h_8 head =>
        obtain ⟨rfl, rfl⟩ := List.cons.inj head
        rw [if_pos first, number]
        rfl
    case h_1 head => cases head
    all_goals
      rename_i head
      exact absurd (List.cons.inj head).1 (other (by decide) (by decide))
  rw [read]
  rfl

/-- **A quoted text** is read as the text, unless a surrogate stands alone. -/
theorem reads_string (u : CodeUnits) :
    Reads ('"' :: quotePoints (points u.toList) ++ ['"']) 0 (u.toString?.map .str) := by
  refine ⟨⟨_, _, rfl, rfl, by decide⟩, fun {fuel d rest} hf _ _ => ?_⟩
  obtain ⟨fuel, rfl⟩ := Nat.exists_eq_succ_of_ne_zero (n := fuel) (by simp at hf; omega)
  have read := stringTail_text u rest
  rw [List.append_assoc, List.singleton_append, List.cons_append]
  change (Except.map _
    (stringTail _ "" (quotePoints (points u.toList) ++ '"' :: rest))).toOption = _
  rcases toOption_cases read with ⟨none, e, refused⟩ | ⟨a, some, read⟩
  · rw [refused, Option.map_eq_none_iff.mp none]
    rfl
  · obtain ⟨s, hs, rfl⟩ := Option.map_eq_some_iff.mp some
    rw [read, hs]
    rfl

/-- Texts with commas between them. -/
def commas : List (List Char) → List Char
  | [] => []
  | [cs] => cs
  | cs :: more => cs ++ ',' :: commas more

theorem commas_cons {cs : List Char} {more : List (List Char)} (h : more ≠ []) :
    commas (cs :: more) = cs ++ ',' :: commas more :=
  commas.eq_3 cs more h

theorem ends_comma (rest : List Char) : Ends (',' :: rest) := by
  rintro c ⟨⟩
  exact .inl rfl

theorem ends_bracket (rest : List Char) : Ends (']' :: rest) := by
  rintro c ⟨⟩
  exact .inr (.inl rfl)

theorem ends_brace (rest : List Char) : Ends ('\x7d' :: rest) := by
  rintro c ⟨⟩
  exact .inr (.inr rfl)

/-- **Items** are read one after the other, unless one of them is refused. -/
theorem elements_commas {n : Nat} {ts : List (List Char × Option Json)} (some : ts ≠ [])
    (h : ∀ t ∈ ts, Reads t.1 n t.2) {fuel d : Nat} (acc : List Json) (rest : List Char)
    (hf : (commas (ts.map (·.1))).length < fuel) (hd : n ≤ d) :
    (elements fuel d acc (commas (ts.map (·.1)) ++ ']' :: rest)).toOption =
      (ts.mapM Prod.snd).map fun js => (.arr (acc.reverse ++ js), rest) := by
  -- an item takes one of the fuel and at least one character, so the rest has enough left
  induction ts generalizing fuel acc with
  | nil => exact absurd rfl some
  | cons t ts ih =>
      obtain ⟨fuel, rfl⟩ := Nat.exists_eq_succ_of_ne_zero (Nat.ne_zero_of_lt hf)
      obtain ⟨first, others⟩ := List.forall_mem_cons.mp h
      rw [elements, List.map_cons, List.mapM_cons]
      rw [List.map_cons] at hf
      cases ts with
      | nil =>
          have short : t.1.length ≤ fuel := Nat.le_of_lt_succ hf
          rcases first.cases short hd (ends_bracket rest) with ⟨hj, e, refused⟩ | ⟨v, hj, read⟩
          · rw [List.map_nil, commas, refused, hj]
            rfl
          · rw [List.map_nil, commas, read, hj]
            simp [skipBlanks, isBlank, Except.toOption]
      | cons t' ts =>
          have some : (t' :: ts).map (·.1) ≠ [] := by simp
          rw [commas_cons some, List.length_append, List.length_cons] at hf
          have short : t.1.length ≤ fuel := by omega
          rw [commas_cons some, List.append_assoc, List.cons_append]
          rcases first.cases short hd (ends_comma _) with ⟨hj, e, refused⟩ | ⟨v, hj, read⟩
          · rw [refused, hj]
            rfl
          · rw [read, hj]
            have rest := ih (by simp) others (v :: acc) (show _ < fuel by omega)
            change (elements fuel d (v :: acc)
              (commas ((t' :: ts).map (·.1)) ++ ']' :: _)).toOption = _
            rw [rest]
            cases (t' :: ts).mapM Prod.snd <;> simp

/-- A field of an object: its key, and the text of its value with what it is read as. -/
structure Member where
  key : CodeUnits
  text : List Char
  value? : Option Json

/-- What is written of a field. -/
def Member.chars (m : Member) : List Char :=
  '"' :: (quotePoints (points m.key.toList) ++ '"' :: ':' :: m.text)

/-- What it is read as. -/
def Member.field? (m : Member) : Option (String × Json) := do
  return (← m.key.toString?, ← m.value?)

/-- The first field is read, and then the value. -/
theorem members_cons {m : Member} {n fuel d : Nat} {rest : List Char} (acc : List (String × Json))
    (h : Reads m.text n m.value?) (hf : m.text.length ≤ fuel) (hd : n ≤ d) (hr : Ends rest) :
    (m.field? = none ∧ ∃ e, members (fuel + 1) d acc (m.chars ++ rest) = .error e) ∨
      ∃ f, m.field? = some f ∧ members (fuel + 1) d acc (m.chars ++ rest) =
        match skipBlanks rest with
        | ',' :: rest => members fuel d (f :: acc) rest
        | '\x7d' :: rest => .ok (Json.object (f :: acc).reverse, rest)
        | rest => stop rest := by
  have text : m.chars ++ rest =
      '"' :: (quotePoints (points m.key.toList) ++ '"' :: ':' :: (m.text ++ rest)) := by
    simp [Member.chars]
  have blank : skipBlanks ('"' :: (quotePoints (points m.key.toList) ++
      '"' :: ':' :: (m.text ++ rest))) = _ := skipBlanks_cons rfl _
  have colon : skipBlanks (':' :: (m.text ++ rest)) = _ := skipBlanks_cons rfl _
  rw [text, members, blank, Member.field?]
  rcases toOption_cases (stringTail_text m.key (':' :: (m.text ++ rest))) with
    ⟨none, e, refused⟩ | ⟨a, some, read⟩
  · refine .inl ⟨by rw [Option.map_eq_none_iff.mp none]; rfl, e, ?_⟩
    simp only [refused]
  · obtain ⟨key, hk, rfl⟩ := Option.map_eq_some_iff.mp some
    rw [hk]
    simp only [read, colon]
    rcases h.cases hf hd hr with ⟨hj, e, refused⟩ | ⟨v, hj, read⟩
    · refine .inl ⟨by rw [hj]; rfl, e, ?_⟩
      simp only [refused]
    · refine .inr ⟨(key, v), by rw [hj]; rfl, ?_⟩
      generalize value fuel d (m.text ++ rest) = outcome at read
      subst read
      rfl

/-- **Fields** are read one after the other, unless one of them is refused. -/
theorem members_commas {n : Nat} {ms : List Member} (some : ms ≠ [])
    (h : ∀ m ∈ ms, Reads m.text n m.value?) {fuel d : Nat} (acc : List (String × Json))
    (rest : List Char) (hf : (commas (ms.map Member.chars)).length < fuel) (hd : n ≤ d) :
    (members fuel d acc (commas (ms.map Member.chars) ++ '\x7d' :: rest)).toOption =
      (ms.mapM Member.field?).map fun fs => (Json.object (acc.reverse ++ fs), rest) := by
  induction ms generalizing fuel acc with
  | nil => exact absurd rfl some
  | cons m ms ih =>
      obtain ⟨fuel, rfl⟩ := Nat.exists_eq_succ_of_ne_zero (Nat.ne_zero_of_lt hf)
      obtain ⟨first, others⟩ := List.forall_mem_cons.mp h
      have within : m.text.length ≤ m.chars.length := by
        simp [Member.chars]
        omega
      rw [List.map_cons, List.mapM_cons]
      rw [List.map_cons] at hf
      cases ms with
      | nil =>
          have short : m.chars.length ≤ fuel := Nat.le_of_lt_succ hf
          rcases members_cons acc first (Nat.le_trans within short) hd (ends_brace rest) with
            ⟨hj, e, refused⟩ | ⟨f, hj, read⟩
          · rw [List.map_nil, commas, refused, hj]
            rfl
          · rw [List.map_nil, commas, read, hj]
            simp [skipBlanks, isBlank, Except.toOption]
      | cons m' ms =>
          have some : (m' :: ms).map Member.chars ≠ [] := by simp
          rw [commas_cons some, List.length_append, List.length_cons] at hf
          have short : m.text.length ≤ fuel := by omega
          rw [commas_cons some, List.append_assoc, List.cons_append]
          rcases members_cons acc first short hd (ends_comma _) with
            ⟨hj, e, refused⟩ | ⟨f, hj, read⟩
          · rw [refused, hj]
            rfl
          · have rest := ih (by simp) others (f :: acc) (show _ < fuel by omega)
            rw [read, hj]
            change (members fuel d (f :: acc)
              (commas ((m' :: ms).map Member.chars) ++ '\x7d' :: _)).toOption = _
            rw [rest]
            cases (m' :: ms).mapM Member.field? <;> simp

theorem commas_starts {cs : List Char} (more : List (List Char)) {c : Char} {rest : List Char}
    (hc : cs = c :: rest) : ∃ rest, commas (cs :: more) = c :: rest := by
  subst hc
  cases more with
  | nil => exact ⟨rest, rfl⟩
  | cons _ _ => exact ⟨_, rfl⟩

/-- **An array** of texts is read as the array of what they are read as. -/
theorem reads_array {n : Nat} {ts : List (List Char × Option Json)}
    (h : ∀ t ∈ ts, Reads t.1 n t.2) :
    Reads ('[' :: commas (ts.map (·.1)) ++ [']']) (n + 1) ((ts.mapM Prod.snd).map .arr) := by
  refine ⟨⟨_, _, rfl, rfl, by decide⟩, fun {fuel d rest} hf hd _ => ?_⟩
  obtain ⟨fuel, rfl⟩ := Nat.exists_eq_succ_of_ne_zero (n := fuel) (by simp at hf; omega)
  obtain ⟨d, rfl⟩ := Nat.exists_eq_succ_of_ne_zero (n := d) (by omega)
  cases ts with
  | nil => rfl
  | cons t ts =>
      obtain ⟨c, cs, hc, blank, close⟩ := (h t (List.mem_cons_self ..)).starts
      have enough : (commas ((t :: ts).map (·.1))).length < fuel := by
        simp at hf ⊢
        omega
      have read := elements_commas (by simp) h [] rest enough (Nat.le_of_succ_le_succ hd)
      obtain ⟨cs', first⟩ := commas_starts (ts.map (·.1)) hc
      rw [List.map_cons, first] at read ⊢
      have opened : value (fuel + 1) (d + 1) ('[' :: (c :: cs') ++ [']'] ++ rest) =
          elements fuel d [] (c :: cs' ++ ']' :: rest) := by
        have text : '[' :: (c :: cs') ++ [']'] ++ rest = '[' :: c :: (cs' ++ ']' :: rest) := by simp
        rw [text, value, skipBlanks_cons rfl]
        simp only [Nat.add_one_ne_zero, if_false, skipBlanks_cons blank]
        split
        case h_1 head => exact absurd (List.cons.inj head).1 close
        case h_2 => rfl
      rw [opened, read, Option.map_map]
      rfl

/-- **An object** of fields is read as the object of what they are read as. -/
theorem reads_object {n : Nat} {ms : List Member} (h : ∀ m ∈ ms, Reads m.text n m.value?) :
    Reads ('\x7b' :: commas (ms.map Member.chars) ++ ['\x7d']) (n + 1)
      ((ms.mapM Member.field?).map Json.object) := by
  refine ⟨⟨_, _, rfl, rfl, by decide⟩, fun {fuel d rest} hf hd _ => ?_⟩
  obtain ⟨fuel, rfl⟩ := Nat.exists_eq_succ_of_ne_zero (n := fuel) (by simp at hf; omega)
  obtain ⟨d, rfl⟩ := Nat.exists_eq_succ_of_ne_zero (n := d) (by omega)
  cases ms with
  | nil =>
      have empty : Json.object [] = .obj [] := by simp [object, sortFields]
      change some (Json.obj [], rest) = some (Json.object [], rest)
      rw [empty]
  | cons m ms =>
      have enough : (commas ((m :: ms).map Member.chars)).length < fuel := by
        simp at hf ⊢
        omega
      have read := members_commas (by simp) h [] rest enough (Nat.le_of_succ_le_succ hd)
      have quote : m.chars = '"' :: _ := rfl
      obtain ⟨cs', first⟩ := commas_starts (ms.map Member.chars) quote
      rw [List.map_cons, first] at read ⊢
      have opened : value (fuel + 1) (d + 1) ('\x7b' :: ('"' :: cs') ++ ['\x7d'] ++ rest) =
          members fuel d [] ('"' :: cs' ++ '\x7d' :: rest) := by
        rw [List.append_assoc]
        rfl
      rw [opened, read, Option.map_map]
      rfl

end Json

namespace Datum

open Json (Reads Member commas)
open Text.CodeUnits (ofList)

/-! ### Reading data -/

theorem foldl_commas (cs : List Char) (css : List (List Char)) :
    (css.map ofList).foldl (fun acc v => acc ++ ("," : CodeUnits) ++ v) (ofList cs) =
      ofList (commas (cs :: css)) := by
  induction css generalizing cs with
  | nil => rfl
  | cons cs' css ih =>
      have joined : commas ((cs ++ ',' :: cs') :: css) = commas (cs :: cs' :: css) := by
        rw [Json.commas_cons (List.cons_ne_nil cs' css)]
        cases css with
        | nil => rfl
        | cons c css => simp [commas]
      have start : ofList cs ++ ("," : CodeUnits) ++ ofList cs' = ofList (cs ++ ',' :: cs') := by
        rw [Text.CodeUnits.ofString_eq, ← Text.CodeUnits.ofList_append,
          ← Text.CodeUnits.ofList_append, List.append_assoc]
        rfl
      rw [List.map_cons, List.foldl_cons, start, ih, joined]

theorem join_commas (css : List (List Char)) :
    CodeUnits.join "," (css.map ofList) = ofList (commas css) := by
  cases css with
  | nil => rfl
  | cons cs css => exact foldl_commas cs css

theorem quoted_eq (u : CodeUnits) : quoted u =
    ofList ('"' :: Json.quotePoints (Text.CodeUnits.points u.toList) ++ ['"']) := by
  refine Text.CodeUnits.eq_of_toList ?_
  rw [Text.CodeUnits.toList_ofList]
  exact (Json.toList_pushQuoted #[] u).trans (List.nil_append _)

theorem enclosed_eq (first last : String) (css : List (List Char)) :
    (first : CodeUnits) ++ CodeUnits.join "," (css.map ofList) ++ (last : CodeUnits) =
      ofList (first.toList ++ commas css ++ last.toList) := by
  rw [join_commas, Text.CodeUnits.ofString_eq, Text.CodeUnits.ofString_eq,
    ← Text.CodeUnits.ofList_append, ← Text.CodeUnits.ofList_append]

theorem member_eq (key : CodeUnits) (cs : List Char) (j : Option Json) :
    quoted key ++ (":" : CodeUnits) ++ ofList cs = ofList (Member.mk key cs j).chars := by
  rw [quoted_eq, Text.CodeUnits.ofString_eq, ← Text.CodeUnits.ofList_append,
    ← Text.CodeUnits.ofList_append]
  simp [Member.chars]

/-- A finite double is read as one that is equal to it. -/
theorem reads_double {x : Float} (hx : x.isFinite = true) :
    Reads (Machine.numberText x).toList 0 (some (.num (numberRead x))) ∧
      (numberRead x).toFloat.isFinite = true ∧ (x == (numberRead x).toFloat) = true := by
  obtain ⟨n, finite, same, read⟩ := Json.number_numberText hx
  have all := read [] (by simp [Json.Ends])
  rw [List.append_nil] at all
  have number : numberRead x = n := by
    rw [numberRead, all]
  rw [number]
  exact ⟨Json.reads_number (Json.head_of_number all) read, finite, same⟩

theorem spelled_number (x : Float) :
    ∃ cs, (number x).text = ofList cs ∧ Reads cs 0 (number x).json? := by
  rw [text, json?]
  -- what is not finite is written as `null`, and read as it
  by_cases hx : x.isFinite = true
  · rw [if_pos hx, if_pos hx]
    exact ⟨_, Text.CodeUnits.ofString_eq _, (reads_double hx).1⟩
  · rw [if_neg hx, if_neg hx]
    exact ⟨_, Text.CodeUnits.ofString_eq _, Json.reads_null⟩

mutual

/-- **The text of a datum** is read as it should be. -/
theorem spelled : (d : Datum) → ∃ cs, d.text = ofList cs ∧ Reads cs d.depth d.json?
  | .null => ⟨_, Text.CodeUnits.ofString_eq _, Json.reads_null⟩
  | .absent => ⟨_, Text.CodeUnits.ofString_eq _, Json.reads_null⟩
  | .bool b => by
      refine ⟨_, ?_, Json.reads_bool b⟩
      rw [text, ← Text.CodeUnits.ofString_eq]
      cases b <;> rfl
  | .number x => spelled_number x
  | .string u => ⟨_, quoted_eq u, Json.reads_string u⟩
  | .array items => by
      obtain ⟨ts, texts, reads, values⟩ := items_spelled items
      refine ⟨_, ?_, values ▸ Json.reads_array reads⟩
      have split : ts.map (fun t => ofList t.1) = (ts.map (·.1)).map ofList := by simp
      rw [text, texts, split]
      exact enclosed_eq "[" "]" _
  | .object fields => by
      obtain ⟨ms, texts, reads, values⟩ := fields_spelled fields
      refine ⟨_, ?_, values ▸ Json.reads_object reads⟩
      have split : ms.map (fun m => ofList m.chars) = (ms.map Member.chars).map ofList := by simp
      rw [text, texts, split]
      exact enclosed_eq "\x7b" "\x7d" _

/-- Each item is read as it should be. -/
theorem items_spelled : (items : List Datum) → ∃ ts : List (List Char × Option Json),
    itemTexts items = ts.map (fun t => ofList t.1) ∧
      (∀ t ∈ ts, Reads t.1 (itemsDepth items) t.2) ∧ items? items = ts.mapM Prod.snd
  | [] => ⟨[], rfl, by simp, rfl⟩
  | d :: rest => by
      obtain ⟨cs, text, read⟩ := spelled d
      obtain ⟨ts, texts, reads, values⟩ := items_spelled rest
      refine ⟨(cs, d.json?) :: ts, ?_, ?_, ?_⟩
      · rw [itemTexts, text, texts, List.map_cons]
      · refine List.forall_mem_cons.mpr ⟨read.mono (Nat.le_max_left ..), fun t ht => ?_⟩
        exact (reads t ht).mono (Nat.le_max_right ..)
      · rw [items?, values, List.mapM_cons]

/-- Each field that has a text is read as it should be. -/
theorem fields_spelled : (fields : List (CodeUnits × Datum)) → ∃ ms : List Member,
    fieldTexts fields = ms.map (fun m => ofList m.chars) ∧
      (∀ m ∈ ms, Reads m.text (fieldsDepth fields) m.value?) ∧
        fields? fields = ms.mapM Member.field?
  | [] => ⟨[], rfl, by simp, rfl⟩
  | (key, d) :: rest => by
      obtain ⟨cs, text, read⟩ := spelled d
      obtain ⟨ms, texts, reads, values⟩ := fields_spelled rest
      have others (m) (hm : m ∈ ms) := (reads m hm).mono (Nat.le_max_right d.depth _)
      -- a field without a text is not written, and the commas are those of the others
      by_cases absent : d.isAbsent = true
      · refine ⟨ms, ?_, others, ?_⟩
        · rw [fieldTexts, if_pos absent, texts]
        · rw [fields?, if_pos absent, values]
      · refine ⟨⟨key, cs, d.json?⟩ :: ms, ?_, ?_, ?_⟩
        · rw [fieldTexts, if_neg absent, texts, List.map_cons, text, member_eq]
        · exact List.forall_mem_cons.mpr ⟨read.mono (Nat.le_max_left ..), others⟩
        · rw [fields?, if_neg absent, values, List.mapM_cons, Member.field?]
          cases key.toString? <;> cases d.json? <;> rfl

end

/-- **The JSON text of a datum** can be read by the host, and it is read as it should be, if it is
not nested too deep. -/
theorem parse_text (d : Datum) {limit : Nat} (hd : d.depth ≤ limit) :
    ∃ s, d.text.toString? = some s ∧ (Json.parse s limit).toOption = d.json? := by
  obtain ⟨cs, text, reads⟩ := spelled d
  refine ⟨String.ofList cs, by rw [text, Text.CodeUnits.toString?_ofList], ?_⟩
  have enough : cs.length ≤ 2 * cs.length + 2 := by omega
  have ends : Json.Ends [] := by simp [Json.Ends]
  rw [Json.parse, String.toList_ofList, Json.parseList]
  rcases reads.cases enough hd ends with ⟨none, e, refused⟩ | ⟨v, some, read⟩
  · rw [List.append_nil] at refused
    rw [refused, none]
    rfl
  · rw [List.append_nil] at read
    rw [read, some]
    rfl

end Datum

end PatchSandbox
