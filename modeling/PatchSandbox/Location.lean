/-!
# Positions in a source text

A `Location` is what a person reads, a line and a column counted from one, where a
column counts characters. An offset counts bytes of the UTF-8 encoding; `ofOffset` turns
one into the other. Lines end at line feeds only.
-/

namespace PatchSandbox

/-- A line and a column, both counted from one. -/
structure Location where
  line : Nat
  column : Nat
  deriving DecidableEq, Repr, Inhabited

/-- The written form `line:column`. -/
def Location.text (l : Location) : String := toString l.line ++ ":" ++ toString l.column

namespace Location

/-- Walks over characters until the byte `target` is reached. `here` is the offset of
the next character, `start` that of its line, and `place` its own location. An offset
inside a character is counted in bytes from the start of its line. -/
def walk (target : Nat) : (here start : Nat) → (place : Location) → List Char → Location
  | _, _, l, [] => l
  | here, start, l, c :: cs =>
    if target ≤ here then l
    else if target < here + c.utf8Size then ⟨l.line, target - start + 1⟩
    else if c = '\n' then walk target (here + 1) (here + 1) ⟨l.line + 1, 1⟩ cs
    else walk target (here + c.utf8Size) start ⟨l.line, l.column + 1⟩ cs

/-- The greatest line and column that are told apart. -/
def greatest : Nat := 4294967295

/-- A location with a line and a column of thirty-two bits: what is beyond them is the greatest. -/
def fitted (l : Location) : Location := ⟨min l.line greatest, min l.column greatest⟩

/-- The location of a byte offset; offsets beyond the end mean the end. -/
def ofOffset (source : List Char) (offset : Nat) : Location :=
  (walk offset 0 0 ⟨1, 1⟩ source).fitted

theorem fitted_eq_self {l : Location} (hl : l.line ≤ greatest) (hc : l.column ≤ greatest) :
    l.fitted = l := by
  rw [fitted, Nat.min_eq_left hl, Nat.min_eq_left hc]

@[simp] theorem ofOffset_zero (source : List Char) : ofOffset source 0 = ⟨1, 1⟩ := by
  cases source <;> rfl

end Location

/-! ### Bytes -/

/-- Number of bytes that characters take in UTF-8. -/
def byteLength (cs : List Char) : Nat := cs.foldl (fun n c => n + c.utf8Size) 0

theorem foldl_utf8Size (cs : List Char) (n : Nat) :
    cs.foldl (fun n c => n + c.utf8Size) n = n + byteLength cs := by
  induction cs generalizing n with
  | nil => rfl
  | cons c cs ih =>
      rw [byteLength, List.foldl_cons, List.foldl_cons, ih, ih]
      omega

@[simp] theorem byteLength_nil : byteLength [] = 0 := rfl

@[simp] theorem byteLength_cons (c : Char) (cs : List Char) :
    byteLength (c :: cs) = c.utf8Size + byteLength cs := by
  rw [byteLength, List.foldl_cons, foldl_utf8Size, Nat.zero_add]

@[simp] theorem byteLength_append (as bs : List Char) :
    byteLength (as ++ bs) = byteLength as + byteLength bs := by
  rw [byteLength, List.foldl_append, foldl_utf8Size, ← byteLength]

/-- A text takes the bytes of its characters. -/
theorem utf8ByteSize_ofList (cs : List Char) :
    (String.ofList cs).utf8ByteSize = byteLength cs := by
  induction cs with
  | nil => simp
  | cons c cs ih => simp [String.ofList_cons, String.utf8ByteSize_append, ih]

end PatchSandbox
