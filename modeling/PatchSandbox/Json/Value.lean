/-!
# JSON values

* **`Number`** keeps the kind of a number: an integer that fits sixty-four bits, or a
  double. The two are different values even where they are numerically equal.
* **`Json.object`** builds objects in the form every reader produces: keys in
  ascending byte order, and of equal keys the last one.
-/

namespace PatchSandbox

/-- A JSON number with its kind. -/
inductive Number where
  | int (value : Int)
  | float (value : Float)
  deriving Inhabited, Repr, BEq

/-- The number as a double. -/
def Number.toFloat : Number → Float
  | .int i => if i < 0 then -(Float.ofNat i.natAbs) else Float.ofNat i.natAbs
  | .float f => f

/-- A JSON value. -/
inductive Json where
  | null
  | bool (value : Bool)
  | num (value : Number)
  | str (value : String)
  | arr (items : List Json)
  | obj (fields : List (String × Json))
  deriving Inhabited, Repr, BEq

namespace Json

/-- An integer. -/
def int (i : Int) : Json := .num (.int i)

/-- A natural number. -/
def nat (n : Nat) : Json := .num (.int n)

/-- A double; one that is no number has no JSON form and becomes `null`. -/
def ofFloat (f : Float) : Json := if f.isFinite then .num (.float f) else .null

/-- Texts as an array. -/
def texts (ts : List String) : Json := .arr (ts.map .str)

/-- An optional value, `null` when absent. -/
def option {α : Type} (f : α → Json) : Option α → Json
  | some a => f a
  | none => .null

/-- Of neighbouring equal keys the last one. -/
def keepLast {α : Type} : List (String × α) → List (String × α)
  | a :: b :: rest => if a.1 = b.1 then keepLast (b :: rest) else a :: keepLast (b :: rest)
  | short => short

/-- Fields in ascending order of their keys, of equal keys the last one. -/
def sortFields {α : Type} (fields : List (String × α)) : List (String × α) :=
  keepLast (fields.mergeSort fun a b => a.1 ≤ b.1)

/-- The object with the given fields. -/
def object (fields : List (String × Json)) : Json := .obj (sortFields fields)

/-- The field of an object, if the value is an object that has it. -/
def field? (j : Json) (key : String) : Option Json :=
  match j with
  | .obj fields => (fields.find? (·.1 == key)).map (·.2)
  | _ => none

/-- Whether the value is an object. -/
def isObject : Json → Bool
  | .obj _ => true
  | _ => false

@[simp] theorem keepLast_nil {α : Type} : keepLast ([] : List (String × α)) = [] := rfl

@[simp] theorem keepLast_singleton {α : Type} (a : String × α) : keepLast [a] = [a] := rfl

@[simp] theorem field?_obj (fields : List (String × Json)) (key : String) :
    (Json.obj fields).field? key = (fields.find? (·.1 == key)).map (·.2) := rfl

end Json

end PatchSandbox
