import PatchSandbox.Machine.Serialize

/-!
# Values as the host sees them

* **`viewOf`** is how a function of the bridge sees an argument.
* **`faultText`** and **`reasonText`** word a value that was thrown or that a promise was
  rejected with.
-/

namespace PatchSandbox.Machine

open PatchSandbox.Text (CodeUnits)

/-- What kind of value a value is, in messages of the host. -/
def kindName (v : Value) : M String := do
  match v with
  | .undefined => return "undefined"
  | .null => return "null"
  | .bool _ => return "bool"
  | .number x =>
    let small := isIntegral x && x.abs < 2147483648 && !(x == 0 && isNegative x)
    return if small then "int" else "float"
  | .bigint _ => return "bigint"
  | .string _ => return "string"
  | .symbol _ => return "symbol"
  | .object r =>
    match ← getKind r with
    | .array _ _ _ => return "array"
    | .error => return "exception"
    | .promise _ _ => return "promise"
    | k =>
      if !k.isCallable then return "object"
      else if ← isConstructor r then return "constructor"
      else return "function"

/-- How a function of the bridge sees a value. -/
def viewOf (name : String) (v : Value) : View M where
  string? := match v with | .string u => u.toString? | _ => none
  number? := match v with | .number x => some x | _ => none
  bool? := match v with | .bool b => some b | _ => none
  json? := do
    match ← attemptForHost (serialize {} v) with
    | some (some u) => return u.toString?
    | _ => return none
  coerced? := do
    match ← attemptForHost (toText v) with
    | some u => return u.toString?
    | none => return none
  typeName := name

/-- How the functions of the bridge see a value. -/
def view (v : Value) : M (View M) := do return viewOf (← kindName v) v

/-- The line that shows a value. -/
def describe (v : Value) : M String := do (← view v).describe

/-- The message of an object, as text, unless it has none. -/
def messageText? (r : Ref) : M (Option CodeUnits) := do
  match ← getProp r "message" with
  | .undefined | .null => return none
  | message => return some (← toText message)

/-- The message of an error, if the value is one and its message can be read. -/
def errorMessage? (v : Value) : M (Option (Option String)) := do
  match v with
  | .object r =>
    match ← getKind r with
    | .error =>
      match ← attemptForHost (messageText? r) with
      | some (some u) => return some (u.toString?)
      | _ => return some none
    | _ => return none
  | _ => return none

/-- The wording of a thrown value. -/
def faultText (v : Value) : M String := do
  match ← errorMessage? v with
  | some message =>
    match message with
    | some text => return if text.isEmpty then "uncaught exception" else text
    | none => return "uncaught exception"
  | none => describe v

/-- The wording of the reason a promise was rejected with. -/
def reasonText (v : Value) : M String := do
  match ← errorMessage? v with
  | some (some text) => if text.isEmpty then describe v else return text
  | _ => describe v

end PatchSandbox.Machine
