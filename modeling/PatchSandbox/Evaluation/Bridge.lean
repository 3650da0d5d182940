import PatchSandbox.Evaluation.Capture
import PatchSandbox.Json.Reader

/-!
# The bridge

The functions that a script may call to have an effect. They never fail: a call with
arguments that do not fit has no effect.

* **`View`** is how they see an argument. Some of it is only known after the script's own
  code has run, so a view works in a monad; `respond` fits any.
* **`respond`** gives the effect of one call.
-/

namespace PatchSandbox

/-- A function that a script may call. -/
inductive BridgeFunction where
  | emit
  | setRule
  | setAbility
  | removeEntities
  | console
  deriving DecidableEq, Repr, Inhabited

/-- How an argument is seen. -/
structure View (m : Type → Type) where
  /-- The text, if the argument is one that can be read. -/
  string? : Option String
  number? : Option Float
  bool? : Option Bool
  /-- The text of the JSON form, if there is one and making it does not fail. -/
  json? : m (Option String)
  /-- The argument turned into a text, if that does not fail and the text can be read. -/
  coerced? : m (Option String)
  /-- What kind of value the argument is. -/
  typeName : String

namespace View

variable {m : Type → Type} [Monad m]

/-- Most nested arrays and objects of a JSON form that is read. -/
def jsonDepth : Nat := 127

/-- The JSON form of an argument, if it has one. -/
def toJson (v : View m) : m (Option Json) := do
  match ← v.json? with
  | some text => return (Json.parse text jsonDepth).toOption
  | none => return none

/-- The line that shows an argument: a text as it is, else the JSON form, else the text it is
turned into, else the kind of value. -/
def describe (v : View m) : m String := do
  match v.string? with
  | some text => return text
  | none =>
    match ← v.json? with
    | some text => return text
    | none =>
      match ← v.coerced? with
      | some text => return text
      | none => return "[" ++ v.typeName ++ "]"

end View

namespace BridgeFunction

variable {m : Type → Type} [Monad m]

/-- The effect of a call. -/
def respond (f : BridgeFunction) (args : List (View m)) : m (Option Entry) := do
  match f with
  | .emit =>
    match args with
    | [] => return none
    | arg :: _ => return ((← arg.toJson).bind SoundOp.recognize).map .op
  | .setRule =>
    match args with
    | path :: value :: _ =>
      match path.string?, value.number? with
      | some path, some value => return (SoundOp.ofOp? (.setRule path value)).map .op
      | _, _ => return none
    | _ => return none
  | .setAbility =>
    match args with
    | name :: active :: _ =>
      match name.string?, active.bool? with
      | some name, some active => return (SoundOp.ofOp? (.setAbility name active)).map .op
      | _, _ => return none
    | _ => return none
  | .removeEntities =>
    match args with
    | [] => return none
    | arg :: _ =>
      match ← arg.toJson with
      | some filter =>
        if filter.isObject then return (SoundOp.ofOp? (.removeEntities filter)).map .op
        else return none
      | none => return none
  | .console => return some (.line (" ".intercalate (← args.mapM View.describe)))

end BridgeFunction

end PatchSandbox
