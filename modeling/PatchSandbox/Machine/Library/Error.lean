import PatchSandbox.Machine.Library.Member

/-!
# Errors

`Error` and the kinds of errors. All kinds are made the same way.
-/

namespace PatchSandbox.Machine.Library

open PatchSandbox.Text (CodeUnits)

/-- Puts a property that loops do not show. -/
def defineHidden (r : Ref) (k : Key) (v : Value) : M Unit :=
  defineOrThrow r k (.ofValue v .hidden)

/-- Makes an error; `first` is the position of the message among the arguments. -/
def makeError (prototype : Intrinsic) (first : Nat) (c : Call) : M Value := do
  let p ← match c.newTarget with
    | some n => prototypeFor n prototype
    | none => pure prototype.ref
  let r ← alloc { kind := .error, prototype := some p }
  let message := c.arg first
  if !message.isUndefined then defineHidden r "message" (.string (← toText message))
  match c.arg (first + 1) with
  | .object options =>
    if ← hasProperty options "cause" then defineHidden r "cause" (← getProp options "cause")
  | _ => pure ()
  if first == 1 then
    let errors ← listOf (c.arg 0)
    defineHidden r "errors" (← newArray errors)
  defineHidden r "stack" (.string stackText)
  return .object r

/-- The text of an error. -/
def errorText (c : Call) : M Value := do
  match c.receiver with
  | .object r =>
    let part (k : Key) (otherwise : String) : M CodeUnits := do
      match ← getProp r k with
      | .undefined => return CodeUnits.ofString otherwise
      | v => toText v
    let name ← part "name" "Error"
    let message ← part "message" ""
    if name.isEmpty then return .string message
    else if message.isEmpty then return .string name
    else return .string ((name.append (CodeUnits.ofString ": ")).append message)
  | _ => typeError "not an object"

/-- A kind of errors. -/
def errorKind (own prototype : Intrinsic) (name : String) (first : Nat) : List Holder :=
  [ .ofConstructor own prototype name (first + 1) (makeError prototype first) [] .error
  , { object := prototype
      parent := some .errorPrototype
      members := [.constructor own, .hidden "name" (.text name), .hidden "message" (.text "")] } ]

/-- `Error` and the kinds of errors. -/
def errorHolders : List Holder :=
  [ .ofConstructor .error .errorPrototype "Error" 1 (makeError .errorPrototype 0)
      [ .fn "captureStackTrace" 1 fun c => do
          let r ← requireRef (c.arg 0)
          defineHidden r "stack" (.string stackText)
          return .undefined
        , .hidden "stackTraceLimit" (.number 10) ]
  , { object := .errorPrototype
      members :=
        [ .constructor .error
          , .hidden "name" (.text "Error")
          , .hidden "message" (.text "")
          , .fn "toString" 0 errorText ] } ] ++
  errorKind .evalError .evalErrorPrototype "EvalError" 0 ++
  errorKind .rangeError .rangeErrorPrototype "RangeError" 0 ++
  errorKind .referenceError .referenceErrorPrototype "ReferenceError" 0 ++
  errorKind .syntaxError .syntaxErrorPrototype "SyntaxError" 0 ++
  errorKind .typeError .typeErrorPrototype "TypeError" 0 ++
  errorKind .uriError .uriErrorPrototype "URIError" 0 ++
  errorKind .internalError .internalErrorPrototype "InternalError" 0 ++
  errorKind .aggregateError .aggregateErrorPrototype "AggregateError" 1

end PatchSandbox.Machine.Library
