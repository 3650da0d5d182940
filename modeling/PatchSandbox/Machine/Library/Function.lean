import PatchSandbox.Machine.Library.Member

/-!
# Functions

The members that all functions share. Functions cannot be made from texts.
-/

namespace PatchSandbox.Machine.Library

open PatchSandbox.Text (CodeUnits)

/-- The name that a function has as a property. -/
def ownName (r : Ref) : M CodeUnits := do
  match ← getProp r "name" with
  | .string u => return u
  | _ => return ∅

/-- The text of a function. -/
def functionText (v : Value) : M Value := do
  match v with
  | .object r =>
    match ← getKind r with
    | .closure c => return .text c.code.text
    | k =>
      if k.isCallable then
        return .string (((CodeUnits.ofString "function ").append (← ownName r)).append
          (CodeUnits.ofString "() \x7b\n    [native code]\n\x7d"))
      else typeError "not a function"
  | _ => typeError "not a function"

/-- A function with a receiver and some arguments given. -/
def bind (c : Call) : M Value := do
  match c.receiver with
  | .object target =>
    requireFunction c.receiver
    let given := c.args.extract 1 c.args.size
    let length ←
      if (← getOwn target "length").isSome then
        match ← getProp target "length" with
        | .number x =>
          let left := truncated x - Float.ofNat given.size
          pure (if left > 0 then left else 0)
        | _ => pure 0
      else pure 0
    let name := (CodeUnits.ofString "bound ").append (← ownName target)
    let f ← alloc
      { kind := .bound target (c.arg 0) given
        prototype := ← prototypeOf target
        properties :=
          (PropertyMap.empty.insert "length" (.data (.number length) .fixed)).insert "name"
            (.data (.string name) .fixed) }
    return .object f
  | _ => typeError "not a function"

/-- Refuses to make a function from a text. -/
def noFunction (_ : Call) : M Value := typeError "dynamic code evaluation is disabled"

/-- The prototype of one kind of functions, and its constructor. -/
def functionKind (own prototype : Intrinsic) (name : String) (members : List Member) :
    List Holder :=
  [ .ofConstructor own prototype name 1 noFunction [] .function
  , { object := prototype
      parent := some .functionPrototype
      members := .value "constructor" own.value .fixed :: .tag name :: members } ]

/-- `Function` and the prototypes of functions. -/
def functionHolders : List Holder :=
  [ .ofConstructor .function .functionPrototype "Function" 1 noFunction
  , { object := .functionPrototype
      function := some ⟨"", 0, fun _ => return .undefined, false⟩
      members :=
        [ .constructor .function
          , .fn "call" 1 fun c => do
              requireFunction c.receiver
              call c.receiver (c.arg 0) (c.args.extract 1 c.args.size)
          , .fn "apply" 2 fun c => do
              requireFunction c.receiver
              let args ← if (c.arg 1).isNullish then pure #[] else itemsOf (c.arg 1)
              call c.receiver (c.arg 0) args
          , .fn "bind" 1 bind
          , .fn "toString" 0 fun c => functionText c.receiver
          , .method WellKnown.hasInstance.key
              ⟨"[Symbol.hasInstance]", 1, fun c => do
                match c.receiver with
                | .object f =>
                  if ← isCallable c.receiver then
                    return .bool (← ordinaryInstance 1000 f (c.arg 0))
                  else return .bool false
                | _ => return .bool false, false⟩
          , .refused "caller"
          , .refused "arguments" ] }
  , { object := .refusal
      function := some ⟨"", 0, fun _ => typeError "invalid property access", false⟩
      parent := some .functionPrototype
      members := [] } ] ++
  functionKind .generatorFunction .generatorFunctionPrototype "GeneratorFunction"
    [.value "prototype" Intrinsic.generatorPrototype.value .fixed] ++
  functionKind .asyncFunction .asyncFunctionPrototype "AsyncFunction" [] ++
  functionKind .asyncGeneratorFunction .asyncGeneratorFunctionPrototype "AsyncGeneratorFunction"
    [.value "prototype" Intrinsic.asyncGeneratorPrototype.value .fixed]

end PatchSandbox.Machine.Library
