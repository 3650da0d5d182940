import PatchSandbox.Machine.Realm
import PatchSandbox.Machine.Report
import PatchSandbox.Machine.Source

/-!
# What the host puts into a run

Before a program runs, the host adds its own functions to the global object and then takes
away every way to make code from a text.

* **`installBridge`** adds the functions of the bridge, and **`installRequire`** the one that
  loads modules.
* **`harden`** runs `hardening`, after which no function leads to a constructor of functions.
* **`runNative`** does what a function without code does.
-/

namespace PatchSandbox.Machine

open PatchSandbox.Machine.Library (runInner)

/-- A new function of the host. -/
def newHostFunction (id : NativeId) : M Value := do
  return .object (← alloc
    { kind := .native id #[] false
      prototype := some Intrinsic.functionPrototype.ref
      properties :=
        (PropertyMap.empty.insert "length" (.data (.nat 0) .fixed)).insert "name"
          (.data (.string ∅) .fixed) })

/-- Gives an object a property. -/
def bind (r : Ref) (name : String) (v : Value) : M Unit := do
  let _ ← define r (.ofString name) (.ofValue v .all)

/-- The functions that are members of the global object, with their names. -/
def globalFunctions : List (String × BridgeFunction) :=
  [("emit", .emit), ("setRule", .setRule), ("setAbility", .setAbility),
    ("removeEntities", .removeEntities)]

/-- The names under which the console's function is found. -/
def consoleNames : List String := ["log", "info", "warn", "error"]

/-- Adds the functions of the bridge. -/
def installBridge : M Unit := do
  let globals := Intrinsic.global.ref
  for (name, f) in globalFunctions do
    bind globals name (← newHostFunction (.bridge f))
  let console ← newObject
  for name in consoleNames do
    bind console name (← newHostFunction (.bridge .console))
  bind globals "console" (.object console)

/-- Does what a function of the bridge does. -/
def runBridge (f : BridgeFunction) (c : Call) : M Value := do
  let views ← c.args.toList.mapM view
  match ← f.respond views with
  | some entry => note (.effect entry)
  | none => pure ()
  return .undefined

/-! ### Modules -/

/-- The message for a value of another type than the one that is asked for. -/
def conversionText (found wanted : String) : String :=
  "Error converting from js '" ++ found ++ "' into type '" ++ wanted ++ "'"

/-- Adds the function that loads modules. -/
def installRequire : M Unit := do
  let f ← newHostFunction .require
  modify fun s => { s with loader := s.loader.bindRequire f }
  bind Intrinsic.global.ref "require" f

/-- What a record exports. -/
def exportsOf (record : Value) : M Value := do
  match record with
  | .object r => getProp r "exports"
  | _ => typeError "module record is not an object"

/-- How modules are loaded. -/
def loading : Loader.Host M Value where
  get := return (← get).loader
  set l := modify fun s => { s with loader := l }
  newRecord := do
    let record ← newObject
    let exports := .object (← newObject)
    setProp record "exports" exports
    return (.object record, exports)
  exportsOf := exportsOf
  run text record exports require := do
    let f ← runText text
    if !(← isCallable f) then typeError (conversionText (← kindName f) "function")
    discard (call f .undefined #[record, exports, require])
  undefined := .undefined
  refuse flaw := fail .referenceError flaw.message

/-- Loads the module that a script asks for. -/
def runRequire (c : Call) : M Value := do
  if c.args.isEmpty then
    typeError "Error calling function with 0 argument(s) while 1 where expected"
  match c.arg 0 with
  | .string u =>
    match u.toString? with
    | some spelling => Loader.load loading spelling
    | none =>
      typeError ("Conversion from string failed: invalid utf-8 sequence of 1 bytes from index " ++
        toString u.soundBytes)
  | v => typeError (conversionText (← kindName v) "string")

/-! ### Hardening -/

/-- The text that takes away every way to make code from a text. -/
def hardening : String :=
  "(() => \x7b
    \"use strict\";
    delete globalThis.eval;
    const NativeFunction = Function;
    const blocked = function Function() \x7b
        throw new TypeError(\"dynamic code evaluation is disabled\");
    \x7d;
    blocked.prototype = NativeFunction.prototype;
    Object.defineProperty(globalThis, \"Function\", \x7b
        value: blocked, writable: false, configurable: false, enumerable: false
    \x7d);
    const pin = (proto) => Object.defineProperty(proto, \"constructor\", \x7b
        value: undefined, writable: false, configurable: false
    \x7d);
    pin(NativeFunction.prototype);
    pin(Object.getPrototypeOf(async function () \x7b\x7d));
    pin(Object.getPrototypeOf(function* () \x7b\x7d));
    pin(Object.getPrototypeOf(async function* () \x7b\x7d));
\x7d)();
"

/-- The code of the text, for a run without any other code. -/
def hardeningCode : Array FunctionCode := (codeOf hardening 0).toOption.getD #[]

/-- Takes away every way to make code from a text. -/
def harden : M Unit := discard (runCode hardeningCode)

/-- Does what a function without code does. -/
def runNative (which : NativeId) (c : Call) : M Value :=
  match which with
  | .standard i => runStandard i c
  | .inner f => runInner f c
  | .bridge f => runBridge f c
  | .require => runRequire c

end PatchSandbox.Machine
