import PatchSandbox.Machine.Library.Member
import PatchSandbox.Machine.Serialize

/-!
# Objects

The members of `Object` and of the prototype of all objects, then `Reflect`, and `Proxy`, whose
objects ask a handler what to do.
-/

namespace PatchSandbox.Machine.Library

open PatchSandbox.Text (CodeUnits)

/-- Makes an object of a value. -/
def objectOf (c : Call) : M Value := do
  match c.newTarget with
  | some n =>
    if n != c.self then
      return .object (← newObject (some (← prototypeFor n .objectPrototype)))
  | none => pure ()
  let v := c.arg 0
  if v.isNullish then return .object (← newObject) else return .object (← toObject v)

/-- The names of own properties that loops show. -/
def shownKeys (r : Ref) : M (List Key) := do
  let keys ← ownKeys r
  let o ← getObj r
  match o.kind with
  | .proxy _ _ _ _ =>
    keys.filterM fun k => do
      if k.isSymbol then return false
      match ← getOwn r k with
      | some p => return p.isEnumerable
      | none => return false
  | _ => return keys.filter fun k => !k.isSymbol && (ownOf o k).any Property.isEnumerable

/-- An array of two values. -/
def pair (a b : Value) : M Value := newArray #[a, b]

/-- A list of what a function makes of the names that loops show. -/
def listShown (c : Call) (f : Ref → Key → M Value) : M Value := do
  let r ← toObject (c.arg 0)
  let keys ← shownKeys r
  let present (k : Key) : M Bool := do
    match ← getOwn r k with
    | some p => return p.isEnumerable
    | none => return false
  let items ← keys.filterMapM fun k => do
    if ← present k then return some (← f r k) else return none
  newArray items.toArray

/-- Copies properties to the first argument from the others. -/
def assign (c : Call) : M Value := do
  let target ← toObject (c.arg 0)
  for source in (c.args.toList.drop 1) do
    if !source.isNullish then
      let r ← toObject source
      for k in ← ownKeys r do
        match ← getOwn r k with
        | some p => if p.isEnumerable then setProp target k (← getProp r k)
        | none => pure ()
  return .object target

/-- Defines the properties that the own properties of a value describe. -/
def defineAll (target : Ref) (descriptions : Value) : M Unit := do
  let r ← toObject descriptions
  let mut all : List (Key × Descriptor) := []
  for k in ← ownKeys r do
    match ← getOwn r k with
    | some p => if p.isEnumerable then all := (k, ← toDescriptor (← getProp r k)) :: all
    | none => pure ()
  for (k, d) in all.reverse do
    defineOrThrow target k d

/-- Makes an object with a given prototype. -/
def createObject (c : Call) : M Value := do
  let r ← match c.arg 0 with
    | .object p => newObject (some p)
    | .null => newObject none
    | _ => typeError "not a prototype"
  if !(c.arg 1).isUndefined then defineAll r (c.arg 1)
  return .object r

/-- Makes an object of pairs of names and values. -/
def fromEntries (c : Call) : M Value := do
  let r ← newObject
  foldIterable (c.arg 0) () fun _ entry => do
    match entry with
    | .object e => createData r (← toKey (← getProp e "0")) (← getProp e "1")
    | _ => typeError "not an object"
  return .object r

/-- Forbids changes: all of them, or only adding and removing. -/
def protectObject (v : Value) (frozen : Bool) : M Value := do
  match v with
  | .object r =>
    if !(← preventExtensions r) then typeError "proxy preventExtensions handler returned false"
    for k in ← ownKeys r do
      match ← getOwn r k with
      | some (.data _ _) =>
        defineOrThrow r k
          { configurable := some false, writable := if frozen then some false else none }
      | some (.accessor _ _ _ _) => defineOrThrow r k { configurable := some false }
      | none => pure ()
    return v
  | v => return v

/-- Whether changes are forbidden. -/
def isProtected (v : Value) (frozen : Bool) : M Value := do
  match v with
  | .object r =>
    if ← isExtensible r then return .bool false
    let open_ ← (← ownKeys r).anyM fun k => do
      match ← getOwn r k with
      | some (.data _ a) => return a.configurable || (frozen && a.writable)
      | some p => return p.isConfigurable
      | none => return false
    return .bool !open_
  | _ => return .bool true

/-- Lists of values by a name that a function gives for each. -/
def groupInto (items callback : Value) (key : Value → M Value) : M (Table) := do
  requireFunction callback
  let (table, _) ← foldIterable items (Table.empty, 0) fun (table, i) v => do
    let k ← key (← call callback .undefined #[v, .nat i])
    let table ← match table.find? k with
      | some (.object list) => do
        let length ← lengthOf list
        createData list (.ofNat length) v
        pure table
      | _ => do pure (table.insert k (← newArray #[v]))
    return (table, i + 1)
  return table

/-- What an object is called in texts. -/
def builtinTag (v : Value) : M String := do
  match v with
  | .object r =>
    if ← isArray v then return "Array"
    match ← getKind r with
    | .error => return "Error"
    | .boxed (.bool _) => return "Boolean"
    | .boxed (.number _) => return "Number"
    | .boxed (.string _) => return "String"
    | .date _ => return "Date"
    | .regex _ _ _ => return "RegExp"
    | .arguments => return "Arguments"
    | k => return if k.isCallable then "Function" else "Object"
  | .bool _ => return "Boolean"
  | .number _ => return "Number"
  | .string _ => return "String"
  | _ => return "Object"

/-- The text of an object that has no better one. -/
def objectText (v : Value) : M Value := do
  match v with
  | .undefined => return .text "[object Undefined]"
  | .null => return .text "[object Null]"
  | v =>
    let own ← builtinTag v
    let tag ← match ← getValue v WellKnown.toStringTag.key with
      | .string u => pure u
      | _ => pure (CodeUnits.ofString own)
    return .string (((CodeUnits.ofString "[object ").append tag).append (CodeUnits.ofString "]"))

/-- Gives the prototype of a value. -/
def prototypeValue (v : Value) : M Value := do
  match ← prototypeOf (← toObject v) with
  | some p => return .object p
  | none => return .null

/-- The error for a prototype that cannot be given. -/
def failPrototype {α : Type} (why : Refusal) : M α :=
  match why with
  | .readOnly => typeError "circular prototype chain"
  | .denied => typeError "proxy: bad prototype"
  | _ => typeError "object is not extensible"

/-- Gives an object a prototype, which has to be possible. -/
def givePrototype (v proto : Value) : M Unit := do
  let p ← match proto with
    | .object p => pure (some p)
    | .null => pure none
    | _ => typeError "not an object"
  match v with
  | .object r =>
    match ← setPrototype r p with
    | .ok () => return ()
    | .error why => failPrototype why
  | _ => return ()

/-- Finds a function that reads or writes a property. -/
def lookupAccessor (c : Call) (pick : Value → Value → Value) : M Value := do
  let k ← toKey (c.arg 0)
  let rec walk : Nat → Option Ref → M Value
    | 0, _ => return .undefined
    | _ + 1, none => return .undefined
    | n + 1, some r => do
      match ← getOwn r k with
      | some (.accessor g s _ _) => return pick g s
      | some (.data _ _) => return .undefined
      | none => walk n (← prototypeOf r)
  walk (← chainBound) (some (← toObject c.receiver))

/-- Defines a function that reads or writes a property. -/
def defineAccessor (c : Call) (describe : Value → Descriptor) : M Value := do
  let r ← toObject c.receiver
  let f := c.arg 1
  requireFunction f
  defineOrThrow r (← toKey (c.arg 0))
    { describe f with enumerable := some true, configurable := some true }
  return .undefined

/-- `Object` and the prototype of all objects. -/
def objectHolders : List Holder :=
  [ .ofConstructor .object .objectPrototype "Object" 1 objectOf
      [ .fn "create" 2 createObject
        , .fn "getPrototypeOf" 1 fun c => prototypeValue (c.arg 0)
        , .fn "setPrototypeOf" 2 fun c => do
            if (c.arg 0).isNullish then discard (toObject (c.arg 0))
            givePrototype (c.arg 0) (c.arg 1)
            return c.arg 0
        , .fn "defineProperty" 3 fun c => do
            let r ← requireRef (c.arg 0)
            let k ← toKey (c.arg 1)
            defineOrThrow r k (← toDescriptor (c.arg 2))
            return c.arg 0
        , .fn "defineProperties" 2 fun c => do
            defineAll (← requireRef (c.arg 0)) (c.arg 1)
            return c.arg 0
        , .fn "getOwnPropertyNames" 1 fun c => do
            let keys ← ownKeys (← toObject (c.arg 0))
            newArray ((keys.filter fun k => !k.isSymbol).map Key.toValue).toArray
        , .fn "getOwnPropertySymbols" 1 fun c => do
            let keys ← ownKeys (← toObject (c.arg 0))
            newArray ((keys.filter Key.isSymbol).map Key.toValue).toArray
        , .fn "groupBy" 2 fun c => do
            let table ← groupInto (c.arg 0) (c.arg 1) fun v => return (← toKey v).toValue
            let r ← newObject none
            for (k, list) in table.toList do
              createData r (← toKey k) list
            return .object r
        , .fn "keys" 1 fun c => listShown c fun _ k => return k.toValue
        , .fn "values" 1 fun c => listShown c getProp
        , .fn "entries" 1 fun c => listShown c fun r k => do pair k.toValue (← getProp r k)
        , .fn "isExtensible" 1 fun c => do
            match c.arg 0 with
            | .object r => return .bool (← isExtensible r)
            | _ => return .bool false
        , .fn "preventExtensions" 1 fun c => do
            match c.arg 0 with
            | .object r =>
              if !(← preventExtensions r) then
                typeError "proxy preventExtensions handler returned false"
            | _ => pure ()
            return c.arg 0
        , .fn "getOwnPropertyDescriptor" 2 fun c => do
            let r ← toObject (c.arg 0)
            fromProperty (← getOwn r (← toKey (c.arg 1)))
        , .fn "getOwnPropertyDescriptors" 1 fun c => do
            let r ← toObject (c.arg 0)
            let all ← newObject
            for k in ← ownKeys r do
              createData all k (← fromProperty (← getOwn r k))
            return .object all
        , .fn "is" 2 fun c => return .bool ((c.arg 0).same (c.arg 1))
        , .fn "assign" 2 assign
        , .fn "seal" 1 fun c => protectObject (c.arg 0) false
        , .fn "freeze" 1 fun c => protectObject (c.arg 0) true
        , .fn "isSealed" 1 fun c => isProtected (c.arg 0) false
        , .fn "isFrozen" 1 fun c => isProtected (c.arg 0) true
        , .fn "fromEntries" 1 fromEntries
        , .fn "hasOwn" 2 fun c => do
            let r ← toObject (c.arg 0)
            return .bool (← getOwn r (← toKey (c.arg 1))).isSome ]
  , { object := .objectPrototype
      parent := none
      members :=
        [ .constructor .object
          , .fn "toString" 0 fun c => objectText c.receiver
          , .fn "toLocaleString" 0 fun c => invoke c.receiver "toString"
          , .fn "valueOf" 0 fun c => return .object (← toObject c.receiver)
          , .fn "hasOwnProperty" 1 fun c => do
              let k ← toKey (c.arg 0)
              return .bool (← getOwn (← toObject c.receiver) k).isSome
          , .fn "isPrototypeOf" 1 fun c => do
              match c.arg 0 with
              | .object r =>
                let goal ← toObject c.receiver
                let rec walk : Nat → Option Ref → M Bool
                  | 0, _ => return false
                  | _ + 1, none => return false
                  | n + 1, some p => do
                    if p == goal then return true else walk n (← prototypeOf p)
                return .bool (← walk (← chainBound) (← prototypeOf r))
              | _ => return .bool false
          , .fn "propertyIsEnumerable" 1 fun c => do
              let k ← toKey (c.arg 0)
              match ← getOwn (← toObject c.receiver) k with
              | some p => return .bool p.isEnumerable
              | none => return .bool false
          , .accessor "__proto__"
              ⟨"get __proto__", 0, fun c => prototypeValue c.receiver, false⟩
              (some
                ⟨"set __proto__", 1, fun c => do
                  if c.receiver.isNullish then discard (toObject c.receiver)
                  match c.arg 0 with
                  | .object _ => givePrototype c.receiver (c.arg 0)
                  | .null => givePrototype c.receiver .null
                  | _ => pure ()
                  return .undefined, false⟩)
          , .fn "__defineGetter__" 2 fun c => defineAccessor c fun f => { getter := some f }
          , .fn "__defineSetter__" 2 fun c => defineAccessor c fun f => { setter := some f }
          , .fn "__lookupGetter__" 1 fun c => lookupAccessor c fun g _ => g
          , .fn "__lookupSetter__" 1 fun c => lookupAccessor c fun _ s => s ] } ]

/-! ### Reflection -/

/-- Makes an object that asks a handler. -/
def newProxy (target handler : Value) : M Value := do
  match target, handler with
  | .object t, .object h =>
    let callable ← isCallable target
    let constructible ← isConstructor t
    return .object (← alloc
      { kind := .proxy (some t) (some h) callable constructible, prototype := none })
  | _, _ => typeError "not an object"

/-- Whether something was not refused. -/
def succeeded : Except Refusal Unit → Value
  | .ok _ => .bool true
  | .error _ => .bool false

/-- `Reflect` and `Proxy`. -/
def reflectHolders : List Holder :=
  [ { object := .reflect
      members :=
        [ .fn "apply" 3 fun c => do
            requireFunction (c.arg 0)
            call (c.arg 0) (c.arg 1) (← itemsOf (c.arg 2))
          , .fn "construct" 2 fun c => do
            let f ← requireRef (c.arg 0)
            if !(← isConstructor f) then typeError "not a constructor"
            let n ← if c.args.size > 2 then requireRef (c.arg 2) else pure f
            if !(← isConstructor n) then typeError "not a constructor"
            construct f (← itemsOf (c.arg 1)) n
          , .fn "defineProperty" 3 fun c => do
            let r ← requireRef (c.arg 0)
            let k ← toKey (c.arg 1)
            return succeeded (← define r k (← toDescriptor (c.arg 2)))
          , .fn "deleteProperty" 2 fun c => do
            let r ← requireRef (c.arg 0)
            return .bool (← deleteProp r (← toKey (c.arg 1)))
          , .fn "get" 2 fun c => do
            let r ← requireRef (c.arg 0)
            let k ← toKey (c.arg 1)
            getFrom (← chainBound) r k (if c.args.size > 2 then c.arg 2 else c.arg 0)
          , .fn "getOwnPropertyDescriptor" 2 fun c => do
            let r ← requireRef (c.arg 0)
            fromProperty (← getOwn r (← toKey (c.arg 1)))
          , .fn "getPrototypeOf" 1 fun c => do prototypeValue (.object (← requireRef (c.arg 0)))
          , .fn "has" 2 fun c => do
            let r ← requireRef (c.arg 0)
            return .bool (← hasProperty r (← toKey (c.arg 1)))
          , .fn "isExtensible" 1 fun c => do
            return .bool (← isExtensible (← requireRef (c.arg 0)))
          , .fn "ownKeys" 1 fun c => do
            let keys ← ownKeys (← requireRef (c.arg 0))
            newArray (keys.map Key.toValue).toArray
          , .fn "preventExtensions" 1 fun c => do
            return .bool (← preventExtensions (← requireRef (c.arg 0)))
          , .fn "set" 3 fun c => do
            let r ← requireRef (c.arg 0)
            let k ← toKey (c.arg 1)
            return succeeded (← setFrom (← chainBound) r k (c.arg 2)
              (if c.args.size > 3 then c.arg 3 else c.arg 0))
          , .fn "setPrototypeOf" 2 fun c => do
            let r ← requireRef (c.arg 0)
            match c.arg 1 with
            | .object p => return succeeded (← setPrototype r (some p))
            | .null => return succeeded (← setPrototype r none)
            | _ => typeError "not an object"
          , .tag "Reflect" ] }
  , { object := .proxy
      function := some ⟨"Proxy", 2, fun c => do
        requireNew c
        newProxy (c.arg 0) (c.arg 1), true⟩
      parent := some .functionPrototype
      members :=
        [ .fn "revocable" 2 fun c => do
            let p ← newProxy (c.arg 0) (c.arg 1)
            let revoke ← newInner .revokeProxy 0 #[p]
            let r ← newObject
            createData r "proxy" p
            createData r "revoke" revoke
            return .object r ] } ]

end PatchSandbox.Machine.Library
