import PatchSandbox.Machine.State

/-!
# Access to objects

The elementary operations on objects: prototypes, own properties, reading, writing, removing
and listing. An object that stands for another one asks its handler first.

* **`ownOf`** is the view of an object's own properties; it counts the items of an array and
  the characters of a text among them.
* Writing that is not allowed gives a **`Refusal`**, which `setValue` turns into an error.
-/

namespace PatchSandbox.Machine

open PatchSandbox.Text (CodeUnits)

/-! ### Own properties -/

/-- An own property of an object that stands for itself. -/
def ownOf (o : Obj) (k : Key) : Option Property :=
  match o.kind, k with
  | .array items _ _, .index n =>
    match items.getD n none with
    | some v => some (.data v .all)
    | none => o.properties.find? k
  | .array _ length writable, .name u =>
    if u == CodeUnits.ofString "length" then
      some (.data (.nat length) ⟨writable, false, false⟩)
    else o.properties.find? k
  | .boxed (.string text), .index n =>
    match text.get? n with
    | some c => some (.data (.string ⟨#[c]⟩) ⟨false, true, false⟩)
    | none => o.properties.find? k
  | .boxed (.string text), .name u =>
    if u == CodeUnits.ofString "length" then some (.data (.nat text.size) .none)
    else o.properties.find? k
  | _, _ => o.properties.find? k

/-- Merges two ascending lists. -/
def mergeIndices (a b : List Nat) : List Nat :=
  if b.isEmpty then a else ((a ++ b).mergeSort).eraseDups

/-- The keys of an object that stands for itself, in order. -/
def keysOf (o : Obj) : List Key :=
  let named := o.properties.names
  let indexed := o.properties.indices
  match o.kind with
  | .array items _ _ =>
    let own := (List.range items.size).filter fun i => (items.getD i none).isSome
    (mergeIndices own indexed).map .index ++ .name (CodeUnits.ofString "length") :: named
  | .boxed (.string text) =>
    (mergeIndices (List.range text.size) indexed).map .index ++
      .name (CodeUnits.ofString "length") :: named
  | _ => indexed.map .index ++ named

/-- What is to become of a property. What is left out stays as it is. -/
structure Descriptor where
  value : Option Value := none
  getter : Option Value := none
  setter : Option Value := none
  writable : Option Bool := none
  enumerable : Option Bool := none
  configurable : Option Bool := none
  deriving Inhabited

namespace Descriptor

/-- Describes a whole property. -/
def ofProperty : Property → Descriptor
  | .data v a =>
    { value := some v, writable := some a.writable, enumerable := some a.enumerable
      configurable := some a.configurable }
  | .accessor g s e c =>
    { getter := some g, setter := some s, enumerable := some e, configurable := some c }

/-- Describes a value with attributes. -/
def ofValue (v : Value) (a : Attributes) : Descriptor := ofProperty (.data v a)

/-- Whether functions that read or write are described. -/
def isAccessor (d : Descriptor) : Bool := d.getter.isSome || d.setter.isSome

/-- Whether a value is described. -/
def isData (d : Descriptor) : Bool := d.value.isSome || d.writable.isSome

/-- The property that is added, where there was none. -/
def fresh (d : Descriptor) : Property :=
  if d.isAccessor then
    .accessor (d.getter.getD .undefined) (d.setter.getD .undefined) (d.enumerable.getD false)
      (d.configurable.getD false)
  else
    .data (d.value.getD .undefined)
      ⟨d.writable.getD false, d.enumerable.getD false, d.configurable.getD false⟩

/-- The property that the described one becomes. -/
def update (d : Descriptor) : Property → Property
  | .data v a =>
    let e := d.enumerable.getD a.enumerable
    let c := d.configurable.getD a.configurable
    if d.isAccessor then .accessor (d.getter.getD .undefined) (d.setter.getD .undefined) e c
    else .data (d.value.getD v) ⟨d.writable.getD a.writable, e, c⟩
  | .accessor g s e c =>
    let e := d.enumerable.getD e
    let c := d.configurable.getD c
    if d.isData then .data (d.value.getD .undefined) ⟨d.writable.getD false, e, c⟩
    else .accessor (d.getter.getD g) (d.setter.getD s) e c

/-- Whether an optional part says what is there already. -/
def agrees {α : Type} (same : α → α → Bool) (now : α) : Option α → Bool
  | none => true
  | some a => same a now

/-- Whether the description may be applied to a property. -/
def compatible (d : Descriptor) (p : Property) : Bool :=
  p.isConfigurable ||
    (d.configurable != some true && agrees (· == ·) p.isEnumerable d.enumerable &&
      match p with
      | .data v a =>
        !d.isAccessor && (a.writable || (d.writable != some true && agrees Value.same v d.value))
      | .accessor g s _ _ =>
        !d.isData && agrees Value.same g d.getter && agrees Value.same s d.setter)

end Descriptor

/-- Gaps up to this size are filled when an item is added behind the others. -/
def gapBound : Nat := 1024

/-- Puts a property into an object, whatever was there. -/
def putOwn (o : Obj) (k : Key) (p : Property) : Obj :=
  match o.kind, k with
  | .array items length writable, .index n =>
    let length := max length (n + 1)
    match p with
    | .data v a =>
      if a == .all && !o.properties.contains k && n ≤ items.size + gapBound then
        let items :=
          if n < items.size then items.set! n (some v)
          else if n == items.size then items.push (some v)
          else (items ++ Array.replicate (n - items.size) none).push (some v)
        { o with kind := .array items length writable }
      else
        { o with
          kind := .array (items.setIfInBounds n none) length writable
          properties := o.properties.insert k p }
    | _ =>
      { o with
        kind := .array (items.setIfInBounds n none) length writable
        properties := o.properties.insert k p }
  | _, _ => { o with properties := o.properties.insert k p }

/-- Takes a property away. -/
def eraseOwn (o : Obj) (k : Key) : Obj :=
  match o.kind, k with
  | .array items length writable, .index n =>
    if n < items.size then
      { o with
        kind := .array (items.setIfInBounds n none) length writable
        properties := o.properties.erase k }
    else { o with properties := o.properties.erase k }
  | _, _ => { o with properties := o.properties.erase k }

/-- Removes the properties of the given indices, the last first, up to one that stays: the
object, and the index that stayed. -/
def removeIndices (o : Obj) : List Nat → Obj × Option Nat
  | [] => (o, none)
  | n :: rest =>
    match o.properties.find? (.index n) with
    | some p =>
      if p.isConfigurable then
        removeIndices { o with properties := o.properties.erase (.index n) } rest
      else (o, some n)
    | none => removeIndices o rest

/-- Gives an array another length; tells whether that was possible. -/
def resize (o : Obj) (length : Nat) : Obj × Bool :=
  match o.kind with
  | .array items old writable =>
    if old ≤ length then ({ o with kind := .array items length writable }, true)
    else
      let beyond := (o.properties.indices.filter (length ≤ ·)).reverse
      let (o, kept) := removeIndices { o with kind := .plain } beyond
      let length' := match kept with | some n => n + 1 | none => length
      ({ o with kind := .array (items.extract 0 length') length' writable }, kept.isNone)
  | _ => (o, false)

/-- Why an object cannot be written to. -/
inductive Refusal where
  | readOnly
  | noSetter
  | notExtensible
  | notObject
  /-- A handler said no. -/
  | denied
  deriving DecidableEq, Repr

/-! ### Kinds of values -/

/-- Whether a value may be called. -/
def isCallable (v : Value) : M Bool := do
  match v with
  | .object r => return (← getKind r).isCallable
  | _ => return false

/-- Whether an object may be called with `new`. -/
def isConstructor (r : Ref) : M Bool := do
  match ← getKind r with
  | .closure c => return c.code.isConstructor
  | .native _ _ constructible => return constructible
  | .bound target _ _ =>
    match ← getKind target with
    | .closure c => return c.code.isConstructor
    | .native _ _ constructible => return constructible
    | .proxy _ _ _ constructible => return constructible
    | _ => return false
  | .proxy _ _ _ constructible => return constructible
  | _ => return false

/-- How a key is shown in messages. -/
def keyText (k : Key) : M String := do
  match k with
  | .symbol s => return ((← symbolDescription s).getD ∅).toStringLossy
  | .hidden s => return ((← symbolDescription s).getD ∅).toStringLossy
  | k => return (k.toUnits?.getD ∅).toStringLossy

/-- The object whose properties a value has that is none. -/
def prototypeOfPrimitive : Value → Option Intrinsic
  | .bool _ => some .booleanPrototype
  | .number _ => some .numberPrototype
  | .bigint _ => some .bigintPrototype
  | .string _ => some .stringPrototype
  | .symbol _ => some .symbolPrototype
  | _ => none

/-! ### Handlers -/

/-- The target and the handler of an object that stands for another one. -/
def proxyParts (target handler : Option Ref) : M (Ref × Ref) := do
  match target, handler with
  | some t, some h => return (t, h)
  | _, _ => typeError "revoked proxy"

/-! ### Reading -/

/-- Bound of chains of prototypes. -/
def chainBound : M Nat := do return (← get).objects.size + 1

mutual

/-- Reads a property, from an object on along its chain of at most so many prototypes. -/
def getFrom : Nat → Ref → Key → Value → M Value
  | 0, _, _, _ => return .undefined
  | n + 1, r, k, receiver => do
    let o ← getObj r
    match o.kind with
    | .proxy target handler _ _ =>
      let (t, h) ← proxyParts target handler
      match ← trapOf n h "get" with
      | some f => call f (.object h) #[.object t, k.toValue, receiver]
      | none => getFrom n t k receiver
    | _ =>
      match ownOf o k with
      | some (.data v _) => return v
      | some (.accessor g _ _ _) =>
        match g with
        | .object _ => call g receiver #[]
        | _ => return .undefined
      | none =>
        match o.prototype with
        | some p => getFrom n p k receiver
        | none => return .undefined

/-- The function of a handler, if it has one. -/
def trapOf : Nat → Ref → String → M (Option Value)
  | 0, _, _ => return none
  | n + 1, h, name => do
    match ← getFrom n h (.ofString name) (.object h) with
    | .undefined => return none
    | .null => return none
    | f => if ← isCallable f then return some f else typeError "not a function"

end

/-- Reads a property of an object. -/
@[inline] def getProp (r : Ref) (k : Key) : M Value := do
  getFrom (← chainBound) r k (.object r)

/-- The function of a handler, if it has one. -/
def trap (h : Ref) (name : String) : M (Option Value) := do trapOf (← chainBound) h name

/-- Reads a property of any value. -/
def getValue (v : Value) (k : Key) : M Value := do
  match v with
  | .object r => getProp r k
  | .undefined => typeError ("cannot read property '" ++ (← keyText k) ++ "' of undefined")
  | .null => typeError ("cannot read property '" ++ (← keyText k) ++ "' of null")
  | .string u =>
    match k with
    | .index n =>
      match u.get? n with
      | some c => return .string ⟨#[c]⟩
      | none => getFrom (← chainBound) Intrinsic.stringPrototype.ref k v
    | .name name =>
      if name == CodeUnits.ofString "length" then return .nat u.size
      else getFrom (← chainBound) Intrinsic.stringPrototype.ref k v
    | _ => getFrom (← chainBound) Intrinsic.stringPrototype.ref k v
  | v =>
    match prototypeOfPrimitive v with
    | some p => getFrom (← chainBound) p.ref k v
    | none => return .undefined

/-- Reads a function of a value; `undefined` and `null` are none. -/
def getMethod (v : Value) (k : Key) : M (Option Value) := do
  match ← getValue v k with
  | .undefined => return none
  | .null => return none
  | f => if ← isCallable f then return some f else typeError "not a function"

/-- Calls a function that is a property of a value. -/
def invoke (v : Value) (k : Key) (args : Array Value := #[]) : M Value := do
  call (← getValue v k) v args

/-! ### Descriptions as objects -/

/-- The object that describes a property. -/
def fromProperty (p : Option Property) : M Value := do
  match p with
  | none => return .undefined
  | some p =>
    let fields : List (String × Value) :=
      match p with
      | .data v a =>
        [("value", v), ("writable", .bool a.writable), ("enumerable", .bool a.enumerable),
          ("configurable", .bool a.configurable)]
      | .accessor g s e c =>
        [("get", g), ("set", s), ("enumerable", .bool e), ("configurable", .bool c)]
    let r ← newObject
    modifyObj r fun o =>
      { o with
        properties :=
          fields.foldl (fun m (f : String × Value) => m.insert (.ofString f.1) (.data f.2 .all))
            o.properties }
    return .object r

/-- The object that describes what is to become of a property. -/
def fromDescriptor (d : Descriptor) : M Value := do
  let part (name : String) (v : Option Value) : List (String × Value) :=
    match v with
    | some v => [(name, v)]
    | none => []
  let fields :=
    part "value" d.value ++ part "writable" (d.writable.map .bool) ++ part "get" d.getter ++
      part "set" d.setter ++ part "enumerable" (d.enumerable.map .bool) ++
      part "configurable" (d.configurable.map .bool)
  let r ← newObject
  modifyObj r fun o =>
    { o with
      properties :=
        fields.foldl (fun m (f : String × Value) => m.insert (.ofString f.1) (.data f.2 .all))
          o.properties }
  return .object r

mutual

/-- Whether an object or one of its prototypes has a property. -/
def hasFrom : Nat → Ref → Key → M Bool
  | 0, _, _ => return false
  | n + 1, r, k => do
    let o ← getObj r
    match o.kind with
    | .proxy target handler _ _ =>
      let (t, h) ← proxyParts target handler
      match ← trap h "has" with
      | some f => return (← call f (.object h) #[.object t, k.toValue]).truthy
      | none => hasFrom n t k
    | _ =>
      if (ownOf o k).isSome then return true
      else
        match o.prototype with
        | some p => hasFrom n p k
        | none => return false

end

/-- Whether an object or one of its prototypes has a property. -/
def hasProperty (r : Ref) (k : Key) : M Bool := do hasFrom (← chainBound) r k

/-- Reads what a description says of a property. -/
def toDescriptor (v : Value) : M Descriptor := do
  match v with
  | .object r =>
    let part (name : String) : M (Option Value) := do
      if ← hasProperty r (.ofString name) then return some (← getProp r (.ofString name))
      else return none
    let enumerable ← part "enumerable"
    let configurable ← part "configurable"
    let value ← part "value"
    let writable ← part "writable"
    let getter ← part "get"
    let setter ← part "set"
    for f in [getter, setter] do
      match f with
      | some f => if !f.isUndefined && !(← isCallable f) then typeError "invalid getter or setter"
      | none => pure ()
    let d : Descriptor :=
      { value, getter, setter, writable := writable.map Value.truthy
        enumerable := enumerable.map Value.truthy, configurable := configurable.map Value.truthy }
    if d.isAccessor && d.isData then
      typeError "cannot have setter/getter and value or writable"
    return d
  | _ => typeError "not an object"

/-! ### Own properties of any object -/

/-- An own property. -/
def getOwnFrom : Nat → Ref → Key → M (Option Property)
  | 0, _, _ => return none
  | n + 1, r, k => do
    let o ← getObj r
    match o.kind with
    | .proxy target handler _ _ =>
      let (t, h) ← proxyParts target handler
      match ← trap h "getOwnPropertyDescriptor" with
      | some f =>
        match ← call f (.object h) #[.object t, k.toValue] with
        | .undefined =>
          match ← getOwnFrom n t k with
          | some p =>
            if p.isConfigurable then return none
            else typeError "proxy: inconsistent getOwnPropertyDescriptor"
          | none => return none
        | v =>
          if v.isObject then return some (← toDescriptor v).fresh
          else typeError "proxy: invalid getOwnPropertyDescriptor"
      | none => getOwnFrom n t k
    | _ => return ownOf o k

/-- An own property. -/
@[inline] def getOwn (r : Ref) (k : Key) : M (Option Property) := do
  getOwnFrom (← chainBound) r k

/-- The keys of an object. -/
def ownKeysFrom : Nat → Ref → M (List Key)
  | 0, _ => return []
  | n + 1, r => do
    let o ← getObj r
    match o.kind with
    | .proxy target handler _ _ =>
      let (t, h) ← proxyParts target handler
      match ← trap h "ownKeys" with
      | some f =>
        match ← call f (.object h) #[.object t] with
        | .object list =>
          let length ← getProp list "length"
          let count := match length with | .number x => x.toUInt64.toNat | _ => 0
          (List.range count).mapM fun i => do
            match ← getProp list (.ofNat i) with
            | .string u => return .ofUnits u
            | .symbol s => return .symbol s
            | _ => typeError "proxy: properties must be strings or symbols"
        | _ => typeError "not an object"
      | none => ownKeysFrom n t
    | _ => return keysOf o

/-- The keys of an object. -/
def ownKeys (r : Ref) : M (List Key) := do ownKeysFrom (← chainBound) r

/-- The prototype of an object. -/
def prototypeFrom : Nat → Ref → M (Option Ref)
  | 0, _ => return none
  | n + 1, r => do
    let o ← getObj r
    match o.kind with
    | .proxy target handler _ _ =>
      let (t, h) ← proxyParts target handler
      match ← trap h "getPrototypeOf" with
      | some f =>
        match ← call f (.object h) #[.object t] with
        | .object p => return some p
        | .null => return none
        | _ => typeError "proxy: inconsistent prototype"
      | none => prototypeFrom n t
    | _ => return o.prototype

/-- The prototype of an object. -/
def prototypeOf (r : Ref) : M (Option Ref) := do prototypeFrom (← chainBound) r

/-- Whether properties may be added. -/
def extensibleFrom : Nat → Ref → M Bool
  | 0, _ => return false
  | n + 1, r => do
    let o ← getObj r
    match o.kind with
    | .proxy target handler _ _ =>
      let (t, h) ← proxyParts target handler
      match ← trap h "isExtensible" with
      | some f => return (← call f (.object h) #[.object t]).truthy
      | none => extensibleFrom n t
    | _ => return o.extensible

/-- Whether properties may be added. -/
def isExtensible (r : Ref) : M Bool := do extensibleFrom (← chainBound) r

/-- Forbids adding properties. -/
def preventExtensionsFrom : Nat → Ref → M Bool
  | 0, _ => return false
  | n + 1, r => do
    let o ← getObj r
    match o.kind with
    | .proxy target handler _ _ =>
      let (t, h) ← proxyParts target handler
      match ← trap h "preventExtensions" with
      | some f => return (← call f (.object h) #[.object t]).truthy
      | none => preventExtensionsFrom n t
    | _ =>
      modifyObj r fun o => { o with extensible := false }
      return true

/-- Forbids adding properties. -/
def preventExtensions (r : Ref) : M Bool := do preventExtensionsFrom (← chainBound) r

/-- Whether an object is in a chain of prototypes. -/
def inChain (goal : Ref) : Nat → Option Ref → M Bool
  | 0, _ => return false
  | _ + 1, none => return false
  | n + 1, some r => do
    if r == goal then return true
    match (← getObj r).kind with
    | .proxy _ _ _ _ => return false
    | _ => inChain goal n (← getObj r).prototype

/-- Gives an object another prototype. -/
def setPrototypeFrom : Nat → Ref → Option Ref → M (Except Refusal Unit)
  | 0, _, _ => return .error .denied
  | n + 1, r, p => do
    let o ← getObj r
    match o.kind with
    | .proxy target handler _ _ =>
      let (t, h) ← proxyParts target handler
      match ← trap h "setPrototypeOf" with
      | some f =>
        let v := match p with | some p => Value.object p | none => .null
        if (← call f (.object h) #[.object t, v]).truthy then return .ok ()
        else return .error .denied
      | none => setPrototypeFrom n t p
    | _ =>
      if o.prototype == p then return .ok ()
      else if !o.extensible then return .error .notExtensible
      else if ← inChain r (← chainBound) p then return .error .readOnly
      else
        modifyObj r fun o => { o with prototype := p }
        return .ok ()

/-- Gives an object another prototype. -/
def setPrototype (r : Ref) (p : Option Ref) : M (Except Refusal Unit) := do
  setPrototypeFrom (← chainBound) r p

/-! ### Defining and removing -/

/-- The number of items that a value asks for as the length of an array. -/
def lengthOf? (v : Value) : Option Nat :=
  match v with
  | .number x =>
    if x ≥ 0 && x < 4294967296 && x.floor == x then some x.toUInt64.toNat else none
  | _ => none

/-- Defines the length of an array. -/
def defineLength (r : Ref) (o : Obj) (d : Descriptor) : M Bool := do
  match o.kind with
  | .array _ length writable =>
    let wanted ← match d.value with
      | some v =>
        match lengthOf? v with
        | some n => pure n
        | none => rangeError "invalid array length"
      | none => pure length
    if d.isAccessor || d.configurable == some true || d.enumerable == some true then return false
    if !writable && (wanted != length || d.writable == some true) then return false
    let fits ← modifyGet fun s =>
      let (o, fits) := resize (s.objects.getD r.index default) wanted
      (fits, { s with objects := s.objects.setIfInBounds r.index o })
    if d.writable == some false then
      modifyObj r fun o =>
        match o.kind with
        | .array items n _ => { o with kind := .array items n false }
        | _ => o
    return fits
  | _ => return false

/-- Defines an own property of an object that stands for itself. -/
def defineOrdinary (r : Ref) (k : Key) (d : Descriptor) : M (Except Refusal Unit) := do
  let o ← getObj r
  match ownOf o k with
  | none =>
    let blocked : Bool :=
      match o.kind, k with
      | .array _ length false, .index n => length ≤ n
      | _, _ => false
    if !o.extensible then return .error .notExtensible
    else if blocked then return .error .readOnly
    else
      charge (match o.kind, k with | .array _ _ _, .index _ => itemCost | _, _ => propertyCost)
      modifyObj r fun o => putOwn o k d.fresh
      return .ok ()
  | some p =>
    if !d.compatible p then return .error .readOnly
    else
      modifyObj r fun o => putOwn o k (d.update p)
      return .ok ()

/-- Whether a key is the length of an array or a text. -/
def isLength (k : Key) : Bool :=
  match k with
  | .name u => u == CodeUnits.ofString "length"
  | _ => false

/-- Defines an own property. -/
def defineFrom : Nat → Ref → Key → Descriptor → M (Except Refusal Unit)
  | 0, _, _, _ => return .error .denied
  | n + 1, r, k, d => do
    let o ← getObj r
    match o.kind with
    | .proxy target handler _ _ =>
      let (t, h) ← proxyParts target handler
      match ← trap h "defineProperty" with
      | some f =>
        if (← call f (.object h) #[.object t, k.toValue, ← fromDescriptor d]).truthy then
          return .ok ()
        else return .error .denied
      | none => defineFrom n t k d
    | .array _ _ _ =>
      if isLength k then
        return if ← defineLength r o d then .ok () else .error .readOnly
      else defineOrdinary r k d
    | .boxed (.string _) =>
      match ownOf o k, o.properties.find? k with
      | some p, none => return if d.compatible p then .ok () else .error .readOnly
      | _, _ => defineOrdinary r k d
    | _ => defineOrdinary r k d

/-- Defines an own property. -/
def define (r : Ref) (k : Key) (d : Descriptor) : M (Except Refusal Unit) := do
  defineFrom (← chainBound) r k d

/-- The error for a property that cannot be defined. -/
def failDefine {α : Type} (why : Refusal) : M α :=
  match why with
  | .notExtensible => typeError "object is not extensible"
  | .denied => typeError "proxy: defineProperty exception"
  | _ => typeError "property is not configurable"

/-- Defines an own property, which has to be possible. -/
def defineOrThrow (r : Ref) (k : Key) (d : Descriptor) : M Unit := do
  match ← define r k d with
  | .ok () => return ()
  | .error why => failDefine why

/-- Adds an own property as a script does, which has to be possible. -/
def createData (r : Ref) (k : Key) (v : Value) : M Unit :=
  defineOrThrow r k (.ofValue v .all)

/-- Puts a property of a standard object or of a new one. -/
def putHidden (r : Ref) (k : Key) (v : Value) : M Unit :=
  modifyObj r fun o => putOwn o k (.data v .hidden)

/-- Puts a property that scripts may change. -/
def putData (r : Ref) (k : Key) (v : Value) : M Unit := do
  charge propertyCost
  modifyObj r fun o => putOwn o k (.data v .all)

/-- Removes an own property; tells whether it is gone. -/
def deleteFrom : Nat → Ref → Key → M Bool
  | 0, _, _ => return false
  | n + 1, r, k => do
    let o ← getObj r
    match o.kind with
    | .proxy target handler _ _ =>
      let (t, h) ← proxyParts target handler
      match ← trap h "deleteProperty" with
      | some f => return (← call f (.object h) #[.object t, k.toValue]).truthy
      | none => deleteFrom n t k
    | _ =>
      match ownOf o k with
      | none => return true
      | some p =>
        if p.isConfigurable then
          modifyObj r fun o => eraseOwn o k
          return true
        else return false

/-- Removes an own property; tells whether it is gone. -/
def deleteProp (r : Ref) (k : Key) : M Bool := do deleteFrom (← chainBound) r k

/-! ### Writing -/

/-- Writes to a receiver, where no property on the way forbids it. -/
def setOnReceiver (k : Key) (v : Value) (receiver : Value) : M (Except Refusal Unit) := do
  match receiver with
  | .object r =>
    match ← getOwn r k with
    | some (.accessor _ _ _ _) => return .error .noSetter
    | some (.data _ a) =>
      if a.writable then define r k { value := some v } else return .error .readOnly
    | none => define r k (.ofValue v .all)
  | _ => return .error .notObject

/-- Writes a property, which is looked for from an object on along its chain. -/
def setFrom : Nat → Ref → Key → Value → Value → M (Except Refusal Unit)
  | 0, _, _, _, _ => return .error .denied
  | n + 1, r, k, v, receiver => do
    let o ← getObj r
    match o.kind with
    | .proxy target handler _ _ =>
      let (t, h) ← proxyParts target handler
      match ← trap h "set" with
      | some f =>
        if (← call f (.object h) #[.object t, k.toValue, v, receiver]).truthy then return .ok ()
        else return .error .denied
      | none => setFrom n t k v receiver
    | _ =>
      match ownOf o k with
      | some (.data _ a) =>
        if !a.writable then return .error .readOnly
        else
          match receiver with
          | .object s =>
            if r == s && !isLength k then
              modifyObj r fun o => putOwn o k (.data v a)
              return .ok ()
            else setOnReceiver k v receiver
          | _ => return .error .notObject
      | some (.accessor _ s _ _) =>
        match s with
        | .object _ =>
          let _ ← call s receiver #[v]
          return .ok ()
        | _ => return .error .noSetter
      | none =>
        match o.prototype with
        | some p => setFrom n p k v receiver
        | none => setOnReceiver k v receiver

/-- The error for a property that cannot be written. -/
def failSet {α : Type} (k : Key) (why : Refusal) : M α := do
  match why with
  | .readOnly => typeError ("'" ++ (← keyText k) ++ "' is read-only")
  | .noSetter => typeError "no setter for property"
  | .notExtensible => typeError "object is not extensible"
  | .notObject => typeError "not an object"
  | .denied => typeError "proxy: cannot set property"

/-- Writes a property of an object, which has to be possible. -/
def setProp (r : Ref) (k : Key) (v : Value) : M Unit := do
  match ← setFrom (← chainBound) r k v (.object r) with
  | .ok () => return ()
  | .error why => failSet k why

/-- Writes a property of any value, which has to be possible. -/
def setValue (base : Value) (k : Key) (v : Value) : M Unit := do
  match base with
  | .object r => setProp r k v
  | .undefined => typeError ("cannot set property '" ++ (← keyText k) ++ "' of undefined")
  | .null => typeError ("cannot set property '" ++ (← keyText k) ++ "' of null")
  | .string u =>
    let own : Bool :=
      match k with
      | .index n => n < u.size
      | k => isLength k
    if own then failSet k .readOnly
    else
      match ← setFrom (← chainBound) Intrinsic.stringPrototype.ref k v base with
      | .ok () => return ()
      | .error why => failSet k why
  | base =>
    match prototypeOfPrimitive base with
    | some p =>
      match ← setFrom (← chainBound) p.ref k v base with
      | .ok () => return ()
      | .error why => failSet k why
    | none => return ()

end PatchSandbox.Machine
