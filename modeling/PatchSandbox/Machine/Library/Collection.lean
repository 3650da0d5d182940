import PatchSandbox.Machine.Library.Iterator
import PatchSandbox.Machine.Library.Object

/-!
# Collections

Maps and sets, those that hold their keys weakly, and weak references. Nothing is ever let
go of in the course of a run, so weak collections keep all they are given.
-/

namespace PatchSandbox.Machine.Library

open PatchSandbox.Text (CodeUnits)

/-- A kind of collections. -/
structure CollectionKind where
  name : String
  prototype : Intrinsic
  make : Table → Kind
  table? : Kind → Option Table
  /-- Changes the entries. -/
  update : (Table → Table) → Kind → Kind
  /-- The member that adds what the constructor is given. -/
  adder : String
  isMap : Bool
  isWeak : Bool

/-- Maps. -/
def mapKind : CollectionKind where
  name := "Map"
  prototype := .mapPrototype
  make := .map
  table? := fun k => match k with | .map t => some t | _ => none
  update := fun f k => match k with | .map t => .map (f t) | k => k
  adder := "set"
  isMap := true
  isWeak := false

/-- Sets. -/
def setKindOf : CollectionKind where
  name := "Set"
  prototype := .setPrototype
  make := .set
  table? := fun k => match k with | .set t => some t | _ => none
  update := fun f k => match k with | .set t => .set (f t) | k => k
  adder := "add"
  isMap := false
  isWeak := false

/-- Maps that hold their keys weakly. -/
def weakMapKind : CollectionKind where
  name := "WeakMap"
  prototype := .weakMapPrototype
  make := .weakMap
  table? := fun k => match k with | .weakMap t => some t | _ => none
  update := fun f k => match k with | .weakMap t => .weakMap (f t) | k => k
  adder := "set"
  isMap := true
  isWeak := true

/-- Sets that hold their values weakly. -/
def weakSetKind : CollectionKind where
  name := "WeakSet"
  prototype := .weakSetPrototype
  make := .weakSet
  table? := fun k => match k with | .weakSet t => some t | _ => none
  update := fun f k => match k with | .weakSet t => .weakSet (f t) | k => k
  adder := "add"
  isMap := false
  isWeak := true

namespace CollectionKind

variable (kind : CollectionKind)

/-- The collection that a call is for. -/
def receiver (c : Call) : M (Ref × Table) := do
  match c.receiver with
  | .object r =>
    match kind.table? (← getKind r) with
    | some t => return (r, t)
    | none => typeError ("not a " ++ kind.name)
  | _ => typeError ("not a " ++ kind.name)

/-- Changes the entries of a collection. -/
def change (r : Ref) (f : Table → Table) : M Unit :=
  modifyObj r fun o => { o with kind := kind.update f o.kind }

/-- Checks what is to be held weakly. -/
def checkKey (v : Value) : M Unit := do
  if kind.isWeak then
    match v with
    | .object _ => return ()
    | .symbol s =>
      if (← get).registry.toList.any fun e => e.2 == s then
        typeError "invalid value used as WeakMap key"
    | _ =>
      typeError
        (if kind.isMap then "invalid value used as WeakMap key"
          else "invalid value used in weak set")

/-- Adds an entry. -/
def add (c : Call) (v : Value) : M Value := do
  let (r, _) ← kind.receiver c
  let k := c.arg 0
  kind.checkKey k
  charge (2 * propertyCost)
  kind.change r (·.insert k v)
  return c.receiver

/-- Makes a collection. -/
def create (c : Call) : M Value := do
  requireNew c
  let r ← alloc { kind := kind.make .empty, prototype := some (← c.prototypeOr kind.prototype) }
  if !(c.arg 0).isNullish then
    let adder ← getProp r (.ofString kind.adder)
    requireFunction adder
    foldIterable (c.arg 0) () fun _ v => do
      if kind.isMap then
        match v with
        | .object e =>
          let k ← getProp e "0"
          discard (call adder (.object r) #[k, ← getProp e "1"])
        | _ => typeError "not an object"
      else discard (call adder (.object r) #[v])
  return .object r

/-- Makes an iterator over the entries. -/
def iterator (step : StepKind) (c : Call) : M Value := do
  let (r, _) ← kind.receiver c
  return .object (← alloc
    { kind := .tableIterator (some r) 0 step (kind.name ++ " Iterator")
      prototype :=
        some (if kind.isMap then Intrinsic.mapIteratorPrototype.ref
          else Intrinsic.setIteratorPrototype.ref) })

/-- Calls a function for every entry, also for those that are added meanwhile. -/
def forEach (c : Call) : M Value := do
  let (r, _) ← kind.receiver c
  requireFunction (c.arg 0)
  repeating 0 fun i => do
    match (kind.table? (← getKind r)).bind (·.next? i) with
    | some ((k, v), i) =>
      let _ ← call (c.arg 0) (c.arg 1) #[v, k, .object r]
      return .inl i
    | none => return .inr Value.undefined

/-- The members that all kinds of collections have. -/
def members (constructor : Intrinsic) : List Member :=
  [ .constructor constructor
    , .fn "has" 1 fun c => do return .bool ((← kind.receiver c).2.contains (c.arg 0))
    , .fn "delete" 1 fun c => do
        let (r, t) ← kind.receiver c
        let found := t.contains (c.arg 0)
        kind.change r (·.erase (c.arg 0))
        return .bool found
    , .tag kind.name ]

/-- The members of maps, weak or not. -/
def mapMembers : List Member :=
  [ .fn "get" 1 fun c => do return ((← kind.receiver c).2.find? (c.arg 0)).getD .undefined
    , .fn "set" 2 fun c => kind.add c (c.arg 1) ]

/-- The members of collections that can be gone over. -/
def listedMembers : List Member :=
  [ .fn "clear" 0 fun c => do
      let (r, _) ← kind.receiver c
      kind.change r Table.clear
      return .undefined
    , .getter "size" fun c => do return .nat (← kind.receiver c).2.size
    , .fn "forEach" 1 kind.forEach ]

end CollectionKind

/-! ### Sets among themselves -/

/-- What a function of two sets needs of the other one. -/
structure OtherSet where
  self : Value
  size : Float
  has : Value
  keys : Value

/-- Reads what is needed of another set. -/
def otherSet (v : Value) : M OtherSet := do
  let r ← requireRef v
  let size ← toNumber (← getProp r "size")
  if size.isNaN then typeError ".size is not a number"
  let size := truncated size
  if size < 0 then rangeError ".size must be positive"
  let has ← getProp r "has"
  if !(← isCallable has) then typeError ".has is not a function"
  let keys ← getProp r "keys"
  if !(← isCallable keys) then typeError ".keys is not a function"
  return ⟨v, size, has, keys⟩

/-- Whether another set has a value. -/
def OtherSet.contains (o : OtherSet) (v : Value) : M Bool := do
  return (← call o.has o.self #[v]).truthy

/-- The values of another set. -/
def OtherSet.values (o : OtherSet) : M (List Value) := do
  let r ← iteratorFrom o.self (some o.keys)
  return (← foldIterator r #[] fun acc v => return acc.push v).toList

/-- A new set. -/
def newSet (vs : List Value) : M Value := do
  charge (2 * propertyCost * vs.length)
  return .object (← alloc
    { kind := .set (vs.foldl Table.add .empty)
      prototype := some Intrinsic.setPrototype.ref })

/-- A function of the values of two sets. -/
def setFunction (name : String) (f : List Value → OtherSet → M Value) : Member :=
  .fn name 1 fun c => do
    let (_, t) ← setKindOf.receiver c
    f (t.toList.map (·.1)) (← otherSet (c.arg 0))

/-- The functions of two sets. -/
def setFunctions : List Member :=
  [ setFunction "isDisjointFrom" fun vs o => do
      return .bool !(← vs.anyM o.contains)
    , setFunction "isSubsetOf" fun vs o => do
      if o.size < Float.ofNat vs.length then return .bool false
      return .bool (← vs.allM o.contains)
    , setFunction "isSupersetOf" fun vs o => do
      let own := vs.foldl Table.add .empty
      return .bool ((← o.values).all own.contains)
    , setFunction "intersection" fun vs o => do newSet (← vs.filterM o.contains)
    , setFunction "difference" fun vs o => do
      newSet (← vs.filterM fun v => do return !(← o.contains v))
    , setFunction "symmetricDifference" fun vs o => do
      let own := vs.foldl Table.add .empty
      let others ← o.values
      let theirs := others.foldl Table.add .empty
      newSet (vs.filter (fun v => !theirs.contains v) ++ others.filter fun v => !own.contains v)
    , setFunction "union" fun vs o => do newSet (vs ++ (← o.values)) ]

/-- Maps, sets and weak references. -/
def collectionHolders : List Holder :=
  [ .ofConstructor .map .mapPrototype "Map" 0 mapKind.create
      [ .fn "groupBy" 2 fun c => do
          let table ← groupInto (c.arg 0) (c.arg 1) fun v => return v
          return .object (← alloc
            { kind := .map table, prototype := some Intrinsic.mapPrototype.ref })
        , .species ]
  , { object := .mapPrototype
      members := mapKind.members .map ++ mapKind.mapMembers ++ mapKind.listedMembers ++
        [ .fn "values" 0 (mapKind.iterator .value)
          , .fn "keys" 0 (mapKind.iterator .key)
          , .fn "entries" 0 (mapKind.iterator .entry)
          , .same WellKnown.iterator.key "entries" ] }
  , .ofConstructor .set .setPrototype "Set" 0 setKindOf.create [.species]
  , { object := .setPrototype
      members := setKindOf.members .set ++
        [.fn "add" 1 fun c => setKindOf.add c (c.arg 0).entryKey] ++ setKindOf.listedMembers ++
        setFunctions ++
        [ .fn "values" 0 (setKindOf.iterator .value)
          , .same "keys" "values"
          , .same WellKnown.iterator.key "values"
          , .fn "entries" 0 (setKindOf.iterator .entry) ] }
  , .ofConstructor .weakMap .weakMapPrototype "WeakMap" 0 weakMapKind.create
  , { object := .weakMapPrototype
      members := weakMapKind.members .weakMap ++ weakMapKind.mapMembers }
  , .ofConstructor .weakSet .weakSetPrototype "WeakSet" 0 weakSetKind.create
  , { object := .weakSetPrototype
      members := weakSetKind.members .weakSet ++
        [.fn "add" 1 fun c => weakSetKind.add c (c.arg 0)] }
  , .ofConstructor .weakRef .weakRefPrototype "WeakRef" 1 fun c => do
      requireNew c
      if !(c.arg 0).isObject then typeError "invalid target"
      return .object (← alloc
        { kind := .weakRef (c.arg 0), prototype := some (← c.prototypeOr .weakRefPrototype) })
  , { object := .weakRefPrototype
      members :=
        [ .constructor .weakRef
          , .fn "deref" 0 fun c => do
              match ← getKind (← requireRef c.receiver) with
              | .weakRef v => return v
              | _ => typeError "not a WeakRef"
          , .tag "WeakRef" ] } ]

end PatchSandbox.Machine.Library
