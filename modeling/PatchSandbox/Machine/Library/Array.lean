import PatchSandbox.Machine.Library.Iterator
import PatchSandbox.Machine.Library.Member
import PatchSandbox.Machine.Library.Object

/-!
# Arrays

* **`sortValues`** sorts by merging; values that a function does not tell apart keep their
  order, and `undefined` comes last. The function is asked while the machine runs, so it may
  do anything.
* `Array` and its prototype. Most members work for every object that has a length; gaps are
  passed over where items are visited one by one.
-/

/-! ### Sorting -/

namespace PatchSandbox.Machine.Library

open PatchSandbox.Text (CodeUnits)

variable {α : Type}

/-- Merges two sorted lists; the result is added to `acc`, last first. -/
def mergeInto (before : α → α → M Bool) : Nat → List α → List α → List α → M (List α)
  | 0, _, _, acc => return acc
  | _ + 1, [], bs, acc => return bs.reverse ++ acc
  | _ + 1, as, [], acc => return as.reverse ++ acc
  | n + 1, a :: as, b :: bs, acc => do
    takeSteps 1
    -- the second goes first only if it has to
    if ← before b a then mergeInto before n (a :: as) bs (b :: acc)
    else mergeInto before n as (b :: bs) (a :: acc)

/-- Sorts a list whose length is below a power of two. -/
def sortList (before : α → α → M Bool) : Nat → List α → M (List α)
  | 0, as => return as
  | n + 1, as => do
    if as.length ≤ 1 then return as
    let (first, second) := as.splitAt (as.length / 2)
    let first ← sortList before n first
    let second ← sortList before n second
    return (← mergeInto before (as.length + 1) first second []).reverse

/-- Sorts a list. -/
def sorted (before : α → α → M Bool) (as : List α) : M (List α) :=
  sortList before (as.length.log2 + 2) as

/-- Sorts values by a function, or by their texts if there is none. -/
def sortValues (compare : Value) (vs : List Value) : M (List Value) := do
  let (absent, present) := vs.partition Value.isUndefined
  let present ←
    if compare.isUndefined then do
      let keyed ← present.mapM fun v => do return (← toText v, v)
      let keyed ← sorted (fun (a : CodeUnits × Value) b => return a.1.cmp b.1 == .lt) keyed
      pure (keyed.map (·.2))
    else
      sorted
        (fun a b => do
          let x ← toNumber (← call compare .undefined #[a, b])
          return x < 0)
        present
  return present ++ absent

/-- Checks that a value can compare. -/
def requireComparator (v : Value) : M Unit := do
  if !v.isUndefined then requireFunction v

/-! ### Items -/

/-- The object of a call that is gone over like a list, and its length. -/
def receiverList (c : Call) : M (Ref × Nat) := do
  let r ← toObject c.receiver
  return (r, ← lengthOf r)

/-- The item in a place, unless there is a gap. -/
def itemAt? (r : Ref) (i : Nat) : M (Option Value) := do
  match ← getKind r with
  | .array items _ _ =>
    match items.getD i none with
    | some v => return some v
    | none =>
      if ← hasProperty r (.ofNat i) then return some (← getProp r (.ofNat i)) else return none
  | _ => if ← hasProperty r (.ofNat i) then return some (← getProp r (.ofNat i)) else return none

/-- The item in a place. -/
def itemAt (r : Ref) (i : Nat) : M Value := getProp r (.ofNat i)

/-- Changes the length of a list. -/
def setLength (r : Ref) (n : Nat) : M Unit := setProp r "length" (.nat n)

/-- A new array of a length without items. -/
def emptyArray (length : Nat) : M Ref := do
  if Key.indexBound < length then rangeError "invalid array length"
  alloc
    { kind := .array #[] length true, prototype := some Intrinsic.arrayPrototype.ref }

/-- A list of the same class as another one. -/
def speciesList (r : Ref) (length : Nat) : M Ref := do
  if !(← isArray (.object r)) then return ← emptyArray length
  let constructor ← getProp r "constructor"
  let chosen ← match constructor with
    | .object c => getProp c WellKnown.species.key
    | v => pure v
  match chosen with
  | .undefined => emptyArray length
  | .null => emptyArray length
  | .object c =>
    if c == Intrinsic.array.ref then emptyArray length
    else if ← isConstructor c then requireRef (← construct c #[.nat length] c)
    else typeError "not a constructor"
  | _ => typeError "not a constructor"

/-- Writes an item, or makes a gap. -/
def putItem (r : Ref) (i : Nat) (v : Option Value) : M Unit := do
  match v with
  | some v => setProp r (.ofNat i) v
  | none =>
    if !(← deleteProp r (.ofNat i)) then typeError "could not delete property"

/-- Adds items at the end. -/
def pushItems (r : Ref) (vs : Array Value) : M Nat := do
  let o ← getObj r
  let simple : Bool :=
    match o.kind with
    | .array items length writable => writable && o.extensible && items.size == length
    | _ => false
  if simple && o.properties.size == 0 then
    charge (itemCost * vs.size)
    modifyObj r fun o =>
      match o.kind with
      | .array items length writable =>
        { o with kind := .array (items ++ vs.map some) (length + vs.size) writable }
      | _ => o
    lengthOf r
  else
    let n ← lengthOf r
    forRange 0 vs.size fun i => setProp r (.ofNat (n + i)) (vs.getD i .undefined)
    setLength r (n + vs.size)
    return n + vs.size

/-! ### Visiting -/

/-- What a function given as the first argument says of an item. -/
def ask (c : Call) (r : Ref) (v : Value) (i : Nat) : M Value :=
  call (c.arg 0) (c.arg 1) #[v, .nat i, .object r]

/-- Visits the items one by one, without the gaps. -/
def visit {σ : Type} (c : Call) (init : σ) (body : σ → Value → Nat → Value → M σ) : M σ := do
  let (r, n) ← receiverList c
  requireFunction (c.arg 0)
  foldRange 0 n init fun s i => do
    match ← itemAt? r i with
    | some v => body s v i (← ask c r v i)
    | none => return s

/-- Visits the items one by one until there is a result. -/
def visitUntil (c : Call) (otherwise : Value) (body : Value → Nat → Value → Option Value) :
    M Value := do
  let (r, n) ← receiverList c
  requireFunction (c.arg 0)
  repeating 0 fun i => do
    if i < n then
      match ← itemAt? r i with
      | some v =>
        match body v i (← ask c r v i) with
        | some result => return .inr result
        | none => return .inl (i + 1)
      | none => return .inl (i + 1)
    else return .inr otherwise

/-- Looks for an item, gaps included, from one end. -/
def seekItem (c : Call) (fromEnd : Bool) (otherwise : Value) (result : Value → Nat → Value) :
    M Value := do
  let (r, n) ← receiverList c
  requireFunction (c.arg 0)
  repeating 0 fun k => do
    if k < n then
      let i := if fromEnd then n - 1 - k else k
      let v ← itemAt r i
      if (← ask c r v i).truthy then return .inr (result v i) else return .inl (k + 1)
    else return .inr otherwise

/-- Folds the items to one value. -/
def reduceList (fromEnd : Bool) (c : Call) : M Value := do
  let (r, n) ← receiverList c
  let f := c.arg 0
  requireFunction f
  let place (k : Nat) : Nat := if fromEnd then n - 1 - k else k
  let start : Option Value := if c.args.size > 1 then some (c.arg 1) else none
  let acc ← foldRange 0 n start fun acc k => do
    match ← itemAt? r (place k), acc with
    | none, acc => return acc
    | some v, none => return some v
    | some v, some a =>
      return some (← call f .undefined #[a, v, .nat (place k), .object r])
  match acc with
  | some v => return v
  | none => typeError "empty array"

/-! ### Making lists -/

/-- A new list from a stretch of another one. -/
def sliceList (c : Call) : M Value := do
  let (r, n) ← receiverList c
  let start ← relativeIndex (c.arg 0) n 0
  let stop ← relativeIndex (c.arg 1) n n
  let target ← speciesList r (stop - start)
  let count ← foldRange start stop 0 fun k i => do
    match ← itemAt? r i with
    | some v => createData target (.ofNat k) v
    | none => pure ()
    return k + 1
  setLength target count
  return .object target

/-- Whether a value is joined item by item. -/
def isSpreadable (v : Value) : M Bool := do
  match v with
  | .object r =>
    match ← getProp r WellKnown.isConcatSpreadable.key with
    | .undefined => isArray v
    | s => return s.truthy
  | _ => return false

/-- Joins lists. -/
def concatLists (c : Call) : M Value := do
  let r ← toObject c.receiver
  let target ← speciesList r 0
  let count ← (Value.object r :: c.args.toList).foldlM
    (fun count v => do
      if ← isSpreadable v then
        let s ← requireRef v
        let n ← lengthOf s
        forRange 0 n fun i => do
          match ← itemAt? s i with
          | some v => createData target (.ofNat (count + i)) v
          | none => pure ()
        return count + n
      else
        createData target (.ofNat count) v
        return count + 1)
    0
  setLength target count
  return .object target

/-- Adds the items of a list to another one, and those of lists in it. -/
def flattenInto (target : Ref) : Nat → Ref → Float → M Unit
  | 0, _, _ => return ()
  | fuel + 1, r, depth => guardDepth do
    let n ← lengthOf r
    forRange 0 n fun i => do
      match ← itemAt? r i with
      | none => pure ()
      | some v =>
        match v, decide (depth > 0), ← isArray v with
        | .object s, true, true => flattenInto target fuel s (depth - 1)
        | v, _, _ => discard (pushItems target #[v])

/-- A list without lists in it, down to a depth. -/
def flatten (c : Call) : M Value := do
  let r ← toObject c.receiver
  let depth ← if (c.arg 0).isUndefined then pure 1 else toInteger (c.arg 0)
  let target ← speciesList r 0
  flattenInto target 100000 r depth
  return .object target

/-- A list of the items of what a function makes of the items. -/
def flatMap (c : Call) : M Value := do
  let r ← toObject c.receiver
  let target ← speciesList r 0
  visit c () fun _ _ _ result => do
    match result, ← isArray result with
    | .object s, true => flattenInto target 1 s 0
    | v, _ => discard (pushItems target #[v])
  return .object target

/-- The text of the items with a separator between them. -/
def joinList (r : Ref) (separator : CodeUnits) (text : Value → M CodeUnits) : M Value :=
  guardDepth do
  let n ← lengthOf r
  let units ← foldRange 0 n #[] fun acc i => do
    let acc := if i = 0 then acc else acc ++ separator.toArray
    let v ← itemAt r i
    if v.isNullish then return acc
    let u ← text v
    charge u.size
    return acc ++ u.toArray
  newText ⟨units⟩

/-- A new list of a class, from values. -/
def listOfClass (constructor : Value) (vs : Array Value) (sized : Bool) : M Value := do
  match constructor with
  | .object f =>
    if f != Intrinsic.array.ref && (← isConstructor f) then
      let target ← requireRef (← construct f (if sized then #[.nat vs.size] else #[]) f)
      forRange 0 vs.size fun i => createData target (.ofNat i) (vs.getD i .undefined)
      setLength target vs.size
      return .object target
    else newArray vs
  | _ => newArray vs

/-- A list of what another value holds. -/
def listFrom (c : Call) : M Value := do
  let f := c.arg 1
  requireComparator f
  let mapped (v : Value) (i : Nat) : M Value :=
    if f.isUndefined then return v else call f (c.arg 2) #[v, .nat i]
  match ← getMethod (c.arg 0) WellKnown.iterator.key with
  | some method =>
    let r ← iteratorFrom (c.arg 0) (some method)
    let items ← foldIterator r #[] fun acc v => do
      charge itemCost
      return acc.push (← mapped v acc.size)
    listOfClass c.receiver items false
  | none =>
    let r ← toObject (c.arg 0)
    let n ← lengthOf r
    let items ← foldRange 0 n #[] fun acc i => do
      charge itemCost
      return acc.push (← mapped (← itemAt r i) i)
    listOfClass c.receiver items true

/-- Makes an array: of a length, or of items. -/
def makeArray (c : Call) : M Value := do
  let p ← c.prototypeOr .arrayPrototype
  let r ← match c.args.size, c.arg 0 with
    | 1, .number x =>
      match lengthOf? (.number x) with
      | some n => emptyArray n
      | none => rangeError "invalid array length"
    | _, _ => requireRef (← newArray c.args)
  modifyObj r fun o => { o with prototype := some p }
  return .object r

/-! ### Changing lists -/

/-- Moves items within a list, in an order in which none is lost. -/
def moveItems (r : Ref) (start target count : Nat) : M Unit :=
  forRange 0 count fun k => do
    let i := if start < target then count - 1 - k else k
    putItem r (target + i) (← itemAt? r (start + i))

/-- Takes the first item. -/
def shiftList (c : Call) : M Value := do
  let (r, n) ← receiverList c
  if n = 0 then
    setLength r 0
    return .undefined
  let o ← getObj r
  let simple : Bool :=
    match o.kind with
    | .array items length writable =>
      writable && o.extensible && items.size == length && o.properties.size == 0 &&
        items.all Option.isSome
    | _ => false
  if simple then
    let v ← itemAt r 0
    modifyObj r fun o =>
      match o.kind with
      | .array items length writable =>
        { o with kind := .array (items.extract 1 items.size) (length - 1) writable }
      | _ => o
    return v
  else
    let v ← itemAt r 0
    moveItems r 1 0 (n - 1)
    putItem r (n - 1) none
    setLength r (n - 1)
    return v

/-- Takes the last item. -/
def popList (c : Call) : M Value := do
  let (r, n) ← receiverList c
  if n = 0 then
    setLength r 0
    return .undefined
  let v ← itemAt r (n - 1)
  putItem r (n - 1) none
  setLength r (n - 1)
  return v

/-- Adds items at the start. -/
def unshiftList (c : Call) : M Value := do
  let (r, n) ← receiverList c
  let count := c.args.size
  if count > 0 then
    moveItems r 0 count n
    forRange 0 count fun i => setProp r (.ofNat i) (c.arg i)
  setLength r (n + count)
  return .nat (n + count)

/-- The stretch that `splice` takes out: its start and its length. -/
def spliceRange (c : Call) (n : Nat) : M (Nat × Nat) := do
  let start ← relativeIndex (c.arg 0) n 0
  match c.args.size with
  | 0 => return (start, 0)
  | 1 => return (start, n - start)
  | _ =>
    let x ← toInteger (c.arg 1)
    return (start, (min (max x 0) (Float.ofNat (n - start))).toUInt64.toNat)

/-- Replaces a stretch of items by others. -/
def spliceList (c : Call) : M Value := do
  let (r, n) ← receiverList c
  let (start, removed) ← spliceRange c n
  let given := c.args.extract 2 c.args.size
  let target ← speciesList r removed
  forRange 0 removed fun i => do
    match ← itemAt? r (start + i) with
    | some v => createData target (.ofNat i) v
    | none => pure ()
  setLength target removed
  if given.size != removed then
    moveItems r (start + removed) (start + given.size) (n - start - removed)
    forRange 0 (removed - given.size) fun k => putItem r (n - 1 - k) none
  forRange 0 given.size fun i => setProp r (.ofNat (start + i)) (given.getD i .undefined)
  setLength r (n - removed + given.size)
  return .object target

/-- Gives a stretch of items a value. -/
def fillList (c : Call) : M Value := do
  let (r, n) ← receiverList c
  let start ← relativeIndex (c.arg 1) n 0
  let stop ← relativeIndex (c.arg 2) n n
  let o ← getObj r
  let simple : Bool :=
    match o.kind with
    | .array items _ writable => writable && o.extensible && o.properties.size == 0 &&
        start ≤ items.size
    | _ => false
  if simple then
    charge (itemCost * (stop - start))
    takeSteps (stop - start)
    modifyObj r fun o =>
      match o.kind with
      | .array items length writable =>
        let filled := Array.replicate (stop - start) (some (c.arg 0))
        { o with
          kind :=
            .array (items.extract 0 start ++ filled ++ items.extract stop items.size) length
              writable }
      | _ => o
  else forRange start stop fun i => setProp r (.ofNat i) (c.arg 0)
  return .object r

/-- Turns a list around. -/
def reverseList (c : Call) : M Value := do
  let (r, n) ← receiverList c
  forRange 0 (n / 2) fun i => do
    let first ← itemAt? r i
    let last ← itemAt? r (n - 1 - i)
    putItem r i last
    putItem r (n - 1 - i) first
  return .object r

/-- Sorts a list in its place. -/
def sortInPlace (c : Call) : M Value := do
  requireComparator (c.arg 0)
  let (r, n) ← receiverList c
  let present ← foldRange 0 n #[] fun acc i => do
    match ← itemAt? r i with
    | some v => return acc.push v
    | none => return acc
  let ordered := (← sortValues (c.arg 0) present.toList).toArray
  forRange 0 ordered.size fun i => setProp r (.ofNat i) (ordered.getD i .undefined)
  forRange ordered.size n fun i => putItem r i none
  return .object r

/-- Copies a stretch of items to another place of the same list. -/
def copyWithin (c : Call) : M Value := do
  let (r, n) ← receiverList c
  let target ← relativeIndex (c.arg 0) n 0
  let start ← relativeIndex (c.arg 1) n 0
  let stop ← relativeIndex (c.arg 2) n n
  moveItems r start target (min (stop - start) (n - target))
  return .object r

/-! ### Searching -/

/-- The position of a value from the start on. -/
def indexOfItem (c : Call) : M Value := do
  let (r, n) ← receiverList c
  let start ← relativeIndex (c.arg 1) n 0
  repeating start fun i => do
    if i < n then
      match ← itemAt? r i with
      | some v => return if v.strictEquals (c.arg 0) then .inr (.nat i) else .inl (i + 1)
      | none => return .inl (i + 1)
    else return .inr (.number (-1))

/-- The position of a value from the end on. -/
def lastIndexOfItem (c : Call) : M Value := do
  let (r, n) ← receiverList c
  let stop ←
    if c.args.size > 1 then do
      let x ← toInteger (c.arg 1)
      let last := if x < 0 then Float.ofNat n + x else min x (Float.ofNat n - 1)
      pure (if last < 0 then 0 else last.toUInt64.toNat + 1)
    else pure n
  repeating (min stop n) fun k => do
    match k with
    | 0 => return .inr (.number (-1))
    | i + 1 =>
      match ← itemAt? r i with
      | some v => return if v.strictEquals (c.arg 0) then .inr (.nat i) else .inl i
      | none => return .inl i

/-- Whether a value is among the items. -/
def includesItem (c : Call) : M Value := do
  let (r, n) ← receiverList c
  let start ← relativeIndex (c.arg 1) n 0
  repeating start fun i => do
    if i < n then
      return if (← itemAt r i).sameZero (c.arg 0) then .inr (.bool true) else .inl (i + 1)
    else return .inr (.bool false)

/-- The item in a place that may be counted from the end. -/
def itemFromEitherEnd (c : Call) : M Value := do
  let (r, n) ← receiverList c
  let x ← toInteger (c.arg 0)
  let x := if x < 0 then Float.ofNat n + x else x
  if x < 0 || x ≥ Float.ofNat n then return .undefined else itemAt r x.toUInt64.toNat

/-- The items of the list of a call. -/
def receiverItems (c : Call) : M (Array Value) := do itemsOf (.object (← toObject c.receiver))

/-- The members of the prototype of arrays. -/
def arrayMembers : List Member :=
  [ .constructor .array
    , .fn "at" 1 itemFromEitherEnd
    , .fn "with" 2 fun c => do
        let items ← receiverItems c
        let n := items.size
        let x ← toInteger (c.arg 0)
        let x := if x < 0 then Float.ofNat n + x else x
        if x < 0 || x ≥ Float.ofNat n then rangeError "invalid array index"
        newArray (items.setIfInBounds x.toUInt64.toNat (c.arg 1))
    , .fn "concat" 1 concatLists
    , .fn "every" 1 fun c =>
        visitUntil c (.bool true) fun _ _ b => if b.truthy then none else some (.bool false)
    , .fn "some" 1 fun c =>
        visitUntil c (.bool false) fun _ _ b => if b.truthy then some (.bool true) else none
    , .fn "forEach" 1 fun c => do
        visit c () fun _ _ _ _ => return ()
        return .undefined
    , .fn "map" 1 fun c => do
        let (r, n) ← receiverList c
        requireFunction (c.arg 0)
        let target ← speciesList r n
        visit c () fun _ _ i result => createData target (.ofNat i) result
        return .object target
    , .fn "filter" 1 fun c => do
        let r ← toObject c.receiver
        requireFunction (c.arg 0)
        let target ← speciesList r 0
        let _ ← visit c 0 fun k v _ b => do
          if b.truthy then
            createData target (.ofNat k) v
            return k + 1
          else return k
        return .object target
    , .fn "reduce" 1 (reduceList false)
    , .fn "reduceRight" 1 (reduceList true)
    , .fn "fill" 1 fillList
    , .fn "find" 1 fun c => seekItem c false .undefined fun v _ => v
    , .fn "findIndex" 1 fun c => seekItem c false (.number (-1)) fun _ i => .nat i
    , .fn "findLast" 1 fun c => seekItem c true .undefined fun v _ => v
    , .fn "findLastIndex" 1 fun c => seekItem c true (.number (-1)) fun _ i => .nat i
    , .fn "indexOf" 1 indexOfItem
    , .fn "lastIndexOf" 1 lastIndexOfItem
    , .fn "includes" 1 includesItem
    , .fn "join" 1 fun c => do
        let r ← toObject c.receiver
        let separator ← match c.arg 0 with
          | .undefined => pure (CodeUnits.ofString ",")
          | v => toText v
        joinList r separator toText
    , .fn "toString" 0 fun c => do
        let r ← toObject c.receiver
        let join ← getProp r "join"
        if ← isCallable join then call join (.object r) #[] else objectText (.object r)
    , .fn "toLocaleString" 0 fun c => do
        joinList (← toObject c.receiver) (CodeUnits.ofString ",") fun v => do
          toText (← invoke v "toLocaleString")
    , .fn "pop" 0 popList
    , .fn "push" 1 fun c => return .nat (← pushItems (← toObject c.receiver) c.args)
    , .fn "shift" 0 shiftList
    , .fn "unshift" 1 unshiftList
    , .fn "reverse" 0 reverseList
    , .fn "toReversed" 0 fun c => do newArray (← receiverItems c).reverse
    , .fn "sort" 1 sortInPlace
    , .fn "toSorted" 1 fun c => do
        requireComparator (c.arg 0)
        newArray (← sortValues (c.arg 0) (← receiverItems c).toList).toArray
    , .fn "slice" 2 sliceList
    , .fn "splice" 2 spliceList
    , .fn "toSpliced" 2 fun c => do
        let items ← receiverItems c
        let (start, removed) ← spliceRange c items.size
        newArray (items.extract 0 start ++ c.args.extract 2 c.args.size ++
          items.extract (start + removed) items.size)
    , .fn "copyWithin" 2 copyWithin
    , .fn "flatMap" 1 flatMap
    , .fn "flat" 0 flatten
    , .fn "values" 0 fun c => arrayIterator c.receiver .value
    , .same WellKnown.iterator.key "values"
    , .fn "keys" 0 fun c => arrayIterator c.receiver .key
    , .fn "entries" 0 fun c => arrayIterator c.receiver .entry ]

/-- `Array` and its prototype. -/
def arrayHolders : List Holder :=
  [ .ofConstructor .array .arrayPrototype "Array" 1 makeArray
      [ .fn "isArray" 1 fun c => return .bool (← isArray (c.arg 0))
        , .fn "from" 1 listFrom
        , .fn "of" 0 fun c => listOfClass c.receiver c.args true
        , .species ]
  , { object := .arrayPrototype, kind := .array #[] 0 true, members := arrayMembers } ]

end PatchSandbox.Machine.Library
