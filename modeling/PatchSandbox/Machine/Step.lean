import PatchSandbox.Machine.Call

/-!
# Steps

**`step`** carries out one instruction of the call that is under way. It either changes that
call, enters another one, or brings the call to rest.
-/

namespace PatchSandbox.Machine

open PatchSandbox.Text (CodeUnits)

/-! ### Variables -/

/-- The scope that is `depth` scopes further out. -/
def outerScope (scopes : Array Scope) : Nat → Option Nat → Option Nat
  | 0, s => s
  | _ + 1, none => none
  | n + 1, some i => outerScope scopes n (scopes.getD i default).parent

/-- Where a variable of a scope is. -/
@[inline] def scopeAt (depth : Nat) : M Nat := do
  let s ← get
  return (outerScope s.scopes depth s.frame.scope).getD s.scopes.size

/-- Raises the error for a variable without a value. -/
def notInitialized {α : Type} (name : String) : M α :=
  fail .referenceError (name ++ " is not initialized")

/-- Raises the error for a variable that there is none of. -/
def notDefined {α : Type} (name : Key) : M α := do
  fail .referenceError ((← keyText name) ++ " is not defined")

/-- Gives a variable of a call a value. -/
@[inline] def putLocal (slot : Nat) (v : Option Value) : M Unit :=
  modifyFrame fun f => { f with locals := f.locals.setIfInBounds slot v }

/-- The value of a variable of a call. -/
@[inline] def localAt (slot : Nat) : M (Option Value) := do
  return (← get).frame.locals.getD slot none

/-- Gives a variable of a scope a value. -/
@[inline] def putScoped (scope slot : Nat) (v : Option Value) : M Unit := modify fun s =>
  { s with
    scopes := s.scopes.modify scope fun c => { c with slots := c.slots.setIfInBounds slot v } }

/-- The value of a variable of a scope. -/
@[inline] def scopedAt (scope slot : Nat) : M (Option Value) := do
  return ((← get).scopes.getD scope default).slots.getD slot none

/-- Cost of a scope. -/
def scopeCost (size : Nat) : Nat := 48 + 16 * size

/-- Opens a scope. -/
def enterScope (size : Nat) : M Unit := do
  charge (scopeCost size)
  modify fun s =>
    let scope : Scope := ⟨s.frame.scope, Array.replicate size none⟩
    { s with
      scopes := s.scopes.push scope
      frame := { s.frame with scope := some s.scopes.size } }

/-- Leaves a scope. -/
def leaveScope : M Unit := modify fun s =>
  let parent := s.frame.scope.bind fun i => (s.scopes.getD i default).parent
  { s with frame := { s.frame with scope := parent } }

/-- Replaces a scope by a copy. -/
def renewScope : M Unit := do
  let s ← get
  match s.frame.scope with
  | none => return ()
  | some i =>
    let scope := s.scopes.getD i default
    charge (scopeCost scope.slots.size)
    modify fun s =>
      { s with
        scopes := s.scopes.push scope
        frame := { s.frame with scope := some s.scopes.size } }

/-- The global object. -/
def globalRef : Ref := Intrinsic.global.ref

/-- The value of a variable of the outermost level. -/
def loadGlobal? (name : Key) : M (Option Value) := do
  match (← get).lexicals[name]? with
  | some l =>
    match l.value with
    | some v => return some v
    | none => notInitialized (← keyText name)
  | none =>
    if ← hasProperty globalRef name then return some (← getProp globalRef name) else return none

/-- Gives a variable of the outermost level another value. -/
def storeGlobal (name : Key) (v : Value) : M Unit := do
  match (← get).lexicals[name]? with
  | some l =>
    if l.value.isNone then notInitialized (← keyText name)
    if l.isConst then typeError ("'" ++ (← keyText name) ++ "' is read-only")
    modify fun s => { s with lexicals := s.lexicals.insert name { l with value := some v } }
  | none =>
    if ← hasProperty globalRef name then setProp globalRef name v else notDefined name

/-- Gives a variable of the outermost level its first value. -/
def initGlobal (name : Key) (v : Value) : M Unit := do
  match (← get).lexicals[name]? with
  | some l =>
    modify fun s => { s with lexicals := s.lexicals.insert name { l with value := some v } }
  | none => setProp globalRef name v

/-- Raises the error for a name that is declared twice. -/
def redeclared {α : Type} (name : Key) : M α := do
  fail .syntaxError ("redeclaration of '" ++ (← keyText name) ++ "'")

/-- Attributes of what scripts declare as properties of the global object. -/
def declaredAttributes : Attributes := ⟨true, true, false⟩

/-- Declares a name that is a property of the global object. -/
def declareVar (name : Key) (v : Option Value) : M Unit := do
  if (← get).lexicals.contains name then redeclared name
  match ← getOwn globalRef name, v with
  | none, _ =>
    defineOrThrow globalRef name (.ofValue (v.getD .undefined) declaredAttributes)
  | some p, some v =>
    if p.isConfigurable then defineOrThrow globalRef name (.ofValue v declaredAttributes)
    else defineOrThrow globalRef name { value := some v }
  | some _, none => return ()

/-- Declares a name that is none. -/
def declareLexical (name : Key) (isConst : Bool) : M Unit := do
  if (← get).lexicals.contains name then redeclared name
  match ← getOwn globalRef name with
  | some p => if !p.isConfigurable then redeclared name
  | none => pure ()
  modify fun s => { s with lexicals := s.lexicals.insert name ⟨none, isConst⟩ }

/-! ### Objects -/

/-- The list of the arguments of a call from a position on. -/
def restArguments (start : Nat) : M Value := do
  let args := (← get).frame.args
  newArray (args.extract start args.size)

/-- The object that holds the arguments of a call. -/
def argumentsObject : M Value := do
  let args := (← get).frame.args
  let r ← alloc { kind := .arguments, prototype := some Intrinsic.objectPrototype.ref }
  let values ← getProp Intrinsic.arrayPrototype.ref "values"
  charge (propertyCost * args.size)
  modifyObj r fun o =>
    let items := (args.toList.zipIdx).foldl
      (fun m (e : Value × Nat) => m.insert (.ofNat e.2) (.data e.1 .all)) o.properties
    { o with
      properties :=
        ((items.insert "length" (.data (.nat args.size) .hidden)).insert WellKnown.iterator.key
          (.data values .hidden)).insert "callee"
            (.accessor Intrinsic.refusal.value Intrinsic.refusal.value false false) }
  return .object r

/-- Makes a regular expression. -/
def newRegex (source flags : CodeUnits) (program : Regex.Program)
    (prototype : Ref := Intrinsic.regexPrototype.ref) : M Ref := do
  alloc
    { kind := .regex source flags program
      prototype := some prototype
      properties := PropertyMap.empty.insert "lastIndex" (.data (.number 0) ⟨true, false, false⟩) }

/-- Adds a value to an array. -/
def appendItem (list v : Value) : M Unit := do
  match list with
  | .object r =>
    charge itemCost
    modifyObj r fun o =>
      match o.kind with
      | .array items length writable =>
        { o with kind := .array (items.push (some v)) (length + 1) writable }
      | _ => o
  | _ => return ()

/-- Adds a gap to an array. -/
def appendHole (list : Value) : M Unit := do
  match list with
  | .object r =>
    charge itemCost
    modifyObj r fun o =>
      match o.kind with
      | .array items length writable =>
        { o with kind := .array (items.push none) (length + 1) writable }
      | _ => o
  | _ => return ()

/-- The items of an array that code has made. -/
def listItems (list : Value) : M (Array Value) := do
  match list with
  | .object r =>
    match ← getKind r with
    | .array items _ _ => return items.map (·.getD .undefined)
    | _ => return #[]
  | _ => return #[]

/-- Copies the properties of a value that loops show, except for some. -/
def copyProperties (o : Ref) (source : Value) (excluded : List Key) : M Unit := do
  if source.isNullish then return ()
  let r ← toObject source
  for k in ← ownKeys r do
    if !excluded.contains k then
      match ← getOwn r k with
      | some p => if p.isEnumerable then createData o k (← getProp r k)
      | none => pure ()

/-- The object where members of `super` are looked for. -/
def superBase (home : Value) : M (Option Ref) := do
  match home with
  | .object h => prototypeOf h
  | _ => fail .referenceError "'super' is only valid in a method"

/-- The texts of a tagged template. -/
def templateObject (site : Nat) (cooked : List (Option CodeUnits)) (raw : List CodeUnits) :
    M Value := do
  match (← get).templates[site]? with
  | some r => return .object r
  | none =>
    let frozen : Property → Property
      | .data v a => .data v { a with writable := false, configurable := false }
      | p => p
    let make (vs : List Value) (extra : List (Key × Property)) : M Ref := do
      let items : List (Key × Property) := vs.mapIdx fun i v => (.ofNat i, .data v .all)
      let properties :=
        (items ++ extra).foldl (fun m (e : Key × Property) => m.insert e.1 (frozen e.2))
          PropertyMap.empty
      alloc
        { kind := .array #[] vs.length false, prototype := some Intrinsic.arrayPrototype.ref
          extensible := false, properties }
    let rawList ← make (raw.map .string) []
    let r ← make (cooked.map fun c => match c with | some u => .string u | none => .undefined)
      [("raw", .data (.object rawList) .hidden)]
    modify fun s => { s with templates := s.templates.insert site r }
    return .object r

/-! ### Calls -/

/-- Enters a call of a value. -/
def enterCall (f receiver : Value) (args : Array Value) : M Unit := do
  match f with
  | .object r =>
    match ← getKind r with
    | .closure c =>
      let (frame, isAsync) ← callFrame c r receiver args
      if isAsync then push (← startAsync frame) else enterFrame frame
    | k => if k.isCallable then push (← call f receiver args) else typeError "not a function"
  | _ => typeError "not a function"

/-- Enters a construction by a value. -/
def enterConstruct (f : Value) (args : Array Value) : M Unit := do
  match f with
  | .object r =>
    if !(← isConstructor r) then
      typeError (if ← isCallable f then "not a constructor" else "not a function")
    match ← getKind r with
    | .closure c => enterFrame (← constructFrame c r args r)
    | _ => push (← construct r args r)
  | _ => typeError "not a function"

/-- Calls the constructor that a class extends. -/
def superCall (f newTarget : Value) (args : Array Value) : M Value := do
  match f, newTarget with
  | .object r, .object n =>
    match ← prototypeOf r with
    | some parent =>
      if ← isConstructor parent then construct parent args n else typeError "not a constructor"
    | none => typeError "not a constructor"
  | _, _ => typeError "not a constructor"

/-- Gives a new object the fields of a class. -/
def initFields (receiver f : Value) : M Unit := do
  match f with
  | .object r =>
    match ← getKind r with
    | .closure { fields := some init, .. } => discard (call (.object init) receiver #[])
    | _ => return ()
  | _ => return ()

/-- Makes the generator that the rest of the code of a call belongs to. -/
def startGenerator : M Value := do
  let s ← get
  let (isAsync, proto) ← match s.frame.callee with
    | some f => do
      let isAsync := match ← getKind f with
        | .closure c => c.code.isAsync
        | _ => false
      let otherwise : Intrinsic := if isAsync then .asyncGeneratorPrototype else .generatorPrototype
      pure (isAsync, ← prototypeFor f otherwise)
    | none => pure (false, Intrinsic.generatorPrototype.ref)
  let frame ← modifyGet fun s => (s.frame, { s with frame := default })
  let g ← alloc
    { kind := if isAsync then .asyncGenerator (.fresh frame) [] else .generator (.fresh frame)
      prototype := some proto }
  return .object g

/-! ### Iteration -/

/-- The object in a slot that is gone over. -/
def iterationAt (slot : Nat) : M Ref := do
  match ← localAt slot with
  | some (.object r) => return r
  | _ => typeError "not an object"

/-- Starts to go over a value whose steps are waited for. -/
def getAsyncIterator (v : Value) : M Ref := do
  match ← getMethod v WellKnown.asyncIterator.key with
  | some f => iteratorFrom v (some f)
  | none =>
    let inner ← getIterator v
    let r ← alloc
      { kind := .asyncFromSync inner, prototype := some Intrinsic.asyncFromSyncPrototype.ref }
    keepIterator (.object r)

/-- Notes that an iterator is not at its end after all. -/
def reopenIteration (r : Ref) : M Unit :=
  modifyObj r fun o =>
    match o.kind with
    | .iteration iterator next _ => { o with kind := .iteration iterator next false }
    | _ => o

/-- Passes a request on to the iterator that a generator delegates to; none if there is nobody
who could be asked to return. -/
def delegateTo (r : Ref) (mode received : Value) : M (Option Value) := do
  match ← getKind r with
  | .iteration iterator next _ =>
    if mode.strictEquals nextMode then return some (← call next iterator #[received])
    else if mode.strictEquals throwMode then
      match ← getMethod iterator "throw" with
      | some f => return some (← call f iterator #[received])
      | none =>
        closeIterator r
        typeError "iterator does not have a throw method"
    else
      match ← getMethod iterator "return" with
      | some f => return some (← call f iterator #[received])
      | none => return none
  | _ => return none

/-! ### Instructions -/

/-- Texts, one after the other. -/
def joinTexts (parts : Array Value) : CodeUnits :=
  ⟨parts.foldl
    (fun acc v =>
      match v with
      | .string u => acc ++ u.toArray
      | _ => acc)
    #[]⟩

/-- Instructions about objects. -/
def stepObject (i : Instr) : M Unit := do
  match i with
  | .newObject => push (.object (← newObject))
  | .newArray => push (← newArray #[])
  | .newRegex source flags program => push (.object (← newRegex source flags program))
  | .append =>
    let v ← pop
    appendItem (← peek 0) v
  | .appendSpread =>
    let v ← pop
    let list ← peek 0
    foldIterable v () fun _ v => appendItem list v
  | .appendHole => appendHole (← peek 0)
  | .setField k =>
    let v ← pop
    let o ← pop
    setValue o k v
    push v
  | .setIndex =>
    let v ← pop
    let k ← pop
    let o ← pop
    setValue o (← toKey k) v
    push v
  | .toKey => push (← toKey (← pop)).toValue
  | .delete =>
    let k ← pop
    let o ← pop
    let r ← toObject o
    if ← deleteProp r (← toKey k) then push (.bool true)
    else typeError "could not delete property"
  | .getSuper =>
    let k ← pop
    let home ← pop
    let this ← pop
    match ← superBase home with
    | some p => push (← getFrom (← chainBound) p (← toKey k) this)
    | none => push .undefined
  | .setSuper =>
    let v ← pop
    let k ← toKey (← pop)
    let home ← pop
    let this ← pop
    match ← superBase home with
    | some p =>
      match ← setFrom (← chainBound) p k v this with
      | .ok () => push v
      | .error why => failSet k why
    | none => push v
  | .newPrivateName description =>
    push (.symbol (← newSymbol (some (CodeUnits.ofString description))))
  | .getPrivate =>
    let k ← pop
    let o ← pop
    push (← getPrivate o (privateKeyOf k))
  | .setPrivate =>
    let v ← pop
    let k ← pop
    let o ← pop
    setPrivate o (privateKeyOf k) v
    push v
  | .definePrivate =>
    let v ← pop
    let k ← pop
    definePrivate (← peek 0) (privateKeyOf k) (.data v .all)
  | .definePrivateMethod kind =>
    let f ← pop
    let k ← pop
    setName f (← functionName (privateKeyOf k) kind.word)
    definePrivate (← peek 0) (privateKeyOf k) (kind.privateProperty f)
  | .hasPrivate =>
    let k ← pop
    match ← pop with
    | .object r => push (.bool ((← getObj r).properties.contains (privateKeyOf k)))
    | _ => typeError "invalid 'in' operand"
  | .defineField k =>
    let v ← pop
    match ← peek 0 with
    | .object r => createData r k v
    | _ => return ()
  | .defineIndex =>
    let v ← pop
    let k ← toKey (← pop)
    match ← peek 0 with
    | .object r => createData r k v
    | _ => return ()
  | .defineMethod kind enumerable =>
    let f ← pop
    let k ← toKey (← pop)
    defineMethod (← peek 0) k f kind enumerable
  | .nameFunction =>
    let k ← toKey (← peek 1)
    nameAfter (← peek 0) k
  | .setPrototype =>
    match ← pop, ← peek 0 with
    | .object p, .object r => modifyObj r fun o => { o with prototype := some p }
    | .null, .object r => modifyObj r fun o => { o with prototype := none }
    | _, _ => return ()
  | .copyProperties =>
    let source ← pop
    match ← peek 0 with
    | .object r => copyProperties r source []
    | _ => return ()
  | .copyRest =>
    let excluded ← listItems (← pop)
    let source ← pop
    let r ← newObject
    copyProperties r source (← excluded.toList.mapM toKey)
    push (.object r)
  | .requireObject => discard (toObject (← peek 0))
  | .closure code => push (.object (← makeClosure code))
  | .makeClass code derived =>
    let (f, p) ← makeClass code derived (← pop)
    push (.object f)
    push (.object p)
  | .setFields =>
    let init ← pop
    match ← peek 0 with
    | .object f => modifyClosure f fun c => { c with fields := init.ref? }
    | _ => return ()
  | .initFields =>
    let f ← pop
    initFields (← peek 0) f
  | .setHome n => setHome (← peek 0) (← peek n)
  | .templateObject site cooked raw => push (← templateObject site cooked raw)
  | .importModule =>
    let name ← toText (← pop)
    let p ← newPromise
    rejectPromise p (.object (← newError .referenceError
      ("could not load module '" ++ name.toStringLossy ++ "'")))
    push (.object p)
  | _ => return ()

/-- Instructions about iterators. -/
def stepIteration (i : Instr) : M Unit := do
  match i with
  | .iterate => push (.object (← getIterator (← pop)))
  | .iterateAsync => push (.object (← getAsyncIterator (← pop)))
  | .enumerate => push (.object (← enumerate (← pop)))
  | .next slot target =>
    match ← stepIterator (← iterationAt slot) with
    | some v => push v
    | none => jumpTo target
  | .nextOrUndefined slot => push ((← stepIterator (← iterationAt slot)).getD .undefined)
  | .nextRest slot =>
    let list ← newArray #[]
    foldIterator (← iterationAt slot) () fun _ v => appendItem list v
    push list
  | .close slot => closeIterator (← iterationAt slot)
  | .abandon slot =>
    let reason ← pop
    abandonIterator (← iterationAt slot) reason
  | .nextCall slot =>
    let r ← iterationAt slot
    let result ← callNext r
    -- a step that fails while it is waited for is the last one
    finishIteration r
    push result
  | .nextUnpack slot target =>
    let r ← iterationAt slot
    match ← unpackStep r (← pop) with
    | some v =>
      reopenIteration r
      push v
    | none => jumpTo target
  | .closeCall slot =>
    match ← closer? (← iterationAt slot) with
    | some (iterator, f) =>
      push (← call f iterator #[])
      push (.bool true)
    | none =>
      push .undefined
      push (.bool false)
  | .checkResult message => if !(← peek 0).isObject then typeError message
  | .delegate slot target =>
    let mode ← pop
    let received ← pop
    match ← delegateTo (← iterationAt slot) mode received with
    | some result =>
      push mode
      push result
    | none =>
      push received
      jumpTo target
  | .delegateDone target =>
    match ← peek 0 with
    | .object r =>
      if (← getProp r "done").truthy then
        let _ ← pop
        push (← getProp r "value")
        jumpTo target
    | _ => typeError "iterator must return an object"
  | .resultValue => push (← getValue (← pop) "value")
  | _ => return ()

/-- Instructions about variables of the outermost level and about the call. -/
def stepGlobal (i : Instr) : M Unit := do
  match i with
  | .loadGlobal name =>
    match ← loadGlobal? name with
    | some v => push v
    | none => notDefined name
  | .loadGlobalIfAny name => push ((← loadGlobal? name).getD .undefined)
  | .storeGlobal name => storeGlobal name (← pop)
  | .initGlobal name => initGlobal name (← pop)
  | .declareVar name => declareVar name none
  | .declareLexical name isConst => declareLexical name isConst
  | .declareFunction name => declareVar name (some (← pop))
  | .raise kind message => fail kind message
  | .restArguments start => push (← restArguments start)
  | .argumentsObject => push (← argumentsObject)
  | .callee =>
    match (← get).frame.callee with
    | some f => push (.object f)
    | none => push .undefined
  | .newTarget => push (← get).frame.newTarget
  | .homeObject =>
    match (← get).frame.callee with
    | some f =>
      match ← getKind f with
      | .closure { home := some h, .. } => push (.object h)
      | _ => push .undefined
    | none => push .undefined
  | .globalObject => push (.object globalRef)
  | _ => return ()

/-- The result of a call: a constructor that gives no object gives the one it has made. -/
def callResult (f : Frame) (v : Value) : Value :=
  match v, f.constructing with
  | .object _, _ => v
  | _, some r => .object r
  | v, none => v

/-- Takes the call that is carried out away. -/
def takeFrame : M Frame := modifyGet fun s => (s.frame, { s with frame := default })

/-- Carries out an instruction; tells if the call comes to rest with it. -/
def step (i : Instr) : M (Option Rest) := do
  match i with
  | .push v =>
    push v
    return none
  | .drop =>
    let _ ← pop
    return none
  | .pick n =>
    push (← peek n)
    return none
  | .roll n =>
    modifyFrame fun f =>
      let at_ := f.stack.size - 1 - n
      let v := f.stack.getD at_ .undefined
      { f with stack := (f.stack.eraseIdxIfInBounds at_).push v }
    return none
  | .tuck n =>
    modifyFrame fun f =>
      let v := f.stack.back?.getD .undefined
      { f with stack := f.stack.insertIdxIfInBounds (f.stack.size - 1 - n) v }
    return none
  | .nip n =>
    modifyFrame fun f =>
      { f with stack := f.stack.eraseIdxIfInBounds (f.stack.size - 1 - n) }
    return none
  | .loadLocal slot name =>
    match ← localAt slot with
    | some v => push v
    | none => notInitialized name
    return none
  | .storeLocal slot name =>
    let v ← pop
    if (← localAt slot).isNone then notInitialized name
    putLocal slot (some v)
    return none
  | .initLocal slot =>
    putLocal slot (some (← pop))
    return none
  | .clearLocal slot =>
    putLocal slot none
    return none
  | .loadScoped depth slot name =>
    match ← scopedAt (← scopeAt depth) slot with
    | some v => push v
    | none => notInitialized name
    return none
  | .storeScoped depth slot name =>
    let v ← pop
    let scope ← scopeAt depth
    if (← scopedAt scope slot).isNone then notInitialized name
    putScoped scope slot (some v)
    return none
  | .initScoped depth slot =>
    let v ← pop
    putScoped (← scopeAt depth) slot (some v)
    return none
  | .initThisLocal slot =>
    let v ← pop
    if (← localAt slot).isSome then
      fail .referenceError "'this' can be initialized only once"
    putLocal slot (some v)
    return none
  | .initThisScoped depth slot =>
    let v ← pop
    let scope ← scopeAt depth
    if (← scopedAt scope slot).isSome then
      fail .referenceError "'this' can be initialized only once"
    putScoped scope slot (some v)
    return none
  | .enterScope size =>
    enterScope size
    return none
  | .leaveScope =>
    leaveScope
    return none
  | .renewScope =>
    renewScope
    return none
  | .argument n =>
    push ((← get).frame.args.getD n .undefined)
    return none
  | .receiver =>
    push (← get).frame.receiver
    return none
  | .getField k =>
    push (← getValue (← pop) k)
    return none
  | .getIndex =>
    let k ← pop
    let o ← pop
    push (← getValue o (← toKey k))
    return none
  | .call n =>
    let args ← popMany n
    let f ← pop
    let receiver ← pop
    enterCall f receiver args
    return none
  | .callSpread =>
    let args ← listItems (← pop)
    let f ← pop
    let receiver ← pop
    enterCall f receiver args
    return none
  | .construct n =>
    let args ← popMany n
    enterConstruct (← pop) args
    return none
  | .constructSpread =>
    let args ← listItems (← pop)
    enterConstruct (← pop) args
    return none
  | .superCall =>
    let args ← listItems (← pop)
    let newTarget ← pop
    push (← superCall (← pop) newTarget args)
    return none
  | .unary op =>
    push (← unaryOperator op (← pop))
    return none
  | .binary op =>
    let b ← pop
    let a ← pop
    push (← binaryOperator op a b)
    return none
  | .toNumeric =>
    push (← toNumeric (← pop))
    return none
  | .increment =>
    push (← stepNumeric (← pop) true)
    return none
  | .decrement =>
    push (← stepNumeric (← pop) false)
    return none
  | .toText =>
    push (.string (← toText (← pop)))
    return none
  | .concat n =>
    let parts ← popMany n
    push (← newText (joinTexts parts))
    return none
  | .isNullish =>
    push (.bool (← pop).isNullish)
    return none
  | .isUndefined =>
    push (.bool (← pop).isUndefined)
    return none
  | .jump target =>
    jumpTo target
    return none
  | .jumpIf target =>
    if (← pop).truthy then jumpTo target
    return none
  | .jumpUnless target =>
    if !(← pop).truthy then jumpTo target
    return none
  | .protect target =>
    modifyFrame fun f =>
      { f with handlers := ⟨target, f.stack.size, f.scope⟩ :: f.handlers }
    return none
  | .unprotect =>
    modifyFrame fun f => { f with handlers := f.handlers.tail }
    return none
  | .gosub target =>
    modifyFrame fun f => { f with stack := f.stack.push (.nat f.pc), pc := target }
    return none
  | .back =>
    match ← pop with
    | .number x => jumpTo x.toUInt64.toNat
    | _ => pure ()
    return none
  | .throwTop => throwValue (← pop)
  | .returnTop =>
    let v ← pop
    return some (.returned (callResult (← get).frame v))
  | .startGenerator => return some (.returned (← startGenerator))
  | .yieldTop =>
    let v ← pop
    return some (.yielded v (← takeFrame))
  | .yieldResult =>
    let v ← pop
    return some (.delegated v (← takeFrame))
  | .awaitTop =>
    let v ← pop
    return some (.awaiting v (← takeFrame))
  | .newObject | .newArray | .newRegex _ _ _ | .append | .appendSpread | .appendHole
  | .setField _ | .setIndex | .toKey | .delete | .getSuper | .setSuper | .newPrivateName _
  | .getPrivate | .setPrivate | .definePrivate | .definePrivateMethod _ | .hasPrivate
  | .defineField _ | .defineIndex | .defineMethod _ _ | .nameFunction | .setPrototype
  | .copyProperties | .copyRest | .requireObject | .closure _ | .makeClass _ _ | .setFields
  | .initFields | .setHome _ | .templateObject _ _ _ | .importModule =>
    stepObject i
    return none
  | .iterate | .iterateAsync | .enumerate | .next _ _ | .nextOrUndefined _ | .nextRest _
  | .close _ | .abandon _ | .nextCall _ | .nextUnpack _ _ | .closeCall _ | .checkResult _
  | .delegate _ _ | .delegateDone _ | .resultValue =>
    stepIteration i
    return none
  | .loadGlobal _ | .loadGlobalIfAny _ | .storeGlobal _ | .initGlobal _ | .declareVar _
  | .declareLexical _ _ | .declareFunction _ | .raise _ _ | .restArguments _
  | .argumentsObject | .callee | .newTarget | .homeObject | .globalObject =>
    stepGlobal i
    return none

end PatchSandbox.Machine
