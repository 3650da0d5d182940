import PatchSandbox.Machine.Promise

/-!
# Calls

* The **stack operations** change the call that is carried out.
* **`makeClosure`** and **`makeClass`** make functions; **`enterCall`** and **`construction`**
  begin calls of functions with code.
* **`Frame.resumed`** tells how a call goes on that has waited.
-/

namespace PatchSandbox.Machine

open PatchSandbox.Text (CodeUnits)

/-! ### The stack -/

/-- Changes the call that is carried out. -/
@[inline] def modifyFrame (g : Frame → Frame) : M Unit := modify fun s =>
  let f := s.frame
  let s := { s with frame := default }
  { s with frame := g f }

/-- Puts a value on the stack. -/
@[inline] def push (v : Value) : M Unit := modifyFrame fun f => { f with stack := f.stack.push v }

/-- Takes the top of the stack. -/
@[inline] def pop : M Value := modifyGet fun s =>
  let f := s.frame
  let s := { s with frame := default }
  let v := f.stack.back?.getD .undefined
  (v, { s with frame := { f with stack := f.stack.pop } })

/-- The value `n` below the top. -/
@[inline] def peek (n : Nat) : M Value := do
  let stack := (← get).frame.stack
  return stack.getD (stack.size - 1 - n) .undefined

/-- Takes the last `n` values, in the order in which they were put. -/
def popMany (n : Nat) : M (Array Value) := modifyGet fun s =>
  let f := s.frame
  let s := { s with frame := default }
  let start := f.stack.size - n
  let vs := f.stack.extract start f.stack.size
  (vs, { s with frame := { f with stack := f.stack.shrink start } })

/-- Continues at a place. -/
@[inline] def jumpTo (target : Nat) : M Unit := modifyFrame fun f => { f with pc := target }

/-! ### Functions -/

/-- The prototype of functions of a kind. -/
def FunctionCode.prototype (c : FunctionCode) : Intrinsic :=
  match c.isAsync, c.isGenerator with
  | false, false => .functionPrototype
  | true, false => .asyncFunctionPrototype
  | false, true => .generatorFunctionPrototype
  | true, true => .asyncGeneratorFunctionPrototype

/-- The properties that every function has. -/
def functionProperties (length : Nat) (name : CodeUnits) : PropertyMap :=
  (PropertyMap.empty.insert "length" (.data (.nat length) .fixed)).insert "name"
    (.data (.string name) .fixed)

/-- Attributes of the object whose members the objects of a constructor share. -/
def prototypeAttributes : Attributes := ⟨true, false, false⟩

/-- Makes a function with code. -/
def makeClosure (code : Nat) : M Ref := do
  let s ← get
  let c := s.codes.getD code default
  let scope := s.frame.scope
  let f ← alloc
    { kind := .closure { code := c, scope }
      prototype := some c.prototype.ref
      properties := functionProperties c.arity c.name }
  if c.isGenerator then
    let p : Intrinsic := if c.isAsync then .asyncGeneratorPrototype else .generatorPrototype
    let prototype ← newObject (some p.ref)
    modifyObj f fun o => putOwn o "prototype" (.data (.object prototype) prototypeAttributes)
  else if c.kind == .function && !c.isAsync then
    let prototype ← newObject
    putHidden prototype "constructor" (.object f)
    modifyObj f fun o => putOwn o "prototype" (.data (.object prototype) prototypeAttributes)
  return f

/-- The function that a class extends, and the object that its own prototype inherits from. -/
def classParents (derived : Bool) (heritage : Value) : M (Ref × Option Ref) := do
  if !derived then
    return (Intrinsic.functionPrototype.ref, some Intrinsic.objectPrototype.ref)
  match heritage with
  | .null => return (Intrinsic.functionPrototype.ref, none)
  | .object h =>
    if !(← isConstructor h) then typeError "parent class must be constructor"
    match ← getProp h "prototype" with
    | .object p => return (h, some p)
    | .null => return (h, none)
    | _ => typeError "parent prototype must be an object or null"
  | _ => typeError "parent class must be constructor"

/-- Makes the constructor of a class and its prototype. -/
def makeClass (code : Nat) (derived : Bool) (heritage : Value) : M (Ref × Ref) := do
  let (parent, grandparent) ← classParents derived heritage
  let s ← get
  let c := s.codes.getD code default
  let scope := s.frame.scope
  let prototype ← newObject grandparent
  let f ← alloc
    { kind := .closure { code := c, scope, home := some prototype }
      prototype := some parent
      properties :=
        (functionProperties c.arity c.name).insert "prototype" (.data (.object prototype) .none) }
  putHidden prototype "constructor" (.object f)
  return (f, prototype)

/-- Changes a function with code. -/
def modifyClosure (f : Ref) (g : Closure → Closure) : M Unit :=
  modifyObj f fun o =>
    match o.kind with
    | .closure c => { o with kind := .closure (g c) }
    | _ => o

/-- Makes an object the one whose member a function is. -/
def setHome (f : Value) (home : Value) : M Unit := do
  match f with
  | .object r => modifyClosure r fun c => { c with home := home.ref? }
  | _ => return ()

/-- The name that a function has as a property. -/
def functionName (k : Key) (word : String) : M CodeUnits := do
  let own ← match k with
    | .symbol s => do
      match ← symbolDescription s with
      | some d => pure ((CodeUnits.ofString "[").append (d.append (CodeUnits.ofString "]")))
      | none => pure ∅
    | .hidden s => do pure ((← symbolDescription s).getD ∅)
    | k => pure (k.toUnits?.getD ∅)
  return if word.isEmpty then own else (CodeUnits.ofString (word ++ " ")).append own

/-- Names a function. -/
def setName (f : Value) (name : CodeUnits) : M Unit := do
  match f with
  | .object r => modifyObj r fun o => putOwn o "name" (.data (.string name) .fixed)
  | _ => return ()

/-- Names a function after a key, unless it has a name. -/
def nameAfter (f : Value) (k : Key) : M Unit := do
  match f with
  | .object r =>
    let unnamed : Bool :=
      match ownOf (← getObj r) "name" with
      | some (.data (.string u) _) => u.isEmpty
      | _ => false
    if unnamed then setName f (← functionName k "")
  | _ => return ()

/-- The word before the name of a function that reads or writes. -/
def MethodKind.word : MethodKind → String
  | .method => ""
  | .getter => "get"
  | .setter => "set"

/-- What is to become of a property that gets a function. -/
def MethodKind.describe (kind : MethodKind) (f : Value) (enumerable : Bool) : Descriptor :=
  match kind with
  | .method =>
    { value := some f, writable := some true, enumerable := some enumerable
      configurable := some true }
  | .getter => { getter := some f, enumerable := some enumerable, configurable := some true }
  | .setter => { setter := some f, enumerable := some enumerable, configurable := some true }

/-- Gives an object a member that is a function. -/
def defineMethod (o : Value) (k : Key) (f : Value) (kind : MethodKind) (enumerable : Bool) :
    M Unit := do
  setHome f o
  setName f (← functionName k kind.word)
  match o with
  | .object r => defineOrThrow r k (kind.describe f enumerable)
  | _ => return ()

/-! ### Private members -/

/-- The key of a private name. -/
def privateKeyOf (name : Value) : Key :=
  match name with
  | .symbol s => .hidden s
  | _ => .name ∅

/-- The private member of an object. -/
def privateMember (o : Value) (k : Key) : M (Ref × Property) := do
  match o with
  | .object r =>
    match (← getObj r).properties.find? k with
    | some p => return (r, p)
    | none => typeError ("private class field '" ++ (← keyText k) ++ "' does not exist")
  | _ => typeError "not an object"

/-- Reads a private member. -/
def getPrivate (o : Value) (k : Key) : M Value := do
  match ← privateMember o k with
  | (_, .data v _) => return v
  | (_, .accessor g _ _ _) =>
    if g.isUndefined then typeError ("'" ++ (← keyText k) ++ "' has no getter") else call g o #[]

/-- Writes a private member. -/
def setPrivate (o : Value) (k : Key) (v : Value) : M Unit := do
  match ← privateMember o k with
  | (r, .data _ a) =>
    if !a.writable then typeError ("'" ++ (← keyText k) ++ "' is read-only")
    modifyObj r fun o => { o with properties := o.properties.insert k (.data v a) }
  | (_, .accessor _ s _ _) =>
    if s.isUndefined then typeError "no setter for property" else discard (call s o #[v])

/-- Gives an object a private member. -/
def definePrivate (o : Value) (k : Key) (p : Property) : M Unit := do
  match o with
  | .object r =>
    match (← getObj r).properties.find? k, p with
    | some (.accessor g s _ _), .accessor g' s' _ _ =>
      let both := Property.accessor (if g'.isUndefined then g else g')
        (if s'.isUndefined then s else s') false false
      modifyObj r fun o => { o with properties := o.properties.insert k both }
    | some _, _ => typeError ("private class field '" ++ (← keyText k) ++ "' already exists")
    | none, p =>
      charge propertyCost
      modifyObj r fun o => { o with properties := o.properties.insert k p }
  | _ => typeError "not an object"

/-- The private member that a function gives. -/
def MethodKind.privateProperty (kind : MethodKind) (f : Value) : Property :=
  match kind with
  | .method => .data f .none
  | .getter => .accessor f .undefined false false
  | .setter => .accessor .undefined f false false

/-! ### Calls -/

/-- A call of a function with code. -/
def Frame.ofCall (c : Closure) (f : Ref) (receiver newTarget : Value) (args : Array Value)
    (constructing : Option Ref) : Frame where
  code := c.code.instrs
  locals := Array.replicate c.code.locals none
  scope := c.scope
  receiver
  callee := some f
  newTarget
  args
  constructing

/-- Carries out another call; the one that was carried out waits for it. -/
def enterFrame (f : Frame) : M Unit := do
  let s ← get
  if s.depthLimit ≤ s.depth then rangeError "Maximum call stack size exceeded"
  modify fun s =>
    { s with callers := s.frame :: s.callers, frame := f, depth := s.depth + 1 }

/-- Goes back to the call that waits. -/
def leaveFrame : M Unit := modify fun s =>
  match s.callers with
  | f :: rest => { s with frame := f, callers := rest, depth := s.depth - 1 }
  | [] => { s with frame := default, depth := s.depth - 1 }

/-- The prototype of objects that a constructor makes, unless it says otherwise. -/
def prototypeFor (newTarget : Ref) (otherwise : Intrinsic) : M Ref := do
  match ← getProp newTarget "prototype" with
  | .object p => return p
  | _ => return otherwise.ref

/-- The call of a function with code, and whether its result is a promise. -/
def callFrame (c : Closure) (f : Ref) (receiver : Value) (args : Array Value) :
    M (Frame × Bool) := do
  if c.code.isClass then typeError "class constructors must be invoked with 'new'"
  return (.ofCall c f receiver .undefined args none, c.code.isAsync && !c.code.isGenerator)

/-- The call of a constructor with code. -/
def constructFrame (c : Closure) (f : Ref) (args : Array Value) (newTarget : Ref) : M Frame := do
  if !c.code.isConstructor then typeError "not a constructor"
  if c.code.kind == .derived then
    return .ofCall c f .undefined (.object newTarget) args none
  let p ← prototypeFor newTarget .objectPrototype
  let r ← newObject (some p)
  return .ofCall c f (.object r) (.object newTarget) args (some r)

/-! ### Waiting calls -/

/-- Goes to the innermost handler of a call with a thrown value, if there is one. -/
def Frame.raised? (f : Frame) (v : Value) : Option Frame :=
  match f.handlers with
  | [] => none
  | h :: rest =>
    some
      { f with
        pc := h.target, stack := (f.stack.shrink h.stackSize).push v, scope := h.scope
        handlers := rest }

/-- Whether a call waits where it has passed on the result of another generator. -/
def Frame.isDelegating (f : Frame) : Bool :=
  match f.code[f.pc - 1]? with
  | some .yieldResult => true
  | _ => false

/-- Whether a call waits where a generator has given a value. -/
def Frame.isYielding (f : Frame) : Bool :=
  match f.code[f.pc - 1]? with
  | some .yieldTop => true
  | _ => false

/-- A call that goes on, or the value that it throws. -/
def Frame.resumed (f : Frame) (how : Resumption) : Except Value Frame :=
  let pushed (v mode : Value) : Except Value Frame :=
    .ok { f with stack := (f.stack.push v).push mode }
  if f.isDelegating then
    match how with
    | .next v => pushed v nextMode
    | .throw v => pushed v throwMode
    | .return v => pushed v returnMode
  else
    match how with
    | .throw v =>
      match f.raised? v with
      | some f => .ok f
      | none => .error v
    | .next v =>
      if f.isYielding then pushed v (.bool false) else .ok { f with stack := f.stack.push v }
    | .return v => if f.isYielding then pushed v (.bool true) else .error v

end PatchSandbox.Machine
