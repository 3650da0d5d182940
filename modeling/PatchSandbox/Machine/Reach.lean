import PatchSandbox.Machine.Call

/-!
# Memory in use

**`liveMemory`** estimates the memory of what a run can still reach: it follows values from
the calls under way, the global object, the jobs that wait and what the loader keeps. A long
text counts once, however many values hold it.
-/

namespace PatchSandbox.Machine

open PatchSandbox.Text (CodeUnits)

/-- What has been reached so far. -/
structure Reached where
  objects : Array Bool
  scopes : Array Bool
  pendingObjects : List Nat := []
  pendingScopes : List Nat := []
  /-- Marks of long texts. -/
  texts : Std.HashSet UInt64 := ∅
  total : Nat := 0

namespace Reached

/-- A mark of a long text, from its length and some of its units. -/
def textMark (u : CodeUnits) : UInt64 :=
  let n := u.size
  (List.range 16).foldl
    (fun h i =>
      let a := (u.get? i).getD 0
      let b := (u.get? (n - 1 - i)).getD 0
      let c := (u.get? (n / 17 * (i + 1))).getD 0
      mixHash h (mixHash (hash a) (mixHash (hash b) (hash c))))
    (hash n)

/-- Adds memory. -/
def add (t : Reached) (bytes : Nat) : Reached := { t with total := t.total + bytes }

/-- Reaches an object. -/
def ref (t : Reached) (r : Ref) : Reached :=
  if t.objects.getD r.index true then t
  else
    { t with
      objects := t.objects.setIfInBounds r.index true
      pendingObjects := r.index :: t.pendingObjects }

/-- Reaches a scope. -/
def scope (t : Reached) (i : Nat) : Reached :=
  if t.scopes.getD i true then t
  else
    { t with
      scopes := t.scopes.setIfInBounds i true
      pendingScopes := i :: t.pendingScopes }

/-- Reaches a text. -/
def text (t : Reached) (u : CodeUnits) : Reached :=
  if u.size < 64 then t.add (textCost u)
  else
    let mark := textMark u
    if t.texts.contains mark then t
    else { t with texts := t.texts.insert mark, total := t.total + textCost u }

/-- Reaches a value. -/
def value (t : Reached) : Value → Reached
  | .object r => t.ref r
  | .string u => t.text u
  | .bigint n => t.add (n.natAbs.log2 / 8)
  | _ => t

/-- Reaches values. -/
def values (t : Reached) (vs : Array Value) : Reached := vs.foldl value t

/-- Reaches what may be a value. -/
def value? (t : Reached) : Option Value → Reached
  | some v => t.value v
  | none => t

/-- Reaches what may be an object. -/
def ref? (t : Reached) : Option Ref → Reached
  | some r => t.ref r
  | none => t

/-- Reaches what may be a scope. -/
def scope? (t : Reached) : Option Nat → Reached
  | some i => t.scope i
  | none => t

/-- Reaches what a call holds. -/
def frame (t : Reached) (f : Frame) : Reached :=
  let t := f.locals.foldl value? ((t.values f.stack).values f.args)
  let t := f.handlers.foldl (fun t h => t.scope? h.scope) (t.scope? f.scope)
  ((((t.value f.receiver).value f.newTarget).ref? f.callee).ref? f.constructing).add
    (itemCost * (f.stack.size + f.locals.size))

/-- Reaches what settles a promise. -/
def capability (t : Reached) (c : Capability) : Reached :=
  ((t.value c.promise).value c.resolve).value c.reject

/-- Reaches what waits for a promise. -/
def reaction (t : Reached) (r : Reaction) : Reached :=
  let t := (t.value r.onFulfilled).value r.onRejected
  match r.capability with
  | some c => t.capability c
  | none => t

/-- Reaches what a generator holds. -/
def progress (t : Reached) : Progress → Reached
  | .fresh f => t.frame f
  | .suspended f => t.frame f
  | .running => t
  | .finished => t

/-- Reaches the value in a request. -/
def resumption (t : Reached) : Resumption → Reached
  | .next v => t.value v
  | .throw v => t.value v
  | .return v => t.value v

/-- Reaches the entries of a table. -/
def table (t : Reached) (entries : Table) : Reached :=
  entries.entries.foldl
    (fun t e =>
      match e with
      | some (k, v) => ((t.value k).value v).add (2 * propertyCost)
      | none => t)
    t

/-- Reaches what an object is beside its properties. -/
def kind (t : Reached) : Kind → Reached
  | .plain => t
  | .array items _ _ => (items.foldl value? t).add (itemCost * items.size)
  | .closure c => ((t.scope? c.scope).ref? c.home).ref? c.fields
  | .native _ slots _ => t.values slots
  | .bound target receiver args => ((t.ref target).value receiver).values args
  | .boxed v => t.value v
  | .error => t
  | .arguments => t
  | .date _ => t
  | .regex source _ _ => t.text source
  | .map entries => t.table entries
  | .set entries => t.table entries
  | .weakMap entries => t.table entries
  | .weakSet entries => t.table entries
  | .weakRef target => t.value target
  | .promise state _ =>
    match state with
    | .pending reactions => reactions.foldl reaction t
    | .fulfilled v => t.value v
    | .rejected v => t.value v
  | .proxy target handler _ _ => (t.ref? target).ref? handler
  | .generator p => t.progress p
  | .asyncGenerator p queue =>
    queue.foldl (fun t e => (t.resumption e.1).capability e.2) (t.progress p)
  | .coroutine f c =>
    match f with
    | some f => (t.frame f).capability c
    | none => t.capability c
  | .iteration iterator next _ => (t.value iterator).value next
  | .enumeration o _ => t.ref o
  | .arrayIterator target _ _ => t.ref? target
  | .tableIterator target _ _ _ => t.ref? target
  | .textIterator u _ => t.text u
  | .regexIterator r u _ _ _ => (t.ref r).text u
  | .asyncFromSync r => t.ref r
  | .cell vs => t.values vs

/-- Reaches a property. -/
def property (t : Reached) : Property → Reached
  | .data v _ => t.value v
  | .accessor g s _ _ => (t.value g).value s

/-- Reaches what an object holds. -/
def object (t : Reached) (o : Obj) : Reached :=
  let t := (t.kind o.kind).ref? o.prototype
  let t := o.properties.table.fold (fun t _ e => t.property e.2) t
  t.add (objectCost + propertyCost * o.properties.size)

/-- Reaches what a job holds. -/
def job (t : Reached) : Job → Reached
  | .reaction handler argument _ c =>
    let t := (t.value handler).value argument
    match c with
    | some c => t.capability c
    | none => t
  | .follow p thenable method => ((t.ref p).value thenable).value method
  | .task f => t.value f

/-- Follows everything that is pending, for at most so many objects and scopes. -/
def follow (s : State) : Nat → Reached → Reached
  | 0, t => t
  | n + 1, t =>
    match t.pendingObjects with
    | r :: rest =>
      follow s n ({ t with pendingObjects := rest }.object (s.objects.getD r default))
    | [] =>
      match t.pendingScopes with
      | i :: rest =>
        let c := s.scopes.getD i default
        let t := c.slots.foldl value? ({ t with pendingScopes := rest }.scope? c.parent)
        follow s n (t.add (48 + 16 * c.slots.size))
      | [] => t

end Reached

/-- Estimate of the memory of what a run can still reach. -/
def liveMemory (s : State) : Nat :=
  let t : Reached :=
    { objects := Array.replicate s.objects.size false
      scopes := Array.replicate s.scopes.size false }
  let t := (List.range Intrinsic.count).foldl (fun t i => t.ref ⟨i⟩) t
  let t := s.callers.foldl Reached.frame (t.frame s.frame)
  let t := s.lexicals.fold (fun t _ l => (t.value? l.value).add propertyCost) t
  let t := s.templates.fold (fun t _ r => t.ref r) t
  let t := s.jobs.toList.foldl Reached.job t
  let t := t.values s.loader.arena.values
  (t.follow s (s.objects.size + s.scopes.size + 1)).total

/-- Looks whether there is still enough memory, once the estimate says that there may not be.
After a look that finds enough, the estimate may grow by a sixteenth of the limit before the
next one. -/
def checkMemory : M Unit := do
  let s ← get
  if s.nextLook < s.used then
    let live := liveMemory s
    modify fun s =>
      { s with used := live, nextLook := max s.memoryLimit (live + s.memoryLimit / 16) }
    if s.memoryLimit < live then outOfMemory

end PatchSandbox.Machine
