import PatchSandbox.Machine.Library.Array
import PatchSandbox.Machine.Library.Collection
import PatchSandbox.Machine.Library.Date
import PatchSandbox.Machine.Library.Error
import PatchSandbox.Machine.Library.Function
import PatchSandbox.Machine.Library.Global
import PatchSandbox.Machine.Library.Inner
import PatchSandbox.Machine.Library.Json
import PatchSandbox.Machine.Library.Math
import PatchSandbox.Machine.Library.Object
import PatchSandbox.Machine.Library.Text

/-!
# Realms

**`realm`** holds the standard objects as every run finds them, and the functions that belong
to them. It is built once from the parts of the library.
-/

namespace PatchSandbox.Machine

open PatchSandbox.Text (CodeUnits)
open PatchSandbox.Machine.Library

/-- Standard objects and their functions. -/
structure Realm where
  objects : Array Obj
  natives : Array Native
  deriving Inhabited

namespace Realm

/-- Adds a function. -/
def addFunction (r : Realm) (f : Native) : Realm × Ref :=
  let o : Obj :=
    { kind := .native (.standard r.natives.size) #[] f.isConstructor
      prototype := some Intrinsic.functionPrototype.ref
      properties := functionProperties f.length (CodeUnits.ofString f.name) }
  (⟨r.objects.push o, r.natives.push f⟩, ⟨r.objects.size⟩)

/-- Puts a property into an object. -/
def put (r : Realm) (holder : Ref) (k : Key) (p : Property) : Realm :=
  { r with
    objects := r.objects.modify holder.index fun o =>
      { o with properties := o.properties.insert k p } }

/-- Adds a member to an object. -/
def addMember (holder : Ref) (r : Realm) : Member → Realm
  | .method k f =>
    let (r, ref) := r.addFunction f
    r.put holder k (.data (.object ref) .hidden)
  | .accessor k getter setter =>
    let (r, g) := r.addFunction getter
    match setter with
    | none => r.put holder k (.accessor (.object g) .undefined false true)
    | some setter =>
      let (r, s) := r.addFunction setter
      r.put holder k (.accessor (.object g) (.object s) false true)
  | .value k v a => r.put holder k (.data v a)
  | .same k other =>
    match (r.objects.getD holder.index default).properties.find? other with
    | some p => r.put holder k p
    | none => r
  | .refused k =>
    r.put holder k (.accessor Intrinsic.refusal.value Intrinsic.refusal.value false true)

/-- Adds a standard object. -/
def addHolder (r : Realm) (h : Holder) : Realm :=
  let own := h.object.ref
  let o : Obj := { kind := h.kind, prototype := h.parent.map Intrinsic.ref }
  let r : Realm :=
    match h.function with
    | none => { r with objects := r.objects.setIfInBounds own.index o }
    | some f =>
      let o : Obj :=
        { o with
          kind := .native (.standard r.natives.size) #[] f.isConstructor
          properties := functionProperties f.length (CodeUnits.ofString f.name) }
      ⟨r.objects.setIfInBounds own.index o, r.natives.push f⟩
  h.members.foldl (addMember own) r

/-- Builds a realm. -/
def build (holders : List Holder) : Realm :=
  holders.foldl addHolder ⟨Array.replicate Intrinsic.count { prototype := none }, #[]⟩

end Realm

/-- All standard objects. -/
def standardHolders : List Holder :=
  globalHolders ++ objectHolders ++ functionHolders ++ errorHolders ++ iteratorHolders ++
    arrayHolders ++ textHolders ++ numberHolders ++ booleanHolders ++ symbolHolders ++
    bigintHolders ++ mathHolders ++ dateHolders ++ regexHolders ++ collectionHolders ++
    promiseHolders ++ generatorHolders ++ jsonHolders ++ reflectHolders

/-- The standard objects and their functions. -/
def realm : Realm := Realm.build standardHolders

/-- Does what a standard function does. -/
def runStandard (i : Nat) (c : Call) : M Value :=
  match realm.natives[i]? with
  | some f => f.run c
  | none => typeError "not a function"

end PatchSandbox.Machine
