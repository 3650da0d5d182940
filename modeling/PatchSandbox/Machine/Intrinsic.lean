import PatchSandbox.Machine.Value

/-!
# Standard objects

The objects that every run starts with and that the machine itself refers to. They have the
first places of the store.
-/

namespace PatchSandbox.Machine

/-- A standard object. -/
inductive Intrinsic where
  | global
  | objectPrototype
  | functionPrototype
  /-- The function that refuses to tell what a call is about. -/
  | refusal
  | arrayPrototype
  | stringPrototype
  | numberPrototype
  | booleanPrototype
  | symbolPrototype
  | bigintPrototype
  | errorPrototype
  | evalErrorPrototype
  | rangeErrorPrototype
  | referenceErrorPrototype
  | syntaxErrorPrototype
  | typeErrorPrototype
  | uriErrorPrototype
  | aggregateErrorPrototype
  | internalErrorPrototype
  | iteratorPrototype
  | asyncIteratorPrototype
  | arrayIteratorPrototype
  | mapIteratorPrototype
  | setIteratorPrototype
  | stringIteratorPrototype
  | regexIteratorPrototype
  | asyncFromSyncPrototype
  | generatorFunctionPrototype
  | generatorPrototype
  | asyncFunctionPrototype
  | asyncGeneratorFunctionPrototype
  | asyncGeneratorPrototype
  | promisePrototype
  | regexPrototype
  | datePrototype
  | mapPrototype
  | setPrototype
  | weakMapPrototype
  | weakSetPrototype
  | weakRefPrototype
  | object
  | function
  | array
  | string
  | number
  | boolean
  | symbol
  | bigint
  | error
  | evalError
  | rangeError
  | referenceError
  | syntaxError
  | typeError
  | uriError
  | aggregateError
  | internalError
  | iterator
  | generatorFunction
  | asyncFunction
  | asyncGeneratorFunction
  | promise
  | regex
  | date
  | map
  | set
  | weakMap
  | weakSet
  | weakRef
  | proxy
  | math
  | json
  | reflect
  deriving DecidableEq, Repr, Inhabited

namespace Intrinsic

/-- The place of a standard object. -/
@[inline] def ref (i : Intrinsic) : Ref := ⟨i.ctorIdx⟩

/-- A standard object as a value. -/
@[inline] def value (i : Intrinsic) : Value := .object i.ref

/-- Number of standard objects. -/
def count : Nat := Intrinsic.reflect.ctorIdx + 1

end Intrinsic

/-- Symbols with a meaning of their own. -/
inductive WellKnown where
  | iterator
  | asyncIterator
  | hasInstance
  | toPrimitive
  | toStringTag
  | species
  | isConcatSpreadable
  | unscopables
  | matchOne
  | matchAll
  | replace
  | search
  | split
  deriving DecidableEq, Repr, Inhabited

namespace WellKnown

/-- The names of the symbols, in their order. -/
def names : List String :=
  ["iterator", "asyncIterator", "hasInstance", "toPrimitive", "toStringTag", "species",
    "isConcatSpreadable", "unscopables", "match", "matchAll", "replace", "search", "split"]

/-- The symbol. -/
@[inline] def symbol (w : WellKnown) : Symbol := ⟨w.ctorIdx⟩

/-- The symbol as a key. -/
@[inline] def key (w : WellKnown) : Key := .symbol w.symbol

end WellKnown

end PatchSandbox.Machine
