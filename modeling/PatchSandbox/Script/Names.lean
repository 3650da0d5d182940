import PatchSandbox.Script.Tree
import Std.Data.HashSet

/-!
# Names in scripts

* **`boundNames`** are the names that a pattern binds.
* **`varNames`** are the names that `var` declares anywhere in a function, and
  **`lexicalNames`** those that a list of statements declares for itself.
* **`mentioned`** are all names that occur in a tree, and **`keptNames`** those that occur in
  functions and classes inside it: variables of these names may outlive their block.

The receiver of a call and its companions count as names, since functions written with an
arrow find them where they find variables.
-/

namespace PatchSandbox.Script

/-- A name of the receiver of a call. -/
def thisName : String := "this"

/-- A name of the object whose member a function is. -/
def homeName : String := "%home"

/-- A name of the function that is called. -/
def calleeName : String := "%callee"

/-- A name of the constructor that `new` was applied to. -/
def newTargetName : String := "new.target"

/-- A name of the arguments of a call. -/
def argumentsName : String := "arguments"

/-- The name of a private member. -/
def privateKey (name : String) : String := "#" ++ name

namespace Form

variable {ν : Type}

/-- The parts of a pattern that are patterns. -/
def patternParts : Form ν → List ν
  | .array items => items
  | .object members => members
  | .property _ _ _ _ value => [value]
  | .assign .set target _ => [target]
  | .spread value => [value]
  | .paren body => [body]
  | .declarator target _ => [target]
  | _ => []

/-- The parts of a node, unless it is a function or a class. -/
def outerChildren : Form ν → List ν
  | .function _ _ _ _ => []
  | .classDef _ _ _ _ _ => []
  | f => f.children

theorem mem_children_of_mem_patternParts {f : Form ν} {n : ν} (h : n ∈ f.patternParts) :
    n ∈ f.children := by
  cases f with
  | assign op target value =>
    cases op <;> simp_all [patternParts, children]
  | _ => simp_all [patternParts, children]

theorem mem_children_of_mem_outerChildren {f : Form ν} {n : ν} (h : n ∈ f.outerChildren) :
    n ∈ f.children := by
  cases f <;> simp_all [outerChildren, children]

/-- The names that a node itself mentions. -/
def mentions : Form ν → List String
  | .name text => [text]
  | .this => [thisName]
  | .superRef => [thisName, homeName, calleeName, newTargetName]
  | .metaProperty "new" _ => [newTargetName]
  | .privateName id => [privateKey id]
  | .privateMember _ _ id => [privateKey id]
  | .privateIn id _ => [privateKey id]
  | _ => []

end Form

namespace Node

/-- The names that a pattern binds. -/
def boundNames : Node → List String
  | .mk _ (.name text) => [text]
  | .mk _ form => form.patternParts.attach.flatMap fun ⟨n, _⟩ => boundNames n
termination_by n => sizeOf n
decreasing_by
  exact sizeOf_lt_of_mem_children (Form.mem_children_of_mem_patternParts ‹_›)

/-- The nodes of a tree that are in no function or class inside it, in front of a list. -/
def outerNodesOnto : Node → List Node → List Node
  | .mk span form, rest =>
    .mk span form :: form.outerChildren.attach.foldr (fun ⟨n, _⟩ acc => outerNodesOnto n acc) rest
termination_by n => sizeOf n
decreasing_by
  exact sizeOf_lt_of_mem_children (Form.mem_children_of_mem_outerChildren ‹_›)

/-- The nodes of a tree that are in no function or class inside it. -/
def outerNodes (n : Node) : List Node := n.outerNodesOnto []

/-- All names that occur in a tree. -/
def mentioned (n : Node) : List String := n.nodes.flatMap fun m => m.form.mentions

end Node

/-- All names that occur in trees. -/
def mentionedIn (ns : List Node) : Std.HashSet String :=
  ns.foldl (fun s n => s.insertMany n.mentioned) ∅

/-- The names that occur in functions and classes inside of trees. -/
def keptNames (ns : List Node) : Std.HashSet String :=
  mentionedIn ((ns.flatMap Node.outerNodes).filter fun n =>
    match n.form with
    | .function _ _ _ _ => true
    | .classDef _ _ _ _ _ => true
    | _ => false)

/-- The names that `var` declares in trees, outside of functions inside them. -/
def varNames (ns : List Node) : List String :=
  ((ns.flatMap Node.outerNodes).flatMap fun n =>
    match n.form with
    | .declare .var declarators => declarators.flatMap Node.boundNames
    | _ => []).eraseDups

/-- A name that a list of statements declares for itself. -/
structure LexicalName where
  name : String
  isConst : Bool := false
  isFunction : Bool := false
  deriving DecidableEq, Repr, Inhabited

/-- The names that a statement declares for the list it is in. -/
def Node.lexicalNames (n : Node) : List LexicalName :=
  match n.form with
  | .declare .let declarators => (declarators.flatMap boundNames).map ({ name := · })
  | .declare .const declarators =>
    (declarators.flatMap boundNames).map ({ name := ·, isConst := true })
  | .classDef true _ (some name) _ _ => name.boundNames.map ({ name := · })
  | .function ⟨.declaration, _, _⟩ (some name) _ _ =>
    name.boundNames.map ({ name := ·, isFunction := true })
  | _ => []

/-- The names that a list of statements declares for itself. -/
def lexicalNames (ns : List Node) : List LexicalName := ns.flatMap Node.lexicalNames

/-- The function declarations in a list of statements. -/
def functionDeclarations (ns : List Node) : List Node :=
  ns.filter fun n =>
    match n.form with
    | .function ⟨.declaration, _, _⟩ (some _) _ _ => true
    | _ => false

end PatchSandbox.Script
