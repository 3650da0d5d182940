import PatchSandbox.Script.Token

/-!
# Script trees

A script as a tree. Every node has a form and the span of the text it was read from.

* **`Form`** says what a node is and holds its parts. It is a container of parts, so that
  `Form.children` lists them once for every walk over trees.
* Patterns are written with the forms of expressions: an array or an object that is assigned
  to or declared, a default as an assignment, a rest as a spread.
-/

namespace PatchSandbox.Script

open PatchSandbox.Text (CodeUnits)

/-- Operators with one operand before which they stand. -/
inductive UnaryOp where
  | plus | minus | not | bitNot | typeOf | void | delete
  deriving DecidableEq, Repr, Inhabited

/-- Operators with two operands, both evaluated. -/
inductive BinaryOp where
  | add | sub | mul | div | rem | pow
  | shiftLeft | shiftRight | shiftRightUnsigned | bitAnd | bitOr | bitXor
  | equal | notEqual | strictEqual | strictNotEqual
  | less | lessEqual | greater | greaterEqual
  | instanceOf | isIn
  deriving DecidableEq, Repr, Inhabited

/-- Operators whose second operand may stay unevaluated. -/
inductive LogicalOp where
  | and | or | coalesce
  deriving DecidableEq, Repr, Inhabited

/-- Ways to assign. -/
inductive AssignOp where
  | set
  | binary (op : BinaryOp)
  | logical (op : LogicalOp)
  deriving DecidableEq, Repr, Inhabited

/-- Kinds of declarations of variables. -/
inductive VarKind where
  | var | let | const | using
  deriving DecidableEq, Repr, Inhabited

/-- Kinds of functions. -/
inductive FunctionKind where
  | declaration
  | expression
  | arrow
  | method
  | getter
  | setter
  deriving DecidableEq, Repr, Inhabited

/-- What a function is. -/
structure FunctionTraits where
  kind : FunctionKind
  isAsync : Bool := false
  isGenerator : Bool := false
  deriving DecidableEq, Repr, Inhabited

/-- Kinds of members of objects and classes. -/
inductive MemberKind where
  | field
  | method
  | getter
  | setter
  | accessor
  deriving DecidableEq, Repr, Inhabited

/-- What a node is; `ν` is the type of its parts. -/
inductive Form (ν : Type) where
  -- expressions
  | name (text : String)
  | privateName (text : String)
  | this
  | superRef
  | null
  | bool (value : Bool)
  | number (value : Float) (form : NumberForm)
  | bigint (value : Nat)
  | string (value : CodeUnits) (legacy : Bool)
  | regex (pattern flags : String)
  | template (quasis : List Quasi) (parts : List ν)
  | tagged (tag template : ν)
  /-- A gap between the commas of an array. -/
  | hole
  | array (items : List ν)
  | object (members : List ν)
  | property (kind : MemberKind) (computed shorthand : Bool) (key value : ν)
  | spread (value : ν)
  | function (traits : FunctionTraits) (name : Option ν) (params : List ν) (body : ν)
  /-- The statements of a function; the text of each directive before them. -/
  | functionBody (directives : List ν) (statements : List ν)
  | classDef (isDeclaration : Bool) (decorators : List ν) (name heritage : Option ν)
      (members : List ν)
  | classMember (kind : MemberKind) (isStatic computed : Bool) (decorators : List ν) (key : ν)
      (value : Option ν)
  | staticBlock (statements : List ν)
  | member (isOptional : Bool) (target : ν) (name : String)
  | privateMember (isOptional : Bool) (target : ν) (name : String)
  | index (isOptional : Bool) (target key : ν)
  /-- The end of an optional chain. -/
  | chain (body : ν)
  | call (isOptional : Bool) (callee : ν) (args : List ν)
  | new (callee : ν) (args : List ν)
  | importCall (args : List ν)
  | metaProperty (object property : String)
  | unary (op : UnaryOp) (operand : ν)
  | update (increment isPrefixed : Bool) (target : ν)
  | binary (op : BinaryOp) (left right : ν)
  | logical (op : LogicalOp) (left right : ν)
  | privateIn (name : String) (right : ν)
  | conditional (test yes no : ν)
  | assign (op : AssignOp) (target value : ν)
  | sequence (items : List ν)
  | yield (delegate : Bool) (value : Option ν)
  | await (value : ν)
  | paren (body : ν)
  -- statements
  | expression (body : ν)
  /-- A statement that is nothing but a string, with its text as it is spelled. -/
  | directive (raw : String) (body : ν)
  | block (statements : List ν)
  | empty
  | declare (kind : VarKind) (declarators : List ν)
  | declarator (target : ν) (value : Option ν)
  | ifElse (test yes : ν) (no : Option ν)
  | forLoop (init test update : Option ν) (body : ν)
  | forIn (left right body : ν)
  | forOf (isAwait : Bool) (left right body : ν)
  | whileLoop (test body : ν)
  | doWhile (body test : ν)
  | continueTo (label : Option String)
  | breakTo (label : Option String)
  | returnValue (value : Option ν)
  | withObject (object body : ν)
  | labelled (label : String) (body : ν)
  | switchOn (value : ν) (cases : List ν)
  | switchCase (test : Option ν) (statements : List ν)
  | throwValue (value : ν)
  | tryBlock (block : ν) (handler finalizer : Option ν)
  | catchClause (param : Option ν) (body : ν)
  | debugger
  | importModule (source : CodeUnits)
  | exportNamed (declaration : Option ν)
  | exportDefault (value : ν)
  | exportAll (source : CodeUnits)
  deriving Inhabited

/-- A node of a script tree. -/
inductive Node where
  | mk (span : Span) (form : Form Node)

namespace Node

instance : Inhabited Node := ⟨.mk default .empty⟩

/-- Where the node was read. -/
def span : Node → Span
  | .mk span _ => span

/-- What the node is. -/
def form : Node → Form Node
  | .mk _ form => form

end Node

/-- The parts of a node, in the order of the text. -/
@[reducible] def Form.children {ν : Type} : Form ν → List ν
  | .name _ => []
  | .privateName _ => []
  | .this => []
  | .superRef => []
  | .null => []
  | .bool _ => []
  | .number _ _ => []
  | .bigint _ => []
  | .string _ _ => []
  | .regex _ _ => []
  | .template _ parts => parts
  | .tagged tag quasi => [tag, quasi]
  | .hole => []
  | .array items => items
  | .object members => members
  | .property _ _ _ key value => [key, value]
  | .spread value => [value]
  | .function _ id params body => id.toList ++ params ++ [body]
  | .functionBody directives statements => directives ++ statements
  | .classDef _ decorators id heritage members =>
    decorators ++ id.toList ++ heritage.toList ++ members
  | .classMember _ _ _ decorators key value => decorators ++ [key] ++ value.toList
  | .staticBlock statements => statements
  | .member _ target _ => [target]
  | .privateMember _ target _ => [target]
  | .index _ target key => [target, key]
  | .chain body => [body]
  | .call _ callee args => callee :: args
  | .new callee args => callee :: args
  | .importCall args => args
  | .metaProperty _ _ => []
  | .unary _ operand => [operand]
  | .update _ _ target => [target]
  | .binary _ left right => [left, right]
  | .logical _ left right => [left, right]
  | .privateIn _ right => [right]
  | .conditional test yes no => [test, yes, no]
  | .assign _ target value => [target, value]
  | .sequence items => items
  | .yield _ value => value.toList
  | .await value => [value]
  | .paren body => [body]
  | .expression body => [body]
  | .directive _ body => [body]
  | .block statements => statements
  | .empty => []
  | .declare _ declarators => declarators
  | .declarator target value => target :: value.toList
  | .ifElse test yes no => test :: yes :: no.toList
  | .forLoop init test step body => init.toList ++ test.toList ++ step.toList ++ [body]
  | .forIn left right body => [left, right, body]
  | .forOf _ left right body => [left, right, body]
  | .whileLoop test body => [test, body]
  | .doWhile body test => [body, test]
  | .continueTo _ => []
  | .breakTo _ => []
  | .returnValue value => value.toList
  | .withObject target body => [target, body]
  | .labelled _ body => [body]
  | .switchOn value cases => value :: cases
  | .switchCase test statements => test.toList ++ statements
  | .throwValue value => [value]
  | .tryBlock body handler finalizer => body :: handler.toList ++ finalizer.toList
  | .catchClause param body => param.toList ++ [body]
  | .debugger => []
  | .importModule _ => []
  | .exportNamed declaration => declaration.toList
  | .exportDefault value => [value]
  | .exportAll _ => []

/-- A whole script or module: its directives, then its statements. -/
structure Program where
  span : Span
  directives : List Node
  statements : List Node
  deriving Inhabited

/-- A part of an optional part is smaller. -/
theorem sizeOf_lt_of_mem_toList {n : Node} {o : Option Node} (h : n ∈ o.toList) :
    sizeOf n < sizeOf o := by
  cases o with
  | none => simp at h
  | some m =>
    have : n = m := by simpa using h
    subst this
    simp

/-- A part is smaller than the node it belongs to. -/
theorem Node.sizeOf_lt_of_mem_children {s : Span} {f : Form Node} {n : Node}
    (h : n ∈ f.children) : sizeOf n < sizeOf (Node.mk s f) := by
  cases f <;> simp [Form.children] at h <;> simp only [Node.mk.sizeOf_spec] <;>
    grind [→ List.sizeOf_lt_of_mem, → sizeOf_lt_of_mem_toList]

/-- The nodes of a tree, every node before its parts, in front of a list. -/
def Node.nodesOnto : Node → List Node → List Node
  | .mk span form, rest =>
    .mk span form :: form.children.attach.foldr (fun ⟨n, _⟩ acc => nodesOnto n acc) rest
termination_by n => sizeOf n
decreasing_by exact sizeOf_lt_of_mem_children ‹_›

/-- All nodes of a tree, every node before its parts. -/
def Node.nodes (n : Node) : List Node := n.nodesOnto []

/-- The nodes of a tree come in front of the list, and nothing else changes. -/
theorem Node.nodesOnto_eq_append (n : Node) (rest : List Node) :
    n.nodesOnto rest = n.nodes ++ rest := by
  match n with
  | .mk span form =>
    have parts (ns : List { m // m ∈ form.children }) :
        ns.foldr (fun ⟨m, _⟩ acc => nodesOnto m acc) rest =
          ns.foldr (fun ⟨m, _⟩ acc => nodesOnto m acc) [] ++ rest := by
      induction ns with
      | nil => rfl
      | cons m ns ih =>
        have hm := m.2
        simp only [List.foldr_cons]
        rw [ih, nodesOnto_eq_append m.1, nodesOnto_eq_append m.1 (List.foldr _ _ _),
          List.append_assoc]
    rw [nodes, nodesOnto, nodesOnto, parts, List.cons_append]
termination_by sizeOf n
decreasing_by all_goals exact sizeOf_lt_of_mem_children hm

/-- A tree has its own node and the nodes of its parts. -/
theorem Node.nodes_mk (span : Span) (form : Form Node) :
    (Node.mk span form).nodes = .mk span form :: form.children.flatMap Node.nodes := by
  have parts (ns : List { m // m ∈ form.children }) :
      ns.foldr (fun ⟨m, _⟩ acc => nodesOnto m acc) [] = ns.unattach.flatMap Node.nodes := by
    induction ns with
    | nil => rfl
    | cons m ns ih =>
      rw [List.foldr_cons, ih]
      exact nodesOnto_eq_append m.1 _
  rw [nodes, nodesOnto, parts, List.unattach_attach]

end PatchSandbox.Script
