import PatchSandbox.Storage.Disk

/-!
# File trees

**`FileTree`** is a file system as a value: which directories and files there are, by the
names on the way to them from the root. A path is followed part by part, and every part but
the last has to lead to a directory.
-/

namespace PatchSandbox

/-- The names on the way from the root. -/
abbrev Place := List String

/-- What is at a place. -/
inductive FileTree.Node where
  | directory
  | file (content : ByteArray)
  deriving Inhabited

/-- A file system. The root is a directory. -/
structure FileTree where
  /-- Where paths begin that do not begin at the root. -/
  here : Place := []
  nodes : List (Place × FileTree.Node) := []
  deriving Inhabited

namespace FileTree

/-- What is at a place. -/
def node? (t : FileTree) (p : Place) : Option Node :=
  if p = [] then some .directory else t.nodes.lookup p

/-- Puts something at a place, in place of what is there. -/
def put (t : FileTree) (p : Place) (n : Node) : FileTree :=
  { t with nodes := (p, n) :: t.nodes.filter (·.1 != p) }

/-- Removes what is at a place. -/
def remove (t : FileTree) (p : Place) : FileTree :=
  { t with nodes := t.nodes.filter (·.1 != p) }

/-- Most bytes of a name. -/
def maxNameBytes : Nat := 255

/-- Follows one part of a path. -/
def follow (t : FileTree) (p : Place) (part : List Char) : Except DiskFlaw Place :=
  match t.node? p with
  | none => .error .notFound
  | some (.file _) => .error .notDirectory
  | some .directory =>
    if FilePath.isIdle part then .ok p
    else if part = ['.', '.'] then .ok p.dropLast
    else
      let name := String.ofList part
      if maxNameBytes < name.utf8ByteSize then .error .nameTooLong else .ok (p ++ [name])

/-- The place that a path leads to. There need not be anything. -/
def locate (t : FileTree) (path : String) : Except DiskFlaw Place :=
  if path.isEmpty then .error .notFound
  else if path.toList.contains '\x00' then .error .nulInName
  else
    let (fromRoot, parts) := FilePath.split path
    parts.foldlM t.follow (if fromRoot then [] else t.here)

/-- What a path leads to. -/
def find? (t : FileTree) (path : String) : Except DiskFlaw Node := do
  match t.node? (← t.locate path) with
  | some n => return n
  | none => .error .notFound

/-- Whether a path ends in a slash, so that it only ever leads to a directory. -/
def endsInSlash (path : String) : Bool := path.toList.getLast? == some '/'

/-- A path without slashes at its end. -/
def withoutSlashes (path : String) : String :=
  let cs := (path.toList.reverse.dropWhile (· == '/')).reverse
  if cs.isEmpty && !path.isEmpty then "/" else String.ofList cs

/-- Makes a directory. -/
def makeDirectory (t : FileTree) (path : String) : Except DiskFlaw FileTree := do
  let p ← t.locate (withoutSlashes path)
  match t.node? p with
  | some _ => .error .alreadyExists
  | none => .ok (t.put p .directory)

/-- The text of a file. -/
def read (t : FileTree) (path : String) : Except DiskFlaw String := do
  match ← t.find? path with
  | .directory => .error .isDirectory
  | .file content =>
    match String.fromUTF8? content with
    | some text => .ok text
    | none => .error .notText

/-- Puts bytes into a file. -/
def writeBytes (t : FileTree) (path : String) (content : ByteArray) :
    Except DiskFlaw FileTree := do
  let p ← t.locate (withoutSlashes path)
  match t.node? p with
  | some .directory => .error .isDirectory
  | _ => if endsInSlash path then .error .isDirectory else .ok (t.put p (.file content))

/-- Puts a text into a file. -/
def write (t : FileTree) (path text : String) : Except DiskFlaw FileTree :=
  t.writeBytes path text.toUTF8

/-- Moves a file. -/
def rename (t : FileTree) (source target : String) : Except DiskFlaw FileTree := do
  let p ← t.locate source
  let q ← t.locate (withoutSlashes target)
  match t.node? p, t.node? q with
  | none, _ => .error .notFound
  | some .directory, _ => .error .isDirectory
  | some (.file content), other =>
    if endsInSlash target then .error .notDirectory
    else
      match other with
      | some .directory => .error .isDirectory
      | _ => .ok ((t.remove p).put q (.file content))

/-- Carries an operation out on the tree, which stays as it is if the operation fails. -/
def change (f : FileTree → Except DiskFlaw FileTree) : StateM FileTree (Except DiskFlaw Unit) :=
  fun t =>
    match f t with
    | .ok t => (.ok (), t)
    | .error e => (.error e, t)

/-- The operations on a tree. -/
def disk : Disk (StateM FileTree) where
  exists? path := fun t => ((t.find? path).toOption.isSome, t)
  isDirectory path := fun t =>
    (match t.find? path with
      | .ok .directory => true
      | _ => false, t)
  makeDirectory path := change (·.makeDirectory path)
  read path := fun t => (t.read path, t)
  write path text := change (·.write path text)
  rename source target := change (·.rename source target)

/-- The files below where paths begin, by the texts of their paths, in order. -/
def files (t : FileTree) : List (String × ByteArray) :=
  (t.nodes.filterMap fun (p, n) =>
    match n with
    | .file content =>
      if t.here.isPrefixOf p && p != t.here then
        some ("/".intercalate (p.drop t.here.length), content)
      else none
    | .directory => none).mergeSort fun a b => a.1 ≤ b.1

end FileTree

end PatchSandbox
