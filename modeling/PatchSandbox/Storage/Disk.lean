/-!
# Paths and files

A path is a text whose parts are separated by slashes. Parts that are empty or a single dot
lead nowhere, except for a dot at the very start of a path that does not begin at the root.

* **`FilePath.parent?`** and **`FilePath.name?`** split the last part off. What is left of the
  text stays as it was written.
* **`Disk`** is a list of operations, in whatever monad carries them out, so that what a
  program does to files can be both run and reasoned about. **`Disk.makeDirectories`** is built
  from them.
-/

/-! ### Paths -/

namespace PatchSandbox.FilePath

/-- The pieces of a text between slashes; there is at least one. -/
def pieces : List Char → List (List Char)
  | [] => [[]]
  | c :: cs =>
    if c = '/' then [] :: pieces cs
    else
      match pieces cs with
      | [] => [[c]]
      | p :: ps => (c :: p) :: ps

/-- Pieces with slashes between them. -/
def joined : List (List Char) → List Char
  | [] => []
  | [p] => p
  | p :: ps => p ++ '/' :: joined ps

/-- Whether a path begins at the root, and the pieces that follow. -/
def split (path : String) : Bool × List (List Char) :=
  match path.toList with
  | '/' :: cs => (true, pieces cs)
  | cs => (false, pieces cs)

/-- Whether a piece leads nowhere. -/
def isIdle (piece : List Char) : Bool := piece == [] || piece == ['.']

/-- Pieces without the idle ones at their end, but with a dot at the start. -/
def trimmed (fromRoot : Bool) (ps : List (List Char)) : List (List Char) :=
  match ps with
  | ['.'] :: rest =>
    if fromRoot then (ps.reverse.dropWhile isIdle).reverse
    else ['.'] :: (rest.reverse.dropWhile isIdle).reverse
  | ps => (ps.reverse.dropWhile isIdle).reverse

/-- The text of a path. -/
def assemble (fromRoot : Bool) (ps : List (List Char)) : String :=
  String.ofList ((if fromRoot then ['/'] else []) ++ joined ps)

/-- The path without its last part, if it has one. -/
def parent? (path : String) : Option String :=
  let (fromRoot, ps) := split path
  match trimmed fromRoot ps with
  | [] => none
  | ps => some (assemble fromRoot (trimmed fromRoot ps.dropLast))

/-- The last part, if it is a name. -/
def name? (path : String) : Option String :=
  let (fromRoot, ps) := split path
  match (trimmed fromRoot ps).getLast? with
  | none => none
  | some p => if p = ['.', '.'] ∨ isIdle p then none else some (String.ofList p)

/-- A path followed by a name. -/
def child (path name : String) : String :=
  if path.isEmpty then name
  else if path.toList.getLast? = some '/' then path ++ name
  else path ++ "/" ++ name

end PatchSandbox.FilePath

/-! ### What is asked of a file system -/

namespace PatchSandbox

/-- Why a file operation fails. -/
inductive DiskFlaw where
  | notFound
  | alreadyExists
  | isDirectory
  | notDirectory
  | denied
  | nameTooLong
  /-- A name has a character that no name may have. -/
  | nulInName
  /-- A file holds something else than text. -/
  | notText
  | other (text : String)
  deriving DecidableEq, Repr, Inhabited

/-- The wording of a flaw. -/
def DiskFlaw.message : DiskFlaw → String
  | .notFound => "No such file or directory (os error 2)"
  | .alreadyExists => "File exists (os error 17)"
  | .isDirectory => "Is a directory (os error 21)"
  | .notDirectory => "Not a directory (os error 20)"
  | .denied => "Permission denied (os error 13)"
  | .nameTooLong => "File name too long (os error 36)"
  | .nulInName => "file name contained an unexpected NUL byte"
  | .notText => "stream did not contain valid UTF-8"
  | .other text => text

/-- Operations on files. -/
structure Disk (m : Type → Type) where
  /-- Whether there is something at a path. -/
  exists? : String → m Bool
  isDirectory : String → m Bool
  /-- Makes one directory. -/
  makeDirectory : String → m (Except DiskFlaw Unit)
  read : String → m (Except DiskFlaw String)
  /-- Puts a text into a file, which is made if there is none. -/
  write : String → String → m (Except DiskFlaw Unit)
  /-- Moves a file, in place of one that may be there. -/
  rename : String → String → m (Except DiskFlaw Unit)

namespace Disk

variable {m : Type → Type} [Monad m]

/-- Makes a directory and those it is in, of at most so many. -/
def makeDirectoriesIn (d : Disk m) : Nat → String → m (Except DiskFlaw Unit)
  | 0, _ => return .ok ()
  | n + 1, path => do
    if path.isEmpty then return .ok ()
    match ← d.makeDirectory path with
    | .ok () => return .ok ()
    | .error .notFound =>
      match FilePath.parent? path with
      | none => return .error (.other "failed to create whole tree")
      | some parent =>
        match ← d.makeDirectoriesIn n parent with
        | .error e => return .error e
        | .ok () =>
          match ← d.makeDirectory path with
          | .ok () => return .ok ()
          | .error e => if ← d.isDirectory path then return .ok () else return .error e
    | .error e => if ← d.isDirectory path then return .ok () else return .error e

/-- Makes a directory and those it is in, where there are none. -/
def makeDirectories (d : Disk m) (path : String) : m (Except DiskFlaw Unit) :=
  d.makeDirectoriesIn (path.length + 1) path

end Disk

end PatchSandbox
