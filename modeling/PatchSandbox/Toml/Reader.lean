import PatchSandbox.Toml.Scalar

/-!
# Reading TOML text

* **`statements`** reads a text line by line: headers, assignments, comments. Values may
  take several lines.
* **`Table.read`** also puts the table together that the statements describe.
-/

namespace PatchSandbox.Toml

namespace Reader

/-- Skips blanks within a line. -/
def skipBlanks (cs : List Char) : List Char := cs.dropWhile fun c => c == ' ' || c == '\t'

/-- Whether a character may be part of a key without quotes. -/
def isBare (c : Char) : Bool := c.isAlphanum || c == '_' || c == '-'

/-- Reads one part of a key. -/
def keyPart (cs : List Char) : Option (String × List Char) :=
  match cs with
  | '"' :: _ => (Quoted.single cs).map fun (text, rest) => (String.ofList text, rest)
  | '\'' :: _ => (Quoted.single cs).map fun (text, rest) => (String.ofList text, rest)
  | cs =>
    let word := cs.takeWhile isBare
    if word.isEmpty then none else some (String.ofList word, cs.dropWhile isBare)

/-- Reads a key, with blanks around its parts. -/
def key : Nat → List Char → Option (Path × List Char)
  | 0, _ => none
  | n + 1, cs => do
    let (part, rest) ← keyPart (skipBlanks cs)
    match skipBlanks rest with
    | '.' :: rest =>
      let (path, rest) ← key n rest
      return (part :: path, rest)
    | rest => return ([part], rest)

/-- Skips a comment, up to the end of the line; tells if it is well formed. -/
def comment (cs : List Char) : Option (List Char) :=
  match cs with
  | '#' :: cs =>
    let rest := cs.dropWhile fun c => !Quoted.isControl c
    match rest with
    | [] => some []
    | rest => (Quoted.lineBreak? rest).map fun _ => rest
  | cs => some cs

/-- Skips blanks, line breaks and comments. -/
def skipLines : Nat → List Char → Option (List Char)
  | 0, _ => none
  | n + 1, cs => do
    let rest ← comment (skipBlanks cs)
    match Quoted.lineBreak? rest with
    | some rest => skipLines n rest
    | none => return rest

/-- Most arrays and tables within each other. -/
def maxDepth : Nat := 80

mutual

/-- Reads a value; `depth` more arrays and tables may open. -/
def value : Nat → Nat → List Char → Option (Value × List Char)
  | 0, _, _ => none
  | n + 1, depth, cs =>
    match cs with
    | '[' :: rest => if depth = 0 then none else items n (depth - 1) [] rest
    | '\x7b' :: rest => if depth = 0 then none else entries n (depth - 1) [] rest
    | c :: rest =>
      if c = '"' ∨ c = '\'' then
        (Quoted.read (c :: rest)).map fun (text, rest) => (.string (String.ofList text), rest)
      else
        let (word, rest) := Scalar.takeWord (c :: rest)
        (Scalar.read word).map fun v => (v, rest)
    | [] => none

/-- Reads the items of an array up to its end. -/
def items : Nat → Nat → List Value → List Char → Option (Value × List Char)
  | 0, _, _, _ => none
  | n + 1, depth, acc, cs =>
    match skipLines (cs.length + 1) cs with
    | some (']' :: rest) => some (.array acc.reverse, rest)
    | some cs =>
      match value n depth cs with
      | none => none
      | some (v, rest) =>
        match skipLines (rest.length + 1) rest with
        | some (',' :: rest) => items n depth (v :: acc) rest
        | some (']' :: rest) => some (.array (v :: acc).reverse, rest)
        | _ => none
    | none => none

/-- Reads the entries of a table that is written down as a whole, up to its end. -/
def entries : Nat → Nat → List (Path × Value) → List Char → Option (Value × List Char)
  | 0, _, _, _ => none
  | n + 1, depth, acc, cs =>
    let done (acc : List (Path × Value)) (rest : List Char) : Option (Value × List Char) :=
      (Table.ofEntries acc.reverse).map fun t => (.table .whole t, rest)
    match skipLines (cs.length + 1) cs with
    | some ('\x7d' :: rest) => done acc rest
    | some cs =>
      match key (cs.length + 1) cs with
      | some (path, '=' :: rest) =>
        match value n depth (skipBlanks rest) with
        | none => none
        | some (v, rest) =>
          match skipLines (rest.length + 1) rest with
          | some (',' :: rest) => entries n depth ((path, v) :: acc) rest
          | some ('\x7d' :: rest) => done ((path, v) :: acc) rest
          | _ => none
      | _ => none
    | none => none

end

/-- Reads what a line may end with after a statement: the text from the next line on. -/
def lineEnd (cs : List Char) : Option (List Char) :=
  match comment (skipBlanks cs) with
  | some [] => some []
  | some rest => Quoted.lineBreak? rest
  | none => none

/-- Reads one statement, without the end of its line. -/
def statement (cs : List Char) : Option (Statement × List Char) :=
  match cs with
  | '[' :: '[' :: rest =>
    match key (rest.length + 1) rest with
    | some (path, ']' :: ']' :: rest) => some (.arrayHeader path, rest)
    | _ => none
  | '[' :: rest =>
    match key (rest.length + 1) rest with
    | some (path, ']' :: rest) => some (.header path, rest)
    | _ => none
  | cs =>
    match key (cs.length + 1) cs with
    | some (path, '=' :: rest) =>
      match value (2 * rest.length + 2) maxDepth (skipBlanks rest) with
      | some (v, rest) => some (.assign path v, rest)
      | none => none
    | _ => none

/-- Reads statements up to the end of the text. -/
def statements : Nat → List Char → Option (List Statement)
  | 0, _ => none
  | n + 1, cs =>
    match skipLines (cs.length + 1) cs with
    | none => none
    | some [] => some []
    | some cs =>
      match statement cs with
      | none => none
      | some (s, rest) =>
        match lineEnd rest with
        | none => none
        | some rest => (statements n rest).map (s :: ·)

end Reader

/-- Reads a text, which a byte order mark may precede. -/
def Table.read (text : String) : Option Table :=
  let cs :=
    match text.toList with
    | '\uFEFF' :: cs => cs
    | cs => cs
  (Reader.statements (cs.length + 1) cs).bind Table.ofStatements

end PatchSandbox.Toml
