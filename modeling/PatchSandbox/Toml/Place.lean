import PatchSandbox.Toml.Reader

/-!
# Places of values in TOML text

* **`Table.place?`** tells where in a text the value of a key is written down. It goes over
  the statements of a text that reads well once more and keeps their places instead of their
  values.
* **`Place.excerpt`** shows the line of a place with a mark below it.
-/

namespace PatchSandbox.Toml

/-- A stretch of characters. -/
structure Place where
  /-- Number of characters before it. -/
  start : Nat
  /-- Number of characters up to its end. -/
  stop : Nat
  deriving DecidableEq, Repr, Inhabited

/-- The places of values by their keys. -/
abbrev Places := List (Path × Place)

namespace Reader

mutual

/-- The places inside a value that begins a text, and the text after the value; `total`
characters are in the whole text. -/
def valuePlaces (total : Nat) : Nat → Path → List Char → Option (Places × List Char)
  | 0, _, _ => none
  | n + 1, path, cs => do
    let (_, rest) ← value (2 * cs.length + 2) maxDepth cs
    let own : Place := ⟨total - cs.length, total - rest.length⟩
    match cs with
    | '\x7b' :: inner =>
      let places ← entryPlaces total n path inner
      return ((path, own) :: places, rest)
    | _ => return ([(path, own)], rest)

/-- The places inside a table that is written down as a whole. -/
def entryPlaces (total : Nat) : Nat → Path → List Char → Option Places
  | 0, _, _ => none
  | n + 1, path, cs => do
    let cs ← skipLines (cs.length + 1) cs
    match key (cs.length + 1) cs with
    | some (own, '=' :: rest) =>
      let (places, rest) ← valuePlaces total n (path ++ own) (skipBlanks rest)
      match ← skipLines (rest.length + 1) rest with
      | ',' :: rest => return places ++ (← entryPlaces total n path rest)
      | _ => return places
    | _ => return []

end

/-- The places of all values of a text that begins in a table. -/
def statementPlaces (total : Nat) : Nat → Path → List Char → Option Places
  | 0, _, _ => none
  | n + 1, here, cs => do
    let cs ← skipLines (cs.length + 1) cs
    if cs.isEmpty then return []
    let (s, rest) ← statement cs
    let places ← match s with
      | .assign path _ => do
        let (_, after) ← key (cs.length + 1) cs
        let (places, _) ←
          valuePlaces total (total + 1) (here ++ path) (skipBlanks (after.drop 1))
        pure places
      | _ => pure []
    return places ++ (← statementPlaces total n (s.here here) (← lineEnd rest))

end Reader

/-- Where the value of a key is written down. -/
def Table.place? (text : String) (path : Path) : Option Place :=
  let all := text.toList
  let cs := match all with
    | '\uFEFF' :: cs => cs
    | cs => cs
  ((Reader.statementPlaces all.length (all.length + 1) [] cs).getD []).lookup path

/-- The line of a place in a text, with its number, and a mark below what stands there. -/
def Place.excerpt (p : Place) (text : String) : String :=
  let before := text.toList.take p.start
  let number := toString (before.count '\n' + 1)
  let column := (before.reverse.takeWhile (· != '\n')).length
  let content := (text.toList.drop (p.start - column)).takeWhile (· != '\n')
  let bytes (cs : List Char) : Nat := cs.foldl (fun n c => n + c.utf8Size) 0
  let wanted := bytes ((text.toList.drop p.start).take (p.stop - p.start))
  let marks := max 1 (min wanted (bytes content - column))
  let blanks (n : Nat) : String := String.ofList (List.replicate n ' ')
  let gutter := blanks (number.length + 1) ++ "|"
  "TOML parse error at line " ++ number ++ ", column " ++ toString (column + 1) ++ "\n" ++
    gutter ++ "\n" ++ number ++ " | " ++ String.ofList content ++ "\n" ++
    gutter ++ blanks (column + 1) ++ String.ofList (List.replicate marks '^') ++ "\n"

end PatchSandbox.Toml
