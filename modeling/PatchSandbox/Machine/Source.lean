import PatchSandbox.Machine.Compile.Statement
import PatchSandbox.Machine.Run
import PatchSandbox.Script.Program

/-!
# Running texts

* **`codeOf`** makes the code of a text, or tells which error the text is refused with.
* **`runText`** runs a text and gives its value.
-/

namespace PatchSandbox.Machine

/-- An error that a text is refused with. -/
structure Refused where
  kind : ErrorKind
  message : String
  deriving DecidableEq, Repr, Inhabited

/-- The byte of the first character that is no part of any text: `NUL`. -/
def nulOffset? (text : String) : Option Nat :=
  let before := text.toList.takeWhile (· != '\x00')
  let offset := before.foldl (fun n c => n + c.utf8Size) 0
  if offset < text.utf8ByteSize then some offset else none

/-- The code of a text, for a run that has so many functions with code already. -/
def codeOf (text : String) (base : Nat) : Except Refused (Array FunctionCode) :=
  match nulOffset? text with
  | some offset =>
    .error ⟨.typeError, "String contained internal null bytes: " ++
      "nul byte found in provided data at position: " ++ toString offset⟩
  | none =>
    match Script.Program.read .script text.toList with
    | .error flaw => .error ⟨.syntaxError, flaw.cause.evaluationText⟩
    | .ok program =>
      match compileScript text base program with
      | .ok codes => .ok codes
      | .error e => .error ⟨.syntaxError, e.message⟩

/-- Runs the code of a script, which is the last of its functions. -/
def runCode (codes : Array FunctionCode) : M Value := do
  match codes.back? with
  | none => return .undefined
  | some code =>
    runToEnd
      (.ofCall { code, scope := none } Intrinsic.global.ref Intrinsic.global.value .undefined #[]
        none)

/-- Runs a text. -/
def runText (text : String) : M Value := do
  match codeOf text (← get).codes.size with
  | .error e => fail e.kind e.message
  | .ok codes =>
    modify fun s => { s with codes := s.codes ++ codes }
    runCode codes

end PatchSandbox.Machine
