import PatchSandbox.CommandLine.Run
import PatchSandbox.Machine.Engine

/-!
# The program

Carries out one command on the file system of the machine it runs on. All decisions are made
elsewhere; here files are read and written and texts are printed.
-/

namespace PatchSandbox.CommandLine

/-- The flaw that an error of a file operation stands for. -/
def flawOf : IO.Error → DiskFlaw
  | .noFileOrDirectory _ _ _ => .notFound
  | .alreadyExists _ _ _ => .alreadyExists
  | .permissionDenied _ _ _ => .denied
  | .inappropriateType _ code _ => if code = 20 then .notDirectory else .isDirectory
  | e => .other (toString e)

/-- Does something with files and gives its flaw, if it has one. -/
def flawed {α : Type} (act : IO α) : IO (Except DiskFlaw α) := do
  match ← act.toBaseIO with
  | .ok a => return .ok a
  | .error e => return .error (flawOf e)

/-- The text of a file. -/
def readText (path : String) : IO (Except DiskFlaw String) := do
  match ← flawed (IO.FS.readBinFile path) with
  | .error e => return .error e
  | .ok content =>
    match String.fromUTF8? content with
    | some text => return .ok text
    | none => return .error .notText

/-- The file system of the machine. -/
def machineDisk : Disk IO where
  exists? path := do
    match ← flawed (IO.FS.Handle.mk path .read) with
    | .ok _ => return true
    | .error .denied => return true
    | .error _ => return false
  isDirectory path := do
    match ← readText path with
    | .error .isDirectory => return true
    | _ => return false
  makeDirectory path := flawed (IO.FS.createDir path)
  read := readText
  write path text := flawed (IO.FS.writeFile path text)
  rename source target := flawed (IO.FS.rename source target)

/-- How the program is used. -/
def usageText : String :=
  "Usage: scriptbox [--config <CONFIG>] <init-config|validate|eval|eval-module> ..."

/-- The exit code of arguments that do not fit. -/
def misuseCode : UInt32 := 2

end PatchSandbox.CommandLine

open PatchSandbox PatchSandbox.CommandLine in
/-- Carries out the command that the arguments ask for. -/
def main (arguments : List String) : IO UInt32 := do
  match Invocation.read arguments with
  | .ok i =>
    let p ← CommandLine.run machineDisk Machine.enginesFor i
    IO.print p.stdout
    IO.eprint p.stderr
    return p.exit.code.toUInt32
  | .error .version =>
    IO.println versionText
    return 0
  | .error .help =>
    IO.println usageText
    return 0
  | .error .misused =>
    IO.eprintln usageText
    return misuseCode
