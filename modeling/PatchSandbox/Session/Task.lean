import PatchSandbox.Admission
import PatchSandbox.Config
import PatchSandbox.Evaluation.Evaluate
import PatchSandbox.Message
import PatchSandbox.SessionError

/-!
# Calls of a session

* **`Task`** is what a caller asks a session for.
* **`Task.check`** decides whether it may run, before anything is sent to the worker. Modules
  are looked at under their canonical names: none at all, then one that is not admitted, then
  a missing entry.
-/

namespace PatchSandbox

/-- What a caller asks for. -/
inductive Task where
  | script (code : String)
  | modules (entry : String) (pairs : List (String × String))
  deriving Inhabited

namespace Task

/-- The modules that are not admitted, with what was found in them, in the order of the
names. -/
def failures (limits : SourceLimits) (m : ModuleMap) : List ModuleFailure :=
  m.entries.filterMap fun (name, source) =>
    let findings := Admission.check limits source
    if findings.isEmpty then none else some ⟨name, findings⟩

/-- Decides whether a script may run. -/
def checkScript (limits : SourceLimits) (code : String) : Except SessionError Submission :=
  let findings := Admission.check limits code
  if findings.isEmpty then .ok (.script code) else .error (.rejected findings)

/-- Decides whether modules may run, from an entry. -/
def checkModules (limits : SourceLimits) (entry : String) (pairs : List (String × String)) :
    Except SessionError Submission :=
  let m := ModuleMap.ofPairs pairs
  let entry := ModuleName.canonical entry
  if m.isEmpty then .error (.moduleNotFound entry)
  else
    let failed := failures limits m
    if !failed.isEmpty then .error (.modulesRejected failed)
    else if !m.contains entry then .error (.moduleNotFound entry)
    else .ok (.module entry m)

/-- Decides whether a task may run. -/
def check (limits : SourceLimits) : Task → Except SessionError Submission
  | .script code => checkScript limits code
  | .modules entry pairs => checkModules limits entry pairs

end Task

/-- The request that asks the worker for an evaluation. -/
def Submission.request (p : Submission) (id : RequestId) : Request :=
  match p with
  | .script code => .eval id code
  | .module entry modules => .evalModule id entry modules

end PatchSandbox
