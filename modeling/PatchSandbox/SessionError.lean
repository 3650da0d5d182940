import PatchSandbox.Finding
import PatchSandbox.Duration

/-!
# Errors of a session

Why a call of a session does not return an output. Each cause belongs to one coarse
`ErrorKind`, and `SessionError.message` words it.
-/

namespace PatchSandbox

/-- Coarse class of an error. -/
inductive ErrorKind where
  /-- Static admission failed. -/
  | validation
  /-- The entry module is missing, or a module was not admitted. -/
  | moduleResolution
  /-- An uncaught exception or an interpreter failure. -/
  | runtimeFault
  /-- There is no engine. -/
  | initialization
  /-- The session is over. -/
  | disposal
  deriving DecidableEq, Repr, Inhabited

/-- Cause of an unsuccessful call. -/
inductive SessionError where
  | rejected (errors : List Finding)
  | modulesRejected (failures : List ModuleFailure)
  | moduleNotFound (entry : String)
  /-- The script failed; its logs survive, its ops do not. -/
  | scriptFailed (message : String) (logs : List String)
  | engineFailed (message : String)
  | disposed
  | timedOut (after : Duration)
  | workerLost
  deriving DecidableEq, Repr, Inhabited

namespace SessionError

/-- The class of a cause. -/
def kind : SessionError → ErrorKind
  | .rejected _ => .validation
  | .modulesRejected _ => .moduleResolution
  | .moduleNotFound _ => .moduleResolution
  | .scriptFailed _ _ => .runtimeFault
  | .engineFailed _ => .initialization
  | .disposed => .disposal
  | .timedOut _ => .disposal
  | .workerLost => .disposal

/-- The console lines from before a script failed. -/
def logs : SessionError → List String
  | .scriptFailed _ logs => logs
  | _ => []

/-- The wording of a cause. -/
def message : SessionError → String
  | .rejected errors => "script rejected:\n" ++ Finding.render errors
  | .modulesRejected failures => "modules rejected:\n" ++ ModuleFailure.render failures
  | .moduleNotFound entry => "module not found: '" ++ entry ++ "'"
  | .scriptFailed message _ => "script failed: " ++ message
  | .engineFailed message => "sandbox engine failed to initialize: " ++ message
  | .disposed => "sandbox session disposed"
  | .timedOut after => "evaluation exceeded " ++ after.text ++ "; session disposed"
  | .workerLost => "sandbox worker exited unexpectedly"

end SessionError

end PatchSandbox
