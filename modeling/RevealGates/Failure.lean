import RevealGates.Files.Tree
import RevealGates.Settings.Decode

/-! Failures: everything that ends a run early, with its wording and its exit code. -/

set_option autoImplicit false

namespace RevealGates

/-- How a run ends. -/
inductive ExitCode where
  | success
  /-- The returned sequence is not the expected one. -/
  | mismatch
  | refused
  | internal
  deriving DecidableEq, Repr

def ExitCode.number : ExitCode → Nat
  | .success => 0
  | .mismatch => 1
  | .refused => 2
  | .internal => 3

/-- What went wrong. -/
inductive Failure where
  | settings (path : String) (fault : SettingsFault)
  | argument (error : ArgumentError)
  | unreadable (path : String) (fault : Files.Fault)
  deriving DecidableEq, Repr

namespace Failure

def message : Failure → String
  | .settings path fault => "config error: " ++ fault.message path
  | .argument error => error.message
  | .unreadable path fault => "io error: " ++ path ++ ": " ++ fault.message

def path? : Failure → Option String
  | .settings path _ => some path
  | .argument _ => none
  | .unreadable path _ => some path

def exitCode : Failure → ExitCode
  | .settings .. => .refused
  | .argument _ => .refused
  | .unreadable .. => .internal

end Failure

end RevealGates
