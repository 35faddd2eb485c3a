import Gatehouse.Gate.Failure

/-!
# Status of remote calls

The status code and message with which a remote procedure call reports a failure.
-/

namespace Gatehouse

/-- The status codes in use. -/
inductive RemoteCode where
  | invalidArgument
  | notFound
  | permissionDenied
  | internal
  | unauthenticated
  deriving DecidableEq

/-- The number of a status code. -/
def RemoteCode.number : RemoteCode → Nat
  | invalidArgument => 3
  | notFound => 5
  | permissionDenied => 7
  | internal => 13
  | unauthenticated => 16

/-- A status code with a message. -/
structure RemoteStatus where
  code : RemoteCode
  message : String
  deriving DecidableEq

namespace Failure

/-- The status code of each failure. -/
def remoteCode : Failure → RemoteCode
  | badToken => .unauthenticated
  | permissionDenied => .permissionDenied
  | invalid _ _ => .invalidArgument
  | notFound _ _ => .notFound
  | unexpected _ | cancelled => .internal

/-- The status that reports a failure. -/
def toRemoteStatus (f : Failure) : RemoteStatus := ⟨f.remoteCode, f.publicDetail⟩

end Failure

end Gatehouse
