/-!
# Failures of the machine

What the machine answers when it refuses a file, a socket or a program.  Refusals
with a number of their own are listed; any other failure is known by its text.
-/

namespace PortMapping

/-- A refusal that the machine identifies by a number. -/
inductive SystemRefusal where
  | notPermitted
  | noSuchFile
  | permissionDenied
  | notDirectory
  | isDirectory
  | noSuchDevice
  | invalidArgument
  | nameTooLong
  | familyUnsupported
  | addressInUse
  | addressUnavailable
  | networkUnreachable
  deriving DecidableEq, Repr

namespace SystemRefusal

/-- The number of a refusal. -/
def number : SystemRefusal → Nat
  | .notPermitted => 1
  | .noSuchFile => 2
  | .permissionDenied => 13
  | .notDirectory => 20
  | .isDirectory => 21
  | .noSuchDevice => 19
  | .invalidArgument => 22
  | .nameTooLong => 36
  | .familyUnsupported => 97
  | .addressInUse => 98
  | .addressUnavailable => 99
  | .networkUnreachable => 101

/-- The words for a refusal. -/
def words : SystemRefusal → String
  | .notPermitted => "Operation not permitted"
  | .noSuchFile => "No such file or directory"
  | .permissionDenied => "Permission denied"
  | .notDirectory => "Not a directory"
  | .isDirectory => "Is a directory"
  | .noSuchDevice => "No such device"
  | .invalidArgument => "Invalid argument"
  | .nameTooLong => "File name too long"
  | .familyUnsupported => "Address family not supported by protocol"
  | .addressInUse => "Address already in use"
  | .addressUnavailable => "Cannot assign requested address"
  | .networkUnreachable => "Network is unreachable"

/-- The words for a refusal with its number. -/
def text (refusal : SystemRefusal) : String :=
  refusal.words ++ " (os error " ++ toString refusal.number ++ ")"

end SystemRefusal

/-- A failed exchange with the machine. -/
inductive IoFailure where
  | refused (refusal : SystemRefusal)
  | described (message : String)
  deriving DecidableEq, Repr

namespace IoFailure

/-- The words for a failure. -/
def text : IoFailure → String
  | .refused refusal => refusal.text
  | .described message => message

end IoFailure

end PortMapping
