/-
What can go wrong while reading. A failure of the source has a kind and,
optionally, a message of its own; without one, its text is the standard
sentence for the kind. A reader of characters sees two ways not to get
one: the source is at its end, which is no fault, or it failed.
-/
namespace Monkey

-- ============================================================= failures

/-- The kinds of failure a source can report. The list is open: a kind that
is not on it comes with its name and its sentence. An interrupted read is not
final: the same read may be tried again at once. -/
inductive FailureKind where
  | notFound
  | permissionDenied
  | connectionRefused
  | connectionReset
  | hostUnreachable
  | networkUnreachable
  | connectionAborted
  | notConnected
  | addressInUse
  | addressNotAvailable
  | networkDown
  | brokenPipe
  | alreadyExists
  | wouldBlock
  | notADirectory
  | isADirectory
  | directoryNotEmpty
  | readOnlyFilesystem
  | filesystemLoop
  | staleNetworkHandle
  | invalidInput
  | invalidData
  | timedOut
  | writeZero
  | storageFull
  | notSeekable
  | quotaExceeded
  | fileTooLarge
  | resourceBusy
  | executableBusy
  | deadlock
  | crossesDevices
  | tooManyLinks
  | invalidFilename
  | argumentListTooLong
  | interrupted
  | unsupported
  | unexpectedEnd
  | outOfMemory
  | inProgress
  | other
  | uncategorized
  | unlisted (name sentence : String)
deriving DecidableEq

/-- The standard sentence for a kind of failure. -/
def FailureKind.text : FailureKind → String
  | .notFound => "entity not found"
  | .permissionDenied => "permission denied"
  | .connectionRefused => "connection refused"
  | .connectionReset => "connection reset"
  | .hostUnreachable => "host unreachable"
  | .networkUnreachable => "network unreachable"
  | .connectionAborted => "connection aborted"
  | .notConnected => "not connected"
  | .addressInUse => "address in use"
  | .addressNotAvailable => "address not available"
  | .networkDown => "network down"
  | .brokenPipe => "broken pipe"
  | .alreadyExists => "entity already exists"
  | .wouldBlock => "operation would block"
  | .notADirectory => "not a directory"
  | .isADirectory => "is a directory"
  | .directoryNotEmpty => "directory not empty"
  | .readOnlyFilesystem => "read-only filesystem or storage medium"
  | .filesystemLoop =>
      "filesystem loop or indirection limit (e.g. symlink loop)"
  | .staleNetworkHandle => "stale network file handle"
  | .invalidInput => "invalid input parameter"
  | .invalidData => "invalid data"
  | .timedOut => "timed out"
  | .writeZero => "write zero"
  | .storageFull => "no storage space"
  | .notSeekable => "seek on unseekable file"
  | .quotaExceeded => "quota exceeded"
  | .fileTooLarge => "file too large"
  | .resourceBusy => "resource busy"
  | .executableBusy => "executable file busy"
  | .deadlock => "deadlock"
  | .crossesDevices => "cross-device link or rename"
  | .tooManyLinks => "too many links"
  | .invalidFilename => "invalid filename"
  | .argumentListTooLong => "argument list too long"
  | .interrupted => "operation interrupted"
  | .unsupported => "unsupported"
  | .unexpectedEnd => "unexpected end of file"
  | .outOfMemory => "out of memory"
  | .inProgress => "in progress"
  | .other => "other error"
  | .uncategorized => "uncategorized error"
  | .unlisted _ sentence => sentence

/-- One failed read. -/
structure ReadFailure where
  kind : FailureKind
  message : Option String
deriving DecidableEq

/-- A failure says its own message, an empty one included, or else the
standard sentence for its kind. -/
def ReadFailure.text (f : ReadFailure) : String :=
  f.message.getD f.kind.text

-- ========================================================== read errors

/-- Why there is no next character. -/
inductive ReadError where
  | endOfInput
  | failed (failure : ReadFailure)
deriving DecidableEq

namespace ReadError

/-- What a message says about a missing character. -/
def text : ReadError → String
  | .endOfInput => "end of input"
  | .failed f => f.text

/-- The texts of the error and of its causes, outermost first. A failure
speaks for itself here and is not listed a second time as a cause. -/
def chain (e : ReadError) : List String := [e.text]

end ReadError

end Monkey
