/-!
# Errors of the operating system

What a failed read, write or connection reports: its kind, and a message in
place of the kind's own text if there is one.
-/

namespace BoundedWait

/-- The kinds of system errors. -/
inductive SystemError.Kind
  | notFound
  | permissionDenied
  | connectionRefused
  | connectionReset
  | connectionAborted
  | notConnected
  | addressInUse
  | addressNotAvailable
  | brokenPipe
  | alreadyExists
  | wouldBlock
  | invalidInput
  | invalidData
  | timedOut
  | writeZero
  | interrupted
  | unsupported
  | unexpectedEnd
  | outOfMemory
  | other
  | hostUnreachable
  | networkUnreachable
  | networkDown
  | directoryNotEmpty
  | storageFull
deriving DecidableEq, Repr

/-- An error of the operating system. -/
structure SystemError where
  kind : SystemError.Kind
  message : Option String
deriving DecidableEq, Repr

namespace SystemError

/-- The text of a kind. -/
def Kind.text : Kind → String
  | notFound => "entity not found"
  | permissionDenied => "permission denied"
  | connectionRefused => "connection refused"
  | connectionReset => "connection reset"
  | connectionAborted => "connection aborted"
  | notConnected => "not connected"
  | addressInUse => "address in use"
  | addressNotAvailable => "address not available"
  | brokenPipe => "broken pipe"
  | alreadyExists => "entity already exists"
  | wouldBlock => "operation would block"
  | invalidInput => "invalid input parameter"
  | invalidData => "invalid data"
  | timedOut => "timed out"
  | writeZero => "write zero"
  | interrupted => "operation interrupted"
  | unsupported => "unsupported"
  | unexpectedEnd => "unexpected end of file"
  | outOfMemory => "out of memory"
  | other => "other error"
  | hostUnreachable => "host unreachable"
  | networkUnreachable => "network unreachable"
  | networkDown => "network down"
  | directoryNotEmpty => "directory not empty"
  | storageFull => "no storage space"

/-- The message of an error, else the text of its kind. -/
def text (e : SystemError) : String :=
  e.message.getD e.kind.text

/-- An error that has only a message. -/
def ofMessage (message : String) : SystemError :=
  ⟨.other, some message⟩

/-- Reading a directory as if it were a file. -/
def isADirectory : SystemError :=
  ofMessage "Is a directory (os error 21)"

/-- Reading a file as text whose bytes are not UTF-8. -/
def notUtf8 : SystemError :=
  ⟨.invalidData, some "stream did not contain valid UTF-8"⟩

end SystemError
end BoundedWait
