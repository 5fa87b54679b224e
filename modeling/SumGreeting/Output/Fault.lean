/-!
# Faults of input and output

A fault of the operating system has a kind and a message.  The message is free text; the kind is
one of a fixed list, each with a name.  An interruption is a fault that ends nothing, since what was
interrupted is done again; all others are fatal.

## Main definitions

* `IoFault.Kind` : the kinds, with `IoFault.Kind.name` and `IoFault.Kind.ofName?`.
* `IoFault` : a kind and a message.
* `FatalFault` : a fault that is no interruption.
* `IoFault.nothingAccepted` : the fault of a sink that takes no byte and reports no error.
-/

namespace SumGreeting

/-- The kinds of faults that the operating system and its streams report. -/
inductive IoFault.Kind where
  | notFound
  | permissionDenied
  | connectionRefused
  | connectionReset
  | hostUnreachable
  | networkUnreachable
  | connectionAborted
  | notConnected
  | addressInUse
  | addressNotAvailable
  | networkDown
  | brokenPipe
  | alreadyExists
  | wouldBlock
  | notADirectory
  | isADirectory
  | directoryNotEmpty
  | readOnlyFilesystem
  | staleNetworkFileHandle
  | invalidInput
  | invalidData
  | timedOut
  | writeZero
  | storageFull
  | notSeekable
  | quotaExceeded
  | fileTooLarge
  | resourceBusy
  | executableFileBusy
  | deadlock
  | crossesDevices
  | tooManyLinks
  | invalidFilename
  | argumentListTooLong
  | interrupted
  | unsupported
  | unexpectedEof
  | outOfMemory
  | other
  deriving DecidableEq, Inhabited

namespace IoFault.Kind

/-- The name of a kind. -/
def name : Kind → String
  | notFound => "NotFound"
  | permissionDenied => "PermissionDenied"
  | connectionRefused => "ConnectionRefused"
  | connectionReset => "ConnectionReset"
  | hostUnreachable => "HostUnreachable"
  | networkUnreachable => "NetworkUnreachable"
  | connectionAborted => "ConnectionAborted"
  | notConnected => "NotConnected"
  | addressInUse => "AddrInUse"
  | addressNotAvailable => "AddrNotAvailable"
  | networkDown => "NetworkDown"
  | brokenPipe => "BrokenPipe"
  | alreadyExists => "AlreadyExists"
  | wouldBlock => "WouldBlock"
  | notADirectory => "NotADirectory"
  | isADirectory => "IsADirectory"
  | directoryNotEmpty => "DirectoryNotEmpty"
  | readOnlyFilesystem => "ReadOnlyFilesystem"
  | staleNetworkFileHandle => "StaleNetworkFileHandle"
  | invalidInput => "InvalidInput"
  | invalidData => "InvalidData"
  | timedOut => "TimedOut"
  | writeZero => "WriteZero"
  | storageFull => "StorageFull"
  | notSeekable => "NotSeekable"
  | quotaExceeded => "QuotaExceeded"
  | fileTooLarge => "FileTooLarge"
  | resourceBusy => "ResourceBusy"
  | executableFileBusy => "ExecutableFileBusy"
  | deadlock => "Deadlock"
  | crossesDevices => "CrossesDevices"
  | tooManyLinks => "TooManyLinks"
  | invalidFilename => "InvalidFilename"
  | argumentListTooLong => "ArgumentListTooLong"
  | interrupted => "Interrupted"
  | unsupported => "Unsupported"
  | unexpectedEof => "UnexpectedEof"
  | outOfMemory => "OutOfMemory"
  | other => "Other"

/-- All kinds. -/
def all : List Kind :=
  [notFound, permissionDenied, connectionRefused, connectionReset, hostUnreachable,
    networkUnreachable, connectionAborted, notConnected, addressInUse, addressNotAvailable,
    networkDown, brokenPipe, alreadyExists, wouldBlock, notADirectory, isADirectory,
    directoryNotEmpty, readOnlyFilesystem, staleNetworkFileHandle, invalidInput, invalidData,
    timedOut, writeZero, storageFull, notSeekable, quotaExceeded, fileTooLarge, resourceBusy,
    executableFileBusy, deadlock, crossesDevices, tooManyLinks, invalidFilename,
    argumentListTooLong, interrupted, unsupported, unexpectedEof, outOfMemory, other]

/-- The kind with the given name, if there is one. -/
def ofName? (text : String) : Option Kind :=
  all.find? fun kind => kind.name = text

end IoFault.Kind

/-- A fault reported by a stream: its kind and its message. -/
structure IoFault where
  /-- The kind of the fault. -/
  kind : IoFault.Kind
  /-- The message of the fault. -/
  message : String
  deriving DecidableEq, Inhabited

/-- A fault that ends what it happens in.  An interruption is not one of them. -/
structure FatalFault extends IoFault where
  /-- The fault is no interruption. -/
  isFatal : kind ≠ .interrupted := by decide
  deriving DecidableEq

instance : Coe FatalFault IoFault := ⟨FatalFault.toIoFault⟩

/-- The fault of a sink that accepts no byte of a non-empty text and reports no error. -/
def IoFault.nothingAccepted : IoFault := ⟨.writeZero, "failed to write whole buffer"⟩

namespace FatalFault

/-- The fault of a device without space for another byte. -/
def deviceFull : FatalFault where
  kind := .storageFull
  message := "No space left on device (os error 28)"

/-- The fault of a pipe whose reader is gone. -/
def readerGone : FatalFault where
  kind := .brokenPipe
  message := "Broken pipe (os error 32)"

end FatalFault

end SumGreeting
