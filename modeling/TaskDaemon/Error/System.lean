import TaskDaemon.Text.Decimal

/-!
# Failures of the operating system

* `TaskDaemon.SystemFault`: why a call to the system failed: an error number, a kind of failure, or
  a message;
* `TaskDaemon.SystemFault.text`: its wording;
* `TaskDaemon.SystemFault.Kind`: the kinds of failure, and `TaskDaemon.SystemFault.kind`: the kind
  that an error number belongs to.
-/

namespace TaskDaemon

namespace SystemFault

/-- **The kinds of failure.** -/
inductive Kind where
  | addrInUse | addrNotAvailable | alreadyExists | argumentListTooLong | brokenPipe
  | connectionAborted | connectionRefused | connectionReset | crossesDevices | deadlock
  | directoryNotEmpty | executableFileBusy | fileTooLarge | filesystemLoop | hostUnreachable
  | interrupted | invalidData | invalidFilename | invalidInput | isADirectory | networkDown
  | networkUnreachable | notADirectory | notConnected | notFound | notSeekable | other
  | outOfMemory | permissionDenied | quotaExceeded | readOnlyFilesystem | resourceBusy
  | staleNetworkFileHandle | storageFull | timedOut | tooManyLinks | unexpectedEof | unsupported
  | wouldBlock | writeZero | uncategorized
  deriving DecidableEq, Repr

namespace Kind

/-- **The wording of a kind** where nothing else is known. -/
def text : Kind → String
  | addrInUse => "address in use"
  | addrNotAvailable => "address not available"
  | alreadyExists => "entity already exists"
  | argumentListTooLong => "argument list too long"
  | brokenPipe => "broken pipe"
  | connectionAborted => "connection aborted"
  | connectionRefused => "connection refused"
  | connectionReset => "connection reset"
  | crossesDevices => "cross-device link or rename"
  | deadlock => "deadlock"
  | directoryNotEmpty => "directory not empty"
  | executableFileBusy => "executable file busy"
  | fileTooLarge => "file too large"
  | filesystemLoop => "filesystem loop or indirection limit (e.g. symlink loop)"
  | hostUnreachable => "host unreachable"
  | interrupted => "operation interrupted"
  | invalidData => "invalid data"
  | invalidFilename => "invalid filename"
  | invalidInput => "invalid input parameter"
  | isADirectory => "is a directory"
  | networkDown => "network down"
  | networkUnreachable => "network unreachable"
  | notADirectory => "not a directory"
  | notConnected => "not connected"
  | notFound => "entity not found"
  | notSeekable => "seek on unseekable file"
  | other => "other error"
  | outOfMemory => "out of memory"
  | permissionDenied => "permission denied"
  | quotaExceeded => "quota exceeded"
  | readOnlyFilesystem => "read-only filesystem or storage medium"
  | resourceBusy => "resource busy"
  | staleNetworkFileHandle => "stale network file handle"
  | storageFull => "no storage space"
  | timedOut => "timed out"
  | tooManyLinks => "too many links"
  | unexpectedEof => "unexpected end of file"
  | unsupported => "unsupported"
  | wouldBlock => "operation would block"
  | writeZero => "write zero"
  | uncategorized => "uncategorized error"

/-- **The kind that an error number belongs to.** -/
def ofNumber : Nat → Kind
  | 1 | 13 => permissionDenied
  | 2 => notFound
  | 4 => interrupted
  | 7 => argumentListTooLong
  | 11 => wouldBlock
  | 12 => outOfMemory
  | 16 => resourceBusy
  | 17 => alreadyExists
  | 18 => crossesDevices
  | 20 => notADirectory
  | 21 => isADirectory
  | 22 => invalidInput
  | 26 => executableFileBusy
  | 27 => fileTooLarge
  | 28 => storageFull
  | 29 => notSeekable
  | 30 => readOnlyFilesystem
  | 31 => tooManyLinks
  | 32 => brokenPipe
  | 35 => deadlock
  | 36 => invalidFilename
  | 38 => unsupported
  | 39 => directoryNotEmpty
  | 40 => filesystemLoop
  | 98 => addrInUse
  | 99 => addrNotAvailable
  | 100 => networkDown
  | 101 => networkUnreachable
  | 103 => connectionAborted
  | 104 => connectionReset
  | 107 => notConnected
  | 110 => timedOut
  | 111 => connectionRefused
  | 113 => hostUnreachable
  | 116 => staleNetworkFileHandle
  | 122 => quotaExceeded
  | _ => uncategorized

end Kind

/-- **The wording of the error numbers**, from zero; the gaps are numbers without a meaning. -/
def numberTexts : List String :=
    ["Success", "Operation not permitted", "No such file or directory", "No such process",
    "Interrupted system call", "Input/output error", "No such device or address",
    "Argument list too long", "Exec format error", "Bad file descriptor", "No child processes",
    "Resource temporarily unavailable", "Cannot allocate memory", "Permission denied",
    "Bad address", "Block device required", "Device or resource busy", "File exists",
    "Invalid cross-device link", "No such device", "Not a directory", "Is a directory",
    "Invalid argument", "Too many open files in system", "Too many open files",
    "Inappropriate ioctl for device", "Text file busy", "File too large", "No space left on device",
    "Illegal seek", "Read-only file system", "Too many links", "Broken pipe",
    "Numerical argument out of domain", "Numerical result out of range",
    "Resource deadlock avoided", "File name too long", "No locks available",
    "Function not implemented", "Directory not empty", "Too many levels of symbolic links", "",
    "No message of desired type", "Identifier removed", "Channel number out of range",
    "Level 2 not synchronized", "Level 3 halted", "Level 3 reset", "Link number out of range",
    "Protocol driver not attached", "No CSI structure available", "Level 2 halted",
    "Invalid exchange", "Invalid request descriptor", "Exchange full", "No anode",
    "Invalid request code", "Invalid slot", "", "Bad font file format", "Device not a stream",
    "No data available", "Timer expired", "Out of streams resources",
    "Machine is not on the network", "Package not installed", "Object is remote",
    "Link has been severed", "Advertise error", "Srmount error", "Communication error on send",
    "Protocol error", "Multihop attempted", "RFS specific error", "Bad message",
    "Value too large for defined data type", "Name not unique on network",
    "File descriptor in bad state", "Remote address changed",
    "Can not access a needed shared library", "Accessing a corrupted shared library",
    ".lib section in a.out corrupted", "Attempting to link in too many shared libraries",
    "Cannot exec a shared library directly", "Invalid or incomplete multibyte or wide character",
    "Interrupted system call should be restarted", "Streams pipe error", "Too many users",
    "Socket operation on non-socket", "Destination address required", "Message too long",
    "Protocol wrong type for socket", "Protocol not available", "Protocol not supported",
    "Socket type not supported", "Operation not supported", "Protocol family not supported",
    "Address family not supported by protocol", "Address already in use",
    "Cannot assign requested address", "Network is down", "Network is unreachable",
    "Network dropped connection on reset", "Software caused connection abort",
    "Connection reset by peer", "No buffer space available",
    "Transport endpoint is already connected", "Transport endpoint is not connected",
    "Cannot send after transport endpoint shutdown", "Too many references: cannot splice",
    "Connection timed out", "Connection refused", "Host is down", "No route to host",
    "Operation already in progress", "Operation now in progress", "Stale file handle",
    "Structure needs cleaning", "Not a XENIX named type file", "No XENIX semaphores available",
    "Is a named type file", "Remote I/O error", "Disk quota exceeded", "No medium found",
    "Wrong medium type", "Operation canceled", "Required key not available", "Key has expired",
    "Key has been revoked", "Key was rejected by service", "Owner died", "State not recoverable",
    "Operation not possible due to RF-kill", "Memory page has hardware error"]

/-- **The wording of an error number.** -/
def numberText (number : Int) : String :=
  match if number < 0 then none else numberTexts[number.toNat]? with
  | none | some "" => "Unknown error " ++ Decimal.intText number
  | some text => text

end SystemFault

/-- **Why a call to the system failed.** -/
inductive SystemFault where
  /-- The system gave this error number. -/
  | number (n : Int)
  /-- Nothing but the kind is known. -/
  | general (kind : SystemFault.Kind)
  /-- A message tells. -/
  | told (kind : SystemFault.Kind) (message : String)
  deriving DecidableEq, Repr

namespace SystemFault

/-- **The wording of a failure.** -/
def text : SystemFault → String
  | .number n => numberText n ++ " (os error " ++ Decimal.intText n ++ ")"
  | .general kind => kind.text
  | .told _ message => message

/-- **The kind of a failure.** -/
def kind : SystemFault → Kind
  | .number n => if n < 0 then .uncategorized else Kind.ofNumber n.toNat
  | .general kind => kind
  | .told kind _ => kind

/-- No such file or directory. -/
def noEntry : SystemFault := .number 2

/-- Permission denied. -/
def denied : SystemFault := .number 13

/-- File exists. -/
def fileExists : SystemFault := .number 17

/-- Not a directory. -/
def notDirectory : SystemFault := .number 20

/-- Is a directory. -/
def isDirectory : SystemFault := .number 21

/-- No such device. -/
def noSuchDevice : SystemFault := .number 19

/-- Invalid argument. -/
def invalidArgument : SystemFault := .number 22

/-- File name too long. -/
def nameTooLong : SystemFault := .number 36

/-- Address already in use. -/
def inUse : SystemFault := .number 98

/-- Cannot assign requested address. -/
def notAvailable : SystemFault := .number 99

/-- Connection refused. -/
def refused : SystemFault := .number 111

end SystemFault

end TaskDaemon
