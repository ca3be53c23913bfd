set_option autoImplicit false
set_option relaxedAutoImplicit false

/-!
# Failed system calls

A system call fails with a number of the system, or the request is refused before it reaches the
system: text that is not UTF-8, a NUL character in a path or in an argument, or a parameter that
makes no sense. The text of a number is the system's own.

## Main definitions

* `ResolverMesh.IoError` — why a system call failed.
* `ResolverMesh.IoError.message` — the text for it.
-/

namespace ResolverMesh

/-- Why a system call failed. -/
inductive IoError
  /-- The system gave this number. -/
  | os (code : Int)
  /-- A text was to be read, and the bytes are not UTF-8. -/
  | notText
  /-- A path holds a NUL character. -/
  | nulInPath
  /-- A program name or an argument holds a NUL character. -/
  | nulInArgument
  /-- The parameter does not make sense. -/
  | invalidParameter
  deriving DecidableEq, Repr

namespace IoError

/-- There is nothing at that path. -/
def notFound : IoError := .os 2

/-- An argument is too long to be handed to a program. -/
def argumentTooLong : IoError := .os 7

/-- The file is executable, but not a program. -/
def notAProgram : IoError := .os 8

/-- The file may not be executed. -/
def notPermitted : IoError := .os 13

/-- Something is there already. -/
def alreadyExists : IoError := .os 17

/-- The path goes on below something that is not a directory. -/
def notADirectory : IoError := .os 20

/-- A directory was to be read or written as a file. -/
def isADirectory : IoError := .os 21

/-- The argument is out of range. -/
def invalidArgument : IoError := .os 22

/-- The path, or a step of it, is longer than one can be. -/
def nameTooLong : IoError := .os 36

/-- The walk along the path met too many symbolic links. -/
def tooManyLinks : IoError := .os 40

/-- The system's texts for its error numbers, from one upwards. -/
def systemTexts : List String := [
  "Operation not permitted",
  "No such file or directory",
  "No such process",
  "Interrupted system call",
  "Input/output error",
  "No such device or address",
  "Argument list too long",
  "Exec format error",
  "Bad file descriptor",
  "No child processes",
  "Resource temporarily unavailable",
  "Cannot allocate memory",
  "Permission denied",
  "Bad address",
  "Block device required",
  "Device or resource busy",
  "File exists",
  "Invalid cross-device link",
  "No such device",
  "Not a directory",
  "Is a directory",
  "Invalid argument",
  "Too many open files in system",
  "Too many open files",
  "Inappropriate ioctl for device",
  "Text file busy",
  "File too large",
  "No space left on device",
  "Illegal seek",
  "Read-only file system",
  "Too many links",
  "Broken pipe",
  "Numerical argument out of domain",
  "Numerical result out of range",
  "Resource deadlock avoided",
  "File name too long",
  "No locks available",
  "Function not implemented",
  "Directory not empty",
  "Too many levels of symbolic links",
  "Unknown error 41",
  "No message of desired type",
  "Identifier removed",
  "Channel number out of range",
  "Level 2 not synchronized",
  "Level 3 halted",
  "Level 3 reset",
  "Link number out of range",
  "Protocol driver not attached",
  "No CSI structure available",
  "Level 2 halted",
  "Invalid exchange",
  "Invalid request descriptor",
  "Exchange full",
  "No anode",
  "Invalid request code",
  "Invalid slot",
  "Unknown error 58",
  "Bad font file format",
  "Device not a stream",
  "No data available",
  "Timer expired",
  "Out of streams resources",
  "Machine is not on the network",
  "Package not installed",
  "Object is remote",
  "Link has been severed",
  "Advertise error",
  "Srmount error",
  "Communication error on send",
  "Protocol error",
  "Multihop attempted",
  "RFS specific error",
  "Bad message",
  "Value too large for defined data type",
  "Name not unique on network",
  "File descriptor in bad state",
  "Remote address changed",
  "Can not access a needed shared library",
  "Accessing a corrupted shared library",
  ".lib section in a.out corrupted",
  "Attempting to link in too many shared libraries",
  "Cannot exec a shared library directly",
  "Invalid or incomplete multibyte or wide character",
  "Interrupted system call should be restarted",
  "Streams pipe error",
  "Too many users",
  "Socket operation on non-socket",
  "Destination address required",
  "Message too long",
  "Protocol wrong type for socket",
  "Protocol not available",
  "Protocol not supported",
  "Socket type not supported",
  "Operation not supported",
  "Protocol family not supported",
  "Address family not supported by protocol",
  "Address already in use",
  "Cannot assign requested address",
  "Network is down",
  "Network is unreachable",
  "Network dropped connection on reset",
  "Software caused connection abort",
  "Connection reset by peer",
  "No buffer space available",
  "Transport endpoint is already connected",
  "Transport endpoint is not connected",
  "Cannot send after transport endpoint shutdown",
  "Too many references: cannot splice",
  "Connection timed out",
  "Connection refused",
  "Host is down",
  "No route to host",
  "Operation already in progress",
  "Operation now in progress",
  "Stale file handle",
  "Structure needs cleaning",
  "Not a XENIX named type file",
  "No XENIX semaphores available",
  "Is a named type file",
  "Remote I/O error",
  "Disk quota exceeded",
  "No medium found",
  "Wrong medium type",
  "Operation canceled",
  "Required key not available",
  "Key has expired",
  "Key has been revoked",
  "Key was rejected by service",
  "Owner died",
  "State not recoverable",
  "Operation not possible due to RF-kill",
  "Memory page has hardware error"]

/-- The system's text for an error number. -/
def systemText (code : Int) : String :=
  if code = 0 then "Success"
  else
    match if code < 0 then none else systemTexts[code.toNat - 1]? with
    | some text => text
    | none => "Unknown error " ++ toString code

/-- The text for a failed system call. -/
def message : IoError → String
  | .os code => systemText code ++ " (os error " ++ toString code ++ ")"
  | .notText => "stream did not contain valid UTF-8"
  | .nulInPath => "file name contained an unexpected NUL byte"
  | .nulInArgument => "nul byte found in provided data"
  | .invalidParameter => "invalid input parameter"

end IoError

end ResolverMesh
