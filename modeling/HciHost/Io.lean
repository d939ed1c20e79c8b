/-!
# Input and output errors

A failed read, write, bind or close on a link carries an `IoError`: either an error number
reported by the operating system, or an error the library built itself with a kind and a
message (a write after close is `notConnected` "closed").

* `Errno` lists the error numbers the library meets, with their Linux numbers and
  descriptions; an operating-system error reads `Permission denied (os error 13)`.
* `IoKind` is the coarse class of an error, derived from the number for system errors.
-/

namespace HciHost

/-- The coarse class of an input/output error. -/
inductive IoKind where
  | notFound
  | permissionDenied
  | connectionReset
  | connectionAborted
  | notConnected
  | addrInUse
  | brokenPipe
  | wouldBlock
  | invalidInput
  | timedOut
  | interrupted
  | unexpectedEof
  | resourceBusy
  | other
  | uncategorized
  deriving DecidableEq

namespace IoKind

/-- The name of a kind in answers, `BrokenPipe`. -/
def name : IoKind → String
  | .notFound => "NotFound"
  | .permissionDenied => "PermissionDenied"
  | .connectionReset => "ConnectionReset"
  | .connectionAborted => "ConnectionAborted"
  | .notConnected => "NotConnected"
  | .addrInUse => "AddrInUse"
  | .brokenPipe => "BrokenPipe"
  | .wouldBlock => "WouldBlock"
  | .invalidInput => "InvalidInput"
  | .timedOut => "TimedOut"
  | .interrupted => "Interrupted"
  | .unexpectedEof => "UnexpectedEof"
  | .resourceBusy => "ResourceBusy"
  | .other => "Other"
  | .uncategorized => "Uncategorized"

/-- The kinds, for reading a kind by its name. -/
def all : List IoKind :=
  [.notFound, .permissionDenied, .connectionReset, .connectionAborted, .notConnected,
    .addrInUse, .brokenPipe, .wouldBlock, .invalidInput, .timedOut, .interrupted,
    .unexpectedEof, .resourceBusy, .other, .uncategorized]

/-- The kind with a given name. -/
def ofName? (s : String) : Option IoKind :=
  all.find? (·.name == s)

end IoKind

/-- The operating-system error numbers that the library meets. -/
inductive Errno where
  | eperm
  | eacces
  | ebusy
  | enodev
  | einval
  | emfile
  | epipe
  | enoprotoopt
  | eprotonosupport
  | eopnotsupp
  | eafnosupport
  | eaddrinuse
  | econnreset
  | enobufs
  | ealready
  | erfkill
  deriving DecidableEq

namespace Errno

/-- The Linux number of an error. -/
def number : Errno → Nat
  | .eperm => 1
  | .eacces => 13
  | .ebusy => 16
  | .enodev => 19
  | .einval => 22
  | .emfile => 24
  | .epipe => 32
  | .enoprotoopt => 92
  | .eprotonosupport => 93
  | .eopnotsupp => 95
  | .eafnosupport => 97
  | .eaddrinuse => 98
  | .econnreset => 104
  | .enobufs => 105
  | .ealready => 114
  | .erfkill => 132

/-- The symbolic name of an error, `EPERM`. -/
def symbol : Errno → String
  | .eperm => "EPERM"
  | .eacces => "EACCES"
  | .ebusy => "EBUSY"
  | .enodev => "ENODEV"
  | .einval => "EINVAL"
  | .emfile => "EMFILE"
  | .epipe => "EPIPE"
  | .enoprotoopt => "ENOPROTOOPT"
  | .eprotonosupport => "EPROTONOSUPPORT"
  | .eopnotsupp => "EOPNOTSUPP"
  | .eafnosupport => "EAFNOSUPPORT"
  | .eaddrinuse => "EADDRINUSE"
  | .econnreset => "ECONNRESET"
  | .enobufs => "ENOBUFS"
  | .ealready => "EALREADY"
  | .erfkill => "ERFKILL"

/-- The system's description of an error. -/
def description : Errno → String
  | .eperm => "Operation not permitted"
  | .eacces => "Permission denied"
  | .ebusy => "Device or resource busy"
  | .enodev => "No such device"
  | .einval => "Invalid argument"
  | .emfile => "Too many open files"
  | .epipe => "Broken pipe"
  | .enoprotoopt => "Protocol not available"
  | .eprotonosupport => "Protocol not supported"
  | .eopnotsupp => "Operation not supported"
  | .eafnosupport => "Address family not supported by protocol"
  | .eaddrinuse => "Address already in use"
  | .econnreset => "Connection reset by peer"
  | .enobufs => "No buffer space available"
  | .ealready => "Operation already in progress"
  | .erfkill => "Operation not possible due to RF-kill"

/-- The coarse class of a system error. -/
def kind : Errno → IoKind
  | .eperm | .eacces => .permissionDenied
  | .ebusy => .resourceBusy
  | .einval => .invalidInput
  | .epipe => .brokenPipe
  | .eaddrinuse => .addrInUse
  | .econnreset => .connectionReset
  | _ => .uncategorized

/-- The errors, for reading one by its symbolic name. -/
def all : List Errno :=
  [.eperm, .eacces, .ebusy, .enodev, .einval, .emfile, .epipe, .enoprotoopt,
    .eprotonosupport, .eopnotsupp, .eafnosupport, .eaddrinuse, .econnreset, .enobufs,
    .ealready, .erfkill]

/-- The error with a given symbolic name. -/
def ofSymbol? (s : String) : Option Errno :=
  all.find? (·.symbol == s)

end Errno

/-- An input/output error: from the operating system, or built by the library. -/
inductive IoError where
  /-- An error number the system reported. -/
  | os (e : Errno)
  /-- An error the library built, of a kind and with a message. -/
  | custom (kind : IoKind) (message : String)
  deriving DecidableEq

namespace IoError

/-- The coarse class of an error. -/
def kind : IoError → IoKind
  | .os e => e.kind
  | .custom k _ => k

/-- The text of an error: the system's description and number, or the library's message. -/
def message : IoError → String
  | .os e => e.description ++ " (os error " ++ toString e.number ++ ")"
  | .custom _ m => m

end IoError

end HciHost
