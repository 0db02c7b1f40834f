/-!
# Errors of single socket calls

A call fails with a number from the operating system (`Errno`), with a bare
kind (`ErrorKind`), or with a kind and a text of its own.  `IoError.kind` sorts
the three alike, so callers decide by kind and show `IoError.message`.
-/

namespace FrameSocket

/-- What sort of failure a call met. -/
inductive ErrorKind where
  | notFound
  | permissionDenied
  | connectionRefused
  | connectionReset
  | hostUnreachable
  | networkUnreachable
  | connectionAborted
  | notConnected
  | addrInUse
  | addrNotAvailable
  | networkDown
  | brokenPipe
  | alreadyExists
  | wouldBlock
  | invalidInput
  | invalidData
  | timedOut
  | writeZero
  | interrupted
  | unsupported
  | unexpectedEof
  | outOfMemory
  | other
  | inProgress
  | inputOutput
  | uncategorized
  deriving DecidableEq, Repr

/-- The text of an error of which only the kind is known. -/
def ErrorKind.description : ErrorKind → String
  | .notFound => "entity not found"
  | .permissionDenied => "permission denied"
  | .connectionRefused => "connection refused"
  | .connectionReset => "connection reset"
  | .hostUnreachable => "host unreachable"
  | .networkUnreachable => "network unreachable"
  | .connectionAborted => "connection aborted"
  | .notConnected => "not connected"
  | .addrInUse => "address in use"
  | .addrNotAvailable => "address not available"
  | .networkDown => "network down"
  | .brokenPipe => "broken pipe"
  | .alreadyExists => "entity already exists"
  | .wouldBlock => "operation would block"
  | .invalidInput => "invalid input parameter"
  | .invalidData => "invalid data"
  | .timedOut => "timed out"
  | .writeZero => "write zero"
  | .interrupted => "operation interrupted"
  | .unsupported => "unsupported"
  | .unexpectedEof => "unexpected end of file"
  | .outOfMemory => "out of memory"
  | .other => "other error"
  | .inProgress => "in progress"
  | .inputOutput => "input/output error"
  | .uncategorized => "uncategorized error"

/-- The kinds that mean that the other side is gone, and not that a call failed. -/
def ErrorKind.isConnectionGone : ErrorKind → Bool
  | .connectionReset | .connectionAborted | .brokenPipe | .notConnected => true
  | _ => false

/-- The error numbers of the operating system that socket calls answer with. -/
inductive Errno where
  | eperm
  | enoent
  | eintr
  | eio
  | ebadf
  | eagain
  | enomem
  | eacces
  | eexist
  | einval
  | emfile
  | epipe
  | edestaddrreq
  | emsgsize
  | eprototype
  | eopnotsupp
  | eaddrinuse
  | eaddrnotavail
  | enetunreach
  | econnaborted
  | econnreset
  | enobufs
  | enotconn
  | etimedout
  | econnrefused
  | ehostunreach
  | einprogress
  deriving DecidableEq, Repr

namespace Errno

/-- Every error number, in ascending order. -/
def all : List Errno :=
  [.eperm, .enoent, .eintr, .eio, .ebadf, .eagain, .enomem, .eacces, .eexist, .einval,
   .emfile, .epipe, .edestaddrreq, .emsgsize, .eprototype, .eopnotsupp, .eaddrinuse,
   .eaddrnotavail, .enetunreach, .econnaborted, .econnreset, .enobufs, .enotconn,
   .etimedout, .econnrefused, .ehostunreach, .einprogress]

/-- The number itself. -/
def number : Errno → Nat
  | .eperm => 1
  | .enoent => 2
  | .eintr => 4
  | .eio => 5
  | .ebadf => 9
  | .eagain => 11
  | .enomem => 12
  | .eacces => 13
  | .eexist => 17
  | .einval => 22
  | .emfile => 24
  | .epipe => 32
  | .edestaddrreq => 89
  | .emsgsize => 90
  | .eprototype => 91
  | .eopnotsupp => 95
  | .eaddrinuse => 98
  | .eaddrnotavail => 99
  | .enetunreach => 101
  | .econnaborted => 103
  | .econnreset => 104
  | .enobufs => 105
  | .enotconn => 107
  | .etimedout => 110
  | .econnrefused => 111
  | .ehostunreach => 113
  | .einprogress => 115

/-- The number's symbol. -/
def symbol : Errno → String
  | .eperm => "EPERM"
  | .enoent => "ENOENT"
  | .eintr => "EINTR"
  | .eio => "EIO"
  | .ebadf => "EBADF"
  | .eagain => "EAGAIN"
  | .enomem => "ENOMEM"
  | .eacces => "EACCES"
  | .eexist => "EEXIST"
  | .einval => "EINVAL"
  | .emfile => "EMFILE"
  | .epipe => "EPIPE"
  | .edestaddrreq => "EDESTADDRREQ"
  | .emsgsize => "EMSGSIZE"
  | .eprototype => "EPROTOTYPE"
  | .eopnotsupp => "EOPNOTSUPP"
  | .eaddrinuse => "EADDRINUSE"
  | .eaddrnotavail => "EADDRNOTAVAIL"
  | .enetunreach => "ENETUNREACH"
  | .econnaborted => "ECONNABORTED"
  | .econnreset => "ECONNRESET"
  | .enobufs => "ENOBUFS"
  | .enotconn => "ENOTCONN"
  | .etimedout => "ETIMEDOUT"
  | .econnrefused => "ECONNREFUSED"
  | .ehostunreach => "EHOSTUNREACH"
  | .einprogress => "EINPROGRESS"

/-- The operating system's text for the number. -/
def description : Errno → String
  | .eperm => "Operation not permitted"
  | .enoent => "No such file or directory"
  | .eintr => "Interrupted system call"
  | .eio => "Input/output error"
  | .ebadf => "Bad file descriptor"
  | .eagain => "Resource temporarily unavailable"
  | .enomem => "Cannot allocate memory"
  | .eacces => "Permission denied"
  | .eexist => "File exists"
  | .einval => "Invalid argument"
  | .emfile => "Too many open files"
  | .epipe => "Broken pipe"
  | .edestaddrreq => "Destination address required"
  | .emsgsize => "Message too long"
  | .eprototype => "Protocol wrong type for socket"
  | .eopnotsupp => "Operation not supported"
  | .eaddrinuse => "Address already in use"
  | .eaddrnotavail => "Cannot assign requested address"
  | .enetunreach => "Network is unreachable"
  | .econnaborted => "Software caused connection abort"
  | .econnreset => "Connection reset by peer"
  | .enobufs => "No buffer space available"
  | .enotconn => "Transport endpoint is not connected"
  | .etimedout => "Connection timed out"
  | .econnrefused => "Connection refused"
  | .ehostunreach => "No route to host"
  | .einprogress => "Operation now in progress"

/-- The kind that callers sort the number under. -/
def kind : Errno → ErrorKind
  | .eperm | .eacces => .permissionDenied
  | .enoent => .notFound
  | .eintr => .interrupted
  | .eio => .inputOutput
  | .eagain => .wouldBlock
  | .enomem => .outOfMemory
  | .eexist => .alreadyExists
  | .einval => .invalidInput
  | .epipe => .brokenPipe
  | .eopnotsupp => .unsupported
  | .eaddrinuse => .addrInUse
  | .eaddrnotavail => .addrNotAvailable
  | .enetunreach => .networkUnreachable
  | .econnaborted => .connectionAborted
  | .econnreset => .connectionReset
  | .enotconn => .notConnected
  | .etimedout => .timedOut
  | .econnrefused => .connectionRefused
  | .ehostunreach => .hostUnreachable
  | .einprogress => .inProgress
  | .ebadf | .emfile | .edestaddrreq | .emsgsize | .eprototype | .enobufs => .uncategorized

/-- The error with a given number. -/
def ofNumber? (n : Nat) : Option Errno :=
  all.find? (·.number = n)

/-- The error with a given symbol. -/
def ofSymbol? (s : String) : Option Errno :=
  all.find? (·.symbol = s)

end Errno

/-- Why a single socket call failed. -/
inductive IoError where
  /-- The operating system said so. -/
  | os (errno : Errno)
  /-- Nothing but the kind is known. -/
  | bare (kind : ErrorKind)
  /-- A kind with a text of its own. -/
  | described (kind : ErrorKind) (text : String)
  deriving DecidableEq, Repr

namespace IoError

/-- What sort of failure it was. -/
def kind : IoError → ErrorKind
  | .os errno => errno.kind
  | .bare kind => kind
  | .described kind _ => kind

/-- What is shown of it. -/
def message : IoError → String
  | .os errno => errno.description ++ " (os error " ++ toString errno.number ++ ")"
  | .bare kind => kind.description
  | .described _ text => text

/-- Whether the call would have had to wait. -/
def isBlocked (e : IoError) : Bool := e.kind = .wouldBlock

/-- Whether a signal cut the call short, before it did anything. -/
def isInterrupted (e : IoError) : Bool := e.kind = .interrupted

/-- A call that a signal cut short would not have had to wait. -/
theorem isBlocked_of_isInterrupted {e : IoError} (h : e.isInterrupted = true) :
    e.isBlocked = false := by
  have hkind : e.kind = .interrupted := of_decide_eq_true h
  simp only [isBlocked, hkind]
  decide

/-- Nor does it say that the other side is gone. -/
theorem isConnectionGone_of_isInterrupted {e : IoError} (h : e.isInterrupted = true) :
    e.kind.isConnectionGone = false := by
  have hkind : e.kind = .interrupted := of_decide_eq_true h
  rw [hkind]
  rfl

end IoError

end FrameSocket
