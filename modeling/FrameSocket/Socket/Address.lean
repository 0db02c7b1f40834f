import FrameSocket.Bytes
import FrameSocket.IoError

/-!
# Addresses of sockets

The names that an operating system gives its sockets: an internet address with
a port, a path in the file system, or none at all.
-/

namespace FrameSocket

/-- An internet address of version 4 or 6, as it is written. -/
inductive Ip where
  | v4 (digits : String)
  | v6 (digits : String)
  deriving DecidableEq, Repr

namespace Ip

/-- An address as it is written in front of a port. -/
def text : Ip → String
  | .v4 digits => digits
  | .v6 digits => "[" ++ digits ++ "]"

/-- Any address, before one is chosen. -/
def unspecified : Ip := .v4 "0.0.0.0"

/-- The host itself. -/
def loopback : Ip := .v4 "127.0.0.1"

/-- Any address of the same version. -/
def anyLike : Ip → Ip
  | .v4 _ => unspecified
  | .v6 _ => .v6 "::"

end Ip

/-- The name of a socket. -/
inductive Address where
  | inet (ip : Ip) (port : Nat)
  | path (name : String)
  | unnamed
  deriving DecidableEq, Repr

namespace Address

/-- How the lack of a name is shown. -/
def unnamedText : String := "(unnamed)"

/-- An address as text; a socket without a name has none. -/
def text? : Address → Option String
  | .inet ip port => some (ip.text ++ ":" ++ toString port)
  | .path name => some name
  | .unnamed => none

/-- An address as it is shown. -/
def text (a : Address) : String := a.text?.getD unnamedText

/-- The address, if it says anything about where it belongs. -/
def determined? (a : Address) : Option Address := if a.text?.isSome then some a else none

/-- The name that a socket is bound to before it is connected to an address of the
internet: any port of any address. -/
def ephemeral : Address → Address
  | .inet ip _ => .inet ip.anyLike 0
  | _ => .inet .unspecified 0

/-- The bytes that an operating system keeps for a path and the zero after it. -/
def pathCapacity : Nat := 108

/-- The address of a path.  The empty path names nothing. -/
def ofPath? (name : String) : Except IoError Address :=
  if pathCapacity ≤ name.utf8ByteSize then
    .error (.described .invalidInput "path must be shorter than SUN_LEN")
  else if name.isEmpty then .ok .unnamed
  else .ok (.path name)

/-- `determined?` is the address itself, and none exactly for a socket without a
name. -/
theorem determined?_eq_some_iff {a b : Address} :
    a.determined? = some b ↔ a = b ∧ a ≠ .unnamed := by
  cases a <;> simp [determined?, text?]

end Address

/-- A datagram on its way, and the name of the socket that has sent it. -/
structure Datagram where
  data : Bytes
  origin : Address
  deriving DecidableEq, Repr

end FrameSocket
