/-!
# Identities, transports and channels of sockets
-/

namespace FrameSocket

/-- The handle of a socket: given once, at creation, and never again. -/
structure SocketId where
  number : Nat
  deriving DecidableEq, Repr, Inhabited

namespace SocketId

/-- A handle as text. -/
def text (id : SocketId) : String := "#" ++ toString id.number

instance : LE SocketId := ⟨fun a b => a.number ≤ b.number⟩

instance : LT SocketId := ⟨fun a b => a.number < b.number⟩

instance (a b : SocketId) : Decidable (a ≤ b) :=
  inferInstanceAs (Decidable (a.number ≤ b.number))

instance (a b : SocketId) : Decidable (a < b) :=
  inferInstanceAs (Decidable (a.number < b.number))

/-- Handles in ascending order. -/
def sorted (ids : List SocketId) : List SocketId := ids.mergeSort (fun a b => a ≤ b)

end SocketId

/-- How a socket carries its bytes. -/
inductive Transport where
  | tcp
  | udp
  | unixStream
  | unixDatagram
  deriving DecidableEq, Repr

namespace Transport

/-- A transport's name. -/
def name : Transport → String
  | .tcp => "Tcp"
  | .udp => "Udp"
  | .unixStream => "UnixStream"
  | .unixDatagram => "UnixDatagram"

/-- Whether bytes come in order, without bounds between them. -/
def isStream : Transport → Bool
  | .tcp | .unixStream => true
  | .udp | .unixDatagram => false

/-- Whether bytes come in datagrams. -/
def isDatagram (t : Transport) : Bool := !t.isStream

/-- Whether sockets are named by paths. -/
def isUnix : Transport → Bool
  | .unixStream | .unixDatagram => true
  | .tcp | .udp => false

/-- Whether there is an urgent channel beside the regular one. -/
def hasUrgentChannel : Transport → Bool
  | .tcp => true
  | _ => false

end Transport

/-- The two channels of a socket. -/
inductive Channel where
  | regular
  /-- Out-of-band data. -/
  | urgent
  deriving DecidableEq, Repr

end FrameSocket
