import FrameSocket.Client
import FrameSocket.Server.Datagram

/-!
# Machines

What a caller keeps for each of its sockets: the bare socket, a server over it,
or a client over it.  All kinds are read, written and closed alike.
-/

namespace FrameSocket

/-- What a socket is wrapped in. -/
inductive MachineKind where
  | streamServer
  | datagramServer
  | client (kind : ClientKind)
  deriving DecidableEq, Repr

/-- A socket, and what it is wrapped in. -/
inductive Machine where
  | bare (socket : Socket)
  | streamServer (server : StreamServer)
  | datagramServer (server : DatagramServer)
  | client (kind : ClientKind) (client : Client Socket)

namespace Incoming

/-- The same, with another kind of socket. -/
def map {σ τ : Type} (f : σ → τ) : Incoming σ → Incoming τ
  | .complete frame => .complete frame
  | .unfinished frame => .unfinished frame
  | .accepted remote socket => .accepted remote (f socket)

end Incoming

namespace Client

variable {κ : Type}

/-- A client on its operating system. -/
def attach (c : Client Socket) (h : κ) : Client (Attached κ) := c.mapSocket (⟨·, h⟩)

/-- A client without its operating system, and that system. -/
def detach (c : Client (Attached κ)) : Client Socket × κ :=
  (c.mapSocket Attached.socket, c.socket.host)

end Client

namespace Machine

variable {κ φ : Type} [Kernel κ] [Framer φ]

/-- The socket that a machine owns. -/
def socket : Machine → Socket
  | .bare socket => socket
  | .streamServer server => server.socket
  | .datagramServer server => server.socket
  | .client _ c => c.socket

/-- A machine over a socket. -/
def wrap (kind : MachineKind) (socket : Socket) (config : Config) (h : κ) : Machine × κ :=
  match kind with
  | .streamServer => (StreamServer.new socket h).map .streamServer id
  | .datagramServer => (DatagramServer.new socket config h).map .datagramServer id
  | .client kind =>
    let c := Client.make kind (⟨socket, h⟩ : Attached κ) config (Kernel.now h)
    (.client kind c.detach.1, c.detach.2)

/-- The bare socket of a client. -/
def unwrap? : Machine → Option Machine
  | .client _ c => some (.bare c.socket)
  | _ => none

/-- What an operation on a machine answers, the machine and the operating system
afterwards. -/
abbrev Answer (α : Type) (κ : Type := Host) := Except NetworkError α × Machine × κ

/-- What an operation of a client comes to for its machine. -/
def ofClient {α β : Type} (kind : ClientKind) (r : Client.Answer (Attached κ) α)
    (f : α → β) : Answer β κ :=
  (r.1.map f, .client kind r.2.detach.1, r.2.detach.2)

/-- Reads the next frame with the given framer, or accepts.  A bare socket has
no reads.  The clock stands still unless its readings are named. -/
def read? (m : Machine) (h : κ) (f : φ) (ch : Channel) (now : Clock := .still (Kernel.now h)) :
    Option (Answer (Incoming Socket) κ × φ) :=
  match m with
  | .bare _ => none
  | .streamServer s => let (answer, h) := s.read h ch; some ((answer, m, h), f)
  | .datagramServer s => let (answer, h) := s.read h ch; some ((answer, m, h), f)
  | .client kind c =>
    let (r, f) := (c.attach h).read kind now f ch
    some (ofClient kind r (·.map Attached.socket), f)

/-- Writes a beginning of the data, and answers how long it is.  A bare socket
has no writes. -/
def write? (m : Machine) (h : κ) (data : Bytes) (ch : Channel)
    (now : Clock := .still (Kernel.now h)) : Option (Answer Nat κ) :=
  match m with
  | .bare _ => none
  | .streamServer _ => some (.error StreamServer.noWrites, m, h)
  | .datagramServer _ => some (.error DatagramServer.noWrites, m, h)
  | .client kind c => some (ofClient kind ((c.attach h).write kind now data ch) id)

/-- Ends both directions of a client's stream. -/
def close (m : Machine) (h : κ) : Kernel.Reply κ Unit := m.socket.close h

/-- Gives the socket's descriptor back. -/
def drop (m : Machine) (h : κ) : κ := Kernel.close h m.socket.descriptor

end Machine

end FrameSocket
