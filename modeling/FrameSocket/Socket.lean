import FrameSocket.Socket.Kernel

/-!
# Sockets

A socket is a handle, a descriptor and a role.  A *peer* is what a datagram
server hands out for each datagram: it shares the server's descriptor, remembers
who sent the datagram, and delivers it once.

This module makes and closes sockets of any `Kernel`, and asks for their names;
`Attached` has the calls that move bytes.
-/

namespace FrameSocket

/-- What a socket is there for. -/
inductive Role where
  | client
  /-- Accepts connections or datagrams. -/
  | listener
  /-- Answers the sender of one datagram.  `pending` is that datagram's payload
  until it is read, `origin` the sender, where it is known. -/
  | peer (origin : Option Address) (pending : Option Bytes)
  deriving DecidableEq, Repr

/-- A socket of an operating system. -/
structure Socket where
  id : SocketId
  descriptor : Nat
  transport : Transport
  role : Role
  deriving DecidableEq, Repr

namespace Socket

/-- Whether a server is made of the socket. -/
def isListening (s : Socket) : Bool := s.role = .listener

/-- Whether the socket was accepted by a datagram server. -/
def isPeer (s : Socket) : Bool :=
  match s.role with
  | .peer .. => true
  | _ => false

/-- Whether a peer's datagram has not been read yet. -/
def hasPending (s : Socket) : Bool :=
  match s.role with
  | .peer _ pending => pending.isSome
  | _ => false

/-! ## Making sockets -/

variable {κ : Type} [Kernel κ]

/-- Makes a descriptor a socket, which gets the next handle. -/
def adopt (h : κ) (descriptor : Nat) (transport : Transport) (role : Role) : Socket × κ :=
  (⟨⟨Kernel.nextId h⟩, descriptor, transport, role⟩, Kernel.setNextId h (Kernel.nextId h + 1))

/-- Makes a socket of a new descriptor, which calls prepare for its role.  If
something goes wrong on the way, the descriptor is closed. -/
def make (h : κ) (transport : Transport) (role : Role)
    (prepare : κ → Nat → Kernel.Reply κ Unit) : Kernel.Reply κ Socket :=
  match Kernel.create h transport with
  | (.error e, h) => (.error e, h)
  | (.ok d, h) =>
    match prepare h d with
    | (.ok (), h) => let (s, h) := adopt h d transport role; (.ok s, h)
    | (.error e, h) => (.error e, Kernel.close h d)

/-- Two calls, the second of which is made if the first one works. -/
def andThen (r : Kernel.Reply κ Unit) (next : κ → Kernel.Reply κ Unit) : Kernel.Reply κ Unit :=
  match r with
  | (.ok (), h) => next h
  | (.error e, h) => (.error e, h)

/-- A call with the address of a path, which is not made if there is none. -/
def atPath (h : κ) (path : String) (call : Address → Kernel.Reply κ Unit) : Kernel.Reply κ Unit :=
  match Address.ofPath? path with
  | .ok name => call name
  | .error e => (.error e, h)

/-- Starts to connect.  A connection that takes its time is no failure. -/
def startConnect (h : κ) (d : Nat) (target : Address) : Kernel.Reply κ Unit :=
  match Kernel.connect h d target with
  | (.error e, h) =>
    if e = .os .einprogress || e.isBlocked then (.ok (), h) else (.error e, h)
  | r => r

/-- A stream socket that is connected, or being connected, over the internet. -/
def tcpConnect (h : κ) (target : Address) : Kernel.Reply κ Socket :=
  make h .tcp .client fun h d => startConnect h d target

/-- A listener for connections over the internet. -/
def tcpListen (h : κ) (name : Address) : Kernel.Reply κ Socket :=
  make h .tcp .listener fun h d => andThen (Kernel.bind h d name) (Kernel.listen · d)

/-- A socket that receives datagrams over the internet. -/
def udpBind (h : κ) (name : Address) : Kernel.Reply κ Socket :=
  make h .udp .listener fun h d => Kernel.bind h d name

/-- A socket that exchanges datagrams with one target. -/
def udpConnect (h : κ) (target : Address) : Kernel.Reply κ Socket :=
  make h .udp .client fun h d =>
    andThen (Kernel.bind h d target.ephemeral) (Kernel.connect · d target)

/-- A stream socket that is connected to the listener at a path. -/
def unixConnect (h : κ) (path : String) : Kernel.Reply κ Socket :=
  make h .unixStream .client fun h d => atPath h path (startConnect h d)

/-- A listener for connections at a path. -/
def unixListen (h : κ) (path : String) : Kernel.Reply κ Socket :=
  make h .unixStream .listener fun h d =>
    andThen (atPath h path (Kernel.bind h d)) (Kernel.listen · d)

/-- A socket that receives datagrams at a path. -/
def unixDatagramBind (h : κ) (path : String) : Kernel.Reply κ Socket :=
  make h .unixDatagram .listener fun h d => atPath h path (Kernel.bind h d)

/-- A datagram socket that is connected to the one at a path, and bound to
another path if there is one. -/
def unixDatagramConnect (h : κ) (path : String) (localPath : Option String) :
    Kernel.Reply κ Socket :=
  make h .unixDatagram .client fun h d =>
    let bound := match localPath with
      | none => (.ok (), h)
      | some p => atPath h p (Kernel.bind h d)
    andThen bound fun h => atPath h path (Kernel.connect h d)

/-! ## Asking and closing -/

/-- The name of a socket, as text. -/
def localAddress (s : Socket) (h : κ) : String × κ :=
  match Kernel.localName h s.descriptor with
  | (.ok name, h) => (name.text, h)
  | (.error _, h) => (Address.unnamedText, h)

/-- The internet address of a socket, as text. -/
def inetAddress (s : Socket) (h : κ) : Kernel.Reply κ String :=
  match Kernel.localName h s.descriptor with
  | (.ok (.inet ip port), h) => (.ok (Address.inet ip port).text, h)
  | (.ok _, h) => (.error (.described .unsupported "not an inet socket"), h)
  | (.error e, h) => (.error e, h)

/-- Ends both directions of a client's stream.  Other sockets have nothing to
end. -/
def close (s : Socket) (h : κ) : Kernel.Reply κ Unit :=
  if s.role = .client ∧ s.transport.isStream = true then
    match Kernel.shutdown h s.descriptor with
    | (.error e, h) => if e.kind = .notConnected then (.ok (), h) else (.error e, h)
    | r => r
  else (.ok (), h)

/-- Accepts a connection, and answers the new socket and the name of the other
end. -/
def accept (s : Socket) (h : κ) : Kernel.Reply κ (Socket × String) :=
  match Kernel.accept h s.descriptor with
  | (.ok (d, remote), h) =>
    let (socket, h) := adopt h d s.transport .client
    (.ok (socket, remote.text), h)
  | (.error e, h) => (.error e, h)

/-- A peer for a datagram that was received from `origin`. -/
def peerFor (s : Socket) (h : κ) (origin : Option Address) (payload : Bytes) :
    Kernel.Reply κ Socket :=
  match Kernel.duplicate h s.descriptor with
  | (.ok d, h) =>
    let (socket, h) := adopt h d s.transport (.peer origin (some payload))
    (.ok socket, h)
  | (.error e, h) => (.error e, h)

end Socket

end FrameSocket
