import FrameSocket.Server.Stream

/-!
# Servers of datagrams

A datagram server takes every datagram as if it were a connection: a read brings
a peer that shares the server's descriptor, delivers that datagram, and answers
its sender.

The sender is looked up before the datagram is taken.  One whose sender cannot be
told is dropped, except on Unix, where senders without a name are served.
-/

namespace FrameSocket

/-- A server of datagrams. -/
structure DatagramServer where
  socket : Socket
  /-- The socket's name at the time when the server was made. -/
  address : String
  /-- The most bytes of a datagram that are taken; the rest is dropped. -/
  bufferSize : Nat
  deriving DecidableEq, Repr

namespace DatagramServer

variable {κ : Type} [Kernel κ]

/-- A server for a socket.  That its name cannot be told is no failure. -/
def new (socket : Socket) (config : Config) (h : κ) : DatagramServer × κ :=
  let (address, h) := socket.localAddress h
  (⟨socket, address, max config.maxDatagramSize 1⟩, h)

/-- The failure of one of the calls that a read makes. -/
def failed (s : DatagramServer) (e : IoError) : NetworkError :=
  .acceptFailed s.address e.message (some e)

/-- Drops the datagram in front. -/
def reject (s : DatagramServer) (h : κ) : Accepting κ :=
  let (answer, h) := Kernel.recvFrom h s.socket.descriptor s.bufferSize
  let source := match answer with
    | .ok _ => none
    | .error e => some e
  (.error (.acceptFailed s.address "datagram origin is undeterminable" source), h)

/-- Takes the datagram in front, and makes a peer of it. -/
def take (s : DatagramServer) (h : κ) : Accepting κ :=
  match Kernel.recvFrom h s.socket.descriptor s.bufferSize with
  | (.error e, h) => (.error (s.failed e), h)
  | (.ok (payload, origin), h) =>
    match s.socket.peerFor h origin.determined? payload with
    | (.error e, h) => (.error (s.failed e), h)
    | (.ok peer, h) => (.ok (.accepted origin.text peer), h)

/-- Accepts the next datagram. -/
def accept (s : DatagramServer) (h : κ) : Accepting κ :=
  match _h : Kernel.peekFrom h s.socket.descriptor with
  | (.ok origin, next) =>
    if origin.determined?.isSome || s.socket.transport.isUnix then s.take next else s.reject next
  | (.error e, next) =>
    if e.isBlocked then (.ok (.unfinished .empty), next)
    else if _hi : e.isInterrupted then s.accept next
    else (.error (s.failed e), next)
termination_by Kernel.supply h s.socket.descriptor
decreasing_by
  have he := Kernel.supply_peekFrom_interrupted h s.socket.descriptor e
  rw [_h] at he
  exact he rfl _hi

/-- Accepts the next datagram.  Datagram sockets have no urgent channel. -/
def read (s : DatagramServer) (h : κ) (ch : Channel) : Accepting κ :=
  match ch with
  | .urgent => (.error (.unsupported "out-of-band data on a datagram socket"), h)
  | .regular => s.accept h

/-- The failure of every write to a datagram server. -/
def noWrites : NetworkError := .unsupported "write through the accepted peer socket instead"

end DatagramServer

end FrameSocket
