import FrameSocket.Bytes
import FrameSocket.Duration
import FrameSocket.Socket.Address
import FrameSocket.Socket.Basic

/-!
# What sockets need of an operating system

The calls that sockets are built on, as a class over the state of the operating
system.  A socket is reached through a descriptor, and several descriptors may
lead to the same one.  Every call answers at once and leaves a new state.

Nothing is asked of the answers but what keeps the loops of the servers and
clients from running for ever: bounds on the length of what is received and
sent, and two measures, as `Endpoint` has them.

* `supply` goes down whenever a receiving call through a descriptor brings bytes
  or is interrupted, and no receiving call or peek raises it;
* `patience` goes down whenever a call that sends or accepts is interrupted.
-/

namespace FrameSocket

/-- What a call answers, and the operating system afterwards. -/
abbrev Kernel.Reply (κ α : Type) := Except IoError α × κ

/-- The calls of an operating system with state `κ`. -/
class Kernel (κ : Type) where
  /-- What the clock says. -/
  now : κ → Duration
  /-- The number of the next socket's handle, which the process counts that all
  the sockets belong to. -/
  nextId : κ → Nat
  setNextId : κ → Nat → κ
  /-- The descriptor of a new socket.  Like any other new descriptor, it does not
  block. -/
  create : κ → Transport → Kernel.Reply κ Nat
  bind : κ → Nat → Address → Kernel.Reply κ Unit
  connect : κ → Nat → Address → Kernel.Reply κ Unit
  listen : κ → Nat → Kernel.Reply κ Unit
  /-- A descriptor for the next connection of a listener, and the name of its
  other end. -/
  accept : κ → Nat → Kernel.Reply κ (Nat × Address)
  /-- A second descriptor for the same socket. -/
  duplicate : κ → Nat → Kernel.Reply κ Nat
  /-- Ends both directions of a stream. -/
  shutdown : κ → Nat → Kernel.Reply κ Unit
  /-- Gives a descriptor back. -/
  close : κ → Nat → κ
  localName : κ → Nat → Kernel.Reply κ Address
  peerName : κ → Nat → Kernel.Reply κ Address
  /-- Takes the error that is pending on a socket, if there is one. -/
  takeError : κ → Nat → Kernel.Reply κ (Option IoError)
  /-- Receives at most the given number of bytes. -/
  recv : κ → Nat → Channel → Nat → Kernel.Reply κ Bytes
  /-- Receives one datagram, cut to the given size, and its sender. -/
  recvFrom : κ → Nat → Nat → Kernel.Reply κ (Bytes × Address)
  /-- How many bytes, at most one, a receiving call would find. -/
  peek : κ → Nat → Channel → Kernel.Reply κ Nat
  /-- Who sent the datagram that a receiving call would find. -/
  peekFrom : κ → Nat → Kernel.Reply κ Address
  /-- Sends a beginning of the data, and answers how long it is. -/
  send : κ → Nat → Channel → Bytes → Kernel.Reply κ Nat
  /-- Sends a datagram to an address. -/
  sendTo : κ → Nat → Address → Bytes → Kernel.Reply κ Nat
  /-- How often receiving through a descriptor can still bring bytes or be
  interrupted. -/
  supply : κ → Nat → Nat
  /-- How often sending and accepting can still be interrupted. -/
  patience : κ → Nat
  length_recv : ∀ h d ch n data, (recv h d ch n).1 = .ok data → data.length ≤ n
  supply_recv_le : ∀ h d ch n, supply (recv h d ch n).2 d ≤ supply h d
  supply_recv_data : ∀ h d ch n data, (recv h d ch n).1 = .ok data → data ≠ [] →
    supply (recv h d ch n).2 d < supply h d
  supply_recv_interrupted : ∀ h d ch n e, (recv h d ch n).1 = .error e →
    e.isInterrupted = true → supply (recv h d ch n).2 d < supply h d
  length_recvFrom : ∀ h d n got, (recvFrom h d n).1 = .ok got → got.1.length ≤ n
  supply_recvFrom_interrupted : ∀ h d n e, (recvFrom h d n).1 = .error e →
    e.isInterrupted = true → supply (recvFrom h d n).2 d < supply h d
  supply_peek_le : ∀ h d ch, supply (peek h d ch).2 d ≤ supply h d
  supply_peekFrom_interrupted : ∀ h d e, (peekFrom h d).1 = .error e →
    e.isInterrupted = true → supply (peekFrom h d).2 d < supply h d
  send_le_length : ∀ h d ch data n, (send h d ch data).1 = .ok n → n ≤ data.length
  sendTo_le_length : ∀ h d target data n, (sendTo h d target data).1 = .ok n →
    n ≤ data.length
  patience_send_interrupted : ∀ h d ch data e, (send h d ch data).1 = .error e →
    e.isInterrupted = true → patience (send h d ch data).2 < patience h
  patience_sendTo_interrupted : ∀ h d target data e, (sendTo h d target data).1 = .error e →
    e.isInterrupted = true → patience (sendTo h d target data).2 < patience h
  patience_accept_interrupted : ∀ h d e, (accept h d).1 = .error e →
    e.isInterrupted = true → patience (accept h d).2 < patience h

end FrameSocket
