import FrameSocket.Bytes
import FrameSocket.IoError
import FrameSocket.Socket.Basic

/-!
# What a client needs of a socket

The non-blocking calls that the client machines are built on, as a class over
the state of the socket.  Every call answers at once and leaves a new state;
"nothing to do right now" is an error that `IoError.isBlocked` recognises.

Two measures bound how long a caller can be kept busy by answers that ask it to
call again:

* `supply` goes down whenever a receiving call brings bytes or is interrupted,
  and no receiving call or peek raises it;
* `patience` goes down whenever a sending call is interrupted.

They make the loops of the machines total, and cost nothing when they run.
-/

namespace FrameSocket

/-- The calls of a non-blocking socket with state `σ`. -/
class Endpoint (σ : Type) where
  id : σ → SocketId
  transport : σ → Transport
  /-- The address of the connected peer, none while there is no connection. -/
  remoteAddress : σ → Except IoError (Option String) × σ
  /-- Takes the error that is pending on the socket, if there is one. -/
  takeError : σ → Except IoError (Option IoError) × σ
  /-- Receives at most the given number of bytes.  No bytes on the regular
  channel are the end of the stream. -/
  recv : σ → Channel → Nat → Except IoError Bytes × σ
  /-- Receives one datagram, cut to the given size, and its sender. -/
  recvFrom : σ → Nat → Except IoError (Bytes × Option String) × σ
  /-- How many bytes, at most one, a receiving call would find. -/
  peek : σ → Channel → Except IoError Nat × σ
  /-- Sends a beginning of the data, and answers how long it is. -/
  send : σ → Channel → Bytes → Except IoError Nat × σ
  /-- How often receiving can still bring bytes or be interrupted. -/
  supply : σ → Nat
  /-- How often sending can still be interrupted. -/
  patience : σ → Nat
  length_recv : ∀ s ch n data, (recv s ch n).1 = .ok data → data.length ≤ n
  supply_recv_le : ∀ s ch n, supply (recv s ch n).2 ≤ supply s
  supply_recv_data : ∀ s ch n data, (recv s ch n).1 = .ok data → data ≠ [] →
    supply (recv s ch n).2 < supply s
  supply_recv_interrupted : ∀ s ch n e, (recv s ch n).1 = .error e → e.isInterrupted = true →
    supply (recv s ch n).2 < supply s
  length_recvFrom : ∀ s n got, (recvFrom s n).1 = .ok got → got.1.length ≤ n
  supply_recvFrom_interrupted : ∀ s n e, (recvFrom s n).1 = .error e →
    e.isInterrupted = true → supply (recvFrom s n).2 < supply s
  supply_peek_le : ∀ s ch, supply (peek s ch).2 ≤ supply s
  send_le_length : ∀ s ch data n, (send s ch data).1 = .ok n → n ≤ data.length
  patience_send_interrupted : ∀ s ch data e, (send s ch data).1 = .error e →
    e.isInterrupted = true → patience (send s ch data).2 < patience s

end FrameSocket
