import FrameSocket.Socket.Kernel

/-!
# Operating systems that deliver datagrams

What is assumed of an operating system where a datagram server shares one socket
with the peers that it makes.  The datagrams that wait at the socket form a
queue; several descriptors may lead to it, and all of them show the same queue.
Datagrams come with their origins, and only what comes to a Unix socket may come
from a socket without a name.

Looking takes nothing from the queue, taking what was just seen works and takes
the first datagram, and so does making one more descriptor.  Sending takes
nothing either: what it sends may come back, but only to the end of the queue.

Nothing is said about sockets that are not shared in this way, about what looking
answers when nothing is there, or about how often it fails.
-/

namespace FrameSocket

/-- An operating system whose datagram sockets are queues.  In each law, `ds` are
descriptors that lead to one socket, and `d` is one of them. -/
class DatagramKernel (κ : Type) [Kernel κ] where
  /-- The datagrams that wait where a descriptor leads, the oldest first. -/
  waiting : κ → Nat → List Datagram
  /-- The descriptors lead to one datagram socket of the transport. -/
  Serves : κ → Transport → List Nat → Prop
  serves_of_subset : ∀ {h : κ} {t : Transport} {ds ds' : List Nat},
    Serves h t ds → ds' ⊆ ds → Serves h t ds'
  /-- The descriptors share one queue. -/
  waiting_shared : ∀ {h : κ} {t : Transport} {ds : List Nat} {d d' : Nat},
    Serves h t ds → d ∈ ds → d' ∈ ds → waiting h d = waiting h d'
  /-- Datagrams come with their origins. -/
  origin_known : ∀ {h : κ} {t : Transport} {ds : List Nat} {d : Nat},
    Serves h t ds → d ∈ ds → ∀ x ∈ waiting h d, x.origin ≠ .unnamed ∨ t.isUnix = true
  /-- Handles are counted apart from all sockets. -/
  setNextId_keeps : ∀ {h : κ} {t : Transport} {ds : List Nat} {d : Nat},
    Serves h t ds → d ∈ ds → ∀ n,
      Serves (Kernel.setNextId h n) t ds ∧ waiting (Kernel.setNextId h n) d = waiting h d
  /-- Asking for a name takes nothing. -/
  localName_keeps : ∀ {h : κ} {t : Transport} {ds : List Nat} {d : Nat},
    Serves h t ds → d ∈ ds →
      Serves (Kernel.localName h d).2 t ds ∧ waiting (Kernel.localName h d).2 d = waiting h d
  /-- Peeking does not consume, whether it works or fails. -/
  peekFrom_keeps : ∀ {h : κ} {t : Transport} {ds : List Nat} {d : Nat},
    Serves h t ds → d ∈ ds →
      Serves (Kernel.peekFrom h d).2 t ds ∧ waiting (Kernel.peekFrom h d).2 d = waiting h d
  /-- What it tells is the origin of the first datagram. -/
  peekFrom_first : ∀ {h next : κ} {t : Transport} {ds : List Nat} {d : Nat} {origin : Address},
    Serves h t ds → d ∈ ds → Kernel.peekFrom h d = (.ok origin, next) →
      ∃ first rest, waiting h d = first :: rest ∧ origin = first.origin
  /-- Receiving a datagram that was just peeked succeeds, and takes it from the front. -/
  recvFrom_of_peeked : ∀ {h next : κ} {t : Transport} {ds : List Nat} {d : Nat}
    {origin : Address} {first : Datagram} {rest : List Datagram},
    Serves h t ds → d ∈ ds → Kernel.peekFrom h d = (.ok origin, next) →
      waiting next d = first :: rest → ∀ n, ∃ last,
        Kernel.recvFrom next d n = (.ok (first.data.take n, first.origin), last) ∧
          Serves last t ds ∧ waiting last d = rest
  /-- Duplicating a descriptor succeeds, and the new one leads where the others do. -/
  duplicate_ok : ∀ {h : κ} {t : Transport} {ds : List Nat} {d : Nat},
    Serves h t ds → d ∈ ds → ∃ d' next, Kernel.duplicate h d = (.ok d', next) ∧
      Serves next t (d' :: ds) ∧ waiting next d = waiting h d
  /-- Sending takes nothing from the queue, and adds to its end at most. -/
  sendTo_behind : ∀ {h : κ} {t : Transport} {ds : List Nat} {d : Nat},
    Serves h t ds → d ∈ ds → ∀ (target : Address) (data : Bytes),
      Serves (Kernel.sendTo h d target data).2 t ds ∧
        waiting h d <+: waiting (Kernel.sendTo h d target data).2 d

end FrameSocket
