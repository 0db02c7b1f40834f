import FrameSocket.Host.Poll

/-!
# What a selector needs of a poller

The calls by which a selector waits for descriptors, as a class over the state
of the poller and all that it watches.  Nothing is asked of the answers: a
poller may report what is not so, what was not asked for, or what it does not
know.
-/

namespace FrameSocket

/-- The calls of a poller with state `π`. -/
class Poller (π : Type) where
  now : π → Duration
  /-- Watches a descriptor on behalf of a socket. -/
  register : π → Nat → SocketId → Interest → Except IoError Unit × π
  deregister : π → Nat → Except IoError Unit × π
  /-- Waits until there is something to report, at most for the given time. -/
  wait : π → Duration → Except IoError (List Event) × π
  /-- How many bytes, at most one, a receiving call would find. -/
  peek : π → Nat → Channel → Except IoError Nat × π
  sleep : π → Duration → π

instance : Poller Host where
  now := Host.now
  register h d id interest :=
    ((h.register d id interest).1.mapError .os, (h.register d id interest).2)
  deregister h d := ((h.deregister d).1.mapError .os, (h.deregister d).2)
  wait h timeout := ((h.wait timeout).1.mapError .os, (h.wait timeout).2)
  peek h d ch := ((h.peek d ch).1.mapError .os, (h.peek d ch).2)
  sleep := Host.sleep

end FrameSocket
