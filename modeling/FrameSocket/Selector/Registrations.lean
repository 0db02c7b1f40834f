import FrameSocket.Selector.Ready
import FrameSocket.Host.Basic
import FrameSocket.Socket

/-!
# Registrations of a selector

Which operations a caller wants on which sockets, one entry for each socket, in
the order of their handles.  `wants` is the view: an operation is wanted from the
moment it is added until it is removed, and an entry that wants nothing is gone.
-/

namespace FrameSocket

/-- What can be wanted of a socket. -/
inductive Operation where
  | read
  | write
  deriving DecidableEq, Repr

/-- Where a selector finds out whether a socket is ready. -/
inductive Source where
  /-- From the poller.  Listening sockets are taken at its word; `urgent` sockets
  are looked at for urgent data, too. -/
  | descriptor (descriptor : Nat) (listening urgent : Bool)
  /-- From the peer itself, which either held its datagram when it was registered
  or did not. -/
  | peer (pending : Bool)
  deriving DecidableEq, Repr

/-- The source of a socket. -/
def Source.of (s : Socket) : Source :=
  if s.isPeer then .peer s.hasPending
  else .descriptor s.descriptor s.isListening (s.transport.hasUrgentChannel && !s.isListening)

/-- What is wanted of one socket. -/
structure Registration where
  id : SocketId
  source : Source
  read : Bool
  write : Bool
  deriving DecidableEq, Repr

namespace Registration

/-- An entry that wants nothing yet. -/
def fresh (id : SocketId) (source : Source) : Registration := ⟨id, source, false, false⟩

/-- Whether the operation is among those that were added. -/
def wants (r : Registration) : Operation → Bool
  | .read => r.read
  | .write => r.write

/-- Changes whether an operation is wanted. -/
def set (r : Registration) (op : Operation) (wanted : Bool) : Registration :=
  match op with
  | .read => { r with read := wanted }
  | .write => { r with write := wanted }

/-- Whether no operation is left. -/
def isIdle (r : Registration) : Bool := !r.read && !r.write

/-- What the poller is asked for on behalf of an entry. -/
def interest (r : Registration) (urgent : Bool) : Interest := ⟨r.read, r.write, urgent⟩

end Registration

/-- The entries of a selector. -/
abbrev Registrations := List Registration

namespace Registrations

/-- The entry of a socket. -/
def find? (rs : Registrations) (id : SocketId) : Option Registration := List.find? (·.id = id) rs

/-- Whether an operation is wanted of a socket. -/
def wants (rs : Registrations) (id : SocketId) (op : Operation) : Bool :=
  (rs.find? id).any (·.wants op)

/-- Adds an operation of a socket, whose source is looked at anew. -/
def add (id : SocketId) (source : Source) (op : Operation) : Registrations → Registrations
  | [] => [(Registration.fresh id source).set op true]
  | r :: rs =>
    if r.id = id then { r with source }.set op true :: rs
    else if id < r.id then (Registration.fresh id source).set op true :: r :: rs
    else r :: add id source op rs

/-- Removes an operation of a socket. -/
def remove (rs : Registrations) (id : SocketId) (op : Operation) : Registrations :=
  rs.filterMap fun r =>
    if r.id = id then
      let r := r.set op false
      if r.isIdle then none else some r
    else some r

/-- Removes every operation of a socket. -/
def removeAll (rs : Registrations) (id : SocketId) : Registrations :=
  rs.filter fun r => !(r.id = id)

end Registrations

end FrameSocket
