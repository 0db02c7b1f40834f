import FrameSocket.Config
import FrameSocket.NetworkError
import FrameSocket.Socket.Attached

/-!
# Servers of streams

A stream server turns a listening socket into reads that bring accepted
sockets.  When nobody waits to be accepted, a read answers an empty unfinished
frame.
-/

namespace FrameSocket

/-- What a server's read answers, and the operating system afterwards. -/
abbrev Accepting (κ : Type) := Except NetworkError (Incoming Socket) × κ

/-- A server of stream connections. -/
structure StreamServer where
  socket : Socket
  /-- The socket's name at the time when the server was made. -/
  address : String
  deriving DecidableEq, Repr

variable {κ : Type} [Kernel κ]

/-- `Socket.accept` is interrupted only if the operating system's call was. -/
theorem Socket.accept_interrupted {s : Socket} {h : κ} {e : IoError}
    (he : (s.accept h).1 = .error e) (hi : e.isInterrupted = true) :
    Kernel.patience (s.accept h).2 < Kernel.patience h := by
  unfold accept at he ⊢
  split at he
  · exact nomatch he
  · rename_i x h' hr
    simp only [Except.error.injEq] at he
    subst he
    have hh : h' = (Kernel.accept h s.descriptor).2 := (congrArg Prod.snd hr).symm
    dsimp only
    rw [hh]
    exact Kernel.patience_accept_interrupted h _ x (congrArg Prod.fst hr) hi

namespace StreamServer

/-- A server for a socket.  That its name cannot be told is no failure. -/
def new (socket : Socket) (h : κ) : StreamServer × κ :=
  let (address, h) := socket.localAddress h
  (⟨socket, address⟩, h)

/-- The failure of an accepting call. -/
def failed (s : StreamServer) (e : IoError) : NetworkError :=
  .acceptFailed s.address e.message (some e)

/-- Accepts the next connection. -/
def accept (s : StreamServer) (h : κ) : Accepting κ :=
  match _h : s.socket.accept h with
  | (.ok (client, remote), next) => (.ok (.accepted remote client), next)
  | (.error e, next) =>
    if e.isBlocked then (.ok (.unfinished .empty), next)
    else if _hi : e.isInterrupted then s.accept next
    else (.error (s.failed e), next)
termination_by Kernel.patience h
decreasing_by
  have he := Socket.accept_interrupted (s := s.socket) (h := h) (e := e)
  rw [_h] at he
  exact he rfl _hi

/-- Accepts the next connection.  Listening sockets have no urgent channel. -/
def read (s : StreamServer) (h : κ) (ch : Channel) : Accepting κ :=
  match ch with
  | .urgent => (.error (.unsupported "out-of-band data on a listening socket"), h)
  | .regular => s.accept h

/-- The failure of every write to a stream server. -/
def noWrites : NetworkError := .unsupported "cannot write to a listening socket"

end StreamServer

end FrameSocket
