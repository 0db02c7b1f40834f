import FrameSocket.Text.Utf8

/-!
# Frames

A frame is one message cut out of a stream or a datagram, with the address it
came from.  `Incoming` is what one read of a socket brings in.
-/

namespace FrameSocket

/-- One message, and where it came from. -/
structure Frame where
  data : Bytes
  /-- The sender's address, where it is known. -/
  origin : Option String
  deriving DecidableEq, Repr

namespace Frame

/-- The frame without data or origin. -/
def empty : Frame := ⟨[], none⟩

instance : Inhabited Frame := ⟨empty⟩

/-- The number of octets. -/
def length (f : Frame) : Nat := f.data.length

/-- Whether the frame has no bytes; it may still have an origin. -/
def isEmpty (f : Frame) : Bool := f.data.isEmpty

/-- The data as text. -/
def text (f : Frame) : String := Utf8.decodeLossy f.data

end Frame

/-- What one read brings in. -/
inductive Incoming (σ : Type) where
  /-- A whole frame. -/
  | complete (frame : Frame)
  /-- What there is of a frame so far; the next read goes on with it. -/
  | unfinished (frame : Frame)
  /-- A new socket, accepted from `remote`. -/
  | accepted (remote : String) (socket : σ)
  deriving DecidableEq, Repr

namespace Incoming

variable {σ : Type}

/-- Whether the read has to be made again. -/
def isUnfinished : Incoming σ → Bool
  | .unfinished _ => true
  | _ => false

/-- The whole frame, if that is what came in. -/
def complete? : Incoming σ → Option Frame
  | .complete frame => some frame
  | _ => none

/-- The accepted socket and its remote address, if that is what came in. -/
def accepted? : Incoming σ → Option (String × σ)
  | .accepted remote socket => some (remote, socket)
  | _ => none

end Incoming

end FrameSocket
