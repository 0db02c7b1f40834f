import FrameSocket.Frame

/-!
# Framers

A framer cuts one frame out of the bytes that a socket delivers in chunks of
arbitrary size.  Each chunk is fed to it together with the address it came
from; what lies past the end of the frame is handed back, and the caller keeps
it for the next framer.

The framers of this library are in the modules below this one.  Others are
instances of the same class.
-/

namespace FrameSocket

/-- Something that cuts one frame out of chunks. -/
class Framer (φ : Type) where
  /-- Takes a chunk and the address it came from, and hands back the bytes of
  the chunk that are not part of the frame. -/
  feed : φ → Bytes → Option String → φ × Bytes
  /-- Whether the frame's end has been met. -/
  isComplete : φ → Bool
  /-- The frame as far as it has come. -/
  frame : φ → Frame
  /-- Takes note that the other side will send nothing more, and answers
  whether that ends the frame. -/
  close : φ → φ × Bool := fun f => (f, isComplete f)

namespace Framer

variable {φ : Type} [Framer φ]

/-- Feeds chunks one after the other, each with the address it came from, and
answers what was handed back of each. -/
def feedAll (f : φ) : List (Bytes × Option String) → φ × List Bytes
  | [] => (f, [])
  | (chunk, origin) :: chunks =>
    let (f, rest) := feed f chunk origin
    let (f, rests) := feedAll f chunks
    (f, rest :: rests)

end Framer

/-- What every framer owes its callers: it hands back the end of the chunk, and
nothing else. -/
class LawfulFramer (φ : Type) [Framer φ] : Prop where
  feed_suffix : ∀ (f : φ) (chunk : Bytes) (origin : Option String),
    (Framer.feed f chunk origin).2 <:+ chunk

/-- A framer that takes all it is given until its frame is complete. -/
class GreedyFramer (φ : Type) [Framer φ] : Prop extends LawfulFramer φ where
  complete_of_rest : ∀ (f : φ) (chunk : Bytes) (origin : Option String),
    (Framer.feed f chunk origin).2 ≠ [] →
      Framer.isComplete (Framer.feed f chunk origin).1 = true

/-- The address a frame is attributed to: the first that is known. -/
def firstOrigin (known new : Option String) : Option String := known.or new

end FrameSocket
