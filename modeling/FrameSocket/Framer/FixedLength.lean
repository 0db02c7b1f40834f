import FrameSocket.Framer

/-!
# Frames of a fixed length

The frame is the next `length` bytes.  A frame of no bytes is complete before
anything is fed.
-/

namespace FrameSocket.Framer

/-- Takes the next `length` bytes as its frame. -/
structure FixedLength where
  length : Nat
  data : Bytes
  origin : Option String
  deriving DecidableEq, Repr

namespace FixedLength

/-- A framer that has been fed nothing. -/
def start (length : Nat) : FixedLength := ⟨length, [], none⟩

/-- Whether all the bytes have come. -/
def isFull (f : FixedLength) : Bool := f.data.length = f.length

/-- Takes what is still wanted from the front of the chunk. -/
def feed (f : FixedLength) (chunk : Bytes) (origin : Option String) : FixedLength × Bytes :=
  if f.isFull then (f, chunk)
  else
    let wanted := f.length - f.data.length
    ({ f with data := f.data ++ chunk.take wanted, origin := firstOrigin f.origin origin },
      chunk.drop wanted)

instance : Framer FixedLength where
  feed := feed
  isComplete := isFull
  frame f := ⟨f.data, f.origin⟩

instance : LawfulFramer FixedLength where
  feed_suffix f chunk origin := by
    show (f.feed chunk origin).2 <:+ chunk
    unfold feed
    split
    · exact List.suffix_refl chunk
    · exact List.drop_suffix _ chunk

end FixedLength

end FrameSocket.Framer
