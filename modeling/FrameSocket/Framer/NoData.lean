import FrameSocket.Framer

/-!
# The empty frame

A frame without data, complete from the start.  Everything is handed back; only
the address of the first chunk with one is kept.
-/

namespace FrameSocket.Framer

/-- Takes nothing. -/
structure NoData where
  origin : Option String
  deriving DecidableEq, Repr

namespace NoData

/-- A framer that has been fed nothing. -/
def start : NoData := ⟨none⟩

instance : Framer NoData where
  feed f chunk origin := (⟨firstOrigin f.origin origin⟩, chunk)
  isComplete _ := true
  frame f := ⟨[], f.origin⟩

instance : GreedyFramer NoData where
  feed_suffix _ chunk _ := List.suffix_refl chunk
  complete_of_rest _ _ _ _ := rfl

end NoData

end FrameSocket.Framer
