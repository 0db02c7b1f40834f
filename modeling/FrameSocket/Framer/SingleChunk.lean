import FrameSocket.Framer

/-!
# One chunk, one frame

The first chunk is the frame, whatever it holds; an empty one too.
-/

namespace FrameSocket.Framer

/-- Takes the first chunk as its frame. -/
structure SingleChunk where
  /-- The chunk, once it has come. -/
  chunk : Option Bytes
  origin : Option String
  deriving DecidableEq, Repr

namespace SingleChunk

/-- A framer that has been fed nothing. -/
def start : SingleChunk := ⟨none, none⟩

/-- Takes the first chunk whole, and no other. -/
def feed (f : SingleChunk) (chunk : Bytes) (origin : Option String) : SingleChunk × Bytes :=
  match f.chunk with
  | some _ => (f, chunk)
  | none => (⟨some chunk, firstOrigin f.origin origin⟩, [])

instance : Framer SingleChunk where
  feed := feed
  isComplete f := f.chunk.isSome
  frame f := ⟨f.chunk.getD [], f.origin⟩

instance : GreedyFramer SingleChunk where
  feed_suffix f chunk origin := by
    show (f.feed chunk origin).2 <:+ chunk
    unfold feed
    split
    · exact List.suffix_refl chunk
    · exact List.nil_suffix
  complete_of_rest f chunk origin h := by
    change (f.feed chunk origin).2 ≠ [] at h
    show (f.feed chunk origin).1.chunk.isSome = true
    unfold feed at h ⊢
    split
    · rename_i c hc; simp [hc]
    · rfl

end SingleChunk

end FrameSocket.Framer
