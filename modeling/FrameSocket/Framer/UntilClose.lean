import FrameSocket.Framer

/-!
# Everything until the other side closes

No amount of data ends this frame; the end of the stream does.
-/

namespace FrameSocket.Framer

/-- Takes all that comes until the other side closes. -/
structure UntilClose where
  data : Bytes
  closed : Bool
  origin : Option String
  deriving DecidableEq, Repr

namespace UntilClose

/-- A framer that has been fed nothing. -/
def start : UntilClose := ⟨[], false, none⟩

/-- Takes every chunk whole until it is closed. -/
def feed (f : UntilClose) (chunk : Bytes) (origin : Option String) : UntilClose × Bytes :=
  if f.closed then (f, chunk)
  else ({ f with data := f.data ++ chunk, origin := firstOrigin f.origin origin }, [])

instance : Framer UntilClose where
  feed := feed
  isComplete f := f.closed
  frame f := ⟨f.data, f.origin⟩
  close f := ({ f with closed := true }, true)

instance : GreedyFramer UntilClose where
  feed_suffix f chunk origin := by
    show (f.feed chunk origin).2 <:+ chunk
    unfold feed
    split
    · exact List.suffix_refl chunk
    · exact List.nil_suffix
  complete_of_rest f chunk origin h := by
    change (f.feed chunk origin).2 ≠ [] at h
    show (f.feed chunk origin).1.closed = true
    unfold feed at h ⊢
    split
    · assumption
    · rename_i hc; simp [hc] at h

end UntilClose

end FrameSocket.Framer
