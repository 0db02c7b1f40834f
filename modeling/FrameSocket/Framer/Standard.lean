import FrameSocket.Framer.SingleChunk
import FrameSocket.Framer.FixedLength
import FrameSocket.Framer.Delimited
import FrameSocket.Framer.NoData
import FrameSocket.Framer.UntilClose

/-!
# The library's own framers

The five framers of this library as one type, for callers that choose among
them while running.
-/

namespace FrameSocket.Framer

/-- Any of the library's framers. -/
inductive Standard where
  | singleChunk (f : SingleChunk)
  | fixedLength (f : FixedLength)
  | delimited (f : Delimited)
  | noData (f : NoData)
  | untilClose (f : UntilClose)
  deriving DecidableEq, Repr

namespace Standard

/-- Feeds the framer that it is; so do the others below. -/
def feed (f : Standard) (chunk : Bytes) (origin : Option String) : Standard × Bytes :=
  match f with
  | .singleChunk f => (Framer.feed f chunk origin).map .singleChunk id
  | .fixedLength f => (Framer.feed f chunk origin).map .fixedLength id
  | .delimited f => (Framer.feed f chunk origin).map .delimited id
  | .noData f => (Framer.feed f chunk origin).map .noData id
  | .untilClose f => (Framer.feed f chunk origin).map .untilClose id

/-- Whether the framer that it is has its frame. -/
def isComplete : Standard → Bool
  | .singleChunk f => Framer.isComplete f
  | .fixedLength f => Framer.isComplete f
  | .delimited f => Framer.isComplete f
  | .noData f => Framer.isComplete f
  | .untilClose f => Framer.isComplete f

/-- The frame of the framer that it is. -/
def frame : Standard → Frame
  | .singleChunk f => Framer.frame f
  | .fixedLength f => Framer.frame f
  | .delimited f => Framer.frame f
  | .noData f => Framer.frame f
  | .untilClose f => Framer.frame f

/-- Closes the framer that it is. -/
def close : Standard → Standard × Bool
  | .singleChunk f => (Framer.close f).map .singleChunk id
  | .fixedLength f => (Framer.close f).map .fixedLength id
  | .delimited f => (Framer.close f).map .delimited id
  | .noData f => (Framer.close f).map .noData id
  | .untilClose f => (Framer.close f).map .untilClose id

instance : Framer Standard where
  feed := feed
  isComplete := isComplete
  frame := frame
  close := close

instance : LawfulFramer Standard where
  feed_suffix f chunk origin := by
    cases f with
    | singleChunk f => exact LawfulFramer.feed_suffix f chunk origin
    | fixedLength f => exact LawfulFramer.feed_suffix f chunk origin
    | delimited f => exact LawfulFramer.feed_suffix f chunk origin
    | noData f => exact LawfulFramer.feed_suffix f chunk origin
    | untilClose f => exact LawfulFramer.feed_suffix f chunk origin

end Standard

end FrameSocket.Framer
