import FrameSocket.Framer

/-!
# Frames between markers

The frame runs from the first `opening` marker through the first `closing`
marker that begins after it, both included; what comes before the opening
marker is dropped.  Without an opening marker the frame starts with the first
byte.  Markers may be compared up to ASCII letter case.

The chunks may cut a marker anywhere.  While the opening marker is sought, as
many bytes are kept as could be the start of it; while the closing marker is
sought, the search goes on from where the last one ended, pulled back by as
many bytes as could be the start of it, but never into the opening marker.
-/

namespace FrameSocket.Framer

/-- How far a delimited frame has come. -/
inductive Delimited.Phase where
  /-- The opening marker has not been met; `tail` may be the start of it. -/
  | seeking (tail : Bytes)
  /-- `data` starts with the opening marker; no closing marker ends within its
  first `scanned` bytes. -/
  | collecting (data : Bytes) (scanned : Nat)
  /-- Both markers have been met. -/
  | complete (data : Bytes)
  deriving DecidableEq, Repr

/-- Takes the bytes between two markers as its frame, the markers included. -/
structure Delimited where
  opening : Option Bytes
  closing : Bytes
  caseSensitive : Bool
  phase : Delimited.Phase
  origin : Option String
  deriving DecidableEq, Repr

namespace Delimited

/-- A frame between `opening` and `closing`. -/
def start (opening : Option Bytes) (closing : Bytes) (caseSensitive : Bool) : Delimited :=
  let phase := match opening with
    | some _ => Phase.seeking []
    | none => Phase.collecting [] 0
  ⟨opening, closing, caseSensitive, phase, none⟩

/-- A frame that starts with the first byte and ends with `closing`. -/
def closedBy (closing : Bytes) (caseSensitive : Bool) : Delimited :=
  start none closing caseSensitive

/-- The bytes kept so far. -/
def data (f : Delimited) : Bytes :=
  match f.phase with
  | .seeking data | .collecting data _ | .complete data => data

/-- Whether the end marker has been found. -/
def isComplete (f : Delimited) : Bool :=
  match f.phase with
  | .complete _ => true
  | _ => false

/-- The opening marker; empty where there is none. -/
def openingBytes (f : Delimited) : Bytes := f.opening.getD []

/-- Seeks the closing marker in `data`, whose last bytes are those of `chunk`. -/
def collect (f : Delimited) (data : Bytes) (scanned : Nat) (chunk : Bytes) :
    Phase × Bytes :=
  let start := max (scanned - (f.closing.length - 1)) f.openingBytes.length
  match Bytes.firstMatchFrom f.caseSensitive f.closing data start with
  | some pos =>
    let frameEnd := pos + f.closing.length
    let extra := min (data.length - frameEnd) chunk.length
    (.complete (data.take frameEnd), chunk.drop (chunk.length - extra))
  | none => (.collecting data data.length, [])

/-- Goes on with a chunk from where the frame stands. -/
def advance (f : Delimited) (chunk : Bytes) : Phase × Bytes :=
  match f.phase with
  | .complete data => (.complete data, chunk)
  | .collecting data scanned => f.collect (data ++ chunk) scanned chunk
  | .seeking tail =>
    let data := tail ++ chunk
    match Bytes.firstMatchFrom f.caseSensitive f.openingBytes data 0 with
    | some pos => f.collect (data.drop pos) f.openingBytes.length chunk
    | none =>
      let keep := min (f.openingBytes.length - 1) data.length
      (.seeking (data.drop (data.length - keep)), [])

/-- Feeds a chunk: once the frame is complete, all of it is left over. -/
def feed (f : Delimited) (chunk : Bytes) (origin : Option String) : Delimited × Bytes :=
  if f.isComplete then (f, chunk)
  else
    let (phase, rest) := f.advance chunk
    ({ f with phase, origin := firstOrigin f.origin origin }, rest)

instance : Framer Delimited where
  feed := feed
  isComplete := isComplete
  frame f := ⟨f.data, f.origin⟩

/-- The closing marker's search hands back an end of the chunk. -/
theorem collect_suffix (f : Delimited) (data : Bytes) (scanned : Nat) (chunk : Bytes) :
    (f.collect data scanned chunk).2 <:+ chunk := by
  unfold collect
  dsimp only
  split
  · exact List.drop_suffix _ chunk
  · exact List.nil_suffix

/-- What `advance` leaves over is the end of the chunk. -/
theorem advance_suffix (f : Delimited) (chunk : Bytes) : (f.advance chunk).2 <:+ chunk := by
  unfold advance
  split
  · exact List.suffix_refl chunk
  · exact collect_suffix f _ _ chunk
  · dsimp only
    split
    · exact collect_suffix f _ _ chunk
    · exact List.nil_suffix

instance : LawfulFramer Delimited where
  feed_suffix f chunk origin := by
    show (f.feed chunk origin).2 <:+ chunk
    unfold feed
    split
    · exact List.suffix_refl chunk
    · exact advance_suffix f chunk

end Delimited

end FrameSocket.Framer
