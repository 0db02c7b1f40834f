import FrameSocket.Framer.Standard
import FrameSocket.Proofs.Delimited

/-!
# What a stream is cut into

A `FrameSpec` says what the next frame of a stream is, and `cut` cuts that frame
off the front of the bytes that came so far, as if they had come in one piece.
`segment` does so for one specification after the other.  A framer sees the bytes
in chunks: as long as its frame has not ended it `Awaits` the rest, and the chunk
in which `cut` first succeeds completes it.

## Key results

- `cut_append`: a frame that has ended is not changed by what comes behind it
- `Awaits.feed_none` / `Awaits.feed_some`: one chunk brings a framer to where `cut`
  is on the longer string
- `Awaits.close`: the end of the stream does so too
-/

namespace FrameSocket

open Framer (Standard)

/-- What the next frame of a stream is. -/
inductive FrameSpec where
  /-- The next `length` bytes. -/
  | fixedLength (length : Nat)
  /-- What runs from the first `opening` marker through the first `closing` marker
      behind it, or from the first byte if there is no opening marker. -/
  | delimited (opening : Option Bytes) (closing : Bytes) (caseSensitive : Bool)
  /-- No bytes. -/
  | noData
  /-- All that comes until the other side closes. -/
  | untilClose
  deriving DecidableEq, Repr

namespace FrameSpec

/-- A framer for such a frame that has not been fed. -/
def start : FrameSpec → Standard
  | .fixedLength n => .fixedLength (.start n)
  | .delimited opening closing cs => .delimited (.start opening closing cs)
  | .noData => .noData .start
  | .untilClose => .untilClose .start

/-- Whether the frame cannot have ended before its bytes came: a closing marker is
    not empty. -/
def IsProper : FrameSpec → Prop
  | .delimited _ closing _ => closing ≠ []
  | _ => True

/-- Cuts off the frame between two markers: from the first opening marker through the
    first closing marker at or behind its end. -/
def cutDelimited (opening closing : Bytes) (cs : Bool) (s : Bytes) : Option (Bytes × Bytes) :=
  (Bytes.firstMatchFrom cs opening s 0).bind fun p =>
    (Bytes.firstMatchFrom cs closing s (p + opening.length)).map fun q =>
      ((s.take (q + closing.length)).drop p, s.drop (q + closing.length))

/-- Cuts the next frame off the bytes that came so far, and answers it and what lies
    behind it; none if it has not ended.  `closed` tells that nothing more will come. -/
def cut (spec : FrameSpec) (s : Bytes) (closed : Bool) : Option (Bytes × Bytes) :=
  match spec with
  | .fixedLength n => if n ≤ s.length then some (s.take n, s.drop n) else none
  | .delimited opening closing cs => cutDelimited (opening.getD []) closing cs s
  | .noData => some ([], s)
  | .untilClose => if closed then some (s, []) else none

/-- The frames that the specifications cut off one after the other, up to the first
    that has not ended. -/
def segment : List FrameSpec → Bytes → Bool → List Bytes
  | [], _, _ => []
  | spec :: specs, s, closed =>
    match spec.cut s closed with
    | none => []
    | some (frame, rest) => frame :: segment specs rest closed

/-- Specifications of frames that can follow one another: only the last one may be
    ended by the end of the stream. -/
def Orderly : List FrameSpec → Prop
  | [] => True
  | spec :: specs => spec.IsProper ∧ (spec = .untilClose → specs = []) ∧ Orderly specs

variable {spec : FrameSpec} {s frame rest : Bytes}

/-! ## Cutting -/

/-- The frame between two markers stands where the markers do. -/
theorem cutDelimited_eq_some_iff {opening closing : Bytes} {cs : Bool} {x : Bytes × Bytes} :
    cutDelimited opening closing cs s = some x ↔
      ∃ p q, Framer.Delimited.Delimits opening closing cs s p q ∧
        x = ((s.take (q + closing.length)).drop p, s.drop (q + closing.length)) := by
  simp only [cutDelimited, Option.bind_eq_some_iff, Option.map_eq_some_iff,
    Bytes.firstMatchFrom_eq_some_iff]
  constructor
  · rintro ⟨p, hp, q, hq, rfl⟩
    exact ⟨p, q, ⟨hp, hq⟩, rfl⟩
  · rintro ⟨p, q, hd, rfl⟩
    exact ⟨p, hd.opening_isLeast, q, hd.closing_isLeast, rfl⟩

/-- There is no frame where the markers do not stand. -/
theorem cutDelimited_eq_none_iff {opening closing : Bytes} {cs : Bool} :
    cutDelimited opening closing cs s = none ↔
      ∀ p q, ¬ Framer.Delimited.Delimits opening closing cs s p q := by
  constructor
  · intro hnone p q hd
    have hsome := cutDelimited_eq_some_iff.mpr ⟨p, q, hd, rfl⟩
    rw [hnone] at hsome
    exact nomatch hsome
  · intro hno
    cases hcut : cutDelimited opening closing cs s with
    | none => rfl
    | some x =>
      -- A cut would have found a place
      obtain ⟨p, q, hd, _⟩ := cutDelimited_eq_some_iff.mp hcut
      exact absurd hd (hno p q)

/-- A frame that has ended stays as it is when more bytes come, and they come behind
    what lies behind it. -/
theorem cut_append (h : spec.cut s false = some (frame, rest)) (more : Bytes)
    (closed : Bool) : spec.cut (s ++ more) closed = some (frame, rest ++ more) := by
  cases spec with
  | fixedLength n =>
    simp only [cut] at h ⊢
    split at h
    · rename_i hle
      cases h
      have hle' : n ≤ (s ++ more).length := by
        rw [List.length_append]
        omega
      rw [if_pos hle', List.take_append_of_le_length hle, List.drop_append_of_le_length hle]
    · exact nomatch h
  | delimited opening closing cs =>
    obtain ⟨p, q, hd, heq⟩ := cutDelimited_eq_some_iff.mp h
    cases heq
    refine cutDelimited_eq_some_iff.mpr ⟨p, q, hd.append more, ?_⟩
    rw [hd.take_append, hd.drop_append]
  | noData =>
    cases h
    rfl
  -- Only the end of the stream cuts this frame
  | untilClose => exact nomatch h

/-- Only one kind of frame is ended by the end of the stream. -/
theorem eq_untilClose_of_cut (hopen : spec.cut s false = none)
    (hclosed : spec.cut s true = some (frame, rest)) : spec = .untilClose := by
  cases spec with
  | untilClose => rfl
  | fixedLength _ | delimited _ _ _ | noData => exact nomatch hopen.symm.trans hclosed

/-- One specification cuts the first frame off. -/
theorem segment_cons_some {closed : Bool} (h : spec.cut s closed = some (frame, rest))
    (specs : List FrameSpec) :
    segment (spec :: specs) s closed = frame :: segment specs rest closed := by
  simp only [segment, h]

/-- There are no frames behind one that has not ended. -/
theorem segment_cons_none {closed : Bool} (h : spec.cut s closed = none)
    (specs : List FrameSpec) : segment (spec :: specs) s closed = [] := by
  simp only [segment, h]

/-! ## Framers -/

/-- `f` was fed `s` and handed nothing back, and its frame has not ended. -/
def Awaits (spec : FrameSpec) (s : Bytes) (f : Standard) : Prop :=
  match spec, f with
  | .fixedLength n, .fixedLength f => f.length = n ∧ f.data = s ∧ s.length < n
  | .delimited opening closing cs, .delimited f =>
    f.opening = opening ∧ f.closing = closing ∧ f.caseSensitive = cs ∧ f.Tracks s [] ∧
      f.isComplete = false ∧ ∀ p q, ¬ f.DelimitsIn s p q
  | .untilClose, .untilClose f => f.data = s ∧ f.closed = false
  | _, _ => False

/-- A closing marker that is not empty does not stand in no bytes. -/
theorem not_delimits_nil {opening closing : Bytes} {cs : Bool} (h : closing ≠ []) (p q : Nat) :
    ¬ Framer.Delimited.Delimits opening closing cs [] p q := by
  intro hd
  have hle : q + closing.length ≤ 0 := hd.closing_le
  have hpos : 0 < closing.length := List.length_pos_iff.mpr h
  omega

/-- A fresh framer whose frame has not ended awaits all of it. -/
theorem awaits_start (hproper : spec.IsProper) (h : spec.cut [] false = none) :
    spec.Awaits [] spec.start := by
  -- Frames that the empty stream cuts are complete from the start, and await nothing
  cases spec with
  | fixedLength n =>
    refine ⟨rfl, rfl, ?_⟩
    simp only [cut, ite_eq_right_iff, reduceCtorEq, imp_false] at h
    simp only [List.length_nil] at h ⊢
    omega
  | delimited opening closing cs =>
    refine ⟨rfl, rfl, rfl, Framer.Delimited.tracks_start opening closing cs, ?_, ?_⟩
    · cases opening <;> rfl
    · exact not_delimits_nil hproper
  | noData => exact nomatch h
  | untilClose => exact ⟨rfl, rfl⟩

/-- A fresh framer whose frame has ended is complete, and its frame is empty. -/
theorem start_isComplete (hproper : spec.IsProper) (h : spec.cut [] false = some (frame, rest)) :
    Framer.isComplete spec.start = true ∧ (Framer.frame spec.start).data = frame ∧ rest = [] := by
  cases spec with
  | fixedLength n =>
    simp only [cut, List.length_nil, Nat.le_zero_eq] at h
    split at h
    · -- no bytes were asked for
      rename_i hzero
      subst hzero
      cases h
      exact ⟨rfl, rfl, rfl⟩
    · exact nomatch h
  -- There are no markers in no bytes
  | delimited opening closing cs =>
    rw [cut, cutDelimited_eq_none_iff.mpr (not_delimits_nil hproper)] at h
    exact nomatch h
  | noData =>
    cases h
    exact ⟨rfl, rfl, rfl⟩
  | untilClose => exact nomatch h

namespace Awaits

variable {f : Standard}

/-- A framer that awaits the rest of its frame is not complete. -/
theorem isComplete_eq_false (h : spec.Awaits s f) : Framer.isComplete f = false := by
  match spec, f, h with
  | .fixedLength n, .fixedLength f, ⟨hlength, hdata, hlt⟩ =>
    show decide (f.data.length = f.length) = false
    rw [hdata, hlength, decide_eq_false_iff_not]
    omega
  | .delimited opening closing cs, .delimited f, ⟨_, _, _, _, hc, _⟩ => exact hc
  | .untilClose, .untilClose f, ⟨_, hclosed⟩ => exact hclosed

/-- What was fed holds no whole frame. -/
theorem cut_eq_none (h : spec.Awaits s f) : spec.cut s false = none := by
  match spec, f, h with
  | .fixedLength n, .fixedLength f, ⟨_, _, hlt⟩ =>
    rw [cut, if_neg (by omega)]
  | .delimited opening closing cs, .delimited f, ⟨hopening, hclosing, hcs, _, _, hno⟩ =>
    simp only [Framer.Delimited.DelimitsIn, Framer.Delimited.openingBytes, hopening, hclosing,
      hcs] at hno
    exact cutDelimited_eq_none_iff.mpr hno
  | .untilClose, .untilClose f, _ => rfl

/-- A framer that waits for some more bytes takes them, and hands back the others. -/
private theorem feed_fixedLength {n : Nat} {f : Framer.FixedLength}
    (h : Awaits (.fixedLength n) s (.fixedLength f)) (chunk : Bytes) (origin : Option String) :
    f.feed chunk origin =
      (⟨n, s ++ chunk.take (n - s.length), firstOrigin f.origin origin⟩,
        chunk.drop (n - s.length)) := by
  have hfull : f.isFull = false := isComplete_eq_false h
  obtain ⟨hlength, hdata, _⟩ := h
  simp only [Framer.FixedLength.feed, hfull, Bool.false_eq_true, if_false, hlength, hdata]

/-- A framer between markers still knows all that it was fed. -/
private theorem feed_delimited {opening : Option Bytes} {closing : Bytes} {cs : Bool}
    {f : Framer.Delimited} (h : Awaits (.delimited opening closing cs) s (.delimited f))
    (chunk : Bytes) (origin : Option String) :
    let g := (f.feed chunk origin).1
    (g.opening = opening ∧ g.closing = closing ∧ g.caseSensitive = cs) ∧
      g.Tracks (s ++ chunk) (f.feed chunk origin).2 ∧
      (g.isComplete = false → ∀ p q, ¬ g.DelimitsIn (s ++ chunk) p q) ∧
      ∀ p q, g.DelimitsIn (s ++ chunk) p q ↔
        Framer.Delimited.Delimits (opening.getD []) closing cs (s ++ chunk) p q := by
  intro g
  obtain ⟨rfl, rfl, rfl, htracks, _, _⟩ := h
  -- The markers are those of the specification, and feeding does not change them
  obtain ⟨htracks', hno⟩ := Framer.Delimited.tracks_feed htracks chunk origin
  have hiff := f.delimitsIn_feed chunk origin (s ++ chunk)
  refine ⟨f.parameters_feed chunk origin, htracks', fun hc p q => ?_, hiff⟩
  rw [hiff]
  exact hno hc p q

/-- A framer that takes all has collected all that it was fed. -/
theorem data_eq (h : untilClose.Awaits s f) : (Framer.frame f).data = s := by
  match f, h with
  | .untilClose f, ⟨hdata, _⟩ => exact hdata

/-- A chunk that does not end the frame is taken whole. -/
theorem feed_none (h : spec.Awaits s f) {chunk : Bytes} (origin : Option String)
    (hcut : spec.cut (s ++ chunk) false = none) :
    (Framer.feed f chunk origin).2 = [] ∧
      spec.Awaits (s ++ chunk) (Framer.feed f chunk origin).1 := by
  match spec, f, h with
  | .fixedLength n, .fixedLength f, h =>
    have hless : (s ++ chunk).length < n := by
      simp only [cut, ite_eq_right_iff, reduceCtorEq, imp_false] at hcut
      omega
    -- The chunk is no longer than what is missing.
    have hchunk : chunk.length ≤ n - s.length := by
      rw [List.length_append] at hless
      omega
    show (f.feed chunk origin).2 = [] ∧ Awaits _ _ (.fixedLength (f.feed chunk origin).1)
    rw [feed_fixedLength h, List.take_of_length_le hchunk, List.drop_of_length_le hchunk]
    exact ⟨rfl, rfl, rfl, hless⟩
  | .delimited opening closing cs, .delimited f, h =>
    obtain ⟨⟨hopening, hclosing, hcs⟩, htracks, hno, hiff⟩ := feed_delimited h chunk origin
    show (f.feed chunk origin).2 = [] ∧ Awaits _ _ (.delimited (f.feed chunk origin).1)
    -- A complete framer would show where the markers stand.
    have hc : (f.feed chunk origin).1.isComplete = false := by
      by_contra hc
      obtain ⟨p, q, hd, _⟩ := htracks.exists_delimitsIn (Bool.eq_true_of_not_eq_false hc)
      exact cutDelimited_eq_none_iff.mp hcut p q ((hiff p q).mp hd)
    have hback := htracks.back_eq_nil hc
    rw [hback] at htracks
    exact ⟨hback, hopening, hclosing, hcs, htracks, hc, hno hc⟩
  | .untilClose, .untilClose f, ⟨hdata, hclosed⟩ =>
    have hfeed : f.feed chunk origin =
        ({ f with data := f.data ++ chunk, origin := firstOrigin f.origin origin }, []) := by
      simp only [Framer.UntilClose.feed, hclosed, Bool.false_eq_true, if_false]
    show (f.feed chunk origin).2 = [] ∧ Awaits _ _ (.untilClose (f.feed chunk origin).1)
    rw [hfeed, hdata]
    exact ⟨rfl, rfl, hclosed⟩

/-- The chunk with the end of the frame completes it, and what lies behind is handed
    back. -/
theorem feed_some (h : spec.Awaits s f) {chunk : Bytes} (origin : Option String)
    (hcut : spec.cut (s ++ chunk) false = some (frame, rest)) :
    Framer.isComplete (Framer.feed f chunk origin).1 = true ∧
      (Framer.frame (Framer.feed f chunk origin).1).data = frame ∧
      (Framer.feed f chunk origin).2 = rest := by
  match spec, f, h with
  | .fixedLength n, .fixedLength f, h =>
    have hlt : s.length < n := h.2.2
    simp only [cut] at hcut
    split at hcut
    · rename_i hle
      rw [List.length_append] at hle
      cases hcut
      show (f.feed chunk origin).1.isFull = true ∧ (f.feed chunk origin).1.data = _ ∧
        (f.feed chunk origin).2 = _
      rw [feed_fixedLength h, List.take_append, List.drop_append,
        List.take_of_length_le (Nat.le_of_lt hlt), List.drop_of_length_le (Nat.le_of_lt hlt)]
      refine ⟨decide_eq_true ?_, rfl, rfl⟩
      show (s ++ chunk.take (n - s.length)).length = n
      rw [List.length_append, List.length_take]
      omega
    · exact nomatch hcut
  | .delimited opening closing cs, .delimited f, h =>
    obtain ⟨⟨_, hclosing, _⟩, htracks, hno, hiff⟩ := feed_delimited h chunk origin
    obtain ⟨p, q, hd, heq⟩ := cutDelimited_eq_some_iff.mp hcut
    cases heq
    have hc : (f.feed chunk origin).1.isComplete = true := by
      by_contra hc
      exact hno (Bool.eq_false_iff.mpr hc) p q ((hiff p q).mpr hd)
    -- The framer has found the markers, and there is one place only for them.
    obtain ⟨p', q', hd', hdata, hback⟩ := htracks.exists_delimitsIn hc
    obtain ⟨rfl, rfl⟩ := ((hiff p' q').mp hd').unique hd
    rw [hclosing] at hdata hback
    exact ⟨hc, hdata, hback⟩
  | .untilClose, .untilClose f, h => exact nomatch hcut

/-- The end of the stream ends the frame, or the frame has no end. -/
theorem close (h : spec.Awaits s f) :
    (spec.cut s true = none ∧ (Framer.close f).2 = false) ∨
      ∃ frame, spec.cut s true = some (frame, []) ∧ (Framer.close f).2 = true ∧
        (Framer.frame (Framer.close f).1).data = frame := by
  match spec, f, h with
  | .fixedLength n, .fixedLength f, h => exact .inl ⟨cut_eq_none h, isComplete_eq_false h⟩
  | .delimited opening closing cs, .delimited f, h =>
    exact .inl ⟨cut_eq_none h, isComplete_eq_false h⟩
  | .untilClose, .untilClose f, ⟨hdata, _⟩ => exact .inr ⟨s, rfl, rfl, hdata⟩

end Awaits

end FrameSpec

end FrameSocket
