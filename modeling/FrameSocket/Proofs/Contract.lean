import FrameSocket.Proofs.Greedy

/-!
# What the library's framers owe their callers

A framer looks at chunks that it has not cut, so whatever it takes a difference of, and
wherever it cuts, it has to know that the bytes are there.  `feedChecked` feeds a framer
with every difference, cut and search checked, and stops with a fault at the first one that
is out of range.  None ever is: on every framer that was started, however it is fed and
whenever the other side closes, the checked feeding goes through and comes to the same.

Beyond that a framer keeps a contract in every state that it can come to: it hands back an
end of the chunk, and nothing before its frame is complete; a complete frame stays as it is.

## Key results

- `Standard.feedChecked_eq`: feeding goes through
- `Standard.contract_of_bounded`: the contract, for one state
- `FixedLength.run_eq`: what a frame of a fixed length has after any calls
- `Standard.contract_run`: the contract in every state that calls lead to
-/

namespace FrameSocket

/-! ## Checked operations -/

/-- What is wrong with an operation on bytes and lengths. -/
inductive RangeFault where
  /-- A length has less than is to be taken off it. -/
  | underflow
  /-- A cut behind the end of the bytes. -/
  | outOfRange
  /-- A search through windows of no bytes. -/
  | emptyWindow
  deriving DecidableEq, Repr

namespace Checked

/-- A difference, if it has one. -/
def sub (a b : Nat) : Except RangeFault Nat :=
  if b ≤ a then .ok (a - b) else .error .underflow

/-- The bytes before and from a position. -/
def splitAt (bytes : Bytes) (n : Nat) : Except RangeFault (Bytes × Bytes) :=
  if n ≤ bytes.length then .ok (bytes.take n, bytes.drop n) else .error .outOfRange

/-- The bytes from a position. -/
def drop (bytes : Bytes) (n : Nat) : Except RangeFault Bytes :=
  if n ≤ bytes.length then .ok (bytes.drop n) else .error .outOfRange

/-- The first window of the bytes that is the needle. -/
def firstWindow (caseSensitive : Bool) (needle bytes : Bytes) :
    Except RangeFault (Option Nat) :=
  if needle.isEmpty then .error .emptyWindow
  else .ok (Bytes.firstMatch caseSensitive needle bytes)

/-- The first position not before `start` at which the needle stands. -/
def find (caseSensitive : Bool) (needle bytes : Bytes) (start : Nat) :
    Except RangeFault (Option Nat) :=
  if bytes.length < start then .ok none
  else if needle.isEmpty then .ok (some start)
  else do
    let rest ← drop bytes start
    let found ← firstWindow caseSensitive needle rest
    return found.map (· + start)

/-- `sub` works as long as it has not to go below zero. -/
theorem sub_of_le {a b : Nat} (h : b ≤ a) : sub a b = .ok (a - b) := if_pos h

/-- `splitAt` works as long as there are so many bytes. -/
theorem splitAt_of_le {bytes : Bytes} {n : Nat} (h : n ≤ bytes.length) :
    splitAt bytes n = .ok (bytes.take n, bytes.drop n) := if_pos h

/-- `drop` works as long as there are so many bytes. -/
theorem drop_of_le {bytes : Bytes} {n : Nat} (h : n ≤ bytes.length) :
    drop bytes n = .ok (bytes.drop n) := if_pos h

/-- Nothing is left behind the end. -/
theorem drop_length (bytes : Bytes) : drop bytes bytes.length = .ok [] := by
  rw [drop_of_le (Nat.le_refl _), List.drop_length]

/-- The empty marker stands at the start of anything. -/
theorem firstMatch_nil (cs : Bool) (bytes : Bytes) : Bytes.firstMatch cs [] bytes = some 0 := by
  cases bytes <;> rfl

/-- A search never leaves the bytes, whatever it starts from and looks for. -/
theorem find_eq (cs : Bool) (needle bytes : Bytes) (start : Nat) :
    find cs needle bytes start = .ok (Bytes.firstMatchFrom cs needle bytes start) := by
  unfold find Bytes.firstMatchFrom
  split
  · rfl
  · rename_i hstart
    split
    · -- An empty marker is found without a window
      rename_i hempty
      rw [List.isEmpty_iff.mp hempty, firstMatch_nil]
      simp
    · rename_i hne
      rw [drop_of_le (Nat.le_of_not_lt hstart)]
      simp only [firstWindow, if_neg hne]
      rfl

end Checked

namespace Framer

/-! ## Checked feeding -/

namespace SingleChunk

/-- `feed` with every range checked; so for each framer below. -/
def feedChecked (f : SingleChunk) (chunk : Bytes) (origin : Option String) :
    Except RangeFault (SingleChunk × Bytes) :=
  match f.chunk with
  | some _ => .ok (f, chunk)
  | none => do
    let rest ← Checked.drop chunk chunk.length
    return (⟨some chunk, firstOrigin f.origin origin⟩, rest)

/-- No range of `feedChecked` is left. -/
theorem feedChecked_eq (f : SingleChunk) (chunk : Bytes) (origin : Option String) :
    f.feedChecked chunk origin = .ok (f.feed chunk origin) := by
  cases hchunk : f.chunk with
  | some _ => simp only [feedChecked, feed, hchunk]
  | none =>
    simp only [feedChecked, feed, hchunk, Checked.drop_length]
    rfl

end SingleChunk

namespace FixedLength

def feedChecked (f : FixedLength) (chunk : Bytes) (origin : Option String) :
    Except RangeFault (FixedLength × Bytes) :=
  if f.isFull then .ok (f, chunk)
  else do
    let wanted ← Checked.sub f.length f.data.length
    let (taken, rest) ← Checked.splitAt chunk (min wanted chunk.length)
    return ({ f with data := f.data ++ taken, origin := firstOrigin f.origin origin }, rest)

/-- What is wanted is a length, as the framer never has too much. -/
theorem feedChecked_eq {f : FixedLength} (h : f.data.length ≤ f.length) (chunk : Bytes)
    (origin : Option String) : f.feedChecked chunk origin = .ok (f.feed chunk origin) := by
  -- The split takes the lesser of two lengths, and so does `take`
  have hsplit : Checked.splitAt chunk (min (f.length - f.data.length) chunk.length) =
      .ok (chunk.take (f.length - f.data.length), chunk.drop (f.length - f.data.length)) := by
    rw [Checked.splitAt_of_le (Nat.min_le_right _ _)]
    rcases Nat.le_total (f.length - f.data.length) chunk.length with hle | hle
    · rw [Nat.min_eq_left hle]
    · rw [Nat.min_eq_right hle, List.take_length, List.drop_length, List.take_of_length_le hle,
        List.drop_of_length_le hle]
  unfold feedChecked feed
  split
  · rfl
  · simp only [Checked.sub_of_le h, bind, Except.bind, hsplit]
    rfl

end FixedLength

namespace Delimited

/-- Seeks the closing marker, as `collect` does. -/
def collectChecked (f : Delimited) (data : Bytes) (scanned : Nat) (chunk : Bytes) :
    Except RangeFault (Phase × Bytes) := do
  let start := max (scanned - (f.closing.length - 1)) f.openingBytes.length
  match ← Checked.find f.caseSensitive f.closing data start with
  | some pos =>
    let frameEnd := pos + f.closing.length
    let behind ← Checked.sub data.length frameEnd
    let front ← Checked.sub chunk.length (min behind chunk.length)
    let rest ← Checked.drop chunk front
    return (.complete (data.take frameEnd), rest)
  | none =>
    let rest ← Checked.drop chunk chunk.length
    return (.collecting data data.length, rest)

/-- Goes on with a chunk, as `advance` does. -/
def advanceChecked (f : Delimited) (chunk : Bytes) : Except RangeFault (Phase × Bytes) :=
  match f.phase with
  | .complete data => .ok (.complete data, chunk)
  | .collecting data scanned => f.collectChecked (data ++ chunk) scanned chunk
  | .seeking tail => do
    let data := tail ++ chunk
    match ← Checked.find f.caseSensitive f.openingBytes data 0 with
    | some pos =>
      let data ← Checked.drop data pos
      f.collectChecked data f.openingBytes.length chunk
    | none =>
      let keep := min (f.openingBytes.length - 1) data.length
      let discard ← Checked.sub data.length keep
      let kept ← Checked.drop data discard
      let rest ← Checked.drop chunk chunk.length
      return (.seeking kept, rest)

def feedChecked (f : Delimited) (chunk : Bytes) (origin : Option String) :
    Except RangeFault (Delimited × Bytes) :=
  if f.isComplete then .ok (f, chunk)
  else do
    let (phase, rest) ← f.advanceChecked chunk
    return ({ f with phase, origin := firstOrigin f.origin origin }, rest)

/-- A marker that is found lies within what was searched, and of that no more than the chunk
    is handed back. -/
theorem collectChecked_eq (f : Delimited) (data : Bytes) (scanned : Nat) (chunk : Bytes) :
    f.collectChecked data scanned chunk = .ok (f.collect data scanned chunk) := by
  unfold collectChecked collect
  dsimp only
  rw [Checked.find_eq]
  cases hfound : Bytes.firstMatchFrom f.caseSensitive f.closing data
      (max (scanned - (f.closing.length - 1)) f.openingBytes.length) with
  -- Both subtractions stay above zero: the marker ends within the data, and the rest is in the
  -- chunk
  | some pos =>
    have hend : pos + f.closing.length ≤ data.length := (Bytes.firstMatchFrom_bounds hfound).2
    have hextra : min (data.length - (pos + f.closing.length)) chunk.length ≤ chunk.length :=
      Nat.min_le_right _ _
    simp only [bind, Except.bind, Checked.sub_of_le hend, Checked.sub_of_le hextra,
      Checked.drop_of_le (Nat.sub_le _ _)]
    rfl
  | none =>
    simp only [bind, Except.bind, Checked.drop_length]
    rfl

/-- `advanceChecked` leaves no range. -/
theorem advanceChecked_eq (f : Delimited) (chunk : Bytes) :
    f.advanceChecked chunk = .ok (f.advance chunk) := by
  unfold advanceChecked advance
  cases f.phase with
  | complete data => rfl
  | collecting data scanned => exact f.collectChecked_eq _ scanned chunk
  | seeking tail =>
    dsimp only
    rw [Checked.find_eq]
    cases hfound : Bytes.firstMatchFrom f.caseSensitive f.openingBytes (tail ++ chunk) 0 with
    -- The marker stands within the bytes, so what lies before it can be dropped
    | some pos =>
      have hpos : pos ≤ (tail ++ chunk).length :=
        Nat.le_trans (Nat.le_add_right _ _) (Bytes.firstMatchFrom_bounds hfound).2
      simp only [bind, Except.bind, Checked.drop_of_le hpos]
      exact f.collectChecked_eq _ _ chunk
    -- No more is kept than there is
    | none =>
      have hkeep : min (f.openingBytes.length - 1) (tail ++ chunk).length ≤
          (tail ++ chunk).length := Nat.min_le_right _ _
      simp only [bind, Except.bind, Checked.sub_of_le hkeep, Checked.drop_of_le (Nat.sub_le _ _),
        Checked.drop_length]
      rfl

/-- No range of `feedChecked` is left, whatever the markers are. -/
theorem feedChecked_eq (f : Delimited) (chunk : Bytes) (origin : Option String) :
    f.feedChecked chunk origin = .ok (f.feed chunk origin) := by
  unfold feedChecked feed
  split
  · rfl
  · rw [advanceChecked_eq]
    rfl

end Delimited

namespace UntilClose

def feedChecked (f : UntilClose) (chunk : Bytes) (origin : Option String) :
    Except RangeFault (UntilClose × Bytes) :=
  if f.closed then .ok (f, chunk)
  else do
    let rest ← Checked.drop chunk chunk.length
    return ({ f with data := f.data ++ chunk, origin := firstOrigin f.origin origin }, rest)

/-- No range of `feedChecked` is left. -/
theorem feedChecked_eq (f : UntilClose) (chunk : Bytes) (origin : Option String) :
    f.feedChecked chunk origin = .ok (f.feed chunk origin) := by
  unfold feedChecked feed
  split
  · rfl
  · rw [Checked.drop_length]
    rfl

end UntilClose

namespace Standard

/-- Feeds any of the library's framers, every operation checked.  The empty frame has none. -/
def feedChecked (f : Standard) (chunk : Bytes) (origin : Option String) :
    Except RangeFault (Standard × Bytes) :=
  match f with
  | .singleChunk f => (f.feedChecked chunk origin).map (Prod.map .singleChunk id)
  | .fixedLength f => (f.feedChecked chunk origin).map (Prod.map .fixedLength id)
  | .delimited f => (f.feedChecked chunk origin).map (Prod.map .delimited id)
  | .noData f => .ok ((Framer.feed f chunk origin).map .noData id)
  | .untilClose f => (f.feedChecked chunk origin).map (Prod.map .untilClose id)

/-- No framer that is `Bounded` leaves a range. -/
theorem feedChecked_eq {f : Standard} (h : f.Bounded) (chunk : Bytes) (origin : Option String) :
    f.feedChecked chunk origin = .ok (Framer.feed f chunk origin) := by
  cases f with
  | singleChunk f => exact congrArg (Except.map _) (f.feedChecked_eq chunk origin)
  | fixedLength f => exact congrArg (Except.map _) (FixedLength.feedChecked_eq h chunk origin)
  | delimited f => exact congrArg (Except.map _) (f.feedChecked_eq chunk origin)
  | noData f => rfl
  | untilClose f => exact congrArg (Except.map _) (f.feedChecked_eq chunk origin)

end Standard

/-! ## Calls -/

/-- What callers do to a framer. -/
inductive Call where
  | feed (chunk : Bytes) (origin : Option String)
  /-- The other side has closed. -/
  | close
  deriving DecidableEq, Repr

/-- The bytes that a call brings. -/
def Call.bytes : Call → Bytes
  | .feed chunk _ => chunk
  | .close => []

section Calls

variable {φ : Type} [Framer φ]

/-- The framer after a call, and what it hands back. -/
def after (f : φ) : Call → φ × Bytes
  | .feed chunk origin => feed f chunk origin
  | .close => ((close f).1, [])

/-- The framer after calls, and all that it has handed back. -/
def run (f : φ) : List Call → φ × Bytes
  | [] => (f, [])
  | call :: calls =>
    let next := after f call
    let rest := run next.1 calls
    (rest.1, next.2 ++ rest.2)

end Calls

namespace Standard

/-- `after` with every range checked. -/
def afterChecked (f : Standard) : Call → Except RangeFault (Standard × Bytes)
  | .feed chunk origin => f.feedChecked chunk origin
  | .close => .ok ((Framer.close f).1, [])

/-- `run` with every range checked. -/
def runChecked (f : Standard) : List Call → Except RangeFault (Standard × Bytes)
  | [] => .ok (f, [])
  | call :: calls => do
    let next ← f.afterChecked call
    let rest ← next.1.runChecked calls
    return (rest.1, next.2 ++ rest.2)

/-- A call keeps a framer `Bounded`. -/
theorem bounded_after {f : Standard} (h : f.Bounded) (call : Call) :
    (after f call).1.Bounded := by
  cases call with
  | feed chunk origin => exact bounded_feed h chunk origin
  | close =>
    cases f with
    | fixedLength f => exact h
    | singleChunk _ | delimited _ | noData _ | untilClose _ => exact trivial

/-- A `run` keeps a framer `Bounded`. -/
theorem bounded_run {f : Standard} (h : f.Bounded) (calls : List Call) :
    (run f calls).1.Bounded := by
  induction calls generalizing f with
  | nil => exact h
  | cons call calls ih => exact ih (bounded_after h call)

/-- A run of a `Bounded` framer leaves no range. -/
theorem runChecked_eq {f : Standard} (h : f.Bounded) (calls : List Call) :
    f.runChecked calls = .ok (run f calls) := by
  induction calls generalizing f with
  | nil => rfl
  | cons call calls ih =>
    have hcall : f.afterChecked call = .ok (after f call) := by
      cases call with
      | feed chunk origin => exact feedChecked_eq h chunk origin
      | close => rfl
    simp only [runChecked, hcall, bind, Except.bind, ih (bounded_after h call)]
    rfl

/-! ## The contract -/

/-- What a framer owes its callers in one state. -/
structure Contract (f : Standard) : Prop where
  /-- No operation of a feeding is out of range. -/
  feed_total : ∀ chunk origin, f.feedChecked chunk origin = .ok (Framer.feed f chunk origin)
  /-- What it hands back is the end of the chunk. -/
  feed_suffix : ∀ chunk origin, (Framer.feed f chunk origin).2 <:+ chunk
  /-- It hands bytes back only once its frame is complete. -/
  complete_of_rest : ∀ chunk origin, (Framer.feed f chunk origin).2 ≠ [] →
    Framer.isComplete (Framer.feed f chunk origin).1 = true
  /-- A complete frame stays complete. -/
  stays_complete : Framer.isComplete f = true →
    ∀ call, Framer.isComplete (after f call).1 = true
  /-- And it stays as it is. -/
  keeps_data : Framer.isComplete f = true →
    ∀ call, (Framer.frame (after f call).1).data = (Framer.frame f).data
  /-- The whole chunk comes back from a complete frame. -/
  feed_complete : Framer.isComplete f = true →
    ∀ chunk origin, (Framer.feed f chunk origin).2 = chunk
  /-- The answer to a close is whether the frame is complete now. -/
  close_eq : (Framer.close f).2 = Framer.isComplete (Framer.close f).1

/-- A complete framer does not see a chunk, but for the empty frame's, which takes its address. -/
theorem feed_eq_of_complete {f : Standard} (h : Framer.isComplete f = true) (chunk : Bytes)
    (origin : Option String) :
    Framer.feed f chunk origin = (f, chunk) ∨ ∃ g, f = .noData g := by
  cases f with
  | singleChunk f =>
    obtain ⟨first, hfirst⟩ := Option.isSome_iff_exists.mp h
    have hfeed : f.feed chunk origin = (f, chunk) := by rw [SingleChunk.feed, hfirst]
    exact .inl (congrArg (Prod.map singleChunk id) hfeed)
  | fixedLength f => exact .inl (congrArg (Prod.map fixedLength id) (if_pos h))
  | delimited f => exact .inl (congrArg (Prod.map delimited id) (if_pos h))
  -- This framer notes the origin even when it is complete
  | noData f => exact .inr ⟨f, rfl⟩
  | untilClose f => exact .inl (congrArg (Prod.map untilClose id) (if_pos h))

/-- A complete frame takes nothing of a chunk. -/
theorem feed_of_complete {f : Standard} (h : Framer.isComplete f = true) (chunk : Bytes)
    (origin : Option String) :
    (Framer.feed f chunk origin).2 = chunk ∧
      Framer.isComplete (Framer.feed f chunk origin).1 = true ∧
      (Framer.frame (Framer.feed f chunk origin).1).data = (Framer.frame f).data := by
  rcases feed_eq_of_complete h chunk origin with hfeed | ⟨g, rfl⟩
  · rw [hfeed]
    exact ⟨rfl, h, rfl⟩
  · exact ⟨rfl, rfl, rfl⟩

/-- A close never changes the data, and leaves a complete frame complete. -/
theorem close_spec (f : Standard) :
    (Framer.close f).2 = Framer.isComplete (Framer.close f).1 ∧
      (Framer.isComplete f = true → Framer.isComplete (Framer.close f).1 = true) ∧
      (Framer.frame (Framer.close f).1).data = (Framer.frame f).data := by
  cases f with
  | singleChunk _ | fixedLength _ | delimited _ | noData _ => exact ⟨rfl, id, rfl⟩
  | untilClose _ => exact ⟨rfl, fun _ => rfl, rfl⟩

/-- The contract holds wherever no frame of a fixed length has too much. -/
theorem contract_of_bounded {f : Standard} (h : f.Bounded) : f.Contract where
  feed_total := feedChecked_eq h
  feed_suffix := LawfulFramer.feed_suffix f
  complete_of_rest _ _ := isComplete_of_bounded h
  -- Neither call takes completeness back, nor moves the data of a complete framer
  stays_complete hdone call := by
    cases call with
    | feed chunk origin => exact (feed_of_complete hdone chunk origin).2.1
    | close => exact f.close_spec.2.1 hdone
  keeps_data hdone call := by
    cases call with
    | feed chunk origin => exact (feed_of_complete hdone chunk origin).2.2
    | close => exact f.close_spec.2.2
  feed_complete hdone chunk origin := (feed_of_complete hdone chunk origin).1
  close_eq := f.close_spec.1

end Standard

/-! ## Frames of a fixed length -/

namespace FixedLength

/-- After a chunk the framer has the first bytes of all that there were, and hands back the
    others. -/
theorem feed_eq {f : FixedLength} (h : f.data.length ≤ f.length) (chunk : Bytes)
    (origin : Option String) :
    ∃ g, f.feed chunk origin = (g, (f.data ++ chunk).drop f.length) ∧ g.length = f.length ∧
      g.data = (f.data ++ chunk).take f.length := by
  unfold feed
  split
  · rename_i hfull
    -- A full framer holds exactly the front, so nothing of the chunk belongs to it
    have hlength : f.data.length = f.length := of_decide_eq_true hfull
    refine ⟨f, ?_, rfl, ?_⟩
    · rw [← hlength, List.drop_left]
    · rw [← hlength, List.take_left]
  · refine ⟨_, Prod.ext rfl ?_, rfl, ?_⟩
    · rw [List.drop_append, List.drop_of_length_le h, List.nil_append]
    · rw [List.take_append, List.take_of_length_le h]

/-- A call puts what still fits into the frame of a `FixedLength`, and hands back the others. -/
theorem after_eq {f : FixedLength} (h : f.data.length ≤ f.length) (call : Call) :
    ∃ g, after (Standard.fixedLength f) call =
        (.fixedLength g, (f.data ++ call.bytes).drop f.length) ∧
      g.length = f.length ∧ g.data = (f.data ++ call.bytes).take f.length := by
  cases call with
  | feed chunk origin =>
    obtain ⟨g, hfeed, hlength, hdata⟩ := feed_eq h chunk origin
    exact ⟨g, congrArg (Prod.map Standard.fixedLength id) hfeed, hlength, hdata⟩
  -- Closing brings no bytes, and there are no more of them than the frame takes
  | close =>
    refine ⟨f, Prod.ext rfl ?_, rfl, ?_⟩
    · rw [Call.bytes, List.append_nil, List.drop_of_length_le h]
      rfl
    · rw [Call.bytes, List.append_nil, List.take_of_length_le h]

/-- Cutting at one place, and then again with more bytes behind, is one cut. -/
theorem take_take_append (n : Nat) (front more : Bytes) :
    (front.take n ++ more).take n = (front ++ more).take n ∧
      front.drop n ++ (front.take n ++ more).drop n = (front ++ more).drop n := by
  have hwanted : n - (front.take n).length = n - front.length := by
    rw [List.length_take]
    omega
  have hnone : (front.take n).drop n = [] := List.drop_of_length_le (List.length_take_le n front)
  constructor
  · rw [List.take_append, List.take_append, hwanted, List.take_take, Nat.min_self]
  · rw [List.drop_append, List.drop_append, hwanted, hnone, List.nil_append]

/-- What a frame of a fixed length has after any calls, and what it has handed back by then:
    of all the bytes that came, the first `length` ones and the others. -/
theorem run_eq {f : FixedLength} (h : f.data.length ≤ f.length) (calls : List Call) :
    ∃ g, run (Standard.fixedLength f) calls =
        (.fixedLength g, (f.data ++ calls.flatMap Call.bytes).drop f.length) ∧
      g.length = f.length ∧ g.data = (f.data ++ calls.flatMap Call.bytes).take f.length := by
  induction calls generalizing f with
  | nil =>
    refine ⟨f, Prod.ext rfl ?_, rfl, ?_⟩
    · rw [List.flatMap_nil, List.append_nil, List.drop_of_length_le h]
      rfl
    · rw [List.flatMap_nil, List.append_nil, List.take_of_length_le h]
  | cons call calls ih =>
    obtain ⟨f₁, hcall, hlength, hdata⟩ := after_eq h call
    have hbound : f₁.data.length ≤ f₁.length := by
      rw [hdata, hlength]
      exact List.length_take_le _ _
    obtain ⟨g, hrun, hglength, hgdata⟩ := ih hbound
    -- Cutting off after the call and again after the others is cutting off once
    obtain ⟨htake, hdrop⟩ :=
      take_take_append f.length (f.data ++ call.bytes) (calls.flatMap Call.bytes)
    rw [hdata, hlength] at hgdata hrun
    refine ⟨g, ?_, hglength.trans hlength, ?_⟩
    · rw [run, hcall, hrun, List.flatMap_cons, ← List.append_assoc, ← hdrop]
    · rw [hgdata, List.flatMap_cons, ← List.append_assoc, htake]

end FixedLength

/-! ## Any calls on a framer that was started -/

/-- However a framer that was started is fed, and whenever it is told of a close: every
    operation on the way was in range, and the state that it has come to keeps the contract.
    A frame of a fixed length has the first bytes of all that came, has handed back the others,
    and is complete exactly when it has all its bytes. -/
theorem Standard.contract_run {f : Standard} (hfresh : f.IsFresh) (calls : List Call) :
    f.runChecked calls = .ok (run f calls) ∧ (run f calls).1.Contract ∧
    ∀ n, f = .fixedLength (.start n) →
      (frame (run f calls).1).data = (calls.flatMap Call.bytes).take n ∧
      (run f calls).2 = (calls.flatMap Call.bytes).drop n ∧
      (frame (run f calls).1).data.length ≤ n ∧
      (isComplete (run f calls).1 = true ↔ (frame (run f calls).1).data.length = n) := by
  have hbounded := hfresh.bounded
  refine ⟨runChecked_eq hbounded calls, contract_of_bounded (bounded_run hbounded calls), ?_⟩
  -- What is said of `FixedLength` alone
  rintro n rfl
  obtain ⟨g, hrun, hlength, hdata⟩ := FixedLength.run_eq (f := .start n) (Nat.zero_le n) calls
  rw [hrun]
  refine ⟨hdata, rfl, ?_, ?_⟩
  · show g.data.length ≤ n
    rw [hdata]
    exact List.length_take_le _ _
  · show decide (g.data.length = g.length) = true ↔ g.data.length = n
    rw [hlength]
    exact decide_eq_true_iff

/-- A frame of three bytes, from two chunks with a close in between. -/
theorem Standard.contract_run_parted :
    let f : Standard := .fixedLength (.start 3)
    let calls : List Call := [.feed [1, 2] none, .close, .feed [3, 4] (some "peer")]
    f.IsFresh ∧ f.runChecked calls = .ok (run f calls) ∧ (run f calls).1.Contract ∧
      (frame (run f calls).1).data = [1, 2, 3] ∧ (run f calls).2 = [4] ∧
      isComplete (run f calls).1 = true := by
  intro f calls
  have hfresh : f.IsFresh := .fixedLength 3
  obtain ⟨hchecked, hcontract, hfixed⟩ := contract_run hfresh calls
  obtain ⟨hdata, hrest, _, hdone⟩ := hfixed 3 rfl
  exact ⟨hfresh, hchecked, hcontract, hdata, hrest, hdone.mpr (congrArg List.length hdata)⟩

end Framer

end FrameSocket
