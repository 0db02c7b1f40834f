import FrameSocket.Framer.Standard
import FrameSocket.Proofs.Recording

/-!
# Framers that take all until their frame is complete

A client goes on receiving for a framer that is not complete.  If the framer has handed
bytes back by then, these wait while newer ones are fed.  A greedy framer never does so:
however it is fed, it hands bytes back only once its frame is complete.  That is a
property of the framer as it stands, as some framers have it only in the states that they
can come to.

## Key results

- `IsGreedy.of_invariant`: an invariant that is kept by feeding is enough
- `IsGreedy.of_view`: a framer is greedy if its view is
- `Standard.IsFresh.isGreedy`: the library's own framers are greedy from their start on
-/

namespace FrameSocket.Framer

variable {φ ψ : Type} [Framer φ] [Framer ψ]

/-- However the framer is fed from here on, it hands bytes back only once its frame is
    complete. -/
def IsGreedy (f : φ) : Prop :=
  ∀ (chunks : List (Bytes × Option String)) (chunk : Bytes) (origin : Option String),
    (feed (feedAll f chunks).1 chunk origin).2 ≠ [] →
      isComplete (feed (feedAll f chunks).1 chunk origin).1 = true

namespace IsGreedy

variable {f : φ}

/-- It stays so when it is fed. -/
theorem feed (h : IsGreedy f) (chunk : Bytes) (origin : Option String) :
    IsGreedy (Framer.feed f chunk origin).1 :=
  fun chunks => h ((chunk, origin) :: chunks)

/-- As long as its frame is not complete, it has taken all. -/
theorem rest_eq_nil (h : IsGreedy f) {chunk : Bytes} {origin : Option String}
    (hopen : isComplete (Framer.feed f chunk origin).1 = false) :
    (Framer.feed f chunk origin).2 = [] := by
  by_cases hrest : (Framer.feed f chunk origin).2 = []
  · exact hrest
  · have hdone : isComplete (Framer.feed f chunk origin).1 = true := h [] chunk origin hrest
    exact absurd (hopen.symm.trans hdone) Bool.false_ne_true

/-- What feeding keeps holds however the framer is fed. -/
theorem of_invariant {P : φ → Prop} (hf : P f)
    (hfeed : ∀ g chunk origin, P g → P (Framer.feed g chunk origin).1)
    (hrest : ∀ g chunk origin, P g → (Framer.feed g chunk origin).2 ≠ [] →
      isComplete (Framer.feed g chunk origin).1 = true) : IsGreedy f := by
  intro chunks chunk origin
  apply hrest
  induction chunks generalizing f with
  | nil => exact hf
  | cons x chunks ih => exact ih (hfeed f x.1 x.2 hf)

/-- Forgetting what a framer has on record changes nothing. -/
theorem of_view {h : ψ → φ} (hh : IsView h) {g : ψ} (hg : IsGreedy (h g)) : IsGreedy g := by
  -- A framer and its view go through the same chunks
  have hfeedAll : ∀ (chunks : List (Bytes × Option String)) (g : ψ),
      h (feedAll g chunks).1 = (feedAll (h g) chunks).1 := by
    intro chunks
    induction chunks with
    | nil => exact fun _ => rfl
    | cons x chunks ih =>
      intro g
      simp only [feedAll, hh.feed_view]
      exact ih _
  intro chunks chunk origin hrest
  have hdone := hg chunks chunk origin
  rw [← hfeedAll, hh.feed_view] at hdone
  rw [← hh.isComplete_view]
  exact hdone hrest

end IsGreedy

/-! ## The library's own framers -/

/-- The search for the closing marker hands bytes back only from behind it. -/
theorem Delimited.collect_of_rest_ne_nil {f : Delimited} {data chunk : Bytes} {scanned : Nat}
    (h : (f.collect data scanned chunk).2 ≠ []) :
    ∃ frame, (f.collect data scanned chunk).1 = .complete frame := by
  unfold collect at h ⊢
  dsimp only at h ⊢
  split
  · exact ⟨_, rfl⟩
  · rename_i hnone
    rw [hnone] at h
    exact absurd rfl h

/-- What `advance` hands back lies behind a complete frame. -/
theorem Delimited.advance_of_rest_ne_nil {f : Delimited} {chunk : Bytes}
    (h : (f.advance chunk).2 ≠ []) : ∃ frame, (f.advance chunk).1 = .complete frame := by
  unfold advance at h ⊢
  split
  · exact ⟨_, rfl⟩
  · rename_i data scanned hphase
    rw [hphase] at h
    exact collect_of_rest_ne_nil h
  · rename_i tail hphase
    rw [hphase] at h
    dsimp only at h ⊢
    split
    · rename_i pos hpos
      rw [hpos] at h
      exact collect_of_rest_ne_nil h
    · -- no start marker: all the bytes are kept or dropped
      rename_i hnone
      rw [hnone] at h
      exact absurd rfl h

instance : GreedyFramer Delimited where
  complete_of_rest f chunk origin h := by
    change (f.feed chunk origin).2 ≠ [] at h
    show (f.feed chunk origin).1.isComplete = true
    unfold Delimited.feed at h ⊢
    split
    · assumption
    · rename_i hopen
      rw [if_neg hopen] at h
      obtain ⟨frame, hframe⟩ := Delimited.advance_of_rest_ne_nil h
      simp only [Delimited.isComplete, hframe]

namespace FixedLength

/-- A framer that was started never has more than it was started for. -/
theorem length_feed_le {f : FixedLength} (h : f.data.length ≤ f.length) (chunk : Bytes)
    (origin : Option String) :
    (f.feed chunk origin).1.data.length ≤ (f.feed chunk origin).1.length := by
  unfold feed
  split
  · exact h
  · rw [List.length_append, List.length_take]
    show _ ≤ f.length
    omega

/-- It hands bytes back only when it is full. -/
theorem isFull_feed {f : FixedLength} (h : f.data.length ≤ f.length) {chunk : Bytes}
    {origin : Option String} (hrest : (f.feed chunk origin).2 ≠ []) :
    (f.feed chunk origin).1.isFull = true := by
  unfold feed at hrest ⊢
  split
  · assumption
  · rename_i hopen
    rw [if_neg hopen] at hrest
    -- Something is handed back, so the chunk is longer than what was missing
    have hmore : f.length - f.data.length < chunk.length :=
      Nat.lt_of_not_le fun hle => hrest (List.drop_of_length_le hle)
    show decide ((f.data ++ chunk.take _).length = f.length) = true
    apply decide_eq_true
    rw [List.length_append, List.length_take]
    omega

end FixedLength

namespace Standard

/-- A framer as it was started. -/
inductive IsFresh : Standard → Prop
  | singleChunk : IsFresh (.singleChunk .start)
  | fixedLength (length : Nat) : IsFresh (.fixedLength (.start length))
  | delimited (opening : Option Bytes) (closing : Bytes) (caseSensitive : Bool) :
      IsFresh (.delimited (.start opening closing caseSensitive))
  | noData : IsFresh (.noData .start)
  | untilClose : IsFresh (.untilClose .start)

/-- What holds of a framer that was started: none of a fixed length has too much. -/
def Bounded : Standard → Prop
  | .fixedLength f => f.data.length ≤ f.length
  | _ => True

/-- `feed` keeps a framer `Bounded`. -/
theorem bounded_feed {f : Standard} (h : f.Bounded) (chunk : Bytes) (origin : Option String) :
    (Framer.feed f chunk origin).1.Bounded := by
  cases f with
  | fixedLength f => exact f.length_feed_le h chunk origin
  | singleChunk _ | delimited _ | noData _ | untilClose _ => exact trivial

/-- What a `Bounded` framer hands back lies behind a complete frame. -/
theorem isComplete_of_bounded {f : Standard} (h : f.Bounded) {chunk : Bytes}
    {origin : Option String} (hrest : (Framer.feed f chunk origin).2 ≠ []) :
    Framer.isComplete (Framer.feed f chunk origin).1 = true := by
  cases f with
  | fixedLength f => exact FixedLength.isFull_feed h hrest
  | singleChunk f => exact GreedyFramer.complete_of_rest f chunk origin hrest
  | delimited f => exact GreedyFramer.complete_of_rest f chunk origin hrest
  | noData f => exact GreedyFramer.complete_of_rest f chunk origin hrest
  | untilClose f => exact GreedyFramer.complete_of_rest f chunk origin hrest

/-- A fresh framer is `Bounded`. -/
theorem IsFresh.bounded {f : Standard} (h : f.IsFresh) : f.Bounded := by
  cases h with
  | fixedLength n => exact Nat.zero_le n
  | singleChunk | delimited _ _ _ | noData | untilClose => exact trivial

/-- Among the library's own framers, one that does not have too much is greedy. -/
theorem isGreedy_of_bounded {f : Standard} (h : f.Bounded) : IsGreedy f :=
  .of_invariant h (fun _ chunk origin hg => bounded_feed hg chunk origin)
    fun _ _ _ hg hrest => isComplete_of_bounded hg hrest

/-- The library's own framers are greedy from their start on. -/
theorem IsFresh.isGreedy {f : Standard} (h : f.IsFresh) : IsGreedy f :=
  isGreedy_of_bounded h.bounded

end Standard

end FrameSocket.Framer
