import FrameSocket.Proofs.AlarmTimes
import FrameSocket.Proofs.Loops

/-!
# What a write keeps

A write makes sending calls and keeps the books of them, and that is all it does: beyond
the socket it touches the write attempts and the watchdog of sending, whose limits stay as
they are, and the connection if a call fails.  So a relation between clients that holds over
each of these changes holds over a whole write, however its loops go.  A stream client finds
out first whether its connection stands, and that is left to the caller.

## Key results

- `KeptByWriting.sendAll` / `KeptByWriting.sendDatagram`: what the loops keep
- `KeptByWriting.writeStream_of_ensured`: what a write keeps over a connection that stands
- `KeptByWriting.writeStream` / `KeptByWriting.writeDatagram`: what a write keeps
-/

namespace FrameSocket.Client

variable {σ : Type} [Endpoint σ]

/-- The relation holds over each change that a write makes to a client. -/
structure KeptByWriting (R : Client σ → Client σ → Prop) : Prop where
  trans : ∀ {c c' c'' : Client σ}, R c c' → R c' c'' → R c c''
  /-- The books of sending are kept, by a watchdog of the same limits. -/
  books : ∀ (c : Client σ) (attempts : Nat) (watch : Option (Watchdog Float)),
    watch.map Watchdog.limits = c.sendWatch.map Watchdog.limits →
      R c { c with writeAttempts := attempts, sendWatch := watch }
  send : ∀ {c : Client σ} {ch : Channel} {data : Bytes} {answer : Except IoError Nat} {s : σ},
    Endpoint.send c.socket ch data = (answer, s) → R c { c with socket := s }
  /-- A sending call fails, perhaps because the other side is gone. -/
  failed : ∀ {c : Client σ} {ch : Channel} {data : Bytes} {e : IoError} {s : σ},
    Endpoint.send c.socket ch data = (.error e, s) → R c ({ c with socket := s }.sendError e).2

namespace KeptByWriting

variable {R : Client σ → Client σ → Prop}

/-- Doing nothing keeps what writing keeps. -/
theorem refl (h : KeptByWriting R) (c : Client σ) : R c c :=
  h.books c c.writeAttempts c.sendWatch rfl

/-! ## Books -/

/-- Writing keeps it when the window is opened; and so on, for each thing that a write does. -/
theorem anchorSend (h : KeptByWriting R) (c : Client σ) (now : Duration) :
    R c (c.anchorSend now) := by
  refine h.books c c.writeAttempts _ ?_
  unfold anchored
  rw [Option.map_map]
  congr 1
  funext d
  show (if d.isStarted then d else (d.sample (c.elapsed now) 0).1).limits = d.limits
  split
  · rfl
  · exact d.limits_sample _ _

theorem refillWrites (h : KeptByWriting R) (c : Client σ) : R c c.refillWrites :=
  h.books c _ c.sendWatch rfl

theorem finishSend (h : KeptByWriting R) (c : Client σ) : R c c.finishSend :=
  h.books c _ _ (by rw [Option.map_map]; rfl)

/-- `trackSend` keeps it, whether or not it raises an alarm. -/
theorem trackSend (h : KeptByWriting R) {c c' : Client σ} {now : Duration} {bytes : Nat}
    {answer : Except NetworkError Unit} (htrack : c.trackSend now bytes = (answer, c')) :
    R c c' := by
  obtain rfl : _ = c' := congrArg Prod.snd htrack
  unfold Client.trackSend
  split
  · exact h.refl c
  · rename_i d hwatch
    -- A sample moves the window, and leaves the limits
    have hlimits : (some (d.sample (c.elapsed now) bytes).1).map Watchdog.limits =
        c.sendWatch.map Watchdog.limits := by
      rw [hwatch]
      exact congrArg some (d.limits_sample _ _)
    dsimp only
    split <;> exact h.books c c.writeAttempts _ hlimits

/-- `stalled` keeps it, whether or not an attempt is left. -/
theorem stalled (h : KeptByWriting R) (c : Client σ) (reason : String) :
    R c (c.stalled reason).2 := by
  unfold Client.stalled
  dsimp only
  split <;> exact h.books c _ c.sendWatch rfl

/-- `writeOutcome` keeps it. -/
theorem writeOutcome (h : KeptByWriting R) (c : Client σ) (written length : Nat) :
    R c (c.writeOutcome written length).2 := by
  unfold Client.writeOutcome
  split
  · exact h.finishSend c
  · split
    · exact h.stalled c _
    · exact h.refl c

/-! ## Loops -/

/-- `probe` keeps it. -/
theorem probe (h : KeptByWriting R) (c : Client σ) : R c c.probe.2 := by
  unfold Client.probe
  split
  · rename_i hsend
    exact h.send hsend
  · rename_i e s hsend
    split
    · exact h.send hsend
    · exact h.failed hsend

/-- `sendUrgent` keeps it, byte by byte. -/
theorem sendUrgent (h : KeptByWriting R) (c : Client σ) (sent : Nat) (data : Bytes) :
    R c (c.sendUrgent sent data).2 := by
  fun_induction Client.sendUrgent c sent data with
  | case1 c sent => exact h.refl c
  | case2 c sent b rest s hsend => exact h.send hsend
  | case3 c sent b rest n s hn hsend ih => exact h.trans (h.send hsend) ih
  | case4 c sent b rest e s hsend hblocked => exact h.send hsend
  | case5 c sent b rest e s hsend hblocked => exact h.failed hsend

/-- `sendAll` keeps it, send by send. -/
theorem sendAll (h : KeptByWriting R) (c : Client σ) (now : Clock) (written : Nat)
    (data : Bytes) : R c (c.sendAll now written data).2 := by
  -- What was sent refills the budget, and the watchdog is told of it.
  have htracked : ∀ {c c' : Client σ} {now : Duration} {data : Bytes}
      {answer : Except IoError Nat} {s : σ} {n : Nat} {told : Except NetworkError Unit},
      Endpoint.send c.socket .regular data = (answer, s) →
        { c with socket := s }.refillWrites.trackSend now n = (told, c') → R c c' :=
    fun hsend htrack => h.trans (h.trans (h.send hsend) (h.refillWrites _)) (h.trackSend htrack)
  fun_induction Client.sendAll c now written data with
  | case1 c now written => exact h.refl c
  | case2 c now written b rest s hsend => exact h.send hsend
  | case3 c now written b rest n s hsend e c' htrack => exact htracked hsend htrack
  | case4 c now written b rest n s hsend c' htrack ih =>
    exact h.trans (htracked hsend htrack) ih
  | case5 c now written b rest e s hsend hblocked => exact h.send hsend
  | case6 c now written b rest e s hsend hblocked hi ih => exact h.trans (h.send hsend) ih
  | case7 c now written b rest e s hsend hblocked hi => exact h.failed hsend

/-- `sendDatagram` keeps it, however often it is interrupted. -/
theorem sendDatagram (h : KeptByWriting R) (c : Client σ) (now : Duration) (data : Bytes) :
    R c (c.sendDatagram now data).2 := by
  fun_induction Client.sendDatagram c now data with
  | case1 c sent s hsend c₁ hsent e c₂ htrack => exact h.trans (h.send hsend) (h.trackSend htrack)
  | case2 c sent s hsend c₁ hsent c₂ htrack =>
    exact h.trans (h.trans (h.send hsend) (h.trackSend htrack)) (h.finishSend c₂)
  | case3 c sent s hsend c₁ hsent => exact h.trans (h.send hsend) (h.stalled c₁ _)
  | case4 c e s hsend c' hblocked => exact h.trans (h.send hsend) (h.stalled c' _)
  | case5 c e s hsend c' hblocked hi ih => exact h.trans (h.send hsend) ih
  | case6 c e s hsend c' hblocked hi => exact h.failed hsend

/-! ## Writes -/

/-- A write that has found its connection standing goes on over it. -/
theorem writeStream_of_ensured (h : KeptByWriting R) {c c' : Client σ} {now : Clock}
    {data : Bytes} {ch : Channel} (hchannel : c.checkChannel ch = .ok ())
    (hsize : c.checkUrgentSize ch data = .ok ())
    (hensured : c.ensureConnected now.first = (.ok true, c')) :
    R c' (c.writeStream now data ch).2 := by
  have hanchored : R c' (c'.anchorSend now.first) := h.anchorSend c' now.first
  simp only [Client.writeStream, hchannel, hsize, hensured]
  split
  · -- the urgent channel
    have hsent := h.trans hanchored (h.sendUrgent _ 0 data)
    split
    · rename_i hsend
      rw [hsend] at hsent
      exact hsent
    · rename_i hsend
      rw [hsend] at hsent
      split
      · rename_i htrack
        exact h.trans hsent (h.trackSend htrack)
      · rename_i htrack
        exact h.trans hsent (h.trackSend htrack)
  · -- the regular channel
    split
    · exact h.trans hanchored (h.probe _)
    · have hsent := h.trans hanchored (h.sendAll _ now.later 0 data)
      split
      · rename_i hsend
        rw [hsend] at hsent
        exact hsent
      · rename_i hsend
        rw [hsend] at hsent
        exact h.trans hsent (h.writeOutcome _ _ _)

/-- A write is refused at once, or goes on from where the client has found out whether its
    connection stands. -/
theorem writeStream (h : KeptByWriting R) (c : Client σ) (now : Clock) (data : Bytes)
    (ch : Channel) : (c.writeStream now data ch).2 = c ∨
      R (c.ensureConnected now.first).2 (c.writeStream now data ch).2 := by
  cases hchannel : c.checkChannel ch with
  | error e =>
    left
    simp only [Client.writeStream, hchannel]
  | ok =>
    cases hsize : c.checkUrgentSize ch data with
    | error e =>
      left
      simp only [Client.writeStream, hchannel, hsize]
    | ok =>
      right
      rcases hensured : c.ensureConnected now.first with ⟨answer, c'⟩
      -- Without a connection nothing is written
      rcases answer with e | _ | _
      · simp only [Client.writeStream, hchannel, hsize, hensured]
        exact h.refl c'
      · simp only [Client.writeStream, hchannel, hsize, hensured]
        exact h.refl c'
      · exact h.writeStream_of_ensured hchannel hsize hensured

/-- A write of a datagram keeps it. -/
theorem writeDatagram (h : KeptByWriting R) (c : Client σ) (now : Clock) (data : Bytes)
    (ch : Channel) : R c (c.writeDatagram now data ch).2 := by
  unfold Client.writeDatagram
  split
  · exact h.refl c
  · dsimp only
    split
    · exact h.refl c
    · exact h.trans (h.anchorSend c now.first) (h.sendDatagram _ now.later.first data)

end KeptByWriting

end FrameSocket.Client
