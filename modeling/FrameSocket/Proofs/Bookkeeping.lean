import FrameSocket.Client.Stream

/-!
# Keeping the books

Much of what a client does makes no call and moves no byte: it keeps the books of budgets
and watchdogs.  All that this may change is what `Booked` allows.

## Key results

- `Booked.trackReceive` / `Booked.trackSend`: telling a watchdog
- `Booked.stalled` / `Booked.writeOutcome`: deciding what a write comes to
- `socket_replay` / `socket_of_fed`: feeding a framer makes no call
- `exists_unsupported_of_checkChannel`: what a transport does not have is refused as such
-/

namespace FrameSocket.Client

/-- From `c` to `c'` only budgets and watchdogs changed. -/
structure Booked {σ : Type} (c c' : Client σ) : Prop where
  socket : c'.socket = c.socket
  connection : c'.connection = c.connection
  wasConnected : c'.wasConnected = c.wasConnected
  leftovers : c'.leftovers = c.leftovers
  remote : c'.remote = c.remote
  bufferSize : c'.bufferSize = c.bufferSize

namespace Booked

section Books

variable {σ : Type} {c c' c'' : Client σ}

/-- Doing nothing is `Booked`. -/
theorem refl (c : Client σ) : Booked c c := ⟨rfl, rfl, rfl, rfl, rfl, rfl⟩

/-- `Booked` steps can be taken one after the other. -/
theorem trans (h : Booked c c') (h' : Booked c' c'') : Booked c c'' where
  socket := h'.socket.trans h.socket
  connection := h'.connection.trans h.connection
  wasConnected := h'.wasConnected.trans h.wasConnected
  leftovers := h'.leftovers.trans h.leftovers
  remote := h'.remote.trans h.remote
  bufferSize := h'.bufferSize.trans h.bufferSize

/-- `anchorReceive` is `Booked`; so are the other operations on counters and watchdogs. -/
theorem anchorReceive (c : Client σ) (now : Duration) : Booked c (c.anchorReceive now) :=
  ⟨rfl, rfl, rfl, rfl, rfl, rfl⟩

theorem anchorSend (c : Client σ) (now : Duration) : Booked c (c.anchorSend now) :=
  ⟨rfl, rfl, rfl, rfl, rfl, rfl⟩

theorem refillReads (c : Client σ) : Booked c c.refillReads := ⟨rfl, rfl, rfl, rfl, rfl, rfl⟩

theorem refillWrites (c : Client σ) : Booked c c.refillWrites := ⟨rfl, rfl, rfl, rfl, rfl, rfl⟩

theorem finishRead (c : Client σ) : Booked c c.finishRead := ⟨rfl, rfl, rfl, rfl, rfl, rfl⟩

theorem finishSend (c : Client σ) : Booked c c.finishSend := ⟨rfl, rfl, rfl, rfl, rfl, rfl⟩

/-- `dryRead` is `Booked`, whether or not an attempt is left. -/
theorem dryRead (c : Client σ) : Booked c c.dryRead := by
  unfold Client.dryRead
  split <;> exact ⟨rfl, rfl, rfl, rfl, rfl, rfl⟩

/-- `trackReceive` is `Booked`, whether or not it raises an alarm. -/
theorem trackReceive {now : Duration} {bytes : Nat} {answer : Except NetworkError Unit}
    (h : c.trackReceive now bytes = (answer, c')) : Booked c c' := by
  have hc' : (c.trackReceive now bytes).2 = c' := congrArg Prod.snd h
  rw [← hc', Client.trackReceive]
  split
  · exact refl c
  · dsimp only
    split <;> exact ⟨rfl, rfl, rfl, rfl, rfl, rfl⟩

/-- `trackSend` is `Booked`, whether or not it raises an alarm. -/
theorem trackSend {now : Duration} {bytes : Nat} {answer : Except NetworkError Unit}
    (h : c.trackSend now bytes = (answer, c')) : Booked c c' := by
  have hc' : (c.trackSend now bytes).2 = c' := congrArg Prod.snd h
  rw [← hc', Client.trackSend]
  split
  · exact refl c
  · dsimp only
    split <;> exact ⟨rfl, rfl, rfl, rfl, rfl, rfl⟩

variable [Endpoint σ]

/-- `stalled` is `Booked`, whether or not an attempt is left. -/
theorem stalled (c : Client σ) (reason : String) : Booked c (c.stalled reason).2 := by
  unfold Client.stalled
  dsimp only
  split <;> exact ⟨rfl, rfl, rfl, rfl, rfl, rfl⟩

/-- `writeOutcome` is `Booked`. -/
theorem writeOutcome (c : Client σ) (written length : Nat) :
    Booked c (c.writeOutcome written length).2 := by
  unfold Client.writeOutcome
  split
  · exact finishSend c
  · split
    · exact stalled c _
    · exact refl c

end Books

end Booked

/-! ## What makes no call -/

section Sockets

variable {σ φ : Type} [Endpoint σ] [Framer φ]

omit [Endpoint σ] in
/-- `replay` leaves the socket as it is. -/
theorem socket_replay (c : Client σ) (f : φ) (ch : Channel) :
    (c.replay f ch).1.socket = c.socket := by
  unfold replay
  split
  · rfl
  · exact socket_keep _ ch _ _

/-- `receiveError` leaves the socket as it is. -/
theorem socket_receiveError (c : Client σ) (e : IoError) :
    (c.receiveError e).2.socket = c.socket := by
  unfold receiveError
  split <;> rfl

/-- `sendError` leaves the socket as it is. -/
theorem socket_sendError (c : Client σ) (e : IoError) :
    (c.sendError e).2.socket = c.socket := by
  unfold sendError
  split <;> rfl

/-- `readOutcome` leaves the socket as it is. -/
theorem socket_readOutcome (r : Reception σ φ) :
    (readOutcome r).1.2.socket = r.client.socket := by
  unfold readOutcome
  split
  · rfl
  · dsimp only
    split
    · rfl
    · split
      · split <;> rfl
      · split <;> rfl

omit [Endpoint σ] in
/-- Neither the framer that is fed nor the watchdog that is told makes a call. -/
theorem socket_of_fed {c c₁ c₂ : Client σ} {f f₁ : φ} {ch : Channel} {data : Bytes}
    {origin : Option String} {now : Duration} {bytes : Nat} {tracked : Except NetworkError Unit}
    (hfeed : c.feed f ch data origin = (c₁, f₁))
    (htrack : c₁.trackReceive now bytes = (tracked, c₂)) : c₂.socket = c.socket := by
  have hc₁ : (c.feed f ch data origin).1 = c₁ := congrArg Prod.fst hfeed
  rw [(Booked.trackReceive htrack).socket, ← hc₁]
  exact socket_feed c f ch data origin

end Sockets

/-! ## What is refused without a call -/

section Checks

variable {σ : Type} [Endpoint σ]

/-- All that `checkChannel` answers is that something is not supported. -/
theorem exists_unsupported_of_checkChannel {c : Client σ} {ch : Channel} {e : NetworkError}
    (h : c.checkChannel ch = .error e) : ∃ what, e = .unsupported what := by
  unfold checkChannel at h
  split at h
  · exact nomatch h
  · dsimp only at h
    split at h
    · exact nomatch h
    · cases h
      exact ⟨_, rfl⟩

omit [Endpoint σ] in
/-- All that `checkUrgentSize` answers is that something is not supported. -/
theorem exists_unsupported_of_checkUrgentSize {c : Client σ} {ch : Channel} {data : Bytes}
    {e : NetworkError} (h : c.checkUrgentSize ch data = .error e) :
    ∃ what, e = .unsupported what := by
  unfold checkUrgentSize at h
  split at h
  · cases h
    exact ⟨_, rfl⟩
  · exact nomatch h

/-- So a write that a check refuses fails with `NetworkError.unsupported`, whichever check it is. -/
theorem exists_unsupported_of_refused {c : Client σ} {ch : Channel} {data : Bytes}
    {e : NetworkError} (h : c.checkChannel ch = .error e ∨ c.checkUrgentSize ch data = .error e) :
    ∃ what, e = .unsupported what :=
  h.elim exists_unsupported_of_checkChannel exists_unsupported_of_checkUrgentSize

end Checks

end FrameSocket.Client
