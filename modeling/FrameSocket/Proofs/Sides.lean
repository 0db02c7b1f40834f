import FrameSocket.Client
import FrameSocket.Proofs.Writing

/-!
# The two sides of a client

A client keeps books of its receiving and books of its sending.  A read writes into the
former only, and a write into the latter only, whatever they come to.

## Key results

- `sendBooks_read`: what a read leaves alone
- `receiveBooks_write`: what a write leaves alone
-/

namespace FrameSocket

/-- What a client keeps of its receiving. -/
structure ReceiveBooks where
  /-- Read attempts in a full budget. -/
  limit : Nat
  /-- Read attempts left. -/
  attempts : Nat
  /-- Dry reads in a row, of which the second costs an attempt. -/
  streak : Nat

/-- What a client keeps of its sending. -/
structure SendBooks where
  /-- Write attempts in a full budget. -/
  limit : Nat
  /-- Write attempts left. -/
  attempts : Nat
  watch : Option (Watchdog Float)

namespace Client

variable {σ φ : Type} [Endpoint σ] [Framer φ]

/-- The books of reading. -/
def receiveBooks (c : Client σ) : ReceiveBooks :=
  ⟨c.config.readAttempts, c.readAttempts, c.dryReads⟩

/-- The books of sending. -/
def sendBooks (c : Client σ) : SendBooks :=
  ⟨c.config.writeAttempts, c.writeAttempts, c.sendWatch⟩

/-! ## Finding the connection -/

/-- A client stays as old as it is while it looks for its connection. -/
theorem createdAt_ensureConnected {c c' : Client σ} {now : Duration}
    {answer : Except NetworkError Bool} (h : c.ensureConnected now = (answer, c')) :
    c'.createdAt = c.createdAt := by
  cases finds_ensureConnected h <;> rfl

/-- Finding the connection writes into no books. -/
theorem books_ensureConnected {c c' : Client σ} {now : Duration}
    {answer : Except NetworkError Bool} (h : c.ensureConnected now = (answer, c')) :
    c'.receiveBooks = c.receiveBooks ∧ c'.sendBooks = c.sendBooks := by
  cases finds_ensureConnected h with
  | stands _ | gone _ _ | named _ _ _ | unreachable _ _ _ | unanswered _ _ _ _ | failed _ _ _ _
  | late _ _ _ _ _ | waiting _ _ _ _ _ => exact ⟨rfl, rfl⟩

/-- So it leaves the watchdog of sending as it is. -/
theorem sendWatch_ensureConnected {c c' : Client σ} {now : Duration}
    {answer : Except NetworkError Bool} (h : c.ensureConnected now = (answer, c')) :
    c'.sendWatch = c.sendWatch :=
  congrArg SendBooks.watch (books_ensureConnected h).2

/-- Where the connection is not found, it was refused or lost, or a call failed.  What is true
    of none of these errors is not true of this one. -/
theorem error_of_ensureConnected {c c' : Client σ} {now : Duration} {e : NetworkError}
    (h : c.ensureConnected now = (.error e, c')) {p : NetworkError → Bool}
    (hrefused : ∀ address reason, p (.connectionRefused address reason) = false)
    (hlost : ∀ address, p (.connectionLost address) = false)
    (hio : ∀ source, p (.io source) = false) : p e = false := by
  cases finds_ensureConnected h with
  | gone _ _ => exact hlost _
  | unanswered _ _ _ _ => exact hio _
  | unreachable _ _ _ | failed _ _ _ _ | late _ _ _ _ _ => exact hrefused _ _

/-! ## What a read leaves alone -/

section Reads

variable {c c' : Client σ}

omit [Endpoint σ] in
/-- `keep` leaves the books of sending as they are. -/
theorem sendBooks_keep (c : Client σ) (ch : Channel) (rest : Bytes) (origin : Option String) :
    (c.keep ch rest origin).sendBooks = c.sendBooks := by
  unfold keep
  split <;> rfl

omit [Endpoint σ] in
/-- `replay` leaves the books of sending as they are. -/
theorem sendBooks_replay (c : Client σ) (f : φ) (ch : Channel) :
    (c.replay f ch).1.sendBooks = c.sendBooks := by
  unfold replay
  split
  · rfl
  · exact sendBooks_keep _ _ _ _

omit [Endpoint σ] in
/-- `trackReceive` leaves the books of sending as they are. -/
theorem sendBooks_trackReceive (c : Client σ) (now : Duration) (bytes : Nat) :
    (c.trackReceive now bytes).2.sendBooks = c.sendBooks := by
  unfold trackReceive
  split
  · rfl
  · dsimp only
    split <;> rfl

/-- `receiveError` leaves the books of sending as they are. -/
theorem sendBooks_receiveError (c : Client σ) (e : IoError) :
    (c.receiveError e).2.sendBooks = c.sendBooks := by
  unfold receiveError
  split <;> rfl

omit [Endpoint σ] in
/-- `dryRead` leaves the books of sending as they are. -/
theorem sendBooks_dryRead (c : Client σ) : c.dryRead.sendBooks = c.sendBooks := by
  unfold dryRead
  split <;> rfl

omit [Endpoint σ] in
/-- A framer is fed what came, and the watchdog is told of it. -/
theorem sendBooks_fed {c₁ c₂ : Client σ} {f f₁ : φ} {ch : Channel} {now : Duration}
    {data : Bytes} {origin : Option String} {answer : Except NetworkError Unit}
    (hfeed : c.feed f ch data origin = (c₁, f₁))
    (htrack : c₁.trackReceive now data.length = (answer, c₂)) : c₂.sendBooks = c.sendBooks := by
  rw [← show _ = c₂ from congrArg Prod.snd htrack, sendBooks_trackReceive,
    ← show _ = c₁ from congrArg Prod.fst hfeed]
  exact sendBooks_keep _ _ _ _

/-- The loop of a read leaves the books of sending as they are. -/
theorem Receives.sendBooks {now : Clock} {ch : Channel} {f : φ} {any retried : Bool}
    {r : Reception σ φ} (hr : Receives ch now c f any retried r) :
    r.client.sendBooks = c.sendBooks := by
  induction hr with
  | closed _ _ => rfl
  | failed _ _ => exact sendBooks_receiveError _ _
  | interrupted _ _ _ ih => exact ih
  -- The receive watchdog is told, and it is no part of these books
  | slow _ _ hfeed htrack => exact (sendBooks_fed hfeed htrack).trans rfl
  | complete _ _ hfeed htrack _ => exact (sendBooks_fed hfeed htrack).trans rfl
  | more _ _ hfeed htrack _ _ ih => exact ih.trans ((sendBooks_fed hfeed htrack).trans rfl)
  | again _ _ _ _ _ ih => exact ih
  | idle _ _ _ _ =>
    dsimp only
    split
    · rfl
    · exact sendBooks_dryRead _

/-- `readOutcome` leaves the books of sending as they are. -/
theorem sendBooks_readOutcome (r : Reception σ φ) :
    (readOutcome r).1.2.sendBooks = r.client.sendBooks := by
  unfold readOutcome
  split
  · rfl
  · dsimp only
    split
    · rfl
    · split
      · split <;> rfl
      · split <;> rfl

/-- A read of a stream leaves the books of sending as they are. -/
theorem sendBooks_readStream (c : Client σ) (now : Clock) (f : φ) (ch : Channel) :
    (c.readStream now f ch).1.2.sendBooks = c.sendBooks := by
  have hreplayed : ∀ {c₁ c₂ : Client σ} {f₂ : φ}, c.ensureConnected now.first = (.ok true, c₁) →
      (c₁.anchorReceive now.first).replay f ch = (c₂, f₂) → c₂.sendBooks = c.sendBooks := by
    intro c₁ c₂ f₂ hensured hreplay
    rw [← (books_ensureConnected hensured).2, ← show _ = c₂ from congrArg Prod.fst hreplay]
    exact sendBooks_replay _ f ch
  have hreads := reads_readStream c now f ch
  generalize c.readStream now f ch = r at hreads
  -- However the read ends, connecting and replaying are all that could have touched the books
  cases hreads with
  | refused _ => rfl
  | failed hensured => exact (books_ensureConnected hensured).2
  | waiting hensured => exact (books_ensureConnected hensured).2
  | ready hensured _ => exact (books_ensureConnected hensured).2
  | @replayed c₁ c₂ f₂ hensured hreplay _ =>
    have hbooks : c₂.sendBooks = c.sendBooks := hreplayed hensured hreplay
    exact hbooks
  | received hensured hreplay _ hloop =>
    rw [sendBooks_readOutcome, hloop.sendBooks]
    exact hreplayed hensured hreplay

/-- `receiveDatagram` leaves the books of sending as they are. -/
theorem sendBooks_receiveDatagram (c : Client σ) (now : Duration) (f : φ) :
    (c.receiveDatagram now f).1.2.sendBooks = c.sendBooks := by
  fun_induction receiveDatagram c now f with
  | case1 c data origin s _ c₁ f₁ hfeed e c₂ htrack =>
    exact (sendBooks_fed hfeed htrack).trans rfl
  | case2 c data origin s _ c₁ f₁ hfeed c₂ htrack _ =>
    exact (sendBooks_fed hfeed htrack).trans rfl
  | case3 c data origin s _ c₁ f₁ hfeed c₂ htrack _ =>
    exact (sendBooks_fed hfeed htrack).trans rfl
  | case4 c e s _ c' _ => rfl
  | case5 c e s _ c' _ _ ih => exact ih
  | case6 c e s _ c' _ _ => exact sendBooks_receiveError c' e

/-- A read of datagrams leaves the books of sending as they are. -/
theorem sendBooks_readDatagram (c : Client σ) (now : Clock) (f : φ) (ch : Channel) :
    (c.readDatagram now f ch).1.2.sendBooks = c.sendBooks := by
  unfold readDatagram
  split
  · rfl
  · dsimp only
    split
    · rfl
    · have hreplayed := sendBooks_replay (c.anchorReceive now.first) f .regular
      split
      · exact hreplayed
      · exact (sendBooks_receiveDatagram _ now.later.first _).trans hreplayed

/-- A read leaves the books of sending alone. -/
theorem sendBooks_read (kind : ClientKind) (c : Client σ) (now : Clock) (f : φ)
    (ch : Channel) : (c.read kind now f ch).1.2.sendBooks = c.sendBooks := by
  cases kind with
  | stream => exact sendBooks_readStream c now f ch
  | datagram => exact sendBooks_readDatagram c now f ch

end Reads

/-! ## What a write leaves alone -/

section Writes

/-- No change that a write makes concerns the books of receiving. -/
theorem keptByWriting_receiveBooks :
    KeptByWriting fun c c' : Client σ => c'.receiveBooks = c.receiveBooks where
  trans h h' := h'.trans h
  books _ _ _ _ := rfl
  send _ := rfl
  failed _ := by
    unfold sendError
    split <;> rfl

/-- A write leaves the books of receiving alone. -/
theorem receiveBooks_write (kind : ClientKind) (c : Client σ) (now : Clock) (data : Bytes)
    (ch : Channel) : (c.write kind now data ch).2.receiveBooks = c.receiveBooks := by
  cases kind with
  | stream =>
    show (c.writeStream now data ch).2.receiveBooks = c.receiveBooks
    rcases keptByWriting_receiveBooks.writeStream c now data ch with hrefused | hafter
    · rw [hrefused]
    · exact hafter.trans (books_ensureConnected rfl).1
  | datagram => exact keptByWriting_receiveBooks.writeDatagram c now data ch

end Writes

end Client

end FrameSocket
