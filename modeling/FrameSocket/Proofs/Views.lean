import FrameSocket.Machine
import FrameSocket.Proofs.Loops

/-!
# Clients over a view of their socket

A view of a socket is a map to another kind of socket that commutes with every
call, as does the map that forgets what a socket has put on record.  A client
cannot tell a socket from its view, nor a framer from its view: each operation
has the same answer on both and leaves states that correspond.

## Key results

- `read_mapSocket`: reading through a view
- `write_mapSocket`: writing through a view
- `sendAll_mapSocket` / `writeDatagram_mapSocket`: loops that do not see interruptions
- `make_mapSocket`: making a client over a view
-/

namespace FrameSocket

/-- `g` commutes with the calls that move no bytes: what a socket is, whom it talks to and
    what went wrong with it. -/
structure Endpoint.IsOutline {τ σ : Type} [Endpoint τ] [Endpoint σ] (g : τ → σ) : Prop where
  id_view : ∀ s, Endpoint.id (g s) = Endpoint.id s
  transport_view : ∀ s, Endpoint.transport (g s) = Endpoint.transport s
  remoteAddress_view : ∀ s,
    Endpoint.remoteAddress (g s) = ((Endpoint.remoteAddress s).1, g (Endpoint.remoteAddress s).2)
  takeError_view : ∀ s,
    Endpoint.takeError (g s) = ((Endpoint.takeError s).1, g (Endpoint.takeError s).2)

/-- `g` commutes with the sends as well, except that it may not see an interrupted one. -/
structure Endpoint.HidesInterruptions {τ σ : Type} [Endpoint τ] [Endpoint σ] (g : τ → σ) : Prop
    extends Endpoint.IsOutline g where
  send_hides : ∀ {s s' : τ} {ch : Channel} {data : Bytes} {answer : Except IoError Nat},
    Endpoint.send s ch data = (answer, s') →
      Endpoint.send (g s) ch data = (answer, g s') ∨
        ∃ e, answer = .error e ∧ e.isInterrupted = true ∧ g s' = g s

namespace Endpoint.HidesInterruptions

variable {τ σ : Type} [Endpoint τ] [Endpoint σ] {g : τ → σ} (hg : HidesInterruptions g)
  {s s' : τ} {ch : Channel} {data : Bytes} {e : IoError}
include hg

/-- A `send` that works is seen as it is. -/
theorem send_ok {n : Nat} (h : Endpoint.send s ch data = (.ok n, s')) :
    Endpoint.send (g s) ch data = (.ok n, g s') := by
  rcases hg.send_hides h with hseen | ⟨e, he, _⟩
  · exact hseen
  · cases he

/-- A `send` that fails, and was not interrupted, is seen as it is. -/
theorem send_error (h : Endpoint.send s ch data = (.error e, s'))
    (hinterrupted : ¬ e.isInterrupted = true) :
    Endpoint.send (g s) ch data = (.error e, g s') := by
  rcases hg.send_hides h with hseen | ⟨e', he, hi, _⟩
  · exact hseen
  · cases he
    exact absurd hi hinterrupted

/-- A `send` that would have to wait is seen as it is. -/
theorem send_blocked (h : Endpoint.send s ch data = (.error e, s'))
    (hblocked : e.isBlocked = true) :
    Endpoint.send (g s) ch data = (.error e, g s') := by
  refine hg.send_error h fun hi => ?_
  rw [IoError.isBlocked_of_isInterrupted hi] at hblocked
  cases hblocked

/-- A `send` that is interrupted is seen, or nothing has happened. -/
theorem send_interrupted (h : Endpoint.send s ch data = (.error e, s')) :
    Endpoint.send (g s) ch data = (.error e, g s') ∨ g s' = g s :=
  (hg.send_hides h).imp_right fun ⟨_, _, _, hsame⟩ => hsame

end Endpoint.HidesInterruptions

/-- `g` commutes with every call of a socket. -/
structure Endpoint.IsView {τ σ : Type} [Endpoint τ] [Endpoint σ] (g : τ → σ) : Prop where
  id_view : ∀ s, Endpoint.id (g s) = Endpoint.id s
  transport_view : ∀ s, Endpoint.transport (g s) = Endpoint.transport s
  remoteAddress_view : ∀ s,
    Endpoint.remoteAddress (g s) = ((Endpoint.remoteAddress s).1, g (Endpoint.remoteAddress s).2)
  takeError_view : ∀ s,
    Endpoint.takeError (g s) = ((Endpoint.takeError s).1, g (Endpoint.takeError s).2)
  recv_view : ∀ s ch n,
    Endpoint.recv (g s) ch n = ((Endpoint.recv s ch n).1, g (Endpoint.recv s ch n).2)
  recvFrom_view : ∀ s n,
    Endpoint.recvFrom (g s) n = ((Endpoint.recvFrom s n).1, g (Endpoint.recvFrom s n).2)
  peek_view : ∀ s ch, Endpoint.peek (g s) ch = ((Endpoint.peek s ch).1, g (Endpoint.peek s ch).2)
  send_view : ∀ s ch data,
    Endpoint.send (g s) ch data = ((Endpoint.send s ch data).1, g (Endpoint.send s ch data).2)

namespace Endpoint.IsView

variable {τ σ : Type} [Endpoint τ] [Endpoint σ] {g : τ → σ} (hg : IsView g) {s s' : τ}
  {ch : Channel} {n : Nat}
include hg

/-- A view is one of the state of the connection, too. -/
theorem outline : IsOutline g :=
  ⟨hg.id_view, hg.transport_view, hg.remoteAddress_view, hg.takeError_view⟩

/-- `recv` is seen as it is. -/
theorem recv_eq {answer : Except IoError Bytes} (h : Endpoint.recv s ch n = (answer, s')) :
    Endpoint.recv (g s) ch n = (answer, g s') := by
  rw [hg.recv_view, h]

/-- `recvFrom` is seen as it is. -/
theorem recvFrom_eq {answer : Except IoError (Bytes × Option String)}
    (h : Endpoint.recvFrom s n = (answer, s')) : Endpoint.recvFrom (g s) n = (answer, g s') := by
  rw [hg.recvFrom_view, h]

/-- `peek` is seen as it is. -/
theorem peek_eq {answer : Except IoError Nat} (h : Endpoint.peek s ch = (answer, s')) :
    Endpoint.peek (g s) ch = (answer, g s') := by
  rw [hg.peek_view, h]

/-- `send` is seen as it is. -/
theorem send_eq {data : Bytes} {answer : Except IoError Nat}
    (h : Endpoint.send s ch data = (answer, s')) :
    Endpoint.send (g s) ch data = (answer, g s') := by
  rw [hg.send_view, h]

/-- A view sees every send. -/
theorem hides : HidesInterruptions g :=
  { hg.outline with send_hides := fun h => .inl (hg.send_eq h) }

end Endpoint.IsView

/-- `h` commutes with everything a framer does. -/
structure Framer.IsView {ψ φ : Type} [Framer ψ] [Framer φ] (h : ψ → φ) : Prop where
  feed_view : ∀ f chunk origin,
    Framer.feed (h f) chunk origin =
      (h (Framer.feed f chunk origin).1, (Framer.feed f chunk origin).2)
  isComplete_view : ∀ f, Framer.isComplete (h f) = Framer.isComplete f
  frame_view : ∀ f, Framer.frame (h f) = Framer.frame f
  close_view : ∀ f, Framer.close (h f) = (h (Framer.close f).1, (Framer.close f).2)

namespace Client

/-- An answer of a client, with the client over the view. -/
def Answer.mapSocket {τ σ α : Type} (g : τ → σ) (a : Answer τ α) : Answer σ α :=
  (a.1, Client.mapSocket g a.2)

/-- What a read answers, with the client and the framer seen through views. -/
def viewRead {τ σ ψ φ : Type} (g : τ → σ) (h : ψ → φ) (r : Answer τ (Incoming τ) × ψ) :
    Answer σ (Incoming σ) × φ :=
  ((r.1.1.map (Incoming.map g), r.1.2.mapSocket g), h r.2)

/-- What the receiving stage leaves, seen through views. -/
def Reception.view {τ σ ψ φ : Type} (g : τ → σ) (h : ψ → φ) (r : Reception τ ψ) :
    Reception σ φ :=
  ⟨r.pause, r.receivedAny, r.client.mapSocket g, h r.framer⟩

/-! ## What does not look at the socket -/

section Data

variable {τ σ : Type} (g : τ → σ) (c : Client τ)

/-- `keep` does not look at the socket. -/
theorem keep_mapSocket (ch : Channel) (rest : Bytes) (origin : Option String) :
    (c.mapSocket g).keep ch rest origin = (c.keep ch rest origin).mapSocket g := by
  unfold keep
  split <;> rfl

/-- `trackReceive` does not look at the socket. -/
theorem trackReceive_mapSocket (now : Duration) (bytes : Nat) :
    (c.mapSocket g).trackReceive now bytes = (c.trackReceive now bytes).mapSocket g := by
  have hwatch : (c.mapSocket g).receiveWatch = c.receiveWatch := rfl
  have helapsed : (c.mapSocket g).elapsed now = c.elapsed now := rfl
  unfold trackReceive
  rw [hwatch]
  split
  · rfl
  · dsimp only
    rw [helapsed]
    split <;> rfl

/-- `trackSend` does not look at the socket. -/
theorem trackSend_mapSocket (now : Duration) (bytes : Nat) :
    (c.mapSocket g).trackSend now bytes = (c.trackSend now bytes).mapSocket g := by
  have hwatch : (c.mapSocket g).sendWatch = c.sendWatch := rfl
  have helapsed : (c.mapSocket g).elapsed now = c.elapsed now := rfl
  unfold trackSend
  rw [hwatch]
  split
  · rfl
  · dsimp only
    rw [helapsed]
    split <;> rfl

/-- `dryRead` does not look at the socket. -/
theorem dryRead_mapSocket : (c.mapSocket g).dryRead = c.dryRead.mapSocket g := by
  have hdry : (c.mapSocket g).dryReads = c.dryReads := rfl
  unfold dryRead
  rw [hdry]
  split <;> rfl

variable {ψ φ : Type} [Framer ψ] [Framer φ] {h : ψ → φ}

/-- `feed` over a view of the framer. -/
theorem feed_mapSocket (hh : Framer.IsView h) (f : ψ) (ch : Channel) (data : Bytes)
    (origin : Option String) :
    (c.mapSocket g).feed (h f) ch data origin =
      ((c.feed f ch data origin).1.mapSocket g, h (c.feed f ch data origin).2) := by
  have hremote : (c.mapSocket g).remote = c.remote := rfl
  simp only [feed, hremote, hh.feed_view, keep_mapSocket]

/-- `replay` over a view of the framer. -/
theorem replay_mapSocket (hh : Framer.IsView h) (f : ψ) (ch : Channel) :
    (c.mapSocket g).replay (h f) ch = ((c.replay f ch).1.mapSocket g, h (c.replay f ch).2) := by
  have hleft : (c.mapSocket g).leftovers = c.leftovers := rfl
  unfold replay
  rw [hleft]
  split
  · rfl
  · simp only [hh.feed_view]
    rw [← keep_mapSocket]
    rfl

/-- `complete` over a view of the framer. -/
theorem complete_view (hh : Framer.IsView h) (f : ψ) :
    ((c.mapSocket g).complete (h f), h f) = viewRead g h (c.complete f, f) := by
  simp only [complete, hh.frame_view]
  rfl

/-- `unfinished` over a view of the framer. -/
theorem unfinished_view (hh : Framer.IsView h) (f : ψ) :
    ((c.mapSocket g).unfinished (h f), h f) = viewRead g h (c.unfinished f, f) := by
  simp only [unfinished, hh.frame_view]
  rfl

end Data

/-! ## What moves no bytes -/

section Calls

variable {τ σ : Type} [Endpoint τ] [Endpoint σ] {g : τ → σ} (hg : Endpoint.IsOutline g)
  (c : Client τ)
include hg

/-- A client is named alike over a view. -/
theorem address_mapSocket : (c.mapSocket g).address = c.address := by
  simp only [address, mapSocket, hg.id_view]

/-- `lost` over a view. -/
theorem lost_mapSocket : (c.mapSocket g).lost = (c.lost.1, c.lost.2.mapSocket g) := by
  simp only [lost, address_mapSocket hg]
  rfl

/-- `receiveError` over a view. -/
theorem receiveError_mapSocket (e : IoError) :
    (c.mapSocket g).receiveError e = ((c.receiveError e).1, (c.receiveError e).2.mapSocket g) := by
  unfold receiveError
  split
  · exact lost_mapSocket hg c
  · simp only [address_mapSocket hg]

/-- `sendError` over a view. -/
theorem sendError_mapSocket (e : IoError) :
    (c.mapSocket g).sendError e = ((c.sendError e).1, (c.sendError e).2.mapSocket g) := by
  unfold sendError
  split
  · exact lost_mapSocket hg c
  · simp only [address_mapSocket hg]

/-- `refused` over a view. -/
theorem refused_mapSocket (reason : String) :
    (c.mapSocket g).refused reason = ((c.refused reason).1, (c.refused reason).2.mapSocket g) := by
  simp only [refused, address_mapSocket hg]

/-- `checkChannel` over a view. -/
theorem checkChannel_mapSocket (ch : Channel) :
    (c.mapSocket g).checkChannel ch = c.checkChannel ch := by
  unfold checkChannel
  cases ch with
  | regular => rfl
  | urgent => simp only [mapSocket, hg.transport_view]

/-- `ensureConnected` over a view. -/
theorem ensureConnected_mapSocket (now : Duration) :
    (c.mapSocket g).ensureConnected now = (c.ensureConnected now).mapSocket g := by
  have hsocket : (c.mapSocket g).socket = g c.socket := rfl
  have hconnected : (c.mapSocket g).isConnected = c.isConnected := rfl
  have hwas : (c.mapSocket g).wasConnected = c.wasConnected := rfl
  unfold ensureConnected
  rw [hsocket, hconnected, hwas, hg.remoteAddress_view, lost_mapSocket hg]
  split
  · -- it is connected
    rfl
  · split
    · -- it was connected before
      rfl
    · -- the socket is asked for the peer's address, and then for a pending error
      obtain ⟨answer, s⟩ := Endpoint.remoteAddress c.socket
      have hrefused := refused_mapSocket hg { c with socket := s }
      cases answer with
      | error e => exact congrArg failed (hrefused e.message)
      | ok found =>
        cases found with
        | some address => rfl
        | none =>
          dsimp only
          rw [hg.takeError_view]
          obtain ⟨answer, s'⟩ := Endpoint.takeError s
          have hrefused := refused_mapSocket hg { c with socket := s' }
          cases answer with
          | error e => rfl
          | ok pending =>
            cases pending with
            | some e => exact congrArg failed (hrefused e.message)
            | none =>
              dsimp only
              have hconfig : (c.mapSocket g).config = c.config := rfl
              have hcreated : (c.mapSocket g).createdAt = c.createdAt := rfl
              rw [hconfig, hcreated]
              split
              · -- the time is over
                exact congrArg failed (hrefused _)
              · rfl

/-- `stalled` over a view. -/
theorem stalled_mapSocket (reason : String) :
    (c.mapSocket g).stalled reason = (c.stalled reason).mapSocket g := by
  have haddress : (c.mapSocket g).spendWrite.refillWrites.address =
      c.spendWrite.refillWrites.address := address_mapSocket hg c.spendWrite.refillWrites
  have hattempts : (c.mapSocket g).spendWrite.writeAttempts = c.spendWrite.writeAttempts := rfl
  simp only [stalled, hattempts, haddress]
  split <;> rfl

/-- `writeOutcome` over a view. -/
theorem writeOutcome_mapSocket (written length : Nat) :
    (c.mapSocket g).writeOutcome written length = (c.writeOutcome written length).mapSocket g := by
  unfold writeOutcome
  split
  · rfl
  · split
    · exact stalled_mapSocket hg c _
    · rfl

end Calls

/-! ## Reading -/

section Reading

variable {τ σ ψ φ : Type} [Endpoint τ] [Endpoint σ] [Framer ψ] [Framer φ]
  {g : τ → σ} {h : ψ → φ} (hg : Endpoint.IsView g) (hh : Framer.IsView h)
include hg hh

/-- The rules of the receiving loop hold through views. -/
theorem Receives.view {now : Clock} {ch : Channel} {c : Client τ} {f : ψ}
    {any retried : Bool} {r : Reception τ ψ} (hr : Receives ch now c f any retried r) :
    Receives ch now (c.mapSocket g) (h f) any retried (r.view g h) := by
  -- A turn that receives feeds and tells the watchdog, neither of which a view sees
  have hfeed_view : ∀ {c c₁ : Client τ} {f f₁ : ψ} {s : τ} {bytes : Bytes},
      { c with socket := s }.refillReads.feed f ch bytes none = (c₁, f₁) →
      { c.mapSocket g with socket := g s }.refillReads.feed (h f) ch bytes none =
        (c₁.mapSocket g, h f₁) := by
    intro c c₁ f f₁ s bytes hfeed
    exact (feed_mapSocket g { c with socket := s }.refillReads hh f ch bytes none).trans
      (by rw [hfeed])
  have htrack_view : ∀ {now : Duration} {c c' : Client τ} {n : Nat} {answer},
      c.trackReceive now n = (answer, c') →
      (c.mapSocket g).trackReceive now n = (answer, c'.mapSocket g) := by
    intro now c c' n answer htrack
    rw [trackReceive_mapSocket, htrack]
    rfl
  -- One rule of the loop for each rule of the loop through the view
  induction hr with
  | closed hrecv hof => exact .closed (hg.recv_eq hrecv) hof
  | @failed now c f any retried answer s e hrecv hof =>
    have hfailed : Receives ch now (c.mapSocket g) (h f) any retried
        ⟨.failed ((mapSocket g { c with socket := s }).receiveError e).1, any,
          ((mapSocket g { c with socket := s }).receiveError e).2, h f⟩ :=
      .failed (hg.recv_eq hrecv) hof
    rw [receiveError_mapSocket hg.outline] at hfailed
    exact hfailed
  | interrupted hrecv hof _ ih => exact .interrupted (hg.recv_eq hrecv) hof ih
  | slow hrecv hof hfeed htrack =>
    exact .slow (hg.recv_eq hrecv) hof (hfeed_view hfeed) (htrack_view htrack)
  | complete hrecv hof hfeed htrack hdone =>
    exact .complete (hg.recv_eq hrecv) hof (hfeed_view hfeed) (htrack_view htrack)
      ((hh.isComplete_view _).trans hdone)
  | more hrecv hof hfeed htrack hdone _ ih =>
    exact .more (hg.recv_eq hrecv) hof (hfeed_view hfeed) (htrack_view htrack)
      ((hh.isComplete_view _).trans hdone) ih
  | again hrecv hof hpeek hsaw _ ih =>
    exact .again (hg.recv_eq hrecv) hof (hg.peek_eq hpeek) hsaw ih
  | @idle now c f any retried answer s s' peeked hrecv hof hpeek hsaw =>
    have hidle : Receives ch now (c.mapSocket g) (h f) any retried
        ⟨.idle, any, if sawByte peeked || any then mapSocket g { c with socket := s' }
          else (mapSocket g { c with socket := s' }).dryRead, h f⟩ :=
      .idle (hg.recv_eq hrecv) hof (hg.peek_eq hpeek) hsaw
    rw [dryRead_mapSocket, ← apply_ite (mapSocket g)] at hidle
    exact hidle

/-- `incomplete` over a view. -/
theorem incomplete_view (c : Client τ) (f : ψ) (reason : String) :
    ((c.mapSocket g).incomplete (h f) reason, h f) =
      viewRead g h (c.incomplete f reason, f) := by
  have haddress : (c.mapSocket g).finishRead.address = c.finishRead.address :=
    address_mapSocket hg.outline c.finishRead
  simp only [incomplete, hh.frame_view, haddress]
  rfl

/-- `readOutcome` over a view. -/
theorem readOutcome_view (r : Reception τ ψ) :
    readOutcome (r.view g h) = viewRead g h (readOutcome r) := by
  obtain ⟨pause, any, c, f⟩ := r
  cases pause with
  | failed e => rfl
  | idle =>
    simp only [readOutcome, Reception.view, hh.isComplete_view]
    split
    · exact complete_view g c hh f
    · -- the two sides have their own proofs that the budget is used up
      by_cases hout : (!any && decide (c.readAttempts = 0)) = true
      · rw [if_pos hout]
        exact (if_pos hout).trans (incomplete_view hg hh c f _)
      · rw [if_neg hout]
        exact (if_neg hout).trans (unfinished_view g c hh f)
  | closed =>
    simp only [readOutcome, Reception.view, hh.isComplete_view, hh.close_view]
    split
    · exact complete_view g c hh f
    · split
      · -- the end of the stream ends the frame
        exact complete_view g c.disconnect hh (Framer.close f).1
      · rw [lost_mapSocket hg.outline]
        rfl

/-- A read of a stream does not see a view. -/
theorem readStream_mapSocket (c : Client τ) (now : Clock) (f : ψ) (ch : Channel) :
    (c.mapSocket g).readStream now (h f) ch = viewRead g h (c.readStream now f ch) := by
  unfold readStream
  rw [checkChannel_mapSocket hg.outline, ensureConnected_mapSocket hg.outline]
  split
  · rfl
  · obtain ⟨answer, c⟩ := c.ensureConnected now.first
    cases answer with
    | error e => rfl
    | ok connected =>
      cases connected with
      | false => rfl
      | true =>
        have hanchor : (c.mapSocket g).anchorReceive now.first =
            (c.anchorReceive now.first).mapSocket g := rfl
        simp only [Answer.mapSocket, hanchor, hh.isComplete_view, replay_mapSocket g _ hh]
        generalize c.anchorReceive now.first = c
        split
        · -- the frame was complete before
          exact complete_view g c hh f
        · obtain ⟨c, f⟩ := c.replay f ch
          dsimp only
          split
          · -- what waited completes it
            exact complete_view g c hh f
          · -- the loops go turn by turn over the view
            have hloop := (receives_receiveAll c now.later f ch false false).view hg hh
            rw [hloop.receiveAll_eq]
            exact readOutcome_view hg hh _

/-- One datagram that comes, and the feeding of it. -/
theorem receiveDatagram_mapSocket_ok {c c₁ : Client τ} {f f₁ : ψ} {data : Bytes}
    {origin : Option String} {s : τ} (now : Duration)
    (hrecv : Endpoint.recvFrom c.socket c.bufferSize = (.ok (data, origin), s))
    (hfeed : { c with socket := s }.feed f .regular data origin = (c₁, f₁)) :
    (c.mapSocket g).receiveDatagram now (h f) =
      match (c₁.trackReceive now data.length).mapSocket g with
      | (.error e, c) => ((.error e, c), h f₁)
      | (.ok (), c) =>
        if Framer.isComplete (h f₁) then (c.complete (h f₁), h f₁)
        else (c.incomplete (h f₁) "datagram ended before the frame did", h f₁) := by
  have hfeed_view := feed_mapSocket g { c with socket := s } hh f .regular data origin
  rw [hfeed] at hfeed_view
  rw [← trackReceive_mapSocket]
  exact receiveDatagram_ok now (hg.recvFrom_eq hrecv) hfeed_view

/-- Nor does the receipt of a datagram. -/
theorem receiveDatagram_mapSocket (c : Client τ) (now : Duration) (f : ψ) :
    (c.mapSocket g).receiveDatagram now (h f) = viewRead g h (c.receiveDatagram now f) := by
  fun_induction receiveDatagram c now f with
  | case1 c data origin s hrecv c₁ f₁ hfeed e c₂ htrack =>
    rw [receiveDatagram_mapSocket_ok hg hh now hrecv hfeed, htrack]
    rfl
  | case2 c data origin s hrecv c₁ f₁ hfeed c₂ htrack hdone =>
    rw [receiveDatagram_mapSocket_ok hg hh now hrecv hfeed, htrack]
    simp only [Answer.mapSocket, hh.isComplete_view, if_pos hdone]
    exact complete_view g c₂ hh f₁
  | case3 c data origin s hrecv c₁ f₁ hfeed c₂ htrack hdone =>
    rw [receiveDatagram_mapSocket_ok hg hh now hrecv hfeed, htrack]
    simp only [Answer.mapSocket, hh.isComplete_view, if_neg hdone]
    exact incomplete_view hg hh c₂ f₁ _
  -- The three ways in which `recvFrom` fails: it would block, it is interrupted, or it is broken
  | case4 c e s hrecv c' hblocked =>
    rw [receiveDatagram_error now (h f) (hg.recvFrom_eq hrecv), if_pos hblocked]
    exact unfinished_view g { c with socket := s } hh f
  | case5 c e s hrecv c' hblocked hinterrupted ih =>
    rw [receiveDatagram_error now (h f) (hg.recvFrom_eq hrecv), if_neg hblocked,
      if_pos hinterrupted]
    exact ih
  | case6 c e s hrecv c' hblocked hinterrupted =>
    rw [receiveDatagram_error now (h f) (hg.recvFrom_eq hrecv), if_neg hblocked,
      if_neg hinterrupted]
    have hlost := receiveError_mapSocket hg.outline { c with socket := s } e
    exact Prod.ext (congrArg failed hlost) rfl

/-- A read of a datagram socket does not see a view. -/
theorem readDatagram_mapSocket (c : Client τ) (now : Clock) (f : ψ) (ch : Channel) :
    (c.mapSocket g).readDatagram now (h f) ch = viewRead g h (c.readDatagram now f ch) := by
  have hanchor : (c.mapSocket g).anchorReceive now.first =
      (c.anchorReceive now.first).mapSocket g := rfl
  unfold readDatagram
  simp only [hanchor, hh.isComplete_view, replay_mapSocket g _ hh]
  generalize c.anchorReceive now.first = c₁
  split
  · -- the channel is refused
    rfl
  · split
    · exact complete_view g c₁ hh f
    · obtain ⟨c₂, f₂⟩ := c₁.replay f .regular
      dsimp only
      split
      · -- what waited completes the frame
        exact complete_view g c₂ hh f₂
      · exact receiveDatagram_mapSocket hg hh c₂ now.later.first f₂

/-- A read does not see a view. -/
theorem read_mapSocket (kind : ClientKind) (c : Client τ) (now : Clock) (f : ψ)
    (ch : Channel) :
    (c.mapSocket g).read kind now (h f) ch = viewRead g h (c.read kind now f ch) := by
  cases kind with
  | stream => exact readStream_mapSocket hg hh c now f ch
  | datagram => exact readDatagram_mapSocket hg hh c now f ch

end Reading

/-! ## Writing

The loops that make an interrupted call again do not see interruptions.  The other calls are
made once: `answer` and `s` are what such a call leaves, which the view has seen. -/

section Once

variable {τ σ : Type} [Endpoint τ] [Endpoint σ] {g : τ → σ} (hg : Endpoint.IsOutline g)
  {c : Client τ} {answer : Except IoError Nat} {s : τ}
include hg

/-- One turn of the loop for urgent bytes, given that the turns behind it, if there are any, do
    not see `g`. -/
theorem sendUrgent_cons_mapSocket {b : UInt8} {sent : Nat} {rest : Bytes}
    (hsend : Endpoint.send c.socket .urgent [b] = (answer, s))
    (hseen : Endpoint.send (g c.socket) .urgent [b] = (answer, g s))
    (hrest : ∀ n, answer = .ok (n + 1) →
      ({ c with socket := s }.mapSocket g).sendUrgent (sent + 1) rest =
        ({ c with socket := s }.sendUrgent (sent + 1) rest).mapSocket g) :
    (c.mapSocket g).sendUrgent sent (b :: rest) = (c.sendUrgent sent (b :: rest)).mapSocket g := by
  cases answer with
  | ok n =>
    rw [sendUrgent_ok sent rest hsend, sendUrgent_ok (c := c.mapSocket g) sent rest hseen]
    cases n with
    | zero => rfl
    -- The byte went out, and the others follow
    | succ n => exact hrest n rfl
  | error e =>
    rw [sendUrgent_error sent rest hsend, sendUrgent_error (c := c.mapSocket g) sent rest hseen]
    split
    · rfl
    · exact congrArg failed (sendError_mapSocket hg { c with socket := s } e)

/-- `probe` over a view that shows its one call. -/
theorem probe_mapSocket_of (hsend : Endpoint.send c.socket .regular [] = (answer, s))
    (hseen : Endpoint.send (g c.socket) .regular [] = (answer, g s)) :
    (c.mapSocket g).probe = c.probe.mapSocket g := by
  unfold probe
  -- Both sockets answer the same
  rw [show (c.mapSocket g).socket = g c.socket from rfl, hseen, hsend]
  cases answer with
  | ok n => rfl
  | error e =>
    dsimp only
    split
    · rfl
    · exact congrArg failed (sendError_mapSocket hg { c with socket := s } e)

end Once

section Retrying

variable {τ σ : Type} [Endpoint τ] [Endpoint σ] {g : τ → σ} (hg : Endpoint.HidesInterruptions g)
include hg

/-- `sendAll` over a view that may hide interruptions: it would try again after them. -/
theorem sendAll_mapSocket (c : Client τ) (now : Clock) (written : Nat) (data : Bytes) :
    (c.mapSocket g).sendAll now written data = (c.sendAll now written data).mapSocket g := by
  have htrack_view : ∀ {now : Duration} {c c' : Client τ} {n : Nat} {s : τ} {answer},
      { c with socket := s }.refillWrites.trackSend now n = (answer, c') →
      { c.mapSocket g with socket := g s }.refillWrites.trackSend now n =
        (answer, c'.mapSocket g) := by
    intro now c c' n s answer htrack
    exact (trackSend_mapSocket g { c with socket := s }.refillWrites now n).trans
      (congrArg (Answer.mapSocket g) htrack)
  fun_induction sendAll c now written data with
  | case1 c now written => exact sendAll_nil _ now written
  | case2 c now written b rest s hsend =>
    rw [sendAll_ok now written (hg.send_ok hsend), if_pos rfl]
    rfl
  | case3 c now written b rest n s hsend e c' htrack =>
    rw [sendAll_ok now written (hg.send_ok hsend), if_neg (Nat.succ_ne_zero n),
      htrack_view htrack]
    rfl
  | case4 c now written b rest n s hsend c' htrack ih =>
    rw [sendAll_ok now written (hg.send_ok hsend), if_neg (Nat.succ_ne_zero n),
      htrack_view htrack]
    exact ih
  | case5 c now written b rest e s hsend hblocked =>
    rw [sendAll_error now written (hg.send_blocked hsend hblocked), if_pos hblocked]
    rfl
  | case6 c now written b rest e s hsend hblocked hinterrupted ih =>
    rcases hg.send_interrupted hsend with hseen | hsame
    · rw [sendAll_error now written hseen, if_neg hblocked, if_pos hinterrupted]
      exact ih
    · -- the turn is not seen: the client is where it was
      rw [← ih]
      exact congrArg (fun s => sendAll { c.mapSocket g with socket := s } now written (b :: rest))
        hsame.symm
  | case7 c now written b rest e s hsend hblocked hinterrupted =>
    rw [sendAll_error now written (hg.send_error hsend hinterrupted), if_neg hblocked,
      if_neg hinterrupted]
    exact congrArg failed (sendError_mapSocket hg.toIsOutline { c with socket := s } e)

/-- A write to a stream sees no more of a socket than the calls that it does not make again. -/
theorem writeStream_mapSocket_of {c : Client τ} {now : Clock} {data : Bytes} {ch : Channel}
    (hurgent : ch = .urgent → c.checkChannel .urgent = .ok () →
      c.checkUrgentSize .urgent data = .ok () → ∀ c₁, c.ensureConnected now.first = (.ok true, c₁) →
      ((c₁.anchorSend now.first).mapSocket g).sendUrgent 0 data =
        ((c₁.anchorSend now.first).sendUrgent 0 data).mapSocket g)
    (hprobe : ch = .regular → data = [] → ∀ c₁, c.ensureConnected now.first = (.ok true, c₁) →
      ((c₁.anchorSend now.first).mapSocket g).probe =
        (c₁.anchorSend now.first).probe.mapSocket g) :
    (c.mapSocket g).writeStream now data ch = (c.writeStream now data ch).mapSocket g := by
  have hsize : (c.mapSocket g).checkUrgentSize ch data = c.checkUrgentSize ch data := rfl
  unfold writeStream
  rw [checkChannel_mapSocket hg.toIsOutline, hsize, ensureConnected_mapSocket hg.toIsOutline]
  split
  · -- the channel is refused
    rfl
  · rename_i hchannel
    split
    · -- there is too much for one urgent write
      rfl
    · rename_i hsize
      rcases hensured : c.ensureConnected now.first with ⟨answer, c₁⟩
      cases answer with
      | error e => rfl
      | ok connected =>
        cases connected with
        | false => rfl
        | true =>
          have hanchor : (c₁.mapSocket g).anchorSend now.first =
              (c₁.anchorSend now.first).mapSocket g := rfl
          simp only [Answer.mapSocket, hanchor]
          cases ch with
          | urgent =>
            dsimp only
            rw [hurgent rfl hchannel hsize c₁ hensured]
            obtain ⟨answer, c⟩ := (c₁.anchorSend now.first).sendUrgent 0 data
            cases answer with
            | error e => rfl
            | ok sent =>
              simp only [Answer.mapSocket, trackSend_mapSocket]
              obtain ⟨answer, c⟩ := c.trackSend now.later.first sent
              cases answer <;> rfl
          | regular =>
            dsimp only
            split
            · rename_i hempty
              exact hprobe rfl (List.isEmpty_iff.mp hempty) c₁ hensured
            · rw [sendAll_mapSocket hg]
              obtain ⟨answer, c⟩ := (c₁.anchorSend now.first).sendAll now.later 0 data
              cases answer with
              | error e => rfl
              | ok written => exact writeOutcome_mapSocket hg.toIsOutline c written data.length

/-- `sendDatagram` over a view that may hide interruptions: it would try again after them. -/
theorem sendDatagram_mapSocket (c : Client τ) (now : Duration) (data : Bytes) :
    (c.mapSocket g).sendDatagram now data = (c.sendDatagram now data).mapSocket g := by
  have htrack_view : ∀ {c c' : Client τ} {n : Nat} {s : τ} {answer},
      { c with socket := s }.trackSend now n = (answer, c') →
      { c.mapSocket g with socket := g s }.trackSend now n = (answer, c'.mapSocket g) := by
    intro c c' n s answer htrack
    exact (trackSend_mapSocket g { c with socket := s } now n).trans
      (congrArg (Answer.mapSocket g) htrack)
  fun_induction sendDatagram c now data with
  | case1 c sent s hsend c₁ hsent e c₂ htrack =>
    rw [sendDatagram_ok now (hg.send_ok hsend), if_pos hsent, htrack_view htrack]
    rfl
  | case2 c sent s hsend c₁ hsent c₂ htrack =>
    rw [sendDatagram_ok now (hg.send_ok hsend), if_pos hsent, htrack_view htrack]
    rfl
  | case3 c sent s hsend c₁ hsent =>
    rw [sendDatagram_ok now (hg.send_ok hsend), if_neg hsent]
    exact stalled_mapSocket hg.toIsOutline { c with socket := s } _
  | case4 c e s hsend c' hblocked =>
    rw [sendDatagram_error now (hg.send_blocked hsend hblocked), if_pos hblocked]
    exact stalled_mapSocket hg.toIsOutline { c with socket := s } _
  | case5 c e s hsend c' hblocked hinterrupted ih =>
    rcases hg.send_interrupted hsend with hseen | hsame
    · rw [sendDatagram_error now hseen, if_neg hblocked, if_pos hinterrupted]
      exact ih
    · -- the turn is not seen: the client is where it was
      rw [← ih]
      exact congrArg (fun s => sendDatagram { c.mapSocket g with socket := s } now data) hsame.symm
  | case6 c e s hsend c' hblocked hinterrupted =>
    rw [sendDatagram_error now (hg.send_error hsend hinterrupted), if_neg hblocked,
      if_neg hinterrupted]
    exact congrArg failed (sendError_mapSocket hg.toIsOutline { c with socket := s } e)

/-- A write to a datagram socket sees no interruption. -/
theorem writeDatagram_mapSocket (c : Client τ) (now : Clock) (data : Bytes) (ch : Channel) :
    (c.mapSocket g).writeDatagram now data ch = (c.writeDatagram now data ch).mapSocket g := by
  have hconfig : (c.mapSocket g).config = c.config := rfl
  have hanchor : (c.mapSocket g).anchorSend now.first = (c.anchorSend now.first).mapSocket g := rfl
  unfold writeDatagram
  rw [hconfig, hanchor]
  split
  · -- the channel is refused
    rfl
  · dsimp only
    split
    · -- the datagram is too long
      rfl
    · exact sendDatagram_mapSocket hg (c.anchorSend now.first) now.later.first data

end Retrying

section Writing

variable {τ σ : Type} [Endpoint τ] [Endpoint σ] {g : τ → σ} (hg : Endpoint.IsView g)
include hg

/-- `sendUrgent` over a view that shows every call. -/
theorem sendUrgent_mapSocket (c : Client τ) (sent : Nat) (data : Bytes) :
    (c.mapSocket g).sendUrgent sent data = (c.sendUrgent sent data).mapSocket g := by
  induction data generalizing c sent with
  | nil => rfl
  | cons b rest ih =>
    exact sendUrgent_cons_mapSocket hg.outline rfl (hg.send_eq rfl) fun _ _ => ih _ _

/-- `probe` over a view that shows every call. -/
theorem probe_mapSocket (c : Client τ) : (c.mapSocket g).probe = c.probe.mapSocket g :=
  probe_mapSocket_of hg.outline rfl (hg.send_eq rfl)

/-- A write does not see a view. -/
theorem write_mapSocket (kind : ClientKind) (c : Client τ) (now : Clock) (data : Bytes)
    (ch : Channel) :
    (c.mapSocket g).write kind now data ch = (c.write kind now data ch).mapSocket g := by
  cases kind with
  | stream =>
    exact writeStream_mapSocket_of hg.hides (fun _ _ _ c₁ _ => sendUrgent_mapSocket hg _ 0 data)
      (fun _ _ c₁ _ => probe_mapSocket hg _)
  | datagram => exact writeDatagram_mapSocket hg.hides c now data ch

/-- Nor does the making of a client. -/
theorem make_mapSocket (kind : ClientKind) (s : τ) (config : Config) (now : Duration) :
    make kind (g s) config now = (make kind s config now).mapSocket g := by
  cases kind with
  | stream => rfl
  | datagram =>
    simp only [make, newDatagram, hg.remoteAddress_view]
    obtain ⟨answer, s⟩ := Endpoint.remoteAddress s
    cases answer with
    | error e => rfl
    | ok found => cases found <;> rfl

end Writing

end Client

end FrameSocket
