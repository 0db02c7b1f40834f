import FrameSocket.Client.State

/-!
# Clients of streams

A stream client may be made while its socket is still connecting.  Until the
connection stands, reads answer an empty unfinished frame and writes answer
zero; once it has stood and is gone, every operation fails.

A read goes through four stages:

1. `ensureConnected`;
2. the leftover of the last frame is fed to the framer;
3. `receiveAll` receives and feeds until the frame is complete, nothing more is
   there, the other side has closed, or a call fails;
4. `readOutcome` decides between a frame, an unfinished frame, and an error.

A write sends until everything is sent or the socket takes no more.  Only a
write that moved nothing costs an attempt.
-/

namespace FrameSocket.Client

variable {σ φ : Type} [Endpoint σ] [Framer φ]

/-- Refuses the urgent channel where the transport has none. -/
def checkChannel (c : Client σ) (ch : Channel) : Except NetworkError Unit :=
  match ch with
  | .regular => .ok ()
  | .urgent =>
    let transport := Endpoint.transport c.socket
    if transport.hasUrgentChannel then .ok ()
    else .error (.unsupported ("out-of-band data on " ++ transport.name))

/-- Finds out whether the connection stands; `false` means that it may yet come. -/
def ensureConnected (c : Client σ) (now : Duration) : Answer σ Bool :=
  if c.isConnected then (.ok true, c)
  -- A connection that was lost is not looked for again
  else if c.wasConnected then failed c.lost
  else
    match Endpoint.remoteAddress c.socket with
    | (.ok (some address), socket) => (.ok true, { c with socket }.markConnected address)
    | (.error e, socket) => failed ({ c with socket }.refused e.message)
    | (.ok none, socket) =>
      -- No peer yet: the connect may have failed, or may still be in flight
      match Endpoint.takeError socket with
      | (.error e, socket) => (.error (.io e), { c with socket })
      | (.ok (some e), socket) => failed ({ c with socket }.refused e.message)
      | (.ok none, socket) =>
        let c := { c with socket }
        if c.config.connectionTimeout < now - c.createdAt then
          failed (c.refused "connection timed out")
        else (.ok false, c)

/-! ## Reading -/

/-- What a receiving call of a stream comes to. -/
inductive Received where
  /-- Bytes, at least one. -/
  | data (bytes : Bytes)
  /-- Nothing is there at the moment. -/
  | nothing
  /-- The other side has closed. -/
  | closed
  /-- The call was cut short and is made again. -/
  | interrupted
  | failed (error : IoError)

/-- Sorts the answer of a receiving call.  On the urgent channel an empty answer
and an invalid argument both mean that no urgent byte is there. -/
def Received.of (ch : Channel) : Except IoError Bytes → Received
  | .ok (b :: bytes) => .data (b :: bytes)
  | .ok [] => match ch with
    | .regular => .closed
    | .urgent => .nothing
  | .error e =>
    if e.isBlocked then .nothing
    else if ch = .urgent ∧ e.kind = .invalidInput then .nothing
    else if e.isInterrupted then .interrupted
    else .failed e

/-- The ways in which `Received.of` sorts an answer. -/
inductive Received.Sorts (ch : Channel) : Except IoError Bytes → Received → Prop where
  | data {b : UInt8} {bytes : Bytes} : Sorts ch (.ok (b :: bytes)) (.data (b :: bytes))
  | closed (hch : ch = .regular) : Sorts ch (.ok []) .closed
  | empty (hch : ch = .urgent) : Sorts ch (.ok []) .nothing
  | blocked {e : IoError} (hblocked : e.isBlocked = true) : Sorts ch (.error e) .nothing
  | invalid {e : IoError} (hch : ch = .urgent) (hkind : e.kind = .invalidInput) :
      Sorts ch (.error e) .nothing
  | interrupted {e : IoError} (hinterrupted : e.isInterrupted = true) :
      Sorts ch (.error e) .interrupted
  | failed {e : IoError} (hblocked : e.isBlocked = false)
      (hinterrupted : e.isInterrupted = false) : Sorts ch (.error e) (.failed e)

/-- `Received.of` sorts every answer in one of these ways. -/
theorem Received.sorts (ch : Channel) (answer : Except IoError Bytes) :
    Received.Sorts ch answer (Received.of ch answer) := by
  unfold Received.of
  split
  · exact .data
  · cases ch with
    | regular => exact .closed rfl
    | urgent => exact .empty rfl
  · -- The tests of an error, in their order
    rename_i e
    by_cases hblocked : e.isBlocked = true
    · rw [if_pos hblocked]
      exact .blocked hblocked
    rw [if_neg hblocked]
    by_cases hinvalid : ch = .urgent ∧ e.kind = .invalidInput
    · rw [if_pos hinvalid]
      exact .invalid hinvalid.1 hinvalid.2
    rw [if_neg hinvalid]
    by_cases hinterrupted : e.isInterrupted = true
    · rw [if_pos hinterrupted]
      exact .interrupted hinterrupted
    · rw [if_neg hinterrupted]
      exact .failed (Bool.eq_false_iff.mpr hblocked) (Bool.eq_false_iff.mpr hinterrupted)

/-- `Received.of` speaks of data only for an answer that has some. -/
theorem Received.of_eq_data {ch : Channel} {answer : Except IoError Bytes} {bytes : Bytes}
    (h : Received.of ch answer = .data bytes) : answer = .ok bytes ∧ bytes ≠ [] := by
  have hsorts := Received.sorts ch answer
  rw [h] at hsorts
  cases hsorts with
  | data => exact ⟨rfl, List.cons_ne_nil _ _⟩

/-- `Received.of` speaks of an interruption only for an error that is one. -/
theorem Received.of_eq_interrupted {ch : Channel} {answer : Except IoError Bytes}
    (h : Received.of ch answer = .interrupted) :
    ∃ e, answer = .error e ∧ e.isInterrupted = true := by
  have hsorts := Received.sorts ch answer
  rw [h] at hsorts
  cases hsorts with
  | interrupted hinterrupted => exact ⟨_, rfl, hinterrupted⟩

/-- How the receiving stage of a read ended. -/
inductive Pause where
  /-- The frame is complete, or nothing more is there at the moment. -/
  | idle
  /-- The other side has closed. -/
  | closed
  | failed (error : NetworkError)

/-- What the receiving stage leaves. -/
structure Reception (σ φ : Type) where
  pause : Pause
  /-- Whether any bytes were received. -/
  receivedAny : Bool
  client : Client σ
  framer : φ

/-- Whether a peek saw a byte.  A peek that fails saw none. -/
def sawByte : Except IoError Nat → Bool
  | .ok n => decide (0 < n)
  | .error _ => false

/-- Receives and feeds until the frame is complete or there is nothing to
receive.  When a receiving call finds nothing, a peek looks once whether bytes
have come in between, and if so one more call is made for them. -/
def receiveAll (c : Client σ) (now : Clock) (f : φ) (ch : Channel)
    (receivedAny retried : Bool) : Reception σ φ :=
  let answer := Endpoint.recv c.socket ch c.bufferSize
  match _h : Received.of ch answer.1 with
  | .closed => ⟨.closed, receivedAny, { c with socket := answer.2 }, f⟩
  | .failed e =>
    let failure := { c with socket := answer.2 }.receiveError e
    ⟨.failed failure.1, receivedAny, failure.2, f⟩
  | .interrupted => receiveAll { c with socket := answer.2 } now f ch receivedAny retried
  | .data bytes =>
    let fed := { c with socket := answer.2 }.refillReads.feed f ch bytes none
    let tracked := fed.1.trackReceive now.first bytes.length
    match tracked.1 with
    | .error e => ⟨.failed e, true, tracked.2, fed.2⟩
    | .ok () =>
      if Framer.isComplete fed.2 then ⟨.idle, true, tracked.2, fed.2⟩
      else receiveAll tracked.2 now.later fed.2 ch true retried
  | .nothing =>
    let peeked := Endpoint.peek answer.2 ch
    let pending := sawByte peeked.1
    if _hr : pending = true ∧ retried = false then
      receiveAll { c with socket := peeked.2 } now f ch receivedAny true
    else
      let c := { c with socket := peeked.2 }
      -- Only a read that saw no sign of a byte is dry.
      let c := if pending || receivedAny then c else c.dryRead
      ⟨.idle, receivedAny, c, f⟩
termination_by (Endpoint.supply c.socket, if retried then 0 else 1)
decreasing_by
  · -- interrupted: the call used something up
    obtain ⟨e, he, hi⟩ := Received.of_eq_interrupted _h
    exact Prod.Lex.left _ _ (Endpoint.supply_recv_interrupted _ _ _ e he hi)
  · -- bytes came: they are no longer in the socket
    obtain ⟨he, hn⟩ := Received.of_eq_data _h
    refine Prod.Lex.left _ _ ?_
    simp only [socket_trackReceive, socket_feed]
    exact Endpoint.supply_recv_data _ _ _ bytes he hn
  · -- the one retry after a peek that found a byte
    have hle : Endpoint.supply peeked.2 ≤ Endpoint.supply c.socket :=
      Nat.le_trans (Endpoint.supply_peek_le _ _) (Endpoint.supply_recv_le _ _ _)
    rcases Nat.lt_or_eq_of_le hle with hlt | heq
    · exact Prod.Lex.left _ _ hlt
    · simp only [_hr.2]
      rw [heq]
      exact Prod.Lex.right _ (by decide)

/-- Decides what a read comes to after its receiving stage. -/
def readOutcome (r : Reception σ φ) : Answer σ (Incoming σ) × φ :=
  match r.pause with
  | .failed e => ((.error e, r.client), r.framer)
  | pause =>
    if Framer.isComplete r.framer then (r.client.complete r.framer, r.framer)
    else match pause with
      | .closed =>
        -- A framer may take the end of the stream for the end of its frame.
        let (f, ended) := Framer.close r.framer
        if ended then (r.client.disconnect.complete f, f) else (failed r.client.lost, f)
      | _ =>
        if !r.receivedAny && r.client.readAttempts = 0 then
          (r.client.incomplete r.framer "read attempts exhausted", r.framer)
        else (r.client.unfinished r.framer, r.framer)

/-- Reads the next frame of a stream with the given framer. -/
def readStream (c : Client σ) (now : Clock) (f : φ) (ch : Channel) :
    Answer σ (Incoming σ) × φ :=
  match c.checkChannel ch with
  | .error e => ((.error e, c), f)
  | .ok () =>
    match c.ensureConnected now.first with
    | (.error e, c) => ((.error e, c), f)
    | (.ok false, c) => ((.ok (.unfinished .empty), c), f)
    | (.ok true, c) =>
      let c := c.anchorReceive now.first
      if Framer.isComplete f then (c.complete f, f)
      else
        -- What was left over comes before anything that is still to be received
        let (c, f) := c.replay f ch
        if Framer.isComplete f then (c.complete f, f)
        else readOutcome (c.receiveAll now.later f ch false false)

/-! ## Writing -/

/-- Sends urgent bytes one by one, until the socket takes no more. -/
def sendUrgent (c : Client σ) (sent : Nat) : Bytes → Answer σ Nat
  | [] => (.ok sent, c)
  | b :: rest =>
    match Endpoint.send c.socket .urgent [b] with
    | (.ok 0, socket) => (.ok sent, { c with socket })
    | (.ok _, socket) => sendUrgent { c with socket } (sent + 1) rest
    | (.error e, socket) =>
      if e.isBlocked then (.ok sent, { c with socket })
      else failed ({ c with socket }.sendError e)

/-- Sends the data until everything is sent or the socket takes no more, and
answers how much was sent.  `written` bytes have been sent before. -/
def sendAll (c : Client σ) (now : Clock) (written : Nat) (data : Bytes) : Answer σ Nat :=
  match data with
  | [] => (.ok written, c)
  | b :: rest =>
    match _h : Endpoint.send c.socket .regular (b :: rest) with
    -- A socket that takes nothing is asked again by the next write
    | (.ok 0, socket) => (.ok written, { c with socket })
    | (.ok (n + 1), socket) =>
      match { c with socket }.refillWrites.trackSend now.first (n + 1) with
      | (.error e, c) => (.error e, c)
      -- Each reading of the clock is used for one send
      | (.ok (), c) => c.sendAll now.later (written + (n + 1)) (rest.drop n)
    | (.error e, socket) =>
      if e.isBlocked then (.ok written, { c with socket })
      else if _hi : e.isInterrupted then { c with socket }.sendAll now written (b :: rest)
      else failed ({ c with socket }.sendError e)
termination_by (data.length, Endpoint.patience c.socket)
decreasing_by
  · -- something was sent
    exact Prod.Lex.left _ _ (by simp only [List.length_drop, List.length_cons]; omega)
  · -- interrupted
    have he := Endpoint.patience_send_interrupted c.socket .regular (b :: rest) e
    rw [_h] at he
    exact Prod.Lex.right _ (he rfl _hi)

/-- The end of a write that moved nothing: the last attempt's is an error. -/
def stalled (c : Client σ) (reason : String) : Answer σ Nat :=
  let c := c.spendWrite
  if c.writeAttempts = 0 then
    -- The next write has a full budget again.
    let c := c.refillWrites
    (.error (.sendFailed c.address (.described .writeZero reason)), c)
  else (.ok 0, c)

/-- Decides what a regular write of `length` bytes comes to, of which `written`
were sent. -/
def writeOutcome (c : Client σ) (written length : Nat) : Answer σ Nat :=
  if written = length then (.ok written, c.finishSend)
  else if written = 0 then
    c.stalled ("none of " ++ toString length ++ " bytes sent")
  else (.ok written, c)

/-- Sends nothing, to see whether the connection still stands. -/
def probe (c : Client σ) : Answer σ Nat :=
  match Endpoint.send c.socket .regular [] with
  | (.ok _, socket) => (.ok 0, { c with socket })
  | (.error e, socket) =>
    if e.isBlocked then (.ok 0, { c with socket }) else failed ({ c with socket }.sendError e)

/-- Refuses more urgent bytes than one write may send. -/
def checkUrgentSize (c : Client σ) (ch : Channel) (data : Bytes) : Except NetworkError Unit :=
  if ch = .urgent ∧ c.config.urgentLimit < data.length then
    .error (.unsupported (toString data.length ++ " out-of-band bytes exceed the limit of "
      ++ toString c.config.urgentLimit))
  else .ok ()

/-- Writes a beginning of the data to a stream, and answers how long it is. -/
def writeStream (c : Client σ) (now : Clock) (data : Bytes) (ch : Channel) : Answer σ Nat :=
  match c.checkChannel ch with
  | .error e => (.error e, c)
  | .ok () =>
    match c.checkUrgentSize ch data with
    | .error e => (.error e, c)
    | .ok () =>
      match c.ensureConnected now.first with
      | (.error e, c) => (.error e, c)
      | (.ok false, c) => (.ok 0, c)
      | (.ok true, c) =>
        -- The window opens before the path is chosen
        let c := c.anchorSend now.first
        match ch with
        | .urgent =>
          match c.sendUrgent 0 data with
          | (.error e, c) => (.error e, c)
          | (.ok sent, c) =>
            match c.trackSend now.later.first sent with
            | (.error e, c) => (.error e, c)
            | (.ok (), c) => (.ok sent, c)
        | .regular =>
          -- Nothing to send: the connection is looked at instead
          if data.isEmpty then c.probe
          else
            match c.sendAll now.later 0 data with
            | (.error e, c) => (.error e, c)
            | (.ok written, c) => c.writeOutcome written data.length

end FrameSocket.Client
