import FrameSocket.Client.Datagram

/-!
# One turn of each loop

`Receives` has one rule for each way in which the receiving loop of a stream
goes on or ends.  `receiveAll` follows the rules, and they leave no choice, so a
fact about the loop is proved by induction on a derivation, one named case for
each rule.  The other loops turn again only after an interruption or a partial
send, and have one equation for each answer of the socket.

## Key results

- `receives_receiveAll`: the receiving loop follows the rules
- `Receives.receiveAll_eq`: the rules determine what the loop leaves
- `finds_ensureConnected`: the ways in which the connection is looked for
- `reads_readStream` / `writes_writeStream`: the ways in which a read and a write go
- `readStream_of_receives`: a read is its receiving loop and the outcome
- `readStream_of_dry`: a read that finds nothing
- `trackReceive_of_calm` / `trackReceive_of_alarm`: what a watchdog says to bytes
- `receiveDatagram_ok` / `receiveDatagram_error`: one turn of a datagram's receipt
- `readDatagram_of_complete` / `readDatagram_of_alarm`: a read that is ended by a datagram
- `sendUrgent_drop`: urgent bytes go out one after the other
- `sendAll_ok` / `sendAll_error`: one turn of the sending loop
- `writeStream_of_isConnected`: a write over a connection is its sending loop
- `writeStream_of_urgent`: a write to the urgent channel
- `sendDatagram_ok` / `sendDatagram_error`: one turn of the sending of a datagram
-/

namespace FrameSocket.Client

variable {σ φ : Type} [Endpoint σ] [Framer φ]

/-! ## Finding the connection -/

/-- The ways in which a stream client finds out whether its connection stands. -/
inductive Finds (c : Client σ) (now : Duration) : Except NetworkError Bool → Client σ → Prop
  /-- It is known to stand. -/
  | stands (hconn : c.isConnected = true) : Finds c now (.ok true) c
  /-- It has stood, and is gone. -/
  | gone (hconn : c.isConnected = false) (hwas : c.wasConnected = true) :
      Finds c now (.error c.lost.1) c.lost.2
  /-- The socket names the peer. -/
  | named {address : String} {s : σ} (hconn : c.isConnected = false)
      (hwas : c.wasConnected = false)
      (hremote : Endpoint.remoteAddress c.socket = (.ok (some address), s)) :
      Finds c now (.ok true) ({ c with socket := s }.markConnected address)
  /-- The socket fails to name a peer. -/
  | unreachable {e : IoError} {s : σ} (hconn : c.isConnected = false)
      (hwas : c.wasConnected = false)
      (hremote : Endpoint.remoteAddress c.socket = (.error e, s)) :
      Finds c now (.error (.connectionRefused { c with socket := s }.address e.message))
        { c with socket := s }
  /-- There is no peer, and the socket fails to tell its pending error. -/
  | unanswered {e : IoError} {s s' : σ} (hconn : c.isConnected = false)
      (hwas : c.wasConnected = false)
      (hremote : Endpoint.remoteAddress c.socket = (.ok none, s))
      (herror : Endpoint.takeError s = (.error e, s')) :
      Finds c now (.error (.io e)) { c with socket := s' }
  /-- There is no peer, but a pending error. -/
  | failed {e : IoError} {s s' : σ} (hconn : c.isConnected = false)
      (hwas : c.wasConnected = false)
      (hremote : Endpoint.remoteAddress c.socket = (.ok none, s))
      (herror : Endpoint.takeError s = (.ok (some e), s')) :
      Finds c now (.error (.connectionRefused { c with socket := s' }.address e.message))
        { c with socket := s' }
  /-- There is neither, and it is too late for a peer to come. -/
  | late {s s' : σ} (hconn : c.isConnected = false) (hwas : c.wasConnected = false)
      (hremote : Endpoint.remoteAddress c.socket = (.ok none, s))
      (herror : Endpoint.takeError s = (.ok none, s'))
      (hlate : c.config.connectionTimeout < now - c.createdAt) :
      Finds c now
        (.error (.connectionRefused { c with socket := s' }.address "connection timed out"))
        { c with socket := s' }
  /-- There is neither, and the connection may yet come. -/
  | waiting {s s' : σ} (hconn : c.isConnected = false) (hwas : c.wasConnected = false)
      (hremote : Endpoint.remoteAddress c.socket = (.ok none, s))
      (herror : Endpoint.takeError s = (.ok none, s'))
      (hlate : ¬ c.config.connectionTimeout < now - c.createdAt) :
      Finds c now (.ok false) { c with socket := s' }

/-- `ensureConnected` ends in one of the ways of `Finds`. -/
theorem finds_ensureConnected {c c' : Client σ} {now : Duration}
    {answer : Except NetworkError Bool} (h : c.ensureConnected now = (answer, c')) :
    Finds c now answer c' := by
  unfold ensureConnected at h
  split at h
  · rename_i hconn
    cases h
    exact .stands hconn
  · rename_i hconn
    rw [Bool.not_eq_true] at hconn
    split at h
    · rename_i hwas
      cases h
      exact .gone hconn hwas
    · rename_i hwas
      rw [Bool.not_eq_true] at hwas
      -- The socket is asked for the peer's address, and then for a pending error
      split at h
      · rename_i hremote
        cases h
        exact .named hconn hwas hremote
      · rename_i hremote
        cases h
        exact .unreachable hconn hwas hremote
      · rename_i hremote
        split at h
        · rename_i herror
          cases h
          exact .unanswered hconn hwas hremote herror
        · rename_i herror
          cases h
          exact .failed hconn hwas hremote herror
        · rename_i herror
          dsimp only at h
          split at h
          · rename_i hlate
            cases h
            exact .late hconn hwas hremote herror hlate
          · rename_i hlate
            cases h
            exact .waiting hconn hwas hremote herror hlate

/-- Where the connection stands, the client knows it. -/
theorem isConnected_of_ensureConnected {c c' : Client σ} {now : Duration}
    (h : c.ensureConnected now = (.ok true, c')) : c'.isConnected = true := by
  cases finds_ensureConnected h with
  | stands hconn => exact hconn
  | named _ _ _ => rfl

/-- Where it may yet come, it does not. -/
theorem not_isConnected_of_ensureConnected {c c' : Client σ} {now : Duration}
    (h : c.ensureConnected now = (.ok false, c')) : c'.isConnected = false := by
  cases finds_ensureConnected h with
  | waiting hconn _ _ _ _ => exact hconn

/-- A connection that stands is not looked into. -/
theorem ensureConnected_of_isConnected {c : Client σ} (h : c.isConnected = true)
    (now : Duration) : c.ensureConnected now = (.ok true, c) := by
  rw [ensureConnected, if_pos h]

/-! ## What a receiving call comes to -/

/-- Only the regular channel has an end, told by an empty answer. -/
theorem Received.of_eq_closed {ch : Channel} {answer : Except IoError Bytes}
    (h : Received.of ch answer = .closed) : ch = .regular ∧ answer = .ok [] := by
  have hsorts := Received.sorts ch answer
  rw [h] at hsorts
  cases hsorts with
  | closed hch => exact ⟨hch, rfl⟩

/-- On the regular channel nothing is there only where the call would have to wait. -/
theorem Received.of_regular_eq_nothing {answer : Except IoError Bytes}
    (h : Received.of .regular answer = .nothing) :
    ∃ e, answer = .error e ∧ e.isBlocked = true := by
  have hsorts := Received.sorts .regular answer
  rw [h] at hsorts
  cases hsorts with
  | blocked hblocked => exact ⟨_, rfl, hblocked⟩
  -- No bytes and an invalid argument count on the urgent channel only
  | empty hch | invalid hch _ => exact nomatch hch

/-- A call fails that neither would have to wait nor was interrupted. -/
theorem Received.of_eq_failed {ch : Channel} {answer : Except IoError Bytes} {e : IoError}
    (h : Received.of ch answer = .failed e) :
    answer = .error e ∧ e.isBlocked = false ∧ e.isInterrupted = false := by
  have hsorts := Received.sorts ch answer
  rw [h] at hsorts
  cases hsorts with
  | failed hblocked hinterrupted => exact ⟨rfl, hblocked, hinterrupted⟩

/-! ## Receiving from a stream -/

/-- The rules of the receiving loop.  `s` is the socket after the receiving call,
    `s'` the socket after the peek that follows an empty one. -/
inductive Receives (ch : Channel) :
    Clock → Client σ → φ → Bool → Bool → Reception σ φ → Prop
  | closed {now : Clock} {c : Client σ} {f : φ} {any retried : Bool}
      {answer : Except IoError Bytes} {s : σ}
      (hrecv : Endpoint.recv c.socket ch c.bufferSize = (answer, s))
      (hof : Received.of ch answer = .closed) :
      Receives ch now c f any retried ⟨.closed, any, { c with socket := s }, f⟩
  | failed {now : Clock} {c : Client σ} {f : φ} {any retried : Bool}
      {answer : Except IoError Bytes} {s : σ} {e : IoError}
      (hrecv : Endpoint.recv c.socket ch c.bufferSize = (answer, s))
      (hof : Received.of ch answer = .failed e) :
      Receives ch now c f any retried
        ⟨.failed ({ c with socket := s }.receiveError e).1, any,
          ({ c with socket := s }.receiveError e).2, f⟩
  | interrupted {now : Clock} {c : Client σ} {f : φ} {any retried : Bool}
      {answer : Except IoError Bytes} {s : σ} {r : Reception σ φ}
      (hrecv : Endpoint.recv c.socket ch c.bufferSize = (answer, s))
      (hof : Received.of ch answer = .interrupted)
      (hnext : Receives ch now { c with socket := s } f any retried r) :
      Receives ch now c f any retried r
  | slow {now : Clock} {c c₁ c₂ : Client σ} {f f₁ : φ} {any retried : Bool}
      {answer : Except IoError Bytes} {s : σ} {bytes : Bytes} {e : NetworkError}
      (hrecv : Endpoint.recv c.socket ch c.bufferSize = (answer, s))
      (hof : Received.of ch answer = .data bytes)
      (hfeed : { c with socket := s }.refillReads.feed f ch bytes none = (c₁, f₁))
      (htrack : c₁.trackReceive now.first bytes.length = (.error e, c₂)) :
      Receives ch now c f any retried ⟨.failed e, true, c₂, f₁⟩
  | complete {now : Clock} {c c₁ c₂ : Client σ} {f f₁ : φ} {any retried : Bool}
      {answer : Except IoError Bytes} {s : σ} {bytes : Bytes}
      (hrecv : Endpoint.recv c.socket ch c.bufferSize = (answer, s))
      (hof : Received.of ch answer = .data bytes)
      (hfeed : { c with socket := s }.refillReads.feed f ch bytes none = (c₁, f₁))
      (htrack : c₁.trackReceive now.first bytes.length = (.ok (), c₂))
      (hdone : Framer.isComplete f₁ = true) :
      Receives ch now c f any retried ⟨.idle, true, c₂, f₁⟩
  | more {now : Clock} {c c₁ c₂ : Client σ} {f f₁ : φ} {any retried : Bool}
      {answer : Except IoError Bytes} {s : σ} {bytes : Bytes} {r : Reception σ φ}
      (hrecv : Endpoint.recv c.socket ch c.bufferSize = (answer, s))
      (hof : Received.of ch answer = .data bytes)
      (hfeed : { c with socket := s }.refillReads.feed f ch bytes none = (c₁, f₁))
      (htrack : c₁.trackReceive now.first bytes.length = (.ok (), c₂))
      (hdone : Framer.isComplete f₁ = false)
      (hnext : Receives ch now.later c₂ f₁ true retried r) :
      Receives ch now c f any retried r
  | again {now : Clock} {c : Client σ} {f : φ} {any : Bool} {answer : Except IoError Bytes}
      {s s' : σ} {peeked : Except IoError Nat} {r : Reception σ φ}
      (hrecv : Endpoint.recv c.socket ch c.bufferSize = (answer, s))
      (hof : Received.of ch answer = .nothing)
      (hpeek : Endpoint.peek s ch = (peeked, s'))
      (hsaw : sawByte peeked = true)
      (hnext : Receives ch now { c with socket := s' } f any true r) :
      Receives ch now c f any false r
  | idle {now : Clock} {c : Client σ} {f : φ} {any retried : Bool}
      {answer : Except IoError Bytes} {s s' : σ} {peeked : Except IoError Nat}
      (hrecv : Endpoint.recv c.socket ch c.bufferSize = (answer, s))
      (hof : Received.of ch answer = .nothing)
      (hpeek : Endpoint.peek s ch = (peeked, s'))
      (hsaw : ¬ (sawByte peeked = true ∧ retried = false)) :
      Receives ch now c f any retried
        ⟨.idle, any, if sawByte peeked || any then { c with socket := s' }
          else { c with socket := s' }.dryRead, f⟩

/-- The receiving loop follows its rules. -/
theorem receives_receiveAll (c : Client σ) (now : Clock) (f : φ) (ch : Channel)
    (any retried : Bool) :
    Receives ch now c f any retried (c.receiveAll now f ch any retried) := by
  fun_induction receiveAll c now f ch any retried with
  | case1 c now f any retried answer hof => exact .closed rfl hof
  | case2 c now f any retried answer e hof failure => exact .failed rfl hof
  | case3 c now f any retried answer hof ih => exact .interrupted rfl hof ih
  | case4 c now f any retried answer bytes hof fed tracked e he =>
    exact .slow rfl hof rfl (Prod.ext he rfl)
  | case5 c now f any retried answer bytes hof fed tracked he hdone =>
    exact .complete rfl hof rfl (Prod.ext he rfl) hdone
  | case6 c now f any retried answer bytes hof fed tracked he hdone ih =>
    exact .more rfl hof rfl (Prod.ext he rfl) (Bool.eq_false_iff.mpr hdone) ih
  -- The one retry: a byte was seen where none was received
  | case7 c now f any retried answer hof peeked pending hr ih =>
    obtain ⟨hsaw, rfl⟩ := hr
    exact .again rfl hof rfl hsaw ih
  | case8 c now f any retried answer hof peeked pending hr =>
    exact .idle rfl hof rfl hr

/-- The rules determine what the loop leaves. -/
theorem Receives.receiveAll_eq {now : Clock} {ch : Channel} {c : Client σ} {f : φ}
    {any retried : Bool} {r : Reception σ φ} (h : Receives ch now c f any retried r) :
    c.receiveAll now f ch any retried = r := by
  induction h with
  | closed hrecv hof | failed hrecv hof | interrupted hrecv hof hnext ih
  | slow hrecv hof hfeed htrack | complete hrecv hof hfeed htrack hdone
  | more hrecv hof hfeed htrack hdone hnext ih | again hrecv hof hpeek hsaw hnext ih
  | idle hrecv hof hpeek hsaw =>
    rw [receiveAll]
    simp only [hrecv]
    split <;> simp_all

/-- The ways in which a read of a stream goes. -/
inductive ReadsStream (c : Client σ) (now : Clock) (f : φ) (ch : Channel) :
    Answer σ (Incoming σ) × φ → Prop
  /-- The transport does not have the channel. -/
  | refused {e : NetworkError} (hchannel : c.checkChannel ch = .error e) :
      ReadsStream c now f ch ((.error e, c), f)
  /-- The connection is not there. -/
  | failed {c₁ : Client σ} {e : NetworkError}
      (hensured : c.ensureConnected now.first = (.error e, c₁)) :
      ReadsStream c now f ch ((.error e, c₁), f)
  /-- The connection may yet come. -/
  | waiting {c₁ : Client σ} (hensured : c.ensureConnected now.first = (.ok false, c₁)) :
      ReadsStream c now f ch ((.ok (.unfinished .empty), c₁), f)
  /-- The framer was complete. -/
  | ready {c₁ : Client σ} (hensured : c.ensureConnected now.first = (.ok true, c₁))
      (hdone : Framer.isComplete f = true) :
      ReadsStream c now f ch ((c₁.anchorReceive now.first).complete f, f)
  /-- What waits completes the framer. -/
  | replayed {c₁ c₂ : Client σ} {f₂ : φ} (hensured : c.ensureConnected now.first = (.ok true, c₁))
      (hreplay : (c₁.anchorReceive now.first).replay f ch = (c₂, f₂))
      (hdone : Framer.isComplete f₂ = true) : ReadsStream c now f ch (c₂.complete f₂, f₂)
  /-- The rest comes from the socket. -/
  | received {c₁ c₂ : Client σ} {f₂ : φ} {r : Reception σ φ}
      (hensured : c.ensureConnected now.first = (.ok true, c₁))
      (hreplay : (c₁.anchorReceive now.first).replay f ch = (c₂, f₂))
      (hopen : Framer.isComplete f₂ = false) (hloop : Receives ch now.later c₂ f₂ false false r) :
      ReadsStream c now f ch (readOutcome r)

/-- `readStream` ends in one of the ways of `ReadsStream`. -/
theorem reads_readStream (c : Client σ) (now : Clock) (f : φ) (ch : Channel) :
    ReadsStream c now f ch (c.readStream now f ch) := by
  unfold readStream
  split
  · rename_i hchannel
    exact .refused hchannel
  · split
    · rename_i hensured
      exact .failed hensured
    · rename_i hensured
      exact .waiting hensured
    · rename_i c₁ hensured
      dsimp only
      -- Behind the connection come a complete framer, the leftovers and the loop, in this order
      split
      · rename_i hdone
        exact .ready hensured hdone
      · split
        · rename_i hdone
          exact .replayed hensured rfl hdone
        · rename_i hopen
          exact .received hensured rfl (Bool.eq_false_iff.mpr hopen)
            (receives_receiveAll _ now.later _ ch false false)

/-- A read whose framer neither was complete nor is completed by what waits is its
    receiving loop and the outcome. -/
theorem readStream_of_receives {c c₁ c₂ : Client σ} {now : Clock} {ch : Channel} {f f₂ : φ}
    {r : Reception σ φ} (hchannel : c.checkChannel ch = .ok ())
    (hensured : c.ensureConnected now.first = (.ok true, c₁)) (hopen : Framer.isComplete f = false)
    (hreplay : (c₁.anchorReceive now.first).replay f ch = (c₂, f₂))
    (hopen₂ : Framer.isComplete f₂ = false) (hloop : Receives ch now.later c₂ f₂ false false r) :
    c.readStream now f ch = readOutcome r := by
  simp only [readStream, hchannel, hensured, hopen, hreplay, hopen₂, hloop.receiveAll_eq,
    Bool.false_eq_true, if_false]

/-- A read that finds nothing, neither left over nor in the socket. -/
theorem readStream_of_dry {c d : Client σ} {now : Clock} {f : φ} {ch : Channel}
    {answer : Except IoError Bytes} {peeked : Except IoError Nat} {s s' : σ}
    (hchannel : c.checkChannel ch = .ok ()) (hensured : c.ensureConnected now.first = (.ok true, d))
    (hopen : Framer.isComplete f = false) (hleft : d.leftovers.get ch = none)
    (hrecv : Endpoint.recv d.socket ch d.bufferSize = (answer, s))
    (hof : Received.of ch answer = .nothing) (hpeek : Endpoint.peek s ch = (peeked, s'))
    (hsaw : sawByte peeked = false) :
    c.readStream now f ch =
      readOutcome ⟨.idle, false, { d.anchorReceive now.first with socket := s' }.dryRead, f⟩ := by
  have hreplay : (d.anchorReceive now.first).replay f ch = (d.anchorReceive now.first, f) := by
    have hnone : (d.anchorReceive now.first).leftovers.get ch = none := hleft
    simp only [replay, Leftovers.take, hnone]
  -- One turn of the loop: nothing came, and the peek sees nothing either
  have hloop : Receives ch now.later (d.anchorReceive now.first) f false false _ :=
    .idle hrecv hof hpeek (by simp [hsaw])
  rw [readStream_of_receives hchannel hensured hopen hreplay hopen hloop, hsaw]
  rfl

/-! ## Telling the watchdogs -/

section Watchdogs

omit [Endpoint σ]

variable {c : Client σ} {now : Duration} {bytes : Nat} {watch : Watchdog Float}
  {alarm : Alarm Float}

/-- Nothing is slow where no speed is asked for. -/
theorem trackReceive_of_none (h : c.receiveWatch = none) (now : Duration) (bytes : Nat) :
    c.trackReceive now bytes = (.ok (), c) := by
  unfold trackReceive
  rw [h]

/-- `trackReceive` of a sample without alarm tells the watchdog, and goes on. -/
theorem trackReceive_of_calm (hwatch : c.receiveWatch = some watch)
    (hcalm : (watch.sample (c.elapsed now) bytes).2 = none) :
    c.trackReceive now bytes =
      (.ok (), { c with receiveWatch := some (watch.sample (c.elapsed now) bytes).1 }) := by
  unfold trackReceive
  rw [hwatch]
  dsimp only
  rw [hcalm]

/-- `trackReceive` of a sample with an alarm fails with it. -/
theorem trackReceive_of_alarm (hwatch : c.receiveWatch = some watch)
    (halarm : (watch.sample (c.elapsed now) bytes).2 = some alarm) :
    c.trackReceive now bytes = (.error (.slowTransfer .receive alarm.speed alarm.duration),
      { c with receiveWatch := some (watch.sample (c.elapsed now) bytes).1 }) := by
  unfold trackReceive
  rw [hwatch]
  dsimp only
  rw [halarm]

/-- Without a watchdog, `trackSend` does nothing. -/
theorem trackSend_of_none (h : c.sendWatch = none) (now : Duration) (bytes : Nat) :
    c.trackSend now bytes = (.ok (), c) := by
  unfold trackSend
  rw [h]

/-- `trackSend` of a sample without alarm tells the watchdog, and goes on. -/
theorem trackSend_of_calm (hwatch : c.sendWatch = some watch)
    (hcalm : (watch.sample (c.elapsed now) bytes).2 = none) :
    c.trackSend now bytes =
      (.ok (), { c with sendWatch := some (watch.sample (c.elapsed now) bytes).1 }) := by
  unfold trackSend
  rw [hwatch]
  dsimp only
  rw [hcalm]

/-- `trackSend` of a sample with an alarm fails with it. -/
theorem trackSend_of_alarm (hwatch : c.sendWatch = some watch)
    (halarm : (watch.sample (c.elapsed now) bytes).2 = some alarm) :
    c.trackSend now bytes = (.error (.slowTransfer .send alarm.speed alarm.duration),
      { c with sendWatch := some (watch.sample (c.elapsed now) bytes).1 }) := by
  unfold trackSend
  rw [hwatch]
  dsimp only
  rw [halarm]

end Watchdogs

/-! ## Receiving a datagram -/

/-- A datagram came: it is fed, and the read ends. -/
theorem receiveDatagram_ok {c c₁ : Client σ} {f f₁ : φ} {data : Bytes} {origin : Option String}
    {s : σ} (now : Duration)
    (hrecv : Endpoint.recvFrom c.socket c.bufferSize = (.ok (data, origin), s))
    (hfeed : { c with socket := s }.feed f .regular data origin = (c₁, f₁)) :
    c.receiveDatagram now f = match c₁.trackReceive now data.length with
      | (.error e, c) => ((.error e, c), f₁)
      | (.ok (), c) =>
        if Framer.isComplete f₁ then (c.complete f₁, f₁)
        else (c.incomplete f₁ "datagram ended before the frame did", f₁) := by
  rw [receiveDatagram]
  split
  · -- The call that the definition makes is the one that is known
    rename_i data' origin' s' hk
    rw [hrecv] at hk
    cases hk
    obtain rfl : _ = c₁ := congrArg Prod.fst hfeed
    obtain rfl : _ = f₁ := congrArg Prod.snd hfeed
    rfl
  · rename_i e' s' hk
    rw [hrecv] at hk
    cases hk

/-- The receiving call failed: the read ends, or is made again. -/
theorem receiveDatagram_error {c : Client σ} {e : IoError} {s : σ} (now : Duration) (f : φ)
    (hrecv : Endpoint.recvFrom c.socket c.bufferSize = (.error e, s)) :
    c.receiveDatagram now f =
      if e.isBlocked then ({ c with socket := s }.unfinished f, f)
      else if e.isInterrupted then { c with socket := s }.receiveDatagram now f
      else (failed ({ c with socket := s }.receiveError e), f) := by
  rw [receiveDatagram]
  split <;> simp_all

/-- A read whose framer neither was complete nor is completed by what waits, but by the
    datagram that comes. -/
theorem readDatagram_of_complete {c c₁ c₂ c₃ : Client σ} {f f₁ f₂ : φ} {data : Bytes}
    {origin : Option String} {s : σ} {now : Clock} (hopen : Framer.isComplete f = false)
    (hreplay : (c.anchorReceive now.first).replay f .regular = (c₁, f₁))
    (hopen₁ : Framer.isComplete f₁ = false)
    (hrecv : Endpoint.recvFrom c₁.socket c₁.bufferSize = (.ok (data, origin), s))
    (hfeed : { c₁ with socket := s }.feed f₁ .regular data origin = (c₂, f₂))
    (htrack : c₂.trackReceive now.later.first data.length = (.ok (), c₃))
    (hdone : Framer.isComplete f₂ = true) :
    c.readDatagram now f .regular = (c₃.complete f₂, f₂) := by
  have hregular : ¬ Channel.regular = .urgent := nofun
  -- The read is unfolded along the answers that are known
  simp only [readDatagram, hregular, hopen, hreplay, hopen₁,
    receiveDatagram_ok now.later.first hrecv hfeed, htrack, hdone, Bool.false_eq_true, if_false,
    if_true]

/-- A read whose framer is not complete before a datagram comes, and whose watchdog is alarmed
    when it comes: the framer has been fed, but nobody sees what it made of it. -/
theorem readDatagram_of_alarm {c c₁ c₂ c₃ : Client σ} {f f₁ f₂ : φ} {data : Bytes}
    {origin : Option String} {s : σ} {now : Clock} {e : NetworkError}
    (hopen : Framer.isComplete f = false)
    (hreplay : (c.anchorReceive now.first).replay f .regular = (c₁, f₁))
    (hopen₁ : Framer.isComplete f₁ = false)
    (hrecv : Endpoint.recvFrom c₁.socket c₁.bufferSize = (.ok (data, origin), s))
    (hfeed : { c₁ with socket := s }.feed f₁ .regular data origin = (c₂, f₂))
    (htrack : c₂.trackReceive now.later.first data.length = (.error e, c₃)) :
    c.readDatagram now f .regular = ((.error e, c₃), f₂) := by
  have hregular : ¬ Channel.regular = .urgent := nofun
  simp only [readDatagram, hregular, hopen, hreplay, hopen₁,
    receiveDatagram_ok now.later.first hrecv hfeed, htrack, Bool.false_eq_true, if_false]

/-! ## Sending -/

/-- The socket took an urgent byte, or did not. -/
theorem sendUrgent_ok {c : Client σ} {b : UInt8} {n : Nat} {s : σ} (sent : Nat) (rest : Bytes)
    (hsend : Endpoint.send c.socket .urgent [b] = (.ok n, s)) :
    c.sendUrgent sent (b :: rest) =
      if n = 0 then (.ok sent, { c with socket := s })
      else { c with socket := s }.sendUrgent (sent + 1) rest := by
  cases n <;> simp only [sendUrgent, hsend, Nat.succ_ne_zero, if_true, if_false]

/-- The call for an urgent byte failed: the write ends. -/
theorem sendUrgent_error {c : Client σ} {b : UInt8} {e : IoError} {s : σ} (sent : Nat)
    (rest : Bytes) (hsend : Endpoint.send c.socket .urgent [b] = (.error e, s)) :
    c.sendUrgent sent (b :: rest) =
      if e.isBlocked then (.ok sent, { c with socket := s })
      else failed ({ c with socket := s }.sendError e) := by
  simp only [sendUrgent, hsend]

/-- Urgent bytes go out one after the other: once the first `k` are out, the others are sent. -/
theorem sendUrgent_drop {c c' : Client σ} {sent k : Nat} {data : Bytes} (hk : k ≤ data.length)
    (h : c.sendUrgent sent (data.take k) = (.ok (sent + k), c')) :
    c.sendUrgent sent data = c'.sendUrgent (sent + k) (data.drop k) := by
  induction data generalizing c sent k with
  | nil =>
    obtain rfl : k = 0 := Nat.le_zero.mp hk
    cases h
    rfl
  | cons b rest ih =>
    cases k with
    | zero =>
      cases h
      rfl
    | succ k =>
      rw [List.take_succ_cons] at h
      rcases hsend : Endpoint.send c.socket .urgent [b] with ⟨_ | n, s⟩
      · -- the call for the first byte fails, so one of the first bytes is not sent
        rw [sendUrgent_error sent _ hsend] at h
        split at h
        · simp at h
        · simp [failed] at h
      · -- the first byte went out in both, and the others are those of the induction
        rw [sendUrgent_ok sent _ hsend] at h ⊢
        split at h
        · simp at h
        · rename_i hn
          rw [if_neg hn]
          rw [show sent + (k + 1) = sent + 1 + k by omega] at h ⊢
          exact ih (Nat.le_of_succ_le_succ hk) h

/-- All the data was sent. -/
theorem sendAll_nil (c : Client σ) (now : Clock) (written : Nat) :
    c.sendAll now written [] = (.ok written, c) := by
  rw [sendAll]

/-- The socket took some of the data, or none of it. -/
theorem sendAll_ok {c : Client σ} {b : UInt8} {rest : Bytes} {n : Nat} {s : σ} (now : Clock)
    (written : Nat) (hsend : Endpoint.send c.socket .regular (b :: rest) = (.ok n, s)) :
    c.sendAll now written (b :: rest) =
      if n = 0 then (.ok written, { c with socket := s })
      else match { c with socket := s }.refillWrites.trackSend now.first n with
        | (.error e, c) => (.error e, c)
        | (.ok (), c) => c.sendAll now.later (written + n) ((b :: rest).drop n) := by
  rw [sendAll]
  split
  · simp_all
  · -- The call that the definition makes is the one that is known
    rename_i k s' hk
    rw [hsend] at hk
    cases hk
    rfl
  · simp_all

/-- The sending call failed: the write ends, or is made again. -/
theorem sendAll_error {c : Client σ} {b : UInt8} {rest : Bytes} {e : IoError} {s : σ}
    (now : Clock) (written : Nat)
    (hsend : Endpoint.send c.socket .regular (b :: rest) = (.error e, s)) :
    c.sendAll now written (b :: rest) =
      if e.isBlocked then (.ok written, { c with socket := s })
      else if e.isInterrupted then { c with socket := s }.sendAll now written (b :: rest)
      else failed ({ c with socket := s }.sendError e) := by
  rw [sendAll]
  split <;> simp_all

/-- The ways in which a write to a stream goes. -/
inductive WritesStream (c : Client σ) (now : Clock) (data : Bytes) :
    Channel → Answer σ Nat → Prop
  /-- The transport does not have the channel, or there are too many urgent bytes. -/
  | refused {ch : Channel} {e : NetworkError}
      (hrefused : c.checkChannel ch = .error e ∨ c.checkUrgentSize ch data = .error e) :
      WritesStream c now data ch (.error e, c)
  /-- The connection is not there. -/
  | failed {ch : Channel} {c₁ : Client σ} {e : NetworkError}
      (hensured : c.ensureConnected now.first = (.error e, c₁)) :
      WritesStream c now data ch (.error e, c₁)
  /-- The connection may yet come. -/
  | waiting {ch : Channel} {c₁ : Client σ}
      (hensured : c.ensureConnected now.first = (.ok false, c₁)) :
      WritesStream c now data ch (.ok 0, c₁)
  /-- The sending of urgent bytes fails. -/
  | urgentFailed {c₁ c₂ : Client σ} {e : NetworkError}
      (hensured : c.ensureConnected now.first = (.ok true, c₁))
      (hsend : (c₁.anchorSend now.first).sendUrgent 0 data = (.error e, c₂)) :
      WritesStream c now data .urgent (.error e, c₂)
  /-- The watchdog is told of urgent bytes, and is alarmed. -/
  | urgentSlow {c₁ c₂ c₃ : Client σ} {e : NetworkError} {sent : Nat}
      (hensured : c.ensureConnected now.first = (.ok true, c₁))
      (hsend : (c₁.anchorSend now.first).sendUrgent 0 data = (.ok sent, c₂))
      (htrack : c₂.trackSend now.later.first sent = (.error e, c₃)) :
      WritesStream c now data .urgent (.error e, c₃)
  | urgent {c₁ c₂ c₃ : Client σ} {sent : Nat}
      (hensured : c.ensureConnected now.first = (.ok true, c₁))
      (hsend : (c₁.anchorSend now.first).sendUrgent 0 data = (.ok sent, c₂))
      (htrack : c₂.trackSend now.later.first sent = (.ok (), c₃)) :
      WritesStream c now data .urgent (.ok sent, c₃)
  /-- There is nothing to send. -/
  | probed {c₁ : Client σ} (hensured : c.ensureConnected now.first = (.ok true, c₁))
      (hempty : data = []) : WritesStream c now data .regular (c₁.anchorSend now.first).probe
  /-- The sending loop fails. -/
  | regularFailed {c₁ c₂ : Client σ} {e : NetworkError}
      (hensured : c.ensureConnected now.first = (.ok true, c₁)) (hne : data ≠ [])
      (hsend : (c₁.anchorSend now.first).sendAll now.later 0 data = (.error e, c₂)) :
      WritesStream c now data .regular (.error e, c₂)
  | regular {c₁ c₂ : Client σ} {written : Nat}
      (hensured : c.ensureConnected now.first = (.ok true, c₁)) (hne : data ≠ [])
      (hsend : (c₁.anchorSend now.first).sendAll now.later 0 data = (.ok written, c₂)) :
      WritesStream c now data .regular (c₂.writeOutcome written data.length)

/-- `writeStream` ends in one of the ways of `WritesStream`. -/
theorem writes_writeStream (c : Client σ) (now : Clock) (data : Bytes) (ch : Channel) :
    WritesStream c now data ch (c.writeStream now data ch) := by
  unfold writeStream
  split
  · rename_i hchannel
    exact .refused (.inl hchannel)
  · -- Each check that passes leads one level deeper
    split
    · rename_i hsize
      exact .refused (.inr hsize)
    · split
      · rename_i hensured
        exact .failed hensured
      · rename_i hensured
        exact .waiting hensured
      · rename_i c₁ hensured
        dsimp only
        split
        · split
          · rename_i hsend
            exact .urgentFailed hensured hsend
          · rename_i hsend
            split
            · rename_i htrack
              exact .urgentSlow hensured hsend htrack
            · rename_i htrack
              exact .urgent hensured hsend htrack
        · split
          · rename_i hempty
            exact .probed hensured (List.isEmpty_iff.mp hempty)
          · rename_i hne
            have hne' : data ≠ [] := mt List.isEmpty_iff.mpr hne
            split
            · rename_i hsend
              exact .regularFailed hensured hne' hsend
            · rename_i hsend
              exact .regular hensured hne' hsend

/-- A regular write that finds the connection standing is its sending loop and the outcome. -/
theorem writeStream_of_ensureConnected {c c₁ : Client σ} {now : Clock} {data : Bytes}
    (hensured : c.ensureConnected now.first = (.ok true, c₁)) (hne : data ≠ []) :
    c.writeStream now data .regular =
      match (c₁.anchorSend now.first).sendAll now.later 0 data with
      | (.error e, c) => (.error e, c)
      | (.ok written, c) => c.writeOutcome written data.length := by
  have hchannel : c.checkUrgentSize .regular data = .ok () := if_neg nofun
  have hdata : data.isEmpty = false := Bool.eq_false_iff.mpr (mt List.isEmpty_iff.mp hne)
  rcases hsent : (c₁.anchorSend now.first).sendAll now.later 0 data with ⟨_ | _, c'⟩ <;>
    simp only [writeStream, checkChannel, hchannel, hensured, hdata, hsent, Bool.false_eq_true,
      if_false]

/-- `writeStream_of_ensureConnected` over a connection that has stood before. -/
theorem writeStream_of_isConnected {c : Client σ} {data : Bytes}
    (hconnected : c.isConnected = true) (hne : data ≠ []) (now : Clock) :
    c.writeStream now data .regular =
      match (c.anchorSend now.first).sendAll now.later 0 data with
      | (.error e, c) => (.error e, c)
      | (.ok written, c) => c.writeOutcome written data.length :=
  writeStream_of_ensureConnected (ensureConnected_of_isConnected hconnected now.first) hne

/-- A regular write whose first sending call alarms the watchdog: the bytes of this call have
    gone out, and the write fails. -/
theorem writeStream_of_alarm {c : Client σ} {now : Clock} {data : Bytes} {n : Nat} {s : σ}
    {watch : Watchdog Float} {alarm : Alarm Float} (hconnected : c.isConnected = true)
    (hne : data ≠ []) (hn : n ≠ 0) (hsend : Endpoint.send c.socket .regular data = (.ok n, s))
    (hwatch : (c.anchorSend now.first).sendWatch = some watch)
    (halarm : (watch.sample (c.elapsed now.later.first) n).2 = some alarm) :
    c.writeStream now data .regular = (.error (.slowTransfer .send alarm.speed alarm.duration),
      { { c.anchorSend now.first with socket := s }.refillWrites with
        sendWatch := some (watch.sample (c.elapsed now.later.first) n).1 }) := by
  obtain ⟨b, rest, rfl⟩ := List.exists_cons_of_ne_nil hne
  have hwatch' :
      { c.anchorSend now.first with socket := s }.refillWrites.sendWatch = some watch := hwatch
  -- The loop ends with its first send
  have hloop := sendAll_ok (c := c.anchorSend now.first) now.later 0 hsend
  rw [if_neg hn, trackSend_of_alarm hwatch' halarm] at hloop
  rw [writeStream_of_isConnected hconnected hne, hloop]
  rfl

/-- An urgent write whose bytes were sent and tracked. -/
theorem writeStream_of_urgent {c c₁ c₂ c₃ : Client σ} {data : Bytes} {sent : Nat}
    {now : Clock} (hchannel : c.checkChannel .urgent = .ok ())
    (hsize : c.checkUrgentSize .urgent data = .ok ())
    (hensured : c.ensureConnected now.first = (.ok true, c₁))
    (hsend : (c₁.anchorSend now.first).sendUrgent 0 data = (.ok sent, c₂))
    (htrack : c₂.trackSend now.later.first sent = (.ok (), c₃)) :
    c.writeStream now data .urgent = (.ok sent, c₃) := by
  simp only [writeStream, hchannel, hsize, hensured, hsend, htrack]

/-- The socket took the datagram, or none of it. -/
theorem sendDatagram_ok {c : Client σ} {data : Bytes} {sent : Nat} {s : σ} (now : Duration)
    (hsend : Endpoint.send c.socket .regular data = (.ok sent, s)) :
    c.sendDatagram now data =
      if 0 < sent ∨ data = [] then
        match { c with socket := s }.trackSend now sent with
        | (.error e, c) => (.error e, c)
        | (.ok (), c) => (.ok sent, c.finishSend)
      else { c with socket := s }.stalled "datagram was never sent" := by
  rw [sendDatagram]
  split
  · -- The call that the definition makes is the one that is known
    rename_i sent' s' hk
    rw [hsend] at hk
    cases hk
    rfl
  · simp_all

/-- The sending call failed: the write ends, or is made again. -/
theorem sendDatagram_error {c : Client σ} {data : Bytes} {e : IoError} {s : σ} (now : Duration)
    (hsend : Endpoint.send c.socket .regular data = (.error e, s)) :
    c.sendDatagram now data =
      if e.isBlocked then { c with socket := s }.stalled "datagram was never sent"
      else if e.isInterrupted then { c with socket := s }.sendDatagram now data
      else failed ({ c with socket := s }.sendError e) := by
  rw [sendDatagram]
  split <;> simp_all

end FrameSocket.Client
