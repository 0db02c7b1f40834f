import FrameSocket.Proofs.Reading

/-!
# Delivery through a pipe

A writing and a reading client share a pipe of bytes, first in, first out.  The
pipe takes any beginning of what it is offered, brings any beginning of what it
holds, and may at any time ask a caller to wait or interrupt it; it tells the end
when the writer has closed it and nothing is left in it.  The writer writes what
it has not sent yet, and closes when there is nothing left; the reader reads one
frame that ends with the stream.  One call of either side is one move.

## Key results

- `PipeEnd.streams`: the reading end hands out what the pipe holds
- `written_writeStream`: a write puts into the pipe what it says it has sent
- `Transfer.Sound.after`: each move, of either side, keeps the payload together
- `delivered_run`: whatever the moves, the frame is the payload
-/

namespace FrameSocket

/-! ## The pipe -/

/-- Bytes on their way. -/
structure Pipe where
  inFlight : Bytes
  /-- Whether the writer will put in nothing more. -/
  closed : Bool
  deriving DecidableEq, Repr

/-- The pipe with more bytes behind those that it holds. -/
def Pipe.put (p : Pipe) (data : Bytes) : Pipe := { p with inFlight := p.inFlight ++ data }

/-- How the pipe answers one call. -/
inductive PipeAnswer where
  /-- It moves bytes: as many as are there, but at most `limit`.  A receiving call
      brings a byte at least. -/
  | moves (limit : Nat)
  | blocked
  | interrupted
  deriving DecidableEq, Repr

/-- One end of a pipe, with its answers to the calls to come.  Without an answer a call
    has to wait. -/
structure PipeEnd where
  pipe : Pipe
  answers : List PipeAnswer
  peeks : List (Except IoError Nat)

namespace PipeEnd

/-- Brings a beginning of what the pipe holds, or tells its end. -/
def bring (p : Pipe) (limit size : Nat) : Except IoError Bytes × Pipe :=
  if p.inFlight = [] then
    if p.closed then (.ok [], p) else (.error (.bare .wouldBlock), p)
  else
    let n := min (max limit 1) size
    (.ok (p.inFlight.take n), { p with inFlight := p.inFlight.drop n })

/-- Receives as the next answer says. -/
def recv (e : PipeEnd) (ch : Channel) (size : Nat) : Except IoError Bytes × PipeEnd :=
  match ch, e.answers with
  | .urgent, _ => (.error (.bare .wouldBlock), e)
  | .regular, [] => (.error (.bare .wouldBlock), e)
  | .regular, .blocked :: answers => (.error (.bare .wouldBlock), { e with answers })
  | .regular, .interrupted :: answers => (.error (.bare .interrupted), { e with answers })
  | .regular, .moves limit :: answers =>
    let (answer, pipe) := bring e.pipe limit size
    (answer, { e with pipe, answers })

/-- Answers the next of the peeks. -/
def peek (e : PipeEnd) : Except IoError Nat × PipeEnd :=
  match e.peeks with
  | [] => (.error (.bare .wouldBlock), e)
  | answer :: peeks => (answer, { e with peeks })

/-- Sends as the next answer says. -/
def send (e : PipeEnd) (ch : Channel) (data : Bytes) : Except IoError Nat × PipeEnd :=
  match ch, e.answers with
  | .urgent, _ => (.error (.bare .wouldBlock), e)
  | .regular, [] => (.error (.bare .wouldBlock), e)
  | .regular, .blocked :: answers => (.error (.bare .wouldBlock), { e with answers })
  | .regular, .interrupted :: answers => (.error (.bare .interrupted), { e with answers })
  | .regular, .moves limit :: answers =>
    let n := min limit data.length
    (.ok n, { e with pipe := e.pipe.put (data.take n), answers })

variable {e e' : PipeEnd} {ch : Channel}

/-- What is brought was at the front of the pipe; nothing is brought only where the pipe
    is closed and empty. -/
theorem bring_eq_ok {p p' : Pipe} {limit size : Nat} {bytes : Bytes}
    (h : bring p limit size = (.ok bytes, p')) :
    p.inFlight = bytes ++ p'.inFlight ∧ p'.closed = p.closed ∧ bytes.length ≤ size ∧
      (0 < size → bytes = [] → p.closed = true ∧ p.inFlight = []) := by
  unfold bring at h
  split at h
  · -- nothing is left, and the end is told
    rename_i hempty
    split at h
    · rename_i hclosed
      cases h
      exact ⟨rfl, rfl, Nat.zero_le _, fun _ _ => ⟨hclosed, hempty⟩⟩
    · cases h
  · rename_i hne
    cases h
    refine ⟨(List.take_append_drop _ _).symm, rfl, ?_, ?_⟩
    · rw [List.length_take]
      omega
    · -- a byte at least was asked for and is there
      intro hsize hnone
      have hpos : 0 < p.inFlight.length := List.length_pos_iff.mpr hne
      have hlen := congrArg List.length hnone
      rw [List.length_take, List.length_nil] at hlen
      omega

/-- Where nothing is there and the pipe is open, the call has to wait. -/
theorem bring_eq_error {p p' : Pipe} {limit size : Nat} {err : IoError}
    (h : bring p limit size = (.error err, p')) : p' = p ∧ err.isBlocked = true := by
  unfold bring at h
  split at h
  · split at h
    · cases h
    · cases h
      exact ⟨rfl, by decide⟩
  · cases h

/-- What a receiving call brings was at the front of the pipe; it brings nothing only
    where the pipe is closed and empty. -/
theorem recv_eq_ok {size : Nat} {bytes : Bytes} (h : e.recv ch size = (.ok bytes, e')) :
    (e.pipe.inFlight = bytes ++ e'.pipe.inFlight ∧ e'.pipe.closed = e.pipe.closed ∧
      bytes.length ≤ size ∧
      (0 < size → bytes = [] → e.pipe.closed = true ∧ e.pipe.inFlight = [])) ∧
    e'.answers.length < e.answers.length := by
  unfold recv at h
  split at h
  · cases h
  · cases h
  · cases h
  · cases h
  · -- Only a call that is let through brings anything
    rename_i limit answers hanswers
    split at h
    rename_i answer pipe hbring
    cases h
    refine ⟨bring_eq_ok hbring, ?_⟩
    rw [hanswers]
    exact Nat.lt_succ_self _

/-- A receiving call that fails leaves the pipe as it is. -/
theorem recv_eq_error {size : Nat} {err : IoError} (h : e.recv ch size = (.error err, e')) :
    e'.pipe = e.pipe ∧ e'.answers.length ≤ e.answers.length ∧
      (err.isBlocked = true ∨
        err.isInterrupted = true ∧ e'.answers.length < e.answers.length) := by
  unfold recv at h
  split at h
  · cases h
    exact ⟨rfl, Nat.le_refl _, .inl (by decide)⟩
  · cases h
    exact ⟨rfl, Nat.le_refl _, .inl (by decide)⟩
  · rename_i answers hanswers
    cases h
    rw [hanswers]
    exact ⟨rfl, Nat.le_succ _, .inl (by decide)⟩
  · rename_i answers hanswers
    cases h
    rw [hanswers]
    exact ⟨rfl, Nat.le_succ _, .inr ⟨by decide, Nat.lt_succ_self _⟩⟩
  · -- Only here the pipe is asked at all
    rename_i limit answers hanswers
    split at h
    rename_i answer pipe hbring
    cases h
    obtain ⟨hpipe, hblocked⟩ := bring_eq_error hbring
    rw [hanswers]
    exact ⟨hpipe, Nat.le_succ _, .inl hblocked⟩

/-- What a sending call accepts is put behind what the pipe holds. -/
theorem send_eq_ok {data : Bytes} {n : Nat} (h : e.send ch data = (.ok n, e')) :
    n ≤ data.length ∧ e'.pipe = e.pipe.put (data.take n) := by
  unfold send at h
  split at h
  · cases h
  · cases h
  · cases h
  · cases h
  · cases h
    exact ⟨Nat.min_le_right _ _, rfl⟩

/-- A sending call that fails leaves the pipe as it is. -/
theorem send_eq_error {data : Bytes} {err : IoError} (h : e.send ch data = (.error err, e')) :
    e'.pipe = e.pipe ∧ (err.isBlocked = true ∨
      err.isInterrupted = true ∧ e'.answers.length < e.answers.length) := by
  unfold send at h
  split at h
  · cases h
    exact ⟨rfl, .inl (by decide)⟩
  · cases h
    exact ⟨rfl, .inl (by decide)⟩
  · cases h
    exact ⟨rfl, .inl (by decide)⟩
  · -- The one error that is not waiting is an interruption, which was planned
    rename_i answers hanswers
    cases h
    rw [hanswers]
    exact ⟨rfl, .inr ⟨by decide, Nat.lt_succ_self _⟩⟩
  · cases h

/-- A peek looks at nothing and leaves the pipe as it is. -/
theorem peek_eq {answer : Except IoError Nat} (h : e.peek = (answer, e')) :
    e'.pipe = e.pipe ∧ e'.answers = e.answers := by
  unfold peek at h
  split at h <;> cases h <;> exact ⟨rfl, rfl⟩

instance : Endpoint PipeEnd where
  id _ := ⟨0⟩
  transport _ := .unixStream
  remoteAddress e := (.ok (some "peer"), e)
  takeError e := (.ok none, e)
  recv := recv
  recvFrom e _ := (.error (.bare .wouldBlock), e)
  peek e _ := e.peek
  send := send
  supply e := e.answers.length
  patience e := e.answers.length
  length_recv e ch n data h := (recv_eq_ok (Prod.ext h rfl)).1.2.2.1
  supply_recv_le e ch n := by
    rcases hrecv : e.recv ch n with ⟨answer, e'⟩
    cases answer with
    | ok bytes => exact Nat.le_of_lt (recv_eq_ok hrecv).2
    | error err => exact (recv_eq_error hrecv).2.1
  supply_recv_data e ch n data h _ := (recv_eq_ok (Prod.ext h rfl)).2
  supply_recv_interrupted e ch n err h hi := by
    rcases (recv_eq_error (Prod.ext h rfl)).2.2 with hblocked | ⟨_, hless⟩
    · rw [IoError.isBlocked_of_isInterrupted hi] at hblocked
      exact nomatch hblocked
    · exact hless
  length_recvFrom _ _ _ h := nomatch h
  supply_recvFrom_interrupted _ _ err h hi := by
    cases h
    exact absurd hi (by decide)
  supply_peek_le e _ := by
    rcases hpeek : e.peek with ⟨answer, e'⟩
    rw [(peek_eq hpeek).2]
  send_le_length e ch data n h := (send_eq_ok (Prod.ext h rfl)).1
  patience_send_interrupted e ch data err h hi := by
    rcases (send_eq_error (Prod.ext h rfl)).2 with hblocked | ⟨_, hless⟩
    · rw [IoError.isBlocked_of_isInterrupted hi] at hblocked
      exact nomatch hblocked
    · exact hless

/-- The reading end hands out what the pipe holds. -/
theorem streams (closed : Bool) :
    Endpoint.Streams (fun e : PipeEnd => e.pipe.inFlight) (fun e => e.pipe.closed = closed)
      (fun e => e.pipe.closed = true ∧ e.pipe.closed = closed ∧ e.pipe.inFlight = [])
      (fun _ => True) where
  recv_data hflowing _ _ hrecv := by
    obtain ⟨⟨hahead, hclosed, _⟩, _⟩ := recv_eq_ok hrecv
    exact ⟨hclosed.trans hflowing, hahead⟩
  recv_end hflowing hn hrecv := by
    obtain ⟨⟨hahead, hclosed, _, hend⟩, _⟩ := recv_eq_ok hrecv
    -- The end is only shown behind the last byte
    obtain ⟨htrue, hempty⟩ := hend hn rfl
    rw [hempty, List.nil_append] at hahead
    exact ⟨⟨hclosed.trans htrue, hclosed.trans hflowing, hahead.symm⟩, hempty, hahead.symm⟩
  recv_error hflowing hrecv := by
    obtain ⟨hpipe, _, hsort⟩ := recv_eq_error hrecv
    refine ⟨hsort.imp_right And.left, ?_, ?_, fun _ => .inr trivial⟩
    · rw [hpipe]
      exact hflowing
    · rw [hpipe]
  peek hflowing hpeek := by
    obtain ⟨hpipe, _⟩ := peek_eq hpeek
    refine ⟨?_, ?_, id⟩
    · rw [hpipe]
      exact hflowing
    · rw [hpipe]

end PipeEnd

/-! ## Writing into the pipe -/

namespace Client

/-- From `c` to `c'` the bytes `data` were put into the pipe; the client is connected, and
    no speed is asked of its sending. -/
structure Sent (c c' : Client PipeEnd) (data : Bytes) : Prop where
  pipe : c'.socket.pipe = c.socket.pipe.put data
  connected : c.isConnected = true → c'.isConnected = true
  unwatched : c'.sendWatch = none

namespace Sent

variable {c c' c'' : Client PipeEnd} {data more : Bytes}

/-- What two steps have sent, one after the other. -/
theorem trans (h : Sent c c' data) (h' : Sent c' c'' more) : Sent c c'' (data ++ more) where
  pipe := by
    rw [h'.pipe, h.pipe, Pipe.put, Pipe.put, Pipe.put, List.append_assoc]
  connected := h'.connected ∘ h.connected
  unwatched := h'.unwatched

/-- A call that left the pipe as it was. -/
theorem nothing (hunwatched : c.sendWatch = none) {s : PipeEnd} (hpipe : s.pipe = c.socket.pipe) :
    Sent c { c with socket := s } [] where
  pipe := by
    show s.pipe = _
    rw [hpipe, Pipe.put, List.append_nil]
  connected := id
  unwatched := hunwatched

end Sent

/-- The sending loop has put into the pipe what it counted. -/
theorem sent_sendAll (c : Client PipeEnd) (now : Clock) (written : Nat) (data : Bytes)
    (hunwatched : c.sendWatch = none) :
    ∃ n ≤ data.length, (c.sendAll now written data).1 = .ok (written + n) ∧
      Sent c (c.sendAll now written data).2 (data.take n) := by
  fun_induction sendAll c now written data with
  | case1 c now written =>
    exact ⟨0, Nat.le_refl _, rfl, Sent.nothing hunwatched rfl⟩
  | case2 c now written b rest s hsend =>
    refine ⟨0, Nat.zero_le _, rfl, ?_⟩
    obtain ⟨_, hpipe⟩ := PipeEnd.send_eq_ok hsend
    rw [List.take_zero, Pipe.put, List.append_nil] at hpipe
    exact Sent.nothing hunwatched hpipe
  | case3 c now written b rest n s hsend e c' htrack =>
    have hwatch : { c with socket := s }.refillWrites.sendWatch = none := hunwatched
    rw [trackSend_of_none hwatch] at htrack
    cases htrack
  | case4 c now written b rest n s hsend c' htrack ih =>
    obtain ⟨hle, hpipe⟩ := PipeEnd.send_eq_ok hsend
    have hwatch : { c with socket := s }.refillWrites.sendWatch = none := hunwatched
    rw [trackSend_of_none hwatch] at htrack
    cases htrack
    obtain ⟨k, hk, hanswer, hsent⟩ := ih hunwatched
    -- What this send took, and then what the others take
    have hfirst : Sent c { c with socket := s }.refillWrites ((b :: rest).take (n + 1)) :=
      ⟨hpipe, id, hunwatched⟩
    refine ⟨n + 1 + k, ?_, ?_, ?_⟩
    · rw [List.length_drop] at hk
      rw [List.length_cons] at hle ⊢
      omega
    · rw [hanswer, Nat.add_assoc]
    · have hsplit : (b :: rest).take (n + 1 + k) =
          (b :: rest).take (n + 1) ++ (rest.drop n).take k := by
        rw [List.take_add, List.drop_succ_cons]
      rw [hsplit]
      exact hfirst.trans hsent
  | case5 c now written b rest e s hsend hblocked =>
    exact ⟨0, Nat.zero_le _, rfl, Sent.nothing hunwatched (PipeEnd.send_eq_error hsend).1⟩
  | case6 c now written b rest e s hsend hblocked hi ih =>
    obtain ⟨n, hn, hanswer, hsent⟩ := ih hunwatched
    exact ⟨n, hn, hanswer, (Sent.nothing hunwatched (PipeEnd.send_eq_error hsend).1).trans hsent⟩
  | case7 c now written b rest e s hsend hblocked hi =>
    rcases (PipeEnd.send_eq_error hsend).2 with h | ⟨h, _⟩
    · exact absurd h hblocked
    · exact absurd h hi

/-- What a write comes to whose sending loop counted `n` bytes. -/
theorem writeStream_ok {c c' : Client PipeEnd} {now : Clock} {data : Bytes} {n : Nat}
    (hconnected : c.isConnected = true) (hne : data ≠ [])
    (hsend : (c.anchorSend now.first).sendAll now.later 0 data = (.ok n, c')) :
    c.writeStream now data .regular = c'.writeOutcome n data.length := by
  rw [writeStream_of_isConnected hconnected hne, hsend]

/-- A write has put into the pipe what it answers that it has sent; where it fails, its
    budget is used up and it has put in nothing. -/
theorem written_writeStream (c : Client PipeEnd) (now : Clock) (data : Bytes)
    (hconnected : c.isConnected = true) (hunwatched : c.sendWatch = none) (hne : data ≠ []) :
    ∃ n ≤ data.length,
      ((c.writeStream now data .regular).1 = .ok n ∨
        n = 0 ∧ ∃ address source,
          (c.writeStream now data .regular).1 = .error (.sendFailed address source)) ∧
      Sent c (c.writeStream now data .regular).2 (data.take n) := by
  have hanchored : (c.anchorSend now.first).sendWatch = none := by
    show anchored c.sendWatch _ = none
    rw [hunwatched]
    rfl
  obtain ⟨n, hn, hanswer, hsent⟩ := sent_sendAll (c.anchorSend now.first) now.later 0 data hanchored
  rcases hall : (c.anchorSend now.first).sendAll now.later 0 data with ⟨answer, c₁⟩
  rw [hall] at hanswer hsent
  replace hanswer : answer = .ok n := by
    rw [← Nat.zero_add n]
    exact hanswer
  rw [writeStream_ok hconnected hne (hall.trans (congrArg (·, c₁) hanswer))]
  have hfirst : Sent c c₁ (data.take n) := ⟨hsent.pipe, hsent.connected, hsent.unwatched⟩
  refine ⟨n, hn, ?_⟩
  unfold writeOutcome
  split
  · -- all was sent
    refine ⟨.inl rfl, hfirst.pipe, hfirst.connected, ?_⟩
    show c₁.sendWatch.map Watchdog.reset = none
    rw [hfirst.unwatched]
    rfl
  · split
    · -- nothing was sent, which costs a part of the budget
      rename_i hzero
      unfold stalled
      dsimp only
      split
      · exact ⟨.inr ⟨hzero, _, _, rfl⟩, hfirst.pipe, hfirst.connected, hfirst.unwatched⟩
      · refine ⟨.inl ?_, hfirst.pipe, hfirst.connected, hfirst.unwatched⟩
        rw [hzero]
    · exact ⟨.inl rfl, hfirst⟩

/-- The client at an end of a pipe. -/
def atEnd (c : Client Unit) (e : PipeEnd) : Client PipeEnd := c.mapSocket fun _ => e

/-- The client between two calls. -/
def away (c : Client PipeEnd) : Client Unit := c.mapSocket fun _ => ()

end Client

/-! ## The transfer -/

/-- Two clients with a pipe between them, and how far a payload has come. -/
structure Transfer where
  writer : Client Unit
  reader : Client Unit
  pipe : Pipe
  /-- What the writer has not sent yet. -/
  unsent : Bytes
  /-- What the reader reads its frame with. -/
  framer : Framer.Standard
  /-- The frame, once it is complete. -/
  frame : Option Frame
  /-- Whether a call failed for good. -/
  broken : Bool

namespace Transfer

/-- What one side does, and how the pipe answers its calls meanwhile. -/
inductive Move where
  | write (now : Clock) (answers : List PipeAnswer)
  | close
  | read (now : Clock) (answers : List PipeAnswer) (peeks : List (Except IoError Nat))

/-- A transfer of which nothing has been sent. -/
def start (writer reader : Client Unit) (payload : Bytes) : Transfer :=
  ⟨writer, reader, ⟨[], false⟩, payload, FrameSpec.untilClose.start, none, false⟩

/-- The writer writes what it has not sent yet, if there is something.  A write that
    fails because its budget is used up is made again. -/
def write (t : Transfer) (now : Clock) (answers : List PipeAnswer) : Transfer :=
  if t.unsent = [] then t
  else
    let (answer, c) := (t.writer.atEnd ⟨t.pipe, answers, []⟩).writeStream now t.unsent .regular
    let t := { t with writer := c.away, pipe := c.socket.pipe }
    match answer with
    | .ok n => { t with unsent := t.unsent.drop n }
    | .error (.sendFailed ..) => t
    | .error _ => { t with broken := true }

/-- The writer closes the pipe when all is sent. -/
def close (t : Transfer) : Transfer :=
  if t.unsent = [] then { t with pipe := { t.pipe with closed := true } } else t

/-- What the reader makes of an answer. -/
def absorb (t : Transfer) : Except NetworkError (Incoming PipeEnd) → Transfer
  | .ok (.complete frame) => { t with frame := some frame }
  | answer => { t with broken := t.broken || !Client.goesOn answer }

/-- The reader reads its frame, or goes on with it, until it is complete. -/
def read (t : Transfer) (now : Clock) (answers : List PipeAnswer)
    (peeks : List (Except IoError Nat)) : Transfer :=
  match t.frame with
  | some _ => t
  | none =>
    let ((answer, c), framer) :=
      (t.reader.atEnd ⟨t.pipe, answers, peeks⟩).readStream now t.framer .regular
    { t with reader := c.away, pipe := c.socket.pipe, framer }.absorb answer

/-- The transfer after one move. -/
def after (t : Transfer) : Move → Transfer
  | .write now answers => t.write now answers
  | .close => t.close
  | .read now answers peeks => t.read now answers peeks

/-- The transfer after some moves, in any order of the two sides. -/
def run (t : Transfer) (moves : List Move) : Transfer := moves.foldl after t

/-- The bytes that the reader's framer has collected. -/
def collected (t : Transfer) : Bytes := (Framer.frame t.framer).data

/-- What holds all along a transfer: the payload is what was collected, what is on its way
    and what is unsent, in this order. -/
structure Sound (payload : Bytes) (t : Transfer) : Prop where
  conserved : t.collected ++ t.pipe.inFlight ++ t.unsent = payload
  /-- The pipe is closed behind the last byte only. -/
  closed : t.pipe.closed = true → t.unsent = []
  connected : t.writer.isConnected = true
  unwatched : t.writer.sendWatch = none
  reading : t.frame = none → Client.Ready (fun _ => True) t.reader ∧
    t.reader.waiting .regular = [] ∧ FrameSpec.untilClose.Awaits t.collected t.framer
  delivered : ∀ frame, t.frame = some frame → frame.data = payload
  unbroken : t.broken = false

/-- A write that has sent something. -/
theorem write_ok {t : Transfer} {now : Clock} {answers : List PipeAnswer} {n : Nat}
    {c : Client PipeEnd} (hne : t.unsent ≠ [])
    (h : (t.writer.atEnd ⟨t.pipe, answers, []⟩).writeStream now t.unsent .regular = (.ok n, c)) :
    t.write now answers =
      { t with writer := c.away, pipe := c.socket.pipe, unsent := t.unsent.drop n } := by
  rw [write, if_neg hne, h]

/-- A read that brings the frame. -/
theorem read_complete {t : Transfer} {now : Clock} {answers : List PipeAnswer}
    {peeks : List (Except IoError Nat)} {frame : Frame} {c : Client PipeEnd}
    {f : Framer.Standard} (hnone : t.frame = none)
    (h : (t.reader.atEnd ⟨t.pipe, answers, peeks⟩).readStream now t.framer .regular =
      ((.ok (.complete frame), c), f)) :
    (t.read now answers peeks).frame = some frame := by
  rw [read, hnone]
  dsimp only
  rw [h]
  rfl

/-- An answer after which the frame goes on is no news. -/
theorem absorb_of_goesOn (t : Transfer) {answer : Except NetworkError (Incoming PipeEnd)}
    (h : Client.goesOn answer = true) : t.absorb answer = t := by
  have hsame : { t with broken := t.broken || !true } = t := by
    rw [Bool.not_true, Bool.or_false]
  -- Two answers let the reader go on, and neither breaks the transfer
  cases answer with
  | ok incoming =>
    cases incoming with
    | unfinished frame => exact hsame
    | complete _ | accepted _ _ => exact absurd h Bool.false_ne_true
  | error e =>
    cases e with
    | framingIncomplete address reason collected => exact hsame
    | _ => exact absurd h Bool.false_ne_true

namespace Sound

variable {payload : Bytes} {t : Transfer}

/-- The writer writes. -/
theorem write (h : Sound payload t) (now : Clock) (answers : List PipeAnswer) :
    Sound payload (t.write now answers) := by
  unfold Transfer.write
  split
  · exact h
  · rename_i hne
    obtain ⟨n, hn, hanswer, hsent⟩ := Client.written_writeStream
      (t.writer.atEnd ⟨t.pipe, answers, []⟩) now t.unsent h.connected h.unwatched hne
    have hopen : t.pipe.closed ≠ true := fun hclosed => hne (h.closed hclosed)
    rcases hwrite : (t.writer.atEnd ⟨t.pipe, answers, []⟩).writeStream now t.unsent .regular
      with ⟨answer, c⟩
    rw [hwrite] at hanswer hsent
    have hpipe : c.socket.pipe = t.pipe.put (t.unsent.take n) := hsent.pipe
    have hstill : c.socket.pipe.closed ≠ true := by
      rw [hpipe]
      exact hopen
    have hconnected : c.away.isConnected = true := hsent.connected h.connected
    rcases hanswer with hok | ⟨hzero, address, source, herror⟩
    · -- what is sent is no longer unsent, and is in the pipe
      replace hok : answer = .ok n := hok
      subst hok
      refine ⟨?_, fun hclosed => absurd hclosed hstill, hconnected, hsent.unwatched, h.reading,
        h.delivered, h.unbroken⟩
      show t.collected ++ c.socket.pipe.inFlight ++ t.unsent.drop n = payload
      rw [hpipe, Pipe.put, List.append_assoc, List.append_assoc, List.take_append_drop,
        ← List.append_assoc]
      exact h.conserved
    · -- nothing was sent, and all of it is tried again
      replace herror : answer = .error (.sendFailed address source) := herror
      subst herror
      refine ⟨?_, fun hclosed => absurd hclosed hstill, hconnected, hsent.unwatched, h.reading,
        h.delivered, h.unbroken⟩
      show t.collected ++ c.socket.pipe.inFlight ++ t.unsent = payload
      rw [hpipe, hzero, List.take_zero, Pipe.put, List.append_nil]
      exact h.conserved

/-- The writer closes. -/
theorem close (h : Sound payload t) : Sound payload t.close := by
  unfold Transfer.close
  split
  · rename_i hall
    exact ⟨h.conserved, fun _ => hall, h.connected, h.unwatched, h.reading, h.delivered,
      h.unbroken⟩
  · exact h

/-- The reader reads. -/
theorem read (h : Sound payload t) (now : Clock) (answers : List PipeAnswer)
    (peeks : List (Except IoError Nat)) : Sound payload (t.read now answers peeks) := by
  unfold Transfer.read
  split
  · exact h
  · rename_i hnone
    obtain ⟨hready, hwaiting, hawaits⟩ := h.reading hnone
    have hready' : Client.Ready (fun e : PipeEnd => e.pipe.closed = t.pipe.closed)
        (t.reader.atEnd ⟨t.pipe, answers, peeks⟩) :=
      ⟨hready.connected, hready.unwatched, hready.asks, rfl⟩
    obtain ⟨got, hgot, houtcome⟩ :=
      Client.outcome_readStream (PipeEnd.streams t.pipe.closed) hready' hawaits now
    have hempty : (t.reader.atEnd ⟨t.pipe, answers, peeks⟩).waiting .regular = [] := hwaiting
    replace hgot : t.pipe.inFlight = got ++ _ := hgot
    rw [hempty, List.append_nil] at houtcome
    have hconserved := h.conserved
    rw [hgot, ← List.append_assoc] at hconserved
    rcases hread : (t.reader.atEnd ⟨t.pipe, answers, peeks⟩).readStream now t.framer .regular
      with ⟨⟨answer, c⟩, f⟩
    rw [hread] at houtcome hconserved
    cases houtcome with
    | complete hcut _ _ _ _ => exact nomatch hcut
    | goesOn hanswer hready₁ hawaits₁ hwaiting₁ _ =>
      dsimp only
      rw [absorb_of_goesOn _ hanswer]
      have hcollected : (Framer.frame f).data = t.collected ++ got := hawaits₁.data_eq
      have hclosed : c.socket.pipe.closed = t.pipe.closed := hready₁.flowing
      refine ⟨?_, fun hc => h.closed (hclosed ▸ hc), h.connected, h.unwatched, fun _ => ?_,
        h.delivered, h.unbroken⟩
      · show (Framer.frame f).data ++ _ ++ _ = payload
        rw [hcollected]
        exact hconserved
      · refine ⟨⟨hready₁.connected, hready₁.unwatched, hready₁.asks, trivial⟩, hwaiting₁, ?_⟩
        show FrameSpec.untilClose.Awaits (Framer.frame f).data f
        rw [hcollected]
        exact hawaits₁
    | @completeAtEnd _ _ frame _ hcut hframe hended =>
      obtain ⟨htrue, hclosed, hdrained⟩ := hended
      -- The pipe is closed and empty: what was collected is the payload.
      have hunsent : t.unsent = [] := h.closed (hclosed ▸ htrue)
      rw [hunsent, List.append_nil] at hconserved
      change _ ++ c.socket.pipe.inFlight = payload at hconserved
      rw [hdrained, List.append_nil] at hconserved
      have htotal : t.collected ++ got = frame.data :=
        congrArg Prod.fst (Option.some.inj hcut)
      have hdata : frame.data = payload := htotal.symm.trans hconserved
      refine ⟨?_, fun _ => hunsent, h.connected, h.unwatched, nofun, ?_, h.unbroken⟩
      · show (Framer.frame f).data ++ c.socket.pipe.inFlight ++ t.unsent = payload
        rw [hframe, hdata, hdrained, hunsent, List.append_nil, List.append_nil]
      · intro frame' hsome
        cases hsome
        exact hdata
    | lost hcut _ => exact nomatch hcut

/-- Each move keeps the payload together. -/
theorem after (h : Sound payload t) (move : Move) : Sound payload (t.after move) := by
  cases move with
  | write now answers => exact h.write now answers
  | close => exact h.close
  | read now answers peeks => exact h.read now answers peeks

/-- All moves together keep it together. -/
theorem run (h : Sound payload t) (moves : List Move) : Sound payload (t.run moves) := by
  induction moves generalizing t with
  | nil => exact h
  | cons move moves ih => exact ih (h.after move)

end Sound

/-- A payload is delivered exactly once.  Whatever the two sides do and however the pipe
    answers them: what the reader has collected, what is on its way and what the writer
    has not sent make up the payload, no call fails for good, and a frame that is complete
    is the payload. -/
theorem delivered_run (writer reader : Client Unit) (payload : Bytes) (moves : List Move)
    (hwriter : writer.isConnected = true) (hsends : writer.sendWatch = none)
    (hreader : reader.isConnected = true) (hreceives : reader.receiveWatch = none)
    (hasks : 0 < reader.bufferSize) (hempty : reader.waiting .regular = []) :
    let t := (start writer reader payload).run moves
    t.collected ++ t.pipe.inFlight ++ t.unsent = payload ∧
      (∀ frame, t.frame = some frame → frame.data = payload) ∧ t.broken = false := by
  intro t
  -- Nothing has been sent at the start, and all of the payload waits
  have hstart : Sound payload (start writer reader payload) := by
    have hawaits : FrameSpec.untilClose.Awaits [] FrameSpec.untilClose.start := ⟨rfl, rfl⟩
    exact ⟨rfl, nofun, hwriter, hsends,
      fun _ => ⟨⟨hreader, hreceives, hasks, trivial⟩, hempty, hawaits⟩, nofun, rfl⟩
  have hsound := hstart.run moves
  exact ⟨hsound.conserved, hsound.delivered, hsound.unbroken⟩

/-- A payload of three bytes goes out in two portions with an interruption between them,
    and comes in two others, followed by the end. -/
theorem delivered_run_parted :
    let made : Client PipeEnd := Client.make .stream ⟨⟨[], false⟩, [], []⟩ {} .zero
    let c := (made.ensureConnected .zero).2.away
    let moves : List Move :=
      [.write .zero [.moves 2, .interrupted, .moves 1], .close,
        .read .zero [.moves 1, .moves 2, .moves 1] []]
    let t := (start c c [1, 2, 3]).run moves
    c.isConnected = true ∧ c.sendWatch = none ∧ c.receiveWatch = none ∧ 0 < c.bufferSize ∧
      c.waiting .regular = [] ∧
      t.collected ++ t.pipe.inFlight ++ t.unsent = [1, 2, 3] ∧
      t.frame = some ⟨[1, 2, 3], some "peer"⟩ ∧ t.broken = false := by
  intro made c moves t
  have hasks : 0 < c.bufferSize := by decide
  let writing (inFlight : Bytes) (answers : List PipeAnswer) : Client PipeEnd :=
    (c.atEnd ⟨⟨inFlight, false⟩, answers, []⟩).anchorSend .zero
  let sending := c.atEnd ⟨⟨[], false⟩, [.moves 2, .interrupted, .moves 1], []⟩
  -- The write, send by send
  have hsend := calc
    (sending.anchorSend Clock.zero.first).sendAll Clock.zero.later 0 [1, 2, 3]
    _ = (writing [1, 2] [.interrupted, .moves 1]).sendAll .zero 2 [3] :=
      Client.sendAll_ok (n := 2) .zero 0 rfl
    _ = (writing [1, 2] [.moves 1]).sendAll .zero 2 [3] :=
      Client.sendAll_error (e := .bare .interrupted) .zero 2 rfl
    _ = (writing [1, 2, 3] []).sendAll .zero 3 [] := Client.sendAll_ok (n := 1) .zero 2 rfl
    _ = (.ok 3, writing [1, 2, 3] []) := Client.sendAll_nil _ _ _
  have hwrite : sending.writeStream .zero [1, 2, 3] .regular =
      (.ok 3, (writing [1, 2, 3] []).finishSend) :=
    Client.writeStream_ok rfl (List.cons_ne_nil _ _) hsend
  let reading := (c.atEnd ⟨⟨[1, 2, 3], true⟩, [.moves 1, .moves 2, .moves 1], []⟩).anchorReceive
    .zero
  -- The read, byte by byte, to the end of the pipe
  have hreceive : reading.receiveAll .zero FrameSpec.untilClose.start .regular false false = _ :=
    Client.Receives.receiveAll_eq
      (.more rfl rfl rfl rfl rfl (.more rfl rfl rfl rfl rfl (.closed rfl rfl)))
  have hread : (c.atEnd ⟨⟨[1, 2, 3], true⟩, [.moves 1, .moves 2, .moves 1], []⟩).readStream .zero
      FrameSpec.untilClose.start .regular = ((.ok (.complete ⟨[1, 2, 3], some "peer"⟩), _), _) :=
    congrArg Client.readOutcome hreceive
  have hframe : t.frame = some ⟨[1, 2, 3], some "peer"⟩ := by
    show (((start c c [1, 2, 3]).write _ _).close.read _ _ _).frame = _
    rw [write_ok (List.cons_ne_nil _ _) hwrite]
    exact read_complete rfl hread
  obtain ⟨hconserved, _, hunbroken⟩ :=
    delivered_run c c [1, 2, 3] moves rfl rfl rfl rfl hasks rfl
  exact ⟨rfl, rfl, rfl, hasks, rfl, hconserved, hframe, hunbroken⟩

end Transfer

end FrameSocket
