import FrameSocket.Framer.SingleChunk
import FrameSocket.Proofs.Exchanges
import FrameSocket.Socket.Scripted

/-!
# What a datagram client reports of its connection

A datagram client is connected from its making on.  When a call tells it that the other side
is gone, the operation fails with the loss of the peer, and from then on the client reports
that it is not connected.  Nothing ever connects it again, and none of its operations looks
at the report: they go on as if nothing had been lost.

## Key results

- `readDatagram_report` / `writeDatagram_report`: an operation does the same whatever the
  client reports
- `connection_run`: the report is that of a latch, which the first loss closes
- `reported_run`: what a client reports after any run, and what it does then
- `read_after_loss`: a frame of a client that reports that it is not connected
-/

namespace FrameSocket

/-- The loss of the peer. -/
def NetworkError.isLoss : NetworkError → Bool
  | .connectionLost _ => true
  | _ => false

/-- Whether an operation failed with the loss of the peer. -/
def isLoss {α : Type} : Except NetworkError α → Bool
  | .error e => e.isLoss
  | .ok _ => false

/-- What is reported of a connection after an operation: only a loss changes it. -/
def Connection.after {α : Type} (k : Connection) (answer : Except NetworkError α) : Connection :=
  if isLoss answer then .disconnected else k

namespace Client

variable {σ φ : Type} [Endpoint σ] [Framer φ]

/-- The same client, with another report of its connection. -/
def report (c : Client σ) (k : Connection) : Client σ := { c with connection := k }

/-- The same answer, of a client that reported `k` before. -/
def Answer.reporting {α : Type} (k : Connection) (a : Answer σ α) : Answer σ α :=
  (a.1, a.2.report (k.after a.1))

/-! ## Operations that do not look at the report -/

section Reports

variable (c : Client σ) (k : Connection)

omit [Endpoint σ] in
/-- `keep` does not look at the connection. -/
theorem keep_report (ch : Channel) (rest : Bytes) (origin : Option String) :
    (c.report k).keep ch rest origin = (c.keep ch rest origin).report k := by
  unfold keep
  split <;> rfl

omit [Endpoint σ] in
/-- `feed` does not look at the connection. -/
theorem feed_report (f : φ) (ch : Channel) (data : Bytes) (origin : Option String) :
    (c.report k).feed f ch data origin =
      ((c.feed f ch data origin).1.report k, (c.feed f ch data origin).2) :=
  Prod.ext (keep_report c k _ _ _) rfl

omit [Endpoint σ] in
/-- `replay` does not look at the connection. -/
theorem replay_report (f : φ) (ch : Channel) :
    (c.report k).replay f ch = ((c.replay f ch).1.report k, (c.replay f ch).2) := by
  have hleft : (c.report k).leftovers = c.leftovers := rfl
  unfold replay
  rw [hleft]
  split
  · rfl
  · rename_i left leftovers _
    exact Prod.ext (keep_report { c with leftovers } k _ _ _) rfl

omit [Endpoint σ] in
/-- A watchdog does not take a connection for lost. -/
theorem trackReceive_report (now : Duration) (bytes : Nat) :
    (c.report k).trackReceive now bytes = (c.trackReceive now bytes).reporting k := by
  have hwatch : (c.report k).receiveWatch = c.receiveWatch := rfl
  have helapsed : (c.report k).elapsed now = c.elapsed now := rfl
  unfold trackReceive
  rw [hwatch]
  split
  · rfl
  · dsimp only
    rw [helapsed]
    split <;> rfl

omit [Endpoint σ] in
/-- `trackSend` does not look at the connection. -/
theorem trackSend_report (now : Duration) (bytes : Nat) :
    (c.report k).trackSend now bytes = (c.trackSend now bytes).reporting k := by
  have hwatch : (c.report k).sendWatch = c.sendWatch := rfl
  have helapsed : (c.report k).elapsed now = c.elapsed now := rfl
  unfold trackSend
  rw [hwatch]
  split
  · rfl
  · dsimp only
    rw [helapsed]
    split <;> rfl

/-- A failed call does, if its error says so. -/
theorem receiveError_report (e : IoError) :
    (failed ((c.report k).receiveError e) : Answer σ (Incoming σ)) =
      (failed (c.receiveError e)).reporting k := by
  unfold receiveError
  split <;> rfl

/-- `sendError` sets the connection whatever it was. -/
theorem sendError_report (e : IoError) :
    (failed ((c.report k).sendError e) : Answer σ Nat) = (failed (c.sendError e)).reporting k := by
  unfold sendError
  split <;> rfl

/-- `stalled` does not look at the connection. -/
theorem stalled_report (reason : String) :
    (c.report k).stalled reason = (c.stalled reason).reporting k := by
  have hattempts : (c.report k).spendWrite.writeAttempts = c.spendWrite.writeAttempts := rfl
  unfold stalled
  dsimp only
  rw [hattempts]
  split <;> rfl

end Reports

/-- A datagram is fed and tracked alike. -/
theorem receiveDatagram_report_ok {c c₁ : Client σ} {k : Connection} {now : Duration} {f f₁ : φ}
    {data : Bytes} {origin : Option String} {s : σ}
    (hrecv : Endpoint.recvFrom c.socket c.bufferSize = (.ok (data, origin), s))
    (hfeed : { c with socket := s }.feed f .regular data origin = (c₁, f₁)) :
    (c.report k).receiveDatagram now f =
      match (c₁.trackReceive now data.length).reporting k with
      | (.error e, c) => ((.error e, c), f₁)
      | (.ok (), c) =>
        if Framer.isComplete f₁ then (c.complete f₁, f₁)
        else (c.incomplete f₁ "datagram ended before the frame did", f₁) := by
  have hfed := feed_report { c with socket := s } k f .regular data origin
  rw [hfeed] at hfed
  rw [← trackReceive_report]
  exact receiveDatagram_ok now hrecv hfed

/-- Nor does the receipt of a datagram look at the report. -/
theorem receiveDatagram_report (c : Client σ) (k : Connection) (now : Duration) (f : φ) :
    (c.report k).receiveDatagram now f =
      ((c.receiveDatagram now f).1.reporting k, (c.receiveDatagram now f).2) := by
  fun_induction receiveDatagram c now f with
  | case1 c data origin s hrecv c₁ f₁ hfeed e c₂ htrack =>
    rw [receiveDatagram_report_ok hrecv hfeed, htrack]
    rfl
  | case2 c data origin s hrecv c₁ f₁ hfeed c₂ htrack hdone =>
    rw [receiveDatagram_report_ok hrecv hfeed, htrack]
    dsimp only [Answer.reporting]
    rw [if_pos hdone]
    rfl
  | case3 c data origin s hrecv c₁ f₁ hfeed c₂ htrack hdone =>
    rw [receiveDatagram_report_ok hrecv hfeed, htrack]
    dsimp only [Answer.reporting]
    rw [if_neg hdone]
    rfl
  | case4 c e s hrecv c' hblocked =>
    rw [receiveDatagram_error (c := c.report k) now _ hrecv, if_pos hblocked]
    rfl
  | case5 c e s hrecv c' hblocked hinterrupted ih =>
    rw [receiveDatagram_error (c := c.report k) now _ hrecv, if_neg hblocked, if_pos hinterrupted]
    exact ih
  -- Only a lost peer sets the report, whatever it was before
  | case6 c e s hrecv c' hblocked hinterrupted =>
    rw [receiveDatagram_error (c := c.report k) now _ hrecv, if_neg hblocked,
      if_neg hinterrupted]
    exact Prod.ext (receiveError_report { c with socket := s } k e) rfl

/-- A read does the same whatever the client reports. -/
theorem readDatagram_report (c : Client σ) (k : Connection) (now : Clock) (f : φ)
    (ch : Channel) :
    (c.report k).readDatagram now f ch =
      ((c.readDatagram now f ch).1.reporting k, (c.readDatagram now f ch).2) := by
  have hanchor : (c.report k).anchorReceive now.first = (c.anchorReceive now.first).report k := rfl
  unfold readDatagram
  simp only [hanchor, replay_report]
  generalize c.anchorReceive now.first = c₁
  split
  · -- the channel is refused
    rfl
  · split
    · rfl
    · obtain ⟨c₂, f₂⟩ := c₁.replay f .regular
      dsimp only
      split
      · -- what waited completes the frame
        rfl
      · exact receiveDatagram_report c₂ k now.later.first f₂

/-- `sendDatagram` does not look at the connection. -/
theorem sendDatagram_report (c : Client σ) (k : Connection) (now : Duration) (data : Bytes) :
    (c.report k).sendDatagram now data = (c.sendDatagram now data).reporting k := by
  -- The watchdog is told the same, for the call changes the socket only
  have htracked : ∀ {c c' : Client σ} {n : Nat} {s : σ} {answer},
      { c with socket := s }.trackSend now n = (answer, c') →
      { c.report k with socket := s }.trackSend now n = (answer, c'.report (k.after answer)) := by
    intro c c' n s answer htrack
    exact (trackSend_report { c with socket := s } k now n).trans
      (congrArg (Answer.reporting k) htrack)
  fun_induction sendDatagram c now data with
  | case1 c sent s hsend c₁ hsent e c₂ htrack =>
    rw [sendDatagram_ok (c := c.report k) now hsend, if_pos hsent, htracked htrack]
    rfl
  | case2 c sent s hsend c₁ hsent c₂ htrack =>
    rw [sendDatagram_ok (c := c.report k) now hsend, if_pos hsent, htracked htrack]
    rfl
  | case3 c sent s hsend c₁ hsent =>
    rw [sendDatagram_ok (c := c.report k) now hsend, if_neg hsent]
    exact stalled_report { c with socket := s } k _
  | case4 c e s hsend c' hblocked =>
    rw [sendDatagram_error (c := c.report k) now hsend, if_pos hblocked]
    exact stalled_report { c with socket := s } k _
  | case5 c e s hsend c' hblocked hinterrupted ih =>
    rw [sendDatagram_error (c := c.report k) now hsend, if_neg hblocked, if_pos hinterrupted]
    exact ih
  | case6 c e s hsend c' hblocked hinterrupted =>
    rw [sendDatagram_error (c := c.report k) now hsend, if_neg hblocked, if_neg hinterrupted]
    exact sendError_report { c with socket := s } k e

/-- So does a write. -/
theorem writeDatagram_report (c : Client σ) (k : Connection) (now : Clock) (data : Bytes)
    (ch : Channel) :
    (c.report k).writeDatagram now data ch = (c.writeDatagram now data ch).reporting k := by
  have hanchor : (c.report k).anchorSend now.first = (c.anchorSend now.first).report k := rfl
  have hconfig : (c.report k).config = c.config := rfl
  unfold writeDatagram
  rw [hanchor, hconfig]
  split
  · -- the channel is refused
    rfl
  · dsimp only
    split
    · -- the datagram is too long
      rfl
    · exact sendDatagram_report (c.anchorSend now.first) k now.later.first data

/-! ## Steps and runs -/

/-- Whether a step of a datagram client fails with the loss of the peer. -/
def loses (c : Client σ) : Step σ φ → Bool
  | .read now f ch => isLoss (c.read .datagram now f ch).1.1
  | .write now data ch => isLoss (c.write .datagram now data ch).1
  | .world _ | .resetTransfer => false

/-- Whether a step of a run does. -/
def losesIn (c : Client σ) : List (Step σ φ) → Bool
  | [] => false
  | step :: steps => c.loses step || (c.after .datagram step).losesIn steps

/-- A step that fails with the loss of the peer is all that changes the report. -/
theorem connection_after (c : Client σ) (step : Step σ φ) :
    (c.after .datagram step).connection =
      if c.loses step then .disconnected else c.connection := by
  cases step with
  | world change => rfl
  | read now f ch =>
    have hread := readDatagram_report c c.connection now f ch
    exact congrArg (fun r => r.1.2.connection) hread
  | write now data ch =>
    have hwrite := writeDatagram_report c c.connection now data ch
    exact congrArg (fun r => r.2.connection) hwrite
  | resetTransfer => rfl

/-- The report is that of a latch, which the first loss closes. -/
theorem connection_run (c : Client σ) (steps : List (Step σ φ)) :
    (c.run .datagram steps).connection =
      if c.losesIn steps then .disconnected else c.connection := by
  induction steps generalizing c with
  | nil => rfl
  | cons step steps ih =>
    show ((c.after .datagram step).run .datagram steps).connection = _
    -- The latch is closed by this step, or is left to the others
    rw [ih, connection_after, losesIn]
    cases c.loses step with
    | true => simp
    | false => simp

/-- A client is connected as soon as it is made. -/
theorem connection_newDatagram (socket : σ) (config : Config) (made : Duration) :
    (newDatagram socket config made).connection = .connected := by
  unfold newDatagram
  dsimp only
  split <;> rfl

/-- The calls of a step are the same, whatever the client reports. -/
theorem exchangesOf_report (c : Client σ) (k : Connection) (step : Step σ φ) :
    (c.report k).exchangesOf .datagram step = c.exchangesOf .datagram step := by
  cases step with
  | world change => rfl
  | read now f ch =>
    exact congrArg (fun r => r.1.2.socket.exchanges) (readDatagram_report c.traced k now f ch)
  | write now data ch =>
    exact congrArg (fun r => r.2.socket.exchanges) (writeDatagram_report c.traced k now data ch)
  | resetTransfer => rfl

omit [Framer φ] [Endpoint σ] in
/-- A client that is not connected is disconnected. -/
theorem isConnected_eq_false_iff (c : Client σ) :
    c.isConnected = false ↔ c.connection = .disconnected := by
  unfold isConnected
  cases c.connection <;> simp

/-- What a datagram client reports after any run from its making on, and what it does then.

    It reports that it is not connected exactly if an operation of the run has failed with the
    loss of the peer.  An operation that does not fail in that way, be it that it completes a
    frame or sends a datagram, leaves the report as it is.  And whatever is reported, reads
    and writes make the same calls, answer the same, and leave the same framer and the same
    client, but for the report. -/
theorem reported_run (socket : σ) (config : Config) (made : Duration)
    (steps : List (Step σ φ)) :
    let start := make .datagram socket config made
    let c := start.run .datagram steps
    (c.isConnected = false ↔ start.losesIn steps = true) ∧
    (∀ step : Step σ φ, c.loses step = false →
      ((c.after .datagram step).isConnected = false ↔ start.losesIn steps = true)) ∧
    ∀ k : Connection,
      (∀ step : Step σ φ,
        (c.report k).exchangesOf .datagram step = c.exchangesOf .datagram step) ∧
      (∀ (now : Clock) (f : φ) (ch : Channel),
        (c.report k).read .datagram now f ch =
          ((c.read .datagram now f ch).1.reporting k, (c.read .datagram now f ch).2)) ∧
      ∀ (now : Clock) (data : Bytes) (ch : Channel),
        (c.report k).write .datagram now data ch =
          (c.write .datagram now data ch).reporting k := by
  intro start c
  -- A client of datagrams begins connected, and the run says what it lost
  have hrun : c.isConnected = false ↔ start.losesIn steps = true := by
    rw [isConnected_eq_false_iff, connection_run]
    have hconnected : start.connection = .connected := connection_newDatagram socket config made
    cases start.losesIn steps <;> simp [hconnected]
  refine ⟨hrun, fun step hstep => ?_, fun k => ⟨exchangesOf_report c k, ?_, ?_⟩⟩
  · rw [← hrun, isConnected_eq_false_iff, isConnected_eq_false_iff, connection_after, hstep]
    rfl
  · exact readDatagram_report c k
  · exact writeDatagram_report c k

/-- A receiving call is told that the other side is gone.  The next read completes a frame
    from the datagram behind it, and the client goes on to report that it is not connected. -/
theorem read_after_loss :
    let socket : ScriptedSocket :=
      { id := ⟨1⟩, transport := .udp, peer := .ok (some "10.0.0.2:4000"),
        rx := [.fails (.bare .connectionReset), .data [0x61, 0x62] (some "10.0.0.2:4000")] }
    let read : Step ScriptedSocket Framer.SingleChunk := .read .zero .start .regular
    let c := (make .datagram socket {} .zero).run .datagram [read]
    c.isConnected = false ∧
      (c.read .datagram .zero Framer.SingleChunk.start .regular).1.1 =
        .ok (.complete ⟨[0x61, 0x62], some "10.0.0.2:4000"⟩) ∧
      (c.after .datagram read).isConnected = false := by
  intro socket read c
  let start : Client ScriptedSocket := make .datagram socket {} .zero
  -- What the loss leaves
  let ready : Client ScriptedSocket :=
    { start.report .disconnected with socket := { start.socket with
        rx := [.data [0x61, 0x62] (some "10.0.0.2:4000")]
        calls := .recvFrom start.bufferSize :: start.socket.calls } }
  have hlost : start.readDatagram .zero Framer.SingleChunk.start .regular =
      ((.error (.connectionLost "10.0.0.2:4000"), ready), .start) := by
    show start.receiveDatagram .zero Framer.SingleChunk.start = _
    rw [receiveDatagram_error .zero _ rfl]
    rfl
  have hc : c = ready := by
    show (start.readDatagram .zero Framer.SingleChunk.start .regular).1.2 = ready
    rw [hlost]
  have hread : ready.readDatagram .zero Framer.SingleChunk.start .regular = _ :=
    readDatagram_of_complete rfl rfl rfl rfl rfl rfl rfl
  rw [hc]
  refine ⟨rfl, ?_, ?_⟩
  · show (ready.readDatagram .zero Framer.SingleChunk.start .regular).1.1 = _
    rw [hread]
    rfl
  · show (ready.readDatagram .zero Framer.SingleChunk.start .regular).1.2.isConnected = false
    rw [hread]
    rfl

end Client

end FrameSocket
