import FrameSocket.Proofs.Views

/-!
# Runs of a client, and what is put on record of them

A run is any sequence of reads, writes and resets, with the world free to change
the socket in between.  To say what became of the bytes of a run, its socket
records what its receiving calls brought, and its framers record each chunk they
were given and what they handed back.  Nobody sees the recording: forgetting it
gives the run of the bare socket and the bare framers (`forget_runRecorded`).

## Key results

- `Recorded.isView` / `Logged.isView`: forgetting the record is a view
- `forget_runRecorded`: a recorded run is the run itself, and a record of it
-/

namespace FrameSocket

/-! ## Records of channels -/

/-- There is no third channel. -/
theorem Channel.eq_regular {ch : Channel} (h : ch ≠ .urgent) : ch = .regular := by
  cases ch with
  | regular => rfl
  | urgent => exact absurd rfl h

/-- Adds to what is on record for one channel. -/
def Channel.extend {α : Type} (log : Channel → List α) (ch : Channel) (more : List α) :
    Channel → List α :=
  fun ch' => if ch' = ch then log ch' ++ more else log ch'

/-- `Channel.extend` adds to the log of its channel. -/
@[simp] theorem Channel.extend_self {α : Type} (log : Channel → List α) (ch : Channel)
    (more : List α) : Channel.extend log ch more ch = log ch ++ more :=
  if_pos rfl

/-- The record of the other channel stays as it is. -/
theorem Channel.extend_of_ne {α : Type} (log : Channel → List α) {ch ch' : Channel}
    (more : List α) (h : ch' ≠ ch) : Channel.extend log ch more ch' = log ch' :=
  if_neg h

/-- Adding nothing changes no log. -/
@[simp] theorem Channel.extend_nil {α : Type} (log : Channel → List α) (ch : Channel) :
    Channel.extend log ch [] = log := by
  funext ch'
  simp [Channel.extend]

/-! ## Recorded sockets and framers -/

/-- A socket, the bytes that receiving calls brought on each channel, and whether one
    of them told the end of the stream. -/
structure Recorded (σ : Type) where
  socket : σ
  received : Channel → Bytes
  ended : Bool

namespace Recorded

variable {σ : Type}

/-- A socket with nothing on record. -/
def start (socket : σ) : Recorded σ := ⟨socket, fun _ => [], false⟩

/-- Puts bytes that came on a channel on record. -/
def record (r : Recorded σ) (ch : Channel) (bytes : Bytes) : Recorded σ :=
  { r with received := Channel.extend r.received ch bytes }

/-- The bytes that an answer brings. -/
def brought : Except IoError Bytes → Bytes
  | .ok bytes => bytes
  | .error _ => []

/-- Whether an answer tells the end of the stream. -/
def tellsEnd : Channel → Except IoError Bytes → Bool
  | .regular, .ok [] => true
  | _, _ => false

/-- A change of the socket behind the record. -/
def map (change : σ → σ) (r : Recorded σ) : Recorded σ := { r with socket := change r.socket }

variable [Endpoint σ]

/-- Receives, and puts on record what came. -/
def recv (r : Recorded σ) (ch : Channel) (n : Nat) : Except IoError Bytes × Recorded σ :=
  let (answer, s) := Endpoint.recv r.socket ch n
  (answer, { { r with socket := s }.record ch (brought answer) with
    ended := r.ended || tellsEnd ch answer })

/-- Receives a datagram, and puts on record what came. -/
def recvFrom (r : Recorded σ) (n : Nat) :
    Except IoError (Bytes × Option String) × Recorded σ :=
  let (answer, s) := Endpoint.recvFrom r.socket n
  (answer, { r with socket := s }.record .regular (brought (answer.map Prod.fst)))

instance : Endpoint (Recorded σ) where
  id r := Endpoint.id r.socket
  transport r := Endpoint.transport r.socket
  remoteAddress r :=
    let (answer, s) := Endpoint.remoteAddress r.socket
    (answer, { r with socket := s })
  takeError r :=
    let (answer, s) := Endpoint.takeError r.socket
    (answer, { r with socket := s })
  recv := recv
  recvFrom := recvFrom
  peek r ch :=
    let (answer, s) := Endpoint.peek r.socket ch
    (answer, { r with socket := s })
  send r ch data :=
    let (answer, s) := Endpoint.send r.socket ch data
    (answer, { r with socket := s })
  supply r := Endpoint.supply r.socket
  patience r := Endpoint.patience r.socket
  length_recv r := Endpoint.length_recv r.socket
  supply_recv_le r := Endpoint.supply_recv_le r.socket
  supply_recv_data r := Endpoint.supply_recv_data r.socket
  supply_recv_interrupted r := Endpoint.supply_recv_interrupted r.socket
  length_recvFrom r := Endpoint.length_recvFrom r.socket
  supply_recvFrom_interrupted r := Endpoint.supply_recvFrom_interrupted r.socket
  supply_peek_le r := Endpoint.supply_peek_le r.socket
  send_le_length r := Endpoint.send_le_length r.socket
  patience_send_interrupted r := Endpoint.patience_send_interrupted r.socket

/-- What a receiving call has `brought` are the bytes it answers. -/
@[simp] theorem brought_ok (bytes : Bytes) : brought (.ok bytes) = bytes := rfl

/-- What a receiving call brings is added to the record of its channel. -/
theorem received_recv {s s' : Recorded σ} {ch : Channel} {n : Nat}
    {answer : Except IoError Bytes} (h : Endpoint.recv s ch n = (answer, s')) :
    s'.received = Channel.extend s.received ch (brought answer) := by
  have hanswer : (Endpoint.recv s ch n).1 = answer := congrArg Prod.fst h
  have hsocket : (Endpoint.recv s ch n).2 = s' := congrArg Prod.snd h
  rw [← hanswer, ← hsocket]
  rfl

/-- What a stream's receiving call brought in bytes is all that it added. -/
theorem received_recv_data {s s' : Recorded σ} {ch : Channel} {n : Nat}
    {answer : Except IoError Bytes} {bytes : Bytes} (h : Endpoint.recv s ch n = (answer, s'))
    (hof : Client.Received.of ch answer = .data bytes) :
    s'.received = Channel.extend s.received ch bytes := by
  rw [received_recv h, (Client.Received.of_eq_data hof).1, brought_ok]

/-- What a receiving call tells of the end is added to the record. -/
theorem ended_recv {s s' : Recorded σ} {ch : Channel} {n : Nat}
    {answer : Except IoError Bytes} (h : Endpoint.recv s ch n = (answer, s')) :
    s'.ended = (s.ended || tellsEnd ch answer) := by
  have hanswer : (Endpoint.recv s ch n).1 = answer := congrArg Prod.fst h
  have hsocket : (Endpoint.recv s ch n).2 = s' := congrArg Prod.snd h
  rw [← hanswer, ← hsocket]
  rfl

/-- A datagram is added to the record of the regular channel. -/
theorem received_recvFrom {s s' : Recorded σ} {n : Nat}
    {answer : Except IoError (Bytes × Option String)}
    (h : Endpoint.recvFrom s n = (answer, s')) :
    s'.received = Channel.extend s.received .regular (brought (answer.map Prod.fst)) := by
  have hanswer : (Endpoint.recvFrom s n).1 = answer := congrArg Prod.fst h
  have hsocket : (Endpoint.recvFrom s n).2 = s' := congrArg Prod.snd h
  rw [← hanswer, ← hsocket]
  rfl

/-! The other calls bring no bytes. -/

/-- `remoteAddress` brings nothing. -/
theorem received_remoteAddress {s s' : Recorded σ} {answer : Except IoError (Option String)}
    (h : Endpoint.remoteAddress s = (answer, s')) : s'.received = s.received :=
  (congrArg (fun r => r.2.received) h).symm

/-- `takeError` brings nothing. -/
theorem received_takeError {s s' : Recorded σ} {answer : Except IoError (Option IoError)}
    (h : Endpoint.takeError s = (answer, s')) : s'.received = s.received :=
  (congrArg (fun r => r.2.received) h).symm

/-- `peek` brings nothing. -/
theorem received_peek {s s' : Recorded σ} {ch : Channel} {answer : Except IoError Nat}
    (h : Endpoint.peek s ch = (answer, s')) : s'.received = s.received :=
  (congrArg (fun r => r.2.received) h).symm

/-- `send` brings nothing. -/
theorem received_send {s s' : Recorded σ} {ch : Channel} {data : Bytes}
    {answer : Except IoError Nat} (h : Endpoint.send s ch data = (answer, s')) :
    s'.received = s.received :=
  (congrArg (fun r => r.2.received) h).symm

/-- Forgetting the record is a view of the socket. -/
theorem isView : Endpoint.IsView (Recorded.socket (σ := σ)) where
  id_view _ := rfl
  transport_view _ := rfl
  remoteAddress_view _ := rfl
  takeError_view _ := rfl
  recv_view _ _ _ := rfl
  recvFrom_view _ _ := rfl
  peek_view _ _ := rfl
  send_view _ _ _ := rfl

end Recorded

/-- One chunk that a framer was given, and what it handed back of it. -/
structure Feeding where
  chunk : Bytes
  rest : Bytes
  deriving DecidableEq, Repr

/-- The bytes that the framer kept. -/
def Feeding.taken (x : Feeding) : Bytes := x.chunk.take (x.chunk.length - x.rest.length)

/-- A framer, and all that it was fed. -/
structure Logged (φ : Type) where
  framer : φ
  feedings : List Feeding

namespace Logged

variable {φ : Type} [Framer φ]

/-- Feeds a chunk, and puts it on record. -/
def feed (l : Logged φ) (chunk : Bytes) (origin : Option String) : Logged φ × Bytes :=
  let (f, rest) := Framer.feed l.framer chunk origin
  (⟨f, l.feedings ++ [⟨chunk, rest⟩]⟩, rest)

instance : Framer (Logged φ) where
  feed := feed
  isComplete l := Framer.isComplete l.framer
  frame l := Framer.frame l.framer
  close l :=
    let (f, ended) := Framer.close l.framer
    ({ l with framer := f }, ended)

/-- Forgetting the record is a view of the framer. -/
theorem isView : Framer.IsView (Logged.framer (φ := φ)) where
  feed_view _ _ _ := rfl
  isComplete_view _ := rfl
  frame_view _ := rfl
  close_view _ := rfl

end Logged

namespace Client

/-! ## Runs -/

/-- One step of a run.  The framer of a read is any framer: a fresh one, or one that
    an earlier read left.  Framers of several kinds are those of one type that has them
    all, as `Framer.Standard` has. -/
inductive Step (σ φ : Type) where
  /-- The world acts on the socket. -/
  | world (change : σ → σ)
  | read (now : Clock) (f : φ) (ch : Channel)
  | write (now : Clock) (data : Bytes) (ch : Channel)
  | resetTransfer

variable {σ φ : Type} [Endpoint σ] [Framer φ]

/-- The client after one step. -/
def after (kind : ClientKind) (c : Client σ) : Step σ φ → Client σ
  | .world change => c.mapSocket change
  | .read now f ch => (c.read kind now f ch).1.2
  | .write now data ch => (c.write kind now data ch).2
  | .resetTransfer => c.resetTransfer

/-- The client after some steps. -/
def run (kind : ClientKind) (c : Client σ) (steps : List (Step σ φ)) : Client σ :=
  steps.foldl (after kind) c

/-- A client on a recorded socket, and all that framers were fed in reads of each
    channel. -/
structure History (σ : Type) where
  client : Client (Recorded σ)
  feedings : Channel → List Feeding

/-- The history after one step.  What a framer is fed counts for the channel of the
    read it was given to. -/
def History.after (kind : ClientKind) (x : History σ) : Step σ φ → History σ
  | .world change => { x with client := x.client.mapSocket (Recorded.map change) }
  | .read now f ch =>
    let (answer, l) := x.client.read kind now (⟨f, []⟩ : Logged φ) ch
    { client := answer.2, feedings := Channel.extend x.feedings ch l.feedings }
  | .write now data ch => { x with client := (x.client.write kind now data ch).2 }
  | .resetTransfer => { x with client := x.client.resetTransfer }

/-- The history of a client from its making on. -/
def runRecorded (kind : ClientKind) (socket : σ) (config : Config) (now : Duration)
    (steps : List (Step σ φ)) : History σ :=
  steps.foldl (History.after kind) ⟨make kind (.start socket) config now, fun _ => []⟩

/-- The client of a history, on the bare socket. -/
def History.forget (x : History σ) : Client σ := x.client.mapSocket Recorded.socket

/-- Without its record, a history goes on as the client does. -/
theorem History.forget_after (kind : ClientKind) (x : History σ) (step : Step σ φ) :
    (x.after kind step).forget = x.forget.after kind step := by
  cases step with
  | world change => rfl
  | read now f ch =>
    have hview := read_mapSocket Recorded.isView Logged.isView kind x.client now
      (⟨f, []⟩ : Logged φ) ch
    exact (congrArg (fun r => r.1.2) hview).symm
  | write now data ch =>
    exact (congrArg Prod.snd (write_mapSocket Recorded.isView kind x.client now data ch)).symm
  | resetTransfer => rfl

/-- A recorded run is the run of the bare socket and the bare framers, with a record
    of it. -/
theorem forget_runRecorded (kind : ClientKind) (socket : σ) (config : Config) (now : Duration)
    (steps : List (Step σ φ)) :
    (runRecorded kind socket config now steps).forget =
      (make kind socket config now).run kind steps := by
  -- Forgetting commutes with every step
  have hrun : ∀ x : History σ,
      (steps.foldl (History.after kind) x).forget = x.forget.run kind steps := by
    induction steps with
    | nil => exact fun _ => rfl
    | cons step steps ih =>
      intro x
      rw [List.foldl_cons, ih, x.forget_after kind step]
      rfl
  unfold runRecorded
  rw [hrun]
  congr 1
  exact (make_mapSocket Recorded.isView kind (.start socket) config now).symm

end Client

end FrameSocket
