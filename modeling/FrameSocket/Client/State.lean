import FrameSocket.Client.Leftovers
import FrameSocket.Clock
import FrameSocket.Config
import FrameSocket.Framer
import FrameSocket.NetworkError
import FrameSocket.Socket.Endpoint
import FrameSocket.Watchdog

/-!
# The state of a client

A client owns one socket and turns bursts of calls on it into reads of whole
frames and writes.  This module holds what stream and datagram clients share:
the state, how a connection is gained and lost, how bytes pass between socket,
framer and leftovers, the budgets, and the speed watchdogs.
-/

namespace FrameSocket

/-- Whether a client has a peer. -/
inductive Connection where
  | disconnected
  | connected
  deriving DecidableEq, Repr

/-- A client with a socket of type `σ`. -/
structure Client (σ : Type) where
  socket : σ
  config : Config
  connection : Connection
  /-- Whether there has ever been a connection. -/
  wasConnected : Bool
  leftovers : Leftovers
  /-- The peer's address, once it is known. -/
  remote : Option String
  /-- Bytes asked for in one receiving call. -/
  bufferSize : Nat
  /-- The clock's reading when the client was made. -/
  createdAt : Duration
  /-- Read attempts left. -/
  readAttempts : Nat
  /-- Write attempts left. -/
  writeAttempts : Nat
  /-- Dry reads in a row, of which the second costs an attempt. -/
  dryReads : Nat
  receiveWatch : Option (Watchdog Float)
  sendWatch : Option (Watchdog Float)

/-- What a read or a write of a client answers, and the client afterwards. -/
abbrev Client.Answer (σ α : Type) := Except NetworkError α × Client σ

namespace Client

variable {σ φ : Type} [Endpoint σ] [Framer φ]

/-- A client that has not used its socket yet.  It never asks for fewer than
one byte. -/
def new (socket : σ) (config : Config) (bufferSize : Nat) (now : Duration) : Client σ where
  socket := socket
  config := config
  connection := .disconnected
  wasConnected := false
  leftovers := .empty
  remote := none
  bufferSize := max bufferSize 1
  createdAt := now
  readAttempts := config.readAttempts
  writeAttempts := config.writeAttempts
  dryReads := 0
  receiveWatch := config.minReceiveSpeed.map (Watchdog.new · config.slowReceiveLimit.toSeconds)
  sendWatch := config.minSendSpeed.map (Watchdog.new · config.slowSendLimit.toSeconds)

/-- The client on another socket. -/
def mapSocket {τ : Type} (f : σ → τ) (c : Client σ) : Client τ :=
  { c with socket := f c.socket }

/-- Whether the client is connected now; `wasConnected` says whether it ever was. -/
def isConnected (c : Client σ) : Bool := c.connection = .connected

/-- How errors name the peer: by its address, or by the socket while there is
none. -/
def address (c : Client σ) : String :=
  c.remote.getD ("socket " ++ (Endpoint.id c.socket).text)

/-! ## Connections gained and lost -/

/-- The client once its peer is known; nothing is left over from before. -/
def markConnected (c : Client σ) (address : String) : Client σ :=
  { c with connection := .connected, wasConnected := true, remote := some address,
           leftovers := .empty }

/-- The client once its peer is gone. -/
def disconnect (c : Client σ) : Client σ := { c with connection := .disconnected }

/-- The failure of an operation whose peer is gone. -/
def lost (c : Client σ) : NetworkError × Client σ :=
  (.connectionLost c.address, c.disconnect)

/-- The failure of an operation on a socket that does not come to be connected. -/
def refused (c : Client σ) (reason : String) : NetworkError × Client σ :=
  (.connectionRefused c.address reason, c)

/-- The failure of a receiving call: either the peer is gone, or the call failed. -/
def receiveError (c : Client σ) (e : IoError) : NetworkError × Client σ :=
  if e.kind.isConnectionGone then c.lost else (.receiveFailed c.address e, c)

/-- The failure of a sending call: either the peer is gone, or the call failed. -/
def sendError (c : Client σ) (e : IoError) : NetworkError × Client σ :=
  if e.kind.isConnectionGone then c.lost else (.sendFailed c.address e, c)

/-- A failure as the answer of an operation. -/
def failed {α : Type} (failure : NetworkError × Client σ) : Answer σ α :=
  (.error failure.1, failure.2)

/-! ## Bytes between socket, framer and leftovers -/

/-- Keeps what a framer handed back; nothing is stored for no bytes. -/
def keep (c : Client σ) (ch : Channel) (rest : Bytes) (origin : Option String) : Client σ :=
  if rest.isEmpty then c else { c with leftovers := c.leftovers.store ch ⟨rest, origin⟩ }

/-- Feeds a channel's leftover to a framer, and keeps what it hands back. -/
def replay (c : Client σ) (f : φ) (ch : Channel) : Client σ × φ :=
  match c.leftovers.take ch with
  | (none, _) => (c, f)
  | (some left, leftovers) =>
    let (f, rest) := Framer.feed f left.data left.origin
    (({ c with leftovers }).keep ch rest left.origin, f)

/-- Feeds received bytes to a framer, and keeps what it hands back.  Bytes of
unknown origin are the peer's. -/
def feed (c : Client σ) (f : φ) (ch : Channel) (data : Bytes) (origin : Option String) :
    Client σ × φ :=
  let origin := origin.or c.remote
  let (f, rest) := Framer.feed f data origin
  (c.keep ch rest origin, f)

omit [Endpoint σ] in
/-- `keep` leaves the socket as it is. -/
@[simp] theorem socket_keep (c : Client σ) (ch : Channel) (rest : Bytes)
    (origin : Option String) : (c.keep ch rest origin).socket = c.socket := by
  unfold keep; split <;> rfl

omit [Endpoint σ] in
/-- `feed` leaves the socket as it is. -/
@[simp] theorem socket_feed (c : Client σ) (f : φ) (ch : Channel) (data : Bytes)
    (origin : Option String) : (c.feed f ch data origin).1.socket = c.socket :=
  socket_keep c ch _ _

/-! ## Speed -/

/-- The time since the client was made, in seconds. -/
def elapsed (c : Client σ) (now : Duration) : Float := (now - c.createdAt).toSeconds

/-- A watchdog's first sample, unless it has been taken. -/
def anchored (watch : Option (Watchdog Float)) (time : Float) : Option (Watchdog Float) :=
  watch.map fun d => if d.isStarted then d else (d.sample time 0).1

/-- Opens the window of the receive watchdog, unless it is open. -/
def anchorReceive (c : Client σ) (now : Duration) : Client σ :=
  { c with receiveWatch := anchored c.receiveWatch (c.elapsed now) }

/-- Opens the window of the send watchdog, unless it is open. -/
def anchorSend (c : Client σ) (now : Duration) : Client σ :=
  { c with sendWatch := anchored c.sendWatch (c.elapsed now) }

/-- Tells the watchdog that bytes have been received. -/
def trackReceive (c : Client σ) (now : Duration) (bytes : Nat) : Answer σ Unit :=
  match c.receiveWatch with
  | none => (.ok (), c)
  | some d =>
    let (d, alarm) := d.sample (c.elapsed now) bytes
    let c := { c with receiveWatch := some d }
    match alarm with
    | none => (.ok (), c)
    | some a => (.error (.slowTransfer .receive a.speed a.duration), c)

/-- Tells the watchdog that bytes have been sent. -/
def trackSend (c : Client σ) (now : Duration) (bytes : Nat) : Answer σ Unit :=
  match c.sendWatch with
  | none => (.ok (), c)
  | some d =>
    let (d, alarm) := d.sample (c.elapsed now) bytes
    let c := { c with sendWatch := some d }
    match alarm with
    | none => (.ok (), c)
    | some a => (.error (.slowTransfer .send a.speed a.duration), c)

omit [Endpoint σ] in
/-- `trackReceive` leaves the socket as it is. -/
@[simp] theorem socket_trackReceive (c : Client σ) (now : Duration) (bytes : Nat) :
    (c.trackReceive now bytes).2.socket = c.socket := by
  unfold trackReceive
  split
  · rfl
  · dsimp only
    split <;> rfl

/-! ## Budgets -/

/-- What a read that brought bytes does to the counters of reading. -/
def refillReads (c : Client σ) : Client σ :=
  { c with readAttempts := c.config.readAttempts, dryReads := 0 }

/-- What a send that took bytes does to the counter of writing. -/
def refillWrites (c : Client σ) : Client σ :=
  { c with writeAttempts := c.config.writeAttempts }

/-- Counts a read that found nothing at all.  Every second one in a row costs an
attempt. -/
def dryRead (c : Client σ) : Client σ :=
  if 2 ≤ c.dryReads + 1 then { c with dryReads := 0, readAttempts := c.readAttempts - 1 }
  else { c with dryReads := c.dryReads + 1 }

/-- Counts a write that moved nothing. -/
def spendWrite (c : Client σ) : Client σ := { c with writeAttempts := c.writeAttempts - 1 }

/-- The reading of a frame is over, well or not: budget and speed start anew. -/
def finishRead (c : Client σ) : Client σ :=
  { c.refillReads with receiveWatch := c.receiveWatch.map Watchdog.reset }

/-- A send is over: budget and speed start anew. -/
def finishSend (c : Client σ) : Client σ :=
  { c.refillWrites with sendWatch := c.sendWatch.map Watchdog.reset }

/-- Makes the client ready for another exchange over the same connection. -/
def resetTransfer (c : Client σ) : Client σ := c.finishRead.finishSend

/-! ## Outcomes of a read -/

/-- The end of a read that has its frame. -/
def complete (c : Client σ) (f : φ) : Answer σ (Incoming σ) :=
  (.ok (.complete (Framer.frame f)), c.finishRead)

/-- The end of a read that gives its frame up. -/
def incomplete (c : Client σ) (f : φ) (reason : String) : Answer σ (Incoming σ) :=
  -- The budget is full again before anyone sees the error.
  let c := c.finishRead
  (.error (.framingIncomplete c.address reason (Framer.frame f)), c)

/-- The end of a read whose frame goes on with the next one. -/
def unfinished (c : Client σ) (f : φ) : Answer σ (Incoming σ) :=
  (.ok (.unfinished (Framer.frame f)), c)

end Client

end FrameSocket
