import FrameSocket.ArithmeticFault
import FrameSocket.NetworkError
import FrameSocket.Selector.Poller
import FrameSocket.Selector.Registrations

/-!
# Selectors

A selector waits until one of its registered sockets can go on.  A select that
finds something uses all registrations up; one that fails keeps them.

Peers are ready without any waiting.  All other sockets are left to a poller,
whose reports are hints: a socket counts as readable only if a peek does not find
it empty, listening sockets apart.  A report that comes to nothing is followed by
a short pause, so that a poller that keeps repeating it does not keep the caller
busy.

Waits are cut into slices of at most a second.  Nothing bounds a select without a
budget, so every select is given the most waits that it may make; one that has
made them all is `unfinished`.
-/

namespace FrameSocket

/-- The longest single wait. -/
def waitSlice : Duration := .ofSeconds 1

/-- The pause after a report that came to nothing. -/
def falseReportPause : Duration := .ofMillis 10

/-- How a select ends. -/
inductive Selection where
  | ready (sockets : Ready)
  | failed (error : NetworkError)
  /-- A sum of its budget left its range. -/
  | fault (fault : ArithmeticFault)
  /-- It may make no more waits. -/
  | unfinished
  deriving Repr

/-- A selector. -/
structure Selector where
  registrations : Registrations := []
  deriving DecidableEq, Repr

namespace Selector

variable {π : Type} [Poller π]

/-! ## Registrations -/

/-- Registers a socket for an operation. -/
def add (s : Selector) (socket : Socket) (op : Operation) : Selector :=
  ⟨s.registrations.add socket.id (.of socket) op⟩

/-- Withdraws one operation of a socket. -/
def remove (s : Selector) (id : SocketId) (op : Operation) : Selector :=
  ⟨s.registrations.remove id op⟩

/-- Withdraws all operations of a socket. -/
def removeAll (s : Selector) (id : SocketId) : Selector := ⟨s.registrations.removeAll id⟩

/-- The selector without registrations. -/
def empty : Selector := {}

/-- Whether there is anything to select. -/
def hasRegistrations (s : Selector) : Bool := !s.registrations.isEmpty

/-! ## Budgets -/

/-- A budget of whole seconds and microseconds.  Seconds are kept in 64 bits. -/
def budget (seconds : Option Nat) (micros : Nat) : Except ArithmeticFault (Option Duration) :=
  match seconds with
  | none => .ok none
  | some n =>
    let total := Duration.ofSeconds n + Duration.ofMicros micros
    if total.seconds < 0x10000000000000000 then .ok (some total) else .error .duration

/-- The time at which a budget is used up.  Seconds are kept in 63 bits. -/
def deadline (now : Duration) (budget : Option Duration) :
    Except ArithmeticFault (Option Duration) :=
  match budget with
  | none => .ok none
  | some b =>
    if (now + b).seconds < 0x8000000000000000 then .ok (some (now + b)) else .error .instant

/-! ## Peers -/

/-- Adds what a peer is ready for. -/
def addPeer (ready : Ready) (r : Registration) : Ready :=
  match r.source with
  | .peer pending => (ready.addIf (r.read && pending) .read r.id).addIf r.write .write r.id
  | .descriptor .. => ready

/-- The peers that are ready. -/
def readyPeers (rs : Registrations) : Ready := rs.foldl addPeer {}

/-! ## The poller's part -/

/-- Lets the poller forget descriptors. -/
def forget (p : π) (descriptors : List Nat) : π :=
  descriptors.foldl (fun p d => (Poller.deregister p d).2) p

/-- Lets the poller watch all registered sockets but peers, and answers their
descriptors.  If it refuses one, it forgets those before it; `watched` holds
them. -/
def watch (p : π) (watched : List Nat) : Registrations → Except IoError (List Nat) × π
  | [] => (.ok watched, p)
  | r :: rs =>
    match r.source with
    -- A peer's descriptor is the server's, and says nothing about the peer.
    | .peer _ => watch p watched rs
    | .descriptor d _ urgent =>
      match Poller.register p d r.id (r.interest urgent) with
      | (.ok (), p) => watch p (watched ++ [d]) rs
      | (.error e, p) => (.error e, forget p watched)

/-- Whether a descriptor that was reported as readable is more than empty. -/
def confirmed (p : π) (d : Nat) : Bool × π :=
  match Poller.peek p d .regular with
  | (.ok _, p) => (true, p)
  | (.error e, p) => (!e.isBlocked, p)

/-- Whether a reported socket can be read. -/
def checkRead (p : π) (r : Registration) (d : Nat) (listening : Bool) (e : Event) : Bool × π :=
  if r.read && (e.readable || e.readClosed || e.failed) then
    if listening then (true, p) else confirmed p d
  else (false, p)

/-- Whether a reported socket has urgent data. -/
def checkUrgent (p : π) (d : Nat) (urgent : Bool) : Bool × π :=
  if urgent then
    let (answer, p) := Poller.peek p d .urgent
    (match answer with
      | .ok n => n = 1
      | .error _ => false, p)
  else (false, p)

/-- Adds what a reported socket is found to be ready for. -/
def checkEvent (rs : Registrations) (state : Ready × π) (e : Event) : Ready × π :=
  match rs.find? e.id with
  | none => state
  | some r =>
    match r.source with
    | .peer _ => state
    | .descriptor d listening urgent =>
      let (ready, p) := state
      let (readable, p) := checkRead p r d listening e
      let writable := r.write && (e.writable || e.writeClosed || e.failed)
      let (hasUrgent, p) := checkUrgent p d urgent
      (((ready.addIf readable .read e.id).addIf writable .write e.id).addIf hasUrgent
        .urgent e.id, p)

/-! ## Waiting -/

/-- How waiting ends. -/
inductive Waited where
  | ready (sockets : Ready)
  /-- The deadline has passed. -/
  | late
  | failed (error : IoError)
  | unfinished

/-- The time left until a deadline. -/
def remaining (p : π) (deadline : Option Duration) : Option Duration :=
  deadline.map (· - Poller.now p)

/-- How long the next wait may take. -/
def slice (p : π) (ready : Ready) (deadline : Option Duration) : Duration :=
  -- With a peer ready, the others are only looked at.
  if ready.isEmpty then
    match remaining p deadline with
    | none => waitSlice
    | some left => min left waitSlice
  else .zero

/-- The pause after a report that came to nothing. -/
def pause (left : Option Duration) : Duration :=
  match left with
  | none => falseReportPause
  | some left => min left falseReportPause

/-- Waits until a socket is ready or the deadline has passed. -/
def await (rs : Registrations) (ready : Ready) (deadline : Option Duration) :
    Nat → π → Waited × π
  | 0, p => (.unfinished, p)
  | waits + 1, p =>
    match Poller.wait p (slice p ready deadline) with
    | (.error e, p) =>
      if e.isInterrupted then await rs ready deadline waits p else (.failed e, p)
    | (.ok events, p) =>
      let (ready, p) := events.foldl (checkEvent rs) (ready, p)
      if !ready.isEmpty then (.ready ready, p)
      else
        let left := remaining p deadline
        if left = some .zero then (.late, p)
        -- An empty wait has taken its time; a false report has not.
        else await rs ready deadline waits
          (if events.isEmpty then p else Poller.sleep p (pause left))

/-- Watches, waits and forgets again. -/
def poll (s : Selector) (waits : Nat) (p : π) (budget deadline : Option Duration) :
    Selection × Selector × π :=
  match watch p [] s.registrations with
  | (.error e, p) => (.failed (.io e), s, p)
  | (.ok descriptors, p) =>
    let (outcome, p) := await s.registrations (readyPeers s.registrations) deadline waits p
    let p := forget p descriptors
    match outcome with
    | .ready sockets => (.ready sockets.sorted, empty, p)
    | .late => (.failed (.timeout budget), s, p)
    | .failed e => (.failed (.io e), s, p)
    | .unfinished => (.unfinished, s, p)

/-- Waits until a registered socket can go on, at most for `seconds` and
`micros`; without seconds there is no bound.  At most `waits` waits are made. -/
def select (s : Selector) (waits : Nat) (p : π) (seconds : Option Nat) (micros : Nat) :
    Selection × Selector × π :=
  if !s.hasRegistrations then (.failed .nothingToSelect, s, p)
  else match budget seconds micros with
    | .error fault => (.fault fault, s, p)
    | .ok budget =>
      match deadline (Poller.now p) budget with
      | .error fault => (.fault fault, s, p)
      | .ok deadline => s.poll waits p budget deadline

/-- Waits until a registered socket can go on, at most for the given time, less
what it has beyond whole microseconds. -/
def selectFor (s : Selector) (waits : Nat) (p : π) (timeout : Duration) :
    Selection × Selector × π :=
  s.select waits p (some timeout.seconds) timeout.subsecMicros

end Selector

end FrameSocket
