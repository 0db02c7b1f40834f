import FrameSocket.Host.Connect

/-!
# Waiting for sockets to become ready

The one poller of a host.  A watch is reported once after it has been
registered, if its socket is ready by then, and again after something has
happened to the socket.

A wait goes by the host's script.  One that reports nothing takes all the time
that it was given, in whole milliseconds; one that reports something or fails
takes none.
-/

namespace FrameSocket.Host

/-- The part of a socket's readiness that a watch asked for.  That the other side
has gone, or that an error is pending, is always told. -/
def restrict (r : Readiness) (i : Interest) : Readiness :=
  { r with
    input := r.input && i.read, output := r.output && i.write, urgent := r.urgent && i.urgent,
    ended := r.ended && i.read }

/-- What an event says about a socket that is ready in the given way; none if it
is ready for nothing. -/
def event? (id : SocketId) (r : Readiness) : Option Event :=
  if r = {} then none
  else some
    { id
      readable := r.input || r.urgent
      readClosed := r.hungUp || (r.input && r.ended)
      writable := r.output
      writeClosed := r.hungUp || (r.output && r.failed) || r = { failed := true }
      failed := r.failed }

/-- What the socket with a number is ready for.  A Unix datagram socket cannot
send while its target's queue is full. -/
def readiness (h : Host) (i : Nat) : Readiness :=
  match h.socket? i with
  | none => {}
  | some s =>
    match s.use with
    | .datagram ⟨some (j, _), _⟩ =>
      match (h.socket? j).map OsSocket.use with
      | some (.datagram m) =>
        -- The limit that `post` enforces.
        let full := s.transport.isUnix && m.target.map Prod.fst ≠ some i
          && mailboxLimit ≤ m.queue.length
        { s.readiness with output := !full }
      | _ => s.readiness
    | _ => s.readiness

/-- Lets the poller watch a descriptor. -/
def register (h : Host) (d : Nat) (id : SocketId) (interest : Interest) : Reply Unit :=
  h.unlessFault .register fun h =>
    match h.number? d with
    | none => (.error .ebadf, h)
    | some i =>
      if h.watches.any fun w => w.descriptor = d && w.socket = i then (.error .eexist, h)
      else
        let armed := restrict (h.readiness i) interest ≠ {}
        (.ok (), { h with watches := h.watches ++ [⟨d, i, id, interest, armed⟩] })

/-- Lets the poller forget a descriptor. -/
def deregister (h : Host) (d : Nat) : Reply Unit :=
  h.unlessFault .deregister fun h =>
    match h.number? d with
    | none => (.error .ebadf, h)
    | some i =>
      if h.watches.any fun w => w.descriptor = d && w.socket = i then
        (.ok (), { h with
          watches := h.watches.filter fun w => !(w.descriptor = d && w.socket = i) })
      else (.error .enoent, h)

/-- What the armed watches report; none is armed afterwards. -/
def collect (h : Host) : List Event × Host :=
  let report (w : Watch) :=
    if w.armed then event? w.id (restrict (h.readiness w.socket) w.interest) else none
  (h.watches.filterMap report,
    { h with watches := h.watches.map ({ · with armed := false }) })

/-- Lets time pass. -/
def advance (h : Host) (t : Duration) : Host := { h with now := h.now + t }

/-- A wait of so many milliseconds that looks at its watches. -/
def settle (h : Host) (ms : Nat) : List Event × Host :=
  let (events, h) := h.collect
  (events, if events.isEmpty then h.advance (.ofMillis ms) else h)

/-- A socket from which everything has been received. -/
def plundered (s : OsSocket) : OsSocket :=
  match s.use with
  | .stream e => { s with use := .stream { e with inbox := .empty } }
  | .datagram m => { s with use := .datagram { m with queue := [] } }
  | _ => s

/-- Waits for watched sockets to become ready, at most for the given time. -/
def wait (h : Host) (timeout : Duration) : Reply (List Event) :=
  let ms := timeout.millisCeil
  -- Every wait is written down and uses up a step of the script.
  let step := h.script.headD .plain
  let h := { h with waits := ms :: h.waits, script := h.script.tail }
  let done (r : List Event × Host) : Reply (List Event) := (.ok r.1, r.2)
  match step with
  | .plain => done (h.settle ms)
  | .silent => (.ok [], h.advance (.ofMillis ms))
  | .fails e => (.error e, h)
  | .afterSend d none ch data => done ((h.sendNow d ch data).2.settle ms)
  | .afterSend d (some target) _ data => done ((h.sendToNow d target data).2.settle ms)
  | .afterShutdown d => done ((h.shutdownNow d).2.settle ms)
  | .beforeTheft d =>
    -- The events stand, although what they tell of is gone.
    let (events, h) := h.settle ms
    done (events, (h.on d fun s => (.ok (), plundered s)).2)

/-- Sleeps. -/
def sleep (h : Host) (t : Duration) : Host := { h.advance t with sleeps := t :: h.sleeps }

end FrameSocket.Host
