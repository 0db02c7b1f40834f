import FrameSocket.Host.Receive

/-!
# Sending, shutting down and closing

The calls of a host by which one socket reaches another.

What is sent on a stream is at once in the other end's inbox.  Shutting a stream
down ends both directions of it for both ends, and what they have received stays
there to be read.  So it does when one end is closed, unless that end has left
something unread: then the other end is told of a reset.

Datagrams keep their boundaries and carry the sender's name.  A Unix datagram
socket that is connected takes datagrams from its own target only.
-/

namespace FrameSocket

/-- A socket that has received data on a channel.  The last byte of urgent data
is the urgent one. -/
def OsSocket.receive (s : OsSocket) (ch : Channel) (data : Bytes) : OsSocket :=
  match s.use, ch with
  | .stream e, .regular => { s with use := .stream { e with inbox := e.inbox.push data } }
  | .stream e, .urgent =>
    match data.getLast? with
    | some x =>
      let inbox := (e.inbox.push data.dropLast).pushUrgent (!s.transport.isUnix) x
      { s with use := .stream { e with inbox } }
    | none => s
  | _, _ => s

/-- A socket that has received a datagram. -/
def OsSocket.enqueue (s : OsSocket) (d : Datagram) : OsSocket :=
  match s.use with
  | .datagram m => { s with use := .datagram { m with queue := m.queue ++ [d] } }
  | _ => s

/-- A socket whose stream is over in both directions. -/
def OsSocket.hungUp (s : OsSocket) (upset : Option Upset) : OsSocket :=
  match s.use with
  | .stream e =>
    { s with use := .stream { e with ended := true, mute := true }, upset := upset.or s.upset }
  | _ => s

namespace Host

/-! ## Watches -/

/-- What happens to a socket that watches look at. -/
inductive Wake where
  /-- Something arrives. -/
  | arrival
  /-- The connection changes. -/
  | change
  deriving DecidableEq, Repr

/-- Arms the watches of a socket that ask for what happens to it. -/
def wake (h : Host) (i : Nat) (w : Wake) : Host :=
  { h with
    watches := h.watches.map fun x =>
      if x.socket = i ∧ (w = .change ∨ x.interest.read = true ∨ x.interest.urgent = true) then
        { x with armed := true }
      else x }

/-! ## Streams -/

/-- Why a stream socket without a stream cannot send. -/
def noStream (t : Transport) : Errno := if t.isUnix then .enotconn else .epipe

/-- Sends on a stream.  Everything offered is taken. -/
def sendStream (h : Host) (s : OsSocket) (ch : Channel) (data : Bytes) : Reply Nat :=
  if s.transport.isUnix = true ∧ ch = .urgent ∧ data = [] then (.error .eopnotsupp, h)
  else match s.use with
    | .stream e =>
      if e.mute then (.error .epipe, h)
      else if data.isEmpty then (.ok 0, h)
      else (.ok data.length, (h.modify e.other (·.receive ch data)).wake e.other .arrival)
    | _ => (.error (noStream s.transport), h)

/-- Ends a stream at one of its ends. -/
def hangUp (h : Host) (i : Nat) (upset : Option Upset) : Host :=
  (h.modify i (·.hungUp upset)).wake i .change

/-! ## Datagrams -/

/-- The largest datagram of a transport. -/
def datagramLimit (t : Transport) : Nat := if t.isUnix then 212960 else 65507

/-- How many datagrams a Unix socket keeps for strangers. -/
def mailboxLimit : Nat := 11

/-- The open socket of a transport that an address leads to. -/
def find (h : Host) (t : Transport) (a : Address) : Except Errno Nat :=
  match a with
  | .unnamed => .error .einval
  | .path name =>
    match h.paths.lookup name with
    | none => .error .enoent
    | some i =>
      match h.socket? i with
      | none => .error .econnrefused
      | some s =>
        if !s.isOpen then .error .econnrefused
        else if s.transport = t then .ok i
        else .error .eprototype
  | .inet _ port =>
    if !h.loopbackUp then .error .enetunreach
    else
      -- A port is one listener's or one mailbox's, whatever the address is
      let isThere (s : OsSocket) : Bool :=
        s.isOpen && s.transport = t && (match s.name, s.use with
          | .inet _ p, .listening _ | .inet _ p, .datagram _ => p = port
          | _, _ => false)
      match h.sockets.findIdx? isThere with
      | some i => .ok i
      | none => .error .econnrefused

/-- Sends a datagram from socket `i` to the open socket `j`. -/
def post (h : Host) (i : Nat) (s : OsSocket) (j : Nat) (data : Bytes) : Reply Nat :=
  match h.socket? j with
  | none => (.error .econnrefused, h)
  | some t =>
    match t.use with
    | .datagram m =>
      let target := m.target.map Prod.fst
      -- A connected Unix socket hears its own target only.
      if s.transport.isUnix = true ∧ target ≠ none ∧ target ≠ some i then (.error .eperm, h)
      -- The limit is for strangers: neither the target nor the socket itself has one.
      else if s.transport.isUnix = true ∧ j ≠ i ∧ target ≠ some i
          ∧ mailboxLimit ≤ m.queue.length then (.error .eagain, h)
      else (.ok data.length, (h.modify j (·.enqueue ⟨data, s.name⟩)).wake j .arrival)
    | _ => (.error .eprototype, h)

/-- Whether the socket with a number is open. -/
def isOpen (h : Host) (i : Nat) : Bool := (h.socket? i).any (·.isOpen)

/-- Sends a datagram to the socket's target.  A Unix socket whose target is
closed loses it, and with it all that it has received. -/
def sendDatagram (h : Host) (i : Nat) (s : OsSocket) (m : Mailbox) (data : Bytes) : Reply Nat :=
  match m.target with
  | none => (.error (if s.transport.isUnix then .enotconn else .edestaddrreq), h)
  | some (j, _) =>
    if datagramLimit s.transport < data.length then (.error .emsgsize, h)
    else if h.isOpen j then h.post i s j data
    -- Over the internet, the failure is told with the next call.
    else if s.transport.isUnix then
      (.error .econnrefused, h.setSocket i { s with use := .datagram {} })
    else (.ok data.length, h.setSocket i { s with upset := some .refused })

/-! ## Calls -/

/-- Sends as the socket is connected, whatever faults are planted. -/
def sendNow (h : Host) (d : Nat) (ch : Channel) (data : Bytes) : Reply Nat :=
  h.through d fun i s =>
    match s.use, ch with
    | .datagram _, .urgent => (.error .eopnotsupp, h)
    | .datagram m, .regular => h.sendDatagram i s m data
    | _, _ => h.sendStream s ch data

/-- Sends a datagram to an address, whatever faults are planted. -/
def sendToNow (h : Host) (d : Nat) (target : Address) (data : Bytes) : Reply Nat :=
  h.through d fun i s =>
    if datagramLimit s.transport < data.length then (.error .emsgsize, h)
    else match h.find s.transport target with
      | .ok j => h.post i s j data
      -- A datagram to a port where nobody is goes nowhere, without a word.
      | .error .econnrefused =>
        if s.transport.isUnix then (.error .econnrefused, h) else (.ok data.length, h)
      | .error e => (.error e, h)

/-- Sends a beginning of the data. -/
def send (h : Host) (d : Nat) (ch : Channel) (data : Bytes) : Reply Nat :=
  h.unlessFault .send fun h => h.sendNow d ch data

/-- Sends a datagram to an address. -/
def sendTo (h : Host) (d : Nat) (target : Address) (data : Bytes) : Reply Nat :=
  h.unlessFault .sendTo fun h => h.sendToNow d target data

/-- Ends both directions of a stream, whatever faults are planted. -/
def shutdownNow (h : Host) (d : Nat) : Reply Unit :=
  h.through d fun i s =>
    match s.use with
    | .stream e => (.ok (), (h.hangUp i none).hangUp e.other none)
    | .idle => (if s.transport.isUnix then .ok () else .error .enotconn, h)
    | _ => (.ok (), h)

/-- Ends both directions of a stream. -/
def shutdown (h : Host) (d : Nat) : Reply Unit :=
  h.unlessFault .shutdown fun h => h.shutdownNow d

/-- Closes a socket that no descriptor leads to any more. -/
def release (h : Host) (i : Nat) : Host :=
  match h.socket? i with
  | none => h
  | some s =>
    -- Closing forgets the watches on the socket, whoever registered them.
    let h := { h.modify i ({ · with isOpen := false }) with
      watches := h.watches.filter (·.socket ≠ i) }
    match s.use with
    -- What was left unread is lost, and the other end is told so.
    | .stream e => h.hangUp e.other (if e.inbox.isEmpty then none else some .reset)
    -- Nobody will accept those that wait.
    | .listening backlog =>
      backlog.foldl (fun h j =>
        match h.socket? j with
        | some ⟨_, _, .stream e, _, _⟩ =>
          (h.modify j ({ · with isOpen := false })).hangUp e.other (some .reset)
        | _ => h) h
    | _ => h

/-- Closes a descriptor, and the socket with the last one that leads to it. -/
def close (h : Host) (d : Nat) : Host :=
  match h.number? d with
  | none => h
  | some i =>
    let h := { h with descriptors := h.descriptors.set d none }
    if h.descriptors.contains (some i) then h else h.release i

/-- A second descriptor for the same socket. -/
def duplicate (h : Host) (d : Nat) : Reply Nat :=
  match h.number? d with
  | none => (.error .ebadf, h)
  | some i => (.ok (h.link i).1, (h.link i).2)

/-! ## Bounds -/

/-- Neither interrupted, nor more sent than was offered. -/
def Sound (data : Bytes) (answer : Except Errno Nat) : Prop :=
  answer ≠ .error .eintr ∧ ∀ n, answer = .ok n → n ≤ data.length

/-- An error other than `eintr` is `Sound`. -/
theorem sound_error {data : Bytes} {e : Errno} (h : e ≠ .eintr) : Sound data (.error e) :=
  ⟨fun he => h (Except.error.inj he), fun _ hn => (nomatch hn)⟩

/-- So is the length of a beginning of the data. -/
theorem sound_ok {data : Bytes} {n : Nat} (h : n ≤ data.length) : Sound data (.ok n) :=
  ⟨fun he => (nomatch he), fun _ hn => by cases hn; exact h⟩

/-- `post` answers soundly. -/
theorem sound_post (h : Host) (i : Nat) (s : OsSocket) (j : Nat) (data : Bytes) :
    Sound data (h.post i s j data).1 := by
  unfold post
  split
  · exact sound_error (by decide)
  · split
    · dsimp only
      split
      · exact sound_error (by decide)
      · split
        · exact sound_error (by decide)
        · -- A datagram goes out whole
          exact sound_ok (Nat.le_refl _)
    · exact sound_error (by decide)

/-- `sendStream` answers soundly. -/
theorem sound_sendStream (h : Host) (s : OsSocket) (ch : Channel) (data : Bytes) :
    Sound data (h.sendStream s ch data).1 := by
  unfold sendStream
  split
  · exact sound_error (by decide)
  · split
    · split
      · exact sound_error (by decide)
      · split
        · -- Of no data, nothing is sent
          exact sound_ok (Nat.zero_le _)
        · exact sound_ok (Nat.le_refl _)
    · unfold noStream
      split <;> exact sound_error (by decide)

/-- `sendDatagram` answers soundly. -/
theorem sound_sendDatagram (h : Host) (i : Nat) (s : OsSocket) (m : Mailbox) (data : Bytes) :
    Sound data (h.sendDatagram i s m data).1 := by
  unfold sendDatagram
  split
  · dsimp only
    split <;> exact sound_error (by decide)
  · split
    · exact sound_error (by decide)
    · split
      · exact sound_post h i s _ data
      · split
        · exact sound_error (by decide)
        · exact sound_ok (Nat.le_refl _)

/-- `sendNow` answers soundly. -/
theorem sound_sendNow (h : Host) (d : Nat) (ch : Channel) (data : Bytes) :
    Sound data (h.sendNow d ch data).1 := by
  unfold sendNow
  rcases h.through_cases d _ with he | ⟨i, s, he⟩ <;> rw [he]
  · exact sound_error (by decide)
  · split
    · exact sound_error (by decide)
    · exact sound_sendDatagram h i s _ data
    · exact sound_sendStream h s _ data

/-- `find` is never interrupted. -/
theorem find_ne_eintr (h : Host) (t : Transport) (a : Address) :
    h.find t a ≠ .error .eintr := by
  -- No address leads to an interruption
  unfold find
  split
  · simp
  · split
    · simp
    · split
      · simp
      · split
        · simp
        · split <;> simp
  · split
    · simp
    · dsimp only
      split <;> simp

/-- `sendToNow` answers soundly. -/
theorem sound_sendToNow (h : Host) (d : Nat) (target : Address) (data : Bytes) :
    Sound data (h.sendToNow d target data).1 := by
  unfold sendToNow
  rcases h.through_cases d _ with he | ⟨i, s, he⟩ <;> rw [he]
  · exact sound_error (by decide)
  · -- finding the target is the only step whose error is not written down here
    have hf := h.find_ne_eintr s.transport target
    split
    · exact sound_error (by decide)
    · split
      · exact sound_post h i s _ data
      · split
        · exact sound_error (by decide)
        · exact sound_ok (Nat.le_refl _)
      · rename_i e _ hr
        exact sound_error fun hi => hf (hi ▸ hr)

/-- A call that is sound without faults sends no more than was offered, and
uses a fault up when it is interrupted. -/
theorem sound_unlessFault {h : Host} {call : Call} {data : Bytes} {run : Host → Reply Nat}
    (hr : ∀ h, Sound data (run h).1) :
    (∀ n, (h.unlessFault call run).1 = .ok n → n ≤ data.length) ∧
      ((h.unlessFault call run).1 = .error .eintr →
        (h.unlessFault call run).2.faults.length < h.faults.length) := by
  have hl := h.faults_takeFault call
  rcases h.unlessFault_cases call run with ⟨e, hs, he⟩ | he <;> rw [he]
  · refine ⟨fun _ hn => (nomatch hn), fun _ => ?_⟩
    -- An interruption is a planned fault, which is used up
    rw [hs] at hl
    simp only [Option.toList_some, List.length_singleton] at hl
    dsimp only
    omega
  · exact ⟨(hr _).2, fun hi => absurd hi (hr _).1⟩

/-- `send` takes no more than it was given. -/
theorem send_le (h : Host) (d : Nat) (ch : Channel) (data : Bytes) (n : Nat)
    (he : (h.send d ch data).1 = .ok n) : n ≤ data.length :=
  (sound_unlessFault fun h => sound_sendNow h d ch data).1 n he

/-- An interrupted `send` has used up a fault. -/
theorem faults_send_interrupted {h : Host} {d : Nat} {ch : Channel} {data : Bytes}
    (he : (h.send d ch data).1 = .error .eintr) :
    (h.send d ch data).2.faults.length < h.faults.length :=
  (sound_unlessFault fun h => sound_sendNow h d ch data).2 he

/-- `sendTo` takes no more than it was given. -/
theorem sendTo_le (h : Host) (d : Nat) (target : Address) (data : Bytes) (n : Nat)
    (he : (h.sendTo d target data).1 = .ok n) : n ≤ data.length :=
  (sound_unlessFault fun h => sound_sendToNow h d target data).1 n he

/-- An interrupted `sendTo` has used up a fault. -/
theorem faults_sendTo_interrupted {h : Host} {d : Nat} {target : Address} {data : Bytes}
    (he : (h.sendTo d target data).1 = .error .eintr) :
    (h.sendTo d target data).2.faults.length < h.faults.length :=
  (sound_unlessFault fun h => sound_sendToNow h d target data).2 he

end Host

end FrameSocket
