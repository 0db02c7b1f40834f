import FrameSocket.Socket.Address
import FrameSocket.Host.Inbox
import FrameSocket.Socket.Basic

/-!
# Sockets as the operating system keeps them

The state behind a descriptor, and the calls that touch no other socket:
receiving, peeking, asking for names and for the pending error.  A socket is
known by its number in the host's table (`Host.Basic`).

`OsSocket.stock` counts what receiving can still bring: no receiving call raises
it, and one that brings bytes lowers it.
-/

namespace FrameSocket

/-- An error that happened between two calls; the next one reports it. -/
inductive Upset where
  /-- The other end went away without reading everything. -/
  | reset
  /-- A datagram found nobody. -/
  | refused
  deriving DecidableEq, Repr

/-- The error that tells of it. -/
def Upset.errno : Upset → Errno
  | .reset => .econnreset
  | .refused => .econnrefused

/-- One end of a stream. -/
structure StreamEnd where
  /-- The number of the socket at the other end. -/
  other : Nat
  /-- That socket's name. -/
  otherName : Address
  inbox : Inbox := .empty
  /-- Whether nothing more will arrive. -/
  ended : Bool := false
  /-- Whether nothing can be sent any more. -/
  mute : Bool := false
  deriving DecidableEq, Repr

/-- The state of a datagram socket. -/
structure Mailbox where
  /-- The number and name of the socket that plain sends go to. -/
  target : Option (Nat × Address) := none
  /-- Datagrams that nobody has read, the oldest first. -/
  queue : List Datagram := []
  deriving DecidableEq, Repr

/-- What a socket is used for. -/
inductive Use where
  /-- A stream socket without connection. -/
  | idle
  /-- Waits for connections; `backlog` holds the numbers of the sockets that
  wait to be accepted, the oldest first. -/
  | listening (backlog : List Nat)
  | stream (here : StreamEnd)
  | datagram (mailbox : Mailbox)
  deriving DecidableEq, Repr

/-- A socket of the operating system. -/
structure OsSocket where
  transport : Transport
  name : Address
  use : Use
  upset : Option Upset := none
  /-- Whether a descriptor or a backlog still leads to the socket. -/
  isOpen : Bool := true
  deriving DecidableEq, Repr

/-- What a socket is ready for. -/
structure Readiness where
  input : Bool := false
  output : Bool := false
  urgent : Bool := false
  /-- The other side sends nothing more. -/
  ended : Bool := false
  /-- Neither side sends any more. -/
  hungUp : Bool := false
  failed : Bool := false
  deriving DecidableEq, Repr

namespace OsSocket

/-- Takes the pending error; `otherwise` is answered if there is none. -/
def raise {α : Type} (s : OsSocket) (otherwise : Except Errno α) : Except Errno α × OsSocket :=
  match s.upset with
  | some e => (.error e.errno, { s with upset := none })
  | none => (otherwise, s)

/-- Takes the pending error as an answer. -/
def takeError (s : OsSocket) : Option Errno × OsSocket :=
  (s.upset.map Upset.errno, { s with upset := none })

/-- Why a stream socket without a stream cannot receive. -/
def noStream (s : OsSocket) : Errno := if s.transport.isUnix then .einval else .enotconn

/-- Receives at most `n` bytes.  Of a datagram, what does not fit is lost. -/
def recv (s : OsSocket) (ch : Channel) (n : Nat) : Except Errno Bytes × OsSocket :=
  match s.use, ch with
  | .stream e, .regular =>
    -- What has arrived is delivered before an error or the end is reported.
    match e.inbox.read n with
    | (some data, inbox) => (.ok data, { s with use := .stream { e with inbox } })
    | (none, inbox) =>
      { s with use := .stream { e with inbox } }.raise (if e.ended then .ok [] else .error .eagain)
  | .stream e, .urgent =>
    match e.inbox.readUrgent n with
    | (some data, inbox) => (.ok data, { s with use := .stream { e with inbox } })
    | (none, _) => (.error .einval, s)
  | .datagram m, .regular =>
    match m.queue with
    | d :: queue => (.ok (d.data.take n), { s with use := .datagram { m with queue } })
    | [] => s.raise (.error .eagain)
  | .datagram _, .urgent => (.error .eopnotsupp, s)
  | _, .regular => (.error s.noStream, s)
  | _, .urgent => (.error .einval, s)

/-- Receives at most `n` bytes, and says who sent them.  A stream over the
internet does not say. -/
def recvFrom (s : OsSocket) (n : Nat) : Except Errno (Bytes × Address) × OsSocket :=
  match s.use with
  | .datagram ⟨_, d :: _⟩ => ((s.recv .regular n).1.map (·, d.origin), (s.recv .regular n).2)
  | .stream e =>
    let known := s.transport.isUnix && (e.inbox.read n).1.isSome
    ((s.recv .regular n).1.map (·, if known then e.otherName else .unnamed),
      (s.recv .regular n).2)
  | _ => ((s.recv .regular n).1.map (·, .unnamed), (s.recv .regular n).2)

/-- How many bytes, at most one, a receiving call would find. -/
def peek (s : OsSocket) (ch : Channel) : Except Errno Nat × OsSocket :=
  match s.use, ch with
  | .stream e, .regular =>
    if e.inbox.bytes.isEmpty then s.raise (if e.ended then .ok 0 else .error .eagain)
    else (.ok 1, s)
  | .stream e, .urgent => (if e.inbox.urgent?.isSome then .ok 1 else .error .einval, s)
  | .datagram m, .regular =>
    match m.queue with
    | d :: _ => (.ok (min d.data.length 1), s)
    | [] => s.raise (.error .eagain)
  | .datagram _, .urgent => (.error .eopnotsupp, s)
  | _, .regular => (.error s.noStream, s)
  | _, .urgent => (.error .einval, s)

/-- Who sent what a receiving call would find. -/
def peekFrom (s : OsSocket) : Except Errno Address × OsSocket :=
  match s.use with
  | .datagram ⟨_, d :: _⟩ => (.ok d.origin, s)
  | .stream e =>
    let origin (n : Nat) := if s.transport.isUnix && n ≠ 0 then e.otherName else .unnamed
    ((s.peek .regular).1.map origin, (s.peek .regular).2)
  | _ => ((s.peek .regular).1.map fun _ => .unnamed, (s.peek .regular).2)

/-- The name of the socket at the other end. -/
def peerName (s : OsSocket) : Except Errno Address :=
  match s.use with
  | .stream e => .ok e.otherName
  | .datagram ⟨some target, _⟩ => .ok target.2
  | _ => .error .enotconn

/-- What the socket is ready for, whatever is going on at other sockets. -/
def readiness (s : OsSocket) : Readiness :=
  let failed := s.upset.isSome
  match s.use with
  | .idle => { output := true, hungUp := true, failed }
  | .listening backlog => { input := !backlog.isEmpty, failed }
  | .stream e =>
    let urgent := e.inbox.urgent?.isSome
    { input := !e.inbox.bytes.isEmpty || e.ended || (urgent && s.transport.isUnix),
      output := true, urgent, ended := e.ended, hungUp := e.ended && e.mute, failed }
  | .datagram m => { input := !m.queue.isEmpty, output := true, failed }

/-- How often receiving can still bring bytes. -/
def stock (s : OsSocket) : Nat :=
  match s.use with
  | .stream e => e.inbox.size
  | .datagram m => m.queue.foldr (fun d rest => d.data.length + 1 + rest) 0
  | _ => 0

/-- `raise` changes nothing but the pending error. -/
@[simp] theorem use_raise {α : Type} (s : OsSocket) (otherwise : Except Errno α) :
    (s.raise otherwise).2.use = s.use := by
  unfold raise; split <;> rfl

/-- `raise` leaves the stock as it is. -/
@[simp] theorem stock_raise {α : Type} (s : OsSocket) (otherwise : Except Errno α) :
    (s.raise otherwise).2.stock = s.stock := by
  simp [stock]

/-- A pending error is never an interruption. -/
theorem raise_ne_eintr {α : Type} {s : OsSocket} {otherwise : Except Errno α}
    (h : otherwise ≠ .error .eintr) : (s.raise otherwise).1 ≠ .error .eintr := by
  unfold raise
  split
  · rename_i e _
    cases e <;> simp [Upset.errno]
  · exact h

/-- `raise` answers something good only if there was no pending error. -/
theorem eq_of_raise_eq_ok {α : Type} {s : OsSocket} {otherwise : Except Errno α} {a : α}
    (h : (s.raise otherwise).1 = .ok a) : otherwise = .ok a := by
  unfold raise at h
  split at h
  · exact nomatch h
  · exact h

/-- `recv` adds nothing to the stock. -/
theorem stock_recv_le (s : OsSocket) (ch : Channel) (n : Nat) :
    (s.recv ch n).2.stock ≤ s.stock := by
  obtain ⟨transport, name, use, upset, isOpen⟩ := s
  -- Streams follow from their inboxes, and a datagram leaves its queue.
  cases use with
  | stream e =>
    cases ch with
    | regular =>
      have := e.inbox.size_read_le n
      simp only [recv]
      split <;> rename_i hr <;> simp_all [stock]
    | urgent =>
      have := e.inbox.size_readUrgent_le n
      simp only [recv]
      split <;> rename_i hr <;> simp_all [stock]
  | datagram m =>
    cases ch with
    | regular =>
      simp only [recv]
      split <;> rename_i hq <;> simp [stock, hq]
    | urgent => exact Nat.le_refl _
  | idle => cases ch <;> exact Nat.le_refl _
  | listening => cases ch <;> exact Nat.le_refl _

/-- `recv` takes what it brings from the stock. -/
theorem stock_recv_data {s : OsSocket} {ch : Channel} {n : Nat} {data : Bytes}
    (h : (s.recv ch n).1 = .ok data) (hn : data ≠ []) : (s.recv ch n).2.stock < s.stock := by
  obtain ⟨transport, name, use, upset, isOpen⟩ := s
  cases use with
  | stream e =>
    cases ch with
    | regular =>
      have := @Inbox.size_read_data e.inbox n data
      simp only [recv] at h ⊢
      split at h <;> rename_i hr <;> simp_all [stock]
      -- An empty inbox brings the end of the stream at most, which has no bytes
      have := eq_of_raise_eq_ok h
      split at this <;> simp_all
    | urgent =>
      have := @Inbox.size_readUrgent_data e.inbox n data
      simp only [recv] at h ⊢
      split at h <;> rename_i hr <;> simp_all [stock]
  | datagram m =>
    cases ch with
    | regular =>
      simp only [recv] at h ⊢
      split at h <;> rename_i hq
      · simp [stock, hq]
      · exact nomatch eq_of_raise_eq_ok h
    | urgent => exact nomatch h
  | idle => cases ch <;> exact nomatch h
  | listening => cases ch <;> exact nomatch h

/-- `recv` keeps to the size that it is given. -/
theorem length_recv {s : OsSocket} {ch : Channel} {n : Nat} {data : Bytes}
    (h : (s.recv ch n).1 = .ok data) : data.length ≤ n := by
  obtain ⟨transport, name, use, upset, isOpen⟩ := s
  cases use with
  | stream e =>
    cases ch with
    | regular =>
      have := @Inbox.length_read e.inbox n data
      simp only [recv] at h
      split at h <;> rename_i hr <;> simp_all
      -- Behind an empty inbox there are no bytes
      have := eq_of_raise_eq_ok h
      split at this <;> simp_all
    | urgent =>
      have := @Inbox.length_readUrgent e.inbox n data
      simp only [recv] at h
      split at h <;> rename_i hr <;> simp_all
  | datagram m =>
    cases ch with
    | regular =>
      simp only [recv] at h
      split at h
      · simp only [Except.ok.injEq] at h
        simp only [← h, List.length_take]
        omega
      · exact nomatch eq_of_raise_eq_ok h
    | urgent => exact nomatch h
  | idle => cases ch <;> exact nomatch h
  | listening => cases ch <;> exact nomatch h

/-- `recv` is never interrupted by the socket itself; only a fault of the host does
that. -/
theorem recv_ne_eintr (s : OsSocket) (ch : Channel) (n : Nat) :
    (s.recv ch n).1 ≠ .error .eintr := by
  unfold recv
  split
  · split
    · simp
    · -- An error that is pending is no interruption either
      apply raise_ne_eintr
      split <;> simp
  · split <;> simp
  · split
    · simp
    · exact raise_ne_eintr (by simp)
  · simp
  · simp only [noStream]
    split <;> simp
  · simp

/-- Nor is `recvFrom`. -/
theorem recvFrom_ne_eintr (s : OsSocket) (n : Nat) :
    (s.recvFrom n).1 ≠ .error .eintr := by
  have h := recv_ne_eintr s .regular n
  unfold recvFrom
  split <;> revert h <;> cases (s.recv .regular n).1 <;> simp [Except.map]

/-- `recvFrom` keeps to the size that it is given. -/
theorem length_recvFrom {s : OsSocket} {n : Nat} {got : Bytes × Address}
    (h : (s.recvFrom n).1 = .ok got) : got.1.length ≤ n := by
  unfold recvFrom at h
  split at h <;> revert h <;> cases hr : (s.recv .regular n).1 <;> simp only [Except.map] <;>
    intro h <;> simp only [Except.ok.injEq, reduceCtorEq] at h <;> subst h <;> exact length_recv hr

/-- `peek` leaves the stock as it is. -/
@[simp] theorem stock_peek (s : OsSocket) (ch : Channel) : (s.peek ch).2.stock = s.stock := by
  unfold peek
  split
  · split
    · exact stock_raise _ _
    · rfl
  · rfl
  · split
    · rfl
    · exact stock_raise _ _
  all_goals rfl

/-- `peek` is never interrupted by the socket itself. -/
theorem peek_ne_eintr (s : OsSocket) (ch : Channel) : (s.peek ch).1 ≠ .error .eintr := by
  unfold peek
  split
  · split
    · -- An error that is pending is no interruption either
      apply raise_ne_eintr
      split <;> simp
    · simp
  · split <;> simp
  · split
    · simp
    · exact raise_ne_eintr (by simp)
  · simp
  · simp only [noStream]
    split <;> simp
  · simp

/-- Nor is `peekFrom`. -/
theorem peekFrom_ne_eintr (s : OsSocket) : s.peekFrom.1 ≠ .error .eintr := by
  have h := s.peek_ne_eintr .regular
  unfold peekFrom
  split
  · simp
  all_goals
    revert h
    cases (s.peek .regular).1 <;> simp [Except.map]

end OsSocket

end FrameSocket
