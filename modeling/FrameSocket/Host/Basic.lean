import FrameSocket.Duration
import FrameSocket.Host.OsSocket

/-!
# A host

The part of an operating system that sockets need: the table of sockets, the
descriptors that lead to them, the paths that Unix sockets are bound to, a
clock, and the watches of one poller.

A host can be made to misbehave.  *Faults* are planted for a call and used up in
their order; a *script* says what happens during the waits of the poller.  A
host with neither answers as an idle system would.

`Host.through` makes a call through a descriptor, and `Host.on` one that concerns
a single socket.  What receiving through
a descriptor can bring is `Host.stockOf`, and faults are used up one by one, so
the sum of both bounds how long a caller can be kept busy.
-/

namespace FrameSocket

/-- The calls that faults can be planted for. -/
inductive Call where
  | connect
  | accept
  | peerName
  | localName
  | shutdown
  | recv
  /-- Receiving without taking, on either channel. -/
  | peek
  | recvFrom
  | peekFrom
  | send
  | sendTo
  /-- Registering a descriptor with the poller. -/
  | register
  | deregister
  /-- Asking for the pending error. -/
  | askError
  /-- The pending error itself. -/
  | pendingError
  deriving DecidableEq, Repr

/-- What happens to a call. -/
inductive Fault where
  | fails (errno : Errno)
  /-- It works, and the sender of what it receives is unknown. -/
  | unknownSender
  /-- It works. -/
  | passes
  deriving DecidableEq, Repr

/-- Takes the first fault that is planted for a call. -/
def takeFault (call : Call) : List (Call × Fault) → Option Fault × List (Call × Fault)
  | [] => (none, [])
  | p :: ps =>
    if p.1 = call then (some p.2, ps)
    else ((takeFault call ps).1, p :: (takeFault call ps).2)

/-- `takeFault` takes away the fault that it answers, and no other. -/
theorem length_takeFault (call : Call) (ps : List (Call × Fault)) :
    (takeFault call ps).2.length + (takeFault call ps).1.toList.length = ps.length := by
  induction ps with
  | nil => rfl
  | cons p ps ih =>
    unfold takeFault
    split
    · rfl
    · simp only [List.length_cons]
      omega

/-- What a watch asks for. -/
structure Interest where
  read : Bool := false
  write : Bool := false
  urgent : Bool := false
  deriving DecidableEq, Repr

/-- What a wait of a poller reports about one watch. -/
structure Event where
  /-- The socket that the watch was registered for. -/
  id : SocketId
  readable : Bool := false
  readClosed : Bool := false
  writable : Bool := false
  writeClosed : Bool := false
  failed : Bool := false
  deriving DecidableEq, Repr

/-- A descriptor that the poller watches. -/
structure Watch where
  descriptor : Nat
  /-- The number of the socket that the descriptor led to. -/
  socket : Nat
  id : SocketId
  interest : Interest
  /-- Whether the next wait looks at the watch.  A wait reports a watch once, and
  again after something has happened to its socket. -/
  armed : Bool
  deriving DecidableEq, Repr

/-- What happens during a wait of the poller. -/
inductive WaitScript where
  /-- Nothing special. -/
  | plain
  /-- The wait reports nothing. -/
  | silent
  | fails (errno : Errno)
  /-- Data are sent through a descriptor, by name if there is a name, before the
  wait looks at its watches. -/
  | afterSend (descriptor : Nat) (target : Option Address) (ch : Channel) (data : Bytes)
  /-- A socket is shut down before the wait looks at its watches. -/
  | afterShutdown (descriptor : Nat)
  /-- Everything that could be received from a socket is gone before the caller
  sees what the wait reports. -/
  | beforeTheft (descriptor : Nat)
  deriving DecidableEq, Repr

/-- A host. -/
structure Host where
  now : Duration := .zero
  /-- Whether connections over the internet's loopback address work. -/
  loopbackUp : Bool := true
  sockets : List OsSocket := []
  /-- The socket that each descriptor leads to. -/
  descriptors : List (Option Nat) := []
  /-- The socket that each path is bound to; paths outlive their sockets. -/
  paths : List (String × Nat) := []
  nextPort : Nat := 49152
  /-- The handle of the next socket. -/
  nextId : Nat := 1
  faults : List (Call × Fault) := []
  watches : List Watch := []
  /-- What happens during the next waits; later ones are plain. -/
  script : List WaitScript := []
  /-- The milliseconds of every wait so far, the latest first. -/
  waits : List Nat := []
  /-- Every sleep so far, the latest first. -/
  sleeps : List Duration := []
  deriving Repr

/-- What a call answers, and the host afterwards. -/
abbrev Host.Reply (α : Type) := Except Errno α × Host

namespace Host

/-! ## Faults -/

/-- Takes the first fault that is planted for a call. -/
def takeFault (h : Host) (call : Call) : Option Fault × Host :=
  ((FrameSocket.takeFault call h.faults).1,
    { h with faults := (FrameSocket.takeFault call h.faults).2 })

/-- Makes a call, unless a fault makes it fail. -/
def unlessFault {α : Type} (h : Host) (call : Call) (run : Host → Reply α) : Reply α :=
  match (h.takeFault call).1 with
  | some (.fails e) => (.error e, (h.takeFault call).2)
  | _ => run (h.takeFault call).2

/-- Plants a fault for a call, behind those that are there. -/
def plant (h : Host) (call : Call) (fault : Fault) : Host :=
  { h with faults := h.faults ++ [(call, fault)] }

/-! ## Sockets and descriptors -/

/-- The number of the socket that a descriptor leads to. -/
def number? (h : Host) (descriptor : Nat) : Option Nat := (h.descriptors[descriptor]?).join

/-- The socket with a number. -/
def socket? (h : Host) (i : Nat) : Option OsSocket := h.sockets[i]?

/-- The socket that a descriptor leads to. -/
def lookup? (h : Host) (descriptor : Nat) : Option OsSocket :=
  (h.number? descriptor).bind h.socket?

/-- Puts a socket into the place of the one with the number. -/
def setSocket (h : Host) (i : Nat) (s : OsSocket) : Host :=
  { h with sockets := h.sockets.set i s }

/-- Changes the socket with a number. -/
def modify (h : Host) (i : Nat) (f : OsSocket → OsSocket) : Host :=
  { h with sockets := h.sockets.modify i f }

/-- Makes a call through a descriptor, which has to lead to a socket. -/
def through {α : Type} (h : Host) (descriptor : Nat) (run : Nat → OsSocket → Reply α) :
    Reply α :=
  match h.number? descriptor with
  | none => (.error .ebadf, h)
  | some i =>
    match h.socket? i with
    | none => (.error .ebadf, h)
    | some s => run i s

/-- Makes a call that concerns one socket alone. -/
def on {α : Type} (h : Host) (descriptor : Nat) (f : OsSocket → Except Errno α × OsSocket) :
    Reply α :=
  h.through descriptor fun i s => ((f s).1, h.setSocket i (f s).2)

/-- The first free place among descriptors. -/
def firstFree : List (Option Nat) → Nat
  | [] => 0
  | none :: _ => 0
  | some _ :: rest => firstFree rest + 1

/-- A new descriptor for a socket, the lowest that is free. -/
def link (h : Host) (i : Nat) : Nat × Host :=
  let d := firstFree h.descriptors
  let descriptors :=
    if d < h.descriptors.length then h.descriptors.set d (some i) else h.descriptors ++ [some i]
  (d, { h with descriptors })

/-- Adds a socket to the table, and answers its number. -/
def add (h : Host) (s : OsSocket) : Nat × Host :=
  (h.sockets.length, { h with sockets := h.sockets ++ [s] })

/-- A new socket without name, with a descriptor. -/
def create (h : Host) (transport : Transport) : Nat × Host :=
  let name : Address := if transport.isUnix then .unnamed else .inet .unspecified 0
  let use : Use := if transport.isStream then .idle else .datagram {}
  let (i, h) := h.add { transport, name, use }
  h.link i

/-! ## What receiving can bring -/

/-- How often receiving through a descriptor can still bring bytes. -/
def stockOf (h : Host) (descriptor : Nat) : Nat :=
  match h.lookup? descriptor with
  | some s => s.stock
  | none => 0

/-- The stock behind a descriptor is the one of the socket it leads to. -/
theorem stockOf_eq_of_lookup? {h : Host} {d : Nat} {s : OsSocket} (hs : h.lookup? d = some s) :
    h.stockOf d = s.stock := by
  simp [stockOf, hs]

/-- `lookup?` finds the socket that `setSocket` has put in place. -/
theorem lookup?_setSocket {h : Host} {d i : Nat} {s t : OsSocket} (hd : h.number? d = some i)
    (hs : h.socket? i = some t) : (h.setSocket i s).lookup? d = some s := by
  have hd' : (h.setSocket i s).number? d = some i := hd
  have hi : i < h.sockets.length := by
    rcases Nat.lt_or_ge i h.sockets.length with hlt | hge
    · exact hlt
    · rw [socket?, List.getElem?_eq_none hge] at hs
      exact nomatch hs
  rw [lookup?, hd']
  simp [socket?, setSocket, hi]

/-- A call `through` a descriptor fails with `ebadf`, or is the one on the socket
that it leads to. -/
theorem through_cases {α : Type} (h : Host) (d : Nat) (run : Nat → OsSocket → Reply α) :
    h.through d run = (.error .ebadf, h) ∨ ∃ i s, h.through d run = run i s := by
  unfold through
  split
  · exact .inl rfl
  · split
    · exact .inl rfl
    · exact .inr ⟨_, _, rfl⟩

/-- A call on one socket, seen through its descriptor. -/
theorem on_cases {α : Type} (h : Host) (d : Nat) (f : OsSocket → Except Errno α × OsSocket) :
    (h.lookup? d = none ∧ h.on d f = (.error .ebadf, h)) ∨
      ∃ s, h.lookup? d = some s ∧ (h.on d f).1 = (f s).1
        ∧ (h.on d f).2.lookup? d = some (f s).2 := by
  -- A descriptor may lead nowhere, in the table or behind it
  cases hd : h.number? d with
  | none => exact .inl ⟨by simp [lookup?, hd], by simp [on, through, hd]⟩
  | some i =>
    cases hs : h.socket? i with
    | none => exact .inl ⟨by simp [lookup?, hd, hs], by simp [on, through, hd, hs]⟩
    | some s =>
      refine .inr ⟨s, by simp [lookup?, hd, hs], ?_⟩
      simp only [on, through, hd, hs, true_and]
      exact lookup?_setSocket hd hs

/-- `on` takes no fault. -/
@[simp] theorem faults_on {α : Type} (h : Host) (d : Nat)
    (f : OsSocket → Except Errno α × OsSocket) : (h.on d f).2.faults = h.faults := by
  unfold on through
  split
  · rfl
  · split <;> rfl

/-- A call on one socket that lowers its stock lowers that of the descriptor. -/
theorem stockOf_on_le {α : Type} (h : Host) (d : Nat)
    (f : OsSocket → Except Errno α × OsSocket) (hf : ∀ s, (f s).2.stock ≤ s.stock) :
    (h.on d f).2.stockOf d ≤ h.stockOf d := by
  rcases on_cases h d f with ⟨_, he⟩ | ⟨s, hs, _, hl⟩
  · exact Nat.le_of_eq (by rw [he])
  · rw [stockOf_eq_of_lookup? hs, stockOf_eq_of_lookup? hl]
    exact hf s

/-- How long faults and what there is to receive can keep a caller busy. -/
def supplyOf (h : Host) (descriptor : Nat) : Nat := h.faults.length + h.stockOf descriptor

end Host

end FrameSocket
