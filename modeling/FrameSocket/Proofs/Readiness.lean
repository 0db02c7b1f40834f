import FrameSocket.Framer.Standard
import FrameSocket.Machine
import FrameSocket.Proofs.Selecting
import FrameSocket.Proofs.SocketInvariants

/-!
# What a select tells about peers

A peer of a datagram server keeps its datagram itself, so that no poller can tell whether
there is something to read.  A selector looks at a peer when an operation of it is added, and
goes by what it saw then.  That the peer is read afterwards it is not told.

An event loop has machines, and a selector that their sockets are registered with.  Sockets
change in one direction only: a peer that holds its datagram now has held it all along.  So a
select misses no peer that can be read.  Those that it finds although there is nothing to
read are the ones that have been read since they were last added.

## Key results

- `Machine.becomes_use`: nothing that is done with a machine brings a datagram back
- `mem_select_iff`: reports of a poller have no say in what is found about peers
- `EventLoop.Holds.run`: the sockets of the machines are what those that were added became
- `EventLoop.peers_run`: what any select after any run finds about a peer
- `EventLoop.peers_run_read`: a peer is found although it has been read
-/

namespace FrameSocket

/-! ## What becomes of a socket -/

/-- What can become of a socket: it stays what it is, and a peer's datagram is read at
    most. -/
structure Socket.Becomes (s s' : Socket) : Prop where
  id : s'.id = s.id
  isPeer : s'.isPeer = s.isPeer
  hasPending : s'.hasPending = true → s.hasPending = true

namespace Socket.Becomes

variable {s s' s'' : Socket}

/-- A socket `Becomes` itself. -/
theorem refl (s : Socket) : s.Becomes s := ⟨rfl, rfl, fun hheld => hheld⟩

/-- What a socket `Becomes` in two steps. -/
theorem trans (h : s.Becomes s') (h' : s'.Becomes s'') : s.Becomes s'' :=
  ⟨h'.id.trans h.id, h'.isPeer.trans h.isPeer, fun hheld => h.hasPending (h'.hasPending hheld)⟩

/-- `Attached.delivered` takes the datagram away. -/
theorem delivered {κ : Type} {a : Attached κ} {origin : Option Address} {pending : Option Bytes}
    (h : a.socket.role = .peer origin pending) : a.socket.Becomes (a.delivered origin).socket := by
  refine ⟨rfl, ?_, nofun⟩
  simp [Socket.isPeer, Attached.delivered, h]

end Socket.Becomes

/-- Of all calls, those that receive a peer's datagram change the socket. -/
theorem Attached.keeps_becomes {κ : Type} [Kernel κ] (s : Socket) :
    Endpoint.Keeps fun a : Attached κ => s.Becomes a.socket where
  remoteAddress a h := by
    show s.Becomes a.remoteAddress.2.socket
    have hsocket : a.remoteAddress.2.socket = a.socket := by
      unfold Attached.remoteAddress reply
      split
      · rfl
      · rfl
      · cases (Kernel.peerName a.host a.socket.descriptor).1 <;> rfl
    rw [hsocket]
    exact h
  takeError a h := by
    show s.Becomes a.takeError.2.socket
    exact h
  -- A peer may give its datagram away; nothing else changes a socket
  recv a ch n h := by
    show s.Becomes (a.recv ch n).2.socket
    unfold Attached.recv
    split
    · rename_i hrole
      exact h.trans (.delivered hrole)
    · exact h
    · exact h
  recvFrom a n h := by
    show s.Becomes (a.recvFrom n).2.socket
    unfold Attached.recvFrom reply
    split
    · rename_i hrole
      exact h.trans (.delivered hrole)
    · exact h
    · cases (Kernel.recvFrom a.host a.socket.descriptor n).1 <;> exact h
  peek a ch h := by
    show s.Becomes (a.peek ch).2.socket
    unfold Attached.peek
    split <;> exact h
  send a ch data h := by
    show s.Becomes (a.send ch data).2.socket
    unfold Attached.send
    split <;> exact h

namespace Machine

variable {κ φ : Type} [Kernel κ] [Framer φ]

/-- What can be done with a machine: the calls of a bare socket, and those of a server or a
    client.  What does not suit the kind of the machine changes nothing. -/
inductive Use (φ : Type) where
  | recv (ch : Channel) (n : Nat)
  | recvFrom (n : Nat)
  | peek (ch : Channel)
  | send (ch : Channel) (data : Bytes)
  | wrap (kind : MachineKind) (config : Config)
  | unwrap
  | read (f : φ) (ch : Channel) (now : Clock)
  | write (data : Bytes) (ch : Channel) (now : Clock)
  | close

/-- Makes a call on a bare socket. -/
def onBare (m : Machine) (h : κ) (call : Attached κ → Attached κ) : Machine × κ :=
  match m with
  | .bare s => (.bare (call ⟨s, h⟩).socket, (call ⟨s, h⟩).host)
  | m => (m, h)

/-- The machine and the operating system after something has been done. -/
def use (m : Machine) (h : κ) : Use φ → Machine × κ
  | .recv ch n => m.onBare h fun a => (a.recv ch n).2
  | .recvFrom n => m.onBare h fun a => (a.recvFrom n).2
  | .peek ch => m.onBare h fun a => (a.peek ch).2
  | .send ch data => m.onBare h fun a => (a.send ch data).2
  | .wrap kind config =>
    match m with
    | .bare s => wrap kind s config h
    -- A machine that is wrapped already stays what it is
    | m => (m, h)
  | .unwrap => (m.unwrap?.getD m, h)
  | .read f ch now =>
    match m.read? h f ch now with
    | some ((_, m, h), _) => (m, h)
    | none => (m, h)
  | .write data ch now =>
    match m.write? h data ch now with
    | some (_, m, h) => (m, h)
    | none => (m, h)
  | .close => (m, (m.close h).2)

omit [Kernel κ] in
/-- `onBare` makes of a socket what the call does. -/
theorem becomes_onBare (m : Machine) (h : κ) {call : Attached κ → Attached κ}
    (hcall : ∀ a : Attached κ, a.socket.Becomes (call a).socket) :
    m.socket.Becomes (m.onBare h call).1.socket := by
  cases m with
  | bare s => exact hcall ⟨s, h⟩
  | streamServer => exact .refl _
  | datagramServer => exact .refl _
  | client => exact .refl _

/-- `wrap` leaves the socket as it is. -/
theorem becomes_wrap (kind : MachineKind) (s : Socket) (config : Config) (h : κ) :
    s.Becomes (wrap kind s config h).1.socket := by
  cases kind with
  | streamServer => exact .refl s
  | datagramServer => exact .refl s
  | client kind =>
    exact Client.kept_make (Attached.keeps_becomes s) kind (s := ⟨s, h⟩) (.refl s) config _

/-- `read?` may take the datagram of a peer. -/
theorem becomes_read (m : Machine) (h : κ) (f : φ) (ch : Channel) (now : Clock)
    {answer : Except NetworkError (Incoming Socket)} {m' : Machine} {h' : κ} {f' : φ}
    (hread : m.read? h f ch now = some ((answer, m', h'), f')) : m.socket.Becomes m'.socket := by
  cases m with
  | bare => exact nomatch hread
  | streamServer =>
    cases hread
    exact .refl _
  | datagramServer =>
    cases hread
    exact .refl _
  -- Servers only share their socket, and a client's changes call by call
  | client kind c =>
    cases hread
    exact Client.kept_read (Attached.keeps_becomes c.socket) kind (c := c.attach h) (.refl _)
      now f ch

/-- `write?` leaves the datagram of a peer. -/
theorem becomes_write (m : Machine) (h : κ) (data : Bytes) (ch : Channel) (now : Clock)
    {answer : Except NetworkError Nat} {m' : Machine} {h' : κ}
    (hwrite : m.write? h data ch now = some (answer, m', h')) : m.socket.Becomes m'.socket := by
  cases m with
  | bare => exact nomatch hwrite
  | streamServer =>
    cases hwrite
    exact .refl _
  | datagramServer =>
    cases hwrite
    exact .refl _
  -- Servers refuse to write, and a client's socket changes call by call
  | client kind c =>
    cases hwrite
    exact Client.kept_write (Attached.keeps_becomes c.socket) kind (c := c.attach h) (.refl _)
      now data ch

/-- Whatever a machine is used for, its socket becomes what `Becomes` allows. -/
theorem becomes_use (m : Machine) (h : κ) (u : Use φ) :
    m.socket.Becomes (m.use h u).1.socket := by
  cases u with
  | recv ch n =>
    exact m.becomes_onBare h fun a => (Attached.keeps_becomes a.socket).recv a ch n (.refl _)
  | recvFrom n =>
    exact m.becomes_onBare h fun a => (Attached.keeps_becomes a.socket).recvFrom a n (.refl _)
  | peek ch =>
    exact m.becomes_onBare h fun a => (Attached.keeps_becomes a.socket).peek a ch (.refl _)
  | send ch data =>
    exact m.becomes_onBare h fun a => (Attached.keeps_becomes a.socket).send a ch data (.refl _)
  | wrap kind config =>
    -- Only a bare socket is wrapped; the others answer that they are machines
    cases m with
    | bare s => exact becomes_wrap kind s config h
    | streamServer => exact .refl _
    | datagramServer => exact .refl _
    | client => exact .refl _
  | unwrap => cases m <;> exact .refl _
  | read f ch now =>
    -- What such a machine refuses leaves its socket alone
    simp only [use]
    split
    · rename_i hread
      exact m.becomes_read h f ch now hread
    · exact .refl _
  | write data ch now =>
    simp only [use]
    split
    · rename_i hwrite
      exact m.becomes_write h data ch now hwrite
    · exact .refl _
  | close => exact .refl _

end Machine

/-! ## Reports of a poller -/

namespace Selector

section Poller

variable {π : Type} [Poller π] {rs : Registrations} {ready found : Ready} {a : Activity}
  {id : SocketId} {p q : π}

/-- The entry of a socket, if it has one, is that of a peer. -/
def PeerEntry (rs : Registrations) (id : SocketId) : Prop :=
  ∀ r, rs.find? id = some r → ∃ pending, r.source = .peer pending

/-- `checkEvent` does not decide about peers. -/
theorem mem_checkEvent_iff (hpeer : PeerEntry rs id) (e : Event) :
    id ∈ (checkEvent rs (ready, p) e).1.get a ↔ id ∈ ready.get a := by
  unfold checkEvent
  split
  · rfl
  · rename_i r hfound
    split
    · rfl
    · rename_i d listening urgent hsource
      -- The report is about a descriptor, and so about another socket
      have hne : id ≠ e.id := by
        rintro rfl
        obtain ⟨pending, hpending⟩ := hpeer r hfound
        exact nomatch hsource.symm.trans hpending
      simp only [Ready.mem_get_addIf, hne, and_false, or_false]

/-- No events decide about peers. -/
theorem mem_foldl_checkEvent_iff (hpeer : PeerEntry rs id) (events : List Event) :
    id ∈ (events.foldl (checkEvent rs) (ready, p)).1.get a ↔ id ∈ ready.get a := by
  induction events generalizing ready p with
  | nil => rfl
  | cons e events ih => exact ih.trans (mem_checkEvent_iff hpeer e)

/-- What waiting finds about a peer is what was known about it beforehand. -/
theorem mem_await_iff {deadline : Option Duration} {waits : Nat} (hpeer : PeerEntry rs id)
    (hawait : await rs ready deadline waits p = (.ready found, q)) :
    id ∈ found.get a ↔ id ∈ ready.get a := by
  have hawaits := awaits_await rs ready deadline waits p
  rw [hawait] at hawaits
  generalize hresult : (Waited.ready found, q) = result at hawaits
  clear hawait
  -- By the turns: all but the last one hand on what they began with
  induction hawaits with
  | spent => cases hresult
  | interrupted _ _ _ ih => exact ih hresult
  | failed => cases hresult
  | @found waits p q q' events _ _ hcheck _ =>
    cases hresult
    have hfold : id ∈ (events.foldl (checkEvent rs) (ready, q)).1.get a ↔ id ∈ ready.get a :=
      mem_foldl_checkEvent_iff hpeer events
    rw [hcheck] at hfold
    exact hfold
  | late => cases hresult
  | idle _ _ _ _ ih => exact ih hresult
  | falseReport _ _ _ _ _ _ ih => exact ih hresult

/-- What a select finds about a peer is read off its entry. -/
theorem mem_select_iff {s : Selector} {waits : Nat} {seconds : Option Nat} {micros : Nat}
    (hpeer : PeerEntry s.registrations id)
    (hselect : (s.select waits p seconds micros).1 = .ready found) :
    id ∈ found.get a ↔ ∃ r ∈ s.registrations, r.id = id ∧ r.PeerReady a := by
  have hselects := selects_select s waits p seconds micros
  generalize s.select waits p seconds micros = result at hselects hselect
  cases hselects with
  | idle hout => exact absurd hselect (hout found)
  | refused hwatch => exact nomatch hselect
  | found hwatch hawait =>
    cases hselect
    -- Waiting adds nothing for a peer, so only what was ready before counts
    rw [Ready.get_sorted, SocketId.sorted, List.mem_mergeSort, mem_await_iff hpeer hawait,
      mem_readyPeers]
  | missed hout hwatch hawait => exact absurd hselect (hout found)

end Poller

/-! ## What is found about a peer -/

variable {past : List Deed} {s : Socket}

/-- The datagram of a peer has been read since the peer was last added. -/
def Stale (past : List Deed) (peer : Socket) : Prop :=
  ∃ added, LastAdded added past ∧ added.id = peer.id ∧ added.hasPending = true ∧
    peer.hasPending = false

/-- What a select found about a peer, by the history before it. -/
structure PeerFound (past : List Deed) (peer : Socket) (found : Ready) : Prop where
  /-- It is to be read, and holds its datagram, or held it when it was last added. -/
  read : peer.id ∈ found.read ↔
    Standing peer.id .read past ∧ (peer.hasPending = true ∨ Stale past peer)
  write : peer.id ∈ found.write ↔ Standing peer.id .write past
  urgent : peer.id ∉ found.urgent

/-- The entry of a socket that has become what it is now since it was last added. -/
theorem source_of_becomes {rs : Registrations} (h : Tracks past rs)
    (hadded : ∀ added, LastAdded added past → added.id = s.id → added.Becomes s)
    (hpeer : s.isPeer = true) {r : Registration} (hr : r ∈ rs) (hid : r.id = s.id) :
    ∃ added, LastAdded added past ∧ added.id = s.id ∧ r.source = .peer added.hasPending := by
  obtain ⟨added, hlast, hsame, hof⟩ := h.source r hr
  have hbecomes := hadded added hlast (hsame.trans hid)
  refine ⟨added, hlast, hsame.trans hid, ?_⟩
  rw [hof, Source.of, if_pos (hbecomes.isPeer.symm.trans hpeer)]

/-- A select goes by what a peer was like when it was last added. -/
theorem peerFound_select {π : Type} [Poller π] {x : Selector} {waits : Nat} {p : π}
    {seconds : Option Nat} {micros : Nat} {found : Ready} (h : Tracks past x.registrations)
    (hadded : ∀ added, LastAdded added past → added.id = s.id → added.Becomes s)
    (hpeer : s.isPeer = true) (hselect : (x.select waits p seconds micros).1 = .ready found) :
    PeerFound past s found := by
  have hsource : ∀ {r}, r ∈ x.registrations → r.id = s.id → _ :=
    fun hr hid => source_of_becomes h hadded hpeer hr hid
  have hentry : PeerEntry x.registrations s.id := by
    intro r hr
    obtain ⟨hr, hid⟩ := h.table.find?_eq_some_iff.mp hr
    obtain ⟨added, -, -, hof⟩ := hsource hr hid
    exact ⟨_, hof⟩
  have hmem : ∀ a, s.id ∈ found.get a ↔ ∃ r ∈ x.registrations, r.id = s.id ∧ r.PeerReady a :=
    fun a => mem_select_iff hentry hselect
  refine ⟨(hmem .read).trans ⟨?_, ?_⟩, (hmem .write).trans ⟨?_, ?_⟩, fun hid => ?_⟩
  · -- the entry tells what the peer held when it was last added
    rintro ⟨r, hr, hid, hread, hpending⟩
    obtain ⟨added, hlast, hsame, hof⟩ := hsource hr hid
    have hheld : added.hasPending = true := Source.peer.inj (hof.symm.trans hpending)
    refine ⟨(h.wants _ _).mp (h.table.wants_iff.mpr ⟨r, hr, hid, hread⟩), ?_⟩
    cases hnow : s.hasPending with
    | true => exact .inl rfl
    | false => exact .inr ⟨added, hlast, hsame, hheld, hnow⟩
  · rintro ⟨hstanding, hheld⟩
    obtain ⟨r, hr, hid, hread⟩ := h.table.wants_iff.mp ((h.wants _ _).mpr hstanding)
    obtain ⟨added, hlast, hsame, hof⟩ := hsource hr hid
    refine ⟨r, hr, hid, hread, hof.trans (congrArg _ ?_)⟩
    -- What it holds now, it held then
    rcases hheld with hnow | ⟨other, hother, hother', hpending, -⟩
    · exact (hadded added hlast hsame).hasPending hnow
    · rw [hother.unique hlast (hsame.trans hother'.symm)]
      exact hpending
  · rintro ⟨r, hr, hid, hwrite, -⟩
    exact (h.wants _ _).mp (h.table.wants_iff.mpr ⟨r, hr, hid, hwrite⟩)
  · intro hstanding
    obtain ⟨r, hr, hid, hwrite⟩ := h.table.wants_iff.mp ((h.wants _ _).mpr hstanding)
    obtain ⟨added, -, -, hof⟩ := hsource hr hid
    exact ⟨r, hr, hid, hwrite, _, hof⟩
  · obtain ⟨r, -, -, hurgent⟩ := (hmem .urgent).mp hid
    exact hurgent

end Selector

/-! ## Event loops -/

/-- Machines by their handles, their operating system, and a selector with its history. -/
structure EventLoop (κ : Type) where
  machines : SocketId → Option Machine
  host : κ
  history : Selector.History

namespace EventLoop

open Selector (Deed LastAdded Standing PeerFound)

variable {κ π φ : Type} [Kernel κ] [Poller π] [Framer φ]

/-- One turn of an event loop. -/
inductive Turn (κ π φ : Type) where
  /-- The operating system goes on by itself. -/
  | world (host : κ)
  /-- A machine comes along, such as a peer that a server has accepted. -/
  | join (m : Machine)
  | use (id : SocketId) (u : Machine.Use φ)
  /-- An operation of a socket is added to the selector, as the socket is now. -/
  | add (id : SocketId) (op : Operation)
  | remove (id : SocketId) (op : Operation)
  | removeAll (id : SocketId)
  | shutdown
  | select (waits : Nat) (p : π) (seconds : Option Nat) (micros : Nat)

/-- A loop without machines. -/
def start (host : κ) : EventLoop κ := ⟨fun _ => none, host, .start⟩

/-- The loop with a machine in the place of a handle. -/
def put (x : EventLoop κ) (id : SocketId) (m : Machine) : EventLoop κ :=
  { x with machines := fun id' => if id' = id then some m else x.machines id' }

/-- The loop after a step of its selector. -/
def tell (x : EventLoop κ) (step : Selector.Step π) : EventLoop κ :=
  { x with history := x.history.after step }

/-- The loop after a turn. -/
def after (x : EventLoop κ) : Turn κ π φ → EventLoop κ
  | .world host => { x with host }
  | .join m =>
    -- A handle is given once.
    if (x.machines m.socket.id).isNone then x.put m.socket.id m else x
  | .use id u =>
    match x.machines id with
    | none => x
    | some m => { x.put id (m.use x.host u).1 with host := (m.use x.host u).2 }
  | .add id op =>
    match x.machines id with
    | none => x
    | some m => x.tell (.add m.socket op : Selector.Step π)
  | .remove id op => x.tell (.remove id op : Selector.Step π)
  | .removeAll id => x.tell (.removeAll id : Selector.Step π)
  | .shutdown => x.tell (.shutdown : Selector.Step π)
  | .select waits p seconds micros => x.tell (.select waits p seconds micros)

/-- The loop after several turns. -/
def run (x : EventLoop κ) (turns : List (Turn κ π φ)) : EventLoop κ := turns.foldl after x

/-- The selector knows the sockets of the machines, as they once were. -/
structure Holds (x : EventLoop κ) : Prop where
  history : x.history.Holds
  handle : ∀ id m, x.machines id = some m → m.socket.id = id
  added : ∀ s, LastAdded s x.history.past →
    ∃ m, x.machines s.id = some m ∧ s.Becomes m.socket

namespace Holds

variable {x : EventLoop κ}

omit [Kernel κ] in
/-- At the start there is nothing that could be wrong. -/
theorem start (host : κ) : (start host).Holds where
  history := Selector.History.holds_start
  handle _ _ hm := nomatch hm
  added _ hs := nomatch hs

omit [Kernel κ] in
/-- A machine changes, or takes the place of a handle that is new. -/
theorem put (h : x.Holds) {id : SocketId} {m : Machine} (hid : m.socket.id = id)
    (hbecomes : ∀ m', x.machines id = some m' → m'.socket.Becomes m.socket) :
    (x.put id m).Holds where
  history := h.history
  -- The machine may be put in the place of another
  handle id' m' hm' := by
    simp only [EventLoop.put] at hm'
    split at hm'
    · rename_i heq
      cases hm'
      exact hid.trans heq.symm
    · exact h.handle id' m' hm'
  added s hs := by
    obtain ⟨m', hm', hs'⟩ := h.added s hs
    simp only [EventLoop.put]
    split
    · rename_i heq
      rw [heq] at hm'
      exact ⟨m, rfl, hs'.trans (hbecomes m' hm')⟩
    · exact ⟨m', hm', hs'⟩

omit [Kernel κ] in
/-- A step of the selector adds a socket as it is, or none. -/
theorem tell (h : x.Holds) {step : Selector.Step π}
    (hstep : ∀ s op, step = .add s op → ∃ m, x.machines s.id = some m ∧ m.socket = s) :
    (x.tell step).Holds where
  history := h.history.after step
  handle := h.handle
  added s hs := by
    cases step with
    | add socket op =>
      -- It is the socket that is added now, or was there before
      rcases Selector.lastAdded_added.mp hs with rfl | ⟨hs, -⟩
      · obtain ⟨m, hm, hsocket⟩ := hstep s op rfl
        exact ⟨m, hm, hsocket ▸ .refl _⟩
      · exact h.added s hs
    | remove | removeAll | shutdown | select =>
      refine h.added s ((Selector.lastAdded_cons ?_).mp hs)
      exact fun _ _ => nofun

/-- Every turn keeps what `Holds` of a loop. -/
theorem after (h : x.Holds) (turn : Turn κ π φ) : (x.after turn).Holds := by
  cases turn with
  | world host => exact ⟨h.history, h.handle, h.added⟩
  | join m =>
    simp only [EventLoop.after]
    split
    · rename_i hnew
      refine h.put rfl fun m' hm' => ?_
      rw [hm'] at hnew
      exact nomatch hnew
    · exact h
  | use id u =>
    simp only [EventLoop.after]
    split
    · exact h
    · rename_i m hm
      -- The machine stays under its handle, and its socket has become what it may
      have hbecomes := m.becomes_use x.host u
      have hput : (x.put id (m.use x.host u).1).Holds := by
        refine h.put (hbecomes.id.trans (h.handle id m hm)) fun m' hm' => ?_
        cases hm.symm.trans hm'
        exact hbecomes
      exact ⟨hput.history, hput.handle, hput.added⟩
  | add id op =>
    simp only [EventLoop.after]
    split
    · exact h
    · rename_i m hm
      refine h.tell fun s op' heq => ?_
      cases heq
      exact ⟨m, (h.handle id m hm).symm ▸ hm, rfl⟩
  | remove | removeAll | shutdown | select => exact h.tell fun _ _ => nofun

/-- Every run keeps what `Holds` of a loop. -/
theorem run (h : x.Holds) (turns : List (Turn κ π φ)) : (x.run turns).Holds := by
  induction turns generalizing x with
  | nil => exact h
  | cons turn turns ih => exact ih (h.after turn)

end Holds

/-- Any select after any run of an event loop, whatever the pollers and the operating system
    do.

    It finds exactly those peers ready to be written that are registered for it.  Of those
    that are registered to be read, it misses none that holds its datagram, and the others
    that it finds have been read since they were last added. -/
theorem peers_run (host : κ) (turns : List (Turn κ π φ)) :
    let x := (start host).run turns
    ∀ (waits : Nat) (p : π) (seconds : Option Nat) (micros : Nat) (found : Ready),
      (x.history.selector.select waits p seconds micros).1 = .ready found →
      ∀ id m, x.machines id = some m → m.socket.isPeer = true →
        PeerFound x.history.past m.socket found := by
  intro x waits p seconds micros found hselect id m hm hpeer
  have hx : x.Holds := (Holds.start host).run turns
  refine Selector.peerFound_select hx.history (fun added hlast hid => ?_) hpeer hselect
  -- The machine with the handle of the socket that was added is this one
  obtain ⟨m', hm', hbecomes⟩ := hx.added added hlast
  rw [hid, hx.handle id m hm, hm] at hm'
  cases hm'
  exact hbecomes

/-- A peer for a datagram of two bytes, whose sender has no name. -/
def unreadPeer : Socket := ⟨⟨1⟩, 0, .unixDatagram, .peer none (some [0x61, 0x62])⟩

/-- It comes along, and is to be read and written. -/
def registered : List (Turn Host Host Framer.Standard) :=
  [.join (.bare unreadPeer), .add ⟨1⟩ .read, .add ⟨1⟩ .write]

/-- What a select finds of it, whether it has been read since or not. -/
theorem select_registered :
    (Selector.select ⟨[⟨⟨1⟩, .peer true, true, true⟩]⟩ 1 ({} : Host) (some 0) 0).1 =
      .ready ⟨[⟨1⟩], [⟨1⟩], []⟩ := by
  have hsorted : Ready.sorted ⟨[⟨1⟩], [⟨1⟩], []⟩ = ⟨[⟨1⟩], [⟨1⟩], []⟩ := by
    simp [Ready.sorted, SocketId.sorted]
  rw [← hsorted]
  rfl

/-- It is found ready for both as long as it has not been read. -/
theorem peers_run_unread :
    let x := (start ({} : Host)).run registered
    (x.history.selector.select 1 ({} : Host) (some 0) 0).1 = .ready ⟨[⟨1⟩], [⟨1⟩], []⟩ ∧
      x.machines ⟨1⟩ = some (.bare unreadPeer) ∧ unreadPeer.hasPending = true ∧
      PeerFound x.history.past unreadPeer ⟨[⟨1⟩], [⟨1⟩], []⟩ :=
  ⟨select_registered, rfl, rfl,
    peers_run {} registered 1 {} (some 0) 0 _ select_registered ⟨1⟩ _ rfl rfl⟩

/-- It is found ready for both as well if it has been read in the meantime. -/
theorem peers_run_read :
    let x := (start ({} : Host)).run (registered ++ [.use ⟨1⟩ (.recvFrom 16)])
    (x.history.selector.select 1 ({} : Host) (some 0) 0).1 = .ready ⟨[⟨1⟩], [⟨1⟩], []⟩ ∧
      ∃ m, x.machines ⟨1⟩ = some m ∧ m.socket.isPeer = true ∧ m.socket.hasPending = false :=
  ⟨select_registered, _, rfl, rfl, rfl⟩

end EventLoop

end FrameSocket
