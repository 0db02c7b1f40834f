import FrameSocket.Framer.FixedLength
import FrameSocket.Framer.NoData
import FrameSocket.Proofs.Accepting
import FrameSocket.Proofs.Mailboxes
import FrameSocket.Proofs.Peers

/-!
# A datagram server and its peers

A server and the peers that it has accepted share one socket.  However arrivals, reads of the
server and reads and writes of the peers take turns, the peers are those of the datagrams that
came first, in their order, and the rest of the datagrams wait.  What a peer reads is its own
datagram, once, and what it writes goes to the sender of that datagram.

All this holds on any operating system that keeps to `DatagramKernel`; a `Host` is one.

## Key results

- `Accepted.Answers`: what a peer does
- `Sound.after`: what each step keeps
- `serves_run`: every run
- `letterPeer_completes_again`: reads of a peer that complete a frame behind another read
-/

namespace FrameSocket

/-! ## A server and its peers -/

/-- How the regular reads of a peer began. -/
inductive Opening where
  | unread
  /-- With a framer that takes one chunk as its frame. -/
  | oneChunk
  | otherwise
  deriving DecidableEq, Repr

/-- How they began once there is one more. -/
def Opening.next (opening next : Opening) : Opening :=
  match opening with
  | .unread => next
  | opening => opening

/-- A peer that was accepted, in a client that was made with `config`. -/
structure Accepted where
  client : Client Socket
  config : Config
  opening : Opening

variable {κ : Type} [Kernel κ]

namespace Accepted

/-- The client of a peer that was just accepted. -/
def make (peer : Socket) (config : Config) (h : κ) (now : Duration) : Client (Attached κ) :=
  Client.make .datagram ⟨peer, h⟩ config now

/-- A read of a peer. -/
def read (p : Accepted) (h : κ) (now : Clock) {φ : Type} [Framer φ] (f : φ) (ch : Channel) :
    Client.Answer (Attached κ) (Incoming (Attached κ)) × φ :=
  (p.client.attach h).read .datagram now f ch

/-- A write of a peer. -/
def write (p : Accepted) (h : κ) (now : Clock) (data : Bytes) (ch : Channel) :
    Client.Answer (Attached κ) Nat :=
  (p.client.attach h).write .datagram now data ch

end Accepted

/-- A datagram server on an operating system, with the peers that it has accepted.  `came`
    holds the datagrams that have waited at its socket so far, in their order. -/
structure Service (κ : Type) where
  server : DatagramServer
  host : κ
  peers : List Accepted
  came : List Datagram

namespace Service

open DatagramKernel (waiting Serves)

/-- What happens to a service.  Each operation takes its own readings of the clock. -/
inductive Step (κ : Type) : Type 1 where
  /-- The world does something to the operating system. -/
  | world (next : κ)
  /-- The server reads, and a peer that it accepts is put into a client, made at the given
      time. -/
  | accept (config : Config) (ch : Channel) (made : Duration)
  /-- The peer with a number reads with a fresh framer of one chunk. -/
  | readChunk (k : Nat) (now : Clock)
  /-- It reads with any framer. -/
  | read (k : Nat) (now : Clock) {φ : Type} [Framer φ] (f : φ) (ch : Channel)
  | write (k : Nat) (now : Clock) (data : Bytes) (ch : Channel)

/-- The descriptors that lead to the socket. -/
def descriptors (s : Service κ) : List Nat :=
  s.server.socket.descriptor :: s.peers.map (·.client.socket.descriptor)

variable [DatagramKernel κ]

/-- A service that was just made. -/
def start (socket : Socket) (config : Config) (h : κ) : Service κ :=
  let (server, host) := DatagramServer.new socket config h
  { server, host, peers := [], came := waiting host socket.descriptor }

/-- The datagrams that wait. -/
def queue (s : Service κ) : List Datagram := waiting s.host s.server.socket.descriptor

/-- The service on another state of its operating system.  What the queue has grown by has
    come. -/
def onHost (s : Service κ) (next : κ) : Service κ :=
  { s with
    host := next
    came := s.came ++ (waiting next s.server.socket.descriptor).drop s.queue.length }

/-- The service after one of its peers has been used. -/
def onPeer (s : Service κ) (k : Nat) (use : Accepted → Client (Attached κ) × Opening) :
    Service κ :=
  match s.peers[k]? with
  | none => s
  | some p =>
    { s.onHost (use p).1.detach.2 with
      peers := s.peers.set k { p with client := (use p).1.detach.1, opening := (use p).2 } }

/-- The service after a step. -/
def after (s : Service κ) : Step κ → Service κ
  | .world next => s.onHost next
  | .accept config ch made =>
    match s.server.read s.host ch with
    | (.ok (.accepted _ peer), next) =>
      let (client, next) := (Accepted.make peer config next made).detach
      { s.onHost next with peers := s.peers ++ [⟨client, config, .unread⟩] }
    | (_, next) => s.onHost next
  | .readChunk k now =>
    s.onPeer k fun p =>
      ((p.read s.host now Framer.SingleChunk.start .regular).1.2, p.opening.next .oneChunk)
  | @Step.read _ k now _ _ f ch =>
    s.onPeer k fun p =>
      ((p.read s.host now f ch).1.2,
        if ch = .urgent then p.opening else p.opening.next .otherwise)
  | .write k now data ch => s.onPeer k fun p => ((p.write s.host now data ch).2, p.opening)

/-- The service after several steps. -/
def run (s : Service κ) (steps : List (Step κ)) : Service κ := steps.foldl after s

/-- The world may put datagrams behind those that wait, and do what it likes otherwise, as long
    as the descriptors serve the socket as before. -/
def Admits (s : Service κ) : Step κ → Prop
  | .world next =>
    Serves next s.server.socket.transport s.descriptors ∧
      s.queue <+: waiting next s.server.socket.descriptor
  | _ => True

/-- The world `Admits` each step of a run. -/
def AdmitsRun (s : Service κ) : List (Step κ) → Prop
  | [] => True
  | step :: steps => s.Admits step ∧ (s.after step).AdmitsRun steps

end Service

/-! ## What a peer holds -/

/-- The peer holds the datagram `d`, of which the server took at most `size` bytes, until it is
    read. -/
structure Accepted.Holds (p : Accepted) (size : Nat) (d : Datagram) : Prop where
  peer : ∃ pending, p.client.socket.role = .peer d.origin.determined? pending
  remote : p.client.remote = some d.origin.text
  bufferSize : p.client.bufferSize = max p.config.maxDatagramSize 1
  unread : p.opening = .unread →
    p.client.socket.role = .peer d.origin.determined? (some (d.data.take size)) ∧
      p.client.leftovers.get .regular = none ∧
      p.client.receiveWatch = p.config.minReceiveSpeed.map
        (Watchdog.new · p.config.slowReceiveLimit.toSeconds)
  oneChunk : p.opening = .oneChunk →
    p.client.socket.role = .peer d.origin.determined? none ∧
      p.client.leftovers.get .regular = none

namespace Accepted

variable {p : Accepted} {size : Nat} {d : Datagram} {h : κ}

/-- A peer that was just accepted holds its datagram. -/
theorem holds_make {peer : Socket} (config : Config) (h : κ) (now : Duration)
    (hrole : peer.role = .peer d.origin.determined? (some (d.data.take size))) :
    (make peer config h now).socket = ⟨peer, h⟩ ∧
      Holds ⟨(make peer config h now).detach.1, config, .unread⟩ size d := by
  have hmake : make peer config h now =
      (Client.new ⟨peer, h⟩ config config.maxDatagramSize now).markConnected d.origin.text := by
    -- A peer's name is the origin of its datagram, so that its client is connected at once
    have hremote : Endpoint.remoteAddress (⟨peer, h⟩ : Attached κ) =
        (.ok (some d.origin.text), ⟨peer, h⟩) := by
      show Attached.remoteAddress _ = _
      simp only [Attached.remoteAddress, hrole, Address.text_determined?]
    simp only [make, Client.make, Client.newDatagram, hremote]
    rfl
  rw [hmake]
  exact ⟨rfl, ⟨_, hrole⟩, rfl, rfl, fun _ => ⟨hrole, rfl, rfl⟩, nofun⟩

namespace Holds

variable {client : Client Socket} {config : Config} {opening : Opening}
  {c : Client (Attached κ)}

omit [Kernel κ] in
/-- A peer that was not read by one chunk first is only bound to its sender. -/
theorem of_samePeer (hp : Holds ⟨client, config, opening⟩ size d)
    (hsame : Client.SamePeer d.origin.determined? (client.attach h) c) :
    Holds ⟨c.detach.1, config, .otherwise⟩ size d where
  peer := hsame.role hp.peer
  remote := hsame.remote.trans hp.remote
  bufferSize := hsame.bufferSize.trans hp.bufferSize
  unread := nofun
  oneChunk := nofun

omit [Kernel κ] in
/-- A peer that has delivered its datagram has nothing more. -/
theorem of_booked (hp : Holds ⟨client, config, .oneChunk⟩ size d)
    (hbooked : Client.Booked (client.attach h) c) :
    Holds ⟨c.detach.1, config, .oneChunk⟩ size d := by
  obtain ⟨hrole, hleft⟩ := hp.oneChunk rfl
  have hrole' : c.socket.socket.role = .peer d.origin.determined? none := by
    rw [hbooked.socket]
    exact hrole
  have hleft' : c.leftovers.get .regular = none := by
    rw [hbooked.leftovers]
    exact hleft
  exact ⟨⟨none, hrole'⟩, hbooked.remote.trans hp.remote,
    hbooked.bufferSize.trans hp.bufferSize, nofun, fun _ => ⟨hrole', hleft'⟩⟩

/-- A regular read with any framer leaves a peer bound to its sender, and one that has
    delivered its datagram to one chunk stays so. -/
theorem read (hp : Holds ⟨client, config, opening⟩ size d) (h : κ) (now : Clock) {φ : Type}
    [Framer φ] (f : φ) :
    Holds ⟨(Accepted.read ⟨client, config, opening⟩ h now f .regular).1.2.detach.1, config,
      opening.next .otherwise⟩ size d := by
  have hsame := Client.SamePeer.readDatagram (c := client.attach h) hp.peer now f .regular
  cases opening with
  | unread => exact hp.of_samePeer hsame
  | oneChunk =>
    obtain ⟨hrole, hleft⟩ := hp.oneChunk rfl
    exact hp.of_booked
      (Client.readDatagram_delivered (c := client.attach h) hrole hleft now f).1
  | otherwise => exact hp.of_samePeer hsame

/-- What a peer delivers counts for its sender. -/
theorem sender_eq (hp : p.Holds size d) :
    (d.origin.determined?.bind Address.text?).or p.client.remote = some d.origin.text := by
  rw [hp.remote]
  exact d.origin.text?_determined?_or

/-- The watchdog of a peer that nobody has read has not been told of anything. -/
theorem fresh (hp : p.Holds size d) (hopening : p.opening = .unread) (watch : Watchdog Float)
    (hwatch : p.client.receiveWatch = some watch) : watch.window = none := by
  rw [(hp.unread hopening).2.2] at hwatch
  obtain ⟨floor, -, rfl⟩ := Option.map_eq_some_iff.mp hwatch
  rfl

/-- The first read by a framer of one chunk takes the datagram away, whatever its watchdog
    says; later ones are reads like any other. -/
theorem readChunk (hp : Holds ⟨client, config, opening⟩ size d) (h : κ) (now : Clock) :
    Holds ⟨(Accepted.read ⟨client, config, opening⟩ h now Framer.SingleChunk.start
      .regular).1.2.detach.1, config, opening.next .oneChunk⟩ size d := by
  cases opening with
  -- The datagram is delivered now, and the framer takes all of it
  | unread =>
    obtain ⟨hrole, hleft, -⟩ := hp.unread rfl
    have hsame := Client.SamePeer.readDatagram (c := client.attach h) hp.peer now
      Framer.SingleChunk.start .regular
    obtain ⟨-, hsocket, hkept⟩ := Client.readDatagram_pending (c := client.attach h) hrole
      hp.sender_eq hleft (hp.fresh rfl) now
    refine ⟨hsame.role hp.peer, hsame.remote.trans hp.remote,
      hsame.bufferSize.trans hp.bufferSize, nofun, fun _ => ⟨?_, ?_⟩⟩
    · exact congrArg (·.socket.role) hsocket
    · exact (congrArg (·.get .regular) hkept).trans hleft
  | oneChunk => exact hp.read h now _
  | otherwise => exact hp.read h now _

/-- A write changes nothing that a peer holds. -/
theorem write (hp : Holds ⟨client, config, opening⟩ size d) (h : κ) (now : Clock)
    (data : Bytes) (ch : Channel) :
    Holds ⟨(Accepted.write ⟨client, config, opening⟩ h now data ch).2.detach.1, config, opening⟩
      size d := by
  -- A write leaves alone all that a read looks at
  have hsame := Client.SameReader.writeDatagram (client.attach h) now data ch
  have hrole := congrArg Socket.role hsame.socket
  have hleft := congrArg (·.get .regular) hsame.leftovers
  obtain ⟨pending, hpeer⟩ := hp.peer
  refine ⟨⟨pending, hrole.trans hpeer⟩, hsame.remote.trans hp.remote,
    hsame.bufferSize.trans hp.bufferSize, fun hopening => ?_, fun hopening => ?_⟩
  · obtain ⟨hpending, hnone, hwatch⟩ := hp.unread hopening
    exact ⟨hrole.trans hpending, hleft.trans hnone, hsame.receiveWatch.trans hwatch⟩
  · obtain ⟨hdelivered, hnone⟩ := hp.oneChunk hopening
    exact ⟨hrole.trans hdelivered, hleft.trans hnone⟩

end Holds

/-! ## What a peer does -/

/-- What a peer for the datagram `d` does on the operating system `h`, where it shares a socket
    with a server that takes at most `size` bytes of a datagram. -/
structure Answers (p : Accepted) (h : κ) (size : Nat) (d : Datagram) : Prop where
  /-- The first read, by a framer of one chunk, brings the datagram cut to the smaller of the
      two buffers, from its sender.  Only if a receive floor is set, and more time than it
      allows passes between the two readings of the clock, is it told so instead. -/
  first : p.opening = .unread → ∀ now : Clock,
    (p.read h now Framer.SingleChunk.start .regular).1.1 = .ok (.complete
        ⟨d.data.take (min size (max p.config.maxDatagramSize 1)), some d.origin.text⟩) ∨
      ∃ floor speed duration, p.config.minReceiveSpeed = some floor ∧
        (p.read h now Framer.SingleChunk.start .regular).1.1 =
          .error (.slowTransfer .receive speed duration) ∧
        p.config.slowReceiveLimit.toSeconds < duration ∧
        Watchdog.Passes (fun i => p.client.elapsed (now i)) 1 duration
  /-- Behind such a read there is nothing: a framer stays as it is, and its frame is unfinished
      unless it was complete already. -/
  later : p.opening = .oneChunk → ∀ (now : Clock) {φ : Type} [Framer φ] (f : φ),
    (p.read h now f .regular).2 = f ∧
      (p.read h now f .regular).1.1 = .ok (if Framer.isComplete f then
        .complete (Framer.frame f) else .unfinished (Framer.frame f))
  /-- There is no urgent channel. -/
  urgent : ∀ (now : Clock) {φ : Type} [Framer φ] (f : φ), (p.read h now f .urgent).2 = f ∧
    (p.read h now f .urgent).1.1 = .error Client.noUrgentDatagrams
  /-- No read touches the operating system. -/
  apart : ∀ (now : Clock) {φ : Type} [Framer φ] (f : φ) (ch : Channel),
    (p.read h now f ch).1.2.socket.host = h
  /-- A write is offered to the sender, and to nobody else. -/
  reply : d.origin ≠ .unnamed → ∀ (now : Clock) (data : Bytes) (ch : Channel),
    Kernel.Offers p.client.socket.descriptor d.origin data h
      (p.write h now data ch).2.socket.host
  /-- A write to a sender without a name fails, and does not touch the operating system. -/
  unnamed : d.origin = .unnamed → ∀ (now : Clock) (data : Bytes) (ch : Channel),
    (∃ e, (p.write h now data ch).1 = .error e) ∧ (p.write h now data ch).2.socket.host = h

/-- A peer that holds a datagram answers for it, on any operating system. -/
theorem Holds.answers (hp : p.Holds size d) (h : κ) : p.Answers h size d where
  first hopening now := by
    obtain ⟨hrole, hleft, hwatch⟩ := hp.unread hopening
    have hbuffer : (p.client.attach h).bufferSize = max p.config.maxDatagramSize 1 :=
      hp.bufferSize
    rcases (Client.readDatagram_pending (c := p.client.attach h) hrole hp.sender_eq hleft
      (hp.fresh hopening) now).1 with hread | ⟨watch, speed, duration, hsome, halarm, htime⟩
    · rw [hbuffer, List.take_take, Nat.min_comm] at hread
      exact .inl hread
    · -- the watchdog is the one that the client was made with
      obtain ⟨floor, hfloor, rfl⟩ := Option.map_eq_some_iff.mp (hwatch.symm.trans hsome)
      exact .inr ⟨floor, speed, duration, hfloor, halarm, htime⟩
  later hopening now φ _ f := by
    obtain ⟨hrole, hleft⟩ := hp.oneChunk hopening
    exact (Client.readDatagram_delivered (c := p.client.attach h) hrole hleft now f).2
  urgent now φ _ f := ⟨rfl, rfl⟩
  apart now φ _ f ch :=
    (Client.SamePeer.readDatagram (c := p.client.attach h) hp.peer now f ch).host
  reply hnamed now data ch := by
    obtain ⟨pending, hrole⟩ := hp.peer
    rw [Address.determined?_eq_some_iff.mpr ⟨rfl, hnamed⟩] at hrole
    exact Client.offers_writeDatagram (c := p.client.attach h) hrole now data ch
  unnamed hunnamed now data ch := by
    obtain ⟨pending, hrole⟩ := hp.peer
    rw [hunnamed] at hrole
    obtain ⟨e, herror, hsocket⟩ := Client.writeDatagram_unnamed (c := p.client.attach h) hrole
      now data ch
    exact ⟨⟨e, herror⟩, congrArg Attached.host hsocket⟩

end Accepted

/-! ## Steps -/

namespace Service

open DatagramKernel (waiting Serves)

variable [DatagramKernel κ]

/-- The peers hold the datagrams that came first, and the others wait. -/
structure Sound (s : Service κ) : Prop where
  serves : Serves s.host s.server.socket.transport s.descriptors
  count : s.peers.length ≤ s.came.length
  queue : s.queue = s.came.drop s.peers.length
  holds : ∀ (k : Nat) (p : Accepted) (d : Datagram), s.peers[k]? = some p → s.came[k]? = some d →
    p.Holds s.server.bufferSize d

variable {s : Service κ} {next : κ} {k : Nat}

/-- Where nothing is taken, the peers may be used, and datagrams may come. -/
theorem Sound.onHost (hs : s.Sound) {peers : List Accepted}
    (hlength : peers.length = s.peers.length)
    (hserves : Serves next s.server.socket.transport
      (s.server.socket.descriptor :: peers.map (·.client.socket.descriptor)))
    (hmore : s.queue <+: waiting next s.server.socket.descriptor)
    (hholds : ∀ (k : Nat) (p : Accepted) (d : Datagram), peers[k]? = some p →
      s.came[k]? = some d → p.Holds s.server.bufferSize d) :
    { s.onHost next with peers }.Sound := by
  obtain ⟨more, hmore⟩ := hmore
  have hcame : (s.onHost next).came = s.came ++ more := by
    show s.came ++ (waiting next s.server.socket.descriptor).drop s.queue.length = _
    rw [← hmore, List.drop_left]
  -- The peers are as many as before, so that what has come is behind their datagrams
  refine ⟨hserves, ?_, ?_, ?_⟩
  · show peers.length ≤ (s.onHost next).came.length
    rw [hcame, hlength, List.length_append]
    exact Nat.le_add_right_of_le hs.count
  · show waiting next s.server.socket.descriptor = (s.onHost next).came.drop peers.length
    rw [hcame, hlength, List.drop_append_of_le_length hs.count, ← hs.queue, hmore]
  · intro k p d hp hd
    have hk : k < s.came.length :=
      calc k < peers.length := (List.getElem?_eq_some_iff.mp hp).1
        _ = s.peers.length := hlength
        _ ≤ s.came.length := hs.count
    refine hholds k p d hp ?_
    rw [← hd]
    show _ = (s.onHost next).came[k]?
    rw [hcame, List.getElem?_append_left hk]

/-- One peer is used, and takes nothing. -/
theorem Sound.onPeer (hs : s.Sound) {use : Accepted → Client (Attached κ) × Opening}
    (huse : ∀ p d, s.peers[k]? = some p → p.Holds s.server.bufferSize d →
      p.client.socket.descriptor ∈ s.descriptors →
      Accepted.Holds ⟨(use p).1.detach.1, p.config, (use p).2⟩ s.server.bufferSize d ∧
        (use p).1.socket.socket.descriptor = p.client.socket.descriptor ∧
        Serves (use p).1.socket.host s.server.socket.transport s.descriptors ∧
        s.queue <+: waiting (use p).1.socket.host s.server.socket.descriptor) :
    (s.onPeer k use).Sound := by
  unfold Service.onPeer
  split
  · exact hs
  · rename_i p hp
    obtain ⟨hk, -⟩ := List.getElem?_eq_some_iff.mp hp
    have hmem : p.client.socket.descriptor ∈ s.descriptors :=
      List.mem_cons_of_mem _ (List.mem_map_of_mem (List.mem_of_getElem? hp))
    -- The peer is among the first, so there is a datagram for it
    have hd := List.getElem?_eq_getElem (Nat.lt_of_lt_of_le hk hs.count)
    obtain ⟨hholds, hdescriptor, hserves, hmore⟩ := huse p _ hp (hs.holds k p _ hp hd) hmem
    refine hs.onHost List.length_set (DatagramKernel.serves_of_subset hserves ?_) hmore ?_
    · intro d' hd'
      rcases List.mem_cons.mp hd' with rfl | hd'
      · exact List.mem_cons_self
      · obtain ⟨p', hp', rfl⟩ := List.mem_map.mp hd'
        rcases List.mem_or_eq_of_mem_set hp' with hp' | rfl
        · exact List.mem_cons_of_mem _ (List.mem_map_of_mem hp')
        · exact hdescriptor ▸ hmem
    · intro k' p' d' hp' hd'
      rw [List.getElem?_set] at hp'
      split at hp'
      · -- the peer that was used
        rename_i hkk
        subst hkk
        cases hp'
        cases hd.symm.trans hd'
        exact hholds
      · exact hs.holds k' p' d' hp' hd'

/-- The peer of the datagram in front joins the others. -/
theorem Sound.join (hs : s.Sound) {first : Datagram} {rest : List Datagram} {p : Accepted}
    (hqueue : s.queue = first :: rest) (hholds : p.Holds s.server.bufferSize first)
    (hserves : Serves next s.server.socket.transport
      (p.client.socket.descriptor :: s.descriptors))
    (hrest : waiting next s.server.socket.descriptor = rest) :
    { s.onHost next with peers := s.peers ++ [p] }.Sound := by
  have hcons : s.came.drop s.peers.length = first :: rest := hs.queue.symm.trans hqueue
  have hcame : (s.onHost next).came = s.came := by
    show s.came ++ (waiting next s.server.socket.descriptor).drop s.queue.length = s.came
    have hnone : rest.drop (first :: rest).length = [] := List.drop_eq_nil_of_le (Nat.le_succ _)
    rw [hrest, hqueue, hnone, List.append_nil]
  have hlt : s.peers.length < s.came.length := by
    have := congrArg List.length hcons
    rw [List.length_drop, List.length_cons] at this
    omega
  refine ⟨DatagramKernel.serves_of_subset hserves ?_, ?_, ?_, ?_⟩
  · intro d hd
    rcases List.mem_cons.mp hd with rfl | hd
    · exact List.mem_cons_of_mem _ List.mem_cons_self
    · rw [List.map_append, List.map_singleton] at hd
      rcases List.mem_append.mp hd with hd | hd
      · exact List.mem_cons_of_mem _ (List.mem_cons_of_mem _ hd)
      · exact List.mem_cons.mpr (.inl (List.mem_singleton.mp hd))
  · show (s.peers ++ [p]).length ≤ (s.onHost next).came.length
    rw [hcame, List.length_append, List.length_singleton]
    exact hlt
  · show waiting next s.server.socket.descriptor = (s.onHost next).came.drop (s.peers ++ [p]).length
    rw [hcame, hrest, List.length_append, List.length_singleton, ← List.tail_drop, hcons,
      List.tail_cons]
  · intro k p' d hp' hd
    -- What came is the same; the datagram of the new peer has moved from the queue
    replace hd : s.came[k]? = some d := (congrArg (·[k]?) hcame).symm.trans hd
    rcases Nat.lt_or_ge k s.peers.length with hk | hk
    · rw [List.getElem?_append_left hk] at hp'
      exact hs.holds k p' d hp' hd
    · -- only the new peer is behind the others
      have hk' : k = s.peers.length := by
        have hlt' : k < (s.peers ++ [p]).length := (List.getElem?_eq_some_iff.mp hp').1
        rw [List.length_append, List.length_singleton] at hlt'
        omega
      subst hk'
      rw [List.getElem?_concat_length] at hp'
      have hfirst : s.came[s.peers.length]? = some first := by
        rw [← List.head?_drop, hcons]
        rfl
      cases hp'
      cases hfirst.symm.trans hd
      exact hholds

/-- A read of the server makes a peer of the datagram in front, or takes nothing. -/
theorem Sound.accept (hs : s.Sound) (config : Config) (ch : Channel) (made : Duration) :
    (s.after (.accept config ch made)).Sound := by
  have hsame : (s.onHost s.host).Sound :=
    hs.onHost rfl hs.serves (List.prefix_refl _) hs.holds
  cases ch with
  | urgent => exact hsame
  | regular =>
    have haccepts := DatagramServer.accepts_accept hs.serves List.mem_cons_self
    simp only [Service.after, DatagramServer.read]
    generalize s.server.accept s.host = r at haccepts
    cases haccepts with
    | @accepted first rest peer next hqueue hrole hserves hrest =>
      obtain ⟨hsocket, hholds⟩ := Accepted.holds_make config next made hrole
      -- Putting the peer into a client does nothing to the operating system
      have hjoined : (s.onHost (Accepted.make peer config next made).socket.host) =
          s.onHost next :=
        congrArg (fun a => s.onHost a.host) hsocket
      let p : Accepted := ⟨(Accepted.make peer config next made).detach.1, config, .unread⟩
      show { s.onHost (Accepted.make peer config next made).socket.host with
        peers := s.peers ++ [p] }.Sound
      rw [hjoined]
      refine hs.join hqueue hholds ?_ hrest
      show Serves next _ ((Accepted.make peer config next made).socket.socket.descriptor :: _)
      rw [hsocket]
      exact hserves
    | @nothing answer next hanswer hserves hqueue =>
      have hkept : (s.onHost next).Sound :=
        hs.onHost rfl hserves ⟨[], (List.append_nil _).trans hqueue.symm⟩ hs.holds
      split
      · rename_i remote peer next' heq
        exact absurd (congrArg Prod.fst heq) (hanswer remote peer)
      · rename_i next' _ heq
        obtain rfl : next = next' := congrArg Prod.snd heq
        exact hkept

/-- A peer reads. -/
theorem Sound.onReader (hs : s.Sound) {φ : Type} [Framer φ] {f : φ} {ch : Channel} {now : Clock}
    {opening : Accepted → Opening}
    (hread : ∀ p d, p.Holds s.server.bufferSize d →
      Accepted.Holds ⟨(p.read s.host now f ch).1.2.detach.1, p.config, opening p⟩
        s.server.bufferSize d) :
    (s.onPeer k fun p => ((p.read s.host now f ch).1.2, opening p)).Sound := by
  refine hs.onPeer fun p d hp hd hmem => ⟨hread p d hd, ?_, ?_⟩
  · exact (Client.SamePeer.readDatagram (c := p.client.attach s.host) hd.peer now f
      ch).descriptor
  · dsimp only
    rw [(hd.answers s.host).apart now f ch]
    exact ⟨hs.serves, List.prefix_refl _⟩

/-- What is offered to anybody takes nothing from the queue.  It may come back to the socket of
    the server, but only to the end of its queue. -/
theorem serves_of_offers {h h' : κ} {t : Transport} {ds : List Nat} {d : Nat} {target : Address}
    {data : Bytes} (hh : Serves h t ds) (hd : d ∈ ds)
    (hoffers : Kernel.Offers d target data h h') :
    Serves h' t ds ∧ waiting h d <+: waiting h' d := by
  induction hoffers with
  | none => exact ⟨hh, List.prefix_refl _⟩
  | once => exact DatagramKernel.sendTo_behind hh hd target data
  | again he hi hrest ih =>
    obtain ⟨hsent, hmore⟩ := DatagramKernel.sendTo_behind hh hd target data
    obtain ⟨hserves, hrest⟩ := ih hsent
    exact ⟨hserves, hmore.trans hrest⟩

/-- A peer writes. -/
theorem Sound.write (hs : s.Sound) (k : Nat) (now : Clock) (data : Bytes) (ch : Channel) :
    (s.after (.write k now data ch)).Sound := by
  refine hs.onPeer fun p d hp hd hmem => ?_
  have hanswers := hd.answers s.host
  have hsame := Client.SameReader.writeDatagram (p.client.attach s.host) now data ch
  refine ⟨hd.write s.host now data ch, congrArg Socket.descriptor hsame.socket, ?_⟩
  by_cases hnamed : d.origin = .unnamed
  · dsimp only
    rw [(hanswers.unnamed hnamed now data ch).2]
    exact ⟨hs.serves, List.prefix_refl _⟩
  · obtain ⟨hserves, hmore⟩ :=
      serves_of_offers hs.serves hmem (hanswers.reply hnamed now data ch)
    refine ⟨hserves, ?_⟩
    -- The queue that the server sees is the one behind the peer's descriptor
    have hserver : s.server.socket.descriptor ∈ s.descriptors := List.mem_cons_self
    show waiting s.host s.server.socket.descriptor <+: waiting _ s.server.socket.descriptor
    rw [DatagramKernel.waiting_shared hs.serves hserver hmem,
      DatagramKernel.waiting_shared hserves hserver hmem]
    exact hmore

/-- Every step keeps the datagrams where they belong. -/
theorem Sound.after (hs : s.Sound) (step : Step κ) (hadmits : s.Admits step) :
    (s.after step).Sound := by
  cases step with
  | world next => exact hs.onHost rfl hadmits.1 hadmits.2 hs.holds
  | accept config ch made => exact hs.accept config ch made
  | readChunk k now => exact hs.onReader fun p d hd => hd.readChunk s.host now
  | read k now f ch =>
    cases ch with
    | regular => exact hs.onReader fun p d hd => hd.read s.host now f
    | urgent => exact hs.onReader fun p d hd => hd
  | write k now data ch => exact hs.write k now data ch

/-- Every run keeps the datagrams where they belong. -/
theorem Sound.run (hs : s.Sound) (steps : List (Step κ)) (hadmits : s.AdmitsRun steps) :
    (s.run steps).Sound := by
  induction steps generalizing s with
  | nil => exact hs
  | cons step steps ih => exact ih (hs.after step hadmits.1) hadmits.2

omit [DatagramKernel κ] in
/-- `DatagramServer.new` asks for the name of its socket, and does nothing else. -/
theorem new_eq (socket : Socket) (config : Config) (h : κ) :
    DatagramServer.new socket config h =
      (⟨socket, (socket.localAddress h).1, max config.maxDatagramSize 1⟩,
        (Kernel.localName h socket.descriptor).2) := by
  -- Whether or not the name is told, the call has been made
  have hhost : (socket.localAddress h).2 = (Kernel.localName h socket.descriptor).2 := by
    unfold Socket.localAddress
    split
    · rename_i name next heq
      exact (congrArg Prod.snd heq).symm
    · rename_i e next heq
      exact (congrArg Prod.snd heq).symm
  rw [← hhost]
  rfl

/-- A service that was just made has no peers, and everything that came waits. -/
theorem sound_start {socket : Socket} {h : κ} (config : Config)
    (hh : Serves h socket.transport [socket.descriptor]) : (start socket config h).Sound := by
  obtain ⟨hserves, -⟩ := DatagramKernel.localName_keeps hh List.mem_cons_self
  unfold start
  rw [new_eq]
  exact ⟨hserves, Nat.zero_le _, rfl, fun k p d hp hd => nomatch List.getElem?_nil.symm.trans hp⟩

/-- The server stays the same. -/
theorem server_after (s : Service κ) (step : Step κ) : (s.after step).server = s.server := by
  have honPeer : ∀ (k : Nat) (use : Accepted → Client (Attached κ) × Opening),
      (s.onPeer k use).server = s.server := by
    intro k use
    unfold Service.onPeer
    split <;> rfl
  cases step with
  | world next => rfl
  -- Accepting adds a peer, and the rest is done to peers
  | accept config ch made =>
    dsimp only [Service.after]
    split <;> rfl
  | readChunk k now => exact honPeer k _
  | read k now f ch => exact honPeer k _
  | write k now data ch => exact honPeer k _

/-- The server stays the same through a run. -/
theorem server_run (s : Service κ) (steps : List (Step κ)) : (s.run steps).server = s.server := by
  induction steps generalizing s with
  | nil => rfl
  | cons step steps ih => exact (ih (s.after step)).trans (s.server_after step)

/-! ## Runs -/

/-- The descriptor of a bound socket, and its host. -/
def boundSocket : Socket := ⟨⟨1⟩, 0, .udp, .listener⟩

/-- A host with one bound socket and a queue at it. -/
def boundHost (queue : List Datagram) : Host :=
  { sockets := [{ transport := .udp, name := .inet .loopback 9000, use := .datagram { queue } }],
    descriptors := [some 0] }

/-- The host serves its socket, as long as what waits comes from sockets with names. -/
theorem boundHost_serves {queue : List Datagram} (hnamed : ∀ d ∈ queue, d.origin ≠ .unnamed) :
    Serves (boundHost queue) .udp [0] := by
  refine ⟨0, ?_, ⟨_, rfl, rfl, ⟨_, rfl⟩, .inl nofun⟩, fun d hd => .inl (hnamed d hd), nofun⟩
  intro d hd
  cases List.mem_singleton.mp hd
  rfl

/-- A datagram of two bytes. -/
def letter : Datagram := ⟨[0x61, 0x62], .inet .loopback 4000⟩

section Letter

open Client Framer

/-- A service that has made its one peer of the datagram of two bytes, in a client with the
    given settings. -/
def lettered (config : Config) : Service Host :=
  (start boundSocket {} (boundHost [letter])).after (.accept config .regular .zero)

/-- That peer. -/
def letterPeer (config : Config) : Accepted where
  client := (Accepted.make ⟨⟨1⟩, 1, .udp, .peer (some letter.origin) (some letter.data)⟩ config
    (boundHost []) .zero).detach.1
  config := config
  opening := .unread

/-- The service of one datagram has that peer, and no other. -/
theorem lettered_peers (config : Config) : (lettered config).peers = [letterPeer config] := by
  let s := start boundSocket {} (boundHost [letter])
  have hpeek : Kernel.peekFrom s.host 0 = (.ok letter.origin, s.host) := rfl
  -- The peek shows the datagram, and who sent it is known
  have hread : s.server.read s.host .regular = s.server.take s.host := by
    show s.server.accept s.host = _
    rw [DatagramServer.accept]
    split
    · rename_i origin next heq
      cases hpeek.symm.trans heq
      rfl
    · rename_i e next heq
      cases hpeek.symm.trans heq
  show (s.after (.accept config .regular .zero)).peers = _
  simp only [after, hread]
  rfl

/-- A frame of one byte leaves the other one over. -/
theorem letterPeer_oneByte (h : Host) :
    let c := ((letterPeer {}).client.attach h).anchorReceive Clock.zero.first
    let d := { c with socket := c.socket.delivered (some letter.origin) }.keep .regular [0x62]
      (some "127.0.0.1:4000")
    (letterPeer {}).read h .zero (FixedLength.start 1) .regular =
      (d.complete (⟨1, [0x61], some "127.0.0.1:4000"⟩ : FixedLength),
        ⟨1, [0x61], some "127.0.0.1:4000"⟩) := by
  intro c d
  have hreplay : c.replay (FixedLength.start 1) .regular = (c, FixedLength.start 1) := rfl
  have hfeed : { c with socket := c.socket.delivered (some letter.origin) }.feed
      (FixedLength.start 1) .regular (letter.data.take c.bufferSize) (some "127.0.0.1:4000") =
      (d, ⟨1, [0x61], some "127.0.0.1:4000"⟩) := rfl
  -- Two bytes come, the frame takes the first and the second is left over
  have hread : ((letterPeer {}).client.attach h).readDatagram Clock.zero (FixedLength.start 1)
      .regular = _ :=
    readDatagram_of_complete rfl hreplay rfl (Attached.recvFrom_of_pending rfl _) hfeed
      (trackReceive_of_none rfl _ _) rfl
  exact hread

/-- The settings that ask for a million bytes in each second, at once. -/
def hasty : Config := Config.default.withMinReceiveSpeed 1000000.0 .zero

/-- Two seconds pass while the datagram of two bytes is received. -/
theorem letterPeer_late (h : Host) :
    ((letterPeer hasty).read h (fun k => .ofSeconds (2 * k)) SingleChunk.start .regular).1.1 =
      .error (.slowTransfer .receive 1.0 2.0) := by
  let now : Clock := fun k => .ofSeconds (2 * k)
  let c := ((letterPeer hasty).client.attach h).anchorReceive now.first
  let fed : Client Attached := { c with socket := c.socket.delivered (some letter.origin) }
  let told : SingleChunk := ⟨some letter.data, some "127.0.0.1:4000"⟩
  let opened : Watchdog Float :=
    ((Watchdog.new 1000000.0 Duration.zero.toSeconds).sample (now.first - .zero).toSeconds 0).1
  -- Two bytes in two seconds
  have halarm : (opened.sample (now.later.first - .zero).toSeconds 2).2 = some ⟨1.0, 2.0⟩ := by
    decide +kernel
  have hreplay : c.replay SingleChunk.start .regular = (c, SingleChunk.start) := rfl
  have hrecv : Endpoint.recvFrom c.socket c.bufferSize =
      (.ok (letter.data.take c.bufferSize, (some letter.origin).bind Address.text?),
        c.socket.delivered (some letter.origin)) :=
    Attached.recvFrom_of_pending (a := c.socket) rfl c.bufferSize
  have hfeed : fed.feed SingleChunk.start .regular (letter.data.take c.bufferSize)
      (some "127.0.0.1:4000") = (fed, told) := rfl
  have htrack : fed.trackReceive now.later.first (letter.data.take c.bufferSize).length = _ :=
    trackReceive_of_alarm (show fed.receiveWatch = some opened from rfl) halarm
  have hread : ((letterPeer hasty).client.attach h).readDatagram now SingleChunk.start
      .regular = _ :=
    readDatagram_of_alarm rfl hreplay rfl hrecv hfeed htrack
  exact congrArg (·.1.1) hread

end Letter

end Service

end FrameSocket
