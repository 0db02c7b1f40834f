import FrameSocket.Framer.SingleChunk
import FrameSocket.Machine
import FrameSocket.Proofs.Bookkeeping
import FrameSocket.Proofs.Writing

/-!
# Peers of a datagram server

A peer shares its server's descriptor, and keeps its datagram itself.  Its reads are answered
from what it keeps, and leave the operating system alone.  Its writes go to the sender of that
datagram, or fail if the sender has no name.  Nothing is asked of the operating system here.

## Key results

- `SamePeer.readDatagram`: reads leave the operating system alone
- `readDatagram_pending` / `readDatagram_delivered`: the first read, and the reads behind it
- `offers_writeDatagram` / `writeDatagram_unnamed`: what a write does to the operating system
-/

namespace FrameSocket

/-! ## The calls of a peer -/

namespace Address

/-- A sender that cannot be told is shown as one without a name. -/
theorem text_determined? (a : Address) : (a.determined?.getD .unnamed).text = a.text := by
  cases a <;> rfl

/-- An address that does not tell where it belongs has the text that stands for that. -/
theorem text?_determined?_or (a : Address) :
    (a.determined?.bind text?).or (some a.text) = some a.text := by
  cases a <;> rfl

end Address

namespace Attached

variable {κ : Type}

/-- The socket is the peer for a datagram from `origin`. -/
def IsPeer (a : Attached κ) (origin : Option Address) : Prop :=
  ∃ pending, a.socket.role = .peer origin pending

variable [Kernel κ] {a : Attached κ} {origin : Option Address} {data : Bytes}

/-- `recvFrom` of a peer that holds its datagram brings it, cut to the size. -/
theorem recvFrom_of_pending (h : a.socket.role = .peer origin (some data)) (n : Nat) :
    a.recvFrom n = (.ok (data.take n, origin.bind Address.text?), a.delivered origin) := by
  unfold recvFrom
  rw [h]

/-- `recvFrom` of a peer that has given its datagram away would have to wait. -/
theorem recvFrom_of_delivered (h : a.socket.role = .peer origin none) (n : Nat) :
    a.recvFrom n = (.error (.bare .wouldBlock), a) := by
  unfold recvFrom
  rw [h]

/-- `send` of a peer goes to whom its datagram came from. -/
theorem send_of_named {name : Address} {pending : Option Bytes}
    (h : a.socket.role = .peer (some name) pending) (ch : Channel) (data : Bytes) :
    a.send ch data = a.reply (Kernel.sendTo a.host a.socket.descriptor name data) := by
  unfold send
  rw [h]

/-- `send` of a peer whose datagram came from nobody fails. -/
theorem send_of_unnamed {pending : Option Bytes} (h : a.socket.role = .peer none pending)
    (ch : Channel) (data : Bytes) :
    a.send ch data = (.error (.described .addrNotAvailable "datagram origin is unknown"), a) := by
  unfold send
  rw [h]

end Attached

namespace Client

variable {κ φ : Type} [Framer φ] {c c' c'' : Client (Attached κ)}
  {origin : Option Address} {f : φ} {ch : Channel}

/-! ## Reads -/

/-- From `c` to `c'` the operating system stayed as it was, and so did the peer but for its
    datagram. -/
structure SamePeer (origin : Option Address) (c c' : Client (Attached κ)) : Prop where
  host : c'.socket.host = c.socket.host
  descriptor : c'.socket.socket.descriptor = c.socket.socket.descriptor
  role : c.socket.IsPeer origin → c'.socket.IsPeer origin
  remote : c'.remote = c.remote
  bufferSize : c'.bufferSize = c.bufferSize

namespace SamePeer

/-- `Booked` steps leave the `SamePeer`. -/
theorem of_booked (h : Booked c c') : SamePeer origin c c' where
  host := by rw [h.socket]
  descriptor := by rw [h.socket]
  role hpeer := by rw [h.socket]; exact hpeer
  remote := h.remote
  bufferSize := h.bufferSize

/-- Doing nothing leaves the `SamePeer`. -/
theorem refl (c : Client (Attached κ)) : SamePeer origin c c := of_booked (.refl c)

/-- `SamePeer` steps can be taken one after the other. -/
theorem trans (h : SamePeer origin c c') (h' : SamePeer origin c' c'') :
    SamePeer origin c c'' where
  host := h'.host.trans h.host
  descriptor := h'.descriptor.trans h.descriptor
  role hpeer := h'.role (h.role hpeer)
  remote := h'.remote.trans h.remote
  bufferSize := h'.bufferSize.trans h.bufferSize

/-- `keep` leaves the `SamePeer`. -/
theorem keep (c : Client (Attached κ)) (ch : Channel) (rest : Bytes) (from? : Option String) :
    SamePeer origin c (c.keep ch rest from?) := by
  unfold Client.keep
  split
  · exact refl c
  · exact ⟨rfl, rfl, id, rfl, rfl⟩

/-- `replay` leaves the `SamePeer`. -/
theorem replay (c : Client (Attached κ)) (f : φ) (ch : Channel) :
    SamePeer origin c (c.replay f ch).1 := by
  unfold Client.replay
  split
  · exact refl c
  · rename_i left leftovers _
    have htaken : SamePeer origin c { c with leftovers } := ⟨rfl, rfl, id, rfl, rfl⟩
    exact htaken.trans (keep _ _ _ _)

/-- `feed` leaves the `SamePeer`. -/
theorem feed (c : Client (Attached κ)) (f : φ) (ch : Channel) (data : Bytes)
    (from? : Option String) : SamePeer origin c (c.feed f ch data from?).1 :=
  keep c ch _ _

variable [Kernel κ]

/-- The datagram of a peer is delivered to a framer, or there is none any more. -/
theorem receiveDatagram (hpeer : c.socket.IsPeer origin) (now : Duration) (f : φ) :
    SamePeer origin c (c.receiveDatagram now f).1.2 := by
  obtain ⟨pending, hrole⟩ := hpeer
  cases pending with
  | none =>
    rw [receiveDatagram_error now f (Attached.recvFrom_of_delivered hrole c.bufferSize)]
    exact refl c
  | some data =>
    -- What delivers the datagram is the peer itself, and not its descriptor
    have hrecv : Endpoint.recvFrom c.socket c.bufferSize = _ :=
      Attached.recvFrom_of_pending hrole c.bufferSize
    have hdelivered : SamePeer origin c { c with socket := c.socket.delivered origin } :=
      ⟨rfl, rfl, fun _ => ⟨none, rfl⟩, rfl, rfl⟩
    have hfed := hdelivered.trans
      (feed _ f .regular (data.take c.bufferSize) (origin.bind Address.text?))
    rw [receiveDatagram_ok now hrecv rfl]
    split
    · rename_i e c' htrack
      exact hfed.trans (.of_booked (.trackReceive htrack))
    · rename_i c' htrack
      have htold := hfed.trans (.of_booked (.trackReceive htrack))
      split
      · exact htold.trans (.of_booked (.finishRead c'))
      · exact htold.trans (.of_booked (.finishRead c'))

/-- A read of a peer leaves the operating system alone. -/
theorem readDatagram (hpeer : c.socket.IsPeer origin) (now : Clock) (f : φ) (ch : Channel) :
    SamePeer origin c (c.readDatagram now f ch).1.2 := by
  unfold Client.readDatagram
  split
  · exact refl c
  · have hanchored : SamePeer origin c (c.anchorReceive now.first) :=
      .of_booked (.anchorReceive c now.first)
    -- Neither the books nor the leftovers are part of what makes the peer
    have hreplayed := hanchored.trans (replay (c.anchorReceive now.first) f .regular)
    dsimp only
    split
    · exact hanchored.trans (.of_booked (.finishRead _))
    · split
      · exact hreplayed.trans (.of_booked (.finishRead _))
      · exact hreplayed.trans (receiveDatagram (hreplayed.role hpeer) now.later.first _)

end SamePeer

/-- An anchored watchdog that is told of a first datagram: it is calm, or it measures the time
    between the two readings of the clock. -/
theorem trackReceive_of_anchored {watch : Option (Watchdog Float)} {now : Clock}
    (hwatch : c.receiveWatch = anchored watch (c.elapsed now.first))
    (hfresh : ∀ d, watch = some d → d.window = none) (bytes : Nat) :
    (∃ told, c.trackReceive now.later.first bytes = (.ok (), told)) ∨
      ∃ d speed duration told, watch = some d ∧
        c.trackReceive now.later.first bytes =
          (.error (.slowTransfer .receive speed duration), told) ∧
        d.maxDuration < duration ∧
        Watchdog.Passes (fun i => c.elapsed (now i)) 1 duration := by
  cases watch with
  | none => exact .inl ⟨c, trackReceive_of_none hwatch _ _⟩
  | some d =>
    have hnone := hfresh d rfl
    let times : Nat → Float := fun i => c.elapsed (now i)
    let opened : Watchdog Float := (d.sample (times 0) 0).1
    have hopened : c.receiveWatch = some opened := by
      rw [hwatch]
      show some (if d.window.isSome then d else _) = _
      rw [hnone]
      rfl
    -- The first reading opens the window, and only the second one can raise an alarm
    have hgoes : opened.GoesBy times 0 := Watchdog.goesBy_first hnone times 0
    cases halarm : (opened.sample (times 1) bytes).2 with
    | none => exact .inl ⟨_, trackReceive_of_calm hopened halarm⟩
    | some alarm =>
      obtain ⟨hlimit, hpasses⟩ := hgoes.alarm halarm
      have hmax : opened.maxDuration = d.maxDuration :=
        congrArg Prod.snd (d.limits_sample (times 0) 0)
      exact .inr ⟨d, alarm.speed, alarm.duration, _, rfl,
        trackReceive_of_alarm hopened halarm, hmax ▸ hlimit, hpasses⟩

variable [Kernel κ]

/-- The first read of a peer, by a framer of one chunk: the frame is the datagram, from its
    sender, unless the receive watchdog is alarmed by the time between the two readings of the
    clock.  Either way the datagram is gone, and nothing is left over. -/
theorem readDatagram_pending {data : Bytes} {sender : String}
    (hrole : c.socket.socket.role = .peer origin (some data))
    (hsender : (origin.bind Address.text?).or c.remote = some sender)
    (hleft : c.leftovers.get .regular = none)
    (hfresh : ∀ d, c.receiveWatch = some d → d.window = none) (now : Clock) :
    let read := c.readDatagram now Framer.SingleChunk.start .regular
    (read.1.1 = .ok (.complete ⟨data.take c.bufferSize, some sender⟩) ∨
        ∃ d speed duration, c.receiveWatch = some d ∧
          read.1.1 = .error (.slowTransfer .receive speed duration) ∧
          d.maxDuration < duration ∧
          Watchdog.Passes (fun i => c.elapsed (now i)) 1 duration) ∧
      read.1.2.socket = c.socket.delivered origin ∧ read.1.2.leftovers = c.leftovers := by
  intro read
  let fed : Client (Attached κ) :=
    { c.anchorReceive now.first with socket := c.socket.delivered origin }
  have hreplay : (c.anchorReceive now.first).replay Framer.SingleChunk.start .regular =
      (c.anchorReceive now.first, Framer.SingleChunk.start) := by
    have hnone : (c.anchorReceive now.first).leftovers.get .regular = none := hleft
    simp only [replay, Leftovers.take, hnone]
  have hrecv : Endpoint.recvFrom (c.anchorReceive now.first).socket c.bufferSize = _ :=
    Attached.recvFrom_of_pending hrole c.bufferSize
  have hfeed : fed.feed Framer.SingleChunk.start .regular (data.take c.bufferSize)
      (origin.bind Address.text?) = (fed, ⟨some (data.take c.bufferSize), some sender⟩) := by
    have hfrom : (origin.bind Address.text?).or fed.remote = some sender := hsender
    rw [feed, hfrom]
    rfl
  -- All that is open is what the watchdog says to the datagram
  have hanchored : fed.receiveWatch = anchored c.receiveWatch (fed.elapsed now.first) := rfl
  rcases trackReceive_of_anchored hanchored hfresh (data.take c.bufferSize).length with
    ⟨told, htrack⟩ | ⟨d, speed, duration, told, hwatch, htrack, hlimit, hpasses⟩
  · have hread : read = _ := readDatagram_of_complete rfl hreplay rfl hrecv hfeed htrack rfl
    have hbooked := Booked.trackReceive htrack
    rw [hread]
    exact ⟨.inl rfl, hbooked.socket, hbooked.leftovers⟩
  · have hread : read = _ := readDatagram_of_alarm rfl hreplay rfl hrecv hfeed htrack
    have hbooked := Booked.trackReceive htrack
    rw [hread]
    exact ⟨.inr ⟨d, speed, duration, hwatch, rfl, hlimit, hpasses⟩, hbooked.socket,
      hbooked.leftovers⟩

/-- A read of a peer whose datagram has been delivered finds nothing: the framer is left as it
    was, and a frame comes of it only if it was complete already. -/
theorem readDatagram_delivered (hrole : c.socket.socket.role = .peer origin none)
    (hleft : c.leftovers.get .regular = none) (now : Clock) (f : φ) :
    Booked c (c.readDatagram now f .regular).1.2 ∧ (c.readDatagram now f .regular).2 = f ∧
      (c.readDatagram now f .regular).1.1 = .ok (if Framer.isComplete f then
        .complete (Framer.frame f) else .unfinished (Framer.frame f)) := by
  have hanchored := Booked.anchorReceive c now.first
  have hreplay : (c.anchorReceive now.first).replay f .regular =
      (c.anchorReceive now.first, f) := by
    have hnone : (c.anchorReceive now.first).leftovers.get .regular = none := hleft
    simp only [replay, Leftovers.take, hnone]
  -- The peer holds nothing, so it would have to wait, and the frame is left as it was
  have hreceive : (c.anchorReceive now.first).receiveDatagram now.later.first f =
      ((c.anchorReceive now.first).unfinished f, f) := by
    rw [receiveDatagram_error now.later.first f
      (Attached.recvFrom_of_delivered hrole c.bufferSize)]
    rfl
  rw [readDatagram, if_neg (by decide)]
  dsimp only
  by_cases hdone : Framer.isComplete f = true
  · rw [if_pos hdone, if_pos hdone]
    exact ⟨hanchored.trans (.finishRead _), rfl, rfl⟩
  · rw [if_neg hdone, if_neg hdone, hreplay]
    dsimp only
    rw [if_neg hdone, hreceive]
    exact ⟨hanchored, rfl, rfl⟩

/-! ## Writes -/

/-- From `c` to `c'` nothing changed that a read looks at, but for the operating system. -/
structure SameReader (c c' : Client (Attached κ)) : Prop where
  socket : c'.socket.socket = c.socket.socket
  remote : c'.remote = c.remote
  bufferSize : c'.bufferSize = c.bufferSize
  leftovers : c'.leftovers = c.leftovers
  receiveWatch : c'.receiveWatch = c.receiveWatch

namespace SameReader

omit [Kernel κ] in
/-- `SameReader` steps can be taken one after the other. -/
theorem trans (h : SameReader c c') (h' : SameReader c' c'') : SameReader c c'' where
  socket := h'.socket.trans h.socket
  remote := h'.remote.trans h.remote
  bufferSize := h'.bufferSize.trans h.bufferSize
  leftovers := h'.leftovers.trans h.leftovers
  receiveWatch := h'.receiveWatch.trans h.receiveWatch

/-- Sending touches the operating system alone. -/
theorem send {ch : Channel} {data : Bytes} {answer : Except IoError Nat} {a : Attached κ}
    (h : Endpoint.send c.socket ch data = (answer, a)) :
    SameReader c { c with socket := a } := by
  refine ⟨?_, rfl, rfl, rfl, rfl⟩
  have ha : (c.socket.send ch data).2 = a := congrArg Prod.snd h
  rw [← ha]
  unfold Attached.send
  split <;> rfl

/-- Everything that a write does leaves the `SameReader`. -/
theorem keptByWriting : KeptByWriting (SameReader (κ := κ)) where
  trans := trans
  books _ _ _ _ := ⟨rfl, rfl, rfl, rfl, rfl⟩
  send := send
  failed hsend := (send hsend).trans (by
    unfold Client.sendError
    split <;> exact ⟨rfl, rfl, rfl, rfl, rfl⟩)

/-- A write leaves everything to the reads behind it. -/
theorem writeDatagram (c : Client (Attached κ)) (now : Clock) (data : Bytes) (ch : Channel) :
    SameReader c (c.writeDatagram now data ch).2 :=
  keptByWriting.writeDatagram c now data ch

end SameReader

/-- The sending of a peer whose sender has no name fails, and does not touch the operating
    system. -/
theorem sendDatagram_unnamed {pending : Option Bytes}
    (hrole : c.socket.socket.role = .peer none pending) (now : Duration) (data : Bytes) :
    ∃ e, (c.sendDatagram now data).1 = .error e ∧
      (c.sendDatagram now data).2.socket = c.socket := by
  rw [sendDatagram_error now (Attached.send_of_unnamed hrole .regular data)]
  exact ⟨_, rfl, rfl⟩

/-- A write to a sender without a name fails. -/
theorem writeDatagram_unnamed {pending : Option Bytes}
    (hrole : c.socket.socket.role = .peer none pending) (now : Clock) (data : Bytes)
    (ch : Channel) :
    ∃ e, (c.writeDatagram now data ch).1 = .error e ∧
      (c.writeDatagram now data ch).2.socket = c.socket := by
  unfold writeDatagram
  split
  · -- What is refused makes no call
    exact ⟨_, rfl, rfl⟩
  · dsimp only
    split
    · exact ⟨_, rfl, rfl⟩
    · exact sendDatagram_unnamed (c := c.anchorSend now.first) hrole now.later.first data

end Client

/-- From `h` to `h'` a datagram was offered to `target` through a descriptor, and again as long
    as the call was interrupted, and nothing else was done. -/
inductive Kernel.Offers {κ : Type} [Kernel κ] (d : Nat) (target : Address) (data : Bytes) :
    κ → κ → Prop
  | none (h : κ) : Offers d target data h h
  | once (h : κ) : Offers d target data h (sendTo h d target data).2
  | again {h h' : κ} {e : IoError} (he : (sendTo h d target data).1 = .error e)
      (hi : e.isInterrupted = true) (hrest : Offers d target data (sendTo h d target data).2 h') :
      Offers d target data h h'

namespace Client

variable {κ : Type} [Kernel κ] {c : Client (Attached κ)} {name : Address}
  {pending : Option Bytes}

/-- One sending call of a peer is one `Kernel.sendTo` to the sender of its datagram. -/
theorem send_eq_sendTo {data : Bytes} {answer : Except IoError Nat} {a : Attached κ}
    (hrole : c.socket.socket.role = .peer (some name) pending)
    (hsend : Endpoint.send c.socket .regular data = (answer, a)) :
    (Kernel.sendTo c.socket.host c.socket.socket.descriptor name data).1 = answer ∧
      (Kernel.sendTo c.socket.host c.socket.socket.descriptor name data).2 = a.host ∧
      a.socket = c.socket.socket := by
  have heq := (Attached.send_of_named hrole .regular data).symm.trans hsend
  exact ⟨congrArg Prod.fst heq, congrArg (·.2.host) heq, (congrArg (·.2.socket) heq).symm⟩

/-- The sending of a peer offers the data to the sender of its datagram, and to nobody else. -/
theorem offers_sendDatagram (hrole : c.socket.socket.role = .peer (some name) pending)
    (now : Duration) (data : Bytes) :
    Kernel.Offers c.socket.socket.descriptor name data c.socket.host
      (c.sendDatagram now data).2.socket.host := by
  -- Every turn of the loop makes one call
  have honce : ∀ {c : Client (Attached κ)} {answer : Except IoError Nat} {a b : Attached κ},
      c.socket.socket.role = .peer (some name) pending →
      Endpoint.send c.socket .regular data = (answer, a) → b = a →
      Kernel.Offers c.socket.socket.descriptor name data c.socket.host b.host := by
    intro c answer a b hrole hsend hb
    rw [hb, ← (send_eq_sendTo hrole hsend).2.1]
    exact .once _
  fun_induction sendDatagram c now data with
  | case1 c sent a hsend c₁ hsent e c₂ htrack =>
    exact honce hrole hsend (Booked.trackSend htrack).socket
  | case2 c sent a hsend c₁ hsent c₂ htrack =>
    exact honce (b := c₂.finishSend.socket) hrole hsend (Booked.trackSend htrack).socket
  | case3 c sent a hsend c₁ hsent => exact honce hrole hsend (Booked.stalled c₁ _).socket
  | case4 c e a hsend c' hblocked => exact honce hrole hsend (Booked.stalled c' _).socket
  | case5 c e a hsend c' hblocked hi ih =>
    obtain ⟨hanswer, hhost, hsocket⟩ := send_eq_sendTo hrole hsend
    refine .again hanswer hi ?_
    rw [hhost, ← hsocket]
    exact ih (by rw [← hrole, ← hsocket])
  | case6 c e a hsend c' hblocked hi => exact honce hrole hsend (socket_sendError c' e)

/-- A write of a peer offers the data to the sender of its datagram, and to nobody else. -/
theorem offers_writeDatagram (hrole : c.socket.socket.role = .peer (some name) pending)
    (now : Clock) (data : Bytes) (ch : Channel) :
    Kernel.Offers c.socket.socket.descriptor name data c.socket.host
      (c.writeDatagram now data ch).2.socket.host := by
  unfold writeDatagram
  split
  · exact .none _
  · dsimp only
    split
    · exact .none _
    · exact offers_sendDatagram (c := c.anchorSend now.first) hrole now.later.first data

end Client

end FrameSocket
