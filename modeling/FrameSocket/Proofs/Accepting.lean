import FrameSocket.Server.Datagram
import FrameSocket.Socket.DatagramKernel

/-!
# Reads of a datagram server

A read of the server looks at the datagram in front and then takes it.  Where datagrams are
delivered as `DatagramKernel` says, it never drops one: it makes a peer of the datagram that it
takes, with a descriptor of its own, or it takes nothing.

## Key results

- `accepts_accept`: a read takes the datagram in front, or none
- `accept_of_peeked`: when it takes one
-/

namespace FrameSocket

namespace DatagramServer

open DatagramKernel (waiting Serves)

variable {κ : Type} [Kernel κ] [DatagramKernel κ]

/-- What a read of the server comes to: a peer is made of the datagram in front, or nothing is
    taken. -/
inductive Accepts (s : DatagramServer) (ds : List Nat) (h : κ) : Accepting κ → Prop
  | accepted {first : Datagram} {rest : List Datagram} {peer : Socket} {next : κ}
      (hqueue : waiting h s.socket.descriptor = first :: rest)
      (hrole : peer.role =
        .peer first.origin.determined? (some (first.data.take s.bufferSize)))
      (hserves : Serves next s.socket.transport (peer.descriptor :: ds))
      (hrest : waiting next s.socket.descriptor = rest) :
      Accepts s ds h (.ok (.accepted first.origin.text peer), next)
  | nothing {answer : Except NetworkError (Incoming Socket)} {next : κ}
      (hanswer : ∀ remote peer, answer ≠ .ok (.accepted remote peer))
      (hserves : Serves next s.socket.transport ds)
      (hqueue : waiting next s.socket.descriptor = waiting h s.socket.descriptor) :
      Accepts s ds h (answer, next)

variable {s : DatagramServer} {ds : List Nat} {h h' : κ}

/-- A call that took nothing may have come before the read. -/
theorem Accepts.of_waiting {r : Accepting κ} (hr : s.Accepts ds h' r)
    (hqueue : waiting h' s.socket.descriptor = waiting h s.socket.descriptor) :
    s.Accepts ds h r := by
  cases hr with
  | accepted hcons hrole hserves hrest =>
    exact .accepted (hqueue.symm.trans hcons) hrole hserves hrest
  | nothing hanswer hserves hsame => exact .nothing hanswer hserves (hsame.trans hqueue)

/-- `peerFor` makes a peer with a descriptor of its own, and leaves the queue alone. -/
theorem peerFor_eq (hh : Serves h s.socket.transport ds) (hd : s.socket.descriptor ∈ ds)
    (origin : Option Address) (payload : Bytes) :
    ∃ peer next, s.socket.peerFor h origin payload = (.ok peer, next) ∧
      peer.role = .peer origin (some payload) ∧
      Serves next s.socket.transport (peer.descriptor :: ds) ∧
      waiting next s.socket.descriptor = waiting h s.socket.descriptor := by
  obtain ⟨d, more, hduplicate, hmore, hsame⟩ := DatagramKernel.duplicate_ok hh hd
  -- The new socket's handle is counted last
  obtain ⟨hserves, hcounted⟩ := DatagramKernel.setNextId_keeps hmore
    (List.mem_cons_of_mem d hd) (Kernel.nextId more + 1)
  refine ⟨⟨⟨Kernel.nextId more⟩, d, s.socket.transport, .peer origin (some payload)⟩,
    Kernel.setNextId more (Kernel.nextId more + 1), ?_, rfl, hserves, hcounted.trans hsame⟩
  rw [Socket.peerFor, hduplicate]
  rfl

/-- The datagram in front, which was just seen, is taken, and a peer made of it. -/
theorem take_eq (hh : Serves h s.socket.transport ds) (hd : s.socket.descriptor ∈ ds)
    {origin : Address} {next : κ} {first : Datagram} {rest : List Datagram}
    (hpeek : Kernel.peekFrom h s.socket.descriptor = (.ok origin, next))
    (hqueue : waiting next s.socket.descriptor = first :: rest) :
    ∃ peer last, s.take next = (.ok (.accepted first.origin.text peer), last) ∧
      peer.role = .peer first.origin.determined? (some (first.data.take s.bufferSize)) ∧
      Serves last s.socket.transport (peer.descriptor :: ds) ∧
      waiting last s.socket.descriptor = rest := by
  obtain ⟨taken, hrecv, hserves, hrest⟩ :=
    DatagramKernel.recvFrom_of_peeked hh hd hpeek hqueue s.bufferSize
  -- Making the peer takes nothing from the queue
  obtain ⟨peer, last, hpeer, hrole, hmore, hsame⟩ := peerFor_eq hserves hd
    first.origin.determined? (first.data.take s.bufferSize)
  refine ⟨peer, last, ?_, hrole, hmore, hsame.trans hrest⟩
  rw [take, hrecv]
  dsimp only
  rw [hpeer]

/-- Looking at a datagram that is there tells who sent it, and leaves it there.  Whoever it is
    is known, or it is a Unix socket. -/
theorem of_peekFrom (hh : Serves h s.socket.transport ds) (hd : s.socket.descriptor ∈ ds)
    {origin : Address} {next : κ}
    (hpeek : Kernel.peekFrom h s.socket.descriptor = (.ok origin, next)) :
    ∃ first rest, waiting h s.socket.descriptor = first :: rest ∧
      waiting next s.socket.descriptor = first :: rest ∧ origin = first.origin ∧
      (origin.determined?.isSome || s.socket.transport.isUnix) = true := by
  obtain ⟨first, rest, hqueue, rfl⟩ := DatagramKernel.peekFrom_first hh hd hpeek
  have hsame := (DatagramKernel.peekFrom_keeps hh hd).2
  rw [hpeek] at hsame
  refine ⟨first, rest, hqueue, hsame.trans hqueue, rfl, ?_⟩
  -- Either the origin has a name, or the socket is a Unix one
  rcases DatagramKernel.origin_known hh hd first (hqueue ▸ List.mem_cons_self) with hnamed | hunix
  · rw [Address.determined?_eq_some_iff.mpr ⟨rfl, hnamed⟩]
    rfl
  · rw [hunix, Bool.or_true]

/-- A read takes the datagram in front, or none. -/
theorem accepts_accept (hh : Serves h s.socket.transport ds) (hd : s.socket.descriptor ∈ ds) :
    s.Accepts ds h (s.accept h) := by
  have hkeeps : ∀ {h next : κ} {answer : Except IoError Address},
      Serves h s.socket.transport ds →
      Kernel.peekFrom h s.socket.descriptor = (answer, next) →
      Serves next s.socket.transport ds ∧
        waiting next s.socket.descriptor = waiting h s.socket.descriptor := by
    intro h next answer hh hpeek
    obtain rfl : _ = next := congrArg Prod.snd hpeek
    exact DatagramKernel.peekFrom_keeps hh hd
  fun_induction accept s h with
  | case1 h origin next hpeek hknown =>
    obtain ⟨first, rest, hqueue, hseen, -, -⟩ := of_peekFrom hh hd hpeek
    obtain ⟨peer, last, htake, hrole, hpeer, hrest⟩ := take_eq hh hd hpeek hseen
    rw [htake]
    exact .accepted hqueue hrole hpeer hrest
  | case2 h origin next hpeek hunknown =>
    -- Nobody unknown is in front, so that `reject` is never called
    obtain ⟨-, -, -, -, -, hknown⟩ := of_peekFrom hh hd hpeek
    exact absurd hknown hunknown
  | case3 h e next hpeek hblocked =>
    obtain ⟨hserves, hsame⟩ := hkeeps hh hpeek
    exact .nothing nofun hserves hsame
  | case4 h e next hpeek hblocked hinterrupted ih =>
    -- The call is made again, and what waits is still the same
    obtain ⟨hserves, hsame⟩ := hkeeps hh hpeek
    exact (ih hserves).of_waiting hsame
  | case5 h e next hpeek hblocked hinterrupted =>
    obtain ⟨hserves, hsame⟩ := hkeeps hh hpeek
    exact .nothing nofun hserves hsame

/-- A datagram that is seen is accepted. -/
theorem accept_of_peeked (hh : Serves h s.socket.transport ds) (hd : s.socket.descriptor ∈ ds)
    {origin : Address} {next : κ}
    (hpeek : Kernel.peekFrom h s.socket.descriptor = (.ok origin, next)) :
    ∃ first rest peer last, waiting h s.socket.descriptor = first :: rest ∧
      s.accept h = (.ok (.accepted first.origin.text peer), last) := by
  obtain ⟨first, rest, hqueue, hseen, -, hknown⟩ := of_peekFrom hh hd hpeek
  obtain ⟨peer, last, htake, -⟩ := take_eq hh hd hpeek hseen
  refine ⟨first, rest, peer, last, hqueue, ?_⟩
  rw [accept]
  split
  · -- The peek that the server makes is the one that is known
    rename_i origin' next' hpeek'
    cases hpeek.symm.trans hpeek'
    rw [if_pos hknown]
    exact htake
  · rename_i e next' hpeek'
    cases hpeek.symm.trans hpeek'

end DatagramServer

end FrameSocket
