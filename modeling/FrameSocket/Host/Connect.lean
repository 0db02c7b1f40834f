import FrameSocket.Host.Traffic

/-!
# Binding, connecting and accepting

The calls of a host that give a socket its name and its use.
-/

namespace FrameSocket.Host

/-- Gives a socket a name.  A Unix name has to be new, and stays taken when its
socket is closed; a port of zero asks for a free one. -/
def bind (h : Host) (d : Nat) (name : Address) : Reply Unit :=
  h.through d fun i s =>
    match name with
    | .unnamed => (.ok (), h)
    | .inet ip 0 =>
      (.ok (), { h.setSocket i { s with name := .inet ip h.nextPort } with
        nextPort := h.nextPort + 1 })
    | .inet ip port => (.ok (), h.setSocket i { s with name := .inet ip port })
    | .path p =>
      if p.toList.contains '/' then (.error .enoent, h)
      else if (h.paths.lookup p).isSome then (.error .eaddrinuse, h)
      else (.ok (), { h.setSocket i { s with name } with paths := h.paths ++ [(p, i)] })

/-- Lets a stream socket wait for connections. -/
def listen (h : Host) (d : Nat) : Reply Unit :=
  h.on d fun s => (.ok (), { s with use := .listening [] })

/-- How many connections wait at most to be accepted. -/
def backlogLimit : Nat := 129

/-- Connects stream socket `i` to the listener `j`. -/
def joinStreams (h : Host) (i : Nat) (s : OsSocket) (j : Nat) (t : OsSocket)
    (backlog : List Nat) : Host :=
  let (h, name) := match s.name with
    | .inet _ _ =>
      ({ h with nextPort := h.nextPort + 1 }, Address.inet .loopback h.nextPort)
    | name => (h, name)
  -- Both ends exist at once; the far one waits in the backlog.
  let (k, h) := h.add { s with name := t.name, use := .stream ⟨i, name, .empty, false, false⟩ }
  let h := h.setSocket i { s with name, use := .stream ⟨k, t.name, .empty, false, false⟩ }
  (h.setSocket j { t with use := .listening (backlog ++ [k]) }).wake j .arrival

/-- The name of a datagram socket after it has been connected. -/
def nameConnected : Address → Address
  | .inet _ port => .inet .loopback port
  | name => name

/-- Connects socket `i` to socket `j`. -/
def join (h : Host) (i : Nat) (s : OsSocket) (j : Nat) : Reply Unit :=
  match h.socket? j with
  | none => (.error .econnrefused, h)
  | some t =>
    match s.use, t.use with
    | .datagram m, .datagram n =>
      let target := n.target.map Prod.fst
      -- On Unix, a socket that has chosen its own peer takes no other
      if s.transport.isUnix = true ∧ target ≠ none ∧ target ≠ some i then (.error .eperm, h)
      else
        let use : Use := .datagram { m with target := some (j, t.name) }
        (.ok (), h.setSocket i { s with name := nameConnected s.name, use })
    | _, .listening backlog =>
      if backlogLimit ≤ backlog.length then (.error .eagain, h)
      else (.ok (), h.joinStreams i s j t backlog)
    | _, _ => (.error .econnrefused, h)

/-- Connects a socket, whatever faults are planted.  Nobody has to be there for
a socket of the internet that sends datagrams. -/
def connectNow (h : Host) (d : Nat) (target : Address) : Reply Unit :=
  h.through d fun i s =>
    match h.find s.transport target with
    | .ok j => h.join i s j
    | .error e =>
      if s.transport = .udp ∧ e = .econnrefused then
        -- The number of no socket: whatever is sent there finds nobody.
        let use : Use := .datagram { target := some (h.sockets.length, target) }
        (.ok (), h.setSocket i { s with name := nameConnected s.name, use })
      else (.error e, h)

/-- Connects a socket. -/
def connect (h : Host) (d : Nat) (target : Address) : Reply Unit :=
  h.unlessFault .connect fun h => h.connectNow d target

/-- Accepts the oldest connection, and answers the descriptor of the new socket
and the name of the one at the other end. -/
def accept (h : Host) (d : Nat) : Reply (Nat × Address) :=
  h.unlessFault .accept fun h => h.through d fun i s =>
    match s.use with
    | .listening (k :: backlog) =>
      let (c, h) := (h.setSocket i { s with use := .listening backlog }).link k
      let name := match (h.socket? k).map OsSocket.peerName with
        | some (.ok name) => name
        | _ => .unnamed
      (.ok (c, name), h)
    | .listening [] => (.error .eagain, h)
    | .datagram _ => (.error .eopnotsupp, h)
    | _ => (.error .einval, h)

/-- `accept` is interrupted only by a fault, which is gone then. -/
theorem accept_interrupted {h : Host} {d : Nat} (he : (h.accept d).1 = .error .eintr) :
    (h.accept d).2.faults.length < h.faults.length := by
  have hl := h.faults_takeFault .accept
  unfold accept at he ⊢
  rcases h.unlessFault_cases .accept _ with ⟨e, hs, hr⟩ | hr <;> rw [hr] at he ⊢
  · -- Only a planned fault interrupts, and it is used up
    rw [hs] at hl
    simp only [Option.toList_some, List.length_singleton] at hl
    dsimp only
    omega
  · rcases (h.takeFault .accept).2.through_cases d _ with ht | ⟨i, s, ht⟩ <;> rw [ht] at he
    · exact nomatch he
    · split at he <;> exact nomatch he

end FrameSocket.Host
