import FrameSocket.Socket.Endpoint

/-!
# Sockets that follow a script

A socket whose answers are written down beforehand: what it receives, how much
it accepts of what is sent, and what peeks and errors it reports.  It keeps a
record of the calls made on it and of the bytes it accepted, so that a run of a
client can be looked at afterwards.
-/

namespace FrameSocket

/-- What a scripted socket has to deliver. -/
inductive ScriptedItem where
  | data (bytes : Bytes) (origin : Option String)
  /-- The other side has closed.  A stream stays closed, so receiving from one
  does not use this item up. -/
  | closed
  | fails (error : IoError)
  deriving DecidableEq, Repr

/-- The calls of an endpoint, with the size of the buffer or data offered. -/
inductive EndpointCall where
  | remoteAddress
  | takeError
  | recv (ch : Channel) (size : Nat)
  | recvFrom (size : Nat)
  | peek (ch : Channel)
  | send (ch : Channel) (size : Nat)
  deriving DecidableEq, Repr

/-- A socket that answers from a script. -/
structure ScriptedSocket where
  id : SocketId
  transport : Transport
  /-- What is answered for the peer's address. -/
  peer : Except IoError (Option String)
  /-- What asking for the pending error fails with, once. -/
  takeErrorFails : Option IoError := none
  /-- The pending error, reported once. -/
  pendingError : Option IoError := none
  rx : List ScriptedItem := []
  rxUrgent : List ScriptedItem := []
  /-- Answers of sends: how much is accepted, or an error.  Without a script
  everything is accepted. -/
  tx : List (Except IoError Nat) := []
  /-- Answers of peeks.  Without a script the queues are looked at. -/
  peeks : List (Except IoError Nat) := []
  /-- The calls made so far, the latest first. -/
  calls : List EndpointCall := []
  /-- The bytes accepted so far on the regular channel. -/
  sent : Bytes := []
  /-- The bytes accepted so far on the urgent channel. -/
  sentUrgent : Bytes := []

namespace ScriptedSocket

/-- Puts a call on record. -/
def record (s : ScriptedSocket) (call : EndpointCall) : ScriptedSocket :=
  { s with calls := call :: s.calls }

/-- The items that a channel has to deliver. -/
def queue (s : ScriptedSocket) : Channel → List ScriptedItem
  | .regular => s.rx
  | .urgent => s.rxUrgent

/-- Puts a script into the place of the one for a channel. -/
def setQueue (s : ScriptedSocket) (ch : Channel) (items : List ScriptedItem) : ScriptedSocket :=
  match ch with
  | .regular => { s with rx := items }
  | .urgent => { s with rxUrgent := items }

/-- Receives from a queue: as much of the first item as fits, the rest of which
stays in front. -/
def recvItem (size : Nat) : List ScriptedItem → Except IoError Bytes × List ScriptedItem
  | [] => (.error (.bare .wouldBlock), [])
  | .closed :: items => (.ok [], .closed :: items)
  | .fails e :: items => (.error e, items)
  | .data bytes origin :: items =>
    if bytes.length ≤ size then (.ok bytes, items)
    else (.ok (bytes.take size), .data (bytes.drop size) origin :: items)

/-- Receives one item from a queue as a datagram: what does not fit is dropped,
and a close is a datagram without data or sender. -/
def recvDatagram (size : Nat) :
    List ScriptedItem → Except IoError (Bytes × Option String) × List ScriptedItem
  | [] => (.error (.bare .wouldBlock), [])
  | .closed :: items => (.ok ([], none), items)
  | .fails e :: items => (.error e, items)
  | .data bytes origin :: items => (.ok (bytes.take size, origin), items)

/-- Answers what the script says next, and writes the call down. -/
def recv (s : ScriptedSocket) (ch : Channel) (size : Nat) :
    Except IoError Bytes × ScriptedSocket :=
  let (answer, items) := recvItem size (s.queue ch)
  (answer, (s.record (.recv ch size)).setQueue ch items)

/-- Answers the next datagram of the script, and writes the call down. -/
def recvFrom (s : ScriptedSocket) (size : Nat) :
    Except IoError (Bytes × Option String) × ScriptedSocket :=
  let (answer, items) := recvDatagram size s.rx
  (answer, { s.record (.recvFrom size) with rx := items })

/-- Answers what is scripted for peeks, and behind that what `recv` would find. -/
def peek (s : ScriptedSocket) (ch : Channel) : Except IoError Nat × ScriptedSocket :=
  let s := s.record (.peek ch)
  match s.peeks with
  | answer :: peeks => (answer, { s with peeks })
  | [] => match s.queue ch with
    | .data (_ :: _) _ :: _ => (.ok 1, s)
    | _ => (.error (.bare .wouldBlock), s)

/-- Accepts bytes on a channel. -/
def accept (s : ScriptedSocket) (ch : Channel) (data : Bytes) : ScriptedSocket :=
  match ch with
  | .regular => { s with sent := s.sent ++ data }
  | .urgent => { s with sentUrgent := s.sentUrgent ++ data }

/-- Takes what the script says, and everything behind its end. -/
def send (s : ScriptedSocket) (ch : Channel) (data : Bytes) :
    Except IoError Nat × ScriptedSocket :=
  let s := s.record (.send ch data.length)
  match s.tx with
  | [] => (.ok data.length, s.accept ch data)
  | .error e :: tx => (.error e, { s with tx })
  | .ok n :: tx =>
    let accepted := min n data.length
    (.ok accepted, { s with tx }.accept ch (data.take accepted))

/-- Hands out the pending error, once. -/
def takeError (s : ScriptedSocket) : Except IoError (Option IoError) × ScriptedSocket :=
  let s := s.record .takeError
  match s.takeErrorFails with
  | some e => (.error e, { s with takeErrorFails := none })
  | none => (.ok s.pendingError, { s with pendingError := none })

/-- How often an item can bring bytes or an interruption. -/
def itemSupply : ScriptedItem → Nat
  | .data bytes _ => bytes.length + 1
  | .closed => 1
  | .fails _ => 1

/-- How often a queue can bring bytes or an interruption. -/
def queueSupply : List ScriptedItem → Nat
  | [] => 0
  | item :: items => itemSupply item + queueSupply items

/-- `recvItem` adds nothing to the supply of a script. -/
theorem queueSupply_recvItem_le (size : Nat) (items : List ScriptedItem) :
    queueSupply (recvItem size items).2 ≤ queueSupply items := by
  unfold recvItem
  split
  · exact Nat.le_refl _
  · exact Nat.le_refl _
  · simp [queueSupply]
  · split
    · simp [queueSupply]
    · simp only [queueSupply, itemSupply, List.length_drop]
      omega

/-- `recvItem` takes what it brings from the supply. -/
theorem queueSupply_recvItem_data {size : Nat} {items : List ScriptedItem} {data : Bytes}
    (h : (recvItem size items).1 = .ok data) (hn : data ≠ []) :
    queueSupply (recvItem size items).2 < queueSupply items := by
  unfold recvItem at h ⊢
  split at h
  · exact nomatch h
  · simp only [Except.ok.injEq] at h
    exact absurd h.symm hn
  · exact nomatch h
  · split at h
    · rename_i bytes origin items hl
      simp only [queueSupply, itemSupply, if_pos hl]
      omega
    · -- only the front of the item is read: something of it was asked for
      rename_i bytes origin items hl
      simp only [Except.ok.injEq] at h
      have hs : size ≠ 0 := by
        rintro rfl
        exact hn (by simpa using h.symm)
      simp only [queueSupply, itemSupply, if_neg hl, List.length_drop]
      omega

/-- An interruption is an item of the script, and `recvItem` takes it away. -/
theorem queueSupply_recvItem_error {size : Nat} {items : List ScriptedItem} {e : IoError}
    (h : (recvItem size items).1 = .error e) (hi : e.isInterrupted = true) :
    queueSupply (recvItem size items).2 < queueSupply items := by
  unfold recvItem at h ⊢
  split at h
  · simp only [Except.error.injEq] at h
    subst h
    exact absurd hi (by decide)
  · exact nomatch h
  · simp [queueSupply, itemSupply]
  · split at h <;> exact nomatch h

/-- `recvItem` keeps to the size that it is given. -/
theorem length_recvItem {size : Nat} {items : List ScriptedItem} {data : Bytes}
    (h : (recvItem size items).1 = .ok data) : data.length ≤ size := by
  unfold recvItem at h
  split at h
  · exact nomatch h
  · simp only [Except.ok.injEq] at h
    simp [← h]
  · exact nomatch h
  · -- A chunk that does not fit is cut
    split at h
    · simp only [Except.ok.injEq] at h
      subst h; assumption
    · simp only [Except.ok.injEq] at h
      simp only [← h, List.length_take]
      omega

/-- An interruption is an item of the script, and `recvDatagram` takes it away. -/
theorem queueSupply_recvDatagram_error {size : Nat} {items : List ScriptedItem} {e : IoError}
    (h : (recvDatagram size items).1 = .error e) (hi : e.isInterrupted = true) :
    queueSupply (recvDatagram size items).2 < queueSupply items := by
  unfold recvDatagram at h ⊢
  split at h
  · simp only [Except.error.injEq] at h
    subst h
    exact absurd hi (by decide)
  · exact nomatch h
  · simp [queueSupply, itemSupply]
  · exact nomatch h

/-- How often receiving can bring bytes or an interruption. -/
def supply (s : ScriptedSocket) : Nat := queueSupply s.rx + queueSupply s.rxUrgent

/-- `recv` changes the supply by what it takes from the script of its channel. -/
theorem supply_recv (s : ScriptedSocket) (ch : Channel) (size : Nat) :
    (s.recv ch size).2.supply + queueSupply (s.queue ch)
      = s.supply + queueSupply (recvItem size (s.queue ch)).2 := by
  cases ch <;> simp only [recv, supply, setQueue, record, queue] <;> omega

/-- `recv` adds nothing to the supply. -/
theorem supply_recv_le (s : ScriptedSocket) (ch : Channel) (size : Nat) :
    (s.recv ch size).2.supply ≤ s.supply := by
  have h := supply_recv s ch size
  have := queueSupply_recvItem_le size (s.queue ch)
  omega

/-- `recv` takes what it brings from the supply. -/
theorem supply_recv_data (s : ScriptedSocket) (ch : Channel) (size : Nat) (data : Bytes)
    (h : (s.recv ch size).1 = .ok data) (hn : data ≠ []) :
    (s.recv ch size).2.supply < s.supply := by
  have hs := supply_recv s ch size
  have : queueSupply (recvItem size (s.queue ch)).2 < queueSupply (s.queue ch) :=
    queueSupply_recvItem_data h hn
  omega

/-- An interrupted `recv` has cost some of the supply. -/
theorem supply_recv_error (s : ScriptedSocket) (ch : Channel) (size : Nat) (e : IoError)
    (h : (s.recv ch size).1 = .error e) (hi : e.isInterrupted = true) :
    (s.recv ch size).2.supply < s.supply := by
  have hs := supply_recv s ch size
  have : queueSupply (recvItem size (s.queue ch)).2 < queueSupply (s.queue ch) :=
    queueSupply_recvItem_error h hi
  omega

/-- `recvFrom` keeps to the size that it is given. -/
theorem length_recvFrom (s : ScriptedSocket) (size : Nat) (got : Bytes × Option String)
    (h : (s.recvFrom size).1 = .ok got) : got.1.length ≤ size := by
  simp only [recvFrom] at h
  unfold recvDatagram at h
  split at h
  · exact nomatch h
  · simp only [Except.ok.injEq] at h
    simp [← h]
  · exact nomatch h
  · simp only [Except.ok.injEq] at h
    simp only [← h, List.length_take]
    omega

/-- An interrupted `recvFrom` has cost some of the supply. -/
theorem supply_recvFrom_error (s : ScriptedSocket) (size : Nat) (e : IoError)
    (h : (s.recvFrom size).1 = .error e) (hi : e.isInterrupted = true) :
    (s.recvFrom size).2.supply < s.supply := by
  have hq : queueSupply (recvDatagram size s.rx).2 < queueSupply s.rx :=
    queueSupply_recvDatagram_error h hi
  simp only [supply, recvFrom, record]
  omega

/-- `peek` adds nothing to the supply. -/
theorem supply_peek_le (s : ScriptedSocket) (ch : Channel) :
    (s.peek ch).2.supply ≤ s.supply := by
  unfold peek
  dsimp only
  split
  · exact Nat.le_refl _
  · split <;> exact Nat.le_refl _

/-- `send` takes no more than it was given. -/
theorem send_le_length (s : ScriptedSocket) (ch : Channel) (data : Bytes) (n : Nat)
    (h : (s.send ch data).1 = .ok n) : n ≤ data.length := by
  unfold send at h
  dsimp only at h
  split at h
  · simp only [Except.ok.injEq] at h
    omega
  · exact nomatch h
  · simp only [Except.ok.injEq] at h
    omega

/-- A failed `send` has used up an answer of the script. -/
theorem patience_send_error (s : ScriptedSocket) (ch : Channel) (data : Bytes) (e : IoError)
    (h : (s.send ch data).1 = .error e) :
    (s.send ch data).2.tx.length < s.tx.length := by
  have ht : (s.record (.send ch data.length)).tx = s.tx := rfl
  unfold send at h ⊢
  dsimp only at h ⊢
  split at h
  · exact nomatch h
  · -- An error is an answer of the script, which is used up
    rename_i tx htx
    rw [ht] at htx
    simp [htx]
  · exact nomatch h

instance : Endpoint ScriptedSocket where
  id s := s.id
  transport s := s.transport
  remoteAddress s := (s.peer, s.record .remoteAddress)
  takeError := takeError
  recv := recv
  recvFrom := recvFrom
  peek := peek
  send := send
  supply := supply
  patience s := s.tx.length
  length_recv _ _ _ _ := length_recvItem
  supply_recv_le := supply_recv_le
  supply_recv_data := supply_recv_data
  supply_recv_interrupted := supply_recv_error
  length_recvFrom := length_recvFrom
  supply_recvFrom_interrupted := supply_recvFrom_error
  supply_peek_le := supply_peek_le
  send_le_length := send_le_length
  patience_send_interrupted s ch data e h _ := patience_send_error s ch data e h

end ScriptedSocket

end FrameSocket
