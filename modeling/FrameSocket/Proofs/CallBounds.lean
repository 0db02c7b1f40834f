import FrameSocket.Proofs.Meters
import FrameSocket.Proofs.SocketInvariants
import FrameSocket.Socket.Scripted

/-!
# How many calls an operation makes

A scripted socket has two meters.  Every receiving call that brings bytes or is interrupted
takes an item or some bytes from its queues, and every sending call an answer from its
script, as long as there is one.  A close stays in the queue, but ends the stream; a peek
makes a read look again, but only once.

Empty answers on the regular channel are told from full ones by the other side alone: since
no client offers an empty buffer, each of them has met a close or an empty item.

## Key results

- `isMeter_supply` / `isMeter_answers`: the meters of a scripted socket
- `keeps_stems`: where empty answers come from
- `calls_run`: the calls of one operation, in any state that a client can reach
-/

namespace FrameSocket

/-! ## Scripted sockets -/

namespace ScriptedItem

/-- The bytes that an item holds. -/
def bytes : ScriptedItem → Bytes
  | .data bytes _ => bytes
  | _ => []

/-- A close, or an item that holds no bytes. -/
def isEmpty : ScriptedItem → Bool
  | .data bytes _ => bytes.isEmpty
  | .closed => true
  | .fails _ => false

end ScriptedItem

namespace ScriptedSocket

/-- Each item and each byte is one piece of supply. -/
theorem queueSupply_eq (items : List ScriptedItem) :
    queueSupply items = items.length + (items.flatMap ScriptedItem.bytes).length := by
  induction items with
  | nil => rfl
  | cons item items ih =>
    rw [queueSupply, ih, List.flatMap_cons, List.length_append, List.length_cons]
    cases item <;> simp only [itemSupply, ScriptedItem.bytes, List.length_nil] <;> omega

/-- The supply of a script is its items and their bytes, of both channels. -/
theorem supply_eq (s : ScriptedSocket) : s.supply =
    (s.rx ++ s.rxUrgent).length + ((s.rx ++ s.rxUrgent).flatMap ScriptedItem.bytes).length := by
  rw [supply, queueSupply_eq, queueSupply_eq, List.length_append, List.flatMap_append,
    List.length_append]
  omega

/-- `recvDatagram` adds nothing to the supply of a script. -/
theorem queueSupply_recvDatagram_le (size : Nat) (items : List ScriptedItem) :
    queueSupply (recvDatagram size items).2 ≤ queueSupply items := by
  unfold recvDatagram
  split <;> simp [queueSupply]

/-- `send` leaves the supply as it is. -/
theorem supply_send (s : ScriptedSocket) (ch : Channel) (data : Bytes) :
    (s.send ch data).2.supply = s.supply := by
  unfold send
  dsimp only
  split <;> cases ch <;> rfl

/-- `takeError` leaves the supply as it is. -/
theorem supply_takeError (s : ScriptedSocket) : s.takeError.2.supply = s.supply := by
  unfold takeError
  dsimp only
  split <;> rfl

/-- `takeError` leaves the answers to sends as they are. -/
theorem tx_takeError (s : ScriptedSocket) : s.takeError.2.tx = s.tx := by
  unfold takeError
  dsimp only
  split <;> rfl

/-- `recv` leaves the answers to sends as they are. -/
theorem tx_recv (s : ScriptedSocket) (ch : Channel) (size : Nat) :
    (s.recv ch size).2.tx = s.tx := by
  cases ch <;> rfl

/-- `peek` leaves the answers to sends as they are. -/
theorem tx_peek (s : ScriptedSocket) (ch : Channel) : (s.peek ch).2.tx = s.tx := by
  unfold peek
  dsimp only
  split
  · rfl
  · split <;> rfl

/-- `send` adds nothing to its answers. -/
theorem tx_send_le (s : ScriptedSocket) (ch : Channel) (data : Bytes) :
    (s.send ch data).2.tx.length ≤ s.tx.length := by
  have htx : (s.record (.send ch data.length)).tx = s.tx := rfl
  unfold send
  dsimp only
  split
  · cases ch <;> exact Nat.le_refl _
  · -- One answer of the script is used up
    rename_i hscript
    rw [← htx, hscript]
    exact Nat.le_succ _
  · rename_i hscript
    rw [← htx, hscript]
    cases ch <;> exact Nat.le_succ _

/-- What the queues hold pays for receiving calls. -/
theorem isMeter_supply : Client.IsMeter supply Exchange.isReceive where
  quiet _ hreceive _ := hreceive
  remoteAddress_le _ := Nat.le_refl _
  takeError_le s := Nat.le_of_eq s.supply_takeError
  recv_le := supply_recv_le
  recvFrom_le s n := Nat.add_le_add_right (queueSupply_recvDatagram_le n s.rx) _
  peek_le := supply_peek_le
  send_le s ch data := Nat.le_of_eq (s.supply_send ch data)
  recv_paid s ch n := by
    -- A call is paid for by what it brings, or by the interruption that it uses up
    rintro x (⟨bytes, hof⟩ | hof)
    · obtain ⟨hok, hne⟩ := Client.Received.of_eq_data hof
      have hlt := supply_recv_data s ch n bytes hok hne
      exact Nat.add_comm _ _ ▸ hlt
    · obtain ⟨e, herror, hinterrupted⟩ := Client.Received.of_eq_interrupted hof
      have hlt := supply_recv_error s ch n e herror hinterrupted
      exact Nat.add_comm _ _ ▸ hlt
  recvFrom_paid s n e herror hinterrupted := by
    have hlt := supply_recvFrom_error s n e herror hinterrupted
    exact Nat.add_comm _ _ ▸ hlt
  send_paid s ch data e _ _ := by
    rw [show Exchange.isReceive (.send ch data (.error e)) = false from rfl]
    exact Nat.le_of_eq ((Nat.zero_add _).trans (s.supply_send ch data))

/-- The script of answers pays for interrupted sends. -/
theorem isMeter_answers :
    Client.IsMeter (fun s : ScriptedSocket => s.tx.length) Exchange.isSend where
  quiet _ _ hsend := hsend
  remoteAddress_le _ := Nat.le_refl _
  takeError_le s := Nat.le_of_eq (congrArg List.length s.tx_takeError)
  recv_le s ch n := Nat.le_of_eq (congrArg List.length (s.tx_recv ch n))
  recvFrom_le _ _ := Nat.le_refl _
  peek_le s ch := Nat.le_of_eq (congrArg List.length (s.tx_peek ch))
  send_le := tx_send_le
  -- Receiving leaves the script of sending alone
  recv_paid s ch n := by
    intro x _
    have hsame : (Endpoint.recv s ch n).2.tx = s.tx := s.tx_recv ch n
    rw [hsame]
    exact Nat.le_of_eq (Nat.zero_add _)
  recvFrom_paid _ _ _ _ _ := Nat.le_of_eq (Nat.zero_add _)
  send_paid s ch data e herror _ := by
    have hlt := patience_send_error s ch data e herror
    exact Nat.add_comm _ _ ▸ hlt

/-! Where empty answers come from -/

/-- `recvItem` makes no empty items, and answers no bytes only where the script has one. -/
theorem recvItem_empty {size : Nat} (hsize : 0 < size) (items : List ScriptedItem) :
    (∀ item ∈ (recvItem size items).2, item.isEmpty = true → item ∈ items) ∧
      ((recvItem size items).1 = .ok [] → ∃ item ∈ items, item.isEmpty = true) := by
  unfold recvItem
  split
  · exact ⟨fun _ hitem _ => hitem, nofun⟩
  · exact ⟨fun _ hitem _ => hitem, fun _ => ⟨_, List.mem_cons_self, rfl⟩⟩
  · exact ⟨fun _ hitem _ => List.mem_cons_of_mem _ hitem, nofun⟩
  · rename_i bytes origin items
    split
    · refine ⟨fun _ hitem _ => List.mem_cons_of_mem _ hitem, fun hempty => ?_⟩
      cases hempty
      exact ⟨_, List.mem_cons_self, rfl⟩
    · rename_i hlong
      -- Neither the part that is received nor the rest is empty
      refine ⟨fun item hitem hempty => ?_, fun hempty => ?_⟩
      · rcases List.mem_cons.mp hitem with rfl | hitem
        · simp only [ScriptedItem.isEmpty, List.isEmpty_iff, List.drop_eq_nil_iff] at hempty
          exact absurd hempty hlong
        · exact List.mem_cons_of_mem _ hitem
      · simp only [Except.ok.injEq, List.take_eq_nil_iff] at hempty
        rcases hempty with rfl | rfl
        · exact absurd hsize (Nat.lt_irrefl 0)
        · exact absurd (Nat.zero_le size) hlong

/-- `recvDatagram` makes no items, and brings an empty datagram only where the script has one. -/
theorem recvDatagram_empty {size : Nat} (hsize : 0 < size) (items : List ScriptedItem) :
    (∀ item ∈ (recvDatagram size items).2, item ∈ items) ∧
      ∀ origin, (recvDatagram size items).1 = .ok ([], origin) →
        ∃ item ∈ items, item.isEmpty = true := by
  unfold recvDatagram
  split
  · exact ⟨fun _ hitem => hitem, nofun⟩
  · exact ⟨fun _ hitem => List.mem_cons_of_mem _ hitem, fun _ _ => ⟨_, List.mem_cons_self, rfl⟩⟩
  · exact ⟨fun _ hitem => List.mem_cons_of_mem _ hitem, nofun⟩
  · rename_i bytes origin items
    refine ⟨fun _ hitem => List.mem_cons_of_mem _ hitem, fun origin' hempty => ?_⟩
    simp only [Except.ok.injEq, Prod.mk.injEq, List.take_eq_nil_iff] at hempty
    -- No bytes have come: the buffer has room, so the datagram was empty
    rcases hempty.1 with rfl | rfl
    · exact absurd hsize (Nat.lt_irrefl 0)
    · exact ⟨_, List.mem_cons_self, rfl⟩

/-- As long as no empty buffer is offered: the empty items that are queued were in `rx`, and
    calls on the regular channel that were answered no bytes met one. -/
def Stems (rx : List ScriptedItem) (t : Traced ScriptedSocket) : Prop :=
  (∀ x ∈ t.exchanges, ∀ size, x.buffer? = some size → 0 < size) →
    (∀ item ∈ t.socket.rx, item.isEmpty = true → item ∈ rx) ∧
      ∀ x ∈ t.exchanges, x.isEmptyAnswer = true → ∃ item ∈ rx, item.isEmpty = true

/-- A call that is offered some room keeps `Stems`, if it makes no empty items and brings none. -/
theorem Stems.call {rx : List ScriptedItem} {t t' : Traced ScriptedSocket} {x : Exchange}
    (h : Stems rx t) (hrecord : t'.exchanges = t.exchanges ++ [x])
    (hqueue : (∀ size, x.buffer? = some size → 0 < size) →
      (∀ item ∈ t'.socket.rx, item.isEmpty = true → item ∈ t.socket.rx) ∧
        (x.isEmptyAnswer = true → ∃ item ∈ t.socket.rx, item.isEmpty = true)) : Stems rx t' := by
  intro hbuffers
  rw [hrecord] at hbuffers ⊢
  obtain ⟨hitems, hanswers⟩ := h fun y hy => hbuffers y (List.mem_append_left _ hy)
  obtain ⟨hitems', hanswer⟩ := hqueue (hbuffers x (List.mem_append_right _ List.mem_cons_self))
  refine ⟨fun item hitem hempty => hitems item (hitems' item hitem hempty) hempty,
    fun y hy hend => ?_⟩
  -- An empty answer is an earlier one, or that of the new call
  rcases List.mem_append.mp hy with hy | hy
  · exact hanswers y hy hend
  · rw [List.mem_singleton.mp hy] at hend
    obtain ⟨item, hitem, hempty⟩ := hanswer hend
    exact ⟨item, hitems item hitem hempty, hempty⟩

/-- Every call keeps `Stems`. -/
theorem keeps_stems (rx : List ScriptedItem) : Endpoint.Keeps (Stems rx) where
  remoteAddress t h :=
    h.call (Traced.exchanges_remoteAddress rfl) fun _ => ⟨fun _ hitem _ => hitem, nofun⟩
  takeError t h := by
    refine h.call (Traced.exchanges_takeError rfl) fun _ => ⟨fun item hitem _ => ?_, nofun⟩
    have hsame : t.socket.takeError.2.rx = t.socket.rx := by
      unfold takeError
      dsimp only
      split <;> rfl
    exact hsame ▸ hitem
  recv t ch n h := by
    refine h.call (Traced.exchanges_recv rfl) fun hsize => ?_
    cases ch with
    -- The urgent channel has a script of its own
    | urgent => exact ⟨fun _ hitem _ => hitem, nofun⟩
    | regular =>
      obtain ⟨hitems, hanswer⟩ := recvItem_empty (hsize n rfl) t.socket.rx
      exact ⟨hitems, fun hend => hanswer (Exchange.eq_of_isEmptyAnswer_recv hend)⟩
  recvFrom t n h := by
    refine h.call (Traced.exchanges_recvFrom rfl) fun hsize => ?_
    obtain ⟨hitems, hanswer⟩ := recvDatagram_empty (hsize n rfl) t.socket.rx
    refine ⟨fun item hitem _ => hitems item hitem, fun hend => ?_⟩
    obtain ⟨origin, hempty⟩ := Exchange.eq_of_isEmptyAnswer_recvFrom hend
    exact hanswer origin hempty
  peek t ch h := by
    refine h.call (Traced.exchanges_peek rfl) fun _ => ⟨fun item hitem _ => ?_, nofun⟩
    have hsame : (t.socket.peek ch).2.rx = t.socket.rx := by
      unfold peek
      dsimp only
      split
      · rfl
      · split <;> rfl
    exact hsame ▸ hitem
  send t ch data h := by
    refine h.call (Traced.exchanges_send rfl) fun _ => ⟨fun item hitem _ => ?_, nofun⟩
    have hsame : (t.socket.send ch data).2.rx = t.socket.rx := by
      unfold send
      dsimp only
      split <;> cases ch <;> rfl
    exact hsame ▸ hitem

end ScriptedSocket

namespace Client

variable {φ : Type} [Framer φ]

/-- How many calls a client of a scripted socket makes in one operation, whatever it was made
    with and whatever it and the world have done before.

    A read makes at most two receiving calls more than there are items and bytes in the
    queues, at most two of its calls find nothing, none offers an empty buffer, and one on
    the regular channel that is answered no bytes has met a close or an empty item.  A write
    makes at most one sending call more than there are answers in the script and bytes to
    send. -/
theorem calls_run (kind : ClientKind) (socket : ScriptedSocket) (config : Config)
    (made : Duration) (steps : List (Step ScriptedSocket φ)) :
    let c := (make kind socket config made).run kind steps
    (∀ (now : Clock) (f : φ) (ch : Channel),
      let calls := c.exchangesOf kind (.read now f ch)
      let queued := c.socket.rx ++ c.socket.rxUrgent
      calls.countP Exchange.isReceive ≤
        queued.length + (queued.flatMap ScriptedItem.bytes).length + 2 ∧
      calls.countP Exchange.findsNothing ≤ 2 ∧
      (∀ x ∈ calls, ∀ size, x.buffer? = some size → 0 < size) ∧
      (∀ x ∈ calls, x.isEmptyAnswer = true → ∃ item ∈ c.socket.rx, item.isEmpty = true)) ∧
    (∀ (now : Clock) (data : Bytes) (ch : Channel),
      let calls := c.exchangesOf kind (.write now data ch : Step ScriptedSocket φ)
      calls.countP Exchange.isSend ≤ c.socket.tx.length + data.length + 1) := by
  intro c
  have hbuffer : 1 ≤ c.bufferSize := one_le_bufferSize_run kind socket config made steps
  refine ⟨fun now f ch => ?_, fun now data ch => ?_⟩
  · intro calls queued
    -- The same calls, once measured by what they bring and once by what they do not find
    obtain ⟨received, hreceived⟩ := within_read ScriptedSocket.isMeter_supply kind c.traced now f ch
    obtain ⟨vain, hvain⟩ := within_read isMeter_findsNothing kind c.traced now f ch
    obtain rfl : calls = received := hreceived.record
    obtain rfl : calls = vain := hvain.record
    have hoffered : ∀ x ∈ calls, ∀ size, x.buffer? = some size → 0 < size :=
      fun x hx size hsize => hreceived.offered x hx size hsize ▸ hbuffer
    refine ⟨?_, ?_, hoffered, ?_⟩
    · rw [← c.socket.supply_eq]
      exact Nat.le_trans (Nat.le_add_right _ _) hreceived.picked
    · exact Nat.le_trans (Nat.le_add_right _ _) (Nat.le_trans hvain.picked (by simp))
    · -- nothing has been recorded yet, and all items are there
      have hstart : ScriptedSocket.Stems c.socket.rx c.traced.socket :=
        fun _ => ⟨fun _ hitem _ => hitem, nofun⟩
      exact (kept_read (ScriptedSocket.keeps_stems _) kind hstart now f ch hoffered).2
  · intro calls
    obtain ⟨sent, hsent⟩ := within_write ScriptedSocket.isMeter_answers kind c.traced now data ch
    obtain rfl : calls = sent := hsent.record
    exact Nat.le_trans (Nat.le_add_right _ _) hsent.picked

end Client

end FrameSocket
