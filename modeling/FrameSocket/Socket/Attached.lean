import FrameSocket.Host.Kernel
import FrameSocket.Socket
import FrameSocket.Socket.Endpoint

/-!
# Sockets in their operating system

A socket together with the operating system that it belongs to: the endpoint
that a client of a real socket works on.

A peer never touches the descriptor that it shares when it receives: it delivers
its one datagram, and after that nothing.  It sends to the sender of that
datagram only.
-/

namespace FrameSocket

/-- A socket and its operating system, which is a `Host` unless another one is named. -/
structure Attached (κ : Type := Host) where
  socket : Socket
  host : κ

namespace Attached

variable {κ : Type} [Kernel κ]

/-- Answers a call of the operating system. -/
def reply {α : Type} (a : Attached κ) (r : Kernel.Reply κ α) : Except IoError α × Attached κ :=
  (r.1, { a with host := r.2 })

/-- The peer after its datagram has been read. -/
def delivered (a : Attached κ) (origin : Option Address) : Attached κ :=
  { a with socket := { a.socket with role := .peer origin none } }

/-- The address of the other end, if there is one. -/
def remoteAddress (a : Attached κ) : Except IoError (Option String) × Attached κ :=
  match a.socket.role with
  | .listener => (.ok none, a)
  | .peer origin _ => (.ok (some (origin.getD .unnamed).text), a)
  | .client =>
    match a.reply (Kernel.peerName a.host a.socket.descriptor) with
    | (.ok name, a) => (.ok (some name.text), a)
    | (.error e, a) => (if e.kind = .notConnected then .ok none else .error e, a)

/-- Takes the error that is pending on the socket, if there is one. -/
def takeError (a : Attached κ) : Except IoError (Option IoError) × Attached κ :=
  a.reply (Kernel.takeError a.host a.socket.descriptor)

/-- Receives bytes.  A peer has those of its datagram, once, and never asks the
operating system. -/
def recv (a : Attached κ) (ch : Channel) (n : Nat) : Except IoError Bytes × Attached κ :=
  match a.socket.role with
  | .peer origin (some data) => (.ok (data.take n), a.delivered origin)
  | .peer _ none => (.error (.bare .wouldBlock), a)
  | _ => a.reply (Kernel.recv a.host a.socket.descriptor ch n)

/-- Receives a datagram and who sent it, a peer its own. -/
def recvFrom (a : Attached κ) (n : Nat) : Except IoError (Bytes × Option String) × Attached κ :=
  match a.socket.role with
  | .peer origin (some data) => (.ok (data.take n, origin.bind Address.text?), a.delivered origin)
  | .peer _ none => (.error (.bare .wouldBlock), a)
  | _ =>
    match a.reply (Kernel.recvFrom a.host a.socket.descriptor n) with
    | (.ok (data, origin), a) => (.ok (data, origin.text?), a)
    | (.error e, a) => (.error e, a)

/-- Looks for bytes, a peer for those of its datagram. -/
def peek (a : Attached κ) (ch : Channel) : Except IoError Nat × Attached κ :=
  match a.socket.role with
  | .peer _ (some data) => (.ok (min data.length 1), a)
  | .peer _ none => (.error (.bare .wouldBlock), a)
  | _ => a.reply (Kernel.peek a.host a.socket.descriptor ch)

/-- Sends bytes.  A peer sends to whom its datagram came from, and a listener to
nobody. -/
def send (a : Attached κ) (ch : Channel) (data : Bytes) : Except IoError Nat × Attached κ :=
  match a.socket.role with
  | .listener => (.error (.described .unsupported "cannot send on a listening socket"), a)
  | .peer none _ => (.error (.described .addrNotAvailable "datagram origin is unknown"), a)
  | .peer (some origin) _ => a.reply (Kernel.sendTo a.host a.socket.descriptor origin data)
  | .client => a.reply (Kernel.send a.host a.socket.descriptor ch data)

/-- How long receiving can still bring bytes or be interrupted. -/
def supply (a : Attached κ) : Nat :=
  Kernel.supply a.host a.socket.descriptor + match a.socket.role with
    | .peer _ (some data) => data.length
    | _ => 0

/-! ## The laws of endpoints

A peer answers by itself: `supply` counts the bytes that it keeps.  Any other socket
answers as the operating system does, whose laws carry over (`supply_of_not_peer`). -/

/-- Delivering a datagram uses up what `supply` counts for it. -/
theorem supply_peer {a : Attached κ} {origin : Option Address} {data : Bytes}
    (h : a.socket.role = .peer origin (some data)) :
    (a.delivered origin).supply + data.length = a.supply := by
  simp [supply, delivered, h]

/-- A socket that is no peer keeps nothing itself: its `supply` is that of its descriptor. -/
theorem supply_of_not_peer {a : Attached κ}
    (h : ∀ origin data, a.socket.role ≠ .peer origin (some data)) (host : κ) :
    { a with host }.supply = Kernel.supply host a.socket.descriptor := by
  unfold supply
  split
  · rename_i hr
    exact absurd hr (h _ _)
  · rfl

/-- `recv` adds nothing to the supply. -/
theorem supply_recv_le (a : Attached κ) (ch : Channel) (n : Nat) :
    (a.recv ch n).2.supply ≤ a.supply := by
  unfold recv
  split
  · rename_i hr
    have := supply_peer hr
    dsimp only
    omega
  · exact Nat.le_refl _
  · rename_i hr _
    rw [reply, supply_of_not_peer hr, supply_of_not_peer hr a.host]
    exact Kernel.supply_recv_le a.host _ ch n

/-- `recv` takes what it brings from the supply. -/
theorem supply_recv_data (a : Attached κ) (ch : Channel) (n : Nat) (data : Bytes)
    (h : (a.recv ch n).1 = .ok data) (hn : data ≠ []) : (a.recv ch n).2.supply < a.supply := by
  unfold recv at h ⊢
  split at h
  · rename_i origin bytes hr
    -- A peer gives its datagram away, which was its whole supply
    have := supply_peer hr
    simp only [Except.ok.injEq] at h
    have hl : 0 < data.length := List.length_pos_iff.mpr hn
    rw [← h, List.length_take] at hl
    dsimp only
    omega
  · exact nomatch h
  · rename_i hr _
    -- Other sockets have the supply that the operating system tells of
    rw [reply, supply_of_not_peer hr, supply_of_not_peer hr a.host]
    exact Kernel.supply_recv_data a.host _ ch n data h hn

/-- An interrupted `recv` has cost some of the supply. -/
theorem supply_recv_interrupted (a : Attached κ) (ch : Channel) (n : Nat) (e : IoError)
    (h : (a.recv ch n).1 = .error e) (hi : e.isInterrupted = true) :
    (a.recv ch n).2.supply < a.supply := by
  unfold recv at h ⊢
  split at h
  · exact nomatch h
  · simp only [Except.error.injEq] at h
    subst h
    -- A peer that holds nothing would have to wait
    exact absurd hi (by decide)
  · rename_i hr _
    rw [reply, supply_of_not_peer hr, supply_of_not_peer hr a.host]
    exact Kernel.supply_recv_interrupted a.host _ ch n e h hi

/-- `recv` keeps to the size that it is given. -/
theorem length_recv (a : Attached κ) (ch : Channel) (n : Nat) (data : Bytes)
    (h : (a.recv ch n).1 = .ok data) : data.length ≤ n := by
  unfold recv at h
  split at h
  · simp only [Except.ok.injEq] at h
    simp only [← h, List.length_take]
    omega
  · exact nomatch h
  · exact Kernel.length_recv a.host _ ch n data h

/-- `recvFrom` keeps to the size that it is given. -/
theorem length_recvFrom (a : Attached κ) (n : Nat) (got : Bytes × Option String)
    (h : (a.recvFrom n).1 = .ok got) : got.1.length ≤ n := by
  unfold recvFrom at h
  split at h
  · simp only [Except.ok.injEq] at h
    simp only [← h, List.length_take]
    omega
  · exact nomatch h
  · split at h
    · rename_i data origin b hr
      simp only [Except.ok.injEq] at h
      rw [← h]
      exact Kernel.length_recvFrom a.host _ n _ (congrArg Prod.fst hr)
    · exact nomatch h

/-- An interrupted `recvFrom` has cost some of the supply. -/
theorem supply_recvFrom_interrupted (a : Attached κ) (n : Nat) (e : IoError)
    (h : (a.recvFrom n).1 = .error e) (hi : e.isInterrupted = true) :
    (a.recvFrom n).2.supply < a.supply := by
  unfold recvFrom at h ⊢
  split at h
  · exact nomatch h
  · simp only [Except.error.injEq] at h
    subst h
    -- A peer without its datagram would wait, and that is no interruption
    exact absurd hi (by decide)
  · rename_i hr _
    split at h
    · exact nomatch h
    · rename_i e b hb
      simp only [Except.error.injEq] at h
      subst h
      have hs : b = { a with host := (Kernel.recvFrom a.host a.socket.descriptor n).2 } :=
        (congrArg Prod.snd hb).symm
      dsimp only
      rw [hs, supply_of_not_peer hr, supply_of_not_peer hr a.host]
      exact Kernel.supply_recvFrom_interrupted a.host _ n e (congrArg Prod.fst hb) hi

/-- `peek` adds nothing to the supply. -/
theorem supply_peek_le (a : Attached κ) (ch : Channel) : (a.peek ch).2.supply ≤ a.supply := by
  unfold peek
  split
  · exact Nat.le_refl _
  · exact Nat.le_refl _
  · rename_i hr _
    rw [reply, supply_of_not_peer hr, supply_of_not_peer hr a.host]
    exact Kernel.supply_peek_le a.host _ ch

/-- `send` takes no more than it was given. -/
theorem send_le_length (a : Attached κ) (ch : Channel) (data : Bytes) (n : Nat)
    (h : (a.send ch data).1 = .ok n) : n ≤ data.length := by
  unfold send at h
  split at h
  · exact nomatch h
  · exact nomatch h
  · exact Kernel.sendTo_le_length a.host _ _ data n h
  · exact Kernel.send_le_length a.host _ ch data n h

/-- An interrupted `send` has cost some of the patience. -/
theorem patience_send_interrupted (a : Attached κ) (ch : Channel) (data : Bytes) (e : IoError)
    (h : (a.send ch data).1 = .error e) (hi : e.isInterrupted = true) :
    Kernel.patience (a.send ch data).2.host < Kernel.patience a.host := by
  unfold send at h ⊢
  split at h
  · simp only [Except.error.injEq] at h
    subst h
    exact absurd hi (by decide)
  · simp only [Except.error.injEq] at h
    subst h
    exact absurd hi (by decide)
  · exact Kernel.patience_sendTo_interrupted a.host _ _ data e h hi
  · exact Kernel.patience_send_interrupted a.host _ ch data e h hi

instance : Endpoint (Attached κ) where
  id a := a.socket.id
  transport a := a.socket.transport
  remoteAddress := remoteAddress
  takeError := takeError
  recv := recv
  recvFrom := recvFrom
  peek := peek
  send := send
  supply := supply
  patience a := Kernel.patience a.host
  length_recv := length_recv
  supply_recv_le := supply_recv_le
  supply_recv_data := supply_recv_data
  supply_recv_interrupted := supply_recv_interrupted
  length_recvFrom := length_recvFrom
  supply_recvFrom_interrupted := supply_recvFrom_interrupted
  supply_peek_le := supply_peek_le
  send_le_length := send_le_length
  patience_send_interrupted := patience_send_interrupted

end Attached

end FrameSocket
