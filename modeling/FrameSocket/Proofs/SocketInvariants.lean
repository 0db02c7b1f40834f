import FrameSocket.Proofs.Exchanges

/-!
# What a client cannot do to its socket

A client gets at its socket by the socket's calls alone.  So what every call keeps of a
socket, the operations of a client on it keep as well, whatever they do in between: sockets
of which it holds are sockets themselves, and their clients are clients of the bare sockets.

## Key results

- `Keeps.onKept`: sockets of which a property holds that is kept
- `kept_read` / `kept_write` / `kept_make`: the operations of a client
-/

namespace FrameSocket

/-- Every call of a socket keeps `P`. -/
structure Endpoint.Keeps {σ : Type} [Endpoint σ] (P : σ → Prop) : Prop where
  remoteAddress : ∀ s, P s → P (Endpoint.remoteAddress s).2
  takeError : ∀ s, P s → P (Endpoint.takeError s).2
  recv : ∀ s ch n, P s → P (Endpoint.recv s ch n).2
  recvFrom : ∀ s n, P s → P (Endpoint.recvFrom s n).2
  peek : ∀ s ch, P s → P (Endpoint.peek s ch).2
  send : ∀ s ch data, P s → P (Endpoint.send s ch data).2

namespace Endpoint.Keeps

variable {σ : Type} [Endpoint σ] {P : σ → Prop}

/-- The sockets of which `P` holds are sockets. -/
@[reducible] def onKept (h : Keeps P) : Endpoint { s : σ // P s } where
  id s := Endpoint.id s.val
  transport s := Endpoint.transport s.val
  remoteAddress s :=
    ((Endpoint.remoteAddress s.val).1, ⟨(Endpoint.remoteAddress s.val).2, h.remoteAddress _ s.2⟩)
  takeError s :=
    ((Endpoint.takeError s.val).1, ⟨(Endpoint.takeError s.val).2, h.takeError _ s.2⟩)
  recv s ch n :=
    ((Endpoint.recv s.val ch n).1, ⟨(Endpoint.recv s.val ch n).2, h.recv _ ch n s.2⟩)
  recvFrom s n :=
    ((Endpoint.recvFrom s.val n).1, ⟨(Endpoint.recvFrom s.val n).2, h.recvFrom _ n s.2⟩)
  peek s ch := ((Endpoint.peek s.val ch).1, ⟨(Endpoint.peek s.val ch).2, h.peek _ ch s.2⟩)
  send s ch data :=
    ((Endpoint.send s.val ch data).1, ⟨(Endpoint.send s.val ch data).2, h.send _ ch data s.2⟩)
  supply s := Endpoint.supply s.val
  patience s := Endpoint.patience s.val
  -- Answers are those of the socket, so its laws carry over
  length_recv s := Endpoint.length_recv s.val
  supply_recv_le s := Endpoint.supply_recv_le s.val
  supply_recv_data s := Endpoint.supply_recv_data s.val
  supply_recv_interrupted s := Endpoint.supply_recv_interrupted s.val
  length_recvFrom s := Endpoint.length_recvFrom s.val
  supply_recvFrom_interrupted s := Endpoint.supply_recvFrom_interrupted s.val
  supply_peek_le s := Endpoint.supply_peek_le s.val
  send_le_length s := Endpoint.send_le_length s.val
  patience_send_interrupted s := Endpoint.patience_send_interrupted s.val

/-- Forgetting that `P` holds is a view of the socket. -/
theorem isView (h : Keeps P) :
    letI := h.onKept
    Endpoint.IsView (Subtype.val : { s : σ // P s } → σ) :=
  letI := h.onKept
  { id_view := fun _ => rfl
    transport_view := fun _ => rfl
    remoteAddress_view := fun _ => rfl
    takeError_view := fun _ => rfl
    recv_view := fun _ _ _ => rfl
    recvFrom_view := fun _ _ => rfl
    peek_view := fun _ _ => rfl
    send_view := fun _ _ _ => rfl }

end Endpoint.Keeps

namespace Client

variable {σ φ : Type} [Endpoint σ] [Framer φ] {P : σ → Prop}

open Endpoint (Keeps)

/-- A read keeps what every call of its socket keeps. -/
theorem kept_read (h : Keeps P) (kind : ClientKind) {c : Client σ} (hc : P c.socket)
    (now : Clock) (f : φ) (ch : Channel) : P (c.read kind now f ch).1.2.socket := by
  let := h.onKept
  let kept : Client { s : σ // P s } := c.mapSocket fun _ => ⟨c.socket, hc⟩
  have hread := read_mapSocket h.isView framer_isView_id kind kept now f ch
  have hsocket : (c.read kind now f ch).1.2.socket = (kept.read kind now f ch).1.2.socket.val :=
    congrArg (fun r => r.1.2.socket) hread
  rw [hsocket]
  exact (kept.read kind now f ch).1.2.socket.2

/-- A write keeps what every call of its socket keeps. -/
theorem kept_write (h : Keeps P) (kind : ClientKind) {c : Client σ} (hc : P c.socket)
    (now : Clock) (data : Bytes) (ch : Channel) :
    P (c.write kind now data ch).2.socket := by
  let := h.onKept
  let kept : Client { s : σ // P s } := c.mapSocket fun _ => ⟨c.socket, hc⟩
  have hwrite := write_mapSocket h.isView kind kept now data ch
  have hsocket : (c.write kind now data ch).2.socket =
      (kept.write kind now data ch).2.socket.val := congrArg (fun r => r.2.socket) hwrite
  rw [hsocket]
  exact (kept.write kind now data ch).2.socket.2

/-- Making a client keeps what every call of its socket keeps. -/
theorem kept_make (h : Keeps P) (kind : ClientKind) {s : σ} (hs : P s) (config : Config)
    (now : Duration) : P (make kind s config now).socket := by
  let := h.onKept
  have hmake := make_mapSocket h.isView kind ⟨s, hs⟩ config now
  have hsocket : (make kind s config now).socket =
      (make kind (⟨s, hs⟩ : { s : σ // P s }) config now).socket.val :=
    congrArg Client.socket hmake
  rw [hsocket]
  exact (make kind (⟨s, hs⟩ : { s : σ // P s }) config now).socket.2

end Client

end FrameSocket
