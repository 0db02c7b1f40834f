import FrameSocket.Proofs.Bookkeeping
import FrameSocket.Proofs.Recording

/-!
# The calls of a client, and what they were answered

A traced socket puts every call that a client makes on record, with its answer and in
its order.  As with the bytes that a recorded socket counts, nobody sees the record: an
operation of a traced client is that of the bare one.  So a statement about the calls of
a step is one about `exchangesOf`, for clients of bare sockets.

Before a stream client moves a byte it finds out whether its connection stands, in one of
the four ways of `Ensures`.

## Key results

- `Traced.isView`: forgetting the record is a view
- `read_traced` / `write_traced`: a traced operation is the bare one, and a record of it
- `ensures_ensureConnected`: how a client finds out whether its connection stands
-/

namespace FrameSocket

/-! ## Calls on record -/

/-- One call of a socket, with its answer. -/
inductive Exchange where
  | remoteAddress (answer : Except IoError (Option String))
  | takeError (answer : Except IoError (Option IoError))
  | recv (ch : Channel) (size : Nat) (answer : Except IoError Bytes)
  | recvFrom (size : Nat) (answer : Except IoError (Bytes × Option String))
  | peek (ch : Channel) (answer : Except IoError Nat)
  | send (ch : Channel) (data : Bytes) (answer : Except IoError Nat)

namespace Exchange

/-- Whether the call only asks how the connection stands: it neither receives, nor
    peeks, nor sends. -/
def asksState : Exchange → Bool
  | .remoteAddress _ | .takeError _ => true
  | _ => false

/-- Whether the call asks for bytes of a channel. -/
def receivesOn (ch : Channel) : Exchange → Bool
  | .recv ch' _ _ => ch' = ch
  | .recvFrom _ _ => ch = .regular
  | _ => false

/-- Whether the answer tells that the other side is gone: the regular stream has ended,
    or receiving or sending failed with an error of that kind. -/
def tellsLoss : Exchange → Bool
  | .recv .regular _ (.ok []) => true
  | .recv _ _ (.error e) | .send _ _ (.error e) => e.kind.isConnectionGone
  | _ => false

/-- The bytes that a sending call put out on a channel. -/
def accepted (ch : Channel) : Exchange → Bytes
  | .send ch' data (.ok n) => if ch' = ch then data.take n else []
  | _ => []

/-- The datagram that a receiving call brought, with its sender. -/
def datagram? : Exchange → Option (Bytes × Option String)
  | .recvFrom _ (.ok got) => some got
  | _ => none

end Exchange

/-- A socket, and the calls made on it, the first one in front. -/
structure Traced (σ : Type) where
  socket : σ
  exchanges : List Exchange

namespace Traced

variable {σ : Type}

/-- A socket with no call on record. -/
def start (socket : σ) : Traced σ := ⟨socket, []⟩

/-- Puts one more call on record. -/
def record (t : Traced σ) (socket : σ) (x : Exchange) : Traced σ := ⟨socket, t.exchanges ++ [x]⟩

variable [Endpoint σ]

instance : Endpoint (Traced σ) where
  id t := Endpoint.id t.socket
  transport t := Endpoint.transport t.socket
  remoteAddress t :=
    let (answer, s) := Endpoint.remoteAddress t.socket
    (answer, t.record s (.remoteAddress answer))
  takeError t :=
    let (answer, s) := Endpoint.takeError t.socket
    (answer, t.record s (.takeError answer))
  recv t ch n :=
    let (answer, s) := Endpoint.recv t.socket ch n
    (answer, t.record s (.recv ch n answer))
  recvFrom t n :=
    let (answer, s) := Endpoint.recvFrom t.socket n
    (answer, t.record s (.recvFrom n answer))
  peek t ch :=
    let (answer, s) := Endpoint.peek t.socket ch
    (answer, t.record s (.peek ch answer))
  send t ch data :=
    let (answer, s) := Endpoint.send t.socket ch data
    (answer, t.record s (.send ch data answer))
  supply t := Endpoint.supply t.socket
  patience t := Endpoint.patience t.socket
  length_recv t := Endpoint.length_recv t.socket
  supply_recv_le t := Endpoint.supply_recv_le t.socket
  supply_recv_data t := Endpoint.supply_recv_data t.socket
  supply_recv_interrupted t := Endpoint.supply_recv_interrupted t.socket
  length_recvFrom t := Endpoint.length_recvFrom t.socket
  supply_recvFrom_interrupted t := Endpoint.supply_recvFrom_interrupted t.socket
  supply_peek_le t := Endpoint.supply_peek_le t.socket
  send_le_length t := Endpoint.send_le_length t.socket
  patience_send_interrupted t := Endpoint.patience_send_interrupted t.socket

/-- Forgetting the record is a view of the socket. -/
theorem isView : Endpoint.IsView (Traced.socket (σ := σ)) where
  id_view _ := rfl
  transport_view _ := rfl
  remoteAddress_view _ := rfl
  takeError_view _ := rfl
  recv_view _ _ _ := rfl
  recvFrom_view _ _ := rfl
  peek_view _ _ := rfl
  send_view _ _ _ := rfl

/-- From `t` to `t'` the socket was only asked how its connection stands. -/
def Asked (t t' : Traced σ) : Prop :=
  ∃ asked, t'.exchanges = t.exchanges ++ asked ∧ ∀ x ∈ asked, x.asksState = true

/-! Each call adds itself to the record. -/

variable {t t' : Traced σ}

/-- `remoteAddress` is recorded with its answer. -/
theorem exchanges_remoteAddress {answer : Except IoError (Option String)}
    (h : Endpoint.remoteAddress t = (answer, t')) :
    t'.exchanges = t.exchanges ++ [.remoteAddress answer] := by
  cases h
  rfl

/-- `takeError` is recorded with its answer. -/
theorem exchanges_takeError {answer : Except IoError (Option IoError)}
    (h : Endpoint.takeError t = (answer, t')) :
    t'.exchanges = t.exchanges ++ [.takeError answer] := by
  cases h
  rfl

/-- `recv` is recorded with its answer. -/
theorem exchanges_recv {ch : Channel} {n : Nat} {answer : Except IoError Bytes}
    (h : Endpoint.recv t ch n = (answer, t')) :
    t'.exchanges = t.exchanges ++ [.recv ch n answer] := by
  cases h
  rfl

/-- `recvFrom` is recorded with its answer. -/
theorem exchanges_recvFrom {n : Nat} {answer : Except IoError (Bytes × Option String)}
    (h : Endpoint.recvFrom t n = (answer, t')) :
    t'.exchanges = t.exchanges ++ [.recvFrom n answer] := by
  cases h
  rfl

/-- `peek` is recorded with its answer. -/
theorem exchanges_peek {ch : Channel} {answer : Except IoError Nat}
    (h : Endpoint.peek t ch = (answer, t')) :
    t'.exchanges = t.exchanges ++ [.peek ch answer] := by
  cases h
  rfl

/-- `send` is recorded with its answer. -/
theorem exchanges_send {ch : Channel} {data : Bytes} {answer : Except IoError Nat}
    (h : Endpoint.send t ch data = (answer, t')) :
    t'.exchanges = t.exchanges ++ [.send ch data answer] := by
  cases h
  rfl

end Traced

namespace Client

section Steps

variable {σ φ : Type} [Endpoint σ] [Framer φ]

/-- The client on a traced socket that has no call on record. -/
def traced (c : Client σ) : Client (Traced σ) := c.mapSocket Traced.start

/-- The calls that a step makes, with their answers. -/
def exchangesOf (kind : ClientKind) (c : Client σ) : Step σ φ → List Exchange
  | .world _ => []
  | .read now f ch => (c.traced.read kind now f ch).1.2.socket.exchanges
  | .write now data ch => (c.traced.write kind now data ch).2.socket.exchanges
  | .resetTransfer => []

/-- The calls that the steps of a run make. -/
def exchangesOfRun (kind : ClientKind) (c : Client σ) : List (Step σ φ) → List Exchange
  | [] => []
  | step :: steps => c.exchangesOf kind step ++ (c.after kind step).exchangesOfRun kind steps

/-- A framer is a view of itself. -/
theorem framer_isView_id : Framer.IsView (id : φ → φ) :=
  ⟨fun _ _ _ => rfl, fun _ => rfl, fun _ => rfl, fun _ => rfl⟩

/-- A read does not see the record of its calls. -/
theorem read_traced (kind : ClientKind) (c : Client σ) (now : Clock) (f : φ) (ch : Channel) :
    c.read kind now f ch = viewRead Traced.socket id (c.traced.read kind now f ch) :=
  read_mapSocket Traced.isView framer_isView_id kind c.traced now f ch

/-- Nor does a write. -/
theorem write_traced (kind : ClientKind) (c : Client σ) (now : Clock) (data : Bytes)
    (ch : Channel) :
    c.write kind now data ch = (c.traced.write kind now data ch).mapSocket Traced.socket :=
  write_mapSocket Traced.isView kind c.traced now data ch

end Steps

/-! ## Finding out whether the connection stands -/

section Ensuring

variable {σ : Type} [Endpoint σ]

/-- The ways in which a client finds out whether its connection stands. -/
inductive Ensures (c : Client (Traced σ)) :
    Except NetworkError Bool → Client (Traced σ) → Prop
  /-- It is known to stand. -/
  | stands (hconn : c.isConnected = true) : Ensures c (.ok true) c
  /-- It has stood, and is gone. -/
  | gone (hconn : c.isConnected = false) (hwas : c.wasConnected = true) :
      Ensures c (.error c.lost.1) c.lost.2
  /-- The peer's address is known from now on. -/
  | gained {s : Traced σ} {address : String} (hconn : c.isConnected = false)
      (hwas : c.wasConnected = false) (hasked : c.socket.Asked s) :
      Ensures c (.ok true) ({ c with socket := s }.markConnected address)
  /-- It does not stand yet, and perhaps never will. -/
  | absent {s : Traced σ} {answer : Except NetworkError Bool} (hconn : c.isConnected = false)
      (hwas : c.wasConnected = false) (hasked : c.socket.Asked s) (hanswer : answer ≠ .ok true) :
      Ensures c answer { c with socket := s }

/-- `ensureConnected` ends in one of the ways of `Ensures`. -/
theorem ensures_ensureConnected {c c' : Client (Traced σ)} {now : Duration}
    {answer : Except NetworkError Bool} (h : c.ensureConnected now = (answer, c')) :
    Ensures c answer c' := by
  -- Where no peer is named, both calls are on record
  have hasked : ∀ {s s' : Traced σ} {pending : Except IoError (Option IoError)},
      Endpoint.remoteAddress c.socket = (.ok none, s) → Endpoint.takeError s = (pending, s') →
      c.socket.Asked s' := by
    intro s s' pending hremote herror
    refine ⟨[.remoteAddress (.ok none), .takeError pending], ?_, by simp [Exchange.asksState]⟩
    rw [Traced.exchanges_takeError herror, Traced.exchanges_remoteAddress hremote,
      List.append_assoc]
    rfl
  cases finds_ensureConnected h with
  | stands hconn => exact .stands hconn
  | gone hconn hwas => exact .gone hconn hwas
  | named hconn hwas hremote =>
    exact .gained hconn hwas
      ⟨_, Traced.exchanges_remoteAddress hremote, by simp [Exchange.asksState]⟩
  | unreachable hconn hwas hremote =>
    exact .absent hconn hwas
      ⟨_, Traced.exchanges_remoteAddress hremote, by simp [Exchange.asksState]⟩ (by simp)
  | unanswered hconn hwas hremote herror | failed hconn hwas hremote herror
  | late hconn hwas hremote herror _ | waiting hconn hwas hremote herror _ =>
    exact .absent hconn hwas (hasked hremote herror) (by simp)

/-- However it finds out, it only asks. -/
theorem Ensures.asked {c c' : Client (Traced σ)} {answer : Except NetworkError Bool}
    (h : Ensures c answer c') : c.socket.Asked c'.socket := by
  have hnone : c.socket.Asked c.socket := ⟨[], (List.append_nil _).symm, nofun⟩
  cases h with
  | stands _ | gone _ _ => exact hnone
  | gained _ _ hasked | absent _ _ hasked _ => exact hasked

end Ensuring

end Client

end FrameSocket
