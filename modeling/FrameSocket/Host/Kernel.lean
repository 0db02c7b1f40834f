import FrameSocket.Host.Poll
import FrameSocket.Socket.Kernel

/-!
# A host as an operating system

A host fails with the numbers of errors, which `Kernel` shows as `IoError`s.
Faults alone interrupt its calls, so their number is its `patience`, and with what
there is to receive it is the `supply` of a descriptor.
-/

namespace FrameSocket.Host

/-- The failure of a host's call, as a caller is told it. -/
def told {α : Type} (r : Reply α) : Kernel.Reply Host α := (r.1.mapError .os, r.2)

/-- Of the errors of a host, one number alone is an interruption. -/
theorem eq_eintr_of_isInterrupted {e : Errno} (h : (IoError.os e).isInterrupted = true) :
    e = .eintr := by
  revert h
  cases e <;> decide

/-- What works for the caller of `told` has worked for the host. -/
theorem eq_ok_of_told {α : Type} {r : Reply α} {x : α} (h : (told r).1 = .ok x) :
    r.1 = .ok x := by
  obtain ⟨answer, next⟩ := r
  cases answer with
  | error e => cases h
  | ok y =>
    cases h
    rfl

/-- An interruption that `told` shows is that of the host's call. -/
theorem eq_eintr_of_told {α : Type} {r : Reply α} {e : IoError} (h : (told r).1 = .error e)
    (hi : e.isInterrupted = true) : r.1 = .error .eintr := by
  obtain ⟨answer, next⟩ := r
  cases answer with
  | error x =>
    cases h
    exact congrArg Except.error (eq_eintr_of_isInterrupted hi)
  | ok y => cases h

instance : Kernel Host where
  now := Host.now
  nextId := Host.nextId
  setNextId h n := { h with nextId := n }
  create h transport := (.ok (h.create transport).1, (h.create transport).2)
  bind h d name := told (h.bind d name)
  connect h d target := told (h.connect d target)
  listen h d := told (h.listen d)
  accept h d := told (h.accept d)
  duplicate h d := told (h.duplicate d)
  shutdown h d := told (h.shutdown d)
  close := close
  localName h d := told (h.localName d)
  peerName h d := told (h.peerName d)
  takeError h d := ((h.takeError d).1.map (·.map .os) |>.mapError .os, (h.takeError d).2)
  recv h d ch n := told (h.recv d ch n)
  recvFrom h d n := told (h.recvFrom d n)
  peek h d ch := told (h.peek d ch)
  peekFrom h d := told (h.peekFrom d)
  send h d ch data := told (h.send d ch data)
  sendTo h d target data := told (h.sendTo d target data)
  supply := supplyOf
  patience h := h.faults.length
  length_recv _ _ _ _ _ h := length_recv (eq_ok_of_told h)
  supply_recv_le h d ch n := h.supplyOf_recv_le d ch n
  supply_recv_data _ _ _ _ _ h hn := supplyOf_recv_data (eq_ok_of_told h) hn
  supply_recv_interrupted _ _ _ _ _ h hi := supplyOf_recv_interrupted (eq_eintr_of_told h hi)
  length_recvFrom _ _ _ _ h := length_recvFrom (eq_ok_of_told h)
  supply_recvFrom_interrupted _ _ _ _ h hi :=
    supplyOf_recvFrom_interrupted (eq_eintr_of_told h hi)
  supply_peek_le h d ch := h.supplyOf_peek_le d ch
  supply_peekFrom_interrupted _ _ _ h hi :=
    supplyOf_peekFrom_interrupted (eq_eintr_of_told h hi)
  send_le_length _ _ _ _ _ h := send_le _ _ _ _ _ (eq_ok_of_told h)
  sendTo_le_length _ _ _ _ _ h := sendTo_le _ _ _ _ _ (eq_ok_of_told h)
  patience_send_interrupted _ _ _ _ _ h hi := faults_send_interrupted (eq_eintr_of_told h hi)
  patience_sendTo_interrupted _ _ _ _ _ h hi :=
    faults_sendTo_interrupted (eq_eintr_of_told h hi)
  patience_accept_interrupted _ _ _ h hi := accept_interrupted (eq_eintr_of_told h hi)

end FrameSocket.Host
