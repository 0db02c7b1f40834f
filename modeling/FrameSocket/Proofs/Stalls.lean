import FrameSocket.Proofs.Sending
import FrameSocket.Proofs.Sides

/-!
# The budget of writes

A client without a floor for the speed of sending gives a send up when its writes have moved
nothing for too long.  A write stalls if it was ready to send and the socket took nothing: a
regular write of a stream that had something to send, or a datagram.  Every such write in a row
costs an attempt, and whatever goes out on the regular channel makes the budget full again.
So the books count the stalled writes since then, and nothing else: with a budget of `W`
attempts, the write that fails is the stalled write number `max W 1`.

Both kinds of client keep the same books, by loops of their own.

## Key results

- `SendBooks.Counts.spend`: what one more stalled write does to books that count
- `fills_sendAll` / `drains_sendDatagram`: what the sending loops do to the books
- `drains_write`: what a write of either kind of client does to them
- `stalls_after` / `stalls_run`: the books count across every step and every run
- `exhausted_run`: which write of a run fails for lack of attempts
-/

namespace FrameSocket

/-! ## Books that count -/

namespace SendBooks

/-- The books with a full budget. -/
def refill (b : SendBooks) : SendBooks := { b with attempts := b.limit }

/-- The books with one attempt less. -/
def spend (b : SendBooks) : SendBooks := { b with attempts := b.attempts - 1 }

/-- The full budget is of `budget` attempts, there have been `n` stalled writes since it was
    full, and no speed is asked for. -/
structure Counts (budget : Nat) (b : SendBooks) (n : Nat) : Prop where
  limit : b.limit = budget
  lt : n < max budget 1
  attempts : b.attempts = budget - n
  watch : b.watch = none

variable {b : SendBooks} {budget n : Nat}

/-- A budget that is full stays so. -/
@[simp] theorem refill_refill (b : SendBooks) : b.refill.refill = b.refill := rfl

/-- Books that are refilled count no stalls. -/
theorem Counts.refill (h : b.Counts budget n) : b.refill.Counts budget 0 where
  limit := h.limit
  lt := Nat.lt_of_lt_of_le Nat.zero_lt_one (Nat.le_max_right _ _)
  attempts := h.limit
  watch := h.watch

/-- One more stalled write uses the budget up, or is counted. -/
theorem Counts.spend (h : b.Counts budget n) :
    b.spend.attempts = 0 ∧ n + 1 = max budget 1 ∨
      b.spend.attempts ≠ 0 ∧ n + 1 ≠ max budget 1 ∧ b.spend.Counts budget (n + 1) := by
  have hlt := h.lt
  have hattempts : b.spend.attempts = budget - (n + 1) := by
    show b.attempts - 1 = _
    rw [h.attempts]
    omega
  by_cases hlast : n + 1 = max budget 1
  · exact .inl ⟨by omega, hlast⟩
  · exact .inr ⟨by omega, hlast, h.limit, by omega, hattempts, h.watch⟩

end SendBooks

/-! ## Stalled writes -/

namespace Exchange

/-- Whether the call offered bytes to send, and they and the answer to them are so. -/
def sendsWith (p : Bytes → Except IoError Nat → Bool) : Exchange → Bool
  | .send _ data answer => p data answer
  | _ => false

/-- Whether a call sends. -/
def isSend : Exchange → Bool := sendsWith fun _ _ => true

/-- Whether a sending call failed, and neither would have had to wait nor was interrupted. -/
def failsToSend : Exchange → Bool := sendsWith fun _ answer =>
  match answer with
  | .ok _ => false
  | .error e => !e.isBlocked && !e.isInterrupted

/-- Whether a datagram went out. -/
def deliversDatagram : Exchange → Bool := sendsWith fun data answer =>
  match answer with
  | .ok n => decide (0 < n) || data.isEmpty
  | .error _ => false

/-- Whether the socket did not take a datagram: the call would have had to wait, or took none
    of some bytes. -/
def holdsDatagram : Exchange → Bool := sendsWith fun data answer =>
  match answer with
  | .ok n => decide (n = 0) && !data.isEmpty
  | .error e => e.isBlocked

/-- Whether calls put something out on the regular channel: bytes, or a datagram. -/
def deliver (kind : ClientKind) (calls : List Exchange) : Bool :=
  match kind with
  | .stream => !(calls.flatMap (accepted .regular)).isEmpty
  | .datagram => calls.any deliversDatagram

/-- Whether a write of `data` stalled that made these calls.

    On a stream it was a regular write, had something to send and got to send it; the socket
    accepted none of it, and no call failed.  A datagram was not taken. -/
def stall (kind : ClientKind) (ch : Channel) (data : Bytes) (calls : List Exchange) : Bool :=
  match kind with
  | .stream =>
    ch = .regular && !data.isEmpty && calls.any isSend &&
      (calls.flatMap (accepted .regular)).isEmpty && !calls.any failsToSend
  | .datagram => calls.any holdsDatagram

/-! Calls that do not send make no difference to any of this. -/

section Silent

variable {silent : List Exchange}

/-- A call that does not send does not send in any way. -/
theorem not_sendsWith (p : Bytes → Except IoError Nat → Bool) {x : Exchange}
    (h : x.isSend = false) : x.sendsWith p = false := by
  cases x with
  | remoteAddress _ | takeError _ | recv _ _ _ | recvFrom _ _ | peek _ _ => rfl
  | send _ _ _ => exact nomatch h

/-- Calls that ask for the state of a connection do not send. -/
theorem not_isSend_of_asksState {x : Exchange} (h : x.asksState = true) : x.isSend = false := by
  cases x with
  | remoteAddress _ | takeError _ | recv _ _ _ | recvFrom _ _ | peek _ _ => rfl
  | send _ _ _ => exact nomatch h

/-- No silent call sends in any way. -/
theorem any_sendsWith_of_silent (h : ∀ x ∈ silent, x.isSend = false)
    (p : Bytes → Except IoError Nat → Bool) : silent.any (sendsWith p) = false := by
  rw [List.any_eq_false]
  exact fun x hx => Bool.eq_false_iff.mp (not_sendsWith p (h x hx))

/-- Silent calls may be left out before the others. -/
theorem any_sendsWith_append (h : ∀ x ∈ silent, x.isSend = false)
    (p : Bytes → Except IoError Nat → Bool) (calls : List Exchange) :
    (silent ++ calls).any (sendsWith p) = calls.any (sendsWith p) := by
  rw [List.any_append, any_sendsWith_of_silent h, Bool.false_or]

/-- Silent calls have nothing accepted. -/
theorem flatMap_accepted_of_silent (h : ∀ x ∈ silent, x.isSend = false) (ch : Channel) :
    silent.flatMap (accepted ch) = [] := by
  refine List.flatMap_eq_nil_iff.mpr fun x hx => ?_
  have hx' := h x hx
  cases x with
  | remoteAddress _ | takeError _ | recv _ _ _ | recvFrom _ _ | peek _ _ => rfl
  | send _ _ _ => exact nomatch hx'

/-- Silent calls do not count for what is delivered. -/
theorem deliver_append (h : ∀ x ∈ silent, x.isSend = false) (kind : ClientKind)
    (calls : List Exchange) : deliver kind (silent ++ calls) = deliver kind calls := by
  cases kind with
  | stream =>
    simp only [deliver, List.flatMap_append, flatMap_accepted_of_silent h, List.nil_append]
  | datagram => exact any_sendsWith_append h _ calls

/-- Silent calls do not count for whether a write stalls. -/
theorem stall_append (h : ∀ x ∈ silent, x.isSend = false) (kind : ClientKind) (ch : Channel)
    (data : Bytes) (calls : List Exchange) :
    stall kind ch data (silent ++ calls) = stall kind ch data calls := by
  cases kind with
  | stream =>
    simp only [stall, isSend, failsToSend, any_sendsWith_append h, List.flatMap_append,
      flatMap_accepted_of_silent h, List.nil_append]
  | datagram => exact any_sendsWith_append h _ calls

/-- Without a sending call nothing goes out, and nothing stalls. -/
theorem not_deliver_of_silent (h : ∀ x ∈ silent, x.isSend = false) (kind : ClientKind) :
    deliver kind silent = false := by
  have happend := deliver_append h kind []
  rw [List.append_nil] at happend
  rw [happend]
  cases kind <;> rfl

/-- Silent calls alone are no stall. -/
theorem not_stall_of_silent (h : ∀ x ∈ silent, x.isSend = false) (kind : ClientKind)
    (ch : Channel) (data : Bytes) : stall kind ch data silent = false := by
  have happend := stall_append h kind ch data []
  rw [List.append_nil] at happend
  rw [happend]
  cases kind <;> simp [stall]

end Silent

end Exchange

/-- The error of a send that was given up, or one of a socket that reads like it. -/
def NetworkError.isWriteZero : NetworkError → Bool
  | .sendFailed _ source => source.kind = .writeZero
  | _ => false

/-- Whether a write failed for lack of attempts: the error is not that of one of its calls. -/
def Exchange.exhaust (calls : List Exchange) : Except NetworkError Nat → Bool
  | .ok _ => false
  | .error e => !calls.any failsToSend && e.isWriteZero

namespace Client

variable {σ φ : Type} [Endpoint σ] [Framer φ]

/-! ## What a write does to the books -/

/-- What a write of `data` that makes these calls does to the books `b`. -/
inductive Drains (kind : ClientKind) (ch : Channel) (data : Bytes) (b : SendBooks)
    (calls : List Exchange) : Except NetworkError Nat → SendBooks → Prop
  /-- Something goes out. -/
  | refills {answer : Except NetworkError Nat} (hout : Exchange.deliver kind calls = true)
      (hstall : Exchange.stall kind ch data calls = false)
      (hanswer : Exchange.exhaust calls answer = false) :
      Drains kind ch data b calls answer b.refill
  /-- It stalls, and uses the budget up. -/
  | exhausts {answer : Except NetworkError Nat} (hout : Exchange.deliver kind calls = false)
      (hstall : Exchange.stall kind ch data calls = true)
      (hfails : calls.any Exchange.failsToSend = false) (hzero : b.spend.attempts = 0)
      (hanswer : Exchange.exhaust calls answer = true) :
      Drains kind ch data b calls answer b.refill
  /-- It stalls. -/
  | counts (hout : Exchange.deliver kind calls = false)
      (hstall : Exchange.stall kind ch data calls = true)
      (hfails : calls.any Exchange.failsToSend = false) (hleft : b.spend.attempts ≠ 0) :
      Drains kind ch data b calls (.ok 0) b.spend
  | keeps {answer : Except NetworkError Nat} (hout : Exchange.deliver kind calls = false)
      (hstall : Exchange.stall kind ch data calls = false)
      (hanswer : Exchange.exhaust calls answer = false) : Drains kind ch data b calls answer b

namespace Drains

variable {kind : ClientKind} {ch : Channel} {data : Bytes} {b b' : SendBooks}
  {calls calls' : List Exchange} {answer : Except NetworkError Nat}

/-- Only what went out, what stalled and what failed matters of the calls. -/
theorem of_calls (h : Drains kind ch data b calls answer b')
    (hout : Exchange.deliver kind calls' = Exchange.deliver kind calls)
    (hstall : Exchange.stall kind ch data calls' = Exchange.stall kind ch data calls)
    (hfails : calls'.any Exchange.failsToSend = calls.any Exchange.failsToSend) :
    Drains kind ch data b calls' answer b' := by
  -- Whether an answer means exhaustion depends on the calls by their failures only
  have hexhaust : ∀ answer, Exchange.exhaust calls' answer = Exchange.exhaust calls answer := by
    intro answer
    cases answer with
    | ok n => rfl
    | error e => simp only [Exchange.exhaust, hfails]
  cases h with
  | refills hout' hstall' hanswer =>
    exact .refills (hout.trans hout') (hstall.trans hstall') ((hexhaust _).trans hanswer)
  | exhausts hout' hstall' hfails' hzero hanswer =>
    exact .exhausts (hout.trans hout') (hstall.trans hstall') (hfails.trans hfails') hzero
      ((hexhaust _).trans hanswer)
  | counts hout' hstall' hfails' hleft =>
    exact .counts (hout.trans hout') (hstall.trans hstall') (hfails.trans hfails') hleft
  | keeps hout' hstall' hanswer =>
    exact .keeps (hout.trans hout') (hstall.trans hstall') ((hexhaust _).trans hanswer)

/-- No write gives a client a watchdog, or takes it away. -/
theorem watch (h : Drains kind ch data b calls answer b') : b'.watch = b.watch := by
  cases h with
  | refills _ _ _ | exhausts _ _ _ _ _ | counts _ _ _ _ | keeps _ _ _ => rfl

/-- Calls in front that do not send do not matter. -/
theorem append {silent : List Exchange} (hs : ∀ x ∈ silent, x.isSend = false)
    (h : Drains kind ch data b calls answer b') :
    Drains kind ch data b (silent ++ calls) answer b' :=
  h.of_calls (Exchange.deliver_append hs kind calls) (Exchange.stall_append hs kind ch data calls)
    (Exchange.any_sendsWith_append hs _ calls)

/-- A write that does not get to send. -/
theorem silent {silent : List Exchange} (hs : ∀ x ∈ silent, x.isSend = false)
    (hanswer : ∀ e, answer = .error e → e.isWriteZero = false) :
    Drains kind ch data b silent answer b := by
  refine .keeps (Exchange.not_deliver_of_silent hs kind)
    (Exchange.not_stall_of_silent hs kind ch data) ?_
  cases answer with
  | ok n => rfl
  | error e => rw [Exchange.exhaust, hanswer e rfl, Bool.and_false]

/-- A write that stalls spends an attempt. -/
theorem of_stalled {c : Client (Traced σ)} (hout : Exchange.deliver kind calls = false)
    (hstall : Exchange.stall kind ch data calls = true)
    (hfails : calls.any Exchange.failsToSend = false) (reason : String) :
    Drains kind ch data c.sendBooks calls (c.stalled reason).1 (c.stalled reason).2.sendBooks := by
  unfold stalled
  dsimp only
  split
  · -- The last attempt is spent, and the write fails
    rename_i hzero
    refine .exhausts hout hstall hfails hzero ?_
    rw [Exchange.exhaust, hfails]
    rfl
  · rename_i hleft
    exact .counts hout hstall hfails hleft

end Drains

/-! ## The sending loops -/

/-- A call that fails is not a send that is given up. -/
theorem not_exhaust_sendError (c : Client (Traced σ)) {calls : List Exchange} {ch : Channel}
    {offered : Bytes} {e : IoError} (hcall : Exchange.send ch offered (.error e) ∈ calls)
    (hblocked : e.isBlocked = false) :
    Exchange.exhaust calls (.error (c.sendError e).1) = false := by
  rw [Exchange.exhaust, Bool.and_eq_false_iff]
  by_cases hinterrupted : e.isInterrupted = true
  · -- it does not read like one either
    right
    unfold sendError
    split
    · rfl
    · have hkind : e.kind = .interrupted := of_decide_eq_true hinterrupted
      simp [NetworkError.isWriteZero, hkind]
  · left
    rw [Bool.not_eq_false', List.any_eq_true]
    refine ⟨_, hcall, ?_⟩
    rw [Bool.not_eq_true] at hinterrupted
    simp [Exchange.failsToSend, Exchange.sendsWith, hblocked, hinterrupted]

omit [Endpoint σ] in
/-- `finishSend` of a client without a watchdog refills the budget. -/
theorem sendBooks_finishSend {c : Client σ} (h : c.sendWatch = none) :
    c.finishSend.sendBooks = c.sendBooks.refill := by
  show SendBooks.mk _ _ (c.sendWatch.map Watchdog.reset) = SendBooks.mk _ _ c.sendWatch
  rw [h]
  rfl

/-- `sendError` leaves the books of sending as they are. -/
theorem sendBooks_sendError (c : Client σ) (e : IoError) :
    (c.sendError e).2.sendBooks = c.sendBooks := by
  unfold sendError
  split <;> rfl

/-- What a sending loop of a stream does to the books, by the calls that it makes, when
    `written` bytes have gone out before. -/
structure Fills (c : Client (Traced σ)) (data : Bytes) (written : Nat) (calls : List Exchange)
    (a : Answer (Traced σ) Nat) : Prop where
  record : a.2.socket.exchanges = c.socket.exchanges ++ calls
  books : a.2.sendBooks =
    if Exchange.deliver .stream calls then c.sendBooks.refill else c.sendBooks
  sends : data ≠ [] → calls.any Exchange.isSend = true
  ok : ∀ m, a.1 = .ok m → calls.any Exchange.failsToSend = false ∧
    m = written + (calls.flatMap (Exchange.accepted .regular)).length
  error : ∀ e, a.1 = .error e → calls.any Exchange.failsToSend = true

namespace Fills

variable {c : Client (Traced σ)} {data data' : Bytes} {written : Nat} {calls : List Exchange}
  {x : Exchange} {a : Answer (Traced σ) Nat} {s : Traced σ}

omit [Endpoint σ] in
/-- Nothing is left to send. -/
theorem done (c : Client (Traced σ)) (written : Nat) : Fills c [] written [] (.ok written, c) where
  record := (List.append_nil _).symm
  books := rfl
  sends h := absurd rfl h
  ok m hm := by
    cases hm
    exact ⟨rfl, rfl⟩
  error e he := nomatch he

omit [Endpoint σ] in
/-- A call that does not fail, and what follows it. -/
theorem cons (c' : Client (Traced σ)) (data' : Bytes)
    (hrecord : c'.socket.exchanges = c.socket.exchanges ++ [x]) (hsend : x.isSend = true)
    (hfails : x.failsToSend = false)
    (hbooks : c'.sendBooks =
      if (x.accepted .regular).isEmpty then c.sendBooks else c.sendBooks.refill)
    (h : Fills c' data' (written + (x.accepted .regular).length) calls a) :
    Fills c data written (x :: calls) a where
  record := by rw [h.record, hrecord, List.append_assoc, List.singleton_append]
  books := by
    rw [h.books, hbooks]
    -- The budget is full again if this call had something accepted, or a later one
    cases hx : x.accepted .regular with
    | nil => simp [Exchange.deliver, hx]
    | cons b bs => simp [Exchange.deliver, hx]
  sends _ := by rw [List.any_cons, hsend, Bool.true_or]
  ok m hm := by
    obtain ⟨hnone, hlength⟩ := h.ok m hm
    refine ⟨by rw [List.any_cons, hfails, hnone]; rfl, ?_⟩
    rw [hlength, List.flatMap_cons, List.length_append, Nat.add_assoc]
  error e he := by rw [List.any_cons, h.error e he, Bool.or_true]

/-- A call that takes nothing, and does not fail. -/
theorem of_none {answer : Except IoError Nat}
    (hsend : Endpoint.send c.socket .regular data = (answer, s))
    (hnone : (Exchange.send .regular data answer).accepted .regular = [])
    (hfails : (Exchange.send .regular data answer).failsToSend = false)
    (h : Fills { c with socket := s } data' written calls a) :
    Fills c data written (.send .regular data answer :: calls) a := by
  refine cons { c with socket := s } data' (Traced.exchanges_send hsend) rfl hfails ?_ ?_
  · rw [hnone]
    rfl
  · rw [hnone]
    exact h

/-- A call that takes some bytes. -/
theorem of_some {n : Nat} (hsend : Endpoint.send c.socket .regular data = (.ok (n + 1), s))
    (h : Fills { c with socket := s }.refillWrites data' (written + (n + 1)) calls a) :
    Fills c data written (.send .regular data (.ok (n + 1)) :: calls) a := by
  have hlength : (Exchange.accepted .regular (.send .regular data (.ok (n + 1)))).length =
      n + 1 := by
    have hle := length_le_of_send hsend
    show (data.take (n + 1)).length = n + 1
    rw [List.length_take]
    omega
  -- A send that takes bytes fills the budget up
  refine cons { c with socket := s }.refillWrites data' (Traced.exchanges_send hsend) rfl rfl
    ?_ ?_
  · rw [if_neg]
    · rfl
    · rw [List.isEmpty_iff_length_eq_zero, hlength]
      omega
  · rw [hlength]
    exact h

/-- A call that fails. -/
theorem failed {e : IoError}
    (hsend : Endpoint.send c.socket .regular data = (.error e, s)) (hblocked : e.isBlocked = false)
    (hinterrupted : e.isInterrupted = false) :
    Fills c data written [.send .regular data (.error e)]
      (Client.failed ({ c with socket := s }.sendError e)) where
  record := (congrArg Traced.exchanges (socket_sendError _ e)).trans (Traced.exchanges_send hsend)
  books := sendBooks_sendError _ e
  sends _ := rfl
  ok m hm := nomatch hm
  error e' _ := by
    simp [Exchange.failsToSend, Exchange.sendsWith, hblocked, hinterrupted]

end Fills

/-- The sending loop makes the budget full again with every call that takes something. -/
theorem fills_sendAll (c : Client (Traced σ)) (now : Clock) (written : Nat) (data : Bytes) :
    c.sendWatch = none → ∃ calls, Fills c data written calls (c.sendAll now written data) := by
  fun_induction sendAll c now written data with
  | case1 c now written => exact fun _ => ⟨[], .done c written⟩
  | case2 c now written b rest s hsend =>
    exact fun _ => ⟨_, .of_none hsend rfl rfl (.done _ written)⟩
  | case3 c now written b rest n s hsend e c' htrack =>
    -- There is no watchdog to be alarmed
    intro hwatch
    have hcalm :=
      trackSend_of_none (c := { c with socket := s }.refillWrites) hwatch now.first (n + 1)
    cases htrack.symm.trans hcalm
  | case4 c now written b rest n s hsend c' htrack ih =>
    intro hwatch
    have hcalm :=
      trackSend_of_none (c := { c with socket := s }.refillWrites) hwatch now.first (n + 1)
    obtain rfl : c' = { c with socket := s }.refillWrites :=
      congrArg Prod.snd (htrack.symm.trans hcalm)
    obtain ⟨calls, hfills⟩ := ih hwatch
    exact ⟨_, .of_some hsend hfills⟩
  | case5 c now written b rest e s hsend hblocked =>
    refine fun _ => ⟨_, .of_none hsend rfl ?_ (.done _ written)⟩
    simp [Exchange.failsToSend, Exchange.sendsWith, hblocked]
  | case6 c now written b rest e s hsend hblocked hinterrupted ih =>
    intro hwatch
    obtain ⟨calls, hfills⟩ := ih hwatch
    refine ⟨_, .of_none hsend rfl ?_ hfills⟩
    simp [Exchange.failsToSend, Exchange.sendsWith, hinterrupted]
  | case7 c now written b rest e s hsend hblocked hinterrupted =>
    exact fun _ => ⟨_, .failed hsend (Bool.eq_false_iff.mpr hblocked)
      (Bool.eq_false_iff.mpr hinterrupted)⟩

/-! ## Writes -/

section Writes

variable {c c' : Client (Traced σ)} {data : Bytes} {calls : List Exchange}

omit [Endpoint σ] in
/-- A sending loop that fails ends the write. -/
theorem Fills.drains_error {e : NetworkError} (h : Fills c data 0 calls (.error e, c')) :
    Drains .stream .regular data c.sendBooks calls (.error e) c'.sendBooks := by
  have hbooks : c'.sendBooks = _ := h.books
  have hfails := h.error e rfl
  have hstall : Exchange.stall .stream .regular data calls = false := by
    simp [Exchange.stall, hfails]
  have hanswer : Exchange.exhaust calls (.error e) = false := by
    rw [Exchange.exhaust, hfails]
    rfl
  -- What was sent before the error has filled the budget up
  cases hout : Exchange.deliver .stream calls with
  | true =>
    rw [hbooks, hout]
    exact .refills hout hstall hanswer
  | false =>
    rw [hbooks, hout]
    exact .keeps hout hstall hanswer

/-- One that does not is followed by the outcome. -/
theorem Fills.drains_ok {written : Nat} (h : Fills c data 0 calls (.ok written, c'))
    (hwatch : c.sendWatch = none) (hne : data ≠ []) :
    Drains .stream .regular data c.sendBooks calls (c'.writeOutcome written data.length).1
      (c'.writeOutcome written data.length).2.sendBooks := by
  have hbooks : c'.sendBooks = _ := h.books
  obtain ⟨hfails, hwritten⟩ := h.ok written rfl
  rw [Nat.zero_add] at hwritten
  have hsends := h.sends hne
  by_cases hzero : written = 0
  · -- nothing went out
    have hnone : calls.flatMap (Exchange.accepted .regular) = [] :=
      List.length_eq_zero_iff.mp (hwritten.symm.trans hzero)
    have hout : Exchange.deliver .stream calls = false := by simp [Exchange.deliver, hnone]
    have hstall : Exchange.stall .stream .regular data calls = true := by
      simp [Exchange.stall, hnone, hfails, hsends, hne]
    have hlength : ¬ 0 = data.length := fun hlength => hne (List.length_eq_zero_iff.mp hlength.symm)
    rw [hout] at hbooks
    subst hzero
    rw [writeOutcome, if_neg hlength, if_pos rfl, ← show _ = c.sendBooks from hbooks]
    exact .of_stalled hout hstall hfails _
  · -- the budget is full again, whether all the data went out or not
    have hsome : calls.flatMap (Exchange.accepted .regular) ≠ [] :=
      fun hnone => hzero (by rw [hwritten, hnone]; rfl)
    have hout : Exchange.deliver .stream calls = true := by simp [Exchange.deliver, hsome]
    have hstall : Exchange.stall .stream .regular data calls = false := by
      simp [Exchange.stall, hsome]
    rw [hout] at hbooks
    have hbooks' : c'.sendBooks = c.sendBooks.refill := hbooks
    unfold writeOutcome
    split
    · have hwatch' : c'.sendWatch = none := (congrArg SendBooks.watch hbooks').trans hwatch
      rw [sendBooks_finishSend hwatch', hbooks', SendBooks.refill_refill]
      exact .refills hout hstall rfl
    · rename_i hshort
      show Drains _ _ _ _ _ (.ok written) c'.sendBooks
      rw [hbooks']
      exact .refills hout hstall rfl

/-- Nothing that is sent on the urgent channel counts. -/
theorem drains_sendUrgent (c : Client (Traced σ)) (sent : Nat) (rest data : Bytes) :
    ∃ calls, (c.sendUrgent sent rest).2.socket.exchanges = c.socket.exchanges ++ calls ∧
      Drains .stream .urgent data c.sendBooks calls (c.sendUrgent sent rest).1
        (c.sendUrgent sent rest).2.sendBooks := by
  -- Each byte has a call of its own, and none of these is on the regular channel
  have hkeeps : ∀ {b : UInt8} {answer : Except IoError Nat} {a : Except NetworkError Nat}
      {books : SendBooks}, Exchange.exhaust [.send .urgent [b] answer] a = false →
      Drains .stream .urgent data books [.send .urgent [b] answer] a books := by
    intro b answer a books hanswer
    have hout : (Exchange.send .urgent [b] answer).accepted .regular = [] := by
      cases answer <;> rfl
    exact .keeps (by simp [Exchange.deliver, hout]) rfl hanswer
  fun_induction sendUrgent c sent rest with
  | case1 c sent => exact ⟨[], (List.append_nil _).symm, .keeps rfl rfl rfl⟩
  | case2 c sent b rest s hsend => exact ⟨_, Traced.exchanges_send hsend, hkeeps rfl⟩
  | case3 c sent b rest n s hn hsend ih =>
    obtain ⟨calls, hrecord, hdrains⟩ := ih
    refine ⟨.send .urgent [b] (.ok n) :: calls, ?_, hdrains.of_calls rfl rfl rfl⟩
    rw [hrecord, Traced.exchanges_send hsend, List.append_assoc, List.singleton_append]
  | case4 c sent b rest e s hsend hblocked => exact ⟨_, Traced.exchanges_send hsend, hkeeps rfl⟩
  | case5 c sent b rest e s hsend hblocked =>
    refine ⟨_, (congrArg Traced.exchanges (socket_sendError _ e)).trans
      (Traced.exchanges_send hsend), ?_⟩
    show Drains .stream .urgent data c.sendBooks _ _
      ({ c with socket := s }.sendError e).2.sendBooks
    rw [sendBooks_sendError]
    exact hkeeps (not_exhaust_sendError _ List.mem_cons_self (Bool.eq_false_iff.mpr hblocked))

/-- Nor does a write of nothing. -/
theorem drains_probe (c : Client (Traced σ)) :
    ∃ calls, c.probe.2.socket.exchanges = c.socket.exchanges ++ calls ∧
      Drains .stream .regular [] c.sendBooks calls c.probe.1 c.probe.2.sendBooks := by
  -- A send of nothing delivers nothing, and is no stall either
  have hkeeps : ∀ {answer : Except IoError Nat} {a : Except NetworkError Nat},
      Exchange.exhaust [.send .regular [] answer] a = false →
      Drains .stream .regular [] c.sendBooks [.send .regular [] answer] a c.sendBooks := by
    intro answer a hanswer
    have hout : (Exchange.send .regular [] answer).accepted .regular = [] := by
      cases answer with
      | error e => rfl
      | ok n => exact List.take_nil
    exact .keeps (by simp [Exchange.deliver, hout]) rfl hanswer
  unfold probe
  split
  · rename_i n s hsend
    exact ⟨_, Traced.exchanges_send hsend, hkeeps rfl⟩
  · rename_i e s hsend
    split
    · exact ⟨_, Traced.exchanges_send hsend, hkeeps rfl⟩
    · rename_i hblocked
      refine ⟨_, (congrArg Traced.exchanges (socket_sendError _ e)).trans
        (Traced.exchanges_send hsend), ?_⟩
      show Drains .stream .regular [] c.sendBooks _ _
        ({ c with socket := s }.sendError e).2.sendBooks
      rw [sendBooks_sendError]
      exact hkeeps (not_exhaust_sendError _ List.mem_cons_self (Bool.eq_false_iff.mpr hblocked))

/-- A datagram that the socket does not take. -/
theorem drains_held {s : Traced σ} {answer : Except IoError Nat}
    (hsend : Endpoint.send c.socket .regular data = (answer, s))
    (hholds : (Exchange.send .regular data answer).holdsDatagram = true) (reason : String) :
    ∃ calls, ({ c with socket := s }.stalled reason).2.socket.exchanges =
        c.socket.exchanges ++ calls ∧
      Drains .datagram .regular data c.sendBooks calls ({ c with socket := s }.stalled reason).1
        ({ c with socket := s }.stalled reason).2.sendBooks := by
  let x : Exchange := .send .regular data answer
  -- It took nothing of a datagram that is not empty, or would have had to wait.
  have hout : x.deliversDatagram = false ∧ x.failsToSend = false := by
    cases answer with
    | ok n =>
      simp only [Exchange.holdsDatagram, Exchange.sendsWith, Bool.and_eq_true, decide_eq_true_eq,
        Bool.not_eq_true'] at hholds
      obtain ⟨rfl, hne⟩ := hholds
      exact ⟨by simp [x, Exchange.deliversDatagram, Exchange.sendsWith, hne], rfl⟩
    | error e =>
      have hblocked : e.isBlocked = true := hholds
      exact ⟨rfl, by simp [x, Exchange.failsToSend, Exchange.sendsWith, hblocked]⟩
  have hsocket : ({ c with socket := s }.stalled reason).2.socket = s := (Booked.stalled _ _).socket
  refine ⟨[x], (congrArg Traced.exchanges hsocket).trans (Traced.exchanges_send hsend), ?_⟩
  refine .of_stalled (c := { c with socket := s }) ?_ ?_ ?_ reason
  · simpa [Exchange.deliver] using hout.1
  · simpa [Exchange.stall] using hholds
  · simpa using hout.2

/-- The sending of a datagram. -/
theorem drains_sendDatagram (c : Client (Traced σ)) (now : Duration) (data : Bytes) :
    c.sendWatch = none →
    ∃ calls, (c.sendDatagram now data).2.socket.exchanges = c.socket.exchanges ++ calls ∧
      Drains .datagram .regular data c.sendBooks calls (c.sendDatagram now data).1
        (c.sendDatagram now data).2.sendBooks := by
  fun_induction sendDatagram c now data with
  | case1 c sent s hsend c₁ hsent e c₂ htrack =>
    intro hwatch
    have hcalm := trackSend_of_none (c := { c with socket := s }) hwatch now sent
    cases htrack.symm.trans hcalm
  | case2 c sent s hsend c₁ hsent c₂ htrack =>
    -- The datagram is out
    intro hwatch
    have hcalm := trackSend_of_none (c := { c with socket := s }) hwatch now sent
    obtain rfl : c₂ = { c with socket := s } := congrArg Prod.snd (htrack.symm.trans hcalm)
    refine ⟨_, Traced.exchanges_send hsend, ?_⟩
    have hfinished : { c with socket := s }.finishSend.sendBooks = c.sendBooks.refill :=
      sendBooks_finishSend (c := { c with socket := s }) hwatch
    show Drains _ _ _ _ _ (.ok sent) { c with socket := s }.finishSend.sendBooks
    rw [hfinished]
    refine .refills ?_ ?_ rfl
    · simpa [Exchange.deliver, Exchange.deliversDatagram, Exchange.sendsWith] using hsent
    · rcases hsent with hsent | hsent
      · simp [Exchange.stall, Exchange.holdsDatagram, Exchange.sendsWith, Nat.ne_of_gt hsent]
      · simp [Exchange.stall, Exchange.holdsDatagram, Exchange.sendsWith, hsent]
  | case3 c sent s hsend c₁ hsent =>
    rw [not_or, Nat.not_lt, Nat.le_zero] at hsent
    obtain ⟨rfl, hne⟩ := hsent
    refine fun _ => drains_held hsend ?_ _
    simpa [Exchange.holdsDatagram, Exchange.sendsWith] using hne
  | case4 c e s hsend c' hblocked => exact fun _ => drains_held hsend hblocked _
  | case5 c e s hsend c' hblocked hinterrupted ih =>
    -- An interrupted call neither holds a datagram back nor fails
    intro hwatch
    obtain ⟨calls, hrecord, hdrains⟩ := ih hwatch
    refine ⟨.send .regular data (.error e) :: calls, ?_, hdrains.of_calls rfl ?_ ?_⟩
    · rw [hrecord, Traced.exchanges_send hsend, List.append_assoc, List.singleton_append]
    · simp [Exchange.stall, Exchange.holdsDatagram, Exchange.sendsWith, hblocked]
    · simp [Exchange.failsToSend, Exchange.sendsWith, hinterrupted]
  | case6 c e s hsend c' hblocked hinterrupted =>
    intro _
    refine ⟨_, (congrArg Traced.exchanges (socket_sendError _ e)).trans
      (Traced.exchanges_send hsend), ?_⟩
    show Drains _ _ _ _ _ _ ({ c with socket := s }.sendError e).2.sendBooks
    rw [sendBooks_sendError]
    refine .keeps rfl ?_ (not_exhaust_sendError _ List.mem_cons_self
      (Bool.eq_false_iff.mpr hblocked))
    simp [Exchange.stall, Exchange.holdsDatagram, Exchange.sendsWith, hblocked]

omit [Endpoint σ] in
/-- Where no speed is asked for there is nothing to anchor. -/
theorem anchorSend_of_none (h : c.sendWatch = none) (now : Duration) : c.anchorSend now = c := by
  cases c
  subst h
  rfl

/-- Finding the connection sends nothing, and leaves the books of sending as they are. -/
theorem silent_ensureConnected (hnone : c.socket.exchanges = []) {now : Duration}
    {answer : Except NetworkError Bool} (hensured : c.ensureConnected now = (answer, c')) :
    c'.sendBooks = c.sendBooks ∧ ∀ x ∈ c'.socket.exchanges, x.isSend = false := by
  obtain ⟨asked, hasked, hasks⟩ := (ensures_ensureConnected hensured).asked
  rw [hnone, List.nil_append] at hasked
  rw [hasked]
  exact ⟨(books_ensureConnected hensured).2,
    fun x hx => Exchange.not_isSend_of_asksState (hasks x hx)⟩

/-- `drains_sendUrgent` for a client that has not sent anything yet. -/
theorem drains_of_sendUrgent (hwatch : c.sendWatch = none)
    (hsends : ∀ x ∈ c.socket.exchanges, x.isSend = false) {now : Duration}
    {answer : Except NetworkError Nat}
    (hsend : (c.anchorSend now).sendUrgent 0 data = (answer, c')) :
    Drains .stream .urgent data c.sendBooks c'.socket.exchanges answer c'.sendBooks := by
  obtain ⟨calls, hrecord, hdrains⟩ := drains_sendUrgent c 0 data data
  rw [anchorSend_of_none hwatch] at hsend
  rw [hsend] at hrecord hdrains
  rw [show c'.socket.exchanges = _ from hrecord]
  exact hdrains.append hsends

/-- `fills_sendAll` for a client that is about to send. -/
theorem fills_of_sendAll (hwatch : c.sendWatch = none) {now : Duration} {later : Clock}
    {answer : Except NetworkError Nat}
    (hsend : (c.anchorSend now).sendAll later 0 data = (answer, c')) :
    ∃ calls, Fills c data 0 calls (answer, c') := by
  obtain ⟨calls, hfills⟩ := fills_sendAll c later 0 data hwatch
  rw [anchorSend_of_none hwatch] at hsend
  rw [hsend] at hfills
  exact ⟨calls, hfills⟩

/-- A write of a stream client, on record from its first call on. -/
theorem drains_writeStream (hnone : c.socket.exchanges = []) (hwatch : c.sendWatch = none)
    (now : Clock) (data : Bytes) (ch : Channel) :
    Drains .stream ch data c.sendBooks (c.writeStream now data ch).2.socket.exchanges
      (c.writeStream now data ch).1 (c.writeStream now data ch).2.sendBooks := by
  have hwrites := writes_writeStream c now data ch
  generalize c.writeStream now data ch = w at hwrites
  cases hwrites with
  | @refused _ e hrefused =>
    have hanswer : e.isWriteZero = false := by
      obtain ⟨what, rfl⟩ := exists_unsupported_of_refused hrefused
      rfl
    rw [show c.socket.exchanges = [] from hnone]
    exact .silent (by simp) fun e' he => Except.error.inj he ▸ hanswer
  | @failed _ c₁ e hensured =>
    obtain ⟨hbooks, hsends⟩ := silent_ensureConnected hnone hensured
    have hanswer : e.isWriteZero = false :=
      error_of_ensureConnected hensured (fun _ _ => rfl) (fun _ => rfl) fun _ => rfl
    rw [show c₁.sendBooks = _ from hbooks]
    exact .silent hsends fun e' he => Except.error.inj he ▸ hanswer
  | @waiting _ c₁ hensured =>
    obtain ⟨hbooks, hsends⟩ := silent_ensureConnected hnone hensured
    rw [show c₁.sendBooks = _ from hbooks]
    exact .silent hsends (by simp)
  | @urgentFailed c₁ c₂ e hensured hsend =>
    obtain ⟨hbooks, hsends⟩ := silent_ensureConnected hnone hensured
    have hwatch₁ : c₁.sendWatch = none := (sendWatch_ensureConnected hensured).trans hwatch
    rw [← hbooks]
    exact drains_of_sendUrgent hwatch₁ hsends hsend
  | @urgentSlow c₁ c₂ c₃ e sent hensured hsend htrack =>
    obtain ⟨hbooks, hsends⟩ := silent_ensureConnected hnone hensured
    have hwatch₁ : c₁.sendWatch = none := (sendWatch_ensureConnected hensured).trans hwatch
    -- There is no watchdog to be alarmed
    have hwatch₂ : c₂.sendWatch = none :=
      (drains_of_sendUrgent hwatch₁ hsends hsend).watch.trans hwatch₁
    cases htrack.symm.trans (trackSend_of_none hwatch₂ now.later.first sent)
  | @urgent c₁ c₂ c₃ sent hensured hsend htrack =>
    obtain ⟨hbooks, hsends⟩ := silent_ensureConnected hnone hensured
    have hwatch₁ : c₁.sendWatch = none := (sendWatch_ensureConnected hensured).trans hwatch
    have hdrains := drains_of_sendUrgent hwatch₁ hsends hsend
    have hwatch₂ : c₂.sendWatch = none := hdrains.watch.trans hwatch₁
    obtain rfl : c₂ = c₃ :=
      congrArg Prod.snd ((trackSend_of_none hwatch₂ now.later.first sent).symm.trans htrack)
    rw [← hbooks]
    exact hdrains
  | @probed c₁ hensured hempty =>
    obtain ⟨hbooks, hsends⟩ := silent_ensureConnected hnone hensured
    have hwatch₁ : c₁.sendWatch = none := (sendWatch_ensureConnected hensured).trans hwatch
    obtain ⟨calls, hrecord, hdrains⟩ := drains_probe c₁
    subst hempty
    rw [anchorSend_of_none hwatch₁, hrecord, ← hbooks]
    exact hdrains.append hsends
  | @regularFailed c₁ c₂ e hensured hne hsend =>
    obtain ⟨hbooks, hsends⟩ := silent_ensureConnected hnone hensured
    have hwatch₁ : c₁.sendWatch = none := (sendWatch_ensureConnected hensured).trans hwatch
    obtain ⟨calls, hfills⟩ := fills_of_sendAll hwatch₁ hsend
    rw [show c₂.socket.exchanges = _ from hfills.record, ← hbooks]
    exact hfills.drains_error.append hsends
  | @regular c₁ c₂ written hensured hne hsend =>
    obtain ⟨hbooks, hsends⟩ := silent_ensureConnected hnone hensured
    have hwatch₁ : c₁.sendWatch = none := (sendWatch_ensureConnected hensured).trans hwatch
    obtain ⟨calls, hfills⟩ := fills_of_sendAll hwatch₁ hsend
    rw [(Booked.writeOutcome c₂ written data.length).socket,
      show c₂.socket.exchanges = _ from hfills.record, ← hbooks]
    exact (hfills.drains_ok hwatch₁ hne).append hsends

/-- A write of a datagram client. -/
theorem drains_writeDatagram (hnone : c.socket.exchanges = []) (hwatch : c.sendWatch = none)
    (now : Clock) (data : Bytes) (ch : Channel) :
    Drains .datagram ch data c.sendBooks (c.writeDatagram now data ch).2.socket.exchanges
      (c.writeDatagram now data ch).1 (c.writeDatagram now data ch).2.sendBooks := by
  unfold writeDatagram
  split
  · dsimp only
    rw [hnone]
    -- What is refused makes no call
    exact .silent (by simp) fun e he => (Except.error.inj he) ▸ rfl
  · rename_i hch
    obtain rfl : ch = .regular := Channel.eq_regular hch
    dsimp only
    split
    · dsimp only
      rw [hnone]
      exact .silent (by simp) fun e he => (Except.error.inj he) ▸ rfl
    · rw [anchorSend_of_none hwatch]
      obtain ⟨calls, hrecord, hdrains⟩ := drains_sendDatagram c now.later.first data hwatch
      rw [hrecord, hnone, List.nil_append]
      exact hdrains

end Writes

/-- A write of either kind of client. -/
theorem drains_write (kind : ClientKind) {c : Client σ} (hwatch : c.sendWatch = none)
    (now : Clock) (data : Bytes) (ch : Channel) :
    Drains kind ch data c.sendBooks (c.exchangesOf kind (.write now data ch : Step σ φ))
      (c.write kind now data ch).1 (c.write kind now data ch).2.sendBooks := by
  have hview := c.write_traced kind now data ch
  have hanswer : (c.write kind now data ch).1 = (c.traced.write kind now data ch).1 :=
    congrArg Prod.fst hview
  have hbooks : (c.write kind now data ch).2.sendBooks =
      (c.traced.write kind now data ch).2.sendBooks := congrArg (fun a => a.2.sendBooks) hview
  rw [hanswer, hbooks]
  cases kind with
  | stream => exact drains_writeStream (c := c.traced) rfl hwatch now data ch
  | datagram => exact drains_writeDatagram (c := c.traced) rfl hwatch now data ch

/-! ## Runs -/

/-- How many writes have stalled since the budget was full, if it was `n` before a write of
    `data` that made these calls. -/
def countStalls (kind : ClientKind) (n : Nat) (ch : Channel) (data : Bytes)
    (calls : List Exchange) (answer : Except NetworkError Nat) : Nat :=
  if Exchange.deliver kind calls || Exchange.exhaust calls answer then 0
  else if Exchange.stall kind ch data calls then n + 1
  else n

/-- How many there have been, if it was `n` before a step. -/
def stallsAfter (kind : ClientKind) (c : Client σ) (n : Nat) : Step σ φ → Nat
  | .write now data ch =>
    countStalls kind n ch data (c.exchangesOf kind (.write now data ch : Step σ φ))
      (c.write kind now data ch).1
  | .resetTransfer => 0
  | .world _ | .read _ _ _ => n

/-- How many there have been, if it was `n` before a run. -/
def stallsIn (kind : ClientKind) (c : Client σ) (n : Nat) : List (Step σ φ) → Nat
  | [] => n
  | step :: steps => (c.after kind step).stallsIn kind (c.stallsAfter kind n step) steps

section Counting

variable {kind : ClientKind} {ch : Channel} {data : Bytes} {b b' : SendBooks}
  {calls : List Exchange} {answer : Except NetworkError Nat} {budget n : Nat}

/-- The books count the writes that stall. -/
theorem Drains.counts_of (hd : Drains kind ch data b calls answer b')
    (h : b.Counts budget n) : b'.Counts budget (countStalls kind n ch data calls answer) := by
  unfold countStalls
  cases hd with
  | refills hout _ _ =>
    rw [hout, Bool.true_or, if_pos rfl]
    exact h.refill
  | exhausts _ _ _ _ hanswer =>
    rw [hanswer, Bool.or_true, if_pos rfl]
    exact h.refill
  | counts hout hstall _ hleft =>
    rw [hout, Exchange.exhaust, if_neg (by decide), if_pos hstall]
    -- As long as an attempt is left, the stalls are fewer than the budget
    obtain ⟨hzero, -⟩ | ⟨-, -, hcounts⟩ := h.spend
    · exact absurd hzero hleft
    · exact hcounts
  | keeps hout hstall hanswer =>
    rw [hout, hanswer, hstall, if_neg (by decide), if_neg (by decide)]
    exact h

/-- The write that fails for lack of attempts is the last stalled one that the budget allows
    for. -/
theorem Drains.exhaust_iff (hd : Drains kind ch data b calls answer b')
    (h : b.Counts budget n) :
    Exchange.exhaust calls answer = true ↔
      Exchange.stall kind ch data calls = true ∧ n + 1 = max budget 1 := by
  -- The count and the budget say the same of each way in which a write ends
  cases hd with
  | refills _ hstall hanswer => simp [hstall, hanswer]
  | exhausts _ hstall _ hzero hanswer =>
    obtain ⟨-, hlast⟩ | ⟨hleft, -⟩ := h.spend
    · exact ⟨fun _ => ⟨hstall, hlast⟩, fun _ => hanswer⟩
    · exact absurd hzero hleft
  | counts _ _ _ hleft =>
    obtain ⟨hzero, -⟩ | ⟨-, hmore, -⟩ := h.spend
    · exact absurd hzero hleft
    · simp [Exchange.exhaust, hmore]
  | keeps _ hstall hanswer => simp [hstall, hanswer]

/-- A stalled write that does not use the budget up answers that nothing went out. -/
theorem Drains.answer_of_stall (hd : Drains kind ch data b calls answer b')
    (hstall : Exchange.stall kind ch data calls = true)
    (hmore : Exchange.exhaust calls answer = false) : answer = .ok 0 := by
  cases hd with
  | refills _ hstall' _ | keeps _ hstall' _ => simp [hstall] at hstall'
  | exhausts _ _ _ _ hanswer => simp [hmore] at hanswer
  | counts _ _ _ _ => rfl

/-- A write that neither puts something out nor stalls keeps the books, and so does one that
    puts nothing out and of which a call fails. -/
theorem Drains.eq_of_keeps (hd : Drains kind ch data b calls answer b')
    (hout : Exchange.deliver kind calls = false)
    (h : Exchange.stall kind ch data calls = false ∨ calls.any Exchange.failsToSend = true) :
    b' = b := by
  cases hd with
  | refills hout' _ _ => simp [hout] at hout'
  | exhausts _ hstall hfails _ _ | counts _ hstall hfails _ => simp [hstall, hfails] at h
  | keeps _ _ _ => rfl

/-- What is put out makes the budget full again, and so does the failure for lack of
    attempts. -/
theorem Drains.eq_refill (hd : Drains kind ch data b calls answer b')
    (h : Exchange.deliver kind calls = true ∨ Exchange.exhaust calls answer = true) :
    b' = b.refill := by
  cases hd with
  | refills _ _ _ | exhausts _ _ _ _ _ => rfl
  | counts hout _ _ _ => simp [hout, Exchange.exhaust] at h
  | keeps hout _ hanswer => simp [hout, hanswer] at h

end Counting

/-- The books count the stalled writes across every step. -/
theorem stalls_after {kind : ClientKind} {c : Client σ} {budget n : Nat}
    (h : c.sendBooks.Counts budget n) (step : Step σ φ) :
    (c.after kind step).sendBooks.Counts budget (c.stallsAfter kind n step) := by
  cases step with
  | world change => exact h
  | read now f ch =>
    show (c.read kind now f ch).1.2.sendBooks.Counts budget n
    rw [sendBooks_read]
    exact h
  -- Only writes count, and only a reset starts the count anew
  | write now data ch => exact (drains_write kind h.watch now data ch).counts_of h
  | resetTransfer =>
    show c.finishRead.finishSend.sendBooks.Counts budget 0
    rw [sendBooks_finishSend (c := c.finishRead) h.watch]
    exact h.refill

/-- And across every run. -/
theorem stalls_run {kind : ClientKind} {c : Client σ} {budget n : Nat}
    (h : c.sendBooks.Counts budget n) (steps : List (Step σ φ)) :
    (c.run kind steps).sendBooks.Counts budget (c.stallsIn kind n steps) := by
  induction steps generalizing c n with
  | nil => exact h
  | cons step steps ih => exact ih (stalls_after h step)

/-- What a client is made with. -/
theorem sendBooks_make (kind : ClientKind) (socket : σ) (config : Config) (made : Duration) :
    (make kind socket config made).sendBooks =
      ⟨config.writeAttempts, config.writeAttempts,
        config.minSendSpeed.map (Watchdog.new · config.slowSendLimit.toSeconds)⟩ := by
  cases kind with
  | stream => rfl
  | datagram =>
    show (newDatagram socket config made).sendBooks = _
    unfold newDatagram
    dsimp only
    split <;> rfl

/-- A write to the urgent channel puts nothing out that counts and does not stall, nor does a
    write of nothing to a stream. -/
theorem idle_write (kind : ClientKind) (c : Client σ) (now : Clock) {data : Bytes}
    {ch : Channel} (h : ch = .urgent ∨ kind = .stream ∧ data = []) :
    let calls := c.exchangesOf kind (.write now data ch : Step σ φ)
    Exchange.deliver kind calls = false ∧ Exchange.stall kind ch data calls = false := by
  intro calls
  cases kind with
  | stream =>
    obtain ⟨n, _, hputs, _⟩ := wrote_writeStream c.traced now data ch
    -- Nothing can go out on the regular channel
    have hout : calls.flatMap (Exchange.accepted .regular) = [] := by
      refine (congrFun hputs.accepted .regular).trans ?_
      rcases h with rfl | ⟨-, rfl⟩
      · exact Channel.extend_of_ne _ _ (by decide)
      · rw [List.take_nil, Channel.extend_nil]
        rfl
    refine ⟨by simp [Exchange.deliver, hout], ?_⟩
    rcases h with rfl | ⟨-, rfl⟩
    · rfl
    · simp [Exchange.stall]
  | datagram =>
    obtain rfl : ch = .urgent := h.resolve_right (by simp)
    exact ⟨rfl, rfl⟩

end Client

end FrameSocket
