import FrameSocket.Framer.SingleChunk
import FrameSocket.Proofs.Exchanges
import FrameSocket.Proofs.Sides
import FrameSocket.Socket.Scripted

/-!
# The budget of reads

A stream client gives a frame up when its reads have found nothing for too long.  A read is
dry if it brought no byte, and found nothing to receive or to peek at.  Every second dry read
in a row costs an attempt, and whatever ends a frame or brings a byte makes the budget full
again.  So the books count the dry reads since then, and nothing else: with a budget of `R`
attempts, the read that gives the frame up is the dry read number `2 * R`.

## Key results

- `ReceiveBooks.Counts.dry`: what one more dry read does to books that count
- `draws_receives` / `spends_readStream`: what a receiving loop and a read do to the books
- `counts_after` / `counts_run`: the books count across every step and every run
- `incomplete_run`: which read of a run gives its frame up
-/

namespace FrameSocket

/-! ## Books that count -/

namespace ReceiveBooks

/-- The books with a full budget. -/
def refill (b : ReceiveBooks) : ReceiveBooks := ⟨b.limit, b.limit, 0⟩

/-- The books after one more dry read. -/
def dry (b : ReceiveBooks) : ReceiveBooks :=
  if 2 ≤ b.streak + 1 then ⟨b.limit, b.attempts - 1, 0⟩ else ⟨b.limit, b.attempts, b.streak + 1⟩

/-- The full budget is of `budget` attempts, and there have been `n` dry reads since it was full. -/
structure Counts (budget : Nat) (b : ReceiveBooks) (n : Nat) : Prop where
  limit : b.limit = budget
  lt : n < 2 * budget
  attempts : b.attempts = budget - n / 2
  streak : b.streak = n % 2

variable {b : ReceiveBooks} {budget n : Nat}

/-- What is made full again does not tell what it was. -/
@[simp] theorem refill_dry (b : ReceiveBooks) : b.dry.refill = b.refill := by
  unfold dry
  split <;> rfl

/-- Books that are refilled count no dry reads. -/
theorem Counts.refill (h : b.Counts budget n) : b.refill.Counts budget 0 where
  limit := h.limit
  lt := by
    have hlt := h.lt
    omega
  attempts := h.limit
  streak := rfl

/-- As long as the budget counts, there is something left of it. -/
theorem Counts.one_le_attempts (h : b.Counts budget n) : 1 ≤ b.attempts := by
  have hlt := h.lt
  rw [h.attempts]
  omega

/-- Every second dry read costs an attempt. -/
theorem Counts.attempts_dry (h : b.Counts budget n) : b.dry.attempts = budget - (n + 1) / 2 := by
  have hattempts := h.attempts
  have hstreak := h.streak
  unfold dry
  split
  · show b.attempts - 1 = _
    omega
  · show b.attempts = _
    omega

/-- The streak is the dry reads that have cost nothing yet. -/
theorem Counts.streak_dry (h : b.Counts budget n) : b.dry.streak = (n + 1) % 2 := by
  have hstreak := h.streak
  unfold dry
  split
  · show 0 = _
    omega
  · show b.streak + 1 = _
    omega

/-- One more dry read uses the budget up, or is counted. -/
theorem Counts.dry (h : b.Counts budget n) :
    b.dry.attempts = 0 ∧ n + 1 = 2 * budget ∨
      b.dry.attempts ≠ 0 ∧ n + 1 ≠ 2 * budget ∧ b.dry.Counts budget (n + 1) := by
  have hlt := h.lt
  have hattempts := h.attempts_dry
  have hlimit : b.dry.limit = budget := by
    rw [← h.limit]
    unfold ReceiveBooks.dry
    split <;> rfl
  -- The attempts are used up with the last read of twice as many, and not before
  by_cases hlast : n + 1 = 2 * budget
  · exact .inl ⟨by omega, hlast⟩
  · exact .inr ⟨by omega, hlast, hlimit, by omega, hattempts, h.streak_dry⟩

end ReceiveBooks

/-! ## Dry reads -/

/-- Whether a receiving call had nothing. -/
def Client.Received.isNothing : Received → Bool
  | .nothing => true
  | _ => false

namespace Exchange

/-- Whether a receiving call brought bytes. -/
def bringsBytes : Exchange → Bool
  | .recv _ _ (.ok bytes) => !bytes.isEmpty
  | .recvFrom _ (.ok got) => !got.1.isEmpty
  | _ => false

/-- Whether the latest of the calls, which come in front, are a receiving call that had
    nothing and a peek that saw nothing either. -/
def endEmpty : List Exchange → Bool
  | .peek ch' peeked :: .recv ch _ answer :: _ =>
    ch' = ch && !Client.sawByte peeked && (Client.Received.of ch answer).isNothing
  | _ => false

/-- Whether a read that made these calls was dry: it received no byte, and ended because the
    receiving call had nothing and the last peek saw nothing. -/
def areDry (calls : List Exchange) : Bool :=
  !calls.any bringsBytes && endEmpty calls.reverse

/-- A `recv` that `Received.of` takes for data brings bytes. -/
theorem bringsBytes_of_data {ch : Channel} {answer : Except IoError Bytes} {bytes : Bytes}
    (h : Client.Received.of ch answer = .data bytes) (n : Nat) :
    (Exchange.recv ch n answer).bringsBytes = true := by
  obtain ⟨rfl, hne⟩ := Client.Received.of_eq_data h
  simpa [bringsBytes] using hne

/-- A `recv` that it does not take for data brings none. -/
theorem not_bringsBytes {ch : Channel} {answer : Except IoError Bytes}
    (h : ∀ bytes, Client.Received.of ch answer ≠ .data bytes) (n : Nat) :
    (Exchange.recv ch n answer).bringsBytes = false := by
  cases answer with
  | ok bytes =>
    cases bytes with
    | nil => rfl
    | cons b bytes => exact absurd rfl (h _)
  | error e => rfl

/-- So does one `recv` alone. -/
theorem not_any_bringsBytes {ch : Channel} {answer : Except IoError Bytes}
    (h : ∀ bytes, Client.Received.of ch answer ≠ .data bytes) (n : Nat) :
    [Exchange.recv ch n answer].any bringsBytes = false := by
  rw [List.any_cons, not_bringsBytes h]
  rfl

/-- Calls that end with a `recv` do not end empty. -/
theorem not_endEmpty_recv (ch : Channel) (n : Nat) (answer : Except IoError Bytes)
    (before : List Exchange) :
    endEmpty (before ++ [Exchange.recv ch n answer]).reverse = false := by
  rw [List.reverse_append]
  rfl

/-- Calls that end with a `recv` and a `peek` end empty if neither of them finds anything. -/
theorem endEmpty_peek (ch : Channel) (n : Nat) (answer : Except IoError Bytes)
    (peeked : Except IoError Nat) (before : List Exchange) :
    endEmpty (before ++ [Exchange.recv ch n answer, Exchange.peek ch peeked]).reverse =
      (!Client.sawByte peeked && (Client.Received.of ch answer).isNothing) := by
  rw [List.reverse_append]
  show (decide (ch = ch) && _ && _) = _
  rw [decide_eq_true rfl, Bool.true_and]

/-- Asking how the connection stands brings no bytes. -/
theorem not_bringsBytes_of_asksState {x : Exchange} (h : x.asksState = true) :
    x.bringsBytes = false := by
  cases x with
  | remoteAddress _ | takeError _ | peek _ _ | send _ _ _ => rfl
  | recv _ _ _ | recvFrom _ _ => exact nomatch h

/-- Dry calls bring no bytes. -/
theorem not_bringsBytes_of_areDry {calls : List Exchange} (h : areDry calls = true) :
    calls.any bringsBytes = false := by
  unfold areDry at h
  simp only [Bool.and_eq_true, Bool.not_eq_true'] at h
  exact h.1

/-- Calls that ask for the state of a connection bring no bytes. -/
theorem not_any_bringsBytes_of_asksState {asked : List Exchange}
    (h : ∀ x ∈ asked, x.asksState = true) : asked.any bringsBytes = false := by
  rw [List.any_eq_false]
  exact fun x hx => Bool.eq_false_iff.mp (not_bringsBytes_of_asksState (h x hx))

/-- Calls that ask for the state of a connection are not dry. -/
theorem not_areDry_of_asksState {asked : List Exchange}
    (h : ∀ x ∈ asked, x.asksState = true) : areDry asked = false := by
  have hends : endEmpty asked.reverse = false := by
    cases hlast : asked.reverse with
    | nil => rfl
    | cons x calls =>
      have hasks := h x (List.mem_reverse.mp (hlast ▸ List.mem_cons_self))
      cases x with
      | remoteAddress _ | takeError _ => rfl
      | recv _ _ _ | recvFrom _ _ | peek _ _ | send _ _ _ => exact nomatch hasks
  rw [areDry, hends, Bool.and_false]

end Exchange

/-- The error that gives a frame up. -/
def NetworkError.isFramingIncomplete : NetworkError → Bool
  | .framingIncomplete .. => true
  | _ => false

namespace Client

variable {σ φ : Type} [Endpoint σ] [Framer φ]

/-- Whether a read gave its frame up. -/
def givesUp : Except NetworkError (Incoming σ) → Bool
  | .error e => e.isFramingIncomplete
  | .ok _ => false

/-- Whether a read was the last one of its frame, which it completed or gave up. -/
def endsFrame : Except NetworkError (Incoming σ) → Bool
  | .ok (.complete _) => true
  | .ok _ => false
  | .error e => e.isFramingIncomplete

omit [Endpoint σ] in
/-- An answer that leaves the frame open does not give up on it. -/
theorem not_givesUp_of_not_endsFrame {answer : Except NetworkError (Incoming σ)}
    (h : endsFrame answer = false) : givesUp answer = false := by
  cases answer with
  | error e => exact h
  | ok _ => rfl

/-! ## What the client's own operations write into the books -/

section Books

variable (c : Client σ)

omit [Endpoint σ] in
/-- `dryRead` does to a client what `ReceiveBooks.dry` does to its books. -/
theorem receiveBooks_dryRead : c.dryRead.receiveBooks = c.receiveBooks.dry := by
  unfold dryRead ReceiveBooks.dry
  show _ = if 2 ≤ c.dryReads + 1 then _ else _
  split <;> rfl

omit [Endpoint σ] in
/-- `keep` leaves the books of reading as they are. -/
theorem receiveBooks_keep (ch : Channel) (rest : Bytes) (origin : Option String) :
    (c.keep ch rest origin).receiveBooks = c.receiveBooks := by
  unfold keep
  split <;> rfl

omit [Endpoint σ] in
/-- `replay` leaves the books of reading as they are. -/
theorem receiveBooks_replay (f : φ) (ch : Channel) :
    (c.replay f ch).1.receiveBooks = c.receiveBooks := by
  unfold replay
  split
  · rfl
  · exact receiveBooks_keep _ _ _ _

omit [Endpoint σ] in
/-- `trackReceive` leaves the books of reading as they are. -/
theorem receiveBooks_trackReceive (now : Duration) (bytes : Nat) :
    (c.trackReceive now bytes).2.receiveBooks = c.receiveBooks := by
  unfold trackReceive
  split
  · rfl
  · dsimp only
    split <;> rfl

/-- `receiveError` leaves the books of reading as they are. -/
theorem receiveBooks_receiveError (e : IoError) :
    (c.receiveError e).2.receiveBooks = c.receiveBooks := by
  unfold receiveError
  split <;> rfl

end Books

omit [Endpoint σ] in
/-- The alarm of a watchdog does not give a frame up. -/
theorem not_isFramingIncomplete_of_trackReceive {c c' : Client σ} {now : Duration} {bytes : Nat}
    {e : NetworkError} (h : c.trackReceive now bytes = (.error e, c')) :
    e.isFramingIncomplete = false := by
  unfold trackReceive at h
  split at h
  · exact nomatch congrArg Prod.fst h
  · dsimp only at h
    split at h
    · exact nomatch congrArg Prod.fst h
    · cases h
      rfl

/-- `receiveError` does not say that a frame is incomplete. -/
theorem not_isFramingIncomplete_receiveError (c : Client σ) (e : IoError) :
    (c.receiveError e).1.isFramingIncomplete = false := by
  unfold receiveError
  split <;> rfl

/-! ## One read -/

/-- What a receiving loop does to the books, by the calls that it makes.  `any` tells whether
    bytes were received before. -/
inductive Draws (c : Client (Traced σ)) (f : φ) (any : Bool) (calls : List Exchange)
    (r : Reception (Traced σ) φ) : Prop
  | received (hbytes : calls.any Exchange.bringsBytes = true) (hany : r.receivedAny = true)
      (hbooks : r.client.receiveBooks = c.receiveBooks.refill)
  | dry (hbytes : calls.any Exchange.bringsBytes = false)
      (hends : ∀ before, Exchange.endEmpty (before ++ calls).reverse = true)
      (hfirst : any = false) (hany : r.receivedAny = false) (hpause : r.pause = .idle)
      (hframer : r.framer = f) (hbooks : r.client.receiveBooks = c.receiveBooks.dry)
  | other (hbytes : calls.any Exchange.bringsBytes = false)
      (hends : any = false → ∀ before, Exchange.endEmpty (before ++ calls).reverse = false)
      (hany : r.receivedAny = any) (hbooks : r.client.receiveBooks = c.receiveBooks)

namespace Draws

variable {c c' : Client (Traced σ)} {f f' : φ} {any : Bool} {calls : List Exchange} {x : Exchange}
  {r : Reception (Traced σ) φ}

omit [Endpoint σ] [Framer φ] in
/-- A call in front that brings nothing makes no difference. -/
theorem cons {s : Traced σ} (hx : x.bringsBytes = false)
    (h : Draws { c with socket := s } f any calls r) : Draws c f any (x :: calls) r := by
  have hbytes : (x :: calls).any Exchange.bringsBytes = calls.any Exchange.bringsBytes := by
    rw [List.any_cons, hx, Bool.false_or]
  have hshift : ∀ before : List Exchange, before ++ x :: calls = (before ++ [x]) ++ calls := by
    intro before
    rw [List.append_assoc, List.singleton_append]
  -- One call more in front, which brought nothing, changes no way of ending
  cases h with
  | received hbytes' hany hbooks => exact .received (hbytes.trans hbytes') hany hbooks
  | dry hbytes' hends hfirst hany hpause hframer hbooks =>
    refine .dry (hbytes.trans hbytes') (fun before => ?_) hfirst hany hpause hframer hbooks
    rw [hshift]
    exact hends _
  | other hbytes' hends hany hbooks =>
    refine .other (hbytes.trans hbytes') (fun hnone before => ?_) hany hbooks
    rw [hshift]
    exact hends hnone _

omit [Endpoint σ] [Framer φ] in
/-- Behind a call that brings bytes the budget stays full, and the read is not dry. -/
theorem of_data (hx : x.bringsBytes = true) (hbooks : c'.receiveBooks = c.receiveBooks.refill)
    (h : Draws c' f' true calls r) : Draws c f any (x :: calls) r := by
  have hbytes : (x :: calls).any Exchange.bringsBytes = true := by
    rw [List.any_cons, hx, Bool.true_or]
  cases h with
  | received _ hany hbooks' => exact .received hbytes hany (by rw [hbooks', hbooks]; rfl)
  | dry _ _ hfirst _ _ _ _ => exact absurd hfirst (by decide)
  | other _ _ hany hbooks' => exact .received hbytes hany (hbooks'.trans hbooks)

end Draws

/-- The receiving loop keeps the books by the calls that it makes. -/
theorem draws_receives {c : Client (Traced σ)} {now : Clock} {ch : Channel} {f : φ}
    {any retried : Bool} {r : Reception (Traced σ) φ} (hr : Receives ch now c f any retried r) :
    ∃ calls, r.client.socket.exchanges = c.socket.exchanges ++ calls ∧ Draws c f any calls r := by
  -- A framer is fed what came, and the watchdog is told of it
  have hfed : ∀ {c c₁ c₂ : Client (Traced σ)} {now : Duration} {f f₁ : φ} {s : Traced σ}
      {bytes : Bytes} {answer : Except NetworkError Unit},
      { c with socket := s }.refillReads.feed f ch bytes none = (c₁, f₁) →
      c₁.trackReceive now bytes.length = (answer, c₂) →
      c₂.socket = s ∧ c₂.receiveBooks = c.receiveBooks.refill := by
    intro c c₁ c₂ now f f₁ s bytes answer hfeed htrack
    refine ⟨socket_of_fed hfeed htrack, ?_⟩
    rw [← show _ = c₂ from congrArg Prod.snd htrack, receiveBooks_trackReceive,
      ← show _ = c₁ from congrArg Prod.fst hfeed]
    exact receiveBooks_keep _ _ _ _
  -- Induction on the turns of the loop: the calls of a turn stand in front of those of the rest.
  induction hr with
  | @closed now c f any retried answer s hrecv hof =>
    refine ⟨_, Traced.exchanges_recv hrecv, .other ?_ (fun _ => Exchange.not_endEmpty_recv _ _ _)
      rfl rfl⟩
    exact Exchange.not_any_bringsBytes (by rw [hof]; nofun) _
  | @failed now c f any retried answer s e hrecv hof =>
    refine ⟨_, (congrArg Traced.exchanges (socket_receiveError _ e)).trans
        (Traced.exchanges_recv hrecv),
      .other ?_ (fun _ => Exchange.not_endEmpty_recv _ _ _) rfl (receiveBooks_receiveError _ _)⟩
    exact Exchange.not_any_bringsBytes (by rw [hof]; nofun) _
  | @interrupted now c f any retried answer s r hrecv hof _ ih =>
    obtain ⟨calls, hcalls, hdraws⟩ := ih
    refine ⟨.recv ch c.bufferSize answer :: calls, ?_, hdraws.cons ?_⟩
    · rw [hcalls, Traced.exchanges_recv hrecv, List.append_assoc, List.singleton_append]
    · exact Exchange.not_bringsBytes (by rw [hof]; nofun) _
  | slow hrecv hof hfeed htrack =>
    obtain ⟨hsocket, hbooks⟩ := hfed hfeed htrack
    refine ⟨_, (congrArg Traced.exchanges hsocket).trans (Traced.exchanges_recv hrecv),
      .received ?_ rfl hbooks⟩
    rw [List.any_cons, Exchange.bringsBytes_of_data hof, Bool.true_or]
  | complete hrecv hof hfeed htrack _ =>
    obtain ⟨hsocket, hbooks⟩ := hfed hfeed htrack
    refine ⟨_, (congrArg Traced.exchanges hsocket).trans (Traced.exchanges_recv hrecv),
      .received ?_ rfl hbooks⟩
    rw [List.any_cons, Exchange.bringsBytes_of_data hof, Bool.true_or]
  | @more now c c₁ c₂ f f₁ any retried answer s bytes r hrecv hof hfeed htrack _ _ ih =>
    obtain ⟨hsocket, hbooks⟩ := hfed hfeed htrack
    obtain ⟨calls, hcalls, hdraws⟩ := ih
    refine ⟨.recv ch c.bufferSize answer :: calls, ?_,
      hdraws.of_data (Exchange.bringsBytes_of_data hof _) hbooks⟩
    rw [hcalls, hsocket, Traced.exchanges_recv hrecv, List.append_assoc, List.singleton_append]
  | @again now c f any answer s s' peeked r hrecv hof hpeek _ _ ih =>
    obtain ⟨calls, hcalls, hdraws⟩ := ih
    have hpeeked : Draws { c with socket := s } f any (.peek ch peeked :: calls) r :=
      hdraws.cons rfl
    refine ⟨.recv ch c.bufferSize answer :: .peek ch peeked :: calls, ?_, .cons (s := s) ?_ hpeeked⟩
    · rw [hcalls, Traced.exchanges_peek hpeek, Traced.exchanges_recv hrecv, List.append_assoc,
        List.append_assoc, List.singleton_append, List.singleton_append]
    · exact Exchange.not_bringsBytes (by rw [hof]; nofun) _
  | @idle now c f any retried answer s s' peeked hrecv hof hpeek _ =>
    have hrecorded : s'.exchanges =
        c.socket.exchanges ++ [.recv ch c.bufferSize answer, .peek ch peeked] := by
      rw [Traced.exchanges_peek hpeek, Traced.exchanges_recv hrecv, List.append_assoc]
      rfl
    have hbytes : [Exchange.recv ch c.bufferSize answer, .peek ch peeked].any
        Exchange.bringsBytes = false := by
      rw [List.any_cons, Exchange.not_bringsBytes (by rw [hof]; nofun) c.bufferSize]
      rfl
    have hends : ∀ before : List Exchange, Exchange.endEmpty
        (before ++ [Exchange.recv ch c.bufferSize answer, Exchange.peek ch peeked]).reverse =
          !sawByte peeked := by
      intro before
      rw [Exchange.endEmpty_peek, hof]
      exact Bool.and_true _
    refine ⟨[.recv ch c.bufferSize answer, .peek ch peeked], ?_, ?_⟩
    · dsimp only
      split
      · exact hrecorded
      · rw [(Booked.dryRead _).socket]
        exact hrecorded
    · -- Only here is a read dry: nothing came in it before, and the peek sees nothing.
      cases hsaw : sawByte peeked with
      | true => exact .other hbytes (fun _ before => by rw [hends, hsaw]; rfl) rfl rfl
      | false =>
        cases any with
        | true => exact .other hbytes nofun rfl rfl
        | false =>
          refine .dry hbytes (fun before => by rw [hends, hsaw]; rfl) rfl rfl rfl rfl ?_
          exact receiveBooks_dryRead _

/-- A loop that fails does not give its frame up. -/
theorem Receives.not_isFramingIncomplete {c : Client σ} {now : Clock} {ch : Channel} {f : φ}
    {any retried : Bool} {r : Reception σ φ} (hr : Receives ch now c f any retried r)
    {e : NetworkError} (he : r.pause = .failed e) : e.isFramingIncomplete = false := by
  -- The loop fails with what a call tells or with an alarm, and neither gives a frame up
  induction hr with
  | closed _ _ | complete _ _ _ _ _ | idle _ _ _ _ => exact nomatch he
  | failed _ _ =>
    cases he
    exact not_isFramingIncomplete_receiveError _ _
  | slow _ _ _ htrack =>
    cases he
    exact not_isFramingIncomplete_of_trackReceive htrack
  | interrupted _ _ _ ih | more _ _ _ _ _ _ ih | again _ _ _ _ _ ih => exact ih he

/-- How a receiving loop that does not give its frame up is concluded. -/
inductive Concludes (r : Reception σ φ) :
    Except NetworkError (Incoming σ) → ReceiveBooks → Prop
  | completed {answer : Except NetworkError (Incoming σ)}
      (hdone : r.pause = .idle → Framer.isComplete r.framer = true)
      (hends : endsFrame answer = true) (hgives : givesUp answer = false) :
      Concludes r answer r.client.receiveBooks.refill
  | givenUp {answer : Except NetworkError (Incoming σ)} (hpause : r.pause = .idle)
      (hany : r.receivedAny = false) (hzero : r.client.readAttempts = 0)
      (hgives : givesUp answer = true) : Concludes r answer r.client.receiveBooks.refill
  | goesOn {answer : Except NetworkError (Incoming σ)}
      (hleft : r.pause = .idle → r.receivedAny = true ∨ r.client.readAttempts ≠ 0)
      (hends : endsFrame answer = false) : Concludes r answer r.client.receiveBooks

/-- How `readOutcome` ends a read, and what it does to the books. -/
theorem concludes_readOutcome {r : Reception σ φ}
    (hpause : ∀ e, r.pause = .failed e → e.isFramingIncomplete = false) :
    Concludes r (readOutcome r).1.1 (readOutcome r).1.2.receiveBooks := by
  obtain ⟨pause, receivedAny, client, framer⟩ := r
  cases pause with
  | failed e => exact .goesOn nofun (hpause e rfl)
  | closed =>
    unfold readOutcome
    dsimp only
    split
    · exact .completed nofun rfl rfl
    · split
      · exact .completed nofun rfl rfl
      · exact .goesOn nofun rfl
  | idle =>
    unfold readOutcome
    dsimp only
    split
    · rename_i hdone
      exact .completed (fun _ => hdone) rfl rfl
    · split
      · -- the last attempt went with a read that brought nothing
        rename_i hspent
        simp only [Bool.and_eq_true, Bool.not_eq_true', decide_eq_true_eq] at hspent
        exact .givenUp rfl hspent.1 hspent.2 rfl
      · rename_i hleft
        simp only [Bool.and_eq_true, Bool.not_eq_true', decide_eq_true_eq,
          Decidable.not_and_iff_not_or_not, Bool.not_eq_false] at hleft
        exact .goesOn (fun _ => hleft) rfl

/-- What a read that makes these calls does to the books `b`. -/
inductive Spends (b : ReceiveBooks) (calls : List Exchange) :
    Except NetworkError (Incoming σ) → ReceiveBooks → Prop
  /-- It brings bytes, or completes its frame. -/
  | refills {answer : Except NetworkError (Incoming σ)}
      (hends : calls.any Exchange.bringsBytes = true ∨ endsFrame answer = true)
      (hdry : Exchange.areDry calls = false) (hgives : givesUp answer = false) :
      Spends b calls answer b.refill
  /-- It is dry, and uses the budget up. -/
  | exhausts {answer : Except NetworkError (Incoming σ)} (hdry : Exchange.areDry calls = true)
      (hzero : b.dry.attempts = 0) (hgives : givesUp answer = true) :
      Spends b calls answer b.refill
  /-- It is dry. -/
  | counts {answer : Except NetworkError (Incoming σ)} (hdry : Exchange.areDry calls = true)
      (hleft : b.dry.attempts ≠ 0) (hends : endsFrame answer = false) :
      Spends b calls answer b.dry
  | keeps {answer : Except NetworkError (Incoming σ)}
      (hbytes : calls.any Exchange.bringsBytes = false) (hdry : Exchange.areDry calls = false)
      (hends : endsFrame answer = false) : Spends b calls answer b

/-- A receiving loop behind calls that brought nothing, and its conclusion. -/
theorem Draws.spends {c : Client (Traced σ)} {f : φ} {calls : List Exchange}
    {r : Reception (Traced σ) φ} (h : Draws c f false calls r) {before : List Exchange}
    (hbefore : before.any Exchange.bringsBytes = false) (hopen : Framer.isComplete f = false)
    (hleft : 1 ≤ c.readAttempts)
    (hpause : ∀ e, r.pause = .failed e → e.isFramingIncomplete = false) :
    Spends c.receiveBooks (before ++ calls) (readOutcome r).1.1
      (readOutcome r).1.2.receiveBooks := by
  have hconcludes := concludes_readOutcome hpause
  generalize (readOutcome r).1.1 = answer at hconcludes
  generalize (readOutcome r).1.2.receiveBooks = b' at hconcludes
  have hany : (before ++ calls).any Exchange.bringsBytes = calls.any Exchange.bringsBytes := by
    rw [List.any_append, hbefore, Bool.false_or]
  -- What the loop did to the books leaves at most three conclusions each time.
  cases h with
  | received hbytes hreceived hbooks =>
    have hdry : Exchange.areDry (before ++ calls) = false := by
      rw [Exchange.areDry, hany, hbytes]
      rfl
    have hends : (before ++ calls).any Exchange.bringsBytes = true := hany.trans hbytes
    cases hconcludes with
    | completed _ _ hgives =>
      rw [hbooks]
      exact .refills (.inl hends) hdry hgives
    | givenUp _ hnone _ _ =>
      -- No frame is given up in which bytes came
      exact absurd (hreceived.symm.trans hnone) (by decide)
    | goesOn _ hgoes =>
      rw [hbooks]
      exact .refills (.inl hends) hdry (not_givesUp_of_not_endsFrame hgoes)
  | dry hbytes hends _ hnone hidle hframer hbooks =>
    have hdry : Exchange.areDry (before ++ calls) = true := by
      rw [Exchange.areDry, hany, hbytes, hends]
      rfl
    have hattempts : r.client.readAttempts = c.receiveBooks.dry.attempts :=
      congrArg ReceiveBooks.attempts hbooks
    cases hconcludes with
    | completed hdone _ _ =>
      -- The framer was open, and a dry loop does not feed it
      have hcomplete := hdone hidle
      rw [hframer, hopen] at hcomplete
      exact absurd hcomplete (by decide)
    | givenUp _ _ hzero hgives =>
      have hrefilled : r.client.receiveBooks.refill = c.receiveBooks.refill := by
        rw [hbooks, ReceiveBooks.refill_dry]
      rw [hrefilled]
      exact .exhausts hdry (hattempts ▸ hzero) hgives
    | goesOn hgoes hopen' =>
      rw [hbooks]
      refine .counts hdry (hattempts ▸ (hgoes hidle).resolve_left ?_) hopen'
      rw [hnone]
      decide
  | other hbytes hends hnone hbooks =>
    have hdry : Exchange.areDry (before ++ calls) = false := by
      rw [Exchange.areDry, hends rfl, Bool.and_false]
    cases hconcludes with
    | completed _ hdone hgives =>
      rw [hbooks]
      exact .refills (.inr hdone) hdry hgives
    | givenUp _ _ hzero _ =>
      -- The budget was not used up before, and only a dry read takes from it
      have hattempts : r.client.readAttempts = c.readAttempts :=
        congrArg ReceiveBooks.attempts hbooks
      omega
    | goesOn _ hopen' =>
      rw [hbooks]
      exact .keeps (hany.trans hbytes) hdry hopen'

/-- A read of a client with a budget left keeps the books by the calls that it makes. -/
theorem spends_readStream {c : Client (Traced σ)} (hnone : c.socket.exchanges = [])
    (hleft : 1 ≤ c.readAttempts) (now : Clock) (f : φ) (ch : Channel) :
    Spends c.receiveBooks (c.readStream now f ch).1.2.socket.exchanges
      (c.readStream now f ch).1.1 (c.readStream now f ch).1.2.receiveBooks := by
  -- Finding the connection brings no bytes, and neither does what was left over
  have hensures : ∀ {c₁ : Client (Traced σ)} {answer : Except NetworkError Bool},
      c.ensureConnected now.first = (answer, c₁) → c₁.receiveBooks = c.receiveBooks ∧
        c₁.socket.exchanges.any Exchange.bringsBytes = false ∧
        Exchange.areDry c₁.socket.exchanges = false := by
    intro c₁ answer hensured
    obtain ⟨asked, hasked, hasks⟩ := (ensures_ensureConnected hensured).asked
    rw [hnone, List.nil_append] at hasked
    rw [hasked]
    exact ⟨(books_ensureConnected hensured).1, Exchange.not_any_bringsBytes_of_asksState hasks,
      Exchange.not_areDry_of_asksState hasks⟩
  have hreplays : ∀ {c₁ c₂ : Client (Traced σ)} {f₂ : φ},
      (c₁.anchorReceive now.first).replay f ch = (c₂, f₂) →
      c₂.socket = c₁.socket ∧ c₂.receiveBooks = c₁.receiveBooks := by
    intro c₁ c₂ f₂ hreplay
    rw [← show _ = c₂ from congrArg Prod.fst hreplay]
    exact ⟨socket_replay _ f ch, receiveBooks_replay _ f ch⟩
  have hreads := reads_readStream c now f ch
  generalize c.readStream now f ch = r at hreads
  cases hreads with
  | refused hchannel =>
    obtain ⟨what, rfl⟩ := exists_unsupported_of_checkChannel hchannel
    rw [show c.socket.exchanges = [] from hnone]
    exact .keeps rfl rfl rfl
  | @failed c₁ e hensured =>
    obtain ⟨hbooks, hbytes, hdry⟩ := hensures hensured
    have hends : e.isFramingIncomplete = false :=
      error_of_ensureConnected hensured (fun _ _ => rfl) (fun _ => rfl) fun _ => rfl
    rw [show c₁.receiveBooks = _ from hbooks]
    exact .keeps hbytes hdry hends
  | @waiting c₁ hensured =>
    obtain ⟨hbooks, hbytes, hdry⟩ := hensures hensured
    rw [show c₁.receiveBooks = _ from hbooks]
    exact .keeps hbytes hdry rfl
  | ready hensured _ =>
    obtain ⟨hbooks, _, hdry⟩ := hensures hensured
    rw [← hbooks]
    exact .refills (.inr rfl) hdry rfl
  | replayed hensured hreplay _ =>
    obtain ⟨hbooks, _, hdry⟩ := hensures hensured
    obtain ⟨hsocket, hbooks₂⟩ := hreplays hreplay
    rw [← hbooks, ← hbooks₂]
    rw [← hsocket] at hdry
    exact .refills (.inr rfl) hdry rfl
  | @received c₁ c₂ f₂ r hensured hreplay hopen hloop =>
    obtain ⟨hbooks, hbytes, _⟩ := hensures hensured
    obtain ⟨hsocket, hbooks₂⟩ := hreplays hreplay
    obtain ⟨calls, hcalls, hdraws⟩ := draws_receives hloop
    have hleft₂ : c₂.readAttempts = c.readAttempts :=
      congrArg ReceiveBooks.attempts (hbooks₂.trans hbooks)
    rw [← hsocket] at hbytes
    rw [← hbooks, ← hbooks₂, socket_readOutcome, hcalls]
    exact hdraws.spends hbytes hopen (hleft₂ ▸ hleft) fun e he => hloop.not_isFramingIncomplete he

/-! ## Runs -/

omit [Endpoint σ] in
/-- Whether a frame ends does not depend on the socket. -/
@[simp] theorem endsFrame_map {τ : Type} (g : τ → σ) (answer : Except NetworkError (Incoming τ)) :
    endsFrame (answer.map (Incoming.map g)) = endsFrame answer := by
  cases answer with
  | error e => rfl
  | ok incoming => cases incoming <;> rfl

omit [Endpoint σ] in
/-- Whether a read gives up does not depend on the socket. -/
@[simp] theorem givesUp_map {τ : Type} (g : τ → σ) (answer : Except NetworkError (Incoming τ)) :
    givesUp (answer.map (Incoming.map g)) = givesUp answer := by
  cases answer with
  | error e => rfl
  | ok incoming => rfl

omit [Endpoint σ] in
/-- The books do not see what socket an answer is about. -/
theorem Spends.map {τ : Type} {b b' : ReceiveBooks} {calls : List Exchange}
    {answer : Except NetworkError (Incoming τ)} (h : Spends b calls answer b') (g : τ → σ) :
    Spends b calls (answer.map (Incoming.map g)) b' := by
  cases h with
  | refills hends hdry hgives => exact .refills (by simpa using hends) hdry (by simpa using hgives)
  | exhausts hdry hzero hgives => exact .exhausts hdry hzero (by simpa using hgives)
  | counts hdry hleft hends => exact .counts hdry hleft (by simpa using hends)
  | keeps hbytes hdry hends => exact .keeps hbytes hdry (by simpa using hends)

/-- What a read of a client does to the books. -/
theorem spends_read {c : Client σ} (hleft : 1 ≤ c.readAttempts) (now : Clock) (f : φ)
    (ch : Channel) :
    Spends c.receiveBooks (c.exchangesOf .stream (.read now f ch : Step σ φ))
      (c.read .stream now f ch).1.1 (c.read .stream now f ch).1.2.receiveBooks := by
  have htraced := spends_readStream (c := c.traced) rfl hleft now f ch
  -- The traced client answers the same, and keeps the same books
  have hanswer : (c.read .stream now f ch).1.1 =
      (c.traced.readStream now f ch).1.1.map (Incoming.map Traced.socket) :=
    congrArg (fun r => r.1.1) (c.read_traced .stream now f ch)
  have hbooks : (c.read .stream now f ch).1.2.receiveBooks =
      (c.traced.readStream now f ch).1.2.receiveBooks :=
    congrArg (fun r => r.1.2.receiveBooks) (c.read_traced .stream now f ch)
  show Spends _ (c.traced.readStream now f ch).1.2.socket.exchanges _ _
  rw [hanswer, hbooks]
  exact htraced.map Traced.socket

/-- How many dry reads there have been since the budget was full, if it was `n` before a read
    that made these calls. -/
def countDry (n : Nat) (calls : List Exchange) (answer : Except NetworkError (Incoming σ)) :
    Nat :=
  if calls.any Exchange.bringsBytes || endsFrame answer then 0
  else if Exchange.areDry calls then n + 1
  else n

/-- How many there have been, if it was `n` before a step. -/
def dryReadsAfter (c : Client σ) (n : Nat) : Step σ φ → Nat
  | .read now f ch =>
    countDry n (c.exchangesOf .stream (.read now f ch : Step σ φ)) (c.read .stream now f ch).1.1
  | .resetTransfer => 0
  | .world _ | .write _ _ _ => n

/-- How many there have been, if it was `n` before a run. -/
def dryReadsIn (c : Client σ) (n : Nat) : List (Step σ φ) → Nat
  | [] => n
  | step :: steps => (c.after .stream step).dryReadsIn (c.dryReadsAfter n step) steps

section Counting

variable {b b' : ReceiveBooks} {calls : List Exchange}
  {answer : Except NetworkError (Incoming σ)} {budget n : Nat}

omit [Endpoint σ] in
/-- A read that gives up ends its frame. -/
theorem endsFrame_of_givesUp (h : givesUp answer = true) : endsFrame answer = true := by
  cases answer with
  | error e => exact h
  | ok _ => exact nomatch h

omit [Endpoint σ] in
/-- The books count the dry reads. -/
theorem Spends.counts_of (hs : Spends b calls answer b') (h : b.Counts budget n) :
    b'.Counts budget (countDry n calls answer) := by
  unfold countDry
  cases hs with
  -- Bytes came, or the frame has ended: the count begins anew
  | refills hends hdry hgives =>
    rw [if_pos (Bool.or_eq_true _ _ ▸ hends)]
    exact h.refill
  | exhausts hdry hzero hgives =>
    rw [endsFrame_of_givesUp hgives, Bool.or_true, if_pos rfl]
    exact h.refill
  | counts hdry hleft hends =>
    rw [Exchange.not_bringsBytes_of_areDry hdry, hends, if_neg (by decide), if_pos hdry]
    -- As long as an attempt is left, the dry reads are fewer than two for each
    obtain ⟨hzero, -⟩ | ⟨-, -, hcounts⟩ := h.dry
    · exact absurd hzero hleft
    · exact hcounts
  | keeps hbytes hdry hends =>
    rw [hbytes, hends, hdry, if_neg (by decide), if_neg (by decide)]
    exact h

omit [Endpoint σ] in
/-- The read that gives a frame up is the last dry one that the budget allows for. -/
theorem Spends.givesUp_iff (hs : Spends b calls answer b') (h : b.Counts budget n) :
    givesUp answer = true ↔ Exchange.areDry calls = true ∧ n + 1 = 2 * budget := by
  -- The count and the budget say the same of each way in which a read ends
  cases hs with
  | refills hends hdry hgives => simp [hgives, hdry]
  | exhausts hdry hzero hgives =>
    obtain ⟨-, hlast⟩ | ⟨hleft, -⟩ := h.dry
    · exact ⟨fun _ => ⟨hdry, hlast⟩, fun _ => hgives⟩
    · exact absurd hzero hleft
  | counts hdry hleft hends =>
    obtain ⟨hzero, -⟩ | ⟨-, hmore, -⟩ := h.dry
    · exact absurd hzero hleft
    · simp [not_givesUp_of_not_endsFrame hends, hmore]
  | keeps hbytes hdry hends => simp [not_givesUp_of_not_endsFrame hends, hdry]

omit [Endpoint σ] in
/-- A read that is not dry, brings nothing and does not end its frame keeps the books. -/
theorem Spends.eq_of_keeps (hs : Spends b calls answer b') (hdry : Exchange.areDry calls = false)
    (hbytes : calls.any Exchange.bringsBytes = false) (hends : endsFrame answer = false) :
    b' = b := by
  cases hs with
  | refills hends' _ _ => simp [hbytes, hends] at hends'
  | exhausts hdry' _ _ | counts hdry' _ _ => exact nomatch hdry'.symm.trans hdry
  | keeps _ _ _ => rfl

end Counting

/-- The books count the dry reads across every step. -/
theorem counts_after {c : Client σ} {budget n : Nat} (h : c.receiveBooks.Counts budget n)
    (step : Step σ φ) :
    (c.after .stream step).receiveBooks.Counts budget (c.dryReadsAfter n step) := by
  cases step with
  | world change => exact h
  | read now f ch => exact (spends_read h.one_le_attempts now f ch).counts_of h
  | write now data ch =>
    show (c.write .stream now data ch).2.receiveBooks.Counts budget n
    rw [receiveBooks_write]
    exact h
  | resetTransfer => exact h.refill

/-- And across every run. -/
theorem counts_run {c : Client σ} {budget n : Nat} (h : c.receiveBooks.Counts budget n)
    (steps : List (Step σ φ)) :
    (c.run .stream steps).receiveBooks.Counts budget (c.dryReadsIn n steps) := by
  induction steps generalizing c n with
  | nil => exact h
  | cons step steps ih => exact ih (counts_after h step)

/-- Which read gives its frame up, after any run of a stream client with a budget of at least
    one attempt.

    The run has left the budget with an attempt less for every two dry reads since it was full.
    The next read gives its frame up exactly if it is dry and the last that the budget allows
    for, and never if it brought bytes.  A read that is not dry, brings no bytes and does not
    end its frame leaves the budget alone. -/
theorem incomplete_run (socket : σ) (config : Config) (made : Duration)
    (hbudget : 1 ≤ config.readAttempts) (steps : List (Step σ φ)) :
    let start := make .stream socket config made
    let c := start.run .stream steps
    let n := start.dryReadsIn 0 steps
    (n < 2 * config.readAttempts ∧ c.readAttempts = config.readAttempts - n / 2 ∧
      c.dryReads = n % 2) ∧
    (1 ≤ c.readAttempts ∧ c.readAttempts ≤ config.readAttempts ∧ c.dryReads ≤ 1) ∧
    ∀ (now : Clock) (f : φ) (ch : Channel),
      let answer := (c.read .stream now f ch).1
      let calls := c.exchangesOf .stream (.read now f ch : Step σ φ)
      (givesUp answer.1 = true ↔
        Exchange.areDry calls = true ∧ n + 1 = 2 * config.readAttempts) ∧
      (calls.any Exchange.bringsBytes = true → givesUp answer.1 = false) ∧
      (Exchange.areDry calls = false → calls.any Exchange.bringsBytes = false →
        endsFrame answer.1 = false →
        answer.2.readAttempts = c.readAttempts ∧ answer.2.dryReads = c.dryReads) := by
  intro start c n
  have hcounts : c.receiveBooks.Counts config.readAttempts n := by
    have hstart : start.receiveBooks.Counts config.readAttempts 0 := ⟨rfl, by omega, rfl, rfl⟩
    exact counts_run hstart steps
  have hattempts : c.readAttempts = config.readAttempts - n / 2 := hcounts.attempts
  have hstreak : c.dryReads = n % 2 := hcounts.streak
  have hleft : 1 ≤ c.readAttempts := hcounts.one_le_attempts
  refine ⟨⟨hcounts.lt, hattempts, hstreak⟩, ⟨hleft, by omega, by omega⟩, fun now f ch => ?_⟩
  intro answer calls
  have hspends : Spends c.receiveBooks calls answer.1 answer.2.receiveBooks :=
    spends_read hleft now f ch
  -- The books say how many dry reads there were, so this one can be told from the last
  have hgives := hspends.givesUp_iff hcounts
  refine ⟨hgives, fun hbytes => ?_, fun hdry hbytes hends => ?_⟩
  · rw [Bool.eq_false_iff, ne_eq, hgives]
    rintro ⟨hdry, -⟩
    exact nomatch hbytes.symm.trans (Exchange.not_bringsBytes_of_areDry hdry)
  · have hbooks := hspends.eq_of_keeps hdry hbytes hends
    exact ⟨congrArg ReceiveBooks.attempts hbooks, congrArg ReceiveBooks.streak hbooks⟩

/-- A budget of one attempt is used up by the second of two reads that find nothing. -/
theorem incomplete_run_silent :
    let socket : ScriptedSocket :=
      { id := ⟨1⟩, transport := .tcp, peer := .ok (some "10.0.0.2:4000") }
    let config : Config := { readAttempts := 1 }
    let read : Step ScriptedSocket Framer.SingleChunk := .read .zero .start .regular
    let start := make .stream socket config .zero
    let c := start.run .stream [read]
    1 ≤ config.readAttempts ∧ start.dryReadsIn 0 [read] = 1 ∧
      Exchange.areDry (c.exchangesOf .stream read) = true ∧
      givesUp (c.read .stream .zero Framer.SingleChunk.start .regular).1.1 = true := by
  intro socket config read start c
  -- What the first read leaves
  let dry : Client ScriptedSocket :=
    { start.markConnected "10.0.0.2:4000" with
      socket := { socket with
        calls := [.peek .regular, .recv .regular start.bufferSize, .remoteAddress] }
      dryReads := 1 }
  have hfirst : start.readStream .zero Framer.SingleChunk.start .regular = readOutcome _ :=
    readStream_of_dry rfl rfl rfl rfl rfl rfl rfl rfl
  have htraced : start.traced.readStream .zero Framer.SingleChunk.start .regular = readOutcome _ :=
    readStream_of_dry rfl rfl rfl rfl rfl rfl rfl rfl
  have hsecond : dry.traced.readStream .zero Framer.SingleChunk.start .regular = readOutcome _ :=
    readStream_of_dry rfl rfl rfl rfl rfl rfl rfl rfl
  have hc : c = dry := by
    show (start.readStream .zero Framer.SingleChunk.start .regular).1.2 = dry
    rw [hfirst]
    rfl
  have hcount : start.dryReadsIn 0 [read] = 1 := by
    show countDry 0
      (start.traced.readStream .zero Framer.SingleChunk.start .regular).1.2.socket.exchanges
      (start.readStream .zero Framer.SingleChunk.start .regular).1.1 = 1
    rw [htraced, hfirst]
    rfl
  have hdry : Exchange.areDry (c.exchangesOf .stream read) = true := by
    rw [hc]
    show Exchange.areDry
      (dry.traced.readStream .zero Framer.SingleChunk.start .regular).1.2.socket.exchanges = true
    rw [hsecond]
    rfl
  have hlast : start.dryReadsIn 0 [read] + 1 = 2 * config.readAttempts := by
    rw [hcount]
    rfl
  have hgives := ((incomplete_run socket config .zero (by decide) [read]).2.2
    .zero .start .regular).1.mpr ⟨hdry, hlast⟩
  exact ⟨by decide, hcount, hdry, hgives⟩

end Client

end FrameSocket
