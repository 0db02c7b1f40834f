import FrameSocket.Proofs.DryReads
import FrameSocket.Proofs.Stalls

/-!
# Meters of a socket

The loops of a client have no counter.  What bounds them is the socket: a call after which
there is another one has used something up, an item or some bytes of a queue, or an answer of
a script.  A *meter* is a number that no call of the socket raises, and that such calls
lower; the calls of an operation are then bounded by the meter and the few calls that end a
loop.  One induction on each loop serves all meters.

## Key results

- `within_receives` / `within_receiveDatagram`: what a receiving loop takes from a meter
- `within_sendAll` / `within_sendUrgent` / `within_sendDatagram`: what a sending loop takes
- `within_read` / `within_write`: what the operations of a client take
- `bufferSize_run`: a client offers the buffer that is configured, and never an empty one
-/

namespace FrameSocket

/-! ## Calls by their kind -/

namespace Exchange

/-- Whether a call receives. -/
def isReceive : Exchange → Bool
  | .recv .. | .recvFrom .. => true
  | _ => false

/-- Whether a receiving call found nothing there. -/
def findsNothing : Exchange → Bool
  | .recv ch _ answer => (Client.Received.of ch answer).isNothing
  | .recvFrom _ (.error e) => e.isBlocked
  | _ => false

/-- The size of the buffer that a receiving call offered. -/
def buffer? : Exchange → Option Nat
  | .recv _ size _ | .recvFrom size _ => some size
  | _ => none

/-- Whether a receiving call on the regular channel answered no bytes. -/
def isEmptyAnswer : Exchange → Bool
  | .recv .regular _ (.ok []) | .recvFrom _ (.ok ([], _)) => true
  | _ => false

/-- A `recv` with an empty answer has brought no bytes. -/
theorem eq_of_isEmptyAnswer_recv {n : Nat} {answer : Except IoError Bytes}
    (h : (recv .regular n answer).isEmptyAnswer = true) : answer = .ok [] := by
  cases answer with
  | error e => cases h
  | ok bytes =>
    cases bytes with
    | nil => rfl
    | cons b bytes => cases h

/-- A `recvFrom` with an empty answer has brought an empty datagram. -/
theorem eq_of_isEmptyAnswer_recvFrom {n : Nat} {answer : Except IoError (Bytes × Option String)}
    (h : (recvFrom n answer).isEmptyAnswer = true) : ∃ origin, answer = .ok ([], origin) := by
  cases answer with
  | error e => cases h
  | ok got =>
    obtain ⟨bytes, origin⟩ := got
    cases bytes with
    | nil => exact ⟨origin, rfl⟩
    | cons b bytes => cases h

end Exchange

namespace Client

/-! ## Meters -/

section Meters

variable {σ : Type} [Endpoint σ]

/-- `m` is a meter for the calls that `p` picks. -/
structure IsMeter (m : σ → Nat) (p : Exchange → Bool) : Prop where
  /-- Only receiving and sending calls are picked. -/
  quiet : ∀ x, x.isReceive = false → x.isSend = false → p x = false
  remoteAddress_le : ∀ s, m (Endpoint.remoteAddress s).2 ≤ m s
  takeError_le : ∀ s, m (Endpoint.takeError s).2 ≤ m s
  recv_le : ∀ s ch n, m (Endpoint.recv s ch n).2 ≤ m s
  recvFrom_le : ∀ s n, m (Endpoint.recvFrom s n).2 ≤ m s
  peek_le : ∀ s ch, m (Endpoint.peek s ch).2 ≤ m s
  send_le : ∀ s ch data, m (Endpoint.send s ch data).2 ≤ m s
  /-- A receiving call that brings bytes or is interrupted is paid for. -/
  recv_paid : ∀ s ch n, let x := .recv ch n (Endpoint.recv s ch n).1
    (∃ bytes, Received.of ch (Endpoint.recv s ch n).1 = .data bytes) ∨
      Received.of ch (Endpoint.recv s ch n).1 = .interrupted →
    (p x).toNat + m (Endpoint.recv s ch n).2 ≤ m s
  recvFrom_paid : ∀ s n e, (Endpoint.recvFrom s n).1 = .error e → e.isInterrupted = true →
    (p (.recvFrom n (.error e))).toNat + m (Endpoint.recvFrom s n).2 ≤ m s
  /-- So is a sending call that is interrupted. -/
  send_paid : ∀ s ch data e, (Endpoint.send s ch data).1 = .error e → e.isInterrupted = true →
    (p (.send ch data (.error e))).toNat + m (Endpoint.send s ch data).2 ≤ m s

/-- Nothing is picked, and nothing has to be paid for. -/
theorem isMeter_zero : IsMeter (fun _ : σ => 0) (fun _ => false) :=
  ⟨fun _ _ _ => rfl, fun _ => Nat.le_refl _, fun _ => Nat.le_refl _, fun _ _ _ => Nat.le_refl _,
    fun _ _ => Nat.le_refl _, fun _ _ => Nat.le_refl _, fun _ _ _ => Nat.le_refl _,
    fun _ _ _ _ => Nat.le_refl _, fun _ _ _ _ _ => Nat.le_refl _,
    fun _ _ _ _ _ _ => Nat.le_refl _⟩

/-- A receiving call that finds nothing brings no bytes and is not interrupted, so that
    nothing has to be paid for. -/
theorem isMeter_findsNothing : IsMeter (fun _ : σ => 0) Exchange.findsNothing where
  quiet x hreceive _ := by
    cases x <;> first | rfl | exact nomatch hreceive
  remoteAddress_le _ := Nat.le_refl _
  takeError_le _ := Nat.le_refl _
  recv_le _ _ _ := Nat.le_refl _
  recvFrom_le _ _ := Nat.le_refl _
  peek_le _ _ := Nat.le_refl _
  send_le _ _ _ := Nat.le_refl _
  -- A call that is made again has brought bytes or was interrupted, so it found something
  recv_paid s ch n := by
    rintro x (⟨bytes, hof⟩ | hof)
    · simp [x, Exchange.findsNothing, hof, Received.isNothing]
    · simp [x, Exchange.findsNothing, hof, Received.isNothing]
  recvFrom_paid s n e _ hinterrupted := by
    simp [Exchange.findsNothing, IoError.isBlocked_of_isInterrupted hinterrupted]
  send_paid _ _ _ _ _ _ := Nat.le_refl _

end Meters

/-! ## What an operation takes from a meter -/

/-- From `c` to `c'` no call was made, and receiving calls offer the same buffer. -/
structure Still {σ : Type} (c c' : Client σ) : Prop where
  socket : c'.socket = c.socket
  bufferSize : c'.bufferSize = c.bufferSize

namespace Still

variable {σ φ : Type} [Framer φ] {c c' c'' : Client σ}

/-- `Still` steps can be taken one after the other. -/
theorem trans (h : Still c c') (h' : Still c' c'') : Still c c'' :=
  ⟨h'.socket.trans h.socket, h'.bufferSize.trans h.bufferSize⟩

/-- `Booked` steps are `Still`. -/
theorem of_booked (h : Booked c c') : Still c c' := ⟨h.socket, h.bufferSize⟩

/-- `keep` is `Still`. -/
theorem keep (c : Client σ) (ch : Channel) (rest : Bytes) (origin : Option String) :
    Still c (c.keep ch rest origin) := by
  refine ⟨socket_keep c ch rest origin, ?_⟩
  unfold Client.keep
  split <;> rfl

/-- `replay` is `Still`. -/
theorem replay (c : Client σ) (f : φ) (ch : Channel) : Still c (c.replay f ch).1 := by
  refine ⟨socket_replay c f ch, ?_⟩
  unfold Client.replay
  split
  · rfl
  · exact (keep _ ch _ _).bufferSize

/-- `feed` is `Still`. -/
theorem feed {c₁ : Client σ} {f f₁ : φ} {ch : Channel} {data : Bytes} {origin : Option String}
    (hfeed : c.feed f ch data origin = (c₁, f₁)) : Still c c₁ := by
  obtain rfl : _ = c₁ := congrArg Prod.fst hfeed
  exact keep c ch _ _

/-- Neither the framer that is fed nor the watchdog that is told makes a call. -/
theorem fed {c₁ c₂ : Client σ} {f f₁ : φ} {ch : Channel} {data : Bytes}
    {origin : Option String} {now : Duration} {bytes : Nat} {tracked : Except NetworkError Unit}
    (hfeed : c.feed f ch data origin = (c₁, f₁))
    (htrack : c₁.trackReceive now bytes = (tracked, c₂)) : Still c c₂ :=
  (feed hfeed).trans (of_booked (.trackReceive htrack))

variable [Endpoint σ]

/-- `receiveError` is `Still`. -/
theorem receiveError (c : Client σ) (e : IoError) : Still c (c.receiveError e).2 := by
  refine ⟨socket_receiveError c e, ?_⟩
  unfold Client.receiveError
  split <;> rfl

/-- `sendError` is `Still`. -/
theorem sendError (c : Client σ) (e : IoError) : Still c (c.sendError e).2 := by
  refine ⟨socket_sendError c e, ?_⟩
  unfold Client.sendError
  split <;> rfl

/-- `readOutcome` is `Still`. -/
theorem readOutcome (r : Reception σ φ) : Still r.client (readOutcome r).1.2 := by
  refine ⟨socket_readOutcome r, ?_⟩
  unfold Client.readOutcome
  split
  · rfl
  · dsimp only
    split
    · rfl
    · split
      · split <;> rfl
      · split <;> rfl

end Still

section Operations

variable {σ φ : Type} [Endpoint σ] [Framer φ] {m : σ → Nat} {p : Exchange → Bool}

/-- From `c` to `c'` calls were made.  Those that `p` picks are no more than `n` and what
    they took from `m`, and receiving calls were offered the buffer of the client. -/
structure Took (m : σ → Nat) (p : Exchange → Bool) (n : Nat) (c c' : Client (Traced σ))
    (calls : List Exchange) : Prop where
  record : c'.socket.exchanges = c.socket.exchanges ++ calls
  bufferSize : c'.bufferSize = c.bufferSize
  offered : ∀ x ∈ calls, ∀ size, x.buffer? = some size → size = c.bufferSize
  picked : calls.countP p + m c'.socket.socket ≤ m c.socket.socket + n

/-- Some calls lead from `c` to `c'`, of which `p` picks at most `n` beyond what they took from the
    measure `m`. -/
def Within (m : σ → Nat) (p : Exchange → Bool) (n : Nat) (c c' : Client (Traced σ)) : Prop :=
  ∃ calls, Took m p n c c' calls

namespace Within

variable {n n' : Nat} {c c' c'' : Client (Traced σ)} {s : Traced σ}

omit [Endpoint σ] in
/-- `Still` steps make no calls. -/
theorem of_still (h : Still c c') : Within m p 0 c c' := by
  refine ⟨[], ?_, h.bufferSize, nofun, ?_⟩
  · rw [h.socket, List.append_nil]
  · rw [h.socket]
    exact Nat.le_of_eq (Nat.zero_add _)

omit [Endpoint σ] in
/-- A bound may be raised. -/
theorem mono (h : Within m p n c c') (hle : n ≤ n') : Within m p n' c c' := by
  obtain ⟨calls, htook⟩ := h
  exact ⟨calls, htook.record, htook.bufferSize, htook.offered,
    Nat.le_trans htook.picked (Nat.add_le_add_left hle _)⟩

omit [Endpoint σ] in
/-- The bounds of steps that follow each other add up. -/
theorem trans (h : Within m p n c c') (h' : Within m p n' c' c'') :
    Within m p (n + n') c c'' := by
  obtain ⟨calls, htook⟩ := h
  obtain ⟨calls', htook'⟩ := h'
  refine ⟨calls ++ calls', ?_, htook'.bufferSize.trans htook.bufferSize,
    fun x hx size hsize => ?_, ?_⟩
  · rw [htook'.record, htook.record, List.append_assoc]
  · rcases List.mem_append.mp hx with hx | hx
    · exact htook.offered x hx size hsize
    · exact (htook'.offered x hx size hsize).trans htook.bufferSize
  · have hpicked := htook.picked
    have hpicked' := htook'.picked
    rw [List.countP_append]
    omega

omit [Endpoint σ] in
/-- What makes no call comes for free. -/
theorem still (h : Within m p n c c') (h' : Still c' c'') : Within m p n c c'' :=
  h.trans (of_still h')

omit [Endpoint σ] in
/-- A single call is within the bound that pays for it. -/
theorem of_call {x : Exchange} (hrecord : s.exchanges = c.socket.exchanges ++ [x])
    (hoffered : ∀ size, x.buffer? = some size → size = c.bufferSize)
    (hpaid : (p x).toNat + m s.socket ≤ m c.socket.socket + n) :
    Within m p n c { c with socket := s } := by
  refine ⟨[x], hrecord, rfl, fun y hy size hsize => ?_, ?_⟩
  · rw [List.mem_singleton.mp hy] at hsize
    exact hoffered size hsize
  · refine Nat.le_trans (Nat.add_le_add_right ?_ _) hpaid
    cases hx : p x <;> simp [hx]

end Within

variable {c c' : Client (Traced σ)} {s s' : Traced σ} (hm : IsMeter m p)
include hm

/-! Single calls -/

/-- A `recv` is one call. -/
theorem within_recv {ch : Channel} {answer : Except IoError Bytes}
    (hrecv : Endpoint.recv c.socket ch c.bufferSize = (answer, s)) :
    Within m p 1 c { c with socket := s } := by
  refine .of_call (Traced.exchanges_recv hrecv) (fun _ hsize => (Option.some.inj hsize).symm) ?_
  have hle := hm.recv_le c.socket.socket ch c.bufferSize
  rw [Traced.isView.recv_eq hrecv] at hle
  dsimp only at hle
  have hone := Bool.toNat_le (p (.recv ch c.bufferSize answer))
  omega

/-- A call after which the loop goes on is paid for. -/
theorem within_recv_paid {ch : Channel} {answer : Except IoError Bytes}
    (hrecv : Endpoint.recv c.socket ch c.bufferSize = (answer, s))
    (hof : (∃ bytes, Received.of ch answer = .data bytes) ∨
      Received.of ch answer = .interrupted) : Within m p 0 c { c with socket := s } := by
  refine .of_call (Traced.exchanges_recv hrecv) (fun _ hsize => (Option.some.inj hsize).symm) ?_
  have hpaid := hm.recv_paid c.socket.socket ch c.bufferSize
  rw [Traced.isView.recv_eq hrecv] at hpaid
  exact hpaid hof

/-- A `recvFrom` is one call. -/
theorem within_recvFrom {answer : Except IoError (Bytes × Option String)}
    (hrecv : Endpoint.recvFrom c.socket c.bufferSize = (answer, s)) :
    Within m p 1 c { c with socket := s } := by
  refine .of_call (Traced.exchanges_recvFrom hrecv) (fun _ hsize => (Option.some.inj hsize).symm) ?_
  have hle := hm.recvFrom_le c.socket.socket c.bufferSize
  rw [Traced.isView.recvFrom_eq hrecv] at hle
  dsimp only at hle
  have hone := Bool.toNat_le (p (.recvFrom c.bufferSize answer))
  omega

/-- A `recvFrom` that is interrupted pays for itself. -/
theorem within_recvFrom_paid {e : IoError}
    (hrecv : Endpoint.recvFrom c.socket c.bufferSize = (.error e, s))
    (hinterrupted : e.isInterrupted = true) : Within m p 0 c { c with socket := s } := by
  refine .of_call (Traced.exchanges_recvFrom hrecv) (fun _ hsize => (Option.some.inj hsize).symm) ?_
  have hpaid := hm.recvFrom_paid c.socket.socket c.bufferSize e
  rw [Traced.isView.recvFrom_eq hrecv] at hpaid
  exact hpaid rfl hinterrupted

/-- A `peek` is never picked. -/
theorem within_peek {ch : Channel} {answer : Except IoError Nat}
    (hpeek : Endpoint.peek s ch = (answer, s')) :
    Within m p 0 { c with socket := s } { c with socket := s' } := by
  refine .of_call (c := { c with socket := s }) (Traced.exchanges_peek hpeek) nofun ?_
  have hle := hm.peek_le s.socket ch
  rw [Traced.isView.peek_eq hpeek] at hle
  rw [hm.quiet _ rfl rfl]
  simpa using hle

/-- A `send` is one call. -/
theorem within_send {ch : Channel} {data : Bytes} {answer : Except IoError Nat}
    (hsend : Endpoint.send c.socket ch data = (answer, s)) :
    Within m p 1 c { c with socket := s } := by
  refine .of_call (Traced.exchanges_send hsend) nofun ?_
  have hle := hm.send_le c.socket.socket ch data
  rw [Traced.isView.send_eq hsend] at hle
  dsimp only at hle
  have hone := Bool.toNat_le (p (.send ch data answer))
  omega

/-- A `send` that is interrupted pays for itself. -/
theorem within_send_paid {ch : Channel} {data : Bytes} {e : IoError}
    (hsend : Endpoint.send c.socket ch data = (.error e, s))
    (hinterrupted : e.isInterrupted = true) : Within m p 0 c { c with socket := s } := by
  refine .of_call (Traced.exchanges_send hsend) nofun ?_
  have hpaid := hm.send_paid c.socket.socket ch data e
  rw [Traced.isView.send_eq hsend] at hpaid
  exact hpaid rfl hinterrupted

/-- Finding out whether the connection stands takes nothing. -/
theorem within_ensured {answer : Except NetworkError Bool} {now : Duration}
    (hensured : c.ensureConnected now = (answer, c')) : Within m p 0 c c' := by
  -- The two calls that look for a peer are never picked, and take nothing from the measure
  have hremote : ∀ {answer : Except IoError (Option String)} {s : Traced σ},
      Endpoint.remoteAddress c.socket = (answer, s) → Within m p 0 c { c with socket := s } := by
    intro answer s hcall
    refine .of_call (Traced.exchanges_remoteAddress hcall) nofun ?_
    have hbare := Traced.isView.remoteAddress_view c.socket
    have hle := hm.remoteAddress_le c.socket.socket
    rw [hcall] at hbare
    rw [hbare] at hle
    rw [hm.quiet _ rfl rfl]
    simpa using hle
  have herror : ∀ {answer : Except IoError (Option IoError)} {s s' : Traced σ},
      Endpoint.remoteAddress c.socket = (.ok none, s) → Endpoint.takeError s = (answer, s') →
      Within m p 0 c { c with socket := s' } := by
    intro answer s s' hcall hcall'
    have hasked : Within m p 0 { c with socket := s } { c with socket := s' } := by
      refine .of_call (c := { c with socket := s }) (Traced.exchanges_takeError hcall') nofun ?_
      have hbare := Traced.isView.takeError_view s
      have hle := hm.takeError_le s.socket
      rw [hcall'] at hbare
      rw [hbare] at hle
      rw [hm.quiet _ rfl rfl]
      simpa using hle
    exact (hremote hcall).trans hasked
  cases finds_ensureConnected hensured with
  | stands _ => exact .of_still ⟨rfl, rfl⟩
  | gone _ _ => exact .of_still ⟨rfl, rfl⟩
  | named _ _ hcall => exact (hremote hcall).still ⟨rfl, rfl⟩
  | unreachable _ _ hcall => exact hremote hcall
  | unanswered _ _ hcall hcall' | failed _ _ hcall hcall' | late _ _ hcall hcall' _
  | waiting _ _ hcall hcall' _ => exact herror hcall hcall'

/-! ## Reads -/

/-- Bytes are received and fed. -/
theorem within_received {c₁ c₂ : Client (Traced σ)} {f f₁ : φ} {ch : Channel} {now : Duration}
    {bytes : Bytes} {answer : Except IoError Bytes} {tracked : Except NetworkError Unit}
    (hrecv : Endpoint.recv c.socket ch c.bufferSize = (answer, s))
    (hof : Received.of ch answer = .data bytes)
    (hfeed : { c with socket := s }.refillReads.feed f ch bytes none = (c₁, f₁))
    (htrack : c₁.trackReceive now bytes.length = (tracked, c₂)) : Within m p 0 c c₂ :=
  ((within_recv_paid hm hrecv (.inl ⟨bytes, hof⟩)).still
    (.of_booked (.refillReads _))).still (.fed hfeed htrack)

/-- A receiving loop takes one call more than it pays for, or two if it may look again. -/
theorem within_receives {now : Clock} {ch : Channel} {f : φ} {any retried : Bool}
    {r : Reception (Traced σ) φ} (h : Receives ch now c f any retried r) :
    Within m p (if retried then 1 else 2) c r.client := by
  have hone : ∀ retried : Bool, 1 ≤ if retried then 1 else 2 := by decide
  induction h with
  | closed hrecv _ => exact (within_recv hm hrecv).mono (hone _)
  | failed hrecv _ =>
    exact ((within_recv hm hrecv).still (.receiveError _ _)).mono (hone _)
  | interrupted hrecv hof _ ih =>
    exact ((within_recv_paid hm hrecv (.inr hof)).trans ih).mono (by omega)
  | slow hrecv hof hfeed htrack | complete hrecv hof hfeed htrack _ =>
    exact (within_received hm hrecv hof hfeed htrack).mono (Nat.zero_le _)
  | more hrecv hof hfeed htrack _ _ ih =>
    exact ((within_received hm hrecv hof hfeed htrack).trans ih).mono (by omega)
  | again hrecv _ hpeek _ _ ih =>
    -- The one retry, after which the loop ends with the next call that finds nothing
    exact ((within_recv hm hrecv).trans (within_peek hm hpeek)).trans ih
  | @idle now c f any retried answer s s' peeked hrecv _ hpeek _ =>
    have hbooked : Still { c with socket := s' } (if sawByte peeked || any
        then { c with socket := s' } else { c with socket := s' }.dryRead) := by
      split
      · exact ⟨rfl, rfl⟩
      · exact .of_booked (.dryRead _)
    exact (((within_recv hm hrecv).trans (within_peek hm hpeek)).still hbooked).mono
      (hone retried)

/-- `receiveDatagram` makes one call beyond those that are paid for. -/
theorem within_receiveDatagram (c : Client (Traced σ)) (now : Duration) (f : φ) :
    Within m p 1 c (c.receiveDatagram now f).1.2 := by
  fun_induction Client.receiveDatagram c now f with
  | case1 c data origin s hrecv c₁ f₁ hfeed e c₂ htrack =>
    exact (within_recvFrom hm hrecv).still (.fed hfeed htrack)
  | case2 c data origin s hrecv c₁ f₁ hfeed c₂ htrack hdone
  | case3 c data origin s hrecv c₁ f₁ hfeed c₂ htrack hdone =>
    exact ((within_recvFrom hm hrecv).still (.fed hfeed htrack)).still
      (.of_booked (.finishRead _))
  | case4 c e s hrecv c' hblocked => exact within_recvFrom hm hrecv
  -- An interrupted call is paid for, and made again
  | case5 c e s hrecv c' hblocked hinterrupted ih =>
    exact ((within_recvFrom_paid hm hrecv hinterrupted).trans ih).mono (by omega)
  | case6 c e s hrecv c' hblocked hinterrupted =>
    exact (within_recvFrom hm hrecv).still (.receiveError _ e)

/-- A read of a stream makes two calls beyond those that are paid for: the one that finds nothing,
    and the one after a peek that has seen a byte. -/
theorem within_readStream (c : Client (Traced σ)) (now : Clock) (f : φ) (ch : Channel) :
    Within m p 2 c (c.readStream now f ch).1.2 := by
  -- Up to the loop of the read no call is made but those that look for a peer
  have hreplayed : ∀ {c₁ c₂ : Client (Traced σ)} {f₂ : φ},
      (c₁.anchorReceive now.first).replay f ch = (c₂, f₂) → Still c₁ c₂ := by
    intro c₁ c₂ f₂ hreplay
    have hstill := Still.replay (c₁.anchorReceive now.first) f ch
    rw [hreplay] at hstill
    exact (Still.of_booked (.anchorReceive c₁ now.first)).trans hstill
  have hreads := reads_readStream c now f ch
  generalize c.readStream now f ch = result at hreads
  cases hreads with
  | refused _ => exact (Within.of_still ⟨rfl, rfl⟩).mono (Nat.zero_le _)
  | failed hensured | waiting hensured =>
    exact (within_ensured hm hensured).mono (Nat.zero_le _)
  | ready hensured _ =>
    exact (((within_ensured hm hensured).still (.of_booked (.anchorReceive _ now.first))).still
      (.of_booked (.finishRead _))).mono (Nat.zero_le _)
  | replayed hensured hreplay _ =>
    exact (((within_ensured hm hensured).still (hreplayed hreplay)).still
      (.of_booked (.finishRead _))).mono (Nat.zero_le _)
  | received hensured hreplay _ hloop =>
    have hreceived := ((within_ensured hm hensured).still (hreplayed hreplay)).trans
      (within_receives hm hloop)
    exact (hreceived.still (.readOutcome _)).mono (by simp)

/-- So does a read of datagrams, at most. -/
theorem within_readDatagram (c : Client (Traced σ)) (now : Clock) (f : φ) (ch : Channel) :
    Within m p 2 c (c.readDatagram now f ch).1.2 := by
  have hnone : ∀ {c' : Client (Traced σ)}, Still c c' → Within m p 2 c c' :=
    fun hstill => (Within.of_still hstill).mono (Nat.zero_le _)
  have hanchored : Still c (c.anchorReceive now.first) := .of_booked (.anchorReceive c now.first)
  have hreplayed := hanchored.trans (.replay (c.anchorReceive now.first) f .regular)
  -- Behind the leftovers there is the one datagram only
  unfold readDatagram
  split
  · exact hnone ⟨rfl, rfl⟩
  · dsimp only
    split
    · exact hnone (hanchored.trans (.of_booked (.finishRead _)))
    · split
      · exact hnone (hreplayed.trans (.of_booked (.finishRead _)))
      · exact ((Within.of_still hreplayed).trans
          (within_receiveDatagram hm _ now.later.first _)).mono
          (by decide)

/-- So does every read. -/
theorem within_read (kind : ClientKind) (c : Client (Traced σ)) (now : Clock) (f : φ)
    (ch : Channel) : Within m p 2 c (c.read kind now f ch).1.2 := by
  cases kind with
  | stream => exact within_readStream hm c now f ch
  | datagram => exact within_readDatagram hm c now f ch

/-! ## Writes -/

omit [Framer φ] in
/-- Each call but the last sends something or is paid for. -/
theorem within_sendAll (c : Client (Traced σ)) (now : Clock) (written : Nat) (data : Bytes) :
    Within m p (data.length + 1) c (c.sendAll now written data).2 := by
  fun_induction sendAll c now written data with
  | case1 c now written => exact (Within.of_still ⟨rfl, rfl⟩).mono (Nat.zero_le _)
  | case2 c now written b rest s hsend => exact (within_send hm hsend).mono (by simp)
  | case3 c now written b rest n s hsend e c' htrack =>
    exact (((within_send hm hsend).still (.of_booked (.refillWrites _))).still
      (.of_booked (.trackSend htrack))).mono (by simp)
  -- Each send but the last takes a byte at least
  | case4 c now written b rest n s hsend c' htrack ih =>
    refine ((((within_send hm hsend).still (.of_booked (.refillWrites _))).still
      (.of_booked (.trackSend htrack))).trans ih).mono ?_
    rw [List.length_drop, List.length_cons]
    omega
  | case5 c now written b rest e s hsend hblocked => exact (within_send hm hsend).mono (by simp)
  | case6 c now written b rest e s hsend hblocked hinterrupted ih =>
    exact ((within_send_paid hm hsend hinterrupted).trans ih).mono (by omega)
  | case7 c now written b rest e s hsend hblocked hinterrupted =>
    exact ((within_send hm hsend).still (.sendError _ e)).mono (by simp)

omit [Framer φ] in
/-- Each call sends a byte, or is the last one. -/
theorem within_sendUrgent (c : Client (Traced σ)) (sent : Nat) (data : Bytes) :
    Within m p data.length c (c.sendUrgent sent data).2 := by
  fun_induction sendUrgent c sent data with
  | case1 c sent => exact .of_still ⟨rfl, rfl⟩
  | case2 c sent b rest s hsend => exact (within_send hm hsend).mono (by simp)
  | case3 c sent b rest n s hn hsend ih =>
    refine ((within_send hm hsend).trans ih).mono ?_
    rw [List.length_cons]
    omega
  | case4 c sent b rest e s hsend hblocked => exact (within_send hm hsend).mono (by simp)
  | case5 c sent b rest e s hsend hblocked =>
    exact ((within_send hm hsend).still (.sendError _ e)).mono (by simp)

omit [Framer φ] in
/-- `probe` is one call. -/
theorem within_probe (c : Client (Traced σ)) : Within m p 1 c c.probe.2 := by
  unfold probe
  split
  · rename_i hsend
    exact within_send hm hsend
  · rename_i e s hsend
    split
    · exact within_send hm hsend
    · exact (within_send hm hsend).still (.sendError _ e)

omit [Framer φ] in
/-- `sendDatagram` makes one call beyond those that are paid for. -/
theorem within_sendDatagram (c : Client (Traced σ)) (now : Duration) (data : Bytes) :
    Within m p 1 c (c.sendDatagram now data).2 := by
  fun_induction sendDatagram c now data with
  | case1 c sent s hsend c₁ hsent e c₂ htrack =>
    exact (within_send hm hsend).still (.of_booked (.trackSend htrack))
  | case2 c sent s hsend c₁ hsent c₂ htrack =>
    exact ((within_send hm hsend).still (.of_booked (.trackSend htrack))).still
      (.of_booked (.finishSend _))
  | case3 c sent s hsend c₁ hsent =>
    exact (within_send hm hsend).still (.of_booked (.stalled _ _))
  | case4 c e s hsend c' hblocked =>
    exact (within_send hm hsend).still (.of_booked (.stalled _ _))
  -- An interrupted call is paid for, and made again
  | case5 c e s hsend c' hblocked hinterrupted ih =>
    exact ((within_send_paid hm hsend hinterrupted).trans ih).mono (by omega)
  | case6 c e s hsend c' hblocked hinterrupted =>
    exact (within_send hm hsend).still (.sendError _ e)

omit [Framer φ] in
/-- A write to a stream makes one call for each byte and one more, beyond those that are paid
    for. -/
theorem within_writeStream (c : Client (Traced σ)) (now : Clock) (data : Bytes)
    (ch : Channel) : Within m p (data.length + 1) c (c.writeStream now data ch).2 := by
  -- Up to the loops no call is made but those that look for a peer
  have hanchored : ∀ {c₁ : Client (Traced σ)} {answer : Except NetworkError Bool},
      c.ensureConnected now.first = (answer, c₁) → Within m p 0 c (c₁.anchorSend now.first) :=
    fun hensured => (within_ensured hm hensured).still (.of_booked (.anchorSend _ now.first))
  have hurgent : ∀ {c₁ c₂ : Client (Traced σ)} {answer : Except NetworkError Nat},
      c.ensureConnected now.first = (.ok true, c₁) →
      (c₁.anchorSend now.first).sendUrgent 0 data = (answer, c₂) →
      Within m p (data.length + 1) c c₂ := by
    intro c₁ c₂ answer hensured hsend
    have hsent := within_sendUrgent hm (c₁.anchorSend now.first) 0 data
    rw [hsend] at hsent
    exact ((hanchored hensured).trans hsent).mono (by omega)
  have hregular : ∀ {c₁ c₂ : Client (Traced σ)} {answer : Except NetworkError Nat},
      c.ensureConnected now.first = (.ok true, c₁) →
      (c₁.anchorSend now.first).sendAll now.later 0 data = (answer, c₂) →
      Within m p (data.length + 1) c c₂ := by
    intro c₁ c₂ answer hensured hsend
    have hsent := within_sendAll hm (c₁.anchorSend now.first) now.later 0 data
    rw [hsend] at hsent
    exact ((hanchored hensured).trans hsent).mono (by omega)
  have hwrites := writes_writeStream c now data ch
  generalize c.writeStream now data ch = result at hwrites
  cases hwrites with
  | refused _ => exact (Within.of_still ⟨rfl, rfl⟩).mono (Nat.zero_le _)
  | failed hensured | waiting hensured =>
    exact (within_ensured hm hensured).mono (Nat.zero_le _)
  | urgentFailed hensured hsend => exact hurgent hensured hsend
  | urgentSlow hensured hsend htrack | urgent hensured hsend htrack =>
    exact (hurgent hensured hsend).still (.of_booked (.trackSend htrack))
  | probed hensured _ =>
    exact ((hanchored hensured).trans (within_probe hm _)).mono (by omega)
  | regularFailed hensured _ hsend => exact hregular hensured hsend
  | regular hensured _ hsend =>
    exact (hregular hensured hsend).still (.of_booked (.writeOutcome _ _ _))

omit [Framer φ] in
/-- So does a write of a datagram, at most. -/
theorem within_writeDatagram (c : Client (Traced σ)) (now : Clock) (data : Bytes)
    (ch : Channel) : Within m p (data.length + 1) c (c.writeDatagram now data ch).2 := by
  have hnone : Within m p (data.length + 1) c c :=
    (Within.of_still ⟨rfl, rfl⟩).mono (Nat.zero_le _)
  unfold writeDatagram
  split
  · exact hnone
  · dsimp only
    split
    · exact hnone
    · exact ((Within.of_still (.of_booked (.anchorSend c now.first))).trans
        (within_sendDatagram hm _ now.later.first data)).mono (by omega)

omit [Framer φ] in
/-- So does every write. -/
theorem within_write (kind : ClientKind) (c : Client (Traced σ)) (now : Clock) (data : Bytes)
    (ch : Channel) : Within m p (data.length + 1) c (c.write kind now data ch).2 := by
  cases kind with
  | stream => exact within_writeStream hm c now data ch
  | datagram => exact within_writeDatagram hm c now data ch

end Operations

/-! ## The buffer of a client -/

section Buffers

variable {σ φ : Type} [Endpoint σ] [Framer φ]

/-- No step changes the size of the buffer. -/
theorem bufferSize_after (kind : ClientKind) (c : Client σ) (step : Step σ φ) :
    (c.after kind step).bufferSize = c.bufferSize := by
  cases step with
  | world change => rfl
  -- No call of a read or a write changes the size of the buffer
  | read now f ch =>
    obtain ⟨calls, htook⟩ := within_read isMeter_zero kind c.traced now f ch
    show (c.read kind now f ch).1.2.bufferSize = c.bufferSize
    rw [read_traced]
    exact htook.bufferSize
  | write now data ch =>
    obtain ⟨calls, htook⟩ := within_write isMeter_zero kind c.traced now data ch
    show (c.write kind now data ch).2.bufferSize = c.bufferSize
    rw [write_traced]
    exact htook.bufferSize
  | resetTransfer => rfl

/-- The size of the buffer, as it is configured. -/
def configuredSize (config : Config) : ClientKind → Nat
  | .stream => config.readBufferSize
  | .datagram => config.maxDatagramSize

/-- The buffer has the size that was configured, and one byte at least. -/
theorem bufferSize_run (kind : ClientKind) (socket : σ) (config : Config) (made : Duration)
    (steps : List (Step σ φ)) :
    ((make kind socket config made).run kind steps).bufferSize =
      max 1 (configuredSize config kind) := by
  have hmade : (make kind socket config made).bufferSize = max 1 (configuredSize config kind) := by
    cases kind with
    | stream => exact Nat.max_comm _ _
    | datagram =>
      show (newDatagram socket config made).bufferSize = _
      -- Asking for a name when the client is made leaves the size alone
      unfold newDatagram
      dsimp only
      split <;> exact Nat.max_comm _ _
  generalize make kind socket config made = c at hmade
  induction steps generalizing c with
  | nil => exact hmade
  | cons step steps ih => exact ih _ (by rw [bufferSize_after]; exact hmade)

/-- A client never offers an empty buffer, whatever its configuration says. -/
theorem one_le_bufferSize_run (kind : ClientKind) (socket : σ) (config : Config) (made : Duration)
    (steps : List (Step σ φ)) :
    1 ≤ ((make kind socket config made).run kind steps).bufferSize := by
  rw [bufferSize_run]
  exact Nat.le_max_left _ _

end Buffers

end Client

end FrameSocket
