import FrameSocket.Framer.NoData
import FrameSocket.Proofs.Exchanges
import FrameSocket.Socket.Scripted

/-!
# What a write puts out

A write offers its data to the socket in one call or in many, and each call accepts a
beginning of what it is offered.  However the write ends, the bytes accepted are a
beginning of the data, on the channel of the write and in their order; and a write that
answers a length answers that of this beginning.

An error says nothing of how much was accepted.  A write that fails has put nothing out,
but for two cases: the alarm of the speed watchdog, which is raised after the bytes it
counts, and a stream's sending call that fails behind others that did not.

## Key results

- `Puts.trans`: what two stages of a write put out, one after the other
- `sends_sendUrgent` / `sends_sendAll`: what the sending loops put out
- `accepted_write`: what a write puts out, for either kind of client
-/

namespace FrameSocket.Client

variable {σ φ : Type} [Endpoint σ] [Framer φ]

/-- The bytes that the calls on record put out on a channel. -/
def accepted (c : Client (Traced σ)) (ch : Channel) : Bytes :=
  c.socket.exchanges.flatMap (Exchange.accepted ch)

/-- The error is the alarm of the client's send watchdog. -/
def IsSlowSend (c : Client σ) (e : NetworkError) : Prop :=
  c.sendWatch.isSome = true ∧ ∃ speed duration, e = .slowTransfer .send speed duration

/-- The error comes from one of the calls, which failed to send and would not have had to
    wait. -/
def IsFailedSend (calls : List Exchange) (ch : Channel) (e : NetworkError) : Prop :=
  ∃ offered source address, Exchange.send ch offered (.error source) ∈ calls ∧
    source.isBlocked = false ∧ (e = .connectionLost address ∨ e = .sendFailed address source)

/-! ## Putting bytes out -/

/-- From `c` to `c'` the socket accepted `data` on `ch`, and nothing on the other
    channel. -/
structure Puts (c c' : Client (Traced σ)) (ch : Channel) (data : Bytes) : Prop where
  accepted : c'.accepted = Channel.extend c.accepted ch data
  watched : c'.sendWatch.isSome = c.sendWatch.isSome

namespace Puts

variable {c c' c'' : Client (Traced σ)} {ch : Channel} {data more : Bytes} {s : Traced σ}

omit [Endpoint σ] in
/-- What two steps have sent, one after the other. -/
theorem trans (h : Puts c c' ch data) (h' : Puts c' c'' ch more) :
    Puts c c'' ch (data ++ more) where
  accepted := by
    rw [h'.accepted, h.accepted]
    funext ch'
    by_cases hch : ch' = ch
    · subst hch
      simp only [Channel.extend_self, List.append_assoc]
    · simp only [Channel.extend_of_ne _ _ hch]
  watched := h'.watched.trans h.watched

omit [Endpoint σ] in
/-- Doing nothing sends nothing. -/
theorem refl (c : Client (Traced σ)) (ch : Channel) : Puts c c ch [] :=
  ⟨(Channel.extend_nil _ _).symm, rfl⟩

omit [Endpoint σ] in
/-- A step that sends nothing may follow. -/
theorem trans_nil (h : Puts c c' ch data) (h' : Puts c' c'' ch []) : Puts c c'' ch data := by
  rw [← List.append_nil data]
  exact h.trans h'

/-! What makes no call puts nothing out. -/

omit [Endpoint σ] in
/-- `anchorSend` sends nothing; so do the other operations on counters and watchdogs. -/
theorem anchorSend (c : Client (Traced σ)) (ch : Channel) (now : Duration) :
    Puts c (c.anchorSend now) ch [] := by
  refine ⟨(Channel.extend_nil _ _).symm, ?_⟩
  show (anchored c.sendWatch (c.elapsed now)).isSome = c.sendWatch.isSome
  rw [anchored, Option.isSome_map]

omit [Endpoint σ] in
/-- `trackSend` sends nothing, whether or not it raises an alarm. -/
theorem trackSend (ch : Channel) {now : Duration} {bytes : Nat}
    {answer : Except NetworkError Unit} (h : c.trackSend now bytes = (answer, c')) :
    Puts c c' ch [] := by
  -- A sample makes no call
  have haccepted : c'.accepted = c.accepted := by
    have hbooked : Booked c c' := .trackSend h
    funext ch'
    rw [Client.accepted, hbooked.socket, Client.accepted]
  refine ⟨by rw [haccepted, Channel.extend_nil], ?_⟩
  have hc' : (c.trackSend now bytes).2 = c' := congrArg Prod.snd h
  rw [← hc', Client.trackSend]
  split
  · rfl
  · rename_i d hwatch
    dsimp only
    split <;> rw [hwatch] <;> rfl

omit [Endpoint σ] in
theorem refillWrites (c : Client (Traced σ)) (ch : Channel) : Puts c c.refillWrites ch [] :=
  ⟨(Channel.extend_nil _ _).symm, rfl⟩

omit [Endpoint σ] in
theorem finishSend (c : Client (Traced σ)) (ch : Channel) : Puts c c.finishSend ch [] := by
  refine ⟨(Channel.extend_nil _ _).symm, ?_⟩
  show (c.sendWatch.map Watchdog.reset).isSome = c.sendWatch.isSome
  rw [Option.isSome_map]

/-- `stalled` sends nothing. -/
theorem stalled (c : Client (Traced σ)) (ch : Channel) (reason : String) :
    Puts c (c.stalled reason).2 ch [] := by
  unfold Client.stalled
  dsimp only
  split <;> exact ⟨(Channel.extend_nil _ _).symm, rfl⟩

/-- `sendError` sends nothing. -/
theorem sendError (c : Client (Traced σ)) (ch : Channel) (e : IoError) :
    Puts c (c.sendError e).2 ch [] := by
  unfold Client.sendError
  split <;> exact ⟨(Channel.extend_nil _ _).symm, rfl⟩

omit [Endpoint σ] in
/-- Asking how the connection stands puts nothing out. -/
theorem asked (h : c.socket.Asked s) (ch : Channel) : Puts c { c with socket := s } ch [] := by
  refine ⟨?_, rfl⟩
  obtain ⟨asked, hasked, hasks⟩ := h
  rw [Channel.extend_nil]
  funext ch'
  show s.exchanges.flatMap _ = c.socket.exchanges.flatMap _
  -- The calls that look for a peer accept nothing
  have hnone : asked.flatMap (Exchange.accepted ch') = [] := by
    apply List.flatMap_eq_nil_iff.mpr
    intro x hx
    have hx' := hasks x hx
    cases x with
    | remoteAddress _ | takeError _ => rfl
    | recv _ _ _ | recvFrom _ _ | peek _ _ | send _ _ _ => exact nomatch hx'
  rw [hasked, List.flatMap_append, hnone, List.append_nil]

/-- Finding out whether the connection stands puts nothing out either. -/
theorem ensured {answer : Except NetworkError Bool} (h : Ensures c answer c') (ch : Channel) :
    Puts c c' ch [] := by
  cases h with
  | stands hconn => exact refl c ch
  | gone hconn hwas => exact ⟨(Channel.extend_nil _ _).symm, rfl⟩
  | gained hconn hwas hasked => exact ⟨(asked hasked ch).accepted, rfl⟩
  | absent hconn hwas hasked hanswer => exact asked hasked ch

/-- A sending call puts out what it accepts. -/
theorem send_ok {n : Nat} (h : Endpoint.send c.socket ch data = (.ok n, s)) :
    Puts c { c with socket := s } ch (data.take n) := by
  refine ⟨?_, rfl⟩
  funext ch'
  show s.exchanges.flatMap (Exchange.accepted ch') = _
  rw [Traced.exchanges_send h, List.flatMap_append, List.flatMap_singleton]
  show c.accepted ch' ++ (if ch = ch' then data.take n else []) = _
  by_cases hch : ch' = ch
  · subst hch
    rw [if_pos rfl, Channel.extend_self]
  · rw [if_neg (Ne.symm hch), List.append_nil, Channel.extend_of_ne _ _ hch]

/-- One that fails puts nothing out. -/
theorem send_error {e : IoError} (h : Endpoint.send c.socket ch data = (.error e, s)) :
    Puts c { c with socket := s } ch [] := by
  refine ⟨?_, rfl⟩
  rw [Channel.extend_nil]
  funext ch'
  show s.exchanges.flatMap (Exchange.accepted ch') = _
  rw [Traced.exchanges_send h, List.flatMap_append, List.flatMap_singleton]
  exact List.append_nil _

end Puts

omit [Endpoint σ] in
/-- Only a watched client is alarmed. -/
theorem isSlowSend_of_trackSend {c c' : Client σ} {now : Duration} {bytes : Nat}
    {e : NetworkError} (h : c.trackSend now bytes = (.error e, c')) : c.IsSlowSend e := by
  unfold trackSend at h
  split at h
  · exact nomatch congrArg Prod.fst h
  · rename_i d hwatch
    dsimp only at h
    split at h
    · exact nomatch congrArg Prod.fst h
    · -- Only an alarm fails
      rename_i alarm _
      cases h
      exact ⟨by rw [hwatch]; rfl, alarm.speed, alarm.duration, rfl⟩

/-- A sending call accepts no more than it is offered. -/
theorem length_le_of_send {s s' : Traced σ} {ch : Channel} {data : Bytes} {n : Nat}
    (h : Endpoint.send s ch data = (.ok n, s')) : n ≤ data.length := by
  apply Endpoint.send_le_length s ch data n
  rw [h]

/-- A sending call that fails is what its error comes from. -/
theorem isFailedSend_sendError {c : Client (Traced σ)} {ch : Channel} {offered : Bytes}
    {e : IoError} {s : Traced σ} (h : Endpoint.send c.socket ch offered = (.error e, s))
    (hblocked : e.isBlocked = false) :
    IsFailedSend s.exchanges ch ({ c with socket := s }.sendError e).1 := by
  have hcall : Exchange.send ch offered (.error e) ∈ s.exchanges := by
    simp [Traced.exchanges_send h]
  refine ⟨offered, e, { c with socket := s }.address, hcall, hblocked, ?_⟩
  unfold sendError
  split
  · exact .inl rfl
  · exact .inr rfl

/-! ## The loops of a stream -/

/-- What a sending loop does with `data` when `written` bytes have gone out before: it puts
    a beginning of the data out, and answers how much has gone out by then.  It fails only
    with an alarm or when a call fails. -/
def Sends (c : Client (Traced σ)) (ch : Channel) (data : Bytes) (written : Nat)
    (a : Answer (Traced σ) Nat) : Prop :=
  ∃ n ≤ data.length, Puts c a.2 ch (data.take n) ∧
    (∀ m, a.1 = .ok m → m = written + n) ∧
    ∀ e, a.1 = .error e → c.IsSlowSend e ∨ IsFailedSend a.2.socket.exchanges ch e

namespace Sends

variable {c c' : Client (Traced σ)} {ch : Channel} {data : Bytes} {written : Nat}
  {a : Answer (Traced σ) Nat}

omit [Endpoint σ] in
/-- The loop ends with what it has. -/
theorem done (h : Puts c c' ch []) : Sends c ch data written (.ok written, c') :=
  ⟨0, Nat.zero_le _, h, fun _ hm => (Except.ok.inj hm).symm, fun _ he => (nomatch he)⟩

/-- A call fails that would not have had to wait. -/
theorem failed {offered : Bytes} {e : IoError} {s : Traced σ}
    (h : Endpoint.send c.socket ch offered = (.error e, s)) (hblocked : e.isBlocked = false) :
    Sends c ch data written (Client.failed ({ c with socket := s }.sendError e)) := by
  refine ⟨0, Nat.zero_le _, ?_, fun _ hm => (nomatch hm), fun e' he => .inr ?_⟩
  · exact (Puts.send_error h).trans (.sendError { c with socket := s } ch e)
  · cases he
    show IsFailedSend ({ c with socket := s }.sendError e).2.socket.exchanges ch _
    rw [socket_sendError]
    exact isFailedSend_sendError h hblocked

omit [Endpoint σ] in
/-- The watchdog is told what a call put out, and is alarmed. -/
theorem alarmed {n : Nat} {e : NetworkError} (hn : n ≤ data.length)
    (hputs : Puts c c' ch (data.take n)) (hslow : c.IsSlowSend e) :
    Sends c ch data written (.error e, c') := by
  refine ⟨n, hn, hputs, fun _ hm => (nomatch hm), fun e' he => .inl ?_⟩
  cases he
  exact hslow

omit [Endpoint σ] in
/-- Some bytes go out, and the loop goes on with the others. -/
theorem of_puts {n : Nat} (hn : n ≤ data.length) (hputs : Puts c c' ch (data.take n))
    (h : Sends c' ch (data.drop n) (written + n) a) : Sends c ch data written a := by
  obtain ⟨k, hk, hputs', hok, herror⟩ := h
  rw [List.length_drop] at hk
  refine ⟨n + k, by omega, ?_, fun m hm => ?_, fun e he => ?_⟩
  · rw [List.take_add]
    exact hputs.trans hputs'
  · rw [hok m hm, Nat.add_assoc]
  · rcases herror e he with ⟨hwatched, hslow⟩ | hfailed
    · exact .inl ⟨hputs.watched.symm.trans hwatched, hslow⟩
    · exact .inr hfailed

end Sends

/-- `sendUrgent` sends a front of the data, byte by byte. -/
theorem sends_sendUrgent (c : Client (Traced σ)) (sent : Nat) (data : Bytes) :
    Sends c .urgent data sent (c.sendUrgent sent data) := by
  fun_induction sendUrgent c sent data with
  | case1 c sent => exact .done (.refl c .urgent)
  | case2 c sent b rest s hsend => exact .done (Puts.send_ok hsend)
  | case3 c sent b rest n s hn hsend ih =>
    -- The one byte that was offered was accepted
    have hle : n ≤ [b].length := length_le_of_send hsend
    have hpos : n ≠ 0 := hn
    have hone : n = 1 := by
      rw [List.length_singleton] at hle
      omega
    subst hone
    have hputs : Puts c { c with socket := s } .urgent ([b].take 1) := .send_ok hsend
    exact .of_puts (Nat.le_add_left 1 _) hputs ih
  | case4 c sent b rest e s hsend hblocked => exact .done (.send_error hsend)
  | case5 c sent b rest e s hsend hblocked =>
    exact .failed hsend (Bool.eq_false_iff.mpr hblocked)

/-- `sendAll` sends a front of the data. -/
theorem sends_sendAll (c : Client (Traced σ)) (now : Clock) (written : Nat) (data : Bytes) :
    Sends c .regular data written (c.sendAll now written data) := by
  -- What one turn sends: the socket takes it, and then it is counted
  have sent : ∀ {c c' : Client (Traced σ)} {now : Duration} {data : Bytes} {n : Nat}
      {s : Traced σ} {answer}, Endpoint.send c.socket .regular data = (.ok n, s) →
      { c with socket := s }.refillWrites.trackSend now n = (answer, c') →
      Puts c c' .regular (data.take n) := by
    intro c c' now data n s answer hsend htrack
    have hrefilled : Puts c { c with socket := s }.refillWrites .regular (data.take n) :=
      (Puts.send_ok hsend).trans_nil (.refillWrites _ .regular)
    exact hrefilled.trans_nil (.trackSend .regular htrack)
  fun_induction sendAll c now written data with
  | case1 c now written => exact .done (.refl c .regular)
  | case2 c now written b rest s hsend => exact .done (Puts.send_ok hsend)
  | case3 c now written b rest n s hsend e c' htrack =>
    have hslow := isSlowSend_of_trackSend htrack
    exact .alarmed (length_le_of_send hsend) (sent hsend htrack) hslow
  | case4 c now written b rest n s hsend c' htrack ih =>
    exact .of_puts (length_le_of_send hsend) (sent hsend htrack) ih
  | case5 c now written b rest e s hsend hblocked => exact .done (.send_error hsend)
  | case6 c now written b rest e s hsend hblocked hi ih =>
    exact .of_puts (n := 0) (Nat.zero_le _) (.send_error hsend) ih
  | case7 c now written b rest e s hsend hblocked hi =>
    exact .failed hsend (Bool.eq_false_iff.mpr hblocked)

/-! ## Writing -/

/-- What a write of `data` comes to: it puts a beginning of the data out, and answers how
    long it is.  If it fails, nothing went out, or the watchdog was alarmed, or a call of
    a stream's write failed. -/
def Wrote (kind : ClientKind) (c : Client (Traced σ)) (ch : Channel) (data : Bytes)
    (a : Answer (Traced σ) Nat) : Prop :=
  ∃ n ≤ data.length, Puts c a.2 ch (data.take n) ∧
    (∀ m, a.1 = .ok m → m = n) ∧
    ∀ e, a.1 = .error e →
      n = 0 ∨ c.IsSlowSend e ∨ kind = .stream ∧ IsFailedSend a.2.socket.exchanges ch e

namespace Wrote

variable {kind : ClientKind} {c c' : Client (Traced σ)} {ch : Channel} {data : Bytes}
  {a : Answer (Traced σ) Nat}

omit [Endpoint σ] in
/-- A write that puts nothing out may fail as it will. -/
theorem nothing (hputs : Puts c a.2 ch []) (hok : ∀ m, a.1 = .ok m → m = 0) :
    Wrote kind c ch data a :=
  ⟨0, Nat.zero_le _, hputs, hok, fun _ _ => .inl rfl⟩

omit [Endpoint σ] in
/-- A write that fails before it puts anything out. -/
theorem failed {e : NetworkError} (hputs : Puts c c' ch []) :
    Wrote kind c ch data (.error e, c') :=
  nothing hputs fun _ hm => nomatch hm

omit [Endpoint σ] in
/-- What comes before the first call does not matter. -/
theorem of_puts_nil (hputs : Puts c c' ch []) (h : Wrote kind c' ch data a) :
    Wrote kind c ch data a := by
  obtain ⟨n, hn, hputs', hok, herror⟩ := h
  refine ⟨n, hn, hputs.trans hputs', hok, fun e he => ?_⟩
  rcases herror e he with hzero | ⟨hwatched, hslow⟩ | hfailed
  · exact .inl hzero
  · exact .inr (.inl ⟨hputs.watched.symm.trans hwatched, hslow⟩)
  · exact .inr (.inr hfailed)

omit [Endpoint σ] in
/-- A loop fails, and the write with it. -/
theorem of_sends_error {e : NetworkError} (h : Sends c ch data 0 (.error e, c')) :
    Wrote .stream c ch data (.error e, c') := by
  obtain ⟨n, hn, hputs, _, herror⟩ := h
  refine ⟨n, hn, hputs, fun _ hm => (nomatch hm), fun e' he => .inr ?_⟩
  rcases herror e' he with hslow | hfailed
  · exact .inl hslow
  · exact .inr ⟨rfl, hfailed⟩

/-- A write that could send nothing answers zero, if it does not fail. -/
theorem stalled (hputs : Puts c c' ch []) (reason : String) :
    Wrote kind c ch data (c'.stalled reason) := by
  refine nothing (hputs.trans (.stalled c' ch reason)) fun m hm => ?_
  unfold Client.stalled at hm
  dsimp only at hm
  split at hm
  · exact nomatch hm
  · exact (Except.ok.inj hm).symm

omit [Endpoint σ] in
/-- The write answers what went out. -/
theorem told {n : Nat} (hn : n ≤ data.length) (hputs : Puts c c' ch (data.take n)) :
    Wrote kind c ch data (.ok n, c') :=
  ⟨n, hn, hputs, fun _ hm => (Except.ok.inj hm).symm, fun _ he => (nomatch he)⟩

omit [Endpoint σ] in
/-- The watchdog is told what went out, and is alarmed. -/
theorem alarmed {c₁ : Client (Traced σ)} {n : Nat} {now : Duration} {e : NetworkError}
    (hn : n ≤ data.length) (hputs : Puts c c' ch (data.take n))
    (htrack : c'.trackSend now n = (.error e, c₁)) : Wrote kind c ch data (.error e, c₁) := by
  refine ⟨n, hn, hputs.trans_nil (.trackSend ch htrack), fun _ hm => (nomatch hm), ?_⟩
  intro e' he
  cases he
  obtain ⟨hwatched, hslow⟩ := isSlowSend_of_trackSend htrack
  exact .inr (.inl ⟨hputs.watched.symm.trans hwatched, hslow⟩)

end Wrote

/-- `probe` sends nothing. -/
theorem wrote_probe (c : Client (Traced σ)) (data : Bytes) :
    Wrote .stream c .regular data c.probe := by
  unfold probe
  split
  · rename_i n s hsend
    have hputs : Puts c { c with socket := s } .regular ([].take n) := .send_ok hsend
    -- Whatever count is answered, of nothing there is nothing to take
    rw [List.take_nil] at hputs
    exact .nothing hputs fun m hm => (Except.ok.inj hm).symm
  · rename_i e s hsend
    have hputs : Puts c { c with socket := s } .regular [] := .send_error hsend
    split
    · exact .nothing hputs fun m hm => (Except.ok.inj hm).symm
    · exact .failed (hputs.trans (.sendError _ .regular e))

/-- A write to a stream goes in one of the ways of `Wrote`. -/
theorem wrote_writeStream (c : Client (Traced σ)) (now : Clock) (data : Bytes)
    (ch : Channel) : Wrote .stream c ch data (c.writeStream now data ch) := by
  -- Up to the loops nothing is sent
  have hready : ∀ {c₁ : Client (Traced σ)} (ch : Channel),
      c.ensureConnected now.first = (.ok true, c₁) → Puts c (c₁.anchorSend now.first) ch [] :=
    fun ch hensured => (Puts.ensured (ensures_ensureConnected hensured) ch).trans_nil
      (.anchorSend _ ch now.first)
  have hwrites := writes_writeStream c now data ch
  generalize c.writeStream now data ch = w at hwrites
  cases hwrites with
  | refused _ => exact .failed (.refl c ch)
  | failed hensured => exact .failed (.ensured (ensures_ensureConnected hensured) ch)
  | waiting hensured =>
    exact .nothing (.ensured (ensures_ensureConnected hensured) ch)
      fun m hm => (Except.ok.inj hm).symm
  | @urgentFailed c₁ _ _ hensured hsend =>
    have hloop := sends_sendUrgent (c₁.anchorSend now.first) 0 data
    rw [hsend] at hloop
    exact .of_puts_nil (hready .urgent hensured) (.of_sends_error hloop)
  | @urgentSlow c₁ _ _ _ sent hensured hsend htrack =>
    have hloop := sends_sendUrgent (c₁.anchorSend now.first) 0 data
    rw [hsend] at hloop
    obtain ⟨n, hn, hputs, hok, _⟩ := hloop
    obtain rfl : sent = n := (hok sent rfl).trans (Nat.zero_add n)
    exact .of_puts_nil (hready .urgent hensured) (.alarmed hn hputs htrack)
  | @urgent c₁ _ _ sent hensured hsend htrack =>
    have hloop := sends_sendUrgent (c₁.anchorSend now.first) 0 data
    rw [hsend] at hloop
    obtain ⟨n, hn, hputs, hok, _⟩ := hloop
    obtain rfl : sent = n := (hok sent rfl).trans (Nat.zero_add n)
    exact .of_puts_nil (hready .urgent hensured)
      (.told hn (hputs.trans_nil (.trackSend .urgent htrack)))
  | probed hensured _ => exact .of_puts_nil (hready .regular hensured) (wrote_probe _ data)
  | @regularFailed c₁ _ _ hensured _ hsend =>
    have hloop := sends_sendAll (c₁.anchorSend now.first) now.later 0 data
    rw [hsend] at hloop
    exact .of_puts_nil (hready .regular hensured) (.of_sends_error hloop)
  | @regular c₁ c₂ written hensured _ hsend =>
    have hloop := sends_sendAll (c₁.anchorSend now.first) now.later 0 data
    rw [hsend] at hloop
    obtain ⟨n, hn, hputs, hok, _⟩ := hloop
    obtain rfl : written = n := (hok written rfl).trans (Nat.zero_add n)
    refine .of_puts_nil (hready .regular hensured) ?_
    unfold writeOutcome
    split
    · exact .told hn (hputs.trans_nil (.finishSend c₂ .regular))
    · split
      · rename_i hzero
        subst hzero
        exact .stalled hputs _
      · exact .told hn hputs

/-- `sendDatagram` goes in one of the ways of `Wrote`. -/
theorem wrote_sendDatagram (c : Client (Traced σ)) (now : Duration) (data : Bytes) :
    Wrote .datagram c .regular data (c.sendDatagram now data) := by
  fun_induction sendDatagram c now data with
  | case1 c sent s hsend c₁ hsent e c₂ htrack =>
    exact .alarmed (length_le_of_send hsend) (.send_ok hsend) htrack
  | case2 c sent s hsend c₁ hsent c₂ htrack =>
    have hputs : Puts c c₂ .regular (data.take sent) :=
      (Puts.send_ok hsend).trans_nil (.trackSend .regular htrack)
    exact .told (length_le_of_send hsend) (hputs.trans_nil (.finishSend c₂ .regular))
  | case3 c sent s hsend c₁ hsent =>
    have hputs : Puts c { c with socket := s } .regular (data.take sent) := .send_ok hsend
    -- The send took nothing of a datagram that is not empty
    have hzero : sent = 0 := by
      rw [not_or] at hsent
      omega
    rw [hzero, List.take_zero] at hputs
    exact .stalled hputs _
  | case4 c e s hsend c' hblocked => exact .stalled (.send_error hsend) _
  | case5 c e s hsend c' hblocked hi ih => exact .of_puts_nil (.send_error hsend) ih
  | case6 c e s hsend c' hblocked hi =>
    exact .failed ((Puts.send_error hsend).trans (.sendError _ .regular e))

/-- A write of a datagram goes in one of the ways of `Wrote`. -/
theorem wrote_writeDatagram (c : Client (Traced σ)) (now : Clock) (data : Bytes)
    (ch : Channel) : Wrote .datagram c ch data (c.writeDatagram now data ch) := by
  unfold writeDatagram
  split
  · exact .failed (.refl c ch)
  · rename_i hch
    obtain rfl : ch = .regular := Channel.eq_regular hch
    dsimp only
    split
    · -- Too large a datagram is refused before any call
      exact .failed (.refl c .regular)
    · exact .of_puts_nil (.anchorSend c .regular now.first)
        (wrote_sendDatagram _ now.later.first data)

/-- A write puts out a beginning of its data, on its channel only, whatever it answers.
    If it answers a length, it is that of the beginning; if it fails, nothing went out,
    or the send watchdog was alarmed, or a call of a stream's write failed. -/
theorem accepted_write (kind : ClientKind) (c : Client σ) (now : Clock) (data : Bytes)
    (ch : Channel) :
    let answer := (c.write kind now data ch).1
    let calls := c.exchangesOf kind (.write now data ch : Step σ φ)
    ∃ n ≤ data.length,
      (∀ ch', calls.flatMap (Exchange.accepted ch') = if ch' = ch then data.take n else []) ∧
      (∀ m, answer = .ok m → m = n) ∧
      ∀ e, answer = .error e →
        n = 0 ∨ c.IsSlowSend e ∨ kind = .stream ∧ IsFailedSend calls ch e := by
  intro answer calls
  have hanswer : answer = (c.traced.write kind now data ch).1 :=
    congrArg Prod.fst (c.write_traced kind now data ch)
  have hwrote : Wrote kind c.traced ch data (c.traced.write kind now data ch) := by
    cases kind with
    | stream => exact wrote_writeStream c.traced now data ch
    | datagram => exact wrote_writeDatagram c.traced now data ch
  obtain ⟨n, hn, hputs, hok, herror⟩ := hwrote
  rw [← hanswer] at hok herror
  refine ⟨n, hn, fun ch' => ?_, hok, herror⟩
  -- Nothing was on record before the write.
  have haccepted := congrFun hputs.accepted ch'
  by_cases hch : ch' = ch
  · subst hch
    rw [if_pos rfl]
    exact haccepted.trans (Channel.extend_self _ _ _)
  · rw [if_neg hch]
    exact haccepted.trans (Channel.extend_of_ne _ _ hch)

/-- The alarm is raised behind the bytes that it counts.  A write sends one byte of three; two
    seconds later the write of the others sends one more, where a million in each second are
    asked for, and fails. -/
theorem accepted_write_slow :
    let socket : ScriptedSocket :=
      { id := ⟨1⟩, transport := .tcp, peer := .ok (some "10.0.0.2:4000"),
        tx := [.ok 1, .error (.bare .wouldBlock), .ok 1] }
    let config := Config.default.withMinSendSpeed 1000000.0 .zero
    let start := make .stream socket config .zero
    let partly := start.write .stream .zero [0x61, 0x62, 0x63] .regular
    let late : Step ScriptedSocket Framer.NoData :=
      .write (.still (.ofSeconds 2)) [0x62, 0x63] .regular
    partly.1 = .ok 1 ∧
      (partly.2.write .stream (.still (.ofSeconds 2)) [0x62, 0x63] .regular).1 =
        .error (.slowTransfer .send 1.0 2.0) ∧
      (partly.2.exchangesOf .stream late).flatMap (Exchange.accepted .regular) = [0x62] := by
  intro socket config start partly late
  let now : Duration := .ofSeconds 2
  -- The first write opens the window, and tells the watchdog of one byte.
  let opened : Watchdog Float :=
    ((Watchdog.new 1000000.0 Duration.zero.toSeconds).sample (Duration.zero - .zero).toSeconds 0).1
  let told : Watchdog Float := (opened.sample (Duration.zero - .zero).toSeconds 1).1
  have hcalm : (opened.sample (Duration.zero - .zero).toSeconds 1).2 = none := by decide +kernel
  let found := (start.ensureConnected .zero).2
  let sent := (Endpoint.send (found.anchorSend .zero).socket .regular [0x61, 0x62, 0x63]).2
  let blocked := (Endpoint.send sent .regular [0x62, 0x63]).2
  let left : Client ScriptedSocket :=
    { found.anchorSend .zero with socket := blocked, sendWatch := some told }
  have hopened :
      { found.anchorSend .zero with socket := sent }.refillWrites.sendWatch = some opened := rfl
  have htrack : { found.anchorSend .zero with socket := sent }.refillWrites.trackSend .zero 1 =
      (.ok (), { found.anchorSend .zero with socket := sent, sendWatch := some told }) :=
    trackSend_of_calm hopened hcalm
  have hsent : (found.anchorSend .zero).sendAll .zero 0 [0x61, 0x62, 0x63] = (.ok 1, left) := by
    refine (sendAll_ok (s := sent) (n := 1) .zero 0 rfl).trans ?_
    rw [if_neg (by decide), show Clock.zero.first = .zero from rfl, htrack]
    exact sendAll_error (s := blocked) (e := .bare .wouldBlock) .zero 1 rfl
  have hfound : start.ensureConnected Clock.zero.first = (.ok true, found) := rfl
  have hpartly : partly = (.ok 1, left) := by
    show start.writeStream .zero [0x61, 0x62, 0x63] .regular = _
    rw [writeStream_of_ensureConnected hfound (List.cons_ne_nil _ _)]
    rw [show (found.anchorSend Clock.zero.first).sendAll Clock.zero.later 0 _ = _ from hsent]
    rfl
  -- The second write is told of two bytes in two seconds.
  have halarm : (told.sample (now - .zero).toSeconds 1).2 = some ⟨1.0, 2.0⟩ := by decide +kernel
  have hlate : left.traced.write .stream (.still now) [0x62, 0x63] .regular = _ :=
    writeStream_of_alarm (c := left.traced) (n := 1) rfl (List.cons_ne_nil _ _) (by decide) rfl
      rfl halarm
  rw [hpartly]
  refine ⟨rfl, ?_, ?_⟩
  · rw [write_traced, hlate]
    rfl
  · show (left.traced.write .stream (.still now) [0x62, 0x63] .regular).2.accepted .regular = _
    rw [hlate]
    rfl

end FrameSocket.Client
