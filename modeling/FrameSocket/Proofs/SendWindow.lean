import FrameSocket.Proofs.Stalls

/-!
# The window of the send watchdog

Before a write sends, it opens the window of its send watchdog, and when all that it was given
has gone out on the regular channel it closes it.  Between the two, time counts against the
speed.  So behind such a write a client may be idle for as long as it will: the next write
opens a new window, all in one instant, and is not too slow.

Other writes may answer that all of their data is gone, and do not close the window: those to
the urgent channel, those of nothing to a stream, and those of an empty datagram that was not
taken.  Behind them the time until the next write counts, and a write that sends all of its
data at once may be too slow.

## Key results

- `sendIdle_write`: which finished writes close the window
- `slowBy_write`: a write that starts with a closed window is too slow only by the time that
  passes while it sends
- `sendIdle_after`: what is not a write leaves the window closed
- `flushed_run`: what a finished write leaves, and what follows it
- `write_after_unflushed`: finished writes, and one that is too slow behind them
-/

namespace FrameSocket

/-- The alarm of the send watchdog. -/
def NetworkError.isSlowSend : NetworkError → Bool
  | .slowTransfer .send _ _ => true
  | _ => false

/-- What `isSlowSend` picks is an alarm of sending, with a speed and a duration. -/
theorem exists_of_isSlowSend {e : NetworkError} (h : e.isSlowSend = true) :
    ∃ speed duration, e = .slowTransfer .send speed duration := by
  unfold NetworkError.isSlowSend at h
  split at h
  · exact ⟨_, _, rfl⟩
  · cases h

/-- A sample starts a watchdog. -/
theorem Watchdog.isStarted_sample (d : Watchdog Float) (time : Float) (bytes : Nat) :
    (d.sample time bytes).1.isStarted = true := by
  unfold Watchdog.sample
  split
  · rfl
  · dsimp only
    split
    · rfl
    · split <;> rfl

/-- Whether all the data of a finished write that made these calls went out on the regular
    channel: there was some, or it was a datagram without any. -/
def Exchange.flush (kind : ClientKind) (ch : Channel) (data : Bytes) (calls : List Exchange) :
    Bool :=
  ch = .regular && (!data.isEmpty || kind = .datagram && calls.any deliversDatagram)

namespace Client

variable {σ φ : Type} [Endpoint σ] [Framer φ]

/-- Whether an answer is the alarm of the send watchdog. -/
def isSlowSend : Except NetworkError Nat → Bool
  | .error e => e.isSlowSend
  | .ok _ => false

/-- Whether no window of a send watchdog is open. -/
def sendIdle (c : Client σ) : Bool := c.sendWatch.all fun d => !d.isStarted

/-! ## Opening and closing the window -/

section Windows

variable {c c' : Client σ}

omit [Endpoint σ] in
/-- `sendIdle` looks at the books of sending only. -/
theorem sendIdle_eq_of_books (h : c'.sendBooks = c.sendBooks) : c'.sendIdle = c.sendIdle :=
  congrArg (fun b : SendBooks => b.watch.all fun d : Watchdog Float => !d.isStarted) h

omit [Endpoint σ] in
/-- `anchorSend` opens the window of a watchdog. -/
theorem sendIdle_anchorSend (h : c.sendWatch.isSome = true) (now : Duration) :
    (c.anchorSend now).sendIdle = false := by
  obtain ⟨d, hwatch⟩ := Option.isSome_iff_exists.mp h
  show (anchored c.sendWatch _).all _ = false
  rw [hwatch]
  show (!(if d.isStarted then d else (d.sample _ 0).1).isStarted) = false
  split
  · -- An open window stays open
    rename_i hstarted
    rw [hstarted]
    rfl
  · rw [Watchdog.isStarted_sample]
    rfl

omit [Endpoint σ] in
/-- `trackSend` leaves a window open. -/
theorem sendIdle_trackSend (h : c.sendIdle = false) (now : Duration) (bytes : Nat) :
    (c.trackSend now bytes).2.sendIdle = false := by
  unfold trackSend
  split
  · exact h
  · rename_i d hwatch
    have hstarted : (!(d.sample (c.elapsed now) bytes).1.isStarted) = false := by
      rw [Watchdog.isStarted_sample]
      rfl
    dsimp only
    split <;> exact hstarted

omit [Endpoint σ] in
/-- `finishSend` closes the window. -/
theorem sendIdle_finishSend (c : Client σ) : c.finishSend.sendIdle = true := by
  show (c.sendWatch.map Watchdog.reset).all _ = true
  cases c.sendWatch <;> rfl

/-- `sendUrgent` leaves the window as it is. -/
theorem sendIdle_sendUrgent (c : Client σ) (sent : Nat) (data : Bytes) :
    (c.sendUrgent sent data).2.sendIdle = c.sendIdle := by
  fun_induction sendUrgent c sent data with
  | case1 c sent => rfl
  | case2 c sent b rest s _ => rfl
  | case3 c sent b rest n s _ _ ih => exact ih
  | case4 c sent b rest e s _ _ => rfl
  | case5 c sent b rest e s _ _ => exact sendIdle_eq_of_books (sendBooks_sendError _ e)

/-- `probe` leaves the window as it is. -/
theorem sendIdle_probe (c : Client σ) : c.probe.2.sendIdle = c.sendIdle := by
  unfold probe
  split
  · rfl
  · split
    · rfl
    · exact sendIdle_eq_of_books (sendBooks_sendError _ _)

/-- `stalled` leaves the window as it is. -/
theorem sendIdle_stalled (c : Client σ) (reason : String) :
    (c.stalled reason).2.sendIdle = c.sendIdle := by
  unfold stalled
  dsimp only
  split <;> rfl

end Windows

/-! ## Finished writes -/

section Finished

variable {c c' : Client σ} {data : Bytes} {now : Clock}

/-- A write that stalls has not finished with any data. -/
theorem stalled_ne_ok (c : Client σ) (reason : String) (hne : data ≠ []) :
    (c.stalled reason).1 ≠ .ok data.length := by
  have hlength : data.length ≠ 0 := fun h => hne (List.length_eq_zero_iff.mp h)
  unfold stalled
  dsimp only
  split
  · simp
  · exact fun h => hlength (Except.ok.inj h).symm

/-- A regular write that finishes has closed the window. -/
theorem sendIdle_writeOutcome {written : Nat} (hne : data ≠ [])
    (hok : (c.writeOutcome written data.length).1 = .ok data.length) :
    (c.writeOutcome written data.length).2.sendIdle = true := by
  by_cases hall : written = data.length
  · rw [writeOutcome, if_pos hall]
    exact sendIdle_finishSend c
  · rw [writeOutcome, if_neg hall] at hok
    split at hok
    · exact absurd hok (stalled_ne_ok c _ hne)
    · exact absurd (Except.ok.inj hok) hall

/-- A finished write of a connected stream client closes the window exactly if it was a
    regular one and had something to send. -/
theorem sendIdle_writeStream {ch : Channel} (hwatch : c.sendWatch.isSome = true)
    (hok : (c.writeStream now data ch).1 = .ok data.length)
    (hconn : (c.writeStream now data ch).2.isConnected = true) :
    (c.writeStream now data ch).2.sendIdle = (ch = .regular && !data.isEmpty : Bool) := by
  have hopen : ∀ {c₁ : Client σ}, c.ensureConnected now.first = (.ok true, c₁) →
      (c₁.anchorSend now.first).sendIdle = false := by
    intro c₁ hensured
    refine sendIdle_anchorSend ?_ now.first
    rw [sendWatch_ensureConnected hensured]
    exact hwatch
  have hwrites := writes_writeStream c now data ch
  generalize c.writeStream now data ch = w at hwrites hok hconn
  cases hwrites with
  | refused _ | failed _ | urgentFailed _ _ | urgentSlow _ _ _ | regularFailed _ _ _ =>
    simp at hok
  | waiting hensured =>
    -- This answers zero, but then the client is not connected
    rw [not_isConnected_of_ensureConnected hensured] at hconn
    simp at hconn
  | @urgent c₁ c₂ c₃ sent hensured hsend htrack =>
    have hsent := sendIdle_sendUrgent (c₁.anchorSend now.first) 0 data
    rw [hsend, hopen hensured] at hsent
    have htracked := sendIdle_trackSend hsent now.later.first sent
    rw [htrack] at htracked
    exact htracked
  | probed hensured hempty =>
    rw [sendIdle_probe, hopen hensured, hempty]
    rfl
  | regular hensured hne hsend =>
    rw [sendIdle_writeOutcome hne hok]
    simp [hne]

end Finished

/-- A finished sending of a datagram closes the window exactly if the datagram went out, which
    it has if it is not empty. -/
theorem sendIdle_sendDatagram (c : Client (Traced σ)) (now : Duration) (data : Bytes)
    (hopen : c.sendIdle = false) (hok : (c.sendDatagram now data).1 = .ok data.length) :
    ∃ calls, (c.sendDatagram now data).2.socket.exchanges = c.socket.exchanges ++ calls ∧
      (c.sendDatagram now data).2.sendIdle =
        (!data.isEmpty || calls.any Exchange.deliversDatagram) := by
  fun_induction sendDatagram c now data with
  | case1 c sent s hsend c₁ hsent e c₂ htrack => simp at hok
  | case2 c sent s hsend c₁ hsent c₂ htrack =>
    have hsocket : c₂.socket = s := (Booked.trackSend htrack).socket
    refine ⟨_, (congrArg Traced.exchanges hsocket).trans (Traced.exchanges_send hsend), ?_⟩
    have hdelivers : (Exchange.send .regular data (.ok sent)).deliversDatagram = true := by
      simpa [Exchange.deliversDatagram, Exchange.sendsWith] using hsent
    rw [List.any_cons, hdelivers, Bool.true_or, Bool.or_true]
    exact sendIdle_finishSend c₂
  | case3 c sent s hsend c₁ hsent =>
    rw [not_or] at hsent
    exact absurd hok (stalled_ne_ok c₁ _ hsent.2)
  | case4 c e s hsend c' hblocked =>
    -- Zero is answered for a datagram that is held back, which is its length if it is empty
    have hempty : data = [] := Classical.byContradiction fun hne => stalled_ne_ok c' _ hne hok
    have hsocket : (c'.stalled "datagram was never sent").2.socket = s :=
      (Booked.stalled _ _).socket
    refine ⟨_, (congrArg Traced.exchanges hsocket).trans (Traced.exchanges_send hsend), ?_⟩
    rw [sendIdle_stalled, hempty]
    exact hopen
  | case5 c e s hsend c' hblocked hinterrupted ih =>
    obtain ⟨calls, hrecord, hidle⟩ := ih hopen hok
    refine ⟨.send .regular data (.error e) :: calls, ?_, hidle⟩
    rw [hrecord, Traced.exchanges_send hsend, List.append_assoc, List.singleton_append]
  | case6 c e s hsend c' hblocked hinterrupted => simp [failed] at hok

/-- And so does a finished write of a datagram client. -/
theorem sendIdle_writeDatagram {c : Client (Traced σ)} (hnone : c.socket.exchanges = [])
    (hwatch : c.sendWatch.isSome = true) {now : Clock} {data : Bytes} {ch : Channel}
    (hok : (c.writeDatagram now data ch).1 = .ok data.length) :
    (c.writeDatagram now data ch).2.sendIdle =
      Exchange.flush .datagram ch data (c.writeDatagram now data ch).2.socket.exchanges := by
  by_cases hurgent : ch = .urgent
  · rw [writeDatagram, if_pos hurgent] at hok
    simp at hok
  · obtain rfl : ch = .regular := Channel.eq_regular hurgent
    by_cases hlimit : c.config.maxDatagramSize < data.length
    · rw [writeDatagram, if_neg hurgent] at hok
      dsimp only at hok
      rw [if_pos hlimit] at hok
      simp at hok
    · have hsend :
          c.writeDatagram now data .regular =
            (c.anchorSend now.first).sendDatagram now.later.first data := by
        rw [writeDatagram, if_neg hurgent]
        exact if_neg hlimit
      rw [hsend] at hok ⊢
      -- What is neither urgent nor too long is sent, behind an opened window
      obtain ⟨calls, hrecord, hidle⟩ :=
        sendIdle_sendDatagram _ now.later.first data (sendIdle_anchorSend hwatch now.first) hok
      have hcalls :
          ((c.anchorSend now.first).sendDatagram now.later.first data).2.socket.exchanges = calls :=
        hrecord.trans (by rw [show (c.anchorSend now.first).socket.exchanges = [] from hnone]; rfl)
      rw [hidle, hcalls]
      simp [Exchange.flush]

/-- A finished write of a connected client closes the window exactly if all the data went out
    on the regular channel. -/
theorem sendIdle_write (kind : ClientKind) {c : Client σ} (hwatch : c.sendWatch.isSome = true)
    {now : Clock} {data : Bytes} {ch : Channel}
    (hok : (c.write kind now data ch).1 = .ok data.length)
    (hconn : kind = .stream → (c.write kind now data ch).2.isConnected = true) :
    (c.write kind now data ch).2.sendIdle =
      Exchange.flush kind ch data (c.exchangesOf kind (.write now data ch : Step σ φ)) := by
  cases kind with
  | stream =>
    show (c.writeStream now data ch).2.sendIdle = _
    rw [sendIdle_writeStream hwatch hok (hconn rfl)]
    simp [Exchange.flush]
  | datagram =>
    -- Whether an empty datagram went out is only on record
    rw [c.write_traced .datagram now data ch] at hok ⊢
    exact sendIdle_writeDatagram (c := c.traced) rfl hwatch hok

/-! ## Writes that start with a closed window -/

/-- An alarm of sending with which more than `limit` has passed between two of the first
    `n + 1` of `times`. -/
def SlowBy (times : Nat → Float) (limit : Float) (n : Nat) (e : NetworkError) : Prop :=
  ∀ speed duration, e = .slowTransfer .send speed duration →
    limit < duration ∧ Watchdog.Passes times n duration

/-- A `SlowBy` between the first readings is one between more of them. -/
theorem SlowBy.mono {times : Nat → Float} {limit : Float} {n m : Nat} {e : NetworkError}
    (h : SlowBy times limit n e) (hle : n ≤ m) : SlowBy times limit m e := by
  intro speed duration he
  obtain ⟨hlimit, hpasses⟩ := h speed duration he
  exact ⟨hlimit, hpasses.mono hle⟩

/-- Other errors are no alarms. -/
theorem slowBy_of_not {times : Nat → Float} {limit : Float} {n : Nat} {e : NetworkError}
    (h : e.isSlowSend = false) : SlowBy times limit n e := by
  rintro speed duration rfl
  exact nomatch h

/-- What works is not slow. -/
theorem slowBy_of_ok {times : Nat → Float} {limit : Float} {n m : Nat} {e : NetworkError}
    (h : (Except.ok m : Except NetworkError Nat) = .error e) : SlowBy times limit n e :=
  nomatch h

/-- The send watchdog, if there is one, has been told of the first `n + 1` of `times`, and what
    the clock will show are the ones behind these. -/
structure SendsBy (c : Client σ) (times : Nat → Float) (limit : Float) (n : Nat)
    (now : Clock) : Prop where
  watch : ∀ d, c.sendWatch = some d → d.maxDuration = limit ∧ d.GoesBy times n
  next : ∀ i, c.elapsed (now i) = times (n + 1 + i)

section Times

variable {c c' : Client σ} {now : Clock} {times : Nat → Float} {limit : Float} {n : Nat}

omit [Endpoint σ] in
/-- The window is opened by the first reading of a write. -/
theorem sendsBy_anchorSend (h : c.sendIdle = true)
    (hlimit : ∀ d, c.sendWatch = some d → d.maxDuration = limit) (now : Clock) :
    (c.anchorSend now.first).SendsBy (fun i => c.elapsed (now i)) limit 0 now.later where
  watch d hd := by
    have hanchored : anchored c.sendWatch (c.elapsed now.first) = some d := hd
    obtain ⟨d', hwatch, rfl⟩ := Option.map_eq_some_iff.mp hanchored
    -- The window was closed, so the first reading opens it
    have hfresh : d'.window = none := by
      unfold sendIdle at h
      rw [hwatch] at h
      exact Option.isNone_iff_eq_none.mp (by simpa [Watchdog.isStarted] using h)
    have hstarted : d'.isStarted = false := by
      rw [Watchdog.isStarted, hfresh]
      rfl
    rw [hstarted, if_neg (by decide)]
    refine ⟨?_, Watchdog.goesBy_first hfresh (fun i => c.elapsed (now i)) 0⟩
    rw [← hlimit d' hwatch]
    exact congrArg Prod.snd (d'.limits_sample _ 0)
  next i := by
    rw [Nat.add_comm]
    rfl

omit [Endpoint σ] in
/-- The watchdog is told of the next reading.  An alarm has lasted for longer than the limit
    since one of those before it. -/
theorem SendsBy.trackSend (h : c.SendsBy times limit n now) {bytes : Nat}
    {answer : Except NetworkError Unit} (htrack : c.trackSend now.first bytes = (answer, c')) :
    c'.SendsBy times limit (n + 1) now.later ∧
      ∀ e, answer = .error e → SlowBy times limit (n + 1) e := by
  -- The reading is the next of `times`
  have htime : c.elapsed now.first = times (n + 1) := h.next 0
  have hnext : ∀ i, c.elapsed (now.later i) = times (n + 1 + 1 + i) := by
    intro i
    rw [Nat.add_assoc, Nat.add_comm 1 i]
    exact h.next (i + 1)
  unfold Client.trackSend at htrack
  split at htrack
  · cases htrack
    rename_i hnone
    exact ⟨⟨fun d hd => (by simp [hnone] at hd), hnext⟩, nofun⟩
  · rename_i d hwatch
    obtain ⟨hlimit, hgoes⟩ := h.watch d hwatch
    rw [htime] at htrack
    have hsampled : ∀ d', some (d.sample (times (n + 1)) bytes).1 = some d' →
        d'.maxDuration = limit ∧ d'.GoesBy times (n + 1) := by
      intro d' hd'
      cases hd'
      exact ⟨(congrArg Prod.snd (d.limits_sample _ bytes)).trans hlimit, hgoes.sample bytes⟩
    dsimp only at htrack
    split at htrack
    · cases htrack
      exact ⟨⟨hsampled, hnext⟩, nofun⟩
    · rename_i alarm halarm
      cases htrack
      refine ⟨⟨hsampled, hnext⟩, fun e he speed duration hslow => ?_⟩
      cases he
      cases hslow
      obtain ⟨hlong, hpasses⟩ := hgoes.alarm halarm
      exact ⟨hlimit ▸ hlong, hpasses⟩

/-- `sendError` is no alarm. -/
theorem not_isSlowSend_sendError (c : Client σ) (e : IoError) :
    (c.sendError e).1.isSlowSend = false := by
  unfold sendError
  split <;> rfl

/-- A write that stalls may fail, but not because it is slow. -/
theorem slowBy_stalled {c : Client σ} {reason : String} {e : NetworkError}
    (h : (c.stalled reason).1 = .error e) : SlowBy times limit n e := by
  unfold stalled at h
  dsimp only at h
  split at h
  · cases h
    exact slowBy_of_not rfl
  · exact nomatch h

/-- The sending of urgent bytes does not look at the clock. -/
theorem SendsBy.sendUrgent (h : c.SendsBy times limit n now) (sent : Nat) (data : Bytes) :
    (c.sendUrgent sent data).2.SendsBy times limit n now ∧
      ∀ e, (c.sendUrgent sent data).1 = .error e → SlowBy times limit n e := by
  fun_induction Client.sendUrgent c sent data with
  | case1 c sent => exact ⟨h, fun _ => slowBy_of_ok⟩
  | case2 c sent b rest s _ => exact ⟨⟨h.watch, h.next⟩, fun _ => slowBy_of_ok⟩
  | case3 c sent b rest n s _ _ ih => exact ih ⟨h.watch, h.next⟩
  | case4 c sent b rest e s _ _ => exact ⟨⟨h.watch, h.next⟩, fun _ => slowBy_of_ok⟩
  | case5 c sent b rest e s _ _ =>
    -- A failed send tells its own error, and reads no clock
    refine ⟨?_, fun e' he' => ?_⟩
    · show ({ c with socket := s }.sendError e).2.SendsBy times limit n now
      unfold sendError
      split <;> exact ⟨h.watch, h.next⟩
    · cases he'
      exact slowBy_of_not (not_isSlowSend_sendError { c with socket := s } e)

/-- The sending of a datagram looks at the clock once. -/
theorem SendsBy.sendDatagram (h : c.SendsBy times limit n now) (data : Bytes) :
    ∀ e, (c.sendDatagram now.first data).1 = .error e → SlowBy times limit (n + 1) e := by
  fun_induction Client.sendDatagram c now.first data with
  | case1 c sent s _ c₁ _ e c₂ htrack =>
    intro e' he'
    cases he'
    -- The one reading behind a datagram that went out
    have hready : { c with socket := s }.SendsBy times limit n now := ⟨h.watch, h.next⟩
    exact (hready.trackSend htrack).2 e rfl
  | case2 c sent s _ c₁ _ c₂ htrack => exact fun _ => slowBy_of_ok
  | case3 c sent s _ c₁ _ => exact fun e => slowBy_stalled
  | case4 c e s _ c' _ => exact fun e => slowBy_stalled
  | case5 c e s _ c' _ _ ih => exact ih ⟨h.watch, h.next⟩
  | case6 c e s _ c' _ _ =>
    intro e' he'
    cases he'
    exact slowBy_of_not (not_isSlowSend_sendError c' e)

end Times

section Calls

variable {c : Client (Traced σ)} {now : Clock} {times : Nat → Float} {limit : Float} {n : Nat}

/-- How many sending calls are on record. -/
def sends (c : Client (Traced σ)) : Nat := c.socket.exchanges.countP Exchange.isSend

/-- `Endpoint.send` is one send more. -/
theorem succ_le_sends {ch : Channel} {data : Bytes} {answer : Except IoError Nat}
    {s : Traced σ} (hn : n ≤ c.sends) (h : Endpoint.send c.socket ch data = (answer, s)) :
    n + 1 ≤ { c with socket := s }.sends := by
  show n + 1 ≤ s.exchanges.countP Exchange.isSend
  rw [Traced.exchanges_send h, List.countP_append]
  exact Nat.succ_le_succ hn

/-- The sending loop looks at the clock once for each call that took something. -/
theorem SendsBy.sendAll (h : c.SendsBy times limit n now) (hn : n ≤ c.sends) (written : Nat)
    (data : Bytes) : ∀ e, (c.sendAll now written data).1 = .error e →
      SlowBy times limit (c.sendAll now written data).2.sends e := by
  -- By induction on the turns: no more has been told than calls have been made.
  fun_induction Client.sendAll c now written data generalizing n with
  | case1 c now written => exact fun _ => slowBy_of_ok
  | case2 c now written b rest s _ => exact fun _ => slowBy_of_ok
  | case3 c now written b rest k s hsend e c' htrack =>
    intro e' he'
    cases he'
    have hready : { c with socket := s }.refillWrites.SendsBy times limit n now :=
      ⟨h.watch, h.next⟩
    refine ((hready.trackSend htrack).2 e rfl).mono ?_
    rw [sends, (Booked.trackSend htrack).socket]
    exact succ_le_sends hn hsend
  | case4 c now written b rest k s hsend c' htrack ih =>
    have hready : { c with socket := s }.refillWrites.SendsBy times limit n now :=
      ⟨h.watch, h.next⟩
    refine ih (hready.trackSend htrack).1 ?_
    rw [sends, (Booked.trackSend htrack).socket]
    exact succ_le_sends hn hsend
  | case5 c now written b rest e s _ _ => exact fun _ => slowBy_of_ok
  | case6 c now written b rest e s hsend _ _ ih =>
    exact ih ⟨h.watch, h.next⟩ (Nat.le_of_succ_le (succ_le_sends hn hsend))
  | case7 c now written b rest e s _ _ _ =>
    intro e' he'
    cases he'
    exact slowBy_of_not (not_isSlowSend_sendError { c with socket := s } e)

/-- A write to a stream that starts with a closed window goes by its own readings only. -/
theorem slowBy_writeStream (h : c.sendIdle = true)
    (hlimit : ∀ d, c.sendWatch = some d → d.maxDuration = limit) (now : Clock) (data : Bytes)
    (ch : Channel) {e : NetworkError} (herror : (c.writeStream now data ch).1 = .error e) :
    SlowBy (fun i => c.elapsed (now i)) limit (max 1 (c.writeStream now data ch).2.sends) e := by
  -- The write opens the window itself
  have hready : ∀ {c₁ : Client (Traced σ)}, c.ensureConnected now.first = (.ok true, c₁) →
      (c₁.anchorSend now.first).SendsBy (fun i => c.elapsed (now i)) limit 0 now.later := by
    intro c₁ hensured
    have hbooks := (books_ensureConnected hensured).2
    have hwatch : c₁.sendWatch = c.sendWatch := sendWatch_ensureConnected hensured
    have htimes : (fun i => c₁.elapsed (now i)) = fun i => c.elapsed (now i) := by
      funext i
      rw [elapsed, elapsed, createdAt_ensureConnected hensured]
    rw [← htimes]
    exact sendsBy_anchorSend ((sendIdle_eq_of_books hbooks).trans h)
      (fun d hd => hlimit d (hwatch.symm.trans hd)) now
  have hwrites := writes_writeStream c now data ch
  generalize c.writeStream now data ch = w at hwrites herror ⊢
  cases hwrites with
  | refused hrefused =>
    cases herror
    obtain ⟨what, rfl⟩ := exists_unsupported_of_refused hrefused
    exact slowBy_of_not rfl
  | failed hensured =>
    cases herror
    exact slowBy_of_not (error_of_ensureConnected hensured (fun _ _ => rfl) (fun _ => rfl)
      fun _ => rfl)
  | waiting _ | urgent _ _ _ => exact nomatch herror
  | urgentFailed hensured hsend =>
    cases herror
    have hsent := ((hready hensured).sendUrgent 0 data).2
    rw [hsend] at hsent
    exact (hsent e rfl).mono (Nat.zero_le _)
  | urgentSlow hensured hsend htrack =>
    cases herror
    have hsent := ((hready hensured).sendUrgent 0 data).1
    rw [hsend] at hsent
    exact (SendsBy.trackSend hsent htrack).2 e rfl |>.mono (Nat.le_max_left _ _)
  -- A write of nothing tracks nothing
  | @probed c₁ hensured _ =>
    unfold probe at herror
    split at herror
    · exact nomatch herror
    · split at herror
      · exact nomatch herror
      · cases herror
        exact slowBy_of_not (not_isSlowSend_sendError _ _)
  | regularFailed hensured _ hsend =>
    cases herror
    have hsent := (hready hensured).sendAll (Nat.zero_le _) 0 data
    rw [hsend] at hsent
    exact (hsent e rfl).mono (Nat.le_max_right _ _)
  | regular _ _ _ =>
    unfold writeOutcome at herror
    split at herror
    · exact nomatch herror
    · split at herror
      · exact slowBy_stalled herror
      · exact nomatch herror

end Calls

/-- A write that starts with a closed window goes by its own readings only: the first one, and
    one for each sending call. -/
theorem slowBy_write (kind : ClientKind) {c : Client σ} {limit : Float}
    (h : c.sendIdle = true) (hlimit : ∀ d, c.sendWatch = some d → d.maxDuration = limit)
    (now : Clock) (data : Bytes) (ch : Channel) {e : NetworkError}
    (herror : (c.write kind now data ch).1 = .error e) :
    SlowBy (fun i => c.elapsed (now i)) limit
      (max 1 ((c.exchangesOf kind (.write now data ch : Step σ φ)).countP Exchange.isSend)) e := by
  cases kind with
  -- The bound speaks of the calls, which only a traced client has on record
  | stream =>
    have hanswer : (c.traced.writeStream now data ch).1 = .error e :=
      (congrArg Prod.fst (c.write_traced .stream now data ch)).symm.trans herror
    exact slowBy_writeStream (c := c.traced) h hlimit now data ch hanswer
  | datagram =>
    change (c.writeDatagram now data ch).1 = _ at herror
    unfold writeDatagram at herror
    split at herror
    · cases herror
      exact slowBy_of_not rfl
    · dsimp only at herror
      split at herror
      · cases herror
        exact slowBy_of_not rfl
      · exact ((sendsBy_anchorSend h hlimit now).sendDatagram data e herror).mono
          (Nat.le_max_left _ _)

/-! ## Runs -/

/-- Whether a step writes. -/
def Step.isWrite : Step σ φ → Bool
  | .write _ _ _ => true
  | _ => false

/-- What is not a write leaves the window closed. -/
theorem sendIdle_after {kind : ClientKind} {c : Client σ} (h : c.sendIdle = true)
    {step : Step σ φ} (hstep : step.isWrite = false) : (c.after kind step).sendIdle = true := by
  cases step with
  | world change => exact h
  | read now f ch => exact (sendIdle_eq_of_books (sendBooks_read kind c now f ch)).trans h
  | write now data ch => simp [Step.isWrite] at hstep
  | resetTransfer => exact sendIdle_finishSend c.finishRead

/-- What is not a write leaves the window closed. -/
theorem sendIdle_run {kind : ClientKind} {c : Client σ} (h : c.sendIdle = true)
    {steps : List (Step σ φ)} (hsteps : ∀ step ∈ steps, step.isWrite = false) :
    (c.run kind steps).sendIdle = true := by
  induction steps generalizing c with
  | nil => exact h
  | cons step steps ih =>
    have hfirst : (c.after kind step).sendIdle = true :=
      sendIdle_after h (hsteps step List.mem_cons_self)
    exact ih hfirst fun step' hstep' => hsteps step' (List.mem_cons_of_mem step hstep')

/-- The limits of the send watchdog are part of no change that a write makes. -/
theorem keptByWriting_sendLimits : KeptByWriting fun c c' : Client σ =>
    c'.sendWatch.map Watchdog.limits = c.sendWatch.map Watchdog.limits where
  trans h h' := h'.trans h
  books _ _ _ h := h
  send _ := rfl
  failed _ := by
    unfold sendError
    split <;> rfl

/-- A client keeps its send watchdog across every step, and the watchdog its limits. -/
theorem sendLimits_after (kind : ClientKind) (c : Client σ) (step : Step σ φ) :
    (c.after kind step).sendWatch.map Watchdog.limits = c.sendWatch.map Watchdog.limits := by
  -- What leaves the books of sending leaves the limits
  have hbooks : ∀ {c' : Client σ}, c'.sendBooks = c.sendBooks →
      c'.sendWatch.map Watchdog.limits = c.sendWatch.map Watchdog.limits :=
    fun h => congrArg (fun b : SendBooks => b.watch.map Watchdog.limits) h
  cases step with
  | world change => rfl
  | read now f ch => exact hbooks (sendBooks_read kind c now f ch)
  | write now data ch =>
    cases kind with
    | stream =>
      show (c.writeStream now data ch).2.sendWatch.map Watchdog.limits = _
      rcases keptByWriting_sendLimits.writeStream c now data ch with hrefused | hafter
      · rw [hrefused]
      · exact hafter.trans (hbooks (books_ensureConnected rfl).2)
    | datagram => exact keptByWriting_sendLimits.writeDatagram c now data ch
  | resetTransfer =>
    show (c.sendWatch.map Watchdog.reset).map Watchdog.limits = _
    rw [Option.map_map]
    rfl

/-- No run changes the limits of the watchdog. -/
theorem sendLimits_run (kind : ClientKind) (c : Client σ) (steps : List (Step σ φ)) :
    (c.run kind steps).sendWatch.map Watchdog.limits = c.sendWatch.map Watchdog.limits := by
  induction steps generalizing c with
  | nil => rfl
  | cons step steps ih => exact (ih (c.after kind step)).trans (sendLimits_after kind c step)

/-- What a finished write of a connected client with a floor for the speed of sending leaves,
    after any run.

    The window of the watchdog is closed exactly if all the data went out on the regular
    channel.  Then it stays closed until the next write, however long that takes.  If this
    write is too slow, then more than `slowSendLimit` has passed within it, and a second or
    more: between two of its own readings of the clock, which are the one at its beginning
    and one for each sending call.  The time before it does not count. -/
theorem flushed_run (kind : ClientKind) (socket : σ) (config : Config) (made : Duration)
    (hfloor : config.minSendSpeed.isSome = true) (steps : List (Step σ φ)) (now : Clock)
    (data : Bytes) (ch : Channel) :
    let c := (make kind socket config made).run kind steps
    let w := c.write kind now data ch
    let calls := c.exchangesOf kind (.write now data ch : Step σ φ)
    w.1 = .ok data.length → (kind = .stream → w.2.isConnected = true) →
      w.2.sendIdle = Exchange.flush kind ch data calls ∧
      (Exchange.flush kind ch data calls = true →
        ∀ idle : List (Step σ φ), (∀ step ∈ idle, step.isWrite = false) →
          let late := w.2.run kind idle
          late.sendIdle = true ∧
          ∀ (now' : Clock) (data' : Bytes) (ch' : Channel) (speed duration : Float),
            (late.write kind now' data' ch').1 = .error (.slowTransfer .send speed duration) →
            let calls' := late.exchangesOf kind (.write now' data' ch' : Step σ φ)
            config.slowSendLimit.toSeconds < duration ∧
              Watchdog.Passes (fun i => late.elapsed (now' i))
                (max 1 (calls'.countP Exchange.isSend)) duration) := by
  intro c w calls hok hconn
  have hmade : (make kind socket config made).sendWatch = _ :=
    congrArg SendBooks.watch (sendBooks_make kind socket config made)
  -- The watchdog of any state has the limits that were configured
  have hlimits : c.sendWatch.map Watchdog.limits =
      config.minSendSpeed.map (·, config.slowSendLimit.toSeconds) := by
    rw [show c.sendWatch.map Watchdog.limits = _ from sendLimits_run kind _ steps, hmade,
      Option.map_map]
    rfl
  have hwatch : c.sendWatch.isSome = true := by
    rw [← Option.isSome_map (f := Watchdog.limits), hlimits, Option.isSome_map]
    exact hfloor
  have hidle : w.2.sendIdle = Exchange.flush kind ch data calls :=
    sendIdle_write kind hwatch hok hconn
  refine ⟨hidle, fun hflush idle hsteps => ?_⟩
  have hrun : (w.2.run kind idle).sendIdle = true := sendIdle_run (hidle.trans hflush) hsteps
  refine ⟨hrun, fun now' data' ch' speed duration hslow => ?_⟩
  have hlimit : ∀ d, (w.2.run kind idle).sendWatch = some d →
      d.maxDuration = config.slowSendLimit.toSeconds := by
    intro d hd
    have hkept : (w.2.run kind idle).sendWatch.map Watchdog.limits = _ :=
      ((sendLimits_run kind w.2 idle).trans
        (sendLimits_after kind c (.write now data ch : Step σ φ))).trans hlimits
    rw [hd] at hkept
    obtain ⟨floor, _, hfloor⟩ := Option.map_eq_some_iff.mp hkept.symm
    exact (congrArg Prod.snd hfloor).symm
  exact slowBy_write kind hrun hlimit now' data' ch' hslow speed duration rfl

/-- An hour behind a datagram that went out, the next one is not too slow if half a second
    passes while it is sent, and is too slow if two seconds do. -/
theorem flushed_run_apart :
    let socket : ScriptedSocket :=
      { id := ⟨1⟩, transport := .udp, peer := .ok (some "10.0.0.2:4000") }
    let config := Config.default.withMinSendSpeed 1000000.0 .zero
    let w := (make .datagram socket config .zero).write .datagram .zero [0x61] .regular
    let soon : Clock := fun i => .ofMillis (if i = 0 then 3600000 else 3600500)
    let late : Clock := fun i => .ofMillis (if i = 0 then 3600000 else 3602000)
    let write : Step ScriptedSocket Framer.NoData := .write late [0x62] .regular
    config.minSendSpeed.isSome = true ∧ w.1 = .ok [(0x61 : UInt8)].length ∧
      w.2.sendIdle = true ∧ isSlowSend (w.2.write .datagram soon [0x62] .regular).1 = false ∧
      (w.2.write .datagram late [0x62] .regular).1 = .error (.slowTransfer .send 0.5 2.0) ∧
      config.slowSendLimit.toSeconds < 2.0 ∧
      Watchdog.Passes (fun i => w.2.elapsed (late i))
        (max 1 ((w.2.exchangesOf .datagram write).countP Exchange.isSend)) 2.0 := by
  intro socket config w soon late write
  let fresh : Watchdog Float := Watchdog.new 1000000.0 Duration.zero.toSeconds
  let opened : Watchdog Float := (fresh.sample (Duration.zero - .zero).toSeconds 0).1
  let told : Watchdog Float := (opened.sample (Duration.zero - .zero).toSeconds 1).1
  have hcalm : (opened.sample (Duration.zero - .zero).toSeconds 1).2 = none := by decide +kernel
  have hreset : told.reset = fresh := by decide +kernel
  let ready := (make .datagram socket config .zero).anchorSend .zero
  let sent := (Endpoint.send ready.socket .regular [0x61]).2
  let closed : Client ScriptedSocket := { ready with socket := sent, sendWatch := some fresh }
  have hopened : { ready with socket := sent }.sendWatch = some opened := rfl
  have htrack : { ready with socket := sent }.trackSend .zero 1 =
      (.ok (), { ready with socket := sent, sendWatch := some told }) :=
    trackSend_of_calm hopened hcalm
  have hsend : Endpoint.send ready.socket .regular [0x61] = (.ok 1, sent) := rfl
  have hwrite : w = (.ok 1, closed) := by
    show ready.sendDatagram .zero [0x61] = _
    rw [sendDatagram_ok .zero hsend, if_pos (by decide), htrack]
    show (Except.ok 1, { closed with sendWatch := some told.reset }) = _
    rw [hreset]
  have hok : w.1 = .ok [(0x61 : UInt8)].length := congrArg Prod.fst hwrite
  obtain ⟨hidle, hnext⟩ := flushed_run (φ := Framer.NoData) .datagram socket config .zero rfl []
    .zero [0x61] .regular hok (by simp)
  have hwithin := (hnext rfl [] (by simp)).2
  -- An alarm would need a second within the write.
  have hsoon : isSlowSend (w.2.write .datagram soon [0x62] .regular).1 = false := by
    cases hanswer : (w.2.write .datagram soon [0x62] .regular).1 with
    | ok n => rfl
    | error e =>
      refine Bool.eq_false_iff.mpr fun hslow => ?_
      obtain ⟨speed, duration, rfl⟩ := exists_of_isSlowSend hslow
      obtain ⟨_, i, _, j, _, _, hsecond⟩ := hwithin soon [0x62] .regular speed duration hanswer
      refine hsecond ?_
      show w.2.elapsed (soon j) - w.2.elapsed (soon 0) < 1.0
      rw [hwrite]
      rcases j with _ | j
      · decide +kernel
      · show (Duration.ofMillis 3600500 - .zero).toSeconds -
          (Duration.ofMillis 3600000 - .zero).toSeconds < 1.0
        decide +kernel
  -- With two seconds within the write, there is one.
  have hlate : (w.2.write .datagram late [0x62] .regular).1 =
      .error (.slowTransfer .send 0.5 2.0) := by
    rw [hwrite]
    let begun : Watchdog Float := (fresh.sample (late 0 - .zero).toSeconds 0).1
    have halarm : (begun.sample (late 1 - .zero).toSeconds 1).2 = some ⟨0.5, 2.0⟩ := by
      decide +kernel
    let waiting := closed.anchorSend (late 0)
    let sent' := (Endpoint.send sent .regular [0x62]).2
    have hsend' : Endpoint.send waiting.socket .regular [0x62] = (.ok 1, sent') := rfl
    have hbegun : { waiting with socket := sent' }.sendWatch = some begun := rfl
    show (waiting.sendDatagram (late 1) [0x62]).1 = _
    rw [sendDatagram_ok _ hsend', if_pos (by decide), trackSend_of_alarm hbegun halarm]
  exact ⟨rfl, hok, hidle, hsoon, hlate, hwithin late [0x62] .regular 0.5 2.0 hlate⟩

/-- A write that sends all its data at once fails all the same if that alarms the watchdog. -/
theorem write_of_alarm {c : Client σ} {now : Clock} {data : Bytes} {s : σ}
    {watch : Watchdog Float} {alarm : Alarm Float} (hconn : c.isConnected = true)
    (hne : data ≠ []) (hsend : Endpoint.send c.socket .regular data = (.ok data.length, s))
    (hwatch : (c.anchorSend now.first).sendWatch = some watch)
    (halarm : (watch.sample (c.elapsed now.later.first) data.length).2 = some alarm) :
    (c.write .stream now data .regular).1 =
      .error (.slowTransfer .send alarm.speed alarm.duration) := by
  have hlength : data.length ≠ 0 := mt List.length_eq_zero_iff.mp hne
  exact congrArg Prod.fst (writeStream_of_alarm hconn hne hlength hsend hwatch halarm)

/-- A write of one urgent byte that goes out, and a write of nothing, leave the window open.
    Two seconds later three bytes go out at once, where a million in each second are asked
    for, and the write fails. -/
theorem write_after_unflushed :
    let socket : ScriptedSocket :=
      { id := ⟨1⟩, transport := .tcp, peer := .ok (some "10.0.0.2:4000") }
    let config := Config.default.withMinSendSpeed 1000000.0 .zero
    let start := make .stream socket config .zero
    let urgent := start.write .stream .zero [0x61] .urgent
    let empty := start.write .stream .zero [] .regular
    (urgent.1 = .ok 1 ∧ urgent.2.isConnected = true ∧ urgent.2.sendIdle = false ∧
      (Endpoint.send urgent.2.socket .regular [0x61, 0x62, 0x63]).1 = .ok 3 ∧
      (urgent.2.write .stream (.still (.ofSeconds 2)) [0x61, 0x62, 0x63] .regular).1 =
        .error (.slowTransfer .send 2.0 2.0)) ∧
    (empty.1 = .ok 0 ∧ empty.2.isConnected = true ∧ empty.2.sendIdle = false ∧
      (Endpoint.send empty.2.socket .regular [0x61, 0x62, 0x63]).1 = .ok 3 ∧
      (empty.2.write .stream (.still (.ofSeconds 2)) [0x61, 0x62, 0x63] .regular).1 =
        .error (.slowTransfer .send 1.5 2.0)) := by
  intro socket config start urgent empty
  let now : Duration := .ofSeconds 2
  have hne : ([0x61, 0x62, 0x63] : Bytes) ≠ [] := List.cons_ne_nil _ _
  -- The window that both writes open, and the byte that the urgent one tells the watchdog of
  let opened : Watchdog Float :=
    ((Watchdog.new 1000000.0 Duration.zero.toSeconds).sample (Duration.zero - .zero).toSeconds 0).1
  let told : Watchdog Float := (opened.sample (Duration.zero - .zero).toSeconds 1).1
  have hcalm : (opened.sample (Duration.zero - .zero).toSeconds 1).2 = none := by decide +kernel
  have hslower : (told.sample (now - .zero).toSeconds 3).2 = some ⟨2.0, 2.0⟩ := by decide +kernel
  have hslowest : (opened.sample (now - .zero).toSeconds 3).2 = some ⟨1.5, 2.0⟩ := by
    decide +kernel
  have hempty : (empty.2.anchorSend (Clock.still now).first).sendWatch = some opened := rfl
  have hall : Endpoint.send empty.2.socket .regular [0x61, 0x62, 0x63] = (.ok 3, _) := rfl
  have hlast : (empty.2.write .stream (.still now) [0x61, 0x62, 0x63] .regular).1 =
      .error (.slowTransfer .send 1.5 2.0) :=
    write_of_alarm rfl hne hall hempty hslowest
  let found := (start.ensureConnected .zero).2
  let sent := ((found.anchorSend .zero).sendUrgent 0 [0x61]).2
  have hopened : sent.sendWatch = some opened := rfl
  have htrack : sent.trackSend .zero 1 = (.ok (), { sent with sendWatch := some told }) :=
    trackSend_of_calm hopened hcalm
  have hsent : (found.anchorSend .zero).sendUrgent 0 [0x61] = (.ok 1, sent) := rfl
  have hurgent : urgent = (.ok 1, { sent with sendWatch := some told }) := by
    show start.writeStream .zero [0x61] .urgent = _
    exact writeStream_of_urgent rfl rfl rfl hsent htrack
  let running : Client ScriptedSocket := { sent with sendWatch := some told }
  have htold : (running.anchorSend (Clock.still now).first).sendWatch = some told := rfl
  have hall' : Endpoint.send running.socket .regular [0x61, 0x62, 0x63] = (.ok 3, _) := rfl
  have hlate : (running.write .stream (.still now) [0x61, 0x62, 0x63] .regular).1 =
      .error (.slowTransfer .send 2.0 2.0) :=
    write_of_alarm rfl hne hall' htold hslower
  refine ⟨?_, rfl, rfl, rfl, rfl, hlast⟩
  rw [hurgent]
  exact ⟨rfl, rfl, rfl, rfl, hlate⟩

end Client

end FrameSocket
