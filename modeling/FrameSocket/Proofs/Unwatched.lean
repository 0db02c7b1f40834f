import FrameSocket.Proofs.Aside

/-!
# Clients without a floor for the speed of receiving

A client that is made without a floor has no receiving watchdog and never gets one, so none
of its reads ends with an alarm.

## Key results

- `Receives.unwatched`: a receiving loop
- `unwatched_readStream`: a read, whatever it comes to
-/

namespace FrameSocket.Client

variable {σ φ : Type} [Endpoint σ] [Framer φ]
variable {c c' : Client σ} {now : Clock} {f : φ} {ch : Channel}

omit [Endpoint σ] in
/-- `keep` leaves the receive watchdog as it is. -/
theorem receiveWatch_keep (c : Client σ) (ch : Channel) (rest : Bytes) (origin : Option String) :
    (c.keep ch rest origin).receiveWatch = c.receiveWatch := by
  unfold keep
  split <;> rfl

omit [Endpoint σ] in
/-- `replay` leaves the receive watchdog as it is. -/
theorem receiveWatch_replay (c : Client σ) (f : φ) (ch : Channel) :
    (c.replay f ch).1.receiveWatch = c.receiveWatch := by
  unfold replay
  split
  · rfl
  · exact receiveWatch_keep _ _ _ _

/-- `receiveError` leaves the receive watchdog as it is. -/
theorem receiveWatch_receiveError (c : Client σ) (e : IoError) :
    (c.receiveError e).2.receiveWatch = c.receiveWatch := by
  unfold receiveError
  split <;> rfl

omit [Endpoint σ] in
/-- `dryRead` leaves the receive watchdog as it is. -/
theorem receiveWatch_dryRead (c : Client σ) : c.dryRead.receiveWatch = c.receiveWatch := by
  unfold dryRead
  split <;> rfl

omit [Endpoint σ] in
/-- `finishRead` makes no receive watchdog. -/
theorem receiveWatch_finishRead (h : c.receiveWatch = none) : c.finishRead.receiveWatch = none := by
  show c.receiveWatch.map _ = none
  rw [h]
  rfl

omit [Endpoint σ] in
/-- What works is no alarm. -/
theorem not_isAlarm_ok (incoming : Incoming σ) : ¬ IsAlarm (.ok incoming) :=
  fun ⟨_, heq, _⟩ => nomatch heq

omit [Endpoint σ] in
/-- Other errors are no alarm. -/
theorem not_isAlarm_error {e : NetworkError} (h : e.isSlowReceive = false) :
    ¬ IsAlarm (.error e : Except NetworkError (Incoming σ)) := by
  rintro ⟨e', heq, hslow⟩
  cases heq
  exact absurd (hslow.symm.trans h) (by decide)

/-- `receiveError` is no alarm. -/
theorem not_isSlowReceive_receiveError (c : Client σ) (e : IoError) :
    (c.receiveError e).1.isSlowReceive = false := by
  unfold receiveError
  split <;> rfl

/-- A receiving loop without a watchdog raises no alarm. -/
theorem Receives.unwatched {any retried : Bool} {r : Reception σ φ}
    (hr : Receives ch now c f any retried r) (h : c.receiveWatch = none) :
    r.client.receiveWatch = none ∧ ¬ r.IsSlow := by
  -- Keeping what is left over sets no watchdog
  have hfed : ∀ {c c₁ : Client σ} {f f₁ : φ} {s : σ} {bytes : Bytes}, c.receiveWatch = none →
      { c with socket := s }.refillReads.feed f ch bytes none = (c₁, f₁) →
      c₁.receiveWatch = none := by
    intro c c₁ f f₁ s bytes h hfeed
    rw [← show _ = c₁ from congrArg Prod.fst hfeed]
    exact (receiveWatch_keep _ _ _ _).trans h
  induction hr with
  | closed hrecv hof => exact ⟨h, fun ⟨e, hpause, _⟩ => nomatch hpause⟩
  | failed hrecv hof =>
    refine ⟨(receiveWatch_receiveError _ _).trans h, fun ⟨e, hpause, hslow⟩ => ?_⟩
    cases hpause
    exact absurd (hslow.symm.trans (not_isSlowReceive_receiveError _ _)) (by decide)
  | interrupted hrecv hof _ ih => exact ih h
  | slow hrecv hof hfeed htrack =>
    -- There is no watchdog to be told
    rw [trackReceive_of_none (hfed h hfeed)] at htrack
    exact nomatch congrArg Prod.fst htrack
  | complete hrecv hof hfeed htrack _ =>
    have hnone := hfed h hfeed
    rw [trackReceive_of_none hnone] at htrack
    cases htrack
    exact ⟨hnone, fun ⟨e, hpause, _⟩ => nomatch hpause⟩
  | more hrecv hof hfeed htrack _ _ ih =>
    have hnone := hfed h hfeed
    rw [trackReceive_of_none hnone] at htrack
    cases htrack
    exact ih hnone
  | again hrecv hof hpeek _ _ ih => exact ih h
  | idle hrecv hof hpeek _ =>
    refine ⟨?_, fun ⟨e, hpause, _⟩ => nomatch hpause⟩
    dsimp only
    split
    · exact h
    · exact (receiveWatch_dryRead _).trans h

/-- `readOutcome` makes no receive watchdog, and raises no alarm that the loop did not. -/
theorem unwatched_readOutcome {r : Reception σ φ} (h : r.client.receiveWatch = none)
    (hcalm : ¬ r.IsSlow) :
    (readOutcome r).1.2.receiveWatch = none ∧ ¬ IsAlarm (readOutcome r).1.1 := by
  unfold readOutcome
  split
  · rename_i e hpause
    refine ⟨h, not_isAlarm_error (Bool.eq_false_iff.mpr fun hslow => hcalm ⟨e, hpause, hslow⟩)⟩
  · dsimp only
    split
    · -- A frame that ends resets a watchdog that is not there
      exact ⟨receiveWatch_finishRead h, not_isAlarm_ok _⟩
    · split
      · split
        · exact ⟨receiveWatch_finishRead h, not_isAlarm_ok _⟩
        · exact ⟨h, not_isAlarm_error rfl⟩
      · split
        · exact ⟨receiveWatch_finishRead h, not_isAlarm_error rfl⟩
        · exact ⟨h, not_isAlarm_ok _⟩

/-- Finding the connection raises no alarm either. -/
theorem unwatched_ensureConnected {answer : Except NetworkError Bool}
    (h : c.ensureConnected now.first = (answer, c')) : c'.receiveWatch = c.receiveWatch ∧
      ∀ e, answer = .error e → e.isSlowReceive = false := by
  cases finds_ensureConnected h with
  | stands _ | named _ _ _ | waiting _ _ _ _ _ => exact ⟨rfl, fun e heq => by cases heq⟩
  | gone _ _ | unreachable _ _ _ | unanswered _ _ _ _ | failed _ _ _ _ | late _ _ _ _ _ =>
    exact ⟨rfl, fun e heq => by cases heq; rfl⟩

/-- No read of a client without a floor raises an alarm. -/
theorem unwatched_readStream (h : c.receiveWatch = none) (now : Clock) (f : φ)
    (ch : Channel) :
    (c.readStream now f ch).1.2.receiveWatch = none ∧
      ¬ IsAlarm (c.readStream now f ch).1.1 := by
  have hnone : ∀ {answer : Except NetworkError Bool} {d : Client σ},
      c.ensureConnected now.first = (answer, d) → d.receiveWatch = none :=
    fun hensured => (unwatched_ensureConnected hensured).1.trans h
  -- There is no window to open
  have hanchored : ∀ {d : Client σ}, c.ensureConnected now.first = (.ok true, d) →
      (d.anchorReceive now.first).receiveWatch = none := by
    intro d hensured
    show anchored d.receiveWatch _ = none
    rw [hnone hensured]
    rfl
  have hreads := reads_readStream c now f ch
  generalize c.readStream now f ch = r at hreads
  cases hreads with
  | refused hchannel =>
    obtain ⟨what, rfl⟩ := exists_unsupported_of_checkChannel hchannel
    exact ⟨h, not_isAlarm_error rfl⟩
  | @failed _ e hensured =>
    exact ⟨hnone hensured, not_isAlarm_error ((unwatched_ensureConnected hensured).2 e rfl)⟩
  | waiting hensured => exact ⟨hnone hensured, not_isAlarm_ok _⟩
  | ready hensured _ => exact ⟨receiveWatch_finishRead (hanchored hensured), not_isAlarm_ok _⟩
  | @replayed d _ _ hensured hreplay _ =>
    have hreplayed :=
      (receiveWatch_replay (d.anchorReceive now.first) f ch).trans (hanchored hensured)
    rw [hreplay] at hreplayed
    exact ⟨receiveWatch_finishRead hreplayed, not_isAlarm_ok _⟩
  | @received d _ _ _ hensured hreplay _ hloop =>
    have hreplayed :=
      (receiveWatch_replay (d.anchorReceive now.first) f ch).trans (hanchored hensured)
    rw [hreplay] at hreplayed
    obtain ⟨hlost, hslow⟩ := hloop.unwatched hreplayed
    exact unwatched_readOutcome hlost hslow

end FrameSocket.Client
