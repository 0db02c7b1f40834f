import FrameSocket.Proofs.SlowStreaks

/-!
# What an alarm says of the average speed between the samples

Between two samples no bytes are recorded, so the average speed since the first one falls as
time goes by, and a streak of slow samples begins with one that finds it below the floor.  The
watchdog counts the time of low speed from the sample before that one.  The average was not
low then unless the bytes up to that sample were too few already: it has been low exactly
since `fall`, the moment from which on they are too few.

So an alarm is due if that moment lies farther back than the speed may be low, and it reports
no longer a time than the average has been low if it lies before the streak.

## Key results

- `Samples.Streak.average_lt_iff`: when the average is low between the samples
- `Samples.Streak.lowSince_iff`: since when it has been low
- `Watchdog.alarm_lowSince_iff`: which alarms are due, and which report too long a time
- `Watchdog.alarm_too_soon`: an alarm after 10 seconds where 15 are allowed
-/

namespace FrameSocket

namespace Samples

/-! ## The average between the samples -/

/-- The bytes that the samples up to the `k`-th have recorded by the moment `x`. -/
def recordedBy (s : Samples ℚ) (x : ℚ) : ℕ → ℕ
  | 0 => 0
  | k + 1 => s.recordedBy x k + if s.time (k + 1) ≤ x then s.bytes (k + 1) else 0

/-- The average speed from the first sample to the moment `x`. -/
def average (s : Samples ℚ) (k : ℕ) (x : ℚ) : ℚ := s.recordedBy x k / (x - s.time 0)

/-- From `start` to the `k`-th sample the average speed is below the floor at every moment. -/
def LowSince (s : Samples ℚ) (floor : ℚ) (k : ℕ) (start : ℚ) : Prop :=
  s.time 0 ≤ start ∧ ∀ x, start < x → x ≤ s.time k → s.average k x < floor

/-- The moment from which on the bytes up to the `k`-th sample are too few for the floor. -/
def fall (s : Samples ℚ) (floor : ℚ) (k : ℕ) : ℚ := s.time 0 + s.total k / floor

variable {s : Samples ℚ} {floor x : ℚ} {j k : ℕ}

/-- If it has been low for some time, it has been for less. -/
theorem LowSince.mono {start later : ℚ} (h : s.LowSince floor k start) (hle : start ≤ later) :
    s.LowSince floor k later :=
  ⟨h.1.trans hle, fun x hx => h.2 x (lt_of_le_of_lt hle hx)⟩

/-- A clock that is never set back is the time itself. -/
theorem clock_eq_time (hmono : Monotone s.time) (k : ℕ) : s.clock k = s.time k := by
  induction k with
  | zero => rfl
  | succ k ih => rw [clock, ih, max_eq_right (hmono (Nat.le_succ k))]

/-- By the time of the last sample everything is on record. -/
theorem recordedBy_of_time_le (hmono : Monotone s.time) (hx : s.time k ≤ x) :
    s.recordedBy x k = s.total k := by
  induction k with
  | zero => rfl
  | succ k ih => rw [recordedBy, total, ih ((hmono (Nat.le_succ k)).trans hx), if_pos hx]

/-- What has been recorded by a moment is the total with one of the samples before it. -/
theorem exists_recordedBy_eq_total (hmono : Monotone s.time) (hjk : j ≤ k) (hx : s.time j ≤ x) :
    ∃ i, j ≤ i ∧ i ≤ k ∧ s.time i ≤ x ∧ s.recordedBy x k = s.total i := by
  induction k, hjk using Nat.le_induction with
  | base => exact ⟨j, le_rfl, le_rfl, hx, recordedBy_of_time_le hmono hx⟩
  | succ k hjk ih =>
    by_cases hlater : s.time (k + 1) ≤ x
    · exact ⟨k + 1, Nat.le_succ_of_le hjk, le_rfl, hlater, recordedBy_of_time_le hmono hlater⟩
    · obtain ⟨i, hji, hik, hi, heq⟩ := ih
      refine ⟨i, hji, Nat.le_succ_of_le hik, hi, ?_⟩
      rw [recordedBy, if_neg hlater, Nat.add_zero, heq]

/-- Only a floor above zero is ever missed. -/
theorem IsSlow.floor_pos (h : s.IsSlow floor k) : 0 < floor := by
  obtain ⟨hsecond, hlow⟩ := h
  have htotal : (0 : ℚ) ≤ s.total k := Nat.cast_nonneg _
  by_contra hfloor
  nlinarith

/-- The time of the `fall` has passed when the bytes are less than the floor asks for. -/
theorem fall_lt_iff (hfloor : 0 < floor) :
    s.fall floor k < x ↔ s.total k < floor * (x - s.time 0) := by
  rw [fall, ← lt_sub_iff_add_lt', div_lt_iff₀' hfloor]

/-! ## Low speed over a streak -/

namespace Streak

/-- From the sample before a streak on, the average is low exactly when the bytes up to that
    sample are too few. -/
theorem average_lt_iff (h : s.Streak floor j k) (hmono : Monotone s.time)
    (hx : s.time (j - 1) < x) :
    s.average k x < floor ↔ s.fall floor (j - 1) < x := by
  have hfloor := h.isSlow.floor_pos
  have hpos : 0 < x - s.time 0 := sub_pos.mpr (lt_of_le_of_lt (hmono (Nat.zero_le _)) hx)
  have hjk : j - 1 ≤ k := (Nat.sub_le j 1).trans h.le
  obtain ⟨i, hji, hik, hi, heq⟩ := exists_recordedBy_eq_total hmono hjk hx.le
  rw [average, heq, div_lt_iff₀ hpos, fall_lt_iff hfloor]
  rcases Nat.eq_or_lt_of_le hji with rfl | hlt
  · rfl
  · -- the sample belongs to the streak, and since then the average has only fallen
    obtain ⟨_, hlow⟩ := h.slow i (by omega) hik
    rw [elapsed, clock_eq_time hmono, clock] at hlow
    have hmore : (s.total (j - 1) : ℚ) ≤ s.total i := by exact_mod_cast s.total_mono hji
    have hlater : floor * (s.time i - s.time 0) ≤ floor * (x - s.time 0) :=
      mul_le_mul_of_nonneg_left (sub_le_sub_right hi _) hfloor.le
    exact iff_of_true (by linarith) (by linarith)

/-- With the end of a streak the bytes before it are too few. -/
theorem fall_lt_time (h : s.Streak floor j k) (hmono : Monotone s.time) :
    s.fall floor (j - 1) < s.time k := by
  obtain ⟨_, hlow⟩ := h.isSlow
  rw [elapsed, clock_eq_time hmono, clock] at hlow
  have hmore : (s.total (j - 1) : ℚ) ≤ s.total k := by
    exact_mod_cast s.total_mono ((Nat.sub_le j 1).trans h.le)
  exact (fall_lt_iff h.isSlow.floor_pos).mpr (lt_of_le_of_lt hmore hlow)

/-- Behind the sample before a streak, the average is low since any moment that is not before
    the fall, and since no other. -/
theorem lowSince_iff (h : s.Streak floor j k) (hmono : Monotone s.time) {start : ℚ}
    (hstart : s.time (j - 1) ≤ start) :
    s.LowSince floor k start ↔ s.fall floor (j - 1) ≤ start := by
  constructor
  · rintro ⟨_, hlow⟩
    by_contra hfall
    rw [not_le] at hfall
    -- At the fall itself the average is not yet low
    have hlt := hlow _ hfall (h.fall_lt_time hmono).le
    exact lt_irrefl _ ((h.average_lt_iff hmono (lt_of_le_of_lt hstart hfall)).mp hlt)
  · intro hfall
    refine ⟨(hmono (Nat.zero_le _)).trans hstart, fun x hx _ => ?_⟩
    exact (h.average_lt_iff hmono (lt_of_le_of_lt hstart hx)).mpr (lt_of_le_of_lt hfall hx)

/-- The average has been low for longer than `limit`, a time within the streak and the pause
    before it, if the fall lies farther back. -/
theorem exists_lowSince_lt_iff (h : s.Streak floor j k) (hmono : Monotone s.time) {limit : ℚ}
    (hlimit : limit < s.time k - s.time (j - 1)) :
    (∃ start, s.LowSince floor k start ∧ limit < s.time k - start) ↔
      limit < s.time k - s.fall floor (j - 1) := by
  constructor
  · rintro ⟨start, hlow, hlong⟩
    -- A low time that begins before the streak is cut to where the streak begins
    have hfall := (h.lowSince_iff hmono (le_max_right start (s.time (j - 1)))).mp
      (hlow.mono (le_max_left _ _))
    rcases le_total start (s.time (j - 1)) with hle | hle
    · rw [max_eq_right hle] at hfall
      linarith
    · rw [max_eq_left hle] at hfall
      linarith
  · intro hlong
    rcases le_total (s.fall floor (j - 1)) (s.time (j - 1)) with hle | hle
    · exact ⟨_, (h.lowSince_iff hmono le_rfl).mpr hle, hlimit⟩
    · exact ⟨_, (h.lowSince_iff hmono hle).mpr le_rfl, hlong⟩

/-- It has been low for all of that time if the fall lies before the streak. -/
theorem exists_lowSince_le_iff (h : s.Streak floor j k) (hmono : Monotone s.time) :
    (∃ start, s.LowSince floor k start ∧ s.time k - s.time (j - 1) ≤ s.time k - start) ↔
      s.fall floor (j - 1) ≤ s.time (j - 1) := by
  rw [← h.lowSince_iff hmono le_rfl]
  constructor
  · rintro ⟨start, hlow, hlong⟩
    exact hlow.mono (by linarith)
  · intro hlow
    exact ⟨_, hlow, le_rfl⟩

end Streak

end Samples

namespace Watchdog

variable {d d' : Watchdog ℚ} {s : Samples ℚ} {k n : ℕ}

/-- One more sample is told to the watchdog that was told the others. -/
theorem told_succ_eq_ok (h : d.told s (n + 1) = .ok d') :
    ∃ before alarm, d.told s n = .ok before ∧
      before.sampleWord (s.time n) (s.bytes n) = .ok (d', alarm) := by
  rw [told] at h
  -- A fault is never left again
  cases htold : d.told s n with
  | error e =>
    rw [htold] at h
    cases h
  | ok before =>
    rw [htold, Except.bind] at h
    cases hsample : before.sampleWord (s.time n) (s.bytes n) with
    | error e =>
      rw [hsample] at h
      cases h
    | ok p =>
      rw [hsample] at h
      cases h
      exact ⟨before, p.2, rfl, hsample⟩

/-- A watchdog that has taken its samples has a total that fits a word. -/
theorem total_lt_of_told (hfresh : d.window = none) (h : d.told s (n + 1) = .ok d') :
    s.total n < 0x10000000000000000 := by
  induction n generalizing d' with
  | zero => exact Nat.two_pow_pos 64
  | succ n ih =>
    obtain ⟨before, alarm, htold, hsample⟩ := told_succ_eq_ok h
    obtain ⟨_, htold', ⟨since, hwindow, _⟩, _, _⟩ := recalls_told hfresh (ih htold)
    cases htold.symm.trans htold'
    by_contra hword
    -- Otherwise the sample would have found the total too large
    have hfull : 0x10000000000000000 ≤ (windowAt s n since).total + s.bytes (n + 1) :=
      Nat.not_lt.mp hword
    rw [sampleWord, hwindow] at hsample
    dsimp only at hsample
    rw [if_pos hfull] at hsample
    cases hsample

/-- The alarms of a watchdog that has been started anew. -/
theorem exists_streak_of_alarm {before after : Watchdog ℚ} {a : Alarm ℚ}
    (htold : d.reset.told s k = .ok before)
    (hsample : before.sampleWord (s.time k) (s.bytes k) = .ok (after, some a)) :
    ∃ j, s.Streak d.minSpeed j k ∧ d.maxDuration < a.duration ∧
      a.duration = s.clock k - s.clock (j - 1) := by
  have hfresh : d.reset.window = none := rfl
  cases k with
  | zero =>
    -- The first sample raises no alarm
    cases htold
    exact nomatch hsample
  | succ n =>
    have hafter : d.reset.told s (n + 2) = .ok after := by
      rw [told, htold, Except.bind, hsample]
      rfl
    have hword : s.total (n + 1) < 0x10000000000000000 := total_lt_of_told hfresh hafter
    obtain ⟨_, htold', hrecalls, hspeed, hduration⟩ :=
      recalls_told hfresh (total_lt_of_told hfresh htold)
    cases htold.symm.trans htold'
    have heq := (hrecalls.sampleWord hword).symm.trans hsample
    have halarm : (before.sample (s.time (n + 1)) (s.bytes (n + 1))).2 = some a :=
      congrArg Prod.snd (Except.ok.inj heq)
    obtain ⟨j, hj, hlong, rfl⟩ := (hrecalls.sample.2 a).mp halarm
    rw [show before.minSpeed = d.minSpeed from hspeed] at hj
    rw [show before.maxDuration = d.maxDuration from hduration] at hlong
    exact ⟨j, hj, hlong, rfl⟩

/-- With samples in the order of their times, an alarm at the end of a streak reports the time
    since the sample before the streak.  Since that sample the average speed has been below the
    floor exactly from the fall on.  So it has been low for longer than it may be just if the
    fall lies farther back than that, and for as long as reported just if it lies before the
    streak. -/
theorem alarm_lowSince_iff {before after : Watchdog ℚ} {a : Alarm ℚ} (hmono : Monotone s.time)
    (htold : d.reset.told s k = .ok before)
    (hsample : before.sampleWord (s.time k) (s.bytes k) = .ok (after, some a)) :
    ∃ j, s.Streak d.minSpeed j k ∧ a.duration = s.time k - s.time (j - 1) ∧
      (∀ x, s.time (j - 1) < x → x ≤ s.time k →
        (s.average k x < d.minSpeed ↔ s.fall d.minSpeed (j - 1) < x)) ∧
      ((∃ start, s.LowSince d.minSpeed k start ∧ d.maxDuration < s.time k - start) ↔
        d.maxDuration < s.time k - s.fall d.minSpeed (j - 1)) ∧
      ((∃ start, s.LowSince d.minSpeed k start ∧ a.duration ≤ s.time k - start) ↔
        s.fall d.minSpeed (j - 1) ≤ s.time (j - 1)) := by
  obtain ⟨j, hj, hlong, hduration⟩ := exists_streak_of_alarm htold hsample
  rw [Samples.clock_eq_time hmono, Samples.clock_eq_time hmono] at hduration
  -- The clock of monotone samples is their time
  rw [hduration] at hlong ⊢
  exact ⟨j, hj, rfl, fun x hx _ => hj.average_lt_iff hmono hx,
    hj.exists_lowSince_lt_iff hmono hlong, hj.exists_lowSince_le_iff hmono⟩

/-- A thousand bytes within the first second, and none in the nineteen that follow. -/
def burst : Samples ℚ := ⟨fun i => [0, 1, 20].getD i 20, fun i => [0, 1000, 0].getD i 0⟩

/-- The clock of `burst` does not run backwards. -/
theorem monotone_time_burst : Monotone burst.time := by
  refine monotone_nat_of_le_succ fun i => ?_
  rcases i with _ | _ | _ | i
  · decide +kernel
  · decide +kernel
  · decide +kernel
  · exact le_refl (20 : ℚ)

/-- `burst` is slow at its last sample only. -/
theorem streak_burst : burst.Streak 100 2 2 := by
  refine ⟨le_rfl, fun i hj hi => ?_, Samples.not_isSlow_of_le (by decide +kernel)⟩
  obtain rfl : i = 2 := Nat.le_antisymm hi hj
  exact ⟨by decide +kernel, by decide +kernel⟩

/-- Where 5 seconds are allowed, the alarm behind the burst is due, as the average has been low
    for 10 seconds, but reports 19. -/
theorem alarm_lowSince_iff_burst :
    ∃ before after a, Monotone burst.time ∧ (new 100 5).reset.told burst 2 = .ok before ∧
      before.sampleWord (burst.time 2) (burst.bytes 2) = .ok (after, some a) ∧
      a.duration = 19 ∧ (∃ start, burst.LowSince 100 2 start ∧ 5 < 20 - start) ∧
      ¬ ∃ start, burst.LowSince 100 2 start ∧ a.duration ≤ 20 - start := by
  have htold : (new 100 5).reset.told burst 2 = .ok ⟨100, 5, some ⟨0, 1, 1000, none⟩⟩ := by
    decide +kernel
  have hsample : (⟨100, 5, some ⟨0, 1, 1000, none⟩⟩ : Watchdog ℚ).sampleWord
      (burst.time 2) (burst.bytes 2) =
        .ok (⟨100, 5, some ⟨0, 20, 1000, some 1⟩⟩, some ⟨50, 19⟩) := by
    decide +kernel
  obtain ⟨j, hj, hduration, _, hdue, htrue⟩ :=
    alarm_lowSince_iff monotone_time_burst htold hsample
  -- The only slow sample is the last one
  obtain rfl : j = 2 := hj.unique streak_burst
  refine ⟨_, _, _, monotone_time_burst, htold, hsample, rfl, ?_, ?_⟩
  · exact hdue.mpr (by decide +kernel)
  · exact mt htrue.mp (by decide +kernel)

/-- Where 15 seconds are allowed, the alarm is raised all the same: ten seconds before it, the
    average speed was still at the floor. -/
theorem alarm_too_soon :
    Monotone burst.time ∧ ∃ before after, (new 100 15).reset.told burst 2 = .ok before ∧
      before.sampleWord (burst.time 2) (burst.bytes 2) = .ok (after, some ⟨50, 19⟩) ∧
      (¬ ∃ start, burst.LowSince 100 2 start ∧ 15 < 20 - start) ∧
      ¬ ∃ start, burst.LowSince 100 2 start ∧ 19 ≤ 20 - start := by
  -- Up to the tenth second a hundred bytes in each have gone
  have hten : ∀ start, burst.LowSince 100 2 start → 10 ≤ start := by
    intro start hlow
    by_contra hlt
    exact absurd (hlow.2 10 (not_le.mp hlt) (by decide +kernel)) (by decide +kernel)
  refine ⟨monotone_time_burst, ⟨100, 15, some ⟨0, 1, 1000, none⟩⟩,
    ⟨100, 15, some ⟨0, 20, 1000, some 1⟩⟩, by decide +kernel, by decide +kernel, ?_, ?_⟩
  · rintro ⟨start, hlow, hlong⟩
    have hle := hten start hlow
    linarith
  · rintro ⟨start, hlow, hlong⟩
    have hle := hten start hlow
    linarith

end Watchdog

end FrameSocket
