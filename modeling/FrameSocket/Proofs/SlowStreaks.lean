import FrameSocket.Watchdog
import Mathlib.Algebra.Order.Field.Basic
import Mathlib.Algebra.Order.Ring.Rat
import Mathlib.Tactic.Linarith
import Mathlib.Tactic.NormNum

/-!
# A watchdog sums up all it was told

A watchdog keeps no samples, only the first and the latest time, the bytes in between and the
time from which on it counts the speed as low.  Over exact numbers these say all there is to
say about the samples since it was started, in whatever order their times came: `clock`,
`total` and `Streak` are read off the samples alone, and what the watchdog knows after each
sample (`Recalls`) is what they come to.

## Key results

- `Samples.exists_streak` / `Samples.Streak.unique`: each slow sample ends one streak
- `Watchdog.Recalls.sample`: one more sample
- `Watchdog.recalls_told`: all samples since the start
- `Watchdog.reports_history`: alarms, speeds and durations by the samples alone
-/

namespace FrameSocket

/-- Exact numbers. -/
instance : Quantity ℚ where
  zero := 0
  one := 1
  ofCount n := n
  decideLE _ _ := inferInstance
  decideLT _ _ := inferInstance

/-- What a watchdog is told, one sample after the other. -/
structure Samples (α : Type) where
  time : ℕ → α
  bytes : ℕ → ℕ

namespace Samples

/-! ## What the samples come to -/

/-- The time by the `k`-th sample.  A clock that is set back stands still. -/
def clock (s : Samples ℚ) : ℕ → ℚ
  | 0 => s.time 0
  | k + 1 => max (s.clock k) (s.time (k + 1))

/-- The bytes by the `k`-th sample.  Those of the first are not counted. -/
def total (s : Samples ℚ) : ℕ → ℕ
  | 0 => 0
  | k + 1 => s.total k + s.bytes (k + 1)

/-- The time from the first sample to the `k`-th. -/
def elapsed (s : Samples ℚ) (k : ℕ) : ℚ := s.clock k - s.clock 0

/-- By the `k`-th sample a second has passed and there are fewer bytes than the floor asks
    for. -/
def IsSlow (s : Samples ℚ) (floor : ℚ) (k : ℕ) : Prop :=
  1 ≤ s.elapsed k ∧ s.total k < floor * s.elapsed k

/-- The `j`-th sample is the first of an unbroken run of slow ones that reaches to the
    `k`-th. -/
structure Streak (s : Samples ℚ) (floor : ℚ) (j k : ℕ) : Prop where
  le : j ≤ k
  slow : ∀ i, j ≤ i → i ≤ k → s.IsSlow floor i
  first : ¬ s.IsSlow floor (j - 1)

variable {s : Samples ℚ} {floor : ℚ} {j k : ℕ}

/-- `clock` does not run backwards, even where the times do. -/
theorem clock_mono (s : Samples ℚ) : Monotone s.clock :=
  monotone_nat_of_le_succ fun _ => le_max_left _ _

/-- `total` does not go down. -/
theorem total_mono (s : Samples ℚ) : Monotone s.total :=
  monotone_nat_of_le_succ fun _ => Nat.le_add_right _ _

/-- `elapsed` does not go down. -/
theorem elapsed_mono (s : Samples ℚ) : Monotone s.elapsed :=
  fun _ _ h => sub_le_sub_right (s.clock_mono h) _

/-- No time has passed with the first sample. -/
theorem not_isSlow_zero : ¬ s.IsSlow floor 0 := by
  rintro ⟨hsecond, _⟩
  rw [elapsed, sub_self] at hsecond
  exact absurd hsecond (by norm_num)

/-- From the floor on, a sample is not slow. -/
theorem not_isSlow_of_le (h : floor * s.elapsed k ≤ s.total k) : ¬ s.IsSlow floor k :=
  fun hslow => absurd hslow.2 (not_lt.mpr h)

/-- A sample is slow if the average speed is below the floor. -/
theorem isSlow_iff (hsecond : 1 ≤ s.elapsed k) :
    s.IsSlow floor k ↔ s.total k / s.elapsed k < floor := by
  rw [div_lt_iff₀ (by linarith)]
  exact ⟨fun h => h.2, fun h => ⟨hsecond, h⟩⟩

/-! ## Streaks -/

/-- The first sample is never slow, so no streak begins with it. -/
theorem Streak.one_le (h : s.Streak floor j k) : 1 ≤ j := by
  by_contra hj
  obtain rfl : j = 0 := by omega
  exact not_isSlow_zero (h.slow 0 le_rfl h.le)

/-- A streak ends with a slow sample. -/
theorem Streak.isSlow (h : s.Streak floor j k) : s.IsSlow floor k := h.slow k h.le le_rfl

/-- A slow sample ends one streak only. -/
theorem Streak.unique {j' : ℕ} (h : s.Streak floor j k) (h' : s.Streak floor j' k) : j = j' := by
  have hone := h.one_le
  have hone' := h'.one_le
  -- The later beginning would lie within the longer streak, whose samples are all slow
  rcases lt_trichotomy j j' with hlt | heq | hlt
  · exact absurd (h.slow (j' - 1) (by omega) (by have := h'.le; omega)) h'.first
  · exact heq
  · exact absurd (h'.slow (j - 1) (by omega) (by have := h.le; omega)) h.first

/-- A further slow sample makes the streak longer. -/
theorem Streak.succ (h : s.Streak floor j k) (hslow : s.IsSlow floor (k + 1)) :
    s.Streak floor j (k + 1) where
  le := Nat.le_succ_of_le h.le
  slow i hj hi := by
    rcases Nat.le_succ_iff.mp hi with hle | rfl
    · exact h.slow i hj hle
    · exact hslow
  first := h.first

/-- A slow sample after one that is not begins a streak. -/
theorem streak_of_not_isSlow (hcalm : ¬ s.IsSlow floor k) (hslow : s.IsSlow floor (k + 1)) :
    s.Streak floor (k + 1) (k + 1) where
  le := le_rfl
  slow i hj hi := by rwa [Nat.le_antisymm hi hj]
  first := hcalm

/-- Each slow sample ends a streak. -/
theorem exists_streak (hslow : s.IsSlow floor k) : ∃ j, s.Streak floor j k := by
  induction k with
  | zero => exact absurd hslow not_isSlow_zero
  | succ k ih =>
    by_cases hbefore : s.IsSlow floor k
    · obtain ⟨j, hj⟩ := ih hbefore
      exact ⟨j, hj.succ hslow⟩
    · exact ⟨k + 1, streak_of_not_isSlow hbefore hslow⟩

end Samples

namespace Watchdog

variable {d : Watchdog ℚ} {s : Samples ℚ} {n : ℕ}

/-! ## One sample -/

/-- `Quantity.larger` is the maximum. -/
theorem larger_eq_max (a b : ℚ) : Quantity.larger a b = max b a := by
  unfold Quantity.larger
  split
  · rename_i hle
    exact (max_eq_right hle).symm
  · rename_i hlt
    have hle : a ≤ b := le_of_not_ge hlt
    rw [if_pos hle]
    exact (max_eq_left hle).symm

/-- `sample` leaves the floor as it is. -/
@[simp] theorem minSpeed_sample (d : Watchdog ℚ) (time : ℚ) (bytes : ℕ) :
    (d.sample time bytes).1.minSpeed = d.minSpeed := by
  unfold sample
  split
  · rfl
  · dsimp only
    split
    · rfl
    · split <;> rfl

/-- `sample` leaves the time that is allowed as it is. -/
@[simp] theorem maxDuration_sample (d : Watchdog ℚ) (time : ℚ) (bytes : ℕ) :
    (d.sample time bytes).1.maxDuration = d.maxDuration := by
  unfold sample
  split
  · rfl
  · dsimp only
    split
    · rfl
    · split <;> rfl

/-- The window that the samples up to the `n`-th call for, with the given time since which
    the speed counts as low. -/
def windowAt (s : Samples ℚ) (n : ℕ) (since : Option ℚ) : Window ℚ :=
  ⟨s.clock 0, s.clock n, s.total n, since⟩

/-- `advance` leads from the window at one sample to that at the next. -/
theorem advance_windowAt (s : Samples ℚ) (n : ℕ) (since : Option ℚ) :
    (windowAt s n since).advance (s.time (n + 1)) (s.bytes (n + 1)) =
      windowAt s (n + 1) since := by
  rw [Window.advance, larger_eq_max]
  rfl

/-- One turn over the window that the samples so far call for. -/
theorem sample_windowAt {since : Option ℚ} (hwindow : d.window = some (windowAt s n since)) :
    d.sample (s.time (n + 1)) (s.bytes (n + 1)) =
      if s.elapsed (n + 1) < 1 then
        ({ d with window := some (windowAt s (n + 1) since) }, none)
      else if d.minSpeed ≤
          if 1 ≤ s.elapsed (n + 1) then (s.total (n + 1) : ℚ) / s.elapsed (n + 1) else 0 then
        ({ d with window := some (windowAt s (n + 1) none) }, none)
      else
        ({ d with window := some (windowAt s (n + 1) (some (since.getD (s.clock n)))) },
          if d.maxDuration < s.clock (n + 1) - since.getD (s.clock n) then
            some ⟨if 1 ≤ s.elapsed (n + 1) then (s.total (n + 1) : ℚ) / s.elapsed (n + 1) else 0,
              s.clock (n + 1) - since.getD (s.clock n)⟩
          else none) := by
  rw [sample, hwindow]
  dsimp only
  rw [advance_windowAt]
  rfl

/-- A sample that is not slow ends the time of low speed. -/
theorem sample_of_not_isSlow {since : Option ℚ} (hwindow : d.window = some (windowAt s n since))
    (hearly : s.elapsed (n + 1) < 1 → since = none) (hcalm : ¬ s.IsSlow d.minSpeed (n + 1)) :
    d.sample (s.time (n + 1)) (s.bytes (n + 1)) =
      ({ d with window := some (windowAt s (n + 1) none) }, none) := by
  rw [sample_windowAt hwindow]
  by_cases hsecond : 1 ≤ s.elapsed (n + 1)
  · -- late enough for a verdict, and the average reaches the floor
    have hfloor : d.minSpeed ≤ s.total (n + 1) / s.elapsed (n + 1) :=
      not_lt.mp (mt (Samples.isSlow_iff hsecond).mpr hcalm)
    rw [if_neg (not_lt.mpr hsecond), if_pos hsecond, if_pos hfloor]
  · have hlt : s.elapsed (n + 1) < 1 := not_le.mp hsecond
    rw [if_pos hlt, hearly hlt]

/-- A slow sample counts from the sample before the streak. -/
theorem sample_of_isSlow {since : Option ℚ} (hwindow : d.window = some (windowAt s n since))
    (hslow : s.IsSlow d.minSpeed (n + 1)) :
    d.sample (s.time (n + 1)) (s.bytes (n + 1)) =
      ({ d with window := some (windowAt s (n + 1) (some (since.getD (s.clock n)))) },
        if d.maxDuration < s.clock (n + 1) - since.getD (s.clock n) then
          some ⟨s.total (n + 1) / s.elapsed (n + 1), s.clock (n + 1) - since.getD (s.clock n)⟩
        else none) := by
  have hlow := (Samples.isSlow_iff hslow.1).mp hslow
  rw [sample_windowAt hwindow, if_neg (not_lt.mpr hslow.1), if_pos hslow.1,
    if_neg (not_le.mpr hlow)]

/-! ## All samples -/

/-- What a watchdog knows after the samples up to the `n`-th: the speed counts as low since
    the sample before the streak that the `n`-th ends, if it is slow. -/
def Recalls (d : Watchdog ℚ) (s : Samples ℚ) (n : ℕ) : Prop :=
  ∃ since, d.window = some (windowAt s n since) ∧
    ∀ t, since = some t ↔ ∃ j, s.Streak d.minSpeed j n ∧ t = s.clock (j - 1)

/-- The first sample opens the window. -/
theorem recalls_sample_zero (hfresh : d.window = none) :
    (d.sample (s.time 0) (s.bytes 0)).1.Recalls s 0 := by
  refine ⟨none, ?_, fun t => iff_of_false (by simp) ?_⟩
  · rw [sample, hfresh]
    rfl
  · rintro ⟨j, hstreak, _⟩
    exact Samples.not_isSlow_zero hstreak.isSlow

/-- One more sample: the watchdog goes on to know all, and says so if the streak has become
    too long. -/
theorem Recalls.sample (h : d.Recalls s n) :
    (d.sample (s.time (n + 1)) (s.bytes (n + 1))).1.Recalls s (n + 1) ∧
      ∀ a, (d.sample (s.time (n + 1)) (s.bytes (n + 1))).2 = some a ↔
        ∃ j, s.Streak d.minSpeed j (n + 1) ∧
          d.maxDuration < s.clock (n + 1) - s.clock (j - 1) ∧
          a = ⟨s.total (n + 1) / s.elapsed (n + 1), s.clock (n + 1) - s.clock (j - 1)⟩ := by
  obtain ⟨since, hwindow, hsince⟩ := h
  by_cases hslow : s.IsSlow d.minSpeed (n + 1)
  · -- `j` is the first of the streak, whether it begins here or goes on
    obtain ⟨j, hstreak, hgetD⟩ : ∃ j, s.Streak d.minSpeed j (n + 1) ∧
        since.getD (s.clock n) = s.clock (j - 1) := by
      by_cases hbefore : s.IsSlow d.minSpeed n
      · obtain ⟨j, hj⟩ := Samples.exists_streak hbefore
        have hsome : since = some (s.clock (j - 1)) := (hsince _).mpr ⟨j, hj, rfl⟩
        exact ⟨j, hj.succ hslow, by rw [hsome, Option.getD_some]⟩
      · have hnone : since = none := by
          cases hcase : since with
          | none => rfl
          | some t =>
            obtain ⟨j, hj, _⟩ := (hsince t).mp hcase
            exact absurd hj.isSlow hbefore
        exact ⟨n + 1, Samples.streak_of_not_isSlow hbefore hslow, by
          rw [hnone, Option.getD_none, Nat.add_sub_cancel]⟩
    have honly : ∀ {j'}, s.Streak d.minSpeed j' (n + 1) → j' = j := fun h => h.unique hstreak
    rw [sample_of_isSlow hwindow hslow, hgetD]
    refine ⟨⟨_, rfl, fun t => ?_⟩, fun a => ?_⟩
    · constructor
      · rintro ⟨⟩
        exact ⟨j, hstreak, rfl⟩
      · rintro ⟨j', hj', rfl⟩
        rw [honly hj']
    · dsimp only
      constructor
      · intro ha
        split at ha
        · rename_i hlong
          cases ha
          exact ⟨j, hstreak, hlong, rfl⟩
        · exact nomatch ha
      · rintro ⟨j', hj', hlong, rfl⟩
        rw [honly hj'] at hlong ⊢
        rw [if_pos hlong]
  · have hnostreak : ∀ j, ¬ s.Streak d.minSpeed j (n + 1) := fun j hj => hslow hj.isSlow
    have hearly : s.elapsed (n + 1) < 1 → since = none := by
      intro hlt
      cases hcase : since with
      | none => rfl
      | some t =>
        -- A second would have passed with the sample before
        obtain ⟨j, hj, _⟩ := (hsince t).mp hcase
        have hmono := s.elapsed_mono (Nat.le_succ n)
        exact absurd hj.isSlow.1 (by linarith)
    rw [sample_of_not_isSlow hwindow hearly hslow]
    refine ⟨⟨none, rfl, fun t => iff_of_false (by simp) ?_⟩, fun a => iff_of_false (by simp) ?_⟩
    · rintro ⟨j, hj, _⟩
      exact hnostreak j hj
    · rintro ⟨j, hj, _⟩
      exact hnostreak j hj

/-- A new watchdog needs no reset. -/
@[simp] theorem reset_new (minSpeed maxDuration : ℚ) :
    (new minSpeed maxDuration).reset = new minSpeed maxDuration := rfl

/-- The watchdog once it has been told the first `n` samples. -/
def told (d : Watchdog ℚ) (s : Samples ℚ) : ℕ → Except ArithmeticFault (Watchdog ℚ)
  | 0 => .ok d
  | n + 1 => (d.told s n).bind fun d => (d.sampleWord (s.time n) (s.bytes n)).map Prod.fst

/-- While the total fits a word, words are as good as numbers. -/
theorem Recalls.sampleWord (h : d.Recalls s n)
    (hword : s.total (n + 1) < 0x10000000000000000) :
    d.sampleWord (s.time (n + 1)) (s.bytes (n + 1)) =
      .ok (d.sample (s.time (n + 1)) (s.bytes (n + 1))) := by
  obtain ⟨since, hwindow, _⟩ := h
  have hfits : ¬ 0x10000000000000000 ≤ (windowAt s n since).total + s.bytes (n + 1) :=
    Nat.not_le.mpr hword
  rw [Watchdog.sampleWord, hwindow]
  dsimp only
  rw [if_neg hfits]

/-- From its start on, a watchdog knows all it was told. -/
theorem recalls_told (hfresh : d.window = none)
    (hword : s.total n < 0x10000000000000000) :
    ∃ d', d.told s (n + 1) = .ok d' ∧ d'.Recalls s n ∧ d'.minSpeed = d.minSpeed ∧
      d'.maxDuration = d.maxDuration := by
  induction n with
  | zero =>
    have hfirst : d.sampleWord (s.time 0) (s.bytes 0) = .ok (d.sample (s.time 0) (s.bytes 0)) := by
      rw [Watchdog.sampleWord, hfresh]
    refine ⟨(d.sample (s.time 0) (s.bytes 0)).1, ?_, recalls_sample_zero hfresh,
      minSpeed_sample d _ _, maxDuration_sample d _ _⟩
    rw [told, told, Except.bind, hfirst]
    rfl
  | succ n ih =>
    -- As long as the last total fits into a word, those before it do
    have hbefore := Nat.lt_of_le_of_lt (s.total_mono (Nat.le_succ n)) hword
    obtain ⟨d', htold, hrecalls, hspeed, hduration⟩ := ih hbefore
    refine ⟨(d'.sample (s.time (n + 1)) (s.bytes (n + 1))).1, ?_, hrecalls.sample.1,
      (minSpeed_sample d' _ _).trans hspeed, (maxDuration_sample d' _ _).trans hduration⟩
    rw [told, htold, Except.bind, hrecalls.sampleWord hword]
    rfl

/-! ## What can be asked of a watchdog -/

/-- The speed is never negative. -/
theorem Recalls.speed_nonneg (h : d.Recalls s n) : 0 ≤ d.speed := by
  obtain ⟨since, hwindow, _⟩ := h
  have hspeed : d.speed = if 1 ≤ s.elapsed n then (s.total n : ℚ) / s.elapsed n else 0 := by
    rw [speed, hwindow]
    rfl
  rw [hspeed]
  split
  · rename_i hsecond
    exact div_nonneg (Nat.cast_nonneg _) (by linarith)
  · exact le_rfl

/-- Neither is the time that the speed has been low. -/
theorem slowFor_nonneg (d : Watchdog ℚ) : 0 ≤ d.slowFor := by
  unfold slowFor
  split
  · rw [larger_eq_max]
    exact le_max_left _ _
  · exact le_rfl

/-- No time of low speed is known behind a sample that is not slow. -/
theorem Recalls.slowFor_eq_zero (h : d.Recalls s n) (hcalm : ¬ s.IsSlow d.minSpeed n) :
    d.slowFor = 0 := by
  obtain ⟨since, hwindow, hsince⟩ := h
  cases hcase : since with
  | none =>
    rw [slowFor, hwindow, hcase]
    rfl
  | some t =>
    obtain ⟨j, hj, _⟩ := (hsince t).mp hcase
    exact absurd hj.isSlow hcalm

/-- A watchdog that has been started anew answers each sample by the samples alone: it raises
    an alarm exactly if the sample ends a streak that began too long ago, with the average
    speed and the time since the sample before the streak; its speed and the time of low speed
    are never negative, and the latter is zero when the floor is reached. -/
theorem reports_history (d : Watchdog ℚ) (s : Samples ℚ) (k : ℕ)
    (hword : s.total k < 0x10000000000000000) :
    ∃ before after alarm, d.reset.told s k = .ok before ∧
      before.sampleWord (s.time k) (s.bytes k) = .ok (after, alarm) ∧
      (∀ a, alarm = some a ↔ ∃ j, s.Streak d.minSpeed j k ∧
        d.maxDuration < s.clock k - s.clock (j - 1) ∧
        a = ⟨s.total k / s.elapsed k, s.clock k - s.clock (j - 1)⟩) ∧
      (∀ a, alarm = some a → a.speed < d.minSpeed) ∧
      (0 ≤ before.speed ∧ 0 ≤ before.slowFor) ∧ (0 ≤ after.speed ∧ 0 ≤ after.slowFor) ∧
      (d.minSpeed * s.elapsed k ≤ s.total k → after.slowFor = 0) := by
  have hfresh : d.reset.window = none := rfl
  cases k with
  | zero =>
    -- The first sample only opens the window
    have hrecalls := @recalls_sample_zero _ s hfresh
    refine ⟨d.reset, (d.reset.sample (s.time 0) (s.bytes 0)).1, none, rfl, rfl,
      fun a => iff_of_false (by simp) ?_, fun a ha => absurd ha (by simp),
      ⟨le_rfl, slowFor_nonneg _⟩, ⟨hrecalls.speed_nonneg, slowFor_nonneg _⟩, fun _ => ?_⟩
    · rintro ⟨j, hj, _⟩
      exact Samples.not_isSlow_zero hj.isSlow
    · exact hrecalls.slowFor_eq_zero Samples.not_isSlow_zero
  | succ n =>
    have hbefore := Nat.lt_of_le_of_lt (s.total_mono (Nat.le_succ n)) hword
    obtain ⟨d', htold, hrecalls, hspeed, hduration⟩ := recalls_told hfresh hbefore
    have hspeed' : d'.minSpeed = d.minSpeed := hspeed
    have hduration' : d'.maxDuration = d.maxDuration := hduration
    obtain ⟨hnext, halarm⟩ := hrecalls.sample
    rw [hspeed', hduration'] at halarm
    refine ⟨d', _, _, htold, hrecalls.sampleWord hword, halarm, fun a ha => ?_,
      ⟨hrecalls.speed_nonneg, slowFor_nonneg _⟩, ⟨hnext.speed_nonneg, slowFor_nonneg _⟩,
      fun hfloor => ?_⟩
    · obtain ⟨j, hj, _, rfl⟩ := (halarm a).mp ha
      exact (Samples.isSlow_iff hj.isSlow.1).mp hj.isSlow
    · apply hnext.slowFor_eq_zero
      rw [minSpeed_sample, hspeed']
      exact Samples.not_isSlow_of_le hfloor

/-- The clock is set back from 2 to 1, and comes to 8: the low speed counts from 2. -/
theorem reports_history_setBack :
    let d : Watchdog ℚ := new 100 5
    let s : Samples ℚ := ⟨fun i => [0, 2, 1, 8].getD i 8, fun i => [0, 300, 0, 10].getD i 0⟩
    s.total 3 < 0x10000000000000000 ∧
      ∃ before after, d.told s 3 = .ok before ∧
        before.sampleWord (s.time 3) (s.bytes 3) = .ok (after, some ⟨155 / 4, 6⟩) := by
  intro d s
  have hword : s.total 3 < 0x10000000000000000 := by decide
  obtain ⟨before, after, alarm, htold, hsample, halarm, _⟩ := reports_history d s 3 hword
  -- The clock is set back at the third sample, and only the fourth is slow
  have hstreak : s.Streak d.minSpeed 3 3 := by
    refine ⟨le_rfl, fun i hj hi => ?_, ?_⟩
    · obtain rfl : i = 3 := Nat.le_antisymm hi hj
      exact ⟨by decide +kernel, by decide +kernel⟩
    · exact Samples.not_isSlow_of_le (by decide +kernel)
  have hsome : alarm = some ⟨155 / 4, 6⟩ :=
    (halarm _).mpr ⟨3, hstreak, by decide +kernel, by decide +kernel⟩
  rw [hsome] at hsample
  rw [reset_new] at htold
  exact ⟨hword, before, after, htold, hsample⟩

end Watchdog

end FrameSocket
