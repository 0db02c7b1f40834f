import FrameSocket.Watchdog

/-!
# The time that an alarm measures

A watchdog has no clock of its own.  Whatever time its window goes by is one that it was told
since the window was opened, so the duration of an alarm is the time between two samples, and
the later one is a second or more behind the first.  What passes while no window is open is
not counted.

The times that a watchdog is told are `times 0`, which opens the window, `times 1` and so on.
They may come in any order, and may be numbers of any kind.

## Key results

- `Watchdog.goesBy_first` / `Watchdog.GoesBy.sample`: the first sample, and one more
- `Watchdog.GoesBy.alarm`: the duration of an alarm
-/

namespace FrameSocket

/-- The greater of two quantities is one of them. -/
theorem Quantity.larger_eq_or {α : Type} [Quantity α] (a b : α) :
    larger a b = a ∨ larger a b = b := by
  unfold larger
  split
  · exact .inl rfl
  · split
    · exact .inr rfl
    · split
      · exact .inr rfl
      · exact .inl rfl

namespace Watchdog

variable {α : Type} [Quantity α] {d : Watchdog α} {times : Nat → α} {n : Nat}

/-- What a watchdog is made with: the floor, and how long a transfer may be slow. -/
def limits (d : Watchdog α) : α × α := (d.minSpeed, d.maxDuration)

/-- A sample moves the window of a watchdog, and not its limits. -/
@[simp] theorem limits_sample (d : Watchdog α) (time : α) (bytes : Nat) :
    (d.sample time bytes).1.limits = d.limits := by
  unfold sample
  split
  · rfl
  · dsimp only
    split
    · rfl
    · split <;> rfl

/-- A window that was opened by the first of `times`, and has been told of none but the first
    `n + 1` of them. -/
structure Window.GoesBy (w : Window α) (times : Nat → α) (n : Nat) : Prop where
  opened : w.opened = times 0
  latest : ∃ i ≤ n, w.latest = times i
  slowSince : ∀ since, w.slowSince = some since → ∃ i ≤ n, since = times i

/-- A started watchdog that has been told of the first `n + 1` of `times`. -/
def GoesBy (d : Watchdog α) (times : Nat → α) (n : Nat) : Prop :=
  ∃ w, d.window = some w ∧ w.GoesBy times n

/-- Between two of the first `n + 1` of `times` there lies `duration`, and the later one is not
    within the first second. -/
def Passes (times : Nat → α) (n : Nat) (duration : α) : Prop :=
  ∃ i ≤ n, ∃ j ≤ n, duration = times j - times i ∧ ¬ times j - times 0 < Quantity.one

/-- What `Passes` between the first `n + 1` times passes between more of them. -/
theorem Passes.mono {duration : α} {m : Nat} (h : Passes times n duration) (hle : n ≤ m) :
    Passes times m duration := by
  obtain ⟨i, hi, j, hj, hpasses⟩ := h
  exact ⟨i, Nat.le_trans hi hle, j, Nat.le_trans hj hle, hpasses⟩

/-- The first sample opens the window. -/
theorem goesBy_first (h : d.window = none) (times : Nat → α) (bytes : Nat) :
    (d.sample (times 0) bytes).1.GoesBy times 0 := by
  rw [sample, h]
  exact ⟨_, rfl, rfl, ⟨0, Nat.le_refl 0, rfl⟩, nofun⟩

/-- A further time makes the window longer, or is behind the latest one. -/
theorem Window.GoesBy.advance {w : Window α} (h : w.GoesBy times n) (bytes : Nat) :
    (w.advance (times (n + 1)) bytes).GoesBy times (n + 1) where
  opened := h.opened
  latest := by
    rcases Quantity.larger_eq_or (times (n + 1)) w.latest with hnew | hold
    · exact ⟨n + 1, Nat.le_refl _, hnew⟩
    · obtain ⟨i, hi, hlatest⟩ := h.latest
      exact ⟨i, Nat.le_succ_of_le hi, hold.trans hlatest⟩
  slowSince since hsince := by
    obtain ⟨i, hi, heq⟩ := h.slowSince since hsince
    exact ⟨i, Nat.le_succ_of_le hi, heq⟩

omit [Quantity α] in
/-- The slow time of a window begins at one of the times. -/
theorem Window.GoesBy.since {w : Window α} (h : w.GoesBy times n) :
    ∃ i ≤ n, w.slowSince.getD w.latest = times i := by
  cases hslow : w.slowSince with
  | none => exact h.latest
  | some since => exact h.slowSince since hslow

/-- One more sample. -/
theorem GoesBy.sample (h : d.GoesBy times n) (bytes : Nat) :
    (d.sample (times (n + 1)) bytes).1.GoesBy times (n + 1) := by
  obtain ⟨w, hwindow, hw⟩ := h
  have hnow := hw.advance bytes
  rw [Watchdog.sample, hwindow]
  dsimp only
  split
  · exact ⟨_, rfl, hnow⟩
  · split
    · -- fast enough: nothing is slow any more
      exact ⟨_, rfl, hnow.opened, hnow.latest, nofun⟩
    · refine ⟨_, rfl, hnow.opened, hnow.latest, fun since hsince => ?_⟩
      cases hsince
      obtain ⟨i, hi, heq⟩ := hw.since
      exact ⟨i, Nat.le_succ_of_le hi, heq⟩

/-- An alarm measures a time that has passed between two of the samples, and that is longer
    than the watchdog allows. -/
theorem GoesBy.alarm (h : d.GoesBy times n) {bytes : Nat} {alarm : Alarm α}
    (halarm : (d.sample (times (n + 1)) bytes).2 = some alarm) :
    d.maxDuration < alarm.duration ∧ Passes times (n + 1) alarm.duration := by
  obtain ⟨w, hwindow, hw⟩ := h
  have hnow := hw.advance bytes
  obtain ⟨i, hi, hsince⟩ := hw.since
  obtain ⟨j, hj, hlatest⟩ := hnow.latest
  -- Only a sample with an open window, long enough behind its start, can raise an alarm
  rw [Watchdog.sample, hwindow] at halarm
  dsimp only at halarm
  split at halarm
  · exact nomatch halarm
  · rename_i hlong
    split at halarm
    · exact nomatch halarm
    · split at halarm
      · rename_i hlimit
        cases halarm
        -- The slow time began with reading `i`, and `j` is the latest one
        refine ⟨hlimit, i, Nat.le_succ_of_le hi, j, hj, ?_, ?_⟩
        · rw [← hlatest, ← hsince]
          rfl
        · rw [← hlatest, ← hnow.opened]
          exact hlong
      · exact nomatch halarm

end Watchdog

end FrameSocket
