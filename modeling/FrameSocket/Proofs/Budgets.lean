import FrameSocket.Proofs.Polling

/-!
# Budgets, and how long they may be

A select sums its budget up before it makes any call: first the seconds and the
microseconds, then the clock and the budget.  Seconds of a span are kept in 64 bits, those of
a point in time in 63, so that a long budget leaves the range of one sum or of the other.
Such a select ends in a fault, although it has sockets to wait for, and although its waits
are cut into slices anyway.

All other selects end with sockets or an error, unless they run out of waits.

## Key results

- `begins_select`: a select has nothing to do, faults, or polls with the budget it was given
- `fault_select_iff`: which budgets fault
- `select_faults`: faults and other ends of selects, for every budget
-/

namespace FrameSocket

/-! ## Durations as numbers -/

namespace Duration

/-- Durations are added exactly. -/
@[simp] theorem nanoseconds_add (a b : Duration) :
    (a + b).nanoseconds = a.nanoseconds + b.nanoseconds := rfl

/-- The difference of two durations is zero at least. -/
@[simp] theorem nanoseconds_sub (a b : Duration) :
    (a - b).nanoseconds = a.nanoseconds - b.nanoseconds := rfl

/-- Durations are compared by their nanoseconds. -/
theorem le_iff {a b : Duration} : a ≤ b ↔ a.nanoseconds ≤ b.nanoseconds := Iff.rfl

/-- Whole seconds are in a duration if its `seconds` are as many. -/
theorem ofSeconds_le_iff {n : Nat} {d : Duration} : ofSeconds n ≤ d ↔ n ≤ d.seconds :=
  (Nat.le_div_iff_mul_le (by decide)).symm

end Duration

namespace Selector

variable {π : Type} [Poller π]

/-! ## Sums out of range -/

/-- The budget of some seconds and microseconds. -/
def span (n micros : Nat) : Duration := .ofSeconds n + .ofMicros micros

/-- The seconds and microseconds of a span are all of it but what is below a microsecond. -/
theorem span_of_duration (d : Duration) :
    span d.seconds d.subsecMicros = .ofMicros (d.nanoseconds / 1000) := by
  refine congrArg Duration.mk ?_
  simp only [Duration.ofSeconds, Duration.ofMicros, Duration.seconds, Duration.subsecMicros,
    Duration.subsecNanos, Duration.perSecond]
  omega

/-- The shortest span that 64 bits of seconds do not hold. -/
def tooLong : Duration := .ofSeconds 0x10000000000000000

/-- The first point in time that 63 bits of seconds do not hold. -/
def tooLate : Duration := .ofSeconds 0x8000000000000000

/-- Which sum of a budget leaves its range, at a time. -/
inductive Overflows (now budget : Duration) : ArithmeticFault → Prop
  /-- The budget itself does. -/
  | duration (hbudget : tooLong ≤ budget) : Overflows now budget .duration
  /-- The budget does not, but the time at which it is used up does. -/
  | instant (hbudget : ¬ tooLong ≤ budget) (hdeadline : tooLate ≤ now + budget) :
      Overflows now budget .instant

/-- `budget` adds up what is not `tooLong`. -/
theorem budget_eq_ok {n micros : Nat} (h : ¬ tooLong ≤ span n micros) :
    budget (some n) micros = .ok (some (span n micros)) :=
  if_pos (Nat.not_le.mp fun hle => h (Duration.ofSeconds_le_iff.mpr hle))

/-- `budget` fails for what is `tooLong`. -/
theorem budget_eq_error {n micros : Nat} (h : tooLong ≤ span n micros) :
    budget (some n) micros = .error .duration :=
  if_neg (Nat.not_lt.mpr (Duration.ofSeconds_le_iff.mp h))

/-- `deadline` adds up what is not `tooLate`. -/
theorem deadline_eq_ok {now b : Duration} (h : ¬ tooLate ≤ now + b) :
    deadline now (some b) = .ok (some (now + b)) :=
  if_pos (Nat.not_le.mp fun hle => h (Duration.ofSeconds_le_iff.mpr hle))

/-- `deadline` fails for what is `tooLate`. -/
theorem deadline_eq_error {now b : Duration} (h : tooLate ≤ now + b) :
    deadline now (some b) = .error .instant :=
  if_neg (Nat.not_lt.mpr (Duration.ofSeconds_le_iff.mp h))

/-- The ways in which a select begins. -/
inductive Begins (s : Selector) (waits : Nat) (p : π) (seconds : Option Nat) (micros : Nat) :
    Selection × Selector × π → Prop
  /-- There is nothing to wait for. -/
  | nothing (hnone : s.hasRegistrations = false) :
      Begins s waits p seconds micros (.failed .nothingToSelect, s, p)
  /-- The budget is too long. -/
  | fault {n : Nat} {fault : ArithmeticFault} (hsome : s.hasRegistrations = true)
      (hseconds : seconds = some n) (hover : Overflows (Poller.now p) (span n micros) fault) :
      Begins s waits p seconds micros (.fault fault, s, p)
  /-- It is not. -/
  | polls (hsome : s.hasRegistrations = true)
      (hfits : ∀ n, seconds = some n → ∀ fault,
        ¬ Overflows (Poller.now p) (span n micros) fault) :
      Begins s waits p seconds micros
        (s.poll waits p (seconds.map (span · micros))
          (seconds.map fun n => Poller.now p + span n micros))

/-- `select` ends with the fault of its `budget`. -/
theorem select_of_budget_error {s : Selector} {waits : Nat} {p : π} {seconds : Option Nat}
    {micros : Nat} {fault : ArithmeticFault} (hsome : s.hasRegistrations = true)
    (hbudget : budget seconds micros = .error fault) :
    s.select waits p seconds micros = (.fault fault, s, p) := by
  simp only [select, hsome, hbudget, Bool.not_true, Bool.false_eq_true, if_false]

/-- `select` ends with the fault of its `deadline`. -/
theorem select_of_deadline_error {s : Selector} {waits : Nat} {p : π} {seconds : Option Nat}
    {micros : Nat} {b : Option Duration} {fault : ArithmeticFault}
    (hsome : s.hasRegistrations = true) (hbudget : budget seconds micros = .ok b)
    (hdeadline : deadline (Poller.now p) b = .error fault) :
    s.select waits p seconds micros = (.fault fault, s, p) := by
  simp only [select, hsome, hbudget, hdeadline, Bool.not_true, Bool.false_eq_true, if_false]

/-- `select` polls once it has its budget and its deadline. -/
theorem select_of_deadline_ok {s : Selector} {waits : Nat} {p : π} {seconds : Option Nat}
    {micros : Nat} {b d : Option Duration} (hsome : s.hasRegistrations = true)
    (hbudget : budget seconds micros = .ok b) (hdeadline : deadline (Poller.now p) b = .ok d) :
    s.select waits p seconds micros = s.poll waits p b d := by
  simp only [select, hsome, hbudget, hdeadline, Bool.not_true, Bool.false_eq_true, if_false]

/-- `select` begins in one of the ways of `Begins`. -/
theorem begins_select (s : Selector) (waits : Nat) (p : π) (seconds : Option Nat)
    (micros : Nat) : Begins s waits p seconds micros (s.select waits p seconds micros) := by
  cases hsome : s.hasRegistrations with
  | false =>
    have hnothing : s.select waits p seconds micros = (.failed .nothingToSelect, s, p) :=
      if_pos (by simp [hsome])
    rw [hnothing]
    exact .nothing hsome
  | true =>
    -- A budget without bounds has no sum that could leave its range
    cases seconds with
    | none =>
      rw [select_of_deadline_ok hsome rfl rfl]
      exact .polls hsome nofun
    | some n =>
      by_cases hbudget : tooLong ≤ span n micros
      · rw [select_of_budget_error hsome (budget_eq_error hbudget)]
        exact .fault hsome rfl (.duration hbudget)
      -- The deadline is only reached with a budget that is in range
      by_cases hdeadline : tooLate ≤ Poller.now p + span n micros
      · rw [select_of_deadline_error hsome (budget_eq_ok hbudget) (deadline_eq_error hdeadline)]
        exact .fault hsome rfl (.instant hbudget hdeadline)
      · rw [select_of_deadline_ok hsome (budget_eq_ok hbudget) (deadline_eq_ok hdeadline)]
        refine .polls hsome fun n' heq fault hover => ?_
        cases heq
        cases hover with
        | duration hlong => exact hbudget hlong
        | instant _ hlate => exact hdeadline hlate

/-- At most one sum leaves its range: the other is not even made. -/
theorem Overflows.unique {now budget : Duration} {fault fault' : ArithmeticFault}
    (h : Overflows now budget fault) (h' : Overflows now budget fault') : fault = fault' := by
  cases h with
  | duration hlong =>
    cases h' with
    | duration => rfl
    | instant hbudget => exact absurd hlong hbudget
  | instant hbudget =>
    cases h' with
    | duration hlong => exact absurd hlong hbudget
    | instant => rfl

/-- A poll is no fault. -/
theorem poll_ne_fault (s : Selector) (waits : Nat) (p : π) (budget deadline : Option Duration)
    (fault : ArithmeticFault) : (s.poll waits p budget deadline).1 ≠ .fault fault := by
  have hpolls := polls_poll s waits p budget deadline
  generalize s.poll waits p budget deadline = result at hpolls
  cases hpolls <;> nofun

/-- `select` ends with a fault exactly if there is something to select and the sums of its budget
    overflow, and then it tells which one. -/
theorem fault_select_iff {s : Selector} {waits : Nat} {p : π} {seconds : Option Nat}
    {micros : Nat} {fault : ArithmeticFault} :
    (s.select waits p seconds micros).1 = .fault fault ↔ s.hasRegistrations = true ∧
      ∃ n, seconds = some n ∧ Overflows (Poller.now p) (span n micros) fault := by
  have hbegins := begins_select s waits p seconds micros
  generalize s.select waits p seconds micros = result at hbegins
  cases hbegins with
  | nothing hnone => simp [hnone]
  | fault hsome hseconds hover =>
    constructor
    · rintro ⟨⟩
      exact ⟨hsome, _, hseconds, hover⟩
    · rintro ⟨-, n, hn, hover'⟩
      cases hseconds.symm.trans hn
      rw [hover.unique hover']
  -- `poll` has no sums, so what it answers is no fault
  | polls hsome hfits =>
    refine ⟨fun hfault => absurd hfault (poll_ne_fault s waits p _ _ fault), ?_⟩
    rintro ⟨-, n, hn, hover⟩
    exact absurd hover (hfits n hn fault)

/-- A select that faults has not done anything. -/
theorem select_of_fault {s : Selector} {waits : Nat} {p : π} {seconds : Option Nat}
    {micros : Nat} {fault : ArithmeticFault}
    (h : (s.select waits p seconds micros).1 = .fault fault) :
    s.select waits p seconds micros = (.fault fault, s, p) := by
  have hbegins := begins_select s waits p seconds micros
  generalize s.select waits p seconds micros = result at hbegins h
  -- A fault comes before anything is watched
  cases hbegins with
  | nothing hnone => cases h
  | fault hsome hseconds hover =>
    cases h
    rfl
  | polls hsome hfits => exact absurd h (poll_ne_fault s waits p _ _ fault)

/-! ## Running out of waits -/

/-- A poll that is not finished has made all its waits. -/
theorem waits_of_poll_unfinished {s : Selector} {waits : Nat} {p : Observed π}
    {budget deadline : Option Duration}
    (h : (s.poll waits p budget deadline).1 = .unfinished) :
    (s.poll waits p budget deadline).2.2.waits = p.waits + waits := by
  have hpolls := polls_poll s waits p budget deadline
  generalize s.poll waits p budget deadline = result at hpolls h
  cases hpolls with
  | refused => cases h
  | found => cases h
  | late => cases h
  | failed => cases h
  -- Only `await` waits
  | unfinished hwatch hawait =>
    rw [waits_forget, waits_await_unfinished hawait, waits_watch hwatch]

/-- A `select` that is not finished has made all the waits it may. -/
theorem waits_of_unfinished {s : Selector} {waits : Nat} {p : π} {seconds : Option Nat}
    {micros : Nat} (h : (s.select waits p seconds micros).1 = .unfinished) :
    (s.callsOf waits p seconds micros).countP PollerCall.isWait = waits := by
  have hobserved := select_observed s waits (Observed.start p) seconds micros
  have hout : (s.select waits (Observed.start p) seconds micros).1 = .unfinished :=
    (congrArg Prod.fst hobserved).symm.trans h
  have hbegins := begins_select s waits (Observed.start p) seconds micros
  unfold callsOf
  generalize s.select waits (Observed.start p) seconds micros = result at hbegins hout
  -- Nothing but polling can be left unfinished
  cases hbegins with
  | nothing => cases hout
  | fault => cases hout
  | polls hsome hfits => exact (waits_of_poll_unfinished hout).trans (Nat.zero_add waits)

/-! ## All budgets -/

/-- How a select may end, for every budget, selector and poller.

    It faults exactly if it has something to wait for and a sum of its budget leaves its
    range, and has then made no call and keeps its registrations.  A budget that is given as
    one span can only be too long for the clock, and is so exactly if its whole microseconds
    end behind the last point in time.  A select that is not finished has made all the waits
    it may make. -/
theorem select_faults (s : Selector) (waits : Nat) (p : π) :
    (∀ (seconds : Option Nat) (micros : Nat),
      (∀ fault, (s.select waits p seconds micros).1 = .fault fault ↔
        s.hasRegistrations = true ∧
          ∃ n, seconds = some n ∧ Overflows (Poller.now p) (span n micros) fault) ∧
      (∀ fault, (s.select waits p seconds micros).1 = .fault fault →
        s.select waits p seconds micros = (.fault fault, s, p) ∧
          s.callsOf waits p seconds micros = []) ∧
      ((s.select waits p seconds micros).1 = .unfinished →
        (s.callsOf waits p seconds micros).countP PollerCall.isWait = waits)) ∧
    ∀ timeout : Duration, ¬ tooLong ≤ timeout → ∀ fault,
      (s.selectFor waits p timeout).1 = .fault fault ↔
        s.hasRegistrations = true ∧ fault = .instant ∧
          tooLate ≤ Poller.now p + .ofMicros (timeout.nanoseconds / 1000) := by
  refine ⟨fun seconds micros => ⟨fun fault => fault_select_iff, fun fault h => ?_,
    waits_of_unfinished⟩, fun timeout hseconds fault => ?_⟩
  · have hobserved := select_observed s waits (Observed.start p) seconds micros
    have hout : (s.select waits (Observed.start p) seconds micros).1 = .fault fault :=
      (congrArg Prod.fst hobserved).symm.trans h
    refine ⟨select_of_fault h, ?_⟩
    unfold callsOf
    rw [select_of_fault hout]
    rfl
  · have hspan := span_of_duration timeout
    -- What is cut off does not lengthen the span
    have hfits : ¬ tooLong ≤ span timeout.seconds timeout.subsecMicros := by
      intro hlong
      rw [hspan] at hlong
      exact hseconds (Nat.le_trans hlong (Nat.div_mul_le_self _ _))
    unfold selectFor
    rw [fault_select_iff, ← hspan]
    refine and_congr_right fun _ => ⟨?_, ?_⟩
    · rintro ⟨n, heq, hover⟩
      cases heq
      cases hover with
      | duration hbudget => exact absurd hbudget hfits
      | instant _ hdeadline => exact ⟨rfl, hdeadline⟩
    · rintro ⟨rfl, hdeadline⟩
      exact ⟨_, rfl, .instant hfits hdeadline⟩

/-- A selector that is to tell when one stream can be read. -/
def onStream : Selector := empty.add ⟨⟨1⟩, 3, .tcp, .client⟩ .read

/-- The longest span that 64 bits of seconds hold is too long for the clock. -/
theorem select_faults_longest :
    ¬ tooLong ≤ .of 0xffffffffffffffff 999999999 ∧
      (onStream.selectFor 1 ({} : Host) (.of 0xffffffffffffffff 999999999)).1 =
        .fault .instant :=
  ⟨by decide, ((select_faults onStream 1 ({} : Host)).2 _ (by decide) .instant).mpr
    ⟨rfl, rfl, by decide⟩⟩

/-- Budgets of 64 bits of seconds and 32 of microseconds, and one span, that fault although
    there is a socket to wait for. -/
theorem select_out_of_range :
    onStream.hasRegistrations = true ∧
      (onStream.select 1 ({} : Host) (some 0xffffffffffffffff) 0).1 = .fault .instant ∧
      (onStream.select 1 ({} : Host) (some 0xffffffffffffffff) 1000000).1 = .fault .duration ∧
      (onStream.selectFor 1 ({} : Host) (.of 0xffffffffffffffff 999999999)).1 =
        .fault .instant :=
  ⟨rfl, rfl, rfl, rfl⟩

end Selector

end FrameSocket
