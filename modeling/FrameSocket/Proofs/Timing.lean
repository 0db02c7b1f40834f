import FrameSocket.Proofs.Budgets

/-!
# How long a select waits

A timed poller puts every call on record together with what the clock showed before and
after it.  Nothing is asked of the clock, nor of the poller: a call may take any time, and a
statement that needs a clock which is not set back, or waits which take the time that they
were given, asks it of the calls that were made.

A select never times out before its budget is used up, and never without a budget, since
every timeout is decided by a look at the clock.  No wait is longer than a slice, or than
what is left, and none takes any time if a peer is ready.  If nothing ever happens, the
waits are as many as there are begun seconds in the budget, and the last one ends at the
deadline.

## Key results

- `le_now_of_late`: when waiting is given up, the deadline has passed
- `fits_await`: no wait is too long
- `late_of_exact`: waiting while nothing happens, by induction on the turns
- `timing_select`: the times of a select
-/

namespace FrameSocket

/-! ## Durations -/

namespace Duration

/-- The shorter of two durations has the fewer nanoseconds. -/
@[simp] theorem nanoseconds_min (a b : Duration) :
    (min a b).nanoseconds = min a.nanoseconds b.nanoseconds := by
  by_cases hle : a ≤ b
  · rw [show min a b = a from if_pos hle]
    exact (Nat.min_eq_left hle).symm
  · rw [show min a b = b from if_neg hle]
    exact (Nat.min_eq_right (Nat.le_of_not_le hle)).symm

/-- A duration is its nanoseconds. -/
theorem ext_iff' {a b : Duration} : a = b ↔ a.nanoseconds = b.nanoseconds := by
  cases a
  cases b
  simp

/-- The span in seconds, a begun second counted as a whole one. -/
def secondsCeil (d : Duration) : Nat := (d.nanoseconds + (perSecond - 1)) / perSecond

/-- There are nanoseconds in a second. -/
theorem perSecond_pos : 0 < perSecond := by decide

/-- A second at most takes one slice. -/
theorem secondsCeil_le_one {d : Duration} (h : d.nanoseconds ≤ perSecond) : d.secondsCeil ≤ 1 := by
  refine Nat.lt_succ_iff.mp ((Nat.div_lt_iff_lt_mul perSecond_pos).mpr ?_)
  have hpos := perSecond_pos
  omega

/-- A time that is not zero takes one slice at least. -/
theorem one_le_secondsCeil {d : Duration} (h : 0 < d.nanoseconds) : 1 ≤ d.secondsCeil := by
  refine (Nat.le_div_iff_mul_le perSecond_pos).mpr ?_
  omega

/-- One second more. -/
theorem secondsCeil_add_second {d d' : Duration}
    (h : d.nanoseconds = d'.nanoseconds + perSecond) : d.secondsCeil = d'.secondsCeil + 1 := by
  unfold secondsCeil
  rw [h, Nat.add_right_comm, Nat.add_div_right _ perSecond_pos]

end Duration

/-! ## Calls with their times -/

/-- A call of a poller, and what the clock showed before and after it. -/
structure TimedCall where
  call : PollerCall
  before : Duration
  after : Duration

/-- A poller, and the calls made on it with their times, the first one in front. -/
structure Timed (π : Type) where
  poller : π
  calls : List TimedCall

namespace Timed

variable {π : Type}

/-- A poller with no call on record. -/
def start (p : π) : Timed π := ⟨p, []⟩

variable [Poller π]

/-- The poller after one more call. -/
def note (p : Timed π) (call : PollerCall) (q : π) : Timed π :=
  ⟨q, p.calls ++ [⟨call, Poller.now p.poller, Poller.now q⟩]⟩

instance : Poller (Timed π) where
  now p := Poller.now p.poller
  register p d id interest :=
    let (answer, q) := Poller.register p.poller d id interest
    (answer, p.note (.register d id interest answer) q)
  deregister p d :=
    let (answer, q) := Poller.deregister p.poller d
    (answer, p.note (.deregister d answer) q)
  wait p timeout :=
    let (answer, q) := Poller.wait p.poller timeout
    (answer, p.note (.wait timeout answer) q)
  peek p d ch :=
    let (answer, q) := Poller.peek p.poller d ch
    (answer, p.note (.peek d ch answer) q)
  sleep p t := p.note (.sleep t) (Poller.sleep p.poller t)

/-- The bare poller is a view. -/
theorem isView : Poller.IsView (Timed.poller (π := π)) :=
  ⟨fun _ => rfl, fun _ _ _ _ => rfl, fun _ _ => rfl, fun _ _ => rfl, fun _ _ _ => rfl,
    fun _ _ => rfl⟩

/-- The number of waits on record. -/
def waits (p : Timed π) : Nat := p.calls.countP (·.call.isWait)

/-- `note` counts the call if it waits. -/
theorem waits_note (p : Timed π) (call : PollerCall) (q : π) :
    (p.note call q).waits = p.waits + if call.isWait then 1 else 0 := by
  simp [waits, note, List.countP_append]

/-- What is on record stays there. -/
theorem isPassage_calls : Poller.IsPassage fun p q : Timed π => p.calls <+: q.calls :=
  ⟨fun _ => List.prefix_refl _, List.IsPrefix.trans, fun _ _ _ => List.prefix_append _ _⟩

/-! What follows from the calls between two states -/

variable {P : TimedCall → Prop} {C : Timed π → Timed π → Prop} {p q : Timed π}

/-- From `p` to `q` calls were made, and `C` holds if all that are on record satisfy `P`. -/
def Since (P : TimedCall → Prop) (C : Timed π → Timed π → Prop) (p q : Timed π) : Prop :=
  p.calls <+: q.calls ∧ ((∀ x ∈ q.calls, P x) → C p q)

/-- What is `Since` the call before. -/
theorem Since.note {call : PollerCall} {q : π}
    (h : P ⟨call, Poller.now p.poller, Poller.now q⟩ → C p (p.note call q)) :
    Since P C p (p.note call q) :=
  ⟨List.prefix_append _ _, fun hall =>
    h (hall _ (List.mem_append_right _ (List.mem_singleton_self _)))⟩

/-- What `Since` says of any number of calls, it says of each. -/
theorem isPassage_since (hrefl : ∀ p, C p p) (htrans : ∀ {p q q'}, C p q → C q q' → C p q')
    (hpeek : ∀ (p : Timed π) d ch answer q,
      P ⟨.peek d ch answer, Poller.now p.poller, Poller.now q⟩ →
        C p (p.note (.peek d ch answer) q)) : Poller.IsPassage (Since P C) := by
  refine ⟨fun p => ⟨List.prefix_refl _, fun _ => hrefl p⟩, ?_,
    fun p d ch => .note (hpeek p d ch _ _)⟩
  rintro p q q' ⟨hcalls, h⟩ ⟨hcalls', h'⟩
  refine ⟨hcalls.trans hcalls', fun hall => htrans (h fun x hx => ?_) (h' hall)⟩
  exact hall x (hcalls'.subset hx)

/-- All calls on record satisfy `P` at the end if they did at the beginning. -/
def Keeps (p : Timed π) (P : TimedCall → Prop) (q : Timed π) : Prop :=
  (∀ x ∈ p.calls, P x) → ∀ x ∈ q.calls, P x

/-- `note` keeps what is said of every call, if it is so of the new one. -/
theorem Keeps.note {call : PollerCall} {q : π}
    (h : P ⟨call, Poller.now p.poller, Poller.now q⟩) : p.Keeps P (p.note call q) := by
  intro hall x hx
  rcases List.mem_append.mp hx with hx | hx
  · exact hall x hx
  · rw [List.mem_singleton.mp hx]
    exact h

/-- What is said of every call holds along any wait. -/
theorem isPassage_keeps
    (hpeek : ∀ d ch answer before after, P ⟨.peek d ch answer, before, after⟩) :
    Poller.IsPassage fun p q : Timed π => p.Keeps P q :=
  ⟨fun _ => id, fun h h' hall => h' (h hall), fun _ _ _ => .note (hpeek _ _ _ _ _)⟩

end Timed

namespace Selector

variable {π : Type} [Poller π]

/-- The calls that a select makes, with their answers and times. -/
def timedCallsOf (s : Selector) (waits : Nat) (p : π) (seconds : Option Nat) (micros : Nat) :
    List TimedCall :=
  (s.select waits (Timed.start p) seconds micros).2.2.calls

/-! ## Timeouts -/

/-- With something ready, `slice` is zero. -/
theorem slice_eq_zero {p : π} {ready : Ready} (deadline : Option Duration)
    (h : ready.isEmpty = false) : slice p ready deadline = .zero :=
  if_neg (by simp [h])

/-- With nothing ready, `slice` is what is left of the budget, and a second at most. -/
theorem slice_some {p : π} {ready : Ready} (d : Duration) (h : ready.isEmpty = true) :
    slice p ready (some d) = min (d - Poller.now p) waitSlice :=
  if_pos h

/-- Without a budget, `slice` is a second. -/
theorem slice_none {p : π} {ready : Ready} (h : ready.isEmpty = true) :
    slice p ready none = waitSlice :=
  if_pos h

/-- No time is left exactly if there is a deadline, and it has passed. -/
theorem remaining_eq_zero_iff {p : π} {deadline : Option Duration} :
    remaining p deadline = some .zero ↔ ∃ d, deadline = some d ∧ d ≤ Poller.now p := by
  cases deadline with
  | none => simp [remaining]
  | some d =>
    have hzero : d - Poller.now p = .zero ↔ d ≤ Poller.now p :=
      Duration.ext_iff'.trans Nat.sub_eq_zero_iff_le
    simp [remaining, hzero]

/-- When waiting is given up, the deadline has passed. -/
theorem le_now_of_late {rs : Registrations} {ready : Ready} {deadline : Option Duration}
    {waits : Nat} {p q : π} (h : await rs ready deadline waits p = (.late, q)) :
    ∃ d, deadline = some d ∧ d ≤ Poller.now q := by
  have hawaits := awaits_await rs ready deadline waits p
  rw [h] at hawaits
  clear h
  generalize hresult : (Waited.late, q) = result at hawaits
  -- Waiting is late only behind a look at the clock that leaves nothing
  induction hawaits with
  | spent => cases hresult
  | interrupted _ _ _ ih => exact ih hresult
  | failed => cases hresult
  | found => cases hresult
  | late _ _ _ hleft =>
    cases hresult
    exact remaining_eq_zero_iff.mp hleft
  | idle _ _ _ _ ih => exact ih hresult
  | falseReport _ _ _ _ _ _ ih => exact ih hresult

/-- The clock goes on if no call sets it back. -/
theorem le_now_forget {p : Timed π} {descriptors : List Nat}
    (h : ∀ x ∈ (forget p descriptors).calls, x.before ≤ x.after) :
    Poller.now p ≤ Poller.now (forget p descriptors) := by
  have hsince := (Timed.isPassage_since (P := fun x => x.before ≤ x.after)
    (C := fun p q : Timed π => Poller.now p ≤ Poller.now q) (fun _ => Nat.le_refl _) Nat.le_trans
    fun _ _ _ _ _ h => h).forget (fun _ _ => .note id) p descriptors
  exact hsince.2 h

/-! ## The length of a wait -/

/-- A wait is not longer than a slice, nor than the time that is left, and takes no time if
    something is ready. -/
def Fits (ready : Ready) (deadline : Option Duration) (x : TimedCall) : Prop :=
  ∀ t answer, x.call = .wait t answer → t ≤ waitSlice ∧
    (∀ d, deadline = some d → t ≤ d - x.before) ∧ (ready.isEmpty = false → t = .zero)

/-- A wait of `slice` fits into the budget, and into a second. -/
theorem fits_wait (ready : Ready) (deadline : Option Duration) (p : Timed π)
    (answer : Except IoError (List Event)) (after : Duration) :
    Fits ready deadline ⟨.wait (slice p ready deadline) answer, Poller.now p, after⟩ := by
  rintro t answer' ⟨⟩
  -- With a peer ready the wait takes no time; otherwise it takes a slice, or what is left
  cases hready : ready.isEmpty with
  | false =>
    rw [slice_eq_zero deadline hready]
    exact ⟨Nat.zero_le _, fun _ _ => Nat.zero_le _, fun _ => rfl⟩
  | true =>
    cases deadline with
    | none =>
      rw [slice_none hready]
      exact ⟨Nat.le_refl _, nofun, nofun⟩
    | some d =>
      rw [slice_some d hready]
      refine ⟨?_, fun d' heq => ?_, nofun⟩
      · rw [Duration.le_iff, Duration.nanoseconds_min]
        exact Nat.min_le_right _ _
      · cases heq
        rw [Duration.le_iff, Duration.nanoseconds_min]
        exact Nat.min_le_left _ _

/-- No wait of a poll is too long. -/
theorem fits_poll (s : Selector) (waits : Nat) (p : π) (budget deadline : Option Duration) :
    ∀ x ∈ (s.poll waits (Timed.start p) budget deadline).2.2.calls,
      Fits (readyPeers s.registrations) deadline x := by
  have hpassage := Timed.isPassage_keeps (π := π)
    (P := Fits (readyPeers s.registrations) deadline) fun _ _ _ _ _ => nofun
  -- The three parts of a poll
  have hwatch := hpassage.watch (fun _ _ _ _ => .note nofun) (fun _ _ => .note nofun)
    (Timed.start p) [] s.registrations
  have hawait : ∀ q : Timed π, q.Keeps (Fits (readyPeers s.registrations) deadline)
      (await s.registrations (readyPeers s.registrations) deadline waits q).2 :=
    hpassage.await (fun p => .note (fits_wait _ _ p _ _)) (fun _ _ => .note nofun) s.registrations
      waits
  have hforget := hpassage.forget (fun _ _ => .note nofun)
  have hpolls := polls_poll s waits (Timed.start p) budget deadline
  generalize s.poll waits (Timed.start p) budget deadline = result at hpolls
  have hend : ∀ {descriptors q q' waited},
      watch (Timed.start p) [] s.registrations = (.ok descriptors, q) →
      await s.registrations (readyPeers s.registrations) deadline waits q = (waited, q') →
      ∀ x ∈ (forget q' descriptors).calls, Fits (readyPeers s.registrations) deadline x := by
    intro descriptors q q' waited hwatched hawaited
    have hbefore := hawait q
    rw [hwatched] at hwatch
    rw [hawaited] at hbefore
    exact hforget q' descriptors (hbefore (hwatch fun x hx => absurd hx List.not_mem_nil))
  cases hpolls with
  | refused hwatched =>
    rw [hwatched] at hwatch
    exact hwatch fun x hx => absurd hx List.not_mem_nil
  | found hwatched hawaited => exact hend hwatched hawaited
  | late hwatched hawaited => exact hend hwatched hawaited
  | failed hwatched hawaited => exact hend hwatched hawaited
  | unfinished hwatched hawaited => exact hend hwatched hawaited

/-! ## Waiting while nothing happens -/

/-- A call on a poller to which nothing happens: every descriptor can be watched, a wait
    reports nothing and takes the time that it was given, as does a pause, and all other
    calls take none. -/
def IsExact (x : TimedCall) : Prop :=
  match x.call with
  | .register _ _ _ answer => answer = .ok () ∧ x.after = x.before
  | .deregister _ _ => x.after = x.before
  | .wait t answer => answer = .ok [] ∧ x.after = x.before + t
  | .peek _ _ _ => x.after = x.before
  | .sleep t => x.after = x.before + t

/-- From `p` to `q` no wait was made, and no time passed. -/
def Halted (p q : Timed π) : Prop := Poller.now q = Poller.now p ∧ q.waits = p.waits

/-- A clock that only waits move stands still along everything else. -/
theorem isPassage_halted : Poller.IsPassage (Timed.Since IsExact (Halted (π := π))) :=
  Timed.isPassage_since (fun _ => ⟨rfl, rfl⟩) (fun h h' => ⟨h'.1.trans h.1, h'.2.trans h.2⟩)
    fun p _ _ _ _ h => ⟨h, Timed.waits_note p _ _⟩

/-- `forget` does not move such a clock. -/
theorem since_forget (p : Timed π) (descriptors : List Nat) :
    Timed.Since IsExact Halted p (forget p descriptors) :=
  isPassage_halted.forget (fun p _ => .note fun h => ⟨h, Timed.waits_note p _ _⟩) p descriptors

/-- `watch` does not move such a clock. -/
theorem since_watch {p q : Timed π} {watched : List Nat} {rs : Registrations}
    {answer : Except IoError (List Nat)} (h : watch p watched rs = (answer, q)) :
    Timed.Since IsExact Halted p q := by
  have hwatch := isPassage_halted.watch
    (fun p _ _ _ => .note fun h => ⟨h.2, Timed.waits_note p _ _⟩)
    (fun p _ => .note fun h => ⟨h, Timed.waits_note p _ _⟩) p watched rs
  rw [h] at hwatch
  exact hwatch

/-- Watching fails only if a refusal is on record. -/
theorem watch_of_exact {p q : Timed π} {watched : List Nat} {rs : Registrations}
    {answer : Except IoError (List Nat)} (h : watch p watched rs = (answer, q))
    (hexact : ∀ x ∈ q.calls, IsExact x) : ∃ descriptors, answer = .ok descriptors := by
  induction rs generalizing p watched with
  | nil =>
    cases h
    exact ⟨watched, rfl⟩
  | cons r rs ih =>
    unfold watch at h
    split at h
    · exact ih h
    · rename_i d listening urgent _
      rcases hregister : Poller.register p d r.id (r.interest urgent) with ⟨registered, q'⟩
      -- An exact poller has registered this socket, as every call on record says
      have hcall : ⟨.register d r.id (r.interest urgent) registered, Poller.now p,
          Poller.now q'⟩ ∈ q'.calls := by
        cases hregister
        exact List.mem_append_right _ (List.mem_singleton_self _)
      rw [hregister] at h
      cases registered with
      | ok => exact ih h
      | error e =>
        cases h
        exact nomatch (hexact _ ((since_forget q' watched).1.subset hcall)).1

/-- Waiting adds to the calls on record. -/
theorem Awaits.calls {rs : Registrations} {ready : Ready} {deadline : Option Duration}
    {waits : Nat} {p : Timed π} {result : Waited × Timed π}
    (h : Awaits rs ready deadline waits p result) : p.calls <+: result.2.calls :=
  Timed.isPassage_calls.awaits (fun _ => List.prefix_append _ _)
    (fun _ _ => List.prefix_append _ _) h

/-- A slice of what is left until a deadline, in nanoseconds. -/
theorem nanoseconds_slice {p : π} {ready : Ready} (d : Duration) (h : ready.isEmpty = true) :
    (slice p ready (some d)).nanoseconds =
      min (d.nanoseconds - (Poller.now p).nanoseconds) Duration.perSecond := by
  rw [slice_some d h, Duration.nanoseconds_min, Duration.nanoseconds_sub]
  rfl

/-- A slice that reaches the deadline takes all that was left, which is no more than a
    second. -/
theorem last_slice {p q : π} {ready : Ready} {d : Duration} (h : ready.isEmpty = true)
    (hnow : Poller.now q = Poller.now p + slice p ready (some d)) (hleft : Poller.now p ≤ d)
    (hpassed : d ≤ Poller.now q) :
    Poller.now q = d ∧ max 1 (d - Poller.now p).secondsCeil = 1 := by
  have hslice := nanoseconds_slice (p := p) d h
  have hnow' : (Poller.now q).nanoseconds =
      (Poller.now p).nanoseconds + (slice p ready (some d)).nanoseconds :=
    congrArg Duration.nanoseconds hnow
  rw [Duration.le_iff] at hpassed hleft
  -- The slice was what was left, so no more than a second
  have hone : (d - Poller.now p).secondsCeil ≤ 1 := by
    refine Duration.secondsCeil_le_one ?_
    rw [Duration.nanoseconds_sub]
    omega
  exact ⟨Duration.ext_iff'.mpr (by omega), Nat.max_eq_left hone⟩

/-- A slice that does not reach the deadline takes a whole second. -/
theorem whole_slice {p q : π} {ready : Ready} {d : Duration} (h : ready.isEmpty = true)
    (hnow : Poller.now q = Poller.now p + slice p ready (some d)) (hahead : ¬ d ≤ Poller.now q) :
    max 1 (d - Poller.now p).secondsCeil = max 1 (d - Poller.now q).secondsCeil + 1 := by
  have hslice := nanoseconds_slice (p := p) d h
  have hnow' : (Poller.now q).nanoseconds =
      (Poller.now p).nanoseconds + (slice p ready (some d)).nanoseconds :=
    congrArg Duration.nanoseconds hnow
  rw [Duration.le_iff] at hahead
  -- The slice was a whole second, since the deadline is still ahead
  have hstep : (d - Poller.now p).secondsCeil = (d - Poller.now q).secondsCeil + 1 := by
    refine Duration.secondsCeil_add_second ?_
    rw [Duration.nanoseconds_sub, Duration.nanoseconds_sub]
    omega
  have hmore : 1 ≤ (d - Poller.now q).secondsCeil := by
    refine Duration.one_le_secondsCeil ?_
    rw [Duration.nanoseconds_sub]
    omega
  rw [hstep, Nat.max_eq_right hmore, Nat.max_eq_right (Nat.le_add_left 1 _)]

/-- While nothing happens, waiting ends with the deadline, and every wait but the last takes
    a whole slice. -/
theorem late_of_exact {rs : Registrations} {ready : Ready} {d : Duration} {waits : Nat}
    {p : Timed π} {result : Waited × Timed π} (h : Awaits rs ready (some d) waits p result)
    (hnone : ready.isEmpty = true) (hexact : ∀ x ∈ result.2.calls, IsExact x)
    (hleft : Poller.now p ≤ d) (hwaits : max 1 (d - Poller.now p).secondsCeil ≤ waits) :
    result.1 = .late ∧ Poller.now result.2 = d ∧
      result.2.waits = p.waits + max 1 (d - Poller.now p).secondsCeil := by
  -- A wait on record has found nothing and taken its time
  have hwait : ∀ {p q : Timed π} {answer : Except IoError (List Event)},
      Poller.wait p (slice p ready (some d)) = (answer, q) → q.calls <+: result.2.calls →
      answer = .ok [] ∧ Poller.now q = Poller.now p + slice p ready (some d) ∧
        q.waits = p.waits + 1 := by
    rintro p q answer hanswer hcalls
    have hcall : ⟨.wait (slice p ready (some d)) answer, Poller.now p, Poller.now q⟩ ∈ q.calls := by
      cases hanswer
      exact List.mem_append_right _ (List.mem_singleton_self _)
    obtain ⟨hempty, hnow⟩ := hexact _ (hcalls.subset hcall)
    refine ⟨hempty, hnow, ?_⟩
    cases hanswer
    exact Timed.waits_note p _ _
  have hcheck : ∀ {p q : Timed π} {events : List Event} {found : Ready},
      events.foldl (checkEvent rs) (ready, p) = (found, q) → p.calls <+: q.calls := by
    intro p q events found hcheck
    have hfold := Timed.isPassage_calls.foldl_checkEvent rs events ready p
    rw [hcheck] at hfold
    exact hfold
  induction h with
  | spent => omega
  | interrupted hanswer _ hrest => cases (hwait hanswer hrest.calls).1
  | failed hanswer => cases (hwait hanswer (List.prefix_refl _)).1
  | found hanswer hfound hsome =>
    cases (hwait hanswer (hcheck hfound)).1
    cases hfound
    exact absurd (hnone.symm.trans hsome) (by decide)
  | late hanswer hfound _ hzero =>
    obtain ⟨hempty, hnow, hcount⟩ := hwait hanswer (hcheck hfound)
    cases hempty
    cases hfound
    obtain ⟨d', heq, hpassed⟩ := remaining_eq_zero_iff.mp hzero
    cases heq
    obtain ⟨hend, hone⟩ := last_slice hnone hnow hleft hpassed
    exact ⟨rfl, hend, by rw [hcount, hone]⟩
  | @idle _ p q _ hanswer _ hsome hrest ih =>
    obtain ⟨-, hnow, hcount⟩ := hwait hanswer hrest.calls
    have hahead : ¬ d ≤ Poller.now q := fun hle => hsome (remaining_eq_zero_iff.mpr ⟨d, rfl, hle⟩)
    have hone := whole_slice hnone hnow hahead
    rw [hone] at hwaits ⊢
    obtain ⟨hlate, hend, htotal⟩ := ih hexact (Nat.le_of_lt (Nat.not_le.mp hahead))
      (Nat.le_of_succ_le_succ hwaits) hwait
    exact ⟨hlate, hend, by rw [htotal, hcount, Nat.add_assoc, Nat.add_comm 1]⟩
  | falseReport hanswer hreported hfound _ _ hrest =>
    have hlater : _ <+: _ := (hcheck hfound).trans ((List.prefix_append _ _).trans hrest.calls)
    cases (hwait hanswer hlater).1
    cases hreported

/-- A poll while nothing happens, from the time at which its budget began. -/
theorem timeout_of_exact {s : Selector} {waits : Nat} {p : π} {budget : Option Duration}
    {b : Duration} (hnone : (readyPeers s.registrations).isEmpty = true)
    (hexact : ∀ x ∈ (s.poll waits (Timed.start p) budget
      (some (Poller.now p + b))).2.2.calls, IsExact x)
    (hwaits : max 1 b.secondsCeil ≤ waits) :
    let result := s.poll waits (Timed.start p) budget (some (Poller.now p + b))
    result.1 = .failed (.timeout budget) ∧ Poller.now result.2.2 = Poller.now p + b ∧
      result.2.2.waits = max 1 b.secondsCeil := by
  have hpolls := polls_poll s waits (Timed.start p) budget (some (Poller.now p + b))
  generalize s.poll waits (Timed.start p) budget (some (Poller.now p + b)) = result at hpolls hexact
  -- What waiting ends with, and what is left of it by forgetting
  have hwaited : ∀ {descriptors q q' waited},
      watch (Timed.start p) [] s.registrations = (.ok descriptors, q) →
      await s.registrations (readyPeers s.registrations) (some (Poller.now p + b)) waits q =
        (waited, q') → (∀ x ∈ (forget q' descriptors).calls, IsExact x) →
      waited = .late ∧ Poller.now (forget q' descriptors) = Poller.now p + b ∧
        (forget q' descriptors).waits = max 1 b.secondsCeil := by
    intro descriptors q q' waited hwatch hawait hexact
    have hawaits := awaits_await s.registrations (readyPeers s.registrations)
      (some (Poller.now p + b)) waits q
    rw [hawait] at hawaits
    have hforget := since_forget q' descriptors
    have hexact' : ∀ x ∈ q'.calls, IsExact x := fun x hx => hexact x (hforget.1.subset hx)
    obtain ⟨hstart, hcount⟩ := (since_watch hwatch).2
      fun x hx => hexact' x (hawaits.calls.subset hx)
    have hstart : Poller.now q = Poller.now p := hstart
    have hleft : Poller.now p + b - Poller.now q = b := by
      rw [hstart]
      exact Duration.ext_iff'.mpr (Nat.add_sub_cancel_left ..)
    obtain ⟨hlate, hend, htotal⟩ := late_of_exact hawaits hnone hexact'
      (hstart ▸ Nat.le_add_right _ _) (hleft.symm ▸ hwaits)
    obtain ⟨hend', htotal'⟩ := hforget.2 hexact
    refine ⟨hlate, hend'.trans hend, ?_⟩
    rw [htotal', htotal, hcount, hleft]
    exact Nat.zero_add _
  cases hpolls with
  | refused hwatch => cases (watch_of_exact hwatch hexact).choose_spec
  | found hwatch hawait => cases (hwaited hwatch hawait hexact).1
  | late hwatch hawait => exact ⟨rfl, (hwaited hwatch hawait hexact).2⟩
  | failed hwatch hawait => cases (hwaited hwatch hawait hexact).1
  | unfinished hwatch hawait => cases (hwaited hwatch hawait hexact).1

/-! ## The times of a select -/

/-- A timeout tells the budget, which is used up by then if no call sets the clock back. -/
theorem le_now_of_timeout {s : Selector} {waits : Nat} {p : Timed π} {seconds : Option Nat}
    {micros : Nat} {bound : Option Duration}
    (h : (s.select waits p seconds micros).1 = .failed (.timeout bound)) :
    ∃ n, seconds = some n ∧ bound = some (span n micros) ∧
      ((∀ x ∈ (s.select waits p seconds micros).2.2.calls, x.before ≤ x.after) →
        Poller.now p + span n micros ≤ Poller.now (s.select waits p seconds micros).2.2) := by
  have hbegins := begins_select s waits p seconds micros
  generalize s.select waits p seconds micros = result at hbegins h ⊢
  cases hbegins with
  | nothing => cases h
  | fault => cases h
  | polls hsome hfits =>
    have hpolls := polls_poll s waits p (seconds.map (span · micros))
      (seconds.map fun n => Poller.now p + span n micros)
    generalize s.poll waits p (seconds.map (span · micros))
      (seconds.map fun n => Poller.now p + span n micros) = result at hpolls h
    cases hpolls with
    | refused => cases h
    | found => cases h
    | late hwatch hawait =>
      cases h
      -- The deadline had passed when the wait ended, and forgetting takes no time back
      obtain ⟨d, hd, hpassed⟩ := le_now_of_late hawait
      obtain ⟨n, rfl, rfl⟩ := Option.map_eq_some_iff.mp hd
      exact ⟨n, rfl, rfl, fun hclock => Nat.le_trans hpassed (le_now_forget hclock)⟩
    | failed => cases h
    | unfinished => cases h

/-- No wait of a select is too long. -/
theorem fits_select (s : Selector) (waits : Nat) (p : π) (seconds : Option Nat) (micros : Nat) :
    ∀ x ∈ s.timedCallsOf waits p seconds micros, Fits (readyPeers s.registrations)
      (seconds.map fun n => Poller.now p + span n micros) x := by
  have hbegins := begins_select s waits (Timed.start p) seconds micros
  unfold timedCallsOf
  generalize s.select waits (Timed.start p) seconds micros = result at hbegins
  cases hbegins with
  | nothing => exact fun x hx => absurd hx List.not_mem_nil
  | fault => exact fun x hx => absurd hx List.not_mem_nil
  | polls => exact fits_poll s waits p _ _

/-- The times of a select, for every budget, selector and poller.

    A select times out only if it was given a budget, and not before that is used up, as long
    as no call sets the clock back.  No wait is longer than a slice or than the time that is
    left, and none takes any time if a peer is ready.  If there is no such peer and nothing
    happens, a budget that does not fault and may make enough waits is waited for in as many
    as it has begun seconds, though at least one, and the select times out right at the
    deadline. -/
theorem timing_select (s : Selector) (waits : Nat) (p : π) (seconds : Option Nat)
    (micros : Nat) :
    let outcome := (s.select waits p seconds micros).1
    let finish := Poller.now (s.select waits p seconds micros).2.2
    let calls := s.timedCallsOf waits p seconds micros
    (∀ bound, outcome = .failed (.timeout bound) →
      ∃ n, seconds = some n ∧ bound = some (span n micros) ∧
        ((∀ x ∈ calls, x.before ≤ x.after) → Poller.now p + span n micros ≤ finish)) ∧
    (∀ x ∈ calls, ∀ t answer, x.call = .wait t answer →
      t ≤ waitSlice ∧
      (∀ n, seconds = some n → t ≤ Poller.now p + span n micros - x.before) ∧
      ((∃ r ∈ s.registrations, ∃ a, r.PeerReady a) → t = .zero)) ∧
    (∀ n, seconds = some n →
      (∀ fault, ¬ Overflows (Poller.now p) (span n micros) fault) →
      s.hasRegistrations = true → (∀ r ∈ s.registrations, ∀ a, ¬ r.PeerReady a) →
      (∀ x ∈ calls, IsExact x) → max 1 (span n micros).secondsCeil ≤ waits →
      outcome = .failed (.timeout (some (span n micros))) ∧
        finish = Poller.now p + span n micros ∧
        calls.countP (·.call.isWait) = max 1 (span n micros).secondsCeil) := by
  intro outcome finish calls
  -- The calls and their times are on record only for the timed poller, which selects the same
  have hview := select_view Timed.isView s waits (Timed.start p) seconds micros
  have hout : outcome = (s.select waits (Timed.start p) seconds micros).1 :=
    congrArg Prod.fst hview
  have hfinish : finish = Poller.now (s.select waits (Timed.start p) seconds micros).2.2 :=
    congrArg (fun result => Poller.now result.2.2) hview
  refine ⟨fun bound h => ?_, fun x hx t answer hcall => ?_, ?_⟩
  · rw [hfinish]
    exact le_now_of_timeout (hout.symm.trans h)
  · obtain ⟨hslice, hleft, hpeers⟩ := fits_select s waits p seconds micros x hx t answer hcall
    refine ⟨hslice, fun n hn => hleft _ (by rw [hn]; rfl), fun hready => hpeers ?_⟩
    exact isEmpty_readyPeers_eq_false_iff.mpr hready
  · rintro n rfl hfits hsome hpeers hexact hwaits
    have hnone : (readyPeers s.registrations).isEmpty = true := by
      refine eq_true_of_ne_false fun hready => ?_
      obtain ⟨r, hr, a, hready⟩ := isEmpty_readyPeers_eq_false_iff.mp hready
      exact hpeers r hr a hready
    have hbegins := begins_select s waits (Timed.start p) (some n) micros
    have hexact : ∀ x ∈ (s.select waits (Timed.start p) (some n) micros).2.2.calls, IsExact x :=
      hexact
    rw [hout, hfinish]
    show _ ∧ _ ∧ (s.select waits (Timed.start p) (some n) micros).2.2.waits = _
    generalize s.select waits (Timed.start p) (some n) micros = result at hbegins hexact
    cases hbegins with
    | nothing hnothing => exact absurd (hsome.symm.trans hnothing) (by decide)
    | fault _ heq hover =>
      cases heq
      exact absurd hover (hfits _)
    | polls => exact timeout_of_exact hnone hexact hwaits

/-- A host with one stream socket, to which nothing happens during three waits. -/
def silentHost : Host := { (Host.create {} .tcp).2 with script := [.silent, .silent, .silent] }

/-- A selector that is to tell when that socket can be read. -/
def onSilence : Selector := empty.add ⟨⟨1⟩, 0, .tcp, .client⟩ .read

/-- Two and a half seconds are waited for in three waits. -/
theorem timedCallsOf_onSilence : onSilence.timedCallsOf 3 silentHost (some 2) 500000 =
    [⟨.register 0 ⟨1⟩ ⟨true, false, true⟩ (.ok ()), ⟨0⟩, ⟨0⟩⟩,
      ⟨.wait ⟨1000000000⟩ (.ok []), ⟨0⟩, ⟨1000000000⟩⟩,
      ⟨.wait ⟨1000000000⟩ (.ok []), ⟨1000000000⟩, ⟨2000000000⟩⟩,
      ⟨.wait ⟨500000000⟩ (.ok []), ⟨2000000000⟩, ⟨2500000000⟩⟩,
      ⟨.deregister 0 (.ok ()), ⟨2500000000⟩, ⟨2500000000⟩⟩] := rfl

/-- It times out at the end of the third. -/
theorem timing_select_onSilence :
    (onSilence.select 3 silentHost (some 2) 500000).1 =
        .failed (.timeout (some (span 2 500000))) ∧
      Poller.now (onSilence.select 3 silentHost (some 2) 500000).2.2 =
        Poller.now silentHost + span 2 500000 ∧
      (onSilence.timedCallsOf 3 silentHost (some 2) 500000).countP (·.call.isWait) =
        max 1 (span 2 500000).secondsCeil := by
  refine (timing_select onSilence 3 silentHost (some 2) 500000).2.2 2 rfl ?_ rfl ?_ ?_ (by decide)
  · intro fault hover
    cases hover with
    | duration hlong => exact absurd hlong (by decide)
    | instant _ hlate => exact absurd hlate (by decide)
  · -- the one socket is no peer
    intro r hr a hready
    cases List.mem_singleton.mp hr
    cases a with
    | read => exact absurd hready.2 (by decide)
    | write =>
      obtain ⟨-, pending, hpeer⟩ := hready
      cases hpeer
    | urgent => exact hready
  · rw [timedCallsOf_onSilence]
    simp [IsExact, Duration.ext_iff']

end Selector

end FrameSocket
