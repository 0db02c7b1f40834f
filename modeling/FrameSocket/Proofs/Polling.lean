import FrameSocket.Proofs.Waiting

/-!
# The calls of a selector, and what they were answered

An observed poller puts every call that a selector makes on record, with its answer and in
its order.  Nobody sees the record: a select over an observed poller is the one over the
bare poller.  So a statement about the calls of a select is one about `callsOf`, for bare
pollers.

From the record it can be told which descriptors the poller watches.  A select lets it
forget all that it has let it watch, however the select ends.

## Key results

- `select_observed`: a select over an observed poller is the bare one, and a record of it
- `watched_select`: no select leaves a descriptor watched
-/

namespace FrameSocket

/-! ## Calls on record -/

/-- One call of a poller, with its answer. -/
inductive PollerCall where
  | register (descriptor : Nat) (id : SocketId) (interest : Interest)
      (answer : Except IoError Unit)
  | deregister (descriptor : Nat) (answer : Except IoError Unit)
  | wait (timeout : Duration) (answer : Except IoError (List Event))
  | peek (descriptor : Nat) (ch : Channel) (answer : Except IoError Nat)
  | sleep (time : Duration)

/-- Whether a call waits. -/
def PollerCall.isWait : PollerCall → Bool
  | .wait .. => true
  | _ => false

/-- A poller, and the calls made on it, the first one in front. -/
structure Observed (π : Type) where
  poller : π
  calls : List PollerCall

namespace Observed

variable {π : Type}

/-- A poller with no call on record. -/
def start (p : π) : Observed π := ⟨p, []⟩

variable [Poller π]

instance : Poller (Observed π) where
  now p := Poller.now p.poller
  register p d id interest :=
    let (answer, q) := Poller.register p.poller d id interest
    (answer, ⟨q, p.calls ++ [.register d id interest answer]⟩)
  deregister p d :=
    let (answer, q) := Poller.deregister p.poller d
    (answer, ⟨q, p.calls ++ [.deregister d answer]⟩)
  wait p timeout :=
    let (answer, q) := Poller.wait p.poller timeout
    (answer, ⟨q, p.calls ++ [.wait timeout answer]⟩)
  peek p d ch :=
    let (answer, q) := Poller.peek p.poller d ch
    (answer, ⟨q, p.calls ++ [.peek d ch answer]⟩)
  sleep p t := ⟨Poller.sleep p.poller t, p.calls ++ [.sleep t]⟩

/-- The number of waits on record. -/
def waits (p : Observed π) : Nat := p.calls.countP PollerCall.isWait

/-- `Poller.wait` is counted. -/
theorem waits_wait (p : Observed π) (t : Duration) : (Poller.wait p t).2.waits = p.waits + 1 :=
  List.countP_append

omit [Poller π] in
/-- No other call is counted. -/
theorem waits_of_call {p q : Observed π} {call : PollerCall}
    (hcalls : q.calls = p.calls ++ [call]) (hcall : call.isWait = false) : q.waits = p.waits := by
  simp [waits, hcalls, hcall]

/-- The bare poller is a view. -/
theorem isView : Poller.IsView (Observed.poller (π := π)) :=
  ⟨fun _ => rfl, fun _ _ _ _ => rfl, fun _ _ => rfl, fun _ _ => rfl, fun _ _ _ => rfl,
    fun _ _ => rfl⟩

end Observed

namespace Selector

variable {π : Type} [Poller π]

/-! ## Nobody sees the record -/

/-- A select does not see the record of its calls. -/
theorem select_observed (s : Selector) (waits : Nat) (p : Observed π) (seconds : Option Nat)
    (micros : Nat) : s.select waits p.poller seconds micros =
      ((s.select waits p seconds micros).1, (s.select waits p seconds micros).2.1,
        (s.select waits p seconds micros).2.2.poller) :=
  select_view Observed.isView s waits p seconds micros

/-- The calls that a select makes, with their answers. -/
def callsOf (s : Selector) (waits : Nat) (p : π) (seconds : Option Nat) (micros : Nat) :
    List PollerCall :=
  (s.select waits (Observed.start p) seconds micros).2.2.calls

end Selector

/-! ## Watched descriptors -/

/-- The descriptors that a poller watches after one more call. -/
def PollerCall.watchedAfter (watched : List Nat) : PollerCall → List Nat
  | .register d _ _ (.ok ()) => watched ++ [d]
  | .deregister d (.ok ()) => watched.filter (· ≠ d)
  | _ => watched

/-- The descriptors that a poller watches after some calls. -/
def watchedAfter (calls : List PollerCall) : List Nat := calls.foldl PollerCall.watchedAfter []

/-- Whether a call leaves alone what the poller watches. -/
def PollerCall.looks : PollerCall → Bool
  | .register .. | .deregister .. => false
  | .wait .. | .peek .. | .sleep .. => true

/-- Deregistering a descriptor that is watched never fails. -/
def Forgets (calls : List PollerCall) : Prop :=
  ∀ before d e after, calls = before ++ .deregister d (.error e) :: after →
    d ∉ watchedAfter before

/-- What is watched after one more call. -/
theorem watchedAfter_concat (calls : List PollerCall) (call : PollerCall) :
    watchedAfter (calls ++ [call]) = call.watchedAfter (watchedAfter calls) := by
  rw [watchedAfter, List.foldl_append]
  rfl

/-- Calls that only look leave what is watched. -/
theorem foldl_watchedAfter_of_looks {calls : List PollerCall} (h : ∀ x ∈ calls, x.looks = true)
    (watched : List Nat) : calls.foldl PollerCall.watchedAfter watched = watched := by
  induction calls with
  | nil => rfl
  | cons x calls ih =>
    have hsame : x.watchedAfter watched = watched := by
      have hx := h x List.mem_cons_self
      cases x <;> first | rfl | exact nomatch hx
    rw [List.foldl_cons, hsame]
    exact ih fun y hy => h y (List.mem_cons_of_mem _ hy)

/-- Calls that `Forgets` holds of begin with such calls. -/
theorem Forgets.of_prefix {calls calls' : List PollerCall} (h : Forgets calls')
    (hbefore : calls <+: calls') : Forgets calls := by
  rintro before d e after rfl
  obtain ⟨later, rfl⟩ := hbefore
  exact h before d e (after ++ later) (by simp)

namespace Selector

variable {π : Type} [Poller π]

/-! Between watching and forgetting, the poller is only looked at. -/

/-- From `p` to `q` nothing was registered or deregistered. -/
def Looks (p q : Observed π) : Prop :=
  ∃ calls, q.calls = p.calls ++ calls ∧ ∀ x ∈ calls, x.looks = true

namespace Looks

variable {p q q' : Observed π}

omit [Poller π] in
/-- Making no calls is `Looks`. -/
theorem refl (p : Observed π) : Looks p p :=
  ⟨[], (List.append_nil _).symm, fun _ hx => absurd hx List.not_mem_nil⟩

omit [Poller π] in
/-- Calls of two steps that follow each other. -/
theorem trans (h : Looks p q) (h' : Looks q q') : Looks p q' := by
  obtain ⟨calls, hcalls, hlooks⟩ := h
  obtain ⟨calls', hcalls', hlooks'⟩ := h'
  refine ⟨calls ++ calls', by rw [hcalls', hcalls, List.append_assoc], fun x hx => ?_⟩
  exact (List.mem_append.mp hx).elim (hlooks x) (hlooks' x)

omit [Poller π] in
/-- One more call that only looks. -/
theorem of_call {x : PollerCall} (hcalls : q.calls = p.calls ++ [x]) (hlooks : x.looks = true) :
    Looks p q := by
  refine ⟨[x], hcalls, fun y hy => ?_⟩
  rw [List.mem_singleton.mp hy]
  exact hlooks

omit [Poller π] in
/-- What is on record stays there. -/
theorem mem (h : Looks p q) {x : PollerCall} (hx : x ∈ p.calls) : x ∈ q.calls := by
  obtain ⟨calls, hcalls, -⟩ := h
  rw [hcalls]
  exact List.mem_append_left _ hx

omit [Poller π] in
/-- The poller watches what it did. -/
theorem watchedAfter_eq (h : Looks p q) : watchedAfter q.calls = watchedAfter p.calls := by
  obtain ⟨calls, hcalls, hlooks⟩ := h
  rw [hcalls, watchedAfter, List.foldl_append]
  exact foldl_watchedAfter_of_looks hlooks _

/-- `Looks` holds along any wait. -/
theorem isPassage : Poller.IsPassage (Looks (π := π)) :=
  ⟨refl, trans, fun _ _ _ => of_call rfl rfl⟩

/-- `await` only looks. -/
theorem await (rs : Registrations) (ready : Ready) (deadline : Option Duration) (waits : Nat)
    (p : Observed π) : Looks p (Selector.await rs ready deadline waits p).2 :=
  isPassage.await (fun _ => of_call rfl rfl) (fun _ _ => of_call rfl rfl) rs waits p

end Looks

/-! ## The number of waits -/

/-- All calls but a wait leave the number of waits as it is. -/
theorem isPassage_waits : Poller.IsPassage fun p q : Observed π => q.waits = p.waits :=
  ⟨fun _ => rfl, fun h h' => h'.trans h, fun _ _ _ => Observed.waits_of_call rfl rfl⟩

/-- `forget` does not wait. -/
theorem waits_forget (p : Observed π) (descriptors : List Nat) :
    (forget p descriptors).waits = p.waits :=
  isPassage_waits.forget (fun _ _ => Observed.waits_of_call rfl rfl) p descriptors

/-- `watch` does not wait. -/
theorem waits_watch {p q : Observed π} {watched : List Nat} {rs : Registrations}
    {answer : Except IoError (List Nat)} (h : watch p watched rs = (answer, q)) :
    q.waits = p.waits := by
  have hwatch := isPassage_waits.watch (fun _ _ _ _ => Observed.waits_of_call rfl rfl)
    (fun _ _ => Observed.waits_of_call rfl rfl) p watched rs
  rw [h] at hwatch
  exact hwatch

/-- Checking events does not wait. -/
theorem waits_foldl_checkEvent {p q : Observed π} {rs : Registrations} {events : List Event}
    {ready found : Ready} (h : events.foldl (checkEvent rs) (ready, p) = (found, q)) :
    q.waits = p.waits := by
  have hfold := isPassage_waits.foldl_checkEvent rs events ready p
  rw [h] at hfold
  exact hfold

/-- Waiting that is not finished has made all its waits. -/
theorem waits_await_unfinished {p q : Observed π} {rs : Registrations} {ready : Ready}
    {deadline : Option Duration} {waits : Nat}
    (h : await rs ready deadline waits p = (.unfinished, q)) : q.waits = p.waits + waits := by
  have hawaits := awaits_await rs ready deadline waits p
  rw [h] at hawaits
  clear h
  -- One more wait on record
  have hwait : ∀ {p q : Observed π} {answer : Except IoError (List Event)},
      Poller.wait p (slice p ready deadline) = (answer, q) → q.waits = p.waits + 1 := by
    rintro p q answer ⟨⟩
    exact Observed.waits_wait p _
  generalize hresult : (Waited.unfinished, q) = result at hawaits
  induction hawaits with
  | spent =>
    cases hresult
    rfl
  | interrupted hanswer _ _ ih => rw [ih hresult, hwait hanswer]; omega
  | failed => cases hresult
  | found => cases hresult
  | late => cases hresult
  | idle hanswer _ _ _ ih => rw [ih hresult, hwait hanswer]; omega
  | falseReport hanswer _ hcheck _ _ _ ih =>
    rw [ih hresult, Observed.waits_of_call rfl rfl, waits_foldl_checkEvent hcheck, hwait hanswer]
    omega

/-! ## No select leaves a descriptor watched -/

omit [Poller π] in
/-- A descriptor that is deregistered is not watched any more, however that ends. -/
theorem watchedAfter_deregister {calls : List PollerCall} {d : Nat} {answer : Except IoError Unit}
    (h : Forgets (calls ++ [.deregister d answer])) :
    watchedAfter (calls ++ [.deregister d answer]) = (watchedAfter calls).filter (· ≠ d) := by
  rw [watchedAfter_concat]
  cases answer with
  | ok => rfl
  | error e =>
    have hd : d ∉ watchedAfter calls := h calls d e [] rfl
    refine (List.filter_eq_self.mpr fun d' hd' => ?_).symm
    exact decide_eq_true fun heq => hd (heq ▸ hd')

/-- What is on record stays there. -/
theorem isPassage_calls : Poller.IsPassage fun p q : Observed π => p.calls <+: q.calls :=
  ⟨fun _ => List.prefix_refl _, List.IsPrefix.trans, fun _ _ _ => List.prefix_append _ _⟩

/-- `forget` adds to the calls on record. -/
theorem calls_forget (p : Observed π) (descriptors : List Nat) :
    p.calls <+: (forget p descriptors).calls :=
  isPassage_calls.forget (fun _ _ => List.prefix_append _ _) p descriptors

/-- `forget` leaves nothing watched, as long as deregistering works. -/
theorem watchedAfter_forget {p : Observed π} {descriptors : List Nat}
    (h : Forgets (forget p descriptors).calls)
    (hall : ∀ d ∈ watchedAfter p.calls, d ∈ descriptors) :
    watchedAfter (forget p descriptors).calls = [] := by
  induction descriptors generalizing p with
  | nil => exact List.eq_nil_iff_forall_not_mem.mpr fun d hd => List.not_mem_nil (hall d hd)
  | cons d descriptors ih =>
    refine ih (p := (Poller.deregister p d).2) h fun d' hd' => ?_
    -- What is still watched is not the descriptor that was forgotten just now
    have hlater : (Poller.deregister p d).2.calls <+: _ := calls_forget _ descriptors
    have hforgot : watchedAfter (Poller.deregister p d).2.calls = _ :=
      watchedAfter_deregister (h.of_prefix hlater)
    rw [hforgot, List.mem_filter] at hd'
    exact List.mem_of_ne_of_mem (of_decide_eq_true hd'.2) (hall d' hd'.1)

/-- Watching keeps count of all that the poller watches, and forgets it if it fails. -/
theorem watchedAfter_watch {p q : Observed π} {watched : List Nat} {rs : Registrations}
    {answer : Except IoError (List Nat)} (hall : ∀ d ∈ watchedAfter p.calls, d ∈ watched)
    (h : watch p watched rs = (answer, q)) :
    (∀ descriptors, answer = .ok descriptors → ∀ d ∈ watchedAfter q.calls, d ∈ descriptors) ∧
      (∀ e, answer = .error e → Forgets q.calls → watchedAfter q.calls = []) := by
  induction rs generalizing p watched with
  | nil =>
    cases h
    refine ⟨fun descriptors heq => ?_, nofun⟩
    cases heq
    exact hall
  | cons r rs ih =>
    unfold watch at h
    split at h
    · exact ih hall h
    · rename_i d listening urgent _
      rcases hregister : Poller.register p d r.id (r.interest urgent) with ⟨registered, q'⟩
      have hcalls : q'.calls = p.calls ++ [.register d r.id (r.interest urgent) registered] := by
        cases hregister
        rfl
      rw [hregister] at h
      cases registered with
      | ok =>
        refine ih (fun d' hd' => ?_) h
        rw [hcalls, watchedAfter_concat] at hd'
        exact List.mem_append.mpr ((List.mem_append.mp hd').imp_left (hall d'))
      | error e =>
        -- The failing registration watches nothing, and those before it are forgotten
        cases h
        refine ⟨nofun, fun _ _ hforgets => ?_⟩
        refine watchedAfter_forget hforgets fun d' hd' => ?_
        rw [hcalls, watchedAfter_concat] at hd'
        exact hall d' hd'

/-- However a select ends, the poller watches nothing on its behalf afterwards. -/
theorem watchedAfter_callsOf (s : Selector) (waits : Nat) (p : π) (seconds : Option Nat)
    (micros : Nat) (h : Forgets (s.callsOf waits p seconds micros)) :
    watchedAfter (s.callsOf waits p seconds micros) = [] := by
  have hselects := selects_select s waits (Observed.start p) seconds micros
  unfold callsOf at h ⊢
  generalize s.select waits (Observed.start p) seconds micros = result at hselects h
  -- Waiting only looks, so that what is forgotten at the end is all that is watched
  have hend : ∀ {descriptors q q' deadline waited},
      watch (Observed.start p) [] s.registrations = (.ok descriptors, q) →
      await s.registrations (readyPeers s.registrations) deadline waits q = (waited, q') →
      Forgets (forget q' descriptors).calls →
      watchedAfter (forget q' descriptors).calls = [] := by
    intro descriptors q q' deadline waited hwatch hawait hforgets
    have hlooks := Looks.await s.registrations (readyPeers s.registrations) deadline waits q
    rw [hawait] at hlooks
    refine watchedAfter_forget hforgets fun d hd => ?_
    rw [hlooks.watchedAfter_eq] at hd
    exact (watchedAfter_watch (fun _ hd => hd) hwatch).1 _ rfl d hd
  cases hselects with
  | idle => rfl
  | refused hwatch => exact (watchedAfter_watch (fun _ hd => hd) hwatch).2 _ rfl h
  | found hwatch hawait => exact hend hwatch hawait h
  | missed _ hwatch hawait => exact hend hwatch hawait h

end Selector

end FrameSocket
