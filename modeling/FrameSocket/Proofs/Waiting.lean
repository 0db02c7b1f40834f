import FrameSocket.Selector

/-!
# How a selector polls and waits

`Polls` has one rule for each way in which a poll ends, and `Awaits` one for each turn of
the waits in it.  As long as the waits go on nothing has been found, so that the peers that
were ready beforehand are what every turn begins with.

A view of a poller is a map to another kind of poller that commutes with every call.  A
selector cannot tell a poller from its view.

What holds from a poller to the one that any single call leaves holds from the poller
before a loop to the one after it (`Poller.IsPassage`).

## Key results

- `polls_poll` / `selects_select`: the ways in which a poll and a select go
- `awaits_await`: waiting follows the rules
- `select_view`: a select over a view
- `IsPassage.await` and its like: what every call keeps is kept by every loop
-/

namespace FrameSocket

/-! ## What is found, and stays found -/

namespace Ready

variable {r : Ready} {a b : Activity} {id id' : SocketId}

/-- `add` puts a socket into one of the lists. -/
theorem get_add (r : Ready) (a b : Activity) (id : SocketId) :
    (r.add a id).get b = if b = a then insert (r.get b) id else r.get b := by
  cases a <;> cases b <;> rfl

/-- `addIf` adds a socket to one of the lists, if the condition holds. -/
theorem mem_get_addIf {condition : Bool} : id' ∈ (r.addIf condition a id).get b ↔
    id' ∈ r.get b ∨ condition = true ∧ b = a ∧ id' = id := by
  unfold addIf
  split
  · -- What is added counts for its own activity
    rename_i hcondition
    rw [get_add]
    split
    · rename_i hb
      rw [mem_insert]
      simp [hcondition, hb]
    · rename_i hb
      simp [hb]
  · rename_i hcondition
    simp [hcondition]

/-- Nothing is ready exactly if all lists are empty. -/
theorem isEmpty_eq_true_iff : r.isEmpty = true ↔ r = {} := by
  cases r
  simp [isEmpty, and_assoc]

/-- A list with a socket is not empty. -/
theorem isEmpty_eq_false_of_mem (h : id ∈ r.get a) : r.isEmpty = false := by
  refine Bool.eq_false_iff.mpr fun hempty => ?_
  rw [isEmpty_eq_true_iff.mp hempty] at h
  cases a <;> exact absurd h List.not_mem_nil

/-- Where something is ready, there is a socket in a list. -/
theorem exists_mem_of_isEmpty_eq_false (h : r.isEmpty = false) : ∃ a id, id ∈ r.get a := by
  have hsome : r.read ≠ [] ∨ r.write ≠ [] ∨ r.urgent ≠ [] := by
    simpa [isEmpty, Decidable.imp_iff_not_or, or_assoc] using h
  rcases hsome with hread | hwrite | hurgent
  · exact ⟨.read, List.exists_mem_of_ne_nil _ hread⟩
  · exact ⟨.write, List.exists_mem_of_ne_nil _ hwrite⟩
  · exact ⟨.urgent, List.exists_mem_of_ne_nil _ hurgent⟩

end Ready

/-- A peer that can go on without any waiting, by its entry. -/
def Registration.PeerReady (r : Registration) : Activity → Prop
  | .read => r.read = true ∧ r.source = .peer true
  | .write => r.write = true ∧ ∃ pending, r.source = .peer pending
  | .urgent => False

namespace Selector

variable {π : Type} [Poller π] {rs : Registrations} {ready found : Ready} {a : Activity}
  {id : SocketId} {p q : π}

/-- `addPeer` adds a peer to what it is ready for. -/
theorem mem_addPeer {r : Registration} :
    id ∈ (addPeer ready r).get a ↔ id ∈ ready.get a ∨ r.id = id ∧ r.PeerReady a := by
  unfold addPeer
  split
  · rename_i pending hpeer
    rw [Ready.mem_get_addIf, Ready.mem_get_addIf, @eq_comm _ id]
    cases a <;> simp [Registration.PeerReady, hpeer, and_comm, and_assoc]
  · rename_i hdescriptor
    cases a <;> simp [Registration.PeerReady, hdescriptor]

/-- The peers that are ready are those that their entries make ready. -/
theorem mem_readyPeers :
    id ∈ (readyPeers rs).get a ↔ ∃ r ∈ rs, r.id = id ∧ r.PeerReady a := by
  -- The fold adds to whatever it starts from
  have hfold : ∀ ready : Ready, id ∈ (rs.foldl addPeer ready).get a ↔
      id ∈ ready.get a ∨ ∃ r ∈ rs, r.id = id ∧ r.PeerReady a := by
    induction rs with
    | nil => simp
    | cons r rs ih =>
      intro ready
      rw [List.foldl_cons, ih, mem_addPeer, or_assoc]
      simp
  have hnone : id ∉ Ready.get {} a := by cases a <;> exact List.not_mem_nil
  exact (hfold {}).trans (or_iff_right hnone)

/-- `readyPeers` has something exactly if there is a peer that is ready. -/
theorem isEmpty_readyPeers_eq_false_iff :
    (readyPeers rs).isEmpty = false ↔ ∃ r ∈ rs, ∃ a, r.PeerReady a := by
  constructor
  · intro h
    obtain ⟨a, id, hid⟩ := Ready.exists_mem_of_isEmpty_eq_false h
    obtain ⟨r, hr, -, hready⟩ := mem_readyPeers.mp hid
    exact ⟨r, hr, a, hready⟩
  · rintro ⟨r, hr, a, hready⟩
    exact Ready.isEmpty_eq_false_of_mem (mem_readyPeers.mpr ⟨r, hr, rfl, hready⟩)

/-- A report takes nothing away. -/
theorem mem_checkEvent (h : id ∈ ready.get a) (e : Event) :
    id ∈ (checkEvent rs (ready, p) e).1.get a := by
  unfold checkEvent
  split
  · exact h
  · split
    · exact h
    · exact Ready.mem_get_addIf.mpr (.inl (Ready.mem_get_addIf.mpr (.inl
        (Ready.mem_get_addIf.mpr (.inl h)))))

/-- What was found before events are checked stays found. -/
theorem mem_foldl_checkEvent (h : id ∈ ready.get a) (events : List Event) :
    id ∈ (events.foldl (checkEvent rs) (ready, p)).1.get a := by
  induction events generalizing ready p with
  | nil => exact h
  | cons e events ih => exact ih (mem_checkEvent h e)

/-- Reports that come to nothing leave nothing, which is what there was. -/
theorem eq_of_foldl_checkEvent {events : List Event}
    (h : events.foldl (checkEvent rs) (ready, p) = (found, q)) (hfound : found.isEmpty = true) :
    found = ready := by
  cases hready : ready.isEmpty with
  | true => rw [Ready.isEmpty_eq_true_iff.mp hfound, Ready.isEmpty_eq_true_iff.mp hready]
  | false =>
    obtain ⟨a, id, hid⟩ := Ready.exists_mem_of_isEmpty_eq_false hready
    have hfold : id ∈ (events.foldl (checkEvent rs) (ready, p)).1.get a :=
      mem_foldl_checkEvent hid events
    rw [h] at hfold
    exact absurd (hfound.symm.trans (Ready.isEmpty_eq_false_of_mem hfold)) (by decide)

/-! ## The turns of waiting -/

/-- The ways in which waiting goes, one rule for each turn. -/
inductive Awaits (rs : Registrations) (ready : Ready) (deadline : Option Duration) :
    Nat → π → Waited × π → Prop
  /-- No wait is left. -/
  | spent {p : π} : Awaits rs ready deadline 0 p (.unfinished, p)
  /-- The wait is interrupted, and made again without a look at the clock. -/
  | interrupted {waits : Nat} {p q : π} {e : IoError} {result : Waited × π}
      (hwait : Poller.wait p (slice p ready deadline) = (.error e, q))
      (hinterrupted : e.isInterrupted = true) (hrest : Awaits rs ready deadline waits q result) :
      Awaits rs ready deadline (waits + 1) p result
  /-- The wait fails. -/
  | failed {waits : Nat} {p q : π} {e : IoError}
      (hwait : Poller.wait p (slice p ready deadline) = (.error e, q))
      (hinterrupted : e.isInterrupted = false) :
      Awaits rs ready deadline (waits + 1) p (.failed e, q)
  /-- A socket is ready. -/
  | found {waits : Nat} {p q q' : π} {events : List Event} {found : Ready}
      (hwait : Poller.wait p (slice p ready deadline) = (.ok events, q))
      (hcheck : events.foldl (checkEvent rs) (ready, q) = (found, q'))
      (hsome : found.isEmpty = false) : Awaits rs ready deadline (waits + 1) p (.ready found, q')
  /-- None is, and the time is up. -/
  | late {waits : Nat} {p q q' : π} {events : List Event}
      (hwait : Poller.wait p (slice p ready deadline) = (.ok events, q))
      (hcheck : events.foldl (checkEvent rs) (ready, q) = (ready, q'))
      (hnone : ready.isEmpty = true) (hleft : remaining q' deadline = some .zero) :
      Awaits rs ready deadline (waits + 1) p (.late, q')
  /-- Nothing was reported, and there is time left. -/
  | idle {waits : Nat} {p q : π} {result : Waited × π}
      (hwait : Poller.wait p (slice p ready deadline) = (.ok [], q))
      (hnone : ready.isEmpty = true) (hleft : remaining q deadline ≠ some .zero)
      (hrest : Awaits rs ready deadline waits q result) :
      Awaits rs ready deadline (waits + 1) p result
  /-- What was reported comes to nothing, and there is time left. -/
  | falseReport {waits : Nat} {p q q' : π} {events : List Event} {result : Waited × π}
      (hwait : Poller.wait p (slice p ready deadline) = (.ok events, q))
      (hreported : events.isEmpty = false)
      (hcheck : events.foldl (checkEvent rs) (ready, q) = (ready, q'))
      (hnone : ready.isEmpty = true) (hleft : remaining q' deadline ≠ some .zero)
      (hrest : Awaits rs ready deadline waits
        (Poller.sleep q' (pause (remaining q' deadline))) result) :
      Awaits rs ready deadline (waits + 1) p result

/-- `await` goes in one of the ways of `Awaits`. -/
theorem awaits_await (rs : Registrations) (ready : Ready) (deadline : Option Duration)
    (waits : Nat) (p : π) : Awaits rs ready deadline waits p (await rs ready deadline waits p) := by
  induction waits generalizing p with
  | zero => exact .spent
  | succ waits ih =>
    unfold await
    split
    · rename_i e q hwait
      split
      · rename_i hinterrupted
        exact .interrupted hwait hinterrupted (ih q)
      · rename_i hinterrupted
        exact .failed hwait (Bool.eq_false_iff.mpr hinterrupted)
    · rename_i events q hwait
      rcases hcheck : events.foldl (checkEvent rs) (ready, q) with ⟨found, q'⟩
      dsimp only
      split
      · rename_i hsome
        exact .found hwait hcheck (by simpa using hsome)
      · rename_i hnone
        have hfound : found.isEmpty = true := by simpa using hnone
        cases eq_of_foldl_checkEvent hcheck hfound
        split
        · rename_i hleft
          exact .late hwait hcheck hfound hleft
        · rename_i hleft
          split
          · rename_i hidle
            cases List.isEmpty_iff.mp hidle
            cases hcheck
            exact .idle hwait hfound hleft (ih q)
          · rename_i hreported
            -- Something was reported, and nothing of it was true
            exact .falseReport hwait (Bool.eq_false_iff.mpr hreported) hcheck hfound hleft (ih _)

/-! ## The ways in which a select goes -/

/-- The ways in which a poll goes. -/
inductive Polls (s : Selector) (waits : Nat) (p : π) (budget deadline : Option Duration) :
    Selection × Selector × π → Prop
  /-- The poller refuses to watch a descriptor. -/
  | refused {e : IoError} {q : π} (hwatch : watch p [] s.registrations = (.error e, q)) :
      Polls s waits p budget deadline (.failed (.io e), s, q)
  /-- A socket is ready. -/
  | found {descriptors : List Nat} {q q' : π} {sockets : Ready}
      (hwatch : watch p [] s.registrations = (.ok descriptors, q))
      (hawait : await s.registrations (readyPeers s.registrations) deadline waits q =
        (.ready sockets, q')) :
      Polls s waits p budget deadline (.ready sockets.sorted, empty, forget q' descriptors)
  /-- The time is up. -/
  | late {descriptors : List Nat} {q q' : π}
      (hwatch : watch p [] s.registrations = (.ok descriptors, q))
      (hawait : await s.registrations (readyPeers s.registrations) deadline waits q =
        (.late, q')) :
      Polls s waits p budget deadline (.failed (.timeout budget), s, forget q' descriptors)
  /-- A wait fails. -/
  | failed {descriptors : List Nat} {q q' : π} {e : IoError}
      (hwatch : watch p [] s.registrations = (.ok descriptors, q))
      (hawait : await s.registrations (readyPeers s.registrations) deadline waits q =
        (.failed e, q')) :
      Polls s waits p budget deadline (.failed (.io e), s, forget q' descriptors)
  /-- All waits have been made. -/
  | unfinished {descriptors : List Nat} {q q' : π}
      (hwatch : watch p [] s.registrations = (.ok descriptors, q))
      (hawait : await s.registrations (readyPeers s.registrations) deadline waits q =
        (.unfinished, q')) :
      Polls s waits p budget deadline (.unfinished, s, forget q' descriptors)

/-- `poll` goes in one of the ways of `Polls`. -/
theorem polls_poll (s : Selector) (waits : Nat) (p : π) (budget deadline : Option Duration) :
    Polls s waits p budget deadline (s.poll waits p budget deadline) := by
  unfold poll
  split
  · rename_i hwatch
    exact .refused hwatch
  · rename_i descriptors q hwatch
    dsimp only
    rcases hawait : await s.registrations (readyPeers s.registrations) deadline waits q with
      ⟨waited, q'⟩
    -- Registered sockets are watched now, and the wait decides
    cases waited with
    | ready sockets => exact .found hwatch hawait
    | late => exact .late hwatch hawait
    | failed e => exact .failed hwatch hawait
    | unfinished => exact .unfinished hwatch hawait

/-- The ways in which a select goes. -/
inductive Selects (s : Selector) (waits : Nat) (p : π) : Selection × Selector × π → Prop
  /-- There is nothing to wait for, or no telling how long. -/
  | idle {outcome : Selection} (hout : ∀ found, outcome ≠ .ready found) :
      Selects s waits p (outcome, s, p)
  /-- The poller refuses to watch a descriptor. -/
  | refused {e : IoError} {q : π} (hwatch : watch p [] s.registrations = (.error e, q)) :
      Selects s waits p (.failed (.io e), s, q)
  /-- A socket is ready. -/
  | found {descriptors : List Nat} {q q' : π} {deadline : Option Duration} {sockets : Ready}
      (hwatch : watch p [] s.registrations = (.ok descriptors, q))
      (hawait : await s.registrations (readyPeers s.registrations) deadline waits q =
        (.ready sockets, q')) :
      Selects s waits p (.ready sockets.sorted, empty, forget q' descriptors)
  /-- None is. -/
  | missed {descriptors : List Nat} {q q' : π} {deadline : Option Duration} {outcome : Selection}
      {waited : Waited} (hout : ∀ found, outcome ≠ .ready found)
      (hwatch : watch p [] s.registrations = (.ok descriptors, q))
      (hawait : await s.registrations (readyPeers s.registrations) deadline waits q =
        (waited, q')) :
      Selects s waits p (outcome, s, forget q' descriptors)

/-- `select` goes in one of the ways of `Selects`. -/
theorem selects_select (s : Selector) (waits : Nat) (p : π) (seconds : Option Nat)
    (micros : Nat) : Selects s waits p (s.select waits p seconds micros) := by
  unfold select
  split
  · exact .idle nofun
  · split
    · exact .idle nofun
    · rename_i budget _
      split
      · exact .idle nofun
      · rename_i deadline _
        -- Both sums are in their range, so the selector polls
        have hpolls := polls_poll s waits p budget deadline
        generalize s.poll waits p budget deadline = result at hpolls
        cases hpolls with
        | refused hwatch => exact .refused hwatch
        | found hwatch hawait => exact .found hwatch hawait
        | late hwatch hawait => exact .missed nofun hwatch hawait
        | failed hwatch hawait => exact .missed nofun hwatch hawait
        | unfinished hwatch hawait => exact .missed nofun hwatch hawait

end Selector

/-! ## Views -/

/-- `view` commutes with every call of a poller. -/
structure Poller.IsView {π ρ : Type} [Poller π] [Poller ρ] (view : π → ρ) : Prop where
  now_view : ∀ p, Poller.now (view p) = Poller.now p
  register_view : ∀ p d id interest, Poller.register (view p) d id interest =
    ((Poller.register p d id interest).1, view (Poller.register p d id interest).2)
  deregister_view : ∀ p d, Poller.deregister (view p) d =
    ((Poller.deregister p d).1, view (Poller.deregister p d).2)
  wait_view : ∀ p t, Poller.wait (view p) t = ((Poller.wait p t).1, view (Poller.wait p t).2)
  peek_view : ∀ p d ch, Poller.peek (view p) d ch =
    ((Poller.peek p d ch).1, view (Poller.peek p d ch).2)
  sleep_view : ∀ p t, Poller.sleep (view p) t = view (Poller.sleep p t)

namespace Selector

section Views

variable {π ρ : Type} [Poller π] [Poller ρ] {view : π → ρ} (hview : Poller.IsView view)
include hview

/-- `forget` over a view. -/
theorem forget_view (p : π) (descriptors : List Nat) :
    forget (view p) descriptors = view (forget p descriptors) := by
  induction descriptors generalizing p with
  | nil => rfl
  | cons d descriptors ih =>
    have hcall : (Poller.deregister (view p) d).2 = view (Poller.deregister p d).2 :=
      congrArg Prod.snd (hview.deregister_view p d)
    exact (congrArg (forget · descriptors) hcall).trans (ih _)

/-- `watch` over a view. -/
theorem watch_view (p : π) (watched : List Nat) (rs : Registrations) :
    watch (view p) watched rs = ((watch p watched rs).1, view (watch p watched rs).2) := by
  induction rs generalizing p watched with
  | nil => rfl
  | cons r rs ih =>
    unfold watch
    split
    · exact ih p watched
    · rename_i d listening urgent _
      rw [hview.register_view]
      rcases Poller.register p d r.id (r.interest urgent) with ⟨answer, q⟩
      cases answer with
      | ok => exact ih q (watched ++ [d])
      -- What was watched before is forgotten, over the view as well
      | error e => exact congrArg _ (forget_view hview q watched)

/-- `confirmed` over a view. -/
theorem confirmed_view (p : π) (d : Nat) :
    confirmed (view p) d = ((confirmed p d).1, view (confirmed p d).2) := by
  unfold confirmed
  rw [hview.peek_view]
  rcases Poller.peek p d .regular with ⟨answer, q⟩
  cases answer <;> rfl

/-- `checkRead` over a view. -/
theorem checkRead_view (p : π) (r : Registration) (d : Nat) (listening : Bool) (e : Event) :
    checkRead (view p) r d listening e =
      ((checkRead p r d listening e).1, view (checkRead p r d listening e).2) := by
  unfold checkRead
  split
  · split
    · rfl
    · exact confirmed_view hview p d
  · rfl

/-- `checkUrgent` over a view. -/
theorem checkUrgent_view (p : π) (d : Nat) (urgent : Bool) :
    checkUrgent (view p) d urgent =
      ((checkUrgent p d urgent).1, view (checkUrgent p d urgent).2) := by
  unfold checkUrgent
  split
  · rw [hview.peek_view]
  · rfl

/-- `checkEvent` over a view. -/
theorem checkEvent_view (rs : Registrations) (ready : Ready) (p : π) (e : Event) :
    checkEvent rs (ready, view p) e =
      ((checkEvent rs (ready, p) e).1, view (checkEvent rs (ready, p) e).2) := by
  unfold checkEvent
  split
  · rfl
  · split
    · rfl
    · simp only [checkRead_view hview, checkUrgent_view hview]

/-- Checking events over a view. -/
theorem foldl_checkEvent_view (rs : Registrations) (events : List Event) (ready : Ready) (p : π) :
    events.foldl (checkEvent rs) (ready, view p) =
      ((events.foldl (checkEvent rs) (ready, p)).1,
        view (events.foldl (checkEvent rs) (ready, p)).2) := by
  induction events generalizing ready p with
  | nil => rfl
  | cons e events ih =>
    rw [List.foldl_cons, List.foldl_cons, checkEvent_view hview]
    exact ih _ _

/-- What remains of the time is the same over a view. -/
theorem remaining_view (p : π) (deadline : Option Duration) :
    remaining (view p) deadline = remaining p deadline := by
  unfold remaining
  rw [hview.now_view]

/-- `slice` is the same over a view. -/
theorem slice_view (p : π) (ready : Ready) (deadline : Option Duration) :
    slice (view p) ready deadline = slice p ready deadline := by
  unfold slice
  rw [remaining_view hview]

/-- `await` over a view. -/
theorem await_view (rs : Registrations) (ready : Ready) (deadline : Option Duration)
    (waits : Nat) (p : π) : await rs ready deadline waits (view p) =
      ((await rs ready deadline waits p).1, view (await rs ready deadline waits p).2) := by
  induction waits generalizing ready p with
  | zero => rfl
  | succ waits ih =>
    unfold await
    rw [slice_view hview, hview.wait_view]
    rcases Poller.wait p (slice p ready deadline) with ⟨answer, q⟩
    cases answer with
    | error e =>
      dsimp only
      split
      · exact ih ready q
      · rfl
    | ok events =>
      dsimp only
      rw [foldl_checkEvent_view hview]
      -- The events are checked alike, so both find the same
      rcases events.foldl (checkEvent rs) (ready, q) with ⟨found, q'⟩
      dsimp only
      split
      · rfl
      · rw [remaining_view hview]
        split
        · rfl
        · split
          · exact ih found q'
          · rw [hview.sleep_view]
            exact ih found (Poller.sleep q' _)

/-- A select does not tell a poller from its view. -/
theorem select_view (s : Selector) (waits : Nat) (p : π) (seconds : Option Nat) (micros : Nat) :
    s.select waits (view p) seconds micros =
      ((s.select waits p seconds micros).1, (s.select waits p seconds micros).2.1,
        view (s.select waits p seconds micros).2.2) := by
  unfold select
  split
  · rfl
  · split
    · rfl
    · rw [hview.now_view]
      split
      · rfl
      · -- The three parts of `poll` look at the poller through its calls only
        unfold poll
        rw [watch_view hview]
        rcases watch p [] s.registrations with ⟨answer, q⟩
        cases answer with
        | error e => rfl
        | ok descriptors =>
          dsimp only
          rw [await_view hview]
          rcases await s.registrations (readyPeers s.registrations) _ waits q with ⟨outcome, q'⟩
          dsimp only
          rw [forget_view hview]
          cases outcome <;> rfl

end Views

end Selector

/-! ## What every call keeps -/

/-- A relation between pollers that holds over any number of calls, looks at a descriptor
    among them. -/
structure Poller.IsPassage {π : Type} [Poller π] (R : π → π → Prop) : Prop where
  refl : ∀ p, R p p
  trans : ∀ {p q q'}, R p q → R q q' → R p q'
  peek : ∀ p d ch, R p (Poller.peek p d ch).2

namespace Poller.IsPassage

variable {π : Type} [Poller π] {R : π → π → Prop} (h : IsPassage R)
include h

/-- What every call keeps, `forget` does. -/
theorem forget (hderegister : ∀ p d, R p (Poller.deregister p d).2) (p : π)
    (descriptors : List Nat) : R p (Selector.forget p descriptors) := by
  induction descriptors generalizing p with
  | nil => exact h.refl p
  | cons d descriptors ih => exact h.trans (hderegister p d) (ih _)

/-- What every call keeps, `watch` does. -/
theorem watch (hregister : ∀ p d id interest, R p (Poller.register p d id interest).2)
    (hderegister : ∀ p d, R p (Poller.deregister p d).2) (p : π) (watched : List Nat)
    (rs : Registrations) : R p (Selector.watch p watched rs).2 := by
  induction rs generalizing p watched with
  | nil => exact h.refl p
  | cons r rs ih =>
    unfold Selector.watch
    split
    · exact ih p watched
    · rename_i d listening urgent _
      -- Every registration is a call, and a refused one is followed by calls that forget
      have hcall := hregister p d r.id (r.interest urgent)
      generalize Poller.register p d r.id (r.interest urgent) = answered at hcall ⊢
      rcases answered with ⟨answer, q⟩
      cases answer with
      | ok => exact h.trans hcall (ih q _)
      | error e => exact h.trans hcall (h.forget hderegister q watched)

/-- What every call keeps, `confirmed` does. -/
theorem confirmed (p : π) (d : Nat) : R p (Selector.confirmed p d).2 := by
  have hpeek := h.peek p d .regular
  unfold Selector.confirmed
  generalize Poller.peek p d .regular = answered at hpeek ⊢
  rcases answered with ⟨answer, q⟩
  cases answer <;> exact hpeek

/-- What every call keeps, `checkRead` does. -/
theorem checkRead (p : π) (r : Registration) (d : Nat) (listening : Bool) (e : Event) :
    R p (Selector.checkRead p r d listening e).2 := by
  unfold Selector.checkRead
  split
  · split
    · exact h.refl p
    · exact h.confirmed p d
  · exact h.refl p

/-- What every call keeps, `checkUrgent` does. -/
theorem checkUrgent (p : π) (d : Nat) (urgent : Bool) :
    R p (Selector.checkUrgent p d urgent).2 := by
  unfold Selector.checkUrgent
  split
  · exact h.peek p d .urgent
  · exact h.refl p

/-- What every call keeps, `checkEvent` does. -/
theorem checkEvent (rs : Registrations) (ready : Ready) (p : π) (e : Event) :
    R p (Selector.checkEvent rs (ready, p) e).2 := by
  unfold Selector.checkEvent
  split
  · exact h.refl p
  · split
    · exact h.refl p
    · exact h.trans (h.checkRead p _ _ _ e) (h.checkUrgent _ _ _)

/-- What every call keeps, checking events does. -/
theorem foldl_checkEvent (rs : Registrations) (events : List Event) (ready : Ready) (p : π) :
    R p (events.foldl (Selector.checkEvent rs) (ready, p)).2 := by
  induction events generalizing ready p with
  | nil => exact h.refl p
  | cons e events ih => exact h.trans (h.checkEvent rs ready p e) (ih _ _)

/-- What every call keeps, each of the ways of `Awaits` does. -/
theorem awaits {rs : Registrations} {ready : Ready} {deadline : Option Duration}
    {waits : Nat} {p : π} {result : Selector.Waited × π}
    (hwait : ∀ p, R p (Poller.wait p (Selector.slice p ready deadline)).2)
    (hsleep : ∀ p t, R p (Poller.sleep p t))
    (hawaits : Selector.Awaits rs ready deadline waits p result) : R p result.2 := by
  -- One wait, and what was reported
  have hanswered : ∀ {p q : π} {answer : Except IoError (List Event)},
      Poller.wait p (Selector.slice p ready deadline) = (answer, q) → R p q := by
    intro p q answer hanswer
    have hcall := hwait p
    rw [hanswer] at hcall
    exact hcall
  have hchecked : ∀ {p q : π} {events : List Event} {found : Ready},
      events.foldl (Selector.checkEvent rs) (ready, p) = (found, q) → R p q := by
    intro p q events found hcheck
    have hfold := h.foldl_checkEvent rs events ready p
    rw [hcheck] at hfold
    exact hfold
  induction hawaits with
  | spent => exact h.refl _
  | interrupted hanswer _ _ ih => exact h.trans (hanswered hanswer) ih
  | failed hanswer _ => exact hanswered hanswer
  | found hanswer hcheck _ => exact h.trans (hanswered hanswer) (hchecked hcheck)
  | late hanswer hcheck _ _ => exact h.trans (hanswered hanswer) (hchecked hcheck)
  | idle hanswer _ _ _ ih => exact h.trans (hanswered hanswer) ih
  | falseReport hanswer _ hcheck _ _ _ ih =>
    exact h.trans (h.trans (hanswered hanswer) (hchecked hcheck)) (h.trans (hsleep _ _) ih)

/-- What every call keeps, `await` does. -/
theorem await {ready : Ready} {deadline : Option Duration}
    (hwait : ∀ p, R p (Poller.wait p (Selector.slice p ready deadline)).2)
    (hsleep : ∀ p t, R p (Poller.sleep p t)) (rs : Registrations) (waits : Nat) (p : π) :
    R p (Selector.await rs ready deadline waits p).2 :=
  h.awaits hwait hsleep (Selector.awaits_await rs ready deadline waits p)

end Poller.IsPassage

end FrameSocket
