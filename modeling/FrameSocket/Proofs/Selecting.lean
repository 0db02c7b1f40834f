import FrameSocket.Proofs.Polling
import FrameSocket.Proofs.Registered

/-!
# What a select finds

Whatever a poller reports, a select answers only what it was asked for.  Each of its three
lists holds the sockets that are entitled to be in it: those whose entry wants the
operation, and for the urgent list those that have an urgent channel at all.  A socket that
is left to the poller is in the first list only if it is listening, or if a peek that is on
record did not find it empty.

## Key results

- `Found.addIf`: what is found is entitled to be
- `found_await`: all through the waits
- `History.Holds.run`: the table agrees with the history, along every run
- `selects_run`: runs of a selector, and any select after them
-/

namespace FrameSocket

/-! ## What is found -/

namespace Ready

/-- `sorted` sorts each of the lists. -/
theorem get_sorted (r : Ready) (a : Activity) : r.sorted.get a = SocketId.sorted (r.get a) := by
  cases a <;> rfl

/-- Sorting leaves a list empty that was so. -/
theorem isEmpty_sorted (r : Ready) : r.sorted.isEmpty = r.isEmpty := by
  have hlist : ∀ ids, (SocketId.sorted ids).isEmpty = ids.isEmpty := by
    intro ids
    rw [Bool.eq_iff_iff, List.isEmpty_iff_length_eq_zero, List.isEmpty_iff_length_eq_zero,
      SocketId.sorted, List.length_mergeSort]
  simp only [isEmpty, sorted, hlist]

end Ready

/-- Sorting a list without duplicates puts its handles in ascending order. -/
theorem SocketId.sorted_ascending {ids : List SocketId} (h : ids.Nodup) :
    (sorted ids).Pairwise (· < ·) := by
  have hle : (sorted ids).Pairwise fun a b => decide (a ≤ b) = true := by
    apply List.pairwise_mergeSort
    · intro a b c hab hbc
      exact decide_eq_true (Nat.le_trans (of_decide_eq_true hab) (of_decide_eq_true hbc))
    · intro a b
      rcases Nat.le_total a.number b.number with hab | hba
      · exact Bool.or_eq_true_iff.mpr (.inl (decide_eq_true hab))
      · exact Bool.or_eq_true_iff.mpr (.inr (decide_eq_true hba))
  -- Sorted and without duplicates is ascending
  have hnodup : (sorted ids).Nodup := (List.mergeSort_perm ids _).nodup_iff.mpr h
  refine (hle.and hnodup).imp fun {a b} hab => ?_
  refine Nat.lt_of_le_of_ne (of_decide_eq_true hab.1) fun heq => hab.2 ?_
  exact congrArg SocketId.mk heq

namespace Selector

/-- A peek on record did not find the descriptor empty. -/
def Confirmed (calls : List PollerCall) (d : Nat) : Prop :=
  ∃ answer, PollerCall.peek d .regular answer ∈ calls ∧
    ∀ e, answer = .error e → e.isBlocked = false

/-- Whether an entry may be found ready for something, by the calls that are on record. -/
def Entitled (calls : List PollerCall) (r : Registration) : Activity → Prop
  | .read => r.read = true ∧
      match r.source with
      | .peer pending => pending = true
      | .descriptor d listening _ => listening = true ∨ Confirmed calls d
  | .write => r.write = true
  | .urgent => ∃ d listening, r.source = .descriptor d listening true ∧
      .peek d .urgent (.ok 1) ∈ calls

/-- All that was found is entitled to be, and nothing was found twice. -/
structure Found (rs : Registrations) (calls : List PollerCall) (ready : Ready) : Prop where
  entitled : ∀ a, ∀ id ∈ ready.get a, ∃ r ∈ rs, r.id = id ∧ Entitled calls r a
  nodup : ∀ a, (ready.get a).Nodup

/-- What calls entitle to, more of them do, too. -/
theorem Entitled.mono {calls calls' : List PollerCall} {r : Registration} {a : Activity}
    (h : Entitled calls r a) (hcalls : ∀ x ∈ calls, x ∈ calls') : Entitled calls' r a := by
  cases a with
  | read =>
    obtain ⟨hread, hsource⟩ := h
    refine ⟨hread, ?_⟩
    split
    · rename_i pending hpeer
      rw [hpeer] at hsource
      exact hsource
    · rename_i d listening urgent hdescriptor
      rw [hdescriptor] at hsource
      refine hsource.imp_right ?_
      rintro ⟨answer, hpeek, hanswer⟩
      exact ⟨answer, hcalls _ hpeek, hanswer⟩
  -- The poller's word is enough for writing
  | write => exact h
  | urgent =>
    obtain ⟨d, listening, hsource, hpeek⟩ := h
    exact ⟨d, listening, hsource, hcalls _ hpeek⟩

namespace Found

variable {rs : Registrations} {calls calls' : List PollerCall} {ready : Ready} {r : Registration}
  {a : Activity} {condition : Bool}

/-- Nothing needs no grounds. -/
theorem empty : Found rs calls {} := by
  constructor
  · intro a id hid
    cases a <;> exact nomatch hid
  · intro a
    cases a <;> exact List.nodup_nil

/-- What was found among calls is found among more of them. -/
theorem mono (h : Found rs calls ready) (hcalls : ∀ x ∈ calls, x ∈ calls') :
    Found rs calls' ready := by
  refine ⟨fun a id hid => ?_, h.nodup⟩
  obtain ⟨r, hr, heq, hentitled⟩ := h.entitled a id hid
  exact ⟨r, hr, heq, hentitled.mono hcalls⟩

/-- What is added has to be entitled. -/
theorem addIf (h : Found rs calls ready) (hr : r ∈ rs)
    (hentitled : condition = true → Entitled calls r a) :
    Found rs calls (ready.addIf condition a r.id) := by
  unfold Ready.addIf
  split
  · -- one socket is added to one of the lists
    rename_i hcondition
    constructor
    · intro b id hid
      rw [Ready.get_add] at hid
      split at hid
      · rename_i hb
        subst hb
        rcases Ready.mem_insert.mp hid with hid | rfl
        · exact h.entitled b id hid
        · exact ⟨r, hr, rfl, hentitled hcondition⟩
      · exact h.entitled b id hid
    · intro b
      rw [Ready.get_add]
      split
      · exact Ready.nodup_insert (h.nodup b) r.id
      · exact h.nodup b
  · exact h

/-- Sorting changes nothing about it. -/
theorem sorted (h : Found rs calls ready) : Found rs calls ready.sorted := by
  constructor
  · intro a id hid
    rw [Ready.get_sorted] at hid
    exact h.entitled a id (List.mem_mergeSort.mp hid)
  · intro a
    rw [Ready.get_sorted]
    exact (List.mergeSort_perm _ _).nodup_iff.mpr (h.nodup a)

/-! Peers -/

/-- `addPeer` finds a peer that holds its datagram. -/
theorem addPeer (h : Found rs calls ready) (hr : r ∈ rs) :
    Found rs calls (Selector.addPeer ready r) := by
  unfold Selector.addPeer
  split
  · rename_i pending hpeer
    refine .addIf (.addIf h hr fun hcondition => ?_) hr fun hwrite => hwrite
    obtain ⟨hread, hpending⟩ := Bool.and_eq_true_iff.mp hcondition
    refine ⟨hread, ?_⟩
    rw [hpeer]
    exact hpending
  · exact h

/-- `readyPeers` finds the peers that hold their datagrams. -/
theorem readyPeers (rs : Registrations) : Found rs calls (readyPeers rs) := by
  have hfold : ∀ rs' : Registrations, (∀ r ∈ rs', r ∈ rs) → ∀ ready, Found rs calls ready →
      Found rs calls (rs'.foldl Selector.addPeer ready) := by
    intro rs'
    induction rs' with
    | nil => exact fun _ ready h => h
    | cons r rs' ih =>
      intro hall ready h
      refine ih (fun r' hr' => hall r' (List.mem_cons_of_mem _ hr')) _ ?_
      exact h.addPeer (hall r List.mem_cons_self)
  exact hfold rs (fun _ hr => hr) {} empty

end Found

/-! Reported sockets -/

section Reports

variable {π : Type} [Poller π] {rs : Registrations} {p q : Observed π}

/-- A peek that was answered is on record. -/
theorem confirmed_of_confirmed {d : Nat} (h : confirmed p d = (true, q)) : Confirmed q.calls d := by
  unfold confirmed at h
  rcases hpeek : Poller.peek p d .regular with ⟨answer, q'⟩
  -- The peek is on record, and it did not find the socket empty
  have hcalls : PollerCall.peek d .regular answer ∈ q'.calls := by
    cases hpeek
    exact List.mem_append_right _ (List.mem_singleton_self _)
  rw [hpeek] at h
  cases answer with
  | ok n =>
    cases h
    exact ⟨_, hcalls, nofun⟩
  | error e =>
    obtain ⟨hblocked, rfl⟩ := Prod.mk.inj h
    refine ⟨_, hcalls, fun e' heq => ?_⟩
    cases heq
    simpa using hblocked

/-- `checkRead` finds only what the calls entitle to. -/
theorem entitled_of_checkRead {r : Registration} {d : Nat} {listening urgent : Bool} {e : Event}
    (hsource : r.source = .descriptor d listening urgent)
    (h : checkRead p r d listening e = (true, q)) : Entitled q.calls r .read := by
  unfold checkRead at h
  split at h
  · rename_i hcondition
    refine ⟨(Bool.and_eq_true_iff.mp hcondition).1, ?_⟩
    rw [hsource]
    split at h
    · -- A listening socket is taken at the poller's word
      rename_i hlistening
      exact .inl hlistening
    · exact .inr (confirmed_of_confirmed h)
  · exact nomatch h

/-- `checkUrgent` finds only what the calls entitle to. -/
theorem entitled_of_checkUrgent {r : Registration} {d : Nat} {listening urgent : Bool}
    (hsource : r.source = .descriptor d listening urgent)
    (h : checkUrgent p d urgent = (true, q)) : Entitled q.calls r .urgent := by
  unfold checkUrgent at h
  split at h
  · rename_i hurgent
    subst hurgent
    rcases hpeek : Poller.peek p d .urgent with ⟨answer, q'⟩
    have hcalls : PollerCall.peek d .urgent answer ∈ q'.calls := by
      cases hpeek
      exact List.mem_append_right _ (List.mem_singleton_self _)
    rw [hpeek] at h
    cases answer with
    | ok n =>
      obtain ⟨hone, rfl⟩ := Prod.mk.inj h
      -- The peek has seen the one byte
      rw [of_decide_eq_true hone] at hcalls
      exact ⟨d, listening, hsource, hcalls⟩
    | error e => exact nomatch (Prod.mk.inj h).1
  · exact nomatch h

/-- `checkEvent` finds only what the calls entitle to. -/
theorem found_checkEvent {ready : Ready} (h : Found rs p.calls ready) (hrs : rs.IsTable)
    (e : Event) :
    Found rs (checkEvent rs (ready, p) e).2.calls (checkEvent rs (ready, p) e).1 := by
  unfold checkEvent
  split
  · exact h
  · rename_i r hfound
    obtain ⟨hr, hid⟩ := hrs.find?_eq_some_iff.mp hfound
    split
    · exact h
    · rename_i d listening urgent hsource
      rcases hread : checkRead p r d listening e with ⟨readable, q⟩
      rcases hurgent : checkUrgent q d urgent with ⟨hasUrgent, q'⟩
      have hlooks := Looks.isPassage.checkRead p r d listening e
      have hlooks' := Looks.isPassage.checkUrgent q d urgent
      rw [hread] at hlooks
      rw [hurgent] at hlooks'
      -- Both peeks are on record before anything is found
      have hlater : Found rs q'.calls ready := h.mono fun x hx => hlooks'.mem (hlooks.mem hx)
      simp only [hread, hurgent]
      rw [← hid]
      refine .addIf (.addIf (.addIf hlater hr ?_) hr ?_) hr ?_
      · rintro rfl
        exact (entitled_of_checkRead hsource hread).mono fun x hx => hlooks'.mem hx
      · exact fun hwrite => (Bool.and_eq_true_iff.mp hwrite).1
      · rintro rfl
        exact entitled_of_checkUrgent hsource hurgent

/-- So do several events. -/
theorem found_foldl_checkEvent {ready : Ready} (h : Found rs p.calls ready) (hrs : rs.IsTable)
    (events : List Event) :
    Found rs (events.foldl (checkEvent rs) (ready, p)).2.calls
      (events.foldl (checkEvent rs) (ready, p)).1 := by
  induction events generalizing ready p with
  | nil => exact h
  | cons e events ih => exact ih (found_checkEvent h hrs e)

/-- What waiting ends with has been found, and is not nothing. -/
theorem found_await {ready found : Ready} {deadline : Option Duration} {waits : Nat}
    (h : Found rs p.calls ready) (hrs : rs.IsTable)
    (hawait : await rs ready deadline waits p = (.ready found, q)) :
    Found rs q.calls found ∧ found.isEmpty = false := by
  have hawaits := awaits_await rs ready deadline waits p
  rw [hawait] at hawaits
  clear hawait
  -- One wait, and what was reported
  have hwait : ∀ {p q : Observed π} {answer : Except IoError (List Event)},
      Poller.wait p (slice p ready deadline) = (answer, q) → Found rs p.calls ready →
      Found rs q.calls ready := by
    intro p q answer hanswer h
    cases hanswer
    exact h.mono fun x hx => List.mem_append_left _ hx
  have hchecked : ∀ {p q : Observed π} {events : List Event} {ready' : Ready},
      events.foldl (checkEvent rs) (ready, p) = (ready', q) → Found rs p.calls ready →
      Found rs q.calls ready' := by
    intro p q events ready' hcheck h
    have hfold := found_foldl_checkEvent h hrs events
    rw [hcheck] at hfold
    exact hfold
  generalize hresult : (Waited.ready found, q) = result at hawaits
  induction hawaits with
  | spent => cases hresult
  | interrupted hanswer _ _ ih => exact ih (hwait hanswer h) hresult
  | failed => cases hresult
  | found hanswer hcheck hsome =>
    cases hresult
    exact ⟨hchecked hcheck (hwait hanswer h), hsome⟩
  | late => cases hresult
  | idle hanswer _ _ _ ih => exact ih (hwait hanswer h) hresult
  | falseReport hanswer _ hcheck _ _ _ ih =>
    have hfound := hchecked hcheck (hwait hanswer h)
    exact ih (hfound.mono fun x hx => List.mem_append_left _ hx) hresult

end Reports

/-! ## Runs -/

section Runs

variable {π : Type} [Poller π]

/-- One step of a run of a selector.  Each select meets a poller in any state, so that
    whatever happens between two of them is covered, too. -/
inductive Step (π : Type) where
  | add (socket : Socket) (op : Operation)
  | remove (id : SocketId) (op : Operation)
  | removeAll (id : SocketId)
  | shutdown
  | select (waits : Nat) (p : π) (seconds : Option Nat) (micros : Nat)

/-- A selector, and what has been done to it, the latest deed in front. -/
structure History where
  selector : Selector
  past : List Deed

/-- A select uses all registrations up if it finds something, and keeps them otherwise. -/
theorem selector_select (s : Selector) (waits : Nat) (p : π) (seconds : Option Nat)
    (micros : Nat) :
    (∀ found, (s.select waits p seconds micros).1 = .ready found →
      (s.select waits p seconds micros).2.1 = .empty) ∧
    ((∀ found, (s.select waits p seconds micros).1 ≠ .ready found) →
      (s.select waits p seconds micros).2.1 = s) := by
  have hselects := selects_select s waits p seconds micros
  generalize s.select waits p seconds micros = result at hselects
  -- Registrations go only where something was found
  cases hselects with
  | idle hout => exact ⟨fun found heq => absurd heq (hout found), fun _ => rfl⟩
  | refused hwatch => exact ⟨nofun, fun _ => rfl⟩
  | found hwatch hawait => exact ⟨fun _ _ => rfl, fun hout => absurd rfl (hout _)⟩
  | missed hout hwatch hawait => exact ⟨fun found heq => absurd heq (hout found), fun _ => rfl⟩

namespace History

/-- A selector that was just made, and nothing has been done with it. -/
def start : History := ⟨.empty, []⟩

/-- The selector after a step, and the step's deed. -/
def after (x : History) : Step π → History
  | .add socket op => ⟨x.selector.add socket op, .added socket op :: x.past⟩
  | .remove id op => ⟨x.selector.remove id op, .removed id op :: x.past⟩
  | .removeAll id => ⟨x.selector.removeAll id, .cleared id :: x.past⟩
  | .shutdown => ⟨.empty, .shutDown :: x.past⟩
  | .select waits p seconds micros =>
    let (outcome, selector, _) := x.selector.select waits p seconds micros
    ⟨selector, .selected outcome :: x.past⟩

/-- What has been done after several steps. -/
def run (x : History) (steps : List (Step π)) : History := steps.foldl after x

/-- The table agrees with the history. -/
def Holds (x : History) : Prop := Tracks x.past x.selector.registrations

/-- At the start there is nothing to track. -/
theorem holds_start : start.Holds := .empty

/-- A step keeps the registrations those of what was done. -/
theorem Holds.after {x : History} (h : x.Holds) (step : Step π) : (x.after step).Holds := by
  cases step with
  | add socket op => exact h.added socket op
  | remove id op => exact h.removed id op
  | removeAll id => exact h.cleared id
  | shutdown => exact Tracks.nothing (fun _ _ => nofun) fun _ _ => trivial
  | select waits p seconds micros =>
    obtain ⟨hready, hother⟩ := selector_select x.selector waits p seconds micros
    rcases hselect : x.selector.select waits p seconds micros with ⟨outcome, s, p'⟩
    rw [hselect] at hready hother
    have hafter : x.after (.select waits p seconds micros) = ⟨s, .selected outcome :: x.past⟩ := by
      simp only [History.after, hselect]
    rw [hafter]
    -- Only a select that finds something withdraws what stands
    cases outcome with
    | ready found =>
      cases hready found rfl
      exact Tracks.nothing (fun _ _ => nofun) fun _ _ => trivial
    | failed e =>
      cases hother nofun
      exact Tracks.kept h (fun _ _ => nofun) fun _ _ => id
    | fault f =>
      cases hother nofun
      exact Tracks.kept h (fun _ _ => nofun) fun _ _ => id
    | unfinished =>
      cases hother nofun
      exact Tracks.kept h (fun _ _ => nofun) fun _ _ => id

/-- A run keeps the registrations those of what was done. -/
theorem Holds.run {x : History} (h : x.Holds) (steps : List (Step π)) : (x.run steps).Holds := by
  induction steps generalizing x with
  | nil => exact h
  | cons step steps ih => exact ih (h.after step)

end History

/-- What a select found, by the history before it and the calls that it made. -/
structure Justified (past : List Deed) (calls : List PollerCall) (found : Ready) : Prop where
  isEmpty : found.isEmpty = false
  /-- Each list is in order, without duplicates. -/
  ascending : ∀ a, (found.get a).Pairwise (· < ·)
  /-- What can be read was to be read.  A peer holds its datagram, and any other socket that
      does not listen was peeked at. -/
  read : ∀ id ∈ found.read, Standing id .read past ∧ ∃ socket, LastAdded socket past ∧
    socket.id = id ∧ (socket.isPeer = true → socket.hasPending = true) ∧
    (socket.isPeer = false → socket.isListening = false → Confirmed calls socket.descriptor)
  /-- What can be written was to be written. -/
  write : ∀ id ∈ found.write, Standing id .write past
  /-- What has urgent data was registered, and has an urgent channel. -/
  urgent : ∀ id ∈ found.urgent, (∃ op, Standing id op past) ∧ ∃ socket, LastAdded socket past ∧
    socket.id = id ∧ socket.transport = .tcp ∧ socket.isListening = false ∧
    socket.isPeer = false ∧ .peek socket.descriptor .urgent (.ok 1) ∈ calls

/-- What is found for the registrations is `Justified` by what was done. -/
theorem justified_of_found {past : List Deed} {rs : Registrations} {calls : List PollerCall}
    {found : Ready} (h : Tracks past rs) (hfound : Found rs calls found)
    (hsome : found.isEmpty = false) : Justified past calls found.sorted := by
  -- The entries want what is standing
  have hstanding : ∀ {r op}, r ∈ rs → r.wants op = true → Standing r.id op past :=
    fun hr hwants => (h.wants _ _).mp (h.table.wants_iff.mpr ⟨_, hr, rfl, hwants⟩)
  refine ⟨(Ready.isEmpty_sorted found).trans hsome, fun a => ?_, fun id hid => ?_, fun id hid => ?_,
    fun id hid => ?_⟩
  · rw [Ready.get_sorted]
    exact SocketId.sorted_ascending (hfound.nodup a)
  · obtain ⟨r, hr, rfl, hread, hsource⟩ := hfound.sorted.entitled .read id hid
    obtain ⟨socket, hlast, hsocket, hof⟩ := h.source r hr
    refine ⟨hstanding hr hread, socket, hlast, hsocket, fun hpeer => ?_, fun hpeer hlistening => ?_⟩
    · rw [hof, Source.of, if_pos hpeer] at hsource
      exact hsource
    · rw [hof, Source.of, if_neg (by simp [hpeer])] at hsource
      exact hsource.resolve_left (by simp [hlistening])
  · obtain ⟨r, hr, rfl, hwrite⟩ := hfound.sorted.entitled .write id hid
    exact hstanding hr hwrite
  · -- urgent data is asked for at any entry, whatever it wants
    obtain ⟨r, hr, rfl, d, listening, hsource, hpeek⟩ := hfound.sorted.entitled .urgent id hid
    obtain ⟨op, hwants⟩ := Registration.isIdle_eq_false_iff.mp (h.table.busy r hr)
    obtain ⟨socket, hlast, hsocket, hof⟩ := h.source r hr
    refine ⟨⟨op, hstanding hr hwants⟩, socket, hlast, hsocket, ?_⟩
    rw [hof] at hsource
    unfold Source.of at hsource
    split at hsource
    · exact nomatch hsource
    · rename_i hpeer
      injection hsource with hd hl hurgent
      obtain ⟨hchannel, hlistening⟩ := Bool.and_eq_true_iff.mp hurgent
      refine ⟨?_, by simpa using hlistening, Bool.eq_false_iff.mpr hpeer, hd ▸ hpeek⟩
      revert hchannel
      cases socket.transport <;> decide

/-- Runs of a selector, and any select after them, whatever the pollers do.

    What is registered is what has been added and not been withdrawn since.  What a select
    finds is justified, and uses all registrations up.  A select that finds nothing keeps
    them.  And however it ends, it leaves no descriptor watched, as long as a poller forgets
    a descriptor that it watches. -/
theorem selects_run (steps : List (Step π)) :
    let x := History.start.run steps
    (∀ id op, x.selector.registrations.wants id op = true ↔ Standing id op x.past) ∧
    (x.selector.hasRegistrations = true ↔ ∃ id op, Standing id op x.past) ∧
    ∀ (waits : Nat) (p : π) (seconds : Option Nat) (micros : Nat),
      let outcome := (x.selector.select waits p seconds micros).1
      let after := (x.selector.select waits p seconds micros).2.1
      let calls := x.selector.callsOf waits p seconds micros
      (∀ found, outcome = .ready found → Justified x.past calls found ∧ after = .empty) ∧
      ((∀ found, outcome ≠ .ready found) → after = x.selector) ∧
      (Forgets calls → watchedAfter calls = []) := by
  intro x
  have hx : x.Holds := History.holds_start.run steps
  refine ⟨hx.wants, ?_, fun waits p seconds micros => ?_⟩
  · have hsome : x.selector.hasRegistrations = true ↔ x.selector.registrations ≠ [] := by
      cases h : x.selector.registrations <;> simp [hasRegistrations, h]
    rw [hsome, hx.table.ne_nil_iff]
    simp only [hx.wants]
  · obtain ⟨hready, hother⟩ := selector_select x.selector waits p seconds micros
    refine ⟨fun found hout => ⟨?_, hready found hout⟩, hother,
      watchedAfter_callsOf x.selector waits p seconds micros⟩
    -- The calls are those of the observed poller
    have hobserved := select_observed x.selector waits (Observed.start p) seconds micros
    have hselects := selects_select x.selector waits (Observed.start p) seconds micros
    have hout' : (x.selector.select waits (Observed.start p) seconds micros).1 = .ready found :=
      (congrArg Prod.fst hobserved).symm.trans hout
    unfold callsOf
    generalize x.selector.select waits (Observed.start p) seconds micros = result at hselects hout'
    cases hselects with
    | idle hnone => exact absurd hout' (hnone found)
    | refused hwatch => exact nomatch hout'
    | found hwatch hawait =>
      cases hout'
      obtain ⟨hfound, hsome⟩ := found_await (.readyPeers _) hx.table hawait
      refine justified_of_found hx (hfound.mono fun y hy => ?_) hsome
      exact (calls_forget _ _).subset hy
    | missed hnone hwatch hawait => exact absurd hout' (hnone found)

end Runs

end Selector

end FrameSocket
