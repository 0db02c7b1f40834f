import FrameSocket.Framer.SingleChunk
import FrameSocket.Proofs.Lifecycle
import FrameSocket.Socket.Scripted

/-!
# Connections that are refused

A stream client that has never been connected finds out at every operation how its
connection stands.  It asks its socket for the peer's address, then for a pending error,
and at last looks at the clock.  Nothing that it is told is kept for the next operation, and
a pending error is told only once: a client that has been refused because of one waits
again at the next operation, as if the connection might yet come.

The clock alone refuses for good.  Once the time for connecting is over, every operation
fails that does not find the peer.

## Key results

- `Unconnected`: what an operation comes to while there is no connection
- `Settled.namesPeer_or_missed`: a step finds its peer, or comes to one of these
- `Settled.namesPeer_or_fresh`: so does a run
- `refused_run`: what a refusal means for all later operations
- `refused_then_waiting`: a refusal that the next operation knows nothing of
-/

namespace FrameSocket

/-- Whether the answer names the peer. -/
def Exchange.namesPeer : Exchange → Bool
  | .remoteAddress (.ok (some _)) => true
  | _ => false

/-- Whether the answer tells that the socket cannot be connected: it fails to name a peer,
    or has an error pending. -/
def Exchange.tellsRefusal : Exchange → Bool
  | .remoteAddress (.error _) | .takeError (.ok (some _)) => true
  | _ => false

namespace Client

variable {σ φ : Type} [Endpoint σ] [Framer φ]

/-! ## What an operation comes to -/

/-- The time at which a read or a write begins: the first reading of its clock. -/
def Step.clock? : Step σ φ → Option Duration
  | .read now _ _ | .write now _ _ => some now.first
  | .world _ | .resetTransfer => none

/-- The step is a read or a write of a stream client that fails with the given error or,
    without one, answers that the connection may yet come. -/
def Answers (c : Client σ) (step : Step σ φ) (failure : Option NetworkError) : Prop :=
  match step with
  | .read now f ch => (c.read .stream now f ch).1.1 =
      match failure with
      | some e => .error e
      | none => .ok (.unfinished .empty)
  | .write now data ch => (c.write .stream now data ch).1 =
      match failure with
      | some e => .error e
      | none => .ok 0
  | .world _ | .resetTransfer => False

/-- What an operation at `now` comes to while there is no connection: the calls that it
    makes, and how it fails, if it does.  `late` tells whether the time for connecting is
    over. -/
inductive Unconnected (late : Prop) : List Exchange → Option NetworkError → Prop
  /-- The guards of the urgent channel refuse it. -/
  | unsupported (what : String) : Unconnected late [] (some (.unsupported what))
  /-- The socket fails to name a peer. -/
  | unreachable (address : String) (e : IoError) :
      Unconnected late [.remoteAddress (.error e)] (some (.connectionRefused address e.message))
  /-- There is no peer, and the socket fails to tell its pending error. -/
  | unanswered (e : IoError) :
      Unconnected late [.remoteAddress (.ok none), .takeError (.error e)] (some (.io e))
  /-- There is no peer, but a pending error. -/
  | failed (address : String) (e : IoError) :
      Unconnected late [.remoteAddress (.ok none), .takeError (.ok (some e))]
        (some (.connectionRefused address e.message))
  /-- There is neither, and it is too late for a peer to come. -/
  | late (address : String) (hlate : late) :
      Unconnected late [.remoteAddress (.ok none), .takeError (.ok none)]
        (some (.connectionRefused address "connection timed out"))
  /-- There is neither, and the connection may yet come. -/
  | waiting (hlate : ¬ late) :
      Unconnected late [.remoteAddress (.ok none), .takeError (.ok none)] none

namespace Unconnected

variable {late : Prop} {calls : List Exchange} {failure : Option NetworkError}

/-- An operation waits only while there is time. -/
theorem of_waiting (h : Unconnected late calls none) :
    calls = [.remoteAddress (.ok none), .takeError (.ok none)] ∧ ¬ late := by
  cases h with
  | waiting hlate => exact ⟨rfl, hlate⟩

/-- An operation that fails does so with a connection error, unless a guard refuses it or the
    socket fails to tell its pending error. -/
theorem of_failed {e : NetworkError} (h : Unconnected late calls (some e)) :
    e.isConnectionError = true ∨ calls = [] ∧ (∃ what, e = .unsupported what) ∨
      ∃ e', calls = [.remoteAddress (.ok none), .takeError (.error e')] ∧ e = .io e' := by
  cases h with
  | unsupported what => exact .inr (.inl ⟨rfl, what, rfl⟩)
  | unreachable address e => exact .inl rfl
  | unanswered e => exact .inr (.inr ⟨e, rfl, rfl⟩)
  | failed address e => exact .inl rfl
  | late address hlate => exact .inl rfl

/-- A refusal was told by the socket, or by the clock. -/
theorem of_refused {address reason : String}
    (h : Unconnected late calls (some (.connectionRefused address reason))) :
    (∃ x ∈ calls, x.tellsRefusal = true) ∨ late := by
  cases h with
  | unreachable _ e => exact .inl ⟨_, List.mem_singleton_self _, rfl⟩
  | failed _ e => exact .inl ⟨_, List.mem_cons_of_mem _ (List.mem_singleton_self _), rfl⟩
  | late _ hlate => exact .inr hlate

end Unconnected

/-- One of the calls on record named the peer. -/
def PeerNamed (c : Client (Traced σ)) : Prop := ∃ x ∈ c.socket.exchanges, x.namesPeer = true

/-- From `c` to `c'` an operation at `now` found no connection, and came to `failure`. -/
structure Misses (c : Client (Traced σ)) (now : Duration) (c' : Client (Traced σ))
    (failure : Option NetworkError) : Prop where
  calls : ∃ calls, c'.socket.exchanges = c.socket.exchanges ++ calls ∧
    Unconnected (c.config.connectionTimeout < now - c.createdAt) calls failure
  wasConnected : c'.wasConnected = false

omit [Endpoint σ] in
/-- What a client goes on to over a connection does not take its peer from the record. -/
theorem Proceeds.peerNamed {c c' : Client (Traced σ)} (h : Proceeds c c') (hnamed : c.PeerNamed) :
    c'.PeerNamed := by
  obtain ⟨x, hx, hnames⟩ := hnamed
  exact ⟨x, h.exchanges.subset hx, hnames⟩

/-- How a client that has never been connected finds its connection: its socket names the
    peer, or the client is told what the operation comes to. -/
theorem found_or_misses {c c' : Client (Traced σ)} {now : Duration}
    {answer : Except NetworkError Bool} (hconn : c.isConnected = false)
    (hwas : c.wasConnected = false) (h : c.ensureConnected now = (answer, c')) :
    answer = .ok true ∧ c'.PeerNamed ∨
      ∃ failure, Misses c now c' failure ∧ answer = match failure with
        | some e => .error e
        | none => .ok false := by
  -- Where no peer is named, both calls are on record
  have hcalls : ∀ {s s' : Traced σ} {pending : Except IoError (Option IoError)},
      Endpoint.remoteAddress c.socket = (.ok none, s) → Endpoint.takeError s = (pending, s') →
      s'.exchanges = c.socket.exchanges ++ [.remoteAddress (.ok none), .takeError pending] := by
    intro s s' pending hremote herror
    rw [Traced.exchanges_takeError herror, Traced.exchanges_remoteAddress hremote,
      List.append_assoc]
    rfl
  cases finds_ensureConnected h with
  | stands hstands => simp [hconn] at hstands
  | gone _ hgone => simp [hwas] at hgone
  | @named address s _ _ hremote =>
    refine .inl ⟨rfl, .remoteAddress (.ok (some address)), ?_, rfl⟩
    show _ ∈ s.exchanges
    simp [Traced.exchanges_remoteAddress hremote]
  | @unreachable e s _ _ hremote =>
    exact .inr ⟨_, ⟨⟨_, Traced.exchanges_remoteAddress hremote, .unreachable _ e⟩, hwas⟩, rfl⟩
  | @unanswered e _ _ _ _ hremote herror =>
    exact .inr ⟨_, ⟨⟨_, hcalls hremote herror, .unanswered e⟩, hwas⟩, rfl⟩
  | @failed e _ _ _ _ hremote herror =>
    exact .inr ⟨_, ⟨⟨_, hcalls hremote herror, .failed _ e⟩, hwas⟩, rfl⟩
  | late _ _ hremote herror hlate =>
    exact .inr ⟨_, ⟨⟨_, hcalls hremote herror, .late _ hlate⟩, hwas⟩, rfl⟩
  | waiting _ _ hremote herror hlate =>
    exact .inr ⟨_, ⟨⟨_, hcalls hremote herror, .waiting hlate⟩, hwas⟩, rfl⟩

omit [Endpoint σ] in
/-- A guard that refuses an operation makes no call. -/
theorem Misses.of_guard {c : Client (Traced σ)} {now : Duration} (hwas : c.wasConnected = false)
    (what : String) : Misses c now c (some (.unsupported what)) :=
  ⟨⟨[], (List.append_nil _).symm, .unsupported what⟩, hwas⟩

/-- So does a read: its socket names the peer, or there is no connection. -/
theorem found_or_misses_readStream {c : Client (Traced σ)} (now : Clock) (f : φ) (ch : Channel)
    (hconn : c.isConnected = false) (hwas : c.wasConnected = false) :
    (c.readStream now f ch).1.2.PeerNamed ∨
      ∃ failure, Misses c now.first (c.readStream now f ch).1.2 failure ∧
        (c.readStream now f ch).1.1 = match failure with
          | some e => .error e
          | none => .ok (.unfinished .empty) := by
  cases hchannel : c.checkChannel ch with
  -- An unsupported channel is refused before anything is asked
  | error e =>
    obtain ⟨what, rfl⟩ := exists_unsupported_of_checkChannel hchannel
    simp only [readStream, hchannel]
    exact .inr ⟨_, .of_guard hwas what, rfl⟩
  | ok =>
    rcases hensured : c.ensureConnected now.first with ⟨answer, c'⟩
    rcases found_or_misses hconn hwas hensured with ⟨rfl, hnamed⟩ | ⟨failure, hmisses, rfl⟩
    · exact .inl ((proceeds_readStream hchannel hensured f).peerNamed hnamed)
    · refine .inr ⟨failure, ?_⟩
      cases failure with
      | some e =>
        simp only [readStream, hchannel, hensured]
        exact ⟨hmisses, trivial⟩
      | none =>
        simp only [readStream, hchannel, hensured]
        exact ⟨hmisses, trivial⟩

/-- So does a write. -/
theorem found_or_misses_writeStream {c : Client (Traced σ)} (now : Clock) (data : Bytes)
    (ch : Channel) (hconn : c.isConnected = false) (hwas : c.wasConnected = false) :
    (c.writeStream now data ch).2.PeerNamed ∨
      ∃ failure, Misses c now.first (c.writeStream now data ch).2 failure ∧
        (c.writeStream now data ch).1 = match failure with
          | some e => .error e
          | none => .ok 0 := by
  cases hchannel : c.checkChannel ch with
  | error e =>
    obtain ⟨what, rfl⟩ := exists_unsupported_of_checkChannel hchannel
    simp only [writeStream, hchannel]
    exact .inr ⟨_, .of_guard hwas what, rfl⟩
  | ok =>
    cases hsize : c.checkUrgentSize ch data with
    | error e =>
      obtain ⟨what, rfl⟩ := exists_unsupported_of_checkUrgentSize hsize
      simp only [writeStream, hchannel, hsize]
      exact .inr ⟨_, .of_guard hwas what, rfl⟩
    | ok =>
      rcases hensured : c.ensureConnected now.first with ⟨answer, c'⟩
      -- From here on the write goes as the search for the peer does
      rcases found_or_misses hconn hwas hensured with ⟨rfl, hnamed⟩ | ⟨failure, hmisses, rfl⟩
      · exact .inl ((proceeds_writeStream hchannel hsize hensured).peerNamed hnamed)
      · refine .inr ⟨failure, ?_⟩
        cases failure with
        | some e =>
          simp only [writeStream, hchannel, hsize, hensured]
          exact ⟨hmisses, trivial⟩
        | none =>
          simp only [writeStream, hchannel, hsize, hensured]
          exact ⟨hmisses, trivial⟩

/-! ## Along a run -/

/-- The time for connecting of a client that was made with `config` at `made` is over. -/
def IsLate (config : Config) (made now : Duration) : Prop :=
  config.connectionTimeout < now - made

namespace Settled

variable {c : Client σ} {config : Config} {made : Duration}

omit [Endpoint σ] in
/-- A client that was never connected is not so now. -/
theorem not_isConnected (h : Settled config made c) (hfresh : c.wasConnected = false) :
    c.isConnected = false :=
  Bool.eq_false_iff.mpr fun hconn => absurd ((h.connected hconn).symm.trans hfresh) (by decide)

omit [Endpoint σ] in
/-- As long as there has been no connection, the time for it is as it was at first. -/
theorem late_iff (h : Settled config made c) (hfresh : c.wasConnected = false)
    (now : Duration) : c.config.connectionTimeout < now - c.createdAt ↔ IsLate config made now := by
  have hbare := h.fresh hfresh
  have hconfig : c.config = config := congrArg Client.config hbare
  have hcreated : c.createdAt = made := congrArg Client.createdAt hbare
  rw [hconfig, hcreated, IsLate]

end Settled

/-- One of the calls of a step names the peer. -/
def NamesPeer (c : Client σ) (step : Step σ φ) : Prop :=
  ∃ x ∈ c.exchangesOf .stream step, x.namesPeer = true

/-- What a step comes to that finds no connection. -/
structure Missed (config : Config) (made : Duration) (c : Client σ) (step : Step σ φ) : Prop where
  wasConnected : (c.after .stream step).wasConnected = false
  answers : ∀ now, step.clock? = some now → ∃ failure, c.Answers step failure ∧
    Unconnected (IsLate config made now) (c.exchangesOf .stream step) failure

/-- As long as there has been no connection, a step finds its peer, or no connection. -/
theorem Settled.namesPeer_or_missed {c : Client σ} {config : Config} {made : Duration}
    (h : Settled config made c) (hwas : c.wasConnected = false) (step : Step σ φ) :
    c.NamesPeer step ∨ Missed config made c step := by
  have hconn := h.not_isConnected hwas
  cases step with
  | world change => exact .inr ⟨hwas, fun now hclock => nomatch hclock⟩
  | read now f ch =>
    -- The calls of a step are those of the traced client
    have hview := c.read_traced .stream now f ch
    have hwas' : (c.after .stream (.read now f ch)).wasConnected =
        (c.traced.readStream now f ch).1.2.wasConnected := congrArg (·.1.2.wasConnected) hview
    rcases found_or_misses_readStream (c := c.traced) now f ch hconn hwas with
      hnamed | ⟨failure, ⟨⟨calls, hcalls, hends⟩, hfresh⟩, hanswer⟩
    · exact .inl hnamed
    · refine .inr ⟨hwas'.trans hfresh, fun now' hclock => ⟨failure, ?_, ?_⟩⟩
      · show (c.read .stream now f ch).1.1 = _
        rw [hview]
        show Except.map _ (c.traced.readStream now f ch).1.1 = _
        rw [hanswer]
        cases failure <;> rfl
      · cases hclock
        have hmade : c.exchangesOf .stream (.read now f ch) = calls := hcalls
        rw [hmade, ← propext (h.late_iff hwas now.first)]
        exact hends
  | write now data ch =>
    have hview := c.write_traced .stream now data ch
    have hwas' : (c.after .stream (.write now data ch : Step σ φ)).wasConnected =
        (c.traced.writeStream now data ch).2.wasConnected := congrArg (·.2.wasConnected) hview
    have hwrite : (c.write .stream now data ch).1 = (c.traced.writeStream now data ch).1 :=
      congrArg (·.1) hview
    rcases found_or_misses_writeStream (c := c.traced) now data ch hconn hwas with
      hnamed | ⟨failure, ⟨⟨calls, hcalls, hends⟩, hfresh⟩, hanswer⟩
    · exact .inl hnamed
    · refine .inr ⟨hwas'.trans hfresh, fun now' hclock => ⟨failure, ?_, ?_⟩⟩
      · show (c.write .stream now data ch).1 = _
        rw [hwrite, hanswer]
      · cases hclock
        have hmade : c.exchangesOf .stream (.write now data ch : Step σ φ) = calls := hcalls
        rw [hmade, ← propext (h.late_iff hwas now.first)]
        exact hends
  | resetTransfer => exact .inr ⟨hwas, fun now hclock => nomatch hclock⟩

/-- So does a run: until a call names the peer there is no connection. -/
theorem Settled.namesPeer_or_fresh {c : Client σ} {config : Config} {made : Duration}
    (h : Settled config made c) (hwas : c.wasConnected = false) (steps : List (Step σ φ)) :
    (∃ x ∈ c.exchangesOfRun .stream steps, x.namesPeer = true) ∨
      (c.run .stream steps).wasConnected = false := by
  induction steps generalizing c with
  | nil => exact .inr hwas
  | cons step steps ih =>
    rcases h.namesPeer_or_missed hwas step with ⟨x, hx, hnames⟩ | hmissed
    · exact .inl ⟨x, List.mem_append_left _ hx, hnames⟩
    · -- a step that has missed leaves the client as fresh as it was
      rcases ih (h.after step) hmissed.wasConnected with ⟨x, hx, hnames⟩ | hfresh
      · exact .inl ⟨x, List.mem_append_right _ hx, hnames⟩
      · exact .inr hfresh

omit [Endpoint σ] in
/-- It stays late. -/
theorem IsLate.mono {config : Config} {made now now' : Duration} (h : IsLate config made now)
    (hnow : now ≤ now') : IsLate config made now' :=
  Nat.lt_of_lt_of_le h (Nat.sub_le_sub_right hnow made.nanoseconds)

/-- A step answers in one way only. -/
theorem Answers.unique {c : Client σ} {step : Step σ φ} {failure failure' : Option NetworkError}
    (h : c.Answers step failure) (h' : c.Answers step failure') : failure = failure' := by
  cases step with
  | world change => exact h.elim
  | read now f ch =>
    have hsame := h.symm.trans h'
    cases failure <;> cases failure' <;> cases hsame <;> rfl
  | write now data ch =>
    have hsame := h.symm.trans h'
    cases failure <;> cases failure' <;> cases hsame <;> rfl
  | resetTransfer => exact h.elim

/-- What a refusal means for every later operation, in any run of a client that has never
    been connected.

    As long as no call names the peer, every later operation fails: with a connection
    error, unless the guards of the urgent channel refuse it or the socket fails to tell
    its pending error.  The one exception is an operation that finds nothing pending while
    there is still time, after a refusal that the socket told.  Since nothing was kept of
    it, the operation waits for the connection again. -/
theorem refused_run (socket : σ) (config : Config) (made : Duration)
    (steps later : List (Step σ φ)) (op op' : Step σ φ) (now now' : Duration)
    (address reason : String) :
    let c := (make .stream socket config made).run .stream steps
    let c' := (c.after .stream op).run .stream later
    let calls := c.exchangesOf .stream op
    let calls' := c'.exchangesOf .stream op'
    c.wasConnected = false → op.clock? = some now → op'.clock? = some now' → now ≤ now' →
    c.Answers op (some (.connectionRefused address reason)) →
    (∃ x ∈ calls ++ (c.after .stream op).exchangesOfRun .stream later ++ calls',
      x.namesPeer = true) ∨
    (∃ e, c'.Answers op' (some e) ∧ (e.isConnectionError = true ∨
      calls' = [] ∧ (∃ what, e = .unsupported what) ∨
      ∃ e', calls' = [.remoteAddress (.ok none), .takeError (.error e')] ∧ e = .io e')) ∨
    c'.Answers op' none ∧ calls' = [.remoteAddress (.ok none), .takeError (.ok none)] ∧
      ¬ IsLate config made now' ∧ ∃ x ∈ calls, x.tellsRefusal = true := by
  intro c c' calls calls' hnever hclock hclock' hnow hrefused
  have hc : Settled config made c := (Settled.of_new socket config made).run steps
  -- Unless a call names the peer, neither of the two operations finds a connection
  rcases hc.namesPeer_or_missed hnever op with ⟨x, hx, hnames⟩ | hmissed
  · exact .inl ⟨x, List.mem_append_left _ (List.mem_append_left _ hx), hnames⟩
  have hafter := hc.after op
  rcases hafter.namesPeer_or_fresh hmissed.wasConnected later with ⟨x, hx, hnames⟩ | hfresh
  · exact .inl ⟨x, List.mem_append_left _ (List.mem_append_right _ hx), hnames⟩
  rcases (hafter.run later).namesPeer_or_missed hfresh op' with ⟨x, hx, hnames⟩ | hmissed'
  · exact .inl ⟨x, List.mem_append_right _ hx, hnames⟩
  obtain ⟨failure, hanswers, hends⟩ := hmissed.answers now hclock
  obtain ⟨failure', hanswers', hends'⟩ := hmissed'.answers now' hclock'
  cases hanswers.unique hrefused
  cases failure' with
  | some e => exact .inr (.inl ⟨e, hanswers', hends'.of_failed⟩)
  | none =>
    obtain ⟨hcalls', hlate⟩ := hends'.of_waiting
    -- If it was the clock that refused, the clock would refuse again
    rcases hends.of_refused with htold | hlate'
    · exact .inr (.inr ⟨hanswers', hcalls', hlate, htold⟩)
    · exact absurd (hlate'.mono hnow) hlate

/-- A minute passes without a peer.  The first operation after it is refused by the clock,
    and so is the second. -/
theorem refused_run_timedOut :
    let socket : ScriptedSocket := { id := ⟨7⟩, transport := .tcp, peer := .ok none }
    let c : Client ScriptedSocket := make .stream socket {} .zero
    let op : Step ScriptedSocket Framer.SingleChunk :=
      .read (.still (.ofSeconds 61)) .start .regular
    let op' : Step ScriptedSocket Framer.SingleChunk :=
      .write (.still (.ofSeconds 62)) [0x61] .regular
    let c' := c.after .stream op
    let calls := c.exchangesOf .stream op
    let calls' := c'.exchangesOf .stream op'
    c.Answers op (some (.connectionRefused "socket #7" "connection timed out")) ∧
    ((∃ x ∈ calls ++ [] ++ calls', x.namesPeer = true) ∨
    (∃ e, c'.Answers op' (some e) ∧ (e.isConnectionError = true ∨
      calls' = [] ∧ (∃ what, e = .unsupported what) ∨
      ∃ e', calls' = [.remoteAddress (.ok none), .takeError (.error e')] ∧ e = .io e')) ∨
    c'.Answers op' none ∧ calls' = [.remoteAddress (.ok none), .takeError (.ok none)] ∧
      ¬ IsLate {} .zero (.ofSeconds 62) ∧ ∃ x ∈ calls, x.tellsRefusal = true) :=
  ⟨rfl, refused_run _ {} .zero [] [] _ _ (.ofSeconds 61) (.ofSeconds 62) _ _ rfl rfl rfl
    (by decide) rfl⟩

/-- A refusal that is forgotten: the pending error is told once, and the next read waits
    for the connection that has failed. -/
theorem refused_then_waiting :
    let socket : ScriptedSocket :=
      { id := ⟨7⟩, transport := .tcp, peer := .ok none,
        pendingError := some (.bare .connectionRefused) }
    let c : Client ScriptedSocket := make .stream socket {} .zero
    let read : Step ScriptedSocket Framer.SingleChunk := .read .zero .start .regular
    c.Answers read (some (.connectionRefused "socket #7" "connection refused")) ∧
      (c.after .stream read).Answers read none :=
  ⟨rfl, rfl⟩

end Client

end FrameSocket
