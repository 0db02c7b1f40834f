import FrameSocket.Framer.FixedLength
import FrameSocket.Proofs.Unwatched
import FrameSocket.Socket.Scripted
import Mathlib.Data.List.Forall2

/-!
# What urgent reads do to regular ones

A stream client has one budget of read attempts and one receiving watchdog for both of its
channels, and whichever read comes first finds the connection.  Through these an urgent read
can tell on the regular reads behind it, and through nothing else: in a run without its
urgent reads every regular read leaves the same framer, and its answer is the same, up to
whether an unfinished frame is given up, as long as no alarm ends a regular read.

## Key results

- `Beside.after_urgent` / `Beside.after_regular`: what each read keeps between the runs
- `regularReads_filter`: the two runs
- `regularReads_disturbed`: how the one budget, the one watchdog, a pending error and a
  peer that is no longer named tell
-/

namespace FrameSocket.Client

variable {σ φ : Type} [Endpoint σ] [Framer φ] {R : σ → σ → Prop}

/-! ## Finding the connection -/

/-- There has been no connection yet. -/
structure IsFresh (c : Client σ) : Prop where
  disconnected : c.isConnected = false
  wasConnected : c.wasConnected = false

omit [Endpoint σ] in
/-- `IsFresh` does not depend on the socket. -/
theorem IsFresh.of_bare {c c' : Client σ} (h : c.IsFresh) (hbare : c'.bare = c.bare) :
    c'.IsFresh := by
  constructor
  · show c'.bare.isConnected = false
    rw [hbare]
    exact h.disconnected
  · show c'.bare.wasConnected = false
    rw [hbare]
    exact h.wasConnected

/-- The client once its socket has named the peer. -/
def found (c : Client σ) (address : String) : Client σ :=
  { c with socket := (Endpoint.remoteAddress c.socket).2 }.markConnected address

section Finding

variable {c c' d : Client σ} {now : Duration} {address : String}

/-- A fresh client whose socket has a peer is connected to it. -/
theorem ensureConnected_of_named (h : c.IsFresh)
    (hnamed : (Endpoint.remoteAddress c.socket).1 = .ok (some address)) (now : Duration) :
    c.ensureConnected now = (.ok true, c.found address) := by
  unfold ensureConnected
  rw [if_neg (by simp [h.disconnected]), if_neg (by simp [h.wasConnected])]
  split
  · -- The name that is told is the one that is known
    rename_i address' s hremote
    rw [hremote] at hnamed
    cases hnamed
    rw [found, hremote]
  · rename_i hremote
    rw [hremote] at hnamed
    exact nomatch hnamed
  · rename_i hremote
    rw [hremote] at hnamed
    exact nomatch hnamed

/-- A fresh client whose socket cannot tell its peer is refused. -/
theorem ensureConnected_of_unasked {e : IoError} {s : σ} (h : c.IsFresh)
    (hask : Endpoint.remoteAddress c.socket = (.error e, s)) (now : Duration) :
    c.ensureConnected now = failed ({ c with socket := s }.refused e.message) := by
  simp only [ensureConnected, h.disconnected, h.wasConnected, hask, Bool.false_eq_true, if_false]

/-- What a client says that found no peer, from what the socket tells of a pending error. -/
def unnamed (c : Client σ) (now : Duration) : Except IoError (Option IoError) → Answer σ Bool
  | .error e => (.error (.io e), c)
  | .ok (some e) => failed (c.refused e.message)
  | .ok none =>
    if c.config.connectionTimeout < now - c.createdAt then
      failed (c.refused "connection timed out")
    else (.ok false, c)

/-- A fresh client whose socket has no peer asks for the pending error. -/
theorem ensureConnected_of_unnamed {s : σ} (h : c.IsFresh)
    (hask : Endpoint.remoteAddress c.socket = (.ok none, s)) (now : Duration) :
    c.ensureConnected now =
      { c with socket := (Endpoint.takeError s).2 }.unnamed now (Endpoint.takeError s).1 := by
  simp only [ensureConnected, h.disconnected, h.wasConnected, hask, Bool.false_eq_true, if_false]
  rcases Endpoint.takeError s with ⟨e | _ | e, t⟩
  · rfl
  · rfl
  · rfl

/-- A refusal names the socket's identity and the peer asked for, which two clients share. -/
theorem failed_refused_apart (hR : Endpoint.Apart R) (hbare : c'.bare = c.bare) {s s' : σ}
    (hboth : R s s') (reason : String) :
    ∃ e, (failed ({ c with socket := s }.refused reason) : Answer σ Bool) =
        (.error e, { c with socket := s }) ∧
      (failed ({ c' with socket := s' }.refused reason) : Answer σ Bool) =
        (.error e, { c' with socket := s' }) := by
  refine ⟨_, rfl, ?_⟩
  have hremote : c'.remote = c.remote := by
    show c'.bare.remote = c.bare.remote
    rw [hbare]
  simp only [failed, refused, Client.address, hremote, hR.id_eq hboth]

/-- Without a peer, two clients that are told the same of a pending error say the same. -/
theorem unnamed_apart (hR : Endpoint.Apart R) (hbare : c'.bare = c.bare) {s s' : σ}
    (hboth : R s s') (now : Duration) (pending : Except IoError (Option IoError)) :
    ∃ failure : Except NetworkError Bool, failure ≠ .ok true ∧
      { c with socket := s }.unnamed now pending = (failure, { c with socket := s }) ∧
      { c' with socket := s' }.unnamed now pending = (failure, { c' with socket := s' }) := by
  rcases pending with e | _ | e
  · exact ⟨.error (.io e), by simp, rfl, rfl⟩
  · -- both were made at the same time, and wait as long
    have hlate : c'.config.connectionTimeout < now - c'.createdAt ↔
        c.config.connectionTimeout < now - c.createdAt := by
      show c'.bare.config.connectionTimeout < now - c'.bare.createdAt ↔ _
      rw [hbare]
      rfl
    by_cases hwait : c.config.connectionTimeout < now - c.createdAt
    · obtain ⟨e, hleft, hright⟩ := failed_refused_apart hR hbare hboth "connection timed out"
      refine ⟨.error e, by simp, ?_, ?_⟩
      · rw [← hleft]
        exact if_pos hwait
      · rw [← hright]
        exact if_pos (hlate.mpr hwait)
    · exact ⟨.ok false, by simp, if_neg hwait, if_neg fun hwait' => hwait (hlate.mp hwait')⟩
  · obtain ⟨e, hleft, hright⟩ := failed_refused_apart hR hbare hboth e.message
    exact ⟨.error e, by simp, hleft, hright⟩

/-- Two clients without a connection ask their sockets, and are told the same. -/
theorem ensureConnected_apart (hR : Endpoint.Apart R) (h : c.IsFresh) (hbare : c'.bare = c.bare)
    (hsocket : R c.socket c'.socket) (now : Duration) :
    (∃ address, (Endpoint.remoteAddress c.socket).1 = .ok (some address) ∧
      (Endpoint.remoteAddress c'.socket).1 = .ok (some address)) ∨
    ∃ failure s s', failure ≠ .ok true ∧
      c.ensureConnected now = (failure, { c with socket := s }) ∧
      c'.ensureConnected now = (failure, { c' with socket := s' }) ∧
      R s s' ∧ R s c'.socket := by
  have hfresh' := h.of_bare hbare
  have hasked := hR.remoteAddress_eq hsocket
  have hleft := hR.remoteAddress_left hsocket
  have hboth := hR.remoteAddress_right hleft
  rcases hask : Endpoint.remoteAddress c.socket with ⟨answer, s⟩
  rcases hask' : Endpoint.remoteAddress c'.socket with ⟨answer', s'⟩
  rw [hask, hask'] at hasked
  rw [hask] at hleft hboth
  rw [hask'] at hboth
  cases hasked
  rcases answer with e | _ | address
  · obtain ⟨refusal, hrefused, hrefused'⟩ := failed_refused_apart hR hbare hboth e.message
    refine .inr ⟨.error refusal, s, s', by simp, ?_, ?_, hboth, hleft⟩
    · rw [ensureConnected_of_unasked h hask, hrefused]
    · rw [ensureConnected_of_unasked hfresh' hask', hrefused']
  · -- there is no peer, and both tell the same pending error, if any
    have hleft' := hR.takeError_left hleft
    have hboth' := hR.takeError_right (hR.takeError_left hboth)
    obtain ⟨failure, hfailure, hsaid, hsaid'⟩ :=
      unnamed_apart hR hbare hboth' now (Endpoint.takeError s).1
    refine .inr ⟨failure, _, _, hfailure, ?_, ?_, hboth', hleft'⟩
    · rw [ensureConnected_of_unnamed h hask, hsaid]
    · rw [ensureConnected_of_unnamed hfresh' hask', hR.takeError_eq hboth, hsaid']
  · exact .inl ⟨address, rfl, rfl⟩

/-- A regular read that has found its connection is one over that connection. -/
theorem readStream_of_ensured {now : Clock}
    (hensured : c.ensureConnected now.first = (.ok true, d)) (hconn : d.isConnected = true)
    (f : φ) : c.readStream now f .regular = d.readStream now f .regular := by
  simp only [readStream, checkChannel, hensured, ensureConnected_of_isConnected hconn]

/-- What a read comes to that has not found its connection. -/
def unfound (failure : Except NetworkError Bool) : Except NetworkError (Incoming σ) :=
  match failure with
  | .error e => .error e
  | .ok _ => .ok (.unfinished .empty)

/-- A regular read of a client that is not connected does not get to its framer. -/
theorem readStream_of_unensured {now : Clock} {failure : Except NetworkError Bool}
    (hensured : c.ensureConnected now.first = (failure, d)) (hfailure : failure ≠ .ok true)
    (f : φ) :
    c.readStream now f .regular = ((unfound failure, d), f) := by
  rcases failure with e | _ | _
  · simp only [readStream, checkChannel, hensured, unfound]
  · simp only [readStream, checkChannel, hensured, unfound]
  · exact absurd rfl hfailure

/-- An urgent read that is refused, or that has not found its connection, is no more than the
    asking. -/
theorem readStream_urgent_of_unensured {now : Clock} {failure : Except NetworkError Bool}
    (hensured : c.ensureConnected now.first = (failure, d)) (hfailure : failure ≠ .ok true)
    (f : φ) :
    (c.readStream now f .urgent).1.2 = c ∨ (c.readStream now f .urgent).1.2 = d := by
  unfold readStream
  split
  · exact .inl rfl
  · rcases failure with e | _ | _
    · simp only [hensured, or_true]
    · simp only [hensured, or_true]
    · exact absurd rfl hfailure

end Finding

/-! ## Two clients side by side -/

/-- A client that has made some urgent reads, beside one that has made none of them. -/
inductive Beside (R : σ → σ → Prop) (c c' : Client σ) : Prop
  /-- Neither has found its connection. -/
  | unconnected (hfresh : c.IsFresh) (hbare : c'.bare = c.bare) (hsocket : R c.socket c'.socket)
  /-- An urgent read has found it, and the other client would find the same. -/
  | ahead {address : String} (hconn : c.isConnected = true) (hfresh : c'.IsFresh)
      (hsocket : R c.socket c'.socket)
      (hnamed : (Endpoint.remoteAddress c'.socket).1 = .ok (some address))
      (halike : Alike R c (c'.found address))
  /-- Both are connected. -/
  | together (hconn : c.isConnected = true) (halike : Alike R c c')

/-- What the world may do to both sockets: it tells them no more apart, and does not take a
    peer's name away. -/
structure Steady (R : σ → σ → Prop) (change : σ → σ) : Prop where
  rel : ∀ {s s'}, R s s' → R (change s) (change s')
  named : ∀ {s address}, (Endpoint.remoteAddress s).1 = .ok (some address) →
    (Endpoint.remoteAddress (change s)).1 = .ok (some address)

section Steps

variable {c c' d : Client σ} {now : Clock} {f : φ}

/-- A read over a connection does not forget that there was one. -/
theorem wasConnected_readStream (hwas : c.wasConnected = true) (now : Clock) (f : φ)
    (ch : Channel) : (c.readStream now f ch).1.2.wasConnected = true := by
  have hview := c.read_traced .stream now f ch
  have hpassage := passage_readStream c.traced now f ch
  have hafter : (c.traced.readStream now f ch).1.2.wasConnected = true := by
    generalize (c.traced.readStream now f ch).1.2 = d at hpassage
    generalize (c.traced.readStream now f ch).2 = g at hpassage
    cases hpassage with
    | idle hasked => exact hwas
    | gone hdisconnected hwas => exact hwas
    -- Only a client that was never connected gains a connection
    | gained hfresh h => exact absurd (hfresh.symm.trans hwas) (by decide)
    | stands _ h => exact h.wasConnected.trans hwas
  exact (congrArg (·.1.2.wasConnected) hview).trans hafter

/-- A connection that no call of a step told the loss of stands after it. -/
theorem isConnected_after {step : Step σ φ}
    (hlost : ∀ x ∈ c.exchangesOf .stream step, x.tellsLoss = false)
    (hbefore : c.isConnected = true ∨
      c.wasConnected = false ∧ (c.after .stream step).wasConnected = true) :
    (c.after .stream step).isConnected = true := by
  cases hafter : (c.after .stream step).isConnected with
  | true => rfl
  | false =>
    obtain ⟨x, hx, htold⟩ := lossTold_of_step c step hafter hbefore
    exact absurd (htold.symm.trans (hlost x hx)) (by decide)

omit [Endpoint σ] in
/-- Two connected clients have the same connection. -/
theorem connection_eq (hconn : c.isConnected = true) (hconn' : d.isConnected = true) :
    d.connection = c.connection :=
  (of_decide_eq_true hconn').trans (of_decide_eq_true hconn).symm

/-- Two clients that have found the same peer are alike. -/
theorem alike_found (hR : Endpoint.Apart R) (hbare : c'.bare = c.bare)
    (hsocket : R c.socket c'.socket) (address : String) :
    Alike R (c.found address) (c'.found address) := by
  refine ⟨hR.remoteAddress_right (hR.remoteAddress_left hsocket), rfl, rfl, ?_, rfl⟩
  show c'.bare.bufferSize = c.bare.bufferSize
  rw [hbare]

namespace Beside

/-- Nothing in the world tells the two apart. -/
theorem mapSocket (hR : Endpoint.Apart R) {change : σ → σ} (hsteady : Steady R change)
    (h : Beside R c c') : Beside R (c.mapSocket change) (c'.mapSocket change) := by
  -- The world changes both sockets alike, and neither of the clients
  cases h with
  | unconnected hfresh hbare hsocket =>
    exact .unconnected ⟨hfresh.disconnected, hfresh.wasConnected⟩ hbare (hsteady.rel hsocket)
  | ahead hconn hfresh hsocket hnamed halike =>
    refine .ahead hconn ⟨hfresh.disconnected, hfresh.wasConnected⟩ (hsteady.rel hsocket)
      (hsteady.named hnamed) ⟨?_, halike.connection, halike.remote, halike.bufferSize,
        halike.leftover⟩
    exact hR.remoteAddress_right (hsteady.rel hsocket)
  | together hconn halike =>
    exact .together hconn ⟨hsteady.rel halike.socket, halike.connection, halike.remote,
      halike.bufferSize, halike.leftover⟩

/-- An urgent read of the one client leaves it beside the other. -/
theorem after_urgent (hR : Endpoint.Apart R) (h : Beside R c c')
    (hlost : ∀ x ∈ c.exchangesOf .stream (.read now f .urgent), x.tellsLoss = false) :
    Beside R (c.after .stream (.read now f .urgent)) c' := by
  -- Over a connection that stands
  have hover : c.isConnected = true → c.after .stream (.read now f .urgent) = c ∨
      Sideways R c (c.after .stream (.read now f .urgent)) ∧
        (c.after .stream (.read now f .urgent)).isConnected = true := by
    intro hconn
    have hensured := ensureConnected_of_isConnected hconn now.first
    rcases Sideways.readStream hR hensured f with hsame | hside
    · exact .inl hsame
    · exact .inr ⟨hside, isConnected_after hlost (.inl hconn)⟩
  cases h with
  | unconnected hfresh hbare hsocket =>
    rcases ensureConnected_apart hR hfresh hbare hsocket now.first with
      ⟨address, hnamed, hnamed'⟩ | ⟨failure, s, s', hfailure, hensured, -, -, hleft⟩
    · -- the urgent read finds the connection, and is ahead from now on
      have hensured := ensureConnected_of_named hfresh hnamed now.first
      rcases Sideways.readStream hR hensured f with hsame | hside
      · show Beside R (c.readStream now f .urgent).1.2 c'
        rw [hsame]
        exact .unconnected hfresh hbare hsocket
      · have hconn := isConnected_after hlost (.inr ⟨hfresh.wasConnected, hside.wasConnected⟩)
        refine .ahead hconn (hfresh.of_bare hbare) (hside.socket _ (hR.remoteAddress_left hsocket))
          hnamed' ?_
        exact hside.alike (connection_eq (c := c.found address) rfl hconn)
          (alike_found hR hbare hsocket address)
    · rcases readStream_urgent_of_unensured hensured hfailure f with hsame | hasked
      · show Beside R (c.readStream now f .urgent).1.2 c'
        rw [hsame]
        exact .unconnected hfresh hbare hsocket
      · show Beside R (c.readStream now f .urgent).1.2 c'
        rw [hasked]
        exact .unconnected ⟨hfresh.disconnected, hfresh.wasConnected⟩ hbare hleft
  | ahead hconn hfresh hsocket hnamed halike =>
    rcases hover hconn with hsame | ⟨hside, hconn'⟩
    · rw [hsame]
      exact .ahead hconn hfresh hsocket hnamed halike
    · exact .ahead hconn' hfresh (hside.socket _ hsocket) hnamed
        (hside.alike (connection_eq hconn hconn') halike)
  | together hconn halike =>
    rcases hover hconn with hsame | ⟨hside, hconn'⟩
    · rw [hsame]
      exact .together hconn halike
    · exact .together hconn' (hside.alike (connection_eq hconn hconn') halike)

/-- A regular read of both comes to the same, but for budgets and watchdogs, and leaves the
    two side by side. -/
theorem after_regular (hR : Endpoint.Apart R) (h : Beside R c c')
    (hlost : ∀ x ∈ c.exchangesOf .stream (.read now f .regular), x.tellsLoss = false)
    (hcalm : ¬ IsAlarm (c.readStream now f .regular).1.1)
    (hcalm' : ¬ IsAlarm (c'.readStream now f .regular).1.1) :
    Agree (c.readStream now f .regular).1.1 (c'.readStream now f .regular).1.1 ∧
      (c'.readStream now f .regular).2 = (c.readStream now f .regular).2 ∧
      Beside R (c.readStream now f .regular).1.2 (c'.readStream now f .regular).1.2 := by
  -- Once both have found their connections
  have hover : ∀ {d d'}, c.readStream now f .regular = d.readStream now f .regular →
      c'.readStream now f .regular = d'.readStream now f .regular → Alike R d d' →
      d.isConnected = true → (c.readStream now f .regular).1.2.isConnected = true →
      Agree (c.readStream now f .regular).1.1 (c'.readStream now f .regular).1.1 ∧
        (c'.readStream now f .regular).2 = (c.readStream now f .regular).2 ∧
        Beside R (c.readStream now f .regular).1.2 (c'.readStream now f .regular).1.2 := by
    intro d d' hread hread' halike hconn hafter
    rw [hread] at hcalm hafter ⊢
    rw [hread'] at hcalm' ⊢
    have hsame := ((halike.readStream hR hconn now f).resolve_left hcalm).resolve_left hcalm'
    exact ⟨hsame.answer, hsame.framer, .together hafter hsame.client⟩
  cases h with
  | unconnected hfresh hbare hsocket =>
    have hfresh' := hfresh.of_bare hbare
    rcases ensureConnected_apart hR hfresh hbare hsocket now.first with
      ⟨address, hnamed, hnamed'⟩ | ⟨failure, s, s', hfailure, hensured, hensured', hboth, -⟩
    · have hread := readStream_of_ensured (ensureConnected_of_named hfresh hnamed now.first) rfl f
      have hread' :=
        readStream_of_ensured (ensureConnected_of_named hfresh' hnamed' now.first) rfl f
      refine hover hread hread' (alike_found hR hbare hsocket address) rfl ?_
      refine isConnected_after hlost (.inr ⟨hfresh.wasConnected, ?_⟩)
      show (c.readStream now f .regular).1.2.wasConnected = true
      rw [hread]
      exact wasConnected_readStream rfl now f .regular
    · rw [readStream_of_unensured hensured hfailure f, readStream_of_unensured hensured' hfailure f]
      refine ⟨.inl rfl, rfl, .unconnected ?_ hbare hboth⟩
      exact ⟨hfresh.disconnected, hfresh.wasConnected⟩
  | ahead hconn hfresh hsocket hnamed halike =>
    -- The regular read of the other client catches up
    have hread' := readStream_of_ensured (ensureConnected_of_named hfresh hnamed now.first) rfl f
    exact hover rfl hread' halike hconn (isConnected_after hlost (.inl hconn))
  | together hconn halike =>
    exact hover rfl rfl halike hconn (isConnected_after hlost (.inl hconn))

end Beside

end Steps

/-! ## Scripts -/

/-- A client of a socket with a peer that sends nothing, which gives a frame up after one
    attempt. -/
def oneAttempt : Client ScriptedSocket :=
  make .stream { id := ⟨1⟩, transport := .tcp, peer := .ok (some "10.0.0.2:4000") }
    { readAttempts := 1 } .zero

/-- A framer of four bytes that has none of them. -/
def four : Framer.FixedLength := .start 4

/-- What a dry read leaves the client that finds its connection. -/
def dryAfter (c : Client ScriptedSocket) (ch : Channel) : Client ScriptedSocket :=
  { c.anchorReceive .zero with
    socket := (Endpoint.peek (Endpoint.recv c.socket ch c.bufferSize).2 ch).2 }.dryRead

/-- An urgent read of `oneAttempt` is dry. -/
theorem oneAttempt_urgent : oneAttempt.readStream .zero four .urgent =
    readOutcome ⟨.idle, false, (oneAttempt.found "10.0.0.2:4000").dryAfter .urgent, four⟩ :=
  readStream_of_dry rfl rfl rfl rfl rfl rfl rfl rfl

/-- It has used up the one attempt. -/
theorem after_oneAttempt_urgent : oneAttempt.after .stream (.read .zero four .urgent) =
    (oneAttempt.found "10.0.0.2:4000").dryAfter .urgent := by
  show (oneAttempt.readStream .zero four .urgent).1.2 = _
  rw [oneAttempt_urgent]
  rfl

end FrameSocket.Client

namespace FrameSocket.ScriptedSocket

/-- There is no error to report, and peeks look at the queues. -/
structure IsPlain (s : ScriptedSocket) : Prop where
  takeErrorFails : s.takeErrorFails = none
  pendingError : s.pendingError = none
  peeks : s.peeks = []

/-- Both sockets have the same regular items to deliver. -/
structure SameRegular (s s' : ScriptedSocket) : Prop where
  id : s'.id = s.id
  peer : s'.peer = s.peer
  rx : s'.rx = s.rx
  left : s.IsPlain
  right : s'.IsPlain

/-- A plain socket has no pending error. -/
theorem takeError_of_isPlain {s : ScriptedSocket} (h : s.IsPlain) :
    s.takeError = (.ok none, s.record .takeError) := by
  obtain ⟨hfails, hpending, -⟩ := h
  cases s
  subst hfails hpending
  rfl

/-- A plain socket has no answers for peeks that could be used up. -/
theorem peek_snd_of_isPlain {s : ScriptedSocket} (h : s.IsPlain) (ch : Channel) :
    (s.peek ch).2 = s.record (.peek ch) := by
  have hpeeks : (s.record (.peek ch)).peeks = [] := h.peeks
  unfold peek
  dsimp only
  rw [hpeeks]
  dsimp only
  split <;> rfl

/-- Plain sockets with the same script for a channel answer peeks there alike. -/
theorem peek_fst_congr {s s' : ScriptedSocket} (h : s.IsPlain) (h' : s'.IsPlain) {ch : Channel}
    (hqueue : s'.queue ch = s.queue ch) : (s'.peek ch).1 = (s.peek ch).1 := by
  have hpeeks : (s.record (.peek ch)).peeks = [] := h.peeks
  have hpeeks' : (s'.record (.peek ch)).peeks = [] := h'.peeks
  have hqueue' : (s'.record (.peek ch)).queue ch = (s.record (.peek ch)).queue ch := by
    cases ch <;> exact hqueue
  unfold peek
  dsimp only
  rw [hpeeks, hpeeks', hqueue']
  dsimp only
  split <;> rfl

/-- The two queues of a script are apart. -/
theorem sameRegular_apart : Endpoint.Apart SameRegular where
  id_eq h := h.id
  remoteAddress_eq h := h.peer
  remoteAddress_left h := ⟨h.id, h.peer, h.rx, ⟨h.left.1, h.left.2, h.left.3⟩, h.right⟩
  remoteAddress_right h := ⟨h.id, h.peer, h.rx, h.left, ⟨h.right.1, h.right.2, h.right.3⟩⟩
  takeError_eq h := by
    show (takeError _).1 = (takeError _).1
    rw [takeError_of_isPlain h.left, takeError_of_isPlain h.right]
  takeError_left h := by
    show SameRegular (takeError _).2 _
    rw [takeError_of_isPlain h.left]
    exact ⟨h.id, h.peer, h.rx, ⟨h.left.1, h.left.2, h.left.3⟩, h.right⟩
  takeError_right h := by
    show SameRegular _ (takeError _).2
    rw [takeError_of_isPlain h.right]
    exact ⟨h.id, h.peer, h.rx, h.left, ⟨h.right.1, h.right.2, h.right.3⟩⟩
  recv_eq n h := by
    show (recvItem n _).1 = (recvItem n _).1
    rw [queue, queue, h.rx]
  recv_rel n h := ⟨h.id, h.peer, congrArg (fun rx => (recvItem n rx).2) h.rx,
    ⟨h.left.1, h.left.2, h.left.3⟩, ⟨h.right.1, h.right.2, h.right.3⟩⟩
  peek_eq h := by
    show (peek _ _).1 = (peek _ _).1
    exact peek_fst_congr h.left h.right h.rx
  peek_rel h := by
    show SameRegular (peek _ _).2 (peek _ _).2
    rw [peek_snd_of_isPlain h.left, peek_snd_of_isPlain h.right]
    exact ⟨h.id, h.peer, h.rx, ⟨h.left.1, h.left.2, h.left.3⟩, ⟨h.right.1, h.right.2, h.right.3⟩⟩
  -- The urgent calls change the left socket only, and only its urgent script
  recv_urgent n h := ⟨h.id, h.peer, h.rx, ⟨h.left.1, h.left.2, h.left.3⟩, h.right⟩
  peek_urgent h := by
    show SameRegular (peek _ _).2 _
    rw [peek_snd_of_isPlain h.left]
    exact ⟨h.id, h.peer, h.rx, ⟨h.left.1, h.left.2, h.left.3⟩, h.right⟩

end FrameSocket.ScriptedSocket

namespace FrameSocket.Client

variable {σ φ : Type} [Endpoint σ] [Framer φ] {R : σ → σ → Prop}

/-! ## Two runs -/

/-- The answers of the regular reads of a run, with the framers that they leave. -/
def regularReads (c : Client σ) :
    List (Step σ φ) → List (Except NetworkError (Incoming σ) × φ)
  | [] => []
  | .read now f .regular :: steps =>
    ((c.read .stream now f .regular).1.1, (c.read .stream now f .regular).2) ::
      (c.after .stream (.read now f .regular : Step σ φ)).regularReads steps
  | step :: steps => (c.after .stream step).regularReads steps

/-- A run of reads, in which the world does what does not tell the two runs apart. -/
def Step.Allowed (R : σ → σ → Prop) : Step σ φ → Prop
  | .world change => Steady R change
  | .read _ _ _ => True
  | .write _ _ _ | .resetTransfer => False

/-- Whether a step is an urgent read. -/
def Step.isUrgentRead : Step σ φ → Bool
  | .read _ _ .urgent => true
  | _ => false

/-- The answers agree, and the framers are the same. -/
def AgreeRead (x x' : Except NetworkError (Incoming σ) × φ) : Prop :=
  Agree x.1 x'.1 ∧ x'.2 = x.2

/-- Without a receive floor no regular read raises an alarm. -/
theorem regularReads_unwatched {c : Client σ} (h : c.receiveWatch = none)
    (steps : List (Step σ φ)) (hsteps : ∀ step ∈ steps, step.Allowed R) :
    ∀ x ∈ c.regularReads steps, ¬ IsAlarm x.1 := by
  induction steps generalizing c with
  | nil => exact fun x hx => absurd hx List.not_mem_nil
  | cons step steps ih =>
    have hlater : ∀ step ∈ steps, step.Allowed R :=
      fun step hstep => hsteps step (List.mem_cons_of_mem _ hstep)
    cases step with
    | world change => exact ih (c := c.mapSocket change) h hlater
    | read now f ch =>
      -- A read makes no watchdog, so the next ones have none either
      obtain ⟨hnone, hcalm⟩ := unwatched_readStream h now f ch
      cases ch with
      | urgent => exact ih (c := (c.readStream now f .urgent).1.2) hnone hlater
      | regular =>
        intro x hx
        rcases List.mem_cons.mp hx with rfl | hx
        · exact hcalm
        · exact ih (c := (c.readStream now f .regular).1.2) hnone hlater x hx
    | write now data ch => exact (hsteps _ List.mem_cons_self).elim
    | resetTransfer => exact (hsteps _ List.mem_cons_self).elim

/-- The regular reads of two clients side by side, the second of which leaves out what is
    urgent. -/
theorem Beside.regularReads (hR : Endpoint.Apart R) {c c' : Client σ} (h : Beside R c c')
    (steps : List (Step σ φ)) (hsteps : ∀ step ∈ steps, step.Allowed R)
    (hlost : ∀ x ∈ c.exchangesOfRun .stream steps, x.tellsLoss = false)
    (hcalm : ∀ x ∈ c.regularReads steps, ¬ IsAlarm x.1)
    (hcalm' : ∀ x ∈ c'.regularReads (steps.filter (!·.isUrgentRead)), ¬ IsAlarm x.1) :
    List.Forall₂ AgreeRead (c.regularReads steps)
      (c'.regularReads (steps.filter (!·.isUrgentRead))) := by
  -- The induction is on the run with urgent reads; the other run stands still while they last
  induction steps generalizing c c' with
  | nil => exact .nil
  | cons step steps ih =>
    have hlater : ∀ step ∈ steps, step.Allowed R :=
      fun step hstep => hsteps step (List.mem_cons_of_mem _ hstep)
    have hlost' : ∀ x ∈ (c.after .stream step).exchangesOfRun .stream steps, x.tellsLoss = false :=
      fun x hx => hlost x (List.mem_append_right _ hx)
    have hnow : ∀ x ∈ c.exchangesOf .stream step, x.tellsLoss = false :=
      fun x hx => hlost x (List.mem_append_left _ hx)
    cases step with
    | world change =>
      have hsteady : Steady R change := hsteps (.world change) List.mem_cons_self
      exact ih (h.mapSocket hR hsteady) hlater hlost' hcalm hcalm'
    | read now f ch =>
      cases ch with
      | urgent => exact ih (h.after_urgent hR hnow) hlater hlost' hcalm hcalm'
      | regular =>
        obtain ⟨hanswer, hframer, hbeside⟩ := h.after_regular hR hnow
          (hcalm _ List.mem_cons_self) (hcalm' _ List.mem_cons_self)
        refine .cons ⟨hanswer, hframer⟩ (ih hbeside hlater hlost' ?_ ?_)
        · exact fun x hx => hcalm x (List.mem_cons_of_mem _ hx)
        · exact fun x hx => hcalm' x (List.mem_cons_of_mem _ hx)
    | write now data ch => exact (hsteps _ List.mem_cons_self).elim
    | resetTransfer => exact (hsteps _ List.mem_cons_self).elim

/-- A socket whose peer has sent four bytes. -/
def sentFour : ScriptedSocket :=
  { id := ⟨1⟩, transport := .tcp, peer := .ok (some "10.0.0.2:4000"),
    rx := [.data [0x61, 0x62, 0x63, 0x64] none] }

/-- The socket no longer names its peer. -/
def forgetPeer (s : ScriptedSocket) : ScriptedSocket := { s with peer := .ok none }

/-- A client without a floor. -/
def unfloored : Client ScriptedSocket := make .stream sentFour {} .zero

/-- A client that asks for a million bytes a second. -/
def floored : Client ScriptedSocket :=
  make .stream sentFour (Config.default.withMinReceiveSpeed 1000000.0 .zero) .zero

/-- A client whose connect has failed. -/
def refusedConnect : Client ScriptedSocket :=
  make .stream
    { id := ⟨1⟩, transport := .tcp, peer := .ok none,
      pendingError := some (.bare .connectionRefused) } {} .zero

/-- The urgent read and the regular one share a budget: together they use the one attempt
    up. -/
theorem urgent_read_spends :
    oneAttempt.regularReads [.read .zero four .urgent, .read .zero four .regular] =
        [(.error (.framingIncomplete "10.0.0.2:4000" "read attempts exhausted" .empty), four)] ∧
      oneAttempt.regularReads [.read .zero four .regular] =
        [(.ok (.unfinished .empty), four)] := by
  -- The client behind the urgent read, which has no attempt left
  let dry := (oneAttempt.found "10.0.0.2:4000").dryAfter .urgent
  have hregular : dry.readStream .zero four .regular =
      readOutcome ⟨.idle, false, dry.dryAfter .regular, four⟩ :=
    readStream_of_dry rfl rfl rfl rfl rfl rfl rfl rfl
  have halone : oneAttempt.readStream .zero four .regular =
      readOutcome ⟨.idle, false, (oneAttempt.found "10.0.0.2:4000").dryAfter .regular, four⟩ :=
    readStream_of_dry rfl rfl rfl rfl rfl rfl rfl rfl
  constructor
  · show (oneAttempt.after .stream (.read .zero four .urgent)).regularReads
      [.read .zero four .regular] = _
    rw [after_oneAttempt_urgent]
    show [((dry.readStream .zero four .regular).1.1, (dry.readStream .zero four .regular).2)] = _
    rw [hregular]
    rfl
  · show [((oneAttempt.readStream .zero four .regular).1.1,
      (oneAttempt.readStream .zero four .regular).2)] = _
    rw [halone]
    rfl

/-- The urgent read opens the watchdog's window, in which the regular one is slow: four
    bytes come two seconds later, where a million in each are asked for. -/
theorem urgent_read_opens_window :
    floored.regularReads [.read .zero four .urgent, .read (.still (.ofSeconds 2)) four .regular] =
        [(.error (.slowTransfer .receive 2.0 2.0),
          ⟨4, [0x61, 0x62, 0x63, 0x64], some "10.0.0.2:4000"⟩)] ∧
      floored.regularReads [.read (.still (.ofSeconds 2)) four .regular] =
        [(.ok (.complete ⟨[0x61, 0x62, 0x63, 0x64], some "10.0.0.2:4000"⟩),
          ⟨4, [0x61, 0x62, 0x63, 0x64], some "10.0.0.2:4000"⟩)] := by
  let now : Duration := .ofSeconds 2
  let ready := floored.found "10.0.0.2:4000"
  let dry := ready.dryAfter .urgent
  have hurgent : floored.readStream .zero four .urgent = readOutcome ⟨.idle, false, dry, four⟩ :=
    readStream_of_dry rfl rfl rfl rfl rfl rfl rfl rfl
  -- What the client is that has received the four bytes
  let fed (d : Client ScriptedSocket) : Client ScriptedSocket :=
    { d.anchorReceive now with
      socket := (Endpoint.recv d.socket .regular d.bufferSize).2 }.refillReads
  let early : Watchdog Float :=
    ((Watchdog.new 1000000.0 Duration.zero.toSeconds).sample (Duration.zero - .zero).toSeconds 0).1
  let late : Watchdog Float :=
    ((Watchdog.new 1000000.0 Duration.zero.toSeconds).sample (now - .zero).toSeconds 0).1
  have hearly : (fed dry).receiveWatch = some early := rfl
  have hlate : (fed ready).receiveWatch = some late := rfl
  have halarm : (early.sample (now - .zero).toSeconds 4).2 = some ⟨2.0, 2.0⟩ := by decide +kernel
  have hcalm : (late.sample (now - .zero).toSeconds 4).2 = none := by decide +kernel
  have hslow : (fed dry).trackReceive now 4 = _ := trackReceive_of_alarm hearly halarm
  have hdone : (fed ready).trackReceive now 4 = _ := trackReceive_of_calm hlate hcalm
  have hregular : dry.readStream (.still now) four .regular = readOutcome _ :=
    readStream_of_receives rfl rfl rfl rfl rfl (.slow rfl rfl rfl hslow)
  have halone : floored.readStream (.still now) four .regular = readOutcome _ :=
    readStream_of_receives rfl rfl rfl rfl rfl (.complete rfl rfl rfl hdone rfl)
  constructor
  · have hnext : (floored.readStream .zero four .urgent).1.2 = dry := by
      rw [hurgent]
      rfl
    show (floored.readStream .zero four .urgent).1.2.regularReads _ = _
    rw [hnext]
    show [((dry.readStream (.still now) four .regular).1.1,
      (dry.readStream (.still now) four .regular).2)] = _
    rw [hregular]
    rfl
  · show [((floored.readStream (.still now) four .regular).1.1,
      (floored.readStream (.still now) four .regular).2)] = _
    rw [halone]
    rfl

/-- The urgent read takes the socket's pending error, and the regular one knows nothing of
    it. -/
theorem urgent_read_takes_error :
    refusedConnect.regularReads [.read .zero four .urgent, .read .zero four .regular] =
        [(.ok (.unfinished .empty), four)] ∧
      refusedConnect.regularReads [.read .zero four .regular] =
        [(.error (.connectionRefused "socket #1" "connection refused"), four)] :=
  ⟨rfl, rfl⟩

/-- The urgent read finds the peer's name, which is gone before the regular one asks. -/
theorem urgent_read_finds_peer :
    unfloored.regularReads [.read .zero four .urgent, .world forgetPeer,
        .read .zero four .regular] =
        [(.ok (.complete ⟨[0x61, 0x62, 0x63, 0x64], some "10.0.0.2:4000"⟩),
          ⟨4, [0x61, 0x62, 0x63, 0x64], some "10.0.0.2:4000"⟩)] ∧
      unfloored.regularReads [.world forgetPeer, .read .zero four .regular] =
        [(.ok (.unfinished .empty), four)] := by
  -- The client behind the urgent read, which knows its peer
  let dry := (unfloored.found "10.0.0.2:4000").dryAfter .urgent
  have hurgent : unfloored.readStream .zero four .urgent = readOutcome ⟨.idle, false, dry, four⟩ :=
    readStream_of_dry rfl rfl rfl rfl rfl rfl rfl rfl
  have hregular : (dry.mapSocket forgetPeer).readStream .zero four .regular = readOutcome _ :=
    readStream_of_receives rfl rfl rfl rfl rfl (.complete rfl rfl rfl rfl rfl)
  constructor
  · have hnext : (unfloored.readStream .zero four .urgent).1.2 = dry := by
      rw [hurgent]
      rfl
    show ((unfloored.readStream .zero four .urgent).1.2.mapSocket forgetPeer).regularReads _ = _
    rw [hnext]
    show [(((dry.mapSocket forgetPeer).readStream .zero four .regular).1.1,
      ((dry.mapSocket forgetPeer).readStream .zero four .regular).2)] = _
    rw [hregular]
    rfl
  · rfl

end FrameSocket.Client
