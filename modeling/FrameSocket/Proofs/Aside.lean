import FrameSocket.Proofs.Lifecycle

/-!
# Reads of the urgent channel, aside from the regular one

Two clients are alike if no regular read can tell them apart but by its budget and its
watchdog.  A read of the urgent channel leaves a client that is like it was before.  And
regular reads of clients that are alike feed their framers alike, and leave them alike:
their answers agree, up to whether a frame that is unfinished is given up.

What the world does on the two channels of a socket is taken to be apart: a relation
between sockets that regular calls keep and cannot see through, and that calls on the
urgent channel of the first socket keep, too.

## Key results

- `Sideways.receives`: what an urgent read leaves alone
- `Alike.receives`: the receiving loops of clients that are alike
- `Alike.readStream`: their regular reads
-/

namespace FrameSocket

/-- `R` relates sockets that no regular call can tell apart, whatever is done on the urgent
    channel of the first.  Asking how the connection stands changes neither. -/
structure Endpoint.Apart {σ : Type} [Endpoint σ] (R : σ → σ → Prop) : Prop where
  id_eq : ∀ {s s'}, R s s' → Endpoint.id s' = Endpoint.id s
  remoteAddress_eq : ∀ {s s'}, R s s' →
    (Endpoint.remoteAddress s').1 = (Endpoint.remoteAddress s).1
  remoteAddress_left : ∀ {s s'}, R s s' → R (Endpoint.remoteAddress s).2 s'
  remoteAddress_right : ∀ {s s'}, R s s' → R s (Endpoint.remoteAddress s').2
  takeError_eq : ∀ {s s'}, R s s' → (Endpoint.takeError s').1 = (Endpoint.takeError s).1
  takeError_left : ∀ {s s'}, R s s' → R (Endpoint.takeError s).2 s'
  takeError_right : ∀ {s s'}, R s s' → R s (Endpoint.takeError s').2
  recv_eq : ∀ {s s'} n, R s s' →
    (Endpoint.recv s' .regular n).1 = (Endpoint.recv s .regular n).1
  recv_rel : ∀ {s s'} n, R s s' →
    R (Endpoint.recv s .regular n).2 (Endpoint.recv s' .regular n).2
  peek_eq : ∀ {s s'}, R s s' → (Endpoint.peek s' .regular).1 = (Endpoint.peek s .regular).1
  peek_rel : ∀ {s s'}, R s s' →
    R (Endpoint.peek s .regular).2 (Endpoint.peek s' .regular).2
  recv_urgent : ∀ {s s'} n, R s s' → R (Endpoint.recv s .urgent n).2 s'
  peek_urgent : ∀ {s s'}, R s s' → R (Endpoint.peek s .urgent).2 s'

/-- The alarm of a receiving watchdog. -/
def NetworkError.isSlowReceive : NetworkError → Bool
  | .slowTransfer .receive _ _ => true
  | _ => false

namespace Client

variable {σ φ : Type} [Endpoint σ] [Framer φ] {R : σ → σ → Prop}

/-! ## Clients that are alike -/

/-- Regular reads can tell the clients apart by budgets and watchdogs only. -/
structure Alike (R : σ → σ → Prop) (c c' : Client σ) : Prop where
  socket : R c.socket c'.socket
  connection : c'.connection = c.connection
  remote : c'.remote = c.remote
  bufferSize : c'.bufferSize = c.bufferSize
  leftover : c'.leftovers.regular = c.leftovers.regular

namespace Alike

variable {c c' d d' : Client σ}

omit [Endpoint σ] in
/-- `Alike` does not see what `Booked` may change. -/
theorem booked (h : Alike R c c') (hc : Booked c d) (hc' : Booked c' d') : Alike R d d' where
  socket := by rw [hc.socket, hc'.socket]; exact h.socket
  connection := by rw [hc.connection, hc'.connection, h.connection]
  remote := by rw [hc.remote, hc'.remote, h.remote]
  bufferSize := by rw [hc.bufferSize, hc'.bufferSize, h.bufferSize]
  leftover := by rw [hc.leftovers, hc'.leftovers, h.leftover]

omit [Endpoint σ] in
/-- `Alike` clients stay so on two sockets that are related. -/
theorem onSocket (h : Alike R c c') {s s' : σ} (hs : R s s') :
    Alike R { c with socket := s } { c' with socket := s' } :=
  ⟨hs, h.connection, h.remote, h.bufferSize, h.leftover⟩

omit [Endpoint σ] in
/-- `disconnect` keeps clients `Alike`. -/
theorem disconnect (h : Alike R c c') : Alike R c.disconnect c'.disconnect :=
  ⟨h.socket, rfl, h.remote, h.bufferSize, h.leftover⟩

/-- `Alike` clients name the same address. -/
theorem address (hR : Endpoint.Apart R) (h : Alike R c c') : c'.address = c.address := by
  rw [Client.address, Client.address, h.remote, hR.id_eq h.socket]

/-- `receiveError` answers the same for `Alike` clients, and keeps them so. -/
theorem receiveError (hR : Endpoint.Apart R) (h : Alike R c c') (e : IoError) :
    (c'.receiveError e).1 = (c.receiveError e).1 ∧
      Alike R (c.receiveError e).2 (c'.receiveError e).2 := by
  unfold Client.receiveError
  split
  · exact ⟨congrArg NetworkError.connectionLost (h.address hR), h.disconnect⟩
  · refine ⟨?_, h⟩
    dsimp only
    rw [h.address hR]

omit [Endpoint σ] in
/-- `keep` on the regular channel keeps clients `Alike`. -/
theorem keep (h : Alike R c c') (rest : Bytes) (origin : Option String) :
    Alike R (c.keep .regular rest origin) (c'.keep .regular rest origin) := by
  unfold Client.keep
  split
  · exact h
  · refine ⟨h.socket, h.connection, h.remote, h.bufferSize, ?_⟩
    simp only [Leftovers.store, Leftovers.set, Leftovers.get, h.leftover]

omit [Endpoint σ] in
/-- `feed` on the regular channel keeps clients `Alike`, and does the same to the framer. -/
theorem feed (h : Alike R c c') (f : φ) (data : Bytes) (origin : Option String) :
    Alike R (c.feed f .regular data origin).1 (c'.feed f .regular data origin).1 ∧
      (c'.feed f .regular data origin).2 = (c.feed f .regular data origin).2 := by
  unfold Client.feed
  rw [h.remote]
  exact ⟨h.keep _ _, rfl⟩

omit [Endpoint σ] in
/-- `replay` of the regular channel keeps clients `Alike`, and does the same to the framer. -/
theorem replay (h : Alike R c c') (f : φ) :
    Alike R (c.replay f .regular).1 (c'.replay f .regular).1 ∧
      (c'.replay f .regular).2 = (c.replay f .regular).2 := by
  -- Both clients hold the same leftover, and so feed the same
  have hleft : c'.leftovers.get .regular = c.leftovers.get .regular := h.leftover
  unfold Client.replay
  simp only [Leftovers.take, hleft]
  cases c.leftovers.get .regular with
  | none => exact ⟨h, rfl⟩
  | some left =>
    have htaken : Alike R { c with leftovers := c.leftovers.set .regular none }
        { c' with leftovers := c'.leftovers.set .regular none } :=
      ⟨h.socket, h.connection, h.remote, h.bufferSize, rfl⟩
    exact ⟨htaken.keep _ _, rfl⟩

end Alike

/-! ## What an urgent read leaves alone -/

/-- From `c` to `d` something was done on the urgent channel. -/
structure Sideways (R : σ → σ → Prop) (c d : Client σ) : Prop where
  socket : ∀ s', R c.socket s' → R d.socket s'
  remote : d.remote = c.remote
  bufferSize : d.bufferSize = c.bufferSize
  leftover : d.leftovers.regular = c.leftovers.regular
  wasConnected : d.wasConnected = c.wasConnected

namespace Sideways

variable {c c' c₁ c₂ d e : Client σ}

omit [Endpoint σ] in
/-- `Sideways` steps can be taken one after the other. -/
theorem trans (h : Sideways R c d) (h' : Sideways R d e) : Sideways R c e where
  socket s' hs := h'.socket s' (h.socket s' hs)
  remote := h'.remote.trans h.remote
  bufferSize := h'.bufferSize.trans h.bufferSize
  leftover := h'.leftover.trans h.leftover
  wasConnected := h'.wasConnected.trans h.wasConnected

omit [Endpoint σ] in
/-- `Booked` steps are `Sideways`. -/
theorem of_booked (h : Booked c d) : Sideways R c d where
  socket s' hs := by rw [h.socket]; exact hs
  remote := h.remote
  bufferSize := h.bufferSize
  leftover := by rw [h.leftovers]
  wasConnected := h.wasConnected

omit [Endpoint σ] in
/-- Doing nothing is `Sideways`. -/
theorem refl (c : Client σ) : Sideways R c c := .of_booked (.refl c)

omit [Endpoint σ] in
/-- A client whose connection still stands is like those that it was like before. -/
theorem alike (h : Sideways R c d) (hconnection : d.connection = c.connection)
    (hc : Alike R c c') : Alike R d c' where
  socket := h.socket _ hc.socket
  connection := by rw [hconnection, hc.connection]
  remote := by rw [h.remote, hc.remote]
  bufferSize := by rw [h.bufferSize, hc.bufferSize]
  leftover := by rw [h.leftover, hc.leftover]

/-- An urgent `recv` is `Sideways`. -/
theorem recv (hR : Endpoint.Apart R) {n : Nat} {answer : Except IoError Bytes} {s : σ}
    (h : Endpoint.recv c.socket .urgent n = (answer, s)) : Sideways R c { c with socket := s } where
  socket s' hs := by
    have hrel := hR.recv_urgent n hs
    rw [h] at hrel
    exact hrel
  remote := rfl
  bufferSize := rfl
  leftover := rfl
  wasConnected := rfl

/-- An urgent `peek` is `Sideways`. -/
theorem peek (hR : Endpoint.Apart R) {answer : Except IoError Nat} {s : σ}
    (h : Endpoint.peek c.socket .urgent = (answer, s)) : Sideways R c { c with socket := s } where
  socket s' hs := by
    have hrel := hR.peek_urgent hs
    rw [h] at hrel
    exact hrel
  remote := rfl
  bufferSize := rfl
  leftover := rfl
  wasConnected := rfl

/-- `receiveError` is `Sideways`. -/
theorem receiveError (c : Client σ) (e : IoError) : Sideways R c (c.receiveError e).2 := by
  unfold Client.receiveError
  split
  · exact ⟨fun _ hs => hs, rfl, rfl, rfl, rfl⟩
  · exact refl c

omit [Endpoint σ] in
/-- `keep` on the urgent channel is `Sideways`. -/
theorem keep (c : Client σ) (rest : Bytes) (origin : Option String) :
    Sideways R c (c.keep .urgent rest origin) := by
  unfold Client.keep
  split
  · exact refl c
  · exact ⟨fun _ hs => hs, rfl, rfl, rfl, rfl⟩

omit [Endpoint σ] in
/-- `replay` of the urgent channel is `Sideways`. -/
theorem replay (c : Client σ) (f : φ) : Sideways R c (c.replay f .urgent).1 := by
  unfold Client.replay
  split
  · exact refl c
  · rename_i left leftovers htake
    obtain ⟨-, rfl⟩ := Prod.mk.inj htake
    have htaken : Sideways R c { c with leftovers := c.leftovers.set .urgent none } :=
      ⟨fun _ hs => hs, rfl, rfl, rfl, rfl⟩
    exact htaken.trans (keep _ _ _)

/-- Bytes come, a framer is fed them, and the watchdog is told. -/
theorem received (hR : Endpoint.Apart R) {f f₁ : φ} {n : Nat} {now : Duration} {bytes : Bytes}
    {answer : Except IoError Bytes} {tracked : Except NetworkError Unit} {s : σ}
    (hrecv : Endpoint.recv c.socket .urgent n = (answer, s))
    (hfeed : { c with socket := s }.refillReads.feed f .urgent bytes none = (c₁, f₁))
    (htrack : c₁.trackReceive now bytes.length = (tracked, c₂)) : Sideways R c c₂ := by
  have hfed : Sideways R { c with socket := s }.refillReads c₁ := by
    rw [← show _ = c₁ from congrArg Prod.fst hfeed]
    exact keep _ _ _
  have hready : Sideways R c { c with socket := s }.refillReads :=
    (recv hR hrecv).trans (of_booked (.refillReads _))
  exact (hready.trans hfed).trans (of_booked (.trackReceive htrack))

/-- The loop of an urgent read is `Sideways`. -/
theorem receives (hR : Endpoint.Apart R) {now : Clock} {f : φ} {any retried : Bool}
    {r : Reception σ φ} (hr : Receives .urgent now c f any retried r) :
    Sideways R c r.client := by
  induction hr with
  | closed hrecv hof => exact recv hR hrecv
  | failed hrecv hof => exact (recv hR hrecv).trans (receiveError _ _)
  | interrupted hrecv hof _ ih => exact (recv hR hrecv).trans ih
  | slow hrecv hof hfeed htrack => exact received hR hrecv hfeed htrack
  | complete hrecv hof hfeed htrack _ => exact received hR hrecv hfeed htrack
  | more hrecv hof hfeed htrack _ _ ih => exact (received hR hrecv hfeed htrack).trans ih
  | again hrecv hof hpeek _ _ ih => exact ((recv hR hrecv).trans (peek hR hpeek)).trans ih
  -- A dry turn costs the budget of both channels, which the relation does not speak of
  | idle hrecv hof hpeek _ =>
    have hquiet := (recv hR hrecv).trans (peek hR hpeek)
    dsimp only
    split
    · exact hquiet
    · exact hquiet.trans (of_booked (.dryRead _))

/-- `readOutcome` is `Sideways`. -/
theorem readOutcome (r : Reception σ φ) : Sideways R r.client (Client.readOutcome r).1.2 := by
  -- A loss only touches the connection
  have hlost : Sideways R r.client r.client.disconnect := ⟨fun _ hs => hs, rfl, rfl, rfl, rfl⟩
  unfold Client.readOutcome
  split
  · exact refl _
  · dsimp only
    split
    · exact of_booked (.finishRead _)
    · split
      · split
        · exact hlost.trans (of_booked (.finishRead _))
        · exact hlost
      · split
        · exact of_booked (.finishRead _)
        · exact refl _

/-- An urgent read that has found its connection, unless the transport has no urgent
    channel. -/
theorem readStream (hR : Endpoint.Apart R) {now : Clock}
    (hensured : c.ensureConnected now.first = (.ok true, d)) (f : φ) :
    (c.readStream now f .urgent).1.2 = c ∨ Sideways R d (c.readStream now f .urgent).1.2 := by
  unfold Client.readStream
  split
  · exact .inl rfl
  · have hanchored : Sideways R d (d.anchorReceive now.first) :=
      of_booked (.anchorReceive d now.first)
    have hreplayed := hanchored.trans (replay (d.anchorReceive now.first) f)
    rcases hreplay : (d.anchorReceive now.first).replay f .urgent with ⟨c₁, f₁⟩
    rw [hreplay] at hreplayed
    have hloop := receives hR (receives_receiveAll c₁ now.later f₁ .urgent false false)
    simp only [hensured, hreplay]
    -- The frame is there at once, or with what was left over, or comes from the socket
    split
    · exact .inr (hanchored.trans (of_booked (.finishRead _)))
    · split
      · exact .inr (hreplayed.trans (of_booked (.finishRead _)))
      · exact .inr ((hreplayed.trans hloop).trans (readOutcome _))

end Sideways

/-! ## Regular reads of clients that are alike -/

omit [Endpoint σ] in
/-- Telling the watchdog fails only with its alarm. -/
theorem isSlowReceive_of_trackReceive {c c' : Client σ} {now : Duration} {bytes : Nat}
    {e : NetworkError} (h : c.trackReceive now bytes = (.error e, c')) :
    e.isSlowReceive = true ∧ c.receiveWatch.isSome = true := by
  unfold trackReceive at h
  split at h
  · exact nomatch congrArg Prod.fst h
  · rename_i d hwatch
    dsimp only at h
    split at h
    · exact nomatch congrArg Prod.fst h
    · cases h
      exact ⟨rfl, by rw [hwatch]; rfl⟩

/-- The receiving stage ended with the watchdog's alarm. -/
def Reception.IsSlow (r : Reception σ φ) : Prop :=
  ∃ e, r.pause = .failed e ∧ e.isSlowReceive = true

/-- The receiving stages of two clients left the same, but for budgets and watchdogs. -/
structure Reception.Alike (R : σ → σ → Prop) (r r' : Reception σ φ) : Prop where
  pause : r'.pause = r.pause
  receivedAny : r'.receivedAny = r.receivedAny
  framer : r'.framer = r.framer
  client : Client.Alike R r.client r'.client

namespace Alike

variable {c c' : Client σ}

/-! The calls of the two -/

/-- A regular `recv` answers the same for `Alike` clients, and leaves their sockets related. -/
theorem recv (hR : Endpoint.Apart R) (h : Alike R c c') {answer : Except IoError Bytes} {s : σ}
    (hrecv : Endpoint.recv c.socket .regular c.bufferSize = (answer, s)) :
    ∃ s', Endpoint.recv c'.socket .regular c'.bufferSize = (answer, s') ∧ R s s' := by
  have heq := hR.recv_eq c.bufferSize h.socket
  have hrel := hR.recv_rel c.bufferSize h.socket
  rw [hrecv] at heq hrel
  rw [h.bufferSize]
  exact ⟨(Endpoint.recv c'.socket .regular c.bufferSize).2, Prod.ext heq rfl, hrel⟩

/-- A regular `peek` answers the same for related sockets, and leaves them related. -/
theorem peek (hR : Endpoint.Apart R) {s s' t : σ} (h : R s s') {answer : Except IoError Nat}
    (hpeek : Endpoint.peek s .regular = (answer, t)) :
    ∃ t', Endpoint.peek s' .regular = (answer, t') ∧ R t t' := by
  have heq := hR.peek_eq h
  have hrel := hR.peek_rel h
  rw [hpeek] at heq hrel
  exact ⟨(Endpoint.peek s' .regular).2, Prod.ext heq rfl, hrel⟩

omit [Endpoint σ] in
/-- Bytes come, and both framers are fed them. -/
theorem fed {c₁ : Client σ} {f f₁ : φ} {bytes : Bytes} {s s' : σ} (h : Alike R c c')
    (hs : R s s')
    (hfeed : { c with socket := s }.refillReads.feed f .regular bytes none = (c₁, f₁)) :
    ∃ c₁', { c' with socket := s' }.refillReads.feed f .regular bytes none = (c₁', f₁) ∧
      Alike R c₁ c₁' := by
  have hready := (h.onSocket hs).booked (.refillReads _) (.refillReads _)
  obtain ⟨hclient, hframer⟩ := hready.feed f bytes none
  rw [hfeed] at hclient hframer
  exact ⟨_, Prod.ext rfl hframer, hclient⟩

/-- The receiving loops of clients that are alike stay in step, unless an alarm ends one
    of them. -/
theorem receives (hR : Endpoint.Apart R) {now : Clock} {f : φ} {any retried : Bool}
    {r : Reception σ φ} (hr : Receives .regular now c f any retried r) (h : Alike R c c') :
    ∃ r', Receives .regular now c' f any retried r' ∧
      (r.IsSlow ∨ r'.IsSlow ∨ r.Alike R r') := by
  induction hr generalizing c' with
  | closed hrecv hof =>
    obtain ⟨s', hrecv', hs⟩ := h.recv hR hrecv
    exact ⟨_, .closed hrecv' hof, .inr (.inr ⟨rfl, rfl, rfl, h.onSocket hs⟩)⟩
  | failed hrecv hof =>
    obtain ⟨s', hrecv', hs⟩ := h.recv hR hrecv
    obtain ⟨herror, hclient⟩ := (h.onSocket hs).receiveError hR _
    exact ⟨_, .failed hrecv' hof, .inr (.inr ⟨congrArg Pause.failed herror, rfl, rfl, hclient⟩)⟩
  | interrupted hrecv hof _ ih =>
    obtain ⟨s', hrecv', hs⟩ := h.recv hR hrecv
    obtain ⟨r', hr', halike⟩ := ih (h.onSocket hs)
    exact ⟨r', .interrupted hrecv' hof hr', halike⟩
  | slow hrecv hof hfeed htrack =>
    -- Whatever the other loop comes to
    have hslow := (isSlowReceive_of_trackReceive htrack).1
    exact ⟨_, receives_receiveAll _ _ _ _ _ _, .inl ⟨_, rfl, hslow⟩⟩
  | @complete now _ c₁ c₂ f f₁ any retried answer s bytes hrecv hof hfeed htrack hdone =>
    obtain ⟨s', hrecv', hs⟩ := h.recv hR hrecv
    obtain ⟨c₁', hfeed', hfed⟩ := h.fed hs hfeed
    -- The watchdogs differ, so that the other one may raise its alarm here
    rcases htrack' : c₁'.trackReceive now.first bytes.length with ⟨_ | _, c₂'⟩
    · have hslow := (isSlowReceive_of_trackReceive htrack').1
      exact ⟨_, .slow hrecv' hof hfeed' htrack', .inr (.inl ⟨_, rfl, hslow⟩)⟩
    · have hclient := hfed.booked (.trackReceive htrack) (.trackReceive htrack')
      exact ⟨_, .complete hrecv' hof hfeed' htrack' hdone, .inr (.inr ⟨rfl, rfl, rfl, hclient⟩)⟩
  | @more now _ c₁ c₂ f f₁ any retried answer s bytes r hrecv hof hfeed htrack hdone _ ih =>
    obtain ⟨s', hrecv', hs⟩ := h.recv hR hrecv
    obtain ⟨c₁', hfeed', hfed⟩ := h.fed hs hfeed
    rcases htrack' : c₁'.trackReceive now.first bytes.length with ⟨_ | _, c₂'⟩
    · have hslow := (isSlowReceive_of_trackReceive htrack').1
      exact ⟨_, .slow hrecv' hof hfeed' htrack', .inr (.inl ⟨_, rfl, hslow⟩)⟩
    · obtain ⟨r', hr', halike⟩ := ih (hfed.booked (.trackReceive htrack) (.trackReceive htrack'))
      exact ⟨r', .more hrecv' hof hfeed' htrack' hdone hr', halike⟩
  | again hrecv hof hpeek hsaw _ ih =>
    obtain ⟨s', hrecv', hs⟩ := h.recv hR hrecv
    obtain ⟨t', hpeek', ht⟩ := peek hR hs hpeek
    obtain ⟨r', hr', halike⟩ := ih (h.onSocket ht)
    exact ⟨r', .again hrecv' hof hpeek' hsaw hr', halike⟩
  | idle hrecv hof hpeek hsaw =>
    obtain ⟨s', hrecv', hs⟩ := h.recv hR hrecv
    obtain ⟨t', hpeek', ht⟩ := peek hR hs hpeek
    refine ⟨_, .idle hrecv' hof hpeek' hsaw, .inr (.inr ⟨rfl, rfl, rfl, ?_⟩)⟩
    dsimp only
    split
    · exact h.onSocket ht
    · exact (h.onSocket ht).booked (.dryRead _) (.dryRead _)

end Alike

/-- Two answers agree: they are the same, or one of them gives the unfinished frame of the
    other up. -/
def Agree (a a' : Except NetworkError (Incoming σ)) : Prop :=
  a' = a ∨ ∃ frame address reason,
    a = .ok (.unfinished frame) ∧ a' = .error (.framingIncomplete address reason frame) ∨
    a = .error (.framingIncomplete address reason frame) ∧ a' = .ok (.unfinished frame)

/-- The answer is the watchdog's alarm. -/
def IsAlarm (a : Except NetworkError (Incoming σ)) : Prop :=
  ∃ e, a = .error e ∧ e.isSlowReceive = true

/-- Two reads came to the same, but for budgets and watchdogs. -/
structure ReadAlike (R : σ → σ → Prop) (x x' : Answer σ (Incoming σ) × φ) : Prop where
  answer : Agree x.1.1 x'.1.1
  framer : x'.2 = x.2
  client : Alike R x.1.2 x'.1.2

omit [Endpoint σ] [Framer φ] in
/-- Reads that answer the same, with the same framer, are `ReadAlike`. -/
theorem ReadAlike.same {c c' : Client σ} (h : Alike R c c')
    (answer : Except NetworkError (Incoming σ)) (f : φ) :
    ReadAlike R ((answer, c), f) ((answer, c'), f) :=
  ⟨.inl rfl, rfl, h⟩

/-- `readOutcome` hands on the alarm of a loop that was too slow. -/
theorem Reception.IsSlow.readOutcome {r : Reception σ φ} (h : r.IsSlow) :
    IsAlarm (readOutcome r).1.1 := by
  obtain ⟨e, hpause, hslow⟩ := h
  refine ⟨e, ?_, hslow⟩
  unfold Client.readOutcome
  rw [hpause]

/-- `readOutcome` of `Alike` receptions is `ReadAlike`. -/
theorem Reception.Alike.readOutcome (hR : Endpoint.Apart R) {r r' : Reception σ φ}
    (h : r.Alike R r') : ReadAlike R (readOutcome r) (readOutcome r') := by
  have hclient := h.client
  have hfinished := hclient.booked (.finishRead _) (.finishRead _)
  unfold Client.readOutcome
  rw [h.pause, h.framer, h.receivedAny]
  split
  · exact .same hclient _ _
  · dsimp only
    split
    · exact .same hfinished _ _
    · split
      · have hlost := hclient.disconnect
        split
        · exact .same (hlost.booked (.finishRead _) (.finishRead _)) _ _
        · -- the end of the stream came in the middle of a frame
          refine ⟨.inl ?_, rfl, hlost⟩
          exact congrArg (fun a => Except.error (NetworkError.connectionLost a))
            (hclient.address hR)
      · -- only here the budgets count
        have haddress := hfinished.address hR
        split
        · split
          · refine ⟨.inl ?_, rfl, hfinished⟩
            exact congrArg (fun a => Except.error (NetworkError.framingIncomplete a _ _)) haddress
          · exact ⟨.inr ⟨_, _, _, .inr ⟨rfl, rfl⟩⟩, rfl, hclient.booked (.finishRead _) (.refl _)⟩
        · split
          · exact ⟨.inr ⟨_, _, _, .inl ⟨rfl, rfl⟩⟩, rfl, hclient.booked (.refl _) (.finishRead _)⟩
          · exact .same hclient _ _

/-- A regular read over a connection that stands. -/
theorem readStream_regular {c : Client σ} (hconn : c.isConnected = true) (now : Clock)
    (f : φ) : c.readStream now f .regular =
      if Framer.isComplete f then ((c.anchorReceive now.first).complete f, f)
      else
        let (c, f) := (c.anchorReceive now.first).replay f .regular
        if Framer.isComplete f then (c.complete f, f)
        else readOutcome (c.receiveAll now.later f .regular false false) := by
  simp only [readStream, checkChannel, ensureConnected_of_isConnected hconn]

/-- Regular reads of clients that are alike come to the same, but for budgets and
    watchdogs, unless one of them ends with an alarm. -/
theorem Alike.readStream (hR : Endpoint.Apart R) {c c' : Client σ} (h : Alike R c c')
    (hconn : c.isConnected = true) (now : Clock) (f : φ) :
    IsAlarm (c.readStream now f .regular).1.1 ∨ IsAlarm (c'.readStream now f .regular).1.1 ∨
      ReadAlike R (c.readStream now f .regular) (c'.readStream now f .regular) := by
  have hconn' : c'.isConnected = true := by
    rw [isConnected, h.connection]
    exact hconn
  rw [readStream_regular hconn, readStream_regular hconn']
  have hanchored := h.booked (.anchorReceive c now.first) (.anchorReceive c' now.first)
  split
  · exact .inr (.inr (.same (hanchored.booked (.finishRead _) (.finishRead _)) _ _))
  · -- what was left over is the same for both, so the framers agree when the loops begin
    obtain ⟨hclient, hframer⟩ := hanchored.replay f
    rcases hreplay : (c.anchorReceive now.first).replay f .regular with ⟨d, g⟩
    rcases hreplay' : (c'.anchorReceive now.first).replay f .regular with ⟨d', g'⟩
    rw [hreplay, hreplay'] at hclient hframer
    cases hframer
    dsimp only
    split
    · exact .inr (.inr (.same (hclient.booked (.finishRead _) (.finishRead _)) _ _))
    · have hloop := receives_receiveAll d now.later g .regular false false
      -- The loops go side by side, unless a watchdog stops one of them
      obtain ⟨r', hloop', hslow | hslow' | halike⟩ := hclient.receives hR hloop
      · exact .inl hslow.readOutcome
      · rw [hloop'.receiveAll_eq]
        exact .inr (.inl hslow'.readOutcome)
      · rw [hloop'.receiveAll_eq]
        exact .inr (.inr (halike.readOutcome hR))

end Client

end FrameSocket
