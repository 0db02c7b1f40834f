import FrameSocket.Proofs.Conservation
import FrameSocket.Proofs.Segmentation

/-!
# What one read of a stream comes to

`Endpoint.Streams` says of a socket that it hands out a stream of bytes: in
portions of any size, with any waits and interruptions in between, and with an
end at most behind all of them.  A client that reads from such a socket with a
framer that awaits its frame comes to one of four outcomes (`Outcome`), and which
one it is depends on the bytes alone that it has by the end of the read, not on
how they came.

## Key results

- `Receives.paused`: what the receiving loop comes to
- `outcome_readStream`: what a read comes to with a framer that awaits its frame
- `outcome_readStream_start`: what it comes to with a fresh framer
-/

namespace FrameSocket

/-- A socket that hands out a stream on the regular channel.  `ahead` is what it has
    to hand out as yet; `flowing` holds until it tells the end, and `ended` after that.
    A receiving call that would have to wait uses something up, unless the socket is
    `dry`. -/
structure Endpoint.Streams {σ : Type} [Endpoint σ] (ahead : σ → Bytes)
    (flowing ended dry : σ → Prop) : Prop where
  recv_data : ∀ {s s' : σ} {n : Nat} {bytes : Bytes}, flowing s → 0 < n → bytes ≠ [] →
    Endpoint.recv s .regular n = (.ok bytes, s') → flowing s' ∧ ahead s = bytes ++ ahead s'
  recv_end : ∀ {s s' : σ} {n : Nat}, flowing s → 0 < n →
    Endpoint.recv s .regular n = (.ok [], s') → ended s' ∧ ahead s = [] ∧ ahead s' = []
  recv_error : ∀ {s s' : σ} {n : Nat} {e : IoError}, flowing s →
    Endpoint.recv s .regular n = (.error e, s') →
    (e.isBlocked = true ∨ e.isInterrupted = true) ∧ flowing s' ∧ ahead s' = ahead s ∧
      (e.isBlocked = true → Endpoint.supply s' < Endpoint.supply s ∨ dry s')
  peek : ∀ {s s' : σ} {answer : Except IoError Nat}, flowing s →
    Endpoint.peek s .regular = (answer, s') →
    flowing s' ∧ ahead s' = ahead s ∧ (dry s → dry s')

namespace Endpoint

variable {σ : Type} [Endpoint σ] {s s' : σ} {ch : Channel}

/-- No receiving call raises what the socket can bring. -/
theorem supply_le_of_recv {n : Nat} {answer : Except IoError Bytes}
    (h : recv s ch n = (answer, s')) : supply s' ≤ supply s := by
  have hle := supply_recv_le s ch n
  rw [h] at hle
  exact hle

/-- Nor does a peek. -/
theorem supply_le_of_peek {answer : Except IoError Nat} (h : peek s ch = (answer, s')) :
    supply s' ≤ supply s := by
  have hle := supply_peek_le s ch
  rw [h] at hle
  exact hle

end Endpoint

namespace Client

open Framer (Standard)

variable {σ : Type} [Endpoint σ]

/-- A client that can read a stream: it is connected, no speed is asked of the other
    side, and each receiving call asks for a byte at least. -/
structure Ready (flowing : σ → Prop) (c : Client σ) : Prop where
  connected : c.isConnected = true
  unwatched : c.receiveWatch = none
  asks : 0 < c.bufferSize
  flowing : flowing c.socket

namespace Ready

variable {flowing : σ → Prop} {c : Client σ}

omit [Endpoint σ] in
/-- A client is `Ready` on any socket that flows. -/
theorem onSocket (h : Ready flowing c) {s : σ} (hs : flowing s) :
    Ready flowing { c with socket := s } :=
  ⟨h.connected, h.unwatched, h.asks, hs⟩

omit [Endpoint σ] in
/-- `refillReads` leaves a client `Ready`. -/
theorem refillReads (h : Ready flowing c) : Ready flowing c.refillReads :=
  ⟨h.connected, h.unwatched, h.asks, h.flowing⟩

omit [Endpoint σ] in
/-- `finishRead` leaves a client `Ready`. -/
theorem finishRead (h : Ready flowing c) : Ready flowing c.finishRead := by
  refine ⟨h.connected, ?_, h.asks, h.flowing⟩
  show c.receiveWatch.map Watchdog.reset = none
  rw [h.unwatched]
  rfl

omit [Endpoint σ] in
/-- `anchorReceive` leaves a client `Ready`. -/
theorem anchorReceive (h : Ready flowing c) (now : Duration) :
    Ready flowing (c.anchorReceive now) := by
  refine ⟨h.connected, ?_, h.asks, h.flowing⟩
  show anchored c.receiveWatch _ = none
  rw [h.unwatched]
  rfl

omit [Endpoint σ] in
/-- `dryRead` leaves a client `Ready`. -/
theorem dryRead (h : Ready flowing c) : Ready flowing c.dryRead := by
  unfold Client.dryRead
  split <;> exact ⟨h.connected, h.unwatched, h.asks, h.flowing⟩

omit [Endpoint σ] in
/-- `keep` leaves a client `Ready`. -/
theorem keep (h : Ready flowing c) (ch : Channel) (rest : Bytes) (origin : Option String) :
    Ready flowing (c.keep ch rest origin) := by
  unfold Client.keep
  split <;> exact ⟨h.connected, h.unwatched, h.asks, h.flowing⟩

omit [Endpoint σ] in
/-- Nothing is slow where no speed is asked for. -/
theorem trackReceive (h : Ready flowing c) (now : Duration) (bytes : Nat) :
    c.trackReceive now bytes = (.ok (), c) := by
  unfold Client.trackReceive
  rw [h.unwatched]

end Ready

omit [Endpoint σ] in
/-- `dryRead` leaves the socket as it is. -/
theorem socket_dryRead (c : Client σ) : c.dryRead.socket = c.socket := by
  unfold dryRead
  split <;> rfl

omit [Endpoint σ] in
/-- `dryRead` leaves what waits as it is. -/
theorem waiting_dryRead (c : Client σ) : c.dryRead.waiting = c.waiting := by
  unfold dryRead
  split <;> rfl

/-! ## Feeding -/

section Feeding

variable {flowing : σ → Prop} {c : Client σ} {spec : FrameSpec} {s : Bytes} {f : Standard}

/-- What a client and its framer come to when the framer has been fed: either the frame
    has ended within `total`, and what lies behind waits, or the framer awaits the rest. -/
inductive Fed (flowing : σ → Prop) (spec : FrameSpec) (total : Bytes) (c : Client σ)
    (f : Standard) : Prop
  | complete {frame rest : Bytes} (hcut : spec.cut total false = some (frame, rest))
      (hready : Ready flowing c) (hdone : Framer.isComplete f = true)
      (hframe : (Framer.frame f).data = frame) (hwaiting : c.waiting .regular = rest)
  | awaits (hready : Ready flowing c) (hawaits : spec.Awaits total f)
      (hwaiting : c.waiting .regular = [])

omit [Endpoint σ] in
/-- A client that was `Fed` is `Ready`. -/
theorem Fed.ready {total : Bytes} (h : Fed flowing spec total c f) : Ready flowing c := by
  cases h with
  | complete _ hready _ _ _ => exact hready
  | awaits hready _ _ => exact hready

omit [Endpoint σ] in
/-- A chunk is fed while nothing waits. -/
theorem fed_feed (hready : Ready flowing c) (hawaits : spec.Awaits s f)
    (hwaiting : c.waiting .regular = []) (chunk : Bytes) (origin : Option String) :
    Fed flowing spec (s ++ chunk)
      (c.keep .regular (Framer.feed f chunk origin).2 origin) (Framer.feed f chunk origin).1 := by
  have hready' := hready.keep .regular (Framer.feed f chunk origin).2 origin
  have hkept : ∀ rest, (c.keep .regular rest origin).waiting .regular = rest := by
    intro rest
    rw [waiting_keep, Channel.extend_self, hwaiting, List.nil_append]
  -- The specification cuts where the framer does
  cases hcut : spec.cut (s ++ chunk) false with
  | none =>
    obtain ⟨hrest, hawaits'⟩ := hawaits.feed_none origin hcut
    refine .awaits hready' hawaits' ?_
    rw [hkept, hrest]
  | some x =>
    obtain ⟨hdone, hframe, hrest⟩ := hawaits.feed_some origin hcut
    refine .complete hcut hready' hdone hframe ?_
    rw [hkept, hrest]

omit [Endpoint σ] in
/-- Received bytes are fed while nothing waits. -/
theorem fed_received {c₁ : Client σ} {f₁ : Standard} (hready : Ready flowing c)
    (hawaits : spec.Awaits s f) (hwaiting : c.waiting .regular = []) {bytes : Bytes}
    {origin : Option String} (hfeed : c.feed f .regular bytes origin = (c₁, f₁)) :
    Fed flowing spec (s ++ bytes) c₁ f₁ ∧ c₁.socket = c.socket := by
  have hfed : Fed flowing spec (s ++ bytes) (c.feed f .regular bytes origin).1
      (c.feed f .regular bytes origin).2 :=
    fed_feed hready hawaits hwaiting bytes (origin.or c.remote)
  have hsocket := socket_feed c f .regular bytes origin
  rw [hfeed] at hfed hsocket
  exact ⟨hfed, hsocket⟩

omit [Endpoint σ] in
/-- What waits is fed. -/
theorem fed_replay (hready : Ready flowing c) (hawaits : spec.Awaits s f) :
    Fed flowing spec (s ++ c.waiting .regular) (c.replay f .regular).1
      (c.replay f .regular).2 := by
  unfold replay
  split
  · -- nothing waits
    rename_i htake
    have hget : c.leftovers.get .regular = none := congrArg Prod.fst htake
    have hwaiting : c.waiting .regular = [] := by
      rw [waiting, hget]
      rfl
    rw [hwaiting, List.append_nil]
    exact .awaits hready hawaits hwaiting
  · -- the slot is emptied, and its bytes are fed
    rename_i left leftovers htake
    have hget : c.leftovers.get .regular = some left := congrArg Prod.fst htake
    have hset : c.leftovers.set .regular none = leftovers := congrArg Prod.snd htake
    have hwaiting : c.waiting .regular = left.data := by
      rw [waiting, hget]
      rfl
    have hready' : Ready flowing { c with leftovers } :=
      ⟨hready.connected, hready.unwatched, hready.asks, hready.flowing⟩
    have hempty : ({ c with leftovers } : Client σ).waiting .regular = [] := by
      rw [waiting, ← hset, Leftovers.get_set_self]
      rfl
    rw [hwaiting]
    exact fed_feed hready' hawaits hempty left.data left.origin

end Feeding

/-! ## Receiving -/

section Receiving

/-- How the receiving loop pauses when its framer has been fed `total` by then.
    `supply` is what the socket could bring before. -/
inductive Paused (flowing ended dry : σ → Prop) (spec : FrameSpec) (total : Bytes)
    (supply : Nat) (r : Reception σ Standard) : Prop
  | complete {frame rest : Bytes} (hcut : spec.cut total false = some (frame, rest))
      (hpause : r.pause = .idle) (hready : Ready flowing r.client)
      (hdone : Framer.isComplete r.framer = true) (hframe : (Framer.frame r.framer).data = frame)
      (hwaiting : r.client.waiting .regular = rest)
      (hle : Endpoint.supply r.client.socket ≤ supply)
  | idle (hpause : r.pause = .idle) (hready : Ready flowing r.client)
      (hawaits : spec.Awaits total r.framer) (hwaiting : r.client.waiting .regular = [])
      (hless : Endpoint.supply r.client.socket < supply ∨ dry r.client.socket)
  | closed (hpause : r.pause = .closed) (hended : ended r.client.socket)
      (hawaits : spec.Awaits total r.framer)

variable {ahead : σ → Bytes} {flowing ended dry : σ → Prop}

/-- More can only have come before. -/
theorem Paused.mono {spec : FrameSpec} {total : Bytes} {supply supply' : Nat}
    {r : Reception σ Standard} (h : Paused flowing ended dry spec total supply r)
    (hle : supply ≤ supply') : Paused flowing ended dry spec total supply' r := by
  cases h with
  | complete hcut hpause hready hdone hframe hwaiting hle' =>
    exact .complete hcut hpause hready hdone hframe hwaiting (Nat.le_trans hle' hle)
  | idle hpause hready hawaits hwaiting hless =>
    exact .idle hpause hready hawaits hwaiting (hless.imp_left (Nat.lt_of_lt_of_le · hle))
  | closed hpause hended hawaits => exact .closed hpause hended hawaits

/-- A receiving call that brought bytes, and the feeding of them. -/
theorem Ready.received (hstreams : Endpoint.Streams ahead flowing ended dry)
    {c c₁ : Client σ} {f f₁ : Standard} {spec : FrameSpec} {s bytes : Bytes}
    {answer : Except IoError Bytes} {s₁ : σ} (hready : Ready flowing c)
    (hawaits : spec.Awaits s f) (hwaiting : c.waiting .regular = [])
    (hrecv : Endpoint.recv c.socket .regular c.bufferSize = (answer, s₁))
    (hof : Received.of .regular answer = .data bytes)
    (hfeed : { c with socket := s₁ }.refillReads.feed f .regular bytes none = (c₁, f₁)) :
    ahead c.socket = bytes ++ ahead c₁.socket ∧ Fed flowing spec (s ++ bytes) c₁ f₁ ∧
      Endpoint.supply c₁.socket ≤ Endpoint.supply c.socket := by
  obtain ⟨rfl, hne⟩ := Received.of_eq_data hof
  -- What is received is the front of what is ahead
  obtain ⟨hflowing, hahead⟩ := hstreams.recv_data hready.flowing hready.asks hne hrecv
  obtain ⟨hfed, hsocket⟩ :=
    fed_received (hready.onSocket hflowing).refillReads hawaits hwaiting hfeed
  have hle := Endpoint.supply_le_of_recv hrecv
  replace hsocket : c₁.socket = s₁ := hsocket
  rw [← hsocket] at hahead hle
  exact ⟨hahead, hfed, hle⟩

/-- A receiving call that found nothing, and the peek behind it. -/
theorem Ready.peeked (hstreams : Endpoint.Streams ahead flowing ended dry) {c : Client σ}
    {answer : Except IoError Bytes} {peeked : Except IoError Nat} {s₁ s₂ : σ}
    (hready : Ready flowing c)
    (hrecv : Endpoint.recv c.socket .regular c.bufferSize = (answer, s₁))
    (hof : Received.of .regular answer = .nothing)
    (hpeek : Endpoint.peek s₁ .regular = (peeked, s₂)) :
    Ready flowing { c with socket := s₂ } ∧ ahead s₂ = ahead c.socket ∧
      Endpoint.supply s₂ ≤ Endpoint.supply c.socket ∧
      (Endpoint.supply s₂ < Endpoint.supply c.socket ∨ dry s₂) := by
  -- A call that finds nothing would have had to wait
  obtain ⟨e, rfl, hblocked⟩ := Received.of_regular_eq_nothing hof
  obtain ⟨_, hflowing, hahead, hless⟩ := hstreams.recv_error hready.flowing hrecv
  obtain ⟨hflowing', hahead', hdry⟩ := hstreams.peek hflowing hpeek
  have hle := Endpoint.supply_le_of_peek hpeek
  refine ⟨hready.onSocket hflowing', hahead'.trans hahead, ?_, ?_⟩
  · exact Nat.le_trans hle (Endpoint.supply_le_of_recv hrecv)
  · exact (hless hblocked).imp (Nat.lt_of_le_of_lt hle) hdry

/-- The receiving loop of a client whose framer awaits the rest of its frame. -/
theorem Receives.paused (hstreams : Endpoint.Streams ahead flowing ended dry)
    {now : Clock} {c : Client σ} {f : Standard} {any retried : Bool}
    {r : Reception σ Standard} (hloop : Receives .regular now c f any retried r)
    {spec : FrameSpec} {s : Bytes} (hready : Ready flowing c) (hawaits : spec.Awaits s f)
    (hwaiting : c.waiting .regular = []) :
    ∃ got, ahead c.socket = got ++ ahead r.client.socket ∧
      Paused flowing ended dry spec (s ++ got) (Endpoint.supply c.socket) r := by
  induction hloop generalizing s with
  | closed hrecv hof =>
    rw [(Received.of_eq_closed hof).2] at hrecv
    obtain ⟨hended, hahead, hahead'⟩ := hstreams.recv_end hready.flowing hready.asks hrecv
    refine ⟨[], ?_, .closed rfl hended ?_⟩
    · rw [hahead, hahead', List.append_nil]
    · rw [List.append_nil]
      exact hawaits
  | failed hrecv hof =>
    -- Such a socket does not fail otherwise.
    obtain ⟨rfl, hblocked, hinterrupted⟩ := Received.of_eq_failed hof
    obtain ⟨hsort, _⟩ := hstreams.recv_error hready.flowing hrecv
    rw [hblocked, hinterrupted] at hsort
    simp at hsort
  | interrupted hrecv hof _ ih =>
    obtain ⟨e, rfl, _⟩ := Received.of_eq_interrupted hof
    obtain ⟨_, hflowing, hahead, _⟩ := hstreams.recv_error hready.flowing hrecv
    obtain ⟨got, hgot, hpaused⟩ := ih (hready.onSocket hflowing) hawaits hwaiting
    exact ⟨got, hahead ▸ hgot, hpaused.mono (Endpoint.supply_le_of_recv hrecv)⟩
  | slow hrecv hof hfeed htrack =>
    obtain ⟨_, hfed, _⟩ := hready.received hstreams hawaits hwaiting hrecv hof hfeed
    rw [hfed.ready.trackReceive] at htrack
    exact nomatch congrArg Prod.fst htrack
  | complete hrecv hof hfeed htrack hdone =>
    obtain ⟨hahead, hfed, hle⟩ := hready.received hstreams hawaits hwaiting hrecv hof hfeed
    rw [hfed.ready.trackReceive] at htrack
    cases htrack
    refine ⟨_, hahead, ?_⟩
    cases hfed with
    | complete hcut hready' _ hframe hwaiting' =>
      exact .complete hcut rfl hready' hdone hframe hwaiting' hle
    | awaits _ hawaits' _ =>
      rw [hawaits'.isComplete_eq_false] at hdone
      exact nomatch hdone
  | @more now c c₁ c₂ f f₁ any retried answer s₁ bytes r hrecv hof hfeed htrack hdone _ ih =>
    obtain ⟨hahead, hfed, hle⟩ := hready.received hstreams hawaits hwaiting hrecv hof hfeed
    rw [hfed.ready.trackReceive] at htrack
    cases htrack
    cases hfed with
    | complete _ _ hdone' _ _ =>
      rw [hdone] at hdone'
      exact nomatch hdone'
    | awaits hready' hawaits' hwaiting' =>
      obtain ⟨got, hgot, hpaused⟩ := ih hready' hawaits' hwaiting'
      refine ⟨bytes ++ got, ?_, ?_⟩
      · rw [hahead, hgot, ← List.append_assoc]
      · rw [← List.append_assoc]
        exact hpaused.mono hle
  | again hrecv hof hpeek hsaw _ ih =>
    obtain ⟨hready', hahead, hle, _⟩ := hready.peeked hstreams hrecv hof hpeek
    obtain ⟨got, hgot, hpaused⟩ := ih hready' hawaits hwaiting
    exact ⟨got, hahead ▸ hgot, hpaused.mono hle⟩
  | idle hrecv hof hpeek hsaw =>
    obtain ⟨hready', hahead, _, hless⟩ := hready.peeked hstreams hrecv hof hpeek
    -- A dry read costs a part of the budget and changes nothing else.
    refine ⟨[], ?_, ?_⟩
    · split
      · exact hahead.symm
      · rw [socket_dryRead]
        exact hahead.symm
    · rw [List.append_nil]
      split
      · exact .idle rfl hready' hawaits hwaiting hless
      · refine .idle rfl hready'.dryRead hawaits ?_ ?_
        · rw [waiting_dryRead]
          exact hwaiting
        · rw [socket_dryRead]
          exact hless

/-! ## Reading -/

/-- Whether a caller goes on with the same frame: it is unfinished, or was given up for
    now because too many reads found nothing. -/
def goesOn : Except NetworkError (Incoming σ) → Bool
  | .ok (.unfinished _) => true
  | .error (.framingIncomplete ..) => true
  | _ => false

/-- What a read comes to when its framer has been fed `total` by the end of it.  `supply`
    is what the socket could bring before. -/
inductive Outcome (flowing ended dry : σ → Prop) (spec : FrameSpec) (total : Bytes)
    (supply : Nat) : Answer σ (Incoming σ) × Standard → Prop
  /-- The frame has ended; what lies behind it waits. -/
  | complete {c : Client σ} {f : Standard} {frame : Frame} {rest : Bytes}
      (hcut : spec.cut total false = some (frame.data, rest)) (hready : Ready flowing c)
      (hframe : Framer.frame f = frame) (hwaiting : c.waiting .regular = rest)
      (hle : Endpoint.supply c.socket ≤ supply) :
      Outcome flowing ended dry spec total supply ((.ok (.complete frame), c), f)
  /-- The frame goes on with the next read. -/
  | goesOn {answer : Except NetworkError (Incoming σ)} {c : Client σ} {f : Standard}
      (hanswer : goesOn answer = true) (hready : Ready flowing c)
      (hawaits : spec.Awaits total f) (hwaiting : c.waiting .regular = [])
      (hless : Endpoint.supply c.socket < supply ∨ dry c.socket) :
      Outcome flowing ended dry spec total supply ((answer, c), f)
  /-- The other side has closed, which is the end of the frame. -/
  | completeAtEnd {c : Client σ} {f : Standard} {frame : Frame}
      (hopen : spec.cut total false = none)
      (hcut : spec.cut total true = some (frame.data, [])) (hframe : Framer.frame f = frame)
      (hended : ended c.socket) :
      Outcome flowing ended dry spec total supply ((.ok (.complete frame), c), f)
  /-- The other side has closed, and the frame has no end. -/
  | lost {c : Client σ} {f : Standard} {address : String}
      (hcut : spec.cut total true = none) (hended : ended c.socket) :
      Outcome flowing ended dry spec total supply ((.error (.connectionLost address), c), f)

/-- What a read comes to after its receiving loop. -/
theorem Paused.outcome {spec : FrameSpec} {total : Bytes} {supply : Nat}
    {r : Reception σ Standard} (h : Paused flowing ended dry spec total supply r) :
    Outcome flowing ended dry spec total supply (readOutcome r) ∧
      (readOutcome r).1.2.socket = r.client.socket := by
  obtain ⟨pause, any, c, f⟩ := r
  cases h with
  | complete hcut hpause hready hdone hframe hwaiting hle =>
    obtain rfl : pause = .idle := hpause
    have hread : readOutcome ⟨.idle, any, c, f⟩ = (c.complete f, f) := if_pos hdone
    rw [hread]
    refine ⟨.complete ?_ hready.finishRead rfl hwaiting hle, rfl⟩
    rw [hcut, ← hframe]
  | idle hpause hready hawaits hwaiting hless =>
    obtain rfl : pause = .idle := hpause
    have hread : readOutcome ⟨.idle, any, c, f⟩ =
        if !any && c.readAttempts = 0 then (c.incomplete f "read attempts exhausted", f)
        else (c.unfinished f, f) :=
      if_neg (Bool.eq_false_iff.mp hawaits.isComplete_eq_false)
    rw [hread]
    split
    · -- the budget of reads is used up
      exact ⟨.goesOn rfl hready.finishRead hawaits hwaiting hless, rfl⟩
    · exact ⟨.goesOn rfl hready hawaits hwaiting hless, rfl⟩
  | closed hpause hended hawaits =>
    obtain rfl : pause = .closed := hpause
    have hread : readOutcome ⟨.closed, any, c, f⟩ =
        if (Framer.close f).2 then
          (c.disconnect.complete (Framer.close f).1, (Framer.close f).1)
        else (failed c.lost, (Framer.close f).1) :=
      if_neg (Bool.eq_false_iff.mp hawaits.isComplete_eq_false)
    rw [hread]
    rcases hawaits.close with ⟨hcut, hopen⟩ | ⟨frame, hcut, hclosed, hframe⟩
    · -- the end of the stream leaves the frame open
      rw [hopen]
      exact ⟨.lost hcut hended, rfl⟩
    · -- the end of the stream completes the frame
      rw [hclosed]
      refine ⟨.completeAtEnd hawaits.cut_eq_none ?_ rfl hended, rfl⟩
      rw [hcut, ← hframe]

/-- A read with a framer that awaits its frame. -/
theorem outcome_readStream (hstreams : Endpoint.Streams ahead flowing ended dry)
    {c : Client σ} {f : Standard} {spec : FrameSpec} {s : Bytes} (hready : Ready flowing c)
    (hawaits : spec.Awaits s f) (now : Clock) :
    ∃ got, ahead c.socket = got ++ ahead (c.readStream now f .regular).1.2.socket ∧
      Outcome flowing ended dry spec (s ++ c.waiting .regular ++ got)
        (Endpoint.supply c.socket) (c.readStream now f .regular) := by
  have hfed := fed_replay (hready.anchorReceive now.first) hawaits
  have hsocket := socket_replay (c.anchorReceive now.first) f .regular
  rcases hreplay : (c.anchorReceive now.first).replay f .regular with ⟨c₁, f₁⟩
  rw [hreplay] at hfed hsocket
  replace hsocket : c₁.socket = c.socket := hsocket
  have hread : c.readStream now f .regular =
      if Framer.isComplete f₁ then (c₁.complete f₁, f₁)
      else readOutcome (c₁.receiveAll now.later f₁ .regular false false) := by
    simp only [readStream, checkChannel, ensureConnected_of_isConnected hready.connected,
      hawaits.isComplete_eq_false, hreplay, Bool.false_eq_true, if_false]
  rw [hread]
  cases hfed with
  | complete hcut hready₁ hdone hframe hwaiting =>
    -- What waited holds the whole frame: nothing is received.
    rw [if_pos hdone]
    refine ⟨[], ?_, .complete ?_ hready₁.finishRead rfl hwaiting ?_⟩
    · show ahead c.socket = [] ++ ahead c₁.socket
      rw [hsocket, List.nil_append]
    · rw [List.append_nil, hframe]
      exact hcut
    · show Endpoint.supply c₁.socket ≤ _
      rw [hsocket]
  | awaits hready₁ hawaits₁ hwaiting =>
    rw [if_neg (Bool.eq_false_iff.mp hawaits₁.isComplete_eq_false)]
    obtain ⟨got, hgot, hpaused⟩ :=
      (receives_receiveAll c₁ now.later f₁ .regular false false).paused hstreams hready₁ hawaits₁
        hwaiting
    obtain ⟨houtcome, hlast⟩ := hpaused.outcome
    rw [hsocket] at hgot houtcome
    refine ⟨got, ?_, houtcome⟩
    rw [hlast]
    exact hgot

/-- A read with a framer that has not been fed. -/
theorem outcome_readStream_start (hstreams : Endpoint.Streams ahead flowing ended dry)
    {c : Client σ} {spec : FrameSpec} (hready : Ready flowing c) (hproper : spec.IsProper)
    (now : Clock) :
    ∃ got, ahead c.socket = got ++ ahead (c.readStream now spec.start .regular).1.2.socket ∧
      Outcome flowing ended dry spec (c.waiting .regular ++ got)
        (Endpoint.supply c.socket) (c.readStream now spec.start .regular) := by
  cases hcut : spec.cut [] false with
  | none => exact outcome_readStream hstreams hready (FrameSpec.awaits_start hproper hcut) now
  | some x =>
    -- The frame has ended before anything came: nothing is fed.
    obtain ⟨hdone, hframe, hrest⟩ := FrameSpec.start_isComplete hproper hcut
    have hread : c.readStream now spec.start .regular =
        ((c.anchorReceive now.first).complete spec.start, spec.start) := by
      simp only [readStream, checkChannel, ensureConnected_of_isConnected hready.connected, hdone,
        if_true]
    rw [hread]
    refine ⟨[], rfl, .complete ?_ (hready.anchorReceive now.first).finishRead rfl rfl
      (Nat.le_refl _)⟩
    have hmore := FrameSpec.cut_append hcut (c.waiting .regular) false
    rw [List.append_nil, hframe]
    rw [hrest] at hmore
    exact hmore

end Receiving

end Client

end FrameSocket
