import FrameSocket.Proofs.Exchanges
import FrameSocket.Proofs.Writing

/-!
# The life of a stream client's connection

A stream client starts without a connection, gains it once, and loses it once.  Before it
has one, an operation does nothing but ask the socket how it stands.  While it has one,
only an answer of the socket takes it away: the end of the stream, or an error of a kind
that means that the other side is gone.  After that every operation fails at once, and
leaves client, framer and socket as they are.

## Key results

- `Passage`: what one operation does to the connection
- `Proceeds.receives` / `Proceeds.keptByWriting`: what the loops keep of it
- `Settled.after`: what each step of a run keeps
- `Gone.run`: nothing happens to a client whose connection is gone
- `lifecycle_run`: the whole life, over any run
-/

namespace FrameSocket.Client

variable {σ φ : Type} [Endpoint σ] [Framer φ]

/-! ## Operations over a connection -/

/-- One of the calls on record told that the other side is gone. -/
def LossTold (c : Client (Traced σ)) : Prop := ∃ x ∈ c.socket.exchanges, x.tellsLoss = true

/-- From `c` to `c'` the peer stayed the same, and so did the connection unless a call
    told of its loss. -/
structure Proceeds (c c' : Client (Traced σ)) : Prop where
  exchanges : c.socket.exchanges <+: c'.socket.exchanges
  remote : c'.remote = c.remote
  wasConnected : c'.wasConnected = c.wasConnected
  connection : c'.connection = c.connection ∨ c'.LossTold

namespace Proceeds

variable {c c' c'' : Client (Traced σ)}

omit [Endpoint σ] in
/-- A call that does nothing `Proceeds`. -/
theorem refl (c : Client (Traced σ)) : Proceeds c c := ⟨List.prefix_refl _, rfl, rfl, .inl rfl⟩

omit [Endpoint σ] in
/-- A loss that was told stays on record. -/
theorem lossTold (h : Proceeds c c') (htold : c.LossTold) : c'.LossTold := by
  obtain ⟨x, hx, hloss⟩ := htold
  exact ⟨x, h.exchanges.subset hx, hloss⟩

omit [Endpoint σ] in
/-- Steps of a call that `Proceeds` can be taken one after the other. -/
theorem trans (h : Proceeds c c') (h' : Proceeds c' c'') : Proceeds c c'' where
  exchanges := h.exchanges.trans h'.exchanges
  remote := h'.remote.trans h.remote
  wasConnected := h'.wasConnected.trans h.wasConnected
  connection := by
    rcases h'.connection with hsame | htold
    · rcases h.connection with hsame' | htold'
      · exact .inl (hsame.trans hsame')
      · exact .inr (h'.lossTold htold')
    · exact .inr htold

omit [Endpoint σ] in
/-- `Booked` steps are among them. -/
theorem of_booked (h : Booked c c') : Proceeds c c' := by
  refine ⟨⟨[], ?_⟩, h.remote, h.wasConnected, .inl h.connection⟩
  rw [h.socket, List.append_nil]

omit [Endpoint σ] in
/-- One more call, whatever its answer. -/
theorem onSocket {s : Traced σ} {x : Exchange} (h : s.exchanges = c.socket.exchanges ++ [x]) :
    Proceeds c { c with socket := s } := by
  refine ⟨?_, rfl, rfl, .inl rfl⟩
  exact ⟨[x], h.symm⟩

omit [Endpoint σ] in
/-- Only a client that was told so takes its connection for lost. -/
theorem disconnect (htold : c.LossTold) : Proceeds c c.disconnect :=
  ⟨List.prefix_refl _, rfl, rfl, .inr htold⟩

/-! Receiving -/

/-- A `recv` `Proceeds`, whatever it answers. -/
theorem recv {ch : Channel} {n : Nat} {answer : Except IoError Bytes} {s : Traced σ}
    (h : Endpoint.recv c.socket ch n = (answer, s)) : Proceeds c { c with socket := s } :=
  onSocket (Traced.exchanges_recv h)

/-- A `peek` `Proceeds`, whatever it answers. -/
theorem peek {ch : Channel} {answer : Except IoError Nat} {s : Traced σ}
    (h : Endpoint.peek c.socket ch = (answer, s)) : Proceeds c { c with socket := s } :=
  onSocket (Traced.exchanges_peek h)

/-- A receiving call that fails may tell of the loss, and then the connection is lost. -/
theorem recvFailed {ch : Channel} {n : Nat} {e : IoError} {s : Traced σ}
    (h : Endpoint.recv c.socket ch n = (.error e, s)) :
    Proceeds c ({ c with socket := s }.receiveError e).2 := by
  unfold Client.receiveError
  split
  · rename_i hgone
    -- The peer is gone, and the call that told of it is on record
    apply (recv h).trans
    apply disconnect
    refine ⟨.recv ch n (.error e), ?_, ?_⟩
    · show _ ∈ s.exchanges
      simp [Traced.exchanges_recv h]
    · cases ch <;> exact hgone
  · exact recv h

omit [Endpoint σ] in
/-- `keep` `Proceeds`. -/
theorem keep (c : Client (Traced σ)) (ch : Channel) (rest : Bytes) (origin : Option String) :
    Proceeds c (c.keep ch rest origin) := by
  unfold Client.keep
  split
  · exact refl c
  · exact ⟨List.prefix_refl _, rfl, rfl, .inl rfl⟩

omit [Endpoint σ] in
/-- `replay` `Proceeds`. -/
theorem replay (c : Client (Traced σ)) (f : φ) (ch : Channel) :
    Proceeds c (c.replay f ch).1 := by
  unfold Client.replay
  split
  · exact refl c
  · rename_i left leftovers htake
    have htaken : Proceeds c { c with leftovers } := ⟨List.prefix_refl _, rfl, rfl, .inl rfl⟩
    exact htaken.trans (keep _ ch _ _)

/-- Bytes come, a framer is fed them, and the watchdog is told. -/
theorem received {c₁ c₂ : Client (Traced σ)} {f f₁ : φ} {ch : Channel} {n : Nat} {now : Duration}
    {bytes : Bytes} {answer : Except IoError Bytes} {tracked : Except NetworkError Unit}
    {s : Traced σ} (hrecv : Endpoint.recv c.socket ch n = (answer, s))
    (hfeed : { c with socket := s }.refillReads.feed f ch bytes none = (c₁, f₁))
    (htrack : c₁.trackReceive now bytes.length = (tracked, c₂)) : Proceeds c c₂ := by
  have hfed : Proceeds { c with socket := s }.refillReads c₁ := by
    rw [← show _ = c₁ from congrArg Prod.fst hfeed]
    exact keep _ ch _ _
  have hready : Proceeds c { c with socket := s }.refillReads :=
    (recv hrecv).trans (of_booked (.refillReads _))
  exact (hready.trans hfed).trans (of_booked (.trackReceive htrack))

/-- Only a stream whose end was told pauses as closed. -/
theorem receives {now : Clock} {ch : Channel} {f : φ} {any retried : Bool}
    {r : Reception (Traced σ) φ} (hr : Receives ch now c f any retried r) :
    Proceeds c r.client ∧ (r.pause = .closed → r.client.LossTold) := by
  induction hr with
  -- Only an empty `recv` on the regular channel closes a stream, and it is on record
  | @closed now c f any retried answer s hrecv hof =>
    obtain ⟨rfl, rfl⟩ := Received.of_eq_closed hof
    refine ⟨recv hrecv, fun _ => ⟨.recv .regular c.bufferSize (.ok []), ?_, rfl⟩⟩
    show _ ∈ s.exchanges
    simp [Traced.exchanges_recv hrecv]
  | failed hrecv hof =>
    rw [(Received.of_eq_failed hof).1] at hrecv
    exact ⟨recvFailed hrecv, by simp⟩
  | interrupted hrecv hof _ ih => exact ⟨(recv hrecv).trans ih.1, ih.2⟩
  | slow hrecv hof hfeed htrack => exact ⟨received hrecv hfeed htrack, by simp⟩
  | complete hrecv hof hfeed htrack _ => exact ⟨received hrecv hfeed htrack, by simp⟩
  | more hrecv hof hfeed htrack _ _ ih =>
    exact ⟨(received hrecv hfeed htrack).trans ih.1, ih.2⟩
  | again hrecv hof hpeek _ _ ih => exact ⟨((recv hrecv).trans (peek hpeek)).trans ih.1, ih.2⟩
  | idle hrecv hof hpeek _ =>
    have hquiet := (recv hrecv).trans (peek hpeek)
    refine ⟨?_, by simp⟩
    dsimp only
    split
    · exact hquiet
    · -- the read is dry
      exact hquiet.trans (of_booked (.dryRead _))

/-- `readOutcome` disconnects only behind a loss that was told. -/
theorem readOutcome {r : Reception (Traced σ) φ} (htold : r.pause = .closed → r.client.LossTold) :
    Proceeds r.client (Client.readOutcome r).1.2 := by
  unfold Client.readOutcome
  split
  · exact refl _
  · dsimp only
    split
    · exact of_booked (.finishRead _)
    · split
      · rename_i hclosed
        have hlost : Proceeds r.client r.client.disconnect := disconnect (htold hclosed)
        split
        · -- the end of the stream ends the frame
          exact hlost.trans (of_booked (.finishRead _))
        · exact hlost
      · split
        · exact of_booked (.finishRead _)
        · exact refl _

/-! Sending -/

/-- A `send` `Proceeds`, whatever it answers. -/
theorem send {ch : Channel} {data : Bytes} {answer : Except IoError Nat} {s : Traced σ}
    (h : Endpoint.send c.socket ch data = (answer, s)) : Proceeds c { c with socket := s } :=
  onSocket (Traced.exchanges_send h)

/-- A sending call that fails may tell of the loss, too. -/
theorem sendFailed {ch : Channel} {data : Bytes} {e : IoError} {s : Traced σ}
    (h : Endpoint.send c.socket ch data = (.error e, s)) :
    Proceeds c ({ c with socket := s }.sendError e).2 := by
  unfold Client.sendError
  split
  · rename_i hgone
    -- The peer is gone, and the call that told of it is on record
    apply (send h).trans
    apply disconnect
    refine ⟨.send ch data (.error e), ?_, hgone⟩
    show _ ∈ s.exchanges
    simp [Traced.exchanges_send h]
  · exact send h

/-- Everything that a write does `Proceeds`. -/
theorem keptByWriting : KeptByWriting (Proceeds (σ := σ)) where
  trans := trans
  books _ _ _ _ := of_booked ⟨rfl, rfl, rfl, rfl, rfl, rfl⟩
  send := send
  failed := sendFailed

end Proceeds

/-! ## One operation -/

/-- What one operation does to the connection.  `x` is what the caller hands in, and `x'`
    what it has afterwards: for a read the framer. -/
inductive Passage {α : Type} (c : Client (Traced σ)) (x : α) : Client (Traced σ) → α → Prop
  /-- The operation was refused at once, or there is no connection yet. -/
  | idle {s : Traced σ} (hasked : c.socket.Asked s) : Passage c x { c with socket := s } x
  /-- The connection is gone. -/
  | gone (hconn : c.isConnected = false) (hwas : c.wasConnected = true) :
      Passage c x c.disconnect x
  /-- It is gained, and then the operation proceeds. -/
  | gained {s : Traced σ} {address : String} {c' : Client (Traced σ)} {x' : α}
      (hwas : c.wasConnected = false)
      (h : Proceeds ({ c with socket := s }.markConnected address) c') : Passage c x c' x'
  /-- It stands. -/
  | stands {c' : Client (Traced σ)} {x' : α} (hconn : c.isConnected = true) (h : Proceeds c c') :
      Passage c x c' x'

namespace Passage

variable {α : Type} {c c₁ c' : Client (Traced σ)} {x x' : α}

omit [Endpoint σ] in
/-- A call that is refused is a `Passage` that does nothing. -/
theorem refused (c : Client (Traced σ)) (x : α) : Passage c x c x :=
  idle ⟨[], (List.append_nil _).symm, fun _ hx => nomatch hx⟩

/-- The operation ends when the client has found out how its connection stands. -/
theorem of_ensures {answer : Except NetworkError Bool} (h : Ensures c answer c')
    (hanswer : answer ≠ .ok true) : Passage c x c' x := by
  cases h with
  | stands hconn => exact absurd rfl hanswer
  | gone hconn hwas => exact gone hconn hwas
  | gained hconn hwas hasked => exact absurd rfl hanswer
  | absent hconn hwas hasked _ => exact idle hasked

/-- It goes on over a connection that stands. -/
theorem of_proceeds (h : Ensures c (.ok true) c₁) (hproceeds : Proceeds c₁ c') :
    Passage c x c' x' := by
  cases h with
  | stands hconn => exact stands hconn hproceeds
  | gained hconn hwas hasked => exact gained hwas hproceeds
  | absent hconn hwas hasked hanswer => exact absurd rfl hanswer

end Passage

/-- A read whose client has found its connection standing proceeds over it. -/
theorem proceeds_readStream {c c' : Client (Traced σ)} {now : Clock} {ch : Channel}
    (hchannel : c.checkChannel ch = .ok ())
    (hensured : c.ensureConnected now.first = (.ok true, c')) (f : φ) :
    Proceeds c' (c.readStream now f ch).1.2 := by
  have hanchored : Proceeds c' (c'.anchorReceive now.first) :=
    .of_booked (.anchorReceive c' now.first)
  simp only [readStream, hchannel, hensured]
  split
  · -- the frame was complete before
    exact hanchored.trans (.of_booked (.finishRead _))
  · have hreplayed := hanchored.trans (.replay (c'.anchorReceive now.first) f ch)
    generalize (c'.anchorReceive now.first).replay f ch = replayed at hreplayed ⊢
    obtain ⟨c₁, f₁⟩ := replayed
    dsimp only
    split
    · -- what waited completes it
      exact hreplayed.trans (.of_booked (.finishRead _))
    · obtain ⟨hreceived, htold⟩ :=
        Proceeds.receives (receives_receiveAll c₁ now.later f₁ ch false false)
      exact (hreplayed.trans hreceived).trans (.readOutcome htold)

/-- Every read of a stream is a `Passage`. -/
theorem passage_readStream (c : Client (Traced σ)) (now : Clock) (f : φ) (ch : Channel) :
    Passage c f (c.readStream now f ch).1.2 (c.readStream now f ch).2 := by
  cases hchannel : c.checkChannel ch with
  | error e =>
    simp only [readStream, hchannel]
    exact .refused c f
  | ok =>
    rcases hensured : c.ensureConnected now.first with ⟨answer, c'⟩
    have hensures := ensures_ensureConnected hensured
    -- Without a connection the read ends here; with one, the rest of it proceeds
    rcases answer with e | _ | _
    · simp only [readStream, hchannel, hensured]
      exact .of_ensures hensures (by simp)
    · simp only [readStream, hchannel, hensured]
      exact .of_ensures hensures (by simp)
    · exact .of_proceeds hensures (proceeds_readStream hchannel hensured f)

/-- A write whose client has found its connection standing proceeds over it. -/
theorem proceeds_writeStream {c c' : Client (Traced σ)} {now : Clock} {data : Bytes}
    {ch : Channel} (hchannel : c.checkChannel ch = .ok ())
    (hsize : c.checkUrgentSize ch data = .ok ())
    (hensured : c.ensureConnected now.first = (.ok true, c')) :
    Proceeds c' (c.writeStream now data ch).2 :=
  Proceeds.keptByWriting.writeStream_of_ensured hchannel hsize hensured

/-- Every write to a stream is a `Passage`. -/
theorem passage_writeStream (c : Client (Traced σ)) (now : Clock) (data : Bytes)
    (ch : Channel) : Passage c () (c.writeStream now data ch).2 () := by
  cases hchannel : c.checkChannel ch with
  | error e =>
    simp only [writeStream, hchannel]
    exact .refused c ()
  | ok =>
    cases hsize : c.checkUrgentSize ch data with
    | error e =>
      simp only [writeStream, hchannel, hsize]
      exact .refused c ()
    | ok =>
      rcases hensured : c.ensureConnected now.first with ⟨answer, c'⟩
      have hensures := ensures_ensureConnected hensured
      -- Without a connection the write ends here; with one, the rest of it proceeds
      rcases answer with e | _ | _
      · simp only [writeStream, hchannel, hsize, hensured]
        exact .of_ensures hensures (by simp)
      · simp only [writeStream, hchannel, hsize, hensured]
        exact .of_ensures hensures (by simp)
      · exact .of_proceeds hensures (proceeds_writeStream hchannel hsize hensured)

/-! ## Steps of a run -/

/-- The client without its socket. -/
def bare (c : Client σ) : Client Unit := c.mapSocket fun _ => ()

/-- What holds of a stream client all along a run, when it was made with `config` at
    `made`. -/
structure Settled (config : Config) (made : Duration) (c : Client σ) : Prop where
  fresh : c.wasConnected = false → c.bare = new () config config.readBufferSize made
  connected : c.isConnected = true → c.wasConnected = true
  known : c.wasConnected = true → c.remote.isSome = true

/-- The step did nothing but ask the socket how it stands: it neither received, nor
    peeked, nor sent, and it left client and framer as they were. -/
structure Quiet (c : Client σ) (step : Step σ φ) : Prop where
  exchanges : ∀ x ∈ c.exchangesOf .stream step, x.asksState = true
  client : (c.after .stream step).bare = c.bare
  framer : ∀ now f ch, step = .read now f ch → (c.read .stream now f ch).2 = f

omit [Endpoint σ] in
/-- A client that was just made has nothing to reset. -/
theorem resetTransfer_new (s : σ) (config : Config) (size : Nat) (now : Duration) :
    (new s config size now).resetTransfer = new s config size now := by
  have hwatch : ∀ (speed : Option Float) (limit : Float),
      (speed.map (Watchdog.new · limit)).map Watchdog.reset = speed.map (Watchdog.new · limit) := by
    intro speed limit
    cases speed <;> rfl
  simp only [resetTransfer, finishRead, finishSend, refillReads, refillWrites, new, hwatch]

namespace Passage

variable {α : Type} {c c' : Client (Traced σ)} {x x' : α} {config : Config} {made : Duration}

omit [Endpoint σ] in
/-- An operation over a connection leaves a client that has been connected. -/
private theorem wasConnected_of_proceeds (h : Proceeds c c') (hwas : c.wasConnected = true) :
    c'.wasConnected ≠ false := by
  rw [h.wasConnected, hwas]
  decide

omit [Endpoint σ] in
/-- A `Passage` leaves a client `Settled`. -/
theorem settled (h : Passage c x c' x') (hc : Settled config made c) :
    Settled config made c' := by
  cases h with
  | idle hasked => exact ⟨hc.fresh, hc.connected, hc.known⟩
  | gone hconn hwas =>
    refine ⟨fun hfresh => ?_, fun hc' => (nomatch of_decide_eq_true hc'), hc.known⟩
    exact absurd (hwas.symm.trans hfresh) (by decide)
  -- The client is connected for the first time, and learns the address
  | gained hwas h =>
    refine ⟨fun hfresh => absurd hfresh (wasConnected_of_proceeds h rfl), fun _ => ?_, fun _ => ?_⟩
    · exact h.wasConnected
    · rw [h.remote]
      rfl
  | stands hconn h =>
    have hwas : c.wasConnected = true := hc.connected hconn
    refine ⟨fun hfresh => absurd hfresh (wasConnected_of_proceeds h hwas), fun _ => ?_, fun _ => ?_⟩
    · exact h.wasConnected.trans hwas
    · rw [h.remote]
      exact hc.known hwas

omit [Endpoint σ] in
/-- A peer that is known stays the same. -/
theorem remote (h : Passage c x c' x') (hwas : c.wasConnected = true) : c'.remote = c.remote := by
  cases h with
  | idle hasked => rfl
  | gone hconn hwas => rfl
  | gained hwas' h => exact absurd (hwas'.symm.trans hwas) (by decide)
  | stands hconn h => exact h.remote

omit [Endpoint σ] in
/-- As long as there has been no connection, the socket is only asked how it stands. -/
theorem quiet (h : Passage c x c' x') (hc : Settled config made c)
    (hnone : c.socket.exchanges = []) (hfresh : c'.wasConnected = false) :
    (∀ y ∈ c'.socket.exchanges, y.asksState = true) ∧ c'.bare = c.bare ∧ x' = x := by
  cases h with
  | idle hasked =>
    obtain ⟨asked, hasked, hasks⟩ := hasked
    refine ⟨fun y hy => hasks y ?_, rfl, rfl⟩
    show y ∈ asked
    rw [← List.nil_append asked, ← hnone, ← hasked]
    exact hy
  -- The other three need a client that has been connected
  | gone hconn hwas => exact absurd (hwas.symm.trans hfresh) (by decide)
  | gained hwas h => exact absurd hfresh (wasConnected_of_proceeds h rfl)
  | stands hconn h => exact absurd hfresh (wasConnected_of_proceeds h (hc.connected hconn))

omit [Endpoint σ] in
/-- A connection does not go in an operation that was not told of it. -/
theorem lossTold (h : Passage c x c' x') (hafter : c'.isConnected = false)
    (hbefore : c.isConnected = true ∨ c.wasConnected = false ∧ c'.wasConnected = true) :
    c'.LossTold := by
  have hgone : c'.connection ≠ .connected := of_decide_eq_false hafter
  cases h with
  | @idle s hasked =>
    rcases hbefore with hconn | ⟨hwas, hwas'⟩
    · exact absurd (of_decide_eq_true hconn) hgone
    · exact absurd (hwas.symm.trans hwas') (by decide)
  | gone hconn hwas =>
    rcases hbefore with hconn' | ⟨hwas', _⟩
    · exact absurd (hconn.symm.trans hconn') (by decide)
    · exact absurd (hwas'.symm.trans hwas) (by decide)
  -- A connection that is gone again was lost within the call
  | gained hwas h =>
    rcases h.connection with hsame | htold
    · exact absurd hsame hgone
    · exact htold
  | stands hconn h =>
    rcases h.connection with hsame | htold
    · exact absurd (hsame.trans (of_decide_eq_true hconn)) hgone
    · exact htold

end Passage

namespace Settled

variable {c : Client σ} {config : Config} {made : Duration}

omit [Endpoint σ] in
/-- A client that was just made is `Settled`. -/
theorem of_new (s : σ) (config : Config) (made : Duration) :
    Settled config made (new s config config.readBufferSize made) :=
  ⟨fun _ => rfl, fun hconn => (nomatch of_decide_eq_true hconn), fun hwas => (nomatch hwas)⟩

omit [Endpoint σ] in
/-- The socket does not matter. -/
theorem mapSocket {τ : Type} (h : Settled config made c) (g : σ → τ) :
    Settled config made (c.mapSocket g) :=
  ⟨h.fresh, h.connected, h.known⟩

omit [Endpoint σ] in
/-- `resetTransfer` leaves a client `Settled`. -/
theorem resetTransfer (h : Settled config made c) : Settled config made c.resetTransfer := by
  refine ⟨fun hfresh => ?_, h.connected, h.known⟩
  show c.bare.resetTransfer = _
  rw [h.fresh hfresh, resetTransfer_new]

/-- Each step of a run keeps what holds. -/
theorem after (h : Settled config made c) (step : Step σ φ) :
    Settled config made (c.after .stream step) := by
  cases step with
  | world change => exact h.mapSocket change
  -- The step is looked at on record, and what is on record is forgotten again
  | read now f ch =>
    show Settled config made (c.read .stream now f ch).1.2
    rw [read_traced]
    exact ((passage_readStream c.traced now f ch).settled (h.mapSocket _)).mapSocket _
  | write now data ch =>
    show Settled config made (c.write .stream now data ch).2
    rw [write_traced]
    exact ((passage_writeStream c.traced now data ch).settled (h.mapSocket _)).mapSocket _
  | resetTransfer => exact h.resetTransfer

/-- Every run leaves a client `Settled`. -/
theorem run (h : Settled config made c) (steps : List (Step σ φ)) :
    Settled config made (c.run .stream steps) := by
  induction steps generalizing c with
  | nil => exact h
  | cons step steps ih => exact ih (h.after step)

/-- No step changes a peer that is known. -/
theorem remote_after (h : Settled config made c) {address : String}
    (hremote : c.remote = some address) (step : Step σ φ) :
    (c.after .stream step).remote = some address := by
  -- An address is only known to a client that was connected
  have hwas : c.wasConnected = true := by
    cases hfresh : c.wasConnected with
    | true => rfl
    | false =>
      have hbare : c.bare.remote = none := by
        rw [h.fresh hfresh]
        rfl
      exact nomatch hremote.symm.trans hbare
  cases step with
  | world change => exact hremote
  | read now f ch =>
    show (c.read .stream now f ch).1.2.remote = some address
    rw [read_traced]
    exact ((passage_readStream c.traced now f ch).remote hwas).trans hremote
  | write now data ch =>
    show (c.write .stream now data ch).2.remote = some address
    rw [write_traced]
    exact ((passage_writeStream c.traced now data ch).remote hwas).trans hremote
  | resetTransfer => exact hremote

/-- The address stays through a run. -/
theorem remote_run (h : Settled config made c) {address : String}
    (hremote : c.remote = some address) (steps : List (Step σ φ)) :
    (c.run .stream steps).remote = some address := by
  induction steps generalizing c with
  | nil => exact hremote
  | cons step steps ih => exact ih (h.after step) (h.remote_after hremote step)

/-- A step that leaves a client unconnected for good is `Quiet`. -/
theorem quiet (h : Settled config made c) (step : Step σ φ)
    (hfresh : (c.after .stream step).wasConnected = false) : Quiet c step := by
  cases step with
  | world change => exact ⟨fun x hx => (nomatch hx), rfl, fun _ _ _ heq => (nomatch heq)⟩
  | read now f ch =>
    have hview := c.read_traced .stream now f ch
    have hafter : (c.after .stream (.read now f ch)).wasConnected =
        (c.traced.readStream now f ch).1.2.wasConnected := congrArg (·.1.2.wasConnected) hview
    obtain ⟨hasks, hbare, hframer⟩ :=
      (passage_readStream c.traced now f ch).quiet (h.mapSocket _) rfl (hafter.symm.trans hfresh)
    refine ⟨hasks, ?_, fun now' f' ch' heq => ?_⟩
    · exact (congrArg (·.1.2.bare) hview).trans hbare
    · cases heq
      exact (congrArg Prod.snd hview).trans hframer
  | write now data ch =>
    have hview := c.write_traced .stream now data ch
    have hafter : (c.after .stream (.write now data ch : Step σ φ)).wasConnected =
        (c.traced.writeStream now data ch).2.wasConnected := congrArg (·.2.wasConnected) hview
    obtain ⟨hasks, hbare, _⟩ :=
      (passage_writeStream c.traced now data ch).quiet (h.mapSocket _) rfl
        (hafter.symm.trans hfresh)
    exact ⟨hasks, (congrArg (·.2.bare) hview).trans hbare, fun _ _ _ heq => (nomatch heq)⟩
  -- There is no count that could be reset
  | resetTransfer =>
    refine ⟨fun x hx => (nomatch hx), ?_, fun _ _ _ heq => (nomatch heq)⟩
    have hwas : c.wasConnected = false := hfresh
    show c.bare.resetTransfer = c.bare
    rw [h.fresh hwas, resetTransfer_new]

end Settled

/-- A connection goes only in a step that was told so by the socket. -/
theorem lossTold_of_step (c : Client σ) (step : Step σ φ)
    (hafter : (c.after .stream step).isConnected = false)
    (hbefore : c.isConnected = true ∨
      c.wasConnected = false ∧ (c.after .stream step).wasConnected = true) :
    ∃ x ∈ c.exchangesOf .stream step, x.tellsLoss = true := by
  cases step with
  | world change =>
    -- The socket changes, and the client does not
    rcases hbefore with hconn | ⟨hwas, hwas'⟩
    · exact absurd (hafter.symm.trans hconn) (by decide)
    · exact absurd (hwas.symm.trans hwas') (by decide)
  | read now f ch =>
    change (c.read .stream now f ch).1.2.isConnected = false at hafter
    change _ ∨ _ ∧ (c.read .stream now f ch).1.2.wasConnected = true at hbefore
    rw [read_traced] at hafter hbefore
    exact (passage_readStream c.traced now f ch).lossTold hafter hbefore
  | write now data ch =>
    change (c.write .stream now data ch).2.isConnected = false at hafter
    change _ ∨ _ ∧ (c.write .stream now data ch).2.wasConnected = true at hbefore
    rw [write_traced] at hafter hbefore
    exact (passage_writeStream c.traced now data ch).lossTold hafter hbefore
  | resetTransfer =>
    rcases hbefore with hconn | ⟨hwas, hwas'⟩
    · exact absurd (hafter.symm.trans hconn) (by decide)
    · exact absurd (hwas.symm.trans hwas') (by decide)

/-! ## After the loss -/

/-- The connection to `address` has stood, and is gone. -/
structure Gone (c : Client σ) (address : String) : Prop where
  wasConnected : c.wasConnected = true
  disconnected : c.isConnected = false
  remote : c.remote = some address

/-- Every read and every write fails: with the loss of `address`, unless the guards of
    the urgent channel refuse it before.  None makes a call, and none changes the client
    or the framer. -/
structure Refuses (φ : Type) [Framer φ] (c : Client σ) (address : String) : Prop where
  read : ∀ (now : Clock) (f : φ) (ch : Channel), ∃ e,
    c.read .stream now f ch = ((.error e, c), f) ∧
    c.exchangesOf .stream (.read now f ch) = [] ∧
    (c.checkChannel ch = .ok () ∧ e = .connectionLost address ∨
      c.checkChannel ch = .error e ∧ ∃ what, e = .unsupported what)
  write : ∀ (now : Clock) (data : Bytes) (ch : Channel), ∃ e,
    c.write .stream now data ch = (.error e, c) ∧
    c.exchangesOf .stream (.write now data ch : Step σ φ) = [] ∧
    (c.checkChannel ch = .ok () ∧ c.checkUrgentSize ch data = .ok () ∧
        e = .connectionLost address ∨
      (c.checkChannel ch = .error e ∨ c.checkUrgentSize ch data = .error e) ∧
        ∃ what, e = .unsupported what)

namespace Gone

variable {c : Client σ} {address : String}

/-- `ensureConnected` tells a client that is `Gone` so. -/
theorem ensureConnected (h : Gone c address) (now : Duration) :
    c.ensureConnected now = (.error (.connectionLost address), c) := by
  -- The connection is gone already, so that losing it once more changes nothing
  have hsame : c.disconnect = c := by
    have hconn : c.connection = .disconnected := by
      cases hc : c.connection with
      | disconnected => rfl
      | connected => exact absurd hc (of_decide_eq_false h.disconnected)
    rw [disconnect, ← hconn]
  have haddress : c.address = address := by
    rw [Client.address, h.remote]
    rfl
  unfold Client.ensureConnected
  rw [if_neg (by simp [h.disconnected]), if_pos h.wasConnected, failed, lost, hsame, haddress]

/-- A read of a client that is `Gone` tells so, unless the channel is refused before. -/
theorem readStream (h : Gone c address) (now : Clock) (f : φ) (ch : Channel) :
    c.readStream now f ch = match c.checkChannel ch with
      | .error e => ((.error e, c), f)
      | .ok () => ((.error (.connectionLost address), c), f) := by
  cases hch : c.checkChannel ch with
  | error e => simp only [Client.readStream, hch]
  | ok _ => simp only [Client.readStream, hch, h.ensureConnected]

/-- A write of a client that is `Gone` tells so, unless it is refused before. -/
theorem writeStream (h : Gone c address) (now : Clock) (data : Bytes) (ch : Channel) :
    c.writeStream now data ch = match c.checkChannel ch with
      | .error e => (.error e, c)
      | .ok () =>
        match c.checkUrgentSize ch data with
        | .error e => (.error e, c)
        | .ok () => (.error (.connectionLost address), c) := by
  -- The guards come before the connection, and keep their own answers
  cases hch : c.checkChannel ch with
  | error e => simp only [Client.writeStream, hch]
  | ok _ =>
    cases hsize : c.checkUrgentSize ch data with
    | error e => simp only [Client.writeStream, hch, hsize]
    | ok _ => simp only [Client.writeStream, hch, hsize, h.ensureConnected]

omit [Endpoint σ] in
/-- A client that is `Gone` is so on any socket. -/
theorem mapSocket {τ : Type} (h : Gone c address) (g : σ → τ) : Gone (c.mapSocket g) address :=
  ⟨h.wasConnected, h.disconnected, h.remote⟩

/-- A client that is `Gone` refuses everything. -/
theorem refuses (h : Gone c address) : Refuses φ c address := by
  -- What the traced client refuses it refuses without a call.
  have htraced : Gone c.traced address := h.mapSocket _
  constructor
  · intro now f ch
    have hread : c.read .stream now f ch = _ := h.readStream now f ch
    have hcalls : (c.traced.readStream now f ch).1.2.socket.exchanges = [] := by
      rw [htraced.readStream]
      split <;> rfl
    cases hchannel : c.checkChannel ch with
    | error e =>
      rw [hchannel] at hread
      exact ⟨e, hread, hcalls, .inr ⟨rfl, exists_unsupported_of_checkChannel hchannel⟩⟩
    | ok =>
      rw [hchannel] at hread
      exact ⟨_, hread, hcalls, .inl ⟨rfl, rfl⟩⟩
  · intro now data ch
    have hwrite : c.write .stream now data ch = _ := h.writeStream now data ch
    have hcalls : (c.traced.writeStream now data ch).2.socket.exchanges = [] := by
      rw [htraced.writeStream]
      split
      · rfl
      · split <;> rfl
    cases hchannel : c.checkChannel ch with
    | error e =>
      rw [hchannel] at hwrite
      exact ⟨e, hwrite, hcalls, .inr ⟨.inl rfl, exists_unsupported_of_checkChannel hchannel⟩⟩
    | ok =>
      cases hsize : c.checkUrgentSize ch data with
      | error e =>
        rw [hchannel, hsize] at hwrite
        exact ⟨e, hwrite, hcalls, .inr ⟨.inr rfl, exists_unsupported_of_checkUrgentSize hsize⟩⟩
      | ok =>
        rw [hchannel, hsize] at hwrite
        exact ⟨_, hwrite, hcalls, .inl ⟨rfl, rfl, rfl⟩⟩

/-- Nothing happens to the connection or the leftovers any more. -/
theorem after (h : Gone c address) (step : Step σ φ) :
    Gone (c.after .stream step) address ∧ (c.after .stream step).leftovers = c.leftovers := by
  cases step with
  | world change => exact ⟨h.mapSocket change, rfl⟩
  -- What is refused changes nothing at all
  | read now f ch =>
    obtain ⟨e, hread, _⟩ := h.refuses.read now f ch
    rw [Client.after, hread]
    exact ⟨h, rfl⟩
  | write now data ch =>
    obtain ⟨e, hwrite, _⟩ := (h.refuses (φ := φ)).write now data ch
    rw [Client.after, hwrite]
    exact ⟨h, rfl⟩
  | resetTransfer => exact ⟨⟨h.wasConnected, h.disconnected, h.remote⟩, rfl⟩

/-- A client that is `Gone` is so ever after, and keeps what is left over. -/
theorem run (h : Gone c address) (steps : List (Step σ φ)) :
    Gone (c.run .stream steps) address ∧ (c.run .stream steps).leftovers = c.leftovers := by
  induction steps generalizing c with
  | nil => exact ⟨h, rfl⟩
  | cons step steps ih =>
    obtain ⟨hgone, hleft⟩ := h.after step
    obtain ⟨hgone', hleft'⟩ := ih hgone
    exact ⟨hgone', hleft'.trans hleft⟩

end Gone

/-! ## Runs -/

/-- The life of a stream client's connection, after any run from its making on.

    A client that is connected knows its peer's address, which stays the same in all
    later runs.  A step after which there still has been no connection is quiet.  A
    connection goes only in a step whose calls told so.  And once it is gone, every
    operation of every later run is refused, and what waits goes on waiting. -/
theorem lifecycle_run (socket : σ) (config : Config) (made : Duration)
    (steps : List (Step σ φ)) :
    let c := (make .stream socket config made).run .stream steps
    (c.isConnected = true → c.remote.isSome = true) ∧
    (∀ address, c.remote = some address →
      ∀ later : List (Step σ φ), (c.run .stream later).remote = some address) ∧
    (∀ step : Step σ φ, (c.after .stream step).wasConnected = false → Quiet c step) ∧
    (∀ step : Step σ φ, (c.after .stream step).isConnected = false →
      (c.isConnected = true ∨ c.wasConnected = false ∧ (c.after .stream step).wasConnected = true) →
      ∃ x ∈ c.exchangesOf .stream step, x.tellsLoss = true) ∧
    (c.wasConnected = true → c.isConnected = false → ∃ address, c.remote = some address ∧
      ∀ later : List (Step σ φ), Gone (c.run .stream later) address ∧
        Refuses φ (c.run .stream later) address ∧
        (c.run .stream later).leftovers = c.leftovers) := by
  intro c
  have hc : Settled config made c := (Settled.of_new socket config made).run steps
  refine ⟨fun hconn => hc.known (hc.connected hconn), ?_, hc.quiet, lossTold_of_step c, ?_⟩
  · intro address hremote later
    exact hc.remote_run hremote later
  · intro hwas hconn
    obtain ⟨address, hremote⟩ := Option.isSome_iff_exists.mp (hc.known hwas)
    refine ⟨address, hremote, fun later => ?_⟩
    -- From here on nothing can happen to the connection
    have hgone : Gone c address := ⟨hwas, hconn, hremote⟩
    obtain ⟨hlater, hleft⟩ := hgone.run later
    exact ⟨hlater, hlater.refuses, hleft⟩

end FrameSocket.Client
