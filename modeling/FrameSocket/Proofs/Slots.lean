import FrameSocket.Proofs.Contract
import FrameSocket.Proofs.Datagrams
import FrameSocket.Proofs.Meters

/-!
# The slots of what is left over

With greedy framers the slot of a channel holds one chunk's rest at most.  A read feeds
what is left over before it receives, and receives only when all of that was taken; and
the first chunk of which something is handed back completes the frame.  So whenever a
client keeps what a framer hands back, the slot is empty, and the bytes that wait there
are the end of the last chunk that came on the channel.

`ReadFeeds` names the clients that keep what is handed back in a read, and the framers
that hand it back.  The record of a logged framer shows that there are no others
(`grown_read`).

## Key results

- `RestsOf.keep`: keeping the rest of the last chunk, in an empty slot
- `RestsOf.after`: each step of a run leaves the rest of the last chunk in a slot
- `ReadFeeds.leftovers_get`: a client that keeps what is handed back has an empty slot
- `slots_run`: both, over any run
-/

namespace FrameSocket

/-! ## The chunks that came -/

namespace Exchange

/-- The chunk that a receiving call brought on a channel, with its sender if the call names
    one.  An empty answer of a stream is none. -/
def chunk? (ch : Channel) : Exchange → Option (Bytes × Option String)
  | .recv ch' _ (.ok (b :: bytes)) => if ch' = ch then some (b :: bytes, none) else none
  | .recvFrom _ (.ok got) => if ch = .regular then some got else none
  | _ => none

/-- The chunks that calls brought on a channel. -/
def chunks (ch : Channel) (calls : List Exchange) : List (Bytes × Option String) :=
  calls.filterMap (chunk? ch)

/-- The chunks of calls that are made one after the other. -/
theorem chunks_append (ch : Channel) (calls more : List Exchange) :
    chunks ch (calls ++ more) = chunks ch calls ++ chunks ch more :=
  List.filterMap_append

/-- To ask how the connection stands brings no chunk. -/
theorem chunk?_of_asksState {x : Exchange} (h : x.asksState = true) (ch : Channel) :
    x.chunk? ch = none := by
  cases x with
  | remoteAddress _ | takeError _ => rfl
  | recv _ _ _ | recvFrom _ _ | peek _ _ | send _ _ _ => exact nomatch h

end Exchange

namespace Client

/-- The chunks that the calls on record brought on a channel. -/
def chunks {σ : Type} (c : Client (Traced σ)) (ch : Channel) : List (Bytes × Option String) :=
  Exchange.chunks ch c.socket.exchanges

section Chunks

variable {σ : Type} [Endpoint σ] {c : Client (Traced σ)} {s : Traced σ}

omit [Endpoint σ] in
/-- One more call adds its chunk, if it has one. -/
theorem chunks_of_call {x : Exchange} (h : s.exchanges = c.socket.exchanges ++ [x])
    (ch : Channel) : { c with socket := s }.chunks ch = c.chunks ch ++ (x.chunk? ch).toList := by
  have hone : Exchange.chunks ch [x] = (x.chunk? ch).toList := by
    rw [Exchange.chunks, List.filterMap_cons]
    cases x.chunk? ch <;> rfl
  show Exchange.chunks ch s.exchanges = _
  rw [h, Exchange.chunks_append, hone, chunks]

/-- A receiving call of a stream brings a chunk without a sender. -/
theorem chunks_recv {ch : Channel} {n : Nat} {answer : Except IoError Bytes} {bytes : Bytes}
    (hrecv : Endpoint.recv c.socket ch n = (answer, s))
    (hof : Received.of ch answer = .data bytes) :
    { c with socket := s }.chunks = Channel.extend c.chunks ch [(bytes, none)] := by
  funext ch'
  obtain ⟨rfl, hne⟩ := Received.of_eq_data hof
  obtain ⟨b, bytes, rfl⟩ := List.exists_cons_of_ne_nil hne
  rw [chunks_of_call (Traced.exchanges_recv hrecv), Exchange.chunk?]
  -- Only the channel that received has one chunk more
  by_cases hch : ch' = ch
  · subst hch
    rw [if_pos rfl, Channel.extend_self]
    rfl
  · rw [if_neg (Ne.symm hch), Channel.extend_of_ne _ _ hch]
    exact List.append_nil _

/-- A datagram comes on the regular channel. -/
theorem chunks_recvFrom {n : Nat} {d : Bytes × Option String}
    (hrecv : Endpoint.recvFrom c.socket n = (.ok d, s)) :
    { c with socket := s }.chunks = Channel.extend c.chunks .regular [d] := by
  funext ch'
  rw [chunks_of_call (Traced.exchanges_recvFrom hrecv), Exchange.chunk?]
  by_cases hch : ch' = .regular
  · subst hch
    rw [if_pos rfl, Channel.extend_self]
    rfl
  · rw [if_neg hch, Channel.extend_of_ne _ _ hch]
    exact List.append_nil _

end Chunks

/-- From `c` to `c'` no chunk came and none was fed, and receiving calls offer the same
    buffer. -/
structure Chunkless {σ : Type} (c c' : Client (Traced σ)) : Prop extends Unfed c c' where
  chunks : c'.chunks = c.chunks
  bufferSize : c'.bufferSize = c.bufferSize

namespace Chunkless

section Operations

variable {σ φ : Type} [Endpoint σ] [Framer φ] {c c' c'' : Client (Traced σ)} {s : Traced σ}

omit [Endpoint σ] in
/-- What is `Unfed` and `Still` brings no chunk. -/
theorem of_still (hunfed : Unfed c c') (h : Still c c') : Chunkless c c' where
  toUnfed := hunfed
  chunks := by
    funext ch
    rw [Client.chunks, h.socket, Client.chunks]
  bufferSize := h.bufferSize

omit [Endpoint σ] in
/-- `Booked` steps bring no chunk. -/
theorem of_booked (h : Booked c c') : Chunkless c c' := of_still (.of_booked h) (.of_booked h)

omit [Endpoint σ] in
/-- `Chunkless` steps can be taken one after the other. -/
theorem trans (h : Chunkless c c') (h' : Chunkless c' c'') : Chunkless c c'' where
  toUnfed := h.toUnfed.trans h'.toUnfed
  chunks := h'.chunks.trans h.chunks
  bufferSize := h'.bufferSize.trans h.bufferSize

omit [Endpoint σ] in
/-- A call without a chunk is `Chunkless`. -/
theorem of_call {x : Exchange} (h : s.exchanges = c.socket.exchanges ++ [x])
    (hx : ∀ ch, x.chunk? ch = none) : Chunkless c { c with socket := s } where
  toUnfed := .onSocket c s
  chunks := by
    funext ch
    rw [chunks_of_call h, hx]
    exact List.append_nil _
  bufferSize := rfl

/-- A receiving call that brought nothing. -/
theorem recv {ch : Channel} {n : Nat} {answer : Except IoError Bytes}
    (h : Endpoint.recv c.socket ch n = (answer, s))
    (hof : ∀ bytes, Received.of ch answer ≠ .data bytes) : Chunkless c { c with socket := s } := by
  apply of_call (Traced.exchanges_recv h)
  intro ch'
  match answer, hof with
  | .error _, _ => rfl
  | .ok [], _ => rfl
  | .ok (b :: bytes), hof => exact absurd rfl (hof (b :: bytes))

/-- A `recvFrom` that fails is `Chunkless`. -/
theorem recvFrom {n : Nat} {e : IoError} (h : Endpoint.recvFrom c.socket n = (.error e, s)) :
    Chunkless c { c with socket := s } :=
  of_call (Traced.exchanges_recvFrom h) fun _ => rfl

/-- A `peek` is `Chunkless`. -/
theorem peek {ch : Channel} {answer : Except IoError Nat}
    (h : Endpoint.peek c.socket ch = (answer, s)) : Chunkless c { c with socket := s } :=
  of_call (Traced.exchanges_peek h) fun _ => rfl

omit [Endpoint σ] in
/-- The socket was only asked how its connection stands. -/
theorem asked (h : c.socket.Asked s) : Chunkless c { c with socket := s } where
  toUnfed := .onSocket c s
  chunks := by
    obtain ⟨calls, hcalls, hasks⟩ := h
    funext ch
    have hnone : Exchange.chunks ch calls = [] :=
      List.filterMap_eq_nil_iff.mpr fun x hx => Exchange.chunk?_of_asksState (hasks x hx) ch
    show Exchange.chunks ch s.exchanges = _
    rw [hcalls, Exchange.chunks_append, hnone, List.append_nil, Client.chunks]
  bufferSize := rfl

omit [Endpoint σ] in
/-- `disconnect` is `Chunkless`. -/
theorem disconnect (c : Client (Traced σ)) : Chunkless c c.disconnect :=
  of_still ⟨rfl, rfl⟩ ⟨rfl, rfl⟩

/-- `receiveError` is `Chunkless`. -/
theorem receiveError (c : Client (Traced σ)) (e : IoError) : Chunkless c (c.receiveError e).2 :=
  of_still (.receiveError c e) (.receiveError c e)

/-- `readOutcome` is `Chunkless`. -/
theorem readOutcome (r : Reception (Traced σ) φ) : Chunkless r.client (readOutcome r).1.2 := by
  refine of_still ?_ (.readOutcome r)
  unfold Client.readOutcome
  split
  · exact .refl _
  · dsimp only
    split
    · exact .of_booked (.finishRead _)
    · split
      · split <;> exact ⟨rfl, rfl⟩
      · split <;> exact ⟨rfl, rfl⟩

/-- A write brings no chunk. -/
theorem keptByWriting : KeptByWriting (Chunkless (σ := σ)) where
  trans := trans
  books _ _ _ _ := of_booked ⟨rfl, rfl, rfl, rfl, rfl, rfl⟩
  send hsend := of_call (Traced.exchanges_send hsend) fun _ => rfl
  failed hsend := (of_call (Traced.exchanges_send hsend) fun _ => rfl).trans
    (of_still (.sendError _ _) (.sendError _ _))

end Operations

end Chunkless

/-! ## The rest of the last chunk -/

/-- Of the chunk `d` the end is left over, and counts for the sender of `d`, or for `peer`
    where that is not known.  The chunk fits into `size` bytes. -/
structure IsRest (d : Bytes × Option String) (peer : Option String) (size : Nat)
    (left : Leftover) : Prop where
  suffix : left.data <:+ d.1
  length_le : d.1.length ≤ size
  origin : left.origin = d.2.or peer

/-- What is left over on a channel is the rest of the last chunk that came there, when
    `earlier` came before the calls on record.  A slot is never filled with nothing. -/
def RestsOf {σ : Type} (earlier : Channel → List (Bytes × Option String))
    (c : Client (Traced σ)) : Prop :=
  ∀ ch left, c.leftovers.get ch = some left → left.data ≠ [] ∧
    ∃ d, (earlier ch ++ c.chunks ch).getLast? = some d ∧ IsRest d c.remote c.bufferSize left

namespace RestsOf

variable {σ φ : Type} [Endpoint σ] [Framer φ]
  {earlier : Channel → List (Bytes × Option String)} {c c' : Client (Traced σ)} {f : φ}
  {ch : Channel} {now : Clock}

section Slots

variable {d : Bytes × Option String}

omit [Endpoint σ] in
/-- `Chunkless` steps leave the rests those of the last chunks. -/
theorem of_chunkless (h : RestsOf earlier c) (hc : Chunkless c c') : RestsOf earlier c' := by
  unfold RestsOf
  rw [hc.leftovers, hc.chunks, hc.remote, hc.bufferSize]
  exact h

omit [Endpoint σ] in
/-- Nothing is left over. -/
theorem of_empty (h : c.leftovers = .empty) : RestsOf earlier c := by
  intro ch left hleft
  rw [h] at hleft
  cases ch <;> exact nomatch hleft

omit [Endpoint σ] in
/-- A chunk comes where nothing is left over. -/
theorem arrived {s : Traced σ} (h : RestsOf earlier c) (hnone : c.leftovers.get ch = none)
    (hcame : { c with socket := s }.chunks = Channel.extend c.chunks ch [d]) :
    RestsOf earlier { c with socket := s } ∧
      (earlier ch ++ { c with socket := s }.chunks ch).getLast? = some d := by
  constructor
  · -- The channel that received holds no rest, and the others have no new chunk
    intro ch' left hleft
    by_cases hch : ch' = ch
    · subst hch
      exact nomatch hnone.symm.trans hleft
    · rw [hcame, Channel.extend_of_ne _ _ hch]
      exact h ch' left hleft
  · rw [hcame, Channel.extend_self, ← List.append_assoc]
    exact List.getLast?_concat

omit [Endpoint σ] in
/-- An empty slot is left empty, or filled with the rest of the last chunk. -/
theorem keep {rest : Bytes} {origin : Option String} (h : RestsOf earlier c)
    (hnone : c.leftovers.get ch = none) (hlast : (earlier ch ++ c.chunks ch).getLast? = some d)
    (hrest : IsRest d c.remote c.bufferSize ⟨rest, origin⟩) :
    RestsOf earlier (c.keep ch rest origin) := by
  have hstill : Still c (c.keep ch rest origin) := .keep c ch rest origin
  intro ch' left hleft
  rw [chunks, hstill.socket, hstill.bufferSize, remote_keep]
  -- The slot of this channel was empty, and the others are not touched
  by_cases hch : ch' = ch
  · subst hch
    rw [leftovers_get_keep hnone] at hleft
    split at hleft
    · exact nomatch hleft
    · rename_i hne
      cases hleft
      exact ⟨mt List.isEmpty_iff.mpr hne, d, hlast, hrest⟩
  · rw [leftovers_get_keep_of_ne hch] at hleft
    exact h ch' left hleft

omit [Endpoint σ] in
/-- What is left over is fed, and what is handed back is a rest of the same chunk. -/
theorem replay [LawfulFramer φ] (h : RestsOf earlier c) (f : φ) (ch : Channel) :
    RestsOf earlier (c.replay f ch).1 := by
  unfold Client.replay
  split
  · exact h
  · rename_i left leftovers htake
    have hleft : c.leftovers.get ch = some left := congrArg Prod.fst htake
    obtain rfl : c.leftovers.set ch none = leftovers := congrArg Prod.snd htake
    obtain ⟨_, d, hlast, hd⟩ := h ch left hleft
    -- The slot is emptied first, and the other one keeps what it has.
    have hemptied : RestsOf earlier { c with leftovers := c.leftovers.set ch none } := by
      intro ch' left' hleft'
      by_cases hch : ch' = ch
      · subst hch
        exact nomatch (Leftovers.get_set_self _ _ _).symm.trans hleft'
      · exact h ch' left' ((Leftovers.get_set_of_ne _ _ hch).symm.trans hleft')
    have hsuffix := LawfulFramer.feed_suffix f left.data left.origin
    exact hemptied.keep (Leftovers.get_set_self _ _ _) hlast
      ⟨hsuffix.trans hd.suffix, hd.length_le, hd.origin⟩

omit [Endpoint σ] in
/-- The last chunk is fed, and the watchdog is told of it. -/
theorem fed [LawfulFramer φ] {c₁ c₂ : Client (Traced σ)} {f₁ : φ} {n : Nat} {now : Duration}
    {answer : Except NetworkError Unit} (h : RestsOf earlier c)
    (hnone : c.leftovers.get ch = none) (hlast : (earlier ch ++ c.chunks ch).getLast? = some d)
    (hlength : d.1.length ≤ c.bufferSize) (hfeed : c.feed f ch d.1 d.2 = (c₁, f₁))
    (htrack : c₁.trackReceive now n = (answer, c₂)) : RestsOf earlier c₂ := by
  obtain rfl : _ = c₁ := congrArg Prod.fst hfeed
  have hkept : RestsOf earlier (c.feed f ch d.1 d.2).1 :=
    h.keep hnone hlast ⟨LawfulFramer.feed_suffix f d.1 (d.2.or c.remote), hlength, rfl⟩
  exact hkept.of_chunkless (.of_booked (.trackReceive htrack))

end Slots

/-- Bytes come and are fed. -/
theorem received [LawfulFramer φ] {c₁ c₂ : Client (Traced σ)} {f₁ : φ} {s : Traced σ}
    {bytes : Bytes} {n : Nat} {now : Duration} {answer : Except IoError Bytes}
    {tracked : Except NetworkError Unit} (h : RestsOf earlier c)
    (hnone : c.leftovers.get ch = none)
    (hrecv : Endpoint.recv c.socket ch c.bufferSize = (answer, s))
    (hof : Received.of ch answer = .data bytes)
    (hfeed : { c with socket := s }.refillReads.feed f ch bytes none = (c₁, f₁))
    (htrack : c₁.trackReceive now n = (tracked, c₂)) : RestsOf earlier c₂ := by
  obtain ⟨hcame, hlast⟩ := h.arrived hnone (chunks_recv hrecv hof)
  -- A chunk is no longer than the buffer
  have hanswer : (Endpoint.recv c.socket ch c.bufferSize).1 = .ok bytes := by
    rw [hrecv, (Received.of_eq_data hof).1]
  have hlength : bytes.length ≤ c.bufferSize :=
    Endpoint.length_recv c.socket ch c.bufferSize bytes hanswer
  have hready : RestsOf earlier { c with socket := s }.refillReads :=
    hcame.of_chunkless (.of_booked (.refillReads _))
  exact hready.fed hnone hlast hlength hfeed htrack

/-- A datagram comes and is fed. -/
theorem receivedFrom [LawfulFramer φ] {c₁ c₂ : Client (Traced σ)} {f₁ : φ} {s : Traced σ}
    {data : Bytes} {origin : Option String} {n : Nat} {now : Duration}
    {tracked : Except NetworkError Unit} (h : RestsOf earlier c)
    (hnone : c.leftovers.get .regular = none)
    (hrecv : Endpoint.recvFrom c.socket c.bufferSize = (.ok (data, origin), s))
    (hfeed : { c with socket := s }.feed f .regular data origin = (c₁, f₁))
    (htrack : c₁.trackReceive now n = (tracked, c₂)) : RestsOf earlier c₂ := by
  obtain ⟨hcame, hlast⟩ := h.arrived hnone (chunks_recvFrom hrecv)
  have hlength : data.length ≤ c.bufferSize :=
    Endpoint.length_recvFrom c.socket c.bufferSize (data, origin) (congrArg Prod.fst hrecv)
  exact hcame.fed hnone hlast hlength hfeed htrack

/-- The receiving loop of a stream. -/
theorem receives [LawfulFramer φ] {any retried : Bool} {r : Reception (Traced σ) φ}
    (hloop : Receives ch now c f any retried r) (hgreedy : Framer.IsGreedy f)
    (hnone : c.leftovers.get ch = none) (h : RestsOf earlier c) : RestsOf earlier r.client := by
  induction hloop with
  | closed hrecv hof => exact h.of_chunkless (.recv hrecv (by simp [hof]))
  | failed hrecv hof =>
    exact h.of_chunkless ((Chunkless.recv hrecv (by simp [hof])).trans (.receiveError _ _))
  | interrupted hrecv hof _ ih =>
    exact ih hgreedy hnone (h.of_chunkless (.recv hrecv (by simp [hof])))
  | slow hrecv hof hfeed htrack => exact h.received hnone hrecv hof hfeed htrack
  | complete hrecv hof hfeed htrack _ => exact h.received hnone hrecv hof hfeed htrack
  | more hrecv hof hfeed htrack hopen _ ih =>
    -- Only an empty slot lets the loop turn again
    obtain ⟨hleft, hgreedy₁⟩ := leftovers_of_open hgreedy hfeed hopen
    apply ih hgreedy₁ _ (h.received hnone hrecv hof hfeed htrack)
    rw [(Booked.trackReceive htrack).leftovers, hleft]
    exact hnone
  | again hrecv hof hpeek _ _ ih =>
    have hquiet := Chunkless.recv hrecv (by simp [hof])
    exact ih hgreedy hnone (h.of_chunkless (hquiet.trans (.peek hpeek)))
  | idle hrecv hof hpeek _ =>
    have hquiet := (Chunkless.recv hrecv (by simp [hof])).trans (.peek hpeek)
    apply h.of_chunkless
    split
    · exact hquiet
    · exact hquiet.trans (.of_booked (.dryRead _))

/-- The receipt of a datagram. -/
theorem receiveDatagram [LawfulFramer φ] {now : Duration}
    (hnone : c.leftovers.get .regular = none) (h : RestsOf earlier c) :
    RestsOf earlier (c.receiveDatagram now f).1.2 := by
  fun_induction Client.receiveDatagram c now f with
  | case1 c data origin s hrecv c₁ f₁ hfeed e c₂ htrack =>
    exact h.receivedFrom hnone hrecv hfeed htrack
  | case2 c data origin s hrecv c₁ f₁ hfeed c₂ htrack hdone
  | case3 c data origin s hrecv c₁ f₁ hfeed c₂ htrack hdone =>
    have hfed := h.receivedFrom hnone hrecv hfeed htrack
    exact hfed.of_chunkless (.of_booked (.finishRead c₂))
  -- Without a datagram nothing is fed, and no chunk comes
  | case4 c e s hrecv c' hblocked => exact h.of_chunkless (.recvFrom hrecv)
  | case5 c e s hrecv c' hblocked hi ih => exact ih hnone (h.of_chunkless (.recvFrom hrecv))
  | case6 c e s hrecv c' hblocked hi =>
    exact h.of_chunkless ((Chunkless.recvFrom hrecv).trans (.receiveError _ e))

/-- To find out whether the connection stands brings no chunk, and empties the slots when
    the connection is gained. -/
theorem ensured {now : Duration} {answer : Except NetworkError Bool} (h : RestsOf earlier c)
    (hensured : c.ensureConnected now = (answer, c')) : RestsOf earlier c' := by
  cases ensures_ensureConnected hensured with
  | stands _ => exact h
  | gone _ _ => exact h.of_chunkless (.disconnect c)
  | gained _ _ _ => exact of_empty rfl
  | absent _ _ hasked _ => exact h.of_chunkless (.asked hasked)

/-- A read of a stream with a greedy framer leaves the rests those of the last chunks. -/
theorem readStream [LawfulFramer φ] (hgreedy : Framer.IsGreedy f) (h : RestsOf earlier c) :
    RestsOf earlier (c.readStream now f ch).1.2 := by
  have hanchored : ∀ {c₁ : Client (Traced σ)}, c.ensureConnected now.first = (.ok true, c₁) →
      RestsOf earlier (c₁.anchorReceive now.first) :=
    fun hensured => (h.ensured hensured).of_chunkless (.of_booked (.anchorReceive _ now.first))
  have hreplayed : ∀ {c₁ c₂ : Client (Traced σ)} {f₂ : φ},
      c.ensureConnected now.first = (.ok true, c₁) →
        (c₁.anchorReceive now.first).replay f ch = (c₂, f₂) → RestsOf earlier c₂ := by
    intro c₁ c₂ f₂ hensured hreplay
    obtain rfl : _ = c₂ := congrArg Prod.fst hreplay
    exact (hanchored hensured).replay f ch
  have hreads := reads_readStream c now f ch
  generalize c.readStream now f ch = r at hreads
  cases hreads with
  | refused _ => exact h
  | failed hensured | waiting hensured => exact h.ensured hensured
  | ready hensured _ => exact (hanchored hensured).of_chunkless (.of_booked (.finishRead _))
  | replayed hensured hreplay _ =>
    exact (hreplayed hensured hreplay).of_chunkless (.of_booked (.finishRead _))
  | received hensured hreplay hopen hloop =>
    -- The slot is empty when the loop begins, so what is put there is of its chunks
    obtain ⟨hnone, hgreedy₂⟩ := replay_of_isGreedy hgreedy hreplay hopen
    have hreceived := receives hloop hgreedy₂ hnone (hreplayed hensured hreplay)
    exact hreceived.of_chunkless (.readOutcome _)

/-- A read of datagrams with a greedy framer leaves the rests those of the last chunks. -/
theorem readDatagram [LawfulFramer φ] (hgreedy : Framer.IsGreedy f) (h : RestsOf earlier c) :
    RestsOf earlier (c.readDatagram now f ch).1.2 := by
  unfold Client.readDatagram
  split
  · exact h
  · have hanchored := h.of_chunkless (.of_booked (.anchorReceive c now.first))
    dsimp only
    split
    · exact hanchored.of_chunkless (.of_booked (.finishRead _))
    · have hreplayed := hanchored.replay f .regular
      split
      · exact hreplayed.of_chunkless (.of_booked (.finishRead _))
      · -- What was left over has not completed the frame, so a greedy framer has used it up
        rename_i hopen
        have hnone := leftovers_replay_of_isGreedy hgreedy (Bool.eq_false_iff.mpr hopen)
        exact receiveDatagram hnone hreplayed

/-- A write leaves the rests those of the last chunks. -/
theorem writeStream (h : RestsOf earlier c) (now : Clock) (data : Bytes) (ch : Channel) :
    RestsOf earlier (c.writeStream now data ch).2 := by
  rcases Chunkless.keptByWriting.writeStream c now data ch with hrefused | hafter
  · rw [hrefused]
    exact h
  · exact (h.ensured rfl).of_chunkless hafter

end RestsOf

/-! ## The clients that keep what is handed back -/

section Feeds

variable {σ φ : Type} [Endpoint σ] [Framer φ]

/-- A read of `c` that comes to feed anything begins with `c'`. -/
inductive Reaches (now : Clock) (ch : Channel) : ClientKind → Client σ → Client σ → Prop
  | stream {c c₁ : Client σ} (hensured : c.ensureConnected now.first = (.ok true, c₁)) :
      Reaches now ch .stream c (c₁.anchorReceive now.first)
  | datagram {c : Client σ} (hch : ch = .regular) :
      Reaches now ch .datagram c (c.anchorReceive now.first)

/-- In the read of `c` with `f`, the framer `g` is fed a chunk, and the client `a` keeps what
    it hands back. -/
inductive ReadFeeds (now : Clock) (ch : Channel) :
    ClientKind → Client σ → φ → Client σ → φ → Bytes → Option String → Prop
  /-- What was left over has been taken out of its slot. -/
  | replayed {kind : ClientKind} {c c₁ : Client σ} {f : φ} {left : Leftover}
      (hreaches : Reaches now ch kind c c₁) (hleft : c₁.leftovers.get ch = some left) :
      ReadFeeds now ch kind c f { c₁ with leftovers := c₁.leftovers.set ch none } f
        left.data left.origin
  /-- A receiving call has brought bytes. -/
  | received {c c₁ c₂ a : Client σ} {f f₂ g : φ} {answer : Except IoError Bytes} {s : σ}
      {bytes : Bytes} (hreaches : Reaches now ch .stream c c₁)
      (hreplay : c₁.replay f ch = (c₂, f₂)) (hopen : Framer.isComplete f₂ = false)
      (hasks : Asks ch now.later c₂ f₂ false a g)
      (hrecv : Endpoint.recv a.socket ch a.bufferSize = (answer, s))
      (hof : Received.of ch answer = .data bytes) :
      ReadFeeds now ch .stream c f { a with socket := s }.refillReads g bytes a.remote
  /-- A receiving call has brought a datagram. -/
  | datagram {c c₁ c₂ a : Client σ} {f f₂ : φ} {d : Bytes × Option String} {s : σ}
      (hreaches : Reaches now ch .datagram c c₁) (hreplay : c₁.replay f ch = (c₂, f₂))
      (hopen : Framer.isComplete f₂ = false) (hasks : AsksDatagram c₂ a)
      (hrecv : Endpoint.recvFrom a.socket a.bufferSize = (.ok d, s)) :
      ReadFeeds now ch .datagram c f { a with socket := s } f₂ d.1 (d.2.or a.remote)

/-- A client that keeps what a greedy framer hands back has an empty slot for it. -/
theorem ReadFeeds.leftovers_get {kind : ClientKind} {now : Clock} {ch : Channel}
    {c a : Client σ} {f g : φ} {chunk : Bytes} {origin : Option String}
    (h : ReadFeeds now ch kind c f a g chunk origin) (hgreedy : Framer.IsGreedy f) :
    a.leftovers.get ch = none := by
  -- A leftover is taken out before it is fed; of what is received, the slot was empty before
  cases h with
  | replayed hreaches hleft => exact Leftovers.get_set_self _ _ _
  | received hreaches hreplay hopen hasks hrecv hof =>
    obtain ⟨hnone, hgreedy₂⟩ := replay_of_isGreedy hgreedy hreplay hopen
    exact hasks.leftovers_get hgreedy₂ hnone
  | @datagram _ _ c₂ a _ _ _ _ hreaches hreplay hopen hasks hrecv =>
    show a.leftovers.get ch = none
    rw [hasks.leftovers_eq]
    exact (replay_of_isGreedy hgreedy hreplay hopen).1

end Feeds

/-! ## There are no others -/

/-- From `l` on a record grew by entries for which `P` holds, each with what was on record
    before it. -/
inductive Grown {α : Type} (P : List α → α → Prop) (l : List α) : List α → Prop
  | refl : Grown P l l
  | concat {l' : List α} {x : α} (h : Grown P l l') (hx : P l' x) : Grown P l (l' ++ [x])

namespace Grown

variable {α : Type} {P : List α → α → Prop} {l l' l'' : List α}

/-- What has grown in two steps. -/
theorem trans (h : Grown P l l') (h' : Grown P l' l'') : Grown P l l'' := by
  induction h' with
  | refl => exact h
  | concat _ hx ih => exact ih.concat hx

/-- From an empty record on, `P` holds of all entries. -/
theorem of_split (h : Grown P [] l) {before after : List α} {x : α}
    (hsplit : l = before ++ x :: after) : P before x := by
  induction h generalizing after with
  | refl => exact absurd hsplit.symm (List.append_ne_nil_of_right_ne_nil _ (List.cons_ne_nil _ _))
  | @concat l' y h hy ih =>
    rcases List.eq_nil_or_concat after with rfl | ⟨after, z, rfl⟩
    · -- the last entry
      obtain ⟨rfl, hlast⟩ := List.append_inj' hsplit rfl
      obtain rfl := List.head_eq_of_cons_eq hlast
      exact hy
    · -- one of those before it
      have hsplit' : l' ++ [y] = (before ++ x :: after) ++ [z] := by
        rw [hsplit, List.concat_eq_append, List.append_assoc]
        rfl
      exact ih (List.append_inj' hsplit' rfl).1

end Grown

section Records

variable {σ φ : Type} [Endpoint σ] [Framer φ] {c : Client σ} {l : Logged φ} {now : Clock}
  {ch : Channel} {P : List Feeding → Feeding → Prop}

omit [Endpoint σ] in
/-- What is left over is fed once, if it is there. -/
theorem grown_replay (hfeeds : ∀ left, c.leftovers.get ch = some left →
      P l.feedings ⟨left.data, (Framer.feed l left.data left.origin).2⟩) :
    Grown P l.feedings (c.replay l ch).2.feedings := by
  unfold replay
  split
  · exact .refl
  · rename_i left leftovers htake
    exact Grown.refl.concat (hfeeds left (congrArg Prod.fst htake))

/-- The feedings of a loop are those of the chunks that it receives. -/
theorem grown_receives {any retried : Bool} {r : Reception σ (Logged φ)}
    (hloop : Receives ch now c l any retried r)
    (hfeeds : ∀ a g answer s bytes, Asks ch now c l retried a g →
      Endpoint.recv a.socket ch a.bufferSize = (answer, s) →
        Received.of ch answer = .data bytes →
          P g.feedings ⟨bytes, (Framer.feed g bytes a.remote).2⟩) :
    Grown P l.feedings r.framer.feedings := by
  -- The framer that was fed has one more chunk on record.
  have hfed : ∀ {c c₁ : Client σ} {l l₁ : Logged φ} {s : σ} {bytes : Bytes},
      { c with socket := s }.refillReads.feed l ch bytes none = (c₁, l₁) →
        P l.feedings ⟨bytes, (Framer.feed l bytes c.remote).2⟩ →
          Grown P l.feedings l₁.feedings := by
    intro c c₁ l l₁ s bytes hfeed hP
    obtain rfl : _ = l₁ := congrArg Prod.snd hfeed
    exact Grown.refl.concat hP
  induction hloop with
  | closed hrecv hof | failed hrecv hof | idle hrecv hof hpeek hsaw => exact .refl
  | interrupted hrecv hof hnext ih =>
    exact ih fun a g answer s bytes h => hfeeds a g answer s bytes (.interrupted hrecv hof h)
  | slow hrecv hof hfeed htrack | complete hrecv hof hfeed htrack hopen =>
    exact hfed hfeed (hfeeds _ _ _ _ _ .first hrecv hof)
  | more hrecv hof hfeed htrack hopen hnext ih =>
    exact (hfed hfeed (hfeeds _ _ _ _ _ .first hrecv hof)).trans (ih fun a g answer s bytes h =>
      hfeeds a g answer s bytes (.more hrecv hof hfeed htrack hopen h))
  | again hrecv hof hpeek hsaw hnext ih =>
    exact ih fun a g answer s bytes h => hfeeds a g answer s bytes (.again hrecv hof hpeek hsaw h)

/-- The feedings of `receiveDatagram` are those of the datagrams that it receives. -/
theorem grown_receiveDatagram (c : Client σ) (now : Duration) (l : Logged φ)
    (hfeeds : ∀ a d s, AsksDatagram c a →
      Endpoint.recvFrom a.socket a.bufferSize = (.ok d, s) →
        P l.feedings ⟨d.1, (Framer.feed l d.1 (d.2.or a.remote)).2⟩) :
    Grown P l.feedings (c.receiveDatagram now l).2.feedings := by
  fun_induction Client.receiveDatagram c now l with
  | case1 c data origin s hrecv c₁ l₁ hfeed e c₂ htrack
  | case2 c data origin s hrecv c₁ l₁ hfeed c₂ htrack hdone
  | case3 c data origin s hrecv c₁ l₁ hfeed c₂ htrack hdone =>
    -- However the read ends, the datagram has been fed once
    obtain rfl : _ = l₁ := congrArg Prod.snd hfeed
    exact Grown.refl.concat (hfeeds c (data, origin) s .first hrecv)
  | case4 c e s hrecv c' hblocked => exact .refl
  | case5 c e s hrecv c' hblocked hi ih =>
    exact ih fun a d s' h => hfeeds a d s' (.interrupted hrecv hi h)
  | case6 c e s hrecv c' hblocked hi => exact .refl

/-- A framer with `before` on record is fed the chunk of `x` in the read, and hands back
    its rest. -/
def Feeds (now : Clock) (ch : Channel) (kind : ClientKind) (c : Client σ) (l : Logged φ)
    (before : List Feeding) (x : Feeding) : Prop :=
  ∃ a g origin, ReadFeeds now ch kind c l a g x.chunk origin ∧ g.feedings = before ∧
    x.rest = (Framer.feed g x.chunk origin).2

/-- `replay` feeds what was left over when the read has reached it. -/
theorem grown_reaches {kind : ClientKind} {c₁ : Client σ} (h : Reaches now ch kind c c₁)
    (l : Logged φ) : Grown (Feeds now ch kind c l) l.feedings (c₁.replay l ch).2.feedings :=
  grown_replay fun _ hleft => ⟨_, l, _, .replayed h hleft, rfl, rfl⟩

/-- The feedings of a read of a stream are those that `Feeds` describes. -/
theorem grown_readStream (c : Client σ) (now : Clock) (l : Logged φ) (ch : Channel) :
    Grown (Feeds now ch .stream c l) l.feedings (c.readStream now l ch).2.feedings := by
  have hreplayed : ∀ {c₁ c₂ : Client σ} {l₂ : Logged φ},
      c.ensureConnected now.first = (.ok true, c₁) →
      (c₁.anchorReceive now.first).replay l ch = (c₂, l₂) →
        Grown (Feeds now ch .stream c l) l.feedings l₂.feedings := by
    intro c₁ c₂ l₂ hensured hreplay
    obtain rfl : _ = l₂ := congrArg Prod.snd hreplay
    exact grown_reaches (.stream hensured) l
  -- First the leftover is fed, if there is one, then what the loop receives
  have hreads := reads_readStream c now l ch
  generalize c.readStream now l ch = r at hreads
  cases hreads with
  | refused _ | failed _ | waiting _ | ready _ _ => exact .refl
  | replayed hensured hreplay _ => exact hreplayed hensured hreplay
  | received hensured hreplay hopen hloop =>
    rw [feedings_readOutcome]
    apply (hreplayed hensured hreplay).trans
    apply grown_receives hloop
    intro a g answer s bytes hasks hrecv hof
    exact ⟨_, g, a.remote, .received (.stream hensured) hreplay hopen hasks hrecv hof, rfl, rfl⟩

/-- The feedings of a read of datagrams are those that `Feeds` describes. -/
theorem grown_readDatagram (c : Client σ) (now : Clock) (l : Logged φ) (ch : Channel) :
    Grown (Feeds now ch .datagram c l) l.feedings (c.readDatagram now l ch).2.feedings := by
  unfold readDatagram
  split
  · exact .refl
  · rename_i hch
    obtain rfl : ch = .regular := Channel.eq_regular hch
    dsimp only
    split
    · -- the frame was complete before
      exact .refl
    · have hreaches : Reaches now .regular .datagram c (c.anchorReceive now.first) := .datagram rfl
      have hreplayed := grown_reaches hreaches l
      generalize hreplay : (c.anchorReceive now.first).replay l .regular = replayed at hreplayed ⊢
      obtain ⟨c₂, l₂⟩ := replayed
      dsimp only at hreplayed ⊢
      split
      · -- what was left over completes it
        exact hreplayed
      · rename_i hopen
        apply hreplayed.trans
        apply grown_receiveDatagram c₂ now.later.first l₂
        intro a d s hasks hrecv
        have hopen₂ : Framer.isComplete l₂ = false := Bool.eq_false_iff.mpr hopen
        exact ⟨_, l₂, _, .datagram hreaches hreplay hopen₂ hasks hrecv, rfl, rfl⟩

/-- Whatever a framer is fed in a read, and hands back, one of these clients keeps. -/
theorem grown_read (kind : ClientKind) (c : Client σ) (now : Clock) (l : Logged φ)
    (ch : Channel) :
    Grown (Feeds now ch kind c l) l.feedings (c.read kind now l ch).2.feedings := by
  cases kind with
  | stream => exact grown_readStream c now l ch
  | datagram => exact grown_readDatagram c now l ch

end Records

/-! ## Runs -/

section Runs

variable {σ φ : Type} [Endpoint σ] [Framer φ] {c : Client σ}
  {earlier : Channel → List (Bytes × Option String)}

omit [Endpoint σ] in
/-- The record of an operation is among the earlier ones for the next. -/
theorem RestsOf.forget {c : Client (Traced σ)} (h : RestsOf earlier c) :
    RestsOf (fun ch => earlier ch ++ c.chunks ch) (c.mapSocket Traced.socket).traced := by
  intro ch left hleft
  obtain ⟨hne, d, hlast, hrest⟩ := h ch left hleft
  refine ⟨hne, d, ?_, hrest⟩
  show (earlier ch ++ c.chunks ch ++ []).getLast? = some d
  rw [List.append_nil]
  exact hlast

/-- Each step of a run leaves the rest of the last chunk in a slot, when the framers of its
    reads are greedy. -/
theorem RestsOf.after [LawfulFramer φ] (h : RestsOf earlier c.traced) (kind : ClientKind)
    (step : Step σ φ) (hgreedy : step.IsGreedy) :
    RestsOf (fun ch => earlier ch ++ Exchange.chunks ch (c.exchangesOf kind step))
      (c.after kind step).traced := by
  cases step with
  | world change => exact h.forget
  | read now f ch =>
    -- The calls are on record only for the traced client, which reads the same
    have hread : RestsOf earlier (c.traced.read kind now f ch).1.2 := by
      cases kind with
      | stream => exact h.readStream hgreedy
      | datagram => exact h.readDatagram hgreedy
    show RestsOf _ (c.read kind now f ch).1.2.traced
    rw [read_traced]
    exact hread.forget
  | write now data ch =>
    have hwrite : RestsOf earlier (c.traced.write kind now data ch).2 := by
      cases kind with
      | stream => exact h.writeStream now data ch
      | datagram =>
        exact h.of_chunkless (Chunkless.keptByWriting.writeDatagram c.traced now data ch)
    show RestsOf _ (c.write kind now data ch).2.traced
    rw [write_traced]
    exact hwrite.forget
  | resetTransfer =>
    have hreset : RestsOf earlier c.traced.resetTransfer :=
      h.of_chunkless (.of_booked ((Booked.finishRead _).trans (.finishSend _)))
    exact hreset.forget

/-- A run with greedy framers leaves the rests those of the last chunks. -/
theorem RestsOf.run [LawfulFramer φ] (h : RestsOf earlier c.traced) (kind : ClientKind)
    (steps : List (Step σ φ)) (hgreedy : ∀ step ∈ steps, step.IsGreedy) :
    RestsOf (fun ch => earlier ch ++ Exchange.chunks ch (c.exchangesOfRun kind steps))
      (c.run kind steps).traced := by
  induction steps generalizing c earlier with
  | nil => exact h.forget
  | cons step steps ih =>
    have hstep : step.IsGreedy := hgreedy step List.mem_cons_self
    -- What came in the first step is among the earlier chunks for the others
    have hrun := ih (h.after kind step hstep) fun later hlater =>
      hgreedy later (List.mem_cons_of_mem _ hlater)
    simp only [List.append_assoc, ← Exchange.chunks_append] at hrun
    exact hrun

/-- The library's own framers are greedy, whatever was done to them since they were
    started.  After any run whose framers are greedy, what is left over on a channel is the
    rest of the last chunk that came there: it is not empty, it is no longer than the
    buffer, and it counts for the sender of the chunk, or for the peer where the sender is
    not known.  And whenever a framer is fed in a read with a greedy one, the client that
    keeps what it hands back has an empty slot for it. -/
theorem slots_run [LawfulFramer φ] (kind : ClientKind) (socket : σ) (config : Config)
    (made : Duration) (steps : List (Step σ φ)) (hgreedy : ∀ step ∈ steps, step.IsGreedy) :
    let start := make kind socket config made
    let c := start.run kind steps
    let calls := start.exchangesOfRun kind steps
    (∀ f : Framer.Standard, f.IsFresh → ∀ done, Framer.IsGreedy (Framer.run f done).1) ∧
      (∀ ch left, c.leftovers.get ch = some left → left.data ≠ [] ∧
        left.data.length ≤ max 1 (configuredSize config kind) ∧
        ∃ d, (Exchange.chunks ch calls).getLast? = some d ∧ left.data <:+ d.1 ∧
          left.origin = d.2.or c.remote) ∧
      ∀ (now : Clock) (f : φ) (ch : Channel), Framer.IsGreedy f →
        let l : Logged φ := ⟨f, []⟩
        ∀ before x after, (c.read kind now l ch).2.feedings = before ++ x :: after →
          ∃ a g origin, ReadFeeds now ch kind c l a g x.chunk origin ∧ g.feedings = before ∧
            x.rest = (Framer.feed g x.chunk origin).2 ∧ a.leftovers.get ch = none := by
  intro start c calls
  refine ⟨fun f hf done => ?_, ?_, ?_⟩
  · exact Framer.Standard.isGreedy_of_bounded (Framer.Standard.bounded_run hf.bounded done)
  · intro ch left hleft
    -- A client that was just made has no rests
    have hempty : start.leftovers = .empty := leftovers_make kind socket config made
    have hstart : RestsOf (fun _ => []) start.traced := .of_empty hempty
    obtain ⟨hne, d, hlast, hrest⟩ := hstart.run kind steps hgreedy ch left hleft
    have hlast' : (Exchange.chunks ch calls ++ []).getLast? = some d := hlast
    rw [List.append_nil] at hlast'
    have hsize : d.1.length ≤ c.bufferSize := hrest.length_le
    rw [bufferSize_run kind socket config made steps] at hsize
    exact ⟨hne, hrest.suffix.length_le.trans hsize, d, hlast', hrest.suffix, hrest.origin⟩
  · intro now f ch hf l before x after hsplit
    obtain ⟨a, g, origin, hfeeds, hbefore, hrest⟩ := (grown_read kind c now l ch).of_split hsplit
    have hlogged : Framer.IsGreedy l := .of_view Logged.isView hf
    exact ⟨a, g, origin, hfeeds, hbefore, hrest, hfeeds.leftovers_get hlogged⟩

end Runs

/-- A framer of two bytes takes them from a chunk of three, and the third one is left over.
    It is fed in the next read, by a client whose slot is empty. -/
theorem slots_run_scripted :
    let socket : ScriptedSocket :=
      { id := ⟨1⟩, transport := .tcp, peer := .ok (some "peer"), rx := [.data [1, 2, 3] none] }
    let f : Framer.Standard := .fixedLength (.start 2)
    let steps : List (Step ScriptedSocket Framer.Standard) := [.read .zero f .regular]
    let start := make .stream socket {} .zero
    let c := start.run .stream steps
    let calls := start.exchangesOfRun .stream steps
    let l : Logged Framer.Standard := ⟨.fixedLength (.start 1), []⟩
    (∀ step ∈ steps, step.IsGreedy) ∧ Framer.IsGreedy l.framer ∧
      c.leftovers.get .regular = some ⟨[3], some "peer"⟩ ∧
      (∃ d, (Exchange.chunks .regular calls).getLast? = some d ∧ [3] <:+ d.1 ∧
        some "peer" = d.2.or c.remote) ∧
      (c.read .stream .zero l .regular).2.feedings = [⟨[3], []⟩] ∧
      ∃ a g origin, ReadFeeds .zero .regular .stream c l a g [3] origin ∧
        a.leftovers.get .regular = none := by
  intro socket f steps start c calls l
  have hgreedy : ∀ step ∈ steps, step.IsGreedy := by
    intro step hstep
    rw [List.mem_singleton.mp hstep]
    exact (Framer.Standard.IsFresh.fixedLength 2).isGreedy
  have hnext : Framer.IsGreedy l.framer := (Framer.Standard.IsFresh.fixedLength 1).isGreedy
  -- The first read receives three bytes, and its framer takes two
  have hloop : Receives .regular .zero ((start.ensureConnected .zero).2.anchorReceive .zero) f
      false false _ := .complete rfl rfl rfl rfl rfl
  have hfirst : start.readStream .zero f .regular = readOutcome _ :=
    readStream_of_receives rfl rfl rfl rfl rfl hloop
  have hc : c = (start.readStream .zero f .regular).1.2 := rfl
  have hleft : c.leftovers.get .regular = some ⟨[3], some "peer"⟩ := by
    rw [hc, hfirst]
    rfl
  have hfed : (c.read .stream .zero l .regular).2.feedings = [⟨[3], []⟩] := by
    rw [hc, hfirst]
    rfl
  obtain ⟨_, hrests, hfeeds⟩ := slots_run .stream socket {} .zero steps hgreedy
  obtain ⟨_, _, hlast⟩ := hrests .regular _ hleft
  obtain ⟨a, g, origin, hfeed, _, _, hnone⟩ := hfeeds .zero l.framer .regular hnext [] _ [] hfed
  exact ⟨hgreedy, hnext, hleft, hlast, hfed, a, g, origin, hfeed, hnone⟩

end Client

end FrameSocket
