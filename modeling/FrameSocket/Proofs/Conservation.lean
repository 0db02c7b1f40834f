import FrameSocket.Framer.FixedLength
import FrameSocket.Proofs.Bookkeeping
import FrameSocket.Proofs.Recording
import FrameSocket.Proofs.Writing
import FrameSocket.Socket.Scripted
import Mathlib.Data.List.Range

/-!
# No byte is lost, doubled or moved

`Conserved` accounts for the bytes that came on a channel one position at a
time: each position belongs to exactly one chunk that a framer kept, or waits in
the channel's slot, and to one of these only.  Bytes that come and are fed, and
leftovers that are fed again, keep the account; everything else that a client
does leaves it as it is.

## Key results

- `Conserved.deliver` / `Conserved.replay`: the two ways in which bytes are fed
- `Live.receives` / `Live.receiveDatagram`: what the receiving loops keep
- `History.Holds.after`: what each step of a run keeps, however its call ended
- `conserved_runRecorded`: what a whole run keeps
-/

namespace FrameSocket

/-- Every position of `received` is in exactly one of the chunks that framers kept,
    or in what waits, and the bytes there are those of `received`. -/
def Conserved (received : Bytes) (feedings : List Feeding) (waiting : Bytes) : Prop :=
  ∃ (kept : List (List Nat)) (left : List Nat),
    (kept.flatten ++ left).Perm (List.range received.length) ∧
    kept.map (fun places => places.map (received[·]?)) =
      feedings.map (fun x => x.taken.map some) ∧
    left.map (received[·]?) = waiting.map some

namespace Conserved

/-- Nothing has come, so nothing has been fed and nothing waits. -/
theorem empty : Conserved [] [] [] := ⟨[], [], List.Perm.refl _, rfl, rfl⟩

variable {received waiting : Bytes} {feedings : List Feeding}

/-- Positions that lie in `received` find the same bytes when more come. -/
private theorem map_getElem?_append {places : List Nat} (more : Bytes)
    (h : ∀ i ∈ places, i < received.length) :
    places.map ((received ++ more)[·]?) = places.map (received[·]?) := by
  apply List.map_congr_left
  intro i hi
  exact List.getElem?_append_left (h i hi)

/-- The bytes at the positions behind `received` are those that came next. -/
private theorem map_getElem?_range' (received bytes : Bytes) :
    (List.range' received.length bytes.length).map ((received ++ bytes)[·]?) =
      bytes.map some := by
  apply List.ext_getElem
  · simp
  · intro i hi _
    simp only [List.length_map, List.length_range'] at hi
    simp only [List.getElem_map, List.getElem_range', Nat.one_mul]
    rw [List.getElem?_append_right (by omega), Nat.add_sub_cancel_left,
      List.getElem?_eq_getElem hi]

/-- Bytes come, and a framer is fed them at once: what it hands back waits behind
    what waited before. -/
theorem deliver (h : Conserved received feedings waiting) (taken rest : Bytes) :
    Conserved (received ++ (taken ++ rest)) (feedings ++ [⟨taken ++ rest, rest⟩])
      (waiting ++ rest) := by
  obtain ⟨kept, left, hperm, hkept, hleft⟩ := h
  have hbound : ∀ i ∈ kept.flatten ++ left, i < received.length :=
    fun i hi => List.mem_range.mp (hperm.mem_iff.mp hi)
  -- The new positions: first those of the bytes kept, then those of the bytes handed back.
  let new := List.range' received.length taken.length
  let newLeft := List.range' (received.length + taken.length) rest.length
  refine ⟨kept ++ [new], left ++ newLeft, ?_, ?_, ?_⟩
  · have hnew : new ++ newLeft = List.range' received.length (taken ++ rest).length := by
      rw [List.length_append, List.range'_append_1]
    calc (kept ++ [new]).flatten ++ (left ++ newLeft)
        = kept.flatten ++ (new ++ (left ++ newLeft)) := by
          rw [List.flatten_append, List.flatten_singleton, List.append_assoc]
      List.Perm _ (kept.flatten ++ (left ++ (new ++ newLeft))) := by
          refine List.Perm.append_left _ ?_
          rw [← List.append_assoc, ← List.append_assoc]
          exact List.Perm.append_right _ List.perm_append_comm
      List.Perm _ (List.range received.length ++ (new ++ newLeft)) := by
          rw [← List.append_assoc]
          exact List.Perm.append_right _ hperm
      _ = List.range (received ++ (taken ++ rest)).length := by
          have hlen : (received ++ (taken ++ rest)).length =
              received.length + (taken ++ rest).length := List.length_append
          rw [hnew, hlen, List.range_eq_range', List.range_eq_range', ← List.range'_append_1,
            Nat.zero_add]
  · rw [List.map_append, List.map_append, ← hkept]
    congr 1
    · -- the old positions find what they found before
      apply List.map_congr_left
      intro places hplaces
      apply map_getElem?_append
      intro i hi
      exact hbound i (List.mem_append_left _ (List.mem_flatten_of_mem hplaces hi))
    · have htaken : new.map ((received ++ taken ++ rest)[·]?) = taken.map some := by
        rw [map_getElem?_append rest, map_getElem?_range']
        intro i hi
        rw [List.length_append]
        exact (List.mem_range'_1.mp hi).2
      simp only [List.map_cons, List.map_nil, ← List.append_assoc, htaken, Feeding.taken]
      simp
  · rw [List.map_append, List.map_append, ← hleft]
    congr 1
    · exact map_getElem?_append _ fun i hi => hbound i (List.mem_append_right _ hi)
    · rw [← List.append_assoc, ← map_getElem?_range' (received ++ taken) rest,
        List.length_append]

/-- What waits is fed again: only what is handed back goes on waiting. -/
theorem replay {taken rest : Bytes} (h : Conserved received feedings (taken ++ rest)) :
    Conserved received (feedings ++ [⟨taken ++ rest, rest⟩]) rest := by
  obtain ⟨kept, left, hperm, hkept, hleft⟩ := h
  -- What the framer takes of the leftover is no longer waiting
  refine ⟨kept ++ [left.take taken.length], left.drop taken.length, ?_, ?_, ?_⟩
  · rw [List.flatten_append, List.flatten_singleton, List.append_assoc, List.take_append_drop]
    exact hperm
  · rw [List.map_append, List.map_append, hkept]
    congr 1
    simp only [List.map_cons, List.map_nil, Feeding.taken, List.map_take, hleft]
    simp
  · rw [List.map_drop, hleft]
    simp

end Conserved

namespace Client

/-- The bytes that wait on a channel for the next framer. -/
def waiting {σ : Type} (c : Client σ) (ch : Channel) : Bytes :=
  ((c.leftovers.get ch).map Leftover.data).getD []

section Waiting

variable {σ φ : Type} [Endpoint σ] [Framer φ] (c : Client σ)

omit [Endpoint σ] in
/-- What a framer hands back waits behind what waited before. -/
theorem waiting_keep (ch : Channel) (rest : Bytes) (origin : Option String) :
    (c.keep ch rest origin).waiting = Channel.extend c.waiting ch rest := by
  unfold keep
  split
  · -- Nothing handed back is nothing kept
    rename_i hempty
    rw [List.isEmpty_iff.mp hempty, Channel.extend_nil]
  · funext ch'
    -- Only the slot of the channel gets longer, whether or not it was empty
    by_cases hch : ch' = ch
    · subst hch
      rw [Channel.extend_self]
      show (((c.leftovers.store ch' ⟨rest, origin⟩).get ch').map Leftover.data).getD [] = _
      rw [Leftovers.store, Leftovers.get_set_self, waiting]
      cases c.leftovers.get ch' <;> rfl
    · rw [Channel.extend_of_ne _ _ hch]
      show (((c.leftovers.store ch ⟨rest, origin⟩).get ch').map Leftover.data).getD [] = _
      rw [Leftovers.store, Leftovers.get_set_of_ne _ _ hch, waiting]

omit [Endpoint σ] in
/-- `keep` does not connect a client. -/
theorem wasConnected_keep (ch : Channel) (rest : Bytes) (origin : Option String) :
    (c.keep ch rest origin).wasConnected = c.wasConnected := by
  unfold keep
  split <;> rfl

omit [Endpoint σ] in
/-- Of a chunk that is fed the framer takes a beginning, and the rest waits behind what
    waited before. -/
theorem feed_logged [LawfulFramer φ] (l : Logged φ) (ch : Channel) (bytes : Bytes)
    (origin : Option String) :
    ∃ taken rest, bytes = taken ++ rest ∧
      (c.feed l ch bytes origin).2.feedings = l.feedings ++ [⟨taken ++ rest, rest⟩] ∧
      (c.feed l ch bytes origin).1.waiting = Channel.extend c.waiting ch rest ∧
      (c.feed l ch bytes origin).1.wasConnected = c.wasConnected := by
  obtain ⟨taken, htaken⟩ : (Framer.feed l.framer bytes (origin.or c.remote)).2 <:+ bytes :=
    LawfulFramer.feed_suffix _ _ _
  refine ⟨taken, _, htaken.symm, ?_, waiting_keep c ch _ _, wasConnected_keep c ch _ _⟩
  rw [htaken]
  rfl

omit [Endpoint σ] in
/-- Of what waits the framer takes a beginning, too, and the rest goes on waiting. -/
theorem replay_logged [LawfulFramer φ] (l : Logged φ) (ch : Channel) :
    c.replay l ch = (c, l) ∨ ∃ taken rest, c.waiting ch = taken ++ rest ∧
      (c.replay l ch).2.feedings = l.feedings ++ [⟨taken ++ rest, rest⟩] ∧
      (c.replay l ch).1.waiting ch = rest ∧
      (∀ ch' ≠ ch, (c.replay l ch).1.waiting ch' = c.waiting ch') ∧
      (c.replay l ch).1.wasConnected = c.wasConnected := by
  unfold replay
  split
  · exact .inl rfl
  · rename_i left leftovers htake
    right
    have hget : c.leftovers.get ch = some left := congrArg Prod.fst htake
    have hset : c.leftovers.set ch none = leftovers := congrArg Prod.snd htake
    obtain ⟨taken, htaken⟩ : (Framer.feed l.framer left.data left.origin).2 <:+ left.data :=
      LawfulFramer.feed_suffix _ _ _
    -- The slot is emptied first, and then holds what is handed back.
    have hwaiting := waiting_keep { c with leftovers } ch
      (Framer.feed l.framer left.data left.origin).2 left.origin
    refine ⟨taken, (Framer.feed l.framer left.data left.origin).2, ?_, ?_,
      (congrFun hwaiting ch).trans ?_, fun ch' hne => ?_, wasConnected_keep _ ch _ _⟩
    · rw [waiting, hget, htaken]
      rfl
    · rw [htaken]
      rfl
    · rw [Channel.extend_self, waiting, ← hset, Leftovers.get_set_self]
      rfl
    · refine (congrFun hwaiting ch').trans ?_
      rw [Channel.extend_of_ne _ _ hne, waiting, ← hset, Leftovers.get_set_of_ne _ _ hne, waiting]

/-- Deciding what a read comes to feeds nothing. -/
theorem feedings_readOutcome (r : Reception σ (Logged φ)) :
    (readOutcome r).2.feedings = r.framer.feedings := by
  unfold readOutcome
  split
  · rfl
  · dsimp only
    split
    · rfl
    · split
      · split <;> rfl
      · split <;> rfl

end Waiting

section Accounting

variable {σ φ : Type} [Endpoint σ] [Framer φ]

/-! ## What leaves the account as it is -/

/-- From `c` to `c'` no byte came, none was fed and none was dropped. -/
structure Unmoved (c c' : Client (Recorded σ)) : Prop where
  received : c'.socket.received = c.socket.received
  leftovers : c'.leftovers = c.leftovers
  wasConnected : c'.wasConnected = c.wasConnected
  connected : c'.isConnected = true → c.isConnected = true

namespace Unmoved

variable {c c' c'' : Client (Recorded σ)}

omit [Endpoint σ] in
/-- Doing nothing is `Unmoved`. -/
theorem refl (c : Client (Recorded σ)) : Unmoved c c := ⟨rfl, rfl, rfl, id⟩

omit [Endpoint σ] in
/-- `Unmoved` steps can be taken one after the other. -/
theorem trans (h : Unmoved c c') (h' : Unmoved c' c'') : Unmoved c c'' where
  received := h'.received.trans h.received
  leftovers := h'.leftovers.trans h.leftovers
  wasConnected := h'.wasConnected.trans h.wasConnected
  connected := fun hc => h.connected (h'.connected hc)

omit [Endpoint σ] in
/-- A call of the socket that brought nothing. -/
theorem onSocket {s : Recorded σ} (h : s.received = c.socket.received) :
    Unmoved c { c with socket := s } :=
  ⟨h, rfl, rfl, id⟩

/-- `lost` is `Unmoved`. -/
theorem lost (c : Client (Recorded σ)) : Unmoved c c.lost.2 :=
  ⟨rfl, rfl, rfl, fun hc => nomatch (of_decide_eq_true hc : Connection.disconnected = _)⟩

/-- `receiveError` is `Unmoved`. -/
theorem receiveError (c : Client (Recorded σ)) (e : IoError) :
    Unmoved c (c.receiveError e).2 := by
  unfold Client.receiveError
  split
  · exact lost c
  · exact refl c

/-- `sendError` is `Unmoved`. -/
theorem sendError (c : Client (Recorded σ)) (e : IoError) : Unmoved c (c.sendError e).2 := by
  unfold Client.sendError
  split
  · exact lost c
  · exact refl c

omit [Endpoint σ] in
/-- Keeping the books moves nothing. -/
theorem of_booked (h : Booked c c') : Unmoved c c' where
  received := by rw [h.socket]
  leftovers := h.leftovers
  wasConnected := h.wasConnected
  connected hc := by
    rw [isConnected, ← h.connection]
    exact hc

/-- A receiving call that brought nothing. -/
theorem recv {ch : Channel} {n : Nat} {answer : Except IoError Bytes} {s : Recorded σ}
    (h : Endpoint.recv c.socket ch n = (answer, s))
    (hof : ∀ bytes, Received.of ch answer ≠ .data bytes) : Unmoved c { c with socket := s } := by
  apply onSocket
  rw [Recorded.received_recv h]
  match answer, hof with
  | .error _, _ => exact Channel.extend_nil _ _
  | .ok [], _ => exact Channel.extend_nil _ _
  | .ok (b :: bytes), hof => exact absurd rfl (hof (b :: bytes))

/-- A receiving call for a datagram that failed. -/
theorem recvFrom {n : Nat} {e : IoError} {s : Recorded σ}
    (h : Endpoint.recvFrom c.socket n = (.error e, s)) : Unmoved c { c with socket := s } := by
  apply onSocket
  rw [Recorded.received_recvFrom h]
  exact Channel.extend_nil _ _

/-- A peek brings no bytes in. -/
theorem peek {ch : Channel} {answer : Except IoError Nat} {s : Recorded σ}
    (h : Endpoint.peek c.socket ch = (answer, s)) : Unmoved c { c with socket := s } :=
  onSocket (Recorded.received_peek h)

/-- Deciding what a read comes to moves no byte. -/
theorem readOutcome (r : Reception (Recorded σ) (Logged φ)) :
    Unmoved r.client (readOutcome r).1.2 := by
  unfold Client.readOutcome
  split
  · exact refl _
  · dsimp only
    split
    · exact of_booked (.finishRead _)
    · split
      · split
        · -- The end of the stream completes the frame, and then the client is not connected
          exact ⟨rfl, rfl, rfl, fun hc =>
            nomatch (of_decide_eq_true hc : Connection.disconnected = _)⟩
        · exact lost _
      · split
        · exact of_booked (.finishRead _)
        · exact refl _

/-- Sending brings no bytes in, so that no write does. -/
theorem keptByWriting : KeptByWriting (Unmoved (σ := σ)) where
  trans := trans
  books _ _ _ _ := ⟨rfl, rfl, rfl, id⟩
  send hsend := onSocket (Recorded.received_send hsend)
  failed hsend := (onSocket (Recorded.received_send hsend)).trans (sendError _ _)

end Unmoved

/-- A write of a stream moves no byte but for finding out whether the connection stands,
    and not even that if it is refused. -/
theorem Unmoved.writeStream (c : Client (Recorded σ)) (now : Clock) (data : Bytes)
    (ch : Channel) : Unmoved c (c.writeStream now data ch).2 ∨
      Unmoved (c.ensureConnected now.first).2 (c.writeStream now data ch).2 := by
  rcases keptByWriting.writeStream c now data ch with hrefused | hafter
  · rw [hrefused]
    exact .inl (.refl c)
  · exact .inr hafter

/-! ## Receiving and feeding -/

/-- The account of a client that has been connected, and whose framers were fed `fed`:
    on each channel nothing is lost, doubled or moved. -/
structure Live (c : Client (Recorded σ)) (fed : Channel → List Feeding) : Prop where
  conserved : ∀ ch, Conserved (c.socket.received ch) (fed ch) (c.waiting ch)
  wasConnected : c.wasConnected = true

namespace Live

variable {c c' : Client (Recorded σ)} {fed : Channel → List Feeding} {l : Logged φ}

omit [Endpoint σ] in
/-- `Unmoved` steps keep a client `Live`. -/
theorem of_unmoved (h : Live c fed) (hu : Unmoved c c') : Live c' fed where
  conserved ch := by
    rw [hu.received, waiting, hu.leftovers]
    exact h.conserved ch
  wasConnected := hu.wasConnected.trans h.wasConnected

omit [Endpoint σ] in
/-- Bytes come and are fed.  `c'` is the client when the framer gets them. -/
theorem feed [LawfulFramer φ] {ch : Channel} {bytes : Bytes}
    (h : Live c (Channel.extend fed ch l.feedings)) (origin : Option String)
    (hrec : c'.socket.received = Channel.extend c.socket.received ch bytes)
    (hleft : c'.leftovers = c.leftovers) (hwas : c'.wasConnected = c.wasConnected) :
    Live (c'.feed l ch bytes origin).1
      (Channel.extend fed ch (c'.feed l ch bytes origin).2.feedings) := by
  obtain ⟨taken, rest, rfl, hfed, hwaiting, hwas'⟩ := c'.feed_logged l ch bytes origin
  constructor
  · intro ch'
    have hsame : c'.waiting = c.waiting := by
      funext ch'
      rw [waiting, hleft, waiting]
    rw [hfed, hwaiting, socket_feed, hrec, hsame]
    have hch := h.conserved ch'
    by_cases heq : ch' = ch
    · -- the channel of the bytes
      subst heq
      simp only [Channel.extend_self] at hch ⊢
      rw [← List.append_assoc (fed ch')]
      exact hch.deliver taken rest
    · -- the other channel
      simp only [Channel.extend_of_ne _ _ heq] at hch ⊢
      exact hch
  · rw [hwas', hwas]
    exact h.wasConnected

omit [Endpoint σ] in
/-- What waits on a channel is fed again. -/
theorem replay [LawfulFramer φ] {ch : Channel}
    (h : Live c (Channel.extend fed ch l.feedings)) :
    Live (c.replay l ch).1 (Channel.extend fed ch (c.replay l ch).2.feedings) := by
  rcases c.replay_logged l ch with hnone | ⟨taken, rest, hwaiting, hfed, hrest, hother, hwas⟩
  · -- nothing waits
    rw [hnone]
    exact h
  · constructor
    · intro ch'
      rw [hfed, socket_replay]
      have hch := h.conserved ch'
      by_cases heq : ch' = ch
      · -- the slot is emptied first, and then holds what is handed back
        subst heq
        simp only [Channel.extend_self] at hch ⊢
        rw [hrest, ← List.append_assoc (fed ch')]
        exact (hwaiting ▸ hch).replay
      · -- the slot of the other channel is not touched
        simp only [Channel.extend_of_ne _ _ heq] at hch ⊢
        rw [hother ch' heq]
        exact hch
    · rw [hwas]
      exact h.wasConnected

/-- One receiving call of a stream that brought bytes, and the feeding of them. -/
theorem received [LawfulFramer φ] {ch : Channel} {answer : Except IoError Bytes}
    {s : Recorded σ} {bytes : Bytes} {c₁ : Client (Recorded σ)} {l₁ : Logged φ}
    (h : Live c (Channel.extend fed ch l.feedings))
    (hrecv : Endpoint.recv c.socket ch c.bufferSize = (answer, s))
    (hof : Received.of ch answer = .data bytes)
    (hfeed : { c with socket := s }.refillReads.feed l ch bytes none = (c₁, l₁)) :
    Live c₁ (Channel.extend fed ch l₁.feedings) := by
  -- What the call brought is put on record when the framer is fed with it
  have hrec : s.received = Channel.extend c.socket.received ch bytes :=
    Recorded.received_recv_data hrecv hof
  have hfed : Live ({ c with socket := s }.refillReads.feed l ch bytes none).1 _ :=
    h.feed none hrec rfl rfl
  rw [hfeed] at hfed
  exact hfed

/-- One datagram that came, and the feeding of it. -/
theorem receivedDatagram [LawfulFramer φ] {data : Bytes} {origin : Option String}
    {s : Recorded σ} {c₁ : Client (Recorded σ)} {l₁ : Logged φ}
    (h : Live c (Channel.extend fed .regular l.feedings))
    (hrecv : Endpoint.recvFrom c.socket c.bufferSize = (.ok (data, origin), s))
    (hfeed : { c with socket := s }.feed l .regular data origin = (c₁, l₁)) :
    Live c₁ (Channel.extend fed .regular l₁.feedings) := by
  have hrec : s.received = Channel.extend c.socket.received .regular data :=
    Recorded.received_recvFrom hrecv
  have hfed : Live ({ c with socket := s }.feed l .regular data origin).1 _ :=
    h.feed origin hrec rfl rfl
  rw [hfeed] at hfed
  exact hfed

/-- The receiving loop of a stream. -/
theorem receives [LawfulFramer φ] {now : Clock} {ch : Channel} {any retried : Bool}
    {r : Reception (Recorded σ) (Logged φ)} (hloop : Receives ch now c l any retried r)
    (h : Live c (Channel.extend fed ch l.feedings)) :
    Live r.client (Channel.extend fed ch r.framer.feedings) := by
  -- The induction is on the loop; bytes come in only by `received`
  induction hloop with
  | closed hrecv hof => exact h.of_unmoved (.recv hrecv (by simp [hof]))
  | failed hrecv hof =>
    exact h.of_unmoved ((Unmoved.recv hrecv (by simp [hof])).trans (.receiveError _ _))
  | interrupted hrecv hof _ ih => exact ih (h.of_unmoved (.recv hrecv (by simp [hof])))
  | slow hrecv hof hfeed htrack =>
    exact (h.received hrecv hof hfeed).of_unmoved (.of_booked (.trackReceive htrack))
  | complete hrecv hof hfeed htrack _ =>
    exact (h.received hrecv hof hfeed).of_unmoved (.of_booked (.trackReceive htrack))
  | more hrecv hof hfeed htrack _ _ ih =>
    exact ih ((h.received hrecv hof hfeed).of_unmoved (.of_booked (.trackReceive htrack)))
  | again hrecv hof hpeek _ _ ih =>
    have hquiet := Unmoved.recv hrecv (by simp [hof])
    exact ih (h.of_unmoved (hquiet.trans (.peek hpeek)))
  | idle hrecv hof hpeek _ =>
    have hquiet := (Unmoved.recv hrecv (by simp [hof])).trans (.peek hpeek)
    apply h.of_unmoved
    split
    · exact hquiet
    · -- the read is dry
      exact hquiet.trans (.of_booked (.dryRead _))

/-- The receipt of a datagram. -/
theorem receiveDatagram [LawfulFramer φ] (h : Live c (Channel.extend fed .regular l.feedings))
    (now : Duration) :
    Live (c.receiveDatagram now l).1.2
      (Channel.extend fed .regular (c.receiveDatagram now l).2.feedings) := by
  fun_induction Client.receiveDatagram c now l with
  | case1 c data origin s hrecv c₁ f₁ hfeed e c₂ htrack =>
    exact (h.receivedDatagram hrecv hfeed).of_unmoved (.of_booked (.trackReceive htrack))
  | case2 c data origin s hrecv c₁ f₁ hfeed c₂ htrack hdone =>
    have hbooked := (Booked.trackReceive htrack).trans (.finishRead c₂)
    exact (h.receivedDatagram hrecv hfeed).of_unmoved (.of_booked hbooked)
  | case3 c data origin s hrecv c₁ f₁ hfeed c₂ htrack hdone =>
    have hbooked := (Booked.trackReceive htrack).trans (.finishRead c₂)
    exact (h.receivedDatagram hrecv hfeed).of_unmoved (.of_booked hbooked)
  -- A call that fails brings nothing
  | case4 c e s hrecv c' hblocked => exact h.of_unmoved (.recvFrom hrecv)
  | case5 c e s hrecv c' hblocked hi ih => exact ih (h.of_unmoved (.recvFrom hrecv))
  | case6 c e s hrecv c' hblocked hi =>
    exact h.of_unmoved ((Unmoved.recvFrom hrecv).trans (.receiveError _ e))

end Live

/-! ## Whole operations -/

/-- The account of any client: of one that was never connected, it also says that
    nothing waits. -/
structure Accounted (c : Client (Recorded σ)) (fed : Channel → List Feeding) : Prop where
  conserved : ∀ ch, Conserved (c.socket.received ch) (fed ch) (c.waiting ch)
  fresh : c.wasConnected = false → c.leftovers = .empty
  connected : c.isConnected = true → c.wasConnected = true

variable {c c' : Client (Recorded σ)} {fed : Channel → List Feeding} {l : Logged φ}

omit [Endpoint σ] in
/-- A `Live` client is `Accounted` for. -/
theorem Live.accounted (h : Live c fed) : Accounted c fed where
  conserved := h.conserved
  fresh hwas := absurd (hwas.symm.trans h.wasConnected) Bool.false_ne_true
  connected _ := h.wasConnected

namespace Accounted

omit [Endpoint σ] in
/-- `Unmoved` steps keep a client `Accounted` for. -/
theorem of_unmoved (h : Accounted c fed) (hu : Unmoved c c') : Accounted c' fed where
  conserved ch := by
    rw [hu.received, waiting, hu.leftovers]
    exact h.conserved ch
  fresh hwas := by
    rw [hu.leftovers]
    exact h.fresh (hu.wasConnected ▸ hwas)
  connected hc := by
    rw [hu.wasConnected]
    exact h.connected (hu.connected hc)

/-- Finding out whether the connection stands drops nothing: when a connection is
    gained, nothing waits yet. -/
theorem ensureConnected (h : Accounted c fed) (now : Duration) :
    Accounted (c.ensureConnected now).2 fed ∧
      (c.ensureConnected now).2.leftovers = c.leftovers := by
  rcases hensured : c.ensureConnected now with ⟨answer, c'⟩
  have hquiet : ∀ {s s' : Recorded σ} {pending : Except IoError (Option IoError)},
      Endpoint.remoteAddress c.socket = (.ok none, s) → Endpoint.takeError s = (pending, s') →
      Unmoved c { c with socket := s' } := by
    intro s s' pending hremote herror
    exact .onSocket
      ((Recorded.received_takeError herror).trans (Recorded.received_remoteAddress hremote))
  cases finds_ensureConnected hensured with
  | stands _ => exact ⟨h, rfl⟩
  | gone _ _ => exact ⟨h.of_unmoved (.lost c), rfl⟩
  -- Only here the client is connected anew, and its leftovers are cleared: there are none yet
  | @named address s _ hwas hremote =>
    have hempty : c.leftovers = .empty := h.fresh hwas
    refine ⟨⟨fun ch => ?_, fun hfresh => (nomatch hfresh), fun _ => rfl⟩, hempty.symm⟩
    show Conserved (s.received ch) (fed ch)
      (((Leftovers.empty.get ch).map Leftover.data).getD [])
    rw [Recorded.received_remoteAddress hremote, ← hempty]
    exact h.conserved ch
  | unreachable _ _ hremote =>
    exact ⟨h.of_unmoved (.onSocket (Recorded.received_remoteAddress hremote)), rfl⟩
  | unanswered _ _ hremote herror | failed _ _ hremote herror | late _ _ hremote herror _
  | waiting _ _ hremote herror _ => exact ⟨h.of_unmoved (hquiet hremote herror), rfl⟩

/-- A stream client reads. -/
theorem readStream [LawfulFramer φ] {ch : Channel}
    (h : Accounted c (Channel.extend fed ch l.feedings)) (now : Clock) :
    Accounted (c.readStream now l ch).1.2
      (Channel.extend fed ch (c.readStream now l ch).2.feedings) := by
  -- A read that goes on is connected, and so it has been connected before
  have hanchored : ∀ {c₁ : Client (Recorded σ)}, c.ensureConnected now.first = (.ok true, c₁) →
      Live (c₁.anchorReceive now.first) (Channel.extend fed ch l.feedings) := by
    intro c₁ hconn
    have hensured := (h.ensureConnected now.first).1
    rw [hconn] at hensured
    have hlive : Live c₁ _ :=
      ⟨hensured.conserved, hensured.connected (isConnected_of_ensureConnected hconn)⟩
    exact hlive.of_unmoved (.of_booked (.anchorReceive c₁ now.first))
  have hreads := reads_readStream c now l ch
  generalize c.readStream now l ch = r at hreads
  cases hreads with
  | refused _ => exact h
  | failed hconn | waiting hconn =>
    have hensured := (h.ensureConnected now.first).1
    rw [hconn] at hensured
    exact hensured
  | ready hconn _ => exact ((hanchored hconn).of_unmoved (.of_booked (.finishRead _))).accounted
  | replayed hconn hreplay _ =>
    have hreplayed := (hanchored hconn).replay
    rw [hreplay] at hreplayed
    exact (hreplayed.of_unmoved (.of_booked (.finishRead _))).accounted
  | received hconn hreplay _ hloop =>
    have hreplayed := (hanchored hconn).replay
    rw [hreplay] at hreplayed
    rw [feedings_readOutcome]
    exact ((Live.receives hloop hreplayed).of_unmoved (.readOutcome _)).accounted

/-- A stream client writes. -/
theorem writeStream (h : Accounted c fed) (now : Clock) (data : Bytes) (ch : Channel) :
    Accounted (c.writeStream now data ch).2 fed := by
  rcases Unmoved.writeStream c now data ch with hrefused | hafter
  · exact h.of_unmoved hrefused
  · exact (h.ensureConnected now.first).1.of_unmoved hafter

end Accounted

/-- A datagram client reads. -/
theorem Live.readDatagram [LawfulFramer φ] {ch : Channel}
    (h : Live c (Channel.extend fed ch l.feedings)) (now : Clock) :
    Live (c.readDatagram now l ch).1.2
      (Channel.extend fed ch (c.readDatagram now l ch).2.feedings) := by
  unfold Client.readDatagram
  split
  · -- datagrams have no urgent channel
    exact h
  · rename_i hch
    obtain rfl : ch = .regular := Channel.eq_regular hch
    have hanchored := h.of_unmoved (.of_booked (.anchorReceive c now.first))
    dsimp only
    split
    · exact hanchored.of_unmoved (.of_booked (.finishRead _))
    · have hreplayed := hanchored.replay
      split
      · exact hreplayed.of_unmoved (.of_booked (.finishRead _))
      · exact hreplayed.receiveDatagram now.later.first

/-- A datagram client writes. -/
theorem Unmoved.writeDatagram (c : Client (Recorded σ)) (now : Clock) (data : Bytes)
    (ch : Channel) : Unmoved c (c.writeDatagram now data ch).2 :=
  keptByWriting.writeDatagram c now data ch

/-! ## Runs -/

/-- What holds of a client of the given kind all along a run.  A datagram client is
    connected from the start. -/
def History.Holds (kind : ClientKind) (x : History σ) : Prop :=
  match kind with
  | .stream => Accounted x.client x.feedings
  | .datagram => Live x.client x.feedings

variable {kind : ClientKind} {x : History σ}

omit [Endpoint σ] in
/-- What `Holds` of a history accounts for its client. -/
theorem History.Holds.accounted (h : x.Holds kind) : Accounted x.client x.feedings := by
  cases kind with
  | stream => exact h
  | datagram => exact h.accounted

omit [Endpoint σ] in
/-- `Unmoved` steps keep a history that `Holds`. -/
theorem History.Holds.of_unmoved (h : x.Holds kind) (hu : Unmoved x.client c') :
    History.Holds kind { x with client := c' } := by
  cases kind with
  | stream => exact Accounted.of_unmoved h hu
  | datagram => exact Live.of_unmoved h hu

/-- Each step of a run keeps the account. -/
theorem History.Holds.after [LawfulFramer φ] (h : x.Holds kind) (step : Step σ φ) :
    (x.after kind step).Holds kind := by
  cases step with
  | world change => exact h.of_unmoved ⟨rfl, rfl, rfl, id⟩
  | read now f ch =>
    -- A framer is put on record from the start of the read on.
    have hnil : Channel.extend x.feedings ch (⟨f, []⟩ : Logged φ).feedings = x.feedings :=
      Channel.extend_nil _ _
    cases kind with
    | stream =>
      rw [Holds, ← hnil] at h
      exact Accounted.readStream h now
    | datagram =>
      rw [Holds, ← hnil] at h
      exact Live.readDatagram h now
  | write now data ch =>
    cases kind with
    | stream => exact Accounted.writeStream h now data ch
    | datagram => exact h.of_unmoved (.writeDatagram _ now data ch)
  | resetTransfer => exact h.of_unmoved (.of_booked ((Booked.finishRead _).trans (.finishSend _)))

/-- A client starts with an empty account. -/
theorem holds_make (kind : ClientKind) (socket : σ) (config : Config) (now : Duration) :
    History.Holds kind ⟨make kind (.start socket) config now, fun _ => []⟩ := by
  have hempty : ∀ ch, Conserved [] [] (((Leftovers.empty.get ch).map Leftover.data).getD []) := by
    intro ch
    cases ch <;> exact Conserved.empty
  cases kind with
  | stream => exact ⟨hempty, fun _ => rfl, fun hc => (nomatch of_decide_eq_true hc)⟩
  | datagram =>
    show Live (newDatagram (.start socket) config now) fun _ => []
    unfold newDatagram
    dsimp only
    -- The socket is asked for its peer, which brings no bytes.
    split
    · rename_i address s hremote
      have hs : s.received = fun _ => [] := Recorded.received_remoteAddress hremote
      constructor
      · intro ch
        show Conserved (s.received ch) [] _
        rw [hs]
        exact hempty ch
      · rfl
    · rename_i answer s _ hremote
      have hs : s.received = fun _ => [] := Recorded.received_remoteAddress hremote
      constructor
      · intro ch
        show Conserved (s.received ch) [] _
        rw [hs]
        exact hempty ch
      · rfl

/-- What holds of a client holds all along a run. -/
theorem History.Holds.run [LawfulFramer φ] (h : x.Holds kind) (steps : List (Step σ φ)) :
    (steps.foldl (History.after kind) x).Holds kind := by
  induction steps generalizing x with
  | nil => exact h
  | cons step steps ih => exact ih (h.after step)

/-- After any run from the making of a client on, every byte that came on a channel was
    kept by exactly one feeding for that channel or waits there, and to find out whether
    the connection stands drops nothing. -/
theorem conserved_runRecorded [LawfulFramer φ] (kind : ClientKind) (socket : σ)
    (config : Config) (now : Duration) (steps : List (Step σ φ)) :
    let x := runRecorded kind socket config now steps
    let c := (make kind socket config now).run kind steps
    x.forget = c ∧
      (∀ ch, Conserved (x.client.socket.received ch) (x.feedings ch) (c.waiting ch)) ∧
      ∀ later, (c.ensureConnected later).2.leftovers = c.leftovers := by
  intro x c
  have hforget : x.forget = c := forget_runRecorded kind socket config now steps
  have hholds : x.Holds kind := (holds_make kind socket config now).run steps
  refine ⟨hforget, ?_, ?_⟩
  · intro ch
    rw [← hforget]
    exact hholds.accounted.conserved ch
  · -- the account is kept on the recorded socket, and the bare one does the same
    intro later
    have hview := ensureConnected_mapSocket Recorded.isView.outline x.client later
    rw [← hforget]
    show ((x.client.mapSocket Recorded.socket).ensureConnected later).2.leftovers = _
    rw [hview]
    exact (hholds.accounted.ensureConnected later).2

end Accounting

/-- A frame of two bytes is cut from a chunk of three: the third byte waits, and the
    reset leaves it there. -/
theorem conserved_runRecorded_scripted :
    let socket : ScriptedSocket :=
      { id := ⟨1⟩, transport := .tcp, peer := .ok (some "peer"), rx := [.data [1, 2, 3] none] }
    let steps : List (Step ScriptedSocket Framer.FixedLength) :=
      [.read .zero (.start 2) .regular, .resetTransfer]
    let x := runRecorded .stream socket {} .zero steps
    x.feedings .regular = [⟨[1, 2, 3], [3]⟩] ∧ x.forget.waiting .regular = [3] ∧
      Conserved (x.client.socket.received .regular) (x.feedings .regular) [3] := by
  intro socket steps x
  let start : Client (Recorded ScriptedSocket) := make .stream (.start socket) {} .zero
  let ready := (start.ensureConnected .zero).2.anchorReceive .zero
  let l : Logged Framer.FixedLength := ⟨.start 2, []⟩
  -- The one read that receives: three bytes, of which the framer takes two
  have hloop : ready.receiveAll .zero l .regular false false = _ :=
    Receives.receiveAll_eq (.complete rfl rfl rfl rfl rfl)
  have hread : start.readStream .zero l .regular =
      readOutcome (ready.receiveAll .zero l .regular false false) := rfl
  rw [hloop] at hread
  have hx : x = ((⟨start, fun _ => []⟩ : History ScriptedSocket).after .stream
      (.read .zero l.framer .regular : Step ScriptedSocket Framer.FixedLength)).after .stream
      (.resetTransfer : Step ScriptedSocket Framer.FixedLength) := rfl
  have hfeedings : x.feedings .regular = [⟨[1, 2, 3], [3]⟩] := by
    rw [hx]
    simp only [History.after, Client.read, l, hread]
    rfl
  have hwaiting : x.forget.waiting .regular = [3] := by
    rw [hx]
    simp only [History.after, Client.read, l, hread]
    rfl
  obtain ⟨hforget, hconserved, _⟩ := conserved_runRecorded .stream socket {} .zero steps
  have hregular := hconserved .regular
  rw [← hforget, hwaiting] at hregular
  exact ⟨hfeedings, hwaiting, hregular⟩

end Client

end FrameSocket
