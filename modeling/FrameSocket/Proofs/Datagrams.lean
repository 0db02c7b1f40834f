import FrameSocket.Proofs.Replaying

/-!
# Frames of one datagram

A datagram client cuts its frames out of datagrams that anyone may have sent.  What it
has left over always comes from a single one of them, and counts for its sender.  So does
a frame, if the read that completed it was given the leftover or a datagram, but not both:
it is a part of one datagram, attributed to its sender.

A read that is given both, as what was left over does not complete its frame, goes on
with the datagram that comes next.  The frame then joins the two, and counts for the
sender of the first.

## Key results

- `Standard.IsFresh.frame_feed`: the frame of a fresh framer that was fed one chunk
- `takes_receiveDatagram`: a read receives one datagram at most
- `LeftFrom.after`: what each step of a run keeps of the leftover's origin
- `isPart_of_read`: a frame is a part of one datagram, and counts for its sender
-/

namespace FrameSocket.Framer

/-! ## Fresh framers -/

/-- The search for the closing marker keeps a beginning of what it searches. -/
theorem Delimited.data_collect_isPrefix (f : Delimited) (data : Bytes) (scanned : Nat)
    (chunk : Bytes) (origin : Option String) :
    Delimited.data { f with phase := (f.collect data scanned chunk).1, origin } <+: data := by
  unfold collect
  dsimp only
  split
  · exact List.take_prefix _ data
  · exact List.prefix_refl data

/-- So does the search for both markers, behind what comes before the opening one. -/
theorem Delimited.data_feed_start (opening : Option Bytes) (closing : Bytes)
    (caseSensitive : Bool) (chunk : Bytes) (origin : Option String) :
    ((Delimited.start opening closing caseSensitive).feed chunk origin).1.data <:+: chunk ∧
      ((Delimited.start opening closing caseSensitive).feed chunk origin).1.origin = origin := by
  cases opening with
  -- Without an opening marker the frame begins with the chunk; with one, somewhere in it
  | none => exact ⟨(data_collect_isPrefix _ _ _ chunk _).isInfix, rfl⟩
  | some opening =>
    refine ⟨?_, rfl⟩
    show Delimited.data { start (some opening) closing caseSensitive with
      phase := ((start (some opening) closing caseSensitive).advance chunk).1, origin } <:+: chunk
    unfold advance
    dsimp only [start, List.nil_append]
    split
    · exact (data_collect_isPrefix _ _ _ chunk _).isInfix.trans (List.drop_suffix _ chunk).isInfix
    · exact (List.drop_suffix _ chunk).isInfix

/-- A fresh framer has no data. -/
theorem Standard.IsFresh.frame_data {f : Standard} (h : f.IsFresh) :
    (Framer.frame f).data = [] := by
  cases h with
  | singleChunk | fixedLength | noData | untilClose => rfl
  | delimited opening closing caseSensitive => cases opening <;> rfl

/-- A fresh framer that was fed one chunk has a part of it, if anything, and its origin. -/
theorem Standard.IsFresh.frame_feed {f : Standard} (h : f.IsFresh) (chunk : Bytes)
    (origin : Option String) :
    (Framer.frame (Framer.feed f chunk origin).1).data <:+: chunk ∧
      ((Framer.frame (Framer.feed f chunk origin).1).data ≠ [] →
        (Framer.frame (Framer.feed f chunk origin).1).origin = origin) := by
  cases h with
  | singleChunk => exact ⟨List.infix_refl chunk, fun _ => rfl⟩
  -- The frame is the front of the chunk, and empty if it is to be empty
  | fixedLength n =>
    show ((FixedLength.start n).feed chunk origin).1.data <:+: chunk ∧
      (((FixedLength.start n).feed chunk origin).1.data ≠ [] →
        ((FixedLength.start n).feed chunk origin).1.origin = origin)
    unfold FixedLength.feed
    split
    · exact ⟨List.nil_infix, fun hne => absurd rfl hne⟩
    · exact ⟨(List.take_prefix _ chunk).isInfix, fun _ => rfl⟩
  | delimited opening closing caseSensitive =>
    obtain ⟨hdata, horigin⟩ := Delimited.data_feed_start opening closing caseSensitive chunk origin
    exact ⟨hdata, fun _ => horigin⟩
  | noData => exact ⟨List.nil_infix, fun hne => absurd rfl hne⟩
  | untilClose => exact ⟨List.infix_refl chunk, fun _ => rfl⟩

end FrameSocket.Framer

namespace FrameSocket.Exchange

/-- The datagrams that calls brought, with their senders. -/
def datagrams (calls : List Exchange) : List (Bytes × Option String) :=
  calls.filterMap datagram?

/-- The datagrams of calls that are made one after the other. -/
theorem datagrams_append (calls more : List Exchange) :
    datagrams (calls ++ more) = datagrams calls ++ datagrams more :=
  List.filterMap_append

end FrameSocket.Exchange

namespace FrameSocket.Client

/-! ## Where the bytes come from -/

/-- The bytes are a part of one of the datagrams, and count for its sender, or for `peer`
    where that is not known. -/
def IsPart (datagrams : List (Bytes × Option String)) (peer : Option String) (data : Bytes)
    (origin : Option String) : Prop :=
  ∃ d ∈ datagrams, data <:+: d.1 ∧ origin = d.2.or peer

namespace IsPart

variable {datagrams more : List (Bytes × Option String)} {peer origin : Option String}
  {data : Bytes}

/-- What `IsPart` of datagrams stays so when more come. -/
theorem append (h : IsPart datagrams peer data origin) :
    IsPart (datagrams ++ more) peer data origin := by
  obtain ⟨d, hd, hpart⟩ := h
  exact ⟨d, List.mem_append_left more hd, hpart⟩

/-- A piece of what `IsPart` of datagrams is, too. -/
theorem of_isInfix (h : IsPart datagrams peer data origin) {part : Bytes} (hpart : part <:+: data) :
    IsPart datagrams peer part origin := by
  obtain ⟨d, hd, hdata, horigin⟩ := h
  exact ⟨d, hd, hpart.trans hdata, horigin⟩

/-- The last datagram is one of them. -/
theorem last (d : Bytes × Option String) : IsPart (datagrams ++ [d]) peer d.1 (d.2.or peer) :=
  ⟨d, List.mem_append_right _ List.mem_cons_self, List.infix_refl _, rfl⟩

end IsPart

/-- What a client has left over on the regular channel is a part of one datagram. -/
def LeftFrom {σ : Type} (datagrams : List (Bytes × Option String)) (c : Client σ) : Prop :=
  ∀ left, c.leftovers.get .regular = some left → IsPart datagrams c.remote left.data left.origin

/-- From `c` to `c'` nothing was fed: the leftovers are the same, and so is the peer. -/
structure Unfed {σ : Type} (c c' : Client σ) : Prop where
  leftovers : c'.leftovers = c.leftovers
  remote : c'.remote = c.remote

namespace Unfed

section Clients

variable {σ : Type} {c c' c'' : Client σ}

/-- Doing nothing is `Unfed`. -/
theorem refl (c : Client σ) : Unfed c c := ⟨rfl, rfl⟩

/-- `Unfed` steps can be taken one after the other. -/
theorem trans (h : Unfed c c') (h' : Unfed c' c'') : Unfed c c'' :=
  ⟨h'.leftovers.trans h.leftovers, h'.remote.trans h.remote⟩

/-- What happens to the socket alone is `Unfed`. -/
theorem onSocket (c : Client σ) (s : σ) : Unfed c { c with socket := s } := ⟨rfl, rfl⟩

/-- `Booked` steps are `Unfed`. -/
theorem of_booked (h : Booked c c') : Unfed c c' := ⟨h.leftovers, h.remote⟩

/-- `Unfed` steps keep what is `LeftFrom` datagrams. -/
theorem leftFrom (h : Unfed c c') {datagrams : List (Bytes × Option String)}
    (hc : LeftFrom datagrams c) : LeftFrom datagrams c' := by
  unfold LeftFrom
  rw [h.leftovers, h.remote]
  exact hc

variable [Endpoint σ]

/-- `receiveError` is `Unfed`. -/
theorem receiveError (c : Client σ) (e : IoError) : Unfed c (c.receiveError e).2 := by
  unfold Client.receiveError
  split <;> exact ⟨rfl, rfl⟩

/-- `sendError` is `Unfed`. -/
theorem sendError (c : Client σ) (e : IoError) : Unfed c (c.sendError e).2 := by
  unfold Client.sendError
  split <;> exact ⟨rfl, rfl⟩

/-- Everything a write does is `Unfed`. -/
theorem keptByWriting : KeptByWriting (Unfed (σ := σ)) where
  trans := trans
  books _ _ _ _ := ⟨rfl, rfl⟩
  send _ := ⟨rfl, rfl⟩
  failed _ := (onSocket _ _).trans (sendError _ _)

end Clients

end Unfed

/-! ## Feeding -/

section Feeding

variable {σ φ : Type} [Framer φ] {c c' : Client σ} {f f' : φ}

/-- An empty slot keeps what is handed back, unless that is nothing. -/
theorem leftovers_get_keep {ch : Channel} (hnone : c.leftovers.get ch = none) (rest : Bytes)
    (origin : Option String) :
    (c.keep ch rest origin).leftovers.get ch =
      if rest.isEmpty then none else some ⟨rest, origin⟩ := by
  unfold keep
  split
  · exact hnone
  · show (c.leftovers.store ch ⟨rest, origin⟩).get ch = _
    rw [Leftovers.store, hnone]
    exact Leftovers.get_set_self _ _ _

/-- The slot of the other channel keeps what it has. -/
theorem leftovers_get_keep_of_ne {ch ch' : Channel} (h : ch' ≠ ch) (rest : Bytes)
    (origin : Option String) :
    (c.keep ch rest origin).leftovers.get ch' = c.leftovers.get ch' := by
  unfold keep
  split
  · rfl
  · exact Leftovers.get_set_of_ne _ _ h

/-- `keep` leaves the name of the other end as it is. -/
theorem remote_keep (c : Client σ) (ch : Channel) (rest : Bytes) (origin : Option String) :
    (c.keep ch rest origin).remote = c.remote := by
  unfold keep
  split <;> rfl

/-- What is kept of a part is a part. -/
theorem leftFrom_keep {datagrams : List (Bytes × Option String)} {data rest : Bytes}
    {origin : Option String} (hnone : c.leftovers.get .regular = none)
    (hdata : IsPart datagrams c.remote data origin) (hrest : rest <:+ data) :
    LeftFrom datagrams (c.keep .regular rest origin) := by
  intro left hleft
  rw [leftovers_get_keep hnone] at hleft
  rw [remote_keep]
  split at hleft
  · exact nomatch hleft
  · cases hleft
    exact hdata.of_isInfix hrest.isInfix

/-- Where nothing is left over, nothing is fed. -/
theorem replay_of_none {ch : Channel} (hnone : c.leftovers.get ch = none) (f : φ) :
    c.replay f ch = (c, f) := by
  unfold replay
  split
  · rfl
  · rename_i left leftovers htake
    have hleft : c.leftovers.get ch = some left := congrArg Prod.fst htake
    exact nomatch hnone.symm.trans hleft

/-- What is left over is fed as one chunk. -/
theorem framer_replay_of_some {ch : Channel} {left : Leftover}
    (hleft : c.leftovers.get ch = some left) (f : φ) :
    (c.replay f ch).2 = (Framer.feed f left.data left.origin).1 := by
  unfold replay
  split
  · rename_i leftovers htake
    have hnone : c.leftovers.get ch = none := congrArg Prod.fst htake
    exact nomatch hnone.symm.trans hleft
  · -- What is taken out of the slot is the leftover that stood there
    rename_i left' leftovers htake
    have hleft' : c.leftovers.get ch = some left' := congrArg Prod.fst htake
    cases hleft.symm.trans hleft'
    rfl

/-- What is handed back of the leftover still comes from where the leftover came from. -/
theorem leftFrom_replay [LawfulFramer φ] {datagrams : List (Bytes × Option String)}
    (h : LeftFrom datagrams c) (f : φ) :
    (c.replay f .regular).1.remote = c.remote ∧ LeftFrom datagrams (c.replay f .regular).1 := by
  unfold replay
  split
  · exact ⟨rfl, h⟩
  · rename_i left leftovers htake
    have hleft : c.leftovers.get .regular = some left := congrArg Prod.fst htake
    have hset : c.leftovers.set .regular none = leftovers := congrArg Prod.snd htake
    -- The slot is empty again when something is handed back
    have hnone : leftovers.get .regular = none := by rw [← hset, Leftovers.get_set_self]
    refine ⟨remote_keep _ .regular _ _, ?_⟩
    exact leftFrom_keep (c := { c with leftovers }) hnone (h left hleft)
      (LawfulFramer.feed_suffix f left.data left.origin)

end Feeding

/-! ## Reading -/

section Reading

variable {σ φ : Type} [Endpoint σ] [Framer φ]

/-- The datagrams that the calls on record brought. -/
def datagrams (c : Client (Traced σ)) : List (Bytes × Option String) :=
  Exchange.datagrams c.socket.exchanges

/-- What the receipt of a datagram for `f` comes to, from `c` on. -/
inductive Takes (c : Client (Traced σ)) (f : φ) :
    Except NetworkError (Incoming (Traced σ)) → Client (Traced σ) → Prop
  /-- None came. -/
  | nothing {answer : Except NetworkError (Incoming (Traced σ))} {c' : Client (Traced σ)}
      (hunfed : Unfed c c') (hcame : c'.datagrams = c.datagrams)
      (hanswer : ∀ frame, answer ≠ .ok (.complete frame)) : Takes c f answer c'
  /-- One came, and the framer was fed it. -/
  | one {answer : Except NetworkError (Incoming (Traced σ))} {c₀ c₁ c' : Client (Traced σ)}
      {f₁ : φ} {d : Bytes × Option String} (hunfed : Unfed c c₀)
      (hfeed : c₀.feed f .regular d.1 d.2 = (c₁, f₁)) (hunfed' : Unfed c₁ c')
      (hcame : c'.datagrams = c.datagrams ++ [d])
      (hanswer : ∀ frame, answer = .ok (.complete frame) → frame = Framer.frame f₁) :
      Takes c f answer c'

variable {c c' c'' : Client (Traced σ)} {f : φ}
  {answer : Except NetworkError (Incoming (Traced σ))}

/-- A `recvFrom` that works adds its datagram to those on record. -/
theorem datagrams_recvFrom_ok {n : Nat} {d : Bytes × Option String} {s : Traced σ}
    (h : Endpoint.recvFrom c.socket n = (.ok d, s)) :
    { c with socket := s }.datagrams = c.datagrams ++ [d] := by
  show Exchange.datagrams s.exchanges = _
  rw [Traced.exchanges_recvFrom h]
  exact Exchange.datagrams_append _ _

/-- Feeding the datagram that came makes no further call. -/
theorem datagrams_of_fed {c₁ c₂ : Client (Traced σ)} {f₁ : φ} {data : Bytes}
    {origin : Option String} {n : Nat} {s : Traced σ} {now : Duration}
    {tracked : Except NetworkError Unit}
    (hrecv : Endpoint.recvFrom c.socket n = (.ok (data, origin), s))
    (hfeed : { c with socket := s }.feed f .regular data origin = (c₁, f₁))
    (htrack : c₁.trackReceive now data.length = (tracked, c₂)) :
    c₂.datagrams = c.datagrams ++ [(data, origin)] := by
  have hsocket : c₂.socket = s := socket_of_fed hfeed htrack
  rw [datagrams, hsocket]
  exact datagrams_recvFrom_ok hrecv

/-- One that fails adds none. -/
theorem datagrams_recvFrom_error {n : Nat} {e : IoError} {s : Traced σ}
    (h : Endpoint.recvFrom c.socket n = (.error e, s)) :
    { c with socket := s }.datagrams = c.datagrams := by
  show Exchange.datagrams s.exchanges = _
  rw [Traced.exchanges_recvFrom h]
  exact (Exchange.datagrams_append _ _).trans (List.append_nil _)

omit [Endpoint σ] in
/-- What nothing was fed before, nothing is fed between. -/
theorem Takes.of_unfed (hunfed : Unfed c c') (hcame : c'.datagrams = c.datagrams)
    (h : Takes c' f answer c'') : Takes c f answer c'' := by
  cases h with
  | nothing hunfed' hcame' hanswer =>
    exact .nothing (hunfed.trans hunfed') (hcame'.trans hcame) hanswer
  | one hunfed₀ hfeed hunfed' hcame' hanswer =>
    exact .one (hunfed.trans hunfed₀) hfeed hunfed' (by rw [hcame', hcame]) hanswer

/-- A read receives one datagram at most. -/
theorem takes_receiveDatagram (c : Client (Traced σ)) (now : Duration) (f : φ) :
    Takes c f (c.receiveDatagram now f).1.1 (c.receiveDatagram now f).1.2 := by
  fun_induction Client.receiveDatagram c now f with
  | case1 c data origin s hrecv c₁ f₁ hfeed e c₂ htrack =>
    -- The datagram came too slowly
    exact .one (.onSocket c s) hfeed (.of_booked (.trackReceive htrack))
      (datagrams_of_fed hrecv hfeed htrack) (by simp)
  | case2 c data origin s hrecv c₁ f₁ hfeed c₂ htrack hdone =>
    -- It completes the frame
    have hbooked := (Booked.trackReceive htrack).trans (.finishRead c₂)
    have hcame := datagrams_of_fed hrecv hfeed htrack
    refine .one (.onSocket c s) hfeed (.of_booked hbooked) hcame fun frame h => ?_
    cases h
    rfl
  | case3 c data origin s hrecv c₁ f₁ hfeed c₂ htrack hdone =>
    -- It ends before the frame does
    have hbooked := (Booked.trackReceive htrack).trans (.finishRead c₂)
    have hcame := datagrams_of_fed hrecv hfeed htrack
    exact .one (.onSocket c s) hfeed (.of_booked hbooked) hcame (by simp [incomplete])
  | case4 c e s hrecv c' hblocked =>
    exact .nothing (.onSocket c s) (datagrams_recvFrom_error hrecv) (by simp [unfinished])
  | case5 c e s hrecv c' hblocked hi ih =>
    -- Only here the loop turns again, and nothing has come yet
    exact ih.of_unfed (.onSocket c s) (datagrams_recvFrom_error hrecv)
  | case6 c e s hrecv c' hblocked hi =>
    have hcame : (c'.receiveError e).2.datagrams = c.datagrams := by
      rw [datagrams, socket_receiveError]
      exact datagrams_recvFrom_error hrecv
    exact .nothing ((Unfed.onSocket c s).trans (.receiveError c' e)) hcame (by simp [failed])

omit [Endpoint σ] in
/-- What is left over of the datagram that came is a part of it. -/
theorem Takes.leftFrom [LawfulFramer φ] (h : Takes c f answer c')
    (hnone : c.leftovers.get .regular = none) (earlier : List (Bytes × Option String)) :
    c'.remote = c.remote ∧ LeftFrom (earlier ++ c'.datagrams) c' := by
  cases h with
  | nothing hunfed hcame hanswer =>
    refine ⟨hunfed.remote, fun left hleft => ?_⟩
    rw [hunfed.leftovers, hnone] at hleft
    exact nomatch hleft
  | @one c₀ c₁ _ f₁ d hunfed hfeed hunfed' hcame hanswer =>
    -- The slot was empty: what is handed back of the datagram is all that is left over.
    have hc₁ : (c₀.feed f .regular d.1 d.2).1 = c₁ := congrArg Prod.fst hfeed
    have hnone₀ : c₀.leftovers.get .regular = none := by rw [hunfed.leftovers, hnone]
    have hremote : c₁.remote = c₀.remote := by
      rw [← hc₁]
      exact remote_keep c₀ .regular _ _
    refine ⟨hunfed'.remote.trans (hremote.trans hunfed.remote), hunfed'.leftFrom ?_⟩
    rw [hcame, ← List.append_assoc, ← hc₁]
    exact leftFrom_keep hnone₀ (.last d) (LawfulFramer.feed_suffix f d.1 (d.2.or c₀.remote))

omit [Endpoint σ] in
/-- A frame is completed by the datagram that came. -/
theorem Takes.exists_datagram {frame : Frame} (h : Takes c f (.ok (.complete frame)) c') :
    ∃ d, c'.datagrams = c.datagrams ++ [d] ∧
      frame = Framer.frame (Framer.feed f d.1 (d.2.or c.remote)).1 := by
  cases h with
  | nothing hunfed hcame hanswer => exact absurd rfl (hanswer frame)
  | @one c₀ c₁ _ f₁ d hunfed hfeed hunfed' hcame hanswer =>
    refine ⟨d, hcame, ?_⟩
    have hf₁ : (c₀.feed f .regular d.1 d.2).2 = f₁ := congrArg Prod.snd hfeed
    rw [hanswer frame rfl, ← hf₁, ← hunfed.remote]
    rfl

/-- What holds of a read from `c` to `c'`, when `earlier` came before. -/
structure Attributed (earlier : List (Bytes × Option String)) (c : Client (Traced σ))
    (answer : Except NetworkError (Incoming (Traced σ))) (c' : Client (Traced σ)) : Prop where
  remote : c'.remote = c.remote
  leftFrom : LeftFrom (earlier ++ c'.datagrams) c'
  /-- A read that is not given both what was left over and a datagram cuts its frame out of
      one datagram. -/
  frame : c.leftovers.get .regular = none ∨ c'.datagrams = c.datagrams →
    ∀ frame, answer = .ok (.complete frame) → frame.data ≠ [] →
      IsPart (earlier ++ c'.datagrams) c.remote frame.data frame.origin

section Fresh

variable {f : Framer.Standard} {earlier : List (Bytes × Option String)}

omit [Endpoint σ] in
/-- A read that finds nothing left over cuts its frame out of the datagram that comes. -/
theorem Takes.attributed (h : Takes c f answer c') (hfresh : f.IsFresh)
    (hnone : c.leftovers.get .regular = none) : Attributed earlier c answer c' := by
  obtain ⟨hremote, hleft⟩ := h.leftFrom hnone earlier
  refine ⟨hremote, hleft, fun _ frame hframe hne => ?_⟩
  subst hframe
  obtain ⟨d, hcame, rfl⟩ := h.exists_datagram
  obtain ⟨hpart, horigin⟩ := hfresh.frame_feed d.1 (d.2.or c.remote)
  rw [hcame, ← List.append_assoc, horigin hne]
  exact (IsPart.last d).of_isInfix hpart

/-- A read that finds something left over cuts its frame out of that, or receives. -/
theorem attributed_replay (hfresh : f.IsFresh) (hleft : LeftFrom (earlier ++ c.datagrams) c)
    {left : Leftover} (hslot : c.leftovers.get .regular = some left) (now : Duration) :
    let r := c.replay f .regular
    let read := if Framer.isComplete r.2 then (r.1.complete r.2, r.2)
      else r.1.receiveDatagram now r.2
    Attributed earlier c read.1.1 read.1.2 := by
  intro r read
  obtain ⟨hremote, hreplayed⟩ := leftFrom_replay hleft f
  have hcame : r.1.datagrams = c.datagrams := by rw [datagrams, socket_replay, datagrams]
  by_cases hdone : Framer.isComplete r.2 = true
  · have hread : read = (r.1.complete r.2, r.2) := if_pos hdone
    rw [hread]
    refine ⟨hremote, ?_, fun _ frame hframe hne => ?_⟩
    · show LeftFrom (earlier ++ r.1.datagrams) r.1
      rw [hcame]
      exact hreplayed
    · show IsPart (earlier ++ r.1.datagrams) _ _ _
      cases hframe
      rw [framer_replay_of_some hslot] at hne ⊢
      obtain ⟨hpart, horigin⟩ := hfresh.frame_feed left.data left.origin
      rw [hcame, horigin hne]
      exact (hleft left hslot).of_isInfix hpart
  · have hread : read = r.1.receiveDatagram now r.2 := if_neg hdone
    rw [hread]
    -- A greedy framer that is not complete has used up what was left over.
    have hnone : r.1.leftovers.get .regular = none :=
      leftovers_replay_of_isGreedy hfresh.isGreedy (Bool.eq_false_iff.mpr hdone)
    have htakes := takes_receiveDatagram r.1 now r.2
    obtain ⟨hremote', hafter⟩ := htakes.leftFrom hnone earlier
    refine ⟨hremote'.trans hremote, hafter, fun halone frame hframe _ => ?_⟩
    rw [hframe] at htakes
    -- The frame was completed by a datagram, and not by the leftover alone.
    obtain ⟨d, hmore, _⟩ := htakes.exists_datagram
    rcases halone with hempty | hquiet
    · exact nomatch hslot.symm.trans hempty
    · rw [hquiet, hcame] at hmore
      exact absurd (List.self_eq_append_right.mp hmore) (List.cons_ne_nil d [])

/-- What a read with a fresh framer completes, and what it leaves over, is `Attributed` to the
    datagrams that have come. -/
theorem attributed_readDatagram (hfresh : f.IsFresh)
    (hleft : LeftFrom (earlier ++ c.datagrams) c) (now : Clock) (ch : Channel) :
    Attributed earlier c (c.readDatagram now f ch).1.1 (c.readDatagram now f ch).1.2 := by
  unfold readDatagram
  split
  · exact ⟨rfl, hleft, fun _ _ h => nomatch h⟩
  · have hanchored :
        LeftFrom (earlier ++ (c.anchorReceive now.first).datagrams) (c.anchorReceive now.first) :=
      (Unfed.of_booked (.anchorReceive c now.first)).leftFrom hleft
    dsimp only
    split
    · -- The frame is complete without any data.
      refine ⟨rfl, hanchored, fun _ frame h hne => ?_⟩
      cases h
      exact absurd hfresh.frame_data hne
    · rename_i hopen
      -- Either the frame begins with what was left over, or with a datagram
      cases hslot : (c.anchorReceive now.first).leftovers.get .regular with
      | none =>
        rw [replay_of_none hslot, if_neg hopen]
        obtain ⟨hremote, hafter, hframe⟩ :=
          (takes_receiveDatagram (c.anchorReceive now.first) now.later.first f).attributed hfresh
            hslot
        exact ⟨hremote, hafter, hframe⟩
      | some left =>
        obtain ⟨hremote, hafter, hframe⟩ := attributed_replay hfresh hanchored hslot now.later.first
        exact ⟨hremote, hafter, hframe⟩

end Fresh

end Reading

/-! ## Runs -/

section Runs

variable {σ : Type} [Endpoint σ]

/-- The framer of the step, if it is a read, is fresh. -/
def Step.IsFresh : Step σ Framer.Standard → Prop
  | .read _ f _ => f.IsFresh
  | _ => True

variable {c : Client σ} {earlier : List (Bytes × Option String)}

/-- A read of a bare client is attributed as that of the traced one. -/
theorem attributed_traced {f : Framer.Standard} (hfresh : f.IsFresh) (h : LeftFrom earlier c)
    (now : Clock) (ch : Channel) :
    Attributed earlier c.traced (c.traced.readDatagram now f ch).1.1
      (c.traced.readDatagram now f ch).1.2 := by
  apply attributed_readDatagram hfresh
  -- A traced client starts with no datagram on record.
  show LeftFrom (earlier ++ []) c
  rw [List.append_nil]
  exact h

/-- Each step of a run keeps what is left over a part of one datagram, and the peer as it
    is. -/
theorem LeftFrom.after (h : LeftFrom earlier c) (step : Step σ Framer.Standard)
    (hfresh : step.IsFresh) :
    (c.after .datagram step).remote = c.remote ∧
      LeftFrom (earlier ++ Exchange.datagrams (c.exchangesOf .datagram step))
        (c.after .datagram step) := by
  -- A step that feeds nothing leaves the slot as it is, whatever came before.
  have hmore : ∀ {c' : Client σ}, Unfed c c' → c'.remote = c.remote ∧
      LeftFrom (earlier ++ Exchange.datagrams (c.exchangesOf .datagram step)) c' :=
    fun hunfed => ⟨hunfed.remote, fun left hleft => (hunfed.leftFrom h left hleft).append⟩
  cases step with
  | world change => exact hmore ⟨rfl, rfl⟩
  | read now f ch =>
    have hread := attributed_traced hfresh h now ch
    show (c.read .datagram now f ch).1.2.remote = _ ∧ LeftFrom _ (c.read .datagram now f ch).1.2
    rw [read_traced]
    exact ⟨hread.remote, hread.leftFrom⟩
  | write now data ch => exact hmore (Unfed.keptByWriting.writeDatagram c now data ch)
  | resetTransfer =>
    exact hmore (.of_booked ((Booked.finishRead c).trans (.finishSend c.finishRead)))

/-- A run of reads with fresh framers keeps what is `LeftFrom` its datagrams. -/
theorem LeftFrom.run (h : LeftFrom earlier c) (steps : List (Step σ Framer.Standard))
    (hfresh : ∀ step ∈ steps, step.IsFresh) :
    (c.run .datagram steps).remote = c.remote ∧
      LeftFrom (earlier ++ Exchange.datagrams (c.exchangesOfRun .datagram steps))
        (c.run .datagram steps) := by
  induction steps generalizing c earlier with
  | nil =>
    refine ⟨rfl, ?_⟩
    show LeftFrom (earlier ++ []) c
    rw [List.append_nil]
    exact h
  | cons step steps ih =>
    obtain ⟨hremote, hafter⟩ := h.after step (hfresh step List.mem_cons_self)
    obtain ⟨hremote', hrun⟩ := ih hafter fun later hlater =>
      hfresh later (List.mem_cons_of_mem _ hlater)
    refine ⟨hremote'.trans hremote, ?_⟩
    -- The datagrams of the first step are among the earlier ones for the others.
    rw [List.append_assoc, ← Exchange.datagrams_append] at hrun
    exact hrun

/-- Nothing is left over when a client is made. -/
theorem leftovers_make (kind : ClientKind) (socket : σ) (config : Config) (made : Duration) :
    (make kind socket config made).leftovers = .empty := by
  cases kind with
  | stream => rfl
  | datagram =>
    show (newDatagram socket config made).leftovers = _
    unfold newDatagram
    dsimp only
    split <;> rfl

/-- A client that was just made has nothing left over. -/
theorem leftFrom_newDatagram (socket : σ) (config : Config) (made : Duration) :
    LeftFrom [] (newDatagram socket config made) := by
  have hempty : (newDatagram socket config made).leftovers = .empty :=
    leftovers_make .datagram socket config made
  intro left hleft
  rw [hempty] at hleft
  exact nomatch hleft

omit [Endpoint σ] in
/-- A frame that was completed on another socket is the same. -/
theorem complete_of_map {τ : Type} {g : τ → σ} {answer : Except NetworkError (Incoming τ)}
    {frame : Frame} (h : answer.map (Incoming.map g) = .ok (.complete frame)) :
    answer = .ok (.complete frame) := by
  match answer, h with
  | .ok (.complete _), rfl => rfl

/-- After any run of a datagram client whose framers are fresh, a frame with data is a part
    of one of the datagrams that came, and counts for its sender, or for the peer where the
    sender is not known: if the read that completes the frame finds nothing left over, or
    receives no datagram. -/
theorem isPart_of_read (socket : σ) (config : Config) (made : Duration)
    (steps : List (Step σ Framer.Standard)) (hsteps : ∀ step ∈ steps, step.IsFresh)
    (now : Clock) (f : Framer.Standard) (hfresh : f.IsFresh) (ch : Channel) (frame : Frame) :
    let start := make .datagram socket config made
    let c := start.run .datagram steps
    let calls := c.exchangesOf .datagram (.read now f ch)
    (c.read .datagram now f ch).1.1 = .ok (.complete frame) → frame.data ≠ [] →
      c.leftovers.get .regular = none ∨ Exchange.datagrams calls = [] →
        ∃ d ∈ Exchange.datagrams (start.exchangesOfRun .datagram steps ++ calls),
          frame.data <:+: d.1 ∧ frame.origin = d.2.or start.remote := by
  intro start c calls hread hne halone
  obtain ⟨hremote, hleft⟩ := (leftFrom_newDatagram socket config made).run steps hsteps
  have hattributed := attributed_traced hfresh hleft now ch
  -- The calls are on record only for the traced client, which reads the same
  rw [read_traced] at hread
  have hframe := hattributed.frame halone frame (complete_of_map hread) hne
  have hpeer : c.remote = start.remote := hremote
  rw [Exchange.datagrams_append, ← hpeer]
  exact hframe

end Runs

/-- The second frame is what the first one left over of the only datagram. -/
theorem isPart_of_read_scripted :
    let socket : ScriptedSocket :=
      { id := ⟨1⟩, transport := .udp, peer := .ok (some "10.0.0.2:4000"),
        rx := [.data [0x61, 0x62, 0x63, 0x64] (some "a:1")] }
    let f : Framer.Standard := .fixedLength (.start 2)
    let steps : List (Step ScriptedSocket Framer.Standard) := [.read .zero f .regular]
    let start := make .datagram socket {} .zero
    let c := start.run .datagram steps
    let calls := c.exchangesOf .datagram (.read .zero f .regular)
    let frame : Frame := ⟨[0x63, 0x64], some "a:1"⟩
    (∀ step ∈ steps, step.IsFresh) ∧ f.IsFresh ∧
      (c.read .datagram .zero f .regular).1.1 = .ok (.complete frame) ∧
      Exchange.datagrams calls = [] ∧
      ∃ d ∈ Exchange.datagrams (start.exchangesOfRun .datagram steps ++ calls),
        frame.data <:+: d.1 ∧ frame.origin = d.2.or start.remote := by
  intro socket f steps start c calls frame
  have hfresh : f.IsFresh := .fixedLength 2
  have hsteps : ∀ step ∈ steps, step.IsFresh := by
    intro step hstep
    rw [List.mem_singleton.mp hstep]
    exact hfresh
  -- The first read takes two bytes of the datagram, and leaves the other two over
  have hfirst : start.readDatagram .zero f .regular = _ :=
    readDatagram_of_complete rfl rfl rfl rfl rfl rfl rfl
  have hc : c = (start.readDatagram .zero f .regular).1.2 := rfl
  have hread : (c.read .datagram .zero f .regular).1.1 = .ok (.complete frame) := by
    rw [hc, hfirst]
    rfl
  have hquiet : Exchange.datagrams calls = [] := by
    show Exchange.datagrams (c.exchangesOf .datagram (.read .zero f .regular)) = []
    rw [hc, hfirst]
    rfl
  exact ⟨hsteps, hfresh, hread, hquiet, isPart_of_read socket {} .zero steps hsteps .zero f hfresh
    .regular frame hread (List.cons_ne_nil _ _) (.inr hquiet)⟩

/-- Two bytes are left over from one sender's datagram.  The next frame joins them with two
    bytes of another sender's, and counts for the first one. -/
theorem read_joined :
    let socket : ScriptedSocket :=
      { id := ⟨1⟩, transport := .udp, peer := .ok (some "10.0.0.2:4000"),
        rx := [.data [0x61, 0x62, 0x63, 0x64] (some "a:1"),
          .data [0x65, 0x66, 0x67, 0x68] (some "b:2")] }
    let first : Framer.Standard := .fixedLength (.start 2)
    let second : Framer.Standard := .fixedLength (.start 4)
    let steps : List (Step ScriptedSocket Framer.Standard) := [.read .zero first .regular]
    let start := make .datagram socket {} .zero
    let c := start.run .datagram steps
    let calls := c.exchangesOf .datagram (.read .zero second .regular)
    let came := Exchange.datagrams (start.exchangesOfRun .datagram steps ++ calls)
    let frame : Frame := ⟨[0x63, 0x64, 0x65, 0x66], some "a:1"⟩
    (c.read .datagram .zero second .regular).1.1 = .ok (.complete frame) ∧
      came = [([0x61, 0x62, 0x63, 0x64], some "a:1"), ([0x65, 0x66, 0x67, 0x68], some "b:2")] ∧
      ∀ d ∈ came, ¬ frame.data <:+: d.1 := by
  intro socket first second steps start c calls came frame
  have hfirst : start.traced.readDatagram .zero first .regular = _ :=
    readDatagram_of_complete rfl rfl rfl rfl rfl rfl rfl
  -- What the first frame leaves over.
  let ready : Client ScriptedSocket :=
    { start with
      socket := (Endpoint.recvFrom start.socket start.bufferSize).2
      leftovers := ⟨some ⟨[0x63, 0x64], some "a:1"⟩, none⟩ }
  have hc : c = ready := by
    show (start.read .datagram .zero first .regular).1.2 = ready
    rw [read_traced]
    show (viewRead Traced.socket id (start.traced.readDatagram .zero first .regular)).1.2 = ready
    rw [hfirst]
    rfl
  have hsecond : ready.traced.readDatagram .zero second .regular = _ :=
    readDatagram_of_complete rfl rfl rfl rfl rfl rfl rfl
  have hcame : came =
      [([0x61, 0x62, 0x63, 0x64], some "a:1"), ([0x65, 0x66, 0x67, 0x68], some "b:2")] := by
    have hcalls : calls =
        (ready.traced.readDatagram .zero second .regular).1.2.socket.exchanges := by
      rw [← hc]
      rfl
    have hrun : start.exchangesOfRun .datagram steps =
        (start.traced.readDatagram .zero first .regular).1.2.socket.exchanges ++ [] := rfl
    show Exchange.datagrams (start.exchangesOfRun .datagram steps ++ calls) = _
    rw [hcalls, hsecond, hrun, hfirst]
    rfl
  refine ⟨?_, hcame, ?_⟩
  · rw [read_traced, hc]
    show (viewRead Traced.socket id (ready.traced.readDatagram .zero second .regular)).1.1 = _
    rw [hsecond]
    rfl
  · rw [hcame]
    decide

end FrameSocket.Client
