import FrameSocket.Proofs.Conservation
import FrameSocket.Proofs.Exchanges
import FrameSocket.Proofs.Greedy
import FrameSocket.Socket.Scripted

/-!
# Leftovers come first

What was left over from the last frame is fed before anything new is received.  With
framers that take all until their frame is complete this keeps the bytes of a channel in
their order: a receiving call is made only when nothing is left over, and what framers
took so far is a beginning of what came.

`Asks` and `ReadAsks` name the clients that make the receiving calls of a read, one rule
for each way in which a loop goes on.  The record of a traced socket shows that there are
no others (`callsFrom_read`).

A framer that hands bytes back before its frame is complete breaks the order: the client
keeps them, receives, and feeds newer bytes before them.

## Key results

- `ReadAsks.leftovers_get`: a client that makes a receiving call has nothing left over
- `callsFrom_read`: each receiving call of a read is made by such a client
- `InOrder.after`: what each step of a run keeps of the order
- `replayed_runRecorded`: both, over any run
-/

namespace FrameSocket.Client

variable {σ φ : Type} [Endpoint σ] [Framer φ]

/-! ## The clients that make receiving calls -/

/-- In the receiving loop from `c` and `f`, the client `c'` makes a receiving call for
    `f'`. -/
inductive Asks (ch : Channel) :
    Clock → Client σ → φ → Bool → Client σ → φ → Prop
  | first {now : Clock} {c : Client σ} {f : φ} {retried : Bool} : Asks ch now c f retried c f
  | interrupted {now : Clock} {c c' : Client σ} {f f' : φ} {retried : Bool}
      {answer : Except IoError Bytes} {s : σ}
      (hrecv : Endpoint.recv c.socket ch c.bufferSize = (answer, s))
      (hof : Received.of ch answer = .interrupted)
      (hnext : Asks ch now { c with socket := s } f retried c' f') :
      Asks ch now c f retried c' f'
  | more {now : Clock} {c c₁ c₂ c' : Client σ} {f f₁ f' : φ} {retried : Bool}
      {answer : Except IoError Bytes} {s : σ} {bytes : Bytes}
      (hrecv : Endpoint.recv c.socket ch c.bufferSize = (answer, s))
      (hof : Received.of ch answer = .data bytes)
      (hfeed : { c with socket := s }.refillReads.feed f ch bytes none = (c₁, f₁))
      (htrack : c₁.trackReceive now.first bytes.length = (.ok (), c₂))
      (hopen : Framer.isComplete f₁ = false)
      (hnext : Asks ch now.later c₂ f₁ retried c' f') : Asks ch now c f retried c' f'
  | again {now : Clock} {c c' : Client σ} {f f' : φ} {answer : Except IoError Bytes}
      {s s' : σ} {peeked : Except IoError Nat}
      (hrecv : Endpoint.recv c.socket ch c.bufferSize = (answer, s))
      (hof : Received.of ch answer = .nothing) (hpeek : Endpoint.peek s ch = (peeked, s'))
      (hsaw : sawByte peeked = true)
      (hnext : Asks ch now { c with socket := s' } f true c' f') : Asks ch now c f false c' f'

/-- In the receipt of a datagram from `c` on, the client `c'` makes a receiving call. -/
inductive AsksDatagram : Client σ → Client σ → Prop
  | first {c : Client σ} : AsksDatagram c c
  | interrupted {c c' : Client σ} {e : IoError} {s : σ}
      (hrecv : Endpoint.recvFrom c.socket c.bufferSize = (.error e, s))
      (hinterrupted : e.isInterrupted = true) (hnext : AsksDatagram { c with socket := s } c') :
      AsksDatagram c c'

/-- In the read of `c` with `f`, the client `c'` makes a receiving call on the channel. -/
inductive ReadAsks (now : Clock) (ch : Channel) :
    ClientKind → Client σ → φ → Client σ → Prop
  | stream {c c₁ c₂ c' : Client σ} {f f₂ f' : φ}
      (hensured : c.ensureConnected now.first = (.ok true, c₁))
      (hreplay : (c₁.anchorReceive now.first).replay f ch = (c₂, f₂))
      (hopen : Framer.isComplete f₂ = false) (hasks : Asks ch now.later c₂ f₂ false c' f') :
      ReadAsks now ch .stream c f c'
  | datagram {c c₂ c' : Client σ} {f f₂ : φ} (hch : ch = .regular)
      (hreplay : (c.anchorReceive now.first).replay f ch = (c₂, f₂))
      (hopen : Framer.isComplete f₂ = false) (hasks : AsksDatagram c₂ c') :
      ReadAsks now ch .datagram c f c'

/-! ## Nothing is left over when they do -/

section Leftover

variable {c c' : Client σ} {f f' : φ} {ch : Channel} {now : Clock} {retried : Bool}

omit [Endpoint σ] in
/-- As long as a greedy framer is not complete, it leaves nothing over. -/
theorem leftovers_of_open {c₁ : Client σ} {f₁ : φ} {data : Bytes} {origin : Option String}
    (hgreedy : Framer.IsGreedy f) (hfeed : c.feed f ch data origin = (c₁, f₁))
    (hopen : Framer.isComplete f₁ = false) :
    c₁.leftovers = c.leftovers ∧ Framer.IsGreedy f₁ := by
  obtain rfl : _ = f₁ := congrArg Prod.snd hfeed
  obtain rfl : _ = c₁ := congrArg Prod.fst hfeed
  have hrest : (Framer.feed f data (origin.or c.remote)).2 = [] := hgreedy.rest_eq_nil hopen
  refine ⟨?_, hgreedy.feed _ _⟩
  show (c.keep ch (Framer.feed f data (origin.or c.remote)).2 _).leftovers = _
  rw [hrest]
  rfl

omit [Endpoint σ] in
/-- If the leftover does not complete the frame, nothing of it is left. -/
theorem leftovers_replay_of_isGreedy (hgreedy : Framer.IsGreedy f)
    (hopen : Framer.isComplete (c.replay f ch).2 = false) :
    (c.replay f ch).1.leftovers.get ch = none := by
  unfold replay at hopen ⊢
  split
  · rename_i heq
    exact congrArg Prod.fst heq
  · rename_i left leftovers htake
    rw [htake] at hopen
    have hset : c.leftovers.set ch none = leftovers := congrArg Prod.snd htake
    have hrest : (Framer.feed f left.data left.origin).2 = [] := hgreedy.rest_eq_nil hopen
    show ({ c with leftovers }.keep ch (Framer.feed f left.data left.origin).2
      left.origin).leftovers.get ch = none
    rw [hrest, ← hset]
    exact Leftovers.get_set_self _ _ _

omit [Endpoint σ] in
/-- `replay` leaves a framer greedy. -/
theorem isGreedy_replay (hgreedy : Framer.IsGreedy f) : Framer.IsGreedy (c.replay f ch).2 := by
  unfold replay
  split
  · exact hgreedy
  · exact hgreedy.feed _ _

omit [Endpoint σ] in
/-- A greedy framer that the leftover does not complete has used it up, and stays greedy. -/
theorem replay_of_isGreedy {c₂ : Client σ} {f₂ : φ} (hgreedy : Framer.IsGreedy f)
    (hreplay : c.replay f ch = (c₂, f₂)) (hopen : Framer.isComplete f₂ = false) :
    c₂.leftovers.get ch = none ∧ Framer.IsGreedy f₂ := by
  obtain rfl : _ = c₂ := congrArg Prod.fst hreplay
  obtain rfl : _ = f₂ := congrArg Prod.snd hreplay
  exact ⟨leftovers_replay_of_isGreedy hgreedy hopen, isGreedy_replay hgreedy⟩

/-- As long as a greedy framer asks for more, nothing is left over. -/
theorem Asks.leftovers_get (h : Asks ch now c f retried c' f') (hgreedy : Framer.IsGreedy f)
    (hnone : c.leftovers.get ch = none) : c'.leftovers.get ch = none := by
  induction h with
  | first => exact hnone
  | interrupted hrecv hof hnext ih => exact ih hgreedy hnone
  | @more now c c₁ c₂ c' f f₁ f' retried answer s bytes hrecv hof hfeed htrack hopen hnext ih =>
    obtain ⟨hleft, hgreedy₁⟩ := leftovers_of_open hgreedy hfeed hopen
    apply ih hgreedy₁
    rw [(Booked.trackReceive htrack).leftovers, hleft]
    exact hnone
  | again hrecv hof hpeek hsaw hnext ih => exact ih hgreedy hnone

/-- Nothing is left over before the first datagram. -/
theorem AsksDatagram.leftovers_eq (h : AsksDatagram c c') : c'.leftovers = c.leftovers := by
  induction h with
  | first => rfl
  | interrupted hrecv hinterrupted hnext ih => exact ih

/-- A client that makes a receiving call has nothing left over on its channel. -/
theorem ReadAsks.leftovers_get {kind : ClientKind} (h : ReadAsks now ch kind c f c')
    (hgreedy : Framer.IsGreedy f) : c'.leftovers.get ch = none := by
  cases h with
  | stream hensured hreplay hopen hasks =>
    obtain ⟨hnone, hgreedy₂⟩ := replay_of_isGreedy hgreedy hreplay hopen
    exact hasks.leftovers_get hgreedy₂ hnone
  | datagram hch hreplay hopen hasks =>
    rw [hasks.leftovers_eq]
    exact (replay_of_isGreedy hgreedy hreplay hopen).1

end Leftover

/-! ## There are no other receiving calls -/

/-- The receiving calls on record from `c` to `c'` were made on `ch`, by clients for which
    `asks` holds and which had the earlier calls on record. -/
def CallsFrom (ch : Channel) (asks : Client (Traced σ) → Prop) (c c' : Client (Traced σ)) :
    Prop :=
  ∃ calls, c'.socket.exchanges = c.socket.exchanges ++ calls ∧
    ∀ before x after, calls = before ++ x :: after → ∀ ch', x.receivesOn ch' = true →
      ch' = ch ∧ ∃ a, asks a ∧ a.socket.exchanges = c.socket.exchanges ++ before

namespace CallsFrom

variable {ch : Channel} {asks : Client (Traced σ) → Prop} {c c' c'' : Client (Traced σ)}

omit [Endpoint σ] in
/-- No receiving call is made. -/
theorem of_quiet {calls : List Exchange} (h : c'.socket.exchanges = c.socket.exchanges ++ calls)
    (hquiet : ∀ x ∈ calls, ∀ ch', x.receivesOn ch' = false) : CallsFrom ch asks c c' := by
  refine ⟨calls, h, fun before x after hsplit ch' hx => ?_⟩
  have hmem : x ∈ calls := by
    rw [hsplit]
    exact List.mem_append_right _ List.mem_cons_self
  exact absurd (hx.symm.trans (hquiet x hmem ch')) (by decide)

omit [Endpoint σ] in
/-- No call is made at all. -/
theorem of_socket (h : c'.socket = c.socket) : CallsFrom ch asks c c' := by
  have hcalls : c'.socket.exchanges = c.socket.exchanges ++ [] := by rw [h, List.append_nil]
  exact of_quiet hcalls fun _ hx => nomatch hx

omit [Endpoint σ] in
/-- Calls of two steps that follow each other. -/
theorem trans (h : CallsFrom ch asks c c') (h' : CallsFrom ch asks c' c'') :
    CallsFrom ch asks c c'' := by
  obtain ⟨calls, hcalls, hmade⟩ := h
  obtain ⟨calls', hcalls', hmade'⟩ := h'
  refine ⟨calls ++ calls', by rw [hcalls', hcalls, List.append_assoc], ?_⟩
  intro before x after hsplit ch' hx
  -- The call is one of the earlier or one of the later ones.
  rcases List.append_eq_append_iff.mp hsplit with ⟨more, hbefore, hmore⟩ | ⟨more, hcalls₁, hmore⟩
  · obtain ⟨hch, a, hasks, ha⟩ := hmade' more x after hmore ch' hx
    exact ⟨hch, a, hasks, by rw [ha, hcalls, hbefore, List.append_assoc]⟩
  · cases more with
    | nil =>
      obtain ⟨hch, a, hasks, ha⟩ := hmade' [] x after hmore.symm ch' hx
      rw [List.append_nil] at ha hcalls₁
      exact ⟨hch, a, hasks, by rw [ha, hcalls, hcalls₁]⟩
    | cons y more =>
      obtain ⟨rfl, _⟩ := List.cons.inj hmore
      exact hmade before x more hcalls₁ ch' hx

omit [Endpoint σ] in
/-- A receiving call that the client itself makes. -/
theorem of_call {s : Traced σ} {x : Exchange} (hasks : asks c)
    (h : s.exchanges = c.socket.exchanges ++ [x])
    (hch : ∀ ch', x.receivesOn ch' = true → ch' = ch) :
    CallsFrom ch asks c { c with socket := s } := by
  refine ⟨[x], h, fun before x' after hsplit ch' hx => ?_⟩
  cases before with
  | nil =>
    obtain ⟨rfl, _⟩ := List.cons.inj hsplit
    exact ⟨hch ch' hx, c, hasks, (List.append_nil _).symm⟩
  | cons y before =>
    have hnil := (List.cons.inj hsplit).2
    exact absurd hnil.symm (List.append_ne_nil_of_right_ne_nil before (List.cons_ne_nil x' after))

/-- A `recv` is made where it is asked for. -/
theorem recv {n : Nat} {answer : Except IoError Bytes} {s : Traced σ} (hasks : asks c)
    (h : Endpoint.recv c.socket ch n = (answer, s)) :
    CallsFrom ch asks c { c with socket := s } :=
  of_call hasks (Traced.exchanges_recv h) fun _ hx => (of_decide_eq_true hx).symm

/-- A `recvFrom` is made where it is asked for. -/
theorem recvFrom {n : Nat} {answer : Except IoError (Bytes × Option String)} {s : Traced σ}
    (hasks : asks c) (h : Endpoint.recvFrom c.socket n = (answer, s)) :
    CallsFrom .regular asks c { c with socket := s } :=
  of_call hasks (Traced.exchanges_recvFrom h) fun _ hx => of_decide_eq_true hx

/-- A `peek` is no receiving call. -/
theorem peek {ch' : Channel} {answer : Except IoError Nat} {s : Traced σ}
    (h : Endpoint.peek c.socket ch' = (answer, s)) :
    CallsFrom ch asks c { c with socket := s } := by
  apply of_quiet (Traced.exchanges_peek h)
  intro x hx ch''
  rw [List.mem_singleton.mp hx]
  rfl

omit [Endpoint σ] in
/-- The socket was only asked how its connection stands. -/
theorem asked {s : Traced σ} (h : c.socket.Asked s) :
    CallsFrom ch asks c { c with socket := s } := by
  obtain ⟨calls, hcalls, hasks⟩ := h
  apply of_quiet hcalls
  intro x hx ch'
  have hx' := hasks x hx
  cases x with
  | remoteAddress _ | takeError _ => rfl
  | recv _ _ _ | recvFrom _ _ | peek _ _ | send _ _ _ => exact nomatch hx'

/-- Looking for a peer makes no receiving call. -/
theorem ensured {answer : Except NetworkError Bool} (h : Ensures c answer c') :
    CallsFrom ch asks c c' := by
  cases h with
  | stands hconn => exact of_socket rfl
  | gone hconn hwas => exact of_socket rfl
  | gained hconn hwas hasked => exact asked hasked
  | absent hconn hwas hasked hanswer => exact asked hasked

/-- Bytes are received and fed. -/
theorem received {c₁ c₂ : Client (Traced σ)} {f f₁ : φ} {n : Nat} {now : Duration} {bytes : Bytes}
    {answer : Except IoError Bytes} {tracked : Except NetworkError Unit} {s : Traced σ}
    (hasks : asks c) (hrecv : Endpoint.recv c.socket ch n = (answer, s))
    (hfeed : { c with socket := s }.refillReads.feed f ch bytes none = (c₁, f₁))
    (htrack : c₁.trackReceive now bytes.length = (tracked, c₂)) : CallsFrom ch asks c c₂ := by
  have hsocket : c₂.socket = s := socket_of_fed hfeed htrack
  exact (recv hasks hrecv).trans (of_socket hsocket)

/-- The loop of a read makes its calls where the loop asks for them. -/
theorem receives {now : Clock} {f : φ} {any retried : Bool} {r : Reception (Traced σ) φ}
    (hr : Receives ch now c f any retried r)
    (hasks : ∀ a f', Asks ch now c f retried a f' → asks a) : CallsFrom ch asks c r.client := by
  induction hr with
  | closed hrecv hof => exact recv (hasks _ _ .first) hrecv
  | @failed now c f any retried answer s e hrecv hof =>
    have hcalled : CallsFrom ch asks c { c with socket := s } := recv (hasks _ _ .first) hrecv
    exact hcalled.trans (of_socket (socket_receiveError _ e))
  | interrupted hrecv hof hnext ih =>
    exact (recv (hasks _ _ .first) hrecv).trans
      (ih fun a f' h => hasks a f' (.interrupted hrecv hof h))
  | slow hrecv hof hfeed htrack => exact received (hasks _ _ .first) hrecv hfeed htrack
  | complete hrecv hof hfeed htrack _ => exact received (hasks _ _ .first) hrecv hfeed htrack
  | more hrecv hof hfeed htrack hopen hnext ih =>
    exact (received (hasks _ _ .first) hrecv hfeed htrack).trans
      (ih fun a f' h => hasks a f' (.more hrecv hof hfeed htrack hopen h))
  | again hrecv hof hpeek hsaw hnext ih =>
    exact ((recv (hasks _ _ .first) hrecv).trans (peek hpeek)).trans
      (ih fun a f' h => hasks a f' (.again hrecv hof hpeek hsaw h))
  -- An idle turn peeks, and may count as dry, which makes no call
  | idle hrecv hof hpeek _ =>
    have hcalled := (recv (hasks _ _ .first) hrecv).trans (peek hpeek)
    dsimp only
    split
    · exact hcalled
    · exact hcalled.trans (of_socket (Booked.dryRead _).socket)

/-- `receiveDatagram` makes its calls where it asks for them. -/
theorem receiveDatagram (c : Client (Traced σ)) (now : Duration) (f : φ)
    (hasks : ∀ a, AsksDatagram c a → asks a) :
    CallsFrom .regular asks c (c.receiveDatagram now f).1.2 := by
  fun_induction Client.receiveDatagram c now f with
  | case1 c data origin s hrecv c₁ f₁ hfeed e c₂ htrack
  | case2 c data origin s hrecv c₁ f₁ hfeed c₂ htrack hdone
  | case3 c data origin s hrecv c₁ f₁ hfeed c₂ htrack hdone =>
    have hsocket : c₂.socket = s := socket_of_fed hfeed htrack
    exact (recvFrom (hasks c .first) hrecv).trans (of_socket hsocket)
  | case4 c e s hrecv c' hblocked => exact recvFrom (hasks c .first) hrecv
  | case5 c e s hrecv c' hblocked hi ih =>
    exact (recvFrom (hasks c .first) hrecv).trans
      (ih fun a h => hasks a (.interrupted hrecv hi h))
  | case6 c e s hrecv c' hblocked hi =>
    have hcalled : CallsFrom .regular asks c { c with socket := s } :=
      recvFrom (hasks c .first) hrecv
    exact hcalled.trans (of_socket (socket_receiveError _ e))

end CallsFrom

/-- A read of a stream makes its calls where `ReadAsks` says. -/
theorem callsFrom_readStream (c : Client (Traced σ)) (now : Clock) (f : φ) (ch : Channel) :
    CallsFrom ch (ReadAsks now ch .stream c f) c (c.readStream now f ch).1.2 := by
  have hanchored : ∀ {answer : Except NetworkError Bool} {c₁ : Client (Traced σ)},
      c.ensureConnected now.first = (answer, c₁) →
        CallsFrom ch (ReadAsks now ch .stream c f) c c₁ :=
    fun hensured => .ensured (ensures_ensureConnected hensured)
  have hreplayed : ∀ {c₁ c₂ : Client (Traced σ)} {f₂ : φ},
      (c₁.anchorReceive now.first).replay f ch = (c₂, f₂) →
        CallsFrom ch (ReadAsks now ch .stream c f) c₁ c₂ := by
    intro c₁ c₂ f₂ hreplay
    have hsocket := socket_replay (c₁.anchorReceive now.first) f ch
    rw [hreplay] at hsocket
    exact .of_socket hsocket
  have hreads := reads_readStream c now f ch
  generalize c.readStream now f ch = r at hreads
  cases hreads with
  | refused _ => exact .of_socket rfl
  | failed hensured | waiting hensured => exact hanchored hensured
  | ready hensured _ => exact (hanchored hensured).trans (.of_socket rfl)
  | replayed hensured hreplay _ =>
    exact ((hanchored hensured).trans (hreplayed hreplay)).trans (.of_socket rfl)
  | @received c₁ c₂ f₂ _ hensured hreplay hopen hloop =>
    -- Only a read that goes on behind its leftovers has a loop
    have hasks : ∀ a f', Asks ch now.later c₂ f₂ false a f' → ReadAsks now ch .stream c f a :=
      fun a f' h => .stream hensured hreplay hopen h
    exact ((hanchored hensured).trans (hreplayed hreplay)).trans
      ((CallsFrom.receives hloop hasks).trans (.of_socket (socket_readOutcome _)))

/-- A read of datagrams makes its calls where `ReadAsks` says. -/
theorem callsFrom_readDatagram (c : Client (Traced σ)) (now : Clock) (f : φ) (ch : Channel) :
    CallsFrom ch (ReadAsks now ch .datagram c f) c (c.readDatagram now f ch).1.2 := by
  unfold readDatagram
  split
  · exact .of_socket rfl
  · rename_i hch
    obtain rfl : ch = .regular := Channel.eq_regular hch
    dsimp only
    split
    · -- the frame was complete before
      exact .of_socket rfl
    · have hreplayed : CallsFrom .regular (ReadAsks now .regular .datagram c f) c
          ((c.anchorReceive now.first).replay f .regular).1 :=
        .of_socket (socket_replay _ f .regular)
      generalize hreplay : (c.anchorReceive now.first).replay f .regular = replayed at hreplayed ⊢
      obtain ⟨c₂, f₂⟩ := replayed
      dsimp only at hreplayed ⊢
      split
      · -- what was left over completes it
        exact hreplayed.trans (.of_socket rfl)
      · rename_i hopen
        exact hreplayed.trans (.receiveDatagram c₂ now.later.first f₂
          fun a h => .datagram rfl hreplay (Bool.eq_false_iff.mpr hopen) h)

/-- Every receiving call of a read is made by one of these clients. -/
theorem callsFrom_read (kind : ClientKind) (c : Client (Traced σ)) (now : Clock) (f : φ)
    (ch : Channel) : CallsFrom ch (ReadAsks now ch kind c f) c (c.read kind now f ch).1.2 := by
  cases kind with
  | stream => exact callsFrom_readStream c now f ch
  | datagram => exact callsFrom_readDatagram c now f ch

/-! ## The order of the bytes -/

/-- On each channel framers took a beginning of what came, in its order, and the rest
    waits. -/
def InOrder (c : Client (Recorded σ)) (fed : Channel → List Feeding) : Prop :=
  ∀ ch, c.socket.received ch = (fed ch).flatMap Feeding.taken ++ c.waiting ch

/-- One more chunk, of which `taken` was taken. -/
theorem flatMap_taken_append (feedings : List Feeding) (taken rest : Bytes) :
    (feedings ++ [(⟨taken ++ rest, rest⟩ : Feeding)]).flatMap Feeding.taken =
      feedings.flatMap Feeding.taken ++ taken := by
  rw [List.flatMap_append, List.flatMap_singleton, Feeding.taken]
  simp

/-- Finding out whether the connection stands brings no bytes. -/
theorem received_ensureConnected (c : Client (Recorded σ)) (now : Duration) :
    (c.ensureConnected now).2.socket.received = c.socket.received := by
  rcases hensured : c.ensureConnected now with ⟨answer, c'⟩
  cases finds_ensureConnected hensured with
  | stands _ | gone _ _ => rfl
  | named _ _ hremote | unreachable _ _ hremote => exact Recorded.received_remoteAddress hremote
  | unanswered _ _ hremote herror | failed _ _ hremote herror | late _ _ hremote herror _
  | waiting _ _ hremote herror _ =>
    exact (Recorded.received_takeError herror).trans (Recorded.received_remoteAddress hremote)

namespace InOrder

variable {c c' : Client (Recorded σ)} {fed : Channel → List Feeding} {l : Logged φ}
  {ch : Channel} {now : Clock}

omit [Endpoint σ] in
/-- `InOrder` speaks of what was received and what is left over only. -/
theorem of_eq (h : InOrder c fed) (hreceived : c'.socket.received = c.socket.received)
    (hleft : c'.leftovers = c.leftovers) : InOrder c' fed := by
  intro ch
  rw [hreceived, waiting, hleft]
  exact h ch

omit [Endpoint σ] in
/-- `Unmoved` steps keep what is `InOrder`. -/
theorem of_unmoved (h : InOrder c fed) (hu : Unmoved c c') : InOrder c' fed :=
  h.of_eq hu.received hu.leftovers

omit [Endpoint σ] in
/-- Bytes come when nothing is left over, and are fed.  `c'` is the client when the framer
    gets them. -/
theorem feed [LawfulFramer φ] {bytes : Bytes} (h : InOrder c (Channel.extend fed ch l.feedings))
    (hnone : c.leftovers.get ch = none) (origin : Option String)
    (hreceived : c'.socket.received = Channel.extend c.socket.received ch bytes)
    (hleft : c'.leftovers = c.leftovers) :
    InOrder (c'.feed l ch bytes origin).1
      (Channel.extend fed ch (c'.feed l ch bytes origin).2.feedings) := by
  obtain ⟨taken, rest, rfl, hfed, hwaiting, _⟩ := c'.feed_logged l ch bytes origin
  intro ch'
  have hsame : c'.waiting ch' = c.waiting ch' := by rw [waiting, hleft, waiting]
  rw [hfed, hwaiting, socket_feed, hreceived]
  have hch := h ch'
  by_cases heq : ch' = ch
  · -- the channel of the bytes, on which nothing waited
    subst heq
    have hnothing : c.waiting ch' = [] := by
      rw [waiting, hnone]
      rfl
    simp only [Channel.extend_self] at hch ⊢
    rw [← List.append_assoc (fed ch'), flatMap_taken_append, hch, hsame, hnothing]
    simp only [List.append_nil, List.nil_append, List.append_assoc]
  · -- the other channel
    simp only [Channel.extend_of_ne _ _ heq] at hch ⊢
    rw [hch, hsame]

omit [Endpoint σ] in
/-- They are fed, and the watchdog is told of them. -/
theorem tracked [LawfulFramer φ] {c₁ c₂ : Client (Recorded σ)} {l₁ : Logged φ} {bytes : Bytes}
    {origin : Option String} {n : Nat} {now : Duration} {answer : Except NetworkError Unit}
    (h : InOrder c (Channel.extend fed ch l.feedings)) (hnone : c.leftovers.get ch = none)
    (hfeed : c'.feed l ch bytes origin = (c₁, l₁))
    (htrack : c₁.trackReceive now n = (answer, c₂))
    (hreceived : c'.socket.received = Channel.extend c.socket.received ch bytes)
    (hleft : c'.leftovers = c.leftovers) :
    InOrder c₂ (Channel.extend fed ch l₁.feedings) := by
  have hfed : InOrder (c'.feed l ch bytes origin).1 _ := h.feed hnone origin hreceived hleft
  rw [hfeed] at hfed
  exact hfed.of_unmoved (.of_booked (.trackReceive htrack))

omit [Endpoint σ] in
/-- What was left over is fed. -/
theorem replay [LawfulFramer φ] (h : InOrder c (Channel.extend fed ch l.feedings)) :
    InOrder (c.replay l ch).1 (Channel.extend fed ch (c.replay l ch).2.feedings) := by
  rcases c.replay_logged l ch with hnone | ⟨taken, rest, hwaiting, hfed, hrest, hother, _⟩
  · rw [hnone]
    exact h
  · intro ch'
    rw [hfed, socket_replay]
    have hch := h ch'
    by_cases heq : ch' = ch
    · subst heq
      simp only [Channel.extend_self] at hch ⊢
      rw [← List.append_assoc (fed ch'), flatMap_taken_append, hch, hwaiting, hrest,
        List.append_assoc]
    · simp only [Channel.extend_of_ne _ _ heq] at hch ⊢
      rw [hch, hother ch' heq]

/-- The receiving loop of a stream. -/
theorem receives [LawfulFramer φ] {any retried : Bool} {r : Reception (Recorded σ) (Logged φ)}
    (hloop : Receives ch now c l any retried r) (hgreedy : Framer.IsGreedy l)
    (hnone : c.leftovers.get ch = none) (h : InOrder c (Channel.extend fed ch l.feedings)) :
    InOrder r.client (Channel.extend fed ch r.framer.feedings) := by
  induction hloop with
  | closed hrecv hof => exact h.of_unmoved (.recv hrecv (by simp [hof]))
  | failed hrecv hof =>
    exact h.of_unmoved ((Unmoved.recv hrecv (by simp [hof])).trans (.receiveError _ _))
  | interrupted hrecv hof _ ih =>
    exact ih hgreedy hnone (h.of_unmoved (.recv hrecv (by simp [hof])))
  | slow hrecv hof hfeed htrack =>
    exact h.tracked hnone hfeed htrack (Recorded.received_recv_data hrecv hof) rfl
  | complete hrecv hof hfeed htrack _ =>
    exact h.tracked hnone hfeed htrack (Recorded.received_recv_data hrecv hof) rfl
  | more hrecv hof hfeed htrack hopen _ ih =>
    -- The framer has taken all of the chunk, so the next one comes right behind it
    obtain ⟨hleft, hgreedy₁⟩ := leftovers_of_open hgreedy hfeed hopen
    apply ih hgreedy₁ _ (h.tracked hnone hfeed htrack (Recorded.received_recv_data hrecv hof) rfl)
    rw [(Booked.trackReceive htrack).leftovers, hleft]
    exact hnone
  | again hrecv hof hpeek _ _ ih =>
    have hquiet := Unmoved.recv hrecv (by simp [hof])
    exact ih hgreedy hnone (h.of_unmoved (hquiet.trans (.peek hpeek)))
  | idle hrecv hof hpeek _ =>
    have hquiet := (Unmoved.recv hrecv (by simp [hof])).trans (.peek hpeek)
    apply h.of_unmoved
    split
    · exact hquiet
    · exact hquiet.trans (.of_booked (.dryRead _))

/-- The receipt of a datagram. -/
theorem receiveDatagram [LawfulFramer φ] {now : Duration} (hnone : c.leftovers.get .regular = none)
    (h : InOrder c (Channel.extend fed .regular l.feedings)) :
    InOrder (c.receiveDatagram now l).1.2
      (Channel.extend fed .regular (c.receiveDatagram now l).2.feedings) := by
  fun_induction Client.receiveDatagram c now l with
  | case1 c data origin s hrecv c₁ f₁ hfeed e c₂ htrack =>
    exact h.tracked hnone hfeed htrack (Recorded.received_recvFrom hrecv) rfl
  | case2 c data origin s hrecv c₁ f₁ hfeed c₂ htrack hdone
  | case3 c data origin s hrecv c₁ f₁ hfeed c₂ htrack hdone =>
    have hfed := h.tracked hnone hfeed htrack (Recorded.received_recvFrom hrecv) rfl
    exact hfed.of_unmoved (.of_booked (.finishRead c₂))
  | case4 c e s hrecv c' hblocked => exact h.of_unmoved (.recvFrom hrecv)
  | case5 c e s hrecv c' hblocked hi ih => exact ih hnone (h.of_unmoved (.recvFrom hrecv))
  | case6 c e s hrecv c' hblocked hi =>
    exact h.of_unmoved ((Unmoved.recvFrom hrecv).trans (.receiveError _ e))

/-- To find out whether the connection stands brings nothing and drops nothing. -/
theorem ensureConnected (h : InOrder c fed) (haccounted : Accounted c fed) (now : Duration) :
    InOrder (c.ensureConnected now).2 fed :=
  h.of_eq (received_ensureConnected c now) (haccounted.ensureConnected now).2

/-- A write keeps what is `InOrder`. -/
theorem writeStream (h : InOrder c fed) (haccounted : Accounted c fed) (now : Clock)
    (data : Bytes) (ch : Channel) : InOrder (c.writeStream now data ch).2 fed := by
  rcases Unmoved.writeStream c now data ch with hrefused | hafter
  · exact h.of_unmoved hrefused
  · exact (h.ensureConnected haccounted now.first).of_unmoved hafter

/-- A read of a stream with a greedy framer keeps what is `InOrder`. -/
theorem readStream [LawfulFramer φ] (hgreedy : Framer.IsGreedy l)
    (haccounted : Accounted c (Channel.extend fed ch l.feedings))
    (h : InOrder c (Channel.extend fed ch l.feedings)) :
    InOrder (c.readStream now l ch).1.2
      (Channel.extend fed ch (c.readStream now l ch).2.feedings) := by
  have hanchored : ∀ {c₁ : Client (Recorded σ)}, c.ensureConnected now.first = (.ok true, c₁) →
      InOrder (c₁.anchorReceive now.first) (Channel.extend fed ch l.feedings) := by
    intro c₁ hconn
    have hensured := h.ensureConnected haccounted now.first
    rw [hconn] at hensured
    exact hensured.of_unmoved (.of_booked (.anchorReceive c₁ now.first))
  have hreads := reads_readStream c now l ch
  generalize c.readStream now l ch = r at hreads
  cases hreads with
  | refused _ => exact h
  | failed hconn | waiting hconn =>
    have hensured := h.ensureConnected haccounted now.first
    rw [hconn] at hensured
    exact hensured
  | ready hconn _ => exact (hanchored hconn).of_unmoved (.of_booked (.finishRead _))
  | replayed hconn hreplay _ =>
    have hreplayed := (hanchored hconn).replay
    rw [hreplay] at hreplayed
    exact hreplayed.of_unmoved (.of_booked (.finishRead _))
  | @received c₁ c₂ f₂ _ hconn hreplay hopen hloop =>
    have hreplayed := (hanchored hconn).replay
    -- The framer that goes on to receive has taken all that was left over
    obtain ⟨hnone, hgreedy₂⟩ := replay_of_isGreedy hgreedy hreplay hopen
    rw [hreplay] at hreplayed
    rw [feedings_readOutcome]
    exact (receives hloop hgreedy₂ hnone hreplayed).of_unmoved (.readOutcome _)

/-- A read of datagrams with a greedy framer keeps what is `InOrder`. -/
theorem readDatagram [LawfulFramer φ] (hgreedy : Framer.IsGreedy l)
    (h : InOrder c (Channel.extend fed ch l.feedings)) :
    InOrder (c.readDatagram now l ch).1.2
      (Channel.extend fed ch (c.readDatagram now l ch).2.feedings) := by
  unfold Client.readDatagram
  split
  · exact h
  · rename_i hch
    obtain rfl : ch = .regular := Channel.eq_regular hch
    have hanchored := h.of_unmoved (.of_booked (.anchorReceive c now.first))
    dsimp only
    split
    · exact hanchored.of_unmoved (.of_booked (.finishRead _))
    · have hreplayed := hanchored.replay
      split
      · exact hreplayed.of_unmoved (.of_booked (.finishRead _))
      · rename_i hopen
        have hnone := leftovers_replay_of_isGreedy hgreedy (Bool.eq_false_iff.mpr hopen)
        exact hreplayed.receiveDatagram hnone

end InOrder

/-! ## Runs -/

/-- The framer of the step, if it is a read, is greedy. -/
def Step.IsGreedy : Step σ φ → Prop
  | .read _ f _ => Framer.IsGreedy f
  | _ => True

variable {kind : ClientKind} {x : History σ}

/-- Each step of a run keeps the order, when the framers of its reads are greedy. -/
theorem InOrder.after [LawfulFramer φ] (h : InOrder x.client x.feedings) (hholds : x.Holds kind)
    (step : Step σ φ) (hgreedy : step.IsGreedy) :
    InOrder (x.after kind step).client (x.after kind step).feedings := by
  cases step with
  | world change => exact h.of_eq rfl rfl
  | read now f ch =>
    have hlogged : Framer.IsGreedy (⟨f, []⟩ : Logged φ) := .of_view Logged.isView hgreedy
    -- A framer is put on record from the start of the read on.
    have hnil : Channel.extend x.feedings ch (⟨f, []⟩ : Logged φ).feedings = x.feedings :=
      Channel.extend_nil _ _
    have haccounted := hholds.accounted
    rw [← hnil] at h haccounted
    cases kind with
    | stream => exact h.readStream hlogged haccounted
    | datagram => exact h.readDatagram hlogged
  | write now data ch =>
    cases kind with
    | stream => exact h.writeStream hholds.accounted now data ch
    | datagram => exact h.of_unmoved (.writeDatagram _ now data ch)
  | resetTransfer => exact h.of_unmoved (.of_booked ((Booked.finishRead _).trans (.finishSend _)))

/-- A run with greedy framers keeps what is `InOrder`. -/
theorem InOrder.run [LawfulFramer φ] (h : InOrder x.client x.feedings) (hholds : x.Holds kind)
    (steps : List (Step σ φ)) (hgreedy : ∀ step ∈ steps, step.IsGreedy) :
    InOrder (steps.foldl (History.after kind) x).client
      (steps.foldl (History.after kind) x).feedings := by
  induction steps generalizing x with
  | nil => exact h
  | cons step steps ih =>
    have hstep : step.IsGreedy := hgreedy step List.mem_cons_self
    apply ih (h.after hholds step hstep) (hholds.after step)
    intro later hlater
    exact hgreedy later (List.mem_cons_of_mem _ hlater)

/-- A client starts in order: nothing came, nothing was taken, and nothing waits. -/
theorem inOrder_make (kind : ClientKind) (socket : σ) (config : Config) (made : Duration) :
    InOrder (make kind (.start socket) config made) fun _ => [] := by
  have hempty : ∀ {s : Recorded σ}, s.received = (fun _ => []) → ∀ ch,
      s.received ch = ([] : List Feeding).flatMap Feeding.taken ++
        ((Leftovers.empty.get ch).map Leftover.data).getD [] := by
    intro s hs ch
    rw [hs]
    cases ch <;> rfl
  cases kind with
  | stream => exact hempty rfl
  -- A client of datagrams asks for a name when it is made, which brings nothing
  | datagram =>
    show InOrder (newDatagram (.start socket) config made) _
    unfold newDatagram
    dsimp only
    split
    · rename_i hremote
      exact hempty (Recorded.received_remoteAddress hremote)
    · rename_i hremote
      exact hempty (Recorded.received_remoteAddress hremote)

/-- After any run whose framers are greedy, framers have taken a beginning of what came on
    a channel, in its order, and the rest waits.  And whenever a read with a greedy framer
    makes a receiving call, the client that makes it has nothing left over on the
    channel. -/
theorem replayed_runRecorded [LawfulFramer φ] (kind : ClientKind) (socket : σ)
    (config : Config) (made : Duration) (steps : List (Step σ φ))
    (hgreedy : ∀ step ∈ steps, step.IsGreedy) :
    let x := runRecorded kind socket config made steps
    let c := (make kind socket config made).run kind steps
    x.forget = c ∧
      (∀ ch, x.client.socket.received ch =
        (x.feedings ch).flatMap Feeding.taken ++ c.waiting ch) ∧
      ∀ (now : Clock) (f : φ) (ch : Channel), Framer.IsGreedy f →
        ∀ before call after, c.exchangesOf kind (.read now f ch) = before ++ call :: after →
          ∀ ch', call.receivesOn ch' = true → ∃ c', ReadAsks now ch kind c.traced f c' ∧
            c'.socket.exchanges = before ∧ c'.leftovers.get ch' = none := by
  intro x c
  have hforget : x.forget = c := forget_runRecorded kind socket config made steps
  refine ⟨hforget, ?_, ?_⟩
  · intro ch
    rw [← hforget]
    exact (inOrder_make kind socket config made).run (holds_make kind socket config made)
      steps hgreedy ch
  · intro now f ch hf before call after hcalls ch' hreceives
    -- The calls on record are those that were made where the read asked for them
    obtain ⟨calls, hrecord, hmade⟩ := callsFrom_read kind c.traced now f ch
    have hsplit : calls = before ++ call :: after := hrecord.symm.trans hcalls
    obtain ⟨rfl, c', hasks, hc'⟩ := hmade before call after hsplit ch' hreceives
    exact ⟨c', hasks, hc', hasks.leftovers_get hf⟩

/-- A framer of two bytes takes them from a chunk of three, and the third one waits. -/
theorem replayed_runRecorded_scripted :
    let socket : ScriptedSocket :=
      { id := ⟨1⟩, transport := .tcp, peer := .ok (some "peer"), rx := [.data [1, 2, 3] none] }
    let steps : List (Step ScriptedSocket Framer.Standard) :=
      [.read .zero (.fixedLength (.start 2)) .regular]
    let x := runRecorded .stream socket {} .zero steps
    (∀ step ∈ steps, step.IsGreedy) ∧ (x.feedings .regular).flatMap Feeding.taken = [1, 2] ∧
      x.client.socket.received .regular = [1, 2] ++ x.forget.waiting .regular := by
  intro socket steps x
  have hgreedy : ∀ step ∈ steps, step.IsGreedy := by
    intro step hstep
    rw [List.mem_singleton.mp hstep]
    exact (Framer.Standard.IsFresh.fixedLength 2).isGreedy
  let start : Client (Recorded ScriptedSocket) := make .stream (.start socket) {} .zero
  let ready := (start.ensureConnected .zero).2.anchorReceive .zero
  let l : Logged Framer.Standard := ⟨.fixedLength (.start 2), []⟩
  -- The one read receives three bytes, and its framer takes two
  have hloop : Receives .regular .zero ready l false false _ := .complete rfl rfl rfl rfl rfl
  have hread : start.readStream .zero l .regular = readOutcome _ :=
    readStream_of_receives (c := start) (f := l) rfl rfl rfl rfl rfl hloop
  have hx : x = (⟨start, fun _ => []⟩ : History ScriptedSocket).after .stream
      (.read .zero l.framer .regular : Step ScriptedSocket Framer.Standard) := rfl
  have htaken : (x.feedings .regular).flatMap Feeding.taken = [1, 2] := by
    rw [hx]
    simp only [History.after, Client.read, l, hread]
    rfl
  obtain ⟨hforget, horder, _⟩ := replayed_runRecorded .stream socket {} .zero steps hgreedy
  have hregular := horder .regular
  rw [htaken, ← hforget] at hregular
  exact ⟨hgreedy, htaken, hregular⟩

end FrameSocket.Client

/-! ## A framer that hands bytes back too early -/

namespace FrameSocket.Framer

/-- Takes the next `length` bytes as its frame, but at most `atOnce` of each chunk. -/
structure Sipping where
  atOnce : Nat
  length : Nat
  data : Bytes
  origin : Option String
  deriving DecidableEq, Repr

namespace Sipping

/-- A framer that has been fed nothing. -/
def start (atOnce length : Nat) : Sipping := ⟨atOnce, length, [], none⟩

instance : Framer Sipping where
  feed f chunk origin :=
    let n := min f.atOnce (f.length - f.data.length)
    ({ f with data := f.data ++ chunk.take n, origin := firstOrigin f.origin origin },
      chunk.drop n)
  isComplete f := f.data.length = f.length
  frame f := ⟨f.data, f.origin⟩

instance : LawfulFramer Sipping where
  feed_suffix _ chunk _ := List.drop_suffix _ chunk

end Sipping

end FrameSocket.Framer

namespace FrameSocket.Client

/-- Two bytes are left over from the second frame's first chunk when the second chunk is
    received, and are overtaken by two of its bytes. -/
theorem runRecorded_sipping_overtaken :
    let socket : ScriptedSocket :=
      { id := ⟨1⟩, transport := .tcp, peer := .ok (some "10.0.0.2:4000"),
        rx := [.data [0x61, 0x62, 0x63, 0x64, 0x65, 0x66] none,
          .data [0x67, 0x68, 0x69, 0x6A] none] }
    let steps : List (Step ScriptedSocket Framer.Sipping) :=
      [.read .zero (.start 2 2) .regular, .read .zero (.start 2 4) .regular]
    let x := runRecorded .stream socket {} .zero steps
    x.client.socket.received .regular =
        [0x61, 0x62, 0x63, 0x64, 0x65, 0x66, 0x67, 0x68, 0x69, 0x6A] ∧
      (x.feedings .regular).flatMap Feeding.taken = [0x61, 0x62, 0x63, 0x64, 0x67, 0x68] := by
  intro socket steps x
  let peer := some "10.0.0.2:4000"
  let first : Client (Recorded ScriptedSocket) := make .stream (.start socket) {} .zero
  let ready := (first.ensureConnected .zero).2
  let second : Client (Recorded ScriptedSocket) :=
    { ready with
      socket := (Endpoint.recv ready.socket .regular ready.bufferSize).2
      leftovers := ⟨some ⟨[0x63, 0x64, 0x65, 0x66], peer⟩, none⟩ }
  let l : Logged Framer.Sipping := ⟨.start 2 2, []⟩
  let l' : Logged Framer.Sipping := ⟨.start 2 4, []⟩
  -- The first framer takes its two bytes, and the others wait.
  have hloop : Receives .regular .zero (ready.anchorReceive .zero) l false false _ :=
    .complete rfl rfl rfl rfl rfl
  have hread : first.readStream .zero l .regular = readOutcome _ :=
    readStream_of_receives (c := first) (f := l) rfl rfl rfl rfl rfl hloop
  have hfirst : first.read .stream .zero l .regular =
      ((.ok (.complete ⟨[0x61, 0x62], peer⟩), second), ⟨⟨2, 2, [0x61, 0x62], peer⟩,
        [⟨[0x61, 0x62, 0x63, 0x64, 0x65, 0x66], [0x63, 0x64, 0x65, 0x66]⟩]⟩) := by
    refine Eq.trans hread ?_
    rfl
  -- The second one takes two of these, and then two of those that come.
  let replayed := (second.anchorReceive .zero).replay l' .regular
  have hloop' : Receives .regular .zero replayed.1 replayed.2 false false _ :=
    .complete rfl rfl rfl rfl rfl
  have hsecond : second.readStream .zero l' .regular = readOutcome _ :=
    readStream_of_receives (c := second) (f := l') rfl rfl rfl rfl rfl hloop'
  have hx : x = ((⟨first, fun _ => []⟩ : History ScriptedSocket).after .stream
      (.read .zero l.framer .regular : Step ScriptedSocket Framer.Sipping)).after .stream
      (.read .zero l'.framer .regular : Step ScriptedSocket Framer.Sipping) := rfl
  rw [hx]
  simp only [History.after]
  rw [hfirst]
  dsimp only
  rw [show second.read .stream .zero l' .regular = readOutcome _ from hsecond]
  exact ⟨rfl, rfl⟩

end FrameSocket.Client
