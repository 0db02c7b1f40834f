import FrameSocket.Proofs.Reading
import FrameSocket.Socket.Scripted

/-!
# A stream that is read frame by frame

A `Driver` reads one frame after the other from a stream client: it reads again
with the same framer while the frame goes on, and takes the next framer when the
frame is complete.  The frames that it gets are the segmentation of the stream,
and each of them comes with the first read by the end of which its bytes have
been received, wherever the socket cut, delayed or interrupted the stream.

The socket follows a script of portions, waits and interruptions, with an end at
most behind them (`IsStream`).

## Key results

- `ScriptedSocket.streams`: such a script hands out its stream
- `Standing.read`: what one read of the driver keeps, gets and uses up
- `frames_reads_eq_segment`: the frames of any number of reads
-/

namespace FrameSocket

namespace ScriptedSocket

/-! ## Scripts of a stream -/

/-- The bytes that a script hands out. -/
def upcoming : List ScriptedItem → Bytes
  | [] => []
  | .data bytes _ :: items => bytes ++ upcoming items
  | .closed :: items => upcoming items
  | .fails _ :: items => upcoming items

/-- Whether there is an end in a script. -/
def closes (items : List ScriptedItem) : Bool := decide (ScriptedItem.closed ∈ items)

/-- A script of portions that are not empty, waits and interruptions, and of an end at
    most behind all of them. -/
def IsStream : List ScriptedItem → Prop
  | [] => True
  | .data bytes _ :: items => bytes ≠ [] ∧ IsStream items
  | .closed :: items => items = []
  | .fails e :: items => (e.isBlocked = true ∨ e.isInterrupted = true) ∧ IsStream items

/-- What a receiving call leaves of a script that hands out a stream. -/
theorem isStream_recvItem {items items' : List ScriptedItem} {answer : Except IoError Bytes}
    {size : Nat} (h : IsStream items) (hrecv : recvItem size items = (answer, items')) :
    IsStream items' ∧ closes items' = closes items := by
  unfold recvItem at hrecv
  split at hrecv
  · -- nothing is scripted any more
    cases hrecv
    exact ⟨h, rfl⟩
  · cases hrecv
    exact ⟨h, rfl⟩
  · -- a failure is used up
    cases hrecv
    refine ⟨h.2, ?_⟩
    simp [closes]
  · split at hrecv
    · -- the whole portion fits
      cases hrecv
      refine ⟨h.2, ?_⟩
      simp [closes]
    · -- a part of it stays in front
      rename_i bytes origin items hlong
      cases hrecv
      refine ⟨⟨?_, h.2⟩, ?_⟩
      · rw [ne_eq, List.drop_eq_nil_iff]
        exact hlong
      · simp [closes]

/-- A receiving call brings the next bytes of the stream. -/
theorem upcoming_recvItem {items items' : List ScriptedItem} {bytes : Bytes} {size : Nat}
    (hrecv : recvItem size items = (.ok bytes, items')) :
    upcoming items = bytes ++ upcoming items' := by
  unfold recvItem at hrecv
  split at hrecv
  · cases hrecv
  · cases hrecv
    rfl
  · cases hrecv
  · split at hrecv
    · cases hrecv
      rfl
    · cases hrecv
      -- A chunk that does not fit is cut in two
      rw [upcoming, upcoming, ← List.append_assoc, List.take_append_drop]

/-- An empty answer is the end of the stream. -/
theorem recvItem_eq_end {items items' : List ScriptedItem} {size : Nat} (h : IsStream items)
    (hsize : 0 < size) (hrecv : recvItem size items = (.ok [], items')) :
    items = [.closed] ∧ items' = [.closed] := by
  unfold recvItem at hrecv
  split at hrecv
  · cases hrecv
  · -- the end of the stream stays where it is
    rename_i items
    cases hrecv
    rw [show items = [] from h]
    exact ⟨rfl, rfl⟩
  · cases hrecv
  · split at hrecv
    · cases hrecv
      exact absurd rfl h.1
    · -- a byte at least was asked for, and the portion is longer
      rename_i bytes origin items hlong
      have htake : bytes.take size = [] := Except.ok.inj (congrArg Prod.fst hrecv)
      have hlen := congrArg List.length htake
      rw [List.length_take, List.length_nil] at hlen
      omega

/-- A call fails only where the script says so or is used up, and brings nothing. -/
theorem recvItem_eq_error {items items' : List ScriptedItem} {e : IoError} {size : Nat}
    (h : IsStream items) (hrecv : recvItem size items = (.error e, items')) :
    (e.isBlocked = true ∨ e.isInterrupted = true) ∧ upcoming items' = upcoming items ∧
      (queueSupply items' < queueSupply items ∨ items' = []) := by
  unfold recvItem at hrecv
  split at hrecv
  · -- the script is used up
    cases hrecv
    exact ⟨.inl (by decide), rfl, .inr rfl⟩
  · cases hrecv
  · cases hrecv
    refine ⟨h.1, rfl, .inl ?_⟩
    simp [queueSupply, itemSupply]
  · split at hrecv <;> cases hrecv

variable {s s' : ScriptedSocket}

/-- A receiving call works on the script alone. -/
theorem recv_eq {size : Nat} {answer : Except IoError Bytes}
    (h : Endpoint.recv s .regular size = (answer, s')) : recvItem size s.rx = (answer, s'.rx) := by
  have hanswer : (recvItem size s.rx).1 = answer := congrArg Prod.fst h
  have hsocket : (Endpoint.recv s .regular size).2 = s' := congrArg Prod.snd h
  rw [← hanswer, ← hsocket]
  rfl

/-- What a receiving call uses up of the script, the socket has no more. -/
theorem supply_lt_of_recv {size : Nat} {answer : Except IoError Bytes}
    (h : Endpoint.recv s .regular size = (answer, s'))
    (hless : queueSupply s'.rx < queueSupply s.rx) : Endpoint.supply s' < Endpoint.supply s := by
  have hsocket : (Endpoint.recv s .regular size).2 = s' := congrArg Prod.snd h
  have hsum := supply_recv s .regular size
  rw [← hsocket] at hless ⊢
  change queueSupply (recvItem size s.rx).2 < queueSupply s.rx at hless
  change (s.recv .regular size).2.supply < s.supply
  simp only [queue] at hsum
  omega

/-- A peek leaves the script as it is. -/
theorem rx_peek {ch : Channel} {answer : Except IoError Nat}
    (h : Endpoint.peek s ch = (answer, s')) : s'.rx = s.rx := by
  have hsocket : (Endpoint.peek s ch).2 = s' := congrArg Prod.snd h
  rw [← hsocket]
  show (s.peek ch).2.rx = s.rx
  unfold peek
  dsimp only
  split
  · rfl
  · split <;> rfl

/-- All along: what came and what is to come make up the stream, and its end has not been
    told. -/
structure Flowing (stream : Bytes) (closed : Bool) (r : Recorded ScriptedSocket) : Prop where
  isStream : IsStream r.socket.rx
  received : r.received .regular ++ upcoming r.socket.rx = stream
  closes : closes r.socket.rx = closed
  ended : r.ended = false

/-- At the end: the stream has come, and its end has been told. -/
structure Ended (stream : Bytes) (closed : Bool) (r : Recorded ScriptedSocket) : Prop where
  received : r.received .regular = stream
  upcoming : upcoming r.socket.rx = []
  closes : closed = true
  ended : r.ended = true

/-- A socket with such a script hands out its stream. -/
theorem streams (stream : Bytes) (closed : Bool) :
    Endpoint.Streams (fun r : Recorded ScriptedSocket => upcoming r.socket.rx)
      (Flowing stream closed) (Ended stream closed) (fun r => r.socket.rx = []) where
  recv_data {r r'} {n} {bytes} hflowing _ hne hrecv := by
    have hitem := recv_eq (Recorded.isView.recv_eq hrecv)
    have hupcoming := upcoming_recvItem hitem
    obtain ⟨hstream, hcloses⟩ := isStream_recvItem hflowing.isStream hitem
    -- What was still to come has come now
    refine ⟨⟨hstream, ?_, hcloses.trans hflowing.closes, ?_⟩, hupcoming⟩
    · rw [Recorded.received_recv hrecv, Channel.extend_self, Recorded.brought_ok,
        List.append_assoc, ← hupcoming]
      exact hflowing.received
    · rw [Recorded.ended_recv hrecv, hflowing.ended]
      cases bytes with
      | nil => exact absurd rfl hne
      | cons b bytes => rfl
  recv_end {r r'} {n} hflowing hn hrecv := by
    have hitem := recv_eq (Recorded.isView.recv_eq hrecv)
    obtain ⟨hrx, hrx'⟩ := recvItem_eq_end hflowing.isStream hn hitem
    -- Behind the end there is nothing, so all has been received
    have hupcoming : upcoming r.socket.rx = [] := by rw [hrx]; rfl
    have hupcoming' : upcoming r'.socket.rx = [] := by rw [hrx']; rfl
    refine ⟨⟨?_, hupcoming', ?_, ?_⟩, hupcoming, hupcoming'⟩
    · rw [Recorded.received_recv hrecv, Recorded.brought_ok, Channel.extend_nil,
        ← hflowing.received, hupcoming, List.append_nil]
    · rw [← hflowing.closes, hrx]
      rfl
    · rw [Recorded.ended_recv hrecv, hflowing.ended]
      rfl
  recv_error {r r'} {n} {e} hflowing hrecv := by
    have hview := Recorded.isView.recv_eq hrecv
    have hitem := recv_eq hview
    obtain ⟨hstream, hcloses⟩ := isStream_recvItem hflowing.isStream hitem
    obtain ⟨hsort, hupcoming, hless⟩ := recvItem_eq_error hflowing.isStream hitem
    refine ⟨hsort, ⟨hstream, ?_, hcloses.trans hflowing.closes, ?_⟩, hupcoming, fun _ => ?_⟩
    · rw [Recorded.received_recv hrecv, hupcoming]
      exact (congrArg (· ++ _) (congrFun (Channel.extend_nil _ _) _)).trans hflowing.received
    · rw [Recorded.ended_recv hrecv, hflowing.ended]
      rfl
    · -- a failure is used up, or nothing is scripted any more
      exact hless.imp_left (supply_lt_of_recv hview)
  peek {r r'} {answer} hflowing hpeek := by
    have hrx := rx_peek (Recorded.isView.peek_eq hpeek)
    have hreceived := Recorded.received_peek hpeek
    refine ⟨⟨?_, ?_, ?_, ?_⟩, ?_, ?_⟩
    · rw [hrx]
      exact hflowing.isStream
    · rw [hreceived, hrx]
      exact hflowing.received
    · rw [hrx]
      exact hflowing.closes
    · have hended : r'.ended = r.ended := (congrArg (fun x => x.2.ended) hpeek).symm
      rw [hended]
      exact hflowing.ended
    · rw [hrx]
    · intro hdry
      rw [hrx]
      exact hdry

end ScriptedSocket

open Framer (Standard)

/-! ## The driver -/

/-- A client of a stream that is read frame by frame. -/
structure Driver (σ : Type) where
  client : Client σ
  /-- The framers of the frames to come; the first may be in the middle of its frame. -/
  framers : List Standard
  /-- The frames that came. -/
  frames : List Frame
  /-- Whether a read failed for good. -/
  stopped : Bool

namespace Driver

/-- A driver that has read nothing yet. -/
def start {σ : Type} (c : Client σ) (specs : List FrameSpec) : Driver σ :=
  ⟨c, specs.map FrameSpec.start, [], false⟩

/-- The data of the frames that came. -/
def data {σ : Type} (d : Driver σ) : List Bytes := d.frames.map Frame.data

section Reads

variable {σ : Type} [Endpoint σ]

/-- What the driver makes of a read's answer, when the framers after the one read with
    are `later`. -/
def absorb (d : Driver σ) (later : List Standard) :
    Client.Answer σ (Incoming σ) × Standard → Driver σ
  | ((.ok (.complete frame), client), _) =>
    { d with client, framers := later, frames := d.frames ++ [frame] }
  | ((answer, client), f) =>
    { d with client, framers := f :: later, stopped := !Client.goesOn answer }

/-- One read: with the current framer while its frame goes on, with the next one when it
    is complete, and none when all are or a read has failed. -/
def read (d : Driver σ) (now : Clock) : Driver σ :=
  match d.stopped, d.framers with
  | false, f :: later => d.absorb later (d.client.readStream now f .regular)
  | _, _ => d

/-- Reads at some times. -/
def reads (d : Driver σ) (times : List Clock) : Driver σ := times.foldl read d

end Reads

/-! ## What a read keeps -/

section Recorded

open FrameSpec (segment)

/-- The bytes that the driver has received. -/
def received (d : Driver (Recorded ScriptedSocket)) : Bytes := d.client.socket.received .regular

/-- Whether the driver has been told the end of the stream. -/
def ended (d : Driver (Recorded ScriptedSocket)) : Bool := d.client.socket.ended

/-- A bound for the reads that can still bring something. -/
def rank (d : Driver (Recorded ScriptedSocket)) : Nat :=
  Endpoint.supply d.client.socket + d.framers.length

variable {specs : List FrameSpec} {stream : Bytes} {closed : Bool}
  {d : Driver (Recorded ScriptedSocket)}

/-- A read after which the frame goes on changes neither the framers to come nor the
    frames. -/
theorem absorb_of_goesOn {answer : Except NetworkError (Incoming (Recorded ScriptedSocket))}
    {c : Client (Recorded ScriptedSocket)} {f : Standard} {later : List Standard}
    (h : Client.goesOn answer = true) :
    d.absorb later ((answer, c), f) =
      { d with client := c, framers := f :: later, stopped := false } := by
  -- Two answers let the driver go on, and both leave its frames as they are
  cases answer with
  | ok incoming =>
    cases incoming with
    | unfinished frame => rfl
    | complete _ | accepted _ _ => exact absurd h Bool.false_ne_true
  | error e =>
    cases e with
    | framingIncomplete address reason collected => rfl
    | _ => exact absurd h Bool.false_ne_true

/-- Where a driver stands between two reads.  Whatever comes next, the frames so far are
    those that the stream begins with, and the others are those of what waits, of what the
    current framer was fed, and of what comes next. -/
inductive Standing (specs : List FrameSpec) (stream : Bytes) (closed : Bool)
    (d : Driver (Recorded ScriptedSocket)) : Prop
  /-- No framer is in the middle of its frame. -/
  | between {later : List FrameSpec} (hstopped : d.stopped = false)
      (hframers : d.framers = later.map FrameSpec.start) (horderly : FrameSpec.Orderly later)
      (hready : d.client.Ready (ScriptedSocket.Flowing stream closed))
      (hsegment : ∀ more c, segment specs (d.received ++ more) c =
        d.data ++ segment later (d.client.waiting .regular ++ more) c)
  /-- The current framer has been fed `s`, and nothing waits. -/
  | within {spec : FrameSpec} {later : List FrameSpec} {f : Standard} {s : Bytes}
      (hstopped : d.stopped = false) (hframers : d.framers = f :: later.map FrameSpec.start)
      (horderly : FrameSpec.Orderly (spec :: later))
      (hready : d.client.Ready (ScriptedSocket.Flowing stream closed))
      (hawaits : spec.Awaits s f) (hwaiting : d.client.waiting .regular = [])
      (hsegment : ∀ more c, segment specs (d.received ++ more) c =
        d.data ++ segment (spec :: later) (s ++ more) c)
  /-- The end of the stream has been told, and there is nothing more to read. -/
  | finished (hend : d.stopped = true ∨ d.framers = [])
      (hended : ScriptedSocket.Ended stream closed d.client.socket)
      (hsegment : segment specs stream true = d.data)

/-- What a read gets: the first frame, if there is one by then, that had not come
    before; and either it uses something up, or there is nothing more to get. -/
structure Advances (specs : List FrameSpec) (stream : Bytes) (closed : Bool)
    (d d' : Driver (Recorded ScriptedSocket)) : Prop where
  data_eq : d'.data = (segment specs d'.received d'.ended).take (d.data.length + 1)
  progress : d'.rank < d.rank ∨ d'.data = segment specs stream closed

/-- Where all the frames by then have come, one more read gets nothing else. -/
theorem data_eq_of_segment_eq {d' : Driver (Recorded ScriptedSocket)}
    (hall : segment specs d'.received d'.ended = d'.data)
    (hlen : d'.data.length ≤ d.data.length + 1) :
    d'.data = (segment specs d'.received d'.ended).take (d.data.length + 1) := by
  rw [hall, List.take_of_length_le hlen]

/-- What holds whatever comes next, holds of what the script has to hand out. -/
theorem segment_stream {frames : Bytes → Bool → List Bytes}
    (hflowing : ScriptedSocket.Flowing stream closed d.client.socket)
    (hsegment : ∀ more c, segment specs (d.received ++ more) c = d.data ++ frames more c) :
    segment specs stream closed =
      d.data ++ frames (ScriptedSocket.upcoming d.client.socket.socket.rx) closed := by
  have hlater := hsegment (ScriptedSocket.upcoming d.client.socket.socket.rx) closed
  rw [received, hflowing.received] at hlater
  exact hlater

/-- A read is on its way with the framer of `spec`, which has been fed `total` by the end of it.
    `got` is what was received meanwhile. -/
structure Underway (specs : List FrameSpec) (d : Driver (Recorded ScriptedSocket))
    (spec : FrameSpec) (later : List FrameSpec) (f : Standard) (total got : Bytes) : Prop where
  stopped : d.stopped = false
  framers : d.framers = f :: later.map FrameSpec.start
  orderly : FrameSpec.Orderly (spec :: later)
  segment_append : ∀ more c, segment specs (d.received ++ got ++ more) c =
    d.data ++ segment (spec :: later) (total ++ more) c

section Underway

variable {spec : FrameSpec} {later : List FrameSpec} {f f' : Standard} {total got : Bytes}
  {c : Client (Recorded ScriptedSocket)} {frame : Frame}

/-- The frames of what was received by the end of the read. -/
theorem Underway.segment_eq (h : Underway specs d spec later f total got) (c : Bool) :
    segment specs (d.received ++ got) c = d.data ++ segment (spec :: later) total c := by
  have hall := h.segment_append [] c
  rw [List.append_nil, List.append_nil] at hall
  exact hall

/-- The frame has ended: the next read begins with the framer behind, on what waits. -/
theorem Underway.complete (h : Underway specs d spec later f total got)
    (hreceived : c.socket.received .regular = d.received ++ got)
    (hcut : spec.cut total false = some (frame.data, c.waiting .regular))
    (hready : c.Ready (ScriptedSocket.Flowing stream closed))
    (hle : Endpoint.supply c.socket ≤ Endpoint.supply d.client.socket) :
    let d' : Driver (Recorded ScriptedSocket) :=
      { d with client := c, framers := later.map FrameSpec.start, frames := d.frames ++ [frame] }
    Standing specs stream closed d' ∧ Advances specs stream closed d d' := by
  intro d'
  have hdata : d'.data = d.data ++ [frame.data] := List.map_append
  have hreceived' : d'.received = d.received ++ got := hreceived
  have hsegment : ∀ more c, segment specs (d'.received ++ more) c =
      d'.data ++ segment later (d'.client.waiting .regular ++ more) c := by
    intro more c
    rw [hreceived', h.segment_append,
      FrameSpec.segment_cons_some (FrameSpec.cut_append hcut more c), hdata, List.append_assoc]
    rfl
  refine ⟨.between h.stopped rfl h.orderly.2.2 hready hsegment, ?_, .inl ?_⟩
  · have hall := hsegment [] d'.ended
    rw [List.append_nil] at hall
    rw [hall, hdata]
    exact (List.take_left' (by rw [List.length_append]; rfl)).symm
  · -- a framer is used up
    show Endpoint.supply c.socket + (later.map FrameSpec.start).length < d.rank
    rw [rank, h.framers, List.length_cons]
    omega

/-- The frame goes on: the next read begins in the middle of it, with nothing waiting. -/
theorem Underway.goesOn (h : Underway specs d spec later f total got)
    (hreceived : c.socket.received .regular = d.received ++ got)
    (hready : c.Ready (ScriptedSocket.Flowing stream closed)) (hawaits : spec.Awaits total f')
    (hwaiting : c.waiting .regular = [])
    (hless : Endpoint.supply c.socket < Endpoint.supply d.client.socket ∨
      c.socket.socket.rx = []) :
    let d' : Driver (Recorded ScriptedSocket) :=
      { d with client := c, framers := f' :: later.map FrameSpec.start, stopped := false }
    Standing specs stream closed d' ∧ Advances specs stream closed d d' := by
  intro d'
  have hreceived' : d'.received = d.received ++ got := hreceived
  have hended : d'.ended = false := hready.flowing.ended
  have hdata : segment specs d'.received false = d'.data := by
    rw [hreceived', h.segment_eq, FrameSpec.segment_cons_none hawaits.cut_eq_none,
      List.append_nil]
    rfl
  refine ⟨.within rfl rfl h.orderly hready hawaits hwaiting fun more c => ?_, ?_, ?_⟩
  · rw [hreceived', h.segment_append]
    rfl
  · apply data_eq_of_segment_eq
    · rw [hended]
      exact hdata
    · exact Nat.le_succ _
  · rcases hless with hless | hdry
    · left
      show Endpoint.supply c.socket + (f' :: later.map FrameSpec.start).length < d.rank
      rw [rank, h.framers, List.length_cons, List.length_cons]
      omega
    · -- the script is used up
      right
      have hall : d'.received = stream := by
        have h := hready.flowing.received
        rw [hdry] at h
        exact (List.append_nil _).symm.trans h
      have hclosed : closed = false := by
        rw [← hready.flowing.closes, hdry]
        rfl
      rw [hclosed, ← hall, hdata]

/-- The end of the stream has been told, and all its frames have come. -/
theorem finished_of_ended {d' : Driver (Recorded ScriptedSocket)}
    (hend : d'.stopped = true ∨ d'.framers = [])
    (hended : ScriptedSocket.Ended stream closed d'.client.socket)
    (hsegment : segment specs stream true = d'.data)
    (hlen : d'.data.length ≤ d.data.length + 1) :
    Standing specs stream closed d' ∧ Advances specs stream closed d d' := by
  -- All of the stream has come, so what it is cut into is final
  have hall : d'.received = stream := hended.received
  have htold : d'.ended = true := hended.ended
  refine ⟨.finished hend hended hsegment, data_eq_of_segment_eq ?_ hlen, .inr ?_⟩
  · rw [hall, htold]
    exact hsegment
  · rw [hended.closes, hsegment]

/-- The other side has closed, which is the end of the last frame. -/
theorem Underway.completeAtEnd (h : Underway specs d spec later f total got)
    (hreceived : c.socket.received .regular = d.received ++ got)
    (hopen : spec.cut total false = none) (hcut : spec.cut total true = some (frame.data, []))
    (hended : ScriptedSocket.Ended stream closed c.socket) :
    let d' : Driver (Recorded ScriptedSocket) :=
      { d with client := c, framers := later.map FrameSpec.start, frames := d.frames ++ [frame] }
    Standing specs stream closed d' ∧ Advances specs stream closed d d' := by
  intro d'
  -- Only a framer that waits for the close is completed by it, and it is the last one
  have hlast : later = [] := h.orderly.2.1 (FrameSpec.eq_untilClose_of_cut hopen hcut)
  have hdata : d'.data = d.data ++ [frame.data] := List.map_append
  have hframers : d'.framers = [] := by
    show later.map FrameSpec.start = []
    rw [hlast]
    rfl
  have hsegment : segment specs stream true = d'.data := by
    rw [← hended.received, hreceived, h.segment_eq, FrameSpec.segment_cons_some hcut, hlast,
      hdata]
    rfl
  refine finished_of_ended (.inr hframers) hended hsegment ?_
  rw [hdata, List.length_append]
  exact Nat.le_refl _

/-- The other side has closed, and the frame has no end. -/
theorem Underway.lost (h : Underway specs d spec later f total got)
    (hreceived : c.socket.received .regular = d.received ++ got)
    (hcut : spec.cut total true = none) (hended : ScriptedSocket.Ended stream closed c.socket) :
    let d' : Driver (Recorded ScriptedSocket) :=
      { d with client := c, framers := f' :: later.map FrameSpec.start, stopped := true }
    Standing specs stream closed d' ∧ Advances specs stream closed d d' := by
  intro d'
  -- Nothing more can be cut, so the data is all that there is
  have hsegment : segment specs stream true = d'.data := by
    rw [← hended.received, hreceived, h.segment_eq, FrameSpec.segment_cons_none hcut,
      List.append_nil]
    rfl
  exact finished_of_ended (.inl rfl) hended hsegment (Nat.le_succ _)

/-- What a read comes to, whatever its outcome is. -/
theorem Underway.absorb (h : Underway specs d spec later f total got)
    {r : Client.Answer (Recorded ScriptedSocket) (Incoming _) × Standard}
    (hreceived : r.1.2.socket.received .regular = d.received ++ got)
    (houtcome : Client.Outcome (ScriptedSocket.Flowing stream closed)
      (ScriptedSocket.Ended stream closed) (fun s => s.socket.rx = []) spec total
      (Endpoint.supply d.client.socket) r) :
    Standing specs stream closed (d.absorb (later.map FrameSpec.start) r) ∧
      Advances specs stream closed d (d.absorb (later.map FrameSpec.start) r) := by
  -- One lemma for each way in which the read ends
  cases houtcome with
  | complete hcut hready _ hwaiting hle =>
    exact h.complete hreceived (hwaiting.symm ▸ hcut) hready hle
  | goesOn hanswer hready hawaits hwaiting hless =>
    rw [absorb_of_goesOn hanswer]
    exact h.goesOn hreceived hready hawaits hwaiting hless
  | completeAtEnd hopen hcut _ hended => exact h.completeAtEnd hreceived hopen hcut hended
  | lost hcut hended => exact h.lost hreceived hcut hended

end Underway

/-- What was received meanwhile comes behind what was received before. -/
theorem received_of_outcome {spec : FrameSpec} {total got : Bytes}
    {r : Client.Answer (Recorded ScriptedSocket) (Incoming _) × Standard}
    (hflowing : ScriptedSocket.Flowing stream closed d.client.socket)
    (hgot : ScriptedSocket.upcoming d.client.socket.socket.rx =
      got ++ ScriptedSocket.upcoming r.1.2.socket.socket.rx)
    (houtcome : Client.Outcome (ScriptedSocket.Flowing stream closed)
      (ScriptedSocket.Ended stream closed) (fun s => s.socket.rx = []) spec total
      (Endpoint.supply d.client.socket) r) :
    r.1.2.socket.received .regular = d.received ++ got := by
  have hafter : r.1.2.socket.received .regular ++
      ScriptedSocket.upcoming r.1.2.socket.socket.rx = stream := by
    cases houtcome with
    | complete _ hready _ _ _ => exact hready.flowing.received
    | goesOn _ hready _ _ _ => exact hready.flowing.received
    | completeAtEnd _ _ _ hended =>
      rw [hended.upcoming, List.append_nil]
      exact hended.received
    | lost _ hended =>
      rw [hended.upcoming, List.append_nil]
      exact hended.received
  -- What was to come before the read has been brought by it, or is to come still
  have hbefore := hflowing.received
  rw [hgot, ← hafter, ← List.append_assoc] at hbefore
  exact (List.append_cancel_right hbefore).symm

/-- Where there is nothing more to read, nothing is read. -/
theorem read_of_finished {now : Clock} (h : d.stopped = true ∨ d.framers = []) :
    d.read now = d := by
  unfold read
  split
  · rename_i hstopped hframers
    rw [hstopped, hframers] at h
    rcases h with h | h <;> exact nomatch h
  · rfl

/-- One read of a driver. -/
theorem Standing.read (h : Standing specs stream closed d) (now : Clock) :
    Standing specs stream closed (d.read now) ∧ Advances specs stream closed d (d.read now) := by
  have hstreams := ScriptedSocket.streams stream closed
  cases h with
  | @between later hstopped hframers horderly hready hsegment =>
    cases later with
    | nil =>
      -- All frames have come.
      rw [read_of_finished (.inr hframers)]
      have hall : segment specs d.received d.ended = d.data := by
        have hnow := hsegment [] d.ended
        rw [List.append_nil] at hnow
        rw [hnow]
        exact List.append_nil _
      refine ⟨.between hstopped hframers horderly hready hsegment, ?_, .inr ?_⟩
      · exact data_eq_of_segment_eq hall (Nat.le_succ _)
      · rw [segment_stream hready.flowing hsegment]
        exact (List.append_nil _).symm
    | cons spec later =>
      have hread : d.read now = d.absorb (later.map FrameSpec.start)
          (d.client.readStream now spec.start .regular) := by
        simp only [Driver.read, hstopped, hframers, List.map_cons]
      obtain ⟨got, hgot, houtcome⟩ :=
        Client.outcome_readStream_start hstreams hready horderly.1 now
      rw [hread]
      refine Underway.absorb ⟨hstopped, hframers, horderly, fun more c => ?_⟩
        (received_of_outcome hready.flowing hgot houtcome) houtcome
      rw [List.append_assoc, hsegment, List.append_assoc]
  | @within spec later f s hstopped hframers horderly hready hawaits hwaiting hsegment =>
    have hread : d.read now = d.absorb (later.map FrameSpec.start)
        (d.client.readStream now f .regular) := by
      simp only [Driver.read, hstopped, hframers]
    obtain ⟨got, hgot, houtcome⟩ := Client.outcome_readStream hstreams hready hawaits now
    rw [hwaiting, List.append_nil] at houtcome
    rw [hread]
    refine Underway.absorb ⟨hstopped, hframers, horderly, fun more c => ?_⟩
      (received_of_outcome hready.flowing hgot houtcome) houtcome
    rw [List.append_assoc, hsegment, List.append_assoc]
  | finished hend hended hsegment =>
    rw [read_of_finished hend]
    exact finished_of_ended hend hended hsegment (Nat.le_succ _)

/-- What has been received is a beginning of the stream. -/
theorem Standing.prefix_received (h : Standing specs stream closed d) :
    d.received <+: stream := by
  cases h with
  | between _ _ _ hready _ => exact ⟨_, hready.flowing.received⟩
  | within _ _ _ hready _ _ _ => exact ⟨_, hready.flowing.received⟩
  | finished _ hended _ =>
    have hall : d.received = stream := hended.received
    rw [hall]

/-- The end is told behind the whole stream only. -/
theorem Standing.eq_of_ended (h : Standing specs stream closed d) (htold : d.ended = true) :
    d.received = stream ∧ closed = true := by
  have hflowing : ∀ r, ScriptedSocket.Flowing stream closed r → r.ended ≠ true := by
    intro r hr
    rw [hr.ended]
    exact Bool.false_ne_true
  cases h with
  | between _ _ _ hready _ => exact absurd htold (hflowing _ hready.flowing)
  | within _ _ _ hready _ _ _ => exact absurd htold (hflowing _ hready.flowing)
  | finished _ hended _ => exact ⟨hended.received, hended.closes⟩

/-- The frames so far are those that the whole stream begins with. -/
theorem Standing.prefix_data (h : Standing specs stream closed d) :
    d.data <+: segment specs stream closed := by
  cases h with
  | between _ _ _ hready hsegment =>
    rw [segment_stream hready.flowing hsegment]
    exact List.prefix_append _ _
  | within _ _ _ hready _ _ hsegment =>
    rw [segment_stream hready.flowing hsegment]
    exact List.prefix_append _ _
  | finished _ hended hsegment =>
    rw [hended.closes, hsegment]

/-- A read takes no frame away. -/
theorem prefix_data_read (d : Driver (Recorded ScriptedSocket)) (now : Clock) :
    d.data <+: (d.read now).data := by
  unfold read
  split
  · unfold absorb
    split
    · show d.frames.map Frame.data <+: (d.frames ++ _).map Frame.data
      rw [List.map_append]
      exact List.prefix_append _ _
    · exact List.prefix_refl _
  · exact List.prefix_refl _

/-- Once all the frames have come, no read changes them. -/
theorem Standing.data_read_of_eq (h : Standing specs stream closed d)
    (hall : d.data = segment specs stream closed) (now : Clock) :
    (d.read now).data = segment specs stream closed := by
  have hprefix := (h.read now).1.prefix_data
  refine hprefix.eq_of_length_le ?_
  rw [← hall]
  exact (d.prefix_data_read now).length_le

/-- Reads at any times. -/
theorem Standing.reads (h : Standing specs stream closed d) (times : List Clock) :
    Standing specs stream closed (d.reads times) := by
  induction times generalizing d with
  | nil => exact h
  | cons now times ih => exact ih (h.read now).1

/-- Enough reads get all the frames. -/
theorem Standing.data_reads (h : Standing specs stream closed d) (times : List Clock)
    (henough : d.rank ≤ times.length ∨ d.data = segment specs stream closed) :
    (d.reads times).data = segment specs stream closed := by
  induction times generalizing d with
  | nil =>
    rcases henough with hrank | hall
    · -- There is no framer left.
      have hframers : d.framers = [] := by
        rw [rank, List.length_nil] at hrank
        exact List.eq_nil_of_length_eq_zero (by omega)
      have hidle := (h.read .zero).2.progress
      rw [read_of_finished (.inr hframers)] at hidle
      exact hidle.resolve_left (Nat.lt_irrefl _)
    · exact hall
  | cons now times ih =>
    obtain ⟨hstanding, hadvances⟩ := h.read now
    refine ih hstanding ?_
    rcases henough with hrank | hall
    · rcases hadvances.progress with hless | hall
      · left
        rw [List.length_cons] at hrank
        omega
      · exact .inr hall
    · exact .inr (h.data_read_of_eq hall now)

end Recorded

/-! ## Runs of the bare socket -/

section Views

variable {σ τ : Type} [Endpoint σ] [Endpoint τ]

/-- The driver of the client on another socket. -/
def mapSocket {σ τ : Type} (g : τ → σ) (d : Driver τ) : Driver σ :=
  { d with client := d.client.mapSocket g }

omit [Endpoint σ] [Endpoint τ] in
/-- What the driver makes of an answer does not depend on the view. -/
theorem absorb_mapSocket (g : τ → σ) (d : Driver τ) (later : List Standard)
    (r : Client.Answer τ (Incoming τ) × Standard) :
    (d.mapSocket g).absorb later (Client.viewRead g id r) = (d.absorb later r).mapSocket g := by
  obtain ⟨⟨answer, c⟩, f⟩ := r
  cases answer with
  | ok incoming => cases incoming <;> rfl
  | error e => cases e <;> rfl

/-- A driver does not see a view. -/
theorem read_mapSocket {g : τ → σ} (hg : Endpoint.IsView g) (d : Driver τ) (now : Clock) :
    (d.mapSocket g).read now = (d.read now).mapSocket g := by
  have hid : Framer.IsView (id : Standard → Standard) :=
    ⟨fun _ _ _ => rfl, fun _ => rfl, fun _ => rfl, fun _ => rfl⟩
  obtain ⟨c, framers, frames, stopped⟩ := d
  cases stopped with
  | true => rfl
  | false =>
    cases framers with
    | nil => rfl
    | cons f later =>
      -- Beyond the end of the list nothing is read; before it, the read does not see the view
      have hview := Client.readStream_mapSocket hg hid c now f .regular
      show (mapSocket g ⟨c, f :: later, frames, false⟩).absorb later
        ((c.mapSocket g).readStream now (id f) .regular) = _
      rw [hview]
      exact absorb_mapSocket g _ later _

/-- `reads` on a socket are those on one that is a view of it. -/
theorem reads_mapSocket {g : τ → σ} (hg : Endpoint.IsView g) (d : Driver τ)
    (times : List Clock) : (d.mapSocket g).reads times = (d.reads times).mapSocket g := by
  induction times generalizing d with
  | nil => rfl
  | cons now times ih =>
    show ((d.mapSocket g).read now).reads times = ((d.read now).reads times).mapSocket g
    rw [d.read_mapSocket hg, ih]

end Views

/-- A stream that is read frame by frame comes to its segmentation.  After any number of
    reads, the next one gets the next frame exactly if that frame is in the segmentation
    of what has been received by then; and reads enough get all the frames of the stream.
    What is received is on record in a run `d` that differs from the run of the bare
    socket in nothing else. -/
theorem frames_reads_eq_segment (c : Client ScriptedSocket) (specs : List FrameSpec)
    (times : List Clock) (hconnected : c.isConnected = true)
    (hunwatched : c.receiveWatch = none) (hasks : 0 < c.bufferSize)
    (hempty : c.waiting .regular = []) (hstream : ScriptedSocket.IsStream c.socket.rx)
    (horderly : FrameSpec.Orderly specs) :
    let stream := ScriptedSocket.upcoming c.socket.rx
    let closed := ScriptedSocket.closes c.socket.rx
    let d := (start (c.mapSocket Recorded.start) specs).reads times
    d.mapSocket Recorded.socket = (start c specs).reads times ∧
      d.received <+: stream ∧ (d.ended = true → d.received = stream ∧ closed = true) ∧
      (∀ now, let d' := d.read now
        d'.data = (FrameSpec.segment specs d'.received d'.ended).take (d.data.length + 1)) ∧
      (Endpoint.supply c.socket + specs.length ≤ times.length →
        d.data = FrameSpec.segment specs stream closed) := by
  intro stream closed d
  -- Nothing has been received, so the whole of the stream is before the driver
  have hstart : Standing specs stream closed (start (c.mapSocket Recorded.start) specs) := by
    refine .between rfl rfl horderly ⟨hconnected, hunwatched, hasks, ?_⟩ fun more c' => ?_
    · exact ⟨hstream, rfl, rfl, rfl⟩
    · show FrameSpec.segment specs ([] ++ more) c' =
        [] ++ FrameSpec.segment specs (c.waiting .regular ++ more) c'
      rw [hempty]
      rfl
  have hd : Standing specs stream closed d := hstart.reads times
  refine ⟨?_, hd.prefix_received, hd.eq_of_ended, fun now => (hd.read now).2.data_eq,
    fun henough => ?_⟩
  · exact ((start (c.mapSocket Recorded.start) specs).reads_mapSocket Recorded.isView times).symm
  · refine hstart.data_reads times (.inl ?_)
    rw [rank]
    show Endpoint.supply c.socket + (specs.map FrameSpec.start).length ≤ times.length
    rw [List.length_map]
    exact henough

/-- Three frames come from two portions, an interruption and an end: two bytes, none, and
    the rest up to the end. -/
theorem frames_reads_eq_segment_scripted :
    let socket : ScriptedSocket :=
      { id := ⟨1⟩, transport := .tcp, peer := .ok (some "peer"),
        rx := [.data [1, 2, 3] none, .fails (.bare .interrupted), .data [4] none, .closed] }
    let c := ((Client.make .stream socket {} .zero).ensureConnected .zero).2
    let specs : List FrameSpec := [.fixedLength 2, .noData, .untilClose]
    c.isConnected = true ∧ c.receiveWatch = none ∧ 0 < c.bufferSize ∧
      c.waiting .regular = [] ∧ ScriptedSocket.IsStream c.socket.rx ∧
      FrameSpec.Orderly specs ∧
      ((start c specs).reads (List.replicate 11 .zero)).data = [[1, 2], [], [3, 4]] := by
  intro socket c specs
  have hasks : 0 < c.bufferSize := by decide
  have hstream : ScriptedSocket.IsStream c.socket.rx :=
    ⟨by decide, .inr (by decide), by decide, rfl⟩
  -- The frame that only the end of the stream cuts comes last
  have horderly : FrameSpec.Orderly specs :=
    ⟨trivial, nofun, trivial, nofun, trivial, fun _ => rfl, trivial⟩
  obtain ⟨hbare, _, _, _, hall⟩ := frames_reads_eq_segment c specs (List.replicate 11 .zero)
    rfl rfl hasks rfl hstream horderly
  refine ⟨rfl, rfl, hasks, rfl, hstream, horderly, ?_⟩
  rw [← hbare]
  exact (hall (by decide)).trans (by decide)

end Driver

end FrameSocket
