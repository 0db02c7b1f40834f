import FrameSocket.Proofs.Bookkeeping
import FrameSocket.Proofs.Sides
import FrameSocket.Proofs.Views
import FrameSocket.Socket.Scripted

/-!
# Interrupted sends

A signal may cut a sending call short before it does anything.  `Interrupting` puts any
finite plan of such interruptions in front of the sends of a socket, so a client over it
sees what a client over the socket itself sees, with interruptions anywhere in between.

The sending loop of a stream and the sending of a datagram make an interrupted call again,
and nobody can tell that there was an interruption.  The urgent bytes and the empty write
of a stream do not: the first interruption that meets one of their calls is the error that
the write answers.

## Key results

- `Interrupting.hides`: the loops that make an interrupted call again do not see the plan
- `sendUrgent_unseen_or_due` / `sendUrgent_of_due`: what an interruption is to urgent bytes
- `Meets.writeStream_eq` / `writeStream_unseen`: what it is to a write
- `interrupted_write`: interruptions in front of a write
- `urgent_write_interrupted`: one interruption that the caller gets to see
-/

namespace FrameSocket

/-- An error which says that a signal cut the call short. -/
abbrev Interruption := { e : IoError // e.isInterrupted = true }

/-- A socket with a plan for its sends: the interruption that each call meets, or none where
    it reaches the socket.  Calls past the end of the plan reach the socket. -/
structure Interrupting (σ : Type) where
  socket : σ
  plan : List (Option Interruption)

namespace Interrupting

variable {σ : Type} [Endpoint σ]

/-- The answer of a call that reaches the socket. -/
def passed {α : Type} (plan : List (Option Interruption)) (r : α × σ) : α × Interrupting σ :=
  (r.1, ⟨r.2, plan⟩)

/-- Interrupts the call, if the plan says so, and passes it on otherwise. -/
def send (s : Interrupting σ) (ch : Channel) (data : Bytes) :
    Except IoError Nat × Interrupting σ :=
  match s.plan with
  | some e :: plan => (.error e, { s with plan })
  | _ => passed s.plan.tail (Endpoint.send s.socket ch data)

/-- A `send` that is to be interrupted uses up a step of the plan, and nothing else. -/
theorem send_due {s : Interrupting σ} {e : Interruption} {plan : List (Option Interruption)}
    (hplan : s.plan = some e :: plan) (ch : Channel) (data : Bytes) :
    s.send ch data = (.error e.1, { s with plan }) := by
  rw [send, hplan]

/-- Either an interruption is due, or the call reaches the socket. -/
theorem due_or_passed (s : Interrupting σ) (ch : Channel) (data : Bytes) :
    (∃ e plan, s.plan = some e :: plan) ∨
      s.send ch data = passed s.plan.tail (Endpoint.send s.socket ch data) := by
  rw [send]
  split
  · rename_i e plan hplan
    exact .inl ⟨e, plan, hplan⟩
  · exact .inr rfl

/-- An interruption uses up a part of the plan, or comes from the socket itself. -/
theorem patience_send (s : Interrupting σ) (ch : Channel) (data : Bytes) (e : IoError)
    (h : (s.send ch data).1 = .error e) (hi : e.isInterrupted = true) :
    (s.send ch data).2.plan.length + Endpoint.patience (s.send ch data).2.socket <
      s.plan.length + Endpoint.patience s.socket := by
  rcases s.due_or_passed ch data with ⟨e', plan, hplan⟩ | hsend
  · rw [send_due hplan, hplan]
    simp
  · rw [hsend] at h ⊢
    have hless := Endpoint.patience_send_interrupted s.socket ch data e h hi
    have hplan : s.plan.tail.length ≤ s.plan.length := by simp
    exact Nat.add_lt_add_of_le_of_lt hplan hless

instance : Endpoint (Interrupting σ) where
  id s := Endpoint.id s.socket
  transport s := Endpoint.transport s.socket
  remoteAddress s := passed s.plan (Endpoint.remoteAddress s.socket)
  takeError s := passed s.plan (Endpoint.takeError s.socket)
  recv s ch n := passed s.plan (Endpoint.recv s.socket ch n)
  recvFrom s n := passed s.plan (Endpoint.recvFrom s.socket n)
  peek s ch := passed s.plan (Endpoint.peek s.socket ch)
  send := send
  supply s := Endpoint.supply s.socket
  patience s := s.plan.length + Endpoint.patience s.socket
  length_recv s := Endpoint.length_recv s.socket
  supply_recv_le s := Endpoint.supply_recv_le s.socket
  supply_recv_data s := Endpoint.supply_recv_data s.socket
  supply_recv_interrupted s := Endpoint.supply_recv_interrupted s.socket
  length_recvFrom s := Endpoint.length_recvFrom s.socket
  supply_recvFrom_interrupted s := Endpoint.supply_recvFrom_interrupted s.socket
  supply_peek_le s := Endpoint.supply_peek_le s.socket
  send_le_length s ch data n h := by
    rcases s.due_or_passed ch data with ⟨e, plan, hplan⟩ | hsend
    · rw [send_due hplan] at h
      cases h
    · rw [hsend] at h
      exact Endpoint.send_le_length s.socket ch data n h
  patience_send_interrupted := patience_send

/-- The planned interruptions are all that the socket does not see. -/
theorem hides : Endpoint.HidesInterruptions (Interrupting.socket (σ := σ)) where
  id_view _ := rfl
  transport_view _ := rfl
  remoteAddress_view _ := rfl
  takeError_view _ := rfl
  send_hides {s s' ch data answer} h := by
    rcases s.due_or_passed ch data with ⟨e, plan, hplan⟩ | hsend
    · cases h.symm.trans (send_due hplan ch data)
      exact .inr ⟨e.1, rfl, e.2, rfl⟩
    · cases h.symm.trans hsend
      exact .inl rfl

end Interrupting

namespace Client

variable {σ : Type} [Endpoint σ]

/-- The client once the plan has gone on. -/
def skipTo (c : Client (Interrupting σ)) (plan : List (Option Interruption)) :
    Client (Interrupting σ) :=
  c.mapSocket fun s => { s with plan }

/-- A planned interruption meets a call that the write does not make again.  `d` is the client
    after that call. -/
inductive Meets (c : Client (Interrupting σ)) (now : Clock) (data : Bytes) :
    Channel → Interruption → Client (Interrupting σ) → Prop
  /-- The call that looks whether the connection still stands. -/
  | probe {c₁ : Client (Interrupting σ)} {e : Interruption} {plan : List (Option Interruption)}
      (hensured : c.ensureConnected now.first = (.ok true, c₁)) (hempty : data = [])
      (hplan : c₁.socket.plan = some e :: plan) :
      Meets c now data .regular e ((c₁.anchorSend now.first).skipTo plan)
  /-- The call that sends the urgent byte behind the first `k`. -/
  | urgent {c₁ c₂ : Client (Interrupting σ)} {e : Interruption}
      {plan : List (Option Interruption)} {k : Nat}
      (hchannel : c.checkChannel .urgent = .ok ())
      (hsize : c.checkUrgentSize .urgent data = .ok ())
      (hensured : c.ensureConnected now.first = (.ok true, c₁)) (hk : k < data.length)
      (hsent : (c₁.anchorSend now.first).sendUrgent 0 (data.take k) = (.ok k, c₂))
      (hplan : c₂.socket.plan = some e :: plan) : Meets c now data .urgent e (c₂.skipTo plan)

/-- An interruption that is not handled is a failed send, of a client that stays as it was. -/
theorem sendError_interruption (c : Client σ) (e : Interruption) :
    c.sendError e.1 = (.sendFailed c.address e.1, c) := by
  rw [sendError, IoError.isConnectionGone_of_isInterrupted e.2]
  rfl

/-! ## Urgent bytes -/

/-- Either the urgent bytes go out as if there were no plan, or an interruption is due behind
    the first `k`. -/
theorem sendUrgent_unseen_or_due (c : Client (Interrupting σ)) (sent : Nat) (data : Bytes) :
    (c.mapSocket Interrupting.socket).sendUrgent sent data =
        (c.sendUrgent sent data).mapSocket Interrupting.socket ∨
      ∃ k, k < data.length ∧ ∃ c' e plan,
        c.sendUrgent sent (data.take k) = (.ok (sent + k), c') ∧
        c'.socket.plan = some e :: plan := by
  induction data generalizing c sent with
  | nil => exact .inl rfl
  | cons b rest ih =>
    rcases c.socket.due_or_passed .urgent [b] with ⟨e, plan, hplan⟩ | hpassed
    · -- the first byte meets the interruption, so nothing has been sent
      exact .inr ⟨0, Nat.zero_lt_succ _, c, e, plan, rfl, hplan⟩
    · rcases hsend : Endpoint.send c.socket .urgent [b] with ⟨answer, s⟩
      have hseen : Endpoint.send c.socket.socket .urgent [b] = (answer, s.socket) := by
        cases hsend.symm.trans hpassed
        rfl
      have hcons := @sendUrgent_cons_mapSocket _ _ _ _ _ Interrupting.hides.toIsOutline c answer s b
        sent rest hsend hseen
      by_cases hgoes : ∃ n, answer = .ok (n + 1)
      · obtain ⟨n, rfl⟩ := hgoes
        rcases ih { c with socket := s } (sent + 1) with hunseen | ⟨k, hk, c', e, plan, hk', hplan⟩
        · exact .inl (hcons fun _ _ => hunseen)
        · have htake : c.sendUrgent sent ((b :: rest).take (k + 1)) =
              (.ok (sent + (k + 1)), c') := by
            rw [List.take_succ_cons, sendUrgent_ok sent _ hsend, if_neg (Nat.succ_ne_zero n), hk',
              Nat.add_assoc, Nat.add_comm 1]
          exact .inr ⟨k + 1, Nat.succ_lt_succ hk, c', e, plan, htake, hplan⟩
      · -- the loop ends with this turn
        exact .inl (hcons fun n hn => absurd ⟨n, hn⟩ hgoes)

/-- An interruption that is due where urgent bytes are sent is their error. -/
theorem sendUrgent_of_due {c : Client (Interrupting σ)} {e : Interruption}
    {plan : List (Option Interruption)} (hplan : c.socket.plan = some e :: plan) {data : Bytes}
    (hne : data ≠ []) (sent : Nat) :
    c.sendUrgent sent data = (.error (.sendFailed c.address e.1), c.skipTo plan) := by
  cases data with
  | nil => exact absurd rfl hne
  | cons b rest =>
    have hsend : Endpoint.send c.socket .urgent [b] = (.error e.1, { c.socket with plan }) :=
      Interrupting.send_due hplan .urgent [b]
    -- An interruption is no reason to wait, so the write fails
    have hblocked : e.1.isBlocked = false := IoError.isBlocked_of_isInterrupted e.2
    rw [sendUrgent_error sent rest hsend, hblocked, sendError_interruption]
    rfl

/-! ## The empty write -/

/-- `probe` on the interrupting socket is the one on the socket behind it, or it is to be
    interrupted. -/
theorem probe_unseen_or_due (c : Client (Interrupting σ)) :
    (c.mapSocket Interrupting.socket).probe = c.probe.mapSocket Interrupting.socket ∨
      ∃ e plan, c.socket.plan = some e :: plan := by
  rcases c.socket.due_or_passed .regular [] with hdue | hpassed
  · exact .inr hdue
  · exact .inl (probe_mapSocket_of Interrupting.hides.toIsOutline hpassed rfl)

/-- A `probe` that is to be interrupted fails with the interruption. -/
theorem probe_of_due {c : Client (Interrupting σ)} {e : Interruption}
    {plan : List (Option Interruption)} (hplan : c.socket.plan = some e :: plan) :
    c.probe = (.error (.sendFailed c.address e.1), c.skipTo plan) := by
  have hsend : Endpoint.send c.socket .regular [] = (.error e.1, { c.socket with plan }) :=
    Interrupting.send_due hplan .regular []
  have hblocked : e.1.isBlocked = false := IoError.isBlocked_of_isInterrupted e.2
  simp only [probe, hsend, hblocked, sendError_interruption, Bool.false_eq_true, if_false]
  rfl

/-! ## Writes -/

/-- A planned interruption that meets a call which is not made again is the write's error. -/
theorem Meets.writeStream_eq {c d : Client (Interrupting σ)} {now : Clock} {data : Bytes}
    {ch : Channel} {e : Interruption} (h : c.Meets now data ch e d) :
    c.writeStream now data ch = (.error (.sendFailed d.address e.1), d) := by
  cases h with
  | probe hensured hempty hplan =>
    simp only [writeStream, checkChannel, hensured, hempty, List.isEmpty_nil, if_true]
    exact probe_of_due hplan
  | @urgent c₁ c₂ e plan k hchannel hsize hensured hk hsent hplan =>
    have hrest : data.drop k ≠ [] := by simpa using hk
    -- The bytes before the interruption have gone out, and the rest begins with it
    have hloop : (c₁.anchorSend now.first).sendUrgent 0 data =
        (.error (.sendFailed c₂.address e.1), c₂.skipTo plan) := by
      rw [sendUrgent_drop (Nat.le_of_lt hk) (by simpa using hsent)]
      exact sendUrgent_of_due hplan hrest _
    simp only [writeStream, hchannel, hsize, hensured, hloop]
    rfl

/-- A write that no interruption meets in such a call goes as if there were no plan. -/
theorem writeStream_unseen {c : Client (Interrupting σ)} {now : Clock} {data : Bytes}
    {ch : Channel} (h : ∀ e d, ¬ c.Meets now data ch e d) :
    (c.mapSocket Interrupting.socket).writeStream now data ch =
      (c.writeStream now data ch).mapSocket Interrupting.socket := by
  refine writeStream_mapSocket_of Interrupting.hides ?_ ?_
  · rintro rfl hchannel hsize c₁ hensured
    -- An interruption that is seen would be met
    rcases sendUrgent_unseen_or_due (c₁.anchorSend now.first) 0 data with
      hunseen | ⟨k, hk, c₂, e, plan, hsent, hplan⟩
    · exact hunseen
    · rw [Nat.zero_add] at hsent
      exact absurd (.urgent hchannel hsize hensured hk hsent hplan) (h e _)
  · rintro rfl hempty c₁ hensured
    rcases probe_unseen_or_due (c₁.anchorSend now.first) with hunseen | ⟨e, plan, hplan⟩
    · exact hunseen
    · exact absurd (.probe hensured hempty hplan) (h e _)

/-! ## Answers that show an interruption -/

/-- Whether an answer shows the caller an interruption. -/
def showsInterruption : Except NetworkError Nat → Bool
  | .error (.sendFailed _ e) => e.isInterrupted
  | _ => false

/-- `sendError` shows an interruption only for one. -/
theorem not_shows_sendError (c : Client σ) {e : IoError} (h : ¬ e.isInterrupted = true) :
    showsInterruption (.error (c.sendError e).1) = false := by
  unfold sendError
  split
  · rfl
  · exact Bool.eq_false_iff.mpr h

/-- `stalled` shows no interruption. -/
theorem not_shows_stalled (c : Client σ) (reason : String) :
    showsInterruption (c.stalled reason).1 = false := by
  unfold stalled
  dsimp only
  split <;> rfl

omit [Endpoint σ] in
/-- The alarm of `trackSend` is no interruption. -/
theorem not_shows_trackSend {c c' : Client σ} {now : Duration} {n : Nat} {e : NetworkError}
    (h : c.trackSend now n = (.error e, c')) : showsInterruption (.error e) = false := by
  unfold trackSend at h
  split at h
  · cases h
  · dsimp only at h
    split at h <;> cases h
    rfl

/-- `sendAll` tries again when it is interrupted. -/
theorem not_shows_sendAll (c : Client σ) (now : Clock) (written : Nat) (data : Bytes) :
    showsInterruption (c.sendAll now written data).1 = false := by
  fun_induction sendAll c now written data with
  | case1 c now written => rfl
  | case2 c now written b rest s _ => rfl
  | case3 c now written b rest n s _ e c' htrack => exact not_shows_trackSend htrack
  | case4 c now written b rest n s _ c' _ ih => exact ih
  | case5 c now written b rest e s _ _ => rfl
  | case6 c now written b rest e s _ _ _ ih => exact ih
  | case7 c now written b rest e s _ _ hinterrupted =>
    exact not_shows_sendError { c with socket := s } hinterrupted

/-- `sendDatagram` tries again when it is interrupted. -/
theorem not_shows_sendDatagram (c : Client σ) (now : Duration) (data : Bytes) :
    showsInterruption (c.sendDatagram now data).1 = false := by
  fun_induction sendDatagram c now data with
  | case1 c sent s _ c₁ _ e c₂ htrack => exact not_shows_trackSend htrack
  | case2 c sent s _ c₁ _ c₂ _ => rfl
  | case3 c sent s _ c₁ _ => exact not_shows_stalled c₁ _
  | case4 c e s _ c₁ _ => exact not_shows_stalled c₁ _
  | case5 c e s _ c₁ _ _ ih => exact ih
  | case6 c e s _ c₁ _ hinterrupted => exact not_shows_sendError c₁ hinterrupted

/-- `writeOutcome` shows no interruption. -/
theorem not_shows_writeOutcome (c : Client σ) (written length : Nat) :
    showsInterruption (c.writeOutcome written length).1 = false := by
  unfold writeOutcome
  split
  · rfl
  · split
    · exact not_shows_stalled c _
    · rfl

/-- A datagram, and data that a stream sends on the regular channel, is sent again after every
    interruption, the socket's own ones included. -/
theorem not_shows_write {kind : ClientKind} {ch : Channel} {data : Bytes}
    (h : kind = .datagram ∨ ch = .regular ∧ data ≠ []) (c : Client σ) (now : Clock) :
    showsInterruption (c.write kind now data ch).1 = false := by
  cases kind with
  | datagram =>
    show showsInterruption (c.writeDatagram now data ch).1 = false
    unfold writeDatagram
    split
    · rfl
    · dsimp only
      split
      · rfl
      · exact not_shows_sendDatagram _ now.later.first data
  | stream =>
    obtain ⟨rfl, hne⟩ := h.resolve_left nofun
    show showsInterruption (c.writeStream now data .regular).1 = false
    -- One case for each way in which a write to a stream ends
    have hwrites := writes_writeStream c now data .regular
    generalize c.writeStream now data .regular = w at hwrites
    cases hwrites with
    | refused hrefused =>
      obtain ⟨what, rfl⟩ := exists_unsupported_of_refused hrefused
      rfl
    | failed hensured =>
      exact error_of_ensureConnected (p := fun e => showsInterruption (.error e)) hensured
        (fun _ _ => rfl) (fun _ => rfl) fun _ => rfl
    | waiting _ => rfl
    | probed _ hempty => exact absurd hempty hne
    | @regularFailed c₁ _ _ _ _ hsend =>
      have hloop := not_shows_sendAll (c₁.anchorSend now.first) now.later 0 data
      rw [hsend] at hloop
      exact hloop
    | regular _ _ _ => exact not_shows_writeOutcome _ _ _

/-- Interruptions in front of the sends of a write, as many as one likes and wherever one
    likes.  A datagram, and data that a stream sends on the regular channel, has the same answer
    and leaves the same client and the same socket as without them, and never shows the caller
    an interruption.  So does an urgent or an empty write of a stream, unless an interruption
    meets one of its calls: then that interruption is its error, and the client is as the calls
    before it left it. -/
theorem interrupted_write (kind : ClientKind) (c : Client (Interrupting σ)) (now : Clock)
    (data : Bytes) (ch : Channel) :
    (kind = .datagram ∨ ch = .regular ∧ data ≠ [] →
      (c.write kind now data ch).mapSocket Interrupting.socket =
        (c.mapSocket Interrupting.socket).write kind now data ch ∧
      showsInterruption (c.write kind now data ch).1 = false) ∧
    ((∀ e d, ¬ c.Meets now data ch e d) →
      (c.write kind now data ch).mapSocket Interrupting.socket =
        (c.mapSocket Interrupting.socket).write kind now data ch) ∧
    (∀ e d, c.Meets now data ch e d →
      c.write .stream now data ch = (.error (.sendFailed d.address e.1), d)) := by
  have hunseen : kind = .datagram ∨ (∀ e d, ¬ c.Meets now data ch e d) →
      (c.write kind now data ch).mapSocket Interrupting.socket =
        (c.mapSocket Interrupting.socket).write kind now data ch := by
    intro h
    cases kind with
    | datagram => exact (writeDatagram_mapSocket Interrupting.hides c now data ch).symm
    | stream => exact (writeStream_unseen (h.resolve_left nofun)).symm
  refine ⟨fun h => ⟨hunseen (h.imp_right ?_), not_shows_write h c now⟩, fun h => hunseen (.inr h),
    fun e d h => h.writeStream_eq⟩
  -- Regular data has no call that an interruption could meet
  rintro ⟨rfl, hne⟩ e d (⟨_, hempty, _⟩ | _)
  exact hne hempty

/-- A connected client without floors, the next send of which is interrupted.  One urgent byte
    is not sent and an empty write fails, where the same writes succeed without the
    interruption. -/
theorem urgent_write_interrupted :
    let socket : ScriptedSocket :=
      { id := ⟨1⟩, transport := .tcp, peer := .ok (some "10.0.0.2:4000") }
    let start := ((make .stream socket Config.default .zero).write .stream .zero [] .regular).2
    let interruption : Interruption := ⟨.bare .interrupted, rfl⟩
    let cut := start.mapSocket fun s => (⟨s, [some interruption]⟩ : Interrupting ScriptedSocket)
    (start.isConnected = true ∧ start.sendWatch.isNone = true ∧ start.receiveWatch.isNone = true) ∧
    ((start.write .stream .zero [0x61] .urgent).1 = .ok 1 ∧
      (start.write .stream .zero [0x61] .urgent).2.socket.sentUrgent = [0x61]) ∧
    ((cut.write .stream .zero [0x61] .urgent).1 =
        .error (.sendFailed "10.0.0.2:4000" (.bare .interrupted)) ∧
      (cut.write .stream .zero [0x61] .urgent).2.socket.socket.sentUrgent = []) ∧
    ((start.write .stream .zero [] .regular).1 = .ok 0 ∧
      (cut.write .stream .zero [] .regular).1 =
        .error (.sendFailed "10.0.0.2:4000" (.bare .interrupted))) := by
  intro socket start interruption cut
  exact ⟨⟨rfl, rfl, rfl⟩, ⟨rfl, rfl⟩, ⟨rfl, rfl⟩, rfl, rfl⟩

end Client

end FrameSocket
