import FrameSocket.Host.Basic

/-!
# Receiving, and asking a socket about itself

The calls of a host that concern one socket, each with the faults that were
planted for it.

Only a fault interrupts a call.  Hence the two bounds that callers rely on: a
receiving call that brings bytes or is interrupted lowers `supplyOf`, and none
raises it.
-/

namespace FrameSocket.Host

/-- Receives at most `n` bytes. -/
def recv (h : Host) (d : Nat) (ch : Channel) (n : Nat) : Reply Bytes :=
  h.unlessFault .recv fun h => h.on d (·.recv ch n)

/-- How many bytes, at most one, a receiving call would find. -/
def peek (h : Host) (d : Nat) (ch : Channel) : Reply Nat :=
  h.unlessFault .peek fun h => h.on d (·.peek ch)

/-- Receives at most `n` bytes, and says who sent them. -/
def recvFrom (h : Host) (d : Nat) (n : Nat) : Reply (Bytes × Address) :=
  let reply := h.unlessFault .recvFrom fun h => h.on d (·.recvFrom n)
  if (h.takeFault .recvFrom).1 = some .unknownSender then
    (reply.1.map fun got => (got.1, .unnamed), reply.2)
  else reply

/-- Who sent what a receiving call would find. -/
def peekFrom (h : Host) (d : Nat) : Reply Address :=
  let reply := h.unlessFault .peekFrom fun h => h.on d (·.peekFrom)
  if (h.takeFault .peekFrom).1 = some .unknownSender then
    (reply.1.map fun _ => .unnamed, reply.2)
  else reply

/-- The name of the socket at the other end. -/
def peerName (h : Host) (d : Nat) : Reply Address :=
  h.unlessFault .peerName fun h => h.on d fun s => (s.peerName, s)

/-- The name of a socket. -/
def localName (h : Host) (d : Nat) : Reply Address :=
  h.unlessFault .localName fun h => h.on d fun s => (.ok s.name, s)

/-- Takes the pending error of a socket. -/
def takeError (h : Host) (d : Nat) : Reply (Option Errno) :=
  h.unlessFault .askError fun h =>
    match h.takeFault .pendingError with
    | (some (.fails e), h) => (.ok (some e), h)
    | (_, h) => h.on d fun s => (.ok s.takeError.1, s.takeError.2)

/-! ## Bounds -/

/-- `Host.takeFault` takes away the fault that it answers, and no other. -/
theorem faults_takeFault (h : Host) (call : Call) :
    (h.takeFault call).2.faults.length + (h.takeFault call).1.toList.length
      = h.faults.length :=
  length_takeFault call h.faults

/-- Faults have no part in the stock. -/
@[simp] theorem stockOf_takeFault (h : Host) (call : Call) (d : Nat) :
    (h.takeFault call).2.stockOf d = h.stockOf d := rfl

/-- What holds of a planted failure and of the call holds of both. -/
theorem unlessFault_cases {α : Type} (h : Host) (call : Call) (run : Host → Reply α) :
    (∃ e, (h.takeFault call).1 = some (.fails e)
        ∧ h.unlessFault call run = (.error e, (h.takeFault call).2))
      ∨ h.unlessFault call run = run (h.takeFault call).2 := by
  unfold unlessFault
  split
  · rename_i e he
    exact .inl ⟨e, he, rfl⟩
  · exact .inr rfl

/-- A call on one socket that does not raise its stock does not raise what
faults and stock together can bring. -/
theorem supplyOf_le {α : Type} (h : Host) (call : Call) (d : Nat)
    (f : OsSocket → Except Errno α × OsSocket) (hf : ∀ s, (f s).2.stock ≤ s.stock) :
    (h.unlessFault call fun h => h.on d f).2.supplyOf d ≤ h.supplyOf d := by
  have hl := h.faults_takeFault call
  -- A planned fault is used up; otherwise the call is made, and uses up what it brings
  rcases h.unlessFault_cases call (fun h => h.on d f) with ⟨e, _, he⟩ | he
  · rw [he]
    simp only [supplyOf, stockOf_takeFault]
    omega
  · rw [he]
    have := (h.takeFault call).2.stockOf_on_le d f hf
    rw [stockOf_takeFault] at this
    simp only [supplyOf, faults_on]
    omega

/-- Such a call lowers them when a fault interrupts it. -/
theorem supplyOf_lt_of_interrupted {α : Type} (h : Host) (call : Call) (d : Nat)
    (f : OsSocket → Except Errno α × OsSocket)
    (hn : ∀ s, (f s).1 ≠ .error .eintr)
    (he : (h.unlessFault call fun h => h.on d f).1 = .error .eintr) :
    (h.unlessFault call fun h => h.on d f).2.supplyOf d < h.supplyOf d := by
  have hl := h.faults_takeFault call
  rcases h.unlessFault_cases call (fun h => h.on d f) with ⟨e, hs, hr⟩ | hr
  · -- the call met a fault, and used it up
    rw [hr]
    rw [hs] at hl
    simp only [Option.toList_some, List.length_singleton] at hl
    simp only [supplyOf, stockOf_takeFault]
    omega
  · -- no fault was there, and the socket does not answer so
    rw [hr] at he
    rcases on_cases (h.takeFault call).2 d f with ⟨_, ho⟩ | ⟨s, _, ho, _⟩
    · rw [ho] at he
      exact nomatch he
    · rw [ho] at he
      exact absurd he (hn s)

/-- `recv` adds nothing to the supply. -/
theorem supplyOf_recv_le (h : Host) (d : Nat) (ch : Channel) (n : Nat) :
    (h.recv d ch n).2.supplyOf d ≤ h.supplyOf d :=
  supplyOf_le h .recv d _ fun s => s.stock_recv_le ch n

/-- An interrupted `recv` has used up a fault. -/
theorem supplyOf_recv_interrupted {h : Host} {d : Nat} {ch : Channel} {n : Nat}
    (he : (h.recv d ch n).1 = .error .eintr) : (h.recv d ch n).2.supplyOf d < h.supplyOf d :=
  supplyOf_lt_of_interrupted h .recv d _ (fun s => s.recv_ne_eintr ch n) he

/-- What `recv` brings comes from the socket that the descriptor leads to. -/
theorem recv_eq_ok {h : Host} {d : Nat} {ch : Channel} {n : Nat} {data : Bytes}
    (he : (h.recv d ch n).1 = .ok data) :
    ∃ s, h.lookup? d = some s ∧ (s.recv ch n).1 = .ok data
      ∧ (h.recv d ch n).2.lookup? d = some (s.recv ch n).2
      ∧ (h.recv d ch n).2.faults = (h.takeFault .recv).2.faults := by
  unfold recv at he ⊢
  rcases h.unlessFault_cases .recv (fun h => h.on d (·.recv ch n)) with ⟨e, _, hr⟩ | hr
  · rw [hr] at he
    exact nomatch he
  · -- no fault: the socket answers, if there is one
    rw [hr] at he ⊢
    rcases on_cases (h.takeFault .recv).2 d (·.recv ch n) with ⟨_, ho⟩ | ⟨s, hs, ho, hl⟩
    · rw [ho] at he
      exact nomatch he
    · exact ⟨s, hs, by rw [← ho]; exact he, hl, faults_on _ _ _⟩

/-- What `recv` brings is taken from the supply. -/
theorem supplyOf_recv_data {h : Host} {d : Nat} {ch : Channel} {n : Nat} {data : Bytes}
    (he : (h.recv d ch n).1 = .ok data) (hn : data ≠ []) :
    (h.recv d ch n).2.supplyOf d < h.supplyOf d := by
  obtain ⟨s, hs, ho, hl, hf⟩ := recv_eq_ok he
  have := OsSocket.stock_recv_data ho hn
  have hc := h.faults_takeFault .recv
  simp only [supplyOf, stockOf_eq_of_lookup? hl, stockOf_eq_of_lookup? hs, hf]
  omega

/-- `recv` keeps to the size that it is given. -/
theorem length_recv {h : Host} {d : Nat} {ch : Channel} {n : Nat} {data : Bytes}
    (he : (h.recv d ch n).1 = .ok data) : data.length ≤ n := by
  obtain ⟨s, _, ho, _, _⟩ := recv_eq_ok he
  exact OsSocket.length_recv ho

/-- `peek` adds nothing to the supply. -/
theorem supplyOf_peek_le (h : Host) (d : Nat) (ch : Channel) :
    (h.peek d ch).2.supplyOf d ≤ h.supplyOf d :=
  supplyOf_le h .peek d _ fun s => Nat.le_of_eq (s.stock_peek ch)

/-- Naming the sender, `recvFrom` changes its answer only. -/
theorem snd_recvFrom (h : Host) (d : Nat) (n : Nat) :
    (h.recvFrom d n).2 = (h.unlessFault .recvFrom fun h => h.on d (·.recvFrom n)).2 := by
  unfold recvFrom
  dsimp only
  split <;> rfl

/-- Whether the sender is known or not, a receiving call fails alike. -/
theorem recvFrom_eq_error {h : Host} {d : Nat} {n : Nat} {e : Errno}
    (he : (h.recvFrom d n).1 = .error e) :
    (h.unlessFault .recvFrom fun h => h.on d (·.recvFrom n)).1 = .error e := by
  unfold recvFrom at he
  dsimp only at he
  split at he
  · revert he
    cases (h.unlessFault .recvFrom fun h => h.on d (·.recvFrom n)).1 <;> simp [Except.map]
  · exact he

/-- An interrupted `recvFrom` has used up a fault. -/
theorem supplyOf_recvFrom_interrupted {h : Host} {d : Nat} {n : Nat}
    (he : (h.recvFrom d n).1 = .error .eintr) :
    (h.recvFrom d n).2.supplyOf d < h.supplyOf d := by
  rw [snd_recvFrom]
  exact supplyOf_lt_of_interrupted h .recvFrom d _ (fun s => s.recvFrom_ne_eintr n)
    (recvFrom_eq_error he)

/-- `recvFrom` keeps to the size that it is given. -/
theorem length_recvFrom {h : Host} {d : Nat} {n : Nat} {got : Bytes × Address}
    (he : (h.recvFrom d n).1 = .ok got) : got.1.length ≤ n := by
  -- The call keeps to the size before its answer is given a name
  have hk : ∀ got, (h.unlessFault .recvFrom fun h => h.on d (·.recvFrom n)).1 = .ok got →
      got.1.length ≤ n := by
    intro got hg
    rcases h.unlessFault_cases .recvFrom (fun h => h.on d (·.recvFrom n)) with ⟨e, _, hr⟩ | hr
    · rw [hr] at hg
      exact nomatch hg
    · rw [hr] at hg
      rcases on_cases (h.takeFault .recvFrom).2 d (·.recvFrom n) with ⟨_, ho⟩ | ⟨s, _, ho, _⟩
      · rw [ho] at hg
        exact nomatch hg
      · rw [ho] at hg
        exact OsSocket.length_recvFrom hg
  unfold recvFrom at he
  dsimp only at he
  split at he
  · cases hr : (h.unlessFault .recvFrom fun h => h.on d (·.recvFrom n)).1 with
    | error e => rw [hr] at he; exact nomatch he
    | ok g =>
      rw [hr] at he
      simp only [Except.map, Except.ok.injEq] at he
      rw [← he]
      exact hk g hr
  · exact hk got he

/-- An interrupted `peekFrom` has used up a fault. -/
theorem supplyOf_peekFrom_interrupted {h : Host} {d : Nat}
    (he : (h.peekFrom d).1 = .error .eintr) : (h.peekFrom d).2.supplyOf d < h.supplyOf d := by
  -- The host afterwards is that of the call behind it
  have hs : (h.peekFrom d).2 = (h.unlessFault .peekFrom fun h => h.on d (·.peekFrom)).2 := by
    unfold peekFrom
    dsimp only
    split <;> rfl
  rw [hs]
  refine supplyOf_lt_of_interrupted h .peekFrom d _ (·.peekFrom_ne_eintr) ?_
  unfold peekFrom at he
  dsimp only at he
  split at he
  · revert he
    cases (h.unlessFault .peekFrom fun h => h.on d (·.peekFrom)).1 <;> simp [Except.map]
  · exact he

end FrameSocket.Host
