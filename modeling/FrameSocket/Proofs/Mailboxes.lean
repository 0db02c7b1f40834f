import FrameSocket.Host.Kernel
import FrameSocket.Socket.DatagramKernel

/-!
# Mailboxes of a host

A `Host` keeps the datagrams that come to a socket in a queue, and its calls work on that queue
as a `DatagramKernel` wants, if it is honest: none of its faults keeps a datagram back or hides
who sent it.  An honest host may well fail or interrupt a call that only looks.

## Key results

- `Leads.peekFrom` / `Leads.recvFrom`: looking at a datagram, and taking it
- `Leads.duplicate`: one more descriptor
- `Leads.sendTo`: what sending to an address does to the queue
- the instance of `DatagramKernel`
-/

namespace FrameSocket

/-! ## Faults -/

/-- `takeFault` leaves the other faults in their order. -/
theorem takeFault_sublist (call : Call) (ps : List (Call × Fault)) :
    (takeFault call ps).2.Sublist ps := by
  induction ps with
  | nil => exact .slnil
  | cons p ps ih =>
    unfold takeFault
    split
    · exact List.sublist_cons_self p ps
    · exact ih.cons_cons p

/-- The fault that `takeFault` answers was planted for the call. -/
theorem mem_of_takeFault {call : Call} {f : Fault} {ps : List (Call × Fault)}
    (h : (takeFault call ps).1 = some f) : (call, f) ∈ ps := by
  induction ps with
  | nil => exact nomatch h
  | cons p ps ih =>
    unfold takeFault at h
    split at h
    · rename_i hcall
      cases h
      exact hcall ▸ List.mem_cons_self
    · exact List.mem_cons_of_mem p (ih h)

/-! ## Sockets -/

namespace OsSocket

/-- The datagrams that wait at a socket, the oldest first. -/
def queue (s : OsSocket) : List Datagram :=
  match s.use with
  | .datagram m => m.queue
  | _ => []

/-- The socket takes datagrams.  It has a name, unless it is a Unix socket. -/
structure IsMailbox (s : OsSocket) (t : Transport) : Prop where
  transport : s.transport = t
  use : ∃ m, s.use = .datagram m
  name : s.name ≠ .unnamed ∨ t.isUnix = true

/-- The socket after its first datagram has been taken. -/
def dequeue (s : OsSocket) : OsSocket :=
  match s.use with
  | .datagram m => { s with use := .datagram { m with queue := m.queue.tail } }
  | _ => s

namespace IsMailbox

variable {s s' : OsSocket} {t : Transport}

/-- A mailbox stays one whatever becomes of its pending error. -/
theorem of_eq (h : s.IsMailbox t) (huse : s'.use = s.use) (htransport : s'.transport = s.transport)
    (hname : s'.name = s.name) : s'.IsMailbox t where
  transport := htransport.trans h.transport
  use := huse ▸ h.use
  name := hname ▸ h.name

/-- `dequeue` takes the first datagram of a mailbox. -/
theorem dequeue (h : s.IsMailbox t) :
    s.dequeue.IsMailbox t ∧ s.dequeue.queue = s.queue.tail := by
  obtain ⟨transport, name, use, upset, isOpen⟩ := s
  obtain ⟨htransport, ⟨m, rfl⟩, hname⟩ := h
  exact ⟨⟨htransport, ⟨_, rfl⟩, hname⟩, rfl⟩

/-- `enqueue` puts a datagram behind the others. -/
theorem enqueue (h : s.IsMailbox t) (d : Datagram) :
    (s.enqueue d).IsMailbox t ∧ (s.enqueue d).queue = s.queue ++ [d] := by
  obtain ⟨transport, name, use, upset, isOpen⟩ := s
  obtain ⟨htransport, ⟨m, rfl⟩, hname⟩ := h
  exact ⟨⟨htransport, ⟨_, rfl⟩, hname⟩, rfl⟩

/-- `recvFrom` takes the first datagram of a mailbox. -/
theorem recvFrom {d : Datagram} {rest : List Datagram} (h : s.IsMailbox t)
    (hqueue : s.queue = d :: rest) (n : Nat) :
    s.recvFrom n = (.ok (d.data.take n, d.origin), s.dequeue) := by
  obtain ⟨transport, name, use, upset, isOpen⟩ := s
  obtain ⟨-, ⟨⟨target, queue⟩, rfl⟩, -⟩ := h
  cases (show queue = d :: rest from hqueue)
  rfl

/-- `peekFrom` tells who sent the first datagram, and takes nothing. -/
theorem peekFrom {d : Datagram} {rest : List Datagram} (h : s.IsMailbox t)
    (hqueue : s.queue = d :: rest) : s.peekFrom = (.ok d.origin, s) := by
  obtain ⟨transport, name, use, upset, isOpen⟩ := s
  obtain ⟨-, ⟨⟨target, queue⟩, rfl⟩, -⟩ := h
  cases (show queue = d :: rest from hqueue)
  rfl

/-- Looking at an empty queue fails, and may take the pending error. -/
theorem peekFrom_of_empty (h : s.IsMailbox t) (hqueue : s.queue = []) :
    ∃ e upset, s.peekFrom = (.error e, { s with upset }) := by
  obtain ⟨transport, name, use, upset, isOpen⟩ := s
  obtain ⟨-, ⟨⟨target, queue⟩, rfl⟩, -⟩ := h
  cases (show queue = [] from hqueue)
  cases upset with
  | none => exact ⟨_, none, rfl⟩
  | some e => exact ⟨_, none, rfl⟩

end IsMailbox

end OsSocket

namespace Host

/-! ## Hosts -/

/-- No fault keeps a datagram back or hides who sent it. -/
def Honest (h : Host) : Prop :=
  ∀ p ∈ h.faults, (p.1 = .recvFrom → p.2 = .passes) ∧ (p.1 = .peekFrom → p.2 ≠ .unknownSender)

/-- A host with fewer faults is `Honest`, too. -/
theorem Honest.of_sublist {h h' : Host} (hh : h.Honest) (hfaults : h'.faults.Sublist h.faults) :
    h'.Honest :=
  fun p hp => hh p (hfaults.subset hp)

/-- The datagrams that wait at the socket with a number. -/
def queueAt (h : Host) (i : Nat) : List Datagram := ((h.socket? i).map OsSocket.queue).getD []

/-- The descriptors lead to the datagram socket with number `i`.  The host is honest, and who
    sent what waits there is known, unless it is a Unix socket. -/
structure ServesAt (h : Host) (i : Nat) (t : Transport) (ds : List Nat) : Prop where
  leads : ∀ d ∈ ds, h.number? d = some i
  mailbox : ∃ s, h.socket? i = some s ∧ s.IsMailbox t
  named : ∀ d ∈ h.queueAt i, d.origin ≠ .unnamed ∨ t.isUnix = true
  honest : h.Honest

variable {h h' : Host} {i d : Nat} {t : Transport} {ds : List Nat} {s : OsSocket}

/-- `queueAt` is the queue of the socket. -/
theorem queueAt_eq (hs : h.socket? i = some s) : h.queueAt i = s.queue := by
  rw [queueAt, hs]
  rfl

/-- Only the numbers of sockets have one. -/
theorem lt_length_of_socket? (hs : h.socket? i = some s) : i < h.sockets.length := by
  rw [socket?] at hs
  exact (List.getElem?_eq_some_iff.mp hs).1

/-- `socket?` finds the socket that `setSocket` has put in place. -/
theorem socket?_setSocket (hs : h.socket? i = some s) (s' : OsSocket) :
    (h.setSocket i s').socket? i = some s' :=
  List.getElem?_set_self (lt_length_of_socket? hs)

/-- A call on one socket, through a descriptor that leads to it. -/
theorem on_eq {α : Type} (hd : h.number? d = some i) (hs : h.socket? i = some s)
    (f : OsSocket → Except Errno α × OsSocket) :
    h.on d f = ((f s).1, h.setSocket i (f s).2) := by
  rw [on, through, hd]
  dsimp only
  rw [hs]

/-- The descriptors are the same, only faults were used up, and the socket `i` is the same
    but for its pending error. -/
structure Keeps (i : Nat) (h h' : Host) : Prop where
  descriptors : h'.descriptors = h.descriptors
  faults : h'.faults.Sublist h.faults
  socket : ∀ s, h.socket? i = some s → ∃ upset, h'.socket? i = some { s with upset }

namespace Keeps

/-- Steps that `Keeps` allows can be taken one after the other. -/
theorem trans {h'' : Host} (hk : Keeps i h h') (hk' : Keeps i h' h'') : Keeps i h h'' where
  descriptors := hk'.descriptors.trans hk.descriptors
  faults := hk'.faults.trans hk.faults
  socket s hs := by
    obtain ⟨upset, hs'⟩ := hk.socket s hs
    obtain ⟨upset', hs''⟩ := hk'.socket _ hs'
    exact ⟨upset', hs''⟩

/-- `takeFault` touches no socket. -/
theorem takeFault (h : Host) (i : Nat) (call : Call) : Keeps i h (h.takeFault call).2 :=
  ⟨rfl, takeFault_sublist call h.faults, fun s hs => ⟨s.upset, hs⟩⟩

/-- Telling a pending error leaves the queue as it is. -/
theorem setSocket (hs : h.socket? i = some s) (upset : Option Upset) :
    Keeps i h (h.setSocket i { s with upset }) := by
  refine ⟨rfl, .refl _, fun s₀ hs₀ => ⟨upset, ?_⟩⟩
  cases hs.symm.trans hs₀
  exact socket?_setSocket hs _

/-- `Keeps` leaves the descriptors as they are. -/
theorem number? (hk : Keeps i h h') (d : Nat) : h'.number? d = h.number? d := by
  rw [Host.number?, hk.descriptors]
  rfl

end Keeps

namespace ServesAt

/-- The socket that a host serves, and its queue. -/
theorem socket? (hh : h.ServesAt i t ds) :
    ∃ s, h.socket? i = some s ∧ s.IsMailbox t ∧ h.queueAt i = s.queue := by
  obtain ⟨s, hs, hmailbox⟩ := hh.mailbox
  exact ⟨s, hs, hmailbox, queueAt_eq hs⟩

/-- `ServesAt` holds for fewer descriptors, too. -/
theorem of_subset {ds' : List Nat} (hh : h.ServesAt i t ds) (hds : ds' ⊆ ds) : h.ServesAt i t ds' :=
  ⟨fun d hd => hh.leads d (hds hd), hh.mailbox, hh.named, hh.honest⟩

/-- What is kept serves as before. -/
theorem of_keeps (hh : h.ServesAt i t ds) (hk : Keeps i h h') :
    h'.ServesAt i t ds ∧ h'.queueAt i = h.queueAt i := by
  obtain ⟨s, hs, hmailbox, hqueue⟩ := hh.socket?
  obtain ⟨upset, hs'⟩ := hk.socket s hs
  have hsame : h'.queueAt i = h.queueAt i := (queueAt_eq hs').trans hqueue.symm
  refine ⟨⟨fun d hd => (hk.number? d).trans (hh.leads d hd), ?_, ?_, ?_⟩, hsame⟩
  · exact ⟨_, hs', hmailbox.of_eq rfl rfl rfl⟩
  · rw [hsame]
    exact hh.named
  · exact hh.honest.of_sublist hk.faults

end ServesAt

/-! ## Looking at a datagram, and taking it -/

/-- An `Honest` host knows who sent a datagram, so `peekFrom` is the call of the socket. -/
theorem Honest.peekFrom_eq (hh : h.Honest) (d : Nat) :
    h.peekFrom d = h.unlessFault .peekFrom fun h => h.on d (·.peekFrom) := by
  have hknown : (h.takeFault .peekFrom).1 ≠ some .unknownSender :=
    fun hfault => (hh _ (mem_of_takeFault hfault)).2 rfl rfl
  rw [peekFrom, if_neg hknown]

/-- Receiving is not kept from what it does. -/
theorem Honest.recvFrom_eq (hh : h.Honest) (d n : Nat) :
    h.recvFrom d n = (h.takeFault .recvFrom).2.on d (·.recvFrom n) := by
  have hpasses : ∀ f, (h.takeFault .recvFrom).1 = some f → f = .passes :=
    fun f hfault => (hh _ (mem_of_takeFault hfault)).1 rfl
  have hknown : (h.takeFault .recvFrom).1 ≠ some .unknownSender :=
    fun hfault => nomatch hpasses _ hfault
  rw [recvFrom, if_neg hknown]
  rcases h.unlessFault_cases .recvFrom fun h => h.on d (·.recvFrom n) with ⟨e, hfault, -⟩ | heq
  · exact nomatch hpasses _ hfault
  · exact heq

namespace ServesAt

/-- Looking either fails, as it does if nothing is there, or tells who sent the datagram in
    front.  It takes nothing. -/
theorem peekFrom (hh : h.ServesAt i t ds) (hd : d ∈ ds) :
    Keeps i h (h.peekFrom d).2 ∧
      ((∃ e, (h.peekFrom d).1 = .error e) ∨
        ∃ first rest, h.queueAt i = first :: rest ∧ (h.peekFrom d).1 = .ok first.origin) := by
  obtain ⟨s, hs, hmailbox, hqueue⟩ := hh.socket?
  have hd' : (h.takeFault .peekFrom).2.number? d = some i := hh.leads d hd
  have hs' : (h.takeFault .peekFrom).2.socket? i = some s := hs
  have htaken := Keeps.takeFault h i .peekFrom
  rw [hh.honest.peekFrom_eq]
  -- `peekFrom` may meet a fault, and then it has not been made
  rcases h.unlessFault_cases .peekFrom fun h => h.on d (·.peekFrom) with ⟨e, -, heq⟩ | heq
  · rw [heq]
    exact ⟨htaken, .inl ⟨e, rfl⟩⟩
  · -- the call is made, and looks at the queue
    rw [heq, on_eq hd' hs', hqueue]
    cases hwaiting : s.queue with
    | nil =>
      obtain ⟨e, upset, hpeek⟩ := hmailbox.peekFrom_of_empty hwaiting
      rw [hpeek]
      exact ⟨htaken.trans (.setSocket hs' upset), .inl ⟨e, rfl⟩⟩
    | cons first rest =>
      rw [hmailbox.peekFrom hwaiting]
      exact ⟨htaken.trans (.setSocket hs' s.upset), .inr ⟨first, rest, rfl, rfl⟩⟩

/-- Asking for the name of the socket takes nothing either. -/
theorem localName (hh : h.ServesAt i t ds) (hd : d ∈ ds) : Keeps i h (h.localName d).2 := by
  obtain ⟨s, hs, -⟩ := hh.mailbox
  have hd' : (h.takeFault .localName).2.number? d = some i := hh.leads d hd
  have hs' : (h.takeFault .localName).2.socket? i = some s := hs
  have htaken := Keeps.takeFault h i .localName
  unfold Host.localName
  rcases h.unlessFault_cases .localName fun h => h.on d fun s => (.ok s.name, s) with
    ⟨e, -, heq⟩ | heq
  · -- A planned fault, or the answer of the socket: neither takes anything
    rw [heq]
    exact htaken
  · rw [heq, on_eq hd' hs']
    exact htaken.trans (.setSocket hs' s.upset)

/-- Taking the datagram in front. -/
theorem recvFrom (hh : h.ServesAt i t ds) (hd : d ∈ ds) {first : Datagram}
    {rest : List Datagram} (hqueue : h.queueAt i = first :: rest) (n : Nat) :
    (h.recvFrom d n).1 = .ok (first.data.take n, first.origin) ∧
      (h.recvFrom d n).2.ServesAt i t ds ∧ (h.recvFrom d n).2.queueAt i = rest := by
  obtain ⟨s, hs, hmailbox, hwaiting⟩ := hh.socket?
  have hcons : s.queue = first :: rest := hwaiting.symm.trans hqueue
  -- No fault is planted for `recvFrom`: receiving what was just seen works
  have hrecv : h.recvFrom d n = (.ok (first.data.take n, first.origin),
      (h.takeFault .recvFrom).2.setSocket i s.dequeue) := by
    rw [hh.honest.recvFrom_eq, on_eq (h := (h.takeFault .recvFrom).2) (hh.leads d hd) hs,
      hmailbox.recvFrom hcons]
  have hset : ((h.takeFault .recvFrom).2.setSocket i s.dequeue).socket? i = some s.dequeue :=
    socket?_setSocket hs s.dequeue
  have hrest : ((h.takeFault .recvFrom).2.setSocket i s.dequeue).queueAt i = rest := by
    rw [queueAt_eq hset, hmailbox.dequeue.2, hcons]
    rfl
  rw [hrecv]
  refine ⟨rfl, ⟨hh.leads, ?_, ?_, ?_⟩, hrest⟩
  · exact ⟨s.dequeue, hset, hmailbox.dequeue.1⟩
  · rw [hrest]
    exact fun d hd => hh.named d (hqueue ▸ List.mem_cons_of_mem first hd)
  · exact hh.honest.of_sublist (takeFault_sublist _ _)

end ServesAt

/-! ## Another descriptor -/

/-- `firstFree` is not in use. -/
theorem firstFree_free (ds : List (Option Nat)) : (ds[firstFree ds]?).join = none := by
  induction ds with
  | nil => rfl
  | cons d ds ih =>
    cases d with
    | none => rfl
    | some j => exact ih

/-- `firstFree` is the number behind the last one at most. -/
theorem firstFree_le (ds : List (Option Nat)) : firstFree ds ≤ ds.length := by
  induction ds with
  | nil => exact Nat.le_refl _
  | cons d ds ih =>
    cases d with
    | none => exact Nat.zero_le _
    | some j => exact Nat.succ_le_succ ih

/-- The descriptor that `link` answers leads to the socket. -/
theorem number?_link_self (h : Host) (i : Nat) : (h.link i).2.number? (h.link i).1 = some i := by
  have hle := firstFree_le h.descriptors
  simp only [link, number?]
  split
  · rename_i hlt
    rw [List.getElem?_set_self hlt]
    rfl
  · -- No descriptor was free, so the table gets longer by one
    rename_i hge
    have hlength : firstFree h.descriptors = h.descriptors.length :=
      Nat.le_antisymm hle (Nat.not_lt.mp hge)
    rw [hlength, List.getElem?_concat_length]
    rfl

/-- Descriptors that lead somewhere lead there still. -/
theorem number?_link_of_some {j : Nat} (hd : h.number? d = some j) (i : Nat) :
    (h.link i).2.number? d = some j := by
  -- A descriptor that leads somewhere is not free
  have hne : firstFree h.descriptors ≠ d := by
    rintro rfl
    exact nomatch (firstFree_free h.descriptors).symm.trans hd
  have hlt : d < h.descriptors.length := by
    rcases Nat.lt_or_ge d h.descriptors.length with hlt | hge
    · exact hlt
    · rw [number?, List.getElem?_eq_none hge] at hd
      exact nomatch hd
  rw [← hd]
  simp only [link, number?]
  split
  · rw [List.getElem?_set_ne hne]
  · rw [List.getElem?_append_left hlt]

/-- The new descriptor leads where the others do. -/
theorem ServesAt.duplicate (hh : h.ServesAt i t ds) (hd : d ∈ ds) :
    h.duplicate d = (.ok (h.link i).1, (h.link i).2) ∧
      (h.link i).2.ServesAt i t ((h.link i).1 :: ds) ∧
      (h.link i).2.queueAt i = h.queueAt i := by
  refine ⟨?_, ⟨?_, hh.mailbox, hh.named, hh.honest⟩, rfl⟩
  · rw [Host.duplicate, hh.leads d hd]
  · intro d' hd'
    rcases List.mem_cons.mp hd' with rfl | hd'
    · exact number?_link_self h i
    · exact number?_link_of_some (hh.leads d' hd') i

/-! ## Sending to an address -/

/-- Faults have no part in finding a target. -/
theorem find_setFaults (h : Host) (faults : List (Call × Fault)) (t : Transport) (a : Address) :
    { h with faults }.find t a = h.find t a := by
  cases a <;> rfl

/-- The host after a datagram of the socket `s` has come to the socket `j`. -/
def posted (h : Host) (s : OsSocket) (j : Nat) (data : Bytes) : Host :=
  (h.modify j (·.enqueue ⟨data, s.name⟩)).wake j .arrival

/-- `post` fails, and then nothing has happened, or the datagram has been `posted`. -/
theorem post_cases (h : Host) (i : Nat) (s : OsSocket) (j : Nat) (data : Bytes) :
    (∃ e, h.post i s j data = (.error e, h)) ∨
      h.post i s j data = (.ok data.length, h.posted s j data) := by
  unfold post
  split
  · exact .inl ⟨_, rfl⟩
  · split
    · dsimp only
      split
      · exact .inl ⟨_, rfl⟩
      · split
        · exact .inl ⟨_, rfl⟩
        · exact .inr rfl
    · exact .inl ⟨_, rfl⟩

/-- `sendToNow` changes nothing, or delivers to the socket that its target leads to. -/
theorem sendToNow_cases (hd : h.number? d = some i) (hs : h.socket? i = some s)
    (target : Address) (data : Bytes) :
    (h.sendToNow d target data).2 = h ∨
      ∃ j, h.find s.transport target = .ok j ∧
        (h.sendToNow d target data).2 = h.posted s j data := by
  unfold sendToNow through
  rw [hd]
  dsimp only
  rw [hs]
  dsimp only
  split
  · exact .inl rfl
  · split
    · rename_i j hfind
      rcases h.post_cases i s j data with ⟨e, hpost⟩ | hpost
      · exact .inl (congrArg Prod.snd hpost)
      · exact .inr ⟨j, hfind, congrArg Prod.snd hpost⟩
    · -- nobody is there
      split <;> exact .inl rfl
    · exact .inl rfl

/-- `sendTo` does what `sendToNow` does, after a fault has been used up, or nothing else. -/
theorem sendTo_cases (hd : h.number? d = some i) (hs : h.socket? i = some s)
    (target : Address) (data : Bytes) :
    (h.sendTo d target data).2 = (h.takeFault .sendTo).2 ∨
      ∃ j, h.find s.transport target = .ok j ∧
        (h.sendTo d target data).2 = (h.takeFault .sendTo).2.posted s j data := by
  unfold sendTo
  rcases h.unlessFault_cases .sendTo fun h => h.sendToNow d target data with ⟨e, -, heq⟩ | heq
  · exact .inl (congrArg Prod.snd heq)
  · rw [heq]
    -- What is sent is posted where the address leads
    rcases sendToNow_cases (h := (h.takeFault .sendTo).2) hd hs target data with
      hsame | ⟨j, hfind, hposted⟩
    · exact .inl hsame
    · exact .inr ⟨j, (find_setFaults h _ _ _).symm.trans hfind, hposted⟩

/-- `posted` changes the socket that gets the datagram, and no other. -/
theorem socket?_posted (h : Host) (s : OsSocket) (i j : Nat) (data : Bytes) :
    (h.posted s j data).socket? i =
      if j = i then (h.socket? i).map (·.enqueue ⟨data, s.name⟩) else h.socket? i := by
  show (h.sockets.modify j (·.enqueue ⟨data, s.name⟩))[i]? = _
  rw [List.getElem?_modify]
  split
  · rfl
  · exact Option.map_id_apply

/-- What a mailbox sends takes nothing from it.  If it comes back, then to the end of the
    queue, and with the mailbox's own name. -/
theorem ServesAt.posted (hh : h.ServesAt i t ds) (hs : h.socket? i = some s) (j : Nat)
    (data : Bytes) :
    (h.posted s j data).ServesAt i t ds ∧ h.queueAt i <+: (h.posted s j data).queueAt i := by
  obtain ⟨s₀, hs₀, hmailbox, hqueue⟩ := hh.socket?
  cases hs.symm.trans hs₀
  have hposted := h.socket?_posted s i j data
  rw [hs] at hposted
  -- The target may be the socket that is served
  by_cases hij : j = i
  · -- the datagram comes back to the mailbox itself
    rw [if_pos hij] at hposted
    have hmore := (queueAt_eq hposted).trans (hmailbox.enqueue ⟨data, s.name⟩).2
    refine ⟨⟨hh.leads, ⟨_, hposted, (hmailbox.enqueue _).1⟩, ?_, hh.honest⟩, ?_⟩
    · rw [hmore, ← hqueue]
      intro d hd
      rcases List.mem_append.mp hd with hd | hd
      · exact hh.named d hd
      · cases List.mem_singleton.mp hd
        exact hmailbox.name
    · rw [hmore, ← hqueue]
      exact List.prefix_append _ _
  · -- another socket gets it, and the mailbox is as it was
    rw [if_neg hij] at hposted
    have hsame := (queueAt_eq hposted).trans hqueue.symm
    refine ⟨⟨hh.leads, ⟨s, hposted, hmailbox⟩, ?_, hh.honest⟩, ?_⟩
    · rw [hsame]
      exact hh.named
    · exact ⟨[], (List.append_nil _).trans hsame.symm⟩

/-- Sending through one of the descriptors takes nothing from the mailbox. -/
theorem ServesAt.sendTo (hh : h.ServesAt i t ds) (hd : d ∈ ds) (target : Address)
    (data : Bytes) :
    (h.sendTo d target data).2.ServesAt i t ds ∧
      h.queueAt i <+: (h.sendTo d target data).2.queueAt i := by
  obtain ⟨s, hs, -⟩ := hh.mailbox
  have htaken := hh.of_keeps (.takeFault h i .sendTo)
  rcases sendTo_cases (hh.leads d hd) hs target data with hsame | ⟨j, -, hposted⟩
  · rw [hsame, htaken.2]
    exact ⟨htaken.1, List.prefix_refl _⟩
  · rw [hposted, ← htaken.2]
    exact htaken.1.posted (s := s) hs j data

/-! ## The host as a system that delivers datagrams -/

/-- The datagrams that wait where a descriptor leads. -/
def waiting (h : Host) (d : Nat) : List Datagram := ((h.number? d).map h.queueAt).getD []

/-- What waits at any of the descriptors is the queue of the socket. -/
theorem ServesAt.waiting_eq (hh : h.ServesAt i t ds) (hd : d ∈ ds) :
    h.waiting d = h.queueAt i := by
  rw [waiting, hh.leads d hd]
  rfl

/-- Where the socket `i` is the same but for its pending error, the same descriptors show the
    same queue. -/
theorem ServesAt.waiting_of_keeps (hh : h.ServesAt i t ds) (hd : d ∈ ds) (hk : Keeps i h h') :
    (∃ i, h'.ServesAt i t ds) ∧ h'.waiting d = h.waiting d := by
  obtain ⟨hserves, hqueue⟩ := hh.of_keeps hk
  exact ⟨⟨i, hserves⟩, (hserves.waiting_eq hd).trans (hqueue.trans (hh.waiting_eq hd).symm)⟩

/-- A host that serves its descriptors honestly delivers datagrams as they should be. -/
instance : DatagramKernel Host where
  waiting := waiting
  Serves h t ds := ∃ i, h.ServesAt i t ds
  serves_of_subset := fun ⟨i, hh⟩ hds => ⟨i, hh.of_subset hds⟩
  waiting_shared := fun ⟨_, hh⟩ hd hd' => (hh.waiting_eq hd).trans (hh.waiting_eq hd').symm
  origin_known := fun ⟨_, hh⟩ hd x hx => hh.named x (hh.waiting_eq hd ▸ hx)
  setNextId_keeps := fun ⟨i, hh⟩ _ _ =>
    ⟨⟨i, hh.leads, hh.mailbox, hh.named, hh.honest⟩, rfl⟩
  localName_keeps := fun ⟨_, hh⟩ hd => hh.waiting_of_keeps hd (hh.localName hd)
  peekFrom_keeps := fun ⟨_, hh⟩ hd => hh.waiting_of_keeps hd (hh.peekFrom hd).1
  peekFrom_first := by
    intro h next t ds d origin ⟨i, hh⟩ hd hpeek
    rw [show Host.waiting h d = h.queueAt i from hh.waiting_eq hd]
    have hok := eq_ok_of_told (congrArg Prod.fst hpeek)
    rcases (hh.peekFrom hd).2 with ⟨e, herror⟩ | ⟨first, rest, hqueue, horigin⟩
    · exact nomatch herror.symm.trans hok
    · exact ⟨first, rest, hqueue, Except.ok.inj (hok.symm.trans horigin)⟩
  recvFrom_of_peeked := by
    intro h next t ds d origin first rest ⟨i, hh⟩ hd hpeek hqueue n
    obtain rfl : _ = next := congrArg Prod.snd hpeek
    have hserves := (hh.of_keeps (hh.peekFrom hd).1).1
    obtain ⟨hok, hafter, hrest⟩ :=
      hserves.recvFrom hd ((hserves.waiting_eq hd).symm.trans hqueue) n
    refine ⟨_, Prod.ext ?_ rfl, ⟨i, hafter⟩, (hafter.waiting_eq hd).trans hrest⟩
    exact congrArg (·.mapError IoError.os) hok
  duplicate_ok := by
    intro h t ds d ⟨i, hh⟩ hd
    obtain ⟨hduplicate, hserves, hqueue⟩ := hh.duplicate hd
    refine ⟨_, _, congrArg told hduplicate, ⟨i, hserves⟩, ?_⟩
    exact (hserves.waiting_eq (List.mem_cons_of_mem _ hd)).trans
      (hqueue.trans (hh.waiting_eq hd).symm)
  sendTo_behind := by
    intro h t ds d ⟨i, hh⟩ hd target data
    obtain ⟨hserves, hmore⟩ := hh.sendTo hd target data
    refine ⟨⟨i, hserves⟩, ?_⟩
    show Host.waiting h d <+: Host.waiting (h.sendTo d target data).2 d
    rw [hh.waiting_eq hd, hserves.waiting_eq hd]
    exact hmore

end Host

end FrameSocket
