import FrameSocket.Bytes

/-!
# Inboxes of stream sockets

What a stream socket has received and nobody has read.  One byte of it can be
urgent: it is kept apart, and a mark keeps its place among the regular bytes.
A regular read stops at the mark; one that starts at the mark steps over it, and
an urgent byte that is still there is lost.
-/

namespace FrameSocket

/-- The place of the urgent byte. -/
structure Mark where
  /-- Regular bytes to be read before the mark. -/
  ahead : Nat
  /-- The urgent byte, until it is read. -/
  byte : Option UInt8
  deriving DecidableEq, Repr

/-- Received bytes that wait to be read. -/
structure Inbox where
  /-- The regular bytes. -/
  bytes : Bytes
  mark : Option Mark
  deriving DecidableEq, Repr

namespace Inbox

/-- Nothing has come. -/
def empty : Inbox := ⟨[], none⟩

/-- Bytes that arrive on the regular channel. -/
def push (b : Inbox) (data : Bytes) : Inbox := { b with bytes := b.bytes ++ data }

/-- The urgent byte, unless it has been read. -/
def urgent? (b : Inbox) : Option UInt8 := b.mark.bind (·.byte)

/-- The inbox after an unread urgent byte has lost its place to another: it is
a regular byte now.  Where `dropsAtMark` holds, one that nothing is ahead of is
dropped. -/
def demote (b : Inbox) (dropsAtMark : Bool) : Inbox :=
  match b.mark with
  | some ⟨ahead, some x⟩ =>
    if ahead = 0 ∧ dropsAtMark = true then { b with mark := none }
    else ⟨b.bytes.take ahead ++ x :: b.bytes.drop ahead, none⟩
  | _ => { b with mark := none }

/-- A byte that arrives on the urgent channel. -/
def pushUrgent (b : Inbox) (dropsAtMark : Bool) (x : UInt8) : Inbox :=
  let b := b.demote dropsAtMark
  { b with mark := some ⟨b.bytes.length, some x⟩ }

/-- Reads at most `n` regular bytes; none are there if the answer is none. -/
def read (b : Inbox) (n : Nat) : Option Bytes × Inbox :=
  match b.mark with
  | some ⟨ahead + 1, x⟩ =>
    -- A read stops at the mark.
    let n := min n (ahead + 1)
    (some (b.bytes.take n), ⟨b.bytes.drop n, some ⟨ahead + 1 - n, x⟩⟩)
  | _ =>
    -- No mark, or a read that steps over it.
    if b.bytes.isEmpty then (none, empty)
    else (some (b.bytes.take n), ⟨b.bytes.drop n, none⟩)

/-- Reads the urgent byte, if there is room for it. -/
def readUrgent (b : Inbox) (n : Nat) : Option Bytes × Inbox :=
  match b.mark with
  | some ⟨ahead, some x⟩ =>
    if n = 0 then (some [], b) else (some [x], { b with mark := some ⟨ahead, none⟩ })
  | _ => (none, b)

/-- The bytes of both channels that nobody has read. -/
def size (b : Inbox) : Nat := b.bytes.length + b.urgent?.toList.length

/-- Whether nothing is there on either channel. -/
def isEmpty (b : Inbox) : Bool := b.bytes.isEmpty && b.urgent?.isNone

/-- `read` adds nothing to what waits. -/
theorem size_read_le (b : Inbox) (n : Nat) : (b.read n).2.size ≤ b.size := by
  unfold read
  split
  · rename_i ahead x h
    simp only [size, urgent?, h, Option.bind_some, List.length_drop]
    omega
  · split
    · simp [size, urgent?, empty]
    · simp only [size, urgent?, Option.bind_none, List.length_drop]
      simp
      omega

/-- `read` takes what it brings. -/
theorem size_read_data {b : Inbox} {n : Nat} {data : Bytes} (h : (b.read n).1 = some data)
    (hn : data ≠ []) : (b.read n).2.size < b.size := by
  unfold read at h ⊢
  split
  · -- the mark stands in the middle: the bytes in front of it are read
    rename_i ahead x hm
    simp only [hm, Option.some.injEq] at h
    have hl : 0 < data.length := List.length_pos_iff.mpr hn
    rw [← h, List.length_take] at hl
    simp only [size, urgent?, hm, Option.bind_some, List.length_drop]
    omega
  · rename_i hm
    split at h
    · rename_i ahead x hx
      exact absurd hx (hm ahead x)
    · split at h
      · exact nomatch h
      · rename_i he
        simp only [Option.some.injEq] at h
        have hl : 0 < data.length := List.length_pos_iff.mpr hn
        rw [← h, List.length_take] at hl
        rw [if_neg he]
        simp only [size, urgent?, Option.bind_none, List.length_drop]
        simp
        omega

/-- `read` keeps to the size that it is given. -/
theorem length_read {b : Inbox} {n : Nat} {data : Bytes} (h : (b.read n).1 = some data) :
    data.length ≤ n := by
  unfold read at h
  split at h
  · simp only [Option.some.injEq] at h
    simp only [← h, List.length_take]
    omega
  · -- A mark that is stepped over does not stop the read
    split at h
    · exact nomatch h
    · simp only [Option.some.injEq] at h
      simp only [← h, List.length_take]
      omega

/-- `readUrgent` adds nothing to what waits. -/
theorem size_readUrgent_le (b : Inbox) (n : Nat) : (b.readUrgent n).2.size ≤ b.size := by
  unfold readUrgent
  split
  · rename_i ahead x h
    split
    · exact Nat.le_refl _
    · simp [size, urgent?]
  · exact Nat.le_refl _

/-- `readUrgent` takes what it brings. -/
theorem size_readUrgent_data {b : Inbox} {n : Nat} {data : Bytes}
    (h : (b.readUrgent n).1 = some data) (hn : data ≠ []) :
    (b.readUrgent n).2.size < b.size := by
  unfold readUrgent at h ⊢
  split at h
  · rename_i ahead x hm
    split at h
    · simp only [Option.some.injEq] at h
      exact absurd h.symm hn
    · -- The urgent byte is taken
      rename_i hn
      simp [size, urgent?, hm, hn]
  · exact nomatch h

/-- `readUrgent` keeps to the size that it is given. -/
theorem length_readUrgent {b : Inbox} {n : Nat} {data : Bytes}
    (h : (b.readUrgent n).1 = some data) : data.length ≤ n := by
  unfold readUrgent at h
  split at h
  · split at h
    · simp only [Option.some.injEq] at h
      simp [← h]
    · simp only [Option.some.injEq] at h
      simp only [← h, List.length_cons, List.length_nil]
      omega
  · exact nomatch h

end Inbox

end FrameSocket
