import FrameSocket.Socket.Basic

/-!
# Sockets that are ready

What a select found: the handles of the sockets that can go on, by what they can
do.  `Ready.add` keeps the lists free of duplicates.
-/

namespace FrameSocket

/-- What a socket can be ready for. -/
inductive Activity where
  | read
  | write
  /-- Reading urgent data. -/
  | urgent
  deriving DecidableEq, Repr

/-- The sockets that are ready. -/
structure Ready where
  read : List SocketId := []
  write : List SocketId := []
  urgent : List SocketId := []
  deriving DecidableEq, Repr

namespace Ready

/-- The sockets that are ready for something. -/
def get (r : Ready) : Activity → List SocketId
  | .read => r.read
  | .write => r.write
  | .urgent => r.urgent

/-- Whether no socket is ready for anything. -/
def isEmpty (r : Ready) : Bool := r.read.isEmpty && r.write.isEmpty && r.urgent.isEmpty

/-- Whether a socket is ready to be read. -/
def isReadable (r : Ready) (id : SocketId) : Bool := r.read.contains id

/-- Whether a socket is ready to be written to. -/
def isWritable (r : Ready) (id : SocketId) : Bool := r.write.contains id

/-- Adds a handle to a list that does not have it. -/
def insert (ids : List SocketId) (id : SocketId) : List SocketId :=
  if ids.contains id then ids else ids ++ [id]

/-- Adds a socket that is ready for something. -/
def add (r : Ready) (a : Activity) (id : SocketId) : Ready :=
  match a with
  | .read => { r with read := insert r.read id }
  | .write => { r with write := insert r.write id }
  | .urgent => { r with urgent := insert r.urgent id }

/-- Adds a socket if a condition holds. -/
def addIf (r : Ready) (condition : Bool) (a : Activity) (id : SocketId) : Ready :=
  if condition then r.add a id else r

/-- The sockets in the order of their handles. -/
def sorted (r : Ready) : Ready :=
  ⟨SocketId.sorted r.read, SocketId.sorted r.write, SocketId.sorted r.urgent⟩

/-- `insert` adds one socket to those that are there. -/
theorem mem_insert {ids : List SocketId} {id x : SocketId} :
    x ∈ insert ids id ↔ x ∈ ids ∨ x = id := by
  unfold insert
  split
  · rename_i h
    have := List.contains_iff_mem.mp h
    constructor
    · exact .inl
    · rintro (hx | rfl) <;> assumption
  · simp

/-- `insert` adds no socket twice. -/
theorem nodup_insert {ids : List SocketId} (h : ids.Nodup) (id : SocketId) :
    (insert ids id).Nodup := by
  unfold insert
  split
  · exact h
  · -- The new socket is none of those that are there
    rename_i hc
    have : id ∉ ids := fun hm => hc (List.contains_iff_mem.mpr hm)
    rw [List.nodup_append]
    refine ⟨h, by simp, ?_⟩
    intro x hx y hy
    rw [List.mem_singleton] at hy
    rintro rfl
    exact this (hy ▸ hx)

end Ready

end FrameSocket
