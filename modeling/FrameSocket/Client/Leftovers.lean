import FrameSocket.Bytes
import FrameSocket.Socket.Basic

/-!
# Leftovers

Bytes that were received past the end of a frame wait here for the next frame,
in one slot for each channel.  Nothing is dropped: bytes stored in an occupied
slot are appended to what is there.
-/

namespace FrameSocket

/-- Bytes past the end of a frame, and where they came from. -/
structure Leftover where
  data : Bytes
  origin : Option String
  deriving DecidableEq, Repr

/-- Older bytes followed by newer ones; the older origin is kept if it is known. -/
def Leftover.append (older newer : Leftover) : Leftover :=
  ⟨older.data ++ newer.data, older.origin.or newer.origin⟩

/-- The leftover of each channel. -/
structure Leftovers where
  regular : Option Leftover
  urgent : Option Leftover
  deriving DecidableEq, Repr

namespace Leftovers

/-- Nothing is left over. -/
def empty : Leftovers := ⟨none, none⟩

/-- What is left over on a channel. -/
def get (l : Leftovers) : Channel → Option Leftover
  | .regular => l.regular
  | .urgent => l.urgent

/-- Replaces what is left over on a channel. -/
def set (l : Leftovers) (ch : Channel) (slot : Option Leftover) : Leftovers :=
  match ch with
  | .regular => { l with regular := slot }
  | .urgent => { l with urgent := slot }

/-- Empties a slot and answers what was there. -/
def take (l : Leftovers) (ch : Channel) : Option Leftover × Leftovers :=
  (l.get ch, l.set ch none)

/-- Keeps bytes for the next frame of a channel. -/
def store (l : Leftovers) (ch : Channel) (new : Leftover) : Leftovers :=
  l.set ch (some (match l.get ch with
    | none => new
    | some pending => pending.append new))

/-- `get` finds what `set` has just put into the slot. -/
@[simp] theorem get_set_self (l : Leftovers) (ch : Channel) (slot : Option Leftover) :
    (l.set ch slot).get ch = slot := by
  cases ch <;> rfl

/-- The channels do not share a slot. -/
theorem get_set_of_ne (l : Leftovers) {ch ch' : Channel} (slot : Option Leftover)
    (h : ch' ≠ ch) : (l.set ch slot).get ch' = l.get ch' := by
  cases ch with
  | regular =>
    cases ch' with
    | regular => exact absurd rfl h
    | urgent => rfl
  | urgent =>
    cases ch' with
    | regular => rfl
    | urgent => exact absurd rfl h

end Leftovers

end FrameSocket
