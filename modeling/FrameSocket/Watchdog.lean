import FrameSocket.ArithmeticFault

/-!
# A watchdog for slow transfers

The watchdog of one direction of a transfer is told, at every step, the time
and the number of bytes just moved.  It raises an alarm once the average speed
since the first sample has been below a floor for longer than is allowed.

It has no clock of its own, and the numbers it reckons in are a parameter
(`Quantity`): doubles when it runs, exact ones where its rules are reasoned
about.
-/

namespace FrameSocket

/-- Numbers that times in seconds and speeds in bytes per second are measured in. -/
class Quantity (α : Type) extends Sub α, Div α, LE α, LT α where
  zero : α
  one : α
  /-- A number of bytes. -/
  ofCount : Nat → α
  decideLE : ∀ a b : α, Decidable (a ≤ b)
  decideLT : ∀ a b : α, Decidable (a < b)

attribute [reducible, instance] Quantity.decideLE Quantity.decideLT

/-- Doubles; a count is rounded to the nearest. -/
instance : Quantity Float where
  zero := 0.0
  one := 1.0
  ofCount n := n.toUInt64.toFloat
  decideLE _ _ := inferInstance
  decideLT _ _ := inferInstance

/-- The greater of two quantities.  One that is not ordered, not even against
itself, is passed over. -/
def Quantity.larger {α : Type} [Quantity α] (a b : α) : α :=
  if b ≤ a then a else if a ≤ b then b else if b ≤ b then b else a

/-- An alarm: too slow for too long. -/
structure Alarm (α : Type) where
  /-- The average speed when the alarm was raised. -/
  speed : α
  /-- How long the speed has been below the floor. -/
  duration : α
  deriving DecidableEq, Repr

/-- What has been seen of a transfer since its first sample. -/
structure Watchdog.Window (α : Type) where
  /-- The time of the first sample. -/
  opened : α
  /-- The latest time seen. -/
  latest : α
  /-- Bytes moved after the first sample. -/
  total : Nat
  /-- The time from which on the speed counts as below the floor. -/
  slowSince : Option α
  deriving DecidableEq, Repr

/-- Watches the speed of one direction of a transfer. -/
structure Watchdog (α : Type) where
  /-- The least speed that is not slow. -/
  minSpeed : α
  /-- How long a transfer may be slow. -/
  maxDuration : α
  /-- What has been seen; nothing before the first sample. -/
  window : Option (Watchdog.Window α)
  deriving DecidableEq, Repr

namespace Watchdog

variable {α : Type} [Quantity α]

open Quantity

/-- A watchdog that has seen nothing. -/
def new (minSpeed maxDuration : α) : Watchdog α := ⟨minSpeed, maxDuration, none⟩

/-- The time from the first sample to the latest. -/
def Window.elapsed (w : Window α) : α := w.latest - w.opened

/-- Bytes per second since the first sample; zero within the first second. -/
def Window.speed (w : Window α) : α :=
  if one ≤ w.elapsed then ofCount w.total / w.elapsed else zero

/-- The window after one more sample: time never runs backwards in it. -/
def Window.advance (w : Window α) (time : α) (bytes : Nat) : Window α :=
  { w with latest := larger time w.latest, total := w.total + bytes }

/-- Takes a sample: `bytes` moved by `time`.  The first sample only opens the
window. -/
def sample (d : Watchdog α) (time : α) (bytes : Nat) : Watchdog α × Option (Alarm α) :=
  match d.window with
  | none => ({ d with window := some ⟨time, time, 0, none⟩ }, none)
  | some before =>
    let now := before.advance time bytes
    if now.elapsed < one then ({ d with window := some now }, none)
    else if d.minSpeed ≤ now.speed then
      ({ d with window := some { now with slowSince := none } }, none)
    else
      let since := now.slowSince.getD before.latest
      let duration := now.latest - since
      let alarm := if d.maxDuration < duration then some ⟨now.speed, duration⟩ else none
      ({ d with window := some { now with slowSince := some since } }, alarm)

/-- `sample`, for totals that are kept in 64 bits. -/
def sampleWord (d : Watchdog α) (time : α) (bytes : Nat) :
    Except ArithmeticFault (Watchdog α × Option (Alarm α)) :=
  match d.window with
  | none => .ok (d.sample time bytes)
  | some w =>
    if 0x10000000000000000 ≤ w.total + bytes then .error .byteTotal
    else .ok (d.sample time bytes)

/-- Whether a sample has been taken. -/
def isStarted (d : Watchdog α) : Bool := d.window.isSome

/-- Bytes per second since the first sample. -/
def speed (d : Watchdog α) : α :=
  match d.window with
  | some w => w.speed
  | none => zero

/-- How long the speed has been below the floor. -/
def slowFor (d : Watchdog α) : α :=
  match d.window with
  | some ⟨_, latest, _, some since⟩ => larger (latest - since) zero
  | _ => zero

/-- Forgets what has been seen. -/
def reset (d : Watchdog α) : Watchdog α := { d with window := none }

end Watchdog

end FrameSocket
