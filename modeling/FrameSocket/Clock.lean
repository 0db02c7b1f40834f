import FrameSocket.Duration

/-!
# Readings of a clock

One read or write looks at the clock several times: when it begins, and again
whenever it has moved bytes.  Time may pass in between, so what such an operation
is given is not one point in time but all the readings that it takes.
-/

namespace FrameSocket

/-- The readings of the clock that an operation takes, in their order.  Nothing
is asked of them: the clock may jump, and it may run backwards. -/
def Clock := Nat → Duration

namespace Clock

/-- The next reading. -/
def first (now : Clock) : Duration := now 0

/-- The readings behind the next one. -/
def later (now : Clock) : Clock := fun k => now (k + 1)

/-- A clock that stands still for the time of an operation. -/
def still (time : Duration) : Clock := fun _ => time

/-- A time stands for the clock that it stands still on. -/
instance : Coe Duration Clock := ⟨still⟩

/-- A clock that stands still at its start. -/
def zero : Clock := still .zero

/-- A clock that stands still reads the same at once. -/
@[simp] theorem first_still (time : Duration) : (still time).first = time := rfl

/-- And it reads the same ever after. -/
@[simp] theorem later_still (time : Duration) : (still time).later = still time := rfl

end Clock

end FrameSocket
