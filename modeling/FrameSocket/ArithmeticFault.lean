/-!
# Arithmetic faults

Sums of machine words that leave their range.  Such a sum is no error that a
caller could handle: the operation ends there.
-/

namespace FrameSocket

/-- Which sum left its range. -/
inductive ArithmeticFault where
  /-- A total of bytes, kept in 64 bits. -/
  | byteTotal
  /-- A span of time, its seconds kept in 64 bits. -/
  | duration
  /-- A point in time, its seconds kept in 63 bits and a sign. -/
  | instant
  deriving DecidableEq, Repr

/-- The text of the fault. -/
def ArithmeticFault.message : ArithmeticFault → String
  | .byteTotal => "attempt to add with overflow"
  | .duration => "overflow when adding durations"
  | .instant => "overflow when adding duration to instant"

end FrameSocket
