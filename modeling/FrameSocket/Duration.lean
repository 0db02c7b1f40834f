import FrameSocket.Text.Decimal

/-!
# Durations

Spans of time, counted in whole nanoseconds.  A point in time is written as the
span since the clock's start, so the same type serves as a clock reading.

`Duration.text` shows a span in the largest of s, ms, µs and ns in which its
whole part is not zero, with as many decimals as the span needs.
-/

namespace FrameSocket

/-- A span of time. -/
structure Duration where
  nanoseconds : Nat
  deriving DecidableEq, Repr, Inhabited

namespace Duration

/-- No time at all. -/
def zero : Duration := ⟨0⟩

/-- Nanoseconds in a second. -/
def perSecond : Nat := 1000000000

/-- `seconds` s and `nanoseconds` ns. -/
def of (seconds nanoseconds : Nat) : Duration := ⟨seconds * perSecond + nanoseconds⟩

/-- So many seconds. -/
def ofSeconds (n : Nat) : Duration := ⟨n * perSecond⟩

/-- So many milliseconds. -/
def ofMillis (n : Nat) : Duration := ⟨n * 1000000⟩

/-- So many microseconds. -/
def ofMicros (n : Nat) : Duration := ⟨n * 1000⟩

/-- Whole seconds. -/
def seconds (d : Duration) : Nat := d.nanoseconds / perSecond

/-- Nanoseconds beyond the whole seconds. -/
def subsecNanos (d : Duration) : Nat := d.nanoseconds % perSecond

/-- Whole microseconds beyond the whole seconds. -/
def subsecMicros (d : Duration) : Nat := d.subsecNanos / 1000

/-- The span in milliseconds, a begun millisecond counted as a whole one. -/
def millisCeil (d : Duration) : Nat := (d.nanoseconds + 999999) / 1000000

instance : Add Duration := ⟨fun a b => ⟨a.nanoseconds + b.nanoseconds⟩⟩

/-- The time from `b` to `a`; none if `b` is the later. -/
instance : Sub Duration := ⟨fun a b => ⟨a.nanoseconds - b.nanoseconds⟩⟩

instance : LE Duration := ⟨fun a b => a.nanoseconds ≤ b.nanoseconds⟩

instance : LT Duration := ⟨fun a b => a.nanoseconds < b.nanoseconds⟩

instance (a b : Duration) : Decidable (a ≤ b) :=
  inferInstanceAs (Decidable (a.nanoseconds ≤ b.nanoseconds))

instance (a b : Duration) : Decidable (a < b) :=
  inferInstanceAs (Decidable (a.nanoseconds < b.nanoseconds))

instance : Min Duration := ⟨fun a b => if a ≤ b then a else b⟩

/-- The span in seconds, as a double: the whole seconds and the nanoseconds are
converted on their own and then added. -/
def toSeconds (d : Duration) : Float :=
  d.seconds.toUInt64.toFloat + d.subsecNanos.toUInt64.toFloat / 1000000000.0

/-- `whole.fraction` in a unit of `10 ^ places` parts, less trailing zeros. -/
private def inUnit (whole fraction places : Nat) : String :=
  let digits := (Decimal.padded places fraction).toList.reverse.dropWhile (· = '0')
  let shown := Decimal.padded 1 whole
  if fraction = 0 then shown else shown ++ "." ++ String.ofList digits.reverse

/-- A span in its largest unit with a whole part. -/
def text (d : Duration) : String :=
  let n := d.nanoseconds
  if perSecond ≤ n then inUnit (n / perSecond) (n % perSecond) 9 ++ "s"
  else if 1000000 ≤ n then inUnit (n / 1000000) (n % 1000000) 6 ++ "ms"
  else if 1000 ≤ n then inUnit (n / 1000) (n % 1000) 3 ++ "µs"
  else inUnit n 0 0 ++ "ns"

/-- A span that may be unbounded. -/
def boundText : Option Duration → String
  | none => "None"
  | some d => "Some(" ++ d.text ++ ")"

end Duration

end FrameSocket
