/-!
# Decimal text of binary fractions

Binary floating point numbers written with a fixed number of decimal places.
The digits are those of the exact value, rounded to the nearest multiple of the
last place, a tie going to the even neighbour (`roundDiv`).  The sign survives
rounding to zero, and so does the sign of negative zero.
-/

namespace FrameSocket.Decimal

/-- The integer nearest to `num / den`; of two equally near ones, the even one. -/
def roundDiv (num den : Nat) : Nat :=
  let quotient := num / den
  let rest := num % den
  if 2 * rest < den then quotient
  else if den < 2 * rest then quotient + 1
  else if quotient % 2 = 0 then quotient else quotient + 1

/-- A finite binary fraction, `± mantissa · 2 ^ exponent`. -/
structure Binary where
  /-- Whether the sign bit is set. -/
  negative : Bool
  mantissa : Nat
  exponent : Int
  deriving DecidableEq, Repr

/-- What the bits of a double stand for. -/
inductive Double where
  | finite (value : Binary)
  | infinite (negative : Bool)
  | notANumber
  deriving DecidableEq, Repr

/-- Reads the bits of a double: one sign bit, eleven of exponent, fifty-two of
fraction. -/
def Double.ofBits (bits : UInt64) : Double :=
  let negative := bits >>> 63 = 1
  let exponent := ((bits >>> 52) &&& 0x7FF).toNat
  let fraction := (bits &&& 0xFFFFFFFFFFFFF).toNat
  if exponent = 0x7FF then
    if fraction = 0 then .infinite negative else .notANumber
  else if exponent = 0 then .finite ⟨negative, fraction, -1074⟩
  else .finite ⟨negative, fraction + 0x10000000000000, (exponent : Int) - 1075⟩

/-- `|value| · 10 ^ places`, rounded to an integer. -/
def Binary.scaled (value : Binary) (places : Nat) : Nat :=
  let num := value.mantissa * Nat.pow 10 places
  match value.exponent with
  | .ofNat e => num * Nat.pow 2 e
  | .negSucc e => roundDiv num (Nat.pow 2 (e + 1))

/-- `digits` with leading zeros up to `width`. -/
def padded (width : Nat) (n : Nat) : String :=
  let digits := Nat.toDigits 10 n
  String.ofList (List.replicate (width - digits.length) '0' ++ digits)

/-- A finite value with `places` digits after the point. -/
def Binary.text (value : Binary) (places : Nat) : String :=
  let scaled := value.scaled places
  let whole := padded 1 (scaled / Nat.pow 10 places)
  let fraction := padded places (scaled % Nat.pow 10 places)
  let sign := if value.negative then "-" else ""
  if places = 0 then sign ++ whole else sign ++ whole ++ "." ++ fraction

/-- A double with `places` digits after the point. -/
def fixed (places : Nat) (x : Float) : String :=
  match Double.ofBits x.toBits with
  | .finite value => value.text places
  | .infinite false => "inf"
  | .infinite true => "-inf"
  | .notANumber => "NaN"

end FrameSocket.Decimal
