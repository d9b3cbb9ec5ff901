import RelayTunnel.Duration

/-!
# Binary floating point

Numbers of 64 bits in the binary interchange format, by their bits: the value of
a finite one as a mantissa and a power of two, rounding of a quotient to the
nearest integer, and the product of a duration and a factor.
-/

namespace RelayTunnel

/-- The integer nearest to `num / den`, the even one of two. -/
def roundHalfEven (num den : Nat) : Nat :=
  let quotient := num / den
  let twice := 2 * (num % den)
  if twice < den then quotient
  else if den < twice then quotient + 1
  else quotient + quotient % 2

namespace Double

/-- The weight of the lowest bit of the exponent. -/
def exponentUnit : Nat := 0x10000000000000

/-- A finite magnitude, `mantissa * 2 ^ exponent`. -/
structure Magnitude where
  mantissa : Nat
  exponent : Int
  deriving DecidableEq, Repr

/-- The magnitude of a finite number, `none` for infinities and NaN. -/
def magnitude? (bits : UInt64) : Option Magnitude :=
  let fraction : Nat := bits.toNat % exponentUnit
  let biased : Nat := bits.toNat / exponentUnit % 2048
  if biased = 2047 then none
  else if biased = 0 then some ⟨fraction, -1074⟩
  else some ⟨fraction + exponentUnit, (biased : Int) - 1075⟩

/-- Whether the sign bit is set. -/
def isNegative (bits : UInt64) : Bool := 0x8000000000000000 ≤ bits

/-- The integer nearest to `factor` times the magnitude, the even one of two. -/
def Magnitude.scaled (m : Magnitude) (factor : Nat) : Nat :=
  match m.exponent with
  | .ofNat e => (m.mantissa * factor) <<< e
  | .negSucc e => roundHalfEven (m.mantissa * factor) (1 <<< (e + 1))

/-- The bits of infinity. -/
def infinity : UInt64 := 0x7FF0000000000000

/-- The bits of the number nearest to `num / den`, the even one of two, for a
    positive `den`. The last place of the result is worth `2 ^ place`, and counting
    the places from the least one adds up the bits of exponent and mantissa. -/
def ofRatio (num den : Nat) : UInt64 :=
  if num = 0 then 0
  else
    let estimate : Int := (num.log2 : Int) - den.log2
    let fits := num <<< (-estimate).toNat < den <<< estimate.toNat
    let place : Int := max ((if fits then estimate - 1 else estimate) - 52) (-1074)
    let mantissa := roundHalfEven (num <<< (-place).toNat) (den <<< place.toNat)
    let bits := (place + 1074).toNat * exponentUnit + mantissa
    if infinity.toNat ≤ bits then infinity else UInt64.ofNat bits

/-- The bits of the number nearest to `digits * 10 ^ exponent`. Beyond 400 powers
    of ten from one, every number is infinity or zero. -/
def ofDecimal (digits : Nat) (exponent : Int) : UInt64 :=
  let size : Int := (Nat.toDigits 10 digits).length
  if digits = 0 ∨ exponent + size < -400 then 0
  else if 400 < exponent + size then infinity
  else ofRatio (digits * Nat.pow 10 exponent.toNat) (Nat.pow 10 (-exponent).toNat)

/-- The same number with the other sign. -/
def negate (bits : UInt64) : UInt64 := bits ^^^ 0x8000000000000000

/-- The bits of the number nearest to an integer. -/
def ofInt (n : Int) : UInt64 :=
  if n < 0 then negate (ofRatio n.natAbs 1) else ofRatio n.natAbs 1

/-- The duration of so many seconds to the nearest nanosecond. A negative number
    of seconds, NaN and whatever is longer than the longest duration have none. -/
def toDuration? (secs : Float) : Option Duration := do
  let bits := secs.toBits
  let magnitude ← magnitude? bits
  let nanoseconds := magnitude.scaled 1000000000
  if isNegative bits && magnitude.mantissa ≠ 0 then none
  else if Duration.longest.nanoseconds < nanoseconds then none
  else some ⟨nanoseconds⟩

/-- A duration in seconds. -/
def ofDuration (d : Duration) : Float :=
  (UInt64.ofNat d.wholeSeconds).toFloat + (UInt64.ofNat d.subsecond).toFloat / 1000000000

end Double

/-- The duration times a factor given by its bits, where the product is one. -/
def Duration.scale? (d : Duration) (factor : UInt64) : Option Duration :=
  Double.toDuration? (Double.ofDuration d * Float.ofBits factor)

end RelayTunnel
