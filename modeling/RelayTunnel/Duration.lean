import RelayTunnel.Text.Decimal

/-!
# Durations

A span of time in whole nanoseconds, and its short text: the largest unit that
is not zero, with the digits behind the point that are needed and no more.
-/

namespace RelayTunnel

/-- A span of time. -/
structure Duration where
  nanoseconds : Nat
  deriving DecidableEq, Repr, Inhabited

namespace Duration

/-- No time at all. -/
def zero : Duration := ⟨0⟩

/-- So many seconds. -/
def seconds (n : Nat) : Duration := ⟨n * 1000000000⟩

/-- So many thousandths of a second. -/
def milliseconds (n : Nat) : Duration := ⟨n * 1000000⟩

/-- The longest duration: 64 bits of seconds, less a nanosecond. -/
def longest : Duration := ⟨UInt64.size * 1000000000 - 1⟩

/-- The whole seconds. -/
def wholeSeconds (d : Duration) : Nat := d.nanoseconds / 1000000000

/-- What the whole seconds leave, in nanoseconds. -/
def subsecond (d : Duration) : Nat := d.nanoseconds % 1000000000

/-- Whether it is no time at all. -/
def isZero (d : Duration) : Bool := d.nanoseconds == 0

/-- The shorter of two. -/
def min (a b : Duration) : Duration := if a.nanoseconds ≤ b.nanoseconds then a else b

/-- The time in the largest unit that it fills once. -/
def text (d : Duration) : String :=
  if 0 < d.wholeSeconds then
    Decimal.withFraction d.wholeSeconds d.subsecond 9 ++ "s"
  else if 1000000 ≤ d.nanoseconds then
    Decimal.withFraction (d.nanoseconds / 1000000) (d.nanoseconds % 1000000) 6 ++ "ms"
  else if 1000 ≤ d.nanoseconds then
    Decimal.withFraction (d.nanoseconds / 1000) (d.nanoseconds % 1000) 3 ++ "µs"
  else
    s!"{d.nanoseconds}ns"

end Duration

end RelayTunnel
