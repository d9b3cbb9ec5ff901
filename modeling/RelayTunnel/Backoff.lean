import RelayTunnel.Double

/-!
# Backoff between attempts

A bounded number of attempts: the first at once, each later one after a delay
that grows by a factor up to a cap.
-/

namespace RelayTunnel

/-- How a lost session is taken up again (`ReconnectConfig`). -/
structure ReconnectSettings where
  maxAttempts : Nat := 5
  initialBackoff : Duration := .milliseconds 200
  maxBackoff : Duration := .seconds 10
  /-- The factor by which the delay grows, by its bits. -/
  multiplier : UInt64 := 0x4000000000000000
  deriving DecidableEq, Repr

/-- The state of a series of attempts. -/
structure Backoff where
  settings : ReconnectSettings
  /-- The delay before the next attempt but the first. -/
  current : Duration
  /-- The attempts handed out. -/
  attempt : Nat
  deriving DecidableEq, Repr

namespace Backoff

/-- A series before its first attempt (`Backoff.new`). -/
def start (settings : ReconnectSettings) : Backoff :=
  { settings, current := settings.initialBackoff, attempt := 0 }

/-- The delay that follows `delay`, where `grown` is its product with the factor
    if there is one. -/
def cap (settings : ReconnectSettings) : Option Duration → Duration
  | some grown => grown.min settings.maxBackoff
  | none => settings.maxBackoff

/-- The delay before the next attempt, `none` when the attempts are used up,
    where `grow` multiplies a delay by the factor if the product is a duration. -/
def nextWith (grow : Duration → Option Duration) (b : Backoff) : Option (Duration × Backoff) :=
  if b.settings.maxAttempts ≤ b.attempt then
    none
  else if b.attempt = 0 then
    some (.zero, { b with attempt := 1 })
  else
    some (b.current,
      { b with current := cap b.settings (grow b.current), attempt := b.attempt + 1 })

/-- The delay before the next attempt, growing by the factor of the settings
    (`Backoff.next_delay`). -/
def next (b : Backoff) : Option (Duration × Backoff) :=
  b.nextWith (·.scale? b.settings.multiplier)

end Backoff

end RelayTunnel
