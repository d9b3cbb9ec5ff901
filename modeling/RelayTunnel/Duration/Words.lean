import RelayTunnel.Duration
import RelayTunnel.Text.Blank
import RelayTunnel.Text.Decimal
import RelayTunnel.Text.Quoted

/-!
# Durations in words

The form in which durations stand in settings: numbers with units, `1h 5m`. A
month is a twelfth of a year and a year has 365.25 days. A number may have a
fraction if the result is a whole count of what its unit is counted in.
-/

namespace RelayTunnel

namespace Duration

/-- Why a text is no duration. Offsets count bytes. -/
inductive WordsDefect where
  | empty
  | numberExpected (offset : Nat)
  | invalidCharacter (offset : Nat)
  /-- A number without a unit. -/
  | unitNeeded (number : Nat)
  | unknownUnit (unit : String)
  | unrepresentable
  deriving DecidableEq, Repr

/-- The wording of a defect. -/
def WordsDefect.message : WordsDefect → String
  | empty => "value was empty"
  | numberExpected offset => s!"expected number at {offset}"
  | invalidCharacter offset => s!"invalid character at {offset}"
  | unitNeeded number => s!"time unit needed, for example {number}sec or {number}ms"
  | unknownUnit unit =>
    s!"unknown time unit {Quoted.encode unit}, supported units: ns, us/µs, ms, sec, min, " ++
      "hours, days, weeks, months, years (and few variations)"
  | unrepresentable =>
    "number is too large or cannot be represented without a lack of precision " ++
      "(values below 1ns are not supported)"

/-- A unit of time. -/
structure TimeUnit where
  /-- How long it is. -/
  nanoseconds : Nat
  /-- What a fraction of it has to be a whole number of, in nanoseconds. -/
  grain : Nat
  names : List String

/-- The length of a second in nanoseconds. -/
def second : Nat := 1000000000

/-- The units from the shortest to the longest. -/
def units : List TimeUnit :=
  [ ⟨1, 1, ["nanos", "nsec", "ns"]⟩,
    ⟨1000, 1, ["usec", "us", "µs"]⟩,
    ⟨1000000, 1, ["millis", "msec", "ms"]⟩,
    ⟨second, 1, ["seconds", "second", "secs", "sec", "s"]⟩,
    ⟨60 * second, 1, ["minutes", "minute", "min", "mins", "m"]⟩,
    ⟨3600 * second, second, ["hours", "hour", "hrs", "hr", "h"]⟩,
    ⟨86400 * second, second, ["days", "day", "d"]⟩,
    ⟨604800 * second, second, ["weeks", "week", "wk", "wks", "w"]⟩,
    ⟨2630016 * second, second, ["months", "month", "M"]⟩,
    ⟨31557600 * second, second, ["years", "year", "yr", "yrs", "y"]⟩ ]

/-- What stands behind the point of a number: `numerator / denominator`. -/
structure Fraction where
  numerator : Nat
  denominator : Nat

/-- A number of 64 bits, or none. -/
def word? (n : Nat) : Except WordsDefect Nat :=
  if n < UInt64.size then .ok n else .error .unrepresentable

/-- `total` and `amount * size` together, where the product has to be a 64-bit
    number of grains and what does not fill a second 64 bits of nanoseconds. -/
def plus (total : Duration) (amount size grain : Nat) : Except WordsDefect Duration := do
  let grains ← word? (amount * (size / grain))
  let added := grains * grain
  if grain < second then
    discard (word? (total.subsecond + added))
  if longest.nanoseconds < total.nanoseconds + added then .error .unrepresentable
  else return ⟨total.nanoseconds + added⟩

/-- What a fraction of a unit adds. -/
def plusFraction (total : Duration) (unit : TimeUnit) (part : Fraction) :
    Except WordsDefect Duration := do
  let scaled ← word? (part.numerator * (unit.nanoseconds / unit.grain))
  if unit.nanoseconds = 1 || scaled % part.denominator ≠ 0 then
    .error .unrepresentable
  else
    plus total (scaled / part.denominator) unit.grain unit.grain

/-- What a number with a unit adds. -/
def plusUnit (total : Duration) (number : Nat) (part : Option Fraction) (name : String) :
    Except WordsDefect Duration := do
  match units.find? (·.names.contains name) with
  | none => .error (if name.isEmpty then .unitNeeded number else .unknownUnit name)
  | some unit =>
    let whole ← plus total number unit.nanoseconds (if unit.nanoseconds < second then 1 else second)
    match part with
    | none => return whole
    | some part => plusFraction whole unit part

/-- Where the reading of a text stands. -/
inductive WordsStage where
  /-- Before a number, looked for since `offset`; `first` if there was none yet. -/
  | before (offset : Nat) (first : Bool)
  /-- Behind digits before the point. -/
  | whole (number : Nat)
  /-- Behind the point; a bad character counts as found at `offset`. -/
  | fraction (number : Nat) (part : Fraction) (offset : Nat)
  /-- Behind letters of a unit, given backwards. -/
  | unit (number : Nat) (part : Option Fraction) (letters : List Char)

/-- Whether a character may stand in the name of a unit. -/
def isUnitLetter (c : Char) : Bool := c.isAlpha || c == 'µ'

/-- Whether there is a digit behind the point. -/
def Fraction.isGiven (part : Fraction) : Bool := part.denominator ≠ 1

/-- The reading after one more character, where `offset` is that of the character. -/
def WordsStage.next (stage : WordsStage) (total : Duration) (offset : Nat) (c : Char) :
    Except WordsDefect (WordsStage × Duration) := do
  match stage with
  | before since first =>
    if let some d := Decimal.digit? c then return (.whole d, total)
    else if isBlank c then return (.before since first, total)
    else .error (.numberExpected since)
  | whole number =>
    if let some d := Decimal.digit? c then return (.whole (← word? (number * 10 + d)), total)
    else if isBlank c then return (.whole number, total)
    else if isUnitLetter c then return (.unit number none [c], total)
    else if c = '.' then return (.fraction number ⟨0, 1⟩ offset, total)
    else .error (.invalidCharacter offset)
  | fraction number part place =>
    if let some d := Decimal.digit? c then
      let denominator ← word? (part.denominator * 10)
      return (.fraction number ⟨part.numerator * 10 + d, denominator⟩ (offset + 1), total)
    else if isBlank c then return (.fraction number part (offset + c.utf8Size), total)
    else if isUnitLetter c && part.isGiven then return (.unit number (some part) [c], total)
    else .error (.invalidCharacter place)
  | unit number part letters =>
    let name := String.ofList letters.reverse
    if let some d := Decimal.digit? c then return (.whole d, ← plusUnit total number part name)
    else if isBlank c then
      return (.before (offset + c.utf8Size) false, ← plusUnit total number part name)
    else if isUnitLetter c then return (.unit number part (c :: letters), total)
    else .error (.invalidCharacter offset)

/-- The duration when the text has ended. -/
def WordsStage.finish (stage : WordsStage) (total : Duration) : Except WordsDefect Duration :=
  match stage with
  | before _ first => if first then .error .empty else .ok total
  | whole number => .error (.unitNeeded number)
  | fraction number part place =>
    .error (if part.isGiven then .unitNeeded number else .invalidCharacter place)
  | unit number part letters => plusUnit total number part (String.ofList letters.reverse)

/-- The duration that the rest of a text completes. -/
def readFrom (stage : WordsStage) (total : Duration) (offset : Nat) :
    List Char → Except WordsDefect Duration
  | [] => stage.finish total
  | c :: rest => do
    let (stage, total) ← stage.next total offset c
    readFrom stage total (offset + c.utf8Size) rest

/-- The duration that a text denotes. Nought needs no unit. -/
def ofWords (text : String) : Except WordsDefect Duration :=
  if text = "0" then .ok .zero else readFrom (.before 0 true) .zero 0 text.toList

/-- A count with a unit, left out for zero. -/
def counted (unit : String) (n : Nat) : List String := if n = 0 then [] else [s!"{n}{unit}"]

/-- A count with a unit that has a plural. -/
def countedPlural (unit : String) (n : Nat) : List String :=
  counted (if n = 1 then unit else unit ++ "s") n

/-- A duration in words, the longest units first. -/
def words (d : Duration) : String :=
  let inYear := d.wholeSeconds % 31557600
  let inMonth := inYear % 2630016
  let inDay := inMonth % 86400
  if d.isZero then "0s"
  else
    " ".intercalate (
      countedPlural "year" (d.wholeSeconds / 31557600) ++
      countedPlural "month" (inYear / 2630016) ++
      countedPlural "day" (inMonth / 86400) ++
      counted "h" (inDay / 3600) ++
      counted "m" (inDay % 3600 / 60) ++
      counted "s" (inDay % 60) ++
      counted "ms" (d.subsecond / 1000000) ++
      counted "us" (d.subsecond / 1000 % 1000) ++
      counted "ns" (d.subsecond % 1000))

end Duration

end RelayTunnel
