/-!
# Decimal digits

Digits of natural numbers with a fixed width, and fractions without trailing
zeros.
-/

namespace RelayTunnel

namespace Decimal

/-- The digits of `n`, with zeros in front up to `width` of them. -/
def padded (width n : Nat) : String :=
  let digits := toString n
  "".pushn '0' (width - digits.length) ++ digits

/-- `digits` without the zeros at its end. -/
def trimZeros (digits : String) : String :=
  String.ofList (digits.toList.reverse.dropWhile (· == '0')).reverse

/-- `whole` followed by `part / 10 ^ places` as a fraction, the point left out
    when nothing follows it. -/
def withFraction (whole part places : Nat) : String :=
  let fraction := trimZeros (padded places part)
  if fraction.isEmpty then toString whole else s!"{whole}.{fraction}"

/-- The value of a digit. -/
def digit? (c : Char) : Option Nat :=
  if c.isDigit then some (c.toNat - '0'.toNat) else none

/-- Why a text is no number within a limit. -/
inductive Defect where
  | empty
  | invalidDigit
  | tooLarge
  deriving DecidableEq, Repr

/-- The wording of a defect. -/
def Defect.message : Defect → String
  | empty => "cannot parse integer from empty string"
  | invalidDigit => "invalid digit found in string"
  | tooLarge => "number too large to fit in target type"

/-- The number that digits behind those of `total` make, up to a limit; the first
    character that spoils it decides the defect. -/
def extend (limit total : Nat) : List Char → Except Defect Nat
  | [] => .ok total
  | c :: rest =>
    match digit? c with
    | none => .error .invalidDigit
    | some d => if limit < total * 10 + d then .error .tooLarge else extend limit (total * 10 + d) rest

/-- The number up to a limit that a text denotes: digits, perhaps behind a plus
    sign. -/
def read (limit : Nat) (text : String) : Except Defect Nat :=
  match text.toList with
  | [] => .error .empty
  | ['+'] => .error .invalidDigit
  | '+' :: digits => extend limit 0 digits
  | digits => extend limit 0 digits

end Decimal

end RelayTunnel
