/-!
# Punycode

The form of a label with characters outside ASCII: its ASCII characters, then the
others as a series of differences, each written in base 36 with digits whose
weights adapt to the differences so far.
-/

namespace RelayTunnel

namespace Punycode

/-- The digit of a value below 36. -/
def digit (value : Nat) : Char :=
  if value < 26 then Char.ofNat (0x61 + value) else Char.ofNat (0x30 + value - 26)

/-- The value of a digit. -/
def value? (c : Char) : Option Nat :=
  if 'a' ≤ c ∧ c ≤ 'z' then some (c.toNat - 0x61)
  else if 'A' ≤ c ∧ c ≤ 'Z' then some (c.toNat - 0x41)
  else if '0' ≤ c ∧ c ≤ '9' then some (c.toNat - 0x30 + 26)
  else none

/-- The threshold of the digit with weight `k`. -/
def threshold (k bias : Nat) : Nat :=
  if k ≤ bias then 1 else if bias + 26 ≤ k then 26 else k - bias

/-- Divide until the difference is small, counting 36 for each division. -/
def settle (delta k : Nat) : Nat :=
  if 455 < delta then settle (delta / 35) (k + 36)
  else k + 36 * delta / (delta + 38)
termination_by delta
decreasing_by omega

/-- The bias after a difference, `count` characters being placed. -/
def adapt (delta count : Nat) (first : Bool) : Nat :=
  let delta := if first then delta / 700 else delta / 2
  settle (delta + delta / count) 0

/-- The digits of a difference; the first argument bounds their number. -/
def encodeNumber (bias : Nat) : Nat → Nat → Nat → List Char
  | 0, _, _ => []
  | most + 1, k, q =>
    let t := threshold k bias
    if q < t then [digit q]
    else digit (t + (q - t) % (36 - t)) :: encodeNumber bias most (k + 36) ((q - t) / (36 - t))

/-- The state of writing differences. -/
structure Writing where
  delta : Nat
  bias : Nat
  placed : Nat
  first : Bool
  output : List Char

/-- Account for one character of the label while the code point `next` is placed. -/
def writeChar (next : Nat) (w : Writing) (point : Nat) : Writing :=
  if point < next then { w with delta := w.delta + 1 }
  else if point = next then
    { delta := 0
      bias := adapt w.delta (w.placed + 1) w.first
      placed := w.placed + 1
      first := false
      output := w.output ++ encodeNumber w.bias 16 36 w.delta }
  else w

/-- Place the given code points, in increasing order; those below `start` have
    been accounted for. -/
def writeAll (points : List Nat) : List Nat → Nat → Writing → Writing
  | [], _, w => w
  | next :: nexts, start, w =>
    let w := { w with delta := w.delta + (next - start) * (w.placed + 1) }
    let w := points.foldl (writeChar next) w
    writeAll points nexts (next + 1) { w with delta := w.delta + 1 }

/-- A sorted list without repetitions. -/
def distinct : List Nat → List Nat
  | a :: b :: rest => if a = b then distinct (b :: rest) else a :: distinct (b :: rest)
  | short => short

/-- The form of a label. -/
def encode (label : List Char) : List Char :=
  let points := label.map Char.toNat
  let basic := label.filter fun c => c.toNat < 0x80
  let nexts := distinct ((points.filter (0x80 ≤ ·)).mergeSort)
  let start := if basic.isEmpty then [] else basic ++ ['-']
  (writeAll points nexts 0x80 ⟨0, 72, basic.length, true, start⟩).output

/-- A difference at the front of digits: its value and the rest. -/
def decodeNumber (bias k weight total : Nat) : List Char → Option (Nat × List Char)
  | [] => none
  | c :: rest => do
    let value ← value? c
    let total := total + value * weight
    let t := threshold k bias
    if value < t then some (total, rest)
    else decodeNumber bias (k + 36) (weight * (36 - t)) total rest

/-- The state of reading differences. -/
structure Reading where
  point : Nat
  index : Nat
  bias : Nat
  first : Bool
  output : List Nat

/-- Place the characters that the digits stand for; the first argument bounds
    their number. -/
def readAll : Nat → Reading → List Char → Option (List Nat)
  | _, r, [] => some r.output
  | 0, _, _ => none
  | most + 1, r, digits => do
    let (delta, rest) ← decodeNumber r.bias 36 1 0 digits
    let count := r.output.length + 1
    let point := r.point + (r.index + delta) / count
    let index := (r.index + delta) % count
    if 0x10FFFF < point then none
    else
      readAll most
        { point, index := index + 1, bias := adapt delta count r.first, first := false
          output := r.output.take index ++ point :: r.output.drop index } rest

/-- The label of a form. A dash that only digits follow has to have something in
    front of it. -/
def decode? (form : List Char) : Option (List Char) := do
  let digits := (form.reverse.takeWhile (· ≠ '-')).reverse
  let basic := form.take (form.length - digits.length - 1)
  guard (form.length ≠ digits.length + 1)
  let points ← readAll form.length ⟨0x80, 0, 72, true, basic.map Char.toNat⟩ digits
  if points.all Nat.isValidChar then some (points.map Char.ofNat) else none

end Punycode

end RelayTunnel
