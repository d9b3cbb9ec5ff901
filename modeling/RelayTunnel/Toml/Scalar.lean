import RelayTunnel.Double
import RelayTunnel.Net.Reading
import RelayTunnel.Toml.Value

/-!
# Scalars of a settings document

Numbers, moments, truth values and texts of a TOML document, and the blanks and
comments between them.
-/

namespace RelayTunnel

namespace Toml

open Reader

/-! ## Blanks -/

/-- A space or a tab. -/
def isSpace (c : Char) : Bool := c == ' ' || c == '\t'

/-- Spaces and tabs. -/
def spaces : Reader Unit := discard (run isSpace)

/-- The end of a line. -/
def newline : Reader Unit := mark '\n' <|> word "\r\n"

/-- Whether a character may stand in a comment or a text. -/
def isShown (c : Char) : Bool := c == '\t' || 0x20 ≤ c.toNat && c.toNat ≠ 0x7F

/-- A comment up to the end of its line. -/
def comment : Reader Unit := do
  mark '#'
  discard (run isShown)

/-- The end of a line or of the document. -/
def lineEnd : Reader Unit := fun text =>
  if text.isEmpty then some ((), []) else newline text

/-- What may follow on the line of a statement. -/
def trailing : Reader Unit := do
  spaces
  discard (maybe comment)
  lineEnd

/-- Spaces, ends of lines and comments. -/
def blank : Reader Unit :=
  discard (all (discard (run1 isSpace) <|> newline <|> (do comment; newline)))

/-! ## Numbers -/

/-- Digits that single underscores may separate. -/
def separatedDigits (isDigit : Char → Bool) : Reader (List Char) := do
  let first ← satisfy isDigit
  let rest ← all (do discard (maybe (mark '_')); satisfy isDigit)
  return first :: rest

/-- The digits of a decimal integer, which do not begin with a needless zero. -/
def plainDigits : Reader (List Char) := do
  match ← peek with
  | some '0' => do mark '0'; return ['0']
  | _ => separatedDigits Char.isDigit

/-- A sign, negative or not. -/
def sign : Reader Bool := do
  match ← peek with
  | some '-' => do mark '-'; return true
  | some '+' => do mark '+'; return false
  | _ => return false

/-- An integer of 64 bits with its sign. -/
def integer64 (negative : Bool) (magnitude : Nat) : Option Int :=
  let value : Int := if negative then -magnitude else magnitude
  if -0x8000000000000000 ≤ value ∧ value < 0x8000000000000000 then some value else none

/-- An integer in the notation of a radix other than ten. -/
def radixInteger (name : String) (radix : Nat) : Reader Int := do
  word name
  let found ← separatedDigits fun c => (Net.digitValue? radix c).isSome
  (integer64 false (Net.digitsValue radix found) : Option Int)

/-- A decimal integer. -/
def decimalInteger : Reader Int := do
  let negative ← sign
  let found ← plainDigits
  (integer64 negative (Net.digitsValue 10 found) : Option Int)

/-- An integer. -/
def integer : Reader Int :=
  radixInteger "0x" 16 <|> radixInteger "0o" 8 <|> radixInteger "0b" 2 <|> decimalInteger

/-- The digits behind a point. -/
def fractionDigits : Reader (List Char) := do
  mark '.'
  separatedDigits Char.isDigit

/-- An exponent. -/
def exponent : Reader Int := do
  discard (satisfy fun c => c == 'e' || c == 'E')
  let negative ← sign
  let value := Net.digitsValue 10 (← separatedDigits Char.isDigit)
  return if negative then -value else value

/-- A number with a fraction or an exponent. Too large a number is infinite, which
    only a negative one may be. -/
def finiteFloat : Reader UInt64 := do
  let negative ← sign
  let whole ← plainDigits
  let fraction ← maybe fractionDigits
  let power ← if fraction.isSome then maybe exponent else some <$> exponent
  let digits := whole ++ fraction.getD []
  let bits := Double.ofDecimal (Net.digitsValue 10 digits)
    (power.getD 0 - (fraction.getD []).length)
  if negative then return Double.negate bits
  else if bits = Double.infinity then failure
  else return bits

/-- Infinity, or a value that is no number. -/
def specialFloat : Reader UInt64 := do
  let negative ← sign
  let bits ← (do word "inf"; return Double.infinity) <|>
    (do word "nan"; return 0x7FF8000000000000)
  return if negative then Double.negate bits else bits

/-- A floating-point number. -/
def float : Reader UInt64 := finiteFloat <|> specialFloat

/-! ## Moments -/

/-- A number of exactly so many digits within limits. -/
def field (size low high : Nat) : Reader Nat := do
  let value := Net.digitsValue 10 (← exactly size Char.isDigit)
  if low ≤ value && value ≤ high then return value else failure

/-- The number of days in a month. -/
def daysIn (year month : Nat) : Nat :=
  let leap := year % 4 = 0 && (year % 100 ≠ 0 || year % 400 = 0)
  if month = 2 then (if leap then 29 else 28)
  else if month = 4 || month = 6 || month = 9 || month = 11 then 30
  else 31

/-- A day of the calendar. -/
def date : Reader Unit := do
  let year ← field 4 0 9999
  mark '-'
  let month ← field 2 1 12
  mark '-'
  discard (field 2 1 (daysIn year month))

/-- A time of day. -/
def time : Reader Unit := do
  discard (field 2 0 23)
  mark ':'
  discard (field 2 0 59)
  mark ':'
  discard (field 2 0 60)
  discard (maybe (do mark '.'; run1 Char.isDigit))

/-- The distance of a time from the universal one. -/
def zone : Reader Unit :=
  discard (satisfy fun c => c == 'Z' || c == 'z') <|> do
    discard (satisfy fun c => c == '+' || c == '-')
    discard (field 2 0 23)
    mark ':'
    discard (field 2 0 59)

/-- A date with a time, a date or a time. -/
def moment : Reader String := fun text => do
  let behindDate : Reader Unit := do
    discard (satisfy fun c => c == 'T' || c == 't' || c == ' ')
    time
    discard (maybe zone)
  let reader : Reader Unit := (do date; discard (maybe behindDate)) <|> time
  let ((), rest) ← reader text
  return (String.ofList (text.take (text.length - rest.length)), rest)

/-! ## Texts -/

/-- The character with a code given by so many hexadecimal digits. -/
def codePoint (size : Nat) : Reader Char := do
  let code := Net.digitsValue 16 (← exactly size fun c => (Net.digitValue? 16 c).isSome)
  if code.isValidChar then return Char.ofNat code else failure

/-- A character behind a backslash. -/
def escape : Reader Char := do
  mark '\\'
  match ← satisfy fun _ => true with
  | 'b' => return '\x08'
  | 't' => return '\t'
  | 'n' => return '\n'
  | 'f' => return '\x0C'
  | 'r' => return '\r'
  | '"' => return '"'
  | '\\' => return '\\'
  | 'u' => codePoint 4
  | 'U' => codePoint 8
  | _ => failure

/-- A text on one line between quotation marks. -/
def basicText : Reader String := do
  mark '"'
  let pieces ← all (run1 (fun c => isShown c && c ≠ '"' && c ≠ '\\') <|> (do return [← escape]))
  mark '"'
  return String.ofList pieces.flatten

/-- A text on one line between apostrophes, without escapes. -/
def literalText : Reader String := do
  mark '\''
  let chars ← run fun c => isShown c && c ≠ '\''
  mark '\''
  return String.ofList chars

/-- A backslash at the end of a line, which takes all blanks behind it along. -/
def lineContinuation : Reader Unit := do
  mark '\\'
  spaces
  newline
  discard (all (discard (run1 isSpace) <|> newline))

/-- At most two of the delimiter's characters with something else behind them. -/
def innerMarks (delimiter : Char) : Reader (List Char) := fun text =>
  let marks := text.takeWhile (· == delimiter)
  if 0 < marks.length && marks.length < 3 then some (marks, text.drop marks.length) else none

/-- The end of a text of many lines: the delimiter thrice, before it at most two
    more that belong to the text. -/
def closing (delimiter : Char) : Reader (List Char) := fun text =>
  let count := (text.takeWhile (· == delimiter)).length
  if count < 3 then none
  else
    let extra := min (count - 3) 2
    some (List.replicate extra delimiter, text.drop (extra + 3))

/-- A text of many lines between threefold delimiters, where `piece` reads what
    is no delimiter. An end of line right behind the opening does not count. -/
def manyLines (delimiter : Char) (piece : Reader (List Char)) : Reader String := do
  discard (exactly 3 (· == delimiter))
  discard (maybe newline)
  let pieces ← all (piece <|> innerMarks delimiter)
  let final ← closing delimiter
  return String.ofList (pieces.flatten ++ final)

/-- A text of many lines with escapes. -/
def basicLines : Reader String :=
  manyLines '"' <|
    run1 (fun c => isShown c && c ≠ '"' && c ≠ '\\') <|>
    (do lineContinuation; return []) <|>
    (do return [← escape]) <|>
    (do newline; return ['\n'])

/-- A text of many lines without escapes. -/
def literalLines : Reader String :=
  manyLines '\'' <|
    run1 (fun c => isShown c && c ≠ '\'') <|>
    (do newline; return ['\n'])

/-- A text in any of the four forms. -/
def text : Reader String := basicLines <|> basicText <|> literalLines <|> literalText

/-- A value without parts. -/
def scalar : Reader Value :=
  (.text <$> text) <|>
  (do word "true"; return .boolean true) <|>
  (do word "false"; return .boolean false) <|>
  (.moment <$> moment) <|>
  (.float <$> float) <|>
  (.integer <$> integer)

end Toml

end RelayTunnel
