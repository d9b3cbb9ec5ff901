import RelayTunnel.Bytes

/-!
# UTF-8 text in byte sequences

Reading a byte sequence as text, strictly or with replacement characters, and
the place where a sequence first departs from UTF-8. A character is recognised
from its leading byte, which fixes the range of every byte that has to follow.
-/

namespace RelayTunnel

namespace Utf8

/-- The bytes of a text. -/
def encode (text : String) : Bytes := text.toByteArray.data.toList

/-- The text that `bytes` hold, if they are well formed. -/
def decode? (bytes : Bytes) : Option String := String.fromUTF8? ⟨bytes.toArray⟩

theorem decode?_encode (text : String) : decode? (encode text) = some text := by
  have h : (⟨text.toByteArray.data.toList.toArray⟩ : ByteArray) = text.toByteArray := by
    cases text.toByteArray
    simp
  simp only [decode?, encode, h, String.fromUTF8?]
  rw [dif_pos text.isValidUTF8]
  rfl

theorem encode_of_decode? {bytes : Bytes} {text : String} (h : decode? bytes = some text) :
    encode text = bytes := by
  simp only [decode?, String.fromUTF8?] at h
  split at h
  · cases h
    rfl
  · cases h

/-- The bytes of a text are exactly the well-formed sequences that read as it. -/
theorem decode?_eq_some_iff {bytes : Bytes} {text : String} :
    decode? bytes = some text ↔ encode text = bytes :=
  ⟨encode_of_decode?, fun h => h ▸ decode?_encode text⟩

/-- An inclusive range of byte values. -/
structure Range where
  low : UInt8
  high : UInt8

/-- The range of a byte that carries six bits of a character. -/
def Range.tail : Range := ⟨0x80, 0xBF⟩

/-- Whether a byte lies in the range. -/
def Range.has (range : Range) (byte : UInt8) : Bool :=
  range.low ≤ byte && byte ≤ range.high

/-- What has to follow a leading byte, or `none` for a byte that leads nothing. -/
def following (lead : UInt8) : Option (List Range) :=
  if lead < 0x80 then some []
  else if lead < 0xC2 then none
  else if lead < 0xE0 then some [.tail]
  else if lead = 0xE0 then some [⟨0xA0, 0xBF⟩, .tail]
  else if lead = 0xED then some [⟨0x80, 0x9F⟩, .tail]
  else if lead < 0xF0 then some [.tail, .tail]
  else if lead = 0xF0 then some [⟨0x90, 0xBF⟩, .tail, .tail]
  else if lead < 0xF4 then some [.tail, .tail, .tail]
  else if lead = 0xF4 then some [⟨0x80, 0x8F⟩, .tail, .tail]
  else none

/-- The outcome of matching the bytes behind a leading byte. -/
inductive Match where
  /-- Every range was met. -/
  | complete
  /-- A byte outside its range follows `held` bytes that fit. -/
  | broken (held : Nat)
  /-- The input ended first. -/
  | short
  deriving DecidableEq, Repr

/-- Match `bytes` against the ranges, in order. -/
def matchRanges : List Range → Bytes → Match
  | [], _ => .complete
  | _ :: _, [] => .short
  | range :: ranges, byte :: bytes =>
    if range.has byte then
      match matchRanges ranges bytes with
      | .broken held => .broken (held + 1)
      | other => other
    else
      .broken 0

/-- Where a sequence departs from UTF-8. -/
inductive Defect where
  /-- `length` bytes from `index` on begin no character. -/
  | invalid (length index : Nat)
  /-- The input ends inside the character that begins at `index`. -/
  | incomplete (index : Nat)
  deriving DecidableEq, Repr

/-- The wording of a defect. -/
def Defect.message : Defect → String
  | .invalid length index => s!"invalid utf-8 sequence of {length} bytes from index {index}"
  | .incomplete index => s!"incomplete utf-8 byte sequence from index {index}"

/-- The first defect of `bytes`, which stand at `index` of a longer input. -/
def defectFrom (index : Nat) : Bytes → Option Defect
  | [] => none
  | lead :: bytes =>
    match following lead with
    | none => some (.invalid 1 index)
    | some ranges =>
      match matchRanges ranges bytes with
      | .short => some (.incomplete index)
      | .broken held => some (.invalid (held + 1) index)
      | .complete => defectFrom (index + 1 + ranges.length) (bytes.drop ranges.length)
termination_by bytes => bytes.length
decreasing_by simp only [List.length_cons, List.length_drop]; omega

/-- The first defect of a sequence that is not UTF-8. -/
def defect? (bytes : Bytes) : Option Defect := defectFrom 0 bytes

/-- The bytes of U+FFFD, which stands for a malformed sequence. -/
def replacement : Bytes := [0xEF, 0xBF, 0xBD]

/-- `bytes` with every malformed sequence replaced by U+FFFD. A sequence that
    begins like a character counts as one up to its first wrong byte. -/
def mend : Bytes → Bytes
  | [] => []
  | lead :: bytes =>
    match following lead with
    | none => replacement ++ mend bytes
    | some ranges =>
      match matchRanges ranges bytes with
      | .short => replacement
      | .broken held => replacement ++ mend (bytes.drop held)
      | .complete =>
        lead :: bytes.take ranges.length ++ mend (bytes.drop ranges.length)
termination_by bytes => bytes.length
decreasing_by all_goals simp only [List.length_cons, List.length_drop]; omega

/-- The text of a sequence, with U+FFFD for everything malformed. -/
def decodeLossy (bytes : Bytes) : String := (decode? (mend bytes)).getD ""

end Utf8

end RelayTunnel
