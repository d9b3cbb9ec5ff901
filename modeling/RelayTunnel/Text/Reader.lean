/-!
# Readers

A reader takes something from the front of a text and leaves the rest, or fails.
Where one of two readers may apply, the second starts where the first one did.
-/

namespace RelayTunnel

/-- Takes a value from the front of a text. -/
abbrev Reader := StateT (List Char) Option

namespace Reader

variable {α β : Type}

/-- The next character, which stays. -/
def peek : Reader (Option Char) := fun text => some (text.head?, text)

/-- The next character that satisfies a test. -/
def satisfy (test : Char → Bool) : Reader Char
  | [] => none
  | c :: rest => if test c then some (c, rest) else none

/-- The given character. -/
def mark (c : Char) : Reader Unit := discard (satisfy (· == c))

/-- The given characters in a row. -/
def word (text : String) : Reader Unit := text.toList.forM mark

/-- The longest run of characters that satisfy a test. -/
def run (test : Char → Bool) : Reader (List Char) := fun text =>
  some (text.takeWhile test, text.dropWhile test)

/-- A nonempty run. -/
def run1 (test : Char → Bool) : Reader (List Char) := do
  let found ← run test
  if found.isEmpty then failure else return found

/-- A reader that may find nothing. -/
def maybe (reader : Reader α) : Reader (Option α) := fun text =>
  match reader text with
  | some (value, rest) => some (some value, rest)
  | none => some (none, text)

/-- Exactly so many characters that satisfy a test. -/
def exactly : Nat → (Char → Bool) → Reader (List Char)
  | 0, _ => return []
  | n + 1, test => do
    let c ← satisfy test
    return c :: (← exactly n test)

/-- What a reader finds one after the other, behind what was `found` before, the
    last first; at most once for each character of the first text. -/
def collect (reader : Reader α) (found : List α) : List Char → Reader (List α)
  | [], text => some (found.reverse, text)
  | _ :: more, text =>
    match reader text with
    | some (value, rest) => collect reader (value :: found) more rest
    | none => some (found.reverse, text)

/-- Everything that a reader finds one after the other, where it takes something
    each time. -/
def all (reader : Reader α) : Reader (List α) := fun text => collect reader [] text text

/-- What a reader finds if it uses up the text. -/
def whole? (reader : Reader α) (text : List Char) : Option α :=
  match reader text with
  | some (value, []) => some value
  | _ => none

end Reader

end RelayTunnel
