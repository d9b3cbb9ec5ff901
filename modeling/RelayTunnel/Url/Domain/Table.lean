import RelayTunnel.Net.Reading

/-!
# Tables of code points

A table gives properties to code points outside ASCII. It is written in words
between blanks and ends of lines, with code points in hexadecimal: in a table of steps, a word
`first=value` gives its value to all code points from `first` to the next word.
-/

namespace RelayTunnel

namespace PointTable

/-- A code point. -/
def point : Reader Nat := do
  return Net.digitsValue 16 (← Reader.run1 fun c => (Net.digitValue? 16 c).isSome)

/-- The words of a table. -/
def texts (table : String) : List String :=
  ((table.splitOn "\n").flatMap (·.splitOn " ")).filter (· ≠ "")

/-- What a reader makes of the words of a table. -/
def words {α : Type} (word : Reader α) (table : String) : List α :=
  ((texts table).mapM fun text => word.whole? text.toList).getD []

/-- A step of a table: where it begins, and the value from there on. -/
def step {α : Type} (value : Reader α) : Reader (Nat × α) := do
  let first ← point
  Reader.mark '='
  return (first, ← value)

/-- The steps of a table. -/
def steps {α : Type} (value : Reader α) (table : String) : Array (Nat × α) :=
  (words (step value) table).toArray

/-- The value of a code point, `standard` before the first step. -/
def valueAt {α : Type} (steps : Array (Nat × α)) (standard : α) (point : Nat) : α :=
  steps.foldl (fun found (first, value) => if first ≤ point then value else found) standard

end PointTable

end RelayTunnel
