/-!
# Blank characters

The characters of Unicode's property White_Space, and trimming by them.
-/

namespace RelayTunnel

/-- Whether a character has the property White_Space. -/
def isBlank (c : Char) : Bool :=
  let n := c.toNat
  (0x09 ≤ n && n ≤ 0x0D) || n == 0x20 || n == 0x85 || n == 0xA0 || n == 0x1680 ||
    (0x2000 ≤ n && n ≤ 0x200A) || n == 0x2028 || n == 0x2029 || n == 0x202F || n == 0x205F ||
    n == 0x3000

/-- The list without the elements at either end that satisfy `drop`. -/
def trimList (drop : Char → Bool) (text : List Char) : List Char :=
  ((text.dropWhile drop).reverse.dropWhile drop).reverse

/-- The text without blanks at either end. -/
def trimBlank (text : String) : String := String.ofList (trimList isBlank text.toList)

end RelayTunnel
