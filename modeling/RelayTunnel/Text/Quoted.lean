import RelayTunnel.Text.Printable

/-!
# Quoted texts

The form in which a text stands inside the description of a value: between
quotation marks, with escapes for the marks, the common controls and everything
that does not print.
-/

namespace RelayTunnel

namespace Quoted

/-- The escape of one character. -/
def escape (c : Char) : String :=
  match c with
  | '"' => "\\\""
  | '\\' => "\\\\"
  | '\n' => "\\n"
  | '\r' => "\\r"
  | '\t' => "\\t"
  | '\x00' => "\\0"
  | _ =>
    if isPrintable c then
      c.toString
    else
      "\\u\x7b" ++ String.ofList (Nat.toDigits 16 c.toNat) ++ "\x7d"

/-- The text between quotation marks. -/
def encode (text : String) : String :=
  "\"" ++ String.join (text.toList.map escape) ++ "\""

end Quoted

end RelayTunnel
