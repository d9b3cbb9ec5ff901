/-!
# Values of a settings document

What the text of a TOML document denotes: tables of named values. A table keeps
its entries in the order in which they came; no name occurs twice in one that was
read.
-/

namespace RelayTunnel

namespace Toml

/-- A value of a document. -/
inductive Value where
  | text (text : String)
  | integer (value : Int)
  /-- A floating-point number, by its bits. -/
  | float (bits : UInt64)
  | boolean (value : Bool)
  /-- A date, a time or both, as written. -/
  | moment (written : String)
  | array (items : List Value)
  | table (entries : List (String × Value))

/-- Named values. -/
abbrev Entries := List (String × Value)

/-- The value of a name. -/
def Value.find? (entries : Entries) (name : String) : Option Value := entries.lookup name

end Toml

end RelayTunnel
