import RelayTunnel.Toml.Scalar

/-!
# Settings documents

From the text of a TOML document to its table. A document is a list of
statements: headers that open a table, and assignments to names below the open
table. A table may be given piece by piece, but only in ways that cannot be
mistaken: what opened it is kept while the document is read.
-/

namespace RelayTunnel

namespace Toml

open Reader

/-! ## Tables under construction -/

/-- What brought a table about. -/
inductive Origin where
  /-- A header of its own, or the document. -/
  | header
  /-- A header of a table below it. -/
  | implied
  /-- A dotted name of an assignment. -/
  | dotted
  deriving DecidableEq, Repr

/-- A part of a document under construction. An array of tables is open at its
    last table. -/
inductive Node where
  | leaf (value : Value)
  | table (origin : Origin) (entries : List (String × Node))
  | tables (earlier : List Value) (last : List (String × Node))

/-- Named parts. -/
abbrev Nodes := List (String × Node)

/-- The entries with a new part of a name, in the place of the old one if any. -/
def assign (name : String) (node : Node) : Nodes → Nodes
  | [] => [(name, node)]
  | (other, old) :: rest =>
    if other = name then (name, node) :: rest else (other, old) :: assign name node rest

mutual

/-- The value of a finished part. -/
def Node.value : Node → Value
  | .leaf value => value
  | .table _ entries => .table (values entries)
  | .tables earlier last => .array (earlier ++ [.table (values last)])

/-- The values of finished parts. -/
def values : Nodes → Entries
  | [] => []
  | (name, node) :: rest => (name, node.value) :: values rest

end

/-- The entries after a change to the table that a path leads to. Missing tables
    on the way come about with origin `made`; one that has a header of its own is
    passed through only on the way of a header. `change` is given the origin of
    the table, too. -/
def alter (made : Origin) (change : Origin → Nodes → Option Nodes) :
    List String → Origin → Nodes → Option Nodes
  | [], origin, entries => change origin entries
  | name :: rest, _, entries =>
    match entries.lookup name with
    | none => do
      let below ← alter made change rest made []
      return assign name (.table made below) entries
    | some (.leaf _) => none
    | some (.tables earlier last) => do
      let below ← alter made change rest .header last
      return assign name (.tables earlier below) entries
    | some (.table origin inner) =>
      if made = .dotted && origin = .header then none
      else do
        let below ← alter made change rest origin inner
        return assign name (.table origin below) entries

/-- The entries with a new name for a value. A dotted name ends in a table that
    dotted names brought about. -/
def insertLeaf (isDotted : Bool) (name : String) (value : Value) (origin : Origin)
    (entries : Nodes) : Option Nodes :=
  if (origin = .dotted) = isDotted && (entries.lookup name).isNone then
    some (assign name (.leaf value) entries)
  else
    none

/-- The entries after an assignment to a dotted name. -/
def insertDotted (path : List String) (value : Value) (origin : Origin) (entries : Nodes) :
    Option Nodes :=
  alter .dotted (insertLeaf (1 < path.length) (path.getLastD "") value) path.dropLast origin
    entries

/-- The entries with a table opened by a header, which may have been implied. -/
def openTable (name : String) (_ : Origin) (entries : Nodes) : Option Nodes :=
  match entries.lookup name with
  | none => some (assign name (.table .header []) entries)
  | some (.table .implied inner) => some (assign name (.table .header inner) entries)
  | some _ => none

/-- The entries with one more table opened in an array of tables. -/
def openElement (name : String) (_ : Origin) (entries : Nodes) : Option Nodes :=
  match entries.lookup name with
  | none => some (assign name (.tables [] []) entries)
  | some (.tables earlier last) =>
    some (assign name (.tables (earlier ++ [.table (values last)]) []) entries)
  | some _ => none

/-! ## Values with parts -/

/-- What separates the parts of a name or of a value. -/
def separatedBy {α : Type} (separator : Reader Unit) (item : Reader α) : Reader (List α) := do
  let first ← item
  let rest ← all (do separator; item)
  return first :: rest

/-- Whether a character may stand in a name without quotation marks. -/
def isBare (c : Char) : Bool := c.isAlphanum || c == '-' || c == '_'

/-- One part of a name. -/
def namePart : Reader String := do
  spaces
  let name ← basicText <|> literalText <|> (String.ofList <$> run1 isBare)
  spaces
  return name

/-- How deep names and values may nest. -/
def deepest : Nat := 79

/-- A dotted name. -/
def name : Reader (List String) := do
  let parts ← separatedBy (mark '.') namePart
  if deepest < parts.length then failure else return parts

/-- An array of values, on as many lines as needed. -/
def array (value : Reader Value) : Reader Value := do
  mark '['
  blank
  let items ← maybe (separatedBy (mark ',') (do blank; let item ← value; blank; return item))
  if items.isSome then
    discard (maybe (mark ','))
    blank
  mark ']'
  return .array (items.getD [])

/-- An assignment: a dotted name and its value. -/
def assignment (value : Reader Value) : Reader (List String × Value) := do
  let path ← name
  mark '='
  spaces
  let value ← value
  return (path, value)

/-- A table on one line. -/
def inlineTable (value : Reader Value) : Reader Value := do
  mark '{'
  spaces
  let pairs ← maybe (separatedBy (mark ',') (do let pair ← assignment value; spaces; return pair))
  mark '}'
  let entries ← (pairs.getD []).foldlM
    (fun entries pair => (insertDotted pair.1 pair.2 .header entries : Option Nodes)) []
  return .table (values entries)

/-- A value whose parts nest at most so deep. -/
def value : Nat → Reader Value
  | 0 => scalar
  | depth + 1 => scalar <|> array (value depth) <|> inlineTable (value depth)

/-! ## Statements -/

/-- A line of a document. -/
inductive Statement where
  | empty
  /-- A header of a table. -/
  | header (path : List String)
  /-- A header of one more table in an array of tables. -/
  | element (path : List String)
  | assignment (path : List String) (value : Value)

/-- The header of an array of tables. -/
def elementHeader : Reader Statement := do
  word "[["
  let path ← name
  word "]]"
  trailing
  return .element path

/-- The header of a table. -/
def tableHeader : Reader Statement := do
  mark '['
  let path ← name
  mark ']'
  trailing
  return .header path

/-- A statement up to the end of its last line. -/
def statement : Reader Statement := do
  if (← peek).isNone then failure
  spaces
  match ← peek with
  | none | some '\n' | some '\r' | some '#' => do
    trailing
    return .empty
  | some '[' => elementHeader <|> tableHeader
  | _ => do
    let (path, value) ← assignment (value deepest)
    trailing
    return .assignment path value

/-- A document after some of its statements. -/
structure Draft where
  entries : Nodes
  /-- The path of the open table. -/
  current : List String

/-- The document after one more statement. -/
def Draft.add (draft : Draft) : Statement → Option Draft
  | .empty => some draft
  | .header path => do
    let entries ← alter .implied (openTable (path.getLastD "")) path.dropLast .header draft.entries
    return ⟨entries, path⟩
  | .element path => do
    let entries ← alter .implied (openElement (path.getLastD "")) path.dropLast .header
      draft.entries
    return ⟨entries, path⟩
  | .assignment path value => do
    let entries ← alter .implied (insertDotted path value) draft.current .header draft.entries
    return { draft with entries }

/-- The text without a mark of the byte order at its front. -/
def withoutMark : List Char → List Char
  | '\uFEFF' :: rest => rest
  | text => text

/-- The table that a document denotes. -/
def read? (text : String) : Option Entries := do
  let statements ← (all statement).whole? (withoutMark text.toList)
  let draft ← statements.foldlM Draft.add ⟨[], []⟩
  return values draft.entries

end Toml

end RelayTunnel
