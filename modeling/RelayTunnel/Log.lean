import RelayTunnel.Text.Decimal

/-!
# Logging

What the program writes about its doings, and how much of it. A filter is a list of
directives; each lets entries through up to a verbosity, from sources whose name
begins with its own. For a source the directive with the longest name counts, and
of equal ones the last.
-/

namespace RelayTunnel

/-- How important a log entry is. -/
inductive LogLevel where
  | trace
  | debug
  | info
  | warn
  | error
  deriving DecidableEq, Repr

namespace LogLevel

/-- All levels. -/
def all : List LogLevel := [trace, debug, info, warn, error]

/-- The name of a level in settings. -/
def name : LogLevel → String
  | trace => "trace"
  | debug => "debug"
  | info => "info"
  | warn => "warn"
  | error => "error"

/-- The name of a level in front of an entry. -/
def label (level : LogLevel) : String := level.name.toUpper

/-- The verbosity from which on entries of a level are written; at zero there are
    none at all. -/
def verbosity : LogLevel → Nat
  | error => 1
  | warn => 2
  | info => 3
  | debug => 4
  | trace => 5

end LogLevel

/-- Something written to the log. -/
structure LogEntry where
  level : LogLevel
  message : String
  deriving DecidableEq, Repr

/-- The line of an entry. -/
def LogEntry.text (entry : LogEntry) : String := s!"{entry.level.label} {entry.message}"

/-- A directive of a filter. -/
structure LogDirective where
  /-- What the names of its sources begin with. -/
  source : String
  verbosity : Nat
  deriving DecidableEq, Repr

/-- Decides which entries are written. -/
abbrev LogFilter := List LogDirective

namespace LogFilter

/-- Whether a directive concerns a source. -/
def concerns (source : String) (d : LogDirective) : Bool :=
  d.source.toList.isPrefixOf source.toList

/-- Of two directives the one with the longer name, the second if they are equal. -/
def moreSpecific (best : Option LogDirective) (d : LogDirective) : Option LogDirective :=
  match best with
  | some b => if d.source.length < b.source.length then some b else some d
  | none => some d

/-- The directive that decides about a source. -/
def directive? (filter : LogFilter) (source : String) : Option LogDirective :=
  (filter.filter (concerns source)).foldl moreSpecific none

/-- Whether entries of a level from a source are written. -/
def lets (filter : LogFilter) (source : String) (level : LogLevel) : Bool :=
  (filter.directive? source).any fun d => level.verbosity ≤ d.verbosity

/-! ## Filters as texts -/

/-- The greatest verbosity. -/
def everything : Nat := 5

/-- The names of verbosities. -/
def names : List (String × Nat) :=
  ("off", 0) :: LogLevel.all.map fun level => (level.name, level.verbosity)

/-- The verbosity that a text denotes, by its number or by its name in any case. -/
def verbosity? (text : String) : Option Nat :=
  (Decimal.read everything text).toOption.or (names.lookup text.toLower)

/-- The verbosity behind the equals sign of a directive, where nothing stands for
    everything. -/
def verbosityBehind? : List Char → Option Nat
  | [] => some everything
  | text => verbosity? (String.ofList text)

/-- What follows the brackets of a directive: nothing, or a verbosity. -/
def afterBrackets? : List Char → Option (Option LogDirective)
  | [] => some none
  | '=' :: rest => (verbosityBehind? rest).map fun _ => none
  | _ => none

/-- Whether a directive can begin with a character; outside ASCII any counts as a
    letter. -/
def isSourceStart (c : Char) : Bool :=
  c.isAlphanum || c = '-' || c = ':' || c = '_' || 0x80 ≤ c.toNat

/-- The directive that a text denotes; one with brackets is about spans of the
    program, and as there are none, it concerns nothing. The outer `none` is for a
    malformed text. -/
def directiveOfText? (text : List Char) : Option (Option LogDirective) := do
  let first ← text.head?
  if first = '[' then
    let behind ← (text.dropWhile (· ≠ ']')).tail?
    afterBrackets? behind
  else if !isSourceStart first then
    none
  else
    let name := text.takeWhile fun c => c ≠ '=' && c ≠ '['
    let source := String.ofList name
    match text.drop name.length with
    | [] =>
      match verbosity? source with
      | some verbosity => some (some ⟨"", verbosity⟩)
      | none => some (some ⟨source, everything⟩)
    | '=' :: rest => (verbosityBehind? rest).map fun verbosity => some ⟨source, verbosity⟩
    | brackets => (brackets.dropWhile (· ≠ ']')).tail?.bind afterBrackets?

/-- The filter that a text denotes: directives between commas. The empty text lets
    errors through. -/
def ofText? (text : String) : Option LogFilter :=
  if text.isEmpty then some [⟨"", LogLevel.error.verbosity⟩]
  else ((text.splitOn ",").mapM fun part => directiveOfText? part.toList).map (·.filterMap id)

/-- The filter that lets everything through up to a level named by a text, or
    without such a level everything from sources of that name. -/
def upTo (level : String) : LogFilter :=
  match verbosity? level with
  | some verbosity => [⟨"", verbosity⟩]
  | none => [⟨level, everything⟩]

end LogFilter

end RelayTunnel
