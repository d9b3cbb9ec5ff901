import RelayTunnel.Startup

/-!
# The program

The outer layer: what the start of the program needs is read, and what it leads to
is printed.
-/

namespace RelayTunnel

namespace Program

/-- A file as the start of the program sees it. -/
def contentOf (name : String) : IO (Option (Except String Bytes)) := do
  try
    let content ← IO.FS.readBinFile name
    return some (.ok content.toList)
  catch
    | .noFileOrDirectory .. => return none
    | e => return some (.error (toString e))

/-- The variables of the environment that the start of the program looks at. -/
def readEnvironment : IO Environment := do
  let found ← (Startup.filterVariable :: variableNames).mapM fun name => do
    return (name, (← IO.getEnv name).map Utf8.encode)
  return fun name => (found.lookup name).join

/-- Prints what a start has led to. -/
def print : Startup → IO Unit
  | .printed lines => lines.forM IO.println
  | .misused misuse => IO.eprintln s!"error: {misuse.message}"
  | .failed entries messages => do
    entries.forM fun entry => IO.println entry.text
    IO.eprintln s!"Error: {Startup.errorText messages}"
  | .validated entries => entries.forM fun entry => IO.println entry.text
  | .ready entries .. => do
    entries.forM fun entry => IO.println entry.text
    IO.println "The configuration can be used; pass --validate-config for a summary"

end Program

end RelayTunnel

/-- Starts the program. -/
def main (arguments : List String) : IO UInt32 := do
  let environment ← RelayTunnel.Program.readEnvironment
  let startup ← RelayTunnel.Startup.run
    { arguments, environment, contentOf := RelayTunnel.Program.contentOf }
  RelayTunnel.Program.print startup
  return startup.exitCode
