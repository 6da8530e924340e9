import PagedSparql.Query.CommandLine
import PagedSparql.Query.Exchange
import Std.Time.DateTime.Timestamp

/-!
# The program

Evaluates a query for the address of an endpoint. The items of the query are written to standard
output, one on each line, and a line that sums the query up to standard error.

The endpoints are reached over the standard streams: a request is written to standard output as an
object with its address under `url`, and the next line of standard input is the answer.
-/

namespace PagedSparql.Main

/-- Whatever can go wrong is told in one line. -/
abbrev Program := ExceptT String IO

/-- The result of a pure computation. -/
def check {ε α : Type} (message : ε → String) (x : Except ε α) : Program α :=
  ExceptT.mk (pure (x.mapError message))

/-- The text of a file. -/
def readFile (path : String) : Program String := do
  match ← (IO.FS.readFile path).toBaseIO with
  | .ok text => pure text
  | .error e => throw e.toString

/-- The query of a command line. -/
def query (c : CommandLine) : Program String :=
  match c.query?, c.file? with
  | some query, _ => pure query
  | none, some path => readFile path
  | none, none => throw CommandLineError.noQuery.message

/-- The settings of a command line. -/
def settings (c : CommandLine) : Program Settings := do
  let text? ← c.settingsFile?.mapM readFile
  let given ←
    match text? with
    | none => pure {}
    | some text => check SettingsError.message (Settings.ofFile (some text))
  check (fun fault => (SettingsError.invalid fault).message) (c.settings given)

/-- The present time. -/
def clock : IO DateTime := do
  return .ofInstant (← Std.Time.Timestamp.now).toNanosecondsSinceUnixEpoch.val

/-- Writes a line and hands it on at once. -/
def writeLine (line : String) : IO Unit := do
  let output ← IO.getStdout
  output.putStrLn line
  output.flush

/-- More steps than any pull takes. -/
def manySteps : Nat := UInt64.size

/-- Pulls a query to its end; answers that no pull has taken in yet are handed on. -/
partial def drain (now : DateTime) (answers : List (Except TransportError Response))
    (q : QueryStream Exchange) : Program (QueryStream Exchange) := do
  match q.turn now manySteps answers with
  | .wants address request =>
    writeLine (Exchange.requestToJson address request).render
    let line ← (← IO.getStdin).getLine
    drain now (answers ++ [Exchange.readAnswer line]) q
  | .pulled (.item x) after =>
    writeLine x.toLine
    drain now [] after
  | .pulled .done after => pure after
  | .pulled (.fail e) _ => throw e.message
  | .stopped => throw "the program stops at a number that its type does not hold"
  | .unfinished => throw "the query does not come to an end"

/-- Evaluates the query of a command line. -/
def evaluate (c : CommandLine) : Program Unit := do
  let text ← query c
  let settings ← settings c
  let start ← IO.monoNanosNow
  let engine ← check CommandLineError.message (c.engine settings (← clock))
  let q ← check QueryError.message (engine.execute Exchange.network {} (some {}) text)
  let q ← drain engine.now [] q
  let stop ← IO.monoNanosNow
  IO.eprintln ((q.session.meter?.getD {}).summary ((stop - start) / 1000))

/-- Evaluates the query of some arguments. The exit code tells whether that succeeded. -/
def run (arguments : List String) : IO UInt32 := do
  let program : Program Unit := do
    let c ← check CommandLineError.message (CommandLine.read arguments)
    evaluate c
  match ← program.run with
  | .ok () => return 0
  | .error message =>
    IO.eprintln ("Error: " ++ message)
    return 1

end PagedSparql.Main

/-- The program. -/
def main (arguments : List String) : IO UInt32 := PagedSparql.Main.run arguments
