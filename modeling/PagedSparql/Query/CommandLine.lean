import PagedSparql.Json.Writer
import PagedSparql.Query.Stream

/-!
# The command line

A query is evaluated from the command line with the address of its endpoint and some options:

* `-q`, `--query`: the query itself;
* `-f`, `--file`: the file that holds the query;
* `-g`, `--default-graph`: the graph that the query is about, by default the address;
* `-c`, `--config`: a settings file;
* `--buffer-size`, `--timeout`: settings that go before those of the file.

The value of an option is the next argument, or what follows its equals sign.
-/

namespace PagedSparql

/-- What a command line asks for. -/
structure CommandLine where
  /-- The address of the endpoint. -/
  address? : Option String := none
  /-- The query. -/
  query? : Option String := none
  /-- The file that holds the query. -/
  file? : Option String := none
  /-- The graph that the query is about. -/
  graph? : Option String := none
  /-- The settings file. -/
  settingsFile? : Option String := none
  /-- The number of rows of a round of a bound join. -/
  bufferSize? : Option UInt64 := none
  /-- The seconds that an endpoint has to answer. -/
  timeout? : Option UInt64 := none

/-- What is wrong with a command line. -/
inductive CommandLineError where
  /-- There is no address. -/
  | noAddress
  /-- There is more than one address. -/
  | unexpected (argument : String)
  /-- There is no such option. -/
  | unknownOption (option : String)
  /-- An option has no value. -/
  | noValue (option : String)
  /-- The value of an option is no number of 64 bits. -/
  | noNumber (option value : String)
  /-- The query is given twice. -/
  | twoQueries
  /-- There is no query. -/
  | noQuery

/-- The text of a command line error. -/
def CommandLineError.message : CommandLineError → String
  | .noAddress => "the address of an endpoint is required"
  | .unexpected argument => "unexpected argument '" ++ argument ++ "' found"
  | .unknownOption option => "unexpected argument '" ++ option ++ "' found"
  | .noValue option => "a value is required for '" ++ option ++ "' but none was supplied"
  | .noNumber option value => "invalid value '" ++ value ++ "' for '" ++ option ++ "'"
  | .twoQueries => "the argument '--query' cannot be used with '--file'"
  | .noQuery => "a query is required, use --query or --file"

namespace CommandLine

/-- The number that the value of an option stands for. -/
def number (option value : String) : Except CommandLineError UInt64 :=
  match value.toList with
  | [] => .error (.noNumber option value)
  | digits =>
    if digits.all Double.isDigit && Double.ofDigits digits < UInt64.size then
      .ok (UInt64.ofNat (Double.ofDigits digits))
    else .error (.noNumber option value)

/-- The command line with an option. -/
def set (c : CommandLine) (option value : String) : Except CommandLineError CommandLine :=
  match option with
  | "-q" => .ok { c with query? := some value }
  | "--query" => .ok { c with query? := some value }
  | "-f" => .ok { c with file? := some value }
  | "--file" => .ok { c with file? := some value }
  | "-g" => .ok { c with graph? := some value }
  | "--default-graph" => .ok { c with graph? := some value }
  | "-c" => .ok { c with settingsFile? := some value }
  | "--config" => .ok { c with settingsFile? := some value }
  | "--buffer-size" => (number option value).map fun n => { c with bufferSize? := some n }
  | "--timeout" => (number option value).map fun n => { c with timeout? := some n }
  | _ => .error (.unknownOption option)

/-- An argument as an option and the value after its equals sign. -/
def splitOption (argument : String) : String × Option String :=
  let chars := argument.toList
  match chars.dropWhile (· != '=') with
  | [] => (argument, none)
  | _ :: value => (.ofList (chars.takeWhile (· != '=')), some (.ofList value))

/-- Reads arguments after others. -/
def readFrom (c : CommandLine) : List String → Except CommandLineError CommandLine
  | [] => .ok c
  | argument :: rest =>
    if argument.startsWith "-" then
      match splitOption argument, rest with
      | (option, some value), rest => do readFrom (← c.set option value) rest
      | (option, none), value :: rest => do readFrom (← c.set option value) rest
      | (option, none), [] => .error (.noValue option)
    else if c.address?.isSome then .error (.unexpected argument)
    else readFrom { c with address? := some argument } rest

/-- Reads a command line. -/
def read (arguments : List String) : Except CommandLineError CommandLine := do
  let c ← readFrom {} arguments
  if c.query?.isSome && c.file?.isSome then .error .twoQueries
  else .ok c

/-- The settings of a command line, given those of its file, if they make sense. -/
def settings (c : CommandLine) (given : Settings) : Except SettingsFault Settings :=
  Settings.validate
    { given with
      bufferSize := c.bufferSize?.getD given.bufferSize,
      timeout := c.timeout?.getD given.timeout }

/-- Where the query of a command line is sent. -/
def engine (c : CommandLine) (settings : Settings) (now : DateTime) :
    Except CommandLineError Engine :=
  match c.address? with
  | none => .error .noAddress
  | some address => .ok { address, graph := c.graph?.getD address, settings, now }

end CommandLine

/-- The line for an item. -/
def QueryItem.toLine : QueryItem → String
  | .solution row => (Row.toJson row).render
  | .triple t => t.toJson.render
  | .truth b => (Json.bool b).render

end PagedSparql
