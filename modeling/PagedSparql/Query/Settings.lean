import PagedSparql.Json.Fields
import PagedSparql.Json.Record

/-!
# Settings

What can be set for the evaluation of queries. A settings file is a JSON object, whose missing
fields have their usual values, or a list of the values in order. A field must not be given twice.
-/

namespace PagedSparql

/-- What can be set. -/
structure Settings where
  /-- The number of rows that one request of a bound join is sent for. -/
  bufferSize : UInt64 := 15
  /-- The seconds that an endpoint has to answer. -/
  timeout : UInt64 := 30
  /-- What the labels of new blank nodes begin with. -/
  blankStem : String := "b"
  deriving DecidableEq

/-- A setting that makes no sense. -/
inductive SettingsFault where
  /-- A round of a bound join needs a row. -/
  | noBuffer
  /-- An endpoint needs time to answer. -/
  | noTime
  deriving DecidableEq

/-- Why there are no settings. -/
inductive SettingsError where
  /-- There is no file. -/
  | unreadable
  /-- The text is not JSON, or it does not hold settings. -/
  | malformed
  /-- The settings make no sense. -/
  | invalid (fault : SettingsFault)
  deriving DecidableEq

/-- The wording of a fault. -/
def SettingsFault.message : SettingsFault → String
  | .noBuffer => "bound_join_buffer_size must be at least 1"
  | .noTime => "request_timeout_secs must be at least 1"

/-- The text of an error. -/
def SettingsError.message : SettingsError → String
  | .unreadable => "IO error"
  | .malformed => "Configuration error"
  | .invalid fault => "Configuration error: " ++ fault.message

namespace Settings

/-- The names of the fields, in order. -/
def fieldNames : List String :=
  ["bound_join_buffer_size", "request_timeout_secs", "blank_node_prefix"]

/-- The settings with the values of the fields, each where it is present. -/
def ofFields? (values : List (Option Json)) : Option Settings := do
  let [bufferSize, timeout, blankStem] := values | none
  let usual : Settings := {}
  let bufferSize ← Json.optional? Json.uint64? usual.bufferSize bufferSize
  let timeout ← Json.optional? Json.uint64? usual.timeout timeout
  let blankStem ← Json.optional? Json.str? usual.blankStem blankStem
  some ⟨bufferSize, timeout, blankStem⟩

/-- Reads the settings from a value; what is missing has its usual value. -/
def ofJson? (j : Json) : Option Settings := (j.fields? fieldNames).bind ofFields?

/-- The settings as JSON. -/
def toJson (s : Settings) : Json :=
  .mkObj [("bound_join_buffer_size", .int s.bufferSize.toNat),
    ("request_timeout_secs", .int s.timeout.toNat), ("blank_node_prefix", .str s.blankStem)]

/-- Reads the settings from a whole text. -/
def parse? (text : String) : Option Settings :=
  let fields : List Json.Field :=
    (fieldNames.zip [Json.readNatural, Json.readNatural, Json.readText]).map fun (name, read) =>
      ⟨name, read⟩
  match Json.readRecord fields 0 text.toList with
  | .ok (values, rest) => if (Json.skipSpace rest).isEmpty then ofFields? values else none
  | .error _ => none

/-- The settings, if they make sense. -/
def validate (s : Settings) : Except SettingsFault Settings :=
  if s.bufferSize = 0 then .error .noBuffer
  else if s.timeout = 0 then .error .noTime
  else .ok s

/-- The settings of a file with the given text; none stands for a file that cannot be read. -/
def ofFile (text? : Option String) : Except SettingsError Settings :=
  match text? with
  | none => .error .unreadable
  | some text =>
    match parse? text with
    | none => .error .malformed
    | some s => s.validate.mapError .invalid

end Settings

end PagedSparql
