import PagedSparql.Json.Reader

/-!
# Reading records from text

A record is read straight from text, field by field, so that of two faults the one that stands first
in the text is reported. What is no field of the record is passed over: it must have the form of a
value, but it may be nested to any depth, and its numbers and escaped characters need not exist.
-/

namespace PagedSparql.Json

/-- Why a text is no record. -/
inductive Fault where
  /-- The text is not JSON. -/
  | malformed
  /-- The text is JSON so far, but not what the record holds at this place. -/
  | mismatched
  deriving DecidableEq

/-- A field of a record. -/
structure Field where
  /-- The name. -/
  name : String
  /-- Reads the value, which starts at the first character. -/
  read : List Char → Except Fault (Json × List Char)

/-- Passes over a text up to its closing quote. Escaped code units may be halves of pairs. -/
def skipString? : Nat → List Char → Option (List Char)
  | 0, _ => none
  | _, [] => none
  | _, '"' :: rest => some rest
  | fuel + 1, '\\' :: 'u' :: rest => (hex4? rest).bind fun (_, rest) => skipString? fuel rest
  | fuel + 1, '\\' :: e :: rest => (shortEscape? e).bind fun _ => skipString? fuel rest
  | fuel + 1, c :: rest => if c.toNat < 32 || c == '\\' then none else skipString? fuel rest

mutual

/-- Passes over a value that starts at the first character. It may be nested to any depth, and its
numbers may be of any size. -/
def skipValue? : Nat → List Char → Option (List Char)
  | 0, _ => none
  | fuel + 1, text =>
    match text with
    | [] => none
    | '"' :: rest => skipString? text.length rest
    | '[' :: rest =>
      match skipSpace rest with
      | ']' :: rest => some rest
      | rest => skipItems? fuel rest
    | '\x7b' :: rest =>
      match skipSpace rest with
      | '\x7d' :: rest => some rest
      | rest => skipMembers? fuel rest
    | 't' :: _ => (word? "true" .null text).map (·.2)
    | 'f' :: _ => (word? "false" .null text).map (·.2)
    | 'n' :: _ => (word? "null" .null text).map (·.2)
    | _ => (numberParts? text).map (·.2)

/-- Passes over the values of a list up to its closing bracket. -/
def skipItems? : Nat → List Char → Option (List Char)
  | 0, _ => none
  | fuel + 1, text =>
    match (skipValue? fuel text).map skipSpace with
    | some (']' :: rest) => some rest
    | some (',' :: rest) => skipItems? fuel (skipSpace rest)
    | _ => none

/-- Passes over the members of an object up to its closing brace. -/
def skipMembers? : Nat → List Char → Option (List Char)
  | 0, _ => none
  | fuel + 1, text =>
    match text with
    | '"' :: rest =>
      match (skipString? text.length rest).map skipSpace with
      | some (':' :: rest) =>
        match (skipValue? fuel (skipSpace rest)).map skipSpace with
        | some ('\x7d' :: rest) => some rest
        | some (',' :: rest) => skipMembers? fuel (skipSpace rest)
        | _ => none
      | _ => none
    | _ => none

end

/-- What is wrong with a text in which some other kind of value was looked for: nothing if a value
starts there at all. -/
def faultOf (text : List Char) : Fault :=
  match text with
  | '[' :: _ => .mismatched
  | '\x7b' :: _ => .mismatched
  | _ => if (value? 1 0 text).isSome then .mismatched else .malformed

/-- Reads a text. -/
def readText (text : List Char) : Except Fault (Json × List Char) :=
  match text with
  | '"' :: rest =>
    match string? text.length rest with
    | some (s, rest) => .ok (.str (.ofList s), rest)
    | none => .error .malformed
  | _ => .error (faultOf text)

/-- Reads a text or `null`. -/
def readTextOrNull (text : List Char) : Except Fault (Json × List Char) :=
  match text with
  | 'n' :: _ =>
    match word? "null" .null text with
    | some read => .ok read
    | none => .error .malformed
  | _ => readText text

/-- Reads a natural number of 64 bits. -/
def readNatural (text : List Char) : Except Fault (Json × List Char) :=
  match value? 1 0 text with
  | some (.int n, rest) => if 0 ≤ n then .ok (.int n, rest) else .error .mismatched
  | _ => .error (faultOf text)

/-- Reads the members of an object up to its closing brace. A field may stand there once. -/
def readMembers (fields : List Field) :
    Nat → List (String × Json) → List Char → Except Fault (List (String × Json) × List Char)
  | 0, _, _ => .error .malformed
  | fuel + 1, found, text => do
    let '"' :: rest := text | .error .malformed
    let some (key, rest) := string? text.length rest | .error .malformed
    let field? := fields.find? (·.name == String.ofList key)
    -- The second occurrence is refused before its value is looked at.
    if field?.any fun field => (found.lookup field.name).isSome then .error .mismatched
    let ':' :: rest := skipSpace rest | .error .malformed
    let rest := skipSpace rest
    let (found, rest) ←
      match field? with
      | some field => (field.read rest).map fun (j, rest) => ((field.name, j) :: found, rest)
      | none =>
        match skipValue? (2 * rest.length + 2) rest with
        | some rest => .ok (found, rest)
        | none => .error .malformed
    match skipSpace rest with
    | '\x7d' :: rest => .ok (found, rest)
    | ',' :: rest => readMembers fields fuel found (skipSpace rest)
    | _ => .error .malformed

/-- Reads the values of a list in the order of the fields, up to its closing bracket. The list may
be too short, but not too long. -/
def readItems : List Field → List Char → Except Fault (List Json × List Char)
  | [], _ => .error .malformed
  | field :: fields, text => do
    let (j, rest) ← field.read text
    match skipSpace rest with
    | ']' :: rest => .ok ([j], rest)
    | ',' :: rest =>
      match skipSpace rest with
      -- A comma has to be followed by a value.
      | ']' :: _ => .error .malformed
      | rest => (readItems fields rest).map fun (items, rest) => (j :: items, rest)
    | _ => .error .malformed

/-- Reads a record, as an object or as a list of at least `least` values: its fields, each where it is
present, and the text after the record. -/
def readRecord (fields : List Field) (least : Nat) (text : List Char) :
    Except Fault (List (Option Json) × List Char) :=
  match skipSpace text with
  | '\x7b' :: rest =>
    let members : Except Fault (List (String × Json) × List Char) :=
      match skipSpace rest with
      | '\x7d' :: rest => .ok ([], rest)
      | rest => readMembers fields (rest.length + 1) [] rest
    members.map fun (found, rest) => (fields.map fun field => found.lookup field.name, rest)
  | '[' :: rest => do
    let read : Except Fault (List Json × List Char) :=
      match skipSpace rest with
      | ']' :: rest => .ok ([], rest)
      | rest => readItems fields rest
    let (items, rest) ← read
    if items.length < least then .error .mismatched
    else .ok ((List.range fields.length).map fun i => items[i]?, rest)
  | text => .error (faultOf text)

end PagedSparql.Json
