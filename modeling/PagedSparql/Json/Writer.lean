import PagedSparql.Json.Basic
import PagedSparql.Number.Notation
import PagedSparql.Text.UriEncoding

/-!
# Writing JSON text

Values are written without blanks. In texts, quotes, backslashes and control characters are escaped,
with the short escapes where there is one; all other characters stand for themselves.
-/

namespace PagedSparql.Json

/-- The characters that stand for one character of a text. -/
def escapeChar (c : Char) : List Char :=
  if c = '"' then ['\\', '"']
  else if c = '\\' then ['\\', '\\']
  else if c = '\n' then ['\\', 'n']
  else if c = '\r' then ['\\', 'r']
  else if c = '\t' then ['\\', 't']
  else if c = '\x08' then ['\\', 'b']
  else if c = '\x0c' then ['\\', 'f']
  else if c.toNat < 32 then
    ['\\', 'u', '0', '0', Digest.hexDigit (c.toNat / 16), Digest.hexDigit (c.toNat % 16)]
  else [c]

/-- A text between quotes. -/
def quote (text : String) : String := "\"" ++ .ofList (text.toList.flatMap escapeChar) ++ "\""

mutual

/-- The text of a value. -/
def render : Json → String
  | .null => "null"
  | .bool b => if b then "true" else "false"
  | .int n => toString n
  | .real x => Double.toJsonText x
  | .str s => quote s
  | .arr items => "[" ++ renderItems items ++ "]"
  | .obj members => "\x7b" ++ renderMembers members ++ "\x7d"

/-- The texts of the values of a list, with commas between them. -/
def renderItems : List Json → String
  | [] => ""
  | [j] => j.render
  | j :: rest => j.render ++ "," ++ renderItems rest

/-- The texts of the members of an object, with commas between them. -/
def renderMembers : List (String × Json) → String
  | [] => ""
  | [(k, j)] => quote k ++ ":" ++ j.render
  | (k, j) :: rest => quote k ++ ":" ++ j.render ++ "," ++ renderMembers rest

end

end PagedSparql.Json
