import QueryFilter.Decimal.Written
import QueryFilter.Json.Basic
import QueryFilter.Text.Hex

/-!
Compact JSON text. Only the quote, the backslash and the control characters are escaped, and
the members of an object are written in their order.
-/

namespace QueryFilter
namespace Json

def escape (c : Char) : List Char :=
  if c = '"' then ['\\', '"']
  else if c = '\\' then ['\\', '\\']
  else if c = '\x08' then ['\\', 'b']
  else if c = '\x0c' then ['\\', 'f']
  else if c = '\n' then ['\\', 'n']
  else if c = '\r' then ['\\', 'r']
  else if c = '\t' then ['\\', 't']
  else if c.toNat < 0x20 then ['\\', 'u'] ++ Text.hexPadded 4 c.toNat
  else [c]

def quote (text : String) : String :=
  String.ofList ('"' :: text.toList.flatMap escape ++ ['"'])

/-- The parts of an array, already written. -/
def bracket (parts : List String) : String := "[" ++ ",".intercalate parts ++ "]"

/-- The members of an object, already written. -/
def brace (parts : List String) : String := "\x7b" ++ ",".intercalate parts ++ "\x7d"

def member (key value : String) : String := quote key ++ ":" ++ value

mutual

def render : Json → String
  | null => "null"
  | bool value => if value then "true" else "false"
  | integer value => toString value
  | float value => Decimal.text value
  | string value => quote value
  | array items => bracket (renderItems items)
  | object members => brace (renderMembers members)

def renderItems : List Json → List String
  | [] => []
  | item :: rest => render item :: renderItems rest

def renderMembers : List (String × Json) → List String
  | [] => []
  | (key, value) :: rest => member key (render value) :: renderMembers rest

end

end Json
end QueryFilter
