import QueryFilter.Calendar.Rfc3339
import QueryFilter.Json.Printer
import QueryFilter.Value.Basic

/-!
Values as extended JSON. What JSON has no form for becomes an object with one tagged member:
instants, identifiers, patterns, and floats that are not finite. A value is turned into a
JSON tree, or written as text at once.
-/

namespace QueryFilter

/-- The tags of extended JSON. -/
structure ExtendedTags where
  date : String
  identifier : String
  pattern : String
  double : String

def extendedTags : ExtendedTags := ⟨"$date", "$oid", "$regularExpression", "$numberDouble"⟩

def Binary64.specialName (x : Binary64) : String :=
  if x.isNaN then "NaN" else if x.isNegative then "-Infinity" else "Infinity"

namespace Number

/-- The tree of a number. Both integer kinds become whole numbers. -/
def toJson : Number → Json
  | signed n => .integer n.toInt
  | unsigned n => .integer n.toNat
  | float x =>
      if x.isFinite then .float x else .object [(extendedTags.double, .string x.specialName)]

def render : Number → String
  | signed n => toString n.toInt
  | unsigned n => toString n.toNat
  | float x =>
      if x.isFinite then Decimal.text x
      else Json.brace [Json.member extendedTags.double (Json.quote x.specialName)]

end Number

namespace Pattern

def toJson (p : Pattern) : Json :=
  .object [("pattern", .string p.pattern), ("options", .string p.options)]

def render (p : Pattern) : String :=
  Json.brace
    [Json.member "pattern" (Json.quote p.pattern), Json.member "options" (Json.quote p.options)]

end Pattern

namespace Value

mutual

def toJson : Value → Json
  | null => .null
  | bool b => .bool b
  | number n => n.toJson
  | text s => .string s
  | instant i => .object [(extendedTags.date, .string i.toRfc3339)]
  | identifier id => .object [(extendedTags.identifier, .string id.toHex)]
  | pattern p => .object [(extendedTags.pattern, p.toJson)]
  | array items => .array (itemsToJson items)
  | document entries => .object (entriesToJson entries)

def itemsToJson : List Value → List Json
  | [] => []
  | item :: rest => toJson item :: itemsToJson rest

def entriesToJson : List (String × Value) → List (String × Json)
  | [] => []
  | (key, value) :: rest => (key, toJson value) :: entriesToJson rest

end

mutual

def render : Value → String
  | null => "null"
  | bool b => if b then "true" else "false"
  | number n => n.render
  | text s => Json.quote s
  | instant i => Json.brace [Json.member extendedTags.date (Json.quote i.toRfc3339)]
  | identifier id => Json.brace [Json.member extendedTags.identifier (Json.quote id.toHex)]
  | pattern p => Json.brace [Json.member extendedTags.pattern p.render]
  | array items => Json.bracket (renderItems items)
  | document entries => Json.brace (renderEntries entries)

def renderItems : List Value → List String
  | [] => []
  | item :: rest => render item :: renderItems rest

def renderEntries : List (String × Value) → List String
  | [] => []
  | (key, value) :: rest => Json.member key (render value) :: renderEntries rest

end

end Value
end QueryFilter
