import QueryFilter.DateFormat
import QueryFilter.Json.Printer
import QueryFilter.Text.Quoted

/-!
The settings of a builder: the key that identifiers are compared under, and the format of
date text.
-/

namespace QueryFilter

structure Config where
  idKey : String
  dateFormat : DateFormat
deriving DecidableEq

namespace Config

def standard : Config := ⟨"_id", .rfc3339⟩

inductive Field where
  | idKey
  | dateFormat
deriving DecidableEq

def Field.name : Field → String
  | idKey => "id_key"
  | dateFormat => "date_format"

def Field.ofName? (name : String) : Option Field :=
  if name = Field.idKey.name then some .idKey
  else if name = Field.dateFormat.name then some .dateFormat
  else none

def toJson (c : Config) : Json :=
  .object
    [(Field.idKey.name, .string c.idKey),
      (Field.dateFormat.name, .string c.dateFormat.toText)]

inductive Found where
  | null
  | bool (b : Bool)
  | integer (n : Int)
  | float (x : Binary64)
  | text (s : String)
  | sequence
  | map
deriving DecidableEq

def Found.describe : Found → String
  | null => "null"
  | bool b => "boolean \x60" ++ (if b then "true" else "false") ++ "\x60"
  | integer n => "integer \x60" ++ toString n ++ "\x60"
  | float x => "floating point \x60" ++ Decimal.text x ++ "\x60"
  | text s => "string " ++ Text.quoted s
  | sequence => "sequence"
  | map => "map"

inductive Fault where
  | notJson
  | notSettings (found : Found)
  | notText (found : Found)
  | tooLong (length : Nat)
  | repeated (field : Field)
deriving DecidableEq

/-- Whether a text was JSON at all. -/
def Fault.isSyntactic : Fault → Bool
  | notJson => true
  | _ => false

def Fault.message : Fault → String
  | notJson => "not valid JSON"
  | notSettings found => "invalid type: " ++ found.describe ++ ", expected struct FilterConfig"
  | notText found => "invalid type: " ++ found.describe ++ ", expected a string"
  | tooLong length =>
      "invalid length " ++ toString length ++ ", expected fewer elements in array"
  | repeated field => "duplicate field \x60" ++ field.name ++ "\x60"

/-- Settings of which some are known yet. -/
structure Partial where
  idKey : Option String
  dateFormat : Option String

namespace Partial

def empty : Partial := ⟨none, none⟩

def isKnown (p : Partial) : Field → Bool
  | .idKey => p.idKey.isSome
  | .dateFormat => p.dateFormat.isSome

def set (p : Partial) (text : String) : Field → Partial
  | .idKey => { p with idKey := some text }
  | .dateFormat => { p with dateFormat := some text }

def complete (p : Partial) : Config where
  idKey := p.idKey.getD standard.idKey
  dateFormat := (p.dateFormat.map DateFormat.ofText).getD standard.dateFormat

end Partial

def Found.ofJson : Json → Found
  | .null => .null
  | .bool b => .bool b
  | .integer n => .integer n
  | .float x => .float x
  | .string s => .text s
  | .array _ => .sequence
  | .object _ => .map

def textOf : Json → Except Fault String
  | .string s => .ok s
  | other => .error (.notText (.ofJson other))

/-- Settings from the members of an object. Unknown members are ignored. -/
def ofMembers : Partial → List (String × Json) → Except Fault Partial
  | p, [] => .ok p
  | p, (name, value) :: rest =>
      match Field.ofName? name with
      | none => ofMembers p rest
      | some field => do
          let text ← textOf value
          ofMembers (p.set text field) rest

/-- Settings from a list of at most two: the key of identifiers and the date format. -/
def ofItems : List Json → Except Fault Partial
  | [] => .ok .empty
  | idKey :: rest => do
      let p := Partial.empty.set (← textOf idKey) .idKey
      match rest with
      | [] => pure p
      | format :: more => do
          let p := p.set (← textOf format) .dateFormat
          if more.isEmpty then pure p else .error (.tooLong (2 + more.length))

def ofJson (json : Json) : Except Fault Config := do
  let p ←
    match json with
    | .object members => ofMembers .empty members
    | .array items => ofItems items
    | other => .error (.notSettings (.ofJson other))
  pure p.complete

end Config
end QueryFilter
