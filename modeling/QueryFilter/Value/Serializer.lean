import QueryFilter.Value.Json

/-!
Values taken apart for a serializer. There is one account of the parts that a value has in
extended JSON, and a serializer says what becomes of each of them. It may refuse a part, and the
value with it. One serializer builds the tree of a value, another writes its compact text.
-/

namespace QueryFilter

/-- What becomes of the parts of a value, unless they are refused. -/
structure Serializer (α : Type) where
  null : Option α
  bool : Bool → Option α
  signed : Int64 → Option α
  unsigned : UInt64 → Option α
  float : Binary64 → Option α
  text : String → Option α
  array : List α → Option α
  object : List (String × α) → Option α

/-- An object with one member. -/
def Serializer.tagged {α : Type} (s : Serializer α) (tag : String) (content : Option α) :
    Option α :=
  content.bind fun c => s.object [(tag, c)]

namespace Json

/-- Builds the tree. A member with the key of an earlier one replaces it, and a float that is not
finite becomes null. -/
def treeBuilder : Serializer Json where
  null := some .null
  bool b := some (.bool b)
  signed n := some (.integer n.toInt)
  unsigned n := some (.integer n.toNat)
  float x := some (if x.isFinite then .float x else .null)
  text s := some (.string s)
  array items := some (.array items)
  object members := some (.object (Entries.ofList members))

/-- Writes compact text. The members of an object are written as they come. -/
def textWriter : Serializer String where
  null := some "null"
  bool b := some (if b then "true" else "false")
  signed n := some (toString n.toInt)
  unsigned n := some (toString n.toNat)
  float x := some (if x.isFinite then Decimal.text x else "null")
  text s := some (quote s)
  array items := some (bracket items)
  object members := some (brace (members.map fun m => member m.1 m.2))

end Json

variable {α : Type}

def Number.serialize (s : Serializer α) : Number → Option α
  | signed n => s.signed n
  | unsigned n => s.unsigned n
  | float x =>
      if x.isFinite then s.float x else s.tagged extendedTags.double (s.text x.specialName)

def Pattern.serialize (s : Serializer α) (p : Pattern) : Option α := do
  let pattern ← s.text p.pattern
  let options ← s.text p.options
  s.object [("pattern", pattern), ("options", options)]

namespace Value

mutual

def serialize (s : Serializer α) : Value → Option α
  | null => s.null
  | bool b => s.bool b
  | number n => n.serialize s
  | text t => s.text t
  | instant i => s.tagged extendedTags.date (s.text i.toRfc3339)
  | identifier id => s.tagged extendedTags.identifier (s.text id.toHex)
  | pattern p => s.tagged extendedTags.pattern (p.serialize s)
  | array items => do s.array (← serializeItems s items)
  | document entries => do s.object (← serializeEntries s entries)

def serializeItems (s : Serializer α) : List Value → Option (List α)
  | [] => some []
  | item :: rest => do
      let first ← serialize s item
      let others ← serializeItems s rest
      return first :: others

def serializeEntries (s : Serializer α) : List (String × Value) → Option (List (String × α))
  | [] => some []
  | (key, value) :: rest => do
      let first ← serialize s value
      let others ← serializeEntries s rest
      return (key, first) :: others

end

end Value

def Document.serialize (s : Serializer α) (entries : Document) : Option α := do
  s.object (← Value.serializeEntries s entries)

end QueryFilter
