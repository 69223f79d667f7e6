import QueryFilter.Value.Basic

/-!
The fields of a record, as filters see them. A field has a single value, a sequence of values,
or no value that a filter could take. Zero values, empty sequences and unsupported fields
contribute nothing.
-/

namespace QueryFilter

/-- What a field contributes to a filter. -/
inductive FieldValue where
  | scalar (v : Value)
  | sequence (items : List Value)
  | unsupported

/-- A field of a record under the key it is compared by. -/
structure Descriptor where
  key : String
  value : FieldValue

/-- A value of a type that records are made of. -/
inductive FieldSource where
  | bool (b : Bool)
  | number (n : Number)
  | text (s : String)
  | instant (i : Calendar.Instant)
  | identifier (id : Identifier)
  /-- An optional value that is missing. -/
  | absent
  /-- An optional value that is there. -/
  | present (inner : FieldSource)
  /-- A value held elsewhere. -/
  | indirect (inner : FieldSource)
  | list (items : List FieldSource)
  | unsupported
  /-- A value that says itself what it contributes. -/
  | described (value : FieldValue)

namespace FieldValue

/-- An item of a sequence: unsupported items vanish, and sequences inside are arrays. -/
def toItem? : FieldValue → Option Value
  | scalar v => some v
  | sequence items => some (.array items)
  | unsupported => none

def contribution? : FieldValue → Option Value
  | scalar v => if v.isZero then none else some v
  | sequence items => if items.isEmpty then none else some (.array items)
  | unsupported => none

end FieldValue

namespace FieldSource

mutual

def toField : FieldSource → FieldValue
  | bool b => .scalar (.bool b)
  | number n => .scalar (.number n)
  | text s => .scalar (.text s)
  | instant i => .scalar (.instant i)
  | identifier id => .scalar (.identifier id)
  | absent => .scalar .null
  | present inner => toField inner
  | indirect inner => toField inner
  | list items => .sequence (itemsToField items)
  | unsupported => .unsupported
  | described value => value

def itemsToField : List FieldSource → List Value
  | [] => []
  | item :: rest =>
      match (toField item).toItem? with
      | some v => v :: itemsToField rest
      | none => itemsToField rest

end

end FieldSource

/-- The keys and values that a record contributes, in the order of its fields. -/
def produce (record : List Descriptor) : List (String × Value) :=
  record.filterMap fun field => field.value.contribution?.map (field.key, ·)

/-- The keys of the fields that contribute nothing. -/
def skippedKeys (record : List Descriptor) : List String :=
  (record.filter fun field => field.value.contribution?.isNone).map Descriptor.key

end QueryFilter
