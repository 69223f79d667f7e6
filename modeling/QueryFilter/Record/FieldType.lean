import QueryFilter.Record.Field

/-!
The types of record fields. They are built from texts, truth values, numbers of all widths,
instants and identifiers by options and lists. A value of such a type can be put into a filter in
two ways, and each follows the type in a way of its own: it can be converted into a filter value,
or be the source of a field.
-/

namespace QueryFilter

/-- The widths of whole numbers. The numbers that count what lies in memory have one of them. -/
inductive IntegerWidth where
  | bits8 | bits16 | bits32 | bits64
deriving DecidableEq

def IntegerWidth.bits : IntegerWidth → Nat
  | bits8 => 8
  | bits16 => 16
  | bits32 => 32
  | bits64 => 64

namespace Number

/-- A signed number of any width, widened. -/
def ofSigned {width : IntegerWidth} (n : BitVec width.bits) : Number := signed (.ofInt n.toInt)

/-- An unsigned number of any width, widened. -/
def ofUnsigned {width : IntegerWidth} (n : BitVec width.bits) : Number := unsigned (.ofNat n.toNat)

end Number

inductive FieldType where
  | bool
  | text
  | signed (width : IntegerWidth)
  | unsigned (width : IntegerWidth)
  /-- Floats of 32 bits. -/
  | single
  /-- Floats of 64 bits. -/
  | double
  | instant
  | identifier
  | option (inner : FieldType)
  | list (item : FieldType)
deriving DecidableEq

namespace FieldType

/-- The values of a type. A float of 32 bits is given by its bits. -/
def Carrier : FieldType → Type
  | bool => Bool
  | text => String
  | signed width => BitVec width.bits
  | unsigned width => BitVec width.bits
  | single => UInt32
  | double => Binary64
  | instant => Calendar.Instant
  | identifier => Identifier
  | option inner => Option inner.Carrier
  | list item => List item.Carrier

/-- The filter value that a value of the type is converted into. -/
def toValue : (type : FieldType) → type.Carrier → Value
  | bool, b => .bool b
  | text, s => .text s
  | signed _, n => .number (.ofSigned n)
  | unsigned _, n => .number (.ofUnsigned n)
  | single, bits => .number (.float (.ofBinary32 bits))
  | double, x => .number (.float x)
  | instant, i => .instant i
  | identifier, id => .identifier id
  | option inner, x => .ofOption (x.map inner.toValue)
  | list item, xs => .array (xs.map item.toValue)

/-- The source of the field that a value of the type makes. -/
def source : (type : FieldType) → type.Carrier → FieldSource
  | bool, b => .bool b
  | text, s => .text s
  | signed _, n => .number (.ofSigned n)
  | unsigned _, n => .number (.ofUnsigned n)
  | single, bits => .number (.float (.ofBinary32 bits))
  | double, x => .number (.float x)
  | instant, i => .instant i
  | identifier, id => .identifier id
  | option _, none => .absent
  | option inner, some x => .present (inner.source x)
  | list item, xs => .list (xs.map item.source)

end FieldType
end QueryFilter
