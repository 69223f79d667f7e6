import QueryFilter.Record.Attribute
import QueryFilter.Record.Constant
import QueryFilter.Record.Field
import QueryFilter.Text.Quoted

/-!
Record types and their schemas. A schema gives each described field a key and a constant for
it; keys and constants are distinct. It is read off the declaration of the type, field by
field, and the first fault counts.
-/

namespace QueryFilter
namespace Record

/-- A declared field: its name as written, and its attributes. -/
structure FieldDeclaration where
  name : String
  attributes : List Attribute

inductive Shape where
  | named | tuple | unit | enumeration | union
deriving DecidableEq

structure Declaration where
  shape : Shape
  fields : List FieldDeclaration

structure SchemaEntry where
  key : String
  constant : String
  field : String
deriving DecidableEq

/-- The described fields of a record type, in the order of their declaration. -/
abbrev Schema := List SchemaEntry

inductive DeclarationFault where
  | unnamedFields
  | notRecord
  | badAttribute (fault : AttributeFault)
  | repeatedKey (key : String)
  | sharedConstant (key other constant : String)
  | badConstant (constant : String)
deriving DecidableEq

def DeclarationFault.message : DeclarationFault → String
  | unnamedFields => "Filterable can only be derived for structs with named fields"
  | notRecord => "Filterable can only be derived for structs"
  | badAttribute fault => fault.message
  | repeatedKey key => "duplicate filter key '" ++ key ++ "'"
  | sharedConstant key other constant =>
      "filter key '" ++ key ++ "' and '" ++ other ++ "' both produce the constant " ++ constant
  | badConstant constant => Text.quoted constant ++ " is not a valid Ident"

/-- A name without the marks that let a keyword be a name. -/
def unmarked : List Char → List Char
  | 'r' :: '#' :: rest => unmarked rest
  | name => name

namespace FieldDeclaration

/-- The key of a field: the one given, or else the name. -/
def key (field : FieldDeclaration) (options : FieldOptions) : String :=
  options.rename.getD (String.ofList (unmarked field.name.toList))

end FieldDeclaration

namespace Schema

/-- A schema with one field more, whose key and constant must be new. -/
def addEntry (schema : Schema) (key field : String) : Except DeclarationFault Schema :=
  if schema.any fun entry => entry.key = key then .error (.repeatedKey key)
  else
    let constant := constantOf key
    match schema.find? fun entry => entry.constant = constant with
    | some other => .error (.sharedConstant key other.key constant)
    | none =>
        if isConstant constant then .ok (schema ++ [⟨key, constant, field⟩])
        else .error (.badConstant constant)

/-- A schema with a declared field, unless its attributes leave it out. -/
def addField (schema : Schema) (field : FieldDeclaration) : Except DeclarationFault Schema :=
  match FieldOptions.ofAttributes field.attributes with
  | .error fault => .error (.badAttribute fault)
  | .ok options =>
      if options.skip then .ok schema else schema.addEntry (field.key options) field.name

/-- The fields of a record whose values are given by their declared names. -/
def describe (schema : Schema) (value : String → FieldValue) : List Descriptor :=
  schema.map fun entry => ⟨entry.key, value entry.field⟩

end Schema

/-- The schema of a declared type, which has to be a record with named fields. -/
def Declaration.schema (d : Declaration) : Except DeclarationFault Schema :=
  match d.shape with
  | .named => d.fields.foldlM Schema.addField []
  | .tuple | .unit => .error .unnamedFields
  | .enumeration | .union => .error .notRecord

end Record
end QueryFilter
