import QueryFilter.Record.Literal

/-!
Attributes on the fields of a record. Only attributes with one name count; inside them a field
can be left out or given another key. Attributes on one field add up: the field is left out if
any of them says so, and the last key given holds.
-/

namespace QueryFilter
namespace Record

inductive Literal where
  | text (s : String)
  | expression (source : String)
deriving DecidableEq

def Literal.text? : Literal → Option String
  | text s => some s
  | expression source => textOfSource? source

inductive Setting where
  | path (path : String)
  | assigned (path : String) (value : Literal)
  | nested (path : String) (content : String)
deriving DecidableEq

/-- What follows the name of an attribute. -/
inductive Arguments where
  | none
  | assigned (value : Literal)
  | list (settings : List Setting) (trailingComma : Bool)
deriving DecidableEq

structure Attribute where
  path : String
  arguments : Arguments
deriving DecidableEq

/-- What the attributes of a field say. -/
structure FieldOptions where
  skip : Bool
  rename : Option String
deriving DecidableEq

inductive AttributeFault where
  | noArguments
  | assignedArguments
  | loneComma
  | emptyKey
  | keyNotText
  | unknownSetting
deriving DecidableEq

def AttributeFault.message : AttributeFault → String
  | noArguments => "expected attribute arguments in parentheses: #[filter(...)]"
  | assignedArguments => "expected parentheses: #[filter(...)]"
  | loneComma => "expected identifier"
  | emptyKey => "rename must not be empty"
  | keyNotText => "rename must be a string literal"
  | unknownSetting => "unknown filter attribute. Expected: skip or rename = \"...\""

/-- The name of the attributes that count. -/
def attributeName : String := "filter"

namespace FieldOptions

def standard : FieldOptions := ⟨false, none⟩

def addSetting (options : FieldOptions) : Setting → Except AttributeFault FieldOptions
  | .path path =>
      if path = "skip" then .ok { options with skip := true } else .error .unknownSetting
  | .assigned path value =>
      if path = "rename" then
        match value.text? with
        | none => .error .keyNotText
        | some key =>
            if key.isEmpty then .error .emptyKey else .ok { options with rename := some key }
      else .error .unknownSetting
  | .nested _ _ => .error .unknownSetting

def ofArguments : Arguments → Except AttributeFault FieldOptions
  | .none => .error .noArguments
  | .assigned _ => .error .assignedArguments
  | .list [] true => .error .loneComma
  | .list settings _ => settings.foldlM addSetting standard

def merge (earlier later : FieldOptions) : FieldOptions :=
  ⟨earlier.skip || later.skip, later.rename.or earlier.rename⟩

def addAttribute (options : FieldOptions) (a : Attribute) :
    Except AttributeFault FieldOptions :=
  if a.path = attributeName then (ofArguments a.arguments).map options.merge else .ok options

def ofAttributes (attributes : List Attribute) : Except AttributeFault FieldOptions :=
  attributes.foldlM addAttribute standard

end FieldOptions
end Record
end QueryFilter
