import QueryFilter.Condition
import QueryFilter.Config.Basic
import QueryFilter.Record.Field
import QueryFilter.Value.Serializer

/-!
The accumulation of a filter. Conditions land in the current group and are combined with
"and"; closing it starts the next alternative. Building compiles the groups and leaves the
builder empty: no group gives the filter that matches everything, one group stands for
itself, and several become the alternatives under one tag.
-/

namespace QueryFilter

structure Filter where
  root : Document

namespace Filter

/-- A filter without conditions matches everything. -/
def isEmpty (f : Filter) : Bool := f.root.isEmpty

def get? (f : Filter) (key : String) : Option Value := f.root.get? key

def toValue (f : Filter) : Value := .document f.root

/-- A filter is serialized as its root document. -/
def serialize {α : Type} (s : Serializer α) (f : Filter) : Option α :=
  Document.serialize s f.root

def toJson (f : Filter) : Json := (Value.document f.root).toJson

def ofGroups : List Document → Filter
  | [] => ⟨[]⟩
  | [group] => ⟨group⟩
  | groups => ⟨[(orTag, .array (groups.map .document))]⟩

end Filter

/-- Groups closed so far and the group being written. -/
structure Builder where
  config : Config
  closed : List Document
  current : Document

namespace Builder

def empty (config : Config) : Builder := ⟨config, [], []⟩

/-- Sets an operator through a condition and merges the condition into the current group. -/
def set (b : Builder) (c : Condition) (op : Operator) (value : Value) : Condition × Builder :=
  let c := c.set op value
  (c, { b with current := c.mergeInto b.current })

/-- Sets operators through one condition, in order. -/
def setAll (b : Builder) (c : Condition) : List (Operator × Value) → Condition × Builder
  | [] => (c, b)
  | (op, value) :: rest =>
      let (c, b) := b.set c op value
      b.setAll c rest

/-- Sets operators on a field through a fresh condition. -/
def write (b : Builder) (key : String) (writes : List (Operator × Value)) : Builder :=
  (b.setAll (.on key) writes).2

/-- Writes a value under a key of the current group, whatever was there. -/
def raw (b : Builder) (key : String) (value : Value) : Builder :=
  { b with current := b.current.insert key value }

/-- The operator that compares a field with what a record contributes. -/
def recordOperator (value : Value) : Operator := if value.isArray then .isIn else .eq

/-- Adds a condition for every field that contributes a value. -/
def fromRecord (b : Builder) (record : List Descriptor) : Builder :=
  (produce record).foldl
    (fun b entry => b.write entry.1 [(recordOperator entry.2, entry.2)]) b

/-- Moves the current group to the closed ones, unless it is empty. -/
def close (b : Builder) : Builder :=
  if b.current.isEmpty then b else { b with closed := b.closed ++ [b.current], current := [] }

def remove (b : Builder) (key : String) : Builder :=
  { b with current := b.current.erase key }

/-- Drops a key from every group, and the closed groups that this leaves empty. -/
def removeAll (b : Builder) (key : String) : Builder :=
  { b.remove key with
    closed := (b.closed.map fun group => Entries.erase group key).filter fun group =>
      !group.isEmpty }

def reset (b : Builder) : Builder := empty b.config

/-- The groups that building compiles, in order. -/
def groups (b : Builder) : List Document := b.close.closed

def compile (b : Builder) : Filter := .ofGroups b.groups

def isEmpty (b : Builder) : Bool := b.closed.isEmpty && b.current.isEmpty

/-- The number of alternatives that building would compile. -/
def groupCount (b : Builder) : Nat := b.closed.length + if b.current.isEmpty then 0 else 1

end Builder
end QueryFilter
