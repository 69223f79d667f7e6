import QueryFilter.Operator
import QueryFilter.Value.Basic

/-!
Conditions on one field. A condition keeps the operators set through it, each with its last
value, and every set merges all of them into the group the condition is written to.
-/

namespace QueryFilter

/-- The operators set on a field so far. -/
structure Condition where
  key : String
  ops : Entries Operator Value

namespace Condition

def on (key : String) : Condition := ⟨key, []⟩

/-- Sets an operator, in place if it was set before. -/
def set (c : Condition) (op : Operator) (value : Value) : Condition :=
  { c with ops := c.ops.insert op value }

def tagged (c : Condition) : Document := c.ops.map fun entry => (entry.1.tag, entry.2)

/-- A group with the operators of a condition. Where the group holds a document under the key,
the operators are written into it; anything else they replace. -/
def mergeInto (c : Condition) (group : Document) : Document :=
  match group.get? c.key with
  | some (.document existing) =>
      group.insert c.key (.document (Entries.insertAll existing c.tagged))
  | _ => group.insert c.key (.document c.tagged)

end Condition
end QueryFilter
