/-!
The operators of a field condition, and the tags that filters carry them under.
-/

namespace QueryFilter

inductive Operator where
  | eq | ne | gt | gte | lt | lte
  /-- One of a list. -/
  | isIn
  /-- None of a list. -/
  | notIn
  /-- Text that a pattern matches. -/
  | regex
  /-- Text that a pattern does not match. -/
  | not
deriving DecidableEq

namespace Operator

def tag : Operator → String
  | eq => "$eq"
  | ne => "$ne"
  | gt => "$gt"
  | gte => "$gte"
  | lt => "$lt"
  | lte => "$lte"
  | isIn => "$in"
  | notIn => "$nin"
  | regex => "$regex"
  | not => "$not"

theorem tag_injective {a b : Operator} (h : a.tag = b.tag) : a = b := by
  cases a <;> cases b <;> first | rfl | exact absurd h (by decide)

end Operator

/-- The tag that combines alternative groups at the root of a filter. -/
def orTag : String := "$or"

end QueryFilter
