import QueryFilter.Binary64

/-!
JSON values whose objects keep the order of their members. Numbers are whole or
floating-point, as the text they come from or are written to tells them apart.
-/

namespace QueryFilter

inductive Json where
  | null
  | bool (value : Bool)
  | integer (value : Int)
  | float (value : Binary64)
  | string (value : String)
  | array (items : List Json)
  | object (members : List (String × Json))
deriving Inhabited

end QueryFilter
