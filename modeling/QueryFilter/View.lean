import QueryFilter.DateFormat
import QueryFilter.Operator
import QueryFilter.Value.Basic

/-!
Tests on fields of a known kind. A test stands for the operators it sets, in order, or for
the fault of the text it was given: a test either sets all of its operators or none.
-/

namespace QueryFilter

open Calendar (Instant)

inductive Comparison where
  | eq | ne | lt | lte | gt | gte
deriving DecidableEq

def Comparison.operator : Comparison → Operator
  | eq => .eq
  | ne => .ne
  | lt => .lt
  | lte => .lte
  | gt => .gt
  | gte => .gte

/-- Both ends of a range, included. -/
def rangeWrites (least greatest : Value) : List (Operator × Value) :=
  [(.gte, least), (.lte, greatest)]

/-- A test on a text field. -/
inductive TextTest where
  | eq (s : String)
  | ne (s : String)
  | regex (p : Pattern)
  | not (p : Pattern)
  | isIn (items : List String)
  | notIn (items : List String)

namespace TextTest

def like (pattern : String) : TextTest := .regex (.plain pattern)

def notLike (pattern : String) : TextTest := .not (.plain pattern)

def writes : TextTest → List (Operator × Value)
  | eq s => [(.eq, .text s)]
  | ne s => [(.ne, .text s)]
  | regex p => [(.regex, .pattern p)]
  | not p => [(.not, .pattern p)]
  | isIn items => [(.isIn, .array (items.map .text))]
  | notIn items => [(.notIn, .array (items.map .text))]

end TextTest

/-- A test on a numeric field. The values are taken as they are. -/
inductive NumberTest where
  | compare (c : Comparison) (v : Value)
  | between (least greatest : Value)
  | isIn (items : List Value)
  | notIn (items : List Value)

def NumberTest.writes : NumberTest → List (Operator × Value)
  | compare c v => [(c.operator, v)]
  | between least greatest => rangeWrites least greatest
  | isIn items => [(.isIn, .array items)]
  | notIn items => [(.notIn, .array items)]

/-- A test on a field of any kind, with any operator. The values are taken as they are. -/
inductive AnyTest where
  | op (op : Operator) (v : Value)
  | compare (c : Comparison) (v : Value)
  | isIn (items : Value)
  | notIn (items : Value)
  | regex (p : Pattern)
  | not (p : Pattern)

def AnyTest.writes : AnyTest → List (Operator × Value)
  | op o v => [(o, v)]
  | compare c v => [(c.operator, v)]
  | isIn items => [(.isIn, items)]
  | notIn items => [(.notIn, items)]
  | regex p => [(.regex, .pattern p)]
  | not p => [(.not, .pattern p)]

/-- Where the tests on a date field take the format of their text from: the settings, or a format
given instead. A view of the field can be given another format as often as one likes. -/
inductive FormatChoice where
  | configured
  | given (format : DateFormat)
  | replaced (choice : FormatChoice) (format : DateFormat)
deriving DecidableEq

/-- The format that text is read in. The one given last counts. -/
def FormatChoice.resolve (configured : DateFormat) : FormatChoice → DateFormat
  | .configured => configured
  | given format => format
  | replaced _ format => format

/-- A test on a date field, against instants or against text in the format of the field. -/
inductive DateTest where
  | compare (c : Comparison) (i : Instant)
  | compareText (c : Comparison) (s : String)
  | between (first last : Instant)
  | betweenText (first last : String)
  | isIn (items : List Instant)

/-- Texts are read before anything is set, the first bound before the last. -/
def DateTest.writes (format : DateFormat) :
    DateTest → Except InputFault (List (Operator × Value))
  | compare c i => .ok [(c.operator, .instant i)]
  | compareText c s => do
      let i ← format.parse s
      pure [(c.operator, .instant i)]
  | between first last => .ok (rangeWrites (.instant first) (.instant last))
  | betweenText first last => do
      let first ← format.parse first
      let last ← format.parse last
      pure (rangeWrites (.instant first) (.instant last))
  | isIn items => .ok [(.isIn, .array (items.map .instant))]

/-- The test of an identifier field: equality with the identifier that a text spells. -/
def identifierWrites (s : String) : Except InputFault (List (Operator × Value)) := do
  let id ← Identifier.parse s
  pure [(.eq, .identifier id)]

end QueryFilter
