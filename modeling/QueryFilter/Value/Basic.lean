import QueryFilter.Binary64
import QueryFilter.Calendar.Instant
import QueryFilter.Entries
import QueryFilter.Identifier

/-!
The values that filters are made of. A value has one of nine kinds; arrays and documents hold
further values. Two documents are equal when they hold equal values under the same keys,
whatever the order of the keys; in all else equality is that of the parts.
-/

namespace QueryFilter

/-- A number, with the kind it was made with. -/
inductive Number where
  | signed (n : Int64)
  | unsigned (n : UInt64)
  | float (x : Binary64)
deriving DecidableEq

namespace Number

def isZero : Number → Bool
  | signed n => n == 0
  | unsigned n => n == 0
  | float x => x.isZero

/-- Numbers of different kinds are never equal, and floats are compared as floats. -/
def equals : Number → Number → Bool
  | signed m, signed n => m == n
  | unsigned m, unsigned n => m == n
  | float x, float y => x == y
  | _, _ => false

instance : BEq Number := ⟨equals⟩

end Number

/-- A pattern that text is matched against, with its options. Both are passed on as they are. -/
structure Pattern where
  pattern : String
  options : String
deriving DecidableEq

namespace Pattern

def plain (pattern : String) : Pattern := ⟨pattern, ""⟩

def isEmpty (p : Pattern) : Bool := p.pattern.isEmpty && p.options.isEmpty

end Pattern

/-- A value in a filter. -/
inductive Value where
  | null
  | bool (b : Bool)
  | number (n : Number)
  | text (s : String)
  | instant (i : Calendar.Instant)
  | identifier (id : Identifier)
  | pattern (p : Pattern)
  | array (items : List Value)
  | document (entries : List (String × Value))

/-- Values under keys, in insertion order: a group of conditions, the operators on a field, or
a document inside a value. -/
abbrev Document := Entries String Value

namespace Value

/-- The zero value of each kind: nothing, false, zero, the empty text, the start of 1970, the
identifier of zero bytes, and whatever is empty. -/
def isZero : Value → Bool
  | null => true
  | bool b => !b
  | number n => n.isZero
  | text s => s.isEmpty
  | instant i => i.isEpoch
  | identifier id => id.isZero
  | pattern p => p.isEmpty
  | array items => items.isEmpty
  | document entries => entries.isEmpty

mutual

def equals : Value → Value → Bool
  | null, null => true
  | bool a, bool b => a == b
  | number m, number n => m == n
  | text s, text t => s == t
  | instant i, instant j => i = j
  | identifier a, identifier b => a = b
  | pattern p, pattern q => p = q
  | array xs, array ys => equalItems xs ys
  | document xs, document ys => xs.length == ys.length && heldBy xs ys
  | _, _ => false

/-- Equal lengths and equal items in every place. -/
def equalItems : List Value → List Value → Bool
  | [], [] => true
  | x :: xs, y :: ys => equals x y && equalItems xs ys
  | _, _ => false

/-- Every key of the first is in the second, with an equal value. -/
def heldBy : List (String × Value) → Document → Bool
  | [], _ => true
  | (key, value) :: rest, other =>
      (match other.get? key with
        | some found => equals value found
        | none => false) && heldBy rest other

end

instance : BEq Value := ⟨equals⟩

def isArray : Value → Bool
  | array _ => true
  | _ => false

def isDocument : Value → Bool
  | document _ => true
  | _ => false

def asText? : Value → Option String
  | text s => some s
  | _ => none

def asNumber? : Value → Option Number
  | number n => some n
  | _ => none

def asArray? : Value → Option (List Value)
  | array items => some items
  | _ => none

def asDocument? : Value → Option Document
  | document entries => some entries
  | _ => none

def ofOption : Option Value → Value
  | none => null
  | some v => v

end Value
end QueryFilter
