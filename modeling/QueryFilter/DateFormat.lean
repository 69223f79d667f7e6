import QueryFilter.Calendar.Resolve
import QueryFilter.Identifier

/-!
How date text is read, and what is wrong with text that a filter cannot take.
-/

namespace QueryFilter

open Calendar (DateFault Instant)

inductive DateFormat where
  | rfc3339
  | pattern (text : String)
deriving DecidableEq

/-- What is wrong with text that was to name a date or an identifier. -/
inductive InputFault where
  | date (input : String) (format : DateFormat) (fault : DateFault)
  | identifier (input : String) (fault : Identifier.Fault)
deriving DecidableEq

namespace DateFormat

/-- The name that stands for RFC 3339, in any case of its letters. -/
def standardName : String := "rfc3339"

/-- The format that a text asks for: the name, or else a pattern. -/
def ofText (text : String) : DateFormat :=
  if text.toList.map Char.toLower = standardName.toList then rfc3339 else pattern text

def toText : DateFormat → String
  | rfc3339 => standardName
  | pattern text => text

def parse (format : DateFormat) (input : String) : Except InputFault Instant :=
  let read :=
    match format with
    | rfc3339 => Instant.ofRfc3339 input
    | pattern text => Instant.ofPattern text input
  read.mapError (.date input format)

end DateFormat

def Identifier.parse (input : String) : Except InputFault Identifier :=
  (Identifier.ofText input).mapError (.identifier input)

namespace InputFault

def cause : InputFault → String
  | date _ _ fault => fault.message
  | identifier _ fault => fault.message

def message : InputFault → String
  | date input format fault =>
      "failed to parse date from '" ++ input ++ "' with format '" ++ format.toText ++ "': " ++
        fault.message
  | identifier input fault => "invalid object id '" ++ input ++ "': " ++ fault.message

end InputFault
end QueryFilter
