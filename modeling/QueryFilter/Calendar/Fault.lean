/-!
The ways in which date text can fail to name an instant.
-/

namespace QueryFilter
namespace Calendar

inductive DateFault where
  /-- A part has a value that it never has. -/
  | outOfRange
  /-- Two parts contradict each other. -/
  | impossible
  /-- The parts leave the instant open. -/
  | notEnough
  /-- A character stands where it must not. -/
  | invalid
  /-- The text ends too early. -/
  | tooShort
  /-- Text is left over. -/
  | tooLong
  /-- The date pattern itself is at fault. -/
  | badPattern
deriving DecidableEq

def DateFault.message : DateFault → String
  | .outOfRange => "input is out of range"
  | .impossible => "no possible date and time matching input"
  | .notEnough => "input is not enough for unique date and time"
  | .invalid => "input contains invalid characters"
  | .tooShort => "premature end of input"
  | .tooLong => "trailing input"
  | .badPattern => "bad or unsupported format string"

end Calendar
end QueryFilter
