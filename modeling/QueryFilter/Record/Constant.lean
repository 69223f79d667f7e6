import QueryFilter.Text.Alphanumeric
import QueryFilter.Text.Name
import QueryFilter.Text.Uppercase

/-!
The constant that stands for a key: the key in capitals, its words separated by low lines. A
capital after a small letter or a number begins a word, and whatever is neither letter nor
number separates words.
-/

namespace QueryFilter
namespace Record

/-- The characters of a constant. The flag tells whether a small letter or a number came
before. -/
def constantChars : Bool → List Char → List Char
  | _, [] => []
  | afterSmall, c :: rest =>
      if Text.isUppercase c then
        if afterSmall then '_' :: c :: constantChars false rest
        else c :: constantChars false rest
      else if Text.isAlphanumeric c then c.toUpper :: constantChars true rest
      else '_' :: constantChars false rest

/-- The constant of a key. A decimal digit does not stand first. -/
def constantOf (key : String) : String :=
  let chars := constantChars false key.toList
  String.ofList (if (chars.head?.map Char.isDigit).getD false then '_' :: chars else chars)

/-- Whether a constant can be declared under a name. -/
def isConstant (name : String) : Bool := Text.isName name.toList

end Record
end QueryFilter
