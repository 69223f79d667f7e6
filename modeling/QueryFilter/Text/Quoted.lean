import QueryFilter.Text.Printable

/-!
Text between quotes, as messages show it. Line ends, tabulators, the null character, the
backslash and the quote itself have short escapes; a character without a shape of its own is
written by its code point.
-/

namespace QueryFilter
namespace Text

/-- A code point in braces after a backslash and a u, in the fewest hexadecimal digits. -/
def codePointEscape (c : Char) : List Char :=
  ['\\', 'u', '\x7b'] ++ Nat.toDigits 16 c.toNat ++ ['\x7d']

/-- A character as it stands between two given quotes. -/
def escapeBetween (quote c : Char) : List Char :=
  if c = '\x00' then ['\\', '0']
  else if c = '\t' then ['\\', 't']
  else if c = '\n' then ['\\', 'n']
  else if c = '\r' then ['\\', 'r']
  else if c = '\\' ∨ c = quote then ['\\', c]
  else if standsAlone c then [c]
  else codePointEscape c

/-- A text between double quotes. -/
def quoted (text : String) : String :=
  String.ofList ('"' :: text.toList.flatMap (escapeBetween '"') ++ ['"'])

/-- A character between single quotes. -/
def quotedChar (c : Char) : String :=
  String.ofList ('\'' :: escapeBetween '\'' c ++ ['\''])

end Text
end QueryFilter
