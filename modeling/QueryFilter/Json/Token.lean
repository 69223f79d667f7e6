import QueryFilter.Json.Basic
import QueryFilter.Text.Digits
import QueryFilter.Text.Hex

/-!
The tokens of JSON text. A string and a number are kept as they are spelled, since a value
that nobody asks for only has to be well spelled, not to have a meaning. Text that begins no
token becomes the token `fault`, and nothing after it is read.
-/

namespace QueryFilter
namespace Json

/-- The spelling of a number: the digits before the point, those after it, and the exponent. -/
structure Numeral where
  negative : Bool
  whole : List Char
  fraction : Option (List Char)
  exponent : Option (Bool × List Char)
deriving DecidableEq

inductive Token where
  | openBrace
  | closeBrace
  | openBracket
  | closeBracket
  | comma
  | colon
  | null
  | bool (value : Bool)
  | string (body : List Char)
  | number (numeral : Numeral)
  | fault
deriving DecidableEq

/-- A result together with the text that follows it, which is not longer than the text read. -/
abbrev Read (α : Type) (text : List Char) := α × { rest : List Char // rest.length ≤ text.length }

def digitsOf : (text : List Char) → Read (List Char) text
  | [] => ([], ⟨[], Nat.le_refl _⟩)
  | c :: rest =>
      if c.isDigit then
        let (digits, ⟨after, h⟩) := digitsOf rest
        (c :: digits, ⟨after, Nat.le_succ_of_le h⟩)
      else ([], ⟨c :: rest, Nat.le_refl _⟩)

def someDigitsOf? (text : List Char) : Option (Read (List Char) text) :=
  match digitsOf text with
  | ([], _) => none
  | read => some read

/-- The digits before the point: zero stands alone. -/
def wholeOf? (text : List Char) : Option (Read (List Char) text) :=
  match someDigitsOf? text with
  | some (digits, rest) =>
      if digits.head? = some '0' ∧ 1 < digits.length then none else some (digits, rest)
  | none => none

/-- The point and the digits after it, if the text has a point. -/
def fractionOf? : (text : List Char) → Option (Read (Option (List Char)) text)
  | '.' :: rest =>
      (someDigitsOf? rest).map fun (digits, ⟨after, h⟩) =>
        (some digits, ⟨after, Nat.le_succ_of_le h⟩)
  | text => some (none, ⟨text, Nat.le_refl _⟩)

/-- The sign of an exponent; true stands for minus. -/
def signOf : (text : List Char) → Read Bool text
  | '+' :: rest => (false, ⟨rest, Nat.le_succ _⟩)
  | '-' :: rest => (true, ⟨rest, Nat.le_succ _⟩)
  | text => (false, ⟨text, Nat.le_refl _⟩)

/-- The mark, sign and digits of an exponent, if the text has the mark. -/
def exponentOf? : (text : List Char) → Option (Read (Option (Bool × List Char)) text)
  | [] => some (none, ⟨[], Nat.le_refl _⟩)
  | c :: rest =>
      if c = 'e' ∨ c = 'E' then
        let (negative, ⟨unsigned, hs⟩) := signOf rest
        (someDigitsOf? unsigned).map fun (digits, ⟨after, h⟩) =>
          (some (negative, digits), ⟨after, by simp only [List.length_cons]; omega⟩)
      else some (none, ⟨c :: rest, Nat.le_refl _⟩)

def numeralOf? (negative : Bool) (text : List Char) : Option (Read Numeral text) := do
  let (whole, ⟨afterWhole, hw⟩) ← wholeOf? text
  let (fraction, ⟨afterFraction, hf⟩) ← fractionOf? afterWhole
  let (exponent, ⟨rest, he⟩) ← exponentOf? afterFraction
  pure (⟨negative, whole, fraction, exponent⟩, ⟨rest, by omega⟩)

/-- A string after its opening quote: the text up to the closing quote, escapes included. A
control character ends the text as badly as a missing quote does. -/
def bodyOf? : (text : List Char) → Option (Read (List Char) text)
  | '"' :: rest => some ([], ⟨rest, Nat.le_succ _⟩)
  | '\\' :: 'u' :: a :: b :: c :: d :: rest =>
      if [a, b, c, d].all fun x => (Text.hexValue? x.toNat).isSome then
        (bodyOf? rest).map fun (body, ⟨after, h⟩) =>
          ('\\' :: 'u' :: a :: b :: c :: d :: body,
            ⟨after, by simp only [List.length_cons]; omega⟩)
      else none
  | '\\' :: e :: rest =>
      if e ∈ ['"', '\\', '/', 'b', 'f', 'n', 'r', 't'] then
        (bodyOf? rest).map fun (body, ⟨after, h⟩) =>
          ('\\' :: e :: body, ⟨after, by simp only [List.length_cons]; omega⟩)
      else none
  | c :: rest =>
      if c = '\\' ∨ c.toNat < 0x20 then none
      else
        (bodyOf? rest).map fun (body, ⟨after, h⟩) =>
          (c :: body, ⟨after, by simp only [List.length_cons]; omega⟩)
  | [] => none

def tokens (text : List Char) : List Token :=
  match text with
  | [] => []
  | 'n' :: 'u' :: 'l' :: 'l' :: rest => .null :: tokens rest
  | 't' :: 'r' :: 'u' :: 'e' :: rest => .bool true :: tokens rest
  | 'f' :: 'a' :: 'l' :: 's' :: 'e' :: rest => .bool false :: tokens rest
  | c :: rest =>
      if c = ' ' ∨ c = '\n' ∨ c = '\t' ∨ c = '\r' then tokens rest
      else if c = '\x7b' then .openBrace :: tokens rest
      else if c = '\x7d' then .closeBrace :: tokens rest
      else if c = '[' then .openBracket :: tokens rest
      else if c = ']' then .closeBracket :: tokens rest
      else if c = ',' then .comma :: tokens rest
      else if c = ':' then .colon :: tokens rest
      else if c = '"' then
        match bodyOf? rest with
        | some (body, ⟨after, _⟩) => .string body :: tokens after
        | none => [.fault]
      else if c = '-' then
        match numeralOf? true rest with
        | some (numeral, ⟨after, _⟩) => .number numeral :: tokens after
        | none => [.fault]
      else
        match numeralOf? false (c :: rest) with
        | some (numeral, ⟨after, _⟩) =>
            if after.length < (c :: rest).length then .number numeral :: tokens after
            else [.fault]
        | none => [.fault]
termination_by text.length
decreasing_by all_goals (simp only [List.length_cons] at *; omega)

/-- The code unit that four digits spell. -/
def codeUnit (digits : List Char) : Nat :=
  digits.foldl (fun n c => 16 * n + (Text.hexValue? c.toNat).getD 0) 0

/-- The character that an escape of one letter stands for. -/
def escaped (letter : Char) : Char :=
  if letter = 'b' then '\x08'
  else if letter = 'f' then '\x0c'
  else if letter = 'n' then '\n'
  else if letter = 'r' then '\r'
  else if letter = 't' then '\t'
  else letter

/-- The text that the body of a string stands for. Code units of the surrogate range have to
come in pairs, a high one before a low one. -/
def unescape? : List Char → Option (List Char)
  | [] => some []
  | '\\' :: 'u' :: a :: b :: c :: d :: rest =>
      let unit := codeUnit [a, b, c, d]
      if 0xDC00 ≤ unit ∧ unit ≤ 0xDFFF then none
      else if 0xD800 ≤ unit ∧ unit ≤ 0xDBFF then
        match rest with
        | '\\' :: 'u' :: e :: f :: g :: h :: rest' =>
            let low := codeUnit [e, f, g, h]
            if 0xDC00 ≤ low ∧ low ≤ 0xDFFF then
              (unescape? rest').map
                (Char.ofNat (0x10000 + (unit - 0xD800) * 0x400 + (low - 0xDC00)) :: ·)
            else none
        | _ => none
      else (unescape? rest).map (Char.ofNat unit :: ·)
  | '\\' :: letter :: rest => (unescape? rest).map (escaped letter :: ·)
  | c :: rest => (unescape? rest).map (c :: ·)

end Json
end QueryFilter
