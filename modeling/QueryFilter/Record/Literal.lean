import QueryFilter.Text.Blank
import QueryFilter.Text.Hex

/-!
Text literals in the source of an expression. A literal is quoted, with escapes, or raw, with
as many hash signs behind the closing quote as stand before the opening one; a name may be
attached to it. Only a source that is one literal and nothing else spells a text; blanks and
comments around it do not count.
-/

namespace QueryFilter
namespace Record

/-- What the characters of a quoted literal belong to. -/
inductive QuotedState where
  | plain
  /-- The blanks that begin a line after an escaped line end. -/
  | continued
  /-- The braces of a code point, with the number its digits stand for so far. -/
  | codePoint (n : Nat)

def charOf? (n : Nat) : Option Char := if h : n.isValidChar then some (Char.ofNatAux n h) else none

/-- The character that an escape of one letter stands for. -/
def escapeOf? (c : Char) : Option Char :=
  if c = 'n' then some '\n'
  else if c = 'r' then some '\r'
  else if c = 't' then some '\t'
  else if c = '0' then some '\x00'
  else if c = '\\' ∨ c = '\'' ∨ c = '"' then some c
  else none

/-- A character in front of the text read after it. -/
def consChar (c : Option Char) (read : Option (List Char × List Char)) :
    Option (List Char × List Char) := do
  let c ← c
  let (text, rest) ← read
  pure (c :: text, rest)

/-- The text of a quoted literal up to its closing quote, and what follows. -/
def quotedOf? : QuotedState → List Char → Option (List Char × List Char)
  | _, [] => none
  | .codePoint n, c :: rest =>
      if c = '\x7d' then consChar (charOf? n) (quotedOf? .plain rest)
      else if c = '_' then quotedOf? (.codePoint n) rest
      else
        match Text.hexValue? c.toNat with
        | some d => quotedOf? (.codePoint (16 * n + d)) rest
        | none => none
  | state, '\\' :: 'x' :: a :: b :: rest =>
      match state, Text.hexValue? a.toNat, Text.hexValue? b.toNat with
      | _, some high, some low =>
          if high < 8 then consChar (charOf? (16 * high + low)) (quotedOf? .plain rest) else none
      | _, _, _ => none
  | _, '\\' :: 'u' :: '\x7b' :: rest => quotedOf? (.codePoint 0) rest
  | _, '\\' :: '\n' :: rest => quotedOf? .continued rest
  | _, '\\' :: '\r' :: '\n' :: rest => quotedOf? .continued rest
  | _, '\\' :: c :: rest => consChar (escapeOf? c) (quotedOf? .plain rest)
  | _, '"' :: rest => some ([], rest)
  | .continued, c :: rest =>
      if c = ' ' ∨ c = '\t' ∨ c = '\n' ∨ c = '\r' then quotedOf? .continued rest
      else consChar (some c) (quotedOf? .plain rest)
  | .plain, '\r' :: '\n' :: rest => consChar (some '\n') (quotedOf? .plain rest)
  | .plain, c :: rest => consChar (some c) (quotedOf? .plain rest)

/-- The text of a raw literal up to a quote with the given hash signs behind it. -/
def rawOf? (hashes : List Char) : List Char → Option (List Char × List Char)
  | [] => none
  | c :: rest =>
      if c = '"' ∧ hashes.isPrefixOf rest then some ([], rest.drop hashes.length)
      else (rawOf? hashes rest).map fun (text, after) => (c :: text, after)

/-- A text literal at the start of a source, and what follows. -/
def literalOf? : List Char → Option (List Char × List Char)
  | '"' :: rest => quotedOf? .plain rest
  | 'r' :: rest =>
      let hashes := rest.takeWhile (· == '#')
      match rest.drop hashes.length with
      | '"' :: body => rawOf? hashes body
      | _ => none
  | _ => none

/-- A blank between the words of a source; the two marks of direction are blank there. -/
def isGap (c : Char) : Bool := Text.isBlank c || c == '\u200e' || c == '\u200f'

/-- A character of a name attached to a literal. Outside of literals and comments, the characters
of a source beyond ASCII are blanks or belong to names. -/
def isSuffixPart (c : Char) : Bool :=
  if c.toNat < 0x80 then c.isAlphanum || c == '_' else !isGap c

/-- What the characters between the words of a source belong to. -/
inductive GapState where
  | blanks
  | lineComment
  /-- A comment between marks, with the number of comments it lies in. -/
  | comment (depth : Nat)

/-- Whether a comment documents what it stands beside, given the second character of its opening
and the text after that. A comment that does is a word of the source and no gap. -/
def isDocumentation (mark : Char) : List Char → Bool
  | '!' :: _ => true
  | [c] => c = mark
  | c :: d :: _ => c = mark && d ≠ mark && d ≠ '/'
  | [] => false

/-- What is left after blanks and comments. Comments between marks nest. -/
def skipGap : GapState → List Char → List Char
  | _, [] => []
  | .blanks, '/' :: '/' :: rest =>
      if isDocumentation '/' rest then '/' :: '/' :: rest else skipGap .lineComment rest
  | .blanks, '/' :: '*' :: rest =>
      if isDocumentation '*' rest then '/' :: '*' :: rest else skipGap (.comment 0) rest
  | .blanks, c :: rest => if isGap c then skipGap .blanks rest else c :: rest
  | .lineComment, c :: rest => skipGap (if c = '\n' then .blanks else .lineComment) rest
  | .comment depth, '/' :: '*' :: rest => skipGap (.comment (depth + 1)) rest
  | .comment 0, '*' :: '/' :: rest => skipGap .blanks rest
  | .comment (depth + 1), '*' :: '/' :: rest => skipGap (.comment depth) rest
  | .comment depth, _ :: rest => skipGap (.comment depth) rest

/-- What follows a literal, without the name attached to it. -/
def afterSuffix : List Char → List Char
  | [] => []
  | c :: rest =>
      if isSuffixPart c && !c.isDigit then rest.dropWhile isSuffixPart else c :: rest

/-- A source without the mark of its byte order. -/
def withoutOrderMark : List Char → List Char
  | '\ufeff' :: rest => rest
  | source => source

/-- The text that a source spells, if it is one text literal. -/
def textOfSource? (source : String) : Option String :=
  match literalOf? (skipGap .blanks (withoutOrderMark source.toList)) with
  | some (text, rest) =>
      if skipGap .blanks (afterSuffix rest) = [] then some (String.ofList text) else none
  | none => none

end Record
end QueryFilter
