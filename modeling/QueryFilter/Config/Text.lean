import QueryFilter.Config.Basic
import QueryFilter.Json.Reader

/-!
Settings from JSON text. The text is read from its start and the first fault counts: a value
of the wrong kind is reported even if what follows it is no JSON.
-/

namespace QueryFilter
namespace Config

open Json (Token)

def Found.ofToken? : Token → Option Found
  | .null => some .null
  | .bool b => some (.bool b)
  | .number numeral => numeral.toJson?.map Found.ofJson
  | .string body => (Json.unescape? body).map fun text => .text (String.ofList text)
  | .openBracket => some .sequence
  | .openBrace => some .map
  | _ => none

def unescaped (body : List Char) : Except Fault String :=
  match Json.unescape? body with
  | some text => .ok (String.ofList text)
  | none => .error .notJson

/-- A fault at a token: no text, or no JSON. -/
def notTextAt (token : Token) : Fault :=
  match Found.ofToken? token with
  | some found => .notText found
  | none => .notJson

/-- The text at the start of the tokens. -/
def textAt : (ts : List Token) → Except Fault (String × Json.Rest ts)
  | .string body :: rest => do
      let text ← unescaped body
      pure (text, ⟨rest, by simp only [List.length_cons]; omega⟩)
  | token :: _ => .error (notTextAt token)
  | [] => .error .notJson

/-- The members of an object up to its closing brace. The flag tells whether a member has been
read before; a comma then has to come first. -/
def membersAt (started : Bool) (p : Partial) (ts : List Token) :
    Except Fault (Partial × List Token) :=
  match started, ts with
  | _, .closeBrace :: rest => .ok (p, rest)
  | true, .comma :: .string body :: rest
  | false, .string body :: rest => do
      let name ← unescaped body
      match Field.ofName? name with
      | none =>
          match rest with
          | .colon :: value =>
              match Json.outlineOf? value with
              | some (_, ⟨after, _⟩) => membersAt true p after
              | none => .error .notJson
          | _ => .error .notJson
      | some field =>
          if p.isKnown field then .error (.repeated field)
          else
            match rest with
            | .colon :: value => do
                let (text, ⟨after, _⟩) ← textAt value
                membersAt true (p.set text field) after
            | _ => .error .notJson
  | _, _ => .error .notJson
termination_by ts.length
decreasing_by all_goals (simp only [List.length_cons] at *; omega)

/-- The items of an array up to its closing bracket. -/
def itemsAt (ts : List Token) : Except Fault (Partial × List Token) :=
  match ts with
  | .closeBracket :: rest => .ok (.empty, rest)
  | _ => do
      let (idKey, ⟨afterKey, _⟩) ← textAt ts
      let p := Partial.empty.set idKey .idKey
      match afterKey with
      | .closeBracket :: rest => pure (p, rest)
      | .comma :: .closeBracket :: _ => .error .notJson
      | .comma :: second => do
          let (format, ⟨afterFormat, _⟩) ← textAt second
          match afterFormat with
          | .closeBracket :: rest => pure (p.set format .dateFormat, rest)
          | _ => .error .notJson
      | _ => .error .notJson

def ofText (text : String) : Except Fault Config := do
  let (p, rest) ←
    match Json.tokens text.toList with
    | .openBrace :: ts => membersAt false .empty ts
    | .openBracket :: ts => itemsAt ts
    | token :: _ =>
        match Found.ofToken? token with
        | some found => .error (.notSettings found)
        | none => .error .notJson
    | [] => .error .notJson
  if rest = [] then pure p.complete else .error .notJson

end Config
end QueryFilter
