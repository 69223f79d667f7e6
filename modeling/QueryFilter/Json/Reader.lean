import QueryFilter.Entries
import QueryFilter.Json.Numeral

/-!
Reading JSON text. Tokens are first put into an outline, which says how they nest; an outline
then has a value unless a string or a number in it stands for nothing.
-/

namespace QueryFilter
namespace Json

/-- A well-nested value whose strings and numbers are still spelled out. -/
inductive Outline where
  | null
  | bool (value : Bool)
  | string (body : List Char)
  | number (numeral : Numeral)
  | array (items : List Outline)
  | object (members : List (List Char × Outline))

/-- The tokens that follow a construct, fewer than the ones it was read from. -/
abbrev Rest (ts : List Token) := { rest : List Token // rest.length < ts.length }

mutual

def outlineOf? : (ts : List Token) → Option (Outline × Rest ts)
  | .null :: rest => some (.null, ⟨rest, Nat.lt_succ_self _⟩)
  | .bool value :: rest => some (.bool value, ⟨rest, Nat.lt_succ_self _⟩)
  | .string body :: rest => some (.string body, ⟨rest, Nat.lt_succ_self _⟩)
  | .number numeral :: rest => some (.number numeral, ⟨rest, Nat.lt_succ_self _⟩)
  | .openBracket :: .closeBracket :: rest =>
      some (.array [], ⟨rest, by simp only [List.length_cons]; omega⟩)
  | .openBracket :: rest =>
      (itemsOf? rest).map fun (items, ⟨after, h⟩) =>
        (.array items, ⟨after, by simp only [List.length_cons]; omega⟩)
  | .openBrace :: .closeBrace :: rest =>
      some (.object [], ⟨rest, by simp only [List.length_cons]; omega⟩)
  | .openBrace :: rest =>
      (membersOf? rest).map fun (members, ⟨after, h⟩) =>
        (.object members, ⟨after, by simp only [List.length_cons]; omega⟩)
  | _ => none
termination_by ts => 2 * ts.length
decreasing_by all_goals (simp only [List.length_cons]; omega)

/-- The items of an array up to its closing bracket, at least one. -/
def itemsOf? (ts : List Token) : Option (List Outline × Rest ts) :=
  match outlineOf? ts with
  | some (item, ⟨.closeBracket :: rest, h⟩) =>
      some ([item], ⟨rest, by simp only [List.length_cons] at h; omega⟩)
  | some (item, ⟨.comma :: rest, h⟩) =>
      have shorter : rest.length < ts.length := by simp only [List.length_cons] at h; omega
      (itemsOf? rest).map fun (items, ⟨after, h'⟩) => (item :: items, ⟨after, by omega⟩)
  | _ => none
termination_by 2 * ts.length + 1
decreasing_by all_goals omega

/-- The members of an object up to its closing brace, at least one. -/
def membersOf? (ts : List Token) : Option (List (List Char × Outline) × Rest ts) :=
  match ts with
  | .string key :: .colon :: valueTokens =>
      match outlineOf? valueTokens with
      | some (value, ⟨.closeBrace :: rest, h⟩) =>
          some ([(key, value)], ⟨rest, by simp only [List.length_cons] at h ⊢; omega⟩)
      | some (value, ⟨.comma :: rest, h⟩) =>
          have shorter : rest.length < valueTokens.length := by
            simp only [List.length_cons] at h; omega
          (membersOf? rest).map fun (members, ⟨after, h'⟩) =>
            ((key, value) :: members, ⟨after, by simp only [List.length_cons]; omega⟩)
      | _ => none
  | _ => none
termination_by 2 * ts.length + 1
decreasing_by all_goals (simp only [List.length_cons] at *; omega)

end

mutual

/-- The value of an outline. A repeated member keeps its place and takes the last value. -/
def Outline.toJson? : Outline → Option Json
  | .null => some .null
  | .bool value => some (.bool value)
  | .string body => (unescape? body).map fun text => .string (String.ofList text)
  | .number numeral => numeral.toJson?
  | .array items => (itemsToJson? items).map .array
  | .object members => (membersToJson? members).map fun ms => .object (Entries.ofList ms)

def itemsToJson? : List Outline → Option (List Json)
  | [] => some []
  | item :: rest => do pure ((← item.toJson?) :: (← itemsToJson? rest))

def membersToJson? : List (List Char × Outline) → Option (List (String × Json))
  | [] => some []
  | (key, value) :: rest => do
      pure ((String.ofList (← unescape? key), ← value.toJson?) :: (← membersToJson? rest))

end

/-- The value that a text spells, with nothing but blanks around it. -/
def ofText? (text : String) : Option Json :=
  match outlineOf? (tokens text.toList) with
  | some (outline, ⟨[], _⟩) => outline.toJson?
  | _ => none

end Json
end QueryFilter
